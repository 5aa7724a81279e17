import PagePress.Proofs.Joining
import PagePress.Proofs.LowerCase
import PagePress.Slug

/-!
# The shape of identifiers

The identifier of a text is made of its words, the maximal runs of letters and digits: they are put
into lower case and joined by hyphens. Lower-casing a word leaves a word in lower case, so that an
identifier is its own identifier. The capital I with a dot above breaks the rule: its lower case
brings in a dot that is neither a letter nor a digit, and that goes when the identifier is made into
one again.
-/
namespace PagePress.Slug

open Text (isAlphanumeric lowerCase)

/-- The maximal runs of letters and digits. -/
def words (cs : List Char) : List (List Char) := Text.runs isAlphanumeric cs

/-- Words in lower case, joined by hyphens. -/
def join (words : List (List Char)) : List Char :=
  ['-'].intercalate (words.map (·.flatMap lowerCase))

variable {cs w : List Char} {c : Char}

theorem lowerCase_ne_nil (letter : isAlphanumeric c = true) : lowerCase c ≠ [] := by
  by_cases dotted : c = '\u0130'
  · rw [dotted, Text.lowerCase_dottedCapital]
    exact List.cons_ne_nil _ _
  · obtain ⟨d, lower, -, -⟩ := Text.lowerCase_letter letter dotted
    rw [lower]
    exact List.cons_ne_nil _ _

theorem lowered_ne_nil (member : w ∈ words cs) : w.flatMap lowerCase ≠ [] := by
  obtain ⟨filled, letters⟩ := Text.mem_runs member
  obtain ⟨c, rest, rfl⟩ := List.exists_cons_of_ne_nil filled
  rw [List.flatMap_cons]
  exact List.append_ne_nil_of_left_ne_nil
    (lowerCase_ne_nil (letters c List.mem_cons_self).1) _

/-! ### The builder joins words -/

namespace Builder

/-- What has been put out so far, as a list of pieces to be joined. -/
def pieces (b : Builder) : List (List Char) := if b.out = [] then [] else [b.out.reverse]

theorem foldl_letters (out : List Char) {run : List Char}
    (letters : ∀ c ∈ run, isAlphanumeric c = true) :
    run.foldl add ⟨out, false⟩ = ⟨(run.flatMap lowerCase).reverse ++ out, false⟩ := by
  induction run generalizing out with
  | nil => rfl
  | cons c run ih =>
    rw [List.foldl_cons, add, if_pos (letters c List.mem_cons_self)]
    refine (ih _ fun d member => letters d (List.mem_cons_of_mem _ member)).trans ?_
    simp

/-- A builder that is not inside a word goes on with the words that come. -/
theorem foldl_add (b : Builder) (cs : List Char)
    (edge : b.out = [] ∨ b.gap = true ∨ ∀ c ∈ cs.head?, isAlphanumeric c = false) :
    (cs.foldl add b).out.reverse =
      ['-'].intercalate (b.pieces ++ (words cs).map (·.flatMap lowerCase)) := by
  unfold words
  fun_induction Text.runs isAlphanumeric cs generalizing b with
  | case1 =>
    unfold pieces
    split <;> simp [*]
  | case2 c rest letter ih =>
    let run := rest.takeWhile isAlphanumeric
    let behind := rest.dropWhile isAlphanumeric
    let start := if b.gap && !b.out.isEmpty then '-' :: b.out else b.out
    let word := (c :: run).flatMap lowerCase
    have filled : word ≠ [] := List.append_ne_nil_of_left_ne_nil (lowerCase_ne_nil letter) _
    have read : (c :: rest).foldl add b = behind.foldl add ⟨word.reverse ++ start, false⟩ := by
      have letters : ∀ d ∈ run, isAlphanumeric d = true := fun d => List.mem_takeWhile_imp
      rw [← List.takeWhile_append_dropWhile (p := isAlphanumeric) (l := rest), List.foldl_cons, add,
        if_pos letter, List.foldl_append, foldl_letters _ letters]
      simp [word, start, behind, run]
    have after : ∀ d ∈ behind.head?, isAlphanumeric d = false := by
      intro d first
      have ends := List.head?_dropWhile_not isAlphanumeric rest
      rwa [show (rest.dropWhile isAlphanumeric).head? = some d from first] at ends
    have pieces : (⟨word.reverse ++ start, false⟩ : Builder).pieces = [start.reverse ++ word] := by
      rw [Builder.pieces, if_neg (by simp [filled])]
      simp
    rw [read, ih _ (.inr (.inr after)), pieces]
    -- A hyphen has been put out if and only if there was something before.
    by_cases fresh : b.out = []
    · have start : start = [] := by simp [start, fresh]
      rw [start, Builder.pieces, if_pos fresh]
      rfl
    · have gap : b.gap = true := by
        rcases edge with fresh' | gap | other
        · exact absurd fresh' fresh
        · exact gap
        · exact absurd letter (by simp [other c rfl])
      have start : start = '-' :: b.out := by simp [start, fresh, gap]
      rw [start, Builder.pieces, if_neg fresh, List.reverse_cons, List.map_cons,
        List.singleton_append, List.singleton_append, List.intercalate_cons_cons]
      exact Text.intercalate_append_cons _ _ _ _
  | case3 c rest other ih =>
    rw [List.foldl_cons, add, if_neg other]
    exact ih _ (.inr (.inl rfl))

end Builder

theorem join_ne_nil (some : words cs ≠ []) : join (words cs) ≠ [] := by
  obtain ⟨first, rest, shape⟩ := List.exists_cons_of_ne_nil some
  obtain ⟨c, piece, filled⟩ := List.exists_cons_of_ne_nil
    (lowered_ne_nil (shape ▸ List.mem_cons_self : first ∈ words cs))
  have inside : c ∈ join (words cs) := by
    refine Text.mem_intercalate (List.mem_map.2 ⟨first, shape ▸ List.mem_cons_self, rfl⟩) ?_
    rw [filled]
    exact List.mem_cons_self
  exact List.ne_nil_of_mem inside

/-- The identifier of a text: its words in lower case, joined by hyphens. -/
theorem ofText_eq (text : String) :
    ofText text =
      if words text.toList = [] then empty else String.ofList (join (words text.toList)) := by
  have built : (text.toList.foldl Builder.add {}).out.reverse = join (words text.toList) :=
    Builder.foldl_add {} text.toList (.inl rfl)
  rw [ofText, built]
  split
  next nothing =>
    rw [List.isEmpty_iff.1 nothing] at built
    rw [if_pos (Classical.not_not.1 fun some => join_ne_nil some built.symm)]
  next something =>
    rw [if_neg fun none => something ?_]
    rw [none] at built
    exact List.isEmpty_iff.2 (List.reverse_eq_nil_iff.1 built)

/-! ### Identifiers are canonical -/

/-- What the characters of words become: letters and digits in lower case, but for the capital I
with a dot above. -/
theorem mem_lowered {d : Char} (member : w ∈ words cs) (inside : d ∈ w.flatMap lowerCase) :
    isAlphanumeric d = true ∧ lowerCase d = [d] ∨ d = '\u0307' ∧ '\u0130' ∈ cs := by
  obtain ⟨c, own, lower⟩ := List.mem_flatMap.1 inside
  obtain ⟨letter, origin⟩ := (Text.mem_runs member).2 c own
  by_cases dotted : c = '\u0130'
  · subst dotted
    rw [Text.lowerCase_dottedCapital] at lower
    rcases List.mem_cons.1 lower with rfl | lower
    · exact .inl (by decide +kernel)
    · exact .inr ⟨List.mem_singleton.1 lower, origin⟩
  · obtain ⟨e, single, letter', same⟩ := Text.lowerCase_letter letter dotted
    rw [single] at lower
    rw [List.mem_singleton.1 lower]
    exact .inl ⟨letter', same⟩

theorem flatMap_lowerCase_eq (same : ∀ c ∈ w, lowerCase c = [c]) : w.flatMap lowerCase = w := by
  induction w with
  | nil => rfl
  | cons c w ih =>
    rw [List.flatMap_cons, same c List.mem_cons_self,
      ih fun d inside => same d (List.mem_cons_of_mem _ inside)]
    rfl

theorem toList_ofText (text : String) :
    (ofText text).toList =
      if words text.toList = [] then empty.toList else join (words text.toList) := by
  rw [ofText_eq]
  split
  next => rfl
  next => exact String.toList_ofList

theorem tidy_ofText (text : String) : Text.Tidy '-' (ofText text).toList := by
  rw [toList_ofText]
  split
  next => exact .of_plain (by decide) (by decide)
  next some =>
    refine .intercalate (mt List.map_eq_nil_iff.1 some) fun piece listed => ?_
    obtain ⟨w, member, rfl⟩ := List.mem_map.1 listed
    refine ⟨lowered_ne_nil member, fun hyphen => ?_⟩
    rcases mem_lowered member hyphen with ⟨letter, -⟩ | ⟨dot, -⟩
    · rw [Text.not_isAlphanumeric_hyphen] at letter
      cases letter
    · exact absurd dot (by decide)

theorem mem_ofText {text : String} (inside : c ∈ (ofText text).toList) :
    c = '-' ∨ isAlphanumeric c = true ∧ lowerCase c = [c] ∨
      c = '\u0307' ∧ '\u0130' ∈ text.toList := by
  rw [toList_ofText] at inside
  split at inside
  next =>
    have letters : empty.toList.all (fun c => isAlphanumeric c && lowerCase c == [c]) = true := by
      decide +kernel
    have letter := List.all_eq_true.1 letters c inside
    simp only [Bool.and_eq_true, beq_iff_eq] at letter
    exact .inr (.inl letter)
  next =>
    rcases Text.mem_of_mem_intercalate inside with hyphen | ⟨piece, listed, found⟩
    · exact .inl (List.mem_singleton.1 hyphen)
    · obtain ⟨w, member, rfl⟩ := List.mem_map.1 listed
      exact .inr (mem_lowered member found)

theorem ofText_empty : ofText empty = empty := by decide +kernel

/-- Without the dotted capital, an identifier is its own identifier. -/
theorem ofText_ofText {text : String} (undotted : '\u0130' ∉ text.toList) :
    ofText (ofText text) = ofText text := by
  rw [ofText_eq text]
  split
  next => exact ofText_empty
  next some =>
    have lowered : ∀ piece ∈ (words text.toList).map (·.flatMap lowerCase), piece ≠ [] ∧
        ∀ c ∈ piece, isAlphanumeric c = true ∧ lowerCase c = [c] := by
      intro piece listed
      obtain ⟨w, member, rfl⟩ := List.mem_map.1 listed
      exact ⟨lowered_ne_nil member, fun c inside =>
        (mem_lowered member inside).resolve_right fun dot => undotted dot.2⟩
    have found : words (join (words text.toList)) = (words text.toList).map (·.flatMap lowerCase) :=
      Text.runs_intercalate Text.not_isAlphanumeric_hyphen fun piece listed =>
        ⟨(lowered piece listed).1, fun c inside => ((lowered piece listed).2 c inside).1⟩
    have settled : join (words (join (words text.toList))) = join (words text.toList) := by
      rw [found, join, join, List.map_map]
      congr 1
      refine List.map_congr_left fun w member => ?_
      refine flatMap_lowerCase_eq fun c inside => ?_
      exact ((lowered _ (List.mem_map.2 ⟨w, member, rfl⟩)).2 c inside).2
    have some' : words (join (words text.toList)) ≠ [] := by
      rw [found]
      exact mt List.map_eq_nil_iff.1 some
    rw [ofText_eq, String.toList_ofList, if_neg some', settled]

theorem isAlphanumeric_dottedCapital : isAlphanumeric '\u0130' = true := by decide +kernel

/-- The dotted capital brings its dot into the identifier. -/
theorem dot_mem_ofText {text : String} (dotted : '\u0130' ∈ text.toList) :
    '\u0307' ∈ (ofText text).toList := by
  obtain ⟨w, member, inside⟩ : ∃ w ∈ words text.toList, '\u0130' ∈ w :=
    Text.mem_run_of_mem dotted isAlphanumeric_dottedCapital
  rw [toList_ofText, if_neg (List.ne_nil_of_mem member)]
  refine Text.mem_intercalate (List.mem_map.2 ⟨w, member, rfl⟩) ?_
  refine List.mem_flatMap.2 ⟨_, inside, ?_⟩
  rw [Text.lowerCase_dottedCapital]
  exact List.mem_cons_of_mem _ List.mem_cons_self

/-- No identifier has the dotted capital. -/
theorem dotted_not_mem_ofText (text : String) : '\u0130' ∉ (ofText text).toList := by
  intro inside
  rcases mem_ofText inside with hyphen | ⟨-, same⟩ | ⟨dot, -⟩
  · exact absurd hyphen (by decide)
  · rw [Text.lowerCase_dottedCapital] at same
    exact absurd same (by decide)
  · exact absurd dot (by decide)

/-- An identifier is not empty, no hyphen begins or ends it or follows another one, and apart from
hyphens it is made of letters and digits and of the dots that capital letters I with a dot above
leave behind. It is made of hyphens, letters and digits only, and is its own identifier, exactly if
the text has no such capital; and the identifier of an identifier always is its own. -/
theorem ofText_canonical_exact (text : String) :
    let slug := ofText text
    (slug ≠ "" ∧ slug.toList.head? ≠ some '-' ∧ slug.toList.getLast? ≠ some '-' ∧
      ¬ ['-', '-'] <:+: slug.toList) ∧
    (∀ c ∈ slug.toList, c = '-' ∨ isAlphanumeric c = true ∨ c = '\u0307' ∧ '\u0130' ∈ text.toList) ∧
    ((∀ c ∈ slug.toList, c = '-' ∨ isAlphanumeric c = true) ↔ '\u0130' ∉ text.toList) ∧
    (ofText slug = slug ↔ '\u0130' ∉ text.toList) ∧
    ofText (ofText slug) = ofText slug := by
  intro slug
  have tidy := tidy_ofText text
  have dotless : ∀ c ∈ (ofText slug).toList, c ≠ '\u0307' := by
    rintro c inside rfl
    rcases mem_ofText inside with hyphen | ⟨letter, -⟩ | ⟨-, dotted⟩
    · exact absurd hyphen (by decide)
    · rw [Text.not_isAlphanumeric_dot] at letter
      cases letter
    · exact dotted_not_mem_ofText text dotted
  refine ⟨⟨mt String.toList_eq_nil_iff.2 tidy.filled, tidy.begins, tidy.ends, tidy.apart⟩,
    fun c inside => (mem_ofText inside).imp_right (.imp_left And.left), ⟨?_, ?_⟩,
    ⟨?_, ofText_ofText⟩, ofText_ofText (dotted_not_mem_ofText text)⟩
  · intro plain dotted
    rcases plain _ (dot_mem_ofText dotted) with hyphen | letter
    · exact absurd hyphen (by decide)
    · rw [Text.not_isAlphanumeric_dot] at letter
      cases letter
  · intro undotted c inside
    exact (mem_ofText inside).imp_right fun shape =>
      (shape.resolve_right fun dot => undotted dot.2).1
  · intro same dotted
    exact dotless _ (same.symm ▸ dot_mem_ofText dotted) rfl

/-- The identifier of the dotted capital has a character that is neither a hyphen nor a letter or
digit, and the identifier of this identifier is another. -/
theorem dottedCapital_not_canonical :
    let slug := ofText "\u0130"
    slug = "i\u0307" ∧ ¬ (∀ c ∈ slug.toList, c = '-' ∨ isAlphanumeric c = true) ∧
    ofText slug = "i" ∧ ofText slug ≠ slug := by
  have plain : isAlphanumeric 'i' = true ∧ lowerCase 'i' = ['i'] := by decide +kernel
  have slug : ofText "\u0130" = "i\u0307" := by
    simp [ofText, Builder.add, isAlphanumeric_dottedCapital, Text.lowerCase_dottedCapital]
  have again : ofText "i\u0307" = "i" := by
    simp [ofText, Builder.add, plain, Text.not_isAlphanumeric_dot]
  rw [slug]
  dsimp only
  rw [again]
  refine ⟨rfl, fun canonical => ?_, rfl, by decide⟩
  rcases canonical '\u0307' (by decide) with hyphen | letter
  · exact absurd hyphen (by decide)
  · rw [Text.not_isAlphanumeric_dot] at letter
    cases letter

end PagePress.Slug
