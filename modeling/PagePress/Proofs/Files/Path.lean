import PagePress.Files.Path
import PagePress.Proofs.Joining
import PagePress.Proofs.Splitting

/-!
# Names in paths

A path that is seen from a directory has the names of the directory's path and then its own.
-/
namespace PagePress

namespace Path

/-- A name that stands for itself in a directory. -/
structure Plain (name : String) : Prop where
  filled : name ≠ ""
  stroke : '/' ∉ name.toList
  here : name ≠ "."
  up : name ≠ ".."

instance (name : String) : Decidable (Plain name) :=
  decidable_of_iff (name ≠ "" ∧ '/' ∉ name.toList ∧ name ≠ "." ∧ name ≠ "..")
    ⟨fun ⟨filled, stroke, here, up⟩ => ⟨filled, stroke, here, up⟩,
      fun ⟨filled, stroke, here, up⟩ => ⟨filled, stroke, here, up⟩⟩

variable {name : String}

@[simp] theorem names_empty : names "" = [] := by decide

theorem names_append (front back : String) :
    names (front ++ "/" ++ back) = names front ++ names back := by
  have split : (front ++ "/" ++ back).toList = front.toList ++ '/' :: back.toList := by
    simp [String.toList_append]
  simp only [names, pieces, split, Text.pieces_append, List.map_append, List.filter_append]

/-- A path without a stroke has no name but itself. -/
theorem names_of_strokeless (plain : '/' ∉ name.toList) :
    names name = [name].filter (!·.isEmpty) := by
  rw [names, pieces, Text.pieces_of_plain plain, List.map_singleton, String.ofList_toList]

theorem names_of_plain (plain : Plain name) : names name = [name] := by
  rw [names_of_strokeless plain.stroke, List.filter_cons_of_pos (by simpa using plain.filled)]
  rfl

theorem isAbsolute_of_plain (plain : Plain name) : isAbsolute name = false := by
  rw [isAbsolute, beq_eq_false_iff_ne]
  exact fun first => plain.stroke (List.mem_of_head? first)

/-- The three ways to see a name from a directory. -/
theorem join_cases (plain : Plain name) (directory : String) :
    directory = "" ∧ join directory name = name
    ∨ (∃ front, directory = front ++ "/" ∧ join directory name = front ++ "/" ++ name)
    ∨ directory ≠ "" ∧ join directory name = directory ++ "/" ++ name := by
  unfold join
  rw [isAbsolute_of_plain plain, Bool.false_or]
  by_cases empty : directory = ""
  · exact .inl ⟨empty, by rw [empty]; rfl⟩
  have filled : directory.isEmpty = false := by simpa using empty
  rw [filled]
  by_cases stroke : endsInStroke directory
  · obtain ⟨front, shape⟩ := List.getLast?_eq_some_iff.1 (beq_iff_eq.1 stroke)
    have whole : directory = String.ofList front ++ "/" := by
      apply String.toList_injective
      simp [String.toList_append, shape]
    refine .inr (.inl ⟨String.ofList front, whole, ?_⟩)
    rw [if_neg Bool.false_ne_true, if_pos stroke, ← whole]
  · exact .inr (.inr ⟨empty, by rw [if_neg Bool.false_ne_true, if_neg stroke]⟩)

theorem names_join (plain : Plain name) (directory : String) :
    names (join directory name) = names directory ++ [name] := by
  rcases join_cases plain directory with ⟨rfl, joined⟩ | ⟨front, rfl, joined⟩ | ⟨-, joined⟩
  · rw [joined, names_of_plain plain, names_empty, List.nil_append]
  · have own := names_append front ""
    rw [String.append_empty, names_empty, List.append_nil] at own
    rw [joined, names_append, names_of_plain plain, own]
  · rw [joined, names_append, names_of_plain plain]

theorem isAbsolute_join (plain : Plain name) (directory : String) :
    isAbsolute (join directory name) = isAbsolute directory := by
  have first : ∀ front back : String, front ≠ "" →
      isAbsolute (front ++ back) = isAbsolute front := by
    intro front back filled
    obtain ⟨c, rest, shape⟩ := List.exists_cons_of_ne_nil (mt String.toList_eq_nil_iff.1 filled)
    rw [isAbsolute, isAbsolute, String.toList_append, shape]
    rfl
  rcases join_cases plain directory with ⟨rfl, joined⟩ | ⟨front, rfl, joined⟩ | ⟨filled, joined⟩
  · rw [joined, isAbsolute_of_plain plain]
    rfl
  · rw [joined]
    exact first _ _ (by simp)
  · rw [joined, String.append_assoc]
    exact first _ _ filled

theorem not_endsInStroke_join (plain : Plain name) (directory : String) :
    endsInStroke (join directory name) = false := by
  have own : ∀ front : String, endsInStroke (front ++ name) = false := by
    intro front
    have filled : name.toList ≠ [] := mt String.toList_eq_nil_iff.1 plain.filled
    rw [endsInStroke, String.toList_append, List.getLast?_append,
      List.getLast?_eq_some_getLast filled, Option.some_or, beq_eq_false_iff_ne]
    exact fun last => plain.stroke (Option.some.inj last ▸ List.getLast_mem filled)
  rcases join_cases plain directory with ⟨-, joined⟩ | ⟨front, -, joined⟩ | ⟨-, joined⟩
  · rw [joined, ← String.empty_append (s := name)]
    exact own ""
  · rw [joined]
    exact own _
  · rw [joined]
    exact own _

theorem le_utf8ByteSize_join (plain : Plain name) (directory : String) :
    directory.utf8ByteSize + name.utf8ByteSize ≤ (join directory name).utf8ByteSize := by
  rcases join_cases plain directory with ⟨rfl, joined⟩ | ⟨front, rfl, joined⟩ | ⟨-, joined⟩ <;>
    rw [joined] <;> simp only [String.utf8ByteSize_append, String.utf8ByteSize_empty] <;> omega

/-! ### The directory of a path -/

/-- Whether a piece of a path leads somewhere. One point leads nowhere. -/
def leads (piece : String) : Bool := !piece.isEmpty && piece != "."

/-- The names in a path that lead somewhere. -/
def steps (path : String) : List String := (pieces path).filter leads

theorem filter_names (path : String) : (names path).filter leads = steps path := by
  rw [names, List.filter_filter]
  refine List.filter_congr fun piece _ => ?_
  cases filled : piece.isEmpty <;> simp [leads, filled]

theorem stroke_not_mem_pieces {path piece : String} (member : piece ∈ pieces path) :
    '/' ∉ piece.toList := by
  obtain ⟨cs, inside, rfl⟩ := List.mem_map.1 member
  rw [String.toList_ofList]
  exact Text.not_mem_of_mem_pieces inside

theorem names_intercalate {texts : List String} (plain : ∀ text ∈ texts, '/' ∉ text.toList) :
    names ("/".intercalate texts) = texts.filter (!·.isEmpty) := by
  induction texts with
  | nil => exact names_empty
  | cons first texts ih =>
    have own := names_of_strokeless (plain first List.mem_cons_self)
    cases texts with
    | nil => rw [String.intercalate_singleton, own]
    | cons second texts =>
      rw [String.intercalate_cons_cons, names_append, own,
        ih fun text member => plain text (List.mem_cons_of_mem _ member), ← List.filter_append]
      rfl

theorem dropIdle_suffix (relative : Bool) (texts : List String) :
    dropIdle relative texts <:+ texts := by
  induction texts with
  | nil => exact List.suffix_rfl
  | cons piece before ih =>
    rw [dropIdle]
    split
    · exact List.suffix_rfl
    · exact ih.trans (List.suffix_cons _ _)

/-- No piece that is left out leads anywhere. -/
theorem filter_dropIdle (relative : Bool) (texts : List String) :
    (dropIdle relative texts).filter leads = texts.filter leads := by
  induction texts with
  | nil => rfl
  | cons piece before ih =>
    rw [dropIdle]
    split
    · rfl
    next idle =>
      have nowhere : ¬ leads piece = true := by
        intro leads
        refine idle ?_
        simp only [Path.leads, isStep, Bool.and_eq_true, Bool.or_eq_true] at leads ⊢
        exact ⟨leads.1, .inr leads.2⟩
      rw [ih, List.filter_cons_of_neg nowhere]

/-- The last piece that is kept leads somewhere, or else none of them does. -/
theorem leads_of_dropIdle {relative : Bool} {texts before : List String} {last : String}
    (kept : dropIdle relative texts = last :: before) (some : texts.filter leads ≠ []) :
    leads last := by
  induction texts with
  | nil => cases kept
  | cons piece rest ih =>
    rw [dropIdle] at kept
    split at kept
    next step =>
      obtain ⟨rfl, rfl⟩ := List.cons.inj kept
      rw [isStep, Bool.and_eq_true, Bool.or_eq_true, Bool.and_eq_true] at step
      obtain ⟨filled, ⟨-, alone⟩ | named⟩ := step
      · obtain ⟨other, member⟩ := List.exists_mem_of_ne_nil _ some
        rw [List.isEmpty_iff.1 alone, List.mem_filter, List.mem_singleton] at member
        exact member.1 ▸ member.2
      · rw [leads, filled, named]
        rfl
    next idle =>
      refine ih kept fun none => some ?_
      rw [← none, ← filter_dropIdle relative (piece :: rest), dropIdle, if_neg idle,
        filter_dropIdle]

/-- The pieces of a path that are looked at for its parent. -/
def body (path : String) : List String :=
  if isAbsolute path then (pieces path).drop 1 else pieces path

theorem pieces_of_absolute {path : String} (absolute : isAbsolute path = true) :
    pieces path = "" :: body path := by
  obtain ⟨rest, shape⟩ := List.head?_eq_some_iff.1 (beq_iff_eq.1 absolute)
  have split : Text.pieces '/' path.toList = [] :: Text.pieces '/' rest := by
    rw [shape, Text.pieces, if_pos (beq_self_eq_true _)]
  rw [body, if_pos absolute, pieces, split]
  rfl

theorem filter_body (path : String) : (body path).filter leads = steps path := by
  by_cases absolute : isAbsolute path
  · rw [steps, pieces_of_absolute absolute, List.filter_cons_of_neg (by decide)]
  · rw [body, if_neg absolute, steps]

/-- The parent of a path that leads somewhere has all its steps but the last. -/
theorem parent?_of_steps {path : String} (some : steps path ≠ []) :
    ∃ kept, kept <+: body path ∧ kept.filter leads = (steps path).dropLast ∧
      parent? path = .some (if isAbsolute path then "/" ++ "/".intercalate kept
        else "/".intercalate kept) := by
  have back : (body path).reverse.filter leads = (steps path).reverse := by
    rw [List.filter_reverse, filter_body]
  cases shape : dropIdle (!isAbsolute path) (body path).reverse with
  | nil =>
    refine absurd ?_ some
    rw [← List.reverse_eq_nil_iff, ← back, ← filter_dropIdle, shape]
    rfl
  | cons last before =>
    have own : leads last := leads_of_dropIdle shape (by simpa [back] using some)
    refine ⟨(dropIdle (!isAbsolute path) before).reverse, ?_, ?_, ?_⟩
    · rw [← List.reverse_suffix, List.reverse_reverse]
      refine (dropIdle_suffix _ _).trans ((List.suffix_cons last before).trans ?_)
      exact shape ▸ dropIdle_suffix _ _
    · rw [List.filter_reverse, filter_dropIdle, ← List.reverse_inj, List.reverse_reverse,
        ← List.tail_reverse, ← back, ← filter_dropIdle (!isAbsolute path) (body path).reverse,
        shape, List.filter_cons_of_pos own]
      rfl
    · unfold parent?
      simp only [← body.eq_1, shape]

theorem steps_stroke (path : String) : steps ("/" ++ path) = steps path := by
  have split := names_append "" path
  rw [String.empty_append, names_empty, List.nil_append] at split
  rw [← filter_names, split, filter_names]

/-- A relative path that leads somewhere begins with a name. -/
theorem filled_of_relative {path first : String} {more : List String}
    (relative : isAbsolute path = false) (some : steps path ≠ [])
    (shape : pieces path = first :: more) : first ≠ "" := by
  rintro rfl
  rw [pieces] at shape
  cases text : path.toList with
  | nil =>
    refine some ?_
    rw [steps, pieces, text]
    decide
  | cons c rest =>
    have other : (c == '/') = false := by
      rw [isAbsolute, text, beq_eq_false_iff_ne] at relative
      exact beq_false_of_ne fun same => relative (same ▸ rfl)
    obtain ⟨piece, later, behind⟩ := List.exists_cons_of_ne_nil (Text.pieces_ne_nil '/' rest)
    simp [text, Text.pieces, other, behind] at shape

theorem not_isAbsolute_intercalate {path : String} (relative : isAbsolute path = false)
    (some : steps path ≠ []) {kept : List String} (front : kept <+: body path) :
    isAbsolute ("/".intercalate kept) = false := by
  obtain ⟨back, front⟩ := front
  rw [body, if_neg (by simp [relative])] at front
  cases kept with
  | nil => decide
  | cons first kept =>
    have filled := filled_of_relative relative some front.symm
    have member : first ∈ pieces path := by rw [← front]; exact List.mem_cons_self
    have plain : '/' ∉ first.toList := stroke_not_mem_pieces member
    obtain ⟨c, rest, text⟩ := List.exists_cons_of_ne_nil (mt String.toList_eq_nil_iff.1 filled)
    obtain ⟨more, whole⟩ :=
      Text.prefix_intercalate "/".toList first.toList (kept.map String.toList)
    rw [isAbsolute, String.toList_intercalate, List.map_cons, ← whole, text, beq_eq_false_iff_ne]
    rintro ⟨⟩
    exact plain (text ▸ List.mem_cons_self)

theorem directory_of_steps {path : String} (some : steps path ≠ []) :
    steps (directory path) = (steps path).dropLast ∧
      isAbsolute (directory path) = isAbsolute path := by
  obtain ⟨kept, front, leading, parent⟩ := parent?_of_steps some
  have plain : ∀ piece ∈ kept, '/' ∉ piece.toList := by
    intro piece member
    have inside := front.subset member
    unfold body at inside
    split at inside
    · exact stroke_not_mem_pieces (List.mem_of_mem_drop inside)
    · exact stroke_not_mem_pieces inside
  have same : steps ("/".intercalate kept) = (steps path).dropLast := by
    rw [← filter_names, names_intercalate plain, ← leading, List.filter_filter]
    refine List.filter_congr fun piece _ => ?_
    cases filled : piece.isEmpty <;> simp [leads, filled]
  unfold directory
  rw [parent]
  cases absolute : isAbsolute path with
  | true =>
    simp only [if_true]
    rw [if_neg (by simp), steps_stroke, same]
    exact ⟨rfl, by simp [isAbsolute, String.toList_append]⟩
  | false =>
    simp only [Bool.false_eq_true, if_false]
    split
    next empty =>
      rw [String.isEmpty_iff.1 empty] at same
      exact ⟨same, by decide⟩
    · exact ⟨same, not_isAbsolute_intercalate absolute some front⟩

/-- A path without steps is one of points. -/
theorem eq_point_of_steps {path : String} (none : steps path = []) (member : name ∈ names path) :
    name = "." := by
  have idle := List.filter_eq_nil_iff.1 ((filter_names path).trans none) name member
  have filled : name.isEmpty = false := by simpa using (List.mem_filter.1 member).2
  simpa [leads, filled] using idle

theorem eq_of_withParents {path first : String} {parents : List String}
    (shape : withParents path = first :: parents) : first = path := by
  unfold withParents withParents.go at shape
  split at shape
  · cases shape
  · exact (List.cons.inj shape).1.symm

theorem steps_of_withParents {path : String} (none : withParents path = []) : steps path = [] := by
  by_contra some
  obtain ⟨kept, -, -, parent⟩ := parent?_of_steps some
  simp only [withParents, withParents.go, parent] at none
  cases none

end Path

end PagePress
