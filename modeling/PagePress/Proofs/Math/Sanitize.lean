import Mathlib.Data.List.TakeWhile
import PagePress.Proofs.Enclosed
import PagePress.Proofs.Joining
import PagePress.Proofs.Math.CharacterData
import PagePress.Proofs.Partial

/-!
# Checked MathML

What comes out of the check is read as tags and the text between them. The text is inert, token
elements hold nothing but text, and the text unescaped between the tags is the MathML that went in,
misspelled tags corrected. All of this goes by `Scanned`, which says in what pieces the check goes
through MathML and what it makes of them.
-/
namespace PagePress.Math

namespace Sanitize

/-! ### How MathML is scanned -/

/-- A tag, given without its marks, opens a token element: it has the name of one up to its first
space and does not close itself. -/
def OpensToken (tag : List Char) (name : String) : Prop :=
  name ∈ tokenElements ∧ tag.takeWhile (· != ' ') = name.toList ∧ tag.getLast? ≠ some '/'

/-- A tag with its marks. -/
def marked (tag : List Char) : List Char := '<' :: tag ++ ['>']

/-- The closing tag of an element, without its marks. -/
def closingTag (name : String) : List Char := '/' :: name.toList

/-- How MathML is scanned, and what comes of it as tags and text: tags stay, text is escaped, and the
content of a token element is text up to its own closing tag. -/
inductive Scanned : List Char → Enclosed → Prop
  | text {text : List Char} (plain : '<' ∉ text) : Scanned text ⟨[], escape text⟩
  | tag {text tag rest : List Char} {e : Enclosed} (plain : '<' ∉ text) (closed : '>' ∉ tag)
      (other : tokenElement? (marked tag) = none) (later : Scanned rest e) :
      Scanned (text ++ '<' :: (tag ++ '>' :: rest)) (e.cons (escape text) tag)
  | token {text tag content rest : List Char} {name : String} {e : Enclosed} (plain : '<' ∉ text)
      (closed : '>' ∉ tag) (opens : tokenElement? (marked tag) = some name)
      (later : Scanned rest e) :
      Scanned (text ++ '<' :: (tag ++ '>' ::
          (content ++ '<' :: (closingTag name ++ '>' :: rest))))
        ((e.cons (escape content) (closingTag name)).cons (escape text) tag)

variable {cs text rest tag content : List Char} {name : String} {e : Enclosed}

theorem takeWhile_mark {mark : Char} (none : mark ∉ text) (rest : List Char) :
    (text ++ mark :: rest).takeWhile (· != mark) = text := by
  have others : ∀ c ∈ text, (c != mark) = true :=
    fun c member => bne_iff_ne.2 fun same => none (same ▸ member)
  rw [List.takeWhile_append_of_pos others, List.takeWhile_cons_of_neg (by simp), List.append_nil]

theorem dropWhile_mark {mark : Char} (none : mark ∉ text) (rest : List Char) :
    (text ++ mark :: rest).dropWhile (· != mark) = mark :: rest := by
  have others : ∀ c ∈ text, (c != mark) = true :=
    fun c member => bne_iff_ne.2 fun same => none (same ▸ member)
  rw [List.dropWhile_append_of_pos others, List.dropWhile_cons_of_neg (by simp)]

theorem scan_text (plain : '<' ∉ text) (n : Nat) : scan (n + 1) text = .ok (escape text) := by
  have others : ∀ c ∈ text, (c != '<') = true :=
    fun c member => bne_iff_ne.2 fun same => plain (same ▸ member)
  simp only [scan, List.takeWhile_eq_self_iff.2 others, List.dropWhile_eq_nil_iff.2 others]

theorem scan_unterminated (plain : '<' ∉ text) (unclosed : '>' ∉ rest) (n : Nat) :
    scan (n + 1) (text ++ '<' :: rest) = .error .unterminatedTag := by
  have none : ('<' :: rest).contains '>' = false := by simpa using unclosed
  simp only [scan, dropWhile_mark plain, none, Bool.not_false, if_true]

/-- What a scan does at its first tag. -/
theorem scan_tag (plain : '<' ∉ text) (closed : '>' ∉ tag) (n : Nat) (rest : List Char) :
    scan (n + 1) (text ++ '<' :: (tag ++ '>' :: rest)) =
      match tokenElement? (marked tag) with
      | none => (scan n rest).map (escape text ++ marked tag ++ ·)
      | some name =>
        let content := before "</".toList rest
        if ("</" ++ name ++ ">").toList.isPrefixOf (rest.drop content.length) then
          (scan n (rest.drop content.length)).map (escape text ++ marked tag ++ escape content ++ ·)
        else .error (.unclosed name) := by
  have some : ('<' :: (tag ++ '>' :: rest)).contains '>' = true := by simp
  have within : '>' ∉ '<' :: tag := by simpa using closed
  have taken : ('<' :: (tag ++ '>' :: rest)).takeWhile (· != '>') = '<' :: tag :=
    takeWhile_mark within rest
  have dropped : ('<' :: (tag ++ '>' :: rest)).dropWhile (· != '>') = '>' :: rest :=
    dropWhile_mark within rest
  simp only [scan, takeWhile_mark plain, dropWhile_mark plain, some, taken, dropped,
    Bool.not_true, Bool.false_eq_true, if_false, List.drop_succ_cons, List.drop_zero]
  rfl

theorem before_append_drop (word cs : List Char) :
    before word cs ++ cs.drop (before word cs).length = cs := by
  induction cs with
  | nil => rfl
  | cons c rest ih =>
    unfold before
    split
    · rfl
    · exact congrArg (c :: ·) ih

theorem tokenElement?_mem (h : tokenElement? tag = some name) : name ∈ tokenElements := by
  unfold tokenElement? at h
  split at h
  · cases h
  · exact List.mem_of_find?_eq_some h

/-- The name of a tag ends at its first space or where the tag ends. -/
theorem takeWhile_marked (closed : '>' ∉ tag) :
    ((marked tag).drop 1).takeWhile (fun c => c != ' ' && c != '>') =
      tag.takeWhile (· != ' ') := by
  rw [marked, List.cons_append, List.drop_succ_cons, List.drop_zero]
  induction tag with
  | nil => rfl
  | cons c tag ih =>
    have other : c ≠ '>' := (List.ne_of_not_mem_cons closed).symm
    rw [List.cons_append, List.takeWhile_cons, List.takeWhile_cons,
      ih (List.not_mem_of_not_mem_cons closed)]
    simp [other]

theorem tokenElement?_of_opens (closed : '>' ∉ tag) (opens : OpensToken tag name) :
    tokenElement? (marked tag) = some name := by
  obtain ⟨member, named, stays⟩ := opens
  have other : ∀ named ∈ tokenElements, named.toList.head? ≠ some '/' := by decide
  have opening : ¬ "</".toList.isPrefixOf (marked tag) = true := by
    rw [List.isPrefixOf_iff_prefix]
    rintro ⟨rest, same⟩
    obtain ⟨-, same⟩ := List.cons.inj same
    cases tag with
    | nil => cases same
    | cons c tag =>
      obtain ⟨rfl, -⟩ := List.cons.inj same
      exact other name member (by rw [← named]; rfl)
  have selfClosing : ¬ "/>".toList.isSuffixOf (marked tag) = true := by
    rw [List.isSuffixOf_iff_suffix]
    intro ends
    have slash : ['/'] <:+ '<' :: tag := ((List.suffix_append_inj_of_length_eq rfl).1 ends).1
    rcases List.suffix_cons_iff.1 slash with same | ⟨before, rfl⟩
    · cases same
    · exact stays (by simp)
  have found : tokenElements.find? (· == name) = some name := by
    cases found : tokenElements.find? (· == name) with
    | none => exact absurd (List.find?_eq_none.1 found name member) (by simp)
    | some first =>
      have same : (first == name) = true := List.find?_some (p := (· == name)) found
      rw [beq_iff_eq.1 same]
  unfold tokenElement?
  rw [if_neg (by rw [Bool.or_eq_true]; exact fun either => either.elim opening selfClosing),
    takeWhile_marked closed, named, String.ofList_toList]
  exact found

theorem closes_of_isPrefixOf {rest : List Char}
    (closes : ("</" ++ name ++ ">").toList.isPrefixOf rest = true) :
    ∃ behind, rest = '<' :: (closingTag name ++ '>' :: behind) := by
  obtain ⟨behind, rfl⟩ := List.isPrefixOf_iff_prefix.1 closes
  exact ⟨behind, by simp [closingTag, String.toList_append]⟩

theorem closingTag_closed (member : name ∈ tokenElements) : '>' ∉ closingTag name := by
  revert name
  decide

theorem tokenElement?_closingTag (name : String) :
    tokenElement? (marked (closingTag name)) = none := by
  unfold tokenElement?
  rw [if_pos]
  rfl

theorem scan_closingTag (member : name ∈ tokenElements) (n : Nat) (rest : List Char) :
    scan (n + 1) ('<' :: (closingTag name ++ '>' :: rest)) =
      (scan n rest).map (marked (closingTag name) ++ ·) := by
  have none : '<' ∉ ([] : List Char) := by simp
  have step := scan_tag none (closingTag_closed member) n rest
  rwa [tokenElement?_closingTag] at step

/-- Every scan that comes to an end has gone through the MathML in this way. -/
theorem scanned_of_scan {n : Nat} {out : List Char} (enough : cs.length < n)
    (done : scan n cs = .ok out) : ∃ e, Scanned cs e ∧ e.write '<' '>' = out := by
  induction n using Nat.strongRecOn generalizing cs out with
  | ind n ih =>
    cases n with
    | zero => exact absurd enough (Nat.not_lt_zero _)
    | succ n =>
      by_cases opening : '<' ∈ cs
      · obtain ⟨text, behind, rfl, plain⟩ := List.eq_append_cons_of_mem opening
        by_cases closing : '>' ∈ behind
        · obtain ⟨tag, rest, rfl, closed⟩ := List.eq_append_cons_of_mem closing
          simp only [List.length_append, List.length_cons] at enough
          rw [scan_tag plain closed] at done
          cases opens : tokenElement? (marked tag) with
          | none =>
            rw [opens] at done
            obtain ⟨tail, later, rfl⟩ := of_map_eq_ok done
            obtain ⟨e, scanned, rfl⟩ := ih n (Nat.lt_succ_self n) (by omega) later
            exact ⟨_, .tag plain closed opens scanned, by simp [marked]⟩
          | some name =>
            rw [opens] at done
            dsimp only at done
            split at done
            next closes =>
              obtain ⟨after, ends⟩ := closes_of_isPrefixOf closes
              have whole := before_append_drop "</".toList rest
              generalize before "</".toList rest = content at *
              rw [ends] at whole done
              subst whole
              simp only [List.length_append, List.length_cons] at enough
              -- The closing tag takes a step of its own.
              obtain ⟨n, rfl⟩ : ∃ k, n = k + 1 := ⟨n - 1, by omega⟩
              rw [scan_closingTag (tokenElement?_mem opens)] at done
              obtain ⟨_, passed, rfl⟩ := of_map_eq_ok done
              obtain ⟨tail, later, rfl⟩ := of_map_eq_ok passed
              obtain ⟨e, scanned, rfl⟩ := ih n (by omega) (by omega) later
              exact ⟨_, .token plain closed opens scanned, by simp [marked]⟩
            next => cases done
        · rw [scan_unterminated plain closing] at done
          cases done
      · rw [scan_text opening] at done
        cases done
        exact ⟨_, .text opening, rfl⟩

/-! ### What is known of scanned MathML -/

/-- Every tag that opens a token element is followed by text and then by its closing tag. -/
def TokensClosed (e : Enclosed) : Prop :=
  ∀ before text tag after name, e.parts = before ++ (text, tag) :: after → OpensToken tag name →
    ∃ content later, after = (content, closingTag name) :: later

theorem TokensClosed.cons (closed : TokensClosed e) (text : List Char)
    (next : ∀ name, OpensToken tag name →
      ∃ content later, e.parts = (content, closingTag name) :: later) :
    TokensClosed (e.cons text tag) := by
  intro before other opener after name same opens
  cases before with
  | nil =>
    obtain ⟨same, rfl⟩ := List.cons.inj same
    cases same
    exact next name opens
  | cons part before => exact closed before other opener after name (List.cons.inj same).2 opens

theorem Scanned.inert (scanned : Scanned cs e) : ∀ text ∈ e.texts, Inert text := by
  induction scanned with
  | text plain =>
    intro text member
    rw [List.mem_singleton.1 member]
    exact escape_inert _
  | tag plain closed other later ih =>
    intro text member
    rcases List.mem_cons.1 member with rfl | member
    · exact escape_inert _
    · exact ih text member
  | token plain closed opens later ih =>
    intro text member
    rcases List.mem_cons.1 member with rfl | member
    · exact escape_inert _
    rcases List.mem_cons.1 member with rfl | member
    · exact escape_inert _
    · exact ih text member

theorem Scanned.clean (scanned : Scanned cs e) : e.Clean '<' '>' := by
  induction scanned with
  | text plain => exact ⟨by simpa [Enclosed.texts] using (escape_inert _).opening, by simp⟩
  | tag plain closed other later ih => exact ih.cons (escape_inert _).opening closed
  | token plain closed opens later ih =>
    have named := closingTag_closed (tokenElement?_mem opens)
    exact (ih.cons (escape_inert _).opening named).cons (escape_inert _).opening closed

theorem Scanned.tokensClosed (scanned : Scanned cs e) : TokensClosed e := by
  induction scanned with
  | text plain =>
    intro before text tag after name same
    simp at same
  | tag plain closed other later ih =>
    refine ih.cons _ fun name opens => ?_
    rw [tokenElement?_of_opens closed opens] at other
    cases other
  | @token text tag content rest name e plain closed opens later ih =>
    have named := closingTag_closed (tokenElement?_mem opens)
    refine (ih.cons _ fun other bad => ?_).cons _ fun other same => ?_
    · have none := tokenElement?_closingTag name
      rw [tokenElement?_of_opens named bad] at none
      cases none
    · rw [tokenElement?_of_opens closed same] at opens
      cases opens
      exact ⟨_, _, rfl⟩

/-- Text that is unescaped again is what was scanned. -/
theorem Scanned.write_unescape (scanned : Scanned cs e) :
    (e.mapTexts unescape).write '<' '>' = cs := by
  induction scanned with
  | text plain => exact unescape_escape _
  | tag plain closed other later ih => simp [unescape_escape, ih]
  | token plain closed opens later ih => simp [unescape_escape, ih]

/-! ### Corrected tags -/

/-- What a misspelled closing tag becomes. -/
def wellSpelled : List Char := "</mo>".toList

theorem correctTags_skip (skipped rest : List Char) :
    correctTags skipped.length (skipped ++ rest) = correctTags 0 rest := by
  induction skipped with
  | nil => rfl
  | cons c skipped ih => exact ih

theorem correctTags_misspelled (rest : List Char) :
    correctTags 0 (misspelled ++ rest) = wellSpelled ++ correctTags 0 rest := by
  have found : misspelled.isPrefixOf (misspelled ++ rest) = true :=
    List.isPrefixOf_iff_prefix.2 (List.prefix_append _ _)
  show (if misspelled.isPrefixOf (misspelled ++ rest) then _ else _) = _
  rw [if_pos found]
  exact congrArg (wellSpelled ++ ·) (correctTags_skip "/mro>".toList rest)

theorem correctTags_cons (other : ¬ misspelled <+: c :: rest) :
    correctTags 0 (c :: rest) = c :: correctTags 0 rest := by
  rw [correctTags, if_neg (by rwa [List.isPrefixOf_iff_prefix])]

/-- Correcting finds the misspelled tags, and nothing else is changed. -/
theorem correctTags_pieces (cs : List Char) :
    ∃ first pieces, cs = misspelled.intercalate (first :: pieces) ∧
      (∀ piece ∈ first :: pieces, ¬ misspelled <:+: piece) ∧
      correctTags 0 cs = wellSpelled.intercalate (first :: pieces) := by
  induction h : cs.length using Nat.strongRecOn generalizing cs with
  | ind n ih =>
    cases cs with
    | nil => exact ⟨[], [], rfl, by decide, rfl⟩
    | cons c rest =>
      by_cases found : misspelled <+: c :: rest
      · obtain ⟨behind, same⟩ := found
        rw [← same]
        have shorter : behind.length < n := by
          have length := congrArg List.length same
          rw [List.length_append, h] at length
          have some : misspelled.length = 6 := rfl
          omega
        obtain ⟨first, pieces, rfl, clean, corrected⟩ := ih _ shorter behind rfl
        refine ⟨[], first :: pieces, ?_, ?_, ?_⟩
        · simp [List.intercalate_cons_cons]
        · intro piece member
          rcases List.mem_cons.1 member with rfl | later
          · decide
          · exact clean piece later
        · rw [correctTags_misspelled, corrected]
          simp [List.intercalate_cons_cons]
      · obtain ⟨first, pieces, rfl, clean, corrected⟩ :=
          ih rest.length (by rw [← h]; exact Nat.lt_succ_self _) rest rfl
        refine ⟨c :: first, pieces, (Text.intercalate_append_cons _ [c] _ _).symm, ?_, ?_⟩
        · intro piece member
          rcases List.mem_cons.1 member with rfl | later
          · rw [List.infix_cons_iff]
            rintro (here | inside)
            · refine found (here.trans ?_)
              exact List.cons_prefix_cons.2 ⟨rfl, Text.prefix_intercalate _ _ _⟩
            · exact clean first List.mem_cons_self inside
          · exact clean piece (List.mem_cons_of_mem _ later)
        · rw [correctTags_cons found, corrected]
          exact (Text.intercalate_append_cons _ [c] _ _).symm

theorem Scanned.overwritten (scanned : Scanned cs e) :
    Overwritten errorMark cs (e.write '<' '>') := by
  induction scanned with
  | text plain => exact escape_overwritten _
  | tag plain closed other later ih =>
    rw [Enclosed.write_cons]
    exact (escape_overwritten _).append (.keep _ ((Overwritten.refl _).append (.keep _ ih)))
  | token plain closed opens later ih =>
    rw [Enclosed.write_cons, Enclosed.write_cons]
    refine (escape_overwritten _).append (.keep _ ((Overwritten.refl _).append (.keep _ ?_)))
    exact (escape_overwritten _).append (.keep _ ((Overwritten.refl _).append (.keep _ ih)))

theorem intercalate_overwritten (first : List Char) (pieces : List (List Char)) :
    Overwritten errorMark (misspelled.intercalate (first :: pieces))
      (wellSpelled.intercalate (first :: pieces)) := by
  induction pieces generalizing first with
  | nil =>
    rw [List.intercalate_singleton, List.intercalate_singleton]
    exact .refl first
  | cons second pieces ih =>
    rw [List.intercalate_cons_cons, List.intercalate_cons_cons, List.append_assoc,
      List.append_assoc]
    exact (Overwritten.refl first).append
      (.replace misspelled (by decide) (foreign_of_all (by decide)) (ih second))

theorem from?_eq_none {word : List Char} (filled : word ≠ []) (h : from? word cs = none) :
    ¬ word <:+: cs := by
  induction cs with
  | nil => exact fun found => filled (List.infix_nil.1 found)
  | cons c rest ih =>
    unfold from? at h
    split at h
    · cases h
    next other =>
      rw [List.isPrefixOf_iff_prefix] at other
      exact fun found => (List.infix_cons_iff.1 found).elim other (ih h)

end Sanitize

open Sanitize in
/-- Checked MathML has no mark of an error in it. It can be read as tags and text, where the text is
inert and a tag that opens a token element is followed by text and its closing tag. The text
unescaped and the tags as they are make up the MathML that was checked, with the tag that closes sized
parentheses respelled wherever it stood. -/
theorem sanitize_inert_faithful (m out : String) (checked : sanitize m = .ok out) :
    ¬ "[PARSE ERROR".toList <:+: out.toList ∧
    ∃ e, Enclosed.read? '<' '>' out.toList = some e ∧
      (∀ text ∈ e.texts, Inert text) ∧
      TokensClosed e ∧
      ∃ pieces, m.toList = "</mro>".toList.intercalate pieces ∧
        (∀ piece ∈ pieces, ¬ "</mro>".toList <:+: piece) ∧
        (e.mapTexts unescape).write '<' '>' = "</mo>".toList.intercalate pieces := by
  unfold sanitize at checked
  dsimp only at checked
  split at checked
  next => cases checked
  next unmarked =>
    obtain ⟨written, done, rfl⟩ := of_map_eq_ok checked
    obtain ⟨e, scanned, rfl⟩ := scanned_of_scan (Nat.lt_succ_self _) done
    obtain ⟨first, pieces, shape, clean, corrected⟩ := correctTags_pieces m.toList
    rw [corrected] at scanned
    rw [String.toList_ofList (l := e.write '<' '>')]
    refine ⟨fun found => ?_, e, Enclosed.read?_write scanned.clean, scanned.inert,
      scanned.tokensClosed, first :: pieces, shape, clean, scanned.write_unescape⟩
    have early : errorMark <:+: wellSpelled.intercalate (first :: pieces) :=
      scanned.overwritten.isInfix (by decide) found
    refine from?_eq_none (by decide) unmarked ?_
    rw [shape]
    exact (intercalate_overwritten first pieces).isInfix (by decide) early

open Sanitize in
/-- A sized parenthesis, and a text with markup characters, a named reference and a numeric one. -/
theorem sized_parenthesis_inert_faithful :
    let m := "<mo>(</mro> 1>0 <mtext>a<b &lt; &#x2061;</mtext>"
    let out := "<mo>(</mo> 1&gt;0 <mtext>a&lt;b &amp;lt; &#x2061;</mtext>"
    sanitize m = .ok out ∧
    ¬ "[PARSE ERROR".toList <:+: out.toList ∧
    ∃ e, Enclosed.read? '<' '>' out.toList = some e ∧
      (∀ text ∈ e.texts, Inert text) ∧
      TokensClosed e ∧
      ∃ pieces, m.toList = "</mro>".toList.intercalate pieces ∧
        (∀ piece ∈ pieces, ¬ "</mro>".toList <:+: piece) ∧
        (e.mapTexts unescape).write '<' '>' = "</mo>".toList.intercalate pieces := by
  intro m out
  have checked : sanitize m = .ok out := by
    have safe : (sanitize m).toOption = some out := by decide +kernel
    cases done : sanitize m with
    | error flaw => rw [done] at safe; cases safe
    | ok safeOut => rw [done] at safe; cases safe; rfl
  exact ⟨checked, sanitize_inert_faithful m out checked⟩

end PagePress.Math
