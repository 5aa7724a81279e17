import PagePress.Proofs.Json.Numbers
import PagePress.Proofs.Json.Strings

/-!
# Values that nobody wants

A text that stands for a value is gone over to its end, however deep the value is, and so is the
white space before it.
-/
namespace PagePress.Json

variable {blanks text rest : List Char} {c : Char} {v : Value}

/-! ### White space -/

theorem isBlank_of_mem : ∀ c ∈ [' ', '\t', '\n', '\r'], Cursor.isBlank c = true :=
  List.all_eq_true.1 (by decide)

theorem skipBlanks_append (blank : Blanks blanks) (solid : Cursor.isBlank c = false)
    (rest : List Char) (position : Position) : ∃ behind,
      Cursor.skipBlanks ⟨blanks ++ c :: rest, position⟩ = ⟨c :: rest, behind⟩ := by
  induction blanks generalizing position with
  | nil => exact ⟨position, if_neg (by simp [solid])⟩
  | cons d blanks ih =>
    obtain ⟨behind, passed⟩ := ih (List.subset_of_cons_subset blank) (position.after d)
    exact ⟨behind, (if_pos (isBlank_of_mem d (blank (by simp)))).trans passed⟩

theorem skipBlanks_all (blank : Blanks blanks) (position : Position) :
    ∃ behind, Cursor.skipBlanks ⟨blanks, position⟩ = ⟨[], behind⟩ := by
  induction blanks generalizing position with
  | nil => exact ⟨position, rfl⟩
  | cons d blanks ih =>
    obtain ⟨behind, passed⟩ := ih (List.subset_of_cons_subset blank) (position.after d)
    exact ⟨behind, (if_pos (isBlank_of_mem d (blank (by simp)))).trans passed⟩

theorem ends_cons (plain : isDigit c = false ∧ c ≠ '.' ∧ c ≠ 'e' ∧ c ≠ 'E') (rest : List Char) :
    Ends (c :: rest) := by
  rintro d ⟨⟩
  exact plain

theorem Ends.prepend (ends : Ends rest) (blank : Blanks blanks) : Ends (blanks ++ rest) := by
  cases blanks with
  | nil => exact ends
  | cons d blanks =>
    refine ends_cons ?_ _
    have listed := blank (List.mem_cons_self ..)
    simp only [List.mem_cons, List.not_mem_nil, or_false] at listed
    rcases listed with rfl | rfl | rfl | rfl <;> decide

theorem toValue_append (blank : Blanks blanks) (solid : Cursor.isBlank c = false)
    (rest : List Char) (position : Position) :
    ∃ behind, toValue ⟨blanks ++ c :: rest, position⟩ = .ok ⟨c :: rest, behind⟩ := by
  obtain ⟨behind, passed⟩ := skipBlanks_append blank solid rest position
  exact ⟨behind, by rw [toValue, passed]; rfl⟩

theorem colon_append (blank : Blanks blanks) (rest : List Char) (position : Position) :
    ∃ behind, colon ⟨blanks ++ ':' :: rest, position⟩ = .ok ⟨rest, behind⟩ := by
  obtain ⟨between, passed⟩ := skipBlanks_append blank (c := ':') rfl rest position
  exact ⟨between.after ':', by rw [colon, passed]; rfl⟩

/-! ### Texts with commas between them -/

/-- Texts with a comma before each. -/
def more (pieces : List Piece) : List Char := pieces.flatMap fun p => ',' :: p.written

theorem joined_cons (first : Piece) (later : List Piece) :
    joined (first :: later) = first.written ++ more later := by
  induction later generalizing first with
  | nil => simp [joined, more]
  | cons next later ih =>
    have unfolded : joined (first :: next :: later) =
        first.written ++ [','] ++ joined (next :: later) := List.intercalate_cons_cons
    rw [unfolded, ih next]
    simp [more]

/-- Texts with commas between them, without the white space before the first one. -/
def Piece.row (first : Piece) (later : List Piece) : List Char :=
  first.text ++ (first.after ++ more later)

theorem Piece.row_nil (first : Piece) : first.row [] = first.text ++ first.after := by
  simp [row, more]

theorem Piece.row_cons (first next : Piece) (later : List Piece) :
    first.row (next :: later) =
      first.text ++ (first.after ++ ',' :: (next.before ++ next.row later)) := by
  simp [row, more, written]

theorem joined_cons_eq_row (first : Piece) (later : List Piece) :
    joined (first :: later) = first.before ++ first.row later := by
  simp only [joined_cons, Piece.written, Piece.row, List.append_assoc]

/-- The first of several texts is what is met behind an opening bracket. -/
theorem skipBlanks_joined {first : Piece} {others : List Char} (head : first.text = c :: others)
    (solid : Cursor.isBlank c = false) (later : List Piece) (rest : List Char)
    (position : Position) : ∃ tail behind,
      Cursor.skipBlanks ⟨joined (first :: later) ++ rest, position⟩ = ⟨c :: tail, behind⟩ ∧
      c :: tail = first.row later ++ rest := by
  have row : first.row later ++ rest = c :: (others ++ (first.after ++ more later) ++ rest) := by
    rw [Piece.row, head]
    rfl
  obtain ⟨behind, passed⟩ := skipBlanks_append first.before_blank solid
    (others ++ (first.after ++ more later) ++ rest) position
  exact ⟨_, behind, by rw [joined_cons_eq_row, List.append_assoc, row, passed], row.symm⟩

/-- What goes over several texts with commas between them, of which a text is one: it goes on behind
the comma, and ends behind the closing bracket. -/
structure Walks (walk : Nat → Cursor → Except Failure Cursor) (close : Char) (p : Piece) :
    Prop where
  onward : ∀ fuel blanks rest position, Blanks blanks → 2 * p.text.length ≤ fuel → ∃ behind,
    walk (fuel + 1) ⟨blanks ++ (p.text ++ (p.after ++ ',' :: rest)), position⟩ =
      walk fuel ⟨rest, behind⟩
  ending : ∀ fuel blanks rest position, Blanks blanks → 2 * p.text.length ≤ fuel → ∃ behind,
    walk (fuel + 1) ⟨blanks ++ (p.text ++ (p.after ++ close :: rest)), position⟩ =
      .ok ⟨rest, behind⟩

theorem walk_row {walk : Nat → Cursor → Except Failure Cursor} {close : Char} {first : Piece}
    {later : List Piece} (walks : ∀ p ∈ first :: later, Walks walk close p)
    (blank : Blanks blanks) (rest : List Char) (position : Position) (fuel : Nat)
    (enough : 2 * (first.row later).length < fuel) : ∃ behind,
      walk fuel ⟨blanks ++ (first.row later ++ close :: rest), position⟩ =
        .ok ⟨rest, behind⟩ := by
  obtain ⟨fuel, rfl⟩ : ∃ less, fuel = less + 1 := ⟨fuel - 1, by omega⟩
  induction later generalizing first blanks position fuel with
  | nil =>
    rw [Piece.row_nil] at enough ⊢
    rw [List.length_append] at enough
    rw [List.append_assoc]
    exact (walks first (by simp)).ending fuel blanks rest position blank (by omega)
  | cons next later ih =>
    rw [Piece.row_cons] at enough ⊢
    simp only [List.length_append, List.length_cons] at enough
    rw [List.append_assoc, List.append_assoc, List.cons_append, List.append_assoc]
    obtain ⟨comma, passed⟩ := (walks first (by simp)).onward fuel blanks
      (next.before ++ (next.row later ++ close :: rest)) position blank (by omega)
    obtain ⟨fuel, rfl⟩ : ∃ less, fuel = less + 1 := ⟨fuel - 1, by omega⟩
    obtain ⟨behind, others⟩ := ih (fun p listed => walks p (List.mem_cons_of_mem _ listed))
      next.before_blank comma fuel (by omega)
    exact ⟨behind, passed.trans others⟩

/-! ### Values that nobody wants -/

/-- A text is gone over like a value by everyone who may take two steps for each character. -/
def Skips (text : List Char) : Prop :=
  ∀ fuel blanks rest position, Blanks blanks → Ends rest → 2 * text.length ≤ fuel →
    ∃ behind, skipValue fuel ⟨blanks ++ (text ++ rest), position⟩ = .ok ⟨rest, behind⟩

/-- Goes on behind an element of a list. -/
def skipBehindElement (fuel : Nat) (c : Cursor) : Except Failure Cursor :=
  let c := c.skipBlanks
  match c.rest with
  | ',' :: _ => skipElements fuel c.advance
  | ']' :: _ => .ok c.advance
  | [] => c.failAhead .endInList
  | _ => c.failAhead .expectedListEnd

theorem skipElements_element {e : Element} (skips : Skips e.text) (fuel : Nat)
    (blank : Blanks blanks) (ends : Ends rest) (position : Position)
    (enough : 2 * e.text.length ≤ fuel) : ∃ behind,
      skipElements (fuel + 1) ⟨blanks ++ (e.text ++ rest), position⟩ =
        skipBehindElement fuel ⟨rest, behind⟩ := by
  obtain ⟨behind, value⟩ := skips fuel blanks rest position blank ends enough
  refine ⟨behind, ?_⟩
  rw [skipElements, value]
  rfl

theorem walks_element {e : Element} (skips : Skips e.text) :
    Walks skipElements ']' e.toPiece where
  onward fuel blanks rest position blank enough := by
    have ends : Ends (e.after ++ ',' :: rest) :=
      (ends_cons (by decide) rest).prepend e.after_blank
    obtain ⟨between, same⟩ := skipElements_element skips fuel blank ends position enough
    obtain ⟨comma, passed⟩ := skipBlanks_append e.after_blank (c := ',') rfl rest between
    exact ⟨comma.after ',', by rw [same, skipBehindElement, passed]; rfl⟩
  ending fuel blanks rest position blank enough := by
    have ends : Ends (e.after ++ ']' :: rest) :=
      (ends_cons (by decide) rest).prepend e.after_blank
    obtain ⟨between, same⟩ := skipElements_element skips fuel blank ends position enough
    obtain ⟨close, passed⟩ := skipBlanks_append e.after_blank (c := ']') rfl rest between
    exact ⟨close.after ']', by rw [same, skipBehindElement, passed]; rfl⟩

/-- Goes on behind the value of a member. -/
def skipBehindMember (fuel : Nat) (c : Cursor) : Except Failure Cursor :=
  let c := c.skipBlanks
  match c.rest with
  | ',' :: _ => skipMembers fuel c.advance
  | '\x7d' :: _ => .ok c.advance
  | [] => c.failAhead .endInObject
  | _ => c.failAhead .expectedObjectEnd

theorem skipMembers_member {m : Member} (skips : Skips m.text) (fuel : Nat)
    (blank : Blanks blanks) (ends : Ends rest) (position : Position)
    (enough : 2 * m.piece.text.length ≤ fuel) : ∃ behind,
      skipMembers (fuel + 1) ⟨blanks ++ (m.piece.text ++ rest), position⟩ =
        skipBehindMember fuel ⟨rest, behind⟩ := by
  simp only [Member.piece, Member.behindQuote, List.length_cons, List.length_append] at enough
  simp only [Member.piece, Member.behindQuote, List.cons_append, List.append_assoc]
  obtain ⟨opened, opening⟩ := skipBlanks_append blank (c := '\x22') rfl
    (m.spelling ++ '\x22' :: (m.gap ++ ':' :: (m.before ++ (m.text ++ rest)))) position
  obtain ⟨named, name⟩ := skipString_stringText m.spelled
    (m.gap ++ ':' :: (m.before ++ (m.text ++ rest))) (opened.after '\x22')
  obtain ⟨parted, parting⟩ := colon_append m.gap_blank (m.before ++ (m.text ++ rest)) named
  obtain ⟨behind, value⟩ := skips fuel m.before rest parted m.before_blank ends (by omega)
  refine ⟨behind, ?_⟩
  simp only [skipMembers, opening, Cursor.advance, name, parting, value, bind, Except.bind]
  rfl

theorem walks_member {m : Member} (skips : Skips m.text) : Walks skipMembers '\x7d' m.piece where
  onward fuel blanks rest position blank enough := by
    have ends : Ends (m.after ++ ',' :: rest) :=
      (ends_cons (by decide) rest).prepend m.after_blank
    obtain ⟨between, same⟩ := skipMembers_member skips fuel blank ends position enough
    obtain ⟨comma, passed⟩ := skipBlanks_append m.after_blank (c := ',') rfl rest between
    exact ⟨comma.after ',', same.trans (by rw [skipBehindMember, passed]; rfl)⟩
  ending fuel blanks rest position blank enough := by
    have ends : Ends (m.after ++ '\x7d' :: rest) :=
      (ends_cons (by decide) rest).prepend m.after_blank
    obtain ⟨between, same⟩ := skipMembers_member skips fuel blank ends position enough
    obtain ⟨close, passed⟩ := skipBlanks_append m.after_blank (c := '\x7d') rfl rest between
    exact ⟨close.after '\x7d', same.trans (by rw [skipBehindMember, passed]; rfl)⟩

/-- White space before a value makes no difference. -/
theorem skipValue_append (blank : Blanks blanks) (solid : Cursor.isBlank c = false)
    (rest : List Char) (position : Position) : ∃ behind, ∀ fuel,
      skipValue (fuel + 1) ⟨blanks ++ c :: rest, position⟩ =
        skipValue (fuel + 1) ⟨c :: rest, behind⟩ := by
  obtain ⟨behind, passed⟩ := toValue_append blank solid rest position
  have here : toValue ⟨c :: rest, behind⟩ = .ok ⟨c :: rest, behind⟩ := by
    have stays : Cursor.skipBlanks ⟨c :: rest, behind⟩ = ⟨c :: rest, behind⟩ :=
      if_neg (by simp [solid])
    rw [toValue, stays]
    rfl
  refine ⟨behind, fun fuel => ?_⟩
  rw [skipValue, passed, skipValue, here]

theorem skips_of_solid {later : List Char} (solid : Cursor.isBlank c = false)
    (bare : ∀ fuel rest position, Ends rest → 2 * later.length < fuel → ∃ behind,
      skipValue (fuel + 1) ⟨c :: (later ++ rest), position⟩ = .ok ⟨rest, behind⟩) :
    Skips (c :: later) := by
  intro fuel blanks rest position blank ends enough
  rw [List.length_cons] at enough
  obtain ⟨fuel, rfl⟩ : ∃ less, fuel = less + 1 := ⟨fuel - 1, by omega⟩
  obtain ⟨between, same⟩ := skipValue_append blank solid (later ++ rest) position
  obtain ⟨behind, passed⟩ := bare fuel rest between ends (by omega)
  exact ⟨behind, (same fuel).trans passed⟩

/-- A number begins with its sign or with a digit. -/
theorem Numeral.text_eq (n : Numeral) :
    (n.negative = true ∧ n.text = '-' :: n.magnitude) ∨
    (n.negative = false ∧ n.text = n.magnitude ∧
      ∃ c ∈ decimalDigits, ∃ later, n.magnitude = c :: later) := by
  cases negative : n.negative with
  | true => exact .inl ⟨rfl, if_pos negative⟩
  | false =>
    refine .inr ⟨rfl, if_neg (by simp [negative]), ?_⟩
    have shape := n.whole_shape
    rw [magnitude]
    generalize n.whole = whole at shape
    cases shape with
    | zero => exact ⟨'0', by decide, _, rfl⟩
    | digits _ all => exact ⟨_, all (List.mem_cons_self ..), _, rfl⟩

theorem skipValue_digit (digit : c ∈ decimalDigits) (fuel : Nat) (rest : List Char)
    (position : Position) :
    skipValue (fuel + 1) ⟨c :: rest, position⟩ = skipNumber ⟨c :: rest, position⟩ := by
  simp only [decimalDigits, List.mem_cons, List.not_mem_nil, or_false] at digit
  rcases digit with rfl | rfl | rfl | rfl | rfl | rfl | rfl | rfl | rfl | rfl <;> rfl

/-- A digit begins nothing but a number. -/
theorem plain_of_digit (digit : c ∈ decimalDigits) :
    Cursor.isBlank c = false ∧ c ∉ ['-', ']', '\x22', 't', 'f'] := by
  simp only [decimalDigits, List.mem_cons, List.not_mem_nil, or_false] at digit
  rcases digit with rfl | rfl | rfl | rfl | rfl | rfl | rfl | rfl | rfl | rfl <;> decide

theorem Numeral.exists_cons (n : Numeral) :
    ∃ c later, n.text = c :: later ∧ Cursor.isBlank c = false ∧ c ∉ [']', '\x22', 't', 'f'] := by
  rcases n.text_eq with ⟨-, text⟩ | ⟨-, text, c, digit, later, magnitude⟩
  · exact ⟨'-', _, text, by decide, by decide⟩
  · obtain ⟨solid, other⟩ := plain_of_digit digit
    exact ⟨c, later, text.trans magnitude, solid, fun listed =>
      other (List.mem_cons_of_mem _ listed)⟩

theorem skips_number (n : Numeral) : Skips n.text := by
  have passes := passes_skipNumber n
  rcases n.text_eq with ⟨-, text⟩ | ⟨-, text, c, digit, later, magnitude⟩
  · rw [text]
    exact skips_of_solid rfl fun fuel rest position ends _ =>
      passes rest (position.after '-') ends
  · rw [magnitude] at passes
    rw [text, magnitude]
    refine skips_of_solid (plain_of_digit digit).1 fun fuel rest position ends _ => ?_
    rw [skipValue_digit digit]
    exact passes rest position ends

/-- A value begins with a character that is neither white space nor the end of a list. -/
theorem Spells.exists_cons (spelled : Spells v text) :
    ∃ c later, text = c :: later ∧ Cursor.isBlank c = false ∧ c ≠ ']' := by
  cases spelled with
  | number n =>
    obtain ⟨c, later, text, solid, other⟩ := n.exists_cons
    exact ⟨c, later, text, solid, fun close => other (by simp [close])⟩
  | _ => exact ⟨_, _, rfl, by decide, by decide⟩

/-- Goes on behind the opening bracket of a list. -/
def skipInList (fuel : Nat) (c : Cursor) : Except Failure Cursor :=
  let c := c.skipBlanks
  match c.rest with
  | ']' :: _ => .ok c.advance
  | [] => c.failAhead .endInList
  | _ => skipElements fuel c

theorem skipValue_list (fuel : Nat) (rest : List Char) (position : Position) :
    skipValue (fuel + 1) ⟨'[' :: rest, position⟩ = skipInList fuel ⟨rest, position.after '['⟩ :=
  rfl

theorem skipInList_of_ne {fuel : Nat} {cursor : Cursor} {tail : List Char} {behind : Position}
    (opened : cursor.skipBlanks = ⟨c :: tail, behind⟩) (inside : c ≠ ']') :
    skipInList fuel cursor = skipElements fuel ⟨c :: tail, behind⟩ := by
  rw [skipInList, opened]
  simp [inside]

/-- Goes on behind the opening brace of an object. -/
def skipInObject (fuel : Nat) (c : Cursor) : Except Failure Cursor :=
  let c := c.skipBlanks
  match c.rest with
  | '\x7d' :: _ => .ok c.advance
  | [] => c.failAhead .endInObject
  | _ => skipMembers fuel c

theorem skipValue_object (fuel : Nat) (rest : List Char) (position : Position) :
    skipValue (fuel + 1) ⟨'\x7b' :: rest, position⟩ =
      skipInObject fuel ⟨rest, position.after '\x7b'⟩ :=
  rfl

theorem skipInObject_of_ne {fuel : Nat} {cursor : Cursor} {tail : List Char} {behind : Position}
    (opened : cursor.skipBlanks = ⟨c :: tail, behind⟩) (inside : c ≠ '\x7d') :
    skipInObject fuel cursor = skipMembers fuel ⟨c :: tail, behind⟩ := by
  rw [skipInObject, opened]
  simp [inside]

/-- A text that stands for a value is gone over, however deep the value is. -/
theorem skips_of_spells (spelled : Spells v text) : Skips text := by
  induction spelled with
  | null => exact skips_of_solid rfl fun fuel rest position ends _ => ⟨_, rfl⟩
  | yes => exact skips_of_solid rfl fun fuel rest position ends _ => ⟨_, rfl⟩
  | no => exact skips_of_solid rfl fun fuel rest position ends _ => ⟨_, rfl⟩
  | number n => exact skips_number n
  | string spelled =>
    refine skips_of_solid rfl fun fuel rest position ends _ => ?_
    rw [List.append_assoc]
    exact skipString_stringText spelled rest (position.after '\x22')
  | emptyList blank =>
    refine skips_of_solid rfl fun fuel rest position ends _ => ?_
    obtain ⟨close, passed⟩ := skipBlanks_append blank (c := ']') rfl rest (position.after '[')
    rw [List.append_assoc, List.singleton_append, skipValue_list, skipInList, passed]
    exact ⟨_, rfl⟩
  | list filled each ih =>
    refine skips_of_solid rfl fun fuel rest position ends enough => ?_
    rename_i elements
    obtain ⟨first, later, rfl⟩ := List.exists_cons_of_ne_nil filled
    obtain ⟨c, others, head, solid, inside⟩ := (each first (List.mem_cons_self ..)).exists_cons
    obtain ⟨tail, between, opened, row⟩ := skipBlanks_joined head solid
      (later.map Element.toPiece) (']' :: rest) (position.after '[')
    have walks : ∀ p ∈ first.toPiece :: later.map Element.toPiece, Walks skipElements ']' p :=
      List.forall_mem_map.2 fun e listed => walks_element (ih e listed)
    rw [List.map_cons, joined_cons_eq_row, List.length_append, List.length_append] at enough
    obtain ⟨behind, passed⟩ := walk_row walks blanks_nil rest between fuel (by omega)
    refine ⟨behind, Eq.trans ?_ passed⟩
    rw [List.append_assoc, List.singleton_append, skipValue_list, List.map_cons,
      skipInList_of_ne opened inside, row]
    rfl
  | emptyObject blank =>
    refine skips_of_solid rfl fun fuel rest position ends _ => ?_
    obtain ⟨close, passed⟩ := skipBlanks_append blank (c := '\x7d') rfl rest
      (position.after '\x7b')
    rw [List.append_assoc, List.singleton_append, skipValue_object, skipInObject, passed]
    exact ⟨_, rfl⟩
  | object filled each ih =>
    refine skips_of_solid rfl fun fuel rest position ends enough => ?_
    rename_i members
    obtain ⟨first, later, rfl⟩ := List.exists_cons_of_ne_nil filled
    have head : first.piece.text = '\x22' :: first.behindQuote := rfl
    obtain ⟨tail, between, opened, row⟩ := skipBlanks_joined head rfl (later.map Member.piece)
      ('\x7d' :: rest) (position.after '\x7b')
    have walks : ∀ p ∈ first.piece :: later.map Member.piece, Walks skipMembers '\x7d' p :=
      List.forall_mem_map.2 fun m listed => walks_member (ih m listed)
    rw [List.map_cons, joined_cons_eq_row, List.length_append, List.length_append] at enough
    obtain ⟨behind, passed⟩ := walk_row walks blanks_nil rest between fuel (by omega)
    refine ⟨behind, Eq.trans ?_ passed⟩
    rw [List.append_assoc, List.singleton_append, skipValue_object, List.map_cons,
      skipInObject_of_ne opened (by decide), row]
    rfl

/-- A value that nobody wants is gone over to its end. -/
theorem skip_of_spells (spelled : Spells v text) (blank : Blanks blanks) (ends : Ends rest)
    (position : Position) :
    ∃ behind, skip ⟨blanks ++ (text ++ rest), position⟩ = .ok ⟨rest, behind⟩ :=
  skips_of_spells spelled _ blanks rest position blank ends
    (by simp only [List.length_append]; omega)

end PagePress.Json
