import Mathlib.Data.List.TakeWhile

/-!
# Texts as bytes

The UTF-8 form of a text, and where its characters stand in it. A piece between two offsets is a text
only if both lie between characters; the offsets of positions do. Every byte of a character beyond
ASCII is itself beyond ASCII, so that a kind of ASCII characters can be looked for byte by byte.
-/
namespace PagePress.Text

/-- The bytes of characters in the UTF-8 form. -/
def utf8 (cs : List Char) : List UInt8 := cs.flatMap String.utf8EncodeChar

/-- The bytes of a text. -/
def bytes (text : String) : List UInt8 := text.toByteArray.data.toList

/-- How many bytes stand before a position. -/
def offset (cs : List Char) (i : Nat) : Nat := (utf8 (cs.take i)).length

/-- An offset in a text that is not inside a character. -/
def IsOffset (text : String) (n : Nat) : Prop := (⟨n⟩ : String.Pos.Raw).IsValid text

instance (text : String) : DecidablePred (IsOffset text) := fun n =>
  inferInstanceAs (Decidable (String.Pos.Raw.IsValid text ⟨n⟩))

/-- The bytes between two offsets, if there are any such. -/
def cut? (bs : List UInt8) (start stop : Nat) : Option (List UInt8) :=
  if start ≤ stop ∧ stop ≤ bs.length then some ((bs.take stop).drop start) else none

/-- The text between two offsets, if they are in order and neither is inside a character. -/
def slice? (text : String) (start stop : Nat) : Option String :=
  if h : start ≤ stop ∧ IsOffset text start ∧ IsOffset text stop then
    some (text.extract (text.pos ⟨start⟩ h.2.1) (text.pos ⟨stop⟩ h.2.2))
  else none

/-- A kind of ASCII characters. -/
def Ascii (kind : Char → Bool) : Prop := ∀ c, kind c = true → c.toNat < 128

variable {cs piece : List Char} {text : String} {i j : Nat} {c : Char} {b : UInt8}
  {kind : Char → Bool}

/-! ### Offsets -/

theorem utf8_append (front back : List Char) : utf8 (front ++ back) = utf8 front ++ utf8 back :=
  List.flatMap_append

theorem utf8_cons (c : Char) (rest : List Char) :
    utf8 (c :: rest) = String.utf8EncodeChar c ++ utf8 rest := List.flatMap_cons

theorem bytes_eq (text : String) : bytes text = utf8 text.toList := by
  rw [bytes, ← String.utf8Encode_toList]
  simp [List.utf8Encode, utf8]

theorem length_bytes (text : String) : (bytes text).length = text.utf8ByteSize := by
  simp [bytes]

theorem utf8_take_append_drop (cs : List Char) (i : Nat) :
    utf8 (cs.take i) ++ utf8 (cs.drop i) = utf8 cs := by
  rw [← utf8_append, List.take_append_drop]

theorem drop_offset (cs : List Char) (i : Nat) : (utf8 cs).drop (offset cs i) = utf8 (cs.drop i) := by
  rw [← utf8_take_append_drop cs i]
  exact List.drop_left

theorem offset_length (cs : List Char) : offset cs cs.length = (utf8 cs).length := by
  rw [offset, List.take_length]

theorem offset_add (cs : List Char) (i k : Nat) :
    offset cs (i + k) = offset cs i + (utf8 ((cs.drop i).take k)).length := by
  rw [offset, List.take_add, utf8_append, List.length_append]
  rfl

theorem offset_succ (inside : i < cs.length) :
    offset cs (i + 1) = offset cs i + (String.utf8EncodeChar cs[i]).length := by
  rw [offset_add, List.drop_eq_getElem_cons inside, List.take_succ_cons, utf8_cons, List.take_zero]
  simp [utf8]

theorem offset_le_offset (cs : List Char) (order : i ≤ j) : offset cs i ≤ offset cs j := by
  obtain ⟨k, rfl⟩ := Nat.exists_eq_add_of_le order
  rw [offset_add]
  exact Nat.le_add_right _ _

theorem utf8EncodeChar_length_pos (c : Char) : 0 < (String.utf8EncodeChar c).length :=
  List.length_pos_iff.2 String.utf8EncodeChar_ne_nil

theorem offset_lt_offset (order : i < j) (bound : j ≤ cs.length) : offset cs i < offset cs j := by
  have inside : i < cs.length := Nat.lt_of_lt_of_le order bound
  have step := offset_succ inside
  have later := offset_le_offset cs (show i + 1 ≤ j from order)
  have filled := utf8EncodeChar_length_pos cs[i]
  omega

theorem length_eq_offset_add (cs : List Char) (i : Nat) :
    (utf8 cs).length = offset cs i + (utf8 (cs.drop i)).length := by
  rw [← utf8_take_append_drop cs i, List.length_append]
  rfl

theorem offset_le_length (cs : List Char) (i : Nat) : offset cs i ≤ (utf8 cs).length := by
  rw [length_eq_offset_add cs i]
  exact Nat.le_add_right _ _

theorem isOffset_iff {n : Nat} : IsOffset text n ↔ ∃ i, n = offset text.toList i := by
  have size : ∀ cs : List Char, (String.ofList cs).utf8ByteSize = (utf8 cs).length := by
    intro cs
    rw [← String.size_toByteArray]
    simp [List.utf8Encode, utf8]
  rw [IsOffset, String.Pos.Raw.isValid_iff_exists_take_toList]
  simp only [size]
  rfl

theorem isOffset_offset (text : String) (i : Nat) : IsOffset text (offset text.toList i) :=
  isOffset_iff.2 ⟨i, rfl⟩

/-! ### Pieces -/

/-- Where a piece that begins at a position ends. -/
theorem offset_add_length (begins : piece <+: cs.drop i) :
    offset cs (i + piece.length) = offset cs i + (utf8 piece).length := by
  rw [offset_add, ← List.prefix_iff_eq_take.1 begins]

theorem drop_take_offset (begins : piece <+: cs.drop i) :
    ((utf8 cs).take (offset cs i + (utf8 piece).length)).drop (offset cs i) = utf8 piece := by
  obtain ⟨tail, whole⟩ := begins
  rw [List.drop_take, Nat.add_sub_cancel_left, drop_offset, ← whole, utf8_append, List.take_left]

/-- The bytes of a piece that begins at a position. -/
theorem cut?_offset (begins : piece <+: cs.drop i) :
    cut? (utf8 cs) (offset cs i) (offset cs i + (utf8 piece).length) = some (utf8 piece) := by
  have bound := offset_le_length cs (i + piece.length)
  rw [offset_add_length begins] at bound
  rw [cut?, if_pos ⟨Nat.le_add_right _ _, bound⟩, drop_take_offset begins]

theorem cut?_rest (cs : List Char) (i : Nat) :
    cut? (utf8 cs) (offset cs i) (utf8 cs).length = some (utf8 (cs.drop i)) := by
  rw [length_eq_offset_add cs i]
  exact cut?_offset (List.prefix_refl _)

theorem bytes_injective {s t : String} (same : bytes s = bytes t) : s = t :=
  String.toByteArray_inj.1 (ByteArray.ext (Array.toList_inj.1 same))

theorem bytes_extract (first last : text.Pos) :
    bytes (text.extract first last) =
      ((bytes text).take last.offset.byteIdx).drop first.offset.byteIdx := by
  simp [bytes, List.drop_take]

theorem slice?_eq_some_iff {start stop : Nat} {part : String} :
    slice? text start stop = some part ↔ start ≤ stop ∧ IsOffset text start ∧ IsOffset text stop ∧
      bytes part = ((bytes text).take stop).drop start := by
  unfold slice?
  constructor
  · intro sliced
    split at sliced
    next fits =>
      obtain rfl := Option.some.inj sliced
      exact ⟨fits.1, fits.2.1, fits.2.2, bytes_extract _ _⟩
    next => cases sliced
  · rintro ⟨order, first, last, same⟩
    rw [dif_pos ⟨order, first, last⟩]
    exact congrArg some (bytes_injective ((bytes_extract _ _).trans same.symm))

/-- A piece that begins at a position. -/
theorem slice?_offset (begins : piece <+: text.toList.drop i) :
    slice? text (offset text.toList i) (offset text.toList i + (utf8 piece).length) =
      some (String.ofList piece) := by
  have last := isOffset_offset text (i + piece.length)
  rw [offset_add_length begins] at last
  refine slice?_eq_some_iff.2 ⟨Nat.le_add_right _ _, isOffset_offset text i, last, ?_⟩
  rw [bytes_eq, bytes_eq, String.toList_ofList, drop_take_offset begins]

/-- The text between two positions. -/
theorem slice?_between (text : String) (order : i ≤ j) :
    slice? text (offset text.toList i) (offset text.toList j) =
      some (String.ofList ((text.toList.drop i).take (j - i))) := by
  obtain ⟨k, rfl⟩ := Nat.exists_eq_add_of_le order
  rw [offset_add, Nat.add_sub_cancel_left]
  exact slice?_offset (List.take_prefix _ _)

theorem slice?_rest (text : String) (i : Nat) :
    slice? text (offset text.toList i) (bytes text).length =
      some (String.ofList (text.toList.drop i)) := by
  rw [bytes_eq, length_eq_offset_add _ i]
  exact slice?_offset (List.prefix_refl _)

/-! ### Kinds of bytes -/

@[simp] theorem ascii_or {kind other : Char → Bool} :
    Ascii (fun c => kind c || other c) ↔ Ascii kind ∧ Ascii other := by
  simp only [Ascii, Bool.or_eq_true, or_imp, forall_and]

@[simp] theorem ascii_beq {c : Char} : Ascii (· == c) ↔ c.toNat < 128 := by
  simp [Ascii]

/-- An ASCII character is its one byte, and the bytes of all others are beyond ASCII. -/
theorem of_mem_utf8EncodeChar (member : b ∈ String.utf8EncodeChar c) :
    c.toNat < 128 ∧ String.utf8EncodeChar c = [b] ∧ Char.ofUInt8 b = c ∨
      128 ≤ c.toNat ∧ 128 ≤ (Char.ofUInt8 b).toNat := by
  have value : (Char.ofUInt8 b).toNat = b.toNat := rfl
  have code : c.val.toNat = c.toNat := rfl
  have high : ∀ n, 128 ≤ n → n < 256 → 128 ≤ (UInt8.ofNat n).toNat := by
    intro n low small
    rw [UInt8.toNat_ofNat_of_lt' small]
    exact low
  rw [value]
  unfold String.utf8EncodeChar at member ⊢
  dsimp only at member ⊢
  rw [code] at member ⊢
  by_cases ascii : c.toNat ≤ 127
  · left
    rw [if_pos ascii] at member ⊢
    obtain rfl := List.mem_singleton.1 member
    refine ⟨Nat.lt_succ_of_le ascii, rfl, Char.toNat_inj.1 ?_⟩
    exact UInt8.toNat_ofNat_of_lt' (by show c.toNat < 256; omega)
  · right
    rw [if_neg ascii] at member
    refine ⟨Nat.lt_of_not_le ascii, ?_⟩
    split at member
    · simp only [List.mem_cons, List.not_mem_nil, or_false] at member
      rcases member with rfl | rfl <;> exact high _ (by omega) (by omega)
    · split at member
      · simp only [List.mem_cons, List.not_mem_nil, or_false] at member
        rcases member with rfl | rfl | rfl <;> exact high _ (by omega) (by omega)
      · simp only [List.mem_cons, List.not_mem_nil, or_false] at member
        rcases member with rfl | rfl | rfl | rfl <;> exact high _ (by omega) (by omega)

theorem utf8EncodeChar_of_ascii (small : c.toNat < 128) :
    ∃ b, String.utf8EncodeChar c = [b] ∧ Char.ofUInt8 b = c := by
  obtain ⟨b, tail, shape⟩ := List.exists_cons_of_ne_nil (String.utf8EncodeChar_ne_nil (c := c))
  have member : b ∈ String.utf8EncodeChar c := shape ▸ List.mem_cons_self
  rcases of_mem_utf8EncodeChar member with ⟨-, single, same⟩ | ⟨high, -⟩
  · exact ⟨b, single, same⟩
  · omega

/-- All bytes of a character are of its kind. -/
theorem kind_of_mem (ascii : Ascii kind) (member : b ∈ String.utf8EncodeChar c) :
    kind (Char.ofUInt8 b) = kind c := by
  rcases of_mem_utf8EncodeChar member with ⟨-, -, same⟩ | ⟨high, above⟩
  · rw [same]
  · have other : ∀ c, 128 ≤ c.toNat → kind c = false := fun c high =>
      Bool.eq_false_iff.2 fun own => Nat.not_lt_of_le high (ascii c own)
    rw [other _ above, other _ high]

theorem takeWhile_utf8 (ascii : Ascii kind) (cs : List Char) :
    (utf8 cs).takeWhile (fun b => !kind (Char.ofUInt8 b)) = utf8 (cs.takeWhile fun c => !kind c) := by
  induction cs with
  | nil => rfl
  | cons c rest ih =>
    rw [utf8_cons]
    cases own : kind c with
    | true =>
      obtain ⟨b, tail, shape⟩ := List.exists_cons_of_ne_nil (String.utf8EncodeChar_ne_nil (c := c))
      have first := kind_of_mem ascii (show b ∈ String.utf8EncodeChar c from shape ▸ List.mem_cons_self)
      rw [shape, List.cons_append, List.takeWhile_cons_of_neg (by simp [first, own]),
        List.takeWhile_cons_of_neg (by simp [own])]
      rfl
    | false =>
      have plain : ∀ b ∈ String.utf8EncodeChar c, (!kind (Char.ofUInt8 b)) = true := by
        intro b member
        rw [kind_of_mem ascii member, own]
        rfl
      rw [List.takeWhile_append_of_pos plain, ih, List.takeWhile_cons_of_pos (by simp [own]), utf8_cons]

theorem countP_utf8 (ascii : Ascii kind) (cs : List Char) :
    (utf8 cs).countP (fun b => kind (Char.ofUInt8 b)) = cs.countP kind := by
  induction cs with
  | nil => rfl
  | cons c rest ih =>
    rw [utf8_cons, List.countP_append, ih, List.countP_cons, Nat.add_comm]
    congr 1
    cases own : kind c with
    | true =>
      obtain ⟨b, single, same⟩ := utf8EncodeChar_of_ascii (ascii c own)
      simp [single, same, own]
    | false =>
      rw [if_neg Bool.false_ne_true, List.countP_eq_zero]
      intro b member
      rw [kind_of_mem ascii member, own]
      exact Bool.false_ne_true

theorem all_utf8 (ascii : Ascii kind) (cs : List Char) :
    (utf8 cs).all (fun b => kind (Char.ofUInt8 b)) = cs.all kind := by
  induction cs with
  | nil => rfl
  | cons c rest ih =>
    rw [utf8_cons, List.all_append, ih, List.all_cons]
    congr 1
    obtain ⟨b, tail, shape⟩ := List.exists_cons_of_ne_nil (String.utf8EncodeChar_ne_nil (c := c))
    have same : ∀ b ∈ String.utf8EncodeChar c, kind (Char.ofUInt8 b) = kind c :=
      fun b member => kind_of_mem ascii member
    rw [shape] at same ⊢
    cases own : kind c with
    | true => exact List.all_eq_true.2 fun b member => (same b member).trans own
    | false => simp [(same b List.mem_cons_self).trans own]

/-- No text but one that begins with these characters begins with their bytes. -/
theorem utf8_prefix_iff {front : List Char} : utf8 front <+: utf8 cs ↔ front <+: cs := by
  constructor
  · rintro ⟨tail, whole⟩
    apply List.isPrefix_of_utf8Encode_append_eq_utf8Encode tail.toByteArray
    rw [List.utf8Encode, List.utf8Encode, ← List.toByteArray_append]
    exact congrArg List.toByteArray whole
  · rintro ⟨tail, rfl⟩
    rw [utf8_append]
    exact List.prefix_append _ _

/-! ### Single bytes -/

/-- The bytes from the offset of a position on are those of the character there. -/
theorem utf8_getElem? (inside : i < cs.length) {k : Nat}
    (within : k < (String.utf8EncodeChar cs[i]).length) :
    (utf8 cs)[offset cs i + k]? = (String.utf8EncodeChar cs[i])[k]? := by
  rw [← List.getElem?_drop, drop_offset, List.drop_eq_getElem_cons inside, utf8_cons,
    List.getElem?_append_left within]

/-- The byte before an offset in a character, or right behind it, belongs to the character. -/
theorem byte_before (inside : i < cs.length) {k : Nat} (positive : 0 < k)
    (within : k ≤ (String.utf8EncodeChar cs[i]).length) :
    ∃ b ∈ String.utf8EncodeChar cs[i], (utf8 cs)[offset cs i + k - 1]? = some b := by
  have last : k - 1 < (String.utf8EncodeChar cs[i]).length := by omega
  refine ⟨_, List.getElem_mem last, ?_⟩
  rw [Nat.add_sub_assoc positive, utf8_getElem? inside last, List.getElem?_eq_getElem last]

theorem byte_before_succ (inside : i < cs.length) :
    ∃ b ∈ String.utf8EncodeChar cs[i], (utf8 cs)[offset cs (i + 1) - 1]? = some b := by
  rw [offset_succ inside]
  exact byte_before inside (utf8EncodeChar_length_pos _) (Nat.le_refl _)

theorem offset_succ_of_ascii (inside : i < cs.length) (small : cs[i].toNat < 128) :
    offset cs (i + 1) = offset cs i + 1 := by
  obtain ⟨b, single, -⟩ := utf8EncodeChar_of_ascii small
  rw [offset_succ inside, single]
  rfl

end PagePress.Text
