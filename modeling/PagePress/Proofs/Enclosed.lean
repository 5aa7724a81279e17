/-!
# Enclosed parts

A text some parts of which stand between an opening and a closing mark, as tags and the bodies of
rules do. Reading takes a part from an opening mark to the next closing one and keeps what stands
before, between and behind the parts; `read?_write` says that it finds the parts that were written.
-/
namespace PagePress

/-- The enclosed parts of a text, each with what stands before it, and what stands behind the last
one. -/
structure Enclosed where
  parts : List (List Char × List Char)
  last : List Char
  deriving DecidableEq, Repr

namespace Enclosed

/-- One more part at the beginning, and what stands before it. -/
def cons (before inside : List Char) (e : Enclosed) : Enclosed :=
  ⟨(before, inside) :: e.parts, e.last⟩

/-- More text at the beginning. -/
def prepend (text : List Char) : Enclosed → Enclosed
  | ⟨[], last⟩ => ⟨[], text ++ last⟩
  | ⟨(before, inside) :: parts, last⟩ => ⟨(text ++ before, inside) :: parts, last⟩

/-- What is not enclosed. -/
def texts (e : Enclosed) : List (List Char) := e.parts.map Prod.fst ++ [e.last]

/-- Changes what is not enclosed. -/
def mapTexts (f : List Char → List Char) (e : Enclosed) : Enclosed :=
  ⟨e.parts.map fun (before, inside) => (f before, inside), f e.last⟩

def write (opening closing : Char) (e : Enclosed) : List Char :=
  e.parts.flatMap (fun (before, inside) => before ++ opening :: inside ++ [closing]) ++ e.last

mutual

/-- Reads a text, unless its last part is not closed. -/
def read? (opening closing : Char) : List Char → Option Enclosed
  | [] => some ⟨[], []⟩
  | c :: rest =>
    if c = opening then (readInside? opening closing rest).map fun (inside, e) => e.cons [] inside
    else (read? opening closing rest).map (prepend [c])

/-- Reads the rest of a part, and the text behind it. -/
def readInside? (opening closing : Char) : List Char → Option (List Char × Enclosed)
  | [] => none
  | c :: rest =>
    if c = closing then (read? opening closing rest).map ([], ·)
    else (readInside? opening closing rest).map fun (inside, e) => (c :: inside, e)

end

/-- The opening mark stands outside of no part, and the closing one in none. -/
structure Clean (opening closing : Char) (e : Enclosed) : Prop where
  texts : ∀ text ∈ e.texts, opening ∉ text
  parts : ∀ part ∈ e.parts, closing ∉ part.2

variable {opening closing : Char} {before inside rest text : List Char} {e : Enclosed}

@[simp] theorem prepend_nil (e : Enclosed) : e.prepend [] = e := by
  obtain ⟨parts, last⟩ := e
  cases parts <;> rfl

@[simp] theorem prepend_append (first second : List Char) (e : Enclosed) :
    e.prepend (first ++ second) = (e.prepend second).prepend first := by
  obtain ⟨parts, last⟩ := e
  cases parts <;> simp [prepend]

@[simp] theorem write_cons (before inside : List Char) (e : Enclosed) :
    (e.cons before inside).write opening closing =
      before ++ opening :: (inside ++ closing :: e.write opening closing) := by
  simp [write, cons]

@[simp] theorem mapTexts_cons (f : List Char → List Char) (before inside : List Char)
    (e : Enclosed) : (e.cons before inside).mapTexts f = (e.mapTexts f).cons (f before) inside := rfl

/-- Reading goes on over what is not enclosed. -/
theorem read?_append (none : opening ∉ text) (rest : List Char) :
    read? opening closing (text ++ rest) = (read? opening closing rest).map (prepend text) := by
  induction text with
  | nil => cases h : read? opening closing rest <;> simp [h]
  | cons c text ih =>
    have other : c ≠ opening := (List.ne_of_not_mem_cons none).symm
    rw [List.cons_append, read?, if_neg other, ih (List.not_mem_of_not_mem_cons none), Option.map_map]
    congr 1
    funext e
    exact (prepend_append [c] text e).symm

theorem readInside?_append (none : closing ∉ inside) (rest : List Char) :
    readInside? opening closing (inside ++ closing :: rest) =
      (read? opening closing rest).map (inside, ·) := by
  induction inside with
  | nil => rw [List.nil_append, readInside?, if_pos rfl]
  | cons c inside ih =>
    have other : c ≠ closing := (List.ne_of_not_mem_cons none).symm
    rw [List.cons_append, readInside?, if_neg other, ih (List.not_mem_of_not_mem_cons none),
      Option.map_map]
    rfl

/-- Reading takes a part from its opening mark to the next closing one. -/
theorem read?_part (outside : opening ∉ before) (within : closing ∉ inside) (rest : List Char) :
    read? opening closing (before ++ opening :: (inside ++ closing :: rest)) =
      (read? opening closing rest).map (cons before inside) := by
  rw [read?_append outside, read?, if_pos rfl, readInside?_append within, Option.map_map,
    Option.map_map]
  congr 1
  funext e
  exact congrArg (fun text => e.cons text inside) (List.append_nil before)

theorem Clean.cons (outside : opening ∉ before) (within : closing ∉ inside)
    (clean : e.Clean opening closing) : (e.cons before inside).Clean opening closing where
  texts text member := by
    rcases List.mem_cons.1 member with rfl | later
    · exact outside
    · exact clean.texts text later
  parts part member := by
    rcases List.mem_cons.1 member with rfl | later
    · exact within
    · exact clean.parts part later

theorem read?_text (outside : opening ∉ text) : read? opening closing text = some ⟨[], text⟩ := by
  have h : read? opening closing (text ++ []) = (read? opening closing []).map (prepend text) :=
    read?_append outside []
  rw [List.append_nil] at h
  rw [h]
  simp [read?, prepend]

/-- What was written cleanly is read as it was. -/
theorem read?_write (clean : e.Clean opening closing) :
    read? opening closing (e.write opening closing) = some e := by
  obtain ⟨parts, last⟩ := e
  induction parts with
  | nil => exact read?_text (clean.texts last (by simp [Enclosed.texts]))
  | cons part parts ih =>
    obtain ⟨before, inside⟩ := part
    have later : Clean opening closing ⟨parts, last⟩ := by
      refine ⟨fun text member => clean.texts text ?_, fun part member => clean.parts part ?_⟩
      · exact List.mem_cons_of_mem _ member
      · exact List.mem_cons_of_mem _ member
    have outside : opening ∉ before := clean.texts before (by simp [Enclosed.texts])
    have within : closing ∉ inside := clean.parts (before, inside) List.mem_cons_self
    show read? opening closing ((cons before inside ⟨parts, last⟩).write opening closing) = _
    rw [write_cons, read?_part outside within, ih later]
    rfl

end Enclosed

end PagePress
