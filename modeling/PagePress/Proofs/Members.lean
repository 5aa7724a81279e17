import Mathlib.Logic.Function.Basic
import PagePress.Config
import PagePress.Proofs.Json.Values

/-!
# Settings member by member

A text with an object in it is read one member at a time: a member of one of the four keys adds its
setting to those read so far or puts an end to the reading, and every other member is gone over,
whatever its value is.
-/
namespace PagePress

open Json

namespace Json

variable {α β : Type} {reader : Cursor → Except Failure (α × Cursor)} {text : List Char}
  {result : Option α}

theorem toOption_bind (read : Except Failure α) (next : α → Except Failure β) :
    (read >>= next).toOption = read.toOption.bind fun a => (next a).toOption := by
  cases read <;> rfl

/-- A value is read, and the reading goes on with it behind its text. -/
theorem Decides.bind (decides : Decides reader text result)
    (next : α → Cursor → Except Failure (β × Cursor)) (after : α → Option β)
    {rest tail : List Char} (ends : Ends rest)
    (follows : ∀ a position, ∃ behind,
      (next a ⟨rest, position⟩).toOption = (after a).map fun b => (b, ⟨tail, behind⟩))
    (position : Position) : ∃ behind,
      (do
        let (a, c) ← reader ⟨text ++ rest, position⟩
        next a c).toOption = (result.bind after).map fun b => (b, ⟨tail, behind⟩) := by
  obtain ⟨between, same⟩ := decides rest position ends
  cases result with
  | none => exact ⟨position, by rw [toOption_bind, same]; rfl⟩
  | some a =>
    obtain ⟨behind, followed⟩ := follows a between
    exact ⟨behind, by rw [toOption_bind, same]; exact followed⟩

/-- What is made of a value that is read. -/
theorem Decides.map (decides : Decides reader text result) (f : α → β) :
    Decides (fun c => do
      let (v, c) ← reader c
      return (f v, c)) text (result.map f) := by
  intro rest position ends
  obtain ⟨behind, same⟩ := decides.bind (fun v c => pure (f v, c)) (fun a => some (f a)) ends
    (fun a position => ⟨position, rfl⟩) position
  refine ⟨behind, same.trans ?_⟩
  cases result <;> rfl

end Json

namespace Config

/-! ### Keys and what they set -/

/-- What a key sets. -/
def Key.Setting : Key → Type
  | defaultTheme => String
  | includeSource => Bool
  | outDir => String
  | maxSourceBytes => Nat

/-- The setting that a value makes, if it is of the kind that the key asks for. -/
def Key.setting? : (key : Key) → Value → Option key.Setting
  | defaultTheme, v => v.string?
  | includeSource, v => v.bool?
  | outDir, v => v.string?
  | maxSourceBytes, v => v.natural?

def get (config : Config) : (key : Key) → key.Setting
  | .defaultTheme => config.defaultTheme
  | .includeSource => config.includeSource
  | .outDir => config.outDir
  | .maxSourceBytes => config.maxSourceBytes

theorem ext_get {config other : Config} (same : config.get = other.get) : config = other := by
  obtain ⟨theme, source, directory, bytes⟩ := config
  obtain ⟨theme', source', directory', bytes'⟩ := other
  obtain rfl : theme = theme' := congrFun same .defaultTheme
  obtain rfl : source = source' := congrFun same .includeSource
  obtain rfl : directory = directory' := congrFun same .outDir
  obtain rfl : bytes = bytes' := congrFun same .maxSourceBytes
  rfl

namespace Draft

def get (d : Draft) : (key : Key) → Option key.Setting
  | .defaultTheme => d.defaultTheme
  | .includeSource => d.includeSource
  | .outDir => d.outDir
  | .maxSourceBytes => d.maxSourceBytes

def ofGet (settings : (key : Key) → Option key.Setting) : Draft :=
  ⟨settings .defaultTheme, settings .includeSource, settings .outDir, settings .maxSourceBytes⟩

@[simp] theorem get_ofGet (settings : (key : Key) → Option key.Setting) :
    (ofGet settings).get = settings := by
  funext key
  cases key <;> rfl

@[simp] theorem ofGet_get (d : Draft) : ofGet d.get = d := rfl

@[simp] theorem get_empty (key : Key) : ({} : Draft).get key = none := by
  cases key <;> rfl

theorem has_eq (d : Draft) (key : Key) : d.has key = (d.get key).isSome := by
  cases key <;> rfl

theorem get_complete (d : Draft) (key : Key) :
    d.complete.get key = (d.get key).getD (({} : Config).get key) := by
  cases key <;> rfl

/-- The settings with one more. -/
def set (d : Draft) (key : Key) (s : key.Setting) : Draft :=
  ofGet (Function.update d.get key (some s))

theorem decides_read {v : Value} {blanks text : List Char} (spelled : Spells v text)
    (blank : Blanks blanks) (d : Draft) (key : Key) :
    Decides (d.read key) (blanks ++ text) ((key.setting? v).map (d.set key)) := by
  cases key with
  | defaultTheme => exact (decides_stringValue "a string" blank spelled).map (d.set .defaultTheme)
  | includeSource => exact (decides_boolValue blank spelled).map (d.set .includeSource)
  | outDir => exact (decides_stringValue "path string" blank spelled).map (d.set .outDir)
  | maxSourceBytes => exact (decides_naturalValue "usize" blank spelled).map (d.set .maxSourceBytes)

/-- The settings with what a member sets. There are none if the key of the member came before, or if
the value is not of the kind that the key asks for. -/
def given (d : Draft) (entry : String × Value) : Option Draft :=
  match Key.ofName? entry.1 with
  | none => some d
  | some key => if d.has key then none else (key.setting? entry.2).map (d.set key)

end Draft

/-! ### Members -/

variable {d : Draft} {rest : List Char}

theorem decides_member {m : Member} (spelled : Spells m.value m.text) (d : Draft) :
    Decides (member d) m.behindQuote (d.given m.entry) := by
  intro rest position ends
  let value := m.before ++ (m.text ++ rest)
  obtain ⟨named, name⟩ := reads_string m.spelled (m.gap ++ ':' :: value) position
  obtain ⟨parted, parting⟩ := colon_append m.gap_blank value named
  have shape : m.behindQuote ++ rest = m.spelling ++ ['\x22'] ++ (m.gap ++ ':' :: value) := by
    simp [Member.behindQuote, value]
  rw [shape, member, name, Draft.given, show m.entry.1 = m.name from rfl]
  simp only [bind, Except.bind]
  cases Key.ofName? m.name with
  | none =>
    obtain ⟨behind, passed⟩ := skip_of_spells spelled m.before_blank ends parted
    refine ⟨behind, ?_⟩
    simp only [parting, value, passed]
    rfl
  | some key =>
    dsimp only
    cases d.has key with
    | true => exact ⟨position, rfl⟩
    | false =>
      obtain ⟨behind, read⟩ := Draft.decides_read spelled m.before_blank d key rest parted ends
      rw [List.append_assoc] at read
      refine ⟨behind, ?_⟩
      simp only [parting, value, Bool.false_eq_true, if_false]
      exact read

theorem members_close {blanks : List Char} (blank : Blanks blanks) (rest : List Char)
    (position : Position) (first : Bool) (d : Draft) : ∃ behind, ∀ fuel,
      members (fuel + 1) first d ⟨blanks ++ '\x7d' :: rest, position⟩ =
        .ok (d, ⟨rest, behind⟩) := by
  obtain ⟨close, passed⟩ := skipBlanks_append blank (c := '\x7d') rfl rest position
  exact ⟨close.after '\x7d', fun fuel => by rw [members, passed]; rfl⟩

/-- The first member is read behind its opening quote. -/
theorem members_open {blanks : List Char} (blank : Blanks blanks) (rest : List Char)
    (position : Position) (d : Draft) : ∃ behind, ∀ fuel,
      members (fuel + 1) true d ⟨blanks ++ '\x22' :: rest, position⟩ =
        (do
          let (d, c) ← member d ⟨rest, behind⟩
          members fuel false d c) := by
  obtain ⟨opened, passed⟩ := skipBlanks_append blank (c := '\x22') rfl rest position
  exact ⟨opened.after '\x22', fun fuel => by rw [members, passed]; rfl⟩

/-- Every other member is read behind a comma and its opening quote. -/
theorem members_comma {blanks margin : List Char} (blank : Blanks blanks)
    (margin_blank : Blanks margin) (rest : List Char) (position : Position) (d : Draft) :
    ∃ behind, ∀ fuel,
      members (fuel + 1) false d ⟨blanks ++ ',' :: (margin ++ '\x22' :: rest), position⟩ =
        (do
          let (d, c) ← member d ⟨rest, behind⟩
          members fuel false d c) := by
  obtain ⟨comma, passed⟩ := skipBlanks_append blank (c := ',') rfl (margin ++ '\x22' :: rest)
    position
  obtain ⟨opened, again⟩ := skipBlanks_append margin_blank (c := '\x22') rfl rest
    (comma.after ',')
  refine ⟨opened.after '\x22', fun fuel => ?_⟩
  rw [members, passed]
  simp only [Cursor.advance, again]
  rfl

theorem ends_more (pieces : List Piece) (rest : List Char) :
    Ends (more pieces ++ '\x7d' :: rest) := by
  cases pieces with
  | nil => exact ends_cons (by decide) rest
  | cons p pieces => exact ends_cons (by decide) _

/-- The members that follow one, and the end of the object. -/
theorem members_more {later : List Member} (spelled : ∀ m ∈ later, Spells m.value m.text)
    {blanks : List Char} (blank : Blanks blanks) (rest : List Char) (fuel : Nat)
    (enough : later.length < fuel) (d : Draft) (position : Position) : ∃ behind,
      (members fuel false d
        ⟨blanks ++ (more (later.map Member.piece) ++ '\x7d' :: rest), position⟩).toOption =
      ((later.map Member.entry).foldlM Draft.given d).map fun d => (d, ⟨rest, behind⟩) := by
  obtain ⟨fuel, rfl⟩ : ∃ less, fuel = less + 1 := ⟨fuel - 1, by omega⟩
  induction later generalizing blanks fuel d position with
  | nil =>
    obtain ⟨behind, closed⟩ := members_close blank rest position false d
    exact ⟨behind, congrArg Except.toOption (closed fuel)⟩
  | cons m later ih =>
    rw [List.length_cons] at enough
    obtain ⟨fuel, rfl⟩ : ∃ less, fuel = less + 1 := ⟨fuel - 1, by omega⟩
    have shape : more ((m :: later).map Member.piece) ++ '\x7d' :: rest =
        ',' :: (m.margin ++ '\x22' :: (m.behindQuote ++
          (m.after ++ (more (later.map Member.piece) ++ '\x7d' :: rest)))) := by
      simp [more, Piece.written, Member.piece]
    obtain ⟨opened, same⟩ := members_comma blank m.margin_blank (m.behindQuote ++
      (m.after ++ (more (later.map Member.piece) ++ '\x7d' :: rest))) position d
    rw [shape, same, List.map_cons, List.foldlM_cons]
    exact (decides_member (spelled m (by simp)) d).bind (members (fuel + 1) false) _
      ((ends_more _ rest).prepend m.after_blank)
      (fun d position => ih (fun n listed => spelled n (List.mem_cons_of_mem _ listed))
        m.after_blank d position fuel (by omega)) opened

theorem toOption_finish {α : Type} {blanks : List Char} (blank : Blanks blanks) (a : α)
    (position : Position) : (finish a ⟨blanks, position⟩).toOption = some a := by
  obtain ⟨behind, passed⟩ := skipBlanks_all blank position
  rw [finish, passed]
  rfl

theorem length_le_more (pieces : List Piece) : pieces.length ≤ (more pieces).length := by
  induction pieces with
  | nil => exact Nat.le_refl _
  | cons p pieces ih =>
    rw [more, List.flatMap_cons, List.length_append, List.length_cons, List.length_cons, ← more]
    omega

/-- The members of an object, all of them, and its end. -/
theorem members_object {inside : List Char} {ms : List (String × Value)}
    (spelled : Spells (.object ms) ('\x7b' :: inside)) (rest : List Char) (fuel : Nat)
    (enough : inside.length < fuel) (position : Position) : ∃ behind,
      (members fuel true {} ⟨inside ++ rest, position⟩).toOption =
        (ms.foldlM Draft.given {}).map fun d => (d, ⟨rest, behind⟩) := by
  obtain ⟨fuel, rfl⟩ : ∃ less, fuel = less + 1 := ⟨fuel - 1, by omega⟩
  cases spelled with
  | emptyObject blank =>
    rw [List.append_assoc, List.singleton_append]
    obtain ⟨behind, closed⟩ := members_close blank rest position true {}
    exact ⟨behind, congrArg Except.toOption (closed fuel)⟩
  | object filled each =>
    rename_i written
    obtain ⟨m, later, rfl⟩ := List.exists_cons_of_ne_nil filled
    have shape : joined ((m :: later).map Member.piece) ++ ['\x7d'] ++ rest =
        m.margin ++ '\x22' :: (m.behindQuote ++
          (m.after ++ (more (later.map Member.piece) ++ '\x7d' :: rest))) := by
      rw [List.map_cons, joined_cons]
      simp [Piece.written, Member.piece]
    have few : later.length < fuel := by
      have bound := length_le_more (later.map Member.piece)
      rw [List.map_cons, joined_cons, List.length_append, List.length_append] at enough
      rw [List.length_map] at bound
      rw [List.length_singleton] at enough
      omega
    obtain ⟨opened, same⟩ := members_open m.margin_blank (m.behindQuote ++
      (m.after ++ (more (later.map Member.piece) ++ '\x7d' :: rest))) position {}
    rw [shape, same, List.map_cons, List.foldlM_cons]
    exact (decides_member (each m (by simp)) {}).bind (members fuel false) _
      ((ends_more _ rest).prepend m.after_blank)
      (members_more (fun n listed => each n (List.mem_cons_of_mem _ listed)) m.after_blank rest fuel
        few) opened

/-- A text with an object in it is read member by member. -/
theorem toOption_parse {ms : List (String × Value)} {text : String}
    (document : Document (.object ms) text.toList) :
    (parse text).toOption = (ms.foldlM Draft.given {}).map Draft.complete := by
  obtain ⟨e, value, spelled, written⟩ := document
  rw [value] at spelled
  obtain ⟨inside, shape⟩ : ∃ inside, e.text = '\x7b' :: inside := by
    generalize e.text = text at spelled
    cases spelled <;> exact ⟨_, rfl⟩
  rw [shape] at spelled
  obtain ⟨opened, start⟩ := toValue_append e.before_blank (c := '\x7b') rfl (inside ++ e.after) {}
  obtain ⟨behind, read⟩ := members_object spelled e.after
    (('\x7b' :: (inside ++ e.after)).length + 1)
    (by rw [List.length_cons, List.length_append]; omega) (opened.after '\x7b')
  rw [parse, ← written, Piece.written, shape, List.cons_append, start]
  show (members _ true {} ⟨inside ++ e.after, opened.after '\x7b'⟩ >>=
    fun r => finish r.1.complete r.2).toOption = _
  rw [toOption_bind, read]
  cases ms.foldlM Draft.given {} with
  | none => rfl
  | some d => exact toOption_finish e.after_blank d.complete behind

end Config

end PagePress
