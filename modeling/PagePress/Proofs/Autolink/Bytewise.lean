import Mathlib.Data.List.Infix
import PagePress.Proofs.Autolink.Host
import PagePress.Proofs.Autolink.Rescan
import PagePress.Proofs.Stages
import PagePress.Proofs.Utf8

/-!
# Scanning byte by byte

The scanner and the stage as they go over the bytes of a text, with offsets for positions
(`Bytewise`). A read outside the bytes, a piece of text with an end inside a character and a step that
does not lead forward give nothing. The scanner walks through characters of several bytes, yet it only
cuts between characters: what makes it stop is ASCII, and no byte of the other characters is.
-/
namespace PagePress.Autolink

open Text (utf8 bytes cut? slice? offset IsOffset Ascii)

/-- Characters that end a host. -/
def endsHost (c : Char) : Bool := c == '/' || c == '?' || c == '\x23' || c == ':'

/-- A link found in a text, as the offsets of its first byte and of the one after it. -/
structure Span where
  start : Nat
  stop : Nat
  href : String
  deriving DecidableEq, Repr

/-- The offsets of a link. -/
def Span.ofLink (cs : List Char) (link : Autolink) : Span :=
  ⟨offset cs link.start, offset cs link.stop, link.href⟩

namespace Bytewise

/-- Whether an address may begin at an offset, by the byte before it. -/
def opens? (bs : List UInt8) (pos : Nat) : Option Bool :=
  if pos = 0 then some true else bs[pos - 1]?.map fun b => isBoundary (Char.ofUInt8 b)

/-- How the bytes from an offset on begin, if it is with a scheme. -/
def begins? (bs : List UInt8) (pos : Nat) : Option (Option Scheme) :=
  (cut? bs pos bs.length).map fun rest =>
    [Scheme.https, .http, .www].find? fun s => (utf8 s.text).isPrefixOf rest

/-- The scheme of the candidate at an offset, if there is one. -/
def scheme? (bs : List UInt8) (pos : Nat) : Option (Option Scheme) :=
  (opens? bs pos).bind fun may => if may then begins? bs pos else some none

/-- The end of the run that goes on at an offset. -/
def runEnd? (bs : List UInt8) (start : Nat) : Option Nat :=
  (cut? bs start bs.length).map fun rest =>
    start + (rest.takeWhile fun b => !endsRun (Char.ofUInt8 b)).length

/-- Where a span that begins at `start` ends once it is trimmed from its end `stop` on. -/
def trimEnd? (bs : List UInt8) (start opened : Nat) : Nat → Nat → Option Nat
  | _, 0 => some 0
  | closed, stop + 1 =>
    if start < stop + 1 then do
      let c := Char.ofUInt8 (← bs[stop]?)
      if isTrailing c then trimEnd? bs start opened closed stop
      else if c == ')' && opened < closed then trimEnd? bs start opened (closed - 1) stop
      else return stop + 1
    else some (stop + 1)

/-- Whether a text is the host of a link: it is not empty, has a point, no empty piece between the
points, and no other bytes than those of hosts. -/
def isHost (host : String) : Bool :=
  !host.toList.isEmpty && host.toList.contains '.'
    && (Text.pieces '.' host.toList).all (fun label => !label.isEmpty)
    && (bytes host).all fun b => isHostChar (Char.ofUInt8 b)

/-- Where the address ends that begins at `start`, with a run up to `runEnd` and a scheme of
`prefixLength` bytes, if its host is plausible. -/
def urlEnd? (text : String) (start runEnd prefixLength : Nat) : Option (Option Nat) := do
  let bs := bytes text
  let span ← cut? bs start runEnd
  let opened := span.countP fun b => Char.ofUInt8 b == '('
  let closed := span.countP fun b => Char.ofUInt8 b == ')'
  let stop ← trimEnd? bs start opened closed runEnd
  let rest ← slice? text start bs.length
  let hostStart := if "www.".toList.isPrefixOf rest.toList then start else start + prefixLength
  if stop ≤ hostStart then return none
  let after ← cut? bs hostStart stop
  let hostEnd := hostStart + (after.takeWhile fun b => !endsHost (Char.ofUInt8 b)).length
  let host ← slice? text hostStart hostEnd
  return if isHost host then some stop else none

/-- What the scanner does at an offset: the link that it finds there, and where it goes on. -/
def step? (text : String) (pos : Nat) : Option (Option Span × Nat) := do
  match ← scheme? (bytes text) pos with
  | none => return (none, pos + 1)
  | some s =>
    let runEnd ← runEnd? (bytes text) pos
    match ← urlEnd? text pos runEnd (utf8 s.text).length with
    | none => return (none, runEnd)
    | some stop =>
      let url ← slice? text pos stop
      return (some ⟨pos, stop, s.href url.toList⟩, stop)

/-- The links that the scanner finds from an offset on. -/
def scan? (text : String) (pos : Nat) : Option (List Span) :=
  if pos < (bytes text).length then
    match step? text pos with
    | none => none
    | some (found, next) => if pos < next then (scan? text next).map (found.toList ++ ·) else none
  else some []
termination_by (bytes text).length - pos

/-- The links in a text, in order. -/
def find? (text : String) : Option (List Span) := scan? text 0

/-- The text between two offsets, if there is any. -/
def piece? (text : String) (start stop : Nat) : Option (List Event) :=
  if start < stop then (slice? text start stop).map fun s => [.text s] else some []

/-- The events of what is left of a text from an offset on, with its links as elements. -/
def split? (text : String) (pos : Nat) : List Span → Option (List Event)
  | [] => piece? text pos (bytes text).length
  | span :: rest => do
    let before ← piece? text pos span.start
    let inside ← slice? text span.start span.stop
    let behind ← split? text span.stop rest
    return before ++ .start (tag span.href) :: .text inside :: .stop .link :: behind

/-- What becomes of an event inside `depth` suppressing elements. -/
def expand? (depth : Nat) (e : Event) : Option (List Event) :=
  match e with
  | .text s =>
    if depth = 0 then do
      match ← find? s with
      | [] => return [e]
      | spans => split? s 0 spans
    else some [e]
  | e => some [e]

/-- What becomes of a document inside `depth` suppressing elements. -/
def linkFrom? (depth : Nat) : List Event → Option (List Event)
  | [] => some []
  | e :: rest => do
    let block ← expand? depth e
    let behind ← linkFrom? (depthAfter depth e) rest
    return block ++ behind

/-- Links the texts of a document. -/
def link? (events : List Event) : Option (List Event) := linkFrom? 0 events

end Bytewise

/-! ### What the scanner looks for -/

theorem host_eq (s : Scheme) (url : List Char) :
    host s url = (url.drop s.hostStart).takeWhile fun c => !endsHost c := rfl

theorem host_of_short {s : Scheme} {url : List Char} (short : url.length ≤ s.hostStart) : host s url = [] := by
  rw [host, List.drop_eq_nil_of_le short]
  rfl

theorem Scheme.hostStart_le (s : Scheme) : s.hostStart ≤ s.text.length := by
  cases s with
  | www => exact Nat.zero_le _
  | _ => exact Nat.le_refl _

theorem isBoundary_ascii : Ascii isBoundary := by
  unfold isBoundary
  simp

theorem endsRun_ascii : Ascii endsRun := by
  unfold endsRun
  simp

theorem endsHost_ascii : Ascii endsHost := by
  unfold endsHost
  simp

theorem isTrailing_ascii : Ascii isTrailing := by
  unfold isTrailing
  simp

theorem isHostChar_ascii : Ascii isHostChar := by
  unfold isHostChar
  simp only [Text.ascii_or, Text.ascii_beq]
  refine ⟨⟨⟨?_, by decide⟩, by decide⟩, by decide⟩
  intro c letter
  have below : ∀ d : Char, d.toNat < 128 → c.val ≤ d.val → c.toNat < 128 :=
    fun d small bound => Nat.lt_of_le_of_lt (UInt32.le_iff_toNat_le.1 bound) small
  rcases Bool.or_eq_true_iff.1 letter with alpha | digit
  · rcases Bool.or_eq_true_iff.1 alpha with upper | lower
    · exact below 'Z' (by decide) (of_decide_eq_true upper).2
    · exact below 'z' (by decide) (of_decide_eq_true (Bool.and_eq_true_iff.1 lower).2)
  · exact below '9' (by decide) (of_decide_eq_true (Bool.and_eq_true_iff.1 digit).2)

theorem trim_isPrefix (run : List Char) : trim run <+: run := by
  obtain ⟨tail, whole, -⟩ := trim_spec run
  exact ⟨tail, whole.symm⟩

namespace Bytewise

variable {text : String} {cs run : List Char} {i k : Nat} {s : Scheme}

/-! ### Where a candidate begins -/

theorem opens?_offset (bound : i ≤ cs.length) :
    opens? (utf8 cs) (offset cs i) = some (opens cs i) := by
  cases i with
  | zero => rfl
  | succ i =>
    have later : offset cs (i + 1) ≠ 0 :=
      Nat.ne_of_gt (Nat.zero_lt_of_lt (Text.offset_lt_offset (Nat.lt_succ_self i) bound))
    obtain ⟨b, member, before⟩ := Text.byte_before_succ bound
    rw [opens?, if_neg later, before, opens_succ bound]
    exact congrArg some (Text.kind_of_mem isBoundary_ascii member)

/-- No address may begin inside a character. -/
theorem opens?_inside (inside : i < cs.length) (positive : 0 < k)
    (within : k < (String.utf8EncodeChar cs[i]).length) :
    opens? (utf8 cs) (offset cs i + k) = some false := by
  have other : isBoundary cs[i] = false := by
    refine Bool.eq_false_iff.2 fun own => ?_
    obtain ⟨b, single, -⟩ := Text.utf8EncodeChar_of_ascii (isBoundary_ascii _ own)
    rw [single, List.length_singleton] at within
    omega
  obtain ⟨b, member, before⟩ := Text.byte_before inside positive (Nat.le_of_lt within)
  rw [opens?, if_neg (by omega), before]
  exact congrArg some ((Text.kind_of_mem isBoundary_ascii member).trans other)

theorem begins?_offset (cs : List Char) (i : Nat) :
    begins? (utf8 cs) (offset cs i) = some (Scheme.atStart? (cs.drop i)) := by
  have same : ∀ s : Scheme, (utf8 s.text).isPrefixOf (utf8 (cs.drop i)) =
      s.text.isPrefixOf (cs.drop i) := fun s => Bool.eq_iff_iff.2
    (by rw [List.isPrefixOf_iff_prefix, List.isPrefixOf_iff_prefix, Text.utf8_prefix_iff])
  rw [begins?, Text.cut?_rest]
  simp only [Option.map_some, same]
  rfl

theorem scheme?_offset (bound : i ≤ cs.length) :
    scheme? (utf8 cs) (offset cs i) = some (Autolink.scheme? cs i) := by
  rw [scheme?, opens?_offset bound, Option.bind_some, begins?_offset, Autolink.scheme?]
  split <;> rfl

theorem scheme?_inside (inside : i < cs.length) (positive : 0 < k)
    (within : k < (String.utf8EncodeChar cs[i]).length) :
    scheme? (utf8 cs) (offset cs i + k) = some none := by
  rw [scheme?, opens?_inside inside positive within]
  rfl

/-! ### Where its address ends -/

theorem runEnd?_offset (cs : List Char) (i : Nat) :
    runEnd? (utf8 cs) (offset cs i) = some (offset cs i + (utf8 (stretch (cs.drop i))).length) := by
  rw [runEnd?, Text.cut?_rest, Option.map_some, Text.takeWhile_utf8 endsRun_ascii]
  rfl

theorem trimEnd?_eq {bs : List UInt8} {start stop : Nat} (opened closed : Nat)
    (filled : start < stop) :
    trimEnd? bs start opened closed stop = bs[stop - 1]?.bind fun b =>
      if isTrailing (Char.ofUInt8 b) then trimEnd? bs start opened closed (stop - 1)
      else if Char.ofUInt8 b == ')' && opened < closed then
        trimEnd? bs start opened (closed - 1) (stop - 1)
      else some stop := by
  cases stop with
  | zero => cases filled
  | succ stop => rw [trimEnd?, if_pos filled]; rfl

theorem trimEnd?_start (bs : List UInt8) (start opened closed : Nat) :
    trimEnd? bs start opened closed start = some start := by
  cases start with
  | zero => rfl
  | succ start => rw [trimEnd?, if_neg (Nat.lt_irrefl _)]

/-- Trimming a span of characters byte by byte. The induction takes away the last of them. -/
theorem trimEnd?_offset (opened closed : Nat) {n : Nat} (bound : i + n ≤ cs.length) :
    trimEnd? (utf8 cs) (offset cs i) opened closed (offset cs (i + n)) =
      some (offset cs (i + (trimEnd opened closed ((cs.drop i).take n).reverse).length)) := by
  induction n generalizing closed with
  | zero => exact trimEnd?_start _ _ _ _
  | succ n ih =>
    have inside : i + n < cs.length := bound
    have shape : ((cs.drop i).take (n + 1)).reverse = cs[i + n] :: ((cs.drop i).take n).reverse := by
      rw [List.take_succ_eq_append_getElem (by rw [List.length_drop]; omega), List.reverse_append,
        List.getElem_drop]
      rfl
    have whole : (((cs.drop i).take n).reverse).length = n := by
      rw [List.length_reverse, List.length_take, List.length_drop]
      omega
    obtain ⟨b, member, before⟩ := Text.byte_before_succ inside
    have trailing := Text.kind_of_mem isTrailing_ascii member
    have paren := Text.kind_of_mem (show Ascii (· == ')') by simp) member
    have filled : offset cs i < offset cs (i + n + 1) := Text.offset_lt_offset (by omega) inside
    rw [← Nat.add_assoc, trimEnd?_eq opened closed filled, before, shape, trimEnd]
    simp only [Option.bind_some, trailing, paren]
    split
    next own =>
      rw [Text.offset_succ_of_ascii inside (isTrailing_ascii _ own)]
      exact ih _ (by omega)
    next =>
      split
      next own =>
        have small : cs[i + n].toNat < 128 := by
          rw [eq_of_beq (Bool.and_eq_true_iff.1 own).1]
          decide
        rw [Text.offset_succ_of_ascii inside small]
        exact ih _ (by omega)
      next => rw [List.length_cons, whole, Nat.add_assoc]

/-- Trimming a run byte by byte. -/
theorem trimEnd?_run (begins : run <+: cs.drop i) :
    trimEnd? (utf8 cs) (offset cs i) ((utf8 run).countP fun b => Char.ofUInt8 b == '(')
        ((utf8 run).countP fun b => Char.ofUInt8 b == ')') (offset cs i + (utf8 run).length) =
      some (offset cs i + (utf8 (trim run)).length) := by
  have shorter := (trim_isPrefix run).trans begins
  have length : (trim run).length = (trimEnd (run.count '(') (run.count ')') run.reverse).length :=
    List.length_reverse
  have fits := begins.length_le
  rw [List.length_drop] at fits
  have opened : (utf8 run).countP (fun b => Char.ofUInt8 b == '(') = run.count '(' :=
    Text.countP_utf8 (show Ascii (· == '(') by simp) run
  have closed : (utf8 run).countP (fun b => Char.ofUInt8 b == ')') = run.count ')' :=
    Text.countP_utf8 (show Ascii (· == ')') by simp) run
  rw [opened, closed, ← Text.offset_add_length begins, ← Text.offset_add_length shorter, length]
  rcases Nat.eq_zero_or_pos run.length with empty | filled
  · rw [List.length_eq_zero_iff.1 empty]
    exact trimEnd?_start _ _ _ _
  · rw [trimEnd?_offset _ _ (by omega), ← List.prefix_iff_eq_take.1 begins]

theorem isHost_ofList (name : List Char) : isHost (String.ofList name) = Autolink.isHost name := by
  have chars : ((bytes (String.ofList name)).all fun b => isHostChar (Char.ofUInt8 b)) =
      name.all isHostChar := by
    rw [Text.bytes_eq, String.toList_ofList]
    exact Text.all_utf8 isHostChar_ascii name
  have some : 2 ≤ (Text.pieces '.' name).length → name.isEmpty = false := by
    cases name with
    | nil => exact fun several => absurd several (by decide)
    | cons => exact fun _ => rfl
  have labels : (Text.pieces '.' name).all (fun label => !label.isEmpty) = true ↔
      ∀ label ∈ Text.pieces '.' name, label ≠ [] := by
    simp
  rw [Bool.eq_iff_iff, isHost_iff_pieces, isHost, chars, String.toList_ofList, Bool.and_eq_true,
    Bool.and_eq_true, Bool.and_eq_true, Text.contains_iff_pieces, labels, and_assoc, and_assoc]
  exact and_iff_right_of_imp fun valid => by rw [some valid.1]; rfl

theorem hostStart_offset (begins : s.text <+: cs.drop i) :
    (if "www.".toList.isPrefixOf (cs.drop i) then offset cs i
      else offset cs i + (utf8 s.text).length) = offset cs (i + s.hostStart) := by
  have www : "www.".toList.isPrefixOf (cs.drop i) = true ↔ s = .www := by
    rw [List.isPrefixOf_iff_prefix]
    constructor
    · exact fun other => Scheme.eq_of_prefix begins (t := .www) other
    · rintro rfl
      exact begins
  cases s with
  | www => rw [if_pos (www.2 rfl)]; rfl
  | https => rw [if_neg (by rw [www]; decide), ← Text.offset_add_length begins]; rfl
  | http => rw [if_neg (by rw [www]; decide), ← Text.offset_add_length begins]; rfl

/-- The end of an address is that of the address on characters, and nothing is read or cut on the way
that should not be. -/
theorem urlEnd?_offset (candidate : s.text <+: text.toList.drop i)
    (begins : run <+: text.toList.drop i) :
    urlEnd? text (offset text.toList i) (offset text.toList i + (utf8 run).length)
        (utf8 s.text).length =
      some ((url? s run).map fun url => offset text.toList i + (utf8 url).length) := by
  have shorter := (trim_isPrefix run).trans begins
  have candidateFits := candidate.length_le
  have urlFits := shorter.length_le
  have hostFits := s.hostStart_le
  rw [List.length_drop] at candidateFits urlFits
  rw [urlEnd?, Text.bytes_eq, Text.cut?_offset begins]
  simp only [Option.bind_eq_bind, Option.bind_some, trimEnd?_run begins]
  rw [← Text.bytes_eq, Text.slice?_rest]
  simp only [Option.bind_some, String.toList_ofList, hostStart_offset candidate]
  rw [← Text.offset_add_length shorter]
  split
  next early =>
    have short : (trim run).length ≤ s.hostStart := by
      refine Nat.le_of_not_lt fun long => Nat.not_lt_of_le early ?_
      exact Text.offset_lt_offset (by omega) (by omega)
    rw [url?, host_of_short short]
    rfl
  next late =>
    have long : s.hostStart < (trim run).length := by
      refine Nat.lt_of_not_le fun short => late ?_
      exact Text.offset_le_offset _ (by omega)
    have afterBegins : (trim run).drop s.hostStart <+: text.toList.drop (i + s.hostStart) := by
      rw [← List.drop_drop]
      exact List.IsPrefix.drop shorter s.hostStart
    have hostBegins : host s (trim run) <+: text.toList.drop (i + s.hostStart) :=
      (List.takeWhile_prefix _).trans afterBegins
    have stop : offset text.toList (i + (trim run).length) =
        offset text.toList (i + s.hostStart) + (utf8 ((trim run).drop s.hostStart)).length := by
      rw [← Text.offset_add_length afterBegins, List.length_drop]
      congr 1
      omega
    rw [stop, Text.bytes_eq, Text.cut?_offset afterBegins, Option.bind_some,
      Text.takeWhile_utf8 endsHost_ascii, ← host_eq, Text.slice?_offset hostBegins,
      Option.bind_some, isHost_ofList, ← stop, url?]
    split
    · rw [Option.map_some, Text.offset_add_length shorter]
      rfl
    · rfl

end Bytewise

end PagePress.Autolink
