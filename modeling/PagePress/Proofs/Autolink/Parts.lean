import PagePress.Proofs.Autolink.Rescan

/-!
# The parts of a text

Linking cuts a text into parts, of which some become links and the others stay text. The parts put
together are the text, the links among them are those that the scanner finds, and in none of the
others does it find anything more.
-/
namespace PagePress.Autolink

/-- A part of a text: it stays text, or it becomes a link. -/
inductive Part where
  | plain (text : String)
  | linked (href text : String)
  deriving DecidableEq, Repr

namespace Part

def text : Part → String
  | plain text | linked _ text => text

/-- The events of a part. -/
def events : Part → List Event
  | plain text => [.text text]
  | linked href text => [.start (tag href), .text text, .stop .link]

/-- The events of several parts in turn. -/
def allEvents (parts : List Part) : List Event := parts.flatMap events

/-- The parts put together. -/
def join (parts : List Part) : String := String.join (parts.map text)

/-- The links among parts of which the first begins at `position`. -/
def links (position : Nat) : List Part → List Autolink
  | [] => []
  | plain text :: rest => links (position + text.length) rest
  | linked href text :: rest =>
    ⟨position, position + text.length, href⟩ :: links (position + text.length) rest

/-- A part that stays text, if there is anything in it. -/
def ofPlain (cs : List Char) : List Part := if cs.isEmpty then [] else [plain (String.ofList cs)]

variable {cs : List Char} {parts : List Part}

theorem allEvents_append (before after : List Part) :
    allEvents (before ++ after) = allEvents before ++ allEvents after := List.flatMap_append

theorem join_append (before after : List Part) :
    join (before ++ after) = join before ++ join after := by
  rw [join, List.map_append, String.join_append]
  rfl

theorem join_cons (part : Part) (rest : List Part) : join (part :: rest) = part.text ++ join rest :=
  String.join_cons

theorem allEvents_ofPlain : allEvents (ofPlain cs) = piece cs := by
  unfold ofPlain piece
  split <;> rfl

theorem join_ofPlain : join (ofPlain cs) = String.ofList cs := by
  unfold ofPlain
  split
  next empty => rw [List.isEmpty_iff.1 empty]; rfl
  next => rw [join_cons]; exact String.append_empty

theorem mem_ofPlain {part : Part} :
    part ∈ ofPlain cs ↔ cs ≠ [] ∧ part = plain (String.ofList cs) := by
  unfold ofPlain
  split
  next empty => simp [List.isEmpty_iff.1 empty]
  next filled => simp [mt List.isEmpty_iff.2 filled]

theorem links_ofPlain_append (position : Nat) :
    links position (ofPlain cs ++ parts) = links (position + cs.length) parts := by
  unfold ofPlain
  split
  next empty => rw [List.isEmpty_iff.1 empty]; rfl
  next => rw [List.cons_append, links, String.length_ofList]; rfl

end Part

/-- What is known of the parts of a text from a position on. -/
structure Cut (cs : List Char) (i : Nat) (parts : List Part) : Prop where
  filled : ∀ part ∈ parts, part.text ≠ ""
  whole : Part.join parts = String.ofList (cs.drop i)
  links : Part.links i parts = linksFrom cs i
  quiet : ∀ text, .plain text ∈ parts → find text = []

variable {cs : List Char} {i : Nat}

theorem ofList_ne_empty {piece : List Char} (filled : piece ≠ []) : String.ofList piece ≠ "" := by
  intro empty
  have length := congrArg String.length empty
  rw [String.length_ofList] at length
  exact filled (List.length_eq_zero_iff.1 length)

/-- The parts of a text in which nothing is found. -/
theorem cut_nil (settled : Settled cs i) (nothing : linksFrom cs i = []) :
    Cut cs i (Part.ofPlain (cs.drop i)) where
  filled := by
    intro part member
    obtain ⟨filled, rfl⟩ := Part.mem_ofPlain.1 member
    exact ofList_ne_empty filled
  whole := Part.join_ofPlain
  links := by
    have all : Part.links i (Part.ofPlain (cs.drop i) ++ []) = [] := Part.links_ofPlain_append i
    rw [← List.append_nil (Part.ofPlain _), all, nothing]
  quiet := by
    intro text member
    obtain ⟨-, equal⟩ := Part.mem_ofPlain.1 member
    obtain rfl := Part.plain.inj equal
    have same : cs.take cs.length = cs := List.take_length
    have found := find_piece (n := cs.length) settled (same.symm ▸ nothing)
    rwa [same] at found

/-- The parts of a text up to its first link, that link, and the parts behind it. -/
theorem Cut.cons {link : Autolink} {rest : List Part} (settled : Settled cs i)
    (found : Found cs i link) (next : linksFrom cs i = link :: linksFrom cs link.stop)
    (later : Cut cs link.stop rest) :
    Cut cs i (Part.ofPlain ((cs.take link.start).drop i) ++
      .linked link.href (String.ofList ((cs.take link.stop).drop link.start)) :: rest) := by
  have after := found.after
  have filled := found.filled
  have bound := found.bound
  have beforeLength : ((cs.take link.start).drop i).length = link.start - i := by
    rw [List.length_drop, List.length_take]
    omega
  have insideLength : ((cs.take link.stop).drop link.start).length = link.stop - link.start := by
    rw [List.length_drop, List.length_take]
    omega
  constructor
  · intro part member
    rcases List.mem_append.1 member with early | late
    · obtain ⟨some, rfl⟩ := Part.mem_ofPlain.1 early
      exact ofList_ne_empty some
    rcases List.mem_cons.1 late with rfl | late
    · refine ofList_ne_empty (List.ne_nil_of_length_pos ?_)
      omega
    · exact later.filled part late
  · rw [Part.join_append, Part.join_cons, Part.join_ofPlain, later.whole, Part.text,
      ← String.ofList_append, ← String.ofList_append]
    congr 1
    -- The three pieces are those between the positions `i`, `start`, `stop` and the end.
    have inner : (cs.take link.stop).drop link.start ++ cs.drop link.stop = cs.drop link.start := by
      rw [← List.drop_append_of_le_length (by rw [List.length_take]; omega), List.take_append_drop]
    rw [inner, ← List.drop_append_of_le_length (by rw [List.length_take]; omega),
      List.take_append_drop]
  · rw [Part.links_ofPlain_append, Part.links, String.length_ofList, beforeLength, insideLength,
      Nat.add_sub_cancel' after, Nat.add_sub_cancel' (Nat.le_of_lt filled), later.links, next]
  · intro text member
    rcases List.mem_append.1 member with early | late
    · obtain ⟨-, equal⟩ := Part.mem_ofPlain.1 early
      obtain rfl := Part.plain.inj equal
      exact find_piece settled found.quiet
    rcases List.mem_cons.1 late with equal | late
    · cases equal
    · exact later.quiet text late

/-- Cutting a text at the links from a position on. The induction follows the links: behind each of
them the scanner stands at its end. -/
theorem split_parts (bound : i ≤ cs.length) (settled : Settled cs i) :
    ∃ parts, split i (cs.drop i) (linksFrom cs i) = Part.allEvents parts ∧ Cut cs i parts := by
  generalize all : linksFrom cs i = links
  induction links generalizing i with
  | nil => exact ⟨_, Part.allEvents_ofPlain.symm, cut_nil settled all⟩
  | cons link rest ih =>
    rcases linksFrom_next bound with none | ⟨first, found, next⟩
    · rw [none] at all
      cases all
    rw [next] at all
    obtain ⟨rfl, behind⟩ := List.cons.inj all
    obtain ⟨parts, splits, cut⟩ := ih found.bound (.inr found.stopped) behind
    refine ⟨_, ?_, cut.cons settled found next⟩
    have toStart : i + (first.start - i) = first.start := Nat.add_sub_cancel' found.after
    have toStop : first.start + (first.stop - first.start) = first.stop :=
      Nat.add_sub_cancel' (Nat.le_of_lt found.filled)
    rw [split, List.splitAt_eq, List.drop_drop, toStart]
    dsimp only
    rw [List.splitAt_eq, List.drop_drop, toStop]
    dsimp only
    rw [splits, Part.allEvents_append, Part.allEvents_ofPlain, List.drop_take, List.drop_take]
    rfl

/-- What is known of the parts of a whole text. -/
structure Parted (s : String) (parts : List Part) : Prop where
  filled : parts ≠ [] ∧ (∀ part ∈ parts, part.text ≠ "") ∨ parts = [.plain s]
  whole : Part.join parts = s
  links : Part.links 0 parts = find s
  quiet : ∀ text, .plain text ∈ parts → find text = []

theorem splitText_parts (s : String) :
    ∃ parts, splitText s = Part.allEvents parts ∧ Parted s parts := by
  unfold splitText
  split
  next nothing =>
    refine ⟨[.plain s], rfl, .inr rfl, ?_, nothing.symm, ?_⟩
    · rw [Part.join_cons]
      exact String.append_empty
    · intro text member
      obtain rfl := Part.plain.inj (List.mem_singleton.1 member)
      exact nothing
  next linked =>
    obtain ⟨parts, splits, cut⟩ := @split_parts s.toList 0 (Nat.zero_le _) (.inl rfl)
    have some : parts ≠ [] := by
      rintro rfl
      exact linked cut.links.symm
    refine ⟨parts, splits, .inl ⟨some, cut.filled⟩, ?_, cut.links, cut.quiet⟩
    rw [cut.whole, List.drop_zero, String.ofList_toList]

end PagePress.Autolink
