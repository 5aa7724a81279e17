import PagePress.Proofs.Autolink.Bytewise

/-!
# Offsets are safe

The scanner on bytes goes from one character to the next, whatever their sizes, and finds the links
that the scanner on characters finds. All that it and the stage cut out of a text begins and ends
between characters, and the offsets reported for the links are those of their positions.
-/
namespace PagePress.Autolink

open Text (utf8 bytes slice? offset IsOffset)

namespace Bytewise

variable {text : String} {i k : Nat} {s : Scheme}

/-! ### The scanner -/

theorem step?_of_none {pos : Nat} (absent : scheme? (bytes text) pos = some none) :
    step? text pos = some (none, pos + 1) := by
  rw [step?, absent]
  rfl

/-- At a candidate, the scanner does what it does on characters. -/
theorem step?_of_some (bound : i ≤ text.toList.length)
    (candidate : Autolink.scheme? text.toList i = some s) :
    step? text (offset text.toList i) = some
      (match url? s (stretch (text.toList.drop i)) with
      | none => (none, offset text.toList (i + (stretch (text.toList.drop i)).length))
      | some url => (some (Span.ofLink text.toList ⟨i, i + url.length, s.href url⟩),
        offset text.toList (i + url.length))) := by
  have run : stretch (text.toList.drop i) <+: text.toList.drop i := List.takeWhile_prefix _
  have begins := (scheme?_eq_some_iff.1 candidate).2
  rw [step?, Text.bytes_eq, scheme?_offset bound, candidate]
  simp only [Option.bind_eq_bind, Option.bind_some, runEnd?_offset, urlEnd?_offset begins run]
  cases accepted : url? s (stretch (text.toList.drop i)) with
  | none =>
    rw [Text.offset_add_length run]
    rfl
  | some url =>
    have shorter := (trim_isPrefix _).trans run
    rw [← (url?_eq_some accepted).1] at shorter
    simp only [Option.map_some, Option.bind_some, Text.slice?_offset shorter,
      String.toList_ofList, Span.ofLink, Text.offset_add_length shorter]
    rfl

theorem scan?_of_step {pos next : Nat} {found : Option Span}
    (inside : pos < (bytes text).length) (step : step? text pos = some (found, next))
    (forward : pos < next) : scan? text pos = (scan? text next).map (found.toList ++ ·) := by
  rw [scan?, if_pos inside, step]
  exact if_pos forward

theorem scan?_of_none {pos : Nat} (inside : pos < (bytes text).length)
    (absent : scheme? (bytes text) pos = some none) : scan? text pos = scan? text (pos + 1) := by
  rw [scan?_of_step inside (step?_of_none absent) (Nat.lt_succ_self pos)]
  exact Option.map_id'

/-- From inside a character the scanner walks on to the next one. -/
theorem scan?_inside (inside : i < text.toList.length) (positive : 0 < k)
    (within : k ≤ (String.utf8EncodeChar text.toList[i]).length) :
    scan? text (offset text.toList i + k) = scan? text (offset text.toList (i + 1)) := by
  induction left : (String.utf8EncodeChar text.toList[i]).length - k generalizing k with
  | zero =>
    rw [Text.offset_succ inside]
    congr 2
    omega
  | succ left ih =>
    have size := Text.offset_succ inside
    have bound := Text.offset_le_length text.toList (i + 1)
    rw [← Text.bytes_eq] at bound
    have absent := scheme?_inside inside positive (by omega)
    rw [← Text.bytes_eq] at absent
    rw [scan?_of_none (by omega) absent]
    exact ih (Nat.succ_pos k) (by omega) (by omega)

/-- The scanner on bytes finds the links that the scanner on characters finds. -/
theorem scan?_offset (bound : i ≤ text.toList.length) :
    scan? text (offset text.toList i) =
      some ((linksFrom text.toList i).map (Span.ofLink text.toList)) := by
  induction left : text.toList.length - i using Nat.strongRecOn generalizing i with
  | ind n ih =>
    subst left
    rcases Nat.eq_or_lt_of_le bound with rfl | inside
    · have done : ¬ offset text.toList text.toList.length < (bytes text).length := by
        rw [Text.bytes_eq, Text.offset_length]
        exact Nat.lt_irrefl _
      rw [scan?, if_neg done, linksFrom_length]
      rfl
    have before : offset text.toList i < (bytes text).length := by
      have room := Text.offset_lt_offset inside (Nat.le_refl _)
      rwa [Text.offset_length, ← Text.bytes_eq] at room
    cases candidate : Autolink.scheme? text.toList i with
    | none =>
      have absent := scheme?_offset bound
      rw [candidate, ← Text.bytes_eq] at absent
      rw [scan?_of_none before absent, linksFrom_of_none inside candidate,
        scan?_inside inside Nat.one_pos (Text.utf8EncodeChar_length_pos _)]
      exact ih _ (by omega) inside rfl
    | some s =>
      obtain ⟨c, here, plain⟩ := scheme?_plain candidate
      have filled := stretch_filled here plain
      have fits := stretch_length_le bound
      have step := step?_of_some bound candidate
      rw [linksFrom_of_some candidate]
      cases accepted : url? s (stretch (text.toList.drop i)) with
      | none =>
        rw [accepted] at step
        rw [scan?_of_step before step (Text.offset_lt_offset (by omega) fits),
          ih _ (by omega) fits rfl]
        rfl
      | some url =>
        have shorter := url?_length_le accepted
        have filledUrl := (url?_eq_some accepted).2
        rw [accepted] at step
        rw [scan?_of_step before step (Text.offset_lt_offset (by omega) (by omega)),
          ih _ (by omega) (by omega) rfl]
        rfl

theorem find?_eq (text : String) :
    find? text = some ((find text).map (Span.ofLink text.toList)) :=
  scan?_offset (Nat.zero_le _)

/-! ### The stage -/

theorem piece?_offset {j : Nat} (order : i ≤ j) (bound : j ≤ text.toList.length) :
    piece? text (offset text.toList i) (offset text.toList j) =
      some (piece ((text.toList.drop i).take (j - i))) := by
  rcases Nat.eq_or_lt_of_le order with rfl | before
  · rw [piece?, if_neg (Nat.lt_irrefl _), Nat.sub_self, List.take_zero]
    rfl
  · have filled : ((text.toList.drop i).take (j - i)).isEmpty = false := by
      refine List.isEmpty_eq_false_iff.2 (List.ne_nil_of_length_pos ?_)
      rw [List.length_take, List.length_drop]
      omega
    rw [piece?, if_pos (Text.offset_lt_offset before bound), Text.slice?_between text order, piece,
      filled]
    rfl

/-- Cutting a text at the links from a position on. -/
theorem split?_offset (bound : i ≤ text.toList.length) :
    split? text (offset text.toList i) ((linksFrom text.toList i).map (Span.ofLink text.toList)) =
      some (split i (text.toList.drop i) (linksFrom text.toList i)) := by
  refine linksFrom_induction (motive := fun i links =>
    split? text (offset text.toList i) (links.map (Span.ofLink text.toList)) =
      some (split i (text.toList.drop i) links)) ?_ ?_ bound
  · intro i bound _
    have rest := piece?_offset bound (Nat.le_refl _)
    rw [Text.offset_length, ← Text.bytes_eq,
      List.take_of_length_le (Nat.le_of_eq List.length_drop)] at rest
    exact rest
  · intro i _ link found later
    have filled := Nat.le_of_lt found.filled
    have before := piece?_offset found.after (Nat.le_trans filled found.bound)
    have inside := Text.slice?_between text filled
    have toStart : i + (link.start - i) = link.start := Nat.add_sub_cancel' found.after
    have toStop : link.start + (link.stop - link.start) = link.stop := Nat.add_sub_cancel' filled
    rw [List.map_cons, split?, split, List.splitAt_eq, List.drop_drop, toStart]
    simp only [Span.ofLink, List.splitAt_eq, List.drop_drop, toStop, before, inside, later,
      Option.bind_eq_bind, Option.bind_some]
    rfl

theorem expand?_eq (depth : Nat) (e : Event) : expand? depth e = some (expand depth e) := by
  cases e with
  | text s =>
    unfold expand? expand
    dsimp only
    split
    · rw [find?_eq, splitText]
      cases found : find s with
      | nil => rfl
      | cons link rest =>
        have splits := @split?_offset s 0 (Nat.zero_le _)
        rw [← find_eq_linksFrom, found] at splits
        exact splits
    · rfl
  | _ => rfl

theorem linkFrom?_eq (depth : Nat) (events : List Event) :
    linkFrom? depth events = some (linkFrom depth events) := by
  induction events generalizing depth with
  | nil => rfl
  | cons e rest ih =>
    rw [linkFrom?, expand?_eq, ih]
    rfl

theorem link?_eq (events : List Event) : link? events = some (link events) := by
  rw [link?, linkFrom?_eq, link_eq]

end Bytewise

/-! ### The offsets reported -/

variable {text : String} {cs : List Char} {i : Nat}

/-- The offsets that are reported are those of the positions. -/
theorem byteOffsets_eq (text : String) :
    (byteOffsets text).toList = (List.range (text.toList.length + 1)).map (offset text.toList) := by
  rw [byteOffsets]
  generalize text.toList = cs
  induction cs using List.reverseRecOn with
  | nil => rfl
  | append_singleton front c ih =>
    have last : (front.foldl (fun out c => out.push (out.back?.getD 0 + c.utf8Size)) #[0]).back? =
        some (offset front front.length) := by
      rw [← Array.getLast?_toList, ih, List.range_succ, List.map_append]
      exact List.getLast?_concat
    have earlier : ∀ k ∈ List.range (front.length + 1), offset (front ++ [c]) k = offset front k := by
      intro k member
      rw [offset, List.take_append_of_le_length (Nat.le_of_lt_succ (List.mem_range.1 member))]
      rfl
    have whole : offset (front ++ [c]) (front.length + 1) =
        offset front front.length + c.utf8Size := by
      have inside : front.length < (front ++ [c]).length := by simp
      rw [Text.offset_succ inside, earlier _ (List.mem_range.2 (Nat.lt_succ_self _))]
      simp
    have longer : List.range ((front ++ [c]).length + 1) =
        List.range (front.length + 1) ++ [front.length + 1] := by
      rw [List.length_append, List.length_singleton, ← List.range_succ]
    rw [List.foldl_append, List.foldl_cons, List.foldl_nil, Array.toList_push, ih, last, longer,
      List.map_append, List.map_congr_left earlier, List.map_singleton, whole]
    rfl

theorem byteOffsets_getD (bound : i ≤ text.toList.length) :
    (byteOffsets text).getD i 0 = offset text.toList i := by
  rw [Array.getD_eq_getD_getElem?, ← Array.getElem?_toList, byteOffsets_eq, List.getElem?_map,
    List.getElem?_range (Nat.lt_succ_of_le bound)]
  rfl

/-- What the scanner finds from a position on lies behind it, in order and without overlaps. -/
theorem linksFrom_ordered (bound : i ≤ cs.length) :
    (∀ link ∈ linksFrom cs i, i ≤ link.start ∧ link.start < link.stop ∧ link.stop ≤ cs.length) ∧
      (linksFrom cs i).Pairwise fun first second => first.stop ≤ second.start := by
  refine linksFrom_induction (motive := fun i links =>
    (∀ link ∈ links, i ≤ link.start ∧ link.start < link.stop ∧ link.stop ≤ cs.length) ∧
      links.Pairwise fun first second => first.stop ≤ second.start) ?_ ?_ bound
  · exact fun _ _ _ => ⟨fun _ member => absurd member List.not_mem_nil, .nil⟩
  · rintro i _ link found ⟨each, ordered⟩
    have order := Nat.le_trans found.after (Nat.le_of_lt found.filled)
    refine ⟨List.forall_mem_cons.2 ⟨⟨found.after, found.filled, found.bound⟩, ?_⟩,
      List.pairwise_cons.2 ⟨fun second member => (each second member).1, ordered⟩⟩
    exact fun second member => ⟨Nat.le_trans order (each second member).1, (each second member).2⟩

/-- A span is a piece of a text, and not empty. -/
structure Span.Within (text : String) (span : Span) : Prop where
  filled : span.start < span.stop
  bound : span.stop ≤ text.utf8ByteSize
  start : IsOffset text span.start
  stop : IsOffset text span.stop

/-- Scanning the bytes of a text and cutting it at its links never reads outside the text, never cuts
inside a character and always ends. The spans found are those of the links, in order and without
overlaps, and linking by offsets gives what linking gives. -/
theorem offsets_safe (text : String) (events : List Event) :
    (∃ spans, Bytewise.find? text = some spans ∧
      spans = (find text).map (fun link => ⟨(byteOffsets text).getD link.start 0,
        (byteOffsets text).getD link.stop 0, link.href⟩) ∧
      (∀ span ∈ spans, span.Within text) ∧
      spans.Pairwise fun first second => first.stop ≤ second.start) ∧
    Bytewise.link? events = some (link events) := by
  obtain ⟨each, ordered⟩ := @linksFrom_ordered text.toList 0 (Nat.zero_le _)
  rw [← find_eq_linksFrom] at each ordered
  refine ⟨⟨_, Bytewise.find?_eq text, ?_, ?_, ?_⟩, Bytewise.link?_eq events⟩
  · refine List.map_congr_left fun link member => ?_
    obtain ⟨-, filled, bound⟩ := each link member
    rw [byteOffsets_getD bound, byteOffsets_getD (Nat.le_trans (Nat.le_of_lt filled) bound)]
    rfl
  · intro span member
    obtain ⟨link, found, rfl⟩ := List.mem_map.1 member
    obtain ⟨-, filled, bound⟩ := each link found
    refine ⟨Text.offset_lt_offset filled bound, ?_, Text.isOffset_offset _ _, Text.isOffset_offset _ _⟩
    rw [← Text.length_bytes, Text.bytes_eq]
    exact Text.offset_le_length _ _
  · exact List.pairwise_map.2 (ordered.imp (Text.offset_le_offset _))

example : Bytewise.find? "é (www.a.b/ü—." = some [⟨4, 17, "http://www.a.b/ü—"⟩] := by
  rw [Bytewise.find?_eq]
  decide +kernel

end PagePress.Autolink
