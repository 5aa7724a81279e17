import PagePress.Proofs.Autolink.Bytewise

/-!
# Where an address ends

An address ends at the last place in its run where it may: behind a character that is not punctuation
of the kind left outside, nor a closing parenthesis of which the span up to there has too many
(`LastEnd`). The parentheses are counted once over the whole run and counted down as they are trimmed;
they come out as if they were counted anew in every span, because nothing that is trimmed is an opening
one.
-/
namespace PagePress.Autolink

open Text (utf8 bytes offset Ascii)

/-- Whether the character at the end of a span is left outside. -/
def LeftOut (c : Char) (span : List Char) : Prop :=
  isTrailing c = true ∨ c = ')' ∧ span.count '(' < span.count ')'

instance (c : Char) (span : List Char) : Decidable (LeftOut c span) :=
  inferInstanceAs (Decidable (_ ∨ _))

/-- Whether a span may end where it does. -/
def EndsWell (span : List Char) : Prop := ∃ front c, span = front ++ [c] ∧ ¬ LeftOut c span

/-- The last place in a run where an address may end. -/
structure LastEnd (run : List Char) (n : Nat) : Prop where
  bound : n ≤ run.length
  well : EndsWell (run.take n)
  last : ∀ m, n < m → m ≤ run.length → ¬ EndsWell (run.take m)

/-- Trims a span, last character first, with the parentheses counted anew before each of them. -/
def trimEndRecounting : List Char → List Char
  | [] => []
  | c :: rest =>
    if LeftOut c (c :: rest) then trimEndRecounting rest else c :: rest

/-- A run trimmed with the parentheses counted anew in every span. -/
def trimRecounting (run : List Char) : List Char := (trimEndRecounting run.reverse).reverse

/-- An address in a run: it ends at the last place where it may, goes on behind its scheme and begins
there with a dotted name, up to its end or to a character that ends a host. -/
structure AddressEnds (s : Scheme) (run : List Char) (n : Nat) : Prop where
  last : LastEnd run n
  more : s.hostStart < n
  host : ∃ name rest, (run.take n).drop s.hostStart = name ++ rest ∧ DottedName name ∧
    ∀ c, rest.head? = some c → endsHost c = true

variable {run front url : List Char} {c : Char} {n : Nat} {s : Scheme}

/-! ### Counting once -/

/-- The counts kept while trimming are those of the span that is left. -/
theorem trimEnd_eq_recounting (span : List Char) :
    trimEnd (span.count '(') (span.count ')') span = trimEndRecounting span := by
  induction span with
  | nil => rfl
  | cons c rest ih =>
    rw [trimEnd, trimEndRecounting]
    by_cases trailing : isTrailing c = true
    · have opening : c ≠ '(' := by rintro rfl; cases trailing
      have closing : c ≠ ')' := by rintro rfl; cases trailing
      rw [if_pos trailing, if_pos (.inl trailing), List.count_cons_of_ne opening,
        List.count_cons_of_ne closing, ih]
    · rw [if_neg trailing]
      by_cases surplus : c = ')' ∧ (c :: rest).count '(' < (c :: rest).count ')'
      · rw [if_pos (by simpa using surplus), if_pos (.inr surplus)]
        obtain ⟨rfl, -⟩ := surplus
        rw [List.count_cons_self, Nat.add_sub_cancel, List.count_cons_of_ne (by decide), ih]
      · have kept : ¬ LeftOut c (c :: rest) := not_or.2 ⟨trailing, surplus⟩
        rw [if_neg (by simpa using surplus), if_neg kept]

theorem trim_eq_recounting (run : List Char) : trim run = trimRecounting run := by
  rw [trim, trimRecounting, ← trimEnd_eq_recounting, List.count_reverse, List.count_reverse]

/-! ### The last end -/

theorem endsWell_concat : EndsWell (front ++ [c]) ↔ ¬ LeftOut c (front ++ [c]) := by
  constructor
  · rintro ⟨_, _, same, well⟩
    obtain ⟨-, last⟩ := List.append_inj' same rfl
    obtain rfl := List.singleton_inj.1 last
    exact well
  · exact fun well => ⟨front, c, rfl, well⟩

theorem trimRecounting_concat (front : List Char) (c : Char) : trimRecounting (front ++ [c]) =
    if LeftOut c (front ++ [c]) then trimRecounting front else front ++ [c] := by
  have counts : ∀ d, (c :: front.reverse).count d = (front ++ [c]).count d := fun d => by
    rw [← List.count_reverse, List.reverse_cons, List.reverse_reverse]
  have same : LeftOut c (c :: front.reverse) ↔ LeftOut c (front ++ [c]) := by
    rw [LeftOut, LeftOut, counts, counts]
  rw [trimRecounting, List.reverse_append, List.reverse_singleton, List.singleton_append,
    trimEndRecounting]
  by_cases outside : LeftOut c (front ++ [c])
  · rw [if_pos outside, if_pos (same.2 outside), trimRecounting]
  · rw [if_neg outside, if_neg (mt same.1 outside), List.reverse_cons, List.reverse_reverse]

/-- Only the end that trimming leaves is the last one. The induction takes away the last character of
the run: where it may end there, that is its last end, and otherwise the last end lies before. -/
theorem lastEnd_iff : LastEnd run n ↔ 0 < n ∧ n = (trimRecounting run).length := by
  induction run using List.reverseRecOn with
  | nil =>
    refine ⟨fun ⟨_, ⟨front, c, same, _⟩, _⟩ => ?_, fun ⟨positive, same⟩ => ?_⟩
    · rw [List.take_nil] at same
      exact absurd same (List.append_ne_nil_of_right_ne_nil _ (List.cons_ne_nil _ _)).symm
    · exact absurd same (Nat.ne_of_gt positive)
  | append_singleton front c ih =>
    have whole : (front ++ [c]).take (front.length + 1) = front ++ [c] :=
      List.take_of_length_le (by simp)
    have shorter : ∀ m, m ≤ front.length → (front ++ [c]).take m = front.take m :=
      fun m inside => List.take_append_of_le_length inside
    have length : (front ++ [c]).length = front.length + 1 := List.length_append
    rw [trimRecounting_concat]
    by_cases well : EndsWell (front ++ [c])
    · rw [if_neg (endsWell_concat.1 well), length]
      constructor
      · rintro ⟨bound, -, last⟩
        rw [length] at bound last
        have reached : ¬ n < front.length + 1 := fun early =>
          last _ early (Nat.le_refl _) (whole.symm ▸ well)
        omega
      · rintro ⟨-, rfl⟩
        exact ⟨Nat.le_of_eq length.symm, whole.symm ▸ well, fun m later inside =>
          absurd (length ▸ inside) (Nat.not_le_of_lt later)⟩
    · rw [if_pos (not_not.1 (mt endsWell_concat.2 well)), ← ih]
      constructor
      · rintro ⟨bound, fine, last⟩
        have before : n ≤ front.length := by
          rw [length] at bound
          refine Nat.le_of_lt_succ (Nat.lt_of_le_of_ne bound fun full => ?_)
          rw [full, whole] at fine
          exact well fine
        refine ⟨before, shorter n before ▸ fine, fun m later inside => ?_⟩
        rw [← shorter m inside]
        exact last m later (by omega)
      · rintro ⟨bound, fine, last⟩
        refine ⟨by omega, (shorter n bound).symm ▸ fine, fun m later inside => ?_⟩
        rcases Nat.lt_or_ge front.length m with behind | within
        · obtain rfl : m = front.length + 1 := by omega
          rwa [whole]
        · rw [shorter m within]
          exact last m later within

theorem LastEnd.take_eq (last : LastEnd run n) : run.take n = trim run := by
  obtain ⟨-, rfl⟩ := lastEnd_iff.1 last
  rw [← trim_eq_recounting]
  exact (List.prefix_iff_eq_take.1 (trim_isPrefix run)).symm

/-- A dotted name in front of a character that ends a host is the whole host. -/
theorem dottedName_host_iff : DottedName (host s url) ↔
    ∃ name rest, url.drop s.hostStart = name ++ rest ∧ DottedName name ∧
      ∀ c, rest.head? = some c → endsHost c = true := by
  rw [host_eq]
  constructor
  · intro named
    refine ⟨_, _, List.takeWhile_append_dropWhile.symm, named, fun c next => ?_⟩
    have ended := List.head?_dropWhile_not (fun c => !endsHost c) (url.drop s.hostStart)
    simpa [next] using ended
  · rintro ⟨name, rest, whole, named, ended⟩
    have plain : ∀ c ∈ name, (!endsHost c) = true := by
      intro c member
      have valid := isHost_iff.2 named
      rw [isHost, Bool.and_eq_true, List.all_eq_true] at valid
      have own := valid.2 c member
      by_contra ends
      simp only [endsHost, Bool.not_eq_true', Bool.not_eq_false, Bool.or_eq_true, beq_iff_eq] at ends
      rcases ends with ((rfl | rfl) | rfl) | rfl <;> exact absurd own (by decide)
    have stops : rest.takeWhile (fun c => !endsHost c) = [] := by
      cases rest with
      | nil => rfl
      | cons c rest => simp [ended c rfl]
    rwa [whole, List.takeWhile_append_of_pos plain, stops, List.append_nil]

/-- An address is found in a run exactly if there is one, and it is that one. -/
theorem url?_eq_some_iff : url? s run = some url ↔ ∃ n, AddressEnds s run n ∧ url = run.take n := by
  constructor
  · intro accepted
    obtain ⟨rfl, filled⟩ := url?_eq_some accepted
    have last : LastEnd run (trim run).length :=
      lastEnd_iff.2 ⟨filled, congrArg List.length (trim_eq_recounting run)⟩
    have valid : isHost (host s (trim run)) = true := by
      by_contra other
      rw [url?, if_neg other] at accepted
      cases accepted
    refine ⟨_, ⟨last, ?_, ?_⟩, last.take_eq.symm⟩
    · refine Nat.lt_of_not_le fun short => ?_
      rw [host_of_short short] at valid
      cases valid
    · rw [last.take_eq]
      exact dottedName_host_iff.1 (isHost_iff.1 valid)
  · rintro ⟨n, ⟨last, -, named⟩, rfl⟩
    rw [last.take_eq] at named ⊢
    exact if_pos (isHost_iff.2 (dottedName_host_iff.2 named))

/-! ### Byte by byte -/

/-- The bytes of characters, each read as a character. -/
def octets (cs : List Char) : List Char := (utf8 cs).map Char.ofUInt8

theorem octets_concat (front : List Char) (c : Char) :
    octets (front ++ [c]) = octets front ++ octets [c] := by
  rw [octets, Text.utf8_append, List.map_append]
  rfl

theorem octets_of_ascii (small : c.toNat < 128) : octets [c] = [c] := by
  obtain ⟨b, single, same⟩ := Text.utf8EncodeChar_of_ascii small
  simp [octets, utf8, single, same]

theorem count_octets (small : c.toNat < 128) (cs : List Char) : (octets cs).count c = cs.count c := by
  rw [octets, List.count, List.countP_map]
  exact Text.countP_utf8 (Text.ascii_beq.2 small) cs

/-- The last byte of a character is of the same kind as the character. -/
theorem octets_last (c : Char) : ∃ d others, (octets [c]).reverse = d :: others ∧
    ∀ kind : Char → Bool, Ascii kind → kind d = kind c := by
  have filled : (octets [c]).reverse ≠ [] := by simp [octets, utf8]
  obtain ⟨d, others, shape⟩ := List.exists_cons_of_ne_nil filled
  have member : d ∈ octets [c] := List.mem_reverse.1 (shape ▸ List.mem_cons_self)
  obtain ⟨b, own, rfl⟩ := List.mem_map.1 member
  refine ⟨_, others, shape, fun kind ascii => Text.kind_of_mem ascii ?_⟩
  simpa [utf8] using own

theorem trimEnd_octets (opened closed : Nat) (span : List Char) :
    trimEnd opened closed (octets span.reverse).reverse =
      (octets (trimEnd opened closed span).reverse).reverse := by
  have shape : ∀ c rest, (octets (c :: rest).reverse).reverse =
      (octets [c]).reverse ++ (octets rest.reverse).reverse := fun c rest => by
    rw [List.reverse_cons, octets_concat, List.reverse_append]
  fun_induction trimEnd opened closed span with
  | case1 => rfl
  | case2 closed c rest trailing ih =>
    rw [shape, octets_of_ascii (isTrailing_ascii c trailing), List.reverse_singleton,
      List.singleton_append, trimEnd, if_pos trailing, ih]
  | case3 closed c rest kept surplus ih =>
    have paren : c = ')' := eq_of_beq (Bool.and_eq_true_iff.1 surplus).1
    rw [shape, octets_of_ascii (by rw [paren]; decide), List.reverse_singleton,
      List.singleton_append, trimEnd, if_neg kept, if_pos surplus, ih]
  | case4 closed c rest kept fits =>
    obtain ⟨d, others, reversed, same⟩ := octets_last c
    have paren : (d == ')') = (c == ')') := same (· == ')') (by simp)
    rw [shape, reversed, List.cons_append, trimEnd, same _ isTrailing_ascii, paren, if_neg kept,
      if_neg fits]

/-- Trimming the bytes of a run leaves the bytes of the trimmed run. -/
theorem trim_octets (run : List Char) : trim (octets run) = octets (trim run) := by
  have same := trimEnd_octets (run.count '(') (run.count ')') run.reverse
  rw [List.reverse_reverse] at same
  rw [trim, count_octets (by decide), count_octets (by decide), same, List.reverse_reverse]
  rfl

theorem length_octets (cs : List Char) : (octets cs).length = (utf8 cs).length := List.length_map _

/-- The last end counted in bytes is at the same place. -/
theorem lastEnd_octets_iff {e : Nat} :
    LastEnd (octets run) e ↔ ∃ n, LastEnd run n ∧ e = (utf8 (run.take n)).length := by
  rw [lastEnd_iff, ← trim_eq_recounting, trim_octets, length_octets]
  constructor
  · rintro ⟨positive, rfl⟩
    have last : LastEnd run (trim run).length := by
      refine lastEnd_iff.2 ⟨List.length_pos_iff.2 fun empty => ?_, by rw [← trim_eq_recounting]⟩
      rw [empty] at positive
      cases positive
    exact ⟨_, last, by rw [last.take_eq]⟩
  · rintro ⟨n, last, rfl⟩
    rw [last.take_eq]
    obtain ⟨positive, same⟩ := lastEnd_iff.1 last
    rw [← trim_eq_recounting] at same
    obtain ⟨c, rest, shape⟩ := List.exists_cons_of_length_pos (same ▸ positive)
    refine ⟨?_, rfl⟩
    rw [shape, Text.utf8_cons, List.length_append]
    exact Nat.add_pos_left (Text.utf8EncodeChar_length_pos c) _

/-- At every candidate, the end that is found is the last one at which the span of its run may end, if
a host stands in front of it, and none otherwise; on characters and on bytes, and with the parentheses
counted once as with recounting them. -/
theorem url?_ends {text : String} {i : Nat} {s : Scheme}
    (candidate : scheme? text.toList i = some s) :
    let run := stretch (text.toList.drop i)
    let start := offset text.toList i
    (∀ url, url? s run = some url ↔ ∃ n, AddressEnds s run n ∧ url = run.take n) ∧
    Bytewise.runEnd? (bytes text) start = some (start + (utf8 run).length) ∧
    (∃ found,
      Bytewise.urlEnd? text start (start + (utf8 run).length) (utf8 s.text).length = some found ∧
      ∀ stop, found = some stop ↔ ∃ n, AddressEnds s run n ∧ stop = offset text.toList (i + n)) ∧
    (∀ e, LastEnd (octets run) e ↔ ∃ n, LastEnd run n ∧ e = (utf8 (run.take n)).length) ∧
    trim run = trimRecounting run ∧ trim (octets run) = trimRecounting (octets run) := by
  intro run start
  have begins : run <+: text.toList.drop i := List.takeWhile_prefix _
  have ends := Bytewise.urlEnd?_offset (scheme?_eq_some_iff.1 candidate).2 begins
  refine ⟨fun url => url?_eq_some_iff, by rw [Text.bytes_eq]; exact Bytewise.runEnd?_offset _ _,
    ⟨_, ends, fun stop => ?_⟩, fun e => lastEnd_octets_iff, trim_eq_recounting _,
    trim_eq_recounting _⟩
  have place : ∀ n, AddressEnds s run n →
      start + (utf8 (run.take n)).length = offset text.toList (i + n) := by
    intro n address
    rw [← Text.offset_add_length ((List.take_prefix n run).trans begins), List.length_take,
      Nat.min_eq_left address.last.bound]
  rw [Option.map_eq_some_iff]
  constructor
  · rintro ⟨url, accepted, rfl⟩
    obtain ⟨n, address, rfl⟩ := url?_eq_some_iff.1 accepted
    exact ⟨n, address, place n address⟩
  · rintro ⟨n, address, rfl⟩
    exact ⟨_, url?_eq_some_iff.2 ⟨n, address, rfl⟩, place n address⟩

/-- The closing parenthesis that belongs to the address stays, the one around it does not. -/
theorem url?_ends_parenthesis :
    let text := "(https://a.b/c_(d))"
    scheme? text.toList 1 = some .https ∧
    ∃ n, AddressEnds .https (stretch (text.toList.drop 1)) n ∧
      "https://a.b/c_(d)".toList = (stretch (text.toList.drop 1)).take n := by
  intro text
  have candidate : scheme? text.toList 1 = some .https := by decide +kernel
  have found : url? .https (stretch (text.toList.drop 1)) = some "https://a.b/c_(d)".toList := by
    decide +kernel
  exact ⟨candidate, ((url?_ends candidate).1 _).1 found⟩

end PagePress.Autolink
