import PagePress.Proofs.Math.Calls

/-!
# Where reading a formula stops the program

The readers take tokens from the front, so that they put no more calls inside each other than three
for every token and two. With that much room only `middleDelimiter` stops the program, and a formula
in which every middle delimiter is followed by an operator or a parenthesis is read or refused. A
middle delimiter before a letter or a number does stop the program if it is reached, as it is after
tokens that are formulas by themselves. But no room is enough for all formulas: there are chains of
exponents that are too long for it, and they have no braces.
-/
namespace PagePress.Math

namespace Parser

/-- Tokens that begin with an operator or a parenthesis without a prime. -/
def startsDelimiter : Tokens → Bool
  | .operator _ :: rest | .fence _ :: rest => first rest != .operator '\x27'
  | _ => false

/-- What follows each middle delimiter is a delimiter. -/
def Delimited (ts : Tokens) : Prop :=
  ∀ after, .middle :: after <:+ ts → startsDelimiter after = true

/-! ### Steps without calls -/

theorem letters_suffix (ts : Tokens) : (letters ts).2 <:+ ts := by
  fun_induction letters ts with
  | case1 c v rest cs tail read ih =>
    rw [read] at ih
    exact List.IsSuffix.trans ih (List.suffix_cons _ _)
  | case2 ts => exact List.suffix_refl ts

theorem bracedText_suffix (ts : Tokens) : (bracedText ts).2 <:+ ts :=
  ((List.drop_suffix 1 _).trans (letters_suffix _)).trans (List.drop_suffix 1 ts)

theorem withPrime_suffix (f : Formula) (ts : Tokens) : (withPrime f ts).2 <:+ ts := by
  unfold withPrime
  split
  · exact List.suffix_cons _ _
  · exact List.suffix_refl ts

theorem withPrime_of_first {f : Formula} {ts : Tokens} (h : first ts ≠ .operator '\x27') :
    withPrime f ts = (f, ts) := by
  unfold withPrime
  split
  · exact absurd rfl h
  · rfl

/-- What begins with a delimiter is read as that delimiter. -/
theorem reader_of_startsDelimiter {ts : Tokens} (h : startsDelimiter ts = true) :
    ∃ f s, reader .single ts = .done (f, ts.drop 1) ∧ middleDelimiter f = .ok (.stretched s) := by
  unfold startsDelimiter at h
  split at h
  next c rest =>
    refine ⟨.operator c, c.toString, ?_, rfl⟩
    show Reading.done (withPrime (.operator c) rest) = _
    rw [withPrime_of_first (by simpa using h)]
    rfl
  next s rest =>
    refine ⟨.fence s, s, ?_, rfl⟩
    show Reading.done (withPrime (.fence s) rest) = _
    rw [withPrime_of_first (by simpa using h)]
    rfl
  next => cases h

/-! ### Room for all calls -/

/-- The calls that a reader may put inside each other at one token, its own among them. -/
def Part.rank : Part → Nat
  | .single => 1
  | .node => 2
  | .group _ => 3

/-- The readers are called inside a text with room for three calls at each token, and leave a rest of
their tokens. Reading a formula uses up a token, and one that begins with a delimiter is that
delimiter. There is always room, and only a middle delimiter before something else stops the
program. -/
def roomy (text : Tokens) : Contract where
  asks room part ts := ts <:+ text ∧ 3 * ts.length + part.rank ≤ room
  answers part ts x :=
    match part with
    | .node => x.2 <:+ ts.drop 1
    | .single => x.2 <:+ ts.drop 1 ∧
      (startsDelimiter ts = true → ∃ s, middleDelimiter x.1 = .ok (.stretched s))
    | .group _ => x.2 <:+ ts
  fails failure := failure ≠ .noRoom ∧ (Delimited text → failure ≠ .badMiddle)

section Roomy

variable {text ts us : Tokens} {room : Nat}

/-- A rest of the tokens after any formula. -/
abbrev Rest (ts : Tokens) : Formula × Tokens → Prop := Leaves (fun _ => True) (· <:+ ts)

theorem suffix_of_answers {part : Part} {x : Formula × Tokens}
    (answered : (roomy text).answers part ts x) : x.2 <:+ ts := by
  have tail := List.drop_suffix 1 ts
  cases part with
  | node => exact List.IsSuffix.trans answered tail
  | single => exact answered.1.trans tail
  | group closing => exact answered

/-- Every call on a rest of the tokens leaves one, with room for it. -/
theorem call_rest (part : Part) (inside : ts <:+ text) (fits : 3 * ts.length + part.rank ≤ room)
    (suffix : us <:+ ts) : (Reading.calls part us .done).Keeps (roomy text) room (Rest ts) := by
  have less := suffix.length_le
  have asked : (roomy text).asks room part us := by
    refine ⟨suffix.trans inside, ?_⟩
    omega
  exact (keeps_call asked).mono fun x answered => ⟨trivial, (suffix_of_answers answered).trans suffix⟩

theorem parenthesis_rest (place : Token) (dot : Bool) (suffix : us <:+ ts) :
    (Reading.ofExcept (parenthesis place dot us)).Keeps (roomy text) room (·.2 <:+ ts) := by
  have behind : us.drop 1 <:+ ts := (List.drop_suffix 1 us).trans suffix
  unfold parenthesis
  split
  · exact behind
  · cases dot with
    | false => exact ⟨nofun, fun _ => nofun⟩
    | true => exact behind
  · exact ⟨nofun, fun _ => nofun⟩

theorem environment_fails (name : String) (content : Formula) :
    (Reading.ofExcept (environment name content)).Keeps (roomy text) room fun _ => True := by
  unfold environment
  split <;> try trivial
  exact ⟨nofun, fun _ => nofun⟩

theorem middleDelimiter_fails {f : Formula} (inside : .middle :: ts <:+ text)
    (delimiter : startsDelimiter ts = true → ∃ s, middleDelimiter f = .ok (.stretched s)) :
    (Reading.ofExcept (middleDelimiter f)).Keeps (roomy text) room fun _ => True := by
  cases found : middleDelimiter f with
  | ok g => trivial
  | error failure =>
    have only : failure = .badMiddle := by
      unfold middleDelimiter at found
      split at found <;> cases found
      rfl
    refine ⟨by simp [only], fun delimited => ?_⟩
    obtain ⟨s, read⟩ := delimiter (delimited ts inside)
    cases found.symm.trans read

/-- A part leaves a rest of its tokens, with room for the readers that it calls. -/
theorem unprimed_rest {token : Token} (inside : token :: ts <:+ text)
    (fits : 3 * ts.length + 3 ≤ room) :
    (unprimed token ts).Keeps (roomy text) room (Rest ts) := by
  have whole := List.suffix_refl ts
  have rests := (List.suffix_cons token ts).trans inside
  have nodes : ∀ us, us <:+ ts → (node us).Keeps (roomy text) room (Rest ts) :=
    fun _ => call_rest .node rests (Nat.le_of_succ_le fits)
  have singles : ∀ us, us <:+ ts → (single us).Keeps (roomy text) room (Rest ts) :=
    fun _ => call_rest .single rests (Nat.le_of_succ_le (Nat.le_of_succ_le fits))
  have groups : ∀ closing us, us <:+ ts → (group closing us).Keeps (roomy text) room (Rest ts) :=
    fun closing _ => call_rest (.group closing) rests fits
  have drop : ∀ us, us <:+ ts → us.drop 1 <:+ ts :=
    fun us suffix => (List.drop_suffix 1 us).trans suffix
  have tail : ∀ {token us}, token :: us <:+ ts → us <:+ ts :=
    fun suffix => (List.suffix_cons _ _).trans suffix
  have one : ∀ make, (ofNode make ts).Keeps (roomy text) room (Rest ts) :=
    fun make => keeps_ofNode nodes whole fun _ _ => trivial
  have two : ∀ make, (ofNodes make ts).Keeps (roomy text) room (Rest ts) :=
    fun make => keeps_ofNodes nodes whole fun _ _ _ _ => trivial
  have script : ∀ mark scripted bare us, us <:+ ts →
      (withScript mark scripted bare us).Keeps (roomy text) room (Rest ts) :=
    fun mark scripted bare us suffix =>
      keeps_withScript singles drop suffix mark (fun _ _ => trivial) trivial
  cases token with
  | squareRoot =>
    dsimp only [unprimed]
    split
    next =>
      refine (groups _ _ (tail whole)).bind fun (degree, rest) ⟨_, suffix⟩ => ?_
      exact keeps_ofNode nodes suffix fun _ _ => trivial
    next => exact one .squareRoot
  | fraction | overset | underset => exact two _
  | binomial => exact two fun top bottom => .fenced "(" ")" (.fraction false top bottom)
  | «over» mark | under mark | style v => exact one _
  | overbrace mark | underbrace mark =>
    refine (singles _ whole).bind fun (base, rest) ⟨_, suffix⟩ => ?_
    exact script _ _ _ _ suffix
  | bigOperator c | integral c =>
    dsimp only [unprimed]
    split
    next =>
      refine (singles _ (tail whole)).bind fun (below, rest) ⟨_, suffix⟩ => ?_
      exact script _ _ _ _ suffix
    next =>
      refine (singles _ (tail whole)).bind fun (above, rest) ⟨_, suffix⟩ => ?_
      exact script _ _ _ _ suffix
    next => exact ⟨trivial, whole⟩
  | limit name => exact script .subscript (.under · (.function name)) (.function name) ts whole
  | slashed =>
    refine (nodes _ (drop ts whole)).bind fun (content, rest) ⟨_, suffix⟩ => ?_
    exact ⟨trivial, drop rest suffix⟩
  | openBrace => exact groups .closeBrace ts whole
  | left =>
    refine (parenthesis_rest .left true whole).bind fun (opening, rest) suffix => ?_
    refine (groups .right rest suffix).bind fun (content, rest) ⟨_, suffix⟩ => ?_
    refine (parenthesis_rest .right true suffix).bind fun (closing, rest) suffix => ?_
    exact ⟨trivial, suffix⟩
  | middle =>
    have enough : 3 * ts.length + 1 ≤ room := by omega
    have asked : (roomy text).asks room .single ts := ⟨rests, enough⟩
    refine (keeps_call asked).bind fun (f, rest) ⟨suffix, delimiter⟩ => ?_
    refine (middleDelimiter_fails inside delimiter).bind fun f _ => ?_
    exact ⟨trivial, List.IsSuffix.trans suffix (List.drop_suffix 1 ts)⟩
  | sized size =>
    refine (parenthesis_rest (.sized size) false whole).bind fun (paren, rest) suffix => ?_
    exact ⟨trivial, suffix⟩
  | openEnvironment =>
    refine (groups .closeEnvironment _ (bracedText_suffix ts)).bind
      fun (content, rest) ⟨_, suffix⟩ => ?_
    refine (environment_fails _ content).bind fun f _ => ?_
    exact ⟨trivial, (bracedText_suffix rest).trans suffix⟩
  | operatorName => exact ⟨trivial, bracedText_suffix ts⟩
  | text => exact ⟨trivial, bracedText_suffix ts⟩
  | _ => exact ⟨trivial, whole⟩

theorem unprimed_first (inside : ts <:+ text) (fits : 3 * ts.length ≤ room) :
    (unprimed (first ts) (ts.drop 1)).Keeps (roomy text) room (Rest (ts.drop 1)) := by
  cases ts with
  | nil => exact ⟨trivial, List.suffix_refl []⟩
  | cons token ts => exact unprimed_rest inside fits

theorem reader_rest (part : Part) (asked : (roomy text).asks (room + 1) part ts) :
    (reader part ts).Keeps (roomy text) room ((roomy text).answers part ts) := by
  obtain ⟨inside, fits⟩ := asked
  cases part with
  | single =>
    have enough : 3 * ts.length ≤ room := Nat.le_of_succ_le_succ fits
    cases starts : startsDelimiter ts with
    | true =>
      obtain ⟨f, s, read, delimiter⟩ := reader_of_startsDelimiter starts
      rw [read]
      exact ⟨List.suffix_refl _, fun _ => ⟨s, delimiter⟩⟩
    | false =>
      refine (unprimed_first inside enough).bind fun (f, rest) ⟨_, suffix⟩ => ?_
      refine ⟨(withPrime_suffix f rest).trans suffix, fun other => ?_⟩
      exact absurd (starts.symm.trans other) nofun
  | node =>
    have enough : 3 * ts.length + 1 ≤ room := Nat.le_of_succ_le_succ fits
    have asked : (roomy text).asks room .single ts := ⟨inside, enough⟩
    refine (keeps_call asked).bind fun (base, rest) ⟨suffix, _⟩ => ?_
    have behind := suffix.trans (List.drop_suffix 1 ts)
    -- The token before an exponent or an index is used up, which makes room for the next formula.
    have script : ∀ {token us} make, rest = token :: us →
        (ofNode make us).Keeps (roomy text) room (·.2 <:+ ts.drop 1) := by
      rintro token us make rfl
      have less := behind.length_le
      rw [List.length_cons] at less
      have later := (List.suffix_cons token us).trans suffix
      have fits : 3 * us.length + 2 ≤ room := by omega
      have rests := (List.suffix_cons token us).trans (behind.trans inside)
      refine (call_rest .node rests fits (List.suffix_refl us)).bind fun (f, rest) ⟨_, suffix⟩ => ?_
      exact suffix.trans later
    dsimp only
    unfold indexed
    split
    · exact script _ rfl
    · exact script _ rfl
    · exact suffix
  | group closing =>
    have enough : 3 * ts.length + 2 ≤ room := Nat.le_of_succ_le_succ fits
    have nodes : ∀ us, us <:+ ts → (node us).Keeps (roomy text) room (Rest ts) :=
      fun _ => call_rest .node inside enough
    have drop : ∀ us, us <:+ ts → us.drop 1 <:+ ts :=
      fun us suffix => (List.drop_suffix 1 us).trans suffix
    have unclosed : (roomy text).fails (.unexpectedToken closing .endOfInput) :=
      ⟨nofun, fun _ => nofun⟩
    refine (keeps_items drop nodes unclosed ts.length (List.suffix_refl ts)).bind
      fun (fs, rest) ⟨_, suffix⟩ => ?_
    exact suffix

end Roomy

/-! ### Formulas that stop the program -/

/-- A token that is a formula by itself, whatever stands around it. -/
def isPlain : Token → Bool
  | .number _ | .letter .. | .fence _ | .function _ | .space _ => true
  | .operator c => c != '\x27'
  | _ => false

/-- A token that is a formula by itself, and no delimiter. -/
def isLetterOrNumber : Token → Bool
  | .number _ | .letter .. => true
  | _ => false

theorem read_single (room : Nat) (ts : Tokens) :
    read (room + 1) .single ts = (unprimed (first ts) (ts.drop 1)).run (read room) >>=
      fun (f, rest) => .ok (withPrime f rest) := Reading.run_bind ..

theorem read_node (room : Nat) (ts : Tokens) :
    read (room + 1) .node ts = read room .single ts >>=
      fun (base, rest) => (indexed base rest).run (read room) := rfl

theorem indexed_of_first {base : Formula} {ts : Tokens} (noIndex : first ts ≠ .subscript)
    (noExponent : first ts ≠ .superscript) : indexed base ts = .done (base, ts) := by
  unfold indexed
  split
  · exact absurd rfl noIndex
  · exact absurd rfl noExponent
  · rfl

/-- A plain token is a formula by itself before another one and before a middle delimiter. -/
theorem read_plain (room : Nat) {token : Token} {ts : Tokens} (plain : isPlain token = true)
    (next : isPlain (first ts) = true ∨ first ts = .middle) :
    ∃ f, read (room + 2) .node (token :: ts) = .ok (f, ts) := by
  have other : ∀ token, isPlain token = false → token ≠ .middle → first ts ≠ token := by
    rintro token bare apart rfl
    rcases next with next | next
    · exact absurd (bare.symm.trans next) nofun
    · exact apart next
  obtain ⟨f, read⟩ : ∃ f, unprimed token ts = .done (f, ts) := by
    cases token with
    | number digits => exact ⟨_, rfl⟩
    | letter c v => exact ⟨_, rfl⟩
    | fence s => exact ⟨_, rfl⟩
    | function name => exact ⟨_, rfl⟩
    | space width => exact ⟨_, rfl⟩
    | operator c => exact ⟨_, rfl⟩
    | _ => cases plain
  refine ⟨f, ?_⟩
  rw [read_node, read_single]
  show (((unprimed token ts).run _ >>= _) >>= _) = _
  rw [read]
  show (indexed (withPrime f ts).1 (withPrime f ts).2).run _ = _
  rw [withPrime_of_first (other _ rfl nofun), indexed_of_first (other _ rfl nofun) (other _ rfl nofun)]
  rfl

theorem middleDelimiter_withPrime {f : Formula} (h : middleDelimiter f = .error .badMiddle)
    (ts : Tokens) : middleDelimiter (withPrime f ts).1 = .error .badMiddle := by
  unfold withPrime
  split
  · rfl
  · exact h

/-- A letter and a number are no delimiters, with a prime or without. -/
theorem read_letterOrNumber (room : Nat) {token : Token} (bad : isLetterOrNumber token = true)
    (ts : Tokens) :
    ∃ f rest, read (room + 1) .single (token :: ts) = .ok (f, rest) ∧
      middleDelimiter f = .error .badMiddle := by
  cases token with
  | number digits => exact ⟨_, _, rfl, middleDelimiter_withPrime rfl ts⟩
  | letter c v => exact ⟨_, _, rfl, middleDelimiter_withPrime rfl ts⟩
  | _ => cases bad

theorem read_middle (room : Nat) {token : Token} (bad : isLetterOrNumber token = true)
    (ts : Tokens) : read (room + 3) .node (.middle :: token :: ts) = .error .badMiddle := by
  obtain ⟨f, rest, found, stops⟩ := read_letterOrNumber room bad ts
  have middle : (unprimed .middle (token :: ts)).run (read (room + 1)) = .error .badMiddle := by
    show (read (room + 1) .single (token :: ts) >>= fun (f, rest) =>
      (Reading.ofExcept (middleDelimiter f) >>= fun f => Reading.done (f, rest)).run _) = _
    rw [found]
    show (Reading.ofExcept (middleDelimiter f) >>= fun f => Reading.done (f, rest)).run _ = _
    rw [stops]
    rfl
  rw [read_node, read_single]
  show (((unprimed .middle (token :: ts)).run _ >>= _) >>= _) = _
  rw [middle]
  rfl

/-- After plain tokens, a middle delimiter before a letter or a number stops the program. -/
theorem all_badMiddle (room : Nat) {n : Nat} {before after : Tokens} {token : Token}
    (plain : ∀ token ∈ before, isPlain token = true) (bad : isLetterOrNumber token = true)
    (more : before.length < n) :
    (all n (before ++ .middle :: token :: after)).run (read (room + 3)) = .error .badMiddle := by
  induction before generalizing n with
  | nil =>
    obtain ⟨n, rfl⟩ := Nat.exists_eq_add_of_lt more
    show (read (room + 3) .node (.middle :: token :: after) >>= _) = _
    rw [read_middle room bad]
    rfl
  | cons t before ih =>
    obtain ⟨n, rfl⟩ : ∃ k, n = k + 1 := ⟨n - 1, by omega⟩
    obtain ⟨here, later⟩ := List.forall_mem_cons.1 plain
    have next : isPlain (first (before ++ .middle :: token :: after)) = true ∨
        first (before ++ .middle :: token :: after) = .middle := by
      cases before with
      | nil => exact .inr rfl
      | cons u before => exact .inl (later u List.mem_cons_self)
    obtain ⟨f, found⟩ := read_plain (room + 1) here next
    have unfinished : t ≠ .endOfInput := by
      rintro rfl
      cases here
    rw [List.cons_append, all, if_neg (by simpa [first] using unfinished)]
    show (read (room + 3) .node (t :: (before ++ .middle :: token :: after)) >>= _) = _
    rw [found]
    show (all n (before ++ .middle :: token :: after) >>= _).run _ = _
    rw [Reading.run_bind, ih later (by simpa using more)]
    rfl

/-! ### Chains of exponents -/

/-- A letter with as many exponents, each the exponent of the one before it. -/
def chain : Nat → Tokens
  | 0 => []
  | n + 1 => .letter 'x' .italic :: .superscript :: chain n

/-- Reading a chain needs a call for each exponent. -/
theorem read_chain {room n : Nat} (long : room ≤ n) :
    read room .node (chain n) = .error .noRoom := by
  induction room generalizing n with
  | zero => rfl
  | succ room ih =>
    obtain ⟨n, rfl⟩ : ∃ k, n = k + 1 := ⟨n - 1, by omega⟩
    cases room with
    | zero => rfl
    | succ room =>
      show (read (room + 1) .node (chain n) >>= _) = _
      rw [ih (by omega)]
      rfl

end Parser

open PagePress.Math.Parser

/-- With room for all calls there is always room, and only a middle delimiter that is none stops the
program. -/
theorem fails_of_parseWithin {room : Nat} {source : String} {failure : Failure}
    (enough : roomFor (tokens source) ≤ room) (failed : parseWithin room source = .error failure) :
    failure ≠ .noRoom ∧ (Delimited (tokens source) → failure ≠ .badMiddle) := by
  have whole := List.suffix_refl (tokens source)
  have nodes : ∀ us, us <:+ tokens source →
      (node us).Keeps (roomy (tokens source)) room (Rest (tokens source)) :=
    fun _ => call_rest .node whole enough
  have empty : ∀ part ts, (roomy (tokens source)).asks 0 part ts →
      (roomy (tokens source)).fails .noRoom := by
    rintro part ts ⟨-, fits⟩
    cases part <;> exact absurd fits (by simp [Part.rank])
  have outcome := outcome_parseWithin empty (fun _ part _ => reader_rest part) nodes whole
  rw [failed] at outcome
  exact outcome

theorem parse_ne_noRoom (source : String) : parse source ≠ .error .noRoom :=
  fun failed => (fails_of_parseWithin (Nat.le_refl _) failed).1 rfl

/-- A formula whose middle delimiters are all delimiters is read or refused. -/
theorem parse_ne_badMiddle {source : String} (delimited : Delimited (tokens source)) :
    parse source ≠ .error .badMiddle :=
  fun failed => (fails_of_parseWithin (Nat.le_refl _) failed).2 delimited rfl

/-- What is read in any room is read alike with room for all calls. -/
theorem parseWithin_eq (room : Nat) (source : String) :
    parseWithin room source = .error .noRoom ∨ parseWithin room source = parse source := by
  rcases Nat.le_total room (roomFor (tokens source)) with less | more
  · exact parseWithin_of_le less source
  · rcases parseWithin_of_le more source with empty | same
    · exact absurd empty (parse_ne_noRoom source)
    · exact .inr same.symm

theorem parse_badMiddle {source : String} {before after : Tokens} {token : Token}
    (shape : tokens source = before ++ .middle :: token :: after)
    (plain : ∀ token ∈ before, isPlain token = true)
    (bad : isLetterOrNumber token = true) : parse source = .error .badMiddle := by
  obtain ⟨room, enough⟩ : ∃ room, roomFor (tokens source) = room + 3 :=
    ⟨roomFor (tokens source) - 3, by rw [shape]; simp [roomFor]; omega⟩
  unfold parse parseWithin
  rw [enough, shape]
  exact all_badMiddle room plain bad (by simp)

/-! ### A formula for each room that is too long for it -/

/-- The text of a chain of exponents. -/
def chainText : Nat → List Char
  | 0 => []
  | n + 1 => 'x' :: '^' :: chainText n

theorem tokensFrom_chainText {fuel n : Nat} (enough : 2 * n ≤ fuel) :
    tokensFrom fuel false (chainText n) = chain n := by
  induction n generalizing fuel with
  | zero => cases fuel <;> rfl
  | succ n ih =>
    obtain ⟨fuel, rfl⟩ : ∃ k, fuel = k + 2 := ⟨fuel - 2, by omega⟩
    have letter : charToken 'x' = .letter 'x' .italic := by simp [charToken]
    have first : tokensFrom (fuel + 2) false (chainText (n + 1)) =
        charToken 'x' :: tokensFrom (fuel + 1) (charToken 'x').takesDigit ('^' :: chainText n) := rfl
    rw [first, letter]
    show _ :: .superscript :: tokensFrom fuel false (chainText n) = _
    rw [ih (by omega)]
    rfl

theorem length_chainText (n : Nat) : (chainText n).length = 2 * n := by
  induction n with
  | zero => rfl
  | succ n ih =>
    rw [chainText, List.length_cons, List.length_cons, ih]
    omega

/-- In no room are there enough calls for all formulas, although these have no braces. -/
theorem parseWithin_chainText (room : Nat) :
    parseWithin room (String.ofList (chainText (room + 1))) = .error .noRoom := by
  have read : tokens (String.ofList (chainText (room + 1))) = chain (room + 1) := by
    unfold tokens
    rw [String.toList_ofList]
    exact tokensFrom_chainText (Nat.le_of_eq (length_chainText _).symm)
  unfold parseWithin
  rw [read]
  show (Parser.read room .node (chain (room + 1)) >>= _) = _
  rw [read_chain (Nat.le_succ room)]
  rfl

end PagePress.Math
