import PagePress.Proofs.Math.Output
import PagePress.Proofs.Math.Stops
import PagePress.Proofs.Partial

/-!
# What the reader of formulas brings into them

A semicolon is an operator, and no text of several characters takes up an operator. So the tokens of
a formula are mild, the readers make harmless formulas of mild tokens, and what is written of them has
nothing in it that only looks like a reference.
-/
namespace PagePress.Math

open Sanitize

/-! ### Tokens -/

/-- What a token writes cannot make a numeric reference of what stands around it. -/
def Token.mild : Token → Bool
  | .number s | .function s | .limit s => !s.toList.contains ';'
  | .letter c _ => c != ';'
  | .fence s => !s.toList.contains '\x23'
  | .space s | .sized s => !s.toList.contains '&'
  | _ => true

namespace Command

theorem mild_of_lookup {α : Type} {table : List (String × α)} {make : α → Token} {name : String}
    {token : Token} (all : ∀ entry ∈ table, (make entry.2).mild = true)
    (found : (table.lookup name).map make = some token) : token.mild = true := by
  obtain ⟨value, here, rfl⟩ := Option.map_eq_some_iff.1 found
  exact all (name, value) (mem_of_lookup here)

theorem mild_of_find {names : List String} {make : String → Token} {name : String} {token : Token}
    (all : ∀ entry ∈ names, (make entry).mild = true)
    (found : (names.find? (· == name)).map make = some token) : token.mild = true := by
  obtain ⟨entry, here, rfl⟩ := Option.map_eq_some_iff.1 found
  exact all entry (List.mem_of_find?_eq_some here)

/-- Of two tables the first that knows a name gives its token. -/
theorem mild_orElse {first second : Option Token} {token : Token}
    (here : first = some token → token.mild = true) (there : second = some token → token.mild = true)
    (found : (first <|> second) = some token) : token.mild = true := by
  cases first with
  | none => exact there found
  | some other => exact here found

theorem token_mild (name : String) : (token name).mild = true := by
  unfold token
  cases found : find? name with
  | none => rfl
  | some token =>
    -- The tables in the order in which a name is looked up. Operators, accents, styles and the like are
    -- mild whatever they are; names, letters, parentheses and widths are looked through.
    have structures : ∀ entry ∈ structural, entry.2.mild = true := by decide
    refine mild_orElse (fun here => structures _ (mem_of_lookup here)) ?_ found
    refine mild_orElse (mild_of_find (by decide)) ?_
    refine mild_orElse (mild_of_find (by decide)) ?_
    refine mild_orElse (mild_of_lookup (by decide)) ?_
    refine mild_orElse (mild_of_lookup (by decide)) ?_
    refine mild_orElse (mild_of_lookup fun _ _ => rfl) ?_
    refine mild_orElse (mild_of_lookup fun _ _ => rfl) ?_
    refine mild_orElse (mild_of_lookup fun _ _ => rfl) ?_
    refine mild_orElse (mild_of_lookup fun _ _ => rfl) ?_
    refine mild_orElse (mild_of_lookup fun _ _ => rfl) ?_
    refine mild_orElse (mild_of_lookup fun _ _ => rfl) ?_
    refine mild_orElse (mild_of_lookup fun _ _ => rfl) ?_
    refine mild_orElse (mild_of_lookup (by decide)) ?_
    exact mild_orElse (mild_of_lookup (by decide)) (mild_of_lookup (by decide))

end Command

theorem splitNumber_mild (cs : List Char) : (Token.number (splitNumber cs).1).mild = true := by
  have digits : ∀ rest : List Char, ';' ∉ rest.takeWhile Char.isDigit := fun rest member =>
    absurd (List.all_eq_true.1 List.all_takeWhile _ member) (by decide)
  unfold splitNumber
  dsimp only
  split
  · simp [Token.mild, digits]
  · simp [Token.mild, digits]

theorem charToken_mild (c : Char) : (charToken c).mild = true := by
  unfold charToken
  split <;> try rfl
  split
  next fence =>
    rw [String.contains_char_eq, decide_eq_true_eq] at fence
    have other : c ≠ '\x23' := by
      rintro rfl
      exact absurd fence (by decide)
    simp [Token.mild, Ne.symm other]
  split
  · rfl
  next foreign =>
    rw [String.contains_char_eq, decide_eq_true_eq] at foreign
    have other : c ≠ ';' := by
      rintro rfl
      exact foreign (by decide)
    split <;> simp [Token.mild, other]

theorem nextToken_mild (single : Bool) (c : Char) (rest : List Char) :
    (nextToken single c rest).1.mild = true := by
  unfold nextToken
  split
  · exact Command.token_mild _
  split
  next digit =>
    split
    · have other : c ≠ ';' := by
        rintro rfl
        exact absurd digit (by decide)
      simp [Token.mild, Ne.symm other]
    · exact splitNumber_mild _
  split
  · rfl
  · exact charToken_mild c

theorem tokensFrom_mild (fuel : Nat) (single : Bool) (cs : List Char) :
    ∀ token ∈ tokensFrom fuel single cs, token.mild = true := by
  induction fuel generalizing single cs with
  | zero => simp [tokensFrom]
  | succ fuel ih =>
    unfold tokensFrom
    split
    · simp
    · exact List.forall_mem_cons.2 ⟨nextToken_mild .., ih _ _⟩

/-! ### Formulas -/

namespace Formula

section Harmless

variable {f g h k : Formula}

theorem Harmless.own (harmless : Harmless f) : f.Own := by
  cases harmless with
  | intro own _ => exact own

theorem Harmless.leaf (own : f.Own) (parts : f.parts = []) : Harmless f :=
  .intro own (by simp [parts])

theorem Harmless.one (own : f.Own) (parts : f.parts = [g]) (first : Harmless g) : Harmless f :=
  .intro own (by simpa [parts] using first)

theorem Harmless.two (own : f.Own) (parts : f.parts = [g, h]) (first : Harmless g)
    (second : Harmless h) : Harmless f :=
  .intro own (by simpa [parts] using ⟨first, second⟩)

theorem Harmless.three (own : f.Own) (parts : f.parts = [g, h, k]) (first : Harmless g)
    (second : Harmless h) (third : Harmless k) : Harmless f :=
  .intro own (by simpa [parts] using ⟨first, second, third⟩)

end Harmless

theorem styledAll_eq_map (v : Variant) (items : List Formula) :
    styled.styledAll v items = items.map (styled v) := by
  induction items with
  | nil => rfl
  | cons f rest ih => rw [styled.styledAll, ih, List.map_cons]

theorem Harmless.styled {f : Formula} (v : Variant) (harmless : Harmless f) :
    Harmless (f.styled v) := by
  induction harmless with
  | @intro f own parts ih =>
    cases f with
    | letter c w => exact .leaf trivial rfl
    | row items =>
      refine .intro trivial fun g member => ?_
      obtain ⟨item, inside, rfl⟩ : ∃ item ∈ items, item.styled v = g := by
        simpa [Formula.styled, Formula.parts, styledAll_eq_map] using member
      exact ih item inside
    | _ => exact .intro own parts

theorem Harmless.primed {f : Formula} (harmless : Harmless f) : Harmless f.primed :=
  .two trivial rfl harmless (.leaf trivial rfl)

theorem Harmless.group {items : List Formula} (all : ∀ f ∈ items, Harmless f) :
    Harmless (Formula.group items) := by
  unfold Formula.group
  split
  · exact all _ (.head _)
  · exact .intro trivial all

end Formula

open Formula

/-! ### Readers -/

namespace Parser

/-- Mild tokens. -/
def Mild (ts : Tokens) : Prop := ∀ token ∈ ts, token.mild = true

/-- Of mild tokens a harmless formula is made, and mild tokens are left. -/
def mildly : Contract where
  asks _ _ ts := Mild ts
  answers _ _ x := Harmless x.1 ∧ Mild x.2
  fails _ := True

section Readers

variable {room : Nat} {ts : Tokens}

theorem Mild.of_suffix {us : Tokens} (mild : Mild ts) (suffix : us <:+ ts) : Mild us :=
  fun token member => mild token (suffix.subset member)

theorem Mild.drop (mild : Mild ts) (n : Nat) : Mild (ts.drop n) := mild.of_suffix (List.drop_suffix n ts)

theorem Mild.tail {token : Token} (mild : Mild (token :: ts)) : Mild ts :=
  mild.of_suffix (List.suffix_cons token ts)

theorem Mild.first (mild : Mild ts) : (first ts).mild = true := by
  cases ts with
  | nil => rfl
  | cons token rest => exact mild token (.head _)

theorem letters_plain (mild : Mild ts) : ';' ∉ (letters ts).1 := by
  fun_induction letters ts with
  | case1 c v rest cs tail read ih =>
    rw [read] at ih
    have other : c ≠ ';' := by simpa [Token.mild] using mild _ (.head _)
    simp [Ne.symm other, ih mild.tail]
  | case2 ts => simp

theorem bracedText_plain (mild : Mild ts) : ';' ∉ (bracedText ts).1.toList := by
  simpa [bracedText] using letters_plain (mild.drop 1)

theorem Mild.behind_bracedText (mild : Mild ts) : Mild (bracedText ts).2 :=
  mild.of_suffix (bracedText_suffix ts)

theorem parenthesis_mild (place : Token) (dot : Bool) (mild : Mild ts) :
    (Reading.ofExcept (parenthesis place dot ts)).Keeps mildly room
      fun x => Unlettered x.1.toList ∧ Mild x.2 := by
  unfold parenthesis
  split
  next s found =>
    have plain := mild.first
    rw [found] at plain
    exact ⟨unlettered_of_numberSign (by simpa [Token.mild] using plain), mild.drop 1⟩
  next =>
    cases dot with
    | false => trivial
    | true =>
      have bare : '&' ∉ "".toList := by decide
      exact ⟨unlettered_of_ampersand bare, mild.drop 1⟩
  next => trivial

theorem withPrime_harmless {f : Formula} (harmless : Harmless f) (ts : Tokens) :
    Harmless (withPrime f ts).1 := by
  unfold withPrime
  split
  · exact harmless.primed
  · exact harmless

theorem middleDelimiter_mild {f : Formula} (harmless : Harmless f) :
    (Reading.ofExcept (middleDelimiter f)).Keeps mildly room Harmless := by
  unfold middleDelimiter
  split
  · exact .leaf (unlettered_toString _) rfl
  · exact .leaf harmless.own rfl
  · trivial

theorem environment_mild (name : String) {content : Formula} (harmless : Harmless content) :
    (Reading.ofExcept (environment name content)).Keeps mildly room Harmless := by
  have matrix : ∀ leftAligned, Harmless (.matrix leftAligned content) :=
    fun _ => .one trivial rfl harmless
  have fenced : ∀ opening closing : String, '&' ∉ opening.toList → '&' ∉ closing.toList →
      Harmless (.fenced opening closing (.matrix false content)) := fun _ _ first last =>
    .one ⟨unlettered_of_ampersand first, unlettered_of_ampersand last⟩ rfl (matrix false)
  unfold environment
  split
  · exact matrix false
  · exact fenced _ _ (by decide) (by decide)
  · exact fenced _ _ (by decide) (by decide)
  · exact fenced _ _ (by decide) (by decide)
  · exact matrix true
  · trivial

/-- A part that begins with a mild token is harmless, if the parts that it calls for are. -/
theorem unprimed_harmless {token : Token} (plain : token.mild = true) (mild : Mild ts) :
    (unprimed token ts).Keeps mildly room (Leaves Harmless Mild) := by
  have nodes : ∀ us, Mild us → (node us).Keeps mildly room (Leaves Harmless Mild) :=
    fun us mild => keeps_call mild
  have singles : ∀ us, Mild us → (single us).Keeps mildly room (Leaves Harmless Mild) :=
    fun us mild => keeps_call mild
  have groups : ∀ closing us, Mild us →
      (group closing us).Keeps mildly room (Leaves Harmless Mild) :=
    fun closing us mild => keeps_call mild
  have drop : ∀ us, Mild us → Mild (us.drop 1) := fun us mild => mild.drop 1
  have operator : ∀ c, Harmless (.operator c) := fun _ => .leaf trivial rfl
  cases token with
  | number digits => exact ⟨.leaf (by simpa [Token.mild, Own] using plain) rfl, mild⟩
  | fence s =>
    exact ⟨.leaf (unlettered_of_numberSign (by simpa [Token.mild] using plain)) rfl, mild⟩
  | function name => exact ⟨.leaf (by simpa [Token.mild, Own] using plain) rfl, mild⟩
  | space width => exact ⟨.leaf (by simpa [Token.mild, Own] using plain) rfl, mild⟩
  | squareRoot =>
    dsimp only [unprimed]
    split
    next =>
      refine (groups _ _ mild.tail).bind fun (degree, rest) ⟨first, later⟩ => ?_
      exact keeps_ofNode nodes later fun f => .two trivial rfl first
    next => exact keeps_ofNode nodes mild fun f => .one trivial rfl
  | fraction => exact keeps_ofNodes nodes mild fun f g => .two trivial rfl
  | binomial =>
    have parentheses : Unlettered "(".toList ∧ Unlettered ")".toList :=
      ⟨unlettered_of_ampersand (by decide), unlettered_of_ampersand (by decide)⟩
    have made : ∀ f g, Harmless f → Harmless g → Harmless (.fenced "(" ")" (.fraction false f g)) :=
      fun f g first second => .one parentheses rfl (.two trivial rfl first second)
    exact keeps_ofNodes nodes mild made
  | overset => exact keeps_ofNodes nodes mild fun f g => .two trivial rfl
  | underset => exact keeps_ofNodes nodes mild fun f g => .two trivial rfl
  | «over» mark => exact keeps_ofNode nodes mild fun f => .one trivial rfl
  | under mark => exact keeps_ofNode nodes mild fun f => .one trivial rfl
  | style v => exact keeps_ofNode nodes mild fun f => .styled v
  | overbrace mark =>
    refine (singles _ mild).bind fun (base, rest) ⟨below, later⟩ => ?_
    refine keeps_withScript singles drop later .superscript (fun note above => ?_) ?_
    · exact .two trivial rfl (.two trivial rfl above (operator mark)) below
    · exact .two trivial rfl (operator mark) below
  | underbrace mark =>
    refine (singles _ mild).bind fun (base, rest) ⟨above, later⟩ => ?_
    refine keeps_withScript singles drop later .subscript (fun note below => ?_) ?_
    · exact .two trivial rfl (.two trivial rfl below (operator mark)) above
    · exact .two trivial rfl (operator mark) above
  | bigOperator c =>
    dsimp only [unprimed]
    split
    next =>
      refine (singles _ mild.tail).bind fun (bottom, rest) ⟨below, later⟩ => ?_
      refine keeps_withScript singles drop later .superscript (fun top above => ?_) ?_
      · exact .three trivial rfl (operator c) below above
      · exact .two trivial rfl below (operator c)
    next =>
      refine (singles _ mild.tail).bind fun (top, rest) ⟨above, later⟩ => ?_
      refine keeps_withScript singles drop later .subscript (fun bottom below => ?_) ?_
      · exact .three trivial rfl (operator c) below above
      · exact .one trivial rfl above
    next => exact ⟨operator c, mild⟩
  | integral c =>
    dsimp only [unprimed]
    split
    next =>
      refine (singles _ mild.tail).bind fun (sub, rest) ⟨below, later⟩ => ?_
      refine keeps_withScript singles drop later .superscript (fun super above => ?_) ?_
      · exact .three trivial rfl (operator c) below above
      · exact .two trivial rfl (operator c) below
    next =>
      refine (singles _ mild.tail).bind fun (super, rest) ⟨above, later⟩ => ?_
      refine keeps_withScript singles drop later .subscript (fun sub below => ?_) ?_
      · exact .three trivial rfl (operator c) below above
      · exact .two trivial rfl (operator c) above
    next => exact ⟨operator c, mild⟩
  | limit name =>
    have function : Harmless (.function name) :=
      .leaf (by simpa [Token.mild, Own] using plain) rfl
    have made : ∀ f, Harmless f → Harmless (.under f (.function name)) :=
      fun f below => .two trivial rfl below function
    exact keeps_withScript singles drop mild .subscript made function
  | slashed =>
    refine (nodes _ (mild.drop 1)).bind fun (content, rest) ⟨inner, later⟩ => ?_
    exact ⟨.one trivial rfl inner, later.drop 1⟩
  | openBrace => exact groups .closeBrace ts mild
  | left =>
    refine (parenthesis_mild .left true mild).bind fun (opening, rest) ⟨first, later⟩ => ?_
    refine (groups .right rest later).bind fun (content, rest) ⟨inner, later⟩ => ?_
    refine (parenthesis_mild .right true later).bind fun (closing, rest) ⟨last, later⟩ => ?_
    exact ⟨.one ⟨first, last⟩ rfl inner, later⟩
  | middle =>
    refine (singles _ mild).bind fun (f, rest) ⟨inner, later⟩ => ?_
    refine (middleDelimiter_mild inner).bind fun g delimiter => ?_
    exact ⟨delimiter, later⟩
  | sized size =>
    refine (parenthesis_mild (.sized size) false mild).bind fun (paren, rest) ⟨inner, later⟩ => ?_
    exact ⟨.leaf ⟨by simpa [Token.mild] using plain, inner⟩ rfl, later⟩
  | openEnvironment =>
    refine (groups .closeEnvironment _ mild.behind_bracedText).bind
      fun (content, rest) ⟨inner, later⟩ => ?_
    refine (environment_mild _ inner).bind fun f matrix => ?_
    exact ⟨matrix, later.behind_bracedText⟩
  | operatorName => exact ⟨.leaf (bracedText_plain mild) rfl, mild.behind_bracedText⟩
  | text => exact ⟨.leaf (bracedText_plain mild) rfl, mild.behind_bracedText⟩
  | _ => exact ⟨.leaf trivial rfl, mild⟩

theorem reader_harmless (part : Part) (mild : Mild ts) :
    (reader part ts).Keeps mildly room (Leaves Harmless Mild) := by
  have nodes : ∀ us, Mild us → (node us).Keeps mildly room (Leaves Harmless Mild) :=
    fun us mild => keeps_call mild
  cases part with
  | node =>
    have single : (single ts).Keeps mildly room (Leaves Harmless Mild) := keeps_call mild
    refine single.bind fun (base, rest) ⟨first, later⟩ => ?_
    dsimp only
    unfold indexed
    split
    · exact keeps_ofNode nodes later.tail fun f => .two trivial rfl first
    · exact keeps_ofNode nodes later.tail fun f => .two trivial rfl first
    · exact ⟨first, later⟩
  | single =>
    refine (unprimed_harmless mild.first (mild.drop 1)).bind fun (f, rest) ⟨harmless, later⟩ => ?_
    exact ⟨withPrime_harmless harmless rest, later.of_suffix (withPrime_suffix f rest)⟩
  | group closing =>
    have drop : ∀ us, Mild us → Mild (us.drop 1) := fun us mild => mild.drop 1
    refine (keeps_items drop nodes trivial ts.length mild).bind
      fun (fs, rest) ⟨all, later⟩ => ?_
    exact ⟨.group all, later⟩

end Readers

/-- All readers make harmless formulas of mild tokens, in any room. -/
theorem parseWithin_harmless {room : Nat} {source : String} {formulas : List Formula}
    (read : parseWithin room source = .ok formulas) : ∀ f ∈ formulas, Harmless f := by
  have nodes : ∀ us, Mild us → (node us).Keeps mildly room (Leaves Harmless Mild) :=
    fun us mild => keeps_call mild
  have mild : Mild (tokens source) := tokensFrom_mild _ _ _
  have outcome := outcome_parseWithin (fun _ _ _ => trivial)
    (fun _ part _ mild => reader_harmless part mild) nodes mild
  rw [read] at outcome
  exact outcome

end Parser

/-- MathML that is not refused has no ampersand in it before what only looks like a reference. -/
theorem unlettered_mathml {source m : String} {display : Display}
    (converted : mathml source display = .ok m) (unmarked : ¬ errorMark <:+: m.toList) :
    Unlettered m.toList := by
  obtain ⟨formulas, read, written⟩ := of_bind_eq_ok converted
  have harmless := Parser.parseWithin_harmless read
  have inside : Output (String.join (formulas.map Formula.mathml)) := by
    clear read written
    induction formulas with
    | nil => exact output_empty
    | cons f rest ih =>
      obtain ⟨first, later⟩ := List.forall_mem_cons.1 harmless
      rw [List.map_cons, String.join_cons]
      exact first.output.1.append (ih later)
  have opening : isTag ("<math xmlns=\"http://www.w3.org/1998/Math/MathML\" display=\"" ++
      display.name ++ "\">") = true := by
    cases display <;> decide
  have whole := output_one opening (show isTag "</math>" = true by decide) inside
  cases written
  exact whole.clean.resolve_left unmarked

end PagePress.Math
