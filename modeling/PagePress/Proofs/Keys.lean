import PagePress.Proofs.Command.Settings
import PagePress.Proofs.Json.Quoted
import PagePress.Proofs.Members
import PagePress.Proofs.Partial

/-!
# Settings by their keys

What a text with an object in it sets is told from the members of the four keys alone: each key is
set by its own member, wherever that stands among the others, and is at its default without one.
-/
namespace PagePress.Config

open Json

variable {name text : String} {key : Key} {d : Draft} {ms others : List (String × Value)}

/-! ### What the members set -/

theorem ofName?_eq_some_iff : Key.ofName? name = some key ↔ key.name = name := by
  constructor
  · intro known
    rw [Key.ofName?] at known
    have same := List.find?_some known
    exact eq_of_beq same
  · rintro rfl
    cases key <;> rfl

theorem name_ne_of_unknown (unknown : Key.ofName? name = none) (key : Key) : key.name ≠ name := by
  intro same
  rw [ofName?_eq_some_iff.2 same] at unknown
  cases unknown

theorem name_injective {other : Key} (same : key.name = other.name) : key = other :=
  Option.some.inj ((ofName?_eq_some_iff.2 rfl).symm.trans (ofName?_eq_some_iff.2 same.symm))

/-- The members of the four keys. -/
def settings (ms : List (String × Value)) : List (String × Value) :=
  ms.filter fun entry => (Key.ofName? entry.1).isSome

theorem lookup_settings (ms : List (String × Value)) (key : Key) :
    (settings ms).lookup key.name = ms.lookup key.name := by
  rw [settings, lookup_filter_keys fun name => (Key.ofName? name).isSome,
    ofName?_eq_some_iff.2 rfl]
  rfl

/-- Settings that members add to those of a draft. -/
structure Filled (d : Draft) (ms : List (String × Value)) (result : Draft) : Prop where
  own : ∀ key v, ms.lookup key.name = some v →
    ∃ s, key.setting? v = some s ∧ result.get key = some s
  other : ∀ key, ms.lookup key.name = none → result.get key = d.get key

theorem lookup_cons_of_ne {name : String} (differ : key.name ≠ name) (v : Value)
    (ms : List (String × Value)) : ((name, v) :: ms).lookup key.name = ms.lookup key.name := by
  rw [List.lookup_cons, beq_false_of_ne differ]

theorem lookup_eq_none_of_once {v : Value}
    (once : ((settings ((key.name, v) :: ms)).map Prod.fst).Nodup) :
    ms.lookup key.name = none := by
  rw [settings, List.filter_cons_of_pos (by rw [ofName?_eq_some_iff.2 rfl]; rfl), List.map_cons,
    List.nodup_cons] at once
  rw [← lookup_settings, List.lookup_eq_none_iff]
  intro entry listed
  refine bne_iff_ne.2 fun same => once.1 ?_
  rw [same]
  exact List.mem_map.2 ⟨entry, listed, rfl⟩

theorem once_of_cons {entry : String × Value}
    (once : ((settings (entry :: ms)).map Prod.fst).Nodup) :
    ((settings ms).map Prod.fst).Nodup :=
  once.sublist (((List.sublist_cons_self entry ms).filter _).map _)

/-- A member that is no setting changes nothing. -/
theorem filled_cons_of_unknown {v : Value} {result : Draft} (unknown : Key.ofName? name = none) :
    Filled d ((name, v) :: ms) result ↔ Filled d ms result := by
  have lookups : ∀ key : Key, ((name, v) :: ms).lookup key.name = ms.lookup key.name :=
    fun key => lookup_cons_of_ne (name_ne_of_unknown unknown key) v ms
  constructor <;> rintro ⟨own, other⟩
  · exact ⟨fun key w found => own key w ((lookups key).trans found),
      fun key missing => other key ((lookups key).trans missing)⟩
  · exact ⟨fun key w found => own key w ((lookups key).symm.trans found),
      fun key missing => other key ((lookups key).symm.trans missing)⟩

/-- A member of a key that does not come again sets the key. -/
theorem filled_cons_of_setting {v : Value} {s : key.Setting} {result : Draft}
    (read : key.setting? v = some s) (last : ms.lookup key.name = none) :
    Filled d ((key.name, v) :: ms) result ↔ Filled (d.set key s) ms result := by
  have here : ((key.name, v) :: ms).lookup key.name = some v := List.lookup_cons_self
  have elsewhere : ∀ {other : Key}, other ≠ key →
      ((key.name, v) :: ms).lookup other.name = ms.lookup other.name := fun differ =>
    lookup_cons_of_ne (fun same => differ (name_injective same)) v ms
  have kept : ∀ {other : Key}, other ≠ key → (d.set key s).get other = d.get other := by
    intro other differ
    rw [Draft.set, Draft.get_ofGet, Function.update_of_ne differ]
  have put : (d.set key s).get key = some s := by
    rw [Draft.set, Draft.get_ofGet, Function.update_self]
  constructor <;> rintro ⟨own, other⟩ <;> constructor
  · intro k w found
    have differ : k ≠ key := by
      rintro rfl
      rw [last] at found
      cases found
    exact own k w ((elsewhere differ).trans found)
  · intro k missing
    by_cases same : k = key
    · subst same
      obtain ⟨s', read', set⟩ := own k v here
      rw [set, put, ← read', read]
    · rw [other k ((elsewhere same).trans missing), kept same]
  · intro k w found
    by_cases same : k = key
    · subst same
      obtain rfl : v = w := Option.some.inj (here.symm.trans found)
      exact ⟨s, read, (other k last).trans put⟩
    · exact own k w ((elsewhere same).symm.trans found)
  · intro k missing
    have differ : k ≠ key := by
      rintro rfl
      rw [here] at missing
      cases missing
    rw [other k ((elsewhere differ).symm.trans missing), kept differ]

/-- Members of which no key comes twice, and none is set yet, are taken up one by one exactly if each
of them makes a setting. -/
theorem foldlM_given_eq_some_iff (once : ((settings ms).map Prod.fst).Nodup)
    (fresh : ∀ key : Key, ms.lookup key.name ≠ none → d.get key = none) (result : Draft) :
    ms.foldlM Draft.given d = some result ↔ Filled d ms result := by
  induction ms generalizing d with
  | nil =>
    constructor
    · intro same
      obtain rfl : d = result := Option.some.inj same
      refine ⟨fun key v found => ?_, fun _ _ => rfl⟩
      cases found
    · intro filled
      have same : result.get = d.get := funext fun key => filled.other key rfl
      rw [List.foldlM_nil, ← Draft.ofGet_get d, ← same]
      rfl
  | cons entry ms ih =>
    obtain ⟨name, v⟩ := entry
    rw [List.foldlM_cons, Draft.given]
    cases known : Key.ofName? name with
    | none =>
      rw [filled_cons_of_unknown known]
      refine ih (once_of_cons once) fun key found => fresh key ?_
      rwa [lookup_cons_of_ne (name_ne_of_unknown known key)]
    | some key =>
      obtain rfl := ofName?_eq_some_iff.1 known
      have last := lookup_eq_none_of_once once
      have unset : d.has key = false := by
        rw [Draft.has_eq, fresh key (by simp)]
        rfl
      dsimp only
      rw [unset, if_neg Bool.false_ne_true]
      cases read : key.setting? v with
      | none =>
        constructor
        · intro refused
          cases refused
        · intro filled
          obtain ⟨s, wrong, -⟩ := filled.own key v List.lookup_cons_self
          rw [read] at wrong
          cases wrong
      | some s =>
        rw [filled_cons_of_setting read last]
        refine ih (once_of_cons once) fun other found => ?_
        have differ : other ≠ key := by
          rintro rfl
          exact found last
        rw [Draft.set, Draft.get_ofGet, Function.update_of_ne differ]
        refine fresh other ?_
        rwa [lookup_cons_of_ne fun same => differ (name_injective same)]

/-! ### The settings that a text holds -/

/-- Settings with the value of every key's own member, and the default of every key without one. -/
structure Decoded (ms : List (String × Value)) (config : Config) : Prop where
  own : ∀ (key : Key) v, ms.lookup key.name = some v → key.setting? v = some (config.get key)
  default : ∀ key : Key, ms.lookup key.name = none → config.get key = ({} : Config).get key

theorem Filled.decoded {result : Draft} (filled : Filled {} ms result) :
    Decoded ms result.complete where
  own key v found := by
    obtain ⟨s, read, set⟩ := filled.own key v found
    rw [read, Draft.get_complete, set]
    rfl
  default key missing := by
    rw [Draft.get_complete, filled.other key missing, Draft.get_empty]
    rfl

theorem Decoded.exists_filled {config : Config} (decoded : Decoded ms config) :
    ∃ result, Filled {} ms result ∧ result.complete = config := by
  let result := Draft.ofGet fun key => (ms.lookup key.name).map fun _ => config.get key
  have get : ∀ key, result.get key = (ms.lookup key.name).map fun _ => config.get key :=
    congrFun (Draft.get_ofGet _)
  refine ⟨result, ⟨fun key v found => ?_, fun key missing => ?_⟩, ext_get (funext fun key => ?_)⟩
  · exact ⟨config.get key, decoded.own key v found, by rw [get, found]; rfl⟩
  · rw [get, missing, Draft.get_empty]
    rfl
  · rw [Draft.get_complete, get]
    cases found : ms.lookup key.name with
    | none => exact (decoded.default key found).symm
    | some v => rfl

/-- A text with an object in it is read as the settings that the members of the four keys make, and
refused if one of them is of the wrong kind. -/
theorem toOption_parse_eq_some_iff (document : Document (.object ms) text.toList)
    (once : ((settings ms).map Prod.fst).Nodup) (config : Config) :
    (parse text).toOption = some config ↔ Decoded ms config := by
  have read_iff := foldlM_given_eq_some_iff once fun key _ => Draft.get_empty key
  rw [toOption_parse document, Option.map_eq_some_iff]
  constructor
  · rintro ⟨d, read, rfl⟩
    exact ((read_iff d).1 read).decoded
  · intro decoded
    obtain ⟨d, filled, complete⟩ := decoded.exists_filled
    exact ⟨d, (read_iff d).2 filled, complete⟩

/-! ### Texts that agree on the settings -/

theorem setting?_eq_of_alike {v w : Value} (alike : Alike v w) (key : Key) :
    key.setting? v = key.setting? w := by
  cases alike <;> cases key <;> rfl

theorem map_lookup_of_forall₂ {first second : List (String × Value)}
    (names : first.map Prod.fst = second.map Prod.fst)
    (values : List.Forall₂ Alike (first.map Prod.snd) (second.map Prod.snd)) (name : String)
    (key : Key) : (first.lookup name).map key.setting? = (second.lookup name).map key.setting? := by
  induction first generalizing second with
  | nil =>
    cases second with
    | nil => rfl
    | cons entry second => cases names
  | cons entry first ih =>
    cases second with
    | nil => cases names
    | cons other second =>
      rw [List.map_cons, List.map_cons, List.cons.injEq] at names
      cases values with
      | cons alike values =>
        rw [List.lookup_cons, List.lookup_cons, names.1]
        cases name == other.1 with
        | true => exact congrArg some (setting?_eq_of_alike alike key)
        | false => exact ih names.2 values

/-- Objects with the same settings in any order make the same of every key. -/
theorem map_lookup_of_alike (alike : Alike (.object (settings ms)) (.object (settings others)))
    (once : ((settings ms).map Prod.fst).Nodup) (key : Key) :
    (ms.lookup key.name).map key.setting? = (others.lookup key.name).map key.setting? := by
  rw [← lookup_settings ms, ← lookup_settings others]
  generalize settings ms = first at alike once
  generalize settings others = second at alike
  cases alike with
  | same => rfl
  | object order names values =>
    rw [lookup_perm order once]
    exact map_lookup_of_forall₂ names values key.name key

theorem Decoded.congr {config : Config} (decoded : Decoded ms config)
    (same : ∀ key : Key,
      (ms.lookup key.name).map key.setting? = (others.lookup key.name).map key.setting?) :
    Decoded others config where
  own key v found := by
    have made := same key
    rw [found] at made
    obtain ⟨w, own, read⟩ := Option.map_eq_some_iff.1 made
    rw [← read]
    exact decoded.own key w own
  default key missing := by
    have made := same key
    rw [missing] at made
    exact decoded.default key (Option.map_eq_none_iff.1 made)

/-! ### The file of the settings -/

/-- The settings that are loaded from a directory; none if they are refused. -/
def loaded? (tree : FileTree) (directory : String) : Option Config :=
  ((load directory : StateM FileTree _).run tree).1.toOption.map Prod.fst

/-- The file of the settings in a directory is a text with an object of these members in it. -/
def Written (tree : FileTree) (directory : String) (ms : List (String × Value)) : Prop :=
  ∃ text, tree.readText (Path.join directory fileName) = .ok text ∧
    Document (.object ms) text.toList

theorem loaded?_eq_some_iff {tree : FileTree} {directory : String}
    (written : Written tree directory ms) (once : ((settings ms).map Prod.fst).Nodup)
    (config : Config) : loaded? tree directory = some config ↔ Decoded ms config := by
  obtain ⟨text, read, document⟩ := written
  obtain ⟨content, found, -⟩ := FileTree.readText_eq_ok_iff.1 read
  have loaded : loaded? tree directory = (parse text).toOption := by
    rw [loaded?, run_load_of_present (FileTree.isPresent_eq_true_iff.2 ⟨_, found⟩), read]
    dsimp only
    cases parse text <;> rfl
  rw [loaded, toOption_parse_eq_some_iff document once]

/-- Settings are loaded from a text with an object in it as if the members of the four keys were all
there is: texts that agree on those, in any order, are both refused or both give the same settings.
These are the value of every key's own member, and the default of every key without one. -/
theorem load_exact {tree other : FileTree} {directory elsewhere : String}
    (first : Written tree directory ms) (second : Written other elsewhere others)
    (once : ((settings ms).map Prod.fst).Nodup) (distinct : ((settings others).map Prod.fst).Nodup)
    (alike : Alike (.object (settings ms)) (.object (settings others))) :
    loaded? tree directory = loaded? other elsewhere ∧
    ∀ config, loaded? tree directory = some config ↔ Decoded ms config := by
  refine ⟨Option.ext fun config => ?_, loaded?_eq_some_iff first once⟩
  have same := map_lookup_of_alike alike once
  rw [loaded?_eq_some_iff first once, loaded?_eq_some_iff second distinct]
  exact ⟨fun decoded => decoded.congr same, fun decoded => decoded.congr fun key => (same key).symm⟩

/-- The order, white space, escapes and a member that holds anything at all make no difference. -/
theorem load_reordered :
    let tree : FileTree := {
      nodes := [(["homepage.json", "work"], .file (.ofText
        "\x7b\"outDir\":\"out\",\"x\":[1e9,\x7b\"outDir\":null\x7d],\"maxSourceBytes\":12\x7d")),
        (["work"], .directory)] }
    let other : FileTree := {
      nodes := [(["homepage.json", "work"], .file (.ofText
        " \x7b\"maxSourceBytes\" : 12 ,\n\"outDir\":\"o\\u0075t\"\x7d\n")),
        (["work"], .directory)] }
    loaded? tree "." = loaded? other "." ∧
    loaded? tree "." = some { outDir := "out", maxSourceBytes := 12 } := by
  intro tree other
  let twelve : Numeral := {
    whole := ['1', '2'], whole_shape := .digits (by decide) (by unfold AllDigits; decide) }
  let large : Numeral := {
    whole := ['1'], whole_shape := .digits (by decide) (by unfold AllDigits; decide)
    exponent := ['e', '9']
    exponent_shape := .present (.inl rfl) (.inl rfl) (List.cons_ne_nil _ _)
      (by unfold AllDigits; decide) }
  let inner := [Member.quoted "outDir" .null ['n', 'u', 'l', 'l']]
  let elements : List Element := [{ text := large.text, value := .number large },
    { text := '\x7b' :: (joined (inner.map Member.piece) ++ ['\x7d'])
      value := .object (inner.map Member.entry) }]
  let list := '[' :: (joined (elements.map Element.toPiece) ++ [']'])
  have list_spelled : Spells (.list (elements.map Element.value)) list := by
    refine .list (List.cons_ne_nil _ _) (List.forall_mem_cons.2 ⟨.number large,
      List.forall_mem_singleton.2 ?_⟩)
    exact .object (List.cons_ne_nil _ _) (List.forall_mem_singleton.2 .null)
  let escaped := ['o'] ++ (['\\', 'u', '0', '0', '7', '5'] ++ (['t'] ++ []))
  have escaped_spelled : StringText "out".toList escaped := by
    have zero : HexDigit 0 '0' := .inl rfl
    have seven : HexDigit 7 '7' := .inl rfl
    have five : HexDigit 5 '5' := .inl rfl
    exact .cons (.plain (by decide) (by decide) (by decide))
      (.cons (.number (.digits zero zero seven five))
        (.cons (.plain (by decide) (by decide) (by decide)) .empty))
  let first : List Member := [.quoted "outDir" (.string "out") (quote "out").toList,
    .quoted "x" (.list (elements.map Element.value)) list,
    .quoted "maxSourceBytes" (.number twelve) twelve.text]
  let second : List Member := [
    { Member.quoted "maxSourceBytes" (.number twelve) twelve.text with
      gap := [' '], gap_blank := blanks_singleton (by decide)
      before := [' '], before_blank := blanks_singleton (by decide)
      after := [' '], after_blank := blanks_singleton (by decide) },
    { Member.quoted "outDir" (.string "out") ('\x22' :: (escaped ++ ['\x22'])) with
      margin := ['\n'], margin_blank := blanks_singleton (by decide) }]
  have one : Written tree "." (first.map Member.entry) := by
    refine ⟨String.ofList ([] ++ ('\x7b' :: (joined (first.map Member.piece) ++ ['\x7d']) ++ [])),
      by decide +kernel, ?_⟩
    rw [String.toList_ofList]
    refine (Spells.object (List.cons_ne_nil _ _) ?_).document blanks_nil blanks_nil
    exact List.forall_mem_cons.2 ⟨spells_quote "out", List.forall_mem_cons.2
      ⟨list_spelled, List.forall_mem_singleton.2 (.number twelve)⟩⟩
  have two : Written other "." (second.map Member.entry) := by
    refine ⟨String.ofList ([' '] ++ ('\x7b' :: (joined (second.map Member.piece) ++ ['\x7d']) ++
      ['\n'])), by decide +kernel, ?_⟩
    rw [String.toList_ofList]
    refine (Spells.object (List.cons_ne_nil _ _) ?_).document (blanks_singleton (by decide))
      (blanks_singleton (by decide))
    exact List.forall_mem_cons.2 ⟨.number twelve,
      List.forall_mem_singleton.2 (.string escaped_spelled)⟩
  have alike : Alike (.object (settings (first.map Member.entry)))
      (.object (settings (second.map Member.entry))) :=
    .object (.swap ..) rfl (.cons (.same _) (.cons (.same _) .nil))
  exact ⟨(load_exact one two (by decide) (by decide) alike).1, by decide +kernel⟩

end PagePress.Config
