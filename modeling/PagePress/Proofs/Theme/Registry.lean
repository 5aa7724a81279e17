import Mathlib.Data.List.Induction
import Mathlib.Data.List.Nodup
import PagePress.Theme.Registry

/-!
# Registries and their lookups

A registry is made exactly if every lookup in it has one answer: the identifiers differ and the
fallback is among them. Then the order of the themes means nothing for any answer
(`registries_exact`).
-/
namespace PagePress.ThemeRegistry

/-- Themes, and the place of the one that stands in for unknown ones. -/
structure Placed where
  themes : List Theme
  place : Nat

namespace Placed

/-- Goes over the themes by their places. Each identifier is looked for among those before it, and the
fallback from the beginning. -/
def ofThemes (themes : List Theme) (fallbackId : String) : Except ThemeError Placed :=
  match themes.zipIdx.find? fun (theme, i) => (themes.take i).any (·.id == theme.id) with
  | some (theme, _) => .error (.duplicate theme.id)
  | none =>
    match themes.findIdx? (·.id == fallbackId) with
    | none => .error (.unknown fallbackId)
    | some place => .ok ⟨themes, place⟩

/-- The theme at the place, if there is one. -/
def fallback? (placed : Placed) : Option Theme := placed.themes[placed.place]?

end Placed

variable {themes before after : List Theme} {theme : Theme} {fallbackId id : String}

/-! ### Repeated identifiers -/

/-- The first theme that repeats an identifier, with the themes before it. -/
theorem exists_first_repeat (repeated : ¬ (themes.map Theme.id).Nodup) :
    ∃ before theme after, themes = before ++ theme :: after ∧ (before.map Theme.id).Nodup ∧
      theme.id ∈ before.map Theme.id := by
  induction themes using List.reverseRecOn with
  | nil => exact absurd List.nodup_nil repeated
  | append_singleton rest last ih =>
    by_cases distinct : (rest.map Theme.id).Nodup
    · refine ⟨rest, last, [], rfl, distinct, ?_⟩
      by_contra fresh
      refine repeated ?_
      rw [List.map_append, List.map_singleton, ← List.concat_eq_append]
      exact distinct.concat fresh
    · obtain ⟨before, theme, after, rfl, first⟩ := ih distinct
      exact ⟨before, theme, after ++ [last], by simp, first⟩

theorem firstRepeat?_of_distinct {seen ids : List String} (distinct : ids.Nodup)
    (fresh : ∀ id ∈ ids, id ∉ seen) : firstRepeat? seen ids = none := by
  induction ids generalizing seen with
  | nil => rfl
  | cons first rest ih =>
    obtain ⟨new, distinct⟩ := List.nodup_cons.1 distinct
    rw [firstRepeat?, if_neg (fresh first List.mem_cons_self)]
    refine ih distinct fun other member => ?_
    rw [List.mem_cons, not_or]
    exact ⟨fun same => new (same ▸ member), fresh other (List.mem_cons_of_mem _ member)⟩

theorem firstRepeat?_of_repeat {seen before after : List String} {id : String}
    (distinct : before.Nodup) (fresh : ∀ other ∈ before, other ∉ seen)
    (known : id ∈ seen ∨ id ∈ before) : firstRepeat? seen (before ++ id :: after) = some id := by
  induction before generalizing seen with
  | nil =>
    rw [List.nil_append, firstRepeat?, if_pos (known.resolve_right List.not_mem_nil)]
  | cons first rest ih =>
    obtain ⟨new, distinct⟩ := List.nodup_cons.1 distinct
    rw [List.cons_append, firstRepeat?, if_neg (fresh first List.mem_cons_self)]
    refine ih distinct (fun other member => ?_) ?_
    · rw [List.mem_cons, not_or]
      exact ⟨fun same => new (same ▸ member), fresh other (List.mem_cons_of_mem _ member)⟩
    · rw [List.mem_cons] at known ⊢
      rcases known with seen | same | later
      · exact .inl (.inr seen)
      · exact .inl (.inl same)
      · exact .inr later

theorem find?_of_distinct (distinct : (themes.map Theme.id).Nodup) (member : theme ∈ themes) :
    themes.find? (·.id == theme.id) = some theme := by
  cases found : themes.find? (·.id == theme.id) with
  | none => simpa using List.find?_eq_none.1 found theme member
  | some other =>
    have same : other.id = theme.id := by simpa using List.find?_some found
    rw [List.inj_on_of_nodup_map distinct (List.mem_of_find?_eq_some found) member same]

theorem find?_of_unknown (unknown : id ∉ themes.map Theme.id) :
    themes.find? (·.id == id) = none := by
  rw [List.find?_eq_none]
  intro theme member same
  exact unknown (List.mem_map.2 ⟨theme, member, by simpa using same⟩)

/-! ### Making a registry -/

theorem ofThemes_of_repeat (distinct : (before.map Theme.id).Nodup)
    (repeats : theme.id ∈ before.map Theme.id) :
    ofThemes (before ++ theme :: after) fallbackId = .error (.duplicate theme.id) := by
  have first : firstRepeat? [] ((before ++ theme :: after).map Theme.id) = some theme.id := by
    rw [List.map_append, List.map_cons]
    exact firstRepeat?_of_repeat distinct (fun _ _ => List.not_mem_nil) (.inr repeats)
  rw [ofThemes]
  split
  next id found =>
    rw [first, Option.some.injEq] at found
    rw [found]
  next none => rw [first] at none; cases none

theorem ofThemes_of_unknown (distinct : (themes.map Theme.id).Nodup)
    (unknown : fallbackId ∉ themes.map Theme.id) :
    ofThemes themes fallbackId = .error (.unknown fallbackId) := by
  have clean := firstRepeat?_of_distinct distinct fun _ _ => List.not_mem_nil
  have missing := find?_of_unknown unknown
  rw [ofThemes]
  split
  next id found => rw [clean] at found; cases found
  next =>
    split
    next => rfl
    next theme found => rw [missing] at found; cases found

theorem ofThemes_of_known (distinct : (themes.map Theme.id).Nodup) (member : theme ∈ themes) :
    ∃ registry, ofThemes themes theme.id = .ok registry ∧ registry.themes = themes ∧
      registry.fallback = theme := by
  have clean := firstRepeat?_of_distinct distinct fun _ _ => List.not_mem_nil
  have there := find?_of_distinct distinct member
  rw [ofThemes]
  split
  next id found => rw [clean] at found; cases found
  next =>
    split
    next found => rw [there] at found; cases found
    next other found =>
      rw [there, Option.some.injEq] at found
      exact ⟨_, rfl, rfl, found.symm⟩

/-- The ways in which making a registry ends. -/
theorem of_ofThemes {registry : ThemeRegistry} (made : ofThemes themes fallbackId = .ok registry) :
    (themes.map Theme.id).Nodup ∧ registry.themes = themes ∧ registry.fallback ∈ themes ∧
      registry.fallback.id = fallbackId := by
  have distinct : (themes.map Theme.id).Nodup := by
    by_contra repeated
    obtain ⟨before, theme, after, rfl, first, repeats⟩ := exists_first_repeat repeated
    rw [ofThemes_of_repeat first repeats] at made
    cases made
  by_cases known : fallbackId ∈ themes.map Theme.id
  · obtain ⟨theme, member, rfl⟩ := List.mem_map.1 known
    obtain ⟨other, same, listed, fallback⟩ := ofThemes_of_known distinct member
    rw [made, Except.ok.injEq] at same
    subst same
    exact ⟨distinct, listed, fallback ▸ member, fallback ▸ rfl⟩
  · rw [ofThemes_of_unknown distinct known] at made
    cases made

/-! ### Lookups -/

variable (registry : ThemeRegistry)

theorem resolve_eq_ok_iff :
    registry.resolve id = .ok theme ↔ theme ∈ registry.themes ∧ theme.id = id := by
  constructor
  · intro resolved
    rw [resolve] at resolved
    split at resolved
    next other found =>
      cases resolved
      exact ⟨List.mem_of_find?_eq_some found, by simpa using List.find?_some found⟩
    next => cases resolved
  · rintro ⟨member, rfl⟩
    rw [resolve, find?_of_distinct registry.ids_nodup member]

theorem resolve_of_unknown (unknown : id ∉ registry.themes.map Theme.id) :
    registry.resolve id = .error (.unknown id) := by
  rw [resolve, find?_of_unknown unknown]

/-- Registries of the same themes, in whatever order, look them up alike. -/
theorem resolve_congr {first second : ThemeRegistry}
    (same : ∀ theme, theme ∈ first.themes ↔ theme ∈ second.themes) (id : String) :
    first.resolve id = second.resolve id := by
  by_cases known : id ∈ first.themes.map Theme.id
  · obtain ⟨theme, member, rfl⟩ := List.mem_map.1 known
    rw [first.resolve_eq_ok_iff.2 ⟨member, rfl⟩,
      second.resolve_eq_ok_iff.2 ⟨(same theme).1 member, rfl⟩]
  · have unknown : id ∉ second.themes.map Theme.id := by
      intro listed
      obtain ⟨theme, member, rfl⟩ := List.mem_map.1 listed
      exact known (List.mem_map_of_mem ((same theme).2 member))
    rw [first.resolve_of_unknown known, second.resolve_of_unknown unknown]

theorem resolveOrFallback_congr {first second : ThemeRegistry}
    (same : ∀ theme, theme ∈ first.themes ↔ theme ∈ second.themes)
    (fallback : first.fallback = second.fallback) (id : String) :
    first.resolveOrFallback id = second.resolveOrFallback id := by
  rw [resolveOrFallback, resolveOrFallback, resolve_congr same id, fallback]

/-- The same themes in another order make a registry with the same answers. -/
theorem ofThemes_of_perm {registry : ThemeRegistry} {others : List Theme}
    (made : ofThemes themes fallbackId = .ok registry) (reordered : others.Perm themes) :
    ∃ other, ofThemes others fallbackId = .ok other ∧ other.fallback = registry.fallback ∧
      ∀ id, other.resolve id = registry.resolve id ∧
        other.resolveOrFallback id = registry.resolveOrFallback id := by
  obtain ⟨distinct, listed, member, rfl⟩ := of_ofThemes made
  obtain ⟨other, otherMade, otherListed, fallback⟩ :=
    ofThemes_of_known ((reordered.map Theme.id).nodup_iff.2 distinct) (reordered.mem_iff.2 member)
  have same : ∀ theme, theme ∈ other.themes ↔ theme ∈ registry.themes := by
    rw [otherListed, listed]
    exact fun theme => reordered.mem_iff
  exact ⟨other, otherMade, fallback,
    fun id => ⟨resolve_congr same id, resolveOrFallback_congr same fallback id⟩⟩

/-! ### Themes by their places -/

/-- Among different identifiers none is found before its place. -/
theorem not_before_place (distinct : (themes.map Theme.id).Nodup) {i : Nat}
    (placed : themes[i]? = some theme) : (themes.take i).any (·.id == theme.id) = false := by
  obtain ⟨inside, rfl⟩ := List.getElem?_eq_some_iff.1 placed
  rw [← List.take_append_drop i themes, List.drop_eq_getElem_cons inside, List.map_append,
    List.map_cons] at distinct
  have apart := (List.nodup_append.1 distinct).2.2
  rw [List.any_eq_false]
  intro other earlier same
  exact apart _ (List.mem_map_of_mem earlier) _ List.mem_cons_self (by simpa using same)

/-- Whatever follows, no repeat is found in themes with different identifiers. -/
theorem find?_zipIdx_of_distinct (distinct : (themes.map Theme.id).Nodup) (after : List Theme) :
    (themes.zipIdx.find? fun (theme, i) =>
      ((themes ++ after).take i).any (·.id == theme.id)) = none := by
  rw [List.find?_eq_none]
  rintro ⟨theme, i⟩ member
  have placed : themes[i]? = some theme := List.mem_zipIdx_iff_getElem?.1 member
  obtain ⟨inside, -⟩ := List.getElem?_eq_some_iff.1 placed
  show ¬ ((themes ++ after).take i).any (·.id == theme.id) = true
  rw [List.take_append_of_le_length (Nat.le_of_lt inside), not_before_place distinct placed]
  exact Bool.false_ne_true

theorem find?_zipIdx_of_repeat (distinct : (before.map Theme.id).Nodup)
    (repeats : theme.id ∈ before.map Theme.id) :
    ((before ++ theme :: after).zipIdx.find? fun (other, i) =>
      ((before ++ theme :: after).take i).any (·.id == other.id)) = some (theme, before.length) := by
  obtain ⟨earlier, member, same⟩ := List.mem_map.1 repeats
  have found : before.any (·.id == theme.id) = true :=
    List.any_eq_true.2 ⟨earlier, member, by simpa using same⟩
  rw [List.zipIdx_append, List.find?_append, find?_zipIdx_of_distinct distinct, Option.none_or,
    List.zipIdx_cons, List.find?_cons_of_pos]
  · rw [Nat.zero_add]
  · show ((before ++ theme :: after).take (0 + before.length)).any (·.id == theme.id) = true
    rw [Nat.zero_add, List.take_left]
    exact found

/-- Going over the places comes to the same, and the place that is kept is that of the fallback. -/
theorem placed_ofThemes (themes : List Theme) (fallbackId : String) :
    (Placed.ofThemes themes fallbackId).map (fun placed => (placed.themes, placed.fallback?)) =
      (ofThemes themes fallbackId).map fun registry =>
        (registry.themes, some registry.fallback) := by
  rw [Placed.ofThemes]
  by_cases distinct : (themes.map Theme.id).Nodup
  · have clean := find?_zipIdx_of_distinct distinct []
    rw [List.append_nil] at clean
    rw [clean]
    by_cases known : fallbackId ∈ themes.map Theme.id
    · obtain ⟨theme, member, rfl⟩ := List.mem_map.1 known
      obtain ⟨registry, made, listed, fallback⟩ := ofThemes_of_known distinct member
      have place : themes.findIdx? (·.id == theme.id) =
          some (themes.findIdx (·.id == theme.id)) :=
        List.findIdx?_eq_some_of_exists ⟨theme, member, beq_self_eq_true theme.id⟩
      have there : themes[themes.findIdx (·.id == theme.id)]? = some theme := by
        rw [← List.find?_eq_getElem?_findIdx, find?_of_distinct distinct member]
      rw [made, place]
      show Except.ok (themes, themes[themes.findIdx (·.id == theme.id)]?) =
        Except.ok (registry.themes, some registry.fallback)
      rw [there, listed, fallback]
    · have missing : themes.findIdx? (·.id == fallbackId) = none := by
        rw [List.findIdx?_eq_none_iff]
        exact fun theme member =>
          beq_false_of_ne fun same => known (List.mem_map.2 ⟨theme, member, same⟩)
      rw [ofThemes_of_unknown distinct known, missing]
      rfl
  · obtain ⟨before, theme, after, rfl, first, repeats⟩ := exists_first_repeat distinct
    rw [find?_zipIdx_of_repeat first repeats, ofThemes_of_repeat first repeats]
    rfl

/-- A registry is made exactly if the identifiers of its themes differ and that of the fallback is
among them. Otherwise the first identifier that repeats an earlier one is refused, and if there is
none, the fallback is. In a registry the fallback is the theme with its identifier, each listed
identifier stands for the one theme that has it, and any other identifier for nothing or for the
fallback. Themes in another order make a registry with the same answers. Keeping the place of the
fallback, found by going over the themes, comes to the same registry. -/
theorem registries_exact (themes : List Theme) (fallbackId : String) :
    let ids := themes.map Theme.id
    ((∃ registry, ofThemes themes fallbackId = .ok registry) ↔ ids.Nodup ∧ fallbackId ∈ ids) ∧
    (¬ ids.Nodup → ∃ before theme after, themes = before ++ theme :: after ∧
      (before.map Theme.id).Nodup ∧ theme.id ∈ before.map Theme.id ∧
      ofThemes themes fallbackId = .error (.duplicate theme.id)) ∧
    (ids.Nodup → fallbackId ∉ ids →
      ofThemes themes fallbackId = .error (.unknown fallbackId)) ∧
    (∀ registry, ofThemes themes fallbackId = .ok registry →
      registry.fallback ∈ themes ∧ registry.fallback.id = fallbackId ∧
      (∀ id, (∃ theme, registry.resolve id = .ok theme) ↔ id ∈ ids) ∧
      (∀ id theme, registry.resolve id = .ok theme ↔ theme ∈ themes ∧ theme.id = id) ∧
      (∀ theme ∈ themes, registry.resolveOrFallback theme.id = theme) ∧
      (∀ id, id ∉ ids → registry.resolve id = .error (.unknown id) ∧
        registry.resolveOrFallback id = registry.fallback) ∧
      ∀ others, others.Perm themes → ∃ other, ofThemes others fallbackId = .ok other ∧
        other.fallback = registry.fallback ∧
        ∀ id, other.resolve id = registry.resolve id ∧
          other.resolveOrFallback id = registry.resolveOrFallback id) ∧
    (Placed.ofThemes themes fallbackId).map (fun placed => (placed.themes, placed.fallback?)) =
      (ofThemes themes fallbackId).map fun registry =>
        (registry.themes, some registry.fallback) := by
  intro ids
  refine ⟨⟨?_, ?_⟩, ?_, ofThemes_of_unknown, ?_, placed_ofThemes themes fallbackId⟩
  · rintro ⟨registry, made⟩
    obtain ⟨distinct, -, member, named⟩ := of_ofThemes made
    exact ⟨distinct, List.mem_map.2 ⟨_, member, named⟩⟩
  · rintro ⟨distinct, known⟩
    obtain ⟨theme, member, rfl⟩ := List.mem_map.1 known
    obtain ⟨registry, made, -⟩ := ofThemes_of_known distinct member
    exact ⟨registry, made⟩
  · intro repeated
    obtain ⟨before, theme, after, rfl, distinct, repeats⟩ := exists_first_repeat repeated
    exact ⟨before, theme, after, rfl, distinct, repeats, ofThemes_of_repeat distinct repeats⟩
  · intro registry made
    obtain ⟨-, listed, member, named⟩ := of_ofThemes made
    subst listed
    refine ⟨member, named, fun id => ?_, fun id theme => registry.resolve_eq_ok_iff, ?_, ?_,
      fun others => ofThemes_of_perm made⟩
    · constructor
      · rintro ⟨theme, resolved⟩
        obtain ⟨theme_mem, rfl⟩ := registry.resolve_eq_ok_iff.1 resolved
        exact List.mem_map_of_mem theme_mem
      · intro known
        obtain ⟨theme, theme_mem, rfl⟩ := List.mem_map.1 known
        exact ⟨theme, registry.resolve_eq_ok_iff.2 ⟨theme_mem, rfl⟩⟩
    · intro theme theme_mem
      rw [resolveOrFallback, registry.resolve_eq_ok_iff.2 ⟨theme_mem, rfl⟩]
    · intro id unknown
      have missing := registry.resolve_of_unknown unknown
      refine ⟨missing, ?_⟩
      rw [resolveOrFallback, missing]

end PagePress.ThemeRegistry
