import Mathlib.Data.List.Forall2
import PagePress.Proofs.Stylesheet

/-!
# Anchored selectors

Confining a selector list to a scope puts the scope before those parts of the list that do not start
at it yet. The parts of the confined list are the parts of the list, one by one, and all of them start
at the scope, so that confining them again changes nothing.
-/
namespace PagePress

namespace Selector

/-- A part starts at the scope: the scope is all of it, or white space follows, or a character after
which the name of the scope cannot go on. -/
def StartsAt (scope part : List Char) : Prop :=
  ∃ rest, part = scope ++ rest ∧
    ∀ c ∈ rest.head?, Text.isBlank c = true ∨ c ∈ [':', '.', '[', '>', '+', '~', '\x23']

/-- What becomes of a part: it stays if it starts at the scope, and follows the scope otherwise, so
that it starts at the scope in any case. -/
structure Anchored (scope part anchored : List Char) : Prop where
  starts : StartsAt scope anchored
  kept : StartsAt scope part → anchored = part
  moved : ¬ StartsAt scope part → anchored = scope ++ ' ' :: part

variable {scope selector part : List Char}

theorem endsName_iff {c : Char} :
    endsName c = true ↔ Text.isBlank c = true ∨ c ∈ [':', '.', '[', '>', '+', '~', '\x23'] := by
  simp [endsName, or_assoc]

theorem targets_iff : targets scope part = true ↔ StartsAt scope part := by
  unfold targets StartsAt
  rw [Bool.and_eq_true, List.isPrefixOf_iff_prefix]
  constructor
  · rintro ⟨⟨rest, rfl⟩, behind⟩
    refine ⟨rest, rfl, fun c next => endsName_iff.1 ?_⟩
    rw [List.drop_left] at behind
    cases rest with
    | nil => cases next
    | cons d rest =>
      obtain rfl := Option.some.inj next
      exact behind
  · rintro ⟨rest, rfl, next⟩
    refine ⟨List.prefix_append _ _, ?_⟩
    rw [List.drop_left]
    cases rest with
    | nil => rfl
    | cons d rest => exact endsName_iff.2 (next d rfl)

theorem anchor_of_startsAt (starts : StartsAt scope part) : anchor scope part = part :=
  if_pos (targets_iff.2 starts)

theorem anchor_of_not (elsewhere : ¬ StartsAt scope part) :
    anchor scope part = scope ++ ' ' :: part :=
  if_neg (mt targets_iff.1 elsewhere)

theorem startsAt_anchor (scope part : List Char) : StartsAt scope (anchor scope part) := by
  by_cases starts : StartsAt scope part
  · rwa [anchor_of_startsAt starts]
  · rw [anchor_of_not starts]
    refine ⟨' ' :: part, rfl, ?_⟩
    rintro c ⟨⟩
    exact .inl (by decide)

theorem anchored_anchor (scope part : List Char) : Anchored scope part (anchor scope part) :=
  ⟨startsAt_anchor scope part, anchor_of_startsAt, anchor_of_not⟩

theorem anchor_anchor (scope part : List Char) :
    anchor scope (anchor scope part) = anchor scope part :=
  anchor_of_startsAt (startsAt_anchor scope part)

/-- White space at the end of the scope does no harm, since the part follows it. -/
theorem neat_anchor (begins : ∃ c name, scope = c :: name ∧ Text.isBlank c = false)
    (neat : Text.Neat part) : Text.Neat (anchor scope part) := by
  by_cases starts : StartsAt scope part
  · rwa [anchor_of_startsAt starts]
  rw [anchor_of_not starts]
  obtain ⟨c, name, rfl, first⟩ := begins
  obtain ⟨front, d, rfl, last⟩ := neat.ends
  exact ⟨⟨c, name ++ ' ' :: (front ++ [d]), rfl, first⟩, c :: name ++ ' ' :: front, d, by simp, last⟩

theorem comma_not_mem_anchor (plain : ',' ∉ scope) (member : part ∈ parts selector) :
    ',' ∉ anchor scope part := by
  have own := comma_not_mem_part member
  by_cases starts : StartsAt scope part
  · rwa [anchor_of_startsAt starts]
  · rw [anchor_of_not starts]
    simp [plain, own]

/-- Between the commas of a confined list stand the anchored parts, and nothing else. -/
theorem pieces_confine (begins : ∃ c name, scope = c :: name ∧ Text.isBlank c = false)
    (plain : ',' ∉ scope) (some : parts selector ≠ []) :
    (Text.pieces ',' (confine scope selector)).map Text.strip =
      (parts selector).map (anchor scope) := by
  have neat : ∀ anchored ∈ (parts selector).map (anchor scope), Text.Neat anchored := by
    intro anchored listed
    obtain ⟨part, member, rfl⟩ := List.mem_map.1 listed
    exact neat_anchor begins (neat_of_mem_parts member)
  have commaless : ∀ anchored ∈ (parts selector).map (anchor scope), ',' ∉ anchored := by
    intro anchored listed
    obtain ⟨part, member, rfl⟩ := List.mem_map.1 listed
    exact comma_not_mem_anchor plain member
  obtain ⟨first, others, listed⟩ :=
    List.exists_cons_of_ne_nil (mt List.map_eq_nil_iff.1 some : (parts selector).map (anchor scope) ≠ [])
  rw [confine]
  rw [listed] at neat commaless ⊢
  rw [pieces_spaced commaless, map_strip_spaced neat]

theorem parts_confine (begins : ∃ c name, scope = c :: name ∧ Text.isBlank c = false)
    (plain : ',' ∉ scope) :
    parts (confine scope selector) = (parts selector).map (anchor scope) := by
  by_cases none : parts selector = []
  · rw [confine, none]
    rfl
  rw [parts, pieces_confine begins plain none, List.filter_eq_self]
  intro anchored listed
  obtain ⟨part, member, rfl⟩ := List.mem_map.1 listed
  obtain ⟨d, rest, shape, -⟩ := (neat_anchor begins (neat_of_mem_parts member)).begins
  rw [shape]
  rfl

theorem confine_confine (begins : ∃ c name, scope = c :: name ∧ Text.isBlank c = false)
    (plain : ',' ∉ scope) :
    confine scope (confine scope selector) = confine scope selector := by
  rw [confine, parts_confine begins plain, List.map_map]
  congr 1
  exact List.map_congr_left fun part _ => anchor_anchor scope part

end Selector

namespace Stylesheet

/-- A rule with its selector within the scope. -/
def Rule.confined (scope : String) (rule : Rule) : Rule :=
  { rule with selector := rule.selector.map (Stylesheet.confined scope) }

variable {scope : String}

theorem scopeDeclarations_confined (rules : List Rule) (scopeDeclaration : Option String) :
    scopeDeclarations (rules.map (Rule.confined scope)) scopeDeclaration =
      scopeDeclarations rules scopeDeclaration := by
  have own : ((rules.map (Rule.confined scope)).filter (·.selector.isNone)).map Rule.declaration =
      (rules.filter (·.selector.isNone)).map Rule.declaration := by
    rw [List.filter_map, List.map_map]
    congr 1
    refine List.filter_congr fun rule _ => ?_
    exact Option.isNone_map
  rw [scopeDeclarations, scopeDeclarations, own]

/-- The selectors of a stylesheet may be confined before it is composed. -/
theorem compose_confined (again : ∀ selector, confined scope (confined scope selector) =
      confined scope selector) (rules : List Rule) (scopeDeclaration trailing : Option String) :
    compose (rules.map (Rule.confined scope)) scope scopeDeclaration trailing =
      compose rules scope scopeDeclaration trailing := by
  have nested : ∀ rule : Rule, nestedBlock? scope (rule.confined scope) = nestedBlock? scope rule := by
    intro rule
    cases given : rule.selector with
    | none => simp only [nestedBlock?, Rule.confined, given, Option.map_none]
    | some selector =>
      have same := again selector
      rw [confined, confined] at same
      simp only [nestedBlock?, Rule.confined, given, Option.map_some, confined, same]
  have same : blocks (rules.map (Rule.confined scope)) scope scopeDeclaration =
      blocks rules scope scopeDeclaration := by
    rw [blocks, blocks, scopeDeclarations_confined, List.filterMap_map]
    congr 2
    exact funext nested
  rw [compose, compose, same]

/-- The scope of a theme stands before each part of a selector list, once. The parts between the
commas of a confined list are those of the list that are not blank, in order, each anchored at the
scope, and confining it again changes nothing. A stylesheet is therefore the same if its selectors are
confined before it is composed. -/
theorem confined_anchored {rootClass : String} (plain : ',' ∉ rootClass.toList) :
    let scope := "." ++ rootClass
    (∀ selector : String, Selector.parts selector.toList ≠ [] →
      List.Forall₂ (Selector.Anchored scope.toList) (Selector.parts selector.toList)
        ((Text.pieces ',' (confined scope selector).toList).map Text.strip)) ∧
    (∀ selector, confined scope (confined scope selector) = confined scope selector) ∧
    ∀ (rules : List Rule) (scopeDeclaration trailing : Option String),
      compose (rules.map (Rule.confined scope)) scope scopeDeclaration trailing =
        compose rules scope scopeDeclaration trailing := by
  intro scope
  have shape : scope.toList = '.' :: rootClass.toList := String.toList_append
  have begins : ∃ c name, scope.toList = c :: name ∧ Text.isBlank c = false :=
    ⟨'.', rootClass.toList, shape, by decide⟩
  have commaless : ',' ∉ scope.toList := by
    rw [shape]
    simpa using plain
  have again : ∀ selector, confined scope (confined scope selector) = confined scope selector := by
    intro selector
    rw [confined, confined, String.toList_ofList, Selector.confine_confine begins commaless]
  refine ⟨fun selector some => ?_, again, compose_confined again⟩
  rw [confined, String.toList_ofList, Selector.pieces_confine begins commaless some]
  refine List.forall₂_map_right_iff.2 (List.forall₂_same.2 fun part _ => ?_)
  exact Selector.anchored_anchor scope.toList part

/-- A list with a part at the scope, a blank one and one that only begins like the scope. -/
theorem confined_anchored_list :
    let selector := " h1,.w > p ,, .wide"
    ',' ∉ "w".toList ∧ Selector.parts selector.toList ≠ [] ∧
    List.Forall₂ (Selector.Anchored ".w".toList) (Selector.parts selector.toList)
      [".w h1".toList, ".w > p".toList, ".w .wide".toList] ∧
    confined ".w" ".w h1, .w > p, .w .wide" = ".w h1, .w > p, .w .wide" := by
  intro selector
  have plain : ',' ∉ "w".toList := by decide
  have some : Selector.parts selector.toList ≠ [] := by decide +kernel
  have once : confined ".w" selector = ".w h1, .w > p, .w .wide" := by decide +kernel
  have split : (Text.pieces ',' (confined ".w" selector).toList).map Text.strip =
      [".w h1".toList, ".w > p".toList, ".w .wide".toList] := by decide +kernel
  refine ⟨plain, some, ?_, ?_⟩
  · rw [← split]
    exact (confined_anchored plain).1 selector some
  · rw [← once]
    exact (confined_anchored plain).2.1 selector

end Stylesheet

end PagePress
