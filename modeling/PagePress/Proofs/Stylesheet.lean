import PagePress.Proofs.Enclosed
import PagePress.Proofs.Selector
import PagePress.Stylesheet

/-!
# Reading a stylesheet back

A composed stylesheet is a list of blocks, and can be read as one as long as no brace stands in what
it was composed from. What is read are the scope's own declarations in one block and then the rules
with a selector one by one, so that none is lost, repeated, merged with another or moved.
-/
namespace PagePress

namespace Stylesheet

/-- The block whose selector stands before a body in braces. -/
def Block.ofPart (part : List Char × List Char) : Block :=
  ⟨String.ofList (Text.strip part.1), String.ofList (Text.strip part.2)⟩

/-- A block without the white space around its parts. -/
def Block.trimmed (block : Block) : Block := ⟨Text.trim block.selector, Text.trim block.body⟩

/-- Reads blocks, behind which there may be white space only. -/
def read? (css : List Char) : Option (List Block) :=
  (Enclosed.read? '\x7b' '\x7d' css).bind fun e =>
    if Text.strip e.last = [] then some (e.parts.map Block.ofPart) else none

/-- No brace stands in the text. -/
def Braceless (s : String) : Prop := '\x7b' ∉ s.toList ∧ '\x7d' ∉ s.toList

instance : DecidablePred Braceless := fun _ => inferInstanceAs (Decidable (_ ∧ _))

variable {css : List Char}

/-- White space before a block is passed over. -/
theorem read?_blank {c : Char} (blank : Text.isBlank c = true) (css : List Char) :
    read? (c :: css) = read? css := by
  have other : '\x7b' ∉ [c] := by
    rw [List.mem_singleton]
    rintro rfl
    exact absurd blank (by decide)
  have passed (text : List Char) : Text.strip (c :: text) = Text.strip text :=
    Text.strip_blank_append (show ∀ d ∈ [c], Text.isBlank d = true by simpa using blank)
  have step : Enclosed.read? '\x7b' '\x7d' (c :: css) =
      (Enclosed.read? '\x7b' '\x7d' css).map (Enclosed.prepend [c]) :=
    Enclosed.read?_append other css
  rw [read?, step, read?]
  cases Enclosed.read? '\x7b' '\x7d' css with
  | none => rfl
  | some e =>
    obtain ⟨parts, last⟩ := e
    cases parts with
    | nil => simp [Enclosed.prepend, passed]
    | cons part parts => simp [Enclosed.prepend, Block.ofPart, passed]

/-- A written block is read, without the white space around its parts. -/
theorem read?_block {block : Block} (selector : '\x7b' ∉ block.selector.toList)
    (body : '\x7d' ∉ block.body.toList) (css : List Char) :
    read? (block.write.toList ++ css) =
      (read? css).map (block.trimmed :: ·) := by
  have shape : block.write.toList ++ css =
      (block.selector.toList ++ [' ']) ++
        '\x7b' :: ((['\n', ' ', ' '] ++ block.body.toList ++ ['\n']) ++ '\x7d' :: ('\n' :: css)) := by
    simp [Block.write, String.toList_append]
  have selector : '\x7b' ∉ block.selector.toList ++ [' '] := by simpa using selector
  have body : '\x7d' ∉ ['\n', ' ', ' '] ++ block.body.toList ++ ['\n'] := by simpa using body
  have space : ∀ c ∈ [' '], Text.isBlank c = true := List.all_eq_true.1 (by decide)
  have line : ∀ c ∈ ['\n'], Text.isBlank c = true := List.all_eq_true.1 (by decide)
  have indent : ∀ c ∈ ['\n', ' ', ' '], Text.isBlank c = true := List.all_eq_true.1 (by decide)
  have own : Block.ofPart (block.selector.toList ++ [' '],
      ['\n', ' ', ' '] ++ block.body.toList ++ ['\n']) = block.trimmed := by
    simp only [Block.ofPart]
    rw [Text.strip_append_blank space, Text.strip_append_blank line, Text.strip_blank_append indent]
    rfl
  rw [shape, read?, Enclosed.read?_part selector body, ← read?_blank (c := '\n') (by decide) css,
    read?]
  cases Enclosed.read? '\x7b' '\x7d' ('\n' :: css) with
  | none => rfl
  | some e =>
    rw [Option.map_some, Option.bind_some, Option.bind_some]
    simp only [Enclosed.cons, List.map_cons, own]
    split <;> rfl

/-- No brace of a block stands where it would be taken for one around it. -/
def Block.Readable (block : Block) : Prop :=
  '\x7b' ∉ block.selector.toList ∧ '\x7d' ∉ block.body.toList

/-- Blocks are read as they were written, one by one. -/
theorem read?_writeAll {blocks : List Block} (readable : ∀ block ∈ blocks, block.Readable) :
    read? (writeAll blocks).toList = some (blocks.map Block.trimmed) := by
  induction blocks with
  | nil => rfl
  | cons first blocks ih =>
    obtain ⟨selector, body⟩ := readable first List.mem_cons_self
    have later := ih fun block member => readable block (List.mem_cons_of_mem _ member)
    cases blocks with
    | nil =>
      have single : writeAll [first] = first.write := String.intercalate_singleton
      have step := read?_block selector body []
      rw [List.append_nil] at step
      rw [single, step]
      rfl
    | cons second blocks =>
      have split : writeAll (first :: second :: blocks) =
          first.write ++ "\n" ++ writeAll (second :: blocks) := String.intercalate_cons_cons
      rw [split, String.toList_append, String.toList_append, List.append_assoc,
        read?_block selector body]
      exact congrArg (Option.map (first.trimmed :: ·))
        ((read?_blank (c := '\n') (by decide) _).trans later)

variable {rules : List Rule} {scope : String} {scopeDeclaration : Option String}

theorem mem_trim {s : String} {c : Char} (member : c ∈ (Text.trim s).toList) : c ∈ s.toList := by
  rw [Text.trim, String.toList_ofList] at member
  exact Text.mem_of_mem_strip member

/-- The declarations for the scope that are not blank, each without white space around it. -/
theorem neat_of_mem_scopeDeclarations {d : String}
    (member : d ∈ scopeDeclarations rules scopeDeclaration) : Text.Neat d.toList := by
  obtain ⟨listed, filled⟩ := List.mem_filter.1 member
  obtain ⟨given, -, rfl⟩ := List.mem_map.1 listed
  rw [Text.trim, String.toList_ofList]
  refine Text.neat_strip fun empty => ?_
  rw [Text.trim, empty] at filled
  exact absurd filled (by decide)

theorem trim_of_strip {s : String} (h : Text.strip s.toList = s.toList) : Text.trim s = s := by
  rw [Text.trim, h, String.ofList_toList]

/-- The lines of the scope's own block have no white space around them as a whole. -/
theorem trim_scopeDeclarations :
    Text.trim ("\n  ".intercalate (scopeDeclarations rules scopeDeclaration)) =
      "\n  ".intercalate (scopeDeclarations rules scopeDeclaration) := by
  apply trim_of_strip
  rw [String.toList_intercalate]
  have neat : ∀ piece ∈ (scopeDeclarations rules scopeDeclaration).map String.toList,
      Text.Neat piece := by
    intro piece listed
    obtain ⟨d, member, rfl⟩ := List.mem_map.1 listed
    exact neat_of_mem_scopeDeclarations member
  cases shape : (scopeDeclarations rules scopeDeclaration).map String.toList with
  | nil => rfl
  | cons first pieces => exact (Text.Neat.intercalate (shape ▸ neat) _).strip_eq

/-- The texts that a stylesheet is composed from have no braces. -/
structure Plain (rules : List Rule) (scope : String) (scopeDeclaration : Option String) : Prop where
  scope : Braceless scope
  declaration : ∀ d ∈ scopeDeclaration, Braceless d
  rules : ∀ rule ∈ rules, Braceless rule.declaration ∧ ∀ selector ∈ rule.selector, Braceless selector

theorem Plain.of_mem_scopeDeclarations (plain : Plain rules scope scopeDeclaration) {d : String}
    (member : d ∈ scopeDeclarations rules scopeDeclaration) : '\x7d' ∉ d.toList := by
  obtain ⟨listed, -⟩ := List.mem_filter.1 member
  obtain ⟨given, origin, rfl⟩ := List.mem_map.1 listed
  refine fun inside => absurd (mem_trim inside) ?_
  rcases List.mem_append.1 origin with own | fromRule
  · exact (plain.declaration given (Option.mem_toList.1 own)).2
  · obtain ⟨rule, kept, rfl⟩ := List.mem_map.1 fromRule
    exact (plain.rules rule (List.mem_filter.1 kept).1).1.2

/-- The blocks of a stylesheet that is composed from texts without braces can be read. -/
theorem Plain.readable (plain : Plain rules scope scopeDeclaration) :
    ∀ block ∈ blocks rules scope scopeDeclaration, block.Readable := by
  intro block member
  rcases List.mem_append.1 member with first | nested
  · split at first
    · cases first
    rw [List.mem_singleton.1 first]
    refine ⟨plain.scope.1, fun inside => ?_⟩
    rw [String.toList_intercalate] at inside
    rcases Text.mem_of_mem_intercalate inside with between | ⟨piece, listed, inside⟩
    · exact absurd between (by decide)
    · obtain ⟨d, own, rfl⟩ := List.mem_map.1 listed
      exact plain.of_mem_scopeDeclarations own inside
  · obtain ⟨rule, listed, shape⟩ := List.mem_filterMap.1 nested
    obtain ⟨selector, given, rfl⟩ := Option.map_eq_some_iff.1 shape
    obtain ⟨declaration, selectors⟩ := plain.rules rule listed
    refine ⟨fun inside => ?_, fun inside => declaration.2 (mem_trim inside)⟩
    rw [String.toList_ofList] at inside
    rcases Selector.mem_of_mem_confine inside with outer | inner | between
    · exact plain.scope.1 outer
    · exact (selectors selector given).1 inner
    · exact absurd between (by decide)

theorem scopeDeclarations_ne_nil_iff :
    scopeDeclarations rules scopeDeclaration ≠ [] ↔
      ∃ d ∈ scopeDeclaration.toList ++ (rules.filter (·.selector.isNone)).map Rule.declaration,
        ∃ c ∈ d.toList, Text.isBlank c = false := by
  have filled : ∀ d : String, (Text.trim d).isEmpty = false ↔
      ∃ c ∈ d.toList, Text.isBlank c = false := by
    intro d
    rw [Bool.eq_false_iff, ne_eq, String.isEmpty_iff, Text.trim, String.ofList_eq_empty_iff,
      Text.strip_eq_nil_iff]
    simp
  simp only [scopeDeclarations, ne_eq, List.filter_eq_nil_iff, List.forall_mem_map,
    Bool.not_eq_true', Bool.not_eq_false]
  simp [← filled]

theorem compose_trailing (rules : List Rule) (scope : String) (scopeDeclaration : Option String)
    (trailing : String) :
    compose rules scope scopeDeclaration (some trailing) =
      compose rules scope scopeDeclaration none ++ trailing := by
  simp [compose]

/-- Rules of the two kinds do not compete for places. -/
theorem blocks_eq_of_filter {others : List Rule}
    (own : others.filter (·.selector.isNone) = rules.filter (·.selector.isNone))
    (nested : others.filter (·.selector.isSome) = rules.filter (·.selector.isSome)) :
    blocks others scope scopeDeclaration = blocks rules scope scopeDeclaration := by
  have same : ∀ list : List Rule,
      list.filterMap (nestedBlock? scope) =
        (list.filter (·.selector.isSome)).filterMap (nestedBlock? scope) := by
    intro list
    rw [List.filterMap_filter]
    congr 1
    funext rule
    cases given : rule.selector <;> simp [nestedBlock?, given]
  unfold blocks scopeDeclarations
  rw [own, same others, same rules, nested]

/-- A selector within a scope. -/
def confined (scope selector : String) : String :=
  String.ofList (Selector.confine scope.toList selector.toList)

theorem trim_trim (s : String) : Text.trim (Text.trim s) = Text.trim s := by
  apply trim_of_strip
  rw [Text.trim, String.toList_ofList, Text.strip_strip]

theorem trim_confined (filled : scope ≠ "") (neat : Text.trim scope = scope) (selector : String) :
    Text.trim (confined scope selector) = confined scope selector := by
  have stripped : Text.strip scope.toList = scope.toList := by
    have same := congrArg String.toList neat
    rwa [Text.trim, String.toList_ofList] at same
  have some : Text.strip scope.toList ≠ [] := by
    rw [stripped]
    exact mt String.toList_eq_nil_iff.1 filled
  apply trim_of_strip
  rw [confined, String.toList_ofList]
  exact Selector.strip_confine (stripped ▸ Text.neat_strip some) _

/-- The blocks of a stylesheet without the white space around their parts. -/
theorem trimmed_blocks (rules : List Rule) (scope : String) (scopeDeclaration : Option String) :
    (blocks rules scope scopeDeclaration).map Block.trimmed =
      (if (scopeDeclarations rules scopeDeclaration).isEmpty then []
        else [⟨Text.trim scope, "\n  ".intercalate (scopeDeclarations rules scopeDeclaration)⟩]) ++
      rules.filterMap fun rule => rule.selector.map fun selector =>
        ⟨Text.trim (confined scope selector), Text.trim rule.declaration⟩ := by
  unfold blocks
  rw [List.map_append, List.map_filterMap]
  congr 1
  · split
    · rfl
    · simp only [List.map_cons, List.map_nil, Block.trimmed, trim_scopeDeclarations]
  · congr 1
    funext rule
    cases given : rule.selector with
    | none => simp [nestedBlock?, given]
    | some selector => simp [nestedBlock?, given, Block.trimmed, trim_trim, confined]

/-- A stylesheet composed from texts without braces is read as one block for the scope, with the
declarations for it that are not blank, if there are any, and one block for each rule with a selector,
in order. Selectors come out as they are confined to the scope, up to white space at their ends, and
exactly so if the scope itself is neat. Hand-written text follows the composed one unchanged, and rules
for the scope may change places with rules that have a selector. -/
theorem read?_compose (plain : Plain rules scope scopeDeclaration) :
    let given := scopeDeclaration.toList ++ (rules.filter (·.selector.isNone)).map Rule.declaration
    let own := (given.map Text.trim).filter (!·.isEmpty)
    let css := compose rules scope scopeDeclaration none
    read? css.toList =
      some ((if own.isEmpty then [] else [⟨Text.trim scope, "\n  ".intercalate own⟩]) ++
        rules.filterMap fun rule => rule.selector.map fun selector =>
          ⟨Text.trim (confined scope selector), Text.trim rule.declaration⟩) ∧
    (own ≠ [] ↔ ∃ d ∈ given, ∃ c ∈ d.toList, Text.isBlank c = false) ∧
    (scope ≠ "" → Text.trim scope = scope → ∀ selector,
      Text.trim (confined scope selector) = confined scope selector) ∧
    (∀ trailing, compose rules scope scopeDeclaration (some trailing) = css ++ trailing) ∧
    ∀ others : List Rule,
      others.filter (·.selector.isNone) = rules.filter (·.selector.isNone) →
      others.filter (·.selector.isSome) = rules.filter (·.selector.isSome) →
      compose others scope scopeDeclaration none = css := by
  intro given own css
  refine ⟨?_, scopeDeclarations_ne_nil_iff, trim_confined, compose_trailing _ _ _, ?_⟩
  · have written : css = writeAll (blocks rules scope scopeDeclaration) := String.append_empty
    rw [written, read?_writeAll plain.readable, trimmed_blocks]
    rfl
  · intro others sameOwn sameNested
    simp only [css, compose, blocks_eq_of_filter sameOwn sameNested]

/-- Rules of both kinds in turn, a blank declaration, a selector list and a repeated selector. -/
theorem read?_compose_mixed :
    let rules : List Rule := [⟨some "h1, .w > p", " a: b; "⟩, ⟨none, "c: d;\n  e: f;"⟩,
      ⟨some "h1", ""⟩, ⟨none, " \n"⟩, ⟨some "h1", "a: b;"⟩]
    Plain rules ".w" (some " margin: 0; ") ∧
    read? (compose rules ".w" (some " margin: 0; ") none).toList =
      some [⟨".w", "margin: 0;\n  c: d;\n  e: f;"⟩, ⟨".w h1, .w > p", "a: b;"⟩, ⟨".w h1", ""⟩,
        ⟨".w h1", "a: b;"⟩] := by
  intro rules
  have plain : Plain rules ".w" (some " margin: 0; ") := ⟨by decide, by decide, by decide⟩
  exact ⟨plain, (read?_compose plain).1⟩

end Stylesheet

end PagePress
