import PagePress.Selector

/-!
# Stylesheets

A stylesheet is composed from rules: one block for the scope with all declarations that have no
selector of their own, then a block for each rule that has one, in their order. No rule is merged
with another, moved or left out.
-/
namespace PagePress

namespace Stylesheet

/-- Declarations for the elements that a selector picks inside the scope; without a selector, for
the scope itself. -/
structure Rule where
  selector : Option String
  declaration : String
  deriving DecidableEq, Repr

/-- What stands in a stylesheet before and between the braces. -/
structure Block where
  selector : String
  body : String
  deriving DecidableEq, Repr

def Block.write (block : Block) : String :=
  block.selector ++ " \x7b\n  " ++ block.body ++ "\n\x7d\n"

/-- The declarations for the scope itself that are not blank. -/
def scopeDeclarations (rules : List Rule) (scopeDeclaration : Option String) : List String :=
  let own := (rules.filter (·.selector.isNone)).map Rule.declaration
  ((scopeDeclaration.toList ++ own).map Text.trim).filter (!·.isEmpty)

/-- The block of a rule with a selector. -/
def nestedBlock? (scope : String) (rule : Rule) : Option Block :=
  rule.selector.map fun selector =>
    ⟨String.ofList (Selector.confine scope.toList selector.toList), Text.trim rule.declaration⟩

def blocks (rules : List Rule) (scope : String) (scopeDeclaration : Option String) :
    List Block :=
  let own := scopeDeclarations rules scopeDeclaration
  let first := if own.isEmpty then [] else [⟨scope, "\n  ".intercalate own⟩]
  first ++ rules.filterMap (nestedBlock? scope)

/-- Blocks with an empty line between two of them. -/
def writeAll (blocks : List Block) : String := "\n".intercalate (blocks.map Block.write)

/-- The text of a stylesheet: its blocks with an empty line between two of them, and hand-written
text after them as it is. -/
def compose (rules : List Rule) (scope : String) (scopeDeclaration trailing : Option String) :
    String :=
  writeAll (blocks rules scope scopeDeclaration) ++ trailing.getD ""

/-! ### Writing rules by hand -/

/-- The declarations of a block, one a line. -/
def declarations : List String → String := "\n  ".intercalate

/-- A rule for the scope itself. -/
def Rule.here (lines : List String) : Rule := ⟨none, declarations lines⟩

/-- A rule for what a selector picks inside the scope. -/
def Rule.inside (selector : String) (lines : List String) : Rule :=
  ⟨some selector, declarations lines⟩

def Block.ofLines (selector : String) (lines : List String) : Block :=
  ⟨selector, declarations lines⟩

/-- Blocks that hold for some media only, indented, after an empty line. -/
def onMedia (condition : String) (blocks : List (String × List String)) : String :=
  let inner := blocks.map fun (selector, lines) =>
    "  " ++ selector ++ " \x7b\n    " ++ "\n    ".intercalate lines ++ "\n  \x7d\n"
  "\n@media (" ++ condition ++ ") \x7b\n" ++ "\n".intercalate inner ++ "\x7d\n"

end Stylesheet

end PagePress
