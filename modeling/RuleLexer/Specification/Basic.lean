import RuleLexer.Error
import RuleLexer.Pattern

/-!
# Specifications

A specification describes a tokenizer: rules for the scan, rules for the tokens that were scanned,
the pattern that text is broken at, and definitions.
-/

namespace RuleLexer

/-- `if <test> then <action>`. -/
structure IfRule where
  test : String
  action : String
  position : Position
deriving DecidableEq, Repr

/-- What a let-rule does with the tokens that its test holds of. -/
inductive LetKind where
  | be
  | beGroup
  | throw
  | expandGroup
deriving DecidableEq, Repr

/-- The words of a kind. -/
def LetKind.label : LetKind → String
  | be => "be"
  | beGroup => "be group"
  | throw => "throw"
  | expandGroup => "expand group"

/-- `let <test> <kind> <action>`. -/
structure LetRule where
  test : String
  kind : LetKind
  action : String
  position : Position
deriving DecidableEq, Repr

/-- `define <name> [= <value>]`. -/
structure Definition where
  name : String
  value : Option String
deriving DecidableEq, Repr

/-- A specification; its rules stand in the order in which they were written, which is also the
order in which they are tried. -/
structure Specification where
  ifRules : List IfRule := []
  letRules : List LetRule := []
  breakPattern : Pattern := Pattern.defaultBreak
  definitions : List Definition := []

namespace Specification

/-- Specifications are the same if their rules are, with their positions, and their definitions,
and the break pattern is written the same. -/
instance : BEq Specification :=
  ⟨fun a b => a.ifRules == b.ifRules && a.letRules == b.letRules
    && a.breakPattern == b.breakPattern && a.definitions == b.definitions⟩

end Specification

end RuleLexer
