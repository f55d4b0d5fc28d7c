import RuleLexer.Scan
import RuleLexer.Specification.Basic

/-!
# Host callbacks

A clause may name callbacks of the program that uses the tokenizer.  A test callback looks at the
scan; an action callback may change the token in progress and the definitions, and may give up.

Callbacks are functions of the scan that they see.  A callback that also depends on what it keeps
between its calls, or on anything else outside the scan, is not one of these: such a state is not passed
on from call to call.
-/

namespace RuleLexer

/-- A test callback with the expression that names it.  Its answer depends on the scan alone. -/
structure HostTest where
  expression : String
  holds : Scan → Bool

/-- What an action callback makes of a scan. -/
structure HostEdit where
  /-- The token in progress afterwards. -/
  token : Token
  /-- The definitions that are given a value, in this order. -/
  assigned : List (String × Value) := []
  /-- Why the callback gave up, if it did.  What it changed before stays changed. -/
  failure : Option String := none

/-- An action callback with the expression that names it.  What it does depends on the scan alone. -/
structure HostAction where
  expression : String
  edit : Scan → HostEdit

namespace HostAction

/-- The scan after an action callback. -/
def apply (h : HostAction) (s : Scan) : Scan :=
  { s with
    token := (h.edit s).token
    definitions := s.definitions.insertAll (h.edit s).assigned }

end HostAction

/-- A test callback as text. -/
def HostTest.describe (h : HostTest) : String :=
  "HostTest([(" ++ h.expression ++ ")])"

/-- An action callback as text. -/
def HostAction.describe (h : HostAction) : String :=
  "HostAction([(" ++ h.expression ++ ")])"

/-- The callbacks that clauses may name. -/
structure HostRegistry where
  tests : List (String × (Scan → Bool)) := []
  actions : List (String × (Scan → HostEdit)) := []

namespace HostRegistry

/-- Registers a test callback, in place of one with the same name.  Blanks around the name do not
count. -/
def withTest (r : HostRegistry) (expression : String) (holds : Scan → Bool) : HostRegistry :=
  let name := Text.trimmed expression
  { r with tests := (name, holds) :: r.tests.filter (·.1 != name) }

/-- Registers an action callback, in place of one with the same name.  Blanks around the name do
not count. -/
def withAction (r : HostRegistry) (expression : String) (edit : Scan → HostEdit) : HostRegistry :=
  let name := Text.trimmed expression
  { r with actions := (name, edit) :: r.actions.filter (·.1 != name) }

/-- The test callback with a name. -/
def test? (r : HostRegistry) (expression : String) : Option HostTest :=
  (r.tests.lookup expression).map fun holds => ⟨expression, holds⟩

/-- The action callback with a name. -/
def action? (r : HostRegistry) (expression : String) : Option HostAction :=
  (r.actions.lookup expression).map fun edit => ⟨expression, edit⟩

/-- The registry as text: the names of its callbacks. -/
def describe (r : HostRegistry) : String :=
  let names (ns : List String) := "[" ++ ", ".intercalate (ns.map Text.quoted) ++ "]"
  "HostRegistry \x7b tests: " ++ names (r.tests.map (·.1)) ++ ", actions: "
    ++ names (r.actions.map (·.1)) ++ " \x7d"

end HostRegistry

/-- The names that a clause may refer to. -/
structure Scope where
  definitions : List String := []
  hosts : HostRegistry := {}

namespace Scope

/-- The scope of the rules of a specification. -/
def ofDefinitions (definitions : List Definition) (hosts : HostRegistry) : Scope :=
  ⟨definitions.map Definition.name, hosts⟩

/-- Whether a definition has the name. -/
def isDefinition (scope : Scope) (name : String) : Bool :=
  scope.definitions.contains name

end Scope

end RuleLexer
