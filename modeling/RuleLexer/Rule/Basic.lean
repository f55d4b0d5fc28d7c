import RuleLexer.Rule.Action
import RuleLexer.Rule.Test

/-!
# Rules

A `Rule` is a compiled test with the steps to take where it holds.  Rules form chains: `findMatch`
finds the first that matches, and `runChain` runs it.
-/

namespace RuleLexer

/-- A compiled rule. -/
structure Rule where
  kind : RuleKind
  predicate : Predicate
  /-- How many operands of the test look at emitted tokens. -/
  lookBack : Nat
  steps : List Step
  position : Position

namespace Rule

/-- Whether the rule matches. -/
def isMatch (r : Rule) (s : Scan) : Bool :=
  r.predicate.holds s

/-- Carries out the steps of the rule. -/
def run (r : Rule) (s : Scan) : Scan × Except Error Flow :=
  runSteps .proceed { s with lookBack := r.lookBack, skip := 0 } r.steps

@[simp] theorem input_run (r : Rule) (s : Scan) : (r.run s).1.input = s.input := by simp [run]

@[simp] theorem index_run (r : Rule) (s : Scan) : (r.run s).1.index = s.index := by simp [run]

/-- Splits the tag off that an action begins with. -/
def splitLeadingTag (action : List Char) : Option (List Char) × List Char :=
  match Text.trimStart action with
  | [] => (none, action)
  | c :: cs =>
    let name := cs.takeWhile Unicode.isWord
    if c = '#' ∧ name ≠ [] then (some name, cs.dropWhile Unicode.isWord) else (none, action)

/-- Compiles an if-rule.  A tag at the start of the action is set before anything else is done.
There is no rule if the test is empty. -/
def ofIfRule [Regex.Engine] (scope : Scope) (r : IfRule) : Except Fault (Option Rule) :=
  let (tag, action) := splitLeadingTag r.action.toList
  match Test.read scope r.test with
  | .error fault => .error fault
  | .ok test =>
    match Action.read .ifThen test.lookBack scope (String.ofList action) with
    | .error fault => .error fault
    | .ok steps =>
      let steps := (tag.map fun name => Step.tag (String.ofList name)).toList ++ steps
      .ok (test.predicate.map fun p => ⟨.ifThen, p, test.lookBack, steps, r.position⟩)

/-- Compiles a let-rule.  There is no rule if the test is empty. -/
def ofLetRule [Regex.Engine] (scope : Scope) (r : LetRule) : Except Fault (Option Rule) :=
  match Test.read scope r.test with
  | .error fault => .error fault
  | .ok test =>
    match Action.read (.letRule r.kind) test.lookBack scope r.action with
    | .error fault => .error fault
    | .ok steps =>
      .ok (test.predicate.map fun p => ⟨.letRule r.kind, p, test.lookBack, steps, r.position⟩)

/-- Compiles rules one after the other; the first that fails ends it, with the error at its
position. -/
def compileAll (compile : α → Except Fault (Option Rule)) (position : α → Position) :
    List α → Except Error (List Rule)
  | [] => .ok []
  | r :: rs =>
    match compile r with
    | .error fault => .error ⟨fault, position r⟩
    | .ok rule => (compileAll compile position rs).map (rule.toList ++ ·)

end Rule

/-- The rules of a specification, compiled. -/
structure RuleChains where
  ifRules : List Rule
  letRules : List Rule

namespace Specification

/-- Compiles the rules of a specification, the if-rules before the let-rules. -/
def compile [Regex.Engine] (spec : Specification) (scope : Scope) : Except Error RuleChains :=
  match Rule.compileAll (Rule.ofIfRule scope) IfRule.position spec.ifRules with
  | .error e => .error e
  | .ok ifRules =>
    (Rule.compileAll (Rule.ofLetRule scope) LetRule.position spec.letRules).map fun letRules =>
      ⟨ifRules, letRules⟩

end Specification

/-- The first rule of a chain that matches. -/
def findMatch (rules : List Rule) (s : Scan) : Option Rule :=
  rules.find? (·.isMatch s)

/-- Runs the first rule of a chain that matches; without one nothing happens. -/
def runChain (rules : List Rule) (s : Scan) : Scan × Except Error Flow :=
  match findMatch rules s with
  | some r => r.run s
  | none => (s, .ok .proceed)

@[simp] theorem input_runChain (rules : List Rule) (s : Scan) :
    (runChain rules s).1.input = s.input := by
  rw [runChain]; split <;> simp

@[simp] theorem index_runChain (rules : List Rule) (s : Scan) :
    (runChain rules s).1.index = s.index := by
  rw [runChain]; split <;> simp

end RuleLexer
