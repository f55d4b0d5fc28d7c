import RuleLexer.LetPass

/-!
# The journal of a run

What an observer of a run notices: which callbacks of the host are called, with the state that they
see, and which rules match.  A `Notice` is a line of the log.
-/

namespace RuleLexer

/-- Something that happens in a run. -/
inductive Event where
  /-- A test callback is asked about a state. -/
  | asked (expression : String) (seen : Scan)
  /-- A rule matches the token in progress, with the given text. -/
  | matched (position : Position) (text : String)
  /-- An action callback is called in a state. -/
  | called (expression : String) (seen : Scan)

/-- The callbacks that a predicate asks.  The right side of an operator is left out where the left
one decides. -/
def Predicate.events (s : Scan) : Predicate → List Event
  | .test _ _ | .definition _ => []
  | .host h => [.asked h.expression s]
  | .and l r => l.events s ++ if l.holds s then r.events s else []
  | .or l r => l.events s ++ if l.holds s then [] else r.events s

/-- The events of the search for a rule that matches. -/
def searchEvents (s : Scan) : List Rule → List Event
  | [] => []
  | r :: rs => r.predicate.events s ++ if r.isMatch s then [] else searchEvents s rs

/-- The events of steps. -/
def stepEvents (s : Scan) : List Step → List Event
  | [] => []
  | step :: steps =>
    let here := match step with
      | .host h => [.called h.expression s]
      | _ => []
    match step.error? s with
    | some _ => here
    | none => here ++ stepEvents (step.apply s) steps

/-- The events of a rule that is run. -/
def Rule.events (r : Rule) (s : Scan) : List Event :=
  .matched r.position s.token.text :: stepEvents { s with lookBack := r.lookBack, skip := 0 } r.steps

/-- The events of a chain. -/
def chainEvents (rules : List Rule) (s : Scan) : List Event :=
  searchEvents s rules ++ ((findMatch rules s).map (·.events s)).getD []

namespace Scanner

/-- The events at the break `c`. -/
def boundaryEvents (m : Scanner) (c : Char) (s : Scan) : List Event :=
  chainEvents m.ifRules s ++
    match runChain m.ifRules s with
    | (s, .ok .proceed) => chainEvents m.ifRules { s.flush with token := .ofChar c }
    | _ => []

/-- The events of a scan from a state on. -/
def scanEvents (m : Scanner) (s : Scan) : List Event :=
  if h : s.index < s.input.size then
    let c := s.input[s.index]
    let here := if m.isBreak c then m.boundaryEvents c s else []
    match _h : m.step c s with
    | .error _ => here
    | .ok t => here ++ m.scanEvents t
  else []
termination_by s.input.size - s.index
decreasing_by
  obtain ⟨hi, hx⟩ := follows_step ‹_› h
  rw [hi]
  omega

/-- The events of passing the token in progress. -/
def letStepEvents (m : Scanner) (s : Scan) : List Event :=
  searchEvents s m.letRules ++
    match findMatch m.letRules s with
    | none => []
    | some r =>
      match r.kind with
      | .ifThen => []
      | .letRule .beGroup => r.events { s with lookBack := r.lookBack }.joinBehind
      | .letRule _ => r.events s

/-- The events of passing tokens. -/
def letEvents (m : Scanner) (passed : Nat) (s : Scan) : List Token → List Event
  | [] => []
  | t :: ts =>
    let stop := passed + t.text.length
    let s := { s with index := stop - 1, token := t }
    m.letStepEvents s ++
      match m.letStep s with
      | .error _ => []
      | .ok s => m.letEvents stop s ts

/-- The events of cutting a text into tokens, in order. -/
def events (m : Scanner) (input : String) : List Event :=
  m.scanEvents (Scan.start input m.definitions) ++
    match m.scan input with
    | .error _ => []
    | .ok s => if m.letRules.isEmpty then [] else m.letEvents 0 (letStart s) s.tokens

end Scanner

/-! ### The log -/

/-- How much a line of the log matters. -/
inductive Level where
  | debug
  | trace
  | warn
deriving DecidableEq, Repr

/-- The name of a level. -/
def Level.label : Level → String
  | debug => "DEBUG"
  | trace => "TRACE"
  | warn => "WARN"

/-- A line of the log. -/
structure Notice where
  level : Level
  message : String
deriving DecidableEq, Repr

/-- A position in the log. -/
def Position.describe (p : Position) : String :=
  p.file ++ ":" ++ toString p.offset.toNat

/-- What the log says about an event: only matches are noted. -/
def Event.notice? : Event → Option Notice
  | .matched position text =>
    some ⟨.trace, "rule at " ++ position.describe ++ " matched " ++ Text.quoted text⟩
  | _ => none

namespace Specification

/-- What the log says about a specification that was read from a text with the given name. -/
def readNotice (spec : Specification) (file : String) : Notice :=
  ⟨.debug, "parsed " ++ file ++ ": " ++ toString spec.ifRules.length ++ " if rules, "
    ++ toString spec.letRules.length ++ " let rules, " ++ toString spec.definitions.length
    ++ " definitions, break on " ++ spec.breakPattern.source⟩

/-- What the log says about a rule with the given test: an empty test is noted. -/
def testNotice? [Regex.Engine] (scope : Scope) (test : String) (position : Position) :
    Option Notice :=
  match Test.read scope test with
  | .ok ⟨none, _⟩ => some ⟨.warn, "empty test at " ++ position.describe ++ " can never match"⟩
  | _ => none

/-- What the log says about rules that are compiled, up to the first that fails. -/
def ruleNotices [Regex.Engine] (scope : Scope) (compile : α → Except Fault (Option Rule))
    (test : α → String) (position : α → Position) : List α → List Notice
  | [] => []
  | r :: rs =>
    (testNotice? scope (test r) (position r)).toList ++
      match compile r with
      | .error _ => []
      | .ok _ => ruleNotices scope compile test position rs

/-- What the log says while a specification is compiled. -/
def compileNotices [Regex.Engine] (spec : Specification) (hosts : HostRegistry) : List Notice :=
  let scope := Scope.ofDefinitions spec.definitions hosts
  let ifNotices :=
    ruleNotices scope (Rule.ofIfRule scope) IfRule.test IfRule.position spec.ifRules
  match Rule.compileAll (Rule.ofIfRule scope) IfRule.position spec.ifRules with
  | .error _ => ifNotices
  | .ok _ =>
    let letNotices :=
      ruleNotices scope (Rule.ofLetRule scope) LetRule.test LetRule.position spec.letRules
    let done := match spec.scanner hosts with
      | .error _ => []
      | .ok m =>
        [⟨.debug, "assembled tokenizer: " ++ toString m.ifRules.length ++ " if rules, "
          ++ toString m.letRules.length ++ " let rules, break on " ++ spec.breakPattern.source⟩]
    ifNotices ++ letNotices ++ done

end Specification

end RuleLexer
