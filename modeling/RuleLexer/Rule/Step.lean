import RuleLexer.Rule.Host

/-!
# Steps

An action of a rule is compiled to steps, which `runSteps` carries out one after the other.  What a
step does to the scan, whether it gives up, and what it says about the flow of the event are three
functions: `apply`, `error?` and `flow?`.
-/

namespace RuleLexer

/-- A step of an action. -/
inductive Step where
  /-- Put the current character into the token in progress. -/
  | fold
  /-- Consume this many characters, the current one included. -/
  | skip (count : Nat)
  /-- Drop the token in progress. -/
  | skipToken
  | throw (message : String)
  /-- Take this many emitted tokens back onto the front of the token in progress. -/
  | join (count : Nat)
  | tag (name : String)
  | host (h : HostAction)

/-- How an event goes on after a rule. -/
inductive Flow where
  | proceed
  | fold
  | skip
deriving DecidableEq, Repr, Inhabited

namespace Step

/-- The scan after a step. -/
def apply (s : Scan) : Step → Scan
  | fold | throw _ => s
  | skip count => { s with skip := count - 1 }
  | skipToken => { s with token := {} }
  | join count => { s with lookBack := count }.joinBehind
  | tag name => { s with token := s.token.addTag name }
  | host h => h.apply s

/-- The error that a step ends the action with. -/
def error? (s : Scan) : Step → Option Error
  | throw message => some (s.thrown message)
  | host h => (h.edit s).failure.map s.thrown
  | _ => none

/-- The flow that a step asks for. -/
def flow? : Step → Option Flow
  | fold => some .fold
  | skip _ => some .skip
  | _ => none

@[simp] theorem input_apply (s : Scan) (step : Step) : (step.apply s).input = s.input := by
  cases step <;> rfl

@[simp] theorem index_apply (s : Scan) (step : Step) : (step.apply s).index = s.index := by
  cases step <;> rfl

end Step

/-- Carries steps out; the last one that asks for a flow decides it, and `flow` is the flow if none
does.  What was done before an error stays done. -/
def runSteps (flow : Flow) (s : Scan) : List Step → Scan × Except Error Flow
  | [] => (s, .ok flow)
  | step :: steps =>
    match step.error? s with
    | some e => (step.apply s, .error e)
    | none => runSteps (step.flow?.getD flow) (step.apply s) steps

@[simp] theorem input_runSteps (flow : Flow) (s : Scan) (steps : List Step) :
    (runSteps flow s steps).1.input = s.input := by
  induction steps generalizing flow s with
  | nil => rfl
  | cons step steps ih => rw [runSteps]; split <;> simp [ih]

@[simp] theorem index_runSteps (flow : Flow) (s : Scan) (steps : List Step) :
    (runSteps flow s steps).1.index = s.index := by
  induction steps generalizing flow s with
  | nil => rfl
  | cons step steps ih => rw [runSteps]; split <;> simp [ih]

end RuleLexer
