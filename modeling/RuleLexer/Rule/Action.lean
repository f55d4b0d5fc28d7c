import RuleLexer.Clause.Reader
import RuleLexer.Rule.Step

/-!
# Reading actions

An action clause is a sequence of steps, with semicolons between them where one likes.  The steps
that decide the flow of an event are for if-rules alone, and a let-rule that throws is nothing but
its message.
-/

namespace RuleLexer

/-- The form of the rule that an action belongs to. -/
inductive RuleKind where
  | ifThen
  | letRule (kind : LetKind)
deriving DecidableEq, Repr

namespace RuleKind

/-- The words of a form. -/
def label : RuleKind → String
  | ifThen => "then"
  | letRule kind => kind.label

/-- Whether `continue` and `skip` may be used. -/
def allowsFlowControl : RuleKind → Bool
  | ifThen => true
  | letRule _ => false

end RuleKind

namespace Action

/-- The count that digits denote: a positive number of at most 64 bits. -/
def count? (digits : String) : Option Nat :=
  let cs := digits.toList
  if cs.all Char.isDigit then
    let n := Decimal.ofDigits cs
    if 1 ≤ n ∧ n < UInt64.size then some n else none
  else none

/-- The step that `skip` and the token behind it make up. -/
def skipStep (t : Clause.Token) : Except Fault Step :=
  match t.kind with
  | .tokenWord => .ok .skipToken
  | .number =>
    match count? t.value with
    | some count => .ok (.skip count)
    | none => .error (.invalidSkipCount t.value)
  | .eof => .error (.invalidSkipCount "")
  | _ => .error (.invalidSkipCount t.value)

/-- The steps of a sequence of tokens. -/
def steps (kind : RuleKind) (lookBack : Nat) (scope : Scope) :
    List Clause.Token → Except Fault (List Step)
  | [] => .ok []
  | t :: ts =>
    match t.kind with
    | .eof => .ok []
    | .semicolon => steps kind lookBack scope ts
    | .continueWord =>
      if kind.allowsFlowControl then (steps kind lookBack scope ts).map (.fold :: ·)
      else .error (.actionNotAllowed t.value kind.label)
    | .skipWord =>
      if kind.allowsFlowControl then
        match ts with
        | [] => .error (.invalidSkipCount "")
        | n :: ts =>
          match skipStep n with
          | .error fault => .error fault
          | .ok step => (steps kind lookBack scope ts).map (step :: ·)
      else .error (.actionNotAllowed t.value kind.label)
    | .throwWord =>
      match ts with
      | [] => .error (.unexpectedToken t.value "expected a string literal after `throw`")
      | m :: ts =>
        if m.kind = .string then (steps kind lookBack scope ts).map (.throw m.value :: ·)
        else .error (.unexpectedToken m.value "expected a string literal after `throw`")
    | .joinWord => (steps kind lookBack scope ts).map (.join lookBack :: ·)
    | .tag => (steps kind lookBack scope ts).map (.tag t.value :: ·)
    | .hostExpression =>
      match scope.hosts.action? t.value with
      | some h => (steps kind lookBack scope ts).map (.host h :: ·)
      | none => .error (.unknownHostExpression t.value)
    | _ => .error (.unexpectedToken t.value "not allowed in an action")

/-- The single step of a let-rule that throws. -/
def throwStep : List Clause.Token → Except Fault (List Step)
  | [] => .ok []
  | t :: ts =>
    if t.kind = .string ∧ ts.map Clause.Token.kind = [.eof] then .ok [.throw t.value]
    else .error (.unexpectedToken t.value "expected a single string literal")

/-- Reads an action clause of a rule whose test looks back at `lookBack` tokens. -/
def read (kind : RuleKind) (lookBack : Nat) (scope : Scope) (clause : String) :
    Except Fault (List Step) :=
  match Clause.read clause with
  | .error fault => .error fault
  | .ok ts =>
    if kind = .letRule .throw then throwStep ts else steps kind lookBack scope ts

end Action

end RuleLexer
