import RuleLexer.Text.Quoted

/-!
# Errors

A `Fault` says what went wrong, an `Error` where.  Each fault is of one `kind`, has a `message` and
may have a `tip`.
-/

namespace RuleLexer

/-- A place in a named text. -/
structure Position where
  /-- The offset in bytes; longer texts wrap around. -/
  offset : UInt32
  file : String
deriving DecidableEq, Repr, Inhabited

/-- What can go wrong. -/
inductive Fault where
  | missingInput
  | invalidInputType (reason : String)
  | unrecognisedLine (line : String)
  | unrecognisedToken (token : String)
  | unterminatedLiteral (literal : String)
  | unexpectedToken (token message : String)
  | invalidPattern (pattern message : String)
  | invalidSkipCount (count : String)
  | actionNotAllowed (keyword kind : String)
  | unknownHostExpression (expression : String)
  /-- A rule or a host action gave up. -/
  | thrown (message : String)
deriving DecidableEq, Repr, Inhabited

/-- The kinds of faults. -/
inductive FaultKind where
  | argument
  | type
  | syntactic
  | validation
  | runtimeThrow
deriving DecidableEq, Repr

/-- The name of a kind as reports show it. -/
def FaultKind.label : FaultKind → String
  | argument => "ArgumentError"
  | type => "TypeError"
  | syntactic => "SyntaxError"
  | validation => "ValidationError"
  | runtimeThrow => "RuntimeThrow"

namespace Fault

/-- The name of a fault. -/
def name : Fault → String
  | missingInput => "MissingInput"
  | invalidInputType _ => "InvalidInputType"
  | unrecognisedLine _ => "UnrecognisedLine"
  | unrecognisedToken _ => "UnrecognisedToken"
  | unterminatedLiteral _ => "UnterminatedLiteral"
  | unexpectedToken _ _ => "UnexpectedToken"
  | invalidPattern _ _ => "InvalidPattern"
  | invalidSkipCount _ => "InvalidSkipCount"
  | actionNotAllowed _ _ => "ActionNotAllowed"
  | unknownHostExpression _ => "UnknownHostExpression"
  | thrown _ => "Thrown"

/-- The kind of a fault. -/
def kind : Fault → FaultKind
  | missingInput => .argument
  | invalidInputType _ => .type
  | unrecognisedLine _ | unrecognisedToken _ | unterminatedLiteral _ | unexpectedToken _ _
  | invalidPattern _ _ | invalidSkipCount _ => .syntactic
  | actionNotAllowed _ _ | unknownHostExpression _ => .validation
  | thrown _ => .runtimeThrow

/-- The fault in words. -/
def message : Fault → String
  | missingInput => "no specification was passed in"
  | invalidInputType reason => "specification is not text: " ++ reason
  | unrecognisedLine line => "can't understand " ++ Text.quoted line
  | unrecognisedToken token => "unrecognised token: " ++ Text.quoted token
  | unterminatedLiteral literal => "unterminated literal: " ++ Text.quoted literal
  | unexpectedToken token message =>
    "unexpected token (" ++ message ++ "): " ++ Text.quoted token
  | invalidPattern pattern message => "invalid pattern " ++ Text.quoted pattern ++ ": " ++ message
  | invalidSkipCount count => "invalid skip count " ++ Text.quoted count
  | actionNotAllowed keyword kind =>
    Text.quoted keyword ++ " is not allowed in a " ++ Text.quoted kind ++ " action"
  | unknownHostExpression expression => "unknown host expression " ++ Text.quoted expression
  | thrown message => message

/-- What to do about the fault, for faults that have an advice. -/
def tip? : Fault → Option String
  | missingInput => some "A specification has to be passed in before it can be parsed"
  | invalidInputType reason => some ("Specification must be text: " ++ reason)
  | unrecognisedLine line => some ("Can't understand `" ++ line ++ "`")
  | unterminatedLiteral literal =>
    some ("Literal `" ++ literal ++ "` is missing its closing delimiter")
  | unexpectedToken token message => some ("Unexpected token: `" ++ token ++ "`, " ++ message)
  | invalidPattern pattern message => some ("Invalid pattern `" ++ pattern ++ "`: " ++ message)
  | invalidSkipCount count =>
    some ("`skip` expects a positive count or `token`, found `" ++ count ++ "`")
  | actionNotAllowed keyword kind =>
    some ("`" ++ keyword ++ "` can only be used in `then` actions, not in `" ++ kind ++ "`")
  | unknownHostExpression expression =>
    some ("No host callback or definition registered for `[(" ++ expression ++ ")]`")
  | unrecognisedToken _ | thrown _ => none

end Fault

/-- A fault with its place. -/
structure Error where
  fault : Fault
  position : Position
deriving DecidableEq, Repr, Inhabited

/-- The error in words, its kind first. -/
def Error.message (e : Error) : String :=
  e.fault.kind.label ++ ": " ++ e.fault.message

/-! ### Results -/

theorem exists_of_map_eq_ok {ε α β : Type} {f : α → β} {x : Except ε α} {b : β}
    (h : x.map f = .ok b) : ∃ a, x = .ok a ∧ f a = b := by
  cases x with
  | error e => simp [Except.map] at h
  | ok a => exact ⟨a, rfl, Except.ok.inj h⟩

theorem error_of_map_eq_error {ε α β : Type} {f : α → β} {x : Except ε α} {e : ε}
    (h : x.map f = .error e) : x = .error e := by
  cases x with
  | error e' => exact congrArg _ (Except.error.inj h)
  | ok a => simp [Except.map] at h

end RuleLexer
