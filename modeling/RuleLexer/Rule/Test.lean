import RuleLexer.Clause.Reader
import RuleLexer.Rule.Predicate

/-!
# Reading tests

A test clause is a sequence of operands with operators between them.  `&&` binds tighter than `||`,
and so do a bare word and two operands side by side, which read as `&&`.  The positional operators
bind nothing; they say what the operands beside them look at.
-/

namespace RuleLexer

/-- A compiled test clause. -/
structure Test where
  /-- The predicate; an empty clause has none and never matches. -/
  predicate : Option Predicate
  /-- How many operands look at emitted tokens. -/
  lookBack : Nat

namespace Test

open Clause (Kind)

/-- Whether there is a token beside, and it is an operand. -/
def isOperand (beside : Option Kind) : Bool :=
  beside.any Kind.isOperand

/-- The kind of the first token. -/
def firstKind (ts : List Clause.Token) : Option Kind :=
  ts.head?.map Clause.Token.kind

/-- Checks that positional operators have their operands: `<->` one beside it, the others one on
each side.  `left` is the kind of the token before. -/
def checkSides (left : Option Kind) : List Clause.Token → Except Fault Unit
  | [] => .ok ()
  | t :: ts =>
    let hasLeft := isOperand left
    let hasRight := isOperand (firstKind ts)
    if t.kind = .current ∧ hasLeft = false ∧ hasRight = false then
      .error (.unexpectedToken t.value "expected an operand next to `<->`")
    else if (t.kind = .lookAhead ∨ t.kind = .lookBehind) ∧ (hasLeft && hasRight) = false then
      .error (.unexpectedToken t.value "expected an operand on both sides")
    else checkSides (some t.kind) ts

/-- What an operand looks at, before the places ahead and behind are counted. -/
inductive Place where
  | token
  | character
  | ahead
  | behind
deriving DecidableEq, Repr

/-- The place that the neighbours of an operand give it. -/
def placeOf (left right : Option Kind) : Place :=
  if left = some .current ∨ right = some .current then .character
  else if left = some .lookAhead then .ahead
  else if right = some .lookBehind then .behind
  else .token

/-- Every token, the operands with their places. -/
def places (left : Option Kind) : List Clause.Token → List (Clause.Token × Option Place)
  | [] => []
  | t :: ts =>
    (t, if t.kind.isOperand then some (placeOf left (firstKind ts)) else none)
      :: places (some t.kind) ts

/-- How many operands look behind. -/
def countBehind (ps : List (Clause.Token × Option Place)) : Nat :=
  ps.countP (·.2 == some .behind)

/-- Counts the places: those ahead from 1 upwards, those behind down to 1, so that the operands
look at the last tokens and the next characters in the order in which they are written. -/
def targets (ahead : Nat) : List (Clause.Token × Option Place) → List (Clause.Token × Target)
  | [] => []
  | (t, some .ahead) :: ps => (t, .ahead (ahead + 1)) :: targets (ahead + 1) ps
  | (t, some .behind) :: ps => (t, .behind (countBehind ps + 1)) :: targets ahead ps
  | (t, some .character) :: ps => (t, .character) :: targets ahead ps
  | (t, some .token) :: ps => (t, .token) :: targets ahead ps
  | (t, none) :: ps => (t, .token) :: targets ahead ps

/-- An operand or an operator between operands. -/
inductive Item where
  | operand (p : Predicate)
  | and
  | or

/-- The predicate of an operand. -/
def operand [Regex.Engine] (scope : Scope) (t : Clause.Token) (target : Target) :
    Except Fault Predicate :=
  match t.kind with
  | .pattern =>
    match Pattern.read t.value with
    | .ok p => .ok (.test target (.pattern p))
    | .error fault => .error (.invalidPattern t.value fault.message)
  | .string => .ok (.test target (.text t.value))
  | .tag => .ok (.test target (.tag t.value))
  | .hostExpression =>
    match scope.hosts.test? t.value with
    | some h => .ok (.host h)
    | none =>
      if scope.isDefinition t.value then .ok (.definition t.value)
      else .error (.unknownHostExpression t.value)
  | _ => .error (.unexpectedToken t.value "expected an operand")

/-- What a token is in a test; positional operators are nothing by themselves.  A bare word is a
definition or else reads as `&&`. -/
def item [Regex.Engine] (scope : Scope) (t : Clause.Token) (target : Target) :
    Except Fault (Option Item) :=
  if t.kind.isOperand then (operand scope t target).map fun p => some (.operand p)
  else if t.kind.isWord then
    .ok (some (if scope.isDefinition t.value then .operand (.definition t.value) else .and))
  else if t.kind = .and then .ok (some .and)
  else if t.kind = .or then .ok (some .or)
  else if t.kind.isPositional then .ok none
  else .error (.unexpectedToken t.value "not allowed in a test")

/-- The items of a test, each with its token. -/
def items [Regex.Engine] (scope : Scope) :
    List (Clause.Token × Target) → Except Fault (List (Item × Clause.Token))
  | [] => .ok []
  | (t, target) :: ts =>
    match item scope t target with
    | .error fault => .error fault
    | .ok i => (items scope ts).map ((i.map (·, t)).toList ++ ·)

/-- Puts the items of a test together: `done` are the alternatives before, `current` what was read
of the present one, and `operator` the last token if it was an operator. -/
def combine (done : List Predicate) (current : Option Predicate) (operator : Option Clause.Token) :
    List (Item × Clause.Token) → Except Fault (Option Predicate)
  | [] =>
    match operator with
    | some t => .error (.unexpectedToken t.value "expected an operand after this operator")
    | none => .ok (Predicate.anyOf (done ++ current.toList))
  | (.operand p, _) :: is =>
    combine done (some (match current with | some q => .and q p | none => p)) none is
  | (.and, t) :: is =>
    if current.isNone || operator.isSome then
      .error (.unexpectedToken t.value "expected an operand before this operator")
    else combine done current (some t) is
  | (.or, t) :: is =>
    if current.isNone || operator.isSome then
      .error (.unexpectedToken t.value "expected an operand before this operator")
    else combine (done ++ current.toList) none (some t) is

/-- The test of a sequence of tokens without the end. -/
def ofTokens [Regex.Engine] (scope : Scope) (ts : List Clause.Token) : Except Fault Test :=
  match checkSides none ts with
  | .error fault => .error fault
  | .ok () =>
    let ps := places none ts
    match items scope (targets 0 ps) with
    | .error fault => .error fault
    | .ok is => (combine [] none none is).map fun p => ⟨p, countBehind ps⟩

/-- Reads a test clause. -/
def read [Regex.Engine] (scope : Scope) (clause : String) : Except Fault Test :=
  match Clause.read clause with
  | .error fault => .error fault
  | .ok ts => ofTokens scope (ts.filter (·.kind != .eof))

end Test

end RuleLexer
