import RuleLexer.Rule.Host

/-!
# Predicates

A test of a rule is compiled to a `Predicate`, which holds of a scan or does not.
-/

namespace RuleLexer

/-- What an operand of a test looks at. -/
inductive Target where
  /-- The token in progress. -/
  | token
  /-- The current character. -/
  | character
  /-- The character this many places after the current one. -/
  | ahead (offset : Nat)
  /-- The emitted token this many places from the end. -/
  | behind (distance : Nat)
deriving DecidableEq, Repr, Inhabited

/-- What an operand asks of its target. -/
inductive Matcher where
  | pattern (p : Pattern)
  | text (s : String)
  | tag (name : String)

namespace Matcher

/-- Whether a token answers. -/
def matchesToken : Matcher → Token → Bool
  | pattern p, t => p.isMatch t.text
  | text s, t => s == t.text
  | tag name, t => t.hasTag name

/-- Whether a character answers.  Past the end of the text it reads as the empty text, and it never
has a tag. -/
def matchesChar (m : Matcher) (c : Option Char) : Bool :=
  let text := (c.map String.singleton).getD ""
  match m with
  | pattern p => p.isMatch text
  | .text s => s == text
  | tag _ => false

/-- Whether the target of an operand answers.  A token that was not emitted never does. -/
def matchesTarget (m : Matcher) (s : Scan) : Target → Bool
  | .token => m.matchesToken s.token
  | .character => m.matchesChar s.current?
  | .ahead offset => m.matchesChar (s.ahead? offset)
  | .behind distance => (s.behind? distance).any m.matchesToken

end Matcher

/-- A compiled test. -/
inductive Predicate where
  | test (target : Target) (matcher : Matcher)
  /-- A definition that counts as true. -/
  | definition (name : String)
  | host (h : HostTest)
  | and (l r : Predicate)
  | or (l r : Predicate)

namespace Predicate

/-- Whether the predicate holds of a scan. -/
def holds : Predicate → Scan → Bool
  | test target matcher, s => matcher.matchesTarget s target
  | definition name, s => (s.definitions.get? name).any Value.isTruthy
  | host h, s => h.holds s
  | and l r, s => l.holds s && r.holds s
  | or l r, s => l.holds s || r.holds s

/-- One of several predicates. -/
def anyOf : List Predicate → Option Predicate
  | [] => none
  | p :: ps => some (ps.foldl or p)

theorem holds_foldl_or (p : Predicate) (ps : List Predicate) (s : Scan) :
    (ps.foldl or p).holds s = (p.holds s || ps.any (·.holds s)) := by
  induction ps generalizing p with
  | nil => simp
  | cons q qs ih => simp [ih, holds, Bool.or_assoc]

/-- `anyOf` holds where one of the predicates does. -/
theorem holds_anyOf {ps : List Predicate} {p : Predicate} (h : anyOf ps = some p) (s : Scan) :
    p.holds s = ps.any (·.holds s) := by
  cases ps with
  | nil => simp [anyOf] at h
  | cons q qs =>
    simp only [anyOf, Option.some.injEq] at h
    simp [← h, holds_foldl_or]

end Predicate

end RuleLexer
