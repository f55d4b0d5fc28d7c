import RuleLexer.Regex.CharClass

/-!
# Regular expressions

An expression matches stretches of a text.  Since only one question is asked of it, whether it
matches anywhere, `reach` follows all matches at once: it sends a set of positions of the text to
the set of positions where matches that start there may end.  Sets of positions are kept as the
bits of a number.
-/

namespace RuleLexer

/-- A condition on a position of the text, read without consuming anything. -/
inductive Assertion where
  | textStart
  | textEnd
  /-- At the start of the text or behind a newline. -/
  | lineStart
  /-- At the end of the text or before a newline. -/
  | lineEnd
  /-- The same where a carriage return, alone or before a newline, ends a line too. -/
  | anyLineStart
  | anyLineEnd
  /-- Between a word character and another one; `word` says what a word character is. -/
  | boundary (word : Char → Bool)
  | noBoundary (word : Char → Bool)
  | wordStart (word : Char → Bool)
  | wordEnd (word : Char → Bool)
  | notAfterWord (word : Char → Bool)
  | notBeforeWord (word : Char → Bool)

namespace Assertion

/-- Whether the assertion holds between two characters, either of which may be absent. -/
def between (before after : Option Char) : Assertion → Bool
  | textStart => before.isNone
  | textEnd => after.isNone
  | lineStart => before.isNone || before == some '\n'
  | lineEnd => after.isNone || after == some '\n'
  | anyLineStart =>
    before.isNone || before == some '\n' || (before == some '\r' && after != some '\n')
  | anyLineEnd =>
    after.isNone || after == some '\r' || (after == some '\n' && before != some '\r')
  | boundary word => before.any word != after.any word
  | noBoundary word => before.any word == after.any word
  | wordStart word => !before.any word && after.any word
  | wordEnd word => before.any word && !after.any word
  | notAfterWord word => !before.any word
  | notBeforeWord word => !after.any word

/-- Whether the assertion holds at a position of a text. -/
def holdsAt (text : Array Char) (i : Nat) (a : Assertion) : Bool :=
  a.between (if i = 0 then none else text[i - 1]?) text[i]?

end Assertion

/-- Sets of positions of a text, as the bits of a number. -/
abbrev Positions := Nat

namespace Positions

/-- The positions below `n` that satisfy `p`. -/
def filter (p : Nat → Bool) : Nat → Positions
  | 0 => 0
  | n + 1 => if p n then filter p n ||| 1 <<< n else filter p n

/-- Applies `f` to a set `n` times, but stops where that changes nothing any more. -/
def iterate (f : Positions → Positions) : Nat → Positions → Positions
  | 0, s => s
  | n + 1, s =>
    let t := f s
    if t = s then s else iterate f n t

/-- The union of what at most `n` applications of `f` make of a set. -/
def closure (f : Positions → Positions) : Nat → Positions → Positions
  | 0, s => s
  | n + 1, s =>
    let t := s ||| f s
    if t = s then s else closure f n t

end Positions

/-- A regular expression. -/
inductive Regex where
  | empty
  /-- One character of a class. -/
  | one (k : Regex.CharClass)
  | look (a : Assertion)
  | seq (l r : Regex)
  | alt (l r : Regex)
  /-- At least `min` times and at most `max` times, or without bound. -/
  | rep (r : Regex) (min : Nat) (max : Option Nat)

namespace Regex

/-- The positions that matches lead to from the positions of a set.  More rounds of a repetition
than the text has positions change nothing, so their number is cut off there. -/
def reach (text : Array Char) : Regex → Positions → Positions
  | empty, s => s
  | one k, s => (s &&& Positions.filter (fun i => text[i]?.any k.contains) text.size) <<< 1
  | look a, s => s &&& Positions.filter (a.holdsAt text) (text.size + 1)
  | seq l r, s => reach text r (reach text l s)
  | alt l r, s => reach text l s ||| reach text r s
  | rep r min max, s =>
    let rounds := text.size + 1
    let first := Positions.iterate (fun t => reach text r t) (Nat.min min rounds) s
    let more := (max.map fun m => Nat.min (m - min) rounds).getD rounds
    Positions.closure (fun t => reach text r t) more first

/-- Whether the expression matches somewhere in the text. -/
def matchesIn (r : Regex) (text : List Char) : Bool :=
  r.reach text.toArray (1 <<< (text.length + 1) - 1) != 0

/-- The modes of an expression. -/
structure Modes where
  /-- Letters match both cases. -/
  caseless : Bool := false
  /-- `^` and `$` match at every line. -/
  multiLine : Bool := false
  /-- `.` matches line ends too. -/
  dotAll : Bool := false
  /-- Blanks and comments between the parts are skipped. -/
  extended : Bool := false
  /-- Classes know all characters; only ASCII otherwise. -/
  unicode : Bool := true
  /-- A carriage return ends a line too. -/
  anyLineEnd : Bool := false
deriving DecidableEq, Repr

/-- A reader of expressions: how their written form is understood, and which texts are refused.  Whatever
takes the text of a pattern takes an engine, and says nothing of what it answers. -/
class Engine where
  /-- Reads an expression with the given modes. -/
  read? : Modes → List Char → Option Regex

end Regex

end RuleLexer
