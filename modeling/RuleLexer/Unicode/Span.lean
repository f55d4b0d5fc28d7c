import RuleLexer.Text.Blank
import RuleLexer.Text.Hexadecimal

/-!
# Sets of code points in writing

A set that no rule describes is kept as a text of spans.  `readSpans` reads the text, and
`Span.contains` says which code points a span has.
-/

namespace RuleLexer.Unicode

/-- The code points from `first` through `last` at a distance of `step` each. -/
structure Span where
  first : Nat
  last : Nat
  step : Nat
deriving DecidableEq, Repr

namespace Span

/-- Whether a code point is in the span. -/
def contains (s : Span) (n : Nat) : Bool :=
  decide (s.first ≤ n) && decide (n ≤ s.last) && (n - s.first) % s.step == 0

/-- The number of ranges without gaps that make up the span. -/
def rangeCount (s : Span) : Nat :=
  if s.step = 1 then 1 else (s.last - s.first) / s.step + 1

end Span

/-- Reads spans such as `30-39 5f 100:12e`.  `start` is the first code point of the current span
and its step, once the sign behind it was read, and `n` the number that was read since. -/
def readSpans (spans : List Span) (start : Option (Nat × Nat)) (n : Nat) :
    List Char → List Span
  | [] => (closeSpan spans start n).reverse
  | c :: cs =>
    if Text.isBlank c then readSpans (closeSpan spans start n) none 0 cs
    else if c = '-' then readSpans spans (some (n, 1)) 0 cs
    else if c = ':' then readSpans spans (some (n, 2)) 0 cs
    else readSpans spans start (16 * n + (Text.hexValue? c).getD 0) cs
where
  /-- Adds the span that ends at `n`. -/
  closeSpan (spans : List Span) (start : Option (Nat × Nat)) (n : Nat) : List Span :=
    match start with
    | some (first, step) => ⟨first, n, step⟩ :: spans
    | none => ⟨n, n, 1⟩ :: spans

end RuleLexer.Unicode
