import RuleLexer.Text.Blank
import RuleLexer.Text.Hexadecimal

/-!
# Tables of runs

A property that gives every character a label is kept as the runs of characters with one label.
`readRuns` reads such a table from its text, and `findRun` looks a character up.
-/

namespace RuleLexer.Unicode

/-- Reads runs such as `41Lu 5bPs`: the first code point in hexadecimal, with small letters, and a
label that begins with a capital letter.  `start` and `label` are what was read of the current
run, the label backwards. -/
def readRuns (runs : Array (Nat × List Char)) (start : Nat) (label : List Char) :
    List Char → Array (Nat × List Char)
  | [] => if label.isEmpty then runs else runs.push (start, label.reverse)
  | c :: cs =>
    if Text.isBlank c then
      readRuns (if label.isEmpty then runs else runs.push (start, label.reverse)) 0 [] cs
    else if label.isEmpty && !c.isUpper then
      readRuns runs (16 * start + (Text.hexValue? c).getD 0) [] cs
    else readRuns runs start (c :: label) cs

/-- The last index from `lo` up to `hi`, `hi` left out, whose key is at most `n`, for increasing
keys; `lo` if there is none. -/
def lastAtMost (key : Nat → Nat) (n lo hi : Nat) : Nat :=
  if lo + 1 < hi then
    if key ((lo + hi) / 2) ≤ n then lastAtMost key n ((lo + hi) / 2) hi
    else lastAtMost key n lo ((lo + hi) / 2)
  else lo
termination_by hi - lo

/-- The label of the run that a code point lies in. -/
def findRun (runs : Array (Nat × List Char)) (n : Nat) : List Char :=
  let key i := (runs[i]?.map Prod.fst).getD 0
  (runs[lastAtMost key n 0 runs.size]?.map Prod.snd).getD []

end RuleLexer.Unicode
