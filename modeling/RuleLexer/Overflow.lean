import RuleLexer.LetPass

/-!
# Calls that overflow

The program counts characters in machine words, and a rule may skip as many as a word can count.  Where
the place behind them is beyond what a word can count (`Scan.skipOverflows`), the call has no result.  So
there are three ways for a call to end: it returns tokens, it fails with an error, or it overflows.
`Scanner.call` tells them apart.  What it returns or fails with is what `Scanner.tokenize` says.
-/

namespace RuleLexer

namespace Scanner

/-- The state in which characters are left out while `c` is taken, if they are. -/
def leavesOut? (m : Scanner) (c : Char) (s : Scan) : Option Scan :=
  if m.isBreak c then
    match runChain m.ifRules s with
    | (t, .ok .skip) => some t
    | (t, .ok .proceed) =>
      match runChain m.ifRules { t.flush with token := .ofChar c } with
      | (u, .ok .skip) => some { u with token := {} }
      | _ => none
    | _ => none
  else none

/-- A sum overflows while `c` is taken. -/
def overflowsAt (m : Scanner) (c : Char) (s : Scan) : Bool :=
  (m.leavesOut? c s).any Scan.skipOverflows

/-- Scans from a state to the end of the text, unless a sum overflows. -/
def scanFrom? (m : Scanner) (s : Scan) : Option (Except Error Scan) :=
  if h : s.index < s.input.size then
    if m.overflowsAt s.input[s.index] s then none
    else
      match _h : m.step s.input[s.index] s with
      | .error e => some (.error e)
      | .ok t => m.scanFrom? t
  else some (.ok s)
termination_by s.input.size - s.index
decreasing_by
  obtain ⟨hi, hx⟩ := follows_step ‹_› h
  rw [hi]
  omega

/-- What a call returns or fails with, unless a sum overflows. -/
def call (m : Scanner) (input : String) : Option (Except Error (List Token)) :=
  (m.scanFrom? (Scan.start input m.definitions)).map fun r => (r.map Scan.flush).bind m.letPass

end Scanner

end RuleLexer
