import RuleLexer.Error
import RuleLexer.Text.Line
import RuleLexer.Token
import RuleLexer.Value

/-!
# The state of a scan

A `Scan` is what the rules see and change while a text is being cut into tokens: the text and a place
in it, the token in progress, the tokens that were emitted, and the values of the definitions.
-/

namespace RuleLexer

/-- The state of a scan. -/
structure Scan where
  /-- The characters of the text. -/
  input : Array Char := #[]
  /-- The index of the current character. -/
  index : Nat := 0
  /-- The token in progress. -/
  token : Token := {}
  /-- The tokens that were emitted, the last one first. -/
  emitted : List Token := []
  definitions : Definitions := {}
  /-- How many characters more than the current one the running event consumes. -/
  skip : Nat := 0
  /-- How many emitted tokens the rule that matched last looks back at. -/
  lookBack : Nat := 0
deriving Inhabited

namespace Scan

/-- The state before the first character of a text. -/
def start (input : String) (definitions : Definitions) : Scan :=
  { input := input.toList.toArray, definitions := definitions }

/-- The tokens that were emitted, in order. -/
def tokens (s : Scan) : List Token :=
  s.emitted.reverse

/-- The current character; there is none at the end. -/
def current? (s : Scan) : Option Char :=
  s.input[s.index]?

/-- The character some places after the current one. -/
def ahead? (s : Scan) (offset : Nat) : Option Char :=
  s.input[s.index + offset]?

/-- The emitted token some places from the end; the last one is at distance 1. -/
def behind? (s : Scan) (distance : Nat) : Option Token :=
  if distance = 0 then none else s.emitted[distance - 1]?

/-- Where the current character begins in the text, in bytes. -/
def byteOffset (s : Scan) : Nat :=
  Text.byteLength (s.input.toList.take s.index)

/-- Emits the token in progress, unless it is empty, and begins another. -/
def flush (s : Scan) : Scan :=
  { s with
    token := {}
    emitted := if s.token.isEmpty then s.emitted else s.token :: s.emitted }

/-- Takes the last `lookBack` emitted tokens back and puts their texts, in order, before the text of
the token in progress. -/
def joinBehind (s : Scan) : Scan :=
  let joined := (s.emitted.take s.lookBack).reverse.map Token.text
  { s with
    token := { s.token with text := String.join joined ++ s.token.text }
    emitted := s.emitted.drop s.lookBack }

/-- Adds a character to the token in progress. -/
def push (s : Scan) (c : Char) : Scan :=
  { s with token := s.token.push c }

/-- Goes on to the next character. -/
def advance (s : Scan) : Scan :=
  { s with index := s.index + 1 }

/-- Passes over the characters that the running event consumes beyond the current one, as far as
there are any.  The program adds in machine words; the sum here is the exact one, which a word may not
hold (`skipOverflows`). -/
def consumeSkipped (s : Scan) : Scan :=
  { s with index := min (s.index + s.skip) s.input.size, skip := 0 }

/-- The sum of `consumeSkipped` in machine words. -/
def skipSum (s : Scan) : UInt64 :=
  UInt64.ofNat s.index + UInt64.ofNat s.skip

/-- No machine word holds the sum of `consumeSkipped`.  With overflow checks the program stops here;
without them it falls back (`toNat_skipSum_lt`). -/
def skipOverflows (s : Scan) : Bool :=
  decide (UInt64.size ≤ s.index + s.skip)

/-- The name of the text that is scanned. -/
def inputFile : String :=
  "<input>"

/-- The error of a rule that gives up at the current character. -/
def thrown (s : Scan) (message : String) : Error :=
  ⟨.thrown message, ⟨UInt32.ofNat s.byteOffset, inputFile⟩⟩

@[simp] theorem tokens_flush (s : Scan) :
    s.flush.tokens = if s.token.isEmpty then s.tokens else s.tokens ++ [s.token] := by
  simp only [tokens, flush]
  split <;> simp

/-! ### Sums in machine words -/

theorem toNat_skipSum_eq_mod (s : Scan) : s.skipSum.toNat = (s.index + s.skip) % UInt64.size := by
  rw [skipSum, ← UInt64.ofNat_add]
  exact UInt64.toNat_ofNat'

/-- **A sum that fits is the exact one**, so that words lead to the same place. -/
theorem toNat_skipSum {s : Scan} (h : s.skipOverflows = false) :
    s.skipSum.toNat = s.index + s.skip ∧
      s.consumeSkipped.index = min s.skipSum.toNat s.input.size := by
  have hlt : s.index + s.skip < UInt64.size := by simpa [skipOverflows] using h
  have hsum : s.skipSum.toNat = s.index + s.skip := by
    rw [toNat_skipSum_eq_mod, Nat.mod_eq_of_lt hlt]
  exact ⟨hsum, by rw [hsum]; rfl⟩

/-- **A sum that does not fit leads back**, if overflow is not noticed. -/
theorem toNat_skipSum_lt {s : Scan} (hindex : s.index < UInt64.size) (hskip : s.skip < UInt64.size)
    (h : s.skipOverflows = true) : s.skipSum.toNat < s.index := by
  have hle : UInt64.size ≤ s.index + s.skip := by simpa [skipOverflows] using h
  rw [toNat_skipSum_eq_mod, Nat.mod_eq_sub_mod hle, Nat.mod_eq_of_lt (by omega)]
  omega

end Scan

end RuleLexer
