import RuleLexer.Regex.Property
import RuleLexer.Unicode.Folding

/-!
# Classes of characters in expressions

A `CharClass` is a set of characters as an expression describes it, and `contains` says which
characters are in it.
-/

namespace RuleLexer.Regex

/-- A set of characters. -/
inductive CharClass where
  | empty
  | range (first last : Char)
  | property (p : Property)
  | union (a b : CharClass)
  | inter (a b : CharClass)
  | diff (a b : CharClass)
  | symmDiff (a b : CharClass)
  | complement (a : CharClass)
  /-- The characters that differ from a member in case only. -/
  | caseless (a : CharClass)
  /-- The same for the letters of ASCII alone. -/
  | asciiCaseless (a : CharClass)

namespace CharClass

/-- Membership. -/
def contains : CharClass → Char → Bool
  | empty, _ => false
  | range first last, c => first ≤ c && c ≤ last
  | property p, c => p.holds c
  | union a b, c => a.contains c || b.contains c
  | inter a b, c => a.contains c && b.contains c
  | diff a b, c => a.contains c && !b.contains c
  | symmDiff a b, c => a.contains c != b.contains c
  | complement a, c => !a.contains c
  | caseless a, c => (Unicode.caseClass c).any fun d => a.contains d
  | asciiCaseless a, c => a.contains c || a.contains c.toLower || a.contains c.toUpper

/-- The class of one character. -/
def char (c : Char) : CharClass :=
  range c c

/-- The union of some ranges. -/
def ofRanges (ranges : List (Char × Char)) : CharClass :=
  ranges.foldr (fun (first, last) k => union (range first last) k) empty

/-- Every character but one. -/
def allBut (c : Char) : CharClass :=
  complement (char c)

/-- Every character. -/
def all : CharClass :=
  complement empty

/-- A bound on the number of ranges of the class. -/
def rangeCount : CharClass → Nat
  | empty => 0
  | range _ _ => 1
  | property p => p.ranges
  | union a b | inter a b | diff a b | symmDiff a b => a.rangeCount + b.rangeCount
  | complement a => a.rangeCount + 1
  | caseless a | asciiCaseless a => 2 * a.rangeCount

/-- Whether the description alone shows that there are only ASCII characters in the class. -/
def isAscii : CharClass → Bool
  | empty => true
  | range _ last => last.toNat < 128
  | property _ | complement _ => false
  | union a b | symmDiff a b => a.isAscii && b.isAscii
  | inter a b => a.isAscii || b.isAscii
  | diff a _ => a.isAscii
  | caseless a | asciiCaseless a => a.isAscii

/-- About how many bytes of memory a matcher needs for the class. -/
def weight (k : CharClass) : Nat :=
  if k.isAscii then 32 + 8 * (k.rangeCount - 1) else 450 + 60 * k.rangeCount

@[simp] theorem contains_char (c d : Char) : (char c).contains d = decide (c = d) := by
  simp only [char, contains]
  by_cases h : c = d
  · subst h; simp
  · have : ¬ (c ≤ d ∧ d ≤ c) := fun ⟨h1, h2⟩ => h (Char.le_antisymm h1 h2)
    simpa [h] using this

@[simp] theorem contains_all (c : Char) : all.contains c = true := rfl

end CharClass

end RuleLexer.Regex
