import RuleLexer.Unicode.AgeTable
import RuleLexer.Unicode.Category

/-!
# The age of characters

`age?` looks up the edition of the Unicode standard that added a character.
-/

namespace RuleLexer.Unicode

/-- The runs of one age, by increasing first code point. -/
def ageRuns : Array (Nat × List Char) :=
  readRuns #[] 0 [] ageText.toList

/-- The number of an edition, the parts before and behind the point, from the way it is written in
the table. -/
def edition : List Char → Nat × Nat
  | [] => (0, 0)
  | [c] => (c.toNat - 64, 0)
  | c :: d :: _ => (c.toNat - 64, d.toNat - '0'.toNat)

/-- The code points that are set aside for ever, the last two of every plane and a block. -/
def isNoncharacter (c : Char) : Bool :=
  decide (65534 ≤ c.toNat % 65536) || inRanges [(0xFDD0, 0xFDEF)] c

/-- The edition that assigned a character or set it aside. -/
def age? (c : Char) : Option (Nat × Nat) :=
  if category c = .unassigned && !isNoncharacter c then none
  else some (edition (findRun ageRuns c.toNat))

/-- The editions of the standard. -/
def editions : List (Nat × Nat) :=
  [(1, 1), (2, 0), (2, 1), (3, 0), (3, 1), (3, 2), (4, 0), (4, 1), (5, 0), (5, 1), (5, 2), (6, 0),
   (6, 1), (6, 2), (6, 3), (7, 0), (8, 0), (9, 0), (10, 0), (11, 0), (12, 0), (12, 1), (13, 0),
   (14, 0), (15, 0), (15, 1), (16, 0)]

/-- Whether one edition came out no later than another. -/
def isNoLater (a b : Nat × Nat) : Bool :=
  decide (a.1 < b.1) || (a.1 == b.1 && decide (a.2 ≤ b.2))

end RuleLexer.Unicode
