import RuleLexer.Unicode.Category
import RuleLexer.Unicode.PropertyTable
import RuleLexer.Unicode.Span

/-!
# Named sets of characters

A `Property` is a set of characters that an expression can ask for by name.  Some are made of the
general categories and of each other, by `anyOf`, `both` and `without`; the others are `listed`.
-/

namespace RuleLexer.Regex

open RuleLexer.Unicode

/-- A named set of characters. -/
structure Property where
  holds : Char → Bool
  /-- About how many ranges of code points the set has. -/
  ranges : Nat

namespace Property

/-- Every character. -/
def any : Property :=
  ⟨fun _ => true, 1⟩

/-- The characters of some ranges. -/
def ofRanges (ranges : List (Nat × Nat)) : Property :=
  ⟨inRanges ranges, ranges.length⟩

/-- The characters of some spans. -/
def ofSpans (spans : List Span) : Property :=
  ⟨fun c => spans.any (·.contains c.toNat), (spans.map Span.rangeCount).foldr (· + ·) 0⟩

/-- The characters that the table lists under a name. -/
def listed (name : String) : Property :=
  ofSpans (((propertyTexts.lookup name).map fun text =>
    readSpans [] none 0 text.toList).getD [])

/-- The letters of the general categories and of their groups, each with the number of ranges that
its characters make up. -/
def categoryRanges : List (String × Nat) :=
  [("C", 736), ("Cc", 2), ("Cf", 21), ("Cn", 731), ("Co", 3), ("L", 677), ("Ll", 662), ("Lm", 75),
   ("Lo", 528), ("Lt", 10), ("Lu", 651), ("M", 321), ("Mc", 190), ("Me", 5), ("Mn", 357),
   ("N", 144), ("Nd", 71), ("Nl", 12), ("No", 72), ("P", 198), ("Pc", 6), ("Pd", 20), ("Pe", 76),
   ("Pf", 10), ("Pi", 11), ("Po", 193), ("Ps", 79), ("S", 236), ("Sc", 21), ("Sk", 31), ("Sm", 65),
   ("So", 187), ("Z", 8), ("Zl", 1), ("Zp", 1), ("Zs", 7)]

/-- The set of the characters of a group or a category, given by its letters. -/
def ofCategory (letters : String) : Property :=
  let ranges := (categoryRanges.lookup letters).getD 0
  match letters.toList with
  | [g] => ⟨fun c => (category c).group == g, ranges⟩
  | [g, k] => ⟨fun c => category c == ⟨g, k⟩, ranges⟩
  | _ => ⟨fun _ => false, 0⟩

/-- The characters of one of the sets. -/
def anyOf (ps : List Property) : Property :=
  ⟨fun c => ps.any (·.holds c), (ps.map ranges).foldr (· + ·) 0⟩

/-- The characters of both sets. -/
def both (p q : Property) : Property :=
  ⟨fun c => p.holds c && q.holds c, p.ranges + q.ranges⟩

/-- The characters of the first set that are not in the second. -/
def without (p q : Property) : Property :=
  ⟨fun c => p.holds c && !q.holds c, p.ranges + q.ranges⟩

/-- The decimal digits. -/
def digit : Property := ⟨isDigit, 71⟩

/-- The blanks. -/
def blank : Property := ⟨Text.isBlank, 10⟩

/-- The word characters. -/
def word : Property := ⟨isWord, 796⟩

@[simp] theorem anyOf_holds (ps : List Property) (c : Char) :
    (anyOf ps).holds c = ps.any (·.holds c) := rfl

@[simp] theorem both_holds (p q : Property) (c : Char) :
    (both p q).holds c = (p.holds c && q.holds c) := rfl

@[simp] theorem without_holds (p q : Property) (c : Char) :
    (without p q).holds c = (p.holds c && !q.holds c) := rfl

end Property

end RuleLexer.Regex
