import RuleLexer.Unicode.Category

/-!
# The latest characters

Patterns and words go by edition 16 of the standard, and so do the tables.  How a text is shown and
how the group of an expression may be named goes by edition 17, which adds characters:
`latestCategory` knows these too.
-/

namespace RuleLexer.Unicode

/-- The runs of one general category among the characters that edition 17 adds, written like those
of `categoryText`; all others have the letters `Cn` here. -/
def additionText : String :=
"0Cn 88fLo 890Cn c5cLo c5dCn cdcLo cddCn 1acfMn 1adeCn 1ae0Mn 1aecCn 20c1Sc 20c2Cn 2b96So 2b97Cn
a7ceLu a7cfLl a7d0Cn a7d2Lu a7d3Cn a7d4Lu a7d5Cn a7f1Lm a7f2Cn fbc3So fbd3Cn fd90So fd92Cn fdc8So
fdcfCn 10940Lo 1095aCn 10ec5Lm 10ec6Lo 10ec8Cn 10ed0Po 10ed1So 10ed9Cn 10efaMn 10efcCn 11b60Mn
11b61Mc 11b62Mn 11b65Mc 11b66Mn 11b67Mc 11b68Cn 11db0Lo 11dd9Lm 11ddaLo 11ddcCn 11de0Nd 11deaCn
16ea0Lu 16eb9Cn 16ebbLl 16ed4Cn 16ff2Lm 16ff4Nl 16ff7Cn 187f8Lo 18800Cn 18d09Lo 18d1fCn 18d80Lo
18df3Cn 1ccfaSo 1ccfdCn 1cebaSo 1ced1Cn 1cee0So 1cef0Sm 1cef1Cn 1e6c0Lo 1e6dfCn 1e6e0Lo 1e6e3Mn
1e6e4Lo 1e6e6Mn 1e6e7Lo 1e6eeMn 1e6f0Lo 1e6f5Mn 1e6f6Cn 1e6feLo 1e6ffLm 1e700Cn 1f6d8So 1f6d9Cn
1f777So 1f77bCn 1f8d0Sm 1f8d9Cn 1fa54So 1fa58Cn 1fa8aSo 1fa8bCn 1fa8eSo 1fa8fCn 1fac8So 1fac9Cn
1facdSo 1faceCn 1faeaSo 1faebCn 1faefSo 1faf0Cn 1fbfaSo 1fbfbCn 2b73aLo 2b740Cn 2cea2Lo 2ceaeCn
323b0Lo 3347aCn"

/-- The runs of additions, by increasing first code point. -/
def additionRuns : Array (Nat × List Char) :=
  readRuns #[] 0 [] additionText.toList

/-- The general category of a character in edition 17. -/
def latestCategory (c : Char) : Category :=
  let k := category c
  if k = .unassigned then Category.ofLabel (findRun additionRuns c.toNat) else k

/-- Letters and what stands for letters. -/
def isLatestAlphabetic (c : Char) : Bool :=
  if c.toNat < 128 then c.isAlpha else isAlphabeticAs (latestCategory c) c

/-- Digits and other numbers. -/
def isLatestNumeric (c : Char) : Bool :=
  if c.toNat < 128 then c.isDigit else (latestCategory c).group == 'N'

/-- The letters of Hangul that are drawn as nothing. -/
def hangulFillers : List (Nat × Nat) :=
  [(0x115F, 0x1160), (0x3164, 0x3164), (0xFFA0, 0xFFA0)]

/-- Characters that can be shown as they are: no control, format, private or unassigned
character, no separator but the space and no filler. -/
def isPrintable (c : Char) : Bool :=
  if c.toNat < 128 then 32 ≤ c.toNat && c.toNat < 127
  else
    let k := latestCategory c
    k.group != 'C' && k.group != 'Z' && !inRanges hangulFillers c

/-- Marks that are drawn onto the character before them. -/
def isAttached (c : Char) : Bool :=
  if c.toNat < 128 then false
  else
    let k := latestCategory c
    k.group == 'M' && isExtenderAs k c

end RuleLexer.Unicode
