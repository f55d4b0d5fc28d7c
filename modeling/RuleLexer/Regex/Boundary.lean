import RuleLexer.Regex.Trait
import RuleLexer.Unicode.Script

/-!
# The roles of characters at boundaries

Texts are cut into what a reader takes for one character, into words and into sentences by the
roles that characters play there.  `graphemeRole?`, `wordRole?` and `sentenceRole?` look up the
characters of a role by its name.
-/

namespace RuleLexer.Regex.Property

open RuleLexer.Unicode

/-- One character. -/
def one (n : Nat) : Property :=
  ofRanges [(n, n)]

/-- The joiner between the parts of an emoji. -/
def joiner : Property :=
  one 0x200D

/-- The marks that are written around the number that follows. -/
def prepended : Property :=
  listed "prependedconcatenationmark"

/-- The two halves of which flags are made. -/
def flagHalves : Property :=
  listed "regionalindicator"

/-- The line and paragraph separators. -/
def separators : Property :=
  ofRanges [(0x85, 0x85), (0x2028, 0x2029)]

/-- The syllables of Hangul that are written with one sign.  A syllable without a final consonant
comes every 28 places. -/
def hangulSyllable (isOpen : Bool) : Property :=
  ⟨fun c => decide (0xAC00 ≤ c.toNat) && decide (c.toNat ≤ 0xD7A3)
    && ((c.toNat - 0xAC00) % 28 == 0) == isOpen, 399⟩

/-- The marks with a place of their own that nevertheless do not go with the character before
them. -/
def looseMarks : Property :=
  ofRanges [(0x102B, 0x102C), (0x1038, 0x1038), (0x1062, 0x1064), (0x1067, 0x106D),
    (0x1083, 0x1083), (0x1087, 0x108C), (0x108F, 0x108F), (0x109A, 0x109C), (0x1A61, 0x1A61),
    (0x1A63, 0x1A64), (0xAA7B, 0xAA7B), (0xAA7D, 0xAA7D), (0x11720, 0x11721)]

/-- The roles in what a reader takes for one character. -/
def graphemeRoles : List (List String × Property) :=
  let extend := anyOf [graphemeExtend, listed "emojimodifier"]
  [(["cn", "control"],
    without
      (anyOf [ofCategory "Zl", ofCategory "Zp", ofCategory "Cc", ofCategory "Cf",
        both (ofCategory "Cn") (listed "defaultignorablecodepoint")])
      (anyOf [one 0xA, one 0xD, joiner, prepended, graphemeExtend])),
   (["cr"], one 0xD), (["lf"], one 0xA), (["ex", "extend"], extend),
   (["l"], ofRanges [(0x1100, 0x115F), (0xA960, 0xA97C)]),
   (["v"], ofRanges [(0x1160, 0x11A7), (0xD7B0, 0xD7C6), (0x16D63, 0x16D63), (0x16D67, 0x16D6A)]),
   (["t"], ofRanges [(0x11A8, 0x11FF), (0xD7CB, 0xD7FB)]),
   (["lv"], hangulSyllable true), (["lvt"], hangulSyllable false),
   (["pp", "prepend"],
    anyOf [prepended, ofRanges [(0xD4E, 0xD4E), (0x111C2, 0x111C3), (0x113D1, 0x113D1),
      (0x1193F, 0x1193F), (0x11941, 0x11941), (0x11A3A, 0x11A3A), (0x11A84, 0x11A89),
      (0x11D46, 0x11D46), (0x11F02, 0x11F02)]]),
   (["ri", "regionalindicator"], flagHalves),
   (["sm", "spacingmark"],
    without (anyOf [ofCategory "Mc", one 0xE33, one 0xEB3]) (anyOf [extend, looseMarks])),
   (["zwj"], joiner)]

/-- The marks that go with the character before them, in words and sentences. -/
def attachedMarks : Property :=
  anyOf [graphemeExtend, ofCategory "Mc"]

/-- The format characters, in words and sentences. -/
def formats : Property :=
  without (ofCategory "Cf") (anyOf [graphemeExtend, joiner, prepended])

/-- The digits and the signs that numbers hold, in words and sentences. -/
def numerals : Property :=
  anyOf [ofCategory "Nd", one 0x66B, one 0x19DA, without prepended (one 0x70F)]

/-- The syllables of Katakana and the signs that go with them. -/
def katakana : Property :=
  anyOf [⟨fun c => script c == ['K', 'a', 'n', 'a'], 14⟩,
    ofRanges [(0x3031, 0x3035), (0x309B, 0x309C), (0x30A0, 0x30A0), (0x30FC, 0x30FC),
      (0xFF70, 0xFF70)]]

/-- The letters of Hebrew. -/
def hebrewLetters : Property :=
  both ⟨fun c => script c == ['H', 'e', 'b', 'r'], 9⟩ (ofCategory "Lo")

/-- The letters of the scripts that are written without blanks between words. -/
def unspacedLetters : Property :=
  ofRanges [(0xE01, 0xE30), (0xE32, 0xE33), (0xE40, 0xE46), (0xE81, 0xE82), (0xE84, 0xE84),
    (0xE86, 0xE8A), (0xE8C, 0xEA3), (0xEA5, 0xEA5), (0xEA7, 0xEB0), (0xEB2, 0xEB3),
    (0xEBD, 0xEBD), (0xEC0, 0xEC4), (0xEC6, 0xEC6), (0xEDC, 0xEDF), (0x1000, 0x102A),
    (0x103F, 0x103F), (0x1050, 0x1055), (0x105A, 0x105D), (0x1061, 0x1061), (0x1065, 0x1066),
    (0x106E, 0x1070), (0x1075, 0x1081), (0x108E, 0x108E), (0x1780, 0x17B3), (0x17D7, 0x17D7),
    (0x17DC, 0x17DC), (0x1950, 0x196D), (0x1970, 0x1974), (0x1980, 0x19AB), (0x19B0, 0x19C9),
    (0x1A20, 0x1A54), (0x1AA7, 0x1AA7), (0xA9E0, 0xA9E4), (0xA9E6, 0xA9EF), (0xA9FA, 0xA9FE),
    (0xAA60, 0xAA76), (0xAA7A, 0xAA7A), (0xAA7E, 0xAAAF), (0xAAB1, 0xAAB1), (0xAAB5, 0xAAB6),
    (0xAAB9, 0xAABD), (0xAAC0, 0xAAC0), (0xAAC2, 0xAAC2), (0xAADB, 0xAADD), (0x11700, 0x1171A),
    (0x11740, 0x11746)]

/-- The signs that words hold like letters. -/
def letterSigns : Property :=
  ofRanges [(0x2C2, 0x2C5), (0x2D2, 0x2D7), (0x2DE, 0x2DF), (0x2E5, 0x2EB), (0x2ED, 0x2ED),
    (0x2EF, 0x2FF), (0x55A, 0x55C), (0x55E, 0x55E), (0x58A, 0x58A), (0x5F3, 0x5F3),
    (0x70F, 0x70F), (0xA708, 0xA716), (0xA720, 0xA721), (0xA789, 0xA78A), (0xAB5B, 0xAB5B)]

/-- The letters of words that stand between blanks. -/
def wordLetters : Property :=
  anyOf [letterSigns,
    without alphabetic
      (anyOf [listed "ideographic", katakana, hebrewLetters, attachedMarks, unspacedLetters,
        ⟨fun c => script c == ['H', 'i', 'r', 'a'], 6⟩])]

/-- The roles in words. -/
def wordRoles : List (List String × Property) :=
  [(["le", "aletter"], wordLetters), (["cr"], one 0xD), (["lf"], one 0xA),
   (["dq", "doublequote"], one 0x22), (["sq", "singlequote"], one 0x27),
   (["extend"], anyOf [attachedMarks, listed "emojimodifier"]),
   (["ex", "extendnumlet"],
    ofRanges [(0x5F, 0x5F), (0x202F, 0x202F), (0x203F, 0x2040), (0x2054, 0x2054),
      (0xFE33, 0xFE34), (0xFE4D, 0xFE4F), (0xFF3F, 0xFF3F)]),
   (["fo", "format"], without formats (one 0x200B)), (["hl", "hebrewletter"], hebrewLetters),
   (["ka", "katakana"], katakana),
   (["ml", "midletter"],
    ofRanges [(0x3A, 0x3A), (0xB7, 0xB7), (0x387, 0x387), (0x55F, 0x55F), (0x5F4, 0x5F4),
      (0x2027, 0x2027), (0xFE13, 0xFE13), (0xFE55, 0xFE55), (0xFF1A, 0xFF1A)]),
   (["mn", "midnum"],
    ofRanges [(0x2C, 0x2C), (0x3B, 0x3B), (0x37E, 0x37E), (0x589, 0x589), (0x60C, 0x60D),
      (0x66C, 0x66C), (0x7F8, 0x7F8), (0x2044, 0x2044), (0xFE50, 0xFE50), (0xFE54, 0xFE54),
      (0xFF0C, 0xFF0C), (0xFF1B, 0xFF1B)]),
   (["mb", "midnumlet"],
    ofRanges [(0x2E, 0x2E), (0x2018, 0x2019), (0x2024, 0x2024), (0xFE52, 0xFE52),
      (0xFF07, 0xFF07), (0xFF0E, 0xFF0E)]),
   (["nl", "newline"], anyOf [ofRanges [(0xB, 0xC)], separators]), (["nu", "numeric"], numerals),
   (["ri", "regionalindicator"], flagHalves),
   (["wsegspace"],
    ofRanges [(0x20, 0x20), (0x1680, 0x1680), (0x2000, 0x2006), (0x2008, 0x200A),
      (0x205F, 0x205F), (0x3000, 0x3000)]),
   (["zwj"], joiner)]

/-- The full stop and its forms, which end a sentence only sometimes. -/
def fullStops : Property :=
  ofRanges [(0x2E, 0x2E), (0x2024, 0x2024), (0xFE52, 0xFE52), (0xFF0E, 0xFF0E)]

/-- The small letters of sentences. -/
def sentenceLower : Property :=
  without lowercase (anyOf [attachedMarks, georgianLetters])

/-- The capital letters of sentences. -/
def sentenceUpper : Property :=
  without (anyOf [uppercase, ofCategory "Lt"]) (ofRanges [(0x1C90, 0x1CBA), (0x1CBD, 0x1CBF)])

/-- The roles in sentences. -/
def sentenceRoles : List (List String × Property) :=
  [(["at", "aterm"], fullStops), (["cr"], one 0xD), (["lf"], one 0xA),
   (["cl", "close"],
    anyOf [ofCategory "Ps", ofCategory "Pe", ofCategory "Pi", ofCategory "Pf",
      ofRanges [(0x22, 0x22), (0x27, 0x27), (0x275B, 0x2760), (0x2E00, 0x2E01), (0x2E06, 0x2E08),
        (0x2E0B, 0x2E0B), (0x1F676, 0x1F678)]]),
   (["ex", "extend"], anyOf [attachedMarks, joiner]),
   (["fo", "format"], anyOf [formats, one 0x70F]),
   (["lo", "lower"], sentenceLower), (["up", "upper"], sentenceUpper),
   (["le", "oletter"],
    anyOf [one 0x5F3,
      without alphabetic (anyOf [sentenceLower, sentenceUpper, attachedMarks])]),
   (["nu", "numeric"], anyOf [numerals, one 0x66C]),
   (["sc", "scontinue"],
    ofRanges [(0x2C, 0x2D), (0x3A, 0x3B), (0x37E, 0x37E), (0x55D, 0x55D), (0x60C, 0x60D),
      (0x7F8, 0x7F8), (0x1802, 0x1802), (0x1808, 0x1808), (0x2013, 0x2014), (0x3001, 0x3001),
      (0xFE10, 0xFE11), (0xFE13, 0xFE14), (0xFE31, 0xFE32), (0xFE50, 0xFE51), (0xFE54, 0xFE55),
      (0xFE58, 0xFE58), (0xFE63, 0xFE63), (0xFF0C, 0xFF0D), (0xFF1A, 0xFF1B),
      (0xFF64, 0xFF64)]),
   (["se", "sep"], separators),
   (["sp"], without blank (anyOf [one 0xA, one 0xD, separators])),
   (["st", "sterm"], without (listed "sentenceterminal") fullStops)]

/-- The characters of a role, by one of its names. -/
def roleNamed? (roles : List (List String × Property)) (name : String) : Option Property :=
  (roles.find? (·.1.contains name)).map Prod.snd

/-- The characters of a role in what a reader takes for one character. -/
def graphemeRole? (name : String) : Option Property :=
  roleNamed? graphemeRoles name

/-- The characters of a role in words. -/
def wordRole? (name : String) : Option Property :=
  roleNamed? wordRoles name

/-- The characters of a role in sentences. -/
def sentenceRole? (name : String) : Option Property :=
  roleNamed? sentenceRoles name

end RuleLexer.Regex.Property
