import RuleLexer.Regex.Property

/-!
# Properties that a character has or lacks

`traits` lists the properties without values, such as `Alphabetic`, with the names that they go by.
A property that follows from the general category and from other properties is defined through
these; the names that begin with `other` are the parts of the definitions that follow from nothing.
-/

namespace RuleLexer.Regex.Property

open RuleLexer.Unicode

/-- Lower-case characters outside the category `Ll`. -/
def otherLowercase : Property :=
  ofRanges
    [(0xAA, 0xAA), (0xBA, 0xBA), (0x2B0, 0x2B8), (0x2C0, 0x2C1), (0x2E0, 0x2E4), (0x345, 0x345),
     (0x37A, 0x37A), (0x10FC, 0x10FC), (0x1D2C, 0x1D6A), (0x1D78, 0x1D78), (0x1D9B, 0x1DBF),
     (0x2071, 0x2071), (0x207F, 0x207F), (0x2090, 0x209C), (0x2170, 0x217F), (0x24D0, 0x24E9),
     (0x2C7C, 0x2C7D), (0xA69C, 0xA69D), (0xA770, 0xA770), (0xA7F2, 0xA7F4), (0xA7F8, 0xA7F9),
     (0xAB5C, 0xAB5F), (0xAB69, 0xAB69), (0x10780, 0x10780), (0x10783, 0x10785),
     (0x10787, 0x107B0), (0x107B2, 0x107BA), (0x1E030, 0x1E06D)]

/-- Upper-case characters outside the category `Lu`. -/
def otherUppercase : Property :=
  ofRanges [(0x2160, 0x216F), (0x24B6, 0x24CF), (0x1F130, 0x1F149), (0x1F150, 0x1F169),
    (0x1F170, 0x1F189)]

/-- The letters in lower case. -/
def lowercase : Property :=
  anyOf [ofCategory "Ll", otherLowercase]

/-- The letters in upper case. -/
def uppercase : Property :=
  anyOf [ofCategory "Lu", otherUppercase]

/-- The characters that have case. -/
def cased : Property :=
  anyOf [lowercase, uppercase, ofCategory "Lt"]

/-- The characters that are passed over when the case of a word is looked at. -/
def caseIgnorable : Property :=
  anyOf [ofCategory "Mn", ofCategory "Me", ofCategory "Cf", ofCategory "Lm", ofCategory "Sk",
    ofRanges [(0x27, 0x27), (0x2E, 0x2E), (0x3A, 0x3A), (0xB7, 0xB7), (0x387, 0x387),
      (0x55F, 0x55F), (0x5F4, 0x5F4), (0x2018, 0x2019), (0x2024, 0x2024), (0x2027, 0x2027),
      (0xFE13, 0xFE13), (0xFE52, 0xFE52), (0xFE55, 0xFE55), (0xFF07, 0xFF07), (0xFF0E, 0xFF0E),
      (0xFF1A, 0xFF1A)]]

/-- The characters that writing in small letters changes. -/
def changesWhenLowercased : Property :=
  listed "changeswhenlowercased"

/-- The characters that writing in capital letters changes. -/
def changesWhenUppercased : Property :=
  listed "changeswhenuppercased"

/-- The letters of Georgian that have a capital form and keep the small one in titles. -/
def georgianLetters : Property :=
  ofRanges [(0x10D0, 0x10FA), (0x10FD, 0x10FF)]

/-- The characters that writing as the first letter of a title changes: those with another capital
form, but for the letters of Georgian, and the capital forms of the double letters; not the forms
for titles themselves. -/
def changesWhenTitlecased : Property :=
  without
    (anyOf [changesWhenUppercased,
      ofRanges [(0x1C4, 0x1C4), (0x1C7, 0x1C7), (0x1CA, 0x1CA), (0x1F1, 0x1F1)]])
    (anyOf [ofCategory "Lt", georgianLetters])

/-- The characters that comparison without regard to case changes: those with another small form,
but for the capital letters of Cherokee, and small forms that stand for others. -/
def changesWhenCasefolded : Property :=
  without
    (anyOf [changesWhenLowercased,
      ofRanges [(0xB5, 0xB5), (0xDF, 0xDF), (0x149, 0x149), (0x17F, 0x17F), (0x345, 0x345),
        (0x3C2, 0x3C2), (0x3D0, 0x3D1), (0x3D5, 0x3D6), (0x3F0, 0x3F1), (0x3F5, 0x3F5),
        (0x587, 0x587), (0x13F8, 0x13FD), (0x1C80, 0x1C88), (0x1E9A, 0x1E9B), (0x1F80, 0x1F87),
        (0x1F90, 0x1F97), (0x1FA0, 0x1FA7), (0x1FB2, 0x1FB4), (0x1FB7, 0x1FB7), (0x1FC2, 0x1FC4),
        (0x1FC7, 0x1FC7), (0x1FF2, 0x1FF4), (0x1FF7, 0x1FF7), (0xAB70, 0xABBF), (0xFB00, 0xFB06),
        (0xFB13, 0xFB17)]])
    (ofRanges [(0x13A0, 0x13F5)])

/-- The characters that extend the one before them. -/
def graphemeExtend : Property :=
  ⟨isExtender, 380⟩

/-- The characters that can stand alone. -/
def graphemeBase : Property :=
  without any (anyOf [ofCategory "C", ofCategory "Zl", ofCategory "Zp", graphemeExtend])

/-- The letters and what stands for letters. -/
def alphabetic : Property :=
  ⟨isAlphabetic, 750⟩

/-- The characters that a name can begin with. -/
def idStart : Property :=
  without (anyOf [ofCategory "L", ofCategory "Nl", listed "otheridstart"])
    (ofRanges [(0x2E2F, 0x2E2F)])

/-- The characters that a name can go on with. -/
def idContinue : Property :=
  anyOf [idStart, ofCategory "Mn", ofCategory "Mc", ofCategory "Nd", ofCategory "Pc",
    listed "otheridcontinue"]

/-- Letters that become something else than a name, or can no longer go on with one, when their
compatible forms take their place. -/
def unstableLetters : Property :=
  ofRanges [(0x37A, 0x37A), (0x309B, 0x309C), (0xFC5E, 0xFC63), (0xFDFA, 0xFDFB), (0xFE70, 0xFE70),
    (0xFE72, 0xFE72), (0xFE74, 0xFE74), (0xFE76, 0xFE76), (0xFE78, 0xFE78), (0xFE7A, 0xFE7A),
    (0xFE7C, 0xFE7C), (0xFE7E, 0xFE7E)]

/-- Letters whose compatible forms can go on with a name but not begin one. -/
def unstableStarts : Property :=
  ofRanges [(0xE33, 0xE33), (0xEB3, 0xEB3), (0xFF9E, 0xFF9F)]

/-- The properties that a table lists, by their full names and their short ones. -/
def listedNames : List (List String) :=
  [["asciihexdigit", "ahex"], ["bidicontrol", "bidic"], ["bidimirrored", "bidim"], ["dash"],
   ["defaultignorablecodepoint", "di"], ["deprecated", "dep"], ["diacritic", "dia"], ["emoji"],
   ["emojicomponent", "ecomp"], ["emojimodifier", "emod"], ["emojimodifierbase", "ebase"],
   ["emojipresentation", "epres"], ["extendedpictographic", "extpict"], ["extender", "ext"],
   ["graphemelink", "grlink"], ["hexdigit", "hex"], ["hyphen"], ["idsbinaryoperator", "idsb"],
   ["idstrinaryoperator", "idst"], ["idsunaryoperator", "idsu"], ["idcompatmathcontinue"],
   ["idcompatmathstart"], ["ideographic", "ideo"], ["joincontrol", "joinc"],
   ["logicalorderexception", "loe"], ["modifiercombiningmark", "mcm"],
   ["noncharactercodepoint", "nchar"], ["otherdefaultignorablecodepoint", "odi"],
   ["otheridcontinue", "oidc"], ["otheridstart", "oids"], ["othermath", "omath"],
   ["patternsyntax", "patsyn"], ["patternwhitespace", "patws"],
   ["prependedconcatenationmark", "pcm"], ["quotationmark", "qmark"], ["radical"],
   ["regionalindicator", "ri"], ["sentenceterminal", "sterm"], ["softdotted", "sd"],
   ["terminalpunctuation", "term"], ["unifiedideograph", "uideo"], ["variationselector", "vs"]]

/-- The other properties by their names, each with the number of ranges it has. -/
def derivedTraits : List (List String × Nat × Property) :=
  [(["alphabetic", "alpha"], 757, alphabetic), (["lowercase", "lower"], 675, lowercase),
   (["uppercase", "upper"], 656, uppercase), (["whitespace", "wspace", "space"], 10, blank),
   (["cased"], 159, cased), (["caseignorable", "ci"], 452, caseIgnorable),
   (["changeswhenlowercased", "cwl"], 614, changesWhenLowercased),
   (["changeswhenuppercased", "cwu"], 630, changesWhenUppercased),
   (["changeswhentitlecased", "cwt"], 629, changesWhenTitlecased),
   (["changeswhencasefolded", "cwcf"], 626, changesWhenCasefolded),
   (["changeswhencasemapped", "cwcm"], 131,
    anyOf [changesWhenLowercased, changesWhenUppercased, changesWhenTitlecased]),
   (["graphemeextend", "grext"], 375, graphemeExtend),
   (["graphemebase", "grbase"], 894, graphemeBase), (["idstart", "ids"], 677, idStart),
   (["idcontinue", "idc"], 793, idContinue),
   (["xidstart", "xids"], 684, without idStart (anyOf [unstableLetters, unstableStarts])),
   (["xidcontinue", "xidc"], 800, without idContinue unstableLetters),
   (["math"], 139, anyOf [ofCategory "Sm", listed "othermath"]),
   (["otheralphabetic", "oalpha"], 250,
    without alphabetic (anyOf [ofCategory "L", ofCategory "Nl"])),
   (["otherlowercase", "olower"], 28, otherLowercase),
   (["otheruppercase", "oupper"], 5, otherUppercase),
   (["othergraphemeextend", "ogrext"], 49,
    without graphemeExtend (anyOf [ofCategory "Mn", ofCategory "Me"]))]

/-- The property without values of a name. -/
def traitNamed? (name : String) : Option Property :=
  match derivedTraits.find? (·.1.contains name) with
  | some (_, ranges, p) => some ⟨p.holds, ranges⟩
  | none => (listedNames.find? (·.contains name)).map fun names => listed (names.headD name)

end RuleLexer.Regex.Property
