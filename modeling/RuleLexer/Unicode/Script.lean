import RuleLexer.Unicode.RunTable
import RuleLexer.Unicode.ScriptTable

/-!
# Scripts

`script` looks up the script of a character, `isUsedIn` says whether a character is used with a
script, and `scriptNames` lists the names of the scripts.
-/

namespace RuleLexer.Unicode

/-- The runs of one script, by increasing first code point. -/
def scriptRuns : Array (Nat × List Char) :=
  readRuns #[] 0 [] scriptText.toList

/-- The four letters of the script of a character. -/
def script (c : Char) : List Char :=
  findRun scriptRuns c.toNat

/-- The number of runs that a script has. -/
def scriptRunCount (letters : List Char) : Nat :=
  scriptRuns.foldl (fun n run => if run.2 == letters then n + 1 else n) 0

/-- The runs of characters that are used with the same scripts, by increasing first code point. -/
def extensionRuns : Array (Nat × List Char) :=
  readRuns #[] 0 [] extensionText.toList

/-- Whether four letters are one of the groups of four that a list of letters is made of. -/
def hasLetters (letters : List Char) : List Char → Bool
  | a :: b :: c :: d :: rest => letters == [a, b, c, d] || hasLetters letters rest
  | _ => false

/-- Whether a character is used with the script of four letters: it is one of the scripts that the
character is listed with or, for a character that is not listed, its own script. -/
def isUsedIn (letters : List Char) (c : Char) : Bool :=
  let listed := findRun extensionRuns c.toNat
  if listed = ['Z', 'z', 'z', 'z'] then script c == letters else hasLetters letters listed

/-- The names of the scripts in lower case, each with the letters of its script. -/
def scriptNames : List (String × String) :=
  [("adlam", "Adlm"), ("adlm", "Adlm"), ("caucasianalbanian", "Aghb"), ("aghb", "Aghb"),
   ("ahom", "Ahom"), ("arabic", "Arab"), ("arab", "Arab"), ("imperialaramaic", "Armi"),
   ("armi", "Armi"), ("armenian", "Armn"), ("armn", "Armn"), ("avestan", "Avst"), ("avst", "Avst"),
   ("balinese", "Bali"), ("bali", "Bali"), ("bamum", "Bamu"), ("bamu", "Bamu"),
   ("bassavah", "Bass"), ("bass", "Bass"), ("batak", "Batk"), ("batk", "Batk"),
   ("bengali", "Beng"), ("beng", "Beng"), ("bhaiksuki", "Bhks"), ("bhks", "Bhks"),
   ("bopomofo", "Bopo"), ("bopo", "Bopo"), ("brahmi", "Brah"), ("brah", "Brah"),
   ("braille", "Brai"), ("brai", "Brai"), ("buginese", "Bugi"), ("bugi", "Bugi"),
   ("buhid", "Buhd"), ("buhd", "Buhd"), ("chakma", "Cakm"), ("cakm", "Cakm"),
   ("canadianaboriginal", "Cans"), ("cans", "Cans"), ("carian", "Cari"), ("cari", "Cari"),
   ("cham", "Cham"), ("cherokee", "Cher"), ("cher", "Cher"), ("chorasmian", "Chrs"),
   ("chrs", "Chrs"), ("coptic", "Copt"), ("qaac", "Copt"), ("copt", "Copt"),
   ("cyprominoan", "Cpmn"), ("cpmn", "Cpmn"), ("cypriot", "Cprt"), ("cprt", "Cprt"),
   ("cyrillic", "Cyrl"), ("cyrl", "Cyrl"), ("devanagari", "Deva"), ("deva", "Deva"),
   ("divesakuru", "Diak"), ("diak", "Diak"), ("dogra", "Dogr"), ("dogr", "Dogr"),
   ("deseret", "Dsrt"), ("dsrt", "Dsrt"), ("duployan", "Dupl"), ("dupl", "Dupl"),
   ("egyptianhieroglyphs", "Egyp"), ("egyp", "Egyp"), ("elbasan", "Elba"), ("elba", "Elba"),
   ("elymaic", "Elym"), ("elym", "Elym"), ("ethiopic", "Ethi"), ("ethi", "Ethi"),
   ("georgian", "Geor"), ("geor", "Geor"), ("glagolitic", "Glag"), ("glag", "Glag"),
   ("gunjalagondi", "Gong"), ("gong", "Gong"), ("masaramgondi", "Gonm"), ("gonm", "Gonm"),
   ("gothic", "Goth"), ("goth", "Goth"), ("grantha", "Gran"), ("gran", "Gran"), ("greek", "Grek"),
   ("grek", "Grek"), ("gujarati", "Gujr"), ("gujr", "Gujr"), ("gurmukhi", "Guru"),
   ("guru", "Guru"), ("hangul", "Hang"), ("hang", "Hang"), ("han", "Hani"), ("hani", "Hani"),
   ("hanunoo", "Hano"), ("hano", "Hano"), ("hatran", "Hatr"), ("hatr", "Hatr"), ("hebrew", "Hebr"),
   ("hebr", "Hebr"), ("hiragana", "Hira"), ("hira", "Hira"), ("anatolianhieroglyphs", "Hluw"),
   ("hluw", "Hluw"), ("pahawhhmong", "Hmng"), ("hmng", "Hmng"), ("nyiakengpuachuehmong", "Hmnp"),
   ("hmnp", "Hmnp"), ("oldhungarian", "Hung"), ("hung", "Hung"), ("olditalic", "Ital"),
   ("ital", "Ital"), ("javanese", "Java"), ("java", "Java"), ("kayahli", "Kali"), ("kali", "Kali"),
   ("katakana", "Kana"), ("kana", "Kana"), ("kawi", "Kawi"), ("kharoshthi", "Khar"),
   ("khar", "Khar"), ("khmer", "Khmr"), ("khmr", "Khmr"), ("khojki", "Khoj"), ("khoj", "Khoj"),
   ("khitansmallscript", "Kits"), ("kits", "Kits"), ("kannada", "Knda"), ("knda", "Knda"),
   ("kaithi", "Kthi"), ("kthi", "Kthi"), ("taitham", "Lana"), ("lana", "Lana"), ("lao", "Laoo"),
   ("laoo", "Laoo"), ("latin", "Latn"), ("latn", "Latn"), ("lepcha", "Lepc"), ("lepc", "Lepc"),
   ("limbu", "Limb"), ("limb", "Limb"), ("lineara", "Lina"), ("lina", "Lina"), ("linearb", "Linb"),
   ("linb", "Linb"), ("lisu", "Lisu"), ("lycian", "Lyci"), ("lyci", "Lyci"), ("lydian", "Lydi"),
   ("lydi", "Lydi"), ("mahajani", "Mahj"), ("mahj", "Mahj"), ("makasar", "Maka"), ("maka", "Maka"),
   ("mandaic", "Mand"), ("mand", "Mand"), ("manichaean", "Mani"), ("mani", "Mani"),
   ("marchen", "Marc"), ("marc", "Marc"), ("medefaidrin", "Medf"), ("medf", "Medf"),
   ("mendekikakui", "Mend"), ("mend", "Mend"), ("meroiticcursive", "Merc"), ("merc", "Merc"),
   ("meroitichieroglyphs", "Mero"), ("mero", "Mero"), ("malayalam", "Mlym"), ("mlym", "Mlym"),
   ("modi", "Modi"), ("mongolian", "Mong"), ("mong", "Mong"), ("mro", "Mroo"), ("mroo", "Mroo"),
   ("meeteimayek", "Mtei"), ("mtei", "Mtei"), ("multani", "Mult"), ("mult", "Mult"),
   ("myanmar", "Mymr"), ("mymr", "Mymr"), ("nagmundari", "Nagm"), ("nagm", "Nagm"),
   ("nandinagari", "Nand"), ("nand", "Nand"), ("oldnortharabian", "Narb"), ("narb", "Narb"),
   ("nabataean", "Nbat"), ("nbat", "Nbat"), ("newa", "Newa"), ("nko", "Nkoo"), ("nkoo", "Nkoo"),
   ("nushu", "Nshu"), ("nshu", "Nshu"), ("ogham", "Ogam"), ("ogam", "Ogam"), ("olchiki", "Olck"),
   ("olck", "Olck"), ("oldturkic", "Orkh"), ("orkh", "Orkh"), ("oriya", "Orya"), ("orya", "Orya"),
   ("osage", "Osge"), ("osge", "Osge"), ("osmanya", "Osma"), ("osma", "Osma"),
   ("olduyghur", "Ougr"), ("ougr", "Ougr"), ("palmyrene", "Palm"), ("palm", "Palm"),
   ("paucinhau", "Pauc"), ("pauc", "Pauc"), ("oldpermic", "Perm"), ("perm", "Perm"),
   ("phagspa", "Phag"), ("phag", "Phag"), ("inscriptionalpahlavi", "Phli"), ("phli", "Phli"),
   ("psalterpahlavi", "Phlp"), ("phlp", "Phlp"), ("phoenician", "Phnx"), ("phnx", "Phnx"),
   ("miao", "Plrd"), ("plrd", "Plrd"), ("inscriptionalparthian", "Prti"), ("prti", "Prti"),
   ("rejang", "Rjng"), ("rjng", "Rjng"), ("hanifirohingya", "Rohg"), ("rohg", "Rohg"),
   ("runic", "Runr"), ("runr", "Runr"), ("samaritan", "Samr"), ("samr", "Samr"),
   ("oldsoutharabian", "Sarb"), ("sarb", "Sarb"), ("saurashtra", "Saur"), ("saur", "Saur"),
   ("signwriting", "Sgnw"), ("sgnw", "Sgnw"), ("shavian", "Shaw"), ("shaw", "Shaw"),
   ("sharada", "Shrd"), ("shrd", "Shrd"), ("siddham", "Sidd"), ("sidd", "Sidd"),
   ("khudawadi", "Sind"), ("sind", "Sind"), ("sinhala", "Sinh"), ("sinh", "Sinh"),
   ("sogdian", "Sogd"), ("sogd", "Sogd"), ("oldsogdian", "Sogo"), ("sogo", "Sogo"),
   ("sorasompeng", "Sora"), ("sora", "Sora"), ("soyombo", "Soyo"), ("soyo", "Soyo"),
   ("sundanese", "Sund"), ("sund", "Sund"), ("sylotinagri", "Sylo"), ("sylo", "Sylo"),
   ("syriac", "Syrc"), ("syrc", "Syrc"), ("tagbanwa", "Tagb"), ("tagb", "Tagb"), ("takri", "Takr"),
   ("takr", "Takr"), ("taile", "Tale"), ("tale", "Tale"), ("newtailue", "Talu"), ("talu", "Talu"),
   ("tamil", "Taml"), ("taml", "Taml"), ("tangut", "Tang"), ("tang", "Tang"), ("taiviet", "Tavt"),
   ("tavt", "Tavt"), ("telugu", "Telu"), ("telu", "Telu"), ("tifinagh", "Tfng"), ("tfng", "Tfng"),
   ("tagalog", "Tglg"), ("tglg", "Tglg"), ("thaana", "Thaa"), ("thaa", "Thaa"), ("thai", "Thai"),
   ("tibetan", "Tibt"), ("tibt", "Tibt"), ("tirhuta", "Tirh"), ("tirh", "Tirh"),
   ("tangsa", "Tnsa"), ("tnsa", "Tnsa"), ("toto", "Toto"), ("ugaritic", "Ugar"), ("ugar", "Ugar"),
   ("vai", "Vaii"), ("vaii", "Vaii"), ("vithkuqi", "Vith"), ("vith", "Vith"),
   ("warangciti", "Wara"), ("wara", "Wara"), ("wancho", "Wcho"), ("wcho", "Wcho"),
   ("oldpersian", "Xpeo"), ("xpeo", "Xpeo"), ("cuneiform", "Xsux"), ("xsux", "Xsux"),
   ("yezidi", "Yezi"), ("yezi", "Yezi"), ("yi", "Yiii"), ("yiii", "Yiii"),
   ("zanabazarsquare", "Zanb"), ("zanb", "Zanb"), ("inherited", "Zinh"), ("qaai", "Zinh"),
   ("zinh", "Zinh"), ("common", "Zyyy"), ("zyyy", "Zyyy"), ("garay", "Gara"), ("gara", "Gara"),
   ("gurungkhema", "Gukh"), ("gukh", "Gukh"), ("kiratrai", "Krai"), ("krai", "Krai"),
   ("olonal", "Onao"), ("onao", "Onao"), ("sunuwar", "Sunu"), ("sunu", "Sunu"), ("todhri", "Todr"),
   ("todr", "Todr"), ("tulutigalari", "Tutg"), ("tutg", "Tutg")]

end RuleLexer.Unicode
