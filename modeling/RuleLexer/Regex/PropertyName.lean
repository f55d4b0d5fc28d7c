import RuleLexer.Regex.Boundary
import RuleLexer.Regex.Trait
import RuleLexer.Unicode.Age
import RuleLexer.Unicode.Script

/-!
# Names of character sets

`Property.named?` knows the sets that an expression can ask for by one name: the properties that a
character has or lacks, the general categories and their groups, and the scripts.
`Property.valued?` knows the sets that take the name of a property and of a value.
-/

namespace RuleLexer.Regex.Property

open RuleLexer.Unicode

/-- The names of the general categories and of their groups, each with its letters. -/
def categoryNames : List (String × String) :=
  [("c", "C"), ("other", "C"), ("cc", "Cc"), ("control", "Cc"), ("cntrl", "Cc"),
   ("cf", "Cf"), ("format", "Cf"), ("cn", "Cn"), ("unassigned", "Cn"), ("co", "Co"),
   ("privateuse", "Co"), ("l", "L"), ("letter", "L"), ("ll", "Ll"), ("lowercaseletter", "Ll"),
   ("lm", "Lm"), ("modifierletter", "Lm"), ("lo", "Lo"), ("otherletter", "Lo"), ("lt", "Lt"),
   ("titlecaseletter", "Lt"), ("lu", "Lu"), ("uppercaseletter", "Lu"), ("m", "M"), ("mark", "M"),
   ("combiningmark", "M"), ("mc", "Mc"), ("spacingmark", "Mc"), ("me", "Me"),
   ("enclosingmark", "Me"), ("mn", "Mn"), ("nonspacingmark", "Mn"), ("n", "N"), ("number", "N"),
   ("nd", "Nd"), ("decimalnumber", "Nd"), ("digit", "Nd"), ("nl", "Nl"), ("letternumber", "Nl"),
   ("no", "No"), ("othernumber", "No"), ("p", "P"), ("punctuation", "P"), ("punct", "P"),
   ("pc", "Pc"), ("connectorpunctuation", "Pc"), ("pd", "Pd"), ("dashpunctuation", "Pd"),
   ("pe", "Pe"), ("closepunctuation", "Pe"), ("pf", "Pf"), ("finalpunctuation", "Pf"),
   ("pi", "Pi"), ("initialpunctuation", "Pi"), ("po", "Po"), ("otherpunctuation", "Po"),
   ("ps", "Ps"), ("openpunctuation", "Ps"), ("s", "S"), ("symbol", "S"), ("sc", "Sc"),
   ("currencysymbol", "Sc"), ("sk", "Sk"), ("modifiersymbol", "Sk"), ("sm", "Sm"),
   ("mathsymbol", "Sm"), ("so", "So"), ("othersymbol", "So"), ("z", "Z"), ("separator", "Z"),
   ("zl", "Zl"), ("lineseparator", "Zl"), ("zp", "Zp"), ("paragraphseparator", "Zp"),
   ("zs", "Zs"), ("spaceseparator", "Zs")]

/-- The general categories by name, with the sets that are made of them. -/
def categoryNamed? (name : String) : Option Property :=
  if name = "any" then some any
  else if name = "ascii" then some (ofRanges [(0, 127)])
  else if name = "assigned" then some (without any (ofCategory "Cn"))
  else if name = "lc" ∨ name = "casedletter" then
    some (anyOf [ofCategory "Lu", ofCategory "Ll", ofCategory "Lt"])
  else (categoryNames.lookup name).map ofCategory

/-- The scripts by name. -/
def scriptNamed? (name : String) : Option Property :=
  (scriptNames.lookup name).map fun letters =>
    let letters := letters.toList
    ⟨fun c => script c == letters, scriptRunCount letters⟩

/-- The characters that are used with a script, by its name. -/
def usageNamed? (name : String) : Option Property :=
  (scriptNames.lookup name).map fun letters =>
    let letters := letters.toList
    ⟨isUsedIn letters, scriptRunCount letters⟩

/-- The names of an edition of the standard: its number, and a `v` with the two parts of it. -/
def editionNames (e : Nat × Nat) : List String :=
  [toString e.1 ++ "." ++ toString e.2, "v" ++ toString e.1 ++ toString e.2]

/-- The characters that an edition of the standard has, by its name. -/
def editionNamed? (name : String) : Option Property :=
  (editions.find? fun e => (editionNames e).contains name).map fun e =>
    ⟨fun c => (age? c).any (isNoLater · e), 700⟩

/-- Names are compared without regard to case, spaces, hyphens, underscores, characters outside
ASCII and a leading `is`, which is kept in the name `isc` alone. -/
def normalName (name : List Char) : String :=
  let plain (cs : List Char) : List Char :=
    (cs.filter fun c => c.toNat < 128 && c != ' ' && c != '_' && c != '-').map Char.toLower
  match name with
  | a :: b :: cs =>
    if a.toLower = 'i' ∧ b.toLower = 's' then
      if plain cs = ['c'] then "isc" else String.ofList (plain cs)
    else String.ofList (plain name)
  | _ => String.ofList (plain name)

/-- The set with a plain name. -/
def named? (name : List Char) : Option Property :=
  let name := normalName name
  (traitNamed? name).or ((categoryNamed? name).or (scriptNamed? name))

/-- The properties with values, each with its names and the sets of the values by name. -/
def valueSets : List (List String × (String → Option Property)) :=
  [(["gc", "generalcategory"], categoryNamed?), (["sc", "script"], scriptNamed?),
   (["scx", "scriptextensions"], usageNamed?), (["age"], editionNamed?),
   (["gcb", "graphemeclusterbreak"], graphemeRole?), (["wb", "wordbreak"], wordRole?),
   (["sb", "sentencebreak"], sentenceRole?)]

/-- The set that a property and a value of it describe. -/
def valued? (property value : List Char) : Option Property :=
  match valueSets.find? (·.1.contains (normalName property)) with
  | some (_, values) => values (normalName value)
  | none => none

end RuleLexer.Regex.Property
