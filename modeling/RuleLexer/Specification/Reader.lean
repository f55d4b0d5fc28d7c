import RuleLexer.Specification.Line
import RuleLexer.Text.Encoding
import RuleLexer.Text.Line

/-!
# Reading specifications

A specification is read line by line.  Blank lines and comments say nothing; every other line is an
`Entry`.  The first line that cannot be read ends the reading.
-/

namespace RuleLexer

/-- What a line adds to a specification. -/
inductive Entry where
  | ifRule (rule : IfRule)
  | letRule (rule : LetRule)
  | breakOn (pattern : Pattern)
  | define (definition : Definition)

namespace Entry

/-- The entry of a form that was read at a position. -/
def ofForm [Regex.Engine] (position : Position) : Form → Except Fault Entry
  | .ifRule test action => .ok (.ifRule ⟨String.ofList test, String.ofList action, position⟩)
  | .letRule test kind action =>
    .ok (.letRule ⟨String.ofList test, kind, String.ofList action, position⟩)
  | .breakOn literal =>
    let literal := String.ofList literal
    match Pattern.read literal with
    | .ok pattern => .ok (.breakOn pattern)
    | .error fault => .error (.invalidPattern literal fault.message)
  | .define name value =>
    .ok (.define ⟨String.ofList name, if value.isEmpty then none else some (String.ofList value)⟩)

/-- Whether a line says nothing: it is blank, or a comment, which begins with `~` in the first
column. -/
def isSilent (line : List Char) : Bool :=
  line.head? == some '~' || line.all Text.isBlank

/-- The entry of a line, if it says anything. -/
def ofLine [Regex.Engine] (position : Position) (line : List Char) :
    Except Fault (Option Entry) :=
  if isSilent line then .ok none
  else
    match Form.read? line with
    | none => .error (.unrecognisedLine (String.ofList line))
    | some form => (ofForm position form).map some

/-- Whether a character belongs to the end of a line. -/
def isLineEnd (c : Char) : Bool :=
  c == '\n' || c == '\r'

/-- The entries of the lines that begin `offset` bytes into the text. -/
def ofLines [Regex.Engine] (file : String) (offset : Nat) :
    List (List Char) → Except Error (List Entry)
  | [] => .ok []
  | line :: lines =>
    let position : Position := ⟨UInt32.ofNat offset, file⟩
    match ofLine position (Text.dropEnd isLineEnd line) with
    | .error fault => .error ⟨fault, position⟩
    | .ok entry =>
      (ofLines file (offset + Text.byteLength line) lines).map (entry.toList ++ ·)

end Entry

namespace Specification

/-- Adds an entry to a specification. -/
def add (s : Specification) : Entry → Specification
  | .ifRule rule => { s with ifRules := s.ifRules ++ [rule] }
  | .letRule rule => { s with letRules := s.letRules ++ [rule] }
  | .breakOn pattern => { s with breakPattern := pattern }
  | .define definition => { s with definitions := s.definitions ++ [definition] }

/-- The specification that entries make up.  Of several break patterns the last one counts. -/
def ofEntries (entries : List Entry) : Specification :=
  entries.foldl add {}

/-- Reads a specification from a text with the given name. -/
def read [Regex.Engine] (text file : String) : Except Error Specification :=
  (Entry.ofLines file 0 (Text.lines text.toList)).map ofEntries

/-- The name of a text that has no other. -/
def defaultFile : String :=
  "<spec>"

/-- Reads a specification from bytes, which have to be there and to be UTF-8. -/
def readBytes [Regex.Engine] (bytes : Option (List UInt8)) (file : String) :
    Except Error Specification :=
  match bytes with
  | none => .error ⟨.missingInput, ⟨0, file⟩⟩
  | some bytes =>
    match Text.decode bytes with
    | .error fault => .error ⟨.invalidInputType fault.message, ⟨0, file⟩⟩
    | .ok text => read (String.ofList text) file

end Specification

end RuleLexer
