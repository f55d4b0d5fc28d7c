import RuleLexer.Specification.Basic
import RuleLexer.Unicode.Folding

/-!
# The forms of lines

`Form.read?` reads one line of a specification.  Keywords may be written in any case, and any blanks
stand between the parts.  A test ends at the first separator that could end it: `then` between
blanks for an if-rule, the words of a kind between blanks for a let-rule.
-/

namespace RuleLexer

/-- A line that is neither blank nor a comment. -/
inductive Form where
  | ifRule (test action : List Char)
  | letRule (test : List Char) (kind : LetKind) (action : List Char)
  | breakOn (literal : List Char)
  | define (name value : List Char)
deriving DecidableEq, Repr

namespace Form

/-- Drops the blanks that a text begins with, of which there has to be one. -/
def dropBlanks? : List Char → Option (List Char)
  | [] => none
  | c :: cs => if Text.isBlank c then some (Text.trimStart cs) else none

/-- Drops a word in lower case from the start of a text, where it may have any case. -/
def dropWord? : List Char → List Char → Option (List Char)
  | [], cs => some cs
  | _ :: _, [] => none
  | w :: ws, c :: cs => if Unicode.fold c = w then dropWord? ws cs else none

/-- Drops a word and the blanks behind it, of which there has to be one. -/
def dropWordBlanks? (word : String) (cs : List Char) : Option (List Char) :=
  (dropWord? word.toList cs).bind dropBlanks?

/-- What follows `then` between blanks. -/
def thenSeparator? (cs : List Char) : Option (List Char) :=
  (dropBlanks? cs).bind (dropWordBlanks? "then")

/-- The words of the kinds, those first that others begin with. -/
def kindWords : List (LetKind × List String) :=
  [(.beGroup, ["be", "group"]), (.be, ["be"]), (.throw, ["throw"]),
   (.expandGroup, ["expand", "group"])]

/-- The kind whose words a text begins with after blanks, and what follows them and the blanks
behind them. -/
def kindSeparator? (cs : List Char) : Option (LetKind × List Char) :=
  (dropBlanks? cs).bind fun cs =>
    kindWords.findSome? fun (kind, words) =>
      (words.foldlM (fun cs word => dropWordBlanks? word cs) cs).map fun rest => (kind, rest)

/-- Cuts a text before the first separator. -/
def cut? (separator? : List Char → Option α) : List Char → Option (List Char × α)
  | [] => none
  | c :: cs =>
    match separator? (c :: cs) with
    | some a => some ([], a)
    | none => (cut? separator? cs).map fun (before, a) => (c :: before, a)

/-- Cuts the text behind the first keyword of a rule, which begins with blanks, into the test and
what the separator leaves.  The blanks before the test are dropped; only if there is no separator
otherwise, one of them may be part of a separator that follows at once, and the test is empty. -/
def cutTest? (separator? : List Char → Option α) (cs : List Char) : Option (List Char × α) :=
  match dropBlanks? cs with
  | none => none
  | some rest =>
    match cut? separator? rest with
    | some cut => some cut
    | none => (separator? cs.tail).map fun a => ([], a)

/-- Reads the name of a definition: a letter of ASCII or an underscore, then word characters.
Letters outside ASCII that differ from one in ASCII in case only count like it. -/
def readName? : List Char → Option (List Char × List Char)
  | [] => none
  | c :: cs =>
    if (Unicode.fold c).isAlpha || c == '_' then
      some (c :: cs.takeWhile Unicode.isWord, cs.dropWhile Unicode.isWord)
    else none

/-- Reads what follows the name of a definition: nothing, or an equals sign and a value. -/
def readValue? (cs : List Char) : Option (List Char) :=
  match Text.trimStart cs with
  | [] => some []
  | c :: cs => if c = '=' then some (Text.trim cs) else none

/-- An if-rule, from behind the keyword on. -/
def ifRule? (cs : List Char) : Option Form :=
  (cutTest? thenSeparator? cs).map fun (test, action) => .ifRule test (Text.trimEnd action)

/-- A let-rule, from behind the keyword on. -/
def letRule? (cs : List Char) : Option Form :=
  (cutTest? kindSeparator? cs).map fun (test, kind, action) =>
    .letRule test kind (Text.trimEnd action)

/-- A break pattern, from behind the first keyword on. -/
def breakOn? (cs : List Char) : Option Form :=
  ((dropBlanks? cs).bind (dropWordBlanks? "on")).map fun rest => .breakOn (Text.trimEnd rest)

/-- A definition, from behind the keyword on. -/
def define? (cs : List Char) : Option Form :=
  (dropBlanks? cs).bind fun rest =>
    (readName? rest).bind fun (name, rest) =>
      (readValue? rest).map fun value => .define name value

/-- The forms by their keywords. -/
def keywords : List (String × (List Char → Option Form)) :=
  [("if", ifRule?), ("let", letRule?), ("break", breakOn?), ("define", define?)]

/-- Reads a line. -/
def read? (line : List Char) : Option Form :=
  keywords.findSome? fun (word, form?) =>
    (dropWord? word.toList (Text.trimStart line)).bind form?

end Form

end RuleLexer
