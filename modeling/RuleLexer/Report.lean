import RuleLexer.Error
import RuleLexer.Text.Line

/-!
# Error reports

`Error.report` shows an error with the line of the text that it lies in, and a caret under the
place:

    Error: SyntaxError (Can't understand `foo bar`)
    -> lang.rules
      |
    3 | foo bar
      | ^
-/

namespace RuleLexer

/-- `width` many characters `c`. -/
def fill (width : Nat) (c : Char) : String :=
  String.ofList (List.replicate width c)

/-- The rows of a report that show a line: its text without the spaces it begins with and the
blanks it ends with, and the caret.  The caret stands one column to the right for every byte that
precedes the place in what is left of the line. -/
def Text.Line.excerpt (line : Text.Line) : String :=
  let number := toString line.number
  let margin := fill (number.length + 1) ' ' ++ "|"
  let shown := line.text.dropWhile (· == ' ')
  let removed := line.text.length - shown.length
  margin ++ "\n"
    ++ number ++ " | " ++ String.ofList (Text.trimEnd shown) ++ "\n"
    ++ margin ++ " " ++ fill (line.offset - removed) '-' ++ "^\n"

/-- An error as it is shown to the author of the text `source`. -/
def Error.report (e : Error) (source : String) : String :=
  let advice := e.fault.tip?.getD e.message
  let head := "Error: " ++ e.fault.kind.label ++ " (" ++ advice ++ ")\n-> " ++ e.position.file ++ "\n"
  match Text.lineAt? source.toList e.position.offset.toNat with
  | none => head
  | some line => head ++ line.excerpt

end RuleLexer
