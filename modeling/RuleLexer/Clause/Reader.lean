import RuleLexer.Clause.Lexeme
import RuleLexer.Error
import RuleLexer.Text.Line

/-!
# Reading clauses

`Clause.read` cuts a clause into tokens.  Blanks stand between tokens wherever they like.
-/

namespace RuleLexer.Clause

/-- Whether a text begins like a literal that is closed by a delimiter. -/
def opensLiteral : List Char → Bool
  | [] => false
  | c :: cs => isQuote c || c == '/' || (c == '[' && cs.head? == some '(')

/-- What is wrong with a text that begins with no lexeme. -/
def faultAt (cs : List Char) : Fault :=
  if opensLiteral cs then .unterminatedLiteral (String.ofList cs)
  else .unrecognisedToken (String.ofList (cs.take 1))

/-- The tokens of a text that begins `offset` bytes into the clause. -/
def readFrom (offset : Nat) (cs : List Char) : Except Fault (List Token) :=
  match cs with
  | [] => .ok [⟨.eof, "EOF", offset⟩]
  | c :: rest =>
    if Text.isBlank c then readFrom (offset + c.utf8Size) rest
    else
      match _h : readLexeme? (c :: rest) with
      | none => .error (faultAt (c :: rest))
      | some (kind, text, rest) =>
        (readFrom (offset + Text.byteLength text) rest).map
          (⟨kind, String.ofList (valueOf kind text), offset⟩ :: ·)
termination_by cs.length
decreasing_by
  · simp
  · exact length_lt_of_readLexeme? ‹_›

/-- The tokens of a clause, the last of them marking its end. -/
def read (clause : String) : Except Fault (List Token) :=
  readFrom 0 clause.toList

end RuleLexer.Clause
