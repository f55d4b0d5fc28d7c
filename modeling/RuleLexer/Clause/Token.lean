/-!
# Tokens of clauses

The tests and actions of rules are clauses: texts made of literals, words and operators.  A
`Clause.Token` is one of these with its decoded value and its place in the clause.
-/

namespace RuleLexer.Clause

/-- The kinds of tokens. -/
inductive Kind where
  /-- The end of the clause. -/
  | eof
  | pattern
  | string
  | tag
  | hostExpression
  | identifier
  | number
  | and
  | or
  | lookAhead
  | lookBehind
  | current
  | semicolon
  | continueWord
  | skipWord
  | tokenWord
  | throwWord
  | joinWord
deriving DecidableEq, Repr, Inhabited

namespace Kind

/-- The name of a kind. -/
def label : Kind → String
  | eof => "EOF"
  | pattern => "Pattern"
  | string => "String"
  | tag => "Tag"
  | hostExpression => "HostExpression"
  | identifier => "Identifier"
  | number => "Number"
  | and => "And"
  | or => "Or"
  | lookAhead => "LookAhead"
  | lookBehind => "LookBehind"
  | current => "Current"
  | semicolon => "Semicolon"
  | continueWord => "Continue"
  | skipWord => "Skip"
  | tokenWord => "TokenKeyword"
  | throwWord => "Throw"
  | joinWord => "Join"

/-- Kinds that are a test of their own. -/
def isOperand : Kind → Bool
  | pattern | string | tag | hostExpression => true
  | _ => false

/-- Kinds that read as a bare word in a test. -/
def isWord : Kind → Bool
  | identifier | number | continueWord | skipWord | tokenWord | throwWord | joinWord => true
  | _ => false

/-- Operators that say what the operands beside them look at. -/
def isPositional : Kind → Bool
  | lookAhead | lookBehind | current => true
  | _ => false

end Kind

/-- A token of a clause. -/
structure Token where
  kind : Kind
  /-- The text of the token, decoded: without quotes, brackets or `#`, and with escapes resolved.
  Patterns keep their slashes and flags. -/
  value : String
  /-- Where the token begins in the clause, in bytes. -/
  offset : Nat
deriving DecidableEq, Repr, Inhabited

/-- A token as text. -/
def Token.describe (t : Token) : String :=
  t.kind.label ++ " (" ++ t.value ++ ")"

end RuleLexer.Clause
