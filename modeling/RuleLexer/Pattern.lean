import RuleLexer.Regex.Basic

/-!
# Pattern literals

A pattern is written `/body/flags`.  `Pattern.split` finds where the body ends, `readFlags` reads
the flags, and `Pattern.read` puts both together with the engine that reads expressions.  A pattern
matches a text if its expression matches somewhere in it.
-/

namespace RuleLexer

/-- Why a pattern literal is refused. -/
inductive PatternFault where
  /-- The literal does not begin with a slash. -/
  | notDelimited
  /-- The literal ends in a backslash. -/
  | danglingEscape
  /-- No slash ends the body. -/
  | unclosed
  | unknownFlag (flag : Char)
  /-- The body is no expression. -/
  | unreadable
deriving DecidableEq, Repr

/-- The fault in words. -/
def PatternFault.message : PatternFault → String
  | notDelimited => "expected a literal of the form /pattern/"
  | danglingEscape => "dangling escape"
  | unclosed => "missing closing `/`"
  | unknownFlag flag => "unknown flag `" ++ String.singleton flag ++ "`"
  | unreadable => "<regex error>"

/-- A pattern that texts are tested against. -/
structure Pattern where
  /-- The literal that the pattern was read from. -/
  source : String
  expr : Regex

namespace Pattern

/-- Patterns are the same if they are written the same. -/
instance : BEq Pattern := ⟨fun p q => p.source == q.source⟩

/-- Splits a literal behind its first slash into body and flags.  An escaped slash belongs to the
body as a plain one; every other escape stays as it is. -/
def splitBody : List Char → Except PatternFault (List Char × List Char)
  | [] => .error .unclosed
  | c :: cs =>
    if c = '/' then .ok ([], cs)
    else if c = '\\' then
      match cs with
      | [] => .error .danglingEscape
      | e :: cs =>
        (splitBody cs).map fun (body, flags) =>
          (if e = '/' then '/' :: body else '\\' :: e :: body, flags)
    else (splitBody cs).map fun (body, flags) => (c :: body, flags)

/-- Splits a literal into body and flags. -/
def split : List Char → Except PatternFault (List Char × List Char)
  | [] => .error .notDelimited
  | c :: cs => if c = '/' then splitBody cs else .error .notDelimited

/-- Switches on the modes that flags ask for.  The flags `g`, `u` and `y` mean nothing for a single
test. -/
def readFlags (m : Regex.Modes) : List Char → Except PatternFault Regex.Modes
  | [] => .ok m
  | c :: cs =>
    if c = 'i' then readFlags { m with caseless := true } cs
    else if c = 'm' then readFlags { m with multiLine := true } cs
    else if c = 's' then readFlags { m with dotAll := true } cs
    else if c = 'x' then readFlags { m with extended := true } cs
    else if c = 'g' ∨ c = 'u' ∨ c = 'y' then readFlags m cs
    else .error (.unknownFlag c)

/-- Reads a pattern literal. -/
def read [Regex.Engine] (literal : String) : Except PatternFault Pattern :=
  match split literal.toList with
  | .error fault => .error fault
  | .ok (body, flags) =>
    match readFlags {} flags with
    | .error fault => .error fault
    | .ok m =>
      match Regex.Engine.read? m body with
      | none => .error .unreadable
      | some expr => .ok ⟨literal, expr⟩

/-- Whether the pattern matches somewhere in a text. -/
def isMatch (p : Pattern) (text : String) : Bool :=
  p.expr.matchesIn text.toList

/-- Whether the pattern matches in the text that consists of one character. -/
def matchesChar (p : Pattern) (c : Char) : Bool :=
  p.expr.matchesIn [c]

/-- The pattern that texts are broken at where nothing else is said: everything but letters,
digits and underscores of ASCII. -/
def defaultBreak : Pattern where
  source := "/\\W/"
  expr := .one (.complement (.ofRanges [('A', 'Z'), ('a', 'z'), ('0', '9'), ('_', '_')]))

end Pattern

end RuleLexer
