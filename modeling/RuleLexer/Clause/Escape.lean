import RuleLexer.Text.Hexadecimal

/-!
# Escapes in quoted literals

`unescape` decodes what stands between the quotes of a literal in a clause.
-/

namespace RuleLexer.Clause

open RuleLexer.Text (hexValue?)

/-- The characters that a backslash and one letter or sign stand for. -/
def plainEscapes : List (Char × Char) :=
  [('n', '\n'), ('t', '\t'), ('r', '\r'), ('0', '\x00'), ('\\', '\\'), ('"', '"'), ('\'', '\''),
   ('\x60', '\x60')]

/-- Decodes escapes from left to right.  Behind `\x` stand one or two hexadecimal digits, two where
there are two.  A backslash that begins no escape is kept. -/
def unescape : List Char → List Char
  | [] => []
  | c :: cs =>
    if c != '\\' then c :: unescape cs
    else
      match cs with
      | [] => ['\\']
      | e :: rest =>
        match plainEscapes.lookup e with
        | some d => d :: unescape rest
        | none =>
          if e != 'x' then '\\' :: e :: unescape rest
          else
            match rest with
            | [] => ['\\', 'x']
            | a :: afterOne =>
              match hexValue? a with
              | none => '\\' :: 'x' :: unescape (a :: afterOne)
              | some high =>
                match afterOne with
                | [] => [Char.ofNat high]
                | b :: afterTwo =>
                  match hexValue? b with
                  | none => Char.ofNat high :: unescape (b :: afterTwo)
                  | some low => Char.ofNat (16 * high + low) :: unescape afterTwo
termination_by cs => cs.length
decreasing_by all_goals (simp only [List.length_cons]; omega)

end RuleLexer.Clause
