import RuleLexer.Scanner

/-!
# The pass over the scanned tokens

After the scan the let-rules run over its tokens.  Each in turn is the token in progress, behind the
tokens that were passed.  The text that the rules see is what the scanned tokens spell, and the
current character is the last one of the token, so that looking ahead goes into the text of the
tokens to come.
-/

namespace RuleLexer

namespace Token

/-- A text that is cut at its breaks, as far as it was read. -/
structure Cut where
  /-- The parts that are complete. -/
  parts : Array String := #[]
  /-- The characters behind the last break. -/
  run : String := ""

namespace Cut

/-- The parts with the run behind the last break, unless that is empty. -/
def close (k : Cut) : Array String :=
  if k.run.isEmpty then k.parts else k.parts.push k.run

/-- Reads a character.  A break ends the run and is a part of its own. -/
def read (isBreak : Char → Bool) (k : Cut) (c : Char) : Cut :=
  if isBreak c then { parts := k.close.push (String.singleton c) }
  else { k with run := k.run.push c }

end Cut

/-- The token cut at its breaks; every part has the tags of the whole. -/
def expand (isBreak : Char → Bool) (t : Token) : List Token :=
  let cut := t.text.toList.foldl (Cut.read isBreak) {}
  cut.close.toList.map fun text => ⟨text, t.tags⟩

end Token

namespace Scanner

/-- Runs a rule; what it says about the flow does not matter here. -/
def runPlain (r : Rule) (s : Scan) : Except Error Scan :=
  match r.run s with
  | (_, .error e) => .error e
  | (s, .ok _) => .ok s

/-- Passes the token in progress, running the first let-rule that matches. -/
def letStep (m : Scanner) (s : Scan) : Except Error Scan :=
  match findMatch m.letRules s with
  | none => .ok s.flush
  | some r =>
    match r.kind with
    | .ifThen => .ok s.flush
    | .letRule .be | .letRule .throw => (runPlain r s).map Scan.flush
    | .letRule .beGroup =>
      (runPlain r { s with lookBack := r.lookBack }.joinBehind).map Scan.flush
    | .letRule .expandGroup =>
      (runPlain r s).map fun s =>
        { s with token := {}, emitted := (s.token.expand m.isBreak).reverse ++ s.emitted }

/-- Passes tokens, where `passed` is the number of characters of those before. -/
def letFrom (m : Scanner) (passed : Nat) (s : Scan) : List Token → Except Error Scan
  | [] => .ok s
  | t :: ts =>
    let stop := passed + t.text.length
    match m.letStep { s with index := stop - 1, token := t } with
    | .error e => .error e
    | .ok s => m.letFrom stop s ts

/-- The state in which the pass over the tokens of a scan begins. -/
def letStart (s : Scan) : Scan :=
  { s with input := (s.tokens.flatMap (·.text.toList)).toArray, emitted := [] }

/-- Passes all tokens of a scan.  Without let-rules they stay as they are. -/
def letPass (m : Scanner) (s : Scan) : Except Error (List Token) :=
  if m.letRules.isEmpty then .ok s.tokens
  else (m.letFrom 0 (letStart s) s.tokens).map Scan.tokens

/-- Cuts a text into tokens. -/
def tokenize (m : Scanner) (input : String) : Except Error (List Token) :=
  (m.scan input).bind m.letPass

end Scanner

end RuleLexer
