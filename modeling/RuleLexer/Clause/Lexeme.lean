import RuleLexer.Clause.Escape
import RuleLexer.Clause.Token
import RuleLexer.Unicode.Category

/-!
# Lexemes of clauses

`readLexeme?` finds the lexeme that a text begins with, and `valueOf` decodes it.  What was read
and what is left make up the text again, and a lexeme is never empty: `append_of_readLexeme?`.
-/

namespace RuleLexer.Clause

/-- The operators, those first that others begin with. -/
def operators : List (List Char × Kind) :=
  [(['<', '-', '>'], .current), (['<', '-'], .lookBehind), (['-', '>'], .lookAhead),
   (['&', '&'], .and), (['|', '|'], .or), ([';'], .semicolon)]

/-- The words with a meaning of their own, in lower case. -/
def reservedWords : List (List Char × Kind) :=
  [("continue".toList, .continueWord), ("skip".toList, .skipWord), ("token".toList, .tokenWord),
   ("throw".toList, .throwWord), ("join".toList, .joinWord)]

/-- The kind of a word; letters of ASCII may have either case. -/
def wordKind (word : List Char) : Kind :=
  (reservedWords.lookup (word.map Char.toLower)).getD .identifier

/-- The quotes that string literals stand in. -/
def isQuote (c : Char) : Bool :=
  c == '\'' || c == '"' || c == '\x60'

/-- Splits a text behind the first `close` that no backslash stands before, from inside a literal
on.  A backslash takes the next character with it, which is no newline; newlines stand in a
literal only if `multiLine`. -/
def splitClose (close : Char) (multiLine : Bool) : List Char → Option (List Char × List Char)
  | [] => none
  | c :: cs =>
    if c = close then some ([c], cs)
    else if c = '\\' then
      match cs with
      | [] => none
      | e :: cs =>
        if e = '\n' then none
        else (splitClose close multiLine cs).map fun (text, rest) => (c :: e :: text, rest)
    else if c = '\n' ∧ multiLine = false then none
    else (splitClose close multiLine cs).map fun (text, rest) => (c :: text, rest)

/-- Splits a text behind the first `)]`, unless a newline comes before it. -/
def splitHost : List Char → Option (List Char × List Char)
  | [] => none
  | c :: cs =>
    if c = ')' ∧ cs.head? = some ']' then some ([')', ']'], cs.tail)
    else if c = '\n' then none
    else (splitHost cs).map fun (text, rest) => (c :: text, rest)

/-- Reads an operator. -/
def readOperator? (cs : List Char) : Option (Kind × List Char × List Char) :=
  operators.findSome? fun (op, kind) =>
    if op.isPrefixOf cs then some (kind, op, cs.drop op.length) else none

/-- Reads a pattern, behind the slash that it begins with. -/
def readPattern? (cs : List Char) : Option (Kind × List Char × List Char) :=
  (splitClose '/' false cs).map fun (body, rest) =>
    (.pattern, '/' :: body ++ rest.takeWhile Char.isAlpha, rest.dropWhile Char.isAlpha)

/-- Reads a string literal, behind the quote that it begins with. -/
def readString? (quote : Char) (cs : List Char) : Option (Kind × List Char × List Char) :=
  (splitClose quote true cs).map fun (body, rest) => (.string, quote :: body, rest)

/-- Reads a host expression, behind the bracket that it begins with. -/
def readHost? : List Char → Option (Kind × List Char × List Char)
  | [] => none
  | c :: cs =>
    if c = '(' then
      (splitHost cs).map fun (body, rest) => (.hostExpression, '[' :: '(' :: body, rest)
    else none

/-- Reads a tag, behind the `#` that it begins with. -/
def readTag? (cs : List Char) : Option (Kind × List Char × List Char) :=
  let word := cs.takeWhile Unicode.isWord
  if word = [] then none else some (.tag, '#' :: word, cs.dropWhile Unicode.isWord)

/-- Reads a number or a word, behind the character `c` that it begins with. -/
def readWord (c : Char) (cs : List Char) : Kind × List Char × List Char :=
  let text := c :: cs.takeWhile Unicode.isWord
  (if c.isDigit then .number else wordKind text, text, cs.dropWhile Unicode.isWord)

/-- The kind and the text of the lexeme that a text begins with, and what follows it. -/
def readLexeme? (cs : List Char) : Option (Kind × List Char × List Char) :=
  match readOperator? cs with
  | some lexeme => some lexeme
  | none =>
    match cs with
    | [] => none
    | c :: cs =>
      if c = '[' then readHost? cs
      else if c = '/' then readPattern? cs
      else if isQuote c then readString? c cs
      else if c = '#' then readTag? cs
      else if c.isDigit || c.isAlpha || c == '_' then some (readWord c cs)
      else none

/-- The value of a lexeme. -/
def valueOf (kind : Kind) (text : List Char) : List Char :=
  match kind with
  | .string => unescape (text.drop 1).dropLast
  | .tag => text.drop 1
  | .hostExpression => Text.trim ((text.drop 2).dropLast.dropLast)
  | _ => text

/-! ### What is read is the start of the text -/

theorem append_of_splitClose {close : Char} {multiLine : Bool} {cs text rest : List Char}
    (h : splitClose close multiLine cs = some (text, rest)) : text ++ rest = cs := by
  fun_induction splitClose close multiLine cs generalizing text rest with
  | case1 => simp at h
  | case2 =>
    simp only [Option.some.injEq, Prod.mk.injEq] at h
    simp [← h.1, ← h.2]
  | case3 => simp at h
  | case4 => simp at h
  | case5 _ _ _ _ ih =>
    obtain ⟨p, hp, hq⟩ := Option.map_eq_some_iff.1 h
    simp only [Prod.mk.injEq] at hq
    simp [← hq.1, ← hq.2, ih hp]
  | case6 => simp at h
  | case7 _ _ _ _ _ ih =>
    obtain ⟨p, hp, hq⟩ := Option.map_eq_some_iff.1 h
    simp only [Prod.mk.injEq] at hq
    simp [← hq.1, ← hq.2, ih hp]

theorem append_of_splitHost {cs text rest : List Char} (h : splitHost cs = some (text, rest)) :
    text ++ rest = cs := by
  fun_induction splitHost cs generalizing text rest with
  | case1 => simp at h
  | case2 c cs hc =>
    simp only [Option.some.injEq, Prod.mk.injEq] at h
    obtain ⟨rfl, hd⟩ := hc
    cases cs with
    | nil => simp at hd
    | cons d ds =>
      simp only [List.head?_cons, Option.some.injEq] at hd
      simp [← h.1, ← h.2, hd]
  | case3 => simp at h
  | case4 _ _ _ _ ih =>
    obtain ⟨p, hp, hq⟩ := Option.map_eq_some_iff.1 h
    simp only [Prod.mk.injEq] at hq
    simp [← hq.1, ← hq.2, ih hp]

theorem append_of_readOperator? {cs text rest : List Char} {kind : Kind}
    (h : readOperator? cs = some (kind, text, rest)) : text ++ rest = cs ∧ text ≠ [] := by
  obtain ⟨⟨op, k⟩, hop, h⟩ := List.exists_of_findSome?_eq_some h
  have hne : op ≠ [] := by
    rintro rfl
    simp [operators] at hop
  simp only at h
  split at h
  next hp =>
    simp only [Option.some.injEq, Prod.mk.injEq] at h
    obtain ⟨-, rfl, rfl⟩ := h
    obtain ⟨t, rfl⟩ := List.isPrefixOf_iff_prefix.1 hp
    exact ⟨by simp, hne⟩
  next => simp at h

theorem append_of_readPattern? {cs text rest : List Char} {kind : Kind}
    (h : readPattern? cs = some (kind, text, rest)) : text ++ rest = '/' :: cs ∧ text ≠ [] := by
  obtain ⟨p, hp, hq⟩ := Option.map_eq_some_iff.1 h
  simp only [Prod.mk.injEq] at hq
  obtain ⟨-, rfl, rfl⟩ := hq
  simp [append_of_splitClose hp]

theorem append_of_readString? {quote : Char} {cs text rest : List Char} {kind : Kind}
    (h : readString? quote cs = some (kind, text, rest)) :
    text ++ rest = quote :: cs ∧ text ≠ [] := by
  obtain ⟨p, hp, hq⟩ := Option.map_eq_some_iff.1 h
  simp only [Prod.mk.injEq] at hq
  obtain ⟨-, rfl, rfl⟩ := hq
  simp [append_of_splitClose hp]

theorem append_of_readHost? {cs text rest : List Char} {kind : Kind}
    (h : readHost? cs = some (kind, text, rest)) : text ++ rest = '[' :: cs ∧ text ≠ [] := by
  cases cs with
  | nil => simp [readHost?] at h
  | cons c cs =>
    rw [readHost?] at h
    split at h
    next hc =>
      obtain ⟨p, hp, hq⟩ := Option.map_eq_some_iff.1 h
      simp only [Prod.mk.injEq] at hq
      obtain ⟨-, rfl, rfl⟩ := hq
      simp [hc, append_of_splitHost hp]
    next => simp at h

theorem append_of_readTag? {cs text rest : List Char} {kind : Kind}
    (h : readTag? cs = some (kind, text, rest)) : text ++ rest = '#' :: cs ∧ text ≠ [] := by
  simp only [readTag?] at h
  split at h
  next => simp at h
  next =>
    simp only [Option.some.injEq, Prod.mk.injEq] at h
    obtain ⟨-, rfl, rfl⟩ := h
    simp

/-- What was read and what is left make up the text, and something was read. -/
theorem append_of_readLexeme? {cs text rest : List Char} {kind : Kind}
    (h : readLexeme? cs = some (kind, text, rest)) : text ++ rest = cs ∧ text ≠ [] := by
  unfold readLexeme? at h
  split at h
  next h' => exact append_of_readOperator? (h'.trans h)
  next =>
    split at h
    next => simp at h
    next c cs =>
      split at h
      next hc => exact hc ▸ append_of_readHost? h
      next =>
        split at h
        next hc => exact hc ▸ append_of_readPattern? h
        next =>
          split at h
          next => exact append_of_readString? h
          next =>
            split at h
            next hc => exact hc ▸ append_of_readTag? h
            next =>
              split at h
              next =>
                simp only [readWord, Option.some.injEq, Prod.mk.injEq] at h
                obtain ⟨-, rfl, rfl⟩ := h
                simp
              next => simp at h

/-- The rest behind a lexeme is shorter than the text. -/
theorem length_lt_of_readLexeme? {cs text rest : List Char} {kind : Kind}
    (h : readLexeme? cs = some (kind, text, rest)) : rest.length < cs.length := by
  obtain ⟨rfl, hne⟩ := append_of_readLexeme? h
  have := List.length_pos_iff.2 hne
  rw [List.length_append]
  omega

end RuleLexer.Clause
