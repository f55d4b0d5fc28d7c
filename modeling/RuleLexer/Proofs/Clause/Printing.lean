import RuleLexer.Proofs.Clause.Reader

/-!
# Clauses that are printed

`PrintedAs` says how a token of a clause may be written: operators as they are, reserved words in
any case, literals between their delimiters.  A clause `Prints` tokens if they are written one after
the other with blanks between them.  `read_prints` says that such a clause is read as these tokens,
each at the byte where it begins, and the end behind them.

What is written is a lexeme of the grammar (`PrintedAs.isLexeme`), and every lexeme stops before a
blank, so the clause consists of the lexemes that are written (`Prints.lexes`).
-/

namespace RuleLexer.Clause

open Text
open Form (IsName)

/-- How a token of a kind with a value is written. -/
inductive PrintedAs : Kind → List Char → List Char → Prop
  | operator {kind : Kind} {op : String} : kind.operator? = some op →
      PrintedAs kind op.toList op.toList
  | reservedWord {kind : Kind} {word : String} {text : List Char} :
      kind.reservedWord? = some word → text.map Char.toLower = word.toList →
      PrintedAs kind text text
  | identifier {text : List Char} : IsName text → ¬ IsReserved text →
      PrintedAs .identifier text text
  | number {c : Char} {cs : List Char} : c.isDigit = true → (∀ d ∈ cs, Unicode.isWord d = true) →
      PrintedAs .number (c :: cs) (c :: cs)
  | string {quote : Char} {value text : List Char} : isQuote quote = true →
      EscapedAs quote value text → PrintedAs .string value (quote :: (text ++ [quote]))
  | pattern {body flags : List Char} : IsPatternBody body → (∀ c ∈ flags, c.isAlpha = true) →
      PrintedAs .pattern ('/' :: (body ++ '/' :: flags)) ('/' :: (body ++ '/' :: flags))
  | tag {name : List Char} : name ≠ [] → (∀ c ∈ name, Unicode.isWord c = true) →
      PrintedAs .tag name ('#' :: name)
  | hostExpression {value pad padEnd : List Char} : '\n' ∉ value → ¬ [')', ']'] <:+: value →
      trim value = value → IsPadding pad → IsPadding padEnd →
      PrintedAs .hostExpression value ('[' :: '(' :: (pad ++ (value ++ (padEnd ++ [')', ']']))))

/-- The text, which begins `offset` bytes into a clause, is made of the tokens with blanks before,
between and behind them.  Between two tokens there is a blank. -/
inductive Prints : Nat → List Token → List Char → Prop
  | nil {offset : Nat} {gap : List Char} : gap.all isBlank = true → Prints offset [] gap
  | cons {offset : Nat} {gap text rest value : List Char} {kind : Kind} {ts : List Token} :
      gap.all isBlank = true → PrintedAs kind value text → StopsWord rest →
      Prints (offset + byteLength gap + byteLength text) ts rest →
      Prints offset (⟨kind, String.ofList value, offset + byteLength gap⟩ :: ts)
        (gap ++ (text ++ rest))

variable {c : Char} {rest text value : List Char} {kind : Kind} {offset : Nat}
  {ts : List Token}

/-- What is written is of the grammar. -/
theorem PrintedAs.isLexeme (h : PrintedAs kind value text) : IsLexeme kind value text := by
  cases h with
  | operator hop => exact .operator hop
  | reservedWord hword htext => exact .reservedWord hword htext
  | identifier hname hfree => exact .identifier hname hfree
  | number hc hcs => exact .number hc hcs
  | @string quote _ body hquote hbody =>
    have hlexeme := IsLexeme.string hquote (hbody.isBody hquote)
    rwa [unescape_escapedAs hbody] at hlexeme
  | pattern hbody hflags => exact .pattern hbody.isBody hflags
  | tag hne hname => exact .tag hne hname
  | @hostExpression _ pad padEnd hnewline hclose htrim hpad hpadEnd =>
    have hlexeme := IsLexeme.hostExpression (isExpression_padded ⟨hnewline, hclose⟩ hpad hpadEnd)
    rw [trim_append_blanks hpad.all_isBlank hpadEnd.all_isBlank, htrim] at hlexeme
    simpa using hlexeme

/-- No lexeme goes on with a blank. -/
theorem Kind.goesOn_eq_false_of_isBlank (h : isBlank c = true) : kind.goesOn c = false := by
  have hword : Unicode.isWord c = false := Unicode.isWord_of_isBlank h
  have hletter : c.isAlpha = false := by
    by_contra hletter
    rw [Bool.not_eq_false] at hletter
    exact Bool.false_ne_true ((Form.isBlank_of_isAlpha hletter).symm.trans h)
  cases kind with
  | pattern => exact hletter
  | lookBehind =>
    have hne : c ≠ '>' := by
      rintro rfl
      exact absurd h (by decide)
    simpa [goesOn] using hne
  | _ => simp [goesOn, hword]

theorem Kind.stopsBefore_of_stopsWord (h : StopsWord rest) : kind.StopsBefore rest :=
  fun c hc => Kind.goesOn_eq_false_of_isBlank (h c hc)

/-- A clause that is printed consists of the tokens. -/
theorem Prints.lexes (h : Prints offset ts text) : Lexes offset ts text := by
  induction h with
  | nil hgap => exact .nil hgap
  | cons hgap htext hr _ ih =>
    exact .cons hgap htext.isLexeme (Kind.stopsBefore_of_stopsWord hr) ih

/-- **The tokens that are printed are read**, each where it begins. -/
theorem readFrom_prints (h : Prints offset ts text) :
    readFrom offset text = .ok (ts ++ [⟨.eof, "EOF", offset + byteLength text⟩]) :=
  h.lexes.readFrom_eq

/-- **A clause that is printed is read back**: the tokens with their kinds and values, each at the
byte where it begins, and the end of the clause behind them. -/
theorem read_prints (h : Prints 0 ts text) :
    Clause.read (String.ofList text) = .ok (ts ++ [⟨.eof, "EOF", byteLength text⟩]) := by
  rw [Clause.read, String.toList_ofList, readFrom_prints h, Nat.zero_add]

/-- The clause `sKIP <-	<-> 'it\'s' [( a )  )] /\/x/gi || #t 1x`. -/
theorem read_prints_sample :
    Clause.read "sKIP <-\t<-> 'it\\'s' [( a )  )] /\\/x/gi || #t 1x " = .ok
      [⟨.skipWord, "sKIP", 0⟩, ⟨.lookBehind, "<-", 5⟩, ⟨.current, "<->", 8⟩, ⟨.string, "it's", 12⟩,
        ⟨.hostExpression, "a )", 20⟩, ⟨.pattern, "/\\/x/gi", 31⟩, ⟨.or, "||", 39⟩, ⟨.tag, "t", 42⟩,
        ⟨.number, "1x", 45⟩, ⟨.eof, "EOF", 48⟩] := by
  have hskip : PrintedAs .skipWord "sKIP".toList "sKIP".toList := .reservedWord rfl (by decide)
  have hbehind : PrintedAs .lookBehind "<-".toList "<-".toList := .operator rfl
  have hcurrent : PrintedAs .current "<->".toList "<->".toList := .operator rfl
  have hstring : PrintedAs .string "it's".toList
      ('\'' :: ("it's".toList.flatMap (escape '\'') ++ ['\''])) :=
    .string (by decide) (escapedAs_escape (by decide) _)
  have hhost : PrintedAs .hostExpression "a )".toList
      ('[' :: '(' :: (" ".toList ++ ("a )".toList ++ ("  ".toList ++ [')', ']'])))) :=
    .hostExpression (by decide) (by decide) (by decide) (by decide) (by decide)
  have hpattern : PrintedAs .pattern ('/' :: ("\\/x".toList ++ '/' :: "gi".toList))
      ('/' :: ("\\/x".toList ++ '/' :: "gi".toList)) :=
    .pattern (.escaped (by decide) (.plain (by decide) (by decide) (by decide) .nil))
      (List.all_eq_true.1 rfl)
  have hor : PrintedAs .or "||".toList "||".toList := .operator rfl
  have htag : PrintedAs .tag "t".toList ('#' :: "t".toList) := .tag (by decide) (List.all_eq_true.1 rfl)
  have hnumber : PrintedAs .number ('1' :: "x".toList) ('1' :: "x".toList) :=
    .number (by decide) (List.all_eq_true.1 rfl)
  have hblank : [' '].all isBlank = true := rfl
  have htab : ['\t'].all isBlank = true := rfl
  have hstops : ∀ cs, StopsWord (' ' :: cs) := fun _ => stopsWord_cons.2 rfl
  have hstops' : ∀ cs, StopsWord ('\t' :: cs) := fun _ => stopsWord_cons.2 rfl
  have hnone : ([] : List Char).all isBlank = true := rfl
  have hprints : Prints 0 _ _ := .cons hnone hskip (hstops _)
    (.cons hblank hbehind (hstops' _) (.cons htab hcurrent (hstops _)
      (.cons hblank hstring (hstops _) (.cons hblank hhost (hstops _)
        (.cons hblank hpattern (hstops _) (.cons hblank hor (hstops _)
          (.cons hblank htag (hstops _) (.cons hblank hnumber (hstops _) (.nil hblank)))))))))
  exact read_prints hprints

end RuleLexer.Clause
