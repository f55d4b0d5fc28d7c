import RuleLexer.Clause.Lexeme
import RuleLexer.Proofs.Text.Blank

/-!
# Literals in clauses

How the literals of clauses are written, and that the reader finds their ends and decodes them.

* String literals: `EscapedAs` says how a text may be written between quotes, `escape` is one way to
  do it, and `unescape_escapedAs` gets the text back.
* `IsBody` is what may stand in a string or between the slashes of a pattern.  The reader finds the
  end of the literal behind it (`splitClose_of_isBody`) and behind nothing else
  (`exists_isBody_of_splitClose`).
* Host expressions: `IsExpression` is what may stand between the brackets, with the same two lemmas
  about `splitHost`.  `trim_append_blanks` says that blanks around an expression do not count.
-/

namespace RuleLexer.Clause

open Text

variable {c e quote close : Char} {cs ds value text rest body pad padEnd : List Char}
  {multiLine : Bool}

/-! ### String literals -/

/-- How a text is written between two quotes: the quote and the backslash by an escape, every other
character as it is or by an escape. -/
inductive EscapedAs (quote : Char) : List Char → List Char → Prop
  | nil : EscapedAs quote [] []
  | plain {c : Char} {value text : List Char} : c ≠ quote → c ≠ '\\' →
      EscapedAs quote value text → EscapedAs quote (c :: value) (c :: text)
  | escape {c e : Char} {value text : List Char} : (e, c) ∈ plainEscapes →
      EscapedAs quote value text → EscapedAs quote (c :: value) ('\\' :: e :: text)
  | code {a b : Char} {high low : Nat} {value text : List Char} :
      hexValue? a = some high → hexValue? b = some low → EscapedAs quote value text →
      EscapedAs quote (Char.ofNat (16 * high + low) :: value) ('\\' :: 'x' :: a :: b :: text)

/-- A character between two quotes: backslash, quote and newline are escaped. -/
def escape (quote c : Char) : List Char :=
  if c = '\\' ∨ c = quote then ['\\', c]
  else if c = '\n' then ['\\', 'n']
  else [c]

theorem isQuote_iff : isQuote c = true ↔ c = '\'' ∨ c = '"' ∨ c = '\x60' := by
  rw [isQuote, Bool.or_eq_true, Bool.or_eq_true, beq_iff_eq, beq_iff_eq, beq_iff_eq, or_assoc]

theorem mem_plainEscapes_of_isQuote (h : isQuote c = true) : (c, c) ∈ plainEscapes := by
  rcases isQuote_iff.1 h with rfl | rfl | rfl <;> decide

/-- Every text can be written in any of the quotes. -/
theorem escapedAs_escape (hq : isQuote quote = true) (value : List Char) :
    EscapedAs quote value (value.flatMap (escape quote)) := by
  induction value with
  | nil => exact .nil
  | cons c value ih =>
    rw [List.flatMap_cons, escape]
    by_cases hc : c = '\\' ∨ c = quote
    · rw [if_pos hc]
      refine .escape ?_ ih
      rcases hc with rfl | rfl
      · decide
      · exact mem_plainEscapes_of_isQuote hq
    · rw [if_neg hc]
      rw [not_or] at hc
      by_cases hn : c = '\n'
      · rw [if_pos hn, hn]
        exact .escape (by decide) ih
      · rw [if_neg hn]
        exact .plain hc.2 hc.1 ih

/-- The escapes are told apart by their second character, which is no newline. -/
theorem lookup_plainEscapes : ∀ p ∈ plainEscapes,
    plainEscapes.lookup p.1 = some p.2 ∧ p.1 ≠ '\n' := by
  decide

theorem unescape_cons (hc : c ≠ '\\') : unescape (c :: cs) = c :: unescape cs := by
  rw [unescape.eq_def]
  exact if_pos (by simpa using hc)

/-- **What is escaped is read back.** -/
theorem unescape_escapedAs (h : EscapedAs quote value text) : unescape text = value := by
  induction h with
  | nil => rw [unescape]
  | plain _ hc _ ih => rw [unescape_cons hc, ih]
  | @escape c e value text he _ ih =>
    have hlookup : plainEscapes.lookup e = some c := (lookup_plainEscapes _ he).1
    rw [unescape.eq_def]
    simp [hlookup, ih]
  | @code a b high low value text ha hb _ ih =>
    have hlookup : plainEscapes.lookup 'x' = none := by decide
    rw [unescape.eq_def]
    simp [hlookup, ha, hb, ih]

/-- A hexadecimal digit is no sign that a literal could end at. -/
theorem ne_of_hexValue? {n : Nat} (h : hexValue? c = some n) (hq : isQuote quote = true) :
    c ≠ quote ∧ c ≠ '\\' := by
  have hnone : hexValue? '\\' = none := by decide
  have hquote : hexValue? quote = none := by
    rcases isQuote_iff.1 hq with rfl | rfl | rfl <;> decide
  constructor
  · rintro rfl
    simp [hquote] at h
  · rintro rfl
    simp [hnone] at h

theorem backslash_ne_quote (hq : isQuote quote = true) : '\\' ≠ quote := by
  rintro rfl
  exact absurd hq (by decide)

/-! ### The ends of strings and patterns -/

/-- What may stand in a literal before the sign that closes it: the sign only behind a backslash,
which takes any character with it but a newline, and newlines only if `multiLine`. -/
inductive IsBody (close : Char) (multiLine : Bool) : List Char → Prop
  | nil : IsBody close multiLine []
  | plain {c : Char} {cs : List Char} : c ≠ close → c ≠ '\\' → (c = '\n' → multiLine = true) →
      IsBody close multiLine cs → IsBody close multiLine (c :: cs)
  | escaped {e : Char} {cs : List Char} : e ≠ '\n' → IsBody close multiLine cs →
      IsBody close multiLine ('\\' :: e :: cs)

theorem IsBody.append (h : IsBody close multiLine cs) (hds : IsBody close multiLine ds) :
    IsBody close multiLine (cs ++ ds) := by
  induction h with
  | nil => exact hds
  | plain hclose hback hline _ ih => exact .plain hclose hback hline ih
  | escaped hnewline _ ih => exact .escaped hnewline ih

theorem IsBody.newline_notMem (h : IsBody close false cs) : '\n' ∉ cs := by
  induction h with
  | nil => exact List.not_mem_nil
  | plain _ _ hline _ ih =>
    rintro (_ | ⟨_, hmem⟩)
    · exact Bool.false_ne_true (hline rfl)
    · exact ih hmem
  | escaped hnewline _ ih =>
    rw [List.mem_cons, List.mem_cons, not_or, not_or]
    exact ⟨by decide, Ne.symm hnewline, ih⟩

theorem splitClose_close :
    splitClose close multiLine (close :: cs) = some ([close], cs) := by
  rw [splitClose.eq_def]
  exact if_pos rfl

theorem splitClose_cons (hclose : c ≠ close) (hc : c ≠ '\\')
    (hline : c = '\n' → multiLine = true) : splitClose close multiLine (c :: cs) =
      (splitClose close multiLine cs).map fun (text, rest) => (c :: text, rest) := by
  have hbroken : ¬ (c = '\n' ∧ multiLine = false) := fun h => by simp [hline h.1] at h
  rw [splitClose.eq_def]
  simp only [if_neg hclose, if_neg hc, if_neg hbroken]

theorem splitClose_backslash (hclose : '\\' ≠ close)
    (he : e ≠ '\n') : splitClose close multiLine ('\\' :: e :: cs) =
      (splitClose close multiLine cs).map fun (text, rest) => ('\\' :: e :: text, rest) := by
  rw [splitClose.eq_def]
  simp only [if_neg hclose, if_true, if_neg he]

/-- **A literal ends at the sign behind its body.** -/
theorem splitClose_of_isBody (hclose : '\\' ≠ close) (h : IsBody close multiLine body)
    (rest : List Char) :
    splitClose close multiLine (body ++ close :: rest) = some (body ++ [close], rest) := by
  induction h with
  | nil => rw [List.nil_append, splitClose_close, List.nil_append]
  | plain hne hback hline _ ih =>
    rw [List.cons_append, splitClose_cons hne hback hline, ih]
    rfl
  | escaped hnewline _ ih =>
    rw [List.cons_append, List.cons_append, splitClose_backslash hclose hnewline, ih]
    rfl

theorem exists_isBody_of_splitClose (h : splitClose close multiLine cs = some (text, rest)) :
    ∃ body, IsBody close multiLine body ∧ text = body ++ [close] ∧ cs = body ++ close :: rest := by
  fun_induction splitClose close multiLine cs generalizing text rest with
  | case1 | case3 | case4 | case6 => simp at h
  | case2 cs =>
    obtain ⟨rfl, rfl⟩ := Prod.mk.inj (Option.some.inj h)
    exact ⟨[], .nil, rfl, rfl⟩
  | case5 e cs hnewline _ ih =>
    obtain ⟨⟨text', rest'⟩, hsplit, heq⟩ := Option.map_eq_some_iff.1 h
    obtain ⟨rfl, rfl⟩ := Prod.mk.inj heq
    obtain ⟨body, hbody, rfl, rfl⟩ := ih hsplit
    exact ⟨_ :: _ :: body, .escaped hnewline hbody, rfl, rfl⟩
  | case7 c cs hclose hback hline ih =>
    obtain ⟨⟨text', rest'⟩, hsplit, heq⟩ := Option.map_eq_some_iff.1 h
    obtain ⟨rfl, rfl⟩ := Prod.mk.inj heq
    obtain ⟨body, hbody, rfl, rfl⟩ := ih hsplit
    have hline' : c = '\n' → multiLine = true := by
      intro hc
      cases multiLine with
      | true => rfl
      | false => exact absurd ⟨hc, rfl⟩ hline
    exact ⟨c :: body, .plain hclose hback hline' hbody, rfl, rfl⟩

/-- An escaped text stands between its quotes. -/
theorem EscapedAs.isBody (hq : isQuote quote = true) (h : EscapedAs quote value text) :
    IsBody quote true text := by
  induction h with
  | nil => exact .nil
  | plain hquote hc _ ih => exact .plain hquote hc (fun _ => rfl) ih
  | escape he _ ih => exact .escaped (lookup_plainEscapes _ he).2 ih
  | code ha hb _ ih =>
    obtain ⟨haquote, haslash⟩ := ne_of_hexValue? ha hq
    obtain ⟨hbquote, hbslash⟩ := ne_of_hexValue? hb hq
    exact .escaped (by decide)
      (.plain haquote haslash (fun _ => rfl) (.plain hbquote hbslash (fun _ => rfl) ih))

/-- What may stand between the slashes of a pattern: characters of one line, where a slash has a
backslash before it and every backslash takes a character with it. -/
inductive IsPatternBody : List Char → Prop
  | nil : IsPatternBody []
  | plain {c : Char} {cs : List Char} : c ≠ '/' → c ≠ '\\' → c ≠ '\n' → IsPatternBody cs →
      IsPatternBody (c :: cs)
  | escaped {c : Char} {cs : List Char} : c ≠ '\n' → IsPatternBody cs →
      IsPatternBody ('\\' :: c :: cs)

theorem IsPatternBody.isBody (h : IsPatternBody cs) : IsBody '/' false cs := by
  induction h with
  | nil => exact .nil
  | plain hslash hback hnewline _ ih => exact .plain hslash hback (absurd · hnewline) ih
  | escaped hnewline _ ih => exact .escaped hnewline ih

/-! ### Host expressions -/

/-- What may stand between the brackets of a host expression. -/
def IsExpression (cs : List Char) : Prop :=
  '\n' ∉ cs ∧ ¬ [')', ']'] <:+: cs

/-- A text without newlines and without `)]` is passed, provided no `)` at its end meets a `]`. -/
theorem splitHost_append (hnewline : '\n' ∉ cs)
    (hclose : ∀ before after, cs = before ++ ')' :: after → (after ++ rest).head? ≠ some ']') :
    splitHost (cs ++ rest) = (splitHost rest).map fun (text, rest) => (cs ++ text, rest) := by
  induction cs with
  | nil => simp
  | cons c cs ih =>
    rw [List.mem_cons, not_or] at hnewline
    have hc : ¬ (c = ')' ∧ (cs ++ rest).head? = some ']') := by
      rintro ⟨rfl, hhead⟩
      exact hclose [] cs rfl hhead
    have htail := ih hnewline.2 fun before after hsplit =>
      hclose (c :: before) after (by rw [hsplit, List.cons_append])
    rw [List.cons_append, splitHost, if_neg hc, if_neg (Ne.symm hnewline.1), htail, Option.map_map]
    rfl

/-- **A host expression ends at the first `)]`.** -/
theorem splitHost_of_isExpression (h : IsExpression body) (rest : List Char) :
    splitHost (body ++ ')' :: ']' :: rest) = some (body ++ [')', ']'], rest) := by
  have hbody : ∀ before after, body = before ++ ')' :: after →
      (after ++ ')' :: ']' :: rest).head? ≠ some ']' := by
    rintro before after rfl hhead
    cases after with
    | nil => simp at hhead
    | cons c cs =>
      obtain rfl := Option.some.inj hhead
      exact h.2 ⟨before, cs, by simp⟩
  rw [splitHost_append h.1 hbody, splitHost, if_pos ⟨rfl, rfl⟩]
  rfl

theorem exists_isExpression_of_splitHost (h : splitHost cs = some (text, rest)) :
    ∃ body, IsExpression body ∧ text = body ++ [')', ']'] ∧ cs = text ++ rest := by
  fun_induction splitHost cs generalizing text rest with
  | case1 | case3 => simp at h
  | case2 c cs hclose =>
    obtain ⟨rfl, rfl⟩ := Prod.mk.inj (Option.some.inj h)
    obtain ⟨rfl, hhead⟩ := hclose
    obtain ⟨cs, rfl⟩ := List.head?_eq_some_iff.1 hhead
    exact ⟨[], ⟨by simp, by simp⟩, rfl, rfl⟩
  | case4 c cs hclose hnewline ih =>
    obtain ⟨⟨text', rest'⟩, hsplit, heq⟩ := Option.map_eq_some_iff.1 h
    obtain ⟨rfl, rfl⟩ := Prod.mk.inj heq
    obtain ⟨body, ⟨hline, hinfix⟩, rfl, rfl⟩ := ih hsplit
    refine ⟨c :: body, ⟨?_, ?_⟩, rfl, rfl⟩
    · simp only [List.mem_cons, not_or]
      exact ⟨Ne.symm hnewline, hline⟩
    · rw [List.infix_cons_iff]
      rintro (hstart | hinfix')
      · -- the closing `)]` would stand here already
        obtain ⟨rfl, hmore⟩ := List.cons_prefix_cons.1 hstart
        obtain ⟨after, rfl⟩ := hmore
        exact hclose ⟨rfl, rfl⟩
      · exact hinfix hinfix'

/-- The padding of a host expression: blanks of one line. -/
def IsPadding (pad : List Char) : Prop :=
  ∀ c ∈ pad, isBlank c = true ∧ c ≠ '\n'

instance : Decidable (IsPadding pad) :=
  decidable_of_iff (pad.all (fun c => isBlank c && c != '\n') = true) (by simp [IsPadding])

/-- Two characters that stand together in `cs ++ ds`, the second of them not in `ds`. -/
theorem pair_infix_of_append {a b : Char} (hb : b ∉ ds) (h : [a, b] <:+: cs ++ ds) :
    [a, b] <:+: cs := by
  induction cs with
  | nil => exact absurd (h.mem (by simp)) hb
  | cons c cs ih =>
    rw [List.cons_append, List.infix_cons_iff] at h
    rcases h with hstart | hrest
    · obtain ⟨rfl, hnext⟩ := List.cons_prefix_cons.1 hstart
      cases cs with
      | nil => exact absurd (hnext.mem (by simp)) hb
      | cons d cs =>
        obtain ⟨rfl, _⟩ := List.cons_prefix_cons.1 hnext
        exact ⟨[], cs, rfl⟩
    · exact (ih hrest).trans (List.infix_cons (List.infix_refl cs))

/-- Padding belongs to an expression. -/
theorem isExpression_padded (h : IsExpression value) (hpad : IsPadding pad)
    (hpadEnd : IsPadding padEnd) : IsExpression (pad ++ (value ++ padEnd)) := by
  constructor
  · simp only [List.mem_append, not_or]
    exact ⟨fun hn => (hpad _ hn).2 rfl, h.1, fun hn => (hpadEnd _ hn).2 rfl⟩
  · intro hinfix
    have hparen : ')' ∉ pad.reverse := fun hn => absurd (hpad _ (List.mem_reverse.1 hn)).1 (by decide)
    have hbracket : ']' ∉ padEnd := fun hn => absurd (hpadEnd _ hn).1 (by decide)
    rw [← List.append_assoc] at hinfix
    have hfront := List.reverse_infix.2 (pair_infix_of_append hbracket hinfix)
    rw [List.reverse_append] at hfront
    exact h.2 (List.reverse_infix.1 (pair_infix_of_append hparen hfront))

/-- Blanks around a text do not change what trimming leaves. -/
theorem trim_append_blanks (hpad : pad.all isBlank = true) (hpadEnd : padEnd.all isBlank = true)
    (value : List Char) : trim (pad ++ (value ++ padEnd)) = trim value := by
  rw [trim, trimStart_append_of_blanks hpad]
  exact trim_append hpadEnd value

theorem IsPadding.all_isBlank (h : IsPadding pad) : pad.all isBlank = true :=
  List.all_eq_true.2 fun c hc => (h c hc).1

end RuleLexer.Clause
