import RuleLexer.Proofs.Clause.Escape
import RuleLexer.Proofs.Clause.Reader
import RuleLexer.Value

/-!
# Quoted values

The value of a definition and a clause can both be written as a literal in quotes.  A clause reads a
text as one literal if the quote that begins it is closed at the end and not before
(`isOneLiteral_iff`).  The value of a definition only needs the same quote at both ends (`IsEnclosed`),
so that it is decoded also where a clause reads several literals or none.

`ofExpression_quoted` compares the two: they agree on what is one literal, and on what is not enclosed
in quotes.  A text that is enclosed without being one literal is decoded all the same, and loses its
quotes.
-/

namespace RuleLexer

open Text Clause

variable {c : Char} {cs body : List Char} {e expression v : String}

/-- The text is the inside with the same quote before and behind it. -/
def IsEnclosed (cs body : List Char) : Prop :=
  ∃ q, isQuote q = true ∧ cs = q :: (body ++ [q])

/-- A clause reads the text as one literal in quotes. -/
def IsOneLiteral (e v : String) : Prop :=
  ∃ t, HasTokens e [t] ∧ t.kind = .string ∧ t.value = v

/-- **The reader of values takes the inside of what is enclosed.** -/
theorem unquoted?_eq_some_iff : Value.unquoted? cs = some body ↔ IsEnclosed cs body := by
  constructor
  · intro h
    cases cs with
    | nil => cases h
    | cons q cs =>
      rw [Value.unquoted?, ← isQuote] at h
      split at h
      next henclosed =>
        obtain ⟨hq, hlast⟩ := (Bool.and_eq_true _ _).mp henclosed
        obtain rfl := Option.some.inj h
        refine ⟨q, hq, ?_⟩
        rw [List.dropLast_append_getLast? _ (beq_iff_eq.1 hlast)]
      next => cases h
  · rintro ⟨q, hq, rfl⟩
    rw [Value.unquoted?, ← isQuote, hq, List.getLast?_concat]
    simp

/-- A text that begins with a quote is no number. -/
theorem Decimal.read?_eq_none (hc : isQuote c = true) (hhead : e.toList.head? = some c) :
    Decimal.read? e = none := by
  obtain ⟨cs, hcs⟩ := List.head?_eq_some_iff.1 hhead
  have hword : ∀ {word : String}, word.toList.head? ≠ some c.toLower →
      String.ofList ((c :: cs).map Char.toLower) ≠ word := by
    rintro word hne rfl
    exact hne (by simp)
  have hsign : Decimal.splitSign (c :: cs) = (false, c :: cs) := by
    rcases isQuote_iff.1 hc with rfl | rfl | rfl <;> rfl
  have hliteral : Decimal.readLiteral? (c :: cs) = none := by
    rcases isQuote_iff.1 hc with rfl | rfl | rfl <;>
      simp [Decimal.readLiteral?, Decimal.digitRun]
  have hwords : ∀ word ∈ ["inf", "infinity", "nan"], word.toList.head? ≠ some c.toLower := by
    rcases isQuote_iff.1 hc with rfl | rfl | rfl <;> decide
  rw [Decimal.read?, hcs, hsign]
  dsimp only
  rw [if_neg (not_or.2 ⟨hword (hwords _ (by simp)), hword (hwords _ (by simp))⟩),
    if_neg (hword (hwords _ (by simp))), hliteral, Option.map_none]

/-- **The value of a text that begins with a quote**: its inside, decoded, if it is enclosed. -/
theorem ofExpression_of_quote (hc : isQuote c = true)
    (hhead : (trimmed expression).toList.head? = some c) :
    Value.ofExpression (some expression) =
      ((Value.unquoted? (trimmed expression).toList).map fun body =>
        .text (String.ofList (unescape body))).getD (.text (trimmed expression)) := by
  have hne : ∀ {word : String}, word.toList.head? ≠ some c → trimmed expression ≠ word := by
    rintro word hword rfl
    exact hword hhead
  have hwords : ∀ word ∈ ["true", "false"], word.toList.head? ≠ some c := by
    rcases isQuote_iff.1 hc with rfl | rfl | rfl <;> decide
  simp only [Value.ofExpression, if_neg (hne (hwords "true" (by simp))),
    if_neg (hne (hwords "false" (by simp))), Decimal.read?_eq_none hc hhead]
  cases Value.unquoted? (trimmed expression).toList <;> rfl

/-! ### Literals of clauses -/

/-- **Which texts without blanks around them a clause reads as one literal**: those of the grammar,
where the quote does not close before the end. -/
theorem isOneLiteral_iff (hstarts : StartsSolid e.toList) (hends : EndsSolid e.toList) :
    IsOneLiteral e v ↔ ∃ q body, isQuote q = true ∧ IsBody q true body ∧
      e.toList = q :: (body ++ [q]) ∧ v = String.ofList (unescape body) := by
  constructor
  · rintro ⟨t, htokens, hkind, rfl⟩
    generalize he : e.toList = cs at hstarts hends
    have hlexes := hasTokens_iff.1 htokens
    rw [he] at hlexes
    cases hlexes with
    | @cons _ gap text rest value kind ts hgap hlexeme hstops hrest =>
      obtain rfl : kind = .string := hkind
      cases hrest with
      | nil hblank =>
        obtain rfl := eq_nil_of_startsSolid hgap (hstarts.of_isPrefix (List.prefix_append _ _))
        obtain rfl := eq_nil_of_endsSolid hblank hends.of_append.of_append
        obtain ⟨q, body, hq, hbody, rfl, rfl⟩ := hlexeme.of_string
        exact ⟨q, body, hq, hbody, by simp, rfl⟩
  · rintro ⟨q, body, hq, hbody, he, rfl⟩
    refine ⟨⟨.string, String.ofList (unescape body), 0⟩, hasTokens_iff.2 ?_, rfl, rfl⟩
    have hlexeme : IsLexeme .string (unescape body) e.toList := he ▸ .string hq hbody
    have hend : Lexes (0 + byteLength e.toList) [] [] := .nil rfl
    have hlexes := hend.cons_lexeme hlexeme Kind.stopsBefore_nil
    rwa [List.append_nil] at hlexes

/-! ### Values and literals -/

theorem startsSolid_trimmed (expression : String) : StartsSolid (trimmed expression).toList := by
  rw [trimmed, String.toList_ofList]
  exact (startsSolid_trimStart _).of_isPrefix (dropEnd_isPrefix _ _)

theorem endsSolid_trimmed (expression : String) : EndsSolid (trimmed expression).toList := by
  rw [trimmed, String.toList_ofList]
  exact getLast?_dropEnd isBlank _

/-- Decoding the inside of a text never gives the text. -/
theorem unescape_ne_of_isEnclosed (h : IsEnclosed e.toList body) : String.ofList (unescape body) ≠ e := by
  rintro rfl
  obtain ⟨q, _, he⟩ := h
  have hle := (decodes_unescape body).length_le isTable_isEscapeOrShort
  have hlength := congrArg List.length he
  simp only [String.toList_ofList, List.length_cons, List.length_append, List.length_nil] at hlength
  omega

/-- **Values in quotes against literals of clauses.**  What a clause reads as one literal is the value
with the same text.  What it does not read so is its own value exactly if it is not enclosed in quotes;
if it is, then the value is its inside, decoded. -/
theorem ofExpression_quoted (hhead : ∃ c ∈ (trimmed expression).toList.head?, isQuote c = true) :
    (∀ v, IsOneLiteral (trimmed expression) v → Value.ofExpression (some expression) = .text v) ∧
    ((∀ v, ¬ IsOneLiteral (trimmed expression) v) →
      (Value.ofExpression (some expression) = .text (trimmed expression) ↔
        ∀ body, ¬ IsEnclosed (trimmed expression).toList body) ∧
      ∀ body, IsEnclosed (trimmed expression).toList body →
        Value.ofExpression (some expression) = .text (String.ofList (unescape body))) := by
  obtain ⟨c, hhead, hc⟩ := hhead
  have hvalue := ofExpression_of_quote hc hhead
  have henclosed : ∀ body, IsEnclosed (trimmed expression).toList body →
      Value.ofExpression (some expression) = .text (String.ofList (unescape body)) := by
    intro body hbody
    rw [hvalue, unquoted?_eq_some_iff.2 hbody, Option.map_some, Option.getD_some]
  refine ⟨fun v hv => ?_, fun _ => ⟨⟨fun htext body hbody => ?_, fun hnone => ?_⟩, henclosed⟩⟩
  · obtain ⟨q, body, hq, _, he, rfl⟩ :=
      (isOneLiteral_iff (startsSolid_trimmed _) (endsSolid_trimmed _)).1 hv
    exact henclosed body ⟨q, hq, he⟩
  · rw [henclosed body hbody] at htext
    exact unescape_ne_of_isEnclosed hbody (Value.text.inj htext)
  · have hunquoted : Value.unquoted? (trimmed expression).toList = none :=
      Option.eq_none_iff_forall_ne_some.2 fun body hbody => hnone body (unquoted?_eq_some_iff.1 hbody)
    rw [hvalue, hunquoted, Option.map_none, Option.getD_none]

/-- A literal with an escaped quote in it. -/
theorem ofExpression_quoted_escaped :
    (∃ c ∈ (trimmed " 'it\\'s' ").toList.head?, isQuote c = true) ∧
      IsOneLiteral (trimmed " 'it\\'s' ") "it's" ∧
      Value.ofExpression (some " 'it\\'s' ") = .text "it's" := by
  have hhead : ∃ c ∈ (trimmed " 'it\\'s' ").toList.head?, isQuote c = true :=
    ⟨'\'', by decide, by decide⟩
  have hliteral : IsOneLiteral (trimmed " 'it\\'s' ") "it's" :=
    ⟨⟨.string, "it's", 0⟩, by cbv, rfl, rfl⟩
  exact ⟨hhead, hliteral, (ofExpression_quoted hhead).1 _ hliteral⟩

/-- Two literals are enclosed in quotes, and lose the outer two. -/
theorem ofExpression_two_literals :
    HasTokens "'a' 'b'" [⟨.string, "a", 0⟩, ⟨.string, "b", 4⟩] ∧
      Value.ofExpression (some "'a' 'b'") = .text "a' 'b" ∧
      ¬ ∀ expression, (∃ c ∈ (trimmed expression).toList.head?, isQuote c = true) →
        (∀ v, ¬ IsOneLiteral (trimmed expression) v) →
        Value.ofExpression (some expression) = .text (trimmed expression) := by
  have hhead : (trimmed "'a' 'b'").toList.head? = some '\'' := by decide
  have htokens : HasTokens "'a' 'b'" [⟨.string, "a", 0⟩, ⟨.string, "b", 4⟩] := by cbv
  have hvalue : Value.ofExpression (some "'a' 'b'") = .text "a' 'b" := by
    rw [ofExpression_of_quote (by decide) hhead]
    cbv
  have htrimmed : trimmed "'a' 'b'" = "'a' 'b'" := by decide
  refine ⟨htokens, hvalue, fun hall => ?_⟩
  have heq := hall "'a' 'b'" ⟨_, hhead, by decide⟩ fun v hv => ?_
  · rw [hvalue, htrimmed] at heq
    exact absurd (Value.text.inj heq) (by decide)
  · obtain ⟨t, ht, _⟩ := hv
    rw [htrimmed] at ht
    exact absurd (congrArg List.length (ht.eq htokens)) (by simp)

end RuleLexer
