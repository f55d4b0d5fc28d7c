import RuleLexer.Proofs.Clause.Reader

/-!
# Words of a clause

The reader of specifications looks for keywords between blanks and does not know what a clause is made
of.  This is about what such a word is for the reader of clauses: if it consists of letters, **it is a
bare word of the clause or it stands in one of its literals** (`exists_of_infix_words`).  The other
lexemes have no blanks in them, and each has a character that is no letter.

Conversely the words in the middle of a literal have blanks around them in the clause also, as a
literal begins and ends with characters that are no letters (`IsLiteral`).
-/

namespace RuleLexer.Clause

open Text
open Form (isBlank_of_isWord)

variable {c : Char} {cs text rest value literal : List Char} {kind : Kind} {ks : List (List Char)}
  {before after : List (List Char)} {offset : Nat} {ts : List Token}

/-- Literals are the lexemes that may have blanks in them. -/
def Kind.isLiteral : Kind → Bool
  | pattern | string | hostExpression => true
  | _ => false

/-- The literals of a clause, as they are written. -/
def literals (cs : List Char) : List (List Char) :=
  match cs with
  | [] => []
  | c :: rest =>
    if isBlank c then literals rest
    else
      match _h : readLexeme? (c :: rest) with
      | none => []
      | some (kind, text, rest) =>
        if kind.isLiteral then text :: literals rest else literals rest
termination_by cs.length
decreasing_by
  · simp
  · exact length_lt_of_readLexeme? ‹_›
  · exact length_lt_of_readLexeme? ‹_›

/-! ### Lexemes -/

/-- How a literal is delimited: it begins with a sign, and behind the sign that closes it stand
letters only. -/
structure IsLiteral (text : List Char) : Prop where
  opens : ∃ d cs, text = d :: cs ∧ isBlank d = false ∧ d.isAlpha = false
  closes : ∃ cs d flags, text = cs ++ d :: flags ∧ isBlank d = false ∧ d.isAlpha = false ∧
    ∀ c ∈ flags, c.isAlpha = true

/-- What a lexeme consists of. -/
inductive Consists (kind : Kind) (text rest : List Char) : Prop
  /-- A number or a word, which goes on as far as it can. -/
  | word : kind.isWord = true → (∀ c ∈ text, Unicode.isWord c = true) →
      (∀ c ∈ rest.head?, Unicode.isWord c = false) → Consists kind text rest
  /-- An operator or a tag. -/
  | sign : kind.isLiteral = false → (∀ c ∈ text, isBlank c = false) →
      (∃ c ∈ text, c.isAlpha = false) → Consists kind text rest
  | literal : kind.isLiteral = true → IsLiteral text → Consists kind text rest

/-- An operator consists of signs. -/
theorem signs_of_operator? {op : String} (h : kind.operator? = some op) :
    kind.isLiteral = false ∧ op.toList.all (fun c => !isBlank c && !c.isAlpha) = true ∧
      op.toList ≠ [] := by
  cases kind <;> simp only [Kind.operator?, Option.some.injEq, reduceCtorEq] at h <;>
    subst h <;> decide

/-- **A lexeme is a bare word, or it has a sign in it.** -/
theorem IsLexeme.consists (h : IsLexeme kind value text) (hr : kind.StopsBefore rest) :
    Consists kind text rest := by
  cases h with
  | operator hop =>
    obtain ⟨hkind, hall, hne⟩ := signs_of_operator? hop
    simp only [List.all_eq_true, Bool.and_eq_true, Bool.not_eq_true'] at hall
    exact .sign hkind (fun c hc => (hall c hc).1)
      ⟨_, List.head_mem hne, (hall _ (List.head_mem hne)).2⟩
  | reservedWord hword htext =>
    have hkind : kind.isWord = true := wordKind_reservedWord hword htext ▸ isWord_wordKind text
    exact .word hkind (isWord_of_isName (isName_of_reservedWord hword htext))
      (hr.of_isWord (Kind.goesOn_of_isWord hkind))
  | identifier hname _ => exact .word rfl (isWord_of_isName hname) (hr.of_isWord fun _ => rfl)
  | number hc hcs =>
    have hfirst := isWord_of_isAlphanum (by rw [Char.isAlphanum, hc, Bool.or_true])
    exact .word rfl (List.forall_mem_cons.2 ⟨hfirst, hcs⟩) (hr.of_isWord fun _ => rfl)
  | @string quote body hquote _ =>
    have hsign : isBlank quote = false ∧ quote.isAlpha = false := by
      rcases isQuote_iff.1 hquote with rfl | rfl | rfl <;> decide
    exact .literal rfl ⟨⟨quote, _, rfl, hsign⟩,
      ⟨quote :: body, quote, [], rfl, hsign.1, hsign.2, by simp⟩⟩
  | @pattern body flags _ hflags =>
    exact .literal rfl ⟨⟨'/', _, rfl, rfl, rfl⟩, ⟨'/' :: body, '/', flags, rfl, rfl, rfl, hflags⟩⟩
  | tag _ hname =>
    exact .sign rfl (List.forall_mem_cons.2 ⟨rfl, fun c hc => isBlank_of_isWord (hname c hc)⟩)
      ⟨'#', List.mem_cons_self, rfl⟩
  | @hostExpression body _ =>
    exact .literal rfl ⟨⟨'[', _, rfl, rfl, rfl⟩,
      ⟨'[' :: '(' :: (body ++ [')']), ']', [], by simp, rfl, rfl, by simp⟩⟩

theorem consists_of_readLexeme? (h : readLexeme? cs = some (kind, text, rest)) :
    Consists kind text rest :=
  (isLexeme_of_readLexeme? h).1.consists (isLexeme_of_readLexeme? h).2

theorem valueOf_of_isWord (h : kind.isWord = true) : valueOf kind text = text := by
  cases kind <;> first | rfl | cases h

theorem isLiteral_of_isWord (h : kind.isWord = true) : kind.isLiteral = false := by
  cases kind <;> first | rfl | cases h

/-! ### Words that consist of letters -/

/-- The words consist of letters. -/
def AllLetters (ks : List (List Char)) : Prop :=
  ∀ k ∈ ks, ∀ c ∈ k, c.isAlpha = true

theorem AllLetters.not_mem (h : AllLetters ks) (hc : c.isAlpha = false) : ∀ k ∈ ks, c ∉ k := by
  intro k hk hmem
  exact Bool.false_ne_true (hc.symm.trans (h k hk c hmem))

/-- Behind a bare word, or with it. -/
theorem infix_words_of_word (hks : AllLetters ks) (hne : ks ≠ [])
    (htext : ∀ c ∈ text, Unicode.isWord c = true) (htext' : text ≠ [])
    (hrest : ∀ c ∈ rest.head?, Unicode.isWord c = false) (h : ks <:+: words (text ++ rest)) :
    ks.head? = some text ∨ ks <:+: words rest := by
  have hsolid : ∀ c ∈ text, isBlank c = false := fun c hc => isBlank_of_isWord (htext c hc)
  by_cases hstop : StopsWord rest
  · rw [words_append _ hstop, words_eq_singleton hsolid htext', List.singleton_append,
      List.infix_cons_iff] at h
    rcases h with hstart | h
    · obtain ⟨k, ks, rfl⟩ := List.exists_cons_of_ne_nil hne
      exact Or.inl (congrArg some (List.cons_prefix_cons.1 hstart).1)
    · exact Or.inr h
  · -- the word does not end at a blank, but at a sign
    cases rest with
    | nil => exact absurd stopsWord_nil hstop
    | cons d rest =>
      have hblank : isBlank d = false := by simpa using hstop
      have hsign : d.isAlpha = false := by
        by_contra halpha
        rw [Bool.not_eq_false] at halpha
        exact Bool.false_ne_true ((hrest d rfl).symm.trans (isWord_of_isAlpha halpha))
      have hpiece : ∀ c ∈ text ++ [d], isBlank c = false := by
        intro c hc
        rcases List.mem_append.1 hc with hc | hc
        · exact hsolid c hc
        · rwa [List.mem_singleton.1 hc]
      have hafter : afterWord (d :: rest) = afterWord rest :=
        List.dropWhile_cons_of_pos (by simp [hblank])
      rw [← List.singleton_append, ← List.append_assoc] at h
      have hbehind := infix_words_of_solid_append hpiece (by simp) (hks.not_mem hsign) hne h
      rw [← hafter] at hbehind
      exact Or.inr (hbehind.trans (words_afterWord_suffix _).isInfix)

theorem infix_words_of_sign (hks : AllLetters ks) (hne : ks ≠ [])
    (htext : ∀ c ∈ text, isBlank c = false) (hc : c ∈ text) (hsign : c.isAlpha = false)
    (h : ks <:+: words (text ++ rest)) : ks <:+: words rest :=
  (infix_words_of_solid_append htext hc (hks.not_mem hsign) hne h).trans
    (words_afterWord_suffix rest).isInfix

/-- A literal ends with a sign that no blank follows in it. -/
theorem IsLiteral.exists_end (h : IsLiteral text) : ∃ cs s d, text = cs ++ s ∧
    (∀ c ∈ s, isBlank c = false) ∧ d ∈ s ∧ d.isAlpha = false := by
  obtain ⟨cs, d, flags, rfl, hblank, hsign, hflags⟩ := h.closes
  refine ⟨cs, d :: flags, d, rfl, fun c hc => ?_, List.mem_cons_self, hsign⟩
  rcases List.mem_cons.1 hc with rfl | hc
  · exact hblank
  · exact isBlank_of_isWord (isWord_of_isAlpha (hflags c hc))

/-- Behind a literal, or inside it. -/
theorem infix_words_of_literal (hks : AllLetters ks) (htext : IsLiteral text)
    (h : ks <:+: words (text ++ rest)) : ks <:+: words text ∨ ks <:+: words rest := by
  obtain ⟨cs, s, d, rfl, hsolid, hd, hsign⟩ := htext.exists_end
  rw [List.append_assoc] at h
  exact infix_words_append_solid hsolid hd (hks.not_mem hsign) h

/-- **Words of a clause that consist of letters begin with a bare word or stand in a literal.** -/
theorem exists_of_infix_words (hread : readFrom offset cs = .ok ts) (hks : AllLetters ks)
    (hne : ks ≠ []) (h : ks <:+: words cs) :
    (∃ t ∈ ts, t.kind.isWord = true ∧ ks.head? = some t.value.toList) ∨
      ∃ literal ∈ literals cs, ks <:+: words literal := by
  fun_induction readFrom offset cs generalizing ts with
  | case1 => exact absurd (List.eq_nil_of_infix_nil h) hne
  | case2 offset c rest hblank ih =>
    have hwords : words (c :: rest) = words rest := words_append_cons [] rest hblank
    rw [hwords] at h
    rw [literals, if_pos hblank]
    exact ih hread h
  | case3 => simp at hread
  | case4 offset c cs hblank kind text rest hlexeme ih =>
    obtain ⟨hsplit, htext⟩ := append_of_readLexeme? hlexeme
    obtain ⟨ts, hts, rfl⟩ := exists_of_map_eq_ok hread
    -- behind the lexeme
    have hbehind : ks <:+: words rest →
        (∃ t ∈ ⟨kind, String.ofList (valueOf kind text), offset⟩ :: ts,
            t.kind.isWord = true ∧ ks.head? = some t.value.toList) ∨
          ∃ literal ∈ literals (c :: cs), ks <:+: words literal := by
      intro hrest
      rcases ih hts hrest with ⟨t, ht, hword⟩ | ⟨literal, hliteral, hwithin⟩
      · exact Or.inl ⟨t, List.mem_cons_of_mem _ ht, hword⟩
      · refine Or.inr ⟨literal, ?_, hwithin⟩
        rw [literals, if_neg hblank, hlexeme]
        dsimp only
        split
        · exact List.mem_cons_of_mem _ hliteral
        · exact hliteral
    rw [← hsplit] at h
    cases consists_of_readLexeme? hlexeme with
    | word hkind hword hrest =>
      rcases infix_words_of_word hks hne hword htext hrest h with hhead | hrest
      · refine Or.inl ⟨_, List.mem_cons_self, hkind, ?_⟩
        rw [hhead, valueOf_of_isWord hkind, String.toList_ofList]
      · exact hbehind hrest
    | sign _ hsolid hsign =>
      obtain ⟨d, hd, hsign⟩ := hsign
      exact hbehind (infix_words_of_sign hks hne hsolid hd hsign h)
    | literal hkind hliteral =>
      rcases infix_words_of_literal hks hliteral h with hwithin | hrest
      · refine Or.inr ⟨text, ?_, hwithin⟩
        rw [literals, if_neg hblank, hlexeme]
        dsimp only
        rw [if_pos hkind]
        exact List.mem_cons_self
      · exact hbehind hrest

/-! ### Literals in a clause -/

theorem isLiteral_of_mem_literals (h : literal ∈ literals cs) :
    IsLiteral literal ∧ literal <:+: cs := by
  fun_induction literals cs with
  | case1 => simp at h
  | case2 c rest hblank ih => exact ⟨(ih h).1, (ih h).2.trans (List.suffix_cons c rest).isInfix⟩
  | case3 => simp at h
  | case4 c cs hblank kind text rest hlexeme hkind ih =>
    obtain ⟨hsplit, _⟩ := append_of_readLexeme? hlexeme
    rw [← hsplit]
    rcases List.mem_cons.1 h with rfl | h
    · refine ⟨?_, (List.prefix_append _ _).isInfix⟩
      cases consists_of_readLexeme? hlexeme with
      | word hword _ _ => simp [isLiteral_of_isWord hword] at hkind
      | sign hsign _ _ => simp [hsign] at hkind
      | literal _ hliteral => exact hliteral
    · exact ⟨(ih h).1, (ih h).2.trans (List.suffix_append _ _).isInfix⟩
  | case5 c cs hblank kind text rest hlexeme hkind ih =>
    obtain ⟨hsplit, _⟩ := append_of_readLexeme? hlexeme
    rw [← hsplit]
    exact ⟨(ih h).1, (ih h).2.trans (List.suffix_append _ _).isInfix⟩

/-- Words that consist of letters are neither the first nor the last of a literal. -/
theorem IsLiteral.ne_nil_of_words (h : IsLiteral literal) (hks : AllLetters ks) (hne : ks ≠ [])
    (hwords : words literal = before ++ (ks ++ after)) : before ≠ [] ∧ after ≠ [] := by
  constructor
  · rintro rfl
    obtain ⟨d, cs, rfl, hblank, hsign⟩ := h.opens
    obtain ⟨k, ks, rfl⟩ := List.exists_cons_of_ne_nil hne
    have hfirst := words_solid_append (s := [d]) (by simpa using hblank) (by simp) cs
    rw [List.singleton_append, hwords] at hfirst
    obtain ⟨rfl, _⟩ := List.cons.inj hfirst
    exact hks.not_mem hsign _ List.mem_cons_self (by simp)
  · rintro rfl
    obtain ⟨cs, s, d, rfl, hsolid, hd, hsign⟩ := h.exists_end
    obtain ⟨x, s', rfl, hs', hx⟩ := exists_append_solid cs
    have hpiece : ∀ c ∈ s' ++ s, isBlank c = false := fun c hc =>
      (List.mem_append.1 hc).elim (hs' c) (hsolid c)
    have hpiece' : s' ++ s ≠ [] := by simp [List.ne_nil_of_mem hd]
    rw [List.append_assoc, hx, words_eq_singleton hpiece hpiece', List.append_nil] at hwords
    have hlast := congrArg List.getLast? hwords
    rw [List.getLast?_append, List.getLast?_append, List.getLast?_eq_some_getLast hne] at hlast
    simp only [List.getLast?_singleton, Option.some_or, Option.some.injEq] at hlast
    refine hks.not_mem hsign _ (List.getLast_mem hne) ?_
    rw [← hlast]
    exact List.mem_append_right s' hd

end RuleLexer.Clause
