import RuleLexer.Proofs.Clause.Literal
import RuleLexer.Proofs.Specification.Line

/-!
# The lexemes of clauses

`IsLexeme` is the grammar of clauses: it says which texts are lexemes of a kind and what their values
are.  Which of the lexemes that a text begins with is the one to take is said by the character behind
it alone: words, tags, the flags of patterns and `<-` go on as far as they can (`Kind.goesOn`).

The reader of lexemes is this grammar:

* `readLexeme?_eq_some_iff`: **it finds a lexeme exactly where the grammar has one that stops**;
* `readLexeme?_eq_none_iff`: it finds none exactly where no text of the grammar begins.

The half of this that goes from the grammar to the reader has one lemma for each form.  It says where
the reader stops, provided what follows does not go on.
-/

namespace RuleLexer.Clause

open Text
open Form (IsName isBlank_of_isWord)
open Unicode (isLower_toLower)

variable {c quote close : Char} {cs ds rest text value body flags : List Char} {kind : Kind}
  {multiLine : Bool}

/-! ### The grammar -/

/-- How an operator is written. -/
def Kind.operator? : Kind → Option String
  | and => some "&&"
  | or => some "||"
  | lookAhead => some "->"
  | lookBehind => some "<-"
  | current => some "<->"
  | semicolon => some ";"
  | _ => none

/-- How a reserved word is written in lower case. -/
def Kind.reservedWord? : Kind → Option String
  | continueWord => some "continue"
  | skipWord => some "skip"
  | tokenWord => some "token"
  | throwWord => some "throw"
  | joinWord => some "join"
  | _ => none

/-- The word is reserved, in whatever case it is written. -/
def IsReserved (text : List Char) : Prop :=
  ∃ kind word, Kind.reservedWord? kind = some word ∧ text.map Char.toLower = word.toList

/-- **The grammar of clauses**: the lexemes of a kind, with their values before them. -/
inductive IsLexeme : Kind → List Char → List Char → Prop
  | operator {kind : Kind} {op : String} : kind.operator? = some op →
      IsLexeme kind op.toList op.toList
  | reservedWord {kind : Kind} {word : String} {text : List Char} :
      kind.reservedWord? = some word → text.map Char.toLower = word.toList →
      IsLexeme kind text text
  | identifier {text : List Char} : IsName text → ¬ IsReserved text →
      IsLexeme .identifier text text
  | number {c : Char} {cs : List Char} : c.isDigit = true → (∀ d ∈ cs, Unicode.isWord d = true) →
      IsLexeme .number (c :: cs) (c :: cs)
  | string {quote : Char} {body : List Char} : isQuote quote = true → IsBody quote true body →
      IsLexeme .string (unescape body) (quote :: (body ++ [quote]))
  | pattern {body flags : List Char} : IsBody '/' false body → (∀ c ∈ flags, c.isAlpha = true) →
      IsLexeme .pattern ('/' :: (body ++ '/' :: flags)) ('/' :: (body ++ '/' :: flags))
  | tag {name : List Char} : name ≠ [] → (∀ c ∈ name, Unicode.isWord c = true) →
      IsLexeme .tag name ('#' :: name)
  | hostExpression {body : List Char} : IsExpression body →
      IsLexeme .hostExpression (trim body) ('[' :: '(' :: (body ++ [')', ']']))

/-- Whether a lexeme of the kind takes the character with it that follows. -/
def Kind.goesOn (kind : Kind) (c : Char) : Bool :=
  match kind with
  | pattern => c.isAlpha
  | lookBehind => c == '>'
  | tag => Unicode.isWord c
  | kind => kind.isWord && Unicode.isWord c

/-- A lexeme of the kind stops before the text. -/
def Kind.StopsBefore (kind : Kind) (rest : List Char) : Prop :=
  ∀ c ∈ rest.head?, kind.goesOn c = false

@[simp] theorem Kind.stopsBefore_nil : kind.StopsBefore [] := fun _ h => by simp at h

@[simp] theorem Kind.stopsBefore_cons : kind.StopsBefore (c :: cs) ↔ kind.goesOn c = false := by
  simp [StopsBefore]

theorem Kind.stopsBefore_of_goesOn (h : ∀ c, kind.goesOn c = false) : kind.StopsBefore rest :=
  fun c _ => h c

theorem Kind.goesOn_of_isWord (h : kind.isWord = true) (c : Char) :
    kind.goesOn c = Unicode.isWord c := by
  cases kind <;> first | rfl | cases h

/-- What stops at a blank stops before everything that a word stops before. -/
theorem Kind.StopsBefore.of_isWord (h : kind.StopsBefore rest)
    (hkind : ∀ c, kind.goesOn c = Unicode.isWord c) : ∀ c ∈ rest.head?, Unicode.isWord c = false :=
  fun c hc => (hkind c).symm.trans (h c hc)

/-- The value of a lexeme is what the reader makes of its text. -/
theorem IsLexeme.valueOf_eq (h : IsLexeme kind value text) : valueOf kind text = value := by
  cases h with
  | operator hop =>
    cases kind <;> simp only [Kind.operator?, reduceCtorEq] at hop <;> rfl
  | reservedWord hword _ =>
    cases kind <;> simp only [Kind.reservedWord?, reduceCtorEq] at hword <;> rfl
  | identifier | number | pattern | tag => rfl
  | string => rw [valueOf, List.drop_one, List.tail_cons, List.dropLast_concat]
  | @hostExpression body _ =>
    have hinside : (body ++ [')', ']']).dropLast.dropLast = body := by
      rw [show body ++ [')', ']'] = body ++ [')'] ++ [']'] by simp, List.dropLast_concat,
        List.dropLast_concat]
    rw [valueOf, List.drop_succ_cons, List.drop_succ_cons, List.drop_zero, hinside]

theorem IsLexeme.decoded (h : IsLexeme kind value text) : IsLexeme kind (valueOf kind text) text :=
  h.valueOf_eq.symm ▸ h

/-- No lexeme marks the end of the clause. -/
theorem IsLexeme.kind_ne_eof (h : IsLexeme kind value text) : kind ≠ .eof := by
  cases h with
  | operator hop => rintro rfl; cases hop
  | reservedWord hword _ => rintro rfl; cases hword
  | identifier | number | string | pattern | tag | hostExpression => exact Kind.noConfusion

/-! ### What is read is of the grammar -/

theorem not_goesOn_of_operator? {op : String} (h : kind.operator? = some op)
    (hkind : kind ≠ .lookBehind) (c : Char) : kind.goesOn c = false := by
  cases kind <;> first | rfl | exact absurd rfl hkind | cases h

theorem isLexeme_of_readOperator? (h : readOperator? cs = some (kind, text, rest)) :
    IsLexeme kind (valueOf kind text) text ∧ kind.StopsBefore rest := by
  have hoperators : ∀ e ∈ operators, e.2.operator?.map String.toList = some e.1 := by decide
  obtain ⟨⟨op, k⟩, hmem, hk⟩ := List.exists_of_findSome?_eq_some h
  simp only at hk
  split at hk
  next hstarts =>
    simp only [Option.some.injEq, Prod.mk.injEq] at hk
    obtain ⟨rfl, rfl, hrest⟩ := hk
    obtain ⟨word, hword, hop⟩ := Option.map_eq_some_iff.1 (hoperators _ hmem)
    obtain rfl : word.toList = op := hop
    refine ⟨(IsLexeme.operator hword).decoded, ?_⟩
    by_cases hbehind : k = .lookBehind
    · -- `<->` is looked for before `<-`
      subst hbehind
      obtain rfl : "<-" = word := Option.some.inj hword
      intro c hc
      by_contra hgoes
      obtain rfl : c = '>' := by simpa [Kind.goesOn] using hgoes
      obtain ⟨ds, rfl⟩ := List.head?_eq_some_iff.1 hc
      obtain ⟨t, rfl⟩ := List.isPrefixOf_iff_prefix.1 hstarts
      rw [List.drop_left] at hrest
      simp [hrest, readOperator?, operators] at h
    · exact Kind.stopsBefore_of_goesOn (not_goesOn_of_operator? hword hbehind)
  next => simp at hk

theorem isLexeme_of_readHost? (h : readHost? cs = some (kind, text, rest)) :
    IsLexeme kind (valueOf kind text) text ∧ kind.StopsBefore rest := by
  cases cs with
  | nil => simp [readHost?] at h
  | cons c cs =>
    rw [readHost?] at h
    split at h
    next =>
      obtain ⟨⟨text', rest'⟩, hsplit, heq⟩ := Option.map_eq_some_iff.1 h
      simp only [Prod.mk.injEq] at heq
      obtain ⟨rfl, rfl, rfl⟩ := heq
      obtain ⟨body, hbody, rfl, _⟩ := exists_isExpression_of_splitHost hsplit
      exact ⟨(IsLexeme.hostExpression hbody).decoded, Kind.stopsBefore_of_goesOn fun _ => rfl⟩
    next => simp at h

theorem isLexeme_of_readPattern? (h : readPattern? cs = some (kind, text, rest)) :
    IsLexeme kind (valueOf kind text) text ∧ kind.StopsBefore rest := by
  obtain ⟨⟨text', rest'⟩, hsplit, heq⟩ := Option.map_eq_some_iff.1 h
  simp only [Prod.mk.injEq] at heq
  obtain ⟨rfl, rfl, rfl⟩ := heq
  obtain ⟨body, hbody, rfl, _⟩ := exists_isBody_of_splitClose hsplit
  have hflags : ∀ c ∈ rest'.takeWhile Char.isAlpha, c.isAlpha = true :=
    fun c hc => List.mem_takeWhile_imp hc
  have hlexeme := IsLexeme.pattern hbody hflags
  refine ⟨?_, head?_dropWhile_eq_false _ _⟩
  rw [List.append_cons, ← List.cons_append] at hlexeme
  exact hlexeme

theorem isLexeme_of_readString? (hquote : isQuote quote = true)
    (h : readString? quote cs = some (kind, text, rest)) :
    IsLexeme kind (valueOf kind text) text ∧ kind.StopsBefore rest := by
  obtain ⟨⟨text', rest'⟩, hsplit, heq⟩ := Option.map_eq_some_iff.1 h
  simp only [Prod.mk.injEq] at heq
  obtain ⟨rfl, rfl, rfl⟩ := heq
  obtain ⟨body, hbody, rfl, _⟩ := exists_isBody_of_splitClose hsplit
  exact ⟨(IsLexeme.string hquote hbody).decoded, Kind.stopsBefore_of_goesOn fun _ => rfl⟩

theorem isLexeme_of_readTag? (h : readTag? cs = some (kind, text, rest)) :
    IsLexeme kind (valueOf kind text) text ∧ kind.StopsBefore rest := by
  simp only [readTag?] at h
  split at h
  next => simp at h
  next hne =>
    simp only [Option.some.injEq, Prod.mk.injEq] at h
    obtain ⟨rfl, rfl, rfl⟩ := h
    exact ⟨.tag hne fun c hc => List.mem_takeWhile_imp hc, head?_dropWhile_eq_false _ _⟩

/-- The reader has every reserved word in its list. -/
theorem mem_reservedWords {word : String} (h : kind.reservedWord? = some word) :
    (word.toList, kind) ∈ reservedWords := by
  cases kind <;> simp only [Kind.reservedWord?, Option.some.injEq, reduceCtorEq] at h <;>
    subst h <;> decide

theorem wordKind_eq_or (word : List Char) :
    (∃ w, (wordKind word).reservedWord? = some w ∧ word.map Char.toLower = w.toList) ∨
      wordKind word = .identifier ∧ ¬ IsReserved word := by
  have hreserved : ∀ e ∈ reservedWords, e.2.reservedWord? = some (String.ofList e.1) := by decide
  rw [wordKind]
  cases hlookup : reservedWords.lookup (word.map Char.toLower) with
  | some k =>
    obtain ⟨before, after, hsplit, _⟩ := List.lookup_eq_some_iff.1 hlookup
    refine Or.inl ⟨_, hreserved (word.map Char.toLower, k) (by rw [hsplit]; simp), ?_⟩
    rw [String.toList_ofList]
  | none =>
    refine Or.inr ⟨rfl, ?_⟩
    rintro ⟨kind, w, hw, hspelled⟩
    have hmem := mem_reservedWords hw
    rw [← hspelled] at hmem
    have hne := List.lookup_eq_none_iff.1 hlookup _ hmem
    simp at hne

/-- A name is reserved or an identifier. -/
theorem isLexeme_of_isName (h : IsName text) : IsLexeme (wordKind text) text text := by
  rcases wordKind_eq_or text with ⟨w, hw, hspelled⟩ | ⟨hkind, hfree⟩
  · exact .reservedWord hw hspelled
  · rw [hkind]
    exact .identifier h hfree

theorem isWord_wordKind (word : List Char) : (wordKind word).isWord = true := by
  rcases wordKind_eq_or word with ⟨w, hw, _⟩ | ⟨hkind, _⟩
  · cases hkind : wordKind word <;> simp [hkind, Kind.reservedWord?] at hw <;> rfl
  · rw [hkind]
    rfl

theorem isLexeme_of_readWord (hc : (c.isDigit || c.isAlpha || c == '_') = true)
    (h : readWord c cs = (kind, text, rest)) :
    IsLexeme kind (valueOf kind text) text ∧ kind.StopsBefore rest := by
  have htake : ∀ d ∈ cs.takeWhile Unicode.isWord, Unicode.isWord d = true :=
    fun d hd => List.mem_takeWhile_imp hd
  simp only [readWord, Prod.mk.injEq] at h
  obtain ⟨rfl, rfl, rfl⟩ := h
  by_cases hdigit : c.isDigit = true
  · rw [if_pos hdigit]
    exact ⟨.number hdigit htake, head?_dropWhile_eq_false _ _⟩
  · rw [if_neg hdigit]
    have hname : IsName (c :: cs.takeWhile Unicode.isWord) :=
      ⟨c, _, rfl, by simpa [hdigit] using hc, htake⟩
    refine ⟨(isLexeme_of_isName hname).decoded, fun d hd => ?_⟩
    rw [Kind.goesOn_of_isWord (isWord_wordKind _)]
    exact head?_dropWhile_eq_false _ _ d hd

/-- **The lexeme that is read is one of the grammar, and it stops.** -/
theorem isLexeme_of_readLexeme? (h : readLexeme? cs = some (kind, text, rest)) :
    IsLexeme kind (valueOf kind text) text ∧ kind.StopsBefore rest := by
  unfold readLexeme? at h
  split at h
  next hop => exact isLexeme_of_readOperator? (hop.trans h)
  next =>
    split at h
    next => simp at h
    next =>
      split at h
      next => exact isLexeme_of_readHost? h
      next =>
        split at h
        next => exact isLexeme_of_readPattern? h
        next =>
          split at h
          next hquote => exact isLexeme_of_readString? hquote h
          next =>
            split at h
            next => exact isLexeme_of_readTag? h
            next =>
              split at h
              next hc => exact isLexeme_of_readWord hc (Option.some.inj h)
              next => simp at h

/-! ### What is of the grammar is read -/

theorem readOperator?_operator {op : String} (h : kind.operator? = some op)
    (hr : kind.StopsBefore rest) :
    readOperator? (op.toList ++ rest) = some (kind, op.toList, rest) := by
  cases kind <;> simp only [Kind.operator?, Option.some.injEq, reduceCtorEq] at h <;> subst h
  case lookBehind =>
    cases rest with
    | nil => rfl
    | cons d ds =>
      have hd : ¬ '>' = d := by
        rintro rfl
        exact absurd (Kind.stopsBefore_cons.1 hr) (by decide)
      simp [readOperator?, operators, hd]
  all_goals simp [readOperator?, operators]

/-- No operator begins with another sign. -/
theorem readOperator?_eq_none (hc : c ∉ ['<', '-', '&', '|', ';']) :
    readOperator? (c :: cs) = none := by
  simp only [List.mem_cons, List.not_mem_nil, or_false, not_or] at hc
  obtain ⟨h1, h2, h3, h4, h5⟩ := hc
  simp [readOperator?, operators, Ne.symm h1, Ne.symm h2, Ne.symm h3, Ne.symm h4, Ne.symm h5]

/-- The signs that no word begins with. -/
def signs : List Char :=
  ['<', '-', '&', '|', ';', '[', '/', '\'', '"', '\x60', '#']

theorem not_mem_signs (h : (c.isDigit || c.isAlpha || c == '_') = true) : c ∉ signs := by
  have hsigns : signs.all (fun d => !(d.isDigit || d.isAlpha || d == '_')) = true := by decide
  intro hc
  have hnot := List.all_eq_true.1 hsigns c hc
  rw [h] at hnot
  exact Bool.false_ne_true hnot

theorem readLexeme?_word (hc : (c.isDigit || c.isAlpha || c == '_') = true)
    (hcs : ∀ d ∈ cs, Unicode.isWord d = true) (hr : ∀ d ∈ rest.head?, Unicode.isWord d = false) :
    readLexeme? (c :: cs ++ rest) =
      some (if c.isDigit then .number else wordKind (c :: cs), c :: cs, rest) := by
  have hsigns := not_mem_signs hc
  obtain ⟨htake, hdrop⟩ := takeWhile_append_of_head? hcs hr
  have hop : readOperator? (c :: (cs ++ rest)) = none :=
    readOperator?_eq_none fun h => hsigns (by simp only [signs, List.mem_cons] at h ⊢; tauto)
  simp only [signs, List.mem_cons, List.not_mem_nil, or_false, not_or] at hsigns
  simp only [List.cons_append, readLexeme?, hop, isQuote]
  simp only [hsigns, hc, if_true, readWord, htake, hdrop, Bool.or_eq_true, beq_iff_eq, if_false,
    or_self]

theorem isWord_of_isAlphanum (h : c.isAlphanum = true) : Unicode.isWord c = true := by
  have hascii : c.toNat < 128 := by
    rw [Char.isAlphanum, Char.isAlpha, Char.isDigit, Bool.or_eq_true, Bool.or_eq_true,
      Unicode.isLower_iff, Unicode.isUpper_iff, Bool.and_eq_true, decide_eq_true_eq,
      decide_eq_true_eq] at h
    rcases h with h | ⟨_, h⟩
    · omega
    · exact Nat.lt_of_le_of_lt h (by decide)
  rw [Unicode.isWord, if_pos hascii, h, Bool.true_or]

theorem isWord_of_isAlpha (h : c.isAlpha = true) : Unicode.isWord c = true :=
  isWord_of_isAlphanum (by rw [Char.isAlphanum, h, Bool.true_or])

theorem isWord_of_isName (h : IsName text) : ∀ c ∈ text, Unicode.isWord c = true := by
  obtain ⟨c, cs, rfl, hc, hcs⟩ := h
  refine List.forall_mem_cons.2 ⟨?_, hcs⟩
  rcases hc with hc | rfl
  · exact isWord_of_isAlpha hc
  · rfl

theorem isDigit_eq_false (h : c.isAlpha = true ∨ c = '_') : c.isDigit = false := by
  rcases h with h | rfl
  · rw [Char.isAlpha, Bool.or_eq_true, Unicode.isLower_iff, Unicode.isUpper_iff] at h
    rw [Bool.eq_false_iff]
    intro hdigit
    have hle : c.toNat ≤ 57 := by
      rw [Char.isDigit, Bool.and_eq_true, decide_eq_true_eq, decide_eq_true_eq] at hdigit
      exact hdigit.2
    omega
  · rfl

/-- A word that does not begin with a digit. -/
theorem readLexeme?_of_isName (h : IsName text) (hr : ∀ c ∈ rest.head?, Unicode.isWord c = false) :
    readLexeme? (text ++ rest) = some (wordKind text, text, rest) := by
  obtain ⟨c, cs, rfl, hc, hcs⟩ := h
  have hfirst : (c.isDigit || c.isAlpha || c == '_') = true := by
    rcases hc with hc | rfl
    · rw [hc, Bool.or_true, Bool.true_or]
    · rfl
  rw [readLexeme?_word hfirst hcs hr, isDigit_eq_false hc, if_neg Bool.false_ne_true]

theorem isName_of_reservedWord {word : String} (h : kind.reservedWord? = some word)
    (htext : text.map Char.toLower = word.toList) : IsName text := by
  have hlower : ∀ e ∈ reservedWords, e.1 ≠ [] ∧ e.1.all Char.isLower = true := by decide
  obtain ⟨hne, hword⟩ := hlower _ (mem_reservedWords h)
  have halpha : ∀ c ∈ text, c.isAlpha = true := by
    intro c hc
    rw [← isLower_toLower]
    exact List.all_eq_true.1 hword _ (htext ▸ List.mem_map_of_mem hc)
  cases text with
  | nil => exact absurd htext.symm hne
  | cons c cs =>
    exact ⟨c, cs, rfl, Or.inl (halpha c List.mem_cons_self), fun d hd =>
      isWord_of_isAlphanum (by rw [Char.isAlphanum, halpha d (List.mem_cons_of_mem _ hd)]; rfl)⟩

theorem wordKind_reservedWord {word : String} (h : kind.reservedWord? = some word)
    (htext : text.map Char.toLower = word.toList) : wordKind text = kind := by
  have hlookup : ∀ e ∈ reservedWords, reservedWords.lookup e.1 = some e.2 := by decide
  rw [wordKind, htext, hlookup _ (mem_reservedWords h)]
  rfl

theorem wordKind_identifier (h : ¬ IsReserved text) : wordKind text = .identifier := by
  rcases wordKind_eq_or text with ⟨w, hw, hspelled⟩ | ⟨hkind, _⟩
  · exact absurd ⟨_, w, hw, hspelled⟩ h
  · exact hkind

theorem readLexeme?_string (hquote : isQuote quote = true) (h : IsBody quote true body)
    (rest : List Char) :
    readLexeme? (quote :: (body ++ quote :: rest))
      = some (.string, quote :: (body ++ [quote]), rest) := by
  obtain ⟨hop, hbracket, hslash⟩ :
      quote ∉ ['<', '-', '&', '|', ';'] ∧ quote ≠ '[' ∧ quote ≠ '/' := by
    rcases isQuote_iff.1 hquote with rfl | rfl | rfl <;> decide
  simp only [readLexeme?, readOperator?_eq_none hop, if_neg hbracket, if_neg hslash, if_pos hquote,
    readString?, splitClose_of_isBody (backslash_ne_quote hquote) h, Option.map_some]

theorem readLexeme?_pattern (hbody : IsBody '/' false body) (hflags : ∀ c ∈ flags, c.isAlpha = true)
    (hr : ∀ c ∈ rest.head?, c.isAlpha = false) :
    readLexeme? ('/' :: (body ++ '/' :: (flags ++ rest)))
      = some (.pattern, '/' :: (body ++ '/' :: flags), rest) := by
  have hop : readOperator? ('/' :: (body ++ '/' :: (flags ++ rest))) = none :=
    readOperator?_eq_none (by decide)
  have hbracket : '/' ≠ '[' := by decide
  obtain ⟨htake, hdrop⟩ := takeWhile_append_of_head? hflags hr
  simp only [readLexeme?, hop, if_neg hbracket, if_true, readPattern?,
    splitClose_of_isBody (by decide) hbody, Option.map_some, htake, hdrop, List.append_assoc,
    List.cons_append, List.nil_append]

theorem readLexeme?_tag (hne : text ≠ []) (h : ∀ c ∈ text, Unicode.isWord c = true)
    (hr : ∀ c ∈ rest.head?, Unicode.isWord c = false) :
    readLexeme? ('#' :: (text ++ rest)) = some (.tag, '#' :: text, rest) := by
  have hop : readOperator? ('#' :: (text ++ rest)) = none := readOperator?_eq_none (by decide)
  have hbracket : '#' ≠ '[' := by decide
  have hslash : '#' ≠ '/' := by decide
  have hquote : ¬ isQuote '#' = true := by decide
  obtain ⟨htake, hdrop⟩ := takeWhile_append_of_head? h hr
  simp only [readLexeme?, hop, if_neg hbracket, if_neg hslash, if_neg hquote, if_true, readTag?,
    htake, hdrop, if_neg hne]

theorem readLexeme?_hostExpression (h : IsExpression body) (rest : List Char) :
    readLexeme? ('[' :: '(' :: (body ++ ')' :: ']' :: rest))
      = some (.hostExpression, '[' :: '(' :: (body ++ [')', ']']), rest) := by
  have hop : readOperator? ('[' :: '(' :: (body ++ ')' :: ']' :: rest)) = none :=
    readOperator?_eq_none (by decide)
  simp only [readLexeme?, hop, if_true, readHost?, splitHost_of_isExpression h rest,
    Option.map_some]

/-- **A lexeme of the grammar is read where it stops.** -/
theorem readLexeme?_of_isLexeme (h : IsLexeme kind value text) (hr : kind.StopsBefore rest) :
    readLexeme? (text ++ rest) = some (kind, text, rest) := by
  cases h with
  | operator hop => simp only [readLexeme?, readOperator?_operator hop hr]
  | reservedWord hword htext =>
    have hkind := wordKind_reservedWord hword htext
    have hisWord : kind.isWord = true := hkind ▸ isWord_wordKind text
    rw [readLexeme?_of_isName (isName_of_reservedWord hword htext)
      (hr.of_isWord (Kind.goesOn_of_isWord hisWord)), hkind]
  | identifier hname hfree =>
    rw [readLexeme?_of_isName hname (hr.of_isWord fun _ => rfl), wordKind_identifier hfree]
  | number hc hcs =>
    rw [readLexeme?_word (by rw [hc]; rfl) hcs (hr.of_isWord fun _ => rfl), hc, if_pos rfl]
  | string hquote hbody =>
    rw [List.cons_append, List.append_assoc, List.singleton_append]
    exact readLexeme?_string hquote hbody rest
  | pattern hbody hflags =>
    rw [List.cons_append, List.append_assoc, List.cons_append]
    exact readLexeme?_pattern hbody hflags hr
  | tag hne hname => exact readLexeme?_tag hne hname hr
  | hostExpression hbody =>
    simp only [List.cons_append, List.append_assoc, List.nil_append]
    exact readLexeme?_hostExpression hbody rest

/-- **The reader finds the lexemes of the grammar that stop.** -/
theorem readLexeme?_eq_some_iff : readLexeme? cs = some (kind, text, rest) ↔
    cs = text ++ rest ∧ IsLexeme kind (valueOf kind text) text ∧ kind.StopsBefore rest := by
  constructor
  · intro h
    exact ⟨(append_of_readLexeme? h).1.symm, isLexeme_of_readLexeme? h⟩
  · rintro ⟨rfl, hlexeme, hr⟩
    exact readLexeme?_of_isLexeme hlexeme hr

/-- The text goes on to a lexeme that stops in `rest`. -/
def StopsIn (text rest : List Char) : Prop :=
  ∃ kind value more rest', rest = more ++ rest' ∧ IsLexeme kind value (text ++ more) ∧
    kind.StopsBefore rest'

theorem IsLexeme.stopsIn_of_stopsBefore (h : IsLexeme kind value text)
    (hr : kind.StopsBefore rest) : StopsIn text rest :=
  ⟨kind, value, [], rest, rfl, by rwa [List.append_nil], hr⟩

/-- A lexeme stops behind all that goes on. -/
theorem IsLexeme.stopsIn_of_takeWhile {p : Char → Bool}
    (h : IsLexeme kind value (text ++ rest.takeWhile p)) (hkind : ∀ c, kind.goesOn c = p c) :
    StopsIn text rest :=
  ⟨kind, value, rest.takeWhile p, rest.dropWhile p, List.takeWhile_append_dropWhile.symm, h,
    fun c hc => (hkind c).trans (head?_dropWhile_eq_false _ _ c hc)⟩

/-- A name goes on to the end of its word, whatever it is reserved for then. -/
theorem stopsIn_of_isName (h : IsName text) : StopsIn text rest := by
  obtain ⟨c, cs, rfl, hc, hcs⟩ := h
  have hlonger : IsName (c :: cs ++ rest.takeWhile Unicode.isWord) :=
    ⟨c, _, rfl, hc, List.forall_mem_append.2 ⟨hcs, fun _ hd => List.mem_takeWhile_imp hd⟩⟩
  exact (isLexeme_of_isName hlonger).stopsIn_of_takeWhile
    (Kind.goesOn_of_isWord (isWord_wordKind _))

/-- An operator stops, but that `<-` goes on to `<->`. -/
theorem stopsIn_of_operator? {op : String} (h : kind.operator? = some op) :
    StopsIn op.toList rest := by
  have hlexeme := IsLexeme.operator h
  by_cases hbehind : kind = .lookBehind
  · subst hbehind
    obtain rfl : "<-" = op := Option.some.inj h
    by_cases hhead : rest.head? = some '>'
    · obtain ⟨rest, rfl⟩ := List.head?_eq_some_iff.1 hhead
      have hcurrent : Kind.operator? .current = some "<->" := rfl
      exact ⟨.current, _, ['>'], rest, rfl, .operator hcurrent,
        Kind.stopsBefore_of_goesOn fun _ => rfl⟩
    · refine hlexeme.stopsIn_of_stopsBefore fun c hc => ?_
      have hne : c ≠ '>' := fun he => hhead (he ▸ hc)
      simpa [Kind.goesOn] using hne
  · exact hlexeme.stopsIn_of_stopsBefore
      (Kind.stopsBefore_of_goesOn (not_goesOn_of_operator? h hbehind))

/-- Every lexeme goes on to one that stops. -/
theorem IsLexeme.stopsIn (h : IsLexeme kind value text) (rest : List Char) : StopsIn text rest := by
  have htake : ∀ p : Char → Bool, ∀ c ∈ rest.takeWhile p, p c = true :=
    fun p c hc => List.mem_takeWhile_imp hc
  cases h with
  | operator hop => exact stopsIn_of_operator? hop
  | reservedWord hword htext => exact stopsIn_of_isName (isName_of_reservedWord hword htext)
  | identifier hid _ => exact stopsIn_of_isName hid
  | number hc hcs =>
    have hlonger := IsLexeme.number hc (List.forall_mem_append.2 ⟨hcs, htake Unicode.isWord⟩)
    exact hlonger.stopsIn_of_takeWhile fun _ => rfl
  | string hquote hbody =>
    exact (IsLexeme.string hquote hbody).stopsIn_of_stopsBefore
      (Kind.stopsBefore_of_goesOn fun _ => rfl)
  | @pattern body flags hbody hflags =>
    have hlonger : IsLexeme .pattern
        ('/' :: (body ++ '/' :: (flags ++ rest.takeWhile Char.isAlpha)))
        ('/' :: (body ++ '/' :: flags) ++ rest.takeWhile Char.isAlpha) := by
      rw [List.cons_append, List.append_assoc, List.cons_append]
      exact .pattern hbody (List.forall_mem_append.2 ⟨hflags, htake Char.isAlpha⟩)
    exact hlonger.stopsIn_of_takeWhile fun _ => rfl
  | tag hne hname =>
    have hlonger := IsLexeme.tag (List.append_ne_nil_of_left_ne_nil hne _)
      (List.forall_mem_append.2 ⟨hname, htake Unicode.isWord⟩)
    exact hlonger.stopsIn_of_takeWhile fun _ => rfl
  | hostExpression hbody =>
    exact (IsLexeme.hostExpression hbody).stopsIn_of_stopsBefore
      (Kind.stopsBefore_of_goesOn fun _ => rfl)

/-- **The reader finds nothing where no lexeme of the grammar begins.** -/
theorem readLexeme?_eq_none_iff :
    readLexeme? cs = none ↔ ∀ kind value text, IsLexeme kind value text → ¬ text <+: cs := by
  constructor
  · rintro h kind value text hlexeme ⟨rest, rfl⟩
    obtain ⟨kind', value', more, rest', rfl, hlonger, hr⟩ := hlexeme.stopsIn rest
    rw [← List.append_assoc, readLexeme?_of_isLexeme hlonger hr] at h
    simp at h
  · intro h
    cases hread : readLexeme? cs with
    | none => rfl
    | some found =>
      obtain ⟨kind, text, rest⟩ := found
      obtain ⟨rfl, hlexeme, _⟩ := readLexeme?_eq_some_iff.1 hread
      exact absurd (List.prefix_append _ _) (h kind _ text hlexeme)

/-- No lexeme begins with a blank. -/
theorem IsLexeme.exists_cons (h : IsLexeme kind value text) :
    ∃ c cs, text = c :: cs ∧ isBlank c = false := by
  have hname : ∀ {text : List Char}, IsName text → ∃ c cs, text = c :: cs ∧ isBlank c = false := by
    intro text hname
    have hsolid := hname.isBlank_eq_false
    obtain ⟨c, cs, rfl, _⟩ := hname
    exact ⟨c, cs, rfl, hsolid c List.mem_cons_self⟩
  cases h with
  | operator hop =>
    cases kind <;> simp only [Kind.operator?, Option.some.injEq, reduceCtorEq] at hop <;>
      subst hop <;> exact ⟨_, _, rfl, rfl⟩
  | reservedWord hword htext => exact hname (isName_of_reservedWord hword htext)
  | identifier hid _ => exact hname hid
  | @number c cs hc _ =>
    have hword : Unicode.isWord c = true :=
      isWord_of_isAlphanum (by rw [Char.isAlphanum, hc, Bool.or_true])
    exact ⟨c, cs, rfl, isBlank_of_isWord hword⟩
  | @string quote body hquote _ =>
    refine ⟨quote, _, rfl, ?_⟩
    rcases isQuote_iff.1 hquote with rfl | rfl | rfl <;> rfl
  | pattern | tag | hostExpression => exact ⟨_, _, rfl, rfl⟩

/-! ### The lexemes of a kind -/

theorem IsLexeme.of_reservedWord {word : String} (h : IsLexeme kind value text)
    (hkind : kind.reservedWord? = some word) :
    text.map Char.toLower = word.toList ∧ value = text := by
  cases h with
  | operator hop => cases kind <;> simp_all [Kind.operator?, Kind.reservedWord?]
  | reservedWord hword htext =>
    obtain rfl := Option.some.inj (hkind.symm.trans hword)
    exact ⟨htext, rfl⟩
  | identifier | number | string | pattern | tag | hostExpression => cases hkind

theorem IsLexeme.of_operator {op : String} (h : IsLexeme kind value text)
    (hkind : kind.operator? = some op) : text = op.toList := by
  cases h with
  | operator hop => rw [Option.some.inj (hkind.symm.trans hop)]
  | reservedWord hword _ => cases kind <;> simp_all [Kind.operator?, Kind.reservedWord?]
  | identifier | number | string | pattern | tag | hostExpression => cases hkind

theorem IsLexeme.of_string (h : IsLexeme .string value text) : ∃ quote body,
    isQuote quote = true ∧ IsBody quote true body ∧ value = unescape body ∧
      text = quote :: (body ++ [quote]) := by
  cases h with
  | operator hop => cases hop
  | reservedWord hword _ => cases hword
  | string hquote hbody => exact ⟨_, _, hquote, hbody, rfl, rfl⟩

theorem IsLexeme.of_pattern (h : IsLexeme .pattern value text) : ∃ body flags,
    IsBody '/' false body ∧ (∀ c ∈ flags, c.isAlpha = true) ∧ value = text ∧
      text = '/' :: (body ++ '/' :: flags) := by
  cases h with
  | operator hop => cases hop
  | reservedWord hword _ => cases hword
  | pattern hbody hflags => exact ⟨_, _, hbody, hflags, rfl, rfl⟩

theorem IsLexeme.of_tag (h : IsLexeme .tag value text) :
    value ≠ [] ∧ (∀ c ∈ value, Unicode.isWord c = true) ∧ text = '#' :: value := by
  cases h with
  | operator hop => cases hop
  | reservedWord hword _ => cases hword
  | tag hne hname => exact ⟨hne, hname, rfl⟩

theorem IsLexeme.of_hostExpression (h : IsLexeme .hostExpression value text) : ∃ body,
    IsExpression body ∧ value = trim body ∧ text = '[' :: '(' :: (body ++ [')', ']']) := by
  cases h with
  | operator hop => cases hop
  | reservedWord hword _ => cases hword
  | hostExpression hbody => exact ⟨_, hbody, rfl, rfl⟩

end RuleLexer.Clause
