import RuleLexer.Clause.Reader
import RuleLexer.Proofs.Clause.Grammar

/-!
# Reading clauses

`Lexes` says that a text consists of lexemes and blanks, and which tokens the lexemes are.  The reader
of clauses finds these tokens and marks the end behind them with one token more
(`readFrom_eq_ok_iff`).  Where it fails, it has come to a place where nothing of the grammar begins
(`exists_isStuck_of_readFrom`).

`HasTokens` gives the tokens of a clause without the one that marks the end.
-/

namespace RuleLexer.Clause

open Text

/-- The text, which begins `offset` bytes into a clause, consists of the lexemes of the tokens with
blanks before, between and behind them.  Each lexeme stops before what follows it. -/
inductive Lexes : Nat → List Token → List Char → Prop
  | nil {offset : Nat} {gap : List Char} : gap.all isBlank = true → Lexes offset [] gap
  | cons {offset : Nat} {gap text rest value : List Char} {kind : Kind} {ts : List Token} :
      gap.all isBlank = true → IsLexeme kind value text → kind.StopsBefore rest →
      Lexes (offset + byteLength gap + byteLength text) ts rest →
      Lexes offset (⟨kind, String.ofList value, offset + byteLength gap⟩ :: ts)
        (gap ++ (text ++ rest))

/-- Nothing of the grammar begins here, and no blank. -/
structure IsStuck (cs : List Char) : Prop where
  ne_nil : cs ≠ []
  startsSolid : StartsSolid cs
  no_lexeme : ∀ {kind : Kind} {value text : List Char}, IsLexeme kind value text → ¬ text <+: cs

variable {c : Char} {cs gap text rest value : List Char} {kind : Kind} {offset : Nat}
  {ts us : List Token} {fault : Fault}

/-! ### The tokens are read -/

theorem readFrom_blanks (h : gap.all isBlank = true) (offset : Nat)
    (cs : List Char) : readFrom offset (gap ++ cs) = readFrom (offset + byteLength gap) cs := by
  induction gap generalizing offset with
  | nil => rfl
  | cons c gap ih =>
    rw [List.all_cons, Bool.and_eq_true] at h
    rw [List.cons_append, readFrom, if_pos h.1, ih h.2, byteLength_cons, Nat.add_assoc]

theorem readFrom_lexeme (hne : ∃ c ds, cs = c :: ds ∧ isBlank c = false)
    (h : readLexeme? cs = some (kind, text, rest)) (offset : Nat) :
    readFrom offset cs = (readFrom (offset + byteLength text) rest).map
      (⟨kind, String.ofList (valueOf kind text), offset⟩ :: ·) := by
  obtain ⟨c, ds, rfl, hc⟩ := hne
  rw [readFrom, if_neg (by rw [hc]; exact Bool.false_ne_true)]
  split
  next hnone => simp [h] at hnone
  next hsome =>
    rw [h, Option.some.injEq, Prod.mk.injEq, Prod.mk.injEq] at hsome
    obtain ⟨rfl, rfl, rfl⟩ := hsome
    rfl

/-- A lexeme that stops is read as its token. -/
theorem readFrom_isLexeme (h : IsLexeme kind value text) (hr : kind.StopsBefore rest)
    (offset : Nat) : readFrom offset (text ++ rest) =
      (readFrom (offset + byteLength text) rest).map (⟨kind, String.ofList value, offset⟩ :: ·) := by
  obtain ⟨c, cs, htext, hc⟩ := h.exists_cons
  have hfirst : ∃ c ds, text ++ rest = c :: ds ∧ isBlank c = false :=
    ⟨c, cs ++ rest, by rw [htext, List.cons_append], hc⟩
  rw [readFrom_lexeme hfirst (readLexeme?_of_isLexeme h hr), h.valueOf_eq]

/-- **The tokens that a text consists of are read**, each where it begins. -/
theorem Lexes.readFrom_eq (h : Lexes offset ts cs) :
    readFrom offset cs = .ok (ts ++ [⟨.eof, "EOF", offset + byteLength cs⟩]) := by
  induction h with
  | @nil offset gap hgap =>
    have hblanks := readFrom_blanks hgap offset []
    rw [List.append_nil, readFrom] at hblanks
    exact hblanks
  | @cons offset gap text rest value kind ts hgap hlexeme hr _ ih =>
    rw [readFrom_blanks hgap, readFrom_isLexeme hlexeme hr, ih, byteLength_append,
      byteLength_append, ← Nat.add_assoc, ← Nat.add_assoc]
    rfl

/-! ### What is read are the tokens -/

theorem Lexes.cons_blank (hc : isBlank c = true) (h : Lexes (offset + c.utf8Size) ts cs) :
    Lexes offset ts (c :: cs) := by
  have hgap : ∀ {gap : List Char}, gap.all isBlank = true → (c :: gap).all isBlank = true :=
    fun h => by rw [List.all_cons, hc, h]; rfl
  cases h with
  | nil hblank => exact .nil (hgap hblank)
  | @cons _ gap text rest value kind ts hblank hlexeme hr hrest =>
    rw [Nat.add_assoc offset, ← byteLength_cons] at hrest ⊢
    exact .cons (hgap hblank) hlexeme hr hrest

theorem Lexes.cons_lexeme (hlexeme : IsLexeme kind value text) (hr : kind.StopsBefore rest)
    (h : Lexes (offset + byteLength text) ts rest) :
    Lexes offset (⟨kind, String.ofList value, offset⟩ :: ts) (text ++ rest) :=
  have hgap : ([] : List Char).all isBlank = true := rfl
  .cons hgap hlexeme hr h

theorem exists_lexes_of_readFrom (h : readFrom offset cs = .ok ts) :
    ∃ us, ts = us ++ [⟨.eof, "EOF", offset + byteLength cs⟩] ∧ Lexes offset us cs := by
  fun_induction readFrom offset cs generalizing ts with
  | case1 offset =>
    obtain rfl := Except.ok.inj h
    exact ⟨[], rfl, .nil rfl⟩
  | case2 offset c rest hblank ih =>
    obtain ⟨us, rfl, hus⟩ := ih h
    exact ⟨us, by rw [byteLength_cons, Nat.add_assoc], hus.cons_blank hblank⟩
  | case3 => simp at h
  | case4 offset c cs hblank kind text rest hread ih =>
    obtain ⟨ts', hrest, rfl⟩ := exists_of_map_eq_ok h
    obtain ⟨us, rfl, hus⟩ := ih hrest
    obtain ⟨hsplit, hlexeme, hr⟩ := readLexeme?_eq_some_iff.1 hread
    rw [hsplit]
    refine ⟨_ :: us, ?_, .cons_lexeme hlexeme hr hus⟩
    rw [byteLength_append, Nat.add_assoc]
    rfl

/-- **The reader finds the tokens of a text**, and marks its end. -/
theorem readFrom_eq_ok_iff : readFrom offset cs = .ok ts ↔
    ∃ us, ts = us ++ [⟨.eof, "EOF", offset + byteLength cs⟩] ∧ Lexes offset us cs := by
  constructor
  · exact exists_lexes_of_readFrom
  · rintro ⟨us, rfl, h⟩
    exact h.readFrom_eq

/-- A text is blank if the first token that is read marks its end. -/
theorem all_isBlank_of_readFrom (h : readFrom offset cs = .ok ts)
    (hhead : ∀ t ∈ ts.head?, t.kind = .eof) : cs.all isBlank = true := by
  obtain ⟨us, rfl, hus⟩ := exists_lexes_of_readFrom h
  cases hus with
  | nil hgap => exact hgap
  | cons _ hlexeme => exact absurd (hhead _ rfl) hlexeme.kind_ne_eof

/-- Any other first token is the lexeme that comes first. -/
theorem exists_lexeme_of_readFrom {t : Token} (h : readFrom offset cs = .ok (t :: ts))
    (ht : t.kind = kind) (hkind : kind ≠ .eof) : ∃ gap text rest n, cs = gap ++ (text ++ rest) ∧
      gap.all isBlank = true ∧ IsLexeme kind t.value.toList text ∧ kind.StopsBefore rest ∧
      readFrom n rest = .ok ts := by
  subst ht
  obtain ⟨us, hsplit, hus⟩ := exists_lexes_of_readFrom h
  cases hus with
  | nil =>
    obtain ⟨rfl, _⟩ := List.cons.inj hsplit
    exact absurd rfl hkind
  | @cons _ gap text rest value kind us hgap hlexeme hr hrest =>
    obtain ⟨rfl, rfl⟩ := List.cons.inj hsplit
    refine ⟨gap, text, rest, offset + byteLength gap + byteLength text, rfl, hgap,
      by rwa [String.toList_ofList], hr, ?_⟩
    rw [hrest.readFrom_eq, byteLength_append, byteLength_append, ← Nat.add_assoc, ← Nat.add_assoc]
    rfl

/-- What stops before a text stops before the start of it. -/
theorem Kind.StopsBefore.of_append (h : kind.StopsBefore (cs ++ rest)) : kind.StopsBefore cs := by
  cases cs with
  | nil => exact Kind.stopsBefore_nil
  | cons c cs => exact fun d hd => h d hd

/-- **Reading fails where nothing of the grammar begins**, and up to there the text consists of
tokens. -/
theorem exists_isStuck_of_readFrom (h : readFrom offset cs = .error fault) :
    ∃ p r us, cs = p ++ r ∧ Lexes offset us p ∧ IsStuck r ∧ fault = faultAt r := by
  fun_induction readFrom offset cs with
  | case1 => simp at h
  | case2 offset c rest hblank ih =>
    obtain ⟨p, r, us, rfl, hus, hstuck, hfault⟩ := ih h
    exact ⟨c :: p, r, us, rfl, hus.cons_blank hblank, hstuck, hfault⟩
  | case3 offset c cs hblank hnone =>
    have hstuck : IsStuck (c :: cs) := by
      refine ⟨List.cons_ne_nil _ _, fun d hd => ?_, readLexeme?_eq_none_iff.1 hnone _ _ _⟩
      obtain rfl := Option.some.inj hd
      exact Bool.not_eq_true _ ▸ hblank
    exact ⟨[], _, [], rfl, .nil rfl, hstuck, (Except.error.inj h).symm⟩
  | case4 offset c cs hblank kind text rest hread ih =>
    obtain ⟨hsplit, hlexeme, hr⟩ := readLexeme?_eq_some_iff.1 hread
    obtain ⟨p, r, us, rfl, hus, hstuck, hfault⟩ := ih (error_of_map_eq_error h)
    refine ⟨text ++ p, r, _ :: us, ?_, .cons_lexeme hlexeme hr.of_append hus, hstuck, hfault⟩
    rw [hsplit, List.append_assoc]

/-! ### The tokens of a clause -/

theorem Lexes.kind_ne_eof (h : Lexes offset ts cs) : ∀ t ∈ ts, t.kind ≠ .eof := by
  induction h with
  | nil => simp
  | cons _ hlexeme _ _ ih => exact List.forall_mem_cons.2 ⟨hlexeme.kind_ne_eof, ih⟩

/-- The clause is made of the tokens, besides the one that marks its end. -/
def HasTokens (clause : String) (ts : List Token) : Prop :=
  Clause.read clause = .ok (ts ++ [⟨.eof, "EOF", Text.byteLength clause.toList⟩])

theorem hasTokens_iff {clause : String} : HasTokens clause ts ↔ Lexes 0 ts clause.toList := by
  constructor
  · intro h
    obtain ⟨us, hsplit, hus⟩ := exists_lexes_of_readFrom h
    rwa [List.append_cancel_right (hsplit.trans (by rw [Nat.zero_add]))]
  · intro h
    rw [HasTokens, Clause.read, h.readFrom_eq, Nat.zero_add]

theorem HasTokens.kind_ne_eof {clause : String} (h : HasTokens clause ts) :
    ∀ t ∈ ts, t.kind ≠ .eof :=
  (hasTokens_iff.1 h).kind_ne_eof

theorem exists_hasTokens {clause : String} (h : Clause.read clause = .ok ts) :
    ∃ us, HasTokens clause us := by
  obtain ⟨us, _, hus⟩ := exists_lexes_of_readFrom h
  exact ⟨us, hasTokens_iff.2 hus⟩

theorem HasTokens.eq {clause : String} (ht : HasTokens clause ts) (hu : HasTokens clause us) :
    ts = us :=
  List.append_cancel_right (Except.ok.inj (ht.symm.trans hu))

end RuleLexer.Clause
