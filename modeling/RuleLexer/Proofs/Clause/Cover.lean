import RuleLexer.Proofs.Clause.Reader

/-!
# Every byte of a clause

What the reader makes of a clause, down to its bytes (`read_accounts`).  Either the clause is an
`Account` of tokens: lexemes and blanks make it up, each token is the decoded lexeme that begins at
its offset, and the offsets increase strictly up to the end.  Or it is such a text and then one that
begins with nothing of the grammar, and the fault says whether that is an open literal.

A lexeme is decoded from the slice between its delimiters, which are counted in bytes
(`Kind.margins`).  `IsLexeme.isDecoded` says that each lexeme is long enough for this, and that the
slice begins and ends between characters.
-/

namespace RuleLexer.Clause

open Text

variable {cs text value : List Char} {kind : Kind} {offset : Nat} {ts : List Token} {fault : Fault}

/-! ### The slice between the delimiters -/

/-- `part` is what stands from byte `start` up to byte `stop` of the text, both of which lie between
characters. -/
def IsSlice (text : List Char) (start stop : Nat) (part : List Char) : Prop :=
  ∃ before after, text = before ++ (part ++ after) ∧ byteLength before = start ∧
    start + byteLength part = stop

/-- How many bytes the delimiters of a lexeme have, at its start and at its end. -/
def Kind.margins : Kind → Nat × Nat
  | string => (1, 1)
  | hostExpression => (2, 2)
  | tag => (1, 0)
  | _ => (0, 0)

/-- What the text between the delimiters stands for. -/
def Kind.decode : Kind → List Char → List Char
  | string, part => unescape part
  | hostExpression, part => trim part
  | _, part => part

/-- The value is decoded from the slice of the text between the delimiters, and there is such a
slice. -/
def IsDecoded (kind : Kind) (text value : List Char) : Prop :=
  kind.margins.1 + kind.margins.2 ≤ byteLength text ∧
    ∃ part, IsSlice text kind.margins.1 (byteLength text - kind.margins.2) part ∧
      value = kind.decode part

theorem isDecoded_delimited {before part after : List Char}
    (hbefore : byteLength before = kind.margins.1) (hafter : byteLength after = kind.margins.2) :
    IsDecoded kind (before ++ (part ++ after)) (kind.decode part) := by
  have hlength : byteLength (before ++ (part ++ after))
      = kind.margins.1 + byteLength part + kind.margins.2 := by
    rw [byteLength_append, byteLength_append, hbefore, hafter, Nat.add_assoc]
  refine ⟨?_, part, ⟨before, after, rfl, hbefore, ?_⟩, rfl⟩ <;> omega

/-- Lexemes without delimiters are decoded as they stand. -/
theorem isDecoded_verbatim (hmargins : kind.margins = (0, 0)) (hdecode : kind.decode text = text) :
    IsDecoded kind text text := by
  have hnone : byteLength [] = kind.margins.1 ∧ byteLength [] = kind.margins.2 := by
    rw [hmargins]
    exact ⟨rfl, rfl⟩
  have hwhole : IsDecoded kind ([] ++ (text ++ [])) (kind.decode text) :=
    isDecoded_delimited hnone.1 hnone.2
  rwa [List.nil_append, List.append_nil, hdecode] at hwhole

/-- **Every lexeme has the slice that its value is decoded from.** -/
theorem IsLexeme.isDecoded (h : IsLexeme kind value text) : IsDecoded kind text value := by
  cases h with
  | operator hop =>
    cases kind <;> simp only [Kind.operator?, reduceCtorEq] at hop <;>
      exact isDecoded_verbatim rfl rfl
  | reservedWord hword _ =>
    cases kind <;> simp only [Kind.reservedWord?, reduceCtorEq] at hword <;>
      exact isDecoded_verbatim rfl rfl
  | identifier | number | pattern => exact isDecoded_verbatim rfl rfl
  | @string quote body hquote _ =>
    have hsize : byteLength [quote] = 1 := by
      rcases isQuote_iff.1 hquote with rfl | rfl | rfl <;> rfl
    have hwhole : IsDecoded .string ([quote] ++ (body ++ [quote])) (unescape body) :=
      isDecoded_delimited hsize hsize
    exact hwhole
  | tag =>
    have hwhole : IsDecoded .tag (['#'] ++ (value ++ [])) value :=
      isDecoded_delimited rfl rfl
    rwa [List.append_nil] at hwhole
  | @hostExpression body _ =>
    have hwhole : IsDecoded .hostExpression (['[', '('] ++ (body ++ [')', ']'])) (trim body) :=
      isDecoded_delimited rfl rfl
    exact hwhole

/-! ### Where the tokens stand -/

/-- A lexeme takes up at least one byte. -/
theorem IsLexeme.byteLength_pos (h : IsLexeme kind value text) : 0 < byteLength text := by
  obtain ⟨c, cs, rfl, _⟩ := h.exists_cons
  rw [byteLength_cons]
  have hc := c.utf8Size_pos
  omega

/-- Each token is the lexeme that stands at its offset. -/
theorem Lexes.exists_lexeme (h : Lexes offset ts cs) : ∀ t ∈ ts, ∃ before text after,
    cs = before ++ (text ++ after) ∧ t.offset = offset + byteLength before ∧
      IsLexeme t.kind t.value.toList text ∧ t.kind.StopsBefore after := by
  induction h with
  | nil => simp
  | @cons offset gap text rest value kind ts hgap hlexeme hr _ ih =>
    refine List.forall_mem_cons.2 ⟨⟨gap, text, rest, rfl, rfl, ?_, hr⟩, fun t ht => ?_⟩
    · rwa [String.toList_ofList]
    · obtain ⟨before, text', after, rfl, hoffset, hrest⟩ := ih t ht
      refine ⟨gap ++ (text ++ before), text', after, by simp, ?_, hrest⟩
      rw [hoffset, byteLength_append, byteLength_append]
      omega

/-- Each token of a clause but the end is the lexeme that stands at its offset. -/
theorem exists_lexeme_of_mem {clause : String} {t : Token} (h : Clause.read clause = .ok ts)
    (ht : t ∈ ts) (hkind : t.kind ≠ .eof) : ∃ before text after,
      clause.toList = before ++ (text ++ after) ∧ t.offset = byteLength before ∧
        IsLexeme t.kind t.value.toList text ∧ t.kind.StopsBefore after := by
  obtain ⟨us, rfl, hlexes⟩ := exists_lexes_of_readFrom h
  have hmem : t ∈ us := by
    rcases List.mem_append.1 ht with hmem | hend
    · exact hmem
    · rw [List.mem_singleton.1 hend] at hkind
      exact absurd rfl hkind
  simpa only [Nat.zero_add] using hlexes.exists_lexeme t hmem

theorem Lexes.offset_le (h : Lexes offset ts cs) : ∀ t ∈ ts,
    offset ≤ t.offset ∧ t.offset < offset + byteLength cs := by
  intro t ht
  obtain ⟨before, text, after, rfl, hoffset, hlexeme, _⟩ := h.exists_lexeme t ht
  have hpos := hlexeme.byteLength_pos
  rw [byteLength_append, byteLength_append]
  omega

/-- The offsets increase up to the end of the text. -/
theorem Lexes.pairwise_offset (h : Lexes offset ts cs) :
    (ts.map Token.offset ++ [offset + byteLength cs]).Pairwise (· < ·) := by
  induction h with
  | nil => simp
  | @cons offset gap text rest value kind ts _ hlexeme _ hrest ih =>
    have hpos := hlexeme.byteLength_pos
    have hend : offset + byteLength (gap ++ (text ++ rest))
        = offset + byteLength gap + byteLength text + byteLength rest := by
      rw [byteLength_append, byteLength_append]
      omega
    rw [hend, List.map_cons, List.cons_append, List.pairwise_cons]
    refine ⟨fun n hn => ?_, ih⟩
    show offset + byteLength gap < n
    rcases List.mem_append.1 hn with hn | hn
    · obtain ⟨t, ht, rfl⟩ := List.mem_map.1 hn
      have hle := (hrest.offset_le t ht).1
      omega
    · obtain rfl := List.mem_singleton.1 hn
      omega

/-! ### The account of a clause -/

/-- The text consists of the lexemes of the tokens and of blanks. -/
structure Account (cs : List Char) (ts : List Token) : Prop where
  lexes : Lexes 0 ts cs
  /-- Each token is the decoded lexeme that begins at its offset. -/
  lexeme : ∀ t ∈ ts, ∃ before text after, cs = before ++ (text ++ after) ∧
    byteLength before = t.offset ∧ IsLexeme t.kind t.value.toList text ∧
    IsDecoded t.kind text t.value.toList
  increasing : (ts.map Token.offset ++ [byteLength cs]).Pairwise (· < ·)
  kind_ne_eof : ∀ t ∈ ts, t.kind ≠ .eof

theorem Lexes.account (h : Lexes 0 ts cs) : Account cs ts where
  lexes := h
  lexeme := by
    intro t ht
    obtain ⟨before, text, after, hsplit, hoffset, hlexeme, _⟩ := h.exists_lexeme t ht
    exact ⟨before, text, after, hsplit, by rw [hoffset, Nat.zero_add], hlexeme, hlexeme.isDecoded⟩
  increasing := by
    have hpairwise := h.pairwise_offset
    rwa [Nat.zero_add] at hpairwise
  kind_ne_eof := h.kind_ne_eof

/-- The text begins like a string, a pattern or a host expression. -/
def StartsLiteral (cs : List Char) : Prop :=
  ∃ opening ∈ [['\''], ['"'], ['\x60'], ['/'], ['[', '(']], opening <+: cs

theorem opensLiteral_iff : opensLiteral cs = true ↔ StartsLiteral cs := by
  cases cs with
  | nil => simp [opensLiteral, StartsLiteral]
  | cons c cs =>
    have hparen : ['('] <+: cs ↔ cs.head? = some '(' := by
      cases cs <;> simp [eq_comm]
    simp only [StartsLiteral, List.mem_cons, List.not_mem_nil, or_false, exists_eq_or_imp,
      exists_eq_left, List.cons_prefix_cons, List.nil_prefix, and_true, hparen, @eq_comm _ _ c]
    simp only [opensLiteral, isQuote, Bool.or_eq_true, Bool.and_eq_true, beq_iff_eq, or_assoc]

/-- What is wrong with a text that begins with nothing of the grammar: it opens a literal that is
not closed, or its first character has no meaning. -/
inductive IsFaultAt (cs : List Char) : Fault → Prop
  | unterminated : StartsLiteral cs → IsFaultAt cs (.unterminatedLiteral (String.ofList cs))
  | unrecognised {c : Char} : cs.head? = some c → ¬ StartsLiteral cs →
      IsFaultAt cs (.unrecognisedToken (String.ofList [c]))

theorem IsStuck.isFaultAt (h : IsStuck cs) : IsFaultAt cs (faultAt cs) := by
  obtain ⟨c, cs, rfl⟩ := List.exists_cons_of_ne_nil h.ne_nil
  rw [faultAt]
  split
  next hopens => exact .unterminated (opensLiteral_iff.1 hopens)
  next hopens => exact .unrecognised rfl (mt opensLiteral_iff.2 hopens)

/-- **The reader accounts for every byte of a clause.**  It finds the tokens that the clause
consists of, and one that marks the end.  Or it fails: then the clause is a text with such an
account, and a text that begins with nothing of the grammar, which the fault is about. -/
theorem read_accounts (clause : String) :
    (∃ ts, Clause.read clause = .ok (ts ++ [⟨.eof, "EOF", byteLength clause.toList⟩]) ∧
      Account clause.toList ts) ∨
    (∃ p r ts fault, Clause.read clause = .error fault ∧ clause.toList = p ++ r ∧
      Clause.read (String.ofList p) = .ok (ts ++ [⟨.eof, "EOF", byteLength p⟩]) ∧ Account p ts ∧
      IsStuck r ∧ IsFaultAt r fault) := by
  cases hread : Clause.read clause with
  | ok ts =>
    left
    obtain ⟨us, rfl, hus⟩ := exists_lexes_of_readFrom hread
    exact ⟨us, by rw [Nat.zero_add], hus.account⟩
  | error fault =>
    right
    obtain ⟨p, r, us, hsplit, hus, hstuck, rfl⟩ := exists_isStuck_of_readFrom hread
    refine ⟨p, r, us, _, rfl, hsplit, ?_, hus.account, hstuck, hstuck.isFaultAt⟩
    exact hasTokens_iff.2 (by rwa [String.toList_ofList]) |>.trans (by rw [String.toList_ofList])

end RuleLexer.Clause
