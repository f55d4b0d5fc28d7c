import RuleLexer.Proofs.Clause.Literal

/-!
# Decoding escapes

`IsEscape` is the table of escapes, and `Decodes` is what it means to decode a text with such a table from
left to right: a backslash that begins no escape is kept, and what follows it is decoded on its own.  Each
text is decoded to exactly one text (`exists_decodes`, `Decodes.unique`).

`unescape_decodes` says how the reader of literals decodes:

* it follows the table, with codes of one digit besides (`IsEscapeOrShort`);
* so it agrees with the table exactly on the texts in which no code of one digit is met.

Where such a code is met, the reader makes one character of what the table keeps as three or more, so that
it decodes to a shorter text (`Decodes.compare`).
-/

namespace RuleLexer.Clause

open Text

variable {c d d' e : Char} {cs ds ds' rest rest' : List Char}

/-! ### Tables of escapes -/

/-- **The table of escapes**: the text behind a backslash, the character that is meant, and the text
behind the escape.  A code has two hexadecimal digits. -/
inductive IsEscape : List Char → Char → List Char → Prop
  | newline (rest : List Char) : IsEscape ('n' :: rest) '\n' rest
  | tab (rest : List Char) : IsEscape ('t' :: rest) '\t' rest
  | carriageReturn (rest : List Char) : IsEscape ('r' :: rest) '\r' rest
  | null (rest : List Char) : IsEscape ('0' :: rest) '\x00' rest
  | itself {c : Char} (rest : List Char) : c = '\\' ∨ isQuote c = true → IsEscape (c :: rest) c rest
  | code {a b : Char} {high low : Nat} (rest : List Char) :
      hexValue? a = some high → hexValue? b = some low →
      IsEscape ('x' :: a :: b :: rest) (Char.ofNat (16 * high + low)) rest

/-- A code of one digit, behind which there is no other digit. -/
inductive IsShortCode : List Char → Char → List Char → Prop
  | code {a : Char} {value : Nat} {rest : List Char} :
      hexValue? a = some value → (∀ b ∈ rest.head?, hexValue? b = none) →
      IsShortCode ('x' :: a :: rest) (Char.ofNat value) rest

/-- The table of escapes with the codes of one digit. -/
def IsEscapeOrShort (cs : List Char) (c : Char) (rest : List Char) : Prop :=
  IsEscape cs c rest ∨ IsShortCode cs c rest

variable {Escapes : List Char → Char → List Char → Prop}

/-- A text begins with at most one escape of the table, which takes something of it. -/
structure IsTable (Escapes : List Char → Char → List Char → Prop) : Prop where
  unique : ∀ {cs : List Char} {c d : Char} {rest rest' : List Char},
    Escapes cs c rest → Escapes cs d rest' → c = d ∧ rest = rest'
  shorter : ∀ {cs : List Char} {c : Char} {rest : List Char},
    Escapes cs c rest → rest.length < cs.length

/-- How a text is decoded from left to right with a table of escapes. -/
inductive Decodes (Escapes : List Char → Char → List Char → Prop) : List Char → List Char → Prop
  | nil : Decodes Escapes [] []
  | plain {c : Char} {cs ds : List Char} : c ≠ '\\' → Decodes Escapes cs ds →
      Decodes Escapes (c :: cs) (c :: ds)
  | escape {c : Char} {cs rest ds : List Char} : Escapes cs c rest → Decodes Escapes rest ds →
      Decodes Escapes ('\\' :: cs) (c :: ds)
  | kept {cs ds : List Char} : (∀ c rest, ¬ Escapes cs c rest) → Decodes Escapes cs ds →
      Decodes Escapes ('\\' :: cs) ('\\' :: ds)

theorem Decodes.unique (htable : IsTable Escapes) (h : Decodes Escapes cs ds)
    (h' : Decodes Escapes cs ds') : ds = ds' := by
  induction h generalizing ds' with
  | nil => cases h'; rfl
  | plain hc _ ih =>
    cases h' with
    | plain _ h' => rw [ih h']
    | escape | kept => exact absurd rfl hc
  | escape hescape _ ih =>
    cases h' with
    | plain hc _ => exact absurd rfl hc
    | escape hescape' h' =>
      obtain ⟨rfl, rfl⟩ := htable.unique hescape hescape'
      rw [ih h']
    | kept hnone _ => exact absurd hescape (hnone _ _)
  | kept hnone _ ih =>
    cases h' with
    | plain hc _ => exact absurd rfl hc
    | escape hescape _ => exact absurd hescape (hnone _ _)
    | kept _ h' => rw [ih h']

/-- **Every text can be decoded.** -/
theorem exists_decodes (htable : IsTable Escapes) (cs : List Char) : ∃ ds, Decodes Escapes cs ds := by
  induction hn : cs.length using Nat.strongRecOn generalizing cs with
  | ind n ih =>
    subst hn
    cases cs with
    | nil => exact ⟨[], .nil⟩
    | cons c cs =>
      have htail := ih cs.length (by simp) cs rfl
      by_cases hc : c = '\\'
      · subst hc
        by_cases hescape : ∃ d rest, Escapes cs d rest
        · obtain ⟨d, rest, hescape⟩ := hescape
          have hlt := htable.shorter hescape
          obtain ⟨ds, hds⟩ := ih rest.length (by rw [List.length_cons]; omega) rest rfl
          exact ⟨d :: ds, .escape hescape hds⟩
        · obtain ⟨ds, hds⟩ := htail
          exact ⟨'\\' :: ds, .kept (fun d rest h => hescape ⟨d, rest, h⟩) hds⟩
      · obtain ⟨ds, hds⟩ := htail
        exact ⟨c :: ds, .plain hc hds⟩

theorem Decodes.length_le (htable : IsTable Escapes) (h : Decodes Escapes cs ds) :
    ds.length ≤ cs.length := by
  induction h with
  | nil => exact Nat.le_refl _
  | plain _ _ ih | kept _ _ ih => exact Nat.succ_le_succ ih
  | escape hescape _ ih =>
    have hlt := htable.shorter hescape
    simp only [List.length_cons]
    omega

/-! ### The escapes that are read -/

/-- The escapes other than codes are those that the reader looks up. -/
theorem isEscape_cons_iff : IsEscape (e :: cs) c rest ↔
    (plainEscapes.lookup e = some c ∧ rest = cs) ∨
      (e = 'x' ∧ ∃ a b high low, cs = a :: b :: rest ∧ hexValue? a = some high ∧
        hexValue? b = some low ∧ c = Char.ofNat (16 * high + low)) := by
  constructor
  · intro h
    cases h with
    | newline | tab | carriageReturn | null => exact Or.inl ⟨rfl, rfl⟩
    | itself _ hc =>
      refine Or.inl ⟨?_, rfl⟩
      rcases hc with rfl | hc
      · rfl
      · rcases isQuote_iff.1 hc with rfl | rfl | rfl <;> rfl
    | code _ ha hb => exact Or.inr ⟨rfl, _, _, _, _, rfl, ha, hb, rfl⟩
  · rintro (⟨hlookup, rfl⟩ | ⟨rfl, a, b, high, low, rfl, ha, hb, rfl⟩)
    · obtain ⟨before, after, hsplit, _⟩ := List.lookup_eq_some_iff.1 hlookup
      have hmem : (e, c) ∈ plainEscapes := by
        rw [hsplit]
        simp
      simp only [plainEscapes, List.mem_cons, Prod.mk.injEq, List.not_mem_nil, or_false] at hmem
      rcases hmem with ⟨rfl, rfl⟩ | ⟨rfl, rfl⟩ | ⟨rfl, rfl⟩ | ⟨rfl, rfl⟩ | ⟨rfl, rfl⟩ | ⟨rfl, rfl⟩ |
        ⟨rfl, rfl⟩ | ⟨rfl, rfl⟩
      · exact .newline _
      · exact .tab _
      · exact .carriageReturn _
      · exact .null _
      · exact .itself _ (Or.inl rfl)
      · exact .itself _ (Or.inr rfl)
      · exact .itself _ (Or.inr rfl)
      · exact .itself _ (Or.inr rfl)
    · exact .code _ ha hb

theorem lookup_plainEscapes_code : plainEscapes.lookup 'x' = none := by
  decide

theorem isTable_isEscape : IsTable IsEscape where
  unique {cs c d rest rest'} h h' := by
    cases cs with
    | nil => cases h
    | cons e cs =>
      rcases isEscape_cons_iff.1 h with ⟨hlookup, rfl⟩ | ⟨rfl, a, b, high, low, rfl, ha, hb, rfl⟩ <;>
        rcases isEscape_cons_iff.1 h' with ⟨hlookup', rfl⟩ | ⟨he, a', b', high', low', hcs, ha', hb', rfl⟩
      · exact ⟨Option.some.inj (hlookup.symm.trans hlookup'), rfl⟩
      · rw [he, lookup_plainEscapes_code] at hlookup
        cases hlookup
      · rw [lookup_plainEscapes_code] at hlookup'
        cases hlookup'
      · obtain ⟨rfl, rfl, rfl⟩ : a = a' ∧ b = b' ∧ rest = rest' := by simpa using hcs
        obtain rfl := Option.some.inj (ha.symm.trans ha')
        obtain rfl := Option.some.inj (hb.symm.trans hb')
        exact ⟨rfl, rfl⟩
  shorter h := by cases h <;> simp only [List.length_cons] <;> omega

/-- A text does not begin with an escape and a code of one digit. -/
theorem IsShortCode.not_isEscape (h : IsShortCode cs c rest) : ¬ IsEscape cs d rest' := by
  cases h with
  | code ha hnone =>
    intro h'
    rcases isEscape_cons_iff.1 h' with ⟨hlookup, _⟩ | ⟨_, _, b, _, _, hcs, _, hb, _⟩
    · rw [lookup_plainEscapes_code] at hlookup
      cases hlookup
    · rw [(List.cons.inj hcs).2] at hnone
      rw [hnone b rfl] at hb
      cases hb

theorem isTable_isEscapeOrShort : IsTable IsEscapeOrShort where
  unique h h' := by
    rcases h with h | h <;> rcases h' with h' | h'
    · exact isTable_isEscape.unique h h'
    · exact absurd h h'.not_isEscape
    · exact absurd h' h.not_isEscape
    · cases h with
      | code ha _ =>
        cases h' with
        | code ha' _ =>
          obtain rfl := Option.some.inj (ha.symm.trans ha')
          exact ⟨rfl, rfl⟩
  shorter h := by
    rcases h with h | h
    · exact isTable_isEscape.shorter h
    · cases h
      simp only [List.length_cons]
      omega

/-- A letter behind a backslash that nothing is looked up for begins a code or nothing. -/
theorem not_isEscapeOrShort (hlookup : plainEscapes.lookup e = none)
    (hcode : e = 'x' → ∀ a ∈ cs.head?, hexValue? a = none) : ¬ IsEscapeOrShort (e :: cs) c rest := by
  rintro (h | h)
  · rcases isEscape_cons_iff.1 h with ⟨hsome, _⟩ | ⟨he, a, _, _, _, rfl, ha, _⟩
    · rw [hlookup] at hsome
      cases hsome
    · rw [hcode he a rfl] at ha
      cases ha
  · cases h with
    | code ha _ =>
      rw [hcode rfl _ rfl] at ha
      cases ha

/-- **The reader decodes with codes of one digit besides the escapes.** -/
theorem decodes_unescape (text : List Char) : Decodes IsEscapeOrShort text (unescape text) := by
  fun_induction unescape text with
  | case1 => exact .nil
  | case2 c cs hc ih => exact .plain (by simpa using hc) ih
  | case3 c hc =>
    obtain rfl : c = '\\' := by simpa using hc
    refine .kept (fun d rest h => ?_) .nil
    rcases h with h | h <;> cases h
  | case4 c hc e rest d hlookup ih =>
    obtain rfl : c = '\\' := by simpa using hc
    exact .escape (Or.inl (isEscape_cons_iff.2 (Or.inl ⟨hlookup, rfl⟩))) ih
  | case5 c hc e rest hlookup he ih =>
    obtain rfl : c = '\\' := by simpa using hc
    have hne : e ≠ '\\' := by
      rintro rfl
      cases hlookup
    refine .kept (fun d rest => not_isEscapeOrShort hlookup fun hx => ?_) (.plain hne ih)
    simp [hx] at he
  | case6 c hc e hlookup he =>
    obtain rfl : c = '\\' := by simpa using hc
    obtain rfl : e = 'x' := by simpa using he
    exact .kept (fun d rest => not_isEscapeOrShort hlookup fun _ a ha => by simp at ha)
      (.plain (by decide) .nil)
  | case7 c hc e hlookup he a afterOne ha ih =>
    obtain rfl : c = '\\' := by simpa using hc
    obtain rfl : e = 'x' := by simpa using he
    refine .kept (fun d rest => not_isEscapeOrShort hlookup fun _ b hb => ?_) (.plain (by decide) ih)
    rwa [← Option.some.inj hb]
  | case8 c hc e hlookup he a high ha =>
    obtain rfl : c = '\\' := by simpa using hc
    obtain rfl : e = 'x' := by simpa using he
    exact .escape (Or.inr (.code ha fun b hb => by simp at hb)) .nil
  | case9 c hc e hlookup he a high ha b afterTwo hb ih =>
    obtain rfl : c = '\\' := by simpa using hc
    obtain rfl : e = 'x' := by simpa using he
    refine .escape (Or.inr (.code ha fun d hd => ?_)) ih
    rwa [← Option.some.inj hd]
  | case10 c hc e hlookup he a high ha b afterTwo low hb ih =>
    obtain rfl : c = '\\' := by simpa using hc
    obtain rfl : e = 'x' := by simpa using he
    exact .escape (Or.inl (.code _ ha hb)) ih

/-! ### Codes of one digit -/

/-- A code of one digit is met when the text is decoded with the table. -/
inductive MeetsShortCode : List Char → Prop
  | here {c : Char} {cs rest : List Char} : IsShortCode cs c rest → MeetsShortCode ('\\' :: cs)
  | plain {c : Char} {cs : List Char} : c ≠ '\\' → MeetsShortCode cs → MeetsShortCode (c :: cs)
  | escape {c : Char} {cs rest : List Char} : IsEscape cs c rest → MeetsShortCode rest →
      MeetsShortCode ('\\' :: cs)
  | kept {cs : List Char} : (∀ c rest, ¬ IsEscape cs c rest) → MeetsShortCode cs →
      MeetsShortCode ('\\' :: cs)

/-- The two ways to decode: with codes of one digit the result is shorter if there are any, and the
same if there are none. -/
theorem Decodes.compare (h : Decodes IsEscape cs ds) (h' : Decodes IsEscapeOrShort cs ds') :
    ds'.length ≤ ds.length ∧ (MeetsShortCode cs → ds'.length < ds.length) ∧
      (¬ MeetsShortCode cs → ds' = ds) := by
  induction h generalizing ds' with
  | nil =>
    cases h'
    refine ⟨Nat.le_refl _, ?_, fun _ => rfl⟩
    rintro ⟨⟩
  | plain hc _ ih =>
    cases h' with
    | plain _ h' =>
      obtain ⟨hle, hlt, heq⟩ := ih h'
      refine ⟨Nat.succ_le_succ hle, fun hmeets => ?_, fun hnot => ?_⟩
      · cases hmeets with
        | plain _ hmeets => exact Nat.succ_lt_succ (hlt hmeets)
        | here | escape | kept => exact absurd rfl hc
      · rw [heq fun hmeets => hnot (.plain hc hmeets)]
    | escape | kept => exact absurd rfl hc
  | escape hescape _ ih =>
    obtain ⟨rest', hrest'⟩ := exists_decodes isTable_isEscapeOrShort _
    obtain rfl := h'.unique isTable_isEscapeOrShort (.escape (Or.inl hescape) hrest')
    obtain ⟨hle, hlt, heq⟩ := ih hrest'
    refine ⟨Nat.succ_le_succ hle, fun hmeets => ?_, fun hnot => ?_⟩
    · cases hmeets with
      | here hshort => exact absurd hescape hshort.not_isEscape
      | plain hc _ => exact absurd rfl hc
      | escape hescape' hmeets =>
        obtain ⟨rfl, rfl⟩ := isTable_isEscape.unique hescape hescape'
        exact Nat.succ_lt_succ (hlt hmeets)
      | kept hnone _ => exact absurd hescape (hnone _ _)
    · rw [heq fun hmeets => hnot (.escape hescape hmeets)]
  | @kept cs ds hnone _ ih =>
    cases h' with
    | plain hc _ => exact absurd rfl hc
    | @escape _ _ rest ds' hread h' =>
      -- the code is one character, where the table keeps the backslash, the letter and the digit
      have hshort := hread.resolve_left (hnone _ _)
      cases hshort with
      | @code a value _ ha hdigit =>
        have hne : a ≠ '\\' := by
          rintro rfl
          cases ha
        obtain ⟨hle, _, _⟩ := ih (.plain (by decide) (.plain hne h'))
        simp only [List.length_cons] at hle ⊢
        refine ⟨by omega, fun _ => by omega, fun hnot => ?_⟩
        exact absurd (.here (.code ha hdigit)) hnot
    | kept hnone' h' =>
      obtain ⟨hle, hlt, heq⟩ := ih h'
      refine ⟨Nat.succ_le_succ hle, fun hmeets => ?_, fun hnot => ?_⟩
      · cases hmeets with
        | here hshort => exact absurd (Or.inr hshort) (hnone' _ _)
        | plain hc _ => exact absurd rfl hc
        | escape hescape _ => exact absurd hescape (hnone _ _)
        | kept _ hmeets => exact Nat.succ_lt_succ (hlt hmeets)
      · rw [heq fun hmeets => hnot (.kept hnone hmeets)]

/-- **How the reader of literals decodes.**  It follows the table of escapes with the codes of one digit;
what it makes of a text is what the table says exactly if no code of one digit is met. -/
theorem unescape_decodes (text : List Char) :
    (∀ ds, unescape text = ds ↔ Decodes IsEscapeOrShort text ds) ∧
    ∃ ds, Decodes IsEscape text ds ∧ (∀ ds', Decodes IsEscape text ds' → ds' = ds) ∧
      (unescape text = ds ↔ ¬ MeetsShortCode text) := by
  have hread := decodes_unescape text
  obtain ⟨ds, hds⟩ := exists_decodes isTable_isEscape text
  obtain ⟨_, hlt, heq⟩ := hds.compare hread
  refine ⟨fun ds => ⟨?_, fun h => hread.unique isTable_isEscapeOrShort h⟩, ds, hds,
    fun ds' h => h.unique isTable_isEscape hds, fun h hmeets => ?_, heq⟩
  · rintro rfl
    exact hread
  · have hshorter := hlt hmeets
    rw [h] at hshorter
    exact Nat.lt_irrefl _ hshorter

/-- The table keeps a code of one digit as it is written, and the reader decodes it. -/
theorem code_of_one_digit :
    Decodes IsEscape ['\\', 'x', '4', 'g'] ['\\', 'x', '4', 'g'] ∧
      unescape ['\\', 'x', '4', 'g'] = ['\x04', 'g'] ∧
      ¬ ∀ text ds, Decodes IsEscape text ds → unescape text = ds := by
  have hkept : Decodes IsEscape ['\\', 'x', '4', 'g'] ['\\', 'x', '4', 'g'] := by
    refine .kept (fun c rest h => ?_)
      (.plain (by decide) (.plain (by decide) (.plain (by decide) .nil)))
    have hdigit : ∀ b ∈ ['g'].head?, hexValue? b = none := by
      rintro b ⟨⟩
      decide
    have hshort : IsShortCode ['x', '4', 'g'] (Char.ofNat 4) ['g'] := .code (by decide) hdigit
    exact hshort.not_isEscape h
  have hread : unescape ['\\', 'x', '4', 'g'] = ['\x04', 'g'] := by cbv
  refine ⟨hkept, hread, fun hall => ?_⟩
  have heq := hall _ _ hkept
  rw [hread] at heq
  exact absurd heq (by decide)

end RuleLexer.Clause
