import RuleLexer.Proofs.Specification.Keyword

/-!
# Lines that are written

For each form of line, what is read from a line that is written in that form:
`read?_ifRule`, `read?_letRule`, `read?_breakOn` and `read?_define`.

A rule is cut at the first separator, so the point of the first two is that none begins inside the
test (`cutTest?_append`).  A let-rule has four separators, and the one that is written has to be the
first of them that is read (`kindSeparator?_writtenAs`).
-/

namespace RuleLexer

/-- The words that a kind is written with. -/
def LetKind.words : LetKind → List String
  | be => ["be"]
  | beGroup => ["be", "group"]
  | throw => ["throw"]
  | expandGroup => ["expand", "group"]

namespace Form

open Text
open Unicode (isLower_toLower fold_of_isAlpha)

variable {g g' k name r rest test action text value x y : List Char} {word : String}
  {form? : List Char → Option Form} {form : Form} {kind : LetKind}

theorem isPlainKeyword_of_mem_words : ∀ word ∈ kind.words, IsPlainKeyword word := by
  cases kind <;> decide

theorem isKeyword_of_mem_words : ∀ word ∈ kind.words, IsKeyword word :=
  fun word h => (isPlainKeyword_of_mem_words word h).1

/-! ### The keyword of a line -/

theorem isKeyword_of_mem_keywords : ∀ e ∈ keywords, IsKeyword e.1 := by
  decide

/-- The keywords begin with letters of their own, so no line begins with two of them. -/
theorem nodup_head_keywords : (keywords.map fun e => e.1.toList.head?).Nodup := by
  decide

/-- The form of a line is the one whose keyword it begins with. -/
theorem read?_of_dropWord? (hmem : (word, form?) ∈ keywords)
    (hword : dropWord? word.toList (trimStart text) = some rest) (hform : form? rest = some form) :
    read? text = some form := by
  obtain ⟨before, after, hsplit⟩ := List.append_of_mem hmem
  rw [read?, List.findSome?_eq_some_iff]
  refine ⟨before, _, after, hsplit, ?_, ?_⟩
  · show (dropWord? word.toList (trimStart text)).bind form? = some form
    rw [hword, Option.bind_some, hform]
  · rintro ⟨word', form'?⟩ hbefore
    have hkeyword := isKeyword_of_mem_keywords _ hmem
    have hkeyword' := isKeyword_of_mem_keywords (word', form'?) (by rw [hsplit]; simp [hbefore])
    have hne : word'.toList.head? ≠ word.toList.head? := by
      have hnodup := nodup_head_keywords
      rw [hsplit, List.map_append, List.nodup_append] at hnodup
      exact hnodup.2.2 _ (List.mem_map_of_mem hbefore) _ (by simp)
    show (dropWord? word'.toList (trimStart text)).bind form'? = none
    cases hword' : dropWord? word'.toList (trimStart text) with
    | none => rfl
    | some rest' =>
      exact absurd ((head?_of_dropWord? hkeyword'.1 hword').symm.trans
        (head?_of_dropWord? hkeyword.1 hword)) hne

theorem read?_of_mem_keywords (hmem : (word, form?) ∈ keywords) (h : Spells k word)
    (hform : form? rest = some form) : read? (k ++ rest) = some form := by
  have hkeyword := isKeyword_of_mem_keywords _ hmem
  refine read?_of_dropWord? hmem ?_ hform
  rw [trimStart_of_startsSolid (h.startsSolid hkeyword), dropWord?_spells h hkeyword]

/-! ### Cutting off the test -/

variable {α : Type} {separator? : List Char → Option α} {a : α}

theorem cut?_append (hr : r ≠ []) (hsep : separator? r = some a)
    (hcut : ∀ p q, text = p ++ q → q ≠ [] → separator? (q ++ r) = none) :
    cut? separator? (text ++ r) = some (text, a) := by
  induction text with
  | nil =>
    obtain ⟨c, cs, rfl⟩ := List.exists_cons_of_ne_nil hr
    rw [List.nil_append, cut?, hsep]
  | cons c text ih =>
    have hnone := hcut [] (c :: text) rfl (List.cons_ne_nil _ _)
    have htail := ih fun p q hpq hq => hcut (c :: p) q (by rw [hpq, List.cons_append]) hq
    rw [List.cons_append] at hnone ⊢
    rw [cut?, hnone]
    simp only [htail, Option.map_some]

/-- **The test goes up to the separator**, if none begins inside it. -/
theorem cutTest?_append (hg : IsGap g) (ht : text ≠ []) (hs : StartsSolid text) (hr : r ≠ [])
    (hsep : separator? r = some a)
    (hcut : ∀ p q, text = p ++ q → q ≠ [] → separator? (q ++ r) = none) :
    cutTest? separator? (g ++ (text ++ r)) = some (text, a) := by
  have hsolid : StartsSolid (text ++ r) := (startsSolid_append ht).2 hs
  rw [cutTest?, dropBlanks?_append hg.all_isBlank hg.1 hsolid]
  simp only [cut?_append hr hsep hcut]

/-! ### If-rules -/

theorem thenSeparator?_eq (cs : List Char) :
    thenSeparator? cs = (dropBlanks? cs).bind (dropWords? ["then"]) := by
  rw [thenSeparator?]
  congr 1
  funext cs
  rw [dropWords?_cons]
  cases dropWordBlanks? "then" cs <;> rfl

theorem read?_ifRule (hk : Spells k "if") (hg : IsGap g) (hg' : IsGap g')
    (hy : WrittenAs ["then"] y) (ht : test ≠ []) (hstart : StartsSolid test)
    (hend : EndsSolid test) (hthen : ∀ w ∈ words test, ¬ Spells w "then")
    (hs : StartsSolid action) (he : EndsSolid action) :
    read? (k ++ (g ++ (test ++ (g' ++ (y ++ action))))) = some (.ifRule test action) := by
  have hplain : ∀ word ∈ ["then"], IsPlainKeyword word := by decide
  have hkeyword : ∀ word ∈ ["then"], IsKeyword word := by decide
  refine read?_of_mem_keywords (List.mem_cons_self) hk ?_
  have hsep : thenSeparator? (g' ++ (y ++ action)) = some action := by
    rw [thenSeparator?_eq, dropBlanks?_append hg'.all_isBlank hg'.1 (hy.startsSolid hkeyword hs),
      Option.bind_some, dropWords?_writtenAs hy hkeyword hs]
  have hcut : ∀ p q, test = p ++ q → q ≠ [] →
      thenSeparator? (q ++ (g' ++ (y ++ action))) = none := by
    intro p q hpq hq
    rw [hpq] at hend hthen
    rw [thenSeparator?_eq]
    refine bind_dropWords?_eq_none (p := p) hg'.stopsWord hplain ?_ ?_ hq hend.of_append
    · intro word hword
      simp at hword
    · intro ks hks hwithin
      obtain ⟨w, _, hw, hnil, rfl⟩ := List.forall₂_cons_right_iff.1 hks
      obtain rfl := List.forall₂_nil_right_iff.1 hnil
      exact hthen w (hwithin.subset List.mem_cons_self) hw
  rw [ifRule?, cutTest?_append hg ht hstart (by simp [hg'.1]) hsep hcut]
  simp only [Option.map_some, trimEnd_of_endsSolid he]

/-! ### Let-rules -/

theorem kindSeparator?_eq (cs : List Char) :
    kindSeparator? cs = (dropBlanks? cs).bind fun cs =>
      [LetKind.beGroup, .be, .throw, .expandGroup].findSome? fun kind =>
        (dropWords? kind.words cs).map fun rest => (kind, rest) := rfl

/-- A keyword is not read where one is written that begins with another letter. -/
theorem dropWordBlanks?_eq_none_of_head? {ws : List String} {word' : String}
    (h : WrittenAs (word :: ws) y) (hw : IsKeyword word) (hw' : IsKeyword word')
    (hne : word'.toList.head? ≠ word.toList.head?) : dropWordBlanks? word' (y ++ r) = none := by
  cases h with
  | cons hspells hg hrest =>
    rw [List.append_assoc, List.append_assoc, dropWordBlanks?,
      dropWord?_eq_none hspells hw hw' hne, Option.bind_none]

theorem dropWordBlanks?_eq_none (hw : IsPlainKeyword word)
    (h : ∀ w ∈ (words text).head?, ¬ Spells w word) : dropWordBlanks? word text = none := by
  rw [Option.eq_none_iff_forall_ne_some]
  intro ds hds
  rw [← List.append_nil text] at hds
  obtain ⟨k, q, hspells, rfl, hstop, _⟩ := exists_of_dropWordBlanks?_append hw stopsWord_nil hds
  refine h k ?_ hspells
  rw [hspells.words_append hw.1 hstop]
  rfl

/-- **The kind that is read is the one that is written**, although `be` is also the first word of
another kind: it is not read as that one, as the action does not begin with `group`. -/
theorem kindSeparator?_writtenAs (hg : IsGap g) (hy : WrittenAs kind.words y)
    (hs : StartsSolid action)
    (hgroup : kind = .be → ∀ w ∈ (words action).head?, ¬ Spells w "group") :
    kindSeparator? (g ++ (y ++ action)) = some (kind, action) := by
  have hread : dropWords? kind.words (y ++ action) = some action :=
    dropWords?_writtenAs hy isKeyword_of_mem_words hs
  rw [kindSeparator?_eq, dropBlanks?_append hg.all_isBlank hg.1
    (hy.startsSolid isKeyword_of_mem_words hs), Option.bind_some]
  cases kind with
  | beGroup => rw [List.findSome?_cons, hread, Option.map_some]
  | be =>
    have hbeGroup : dropWords? LetKind.beGroup.words (y ++ action) = none := by
      cases hy with
      | cons hspells hgap hnil =>
        cases hnil
        rw [List.append_nil, List.append_assoc, LetKind.words, dropWords?_cons,
          dropWordBlanks?_spells hspells (by decide) hgap hs, Option.bind_some, dropWords?_cons,
          dropWordBlanks?_eq_none (by decide) (hgroup rfl)]
        rfl
    rw [List.findSome?_cons, hbeGroup, Option.map_none, List.findSome?_cons, hread,
      Option.map_some]
  | throw =>
    have hbe : ∀ ws, dropWords? ("be" :: ws) (y ++ action) = none := by
      intro ws
      rw [dropWords?_cons, dropWordBlanks?_eq_none_of_head? hy (by decide) (by decide) (by decide),
        Option.bind_none]
    rw [List.findSome?_cons, LetKind.words, hbe, Option.map_none, List.findSome?_cons,
      LetKind.words, hbe, Option.map_none, List.findSome?_cons, hread, Option.map_some]
  | expandGroup =>
    have hbe : ∀ ws, dropWords? ("be" :: ws) (y ++ action) = none := by
      intro ws
      rw [dropWords?_cons, dropWordBlanks?_eq_none_of_head? hy (by decide) (by decide) (by decide),
        Option.bind_none]
    have hthrow : dropWords? ["throw"] (y ++ action) = none := by
      rw [dropWords?_cons, dropWordBlanks?_eq_none_of_head? hy (by decide) (by decide) (by decide),
        Option.bind_none]
    rw [List.findSome?_cons, LetKind.words, hbe, Option.map_none, List.findSome?_cons,
      LetKind.words, hbe, Option.map_none, List.findSome?_cons, LetKind.words, hthrow,
      Option.map_none, List.findSome?_cons, hread, Option.map_some]

theorem kindSeparator?_eq_none {cs : List Char}
    (h : ∀ kind : LetKind, (dropBlanks? cs).bind (dropWords? kind.words) = none) :
    kindSeparator? cs = none := by
  rw [kindSeparator?_eq, Option.bind_eq_none_iff]
  intro ds hds
  rw [List.findSome?_eq_none_iff]
  intro kind _
  have hkind := h kind
  rw [hds, Option.bind_some] at hkind
  rw [hkind, Option.map_none]

/-- The words of no kind stand next to each other in a test. -/
def NoKind (test : List Char) : Prop :=
  (∀ w ∈ words test, ¬ Spells w "be" ∧ ¬ Spells w "throw") ∧
    (words test).IsChain fun v w => ¬ (Spells v "expand" ∧ Spells w "group")

theorem NoKind.not_within (h : NoKind test) (kind : LetKind) {ks : List (List Char)}
    (hks : List.Forall₂ Spells ks kind.words) : ¬ ks <:+: words test := by
  intro hwithin
  cases kind with
  | be | beGroup =>
    obtain ⟨w, ws, hw, _, rfl⟩ := List.forall₂_cons_right_iff.1 hks
    exact (h.1 w (hwithin.subset List.mem_cons_self)).1 hw
  | throw =>
    obtain ⟨w, ws, hw, _, rfl⟩ := List.forall₂_cons_right_iff.1 hks
    exact (h.1 w (hwithin.subset List.mem_cons_self)).2 hw
  | expandGroup =>
    obtain ⟨v, ws, hv, hws, rfl⟩ := List.forall₂_cons_right_iff.1 hks
    obtain ⟨w, _, hw, _, rfl⟩ := List.forall₂_cons_right_iff.1 hws
    obtain ⟨before, after, hsplit⟩ := hwithin
    have hchain := h.2
    rw [← hsplit] at hchain
    exact (List.isChain_cons_cons.1 hchain.left_of_append.right_of_append).1 ⟨hv, hw⟩

theorem read?_letRule (hk : Spells k "let") (hg : IsGap g) (hg' : IsGap g')
    (hy : WrittenAs kind.words y) (ht : test ≠ []) (hstart : StartsSolid test)
    (hend : EndsSolid test) (hkind : NoKind test) (hs : StartsSolid action) (he : EndsSolid action)
    (hgroup : kind = .be → ∀ w ∈ (words action).head?, ¬ Spells w "group") :
    read? (k ++ (g ++ (test ++ (g' ++ (y ++ action))))) = some (.letRule test kind action) := by
  refine read?_of_mem_keywords (List.mem_cons_of_mem _ List.mem_cons_self) hk ?_
  have hcut : ∀ p q, test = p ++ q → q ≠ [] →
      kindSeparator? (q ++ (g' ++ (y ++ action))) = none := by
    intro p q hpq hq
    rw [hpq] at hend hkind
    refine kindSeparator?_eq_none fun kind' => ?_
    refine bind_dropWords?_eq_none (p := p) hg'.stopsWord isPlainKeyword_of_mem_words ?_
      (fun ks hks => hkind.not_within kind' hks) hq hend.of_append
    -- behind the test stands a kind, which does not begin with the second word of another
    intro word hword
    have hgroup' : word = "group" := by cases kind' <;> simp_all [LetKind.words]
    subst hgroup'
    rw [trimStart_append_of_blanks hg'.all_isBlank,
      trimStart_of_startsSolid (hy.startsSolid isKeyword_of_mem_words hs)]
    cases kind <;> exact dropWordBlanks?_eq_none_of_head? hy (by decide) (by decide) (by decide)
  rw [letRule?, cutTest?_append hg ht hstart (by simp [hg'.1])
    (kindSeparator?_writtenAs hg' hy hs hgroup) hcut]
  simp only [Option.map_some, trimEnd_of_endsSolid he]

/-! ### Break patterns and definitions -/

theorem read?_breakOn {literal : List Char} (hk : Spells k "break") (hg : IsGap g)
    (hy : WrittenAs ["on"] y) (hs : StartsSolid literal) (he : EndsSolid literal) :
    read? (k ++ (g ++ (y ++ literal))) = some (.breakOn literal) := by
  have hmem : ("break", breakOn?) ∈ keywords := by simp [keywords]
  refine read?_of_mem_keywords hmem hk ?_
  cases hy with
  | cons hspells hgap hnil =>
    cases hnil
    rw [List.append_nil, List.append_assoc, breakOn?,
      dropBlanks?_append hg.all_isBlank hg.1 (hspells.startsSolid (by decide)), Option.bind_some,
      dropWordBlanks?_spells hspells (by decide) hgap hs, Option.map_some, trimEnd_of_endsSolid he]

/-- A name: a letter of ASCII or an underscore, then word characters. -/
def IsName (name : List Char) : Prop :=
  ∃ c cs, name = c :: cs ∧ (c.isAlpha = true ∨ c = '_') ∧ ∀ d ∈ cs, Unicode.isWord d = true

theorem takeWhile_isWord_append {cs ds : List Char} (hcs : ∀ d ∈ cs, Unicode.isWord d = true)
    (hds : StopsWord ds) :
    (cs ++ ds).takeWhile Unicode.isWord = cs ∧ (cs ++ ds).dropWhile Unicode.isWord = ds :=
  takeWhile_append_of_head? hcs fun d hd => Unicode.isWord_of_isBlank (hds d hd)

theorem readName?_append (h : IsName name) (hr : StopsWord r) :
    readName? (name ++ r) = some (name, r) := by
  obtain ⟨c, cs, rfl, hc, hcs⟩ := h
  have hfirst : ((Unicode.fold c).isAlpha || c == '_') = true := by
    rcases hc with hc | rfl
    · rw [fold_of_isAlpha hc, Char.isAlpha, isLower_toLower, hc, Bool.or_true, Bool.true_or]
    · exact Bool.or_true _
  obtain ⟨htake, hdrop⟩ := takeWhile_isWord_append hcs hr
  rw [List.cons_append, readName?, if_pos hfirst, htake, hdrop]

theorem IsName.isBlank_eq_false (h : IsName name) : ∀ c ∈ name, isBlank c = false := by
  obtain ⟨c, cs, rfl, hc, hcs⟩ := h
  intro d hd
  rcases List.mem_cons.1 hd with rfl | hd
  · rcases hc with hc | rfl
    · exact isBlank_of_isAlpha hc
    · rfl
  · exact isBlank_of_isWord (hcs d hd)

theorem IsName.startsSolid (h : IsName name) : StartsSolid (name ++ r) := by
  have hsolid := h.isBlank_eq_false
  obtain ⟨c, cs, rfl, _⟩ := h
  exact startsSolid_cons.2 (hsolid c List.mem_cons_self)

/-- How the value of a definition is written, behind the name. -/
inductive ValueWrittenAs : Option (List Char) → List Char → Prop
  | none : ValueWrittenAs none []
  | some {g g' value : List Char} : IsGap g → IsGap g' →
      ValueWrittenAs (some value) (g ++ ('=' :: (g' ++ value)))

theorem ValueWrittenAs.stopsWord {value : Option (List Char)} (h : ValueWrittenAs value x) :
    StopsWord x := by
  cases h with
  | none => exact stopsWord_nil
  | some hg _ => exact hg.stopsWord

theorem readValue?_writtenAs {value : Option (List Char)} (h : ValueWrittenAs value x)
    (hvalue : ∀ v ∈ value, StartsSolid v ∧ EndsSolid v) :
    readValue? x = some (value.getD []) := by
  cases h with
  | none => rfl
  | @some g g' v hg hg' =>
    obtain ⟨hs, he⟩ := hvalue v rfl
    have hsign : trimStart (g ++ ('=' :: (g' ++ v))) = '=' :: (g' ++ v) := by
      rw [trimStart_append_of_blanks hg.all_isBlank]
      rfl
    rw [readValue?, hsign]
    show (if '=' = '=' then some (trim (g' ++ v)) else none) = some v
    rw [if_pos rfl, trim, trimStart_append_of_blanks hg'.all_isBlank, trimStart_of_startsSolid hs,
      trimEnd_of_endsSolid he]

theorem read?_define {value : Option (List Char)} (hk : Spells k "define") (hg : IsGap g)
    (hname : IsName name) (hx : ValueWrittenAs value x)
    (hvalue : ∀ v ∈ value, StartsSolid v ∧ EndsSolid v) :
    read? (k ++ (g ++ (name ++ x))) = some (.define name (value.getD [])) := by
  have hmem : ("define", define?) ∈ keywords := by simp [keywords]
  refine read?_of_mem_keywords hmem hk ?_
  rw [define?, dropBlanks?_append hg.all_isBlank hg.1 hname.startsSolid, Option.bind_some,
    readName?_append hname hx.stopsWord, Option.bind_some]
  simp only [readValue?_writtenAs hx hvalue, Option.map_some]

end Form

end RuleLexer
