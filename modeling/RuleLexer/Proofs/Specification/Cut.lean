import RuleLexer.Proofs.Specification.Separator

/-!
# Tests in front of blanks that are added

A test is cut off at the first separator (`exists_of_cut?_eq_some`).  Blanks behind the text add no
separator before the one that is read (`Reads.append_blanks_eq_none`).  Where none is read, they add one
at the end of the text at most (`Reads.exists_of_cut?_append_blanks`).

So a test stays as it is (`Reads.cutTest?_append_blanks`), unless it is empty: then a separator was read
at once, the text behind the blanks at its start has none, and the one that is added at the end counts.

All of this holds of any reader of separators that do not begin inside each other (`Reads`).
-/

namespace RuleLexer.Form

open Text

variable {α : Type} {a b : α} {separator? : List Char → Option α} {key : α → List String}
  {rest : α → List Char} {wss : List (List String)} {cs ds g p q r t w test action : List Char}
  {ws : List String}

/-! ### Cutting off the test -/

/-- The last words of the text spell the keywords. -/
def EndsIn (ws : List String) (cs : List Char) : Prop :=
  ∃ ks, List.Forall₂ Spells ks ws ∧ ks <:+ words cs

theorem exists_of_cut?_eq_some (h : cut? separator? cs = some (test, a)) :
    ∃ r, cs = test ++ r ∧ r ≠ [] ∧ separator? r = some a ∧
      ∀ p q, test = p ++ q → q ≠ [] → separator? (q ++ r) = none := by
  induction cs generalizing test with
  | nil => cases h
  | cons c cs ih =>
    rw [cut?] at h
    split at h
    next hsep =>
      obtain ⟨rfl, rfl⟩ := Prod.mk.inj (Option.some.inj h)
      refine ⟨c :: cs, rfl, List.cons_ne_nil c cs, hsep, fun p q hpq hq => ?_⟩
      exact absurd (List.append_eq_nil_iff.1 hpq.symm).2 hq
    next hnone =>
      obtain ⟨⟨test', a'⟩, hcut, heq⟩ := Option.map_eq_some_iff.1 h
      obtain ⟨rfl, rfl⟩ := Prod.mk.inj heq
      obtain ⟨r, rfl, hr, hsep, hinside⟩ := ih hcut
      refine ⟨r, rfl, hr, hsep, fun p q hpq hq => ?_⟩
      rcases List.cons_eq_append_iff.1 hpq with ⟨rfl, rfl⟩ | ⟨p', rfl, hpq'⟩
      · exact hnone
      · exact hinside p' q hpq' hq

theorem separator?_eq_none_of_cut? (h : cut? separator? (p ++ q) = none) (hq : q ≠ []) :
    separator? q = none := by
  by_contra hsome
  rw [← ne_eq, Option.ne_none_iff_isSome] at hsome
  obtain ⟨before, a, hcut, _⟩ := exists_cut?_of_isSome (p := p) hq hsome
  rw [h] at hcut
  cases hcut

theorem exists_gap_of_dropBlanks? (h : dropBlanks? cs = some ds) :
    ∃ g, g.all isBlank = true ∧ g ≠ [] ∧ cs = g ++ ds ∧ StartsSolid ds := by
  obtain ⟨hne, hstop, rfl⟩ := dropBlanks?_eq_some.1 h
  obtain ⟨g, hg, hcs⟩ := exists_blanks_append_trimStart cs
  refine ⟨g, hg, ?_, hcs, startsSolid_trimStart cs⟩
  rintro rfl
  obtain ⟨c, cs', rfl⟩ := List.exists_cons_of_ne_nil hne
  have hsolid := startsSolid_trimStart (c :: cs')
  rw [List.nil_append] at hcs
  rw [← hcs, startsSolid_cons, stopsWord_cons.1 hstop] at hsolid
  cases hsolid

theorem cutTest?_gap (hg : g.all isBlank = true) (hne : g ≠ []) (ht : StartsSolid t) :
    cutTest? separator? (g ++ t) =
      (cut? separator? t).or ((separator? (g.tail ++ t)).map fun a => ([], a)) := by
  simp only [cutTest?, dropBlanks?_append hg hne ht, List.tail_append_of_ne_nil hne]
  cases cut? separator? t <;> rfl

section Blanks

variable (hreads : Reads separator? key rest wss) (hw : w.all isBlank = true)

include hreads

theorem Reads.exists_words (h : separator? r = some a) :
    ∃ k ks, List.Forall₂ Spells (k :: ks) (key a) ∧ words r = k :: (ks ++ words (rest a)) := by
  obtain ⟨hkey, hsep, _⟩ := hreads.sound h
  obtain ⟨ks, hks, hwords⟩ := hsep.words_eq
  cases ks with
  | nil => exact absurd (List.forall₂_nil_left_iff.1 hks) (hreads.isSeparators.ne_nil _ hkey)
  | cons k ks => exact ⟨k, ks, hks, hwords⟩

theorem Reads.not_separates {after : List (List Char)} (hnone : separator? q = none) (hws : ws ∈ wss) :
    ¬ Separates ws q after := by
  intro h
  have hsome := hreads.complete hws h
  rw [hnone] at hsome
  cases hsome

include hw

/-- Where the separator that is read behind a blank is none without it, it is the whole text. -/
theorem Reads.of_append_blanks (hq : q ≠ []) (hnone : separator? q = none)
    (h : separator? (q ++ w) = some b) :
    StopsWord q ∧ EndsSolid q ∧ List.Forall₂ Spells (words q) (key b) ∧ rest b = [] := by
  obtain ⟨hkey, hsep, hsolid⟩ := hreads.sound h
  rcases hsep.of_append_blanks hq hw with hread | ⟨hnil, hends, hwords⟩
  · exact absurd hread (hreads.not_separates hnone hkey)
  · refine ⟨(stopsWord_append hq).1 hsep.stopsWord, hends, hwords, ?_⟩
    by_contra hne
    exact words_ne_nil hsolid hne hnil

/-- **A blank behind the text adds no separator before the one that is read.** -/
theorem Reads.append_blanks_eq_none (hr : separator? r = some a) (hnone : separator? (q ++ r) = none) :
    separator? (q ++ r ++ w) = none := by
  rw [Option.eq_none_iff_forall_ne_some]
  intro b hb
  obtain ⟨hkey, hsep, _⟩ := hreads.sound hr
  have hrne := hsep.ne_nil (hreads.isSeparators.ne_nil _ hkey)
  obtain ⟨hstop, hends, hwords, _⟩ :=
    hreads.of_append_blanks hw (by simp [hrne]) hnone hb
  obtain ⟨k, ks, hks, hr'⟩ := hreads.exists_words hr
  rw [words_append q hsep.stopsWord, hr'] at hwords
  -- the separator that is added would begin behind other words, which no separator does
  have hnil := hreads.isSeparators.eq_nil_of_forall₂ hkey (hreads.sound hb).1 hks hwords
  have hread : Separates (key a) (q ++ r) (words (rest a)) :=
    ⟨hstop, ⟨k :: ks, hks, by rw [words_append q hsep.stopsWord, hnil, hr']; rfl⟩,
      hsep.goesOn.imp_right fun h hends => h hends.of_append⟩
  exact hreads.not_separates hnone hkey hread

/-- The separator that a blank behind the text adds where there is none. -/
theorem Reads.exists_of_cut?_append_blanks (ht : StartsSolid t) (hnone : cut? separator? t = none)
    (h : cut? separator? (t ++ w) = some (test, b)) :
    ∃ q, t = test ++ q ∧ test ≠ [] ∧ StopsWord q ∧ List.Forall₂ Spells (words q) (key b) ∧
      rest b = [] := by
  obtain ⟨r, hsplit, hr, hsep, _⟩ := exists_of_cut?_eq_some h
  obtain ⟨k, ks, _, hwords⟩ := hreads.exists_words hsep
  obtain ⟨q, hq, rfl, rfl⟩ : ∃ q, q ≠ [] ∧ t = test ++ q ∧ r = q ++ w := by
    -- the separator has words, so it does not lie in the blanks
    have hblank : ∀ m, w = m ++ r → False := by
      rintro m rfl
      rw [List.all_append, Bool.and_eq_true] at hw
      rw [words_eq_nil_iff.2 hw.2] at hwords
      cases hwords
    rcases List.append_eq_append_iff.1 hsplit with ⟨m, _, hwm⟩ | ⟨q, htq, hrq⟩
    · exact (hblank m hwm).elim
    · refine ⟨q, ?_, htq, hrq⟩
      rintro rfl
      exact hblank [] hrq.symm
  obtain ⟨hstop, _, hq', hrest⟩ :=
    hreads.of_append_blanks hw hq (separator?_eq_none_of_cut? hnone hq) hsep
  refine ⟨q, rfl, ?_, hstop, hq', hrest⟩
  rintro rfl
  obtain ⟨c, q, rfl⟩ := List.exists_cons_of_ne_nil hq
  rw [List.nil_append, startsSolid_cons, stopsWord_cons.1 hstop] at ht
  cases ht

theorem Reads.isSome_append_blanks (hwne : w ≠ []) (h : separator? r = some a) :
    (separator? (r ++ w)).isSome = true := by
  obtain ⟨hkey, hsep, _⟩ := hreads.sound h
  exact hreads.complete hkey (hsep.append_blanks (hreads.isSeparators.ne_nil _ hkey) hw hwne)

/-- With a blank behind it, a text that ends in the words of a separator has a separator. -/
theorem Reads.isSome_cut?_of_endsIn (hwne : w ≠ []) (hws : ws ∈ wss) (h : separator? r = some a)
    (ht : words t = words r) (hends : EndsIn ws (rest a)) :
    (cut? separator? (t ++ w)).isSome = true := by
  obtain ⟨k, ks, _, hr⟩ := hreads.exists_words h
  obtain ⟨ks', hks', before, hbefore⟩ := hends
  have hwords : words t = (k :: (ks ++ before)) ++ ks' := by
    rw [ht, hr, ← hbefore, List.cons_append, List.append_assoc]
  obtain ⟨x, q, rfl, hstop, hq⟩ := exists_of_words_eq_append hwords (List.cons_ne_nil _ _)
  have hqne : q ≠ [] := by
    rintro rfl
    rw [words_nil] at hq
    rw [← hq] at hks'
    exact hreads.isSeparators.ne_nil _ hws (List.forall₂_nil_left_iff.1 hks')
  have hq' : words (q ++ w) = ks' ++ [] := by rw [words_append_blanks hw, hq, List.append_nil]
  have hsep : Separates ws (q ++ w) [] :=
    ⟨(stopsWord_append hqne).2 hstop, ⟨ks', hks', hq'⟩, Or.inr (not_endsSolid_append hw hwne q)⟩
  obtain ⟨test, b, hcut, _⟩ := exists_cut?_of_isSome (p := x) (by simp [hqne])
    (hreads.complete hws hsep)
  rw [List.append_assoc, hcut]
  rfl

omit hw in
/-- The words of a separator at the end of a text stand behind those of another at the start. -/
theorem Reads.endsIn_of_words_eq (ha : separator? r = some a) (hb : key b ∈ wss)
    (hq : List.Forall₂ Spells (words q) (key b)) (htest : words test ≠ [])
    (h : words r = words test ++ words q) : EndsIn (key b) (rest a) := by
  obtain ⟨k, ks, hks, hr⟩ := hreads.exists_words ha
  rw [h, ← List.cons_append] at hr
  rcases List.append_eq_append_iff.1 hr with ⟨m, hm, hqm⟩ | ⟨m, hm, hqm⟩
  · cases m with
    | nil =>
      rw [List.nil_append] at hqm
      exact ⟨words q, hq, hqm ▸ List.suffix_rfl⟩
    | cons k' m =>
      rw [hm] at hks
      rw [hqm, List.cons_append] at hq
      exact absurd (hreads.isSeparators.eq_nil_of_forall₂ hb (hreads.sound ha).1 hq hks) htest
  · exact ⟨words q, hq, m, hqm.symm⟩

/-- A test in front of a separator stays as it is. -/
theorem Reads.cut?_append_blanks (hwne : w ≠ []) (h : cut? separator? t = some (test, a)) :
    ∃ r, separator? r = some a ∧
      cut? separator? (t ++ w) = (separator? (r ++ w)).map fun b => (test, b) := by
  obtain ⟨r, rfl, hr, hsep, hinside⟩ := exists_of_cut?_eq_some h
  obtain ⟨b, hb⟩ := Option.isSome_iff_exists.1 (hreads.isSome_append_blanks hw hwne hsep)
  refine ⟨r, hsep, ?_⟩
  rw [List.append_assoc, cut?_append (by simp [hr]) hb, hb, Option.map_some]
  intro p q hpq hq
  rw [← List.append_assoc]
  exact hreads.append_blanks_eq_none hw hsep (hinside p q hpq hq)

omit hw in
theorem Reads.ne_nil_of_cut? (ht : StartsSolid t) (h : cut? separator? t = some (test, a)) :
    test ≠ [] := by
  rintro rfl
  obtain ⟨r, rfl, hr, hsep, _⟩ := exists_of_cut?_eq_some h
  obtain ⟨c, r, rfl⟩ := List.exists_cons_of_ne_nil hr
  rw [startsSolid_cons] at ht
  rw [stopsWord_cons.1 (hreads.sound hsep).2.1.stopsWord] at ht
  cases ht

/-- **The test with a blank behind the text.**  It is cut off where it is without the blank, with one
exception: if the test is empty and a separator stands at the end of what follows, then all that comes
before that separator is the test, and nothing follows. -/
theorem Reads.cutTest?_append_blanks (hwne : w ≠ []) (h : cutTest? separator? cs = some (test, a)) :
    (∃ r, separator? r = some a ∧ (test = [] → ∀ ws ∈ wss, ¬ EndsIn ws (rest a)) ∧
        cutTest? separator? (cs ++ w) = (separator? (r ++ w)).map fun b => (test, b)) ∨
      test = [] ∧ ∃ test' b, test' ≠ [] ∧ rest b = [] ∧ EndsIn (key b) (rest a) ∧
        cutTest? separator? (cs ++ w) = some (test', b) := by
  obtain ⟨t, ht⟩ : ∃ t, dropBlanks? cs = some t := by
    rw [← Option.isSome_iff_exists]
    by_contra hnone
    rw [Option.not_isSome_iff_eq_none] at hnone
    rw [cutTest?, hnone] at h
    cases h
  obtain ⟨g, hg, hgne, rfl, hsolid⟩ := exists_gap_of_dropBlanks? ht
  have hwords : words (g.tail ++ t) = words t := by
    have htail : g.tail.all isBlank = true :=
      List.all_eq_true.2 fun c hc => List.all_eq_true.1 hg c (List.mem_of_mem_tail hc)
    rw [← words_trimStart, trimStart_append_of_blanks htail, words_trimStart]
  rw [cutTest?_gap hg hgne hsolid] at h
  cases hcut : cut? separator? t with
  | some cut =>
    rw [hcut, Option.some_or] at h
    obtain rfl := Option.some.inj h
    have htne : t ≠ [] := by
      rintro rfl
      cases hcut
    obtain ⟨r, hsep, hcut'⟩ := hreads.cut?_append_blanks hw hwne hcut
    obtain ⟨b, hb⟩ := Option.isSome_iff_exists.1 (hreads.isSome_append_blanks hw hwne hsep)
    refine Or.inl ⟨r, hsep, fun hnil => absurd hnil (hreads.ne_nil_of_cut? hsolid hcut), ?_⟩
    rw [List.append_assoc, cutTest?_gap hg hgne ((startsSolid_append htne).2 hsolid), hcut', hb,
      Option.map_some, Option.some_or]
  | none =>
    rw [hcut, Option.none_or] at h
    obtain ⟨a', hsep, heq⟩ := Option.map_eq_some_iff.1 h
    obtain ⟨rfl, rfl⟩ := Prod.mk.inj heq
    have htne : t ≠ [] := by
      rintro rfl
      obtain ⟨k, ks, _, hr⟩ := hreads.exists_words hsep
      rw [hwords, words_nil] at hr
      cases hr
    rw [List.append_assoc, cutTest?_gap hg hgne ((startsSolid_append htne).2 hsolid)]
    cases hcut' : cut? separator? (t ++ w) with
    | none =>
      refine Or.inl ⟨g.tail ++ t, hsep, fun _ ws hws hends => ?_,
        by rw [Option.none_or, List.append_assoc]⟩
      have hsome := hreads.isSome_cut?_of_endsIn hw hwne hws hsep hwords.symm hends
      rw [hcut'] at hsome
      cases hsome
    | some cut =>
      obtain ⟨test', b⟩ := cut
      obtain ⟨q, rfl, htest, hstop, hq, hrest⟩ :=
        hreads.exists_of_cut?_append_blanks hw hsolid hcut hcut'
      obtain ⟨r, _, _, hr, _⟩ := exists_of_cut?_eq_some hcut'
      refine Or.inr ⟨rfl, test', b, htest, hrest, ?_, rfl⟩
      refine hreads.endsIn_of_words_eq hsep (hreads.sound hr).1 hq
        (words_ne_nil ((startsSolid_append htest).1 hsolid) htest) ?_
      rw [hwords, words_append test' hstop]

end Blanks

end RuleLexer.Form
