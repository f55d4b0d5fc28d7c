import RuleLexer.Specification.Line
import RuleLexer.Proofs.Text.Blank
import RuleLexer.Proofs.Unicode.Folding

/-!
# Keywords

A keyword is written in any case and with blanks behind it.  `WrittenAs` is that relation for the
keywords of a separator, and the results say what the reader makes of them:

* `dropWords?_writtenAs`: it gets past keywords that are written.
* `exists_spells_prefix_words`: where it gets past keywords that begin inside a text, they are words
  of that text, in the same order and next to each other.  So a test that does not contain the words
  of a separator is not cut (`bind_dropWords?_eq_none`).

The second holds of keywords without `k` and `s` only, as these two letters are read in characters
outside ASCII also.  No separator has them.
-/

namespace RuleLexer.Form

open Text
open Unicode (isLower_iff isUpper_iff isLower_toLower fold_of_isAlpha)

variable {c w : Char} {cs ds k g q r t action : List Char} {word : String} {ws : List String}

/-! ### Spelling -/

/-- The text is the word, which is in lower case, up to the case of its letters. -/
def Spells (text : List Char) (word : String) : Prop :=
  text.map Char.toLower = word.toList

instance (text : List Char) (word : String) : Decidable (Spells text word) :=
  inferInstanceAs (Decidable (_ = _))

/-- A word of small letters of ASCII. -/
def IsKeyword (word : String) : Prop :=
  word.toList ≠ [] ∧ ∀ c ∈ word.toList, c.isLower = true

instance (word : String) : Decidable (IsKeyword word) :=
  decidable_of_iff (word.toList ≠ [] ∧ word.toList.all Char.isLower = true) (by
    rw [IsKeyword, List.all_eq_true])

/-- A keyword that is read in its letters and their capitals only. -/
def IsPlainKeyword (word : String) : Prop :=
  IsKeyword word ∧ 'k' ∉ word.toList ∧ 's' ∉ word.toList

instance (word : String) : Decidable (IsPlainKeyword word) :=
  inferInstanceAs (Decidable (_ ∧ _))

/-- No letter is blank. -/
theorem isBlank_of_isAlpha (h : c.isAlpha = true) : isBlank c = false := by
  rw [Char.isAlpha, Bool.or_eq_true, isLower_iff, isUpper_iff] at h
  simp only [isBlank, Bool.or_eq_false_iff, Bool.and_eq_false_iff, decide_eq_false_iff_not,
    beq_eq_false_iff_ne]
  omega

/-- No word character is blank. -/
theorem isBlank_of_isWord (h : Unicode.isWord c = true) : isBlank c = false := by
  by_contra hblank
  rw [Bool.not_eq_false] at hblank
  exact Bool.false_ne_true ((Unicode.isWord_of_isBlank hblank).symm.trans h)

theorem Spells.isAlpha (h : Spells k word) (hw : IsKeyword word) : ∀ c ∈ k, c.isAlpha = true := by
  intro c hc
  rw [← isLower_toLower]
  refine hw.2 _ ?_
  rw [← h]
  exact List.mem_map_of_mem hc

theorem Spells.isBlank_eq_false (h : Spells k word) (hw : IsKeyword word) :
    ∀ c ∈ k, isBlank c = false := by
  intro c hc
  exact isBlank_of_isAlpha (h.isAlpha hw c hc)

theorem Spells.ne_nil (h : Spells k word) (hw : IsKeyword word) : k ≠ [] := by
  intro hk
  subst hk
  exact hw.1 h.symm

/-- A text spells one word. -/
theorem Spells.eq {word' : String} (h : Spells k word) (h' : Spells k word') : word = word' :=
  String.toList_inj.1 (h.symm.trans h')

theorem Spells.startsSolid (h : Spells k word) (hw : IsKeyword word) : StartsSolid (k ++ cs) := by
  rw [startsSolid_append (h.ne_nil hw)]
  intro c hc
  exact h.isBlank_eq_false hw c (List.mem_of_mem_head? hc)

theorem Spells.words_append (h : Spells k word) (hw : IsKeyword word) (hr : StopsWord r) :
    words (k ++ r) = k :: words r := by
  rw [Text.words_append k hr, words_eq_singleton (h.isBlank_eq_false hw) (h.ne_nil hw)]
  rfl

/-! ### Dropping a word -/

theorem dropWord?_spells (h : Spells k word) (hw : IsKeyword word) :
    dropWord? word.toList (k ++ cs) = some cs := by
  have halpha := h.isAlpha hw
  rw [← h]
  clear h
  induction k with
  | nil => rfl
  | cons c k ih =>
    rw [List.map_cons, List.cons_append, dropWord?,
      if_pos (fold_of_isAlpha (halpha c List.mem_cons_self))]
    exact ih fun d hd => halpha d (List.mem_cons_of_mem _ hd)

/-- A word that begins with another letter is not there. -/
theorem dropWord?_eq_none {word' : String} (h : Spells k word) (hw : IsKeyword word)
    (hw' : IsKeyword word') (hne : word'.toList.head? ≠ word.toList.head?) :
    dropWord? word'.toList (k ++ cs) = none := by
  obtain ⟨c, k, rfl⟩ := List.exists_cons_of_ne_nil (h.ne_nil hw)
  obtain ⟨d, ds, hd⟩ := List.exists_cons_of_ne_nil hw'.1
  have hfold := fold_of_isAlpha (h.isAlpha hw c List.mem_cons_self)
  rw [hd, List.cons_append, dropWord?, if_neg]
  intro hcd
  apply hne
  rw [hd, ← h, List.map_cons, List.head?_cons, List.head?_cons, ← hfold, hcd]

/-- Where a word is read, its first letter is that of the text, folded. -/
theorem head?_of_dropWord? {letters : List Char} (hne : letters ≠ [])
    (h : dropWord? letters cs = some ds) : cs.head?.map Unicode.fold = letters.head? := by
  obtain ⟨w, letters, rfl⟩ := List.exists_cons_of_ne_nil hne
  cases cs with
  | nil => cases h
  | cons c cs =>
    rw [dropWord?] at h
    split at h
    next hfold => exact congrArg some hfold
    next => cases h

theorem exists_spells_of_dropWord? (hw : IsPlainKeyword word)
    (h : dropWord? word.toList cs = some ds) : ∃ k, Spells k word ∧ cs = k ++ ds := by
  obtain ⟨⟨_, hlower⟩, hk, hs⟩ := hw
  rw [show word = String.ofList word.toList by simp]
  simp only [Spells, String.toList_ofList]
  generalize word.toList = letters at h hlower hk hs
  induction letters generalizing cs with
  | nil =>
    rw [dropWord?, Option.some.injEq] at h
    exact ⟨[], rfl, h⟩
  | cons w letters ih =>
    rw [List.mem_cons, not_or] at hk hs
    cases cs with
    | nil => simp [dropWord?] at h
    | cons c cs =>
      rw [dropWord?] at h
      split at h
      next hc =>
        have hb := isLower_iff.1 (hlower w List.mem_cons_self)
        have hcw : c.toLower = w :=
          (Unicode.fold_eq_iff_toLower_eq (by omega) (Ne.symm hs.1) (Ne.symm hk.1)).1 hc
        obtain ⟨k, hspells, hcs⟩ :=
          ih h (fun d hd => hlower d (List.mem_cons_of_mem _ hd)) hk.2 hs.2
        exact ⟨c :: k, by rw [List.map_cons, hcw, hspells], by rw [hcs, List.cons_append]⟩
      next => simp at h

/-! ### Dropping a word and blanks -/

theorem dropBlanks?_eq_some : dropBlanks? cs = some ds ↔
    cs ≠ [] ∧ StopsWord cs ∧ trimStart cs = ds := by
  cases cs with
  | nil => simp [dropBlanks?]
  | cons c cs =>
    rw [dropBlanks?, stopsWord_cons]
    by_cases h : isBlank c = true
    · simp [h, trimStart]
    · simp [h]

theorem dropBlanks?_append (hg : g.all isBlank = true) (hne : g ≠ []) (hcs : StartsSolid cs) :
    dropBlanks? (g ++ cs) = some cs := by
  refine dropBlanks?_eq_some.2 ⟨by simp [hne], ?_, ?_⟩
  · rw [stopsWord_append hne]
    exact fun c hc => List.all_eq_true.1 hg c (List.mem_of_mem_head? hc)
  · rw [trimStart_append_of_blanks hg, trimStart_of_startsSolid hcs]

/-- Where a plain keyword with blanks behind it is read at the start of a text that a blank follows,
the keyword belongs to that text. -/
theorem exists_of_dropWordBlanks?_append (hw : IsPlainKeyword word) (hr : StopsWord r)
    (h : dropWordBlanks? word (q ++ r) = some ds) :
    ∃ k q', Spells k word ∧ q = k ++ q' ∧ StopsWord q' ∧ ds = trimStart (q' ++ r) := by
  rw [dropWordBlanks?, Option.bind_eq_some_iff] at h
  obtain ⟨cs, hdrop, hblanks⟩ := h
  obtain ⟨_, hstop, hds⟩ := dropBlanks?_eq_some.1 hblanks
  obtain ⟨k, hspells, hk⟩ := exists_spells_of_dropWord? hw hdrop
  rcases List.append_eq_append_iff.1 hk with ⟨k', hk', hrest⟩ | ⟨q', hq, hcs⟩
  · -- the keyword cannot go on behind the text, where there is a blank
    have hk'nil : k' = [] := by
      cases k' with
      | nil => rfl
      | cons c k' =>
        have hc : c ∈ k := by rw [hk']; simp
        have hsolid := hspells.isBlank_eq_false hw.1 c hc
        rw [hrest, List.cons_append, stopsWord_cons, hsolid] at hr
        exact absurd hr Bool.false_ne_true
    subst hk'nil
    rw [List.append_nil] at hk'
    rw [List.nil_append] at hrest
    exact ⟨k, [], hspells, by rw [hk', List.append_nil], stopsWord_nil,
      by rw [List.nil_append, hrest, hds]⟩
  · refine ⟨k, q', hspells, hq, ?_, by rw [← hds, hcs]⟩
    by_cases hq' : q' = []
    · rw [hq']
      exact stopsWord_nil
    · rw [hcs, stopsWord_append hq'] at hstop
      exact hstop

/-! ### Dropping several words -/

/-- Drops words and the blanks behind each. -/
def dropWords? (words : List String) (cs : List Char) : Option (List Char) :=
  words.foldlM (fun cs word => dropWordBlanks? word cs) cs

theorem dropWords?_cons (word : String) (ws : List String) (cs : List Char) :
    dropWords? (word :: ws) cs = (dropWordBlanks? word cs).bind (dropWords? ws) := rfl

/-- A place between two parts of a line, written with spaces and tabs. -/
def IsGap (g : List Char) : Prop :=
  g ≠ [] ∧ ∀ c ∈ g, c = ' ' ∨ c = '\t'

instance (g : List Char) : Decidable (IsGap g) :=
  decidable_of_iff (g ≠ [] ∧ g.all (fun c => c == ' ' || c == '\t') = true) (by simp [IsGap])

theorem IsGap.all_isBlank (h : IsGap g) : g.all isBlank = true := by
  rw [List.all_eq_true]
  intro c hc
  rcases h.2 c hc with rfl | rfl <;> rfl

theorem IsGap.stopsWord (h : IsGap g) : StopsWord (g ++ cs) := by
  rw [stopsWord_append h.1]
  exact fun c hc => List.all_eq_true.1 h.all_isBlank c (List.mem_of_mem_head? hc)

/-- How keywords are written, with a gap behind each. -/
inductive WrittenAs : List String → List Char → Prop
  | nil : WrittenAs [] []
  | cons {word : String} {ws : List String} {k g cs : List Char} :
      Spells k word → IsGap g → WrittenAs ws cs → WrittenAs (word :: ws) (k ++ g ++ cs)

theorem WrittenAs.startsSolid (h : WrittenAs ws cs) (hws : ∀ word ∈ ws, IsKeyword word)
    (hds : StartsSolid ds) : StartsSolid (cs ++ ds) := by
  cases h with
  | nil => exact hds
  | cons hspells _ _ =>
    rw [List.append_assoc, List.append_assoc]
    exact hspells.startsSolid (hws _ List.mem_cons_self)

theorem dropWordBlanks?_spells (h : Spells k word) (hw : IsKeyword word) (hg : IsGap g)
    (hcs : StartsSolid cs) : dropWordBlanks? word (k ++ (g ++ cs)) = some cs := by
  rw [dropWordBlanks?, dropWord?_spells h hw, Option.bind_some,
    dropBlanks?_append hg.all_isBlank hg.1 hcs]

/-- **Keywords that are written are read.** -/
theorem dropWords?_writtenAs (h : WrittenAs ws cs) (hws : ∀ word ∈ ws, IsKeyword word)
    (hds : StartsSolid ds) : dropWords? ws (cs ++ ds) = some ds := by
  induction h with
  | nil => rfl
  | cons hspells hg hrest ih =>
    have hws' := fun word hword => hws word (List.mem_cons_of_mem _ hword)
    rw [List.append_assoc, List.append_assoc, dropWords?_cons,
      dropWordBlanks?_spells hspells (hws _ List.mem_cons_self) hg (hrest.startsSolid hws' hds),
      Option.bind_some, ih hws']

/-- **Keywords that are read inside a text are words of it.**  The text `q` is followed by a blank,
and what comes behind the blanks there does not begin with any of the keywords but the first. -/
theorem exists_spells_prefix_words (hr : StopsWord r) (hws : ∀ word ∈ ws, IsPlainKeyword word)
    (hrest : ∀ word ∈ ws.tail, dropWordBlanks? word (trimStart r) = none)
    (hne : q ≠ []) (hq : EndsSolid q) (h : dropWords? ws (trimStart (q ++ r)) = some ds) :
    ∃ ks, List.Forall₂ Spells ks ws ∧ ks <+: words q := by
  induction ws generalizing q with
  | nil => exact ⟨[], List.Forall₂.nil, List.nil_prefix⟩
  | cons word ws ih =>
    have hword := hws word List.mem_cons_self
    rw [trimStart_append_of_endsSolid hne hq, dropWords?_cons, Option.bind_eq_some_iff] at h
    obtain ⟨cs, hdrop, htail⟩ := h
    obtain ⟨k, q', hspells, hqk, hstop, hcs⟩ := exists_of_dropWordBlanks?_append hword hr hdrop
    have hwords : words q = k :: words q' := by
      rw [← words_trimStart q, hqk, hspells.words_append hword.1 hstop]
    subst hcs
    by_cases hq' : q' = []
    · -- the text ends with the first keyword, so there is no other
      cases ws with
      | nil => exact ⟨[k], .cons hspells .nil, by rw [hwords]; simp⟩
      | cons word' ws =>
        rw [hq', List.nil_append, dropWords?_cons, hrest word' List.mem_cons_self] at htail
        simp at htail
    · have hsolid : EndsSolid q' := by
        have := hq.trimStart
        rw [hqk] at this
        exact this.of_append
      obtain ⟨ks, hks, hstart⟩ := ih (fun w hw => hws w (List.mem_cons_of_mem _ hw))
        (fun w hw => hrest w (List.mem_of_mem_tail hw)) hq' hsolid htail
      refine ⟨k :: ks, .cons hspells hks, ?_⟩
      rw [hwords, List.prefix_cons_inj]
      exact hstart

/-- No separator is read inside a text that does not contain its words next to each other. -/
theorem bind_dropWords?_eq_none {p : List Char} (hr : StopsWord r)
    (hws : ∀ word ∈ ws, IsPlainKeyword word)
    (hrest : ∀ word ∈ ws.tail, dropWordBlanks? word (trimStart r) = none)
    (ht : ∀ ks, List.Forall₂ Spells ks ws → ¬ ks <:+: words (p ++ q))
    (hne : q ≠ []) (hq : EndsSolid q) :
    (dropBlanks? (q ++ r)).bind (dropWords? ws) = none := by
  rw [Option.bind_eq_none_iff]
  intro cs hcs
  obtain ⟨_, hstop, rfl⟩ := dropBlanks?_eq_some.1 hcs
  rw [stopsWord_append hne] at hstop
  rw [Option.eq_none_iff_forall_ne_some]
  intro ds hds
  obtain ⟨ks, hks, hstart⟩ := exists_spells_prefix_words hr hws hrest hne hq hds
  refine ht ks hks ?_
  rw [words_append p hstop]
  exact hstart.isInfix.trans (List.suffix_append _ _).isInfix

end RuleLexer.Form
