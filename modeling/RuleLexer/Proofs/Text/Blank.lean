import RuleLexer.Text.Blank
import Mathlib

/-!
# Blanks and words

`words` cuts a text at its blanks.  How the reader of specifications finds a keyword is told through
it: a keyword between blanks is a word of the text (`words_append`, `words_trimStart`).  Words that
lack some character lie on one side of a piece with that character (`infix_words_append_solid`).

A text `StartsSolid` or `EndsSolid` if there is no blank at that end; the empty text does both.
`StopsWord` is said of what may follow a word: nothing, or a text that begins with a blank.
-/

namespace RuleLexer.Text

variable {c : Char} {cs ds s w : List Char} {ws ks before after : List (List Char)}

/-! ### The ends of a text -/

def StartsSolid (cs : List Char) : Prop :=
  ∀ c ∈ cs.head?, isBlank c = false

def EndsSolid (cs : List Char) : Prop :=
  ∀ c ∈ cs.getLast?, isBlank c = false

/-- A word that the text follows is over: the text is empty or begins with a blank. -/
def StopsWord (cs : List Char) : Prop :=
  ∀ c ∈ cs.head?, isBlank c = true

instance : Decidable (StartsSolid cs) :=
  decidable_of_iff (cs.head?.all (fun c => !isBlank c) = true) (by
    rw [StartsSolid]; cases cs.head? <;> simp)

instance : Decidable (EndsSolid cs) :=
  decidable_of_iff (cs.getLast?.all (fun c => !isBlank c) = true) (by
    rw [EndsSolid]; cases cs.getLast? <;> simp)

@[simp] theorem startsSolid_nil : StartsSolid [] := fun _ h => by simp at h

@[simp] theorem stopsWord_nil : StopsWord [] := fun _ h => by simp at h

@[simp] theorem startsSolid_cons : StartsSolid (c :: cs) ↔ isBlank c = false := by
  simp [StartsSolid]

@[simp] theorem stopsWord_cons : StopsWord (c :: cs) ↔ isBlank c = true := by
  simp [StopsWord]

theorem startsSolid_append (h : cs ≠ []) : StartsSolid (cs ++ ds) ↔ StartsSolid cs := by
  obtain ⟨c, cs, rfl⟩ := List.exists_cons_of_ne_nil h
  simp

theorem stopsWord_append (h : cs ≠ []) : StopsWord (cs ++ ds) ↔ StopsWord cs := by
  obtain ⟨c, cs, rfl⟩ := List.exists_cons_of_ne_nil h
  simp

theorem endsSolid_append (h : ds ≠ []) : EndsSolid (cs ++ ds) ↔ EndsSolid ds := by
  rw [EndsSolid, EndsSolid, List.getLast?_append, List.getLast?_eq_some_getLast h, Option.some_or]

theorem EndsSolid.of_append (h : EndsSolid (cs ++ ds)) : EndsSolid ds := by
  by_cases hds : ds = []
  · subst hds
    intro _ hc
    simp at hc
  · exact (endsSolid_append hds).1 h

theorem eq_nil_of_startsSolid (hcs : cs.all isBlank = true) (hs : StartsSolid cs) : cs = [] := by
  cases cs with
  | nil => rfl
  | cons c cs =>
    rw [List.all_cons, startsSolid_cons.1 hs] at hcs
    cases hcs

theorem eq_nil_of_endsSolid (hcs : cs.all isBlank = true) (hs : EndsSolid cs) : cs = [] := by
  by_contra hne
  rw [List.all_eq_true] at hcs
  have hlast := hs _ (List.getLast?_eq_some_getLast hne)
  rw [hcs _ (List.getLast_mem hne)] at hlast
  cases hlast

theorem not_endsSolid_append (hds : ds.all isBlank = true) (hne : ds ≠ []) (cs : List Char) :
    ¬ EndsSolid (cs ++ ds) :=
  fun hends => hne (eq_nil_of_endsSolid hds hends.of_append)

/-! ### Trimming -/

theorem head?_dropWhile_eq_false (p : Char → Bool) (cs : List Char) :
    ∀ c ∈ (cs.dropWhile p).head?, p c = false := by
  intro c hc
  have hhead := List.head?_dropWhile_not p cs
  rw [hc] at hhead
  simpa using hhead

/-- A text goes on up to the first character that does not satisfy `p`. -/
theorem takeWhile_append_of_head? {p : Char → Bool} (hcs : ∀ c ∈ cs, p c = true)
    (hds : ∀ c ∈ ds.head?, p c = false) :
    (cs ++ ds).takeWhile p = cs ∧ (cs ++ ds).dropWhile p = ds := by
  rw [List.takeWhile_append_of_pos hcs, List.dropWhile_append_of_pos hcs]
  cases ds with
  | nil => simp
  | cons d ds =>
    have hd : ¬ p d = true := by simp [hds d rfl]
    rw [List.takeWhile_cons_of_neg hd, List.dropWhile_cons_of_neg hd, List.append_nil]
    exact ⟨rfl, rfl⟩

theorem trimStart_append_of_blanks (h : cs.all isBlank = true) :
    trimStart (cs ++ ds) = trimStart ds :=
  List.dropWhile_append_of_pos (List.all_eq_true.1 h)

theorem trimStart_of_startsSolid (h : StartsSolid cs) : trimStart cs = cs := by
  cases cs with
  | nil => rfl
  | cons c cs =>
    rw [trimStart, List.dropWhile_cons_of_neg]
    rw [startsSolid_cons.1 h]
    exact Bool.false_ne_true

theorem startsSolid_trimStart (cs : List Char) : StartsSolid (trimStart cs) :=
  head?_dropWhile_eq_false isBlank cs

/-- A text is the blanks it begins with and what trimming leaves of it. -/
theorem exists_blanks_append_trimStart (cs : List Char) :
    ∃ bs, bs.all isBlank = true ∧ cs = bs ++ trimStart cs :=
  ⟨cs.takeWhile isBlank, List.all_takeWhile, List.takeWhile_append_dropWhile.symm⟩

theorem trimStart_append_trimStart (cs ds : List Char) :
    trimStart (trimStart cs ++ ds) = trimStart (cs ++ ds) := by
  obtain ⟨bs, hbs, hcs⟩ := exists_blanks_append_trimStart cs
  conv_rhs => rw [hcs, List.append_assoc, trimStart_append_of_blanks hbs]

theorem trimStart_ne_nil (h : cs ≠ []) (hs : EndsSolid cs) : trimStart cs ≠ [] := by
  intro hcs
  have hall : ∀ c ∈ cs, isBlank c = true := List.dropWhile_eq_nil_iff.1 hcs
  have hlast := hs (cs.getLast h) (List.getLast?_eq_some_getLast h)
  rw [hall _ (List.getLast_mem h)] at hlast
  exact Bool.false_ne_true hlast.symm

theorem trimStart_append_of_endsSolid (h : cs ≠ []) (hs : EndsSolid cs) :
    trimStart (cs ++ ds) = trimStart cs ++ ds := by
  have hne : (cs.dropWhile isBlank).isEmpty = false := by
    rw [Bool.eq_false_iff, ne_eq, List.isEmpty_iff]
    exact trimStart_ne_nil h hs
  rw [trimStart, List.dropWhile_append, hne]
  rfl

theorem EndsSolid.trimStart (h : EndsSolid cs) : EndsSolid (trimStart cs) := by
  obtain ⟨bs, _, hcs⟩ := exists_blanks_append_trimStart cs
  rw [hcs] at h
  exact h.of_append

theorem dropEnd_eq_self {p : Char → Bool} (h : ∀ c ∈ cs.getLast?, p c = false) :
    dropEnd p cs = cs := by
  rcases List.eq_nil_or_concat cs with rfl | ⟨ds, c, rfl⟩
  · rfl
  · rw [List.concat_eq_append] at h ⊢
    exact dropEnd_append_singleton p ds (h c (by simp))

/-- What is left ends in a character that does not satisfy `p`. -/
theorem getLast?_dropEnd (p : Char → Bool) (cs : List Char) :
    ∀ c ∈ (dropEnd p cs).getLast?, p c = false := by
  induction cs with
  | nil => simp
  | cons d ds ih =>
    rw [dropEnd]
    split
    next =>
      by_cases hd : p d = true
      · simp [hd]
      · simp [hd]
    next e es hrest =>
      rw [hrest] at ih
      rwa [List.getLast?_cons_cons]

/-- A text is what is left and what is dropped from its end. -/
theorem exists_dropEnd_append (p : Char → Bool) (cs : List Char) :
    ∃ ds, ds.all p = true ∧ cs = dropEnd p cs ++ ds := by
  induction cs with
  | nil => exact ⟨[], rfl, rfl⟩
  | cons c cs ih =>
    obtain ⟨ds, hds, hcs⟩ := ih
    rw [dropEnd]
    split
    next hnil =>
      rw [hnil, List.nil_append] at hcs
      split
      next hc => exact ⟨c :: cs, by rw [List.all_cons, hc, hcs, hds]; rfl, rfl⟩
      next => exact ⟨cs, hcs ▸ hds, rfl⟩
    next e es hrest =>
      rw [hrest] at hcs
      exact ⟨ds, hds, congrArg (c :: ·) hcs⟩

/-- Nothing is dropped before a character that does not satisfy `p`. -/
theorem exists_dropEnd_cons {p : Char → Bool} (h : ∃ d ∈ c :: cs, p d = false) :
    ∃ rest, dropEnd p (c :: cs) = c :: rest := by
  rw [dropEnd]
  split
  next hnil =>
    obtain ⟨ds, hds, hcs⟩ := exists_dropEnd_append p cs
    rw [hnil, List.nil_append] at hcs
    subst hcs
    obtain ⟨d, hd, hpd⟩ := h
    rcases List.mem_cons.1 hd with rfl | hd
    · rw [if_neg (by simp [hpd])]
      exact ⟨[], rfl⟩
    · exact absurd (hpd.symm.trans (List.all_eq_true.1 hds d hd)) Bool.false_ne_true
  next => exact ⟨_, rfl⟩

theorem dropEnd_append_of_eq_cons {p : Char → Bool} {rest : List Char}
    (h : dropEnd p ds = c :: rest) (cs : List Char) : dropEnd p (cs ++ ds) = cs ++ c :: rest := by
  induction cs with
  | nil => exact h
  | cons d cs ih =>
    rw [List.cons_append, dropEnd, ih]
    cases cs <;> rfl

theorem dropEnd_isPrefix (p : Char → Bool) (cs : List Char) : dropEnd p cs <+: cs := by
  obtain ⟨ds, _, hcs⟩ := exists_dropEnd_append p cs
  exact ⟨ds, hcs.symm⟩

theorem mem_of_mem_dropEnd {p : Char → Bool} (h : c ∈ dropEnd p cs) : c ∈ cs :=
  (dropEnd_isPrefix p cs).subset h

theorem trimEnd_of_endsSolid (h : EndsSolid cs) : trimEnd cs = cs :=
  dropEnd_eq_self h

theorem StartsSolid.of_isPrefix (h : StartsSolid ds) (hstarts : cs <+: ds) : StartsSolid cs := by
  obtain ⟨rest, rfl⟩ := hstarts
  cases cs with
  | nil => exact startsSolid_nil
  | cons c cs => exact fun d hd => h d hd

/-- Blanks behind a text do not change what trimming leaves. -/
theorem trim_append (hds : ds.all isBlank = true) (cs : List Char) : trim (cs ++ ds) = trim cs := by
  rw [trim, trim, trimStart, List.dropWhile_append]
  split
  next hempty =>
    have hnil : ds.dropWhile isBlank = [] := List.dropWhile_eq_nil_iff.2 (List.all_eq_true.1 hds)
    rw [hnil, trimStart, List.isEmpty_iff.1 hempty]
  next => exact dropEnd_append_of_all isBlank _ hds

theorem trimEnd_trimStart_append (hds : ds.all isBlank = true) (hs : StartsSolid cs) :
    trimEnd (trimStart (cs ++ ds)) = trimEnd cs := by
  have htrim := trim_append hds cs
  rwa [trim, trim, trimStart_of_startsSolid hs] at htrim

/-- **There is nothing to trim off what was trimmed.** -/
theorem trim_trim (cs : List Char) : trim (trim cs) = trim cs := by
  have hstart : StartsSolid (trim cs) :=
    (startsSolid_trimStart cs).of_isPrefix (dropEnd_isPrefix _ _)
  rw [trim, trimStart_of_startsSolid hstart]
  exact trimEnd_of_endsSolid (getLast?_dropEnd isBlank _)

/-! ### Words -/

/-- The words of a text, which are its longest pieces without blanks, in order. -/
def words (cs : List Char) : List (List Char) :=
  (cs.splitOnP isBlank).filter fun w => !w.isEmpty

@[simp] theorem words_nil : words [] = [] := rfl

theorem words_append_cons (cs ds : List Char) (h : isBlank c = true) :
    words (cs ++ c :: ds) = words cs ++ words ds := by
  rw [words, List.splitOnP_append_cons cs ds h, List.filter_append]
  rfl

theorem words_eq_singleton (h : ∀ c ∈ cs, isBlank c = false) (hne : cs ≠ []) :
    words cs = [cs] := by
  rw [words, List.splitOnP_eq_singleton h, List.filter_cons_of_pos]
  · rfl
  · simpa using hne

/-- **A text is cut where a word stops.** -/
theorem words_append (cs : List Char) (h : StopsWord ds) :
    words (cs ++ ds) = words cs ++ words ds := by
  cases ds with
  | nil => rw [List.append_nil, words_nil, List.append_nil]
  | cons d ds =>
    have hd := stopsWord_cons.1 h
    have hds : words (d :: ds) = words ds := words_append_cons [] ds hd
    rw [words_append_cons cs ds hd, hds]

@[simp] theorem words_trimStart (cs : List Char) : words (trimStart cs) = words cs := by
  induction cs with
  | nil => rfl
  | cons c cs ih =>
    by_cases h : isBlank c = true
    · have hcs : words (c :: cs) = words cs := words_append_cons [] cs h
      rw [trimStart, List.dropWhile_cons_of_pos h, hcs]
      exact ih
    · rw [trimStart, List.dropWhile_cons_of_neg h]

/-- Blanks behind a text add no words. -/
theorem words_append_blanks (hds : ds.all isBlank = true) (cs : List Char) :
    words (cs ++ ds) = words cs := by
  have hstop : StopsWord ds := fun c hc => List.all_eq_true.1 hds c (List.mem_of_mem_head? hc)
  have hnil : trimStart ds = [] := List.dropWhile_eq_nil_iff.2 (List.all_eq_true.1 hds)
  rw [words_append cs hstop, ← words_trimStart ds, hnil, words_nil, List.append_nil]

theorem words_trimEnd (cs : List Char) : words (trimEnd cs) = words cs := by
  obtain ⟨bs, hbs, hcs⟩ := exists_dropEnd_append isBlank cs
  conv_rhs => rw [hcs, words_append_blanks hbs]
  rfl

/-! ### Words from end to end -/

/-- What follows the word that a text begins in the middle of. -/
def afterWord (cs : List Char) : List Char :=
  cs.dropWhile fun c => !isBlank c

theorem stopsWord_afterWord (cs : List Char) : StopsWord (afterWord cs) := by
  intro c hc
  simpa using head?_dropWhile_eq_false (fun c => !isBlank c) cs c hc

theorem words_afterWord_suffix (cs : List Char) : words (afterWord cs) <:+ words cs := by
  have hcs : cs.takeWhile (fun c => !isBlank c) ++ afterWord cs = cs :=
    List.takeWhile_append_dropWhile
  conv_rhs => rw [← hcs, words_append _ (stopsWord_afterWord cs)]
  exact List.suffix_append _ _

/-- A text that begins with a piece without blanks begins with the word that goes on from it. -/
theorem words_solid_append (hs : ∀ c ∈ s, isBlank c = false) (hne : s ≠ []) (cs : List Char) :
    words (s ++ cs) = (s ++ cs.takeWhile fun c => !isBlank c) :: words (afterWord cs) := by
  have hcs : cs.takeWhile (fun c => !isBlank c) ++ afterWord cs = cs :=
    List.takeWhile_append_dropWhile
  have hsolid : ∀ c ∈ s ++ cs.takeWhile (fun c => !isBlank c), isBlank c = false := by
    intro c hc
    rcases List.mem_append.1 hc with hc | hc
    · exact hs c hc
    · simpa using List.mem_takeWhile_imp hc
  conv_lhs => rw [← hcs, ← List.append_assoc, words_append _ (stopsWord_afterWord cs)]
  rw [words_eq_singleton hsolid (by simp [hne])]
  rfl

theorem words_eq_nil_iff : words cs = [] ↔ cs.all isBlank = true := by
  constructor
  · intro h
    rw [← words_trimStart] at h
    have hs := startsSolid_trimStart cs
    cases htrim : trimStart cs with
    | nil => exact List.all_eq_true.2 (List.dropWhile_eq_nil_iff.1 htrim)
    | cons c ds =>
      rw [htrim] at h hs
      have hc : ∀ d ∈ [c], isBlank d = false := by simpa using hs
      rw [← List.singleton_append, words_solid_append hc (List.cons_ne_nil c [])] at h
      cases h
  · exact fun h => words_append_blanks h []

theorem words_ne_nil (hs : StartsSolid cs) (hne : cs ≠ []) : words cs ≠ [] :=
  fun h => hne (eq_nil_of_startsSolid (words_eq_nil_iff.1 h) hs)

/-- The word that a text ends in the middle of can be split off. -/
theorem exists_append_solid (cs : List Char) : ∃ x s, cs = x ++ s ∧
    (∀ c ∈ s, isBlank c = false) ∧ ∀ ds, words (x ++ ds) = words x ++ words ds := by
  induction cs using List.reverseRecOn with
  | nil => exact ⟨[], [], rfl, by simp, fun ds => rfl⟩
  | append_singleton cs c ih =>
    cases hc : isBlank c with
    | true =>
      refine ⟨cs ++ [c], [], by simp, by simp, fun ds => ?_⟩
      rw [List.append_assoc, List.singleton_append, words_append_cons cs ds hc,
        words_append_cons cs [] hc, words_nil, List.append_nil]
    | false =>
      obtain ⟨x, s, rfl, hs, hx⟩ := ih
      refine ⟨x, s ++ [c], by rw [List.append_assoc], fun d hd => ?_, hx⟩
      rcases List.mem_append.1 hd with hd | hd
      · exact hs d hd
      · rw [List.mem_singleton.1 hd, hc]

/-- The first word of a text, and where it is. -/
theorem exists_of_words_eq_cons (h : words cs = w :: ws) : ∃ bs ds, bs.all isBlank = true ∧
    cs = bs ++ (w ++ ds) ∧ StartsSolid (w ++ ds) ∧ StopsWord ds ∧ words ds = ws := by
  obtain ⟨bs, hbs, hcs⟩ := exists_blanks_append_trimStart cs
  rw [← words_trimStart] at h
  have hstart := startsSolid_trimStart cs
  cases htrim : trimStart cs with
  | nil => simp [htrim] at h
  | cons c rest =>
    rw [htrim] at h hcs hstart
    have hc : ∀ d ∈ [c], isBlank d = false := by simpa using hstart
    have hwords := words_solid_append hc (by simp) rest
    rw [List.singleton_append, h] at hwords
    obtain ⟨rfl, rfl⟩ := List.cons.inj hwords
    refine ⟨bs, afterWord rest, hbs, ?_, ?_, stopsWord_afterWord rest, rfl⟩
    · rw [hcs, List.append_assoc]
      congr 2
      exact List.takeWhile_append_dropWhile.symm
    · exact startsSolid_cons.2 (startsSolid_cons.1 hstart)

/-- Behind some of its words a text has a blank, and then the others. -/
theorem exists_of_words_eq_append (h : words cs = before ++ after) (hne : before ≠ []) :
    ∃ x q, cs = x ++ q ∧ StopsWord q ∧ words q = after := by
  induction before generalizing cs with
  | nil => exact absurd rfl hne
  | cons w before ih =>
    obtain ⟨bs, ds, _, rfl, _, hstop, hds⟩ := exists_of_words_eq_cons h
    by_cases hbefore : before = []
    · subst hbefore
      exact ⟨bs ++ w, ds, by rw [List.append_assoc], hstop, hds⟩
    · obtain ⟨x, q, rfl, hq, hafter⟩ := ih hds hbefore
      exact ⟨bs ++ (w ++ x), q, by simp only [List.append_assoc], hq, hafter⟩

/-! ### Words beside a piece that is in none of them -/

/-- Words that lack a character of the piece begin behind the word that the piece begins. -/
theorem infix_words_of_solid_append (hs : ∀ c ∈ s, isBlank c = false) (hc : c ∈ s)
    (hks : ∀ k ∈ ks, c ∉ k) (hne : ks ≠ []) (h : ks <:+: words (s ++ cs)) :
    ks <:+: words (afterWord cs) := by
  rw [words_solid_append hs (List.ne_nil_of_mem hc), List.infix_cons_iff] at h
  rcases h with hstart | h
  · obtain ⟨k, ks, rfl⟩ := List.exists_cons_of_ne_nil hne
    obtain ⟨rfl, _⟩ := List.cons_prefix_cons.1 hstart
    exact absurd (List.mem_append_left _ hc) (hks _ List.mem_cons_self)
  · exact h

/-- **Words that lack a character of the piece lie on one side of it.** -/
theorem infix_words_append_solid (hs : ∀ c ∈ s, isBlank c = false) (hc : c ∈ s)
    (hks : ∀ k ∈ ks, c ∉ k) (h : ks <:+: words (ds ++ (s ++ cs))) :
    ks <:+: words (ds ++ s) ∨ ks <:+: words cs := by
  obtain ⟨x, s', rfl, hs', hx⟩ := exists_append_solid ds
  have hpiece : ∀ d ∈ s' ++ s, isBlank d = false := fun d hd =>
    (List.mem_append.1 hd).elim (hs' d) (hs d)
  have hne : s' ++ s ≠ [] := by simp [List.ne_nil_of_mem hc]
  have hmem : c ∈ s' ++ s := List.mem_append_right _ hc
  rw [List.append_assoc, hx, ← List.append_assoc s', words_solid_append hpiece hne,
    List.infix_append_iff] at h
  rw [List.append_assoc, hx]
  rcases h with h | h | ⟨ks₁, ks₂, rfl, hend, hstart⟩
  · exact Or.inl (h.trans (List.prefix_append _ _).isInfix)
  · by_cases hnil : ks = []
    · rw [hnil]
      exact Or.inl List.nil_infix
    · rw [← words_solid_append hpiece hne] at h
      exact Or.inr ((infix_words_of_solid_append hpiece hmem hks hnil h).trans
        (words_afterWord_suffix cs).isInfix)
  · cases ks₂ with
    | nil =>
      rw [List.append_nil]
      exact Or.inl (hend.isInfix.trans (List.prefix_append _ _).isInfix)
    | cons k ks₂ =>
      obtain ⟨rfl, _⟩ := List.cons_prefix_cons.1 hstart
      exact absurd (List.mem_append_left _ hmem)
        (hks _ (List.mem_append_right _ List.mem_cons_self))

end RuleLexer.Text
