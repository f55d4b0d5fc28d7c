import Mathlib
import RuleLexer.LetPass

/-!
# The plain split of a text

`Text.runs` cuts a text into its breaks and the runs of other characters between them, by recursion on
its characters.  `Token.expand` cuts the text of a token into the same pieces (`expand_eq_runs`).  This
file says what the pieces are and where they may be put together again.

* `mem_runs`: a piece is a single break, or a run without any.
* `isChain_runs`: of two pieces side by side one is a break, so the runs are as long as they can be.
* `runs_append_of_isBreak`: a text may be split before a break, and the two splits put end to end.
* `runs_flatten_of_runs_eq`: **stretches of a split are splits.**  What some consecutive pieces
  spell is split into just these pieces.
* `IsPlainSplit.eq_runs`: **the plain split is the only one** of its kind (`IsPlainSplit`).

The theorems on conservation rest on the stretches: a text that is put together from consecutive
pieces and cut again gives the same pieces.
-/

namespace RuleLexer.Text

/-- The breaks of a text and the runs of other characters between them, in order. -/
def runs (isBreak : Char → Bool) : List Char → List (List Char)
  | [] => []
  | c :: cs =>
    match runs isBreak cs with
    | [] => [[c]]
    | r :: rs => if isBreak c || r.any isBreak then [c] :: r :: rs else (c :: r) :: rs

/-- Cutting a text into runs loses nothing. -/
@[simp] theorem flatten_runs (isBreak : Char → Bool) (cs : List Char) :
    (runs isBreak cs).flatten = cs := by
  induction cs with
  | nil => rfl
  | cons c cs ih =>
    rw [runs]
    split
    next h => rw [h] at ih; simp [← ih]
    next h =>
      rw [h] at ih
      split
      next => simpa using ih
      next => simpa using ih

variable {isBreak : Char → Bool}

/-- Two texts may stand side by side without a run being cut between them: the first ends with a
break, or the second begins with one. -/
def MeetAtBreak (isBreak : Char → Bool) (a b : List Char) : Prop :=
  (∃ c ∈ a.getLast?, isBreak c = true) ∨ ∃ c ∈ b.head?, isBreak c = true

/-! ### The pieces -/

@[simp] theorem runs_nil (isBreak : Char → Bool) : runs isBreak [] = [] := rfl

/-- Cutting several texts loses nothing of what they spell. -/
theorem flatten_flatMap_runs (ts : List (List Char)) :
    (ts.flatMap (runs isBreak)).flatten = ts.flatten := by
  induction ts with
  | nil => rfl
  | cons t ts ih => rw [List.flatMap_cons, List.flatten_append, flatten_runs, ih, List.flatten_cons]

theorem runs_eq_nil_iff {cs : List Char} : runs isBreak cs = [] ↔ cs = [] := by
  constructor
  · intro h
    rw [← flatten_runs isBreak cs, h]
    rfl
  · rintro rfl
    rfl

theorem runs_cons (isBreak : Char → Bool) (c : Char) (cs : List Char) :
    (runs isBreak cs = [] ∧ runs isBreak (c :: cs) = [[c]]) ∨
    ∃ r rs, runs isBreak cs = r :: rs ∧
      ((isBreak c || r.any isBreak) = true ∧ runs isBreak (c :: cs) = [c] :: r :: rs ∨
        (isBreak c || r.any isBreak) = false ∧ runs isBreak (c :: cs) = (c :: r) :: rs) := by
  cases h : runs isBreak cs with
  | nil => exact Or.inl ⟨rfl, by rw [runs, h]⟩
  | cons r rs =>
    refine Or.inr ⟨r, rs, rfl, ?_⟩
    cases hc : (isBreak c || r.any isBreak) with
    | true => exact Or.inl ⟨rfl, by rw [runs, h]; simp only [hc, if_true]⟩
    | false =>
      refine Or.inr ⟨rfl, ?_⟩
      rw [runs, h]
      simp only [hc, Bool.false_eq_true, if_false]

/-- A piece of a split is a single break, or it is a run: not empty and without a break. -/
theorem mem_runs {cs : List Char} : ∀ {r : List Char}, r ∈ runs isBreak cs →
    (∃ c, r = [c] ∧ isBreak c = true) ∨ (r ≠ [] ∧ r.any isBreak = false) := by
  induction cs with
  | nil => intro r hr; simp at hr
  | cons c cs ih =>
    intro r hr
    have single : (∃ d, [c] = [d] ∧ isBreak d = true) ∨ ([c] ≠ [] ∧ [c].any isBreak = false) := by
      cases hc : isBreak c with
      | true => exact Or.inl ⟨c, rfl, hc⟩
      | false => exact Or.inr ⟨by simp, by simp [hc]⟩
    rcases runs_cons isBreak c cs with ⟨_, h⟩ | ⟨q, qs, hq, ⟨_, h⟩ | ⟨hc, h⟩⟩
    · rw [h, List.mem_singleton] at hr
      exact hr ▸ single
    · rw [h] at hr
      rcases List.mem_cons.mp hr with rfl | hr
      · exact single
      · exact ih (hq ▸ hr)
    · rw [h] at hr
      rcases List.mem_cons.mp hr with rfl | hr
      · exact Or.inr ⟨by simp, by simpa using hc⟩
      · exact ih (hq ▸ List.mem_cons_of_mem q hr)

theorem ne_nil_of_mem_runs {cs r : List Char} (h : r ∈ runs isBreak cs) : r ≠ [] := by
  rcases mem_runs h with ⟨c, rfl, _⟩ | ⟨hne, _⟩
  · simp
  · exact hne

/-- A piece that has a break is nothing but this break. -/
theorem eq_singleton_of_any {cs r : List Char} (h : r ∈ runs isBreak cs)
    (hr : r.any isBreak = true) : ∃ c, r = [c] ∧ isBreak c = true := by
  rcases mem_runs h with hs | ⟨_, hn⟩
  · exact hs
  · rw [hn] at hr
    exact absurd hr (by simp)

/-- **Runs are as long as they can be**: of two pieces side by side one is a break. -/
theorem isChain_runs (cs : List Char) :
    (runs isBreak cs).IsChain (fun a b => a.any isBreak = true ∨ b.any isBreak = true) := by
  induction cs with
  | nil => exact .nil
  | cons c cs ih =>
    rcases runs_cons isBreak c cs with ⟨_, h⟩ | ⟨r, rs, hr, ⟨hc, h⟩ | ⟨hc, h⟩⟩
    · rw [h]
      exact .singleton _
    · rw [h]
      refine .cons_cons ?_ (hr ▸ ih)
      simpa using hc
    · rw [hr] at ih
      rw [h]
      have hcr : (c :: r).any isBreak = r.any isBreak := by
        have hcf : isBreak c = false := (Bool.or_eq_false_iff.mp hc).1
        simp [hcf]
      cases rs with
      | nil => exact .singleton _
      | cons q qs =>
        rw [List.isChain_cons_cons] at ih ⊢
        exact ⟨by rw [hcr]; exact ih.1, ih.2⟩

theorem isChain_runs_meetAtBreak (isBreak : Char → Bool) (cs : List Char) :
    (runs isBreak cs).IsChain (MeetAtBreak isBreak) := by
  refine (isChain_runs cs).imp_of_mem_imp fun a b ha hb hab => ?_
  rcases hab with h | h
  · obtain ⟨c, rfl, hc⟩ := eq_singleton_of_any ha h
    exact Or.inl ⟨c, rfl, hc⟩
  · obtain ⟨c, rfl, hc⟩ := eq_singleton_of_any hb h
    exact Or.inr ⟨c, rfl, hc⟩

/-- Two texts meet at a break if the last piece of one and the first piece of the other do. -/
theorem meetAtBreak_of_runs {a b : List Char} (ha : a ≠ []) (hb : b ≠ [])
    (h : ∀ x ∈ (runs isBreak a).getLast?, ∀ y ∈ (runs isBreak b).head?, MeetAtBreak isBreak x y) :
    MeetAtBreak isBreak a b := by
  obtain ⟨init, x, hx⟩ := List.eq_nil_or_concat' (runs isBreak a) |>.resolve_left
    fun he => ha (runs_eq_nil_iff.mp he)
  obtain ⟨y, tail, hy⟩ := List.exists_cons_of_ne_nil fun he => hb (runs_eq_nil_iff.mp he)
  have hxne : x ≠ [] := ne_nil_of_mem_runs (show x ∈ runs isBreak a by rw [hx]; simp)
  have hyne : y ≠ [] := ne_nil_of_mem_runs (show y ∈ runs isBreak b by rw [hy]; simp)
  have hlast : a.getLast? = x.getLast? := by
    rw [← flatten_runs isBreak a, hx, List.flatten_append, List.flatten_singleton,
      List.getLast?_append_of_ne_nil _ hxne]
  have hhead : b.head? = y.head? := by
    rw [← flatten_runs isBreak b, hy, List.flatten_cons, List.head?_append_of_ne_nil _ hyne]
  have hmeet := h x (by simp [hx]) y (by simp [hy])
  rw [MeetAtBreak] at hmeet ⊢
  rw [hlast, hhead]
  exact hmeet

/-! ### Putting splits end to end -/

theorem runs_cons_of_isBreak {c : Char} (hc : isBreak c = true) (cs : List Char) :
    runs isBreak (c :: cs) = [c] :: runs isBreak cs := by
  rcases runs_cons isBreak c cs with ⟨e, h⟩ | ⟨r, rs, e, ⟨_, h⟩ | ⟨hf, _⟩⟩
  · rw [h, e]
  · rw [h, e]
  · simp [hc] at hf

/-- A text may be split before a break. -/
theorem runs_append_of_isBreak {c : Char} (hc : isBreak c = true) (cs ds : List Char) :
    runs isBreak (cs ++ c :: ds) = runs isBreak cs ++ runs isBreak (c :: ds) := by
  rw [runs_cons_of_isBreak hc]
  induction cs with
  | nil => exact runs_cons_of_isBreak hc ds
  | cons d cs ih =>
    rw [List.cons_append, runs, ih, runs]
    cases runs isBreak cs with
    | nil => simp [hc]
    | cons r rs' =>
      simp only [List.cons_append]
      split <;> rfl

/-- **A text may be split where its halves meet at a break.** -/
theorem runs_append_of_meetAtBreak {a b : List Char} (h : MeetAtBreak isBreak a b) :
    runs isBreak (a ++ b) = runs isBreak a ++ runs isBreak b := by
  rcases h with ⟨c, hc, hb⟩ | ⟨c, hc, hb⟩
  · obtain ⟨cs, rfl⟩ := List.getLast?_eq_some_iff.mp hc
    rw [List.append_assoc, List.singleton_append, runs_append_of_isBreak hb,
      runs_append_of_isBreak hb, runs_cons_of_isBreak hb b, List.append_assoc]
    rfl
  · obtain ⟨ds, rfl⟩ := List.head?_eq_some_iff.mp hc
    exact runs_append_of_isBreak hb a ds

/-- What the first pieces of a split spell is split into these pieces. -/
theorem runs_flatten_of_runs_eq_append_left {cs : List Char} : ∀ {a b : List (List Char)},
    runs isBreak cs = a ++ b → runs isBreak a.flatten = a := by
  induction cs with
  | nil =>
    intro a b h
    rw [runs_nil, List.nil_eq, List.append_eq_nil_iff] at h
    rw [h.1]
    rfl
  | cons c cs ih =>
    intro a b h
    cases a with
    | nil => rfl
    | cons x a =>
      rcases runs_cons isBreak c cs with ⟨_, e⟩ | ⟨r, rs, hr, ⟨hc, e⟩ | ⟨hc, e⟩⟩
      · rw [e, List.cons_append, List.cons.injEq, List.nil_eq, List.append_eq_nil_iff] at h
        obtain ⟨rfl, rfl, _⟩ := h
        rfl
      · rw [e, List.cons_append, List.cons.injEq] at h
        obtain ⟨rfl, h⟩ := h
        have hrest := ih (hr.trans h)
        rw [List.flatten_cons, List.singleton_append, runs, hrest]
        cases a with
        | nil => rfl
        | cons y a =>
          rw [List.cons_append, List.cons.injEq] at h
          obtain ⟨rfl, _⟩ := h
          exact if_pos hc
      · rw [e, List.cons_append, List.cons.injEq] at h
        obtain ⟨rfl, rfl⟩ := h
        have hrest := ih (a := r :: a) (b := b) hr
        rw [List.flatten_cons] at hrest
        rw [List.flatten_cons, List.cons_append, runs, hrest]
        exact if_neg (by rw [hc]; simp)

/-- What the last pieces of a split spell is split into these pieces. -/
theorem runs_flatten_of_runs_eq_append_right {cs : List Char} : ∀ {a b : List (List Char)},
    runs isBreak cs = a ++ b → runs isBreak b.flatten = b := by
  induction cs with
  | nil =>
    intro a b h
    rw [runs_nil, List.nil_eq, List.append_eq_nil_iff] at h
    rw [h.2]
    rfl
  | cons c cs ih =>
    intro a b h
    cases a with
    | nil =>
      rw [List.nil_append] at h
      rw [← h, flatten_runs]
    | cons x a =>
      rcases runs_cons isBreak c cs with ⟨_, e⟩ | ⟨r, rs, hr, ⟨_, e⟩ | ⟨_, e⟩⟩
      · rw [e, List.cons_append, List.cons.injEq, List.nil_eq, List.append_eq_nil_iff] at h
        rw [h.2.2]
        rfl
      · rw [e, List.cons_append, List.cons.injEq] at h
        exact ih (hr.trans h.2)
      · rw [e, List.cons_append, List.cons.injEq] at h
        exact ih (a := r :: a) (by rw [hr, h.2, List.cons_append])

/-- **Stretches of a split are splits**: what consecutive pieces of a split spell is split into
just these pieces. -/
theorem runs_flatten_of_runs_eq {cs : List Char} {a b d : List (List Char)}
    (h : runs isBreak cs = a ++ (b ++ d)) : runs isBreak b.flatten = b :=
  runs_flatten_of_runs_eq_append_left ((runs_flatten_of_runs_eq_append_right h).symm ▸ rfl :
    runs isBreak (b ++ d).flatten = b ++ d)

/-- A piece of a split is not cut again. -/
theorem runs_of_mem_runs {cs r : List Char} (hr : r ∈ runs isBreak cs) : runs isBreak r = [r] := by
  obtain ⟨a, d, h⟩ := List.append_of_mem hr
  have hone := runs_flatten_of_runs_eq (b := [r]) h
  rwa [List.flatten_cons, List.flatten_nil, List.append_nil] at hone

/-- Cutting the pieces of a split again changes nothing. -/
theorem flatMap_runs_runs (cs : List Char) :
    (runs isBreak cs).flatMap (runs isBreak) = runs isBreak cs := by
  rw [List.flatMap_def, List.map_congr_left fun r hr => runs_of_mem_runs hr]
  simp [← List.flatMap_def]

/-! ### The plain split in its own words -/

/-- A run of characters that are no breaks, of which there is at least one. -/
def IsRun (isBreak : Char → Bool) (cs : List Char) : Prop :=
  cs ≠ [] ∧ ∀ c ∈ cs, isBreak c = false

/-- The pieces spell the text, each is a single break or a run, and no two runs stand side by
side. -/
structure IsPlainSplit (isBreak : Char → Bool) (cs : List Char) (pieces : List (List Char)) :
    Prop where
  spells : pieces.flatten = cs
  piece : ∀ p ∈ pieces, (∃ c, p = [c] ∧ isBreak c = true) ∨ IsRun isBreak p
  apart : pieces.IsChain fun a b => ¬ (IsRun isBreak a ∧ IsRun isBreak b)

theorem IsRun.any_eq_false {cs : List Char} (h : IsRun isBreak cs) : cs.any isBreak = false := by
  rw [List.any_eq_false]
  intro c hc
  rw [h.2 c hc]
  exact Bool.false_ne_true

/-- A run is not cut. -/
theorem runs_eq_singleton {cs : List Char} (h : IsRun isBreak cs) : runs isBreak cs = [cs] := by
  obtain ⟨hne, hcs⟩ := h
  induction cs with
  | nil => exact absurd rfl hne
  | cons c cs ih =>
    rw [List.forall_mem_cons] at hcs
    by_cases hnil : cs = []
    · subst hnil
      rfl
    · have hany : cs.any isBreak = false := IsRun.any_eq_false ⟨hnil, hcs.2⟩
      rw [runs, ih hnil hcs.2]
      simp [hcs.1, hany]

theorem isPlainSplit_runs (isBreak : Char → Bool) (cs : List Char) :
    IsPlainSplit isBreak cs (runs isBreak cs) where
  spells := flatten_runs isBreak cs
  piece p hp := by
    refine (mem_runs hp).imp_right fun ⟨hne, hany⟩ => ⟨hne, fun c hc => ?_⟩
    simpa using List.any_eq_false.1 hany c hc
  apart := by
    refine (isChain_runs cs).imp fun a b hab hruns => ?_
    rw [hruns.1.any_eq_false, hruns.2.any_eq_false] at hab
    simp at hab

/-- **There is no other plain split**: a list of pieces as in one is what their text is cut into. -/
theorem IsPlainSplit.eq_runs {cs : List Char} {pieces : List (List Char)}
    (h : IsPlainSplit isBreak cs pieces) : pieces = runs isBreak cs := by
  obtain ⟨rfl, hpiece, hapart⟩ := h
  induction pieces with
  | nil => rfl
  | cons p ps ih =>
    have hrest := ih (fun q hq => hpiece q (List.mem_cons_of_mem p hq)) hapart.tail
    rcases hpiece p List.mem_cons_self with ⟨c, rfl, hc⟩ | hrun
    · rw [List.flatten_cons, List.singleton_append, runs_cons_of_isBreak hc, ← hrest]
    · cases ps with
      | nil => rw [List.flatten_cons, List.flatten_nil, List.append_nil, runs_eq_singleton hrun]
      | cons q qs =>
        -- a run is not beside another one, so the next piece is a break
        have hq := hpiece q (List.mem_cons_of_mem p List.mem_cons_self)
        obtain ⟨d, rfl, hd⟩ :=
          hq.resolve_right fun hq => (List.isChain_cons_cons.1 hapart).1 ⟨hrun, hq⟩
        rw [List.flatten_cons, List.singleton_append] at hrest
        rw [List.flatten_cons, List.flatten_cons, List.singleton_append, runs_append_of_isBreak hd,
          runs_eq_singleton hrun, ← hrest]
        rfl

end RuleLexer.Text

namespace RuleLexer.Token

open Text (runs)

/-! ### Cutting a token -/

/-- Reading on from a cut: the run is not complete before the next break. -/
theorem Cut.close_foldl_read {isBreak : Char → Bool} (cs : List Char) :
    ∀ {k : Cut}, (∀ c ∈ k.run.toList, isBreak c = false) →
      (cs.foldl (read isBreak) k).close.toList =
        k.parts.toList ++ (runs isBreak (k.run.toList ++ cs)).map String.ofList := by
  have hclose : ∀ {k : Cut}, (∀ c ∈ k.run.toList, isBreak c = false) → k.close.toList =
      k.parts.toList ++ (runs isBreak k.run.toList).map String.ofList := by
    intro k hrun
    rw [close]
    by_cases hempty : k.run = ""
    · simp [hempty]
    · have hne : k.run.toList ≠ [] := by simpa using hempty
      rw [if_neg (by simpa using hempty), Text.runs_eq_singleton ⟨hne, hrun⟩]
      simp
  induction cs with
  | nil =>
    intro k hrun
    rw [List.append_nil]
    exact hclose hrun
  | cons c cs ih =>
    intro k hrun
    rw [List.foldl_cons, read]
    cases hc : isBreak c with
    | true =>
      rw [if_pos rfl, ih (by simp), Text.runs_append_of_isBreak hc, Text.runs_cons_of_isBreak hc,
        Array.toList_push, hclose hrun]
      simp
    | false =>
      rw [if_neg (by simp), ih]
      · simp
      · simpa [or_imp, forall_and, hc] using hrun

/-- **A token is cut into the plain split of its text.** -/
theorem expand_eq_runs (isBreak : Char → Bool) (t : Token) :
    t.expand isBreak =
      (runs isBreak t.text.toList).map fun run => ⟨String.ofList run, t.tags⟩ := by
  have hrun : ∀ c ∈ ({} : Cut).run.toList, isBreak c = false := by simp
  rw [expand, Cut.close_foldl_read t.text.toList hrun]
  simp [Function.comp_def]

end RuleLexer.Token
