import RuleLexer.Proofs.Course

/-!
# What a state spells

The texts of a state of a scan: those of the emitted tokens (`Scan.texts`), that of the token in
progress, and the characters that were not read yet (`Scan.rest`).

`Scan.TakesBack s t` says that `t` comes from `s` by taking the last few emitted tokens back onto
the front of the token in progress.  It is all that an action without `skip` can do to the texts
(`takesBack_runSteps`), as long as the host leaves the text of the token alone (`KeepsText`).  With
`skip token` among the steps a text may get lost besides, but nothing else happens
(`spelled_runSteps_sublist`).
-/

namespace RuleLexer

namespace Step

/-- Whether a step leaves characters out: those of the input, or those of the token in progress. -/
def skips : Step → Bool
  | skip _ | skipToken => true
  | _ => false

/-- A step whose host action, if it is one, leaves the text of the token in progress alone. -/
def KeepsText : Step → Prop
  | host h => ∀ s, (h.edit s).token.text = s.token.text
  | _ => True

end Step

namespace Scan

def texts (s : Scan) : List (List Char) :=
  s.tokens.map fun t => t.text.toList

/-- The characters from the current one on. -/
def rest (s : Scan) : List Char :=
  s.input.toList.drop s.index

/-- What the emitted tokens and the token in progress spell. -/
def spelled (s : Scan) : List Char :=
  s.texts.flatten ++ s.token.text.toList

/-- `t` comes from `s` by taking emitted tokens back onto the front of the token in progress. -/
def TakesBack (s t : Scan) : Prop :=
  ∃ taken, s.texts = t.texts ++ taken ∧ t.token.text.toList = taken.flatten ++ s.token.text.toList

/-! ### Single operations -/

/-- Where the current character is `c`, it is the first of the rest. -/
theorem rest_of_getElem? {s : Scan} {c : Char} (h : s.input[s.index]? = some c) :
    s.rest = c :: s.advance.rest := by
  obtain ⟨hi, rfl⟩ := Array.getElem?_eq_some_iff.mp h
  have hl : s.index < s.input.toList.length := by simpa using hi
  exact List.drop_eq_getElem_cons hl

theorem rest_eq_nil {s : Scan} (h : s.input.size ≤ s.index) : s.rest = [] :=
  List.drop_of_length_le (by simpa using h)

/-- What is left behind skipped characters ends what was left before. -/
theorem rest_consumeSkipped_sublist (s : Scan) :
    s.consumeSkipped.advance.rest.Sublist s.advance.rest := by
  by_cases h : s.index + s.skip ≤ s.input.size
  · have hi : s.consumeSkipped.advance.index = s.advance.index + s.skip := by
      simp only [consumeSkipped, advance, Nat.min_eq_left h]
      omega
    show (s.input.toList.drop s.consumeSkipped.advance.index).Sublist _
    rw [hi, ← List.drop_drop]
    exact List.drop_sublist _ _
  · have hi : s.input.size ≤ s.consumeSkipped.advance.index := by
      have hmin : s.input.size ≤ s.index + s.skip := by omega
      simp only [consumeSkipped, advance, Nat.min_eq_right hmin]
      omega
    rw [rest_eq_nil (s := s.consumeSkipped.advance) hi]
    exact List.nil_sublist _

/-- Emitting the token in progress puts its text behind the others.  An empty one adds nothing to
what is collected from the texts. -/
theorem flatMap_texts_flush {α : Type} (f : List Char → List α) (hf : f [] = []) (s : Scan) :
    s.flush.texts.flatMap f = s.texts.flatMap f ++ f s.token.text.toList := by
  rw [texts, tokens_flush]
  split
  next h =>
    have he : s.token.text.toList = [] := by simpa [Token.isEmpty] using h
    rw [he, hf, List.append_nil]
    rfl
  next => simp [texts]

theorem spelled_flush (s : Scan) : s.flush.spelled = s.spelled := by
  have h := flatMap_texts_flush id rfl s
  simp only [List.flatMap_id] at h
  rw [spelled, h, spelled]
  simp [flush]

theorem spelled_drop_sublist (s : Scan) : { s with token := {} }.spelled.Sublist s.spelled := by
  have h : { s with token := {} }.spelled = s.texts.flatten := List.append_nil _
  rw [h]
  exact List.sublist_append_left _ _

/-- No emitted token is empty after `flush` if none was before. -/
theorem ne_nil_of_mem_texts_flush {s : Scan} (h : ∀ a ∈ s.texts, a ≠ []) :
    ∀ a ∈ s.flush.texts, a ≠ [] := by
  intro a ha
  rw [texts, tokens_flush] at ha
  split at ha
  next => exact h a ha
  next he =>
    rw [List.map_append, List.mem_append] at ha
    rcases ha with ha | ha
    · exact h a ha
    · rw [List.map_singleton, List.mem_singleton] at ha
      subst ha
      simpa [Token.isEmpty] using he

/-! ### Taking tokens back -/

namespace TakesBack

variable {s t u : Scan}

theorem refl (s : Scan) : TakesBack s s := ⟨[], by simp, by simp⟩

theorem trans (h : TakesBack s t) (g : TakesBack t u) : TakesBack s u := by
  obtain ⟨a, ha, hta⟩ := h
  obtain ⟨b, hb, htb⟩ := g
  refine ⟨b ++ a, ?_, ?_⟩
  · rw [ha, hb, List.append_assoc]
  · rw [htb, hta, List.flatten_append, List.append_assoc]

theorem of_eq (hx : t.texts = s.texts) (ht : t.token.text = s.token.text) : TakesBack s t :=
  ⟨[], by rw [hx, List.append_nil], by rw [ht]; rfl⟩

theorem spelled_eq (h : TakesBack s t) : t.spelled = s.spelled := by
  obtain ⟨taken, hx, ht⟩ := h
  rw [spelled, spelled, ht, hx, List.flatten_append, List.append_assoc]

theorem ne_nil_of_mem_texts (h : TakesBack s t) (hs : ∀ a ∈ s.texts, a ≠ []) :
    ∀ a ∈ t.texts, a ≠ [] := by
  obtain ⟨taken, hx, _⟩ := h
  intro a ha
  exact hs a (by rw [hx]; exact List.mem_append_left taken ha)

end TakesBack

/-- Joining takes back as many tokens as the look-back count says. -/
theorem takesBack_joinBehind (s : Scan) : TakesBack s s.joinBehind := by
  refine ⟨((s.emitted.take s.lookBack).reverse.map fun t => t.text.toList), ?_, ?_⟩
  · show s.emitted.reverse.map _ = (s.emitted.drop s.lookBack).reverse.map _ ++ _
    rw [← List.map_append, ← List.reverse_append, List.take_append_drop]
  · show (String.join _ ++ s.token.text).toList = _
    rw [String.toList_append, String.toList_join, List.flatMap_map, List.flatMap_def]

end Scan

open Scan

/-! ### Actions -/

/-- A step without `skip` takes tokens back, if it changes the texts at all. -/
theorem takesBack_apply {step : Step} (hs : step.skips = false) (hk : step.KeepsText) (s : Scan) :
    TakesBack s (step.apply s) := by
  cases step with
  | fold => exact .refl s
  | skip count => simp [Step.skips] at hs
  | skipToken => simp [Step.skips] at hs
  | throw message => exact .refl s
  | join count => exact takesBack_joinBehind { s with lookBack := count }
  | tag name => exact .of_eq rfl rfl
  | host h => exact .of_eq rfl (hk s)

/-- What a step leaves is a part, in order, of what was spelled before. -/
theorem spelled_apply_sublist {step : Step} (hk : step.KeepsText) (s : Scan) :
    (step.apply s).spelled.Sublist s.spelled := by
  cases hs : step.skips with
  | false => exact (takesBack_apply hs hk s).spelled_eq ▸ List.Sublist.refl _
  | true =>
    cases step with
    | skip count => exact List.Sublist.refl _
    | skipToken => exact spelled_drop_sublist s
    | _ => simp [Step.skips] at hs

/-- An action without `skip` takes tokens back. -/
theorem takesBack_run {r : Rule} (hs : ∀ step ∈ r.steps, step.skips = false)
    (hk : ∀ step ∈ r.steps, step.KeepsText) {s t : Scan} {flow : Flow}
    (h : r.run s = (t, .ok flow)) : TakesBack s t :=
  run_invariant (P := TakesBack s) (fun _ _ _ hu => hu)
    (fun step hm u _ hu => hu.trans (takesBack_apply (hs step hm) (hk step hm) u)) h (.refl s)

/-- No action puts anything into what is spelled. -/
theorem spelled_run_sublist {r : Rule} (hk : ∀ step ∈ r.steps, step.KeepsText) {s t : Scan}
    {flow : Flow} (h : r.run s = (t, .ok flow)) : t.spelled.Sublist s.spelled :=
  run_invariant (P := fun u => u.spelled.Sublist s.spelled) (fun _ _ _ hu => hu)
    (fun step hm u _ hu => (spelled_apply_sublist (hk step hm) u).trans hu) h (.refl _)

end RuleLexer
