import RuleLexer.Proofs.Conservation
import RuleLexer.Proofs.Moments

/-!
# What a call maintains

A property of states is maintained by a scanner (`Scanner.Maintains`) if each of the operations that
make up a call keeps it, whatever the token in progress, the place and the counters are set to.  Such
a property **holds at all moments of all calls**, if it holds at the start
(`Maintains.of_isMoment`): between the characters and between the tokens, where rules are tried, where
one is run, and before and after each of its steps (`Scanner.IsMoment`).  This goes for calls that
fail as well.
-/

namespace RuleLexer

namespace Scanner

/-- What each operation of a call keeps. -/
structure Maintains (m : Scanner) (P : Scan → Prop) : Prop where
  /-- Token in progress, place and counters do not matter. -/
  of_eq : ∀ {s t : Scan}, P s → t.input = s.input → t.emitted = s.emitted →
    t.definitions = s.definitions → P t
  apply : ∀ {s : Scan} {r : Rule} {step : Step}, r ∈ m.rules → step ∈ r.steps → P s →
    P (step.apply s)
  flush : ∀ {s : Scan}, P s → P s.flush
  join : ∀ {s : Scan}, P s → P s.joinBehind
  expand : ∀ {s : Scan}, P s →
    P { s with token := {}, emitted := (s.token.expand m.isBreak).reverse ++ s.emitted }
  letStart : ∀ {s : Scan}, P s → P (letStart s)

/-- The states that a call comes to. -/
inductive IsMoment (m : Scanner) (input : String) : Scan → Prop
  | scan {s : Scan} : m.ScanReaches input s → IsMoment m input s
  | scanned {s : Scan} : m.scan input = .ok s → IsMoment m input s
  | pass {passed : Nat} {s : Scan} {tokens : List Token} : m.PassReaches input passed s tokens →
      IsMoment m input s
  | ifRules {s : Scan} : m.TriesIfRules input s → IsMoment m input s
  | letRules {s : Scan} : m.TriesLetRules input s → IsMoment m input s
  | rule {r : Rule} {s : Scan} : m.Runs input r s → IsMoment m input s
  | before {r : Rule} {step : Step} {s : Scan} : m.Performs input r step s → IsMoment m input s
  | after {r : Rule} {step : Step} {s : Scan} : m.Performs input r step s →
      IsMoment m input (step.apply s)

variable {m : Scanner} {input : String} {P : Scan → Prop}

namespace Maintains

variable {s t : Scan}

theorem runSteps (h : m.Maintains P) {r : Rule} (hr : r ∈ m.rules) {steps : List Step}
    (hsteps : ∀ step ∈ steps, step ∈ r.steps) {flow flow' : Flow}
    (hrun : runSteps flow s steps = (t, .ok flow')) (hs : P s) : P t :=
  runSteps_invariant (fun step hmem _ _ hu => h.apply hr (hsteps step hmem) hu) hrun hs

theorem run (h : m.Maintains P) {r : Rule} (hr : r ∈ m.rules) {flow : Flow}
    (hrun : r.run s = (t, .ok flow)) (hs : P s) : P t :=
  h.runSteps hr (fun _ => id) hrun (h.of_eq hs rfl rfl rfl)

theorem runChain (h : m.Maintains P) {flow : Flow}
    (hrun : runChain m.ifRules s = (t, .ok flow)) (hs : P s) : P t :=
  runChain_invariant (fun _ hr _ _ _ hrun hu => h.run (List.mem_append_left _ hr) hrun hu) hrun hs

theorem tries (h : m.Maintains P) {c : Char} (ht : m.Tries c s t) (hs : P s) : P t := by
  cases ht with
  | first => exact hs
  | second _ hu => exact h.of_eq (h.flush (h.runChain hu hs)) rfl rfl rfl

theorem takes (h : m.Maintains P) {c : Char} (ht : m.Takes c s t) (hs : P s) : P t := by
  have second : ∀ {u v : Scan} {flow : Flow}, m.isBreak c = true →
      RuleLexer.runChain m.ifRules s = (u, .ok .proceed) →
      RuleLexer.runChain m.ifRules { u.flush with token := .ofChar c } = (v, .ok flow) → P v :=
    fun hc hu hv => h.runChain hv (h.tries (.second hc hu) hs)
  cases ht with
  | plain => exact h.of_eq hs rfl rfl rfl
  | fold _ hu | skip _ hu => exact h.of_eq (h.runChain hu hs) rfl rfl rfl
  | hold hc hu hv | drop hc hu hv => exact h.of_eq (second hc hu hv) rfl rfl rfl
  | emit hc hu hv => exact h.of_eq (h.flush (second hc hu hv)) rfl rfl rfl

theorem passes (h : m.Maintains P) (ht : m.Passes s t) (hs : P s) : P t := by
  have run : ∀ {r : Rule} {u v : Scan} {flow : Flow}, findMatch m.letRules s = some r →
      r.run u = (v, .ok flow) → P u → P v := fun hm =>
    h.run (mem_rules_of_findMatch_letRules hm)
  cases ht with
  | same => exact h.flush hs
  | edit hm _ hr => exact h.flush (run hm hr hs)
  | group hm _ hr => exact h.flush (run hm hr (h.join (h.of_eq hs rfl rfl rfl)))
  | expand hm _ hr => exact h.expand (run hm hr hs)

theorem scanReaches (h : m.Maintains P) (hstart : P (Scan.start input m.definitions))
    (hs : m.ScanReaches input s) : P s :=
  scanReaches_invariant hstart (fun _ _ _ _ ht hu => h.takes ht hu) hs

theorem scan (h : m.Maintains P) (hstart : P (Scan.start input m.definitions))
    (hs : m.scan input = .ok s) : P s := by
  obtain ⟨t, ht, rfl⟩ := exists_of_map_eq_ok hs
  exact h.flush (scanFrom_invariant (fun _ _ _ _ hv hu => h.takes hv hu) ht hstart).1

theorem passReaches (h : m.Maintains P) (hstart : P (Scan.start input m.definitions))
    {passed : Nat} {tokens : List Token} (hs : m.PassReaches input passed s tokens) : P s :=
  passReaches_invariant (P := fun _ u _ => P u) (fun _ hscan => h.letStart (h.scan hstart hscan))
    (fun _ _ _ _ _ hu ht => h.passes ht (h.of_eq hu rfl rfl rfl)) hs

theorem triesIfRules (h : m.Maintains P) (hstart : P (Scan.start input m.definitions))
    (hs : m.TriesIfRules input s) : P s := by
  cases hs with
  | first hs => exact h.scanReaches hstart hs
  | second hs _ hc hu => exact h.tries (.second hc hu) (h.scanReaches hstart hs)

theorem triesLetRules (h : m.Maintains P) (hstart : P (Scan.start input m.definitions))
    (hs : m.TriesLetRules input s) : P s := by
  obtain ⟨hs⟩ := hs
  exact h.of_eq (h.passReaches hstart hs) rfl rfl rfl

theorem runs (h : m.Maintains P) (hstart : P (Scan.start input m.definitions)) {r : Rule}
    (hs : m.Runs input r s) : r ∈ m.rules ∧ P s := by
  cases hs with
  | ifRule hs hm =>
    exact ⟨List.mem_append_left _ (mem_of_findMatch hm), h.triesIfRules hstart hs⟩
  | letRule hs hm =>
    exact ⟨mem_rules_of_findMatch_letRules hm, h.triesLetRules hstart hs⟩
  | group hs hm =>
    exact ⟨mem_rules_of_findMatch_letRules hm,
      h.join (h.of_eq (h.triesLetRules hstart hs) rfl rfl rfl)⟩

theorem performs (h : m.Maintains P) (hstart : P (Scan.start input m.definitions)) {r : Rule}
    {step : Step} (hs : m.Performs input r step s) : r ∈ m.rules ∧ step ∈ r.steps ∧ P s := by
  have hstep := hs.mem_steps
  obtain ⟨hruns, hsteps, hbefore⟩ := hs
  obtain ⟨hr, hu⟩ := h.runs hstart hruns
  refine ⟨hr, hstep, h.runSteps hr (fun _ hmem => ?_) hbefore (h.of_eq hu rfl rfl rfl)⟩
  exact hsteps ▸ List.mem_append_left _ hmem

/-- **What a scanner maintains holds at every moment.** -/
theorem of_isMoment (h : m.Maintains P) (hstart : P (Scan.start input m.definitions))
    (hs : m.IsMoment input s) : P s := by
  cases hs with
  | scan hs => exact h.scanReaches hstart hs
  | scanned hs => exact h.scan hstart hs
  | pass hs => exact h.passReaches hstart hs
  | ifRules hs => exact h.triesIfRules hstart hs
  | letRules hs => exact h.triesLetRules hstart hs
  | rule hs => exact (h.runs hstart hs).2
  | before hs => exact (h.performs hstart hs).2.2
  | after hs =>
    obtain ⟨hr, hstep, hu⟩ := h.performs hstart hs
    exact h.apply hr hstep hu

end Maintains

/-! ### The last moment -/

theorem exists_passReaches_of_letFrom {tokens : List Token} :
    ∀ {passed : Nat} {s t : Scan}, m.PassReaches input passed s tokens →
      m.letFrom passed s tokens = .ok t → ∃ all, m.PassReaches input all t [] := by
  induction tokens with
  | nil =>
    intro passed s t hs h
    obtain rfl := Except.ok.inj h
    exact ⟨passed, hs⟩
  | cons token tokens ih =>
    intro passed s t hs h
    rw [letFrom] at h
    split at h
    next => simp at h
    next hu => exact ih (.step hs hu) h

/-- The tokens of a call are those that were scanned, if there is no pass, and otherwise those of the
end of the pass. -/
theorem exists_scan_or_passReaches_of_tokenize {tokens : List Token}
    (h : m.tokenize input = .ok tokens) :
    (∃ s, m.scan input = .ok s ∧ tokens = s.tokens) ∨
      ∃ all s, m.PassReaches input all s [] ∧ tokens = s.tokens := by
  cases hscan : m.scan input with
  | error e => simp [tokenize, hscan, Except.bind] at h
  | ok s =>
    cases hrules : m.letRules.isEmpty with
    | true =>
      rw [tokenize, hscan] at h
      change m.letPass s = _ at h
      rw [letPass, hrules] at h
      exact Or.inl ⟨s, rfl, (Except.ok.inj h).symm⟩
    | false =>
      have hs : m.PassReaches input 0 (Scanner.letStart s) s.tokens := .start hscan hrules
      rw [tokenize_of_passReaches hs] at h
      obtain ⟨t, ht, rfl⟩ := exists_of_map_eq_ok h
      obtain ⟨all, hall⟩ := exists_passReaches_of_letFrom hs ht
      exact Or.inr ⟨all, t, hall, rfl⟩

/-- The tokens of a call are those of its last moment. -/
theorem exists_isMoment_of_tokenize {tokens : List Token} (h : m.tokenize input = .ok tokens) :
    ∃ s, m.IsMoment input s ∧ tokens = s.tokens := by
  rcases exists_scan_or_passReaches_of_tokenize h with ⟨s, hs, rfl⟩ | ⟨all, s, hs, rfl⟩
  · exact ⟨s, .scanned hs, rfl⟩
  · exact ⟨s, .pass hs, rfl⟩

end Scanner

end RuleLexer
