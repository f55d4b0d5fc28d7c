import RuleLexer.LetPass

/-!
# The course of a tokenization

What a rule, an event, a scan and the pass over the tokens can do, each said once.

* `runSteps_invariant`, `flow_of_runSteps`: an action that comes to its end has carried out all its
  steps, and its flow is one that a step asked for.
* `Scanner.Takes`: the six ways in which one character is taken.  `takes_of_step` says there is no
  other.  `Scanner.Tries`: where the if-rules are tried meanwhile.
* `Scanner.Passes`: the ways in which one scanned token is passed; `passes_of_letStep`.
  `Scanner.RunsOn`: which let-rule is run meanwhile, and where.
* `scanFrom_invariant`, `letFrom_invariant`: **what each step keeps, a whole run keeps.**

A theorem about every run is then a case analysis on `Takes` or on `Passes`; the recursions
themselves are not opened again.
-/

namespace RuleLexer

/-! ### Actions -/

/-- What every step of an action keeps, the action keeps. -/
theorem runSteps_invariant {P : Scan → Prop} {steps : List Step}
    (hstep : ∀ step ∈ steps, ∀ s, step.error? s = none → P s → P (step.apply s)) :
    ∀ {flow flow' : Flow} {s t : Scan}, runSteps flow s steps = (t, .ok flow') → P s → P t := by
  induction steps with
  | nil =>
    intro flow flow' s t h hs
    rw [runSteps, Prod.mk.injEq] at h
    exact h.1 ▸ hs
  | cons step steps ih =>
    intro flow flow' s t h hs
    rw [runSteps] at h
    cases he : step.error? s with
    | some e => simp [he] at h
    | none =>
      rw [he] at h
      have hs' : P (step.apply s) := hstep step List.mem_cons_self s he hs
      exact ih (fun step' hm => hstep step' (List.mem_cons_of_mem step hm)) h hs'

/-- The flow of an action was asked for by one of its steps, if it is not the flow it began with. -/
theorem flow_of_runSteps {steps : List Step} :
    ∀ {flow flow' : Flow} {s t : Scan}, runSteps flow s steps = (t, .ok flow') →
      flow' = flow ∨ ∃ step ∈ steps, step.flow? = some flow' := by
  induction steps with
  | nil =>
    intro flow flow' s t h
    rw [runSteps, Prod.mk.injEq, Except.ok.injEq] at h
    exact Or.inl h.2.symm
  | cons step steps ih =>
    intro flow flow' s t h
    rw [runSteps] at h
    cases he : step.error? s with
    | some e => simp [he] at h
    | none =>
      rw [he] at h
      rcases ih h with hf | ⟨step', hm, hf⟩
      · cases hq : step.flow? with
        | none => exact Or.inl (by rw [hf, hq]; rfl)
        | some f => exact Or.inr ⟨step, List.mem_cons_self, by rw [hf, hq]; rfl⟩
      · exact Or.inr ⟨step', List.mem_cons_of_mem step hm, hf⟩

/-! ### Rules and chains -/

theorem mem_of_findMatch {rules : List Rule} {s : Scan} {r : Rule}
    (h : findMatch rules s = some r) : r ∈ rules :=
  List.mem_of_find?_eq_some h

/-- What every step of a rule keeps, whatever the two counters are set to, running the rule
keeps. -/
theorem run_invariant {P : Scan → Prop} {r : Rule}
    (hcount : ∀ s lookBack skip, P s → P { s with lookBack := lookBack, skip := skip })
    (hstep : ∀ step ∈ r.steps, ∀ s, step.error? s = none → P s → P (step.apply s))
    {s t : Scan} {flow : Flow} (h : r.run s = (t, .ok flow)) (hs : P s) : P t :=
  runSteps_invariant hstep h (hcount s r.lookBack 0 hs)

/-- Running a rule leaves text and place as they are. -/
theorem run_keeps {r : Rule} {s t : Scan} {outcome : Except Error Flow} (h : r.run s = (t, outcome)) :
    t.input = s.input ∧ t.index = s.index := by
  have hi := r.input_run s
  have hx := r.index_run s
  rw [h] at hi hx
  exact ⟨hi, hx⟩

/-- A chain runs one of its rules, or it has none that matches and does nothing. -/
theorem runChain_cases {rules : List Rule} {s t : Scan} {flow : Flow}
    (h : runChain rules s = (t, .ok flow)) :
    (findMatch rules s = none ∧ t = s ∧ flow = .proceed) ∨
      ∃ r, findMatch rules s = some r ∧ r.run s = (t, .ok flow) := by
  rw [runChain] at h
  cases hm : findMatch rules s with
  | none =>
    rw [hm] at h
    simp only [Prod.mk.injEq, Except.ok.injEq] at h
    exact Or.inl ⟨rfl, h.1.symm, h.2.symm⟩
  | some r =>
    rw [hm] at h
    exact Or.inr ⟨r, rfl, h⟩

theorem runChain_invariant {P : Scan → Prop} {rules : List Rule}
    (hrun : ∀ r ∈ rules, ∀ s t flow, r.run s = (t, .ok flow) → P s → P t)
    {s t : Scan} {flow : Flow} (h : runChain rules s = (t, .ok flow)) (hs : P s) : P t := by
  rcases runChain_cases h with ⟨_, rfl, _⟩ | ⟨r, hm, hr⟩
  · exact hs
  · exact hrun r (mem_of_findMatch hm) s t flow hr hs

/-- Emitting adds the token in progress, if it has a text. -/
theorem Scan.mem_emitted_flush {s : Scan} {token : Token} (h : token ∈ s.flush.emitted) :
    token ∈ s.emitted ∨ token = s.token ∧ s.token.isEmpty = false := by
  cases he : s.token.isEmpty with
  | true =>
    rw [Scan.flush, if_pos he] at h
    exact Or.inl h
  | false =>
    rw [Scan.flush, if_neg (by simp [he])] at h
    rcases List.mem_cons.1 h with htoken | hmem
    · exact Or.inr ⟨htoken, rfl⟩
    · exact Or.inl hmem

namespace Scanner

variable {m : Scanner}

/-! ### One character -/

/-- The ways in which the character `c` is taken in a state. -/
inductive Takes (m : Scanner) (c : Char) (s : Scan) : Scan → Prop where
  /-- It is no break and goes to the token in progress. -/
  | plain : m.isBreak c = false → Takes m c s (s.push c).advance
  /-- It is a break, and a rule folds it into the token in progress. -/
  | fold {u : Scan} : m.isBreak c = true → runChain m.ifRules s = (u, .ok .fold) →
      Takes m c s (u.push c).advance
  /-- A rule skips it, and perhaps some characters more. -/
  | skip {u : Scan} : m.isBreak c = true → runChain m.ifRules s = (u, .ok .skip) →
      Takes m c s u.consumeSkipped.advance
  /-- It begins a token that stays in progress. -/
  | hold {u v : Scan} : m.isBreak c = true → runChain m.ifRules s = (u, .ok .proceed) →
      runChain m.ifRules { u.flush with token := .ofChar c } = (v, .ok .fold) →
      Takes m c s v.advance
  /-- It begins a token, and a rule skips this token. -/
  | drop {u v : Scan} : m.isBreak c = true → runChain m.ifRules s = (u, .ok .proceed) →
      runChain m.ifRules { u.flush with token := .ofChar c } = (v, .ok .skip) →
      Takes m c s { v with token := {} }.consumeSkipped.advance
  /-- It is emitted as a token. -/
  | emit {u v : Scan} : m.isBreak c = true → runChain m.ifRules s = (u, .ok .proceed) →
      runChain m.ifRules { u.flush with token := .ofChar c } = (v, .ok .proceed) →
      Takes m c s v.flush.advance

theorem takes_of_step {c : Char} {s t : Scan} (h : m.step c s = .ok t) : Takes m c s t := by
  rw [step] at h
  cases hc : m.isBreak c with
  | false =>
    simp only [hc, Bool.false_eq_true, if_false, Except.ok.injEq] at h
    exact h ▸ Takes.plain hc
  | true =>
    simp only [hc, if_true, boundary] at h
    split at h
    next => simp [Except.map] at h
    next hu => exact Except.ok.inj h ▸ Takes.fold hc hu
    next hu => exact Except.ok.inj h ▸ Takes.skip hc hu
    next hu =>
      rw [breakEvent] at h
      split at h
      next => simp [Except.map] at h
      next hv => exact Except.ok.inj h ▸ Takes.hold hc hu hv
      next hv => exact Except.ok.inj h ▸ Takes.drop hc hu hv
      next hv => exact Except.ok.inj h ▸ Takes.emit hc hu hv

/-- The states in which the chain of the if-rules is tried while the break `c` is taken: with the token
in progress, and then perhaps with the token that consists of the break. -/
inductive Tries (m : Scanner) (c : Char) (s : Scan) : Scan → Prop where
  | first : m.isBreak c = true → Tries m c s s
  | second {u : Scan} : m.isBreak c = true → runChain m.ifRules s = (u, .ok .proceed) →
      Tries m c s { u.flush with token := .ofChar c }

theorem Tries.isBreak {c : Char} {s t : Scan} (h : m.Tries c s t) : m.isBreak c = true := by
  cases h with
  | first hc | second hc _ => exact hc

/-- Both times the chain sees the text at the place of the break. -/
theorem Tries.keeps {c : Char} {s t : Scan} (h : m.Tries c s t) :
    t.input = s.input ∧ t.index = s.index := by
  cases h with
  | first => exact ⟨rfl, rfl⟩
  | second _ hu =>
    have hk := runChain_keeps hu
    exact hk

/-- A character that cannot be taken is a break, and one of its two chains fails. -/
theorem exists_tries_of_step_error {c : Char} {s : Scan} {e : Error} (h : m.step c s = .error e) :
    ∃ t u, m.Tries c s t ∧ runChain m.ifRules t = (u, .error e) := by
  rw [step] at h
  cases hc : m.isBreak c with
  | false => simp [hc] at h
  | true =>
    simp only [hc, if_true, boundary] at h
    split at h
    next hu => exact ⟨s, _, .first hc, Except.error.inj h ▸ hu⟩
    next => simp [Except.map] at h
    next => simp [Except.map] at h
    next hu =>
      rw [breakEvent] at h
      split at h
      next hv => exact ⟨_, _, .second hc hu, Except.error.inj h ▸ hv⟩
      all_goals simp [Except.map] at h

/-- **What taking a character keeps, a scan keeps**, and it ends behind the last character. -/
theorem scanFrom_invariant {P : Scan → Prop}
    (hstep : ∀ s t c, s.input[s.index]? = some c → Takes m c s t → P s → P t) :
    ∀ {s t : Scan}, m.scanFrom s = .ok t → P s → P t ∧ t.input.size ≤ t.index := by
  intro s
  fun_induction m.scanFrom s with
  | case1 s h e he => intro t ht; simp at ht
  | case2 s h u hu ih =>
    intro t ht hs
    have hc : s.input[s.index]? = some s.input[s.index] := Array.getElem?_eq_getElem h
    exact ih ht (hstep s u _ hc (takes_of_step hu) hs)
  | case3 s h =>
    intro t ht hs
    obtain rfl := Except.ok.inj ht
    exact ⟨hs, Nat.le_of_not_lt h⟩

/-! ### One token -/

/-- The ways in which the token in progress is passed by the let-rules. -/
inductive Passes (m : Scanner) (s : Scan) : Scan → Prop where
  /-- No rule matches, or an if-rule does, and the token stays as it is. -/
  | same : (∀ r kind, findMatch m.letRules s = some r → r.kind ≠ .letRule kind) →
      Passes m s s.flush
  /-- A rule works on the token alone. -/
  | edit {r : Rule} {u : Scan} {flow : Flow} : findMatch m.letRules s = some r →
      r.kind = .letRule .be ∨ r.kind = .letRule .throw → r.run s = (u, .ok flow) →
      Passes m s u.flush
  /-- A rule works on the token joined with the tokens before it that its test looked at. -/
  | group {r : Rule} {u : Scan} {flow : Flow} : findMatch m.letRules s = some r →
      r.kind = .letRule .beGroup →
      r.run { s with lookBack := r.lookBack }.joinBehind = (u, .ok flow) → Passes m s u.flush
  /-- A rule works on the token, which is cut at its breaks then. -/
  | expand {r : Rule} {u : Scan} {flow : Flow} : findMatch m.letRules s = some r →
      r.kind = .letRule .expandGroup → r.run s = (u, .ok flow) →
      Passes m s { u with
        token := {}, emitted := (u.token.expand m.isBreak).reverse ++ u.emitted }

/-- Running a rule without regard to its flow. -/
theorem run_of_runPlain {r : Rule} {s t : Scan} (h : runPlain r s = .ok t) :
    ∃ flow, r.run s = (t, .ok flow) := by
  rw [runPlain] at h
  split at h
  next => simp at h
  next flow hr =>
    obtain rfl := Except.ok.inj h
    exact ⟨flow, hr⟩

theorem passes_of_letStep {s t : Scan} (h : m.letStep s = .ok t) : Passes m s t := by
  rw [letStep] at h
  split at h
  next hm =>
    obtain rfl := Except.ok.inj h
    exact .same (fun r kind hr => by rw [hm] at hr; simp at hr)
  next r hm =>
    split at h
    next hk =>
      obtain rfl := Except.ok.inj h
      refine .same (fun r' kind hr => ?_)
      rw [hm, Option.some.injEq] at hr
      rw [← hr, hk]
      simp
    next hk =>
      obtain ⟨u, hu, rfl⟩ := exists_of_map_eq_ok h
      obtain ⟨flow, hr⟩ := run_of_runPlain hu
      exact .edit hm (Or.inl hk) hr
    next hk =>
      obtain ⟨u, hu, rfl⟩ := exists_of_map_eq_ok h
      obtain ⟨flow, hr⟩ := run_of_runPlain hu
      exact .edit hm (Or.inr hk) hr
    next hk =>
      obtain ⟨u, hu, rfl⟩ := exists_of_map_eq_ok h
      obtain ⟨flow, hr⟩ := run_of_runPlain hu
      exact .group hm hk hr
    next hk =>
      obtain ⟨u, hu, rfl⟩ := exists_of_map_eq_ok h
      obtain ⟨flow, hr⟩ := run_of_runPlain hu
      exact .expand hm hk hr

/-- Passing a token leaves the text as it is. -/
theorem Passes.input_eq {s t : Scan} (h : m.Passes s t) : t.input = s.input := by
  cases h with
  | same => rfl
  | edit _ _ hr | group _ _ hr | expand _ _ hr =>
    have hk := run_keeps hr
    exact hk.1

/-- The let-rule that is run on the token in progress, and the state in which it is run. -/
inductive RunsOn (m : Scanner) (s : Scan) : Rule → Scan → Prop where
  | token {r : Rule} {kind : LetKind} : findMatch m.letRules s = some r →
      r.kind = .letRule kind → kind ≠ .beGroup → RunsOn m s r s
  /-- The tokens that the test looked at are joined before. -/
  | group {r : Rule} : findMatch m.letRules s = some r → r.kind = .letRule .beGroup →
      RunsOn m s r { s with lookBack := r.lookBack }.joinBehind

/-- The rule sees the text at the place of the token. -/
theorem RunsOn.keeps {s t : Scan} {r : Rule} (h : m.RunsOn s r t) :
    t.input = s.input ∧ t.index = s.index := by
  cases h with
  | token | group => exact ⟨rfl, rfl⟩

theorem exists_of_runPlain_error {r : Rule} {s : Scan} {f : Scan → Scan} {e : Error}
    (h : (runPlain r s).map f = .error e) : ∃ t, r.run s = (t, .error e) := by
  replace h := error_of_map_eq_error h
  rw [runPlain] at h
  split at h
  next hr =>
    obtain rfl := Except.error.inj h
    exact ⟨_, hr⟩
  next => simp at h

/-- A token that cannot be passed has a let-rule run on it that fails. -/
theorem exists_runsOn_of_letStep_error {s : Scan} {e : Error} (h : m.letStep s = .error e) :
    ∃ r t u, m.RunsOn s r t ∧ r.run t = (u, .error e) := by
  rw [letStep] at h
  split at h
  next => simp at h
  next r hm =>
    split at h
    next => simp at h
    next hk =>
      obtain ⟨u, hu⟩ := exists_of_runPlain_error h
      exact ⟨r, s, u, .token hm hk LetKind.noConfusion, hu⟩
    next hk =>
      obtain ⟨u, hu⟩ := exists_of_runPlain_error h
      exact ⟨r, s, u, .token hm hk LetKind.noConfusion, hu⟩
    next hk =>
      obtain ⟨u, hu⟩ := exists_of_runPlain_error h
      exact ⟨r, _, u, .group hm hk, hu⟩
    next hk =>
      obtain ⟨u, hu⟩ := exists_of_runPlain_error h
      exact ⟨r, s, u, .token hm hk LetKind.noConfusion, hu⟩

/-- **What passing a token keeps, the pass over all tokens keeps.**  The predicate may speak of the
number of characters passed and of the tokens to come. -/
theorem letFrom_invariant {P : Nat → Scan → List Token → Prop}
    (hstep : ∀ passed s token tokens u, P passed s (token :: tokens) →
      Passes m { s with index := passed + token.text.length - 1, token := token } u →
      P (passed + token.text.length) u tokens) :
    ∀ {tokens : List Token} {passed : Nat} {s t : Scan}, m.letFrom passed s tokens = .ok t →
      P passed s tokens → ∃ all, P all t [] := by
  intro tokens
  induction tokens with
  | nil =>
    intro passed s t h hs
    obtain rfl := Except.ok.inj h
    exact ⟨passed, hs⟩
  | cons token tokens ih =>
    intro passed s t h hs
    rw [letFrom] at h
    split at h
    next => simp at h
    next u hu => exact ih h (hstep passed s token tokens u hs (passes_of_letStep hu))

end Scanner

end RuleLexer
