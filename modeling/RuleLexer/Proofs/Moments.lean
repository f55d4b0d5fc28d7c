import RuleLexer.Proofs.Course

/-!
# The moments of a tokenization

What happens while a text is cut into tokens, moment by moment:

* `ScanReaches`, `PassReaches`: the scan is between two characters, the pass between two tokens;
* `TriesIfRules`, `TriesLetRules`: a chain of rules is tried in a state;
* `Runs`, `Performs`: a rule is run in a state, and comes to one of its steps.

A call goes on from each of its moments as from its start (`scanFrom_of_getElem?`,
`tokenize_of_passReaches`).  So it fails with an error if one of its moments does, and conversely
**an error of a call is that of a step which it came to** (`performs_of_tokenize_error`).
-/

namespace RuleLexer

/-! ### Steps that were not the last -/

/-- An action that ends with an error has come to a step that ends it. -/
theorem exists_step_of_runSteps_error {steps : List Step} {e : Error} :
    ∀ {flow : Flow} {s t : Scan}, runSteps flow s steps = (t, .error e) →
      ∃ before step after u flow', steps = before ++ step :: after ∧
        runSteps flow s before = (u, .ok flow') ∧ step.error? u = some e := by
  induction steps with
  | nil =>
    intro flow s t h
    simp [runSteps] at h
  | cons step steps ih =>
    intro flow s t h
    rw [runSteps] at h
    cases he : step.error? s with
    | some e' =>
      rw [he] at h
      obtain rfl := Except.error.inj (Prod.mk.inj h).2
      exact ⟨[], step, steps, s, flow, rfl, rfl, he⟩
    | none =>
      rw [he] at h
      obtain ⟨before, step', after, u, flow', rfl, hbefore, hu⟩ := ih h
      refine ⟨step :: before, step', after, u, flow', rfl, ?_, hu⟩
      rw [runSteps, he]
      exact hbefore

/-- A chain fails only where a rule matches and fails. -/
theorem exists_rule_of_runChain_error {rules : List Rule} {s t : Scan} {e : Error}
    (h : runChain rules s = (t, .error e)) :
    ∃ r, findMatch rules s = some r ∧ r.run s = (t, .error e) := by
  rw [runChain] at h
  cases hm : findMatch rules s with
  | none => simp [hm] at h
  | some r =>
    rw [hm] at h
    exact ⟨r, rfl, h⟩

namespace Scanner

/-! ### The moments -/

section

variable (m : Scanner) (input : String)

/-- The scan comes to a state between two characters. -/
inductive ScanReaches : Scan → Prop
  | start : ScanReaches (Scan.start input m.definitions)
  | step {s t : Scan} {c : Char} : ScanReaches s → s.input[s.index]? = some c →
      m.step c s = .ok t → ScanReaches t

/-- The pass over the scanned tokens comes to a state between two tokens, with some tokens still to
come.  Without let-rules there is no pass. -/
inductive PassReaches : Nat → Scan → List Token → Prop
  | start {s : Scan} : m.scan input = .ok s → m.letRules.isEmpty = false →
      PassReaches 0 (letStart s) s.tokens
  | step {passed : Nat} {s t : Scan} {token : Token} {tokens : List Token} :
      PassReaches passed s (token :: tokens) →
      m.letStep { s with index := passed + token.text.length - 1, token := token } = .ok t →
      PassReaches (passed + token.text.length) t tokens

/-- The chain of the if-rules is tried in a state: at a break, on the token in progress, and then
perhaps on the token that consists of the break. -/
inductive TriesIfRules : Scan → Prop
  | first {s : Scan} {c : Char} : m.ScanReaches input s → s.input[s.index]? = some c →
      m.isBreak c = true → TriesIfRules s
  | second {s u : Scan} {c : Char} : m.ScanReaches input s → s.input[s.index]? = some c →
      m.isBreak c = true → runChain m.ifRules s = (u, .ok .proceed) →
      TriesIfRules { u.flush with token := .ofChar c }

/-- The chain of the let-rules is tried in a state: on each scanned token. -/
inductive TriesLetRules : Scan → Prop
  | intro {passed : Nat} {s : Scan} {token : Token} {tokens : List Token} :
      m.PassReaches input passed s (token :: tokens) →
      TriesLetRules { s with index := passed + token.text.length - 1, token := token }

/-- A rule is run in a state. -/
inductive Runs : Rule → Scan → Prop
  | ifRule {r : Rule} {s : Scan} : m.TriesIfRules input s → findMatch m.ifRules s = some r →
      Runs r s
  | letRule {r : Rule} {s : Scan} {kind : LetKind} : m.TriesLetRules input s →
      findMatch m.letRules s = some r → r.kind = .letRule kind → kind ≠ .beGroup → Runs r s
  /-- The tokens that the test looked at are joined before. -/
  | group {r : Rule} {s : Scan} : m.TriesLetRules input s → findMatch m.letRules s = some r →
      r.kind = .letRule .beGroup → Runs r { s with lookBack := r.lookBack }.joinBehind

/-- A rule that is run comes to one of its steps, in a state. -/
inductive Performs : Rule → Step → Scan → Prop
  | intro {r : Rule} {s t : Scan} {before after : List Step} {step : Step} {flow : Flow} :
      m.Runs input r s → r.steps = before ++ step :: after →
      runSteps .proceed { s with lookBack := r.lookBack, skip := 0 } before = (t, .ok flow) →
      Performs r step t

end

variable {m : Scanner} {input : String}

theorem Performs.mem_steps {r : Rule} {step : Step} {s : Scan} (h : m.Performs input r step s) :
    step ∈ r.steps := by
  cases h with
  | intro _ hsteps _ =>
    rw [hsteps]
    exact List.mem_append_right _ List.mem_cons_self

/-- **What taking a character keeps holds between any two characters of a scan.** -/
theorem scanReaches_invariant {P : Scan → Prop} (hstart : P (Scan.start input m.definitions))
    (hstep : ∀ s t c, s.input[s.index]? = some c → Takes m c s t → P s → P t) {s : Scan}
    (h : m.ScanReaches input s) : P s := by
  induction h with
  | start => exact hstart
  | step _ hc hstep' ih => exact hstep _ _ _ hc (takes_of_step hstep') ih

/-- A scan sees the text from its start to its end. -/
theorem ScanReaches.input_eq {s : Scan} (h : m.ScanReaches input s) :
    s.input.toList = input.toList := by
  induction h with
  | start => rfl
  | step _ hc hstep ih =>
    obtain ⟨hlt, _⟩ := Array.getElem?_eq_some_iff.1 hc
    rw [(follows_step hstep hlt).1, ih]

/-- **What passing a token keeps holds between any two tokens of a pass**, if it holds at the
start. -/
theorem passReaches_invariant {P : Nat → Scan → List Token → Prop}
    (hstart : ∀ s, m.scan input = .ok s → P 0 (letStart s) s.tokens)
    (hstep : ∀ passed s token tokens u, P passed s (token :: tokens) →
      Passes m { s with index := passed + token.text.length - 1, token := token } u →
      P (passed + token.text.length) u tokens)
    {passed : Nat} {s : Scan} {tokens : List Token} (h : m.PassReaches input passed s tokens) :
    P passed s tokens := by
  induction h with
  | start hscan _ => exact hstart _ hscan
  | step _ hstep' ih => exact hstep _ _ _ _ _ ih (passes_of_letStep hstep')

/-! ### A call goes on from its moments -/

theorem scanFrom_of_getElem? {s : Scan} {c : Char} (hc : s.input[s.index]? = some c) :
    m.scanFrom s = (m.step c s).bind m.scanFrom := by
  obtain ⟨h, rfl⟩ := Array.getElem?_eq_some_iff.1 hc
  rw [scanFrom, dif_pos h]
  split
  next he =>
    rw [he]
    rfl
  next ht =>
    rw [ht]
    rfl

theorem scanFrom_of_size_le {s : Scan} (h : s.input.size ≤ s.index) : m.scanFrom s = .ok s := by
  rw [scanFrom, dif_neg (Nat.not_lt.2 h)]

theorem scanFrom_of_scanReaches {s : Scan} (h : m.ScanReaches input s) :
    m.scanFrom (Scan.start input m.definitions) = m.scanFrom s := by
  induction h with
  | start => rfl
  | step _ hc hstep ih =>
    rw [ih, scanFrom_of_getElem? hc, hstep]
    rfl

theorem scanReaches_of_scanFrom {s t : Scan} (hs : m.ScanReaches input s)
    (h : m.scanFrom s = .ok t) : m.ScanReaches input t ∧ t.input.size ≤ t.index := by
  fun_induction m.scanFrom s with
  | case1 => simp at h
  | case2 s hlt u hu ih => exact ih (.step hs (Array.getElem?_eq_getElem hlt) hu) h
  | case3 s hle =>
    obtain rfl := Except.ok.inj h
    exact ⟨hs, Nat.le_of_not_lt hle⟩

/-- A scan succeeds where it comes to the end of the text. -/
theorem scan_eq_ok_iff {s : Scan} : m.scan input = .ok s ↔
    ∃ t, m.ScanReaches input t ∧ t.input.size ≤ t.index ∧ s = t.flush := by
  constructor
  · intro h
    obtain ⟨t, ht, rfl⟩ := exists_of_map_eq_ok h
    obtain ⟨hreaches, hend⟩ := scanReaches_of_scanFrom .start ht
    exact ⟨t, hreaches, hend, rfl⟩
  · rintro ⟨t, ht, hend, rfl⟩
    rw [scan, scanFrom_of_scanReaches ht, scanFrom_of_size_le hend]
    rfl

theorem tokenize_of_passReaches {passed : Nat} {s : Scan} {tokens : List Token}
    (h : m.PassReaches input passed s tokens) :
    m.tokenize input = (m.letFrom passed s tokens).map Scan.tokens := by
  induction h with
  | start hscan hrules =>
    rw [tokenize, hscan]
    show m.letPass _ = _
    rw [letPass, hrules]
    rfl
  | step _ hstep ih =>
    rw [ih, letFrom, hstep]

/-- The let-rules fail on a token: so does the call. -/
theorem tokenize_error_of_letStep {passed : Nat} {s : Scan} {token : Token} {tokens : List Token}
    {e : Error} (h : m.PassReaches input passed s (token :: tokens))
    (he : m.letStep { s with index := passed + token.text.length - 1, token := token } = .error e) :
    m.tokenize input = .error e := by
  rw [tokenize_of_passReaches h, letFrom, he]
  rfl

/-! ### Where an error comes from -/

variable {e : Error}

theorem Tries.triesIfRules {s t : Scan} {c : Char} (h : m.Tries c s t) (hs : m.ScanReaches input s)
    (hc : s.input[s.index]? = some c) : m.TriesIfRules input t := by
  cases h with
  | first hbreak => exact .first hs hc hbreak
  | second hbreak hu => exact .second hs hc hbreak hu

/-- A scan that fails has come to a character that cannot be taken. -/
theorem exists_step_error_of_scanFrom_error {s : Scan} (hs : m.ScanReaches input s)
    (h : m.scanFrom s = .error e) :
    ∃ t c, m.ScanReaches input t ∧ t.input[t.index]? = some c ∧ m.step c t = .error e := by
  fun_induction m.scanFrom s with
  | case1 s hlt e' he =>
    obtain rfl := Except.error.inj h
    exact ⟨s, _, hs, Array.getElem?_eq_getElem hlt, he⟩
  | case2 s hlt t ht ih => exact ih (.step hs (Array.getElem?_eq_getElem hlt) ht) h
  | case3 => simp at h

theorem exists_step_error_of_scan_error (h : m.scan input = .error e) :
    ∃ t c, m.ScanReaches input t ∧ t.input[t.index]? = some c ∧ m.step c t = .error e :=
  exists_step_error_of_scanFrom_error .start (error_of_map_eq_error h)

theorem RunsOn.runs {s t : Scan} {r : Rule} (h : m.RunsOn s r t) (hs : m.TriesLetRules input s) :
    m.Runs input r t := by
  cases h with
  | token hm hk hne => exact .letRule hs hm hk hne
  | group hm hk => exact .group hs hm hk

/-- A pass that fails has come to a token that cannot be passed. -/
theorem exists_letStep_error_of_letFrom_error {tokens : List Token} :
    ∀ {passed : Nat} {s : Scan}, m.PassReaches input passed s tokens →
      m.letFrom passed s tokens = .error e →
      ∃ passed t token tokens, m.PassReaches input passed t (token :: tokens) ∧
        m.letStep { t with index := passed + token.text.length - 1, token := token } =
          .error e := by
  induction tokens with
  | nil =>
    intro passed s _ h
    simp [letFrom] at h
  | cons token tokens ih =>
    intro passed s hs h
    rw [letFrom] at h
    split at h
    next he =>
      obtain rfl := Except.error.inj h
      exact ⟨passed, s, token, tokens, hs, he⟩
    next hu => exact ih (.step hs hu) h

/-- A call whose scan succeeds fails at a token that cannot be passed. -/
theorem exists_letStep_error_of_tokenize_error {s : Scan} (hscan : m.scan input = .ok s)
    (h : m.tokenize input = .error e) :
    ∃ passed t token tokens, m.PassReaches input passed t (token :: tokens) ∧
      m.letStep { t with index := passed + token.text.length - 1, token := token } = .error e := by
  cases hrules : m.letRules.isEmpty with
  | true =>
    rw [tokenize, hscan] at h
    change m.letPass s = _ at h
    simp [letPass, hrules] at h
  | false =>
    have hs : m.PassReaches input 0 (letStart s) s.tokens := .start hscan hrules
    rw [tokenize_of_passReaches hs] at h
    exact exists_letStep_error_of_letFrom_error hs (error_of_map_eq_error h)

/-- A call that fails has run a rule that fails. -/
theorem exists_runs_of_tokenize_error (h : m.tokenize input = .error e) :
    ∃ r s t, m.Runs input r s ∧ r.run s = (t, .error e) := by
  cases hscan : m.scan input with
  | error e' =>
    rw [tokenize, hscan] at h
    obtain rfl := Except.error.inj h
    obtain ⟨s, c, hs, hc, hstep⟩ := exists_step_error_of_scan_error hscan
    obtain ⟨t, u, ht, hu⟩ := exists_tries_of_step_error hstep
    obtain ⟨r, hm, hr⟩ := exists_rule_of_runChain_error hu
    exact ⟨r, t, u, .ifRule (ht.triesIfRules hs hc) hm, hr⟩
  | ok s =>
    obtain ⟨passed, t, token, tokens, ht, hstep⟩ := exists_letStep_error_of_tokenize_error hscan h
    obtain ⟨r, u, v, hu, hv⟩ := exists_runsOn_of_letStep_error hstep
    exact ⟨r, u, v, hu.runs (.intro ht), hv⟩

/-- **An error of a call is that of a step which it came to.** -/
theorem performs_of_tokenize_error (h : m.tokenize input = .error e) :
    ∃ r step s, m.Performs input r step s ∧ step.error? s = some e := by
  obtain ⟨r, s, t, hr, hrun⟩ := exists_runs_of_tokenize_error h
  obtain ⟨before, step, after, u, flow, hsteps, hbefore, hu⟩ := exists_step_of_runSteps_error hrun
  exact ⟨r, step, u, .intro hr hsteps hbefore, hu⟩

end Scanner

end RuleLexer
