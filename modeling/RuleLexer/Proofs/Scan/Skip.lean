import RuleLexer.Proofs.WellFormed

/-!
# The pending skip

`skip` in an action says how many characters beyond the current one are to be left out
(`Scan.skip`).  The event leaves them out where the action ends with the flow to skip.  An action that
folds the character behind a `skip` decides otherwise, and then the count stays, until another rule is
run.

* `Rule.leftover`: the count that a rule leaves behind so.
* `skip_of_takes`, `skip_of_passes`: the count after a character or a token is the one that the last
  rule run on it leaves, and the one before if no rule was run.
* `skip_at_event`: **an event begins with the count that the rule run last has left**, and with none
  if no if-rule folds behind a `skip`.  Such a rule may well be there: `skip_behind_fold`.
-/

namespace RuleLexer

/-! ### Rules -/

/-- How many characters beyond the current one a step asks to be left out. -/
def Step.skip? : Step → Option Nat
  | skip count => some (count - 1)
  | _ => none

/-- The count that a rule leaves behind.  It is the one of the last `skip`, if the last step that
decides the flow is to fold. -/
def Rule.leftover (r : Rule) : Nat :=
  match (r.steps.filterMap Step.flow?).getLast? with
  | some .fold => ((r.steps.filterMap Step.skip?).getLast?).getD 0
  | _ => 0

theorem skip_apply (s : Scan) (step : Step) : (step.apply s).skip = step.skip?.getD s.skip := by
  cases step <;> rfl

/-- An action that comes to its end: its last `skip` decides the count, and the last step that asks
for a flow decides the flow. -/
theorem skip_of_runSteps {steps : List Step} :
    ∀ {flow flow' : Flow} {s t : Scan}, runSteps flow s steps = (t, .ok flow') →
      t.skip = ((steps.filterMap Step.skip?).getLast?).getD s.skip ∧
        flow' = ((steps.filterMap Step.flow?).getLast?).getD flow := by
  induction steps with
  | nil =>
    intro flow flow' s t h
    obtain ⟨rfl, hflow⟩ := Prod.mk.inj h
    exact ⟨rfl, (Except.ok.inj hflow).symm⟩
  | cons step steps ih =>
    intro flow flow' s t h
    rw [runSteps] at h
    split at h
    next => simp at h
    next =>
      rw [getLast?_filterMap_cons, getLast?_filterMap_cons, Option.getD_or, Option.getD_or,
        ← skip_apply]
      exact ih h

/-- Whoever skips asks for the flow to skip. -/
theorem Step.flow?_of_skip? {step : Step} {count : Nat} (h : step.skip? = some count) :
    step.flow? = some .skip := by
  cases step with
  | skip => rfl
  | _ => simp [skip?] at h

theorem Step.flow?_ne_proceed (step : Step) : step.flow? ≠ some .proceed := by
  cases step <;> simp [flow?]

/-- **A rule that is run leaves its count**, if the characters are left out where the flow is to
skip. -/
theorem Rule.leftover_of_run {r : Rule} {s t : Scan} {flow : Flow} (h : r.run s = (t, .ok flow)) :
    (if flow = .skip then 0 else t.skip) = r.leftover := by
  obtain ⟨hskip, hflow⟩ := skip_of_runSteps h
  rw [leftover]
  cases hlast : (r.steps.filterMap Step.flow?).getLast? with
  | none =>
    -- no step decides the flow, so none skips
    have hnone : r.steps.filterMap Step.skip? = [] := by
      refine List.filterMap_eq_nil_iff.2 fun step hstep => Option.eq_none_iff_forall_ne_some.2 ?_
      intro count hcount
      have hflow := List.filterMap_eq_nil_iff.1 (List.getLast?_eq_none_iff.1 hlast) step hstep
      rw [Step.flow?_of_skip? hcount] at hflow
      simp at hflow
    rw [hlast] at hflow
    rw [hnone] at hskip
    rw [hflow, if_neg (by simp)]
    exact hskip
  | some last =>
    rw [hlast] at hflow
    obtain rfl : flow = last := hflow
    cases flow with
    | fold => rw [if_neg (by simp), hskip]
    | skip => rfl
    | proceed =>
      obtain ⟨step, _, hstep⟩ := List.mem_filterMap.1 (List.mem_of_getLast? hlast)
      exact absurd hstep step.flow?_ne_proceed

theorem leftover_of_runChain {rules : List Rule} {s t : Scan} {flow : Flow}
    (h : runChain rules s = (t, .ok flow)) :
    (if flow = .skip then 0 else t.skip) = (findMatch rules s).elim s.skip Rule.leftover := by
  rcases runChain_cases h with ⟨hnone, rfl, rfl⟩ | ⟨r, hr, hrun⟩
  · rw [hnone]
    rfl
  · rw [hr]
    exact Rule.leftover_of_run hrun

namespace Scanner

variable {m : Scanner} {input : String}

/-! ### Events -/

/-- The rule that is run last while the character `c` is taken, if one is. -/
def lastIfRule (m : Scanner) (c : Char) (s : Scan) : Option Rule :=
  if m.isBreak c then
    match runChain m.ifRules s with
    | (u, .ok .proceed) =>
      (findMatch m.ifRules { u.flush with token := .ofChar c }).or (findMatch m.ifRules s)
    | _ => findMatch m.ifRules s
  else none

/-- The second chain comes after the first. -/
theorem lastIfRule_of_proceed {c : Char} {s u : Scan} (hc : m.isBreak c = true)
    (hu : runChain m.ifRules s = (u, .ok .proceed)) :
    m.lastIfRule c s =
      (findMatch m.ifRules { u.flush with token := .ofChar c }).or (findMatch m.ifRules s) := by
  rw [lastIfRule, if_pos hc, hu]

/-- **The count after a character.** -/
theorem skip_of_takes {c : Char} {s t : Scan} (h : m.Takes c s t) :
    t.skip = (m.lastIfRule c s).elim s.skip Rule.leftover := by
  have twice : ∀ {u v : Scan} {flow : Flow}, m.isBreak c = true →
      runChain m.ifRules s = (u, .ok .proceed) →
      runChain m.ifRules { u.flush with token := .ofChar c } = (v, .ok flow) →
      (if flow = .skip then 0 else v.skip) = (m.lastIfRule c s).elim s.skip Rule.leftover := by
    intro u v flow hc hu hv
    have hfirst : u.skip = (findMatch m.ifRules s).elim s.skip Rule.leftover :=
      leftover_of_runChain hu
    rw [leftover_of_runChain hv, lastIfRule_of_proceed hc hu]
    cases findMatch m.ifRules { u.flush with token := .ofChar c } with
    | none => exact hfirst
    | some => rfl
  cases h with
  | plain hc => rw [lastIfRule, if_neg (by simp [hc])]; rfl
  | fold hc hu | skip hc hu =>
    rw [lastIfRule, if_pos hc, hu]
    exact leftover_of_runChain hu
  | hold hc hu hv | drop hc hu hv | emit hc hu hv => exact twice hc hu hv

/-- **The count after a token.**  Let-rules do not decide the flow. -/
theorem skip_of_passes (hm : m.IsWellFormed) {s t : Scan} (h : m.Passes s t) :
    t.skip = (findMatch m.letRules s).elim s.skip Rule.leftover := by
  have run : ∀ {r : Rule} {u v : Scan} {flow : Flow}, findMatch m.letRules s = some r →
      r.run u = (v, .ok flow) → v.skip = (findMatch m.letRules s).elim s.skip Rule.leftover := by
    intro r u v flow hr hrun
    obtain rfl := flow_eq_proceed_of_run (hm.flow r (mem_of_findMatch hr)) hrun
    rw [hr]
    exact Rule.leftover_of_run hrun
  cases h with
  | same hkind =>
    cases hr : findMatch m.letRules s with
    | none => rfl
    | some r =>
      obtain ⟨kind, hletRule⟩ := hm.letRule r (mem_of_findMatch hr)
      exact absurd hletRule (hkind r kind hr)
  | edit hr _ hrun | group hr _ hrun | expand hr _ hrun =>
    have hskip := run hr hrun
    exact hskip

/-! ### Calls -/

section

variable (m input)

/-- The scan comes to a state between two characters, and `last` is the rule that was run last. -/
inductive ScanRan : Option Rule → Scan → Prop
  | start : ScanRan none (Scan.start input m.definitions)
  | step {last : Option Rule} {s t : Scan} {c : Char} : ScanRan last s →
      s.input[s.index]? = some c → m.step c s = .ok t → ScanRan ((m.lastIfRule c s).or last) t

/-- The pass over the scanned tokens comes to a state between two tokens, and `last` is the rule that
was run last. -/
inductive PassRan : Option Rule → Nat → Scan → List Token → Prop
  | start {last : Option Rule} {s : Scan} : ScanRan m input last s → s.input.size ≤ s.index →
      m.letRules.isEmpty = false → PassRan last 0 (letStart s.flush) s.flush.tokens
  | step {last : Option Rule} {passed : Nat} {s t : Scan} {token : Token} {tokens : List Token} :
      PassRan last passed s (token :: tokens) →
      m.letStep { s with index := passed + token.text.length - 1, token := token } = .ok t →
      PassRan
        ((findMatch m.letRules
          { s with index := passed + token.text.length - 1, token := token }).or last)
        (passed + token.text.length) t tokens

/-- An event begins: the current character is a break, or a scanned token is the next one that the
let-rules are tried on. -/
inductive BeginsEvent : Scan → Prop
  | scan {s : Scan} {c : Char} : m.ScanReaches input s → s.input[s.index]? = some c →
      m.isBreak c = true → BeginsEvent s
  | pass {s : Scan} : m.TriesLetRules input s → BeginsEvent s

/-- An event begins, and `last` is the rule that was run last. -/
inductive BeginsAfter : Option Rule → Scan → Prop
  | scan {last : Option Rule} {s : Scan} {c : Char} : m.ScanRan input last s →
      s.input[s.index]? = some c → m.isBreak c = true → BeginsAfter last s
  | pass {last : Option Rule} {passed : Nat} {s : Scan} {token : Token} {tokens : List Token} :
      m.PassRan input last passed s (token :: tokens) →
      BeginsAfter last { s with index := passed + token.text.length - 1, token := token }

end

theorem ScanReaches.exists_scanRan {s : Scan} (h : m.ScanReaches input s) :
    ∃ last, m.ScanRan input last s := by
  induction h with
  | start => exact ⟨none, .start⟩
  | step _ hc hstep ih =>
    obtain ⟨last, hlast⟩ := ih
    exact ⟨_, .step hlast hc hstep⟩

theorem ScanRan.scanReaches {last : Option Rule} {s : Scan} (h : m.ScanRan input last s) :
    m.ScanReaches input s := by
  induction h with
  | start => exact .start
  | step _ hc hstep ih => exact .step ih hc hstep

theorem PassReaches.exists_passRan {passed : Nat} {s : Scan} {tokens : List Token}
    (h : m.PassReaches input passed s tokens) : ∃ last, m.PassRan input last passed s tokens := by
  induction h with
  | start hscan hrules =>
    obtain ⟨t, ht, hend, rfl⟩ := scan_eq_ok_iff.1 hscan
    obtain ⟨last, hlast⟩ := ht.exists_scanRan
    exact ⟨last, .start hlast hend hrules⟩
  | step _ hstep ih =>
    obtain ⟨last, hlast⟩ := ih
    exact ⟨_, .step hlast hstep⟩

theorem PassRan.passReaches {last : Option Rule} {passed : Nat} {s : Scan} {tokens : List Token}
    (h : m.PassRan input last passed s tokens) : m.PassReaches input passed s tokens := by
  induction h with
  | start hran hend hrules => exact .start (scan_eq_ok_iff.2 ⟨_, hran.scanReaches, hend, rfl⟩) hrules
  | step _ hstep ih => exact .step ih hstep

/-- Before every event there is a rule that was run last, or none was run. -/
theorem beginsEvent_iff_exists_beginsAfter {s : Scan} :
    m.BeginsEvent input s ↔ ∃ last, m.BeginsAfter input last s := by
  constructor
  · intro h
    cases h with
    | scan hs hc hbreak =>
      obtain ⟨last, hlast⟩ := hs.exists_scanRan
      exact ⟨last, .scan hlast hc hbreak⟩
    | pass hs =>
      obtain ⟨hpass⟩ := hs
      obtain ⟨last, hlast⟩ := hpass.exists_passRan
      exact ⟨last, .pass hlast⟩
  · rintro ⟨last, h⟩
    cases h with
    | scan hran hc hbreak => exact .scan hran.scanReaches hc hbreak
    | pass hran => exact .pass (.intro hran.passReaches)

/-! ### The count between events -/

/-- The count after a rule: `last` is the one before, and `now` the one that was run since. -/
theorem elim_or_leftover (now last : Option Rule) :
    (now.or last).elim 0 Rule.leftover = now.elim (last.elim 0 Rule.leftover) Rule.leftover := by
  cases now <;> rfl

theorem ScanRan.skip_eq {last : Option Rule} {s : Scan} (h : m.ScanRan input last s) :
    s.skip = last.elim 0 Rule.leftover := by
  induction h with
  | start => rfl
  | step _ _ hstep ih => rw [skip_of_takes (takes_of_step hstep), elim_or_leftover, ih]

theorem PassRan.skip_eq (hm : m.IsWellFormed) {last : Option Rule} {passed : Nat} {s : Scan}
    {tokens : List Token} (h : m.PassRan input last passed s tokens) :
    s.skip = last.elim 0 Rule.leftover := by
  induction h with
  | start hran =>
    have hskip := hran.skip_eq
    exact hskip
  | step _ hstep ih => rw [skip_of_passes hm (passes_of_letStep hstep), elim_or_leftover, ih]

theorem BeginsAfter.skip_eq (hm : m.IsWellFormed) {last : Option Rule} {s : Scan}
    (h : m.BeginsAfter input last s) : s.skip = last.elim 0 Rule.leftover := by
  cases h with
  | scan hran => exact hran.skip_eq
  | pass hran =>
    have hskip := hran.skip_eq hm
    exact hskip

/-! ### Rules that leave nothing -/

theorem mem_ifRules_of_lastIfRule {c : Char} {s : Scan} {r : Rule}
    (h : m.lastIfRule c s = some r) : r ∈ m.ifRules := by
  rw [lastIfRule] at h
  split at h
  next =>
    split at h
    next =>
      rcases Option.or_eq_some_iff.1 h with h | ⟨_, h⟩
      · exact mem_of_findMatch h
      · exact mem_of_findMatch h
    next => exact mem_of_findMatch h
  next => simp at h

theorem ScanRan.mem_rules {last : Option Rule} {s : Scan} (h : m.ScanRan input last s) :
    ∀ r ∈ last, r ∈ m.rules := by
  induction h with
  | start => simp
  | step _ _ _ ih =>
    intro r hr
    rcases Option.or_eq_some_iff.1 hr with hr | ⟨_, hr⟩
    · exact List.mem_append_left _ (mem_ifRules_of_lastIfRule hr)
    · exact ih r hr

theorem PassRan.mem_rules {last : Option Rule} {passed : Nat} {s : Scan} {tokens : List Token}
    (h : m.PassRan input last passed s tokens) : ∀ r ∈ last, r ∈ m.rules := by
  induction h with
  | start hran => exact hran.mem_rules
  | step _ _ ih =>
    intro r hr
    rcases Option.or_eq_some_iff.1 hr with hr | ⟨_, hr⟩
    · exact mem_rules_of_findMatch_letRules hr
    · exact ih r hr

theorem BeginsAfter.mem_rules {last : Option Rule} {s : Scan} (h : m.BeginsAfter input last s) :
    ∀ r ∈ last, r ∈ m.rules := by
  cases h with
  | scan hran => exact hran.mem_rules
  | pass hran => exact hran.mem_rules

/-- What does not fold leaves nothing. -/
theorem leftover_eq_zero_of_letRule (hm : m.IsWellFormed) {r : Rule} (hr : r ∈ m.letRules) :
    r.leftover = 0 := by
  rw [Rule.leftover]
  split
  next hlast =>
    obtain ⟨step, hstep, hflow⟩ := List.mem_filterMap.1 (List.mem_of_getLast? hlast)
    cases step with
    | fold => exact absurd rfl (hm.flow r hr _ hstep).1
    | _ => simp [Step.flow?] at hflow
  next => rfl

end Scanner

/-- **An event begins with the count that the rule run last has left**, or with none if no rule was
run.  So it begins with none, if no if-rule folds behind a `skip`. -/
theorem skip_at_event [Regex.Engine] (spec : Specification) (hosts : HostRegistry) (m : Scanner)
    (h : spec.scanner hosts = .ok m) (input : String) :
    (∀ s, m.BeginsEvent input s ↔ ∃ last, m.BeginsAfter input last s) ∧
    (∀ last s, m.BeginsAfter input last s → s.skip = last.elim 0 Rule.leftover) ∧
    ((∀ r ∈ m.ifRules, r.leftover = 0) → ∀ s, m.BeginsEvent input s → s.skip = 0) := by
  have hm := Specification.isWellFormed_scanner h
  refine ⟨fun s => Scanner.beginsEvent_iff_exists_beginsAfter, fun last s hs => hs.skip_eq hm, ?_⟩
  intro hif s hs
  obtain ⟨last, hlast⟩ := Scanner.beginsEvent_iff_exists_beginsAfter.1 hs
  rw [hlast.skip_eq hm]
  cases last with
  | none => rfl
  | some r =>
    rcases List.mem_append.1 (hlast.mem_rules r rfl) with hr | hr
    · exact hif r hr
    · exact Scanner.leftover_eq_zero_of_letRule hm hr

/-- An action at every comma, and a callback that looks at every token. -/
def commaRules (action : String) : Specification where
  ifRules := [⟨"<-> ','", action, ⟨0, "sample"⟩⟩]
  letRules := [⟨"[(p)]", .be, "#x", ⟨40, "sample"⟩⟩]

def commaHosts : HostRegistry where
  tests := [("p", fun _ => false)]

def commaScanner (steps : List Step) : Scanner where
  isBreak := Pattern.defaultBreak.matchesChar
  ifRules := [⟨.ifThen, .test .character (.text ","), 0, steps, ⟨0, "sample"⟩⟩]
  letRules := [⟨.letRule .be, .host ⟨"p", fun _ => false⟩, 0, [.tag "x"], ⟨40, "sample"⟩⟩]
  definitions := {}

/-- The second comma finds what the first one has left, or nothing where the action skips in the
end. -/
theorem skip_at_event_comma :
    (∃ s last, (commaScanner [.skip 3, .fold]).BeginsAfter ",-," last s ∧ s.index = 2 ∧
      last.elim 0 Rule.leftover = 2 ∧ s.skip = last.elim 0 Rule.leftover) ∧
    ∃ s, (commaScanner [.fold, .skip 3]).BeginsEvent ",--," s ∧ s.index = 3 ∧ s.skip = 0 := by
  have hfold : (commaRules "skip 3; continue").scanner commaHosts =
      .ok (commaScanner [.skip 3, .fold]) :=
    Specification.scanner_eq_ok.2 ⟨⟨[some _], .cons (by cbv) .nil, rfl⟩,
      ⟨[some _], .cons (by cbv) .nil, rfl⟩, rfl, rfl⟩
  have hskip : (commaRules "continue; skip 3").scanner commaHosts =
      .ok (commaScanner [.fold, .skip 3]) :=
    Specification.scanner_eq_ok.2 ⟨⟨[some _], .cons (by cbv) .nil, rfl⟩,
      ⟨[some _], .cons (by cbv) .nil, rfl⟩, rfl, rfl⟩
  obtain ⟨_, hcount, _⟩ := skip_at_event _ commaHosts _ hfold ",-,"
  obtain ⟨_, _, hzero⟩ := skip_at_event _ commaHosts _ hskip ",--,"
  constructor
  · have hstart : (commaScanner [.skip 3, .fold]).ScanRan ",-," none _ := .start
    have hfirst := hstart.step
      (t := { input := #[',', '-', ','], index := 1, token := ⟨",", .empty⟩, skip := 2 })
      rfl (by cbv)
    have hsecond := hfirst.step
      (t := { input := #[',', '-', ','], index := 2, skip := 2,
              emitted := [⟨"-", .empty⟩, ⟨",", .empty⟩] })
      rfl (by cbv)
    have hbegins := Scanner.BeginsAfter.scan hsecond rfl (by cbv)
    exact ⟨_, _, hbegins, rfl, by cbv, hcount _ _ hbegins⟩
  · have hstart : (commaScanner [.fold, .skip 3]).ScanReaches ",--," _ := .start
    have hfirst := hstart.step (t := { input := #[',', '-', '-', ','], index := 3 }) rfl (by cbv)
    have hbegins := Scanner.BeginsEvent.scan hfirst rfl (by cbv)
    refine ⟨_, hbegins, rfl, hzero ?_ _ hbegins⟩
    exact List.forall_mem_singleton.2 rfl

/-- What `skip 3` asks for is still there when the let-rules come, if the comma was folded then. -/
theorem skip_behind_fold :
    (commaRules "skip 3; continue").scanner commaHosts = .ok (commaScanner [.skip 3, .fold]) ∧
    ∃ s, (commaScanner [.skip 3, .fold]).BeginsEvent "," s ∧
      (commaScanner [.skip 3, .fold]).TriesLetRules "," s ∧ s.skip ≠ 0 := by
  have h : (commaRules "skip 3; continue").scanner commaHosts = .ok (commaScanner [.skip 3, .fold]) :=
    Specification.scanner_eq_ok.2 ⟨⟨[some _], .cons (by cbv) .nil, rfl⟩,
      ⟨[some _], .cons (by cbv) .nil, rfl⟩, rfl, rfl⟩
  have hscan : (commaScanner [.skip 3, .fold]).scan "," = .ok
      { input := #[','], index := 1, emitted := [⟨",", .empty⟩], skip := 2 } := by cbv
  have htries : (commaScanner [.skip 3, .fold]).TriesLetRules "," _ := .intro (.start hscan rfl)
  exact ⟨h, _, .pass htries, htries, by decide⟩

end RuleLexer
