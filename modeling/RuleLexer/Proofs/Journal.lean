import RuleLexer.Journal
import RuleLexer.Proofs.Moments

/-!
# What the journal of a call has in it

The events of a call are found by a recursion of their own beside the scan and the pass.
`mem_events_iff` says that they are those of its moments (`Scanner.Happens`), and no others:

* a test callback is asked where a chain of rules is tried and its predicate comes to it
  (`Predicate.Asks`), no rule before having matched;
* a rule matches where it is run;
* an action callback is called where a rule comes to it.

So what the theorems about `TriesIfRules`, `TriesLetRules`, `Runs` and `Performs` say is said of what an
observer of the call notices.
-/

namespace RuleLexer

/-! ### Tests -/

/-- A predicate comes to a test callback: what stands left of it does not decide before. -/
inductive Predicate.Asks (s : Scan) : Predicate → HostTest → Prop
  | host {h : HostTest} : Asks s (.host h) h
  | andLeft {l r : Predicate} {h : HostTest} : Asks s l h → Asks s (.and l r) h
  | andRight {l r : Predicate} {h : HostTest} : l.holds s = true → Asks s r h → Asks s (.and l r) h
  | orLeft {l r : Predicate} {h : HostTest} : Asks s l h → Asks s (.or l r) h
  | orRight {l r : Predicate} {h : HostTest} : l.holds s = false → Asks s r h → Asks s (.or l r) h

variable {s t : Scan} {e : Event}

theorem Predicate.asks_and_iff {l r : Predicate} {h : HostTest} :
    Asks s (.and l r) h ↔ l.Asks s h ∨ l.holds s = true ∧ r.Asks s h := by
  constructor
  · intro hasks
    cases hasks with
    | andLeft hasks => exact Or.inl hasks
    | andRight hl hasks => exact Or.inr ⟨hl, hasks⟩
  · rintro (hasks | ⟨hl, hasks⟩)
    · exact .andLeft hasks
    · exact .andRight hl hasks

theorem Predicate.asks_or_iff {l r : Predicate} {h : HostTest} :
    Asks s (.or l r) h ↔ l.Asks s h ∨ ¬ l.holds s = true ∧ r.Asks s h := by
  constructor
  · intro hasks
    cases hasks with
    | orLeft hasks => exact Or.inl hasks
    | orRight hl hasks => exact Or.inr ⟨by simp [hl], hasks⟩
  · rintro (hasks | ⟨hl, hasks⟩)
    · exact .orLeft hasks
    · exact .orRight (Bool.eq_false_iff.2 hl) hasks

theorem Predicate.mem_events_iff {p : Predicate} :
    e ∈ p.events s ↔ ∃ h, p.Asks s h ∧ e = .asked h.expression s := by
  induction p with
  | test | definition =>
    simp only [events, List.not_mem_nil, false_iff]
    rintro ⟨h, hasks, _⟩
    cases hasks
  | host f =>
    rw [events, List.mem_singleton]
    constructor
    · rintro rfl
      exact ⟨f, .host, rfl⟩
    · rintro ⟨h, hasks, rfl⟩
      cases hasks
      rfl
  | and l r ihl ihr =>
    rw [events, List.mem_append, List.mem_ite_nil_right, ihl, ihr]
    simp only [asks_and_iff, or_and_right, and_assoc, exists_or, exists_and_left]
  | or l r ihl ihr =>
    rw [events, List.mem_append, List.mem_ite_nil_left, ihl, ihr]
    simp only [asks_or_iff, or_and_right, and_assoc, exists_or, exists_and_left]

/-- The search for a rule comes to a test callback: no rule before has matched. -/
inductive SearchAsks (s : Scan) : List Rule → HostTest → Prop
  | here {r : Rule} {rules : List Rule} {h : HostTest} : r.predicate.Asks s h →
      SearchAsks s (r :: rules) h
  | later {r : Rule} {rules : List Rule} {h : HostTest} : r.isMatch s = false →
      SearchAsks s rules h → SearchAsks s (r :: rules) h

theorem searchAsks_cons_iff {r : Rule} {rules : List Rule} {h : HostTest} :
    SearchAsks s (r :: rules) h ↔ r.predicate.Asks s h ∨
      ¬ r.isMatch s = true ∧ SearchAsks s rules h := by
  constructor
  · intro hasks
    cases hasks with
    | here hasks => exact Or.inl hasks
    | later hr hasks => exact Or.inr ⟨by simp [hr], hasks⟩
  · rintro (hasks | ⟨hr, hasks⟩)
    · exact .here hasks
    · exact .later (Bool.eq_false_iff.2 hr) hasks

theorem mem_searchEvents_iff {rules : List Rule} :
    e ∈ searchEvents s rules ↔ ∃ h, SearchAsks s rules h ∧ e = .asked h.expression s := by
  induction rules with
  | nil =>
    simp only [searchEvents, List.not_mem_nil, false_iff]
    rintro ⟨h, hasks, _⟩
    cases hasks
  | cons r rules ih =>
    rw [searchEvents, List.mem_append, List.mem_ite_nil_left, Predicate.mem_events_iff, ih]
    simp only [searchAsks_cons_iff, or_and_right, and_assoc, exists_or, exists_and_left]

/-! ### Actions -/

theorem mem_stepEvents_cons {step : Step} {steps : List Step} :
    e ∈ stepEvents s (step :: steps) ↔ (∃ h, step = .host h ∧ e = .called h.expression s) ∨
      step.error? s = none ∧ e ∈ stepEvents (step.apply s) steps := by
  cases step with
  | host h =>
    rw [stepEvents]
    cases (Step.host h).error? s <;> simp
  | throw message => simp [stepEvents, Step.error?]
  | _ => simp [stepEvents, Step.error?]

/-- An action calls the callbacks that it comes to. -/
theorem mem_stepEvents_iff {steps : List Step} (flow : Flow) : ∀ {s : Scan},
    e ∈ stepEvents s steps ↔ ∃ before h after t flow', steps = before ++ .host h :: after ∧
      runSteps flow s before = (t, .ok flow') ∧ e = .called h.expression t := by
  induction steps generalizing flow with
  | nil => simp [stepEvents]
  | cons step steps ih =>
    intro s
    rw [mem_stepEvents_cons]
    constructor
    · rintro (⟨h, rfl, rfl⟩ | ⟨he, hlater⟩)
      · exact ⟨[], h, steps, s, flow, rfl, rfl, rfl⟩
      · obtain ⟨before, h, after, t, flow', rfl, hbefore, rfl⟩ :=
          (ih (step.flow?.getD flow)).1 hlater
        refine ⟨step :: before, h, after, t, flow', rfl, ?_, rfl⟩
        rw [runSteps, he]
        exact hbefore
    · rintro ⟨before, h, after, t, flow', hsteps, hbefore, rfl⟩
      cases before with
      | nil =>
        obtain ⟨rfl, rfl⟩ := List.cons.inj hsteps
        obtain ⟨rfl, _⟩ := Prod.mk.inj hbefore
        exact Or.inl ⟨h, rfl, rfl⟩
      | cons first before =>
        obtain ⟨rfl, rfl⟩ := List.cons.inj hsteps
        rw [runSteps] at hbefore
        cases he : step.error? s with
        | some _ => simp [he] at hbefore
        | none =>
          rw [he] at hbefore
          exact Or.inr ⟨rfl, (ih _).2 ⟨before, h, after, t, flow', rfl, hbefore, rfl⟩⟩

namespace Scanner

/-! ### Calls -/

section

variable (m : Scanner) (input : String)

/-- A chain of rules is searched for one that matches. -/
inductive Searches : List Rule → Scan → Prop
  | ifRules {s : Scan} : m.TriesIfRules input s → Searches m.ifRules s
  | letRules {s : Scan} : m.TriesLetRules input s → Searches m.letRules s

/-- Something happens in a call that an observer notices. -/
inductive Happens : Event → Prop
  | asked {rules : List Rule} {s : Scan} {h : HostTest} : m.Searches input rules s →
      SearchAsks s rules h → Happens (.asked h.expression s)
  | matched {r : Rule} {s : Scan} : m.Runs input r s → Happens (.matched r.position s.token.text)
  | called {r : Rule} {h : HostAction} {s : Scan} : m.Performs input r (.host h) s →
      Happens (.called h.expression s)

end

variable {m : Scanner} {input : String}

theorem Searches.happens {rules : List Rule} (h : m.Searches input rules s)
    (he : e ∈ searchEvents s rules) : m.Happens input e := by
  obtain ⟨f, hasks, rfl⟩ := mem_searchEvents_iff.1 he
  exact .asked h hasks

theorem Runs.happens {r : Rule} (h : m.Runs input r s) (he : e ∈ r.events s) :
    m.Happens input e := by
  rcases List.mem_cons.1 he with rfl | he
  · exact .matched h
  · obtain ⟨before, f, after, t, flow, hsteps, hbefore, rfl⟩ := (mem_stepEvents_iff .proceed).1 he
    exact .called (.intro h hsteps hbefore)

/-- The events of a rule are that it matches and what it calls. -/
theorem mem_events_of_performs {r : Rule} {h : HostAction} {before after : List Step} {flow : Flow}
    (hsteps : r.steps = before ++ .host h :: after)
    (hbefore : runSteps .proceed { s with lookBack := r.lookBack, skip := 0 } before =
      (t, .ok flow)) : .called h.expression t ∈ r.events s :=
  List.mem_cons_of_mem _
    ((mem_stepEvents_iff .proceed).2 ⟨before, h, after, t, flow, hsteps, hbefore, rfl⟩)

theorem mem_chainEvents_iff {rules : List Rule} : e ∈ chainEvents rules s ↔
    e ∈ searchEvents s rules ∨ ∃ r, findMatch rules s = some r ∧ e ∈ r.events s := by
  rw [chainEvents, List.mem_append]
  cases findMatch rules s <;> simp

theorem TriesIfRules.happens (h : m.TriesIfRules input s) (he : e ∈ chainEvents m.ifRules s) :
    m.Happens input e := by
  rcases mem_chainEvents_iff.1 he with he | ⟨r, hr, he⟩
  · exact Searches.happens (.ifRules h) he
  · exact Runs.happens (.ifRule h hr) he

/-! ### The events of a scan -/

/-- At a break the chain of the if-rules is tried once or twice. -/
theorem mem_boundaryEvents_iff {c : Char} : e ∈ m.boundaryEvents c s ↔
    e ∈ chainEvents m.ifRules s ∨ ∃ u, runChain m.ifRules s = (u, .ok .proceed) ∧
      e ∈ chainEvents m.ifRules { u.flush with token := .ofChar c } := by
  rw [boundaryEvents, List.mem_append]
  split
  next u hu =>
    rw [hu]
    simp
  next hne =>
    simp only [List.not_mem_nil, or_false]
    exact ⟨Or.inl, fun h => h.resolve_right fun ⟨u, hu, _⟩ => hne u hu⟩

theorem scanEvents_of_getElem? {c : Char} (hc : s.input[s.index]? = some c) :
    m.scanEvents s = (if m.isBreak c then m.boundaryEvents c s else []) ++
      match m.step c s with
      | .error _ => []
      | .ok t => m.scanEvents t := by
  obtain ⟨h, rfl⟩ := Array.getElem?_eq_some_iff.1 hc
  rw [scanEvents, dif_pos h]
  dsimp only
  generalize (if m.isBreak s.input[s.index] then m.boundaryEvents s.input[s.index] s else []) = here
  split
  next he => rw [he, List.append_nil]
  next ht => rw [ht]

theorem scanEvents_of_size_le (h : s.input.size ≤ s.index) : m.scanEvents s = [] := by
  rw [scanEvents, dif_neg (Nat.not_lt.2 h)]

/-- A scan notes what happens from each of its states on. -/
theorem mem_scanEvents_of_scanReaches (h : m.ScanReaches input s) (he : e ∈ m.scanEvents s) :
    e ∈ m.scanEvents (Scan.start input m.definitions) := by
  induction h with
  | start => exact he
  | step _ hc hstep ih =>
    refine ih ?_
    rw [scanEvents_of_getElem? hc, hstep]
    exact List.mem_append_right _ he

theorem ScanReaches.happens {c : Char} (hs : m.ScanReaches input s) (hc : s.input[s.index]? = some c)
    (he : e ∈ if m.isBreak c then m.boundaryEvents c s else []) : m.Happens input e := by
  split at he
  next hbreak =>
    rcases mem_boundaryEvents_iff.1 he with he | ⟨u, hu, he⟩
    · exact TriesIfRules.happens (.first hs hc hbreak) he
    · exact TriesIfRules.happens (.second hs hc hbreak hu) he
  next => simp at he

theorem happens_of_mem_scanEvents (hs : m.ScanReaches input s) (he : e ∈ m.scanEvents s) :
    m.Happens input e := by
  fun_induction m.scanFrom s with
  | case1 s hlt _ herror =>
    have hc := Array.getElem?_eq_getElem hlt
    rw [scanEvents_of_getElem? hc, herror, List.append_nil] at he
    exact hs.happens hc he
  | case2 s hlt t ht ih =>
    have hc := Array.getElem?_eq_getElem hlt
    rw [scanEvents_of_getElem? hc, ht] at he
    rcases List.mem_append.1 he with he | he
    · exact hs.happens hc he
    · exact ih (.step hs hc ht) he
  | case3 s hle =>
    rw [scanEvents_of_size_le (Nat.le_of_not_lt hle)] at he
    simp at he

theorem TriesIfRules.mem_scanEvents (h : m.TriesIfRules input s)
    (he : e ∈ chainEvents m.ifRules s) : e ∈ m.scanEvents (Scan.start input m.definitions) := by
  cases h with
  | first hs hc hbreak =>
    refine mem_scanEvents_of_scanReaches hs ?_
    rw [scanEvents_of_getElem? hc, if_pos hbreak]
    exact List.mem_append_left _ (mem_boundaryEvents_iff.2 (Or.inl he))
  | second hs hc hbreak hu =>
    refine mem_scanEvents_of_scanReaches hs ?_
    rw [scanEvents_of_getElem? hc, if_pos hbreak]
    exact List.mem_append_left _ (mem_boundaryEvents_iff.2 (Or.inr ⟨_, hu, he⟩))

/-! ### The events of the pass -/

theorem mem_letStepEvents_iff : e ∈ m.letStepEvents s ↔
    e ∈ searchEvents s m.letRules ∨ ∃ r t, m.RunsOn s r t ∧ e ∈ r.events t := by
  rw [letStepEvents, List.mem_append]
  refine or_congr_right ?_
  cases hr : findMatch m.letRules s with
  | none =>
    simp only [List.not_mem_nil, false_iff]
    rintro ⟨r, t, hrun, _⟩
    cases hrun with
    | token hr' | group hr' => simp [hr] at hr'
  | some r =>
    constructor
    · intro he
      cases hkind : r.kind with
      | ifThen => simp [hkind] at he
      | letRule kind =>
        cases kind with
        | beGroup => exact ⟨r, _, .group hr hkind, by simpa [hkind] using he⟩
        | _ => exact ⟨r, s, .token hr hkind (by simp), by simpa [hkind] using he⟩
    · rintro ⟨r', t, hrun, he⟩
      cases hrun with
      | @token kind hr' hkind hne =>
        obtain rfl := Option.some.inj (hr.symm.trans hr')
        cases kind with
        | beGroup => exact absurd rfl hne
        | _ => simpa [hkind] using he
      | group hr' hkind =>
        obtain rfl := Option.some.inj (hr.symm.trans hr')
        simpa [hkind] using he

theorem letEvents_cons {passed : Nat} {token : Token} {tokens : List Token} :
    m.letEvents passed s (token :: tokens) =
      m.letStepEvents { s with index := passed + token.text.length - 1, token := token } ++
        match m.letStep { s with index := passed + token.text.length - 1, token := token } with
        | .error _ => []
        | .ok t => m.letEvents (passed + token.text.length) t tokens := rfl

theorem TriesLetRules.happens (h : m.TriesLetRules input s) (he : e ∈ m.letStepEvents s) :
    m.Happens input e := by
  rcases mem_letStepEvents_iff.1 he with he | ⟨r, t, hrun, he⟩
  · exact Searches.happens (.letRules h) he
  · exact (hrun.runs h).happens he

theorem happens_of_mem_letEvents {tokens : List Token} : ∀ {passed : Nat} {s : Scan},
    m.PassReaches input passed s tokens → e ∈ m.letEvents passed s tokens → m.Happens input e := by
  induction tokens with
  | nil =>
    intro passed s _ he
    simp [letEvents] at he
  | cons token tokens ih =>
    intro passed s hs he
    rw [letEvents_cons] at he
    rcases List.mem_append.1 he with he | he
    · exact TriesLetRules.happens (.intro hs) he
    · cases hstep : m.letStep { s with index := passed + token.text.length - 1, token := token } with
      | error => simp [hstep] at he
      | ok t =>
        rw [hstep] at he
        exact ih (.step hs hstep) he

/-- A call notes what happens from each state of its pass on. -/
theorem mem_events_of_passReaches {passed : Nat} {tokens : List Token}
    (h : m.PassReaches input passed s tokens) (he : e ∈ m.letEvents passed s tokens) :
    e ∈ m.events input := by
  induction h with
  | start hscan hrules =>
    rw [events, hscan]
    refine List.mem_append_right _ ?_
    rw [hrules]
    exact he
  | step _ hstep ih =>
    refine ih ?_
    rw [letEvents_cons, hstep]
    exact List.mem_append_right _ he

/-! ### The events of a call -/

theorem TriesIfRules.mem_events (h : m.TriesIfRules input s) (he : e ∈ chainEvents m.ifRules s) :
    e ∈ m.events input :=
  List.mem_append_left _ (h.mem_scanEvents he)

theorem TriesLetRules.mem_events (h : m.TriesLetRules input s) (he : e ∈ m.letStepEvents s) :
    e ∈ m.events input := by
  obtain ⟨hs⟩ := h
  refine mem_events_of_passReaches hs ?_
  rw [letEvents_cons]
  exact List.mem_append_left _ he

theorem Runs.mem_events {r : Rule} (h : m.Runs input r s) (he : e ∈ r.events s) :
    e ∈ m.events input := by
  cases h with
  | ifRule hs hr => exact hs.mem_events (mem_chainEvents_iff.2 (Or.inr ⟨r, hr, he⟩))
  | letRule hs hr hkind hne =>
    exact hs.mem_events (mem_letStepEvents_iff.2 (Or.inr ⟨r, _, .token hr hkind hne, he⟩))
  | group hs hr hkind =>
    exact hs.mem_events (mem_letStepEvents_iff.2 (Or.inr ⟨r, _, .group hr hkind, he⟩))

/-- **The journal has what happens at the moments of a call**, and nothing else. -/
theorem mem_events_iff : e ∈ m.events input ↔ m.Happens input e := by
  constructor
  · intro he
    rcases List.mem_append.1 he with he | he
    · exact happens_of_mem_scanEvents .start he
    · cases hscan : m.scan input with
      | error => simp [hscan] at he
      | ok s =>
        rw [hscan] at he
        cases hrules : m.letRules.isEmpty with
        | true => simp [hrules] at he
        | false =>
          simp only [hrules, Bool.false_eq_true, if_false] at he
          exact happens_of_mem_letEvents (.start hscan hrules) he
  · intro he
    cases he with
    | asked hs hasks =>
      have hsearch := mem_searchEvents_iff.2 ⟨_, hasks, rfl⟩
      cases hs with
      | ifRules hs => exact hs.mem_events (mem_chainEvents_iff.2 (Or.inl hsearch))
      | letRules hs => exact hs.mem_events (mem_letStepEvents_iff.2 (Or.inl hsearch))
    | matched hr => exact hr.mem_events List.mem_cons_self
    | called hperforms =>
      obtain ⟨hr, hsteps, hbefore⟩ := hperforms
      exact hr.mem_events (mem_events_of_performs hsteps hbefore)

end Scanner

end RuleLexer
