import RuleLexer.Proofs.Invariant
import RuleLexer.Proofs.Rule.Join
import RuleLexer.Proofs.Rule.Source
import RuleLexer.Proofs.Scan.Stream

/-!
# Compiled rules are well formed

What the scan and the pass over the tokens rely on without looking, `Scanner.IsWellFormed`: counts
of `skip` are positive, `join` takes what the test looks back at, operands look at tokens and
characters that their rule counts, names of definitions are defined, and let-rules leave the flow
alone.

`wellFormed_scanner` says that **every scanner that a specification is compiled to is well formed**,
and what follows for each moment of each call.  The first half goes through the readers of tests and
actions; the second half is the invariant that no definition disappears (`Scan.HasNamesOf`).
-/

namespace RuleLexer

/-- A step that the action of a rule of a kind may have: only if-rules decide the flow, and they
skip one character at least. -/
def Step.IsAllowedIn (kind : RuleKind) : Step → Prop
  | fold | skipToken => kind = .ifThen
  | skip count => kind = .ifThen ∧ 1 ≤ count
  | _ => True

structure Rule.IsWellFormed (definitions : Definitions) (r : Rule) : Prop where
  skip : ∀ count, .skip count ∈ r.steps → 1 ≤ count
  join : ∀ count, .join count ∈ r.steps → count = r.lookBack
  behind : ∀ distance matcher, .test (.behind distance) matcher ∈ r.predicate.leaves →
    1 ≤ distance ∧ distance ≤ r.lookBack
  ahead : ∀ offset matcher, .test (.ahead offset) matcher ∈ r.predicate.leaves → 1 ≤ offset
  definition : ∀ name, .definition name ∈ r.predicate.leaves →
    ∃ value, definitions.get? name = some value

structure Scanner.IsWellFormed (m : Scanner) : Prop where
  rule : ∀ r ∈ m.rules, r.IsWellFormed m.definitions
  ifRule : ∀ r ∈ m.ifRules, r.kind = .ifThen
  letRule : ∀ r ∈ m.letRules, ∃ kind, r.kind = .letRule kind
  flow : ∀ r ∈ m.letRules, ∀ step ∈ r.steps,
    step ≠ .fold ∧ step ≠ .skipToken ∧ ∀ count, step ≠ .skip count
  throw : ∀ r ∈ m.letRules, r.kind = .letRule .throw → ∃ message, r.steps = [.throw message]

/-! ### Tests -/

namespace Test

variable {scope : Scope} {ts : List Clause.Token} {t : Clause.Token} {test : Test} {p : Predicate}

/-- Distances count down to 1. -/
theorem behind_of_mem_targets {ahead : Nat} {ps : List (Clause.Token × Option Place)}
    {distance : Nat} (h : (t, .behind distance) ∈ targets ahead ps) :
    1 ≤ distance ∧ distance ≤ countBehind ps := by
  fun_induction targets ahead ps with
  | case1 => simp at h
  | case3 ahead u ps ih =>
    have hcount : countBehind ((u, some .behind) :: ps) = countBehind ps + 1 := by
      simp [countBehind]
    rcases List.mem_cons.1 h with h | h
    · obtain ⟨-, hdistance⟩ := Prod.mk.inj h
      have := Target.behind.inj hdistance
      omega
    · have := ih h
      omega
  | case2 ahead u ps ih | case4 ahead u ps ih | case5 ahead u ps ih | case6 ahead u ps ih =>
    have hrest : (t, .behind distance) ∈ targets _ ps := (List.mem_cons.1 h).resolve_left (by simp)
    simpa [countBehind] using ih hrest

/-- Offsets count up from 1. -/
theorem ahead_of_mem_targets {ahead : Nat} {ps : List (Clause.Token × Option Place)}
    {offset : Nat} (h : (t, .ahead offset) ∈ targets ahead ps) :
    ahead + 1 ≤ offset ∧ offset ≤ ahead + ps.countP (·.2 == some .ahead) := by
  fun_induction targets ahead ps with
  | case1 => simp at h
  | case2 ahead u ps ih =>
    have hcount : ((u, some .ahead) :: ps).countP (·.2 == some .ahead) =
        ps.countP (·.2 == some .ahead) + 1 := by simp
    rcases List.mem_cons.1 h with h | h
    · obtain ⟨-, hoffset⟩ := Prod.mk.inj h
      have := Target.ahead.inj hoffset
      omega
    · have := ih h
      omega
  | case3 ahead u ps ih | case4 ahead u ps ih | case5 ahead u ps ih | case6 ahead u ps ih =>
    have hrest : (t, .ahead offset) ∈ targets _ ps := (List.mem_cons.1 h).resolve_left (by simp)
    simpa using ih hrest

/-- A leaf of a test is one of its operands, which may stand in a test. -/
theorem exists_operand_of_mem_leaves [Regex.Engine] (h : ofTokens scope ts = .ok test)
    (hp : test.predicate = some p) {leaf : Predicate} (hleaf : leaf ∈ p.leaves) :
    ∃ e ∈ targets 0 (places none ts),
      isBound scope e.1 = true ∧ IsReadable scope e.1 ∧ IsLeaf scope e.1 e.2 leaf := by
  obtain ⟨_, is, _, his, _, _⟩ := ofTokens_eq_ok.1 h
  have hread := (items_ok_iff scope _).1 ⟨is, his⟩
  have hoperands : operands scope ts =
      (targets 0 (places none ts)).filter fun e => isBound scope e.1 := by
    rw [targets_eq_map_zipIdx, List.filter_map]
    rfl
  have hleaves := forall₂_leaves_ofTokens h
  simp only [hp, Option.toList_some, List.flatMap_singleton, hoperands] at hleaves
  obtain ⟨i, hi, rfl⟩ := List.mem_iff_getElem.1 hleaf
  have hlength := hleaves.length_eq
  have hmem := List.mem_filter.1 (List.getElem_mem (hlength ▸ hi))
  exact ⟨_, hmem.1, hmem.2, hread _ hmem.1, hleaves.get (hlength ▸ hi) hi⟩

/-- What an operand looks at is what its place was counted as. -/
theorem exists_mem_targets_of_mem_leaves [Regex.Engine] (h : ofTokens scope ts = .ok test)
    (hp : test.predicate = some p) {target : Target} {matcher : Matcher}
    (hleaf : .test target matcher ∈ p.leaves) : ∃ t, (t, target) ∈ targets 0 (places none ts) := by
  obtain ⟨⟨t, target'⟩, hmem, _, _, hoperand⟩ := exists_operand_of_mem_leaves h hp hleaf
  cases hoperand with
  | literal => exact ⟨t, hmem⟩

/-- A definition is tested only under a name that the scope knows. -/
theorem isDefinition_of_mem_leaves [Regex.Engine] (h : ofTokens scope ts = .ok test)
    (hp : test.predicate = some p) {name : String} (hleaf : .definition name ∈ p.leaves) :
    scope.isDefinition name = true := by
  obtain ⟨⟨t, target⟩, _, hbound, hread, hoperand⟩ := exists_operand_of_mem_leaves h hp hleaf
  cases hoperand with
  | named hkind hnone =>
    have hknown := hread.2.2.2 hkind
    simpa [hnone] using hknown
  | word hword =>
    rw [isBound, Bool.or_eq_true, Bool.and_eq_true] at hbound
    refine (hbound.resolve_left fun hoperand => ?_).2
    cases hkind : t.kind <;> simp [hkind, Clause.Kind.isWord, Clause.Kind.isOperand] at hword hoperand

end Test

/-! ### Actions -/

namespace Action

variable {kind : RuleKind} {lookBack : Nat} {scope : Scope} {ts : List Clause.Token}
  {steps : List Step}

theorem eq_ifThen_of_allowsFlowControl (h : kind.allowsFlowControl = true) : kind = .ifThen := by
  cases kind with
  | ifThen => rfl
  | letRule => exact absurd h Bool.false_ne_true

theorem isAllowedIn_of_isStep {step : Step} (h : IsStep lookBack scope step ts)
    (hallowed : kind.Allows step) : step.IsAllowedIn kind := by
  cases h with
  | fold | skipToken => exact eq_ifThen_of_allowsFlowControl (hallowed rfl)
  | skip _ _ hcount =>
    exact ⟨eq_ifThen_of_allowsFlowControl (hallowed rfl), (count?_eq_some_iff.1 hcount).1.1⟩
  | throw | join | tag | host => trivial

theorem isAllowedIn_of_steps (h : Action.steps kind lookBack scope ts = .ok steps) :
    ∀ step ∈ steps, step.IsAllowedIn kind := by
  obtain ⟨hdenotes, hallowed⟩ := denotes_of_steps h
  exact fun step hstep => hdenotes.forall_mem isAllowedIn_of_isStep step hstep (hallowed step hstep)

/-- The action of a let-rule that throws is its message. -/
theorem exists_eq_throw_of_read {clause : String}
    (h : read (.letRule .throw) lookBack scope clause = .ok steps) :
    ∃ message, steps = [.throw message] := by
  rw [read] at h
  split at h
  next => simp at h
  next ts hts =>
    rw [if_pos rfl] at h
    cases ts with
    | nil =>
      -- there is always the token that marks the end
      obtain ⟨us, hus, _⟩ := Clause.exists_lexes_of_readFrom hts
      simp at hus
    | cons t ts =>
      rw [throwStep] at h
      split at h
      next => exact ⟨t.value, (Except.ok.inj h).symm⟩
      next => simp at h

theorem isAllowedIn_of_read {clause : String} (h : read kind lookBack scope clause = .ok steps) :
    ∀ step ∈ steps, step.IsAllowedIn kind := by
  by_cases hkind : kind = .letRule .throw
  · obtain rfl := hkind
    obtain ⟨message, rfl⟩ := exists_eq_throw_of_read h
    exact List.forall_mem_singleton.2 trivial
  · rw [read] at h
    split at h
    next => simp at h
    next =>
      rw [if_neg hkind] at h
      exact isAllowedIn_of_steps h

end Action

theorem Source.isAllowedIn_of_steps {scope : Scope} {lookBack : Nat} {source : Source}
    {steps : List Step} (h : source.steps scope lookBack = .ok steps) :
    ∀ step ∈ steps, step.IsAllowedIn source.kind := by
  cases source with
  | ifRule rule =>
    obtain ⟨rest, hrest, rfl⟩ := exists_of_map_eq_ok h
    intro step hstep
    rcases List.mem_append.1 hstep with htag | hstep
    · obtain ⟨name, _, rfl⟩ := Option.map_eq_some_iff.1 (Option.mem_toList.1 htag)
      exact trivial
    · exact Action.isAllowedIn_of_read hrest step hstep
  | letRule rule => exact Action.isAllowedIn_of_read h

/-! ### Names of definitions -/

theorem Definitions.isSome_get?_insertAll (d : Definitions) (entries : List (String × Value))
    (name : String) : ((d.insertAll entries).get? name).isSome = true ↔
      (d.get? name).isSome = true ∨ name ∈ entries.map Prod.fst := by
  induction entries generalizing d with
  | nil => simp [insertAll]
  | cons e entries ih =>
    obtain ⟨a, value⟩ := e
    have hstep : d.insertAll ((a, value) :: entries) = (d.insert a value).insertAll entries := rfl
    rw [hstep, ih, get?_insert, List.map_cons, List.mem_cons]
    by_cases hname : name = a
    · simp [hname]
    · simp [hname]

/-- The names that the rules may refer to have values at the start. -/
theorem Specification.exists_get?_values {spec : Specification} {hosts : HostRegistry}
    {name : String} (h : (spec.scope hosts).isDefinition name = true) :
    ∃ value, spec.values.get? name = some value := by
  rw [← Option.isSome_iff_exists, values, Definitions.isSome_get?_insertAll]
  right
  have hnames : spec.definitions.map Definition.name =
      (spec.definitions.map fun e => (e.name, Value.ofExpression e.value)).map Prod.fst := by simp
  rw [← hnames]
  simpa [Scope.isDefinition, Specification.scope, Scope.ofDefinitions] using h

/-! ### Rules -/

/-- A compiled rule is the one of a source. -/
theorem Source.exists_of_compile [Regex.Engine] {scope : Scope} {source : Source} {r : Rule}
    (h : source.compile scope = .ok (some r)) :
    r.kind = source.kind ∧ Test.read scope source.test = .ok ⟨some r.predicate, r.lookBack⟩ ∧
      source.steps scope r.lookBack = .ok r.steps := by
  obtain ⟨test, steps, htest, hsteps, hr⟩ := compile_eq_ok.1 h
  obtain ⟨p, hp, rfl⟩ := Option.map_eq_some_iff.1 hr.symm
  refine ⟨rfl, ?_, hsteps⟩
  rw [htest, ← hp]

/-- The rule is compiled with the test of its source. -/
theorem Source.hasTest_of_compile [Regex.Engine] {scope : Scope} {source : Source} {r : Rule}
    (h : source.compile scope = .ok (some r)) : r.HasTest scope source.test := by
  cases source with
  | ifRule rule => exact Or.inl ⟨rule, rfl, h⟩
  | letRule rule => exact Or.inr ⟨rule, rfl, h⟩

/-- **A compiled rule is well formed** where the names of its scope are defined. -/
theorem Source.isWellFormed_of_compile [Regex.Engine] {scope : Scope} {definitions : Definitions}
    (hscope : ∀ name, scope.isDefinition name = true → ∃ value, definitions.get? name = some value)
    {source : Source} {r : Rule} (h : source.compile scope = .ok (some r)) :
    r.IsWellFormed definitions := by
  obtain ⟨_, htest, hsteps⟩ := exists_of_compile h
  have hallowed := Source.isAllowedIn_of_steps hsteps
  have hread := (hasTest_of_compile h).exists_read.2
  obtain ⟨ts, hts⟩ := Test.exists_hasTokens_of_read htest
  rw [Test.read_eq_ofTokens hts] at htest
  have hcount : r.lookBack = Test.countBehind (Test.places none ts) := by
    obtain ⟨_, _, _, _, _, heq⟩ := Test.ofTokens_eq_ok.1 htest
    exact (congrArg Test.lookBack heq).symm
  refine ⟨fun count hcount => (hallowed _ hcount).2, fun count hcount => ?_, ?_, ?_, ?_⟩
  · cases hread _ hcount
    rfl
  · intro distance matcher hleaf
    obtain ⟨t, ht⟩ := Test.exists_mem_targets_of_mem_leaves htest rfl hleaf
    exact hcount ▸ Test.behind_of_mem_targets ht
  · intro offset matcher hleaf
    obtain ⟨t, ht⟩ := Test.exists_mem_targets_of_mem_leaves htest rfl hleaf
    exact (Nat.le_add_left 1 0).trans (Test.ahead_of_mem_targets ht).1
  · intro name hleaf
    exact hscope name (Test.isDefinition_of_mem_leaves htest rfl hleaf)

namespace Specification

variable {spec : Specification} {hosts : HostRegistry} {m : Scanner}

theorem exists_source_of_mem_ifRules [Regex.Engine] (h : spec.scanner hosts = .ok m) {r : Rule}
    (hr : r ∈ m.ifRules) :
    ∃ rule ∈ spec.ifRules, (Source.ifRule rule).compile (spec.scope hosts) = .ok (some r) := by
  obtain ⟨hif, _⟩ := scanner_eq_ok.1 h
  exact Rule.mem_of_compileAll ((Rule.compileAll_eq_ok _ IfRule.position).2 hif) r hr

theorem exists_source_of_mem_letRules [Regex.Engine] (h : spec.scanner hosts = .ok m) {r : Rule}
    (hr : r ∈ m.letRules) :
    ∃ rule ∈ spec.letRules, (Source.letRule rule).compile (spec.scope hosts) = .ok (some r) := by
  obtain ⟨_, hlet, _⟩ := scanner_eq_ok.1 h
  exact Rule.mem_of_compileAll ((Rule.compileAll_eq_ok _ LetRule.position).2 hlet) r hr

theorem exists_source_of_mem_rules [Regex.Engine] (h : spec.scanner hosts = .ok m) {r : Rule}
    (hr : r ∈ m.rules) : ∃ source : Source, source.compile (spec.scope hosts) = .ok (some r) := by
  rcases List.mem_append.1 hr with hr | hr
  · obtain ⟨rule, _, hrule⟩ := exists_source_of_mem_ifRules h hr
    exact ⟨_, hrule⟩
  · obtain ⟨rule, _, hrule⟩ := exists_source_of_mem_letRules h hr
    exact ⟨_, hrule⟩

theorem isWellFormed_scanner [Regex.Engine] (h : spec.scanner hosts = .ok m) : m.IsWellFormed := by
  have hscope : ∀ name, (spec.scope hosts).isDefinition name = true →
      ∃ value, m.definitions.get? name = some value := fun name hname => by
    rw [(scanner_eq_ok.1 h).2.2.2]
    exact exists_get?_values hname
  refine ⟨fun r hr => ?_, fun r hr => ?_, fun r hr => ?_, fun r hr => ?_, fun r hr hthrow => ?_⟩
  · obtain ⟨source, hsource⟩ := exists_source_of_mem_rules h hr
    exact Source.isWellFormed_of_compile hscope hsource
  · obtain ⟨rule, _, hrule⟩ := exists_source_of_mem_ifRules h hr
    exact (Source.exists_of_compile hrule).1
  · obtain ⟨rule, _, hrule⟩ := exists_source_of_mem_letRules h hr
    exact ⟨rule.kind, (Source.exists_of_compile hrule).1⟩
  · obtain ⟨rule, _, hrule⟩ := exists_source_of_mem_letRules h hr
    have hallowed := Source.isAllowedIn_of_steps (Source.exists_of_compile hrule).2.2
    have hnot : (Source.letRule rule).kind ≠ .ifThen := RuleKind.noConfusion
    intro step hstep
    refine ⟨?_, ?_, ?_⟩
    · rintro rfl
      exact hnot (hallowed _ hstep)
    · rintro rfl
      exact hnot (hallowed _ hstep)
    · rintro count rfl
      exact hnot (hallowed _ hstep).1
  · obtain ⟨rule, _, hrule⟩ := exists_source_of_mem_letRules h hr
    obtain ⟨hkind, _, hsteps⟩ := Source.exists_of_compile hrule
    have hthrow' : rule.kind = .throw := RuleKind.letRule.inj (hkind.symm.trans hthrow)
    rw [Source.steps, hthrow'] at hsteps
    exact Action.exists_eq_throw_of_read hsteps

end Specification

/-! ### Runs -/

/-- Every name that has a value in `d` has one in the state. -/
def Scan.HasNamesOf (d : Definitions) (s : Scan) : Prop :=
  ∀ name, (d.get? name).isSome = true → (s.definitions.get? name).isSome = true

section

variable {m : Scanner} {d : Definitions} {s t : Scan}

/-- Steps set definitions, but remove none. -/
theorem hasNamesOf_apply (step : Step) (hs : s.HasNamesOf d) : (step.apply s).HasNamesOf d := by
  cases step with
  | host h =>
    intro name hname
    exact (Definitions.isSome_get?_insertAll _ _ _).2 (Or.inl (hs name hname))
  | _ => exact hs

theorem maintains_hasNamesOf (m : Scanner) (d : Definitions) : m.Maintains (·.HasNamesOf d) where
  of_eq hs _ _ hd name hname := by
    rw [hd]
    exact hs name hname
  apply _ _ hs := hasNamesOf_apply _ hs
  flush hs := hs
  join hs := hs
  expand hs := hs
  letStart hs := hs

variable {input : String}

theorem hasNamesOf_triesIfRules (h : m.TriesIfRules input s) : s.HasNamesOf m.definitions :=
  (maintains_hasNamesOf m m.definitions).triesIfRules (fun _ hname => hname) h

theorem hasNamesOf_triesLetRules (h : m.TriesLetRules input s) : s.HasNamesOf m.definitions :=
  (maintains_hasNamesOf m m.definitions).triesLetRules (fun _ hname => hname) h

/-- A rule without steps that decide the flow leaves it as it is. -/
theorem flow_eq_proceed_of_run {r : Rule} {flow : Flow}
    (hsteps : ∀ step ∈ r.steps, step ≠ .fold ∧ step ≠ .skipToken ∧ ∀ count, step ≠ .skip count)
    (h : r.run s = (t, .ok flow)) : flow = .proceed := by
  rcases flow_of_runSteps h with rfl | ⟨step, hmem, hflow⟩
  · rfl
  · cases step with
    | fold => exact absurd rfl (hsteps _ hmem).1
    | skip count => exact absurd rfl ((hsteps _ hmem).2.2 count)
    | _ => simp [Step.flow?] at hflow

theorem Scanner.Performs.mem_rules {r : Rule} {step : Step} (h : m.Performs input r step s) :
    r ∈ m.rules := by
  obtain ⟨hruns, _, _⟩ := h
  cases hruns with
  | ifRule _ hr => exact List.mem_append_left _ (mem_of_findMatch hr)
  | letRule _ hr | group _ hr => exact List.mem_append_right _ (mem_of_findMatch hr)

/-- A let-rule that throws ends the call where it matches. -/
theorem tokenize_error_of_throw {r : Rule} {message : String} (h : m.TriesLetRules input s)
    (hr : findMatch m.letRules s = some r) (hkind : r.kind = .letRule .throw)
    (hsteps : r.steps = [.throw message]) : m.tokenize input = .error (s.thrown message) := by
  obtain ⟨hpass⟩ := h
  refine Scanner.tokenize_error_of_letStep hpass ?_
  rw [Scanner.letStep, hr]
  simp only [hkind, Scanner.runPlain, Rule.run, hsteps, runSteps, Step.error?]
  rfl

end

/-- **Every scanner that a specification is compiled to is well formed.**  Hence in every call no
count of `skip` is zero, the definitions that rules test have values, let-rules fail or proceed, and
a call fails where a let-rule that throws is the first to match. -/
theorem wellFormed_scanner [Regex.Engine] (spec : Specification) (hosts : HostRegistry)
    (m : Scanner) (h : spec.scanner hosts = .ok m) :
    m.IsWellFormed ∧
      (∀ r ∈ m.letRules, ∀ s,
        (∃ t e, r.run s = (t, .error e)) ∨ ∃ t, r.run s = (t, .ok .proceed)) ∧
      ∀ input : String,
      (∀ r count s, m.Performs input r (.skip count) s →
        ((Step.skip count).apply s).skip + 1 = count) ∧
      (∀ s, m.TriesIfRules input s → ∀ r ∈ m.ifRules, ∀ name,
        .definition name ∈ r.predicate.leaves → ∃ value, s.definitions.get? name = some value) ∧
      (∀ s, m.TriesLetRules input s → ∀ r ∈ m.letRules, ∀ name,
        .definition name ∈ r.predicate.leaves → ∃ value, s.definitions.get? name = some value) ∧
      (∀ s r, m.TriesLetRules input s → findMatch m.letRules s = some r →
        r.kind = .letRule .throw → ∃ message, r.steps = [.throw message] ∧
          m.tokenize input = .error (s.thrown message)) := by
  have hm := Specification.isWellFormed_scanner h
  have hdefined : ∀ r ∈ m.rules, ∀ s : Scan, s.HasNamesOf m.definitions → ∀ name,
      .definition name ∈ r.predicate.leaves → ∃ value, s.definitions.get? name = some value := by
    intro r hr s hs name hleaf
    obtain ⟨value, hvalue⟩ := (hm.rule r hr).definition name hleaf
    exact Option.isSome_iff_exists.1 (hs name (Option.isSome_iff_exists.2 ⟨value, hvalue⟩))
  refine ⟨hm, fun r hr s => ?_, fun input => ⟨?_, ?_, ?_, ?_⟩⟩
  · rcases hrun : r.run s with ⟨t, e | flow⟩
    · exact Or.inl ⟨t, e, rfl⟩
    · exact Or.inr ⟨t, by rw [flow_eq_proceed_of_run (hm.flow r hr) hrun]⟩
  · intro r count s hs
    have hpos : 1 ≤ count := (hm.rule r hs.mem_rules).skip count hs.mem_steps
    exact Nat.sub_add_cancel hpos
  · intro s hs r hr
    exact hdefined r (List.mem_append_left _ hr) s (hasNamesOf_triesIfRules hs)
  · intro s hs r hr
    exact hdefined r (List.mem_append_right _ hr) s (hasNamesOf_triesLetRules hs)
  · intro s r hs hr hkind
    obtain ⟨message, hsteps⟩ := hm.throw r (mem_of_findMatch hr) hkind
    exact ⟨message, hsteps, tokenize_error_of_throw hs hr hkind hsteps⟩

/-- Cuts a colon between an `a` and a `b` out, with the `b`, if `on` is defined; forbids question
marks. -/
def sampleRules : Specification where
  ifRules := [⟨"'a' <- ':' -> 'b' on", "#cut join skip 2", ⟨0, "sample"⟩⟩]
  letRules := [⟨"'?'", .throw, "'no'", ⟨40, "sample"⟩⟩]
  definitions := [⟨"on", some "yes"⟩]

def sampleRulesScanner : Scanner where
  isBreak := Pattern.defaultBreak.matchesChar
  ifRules := [{
    kind := .ifThen
    predicate := .and (.and (.and (.test (.behind 1) (.text "a")) (.test .token (.text ":")))
      (.test (.ahead 1) (.text "b"))) (.definition "on")
    lookBack := 1
    steps := [.tag "cut", .join 1, .skip 2]
    position := ⟨0, "sample"⟩ }]
  letRules := [⟨.letRule .throw, .test .token (.text "?"), 0, [.throw "no"], ⟨40, "sample"⟩⟩]
  definitions := sampleRules.values

theorem wellFormed_scanner_sampleRules : sampleRules.scanner {} = .ok sampleRulesScanner ∧
    sampleRulesScanner.IsWellFormed ∧
    sampleRulesScanner.tokenize "?" = .error ⟨.thrown "no", ⟨0, Scan.inputFile⟩⟩ := by
  have h : sampleRules.scanner {} = .ok sampleRulesScanner :=
    Specification.scanner_eq_ok.2 ⟨⟨[some _], .cons (by cbv) .nil, rfl⟩,
      ⟨[some _], .cons (by cbv) .nil, rfl⟩, rfl, rfl⟩
  obtain ⟨hm, _, hcalls⟩ := wellFormed_scanner sampleRules {} sampleRulesScanner h
  have hscan : sampleRulesScanner.scan "?" =
      .ok { input := #['?'], index := 1, emitted := [⟨"?", .empty⟩],
            definitions := sampleRules.values } := by
    cbv
  obtain ⟨message, hsteps, herror⟩ := (hcalls "?").2.2.2 _ _ (.intro (.start hscan rfl)) rfl rfl
  obtain rfl : "no" = message := by simpa using hsteps
  exact ⟨h, hm, herror⟩

end RuleLexer
