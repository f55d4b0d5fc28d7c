import Mathlib.Data.List.Forall2
import Mathlib.Data.List.ReduceOption
import RuleLexer.Scanner

/-!
# The rules of a specification

If-rules and let-rules are compiled the same way: the test, then the action with the look-back count
of the test, and there is no rule if the test is empty.  A `Source` is a rule of either form as it
was written, and `Source.compile_eq` says this of both.

* `Specification.scanner_eq_ok`: a specification is compiled to the rules of its sources;
* `Specification.scanner_eq_error`: **the first source that cannot be compiled ends it**, where the
  if-rules come before the let-rules.
-/

namespace RuleLexer

/-- A rule of a specification as it was written. -/
inductive Source where
  | ifRule (rule : IfRule)
  | letRule (rule : LetRule)

namespace Source

def test : Source → String
  | ifRule rule => rule.test
  | letRule rule => rule.test

def kind : Source → RuleKind
  | ifRule _ => .ifThen
  | letRule rule => .letRule rule.kind

def position : Source → Position
  | ifRule rule => rule.position
  | letRule rule => rule.position

/-- The steps of the action, where the test looks back at `lookBack` tokens. -/
def steps (scope : Scope) (lookBack : Nat) : Source → Except Fault (List Step)
  | ifRule rule =>
    let (tag, action) := Rule.splitLeadingTag rule.action.toList
    (Action.read .ifThen lookBack scope (String.ofList action)).map fun steps =>
      (tag.map fun name => Step.tag (String.ofList name)).toList ++ steps
  | letRule rule => Action.read (.letRule rule.kind) lookBack scope rule.action

def compile [Regex.Engine] (scope : Scope) : Source → Except Fault (Option Rule)
  | ifRule rule => Rule.ofIfRule scope rule
  | letRule rule => Rule.ofLetRule scope rule

variable {scope : Scope} {source : Source} {fault : Fault}

/-- **A rule is its test with the steps of its action.** -/
theorem compile_eq [Regex.Engine] (scope : Scope) (source : Source) :
    source.compile scope = (Test.read scope source.test).bind fun test =>
      (source.steps scope test.lookBack).map fun steps =>
        test.predicate.map fun p =>
          ⟨source.kind, p, test.lookBack, steps, source.position⟩ := by
  cases source with
  | ifRule rule =>
    rw [compile, Rule.ofIfRule]
    cases htest : Test.read scope rule.test with
    | error fault =>
      rw [test, htest]
      rfl
    | ok t =>
      simp only [test, htest, steps, Except.bind]
      cases Action.read .ifThen t.lookBack scope
        (String.ofList (Rule.splitLeadingTag rule.action.toList).2) <;> rfl
  | letRule rule =>
    rw [compile, Rule.ofLetRule]
    cases htest : Test.read scope rule.test with
    | error fault =>
      rw [test, htest]
      rfl
    | ok t =>
      simp only [test, htest, steps, Except.bind]
      cases Action.read (.letRule rule.kind) t.lookBack scope rule.action <;> rfl

theorem compile_eq_ok [Regex.Engine] {outcome : Option Rule} : source.compile scope = .ok outcome ↔
    ∃ test steps, Test.read scope source.test = .ok test ∧
      source.steps scope test.lookBack = .ok steps ∧
      outcome = test.predicate.map fun p =>
        ⟨source.kind, p, test.lookBack, steps, source.position⟩ := by
  rw [compile_eq]
  cases Test.read scope source.test with
  | error fault => simp [Except.bind]
  | ok test =>
    cases hsteps : source.steps scope test.lookBack <;>
      simp [Except.bind, Except.map, hsteps, eq_comm]

theorem compile_eq_error [Regex.Engine] : source.compile scope = .error fault ↔
    Test.read scope source.test = .error fault ∨
      ∃ test, Test.read scope source.test = .ok test ∧
        source.steps scope test.lookBack = .error fault := by
  rw [compile_eq]
  cases Test.read scope source.test with
  | error fault => simp [Except.bind]
  | ok test =>
    cases hsteps : source.steps scope test.lookBack <;> simp [Except.bind, Except.map, hsteps]

end Source

/-! ### One rule after the other -/

namespace Rule

variable {α β : Type} (compile : α → Except Fault (Option Rule)) (position : α → Position)
  {sources : List α} {rules : List Rule} {e : Error}

theorem compileAll_append (before after : List α) :
    compileAll compile position (before ++ after) = (compileAll compile position before).bind
      fun rules => (compileAll compile position after).map (rules ++ ·) := by
  induction before with
  | nil =>
    rw [List.nil_append, compileAll]
    cases compileAll compile position after <;> rfl
  | cons source before ih =>
    rw [List.cons_append, compileAll, compileAll]
    cases compile source with
    | error fault => rfl
    | ok rule =>
      simp only [ih]
      cases compileAll compile position before with
      | error e => rfl
      | ok rules => cases compileAll compile position after <;> simp [Except.bind, Except.map]

theorem compileAll_map (f : β → α) (sources : List β) :
    compileAll compile position (sources.map f) =
      compileAll (fun source => compile (f source)) (fun source => position (f source)) sources := by
  induction sources with
  | nil => rfl
  | cons source sources ih => rw [List.map_cons, compileAll, compileAll, ih]

theorem compileAll_eq_ok : compileAll compile position sources = .ok rules ↔
    ∃ outcomes, List.Forall₂ (fun source outcome => compile source = .ok outcome)
      sources outcomes ∧ rules = outcomes.reduceOption := by
  induction sources generalizing rules with
  | nil => simp [compileAll, eq_comm]
  | cons source sources ih =>
    rw [compileAll]
    cases hsource : compile source with
    | error fault =>
      constructor
      · intro h
        simp at h
      · rintro ⟨outcomes, hall, -⟩
        cases hall with
        | cons hfirst _ => exact absurd (hsource.symm.trans hfirst) (by simp)
    | ok rule =>
      have hcons : ∀ outcomes : List (Option Rule),
          (rule :: outcomes).reduceOption = rule.toList ++ outcomes.reduceOption := by
        intro outcomes
        cases rule <;> simp
      constructor
      · intro h
        cases hrest : compileAll compile position sources with
        | error e => simp [hrest, Except.map] at h
        | ok rest =>
          rw [hrest] at h
          obtain rfl := Except.ok.inj h
          obtain ⟨outcomes, hall, rfl⟩ := ih.1 hrest
          exact ⟨rule :: outcomes, .cons hsource hall, (hcons outcomes).symm⟩
      · rintro ⟨outcomes, hall, rfl⟩
        cases hall with
        | cons hfirst hall =>
          obtain rfl := Except.ok.inj (hsource.symm.trans hfirst)
          rw [ih.2 ⟨_, hall, rfl⟩, hcons]
          rfl

/-- **The first rule that cannot be compiled ends it**, with its fault and at its position. -/
theorem compileAll_eq_error : compileAll compile position sources = .error e ↔
    ∃ before source after, sources = before ++ source :: after ∧
      (∀ earlier ∈ before, ∃ outcome, compile earlier = .ok outcome) ∧
      compile source = .error e.fault ∧ e.position = position source := by
  induction sources with
  | nil => simp [compileAll]
  | cons first sources ih =>
    rw [compileAll]
    cases hfirst : compile first with
    | error fault =>
      constructor
      · intro h
        obtain rfl := Except.error.inj h
        exact ⟨[], first, sources, rfl, by simp, hfirst, rfl⟩
      · rintro ⟨before, source, after, hsplit, hbefore, hsource, hposition⟩
        cases before with
        | nil =>
          obtain ⟨rfl, -⟩ := List.cons_eq_cons.1 hsplit
          obtain rfl := Except.error.inj (hfirst.symm.trans hsource)
          rw [← hposition]
        | cons earlier before =>
          obtain ⟨rfl, -⟩ := List.cons_eq_cons.1 hsplit
          obtain ⟨outcome, houtcome⟩ := hbefore first List.mem_cons_self
          exact absurd (hfirst.symm.trans houtcome) (by simp)
    | ok rule =>
      have hrest : (compileAll compile position sources).map (rule.toList ++ ·) = .error e ↔
          compileAll compile position sources = .error e := by
        cases compileAll compile position sources <;> simp [Except.map]
      rw [hrest, ih]
      constructor
      · rintro ⟨before, source, after, rfl, hbefore, hsource⟩
        refine ⟨first :: before, source, after, rfl, ?_, hsource⟩
        exact List.forall_mem_cons.2 ⟨⟨rule, hfirst⟩, hbefore⟩
      · rintro ⟨before, source, after, hsplit, hbefore, hsource⟩
        cases before with
        | nil =>
          obtain ⟨rfl, -⟩ := List.cons_eq_cons.1 hsplit
          exact absurd (hfirst.symm.trans hsource.1) (by simp)
        | cons earlier before =>
          obtain ⟨rfl, rfl⟩ := List.cons_eq_cons.1 hsplit
          exact ⟨before, source, after, rfl, (List.forall_mem_cons.1 hbefore).2, hsource⟩

end Rule

/-! ### Specifications -/

namespace Specification

variable {spec : Specification} {hosts : HostRegistry} {m : Scanner} {e : Error}

/-- The rules in the order in which they are compiled. -/
def sources (spec : Specification) : List Source :=
  spec.ifRules.map .ifRule ++ spec.letRules.map .letRule

/-- The names that the rules may refer to. -/
def scope (spec : Specification) (hosts : HostRegistry) : Scope :=
  Scope.ofDefinitions spec.definitions hosts

theorem scanner_eq [Regex.Engine] (spec : Specification) (hosts : HostRegistry) :
    spec.scanner hosts =
    (Rule.compileAll (Rule.ofIfRule (spec.scope hosts)) IfRule.position spec.ifRules).bind
      fun ifRules =>
        (Rule.compileAll (Rule.ofLetRule (spec.scope hosts)) LetRule.position spec.letRules).map
          fun letRules => ⟨spec.breakPattern.matchesChar, ifRules, letRules, spec.values⟩ := by
  rw [scanner, compile, ← scope]
  cases Rule.compileAll (Rule.ofIfRule (spec.scope hosts)) IfRule.position spec.ifRules with
  | error e => rfl
  | ok ifRules =>
    cases Rule.compileAll (Rule.ofLetRule (spec.scope hosts)) LetRule.position spec.letRules <;>
      rfl

theorem scanner_eq_ok [Regex.Engine] : spec.scanner hosts = .ok m ↔
    (∃ outcomes, List.Forall₂
      (fun rule outcome => Rule.ofIfRule (spec.scope hosts) rule = .ok outcome)
      spec.ifRules outcomes ∧ m.ifRules = outcomes.reduceOption) ∧
    (∃ outcomes, List.Forall₂
      (fun rule outcome => Rule.ofLetRule (spec.scope hosts) rule = .ok outcome)
      spec.letRules outcomes ∧ m.letRules = outcomes.reduceOption) ∧
    m.isBreak = spec.breakPattern.matchesChar ∧ m.definitions = spec.values := by
  rw [← Rule.compileAll_eq_ok _ IfRule.position,
    ← Rule.compileAll_eq_ok _ LetRule.position, scanner_eq]
  obtain ⟨isBreak, ifRules, letRules, definitions⟩ := m
  cases Rule.compileAll (Rule.ofIfRule (spec.scope hosts)) IfRule.position spec.ifRules with
  | error e => simp [Except.bind]
  | ok ifRules' =>
    cases Rule.compileAll (Rule.ofLetRule (spec.scope hosts)) LetRule.position spec.letRules with
    | error e => simp [Except.bind, Except.map]
    | ok letRules' =>
      simp only [Except.bind, Except.map, Except.ok.injEq, Scanner.mk.injEq]
      constructor
      · rintro ⟨hbreak, hif, hlet, hvalues⟩
        exact ⟨hif, hlet, hbreak.symm, hvalues.symm⟩
      · rintro ⟨hif, hlet, hbreak, hvalues⟩
        exact ⟨hbreak.symm, hif, hlet, hvalues.symm⟩

/-- **The first rule that cannot be compiled ends the compilation**, if-rules before let-rules. -/
theorem scanner_eq_error [Regex.Engine] : spec.scanner hosts = .error e ↔
    ∃ before source after, spec.sources = before ++ source :: after ∧
      (∀ earlier ∈ before, ∃ outcome, earlier.compile (spec.scope hosts) = .ok outcome) ∧
      source.compile (spec.scope hosts) = .error e.fault ∧ e.position = source.position := by
  rw [← Rule.compileAll_eq_error _ Source.position, sources, Rule.compileAll_append,
    Rule.compileAll_map, Rule.compileAll_map, scanner_eq]
  change _ ↔ (Rule.compileAll (Rule.ofIfRule _) IfRule.position _).bind (fun rules =>
    (Rule.compileAll (Rule.ofLetRule _) LetRule.position _).map (rules ++ ·)) = _
  cases Rule.compileAll (Rule.ofIfRule (spec.scope hosts)) IfRule.position spec.ifRules with
  | error e => simp [Except.bind]
  | ok ifRules =>
    cases Rule.compileAll (Rule.ofLetRule (spec.scope hosts)) LetRule.position spec.letRules <;>
      simp [Except.bind, Except.map]

end Specification

end RuleLexer
