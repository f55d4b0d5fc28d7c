import RuleLexer.Proofs.Rule.Action
import RuleLexer.Proofs.Rule.Binding
import RuleLexer.Rule.Basic

/-!
# What `join` takes

The steps of a compiled rule join as many tokens as its test has operands that look behind
(`Rule.HasTest.exists_read`), and these operands are answered by the last emitted tokens.  Hence
`Test.read_binds`: a `join` takes the tokens that the operands looked at, and no other.
-/

namespace RuleLexer

/-! ### Compiled rules -/

/-- A step that an action may be read as, where the test looks back at `lookBack` tokens. -/
inductive Step.IsReadWith (lookBack : Nat) (scope : Scope) : Step → Prop
  | fold : IsReadWith lookBack scope .fold
  | skip (count : Nat) : IsReadWith lookBack scope (.skip count)
  | skipToken : IsReadWith lookBack scope .skipToken
  | throw (message : String) : IsReadWith lookBack scope (.throw message)
  | join : IsReadWith lookBack scope (.join lookBack)
  | tag (name : String) : IsReadWith lookBack scope (.tag name)
  | host {name : String} {h : HostAction} : scope.hosts.action? name = some h →
      IsReadWith lookBack scope (.host h)

namespace Action

variable {kind : RuleKind} {lookBack : Nat} {scope : Scope} {ts : List Clause.Token}
  {steps : List Step}

theorem isReadWith_of_isStep {step : Step} (h : IsStep lookBack scope step ts) :
    step.IsReadWith lookBack scope := by
  cases h with
  | fold => exact .fold
  | skip => exact .skip _
  | skipToken => exact .skipToken
  | throw => exact .throw _
  | join => exact .join
  | tag => exact .tag _
  | host _ hhost => exact .host hhost

theorem isReadWith_of_steps (h : Action.steps kind lookBack scope ts = .ok steps) :
    ∀ step ∈ steps, step.IsReadWith lookBack scope :=
  (denotes_of_steps h).1.forall_mem isReadWith_of_isStep

/-- **The steps of an action join as many tokens as its test looks back at**, and call registered
callbacks only. -/
theorem isReadWith_of_read {clause : String} (h : read kind lookBack scope clause = .ok steps) :
    ∀ step ∈ steps, step.IsReadWith lookBack scope := by
  rw [read] at h
  split at h
  next => simp at h
  next ts _ =>
    split at h
    next =>
      cases ts with
      | nil => exact Except.ok.inj h ▸ by simp
      | cons t ts =>
        rw [throwStep] at h
        split at h
        next => exact Except.ok.inj h ▸ by simpa using .throw t.value
        next => simp at h
    next => exact isReadWith_of_steps h

end Action

namespace Rule

/-- The rule is compiled with a clause as its test. -/
def HasTest [Regex.Engine] (scope : Scope) (clause : String) (r : Rule) : Prop :=
  (∃ source : IfRule, source.test = clause ∧ ofIfRule scope source = .ok (some r)) ∨
    ∃ source : LetRule, source.test = clause ∧ ofLetRule scope source = .ok (some r)

/-- A compiled rule has the predicate and the look-back count of its test, and its steps were read
with this count. -/
theorem HasTest.exists_read [Regex.Engine] {scope : Scope} {clause : String} {r : Rule}
    (h : r.HasTest scope clause) :
    Test.read scope clause = .ok ⟨some r.predicate, r.lookBack⟩ ∧
      ∀ step ∈ r.steps, step.IsReadWith r.lookBack scope := by
  rcases h with ⟨source, rfl, h⟩ | ⟨source, rfl, h⟩
  · rw [ofIfRule] at h
    split at h
    next tag action _ =>
      split at h
      next => simp at h
      next test htest =>
        split at h
        next => simp at h
        next steps hsteps =>
          obtain ⟨p, hp, rfl⟩ := Option.map_eq_some_iff.1 (Except.ok.inj h)
          refine ⟨by rw [htest, ← hp], fun step hstep => ?_⟩
          rcases List.mem_append.1 hstep with htag | hmem
          · obtain ⟨name, _, rfl⟩ := Option.map_eq_some_iff.1 (Option.mem_toList.1 htag)
            exact .tag _
          · exact Action.isReadWith_of_read hsteps step hmem
  · rw [ofLetRule] at h
    split at h
    next => simp at h
    next test htest =>
      split at h
      next => simp at h
      next steps hsteps =>
        obtain ⟨p, hp, rfl⟩ := Option.map_eq_some_iff.1 (Except.ok.inj h)
        exact ⟨by rw [htest, ← hp], Action.isReadWith_of_read hsteps⟩

end Rule

/-! ### Joining -/

/-- `t` comes from `s` by joining: the tokens `taken` were at the end of those that were emitted,
and now their texts stand before that of the token in progress. -/
structure Scan.Joins (s : Scan) (kept taken : List Token) (t : Scan) : Prop where
  before : s.tokens = kept ++ taken
  after : t.tokens = kept
  text : t.token.text = String.join (taken.map Token.text) ++ s.token.text
  tags : t.token.tags = s.token.tags

theorem Scan.joins_joinBehind (s : Scan) (count : Nat) :
    s.Joins (s.emitted.drop count).reverse (s.emitted.take count).reverse
      { s with lookBack := count }.joinBehind := by
  refine ⟨?_, rfl, rfl, rfl⟩
  rw [← List.reverse_append, List.take_append_drop, Scan.tokens]

/-- **The operands of a test are bound as `targetAt` says, and a `join` takes the tokens that they
looked at.**  For the second it is asked that all operands have to be true, and that those that look
behind are literals. -/
theorem Test.read_binds [Regex.Engine] (scope : Scope) (clause : String) (test : Test)
    (h : Test.read scope clause = .ok test) :
    ∃ ts, Clause.HasTokens clause ts ∧
      test.lookBack = (operandsBehind ts).length ∧
      (∀ p, test.predicate = some p →
        List.Forall₂ (fun e leaf => IsLeaf scope e.1 e.2 leaf) (operands scope ts) p.leaves) ∧
      ((∀ t ∈ ts, t.kind ≠ .or) → (∀ t ∈ operandsBehind ts, t.kind ≠ .hostExpression) →
        ∀ r : Rule, r.HasTest scope clause → ∀ s, r.isMatch s = true →
          ∃ kept taken, taken.length = test.lookBack ∧
            List.Forall₂ IsAnsweredBy (operandsBehind ts) taken ∧
            (∀ count, .join count ∈ r.steps → ∃ t,
              runSteps .proceed s [.join count] = (t, .ok .proceed) ∧ s.Joins kept taken t) ∧
            s.Joins kept taken { s with lookBack := r.lookBack }.joinBehind) := by
  obtain ⟨ts, hts⟩ := exists_hasTokens_of_read h
  have htokens := h
  rw [read_eq_ofTokens hts] at htokens
  refine ⟨ts, hts, ?_, fun p hp => ?_, fun hor hhost r hr s hs => ?_⟩
  · obtain ⟨_, _, _, _, _, rfl⟩ := ofTokens_eq_ok.1 htokens
    exact countBehind_places ts
  · have hleaves := forall₂_leaves_ofTokens htokens
    rw [hp] at hleaves
    simpa using hleaves
  · obtain ⟨hread, hsteps⟩ := hr.exists_read
    obtain rfl := Except.ok.inj (h.symm.trans hread)
    obtain ⟨hle, htaken⟩ := forall₂_operandsBehind hts.kind_ne_eof htokens rfl hs hor hhost
    refine ⟨_, _, ?_, htaken, fun count hcount => ?_, s.joins_joinBehind r.lookBack⟩
    · rw [List.length_reverse, List.length_take, Nat.min_eq_left hle]
    · cases hsteps _ hcount
      exact ⟨_, rfl, s.joins_joinBehind r.lookBack⟩

/-- Joins an `a` and a token with the tag `n` onto an `x`. -/
def sampleJoin : IfRule :=
  ⟨"'a' <- #n <- 'x'", "join", ⟨0, "sample"⟩⟩

def sampleJoinRule : Rule where
  kind := .ifThen
  predicate := .and (.and (.test (.behind 2) (.text "a")) (.test (.behind 1) (.tag "n")))
    (.test .token (.text "x"))
  lookBack := 2
  steps := [.join 2]
  position := ⟨0, "sample"⟩

/-- Three tokens were emitted, and an `x` is in progress. -/
def sampleScan : Scan where
  token := ⟨"x", .empty⟩
  emitted := [⟨"b", .ofList ["n"]⟩, ⟨"a", .empty⟩, ⟨".", .empty⟩]

theorem read_binds_sampleJoin : ∃ ts t, Clause.HasTokens sampleJoin.test ts ∧
    (Test.operands {} ts).map Prod.snd = [.behind 2, .behind 1, .token] ∧
    Rule.ofIfRule {} sampleJoin = .ok (some sampleJoinRule) ∧
    sampleJoinRule.isMatch sampleScan = true ∧
    runSteps .proceed sampleScan [.join 2] = (t, .ok .proceed) ∧
    t.tokens = [⟨".", .empty⟩] ∧ t.token.text = "abx" := by
  have htokens : Clause.HasTokens sampleJoin.test
      [⟨.string, "a", 0⟩, ⟨.lookBehind, "<-", 4⟩, ⟨.tag, "n", 7⟩, ⟨.lookBehind, "<-", 10⟩,
        ⟨.string, "x", 13⟩] := by cbv
  have hread : Test.read {} sampleJoin.test = .ok ⟨some sampleJoinRule.predicate, 2⟩ := by
    rw [Test.read_eq_ofTokens htokens]
    cbv
  have hrule : Rule.ofIfRule {} sampleJoin = .ok (some sampleJoinRule) := by
    rw [Rule.ofIfRule, hread]
    cbv
  obtain ⟨ts, hts, _, _, hjoins⟩ := Test.read_binds _ _ _ hread
  obtain rfl := hts.eq htokens
  obtain ⟨kept, taken, hlength, _, hsteps, _⟩ := hjoins (by decide) (by decide) sampleJoinRule
    (Or.inl ⟨sampleJoin, rfl, hrule⟩) sampleScan (by decide)
  obtain ⟨t, hrun, ht⟩ := hsteps 2 List.mem_cons_self
  have hsplit : [⟨".", .empty⟩] ++ [⟨"a", .empty⟩, ⟨"b", .ofList ["n"]⟩] = kept ++ taken :=
    ht.before
  obtain ⟨rfl, rfl⟩ := List.append_inj' hsplit hlength.symm
  exact ⟨_, t, htokens, by decide, hrule, by decide, hrun, ht.after, ht.text.trans (by decide)⟩

end RuleLexer
