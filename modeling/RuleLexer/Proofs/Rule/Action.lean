import Mathlib
import RuleLexer.Rule.Action

/-!
# The grammar of actions

`Denotes` says which sequences of tokens are which steps: every step is one or two tokens
(`IsStep`), and semicolons count for nothing.  The reader of actions finds the steps that the tokens
denote, provided the rule may have them (`denotes_of_steps`); what it does with one step more in
front is `steps_of_isStep`.  `count?_eq_some_iff` says how counts are written.

Kinds and values are all that matters of a token (`steps_map`).
-/

namespace RuleLexer

open Clause (Kind)

/-! ### Counts -/

namespace Decimal

variable {cs : List Char} {c : Char}

/-- The number of a list of digits is the one that the library finds. -/
theorem ofDigits_eq (cs : List Char) : ofDigits cs = Nat.ofDigitChars 10 cs 0 := by
  simp only [ofDigits, Nat.ofDigitChars_eq_foldl, Nat.mul_comm]

/-- A digit is the one that is written for its number. -/
theorem digitChar_of_isDigit (h : c.isDigit = true) :
    c.toNat - '0'.toNat < 10 ∧ Nat.digitChar (c.toNat - '0'.toNat) = c := by
  have hbounds : 48 ≤ c.toNat ∧ c.toNat ≤ 57 := by
    rw [Char.isDigit, Bool.and_eq_true, decide_eq_true_eq, decide_eq_true_eq] at h
    exact h
  have hdigits : ∀ d < 10, Nat.digitChar d = Char.ofNat (48 + d) := by decide
  have hlt : c.toNat - 48 < 10 := by omega
  refine ⟨hlt, ?_⟩
  rw [show '0'.toNat = 48 from rfl, hdigits _ hlt, Nat.add_sub_cancel' hbounds.1, Char.ofNat_toNat]

/-- Digits are zeros and the digits of their number, which has none if it is zero. -/
theorem exists_zeros_append (h : ∀ c ∈ cs, c.isDigit = true) : ∃ zeros,
    cs = List.replicate zeros '0' ++
      if ofDigits cs = 0 then [] else Nat.toDigits 10 (ofDigits cs) := by
  induction cs using List.reverseRecOn with
  | nil => exact ⟨0, rfl⟩
  | append_singleton cs c ih =>
    obtain ⟨hcs, hc⟩ := List.forall_mem_append.1 h
    obtain ⟨hlt, hchar⟩ := digitChar_of_isDigit (hc c List.mem_cons_self)
    obtain ⟨zeros, hzeros⟩ := ih hcs
    have hnumber : ofDigits (cs ++ [c]) = 10 * ofDigits cs + (c.toNat - '0'.toNat) := by
      simp [ofDigits, Nat.mul_comm]
    have hlast : Nat.toDigits 10 (c.toNat - '0'.toNat) = [c] := by
      rw [Nat.toDigits_of_lt_base hlt, hchar]
    by_cases hleading : ofDigits cs = 0
    · rw [if_pos hleading, List.append_nil] at hzeros
      by_cases hzero : c.toNat - '0'.toNat = 0
      · have hc0 : c = '0' := by rw [← hchar, hzero]; rfl
        refine ⟨zeros + 1, ?_⟩
        rw [hnumber, hleading, hzero, if_pos rfl, List.append_nil, List.replicate_succ', ← hzeros,
          hc0]
      · refine ⟨zeros, ?_⟩
        rw [hnumber, hleading, Nat.mul_zero, Nat.zero_add, if_neg hzero, hlast, ← hzeros]
    · rw [if_neg hleading] at hzeros
      refine ⟨zeros, ?_⟩
      have hpos : 0 < ofDigits cs := Nat.pos_of_ne_zero hleading
      rw [hnumber, if_neg (by omega), ← Nat.toDigits_append_toDigits (by decide) hpos hlt, hlast,
        ← List.append_assoc, ← hzeros]

end Decimal

namespace Action

/-- **A count is written with its digits**, with or without zeros before them. -/
theorem count?_eq_some_iff {digits : String} {n : Nat} : count? digits = some n ↔
    (1 ≤ n ∧ n < UInt64.size) ∧
      ∃ zeros, digits.toList = List.replicate zeros '0' ++ Nat.toDigits 10 n := by
  rw [count?]
  constructor
  · intro h
    simp only [Option.ite_none_right_eq_some, Option.some.injEq] at h
    obtain ⟨hdigits, hn, rfl⟩ := h
    obtain ⟨zeros, hzeros⟩ := Decimal.exists_zeros_append (List.all_eq_true.1 hdigits)
    rw [if_neg (by omega)] at hzeros
    exact ⟨hn, zeros, hzeros⟩
  · rintro ⟨hn, zeros, hzeros⟩
    have hall : digits.toList.all Char.isDigit = true := by
      rw [hzeros, List.all_append, Bool.and_eq_true]
      refine ⟨List.all_eq_true.2 fun c hc => ?_, List.all_eq_true.2 fun c hc => ?_⟩
      · rw [List.eq_of_mem_replicate hc]
        rfl
      · exact Nat.isDigit_of_mem_toDigits (by decide) (by decide) hc
    have hnumber : Decimal.ofDigits digits.toList = n := by
      rw [Decimal.ofDigits_eq, hzeros, Nat.ofDigitChars_append, Nat.ofDigitChars_replicate_zero,
        Nat.mul_zero, Nat.ofDigitChars_ten_toDigits]
    simp only [hall, hnumber, if_pos, if_pos hn]

theorem isDigit_of_count? {digits : String} {n : Nat} (h : count? digits = some n) :
    ∀ c ∈ digits.toList, c.isDigit = true := by
  rw [count?, Option.ite_none_right_eq_some] at h
  exact List.all_eq_true.1 h.1

theorem ne_nil_of_count? {digits : String} {n : Nat} (h : count? digits = some n) :
    digits.toList ≠ [] := by
  obtain ⟨_, zeros, hzeros⟩ := count?_eq_some_iff.1 h
  rw [hzeros]
  exact List.append_ne_nil_of_right_ne_nil _ Nat.toDigits_ne_nil

end Action

/-! ### Steps and their tokens -/

/-- The word of a step that decides the flow of an event. -/
def Step.flowWord? : Step → Option String
  | fold => some "continue"
  | skip _ | skipToken => some "skip"
  | _ => none

/-- The rule may have the step. -/
def RuleKind.Allows (kind : RuleKind) (step : Step) : Prop :=
  step.flowWord?.isSome = true → kind.allowsFlowControl = true

/-- Every rule may have the steps that leave the flow as it is. -/
theorem RuleKind.allows_of_flowWord? {kind : RuleKind} {step : Step} (h : step.flowWord? = none) :
    kind.Allows step := by
  intro hflow
  simp [h] at hflow

namespace Action

/-- The tokens are a step, where the test looks back at `lookBack` tokens. -/
inductive IsStep (lookBack : Nat) (scope : Scope) : Step → List Clause.Token → Prop
  | fold {t : Clause.Token} : t.kind = .continueWord → IsStep lookBack scope .fold [t]
  | skip {t n : Clause.Token} {count : Nat} : t.kind = .skipWord → n.kind = .number →
      count? n.value = some count → IsStep lookBack scope (.skip count) [t, n]
  | skipToken {t u : Clause.Token} : t.kind = .skipWord → u.kind = .tokenWord →
      IsStep lookBack scope .skipToken [t, u]
  | throw {t m : Clause.Token} {message : String} : t.kind = .throwWord → m.kind = .string →
      m.value = message → IsStep lookBack scope (.throw message) [t, m]
  | join {t : Clause.Token} : t.kind = .joinWord → IsStep lookBack scope (.join lookBack) [t]
  | tag {t : Clause.Token} {name : String} : t.kind = .tag → t.value = name →
      IsStep lookBack scope (.tag name) [t]
  | host {t : Clause.Token} {h : HostAction} : t.kind = .hostExpression →
      scope.hosts.action? t.value = some h → IsStep lookBack scope (.host h) [t]

/-- The tokens denote the steps, up to the end of the clause. -/
inductive Denotes (lookBack : Nat) (scope : Scope) : List Step → List Clause.Token → Prop
  | stop {ts : List Clause.Token} : (∀ t ∈ ts.head?, t.kind = .eof) → Denotes lookBack scope [] ts
  | semicolon {t : Clause.Token} {ts : List Clause.Token} {steps : List Step} :
      t.kind = .semicolon → Denotes lookBack scope steps ts →
      Denotes lookBack scope steps (t :: ts)
  | step {ts us : List Clause.Token} {step : Step} {steps : List Step} :
      IsStep lookBack scope step ts → Denotes lookBack scope steps us →
      Denotes lookBack scope (step :: steps) (ts ++ us)

variable {kind : RuleKind} {lookBack : Nat} {scope : Scope} {t : Clause.Token}
  {ts us : List Clause.Token} {step : Step} {ss : List Step}

/-- Only the action of a let-rule that throws is read in a way of its own. -/
theorem read_eq (hkind : kind ≠ .letRule .throw) (clause : String) :
    read kind lookBack scope clause
      = (Clause.read clause).bind (steps kind lookBack scope) := by
  rw [read]
  cases Clause.read clause with
  | error fault => rfl
  | ok ts => exact if_neg hkind

/-! ### One step more in front -/

theorem steps_eof (h : t.kind = .eof) : steps kind lookBack scope (t :: ts) = .ok [] := by
  rw [steps.eq_def]
  simp only [h]

theorem steps_semicolon (h : t.kind = .semicolon) :
    steps kind lookBack scope (t :: ts) = steps kind lookBack scope ts := by
  rw [steps.eq_def]
  simp only [h]

/-- **The reader takes the tokens of a step** and goes on behind them, unless the step is not for
rules of this kind. -/
theorem steps_of_isStep (h : IsStep lookBack scope step (t :: ts)) (us : List Clause.Token) :
    (kind.Allows step → steps kind lookBack scope (t :: ts ++ us)
      = (steps kind lookBack scope us).map (step :: ·)) ∧
    (¬ kind.Allows step → steps kind lookBack scope (t :: ts ++ us)
      = .error (.actionNotAllowed t.value kind.label)) := by
  rw [RuleKind.Allows, List.cons_append, steps.eq_def]
  cases h with
  | fold ht =>
    simp only [ht, Step.flowWord?, Option.isSome, forall_const]
    constructor <;> intro hallowed <;> simp [hallowed]
  | skip ht hn hcount =>
    simp only [ht, Step.flowWord?, Option.isSome, forall_const, List.cons_append, skipStep, hn,
      hcount]
    constructor <;> intro hallowed <;> simp [hallowed]
  | skipToken ht hu =>
    simp only [ht, Step.flowWord?, Option.isSome, forall_const, List.cons_append, skipStep, hu]
    constructor <;> intro hallowed <;> simp [hallowed]
  | throw ht hm hvalue => simp [ht, hm, hvalue, Step.flowWord?, Option.isSome]
  | join ht => simp [ht, Step.flowWord?, Option.isSome]
  | tag ht hvalue => simp [ht, hvalue, Step.flowWord?, Option.isSome]
  | host ht hhost => simp [ht, hhost, Step.flowWord?, Option.isSome]

/-- The tokens need only agree in their kinds and values. -/
theorem steps_map {f : Clause.Token → Clause.Token} (hkind : ∀ t, (f t).kind = t.kind)
    (hvalue : ∀ t, (f t).value = t.value) (ts : List Clause.Token) :
    steps kind lookBack scope (ts.map f) = steps kind lookBack scope ts := by
  have hskip : ∀ t, skipStep (f t) = skipStep t := fun t => by
    rw [skipStep, skipStep, hkind, hvalue]
  fun_induction steps kind lookBack scope ts
  case case1 => rfl
  all_goals
    rw [List.map_cons, steps.eq_def]
    simp_all

/-! ### What the steps are read from -/

theorem isStep_of_skipStep {n : Clause.Token} (ht : t.kind = .skipWord)
    (h : skipStep n = .ok step) :
    step.flowWord?.isSome = true ∧ IsStep lookBack scope step [t, n] := by
  rw [skipStep] at h
  split at h
  next hn =>
    obtain rfl := Except.ok.inj h
    exact ⟨rfl, .skipToken ht hn⟩
  next hn =>
    split at h
    next count hcount =>
      obtain rfl := Except.ok.inj h
      exact ⟨rfl, .skip ht hn hcount⟩
    next => simp at h
  next => simp at h
  next => simp at h

theorem denotes_cons {r : Except Fault (List Step)} (hstep : IsStep lookBack scope step ts)
    (hallowed : kind.Allows step) (h : r.map (step :: ·) = .ok ss)
    (hr : ∀ {ss}, r = .ok ss → Denotes lookBack scope ss us ∧ ∀ step ∈ ss, kind.Allows step) :
    Denotes lookBack scope ss (ts ++ us) ∧ ∀ step ∈ ss, kind.Allows step := by
  obtain ⟨rest, hrest, rfl⟩ := exists_of_map_eq_ok h
  exact ⟨.step hstep (hr hrest).1, List.forall_mem_cons.2 ⟨hallowed, (hr hrest).2⟩⟩

/-- **The steps that are read are denoted by the tokens**, and the rule may have them. -/
theorem denotes_of_steps (h : steps kind lookBack scope ts = .ok ss) :
    Denotes lookBack scope ss ts ∧ ∀ step ∈ ss, kind.Allows step := by
  fun_induction steps kind lookBack scope ts generalizing ss
  case case1 =>
    obtain rfl := Except.ok.inj h
    exact ⟨.stop (by simp), by simp⟩
  case case2 ht =>
    obtain rfl := Except.ok.inj h
    exact ⟨.stop (by simpa using ht), by simp⟩
  case case3 ht ih => exact ⟨.semicolon ht (ih h).1, (ih h).2⟩
  case case4 ht hflow ih => exact denotes_cons (.fold ht) (fun _ => hflow) h ih
  case case8 ht hflow _ _ _ hskip ih =>
    exact denotes_cons (isStep_of_skipStep ht hskip).2 (fun _ => hflow) h ih
  case case11 ht _ _ hm ih =>
    exact denotes_cons (.throw ht hm rfl) (RuleKind.allows_of_flowWord? rfl) h ih
  case case13 ht ih => exact denotes_cons (.join ht) (RuleKind.allows_of_flowWord? rfl) h ih
  case case14 ht ih => exact denotes_cons (.tag ht rfl) (RuleKind.allows_of_flowWord? rfl) h ih
  case case15 ht _ hhost ih =>
    exact denotes_cons (.host ht hhost) (RuleKind.allows_of_flowWord? rfl) h ih
  all_goals simp at h

/-- Each step is denoted by some of the tokens. -/
theorem Denotes.exists_isStep (h : Denotes lookBack scope ss ts) :
    ∀ step ∈ ss, ∃ us, us ⊆ ts ∧ IsStep lookBack scope step us := by
  induction h with
  | stop => simp
  | semicolon _ _ ih =>
    intro step hstep
    obtain ⟨us, hsub, hus⟩ := ih step hstep
    exact ⟨us, List.subset_cons_of_subset _ hsub, hus⟩
  | step hstep _ ih =>
    refine List.forall_mem_cons.2 ⟨⟨_, List.subset_append_left _ _, hstep⟩, fun step hmem => ?_⟩
    obtain ⟨us, hsub, hus⟩ := ih step hmem
    exact ⟨us, List.subset_append_of_subset_right _ hsub, hus⟩

/-- What every step has that tokens may be, the steps have that are denoted. -/
theorem Denotes.forall_mem {P : Step → Prop} (h : Denotes lookBack scope ss ts)
    (hP : ∀ {step ts}, IsStep lookBack scope step ts → P step) : ∀ step ∈ ss, P step := by
  intro step hstep
  obtain ⟨us, _, hus⟩ := h.exists_isStep step hstep
  exact hP hus

end Action

end RuleLexer
