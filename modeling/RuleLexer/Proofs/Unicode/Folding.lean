import Mathlib
import RuleLexer.Unicode.Folding

/-!
# Case folding and the letters of ASCII

Keywords are compared after case folding, which goes beyond ASCII.  It does not matter for the
letters that most keywords are made of: `fold_eq_iff_toLower_eq` says that a character is folded to
an ASCII character other than `k` and `s` exactly when it is that character or its capital.  To `k`
and `s` go also the Kelvin sign and the long s.
-/

namespace RuleLexer.Unicode

/-- What the runs of `folds` have in common: the images are characters, and they lie outside ASCII,
unless the run does too or is one of the two single letters. -/
theorem folds_images : ∀ e ∈ folds,
    (e.2.2.2 + (e.2.1 - e.1) < 0xD800 ∨
      0xDFFF < e.2.2.2 ∧ e.2.2.2 + (e.2.1 - e.1) < 0x110000) ∧
    (e.2.1 < 128 ∨ 128 ≤ e.2.2.2 ∨ e.1 = e.2.1 ∧ (e.2.2.2 = 's'.toNat ∨ e.2.2.2 = 'k'.toNat)) := by
  decide +kernel

theorem toLower_cases (c : Char) :
    (65 ≤ c.toNat ∧ c.toNat ≤ 90 ∧ c.toLower.toNat = c.toNat + 32) ∨
      (¬ (65 ≤ c.toNat ∧ c.toNat ≤ 90) ∧ c.toLower = c) := by
  by_cases h : c.val ≥ 'A'.val ∧ c.val ≤ 'Z'.val
  · refine Or.inl ⟨h.1, h.2, ?_⟩
    have h90 : c.val.toNat ≤ 90 := h.2
    rw [Char.toLower, dif_pos h]
    show (c.val + ('a'.val - 'A'.val)).toNat = c.val.toNat + 32
    rw [UInt32.toNat_add]
    show (c.val.toNat + 32) % 4294967296 = c.val.toNat + 32
    omega
  · refine Or.inr ⟨h, ?_⟩
    rw [Char.toLower, dif_neg h]

theorem isLower_iff {c : Char} : c.isLower = true ↔ 97 ≤ c.toNat ∧ c.toNat ≤ 122 := by
  rw [Char.isLower, Bool.and_eq_true, decide_eq_true_eq, decide_eq_true_eq]
  rfl

theorem isUpper_iff {c : Char} : c.isUpper = true ↔ 65 ≤ c.toNat ∧ c.toNat ≤ 90 := by
  rw [Char.isUpper, decide_eq_true_eq]
  rfl

theorem isLower_toLower (c : Char) : c.toLower.isLower = c.isAlpha := by
  rw [Bool.eq_iff_iff, Char.isAlpha, Bool.or_eq_true, isLower_iff, isLower_iff, isUpper_iff]
  rcases toLower_cases c with ⟨h65, h90, hl⟩ | ⟨hnot, he⟩
  · omega
  · rw [he]
    omega

/-- Outside ASCII no character is folded into it, the Kelvin sign and the long s apart. -/
theorem fold_of_not_ascii {c : Char} (hc : 128 ≤ c.toNat) :
    128 ≤ (fold c).toNat ∨ fold c = 's' ∨ fold c = 'k' := by
  rw [fold, if_neg (by omega)]
  cases h : folds.findSome? (foldIn c.toNat) with
  | none => exact Or.inl hc
  | some n =>
    obtain ⟨⟨first, last, step, image⟩, he, hn⟩ := List.exists_of_findSome?_eq_some h
    rw [foldIn] at hn
    split at hn
    next hin =>
      obtain ⟨hvalid, hplace⟩ := folds_images _ he
      simp only [Option.some.injEq] at hn hvalid hplace
      have hnat : (Char.ofNat n).toNat = n := by
        rw [Char.ofNat, dif_pos (show n.isValidChar by simp only [Nat.isValidChar]; omega)]
        rfl
      show 128 ≤ (Char.ofNat n).toNat ∨ Char.ofNat n = 's' ∨ Char.ofNat n = 'k'
      rcases hplace with h1 | h1 | ⟨h1, h2 | h2⟩
      · omega
      · exact Or.inl (by omega)
      · exact Or.inr (Or.inl (by rw [show n = 's'.toNat by omega]; rfl))
      · exact Or.inr (Or.inr (by rw [show n = 'k'.toNat by omega]; rfl))
    next => simp at hn

/-- A character whose lower case is in ASCII is folded to its lower case. -/
theorem fold_eq_of_toLower_eq {c w : Char} (h : c.toLower = w) (hw : w.toNat < 128) :
    fold c = w := by
  rcases toLower_cases c with ⟨_, h90, _⟩ | ⟨_, he⟩
  · rw [fold, if_pos (by omega), h]
  · rw [fold, if_pos (by rw [← he, h]; exact hw), h]

/-- A letter is folded to its small form. -/
theorem fold_of_isAlpha {c : Char} (h : c.isAlpha = true) : fold c = c.toLower := by
  have hlower : c.toLower.isLower = true := by rw [isLower_toLower, h]
  exact fold_eq_of_toLower_eq rfl (by have := isLower_iff.1 hlower; omega)

/-- **Folding to a letter other than `k` and `s` is lower case in ASCII.** -/
theorem fold_eq_iff_toLower_eq {c w : Char} (hw : w.toNat < 128) (hs : w ≠ 's') (hk : w ≠ 'k') :
    fold c = w ↔ c.toLower = w := by
  refine ⟨fun h => ?_, fun h => fold_eq_of_toLower_eq h hw⟩
  by_cases hc : c.toNat < 128
  · rw [fold, if_pos hc] at h
    exact h
  · rcases fold_of_not_ascii (by omega : 128 ≤ c.toNat) with h1 | h1 | h1
    · rw [h] at h1
      omega
    · exact absurd (h.symm.trans h1) hs
    · exact absurd (h.symm.trans h1) hk

end RuleLexer.Unicode
