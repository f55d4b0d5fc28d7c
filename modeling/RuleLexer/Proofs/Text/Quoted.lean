import Mathlib
import RuleLexer.Proofs.Clause.Literal
import RuleLexer.Text.Quoted

/-!
# Quoted text is read back

A character between quotes is written as itself, with one of the signs behind a backslash, or by its
code point (`IsWrittenAs`, `isWrittenAs_escaped`).  Each of the three is read back, whatever stands
behind it (`readEscaped?_of_isWrittenAs`), and is no place where the quoted text could end.

* `newline_notMem_quoted`: **a quoted text is one line**;
* `quoted_append_inj`: **where a quoted text ends, and which text it is**, can be told from any text
  that begins with it.
-/

namespace RuleLexer.Text

open Clause (IsBody plainEscapes)

variable {c : Char} {cs ds rest rest' text : List Char}

/-! ### Numbers in hexadecimal digits -/

/-- The number that hexadecimal digits denote. -/
def hexNumber (cs : List Char) : Nat :=
  cs.foldl (fun n c => 16 * n + (hexValue? c).getD 0) 0

theorem hexValue?_digitChar : ∀ d < 16, hexValue? (Nat.digitChar d) = some d := by
  decide

theorem hexNumber_append_singleton (cs : List Char) (c : Char) :
    hexNumber (cs ++ [c]) = 16 * hexNumber cs + (hexValue? c).getD 0 := by
  simp [hexNumber]

/-- **A number is read back from its digits**, which are hexadecimal. -/
theorem hexNumber_toDigits (n : Nat) : hexNumber (Nat.toDigits 16 n) = n ∧
    ∀ c ∈ Nat.toDigits 16 n, (hexValue? c).isSome = true := by
  induction n using Nat.strongRecOn with
  | ind n ih =>
    rw [Nat.toDigits_eq_if (by decide)]
    by_cases hn : n < 16
    · have hdigit := hexValue?_digitChar n hn
      rw [if_pos hn]
      simp [hexNumber, hdigit]
    · have hlast : n % 16 < 16 := Nat.mod_lt n (by decide)
      have hdigit := hexValue?_digitChar (n % 16) hlast
      obtain ⟨hnumber, hdigits⟩ := ih (n / 16) (by omega)
      rw [if_neg hn]
      constructor
      · rw [hexNumber_append_singleton, hnumber, hdigit, Option.getD_some, Nat.div_add_mod]
      · intro c hc
        rcases List.mem_append.1 hc with hc | hc
        · exact hdigits c hc
        · rw [List.mem_singleton.1 hc, hdigit]
          rfl

/-- No hexadecimal digit ends a quoted text. -/
theorem isBody_of_hexValue? (h : ∀ c ∈ cs, (hexValue? c).isSome = true) : IsBody '"' false cs := by
  induction cs with
  | nil => exact .nil
  | cons c cs ih =>
    obtain ⟨hc, hcs⟩ := List.forall_mem_cons.1 h
    have hne : ∀ d, hexValue? d = none → c ≠ d := by
      rintro d hd rfl
      simp [hd] at hc
    have hnewline : c ≠ '\n' := hne _ (by decide)
    exact .plain (hne _ (by decide)) (hne _ (by decide)) (absurd · hnewline) (ih hcs)

/-! ### Characters between quotes -/

/-- How a character is written between quotes. -/
inductive IsWrittenAs : Char → List Char → Prop
  | itself {c : Char} : c ≠ '"' → c ≠ '\\' → c ≠ '\n' → IsWrittenAs c [c]
  | sign {c e : Char} : (e, c) ∈ plainEscapes → IsWrittenAs c ['\\', e]
  | codePoint (c : Char) :
      IsWrittenAs c ('\\' :: 'u' :: '\x7b' :: (Nat.toDigits 16 c.toNat ++ ['\x7d']))

theorem isWrittenAs_escaped (c : Char) : IsWrittenAs c (escaped c) := by
  unfold escaped
  split_ifs with hquote hback hnewline htab hreturn hnull hhidden
  · subst hquote
    exact .sign (by decide)
  · subst hback
    exact .sign (by decide)
  · subst hnewline
    exact .sign (by decide)
  · subst htab
    exact .sign (by decide)
  · subst hreturn
    exact .sign (by decide)
  · subst hnull
    exact .sign (by decide)
  · exact .codePoint c
  · exact .itself hquote hback hnewline

theorem IsWrittenAs.isBody (h : IsWrittenAs c text) : IsBody '"' false text := by
  cases h with
  | itself hquote hback hnewline => exact .plain hquote hback (absurd · hnewline) .nil
  | sign he => exact .escaped (Clause.lookup_plainEscapes _ he).2 .nil
  | codePoint =>
    have hdigits := isBody_of_hexValue? (hexNumber_toDigits c.toNat).2
    have hclose : IsBody '"' false ['\x7d'] := .plain (by decide) (by decide) (by decide) .nil
    exact .escaped (by decide)
      (.plain (by decide) (by decide) (by decide) (hdigits.append hclose))

/-- Reads one character between quotes. -/
def readEscaped? : List Char → Option (Char × List Char)
  | [] => none
  | c :: cs =>
    if c = '\\' then
      match cs with
      | [] => none
      | e :: rest =>
        match plainEscapes.lookup e with
        | some d => some (d, rest)
        | none =>
          -- between braces stands a code point
          let digits := rest.tail.takeWhile (· != '\x7d')
          some (Char.ofNat (hexNumber digits), rest.drop (digits.length + 2))
    else some (c, cs)

/-- **What a character is written as is read back**, and nothing behind it is taken. -/
theorem readEscaped?_of_isWrittenAs (h : IsWrittenAs c text) (rest : List Char) :
    readEscaped? (text ++ rest) = some (c, rest) := by
  cases h with
  | itself _ hback _ => exact if_neg hback
  | sign he =>
    have hlookup := (Clause.lookup_plainEscapes _ he).1
    simp only at hlookup
    simp only [List.cons_append, List.nil_append, readEscaped?, if_true, hlookup]
  | codePoint =>
    obtain ⟨hnumber, hdigits⟩ := hexNumber_toDigits c.toNat
    have hlookup : plainEscapes.lookup 'u' = none := by decide
    have hbrace : hexValue? '\x7d' = none := by decide
    have hinner : ∀ d ∈ Nat.toDigits 16 c.toNat, (d != '\x7d') = true := by
      intro d hd
      rw [bne_iff_ne]
      rintro rfl
      simpa [hbrace] using hdigits _ hd
    have hsplit : (Nat.toDigits 16 c.toNat ++ '\x7d' :: rest).takeWhile (· != '\x7d') =
        Nat.toDigits 16 c.toNat := by
      rw [List.takeWhile_append_of_pos hinner, List.takeWhile_cons_of_neg (by simp),
        List.append_nil]
    simp only [List.cons_append, List.append_assoc, List.nil_append, readEscaped?, if_true, hlookup,
      List.tail_cons, hsplit, hnumber, Char.ofNat_toNat]
    simp [List.drop_append]

/-! ### Quoted texts -/

theorem isBody_flatMap_escaped (cs : List Char) : IsBody '"' false (cs.flatMap escaped) := by
  induction cs with
  | nil => exact .nil
  | cons c cs ih => exact (isWrittenAs_escaped c).isBody.append ih

theorem flatMap_escaped_injective (h : cs.flatMap escaped = ds.flatMap escaped) : cs = ds := by
  have hread : ∀ c cs, readEscaped? ((c :: cs).flatMap escaped) = some (c, cs.flatMap escaped) :=
    fun c cs => readEscaped?_of_isWrittenAs (isWrittenAs_escaped c) _
  induction cs generalizing ds with
  | nil =>
    cases ds with
    | nil => rfl
    | cons d ds =>
      have hnone := (congrArg readEscaped? h).trans (hread d ds)
      simp [readEscaped?] at hnone
  | cons c cs ih =>
    have hsome := (hread c cs).symm.trans (congrArg readEscaped? h)
    cases ds with
    | nil => simp [readEscaped?] at hsome
    | cons d ds =>
      rw [hread, Option.some.injEq, Prod.mk.injEq] at hsome
      rw [hsome.1, ih hsome.2]

theorem toList_quoted (s : String) :
    (quoted s).toList = '"' :: (s.toList.flatMap escaped ++ ['"']) := by
  rw [quoted, String.toList_ofList, List.cons_append]

/-- **A quoted text is one line.** -/
theorem newline_notMem_quoted (s : String) : '\n' ∉ (quoted s).toList := by
  have hbody := (isBody_flatMap_escaped s.toList).newline_notMem
  simp [toList_quoted, hbody]

/-- **The text between quotes ends at the first quote that is not escaped, and no two texts are quoted
alike.** -/
theorem quoted_append_inj {s t : String}
    (h : (quoted s).toList ++ rest = (quoted t).toList ++ rest') : s = t ∧ rest = rest' := by
  have hsplit : ∀ (s : String) (rest : List Char), Clause.splitClose '"' false
      (s.toList.flatMap escaped ++ '"' :: rest) = some (s.toList.flatMap escaped ++ ['"'], rest) :=
    fun s => Clause.splitClose_of_isBody (by decide) (isBody_flatMap_escaped s.toList)
  simp only [toList_quoted, List.cons_append, List.append_assoc, List.nil_append, List.cons.injEq,
    true_and] at h
  have hsame := hsplit s rest
  rw [h, hsplit t rest', Option.some.injEq, Prod.mk.injEq] at hsame
  obtain ⟨hbody, hrest⟩ := hsame
  exact ⟨String.toList_inj.1 (flatMap_escaped_injective (List.append_cancel_right hbody).symm),
    hrest.symm⟩

end RuleLexer.Text
