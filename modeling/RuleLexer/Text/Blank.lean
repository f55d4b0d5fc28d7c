/-!
# Blanks

Which characters count as blank, and trimming a text of them.  Texts are lists of characters here;
`trimmed` is the same for a `String`.
-/

namespace RuleLexer.Text

/-- The characters with the Unicode property `White_Space`. -/
def isBlank (c : Char) : Bool :=
  let n := c.toNat
  (0x09 ≤ n && n ≤ 0x0D) || n == 0x20 || n == 0x85 || n == 0xA0 || n == 0x1680
    || (0x2000 ≤ n && n ≤ 0x200A) || n == 0x2028 || n == 0x2029 || n == 0x202F || n == 0x205F
    || n == 0x3000

/-- The text without the blanks it begins with. -/
def trimStart (cs : List Char) : List Char :=
  cs.dropWhile isBlank

/-- The text without its trailing characters that satisfy `p`. -/
def dropEnd (p : Char → Bool) : List Char → List Char
  | [] => []
  | c :: cs =>
    match dropEnd p cs with
    | [] => if p c then [] else [c]
    | d :: ds => c :: d :: ds

/-- The text without the blanks it ends with. -/
def trimEnd (cs : List Char) : List Char :=
  dropEnd isBlank cs

/-- The text without the blanks around it. -/
def trim (cs : List Char) : List Char :=
  trimEnd (trimStart cs)

/-- A string without the blanks around it. -/
def trimmed (s : String) : String :=
  String.ofList (trim s.toList)

@[simp] theorem dropEnd_nil (p : Char → Bool) : dropEnd p [] = [] := rfl

/-- What `dropEnd` removes satisfies `p` throughout. -/
theorem dropEnd_append_of_all (p : Char → Bool) (cs : List Char) {ds : List Char}
    (h : ds.all p = true) : dropEnd p (cs ++ ds) = dropEnd p cs := by
  induction cs with
  | nil =>
    induction ds with
    | nil => rfl
    | cons d ds ih =>
      rw [List.all_cons, Bool.and_eq_true] at h
      have hds : dropEnd p ds = [] := ih h.2
      simp [dropEnd, hds, h.1]
  | cons c cs ih => rw [List.cons_append, dropEnd, dropEnd, ih]

/-- Nothing is removed after a character that does not satisfy `p`. -/
theorem dropEnd_append_singleton (p : Char → Bool) (cs : List Char) {c : Char}
    (h : p c = false) : dropEnd p (cs ++ [c]) = cs ++ [c] := by
  induction cs with
  | nil => simp [dropEnd, h]
  | cons d ds ih =>
    rw [List.cons_append, dropEnd, ih]
    cases ds <;> rfl

end RuleLexer.Text
