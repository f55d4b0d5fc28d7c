import RuleLexer.Text.Line

/-!
# Texts that are written line by line

`OnLines ls text` says that `text` has the lines `ls`, of which the last one may or may not be ended
by a newline.  `lines` cuts such a text where it was put together (`lines_append_newline`,
`lines_eq_singleton`), and `lineOffsets` are the offsets at which the lines begin.

Behind a text that `EndsLine` a new line begins (`lines_append`).  Conversely, what stands before one
of the lines of a text `EndsLine` (`endsLine_of_lines_append`), and has one newline for each line
(`count_newline_of_lines_append`).
-/

namespace RuleLexer.Text

variable {l cs : List Char} {ls before after : List (List Char)}

/-- The text has the lines, each ended by a newline, the last one possibly not. -/
inductive OnLines : List (List Char) → List Char → Prop
  | nil : OnLines [] []
  | last (l : List Char) : OnLines [l] l
  | cons (l : List Char) {ls : List (List Char)} {text : List Char} :
      OnLines ls text → OnLines (l :: ls) (l ++ '\n' :: text)

/-- The bytes at which lines begin, if the first begins at the given one. -/
def lineOffsets : Nat → List (List Char) → List Nat
  | _, [] => []
  | offset, l :: ls => offset :: lineOffsets (offset + byteLength l + 1) ls

theorem byteLength_le_of_sublist {cs ds : List Char} (h : cs.Sublist ds) :
    byteLength cs ≤ byteLength ds := by
  induction h with
  | slnil => exact Nat.le_refl _
  | cons c _ ih => exact Nat.le_trans ih (Nat.le_add_left _ _)
  | cons_cons c _ ih => exact Nat.add_le_add_left ih c.utf8Size

theorem length_le_byteLength (cs : List Char) : cs.length ≤ byteLength cs := by
  induction cs with
  | nil => exact Nat.le_refl 0
  | cons c cs ih =>
    have hsize := c.utf8Size_pos
    rw [List.length_cons, byteLength_cons]
    omega

/-- A text has as many bytes as characters if each of them has one byte. -/
theorem byteLength_eq_length_iff : byteLength cs = cs.length ↔ ∀ c ∈ cs, c.utf8Size = 1 := by
  induction cs with
  | nil => simp
  | cons c cs ih =>
    have hsize := c.utf8Size_pos
    have hrest := length_le_byteLength cs
    rw [List.forall_mem_cons, ← ih, byteLength_cons, List.length_cons]
    omega

theorem byteLength_append_newline (l : List Char) :
    byteLength (l ++ ['\n']) = byteLength l + 1 := by
  rw [byteLength_append]
  rfl

/-- A newline ends a line. -/
theorem lines_append_newline (h : '\n' ∉ l) :
    lines (l ++ '\n' :: cs) = (l ++ ['\n']) :: lines cs := by
  induction l with
  | nil => rw [List.nil_append, lines, if_pos rfl, List.nil_append]
  | cons c l ih =>
    rw [List.mem_cons, not_or] at h
    rw [List.cons_append, lines, if_neg (Ne.symm h.1), ih h.2, List.cons_append]

/-- A text without newlines is one line, if it is not empty. -/
theorem lines_eq_singleton (h : '\n' ∉ l) (hne : l ≠ []) : lines l = [l] := by
  induction l with
  | nil => exact absurd rfl hne
  | cons c l ih =>
    rw [List.mem_cons, not_or] at h
    rw [lines, if_neg (Ne.symm h.1)]
    by_cases hl : l = []
    · rw [hl, lines]
    · rw [ih h.2 hl]

/-- A line of a text is the only line of itself. -/
theorem lines_of_mem_lines (h : l ∈ lines cs) : lines l = [l] := by
  induction cs generalizing l with
  | nil => simp [lines] at h
  | cons c cs ih =>
    rw [lines] at h
    split at h
    next hc =>
      rcases List.mem_cons.1 h with rfl | h
      · rw [lines, if_pos hc, lines]
      · exact ih h
    next hc =>
      split at h
      next =>
        obtain rfl := List.mem_singleton.1 h
        rw [lines, if_neg hc, lines]
      next hls =>
        rcases List.mem_cons.1 h with rfl | h
        · rw [lines, if_neg hc, ih (hls ▸ List.mem_cons_self)]
        · exact ih (hls ▸ List.mem_cons_of_mem _ h)

/-! ### Texts one after the other -/

/-- The text is empty or ends in a newline. -/
def EndsLine (cs : List Char) : Prop :=
  ∀ c ∈ cs.getLast?, c = '\n'

instance : Decidable (EndsLine cs) :=
  decidable_of_iff (cs.getLast?.all (· == '\n') = true) (by
    rw [EndsLine]; cases cs.getLast? <;> simp)

theorem EndsLine.of_cons {c : Char} (h : EndsLine (c :: cs)) (hc : c ≠ '\n') :
    cs ≠ [] ∧ EndsLine cs := by
  cases cs with
  | nil => exact absurd (h c rfl) hc
  | cons d ds =>
    refine ⟨List.cons_ne_nil d ds, fun e he => h e ?_⟩
    rw [List.getLast?_cons_cons]
    exact he

theorem lines_ne_nil (h : cs ≠ []) : lines cs ≠ [] := by
  intro hls
  have hflat := flatten_lines cs
  rw [hls] at hflat
  exact h hflat.symm

/-- **Behind a newline a new line begins.** -/
theorem lines_append (h : EndsLine cs) (ds : List Char) :
    lines (cs ++ ds) = lines cs ++ lines ds := by
  induction cs with
  | nil => rfl
  | cons c cs ih =>
    by_cases hc : c = '\n'
    · have hcs : EndsLine cs := by
        cases cs with
        | nil => exact fun d hd => by simp at hd
        | cons d ds => exact fun e he => h e (by rw [List.getLast?_cons_cons]; exact he)
      rw [List.cons_append, lines, if_pos hc, ih hcs, lines, if_pos hc, List.cons_append]
    · obtain ⟨hne, hcs⟩ := h.of_cons hc
      obtain ⟨l, ls, hls⟩ := List.exists_cons_of_ne_nil (lines_ne_nil hne)
      rw [List.cons_append, lines, if_neg hc, ih hcs, lines, if_neg hc, hls]
      rfl

/-! ### One line of several -/

/-- The first line of a text goes through its first newline; without a newline it is the text. -/
theorem exists_of_lines_eq_cons (h : lines cs = l :: ls) :
    ('\n' ∉ l ∧ ls = [] ∧ cs = l) ∨
      ∃ body rest, '\n' ∉ body ∧ l = body ++ ['\n'] ∧ ls = lines rest ∧ cs = body ++ '\n' :: rest := by
  by_cases hcs : '\n' ∈ cs
  · obtain ⟨body, rest, rfl, hbody⟩ := List.eq_append_cons_of_mem hcs
    rw [lines_append_newline hbody, List.cons.injEq] at h
    exact Or.inr ⟨body, rest, hbody, h.1.symm, h.2.symm, rfl⟩
  · have hne : cs ≠ [] := by
      rintro rfl
      simp [lines] at h
    rw [lines_eq_singleton hcs hne, List.cons.injEq] at h
    obtain ⟨rfl, rfl⟩ := h
    exact Or.inl ⟨hcs, rfl, rfl⟩

/-- A line has no newline but at its end. -/
theorem of_mem_lines (h : l ∈ lines cs) : '\n' ∉ l ∨ ∃ body, '\n' ∉ body ∧ l = body ++ ['\n'] := by
  rcases exists_of_lines_eq_cons (lines_of_mem_lines h) with ⟨hl, -⟩ | ⟨body, -, hbody, hl, -⟩
  · exact Or.inl hl
  · exact Or.inr ⟨body, hbody, hl⟩

/-- The lines from one on are those of the text from there on. -/
theorem lines_flatten_of_append (h : lines cs = before ++ after) : lines after.flatten = after := by
  induction before generalizing cs with
  | nil =>
    rw [List.nil_append] at h
    rw [← h, flatten_lines]
  | cons b before ih =>
    rw [List.cons_append] at h
    rcases exists_of_lines_eq_cons h with ⟨-, hnil, -⟩ | ⟨_, rest, -, -, hrest, -⟩
    · rw [(List.append_eq_nil_iff.1 hnil).2]
      rfl
    · exact ih hrest.symm

/-- A line that another one follows ends in a newline. -/
theorem exists_body_of_lines_append (h : lines cs = before ++ l :: after) :
    ∀ b ∈ before, ∃ body, '\n' ∉ body ∧ b = body ++ ['\n'] := by
  induction before generalizing cs with
  | nil => simp
  | cons b before ih =>
    rw [List.cons_append] at h
    rcases exists_of_lines_eq_cons h with ⟨-, hnil, -⟩ | ⟨body, rest, hbody, hb, hrest, -⟩
    · simp at hnil
    · exact List.forall_mem_cons.2 ⟨⟨body, hbody, hb⟩, ih hrest.symm⟩

theorem endsLine_of_lines_append (h : lines cs = before ++ l :: after) : EndsLine before.flatten := by
  rcases List.eq_nil_or_concat before with rfl | ⟨init, b, rfl⟩
  · exact fun c hc => by simp at hc
  · obtain ⟨body, -, rfl⟩ := exists_body_of_lines_append h b (by simp)
    intro c hc
    simpa [eq_comm] using hc

/-- **As many newlines stand before a line as lines.** -/
theorem count_newline_of_lines_append (h : lines cs = before ++ l :: after) :
    before.flatten.count '\n' = before.length := by
  have hbodies := exists_body_of_lines_append h
  clear h
  induction before with
  | nil => rfl
  | cons b before ih =>
    rw [List.forall_mem_cons] at hbodies
    obtain ⟨⟨body, hbody, rfl⟩, hrest⟩ := hbodies
    rw [List.flatten_cons, List.count_append, List.count_append, List.count_eq_zero.2 hbody, ih hrest,
      List.length_cons, List.count_singleton_self, Nat.zero_add, Nat.add_comm]

end RuleLexer.Text
