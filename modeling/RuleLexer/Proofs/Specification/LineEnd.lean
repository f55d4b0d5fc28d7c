import RuleLexer.Proofs.Specification.Composition

/-!
# Line ends

Lines may end in a newline or in a carriage return and a newline.  `read_crlf` says that it does not
matter which: with a return before every newline a text is read the same, and its rules and its fault,
which lie where their lines begin, lie farther on by the newlines before them.  Returns that a text has
already stay where they are, also in front of newlines.

The lines of the two texts are the same up to the returns (`lines_crlf`), and these belong to the end of
a line, which is dropped (`dropEnd_crlf`).  So the entries differ in their positions only, each of them by
what the offset of its line differs by (`ofLines_crlf`).
-/

namespace RuleLexer

namespace Text

/-- The text with a carriage return before every newline. -/
def crlf (cs : List Char) : List Char :=
  cs.flatMap fun c => if c = '\n' then ['\r', '\n'] else [c]

/-- The number of newlines among the first bytes of a text. -/
def newlinesBefore : Nat → List Char → Nat
  | _, [] => 0
  | offset, c :: cs =>
    if offset = 0 then 0
    else (if c = '\n' then 1 else 0) + newlinesBefore (offset - c.utf8Size) cs

variable {c : Char} {cs l u : List Char}

theorem crlf_append (cs ds : List Char) : crlf (cs ++ ds) = crlf cs ++ crlf ds :=
  List.flatMap_append

theorem crlf_cons_of_ne (h : c ≠ '\n') (cs : List Char) : crlf (c :: cs) = c :: crlf cs := by
  rw [crlf, List.flatMap_cons, if_neg h]
  rfl

theorem crlf_newline (cs : List Char) : crlf ('\n' :: cs) = '\r' :: '\n' :: crlf cs := rfl

theorem crlf_of_not_mem (h : '\n' ∉ l) : crlf l = l := by
  induction l with
  | nil => rfl
  | cons c l ih =>
    rw [List.mem_cons, not_or] at h
    rw [crlf_cons_of_ne (Ne.symm h.1), ih h.2]

/-- **The lines are the same up to the returns.** -/
theorem lines_crlf (cs : List Char) : lines (crlf cs) = (lines cs).map crlf := by
  induction cs with
  | nil => rfl
  | cons c cs ih =>
    by_cases hc : c = '\n'
    · rw [hc, crlf_newline, lines, if_neg (by decide), lines, if_pos rfl, ih, lines, if_pos rfl]
      rfl
    · rw [crlf_cons_of_ne hc, lines, if_neg hc, ih, lines, if_neg hc]
      cases lines cs with
      | nil => rw [List.map_nil, List.map_singleton, crlf_cons_of_ne hc]; rfl
      | cons l ls => rw [List.map_cons, List.map_cons, crlf_cons_of_ne hc]

/-- Each newline makes the text longer by one byte. -/
theorem byteLength_crlf (cs : List Char) : byteLength (crlf cs) = byteLength cs + cs.count '\n' := by
  induction cs with
  | nil => rfl
  | cons c cs ih =>
    by_cases hc : c = '\n'
    · subst hc
      have hreturn : '\r'.utf8Size = 1 := rfl
      rw [crlf_newline, byteLength_cons, byteLength_cons, byteLength_cons, ih, List.count_cons_self,
        hreturn]
      omega
    · rw [crlf_cons_of_ne hc, byteLength_cons, byteLength_cons, ih, List.count_cons_of_ne hc,
        Nat.add_assoc]

theorem newlinesBefore_append (u v : List Char) :
    newlinesBefore (byteLength u) (u ++ v) = u.count '\n' := by
  induction u with
  | nil => cases v <;> rfl
  | cons c u ih =>
    have hsize := c.utf8Size_pos
    rw [List.cons_append, newlinesBefore, byteLength_cons, if_neg (by omega), Nat.add_sub_cancel_left,
      ih, List.count_cons, Nat.add_comm]
    simp

theorem newlinesBefore_le (offset : Nat) (cs : List Char) :
    newlinesBefore offset cs ≤ cs.count '\n' := by
  induction cs generalizing offset with
  | nil => exact Nat.le_refl 0
  | cons c cs ih =>
    rw [newlinesBefore]
    split
    · exact Nat.zero_le _
    · have hrest := ih (offset - c.utf8Size)
      rw [List.count_cons]
      simp only [beq_iff_eq]
      omega

/-- **The end of a line is dropped with the return in it.** -/
theorem dropEnd_crlf (h : l ∈ lines cs) :
    dropEnd Entry.isLineEnd (crlf l) = dropEnd Entry.isLineEnd l := by
  rcases of_mem_lines h with hl | ⟨body, hbody, rfl⟩
  · rw [crlf_of_not_mem hl]
  · rw [crlf_append, crlf_of_not_mem hbody, crlf_newline, dropEnd_append_of_all _ _ (by decide),
      dropEnd_append_of_all _ _ (by decide)]

end Text

open Text

variable {cs : List Char} {ls : List (List Char)} {entries : List Entry} {e : Error} {file : String}

/-! ### Where entries lie -/

/-- The newlines before a position in a text. -/
def Position.newlines (text : List Char) (p : Position) : Nat :=
  newlinesBefore p.offset.toNat text

/-- The entry with its position among the returns. -/
def Entry.inCrlf (text : List Char) : Entry → Entry
  | ifRule rule => .ifRule (rule.moved (rule.position.newlines text))
  | letRule rule => .letRule (rule.moved (rule.position.newlines text))
  | breakOn pattern => .breakOn pattern
  | define definition => .define definition

theorem Entry.moved_eq_inCrlf {text : List Char} {entry : Entry} {p : Position}
    (h : ∀ q ∈ entry.position?, q = p) : entry.moved (p.newlines text) = entry.inCrlf text := by
  cases entry with
  | ifRule rule => rw [Entry.moved, Entry.inCrlf, h rule.position rfl]
  | letRule rule => rw [Entry.moved, Entry.inCrlf, h rule.position rfl]
  | breakOn | define => rfl

/-- What a text is read as, with the positions among the returns. -/
def inCrlf (text : List Char) : Except Error (List Entry) → Except Error (List Entry)
  | .error e => .error (e.moved (e.position.newlines text))
  | .ok entries => .ok (entries.map (Entry.inCrlf text))

/-- **Lines with returns are read as the same entries**, each moved by the newlines before its line. -/
theorem ofLines_crlf [Regex.Engine] (file : String) (u : List Char) (hls : ∀ l ∈ ls,
      dropEnd Entry.isLineEnd (crlf l) = dropEnd Entry.isLineEnd l)
    (hsize : byteLength (u ++ ls.flatten) < 2 ^ 32) :
    Entry.ofLines file (byteLength (crlf u)) (ls.map crlf) =
      inCrlf (u ++ ls.flatten) (Entry.ofLines file (byteLength u) ls) := by
  induction ls generalizing u with
  | nil => rfl
  | cons l ls ih =>
    rw [List.forall_mem_cons] at hls
    have hrest := ih (u ++ l) hls.2 (by rwa [List.append_assoc])
    rw [crlf_append, byteLength_append, byteLength_append, List.append_assoc,
      ← List.flatten_cons] at hrest
    have hstart : byteLength u < 2 ^ 32 := by
      rw [byteLength_append] at hsize
      omega
    have hnewlines : Position.newlines (u ++ (l :: ls).flatten) ⟨UInt32.ofNat (byteLength u), file⟩
        = u.count '\n' := by
      rw [Position.newlines, UInt32.toNat_ofNat_of_lt' hstart, newlinesBefore_append]
    simp only [List.map_cons, Entry.ofLines, hls.1, hrest]
    rw [byteLength_crlf u, ← Position.moved_ofNat, ← hnewlines, ofLine_moved]
    cases hline : Entry.ofLine ⟨UInt32.ofNat (byteLength u), file⟩ (dropEnd Entry.isLineEnd l) with
    | error fault => rfl
    | ok entry =>
      have hentry : entry.map (Entry.moved (Position.newlines (u ++ (l :: ls).flatten)
          ⟨UInt32.ofNat (byteLength u), file⟩)) =
          entry.map (Entry.inCrlf (u ++ (l :: ls).flatten)) := by
        cases entry with
        | none => rfl
        | some entry =>
          exact congrArg some (Entry.moved_eq_inCrlf fun q hq => position_of_ofLine hline hq)
      cases Entry.ofLines file (byteLength u + byteLength l) ls with
      | error e => rfl
      | ok entries =>
        simp only [Except.map, inCrlf, hentry, List.map_append]
        cases entry <;> rfl

/-- The entries of a text with returns. -/
theorem ofLines_lines_crlf [Regex.Engine] (file : String) (hsize : byteLength cs < 2 ^ 32) :
    Entry.ofLines file 0 (lines (crlf cs)) = inCrlf cs (Entry.ofLines file 0 (lines cs)) := by
  have hall := ofLines_crlf file [] (fun l hl => dropEnd_crlf hl) (by simpa using hsize)
  rwa [List.nil_append, flatten_lines, ← lines_crlf] at hall

/-! ### Specifications -/

theorem collect_inCrlf (text : List Char) (entries : List Entry) :
    Specification.collect (entries.map (Entry.inCrlf text)) =
      { Specification.collect entries with
        ifRules := (Specification.collect entries).ifRules.map fun rule =>
          rule.moved (rule.position.newlines text)
        letRules := (Specification.collect entries).letRules.map fun rule =>
          rule.moved (rule.position.newlines text) } := by
  simp only [Specification.collect, List.filterMap_map, List.map_filterMap,
    Specification.mk.injEq]
  refine ⟨?_, ?_, ?_, ?_⟩
  · exact List.filterMap_congr fun entry _ => by cases entry <;> rfl
  · exact List.filterMap_congr fun entry _ => by cases entry <;> rfl
  · congr 2
    exact List.filterMap_congr fun entry _ => by cases entry <;> rfl
  · exact List.filterMap_congr fun entry _ => by cases entry <;> rfl

/-- A position is moved by the newlines before it if the whole text stays below the limit. -/
theorem toNat_moved_newlines {p : Position} (h : p.offset.toNat + cs.count '\n' < 2 ^ 32) :
    (p.moved (p.newlines cs)).offset.toNat = p.offset.toNat + p.newlines cs := by
  have hle : p.newlines cs ≤ cs.count '\n' := newlinesBefore_le _ _
  exact Position.toNat_moved (by omega)

/-- **It does not matter how lines end.**  A text with a return before every newline is read as the
text is, with the positions farther on by the newlines before them. -/
theorem read_crlf [Regex.Engine] (file : String) (text : String)
    (hsize : (String.ofList (crlf text.toList)).utf8ByteSize < 2 ^ 32) :
    -- a fault
    (∀ e, Specification.read text file = .error e →
      Specification.read (String.ofList (crlf text.toList)) file
          = .error (e.moved (e.position.newlines text.toList)) ∧
        (e.moved (e.position.newlines text.toList)).position.offset.toNat
          = e.position.offset.toNat + e.position.newlines text.toList) ∧
    -- no fault
    (∀ s, Specification.read text file = .ok s →
      Specification.read (String.ofList (crlf text.toList)) file = .ok
          { s with
            ifRules := s.ifRules.map fun rule => rule.moved (rule.position.newlines text.toList)
            letRules := s.letRules.map fun rule =>
              rule.moved (rule.position.newlines text.toList) } ∧
        (∀ rule ∈ s.ifRules, (rule.moved (rule.position.newlines text.toList)).position.offset.toNat
          = rule.position.offset.toNat + rule.position.newlines text.toList) ∧
        ∀ rule ∈ s.letRules, (rule.moved (rule.position.newlines text.toList)).position.offset.toNat
          = rule.position.offset.toNat + rule.position.newlines text.toList) := by
  rw [← byteLength_toList, String.toList_ofList, byteLength_crlf, byteLength_toList,
    Nat.add_comm] at hsize
  have hshort : byteLength text.toList < 2 ^ 32 := by
    rw [byteLength_toList]
    omega
  have hlines := ofLines_lines_crlf file hshort
  refine ⟨fun e he => ?_, fun s hs => ?_⟩
  · refine ⟨read_eq_error.2 ?_, toNat_moved_newlines (offset_add_lt_of_error hsize he)⟩
    rw [String.toList_ofList, hlines, read_eq_error.1 he]
    rfl
  · obtain ⟨hif, hlet⟩ := offset_add_lt_of_ok hsize hs
    refine ⟨?_, fun rule hrule => toNat_moved_newlines (hif rule hrule),
      fun rule hrule => toNat_moved_newlines (hlet rule hrule)⟩
    obtain ⟨entries, hentries, rfl⟩ := read_eq_ok.1 hs
    refine read_eq_ok.2 ⟨entries.map (Entry.inCrlf text.toList), ?_, collect_inCrlf _ _⟩
    rw [String.toList_ofList, hlines, hentries]
    rfl

/-- A text that has returns in several places already, and one with a line that cannot be read. -/
theorem read_crlf_mixed :
    Specification.read (String.ofList (crlf "if x\r then #t\r\n~ y\n\nlet z be #u\n".toList)) "mixed"
      = .ok
        { ifRules := [⟨"x", "#t", ⟨0, "mixed"⟩⟩], letRules := [⟨"z", .be, "#u", ⟨23, "mixed"⟩⟩] } ∧
    Specification.read (String.ofList (crlf "\n~ é\nlet z\r\n".toList)) "mixed"
      = .error ⟨.unrecognisedLine "let z", ⟨8, "mixed"⟩⟩ := by
  have hs : Specification.read "if x\r then #t\r\n~ y\n\nlet z be #u\n" "mixed" = .ok
      { ifRules := [⟨"x", "#t", ⟨0, "mixed"⟩⟩], letRules := [⟨"z", .be, "#u", ⟨20, "mixed"⟩⟩] } := by
    cbv
  have he : Specification.read "\n~ é\nlet z\r\n" "mixed" =
      .error ⟨.unrecognisedLine "let z", ⟨6, "mixed"⟩⟩ := by cbv
  exact ⟨((read_crlf "mixed" _ (by decide)).2 _ hs).1, ((read_crlf "mixed" _ (by decide)).1 _ he).1⟩

end RuleLexer
