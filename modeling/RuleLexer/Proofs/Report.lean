import RuleLexer.Proofs.Errors
import RuleLexer.Proofs.Text.LineAt
import RuleLexer.Report

/-!
# What reports show

The last two rows of a report are a line of the text behind its number, without the spaces before and
the blanks behind it (`shownLine`), and a caret under one of its columns (`PointsAt`).

* `error_points_at_its_line`: **an error of reading or compiling a specification is shown with the
  line that it lies in**, the caret in the first column.  This is the line that cannot be read, or the
  one that declares the rule which cannot be compiled.
* `caret_of_report`: an error at a character within a line is shown with the caret under the column
  that the characters before it in the row have bytes.  **This is the column of the character if they
  are of one byte each, and otherwise a column behind it** (`caret_behind_wide_character`).
-/

namespace RuleLexer

open Text

variable {e : Error} {text file : String} {report : String} {number column : Nat}
  {before after : List (List Char)} {line pre post cs : List Char} {c : Char}

/-! ### Rows -/

/-- A line as it is shown: without the spaces that it begins with and the blanks that it ends with. -/
def shownLine (line : List Char) : List Char :=
  trimEnd (line.dropWhile (· == ' '))

/-- What stands before a line that is shown. -/
def gutter (number : Nat) : List Char :=
  (toString number).toList ++ " | ".toList

/-- The last two rows of the report show a line with its number, and have the caret under one of the
columns of the line. -/
def PointsAt (report : String) (number : Nat) (shown : List Char) (column : Nat) : Prop :=
  ∃ rows pointer, lines report.toList = rows ++ [gutter number ++ shown ++ ['\n'], pointer] ∧
    '^' ∈ pointer ∧ pointer.idxOf '^' = (gutter number).length + column

/-- There is but one row with the caret. -/
theorem PointsAt.unique {shown shown' : List Char} {column' : Nat}
    (h : PointsAt report number shown column) (h' : PointsAt report number shown' column') :
    column = column' := by
  obtain ⟨rows, pointer, hrows, -, hcolumn⟩ := h
  obtain ⟨rows', pointer', hrows', -, hcolumn'⟩ := h'
  have hlast := congrArg List.getLast? (hrows.symm.trans hrows')
  obtain rfl : pointer = pointer' := by simpa using hlast
  exact Nat.add_left_cancel (hcolumn.symm.trans hcolumn')

theorem notMem_gutter {d : Char} (hdigit : d.isDigit = false) (hd : d ∉ " | ".toList) :
    d ∉ gutter number := by
  rw [gutter, List.mem_append, not_or, Nat.toString_eq_repr, Nat.toList_repr]
  refine ⟨fun hmem => ?_, hd⟩
  have hmem := Nat.isDigit_of_mem_toDigits (by decide) (by decide) hmem
  exact absurd (hdigit.symm.trans hmem) Bool.false_ne_true

/-- What stands on the left of a row that has no number. -/
def margin (number : Nat) : List Char :=
  List.replicate ((toString number).length + 1) ' ' ++ ['|']

/-- The row with the caret under a column of the line above. -/
def pointer (number column : Nat) : List Char :=
  margin number ++ ' ' :: List.replicate column '-' ++ ['^']

theorem idxOf_pointer (number column : Nat) :
    (pointer number column ++ ['\n']).idxOf '^' = (gutter number).length + column := by
  have hbefore : '^' ∉ margin number ++ ' ' :: List.replicate column '-' := by simp [margin]
  have hbar : " | ".toList.length = 3 := rfl
  rw [pointer, List.append_assoc, List.idxOf_append, if_neg hbefore, List.singleton_append,
    List.idxOf_cons_self]
  simp only [margin, gutter, List.length_append, List.length_cons, List.length_replicate,
    List.length_nil, String.length_toList, hbar]
  omega

/-- The column of the caret in an excerpt. -/
def Text.Line.caret (l : Text.Line) : Nat :=
  l.offset - (l.text.length - (l.text.dropWhile (· == ' ')).length)

theorem toList_excerpt (l : Text.Line) : l.excerpt.toList = margin l.number ++ '\n' ::
    (gutter l.number ++ shownLine l.text ++ '\n' :: (pointer l.number l.caret ++ ['\n'])) := by
  simp [Text.Line.excerpt, fill, pointer, margin, gutter, shownLine, Text.Line.caret]

/-- **The rows of an excerpt**, behind any rows. -/
theorem pointsAt_excerpt (head : String) (l : Text.Line) (hl : '\n' ∉ shownLine l.text) :
    PointsAt (head ++ l.excerpt) l.number (shownLine l.text) l.caret := by
  have hgutter : '\n' ∉ gutter l.number := notMem_gutter (by decide) (by decide)
  have hpointer : '\n' ∉ pointer l.number l.caret := by simp [pointer, margin]
  have hrow : '\n' ∉ gutter l.number ++ shownLine l.text := by
    rw [List.mem_append, not_or]
    exact ⟨hgutter, hl⟩
  have hhead : EndsLine (head.toList ++ margin l.number ++ ['\n']) := by
    intro c hc
    simpa [eq_comm] using hc
  refine ⟨lines (head.toList ++ margin l.number ++ ['\n']), pointer l.number l.caret ++ ['\n'], ?_,
    by simp [pointer], idxOf_pointer _ _⟩
  rw [String.toList_append, toList_excerpt, ← List.singleton_append, ← List.append_assoc,
    ← List.append_assoc, lines_append hhead, lines_append_newline hrow, lines_append_newline hpointer]
  rfl

/-- A report that finds a line ends in its excerpt. -/
theorem pointsAt_report {l : Text.Line}
    (h : lineAt? text.toList e.position.offset.toNat = some l) (hl : '\n' ∉ shownLine l.text) :
    PointsAt (e.report text) l.number (shownLine l.text) l.caret := by
  rw [Error.report, h]
  exact pointsAt_excerpt _ l hl

/-! ### The line that is shown -/

/-- The spaces that are left out end before the first character that is none. -/
theorem dropSpaces_append (h : ∃ d ∈ pre ++ [c], d ≠ ' ') (post : List Char) :
    (pre ++ c :: post).dropWhile (· == ' ') = pre.dropWhile (· == ' ') ++ c :: post := by
  rw [List.dropWhile_append]
  split
  next hempty =>
    have hnil := List.isEmpty_iff.1 hempty
    obtain ⟨d, hd, hne⟩ := h
    have hc : c ≠ ' ' := by
      rcases List.mem_append.1 hd with hd | hd
      · have hspace := List.dropWhile_eq_nil_iff.1 hnil d hd
        exact absurd (beq_iff_eq.1 hspace) hne
      · exact List.mem_singleton.1 hd ▸ hne
    rw [hnil, List.nil_append, List.dropWhile_cons_of_neg (by simpa using hc)]
  next => rfl

/-- The newline of a line is not shown. -/
theorem newline_notMem_shownLine (h : line ∈ lines cs) : '\n' ∉ shownLine line := by
  rcases of_mem_lines h with hline | ⟨body, hbody, rfl⟩
  · exact fun hmem => hline ((List.dropWhile_sublist _).subset (mem_of_mem_dropEnd hmem))
  · have htrim : shownLine (body ++ ['\n']) = trimEnd (body.dropWhile (· == ' ')) := by
      rw [shownLine, dropSpaces_append ⟨'\n', by simp, by decide⟩]
      exact dropEnd_append_of_all _ _ (by decide)
    rw [htrim]
    exact fun hmem => hbody ((List.dropWhile_sublist _).subset (mem_of_mem_dropEnd hmem))

/-- **A character is shown behind the characters before it**, without the spaces that the line begins
with, if it is neither one of these nor one of the blanks at the end. -/
theorem exists_shownLine_eq (hpre : ∃ d ∈ pre ++ [c], d ≠ ' ')
    (hpost : ∃ d ∈ c :: post, isBlank d = false) :
    ∃ rest, shownLine (pre ++ c :: post) = pre.dropWhile (· == ' ') ++ c :: rest := by
  obtain ⟨rest, hrest⟩ := exists_dropEnd_cons hpost
  refine ⟨rest, ?_⟩
  rw [shownLine, dropSpaces_append hpre]
  exact dropEnd_append_of_eq_cons hrest _

/-- **The caret stands as many columns to the right as there are bytes before the place** in what is
shown of the line. -/
theorem caret_eq (hpre : ∃ d ∈ pre ++ [c], d ≠ ' ') (post : List Char) (number : Nat) :
    Text.Line.caret ⟨number, pre ++ c :: post, byteLength pre⟩ =
      byteLength (pre.dropWhile (· == ' ')) := by
  have hspaces : byteLength (pre.takeWhile (· == ' ')) = (pre.takeWhile (· == ' ')).length := by
    refine byteLength_eq_length_iff.2 fun d hd => ?_
    have hspace := List.mem_takeWhile_imp hd
    rw [beq_iff_eq.1 hspace]
    rfl
  have hlength := congrArg List.length (List.takeWhile_append_dropWhile (p := (· == ' ')) (l := pre))
  have hbytes := congrArg byteLength (List.takeWhile_append_dropWhile (p := (· == ' ')) (l := pre))
  rw [List.length_append] at hlength
  rw [byteLength_append] at hbytes
  simp only [Text.Line.caret, dropSpaces_append hpre, List.length_append, List.length_cons]
  omega

/-! ### Errors of specifications -/

/-- An error is shown with a line, and with the caret in the first column, if this is the line that
begins at its position. -/
theorem pointsAt_of_position (hsize : text.utf8ByteSize < 2 ^ 32)
    (hlines : lines text.toList = before ++ line :: after)
    (hposition : e.position = ⟨UInt32.ofNat (byteLength before.flatten), file⟩) :
    lineAt? text.toList e.position.offset.toNat = some ⟨before.length + 1, line, 0⟩ ∧
      PointsAt (e.report text) (before.length + 1) (shownLine line) 0 := by
  have hmem : line ∈ lines text.toList := hlines ▸ List.mem_append_cons_self
  have hlength := congrArg byteLength (flatten_lines text.toList)
  rw [hlines, List.flatten_append, byteLength_append, byteLength_toList] at hlength
  have hlt : byteLength before.flatten < 2 ^ 32 := by omega
  have hoffset : e.position.offset.toNat = byteLength before.flatten + 0 := by
    rw [hposition]
    exact UInt32.toNat_ofNat_of_lt' hlt
  have hpos : 0 < byteLength line :=
    Nat.lt_of_lt_of_le (List.length_pos_of_ne_nil (ne_nil_of_mem_lines hmem))
      (length_le_byteLength line)
  have hfound := lineAt?_of_lines hlines hpos
  rw [← hoffset] at hfound
  have hpoints := pointsAt_report hfound (newline_notMem_shownLine hmem)
  rw [Text.Line.caret, Nat.zero_sub] at hpoints
  exact ⟨hfound, hpoints⟩

/-- What a rule is on its line. -/
def Source.entry : Source → Entry
  | ifRule rule => .ifRule rule
  | letRule rule => .letRule rule

/-- Every entry is that of a line, where this line begins. -/
theorem exists_line_of_mem_entries [Regex.Engine] {offset : Nat} {ls : List (List Char)}
    {entries : List Entry} (h : Entry.ofLines file offset ls = .ok entries) {entry : Entry}
    (hentry : entry ∈ entries) :
    ∃ (before : List (List Char)) (line : List Char) (after : List (List Char)),
      ls = before ++ line :: after ∧
      Entry.ofLine ⟨UInt32.ofNat (offset + byteLength before.flatten), file⟩
        (dropEnd Entry.isLineEnd line) = .ok (some entry) := by
  induction ls generalizing offset entries with
  | nil =>
    obtain rfl := Except.ok.inj h
    simp at hentry
  | cons first ls ih =>
    rw [Entry.ofLines] at h
    split at h
    next => simp at h
    next outcome hfirst =>
      obtain ⟨rest, hrest, rfl⟩ := exists_of_map_eq_ok h
      rcases List.mem_append.1 hentry with hentry | hentry
      · refine ⟨[], first, ls, rfl, ?_⟩
        rw [List.flatten_nil, byteLength_nil, Nat.add_zero, hfirst, Option.mem_toList.1 hentry]
      · obtain ⟨before, line, after, rfl, hline⟩ := ih hrest hentry
        refine ⟨first :: before, line, after, rfl, ?_⟩
        rwa [List.flatten_cons, byteLength_append, ← Nat.add_assoc]

theorem entry_mem_of_mem_sources {entries : List Entry} {source : Source}
    (h : source ∈ (Specification.collect entries).sources) : source.entry ∈ entries := by
  rw [Specification.sources, List.mem_append, List.mem_map, List.mem_map] at h
  rcases h with ⟨rule, hrule, rfl⟩ | ⟨rule, hrule, rfl⟩
  · obtain ⟨entry, hentry, heq⟩ := List.mem_filterMap.1 hrule
    cases entry with
    | ifRule => exact Option.some.inj heq ▸ hentry
    | _ => simp [Entry.ifRule?] at heq
  · obtain ⟨entry, hentry, heq⟩ := List.mem_filterMap.1 hrule
    cases entry with
    | letRule => exact Option.some.inj heq ▸ hentry
    | _ => simp [Entry.letRule?] at heq

/-- **Every rule of a specification that was read is declared by a line**, and is placed where this
line begins. -/
theorem exists_line_of_mem_sources [Regex.Engine] {spec : Specification}
    (h : Specification.read text file = .ok spec) {source : Source} (hsource : source ∈ spec.sources) :
    ∃ before line after, lines text.toList = before ++ line :: after ∧
      source.position = ⟨UInt32.ofNat (byteLength before.flatten), file⟩ ∧
      Entry.ofLine source.position (dropEnd Entry.isLineEnd line) = .ok (some source.entry) := by
  obtain ⟨entries, hentries, rfl⟩ := read_eq_ok.1 h
  obtain ⟨before, line, after, hlines, hline⟩ :=
    exists_line_of_mem_entries hentries (entry_mem_of_mem_sources hsource)
  rw [Nat.zero_add] at hline
  have hposition : source.position = ⟨UInt32.ofNat (byteLength before.flatten), file⟩ :=
    position_of_ofLine hline (by cases source <;> rfl)
  exact ⟨before, line, after, hlines, hposition, hposition ▸ hline⟩

/-- **An error of reading or compiling a specification is shown with the line that it lies in**, under
the number of this line, and with the caret in its first column.  For an error of reading this is the
first line that cannot be read; for an error of compiling it is the line that declares the first rule
which cannot be compiled. -/
theorem error_points_at_its_line [Regex.Engine] {text : String} (hsize : text.utf8ByteSize < 2 ^ 32)
    (file : String) :
    (∀ e, Specification.read text file = .error e →
      ∃ (before : List (List Char)) (line : List Char) (after : List (List Char)),
        lines text.toList = before ++ line :: after ∧
        (∀ earlier ∈ before, ∃ p entry,
          Entry.ofLine ⟨p, file⟩ (dropEnd Entry.isLineEnd earlier) = .ok entry) ∧
        Entry.ofLine e.position (dropEnd Entry.isLineEnd line) = .error e.fault ∧
        lineAt? text.toList e.position.offset.toNat = some ⟨before.length + 1, line, 0⟩ ∧
        PointsAt (e.report text) (before.length + 1) (shownLine line) 0) ∧
    ∀ spec hosts e, Specification.read text file = .ok spec → spec.scanner hosts = .error e →
      ∃ (before : List (List Char)) (line : List Char) (after : List (List Char)) (source : Source),
        lines text.toList = before ++ line :: after ∧
        (∃ done todo, spec.sources = done ++ source :: todo ∧
          ∀ earlier ∈ done, ∃ outcome, earlier.compile (spec.scope hosts) = .ok outcome) ∧
        source.compile (spec.scope hosts) = .error e.fault ∧
        Entry.ofLine e.position (dropEnd Entry.isLineEnd line) = .ok (some source.entry) ∧
        lineAt? text.toList e.position.offset.toNat = some ⟨before.length + 1, line, 0⟩ ∧
        PointsAt (e.report text) (before.length + 1) (shownLine line) 0 := by
  constructor
  · intro e he
    obtain ⟨before, line, after, hlines, hbefore, hline, hposition⟩ :=
      Specification.exists_line_of_ofLines_error (read_eq_error.1 he)
    rw [Nat.zero_add] at hposition
    exact ⟨before, line, after, hlines, hbefore, hline, pointsAt_of_position hsize hlines hposition⟩
  · intro spec hosts e hspec he
    obtain ⟨done, source, todo, hsources, hdone, hsource, heq⟩ :=
      Specification.scanner_eq_error.1 he
    have hmem : source ∈ spec.sources := hsources ▸ List.mem_append_cons_self
    obtain ⟨before, line, after, hlines, hposition, hline⟩ := exists_line_of_mem_sources hspec hmem
    rw [← heq] at hposition hline
    exact ⟨before, line, after, source, hlines, ⟨done, todo, hsources, hdone⟩, hsource, hline,
      pointsAt_of_position hsize hlines hposition⟩

/-- A text whose third line cannot be read, and one whose second line declares a rule that cannot be
compiled. -/
theorem error_points_at_its_line_samples :
    (∃ e, Specification.read "~ é\r\n\n  let z\r\nif x" "sample" = .error e ∧
      PointsAt (e.report "~ é\r\n\n  let z\r\nif x") 3 "let z".toList 0) ∧
    ∃ spec e, Specification.read "~ é\nif 'a' then b" "sample" = .ok spec ∧
      spec.scanner {} = .error e ∧
      PointsAt (e.report "~ é\nif 'a' then b") 2 "if 'a' then b".toList 0 := by
  have hread : Specification.read "~ é\r\n\n  let z\r\nif x" "sample" =
      .error ⟨.unrecognisedLine "  let z", ⟨7, "sample"⟩⟩ := by cbv
  have hspec : Specification.read "~ é\nif 'a' then b" "sample" =
      .ok { ifRules := [⟨"'a'", "b", ⟨5, "sample"⟩⟩] } := by cbv
  have hscanner : ({ ifRules := [⟨"'a'", "b", ⟨5, "sample"⟩⟩] } : Specification).scanner {} =
      .error ⟨.unexpectedToken "b" "not allowed in an action", ⟨5, "sample"⟩⟩ := by cbv
  constructor
  · refine ⟨_, hread, ?_⟩
    obtain ⟨before, line, _, _, _, _, hfound, hpoints⟩ :=
      (error_points_at_its_line (by decide) "sample").1 _ hread
    have hline := Option.some.inj (hfound.symm.trans (by cbv :
      _ = some ⟨3, "  let z\r\n".toList, 0⟩))
    obtain ⟨hnumber, rfl, -⟩ := Line.mk.inj hline
    rwa [hnumber] at hpoints
  · refine ⟨_, _, hspec, hscanner, ?_⟩
    obtain ⟨before, line, _, _, _, _, _, _, hfound, hpoints⟩ :=
      (error_points_at_its_line (by decide) "sample").2 _ _ _ hspec hscanner
    have hline := Option.some.inj (hfound.symm.trans (by cbv :
      _ = some ⟨2, "if 'a' then b".toList, 0⟩))
    obtain ⟨hnumber, rfl, -⟩ := Line.mk.inj hline
    rwa [hnumber] at hpoints

/-! ### Errors within a line -/

/-- **The caret under a character of a line**, which is neither one of the spaces that the line begins
with nor one of the blanks that it ends with.  The row shows the character behind those before it, and
the caret stands as many columns to the right as these have bytes: under the character if each of them
has one byte, and farther to the right otherwise. -/
theorem caret_of_report (e : Error) {source : String} {u v : List Char} {c : Char}
    (hsource : source.toList = u ++ c :: v) (hposition : e.position.offset.toNat = byteLength u)
    (hspaces : ∃ d ∈ behindNewline u ++ [c], d ≠ ' ')
    (hblanks : ∃ d ∈ throughNewline (c :: v), isBlank d = false) :
    let shown := (behindNewline u).dropWhile (· == ' ')
    (∃ rest, shownLine (behindNewline u ++ throughNewline (c :: v)) = shown ++ c :: rest ∧
      PointsAt (e.report source) (u.count '\n' + 1) (shown ++ c :: rest) (byteLength shown)) ∧
    shown.length ≤ byteLength shown ∧
    (byteLength shown = shown.length ↔ ∀ d ∈ shown, d.utf8Size = 1) := by
  refine ⟨?_, length_le_byteLength _, byteLength_eq_length_iff⟩
  obtain ⟨before, after, hlines, hnumber, hoffset⟩ := exists_lines_eq_append u c v
  obtain ⟨post, hpost⟩ := exists_throughNewline_cons c v
  rw [hpost] at hlines hblanks ⊢
  obtain ⟨rest, hshown⟩ := exists_shownLine_eq hspaces hblanks
  refine ⟨rest, hshown, ?_⟩
  have hlt : byteLength (behindNewline u) < byteLength (behindNewline u ++ c :: post) := by
    have hsize := c.utf8Size_pos
    rw [byteLength_append, byteLength_cons]
    omega
  have hmem : behindNewline u ++ c :: post ∈ lines (u ++ c :: v) :=
    hlines ▸ List.mem_append_cons_self
  have hfound := lineAt?_of_lines hlines hlt
  rw [hoffset, ← hposition, ← hsource, hnumber] at hfound
  have hpoints := pointsAt_report hfound (newline_notMem_shownLine hmem)
  rwa [caret_eq hspaces, hshown] at hpoints

/-- The spaces of the margin are no columns; the tab behind them is one. -/
theorem caret_of_report_indented :
    PointsAt ((⟨.thrown "no", ⟨7, "sample"⟩⟩ : Error).report "é\n  \tb, d \n") 2
      "\tb, d".toList 2 := by
  have hsource : "é\n  \tb, d \n".toList = "é\n  \tb".toList ++ ',' :: " d \n".toList := by decide
  obtain ⟨⟨rest, hshown, hpoints⟩, -⟩ :=
    caret_of_report ⟨.thrown "no", ⟨7, "sample"⟩⟩ hsource (by decide) ⟨'b', by decide, by decide⟩
      ⟨',', by decide, by decide⟩
  rw [← hshown] at hpoints
  have hrow : shownLine (behindNewline "é\n  \tb".toList ++ throughNewline (',' :: " d \n".toList)) =
      "\tb, d".toList := by decide
  have hcolumn : byteLength ((behindNewline "é\n  \tb".toList).dropWhile (· == ' ')) = 2 := by decide
  rwa [hrow, hcolumn] at hpoints

/-- Behind a character of two bytes the caret stands one column too far to the right. -/
theorem caret_behind_wide_character :
    "é,".toList = ['é'] ++ ',' :: [] ∧ byteLength ['é'] = 2 ∧
    PointsAt ((⟨.thrown "no", ⟨2, "sample"⟩⟩ : Error).report "é,") 1 (['é'] ++ ',' :: []) 2 ∧
    ¬PointsAt ((⟨.thrown "no", ⟨2, "sample"⟩⟩ : Error).report "é,") 1 (['é'] ++ ',' :: [])
      ['é'].length := by
  have hfound : lineAt? "é,".toList 2 = some ⟨1, "é,".toList, 2⟩ := by decide
  have hpoints := pointsAt_report (e := ⟨.thrown "no", ⟨2, "sample"⟩⟩) hfound (by decide)
  have hrow : shownLine "é,".toList = ['é'] ++ ',' :: [] := by decide
  have hcolumn : Text.Line.caret ⟨1, "é,".toList, 2⟩ = 2 := by decide
  rw [hrow, hcolumn] at hpoints
  exact ⟨rfl, by decide, hpoints, fun h => absurd (hpoints.unique h) (by decide)⟩

end RuleLexer
