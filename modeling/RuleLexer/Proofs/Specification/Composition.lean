import RuleLexer.Proofs.Specification.Printing

/-!
# Texts of specifications one after the other

What is read from two texts that stand one after the other, where the first is empty or ends in a
newline.  `read_append` says it in full:

* the first fault ends the reading, be it in the first text or, farther on, in the second;
* if both can be read, the rules and the definitions of the second follow those of the first, and
  the break pattern is that of the second if it has one;
* hence a line that cannot be read spoils any text, and lines that say nothing only move what stands
  behind them (`SameButPositions`).

What is behind a text lies farther on by its bytes; positions are `moved` accordingly.  The proof is
on entries: the lines of both texts are the lines of each (`Text.lines_append`), reading lines goes
on where it stopped (`ofLines_append`), and where a line stands matters for positions only
(`ofLines_moved`).
-/

namespace RuleLexer

open Text

/-! ### Moving positions -/

/-- The position that lies `n` bytes farther on. -/
def Position.moved (n : Nat) (p : Position) : Position :=
  { p with offset := p.offset + UInt32.ofNat n }

def Error.moved (n : Nat) (e : Error) : Error :=
  { e with position := e.position.moved n }

def IfRule.moved (n : Nat) (r : IfRule) : IfRule :=
  { r with position := r.position.moved n }

def LetRule.moved (n : Nat) (r : LetRule) : LetRule :=
  { r with position := r.position.moved n }

def Entry.moved (n : Nat) : Entry → Entry
  | ifRule rule => .ifRule (rule.moved n)
  | letRule rule => .letRule (rule.moved n)
  | breakOn pattern => .breakOn pattern
  | define definition => .define definition

/-- Where a rule was read; other entries do not tell. -/
def Entry.position? : Entry → Option Position
  | ifRule rule => some rule.position
  | letRule rule => some rule.position
  | _ => none

theorem Position.moved_ofNat (n offset : Nat) (file : String) :
    Position.moved n ⟨UInt32.ofNat offset, file⟩ = ⟨UInt32.ofNat (offset + n), file⟩ := by
  rw [Position.moved, UInt32.ofNat_add]

/-- A position that stays below the limit is moved by just that many bytes. -/
theorem Position.toNat_moved {n : Nat} {p : Position} (h : p.offset.toNat + n < 2 ^ 32) :
    (p.moved n).offset.toNat = p.offset.toNat + n := by
  have hn : n < 2 ^ 32 := by omega
  rw [Position.moved, UInt32.toNat_add, UInt32.toNat_ofNat_of_lt' hn, Nat.mod_eq_of_lt h]

/-! ### Reading lines -/

variable {a b m line rest : List Char} {ls : List (List Char)} {entries : List Entry} {e : Error}
  {file : String} {offset n : Nat}

/-- **Reading goes on where it stopped**, unless it stopped at a fault. -/
theorem ofLines_append [Regex.Engine] (file : String) (offset : Nat) (ls ls' : List (List Char)) :
    Entry.ofLines file offset (ls ++ ls') =
      (Entry.ofLines file offset ls).bind fun entries =>
        (Entry.ofLines file (offset + byteLength ls.flatten) ls').map (entries ++ ·) := by
  induction ls generalizing offset with
  | nil =>
    rw [List.nil_append, List.flatten_nil, byteLength_nil, Nat.add_zero]
    cases h : Entry.ofLines file offset ls' <;> simp [Entry.ofLines, Except.bind, Except.map]
  | cons l ls ih =>
    rw [List.cons_append, Entry.ofLines, Entry.ofLines]
    cases Entry.ofLine ⟨UInt32.ofNat offset, file⟩ (dropEnd Entry.isLineEnd l) with
    | error fault => rfl
    | ok entry =>
      simp only [ih, List.flatten_cons, byteLength_append, ← Nat.add_assoc]
      cases Entry.ofLines file (offset + byteLength l) ls with
      | error e => rfl
      | ok entries =>
        cases hrest : Entry.ofLines file (offset + byteLength l + byteLength ls.flatten) ls' <;>
          simp [Except.bind, Except.map]

/-- What a line says does not depend on where it stands. -/
theorem ofLine_moved [Regex.Engine] (n : Nat) (p : Position) (line : List Char) :
    Entry.ofLine (p.moved n) line = (Entry.ofLine p line).map (·.map (Entry.moved n)) := by
  rw [Entry.ofLine, Entry.ofLine]
  split
  next => rfl
  next =>
    cases Form.read? line with
    | none => rfl
    | some form =>
      cases form with
      | ifRule test action => rfl
      | letRule test kind action => rfl
      | breakOn literal =>
        simp only [Entry.ofForm]
        cases Pattern.read (String.ofList literal) <;> rfl
      | define name value => rfl

/-- What moved lines are read as. -/
def movedBy (n : Nat) : Except Error (List Entry) → Except Error (List Entry)
  | .error e => .error (e.moved n)
  | .ok entries => .ok (entries.map (Entry.moved n))

/-- **Lines that stand farther on are read as the same entries, moved.** -/
theorem ofLines_moved [Regex.Engine] (file : String) (n offset : Nat) (ls : List (List Char)) :
    Entry.ofLines file (offset + n) ls = movedBy n (Entry.ofLines file offset ls) := by
  induction ls generalizing offset with
  | nil => rfl
  | cons l ls ih =>
    have hrest : Entry.ofLines file (offset + n + byteLength l) ls
        = movedBy n (Entry.ofLines file (offset + byteLength l) ls) := by
      rw [Nat.add_right_comm, ih]
    simp only [Entry.ofLines, ← Position.moved_ofNat n offset file, ofLine_moved, hrest]
    cases Entry.ofLine ⟨UInt32.ofNat offset, file⟩ (dropEnd Entry.isLineEnd l) with
    | error fault => rfl
    | ok entry =>
      cases Entry.ofLines file (offset + byteLength l) ls with
      | error e => rfl
      | ok entries => cases entry <;> rfl

/-- An entry is where its line stands. -/
theorem position_of_ofLine [Regex.Engine] {p q : Position} {entry : Entry}
    (h : Entry.ofLine p line = .ok (some entry)) (hq : q ∈ entry.position?) : q = p := by
  rw [Entry.ofLine] at h
  split at h
  next => simp at h
  next =>
    split at h
    next => simp at h
    next form _ =>
      cases form with
      | ifRule test action =>
        obtain rfl := Option.some.inj (Except.ok.inj h)
        exact (Option.some.inj hq).symm
      | letRule test kind action =>
        obtain rfl := Option.some.inj (Except.ok.inj h)
        exact (Option.some.inj hq).symm
      | breakOn literal =>
        simp only [Entry.ofForm] at h
        split at h
        next =>
          obtain rfl := Option.some.inj (Except.ok.inj h)
          simp [Entry.position?] at hq
        next => simp [Except.map] at h
      | define name value =>
        obtain rfl := Option.some.inj (Except.ok.inj h)
        simp [Entry.position?] at hq

/-- The positions that a reading tells: that of its fault, or those of its rules. -/
def positions : Except Error (List Entry) → List Position
  | .error e => [e.position]
  | .ok entries => entries.filterMap Entry.position?

/-- Positions lie within the lines that are read. -/
theorem offset_le_of_mem_positions [Regex.Engine] {p : Position}
    (h : p ∈ positions (Entry.ofLines file offset ls)) :
    p.offset.toNat ≤ offset + byteLength ls.flatten := by
  induction ls generalizing offset with
  | nil => simp [Entry.ofLines, positions] at h
  | cons l ls ih =>
    have hle : (UInt32.ofNat offset).toNat ≤ offset + byteLength (l :: ls).flatten := by
      rw [UInt32.toNat_ofNat']
      exact (Nat.mod_le _ _).trans (Nat.le_add_right _ _)
    have htail : p ∈ positions (Entry.ofLines file (offset + byteLength l) ls) →
        p.offset.toNat ≤ offset + byteLength (l :: ls).flatten := by
      intro hp
      rw [List.flatten_cons, byteLength_append, ← Nat.add_assoc]
      exact ih hp
    simp only [Entry.ofLines] at h
    cases hline : Entry.ofLine ⟨UInt32.ofNat offset, file⟩ (dropEnd Entry.isLineEnd l) with
    | error fault =>
      rw [hline] at h
      rw [List.mem_singleton.1 h]
      exact hle
    | ok entry =>
      rw [hline] at h
      cases hrest : Entry.ofLines file (offset + byteLength l) ls with
      | error e =>
        rw [hrest] at h htail
        exact htail h
      | ok entries =>
        rw [hrest] at h htail
        obtain ⟨first, hfirst, hp⟩ := List.mem_filterMap.1 h
        rcases List.mem_append.1 hfirst with hfirst | hfirst
        · obtain rfl := Option.mem_toList.1 hfirst
          rw [position_of_ofLine hline hp]
          exact hle
        · exact htail (List.mem_filterMap.2 ⟨first, hfirst, hp⟩)

/-! ### Lines that say nothing -/

/-- All lines of the text are blank or comments. -/
def IsSilentText (cs : List Char) : Prop :=
  ∀ line ∈ lines cs, line.head? = some '~' ∨ ∀ c ∈ line, isBlank c = true

theorem isSilent_dropEnd (h : line.head? = some '~' ∨ ∀ c ∈ line, isBlank c = true) :
    Entry.isSilent (dropEnd Entry.isLineEnd line) = true := by
  rw [Entry.isSilent, Bool.or_eq_true]
  rcases h with h | h
  · obtain ⟨cs, rfl⟩ : ∃ cs, line = '~' :: cs := by
      cases line with
      | nil => simp at h
      | cons c cs => exact ⟨cs, by rw [Option.some.inj h]⟩
    left
    rw [dropEnd]
    split <;> rfl
  · right
    rw [List.all_eq_true]
    exact fun c hc => h c (mem_of_mem_dropEnd hc)

theorem ofLines_silent [Regex.Engine]
    (h : ∀ line ∈ ls, line.head? = some '~' ∨ ∀ c ∈ line, isBlank c = true)
    (file : String) (offset : Nat) : Entry.ofLines file offset ls = .ok [] := by
  induction ls generalizing offset with
  | nil => rfl
  | cons l ls ih =>
    rw [List.forall_mem_cons] at h
    simp only [Entry.ofLines, Entry.ofLine, isSilent_dropEnd h.1, if_true, ih h.2]
    rfl

/-- A line that says nothing has no form. -/
theorem read?_of_isSilent (h : Entry.isSilent line = true) : Form.read? line = none := by
  have hnone : ∀ e ∈ Form.keywords, Form.dropWord? e.1.toList (trimStart line) = none := by
    intro e he
    obtain ⟨hne, hlower⟩ := Form.isKeyword_of_mem_keywords e he
    obtain ⟨w, ws, hw⟩ := List.exists_cons_of_ne_nil hne
    rw [hw]
    rw [Entry.isSilent, Bool.or_eq_true] at h
    rcases h with h | h
    · cases line with
      | nil => simp at h
      | cons c cs =>
        obtain rfl : c = '~' := by simpa using h
        rw [trimStart_of_startsSolid (startsSolid_cons.2 rfl), Form.dropWord?, if_neg]
        rintro rfl
        have htilde := hlower _ (hw ▸ List.mem_cons_self)
        exact absurd htilde (by decide)
    · have htrim : trimStart line = [] := List.dropWhile_eq_nil_iff.2 (List.all_eq_true.1 h)
      rw [htrim, Form.dropWord?]
  rw [Form.read?, List.findSome?_eq_none_iff]
  intro e he
  show (Form.dropWord? e.1.toList (trimStart line)).bind e.2 = none
  rw [hnone e he, Option.bind_none]

/-! ### Lines with a break pattern -/

/-- The line has the form of a break pattern. -/
def IsBreakLine (line : List Char) : Prop :=
  ∃ literal, Form.read? (dropEnd Entry.isLineEnd line) = some (.breakOn literal)

theorem isSome_breakPattern?_iff [Regex.Engine] {p : Position} {entry : Option Entry}
    (h : Entry.ofLine p (dropEnd Entry.isLineEnd line) = .ok entry) :
    (entry.bind Entry.breakPattern?).isSome = true ↔ IsBreakLine line := by
  rw [Entry.ofLine] at h
  split at h
  next hsilent =>
    obtain rfl := Except.ok.inj h
    simp [IsBreakLine, read?_of_isSilent hsilent]
  next =>
    split at h
    next => simp at h
    next form hform =>
      cases form with
      | breakOn literal =>
        simp only [Entry.ofForm] at h
        split at h
        next =>
          obtain rfl := Except.ok.inj h
          simp [IsBreakLine, hform, Entry.breakPattern?]
        next => simp [Except.map] at h
      | ifRule | letRule | define =>
        obtain rfl := Except.ok.inj h
        simp [IsBreakLine, hform, Entry.breakPattern?]

theorem breakPatterns_ne_nil_iff [Regex.Engine] (h : Entry.ofLines file offset ls = .ok entries) :
    entries.filterMap Entry.breakPattern? ≠ [] ↔ ∃ line ∈ ls, IsBreakLine line := by
  induction ls generalizing offset entries with
  | nil =>
    obtain rfl := Except.ok.inj h
    simp
  | cons l ls ih =>
    rw [Entry.ofLines] at h
    split at h
    next => simp at h
    next entry hline =>
      cases hrest : Entry.ofLines file (offset + byteLength l) ls with
      | error e => simp [hrest, Except.map] at h
      | ok rest =>
        rw [hrest] at h
        obtain rfl := Except.ok.inj h
        have hfirst : entry.toList.filterMap Entry.breakPattern? ≠ [] ↔ IsBreakLine l := by
          rw [← isSome_breakPattern?_iff hline]
          cases entry with
          | none => simp
          | some entry => cases h : entry.breakPattern? <;> simp [h]
        rw [List.exists_mem_cons_iff, ← hfirst, ← ih hrest, List.filterMap_append, ne_eq,
          List.append_eq_nil_iff, not_and_or]

/-! ### Two texts -/

/-- The lines of two texts are read as the entries of the first and, farther on, those of the
second. -/
theorem ofLines_lines_append [Regex.Engine] (file : String) (ha : EndsLine a) (b : List Char) :
    Entry.ofLines file 0 (lines (a ++ b)) =
      (Entry.ofLines file 0 (lines a)).bind fun entries =>
        (movedBy (byteLength a) (Entry.ofLines file 0 (lines b))).map (entries ++ ·) := by
  rw [lines_append ha, ofLines_append, flatten_lines, ofLines_moved]

/-- How a specification `r` is made up of what is read from a text of `n` bytes and what is read
from the text `b` behind it. -/
structure Specification.IsAppend (n : Nat) (b : List Char) (s t r : Specification) : Prop where
  ifRules : r.ifRules = s.ifRules ++ t.ifRules.map (IfRule.moved n)
  letRules : r.letRules = s.letRules ++ t.letRules.map (LetRule.moved n)
  definitions : r.definitions = s.definitions ++ t.definitions
  breakPattern : (∃ line ∈ lines b, IsBreakLine line) → r.breakPattern = t.breakPattern
  otherBreakPattern : (¬ ∃ line ∈ lines b, IsBreakLine line) → r.breakPattern = s.breakPattern

theorem filterMap_moved (n : Nat) (entries : List Entry) :
    (entries.map (Entry.moved n)).filterMap Entry.ifRule?
        = (entries.filterMap Entry.ifRule?).map (IfRule.moved n) ∧
      (entries.map (Entry.moved n)).filterMap Entry.letRule?
        = (entries.filterMap Entry.letRule?).map (LetRule.moved n) ∧
      (entries.map (Entry.moved n)).filterMap Entry.definition?
        = entries.filterMap Entry.definition? ∧
      (entries.map (Entry.moved n)).filterMap Entry.breakPattern?
        = entries.filterMap Entry.breakPattern? := by
  simp only [List.filterMap_map, List.map_filterMap]
  refine ⟨?_, ?_, ?_, ?_⟩ <;>
    exact List.filterMap_congr fun entry _ => by cases entry <;> rfl

theorem isAppend_collect [Regex.Engine] {entries' : List Entry} (n : Nat)
    (h : Entry.ofLines file 0 (lines b) = .ok entries') :
    Specification.IsAppend n b (.collect entries) (.collect entries')
      (.collect (entries ++ entries'.map (Entry.moved n))) := by
  obtain ⟨hif, hlet, hdef, hbreak⟩ := filterMap_moved n entries'
  have hpatterns := breakPatterns_ne_nil_iff h
  refine ⟨?_, ?_, ?_, ?_, ?_⟩
  · simp only [Specification.collect, List.filterMap_append, hif]
  · simp only [Specification.collect, List.filterMap_append, hlet]
  · simp only [Specification.collect, List.filterMap_append, hdef]
  · rw [← hpatterns]
    intro hne
    have hlast := List.getLast?_eq_some_getLast hne
    simp only [Specification.collect, List.filterMap_append, hbreak, List.getLast?_append, hlast,
      Option.some_or]
  · rw [← hpatterns, not_not]
    intro hnil
    simp only [Specification.collect, List.filterMap_append, hbreak, hnil, List.append_nil]

theorem read_eq_ok [Regex.Engine] {text : String} {s : Specification} :
    Specification.read text file = .ok s ↔
    ∃ entries, Entry.ofLines file 0 (lines text.toList) = .ok entries ∧ .collect entries = s := by
  rw [Specification.read]
  cases Entry.ofLines file 0 (lines text.toList) <;> simp [Except.map, ofEntries_eq_collect]

theorem read_eq_error [Regex.Engine] {text : String} : Specification.read text file = .error e ↔
    Entry.ofLines file 0 (lines text.toList) = .error e := by
  rw [Specification.read]
  cases Entry.ofLines file 0 (lines text.toList) <;> simp [Except.map]

/-- A text without newlines is read as the entry of its line. -/
theorem read_line_eq_ok [Regex.Engine] {s : Specification} (hn : '\n' ∉ line) :
    Specification.read (String.ofList line) file = .ok s ↔
      ∃ entry, Entry.ofLine ⟨0, file⟩ (dropEnd Entry.isLineEnd line) = .ok entry ∧
        Specification.collect entry.toList = s := by
  rw [read_eq_ok, String.toList_ofList]
  by_cases hne : line = []
  · subst hne
    constructor
    · rintro ⟨entries, hentries, rfl⟩
      obtain rfl := Except.ok.inj hentries
      exact ⟨none, rfl, rfl⟩
    · rintro ⟨entry, hentry, rfl⟩
      obtain rfl := Except.ok.inj hentry
      exact ⟨[], rfl, rfl⟩
  · rw [lines_eq_singleton hn hne]
    constructor
    · rintro ⟨entries, hentries, rfl⟩
      rw [Entry.ofLines] at hentries
      split at hentries
      next => cases hentries
      next entry hline =>
        obtain rfl := Except.ok.inj hentries
        exact ⟨entry, hline, congrArg Specification.collect (List.append_nil _).symm⟩
    · rintro ⟨entry, hentry, rfl⟩
      exact ⟨entry.toList ++ [], ofLines_cons hentry rfl, by rw [List.append_nil]⟩

/-- The fault of the first text is the fault of both. -/
theorem read_append_of_error [Regex.Engine] {a b : String} (ha : EndsLine a.toList)
    (h : Specification.read a file = .error e) : Specification.read (a ++ b) file = .error e := by
  rw [read_eq_error] at h ⊢
  rw [String.toList_append, ofLines_lines_append file ha, h]
  rfl

/-- Behind a text that can be read, another text has the same fault farther on. -/
theorem read_append_of_ok_of_error [Regex.Engine] {a b : String} {s : Specification}
    (ha : EndsLine a.toList) (hs : Specification.read a file = .ok s)
    (h : Specification.read b file = .error e) :
    Specification.read (a ++ b) file = .error (e.moved a.utf8ByteSize) := by
  obtain ⟨entries, hentries, _⟩ := read_eq_ok.1 hs
  rw [read_eq_error] at h ⊢
  rw [String.toList_append, ofLines_lines_append file ha, hentries, h, byteLength_toList]
  rfl

/-- Two texts that can be read make up one specification. -/
theorem read_append_of_ok [Regex.Engine] {a b : String} {s t : Specification}
    (ha : EndsLine a.toList) (hs : Specification.read a file = .ok s)
    (ht : Specification.read b file = .ok t) :
    ∃ r, Specification.read (a ++ b) file = .ok r ∧
      Specification.IsAppend a.utf8ByteSize b.toList s t r := by
  obtain ⟨entries, hentries, rfl⟩ := read_eq_ok.1 hs
  obtain ⟨entries', hentries', rfl⟩ := read_eq_ok.1 ht
  refine ⟨_, read_eq_ok.2 ⟨_, ?_, rfl⟩, isAppend_collect _ hentries'⟩
  rw [String.toList_append, ofLines_lines_append file ha, hentries, hentries', byteLength_toList]
  rfl

/-! ### Positions of what was read -/

theorem offset_add_lt_of_error [Regex.Engine] {b : String} (hsize : n + b.utf8ByteSize < 2 ^ 32)
    (h : Specification.read b file = .error e) : e.position.offset.toNat + n < 2 ^ 32 := by
  have hmem : e.position ∈ positions (Entry.ofLines file 0 (lines b.toList)) := by
    rw [read_eq_error.1 h]
    exact List.mem_singleton_self _
  have hle := offset_le_of_mem_positions hmem
  rw [flatten_lines, byteLength_toList] at hle
  omega

theorem offset_add_lt_of_ok [Regex.Engine] {b : String} {t : Specification}
    (hsize : n + b.utf8ByteSize < 2 ^ 32) (h : Specification.read b file = .ok t) :
    (∀ rule ∈ t.ifRules, rule.position.offset.toNat + n < 2 ^ 32) ∧
      ∀ rule ∈ t.letRules, rule.position.offset.toNat + n < 2 ^ 32 := by
  obtain ⟨entries, hentries, rfl⟩ := read_eq_ok.1 h
  have hlt : ∀ entry ∈ entries, ∀ p ∈ entry.position?, p.offset.toNat + n < 2 ^ 32 := by
    intro entry hentry p hp
    have hmem : p ∈ positions (Entry.ofLines file 0 (lines b.toList)) := by
      rw [hentries]
      exact List.mem_filterMap.2 ⟨entry, hentry, hp⟩
    have hle := offset_le_of_mem_positions hmem
    rw [flatten_lines, byteLength_toList] at hle
    omega
  constructor
  · intro rule hrule
    obtain ⟨entry, hentry, heq⟩ := List.mem_filterMap.1 hrule
    refine hlt entry hentry rule.position ?_
    cases entry <;> simp_all [Entry.ifRule?, Entry.position?]
  · intro rule hrule
    obtain ⟨entry, hentry, heq⟩ := List.mem_filterMap.1 hrule
    refine hlt entry hentry rule.position ?_
    cases entry <;> simp_all [Entry.letRule?, Entry.position?]

/-! ### Lines that spoil a text and lines that do not matter -/

/-- A line that cannot be read spoils the text that it begins. -/
theorem read_append_of_line_error [Regex.Engine] {l rest : String} (hl : '\n' ∉ l.toList)
    (hrest : rest.toList.head? = none ∨ rest.toList.head? = some '\n')
    (h : Specification.read l file = .error e) :
    Specification.read (l ++ rest) file = .error e := by
  have hne : l.toList ≠ [] := by
    intro hnil
    rw [read_eq_error, hnil] at h
    simp [lines, Entry.ofLines] at h
  rw [read_eq_error] at h ⊢
  rw [lines_eq_singleton hl hne] at h
  rw [String.toList_append]
  cases hr : rest.toList with
  | nil => rw [List.append_nil, lines_eq_singleton hl hne, h]
  | cons c cs =>
    obtain rfl : c = '\n' := by simpa [hr] using hrest
    have hcut : dropEnd Entry.isLineEnd (l.toList ++ ['\n']) = dropEnd Entry.isLineEnd l.toList :=
      dropEnd_append_of_all _ _ (by decide)
    rw [lines_append_newline hl]
    rw [Entry.ofLines] at h ⊢
    rw [hcut]
    cases hline : Entry.ofLine ⟨UInt32.ofNat 0, file⟩ (dropEnd Entry.isLineEnd l.toList) with
    | error fault =>
      rw [hline] at h
      exact h
    | ok entry =>
      rw [hline] at h
      simp [Entry.ofLines, Except.map] at h

/-- Two specifications that differ in positions only. -/
structure Specification.SameButPositions (s t : Specification) : Prop where
  ifRules : s.ifRules.map (fun r => (r.test, r.action)) = t.ifRules.map fun r => (r.test, r.action)
  letRules : s.letRules.map (fun r => (r.test, r.kind, r.action))
    = t.letRules.map fun r => (r.test, r.kind, r.action)
  definitions : s.definitions = t.definitions
  breakPattern : s.breakPattern = t.breakPattern

/-- Two readings that differ in positions only: both succeed or both end with the same fault. -/
def SameButPositions : Except Error Specification → Except Error Specification → Prop
  | .ok s, .ok t => s.SameButPositions t
  | .error e, .error f => e.fault = f.fault
  | _, _ => False

theorem sameButPositions_collect (entries entries' : List Entry) (n n' : Nat) :
    Specification.SameButPositions (.collect (entries ++ entries'.map (Entry.moved n)))
      (.collect (entries ++ entries'.map (Entry.moved n'))) := by
  obtain ⟨hif, hlet, hdef, hbreak⟩ := filterMap_moved n entries'
  obtain ⟨hif', hlet', hdef', hbreak'⟩ := filterMap_moved n' entries'
  refine ⟨?_, ?_, ?_, ?_⟩ <;>
    simp only [Specification.collect, List.filterMap_append, hif, hif', hlet, hlet', hdef, hdef',
      hbreak, hbreak', List.map_append, List.map_map, Function.comp_def, IfRule.moved,
      LetRule.moved]

/-- **Lines that say nothing do not matter**, but for where the lines behind them stand. -/
theorem sameButPositions_read_append [Regex.Engine] {a m rest : String} (file : String)
    (ha : EndsLine a.toList) (hm : IsSilentText m.toList) (hend : EndsLine m.toList ∨ rest = "") :
    SameButPositions (Specification.read (a ++ (m ++ rest)) file)
      (Specification.read (a ++ rest) file) := by
  have hmiddle : lines (m ++ rest).toList = lines m.toList ++ lines rest.toList := by
    rcases hend with hend | rfl
    · rw [String.toList_append, lines_append hend]
    · rw [String.append_empty, String.toList_empty, lines, List.append_nil]
  have hall : Entry.ofLines file 0 (lines (a ++ (m ++ rest)).toList) =
      (Entry.ofLines file 0 (lines a.toList)).bind fun entries =>
        (movedBy (a.utf8ByteSize + m.utf8ByteSize)
          (Entry.ofLines file 0 (lines rest.toList))).map (entries ++ ·) := by
    rw [String.toList_append, lines_append ha, hmiddle, ofLines_append, flatten_lines]
    congr 1
    funext entries
    rw [ofLines_append, ofLines_silent hm, flatten_lines, byteLength_toList, byteLength_toList,
      ← ofLines_moved, Nat.add_assoc]
    cases Entry.ofLines file (0 + (a.utf8ByteSize + m.utf8ByteSize)) (lines rest.toList) <;> rfl
  have hwithout := ofLines_lines_append file ha rest.toList
  rw [← String.toList_append, byteLength_toList] at hwithout
  cases ha' : Entry.ofLines file 0 (lines a.toList) with
  | error e =>
    rw [ha'] at hall hwithout
    rw [read_eq_error.2 hall, read_eq_error.2 hwithout]
    exact rfl
  | ok entries =>
    rw [ha'] at hall hwithout
    cases hrest : Entry.ofLines file 0 (lines rest.toList) with
    | error e =>
      rw [hrest] at hall hwithout
      rw [read_eq_error.2 hall, read_eq_error.2 hwithout]
      exact rfl
    | ok entries' =>
      rw [hrest] at hall hwithout
      rw [read_eq_ok.2 ⟨_, hall, rfl⟩, read_eq_ok.2 ⟨_, hwithout, rfl⟩]
      exact sameButPositions_collect _ _ _ _

/-- **A specification is read one part after the other, and the first bad line ends the reading.**
The text `a` is empty or ends in a newline, and `b` stands behind it. -/
theorem read_append [Regex.Engine] (file : String) (a b : String) (ha : EndsLine a.toList)
    (hsize : a.utf8ByteSize + b.utf8ByteSize < 2 ^ 32) :
    -- a fault in the first text
    (∀ e, Specification.read a file = .error e → Specification.read (a ++ b) file = .error e) ∧
    -- a fault in the second text
    (∀ s e, Specification.read a file = .ok s → Specification.read b file = .error e →
      Specification.read (a ++ b) file = .error (e.moved a.utf8ByteSize) ∧
        (e.moved a.utf8ByteSize).position.offset.toNat
          = a.utf8ByteSize + e.position.offset.toNat) ∧
    -- no fault
    (∀ s t, Specification.read a file = .ok s → Specification.read b file = .ok t →
      (∃ r, Specification.read (a ++ b) file = .ok r ∧
        Specification.IsAppend a.utf8ByteSize b.toList s t r) ∧
      (∀ rule ∈ t.ifRules, (rule.moved a.utf8ByteSize).position.offset.toNat
        = a.utf8ByteSize + rule.position.offset.toNat) ∧
      ∀ rule ∈ t.letRules, (rule.moved a.utf8ByteSize).position.offset.toNat
        = a.utf8ByteSize + rule.position.offset.toNat) ∧
    -- a line that cannot be read, whatever stands behind it
    (∀ s l rest e, b = l ++ rest → '\n' ∉ l.toList →
      (rest.toList.head? = none ∨ rest.toList.head? = some '\n') →
      Specification.read a file = .ok s → Specification.read l file = .error e →
      Specification.read (a ++ b) file = .error (e.moved a.utf8ByteSize)) ∧
    -- lines that say nothing
    (∀ m rest, b = m ++ rest → IsSilentText m.toList → (EndsLine m.toList ∨ rest = "") →
      SameButPositions (Specification.read (a ++ b) file)
        (Specification.read (a ++ rest) file)) := by
  have htoNat : ∀ p : Position, p.offset.toNat + a.utf8ByteSize < 2 ^ 32 →
      (p.moved a.utf8ByteSize).offset.toNat = a.utf8ByteSize + p.offset.toNat := fun p hp =>
    (Position.toNat_moved hp).trans (Nat.add_comm _ _)
  refine ⟨fun e he => read_append_of_error ha he, ?_, ?_, ?_, ?_⟩
  · intro s e hs he
    exact ⟨read_append_of_ok_of_error ha hs he, htoNat _ (offset_add_lt_of_error hsize he)⟩
  · intro s t hs ht
    obtain ⟨hif, hlet⟩ := offset_add_lt_of_ok hsize ht
    exact ⟨read_append_of_ok ha hs ht, fun rule hrule => htoNat _ (hif rule hrule),
      fun rule hrule => htoNat _ (hlet rule hrule)⟩
  · rintro s l rest e rfl hl hrest hs he
    exact read_append_of_ok_of_error ha hs (read_append_of_line_error hl hrest he)
  · rintro m rest rfl hm hend
    exact sameButPositions_read_append file ha hm hend

/-- A text that breaks at blanks, and behind it one that breaks at commas or one with a line that
cannot be read. -/
theorem read_append_sample :
    (∃ r, Specification.read ("if x then #t\nbreak on / /\n" ++ "~ y\nlet y be #u\nbreak on /,/\n")
        "sample" = .ok r ∧
      r.ifRules = [⟨"x", "#t", ⟨0, "sample"⟩⟩] ∧ r.letRules = [⟨"y", .be, "#u", ⟨30, "sample"⟩⟩] ∧
      r.breakPattern = ⟨"/,/", .one (.range ',' ',')⟩) ∧
    Specification.read ("if x then #t\nbreak on / /\n" ++ "~ y\nlet y\n") "sample"
      = .error ⟨.unrecognisedLine "let y", ⟨30, "sample"⟩⟩ := by
  have ha : EndsLine "if x then #t\nbreak on / /\n".toList := by decide
  have hs : Specification.read "if x then #t\nbreak on / /\n" "sample" = .ok
      { ifRules := [⟨"x", "#t", ⟨0, "sample"⟩⟩]
        breakPattern := ⟨"/ /", .one (.range ' ' ' ')⟩ } := by cbv
  have ht : Specification.read "~ y\nlet y be #u\nbreak on /,/\n" "sample" = .ok
      { letRules := [⟨"y", .be, "#u", ⟨4, "sample"⟩⟩]
        breakPattern := ⟨"/,/", .one (.range ',' ',')⟩ } := by cbv
  have he : Specification.read "~ y\nlet y\n" "sample" = .error
      ⟨.unrecognisedLine "let y", ⟨4, "sample"⟩⟩ := by cbv
  have hbreak : ∃ line ∈ lines "~ y\nlet y be #u\nbreak on /,/\n".toList, IsBreakLine line :=
    ⟨"break on /,/\n".toList, by decide, "/,/".toList, by cbv⟩
  constructor
  · obtain ⟨⟨r, hr, happend⟩, _⟩ := (read_append "sample" _ _ ha (by decide)).2.2.1 _ _ hs ht
    exact ⟨r, hr, happend.ifRules, happend.letRules, happend.breakPattern hbreak⟩
  · exact ((read_append "sample" _ _ ha (by decide)).2.1 _ _ hs he).1

end RuleLexer
