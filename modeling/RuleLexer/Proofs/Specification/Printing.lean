import RuleLexer.Proofs.Specification.Line
import RuleLexer.Proofs.Text.Line
import RuleLexer.Regex.Reader
import RuleLexer.Specification.Reader

/-!
# Specifications that are printed

An `Item` is what one line of a specification says.  `Item.PrintedAs` is how it may be written:
keywords in any case, and any spaces and tabs between the parts.  `read_printed` says that a text of
such lines is read as the specification that the items make up, whatever they are and in whatever
order they stand, if each is `Item.Printable`:

* the parts of a line hold no newline and neither begin nor end with a blank;
* no test holds the words that would end it, and the action of a `be` does not begin with the word
  that would make another kind of it;
* names are names, and the literals of break patterns can be read.

The proof goes line by line (`ofLine_printed`).  In each line the parts are recovered by the results
on the forms of lines, and the end of the line is told from its last part (`Unbroken`).
-/

namespace RuleLexer

open Text Form

/-- What a line of a specification says. -/
inductive Item where
  | ifRule (test action : List Char)
  | letRule (test : List Char) (kind : LetKind) (action : List Char)
  | define (name : List Char) (value : Option (List Char))
  | breakOn (literal : List Char) (pattern : Pattern)
  | comment (text : List Char)
  | blank

/-- A text that can stand within a line between two blanks. -/
structure IsPart (cs : List Char) : Prop where
  newline_not_mem : '\n' ∉ cs
  startsSolid : StartsSolid cs
  endsSolid : EndsSolid cs

namespace Item

/-- The parts of the item are such that they can be told apart on a line. -/
def Printable [Regex.Engine] : Item → Prop
  | ifRule test action =>
    test ≠ [] ∧ IsPart test ∧ IsPart action ∧ ∀ w ∈ words test, ¬ Spells w "then"
  | letRule test kind action =>
    test ≠ [] ∧ IsPart test ∧ IsPart action ∧ NoKind test
      ∧ (kind = .be → ∀ w ∈ (words action).head?, ¬ Spells w "group")
  | define name value => IsName name ∧ ∀ v ∈ value, v ≠ [] ∧ IsPart v
  | breakOn literal pattern =>
    IsPart literal ∧ Pattern.read (String.ofList literal) = .ok pattern
  | comment text => '\n' ∉ text
  | blank => True

/-- How an item is written on a line. -/
inductive PrintedAs : Item → List Char → Prop
  | ifRule {test action k g g' y : List Char} :
      Spells k "if" → IsGap g → IsGap g' → WrittenAs ["then"] y →
      PrintedAs (.ifRule test action) (k ++ (g ++ (test ++ (g' ++ (y ++ action)))))
  | letRule {test action k g g' y : List Char} {kind : LetKind} :
      Spells k "let" → IsGap g → IsGap g' → WrittenAs kind.words y →
      PrintedAs (.letRule test kind action) (k ++ (g ++ (test ++ (g' ++ (y ++ action)))))
  | define {name k g x : List Char} {value : Option (List Char)} :
      Spells k "define" → IsGap g → ValueWrittenAs value x →
      PrintedAs (.define name value) (k ++ (g ++ (name ++ x)))
  | breakOn {literal k g y : List Char} {pattern : Pattern} :
      Spells k "break" → IsGap g → WrittenAs ["on"] y →
      PrintedAs (.breakOn literal pattern) (k ++ (g ++ (y ++ literal)))
  | comment (text : List Char) : PrintedAs (.comment text) ('~' :: text)
  | blank {g : List Char} : '\n' ∉ g → g.all isBlank = true → PrintedAs .blank g

/-- What an item adds to a specification, if it stands at a position. -/
def entry? (position : Position) : Item → Option Entry
  | ifRule test action => some (.ifRule ⟨String.ofList test, String.ofList action, position⟩)
  | letRule test kind action =>
    some (.letRule ⟨String.ofList test, kind, String.ofList action, position⟩)
  | define name value => some (.define ⟨String.ofList name, value.map String.ofList⟩)
  | breakOn _ pattern => some (.breakOn pattern)
  | comment _ => none
  | blank => none

end Item

namespace Entry

def ifRule? : Entry → Option IfRule
  | ifRule rule => some rule
  | _ => none

def letRule? : Entry → Option LetRule
  | letRule rule => some rule
  | _ => none

def breakPattern? : Entry → Option Pattern
  | breakOn pattern => some pattern
  | _ => none

def definition? : Entry → Option Definition
  | define definition => some definition
  | _ => none

end Entry

/-- The entries of items that stand at the given bytes of a text. -/
def Item.entries (file : String) (items : List (Item × Nat)) : List Entry :=
  items.filterMap fun (item, offset) => item.entry? ⟨UInt32.ofNat offset, file⟩

/-- The rules and the definitions among entries, each in their order, and the last break pattern. -/
def Specification.collect (entries : List Entry) : Specification where
  ifRules := entries.filterMap Entry.ifRule?
  letRules := entries.filterMap Entry.letRule?
  breakPattern := (entries.filterMap Entry.breakPattern?).getLast?.getD Pattern.defaultBreak
  definitions := entries.filterMap Entry.definition?

variable {cs ds k g y line : List Char} {word : String} {ws : List String} {item : Item}
  {position : Position}

/-! ### The end of a line -/

/-- The text holds no newline, and its last character does not belong to the end of a line. -/
def Unbroken (cs : List Char) : Prop :=
  '\n' ∉ cs ∧ ∀ c ∈ cs.getLast?, Entry.isLineEnd c = false

theorem isBlank_of_isLineEnd {c : Char} (h : Entry.isLineEnd c = true) : isBlank c = true := by
  rw [Entry.isLineEnd, Bool.or_eq_true, beq_iff_eq, beq_iff_eq] at h
  rcases h with rfl | rfl <;> rfl

theorem Unbroken.append (hc : Unbroken cs) (hd : Unbroken ds) : Unbroken (cs ++ ds) := by
  refine ⟨fun h => (List.mem_append.1 h).elim hc.1 hd.1, ?_⟩
  intro c h
  rw [List.getLast?_append, Option.mem_def, Option.or_eq_some_iff] at h
  rcases h with h | ⟨_, h⟩
  · exact hd.2 c h
  · exact hc.2 c h

theorem IsPart.unbroken (h : IsPart cs) : Unbroken cs := by
  refine ⟨h.newline_not_mem, ?_⟩
  intro c hc
  by_contra hend
  rw [Bool.not_eq_false] at hend
  exact Bool.false_ne_true ((h.endsSolid c hc).symm.trans (isBlank_of_isLineEnd hend))

theorem isPart_of_isBlank_eq_false (h : ∀ c ∈ cs, isBlank c = false) : IsPart cs where
  newline_not_mem hn := Bool.false_ne_true ((h _ hn).symm.trans rfl)
  startsSolid c hc := h c (List.mem_of_mem_head? hc)
  endsSolid c hc := h c (List.mem_of_getLast? hc)

theorem Form.Spells.unbroken (h : Spells k word) (hw : IsKeyword word) : Unbroken k :=
  (isPart_of_isBlank_eq_false (h.isBlank_eq_false hw)).unbroken

theorem Form.IsGap.unbroken (h : IsGap g) : Unbroken g := by
  have hchar : ∀ c ∈ g, c ≠ '\n' ∧ Entry.isLineEnd c = false := by
    intro c hc
    rcases h.2 c hc with rfl | rfl <;> decide
  exact ⟨fun hn => (hchar _ hn).1 rfl, fun c hc => (hchar c (List.mem_of_getLast? hc)).2⟩

theorem Form.WrittenAs.unbroken (h : WrittenAs ws y) (hws : ∀ word ∈ ws, IsKeyword word) :
    Unbroken y := by
  induction h with
  | nil => exact ⟨List.not_mem_nil, fun c hc => by simp at hc⟩
  | cons hspells hg _ ih =>
    have hk := hspells.unbroken (hws _ List.mem_cons_self)
    exact (hk.append hg.unbroken).append (ih fun w hw => hws w (List.mem_cons_of_mem _ hw))

theorem Form.ValueWrittenAs.unbroken {value : Option (List Char)} (h : ValueWrittenAs value y)
    (hvalue : ∀ v ∈ value, IsPart v) : Unbroken y := by
  cases h with
  | none => exact ⟨List.not_mem_nil, fun c hc => by simp at hc⟩
  | some hg hg' =>
    have hsign : Unbroken ['='] := (isPart_of_isBlank_eq_false (by simp [isBlank])).unbroken
    exact hg.unbroken.append (hsign.append (hg'.unbroken.append (hvalue _ rfl).unbroken))

/-- The line of a rule, from its keyword to its action. -/
theorem unbroken_rule {test action g' : List Char} (hk : Spells k word) (hw : IsKeyword word)
    (hg : IsGap g) (ht : IsPart test) (hg' : IsGap g') (hy : Unbroken y) (ha : IsPart action) :
    Unbroken (k ++ (g ++ (test ++ (g' ++ (y ++ action))))) := by
  have hend := hg'.unbroken.append (hy.append ha.unbroken)
  exact (hk.unbroken hw).append (hg.unbroken.append (ht.unbroken.append hend))

/-! ### Reading a line -/

theorem isSilent_of_spells (h : Spells k word) (hw : IsKeyword word) :
    Entry.isSilent (k ++ cs) = false := by
  have halpha := h.isAlpha hw
  obtain ⟨c, k, rfl⟩ := List.exists_cons_of_ne_nil (h.ne_nil hw)
  have hc := halpha c List.mem_cons_self
  have htilde : c ≠ '~' := by
    rintro rfl
    exact absurd hc (by decide)
  simp [Entry.isSilent, htilde, isBlank_of_isAlpha hc]

/-- A line that is written after a keyword is read as its form says. -/
theorem ofLine_of_read? [Regex.Engine] {form : Form} {entry : Entry} (h : Spells k word)
    (hw : IsKeyword word) (hline : Unbroken (k ++ cs)) (hread : read? (k ++ cs) = some form)
    (hform : Entry.ofForm position form = .ok entry) :
    Entry.ofLine position (dropEnd Entry.isLineEnd (k ++ cs)) = .ok (some entry) := by
  rw [dropEnd_eq_self hline.2, Entry.ofLine, isSilent_of_spells h hw, if_neg Bool.false_ne_true,
    hread]
  show (Entry.ofForm position form).map some = .ok (some entry)
  rw [hform]
  rfl

/-- **A line is read as what the item on it says**, and it is one line. -/
theorem ofLine_printed [Regex.Engine] (position : Position) (h : item.PrintedAs line)
    (hitem : item.Printable) : '\n' ∉ line ∧
      Entry.ofLine position (dropEnd Entry.isLineEnd line) = .ok (item.entry? position) := by
  cases h with
  | ifRule hk hg hg' hy =>
    obtain ⟨hne, ht, ha, hthen⟩ := hitem
    have hline := unbroken_rule hk (by decide) hg ht hg' (hy.unbroken (by decide)) ha
    have hread := read?_ifRule hk hg hg' hy hne ht.startsSolid ht.endsSolid hthen ha.startsSolid
      ha.endsSolid
    exact ⟨hline.1, ofLine_of_read? hk (by decide) hline hread rfl⟩
  | letRule hk hg hg' hy =>
    obtain ⟨hne, ht, ha, hkind, hgroup⟩ := hitem
    have hline := unbroken_rule hk (by decide) hg ht hg' (hy.unbroken isKeyword_of_mem_words) ha
    have hread := read?_letRule hk hg hg' hy hne ht.startsSolid ht.endsSolid hkind ha.startsSolid
      ha.endsSolid hgroup
    exact ⟨hline.1, ofLine_of_read? hk (by decide) hline hread rfl⟩
  | @define name k g x value hk hg hx =>
    obtain ⟨hname, hvalue⟩ := hitem
    have hline := (hk.unbroken (by decide)).append (hg.unbroken.append
      ((isPart_of_isBlank_eq_false hname.isBlank_eq_false).unbroken.append
        (hx.unbroken fun v hv => (hvalue v hv).2)))
    have hread := read?_define hk hg hname hx fun v hv =>
      ⟨(hvalue v hv).2.startsSolid, (hvalue v hv).2.endsSolid⟩
    refine ⟨hline.1, ofLine_of_read? hk (by decide) hline hread ?_⟩
    cases value with
    | none => rfl
    | some v =>
      have hv : v.isEmpty = false := by simpa using (hvalue v rfl).1
      rw [Entry.ofForm, Option.getD_some, hv]
      rfl
  | breakOn hk hg hy =>
    obtain ⟨hpart, hpattern⟩ := hitem
    have hline := (hk.unbroken (by decide)).append (hg.unbroken.append
      ((hy.unbroken (by decide)).append hpart.unbroken))
    have hread := read?_breakOn hk hg hy hpart.startsSolid hpart.endsSolid
    refine ⟨hline.1, ofLine_of_read? hk (by decide) hline hread ?_⟩
    simp only [Entry.ofForm, hpattern]
  | comment text =>
    have hsilent : Entry.isSilent (dropEnd Entry.isLineEnd ('~' :: text)) = true := by
      rw [dropEnd]
      split <;> rfl
    refine ⟨?_, ?_⟩
    · rw [List.mem_cons, not_or]
      exact ⟨by decide, hitem⟩
    · rw [Entry.ofLine, if_pos hsilent]
      rfl
  | blank hn hblank =>
    refine ⟨hn, ?_⟩
    have hall : (dropEnd Entry.isLineEnd line).all isBlank = true := by
      rw [List.all_eq_true] at hblank ⊢
      exact fun c hc => hblank c (mem_of_mem_dropEnd hc)
    rw [Entry.ofLine, if_pos (by rw [Entry.isSilent, hall, Bool.or_true])]
    rfl

/-! ### Reading a text -/

theorem ofLines_cons [Regex.Engine] {ls : List (List Char)} {entry : Option Entry}
    {entries : List Entry} {file : String} {offset : Nat}
    (hline : Entry.ofLine ⟨UInt32.ofNat offset, file⟩ (dropEnd Entry.isLineEnd line) = .ok entry)
    (hrest : Entry.ofLines file (offset + byteLength line) ls = .ok entries) :
    Entry.ofLines file offset (line :: ls) = .ok (entry.toList ++ entries) := by
  simp only [Entry.ofLines, hline, hrest]
  rfl

theorem entries_cons (file : String) (offset : Nat) (items : List (Item × Nat)) :
    Item.entries file ((item, offset) :: items)
      = (item.entry? ⟨UInt32.ofNat offset, file⟩).toList ++ Item.entries file items := by
  simp only [Item.entries, List.filterMap_cons]
  cases item.entry? ⟨UInt32.ofNat offset, file⟩ <;> rfl

/-- The entries of a text are those of its lines. -/
theorem ofLines_printed [Regex.Engine] {items : List Item} {ls : List (List Char)}
    {text : List Char} (file : String) (offset : Nat)
    (hitems : List.Forall₂ (fun item line => item.Printable ∧ item.PrintedAs line) items ls)
    (htext : OnLines ls text) :
    Entry.ofLines file offset (lines text)
      = .ok (Item.entries file (items.zip (lineOffsets offset ls))) := by
  induction htext generalizing items offset with
  | nil =>
    cases hitems
    rfl
  | last l =>
    obtain ⟨item, items, ⟨hitem, hprinted⟩, hnil, rfl⟩ := List.forall₂_cons_right_iff.1 hitems
    cases hnil
    obtain ⟨hn, hline⟩ := ofLine_printed ⟨UInt32.ofNat offset, file⟩ hprinted hitem
    show _ = Except.ok (Item.entries file [(item, offset)])
    rw [entries_cons]
    by_cases hl : l = []
    · -- there is no line to read, and the item says nothing
      subst hl
      have hentry : item.entry? ⟨UInt32.ofNat offset, file⟩ = none :=
        (Except.ok.inj hline).symm
      rw [hentry]
      rfl
    · rw [lines_eq_singleton hn hl]
      exact ofLines_cons hline rfl
  | cons l htext ih =>
    obtain ⟨item, items, ⟨hitem, hprinted⟩, hrest, rfl⟩ := List.forall₂_cons_right_iff.1 hitems
    obtain ⟨hn, hline⟩ := ofLine_printed ⟨UInt32.ofNat offset, file⟩ hprinted hitem
    have hcut : dropEnd Entry.isLineEnd (l ++ ['\n']) = dropEnd Entry.isLineEnd l :=
      dropEnd_append_of_all _ l (by decide)
    rw [lines_append_newline hn, lineOffsets, List.zip_cons_cons, entries_cons]
    refine ofLines_cons (hcut ▸ hline) ?_
    rw [byteLength_append_newline, ← Nat.add_assoc]
    exact ih _ hrest

theorem foldl_add (entries : List Entry) (s : Specification) :
    entries.foldl Specification.add s =
      { ifRules := s.ifRules ++ entries.filterMap Entry.ifRule?
        letRules := s.letRules ++ entries.filterMap Entry.letRule?
        breakPattern := (entries.filterMap Entry.breakPattern?).getLast?.getD s.breakPattern
        definitions := s.definitions ++ entries.filterMap Entry.definition? } := by
  induction entries generalizing s with
  | nil => simp
  | cons entry entries ih =>
    rw [List.foldl_cons, ih]
    cases entry <;>
      simp [Specification.add, Entry.ifRule?, Entry.letRule?, Entry.breakPattern?,
        Entry.definition?, List.filterMap_cons, List.getLast?_cons]

theorem ofEntries_eq_collect (entries : List Entry) :
    Specification.ofEntries entries = Specification.collect entries := by
  rw [Specification.ofEntries, foldl_add]
  rfl

/-- **A specification that is printed is read back.** -/
theorem read_printed [Regex.Engine] {items : List Item} {ls : List (List Char)} {text : List Char}
    (file : String)
    (hitems : List.Forall₂ (fun item line => item.Printable ∧ item.PrintedAs line) items ls)
    (htext : OnLines ls text) :
    Specification.read (String.ofList text) file
      = .ok (.collect (Item.entries file (items.zip (lineOffsets 0 ls)))) := by
  rw [Specification.read, String.toList_ofList, ofLines_printed file 0 hitems htext,
    ← ofEntries_eq_collect]
  rfl

instance : Decidable (IsPart cs) :=
  decidable_of_iff ('\n' ∉ cs ∧ StartsSolid cs ∧ EndsSolid cs)
    ⟨fun ⟨hn, hs, he⟩ => ⟨hn, hs, he⟩, fun h => ⟨h.1, h.2, h.3⟩⟩

instance (test : List Char) : Decidable (NoKind test) :=
  inferInstanceAs (Decidable (_ ∧ _))

/-- Items of every form, among them a test that ends like a kind begins. -/
def sampleItems : List Item :=
  [.comment " rules".toList,
   .ifRule "digit then_some".toList [],
   .letRule "[a] be_group expand".toList .expandGroup "/x/".toList,
   .letRule "[b]".toList .be "join group".toList,
   .blank,
   .define "x_1".toList none,
   .define "_y".toList (some "a = b".toList),
   .breakOn "/ /".toList ⟨"/ /", .one (.range ' ' ' ')⟩]

/-- The items as they may be written. -/
def sampleLines : List (List Char) :=
  ["~ rules".toList,
   "IF \tdigit then_some  tHen ".toList,
   "let [a] be_group expand Expand\tgroup /x/".toList,
   "Let [b]\tBE join group".toList,
   " \t".toList,
   "define x_1".toList,
   "DEFINE _y\t=  a = b".toList,
   "break On / /".toList]

theorem printable_sampleItems : List.Forall₂
    (fun item line => item.Printable ∧ item.PrintedAs line) sampleItems sampleLines := by
  have hcomment : '\n' ∉ " rules".toList := by decide
  have hpattern : Pattern.read (String.ofList "/ /".toList)
      = .ok ⟨"/ /", .one (.range ' ' ' ')⟩ := by cbv
  refine .cons ⟨hcomment, .comment _⟩ (.cons ⟨?_, ?_⟩ (.cons ⟨?_, ?_⟩ (.cons ⟨?_, ?_⟩
    (.cons ⟨trivial, .blank (by decide) (by decide)⟩ (.cons ⟨?_, ?_⟩ (.cons ⟨?_, ?_⟩
      (.cons ⟨⟨by decide, hpattern⟩, ?_⟩ .nil)))))))
  · exact ⟨by decide, by decide, by decide, by decide⟩
  · show Item.PrintedAs _ ("IF".toList ++ (" \t".toList ++ ("digit then_some".toList ++
      ("  ".toList ++ (("tHen".toList ++ " ".toList ++ []) ++ [])))))
    exact .ifRule (by decide) (by decide) (by decide) (.cons (by decide) (by decide) .nil)
  · exact ⟨by decide, by decide, by decide, by decide, by decide⟩
  · show Item.PrintedAs _ ("let".toList ++ (" ".toList ++ ("[a] be_group expand".toList ++
      (" ".toList ++ (("Expand".toList ++ "\t".toList ++ ("group".toList ++ " ".toList ++ [])) ++
        "/x/".toList)))))
    exact .letRule (by decide) (by decide) (by decide)
      (.cons (by decide) (by decide) (.cons (by decide) (by decide) .nil))
  · exact ⟨by decide, by decide, by decide, by decide, by decide⟩
  · show Item.PrintedAs _ ("Let".toList ++ (" ".toList ++ ("[b]".toList ++
      ("\t".toList ++ (("BE".toList ++ " ".toList ++ []) ++ "join group".toList)))))
    exact .letRule (by decide) (by decide) (by decide) (.cons (by decide) (by decide) .nil)
  · refine ⟨⟨'x', "_1".toList, rfl, by decide, List.all_eq_true.1 (by decide)⟩, ?_⟩
    rintro v ⟨⟩
  · show Item.PrintedAs _ ("define".toList ++ (" ".toList ++ ("x_1".toList ++ [])))
    exact .define (by decide) (by decide) .none
  · refine ⟨⟨'_', "y".toList, rfl, by decide, List.all_eq_true.1 (by decide)⟩, ?_⟩
    rintro v ⟨⟩
    exact ⟨by decide, by decide⟩
  · show Item.PrintedAs _ ("DEFINE".toList ++ (" ".toList ++ ("_y".toList ++
      ("\t".toList ++ ('=' :: ("  ".toList ++ "a = b".toList))))))
    exact .define (by decide) (by decide) (.some (by decide) (by decide))
  · show Item.PrintedAs _ ("break".toList ++ (" ".toList ++ (("On".toList ++ " ".toList ++ []) ++
      "/ /".toList)))
    exact .breakOn (by decide) (by decide) (.cons (by decide) (by decide) .nil)

theorem read_printed_sample :
    Specification.read (String.ofList (sampleLines.intersperse ['\n']).flatten) "sample" = .ok
      { ifRules := [⟨"digit then_some", "", ⟨8, "sample"⟩⟩]
        letRules := [⟨"[a] be_group expand", .expandGroup, "/x/", ⟨35, "sample"⟩⟩,
          ⟨"[b]", .be, "join group", ⟨76, "sample"⟩⟩]
        breakPattern := ⟨"/ /", .one (.range ' ' ' ')⟩
        definitions := [⟨"x_1", none⟩, ⟨"_y", some "a = b"⟩] } := by
  have htext : OnLines sampleLines (sampleLines.intersperse ['\n']).flatten :=
    .cons _ (.cons _ (.cons _ (.cons _ (.cons _ (.cons _ (.cons _ (.last _)))))))
  rw [read_printed "sample" printable_sampleItems htext]
  rfl

end RuleLexer
