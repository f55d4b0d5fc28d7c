import RuleLexer.Proofs.Clause.Printing
import RuleLexer.Proofs.Moments
import RuleLexer.Proofs.Rule.Join
import RuleLexer.Proofs.Rule.Source
import RuleLexer.Proofs.Specification.Composition

/-!
# Errors

Which faults each stage can end with, and where.

* Reading a specification: the first line that cannot be read by itself
  (`Specification.isReadError_of_read`).
* Compiling it: the first rule that cannot be compiled, if-rules before let-rules, with one of the
  faults of `Fault.OfRule` (`Specification.isCompileError_of_scanner`).
* Cutting a text: a step of a rule that gave up (`Scanner.isCallError_of_tokenize`).

`errors_of_stages` puts them together.  It also says what becomes of rules with an empty test: their
actions are read like all others, but the scanner is the same without them.
-/

namespace RuleLexer

open Text

/-! ### The faults of rules -/

/-- The faults that a rule can have. -/
inductive Fault.OfRule : Fault → Prop where
  | unrecognisedToken {token : String} : OfRule (.unrecognisedToken token)
  | unterminatedLiteral {literal : String} : OfRule (.unterminatedLiteral literal)
  | unexpectedToken {token message : String} : OfRule (.unexpectedToken token message)
  | invalidPattern {pattern message : String} : OfRule (.invalidPattern pattern message)
  | invalidSkipCount {count : String} : OfRule (.invalidSkipCount count)
  | actionNotAllowed {keyword kind : String} : OfRule (.actionNotAllowed keyword kind)
  | unknownHostExpression {expression : String} : OfRule (.unknownHostExpression expression)

variable {scope : Scope} {fault : Fault} {t : Clause.Token} {ts : List Clause.Token}
  {clause : String}

theorem Clause.ofRule_of_read (h : Clause.read clause = .error fault) : fault.OfRule := by
  have hfrom : ∀ {offset : Nat} {cs : List Char}, Clause.readFrom offset cs = .error fault →
      fault.OfRule := by
    intro offset cs hcs
    fun_induction Clause.readFrom offset cs with
    | case1 => simp at hcs
    | case2 offset c rest hblank ih => exact ih hcs
    | case3 offset c rest =>
      rw [← Except.error.inj hcs, Clause.faultAt]
      split
      · exact .unterminatedLiteral
      · exact .unrecognisedToken
    | case4 offset c rest hblank kind text rest' hlexeme ih =>
      exact ih (error_of_map_eq_error hcs)
  exact hfrom h

namespace Test

theorem ofRule_of_checkSides {left : Option Clause.Kind} (h : checkSides left ts = .error fault) :
    fault.OfRule := by
  induction ts generalizing left with
  | nil => simp [checkSides] at h
  | cons t ts ih =>
    rw [checkSides] at h
    split at h
    · exact Except.error.inj h ▸ .unexpectedToken
    · split at h
      · exact Except.error.inj h ▸ .unexpectedToken
      · exact ih h

theorem ofRule_of_operand [Regex.Engine] {target : Target}
    (h : operand scope t target = .error fault) : fault.OfRule := by
  rw [operand] at h
  split at h
  next =>
    split at h
    · simp at h
    · exact Except.error.inj h ▸ .invalidPattern
  next => simp at h
  next => simp at h
  next =>
    split at h
    · simp at h
    · split at h
      · simp at h
      · exact Except.error.inj h ▸ .unknownHostExpression
  next => exact Except.error.inj h ▸ .unexpectedToken

theorem ofRule_of_item [Regex.Engine] {target : Target} (h : item scope t target = .error fault) :
    fault.OfRule := by
  rw [item] at h
  split_ifs at h
  · exact ofRule_of_operand (error_of_map_eq_error h)
  · exact Except.error.inj h ▸ .unexpectedToken

theorem ofRule_of_items [Regex.Engine] {es : List (Clause.Token × Target)}
    (h : items scope es = .error fault) : fault.OfRule := by
  induction es with
  | nil => simp [items] at h
  | cons e es ih =>
    rw [items] at h
    split at h
    next hitem => exact Except.error.inj h ▸ ofRule_of_item hitem
    next => exact ih (error_of_map_eq_error h)

theorem ofRule_of_combine {done : List Predicate} {current : Option Predicate}
    {operator : Option Clause.Token} {is : List (Item × Clause.Token)}
    (h : combine done current operator is = .error fault) : fault.OfRule := by
  fun_induction combine done current operator is with
  | case1 | case4 | case6 => exact Except.error.inj h ▸ .unexpectedToken
  | case2 => simp at h
  | case3 _ _ _ _ _ _ ih | case5 _ _ _ _ _ _ ih | case7 _ _ _ _ _ _ ih => exact ih h

theorem ofRule_of_read [Regex.Engine] (h : read scope clause = .error fault) : fault.OfRule := by
  rw [read] at h
  split at h
  next hclause => exact Except.error.inj h ▸ Clause.ofRule_of_read hclause
  next =>
    rw [ofTokens] at h
    split at h
    next hsides => exact Except.error.inj h ▸ ofRule_of_checkSides hsides
    next =>
      dsimp only at h
      split at h
      next hitems => exact Except.error.inj h ▸ ofRule_of_items hitems
      next => exact ofRule_of_combine (error_of_map_eq_error h)

end Test

namespace Action

variable {kind : RuleKind} {lookBack : Nat}

theorem ofRule_of_skipStep (h : skipStep t = .error fault) : fault.OfRule := by
  rw [skipStep] at h
  split at h
  next => simp at h
  next =>
    split at h
    · simp at h
    · exact Except.error.inj h ▸ .invalidSkipCount
  next => exact Except.error.inj h ▸ .invalidSkipCount
  next => exact Except.error.inj h ▸ .invalidSkipCount

theorem ofRule_of_steps (h : Action.steps kind lookBack scope ts = .error fault) :
    fault.OfRule := by
  fun_induction Action.steps kind lookBack scope ts
  case case1 | case2 => simp at h
  case case3 ih => exact ih h
  case case5 | case9 => exact Except.error.inj h ▸ .actionNotAllowed
  case case6 => exact Except.error.inj h ▸ .invalidSkipCount
  case case7 hskip => exact Except.error.inj h ▸ ofRule_of_skipStep hskip
  case case10 | case12 | case17 => exact Except.error.inj h ▸ .unexpectedToken
  case case16 => exact Except.error.inj h ▸ .unknownHostExpression
  -- what is left are the steps that are read, with the fault among those behind
  all_goals
    rename_i ih
    exact ih (error_of_map_eq_error h)

theorem ofRule_of_throwStep (h : throwStep ts = .error fault) : fault.OfRule := by
  cases ts with
  | nil => simp [throwStep] at h
  | cons t ts =>
    rw [throwStep] at h
    split at h
    · simp at h
    · exact Except.error.inj h ▸ .unexpectedToken

theorem ofRule_of_read (h : read kind lookBack scope clause = .error fault) : fault.OfRule := by
  rw [read] at h
  split at h
  next hclause => exact Except.error.inj h ▸ Clause.ofRule_of_read hclause
  next =>
    split at h
    · exact ofRule_of_throwStep h
    · exact ofRule_of_steps h

end Action

namespace Source

variable {source : Source}

theorem ofRule_of_steps {lookBack : Nat} (h : source.steps scope lookBack = .error fault) :
    fault.OfRule := by
  cases source with
  | ifRule rule => exact Action.ofRule_of_read (error_of_map_eq_error h)
  | letRule rule => exact Action.ofRule_of_read h

/-- **A rule that cannot be compiled has a fault of rules**, in its test or in its action. -/
theorem ofRule_of_compile [Regex.Engine] (h : source.compile scope = .error fault) :
    fault.OfRule := by
  rcases compile_eq_error.1 h with htest | ⟨test, _, hsteps⟩
  · exact Test.ofRule_of_read htest
  · exact ofRule_of_steps hsteps

/-! ### Rules with an empty test -/

/-- The test is blank. -/
def hasEmptyTest (source : Source) : Bool :=
  source.test.toList.all isBlank

/-- **A rule with an empty test comes to nothing, if its action can be read.** -/
theorem compile_of_hasEmptyTest [Regex.Engine] (h : source.hasEmptyTest = true) :
    source.compile scope = (source.steps scope 0).map fun _ => none := by
  have htokens : Clause.HasTokens source.test [] := by
    have hblanks := Clause.readFrom_blanks h 0 []
    rw [List.append_nil] at hblanks
    rw [Clause.HasTokens, Clause.read, hblanks, Clause.readFrom, Nat.zero_add, List.nil_append]
  have htest : Test.read scope source.test = .ok ⟨none, 0⟩ := Test.read_eq_ofTokens htokens
  rw [compile_eq, htest]
  rfl

end Source

/-- Rules that come to nothing may be left out, if they can be compiled. -/
theorem Rule.compileAll_filter {α : Type} {compile : α → Except Fault (Option Rule)}
    {position : α → Position} {isVoid : α → Bool}
    (hvoid : ∀ source rule, isVoid source = true → compile source = .ok rule → rule = none)
    {sources : List α} {rules : List Rule} : compileAll compile position sources = .ok rules ↔
      compileAll compile position (sources.filter (!isVoid ·)) = .ok rules ∧
        ∀ source ∈ sources, isVoid source = true → ∃ rule, compile source = .ok rule := by
  induction sources generalizing rules with
  | nil => simp
  | cons source sources ih =>
    rw [compileAll, List.forall_mem_cons]
    cases hv : isVoid source with
    | true =>
      rw [List.filter_cons_of_neg (by simp [hv])]
      cases hsource : compile source with
      | error fault => simp
      | ok rule =>
        obtain rfl := hvoid source rule hv hsource
        have hmap : (compileAll compile position sources).map ((none : Option Rule).toList ++ ·) =
            compileAll compile position sources := by
          cases compileAll compile position sources <;> rfl
        simp only [hmap, ih]
        simp
    | false =>
      rw [List.filter_cons_of_pos (by simp [hv]), compileAll]
      cases hsource : compile source with
      | error fault => simp
      | ok rule =>
        constructor
        · intro h
          obtain ⟨rest, hrest, rfl⟩ := exists_of_map_eq_ok h
          obtain ⟨hfilter, hall⟩ := ih.1 hrest
          exact ⟨by rw [hfilter]; rfl, by simp, hall⟩
        · rintro ⟨h, _, hall⟩
          obtain ⟨rest, hrest, rfl⟩ := exists_of_map_eq_ok h
          rw [ih.2 ⟨hrest, hall⟩]
          rfl

namespace Specification

/-- The specification without the rules that have an empty test. -/
def withoutEmptyTests (spec : Specification) : Specification :=
  { spec with
    ifRules := spec.ifRules.filter fun r => !(Source.ifRule r).hasEmptyTest
    letRules := spec.letRules.filter fun r => !(Source.letRule r).hasEmptyTest }

variable {spec : Specification} {hosts : HostRegistry} {m : Scanner}

/-- **Rules with an empty test leave the scanner as it is**, if their actions can be read. -/
theorem scanner_eq_ok_iff_withoutEmptyTests [Regex.Engine] : spec.scanner hosts = .ok m ↔
    spec.withoutEmptyTests.scanner hosts = .ok m ∧ ∀ source ∈ spec.sources,
      source.hasEmptyTest = true → ∃ steps, source.steps (spec.scope hosts) 0 = .ok steps := by
  have hvoid : ∀ (source : Source) (rule : Option Rule), source.hasEmptyTest = true →
      source.compile (spec.scope hosts) = .ok rule → rule = none := by
    intro source rule hempty hsource
    rw [Source.compile_of_hasEmptyTest hempty] at hsource
    obtain ⟨_, _, hnone⟩ := exists_of_map_eq_ok hsource
    exact hnone.symm
  have hif : ∀ rules, Rule.compileAll (Rule.ofIfRule (spec.scope hosts)) IfRule.position
      spec.ifRules = .ok rules ↔ Rule.compileAll (Rule.ofIfRule (spec.scope hosts)) IfRule.position
        spec.withoutEmptyTests.ifRules = .ok rules ∧
      ∀ rule ∈ spec.ifRules, (Source.ifRule rule).hasEmptyTest = true →
        ∃ outcome, (Source.ifRule rule).compile (spec.scope hosts) = .ok outcome :=
    fun _ => Rule.compileAll_filter fun rule => hvoid (.ifRule rule)
  have hlet : ∀ rules, Rule.compileAll (Rule.ofLetRule (spec.scope hosts)) LetRule.position
      spec.letRules = .ok rules ↔ Rule.compileAll (Rule.ofLetRule (spec.scope hosts))
        LetRule.position spec.withoutEmptyTests.letRules = .ok rules ∧
      ∀ rule ∈ spec.letRules, (Source.letRule rule).hasEmptyTest = true →
        ∃ outcome, (Source.letRule rule).compile (spec.scope hosts) = .ok outcome :=
    fun _ => Rule.compileAll_filter fun rule => hvoid (.letRule rule)
  have hsteps : ∀ source ∈ spec.sources, (source.hasEmptyTest = true →
        ∃ steps, source.steps (spec.scope hosts) 0 = .ok steps) ↔
      (source.hasEmptyTest = true → ∃ outcome, source.compile (spec.scope hosts) = .ok outcome) := by
    intro source _
    refine forall_congr' fun hempty => ?_
    rw [Source.compile_of_hasEmptyTest hempty]
    cases source.steps (spec.scope hosts) 0 <;> simp [Except.map]
  rw [forall₂_congr hsteps, sources, List.forall_mem_append, List.forall_mem_map,
    List.forall_mem_map, scanner_eq_ok, scanner_eq_ok, ← Rule.compileAll_eq_ok _ IfRule.position,
    ← Rule.compileAll_eq_ok _ LetRule.position, hif, hlet, ← Rule.compileAll_eq_ok _ IfRule.position,
    ← Rule.compileAll_eq_ok _ LetRule.position]
  constructor
  · rintro ⟨⟨hif, hifs⟩, ⟨hlet, hlets⟩, hrest⟩
    exact ⟨⟨hif, hlet, hrest⟩, hifs, hlets⟩
  · rintro ⟨⟨hif, hlet, hrest⟩, hifs, hlets⟩
    exact ⟨⟨hif, hifs⟩, ⟨hlet, hlets⟩, hrest⟩

/-! ### Reading a specification -/

variable {file : String} {e : Error} {line : List Char}

/-- The faults of lines. -/
theorem fault_of_ofLine [Regex.Engine] {p : Position} (h : Entry.ofLine p line = .error fault) :
    fault = .unrecognisedLine (String.ofList line) ∨
      ∃ literal message, fault = .invalidPattern literal message := by
  rw [Entry.ofLine] at h
  split at h
  next => simp at h
  next =>
    split at h
    next => exact Or.inl (Except.error.inj h).symm
    next form _ =>
      replace h := error_of_map_eq_error h
      cases form with
      | breakOn literal =>
        simp only [Entry.ofForm] at h
        split at h
        · simp at h
        · exact Or.inr ⟨_, _, (Except.error.inj h).symm⟩
      | _ => simp [Entry.ofForm] at h

/-- **The first line that cannot be read ends the reading**, with its fault and where it begins. -/
theorem exists_line_of_ofLines_error [Regex.Engine] {offset : Nat} {ls : List (List Char)}
    (h : Entry.ofLines file offset ls = .error e) :
    ∃ before line after, ls = before ++ line :: after ∧
      (∀ earlier ∈ before, ∃ p entry,
        Entry.ofLine ⟨p, file⟩ (dropEnd Entry.isLineEnd earlier) = .ok entry) ∧
      Entry.ofLine e.position (dropEnd Entry.isLineEnd line) = .error e.fault ∧
      e.position = ⟨UInt32.ofNat (offset + byteLength before.flatten), file⟩ := by
  induction ls generalizing offset with
  | nil => simp [Entry.ofLines] at h
  | cons first ls ih =>
    rw [Entry.ofLines] at h
    split at h
    next fault hfirst =>
      obtain rfl := Except.error.inj h
      exact ⟨[], first, ls, rfl, by simp, hfirst, rfl⟩
    next entry hfirst =>
      obtain ⟨before, line, after, rfl, hbefore, hline, hposition⟩ :=
        ih (error_of_map_eq_error h)
      refine ⟨first :: before, line, after, rfl, ?_, hline, ?_⟩
      · exact List.forall_mem_cons.2 ⟨⟨_, entry, hfirst⟩, hbefore⟩
      · rw [hposition, List.flatten_cons, byteLength_append, Nat.add_assoc]

/-- A line of a text can be read by itself if it can be read where it stands. -/
theorem exists_read_line_iff [Regex.Engine] {text : List Char} (hline : line ∈ lines text)
    (p : UInt32) : (∃ spec, Specification.read (String.ofList line) file = .ok spec) ↔
      ∃ entry, Entry.ofLine ⟨p, file⟩ (dropEnd Entry.isLineEnd line) = .ok entry := by
  have hmoved : (⟨p, file⟩ : Position) = Position.moved p.toNat ⟨UInt32.ofNat 0, file⟩ := by
    rw [Position.moved_ofNat, Nat.zero_add, UInt32.ofNat_toNat]
  rw [Specification.read, String.toList_ofList, lines_of_mem_lines hline, hmoved, ofLine_moved]
  simp only [Entry.ofLines]
  cases Entry.ofLine ⟨UInt32.ofNat 0, file⟩ (dropEnd Entry.isLineEnd line) <;> simp [Except.map]

/-- An error of reading a text: the fault of the first line that cannot be read, where this line
begins. -/
structure IsReadError [Regex.Engine] (text file : String) (e : Error) : Prop where
  fault : (∃ line, e.fault = .unrecognisedLine line) ∨
    ∃ literal message, e.fault = .invalidPattern literal message
  place : ∃ before line after, lines text.toList = before ++ line :: after ∧
    (∀ earlier ∈ before, ∃ spec, Specification.read (String.ofList earlier) file = .ok spec) ∧
    (∀ spec, Specification.read (String.ofList line) file ≠ .ok spec) ∧
    e.position = ⟨UInt32.ofNat (byteLength before.flatten), file⟩ ∧
    (text.utf8ByteSize < 2 ^ 32 → e.position.offset.toNat = byteLength before.flatten)

theorem isReadError_of_read [Regex.Engine] {text : String}
    (h : Specification.read text file = .error e) : IsReadError text file e := by
  obtain ⟨before, line, after, hsplit, hbefore, hline, hposition⟩ :=
    exists_line_of_ofLines_error (read_eq_error.1 h)
  rw [Nat.zero_add] at hposition
  have hmem : ∀ l ∈ before ++ line :: after, l ∈ lines text.toList := fun l hl => hsplit ▸ hl
  refine ⟨?_, before, line, after, hsplit, ?_, ?_, hposition, ?_⟩
  · rcases fault_of_ofLine hline with hfault | hfault
    · exact Or.inl ⟨_, hfault⟩
    · exact Or.inr hfault
  · intro earlier hearlier
    obtain ⟨p, hread⟩ := hbefore earlier hearlier
    exact (exists_read_line_iff (hmem _ (List.mem_append_left _ hearlier)) p).2 hread
  · intro spec hread
    rw [hposition] at hline
    obtain ⟨entry, hentry⟩ := (exists_read_line_iff (hmem line (by simp)) _).1 ⟨spec, hread⟩
    exact absurd (hline.symm.trans hentry) (by simp)
  · intro hsize
    have hlength := congrArg byteLength (flatten_lines text.toList)
    rw [hsplit, List.flatten_append, byteLength_append, byteLength_toList] at hlength
    have hlt : byteLength before.flatten < 2 ^ 32 := by omega
    rw [hposition]
    exact UInt32.toNat_ofNat_of_lt' hlt

/-- An error of compiling a specification: the fault of the first rule that cannot be compiled, where
this rule stands. -/
structure IsCompileError [Regex.Engine] (spec : Specification) (hosts : HostRegistry) (e : Error) :
    Prop where
  fault : e.fault.OfRule
  place : ∃ before source after, spec.sources = before ++ source :: after ∧
    (∀ earlier ∈ before, ∃ outcome, earlier.compile (spec.scope hosts) = .ok outcome) ∧
    source.compile (spec.scope hosts) = .error e.fault ∧ e.position = source.position

theorem isCompileError_of_scanner [Regex.Engine] (h : spec.scanner hosts = .error e) :
    spec.IsCompileError hosts e := by
  obtain ⟨before, source, after, hsplit, hbefore, hsource, hposition⟩ := scanner_eq_error.1 h
  exact ⟨Source.ofRule_of_compile hsource, before, source, after, hsplit, hbefore, hsource,
    hposition⟩

end Specification

/-! ### Calls -/

/-- An error of cutting a text: what a rule gave up with, at one of its steps or in a callback that
one of them calls. -/
def Scanner.IsCallError (m : Scanner) (input : String) (e : Error) : Prop :=
  ∃ r s message, e = ⟨.thrown message, ⟨UInt32.ofNat s.byteOffset, "<input>"⟩⟩ ∧
    (m.Performs input r (.throw message) s ∨
      ∃ h, m.Performs input r (.host h) s ∧ (h.edit s).failure = some message)

theorem Scanner.isCallError_of_tokenize {m : Scanner} {input : String} {e : Error}
    (h : m.tokenize input = .error e) : m.IsCallError input e := by
  obtain ⟨r, step, s, hperforms, he⟩ := performs_of_tokenize_error h
  cases step with
  | throw message =>
    obtain rfl := Option.some.inj he
    exact ⟨r, s, message, rfl, Or.inl hperforms⟩
  | host f =>
    obtain ⟨message, hmessage, rfl⟩ := Option.map_eq_some_iff.1 he
    exact ⟨r, s, message, rfl, Or.inr ⟨f, hperforms, hmessage⟩⟩
  | _ => simp [Step.error?] at he

/-! ### All stages -/

/-- **Every error comes from where its stage takes it**, and has a fault of that stage.  Rules with
an empty test have to have actions that can be read, and do nothing else. -/
theorem errors_of_stages [Regex.Engine] :
    (∀ text file e, Specification.read text file = .error e →
      Specification.IsReadError text file e) ∧
    (∀ (spec : Specification) hosts e, spec.scanner hosts = .error e →
      spec.IsCompileError hosts e) ∧
    (∀ (m : Scanner) input e, m.tokenize input = .error e → m.IsCallError input e) ∧
    (∀ (source : Source) scope, source.hasEmptyTest = true →
      source.compile scope = (source.steps scope 0).map fun _ => none) ∧
    ∀ (spec : Specification) hosts m, spec.scanner hosts = .ok m ↔
      spec.withoutEmptyTests.scanner hosts = .ok m ∧ ∀ source ∈ spec.sources,
        source.hasEmptyTest = true → ∃ steps, source.steps (spec.scope hosts) 0 = .ok steps :=
  ⟨fun _ _ _ => Specification.isReadError_of_read,
    fun _ _ _ => Specification.isCompileError_of_scanner,
    fun _ _ _ => Scanner.isCallError_of_tokenize,
    fun _ _ => Source.compile_of_hasEmptyTest,
    fun _ _ _ => Specification.scanner_eq_ok_iff_withoutEmptyTests⟩

/-- Its first rule says nothing, its second has no step. -/
def faultyRules : Specification where
  ifRules := [⟨" ", "continue", ⟨0, "sample"⟩⟩]
  letRules := [⟨"'a'", .be, "nothing", ⟨20, "sample"⟩⟩]

/-- Gives up at a space. -/
def throwingScanner : Scanner where
  isBreak c := c == ' '
  ifRules := [⟨.ifThen, .test .character (.text " "), 0, [.throw "no"], ⟨0, "sample"⟩⟩]
  letRules := []
  definitions := {}

theorem errors_of_stages_samples :
    Specification.IsReadError "~\nif" "sample" ⟨.unrecognisedLine "if", ⟨2, "sample"⟩⟩ ∧
    faultyRules.IsCompileError {}
      ⟨.unexpectedToken "nothing" "not allowed in an action", ⟨20, "sample"⟩⟩ ∧
    throwingScanner.IsCallError "a b" ⟨.thrown "no", ⟨1, "<input>"⟩⟩ := by
  obtain ⟨hread, hcompile, hcall, _⟩ := errors_of_stages
  exact ⟨hread _ _ _ (by cbv), hcompile _ _ _ (by cbv), hcall _ _ _ (by cbv)⟩

end RuleLexer
