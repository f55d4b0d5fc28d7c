import RuleLexer.Proofs.Clause.Printing
import RuleLexer.Proofs.Rule.Action

/-!
# Actions that are printed

`Step.print` writes a step, and an action clause `Prints` steps if they are written one after the
other with blanks and semicolons between them.  Such a clause is read as these steps, or fails at
the first that the rule may not have.

Conversely a clause that is read as steps `Writes` them: it is such a text, only that words may be
in any case, counts may have zeros in front, literals may be quoted and escaped in other ways, and
nothing needs to stand between two steps that stay apart without it.  Both are in
`Action.read_prints_writes`.

What is written passes through two readers.  `exists_isStep` takes the text of a step to its tokens
and `exists_isWritten` takes the tokens back to the text; what tokens are steps is told in
`Proofs/Rule/Action.lean`.  What is printed is written (`Prints.writes`).
-/

namespace RuleLexer

open Text
open Clause (Kind IsLexeme IsBody IsExpression isQuote unescape escape readFrom readFrom_blanks
  readFrom_isLexeme)

/-! ### Registered callbacks -/

/-- The registries that can be built. -/
inductive HostRegistry.IsBuilt : HostRegistry → Prop
  | empty : IsBuilt {}
  | withTest {r : HostRegistry} (expression : String) (holds : Scan → Bool) : IsBuilt r →
      IsBuilt (r.withTest expression holds)
  | withAction {r : HostRegistry} (expression : String) (edit : Scan → HostEdit) : IsBuilt r →
      IsBuilt (r.withAction expression edit)

theorem HostRegistry.IsBuilt.trim_eq {r : HostRegistry} (h : r.IsBuilt) :
    ∀ e ∈ r.actions, trim e.1.toList = e.1.toList := by
  induction h with
  | empty => simp
  | withTest _ _ _ ih => exact ih
  | withAction expression _ _ ih =>
    refine List.forall_mem_cons.2 ⟨?_, fun e he => ih e (List.mem_of_mem_filter he)⟩
    rw [trimmed, String.toList_ofList, trim_trim]

/-- There are no blanks around the name of a callback. -/
theorem HostRegistry.IsBuilt.trim_expression {r : HostRegistry} (h : r.IsBuilt) {name : String}
    {action : HostAction} (haction : r.action? name = some action) :
    action.expression = name ∧ trim name.toList = name.toList := by
  obtain ⟨edit, hlookup, rfl⟩ := Option.map_eq_some_iff.1 haction
  obtain ⟨before, after, hsplit, _⟩ := List.lookup_eq_some_iff.1 hlookup
  exact ⟨rfl, h.trim_eq (name, edit) (by rw [hsplit]; simp)⟩

/-! ### How steps are written -/

namespace Step

/-- A step as text. -/
def print : Step → String
  | fold => "continue"
  | skip count => "skip " ++ toString count
  | skipToken => "skip token"
  | throw message => "throw '" ++ String.ofList (message.toList.flatMap (escape '\'')) ++ "'"
  | join _ => "join"
  | tag name => "#" ++ name
  | host h => "[(" ++ h.expression ++ ")]"

/-- The steps that have a text where the test looks back at `lookBack` tokens.  The name of a
callback must fit between the brackets. -/
def IsPrintable (lookBack : Nat) (scope : Scope) : Step → Prop
  | skip count => 1 ≤ count ∧ count < UInt64.size
  | join count => count = lookBack
  | tag name => name ≠ "" ∧ ∀ c ∈ name.toList, Unicode.isWord c = true
  | host h => scope.hosts.action? h.expression = some h ∧ IsExpression h.expression.toList
  | fold | skipToken | throw _ => True

/-- The text of the step may stop before what follows: a word does so where no other word begins. -/
def StopsBefore (rest : List Char) : Step → Prop
  | throw _ | host _ => True
  | _ => ∀ c ∈ rest.head?, Unicode.isWord c = false

end Step

namespace Action

/-- The ways to write a step. -/
inductive IsWritten (lookBack : Nat) (scope : Scope) : Step → List Char → Prop
  | fold {word : List Char} : word.map Char.toLower = "continue".toList →
      IsWritten lookBack scope .fold word
  | skip {word gap : List Char} {count : Nat} (zeros : Nat) :
      word.map Char.toLower = "skip".toList →
      gap ≠ [] → gap.all isBlank = true → 1 ≤ count → count < UInt64.size →
      IsWritten lookBack scope (.skip count)
        (word ++ (gap ++ (List.replicate zeros '0' ++ Nat.toDigits 10 count)))
  | skipToken {word gap token : List Char} : word.map Char.toLower = "skip".toList →
      gap ≠ [] → gap.all isBlank = true → token.map Char.toLower = "token".toList →
      IsWritten lookBack scope .skipToken (word ++ (gap ++ token))
  | throw {word gap body : List Char} {quote : Char} : word.map Char.toLower = "throw".toList →
      gap.all isBlank = true → isQuote quote = true → IsBody quote true body →
      IsWritten lookBack scope (.throw (String.ofList (unescape body)))
        (word ++ (gap ++ quote :: (body ++ [quote])))
  | join {word : List Char} : word.map Char.toLower = "join".toList →
      IsWritten lookBack scope (.join lookBack) word
  | tag {name : List Char} : name ≠ [] → (∀ c ∈ name, Unicode.isWord c = true) →
      IsWritten lookBack scope (.tag (String.ofList name)) ('#' :: name)
  | host {body : List Char} {h : HostAction} : IsExpression body →
      scope.hosts.action? (String.ofList (trim body)) = some h →
      IsWritten lookBack scope (.host h) ('[' :: '(' :: (body ++ [')', ']']))

/-- What may stand between steps. -/
def IsSeparator (gap : List Char) : Prop :=
  ∀ c ∈ gap, isBlank c = true ∨ c = ';'

/-- The text is a sequence of steps, where `P step text rest` says that a step is written as `text`
in front of `rest`. -/
inductive Sequence (P : Step → List Char → List Char → Prop) : List Step → List Char → Prop
  | nil {gap : List Char} : IsSeparator gap → Sequence P [] gap
  | cons {gap text rest : List Char} {step : Step} {steps : List Step} : IsSeparator gap →
      P step text rest → Sequence P steps rest → Sequence P (step :: steps) (gap ++ (text ++ rest))

/-- The steps are printed, with one blank or semicolon at least behind each, or the end. -/
def Prints (lookBack : Nat) (scope : Scope) : List Step → List Char → Prop :=
  Sequence fun step text rest =>
    step.IsPrintable lookBack scope ∧ text = step.print.toList ∧
      ∀ c ∈ rest.head?, isBlank c = true ∨ c = ';'

/-- The steps are written in some way. -/
def Writes (lookBack : Nat) (scope : Scope) : List Step → List Char → Prop :=
  Sequence fun step text rest => IsWritten lookBack scope step text ∧ step.StopsBefore rest

variable {kind : RuleKind} {lookBack : Nat} {scope : Scope} {step : Step}
  {gap cs text rest word : List Char} {ss : List Step} {ts us : List Clause.Token}
  {P : Step → List Char → List Char → Prop}

/-! ### Printing is a way of writing -/

theorem toList_print_skip (count : Nat) :
    (Step.skip count).print.toList = "skip".toList ++ ([' '] ++ Nat.toDigits 10 count) := by
  rw [Step.print, String.toList_append, Nat.toString_eq_ofList_toDigits]
  exact congrArg ("skip ".toList ++ ·) String.toList_ofList

theorem isWritten_print (hhosts : scope.hosts.IsBuilt) (h : step.IsPrintable lookBack scope) :
    IsWritten lookBack scope step step.print.toList := by
  have hblank : [' '] ≠ [] ∧ [' '].all isBlank = true := ⟨List.cons_ne_nil _ _, rfl⟩
  cases step with
  | fold => exact .fold rfl
  | skip count =>
    have hword : "skip".toList.map Char.toLower = "skip".toList := rfl
    rw [toList_print_skip]
    exact .skip 0 hword hblank.1 hblank.2 h.1 h.2
  | skipToken =>
    have hword : "skip".toList.map Char.toLower = "skip".toList := rfl
    have htoken : "token".toList.map Char.toLower = "token".toList := rfl
    exact .skipToken hword hblank.1 hblank.2 htoken
  | throw message =>
    have hword : "throw".toList.map Char.toLower = "throw".toList := rfl
    have hquote : isQuote '\'' = true := rfl
    have hbody := Clause.escapedAs_escape hquote message.toList
    have hwritten : IsWritten lookBack scope _ _ :=
      .throw hword hblank.2 hquote (hbody.isBody hquote)
    rw [Clause.unescape_escapedAs hbody, String.ofList_toList] at hwritten
    have htext : (Step.throw message).print.toList
        = "throw '".toList ++ (message.toList.flatMap (escape '\'') ++ ['\'']) := by
      rw [Step.print, String.toList_append, String.toList_append, List.append_assoc]
      exact congrArg (fun cs => "throw '".toList ++ (cs ++ ['\''])) String.toList_ofList
    rw [htext]
    exact hwritten
  | join count =>
    obtain rfl : count = lookBack := h
    have hword : "join".toList.map Char.toLower = "join".toList := rfl
    exact .join hword
  | tag name =>
    have hne : name.toList ≠ [] := fun hnil => h.1 (String.toList_eq_nil_iff.1 hnil)
    have hwritten : IsWritten lookBack scope _ _ := .tag hne h.2
    rw [String.ofList_toList] at hwritten
    rw [Step.print, String.toList_append]
    exact hwritten
  | host action =>
    rw [Step.print, String.toList_append, String.toList_append, List.append_assoc]
    refine .host h.2 ?_
    rw [(hhosts.trim_expression h.1).2, String.ofList_toList]
    exact h.1

/-- Behind a step a blank, a semicolon or the end keeps what follows apart. -/
theorem stopsBefore_of_separated (h : ∀ c ∈ rest.head?, isBlank c = true ∨ c = ';') :
    step.StopsBefore rest := by
  have hword : ∀ c ∈ rest.head?, Unicode.isWord c = false := by
    intro c hc
    rcases h c hc with hblank | rfl
    · exact Unicode.isWord_of_isBlank hblank
    · decide
  cases step <;> first | exact hword | trivial

theorem isWritten_of_isPrinted (hhosts : scope.hosts.IsBuilt) {step : Step} {text rest : List Char}
    (h : step.IsPrintable lookBack scope ∧ text = step.print.toList ∧
      ∀ c ∈ rest.head?, isBlank c = true ∨ c = ';') :
    IsWritten lookBack scope step text ∧ step.StopsBefore rest := by
  obtain ⟨hprintable, rfl, hrest⟩ := h
  exact ⟨isWritten_print hhosts hprintable, stopsBefore_of_separated hrest⟩

theorem Sequence.imp {Q : Step → List Char → List Char → Prop} (h : Sequence P ss cs)
    (hPQ : ∀ {step text rest}, P step text rest → Q step text rest) : Sequence Q ss cs := by
  induction h with
  | nil hgap => exact .nil hgap
  | cons hgap hP _ ih => exact .cons hgap (hPQ hP) ih

/-- **What is printed is written.** -/
theorem Prints.writes (hhosts : scope.hosts.IsBuilt) (h : Prints lookBack scope ss cs) :
    Writes lookBack scope ss cs :=
  h.imp (isWritten_of_isPrinted hhosts)

/-! ### From the text of a step to its tokens -/

/-- A word stops before a blank. -/
theorem isWord_head?_of_blanks (hne : gap ≠ []) (hgap : gap.all isBlank = true) :
    ∀ c ∈ (gap ++ cs).head?, Unicode.isWord c = false := by
  obtain ⟨d, gap, rfl⟩ := List.exists_cons_of_ne_nil hne
  rw [List.all_cons, Bool.and_eq_true] at hgap
  intro c hc
  obtain rfl := Option.some.inj hc
  exact Unicode.isWord_of_isBlank hgap.1

/-- A reserved word as a lexeme. -/
theorem isLexeme_word {k : Kind} {reserved : String} (hk : k.reservedWord? = some reserved)
    (hword : word.map Char.toLower = reserved.toList)
    (hrest : ∀ c ∈ rest.head?, Unicode.isWord c = false) :
    IsLexeme k word word ∧ k.StopsBefore rest := by
  have hkind : k.isWord = true := by
    rw [← Clause.wordKind_reservedWord hk hword]
    exact Clause.isWord_wordKind word
  refine ⟨.reservedWord hk hword, fun c hc => ?_⟩
  rw [Kind.goesOn_of_isWord hkind]
  exact hrest c hc

theorem takeWhile_word {k : Kind} {reserved : String} (hk : k.reservedWord? = some reserved)
    (hword : word.map Char.toLower = reserved.toList)
    (hrest : ∀ c ∈ rest.head?, Unicode.isWord c = false) :
    (word ++ rest).takeWhile Unicode.isWord = word :=
  (takeWhile_append_of_head?
    (Clause.isWord_of_isName (Clause.isName_of_reservedWord hk hword)) hrest).1

theorem isLexeme_number (hne : cs ≠ []) (hdigits : ∀ c ∈ cs, c.isDigit = true) :
    IsLexeme .number cs cs := by
  obtain ⟨c, cs, rfl⟩ := List.exists_cons_of_ne_nil hne
  obtain ⟨hc, hcs⟩ := List.forall_mem_cons.1 hdigits
  refine .number hc fun d hd => Clause.isWord_of_isAlphanum ?_
  rw [Char.isAlphanum, hcs d hd, Bool.or_true]

/-- Two lexemes with blanks between them. -/
theorem readFrom_pair {k k' : Kind} {value value' text' : List Char} (h : IsLexeme k value text)
    (hstop : k.StopsBefore (gap ++ (text' ++ rest))) (hgap : gap.all isBlank = true)
    (h' : IsLexeme k' value' text') (hrest : k'.StopsBefore rest) (offset : Nat) : ∃ m n,
    readFrom offset (text ++ (gap ++ text') ++ rest) = (readFrom n rest).map fun ts =>
      ⟨k, String.ofList value, offset⟩ :: ⟨k', String.ofList value', m⟩ :: ts := by
  refine ⟨offset + byteLength text + byteLength gap,
    offset + byteLength text + byteLength gap + byteLength text', ?_⟩
  rw [List.append_assoc, List.append_assoc, readFrom_isLexeme h hstop, readFrom_blanks hgap,
    readFrom_isLexeme h' hrest]
  cases readFrom _ rest <;> rfl

/-- **The text of a step is read as tokens that are this step.** -/
theorem exists_isStep (h : IsWritten lookBack scope step text) (hrest : step.StopsBefore rest)
    (offset : Nat) : ∃ t ts n,
      readFrom offset (text ++ rest) = (readFrom n rest).map (t :: ts ++ ·) ∧
      IsStep lookBack scope step (t :: ts) ∧
      (step.flowWord?.isSome = true → t.value = String.ofList (text.takeWhile Unicode.isWord)) := by
  have hnone : ∀ c ∈ ([] : List Char).head?, Unicode.isWord c = false := by simp
  have hcalm : ∀ {step : Step} {P : Prop}, step.flowWord? = none →
      step.flowWord?.isSome = true → P :=
    fun h hflow => by simp [h] at hflow
  cases h with
  | fold hword =>
    have hk : Kind.reservedWord? .continueWord = some "continue" := rfl
    obtain ⟨hlexeme, hstop⟩ := isLexeme_word hk hword hrest
    have htake := takeWhile_word hk hword hnone
    rw [List.append_nil] at htake
    exact ⟨_, [], _, readFrom_isLexeme hlexeme hstop offset, .fold rfl, fun _ => by rw [htake]⟩
  | @skip _ gap count zeros hword hne hgap hone hlt =>
    have hk : Kind.reservedWord? .skipWord = some "skip" := rfl
    obtain ⟨hlexeme, hstop⟩ := isLexeme_word hk hword (isWord_head?_of_blanks hne hgap)
    have hcount : count? (String.ofList (List.replicate zeros '0' ++ Nat.toDigits 10 count))
        = some count :=
      count?_eq_some_iff.2 ⟨⟨hone, hlt⟩, zeros, String.toList_ofList⟩
    have hnumber := isLexeme_number (ne_nil_of_count? hcount) (isDigit_of_count? hcount)
    rw [String.toList_ofList] at hnumber
    obtain ⟨m, n, hread⟩ := readFrom_pair hlexeme hstop hgap hnumber hrest offset
    refine ⟨_, [_], n, hread, .skip rfl rfl hcount, fun _ => ?_⟩
    rw [takeWhile_word hk hword (isWord_head?_of_blanks hne hgap)]
  | @skipToken _ gap token hword hne hgap htoken =>
    have hk : Kind.reservedWord? .skipWord = some "skip" := rfl
    obtain ⟨hlexeme, hstop⟩ := isLexeme_word hk hword (isWord_head?_of_blanks hne hgap)
    obtain ⟨hlexeme', hstop'⟩ := isLexeme_word (k := .tokenWord) rfl htoken hrest
    obtain ⟨m, n, hread⟩ := readFrom_pair hlexeme hstop hgap hlexeme' hstop' offset
    refine ⟨_, [_], n, hread, .skipToken rfl rfl, fun _ => ?_⟩
    rw [takeWhile_word hk hword (isWord_head?_of_blanks hne hgap)]
  | @throw _ gap body quote hword hgap hquote hbody =>
    have hk : Kind.reservedWord? .throwWord = some "throw" := rfl
    have hquoted : ∀ cs, ∀ c ∈ (gap ++ quote :: cs).head?, Unicode.isWord c = false := by
      intro cs
      by_cases hne : gap = []
      · subst hne
        intro c hc
        obtain rfl := Option.some.inj hc
        rcases Clause.isQuote_iff.1 hquote with rfl | rfl | rfl <;> decide
      · exact isWord_head?_of_blanks hne hgap
    obtain ⟨hlexeme, hstop⟩ := isLexeme_word hk hword (hquoted _)
    have hstring := IsLexeme.string hquote hbody
    obtain ⟨m, n, hread⟩ := readFrom_pair hlexeme hstop hgap hstring
      (Kind.stopsBefore_of_goesOn fun _ => rfl) offset
    exact ⟨_, [_], n, hread, .throw rfl rfl rfl, hcalm rfl⟩
  | join hword =>
    obtain ⟨hlexeme, hstop⟩ := isLexeme_word (k := .joinWord) rfl hword hrest
    exact ⟨_, [], _, readFrom_isLexeme hlexeme hstop offset, .join rfl, hcalm rfl⟩
  | tag hne hname =>
    exact ⟨_, [], _, readFrom_isLexeme (.tag hne hname) hrest offset, .tag rfl rfl, hcalm rfl⟩
  | host hbody hhost =>
    have hlexeme := IsLexeme.hostExpression hbody
    have hstop : Kind.hostExpression.StopsBefore rest := Kind.stopsBefore_of_goesOn fun _ => rfl
    exact ⟨_, [], _, readFrom_isLexeme hlexeme hstop offset, .host rfl hhost, hcalm rfl⟩

/-! ### From the text of an action to its tokens -/

theorem steps_semicolons (h : ∀ t ∈ us, t.kind = .semicolon) :
    steps kind lookBack scope (us ++ ts) = steps kind lookBack scope ts := by
  induction us with
  | nil => rfl
  | cons t us ih =>
    obtain ⟨ht, hus⟩ := List.forall_mem_cons.1 h
    rw [List.cons_append, steps_semicolon ht, ih hus]

/-- What stands between steps is read as semicolons. -/
theorem exists_semicolons (h : IsSeparator gap) (offset : Nat) (cs : List Char) : ∃ us n,
    (∀ t ∈ us, t.kind = .semicolon) ∧
      readFrom offset (gap ++ cs) = (readFrom n cs).map (us ++ ·) := by
  induction gap generalizing offset with
  | nil =>
    refine ⟨[], offset, by simp, ?_⟩
    rw [List.nil_append]
    cases readFrom offset cs <;> rfl
  | cons c gap ih =>
    obtain ⟨hc, hgap⟩ := List.forall_mem_cons.1 h
    rcases hc with hblank | rfl
    · obtain ⟨us, n, hus, hread⟩ := ih hgap (offset + c.utf8Size)
      exact ⟨us, n, hus, by rw [List.cons_append, readFrom, if_pos hblank, hread]⟩
    · obtain ⟨us, n, hus, hread⟩ := ih hgap (offset + byteLength [';'])
      have hsemicolon : Kind.operator? .semicolon = some ";" := rfl
      have hlexeme : IsLexeme .semicolon [';'] [';'] := .operator hsemicolon
      refine ⟨⟨.semicolon, ";", offset⟩ :: us, n, List.forall_mem_cons.2 ⟨rfl, hus⟩, ?_⟩
      rw [← List.singleton_append, List.append_assoc,
        readFrom_isLexeme hlexeme (Kind.stopsBefore_of_goesOn fun _ => rfl), hread]
      cases readFrom n cs <;> rfl

/-- **A sequence of steps is read as these steps**, or fails at the first that the rule may not
have. -/
theorem Sequence.exists_tokens (kind : RuleKind) (hP : ∀ {step text rest}, P step text rest →
      IsWritten lookBack scope step text ∧ step.StopsBefore rest)
    (h : Sequence P ss cs) (offset : Nat) : ∃ ts, readFrom offset cs = .ok ts ∧
      ((∀ step ∈ ss, kind.Allows step) → steps kind lookBack scope ts = .ok ss) ∧
      ∀ before step after, ss = before ++ step :: after → (∀ s ∈ before, kind.Allows s) →
        ¬ kind.Allows step → ∃ text rest, P step text rest ∧
          steps kind lookBack scope ts = .error (.actionNotAllowed
            (String.ofList (text.takeWhile Unicode.isWord)) kind.label) := by
  induction h generalizing offset with
  | @nil gap hgap =>
    obtain ⟨us, n, hus, hread⟩ := exists_semicolons hgap offset []
    rw [List.append_nil, readFrom] at hread
    refine ⟨us ++ [⟨.eof, "EOF", n⟩], hread.trans rfl, fun _ => ?_, fun before _ _ hsplit => ?_⟩
    · rw [steps_semicolons hus]
      exact steps_eof rfl
    · simp at hsplit
  | @cons gap text rest first ss hgap hfirst _ ih =>
    obtain ⟨hwritten, hstop⟩ := hP hfirst
    obtain ⟨us, m, hus, hgapRead⟩ := exists_semicolons hgap offset (text ++ rest)
    obtain ⟨t, ts, n, hstepRead, hstep, hword⟩ := exists_isStep hwritten hstop m
    obtain ⟨vs, hrest, hallowed, hforbidden⟩ := ih n
    obtain ⟨htaken, hrefused⟩ := steps_of_isStep hstep vs
    refine ⟨us ++ (t :: ts ++ vs), ?_, fun hall => ?_,
      fun before step after hsplit hbefore hno => ?_⟩
    · rw [hgapRead, hstepRead, hrest]
      rfl
    · obtain ⟨hone, hmore⟩ := List.forall_mem_cons.1 hall
      rw [steps_semicolons hus, htaken hone, hallowed hmore]
      rfl
    · rw [steps_semicolons hus]
      cases before with
      | nil =>
        obtain ⟨rfl, rfl⟩ := List.cons.inj hsplit
        refine ⟨text, rest, hfirst, ?_⟩
        have hflow : first.flowWord?.isSome = true := by
          by_contra hflow
          exact hno fun h => absurd h hflow
        rw [hrefused hno, hword hflow]
      | cons s before =>
        obtain ⟨rfl, rfl⟩ := List.cons.inj hsplit
        obtain ⟨hone, hmore⟩ := List.forall_mem_cons.1 hbefore
        obtain ⟨text', rest', hP', herror⟩ := hforbidden before step after rfl hmore hno
        refine ⟨text', rest', hP', ?_⟩
        rw [htaken hone, herror]
        rfl

/-! ### From the tokens back to the text -/

theorem Sequence.prepend (hgap : IsSeparator gap) (h : Sequence P ss cs) :
    Sequence P ss (gap ++ cs) := by
  cases h with
  | nil hgap' => exact .nil (List.forall_mem_append.2 ⟨hgap, hgap'⟩)
  | cons hgap' hP hrest =>
    rw [← List.append_assoc]
    exact .cons (List.forall_mem_append.2 ⟨hgap, hgap'⟩) hP hrest

theorem isSeparator_of_blanks (h : gap.all isBlank = true) : IsSeparator gap :=
  fun c hc => .inl (List.all_eq_true.1 h c hc)

/-- The lexemes of the first two tokens. -/
theorem exists_pair_of_readFrom {offset : Nat} {t u : Clause.Token} {k k' : Kind}
    (h : readFrom offset cs = .ok (t :: u :: us)) (ht : t.kind = k) (hk : k ≠ .eof)
    (hu : u.kind = k') (hk' : k' ≠ .eof) : ∃ gap text gap' text' rest n,
      cs = gap ++ (text ++ (gap' ++ text') ++ rest) ∧ gap.all isBlank = true ∧
      IsLexeme k t.value.toList text ∧ k.StopsBefore (gap' ++ (text' ++ rest)) ∧
      gap'.all isBlank = true ∧ IsLexeme k' u.value.toList text' ∧ k'.StopsBefore rest ∧
      readFrom n rest = .ok us := by
  obtain ⟨gap, text, _, _, rfl, hgap, hlexeme, hstop, hmore⟩ :=
    Clause.exists_lexeme_of_readFrom h ht hk
  obtain ⟨gap', text', rest, n, rfl, hgap', hlexeme', hstop', hrest⟩ :=
    Clause.exists_lexeme_of_readFrom hmore hu hk'
  refine ⟨gap, text, gap', text', rest, n, ?_, hgap, hlexeme, hstop, hgap', hlexeme', hstop', hrest⟩
  rw [List.append_assoc, List.append_assoc]

/-- Two words have a gap between them. -/
theorem gap_ne_nil (hne : text ≠ []) (htext : ∀ c ∈ text, Unicode.isWord c = true)
    (h : ∀ c ∈ (gap ++ (text ++ rest)).head?, Unicode.isWord c = false) : gap ≠ [] := by
  rintro rfl
  obtain ⟨c, cs, rfl⟩ := List.exists_cons_of_ne_nil hne
  exact Bool.false_ne_true ((h c rfl).symm.trans (htext c List.mem_cons_self))

/-- A step with nothing in front of it. -/
theorem Sequence.cons_touching (hP : P step text rest) (h : Sequence P ss rest) :
    Sequence P (step :: ss) (text ++ rest) := by
  have hnone : IsSeparator [] := isSeparator_of_blanks rfl
  exact .cons hnone hP h

/-- **Tokens that are a step come from a text of this step.** -/
theorem exists_isWritten {offset : Nat} (hstep : IsStep lookBack scope step ts)
    (h : readFrom offset cs = .ok (ts ++ us)) : ∃ gap text rest n, cs = gap ++ (text ++ rest) ∧
      gap.all isBlank = true ∧ IsWritten lookBack scope step text ∧ step.StopsBefore rest ∧
      readFrom n rest = .ok us := by
  cases hstep with
  | fold ht =>
    obtain ⟨gap, text, rest, n, rfl, hgap, hlexeme, hstop, hrest⟩ :=
      Clause.exists_lexeme_of_readFrom h ht (by decide)
    exact ⟨gap, text, rest, n, rfl, hgap, .fold (hlexeme.of_reservedWord rfl).1, hstop, hrest⟩
  | @skip t u count ht hu hcount =>
    obtain ⟨gap, text, gap', text', rest, n, rfl, hgap, hlexeme, hstop, hgap', hlexeme', hstop',
      hrest⟩ := exists_pair_of_readFrom h ht (by decide) hu (by decide)
    obtain rfl : text' = u.value.toList := hlexeme'.valueOf_eq
    obtain ⟨⟨hone, hlt⟩, zeros, hzeros⟩ := count?_eq_some_iff.1 hcount
    have hwords : ∀ c ∈ u.value.toList, Unicode.isWord c = true := fun c hc =>
      Clause.isWord_of_isAlphanum (by
        rw [Char.isAlphanum, isDigit_of_count? hcount c hc, Bool.or_true])
    have hgap'ne : gap' ≠ [] := gap_ne_nil (ne_nil_of_count? hcount) hwords hstop
    refine ⟨gap, _, rest, n, rfl, hgap, ?_, hstop', hrest⟩
    rw [hzeros]
    exact .skip zeros (hlexeme.of_reservedWord rfl).1 hgap'ne hgap' hone hlt
  | skipToken ht hu =>
    obtain ⟨gap, text, gap', text', rest, n, rfl, hgap, hlexeme, hstop, hgap', hlexeme', hstop',
      hrest⟩ := exists_pair_of_readFrom h ht (by decide) hu (by decide)
    have htoken := (hlexeme'.of_reservedWord rfl).1
    have hk : Kind.reservedWord? .tokenWord = some "token" := rfl
    have hname := Clause.isName_of_reservedWord hk htoken
    have hne : text' ≠ [] := by
      obtain ⟨c, cs, rfl, _⟩ := hname
      exact List.cons_ne_nil _ _
    exact ⟨gap, _, rest, n, rfl, hgap, .skipToken (hlexeme.of_reservedWord rfl).1
      (gap_ne_nil hne (Clause.isWord_of_isName hname) hstop) hgap' htoken, hstop', hrest⟩
  | throw ht hm hvalue =>
    obtain ⟨gap, text, gap', text', rest, n, rfl, hgap, hlexeme, _, hgap', hlexeme', _, hrest⟩ :=
      exists_pair_of_readFrom h ht (by decide) hm (by decide)
    rw [hvalue] at hlexeme'
    obtain ⟨quote, body, hquote, hbody, hmessage, rfl⟩ := hlexeme'.of_string
    refine ⟨gap, _, rest, n, rfl, hgap, ?_, trivial, hrest⟩
    have hwritten : IsWritten lookBack scope _ _ :=
      .throw (hlexeme.of_reservedWord rfl).1 hgap' hquote hbody
    rwa [← hmessage, String.ofList_toList] at hwritten
  | join ht =>
    obtain ⟨gap, text, rest, n, rfl, hgap, hlexeme, hstop, hrest⟩ :=
      Clause.exists_lexeme_of_readFrom h ht (by decide)
    exact ⟨gap, text, rest, n, rfl, hgap, .join (hlexeme.of_reservedWord rfl).1, hstop, hrest⟩
  | tag ht hvalue =>
    obtain ⟨gap, text, rest, n, rfl, hgap, hlexeme, hstop, hrest⟩ :=
      Clause.exists_lexeme_of_readFrom h ht (by decide)
    rw [hvalue] at hlexeme
    obtain ⟨hne, hname, rfl⟩ := hlexeme.of_tag
    refine ⟨gap, _, rest, n, rfl, hgap, ?_, hstop, hrest⟩
    have hwritten : IsWritten lookBack scope _ _ := .tag hne hname
    rwa [String.ofList_toList] at hwritten
  | host ht hhost =>
    obtain ⟨gap, text, rest, n, rfl, hgap, hlexeme, _, hrest⟩ :=
      Clause.exists_lexeme_of_readFrom h ht (by decide)
    obtain ⟨body, hbody, hvalue, rfl⟩ := hlexeme.of_hostExpression
    refine ⟨gap, _, rest, n, rfl, hgap, .host hbody ?_, trivial, hrest⟩
    rw [← hvalue, String.ofList_toList]
    exact hhost

/-- **What is read as steps is a text of these steps.** -/
theorem writes_of_denotes {offset : Nat} (hdenotes : Denotes lookBack scope ss ts)
    (h : readFrom offset cs = .ok ts) : Writes lookBack scope ss cs := by
  induction hdenotes generalizing offset cs with
  | stop hhead =>
    exact .nil (isSeparator_of_blanks (Clause.all_isBlank_of_readFrom h hhead))
  | @semicolon t ts ss ht _ ih =>
    obtain ⟨gap, text, rest, n, rfl, hgap, hlexeme, _, hrest⟩ :=
      Clause.exists_lexeme_of_readFrom h ht (by decide)
    have hsemicolon : Kind.operator? .semicolon = some ";" := rfl
    obtain rfl := hlexeme.of_operator hsemicolon
    have hseparator : IsSeparator ";".toList := fun c hc => .inr (List.mem_singleton.1 hc)
    exact ((ih hrest).prepend hseparator).prepend (isSeparator_of_blanks hgap)
  | step hstep _ ih =>
    obtain ⟨gap, text, rest, n, rfl, hgap, hwritten, hstop, hrest⟩ := exists_isWritten hstep h
    exact .cons (isSeparator_of_blanks hgap) ⟨hwritten, hstop⟩ (ih hrest)

/-! ### Reading and printing -/

/-- A printed step begins with its word. -/
theorem takeWhile_print {word : String} (h : step.flowWord? = some word) :
    String.ofList (step.print.toList.takeWhile Unicode.isWord) = word := by
  cases step <;> simp only [Step.flowWord?, Option.some.injEq, reduceCtorEq] at h <;> subst h
  case fold => decide
  case skipToken => decide
  case skip count =>
    have hk : Kind.reservedWord? .skipWord = some "skip" := rfl
    have hword : "skip".toList.map Char.toLower = "skip".toList := rfl
    have hblank : ∀ c ∈ (' ' :: Nat.toDigits 10 count).head?, Unicode.isWord c = false := by
      intro c hc
      obtain rfl := Option.some.inj hc
      decide
    rw [toList_print_skip, List.singleton_append, takeWhile_word hk hword hblank,
      String.ofList_toList]

theorem allows_ifThen (step : Step) : RuleKind.ifThen.Allows step := fun _ => rfl

theorem allows_letRule_iff {k : LetKind} :
    (RuleKind.letRule k).Allows step ↔ step.flowWord? = none := by
  rw [RuleKind.Allows, ← Option.not_isSome_iff_eq_none]
  simp [RuleKind.allowsFlowControl]

theorem read_of_readFrom (hkind : kind ≠ .letRule .throw) {clause : String}
    (h : readFrom 0 clause.toList = .ok ts) :
    read kind lookBack scope clause = steps kind lookBack scope ts := by
  rw [read_eq hkind, Clause.read, h]
  rfl

/-- **What is written as steps is what is read as these steps**, in the rules that may have them. -/
theorem read_eq_ok_iff (hkind : kind ≠ .letRule .throw) {clause : String} :
    read kind lookBack scope clause = .ok ss ↔
      Writes lookBack scope ss clause.toList ∧ ∀ step ∈ ss, kind.Allows step := by
  constructor
  · intro h
    rw [read_eq hkind, Clause.read] at h
    cases hread : readFrom 0 clause.toList with
    | error fault => simp [hread, Except.bind] at h
    | ok ts =>
      rw [hread] at h
      obtain ⟨hdenotes, hallowed⟩ := denotes_of_steps h
      exact ⟨writes_of_denotes hdenotes hread, hallowed⟩
  · rintro ⟨hwrites, hallowed⟩
    obtain ⟨ts, hread, hsteps, _⟩ := hwrites.exists_tokens kind id 0
    rw [read_of_readFrom hkind hread, hsteps hallowed]

/-- **What is printed fails at the first step that the rule may not have**, with the word of it. -/
theorem read_eq_error_of_prints (hhosts : scope.hosts.IsBuilt) (hkind : kind ≠ .letRule .throw)
    {clause word : String} {before after : List Step}
    (h : Prints lookBack scope (before ++ step :: after) clause.toList)
    (hbefore : ∀ s ∈ before, kind.Allows s) (hno : ¬ kind.Allows step)
    (hword : step.flowWord? = some word) :
    read kind lookBack scope clause = .error (.actionNotAllowed word kind.label) := by
  obtain ⟨ts, hread, _, hforbidden⟩ := h.exists_tokens kind (isWritten_of_isPrinted hhosts) 0
  obtain ⟨text, rest, ⟨_, rfl, _⟩, herror⟩ := hforbidden before step after rfl hbefore hno
  rw [read_of_readFrom hkind hread, herror, takeWhile_print hword]

/-- **Actions are read as they are printed.**  An if-rule has just the steps that are printed.  A
let-rule has them if none decides the flow of the event, and fails at the first that does.
Conversely every action that is read is a text of the steps that it is read as. -/
theorem read_prints_writes (hhosts : scope.hosts.IsBuilt) (lookBack : Nat) (ss : List Step)
    (clause : String) :
    (Prints lookBack scope ss clause.toList →
      read .ifThen lookBack scope clause = .ok ss ∧
      ∀ k, k ≠ LetKind.throw →
        ((∀ step ∈ ss, step.flowWord? = none) →
          read (.letRule k) lookBack scope clause = .ok ss) ∧
        ∀ before step after word, ss = before ++ step :: after →
          (∀ s ∈ before, s.flowWord? = none) → step.flowWord? = some word →
          read (.letRule k) lookBack scope clause = .error (.actionNotAllowed word k.label)) ∧
    ∀ kind, kind ≠ .letRule .throw → (read kind lookBack scope clause = .ok ss ↔
      Writes lookBack scope ss clause.toList ∧ ∀ step ∈ ss, kind.Allows step) := by
  have hif : RuleKind.ifThen ≠ .letRule .throw := by decide
  have hlet : ∀ {k : LetKind}, k ≠ .throw → RuleKind.letRule k ≠ .letRule .throw :=
    fun hk h => hk (RuleKind.letRule.inj h)
  refine ⟨fun hprints => ⟨?_, fun k hk => ⟨fun hfree => ?_, ?_⟩⟩, fun kind hkind =>
    read_eq_ok_iff hkind⟩
  · exact (read_eq_ok_iff hif).2 ⟨hprints.writes hhosts, fun step _ => allows_ifThen step⟩
  · exact (read_eq_ok_iff (hlet hk)).2
      ⟨hprints.writes hhosts, fun step hstep => allows_letRule_iff.2 (hfree step hstep)⟩
  · rintro before step after word rfl hfree hword
    have hno : ¬ (RuleKind.letRule k).Allows step := by
      rw [allows_letRule_iff, hword]
      exact Option.some_ne_none word
    exact read_eq_error_of_prints hhosts (hlet hk) hprints
      (fun s hs => allows_letRule_iff.2 (hfree s hs)) hno hword

/-- A callback, and the registry where it has the name `a`. -/
def namedAction : HostAction :=
  ⟨"a", fun s => { token := s.token.addTag "x" }⟩

def namedHosts : HostRegistry :=
  ({} : HostRegistry).withAction " a " namedAction.edit

/-- The clause `;#t [(a)]` is printed, and so is `join;skip 7`, where a let-rule fails at the second
step.  The clause `SKIP 007[( a )]#t` is written in another way. -/
theorem read_prints_writes_named :
    read .ifThen 0 ⟨[], namedHosts⟩ ";#t [(a)]" = .ok [.tag "t", .host namedAction] ∧
    read (.letRule .beGroup) 0 ⟨[], namedHosts⟩ ";#t [(a)]" = .ok [.tag "t", .host namedAction] ∧
    read (.letRule .be) 2 ⟨[], namedHosts⟩ "join;skip 7"
      = .error (.actionNotAllowed "skip" "be") ∧
    read .ifThen 0 ⟨[], namedHosts⟩ "SKIP 007[( a )]#t"
      = .ok [.skip 7, .host namedAction, .tag "t"] := by
  have hhosts : (⟨[], namedHosts⟩ : Scope).hosts.IsBuilt := .withAction _ _ .empty
  have hnone : IsSeparator [] := isSeparator_of_blanks rfl
  have hblank : IsSeparator [' '] := isSeparator_of_blanks rfl
  have hsemicolon : IsSeparator [';'] := fun c hc => .inr (List.mem_singleton.1 hc)
  have hends : ∀ c ∈ ([] : List Char).head?, isBlank c = true ∨ c = ';' := by simp
  have hbegins : ∀ c cs, (isBlank c = true ∨ c = ';') →
      ∀ d ∈ (c :: cs).head?, isBlank d = true ∨ d = ';' := fun c cs hc d hd =>
    Option.some.inj hd ▸ hc
  have hname : ∀ c ∈ "t".toList, Unicode.isWord c = true := List.all_eq_true.1 rfl
  have hexpression : IsExpression "a".toList ∧ IsExpression " a ".toList := by
    refine ⟨⟨?_, ?_⟩, ⟨?_, ?_⟩⟩ <;> decide
  have hprints : Prints 0 ⟨[], namedHosts⟩ [.tag "t", .host namedAction] ";#t [(a)]".toList := by
    have htext : ";#t [(a)]".toList = [';'] ++ ((Step.tag "t").print.toList ++
        ([' '] ++ ((Step.host namedAction).print.toList ++ []))) := by cbv
    rw [htext]
    exact .cons hsemicolon ⟨⟨by decide, hname⟩, rfl, hbegins _ _ (.inl rfl)⟩
      (.cons hblank ⟨⟨rfl, hexpression.1⟩, rfl, hends⟩ (.nil hnone))
  have hforbidden : Prints 2 ⟨[], namedHosts⟩ [.join 2, .skip 7] "join;skip 7".toList := by
    have htext : "join;skip 7".toList = (Step.join 2).print.toList ++
        ([';'] ++ ((Step.skip 7).print.toList ++ [])) := by cbv
    rw [htext]
    exact .cons_touching ⟨rfl, rfl, hbegins _ _ (.inr rfl)⟩
      (.cons hsemicolon ⟨⟨by decide, by decide⟩, rfl, hends⟩ (.nil hnone))
  have hwrites : Writes 0 ⟨[], namedHosts⟩ [.skip 7, .host namedAction, .tag "t"]
      "SKIP 007[( a )]#t".toList := by
    have htext : "SKIP 007[( a )]#t".toList =
        ("SKIP".toList ++ ([' '] ++ (List.replicate 2 '0' ++ Nat.toDigits 10 7))) ++
          ('[' :: '(' :: (" a ".toList ++ [')', ']']) ++ ('#' :: "t".toList ++ [])) := by cbv
    have hskip : IsWritten 0 ⟨[], namedHosts⟩ (.skip 7) _ :=
      .skip 2 (show "SKIP".toList.map Char.toLower = "skip".toList from rfl)
        (List.cons_ne_nil ' ' []) rfl (by decide) (by decide)
    have hhost : IsWritten 0 ⟨[], namedHosts⟩ (.host namedAction) _ := .host hexpression.2 rfl
    have htag : IsWritten 0 ⟨[], namedHosts⟩ (.tag "t") ('#' :: "t".toList) :=
      .tag (by decide) hname
    have hapart : ∀ cs, ∀ c ∈ ('[' :: cs).head?, Unicode.isWord c = false := fun cs c hc =>
      Option.some.inj hc ▸ rfl
    rw [htext]
    exact .cons_touching ⟨hskip, hapart _⟩ (.cons_touching ⟨hhost, trivial⟩
      (.cons_touching ⟨htag, by simp [Step.StopsBefore]⟩ (.nil hnone)))
  have hone := (read_prints_writes hhosts 0 _ _).1 hprints
  have htwo := (read_prints_writes hhosts 2 _ _).1 hforbidden
  have hthree := (read_prints_writes hhosts 0 [.skip 7, .host namedAction, .tag "t"]
    "SKIP 007[( a )]#t").2 .ifThen
  refine ⟨hone.1, (hone.2 .beGroup (by decide)).1 (by simp [Step.flowWord?]), ?_, ?_⟩
  · exact (htwo.2 .be (by decide)).2 [.join 2] (.skip 7) [] "skip" rfl
      (by simp [Step.flowWord?]) rfl
  · exact (hthree (by decide)).2 ⟨hwrites, fun _ _ => allows_ifThen _⟩

/-- Callbacks whose names have the closing brackets, or a newline, in them. -/
def closingAction : HostAction :=
  ⟨"a)]b", fun s => { token := s.token.addTag "x" }⟩

def brokenAction : HostAction :=
  ⟨"a\nb", fun s => { token := s.token.addTag "x" }⟩

def misnamedHosts : HostRegistry :=
  (({} : HostRegistry).withAction "a)]b" closingAction.edit).withAction "a\nb" brokenAction.edit

/-- The name of a callback must fit between the brackets.  A callback can be registered as `a)]b`,
but its text ends at the first closing brackets, and what follows is no step.  One can be registered
with a newline in its name, but brackets are closed on the line where they are opened. -/
theorem read_misnamed_host :
    misnamedHosts.IsBuilt ∧
    (misnamedHosts.action? "a)]b" = some closingAction ∧
      (Step.host closingAction).print = "[(a)]b)]" ∧
      read .ifThen 0 ⟨[], misnamedHosts⟩ "[(a)]b)]" = .error (.unrecognisedToken ")") ∧
      read .ifThen 0 ⟨[], misnamedHosts⟩ "[(a)]b)]" ≠ .ok [.host closingAction]) ∧
    (misnamedHosts.action? "a\nb" = some brokenAction ∧
      (Step.host brokenAction).print = "[(a\nb)]" ∧
      read .ifThen 0 ⟨[], misnamedHosts⟩ "[(a\nb)]" = .error (.unterminatedLiteral "[(a\nb)]") ∧
      read .ifThen 0 ⟨[], misnamedHosts⟩ "[(a\nb)]" ≠ .ok [.host brokenAction]) := by
  have hclosing : read .ifThen 0 ⟨[], misnamedHosts⟩ "[(a)]b)]"
      = .error (.unrecognisedToken ")") := by cbv
  have hbroken : read .ifThen 0 ⟨[], misnamedHosts⟩ "[(a\nb)]"
      = .error (.unterminatedLiteral "[(a\nb)]") := by cbv
  refine ⟨.withAction _ _ (.withAction _ _ .empty), ⟨by rfl, by rfl, hclosing, ?_⟩,
    by rfl, by rfl, hbroken, ?_⟩
  · simp [hclosing]
  · simp [hbroken]

end Action

end RuleLexer
