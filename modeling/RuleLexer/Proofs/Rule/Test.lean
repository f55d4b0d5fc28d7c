import RuleLexer.Proofs.Clause.Reader
import RuleLexer.Proofs.Rule.Symbols
import RuleLexer.Regex.Reader

/-!
# The grammar of tests

`IsTest` says which sequences of tokens are tests.  `read_iff` is the result: a clause is read as a
test exactly when its tokens are one, and the predicate that is read holds exactly when all operands
of one of the alternatives are true.

* `checkSides_ok_iff`: the positional operators have their operands.
* `combine_ok_iff`, `holds_of_combine`: the items are joined.  The state in between is an
  alternative that was begun and perhaps a combinator that waits for an operand.  Of what was read
  before, only the last symbol matters for whether the test can go on (`MayEnd`), and only the truth
  of the alternative that was begun matters for what it means (`SomeTrue`).
-/

namespace RuleLexer.Test

open Clause (Kind)

/-! ### The grammar -/

def lastKind (ts : List Clause.Token) : Option Kind :=
  ts.getLast?.map Clause.Token.kind

/-- An operator has the operands beside it that it needs. -/
def HasSides (left right : Option Kind) : Kind → Prop
  | .current => isOperand left = true ∨ isOperand right = true
  | .lookAhead | .lookBehind => isOperand left = true ∧ isOperand right = true
  | _ => True

/-- Combinators stand between operands, one at a time. -/
structure IsJoined (ss : List Symbol) : Prop where
  head : ∀ a ∈ ss.head?, a.isOperand = true
  last : ∀ a ∈ ss.getLast?, a.isOperand = true
  chain : ss.IsChain fun a b => a.isOperand = true ∨ b.isOperand = true

structure IsTest [Regex.Engine] (scope : Scope) (ts : List Clause.Token) : Prop where
  sides : ∀ before t after, ts = before ++ t :: after →
    HasSides (lastKind before) (firstKind after) t.kind
  noSemicolon : ∀ t ∈ ts, t.kind ≠ .semicolon
  known : ∀ t ∈ ts, IsKnown scope t
  joined : IsJoined (symbols scope ts)

/-- The alternatives between the `or`s, each as its operands. -/
def segments (ss : List Symbol) : List (List (Clause.Token × Target)) :=
  (ss.splitOnP Symbol.isOr).map fun segment => segment.filterMap Symbol.operand?

variable {scope : Scope} {t : Clause.Token} {target : Target} {left : Option Kind}
  {ts : List Clause.Token} {ss : List Symbol} {is : List (Item × Clause.Token)}
  {done : List Predicate} {current : Option Predicate} {operator : Option Clause.Token} {s : Scan}

/-! ### The sides of positional operators -/

theorem checkSides_cons : checkSides left (t :: ts) = .ok () ↔
    HasSides left (firstKind ts) t.kind ∧ checkSides (some t.kind) ts = .ok () := by
  rw [checkSides]
  by_cases hc : t.kind = .current ∧ isOperand left = false ∧ isOperand (firstKind ts) = false
  · rw [if_pos hc]
    obtain ⟨hkind, hl, hr⟩ := hc
    simp [hkind, HasSides, hl, hr]
  · rw [if_neg hc]
    by_cases hs : (t.kind = .lookAhead ∨ t.kind = .lookBehind) ∧
        (isOperand left && isOperand (firstKind ts)) = false
    · rw [if_pos hs]
      obtain ⟨hkind, hside⟩ := hs
      rw [Bool.and_eq_false_iff] at hside
      rcases hkind with hkind | hkind <;> rcases hside with hside | hside <;>
        simp [hkind, HasSides, hside]
    · rw [if_neg hs, iff_and_self]
      intro _
      cases hkind : t.kind <;> simp_all [HasSides]
      cases hl : isOperand left <;> simp_all

theorem lastKind_cons (t : Clause.Token) (before : List Clause.Token) (left : Option Kind) :
    (lastKind (t :: before)).or left = (lastKind before).or (some t.kind) := by
  rw [lastKind, lastKind, List.getLast?_cons]
  cases before.getLast? <;> rfl

/-- **Positional operators have their operands exactly if the check says so.** -/
theorem checkSides_ok_iff (left : Option Kind) (ts : List Clause.Token) :
    checkSides left ts = .ok () ↔
      ∀ before t after, ts = before ++ t :: after →
        HasSides ((lastKind before).or left) (firstKind after) t.kind := by
  induction ts generalizing left with
  | nil => simp [checkSides]
  | cons t ts ih =>
    rw [checkSides_cons, ih]
    constructor
    · rintro ⟨hfirst, hrest⟩ before u after hsplit
      cases before with
      | nil =>
        obtain ⟨rfl, rfl⟩ := List.cons_eq_cons.1 hsplit
        exact hfirst
      | cons b before =>
        obtain ⟨rfl, htail⟩ := List.cons_eq_cons.1 hsplit
        rw [lastKind_cons]
        exact hrest before u after htail
    · intro h
      refine ⟨h [] t ts rfl, ?_⟩
      intro before u after hsplit
      rw [← lastKind_cons t before left]
      exact h (t :: before) u after (by rw [hsplit, List.cons_append])

/-! ### Joining the items -/

/-- An operand goes on with the alternative that was begun. -/
theorem combine_operand (done : List Predicate) (current : Option Predicate)
    (operator : Option Clause.Token) (p : Predicate) (t : Clause.Token)
    (is : List (Item × Clause.Token)) :
    ∃ q, combine done current operator ((.operand p, t) :: is) = combine done (some q) none is ∧
      ∀ s, q.holds s = (current.all (·.holds s) && p.holds s) := by
  cases current with
  | none => exact ⟨p, rfl, fun s => rfl⟩
  | some q => exact ⟨.and q p, rfl, fun s => rfl⟩

theorem combine_and (hc : current.isSome = true) :
    combine done current none ((.and, t) :: is) = combine done current (some t) is := by
  obtain ⟨p, rfl⟩ := Option.isSome_iff_exists.1 hc
  rfl

theorem combine_or (hc : current.isSome = true) :
    combine done current none ((.or, t) :: is)
      = combine (done ++ current.toList) none (some t) is := by
  obtain ⟨p, rfl⟩ := Option.isSome_iff_exists.1 hc
  rfl

theorem combine_error {i : Item} (hi : i = .and ∨ i = .or)
    (h : current.isNone = true ∨ operator.isSome = true) (r : Option Predicate) :
    combine done current operator ((i, t) :: is) ≠ .ok r := by
  have hif : (current.isNone || operator.isSome) = true := Bool.or_eq_true_iff.2 h
  rcases hi with rfl | rfl
  · rw [combine, if_pos hif]
    simp
  · rw [combine, if_pos hif]
    simp

/-- Symbols that may be the end of a test: combinators stand between operands, except that the first
symbol may be one. -/
def MayEnd (ss : List Symbol) : Prop :=
  (ss.IsChain fun a b => a.isOperand = true ∨ b.isOperand = true)
    ∧ ∀ a ∈ ss.getLast?, a.isOperand = true

theorem mayEnd_singleton {a : Symbol} : MayEnd [a] ↔ a.isOperand = true := by
  simp [MayEnd]

theorem mayEnd_cons_cons {a b : Symbol} : MayEnd (a :: b :: ss) ↔
    (a.isOperand = true ∨ b.isOperand = true) ∧ MayEnd (b :: ss) := by
  rw [MayEnd, MayEnd, List.isChain_cons_cons, List.getLast?_cons_cons, and_assoc]

/-- **The items are joined exactly if combinators stand between operands.**  Of what was read
before, the last symbol `a` is all that counts; an operator waits if it is a combinator. -/
theorem combine_ok_iff [Regex.Engine] (h : List.Forall₂ (fun a i => Renders scope a i.1) ss is)
    (a : Symbol) (ha : a.isOperand = operator.isNone)
    (hstate : current.isSome = true ∨ operator.isSome = true) :
    (∃ r, combine done current operator is = .ok r) ↔ MayEnd (a :: ss) := by
  induction h generalizing done current operator a with
  | nil =>
    rw [mayEnd_singleton, ha]
    cases operator <;> simp [combine]
  | @cons b i ss is hb _ ih =>
    obtain ⟨i, t⟩ := i
    rw [mayEnd_cons_cons]
    by_cases hoperand : b.isOperand = true
    · -- the operand takes the place of the operator that waits
      rw [and_iff_right (Or.inr hoperand)]
      cases hb with
      | operand hp =>
        obtain ⟨q, hq, _⟩ := combine_operand done current operator _ t is
        rw [hq]
        exact ih _ rfl (Or.inl rfl)
      | and | or => exact absurd hoperand Bool.false_ne_true
    · have hi : i = .and ∨ i = .or := hb.eq_and_or_eq_or hoperand
      cases operator with
      | some o =>
        constructor
        · rintro ⟨r, hr⟩
          exact absurd hr (combine_error hi (Or.inr rfl) r)
        · rintro ⟨ha' | hb', _⟩
          · exact absurd (ha.symm.trans ha') Bool.false_ne_true
          · exact absurd hb' hoperand
      | none =>
        have hbefore : a.isOperand = true := ha
        have hcurrent : current.isSome = true := by simpa using hstate
        have hwaits : b.isOperand = (some t).isNone := by simpa using hoperand
        rw [and_iff_right (Or.inl hbefore)]
        rcases hi with rfl | rfl
        · rw [combine_and hcurrent]
          exact ih b hwaits (Or.inr rfl)
        · rw [combine_or hcurrent]
          exact ih b hwaits (Or.inr rfl)

/-! ### What the joined items mean -/

theorem segments_or (ss : List Symbol) : segments (.or :: ss) = [] :: segments ss := by
  have hor : Symbol.or.isOr = true := rfl
  rw [segments, List.splitOnP_cons_eq_if_modifyHead, if_pos hor]
  rfl

theorem segments_of_not_or {a : Symbol} (ss : List Symbol) (ha : ¬ a.isOr = true) :
    segments (a :: ss) = (segments ss).modifyHead (a.operand?.toList ++ ·) := by
  obtain ⟨first, rest, hsplit⟩ := List.exists_cons_of_ne_nil (List.splitOnP_ne_nil Symbol.isOr ss)
  rw [segments, List.splitOnP_cons_eq_if_modifyHead, if_neg ha, segments, hsplit]
  cases a <;> rfl

theorem segments_ne_nil (ss : List Symbol) : segments ss ≠ [] := by
  rw [segments, ne_eq, List.map_eq_nil_iff]
  exact List.splitOnP_ne_nil _ _

/-- Some alternative is true as a whole, where of the first one `begun` is known already. -/
def SomeTrue (truth : Clause.Token × Target → Prop) (begun : Prop) (ss : List Symbol) : Prop :=
  (begun ∧ ∀ o ∈ (segments ss).headD [], truth o) ∨
    ∃ segment ∈ (segments ss).tail, ∀ o ∈ segment, truth o

variable {truth : Clause.Token × Target → Prop} {begun : Prop}

theorem someTrue_nil : SomeTrue truth begun [] ↔ begun := by
  simp [SomeTrue, segments]

theorem someTrue_operand : SomeTrue truth begun (.operand t target :: ss) ↔
    SomeTrue truth (begun ∧ truth (t, target)) ss := by
  have hoperand : ¬ (Symbol.operand t target).isOr = true := Bool.false_ne_true
  obtain ⟨first, rest, hsegments⟩ := List.exists_cons_of_ne_nil (segments_ne_nil ss)
  rw [SomeTrue, SomeTrue, segments_of_not_or ss hoperand, hsegments]
  simp [Symbol.operand?, and_assoc]

theorem someTrue_and : SomeTrue truth begun (.and :: ss) ↔ SomeTrue truth begun ss := by
  have hand : ¬ Symbol.and.isOr = true := Bool.false_ne_true
  obtain ⟨first, rest, hsegments⟩ := List.exists_cons_of_ne_nil (segments_ne_nil ss)
  rw [SomeTrue, SomeTrue, segments_of_not_or ss hand, hsegments]
  simp [Symbol.operand?]

theorem someTrue_true : SomeTrue truth True ss ↔
    ∃ segment ∈ segments ss, ∀ o ∈ segment, truth o := by
  obtain ⟨first, rest, hsegments⟩ := List.exists_cons_of_ne_nil (segments_ne_nil ss)
  rw [SomeTrue, hsegments]
  simp

theorem someTrue_or : SomeTrue truth begun (.or :: ss) ↔ begun ∨ SomeTrue truth True ss := by
  rw [someTrue_true, SomeTrue, segments_or]
  simp

/-- **The joined items hold where some alternative is true.**  The alternatives that were read
before are `done`, and `current` is what was read of the present one. -/
theorem holds_of_combine [Regex.Engine] (h : List.Forall₂ (fun a i => Renders scope a i.1) ss is)
    (hstate : current.isSome = true ∨ operator.isSome = true) {r : Option Predicate}
    (hr : combine done current operator is = .ok r) :
    ∃ p, r = some p ∧ ∀ s, p.holds s = true ↔ (∃ q ∈ done, q.holds s = true) ∨
      SomeTrue (fun o => IsTrue scope s o.1 o.2) (current.all (·.holds s) = true) ss := by
  induction h generalizing done current operator with
  | nil =>
    cases operator with
    | some o => simp [combine] at hr
    | none =>
      obtain ⟨c, rfl⟩ := Option.isSome_iff_exists.1 (by simpa using hstate)
      obtain ⟨p, hp⟩ : ∃ p, Predicate.anyOf (done ++ [c]) = some p := by
        cases done <;> exact ⟨_, rfl⟩
      obtain rfl : some p = r := by
        rw [← hp]
        exact Except.ok.inj hr
      refine ⟨p, rfl, fun s => ?_⟩
      rw [Predicate.holds_anyOf hp, someTrue_nil]
      simp
  | @cons b i ss is hb _ ih =>
    obtain ⟨i, t⟩ := i
    by_cases hoperand : b.isOperand = true
    · cases hb with
      | operand hp =>
        obtain ⟨q, hq, hholds⟩ := combine_operand done current operator _ t is
        rw [hq] at hr
        obtain ⟨p, rfl, hp'⟩ := ih (Or.inl rfl) hr
        refine ⟨p, rfl, fun s => ?_⟩
        rw [hp' s, someTrue_operand, Option.all_some, hholds s, Bool.and_eq_true, hp s]
      | and | or => exact absurd hoperand Bool.false_ne_true
    · -- a combinator that is read stands behind an operand
      have hi : i = .and ∨ i = .or := hb.eq_and_or_eq_or hoperand
      obtain rfl : operator = none := by
        cases operator with
        | none => rfl
        | some o => exact absurd hr (combine_error hi (Or.inr rfl) r)
      have hcurrent : current.isSome = true := by simpa using hstate
      cases hb with
      | operand => exact absurd rfl hoperand
      | and =>
        rw [combine_and hcurrent] at hr
        obtain ⟨p, rfl, hp⟩ := ih (Or.inr rfl) hr
        exact ⟨p, rfl, fun s => by rw [hp s, someTrue_and]⟩
      | or =>
        rw [combine_or hcurrent] at hr
        obtain ⟨p, rfl, hp⟩ := ih (Or.inr rfl) hr
        obtain ⟨c, rfl⟩ := Option.isSome_iff_exists.1 hcurrent
        refine ⟨p, rfl, fun s => ?_⟩
        rw [hp s, someTrue_or]
        simp [or_assoc, or_and_right, exists_or]

/-! ### Reading a clause -/

theorem isJoined_cons {a : Symbol} :
    IsJoined (a :: ss) ↔ a.isOperand = true ∧ MayEnd (a :: ss) := by
  constructor
  · intro h
    exact ⟨h.head a rfl, h.chain, h.last⟩
  · rintro ⟨ha, hchain, hlast⟩
    refine ⟨?_, hlast, hchain⟩
    rintro b ⟨⟩
    exact ha

theorem combine_start_ok_iff [Regex.Engine]
    (h : List.Forall₂ (fun a i => Renders scope a i.1) ss is) :
    (∃ r, combine [] none none is = .ok r) ↔ IsJoined ss := by
  cases h with
  | nil => exact ⟨fun _ => ⟨by simp, by simp, .nil⟩, fun _ => ⟨none, rfl⟩⟩
  | @cons a i ss is ha hrest =>
    obtain ⟨i, t⟩ := i
    rw [isJoined_cons]
    by_cases hoperand : a.isOperand = true
    · rw [and_iff_right hoperand]
      cases ha with
      | operand hp =>
        obtain ⟨q, hq, _⟩ := combine_operand [] none none _ t is
        rw [hq]
        exact combine_ok_iff hrest _ rfl (Or.inl rfl)
      | and | or => exact absurd hoperand Bool.false_ne_true
    · constructor
      · rintro ⟨r, hr⟩
        exact absurd hr (combine_error (ha.eq_and_or_eq_or hoperand) (Or.inl rfl) r)
      · rintro ⟨ha', _⟩
        exact absurd ha' hoperand

/-- There is no predicate only if there are no symbols; else it says whether some alternative is
true. -/
theorem holds_of_combine_start [Regex.Engine]
    (h : List.Forall₂ (fun a i => Renders scope a i.1) ss is) {r : Option Predicate}
    (hr : combine [] none none is = .ok r) :
    (r = none ↔ ss = []) ∧ ∀ p, r = some p → ∀ s, p.holds s = true ↔
      ∃ segment ∈ segments ss, ∀ o ∈ segment, IsTrue scope s o.1 o.2 := by
  cases h with
  | nil =>
    obtain rfl := Except.ok.inj hr
    exact ⟨by simp [Predicate.anyOf], by simp [Predicate.anyOf]⟩
  | @cons a i ss is ha hrest =>
    obtain ⟨i, t⟩ := i
    by_cases hoperand : a.isOperand = true
    · cases ha with
      | operand hp =>
        obtain ⟨q, hq, hholds⟩ := combine_operand [] none none _ t is
        rw [hq] at hr
        obtain ⟨p, rfl, hp'⟩ := holds_of_combine hrest (Or.inl rfl) hr
        refine ⟨by simp, ?_⟩
        rintro _ ⟨⟩ s
        rw [hp' s, ← someTrue_true, someTrue_operand, Option.all_some, hholds s]
        simp [hp s]
      | and | or => exact absurd hoperand Bool.false_ne_true
    · exact absurd hr (combine_error (ha.eq_and_or_eq_or hoperand) (Or.inl rfl) r)

theorem isTest_iff [Regex.Engine] (hts : ∀ t ∈ ts, t.kind ≠ .eof) : IsTest scope ts ↔
    checkSides none ts = .ok () ∧ (∀ t ∈ ts, IsReadable scope t) ∧ IsJoined (symbols scope ts) := by
  rw [checkSides_ok_iff]
  simp only [Option.or_none]
  constructor
  · intro h
    exact ⟨h.sides, fun t ht => ⟨h.noSemicolon t ht, hts t ht, h.known t ht⟩, h.joined⟩
  · rintro ⟨hsides, hread, hjoined⟩
    exact ⟨hsides, fun t ht => (hread t ht).1, fun t ht => (hread t ht).2.2, hjoined⟩

theorem ofTokens_eq_ok [Regex.Engine] {test : Test} : ofTokens scope ts = .ok test ↔
    checkSides none ts = .ok () ∧ ∃ is p, items scope (targets 0 (places none ts)) = .ok is ∧
      combine [] none none is = .ok p ∧ ⟨p, countBehind (places none ts)⟩ = test := by
  rw [ofTokens]
  cases checkSides none ts with
  | error fault => simp
  | ok _ =>
    rw [and_iff_right rfl]
    cases hitems : items scope (targets 0 (places none ts)) with
    | error fault => simp [hitems]
    | ok is =>
      simp only [hitems, Except.ok.injEq, exists_and_left, exists_eq_left']
      cases combine [] none none is <;> simp [Except.map]

/-- **Tokens are read as a test exactly if they are one.** -/
theorem ofTokens_ok_iff [Regex.Engine] (hts : ∀ t ∈ ts, t.kind ≠ .eof) :
    (∃ test, ofTokens scope ts = .ok test) ↔ IsTest scope ts := by
  rw [isTest_iff hts, ← forall_mem_targets, ← items_ok_iff]
  constructor
  · rintro ⟨test, htest⟩
    obtain ⟨hsides, is, p, his, hp, _⟩ := ofTokens_eq_ok.1 htest
    exact ⟨hsides, ⟨is, his⟩, (combine_start_ok_iff (renders_items his)).1 ⟨p, hp⟩⟩
  · rintro ⟨hsides, ⟨is, his⟩, hjoined⟩
    obtain ⟨p, hp⟩ := (combine_start_ok_iff (renders_items his)).2 hjoined
    exact ⟨_, ofTokens_eq_ok.2 ⟨hsides, is, p, his, hp, rfl⟩⟩

/-- A test whose tokens are all read as nothing has no tokens: the first would be a positional
operator without an operand. -/
theorem IsTest.eq_nil [Regex.Engine] (h : IsTest scope ts) (hts : ∀ t ∈ ts, t.kind ≠ .eof)
    (hss : symbols scope ts = []) : ts = [] := by
  have hnone : ∀ t ∈ ts, ∃ target, symbol? scope (t, target) = none := by
    intro t ht
    rw [← map_fst_places none ts, ← map_fst_targets 0, List.mem_map] at ht
    obtain ⟨⟨u, target⟩, hmem, rfl⟩ := ht
    exact ⟨target, List.filterMap_eq_nil_iff.1 hss _ hmem⟩
  cases ts with
  | nil => rfl
  | cons t ts =>
    have hright : isOperand (firstKind ts) = false := by
      cases ts with
      | nil => rfl
      | cons u ts =>
        obtain ⟨target, hu⟩ := hnone u (by simp)
        exact (symbol?_eq_none hu).1
    obtain ⟨target, ht⟩ := hnone t List.mem_cons_self
    have hsides := h.sides [] t ts rfl
    have hpositional : t.kind.isPositional = true :=
      (symbol?_eq_none ht).2.resolve_right fun hor =>
        hor.elim (h.noSemicolon t List.mem_cons_self) (hts t List.mem_cons_self)
    cases hkind : t.kind <;> rw [hkind] at hpositional hsides <;>
      simp_all [Kind.isPositional, HasSides, isOperand, lastKind]

/-- **The predicate of a test says whether some alternative is true**, and there is none only if
there are no tokens. -/
theorem holds_ofTokens [Regex.Engine] {test : Test} (hts : ∀ t ∈ ts, t.kind ≠ .eof)
    (h : ofTokens scope ts = .ok test) :
    (test.predicate = none ↔ ts = []) ∧ ∀ p, test.predicate = some p → ∀ s, p.holds s = true ↔
      ∃ segment ∈ segments (symbols scope ts), ∀ o ∈ segment, IsTrue scope s o.1 o.2 := by
  have htest : IsTest scope ts := (ofTokens_ok_iff hts).1 ⟨test, h⟩
  obtain ⟨_, is, p, his, hp, rfl⟩ := ofTokens_eq_ok.1 h
  obtain ⟨hnone, hholds⟩ := holds_of_combine_start (renders_items his) hp
  refine ⟨hnone.trans ⟨fun hss => htest.eq_nil hts hss, ?_⟩, hholds⟩
  rintro rfl
  rfl

theorem read_eq_ofTokens [Regex.Engine] {clause : String} (h : Clause.HasTokens clause ts) :
    Test.read scope clause = ofTokens scope ts := by
  have hfilter : ts.filter (·.kind != .eof) = ts := by
    rw [List.filter_eq_self]
    intro t ht
    simpa using h.kind_ne_eof t ht
  rw [Test.read, h]
  show ofTokens scope ((ts ++ [_]).filter (·.kind != Kind.eof)) = ofTokens scope ts
  rw [List.filter_append, hfilter]
  exact congrArg _ (List.append_nil ts)

theorem exists_hasTokens_of_read [Regex.Engine] {clause : String} {test : Test}
    (h : Test.read scope clause = .ok test) : ∃ ts, Clause.HasTokens clause ts := by
  rw [Test.read] at h
  split at h
  next => simp at h
  next ts hread => exact Clause.exists_hasTokens hread

/-- **A clause is read as a test exactly if its tokens are one**, and the test means that some
alternative is true. -/
theorem read_iff [Regex.Engine] (scope : Scope) (clause : String) :
    ((∃ test, Test.read scope clause = .ok test) ↔
      ∃ ts, Clause.HasTokens clause ts ∧ IsTest scope ts) ∧
    ∀ test, Test.read scope clause = .ok test → ∃ ts, Clause.HasTokens clause ts ∧
      (test.predicate = none ↔ ts = []) ∧
      ∀ p, test.predicate = some p → ∀ s, p.holds s = true ↔
        ∃ segment ∈ segments (symbols scope ts), ∀ o ∈ segment, IsTrue scope s o.1 o.2 := by
  refine ⟨⟨?_, ?_⟩, ?_⟩
  · rintro ⟨test, htest⟩
    obtain ⟨ts, hts⟩ := exists_hasTokens_of_read htest
    rw [read_eq_ofTokens hts] at htest
    exact ⟨ts, hts, (ofTokens_ok_iff hts.kind_ne_eof).1 ⟨test, htest⟩⟩
  · rintro ⟨ts, hts, htest⟩
    rw [read_eq_ofTokens hts]
    exact (ofTokens_ok_iff hts.kind_ne_eof).2 htest
  · intro test htest
    obtain ⟨ts, hts⟩ := exists_hasTokens_of_read htest
    rw [read_eq_ofTokens hts] at htest
    exact ⟨ts, hts, holds_ofTokens hts.kind_ne_eof htest⟩

/-- The tokens of `x and 'a'||#b`. -/
def sampleTokens : List Clause.Token :=
  [⟨.identifier, "x", 0⟩, ⟨.identifier, "and", 2⟩, ⟨.string, "a", 6⟩, ⟨.or, "||", 9⟩,
   ⟨.tag, "b", 11⟩]

theorem read_iff_sampleTokens : ∃ test p,
    Test.read ⟨["x"], {}⟩ "x and 'a'||#b" = .ok test ∧ test.predicate = some p ∧
      ∀ s, p.holds s = true ↔
        (IsSet s "x" ∧ "a" = s.token.text) ∨ s.token.hasTag "b" = true := by
  have hread : Clause.HasTokens "x and 'a'||#b" sampleTokens := by cbv
  have htest : Test.read ⟨["x"], {}⟩ "x and 'a'||#b" = .ok ⟨some (.or (.and
      (.definition "x") (.test .token (.text "a"))) (.test .token (.tag "b"))), 0⟩ := by
    rw [read_eq_ofTokens hread]
    cbv
  have hsegments : segments (symbols ⟨["x"], {}⟩ sampleTokens)
      = [[(⟨.identifier, "x", 0⟩, .token), (⟨.string, "a", 6⟩, .token)],
        [(⟨.tag, "b", 11⟩, .token)]] := by cbv
  obtain ⟨ts, hts, _, hholds⟩ := (read_iff _ _).2 _ htest
  obtain rfl := hts.eq hread
  refine ⟨_, _, htest, rfl, fun s => ?_⟩
  rw [hholds _ rfl s, hsegments]
  simp only [List.mem_cons, List.not_mem_nil, or_false, exists_eq_or_imp, exists_eq_left,
    forall_eq_or_imp, forall_eq, IsTrue]
  simp [Matcher.matchesTarget, Matcher.matchesToken]

end RuleLexer.Test
