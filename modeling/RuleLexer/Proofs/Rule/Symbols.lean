import RuleLexer.Rule.Test
import Mathlib

/-!
# The symbols of tests

In a test every token by itself is read as an operand, as a combinator or as nothing.  `symbol?`
says which, `IsKnown` says which operands can be read, and `IsTrue` says when an operand is true of
a scan.

`item_cases` compares this with the reader: it refuses just the tokens that may not stand in a test,
and the items that it makes of the others are read from their symbols (`Renders`).  `items_ok_iff`
and `renders_items` say the same of a sequence of tokens.
-/

namespace RuleLexer.Test

open Clause (Kind)

/-! ### Symbols -/

/-- What a token of a test is read as: an operand with what it looks at, or a combinator. -/
inductive Symbol where
  | operand (t : Clause.Token) (target : Target)
  | and
  | or

namespace Symbol

def isOperand : Symbol → Bool
  | operand .. => true
  | _ => false

def isOr : Symbol → Bool
  | or => true
  | _ => false

def operand? : Symbol → Option (Clause.Token × Target)
  | operand t target => some (t, target)
  | _ => none

end Symbol

/-- The symbol that a token is read as.  Words that name a definition are operands and other words
are `and`; positional operators are nothing. -/
def symbol? (scope : Scope) : Clause.Token × Target → Option Symbol
  | (t, target) =>
    if t.kind.isOperand ∨ (t.kind.isWord ∧ scope.isDefinition t.value) then
      some (.operand t target)
    else if t.kind.isWord ∨ t.kind = .and then some .and
    else if t.kind = .or then some .or
    else none

def symbols (scope : Scope) (ts : List Clause.Token) : List Symbol :=
  (targets 0 (places none ts)).filterMap (symbol? scope)

/-! ### Operands -/

/-- A pattern can be read, and the name of a host expression is known. -/
def IsKnown [Regex.Engine] (scope : Scope) (t : Clause.Token) : Prop :=
  (t.kind = .pattern → ∃ p, Pattern.read t.value = .ok p) ∧
    (t.kind = .hostExpression →
      (scope.hosts.test? t.value).isSome = true ∨ scope.isDefinition t.value = true)

def IsSet (s : Scan) (name : String) : Prop :=
  (s.definitions.get? name).any Value.isTruthy = true

/-- An operand is true of a scan, given what it looks at. -/
def IsTrue [Regex.Engine] (scope : Scope) (s : Scan) (t : Clause.Token) (target : Target) : Prop :=
  match t.kind with
  | .pattern =>
    ∃ p, Pattern.read t.value = .ok p ∧ (Matcher.pattern p).matchesTarget s target = true
  | .string => (Matcher.text t.value).matchesTarget s target = true
  | .tag => (Matcher.tag t.value).matchesTarget s target = true
  | .hostExpression =>
    match scope.hosts.test? t.value with
    | some h => h.holds s = true
    | none => IsSet s t.value
  | _ => IsSet s t.value

variable {scope : Scope} {t : Clause.Token} {target : Target}
  {tts : List (Clause.Token × Target)}

/-! ### Reading tokens one by one -/

/-- An item is read from a symbol: the predicate of an operand holds where the operand is true. -/
inductive Renders [Regex.Engine] (scope : Scope) : Symbol → Item → Prop
  | operand {t : Clause.Token} {target : Target} {p : Predicate} :
      (∀ s, p.holds s = true ↔ IsTrue scope s t target) →
      Renders scope (.operand t target) (.operand p)
  | and : Renders scope .and .and
  | or : Renders scope .or .or

theorem Renders.eq_and_or_eq_or [Regex.Engine] {a : Symbol} {i : Item} (h : Renders scope a i)
    (ha : ¬ a.isOperand = true) : i = .and ∨ i = .or := by
  cases h with
  | operand => exact absurd rfl ha
  | and => exact Or.inl rfl
  | or => exact Or.inr rfl

/-- The token may stand in a test. -/
def IsReadable [Regex.Engine] (scope : Scope) (t : Clause.Token) : Prop :=
  t.kind ≠ .semicolon ∧ t.kind ≠ .eof ∧ IsKnown scope t

/-- An operand is refused if it is not known; else its predicate says whether it is true. -/
theorem operand_cases [Regex.Engine] (scope : Scope) (t : Clause.Token) (target : Target)
    (hkind : t.kind.isOperand = true) :
    (IsKnown scope t ∧ ∃ p, operand scope t target = .ok p ∧
        ∀ s, p.holds s = true ↔ IsTrue scope s t target) ∨
      (¬ IsKnown scope t ∧ ∃ fault, operand scope t target = .error fault) := by
  obtain ⟨kind, value, offset⟩ := t
  cases kind <;> simp only [Kind.isOperand, Bool.false_eq_true] at hkind
  case pattern =>
    cases hread : Pattern.read value with
    | ok p =>
      refine Or.inl ⟨by simp [IsKnown, hread], .test target (.pattern p), ?_, ?_⟩
      · simp only [operand, hread]
      · intro s
        simp [IsTrue, hread, Predicate.holds]
    | error fault =>
      refine Or.inr ⟨by simp [IsKnown, hread], .invalidPattern value fault.message, ?_⟩
      simp only [operand, hread]
  case string =>
    exact Or.inl ⟨by simp [IsKnown], _, rfl, fun s => Iff.rfl⟩
  case tag =>
    exact Or.inl ⟨by simp [IsKnown], _, rfl, fun s => Iff.rfl⟩
  case hostExpression =>
    cases htest : scope.hosts.test? value with
    | some h =>
      refine Or.inl ⟨by simp [IsKnown, htest], .host h, ?_, ?_⟩
      · simp only [operand, htest]
      · intro s
        simp [IsTrue, htest, Predicate.holds]
    | none =>
      cases hdef : scope.isDefinition value with
      | true =>
        refine Or.inl ⟨by simp [IsKnown, hdef], .definition value, ?_, ?_⟩
        · simp [operand, htest, hdef]
        · intro s
          simp [IsTrue, htest, Predicate.holds, IsSet]
      | false =>
        refine Or.inr ⟨by simp [IsKnown, htest, hdef], .unknownHostExpression value, ?_⟩
        simp [operand, htest, hdef]

/-- **A token is refused if it may not stand in a test**; else its item is read from its symbol. -/
theorem item_cases [Regex.Engine] (scope : Scope) (t : Clause.Token) (target : Target) :
    (IsReadable scope t ∧ ∃ i, item scope t target = .ok i ∧
        List.Forall₂ (Renders scope) (symbol? scope (t, target)).toList i.toList) ∨
      (¬ IsReadable scope t ∧ ∃ fault, item scope t target = .error fault) := by
  by_cases hkind : t.kind.isOperand = true
  · have hread : IsReadable scope t ↔ IsKnown scope t := by
      rw [IsReadable, ← and_assoc, and_iff_right]
      constructor <;> (intro h; rw [h] at hkind; exact Bool.false_ne_true hkind)
    rw [hread, item, if_pos hkind, symbol?, if_pos (Or.inl hkind)]
    rcases operand_cases scope t target hkind with ⟨hknown, p, hp, hholds⟩ | ⟨hknown, fault, hf⟩
    · refine Or.inl ⟨hknown, some (.operand p), by rw [hp]; rfl, ?_⟩
      exact .cons (.operand hholds) .nil
    · exact Or.inr ⟨hknown, fault, by rw [hf]; rfl⟩
  · have hknown : IsKnown scope t := by
      constructor <;> (intro h; rw [h] at hkind; exact absurd rfl hkind)
    by_cases hword : t.kind.isWord = true
    · have hread : IsReadable scope t := by
        refine ⟨?_, ?_, hknown⟩ <;> (intro h; rw [h] at hword; exact Bool.false_ne_true hword)
      refine Or.inl ⟨hread, ?_⟩
      rw [item, if_neg hkind, if_pos hword, symbol?]
      by_cases hdef : scope.isDefinition t.value = true
      · rw [if_pos hdef, if_pos (Or.inr ⟨hword, hdef⟩)]
        have hholds : ∀ s, (Predicate.definition t.value).holds s = true
            ↔ IsTrue scope s t target := by
          intro s
          cases hk : t.kind <;> simp_all [Kind.isWord, IsTrue, IsSet, Predicate.holds]
        exact ⟨_, rfl, .cons (.operand hholds) .nil⟩
      · rw [if_neg hdef, if_neg (by simp [hkind, hdef]), if_pos (Or.inl hword)]
        exact ⟨_, rfl, .cons .and .nil⟩
    · obtain ⟨kind, value, offset⟩ := t
      cases kind <;> simp only [Kind.isOperand, Kind.isWord, not_true_eq_false] at hkind hword
      case and => exact Or.inl ⟨⟨by simp, by simp, hknown⟩, _, rfl, .cons .and .nil⟩
      case or => exact Or.inl ⟨⟨by simp, by simp, hknown⟩, _, rfl, .cons .or .nil⟩
      case lookAhead | lookBehind | current =>
        exact Or.inl ⟨⟨by simp, by simp, hknown⟩, _, rfl, .nil⟩
      case semicolon | eof => exact Or.inr ⟨by simp [IsReadable], _, rfl⟩

theorem items_cons_ok [Regex.Engine] (t : Clause.Token) (target : Target)
    (tts : List (Clause.Token × Target)) {i : Option Item} (h : item scope t target = .ok i) :
    items scope ((t, target) :: tts) = (items scope tts).map ((i.map (·, t)).toList ++ ·) := by
  simp only [items, h]

theorem items_ok_iff [Regex.Engine] (scope : Scope) (tts : List (Clause.Token × Target)) :
    (∃ is, items scope tts = .ok is) ↔ ∀ e ∈ tts, IsReadable scope e.1 := by
  induction tts with
  | nil => simp [items]
  | cons e tts ih =>
    obtain ⟨t, target⟩ := e
    rw [List.forall_mem_cons, ← ih]
    rcases item_cases scope t target with ⟨hread, i, hi, _⟩ | ⟨hread, fault, hf⟩
    · rw [items_cons_ok t target tts hi, and_iff_right hread]
      cases items scope tts <;> simp [Except.map]
    · simp only [items, hf, hread, false_and, iff_false]
      rintro ⟨is, his⟩
      simp at his

theorem renders_items [Regex.Engine] {is : List (Item × Clause.Token)}
    (h : items scope tts = .ok is) :
    List.Forall₂ (fun a i => Renders scope a i.1) (tts.filterMap (symbol? scope)) is := by
  induction tts generalizing is with
  | nil =>
    obtain rfl := Except.ok.inj h
    exact .nil
  | cons e tts ih =>
    obtain ⟨t, target⟩ := e
    have hsplit : ((t, target) :: tts).filterMap (symbol? scope)
        = (symbol? scope (t, target)).toList ++ tts.filterMap (symbol? scope) := by
      rw [List.filterMap_cons]
      cases symbol? scope (t, target) <;> rfl
    rcases item_cases scope t target with ⟨_, i, hi, hrenders⟩ | ⟨_, fault, hf⟩
    · rw [items_cons_ok t target tts hi] at h
      cases hrest : items scope tts with
      | error fault =>
        rw [hrest] at h
        simp [Except.map] at h
      | ok is' =>
        rw [hrest] at h
        obtain rfl := Except.ok.inj h
        have hmap : (i.map (·, t)).toList = i.toList.map (·, t) := by cases i <;> rfl
        rw [hsplit, hmap]
        have hfirst : List.Forall₂ (fun a i => Renders scope a i.1)
            (symbol? scope (t, target)).toList (i.toList.map (·, t)) :=
          List.forall₂_map_right_iff.2 hrenders
        exact List.rel_append hfirst (ih hrest)
    · simp [items, hf] at h

/-! ### Symbols and tokens -/

theorem map_fst_places (left : Option Kind) (ts : List Clause.Token) :
    (places left ts).map Prod.fst = ts := by
  induction ts generalizing left with
  | nil => rfl
  | cons t ts ih => rw [places, List.map_cons, ih]

theorem map_fst_targets (ahead : Nat) (ps : List (Clause.Token × Option Place)) :
    (targets ahead ps).map Prod.fst = ps.map Prod.fst := by
  fun_induction targets ahead ps <;> simp_all

theorem forall_mem_targets [Regex.Engine] (scope : Scope) (ts : List Clause.Token) :
    (∀ e ∈ targets 0 (places none ts), IsReadable scope e.1) ↔ ∀ t ∈ ts, IsReadable scope t := by
  rw [← List.forall_mem_map, map_fst_targets, map_fst_places]

/-- Only positional operators are read as nothing, among the tokens of a test. -/
theorem symbol?_eq_none (h : symbol? scope (t, target) = none) :
    t.kind.isOperand = false ∧
      (t.kind.isPositional = true ∨ t.kind = .semicolon ∨ t.kind = .eof) := by
  simp only [symbol?] at h
  split at h
  next => simp at h
  next hoperand =>
    split at h
    next => simp at h
    next hand =>
      split at h
      next => simp at h
      next hor =>
        rw [not_or] at hoperand hand
        cases hkind : t.kind <;> simp_all [Kind.isOperand, Kind.isWord, Kind.isPositional]

end RuleLexer.Test
