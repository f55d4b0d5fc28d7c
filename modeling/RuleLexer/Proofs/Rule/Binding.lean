import RuleLexer.Proofs.Rule.Test

/-!
# What operands look at

The operands of a test are bound by their neighbours, and counted in the order in which they are
written: `targetAt` says what the operand at an index looks at.

* `targets_eq_map_zipIdx`: the reader, which goes through the tokens once, binds them so.
* `forall₂_leaves_ofTokens`: the operands are the leaves of the predicate, in order.
* `forall₂_operandsBehind`: where all operands have to be true and the predicate holds, those that
  look behind are answered one by one by the last emitted tokens.
-/

namespace RuleLexer

namespace Predicate

/-- The predicates that are put together, from left to right. -/
def leaves : Predicate → List Predicate
  | and l r | or l r => l.leaves ++ r.leaves
  | p => [p]

end Predicate

namespace Test

open Clause (Kind)

/-! ### Neighbours -/

def kindAt (ts : List Clause.Token) (i : Nat) : Option Kind :=
  ts[i]?.map Clause.Token.kind

/-- The kind of the token before one, where `left` is before the first. -/
def kindBefore (left : Option Kind) (ts : List Clause.Token) : Nat → Option Kind
  | 0 => left
  | i + 1 => kindAt ts i

section

variable (ts : List Clause.Token) (i : Nat)

/-- The token at an index is beside `<->`. -/
def IsBesideCurrent : Prop :=
  kindBefore none ts i = some .current ∨ kindAt ts (i + 1) = some .current

/-- The token at an index is an operand that looks at the current character. -/
def LooksAtCharacter : Prop :=
  isOperand (kindAt ts i) = true ∧ IsBesideCurrent ts i

/-- The token at an index is an operand on the right of `->`. -/
def LooksAhead : Prop :=
  isOperand (kindAt ts i) = true ∧ ¬ IsBesideCurrent ts i ∧ kindBefore none ts i = some .lookAhead

/-- The token at an index is an operand on the left of `<-`. -/
def LooksBehind : Prop :=
  isOperand (kindAt ts i) = true ∧ ¬ IsBesideCurrent ts i ∧
    kindBefore none ts i ≠ some .lookAhead ∧ kindAt ts (i + 1) = some .lookBehind

instance : Decidable (IsBesideCurrent ts i) := inferInstanceAs (Decidable (_ ∨ _))
instance : Decidable (LooksAtCharacter ts i) := inferInstanceAs (Decidable (_ ∧ _))
instance : Decidable (LooksAhead ts i) := inferInstanceAs (Decidable (_ ∧ _))
instance : Decidable (LooksBehind ts i) := inferInstanceAs (Decidable (_ ∧ _))

end

/-- The operands that look at emitted tokens. -/
def operandsBehind (ts : List Clause.Token) : List Clause.Token :=
  (ts.zipIdx.filter fun e => LooksBehind ts e.2).map Prod.fst

/-- What the operand at an index looks at.  Those that look ahead are numbered from 1 upwards, and
those that look behind downwards to 1. -/
def targetAt (ts : List Clause.Token) (i : Nat) : Target :=
  if LooksAtCharacter ts i then .character
  else if LooksAhead ts i then .ahead ((List.range i).countP (LooksAhead ts ·) + 1)
  else if LooksBehind ts i then
    .behind ((operandsBehind ts).length - (List.range i).countP (LooksBehind ts ·))
  else .token

/-- Whether a token is an operand of a test: a literal, a host expression, or a word that names a
definition. -/
def isBound (scope : Scope) (t : Clause.Token) : Bool :=
  t.kind.isOperand || (t.kind.isWord && scope.isDefinition t.value)

/-- The operands with what they look at. -/
def operands (scope : Scope) (ts : List Clause.Token) : List (Clause.Token × Target) :=
  (ts.zipIdx.filter fun e => isBound scope e.1).map fun e => (e.1, targetAt ts e.2)

/-- What a literal asks of its target. -/
def literal? [Regex.Engine] (t : Clause.Token) : Option Matcher :=
  match t.kind with
  | .pattern => (Pattern.read t.value).toOption.map .pattern
  | .string => some (.text t.value)
  | .tag => some (.tag t.value)
  | _ => none

/-- The predicate that an operand becomes. -/
inductive IsLeaf [Regex.Engine] (scope : Scope) (t : Clause.Token) (target : Target) :
    Predicate → Prop
  | literal {m : Matcher} : literal? t = some m → IsLeaf scope t target (.test target m)
  | host {h : HostTest} : t.kind = .hostExpression → scope.hosts.test? t.value = some h →
      IsLeaf scope t target (.host h)
  | named : t.kind = .hostExpression → scope.hosts.test? t.value = none →
      IsLeaf scope t target (.definition t.value)
  | word : t.kind.isWord = true → IsLeaf scope t target (.definition t.value)

variable {scope : Scope} {ts : List Clause.Token} {t : Clause.Token} {target : Target} {i : Nat}

/-! ### Places by index -/

def placeAt (left : Option Kind) (ts : List Clause.Token) (i : Nat) : Option Place :=
  if isOperand (kindAt ts i) then some (placeOf (kindBefore left ts i) (kindAt ts (i + 1)))
  else none

theorem places_eq_map_zipIdx (left : Option Kind) (ts : List Clause.Token) :
    places left ts = ts.zipIdx.map fun e => (e.1, placeAt left ts e.2) := by
  induction ts generalizing left with
  | nil => rfl
  | cons t ts ih =>
    have hfirst : firstKind ts = kindAt ts 0 := by rw [firstKind, List.head?_eq_getElem?, kindAt]
    have hrest : ∀ i, placeAt left (t :: ts) (i + 1) = placeAt (some t.kind) ts i := by
      intro i
      cases i <;> rfl
    rw [places, List.zipIdx_cons', List.map_cons, List.map_map, ih]
    simp only [Function.comp_def, Prod.map_fst, Prod.map_snd, id_eq, hrest, hfirst]
    rfl

theorem placeAt_eq_character : placeAt none ts i = some .character ↔ LooksAtCharacter ts i := by
  simp only [placeAt, placeOf, LooksAtCharacter, IsBesideCurrent]
  split_ifs <;> simp_all

theorem placeAt_eq_ahead : placeAt none ts i = some .ahead ↔ LooksAhead ts i := by
  simp only [placeAt, placeOf, LooksAhead, IsBesideCurrent]
  split_ifs <;> simp_all

theorem placeAt_eq_behind : placeAt none ts i = some .behind ↔ LooksBehind ts i := by
  simp only [placeAt, placeOf, LooksBehind, IsBesideCurrent]
  split_ifs <;> simp_all

/-! ### Targets by index -/

/-- The target at an index of a list of places, where `ahead` operands before the list look
ahead. -/
def targetIn (ahead : Nat) (ps : List (Clause.Token × Option Place)) (i : Nat) :
    Option Place → Target
  | some .ahead => .ahead (ahead + (ps.take i).countP (·.2 == some .ahead) + 1)
  | some .behind => .behind (countBehind ps - countBehind (ps.take i))
  | some .character => .character
  | some .token | none => .token

theorem getElem?_targets (ahead : Nat) (ps : List (Clause.Token × Option Place)) (i : Nat) :
    (targets ahead ps)[i]? = ps[i]?.map fun e => (e.1, targetIn ahead ps i e.2) := by
  induction ps generalizing ahead i with
  | nil => rfl
  | cons e ps ih =>
    obtain ⟨t, place⟩ := e
    cases i with
    | zero =>
      rcases place with _ | _ | _ | _ | _ <;> simp [targets, targetIn, countBehind]
    | succ i =>
      -- the first operand counts for those after it, if it looks ahead
      have hrest : targets ahead ((t, place) :: ps) = (t, targetIn ahead ((t, place) :: ps) 0 place)
          :: targets (if place = some .ahead then ahead + 1 else ahead) ps := by
        rcases place with _ | _ | _ | _ | _ <;> simp [targets, targetIn, countBehind]
      rw [hrest, List.getElem?_cons_succ, List.getElem?_cons_succ, ih]
      congr 1
      funext e
      obtain ⟨u, place'⟩ := e
      rcases place' with _ | _ | _ | _ | _ <;>
        simp only [targetIn, countBehind, List.take_succ_cons, List.countP_cons, beq_iff_eq,
          Prod.mk.injEq, true_and, Target.ahead.injEq, Target.behind.injEq]
      case some.ahead => split <;> omega
      case some.behind => omega

theorem countP_take_places (left : Option Kind) (ts : List Clause.Token) {i : Nat}
    (hi : i ≤ ts.length) (place : Place) :
    ((places left ts).take i).countP (·.2 == some place) =
      (List.range i).countP (placeAt left ts · == some place) := by
  have hrange : List.range i = ((ts.zipIdx).take i).map Prod.snd := by
    rw [List.map_take, List.zipIdx_map_snd, ← List.range_eq_range', List.take_range,
      Nat.min_eq_left hi]
  rw [places_eq_map_zipIdx, ← List.map_take, List.countP_map, hrange, List.countP_map]
  rfl

theorem countP_range_behind (ts : List Clause.Token) (i : Nat) :
    (List.range i).countP (placeAt none ts · == some .behind) =
      (List.range i).countP (LooksBehind ts ·) := by
  refine List.countP_congr fun j _ => ?_
  rw [beq_iff_eq, placeAt_eq_behind, decide_eq_true_eq]

theorem countP_range_ahead (ts : List Clause.Token) (i : Nat) :
    (List.range i).countP (placeAt none ts · == some .ahead) =
      (List.range i).countP (LooksAhead ts ·) := by
  refine List.countP_congr fun j _ => ?_
  rw [beq_iff_eq, placeAt_eq_ahead, decide_eq_true_eq]

theorem operandsBehind_eq (ts : List Clause.Token) :
    operandsBehind ts = ((places none ts).filter (·.2 == some .behind)).map Prod.fst := by
  rw [operandsBehind, places_eq_map_zipIdx, List.filter_map, List.map_map]
  have hlooks : ∀ e : Clause.Token × Nat,
      decide (LooksBehind ts e.2) = (placeAt none ts e.2 == some .behind) := by
    intro e
    rw [Bool.eq_iff_iff, decide_eq_true_eq, beq_iff_eq, placeAt_eq_behind]
  simp only [hlooks, Function.comp_def]

theorem countBehind_places (ts : List Clause.Token) :
    countBehind (places none ts) = (operandsBehind ts).length := by
  rw [operandsBehind_eq, List.length_map, countBehind, List.countP_eq_length_filter]

/-- **What the operands look at**, by their neighbours. -/
theorem targets_eq_map_zipIdx (ts : List Clause.Token) :
    targets 0 (places none ts) = ts.zipIdx.map fun e => (e.1, targetAt ts e.2) := by
  refine List.ext_getElem? fun i => ?_
  rw [getElem?_targets, List.getElem?_map, List.getElem?_zipIdx, places_eq_map_zipIdx,
    List.getElem?_map, List.getElem?_zipIdx, ← places_eq_map_zipIdx]
  cases ht : ts[i]? with
  | none => rfl
  | some t =>
    have hi : i ≤ ts.length := (List.getElem?_eq_some_iff.1 ht).1.le
    simp only [Option.map_some, Nat.zero_add, Option.some.injEq, Prod.mk.injEq, true_and]
    rw [targetAt]
    by_cases hc : LooksAtCharacter ts i
    · rw [if_pos hc, placeAt_eq_character.2 hc, targetIn]
    rw [if_neg hc]
    by_cases ha : LooksAhead ts i
    · rw [if_pos ha, placeAt_eq_ahead.2 ha, targetIn, Nat.zero_add, countP_take_places none ts hi,
        countP_range_ahead]
    rw [if_neg ha]
    by_cases hb : LooksBehind ts i
    · rw [if_pos hb, placeAt_eq_behind.2 hb, targetIn, countBehind_places, countBehind,
        countP_take_places none ts hi, countP_range_behind]
    rw [if_neg hb]
    rw [← placeAt_eq_character] at hc
    rw [← placeAt_eq_ahead] at ha
    rw [← placeAt_eq_behind] at hb
    generalize placeAt none ts i = place at hc ha hb
    rcases place with _ | _ | _ | _ | _ <;> simp_all [targetIn]

/-! ### The leaves of a test -/

theorem leaves_foldl_or (p : Predicate) (ps : List Predicate) :
    (ps.foldl .or p).leaves = p.leaves ++ ps.flatMap Predicate.leaves := by
  induction ps generalizing p with
  | nil => simp
  | cons q ps ih => rw [List.foldl_cons, ih, Predicate.leaves, List.flatMap_cons, List.append_assoc]

theorem leaves_anyOf (ps : List Predicate) :
    (Predicate.anyOf ps).toList.flatMap Predicate.leaves = ps.flatMap Predicate.leaves := by
  cases ps with
  | nil => rfl
  | cons p ps => simp [Predicate.anyOf, leaves_foldl_or]

/-- The leaves that an item brings. -/
def Item.leaves : Item → List Predicate
  | .operand p => p.leaves
  | .and | .or => []

/-- Joining keeps the leaves. -/
theorem leaves_combine {done : List Predicate} {current : Option Predicate}
    {operator : Option Clause.Token} {is : List (Item × Clause.Token)} {r : Option Predicate}
    (h : combine done current operator is = .ok r) :
    r.toList.flatMap Predicate.leaves = done.flatMap Predicate.leaves ++
      current.toList.flatMap Predicate.leaves ++ is.flatMap fun e => e.1.leaves := by
  fun_induction combine done current operator is with
  | case1 => simp at h
  | case2 done current =>
    obtain rfl := Except.ok.inj h
    simp [leaves_anyOf]
  | case3 done current operator p t is ih =>
    rw [ih h]
    cases current <;> simp [Item.leaves, Predicate.leaves]
  | case4 => simp at h
  | case5 done current operator t is hstate ih =>
    rw [ih h]
    simp [Item.leaves]
  | case6 => simp at h
  | case7 done current operator t is hstate ih =>
    rw [ih h]
    simp [Item.leaves]

theorem leaves_operand [Regex.Engine] {p : Predicate} (h : operand scope t target = .ok p) :
    p.leaves = [p] ∧ IsLeaf scope t target p := by
  rw [operand] at h
  split at h
  next hkind =>
    split at h
    next q hq =>
      obtain rfl := Except.ok.inj h
      exact ⟨rfl, .literal (by simp [literal?, hkind, hq, Except.toOption])⟩
    next => simp at h
  next hkind =>
    obtain rfl := Except.ok.inj h
    exact ⟨rfl, .literal (by simp [literal?, hkind])⟩
  next hkind =>
    obtain rfl := Except.ok.inj h
    exact ⟨rfl, .literal (by simp [literal?, hkind])⟩
  next hkind =>
    split at h
    next f hf =>
      obtain rfl := Except.ok.inj h
      exact ⟨rfl, .host hkind hf⟩
    next hnone =>
      split at h
      next =>
        obtain rfl := Except.ok.inj h
        exact ⟨rfl, .named hkind hnone⟩
      next => simp at h
  next => simp at h

theorem leaves_item [Regex.Engine] {i : Option Item} (h : item scope t target = .ok i) :
    List.Forall₂ (fun e leaf => IsLeaf scope e.1 e.2 leaf)
      ([(t, target)].filter fun e => isBound scope e.1) (i.toList.flatMap Item.leaves) := by
  rw [item] at h
  split at h
  next hoperand =>
    cases hp : operand scope t target with
    | error fault => simp [hp, Except.map] at h
    | ok p =>
      rw [hp] at h
      obtain rfl := Except.ok.inj h
      obtain ⟨hleaves, hleaf⟩ := leaves_operand hp
      simpa [isBound, hoperand, Item.leaves, hleaves] using hleaf
  next hoperand =>
    split at h
    next hword =>
      obtain rfl := Except.ok.inj h
      by_cases hdef : scope.isDefinition t.value = true
      · simpa [isBound, hword, hdef, Item.leaves, Predicate.leaves] using IsLeaf.word hword
      · simp [isBound, hoperand, hdef, Item.leaves]
    next hword =>
      have hbound : [(t, target)].filter (fun e => isBound scope e.1) = [] := by
        simp [isBound, hoperand, hword]
      rw [hbound]
      split_ifs at h <;> obtain rfl := Except.ok.inj h <;> exact .nil

theorem forall₂_leaves_items [Regex.Engine] {tts : List (Clause.Token × Target)}
    {is : List (Item × Clause.Token)} (h : items scope tts = .ok is) :
    List.Forall₂ (fun e leaf => IsLeaf scope e.1 e.2 leaf)
      (tts.filter fun e => isBound scope e.1) (is.flatMap fun e => e.1.leaves) := by
  induction tts generalizing is with
  | nil =>
    obtain rfl := Except.ok.inj h
    exact .nil
  | cons e tts ih =>
    obtain ⟨t, target⟩ := e
    rw [items] at h
    split at h
    next => simp at h
    next i hi =>
      cases hrest : items scope tts with
      | error fault => simp [hrest, Except.map] at h
      | ok is' =>
        rw [hrest] at h
        obtain rfl := Except.ok.inj h
        have hfirst : ((i.map (·, t)).toList.flatMap fun e => e.1.leaves)
            = i.toList.flatMap Item.leaves := by cases i <;> rfl
        rw [← List.singleton_append, List.filter_append, List.flatMap_append, hfirst]
        exact List.rel_append (leaves_item hi) (ih hrest)

/-- **The leaves of a test are its operands**, in order. -/
theorem forall₂_leaves_ofTokens [Regex.Engine] {test : Test} (h : ofTokens scope ts = .ok test) :
    List.Forall₂ (fun e leaf => IsLeaf scope e.1 e.2 leaf) (operands scope ts)
      (test.predicate.toList.flatMap Predicate.leaves) := by
  obtain ⟨_, is, p, his, hp, rfl⟩ := ofTokens_eq_ok.1 h
  have hleaves := forall₂_leaves_items his
  rw [targets_eq_map_zipIdx, List.filter_map] at hleaves
  rw [leaves_combine hp]
  exact hleaves

/-! ### Operands that look behind -/

/-- A token answers to a literal. -/
def IsAnsweredBy [Regex.Engine] (t : Clause.Token) (u : Token) : Prop :=
  ∃ m, literal? t = some m ∧ m.matchesToken u = true

/-- Operands whose distances count down to 1 are answered by the tokens at the end, in order. -/
theorem forall₂_of_targets [Regex.Engine] {s : Scan} {ahead : Nat}
    {ps : List (Clause.Token × Option Place)}
    (h : ∀ t d, (t, .behind d) ∈ targets ahead ps → ∃ u, s.behind? d = some u ∧ IsAnsweredBy t u) :
    countBehind ps ≤ s.emitted.length ∧
      List.Forall₂ IsAnsweredBy ((ps.filter (·.2 == some .behind)).map Prod.fst)
        (s.emitted.take (countBehind ps)).reverse := by
  fun_induction targets ahead ps with
  | case1 => exact ⟨Nat.zero_le _, .nil⟩
  | case3 ahead t ps ih =>
    obtain ⟨hle, hrest⟩ := ih fun u d hu => h u d (List.mem_cons_of_mem _ hu)
    obtain ⟨u, hu, hanswer⟩ := h t _ List.mem_cons_self
    rw [Scan.behind?, if_neg (Nat.succ_ne_zero _), Nat.add_sub_cancel] at hu
    -- the operand looks at the token just before those that the rest looks at
    have hcount : countBehind ((t, some .behind) :: ps) = countBehind ps + 1 := by
      simp [countBehind]
    have hlt : countBehind ps < s.emitted.length := (List.getElem?_eq_some_iff.1 hu).1
    refine ⟨by omega, ?_⟩
    rw [hcount, List.take_add_one, hu, List.reverse_append]
    exact .cons hanswer hrest
  | case2 ahead t ps ih | case4 ahead t ps ih | case5 ahead t ps ih | case6 ahead t ps ih =>
    have hrest := ih fun u d hu => h u d (List.mem_cons_of_mem _ hu)
    simpa [countBehind] using hrest

theorem segments_of_no_or {ss : List Symbol} (h : ∀ a ∈ ss, a.isOr = false) :
    segments ss = [ss.filterMap Symbol.operand?] := by
  rw [segments, List.splitOnP_eq_singleton h]
  rfl

/-- Without `||` all operands have to be true. -/
theorem isTrue_of_holds [Regex.Engine] {test : Test} {p : Predicate} {s : Scan}
    (hts : ∀ t ∈ ts, t.kind ≠ .eof) (h : ofTokens scope ts = .ok test)
    (hp : test.predicate = some p) (hs : p.holds s = true) (hor : ∀ t ∈ ts, t.kind ≠ .or) :
    ∀ e ∈ targets 0 (places none ts), e.1.kind.isOperand = true → IsTrue scope s e.1 e.2 := by
  have hsymbols : ∀ a ∈ symbols scope ts, a.isOr = false := by
    intro a ha
    obtain ⟨⟨t, target⟩, he, hsymbol⟩ := List.mem_filterMap.1 ha
    have ht : t ∈ ts := by
      rw [← map_fst_places none ts, ← map_fst_targets 0]
      exact List.mem_map_of_mem he
    rw [symbol?] at hsymbol
    split_ifs at hsymbol with _ _ hkind
    · exact Option.some.inj hsymbol ▸ rfl
    · exact Option.some.inj hsymbol ▸ rfl
    · exact absurd hkind (hor t ht)
  obtain ⟨segment, hmem, htrue⟩ := ((holds_ofTokens hts h).2 p hp s).1 hs
  rw [segments_of_no_or hsymbols, List.mem_singleton] at hmem
  subst hmem
  intro e he hkind
  refine htrue e (List.mem_filterMap.2 ⟨.operand e.1 e.2, ?_, rfl⟩)
  exact List.mem_filterMap.2 ⟨e, he, if_pos (Or.inl hkind)⟩

/-- A literal that looks behind and is true is answered by the token it looks at. -/
theorem exists_answer [Regex.Engine] {s : Scan} {d : Nat} (hkind : t.kind.isOperand = true)
    (hhost : t.kind ≠ .hostExpression) (h : IsTrue scope s t (.behind d)) :
    ∃ u, s.behind? d = some u ∧ IsAnsweredBy t u := by
  have hliteral : ∃ m, literal? t = some m ∧ m.matchesTarget s (.behind d) = true := by
    obtain ⟨kind, value, offset⟩ := t
    cases kind <;> simp only [Kind.isOperand, Bool.false_eq_true] at hkind
    case pattern =>
      obtain ⟨p, hp, hmatch⟩ := h
      exact ⟨.pattern p, by simp [literal?, hp, Except.toOption], hmatch⟩
    case string => exact ⟨.text value, rfl, h⟩
    case tag => exact ⟨.tag value, rfl, h⟩
    case hostExpression => exact absurd rfl hhost
  obtain ⟨m, hm, hmatch⟩ := hliteral
  obtain ⟨u, hu, hanswer⟩ := (Option.any_eq_true _ _).1 hmatch
  exact ⟨u, hu, m, hm, hanswer⟩

theorem looksBehind_of_targetAt {i d : Nat} (h : targetAt ts i = .behind d) : LooksBehind ts i := by
  rw [targetAt] at h
  split_ifs at h with _ _ hbehind
  exact hbehind

/-- **The operands that look behind are answered by the last emitted tokens**, one by one. -/
theorem forall₂_operandsBehind [Regex.Engine] {test : Test} {p : Predicate} {s : Scan}
    (hts : ∀ t ∈ ts, t.kind ≠ .eof) (h : ofTokens scope ts = .ok test)
    (hp : test.predicate = some p) (hs : p.holds s = true) (hor : ∀ t ∈ ts, t.kind ≠ .or)
    (hhost : ∀ t ∈ operandsBehind ts, t.kind ≠ .hostExpression) :
    test.lookBack ≤ s.emitted.length ∧
      List.Forall₂ IsAnsweredBy (operandsBehind ts) (s.emitted.take test.lookBack).reverse := by
  have hcount : test.lookBack = countBehind (places none ts) := by
    obtain ⟨_, _, _, _, _, rfl⟩ := ofTokens_eq_ok.1 h
    rfl
  rw [hcount, operandsBehind_eq]
  refine forall₂_of_targets fun t d (hmem : _ ∈ targets 0 (places none ts)) => ?_
  have htrue := isTrue_of_holds hts h hp hs hor _ hmem
  rw [targets_eq_map_zipIdx] at hmem
  obtain ⟨⟨u, i⟩, hi, he⟩ := List.mem_map.1 hmem
  obtain ⟨rfl, htarget⟩ := Prod.mk.inj he
  have hbehind := looksBehind_of_targetAt htarget
  have hkind : u.kind.isOperand = true := by
    have hoperand := hbehind.1
    rwa [kindAt, List.mk_mem_zipIdx_iff_getElem?.1 hi] at hoperand
  refine exists_answer hkind (hhost u ?_) (htrue hkind)
  exact List.mem_map.2 ⟨(u, i), List.mem_filter.2 ⟨hi, decide_eq_true hbehind⟩, rfl⟩

end Test

end RuleLexer
