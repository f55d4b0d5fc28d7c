import Mathlib.Data.List.Forall2
import RuleLexer.Proofs.Moments

/-!
# Two runs beside each other

Two scanners are run beside each other, on states that are related.  `R` relates states in the middle
of an event and `Q` states between two events.  If the rules of the scanners mirror each other
(`Rule.Mirrors`) and the parts of an event keep the relations (`EventsKeep`), then **both scans end
with the same error, or both end in related states** (`scanUntil_alike`, `scanFrom_alike`); the same
goes for the pass over the tokens (`letFrom_alike`).

`Scanner.scanUntil` is the scan that stops at a place of the text.
-/

namespace RuleLexer

variable {R Q : Scan → Scan → Prop} {s t : Scan}

/-! ### Ends that are alike -/

/-- Two calls end alike: with the same error, or with related results. -/
inductive EndAlike {α β : Type} (R : α → β → Prop) : Except Error α → Except Error β → Prop
  | error {e : Error} : EndAlike R (.error e) (.error e)
  | ok {a : α} {b : β} : R a b → EndAlike R (.ok a) (.ok b)

/-- Two actions end alike: with the same error, or in related states and with the same flow. -/
inductive ActAlike (R : Scan → Scan → Prop) :
    Scan × Except Error Flow → Scan × Except Error Flow → Prop
  | error {s t : Scan} {e : Error} : ActAlike R (s, .error e) (t, .error e)
  | ok {s t : Scan} {flow : Flow} : R s t → ActAlike R (s, .ok flow) (t, .ok flow)

theorem EndAlike.error_or_ok {α β : Type} {S : α → β → Prop} {x : Except Error α}
    {y : Except Error β} (h : EndAlike S x y) :
    (∃ e, x = .error e ∧ y = .error e) ∨ ∃ a b, x = .ok a ∧ y = .ok b ∧ S a b := by
  cases h with
  | error => exact Or.inl ⟨_, rfl, rfl⟩
  | ok hab => exact Or.inr ⟨_, _, rfl, rfl, hab⟩

theorem EndAlike.exists_ok {α β : Type} {S : α → β → Prop} {a : α} {y : Except Error β}
    (h : EndAlike S (.ok a) y) : ∃ b, y = .ok b ∧ S a b := by
  cases h with
  | ok hab => exact ⟨_, rfl, hab⟩

theorem EndAlike.eq_error {α β : Type} {S : α → β → Prop} {e : Error} {y : Except Error β}
    (h : EndAlike S (.error e) y) : y = .error e := by
  cases h with
  | error => rfl

theorem ActAlike.error_or_ok {x y : Scan × Except Error Flow} (h : ActAlike R x y) :
    (∃ u v e, x = (u, .error e) ∧ y = (v, .error e)) ∨
      ∃ u v flow, x = (u, .ok flow) ∧ y = (v, .ok flow) ∧ R u v := by
  cases h with
  | error => exact Or.inl ⟨_, _, _, rfl, rfl⟩
  | ok huv => exact Or.inr ⟨_, _, _, rfl, rfl, huv⟩

theorem EndAlike.refl {α : Type} {S : α → α → Prop} (h : ∀ a, S a a) (x : Except Error α) :
    EndAlike S x x := by
  cases x with
  | error e => exact .error
  | ok a => exact .ok (h a)

theorem ActAlike.refl (h : ∀ u, R u u) (x : Scan × Except Error Flow) : ActAlike R x x := by
  obtain ⟨u, e | flow⟩ := x
  · exact .error
  · exact .ok (h u)

theorem EndAlike.map {α β α' β' : Type} {S : α → β → Prop} {S' : α' → β' → Prop}
    {x : Except Error α} {y : Except Error β} {f : α → α'} {g : β → β'} (h : EndAlike S x y)
    (hfg : ∀ a b, S a b → S' (f a) (g b)) : EndAlike S' (x.map f) (y.map g) := by
  cases h with
  | error => exact .error
  | ok hab => exact .ok (hfg _ _ hab)

theorem EndAlike.bind {α β α' β' : Type} {S : α → β → Prop} {S' : α' → β' → Prop}
    {x : Except Error α} {y : Except Error β} {f : α → Except Error α'} {g : β → Except Error β'}
    (h : EndAlike S x y) (hfg : ∀ a b, S a b → EndAlike S' (f a) (g b)) :
    EndAlike S' (x.bind f) (y.bind g) := by
  cases h with
  | error => exact .error
  | ok hab => exact hfg _ _ hab

/-! ### Actions and chains -/

/-- **An action beside itself without some of its steps.**  The steps that stay keep the relation;
the others do nothing that it can tell. -/
theorem runSteps_alike (keep : Step → Bool) {steps : List Step}
    (hkeep : ∀ step ∈ steps, keep step = true → ∀ s t, R s t →
      step.error? s = step.error? t ∧ R (step.apply s) (step.apply t))
    (hdrop : ∀ step ∈ steps, keep step = false → step.flow? = none ∧ ∀ s t, R s t →
      step.error? s = none ∧ R (step.apply s) t) :
    ∀ {flow : Flow} {s t : Scan}, R s t →
      ActAlike R (runSteps flow s steps) (runSteps flow t (steps.filter keep)) := by
  induction steps with
  | nil =>
    intro flow s t h
    exact .ok h
  | cons step steps ih =>
    intro flow s t h
    rw [List.forall_mem_cons] at hkeep hdrop
    have hsteps := @ih hkeep.2 hdrop.2
    rw [runSteps]
    cases hstep : keep step with
    | true =>
      obtain ⟨herror, happly⟩ := hkeep.1 hstep s t h
      rw [List.filter_cons_of_pos hstep, runSteps, herror]
      cases step.error? t with
      | some e => exact .error
      | none => exact hsteps happly
    | false =>
      obtain ⟨hflow, hdrop⟩ := hdrop.1 hstep
      obtain ⟨herror, happly⟩ := hdrop s t h
      rw [List.filter_cons_of_neg (by simp [hstep]), herror, hflow]
      exact hsteps happly

/-- Two rules do the same in related states. -/
structure Rule.Mirrors (R : Scan → Scan → Prop) (r r' : Rule) : Prop where
  kind : r'.kind = r.kind
  lookBack : r'.lookBack = r.lookBack
  isMatch : ∀ s t, R s t → r'.isMatch t = r.isMatch s
  run : ∀ s t, R s t → ActAlike R (r.run s) (r'.run t)

theorem findMatch_alike {rules rules' : List Rule}
    (hrules : List.Forall₂ (Rule.Mirrors R) rules rules') (h : R s t) :
    Option.Rel (Rule.Mirrors R) (findMatch rules s) (findMatch rules' t) := by
  induction hrules with
  | nil => exact .none
  | @cons r r' rules rules' hr _ ih =>
    rw [findMatch, findMatch, List.find?_cons, List.find?_cons, hr.isMatch s t h]
    cases r.isMatch s with
    | true => exact .some hr
    | false => exact ih

theorem runChain_alike {rules rules' : List Rule}
    (hrules : List.Forall₂ (Rule.Mirrors R) rules rules') (h : R s t) :
    ActAlike R (runChain rules s) (runChain rules' t) := by
  have hmatch := findMatch_alike hrules h
  rw [runChain, runChain]
  revert hmatch
  generalize findMatch rules s = x
  generalize findMatch rules' t = y
  intro hmatch
  cases hmatch with
  | none => exact .ok h
  | some hr => exact hr.run s t h

/-! ### What a simulation keeps -/

/-- The parts of an event keep the relations: `R` until the event is over, `Q` from then on. -/
structure EventsKeep (R Q : Scan → Scan → Prop) : Prop where
  push : ∀ {s t : Scan} (c : Char), R s t → R (s.push c) (t.push c)
  flush : ∀ {s t : Scan}, R s t → R s.flush t.flush
  ofChar : ∀ {s t : Scan} (c : Char), R s t →
    R { s with token := .ofChar c } { t with token := .ofChar c }
  clear : ∀ {s t : Scan}, R s t → R { s with token := {} } { t with token := {} }
  finish : ∀ {s t : Scan}, R s t → Q s t
  skip : ∀ {s t : Scan}, R s t → Q s.consumeSkipped t.consumeSkipped
  advance : ∀ {s t : Scan}, Q s t → Q s.advance t.advance

/-- The parts of a pass keep the relation, where the second run passes the token `f token` beside
`token`. -/
structure PassKeeps (R : Scan → Scan → Prop) (isBreak : Char → Bool) (f : Token → Token) :
    Prop where
  text : ∀ token, (f token).text = token.text
  next : ∀ {s t : Scan} (index : Nat) (token : Token), R s t →
    R { s with index := index, token := token } { t with index := index, token := f token }
  flush : ∀ {s t : Scan}, R s t → R s.flush t.flush
  join : ∀ {s t : Scan} (count : Nat), R s t →
    R { s with lookBack := count }.joinBehind { t with lookBack := count }.joinBehind
  expand : ∀ {s t : Scan}, R s t →
    R { s with token := {}, emitted := (s.token.expand isBreak).reverse ++ s.emitted }
      { t with token := {}, emitted := (t.token.expand isBreak).reverse ++ t.emitted }

namespace Scanner

/-! ### Events -/

section

variable {m m' : Scanner} (hkeep : EventsKeep R Q)
  (hrules : List.Forall₂ (Rule.Mirrors R) m.ifRules m'.ifRules)

include hkeep hrules

theorem breakEvent_alike (c : Char) (h : R s t) :
    EndAlike Q (m.breakEvent c s) (m'.breakEvent c t) := by
  have hchain := runChain_alike hrules (hkeep.ofChar c h)
  rw [breakEvent, breakEvent]
  rcases hchain.error_or_ok with ⟨u, v, e, hu, hv⟩ | ⟨u, v, flow, hu, hv, huv⟩
  · rw [hu, hv]
    exact .error
  · rw [hu, hv]
    cases flow with
    | proceed => exact .ok (hkeep.finish (hkeep.flush huv))
    | fold => exact .ok (hkeep.finish huv)
    | skip => exact .ok (hkeep.skip (hkeep.clear huv))

theorem boundary_alike (c : Char) (h : R s t) :
    EndAlike Q (m.boundary c s) (m'.boundary c t) := by
  have hchain := runChain_alike hrules h
  rw [boundary, boundary]
  rcases hchain.error_or_ok with ⟨u, v, e, hu, hv⟩ | ⟨u, v, flow, hu, hv, huv⟩
  · rw [hu, hv]
    exact .error
  · rw [hu, hv]
    cases flow with
    | proceed => exact breakEvent_alike hkeep hrules c (hkeep.flush huv)
    | fold => exact .ok (hkeep.finish (hkeep.push c huv))
    | skip => exact .ok (hkeep.skip huv)

variable (hbreak : m'.isBreak = m.isBreak)

include hbreak

/-- **Taking a character.** -/
theorem step_alike (c : Char) (h : R s t) : EndAlike Q (m.step c s) (m'.step c t) := by
  rw [step, step, hbreak]
  split
  · exact (boundary_alike hkeep hrules c h).map fun _ _ => hkeep.advance
  · exact .ok (hkeep.advance (hkeep.finish (hkeep.push c h)))

end

/-! ### The scan of a text -/

/-- Scans from a state until the index reaches `n`, or to the end of the text. -/
def scanUntil (m : Scanner) (n : Nat) (s : Scan) : Except Error Scan :=
  if h : s.index < s.input.size ∧ s.index < n then
    match _h : m.step s.input[s.index] s with
    | .ok t => m.scanUntil n t
    | .error e => .error e
  else .ok s
termination_by s.input.size - s.index
decreasing_by
  obtain ⟨hi, hx⟩ := follows_step ‹_› h.1
  rw [hi]
  omega

variable {m m' : Scanner} {n : Nat}

theorem scanUntil_of_getElem? {c : Char} (hn : s.index < n) (hc : s.input[s.index]? = some c) :
    m.scanUntil n s = (m.step c s).bind (m.scanUntil n) := by
  obtain ⟨h, rfl⟩ := Array.getElem?_eq_some_iff.1 hc
  rw [scanUntil, dif_pos ⟨h, hn⟩]
  split
  next ht =>
    rw [ht]
    rfl
  next he =>
    rw [he]
    rfl

theorem scanUntil_of_le (h : n ≤ s.index ∨ s.input.size ≤ s.index) : m.scanUntil n s = .ok s := by
  rw [scanUntil, dif_neg]
  omega

/-- It stops where it should. -/
theorem le_index_of_scanUntil (h : m.scanUntil n s = .ok t) :
    n ≤ t.index ∨ t.input.size ≤ t.index := by
  fun_induction m.scanUntil n s with
  | case1 s _ u _ ih => exact ih h
  | case2 => simp at h
  | case3 s hstop =>
    obtain rfl := Except.ok.inj h
    omega

/-- **The scan goes on from where it was stopped.** -/
theorem bind_scanUntil (m : Scanner) (n : Nat) (s : Scan) :
    (m.scanUntil n s).bind m.scanFrom = m.scanFrom s := by
  fun_induction m.scanUntil n s with
  | case1 s hlt u hu ih =>
    rw [scanFrom_of_getElem? (Array.getElem?_eq_getElem hlt.1), hu]
    exact ih
  | case2 s hlt e he =>
    rw [scanFrom_of_getElem? (Array.getElem?_eq_getElem hlt.1), he]
  | case3 => rfl

/-- What it ends with is a state that the scan comes to. -/
theorem scanReaches_of_scanUntil {input : String} (hs : m.ScanReaches input s)
    (h : m.scanUntil n s = .ok t) : m.ScanReaches input t := by
  fun_induction m.scanUntil n s with
  | case1 s hlt u hu ih => exact ih (.step hs (Array.getElem?_eq_getElem hlt.1) hu) h
  | case2 => simp at h
  | case3 =>
    obtain rfl := Except.ok.inj h
    exact hs

/-- Of the states that the scan comes to, **it stops at the first that has come to `n`.** -/
theorem index_le_of_scanUntil {input : String} (ht : m.ScanReaches input t) (hn : n ≤ t.index)
    (h : m.scanUntil n (Scan.start input m.definitions) = .ok s) : s.index ≤ t.index := by
  have hbefore : ∀ {u : Scan}, m.ScanReaches input u →
      m.scanUntil n (Scan.start input m.definitions) = m.scanUntil n u ∨ s.index ≤ u.index := by
    intro u hu
    induction hu with
    | start => exact Or.inl rfl
    | @step u v c _ hc hstep ih =>
      have hlt : u.index < v.index :=
        (follows_step hstep (Array.getElem?_eq_some_iff.1 hc).1).2
      rcases ih with hsame | hle
      · rcases Nat.lt_or_ge u.index n with hun | hun
        · rw [hsame, scanUntil_of_getElem? hun hc, hstep]
          exact Or.inl rfl
        · rw [hsame, scanUntil_of_le (Or.inl hun)] at h
          obtain rfl := Except.ok.inj h
          exact Or.inr (Nat.le_of_lt hlt)
      · exact Or.inr (Nat.le_trans hle (Nat.le_of_lt hlt))
  rcases hbefore ht with hsame | hle
  · rw [hsame, scanUntil_of_le (Or.inl hn)] at h
    obtain rfl := Except.ok.inj h
    exact Nat.le_refl _
  · exact hle

/-- It is the whole scan if it stops behind the text only. -/
theorem scanUntil_of_size_le (h : s.input.size ≤ n) : m.scanUntil n s = m.scanFrom s := by
  rw [← bind_scanUntil m n s]
  cases hs : m.scanUntil n s with
  | error e => rfl
  | ok t =>
    have hinput : t.input = s.input := by
      fun_induction m.scanUntil n s with
      | case1 s hlt u hu ih =>
        have hstep := (follows_step hu hlt.1).1
        exact (ih (hstep ▸ h) hs).trans hstep
      | case2 => simp at hs
      | case3 =>
        obtain rfl := Except.ok.inj hs
        rfl
    have hend : t.input.size ≤ t.index := by
      rcases le_index_of_scanUntil hs with hn | hn
      · rw [hinput]
        exact Nat.le_trans h hn
      · exact hn
    exact (scanFrom_of_size_le hend).symm

/-- **Two scans beside each other**, which stop at the same time, take the same characters, and end
each step alike. -/
theorem scanUntil_alike_of_step
    (hstop : ∀ s t, Q s t → n ≤ s.index ∨ s.input.size ≤ s.index →
      n ≤ t.index ∨ t.input.size ≤ t.index)
    (hgo : ∀ s t c, Q s t → s.index < n → s.input[s.index]? = some c →
      t.index < n ∧ t.input[t.index]? = some c ∧ EndAlike Q (m.step c s) (m'.step c t))
    (s t : Scan) (h : Q s t) : EndAlike Q (m.scanUntil n s) (m'.scanUntil n t) := by
  fun_induction m.scanUntil n s generalizing t with
  | case1 s hlt u hu ih =>
    obtain ⟨hn, hc, hstep⟩ := hgo s t _ h hlt.2 (Array.getElem?_eq_getElem hlt.1)
    rw [hu] at hstep
    obtain ⟨v, hv, huv⟩ := hstep.exists_ok
    rw [scanUntil_of_getElem? hn hc, hv]
    exact ih v huv
  | case2 s hlt e he =>
    obtain ⟨hn, hc, hstep⟩ := hgo s t _ h hlt.2 (Array.getElem?_eq_getElem hlt.1)
    rw [he] at hstep
    rw [scanUntil_of_getElem? hn hc, hstep.eq_error]
    exact .error
  | case3 s hle =>
    rw [scanUntil_of_le (hstop s t h (by omega))]
    exact .ok h

/-- Two scans of one text from the same place on. -/
theorem scanFrom_alike_of_step (hhead : ∀ s t, Q s t → t.input = s.input ∧ t.index = s.index)
    (hstep : ∀ s t c, Q s t → EndAlike Q (m.step c s) (m'.step c t)) (s t : Scan) (h : Q s t) :
    EndAlike Q (m.scanFrom s) (m'.scanFrom t) := by
  have hsize : t.input.size ≤ s.input.size := Nat.le_of_eq (congrArg _ (hhead s t h).1)
  rw [← scanUntil_of_size_le (Nat.le_refl _), ← scanUntil_of_size_le hsize]
  refine scanUntil_alike_of_step ?_ ?_ s t h
  · intro s t hst hle
    obtain ⟨hinput, hindex⟩ := hhead s t hst
    rwa [hinput, hindex]
  · intro s t c hst hlt hc
    obtain ⟨hinput, hindex⟩ := hhead s t hst
    exact ⟨hindex ▸ hlt, by rw [hinput, hindex, hc], hstep s t c hst⟩

section

variable (hkeep : EventsKeep R Q) (hrules : List.Forall₂ (Rule.Mirrors R) m.ifRules m'.ifRules)
  (hbreak : m'.isBreak = m.isBreak)

include hkeep hrules hbreak

theorem scanUntil_alike
    (hstop : ∀ s t, Q s t → n ≤ s.index ∨ s.input.size ≤ s.index →
      n ≤ t.index ∨ t.input.size ≤ t.index)
    (hgo : ∀ s t c, Q s t → s.index < n → s.input[s.index]? = some c →
      R s t ∧ t.index < n ∧ t.input[t.index]? = some c) (s t : Scan) (h : Q s t) :
    EndAlike Q (m.scanUntil n s) (m'.scanUntil n t) := by
  refine scanUntil_alike_of_step hstop (fun s t c hst hlt hc => ?_) s t h
  obtain ⟨hR, hn, hct⟩ := hgo s t c hst hlt hc
  exact ⟨hn, hct, step_alike hkeep hrules hbreak c hR⟩

theorem scanFrom_alike
    (hhead : ∀ s t, Q s t → R s t ∧ t.input = s.input ∧ t.index = s.index) (s t : Scan)
    (h : Q s t) : EndAlike Q (m.scanFrom s) (m'.scanFrom t) :=
  scanFrom_alike_of_step (fun s t hst => (hhead s t hst).2)
    (fun s t c hst => step_alike hkeep hrules hbreak c (hhead s t hst).1) s t h

end

/-! ### The pass over the tokens -/

section

variable {f : Token → Token} (hkeep : PassKeeps R m.isBreak f)
  (hrules : List.Forall₂ (Rule.Mirrors R) m.letRules m'.letRules)
  (hbreak : m'.isBreak = m.isBreak)

theorem runPlain_alike {r r' : Rule} (hr : r.Mirrors R r') (h : R s t) :
    EndAlike R (runPlain r s) (runPlain r' t) := by
  rw [runPlain, runPlain]
  rcases (hr.run s t h).error_or_ok with ⟨u, v, e, hu, hv⟩ | ⟨u, v, flow, hu, hv, huv⟩
  · rw [hu, hv]
    exact .error
  · rw [hu, hv]
    exact .ok huv

include hkeep hrules hbreak

/-- **Passing a token.** -/
theorem letStep_alike (h : R s t) : EndAlike R (m.letStep s) (m'.letStep t) := by
  have hmatch := findMatch_alike hrules h
  rw [letStep, letStep]
  revert hmatch
  generalize findMatch m.letRules s = x
  generalize findMatch m'.letRules t = y
  intro hmatch
  cases hmatch with
  | none => exact .ok (hkeep.flush h)
  | @some r r' hr =>
    simp only [hr.kind, hr.lookBack, hbreak]
    split
    next => exact .ok (hkeep.flush h)
    next => exact (runPlain_alike hr h).map fun _ _ => hkeep.flush
    next => exact (runPlain_alike hr h).map fun _ _ => hkeep.flush
    next => exact (runPlain_alike hr (hkeep.join r.lookBack h)).map fun _ _ => hkeep.flush
    next => exact (runPlain_alike hr h).map fun _ _ => hkeep.expand

/-- **Two passes beside each other.** -/
theorem letFrom_alike {tokens : List Token} :
    ∀ {passed : Nat} {s t : Scan}, R s t →
      EndAlike R (m.letFrom passed s tokens) (m'.letFrom passed t (tokens.map f)) := by
  induction tokens with
  | nil =>
    intro passed s t h
    exact .ok h
  | cons token tokens ih =>
    intro passed s t h
    have hstep := letStep_alike hkeep hrules hbreak
      (hkeep.next (passed + token.text.length - 1) token h)
    rw [List.map_cons, letFrom, letFrom, hkeep.text]
    rcases hstep.error_or_ok with ⟨e, hu, hv⟩ | ⟨u, v, hu, hv, huv⟩
    · rw [hu, hv]
      exact .error
    · rw [hu, hv]
      exact ih huv

theorem letPass_alike (htokens : ∀ u v, R u v → v.tokens = u.tokens.map f)
    (hscan : t.tokens = s.tokens.map f) (hstart : R (letStart s) (letStart t)) :
    EndAlike (fun as bs => bs = as.map f) (m.letPass s) (m'.letPass t) := by
  have hempty : m'.letRules.isEmpty = m.letRules.isEmpty := by
    rw [Bool.eq_iff_iff, List.isEmpty_iff_length_eq_zero, List.isEmpty_iff_length_eq_zero,
      hrules.length_eq]
  rw [letPass, letPass, hempty, hscan]
  split
  · exact .ok rfl
  · exact (letFrom_alike hkeep hrules hbreak hstart).map fun u v huv => htokens u v huv

end

end Scanner

end RuleLexer
