import RuleLexer.Rule.Basic

/-!
# Scanning

A `Scanner` cuts a text into tokens.  Characters that are no breaks are added to the token in
progress.  At a break the if-rules are run twice: on the token in progress, which is emitted then,
and on the token that consists of the break, which is emitted too.  A rule may end the event earlier
by folding the break into the token or by skipping characters.

Which characters are breaks is any predicate; `Specification.scanner` takes it from the break
pattern.
-/

namespace RuleLexer

/-- A compiled specification. -/
structure Scanner where
  isBreak : Char → Bool
  ifRules : List Rule
  letRules : List Rule
  definitions : Definitions

namespace Specification

/-- The values that the definitions of a specification begin with.  Of several definitions of a
name the last one counts. -/
def values (spec : Specification) : Definitions :=
  ({} : Definitions).insertAll (spec.definitions.map fun e => (e.name, .ofExpression e.value))

/-- Compiles a specification against the callbacks that its rules may name. -/
def scanner [Regex.Engine] (spec : Specification) (hosts : HostRegistry) : Except Error Scanner :=
  (spec.compile (Scope.ofDefinitions spec.definitions hosts)).map fun chains =>
    ⟨spec.breakPattern.matchesChar, chains.ifRules, chains.letRules, spec.values⟩

end Specification

namespace Scanner

/-- The second half of the event at the break `c`: the break is the token in progress. -/
def breakEvent (m : Scanner) (c : Char) (s : Scan) : Except Error Scan :=
  match runChain m.ifRules { s with token := .ofChar c } with
  | (_, .error e) => .error e
  | (s, .ok .fold) => .ok s
  | (s, .ok .skip) => .ok { s with token := {} }.consumeSkipped
  | (s, .ok .proceed) => .ok s.flush

/-- The event at the break `c`. -/
def boundary (m : Scanner) (c : Char) (s : Scan) : Except Error Scan :=
  match runChain m.ifRules s with
  | (_, .error e) => .error e
  | (s, .ok .fold) => .ok (s.push c)
  | (s, .ok .skip) => .ok s.consumeSkipped
  | (s, .ok .proceed) => m.breakEvent c s.flush

/-- Takes the current character `c`. -/
def step (m : Scanner) (c : Char) (s : Scan) : Except Error Scan :=
  if m.isBreak c then (m.boundary c s).map Scan.advance else .ok (s.push c).advance

/-! ### A step goes forward -/

/-- `t` is the state of the same scan as `s`, not before it. -/
def Follows (s t : Scan) : Prop :=
  t.input = s.input ∧ (s.index ≤ s.input.size → s.index ≤ t.index)

/-- A chain leaves text and place as they are. -/
theorem runChain_keeps {rules : List Rule} {s t : Scan} {r : Except Error Flow}
    (h : runChain rules s = (t, r)) : t.input = s.input ∧ t.index = s.index := by
  have hi := input_runChain rules s
  have hx := index_runChain rules s
  rw [h] at hi hx
  exact ⟨hi, hx⟩

/-- What has the text and the place of a state follows it. -/
theorem follows_of_eq {s t : Scan} (h : t.input = s.input ∧ t.index = s.index) : Follows s t :=
  ⟨h.1, fun _ => Nat.le_of_eq h.2.symm⟩

/-- Characters are skipped forwards, and at most to the end of the text. -/
theorem follows_consumeSkipped {s t : Scan} (h : t.input = s.input ∧ t.index = s.index) :
    Follows s t.consumeSkipped := by
  refine ⟨h.1, fun hs => Nat.le_min.2 ⟨?_, ?_⟩⟩
  · rw [h.2]
    exact Nat.le_add_right _ _
  · rw [h.1]
    exact hs

theorem follows_breakEvent {m : Scanner} {c : Char} {s t : Scan}
    (h : m.breakEvent c s = .ok t) : Follows s t := by
  rw [breakEvent] at h
  split at h
  next => simp at h
  next hc =>
    have hk := runChain_keeps hc
    obtain rfl := Except.ok.inj h
    exact follows_of_eq hk
  next hc =>
    have hk := runChain_keeps hc
    obtain rfl := Except.ok.inj h
    exact follows_consumeSkipped hk
  next hc =>
    have hk := runChain_keeps hc
    obtain rfl := Except.ok.inj h
    exact follows_of_eq hk

theorem follows_boundary {m : Scanner} {c : Char} {s t : Scan} (h : m.boundary c s = .ok t) :
    Follows s t := by
  rw [boundary] at h
  split at h
  next => simp at h
  next hc =>
    have hk := runChain_keeps hc
    obtain rfl := Except.ok.inj h
    exact follows_of_eq hk
  next hc =>
    have hk := runChain_keeps hc
    obtain rfl := Except.ok.inj h
    exact follows_consumeSkipped hk
  next u hc =>
    obtain ⟨hi, hx⟩ := runChain_keeps hc
    obtain ⟨gi, gx⟩ := follows_breakEvent h
    refine ⟨gi.trans hi, fun hs => ?_⟩
    rw [← hx, ← hi] at hs
    rw [← hx]
    exact gx hs

/-- A step keeps the text and goes forward. -/
theorem follows_step {m : Scanner} {c : Char} {s t : Scan} (h : m.step c s = .ok t)
    (hs : s.index < s.input.size) : t.input = s.input ∧ s.index < t.index := by
  rw [step] at h
  split at h
  next =>
    cases hb : m.boundary c s with
    | error e => rw [hb] at h; simp [Except.map] at h
    | ok u =>
      rw [hb] at h
      obtain rfl := Except.ok.inj h
      obtain ⟨hi, hx⟩ := follows_boundary hb
      exact ⟨hi, Nat.lt_succ_of_le (hx (Nat.le_of_lt hs))⟩
  next =>
    obtain rfl := Except.ok.inj h
    exact ⟨rfl, Nat.lt_succ_self _⟩

/-! ### The scan of a text -/

/-- Scans from a state to the end of the text. -/
def scanFrom (m : Scanner) (s : Scan) : Except Error Scan :=
  if h : s.index < s.input.size then
    match _h : m.step s.input[s.index] s with
    | .error e => .error e
    | .ok t => m.scanFrom t
  else .ok s
termination_by s.input.size - s.index
decreasing_by
  obtain ⟨hi, hx⟩ := follows_step ‹_› h
  rw [hi]
  omega

/-- Scans a text; the token in progress at the end is emitted. -/
def scan (m : Scanner) (input : String) : Except Error Scan :=
  (m.scanFrom (Scan.start input m.definitions)).map Scan.flush

end Scanner

end RuleLexer
