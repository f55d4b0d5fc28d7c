import RuleLexer.Proofs.Conservation
import RuleLexer.Proofs.Scan.Simulation
import RuleLexer.Proofs.Scan.Stream

/-!
# The counters of a scan

A scan has two counters, which rules set and read: how many characters the running event skips, and
how many tokens the last rule looked back at.  They are not set back everywhere, so an event may
begin with what an earlier one left in them.  **This does not matter** (`endAlike_sameButCounters`): from
two states that differ in the counters alone (`Scan.SameButCounters`), events, scans and passes fail
with the same error, or they end in states that differ in the counters alone again.

The reason is that a rule sets both counters before anything else (`run_sameButCounters`), and that
nothing but a rule reads them: characters are skipped only where a rule asks for it, and tokens are
joined only by a step that counts them or in a `be group`, which counts them too.  The tests of the
rules must not ask a host, which can see the counters; host actions may be arbitrary.
-/

namespace RuleLexer

/-- Two states that differ in the counters alone, if at all. -/
structure Scan.SameButCounters (s t : Scan) : Prop where
  input : t.input = s.input
  index : t.index = s.index
  token : t.token = s.token
  emitted : t.emitted = s.emitted
  definitions : t.definitions = s.definitions

open Scan (SameButCounters)

variable {m : Scanner} {s t : Scan}

namespace Scan.SameButCounters

theorem refl (s : Scan) : SameButCounters s s :=
  ⟨rfl, rfl, rfl, rfl, rfl⟩

/-- The second state is the first one with other counters. -/
theorem exists_eq (h : SameButCounters s t) :
    ∃ skip lookBack, t = { s with skip := skip, lookBack := lookBack } := by
  obtain ⟨input, index, token, emitted, definitions, skip, lookBack⟩ := t
  obtain ⟨rfl, rfl, rfl, rfl, rfl⟩ := h
  exact ⟨skip, lookBack, rfl⟩

theorem push (h : SameButCounters s t) (c : Char) : SameButCounters (s.push c) (t.push c) := by
  obtain ⟨skip, lookBack, rfl⟩ := h.exists_eq
  exact ⟨rfl, rfl, rfl, rfl, rfl⟩

theorem advance (h : SameButCounters s t) : SameButCounters s.advance t.advance := by
  obtain ⟨skip, lookBack, rfl⟩ := h.exists_eq
  exact ⟨rfl, rfl, rfl, rfl, rfl⟩

theorem flush (h : SameButCounters s t) : SameButCounters s.flush t.flush := by
  obtain ⟨skip, lookBack, rfl⟩ := h.exists_eq
  exact ⟨rfl, rfl, rfl, rfl, rfl⟩

theorem letStart (h : SameButCounters s t) :
    SameButCounters (Scanner.letStart s) (Scanner.letStart t) := by
  obtain ⟨skip, lookBack, rfl⟩ := h.exists_eq
  exact ⟨rfl, rfl, rfl, rfl, rfl⟩

theorem tokens (h : SameButCounters s t) : t.tokens = s.tokens :=
  congrArg List.reverse h.emitted

end Scan.SameButCounters

/-! ### Rules -/

/-- A test that asks no host does not see the counters. -/
theorem Predicate.holds_sameButCounters {p : Predicate} (hfree : p.HostFree)
    (h : SameButCounters s t) : p.holds t = p.holds s := by
  obtain ⟨skip, lookBack, rfl⟩ := h.exists_eq
  induction p with
  | test target matcher => cases target <;> rfl
  | definition => rfl
  | host => exact hfree.elim
  | and l r ihl ihr | or l r ihl ihr => simp only [holds, ihl hfree.1, ihr hfree.2]

/-- **A rule sets both counters before it does anything.** -/
theorem run_sameButCounters (r : Rule) (h : SameButCounters s t) : r.run t = r.run s := by
  obtain ⟨skip, lookBack, rfl⟩ := h.exists_eq
  rfl

theorem findMatch_sameButCounters {rules : List Rule} (hfree : ∀ r ∈ rules, r.predicate.HostFree)
    (h : SameButCounters s t) : findMatch rules t = findMatch rules s :=
  List.find?_congr fun r hr => Predicate.holds_sameButCounters (hfree r hr) h

/-- A chain does nothing in either state, or the same. -/
theorem runChain_sameButCounters {rules : List Rule} (hfree : ∀ r ∈ rules, r.predicate.HostFree)
    (h : SameButCounters s t) :
    (runChain rules s = (s, .ok .proceed) ∧ runChain rules t = (t, .ok .proceed)) ∨
      runChain rules t = runChain rules s := by
  rw [runChain, runChain, findMatch_sameButCounters hfree h]
  cases findMatch rules s with
  | none => exact Or.inl ⟨rfl, rfl⟩
  | some r => exact Or.inr (run_sameButCounters r h)

theorem mirrors_sameButCounters {r : Rule} (hfree : r.predicate.HostFree) :
    r.Mirrors SameButCounters r where
  kind := rfl
  lookBack := rfl
  isMatch _ _ h := Predicate.holds_sameButCounters hfree h
  run s t h := by
    rw [run_sameButCounters r h]
    exact .refl SameButCounters.refl _

/-! ### Events and scans -/

namespace Scanner

section

variable (hfree : ∀ r ∈ m.ifRules, r.predicate.HostFree)

include hfree

theorem breakEvent_sameButCounters (c : Char) (h : SameButCounters s t) :
    EndAlike SameButCounters (m.breakEvent c s) (m.breakEvent c t) := by
  have hc : SameButCounters { s with token := .ofChar c } { t with token := .ofChar c } :=
    ⟨h.input, h.index, rfl, h.emitted, h.definitions⟩
  rw [breakEvent, breakEvent]
  rcases runChain_sameButCounters hfree hc with ⟨hs, ht⟩ | heq
  · rw [hs, ht]
    exact .ok hc.flush
  · rw [heq]
    exact .refl SameButCounters.refl _

theorem boundary_sameButCounters (c : Char) (h : SameButCounters s t) :
    EndAlike SameButCounters (m.boundary c s) (m.boundary c t) := by
  rw [boundary, boundary]
  rcases runChain_sameButCounters hfree h with ⟨hs, ht⟩ | heq
  · rw [hs, ht]
    exact breakEvent_sameButCounters hfree c h.flush
  · rw [heq]
    exact .refl SameButCounters.refl _

theorem step_sameButCounters (c : Char) (h : SameButCounters s t) :
    EndAlike SameButCounters (m.step c s) (m.step c t) := by
  rw [step, step]
  split
  · exact (boundary_sameButCounters hfree c h).map fun _ _ => SameButCounters.advance
  · exact .ok (h.push c).advance

theorem scanFrom_sameButCounters (h : SameButCounters s t) :
    EndAlike SameButCounters (m.scanFrom s) (m.scanFrom t) :=
  scanFrom_alike_of_step (fun _ _ hst => ⟨hst.input, hst.index⟩)
    (fun _ _ c hst => step_sameButCounters hfree c hst) s t h

end

/-! ### The pass over the tokens -/

theorem passKeeps_sameButCounters (isBreak : Char → Bool) :
    PassKeeps SameButCounters isBreak id where
  text _ := rfl
  next index token h := ⟨h.input, rfl, rfl, h.emitted, h.definitions⟩
  flush h := h.flush
  join count h := by
    obtain ⟨skip, lookBack, rfl⟩ := h.exists_eq
    exact ⟨rfl, rfl, rfl, rfl, rfl⟩
  expand h := by
    obtain ⟨skip, lookBack, rfl⟩ := h.exists_eq
    exact ⟨rfl, rfl, rfl, rfl, rfl⟩

section

variable (hfree : ∀ r ∈ m.letRules, r.predicate.HostFree)

include hfree

theorem forall₂_mirrors_sameButCounters :
    List.Forall₂ (Rule.Mirrors SameButCounters) m.letRules m.letRules :=
  List.forall₂_same.2 fun r hr => mirrors_sameButCounters (hfree r hr)

theorem letFrom_sameButCounters (h : SameButCounters s t) (passed : Nat) (tokens : List Token) :
    EndAlike SameButCounters (m.letFrom passed s tokens) (m.letFrom passed t tokens) := by
  have halike : EndAlike SameButCounters (m.letFrom passed s tokens)
      (m.letFrom passed t (tokens.map id)) :=
    letFrom_alike (passKeeps_sameButCounters m.isBreak) (forall₂_mirrors_sameButCounters hfree) rfl
      h
  rwa [List.map_id] at halike

theorem letPass_sameButCounters (h : SameButCounters s t) : m.letPass t = m.letPass s := by
  have htokens : ∀ {u v : Scan}, SameButCounters u v → v.tokens = u.tokens.map id := fun huv => by
    rw [List.map_id, huv.tokens]
  have halike := letPass_alike (passKeeps_sameButCounters m.isBreak)
    (forall₂_mirrors_sameButCounters hfree) rfl (fun _ _ => htokens) (htokens h) h.letStart
  rcases halike.error_or_ok with ⟨e, hs, ht⟩ | ⟨ts, us, hs, ht, htokens⟩
  · rw [hs, ht]
  · rw [hs, ht, htokens, List.map_id]

end

end Scanner

/-- **What the counters were does not matter.**  A scan, an event and a pass over the tokens that
begin in two states which differ in the counters alone fail with the same error, or end in two such
states, and the tokens are the same.  Of the hosts it is asked only that no test calls one. -/
theorem endAlike_sameButCounters (m : Scanner) (hfree : ∀ r ∈ m.rules, r.predicate.HostFree)
    {s t : Scan} (h : SameButCounters s t) :
    EndAlike SameButCounters (m.scanFrom s) (m.scanFrom t) ∧
    (∀ c, EndAlike SameButCounters (m.boundary c s) (m.boundary c t)) ∧
    EndAlike SameButCounters (m.letFrom 0 (Scanner.letStart s) s.tokens)
      (m.letFrom 0 (Scanner.letStart t) t.tokens) ∧
    m.letPass t = m.letPass s ∧
    ((m.scanFrom t).map Scan.flush).bind m.letPass =
      ((m.scanFrom s).map Scan.flush).bind m.letPass := by
  obtain ⟨hif, hlet⟩ := List.forall_mem_append.1 hfree
  have hscan := Scanner.scanFrom_sameButCounters hif h
  refine ⟨hscan, fun c => Scanner.boundary_sameButCounters hif c h, ?_,
    Scanner.letPass_sameButCounters hlet h, ?_⟩
  · rw [h.tokens]
    exact Scanner.letFrom_sameButCounters hlet h.letStart 0 s.tokens
  · rcases hscan.error_or_ok with ⟨e, hs, ht⟩ | ⟨u, v, hs, ht, huv⟩
    · rw [hs, ht]
    · rw [hs, ht]
      exact Scanner.letPass_sameButCounters hlet huv.flush

/-- Keeps the comma behind `a`, though it asks for a skip before, and joins the token before another
comma to it; groups what follows then. -/
def leavingScanner : Scanner where
  isBreak c := c == ','
  ifRules := [⟨.ifThen, .test .token (.text "a"), 0, [.skip 5, .fold], ⟨0, "sample"⟩⟩,
    ⟨.ifThen, .test .token (.text ","), 0, [.join 1], ⟨9, "sample"⟩⟩]
  letRules := [⟨.letRule .beGroup, .test (.behind 1) (.text "a,b,"), 1, [.tag "group"],
    ⟨18, "sample"⟩⟩]
  definitions := {}

theorem endAlike_sameButCounters_leaving :
    (∀ r ∈ leavingScanner.rules, r.predicate.HostFree) ∧
    leavingScanner.boundary ',' { token := ⟨"a", .empty⟩ } =
      .ok { token := ⟨"a,", .empty⟩, skip := 4 } ∧
    ((leavingScanner.scanFrom { Scan.start "a,b,c" {} with skip := 4, lookBack := 3 }).map
      Scan.flush).bind leavingScanner.letPass = .ok [⟨"a,b,c", .ofList ["group"]⟩] := by
  have hfree : ∀ r ∈ leavingScanner.rules, r.predicate.HostFree := by
    simp [leavingScanner, Scanner.rules, Predicate.HostFree]
  have hsame : SameButCounters (Scan.start "a,b,c" {})
      { Scan.start "a,b,c" {} with skip := 4, lookBack := 3 } := ⟨rfl, rfl, rfl, rfl, rfl⟩
  refine ⟨hfree, by cbv, (endAlike_sameButCounters leavingScanner hfree hsame).2.2.2.2.trans ?_⟩
  cbv

end RuleLexer
