import RuleLexer.Proofs.Scan.Simulation
import RuleLexer.Proofs.Scan.Stream
import RuleLexer.Proofs.WellFormed

/-!
# A scan does not look far ahead

Until the scan stands `n` characters into the text, it knows nothing of what comes later than the
next `k` characters, where `k` is how far the tests of the if-rules look ahead
(`Specification.lookAhead`).  `scanUntil_causal` says so of two texts that begin with the same
`n + k` characters: **up to the index `n`, both are scanned with the same tokens, or with the same
error.**

Within an event the two scans differ in the text alone (`WithinEvent`).  An event that skips may end
at different places, since characters are skipped at most to the end of the text; but then both are
behind `n` already (`BetweenEvents`).
-/

namespace RuleLexer

open Text

/-! ### How far tests look ahead -/

/-- How many operands of a test clause look ahead. -/
def Test.countAhead (clause : String) : Nat :=
  match Clause.read clause with
  | .error _ => 0
  | .ok ts => (places none (ts.filter (·.kind != .eof))).countP (·.2 == some .ahead)

/-- How many operands look ahead in the test of an if-rule, at most. -/
def Specification.lookAhead (spec : Specification) : Nat :=
  (spec.ifRules.map fun r => Test.countAhead r.test).max?.getD 0

theorem Test.countAhead_of_hasTokens {clause : String} {ts : List Clause.Token}
    (h : Clause.HasTokens clause ts) :
    countAhead clause = (places none ts).countP (·.2 == some .ahead) := by
  have hfilter : ts.filter (·.kind != .eof) = ts :=
    List.filter_eq_self.2 fun t ht => bne_iff_ne.2 (h.kind_ne_eof t ht)
  have hread : Clause.read clause =
      .ok (ts ++ [⟨.eof, "EOF", byteLength clause.toList⟩]) := h
  simp [countAhead, hread, hfilter]

theorem Specification.countAhead_le_lookAhead {spec : Specification} {rule : IfRule}
    (h : rule ∈ spec.ifRules) : Test.countAhead rule.test ≤ spec.lookAhead :=
  List.le_max?_getD_of_mem (List.mem_map_of_mem h)

/-- The if-rules look at most `k` characters ahead. -/
def Scanner.LooksAtMost (m : Scanner) (k : Nat) : Prop :=
  ∀ r ∈ m.ifRules, ∀ offset matcher, .test (.ahead offset) matcher ∈ r.predicate.leaves →
    offset ≤ k

theorem Specification.looksAtMost_scanner [Regex.Engine] {spec : Specification}
    {hosts : HostRegistry} {m : Scanner} (h : spec.scanner hosts = .ok m) :
    m.LooksAtMost spec.lookAhead := by
  intro r hr offset matcher hleaf
  obtain ⟨rule, hrule, hcompile⟩ := exists_source_of_mem_ifRules h hr
  obtain ⟨_, htest, _⟩ := Source.exists_of_compile hcompile
  obtain ⟨ts, hts⟩ := Test.exists_hasTokens_of_read htest
  rw [Test.read_eq_ofTokens hts] at htest
  obtain ⟨t, ht⟩ := Test.exists_mem_targets_of_mem_leaves htest rfl hleaf
  have hle := (Test.ahead_of_mem_targets ht).2
  rw [Nat.zero_add, ← Test.countAhead_of_hasTokens hts] at hle
  exact hle.trans (countAhead_le_lookAhead hrule)

/-! ### Texts that agree -/

/-- Two texts are at least `n` characters long and begin with the same ones. -/
structure AgreeTo (n : Nat) (a b : Array Char) : Prop where
  chars : a.toList.take n = b.toList.take n
  left : n ≤ a.size
  right : n ≤ b.size

namespace AgreeTo

variable {n : Nat} {a b : Array Char}

theorem getElem?_eq (h : AgreeTo n a b) {i : Nat} (hi : i < n) : b[i]? = a[i]? := by
  rw [← Array.getElem?_toList, ← Array.getElem?_toList, ← List.getElem?_take_of_lt hi, ← h.chars,
    List.getElem?_take_of_lt hi]

theorem take_eq (h : AgreeTo n a b) {i : Nat} (hi : i ≤ n) : b.toList.take i = a.toList.take i := by
  rw [← Nat.min_eq_left hi, ← List.take_take, ← List.take_take, h.chars]

end AgreeTo

/-- Texts that begin alike are the same, or long enough. -/
theorem eq_or_agreeTo {n : Nat} {a b : List Char} (h : a.take n = b.take n) :
    a = b ∨ AgreeTo n a.toArray b.toArray := by
  by_cases ha : n ≤ a.length
  · by_cases hb : n ≤ b.length
    · exact Or.inr ⟨h, ha, hb⟩
    · have hlength := congrArg List.length h
      rw [List.length_take, List.length_take] at hlength
      omega
  · have hlength := congrArg List.length h
    rw [List.length_take, List.length_take] at hlength
    rw [List.take_of_length_le (by omega), List.take_of_length_le (by omega)] at h
    exact Or.inl h

/-! ### Two scans of texts that agree -/

/-- In an event that began before the index `n`: the scans differ in the text. -/
inductive WithinEvent (n k : Nat) : Scan → Scan → Prop
  | intro {s : Scan} {a : Array Char} : AgreeTo (n + k) s.input a → s.index < n →
      WithinEvent n k s { s with input := a }

/-- Between two events: the scans stand at the same place, or both have come to the index `n`. -/
inductive BetweenEvents (n k : Nat) : Scan → Scan → Prop
  | together {s : Scan} {a : Array Char} : AgreeTo (n + k) s.input a →
      BetweenEvents n k s { s with input := a }
  | past {s : Scan} {a : Array Char} {i : Nat} : AgreeTo (n + k) s.input a → n ≤ s.index →
      n ≤ i → BetweenEvents n k s { s with input := a, index := i }

variable {n k : Nat}

theorem eventsKeep_withinEvent : EventsKeep (WithinEvent n k) (BetweenEvents n k) where
  push _ h := by
    obtain ⟨ha, hn⟩ := h
    exact .intro ha hn
  flush h := by
    obtain ⟨ha, hn⟩ := h
    exact .intro ha hn
  ofChar _ h := by
    obtain ⟨ha, hn⟩ := h
    exact .intro ha hn
  clear h := by
    obtain ⟨ha, hn⟩ := h
    exact .intro ha hn
  finish h := by
    obtain ⟨ha, _⟩ := h
    exact .together ha
  skip := by
    intro s t h
    obtain @⟨a, ha, hn⟩ := h
    have hleft := ha.left
    have hright := ha.right
    by_cases hskip : s.index + s.skip < n
    · -- both texts are longer than what is skipped
      have hs : min (s.index + s.skip) s.input.size = s.index + s.skip := by omega
      have ht : min (s.index + s.skip) a.size = s.index + s.skip := by omega
      simp only [Scan.consumeSkipped, hs, ht]
      exact .together ha
    · refine .past (s := s.consumeSkipped) ha ?_ ?_
      · show n ≤ min (s.index + s.skip) s.input.size
        omega
      · show n ≤ min (s.index + s.skip) a.size
        omega
  advance h := by
    cases h with
    | together ha => exact .together ha
    | past ha hs hi =>
      exact .past (s := Scan.advance _) ha (Nat.le_succ_of_le hs) (Nat.le_succ_of_le hi)

/-- **A test that looks at most `k` characters ahead sees the same.** -/
theorem holds_withinEvent {p : Predicate} (hp : p.HostFree)
    (hk : ∀ offset matcher, .test (.ahead offset) matcher ∈ p.leaves → offset ≤ k) {s t : Scan}
    (h : WithinEvent n k s t) : p.holds t = p.holds s := by
  obtain @⟨a, ha, hn⟩ := h
  induction p with
  | test target matcher =>
    cases target with
    | token | behind => rfl
    | character =>
      show matcher.matchesChar a[s.index]? = matcher.matchesChar s.input[s.index]?
      rw [ha.getElem?_eq (by omega)]
    | ahead offset =>
      have hoffset := hk offset matcher List.mem_cons_self
      show matcher.matchesChar a[s.index + offset]? = matcher.matchesChar s.input[s.index + offset]?
      rw [ha.getElem?_eq (by omega)]
  | definition => rfl
  | host => exact hp.elim
  | and l r ihl ihr | or l r ihl ihr =>
    have hl := ihl hp.1 fun offset matcher hmem => hk offset matcher (List.mem_append_left _ hmem)
    have hr := ihr hp.2 fun offset matcher hmem => hk offset matcher (List.mem_append_right _ hmem)
    simp only [Predicate.holds, hl, hr]

/-- A step does the same, and an error is at the same place. -/
theorem step_withinEvent {step : Step} (hstep : step.HostFree) {s t : Scan}
    (h : WithinEvent n k s t) :
    step.error? s = step.error? t ∧ WithinEvent n k (step.apply s) (step.apply t) := by
  obtain @⟨a, ha, hn⟩ := h
  cases step with
  | throw message =>
    have hoffset : Scan.byteOffset { s with input := a } = s.byteOffset := by
      show byteLength (a.toList.take s.index) = byteLength (s.input.toList.take s.index)
      rw [ha.take_eq (by omega)]
    refine ⟨?_, .intro ha hn⟩
    rw [Step.error?, Step.error?, Scan.thrown, Scan.thrown, hoffset]
  | host => exact hstep.elim
  | _ => exact ⟨rfl, .intro ha hn⟩

theorem mirrors_withinEvent {r : Rule} (hfree : r.predicate.HostFree)
    (hsteps : ∀ step ∈ r.steps, step.HostFree)
    (hk : ∀ offset matcher, .test (.ahead offset) matcher ∈ r.predicate.leaves → offset ≤ k) :
    r.Mirrors (WithinEvent n k) r where
  kind := rfl
  lookBack := rfl
  isMatch _ _ h := holds_withinEvent hfree hk h
  run s t h := by
    have hstart : WithinEvent n k { s with lookBack := r.lookBack, skip := 0 }
        { t with lookBack := r.lookBack, skip := 0 } := by
      obtain ⟨ha, hn⟩ := h
      exact .intro ha hn
    have hrun : ActAlike (WithinEvent n k) _ (runSteps .proceed _ (r.steps.filter fun _ => true)) :=
      runSteps_alike (fun _ => true)
        (fun step hmem _ _ _ => step_withinEvent (hsteps step hmem)) (by simp) hstart
    rwa [List.filter_true] at hrun

/-- **Two scans of texts that agree, up to the index `n`.** -/
theorem scanUntil_betweenEvents {m : Scanner} (hfree : m.HostFree) (hk : m.LooksAtMost k)
    {s t : Scan} (h : BetweenEvents n k s t) :
    EndAlike (BetweenEvents n k) (m.scanUntil n s) (m.scanUntil n t) := by
  have hrules : List.Forall₂ (Rule.Mirrors (WithinEvent n k)) m.ifRules m.ifRules := by
    refine List.forall₂_same.2 fun r hr => ?_
    exact mirrors_withinEvent (hfree r hr).1 (hfree r hr).2 (hk r hr)
  refine Scanner.scanUntil_alike eventsKeep_withinEvent hrules rfl ?_ ?_ s t h
  · intro s t hst hstop
    cases hst with
    | together ha =>
      have hleft := ha.left
      left
      show n ≤ s.index
      omega
    | past _ _ hi => exact Or.inl hi
  · intro s t c hst hn hc
    cases hst with
    | together ha =>
      have hlt : s.index < n + k := Nat.lt_add_right k hn
      exact ⟨.intro ha hn, hn, (ha.getElem?_eq hlt).trans hc⟩
    | past _ hs _ => omega

/-- **What follows the first `n + k` characters does not change what was done before the index
`n`**, where the tests of the if-rules look at most `k` characters ahead.  The error, if there is
one, is at the same place.  What is compared is a part of the scan, up to the first state that has come
to the index `n`, or to the end of the text. -/
theorem scanUntil_causal [Regex.Engine] (spec : Specification) (hosts : HostRegistry) (m : Scanner)
    (h : spec.scanner hosts = .ok m) (hfree : m.HostFree) (x y : String) (n : Nat)
    (hxy : x.toList.take (n + spec.lookAhead) = y.toList.take (n + spec.lookAhead)) :
    (m.scanUntil n (Scan.start x m.definitions)).map (fun s => (s.tokens, s.token, s.definitions)) =
      (m.scanUntil n (Scan.start y m.definitions)).map
        (fun s => (s.tokens, s.token, s.definitions)) ∧
    ∀ z : String,
      (m.scanUntil n (Scan.start z m.definitions)).bind m.scanFrom =
        m.scanFrom (Scan.start z m.definitions) ∧
      ∀ s, m.scanUntil n (Scan.start z m.definitions) = .ok s →
        m.ScanReaches z s ∧ (n ≤ s.index ∨ s.input.size ≤ s.index) ∧
          ∀ t, m.ScanReaches z t → n ≤ t.index → s.index ≤ t.index := by
  refine ⟨?_, fun z => ⟨m.bind_scanUntil n _, fun s hs =>
    ⟨Scanner.scanReaches_of_scanUntil .start hs, Scanner.le_index_of_scanUntil hs,
      fun t ht hn => Scanner.index_le_of_scanUntil ht hn hs⟩⟩⟩
  rcases eq_or_agreeTo hxy with heq | hagree
  · rw [String.toList_inj.1 heq]
  · have hstart : BetweenEvents n spec.lookAhead (Scan.start x m.definitions)
        (Scan.start y m.definitions) := .together (s := Scan.start x m.definitions) hagree
    have halike := scanUntil_betweenEvents hfree (Specification.looksAtMost_scanner h) hstart
    rcases halike.error_or_ok with ⟨e, hs, ht⟩ | ⟨s, t, hs, ht, hst⟩
    · rw [hs, ht]
    · rw [hs, ht]
      cases hst <;> rfl

/-- A dash before a `b` stays in the token that it begins. -/
def dashRules : Specification where
  ifRules := [⟨"'-' -> 'b'", "continue", ⟨0, "sample"⟩⟩]

def dashRulesScanner : Scanner where
  isBreak := Pattern.defaultBreak.matchesChar
  ifRules := [⟨.ifThen, .and (.test .token (.text "-")) (.test (.ahead 1) (.text "b")), 0, [.fold],
    ⟨0, "sample"⟩⟩]
  letRules := []
  definitions := dashRules.values

theorem scanUntil_causal_dashRules : dashRules.scanner {} = .ok dashRulesScanner ∧
    dashRulesScanner.HostFree ∧ dashRules.lookAhead = 1 ∧
    (dashRulesScanner.scanUntil 2 (Scan.start "a-bc d" dashRulesScanner.definitions)).map
        (fun s => (s.tokens, s.token, s.definitions)) =
      .ok ([⟨"a", .empty⟩], ⟨"-", .empty⟩, dashRulesScanner.definitions) := by
  have h : dashRules.scanner {} = .ok dashRulesScanner :=
    Specification.scanner_eq_ok.2 ⟨⟨[some _], .cons (by cbv) .nil, rfl⟩, ⟨[], .nil, rfl⟩, rfl, rfl⟩
  have hfree : dashRulesScanner.HostFree := Specification.hostFree_scanner h
  have hlook : dashRules.lookAhead = 1 := by cbv
  have hcausal := scanUntil_causal dashRules {} dashRulesScanner h hfree "a-bc d" "a-b" 2
    (by rw [hlook]; decide)
  refine ⟨h, hfree, hlook, hcausal.1.trans ?_⟩
  cbv

end RuleLexer
