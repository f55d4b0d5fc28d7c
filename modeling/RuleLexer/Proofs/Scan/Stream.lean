import RuleLexer.Proofs.Rule.Join
import RuleLexer.Proofs.Scan.Overflow
import RuleLexer.Proofs.Scan.Texts

/-!
# Scanning as recursion on the characters

`Scanner.stream` cuts a text into tokens by recursion on the list of its characters.  It knows no
index and no counters: the current character is the first of the list, the character `k` places
ahead is `k` places behind it in the list, and an action says how the event goes on by its last step
that says so (`Step.verdict?`).  `scan_eq_stream` says that the scan does the same, for every
scanner whose rules call no host, unless a sum of the scan overflows.

A state of the scan and the arguments of the recursion belong together if the scan `Stands` there.
One lemma per function says that they still do afterwards, or that both end with the same error:
`holds_eq_sees`, `runSteps_stream`, `runChain_stream`, `breakEvent_stream` and `step_stream`.
-/

namespace RuleLexer

open Text

/-! ### Rules without a host -/

namespace Predicate

/-- The predicate calls no host. -/
def HostFree : Predicate → Prop
  | host _ => False
  | and l r | or l r => l.HostFree ∧ r.HostFree
  | _ => True

end Predicate

namespace Step

/-- The step calls no host. -/
def HostFree : Step → Prop
  | host _ => False
  | _ => True

end Step

/-- The if-rules call no host. -/
def Scanner.HostFree (m : Scanner) : Prop :=
  ∀ r ∈ m.ifRules, r.predicate.HostFree ∧ ∀ step ∈ r.steps, step.HostFree

theorem Predicate.hostFree_of_leaves {p : Predicate} (h : ∀ leaf ∈ p.leaves, leaf.HostFree) :
    p.HostFree := by
  induction p with
  | test | definition => exact trivial
  | host f => exact h _ List.mem_cons_self
  | and l r ihl ihr | or l r ihl ihr =>
    exact ⟨ihl fun leaf hl => h leaf (List.mem_append_left _ hl),
      ihr fun leaf hr => h leaf (List.mem_append_right _ hr)⟩

/-- A rule calls registered callbacks only. -/
theorem Rule.HasTest.hostFree [Regex.Engine] {r : Rule} {names : List String} {clause : String}
    (h : r.HasTest ⟨names, {}⟩ clause) :
    r.predicate.HostFree ∧ ∀ step ∈ r.steps, step.HostFree := by
  obtain ⟨hread, hsteps⟩ := h.exists_read
  constructor
  · obtain ⟨ts, hts⟩ := Test.exists_hasTokens_of_read hread
    rw [Test.read_eq_ofTokens hts] at hread
    have hleaves := Test.forall₂_leaves_ofTokens hread
    simp only [Option.toList_some, List.flatMap_singleton] at hleaves
    refine Predicate.hostFree_of_leaves fun leaf hmem => ?_
    obtain ⟨i, hi, rfl⟩ := List.mem_iff_getElem.1 hmem
    have hleaf : Test.IsLeaf _ _ _ r.predicate.leaves[i] :=
      hleaves.get (hleaves.length_eq ▸ hi) hi
    generalize r.predicate.leaves[i] = leaf at hleaf ⊢
    cases hleaf with
    | literal | named | word => exact trivial
    | host _ hnone => simp [HostRegistry.test?] at hnone
  · intro step hstep
    cases hsteps step hstep with
    | host hnone => simp [HostRegistry.action?] at hnone
    | _ => exact trivial

theorem Rule.mem_of_compileAll {α : Type} {compile : α → Except Fault (Option Rule)}
    {position : α → Position} {sources : List α} {rules : List Rule}
    (h : Rule.compileAll compile position sources = .ok rules) :
    ∀ r ∈ rules, ∃ source ∈ sources, compile source = .ok (some r) := by
  induction sources generalizing rules with
  | nil =>
    obtain rfl := Except.ok.inj h
    simp
  | cons source sources ih =>
    rw [compileAll] at h
    split at h
    next => simp at h
    next rule hrule =>
      obtain ⟨rest, hrest, rfl⟩ := exists_of_map_eq_ok h
      intro r hr
      rcases List.mem_append.1 hr with hfirst | hr
      · exact ⟨source, List.mem_cons_self, by rw [hrule, Option.mem_toList.1 hfirst]⟩
      · obtain ⟨source', hmem, hsource⟩ := ih hrest r hr
        exact ⟨source', List.mem_cons_of_mem source hmem, hsource⟩

/-- **A specification that is compiled without callbacks calls none.** -/
theorem Specification.hostFree_scanner [Regex.Engine] {spec : Specification} {m : Scanner}
    (h : spec.scanner {} = .ok m) : m.HostFree := by
  obtain ⟨chains, hchains, rfl⟩ := exists_of_map_eq_ok h
  rw [Specification.compile] at hchains
  split at hchains
  next => simp at hchains
  next ifRules hif =>
    obtain ⟨letRules, _, rfl⟩ := exists_of_map_eq_ok hchains
    intro r hr
    obtain ⟨source, _, hsource⟩ := Rule.mem_of_compileAll hif r hr
    exact Rule.HasTest.hostFree (Or.inl ⟨source, rfl, hsource⟩)

/-! ### The recursion -/

/-- The tokens that were emitted, in order, and the token in progress. -/
structure Collected where
  emitted : List Token := []
  token : Token := {}

/-- How an action wants the event to go on. -/
inductive Verdict where
  /-- The current character belongs to the token in progress. -/
  | fold
  /-- This many characters are left out, the current one included. -/
  | skip (count : Nat)

def Step.verdict? : Step → Option Verdict
  | fold => some .fold
  | skip count => some (.skip count)
  | _ => none

/-- What the last step says that says anything. -/
def verdict? (steps : List Step) : Option Verdict :=
  (steps.filterMap Step.verdict?).getLast?

/-- Whether a text answers that stands for a character.  It never has a tag. -/
def Matcher.matchesText (m : Matcher) (s : String) : Bool :=
  match m with
  | pattern p => p.isMatch s
  | text expected => expected == s
  | tag _ => false

namespace Collected

variable (chars : List Char)

/-- Whether the target of an operand answers, where `chars` are the current character and those
behind it.  Past the end stands the empty text. -/
def answers (o : Collected) (matcher : Matcher) : Target → Bool
  | .token => matcher.matchesToken o.token
  | .character => matcher.matchesText (String.ofList (chars.take 1))
  | .ahead offset => matcher.matchesText (String.ofList ((chars.drop offset).take 1))
  | .behind distance =>
    distance != 0 && o.emitted.reverse[distance - 1]?.any matcher.matchesToken

/-- Whether a predicate holds. -/
def sees (definitions : Definitions) (o : Collected) : Predicate → Bool
  | .test target matcher => o.answers chars matcher target
  | .definition name => (definitions.get? name).any Value.isTruthy
  | .host _ => false
  | .and l r => sees definitions o l && sees definitions o r
  | .or l r => sees definitions o l || sees definitions o r

def push (o : Collected) (c : Char) : Collected :=
  { o with token := o.token.push c }

/-- Emits the token in progress, unless it is empty. -/
def emit (o : Collected) : Collected :=
  ⟨if o.token.isEmpty then o.emitted else o.emitted ++ [o.token], {}⟩

/-- Puts the texts of the last emitted tokens before that of the token in progress. -/
def join (count : Nat) (o : Collected) : Collected :=
  let kept := o.emitted.length - count
  ⟨o.emitted.take kept,
    { o.token with text := String.join ((o.emitted.drop kept).map Token.text) ++ o.token.text }⟩

/-- Carries steps out, `offset` bytes into the text. -/
def act (offset : Nat) (o : Collected) : List Step → Except Error Collected
  | [] => .ok o
  | .throw message :: _ => .error ⟨.thrown message, ⟨UInt32.ofNat offset, Scan.inputFile⟩⟩
  | .skipToken :: steps => act offset { o with token := {} } steps
  | .join count :: steps => act offset (o.join count) steps
  | .tag name :: steps => act offset { o with token := o.token.addTag name } steps
  | .fold :: steps | .skip _ :: steps | .host _ :: steps => act offset o steps

end Collected

namespace Scanner

/-- Runs the first if-rule that holds. -/
def judge (m : Scanner) (offset : Nat) (o : Collected) (chars : List Char) :
    Except Error (Collected × Option Verdict) :=
  match m.ifRules.find? fun r => o.sees chars m.definitions r.predicate with
  | none => .ok (o, none)
  | some r => (o.act offset r.steps).map fun o => (o, verdict? r.steps)

/-- Takes the break `c` as a token of its own, before `rest`, and says how many of the following
characters go with it. -/
def nextBreak (m : Scanner) (offset : Nat) (o : Collected) (c : Char) (rest : List Char) :
    Except Error (Collected × Nat) :=
  match m.judge offset { o with token := .ofChar c } (c :: rest) with
  | .error e => .error e
  | .ok (o, some .fold) => .ok (o, 0)
  | .ok (o, some (.skip count)) => .ok ({ o with token := {} }, min (count - 1) rest.length)
  | .ok (o, none) => .ok (o.emit, 0)

/-- Takes the character `c` before `rest`, and says how many of the following characters go with
it. -/
def next (m : Scanner) (offset : Nat) (o : Collected) (c : Char) (rest : List Char) :
    Except Error (Collected × Nat) :=
  if m.isBreak c then
    match m.judge offset o (c :: rest) with
    | .error e => .error e
    | .ok (o, some .fold) => .ok (o.push c, 0)
    | .ok (o, some (.skip count)) => .ok (o, min (count - 1) rest.length)
    | .ok (o, none) => m.nextBreak offset o.emit c rest
  else .ok (o.push c, 0)

/-- Takes all characters of a list, of which the first stands `offset` bytes into the text. -/
def stream (m : Scanner) (offset : Nat) (o : Collected) : List Char → Except Error Collected
  | [] => .ok o
  | c :: rest =>
    match m.next offset o c rest with
    | .error e => .error e
    | .ok (o, more) => m.stream (offset + byteLength (c :: rest.take more)) o (rest.drop more)
termination_by chars => chars.length
decreasing_by
  rw [List.length_drop, List.length_cons]
  omega

end Scanner

/-! ### A scan beside the recursion -/

/-- What a scan has collected. -/
def Scan.collected (s : Scan) : Collected :=
  ⟨s.tokens, s.token⟩

/-- The scan stands `offset` bytes into the text, before the characters `chars`. -/
structure Stands (m : Scanner) (s : Scan) (offset : Nat) (chars : List Char) : Prop where
  chars : s.rest = chars
  offset : s.byteOffset = offset
  definitions : s.definitions = m.definitions

variable {m : Scanner} {s t : Scan} {offset : Nat} {chars rest : List Char} {c : Char}

/-- Tokens and counters do not matter. -/
theorem Stands.keep (h : Stands m s offset chars) (token : Token) (emitted : List Token)
    (skip lookBack : Nat) :
    Stands m { s with token := token, emitted := emitted, skip := skip, lookBack := lookBack }
      offset chars :=
  ⟨h.chars, h.offset, h.definitions⟩

theorem Stands.getElem? (h : Stands m s offset chars) (k : Nat) :
    s.input[s.index + k]? = chars[k]? := by
  rw [← h.chars, Scan.rest, List.getElem?_drop, Array.getElem?_toList]

theorem matchesChar_getElem? (matcher : Matcher) (chars : List Char) (k : Nat) :
    matcher.matchesChar chars[k]? =
      matcher.matchesText (String.ofList ((chars.drop k).take 1)) := by
  have htext : (chars[k]?.map String.singleton).getD "" =
      String.ofList ((chars.drop k).take 1) := by
    rw [← String.toList_inj, String.toList_ofList, List.take_one, List.head?_drop]
    cases chars[k]? <;> simp
  cases matcher <;> simp only [Matcher.matchesChar, Matcher.matchesText, htext]

/-- **A predicate holds of the scan where it holds of the list.** -/
theorem holds_eq_sees (h : Stands m s offset chars) {p : Predicate} (hp : p.HostFree) :
    p.holds s = s.collected.sees chars m.definitions p := by
  induction p with
  | test target matcher =>
    cases target with
    | token => rfl
    | character =>
      have hhead := h.getElem? 0
      rw [Nat.add_zero] at hhead
      show matcher.matchesChar s.input[s.index]? = _
      rw [hhead, matchesChar_getElem?]
      rfl
    | ahead k =>
      show matcher.matchesChar s.input[s.index + k]? = _
      rw [h.getElem? k, matchesChar_getElem?]
      rfl
    | behind distance =>
      simp only [Predicate.holds, Matcher.matchesTarget, Scan.behind?, Collected.sees,
        Collected.answers, Scan.collected, Scan.tokens, List.reverse_reverse]
      by_cases hd : distance = 0 <;> simp [hd]
  | definition name => simp only [Predicate.holds, Collected.sees, h.definitions]
  | host => exact hp.elim
  | and l r ihl ihr => simp only [Predicate.holds, Collected.sees, ihl hp.1, ihr hp.2]
  | or l r ihl ihr => simp only [Predicate.holds, Collected.sees, ihl hp.1, ihr hp.2]

/-! ### Actions beside each other -/

/-- What a verdict is in a scan: a flow, and how many characters are to be skipped beyond the
current one.  This counts only where the flow is to skip. -/
inductive Verdict.Asks : Option Verdict → Flow → Nat → Prop
  | proceed {skip : Nat} : Asks none .proceed skip
  | fold {skip : Nat} : Asks (some .fold) .fold skip
  | skip {count skip : Nat} : skip = count - 1 → Asks (some (.skip count)) .skip skip

/-- An action of a scan that stands there has ended like the one of the recursion: with the same
error, or where it stood, with the same tokens and what the verdict asks for. -/
def EndsLike (m : Scanner) (offset : Nat) (chars : List Char) :
    Scan × Except Error Flow → Except Error (Collected × Option Verdict) → Prop
  | (_, .error e), r => r = .error e
  | (t, .ok flow), r =>
    ∃ v, r = .ok (t.collected, v) ∧ Stands m t offset chars ∧ Verdict.Asks v flow t.skip

/-- The last answer of a list is that of the rest, if there is one. -/
theorem getLast?_filterMap_cons {α β : Type} (f : α → Option β) (a : α) (l : List α) :
    ((a :: l).filterMap f).getLast? = (l.filterMap f).getLast?.or (f a) := by
  rw [List.getLast?_filterMap, List.getLast?_filterMap, List.reverse_cons, List.findSome?_append,
    List.findSome?_singleton]

theorem verdict?_cons (step : Step) (steps : List Step) :
    verdict? (step :: steps) = (verdict? steps).or step.verdict? :=
  getLast?_filterMap_cons Step.verdict? step steps

theorem collected_joinBehind (s : Scan) (count : Nat) :
    { s with lookBack := count }.joinBehind.collected = s.collected.join count := by
  simp only [Scan.collected, Scan.joinBehind, Scan.tokens, Collected.join, List.reverse_drop,
    List.reverse_take, List.length_reverse]

/-- **The steps of an action**, where `v` is the verdict of those before. -/
theorem runSteps_stream {steps : List Step} (hfree : ∀ step ∈ steps, step.HostFree) :
    ∀ ⦃s : Scan⦄ ⦃flow : Flow⦄ ⦃v : Option Verdict⦄, Stands m s offset chars →
      Verdict.Asks v flow s.skip →
      EndsLike m offset chars (runSteps flow s steps)
        ((s.collected.act offset steps).map fun o => (o, (verdict? steps).or v)) := by
  induction steps with
  | nil =>
    intro s flow v hs hv
    exact ⟨v, rfl, hs, hv⟩
  | cons step steps ih =>
    intro s flow v hs hv
    have hsteps := ih fun step' h => hfree step' (List.mem_cons_of_mem step h)
    rw [verdict?_cons, Option.or_assoc]
    cases step with
    | fold => exact hsteps hs .fold
    | skip count =>
      exact hsteps (hs.keep s.token s.emitted (count - 1) s.lookBack) (.skip rfl)
    | skipToken =>
      exact hsteps (hs.keep {} s.emitted s.skip s.lookBack) hv
    | throw message =>
      show Except.error _ = Except.error _
      rw [← hs.offset]
      rfl
    | join count =>
      have hstands : Stands m { s with lookBack := count }.joinBehind offset chars :=
        hs.keep _ _ _ _
      have hjoin := hsteps hstands hv
      rw [collected_joinBehind] at hjoin
      exact hjoin
    | tag name =>
      exact hsteps (hs.keep (s.token.addTag name) s.emitted s.skip s.lookBack) hv
    | host h => exact (hfree _ List.mem_cons_self).elim

/-- **The first rule that holds.** -/
theorem runChain_stream (hm : m.HostFree) (hs : Stands m s offset chars) :
    EndsLike m offset chars (runChain m.ifRules s) (m.judge offset s.collected chars) := by
  have hfind : m.ifRules.find? (fun r => s.collected.sees chars m.definitions r.predicate) =
      findMatch m.ifRules s :=
    List.find?_congr fun r hr => (holds_eq_sees hs (hm r hr).1).symm
  rw [runChain, Scanner.judge, hfind]
  cases hr : findMatch m.ifRules s with
  | none => exact ⟨none, rfl, hs, .proceed⟩
  | some r =>
    have hstart : Stands m { s with lookBack := r.lookBack, skip := 0 } offset chars :=
      hs.keep _ _ _ _
    have hsteps := runSteps_stream (hm r (mem_of_findMatch hr)).2 hstart .proceed
    simp only [Option.or_none] at hsteps
    exact hsteps

/-! ### Characters beside each other -/

/-- A scan that has passed the current character and `more` of those behind it. -/
theorem Stands.forward (h : Stands m s offset (c :: rest)) (more : Nat) (hi : t.input = s.input)
    (hd : t.definitions = s.definitions) (ht : t.rest = rest.drop more) :
    Stands m t (offset + byteLength (c :: rest.take more)) (rest.drop more) := by
  refine ⟨ht, ?_, hd.trans h.definitions⟩
  -- what is left of the text tells how long the part before it is
  have hbefore := congrArg byteLength (List.take_append_drop s.index s.input.toList)
  have hafter := congrArg byteLength (List.take_append_drop t.index t.input.toList)
  have hrest := congrArg byteLength (List.take_append_drop more rest)
  rw [byteLength_append] at hbefore hafter hrest
  have hs : byteLength (s.input.toList.take s.index) = offset := h.offset
  have hchars : byteLength (s.input.toList.drop s.index) = byteLength (c :: rest) :=
    congrArg byteLength h.chars
  have hdrop : byteLength (t.input.toList.drop t.index) = byteLength (rest.drop more) :=
    congrArg byteLength ht
  rw [hi] at hafter hdrop
  rw [Scan.byteOffset, hi]
  rw [byteLength_cons] at hchars ⊢
  omega

theorem Stands.rest_advance (h : Stands m s offset (c :: rest)) : s.advance.rest = rest := by
  have hdrop : s.advance.rest = s.rest.drop 1 := List.drop_drop.symm
  rw [hdrop, h.chars]
  rfl

theorem Stands.advance (h : Stands m s offset (c :: rest)) :
    Stands m s.advance (offset + byteLength (c :: rest.take 0)) (rest.drop 0) :=
  h.forward 0 rfl rfl h.rest_advance

/-- Skipped characters are passed, but none past the end. -/
theorem Stands.consumeSkipped (h : Stands m s offset (c :: rest)) :
    Stands m s.consumeSkipped.advance
      (offset + byteLength (c :: rest.take (min s.skip rest.length)))
      (rest.drop (min s.skip rest.length)) := by
  refine h.forward _ rfl rfl ?_
  have hlength : s.input.size - s.index = rest.length + 1 := by
    have hchars := congrArg List.length h.chars
    rwa [Scan.rest, List.length_drop, Array.length_toList, List.length_cons] at hchars
  have hrest : s.input.toList.drop (s.index + 1) = rest := h.rest_advance
  rcases Nat.lt_or_ge s.skip rest.length with hlt | hge
  · have hindex : s.consumeSkipped.advance.index = s.index + 1 + s.skip := by
      simp only [Scan.consumeSkipped, Scan.advance]
      omega
    rw [Nat.min_eq_left (Nat.le_of_lt hlt), Scan.rest, hindex, ← List.drop_drop]
    exact congrArg _ hrest
  · have hindex : s.input.size ≤ s.consumeSkipped.advance.index := by
      simp only [Scan.consumeSkipped, Scan.advance]
      omega
    rw [Nat.min_eq_right hge, List.drop_length]
    exact Scan.rest_eq_nil hindex

theorem collected_flush (s : Scan) : s.flush.collected = s.collected.emit := by
  rw [Scan.collected, Scan.tokens_flush]
  rfl

/-- A step of a scan has ended like the one of the recursion that takes the character `c`. -/
def ArrivesLike (m : Scanner) (offset : Nat) (c : Char) (rest : List Char) :
    Except Error Scan → Except Error (Collected × Nat) → Prop
  | .error e, r => r = .error e
  | .ok t, r => ∃ more, r = .ok (t.collected, more) ∧
      Stands m t (offset + byteLength (c :: rest.take more)) (rest.drop more)

/-- **The second half of the event at a break.** -/
theorem breakEvent_stream (hm : m.HostFree) (hs : Stands m s offset (c :: rest)) :
    ArrivesLike m offset c rest ((m.breakEvent c s).map Scan.advance)
      (m.nextBreak offset s.collected c rest) := by
  have hbreak : Stands m { s with token := .ofChar c } offset (c :: rest) :=
    hs.keep _ _ _ _
  have hchain := runChain_stream hm hbreak
  change EndsLike m offset (c :: rest) _
    (m.judge offset { s.collected with token := .ofChar c } (c :: rest)) at hchain
  rw [Scanner.breakEvent, Scanner.nextBreak]
  generalize runChain m.ifRules { s with token := .ofChar c } = result at hchain ⊢
  obtain ⟨t, e | flow⟩ := result
  · change m.judge _ _ _ = _ at hchain
    rw [hchain]
    rfl
  · obtain ⟨v, hjudge, ht, hv⟩ := hchain
    rw [hjudge]
    cases hv with
    | proceed =>
      have hflush : Stands m t.flush offset (c :: rest) := ht.keep _ _ _ _
      exact ⟨0, congrArg (fun o => Except.ok (o, 0)) (collected_flush t).symm, hflush.advance⟩
    | fold => exact ⟨0, rfl, ht.advance⟩
    | skip hskip =>
      have hdrop : Stands m { t with token := {} } offset (c :: rest) :=
        ht.keep _ _ _ _
      dsimp only
      rw [← hskip]
      exact ⟨_, rfl, hdrop.consumeSkipped⟩

/-- **One character.** -/
theorem step_stream (hm : m.HostFree) (hs : Stands m s offset (c :: rest)) :
    ArrivesLike m offset c rest (m.step c s) (m.next offset s.collected c rest) := by
  rw [Scanner.step, Scanner.next]
  split
  next =>
    have hchain := runChain_stream hm hs
    rw [Scanner.boundary]
    generalize runChain m.ifRules s = result at hchain ⊢
    obtain ⟨t, e | flow⟩ := result
    · change m.judge _ _ _ = _ at hchain
      rw [hchain]
      rfl
    · obtain ⟨v, hjudge, ht, hv⟩ := hchain
      rw [hjudge]
      cases hv with
      | proceed =>
        have hflush : Stands m t.flush offset (c :: rest) := ht.keep _ _ _ _
        have hbreak := breakEvent_stream hm hflush
        rwa [collected_flush] at hbreak
      | fold =>
        have hpush : Stands m (t.push c) offset (c :: rest) := ht.keep _ _ _ _
        exact ⟨0, rfl, hpush.advance⟩
      | skip hskip =>
        dsimp only
        rw [← hskip]
        exact ⟨_, rfl, ht.consumeSkipped⟩
  next =>
    have hpush : Stands m (s.push c) offset (c :: rest) := hs.keep _ _ _ _
    exact ⟨0, rfl, hpush.advance⟩

/-! ### The whole scan -/

/-- A scan goes on like the recursion from where it stands. -/
theorem scanFrom_stream (hm : m.HostFree) (s : Scan) {offset : Nat} {chars : List Char}
    (hs : Stands m s offset chars) :
    (m.scanFrom s).map Scan.collected = m.stream offset s.collected chars := by
  fun_induction m.scanFrom s generalizing offset chars with
  | case1 s h e he =>
    obtain rfl := hs.chars.symm.trans (Scan.rest_of_getElem? (Array.getElem?_eq_getElem h))
    have hstep := step_stream hm hs
    rw [he] at hstep
    rw [Scanner.stream, hstep]
    rfl
  | case2 s h t ht ih =>
    obtain rfl := hs.chars.symm.trans (Scan.rest_of_getElem? (Array.getElem?_eq_getElem h))
    have hstep := step_stream hm hs
    rw [ht] at hstep
    obtain ⟨more, hnext, hstands⟩ := hstep
    rw [Scanner.stream, hnext]
    exact ih hstands
  | case3 s h =>
    obtain rfl := hs.chars.symm.trans (Scan.rest_eq_nil (Nat.le_of_not_lt h))
    rw [Scanner.stream]
    rfl

end RuleLexer
