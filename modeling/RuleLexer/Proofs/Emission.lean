import RuleLexer.Proofs.Invariant

/-!
# Emitted tokens

What becomes of the tokens that were emitted, with arbitrary host callbacks (`emitted_tokens_frozen`):

* **They are frozen.**  Taking a character leaves the first of the emitted tokens as they are, and all
  of them if no rule joins, and puts at most two tokens behind (`Scan.GrowsBy`, `growsBy_takes`).
* **They are never empty**, at no moment of a call (`Scan.HasNoEmpty`, `maintains_hasNoEmpty`), since
  what is emitted is checked or is a piece of a split.
-/

namespace RuleLexer

namespace Scan

/-- `t` has emitted the first tokens that `s` had emitted, all of them unless `joined`, and at most
`n` tokens behind these. -/
def GrowsBy (joined : Prop) (n : Nat) (s t : Scan) : Prop :=
  ∃ kept added, kept <+: s.tokens ∧ t.tokens = kept ++ added ∧ added.length ≤ n ∧
    (¬joined → kept = s.tokens)

/-- `t` has emitted the first tokens that `s` had emitted, all of them unless `joined`. -/
def Loses (joined : Prop) (s t : Scan) : Prop :=
  t.tokens <+: s.tokens ∧ (¬joined → t.tokens = s.tokens)

namespace GrowsBy

variable {joined : Prop} {n k : Nat} {s t u : Scan}

theorem refl (joined : Prop) (n : Nat) (s : Scan) : GrowsBy joined n s s :=
  ⟨s.tokens, [], List.prefix_rfl, (List.append_nil _).symm, Nat.zero_le n, fun _ => rfl⟩

theorem mono (h : GrowsBy joined n s t) (hk : n ≤ k) : GrowsBy joined k s t := by
  obtain ⟨kept, added, hkept, ht, hadded, hall⟩ := h
  exact ⟨kept, added, hkept, ht, hadded.trans hk, hall⟩

/-- Tokens may be taken back, those that were emitted meanwhile first. -/
theorem loses (h : GrowsBy joined n s t) (hu : Loses joined t u) : GrowsBy joined n s u := by
  obtain ⟨kept, added, hkept, ht, hadded, hall⟩ := h
  by_cases hj : joined
  · have htake := List.prefix_iff_eq_take.1 hu.1
    rw [ht, List.take_append] at htake
    refine ⟨_, _, (List.take_prefix _ kept).trans hkept, htake, ?_, fun hn => absurd hj hn⟩
    exact (List.length_take_le' _ added).trans hadded
  · exact ⟨kept, added, hkept, (hu.2 hj).trans ht, hadded, hall⟩

/-- The token in progress may be emitted. -/
theorem flush (h : GrowsBy joined n s t) : GrowsBy joined (n + 1) s t.flush := by
  obtain ⟨kept, added, hkept, ht, hadded, hall⟩ := h
  by_cases he : t.token.isEmpty
  · refine ⟨kept, added, hkept, ?_, Nat.le_succ_of_le hadded, hall⟩
    rw [tokens_flush, if_pos he, ht]
  · refine ⟨kept, added ++ [t.token], hkept, ?_, ?_, hall⟩
    · rw [tokens_flush, if_neg he, ht, List.append_assoc]
    · rw [List.length_append, List.length_singleton]
      exact Nat.succ_le_succ hadded

end GrowsBy

end Scan

open Scan (GrowsBy Loses)

/-! ### Rules take emitted tokens back -/

theorem Scan.tokens_joinBehind_prefix (s : Scan) : s.joinBehind.tokens <+: s.tokens :=
  List.reverse_prefix.2 (List.drop_suffix s.lookBack s.emitted)

theorem Step.tokens_apply_prefix (step : Step) (s : Scan) : (step.apply s).tokens <+: s.tokens := by
  cases step with
  | join count => exact Scan.tokens_joinBehind_prefix { s with lookBack := count }
  | _ => exact List.prefix_rfl

theorem Step.tokens_apply_of_ne_join {step : Step} (h : ∀ count, step ≠ .join count) (s : Scan) :
    (step.apply s).tokens = s.tokens := by
  cases step with
  | join count => exact absurd rfl (h count)
  | _ => rfl

/-- **Only a step that joins takes emitted tokens back.** -/
theorem Rule.loses_run {r : Rule} {s t : Scan} {flow : Flow} (h : r.run s = (t, .ok flow)) :
    Loses (∃ count, .join count ∈ r.steps) s t := by
  constructor
  · exact run_invariant (P := fun u => u.tokens <+: s.tokens) (fun _ _ _ hu => hu)
      (fun step _ u _ hu => (step.tokens_apply_prefix u).trans hu) h List.prefix_rfl
  · intro hjoin
    refine run_invariant (P := fun u => u.tokens = s.tokens) (fun _ _ _ hu => hu)
      (fun step hstep u _ hu => ?_) h rfl
    exact (Step.tokens_apply_of_ne_join (fun count he => hjoin ⟨count, he ▸ hstep⟩) u).trans hu

namespace Scanner

variable {m : Scanner} {c : Char} {s t u : Scan}

/-- While the break `c` is taken in a state, a rule runs that joins. -/
def Joins (m : Scanner) (c : Char) (s : Scan) : Prop :=
  ∃ t r count, m.Tries c s t ∧ findMatch m.ifRules t = some r ∧ .join count ∈ r.steps

theorem Tries.loses_runChain (ht : m.Tries c s t) {flow : Flow}
    (h : runChain m.ifRules t = (u, .ok flow)) : Loses (m.Joins c s) t u := by
  rcases runChain_cases h with ⟨_, rfl, _⟩ | ⟨r, hm, hr⟩
  · exact ⟨List.prefix_rfl, fun _ => rfl⟩
  · have hrun := Rule.loses_run hr
    exact ⟨hrun.1, fun hjoin => hrun.2 fun ⟨count, hcount⟩ => hjoin ⟨t, r, count, ht, hm, hcount⟩⟩

/-- **Taking a character** emits two tokens at most, and edits none. -/
theorem growsBy_takes (h : m.Takes c s t) : GrowsBy (m.Joins c s) 2 s t := by
  have hs : GrowsBy (m.Joins c s) 0 s s := .refl _ 0 s
  have first : ∀ {u : Scan} {flow : Flow}, m.isBreak c = true →
      runChain m.ifRules s = (u, .ok flow) → GrowsBy (m.Joins c s) 0 s u := fun hc hu =>
    hs.loses (Tries.loses_runChain (.first hc) hu)
  have second : ∀ {u v : Scan} {flow : Flow}, m.isBreak c = true →
      runChain m.ifRules s = (u, .ok .proceed) →
      runChain m.ifRules { u.flush with token := .ofChar c } = (v, .ok flow) →
      GrowsBy (m.Joins c s) 1 s v := by
    intro u v flow hc hu hv
    have hv := Tries.loses_runChain (.second hc hu) hv
    exact (first hc hu).flush.loses hv
  cases h with
  | plain => exact hs.mono (Nat.zero_le 2)
  | fold hc hu | skip hc hu => exact (first hc hu).mono (Nat.zero_le 2)
  | hold hc hu hv | drop hc hu hv => exact (second hc hu hv).mono (Nat.le_succ 1)
  | emit hc hu hv => exact (second hc hu hv).flush

end Scanner

/-! ### No emitted token is empty -/

/-- No emitted token is empty. -/
def Scan.HasNoEmpty (s : Scan) : Prop :=
  ∀ token ∈ s.emitted, token.text ≠ ""

theorem Token.ne_empty_of_mem_expand {isBreak : Char → Bool} {t part : Token}
    (h : part ∈ t.expand isBreak) : part.text ≠ "" := by
  rw [expand_eq_runs] at h
  obtain ⟨run, hrun, rfl⟩ := List.mem_map.1 h
  intro he
  rw [← String.toList_inj, String.toList_ofList] at he
  exact Text.ne_nil_of_mem_runs hrun he

theorem Scan.hasNoEmpty_flush {s : Scan} (hs : s.HasNoEmpty) : s.flush.HasNoEmpty := by
  intro token htoken
  rcases Scan.mem_emitted_flush htoken with htoken | ⟨rfl, he⟩
  · exact hs token htoken
  · simpa [Token.isEmpty] using he

theorem Scan.hasNoEmpty_joinBehind {s : Scan} (hs : s.HasNoEmpty) : s.joinBehind.HasNoEmpty :=
  fun token htoken => hs token (List.mem_of_mem_drop htoken)

theorem maintains_hasNoEmpty (m : Scanner) : m.Maintains Scan.HasNoEmpty where
  of_eq hs _ he _ token htoken := hs token (he ▸ htoken)
  apply {s _ step} _ _ hs := by
    cases step with
    | join count => exact Scan.hasNoEmpty_joinBehind (s := { s with lookBack := count }) hs
    | _ => exact hs
  flush hs := Scan.hasNoEmpty_flush hs
  join hs := Scan.hasNoEmpty_joinBehind hs
  expand hs token htoken := by
    rcases List.mem_append.1 htoken with hpart | htoken
    · exact Token.ne_empty_of_mem_expand (List.mem_reverse.1 hpart)
    · exact hs token htoken
  letStart _ _ htoken := absurd htoken List.not_mem_nil

theorem Scan.HasNoEmpty.tokens {s : Scan} (hs : s.HasNoEmpty) :
    ∀ token ∈ s.tokens, token.text ≠ "" :=
  fun token htoken => hs token (List.mem_reverse.1 htoken)

/-- **Emitted tokens are frozen and never empty**, whatever the hosts do.  Taking a character leaves
the first of the tokens as they are, all of them if no rule joins, and adds two at most.  No emitted
token is empty at any moment of a call, nor is a token that the call returns. -/
theorem emitted_tokens_frozen (m : Scanner) (input : String) :
    (∀ c s t, m.step c s = .ok t → ∃ kept added, kept <+: s.tokens ∧ t.tokens = kept ++ added ∧
      added.length ≤ 2 ∧ (¬m.Joins c s → kept = s.tokens)) ∧
    (∀ s, m.IsMoment input s → ∀ token ∈ s.tokens, token.text ≠ "") ∧
    ∀ tokens, m.tokenize input = .ok tokens → ∀ token ∈ tokens, token.text ≠ "" := by
  have hmoment : ∀ s, m.IsMoment input s → ∀ token ∈ s.tokens, token.text ≠ "" := by
    intro s hs
    have hstart : (Scan.start input m.definitions).HasNoEmpty := fun _ h => absurd h List.not_mem_nil
    exact ((maintains_hasNoEmpty m).of_isMoment hstart hs).tokens
  refine ⟨fun c s t h => Scanner.growsBy_takes (Scanner.takes_of_step h), hmoment, ?_⟩
  intro tokens h
  obtain ⟨s, hs, rfl⟩ := Scanner.exists_isMoment_of_tokenize h
  exact hmoment s hs

/-- Joins two tokens before an exclamation mark.  Its host empties the token `x`, and commas later
on. -/
def clearingScanner : Scanner where
  isBreak c := c == ',' || c == '!'
  ifRules := [⟨.ifThen, .test .token (.text "!"), 0, [.join 2], ⟨0, "sample"⟩⟩,
    ⟨.ifThen, .test .token (.text "x"), 0, [.host ⟨"clear", fun _ => { token := {} }⟩],
      ⟨9, "sample"⟩⟩]
  letRules := [⟨.letRule .be, .test .token (.text ","), 0,
    [.host ⟨"clear", fun _ => { token := {} }⟩], ⟨18, "sample"⟩⟩]
  definitions := {}

theorem emitted_tokens_frozen_clearing :
    clearingScanner.tokenize "a,!x," = .ok [⟨"a,!", .empty⟩] ∧
    (∀ token ∈ [(⟨"a,!", .empty⟩ : Token)], token.text ≠ "") ∧
    ∃ kept added, kept <+: [⟨"a", .empty⟩, ⟨",", .empty⟩] ∧
      [(⟨"a,!", .empty⟩ : Token)] = kept ++ added ∧ added.length ≤ 2 := by
  obtain ⟨hfrozen, _, hreturned⟩ := emitted_tokens_frozen clearingScanner "a,!x,"
  have hrun : clearingScanner.tokenize "a,!x," = .ok [⟨"a,!", .empty⟩] := by cbv
  have hstep : clearingScanner.step '!' { emitted := [⟨",", .empty⟩, ⟨"a", .empty⟩] } =
      .ok { index := 1, emitted := [⟨"a,!", .empty⟩], lookBack := 2 } := by cbv
  obtain ⟨kept, added, hkept, htokens, hadded, _⟩ := hfrozen _ _ _ hstep
  exact ⟨hrun, hreturned _ hrun, kept, added, hkept, htokens, hadded⟩

end RuleLexer
