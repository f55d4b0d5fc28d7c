import RuleLexer.Proofs.Scan.Stream
import RuleLexer.Proofs.Text.Runs

/-!
# Scanning without rules

A scanner without rules cuts a text into its plain split: at every break, which is a token of its own
(`tokenize_plain`).  The pass over the tokens cuts single tokens in the same way (`Token.expand`), so
**the scan of a text and the expansion of a token with that text agree**, and the parts of an expansion
are not cut any further.

The recursion on the characters (`Scanner.stream`) collects a run until the next break comes.  What it
emits from there on is the split of this run and the characters to come (`stream_plain`).
-/

namespace RuleLexer

open Text

variable {m : Scanner} {offset : Nat} {o : Collected} {c : Char} {run chars rest : List Char}
  {tokens : List Token}

/-- Without let-rules the tokens are those of the scan. -/
theorem tokenize_eq_map_scan (hlet : m.letRules = []) (input : String) :
    m.tokenize input = (m.scan input).map Scan.tokens := by
  have hpass : m.letPass = fun s => .ok s.tokens := by
    funext s
    rw [Scanner.letPass, hlet]
    rfl
  rw [Scanner.tokenize, hpass]
  rfl

/-- Without let-rules the tokens are those that the recursion collects. -/
theorem tokenize_stream (hfree : m.HostFree) (hlet : m.letRules = []) (input : String) :
    m.tokenize input = (m.stream 0 {} input.toList).map fun o => o.emit.emitted := by
  have hstart : Stands m (Scan.start input m.definitions) 0 input.toList := ⟨rfl, rfl, rfl⟩
  have hscan := scanFrom_stream hfree _ hstart
  change _ = m.stream 0 {} input.toList at hscan
  rw [tokenize_eq_map_scan hlet, Scanner.scan, ← hscan]
  cases m.scanFrom (Scan.start input m.definitions) with
  | error e => rfl
  | ok s =>
    show Except.ok s.flush.tokens = .ok s.collected.emit.emitted
    rw [← collected_flush]
    rfl

/-! ### Pieces as tokens -/

/-- The token without tags that consists of some characters. -/
def Token.ofChars (cs : List Char) : Token :=
  ⟨String.ofList cs, .empty⟩

theorem Token.ofChars_singleton (c : Char) : Token.ofChars [c] = .ofChar c := by
  rw [ofChars, ofChar, String.singleton_eq_ofList]

theorem Token.push_ofChars (cs : List Char) (c : Char) :
    (Token.ofChars cs).push c = .ofChars (cs ++ [c]) := by
  have htext : (String.ofList cs).push c = String.ofList (cs ++ [c]) := by
    rw [← String.toList_inj, String.toList_push, String.toList_ofList, String.toList_ofList]
  rw [ofChars, push, htext, ofChars]

/-- A run in progress is emitted as it is, if there is one. -/
theorem emit_run {isBreak : Char → Bool} (hrun : ∀ d ∈ run, isBreak d = false) :
    Collected.emit ⟨tokens, .ofChars run⟩ =
      ⟨tokens ++ (runs isBreak run).map Token.ofChars, {}⟩ := by
  cases run with
  | nil =>
    rw [runs_nil, List.map_nil, List.append_nil]
    rfl
  | cons d ds =>
    have hne : (Token.ofChars (d :: ds)).isEmpty = false := by simp [Token.isEmpty, Token.ofChars]
    rw [runs_eq_singleton ⟨List.cons_ne_nil d ds, hrun⟩, Collected.emit]
    simp only [hne, Bool.false_eq_true, if_false, List.map_singleton]

/-! ### Characters without rules -/

theorem judge_plain (hrules : m.ifRules = []) : m.judge offset o chars = .ok (o, none) := by
  rw [Scanner.judge, hrules]
  rfl

/-- Without rules a break is a token of its own, and other characters go to the token in progress. -/
theorem next_plain (hrules : m.ifRules = []) :
    m.next offset o c rest =
      .ok (if m.isBreak c then ⟨o.emit.emitted ++ [.ofChar c], {}⟩ else o.push c, 0) := by
  have hne : (Token.ofChar c).isEmpty = false := by simp [Token.isEmpty, Token.ofChar]
  rw [Scanner.next, judge_plain hrules]
  simp only [Scanner.nextBreak, judge_plain hrules, Collected.emit, hne, Bool.false_eq_true, if_false]
  split <;> rfl

/-- **What is emitted from a run on** is the split of the run with the characters to come. -/
theorem stream_plain (hrules : m.ifRules = []) (hrun : ∀ d ∈ run, m.isBreak d = false) :
    (m.stream offset ⟨tokens, .ofChars run⟩ chars).map (fun o => o.emit.emitted) =
      .ok (tokens ++ (runs m.isBreak (run ++ chars)).map Token.ofChars) := by
  induction chars generalizing offset tokens run with
  | nil =>
    rw [Scanner.stream, List.append_nil, Except.map, emit_run hrun]
  | cons c chars ih =>
    rw [Scanner.stream, next_plain hrules]
    cases hc : m.isBreak c with
    | true =>
      simp only [if_true, emit_run hrun]
      show (m.stream _ ⟨_, .ofChars []⟩ chars).map _ = _
      rw [ih (by simp), runs_append_of_isBreak hc, runs_cons_of_isBreak hc]
      simp [Token.ofChars_singleton]
    | false =>
      have hpush : ∀ d ∈ run ++ [c], m.isBreak d = false := by
        intro d hd
        rcases List.mem_append.1 hd with hd | hd
        · exact hrun d hd
        · rwa [List.mem_singleton.1 hd]
      simp only [Bool.false_eq_true, if_false, Collected.push, Token.push_ofChars]
      show (m.stream _ ⟨_, .ofChars (run ++ [c])⟩ chars).map _ = _
      rw [ih hpush, List.append_assoc, List.singleton_append]

/-! ### Whole texts -/

/-- The scanner without rules. -/
def Scanner.plain (isBreak : Char → Bool) (definitions : Definitions) : Scanner where
  isBreak := isBreak
  ifRules := []
  letRules := []
  definitions := definitions

theorem tokenize_eq_runs (isBreak : Char → Bool) (definitions : Definitions) (input : String) :
    (Scanner.plain isBreak definitions).tokenize input =
      .ok ((runs isBreak input.toList).map Token.ofChars) := by
  have hfree : (Scanner.plain isBreak definitions).HostFree := fun _ h => absurd h List.not_mem_nil
  rw [tokenize_stream hfree rfl]
  show ((Scanner.plain isBreak definitions).stream 0 ⟨[], .ofChars []⟩ input.toList).map _ = _
  rw [stream_plain rfl (by simp), List.nil_append, List.nil_append]
  rfl

/-- The parts of an expansion are the same tokens, but for their tags. -/
theorem Token.expand_eq_map (isBreak : Char → Bool) (text : String) (tags : TagSet) :
    Token.expand isBreak ⟨text, tags⟩ =
      ((runs isBreak text.toList).map Token.ofChars).map fun t => ⟨t.text, tags⟩ := by
  rw [Token.expand_eq_runs, List.map_map]
  rfl

theorem Token.expand_part {isBreak : Char → Bool} {t part : Token}
    (h : part ∈ t.expand isBreak) : part.expand isBreak = [part] := by
  rw [expand_eq_runs] at h
  obtain ⟨r, hr, rfl⟩ := List.mem_map.1 h
  rw [expand_eq_runs, String.toList_ofList, runs_of_mem_runs hr, List.map_singleton]

/-- **Without rules a text is cut into its plain split**, and into nothing else.  The tokens have no
tags.  Their texts are also those of the parts that the expansion of a token with this text gives; the
parts have the tags of the token, and the expansion of a part is the part alone. -/
theorem tokenize_plain (isBreak : Char → Bool) (definitions : Definitions) (input : String) :
    ∃ tokens, (Scanner.plain isBreak definitions).tokenize input = .ok tokens ∧
      (∀ t ∈ tokens, t.tags = .empty) ∧
      IsPlainSplit isBreak input.toList (tokens.map (·.text.toList)) ∧
      (∀ pieces, IsPlainSplit isBreak input.toList pieces →
        pieces = tokens.map (·.text.toList)) ∧
      ∀ tags, Token.expand isBreak ⟨input, tags⟩ = tokens.map (fun t => ⟨t.text, tags⟩) ∧
        ∀ part ∈ Token.expand isBreak ⟨input, tags⟩, part.expand isBreak = [part] := by
  have htexts : ((runs isBreak input.toList).map Token.ofChars).map (·.text.toList) =
      runs isBreak input.toList := by
    simp [Token.ofChars, Function.comp_def]
  refine ⟨_, tokenize_eq_runs isBreak definitions input, ?_, ?_, fun pieces h => ?_, fun tags => ?_⟩
  · intro t ht
    obtain ⟨r, _, rfl⟩ := List.mem_map.1 ht
    rfl
  · rw [htexts]
    exact isPlainSplit_runs isBreak input.toList
  · rw [htexts]
    exact h.eq_runs
  · exact ⟨Token.expand_eq_map isBreak input tags, fun part => Token.expand_part⟩

/-- Breaks at the ends and beside each other. -/
example : (Scanner.plain Pattern.defaultBreak.matchesChar {}).tokenize ",ab, é" =
    .ok [⟨",", .empty⟩, ⟨"ab", .empty⟩, ⟨",", .empty⟩, ⟨" ", .empty⟩, ⟨"é", .empty⟩] := by
  cbv

end RuleLexer
