import RuleLexer.Proofs.Rule.Source
import RuleLexer.Proofs.Text.Line
import RuleLexer.Proofs.View
import RuleLexer.Regex.Reader

/-!
# Where a call fails

A rule that gives up is reported at the current character of the state in which it is run
(`Rule.exists_eq_thrown_of_run`).

* `offset_of_scan_error`: **a scan fails at a break of the text.**  The offset of the error is that of
  the break, whatever was skipped before.
* `offset_of_tokenize_error`: **the pass fails on a scanned token**, and the offset of the error counts
  the bytes that the scanned tokens spell before the last character of the token.  What the scan left
  out is not counted: this is the place of that character in the text if no rule skips, and may be
  before it otherwise (`thrown_before_its_token`).
-/

namespace RuleLexer

open Text (byteLength)

/-! ### What a rule gives up with -/

namespace Scan

variable {s t : Scan} {message : String}

theorem thrown_congr (h : t.input = s.input ∧ t.index = s.index) (message : String) :
    t.thrown message = s.thrown message := by
  rw [thrown, thrown, byteOffset, byteOffset, h.1, h.2]

theorem byteOffset_of_append {u v : List Char} (hi : s.input.toList = u ++ v)
    (hx : s.index = u.length) : s.byteOffset = byteLength u := by
  rw [byteOffset, hi, hx, List.take_left]

theorem exists_append_of_getElem? {c : Char} (h : s.input[s.index]? = some c) :
    ∃ u v, s.input.toList = u ++ c :: v ∧ s.index = u.length := by
  obtain ⟨hlt, _⟩ := Array.getElem?_eq_some_iff.1 h
  refine ⟨s.input.toList.take s.index, s.advance.rest, ?_, ?_⟩
  · rw [← rest_of_getElem? h]
    exact (List.take_append_drop _ _).symm
  · exact (List.length_take_of_le (Nat.le_of_lt hlt)).symm

theorem toNat_offset_thrown (h : s.byteOffset < 2 ^ 32) :
    (s.thrown message).position.offset.toNat = s.byteOffset :=
  UInt32.toNat_ofNat_of_lt' h

end Scan

theorem Step.exists_eq_thrown_of_error? {step : Step} {s : Scan} {e : Error}
    (h : step.error? s = some e) : ∃ message, e = s.thrown message := by
  cases step with
  | throw message => exact ⟨message, (Option.some.inj h).symm⟩
  | host f =>
    obtain ⟨message, _, rfl⟩ := Option.map_eq_some_iff.1 h
    exact ⟨message, rfl⟩
  | _ => simp [Step.error?] at h

/-- **A rule gives up at the current character**, since none of its steps moves on. -/
theorem Rule.exists_eq_thrown_of_run {r : Rule} {s t : Scan} {e : Error}
    (h : r.run s = (t, .error e)) : ∃ message, e = s.thrown message := by
  obtain ⟨before, step, _, u, flow, _, hbefore, hu⟩ := exists_step_of_runSteps_error h
  obtain ⟨message, rfl⟩ := step.exists_eq_thrown_of_error? hu
  have hi := input_runSteps .proceed { s with lookBack := r.lookBack, skip := 0 } before
  have hx := index_runSteps .proceed { s with lookBack := r.lookBack, skip := 0 } before
  rw [hbefore] at hi hx
  exact ⟨message, Scan.thrown_congr ⟨hi, hx⟩ message⟩

namespace Scanner

variable {m : Scanner} {input : String} {s t : Scan} {e : Error}

theorem exists_eq_thrown_of_step {c : Char} (h : m.step c s = .error e) :
    ∃ message, e = s.thrown message := by
  obtain ⟨t, u, ht, hu⟩ := exists_tries_of_step_error h
  obtain ⟨r, _, hr⟩ := exists_rule_of_runChain_error hu
  obtain ⟨message, rfl⟩ := r.exists_eq_thrown_of_run hr
  exact ⟨message, Scan.thrown_congr ht.keeps message⟩

theorem exists_eq_thrown_of_letStep (h : m.letStep s = .error e) :
    ∃ message, e = s.thrown message := by
  obtain ⟨r, t, u, ht, hu⟩ := exists_runsOn_of_letStep_error h
  obtain ⟨message, rfl⟩ := r.exists_eq_thrown_of_run hu
  exact ⟨message, Scan.thrown_congr ht.keeps message⟩

/-! ### In the scan -/

/-- The event at the character `c` behind the characters `u` fails, all events before it having been
completed.  It begins in the state `s`, and the chain of the if-rules fails where it is tried in the
state `t`. -/
structure FailsAt (m : Scanner) (input : String) (e : Error) (u : List Char) (c : Char)
    (s t : Scan) : Prop where
  reaches : m.ScanReaches input s
  step : m.step c s = .error e
  isBreak : m.isBreak c = true
  tries : m.Tries c s t
  chain : ∃ t', runChain m.ifRules t = (t', .error e)
  index : t.index = u.length
  /-- An operand that looks at the current character sees `c`. -/
  character : ∀ matcher : Matcher, matcher.matchesTarget t .character = matcher.matchesChar (some c)

end Scanner

open Scanner (FailsAt)

/-- **A scan fails at a break of the text**, in the first or in the second run of its event, and the
offset of the error is that of the break. -/
theorem offset_of_scan_error (m : Scanner) {input : String} (hsize : input.utf8ByteSize < 2 ^ 32)
    {e : Error} (h : m.scan input = .error e) :
    m.tokenize input = .error e ∧
      ∃ u c v, input.toList = u ++ c :: v ∧ e.position.offset.toNat = byteLength u ∧
        e.position.file = "<input>" ∧ ∃ s t, m.FailsAt input e u c s t := by
  refine ⟨by rw [Scanner.tokenize, h]; rfl, ?_⟩
  obtain ⟨s, c, hs, hc, hstep⟩ := Scanner.exists_step_error_of_scan_error h
  obtain ⟨t, t', ht, ht'⟩ := Scanner.exists_tries_of_step_error hstep
  obtain ⟨message, rfl⟩ := Scanner.exists_eq_thrown_of_step hstep
  obtain ⟨hi, hx⟩ := ht.keeps
  obtain ⟨u, v, hsplit, hindex⟩ := Scan.exists_append_of_getElem? hc
  have hoffset : s.byteOffset = byteLength u := Scan.byteOffset_of_append hsplit hindex
  rw [hs.input_eq] at hsplit
  have hlt : s.byteOffset < 2 ^ 32 := by
    rw [← Text.byteLength_toList, hsplit, Text.byteLength_append] at hsize
    exact hoffset ▸ Nat.lt_of_le_of_lt (Nat.le_add_right _ _) hsize
  refine ⟨u, c, v, hsplit, (Scan.toNat_offset_thrown hlt).trans hoffset, rfl, s, t, hs, hstep,
    ht.isBreak, ht, ⟨t', ht'⟩, hx.trans hindex, fun matcher => ?_⟩
  show matcher.matchesChar t.input[t.index]? = _
  rw [hi, hx, hc]

/-- A scanner that breaks at commas and exclamation marks.  It skips a comma with the character behind
it, and gives up at an exclamation mark that is the token in progress. -/
def forbiddingScanner : Scanner where
  isBreak c := c == ',' || c == '!'
  ifRules := [⟨.ifThen, .test .token (.text ","), 0, [.skip 2], ⟨0, "sample"⟩⟩,
    ⟨.ifThen, .test .token (.text "!"), 0, [.throw "no"], ⟨9, "sample"⟩⟩]
  letRules := []
  definitions := {}

theorem offset_of_scan_error_forbidding :
    forbiddingScanner.scan "é,xy!z" = .error ⟨.thrown "no", ⟨5, "<input>"⟩⟩ ∧
      ∃ u c v, "é,xy!z".toList = u ++ c :: v ∧ 5 = byteLength u ∧
        forbiddingScanner.isBreak c = true := by
  have h : forbiddingScanner.scan "é,xy!z" = .error ⟨.thrown "no", ⟨5, "<input>"⟩⟩ := by cbv
  obtain ⟨_, u, c, v, htext, hoffset, _, s, t, hfails⟩ :=
    offset_of_scan_error forbiddingScanner (by decide) h
  exact ⟨h, u, c, v, htext, hoffset, hfails.isBreak⟩

/-! ### In the pass over the tokens -/

namespace Scanner

/-- The let-rules fail on a scanned token, all tokens before it having been passed. -/
inductive FailsOn (m : Scanner) (input : String) (e : Error) :
    List Token → Token → List Token → Prop
  | intro {s t : Scan} {before after : List Token} {token : Token} :
      m.scan input = .ok s → s.tokens = before ++ token :: after →
      m.PassReaches input (before.flatMap (·.text.toList)).length t (token :: after) →
      m.letStep { t with
        index := (before.flatMap (·.text.toList)).length + token.text.length - 1
        token := token } = .error e →
      FailsOn m input e before token after

variable {m : Scanner} {input : String} {s t : Scan} {e : Error}
  {before after : List Token} {token : Token}

theorem exists_failsOn_of_tokenize (hscan : m.scan input = .ok s)
    (h : m.tokenize input = .error e) :
    ∃ before token after, m.FailsOn input e before token after := by
  obtain ⟨passed, t, token, after, ht, hstep⟩ := exists_letStep_error_of_tokenize_error hscan h
  obtain ⟨_, before, hsplit, rfl⟩ := ht.exists_before hscan
  exact ⟨before, token, after, .intro hscan hsplit ht hstep⟩

theorem FailsOn.tokens_eq (h : m.FailsOn input e before token after)
    (hscan : m.scan input = .ok s) : s.tokens = before ++ token :: after := by
  obtain ⟨hscan', hsplit, _, _⟩ := h
  obtain rfl := Except.ok.inj (hscan'.symm.trans hscan)
  exact hsplit

/-- **The pass fails at the last character of a scanned token**, in what the scanned tokens spell. -/
theorem FailsOn.exists_eq (h : m.FailsOn input e before token after) :
    ∃ init c message, token.text.toList = init ++ [c] ∧ e = ⟨.thrown message,
      ⟨UInt32.ofNat (byteLength (before.flatMap (·.text.toList) ++ init)), "<input>"⟩⟩ := by
  obtain ⟨hscan, hsplit, ht, hstep⟩ := h
  obtain ⟨init, c, htoken, hinput, hindex⟩ := (TriesOn.intro hscan hsplit ht).exists_append
  obtain ⟨message, rfl⟩ := exists_eq_thrown_of_letStep hstep
  refine ⟨init, c, message, htoken, ?_⟩
  rw [Scan.thrown, Scan.byteOffset_of_append hinput hindex]
  rfl

end Scanner

/-- What stands between two parts of a part of a text stands between these parts in the text. -/
theorem exists_append_of_sublist {α : Type} {c : α} {xs ys text : List α}
    (h : (xs ++ c :: ys).Sublist text) :
    ∃ u v, text = u ++ c :: v ∧ xs.Sublist u ∧ ys.Sublist v := by
  obtain ⟨r, r', rfl, hxs, hys⟩ := List.append_sublist_iff.1 h
  obtain ⟨q, q', rfl, hc, hys'⟩ := List.cons_sublist_iff.1 hys
  obtain ⟨u, v, rfl⟩ := List.append_of_mem hc
  refine ⟨r ++ u, v ++ q', by simp, hxs.trans (List.sublist_append_left r u), ?_⟩
  exact hys'.trans (List.sublist_append_right v q')

/-- **The pass fails at the last character `c` of a scanned token**, and the offset of the error counts
the bytes of what the scanned tokens spell before.  In the text `c` stands behind these characters and
those that were left out among them, unless the call overflows: at the offset itself, if no rule
skips. -/
theorem offset_of_tokenize_error {m : Scanner} (hhost : m.HostsKeepText) {input : String}
    (hsize : input.utf8ByteSize < 2 ^ 32) {s : Scan} (hscan : m.scan input = .ok s) {e : Error}
    (h : m.tokenize input = .error e) :
    ∃ before token after init c, m.FailsOn input e before token after ∧
      token.text.toList = init ++ [c] ∧
      e.position.offset.toNat = byteLength (before.flatMap (·.text.toList) ++ init) ∧
      e.position.file = "<input>" ∧
      (m.call input = some (.error e) → ∃ u v, input.toList = u ++ c :: v ∧
        (before.flatMap (·.text.toList) ++ init).Sublist u ∧
        (after.flatMap (·.text.toList)).Sublist v) ∧
      (m.NeverSkips → input.toList =
        (before.flatMap (·.text.toList) ++ init) ++ c :: after.flatMap (·.text.toList)) := by
  obtain ⟨before, token, after, hfails⟩ := Scanner.exists_failsOn_of_tokenize hscan h
  obtain ⟨init, c, message, htoken, rfl⟩ := hfails.exists_eq
  have htexts : s.texts.flatten =
      (before.flatMap (·.text.toList) ++ init) ++ c :: after.flatMap (·.text.toList) := by
    rw [Scan.texts, ← List.flatMap_def, hfails.tokens_eq hscan, List.flatMap_append,
      List.flatMap_cons, htoken]
    simp
  have hsub := spelled_scan_sublist hhost hscan
  rw [htexts] at hsub
  have hlt : byteLength (before.flatMap (·.text.toList) ++ init) < 2 ^ 32 := by
    have hle := Text.byteLength_le_of_sublist ((List.sublist_append_left _ _).trans hsub)
    exact Nat.lt_of_le_of_lt (Text.byteLength_toList input ▸ hle) hsize
  -- With `skip` there may be several places for `c`; without it the tokens spell the text itself.
  exact ⟨before, token, after, init, c, hfails, htoken, UInt32.toNat_ofNat_of_lt' hlt, rfl,
    fun _ => exists_append_of_sublist hsub,
    fun hskip => (spelled_scan hskip hhost hscan).symm.trans htexts⟩

/-- Leaves commas out, and forbids a `b`. -/
def droppingRules : Specification where
  ifRules := [⟨"','", "skip 1", ⟨0, "sample"⟩⟩]
  letRules := [⟨"'b'", .throw, "'no'", ⟨18, "sample"⟩⟩]

def droppingRulesScanner : Scanner where
  isBreak := Pattern.defaultBreak.matchesChar
  ifRules := [⟨.ifThen, .test .token (.text ","), 0, [.skip 1], ⟨0, "sample"⟩⟩]
  letRules := [⟨.letRule .throw, .test .token (.text "b"), 0, [.throw "no"], ⟨18, "sample"⟩⟩]
  definitions := {}

theorem hostsKeepText_droppingRulesScanner : droppingRulesScanner.HostsKeepText := by
  simp [Scanner.HostsKeepText, Scanner.rules, droppingRulesScanner, Step.KeepsText]

theorem offset_of_tokenize_error_dropping :
    droppingRulesScanner.tokenize "é,b" = .error ⟨.thrown "no", ⟨2, "<input>"⟩⟩ ∧
      droppingRulesScanner.call "é,b" = some (.error ⟨.thrown "no", ⟨2, "<input>"⟩⟩) ∧
      ∃ xs c, byteLength xs = 2 ∧ ∃ u v, "é,b".toList = u ++ c :: v ∧ xs.Sublist u := by
  have h : droppingRulesScanner.tokenize "é,b" = .error ⟨.thrown "no", ⟨2, "<input>"⟩⟩ := by cbv
  have hscan : droppingRulesScanner.scan "é,b" = .ok
      { input := #['é', ',', 'b'], index := 3, emitted := [⟨"b", .empty⟩, ⟨"é", .empty⟩] } := by cbv
  have hcall : droppingRulesScanner.call "é,b" =
      some (.error ⟨.thrown "no", ⟨2, "<input>"⟩⟩) := by cbv
  obtain ⟨before, token, after, init, c, _, _, hoffset, _, hplace, _⟩ :=
    offset_of_tokenize_error hostsKeepText_droppingRulesScanner (by decide) hscan h
  obtain ⟨u, v, htext, hu, _⟩ := hplace hcall
  exact ⟨h, hcall, _, c, hoffset.symm, u, v, htext, hu⟩

/-- What was left out before a token is missing in the offset of its error. -/
theorem thrown_before_its_token : droppingRules.scanner {} = .ok droppingRulesScanner ∧
    droppingRulesScanner.HostsKeepText ∧
    droppingRulesScanner.FailsOn "a,b" ⟨.thrown "no", ⟨1, "<input>"⟩⟩
      [⟨"a", .empty⟩] ⟨"b", .empty⟩ [] ∧
    ¬∃ u v, "a,b".toList = u ++ 'b' :: v ∧ byteLength u = 1 := by
  have h : droppingRules.scanner {} = .ok droppingRulesScanner :=
    Specification.scanner_eq_ok.2 ⟨⟨[some _], .cons (by cbv) .nil, rfl⟩,
      ⟨[some _], .cons (by cbv) .nil, rfl⟩, rfl, rfl⟩
  have hscan : droppingRulesScanner.scan "a,b" = .ok
      { input := #['a', ',', 'b'], index := 3, emitted := [⟨"b", .empty⟩, ⟨"a", .empty⟩] } := by cbv
  have hpass := Scanner.PassReaches.step (t := { input := #['a', 'b'], emitted := [⟨"a", .empty⟩] })
    (.start hscan rfl) (by cbv)
  refine ⟨h, hostsKeepText_droppingRulesScanner, .intro hscan rfl hpass (by cbv), ?_⟩
  rintro ⟨u, v, htext, hu⟩
  rcases u with _ | ⟨c, _ | ⟨d, u⟩⟩
  · simp at hu
  · simp at htext
  · have hc := c.utf8Size_pos
    have hd := d.utf8Size_pos
    rw [Text.byteLength_cons, Text.byteLength_cons] at hu
    omega

end RuleLexer
