import RuleLexer.Proofs.Failure
import RuleLexer.Proofs.Scan.Plain
import RuleLexer.Proofs.Specification.Composition

/-!
# Cutting a text at a break

The rules of a local scanner look at the token in progress and at the current character only, and
their actions tag the token, drop it or give up (`Scanner.IsLocal`).  Such a scanner has nothing left
of a text when a break has been taken: **the tokens of a text that is cut behind a break are those of
its two parts** (`tokenize_append_of_isBreak`), and where one of the parts fails, so does the text.

The recursion on the characters (`Scanner.stream`) then takes one character at a time, whatever stands
behind it (`next_of_isLocal`).  Two facts about it make up the proof:

* it takes a text by taking one part after the other (`stream_append`), and after a break the token in
  progress is empty (`token_of_nextChar`);
* other tokens before those that it has emitted, and another place in the text, do not matter to it
  (`stream_farther`).
-/

namespace RuleLexer

open Text

/-! ### Local rules -/

namespace Predicate

/-- The predicate looks at the token in progress and at the current character only, and calls no
host. -/
def IsLocal : Predicate → Prop
  | test target _ => target = .token ∨ target = .character
  | definition _ => True
  | host _ => False
  | and l r | or l r => l.IsLocal ∧ r.IsLocal

theorem IsLocal.hostFree {p : Predicate} (h : p.IsLocal) : p.HostFree := by
  induction p with
  | test | definition => exact trivial
  | host => exact h
  | and l r ihl ihr | or l r ihl ihr => exact ⟨ihl h.1, ihr h.2⟩

end Predicate

namespace Step

/-- The step tags the token in progress, drops it or gives up. -/
def IsLocal : Step → Prop
  | tag _ | skipToken | throw _ => True
  | _ => False

theorem IsLocal.hostFree {step : Step} (h : step.IsLocal) : step.HostFree := by
  cases step with
  | host => exact h
  | _ => exact trivial

theorem IsLocal.verdict? {step : Step} (h : step.IsLocal) : step.verdict? = none := by
  cases step with
  | fold | skip => exact h.elim
  | _ => rfl

end Step

/-- There are no let-rules, and the if-rules are local. -/
structure Scanner.IsLocal (m : Scanner) : Prop where
  letRules : m.letRules = []
  predicate : ∀ r ∈ m.ifRules, r.predicate.IsLocal
  steps : ∀ r ∈ m.ifRules, ∀ step ∈ r.steps, step.IsLocal

theorem Scanner.IsLocal.hostFree {m : Scanner} (hm : m.IsLocal) : m.HostFree := fun r hr =>
  ⟨(hm.predicate r hr).hostFree, fun step hstep => (hm.steps r hr step hstep).hostFree⟩

/-! ### One character -/

namespace Scanner

/-- Runs the first if-rule that holds where nothing but the current character is in view. -/
def judgeChar (m : Scanner) (offset : Nat) (o : Collected) (c : Char) : Except Error Collected :=
  match m.ifRules.find? fun r => o.sees [c] m.definitions r.predicate with
  | none => .ok o
  | some r => o.act offset r.steps

/-- Takes the character `c`.  At a break the token in progress and the break are judged and emitted. -/
def nextChar (m : Scanner) (offset : Nat) (o : Collected) (c : Char) : Except Error Collected :=
  if m.isBreak c then
    (m.judgeChar offset o c).bind fun o =>
      (m.judgeChar offset { o.emit with token := .ofChar c } c).map Collected.emit
  else .ok (o.push c)

end Scanner

/-- The same behind other tokens. -/
def Collected.behind (before : List Token) (o : Collected) : Collected :=
  { o with emitted := before ++ o.emitted }

variable {m : Scanner} {n offset : Nat} {o o' : Collected} {before : List Token} {c : Char}
  {chars rest : List Char} {steps : List Step}

/-- Neither the characters to come nor the emitted tokens matter to a local predicate. -/
theorem Collected.sees_behind {p : Predicate} (hp : p.IsLocal) (before : List Token)
    (rest : List Char) (definitions : Definitions) :
    (o.behind before).sees (c :: rest) definitions p = o.sees [c] definitions p := by
  induction p with
  | test target matcher => rcases hp with rfl | rfl <;> rfl
  | definition => rfl
  | host => rfl
  | and l r ihl ihr | or l r ihl ihr => simp only [sees, ihl hp.1, ihr hp.2]

theorem find?_behind (hm : m.IsLocal) (before : List Token) (rest : List Char) :
    (m.ifRules.find? fun r => (o.behind before).sees (c :: rest) m.definitions r.predicate) =
      m.ifRules.find? fun r => o.sees [c] m.definitions r.predicate :=
  List.find?_congr fun r hr => Collected.sees_behind (hm.predicate r hr) before rest m.definitions

theorem verdict?_of_isLocal (h : ∀ step ∈ steps, step.IsLocal) : verdict? steps = none := by
  rw [verdict?, List.filterMap_eq_nil_iff.2 fun step hstep => (h step hstep).verdict?]
  rfl

theorem judge_of_isLocal (hm : m.IsLocal) :
    m.judge offset o (c :: rest) = (m.judgeChar offset o c).map fun o => (o, none) := by
  have hfind := find?_behind (o := o) (c := c) hm [] rest
  change m.ifRules.find? (fun r => o.sees (c :: rest) m.definitions r.predicate) = _ at hfind
  rw [Scanner.judge, Scanner.judgeChar, hfind]
  cases hr : m.ifRules.find? fun r => o.sees [c] m.definitions r.predicate with
  | none => rfl
  | some r =>
    dsimp only
    rw [verdict?_of_isLocal (hm.steps r (List.mem_of_find?_eq_some hr))]

/-- **Only the current character is taken**, whatever stands behind it. -/
theorem next_of_isLocal (hm : m.IsLocal) :
    m.next offset o c rest = (m.nextChar offset o c).map fun o => (o, 0) := by
  rw [Scanner.next, Scanner.nextChar]
  split
  next =>
    rw [judge_of_isLocal hm]
    cases m.judgeChar offset o c with
    | error e => rfl
    | ok o =>
      show m.nextBreak offset o.emit c rest =
        ((m.judgeChar offset { o.emit with token := .ofChar c } c).map Collected.emit).map _
      rw [Scanner.nextBreak, judge_of_isLocal hm]
      cases m.judgeChar offset { o.emit with token := .ofChar c } c <;> rfl
  next => rfl

/-- After a break no token is in progress. -/
theorem token_of_nextChar (hc : m.isBreak c = true) (h : m.nextChar offset o c = .ok o') :
    o'.token = {} := by
  rw [Scanner.nextChar, if_pos hc] at h
  cases hjudge : m.judgeChar offset o c with
  | error e => simp [hjudge, Except.bind] at h
  | ok o₁ =>
    rw [hjudge] at h
    obtain ⟨o₂, _, rfl⟩ := exists_of_map_eq_ok h
    rfl

/-! ### One part after the other -/

theorem stream_cons (hm : m.IsLocal) : m.stream offset o (c :: rest) =
    (m.nextChar offset o c).bind fun o => m.stream (offset + byteLength [c]) o rest := by
  rw [Scanner.stream, next_of_isLocal hm]
  cases m.nextChar offset o c <;> rfl

theorem stream_append (hm : m.IsLocal) : m.stream offset o (chars ++ rest) =
    (m.stream offset o chars).bind fun o => m.stream (offset + byteLength chars) o rest := by
  induction chars generalizing offset o with
  | nil =>
    rw [Scanner.stream, List.nil_append, byteLength_nil, Nat.add_zero]
    rfl
  | cons c chars ih =>
    rw [List.cons_append, stream_cons hm, stream_cons hm]
    cases m.nextChar offset o c with
    | error e => rfl
    | ok o =>
      show m.stream (offset + byteLength [c]) o (chars ++ rest) = _
      rw [ih, Nat.add_assoc, ← byteLength_append]
      rfl

theorem token_of_stream (hm : m.IsLocal) (hc : m.isBreak c = true)
    (h : m.stream offset o (chars ++ [c]) = .ok o') : o'.token = {} := by
  rw [stream_append hm] at h
  cases hchars : m.stream offset o chars with
  | error e => simp [hchars, Except.bind] at h
  | ok o₁ =>
    rw [hchars] at h
    change m.stream (offset + byteLength chars) o₁ [c] = .ok o' at h
    rw [stream_cons hm] at h
    cases hnext : m.nextChar (offset + byteLength chars) o₁ c with
    | error e => simp [hnext, Except.bind] at h
    | ok o₂ =>
      simp only [hnext, Except.bind, Scanner.stream] at h
      obtain rfl := Except.ok.inj h
      exact token_of_nextChar hc hnext

/-! ### Farther on -/

namespace Collected

/-- A result, as it is `n` bytes farther on and behind other tokens. -/
def farther (n : Nat) (before : List Token) :
    Except Error Collected → Except Error Collected
  | .error e => .error (e.moved n)
  | .ok o => .ok (o.behind before)

theorem bind_farther {f g : Collected → Except Error Collected} (r : Except Error Collected)
    (h : ∀ o, g (o.behind before) = farther n before (f o)) :
    (farther n before r).bind g = farther n before (r.bind f) := by
  cases r with
  | error e => rfl
  | ok o => exact h o

theorem emit_behind (before : List Token) (o : Collected) :
    (o.behind before).emit = o.emit.behind before := by
  rw [emit, emit, behind, behind]
  dsimp only
  split
  · rfl
  · rw [List.append_assoc]

theorem act_farther (h : ∀ step ∈ steps, step.IsLocal) :
    (o.behind before).act (offset + n) steps = farther n before (o.act offset steps) := by
  induction steps generalizing o with
  | nil => rfl
  | cons step steps ih =>
    have hsteps : ∀ step' ∈ steps, step'.IsLocal := fun step' hstep =>
      h step' (List.mem_cons_of_mem step hstep)
    cases step with
    | tag name => exact ih hsteps (o := { o with token := o.token.addTag name })
    | skipToken => exact ih hsteps (o := { o with token := {} })
    | throw message =>
      rw [act, act, farther, Error.moved, ← Position.moved_ofNat]
    | fold | skip | join | host => exact (h _ List.mem_cons_self).elim

end Collected

open Collected (farther)

theorem judgeChar_farther (hm : m.IsLocal) : m.judgeChar (offset + n) (o.behind before) c =
    farther n before (m.judgeChar offset o c) := by
  rw [Scanner.judgeChar, Scanner.judgeChar, find?_behind hm before []]
  cases hr : m.ifRules.find? fun r => o.sees [c] m.definitions r.predicate with
  | none => rfl
  | some r => exact Collected.act_farther (hm.steps r (List.mem_of_find?_eq_some hr))

theorem nextChar_farther (hm : m.IsLocal) : m.nextChar (offset + n) (o.behind before) c =
    farther n before (m.nextChar offset o c) := by
  rw [Scanner.nextChar, Scanner.nextChar]
  split
  next =>
    rw [judgeChar_farther hm]
    refine Collected.bind_farther _ fun o => ?_
    have hbreak : { (o.behind before).emit with token := .ofChar c } =
        Collected.behind before { o.emit with token := .ofChar c } := by
      rw [Collected.emit_behind]
      rfl
    rw [hbreak, judgeChar_farther hm]
    cases m.judgeChar offset { o.emit with token := .ofChar c } c with
    | error e => rfl
    | ok o => exact congrArg Except.ok (Collected.emit_behind before o)
  next => rfl

/-- **Neither the place in the text nor what was emitted matters.** -/
theorem stream_farther (hm : m.IsLocal) : m.stream (offset + n) (o.behind before) chars =
    farther n before (m.stream offset o chars) := by
  induction chars generalizing offset o with
  | nil =>
    rw [Scanner.stream, Scanner.stream]
    rfl
  | cons c chars ih =>
    rw [stream_cons hm, stream_cons hm, nextChar_farther hm]
    refine Collected.bind_farther _ fun o => ?_
    rw [Nat.add_right_comm, ih]

/-! ### Whole texts -/

/-- The tokens of a text that is cut behind a break, in one equation. -/
theorem tokenize_push_append (hm : m.IsLocal) (u v : String) (hc : m.isBreak c = true) :
    m.tokenize (u.push c ++ v) = (m.tokenize (u.push c)).bind fun before =>
      ((m.tokenize v).mapError (Error.moved (u.push c).utf8ByteSize)).map (before ++ ·) := by
  rw [tokenize_stream hm.hostFree hm.letRules, tokenize_stream hm.hostFree hm.letRules,
    tokenize_stream hm.hostFree hm.letRules, String.toList_append, stream_append hm,
    byteLength_toList]
  cases hfirst : m.stream 0 {} (u.push c).toList with
  | error e => rfl
  | ok o =>
    rw [String.toList_push] at hfirst
    -- only emitted tokens are left of the first text
    have ho : o = Collected.behind o.emitted {} := by
      rw [Collected.behind, List.append_nil, ← token_of_stream hm hc hfirst]
    have hempty : o.emit.emitted = o.emitted := by
      rw [ho]
      rfl
    show (m.stream _ o v.toList).map _ = ((Except.map _ _).mapError _).map (o.emit.emitted ++ ·)
    rw [hempty]
    conv_lhs => rw [ho, stream_farther hm]
    cases m.stream 0 {} v.toList with
    | error e => rfl
    | ok o₂ => exact congrArg (fun o => Except.ok o.emitted) (Collected.emit_behind o.emitted o₂)

/-- An error of a scan points into the text. -/
theorem offset_le_of_tokenize_error {input : String} {e : Error} (hlet : m.letRules = [])
    (h : m.tokenize input = .error e) : e.position.offset.toNat ≤ input.utf8ByteSize := by
  rw [tokenize_eq_map_scan hlet] at h
  obtain ⟨s, c, hs, hc, hstep⟩ :=
    Scanner.exists_step_error_of_scan_error (error_of_map_eq_error h)
  obtain ⟨message, rfl⟩ := Scanner.exists_eq_thrown_of_step hstep
  have hle : s.byteOffset ≤ byteLength s.input.toList := by
    conv_rhs => rw [← List.take_append_drop s.index s.input.toList, byteLength_append]
    exact Nat.le_add_right _ _
  rw [hs.input_eq, byteLength_toList] at hle
  have hwrap : (UInt32.ofNat s.byteOffset).toNat ≤ s.byteOffset := by
    rw [UInt32.toNat_ofNat']
    exact Nat.mod_le _ _
  exact hwrap.trans hle

/-- **A local scanner cuts a text at each break anew.**  A text that ends in a break fails as it does
before other texts.  If it does not fail, a text behind it fails as it does alone, as many bytes
farther on as the first has; and if neither does, the tokens of both are those of each. -/
theorem tokenize_append_of_isBreak (hm : m.IsLocal) (u v : String) (hc : m.isBreak c = true) :
    (∀ e, m.tokenize (u.push c) = .error e → m.tokenize (u.push c ++ v) = .error e) ∧
    (∀ before e, m.tokenize (u.push c) = .ok before → m.tokenize v = .error e →
      m.tokenize (u.push c ++ v) = .error (e.moved (u.push c).utf8ByteSize) ∧
        ((u.push c ++ v).utf8ByteSize < 2 ^ 32 →
          (e.moved (u.push c).utf8ByteSize).position.offset.toNat =
            e.position.offset.toNat + (u.push c).utf8ByteSize)) ∧
    (∀ before after, m.tokenize (u.push c) = .ok before → m.tokenize v = .ok after →
      m.tokenize (u.push c ++ v) = .ok (before ++ after)) := by
  rw [tokenize_push_append hm u v hc]
  refine ⟨fun e he => ?_, fun before e hbefore he => ⟨?_, fun hsize => ?_⟩,
    fun before after hbefore hafter => ?_⟩
  · rw [he]
    rfl
  · rw [hbefore, he]
    rfl
  · have hle := offset_le_of_tokenize_error hm.letRules he
    rw [String.utf8ByteSize_append] at hsize
    exact Position.toNat_moved (by omega)
  · rw [hbefore, hafter]
    rfl

/-- A scanner that breaks at commas and exclamation marks.  It drops commas, tags `ab` and gives up at
an exclamation mark behind an `x`. -/
def pruningScanner : Scanner where
  isBreak c := c == ',' || c == '!'
  ifRules := [⟨.ifThen, .test .token (.text ","), 0, [.skipToken], ⟨0, "sample"⟩⟩,
    ⟨.ifThen, .test .token (.text "ab"), 0, [.tag "known"], ⟨20, "sample"⟩⟩,
    ⟨.ifThen, .and (.test .token (.text "x")) (.test .character (.text "!")), 0, [.throw "no"],
      ⟨40, "sample"⟩⟩]
  letRules := []
  definitions := {}

theorem tokenize_append_of_isBreak_pruning :
    pruningScanner.IsLocal ∧ pruningScanner.isBreak ',' = true ∧
    pruningScanner.tokenize ("ab,x!" ++ "y") = .error ⟨.thrown "no", ⟨4, "<input>"⟩⟩ ∧
    pruningScanner.tokenize ("ab," ++ "é,x!") = .error ⟨.thrown "no", ⟨7, "<input>"⟩⟩ ∧
    pruningScanner.tokenize ("ab," ++ "x,ab") =
      .ok [⟨"ab", .ofList ["known"]⟩, ⟨"x", .empty⟩, ⟨"ab", .empty⟩] := by
  have hm : pruningScanner.IsLocal := by
    refine ⟨rfl, ?_, ?_⟩ <;>
      simp [pruningScanner, Predicate.IsLocal, Step.IsLocal]
  refine ⟨hm, rfl, ?_, ?_, ?_⟩
  · exact (tokenize_append_of_isBreak hm "ab,x" "y" (c := '!') rfl).1 _ (by cbv)
  · exact ((tokenize_append_of_isBreak hm "ab" "é,x!" (c := ',') rfl).2.1 _ _ (by cbv) (by cbv)).1
  · exact (tokenize_append_of_isBreak hm "ab" "x,ab" (c := ',') rfl).2.2 _ _ (by cbv) (by cbv)

end RuleLexer
