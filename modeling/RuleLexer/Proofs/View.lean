import RuleLexer.Proofs.Emission

/-!
# What the let-rules see

The let-rules are tried on the scanned tokens one after the other (`Scanner.TriesOn`).  The text that
they see does not change meanwhile, whatever is done to the tokens: it is what the scanned tokens
spell.  So the **view fits the token** (`letRules_see`).  The current character is the last one of the
token, which is not empty, and the characters ahead are those of the scanned tokens behind it, whether
the tokens before were tagged, joined, cut or edited by a host.
-/

namespace RuleLexer

/-! ### A place in a text -/

namespace Scan

variable {s : Scan} {u v : List Char} {c : Char}

/-- The scan stands before a character. -/
theorem current?_of_append (hinput : s.input.toList = u ++ c :: v) (hindex : s.index = u.length) :
    s.current? = some c := by
  rw [current?, ← Array.getElem?_toList, hinput, hindex,
    List.getElem?_append_right (Nat.le_refl _), Nat.sub_self, List.getElem?_cons_zero]

/-- The characters ahead of it are those that follow. -/
theorem ahead?_of_append (hinput : s.input.toList = u ++ c :: v) (hindex : s.index = u.length)
    {j : Nat} (hj : 0 < j) : s.ahead? j = v[j - 1]? := by
  obtain ⟨k, rfl⟩ := Nat.exists_eq_add_of_lt hj
  rw [ahead?, ← Array.getElem?_toList, hinput, hindex,
    List.getElem?_append_right (Nat.le_add_right _ _), Nat.add_sub_cancel_left, Nat.zero_add,
    List.getElem?_cons_succ, Nat.add_sub_cancel]

end Scan

namespace Scanner

variable {m : Scanner} {input : String} {s : Scan} {before after : List Token} {token : Token}

/-! ### The tokens in turn -/

/-- A pass sees what the scanned tokens spell, and counts the characters of those that it has
passed. -/
theorem PassReaches.exists_before {scanned : Scan} (hscan : m.scan input = .ok scanned)
    {passed : Nat} {tokens : List Token} (h : m.PassReaches input passed s tokens) :
    s.input.toList = scanned.tokens.flatMap (·.text.toList) ∧
      ∃ before, scanned.tokens = before ++ tokens ∧
        passed = (before.flatMap (·.text.toList)).length := by
  refine passReaches_invariant (P := fun passed s tokens =>
    s.input.toList = scanned.tokens.flatMap (·.text.toList) ∧
      ∃ before, scanned.tokens = before ++ tokens ∧
        passed = (before.flatMap (·.text.toList)).length) ?_ ?_ h
  · intro s hs
    obtain rfl := Except.ok.inj (hs.symm.trans hscan)
    exact ⟨rfl, [], rfl, rfl⟩
  · rintro _ s token tokens u ⟨hinput, before, hsplit, rfl⟩ hu
    refine ⟨by rw [hu.input_eq, hinput], before ++ [token], ?_, ?_⟩
    · rw [hsplit, List.append_cons]
    · rw [List.flatMap_append, List.flatMap_singleton, List.length_append, String.length_toList]

/-- The let-rules are tried in a state on a scanned token, those before it having been passed and
those after it being still to come. -/
inductive TriesOn (m : Scanner) (input : String) :
    List Token → Token → List Token → Scan → Prop
  | intro {scanned s : Scan} {before after : List Token} {token : Token} {passed : Nat} :
      m.scan input = .ok scanned → scanned.tokens = before ++ token :: after →
      m.PassReaches input passed s (token :: after) →
      TriesOn m input before token after
        { s with index := passed + token.text.length - 1, token := token }

theorem PassReaches.exists_scanned {passed : Nat} {tokens : List Token}
    (h : m.PassReaches input passed s tokens) : ∃ scanned, m.scan input = .ok scanned := by
  induction h with
  | start hscan _ => exact ⟨_, hscan⟩
  | step _ _ ih => exact ih

/-- **The let-rules are tried on scanned tokens, and on nothing else.** -/
theorem triesLetRules_iff :
    m.TriesLetRules input s ↔ ∃ before token after, m.TriesOn input before token after s := by
  constructor
  · rintro ⟨hpass⟩
    obtain ⟨scanned, hscan⟩ := hpass.exists_scanned
    obtain ⟨_, before, hsplit, _⟩ := hpass.exists_before hscan
    exact ⟨before, _, _, .intro hscan hsplit hpass⟩
  · rintro ⟨before, token, after, h⟩
    obtain ⟨_, _, hpass⟩ := h
    exact .intro hpass

/-- A scanned token is not empty. -/
theorem text_ne_of_mem_tokens (hscan : m.scan input = .ok s) (h : token ∈ s.tokens) :
    token.text ≠ "" := by
  have hstart : (Scan.start input m.definitions).HasNoEmpty :=
    fun _ hmem => absurd hmem List.not_mem_nil
  exact ((maintains_hasNoEmpty m).scan hstart hscan).tokens token h

theorem exists_concat_of_mem_tokens (hscan : m.scan input = .ok s) (h : token ∈ s.tokens) :
    ∃ init c, token.text.toList = init ++ [c] := by
  rcases List.eq_nil_or_concat' token.text.toList with hnil | ⟨init, c, hconcat⟩
  · exact absurd (String.toList_inj.1 hnil) (text_ne_of_mem_tokens hscan h)
  · exact ⟨init, c, hconcat⟩

/-- The state stands before the last character of the token in what the scanned tokens spell. -/
theorem TriesOn.exists_append (h : m.TriesOn input before token after s) :
    ∃ init c, token.text.toList = init ++ [c] ∧
      s.input.toList = (before.flatMap (·.text.toList) ++ init) ++
        c :: after.flatMap (·.text.toList) ∧
      s.index = (before.flatMap (·.text.toList) ++ init).length := by
  obtain @⟨scanned, s, _, _, _, passed, hscan, hsplit, hpass⟩ := h
  have hmem : token ∈ scanned.tokens := hsplit ▸ List.mem_append_right _ List.mem_cons_self
  obtain ⟨init, c, htoken⟩ := exists_concat_of_mem_tokens hscan hmem
  obtain ⟨hinput, before', hsplit', hpassed⟩ := hpass.exists_before hscan
  obtain rfl : before' = before := List.append_cancel_right (hsplit'.symm.trans hsplit)
  refine ⟨init, c, htoken, ?_, ?_⟩
  · show s.input.toList = _
    rw [hinput, hsplit, List.flatMap_append, List.flatMap_cons, htoken]
    simp
  · show passed + token.text.length - 1 = _
    rw [hpassed, ← String.length_toList, htoken, List.length_append, List.length_append,
      List.length_singleton]
    rfl

/-- The call goes on from each of these states: the let-rules are tried there, and then on the tokens to
come. -/
theorem TriesOn.tokenize_eq (h : m.TriesOn input before token after s) :
    m.tokenize input =
      ((m.letStep s).bind fun t => m.letFrom (s.index + 1) t after).map Scan.tokens := by
  obtain @⟨scanned, s, _, _, _, passed, hscan, hsplit, hpass⟩ := h
  have hmem : token ∈ scanned.tokens := hsplit ▸ List.mem_append_right _ List.mem_cons_self
  obtain ⟨init, c, htoken⟩ := exists_concat_of_mem_tokens hscan hmem
  have hpos : 0 < token.text.length := by
    rw [← String.length_toList, htoken]
    simp
  have hstop : passed + token.text.length - 1 + 1 = passed + token.text.length := by omega
  rw [tokenize_of_passReaches hpass, letFrom]
  show _ = ((m.letStep _).bind fun t => m.letFrom (passed + token.text.length - 1 + 1) t after).map _
  rw [hstop]
  cases m.letStep { s with index := passed + token.text.length - 1, token := token } with
  | error => rfl
  | ok => rfl

/-- A call fails in its scan, or where the let-rules are tried. -/
theorem error_or_exists_triesOn {e : Error} (h : m.tokenize input = .error e) :
    m.scan input = .error e ∨
      ∃ before token after s, m.TriesOn input before token after s ∧ m.letStep s = .error e := by
  cases hscan : m.scan input with
  | error e' =>
    rw [tokenize, hscan] at h
    exact Or.inl (congrArg _ (Except.error.inj h))
  | ok scanned =>
    obtain ⟨passed, s, token, after, hpass, hstep⟩ := exists_letStep_error_of_tokenize_error hscan h
    obtain ⟨_, before, hsplit, _⟩ := hpass.exists_before hscan
    exact Or.inr ⟨before, token, after, _, .intro hscan hsplit hpass, hstep⟩

end Scanner

/-- **What the let-rules see fits the token that they are tried on**, with arbitrary hosts and in
calls that fail as well.  They are tried on the scanned tokens.  Meanwhile the token is in progress,
the current character is its last one, and the characters ahead are those of the scanned tokens after
it, up to the last.  The call goes on from there, and where it fails behind its scan, it fails there. -/
theorem letRules_see (m : Scanner) (input : String) :
    (∀ s, m.TriesLetRules input s ↔ ∃ before token after, m.TriesOn input before token after s) ∧
    (∀ before token after s, m.TriesOn input before token after s →
      (∃ scanned, m.scan input = .ok scanned ∧ scanned.tokens = before ++ token :: after) ∧
      s.token = token ∧
      (∃ init c, token.text.toList = init ++ [c] ∧ s.current? = some c) ∧
      (∀ j, 0 < j → s.ahead? j = (after.flatMap (·.text.toList))[j - 1]?) ∧
      m.tokenize input =
        ((m.letStep s).bind fun t => m.letFrom (s.index + 1) t after).map Scan.tokens) ∧
    (∀ passed s tokens, m.PassReaches input passed s tokens →
      m.tokenize input = (m.letFrom passed s tokens).map Scan.tokens) ∧
    ∀ e, m.tokenize input = .error e → m.scan input = .error e ∨
      ∃ before token after s, m.TriesOn input before token after s ∧ m.letStep s = .error e := by
  refine ⟨fun s => Scanner.triesLetRules_iff, fun before token after s h => ?_,
    fun passed s tokens h => Scanner.tokenize_of_passReaches h,
    fun e h => Scanner.error_or_exists_triesOn h⟩
  obtain ⟨init, c, htoken, hinput, hindex⟩ := h.exists_append
  refine ⟨?_, ?_, ⟨init, c, htoken, s.current?_of_append hinput hindex⟩, fun j hj => ?_,
    h.tokenize_eq⟩
  · obtain ⟨hscan, hsplit, _⟩ := h
    exact ⟨_, hscan, hsplit⟩
  · cases h
    rfl
  · exact s.ahead?_of_append hinput hindex hj

/-- Breaks at commas and exclamation marks.  Its hosts write another text for `ab` and for a comma,
which is cut at its breaks then, and `c` is joined to the token before. -/
def rewritingScanner : Scanner where
  isBreak c := c == ',' || c == '!'
  ifRules := []
  letRules := [⟨.letRule .be, .test .token (.text "ab"), 0,
      [.host ⟨"longer", fun _ => { token := ⟨"wxyz", .empty⟩ }⟩], ⟨0, "sample"⟩⟩,
    ⟨.letRule .expandGroup, .test .token (.text ","), 0,
      [.host ⟨"parts", fun _ => { token := ⟨"1,2", .empty⟩ }⟩], ⟨9, "sample"⟩⟩,
    ⟨.letRule .beGroup, .and (.test .token (.text "c")) (.test (.behind 1) (.text "2")), 1,
      [.tag "group"], ⟨18, "sample"⟩⟩]
  definitions := {}

theorem letRules_see_rewriting : ∃ s,
    rewritingScanner.TriesOn "ab,c!d" [⟨"ab", .empty⟩, ⟨",", .empty⟩, ⟨"c", .empty⟩] ⟨"!", .empty⟩
      [⟨"d", .empty⟩] s ∧
    s.tokens = [⟨"wxyz", .empty⟩, ⟨"1", .empty⟩, ⟨",", .empty⟩, ⟨"2c", .ofList ["group"]⟩] ∧
    s.current? = some '!' ∧ s.ahead? 1 = some 'd' ∧ s.ahead? 2 = none := by
  have hscan : rewritingScanner.scan "ab,c!d" = .ok
      { input := #['a', 'b', ',', 'c', '!', 'd'], index := 6,
        emitted := [⟨"d", .empty⟩, ⟨"!", .empty⟩, ⟨"c", .empty⟩, ⟨",", .empty⟩, ⟨"ab", .empty⟩] } := by
    cbv
  have hpass := Scanner.PassReaches.step
    (t := { input := #['a', 'b', ',', 'c', '!', 'd'], index := 1, emitted := [⟨"wxyz", .empty⟩] })
    (.start hscan rfl) (by cbv)
  have hpass := hpass.step
    (t := { input := #['a', 'b', ',', 'c', '!', 'd'], index := 2,
            emitted := [⟨"2", .empty⟩, ⟨",", .empty⟩, ⟨"1", .empty⟩, ⟨"wxyz", .empty⟩] }) (by cbv)
  have hpass := hpass.step
    (t := { input := #['a', 'b', ',', 'c', '!', 'd'], index := 3, lookBack := 1,
            emitted := [⟨"2c", .ofList ["group"]⟩, ⟨",", .empty⟩, ⟨"1", .empty⟩,
              ⟨"wxyz", .empty⟩] }) (by cbv)
  have htries : rewritingScanner.TriesOn "ab,c!d" [⟨"ab", .empty⟩, ⟨",", .empty⟩, ⟨"c", .empty⟩]
      ⟨"!", .empty⟩ [⟨"d", .empty⟩] _ := .intro hscan rfl hpass
  obtain ⟨_, hsees, _⟩ := letRules_see rewritingScanner "ab,c!d"
  obtain ⟨_, _, ⟨init, c, htoken, hcurrent⟩, hahead, _⟩ := hsees _ _ _ _ htries
  obtain rfl : '!' = c := by simpa using congrArg List.getLast? htoken
  exact ⟨_, htries, rfl, hcurrent, hahead 1 (by decide), hahead 2 (by decide)⟩

end RuleLexer
