import RuleLexer.Proofs.View

/-!
# Tokens that no let-rule matches

The pass over the scanned tokens takes each of them out of the scan and emits it again, and a token
without text would be lost on the way.  A scanned token is not empty, so **a token that no let-rule
matches comes back as it was** (`letStep_of_unmatched`).

`pass_unmatched` says what follows: the pass is the identity where no rule matches, leaving it out
where there are no let-rules makes no difference, and up to the first token that a rule matches, what
the rules see behind a token are the scanned tokens before it.
-/

namespace RuleLexer

namespace Scanner

variable {m : Scanner} {input : String} {s : Scan} {before after tokens : List Token} {token : Token}

/-- No let-rule matches one of the first `n` scanned tokens. -/
def Unmatched (m : Scanner) (input : String) (n : Nat) : Prop :=
  ∀ before token after s, m.TriesOn input before token after s → before.length < n →
    findMatch m.letRules s = none

/-- A token that no let-rule matches is emitted as it is. -/
theorem letStep_of_unmatched (hmatch : findMatch m.letRules s = none) (hne : s.token.text ≠ "") :
    ∃ t, m.letStep s = .ok t ∧ t.tokens = s.tokens ++ [s.token] := by
  have hempty : ¬ s.token.isEmpty = true := by simpa [Token.isEmpty] using hne
  refine ⟨s.flush, ?_, ?_⟩
  · rw [letStep, hmatch]
  · rw [Scan.tokens_flush, if_neg hempty]

/-- Rules that match nowhere leave all tokens as they are. -/
theorem letFrom_of_unmatched (hmatch : ∀ s, findMatch m.letRules s = none) :
    ∀ {tokens : List Token} {passed : Nat} {s : Scan}, (∀ token ∈ tokens, token.text ≠ "") →
      (m.letFrom passed s tokens).map Scan.tokens = .ok (s.tokens ++ tokens) := by
  intro tokens
  induction tokens with
  | nil =>
    intro passed s _
    rw [letFrom, List.append_nil]
    rfl
  | cons token tokens ih =>
    intro passed s hne
    rw [List.forall_mem_cons] at hne
    obtain ⟨t, ht, htokens⟩ := letStep_of_unmatched (m := m)
      (s := { s with index := passed + token.text.length - 1, token := token }) (hmatch _) hne.1
    rw [letFrom, ht]
    show (m.letFrom _ t tokens).map Scan.tokens = _
    rw [ih hne.2, htokens, List.append_assoc]
    rfl

/-! ### The first tokens of a pass -/

theorem Unmatched.mono {k n : Nat} (h : m.Unmatched input n) (hk : k ≤ n) : m.Unmatched input k :=
  fun before token after s hs hlt => h before token after s hs (Nat.lt_of_lt_of_le hlt hk)

/-- A scanned token that no rule matches is emitted behind those before it. -/
theorem PassReaches.letStep_of_unmatched {scanned : Scan} {passed : Nat}
    (h : m.PassReaches input passed s (token :: after)) (hscan : m.scan input = .ok scanned)
    (hsplit : scanned.tokens = before ++ token :: after)
    (hun : m.Unmatched input (before ++ [token]).length) :
    ∃ t, m.letStep { s with index := passed + token.text.length - 1, token := token } = .ok t ∧
      t.tokens = s.tokens ++ [token] := by
  have hmatch := hun before token after _ (.intro hscan hsplit h) (by simp)
  have hmem : token ∈ scanned.tokens := hsplit ▸ List.mem_append_right _ List.mem_cons_self
  exact Scanner.letStep_of_unmatched hmatch (text_ne_of_mem_tokens hscan hmem)

/-- The pass comes behind tokens that no rule matches. -/
theorem exists_passReaches_of_unmatched {scanned : Scan} (hscan : m.scan input = .ok scanned)
    (hrules : m.letRules ≠ []) : ∀ {before tokens : List Token}, scanned.tokens = before ++ tokens →
      m.Unmatched input before.length → ∃ passed s, m.PassReaches input passed s tokens := by
  intro before
  induction before using List.reverseRecOn with
  | nil =>
    intro tokens hsplit _
    have hempty : m.letRules.isEmpty = false := by simpa using hrules
    rw [List.nil_append] at hsplit
    exact ⟨0, letStart scanned, hsplit ▸ .start hscan hempty⟩
  | append_singleton before token ih =>
    intro tokens hsplit hun
    rw [List.append_assoc, List.singleton_append] at hsplit
    obtain ⟨passed, s, hpass⟩ := ih hsplit (hun.mono (by simp))
    obtain ⟨t, ht, _⟩ := hpass.letStep_of_unmatched hscan hsplit hun
    exact ⟨_, t, .step hpass ht⟩

/-- **Behind tokens that no rule matches these are the emitted ones**, as they were scanned. -/
theorem PassReaches.tokens_eq {scanned : Scan} (hscan : m.scan input = .ok scanned) {passed : Nat}
    (h : m.PassReaches input passed s tokens) : ∀ {before : List Token},
      scanned.tokens = before ++ tokens → m.Unmatched input before.length → s.tokens = before := by
  induction h with
  | @start s hs _ =>
    intro before hsplit _
    obtain rfl := Except.ok.inj (hs.symm.trans hscan)
    obtain rfl : [] = before := List.append_cancel_right hsplit
    rfl
  | @step passed s t token tokens hpass hstep ih =>
    intro before hsplit hun
    obtain ⟨_, before', hsplit', _⟩ := hpass.exists_before hscan
    obtain rfl : before' ++ [token] = before :=
      List.append_cancel_right ((List.append_cons _ _ _).symm.trans (hsplit'.symm.trans hsplit))
    have hs : s.tokens = before' := ih hsplit' (hun.mono (by simp))
    obtain ⟨t', ht, htokens⟩ := hpass.letStep_of_unmatched hscan hsplit' hun
    obtain rfl := Except.ok.inj (hstep.symm.trans ht)
    rw [htokens, hs]

end Scanner

/-- **The pass over the scanned tokens is the identity where nothing matches**, with arbitrary hosts.
Without let-rules it is left out, which is what it would come to.  Where no let-rule matches the first
tokens, the rules are tried on the token behind them, and these tokens are what they look back at. -/
theorem pass_unmatched (m : Scanner) (input : String) (scanned : Scan)
    (hscan : m.scan input = .ok scanned) :
    ((∀ s, m.TriesLetRules input s → findMatch m.letRules s = none) →
      m.tokenize input = .ok scanned.tokens) ∧
    (m.letRules = [] → m.letPass scanned = .ok scanned.tokens ∧
      (m.letFrom 0 (Scanner.letStart scanned) scanned.tokens).map Scan.tokens =
        .ok scanned.tokens) ∧
    ∀ before token after, scanned.tokens = before ++ token :: after → m.letRules ≠ [] →
      m.Unmatched input before.length →
      (∃ s, m.TriesOn input before token after s) ∧
      ∀ s, m.TriesOn input before token after s → s.tokens = before := by
  refine ⟨fun hmatch => ?_, fun hrules => ?_, fun before token after hsplit hrules hun => ?_⟩
  · by_cases hrules : m.letRules = []
    · rw [Scanner.tokenize, hscan]
      show m.letPass scanned = _
      rw [Scanner.letPass, hrules]
      rfl
    · have hun : m.Unmatched input scanned.tokens.length := fun _ _ _ s hs _ =>
        hmatch s (Scanner.triesLetRules_iff.2 ⟨_, _, _, hs⟩)
      have hsplit : scanned.tokens = scanned.tokens ++ [] := (List.append_nil _).symm
      obtain ⟨passed, s, hpass⟩ := Scanner.exists_passReaches_of_unmatched hscan hrules hsplit hun
      rw [Scanner.tokenize_of_passReaches hpass, Scanner.letFrom]
      exact congrArg Except.ok (hpass.tokens_eq hscan hsplit hun)
  · have hpass : m.letPass scanned = .ok scanned.tokens := by
      rw [Scanner.letPass, hrules]
      rfl
    have hmatch : ∀ s, findMatch m.letRules s = none := fun s => by rw [hrules]; rfl
    refine ⟨hpass, ?_⟩
    rw [Scanner.letFrom_of_unmatched hmatch fun _ => Scanner.text_ne_of_mem_tokens hscan]
    rfl
  · obtain ⟨passed, s, hpass⟩ := Scanner.exists_passReaches_of_unmatched hscan hrules hsplit hun
    refine ⟨⟨_, .intro hscan hsplit hpass⟩, fun u hu => ?_⟩
    obtain @⟨_, _, _, _, _, _, hscan', _, hpass'⟩ := hu
    exact hpass'.tokens_eq hscan hsplit hun

/-- Breaks at commas and exclamation marks, and tags an exclamation mark behind a `b`. -/
def closingScanner : Scanner where
  isBreak c := c == ',' || c == '!'
  ifRules := []
  letRules := [⟨.letRule .be, .and (.test .token (.text "!")) (.test (.behind 1) (.text "b")), 1,
    [.tag "end"], ⟨0, "sample"⟩⟩]
  definitions := {}

theorem pass_unmatched_closing :
    closingScanner.tokenize "a,b" = .ok [⟨"a", .empty⟩, ⟨",", .empty⟩, ⟨"b", .empty⟩] ∧
    (∃ s, closingScanner.TriesOn "a,b!c" [⟨"a", .empty⟩, ⟨",", .empty⟩, ⟨"b", .empty⟩]
      ⟨"!", .empty⟩ [⟨"c", .empty⟩] s ∧
      s.tokens = [⟨"a", .empty⟩, ⟨",", .empty⟩, ⟨"b", .empty⟩]) ∧
    closingScanner.tokenize "a,b!c" = .ok [⟨"a", .empty⟩, ⟨",", .empty⟩, ⟨"b", .empty⟩,
      ⟨"!", .ofList ["end"]⟩, ⟨"c", .empty⟩] := by
  have hmiss : ∀ s : Scan, s.token.text ≠ "!" → findMatch closingScanner.letRules s = none := by
    intro s hs
    simp [findMatch, closingScanner, Rule.isMatch, Predicate.holds, Matcher.matchesTarget,
      Matcher.matchesToken, Ne.symm hs]
  have hfirst : closingScanner.scan "a,b" = .ok
      { input := #['a', ',', 'b'], index := 3,
        emitted := [⟨"b", .empty⟩, ⟨",", .empty⟩, ⟨"a", .empty⟩] } := by cbv
  have hsecond : closingScanner.scan "a,b!c" = .ok
      { input := #['a', ',', 'b', '!', 'c'], index := 5,
        emitted := [⟨"c", .empty⟩, ⟨"!", .empty⟩, ⟨"b", .empty⟩, ⟨",", .empty⟩,
          ⟨"a", .empty⟩] } := by cbv
  have hnone : ∀ t ∈ [(⟨"a", .empty⟩ : Token), ⟨",", .empty⟩, ⟨"b", .empty⟩], t.text ≠ "!" := by
    decide
  have hun : closingScanner.Unmatched "a,b!c" 3 := by
    intro before token after s h hlt
    obtain ⟨hscan, hsplit, _⟩ := h
    obtain rfl := Except.ok.inj (hsecond.symm.trans hscan)
    obtain ⟨k, hk⟩ := Nat.exists_eq_add_of_lt hlt
    have hmem : token ∈ (before ++ token :: after).take 3 := by
      rw [hk, Nat.add_assoc, List.take_length_add_append, List.take_succ_cons]
      simp
    rw [← hsplit] at hmem
    exact hmiss _ (hnone token hmem)
  refine ⟨(pass_unmatched _ _ _ hfirst).1 fun s hs => ?_, ?_, by cbv⟩
  · obtain ⟨before, token, after, h⟩ := Scanner.triesLetRules_iff.1 hs
    obtain ⟨hscan, hsplit, _⟩ := h
    obtain rfl := Except.ok.inj (hfirst.symm.trans hscan)
    have hmem : token ∈ before ++ token :: after := List.mem_append_right _ List.mem_cons_self
    rw [← hsplit] at hmem
    exact hmiss _ (hnone token hmem)
  · obtain ⟨⟨s, hs⟩, hall⟩ := (pass_unmatched _ _ _ hsecond).2.2
      [⟨"a", .empty⟩, ⟨",", .empty⟩, ⟨"b", .empty⟩] ⟨"!", .empty⟩ [⟨"c", .empty⟩] rfl
      (List.cons_ne_nil _ _) hun
    exact ⟨s, hs, hall s hs⟩

end RuleLexer
