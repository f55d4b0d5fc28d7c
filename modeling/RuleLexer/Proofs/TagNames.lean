import RuleLexer.Proofs.Clause.Cover
import RuleLexer.Proofs.Rule.LeadingTag
import RuleLexer.Proofs.WellFormed

/-!
# Where tags come from

Tokens begin without tags, and only the steps of rules change them.  So **what the steps keep of the
tags holds of every token that a call returns** (`Scanner.tags_of_tokenize`): whether it is cut off,
joined with others or cut into parts, a token has the tags that were set while it was in progress.

Where no host is called, the tags are those that actions name.  In a clause such a name is a word, and
so is the name of the tag that is cut off an action; hence **the tags of all tokens are words**
(`areNames_of_tokenize`).
-/

namespace RuleLexer

/-! ### What steps keep of the tags -/

/-- The step keeps a property of the tags of the token in progress. -/
def Step.KeepsTags (P : TagSet → Prop) (step : Step) : Prop :=
  ∀ s : Scan, P s.token.tags → P (step.apply s).token.tags

/-- The token in progress and the emitted ones have tags with a property. -/
structure Scan.TagsHave (P : TagSet → Prop) (s : Scan) : Prop where
  token : P s.token.tags
  emitted : ∀ t ∈ s.emitted, P t.tags

section

variable {P : TagSet → Prop} {s t u : Scan} {m : Scanner}

namespace Scan.TagsHave

theorem flush (hempty : P .empty) (hs : s.TagsHave P) : s.flush.TagsHave P := by
  refine ⟨hempty, fun token htoken => ?_⟩
  rcases Scan.mem_emitted_flush htoken with htoken | ⟨rfl, _⟩
  · exact hs.emitted token htoken
  · exact hs.token

/-- Joined tokens leave their texts only. -/
theorem joinBehind (hs : s.TagsHave P) : s.joinBehind.TagsHave P :=
  ⟨hs.token, fun token htoken => hs.emitted token (List.mem_of_mem_drop htoken)⟩

/-- The parts of a token have its tags. -/
theorem expand (hempty : P .empty) (isBreak : Char → Bool) (hs : s.TagsHave P) :
    { s with
      token := {}, emitted := (s.token.expand isBreak).reverse ++ s.emitted }.TagsHave P := by
  refine ⟨hempty, fun token htoken => ?_⟩
  rcases List.mem_append.1 htoken with hpart | htoken
  · obtain ⟨run, _, rfl⟩ := List.mem_map.1 (List.mem_reverse.1 hpart)
    exact hs.token
  · exact hs.emitted token htoken

theorem apply {step : Step} (hstep : step.KeepsTags P) (hs : s.TagsHave P) :
    (step.apply s).TagsHave P := by
  refine ⟨hstep s hs.token, ?_⟩
  cases step with
  | join count =>
    have hcount : { s with lookBack := count }.TagsHave P := ⟨hs.token, hs.emitted⟩
    exact hcount.joinBehind.emitted
  | _ => exact hs.emitted

theorem run {r : Rule} (hr : ∀ step ∈ r.steps, step.KeepsTags P) {flow : Flow}
    (h : r.run s = (t, .ok flow)) (hs : s.TagsHave P) : t.TagsHave P :=
  run_invariant (P := Scan.TagsHave P) (fun _ _ _ hu => ⟨hu.token, hu.emitted⟩)
    (fun step hstep _ _ hu => hu.apply (hr step hstep)) h hs

end Scan.TagsHave

/-! ### What calls keep of the tags -/

namespace Scanner

variable (hempty : P .empty) (hrules : ∀ r ∈ m.rules, ∀ step ∈ r.steps, step.KeepsTags P)

include hrules in
theorem tagsHave_runChain {flow : Flow} (h : runChain m.ifRules s = (t, .ok flow))
    (hs : s.TagsHave P) : t.TagsHave P :=
  runChain_invariant (P := Scan.TagsHave P)
    (fun r hr _ _ _ hrun hu => hu.run (hrules r (List.mem_append_left _ hr)) hrun) h hs

include hempty hrules in
/-- Taking a character. -/
theorem tagsHave_takes {c : Char} (h : m.Takes c s t) (hs : s.TagsHave P) : t.TagsHave P := by
  have second : ∀ {u v : Scan} {flow : Flow}, runChain m.ifRules s = (u, .ok .proceed) →
      runChain m.ifRules { u.flush with token := .ofChar c } = (v, .ok flow) → v.TagsHave P := by
    intro u v flow hu hv
    have hflush := (tagsHave_runChain hrules hu hs).flush hempty
    exact tagsHave_runChain hrules hv ⟨hempty, hflush.emitted⟩
  cases h with
  | plain => exact ⟨hs.token, hs.emitted⟩
  | fold _ hu | skip _ hu =>
    have hchain := tagsHave_runChain hrules hu hs
    exact ⟨hchain.token, hchain.emitted⟩
  | hold _ hu hv =>
    have hchain := second hu hv
    exact ⟨hchain.token, hchain.emitted⟩
  | drop _ hu hv => exact ⟨hempty, (second hu hv).emitted⟩
  | emit _ hu hv =>
    have hflush := (second hu hv).flush hempty
    exact ⟨hflush.token, hflush.emitted⟩

include hempty hrules in
/-- Passing a token. -/
theorem tagsHave_passes (h : m.Passes s t) (hs : s.TagsHave P) : t.TagsHave P := by
  have run : ∀ {r : Rule} {u v : Scan} {flow : Flow}, findMatch m.letRules s = some r →
      r.run u = (v, .ok flow) → u.TagsHave P → v.TagsHave P :=
    fun hm hr hu => hu.run (hrules _ (mem_rules_of_findMatch_letRules hm)) hr
  cases h with
  | same => exact hs.flush hempty
  | edit hm _ hr => exact (run hm hr hs).flush hempty
  | @group r _ _ hm _ hr =>
    have hjoined : { s with lookBack := r.lookBack }.joinBehind.TagsHave P :=
      Scan.TagsHave.joinBehind ⟨hs.token, hs.emitted⟩
    exact (run hm hr hjoined).flush hempty
  | expand hm _ hr => exact (run hm hr hs).expand hempty m.isBreak

include hempty hrules in
/-- **What the steps of all rules keep of the tags holds of the tags of every token.** -/
theorem tags_of_tokenize {input : String} {ts : List Token} (h : m.tokenize input = .ok ts) :
    ∀ t ∈ ts, P t.tags := by
  have hstart : (Scan.start input m.definitions).TagsHave P :=
    ⟨hempty, fun _ ht => absurd ht List.not_mem_nil⟩
  have hscanned : ∀ s, m.scan input = .ok s → ∀ t ∈ s.tokens, P t.tags := by
    intro s hs
    obtain ⟨u, hu, rfl⟩ := exists_of_map_eq_ok hs
    have hend : u.TagsHave P := (scanFrom_invariant
      (fun _ _ _ _ htakes hv => tagsHave_takes hempty hrules htakes hv) hu hstart).1
    exact fun t ht => (hend.flush hempty).emitted t (List.mem_reverse.1 ht)
  rcases exists_scan_or_passReaches_of_tokenize h with ⟨s, hs, rfl⟩ | ⟨all, s, hs, rfl⟩
  · exact hscanned s hs
  · -- the tokens to come were scanned, and those that were passed are emitted
    obtain ⟨hpassed, _⟩ := passReaches_invariant
      (P := fun _ u tokens => (∀ t ∈ u.emitted, P t.tags) ∧ ∀ t ∈ tokens, P t.tags)
      (fun u hu => ⟨fun _ ht => absurd ht List.not_mem_nil, hscanned u hu⟩)
      (fun _ u token tokens v hu hpasses => by
        obtain ⟨hemitted, htokens⟩ := hu
        obtain ⟨htoken, htokens⟩ := List.forall_mem_cons.1 htokens
        exact ⟨(tagsHave_passes hempty hrules hpasses ⟨htoken, hemitted⟩).emitted, htokens⟩) hs
    exact fun t ht => hpassed t (List.mem_reverse.1 ht)

end Scanner

end

/-! ### Tags of actions -/

/-- The name of a tag in a clause: a word. -/
def IsTagName (name : String) : Prop :=
  name ≠ "" ∧ ∀ c ∈ name.toList, Unicode.isWord c = true

instance (name : String) : Decidable (IsTagName name) :=
  inferInstanceAs (Decidable (_ ∧ _))

/-- A tag that the step sets is a word. -/
def Step.SetsTagName : Step → Prop
  | tag name => IsTagName name
  | _ => True

theorem isTagName_of_isLexeme {name text : List Char} (h : Clause.IsLexeme .tag name text) :
    IsTagName (String.ofList name) := by
  obtain ⟨hne, hname, _⟩ := h.of_tag
  refine ⟨fun he => hne ?_, ?_⟩
  · rwa [← String.toList_inj, String.toList_ofList] at he
  · rwa [String.toList_ofList]

namespace Action

variable {kind : RuleKind} {lookBack : Nat} {scope : Scope} {steps : List Step}

/-- **The tags that an action sets are words.** -/
theorem setsTagName_of_read {clause : String} (h : read kind lookBack scope clause = .ok steps) :
    ∀ step ∈ steps, step.SetsTagName := by
  by_cases hkind : kind = .letRule .throw
  · subst hkind
    obtain ⟨message, rfl⟩ := exists_eq_throw_of_read h
    exact List.forall_mem_singleton.2 trivial
  · rw [read_eq hkind] at h
    cases hclause : Clause.read clause with
    | error fault => simp [hclause, Except.bind] at h
    | ok ts =>
      rw [hclause] at h
      intro step hstep
      obtain ⟨us, hsub, hus⟩ := (denotes_of_steps h).1.exists_isStep step hstep
      cases hus with
      | @tag t name ht hname =>
        have hmem : t ∈ ts := hsub List.mem_cons_self
        obtain ⟨_, _, _, _, _, hlexeme, _⟩ :=
          Clause.exists_lexeme_of_mem hclause hmem (by simp [ht])
        rw [ht] at hlexeme
        have hword := isTagName_of_isLexeme hlexeme
        rwa [String.ofList_toList, hname] at hword
      | _ => exact trivial

end Action

/-- So is the tag that is cut off an action. -/
theorem Rule.isTagName_of_splitLeadingTag {action name : List Char}
    (h : (splitLeadingTag action).1 = some name) : IsTagName (String.ofList name) := by
  rcases splitLeadingTag_cases action with hnone | ⟨_, name', _, hsome, _, _, hlexeme, _⟩
  · simp [hnone] at h
  · rw [hsome] at h
    obtain rfl := Option.some.inj h
    exact isTagName_of_isLexeme hlexeme

theorem Source.setsTagName_of_steps {scope : Scope} {lookBack : Nat} {source : Source}
    {steps : List Step} (h : source.steps scope lookBack = .ok steps) :
    ∀ step ∈ steps, step.SetsTagName := by
  cases source with
  | ifRule rule =>
    obtain ⟨rest, hrest, rfl⟩ := exists_of_map_eq_ok h
    intro step hstep
    rcases List.mem_append.1 hstep with htag | hstep
    · obtain ⟨name, hname, rfl⟩ := Option.map_eq_some_iff.1 (Option.mem_toList.1 htag)
      exact Rule.isTagName_of_splitLeadingTag hname
    · exact Action.setsTagName_of_read hrest step hstep
  | letRule rule => exact Action.setsTagName_of_read h

/-! ### Tags of tokens -/

/-- No rule has a step that calls a host. -/
def Scanner.ActsAlone (m : Scanner) : Prop :=
  ∀ r ∈ m.rules, ∀ step ∈ r.steps, step.HostFree

/-- All tags are words. -/
def TagSet.AreNames (tags : TagSet) : Prop :=
  ∀ name ∈ tags.names, IsTagName name

theorem Step.keepsTags_of_setsTagName {step : Step} (h : step.SetsTagName) (hfree : step.HostFree) :
    step.KeepsTags TagSet.AreNames := by
  intro s hs
  cases step with
  | host => exact hfree.elim
  | skipToken => exact fun name hname => absurd hname List.not_mem_nil
  | tag name =>
    intro other hother
    rcases TagSet.mem_insertName.1 hother with rfl | hother
    · exact h
    · exact hs other hother
  | _ => exact hs

namespace Specification

variable {spec : Specification} {hosts : HostRegistry} {m : Scanner}

theorem setsTagName_scanner [Regex.Engine] (h : spec.scanner hosts = .ok m) :
    ∀ r ∈ m.rules, ∀ step ∈ r.steps, step.SetsTagName := by
  intro r hr
  obtain ⟨source, hsource⟩ := exists_source_of_mem_rules h hr
  exact Source.setsTagName_of_steps (Source.exists_of_compile hsource).2.2

/-- Without registered action callbacks no step calls one. -/
theorem actsAlone_scanner [Regex.Engine] (h : spec.scanner hosts = .ok m)
    (hnone : hosts.actions = []) : m.ActsAlone := by
  intro r hr step hstep
  obtain ⟨source, hsource⟩ := exists_source_of_mem_rules h hr
  cases (Source.hasTest_of_compile hsource).exists_read.2 step hstep with
  | host hhost => simp [scope, Scope.ofDefinitions, HostRegistry.action?, hnone] at hhost
  | _ => exact trivial

end Specification

/-- **The tags of all tokens are words**, where no host is called. -/
theorem areNames_of_tokenize [Regex.Engine] {spec : Specification} {hosts : HostRegistry}
    {m : Scanner} (h : spec.scanner hosts = .ok m) (halone : m.ActsAlone) {input : String}
    {ts : List Token} (hts : m.tokenize input = .ok ts) : ∀ t ∈ ts, t.tags.AreNames := by
  have hrules : ∀ r ∈ m.rules, ∀ step ∈ r.steps, step.KeepsTags TagSet.AreNames :=
    fun r hr step hstep => Step.keepsTags_of_setsTagName
      (Specification.setsTagName_scanner h r hr step hstep) (halone r hr step hstep)
  exact Scanner.tags_of_tokenize (fun _ hname => absurd hname List.not_mem_nil) hrules hts

end RuleLexer
