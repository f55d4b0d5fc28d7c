import RuleLexer.Proofs.Conservation
import RuleLexer.Proofs.Scan.Simulation
import RuleLexer.Proofs.Scan.Stream

/-!
# Tags

Tags are there for the tests that ask for them.  Where no test does, the steps that set tags may be
left out (`Scanner.withoutTags`): **the texts of the tokens stay the same, and so does the error**
(`tokenize_withoutTags`).  The run without these steps is the other run with all tags forgotten, state
by state (`Scan.untagged`).
-/

namespace RuleLexer

/-! ### Rules without tags -/

def Step.isTag : Step → Bool
  | tag _ => true
  | _ => false

/-- The rule without the steps that set tags. -/
def Rule.withoutTags (r : Rule) : Rule :=
  { r with steps := r.steps.filter (!·.isTag) }

/-- The scanner without the steps that set tags. -/
def Scanner.withoutTags (m : Scanner) : Scanner :=
  { m with ifRules := m.ifRules.map Rule.withoutTags, letRules := m.letRules.map Rule.withoutTags }

/-- No operand of the predicate asks for a tag. -/
def Predicate.AsksNoTag (p : Predicate) : Prop :=
  ∀ target name, .test target (.tag name) ∉ p.leaves

/-- The rule calls no host. -/
def Rule.HostFree (r : Rule) : Prop :=
  r.predicate.HostFree ∧ ∀ step ∈ r.steps, step.HostFree

/-! ### States without tags -/

namespace Token

def untagged (t : Token) : Token :=
  { t with tags := .empty }

@[simp] theorem text_untagged (t : Token) : t.untagged.text = t.text := rfl

theorem expand_untagged (isBreak : Char → Bool) (t : Token) :
    t.untagged.expand isBreak = (t.expand isBreak).map untagged := by
  rw [expand, expand, List.map_map]
  rfl

end Token

namespace Scan

/-- The scan with all tags forgotten. -/
def untagged (s : Scan) : Scan :=
  { s with token := s.token.untagged, emitted := s.emitted.map Token.untagged }

variable (s : Scan)

theorem flush_untagged : s.untagged.flush = s.flush.untagged := by
  have hempty : s.token.untagged.isEmpty = s.token.isEmpty := rfl
  simp only [flush, untagged, hempty]
  split <;> rfl

theorem joinBehind_untagged : s.untagged.joinBehind = s.joinBehind.untagged := by
  have htexts : ∀ tokens : List Token,
      (tokens.map Token.untagged).map Token.text = tokens.map Token.text := by
    intro tokens
    rw [List.map_map]
    rfl
  simp only [joinBehind, untagged, ← List.map_take, ← List.map_reverse, htexts, ← List.map_drop]
  rfl

theorem tokens_untagged : s.untagged.tokens = s.tokens.map Token.untagged :=
  List.map_reverse.symm

theorem letStart_untagged : Scanner.letStart s.untagged = (Scanner.letStart s).untagged := by
  have htexts : s.untagged.tokens.flatMap (·.text.toList) = s.tokens.flatMap (·.text.toList) := by
    rw [tokens_untagged, List.flatMap_map]
    rfl
  simp only [Scanner.letStart, htexts]
  rfl

theorem behind?_untagged (distance : Nat) :
    s.untagged.behind? distance = (s.behind? distance).map Token.untagged := by
  simp only [behind?, untagged, List.getElem?_map]
  split <;> rfl

end Scan

/-- The second state is the first one with all tags forgotten. -/
def IsUntagged (s t : Scan) : Prop :=
  t = s.untagged

/-! ### Tests and actions -/

theorem Matcher.matchesToken_untagged {matcher : Matcher} (h : ∀ name, matcher ≠ .tag name)
    (t : Token) : matcher.matchesToken t.untagged = matcher.matchesToken t := by
  cases matcher with
  | pattern | text => rfl
  | tag name => exact absurd rfl (h name)

/-- **A test that asks for no tag does not tell the states apart.** -/
theorem Predicate.holds_untagged {p : Predicate} (hfree : p.HostFree) (htags : p.AsksNoTag)
    (s : Scan) : p.holds s.untagged = p.holds s := by
  induction p with
  | test target matcher =>
    have hmatcher : ∀ name, matcher ≠ .tag name := by
      rintro name rfl
      exact htags target name List.mem_cons_self
    cases target with
    | token => exact Matcher.matchesToken_untagged hmatcher s.token
    | character | ahead => rfl
    | behind distance =>
      show (s.untagged.behind? distance).any _ = (s.behind? distance).any _
      rw [Scan.behind?_untagged, Option.any_map]
      congr 1
      exact funext (Matcher.matchesToken_untagged hmatcher)
  | definition => rfl
  | host => exact hfree.elim
  | and l r ihl ihr | or l r ihl ihr =>
    have hl := ihl hfree.1 fun target name h => htags target name (List.mem_append_left _ h)
    have hr := ihr hfree.2 fun target name h => htags target name (List.mem_append_right _ h)
    simp only [holds, hl, hr]

theorem Step.apply_untagged {step : Step} (hfree : step.HostFree) (htag : step.isTag = false)
    (s : Scan) : step.apply s.untagged = (step.apply s).untagged := by
  cases step with
  | tag => exact Bool.noConfusion htag
  | host => exact hfree.elim
  | join count => exact Scan.joinBehind_untagged { s with lookBack := count }
  | _ => rfl

/-- **A rule and the rule without its tags.** -/
theorem Rule.mirrors_withoutTags {r : Rule} (hfree : r.HostFree) (htags : r.predicate.AsksNoTag) :
    r.Mirrors IsUntagged r.withoutTags where
  kind := rfl
  lookBack := rfl
  isMatch := by
    rintro s _ rfl
    exact Predicate.holds_untagged hfree.1 htags s
  run := by
    rintro s _ rfl
    refine runSteps_alike (R := IsUntagged) (s := { s with lookBack := r.lookBack, skip := 0 })
      (!·.isTag) ?_ ?_ rfl
    · rintro step hmem hkeep s _ rfl
      have htag : step.isTag = false := by simpa using hkeep
      refine ⟨?_, Step.apply_untagged (hfree.2 step hmem) htag s⟩
      cases step with
      | host => exact (hfree.2 _ hmem).elim
      | _ => rfl
    · intro step _ hdrop
      cases step with
      | tag name =>
        refine ⟨rfl, ?_⟩
        rintro s _ rfl
        exact ⟨rfl, rfl⟩
      | _ => simp [Step.isTag] at hdrop

theorem Rule.forall₂_withoutTags {rules : List Rule} (hfree : ∀ r ∈ rules, r.HostFree)
    (htags : ∀ r ∈ rules, r.predicate.AsksNoTag) :
    List.Forall₂ (Rule.Mirrors IsUntagged) rules (rules.map Rule.withoutTags) := by
  rw [List.forall₂_map_right_iff, List.forall₂_same]
  intro r hr
  exact mirrors_withoutTags (hfree r hr) (htags r hr)

/-! ### Whole runs -/

theorem eventsKeep_isUntagged : EventsKeep IsUntagged IsUntagged where
  push _ h := h ▸ rfl
  flush h := h ▸ Scan.flush_untagged _
  ofChar _ h := h ▸ rfl
  clear h := h ▸ rfl
  finish h := h
  skip h := h ▸ rfl
  advance h := h ▸ rfl

theorem passKeeps_isUntagged (isBreak : Char → Bool) :
    PassKeeps IsUntagged isBreak Token.untagged where
  text _ := rfl
  next _ _ h := h ▸ rfl
  flush h := h ▸ Scan.flush_untagged _
  join := by
    rintro s _ count rfl
    exact Scan.joinBehind_untagged { s with lookBack := count }
  expand := by
    rintro s _ rfl
    have hemitted : (s.token.untagged.expand isBreak).reverse ++ s.emitted.map Token.untagged =
        ((s.token.expand isBreak).reverse ++ s.emitted).map Token.untagged := by
      rw [Token.expand_untagged, List.map_append, List.map_reverse]
    exact congrArg (fun emitted => { s with token := {}, emitted := emitted }) hemitted

theorem tokenize_untagged {m : Scanner} (hfree : ∀ r ∈ m.rules, r.HostFree)
    (htags : ∀ r ∈ m.rules, r.predicate.AsksNoTag) (input : String) :
    EndAlike (fun ts us => us = ts.map Token.untagged) (m.tokenize input)
      (m.withoutTags.tokenize input) := by
  obtain ⟨hifFree, hletFree⟩ := List.forall_mem_append.1 hfree
  obtain ⟨hifTags, hletTags⟩ := List.forall_mem_append.1 htags
  have hifRules : List.Forall₂ (Rule.Mirrors IsUntagged) m.ifRules m.withoutTags.ifRules :=
    Rule.forall₂_withoutTags hifFree hifTags
  have hletRules : List.Forall₂ (Rule.Mirrors IsUntagged) m.letRules m.withoutTags.letRules :=
    Rule.forall₂_withoutTags hletFree hletTags
  have hscan : EndAlike IsUntagged (m.scan input) (m.withoutTags.scan input) := by
    refine EndAlike.map ?_ fun s t (h : IsUntagged s t) => eventsKeep_isUntagged.flush h
    refine Scanner.scanFrom_alike eventsKeep_isUntagged hifRules rfl ?_ _ _ rfl
    rintro s _ rfl
    exact ⟨rfl, rfl, rfl⟩
  refine hscan.bind ?_
  rintro s _ rfl
  refine Scanner.letPass_alike (passKeeps_isUntagged m.isBreak) hletRules rfl ?_ s.tokens_untagged
    s.letStart_untagged
  rintro u _ rfl
  exact u.tokens_untagged

/-- **Tags that no test asks for do not change the texts.**  Without the steps that set tags, a call
fails with the same error, or it cuts the text into the same tokens, without tags. -/
theorem tokenize_withoutTags (m : Scanner) (hfree : ∀ r ∈ m.rules, r.HostFree)
    (htags : ∀ r ∈ m.rules, r.predicate.AsksNoTag) (input : String) :
    (∃ e, m.tokenize input = .error e ∧ m.withoutTags.tokenize input = .error e) ∨
      ∃ ts us, m.tokenize input = .ok ts ∧ m.withoutTags.tokenize input = .ok us ∧
        us.map Token.text = ts.map Token.text ∧ ∀ u ∈ us, u.tags = .empty := by
  have halike := tokenize_untagged hfree htags input
  rcases halike.error_or_ok with ⟨e, herror, herror'⟩ | ⟨ts, us, hts, hus, rfl⟩
  · exact Or.inl ⟨e, herror, herror'⟩
  · refine Or.inr ⟨ts, _, hts, hus, ?_, ?_⟩
    · rw [List.map_map]
      rfl
    · intro u hu
      obtain ⟨t, _, rfl⟩ := List.mem_map.1 hu
      rfl

/-- Keeps a dash in its token, with a tag, and cuts `a-b` into parts then. -/
def taggingScanner : Scanner where
  isBreak c := !c.isAlpha
  ifRules := [⟨.ifThen, .test .character (.text "-"), 0, [.tag "dash", .fold], ⟨0, "sample"⟩⟩]
  letRules := [⟨.letRule .expandGroup, .test .token (.text "a-b"), 0, [.tag "part"], ⟨9, "sample"⟩⟩]
  definitions := {}

theorem tokenize_withoutTags_tagging :
    (∀ r ∈ taggingScanner.rules, r.HostFree) ∧
    (∀ r ∈ taggingScanner.rules, r.predicate.AsksNoTag) ∧
    taggingScanner.tokenize "a-b c" =
      .ok [⟨"a", .ofList ["dash", "part"]⟩, ⟨"-", .ofList ["dash", "part"]⟩,
        ⟨"b", .ofList ["dash", "part"]⟩, ⟨" ", .empty⟩, ⟨"c", .empty⟩] ∧
    ∃ us, taggingScanner.withoutTags.tokenize "a-b c" = .ok us ∧
      us.map Token.text = ["a", "-", "b", " ", "c"] ∧ ∀ u ∈ us, u.tags = .empty := by
  have hfree : ∀ r ∈ taggingScanner.rules, r.HostFree := by
    simp [taggingScanner, Scanner.rules, Rule.HostFree, Predicate.HostFree, Step.HostFree]
  have htags : ∀ r ∈ taggingScanner.rules, r.predicate.AsksNoTag := by
    simp [taggingScanner, Scanner.rules, Predicate.AsksNoTag, Predicate.leaves]
  have hrun : taggingScanner.tokenize "a-b c" =
      .ok [⟨"a", .ofList ["dash", "part"]⟩, ⟨"-", .ofList ["dash", "part"]⟩,
        ⟨"b", .ofList ["dash", "part"]⟩, ⟨" ", .empty⟩, ⟨"c", .empty⟩] := by cbv
  refine ⟨hfree, htags, hrun, ?_⟩
  rcases tokenize_withoutTags taggingScanner hfree htags "a-b c" with
    ⟨e, he, _⟩ | ⟨ts, us, hts, hus, htexts, hempty⟩
  · exact absurd (hrun.symm.trans he) (by simp)
  · obtain rfl := Except.ok.inj (hrun.symm.trans hts)
    exact ⟨us, hus, htexts, hempty⟩

end RuleLexer
