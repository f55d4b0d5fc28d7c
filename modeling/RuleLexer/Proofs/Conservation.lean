import RuleLexer.Proofs.Scan.Overflow
import RuleLexer.Proofs.Scan.Texts
import RuleLexer.Proofs.Text.Runs

/-!
# Conservation of the text

What the tokens of a text spell, compared with the text.  The rules and the break pattern are
arbitrary; of the host actions it is asked that they leave the text of the token in progress alone
(`Scanner.HostsKeepText`).

* `spelled_tokenize_sublist`: **nothing is invented, doubled or moved.**  Whatever is skipped and
  joined, the tokens that a call returns spell a part of the text, in order.
* `tokenize_groups_runs`: **without `skip`, rules only glue.**  The texts of the tokens are those of
  consecutive groups of pieces of the plain split `Text.runs`.

Both follow the same way: an invariant of the scan that ties the state to the text, what one
character does to it (`Takes`), and what passing one token does to it (`Passes`).  For the first the
invariant is that what is spelled and what is left to read is a part of the text; for the second it
is `Scan.KeepsSplit`, that the splits of all these texts, end to end, are the split of the whole.
-/

namespace RuleLexer

open Text (runs MeetAtBreak)

namespace Scanner

def rules (m : Scanner) : List Rule :=
  m.ifRules ++ m.letRules

/-- No rule has a step that skips. -/
def NeverSkips (m : Scanner) : Prop :=
  ∀ r ∈ m.rules, ∀ step ∈ r.steps, step.skips = false

/-- The host actions of all rules leave the text of the token in progress alone. -/
def HostsKeepText (m : Scanner) : Prop :=
  ∀ r ∈ m.rules, ∀ step ∈ r.steps, step.KeepsText

variable {m : Scanner}

theorem mem_rules_of_findMatch_letRules {s : Scan} {r : Rule}
    (h : findMatch m.letRules s = some r) : r ∈ m.rules :=
  List.mem_append_right _ (mem_of_findMatch h)

end Scanner

namespace Scan

theorem spelled_push (s : Scan) (c : Char) : (s.push c).spelled = s.spelled ++ [c] := by
  show s.texts.flatten ++ (s.token.text.push c).toList = _
  rw [String.toList_push, spelled, List.append_assoc]

/-- With no token in progress the emitted tokens spell all. -/
theorem flatten_texts_flush (s : Scan) : s.flush.texts.flatten = s.spelled := by
  rw [← spelled_flush]
  exact (List.append_nil _).symm

theorem spelled_flush_ofChar (s : Scan) (c : Char) :
    { s.flush with token := .ofChar c }.spelled = s.spelled ++ [c] := by
  show s.flush.texts.flatten ++ (String.singleton c).toList = _
  rw [flatten_texts_flush, String.toList_singleton]

/-- A chain leaves what is left to read behind the current character as it is. -/
theorem rest_advance_of_runChain {rules : List Rule} {s t : Scan} {r : Except Error Flow}
    (h : runChain rules s = (t, r)) : t.advance.rest = s.advance.rest := by
  obtain ⟨hi, hx⟩ := Scanner.runChain_keeps h
  show t.input.toList.drop (t.index + 1) = s.input.toList.drop (s.index + 1)
  rw [hi, hx]

/-- Cutting the token in progress at its breaks emits the pieces of its split. -/
theorem texts_expand (isBreak : Char → Bool) (s : Scan) :
    { s with token := {}, emitted := (s.token.expand isBreak).reverse ++ s.emitted }.texts =
      s.texts ++ runs isBreak s.token.text.toList := by
  simp [texts, tokens, Token.expand_eq_runs, Function.comp_def]

end Scan

open Scan

/-! ### Nothing is invented -/

section Sublist

variable {m : Scanner} (hk : m.HostsKeepText)

include hk

theorem spelled_runChain_sublist {s t : Scan} {flow : Flow}
    (h : runChain m.ifRules s = (t, .ok flow)) : t.spelled.Sublist s.spelled :=
  runChain_invariant (P := fun u => u.spelled.Sublist s.spelled)
    (fun r hr _ _ _ hrun hu =>
      (spelled_run_sublist (hk r (List.mem_append_left _ hr)) hrun).trans hu) h (.refl _)

/-- Taking a character leaves a part of what was spelled and left to read before. -/
theorem spelled_takes_sublist {c : Char} {s t : Scan} (hc : s.input[s.index]? = some c)
    (h : m.Takes c s t) : (t.spelled ++ t.rest).Sublist (s.spelled ++ s.rest) := by
  -- In every case the texts get at most `c`, and what is left is behind `c`.
  have bound : ∀ {x y : List Char}, x.Sublist (s.spelled ++ [c]) → y.Sublist s.advance.rest →
      (x ++ y).Sublist (s.spelled ++ s.rest) := by
    intro x y hx hy
    rw [rest_of_getElem? hc, List.append_cons]
    exact hx.append hy
  have first : ∀ {u : Scan} {flow : Flow}, runChain m.ifRules s = (u, .ok flow) →
      (u.spelled ++ [c]).Sublist (s.spelled ++ [c]) := fun hu =>
    (spelled_runChain_sublist hk hu).append_right [c]
  have second : ∀ {u v : Scan} {flow flow' : Flow}, runChain m.ifRules s = (u, .ok flow) →
      runChain m.ifRules { u.flush with token := .ofChar c } = (v, .ok flow') →
      v.spelled.Sublist (s.spelled ++ [c]) ∧ v.advance.rest = s.advance.rest := by
    intro u v flow flow' hu hv
    have hrv := rest_advance_of_runChain hv
    have hru := rest_advance_of_runChain hu
    refine ⟨?_, hrv.trans hru⟩
    refine (spelled_runChain_sublist hk hv).trans ?_
    rw [spelled_flush_ofChar]
    exact first hu
  cases h with
  | plain _ => exact bound (spelled_push s c ▸ .refl _) (.refl _)
  | @fold u _ hu =>
    exact bound (spelled_push u c ▸ first hu) (rest_advance_of_runChain hu ▸ .refl _)
  | @skip u _ hu =>
    have hs : u.spelled.Sublist (s.spelled ++ [c]) :=
      (List.sublist_append_left _ _).trans (first hu)
    exact bound (x := u.consumeSkipped.advance.spelled) hs
      (rest_advance_of_runChain hu ▸ rest_consumeSkipped_sublist u)
  | hold _ hu hv =>
    obtain ⟨hs, hr⟩ := second hu hv
    exact bound hs (hr ▸ .refl _)
  | @drop u v _ hu hv =>
    obtain ⟨hs, hr⟩ := second hu hv
    exact bound ((spelled_drop_sublist v).trans hs)
      (hr ▸ rest_consumeSkipped_sublist { v with token := {} })
  | @emit u v _ hu hv =>
    obtain ⟨hs, hr⟩ := second hu hv
    exact bound ((spelled_flush v).symm ▸ hs) (hr ▸ .refl _)

theorem spelled_scan_sublist {input : String} {s : Scan} (h : m.scan input = .ok s) :
    s.texts.flatten.Sublist input.toList := by
  obtain ⟨t, ht, rfl⟩ := exists_of_map_eq_ok h
  have hstart : (Scan.start input m.definitions).spelled ++ (Scan.start input m.definitions).rest =
      input.toList := by simp [Scan.start, spelled, texts, Scan.tokens, Scan.rest]
  obtain ⟨hinv, _⟩ := Scanner.scanFrom_invariant
    (P := fun u => (u.spelled ++ u.rest).Sublist input.toList)
    (fun u v c hc hv hu => (spelled_takes_sublist hk hc hv).trans hu) ht (hstart ▸ .refl _)
  rw [flatten_texts_flush]
  exact (List.sublist_append_left _ _).trans hinv

end Sublist

namespace Scan

/-- The texts of a state, followed by `rest` and by pieces that come later, make up the plain split
of `whole` when each is split by itself.  The token in progress goes on into the `rest`, so the two
are split together. -/
structure KeepsSplit (isBreak : Char → Bool) (whole rest : List Char)
    (later : List (List Char)) (s : Scan) : Prop where
  split : runs isBreak whole =
    s.texts.flatMap (runs isBreak) ++ (runs isBreak (s.token.text.toList ++ rest) ++ later)
  ne_nil : ∀ a ∈ s.texts, a ≠ []

namespace KeepsSplit

variable {isBreak : Char → Bool} {whole rest : List Char} {later : List (List Char)} {s t : Scan}

/-- **Taking tokens back keeps the split**, since a stretch of a split is a split. -/
theorem of_takesBack (h : s.KeepsSplit isBreak whole rest later) (ht : TakesBack s t) :
    t.KeepsSplit isBreak whole rest later := by
  refine ⟨?_, ht.ne_nil_of_mem_texts h.ne_nil⟩
  obtain ⟨taken, hx, hk⟩ := ht
  have hsplit := h.split
  rw [hx, List.flatMap_append, List.append_assoc, ← List.append_assoc (taken.flatMap _)] at hsplit
  have hjoin := Text.runs_flatten_of_runs_eq hsplit
  rw [List.flatten_append, Text.flatten_flatMap_runs, Text.flatten_runs,
    ← List.append_assoc] at hjoin
  rw [hk, hjoin]
  exact hsplit

/-- The token in progress may be emitted where nothing is left, or beside a break. -/
theorem flush (h : s.KeepsSplit isBreak whole rest later)
    (hm : rest = [] ∨ MeetAtBreak isBreak s.token.text.toList rest) :
    s.flush.KeepsSplit isBreak whole rest later := by
  refine ⟨?_, ne_nil_of_mem_texts_flush h.ne_nil⟩
  have hcut : runs isBreak (s.token.text.toList ++ rest) =
      runs isBreak s.token.text.toList ++ runs isBreak rest := by
    rcases hm with rfl | hm
    · rw [List.append_nil, Text.runs_nil, List.append_nil]
    · exact Text.runs_append_of_meetAtBreak hm
  rw [h.split, hcut, flatMap_texts_flush _ rfl]
  show _ = _ ++ (runs isBreak ([] ++ rest) ++ later)
  rw [List.nil_append, List.append_assoc, List.append_assoc]

/-- A character that is read goes to the token in progress. -/
theorem push {c : Char} (h : s.KeepsSplit isBreak whole (c :: rest) later) :
    (s.push c).KeepsSplit isBreak whole rest later := by
  refine ⟨?_, h.ne_nil⟩
  show _ = _ ++ (runs isBreak ((s.token.text.push c).toList ++ rest) ++ later)
  rw [String.toList_push, List.append_assoc]
  exact h.split

/-- A character that is read may be a token of its own if there was none in progress. -/
theorem ofChar {c : Char} (h : s.KeepsSplit isBreak whole (c :: rest) later)
    (he : s.token.text = "") :
    { s with token := .ofChar c }.KeepsSplit isBreak whole rest later := by
  refine ⟨?_, h.ne_nil⟩
  have hsplit := h.split
  rw [he] at hsplit
  show _ = _ ++ (runs isBreak ((String.singleton c).toList ++ rest) ++ later)
  rw [String.toList_singleton]
  exact hsplit

end KeepsSplit

end Scan

section Glue

variable {m : Scanner} (hskip : m.NeverSkips) (hhost : m.HostsKeepText)

include hskip hhost

theorem takesBack_runChain {s t : Scan} {flow : Flow}
    (h : runChain m.ifRules s = (t, .ok flow)) : TakesBack s t :=
  runChain_invariant (P := TakesBack s)
    (fun r hr _ _ _ hrun hu =>
      have hmem : r ∈ m.rules := List.mem_append_left _ hr
      hu.trans (takesBack_run (hskip r hmem) (hhost r hmem) hrun)) h (.refl s)

omit hhost in
theorem flow_ne_skip_of_runChain {s t : Scan} {flow : Flow}
    (h : runChain m.ifRules s = (t, .ok flow)) : flow ≠ .skip := by
  rcases runChain_cases h with ⟨_, _, rfl⟩ | ⟨r, hm, hr⟩
  · simp
  · rcases flow_of_runSteps hr with rfl | ⟨step, hstep, hf⟩
    · simp
    · rintro rfl
      have hno := hskip r (List.mem_append_left _ (mem_of_findMatch hm)) step hstep
      cases step <;> simp [Step.flow?, Step.skips] at hf hno

/-- Taking a character keeps the split. -/
theorem keepsSplit_takes {c : Char} {whole : List Char} {s t : Scan}
    (hc : s.input[s.index]? = some c) (h : m.Takes c s t)
    (hs : s.KeepsSplit m.isBreak whole s.rest []) : t.KeepsSplit m.isBreak whole t.rest [] := by
  rw [rest_of_getElem? hc] at hs
  have first : ∀ {u : Scan} {flow : Flow}, runChain m.ifRules s = (u, .ok flow) →
      u.KeepsSplit m.isBreak whole (c :: u.advance.rest) [] := fun hu =>
    (rest_advance_of_runChain hu).symm ▸ hs.of_takesBack (takesBack_runChain hskip hhost hu)
  -- After the second run the token in progress ends with the break that it began with.
  have second : ∀ {u v : Scan} {flow flow' : Flow}, m.isBreak c = true →
      runChain m.ifRules s = (u, .ok flow) →
      runChain m.ifRules { u.flush with token := .ofChar c } = (v, .ok flow') →
      v.KeepsSplit m.isBreak whole v.advance.rest [] ∧ c ∈ v.token.text.toList.getLast? := by
    intro u v flow flow' hb hu hv
    have hflush := (first hu).flush (Or.inr (Or.inr ⟨c, rfl, hb⟩))
    have htake := takesBack_runChain hskip hhost hv
    have hrv := rest_advance_of_runChain hv
    refine ⟨hrv ▸ (hflush.ofChar rfl).of_takesBack htake, ?_⟩
    obtain ⟨taken, _, ht⟩ := htake
    rw [ht]
    simp [Token.ofChar]
  cases h with
  | plain _ => exact ⟨hs.push.split, hs.push.ne_nil⟩
  | fold _ hu => exact ⟨(first hu).push.split, (first hu).push.ne_nil⟩
  | skip _ hu => exact absurd rfl (flow_ne_skip_of_runChain hskip hu)
  | hold hb hu hv =>
    obtain ⟨hsplit, _⟩ := second hb hu hv
    exact ⟨hsplit.split, hsplit.ne_nil⟩
  | drop _ _ hv => exact absurd rfl (flow_ne_skip_of_runChain hskip hv)
  | emit hb hu hv =>
    obtain ⟨hsplit, hlast⟩ := second hb hu hv
    have hflush := hsplit.flush (Or.inr (Or.inl ⟨c, hlast, hb⟩))
    exact ⟨hflush.split, hflush.ne_nil⟩

/-- Passing a token keeps the split. -/
theorem keepsSplit_passes {whole : List Char} {later : List (List Char)} {s t : Scan}
    (h : m.Passes s t) (hs : s.KeepsSplit m.isBreak whole [] later) :
    runs m.isBreak whole = t.texts.flatMap (runs m.isBreak) ++ later ∧ ∀ a ∈ t.texts, a ≠ [] := by
  have run : ∀ {r : Rule} {u v : Scan} {flow : Flow}, findMatch m.letRules s = some r →
      r.run u = (v, .ok flow) → TakesBack u v := fun hm hr =>
    have hmem := Scanner.mem_rules_of_findMatch_letRules hm
    takesBack_run (hskip _ hmem) (hhost _ hmem) hr
  have emit : ∀ {u : Scan}, u.KeepsSplit m.isBreak whole [] later →
      runs m.isBreak whole = u.flush.texts.flatMap (runs m.isBreak) ++ later ∧
        ∀ a ∈ u.flush.texts, a ≠ [] := fun hu =>
    ⟨(hu.flush (Or.inl rfl)).split, (hu.flush (Or.inl rfl)).ne_nil⟩
  cases h with
  | same _ => exact emit hs
  | edit hm _ hr => exact emit (hs.of_takesBack (run hm hr))
  | @group r u _ hm _ hr =>
    have hjoin := takesBack_joinBehind { s with lookBack := r.lookBack }
    exact emit (hs.of_takesBack (TakesBack.trans hjoin (run hm hr)))
  | @expand r u _ hm _ hr =>
    have hu := hs.of_takesBack (run hm hr)
    rw [texts_expand]
    constructor
    · rw [List.flatMap_append, Text.flatMap_runs_runs, hu.split, List.append_nil,
        List.append_assoc]
    · intro a ha
      rcases List.mem_append.mp ha with ha | ha
      · exact hu.ne_nil a ha
      · exact Text.ne_nil_of_mem_runs ha

theorem split_scan {input : String} {s : Scan} (h : m.scan input = .ok s) :
    runs m.isBreak input.toList = s.texts.flatMap (runs m.isBreak) ∧ ∀ a ∈ s.texts, a ≠ [] := by
  obtain ⟨t, ht, rfl⟩ := exists_of_map_eq_ok h
  have hstart : (Scan.start input m.definitions).KeepsSplit m.isBreak input.toList
      (Scan.start input m.definitions).rest [] :=
    ⟨by simp [Scan.start, texts, Scan.tokens, Scan.rest], by simp [Scan.start, texts, Scan.tokens]⟩
  obtain ⟨hsplit, hend⟩ := Scanner.scanFrom_invariant
    (P := fun u => u.KeepsSplit m.isBreak input.toList u.rest [])
    (fun _ _ _ hc hv hu => keepsSplit_takes hskip hhost hc hv hu) ht hstart
  rw [rest_eq_nil hend] at hsplit
  have hflush := hsplit.flush (Or.inl rfl)
  exact ⟨by rw [hflush.split]; exact List.append_nil _, hflush.ne_nil⟩

/-- Without `skip` the scanned tokens spell the text. -/
theorem spelled_scan {input : String} {s : Scan} (h : m.scan input = .ok s) :
    s.texts.flatten = input.toList := by
  obtain ⟨hsplit, _⟩ := split_scan hskip hhost h
  rw [← Text.flatten_runs m.isBreak input.toList, hsplit, Text.flatten_flatMap_runs]

/-- The plain splits of the tokens of a text, end to end, are the plain split of the text. -/
theorem split_tokenize {input : String} {tokens : List Token}
    (h : m.tokenize input = .ok tokens) :
    runs m.isBreak input.toList = tokens.flatMap (fun t => runs m.isBreak t.text.toList) ∧
      ∀ t ∈ tokens, t.text.toList ≠ [] := by
  have collect : ∀ {s : Scan}, runs m.isBreak input.toList = s.texts.flatMap (runs m.isBreak) →
      (∀ a ∈ s.texts, a ≠ []) →
      runs m.isBreak input.toList = s.tokens.flatMap (fun t => runs m.isBreak t.text.toList) ∧
        ∀ t ∈ s.tokens, t.text.toList ≠ [] := by
    intro s hs hne
    rw [texts, List.flatMap_map] at hs
    exact ⟨hs, fun t ht => hne _ (List.mem_map_of_mem ht)⟩
  rw [Scanner.tokenize] at h
  cases hs : m.scan input with
  | error e => simp [hs, Except.bind] at h
  | ok s =>
    rw [hs] at h
    obtain ⟨hsplit, hne⟩ := split_scan hskip hhost hs
    replace h : m.letPass s = .ok tokens := h
    rw [Scanner.letPass] at h
    split at h
    next =>
      obtain rfl := Except.ok.inj h
      exact collect hsplit hne
    next =>
      obtain ⟨t, ht, rfl⟩ := exists_of_map_eq_ok h
      have hpass := Scanner.letFrom_invariant
        (P := fun _ u later => runs m.isBreak input.toList = u.texts.flatMap (runs m.isBreak) ++
          later.flatMap (fun t => runs m.isBreak t.text.toList) ∧ ∀ a ∈ u.texts, a ≠ [])
        (fun _ u token later v hu hv =>
          keepsSplit_passes hskip hhost hv ⟨by rw [List.append_nil]; exact hu.1, hu.2⟩)
        ht ⟨?_, by simp [Scanner.letStart, texts, Scan.tokens]⟩
      · obtain ⟨_, hall, hne'⟩ := hpass
        rw [List.flatMap_nil, List.append_nil] at hall
        exact collect hall hne'
      · rw [hsplit, texts, List.flatMap_map]
        rfl

end Glue

/-- **Rules only glue.**  Without `skip`, and with host actions that leave the text of the token in
progress alone, the plain split of a text can be cut into consecutive groups so that each token
spells one group.  So the tokens spell the text, none is empty, and where two tokens meet one of
them has a break: no run is divided among tokens. -/
theorem tokenize_groups_runs {m : Scanner} (hskip : m.NeverSkips) (hhost : m.HostsKeepText)
    {input : String} {tokens : List Token} (h : m.tokenize input = .ok tokens) :
    (∃ groups : List (List (List Char)),
      groups.flatten = runs m.isBreak input.toList ∧ (∀ group ∈ groups, group ≠ []) ∧
      tokens.map (fun t => t.text.toList) = groups.map List.flatten) ∧
    String.join (tokens.map Token.text) = input ∧
    (∀ t ∈ tokens, t.text ≠ "") ∧
    tokens.IsChain fun a b => MeetAtBreak m.isBreak a.text.toList b.text.toList := by
  obtain ⟨hsplit, hne⟩ := split_tokenize hskip hhost h
  have hchain := Text.isChain_runs_meetAtBreak m.isBreak input.toList
  rw [hsplit, List.flatMap_def] at hchain
  refine ⟨⟨tokens.map fun t => runs m.isBreak t.text.toList, ?_, ?_, ?_⟩, ?_, ?_, ?_⟩
  · rw [hsplit, List.flatMap_def]
  · intro group hg
    obtain ⟨t, ht, rfl⟩ := List.mem_map.mp hg
    exact fun he => hne t ht (Text.runs_eq_nil_iff.mp he)
  · simp
  · rw [← String.toList_inj, String.toList_join, ← Text.flatten_runs m.isBreak input.toList, hsplit]
    simp [List.flatMap_def, List.flatten_flatten, Function.comp_def]
  · intro t ht he
    exact hne t ht (by rw [he]; rfl)
  · have hgroups : ∀ t ∈ tokens, runs m.isBreak t.text.toList ≠ [] := fun t ht he =>
      hne t ht (Text.runs_eq_nil_iff.mp he)
    rw [List.isChain_flatten (by simpa using hgroups), List.isChain_map] at hchain
    exact hchain.2.imp_of_mem_imp fun a b ha hb hab =>
      Text.meetAtBreak_of_runs (hne a ha) (hne b hb) hab

/-- A scanner that breaks at commas.  It folds the comma behind `a`, joins the comma behind `b` to
it, where the host adds a tag, and joins what follows an open token to it; `b` with its comma is cut
again. -/
def gluing : Scanner where
  isBreak c := c == ','
  ifRules :=
    [⟨.ifThen, .test .token (.text "a"), 0, [.tag "open", .fold], default⟩,
      ⟨.ifThen, .and (.test .token (.text ",")) (.test (.behind 1) (.text "b")), 1,
        [.join 1, .host ⟨"mark", fun s => { token := s.token.addTag "mark" }⟩], default⟩]
  letRules :=
    [⟨.letRule .beGroup, .test (.behind 1) (.tag "open"), 1, [.tag "group"], default⟩,
      ⟨.letRule .expandGroup, .test .token (.text "b,"), 0, [.tag "part"], default⟩]
  definitions := {}

theorem tokenize_groups_runs_gluing :
    gluing.NeverSkips ∧ gluing.HostsKeepText ∧
      gluing.tokenize "a,c,b,d" = .ok [⟨"a,c,", .ofList ["group"]⟩,
        ⟨"b", .ofList ["mark", "part"]⟩, ⟨",", .ofList ["mark", "part"]⟩, ⟨"d", .empty⟩] ∧
      ∃ groups : List (List (List Char)),
        groups.flatten = runs gluing.isBreak "a,c,b,d".toList ∧ (∀ group ∈ groups, group ≠ []) ∧
        ["a,c,".toList, "b".toList, ",".toList, "d".toList] = groups.map List.flatten := by
  have hskip : gluing.NeverSkips := by
    simp [Scanner.NeverSkips, Scanner.rules, gluing, Step.skips]
  have hk : gluing.HostsKeepText := by
    simp [Scanner.HostsKeepText, Scanner.rules, gluing, Step.KeepsText, Token.addTag]
  have ht : gluing.tokenize "a,c,b,d" = .ok [⟨"a,c,", .ofList ["group"]⟩,
      ⟨"b", .ofList ["mark", "part"]⟩, ⟨",", .ofList ["mark", "part"]⟩, ⟨"d", .empty⟩] := by cbv
  exact ⟨hskip, hk, ht, (tokenize_groups_runs hskip hk ht).1⟩

end RuleLexer
