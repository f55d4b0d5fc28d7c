import RuleLexer.Proofs.Clause.Words
import RuleLexer.Proofs.Specification.Composition

/-!
# Keywords in the literals of a test

The reader of specifications ends a test at the first keyword between blanks.  The reader of clauses
knows of literals, in which blanks and keywords mean nothing.  `read_rule_line` says where the two agree
about a test that the reader of clauses can read and that has no such keyword as a bare word:

* if the keyword stands between blanks in no literal either, the line is read as the rule that is
  written on it;
* if it does, the line is read as a rule with a shorter test (`keyword_between_blanks` gives such lines).

The first is what is known of printed lines, as the words of a clause are bare words or stand in
literals (`Clause.exists_of_infix_words`).  For the second, such a keyword has blanks around it in the
whole line also (`exists_separator_of_literal`), and the first separator does not come later
(`exists_cut?_of_isSome`).
-/

namespace RuleLexer

open Text Form
open Clause (literals AllLetters)

variable {α : Type} {separator? : List Char → Option α} {p q r g k test action line literal : List Char}
  {before after ks : List (List Char)} {ws : List String} {file : String} {ts : List Clause.Token}

namespace Form

/-! ### The first separator -/

/-- A text is cut where a separator is, or before. -/
theorem exists_cut?_of_isSome (hq : q ≠ []) (h : (separator? q).isSome = true) :
    ∃ before a, cut? separator? (p ++ q) = some (before, a) ∧ before <+: p := by
  induction p with
  | nil =>
    obtain ⟨c, q, rfl⟩ := List.exists_cons_of_ne_nil hq
    obtain ⟨a, ha⟩ := Option.isSome_iff_exists.1 h
    exact ⟨[], a, by rw [List.nil_append, cut?, ha], List.nil_prefix⟩
  | cons c p ih =>
    rw [List.cons_append, cut?]
    cases separator? (c :: (p ++ q)) with
    | some a => exact ⟨[], a, rfl, List.nil_prefix⟩
    | none =>
      obtain ⟨before, a, hcut, hbefore⟩ := ih
      exact ⟨c :: before, a, by rw [hcut]; rfl, (List.prefix_cons_inj c).2 hbefore⟩

theorem exists_cutTest?_of_isSome (hg : IsGap g) (hs : StartsSolid (p ++ q)) (hq : q ≠ [])
    (h : (separator? (q ++ r)).isSome = true) :
    ∃ before a, cutTest? separator? (g ++ (p ++ q ++ r)) = some (before, a) ∧ before <+: p := by
  have hqr : q ++ r ≠ [] := by simp [hq]
  have hpq : p ++ q ≠ [] := by simp [hq]
  obtain ⟨before, a, hcut, hbefore⟩ := exists_cut?_of_isSome (p := p) hqr h
  refine ⟨before, a, ?_, hbefore⟩
  rw [cutTest?, dropBlanks?_append hg.all_isBlank hg.1 ((startsSolid_append hpq).2 hs)]
  simp only [List.append_assoc, hcut]

/-! ### Keywords between blanks -/

theorem allLetters_of_spells (hws : ∀ word ∈ ws, IsKeyword word) (hks : List.Forall₂ Spells ks ws) :
    AllLetters ks := by
  induction hks with
  | nil => exact fun k hk => absurd hk List.not_mem_nil
  | cons hspells _ ih =>
    intro k hk
    rcases List.mem_cons.1 hk with rfl | hk
    · exact hspells.isAlpha (hws _ List.mem_cons_self)
    · exact ih (fun word hword => hws word (List.mem_cons_of_mem _ hword)) k hk

/-- **Words that spell keywords are read**, if other words stand behind them. -/
theorem isSome_dropWords? (hws : ∀ word ∈ ws, IsKeyword word) (hks : List.Forall₂ Spells ks ws)
    (hwords : words q = ks ++ after) (hafter : after ≠ []) (r : List Char) :
    (dropWords? ws (trimStart (q ++ r))).isSome = true := by
  induction hks generalizing q with
  | nil => rfl
  | @cons k word ks ws hspells hks ih =>
    have hword := hws word List.mem_cons_self
    obtain ⟨bs, ds, hbs, rfl, _, hstop, hds⟩ := exists_of_words_eq_cons hwords
    have hne : ds ≠ [] := by
      rintro rfl
      simp [hafter] at hds
    have hblanks : dropBlanks? (ds ++ r) = some (trimStart (ds ++ r)) :=
      dropBlanks?_eq_some.2 ⟨by simp [hne], (stopsWord_append hne).2 hstop, rfl⟩
    rw [List.append_assoc, List.append_assoc, trimStart_append_of_blanks hbs,
      trimStart_of_startsSolid (hspells.startsSolid hword), dropWords?_cons, dropWordBlanks?,
      dropWord?_spells hspells hword, Option.bind_some, hblanks, Option.bind_some]
    exact ih (fun word' h => hws word' (List.mem_cons_of_mem _ h)) hds

/-- **Keywords in a literal of a test end the test**, whatever stands behind it. -/
theorem exists_separator_of_literal (hliteral : literal ∈ literals test)
    (hws : ∀ word ∈ ws, IsKeyword word) (hne : ws ≠ []) (hks : List.Forall₂ Spells ks ws)
    (h : ks <:+: words literal) :
    ∃ p q, test = p ++ q ∧ q ≠ [] ∧
      ∀ r, ((dropBlanks? (q ++ r)).bind (dropWords? ws)).isSome = true := by
  obtain ⟨hdelimited, u, v, rfl⟩ := Clause.isLiteral_of_mem_literals hliteral
  obtain ⟨before, after, hwords⟩ := h
  have hksne : ks ≠ [] := by
    rintro rfl
    exact hne (List.forall₂_nil_left_iff.1 hks)
  rw [List.append_assoc] at hwords
  -- the delimiters of the literal belong to its first and its last word
  obtain ⟨hbefore, hafter⟩ :=
    hdelimited.ne_nil_of_words (allLetters_of_spells hws hks) hksne hwords.symm
  obtain ⟨x, q, rfl, hstop, hq⟩ := exists_of_words_eq_append hwords.symm hbefore
  have hqne : q ≠ [] := by
    rintro rfl
    simp [hksne] at hq
  refine ⟨u ++ x, q ++ v, by simp only [List.append_assoc], by simp [hqne], fun r => ?_⟩
  have hblanks : dropBlanks? (q ++ (v ++ r)) = some (trimStart (q ++ (v ++ r))) :=
    dropBlanks?_eq_some.2 ⟨by simp [hqne], (stopsWord_append hqne).2 hstop, rfl⟩
  rw [List.append_assoc, hblanks, Option.bind_some]
  exact isSome_dropWords? hws hks hq hafter (v ++ r)

theorem isSome_kindSeparator? {kind : LetKind} {cs : List Char}
    (h : ((dropBlanks? cs).bind (dropWords? kind.words)).isSome = true) :
    (kindSeparator? cs).isSome = true := by
  by_contra hnone
  rw [Bool.not_eq_true, Option.isSome_eq_false_iff, Option.isNone_iff_eq_none] at hnone
  rw [kindSeparator?_eq, Option.bind_eq_none_iff] at hnone
  obtain ⟨rest, hrest⟩ := Option.isSome_iff_exists.1 h
  obtain ⟨ds, hds, hdrop⟩ := Option.bind_eq_some_iff.1 hrest
  have hkind := List.findSome?_eq_none_iff.1 (hnone ds hds) kind (by cases kind <;> simp)
  simp [hdrop] at hkind

theorem NoKind.exists_of_not (h : ¬ NoKind test) :
    ∃ kind ks, List.Forall₂ Spells ks (LetKind.words kind) ∧ ks <:+: words test := by
  by_contra hnone
  push Not at hnone
  refine h ⟨fun w hw => ⟨fun hbe => ?_, fun hthrow => ?_⟩, ?_⟩
  · exact hnone .be [w] (.cons hbe .nil) ((List.singleton_infix_iff w _).2 hw)
  · exact hnone .throw [w] (.cons hthrow .nil) ((List.singleton_infix_iff w _).2 hw)
  · rw [List.isChain_iff_forall_rel_of_append_cons_cons]
    rintro v w l₁ l₂ hsplit ⟨hexpand, hgroup⟩
    refine hnone .expandGroup [v, w] (.cons hexpand (.cons hgroup .nil)) ⟨l₁, l₂, ?_⟩
    rw [hsplit, List.append_assoc]
    rfl

/-! ### Lines -/

/-- The line of an if-rule in whose test there is a separator. -/
theorem exists_read?_ifRule (hk : Spells k "if") (hg : IsGap g) (hs : StartsSolid (p ++ q))
    (hq : q ≠ []) (h : (thenSeparator? (q ++ r)).isSome = true) :
    ∃ test action, read? (k ++ (g ++ (p ++ q ++ r))) = some (.ifRule test action) ∧
      test <+: p := by
  obtain ⟨before, a, hcut, hbefore⟩ := exists_cutTest?_of_isSome hg hs hq h
  refine ⟨before, trimEnd a, read?_of_mem_keywords List.mem_cons_self hk ?_, hbefore⟩
  rw [ifRule?, hcut]
  rfl

/-- The line of a let-rule in whose test there is a separator. -/
theorem exists_read?_letRule (hk : Spells k "let") (hg : IsGap g) (hs : StartsSolid (p ++ q))
    (hq : q ≠ []) (h : (kindSeparator? (q ++ r)).isSome = true) :
    ∃ test kind action, read? (k ++ (g ++ (p ++ q ++ r))) = some (.letRule test kind action) ∧
      test <+: p := by
  obtain ⟨before, ⟨kind, a⟩, hcut, hbefore⟩ := exists_cutTest?_of_isSome hg hs hq h
  have hmem : ("let", letRule?) ∈ keywords := by simp [keywords]
  refine ⟨before, kind, trimEnd a, read?_of_mem_keywords hmem hk ?_, hbefore⟩
  rw [letRule?, hcut]
  rfl

end Form

/-- A text that is one line. -/
theorem read_line [Regex.Engine] {entry : Entry} (hn : '\n' ∉ line)
    (h : Entry.ofLine ⟨0, file⟩ (dropEnd Entry.isLineEnd line) = .ok (some entry)) :
    Specification.read (String.ofList line) file = .ok (.collect [entry]) :=
  (read_line_eq_ok hn).2 ⟨some entry, h, rfl⟩

/-- Where a test is cut before its end, it is not the whole test. -/
theorem prefix_and_ne_of_prefix (h : k <+: p) (hq : q ≠ []) : k <+: p ++ q ∧ k ≠ p ++ q := by
  refine ⟨h.trans (List.prefix_append p q), ?_⟩
  rintro rfl
  exact hq (by simpa using h.length_le)

/-! ### Rules whose tests can be read -/

/-- None of the bare words is the keyword. -/
def LacksWord (ts : List Clause.Token) (word : String) : Prop :=
  ∀ t ∈ ts, t.kind.isWord = true → ¬ Spells t.value.toList word

instance (ts : List Clause.Token) (word : String) : Decidable (LacksWord ts word) :=
  inferInstanceAs (Decidable (∀ t ∈ ts, _))

/-- Keywords of which the first is no bare word stand next to each other in a literal, if they do so
in the test. -/
theorem not_infix_words (hread : Clause.readFrom 0 test = .ok ts)
    (hws : ∀ word ∈ ws, IsKeyword word) (hks : List.Forall₂ Spells ks ws)
    (hlacks : ∀ word, ws.head? = some word → LacksWord ts word) (hne : ws ≠ [])
    (hliterals : ∀ literal ∈ literals test, ¬ ks <:+: words literal) : ¬ ks <:+: words test := by
  intro h
  obtain ⟨word, ws, rfl⟩ := List.exists_cons_of_ne_nil hne
  have hletters := allLetters_of_spells hws hks
  obtain ⟨k, ks, hspells, _, rfl⟩ := List.forall₂_cons_right_iff.1 hks
  rcases Clause.exists_of_infix_words hread hletters (List.cons_ne_nil k ks) h with
    ⟨t, ht, hword, hk⟩ | ⟨literal, hliteral, hwithin⟩
  · obtain rfl := Option.some.inj hk
    exact hlacks word rfl t ht hword hspells
  · exact hliterals literal hliteral hwithin

/-- The line is read as an if-rule with a shorter test. -/
def ReadsShorterIf [Regex.Engine] (line : List Char) (file : String) (test : List Char) : Prop :=
  ∃ before action, Specification.read (String.ofList line) file =
    .ok { ifRules := [⟨String.ofList before, String.ofList action, ⟨0, file⟩⟩] } ∧
      before <+: test ∧ before ≠ test

/-- The line is read as a let-rule with a shorter test. -/
def ReadsShorterLet [Regex.Engine] (line : List Char) (file : String) (test : List Char) : Prop :=
  ∃ before kind action, Specification.read (String.ofList line) file =
    .ok { letRules := [⟨String.ofList before, kind, String.ofList action, ⟨0, file⟩⟩] } ∧
      before <+: test ∧ before ≠ test

theorem read_ifRule_of_literals [Regex.Engine] (file : String)
    (hread : Clause.readFrom 0 test = .ok ts) (hne : test ≠ []) (ht : IsPart test)
    (ha : IsPart action) (hlacks : LacksWord ts "then")
    (hliterals : ∀ literal ∈ literals test, ∀ w ∈ words literal, ¬ Spells w "then")
    (hline : (Item.ifRule test action).PrintedAs line) :
    Specification.read (String.ofList line) file =
      .ok { ifRules := [⟨String.ofList test, String.ofList action, ⟨0, file⟩⟩] } := by
  have hthen : ∀ w ∈ words test, ¬ Spells w "then" := by
    intro w hw hspells
    have hks : List.Forall₂ Spells [w] ["then"] := .cons hspells .nil
    refine not_infix_words hread (by decide) hks ?_ (by simp) ?_
      ((List.singleton_infix_iff w _).2 hw)
    · rintro word ⟨⟩
      exact hlacks
    · exact fun literal hliteral hwithin =>
        hliterals literal hliteral w ((List.singleton_infix_iff w _).1 hwithin) hspells
  obtain ⟨hn, hentry⟩ := ofLine_printed ⟨0, file⟩ hline ⟨hne, ht, ha, hthen⟩
  exact read_line hn hentry

theorem readsShorterIf_of_literal [Regex.Engine] {w : List Char} (ht : IsPart test)
    (ha : IsPart action) (hliteral : literal ∈ literals test) (hw : w ∈ words literal)
    (hspells : Spells w "then") (hline : (Item.ifRule test action).PrintedAs line) :
    ReadsShorterIf line file test := by
  have hks : List.Forall₂ Spells [w] ["then"] := .cons hspells .nil
  obtain ⟨p, q, rfl, hq, hsep⟩ := exists_separator_of_literal hliteral (by decide) (by simp) hks
    ((List.singleton_infix_iff w _).2 hw)
  cases hline with
  | ifRule hk hg hg' hy =>
    have hunbroken := unbroken_rule hk (by decide) hg ht hg' (hy.unbroken (by decide)) ha
    obtain ⟨before, after, hform, hbefore⟩ := exists_read?_ifRule hk hg ht.startsSolid hq
      ((congrArg Option.isSome (thenSeparator?_eq _)).trans (hsep _))
    have hentry : Entry.ofLine ⟨0, file⟩ (dropEnd Entry.isLineEnd _) = .ok (some (.ifRule
        ⟨String.ofList before, String.ofList after, ⟨0, file⟩⟩)) :=
      ofLine_of_read? hk (by decide) hunbroken hform rfl
    exact ⟨before, after, read_line hunbroken.1 hentry, prefix_and_ne_of_prefix hbefore hq⟩

theorem read_letRule_of_literals [Regex.Engine] {kind : LetKind} (file : String)
    (hread : Clause.readFrom 0 test = .ok ts)
    (hne : test ≠ []) (ht : IsPart test) (ha : IsPart action)
    (hlacks : ∀ word ∈ ["be", "throw", "expand"], LacksWord ts word)
    (hliterals : ∀ literal ∈ literals test, NoKind literal)
    (hgroup : kind = .be → ∀ w ∈ (words action).head?, ¬ Spells w "group")
    (hline : (Item.letRule test kind action).PrintedAs line) :
    Specification.read (String.ofList line) file =
      .ok { letRules := [⟨String.ofList test, kind, String.ofList action, ⟨0, file⟩⟩] } := by
  have hkind : NoKind test := by
    by_contra hnot
    obtain ⟨kind', ks, hks, hwithin⟩ := NoKind.exists_of_not hnot
    -- whatever the kind, its first word is one of the three
    refine not_infix_words hread isKeyword_of_mem_words hks ?_ ?_
      (fun literal hliteral => (hliterals literal hliteral).not_within kind' hks) hwithin
    · intro word hword
      refine hlacks word ?_
      cases kind' <;> simp_all [LetKind.words]
    · cases kind' <;> simp [LetKind.words]
  obtain ⟨hn, hentry⟩ := ofLine_printed ⟨0, file⟩ hline ⟨hne, ht, ha, hkind, hgroup⟩
  exact read_line hn hentry

theorem readsShorterLet_of_literal [Regex.Engine] {kind : LetKind} (ht : IsPart test)
    (ha : IsPart action) (hliteral : literal ∈ literals test) (hnot : ¬ NoKind literal)
    (hline : (Item.letRule test kind action).PrintedAs line) : ReadsShorterLet line file test := by
  obtain ⟨kind', ks, hks, hwithin⟩ := NoKind.exists_of_not hnot
  obtain ⟨p, q, rfl, hq, hsep⟩ := exists_separator_of_literal hliteral isKeyword_of_mem_words
    (by cases kind' <;> simp [LetKind.words]) hks hwithin
  cases hline with
  | letRule hk hg hg' hy =>
    have hunbroken := unbroken_rule hk (by decide) hg ht hg' (hy.unbroken isKeyword_of_mem_words) ha
    obtain ⟨before, kind'', after, hform, hbefore⟩ := exists_read?_letRule hk hg ht.startsSolid hq
      (isSome_kindSeparator? (hsep _))
    have hentry : Entry.ofLine ⟨0, file⟩ (dropEnd Entry.isLineEnd _) = .ok (some (.letRule
        ⟨String.ofList before, kind'', String.ofList after, ⟨0, file⟩⟩)) :=
      ofLine_of_read? hk (by decide) hunbroken hform rfl
    exact ⟨before, kind'', after, read_line hunbroken.1 hentry, prefix_and_ne_of_prefix hbefore hq⟩

/-- **Where the readers of specifications and of clauses agree about the end of a test.**  The test can
be read as a clause, and the keywords that could end it are none of its bare words.  Then the line of
the rule is read as that rule if no literal has such a keyword between blanks; otherwise a shorter test
is read. -/
theorem read_rule_line [Regex.Engine] (file : String) {test action : String}
    {ts : List Clause.Token} (hread : Clause.read test = .ok ts) (hne : test ≠ "")
    (ht : IsPart test.toList) (ha : IsPart action.toList) :
    -- if-rules
    (LacksWord ts "then" → ∀ line, (Item.ifRule test.toList action.toList).PrintedAs line →
      ((∀ literal ∈ literals test.toList, ∀ w ∈ words literal, ¬ Spells w "then") →
        Specification.read (String.ofList line) file =
          .ok { ifRules := [⟨test, action, ⟨0, file⟩⟩] }) ∧
      ((∃ literal ∈ literals test.toList, ∃ w ∈ words literal, Spells w "then") →
        ReadsShorterIf line file test.toList)) ∧
    -- let-rules of any kind
    ((∀ word ∈ ["be", "throw", "expand"], LacksWord ts word) → ∀ kind line,
      (Item.letRule test.toList kind action.toList).PrintedAs line →
      ((∀ literal ∈ literals test.toList, NoKind literal) →
        (kind = .be → ∀ w ∈ (words action.toList).head?, ¬ Spells w "group") →
        Specification.read (String.ofList line) file =
          .ok { letRules := [⟨test, kind, action, ⟨0, file⟩⟩] }) ∧
      ((∃ literal ∈ literals test.toList, ¬ NoKind literal) →
        ReadsShorterLet line file test.toList)) := by
  have hchars : test.toList ≠ [] := by simpa using hne
  refine ⟨fun hlacks line hline => ⟨fun hliterals => ?_, ?_⟩,
    fun hlacks kind line hline => ⟨fun hliterals hgroup => ?_, ?_⟩⟩
  · have hwhole := read_ifRule_of_literals file hread hchars ht ha hlacks hliterals hline
    rwa [String.ofList_toList, String.ofList_toList] at hwhole
  · rintro ⟨literal, hliteral, w, hw, hspells⟩
    exact readsShorterIf_of_literal ht ha hliteral hw hspells hline
  · have hwhole := read_letRule_of_literals file hread hchars ht ha hlacks hliterals hgroup
      hline
    rwa [String.ofList_toList, String.ofList_toList] at hwhole
  · rintro ⟨literal, hliteral, hnot⟩
    exact readsShorterLet_of_literal ht ha hliteral hnot hline

/-- A rule may be written with one space between its parts. -/
theorem printedAs_spaced (test action : List Char) :
    (Item.ifRule test action).PrintedAs
        ("if ".toList ++ (test ++ (" then ".toList ++ action))) ∧
      (Item.letRule test .throw action).PrintedAs
        ("let ".toList ++ (test ++ (" throw ".toList ++ action))) := by
  constructor
  · show Item.PrintedAs _ ("if".toList ++ (" ".toList ++ (test ++
      (" ".toList ++ (("then".toList ++ " ".toList ++ []) ++ action)))))
    exact .ifRule (by decide) (by decide) (by decide) (.cons (by decide) (by decide) .nil)
  · show Item.PrintedAs _ ("let".toList ++ (" ".toList ++ (test ++
      (" ".toList ++ (("throw".toList ++ " ".toList ++ []) ++ action)))))
    exact .letRule (by decide) (by decide) (by decide) (.cons (by decide) (by decide) .nil)

/-- Keywords that touch their quotes do not end a test. -/
theorem read_rule_line_touching :
    Specification.read "if 'then' <- 'a thens' then continue" "sample" =
      .ok { ifRules := [⟨"'then' <- 'a thens'", "continue", ⟨0, "sample"⟩⟩] } ∧
    Specification.read "let 'be' <- /expand/ throw 'no'" "sample" =
      .ok { letRules := [⟨"'be' <- /expand/", .throw, "'no'", ⟨0, "sample"⟩⟩] } := by
  have hif : Clause.read "'then' <- 'a thens'" = .ok
      [⟨.string, "then", 0⟩, ⟨.lookBehind, "<-", 7⟩, ⟨.string, "a thens", 10⟩, ⟨.eof, "EOF", 19⟩] := by
    cbv
  have hlet : Clause.read "'be' <- /expand/" = .ok
      [⟨.string, "be", 0⟩, ⟨.lookBehind, "<-", 5⟩, ⟨.pattern, "/expand/", 8⟩, ⟨.eof, "EOF", 16⟩] := by
    cbv
  have hifLiterals : literals "'then' <- 'a thens'".toList =
      ["'then'".toList, "'a thens'".toList] := by cbv
  have hletLiterals : literals "'be' <- /expand/".toList =
      ["'be'".toList, "/expand/".toList] := by cbv
  constructor
  · have h := (read_rule_line "sample" hif (by decide) (by decide) (by decide)).1 (by decide) _
      (printedAs_spaced _ "continue".toList).1
    rw [hifLiterals] at h
    exact h.1 (by decide)
  · have h := (read_rule_line "sample" hlet (by decide) (by decide) (by decide)).2 (by decide) _ _
      (printedAs_spaced _ "'no'".toList).2
    rw [hletLiterals] at h
    exact h.1 (by decide) (by simp)

/-- The test of the first line is the string `a then b`, and that of the second the string `a be b`, but
what is read as the test is `'a`. -/
theorem keyword_between_blanks :
    (∀ part ∈ ["'a then b'", "continue", "'a be b'", "'no'"], IsPart part.toList) ∧
    Clause.read "'a then b'" = .ok [⟨.string, "a then b", 0⟩, ⟨.eof, "EOF", 10⟩] ∧
    Specification.read "if 'a then b' then continue" "<spec>" =
      .ok { ifRules := [⟨"'a", "b' then continue", ⟨0, "<spec>"⟩⟩] } ∧
    Specification.read "if 'a then b' then continue" "<spec>" ≠
      .ok { ifRules := [⟨"'a then b'", "continue", ⟨0, "<spec>"⟩⟩] } ∧
    Clause.read "'a be b'" = .ok [⟨.string, "a be b", 0⟩, ⟨.eof, "EOF", 8⟩] ∧
    Specification.read "let 'a be b' throw 'no'" "<spec>" =
      .ok { letRules := [⟨"'a", .be, "b' throw 'no'", ⟨0, "<spec>"⟩⟩] } := by
  have hif : Specification.read "if 'a then b' then continue" "<spec>" =
      .ok { ifRules := [⟨"'a", "b' then continue", ⟨0, "<spec>"⟩⟩] } := by cbv
  refine ⟨by decide, by cbv, hif, fun h => ?_, by cbv, by cbv⟩
  rw [hif] at h
  have hrules := congrArg Specification.ifRules (Except.ok.inj h)
  simp at hrules

end RuleLexer
