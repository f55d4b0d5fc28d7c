import RuleLexer.Proofs.Specification.Composition
import RuleLexer.Proofs.Specification.Cut

/-!
# Blanks behind a line

Spaces and tabs behind a line that can be read do not change what it says, with one exception.  A keyword
needs a blank behind it, and at the end of a line there may be none.  So an action can end in words that
only lack a blank to be a separator, and the line becomes another if one is added (`Completes`).

`read_append_blanks` says that this is the only exception, and that the line can be read in any case.  The
line `let 'a' be group` is such a line (`group_before_blank`).

* A separator stays the same with blanks behind it, but `be` may become `be group`
  (`thenSeparator?_append`, `kindSeparator?_append_blanks`, `kindSeparator?_group`).
* The same follows for each form of line, and for lines (`read?_append_blanks`).
-/

namespace RuleLexer

open Text

namespace Form

variable {cs ds g r w : List Char} {ws : List String}

/-! ### Separators -/

theorem thenSeparator?_append (h : thenSeparator? r = some ds) (w : List Char) :
    thenSeparator? (r ++ w) = some (trimStart (ds ++ w)) := by
  rw [thenSeparator?_eq, Option.bind_eq_some_iff] at h
  obtain ⟨es, hblanks, hdrop⟩ := h
  rw [thenSeparator?_eq, dropBlanks?_append_right hblanks, Option.bind_some]
  obtain ⟨_, _, rfl⟩ := dropBlanks?_eq_some.1 hblanks
  exact dropWords?_append (by decide) hdrop w

/-- A kind with more words than another begins with the same word in one case only. -/
theorem eq_be_of_head?_words {kind kind' : LetKind} (hhead : kind.words.head? = kind'.words.head?)
    (hlength : kind.words.length < kind'.words.length) : kind = .be ∧ kind' = .beGroup := by
  cases kind <;> cases kind' <;> simp_all [LetKind.words]

theorem trimEnd_eq_of_words {word : String} (hword : IsKeyword word) (hs : StartsSolid cs)
    (h : words cs = [g]) (hg : Spells g word) : trimEnd cs = g := by
  obtain ⟨bs, ds, hbs, rfl, _, _, hds⟩ := exists_of_words_eq_cons h
  obtain rfl := eq_nil_of_startsSolid hbs (hs.of_isPrefix (List.prefix_append _ _))
  rw [List.nil_append, trimEnd, dropEnd_append_of_all _ _ (words_eq_nil_iff.1 hds)]
  exact trimEnd_of_endsSolid fun c hc => hg.isBlank_eq_false hword c (List.mem_of_mem_getLast? hc)

theorem words_eq_of_trimEnd {word : String} (hword : IsKeyword word) (h : Spells (trimEnd cs) word) :
    words cs = [trimEnd cs] := by
  obtain ⟨bs, hbs, hcs⟩ := exists_dropEnd_append isBlank cs
  conv_lhs => rw [hcs, words_append_blanks hbs]
  exact words_eq_singleton (h.isBlank_eq_false hword) (h.ne_nil hword)

/-- The word behind `be` at the end of a text is read as part of the kind if a blank is added. -/
theorem kindSeparator?_group (hw : w.all isBlank = true) (hwne : w ≠ [])
    (h : kindSeparator? r = some (.be, ds)) (hgroup : Spells (trimEnd ds) "group") :
    kindSeparator? (r ++ w) = some (.beGroup, []) := by
  obtain ⟨_, hsep, _⟩ := reads_kindSeparator?.sound h
  obtain ⟨ks, hks, hr⟩ := hsep.words_eq
  obtain ⟨k, _, hk, hnil, rfl⟩ := List.forall₂_cons_right_iff.1 hks
  obtain rfl := List.forall₂_nil_right_iff.1 hnil
  have hboth : words (r ++ w) = [k, trimEnd ds] ++ [] := by
    rw [words_append_blanks hw, hr, words_eq_of_trimEnd (by decide) hgroup]
    rfl
  have hplain : ∀ word ∈ LetKind.beGroup.words, IsPlainKeyword word := isPlainKeyword_of_mem_words
  obtain ⟨b, hb⟩ := Option.isSome_iff_exists.1 (isSome_dropWords?_of_words
    (fun word hword => (hplain word hword).1) (.cons hk (.cons hgroup .nil)) hboth
    (Or.inr (not_endsSolid_append hw hwne r)))
  obtain ⟨⟨ks, hks, hb'⟩, hsolid, _⟩ :=
    words_eq_of_dropWords? hplain (startsSolid_trimStart _) hb
  obtain rfl : b = [] := by
    rw [words_trimStart, hboth] at hb'
    have hlength := congrArg List.length hb'
    have htwo : ks.length = 2 := hks.length_eq
    have hnone : words b = [] := by
      refine List.length_eq_zero_iff.1 ?_
      simp only [List.length_append, List.length_cons, List.length_nil] at hlength
      omega
    exact eq_nil_of_startsSolid (words_eq_nil_iff.1 hnone) hsolid
  obtain ⟨hblanks, _⟩ := exists_of_kindSeparator?_eq_some h
  rw [kindSeparator?_eq, dropBlanks?_append_right hblanks, Option.bind_some, List.findSome?_cons, hb,
    Option.map_some]

/-- The words of another kind that are all the words of a text. -/
theorem eq_be_of_forall₂_words {kind kind' : LetKind} (h : kindSeparator? r = some (kind, ds))
    (hends : EndsSolid r) (hall : List.Forall₂ Spells (words r) kind'.words) :
    kind = .be ∧ Spells (trimEnd ds) "group" := by
  obtain ⟨_, hsep, hsolid⟩ := reads_kindSeparator?.sound h
  obtain ⟨k, ks, hks, hr⟩ := reads_kindSeparator?.exists_words h
  have hgoes : words ds ≠ [] := hsep.goesOn.resolve_right fun hnot => hnot hends
  rw [hr] at hall
  obtain ⟨word, ws, hspells, hws, hkind⟩ := List.forall₂_cons_left_iff.1 hks
  obtain ⟨word', ws', hspells', hws', hkind'⟩ := List.forall₂_cons_left_iff.1 hall
  have hlength : kind.words.length < kind'.words.length := by
    have hlt := List.length_pos_of_ne_nil hgoes
    rw [hkind, hkind', List.length_cons, List.length_cons, ← hws.length_eq, ← hws'.length_eq,
      List.length_append]
    dsimp only
    omega
  have hhead : kind.words.head? = kind'.words.head? := by
    rw [hkind, hkind', hspells.eq hspells']
    rfl
  obtain ⟨rfl, rfl⟩ := eq_be_of_head?_words hhead hlength
  obtain ⟨_, rfl⟩ := List.cons.inj hkind
  obtain ⟨_, rfl⟩ := List.cons.inj hkind'
  obtain rfl := List.forall₂_nil_right_iff.1 hws
  obtain ⟨g, _, hg, hnil, hgroup⟩ := List.forall₂_cons_right_iff.1 hws'
  obtain rfl := List.forall₂_nil_right_iff.1 hnil
  refine ⟨rfl, ?_⟩
  rwa [trimEnd_eq_of_words (by decide) hsolid hgroup hg]

/-- **The separator of a let-rule with a blank behind the text** is of the same kind, unless the blank
makes `be` with the word behind it to `be group`. -/
theorem kindSeparator?_append_blanks {kind : LetKind} (hw : w.all isBlank = true)
    (h : kindSeparator? r = some (kind, ds)) (hgroup : ¬ (kind = .be ∧ Spells (trimEnd ds) "group")) :
    kindSeparator? (r ++ w) = some (kind, trimStart (ds ++ w)) := by
  obtain ⟨hblanks, hdrop, before, after, hsplit, hbefore⟩ := exists_of_kindSeparator?_eq_some h
  obtain ⟨hne, hstop, _⟩ := dropBlanks?_eq_some.1 hblanks
  rw [kindSeparator?_eq, dropBlanks?_append_right hblanks, Option.bind_some]
  refine List.findSome?_eq_some_iff.2 ⟨before, kind, after, hsplit, ?_, fun kind' hkind' => ?_⟩
  · rw [dropWords?_append (fun word hword => (isKeyword_of_mem_words word hword).1) hdrop]
    rfl
  · rw [Option.map_eq_none_iff, Option.eq_none_iff_forall_ne_some]
    intro b hb
    obtain ⟨hsep, _⟩ := separates_of_dropWords? isPlainKeyword_of_mem_words
      ((stopsWord_append hne).2 hstop) (words_kind_ne_nil kind') hb
    rcases hsep.of_append_blanks hne hw with hread | ⟨_, hends, hall⟩
    · obtain ⟨ks, hks, hr⟩ := hread.words_eq
      have hsome := isSome_dropWords?_of_words isKeyword_of_mem_words hks hr hread.goesOn
      rw [hbefore kind' hkind'] at hsome
      cases hsome
    · exact hgroup (eq_be_of_forall₂_words h hends hall)

/-! ### Forms -/

/-- **What a line becomes if its action ends in a separator that lacks only the blank behind it**, and
the blank is added.  Either the test was empty, and now is what comes before that separator, or the kind
was `be` and now is `be group`.  In any case the action is empty then. -/
inductive Completes : Form → Form → Prop
  | ifRule {test action : List Char} : test ≠ [] → EndsIn ["then"] action →
      Completes (.ifRule [] action) (.ifRule test [])
  | letRule {test action : List Char} {kind kind' : LetKind} : test ≠ [] →
      EndsIn kind'.words action → Completes (.letRule [] kind action) (.letRule test kind' [])
  | group {test action : List Char} : Spells action "group" →
      Completes (.letRule test .be action) (.letRule test .beGroup [])

/-- The text is read as the form, or, if the form can be completed, as what it becomes. -/
def ReadsOrCompletes (form? : List Char → Option Form) (form : Form) (text : List Char) : Prop :=
  (form? text = some form ∧ ∀ form', ¬ Completes form form') ∨
    ∃ form', form? text = some form' ∧ Completes form form'

theorem endsIn_trimEnd : EndsIn ws (trimEnd cs) ↔ EndsIn ws cs := by
  rw [EndsIn, EndsIn, words_trimEnd]

section Readers

variable {form : Form} (hw : w.all isBlank = true) (hwne : w ≠ [])

include hw hwne

theorem ifRule?_append_blanks (h : ifRule? cs = some form) :
    ReadsOrCompletes ifRule? form (cs ++ w) := by
  obtain ⟨⟨test, action⟩, hcut, rfl⟩ := Option.map_eq_some_iff.1 h
  rcases reads_thenSeparator?.cutTest?_append_blanks hw hwne hcut with
    ⟨r, hsep, hends, hcut'⟩ | ⟨rfl, test', b, htest, hb, hends, hcut'⟩
  · refine Or.inl ⟨?_, ?_⟩
    · have hsolid : StartsSolid action := (reads_thenSeparator?.sound hsep).2.2
      rw [ifRule?, hcut', thenSeparator?_append hsep, Option.map_some, Option.map_some]
      dsimp only
      rw [trimEnd_trimStart_append hw hsolid]
    · rintro form' hform
      cases hform with
      | ifRule _ haction =>
        exact hends rfl _ (List.mem_singleton_self _) (endsIn_trimEnd.1 haction)
  · refine Or.inr ⟨.ifRule test' [], ?_, .ifRule htest (endsIn_trimEnd.2 hends)⟩
    obtain rfl : b = [] := hb
    rw [ifRule?, hcut', Option.map_some]
    rfl

theorem letRule?_append_blanks (h : letRule? cs = some form) :
    ReadsOrCompletes letRule? form (cs ++ w) := by
  obtain ⟨⟨test, kind, action⟩, hcut, rfl⟩ := Option.map_eq_some_iff.1 h
  rcases reads_kindSeparator?.cutTest?_append_blanks hw hwne hcut with
    ⟨r, hsep, hends, hcut'⟩ | ⟨rfl, test', ⟨kind', b⟩, htest, hb, hends, hcut'⟩
  · by_cases hgroup : kind = .be ∧ Spells (trimEnd action) "group"
    · obtain ⟨rfl, hspells⟩ := hgroup
      refine Or.inr ⟨.letRule test .beGroup [], ?_, .group hspells⟩
      rw [letRule?, hcut', kindSeparator?_group hw hwne hsep hspells, Option.map_some,
        Option.map_some]
      rfl
    · refine Or.inl ⟨?_, ?_⟩
      · rw [letRule?, hcut', kindSeparator?_append_blanks hw hsep hgroup, Option.map_some,
          Option.map_some]
        dsimp only
        rw [trimEnd_trimStart_append hw (reads_kindSeparator?.sound hsep).2.2]
      · rintro form' hform
        cases hform with
        | letRule _ haction =>
          exact hends rfl _ (List.mem_map_of_mem (mem_kinds _)) (endsIn_trimEnd.1 haction)
        | group hspells => exact hgroup ⟨rfl, hspells⟩
  · refine Or.inr ⟨.letRule test' kind' [], ?_, .letRule htest (endsIn_trimEnd.2 hends)⟩
    obtain rfl : b = [] := hb
    rw [letRule?, hcut', Option.map_some]
    rfl

omit hwne

theorem breakOn?_append_blanks (h : breakOn? cs = some form) :
    breakOn? (cs ++ w) = some form ∧ ∀ form', ¬ Completes form form' := by
  obtain ⟨ds, hds, rfl⟩ := Option.map_eq_some_iff.1 h
  obtain ⟨es, hblanks, hword⟩ := Option.bind_eq_some_iff.1 hds
  have hne : es ≠ [] := by
    rintro rfl
    cases hword
  obtain ⟨_, hsolid, _⟩ := words_eq_of_dropWordBlanks? (by decide) hword
  refine ⟨?_, fun form' hform' => by cases hform'⟩
  rw [breakOn?, dropBlanks?_append_of_ne_nil hblanks hne, Option.bind_some,
    dropWordBlanks?_append hword, Option.map_some, trimEnd_trimStart_append hw hsolid]

theorem readName?_append_blanks {name : List Char} (h : readName? cs = some (name, r)) :
    readName? (cs ++ w) = some (name, r ++ w) := by
  cases cs with
  | nil => cases h
  | cons c cs =>
    rw [readName?] at h
    split at h
    next hc =>
      obtain ⟨rfl, rfl⟩ := Prod.mk.inj (Option.some.inj h)
      have hname : ∀ d ∈ cs.takeWhile Unicode.isWord, Unicode.isWord d = true :=
        fun d hd => List.mem_takeWhile_imp hd
      have hrest : ∀ d ∈ (cs.dropWhile Unicode.isWord ++ w).head?, Unicode.isWord d = false := by
        cases hdrop : cs.dropWhile Unicode.isWord with
        | nil =>
          exact fun d hd =>
            Unicode.isWord_of_isBlank (List.all_eq_true.1 hw d (List.mem_of_mem_head? hd))
        | cons e es =>
          exact fun d hd => head?_dropWhile_eq_false Unicode.isWord cs d (by rw [hdrop]; exact hd)
      obtain ⟨htake, hdrop⟩ := takeWhile_append_of_head? hname hrest
      rw [← List.append_assoc, List.takeWhile_append_dropWhile] at htake hdrop
      rw [List.cons_append, readName?, if_pos hc, htake, hdrop]
    next => cases h

theorem readValue?_append_blanks (cs : List Char) : readValue? (cs ++ w) = readValue? cs := by
  have hsolid := startsSolid_trimStart cs
  rw [readValue?, readValue?, ← trimStart_append_trimStart]
  cases htrim : trimStart cs with
  | nil =>
    have hnil : trimStart w = [] := List.dropWhile_eq_nil_iff.2 (List.all_eq_true.1 hw)
    rw [List.nil_append, hnil]
  | cons c ds =>
    rw [htrim] at hsolid
    rw [trimStart_of_startsSolid ((startsSolid_append (List.cons_ne_nil c ds)).2 hsolid),
      List.cons_append]
    dsimp only
    rw [trim_append hw]

theorem define?_append_blanks (h : define? cs = some form) :
    define? (cs ++ w) = some form ∧ ∀ form', ¬ Completes form form' := by
  obtain ⟨ds, hblanks, hname⟩ := Option.bind_eq_some_iff.1 h
  obtain ⟨⟨name, r⟩, hread, hform⟩ := Option.bind_eq_some_iff.1 hname
  obtain ⟨value, hvalue, rfl⟩ := Option.map_eq_some_iff.1 hform
  have hne : ds ≠ [] := by
    rintro rfl
    cases hread
  refine ⟨?_, fun form' hform' => by cases hform'⟩
  rw [define?, dropBlanks?_append_of_ne_nil hblanks hne, Option.bind_some,
    readName?_append_blanks hw hread, Option.bind_some]
  dsimp only
  rw [readValue?_append_blanks hw, hvalue]
  rfl

include hwne

/-- **The form of a line with blanks behind it** is that of the line, unless they complete a separator
at the end of it. -/
theorem read?_append_blanks (h : read? cs = some form) :
    ReadsOrCompletes read? form (cs ++ w) := by
  obtain ⟨⟨word, form?⟩, hmem, hform⟩ := List.exists_of_findSome?_eq_some h
  obtain ⟨r, hword, hform⟩ := Option.bind_eq_some_iff.1 hform
  have hne : trimStart cs ≠ [] := by
    intro hnil
    obtain ⟨c, letters, hletters⟩ :=
      List.exists_cons_of_ne_nil (isKeyword_of_mem_keywords _ hmem).1
    rw [hnil, hletters] at hword
    cases hword
  have hword' : dropWord? word.toList (trimStart (cs ++ w)) = some (r ++ w) := by
    rw [← trimStart_append_trimStart,
      trimStart_of_startsSolid ((startsSolid_append hne).2 (startsSolid_trimStart cs))]
    exact dropWord?_append hword w
  have hforms : ReadsOrCompletes form? form (r ++ w) := by
    simp only [keywords, List.mem_cons, Prod.mk.injEq, List.not_mem_nil, or_false] at hmem
    rcases hmem with ⟨_, rfl⟩ | ⟨_, rfl⟩ | ⟨_, rfl⟩ | ⟨_, rfl⟩
    · exact ifRule?_append_blanks hw hwne hform
    · exact letRule?_append_blanks hw hwne hform
    · exact Or.inl (breakOn?_append_blanks hw hform)
    · exact Or.inl (define?_append_blanks hw hform)
  rcases hforms with ⟨hsame, hnone⟩ | ⟨form', hform', hcompletes⟩
  · exact Or.inl ⟨read?_of_dropWord? hmem hword' hsame, hnone⟩
  · exact Or.inr ⟨form', read?_of_dropWord? hmem hword' hform', hcompletes⟩

end Readers

end Form

/-! ### Specifications -/

namespace Specification

/-- What a specification of one line becomes if a blank behind the line completes a separator at the
end of it. -/
inductive Completes : Specification → Specification → Prop
  | ifRule {test action : String} {p : Position} : test ≠ "" →
      Form.EndsIn ["then"] action.toList →
      Completes { ifRules := [⟨"", action, p⟩] } { ifRules := [⟨test, "", p⟩] }
  | letRule {test action : String} {kind kind' : LetKind} {p : Position} : test ≠ "" →
      Form.EndsIn kind'.words action.toList →
      Completes { letRules := [⟨"", kind, action, p⟩] } { letRules := [⟨test, kind', "", p⟩] }
  | group {test action : String} {p : Position} : Form.Spells action.toList "group" →
      Completes { letRules := [⟨test, .be, action, p⟩] } { letRules := [⟨test, .beGroup, "", p⟩] }

end Specification

variable {cs w : List Char} {file : String} {s : Specification} {p : Position} {form form' : Form}

theorem Form.Completes.exists_entry [Regex.Engine] {entry : Entry} (h : Form.Completes form form')
    (hentry : Entry.ofForm p form = .ok entry) : ∃ entry', Entry.ofForm p form' = .ok entry' ∧
      Specification.Completes (.collect [entry]) (.collect [entry']) := by
  cases h with
  | ifRule htest haction =>
    obtain rfl := Except.ok.inj hentry
    exact ⟨_, rfl, .ifRule (by simpa using htest) (by rwa [String.toList_ofList])⟩
  | letRule htest haction =>
    obtain rfl := Except.ok.inj hentry
    exact ⟨_, rfl, .letRule (by simpa using htest) (by rwa [String.toList_ofList])⟩
  | group hspells =>
    obtain rfl := Except.ok.inj hentry
    exact ⟨_, rfl, .group (by rwa [String.toList_ofList])⟩

theorem eq_of_ofForm_ifRule [Regex.Engine] {rule : IfRule}
    (h : Entry.ofForm p form = .ok (.ifRule rule)) :
    form = .ifRule rule.test.toList rule.action.toList := by
  cases form with
  | ifRule =>
    obtain rfl := Entry.ifRule.inj (Except.ok.inj h)
    rw [String.toList_ofList, String.toList_ofList]
  | letRule | define => cases h
  | breakOn =>
    rw [Entry.ofForm] at h
    split at h <;> cases h

theorem eq_of_ofForm_letRule [Regex.Engine] {rule : LetRule}
    (h : Entry.ofForm p form = .ok (.letRule rule)) :
    form = .letRule rule.test.toList rule.kind rule.action.toList := by
  cases form with
  | letRule =>
    obtain rfl := Entry.letRule.inj (Except.ok.inj h)
    rw [String.toList_ofList, String.toList_ofList]
  | ifRule | define => cases h
  | breakOn =>
    rw [Entry.ofForm] at h
    split at h <;> cases h

theorem eq_of_collect_ifRules {entry : Entry} {rule : IfRule}
    (h : (Specification.collect [entry]).ifRules = [rule]) : entry = .ifRule rule := by
  cases entry with
  | ifRule => exact congrArg Entry.ifRule (List.cons.inj h).1
  | letRule | breakOn | define => exact absurd h.symm (List.cons_ne_nil _ _)

theorem eq_of_collect_letRules {entry : Entry} {rule : LetRule}
    (h : (Specification.collect [entry]).letRules = [rule]) : entry = .letRule rule := by
  cases entry with
  | letRule => exact congrArg Entry.letRule (List.cons.inj h).1
  | ifRule | breakOn | define => exact absurd h.symm (List.cons_ne_nil _ _)

theorem Specification.Completes.exists_form [Regex.Engine] {entry : Entry} {t : Specification}
    (h : Specification.Completes (.collect [entry]) t) (hentry : Entry.ofForm p form = .ok entry) :
    ∃ form', Form.Completes form form' := by
  have hne : ['x'] ≠ [] := by simp
  generalize hs : Specification.collect [entry] = s at h
  cases h with
  | ifRule _ haction =>
    obtain rfl := eq_of_collect_ifRules (congrArg Specification.ifRules hs)
    rw [eq_of_ofForm_ifRule hentry]
    exact ⟨_, .ifRule hne haction⟩
  | letRule _ haction =>
    obtain rfl := eq_of_collect_letRules (congrArg Specification.letRules hs)
    rw [eq_of_ofForm_letRule hentry]
    exact ⟨_, .letRule hne haction⟩
  | group hspells =>
    obtain rfl := eq_of_collect_letRules (congrArg Specification.letRules hs)
    rw [eq_of_ofForm_letRule hentry]
    exact ⟨_, .group hspells⟩

/-- A specification is never what it becomes, as the action is empty then and was not before. -/
theorem Specification.Completes.ne {s t : Specification} (h : Specification.Completes s t) : s ≠ t := by
  intro heq
  cases h with
  | ifRule htest _ =>
    have hrules := congrArg Specification.ifRules heq
    simp only [List.cons.injEq, IfRule.mk.injEq] at hrules
    exact htest hrules.1.1.symm
  | letRule htest _ =>
    have hrules := congrArg Specification.letRules heq
    simp only [List.cons.injEq, LetRule.mk.injEq] at hrules
    exact htest hrules.1.1.symm
  | group =>
    have hrules := congrArg Specification.letRules heq
    simp at hrules

/-! ### Lines -/

theorem isSilent_append_blanks (hw : w.all isBlank = true) (cs : List Char) :
    Entry.isSilent (cs ++ w) = Entry.isSilent cs := by
  cases cs with
  | nil =>
    rw [List.nil_append, Entry.isSilent, hw, Bool.or_true]
    rfl
  | cons c cs =>
    rw [Entry.isSilent, Entry.isSilent, List.all_append, hw, Bool.and_true]
    rfl

theorem Specification.not_completes_nil (t : Specification) :
    ¬ Specification.Completes (.collect []) t := by
  intro h
  generalize hs : Specification.collect [] = s at h
  cases h with
  | ifRule => exact absurd (congrArg Specification.ifRules hs) (by simp [Specification.collect])
  | letRule | group =>
    exact absurd (congrArg Specification.letRules hs) (by simp [Specification.collect])

theorem ofLine_append_blanks [Regex.Engine] {entry : Option Entry} (hw : w.all isBlank = true)
    (hwne : w ≠ []) (h : Entry.ofLine p cs = .ok entry) :
    (Entry.ofLine p (cs ++ w) = .ok entry ∧
        ∀ t, ¬ Specification.Completes (.collect entry.toList) t) ∨
      ∃ entry', Entry.ofLine p (cs ++ w) = .ok entry' ∧
        Specification.Completes (.collect entry.toList) (.collect entry'.toList) := by
  rw [Entry.ofLine] at h ⊢
  rw [isSilent_append_blanks hw]
  by_cases hsilent : Entry.isSilent cs = true
  · rw [if_pos hsilent] at h ⊢
    obtain rfl := Except.ok.inj h
    exact Or.inl ⟨rfl, Specification.not_completes_nil⟩
  · rw [if_neg hsilent] at h ⊢
    cases hread : Form.read? cs with
    | none =>
      rw [hread] at h
      cases h
    | some form =>
      rw [hread] at h
      obtain ⟨e, he, rfl⟩ := exists_of_map_eq_ok h
      rcases Form.read?_append_blanks hw hwne hread with ⟨hsame, hnone⟩ | ⟨form', hform', hcompletes⟩
      · refine Or.inl ⟨by rw [hsame]; exact h, fun t ht => ?_⟩
        obtain ⟨form', hform'⟩ := ht.exists_form he
        exact hnone form' hform'
      · obtain ⟨e', he', hspec⟩ := hcompletes.exists_entry he
        refine Or.inr ⟨some e', ?_, hspec⟩
        rw [hform']
        show (Entry.ofForm p form').map some = .ok (some e')
        rw [he']
        rfl

/-- **Blanks behind a line.**  A line that is read is read also with spaces and tabs behind it, and as
the same, with one exception: the blanks may complete a separator that stands at the end of the line. -/
theorem read_append_blanks [Regex.Engine] {l w : String} (hl : '\n' ∉ l.toList)
    (hw : ∀ c ∈ w.toList, c = ' ' ∨ c = '\t') (h : Specification.read l file = .ok s) :
    ∃ t, Specification.read (l ++ w) file = .ok t ∧
      (t = s ↔ w = "" ∨ ∀ t', ¬ s.Completes t') ∧ (t ≠ s → s.Completes t) := by
  by_cases hempty : w = ""
  · exact ⟨s, by rwa [hempty, String.append_empty], by simp [hempty], fun hne => absurd rfl hne⟩
  have hne : w.toList ≠ [] := by simpa using hempty
  have hblank : w.toList.all isBlank = true := by
    rw [List.all_eq_true]
    intro c hc
    rcases hw c hc with rfl | rfl <;> rfl
  have hnewline : '\n' ∉ l.toList ++ w.toList := by
    rw [List.mem_append, not_or]
    refine ⟨hl, fun hmem => ?_⟩
    rcases hw _ hmem with h | h <;> exact absurd h (by decide)
  rw [← String.ofList_toList (s := l), read_line_eq_ok hl] at h
  obtain ⟨entry, hentry, rfl⟩ := h
  obtain ⟨e, he, hle⟩ := exists_dropEnd_append Entry.isLineEnd l.toList
  have hline : dropEnd Entry.isLineEnd (l.toList ++ w.toList) =
      dropEnd Entry.isLineEnd l.toList ++ (e ++ w.toList) := by
    -- the returns at the end of the line are behind the last character no longer, so they stay
    rw [← List.append_assoc, ← hle]
    refine dropEnd_eq_self fun c hc => ?_
    rw [List.getLast?_append_of_ne_nil _ hne] at hc
    rcases hw c (List.mem_of_mem_getLast? hc) with rfl | rfl <;> rfl
  have hblanks : (e ++ w.toList).all isBlank = true := by
    rw [List.all_append, hblank, Bool.and_true, List.all_eq_true]
    exact fun c hc => isBlank_of_isLineEnd (List.all_eq_true.1 he c hc)
  have hread : ∀ {entry'}, Entry.ofLine ⟨0, file⟩ (dropEnd Entry.isLineEnd l.toList ++
      (e ++ w.toList)) = .ok entry' →
      Specification.read (l ++ w) file = .ok (.collect entry'.toList) := by
    intro entry' hentry'
    rw [← String.ofList_toList (s := l ++ w), String.toList_append,
      read_line_eq_ok hnewline, hline]
    exact ⟨entry', hentry', rfl⟩
  rcases ofLine_append_blanks hblanks (by simp [hne]) hentry with
    ⟨hsame, hnone⟩ | ⟨entry', hentry', hcompletes⟩
  · exact ⟨_, hread hsame, ⟨fun _ => Or.inr hnone, fun _ => rfl⟩, fun hne => absurd rfl hne⟩
  · refine ⟨_, hread hentry', ⟨fun heq => absurd heq.symm hcompletes.ne, ?_⟩, fun _ => hcompletes⟩
    rintro (hw | hnone)
    · exact absurd hw hempty
    · exact absurd hcompletes (hnone _)

/-- A line that a blank does not change, and one at the end of which it completes a `then`. -/
theorem read_append_blanks_then :
    Specification.read ("if 'a' then #t" ++ "\t ") "sample" =
      .ok { ifRules := [⟨"'a'", "#t", ⟨0, "sample"⟩⟩] } ∧
    ∃ t, Specification.read ("if  then then" ++ " ") "sample" = .ok t ∧
      Specification.Completes { ifRules := [⟨"", "then", ⟨0, "sample"⟩⟩] } t := by
  have hplain : Specification.read "if 'a' then #t" "sample" =
      .ok { ifRules := [⟨"'a'", "#t", ⟨0, "sample"⟩⟩] } := by cbv
  have hopen : Specification.read "if  then then" "sample" =
      .ok { ifRules := [⟨"", "then", ⟨0, "sample"⟩⟩] } := by cbv
  constructor
  · obtain ⟨t, ht, hsame, _⟩ := read_append_blanks (w := "\t ") (by decide) (by simp) hplain
    rw [ht, hsame.2 (Or.inr fun t' ht' => ?_)]
    generalize hs : Specification.mk [⟨"'a'", "#t", ⟨0, "sample"⟩⟩] [] Pattern.defaultBreak [] = s
      at ht'
    cases ht' with
    | ifRule => simpa using congrArg Specification.ifRules hs
    | letRule | group => simpa using congrArg Specification.letRules hs
  · obtain ⟨t, ht, hsame, hcompletes⟩ := read_append_blanks (w := " ") (by decide) (by simp) hopen
    have hends : Form.EndsIn ["then"] "then".toList :=
      ⟨["then".toList], .cons (by decide) .nil, [], by decide⟩
    have hopen' : Specification.Completes { ifRules := [⟨"", "then", ⟨0, "sample"⟩⟩] }
        { ifRules := [⟨"then", "", ⟨0, "sample"⟩⟩] } := .ifRule (by decide) hends
    refine ⟨t, ht, hcompletes fun heq => ?_⟩
    rcases hsame.1 heq with hw | hnone
    · exact absurd hw (by decide)
    · exact hnone _ hopen'

/-- With a blank behind the last word, the kind and the action of the rule are others. -/
theorem group_before_blank :
    Specification.read "let 'a' be group" "<spec>" =
      .ok { letRules := [⟨"'a'", .be, "group", ⟨0, "<spec>"⟩⟩] } ∧
    Specification.read "let 'a' be group " "<spec>" =
      .ok { letRules := [⟨"'a'", .beGroup, "", ⟨0, "<spec>"⟩⟩] } ∧
    ¬ ∀ (l w file : String) (s : Specification), '\n' ∉ l.toList →
      (∀ c ∈ w.toList, c = ' ' ∨ c = '\t') → Specification.read l file = .ok s →
      ∃ t, Specification.read (l ++ w) file = .ok t ∧
        t.letRules.map (fun rule => (rule.test, rule.kind, rule.action)) =
          s.letRules.map fun rule => (rule.test, rule.kind, rule.action) := by
  have hline : Specification.read "let 'a' be group" "<spec>" =
      .ok { letRules := [⟨"'a'", .be, "group", ⟨0, "<spec>"⟩⟩] } := by cbv
  have hblank : Specification.read "let 'a' be group " "<spec>" =
      .ok { letRules := [⟨"'a'", .beGroup, "", ⟨0, "<spec>"⟩⟩] } := by cbv
  refine ⟨hline, hblank, fun hall => ?_⟩
  obtain ⟨t, ht, hrules⟩ := hall "let 'a' be group" " " "<spec>" _ (by decide) (by simp) hline
  obtain rfl := Except.ok.inj (hblank.symm.trans ht)
  exact absurd hrules (by decide)

end RuleLexer
