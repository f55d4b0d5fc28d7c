import RuleLexer.Proofs.Specification.Literals

/-!
# Separators by their words

Keywords are read where the words of a text spell them and the text goes on behind them, with a word or
with a blank (`Separates`).  The two readers of separators are readers of such keywords
(`reads_thenSeparator?`, `reads_kindSeparator?`), and no separator begins inside another
(`IsSeparators.eq_nil_of_forall₂`).

So a blank behind a text matters in one place only: a separator at the end of the text is read with it
and not without it (`Separates.of_append_blanks`).
-/

namespace RuleLexer.Form

open Text

variable {α : Type} {a : α} {cs ds q r w k : List Char} {ks before after : List (List Char)}
  {word : String} {ws ws' : List String} {wss : List (List String)}

/-! ### Reading keywords -/

theorem words_eq_of_dropWordBlanks? (hword : IsPlainKeyword word)
    (h : dropWordBlanks? word cs = some ds) :
    (∃ k, Spells k word ∧ words cs = k :: words ds) ∧ StartsSolid ds ∧
      (EndsSolid cs → ds ≠ [] ∧ EndsSolid ds) := by
  rw [dropWordBlanks?, Option.bind_eq_some_iff] at h
  obtain ⟨es, hdrop, hblanks⟩ := h
  obtain ⟨hne, hstop, rfl⟩ := dropBlanks?_eq_some.1 hblanks
  obtain ⟨k, hspells, rfl⟩ := exists_spells_of_dropWord? hword hdrop
  refine ⟨⟨k, hspells, ?_⟩, startsSolid_trimStart es, fun hends => ?_⟩
  · rw [hspells.words_append hword.1 hstop, words_trimStart]
  · exact ⟨trimStart_ne_nil hne hends.of_append, hends.of_append.trimStart⟩

/-- **The keywords that are read are the first words.**  Something stands behind them, at the latest a
blank. -/
theorem words_eq_of_dropWords? (hws : ∀ word ∈ ws, IsPlainKeyword word) (hs : StartsSolid cs)
    (h : dropWords? ws cs = some ds) :
    (∃ ks, List.Forall₂ Spells ks ws ∧ words cs = ks ++ words ds) ∧ StartsSolid ds ∧
      (EndsSolid cs → cs ≠ [] → ds ≠ []) := by
  induction ws generalizing cs with
  | nil =>
    obtain rfl := Option.some.inj h
    exact ⟨⟨[], .nil, rfl⟩, hs, fun _ hne => hne⟩
  | cons word ws ih =>
    rw [dropWords?_cons, Option.bind_eq_some_iff] at h
    obtain ⟨es, hdrop, hrest⟩ := h
    obtain ⟨⟨k, hspells, hcs⟩, hes, hends⟩ :=
      words_eq_of_dropWordBlanks? (hws word List.mem_cons_self) hdrop
    obtain ⟨⟨ks, hks, hwords⟩, hds, hne⟩ :=
      ih (fun word' hword' => hws word' (List.mem_cons_of_mem _ hword')) hes hrest
    exact ⟨⟨k :: ks, .cons hspells hks, by rw [hcs, hwords, List.cons_append]⟩, hds,
      fun hend _ => hne (hends hend).2 (hends hend).1⟩

/-- **First words that spell keywords are read**, if something stands behind them. -/
theorem isSome_dropWords?_of_words (hws : ∀ word ∈ ws, IsKeyword word)
    (hks : List.Forall₂ Spells ks ws) (hwords : words cs = ks ++ after)
    (hafter : after ≠ [] ∨ ¬ EndsSolid cs) : (dropWords? ws (trimStart cs)).isSome = true := by
  induction hks generalizing cs with
  | nil => rfl
  | @cons k word ks ws hspells hks ih =>
    have hword := hws word List.mem_cons_self
    obtain ⟨bs, ds, hbs, rfl, _, hstop, hds⟩ := exists_of_words_eq_cons hwords
    have hne : ds ≠ [] := by
      rintro rfl
      obtain ⟨rfl, rfl⟩ := List.append_eq_nil_iff.1 hds.symm
      refine hafter.elim (fun h => h rfl) fun hends => hends ?_
      rw [List.append_nil, endsSolid_append (hspells.ne_nil hword)]
      exact fun c hc => hspells.isBlank_eq_false hword c (List.mem_of_mem_getLast? hc)
    have hblanks : dropBlanks? ds = some (trimStart ds) :=
      dropBlanks?_eq_some.2 ⟨hne, hstop, rfl⟩
    rw [trimStart_append_of_blanks hbs, trimStart_of_startsSolid (hspells.startsSolid hword),
      dropWords?_cons, dropWordBlanks?, dropWord?_spells hspells hword, Option.bind_some, hblanks,
      Option.bind_some]
    refine ih (fun word' h => hws word' (List.mem_cons_of_mem _ h)) hds (hafter.imp_right ?_)
    rintro hends hends'
    exact hends (by rwa [← List.append_assoc, endsSolid_append hne])

/-! ### What stands behind keywords -/

theorem dropWord?_append {letters : List Char} (h : dropWord? letters cs = some ds) (w : List Char) :
    dropWord? letters (cs ++ w) = some (ds ++ w) := by
  induction letters generalizing cs with
  | nil =>
    obtain rfl := Option.some.inj h
    rfl
  | cons c letters ih =>
    cases cs with
    | nil => cases h
    | cons d cs =>
      rw [dropWord?] at h
      split at h
      next hfold => rw [List.cons_append, dropWord?, if_pos hfold, ih h]
      next => cases h

theorem dropBlanks?_append_right (h : dropBlanks? cs = some ds) (w : List Char) :
    dropBlanks? (cs ++ w) = some (trimStart (cs ++ w)) := by
  obtain ⟨hne, hstop, _⟩ := dropBlanks?_eq_some.1 h
  exact dropBlanks?_eq_some.2 ⟨by simp [hne], (stopsWord_append hne).2 hstop, rfl⟩

theorem dropBlanks?_append_of_ne_nil (h : dropBlanks? cs = some ds) (hne : ds ≠ []) (w : List Char) :
    dropBlanks? (cs ++ w) = some (ds ++ w) := by
  rw [dropBlanks?_append_right h w, ← trimStart_append_trimStart]
  obtain ⟨_, _, rfl⟩ := dropBlanks?_eq_some.1 h
  rw [trimStart_of_startsSolid ((startsSolid_append hne).2 (startsSolid_trimStart cs))]

theorem dropWordBlanks?_append {word : String} (h : dropWordBlanks? word cs = some ds)
    (w : List Char) : dropWordBlanks? word (cs ++ w) = some (trimStart (ds ++ w)) := by
  obtain ⟨es, hdrop, hblanks⟩ := Option.bind_eq_some_iff.1 h
  rw [dropWordBlanks?, dropWord?_append hdrop, Option.bind_some, dropBlanks?_append_right hblanks]
  obtain ⟨_, _, rfl⟩ := dropBlanks?_eq_some.1 hblanks
  rw [trimStart_append_trimStart]

/-- What stands behind keywords goes on with the text. -/
theorem dropWords?_append (hws : ∀ word ∈ ws, word.toList ≠ [])
    (h : dropWords? ws (trimStart cs) = some ds) (w : List Char) :
    dropWords? ws (trimStart (cs ++ w)) = some (trimStart (ds ++ w)) := by
  induction ws generalizing cs with
  | nil =>
    obtain rfl := Option.some.inj h
    exact congrArg some (trimStart_append_trimStart cs w).symm
  | cons word ws ih =>
    rw [dropWords?_cons, Option.bind_eq_some_iff] at h
    obtain ⟨es, hdrop, hrest⟩ := h
    have hne : trimStart cs ≠ [] := by
      intro hnil
      obtain ⟨c, letters, hword⟩ := List.exists_cons_of_ne_nil (hws word List.mem_cons_self)
      rw [hnil, dropWordBlanks?, hword] at hdrop
      cases hdrop
    have hsolid : StartsSolid (trimStart cs ++ w) :=
      (startsSolid_append hne).2 (startsSolid_trimStart cs)
    have hes : trimStart es = es := by
      obtain ⟨es', _, hblanks⟩ := Option.bind_eq_some_iff.1 hdrop
      obtain ⟨_, _, rfl⟩ := dropBlanks?_eq_some.1 hblanks
      exact trimStart_of_startsSolid (startsSolid_trimStart es')
    rw [← trimStart_append_trimStart, trimStart_of_startsSolid hsolid, dropWords?_cons,
      dropWordBlanks?_append hdrop, Option.bind_some]
    refine ih (fun word' hword' => hws word' (List.mem_cons_of_mem _ hword')) ?_
    rwa [hes]

/-! ### Separators -/

/-- Behind a blank the text begins with the words and goes on: `after` are the other words of it, and
if there are none, then there is a blank. -/
structure Separates (ws : List String) (cs : List Char) (after : List (List Char)) : Prop where
  stopsWord : StopsWord cs
  words_eq : ∃ ks, List.Forall₂ Spells ks ws ∧ words cs = ks ++ after
  goesOn : after ≠ [] ∨ ¬ EndsSolid cs

theorem Separates.ne_nil (h : Separates ws cs after) (hne : ws ≠ []) : cs ≠ [] := by
  rintro rfl
  obtain ⟨ks, hks, hwords⟩ := h.words_eq
  obtain ⟨rfl, _⟩ := List.append_eq_nil_iff.1 hwords.symm
  exact hne (List.forall₂_nil_left_iff.1 hks)

theorem separates_of_dropWords? (hws : ∀ word ∈ ws, IsPlainKeyword word) (hstop : StopsWord cs)
    (hne : ws ≠ []) (h : dropWords? ws (trimStart cs) = some ds) :
    Separates ws cs (words ds) ∧ StartsSolid ds := by
  obtain ⟨⟨ks, hks, hwords⟩, hds, hsome⟩ :=
    words_eq_of_dropWords? hws (startsSolid_trimStart cs) h
  rw [words_trimStart] at hwords
  refine ⟨⟨hstop, ⟨ks, hks, hwords⟩, ?_⟩, hds⟩
  by_cases hends : EndsSolid cs
  · refine Or.inl (words_ne_nil hds (hsome hends.trimStart ?_))
    rintro hnil
    rw [← words_trimStart, hnil, words_nil] at hwords
    obtain ⟨rfl, _⟩ := List.append_eq_nil_iff.1 hwords.symm
    exact hne (List.forall₂_nil_left_iff.1 hks)
  · exact Or.inr hends

/-- **A blank behind a text does not take a separator away.** -/
theorem Separates.append_blanks (h : Separates ws cs after) (hne : ws ≠ [])
    (hw : w.all isBlank = true) (hwne : w ≠ []) : Separates ws (cs ++ w) after where
  stopsWord := (stopsWord_append (h.ne_nil hne)).2 h.stopsWord
  words_eq := by rw [words_append_blanks hw]; exact h.words_eq
  goesOn := Or.inr (not_endsSolid_append hw hwne cs)

/-- **The separator that a blank behind a text adds** is the end of the text. -/
theorem Separates.of_append_blanks (h : Separates ws (cs ++ w) after) (hne : cs ≠ [])
    (hw : w.all isBlank = true) :
    Separates ws cs after ∨ after = [] ∧ EndsSolid cs ∧ List.Forall₂ Spells (words cs) ws := by
  have hstop := (stopsWord_append hne).1 h.stopsWord
  obtain ⟨ks, hks, hwords⟩ := h.words_eq
  rw [words_append_blanks hw] at hwords
  by_cases hgoes : after ≠ [] ∨ ¬ EndsSolid cs
  · exact Or.inl ⟨hstop, ⟨ks, hks, hwords⟩, hgoes⟩
  · rw [not_or, not_not, not_not] at hgoes
    obtain ⟨rfl, hends⟩ := hgoes
    rw [List.append_nil] at hwords
    exact Or.inr ⟨rfl, hends, hwords ▸ hks⟩

/-- The words of separators.  The first word of a separator is in another only as the first. -/
structure IsSeparators (wss : List (List String)) : Prop where
  isPlainKeyword : ∀ ws ∈ wss, ∀ word ∈ ws, IsPlainKeyword word
  ne_nil : ∀ ws ∈ wss, ws ≠ []
  head_not_mem : ∀ ws ∈ wss, ∀ ws' ∈ wss, ∀ word ∈ ws.head?, word ∉ ws'.tail

instance (wss : List (List String)) : Decidable (IsSeparators wss) :=
  decidable_of_iff ((∀ ws ∈ wss, ∀ word ∈ ws, IsPlainKeyword word) ∧ (∀ ws ∈ wss, ws ≠ []) ∧
      ∀ ws ∈ wss, ∀ ws' ∈ wss, ∀ word ∈ ws.head?, word ∉ ws'.tail)
    ⟨fun h => ⟨h.1, h.2.1, h.2.2⟩, fun h => ⟨h.1, h.2, h.3⟩⟩

/-- **No separator begins inside another.** -/
theorem IsSeparators.eq_nil_of_forall₂ (hwss : IsSeparators wss) (hws : ws ∈ wss) (hws' : ws' ∈ wss)
    (hks : List.Forall₂ Spells (k :: ks) ws)
    (hks' : List.Forall₂ Spells (before ++ k :: after) ws') : before = [] := by
  obtain ⟨word, ws, hspells, _, rfl⟩ := List.forall₂_cons_left_iff.1 hks
  cases before with
  | nil => rfl
  | cons k' before =>
    rw [List.cons_append] at hks'
    obtain ⟨word', ws', _, htail, rfl⟩ := List.forall₂_cons_left_iff.1 hks'
    have hbehind := List.forall₂_drop before.length htail
    rw [List.drop_left] at hbehind
    obtain ⟨word'', more, hspells', _, hmore⟩ := List.forall₂_cons_left_iff.1 hbehind
    have hmem : word'' ∈ ws' := List.mem_of_mem_drop (hmore ▸ List.mem_cons_self)
    obtain rfl := hspells.eq hspells'
    exact absurd hmem (hwss.head_not_mem _ hws _ hws' word rfl)

/-- A reader finds the separators: where it finds one, `key` are its words and `rest` is what follows,
and where one is, it finds one. -/
structure Reads (separator? : List Char → Option α) (key : α → List String) (rest : α → List Char)
    (wss : List (List String)) : Prop where
  isSeparators : IsSeparators wss
  sound : ∀ {cs : List Char} {a : α}, separator? cs = some a →
    key a ∈ wss ∧ Separates (key a) cs (words (rest a)) ∧ StartsSolid (rest a)
  complete : ∀ {ws : List String} {cs : List Char} {after : List (List Char)}, ws ∈ wss →
    Separates ws cs after → (separator? cs).isSome = true

theorem dropBlanks?_of_separates (h : Separates ws cs after) (hne : ws ≠ []) :
    dropBlanks? cs = some (trimStart cs) :=
  dropBlanks?_eq_some.2 ⟨h.ne_nil hne, h.stopsWord, rfl⟩

theorem reads_thenSeparator? : Reads thenSeparator? (fun _ => ["then"]) id [["then"]] where
  isSeparators := by decide
  sound {cs a} h := by
    rw [thenSeparator?_eq, Option.bind_eq_some_iff] at h
    obtain ⟨ds, hblanks, hdrop⟩ := h
    obtain ⟨_, hstop, rfl⟩ := dropBlanks?_eq_some.1 hblanks
    exact ⟨List.mem_singleton_self _, separates_of_dropWords? (by decide) hstop (by simp) hdrop⟩
  complete {ws cs after} hws h := by
    obtain rfl := List.mem_singleton.1 hws
    obtain ⟨ks, hks, hwords⟩ := h.words_eq
    rw [thenSeparator?_eq, dropBlanks?_of_separates h (by simp), Option.bind_some]
    exact isSome_dropWords?_of_words (by decide) hks hwords h.goesOn

/-- The kinds in the order in which they are tried. -/
def kinds : List LetKind :=
  [.beGroup, .be, .throw, .expandGroup]

theorem mem_kinds (kind : LetKind) : kind ∈ kinds := by
  cases kind <;> decide

theorem words_kind_ne_nil (kind : LetKind) : kind.words ≠ [] := by
  cases kind <;> decide

theorem exists_of_kindSeparator?_eq_some {kind : LetKind} (h : kindSeparator? cs = some (kind, ds)) :
    dropBlanks? cs = some (trimStart cs) ∧ dropWords? kind.words (trimStart cs) = some ds ∧
      ∃ before after, kinds = before ++ kind :: after ∧
        ∀ kind' ∈ before, dropWords? kind'.words (trimStart cs) = none := by
  rw [kindSeparator?_eq, Option.bind_eq_some_iff] at h
  obtain ⟨es, hblanks, hfind⟩ := h
  obtain ⟨_, _, rfl⟩ := dropBlanks?_eq_some.1 hblanks
  obtain ⟨before, kind', after, hsplit, hkind, hbefore⟩ := List.findSome?_eq_some_iff.1 hfind
  obtain ⟨ds', hds, heq⟩ := Option.map_eq_some_iff.1 hkind
  obtain ⟨rfl, rfl⟩ := Prod.mk.inj heq
  exact ⟨hblanks, hds, before, after, hsplit, fun k hk => Option.map_eq_none_iff.1 (hbefore k hk)⟩

theorem reads_kindSeparator? :
    Reads kindSeparator? (fun a => a.1.words) Prod.snd (kinds.map LetKind.words) where
  isSeparators := by decide
  sound {cs a} h := by
    obtain ⟨kind, ds⟩ := a
    obtain ⟨hblanks, hdrop, _⟩ := exists_of_kindSeparator?_eq_some h
    obtain ⟨_, hstop, _⟩ := dropBlanks?_eq_some.1 hblanks
    exact ⟨List.mem_map_of_mem (mem_kinds kind),
      separates_of_dropWords? isPlainKeyword_of_mem_words hstop (words_kind_ne_nil kind) hdrop⟩
  complete {ws cs after} hws h := by
    obtain ⟨kind, _, rfl⟩ := List.mem_map.1 hws
    obtain ⟨ks, hks, hwords⟩ := h.words_eq
    have hkind : ((dropBlanks? cs).bind (dropWords? kind.words)).isSome = true := by
      rw [dropBlanks?_of_separates h (words_kind_ne_nil kind), Option.bind_some]
      exact isSome_dropWords?_of_words isKeyword_of_mem_words hks hwords h.goesOn
    exact isSome_kindSeparator? hkind

end RuleLexer.Form
