import RuleLexer.CommandLine
import RuleLexer.Proofs.TagNames
import RuleLexer.Proofs.Text.Line
import RuleLexer.Proofs.Text.Quoted

/-!
# The printed output

The program prints each token on a line of its own (`CommandLine.run_of_finds`): the quoted text, and
behind it the tags in brackets, with blanks between them.

* A text may have quotes, brackets and newlines in it, but between quotes it is one line whose end can
  be told (`Text.quoted_append_inj`).
* The tags of tokens are words (`areNames_of_tokenize`), so that no tag has a blank in it.

Hence **the printed output determines the tokens** (`printed_determines_tokens`).
-/

namespace RuleLexer

open Text

/-! ### Words between blanks -/

theorem IsTagName.notMem_of_isBlank {name : String} {c : Char} (h : IsTagName name)
    (hc : isBlank c = true) : c ∉ name.toList := by
  intro hmem
  have hword := h.2 c hmem
  rw [Unicode.isWord_of_isBlank hc] at hword
  exact Bool.false_ne_true hword

theorem notMem_intercalate {c d : Char} {parts : List (List Char)} (hd : c ≠ d)
    (hparts : ∀ part ∈ parts, c ∉ part) : c ∉ [d].intercalate parts := by
  induction parts with
  | nil => simp
  | cons part parts ih =>
    obtain ⟨hpart, hrest⟩ := List.forall_mem_cons.1 hparts
    cases parts with
    | nil => simpa using hpart
    | cons next parts =>
      rw [List.intercalate_cons_cons]
      simp only [List.mem_append, List.mem_singleton, not_or]
      exact ⟨⟨hpart, hd⟩, ih hrest⟩

/-! ### The tags of a token -/

/-- A tag as it is printed. -/
def tagText (name : String) : List Char :=
  '#' :: name.toList

/-- Tags as they are printed behind a text. -/
def tagList (names : List String) : List Char :=
  if names = [] then []
  else ' ' :: '[' :: ([' '].intercalate (names.map tagText) ++ [']'])

theorem tagText_injective : Function.Injective tagText := fun _ _ h =>
  String.toList_inj.1 (List.cons.inj h).2

theorem notMem_tagText {names : List String} (h : ∀ name ∈ names, IsTagName name) {c : Char}
    (hc : isBlank c = true) (hmark : c ≠ '#') : ∀ part ∈ names.map tagText, c ∉ part := by
  intro part hpart
  obtain ⟨name, hname, rfl⟩ := List.mem_map.1 hpart
  rw [tagText, List.mem_cons, not_or]
  exact ⟨hmark, (h name hname).notMem_of_isBlank hc⟩

theorem newline_notMem_tagList {names : List String} (h : ∀ name ∈ names, IsTagName name) :
    '\n' ∉ tagList names := by
  rw [tagList]
  split
  next => exact List.not_mem_nil
  next =>
    have hinner := notMem_intercalate (c := '\n') (d := ' ') (by decide)
      (notMem_tagText h (by decide) (by decide))
    simp [hinner]

/-- **The tags can be told from the list in brackets.** -/
theorem tagList_injective {names names' : List String} (h : ∀ name ∈ names, IsTagName name)
    (h' : ∀ name ∈ names', IsTagName name) (heq : tagList names = tagList names') :
    names = names' := by
  by_cases hnil : names = []
  · by_cases hnil' : names' = []
    · rw [hnil, hnil']
    · simp [tagList, hnil, hnil'] at heq
  · by_cases hnil' : names' = []
    · simp [tagList, hnil, hnil'] at heq
    · rw [tagList, tagList, if_neg hnil, if_neg hnil', List.cons.injEq, List.cons.injEq] at heq
      have hinner := List.append_cancel_right heq.2.2
      -- no tag has a blank in it, so that the list is split where it was put together
      have hsplit : ∀ {names : List String}, names ≠ [] → (∀ name ∈ names, IsTagName name) →
          ([' '].intercalate (names.map tagText)).splitOn ' ' = names.map tagText :=
        fun hne hnames => List.splitOn_intercalate ' '
          (notMem_tagText hnames (by decide) (by decide)) (by simpa using hne)
      have hparts := hsplit hnil h
      rw [hinner, hsplit hnil' h'] at hparts
      exact (List.map_injective_iff.2 tagText_injective hparts).symm

/-! ### Tokens and their lines -/

theorem Token.toList_describe (t : Token) :
    t.describe.toList = (quoted t.text).toList ++ tagList t.tags.names := by
  have hmap : (t.tags.names.map ("#" ++ ·)).map String.toList = t.tags.names.map tagText := by
    rw [List.map_map]
    exact List.map_congr_left fun name _ => by simp [tagText]
  rw [describe, tagList, TagSet.isEmpty]
  by_cases hnil : t.tags.names = []
  · simp [hnil]
  · simp [hnil, String.toList_intercalate, hmap]

/-- A printed token is one line. -/
theorem Token.newline_notMem_describe {t : Token} (h : t.tags.AreNames) :
    '\n' ∉ t.describe.toList := by
  rw [toList_describe, List.mem_append, not_or]
  exact ⟨newline_notMem_quoted t.text, newline_notMem_tagList h⟩

/-- **A token can be told from its line.** -/
theorem Token.describe_injective {t u : Token} (ht : t.tags.AreNames) (hu : u.tags.AreNames)
    (h : t.describe = u.describe) : t = u := by
  have hlists := congrArg String.toList h
  rw [toList_describe, toList_describe] at hlists
  obtain ⟨htext, htags⟩ := quoted_append_inj hlists
  have hnames := tagList_injective ht hu htags
  obtain ⟨text, names, increasing⟩ := t
  obtain ⟨text', names', increasing'⟩ := u
  simp only at htext hnames
  subst htext hnames
  rfl

/-- What is printed for tokens. -/
def printed (ts : List Token) : String :=
  String.join (ts.map fun t => t.describe ++ "\n")

theorem toList_printed_cons (t : Token) (ts : List Token) :
    (printed (t :: ts)).toList = t.describe.toList ++ '\n' :: (printed ts).toList := by
  simp [printed, String.toList_join]

/-- **Each token has one line.** -/
theorem lines_printed {ts : List Token} (h : ∀ t ∈ ts, t.tags.AreNames) :
    lines (printed ts).toList = ts.map fun t => t.describe.toList ++ ['\n'] := by
  induction ts with
  | nil => rfl
  | cons t ts ih =>
    obtain ⟨ht, hts⟩ := List.forall_mem_cons.1 h
    rw [toList_printed_cons, lines_append_newline (Token.newline_notMem_describe ht), ih hts,
      List.map_cons]

theorem printed_injective {ts us : List Token} (hts : ∀ t ∈ ts, t.tags.AreNames)
    (hus : ∀ u ∈ us, u.tags.AreNames) (h : printed ts = printed us) : ts = us := by
  have hlines := congrArg (fun s : String => lines s.toList) h
  simp only [lines_printed hts, lines_printed hus] at hlines
  clear h
  induction ts generalizing us with
  | nil =>
    cases us with
    | nil => rfl
    | cons u us => simp at hlines
  | cons t ts ih =>
    cases us with
    | nil => simp at hlines
    | cons u us =>
      obtain ⟨ht, hts⟩ := List.forall_mem_cons.1 hts
      obtain ⟨hu, hus⟩ := List.forall_mem_cons.1 hus
      rw [List.map_cons, List.map_cons, List.cons.injEq] at hlines
      have hline := String.toList_inj.1 (List.append_cancel_right hlines.1)
      rw [Token.describe_injective ht hu hline, ih hts hus hlines.2]

/-! ### The program -/

namespace CommandLine

/-- From the files at two paths, a specification and a text, the program gets the tokens `ts`. -/
def Finds [Regex.Engine] (files : Files) (specPath inputPath : String) (ts : List Token) : Prop :=
  ∃ spec input, readText files specPath = .ok spec ∧ readText files inputPath = .ok input ∧
    tokens spec (fileName specPath) input = .ok ts

variable {files files' : Files} {specPath inputPath specPath' inputPath' : String}
  {ts us : List Token}

theorem run_of_finds [Regex.Engine] (h : Finds files specPath inputPath ts) (program : String) :
    run program [specPath, inputPath] files = { status := 0, stdout := printed ts } := by
  obtain ⟨spec, input, hspec, hinput, htokens⟩ := h
  simp only [run, hspec, hinput, htokens, printed]

theorem areNames_of_finds [Regex.Engine] (h : Finds files specPath inputPath ts) :
    ∀ t ∈ ts, t.tags.AreNames := by
  obtain ⟨spec, input, _, _, htokens⟩ := h
  rw [tokens] at htokens
  split at htokens
  next => simp at htokens
  next =>
    split at htokens
    next => simp at htokens
    next hscanner =>
      split at htokens
      next => simp at htokens
      next hts =>
        obtain rfl := Except.ok.inj htokens
        exact areNames_of_tokenize hscanner (Specification.actsAlone_scanner hscanner rfl) hts

/-- **Runs of the program that print the same have found the same tokens**, whatever the
specifications and the texts. -/
theorem eq_of_stdout_eq [Regex.Engine] {program program' : String}
    (h : Finds files specPath inputPath ts) (h' : Finds files' specPath' inputPath' us)
    (hstdout : (run program [specPath, inputPath] files).stdout =
      (run program' [specPath', inputPath'] files').stdout) : ts = us := by
  rw [run_of_finds h, run_of_finds h'] at hstdout
  exact printed_injective (areNames_of_finds h) (areNames_of_finds h') hstdout

end CommandLine

/-- **The printed output determines the tokens.**  Where no host is called, each tag of each token
that a call returns is a word.  Of such tokens, the lines that are printed are those of the tokens one
by one, and no two lists of tokens are printed alike. -/
theorem printed_determines_tokens [Regex.Engine] :
    (∀ (spec : Specification) (hosts : HostRegistry) (m : Scanner), spec.scanner hosts = .ok m →
      hosts.actions = [] ∨ m.ActsAlone → ∀ (input : String) (ts : List Token),
      m.tokenize input = .ok ts → ∀ t ∈ ts, ∀ name ∈ t.tags.names, IsTagName name) ∧
    (∀ ts us : List Token, (∀ t ∈ ts, t.tags.AreNames) → (∀ u ∈ us, u.tags.AreNames) →
      printed ts = printed us → ts = us) ∧
    ∀ ts : List Token, (∀ t ∈ ts, t.tags.AreNames) →
      lines (printed ts).toList = ts.map fun t => t.describe.toList ++ ['\n'] := by
  refine ⟨fun spec hosts m h hhosts input ts hts => ?_, fun ts us => printed_injective,
    fun ts => lines_printed⟩
  rcases hhosts with hnone | halone
  · exact areNames_of_tokenize h (Specification.actsAlone_scanner h hnone) hts
  · exact areNames_of_tokenize h halone hts

/-- Sets two tags on quotes. -/
def markingQuotes : Specification where
  ifRules := [⟨"'\"'", "#b2 #a", ⟨0, "sample"⟩⟩]

def markingQuotesScanner : Scanner where
  isBreak := Pattern.defaultBreak.matchesChar
  ifRules := [⟨.ifThen, .test .token (.text "\""), 0, [.tag "b2", .tag "a"], ⟨0, "sample"⟩⟩]
  letRules := []
  definitions := {}

theorem printed_determines_tokens_marking :
    markingQuotes.scanner {} = .ok markingQuotesScanner ∧
    markingQuotesScanner.tokenize "\"\n" = .ok [⟨"\"", .ofList ["a", "b2"]⟩, ⟨"\n", .empty⟩] ∧
    lines "\"\\\"\" [#a #b2]\n\"\\n\"\n".toList =
      ["\"\\\"\" [#a #b2]\n".toList, "\"\\n\"\n".toList] ∧
    ∀ us : List Token, (∀ u ∈ us, u.tags.AreNames) →
      printed us = "\"\\\"\" [#a #b2]\n\"\\n\"\n" →
      us = [⟨"\"", .ofList ["a", "b2"]⟩, ⟨"\n", .empty⟩] := by
  obtain ⟨hnames, hinjective, hlines⟩ := printed_determines_tokens
  have hscanner : markingQuotes.scanner {} = .ok markingQuotesScanner := by cbv
  have hts : markingQuotesScanner.tokenize "\"\n" =
      .ok [⟨"\"", .ofList ["a", "b2"]⟩, ⟨"\n", .empty⟩] := by cbv
  have hprinted : printed [⟨"\"", .ofList ["a", "b2"]⟩, ⟨"\n", .empty⟩] =
      "\"\\\"\" [#a #b2]\n\"\\n\"\n" := by cbv
  have hwords := hnames _ _ _ hscanner (Or.inl rfl) _ _ hts
  have hcut := hlines _ hwords
  rw [hprinted] at hcut
  refine ⟨hscanner, hts, hcut.trans (by decide), fun us hus h => ?_⟩
  exact hinjective us _ hus hwords (h.trans hprinted.symm)

end RuleLexer
