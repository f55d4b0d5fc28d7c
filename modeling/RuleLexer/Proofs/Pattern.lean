import RuleLexer.Proofs.Clause.Cover
import RuleLexer.Regex.Reader
import RuleLexer.Rule.Test

/-!
# Pattern literals

A literal is a slash, a span, a slash and flags.  In a span every backslash takes the next character
with it, and a slash has a backslash before it (`IsSpan`).  The span stands for an expression: a
backslash directly before a slash is left out (`plainSlashes`), everything else is kept.

What an engine for expressions is asked to read, and with which modes, is the `request` of a literal.
It is settled without the engine:

* `request_of_isSpan`: a span between slashes is one request, unless a flag is unknown;
* `request_eq_error_iff`: **which texts are refused before the engine is asked**, and why;
* `request_written`: every expression in which no slash is escaped can be written, with any flags.

`read_written` says this of the reader, for every engine.  Clauses find the ends of their patterns on
their own, by a rule that does not allow newlines.  `split_lexed_pattern` says that **both find the
same end**, so that a pattern of a clause is refused for an unknown flag or by the engine only.
-/

namespace RuleLexer

namespace Pattern

variable {cs span body flags : List Char} {c : Char} {fault : PatternFault}

/-! ### Spans -/

/-- What may stand between the slashes of a literal.  Read from left to right, every backslash takes
the next character with it, and a slash stands only behind such a backslash. -/
inductive IsSpan : List Char → Prop
  | nil : IsSpan []
  | plain {c : Char} {cs : List Char} : c ≠ '/' → c ≠ '\\' → IsSpan cs → IsSpan (c :: cs)
  | escaped {e : Char} {cs : List Char} : IsSpan cs → IsSpan ('\\' :: e :: cs)

/-- The text without the backslashes that stand directly before a slash. -/
def plainSlashes : List Char → List Char
  | [] => []
  | c :: cs => if c = '\\' ∧ cs.head? = some '/' then plainSlashes cs else c :: plainSlashes cs

theorem IsSpan.head?_ne (h : IsSpan cs) : cs.head? ≠ some '/' := by
  cases h with
  | nil => simp
  | plain hslash => simpa using hslash
  | escaped => simp

theorem plainSlashes_cons (h : c = '\\' → cs.head? ≠ some '/') :
    plainSlashes (c :: cs) = c :: plainSlashes cs := by
  rw [plainSlashes, if_neg]
  rintro ⟨hc, hslash⟩
  exact h hc hslash

/-- Leaving backslashes out works on each escape of a span for itself: behind an escaped backslash
there is no slash. -/
theorem plainSlashes_escaped {e : Char} (h : IsSpan cs) : plainSlashes ('\\' :: e :: cs) =
    if e = '/' then '/' :: plainSlashes cs else '\\' :: e :: plainSlashes cs := by
  by_cases he : e = '/'
  · subst he
    have hslash : '/' = '\\' → cs.head? ≠ some '/' := fun h => absurd h (by decide)
    rw [plainSlashes, if_pos ⟨rfl, rfl⟩, if_pos rfl, plainSlashes_cons hslash]
  · have hnext : ('\\' : Char) = '\\' → (e :: cs).head? ≠ some '/' := fun _ => by simpa using he
    rw [plainSlashes_cons hnext, plainSlashes_cons fun _ => h.head?_ne, if_neg he]

theorem splitBody_close : splitBody ('/' :: cs) = .ok ([], cs) := by
  rw [splitBody.eq_def]
  exact if_pos rfl

theorem splitBody_cons (hslash : c ≠ '/') (hback : c ≠ '\\') : splitBody (c :: cs) =
    (splitBody cs).map fun (body, flags) => (c :: body, flags) := by
  rw [splitBody.eq_def]
  simp only [if_neg hslash, if_neg hback]

theorem splitBody_escaped {e : Char} : splitBody ('\\' :: e :: cs) =
    (splitBody cs).map fun (body, flags) =>
      (if e = '/' then '/' :: body else '\\' :: e :: body, flags) := by
  rw [splitBody.eq_def]
  simp only [if_neg (show '\\' ≠ '/' by decide), if_true]

/-- **A literal ends at the slash behind its span**, which stands for the body. -/
theorem splitBody_of_isSpan (h : IsSpan span) (flags : List Char) :
    splitBody (span ++ '/' :: flags) = .ok (plainSlashes span, flags) := by
  induction h with
  | nil => exact splitBody_close
  | @plain c cs hslash hback _ ih =>
    rw [List.cons_append, splitBody_cons hslash hback, ih, plainSlashes_cons (absurd · hback)]
    rfl
  | @escaped e cs hcs ih =>
    rw [List.cons_append, List.cons_append, splitBody_escaped, ih, plainSlashes_escaped hcs]
    rfl

/-- A span alone has no end. -/
theorem splitBody_open (h : IsSpan span) : splitBody span = .error .unclosed := by
  induction h with
  | nil => rfl
  | plain hslash hback _ ih =>
    rw [splitBody_cons hslash hback, ih]
    rfl
  | escaped _ ih =>
    rw [splitBody_escaped, ih]
    rfl

theorem splitBody_dangling (h : IsSpan span) :
    splitBody (span ++ ['\\']) = .error .danglingEscape := by
  induction h with
  | nil => rfl
  | plain hslash hback _ ih =>
    rw [List.cons_append, splitBody_cons hslash hback, ih]
    rfl
  | escaped _ ih =>
    rw [List.cons_append, List.cons_append, splitBody_escaped, ih]
    rfl

/-- **Every text is a span** up to the first slash that is not escaped, up to a last backslash, or up
to its end. -/
theorem exists_span (cs : List Char) :
    (∃ span flags, IsSpan span ∧ cs = span ++ '/' :: flags) ∨
      (∃ span, IsSpan span ∧ cs = span ++ ['\\']) ∨ IsSpan cs := by
  fun_induction splitBody cs with
  | case1 => exact Or.inr (Or.inr .nil)
  | case2 cs => exact Or.inl ⟨[], cs, .nil, rfl⟩
  | case3 => exact Or.inr (Or.inl ⟨[], .nil, rfl⟩)
  | case4 _ e cs ih =>
    rcases ih with ⟨span, flags, hspan, rfl⟩ | ⟨span, hspan, rfl⟩ | hspan
    · exact Or.inl ⟨_ :: _ :: span, flags, .escaped hspan, rfl⟩
    · exact Or.inr (Or.inl ⟨_ :: _ :: span, .escaped hspan, rfl⟩)
    · exact Or.inr (Or.inr (.escaped hspan))
  | case5 c cs hslash hback ih =>
    rcases ih with ⟨span, flags, hspan, rfl⟩ | ⟨span, hspan, rfl⟩ | hspan
    · exact Or.inl ⟨c :: span, flags, .plain hslash hback hspan, rfl⟩
    · exact Or.inr (Or.inl ⟨c :: span, .plain hslash hback hspan, rfl⟩)
    · exact Or.inr (Or.inr (.plain hslash hback hspan))

/-! ### Flags -/

/-- The letters that may stand behind a literal. -/
def flagLetters : List Char :=
  ['g', 'i', 'm', 's', 'u', 'x', 'y']

/-- The modes with those switched on that are asked for by flags. -/
def switchOn (m : Regex.Modes) (flags : List Char) : Regex.Modes :=
  { m with
    caseless := m.caseless || flags.contains 'i'
    multiLine := m.multiLine || flags.contains 'm'
    dotAll := m.dotAll || flags.contains 's'
    extended := m.extended || flags.contains 'x' }

theorem readFlags_cons (hc : c ∈ flagLetters) (m : Regex.Modes) (flags : List Char) :
    readFlags m (c :: flags) = readFlags (switchOn m [c]) flags := by
  simp only [flagLetters, List.mem_cons, List.not_mem_nil, or_false] at hc
  rcases hc with rfl | rfl | rfl | rfl | rfl | rfl | rfl <;> simp [readFlags, switchOn]

theorem switchOn_cons (m : Regex.Modes) (c : Char) (flags : List Char) :
    switchOn (switchOn m [c]) flags = switchOn m (c :: flags) := by
  simp [switchOn, Bool.or_assoc]

/-- **Flags say which modes are on**, in any order and as often as they like. -/
theorem readFlags_eq_ok (h : ∀ c ∈ flags, c ∈ flagLetters) (m : Regex.Modes) :
    readFlags m flags = .ok (switchOn m flags) := by
  induction flags generalizing m with
  | nil => simp [readFlags, switchOn]
  | cons c flags ih =>
    obtain ⟨hc, hflags⟩ := List.forall_mem_cons.1 h
    rw [readFlags_cons hc, ih hflags, switchOn_cons]

/-- The first letter that is no flag ends the reading. -/
theorem readFlags_eq_error {before after : List Char} (h : ∀ c ∈ before, c ∈ flagLetters)
    (hc : c ∉ flagLetters) (m : Regex.Modes) :
    readFlags m (before ++ c :: after) = .error (.unknownFlag c) := by
  induction before generalizing m with
  | nil =>
    simp only [flagLetters, List.mem_cons, List.not_mem_nil, or_false, not_or] at hc
    obtain ⟨hg, hi, hm, hs, hu, hx, hy⟩ := hc
    simp [readFlags, hg, hi, hm, hs, hu, hx, hy]
  | cons d before ih =>
    obtain ⟨hd, hbefore⟩ := List.forall_mem_cons.1 h
    rw [List.cons_append, readFlags_cons hd, ih hbefore]

/-! ### What the engine is asked -/

/-- The modes and the expression that an engine is asked to read for a literal, or why none is
asked. -/
def request (cs : List Char) : Except PatternFault (Regex.Modes × List Char) :=
  (split cs).bind fun (body, flags) => (readFlags {} flags).map fun m => (m, body)

/-- What the answer of an engine makes of a literal. -/
def answered (literal : String) : Option Regex → Except PatternFault Pattern
  | none => .error .unreadable
  | some expr => .ok ⟨literal, expr⟩

/-- Reads a literal with any engine for expressions. -/
def readBy (engine : Regex.Modes → List Char → Option Regex) (literal : String) :
    Except PatternFault Pattern :=
  (request literal.toList).bind fun (m, body) => answered literal (engine m body)

theorem read_eq_readBy [Regex.Engine] : Pattern.read = readBy Regex.Engine.read? := by
  funext literal
  rw [read, readBy, request]
  cases split literal.toList with
  | error fault => rfl
  | ok parts =>
    obtain ⟨body, flags⟩ := parts
    simp only [Except.bind]
    cases readFlags {} flags with
    | error fault => rfl
    | ok m =>
      simp only [Except.map]
      cases Regex.Engine.read? m body <;> rfl

/-- Why no engine is asked to read a text. -/
inductive IsRefused : List Char → PatternFault → Prop
  /-- It does not begin with a slash. -/
  | notDelimited {cs : List Char} : cs.head? ≠ some '/' → IsRefused cs .notDelimited
  /-- Every later slash is escaped. -/
  | unclosed {span : List Char} : IsSpan span → IsRefused ('/' :: span) .unclosed
  /-- It ends in a backslash, up to which every later slash is escaped. -/
  | danglingEscape {span : List Char} : IsSpan span →
      IsRefused ('/' :: (span ++ ['\\'])) .danglingEscape
  /-- A letter stands behind the span that is no flag; the first one is meant. -/
  | unknownFlag {span before after : List Char} {c : Char} : IsSpan span →
      (∀ d ∈ before, d ∈ flagLetters) → c ∉ flagLetters →
      IsRefused ('/' :: (span ++ '/' :: (before ++ c :: after))) (.unknownFlag c)

theorem split_cons (cs : List Char) : split ('/' :: cs) = splitBody cs := by
  rw [split, if_pos rfl]

/-- **A span between slashes is one request.** -/
theorem request_of_isSpan (h : IsSpan span) (hflags : ∀ c ∈ flags, c ∈ flagLetters) :
    request ('/' :: (span ++ '/' :: flags)) = .ok (switchOn {} flags, plainSlashes span) := by
  rw [request, split_cons, splitBody_of_isSpan h]
  show (readFlags {} flags).map _ = _
  rw [readFlags_eq_ok hflags]
  rfl

theorem request_of_isRefused (h : IsRefused cs fault) : request cs = .error fault := by
  cases h with
  | notDelimited hhead =>
    rw [request, split.eq_def]
    split
    next => rfl
    next c cs =>
      have hc : c ≠ '/' := by simpa using hhead
      rw [if_neg hc]
      rfl
  | unclosed hspan =>
    rw [request, split_cons, splitBody_open hspan]
    rfl
  | danglingEscape hspan =>
    rw [request, split_cons, splitBody_dangling hspan]
    rfl
  | @unknownFlag span before after c hspan hbefore hc =>
    rw [request, split_cons, splitBody_of_isSpan hspan]
    show (readFlags {} (before ++ c :: after)).map _ = _
    rw [readFlags_eq_error hbefore hc]
    rfl

/-- Flags are known, or there is a first one that is not. -/
theorem forall_mem_flagLetters_or (flags : List Char) : (∀ c ∈ flags, c ∈ flagLetters) ∨
    ∃ before c after, flags = before ++ c :: after ∧ (∀ d ∈ before, d ∈ flagLetters) ∧
      c ∉ flagLetters := by
  induction flags with
  | nil => exact Or.inl (by simp)
  | cons d flags ih =>
    by_cases hd : d ∈ flagLetters
    · rcases ih with hflags | ⟨before, c, after, rfl, hbefore, hc⟩
      · exact Or.inl (List.forall_mem_cons.2 ⟨hd, hflags⟩)
      · exact Or.inr ⟨d :: before, c, after, rfl, List.forall_mem_cons.2 ⟨hd, hbefore⟩, hc⟩
    · exact Or.inr ⟨[], d, flags, rfl, by simp, hd⟩

/-- **Every text is refused or a request.** -/
theorem isRefused_or (cs : List Char) : (∃ fault, IsRefused cs fault) ∨
    ∃ span flags, IsSpan span ∧ (∀ c ∈ flags, c ∈ flagLetters) ∧
      cs = '/' :: (span ++ '/' :: flags) := by
  by_cases hhead : cs.head? = some '/'
  · obtain ⟨cs, rfl⟩ := List.head?_eq_some_iff.1 hhead
    rcases exists_span cs with ⟨span, flags, hspan, rfl⟩ | ⟨span, hspan, rfl⟩ | hspan
    · rcases forall_mem_flagLetters_or flags with hflags | ⟨before, c, after, rfl, hbefore, hc⟩
      · exact Or.inr ⟨span, flags, hspan, hflags, rfl⟩
      · exact Or.inl ⟨_, .unknownFlag hspan hbefore hc⟩
    · exact Or.inl ⟨_, .danglingEscape hspan⟩
    · exact Or.inl ⟨_, .unclosed hspan⟩
  · exact Or.inl ⟨_, .notDelimited hhead⟩

/-- **Which texts are refused before the engine is asked**, and why. -/
theorem request_eq_error_iff : request cs = .error fault ↔ IsRefused cs fault := by
  constructor
  · intro h
    rcases isRefused_or cs with ⟨fault', hrefused⟩ | ⟨span, flags, hspan, hflags, rfl⟩
    · obtain rfl := Except.error.inj (h.symm.trans (request_of_isRefused hrefused))
      exact hrefused
    · rw [request_of_isSpan hspan hflags] at h
      simp at h
  · exact request_of_isRefused

/-- A literal that is a request is read as the engine answers. -/
theorem readBy_of_request {m : Regex.Modes} {literal : String}
    (h : request literal.toList = .ok (m, body))
    (engine : Regex.Modes → List Char → Option Regex) :
    readBy engine literal = answered literal (engine m body) := by
  rw [readBy, h]
  rfl

/-- What every engine reads with the same fault, none is asked about. -/
theorem readBy_eq_error_iff {literal : String} :
    (∀ engine, readBy engine literal = .error fault) ↔ IsRefused literal.toList fault := by
  rw [← request_eq_error_iff]
  constructor
  · intro h
    cases hrequest : request literal.toList with
    | error fault' =>
      have hread := h fun _ _ => none
      rw [readBy, hrequest] at hread
      exact congrArg _ (Except.error.inj hread)
    | ok asked =>
      -- an engine that reads everything
      have hread := h fun _ _ => some .empty
      rw [readBy_of_request hrequest] at hread
      cases hread
  · intro h engine
    rw [readBy, h]
    rfl

/-! ### Writing expressions -/

/-- An expression in which every backslash takes the next character with it, read from left to right,
and none of these is a slash. -/
inductive IsPaired : List Char → Prop
  | nil : IsPaired []
  | plain {c : Char} {cs : List Char} : c ≠ '\\' → IsPaired cs → IsPaired (c :: cs)
  | pair {e : Char} {cs : List Char} : e ≠ '/' → IsPaired cs → IsPaired ('\\' :: e :: cs)

/-- The expression with a backslash before each slash. -/
def escapeSlashes (body : List Char) : List Char :=
  body.flatMap fun c => if c = '/' then ['\\', '/'] else [c]

/-- The literal of an expression with flags. -/
def written (body flags : List Char) : List Char :=
  '/' :: (escapeSlashes body ++ '/' :: flags)

theorem escapeSlashes_cons (c : Char) (body : List Char) : escapeSlashes (c :: body) =
    (if c = '/' then ['\\', '/'] else [c]) ++ escapeSlashes body :=
  List.flatMap_cons

/-- **What is written is a span that stands for the expression.** -/
theorem isSpan_escapeSlashes (h : IsPaired body) :
    IsSpan (escapeSlashes body) ∧ plainSlashes (escapeSlashes body) = body := by
  induction h with
  | nil => exact ⟨.nil, rfl⟩
  | @plain c cs hback _ ih =>
    obtain ⟨hspan, hplain⟩ := ih
    rw [escapeSlashes_cons]
    by_cases hslash : c = '/'
    · subst hslash
      rw [if_pos rfl]
      refine ⟨.escaped hspan, ?_⟩
      show plainSlashes ('\\' :: '/' :: escapeSlashes cs) = _
      rw [plainSlashes_escaped hspan, if_pos rfl, hplain]
    · rw [if_neg hslash]
      refine ⟨.plain hslash hback hspan, ?_⟩
      show plainSlashes (c :: escapeSlashes cs) = _
      rw [plainSlashes_cons (absurd · hback), hplain]
  | @pair e cs he _ ih =>
    obtain ⟨hspan, hplain⟩ := ih
    have hback : ('\\' : Char) ≠ '/' := by decide
    rw [escapeSlashes_cons, escapeSlashes_cons, if_neg hback, if_neg he]
    refine ⟨.escaped hspan, ?_⟩
    show plainSlashes ('\\' :: e :: escapeSlashes cs) = _
    rw [plainSlashes_escaped hspan, if_neg he, hplain]

theorem request_written (h : IsPaired body) (hflags : ∀ c ∈ flags, c ∈ flagLetters) :
    request (written body flags) = .ok (switchOn {} flags, body) := by
  obtain ⟨hspan, hplain⟩ := isSpan_escapeSlashes h
  rw [written, request_of_isSpan hspan hflags, hplain]

/-- **A literal carries every expression in which no slash is escaped**, and of its flags only which
ones there are: whatever the engine, it is asked for exactly the expression with the modes that the
flags stand for, and the literal is read if the engine reads that.  A text is refused before the engine
is asked exactly if it does not begin with a slash, has no later slash that is not escaped, ends in a
backslash before there is one, or has a letter behind it that is no flag. -/
theorem read_written [Regex.Engine] : Pattern.read = readBy Regex.Engine.read? ∧
    (∀ engine body flags, IsPaired body →
      (∀ c ∈ flags, c ∈ ['g', 'i', 'm', 's', 'u', 'x', 'y']) →
      readBy engine (String.ofList (written body flags)) =
        match engine { caseless := flags.contains 'i', multiLine := flags.contains 'm',
                       dotAll := flags.contains 's', extended := flags.contains 'x' } body with
        | none => .error .unreadable
        | some expr => .ok ⟨String.ofList (written body flags), expr⟩) ∧
    ∀ literal fault, (∀ engine, readBy engine literal = .error fault) ↔
      IsRefused literal.toList fault := by
  refine ⟨read_eq_readBy, fun engine body flags hbody hflags => ?_, fun _ _ => readBy_eq_error_iff⟩
  have hrequest : request (String.ofList (written body flags)).toList =
      .ok (switchOn {} flags, body) := by
    rw [String.toList_ofList, request_written hbody hflags]
  rw [readBy_of_request hrequest, answered.eq_def]
  simp only [switchOn, Bool.false_or]

/-- An escaped backslash before a slash, with flags one of which is there twice. -/
theorem read_written_slash :
    IsPaired ['\\', '\\', '/', '.'] ∧
    (∀ c ∈ ['s', 'g', 's'], c ∈ ['g', 'i', 'm', 's', 'u', 'x', 'y']) ∧
    ∃ p, Pattern.read "/\\\\\\/./sgs" = .ok p ∧ p.isMatch "\\/\n" = true := by
  have hbody : IsPaired ['\\', '\\', '/', '.'] :=
    .pair (by decide) (.plain (by decide) (.plain (by decide) .nil))
  have hflags : ∀ c ∈ ['s', 'g', 's'], c ∈ ['g', 'i', 'm', 's', 'u', 'x', 'y'] := by simp
  have hwritten : String.ofList (written ['\\', '\\', '/', '.'] ['s', 'g', 's']) =
      "/\\\\\\/./sgs" := by decide
  obtain ⟨hread, hcarries, _⟩ := read_written
  have hcarried := hcarries Regex.Engine.read? _ _ hbody hflags
  have hengine : Regex.Engine.read?
      { caseless := ['s', 'g', 's'].contains 'i', multiLine := ['s', 'g', 's'].contains 'm',
        dotAll := ['s', 'g', 's'].contains 's', extended := ['s', 'g', 's'].contains 'x' }
      ['\\', '\\', '/', '.'] = some
        (.seq (.one (.char '\\')) (.seq (.one (.char '/')) (.seq (.one .all) .empty))) := by cbv
  rw [← hread, hwritten, hengine] at hcarried
  exact ⟨hbody, hflags, _, hcarried, by cbv⟩

/-! ### Patterns of clauses -/

/-- What stands between the slashes of a pattern in a clause is a span of one line. -/
theorem isSpan_of_isBody (h : Clause.IsBody '/' false cs) : IsSpan cs := by
  induction h with
  | nil => exact .nil
  | plain hslash hback _ _ ih => exact .plain hslash hback ih
  | escaped _ _ ih => exact .escaped ih

/-- The clause has the token `t` for a pattern with this body and these flags, which begins at the
offset of the token and ends where no letter of ASCII follows. -/
structure IsLexed (clause : String) (t : Clause.Token) (body flags : List Char) : Prop where
  isBody : Clause.IsBody '/' false body
  isAlpha : ∀ c ∈ flags, c.isAlpha = true
  value : t.value = String.ofList ('/' :: (body ++ '/' :: flags))
  stands : ∃ before after, clause.toList = before ++ ('/' :: (body ++ '/' :: flags) ++ after) ∧
    Text.byteLength before = t.offset ∧ ∀ c ∈ after.head?, c.isAlpha = false

theorem exists_isLexed {clause : String} {ts : List Clause.Token} {t : Clause.Token}
    (h : Clause.read clause = .ok ts) (ht : t ∈ ts) (hkind : t.kind = .pattern) :
    ∃ body flags, IsLexed clause t body flags := by
  obtain ⟨before, text, after, hclause, hoffset, hlexeme, hstops⟩ :=
    Clause.exists_lexeme_of_mem h ht (by simp [hkind])
  rw [hkind] at hlexeme hstops
  obtain ⟨body, flags, hbody, hflags, hvalue, rfl⟩ := hlexeme.of_pattern
  refine ⟨body, flags, hbody, hflags, ?_, before, after, hclause, hoffset.symm, hstops⟩
  rw [← hvalue, String.ofList_toList]

/-- How a literal is read whose slash is known. -/
theorem read_of_isSpan [Regex.Engine] (h : IsSpan span) (flags : List Char) :
    (∃ c ∈ flags, c ∉ flagLetters ∧
      Pattern.read (String.ofList ('/' :: (span ++ '/' :: flags))) = .error (.unknownFlag c)) ∨
    (∀ c ∈ flags, c ∈ flagLetters) ∧
      Pattern.read (String.ofList ('/' :: (span ++ '/' :: flags))) =
        answered (String.ofList ('/' :: (span ++ '/' :: flags)))
          (Regex.Engine.read? (switchOn {} flags) (plainSlashes span)) := by
  rw [read_eq_readBy]
  rcases forall_mem_flagLetters_or flags with hflags | ⟨before, c, after, rfl, hbefore, hc⟩
  · refine Or.inr ⟨hflags, readBy_of_request ?_ _⟩
    rw [String.toList_ofList, request_of_isSpan h hflags]
  · refine Or.inl ⟨c, List.mem_append_right _ List.mem_cons_self, hc, ?_⟩
    refine readBy_eq_error_iff.2 ?_ _
    rw [String.toList_ofList]
    exact .unknownFlag h hbefore hc

/-- **Clauses and literals find the same end of a pattern.**  The literal that a clause has read is
split into the flags that stand in the clause and the body without the backslashes before slashes.  So
it can be refused for a letter that is no flag, or else by the engine. -/
theorem split_lexed_pattern [Regex.Engine] (clause : String) (ts : List Clause.Token)
    (t : Clause.Token) (h : Clause.read clause = .ok ts) (ht : t ∈ ts) (hkind : t.kind = .pattern) :
    ∃ body flags, IsLexed clause t body flags ∧
      split t.value.toList = .ok (plainSlashes body, flags) ∧
      ((∃ c ∈ flags, c ∉ flagLetters ∧ Pattern.read t.value = .error (.unknownFlag c)) ∨
        (∀ c ∈ flags, c ∈ flagLetters) ∧ Pattern.read t.value =
          answered t.value (Regex.Engine.read? (switchOn {} flags) (plainSlashes body))) ∧
      ∀ scope target fault, Test.operand scope t target = .error fault →
        ∃ reason : PatternFault, fault = .invalidPattern t.value reason.message ∧
          (reason = .unreadable ∨ ∃ c ∈ flags, c ∉ flagLetters ∧ reason = .unknownFlag c) := by
  obtain ⟨body, flags, hlexed⟩ := exists_isLexed h ht hkind
  have hspan := isSpan_of_isBody hlexed.isBody
  have hread := read_of_isSpan hspan flags
  rw [← hlexed.value] at hread
  refine ⟨body, flags, hlexed, ?_, hread, fun scope target fault hfault => ?_⟩
  · rw [hlexed.value, String.toList_ofList, split_cons, splitBody_of_isSpan hspan]
  · rw [Test.operand, hkind] at hfault
    simp only at hfault
    split at hfault
    next => simp at hfault
    next reason hreason =>
      refine ⟨reason, (Except.error.inj hfault).symm, ?_⟩
      rcases hread with ⟨c, hc, hunknown, hread⟩ | ⟨_, hread⟩
      · exact Or.inr ⟨c, hc, hunknown, Except.error.inj (hreason.symm.trans hread)⟩
      · rw [hread] at hreason
        cases hanswer : Regex.Engine.read? (switchOn {} flags) (plainSlashes body) with
        | none =>
          rw [hanswer] at hreason
          exact Or.inl (Except.error.inj hreason).symm
        | some expr => simp [hanswer, answered] at hreason

/-- A pattern between other tokens, with slashes and a backslash in it and a letter that is no flag. -/
theorem split_lexed_pattern_touching :
    Clause.read "'x'/a\\/\\\\/gq#t" = .ok [⟨.string, "x", 0⟩, ⟨.pattern, "/a\\/\\\\/gq", 3⟩,
      ⟨.tag, "t", 12⟩, ⟨.eof, "EOF", 14⟩] ∧
    (∃ body flags, IsLexed "'x'/a\\/\\\\/gq#t" ⟨.pattern, "/a\\/\\\\/gq", 3⟩ body flags ∧
      split "/a\\/\\\\/gq".toList = .ok (plainSlashes body, flags)) ∧
    split "/a\\/\\\\/gq".toList = .ok ("a/\\\\".toList, "gq".toList) ∧
    Pattern.read "/a\\/\\\\/gq" = .error (.unknownFlag 'q') := by
  have hclause : Clause.read "'x'/a\\/\\\\/gq#t" = .ok [⟨.string, "x", 0⟩,
      ⟨.pattern, "/a\\/\\\\/gq", 3⟩, ⟨.tag, "t", 12⟩, ⟨.eof, "EOF", 14⟩] := by cbv
  obtain ⟨body, flags, hlexed, hsplit, _⟩ := split_lexed_pattern _ _
    ⟨.pattern, "/a\\/\\\\/gq", 3⟩ hclause (by simp) rfl
  exact ⟨hclause, ⟨body, flags, hlexed, hsplit⟩, by cbv, by cbv⟩

end Pattern

end RuleLexer
