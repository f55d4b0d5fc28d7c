import RuleLexer.Proofs.Clause.Reader
import RuleLexer.Proofs.Rule.Action
import RuleLexer.Regex.Reader
import RuleLexer.Rule.Basic

/-!
# The tag that an action begins with

An if-rule is compiled with the tag cut off that its action begins with.  This makes no difference:
**the rule has the steps that its whole action is read as** (`Rule.ofIfRule_eq`).

What is cut off is the first lexeme of the action (`Rule.splitLeadingTag_cases`).  What is left is
read as it is behind that lexeme, only that its tokens stand elsewhere (`Clause.readFrom_moved`), and
where tokens stand has no part in what steps they are.
-/

namespace RuleLexer

open Text
open Clause (Kind IsLexeme readFrom readFrom_blanks readFrom_isLexeme readFrom_lexeme)

/-! ### Clauses behind other text -/

namespace Clause

/-- The token as it stands `n` bytes further on. -/
def Token.moved (n : Nat) (t : Token) : Token :=
  { t with offset := t.offset + n }

/-- **A text is read alike wherever it stands**, and its faults are the same. -/
theorem readFrom_moved (n offset : Nat) (cs : List Char) :
    readFrom (offset + n) cs = (readFrom offset cs).map (·.map (Token.moved n)) := by
  fun_induction readFrom offset cs with
  | case1 offset =>
    rw [readFrom]
    rfl
  | case2 offset c rest hblank ih =>
    rw [readFrom, if_pos hblank, ← ih, Nat.add_right_comm]
  | case3 offset c rest hblank hnone =>
    rw [readFrom, if_neg hblank]
    split
    next => rfl
    next hsome => simp [hnone] at hsome
  | case4 offset c rest hblank kind text rest' hread ih =>
    have hsolid : ∃ d ds, c :: rest = d :: ds ∧ isBlank d = false :=
      ⟨c, rest, rfl, by simpa using hblank⟩
    rw [readFrom_lexeme hsolid hread, Nat.add_right_comm, ih]
    cases readFrom (offset + byteLength text) rest' <;> rfl

end Clause

/-! ### Actions that begin with a tag -/

/-- **A tag in front of an action is its first step**, with or without a separator behind it. -/
theorem Action.read_leadingTag {kind : RuleKind} {gap name rest : List Char}
    (hkind : kind ≠ .letRule .throw) (lookBack : Nat) (scope : Scope)
    (hgap : gap.all isBlank = true) (hname : IsLexeme .tag name ('#' :: name))
    (hrest : Kind.tag.StopsBefore rest) :
    read kind lookBack scope (String.ofList (gap ++ ('#' :: name ++ rest)))
      = (read kind lookBack scope (String.ofList rest)).map
          (.tag (String.ofList name) :: ·) := by
  have hmoved := Clause.readFrom_moved (byteLength gap + byteLength ('#' :: name)) 0 rest
  rw [← Nat.add_assoc] at hmoved
  rw [read_eq hkind, read_eq hkind, Clause.read, Clause.read, String.toList_ofList,
    String.toList_ofList, readFrom_blanks hgap, readFrom_isLexeme hname hrest, hmoved]
  cases readFrom 0 rest with
  | error fault => rfl
  | ok ts =>
    -- the tag, and behind it the tokens of the rest where they stand in the whole action
    have htag : IsStep lookBack scope (.tag (String.ofList name))
        [⟨.tag, String.ofList name, 0 + byteLength gap⟩] := .tag rfl rfl
    have hbehind : ∀ n, steps kind lookBack scope (ts.map (Clause.Token.moved n))
        = steps kind lookBack scope ts :=
      fun n => steps_map (f := Clause.Token.moved n) (fun _ => rfl) (fun _ => rfl) ts
    have hallowed : kind.Allows (.tag (String.ofList name)) := RuleKind.allows_of_flowWord? rfl
    exact ((steps_of_isStep htag _).1 hallowed).trans (by rw [hbehind]; rfl)

namespace Rule

theorem splitLeadingTag_cases (action : List Char) :
    splitLeadingTag action = (none, action) ∨
      ∃ gap name rest, splitLeadingTag action = (some name, rest) ∧
        action = gap ++ ('#' :: name ++ rest) ∧ gap.all isBlank = true ∧
        IsLexeme .tag name ('#' :: name) ∧ Kind.tag.StopsBefore rest := by
  obtain ⟨gap, hgap, haction⟩ := exists_blanks_append_trimStart action
  rw [splitLeadingTag]
  split
  next => exact .inl rfl
  next c cs htrim =>
    simp only
    split
    next htag =>
      obtain ⟨rfl, hne⟩ := htag
      refine .inr ⟨gap, cs.takeWhile Unicode.isWord, _, rfl, ?_, hgap, ?_, ?_⟩
      · rw [List.cons_append, List.takeWhile_append_dropWhile, ← htrim, ← haction]
      · exact .tag hne fun c hc => List.mem_takeWhile_imp hc
      · exact head?_dropWhile_eq_false _ _
    next => exact .inl rfl

/-- **Cutting the leading tag off changes nothing**: an if-rule is compiled to the steps that its
whole action is read as, and fails as the reader fails. -/
theorem ofIfRule_eq [Regex.Engine] {scope : Scope} {r : IfRule} {test : Test}
    (htest : Test.read scope r.test = .ok test) :
    ofIfRule scope r = (Action.read .ifThen test.lookBack scope r.action).map fun steps =>
      test.predicate.map fun p => ⟨.ifThen, p, test.lookBack, steps, r.position⟩ := by
  rw [ofIfRule]
  rcases splitLeadingTag_cases r.action.toList with hnone | ⟨gap, name, rest, hsome, hsplit, hgap,
    hname, hrest⟩
  · rw [hnone]
    simp only [htest, String.ofList_toList]
    cases Action.read .ifThen test.lookBack scope r.action <;> rfl
  · have hkind : RuleKind.ifThen ≠ .letRule .throw := by decide
    have htag := Action.read_leadingTag hkind test.lookBack scope hgap hname hrest
    rw [← hsplit, String.ofList_toList] at htag
    rw [hsome, htag]
    simp only [htest]
    cases Action.read .ifThen test.lookBack scope (String.ofList rest) <;> rfl

/-- With further tags directly behind the first, and with what cannot be read behind it. -/
theorem ofIfRule_eq_touching :
    Rule.ofIfRule {} ⟨"'x'", " #a#b#c", ⟨0, "<spec>"⟩⟩ = .ok (some
      ⟨.ifThen, .test .token (.text "x"), 0, [.tag "a", .tag "b", .tag "c"], ⟨0, "<spec>"⟩⟩) ∧
    Rule.ofIfRule {} ⟨"'x'", "#a'b", ⟨0, "<spec>"⟩⟩ = .error (.unterminatedLiteral "'b") := by
  have htest : Test.read {} "'x'" = .ok ⟨some (.test .token (.text "x")), 0⟩ := by cbv
  have htags : Action.read .ifThen 0 {} " #a#b#c" = .ok [.tag "a", .tag "b", .tag "c"] := by cbv
  have hopen : Action.read .ifThen 0 {} "#a'b" = .error (.unterminatedLiteral "'b") := by cbv
  constructor
  · rw [ofIfRule_eq htest, htags]
    rfl
  · rw [ofIfRule_eq htest, hopen]
    rfl

end Rule

end RuleLexer
