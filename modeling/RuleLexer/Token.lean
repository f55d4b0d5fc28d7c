import RuleLexer.Text.Quoted

/-!
# Tokens

A token is a stretch of text with tags.  Tags are kept as a `TagSet`, an increasing list, so that two
sets with the same tags are equal.
-/

namespace RuleLexer

/-- A set of tags. -/
structure TagSet where
  names : List String
  increasing : names.Pairwise (· < ·)
deriving DecidableEq

namespace TagSet

/-- The set without tags. -/
def empty : TagSet :=
  ⟨[], .nil⟩

instance : Inhabited TagSet := ⟨empty⟩

/-- Inserts a name into an increasing list, unless it is there already. -/
def insertName (name : String) : List String → List String
  | [] => [name]
  | n :: ns =>
    if name < n then name :: n :: ns
    else if name = n then n :: ns
    else n :: insertName name ns

@[simp] theorem mem_insertName {a name : String} {ns : List String} :
    a ∈ insertName name ns ↔ a = name ∨ a ∈ ns := by
  induction ns with
  | nil => simp [insertName]
  | cons n ns ih =>
    rw [insertName]
    split
    next => simp
    next =>
      split
      next h => subst h; simp
      next => simp only [List.mem_cons, ih]; exact or_left_comm

theorem increasing_insertName {name : String} {ns : List String} (h : ns.Pairwise (· < ·)) :
    (insertName name ns).Pairwise (· < ·) := by
  induction ns with
  | nil => simp [insertName]
  | cons n ns ih =>
    rw [List.pairwise_cons] at h
    rw [insertName]
    split
    next hlt =>
      refine List.pairwise_cons.2 ⟨fun a ha => ?_, List.pairwise_cons.2 h⟩
      rcases List.mem_cons.1 ha with rfl | ha
      · exact hlt
      · exact String.lt_trans hlt (h.1 a ha)
    next hlt =>
      split
      next => exact List.pairwise_cons.2 h
      next hne =>
        refine List.pairwise_cons.2 ⟨fun a ha => ?_, ih h.2⟩
        rcases mem_insertName.1 ha with rfl | ha
        · exact Std.lt_of_le_of_ne (String.not_lt.1 hlt) (Ne.symm hne)
        · exact h.1 a ha

/-- Adds a tag. -/
def insert (tags : TagSet) (name : String) : TagSet :=
  ⟨insertName name tags.names, increasing_insertName tags.increasing⟩

/-- Whether a tag is in the set. -/
def contains (tags : TagSet) (name : String) : Bool :=
  tags.names.contains name

/-- Whether there is no tag. -/
def isEmpty (tags : TagSet) : Bool :=
  tags.names.isEmpty

/-- The set of the tags in a list. -/
def ofList (names : List String) : TagSet :=
  names.foldl insert empty

@[simp] theorem contains_empty (a : String) : empty.contains a = false := rfl

@[simp] theorem contains_insert (tags : TagSet) (a name : String) :
    (tags.insert name).contains a = (a == name || tags.contains a) := by
  rw [Bool.eq_iff_iff]
  simp [contains, insert]

end TagSet

/-- What a tokenizer produces: a text with tags. -/
structure Token where
  text : String := ""
  tags : TagSet := .empty
deriving DecidableEq, Inhabited

namespace Token

/-- A token that consists of one character. -/
def ofChar (c : Char) : Token :=
  { text := String.singleton c }

/-- Whether the token has no text. -/
def isEmpty (t : Token) : Bool :=
  t.text.isEmpty

/-- Whether the token has a tag. -/
def hasTag (t : Token) (name : String) : Bool :=
  t.tags.contains name

/-- Adds a tag. -/
def addTag (t : Token) (name : String) : Token :=
  { t with tags := t.tags.insert name }

/-- Adds a character behind the text. -/
def push (t : Token) (c : Char) : Token :=
  { t with text := t.text.push c }

/-- The token as it is printed: its quoted text, and its tags in brackets if it has any. -/
def describe (t : Token) : String :=
  if t.tags.isEmpty then Text.quoted t.text
  else Text.quoted t.text ++ " [" ++ " ".intercalate (t.tags.names.map ("#" ++ ·)) ++ "]"

end Token

end RuleLexer
