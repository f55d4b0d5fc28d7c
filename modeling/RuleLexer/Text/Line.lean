/-!
# Lines of a text

`lines` cuts a text after each newline, and `lineAt?` finds the line that holds a byte offset.
Offsets count the bytes of the UTF-8 form.
-/

namespace RuleLexer.Text

/-- The number of bytes of a text in UTF-8. -/
def byteLength : List Char → Nat
  | [] => 0
  | c :: cs => c.utf8Size + byteLength cs

/-- The pieces of a text cut after each newline, in order; none is empty. -/
def lines : List Char → List (List Char)
  | [] => []
  | c :: cs =>
    if c = '\n' then [c] :: lines cs
    else
      match lines cs with
      | [] => [[c]]
      | l :: ls => (c :: l) :: ls

/-- A line of a text as an error report shows it. -/
structure Line where
  /-- The number of the line, the first being 1. -/
  number : Nat
  /-- The text of the line, with the newline that ends it. -/
  text : List Char
  /-- Where in the line the offset lies that was looked for, in bytes. -/
  offset : Nat
deriving DecidableEq, Repr

/-- Finds the line among `ls` that holds the offset, where `number` is the number of the first.
Behind the last line stands an empty one. -/
def locate (number offset : Nat) : List (List Char) → Line
  | [] => ⟨number, [], 0⟩
  | l :: ls =>
    if offset < byteLength l then ⟨number, l, offset⟩
    else locate (number + 1) (offset - byteLength l) ls

/-- The line that holds a byte offset, unless the offset lies past the end. -/
def lineAt? (text : List Char) (offset : Nat) : Option Line :=
  if byteLength text < offset then none else some (locate 1 offset (lines text))

@[simp] theorem byteLength_nil : byteLength [] = 0 := rfl

@[simp] theorem byteLength_cons (c : Char) (cs : List Char) :
    byteLength (c :: cs) = c.utf8Size + byteLength cs := rfl

@[simp] theorem byteLength_append (cs ds : List Char) :
    byteLength (cs ++ ds) = byteLength cs + byteLength ds := by
  induction cs with
  | nil => simp
  | cons c cs ih => simp [ih, Nat.add_assoc]

/-- The bytes of a string are those of its characters. -/
theorem byteLength_toList (s : String) : byteLength s.toList = s.utf8ByteSize := by
  suffices h : ∀ cs : List Char, (String.ofList cs).utf8ByteSize = byteLength cs by
    rw [← h, String.ofList_toList]
  intro cs
  induction cs with
  | nil => rfl
  | cons c cs ih =>
    have h : String.ofList (c :: cs) = String.singleton c ++ String.ofList cs := by
      rw [← String.toList_inj]
      simp
    rw [h, String.utf8ByteSize_append, String.utf8ByteSize_singleton, ih, byteLength_cons]

/-- Cutting a text into lines loses nothing. -/
@[simp] theorem flatten_lines (cs : List Char) : (lines cs).flatten = cs := by
  induction cs with
  | nil => rfl
  | cons c cs ih =>
    rw [lines]
    split
    next => simp [ih]
    next =>
      split
      next h => rw [h] at ih; simp at ih; simp [← ih]
      next h => rw [h] at ih; simpa using ih

/-- No line is empty. -/
theorem ne_nil_of_mem_lines {cs l : List Char} (h : l ∈ lines cs) : l ≠ [] := by
  induction cs generalizing l with
  | nil => simp [lines] at h
  | cons c cs ih =>
    rw [lines] at h
    split at h
    next =>
      rcases List.mem_cons.1 h with rfl | h
      · simp
      · exact ih h
    next =>
      split at h
      next => rw [List.mem_singleton.1 h]; simp
      next hl =>
        rcases List.mem_cons.1 h with rfl | h
        · simp
        · exact ih (hl ▸ List.mem_cons_of_mem _ h)

end RuleLexer.Text
