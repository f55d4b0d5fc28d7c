import RuleLexer.Clause.Escape
import RuleLexer.Decimal.Nearest
import RuleLexer.Decimal.Shortest
import RuleLexer.Text.Quoted

/-!
# Values of definitions

A definition has a value, which the text behind its name describes, and which is true or false where
a test asks for it.
-/

namespace RuleLexer

/-- The value of a definition. -/
inductive Value where
  | undefined
  | bool (value : Bool)
  | number (value : Float)
  | text (value : String)
deriving Inhabited

namespace Value

/-- The inside of a text that begins and ends with the same quote.  A quote alone is none. -/
def unquoted? : List Char → Option (List Char)
  | [] => none
  | q :: cs =>
    if (q == '\'' || q == '"' || q == '\x60') && cs.getLast? == some q then some cs.dropLast
    else none

/-- The value that an expression describes: a truth value, a number, a text in quotes, or else the
expression itself as a text. -/
def ofExpression : Option String → Value
  | none => undefined
  | some expression =>
    let expression := Text.trimmed expression
    if expression = "true" then bool true
    else if expression = "false" then bool false
    else
      match Decimal.read? expression with
      | some value => number value
      | none =>
        match unquoted? expression.toList with
        | some body => text (String.ofList (Clause.unescape body))
        | none => text expression

/-- Whether a value counts as true: a number other than zero, a text that is not empty. -/
def isTruthy : Value → Bool
  | undefined => false
  | bool value => value
  | number value => value != 0.0 && !value.isNaN
  | text value => !value.isEmpty

/-- A value as text. -/
def describe : Value → String
  | undefined => "undefined"
  | bool value => if value then "true" else "false"
  | number value => Decimal.write value
  | text value => Text.quoted value

end Value

/-- The values of definitions by name. -/
structure Definitions where
  entries : List (String × Value) := []
deriving Inhabited

namespace Definitions

/-- The value of a name. -/
def get? (d : Definitions) (name : String) : Option Value :=
  d.entries.lookup name

/-- Sets the value of a name. -/
def insert (d : Definitions) (name : String) (value : Value) : Definitions :=
  ⟨(name, value) :: d.entries.filter (·.1 != name)⟩

/-- Sets the values of several names, one after the other. -/
def insertAll (d : Definitions) (entries : List (String × Value)) : Definitions :=
  entries.foldl (fun d (name, value) => d.insert name value) d

@[simp] theorem get?_insert (d : Definitions) (a name : String) (value : Value) :
    (d.insert name value).get? a = if a = name then some value else d.get? a := by
  rw [get?, insert, List.lookup_cons]
  by_cases h : a = name
  · simp [h]
  · have hne : (a == name) = false := by simp [h]
    rw [hne, if_neg h]
    simp only [get?]
    induction d.entries with
    | nil => rfl
    | cons e es ih =>
      obtain ⟨n, v⟩ := e
      by_cases hn : n = name
      · simp [hn, List.lookup_cons, hne, ih]
      · by_cases ha : a = n
        · simp [hn, ha]
        · have : (a == n) = false := by simp [ha]
          simp [hn, List.lookup_cons, this, ih]

end Definitions

end RuleLexer
