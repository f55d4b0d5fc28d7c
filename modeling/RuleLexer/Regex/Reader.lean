import RuleLexer.Regex.Basic
import RuleLexer.Regex.PropertyName
import RuleLexer.Text.Hexadecimal
import RuleLexer.Unicode.Latest

/-!
# Reading regular expressions

`Regex.read?` reads the written form of an expression: literals, `.`, classes in brackets, groups,
alternatives, repetitions, assertions and escapes, and the modes `i m s x u R` that can be switched
on and off inside.  It answers `none` for a text that is not well formed, that nests too deeply or
that would need too much memory.

It is one `Engine`, the one that programs run with.

The reader goes through the text once and keeps the groups that are open on a stack.
-/

namespace RuleLexer.Regex

/-- What is left of the text to read. -/
abbrev Rest := List Char

/-- Drops blanks and comments; a comment goes from `#` through the end of the line. -/
def dropSpread (inComment : Bool) : Rest → Rest
  | [] => []
  | c :: cs =>
    if inComment then dropSpread (c != '\n') cs
    else if Text.isBlank c then dropSpread false cs
    else if c = '#' then dropSpread true cs
    else c :: cs

namespace Modes

/-- Drops what may stand between two parts of an expression. -/
def skip (m : Modes) (cs : Rest) : Rest :=
  if m.extended then dropSpread false cs else cs

/-- Sets the mode of a letter; `U` swaps two forms of repetition that match the same texts. -/
def set? (m : Modes) (value : Bool) (letter : Char) : Option Modes :=
  if letter = 'i' then some { m with caseless := value }
  else if letter = 'm' then some { m with multiLine := value }
  else if letter = 's' then some { m with dotAll := value }
  else if letter = 'x' then some { m with extended := value }
  else if letter = 'u' then some { m with unicode := value }
  else if letter = 'R' then some { m with anyLineEnd := value }
  else if letter = 'U' then some m
  else none

end Modes

/-! ### Numbers -/

/-- The character with a code point, unless there is none. -/
def charOf? (n : Nat) : Option Char :=
  if n.isValidChar then some (Char.ofNat n) else none

/-- Reads `count` hexadecimal digits. -/
def readHexDigits (m : Modes) (value : Nat) : Nat → Rest → Option (Nat × Rest)
  | 0, cs => some (value, cs)
  | _ + 1, [] => none
  | count + 1, c :: cs => do
    let d ← Text.hexValue? c
    readHexDigits m (16 * value + d) count (m.skip cs)

/-- Reads hexadecimal digits through the closing brace; `any` tells whether one was read. -/
def readHexBraced (m : Modes) (value : Nat) (any : Bool) : Nat → Rest → Option (Nat × Rest)
  | _, [] | 0, _ => none
  | fuel + 1, c :: cs =>
    if c = '\x7d' then if any then some (value, m.skip cs) else none
    else do
      let d ← Text.hexValue? c
      readHexBraced m (16 * value + d) true fuel (m.skip cs)

/-- Reads a count, with the blanks around it; it has to fit into 32 bits. -/
def readCountDigits (m : Modes) (value : Nat) (any : Bool) : Nat → Rest → Option (Nat × Rest)
  | 0, _ => none
  | fuel + 1, cs =>
    match cs with
    | c :: rest =>
      if c.isDigit then readCountDigits m (10 * value + (c.toNat - '0'.toNat)) true fuel (m.skip rest)
      else if any && value < UInt32.size then some (value, m.skip (cs.dropWhile Text.isBlank)) else none
    | [] => if any && value < UInt32.size then some (value, []) else none

/-- Reads a count. -/
def readCount (m : Modes) (cs : Rest) : Option (Nat × Rest) :=
  readCountDigits m 0 false (cs.length + 1) (cs.dropWhile Text.isBlank)

/-! ### Escapes -/

/-- What an escape or a plain character stands for. -/
inductive Atom where
  /-- A character; `byte` marks one that two hexadecimal digits name. -/
  | literal (c : Char) (byte : Bool)
  | class (k : CharClass)
  | look (a : Assertion)

/-- The classes of the escapes `d`, `s` and `w` where only ASCII is known. -/
def asciiEscape (letter : Char) : CharClass :=
  if letter = 'd' then .range '0' '9'
  else if letter = 's' then .ofRanges [('\t', '\r'), (' ', ' ')]
  else .ofRanges [('0', '9'), ('A', 'Z'), ('_', '_'), ('a', 'z')]

/-- The class of one of the escapes `d`, `s`, `w` and, negated, `D`, `S`, `W`.  Where only ASCII
is known there is no negation, which would hold parts of characters. -/
def classEscape? (m : Modes) (c : Char) : Option CharClass :=
  let letter := c.toLower
  let negated := c.isUpper
  if m.unicode then
    let k : CharClass := .property
      (if letter = 'd' then .digit else if letter = 's' then .blank else .word)
    some (if negated then .complement k else k)
  else if negated then none
  else some (asciiEscape letter)

/-- Closes a class under differences of case if the modes say so. -/
def foldClass (m : Modes) (k : CharClass) : CharClass :=
  if m.caseless then if m.unicode then .caseless k else .asciiCaseless k else k

/-- Whether a class is allowed: where only ASCII is known, it must not hold other characters. -/
def isAllowed (m : Modes) (k : CharClass) : Bool :=
  m.unicode || !(List.range 128).any fun i => k.contains (Char.ofNat (128 + i))

/-- Folds a class and negates it if asked. -/
def finishClass? (m : Modes) (negated : Bool) (k : CharClass) : Option CharClass :=
  let k := foldClass m k
  let k := if negated then .complement k else k
  if isAllowed m k then some k else none

/-- Splits a text at the first place where `sep` stands. -/
def splitAt? (sep : List Char) : List Char → Option (List Char × List Char)
  | [] => none
  | c :: cs =>
    if sep.isPrefixOf (c :: cs) then some ([], (c :: cs).drop sep.length)
    else (splitAt? sep cs).map fun (a, b) => (c :: a, b)

/-- The set of a name between braces, and whether the name itself negates it. -/
def bracedProperty? (name : List Char) : Option (Property × Bool) :=
  match splitAt? ['!', '='] name with
  | some (p, v) => (Property.valued? p v).map (·, true)
  | none =>
    match (splitAt? [':'] name).or (splitAt? ['='] name) with
    | some (p, v) => (Property.valued? p v).map (·, false)
    | none => (Property.named? name).map (·, false)

/-- Reads the name of a property through the closing brace. -/
def readName (m : Modes) (name : List Char) : Nat → Rest → Option (List Char × Rest)
  | _, [] | 0, _ => none
  | fuel + 1, c :: cs =>
    if c = '\x7d' then some (name.reverse, cs) else readName m (c :: name) fuel (m.skip cs)

/-- Reads what follows `p`, or `P` if negated: one letter or a name between braces. -/
def readProperty (m : Modes) (negated : Bool) : Rest → Option (CharClass × Rest)
  | [] => none
  | c :: cs => do
    let ((p, other), rest) ←
      if c = '\x7b' then do
        let (name, rest) ← readName m [] (cs.length + 1) (m.skip cs)
        let found ← bracedProperty? name
        pure (found, rest)
      else if c = '\\' then none
      else do
        let p ← Property.named? [c]
        pure ((p, false), m.skip cs)
    if !m.unicode then none
    else do
      let k ← finishClass? m (negated != other) (.property p)
      pure (k, rest)

/-- The word characters for assertions. -/
def wordClass (m : Modes) : Char → Bool :=
  if m.unicode then Unicode.isWord else (asciiEscape 'w').contains

/-- The letters and hyphens that begin a text, which may be spread out. -/
def readBoundaryName (m : Modes) (name : List Char) : Nat → Rest → List Char × Rest
  | 0, cs => (name.reverse, cs)
  | fuel + 1, cs =>
    match cs with
    | c :: rest =>
      if c.isAlpha || c = '-' then readBoundaryName m (c :: name) fuel (m.skip rest)
      else (name.reverse, cs)
    | [] => (name.reverse, [])

/-- Reads the braces that may follow the escape `b` and name one side of a word.  Braces that
begin with anything but a letter or a hyphen belong to a repetition instead. -/
def readBoundary (m : Modes) (cs : Rest) : Option (Assertion × Rest) :=
  let word := wordClass m
  match cs with
  | '\x7b' :: inner =>
    match m.skip inner with
    | [] => none
    | c :: rest =>
      if c.isAlpha || c = '-' then
        match readBoundaryName m [] (rest.length + 2) (c :: rest) with
        | (name, '\x7d' :: rest) =>
          let name := String.ofList name
          if name = "start" then some (.wordStart word, rest)
          else if name = "end" then some (.wordEnd word, rest)
          else if name = "start-half" then some (.notAfterWord word, rest)
          else if name = "end-half" then some (.notBeforeWord word, rest)
          else none
        | _ => none
      else some (.boundary word, cs)
  | _ => some (.boundary word, cs)

/-- The escapes for control characters. -/
def controlEscapes : List (Char × Char) :=
  [('a', '\x07'), ('f', '\x0c'), ('t', '\t'), ('n', '\n'), ('r', '\r'), ('v', '\x0b')]

/-- The digits that follow the letters `x`, `u` and `U` without braces. -/
def hexLength (c : Char) : Nat :=
  if c = 'x' then 2 else if c = 'u' then 4 else 8

/-- Reads an escape, from the character after the backslash on. -/
def readEscape (m : Modes) : Rest → Option (Atom × Rest)
  | [] => none
  | c :: cs =>
    if c.isDigit then none
    else if c = 'x' ∨ c = 'u' ∨ c = 'U' then do
      let (n, rest) ←
        match m.skip cs with
        | '\x7b' :: inner => readHexBraced m 0 false (inner.length + 1) (m.skip inner)
        | digits => readHexDigits m 0 (hexLength c) digits
      let braced := (m.skip cs).head? == some '\x7b'
      let d ← charOf? n
      pure (.literal d (c = 'x' && !braced), rest)
    else if c = 'p' ∨ c = 'P' then do
      let (k, rest) ← readProperty m (c = 'P') (m.skip cs)
      pure (.class k, rest)
    else if "dswDSW".toList.contains c then do
      let k ← classEscape? m c
      pure (.class k, cs)
    else if c = '<' then some (.look (.wordStart (wordClass m)), cs)
    else if c = '>' then some (.look (.wordEnd (wordClass m)), cs)
    else if c.toNat < 128 && !c.isAlpha then some (.literal c false, cs)
    else if c = 'A' then some (.look .textStart, cs)
    else if c = 'z' then some (.look .textEnd, cs)
    else if c = 'b' then do
      let (a, rest) ← readBoundary m cs
      pure (.look a, rest)
    else if c = 'B' then some (.look (.noBoundary (wordClass m)), cs)
    else (controlEscapes.lookup c).map fun d => (.literal d false, cs)

/-! ### Classes in brackets -/

/-- A class with the depth to which its description nests. -/
structure NestedClass where
  members : CharClass
  depth : Nat

/-- The items of a class read so far: their union, their number, and how deep they nest. -/
structure Items where
  members : CharClass := .empty
  count : Nat := 0
  depth : Nat := 0

namespace Items

/-- Adds an item. -/
def add (items : Items) (k : CharClass) (depth : Nat := 0) : Items :=
  ⟨.union items.members k, items.count + 1, max items.depth depth⟩

/-- The union of the items; it nests one level deeper than they do if there are several. -/
def union (items : Items) : NestedClass :=
  ⟨items.members, if items.count ≤ 1 then items.depth else items.depth + 1⟩

end Items

/-- The operators between classes. -/
inductive ClassOp where
  | inter
  | diff
  | symmDiff
deriving DecidableEq, Repr

namespace ClassOp

/-- Applies an operator; both sides are folded first where case does not count. -/
def apply (m : Modes) (op : ClassOp) (a b : NestedClass) : NestedClass :=
  let x := foldClass m a.members
  let y := foldClass m b.members
  ⟨match op with
    | inter => .inter x y
    | diff => .diff x y
    | symmDiff => .symmDiff x y,
   max a.depth b.depth + 1⟩

end ClassOp

/-- A bracket that is open: the items before it in the class around it, whether it negates, and
the operation that waits for its right side. -/
structure Bracket where
  outer : Items
  negated : Bool
  pending : Option (NestedClass × ClassOp) := none

/-- The classes of ASCII that have a name. -/
def asciiClasses : List (String × List (Char × Char)) :=
  [("alnum", [('0', '9'), ('A', 'Z'), ('a', 'z')]), ("alpha", [('A', 'Z'), ('a', 'z')]),
   ("ascii", [('\x00', '\x7f')]), ("blank", [('\t', '\t'), (' ', ' ')]),
   ("cntrl", [('\x00', '\x1f'), ('\x7f', '\x7f')]), ("digit", [('0', '9')]),
   ("graph", [('!', '~')]), ("lower", [('a', 'z')]), ("print", [(' ', '~')]),
   ("punct", [('!', '/'), (':', '@'), ('[', '\x60'), ('\x7b', '~')]),
   ("space", [('\t', '\r'), (' ', ' ')]), ("upper", [('A', 'Z')]),
   ("word", [('0', '9'), ('A', 'Z'), ('_', '_'), ('a', 'z')]),
   ("xdigit", [('0', '9'), ('A', 'F'), ('a', 'f')])]

/-- Reads a named class of ASCII, from behind its opening bracket on.  There is none unless name
and brackets are complete. -/
def readAscii? : Rest → Option (Bool × List (Char × Char) × Rest)
  | ':' :: cs =>
    let (negated, cs) :=
      match cs with
      | '^' :: cs => (true, cs)
      | cs => (false, cs)
    match cs.span (· != ':') with
    | (name, ':' :: ']' :: rest) =>
      (asciiClasses.lookup (String.ofList name)).map (negated, ·, rest)
    | _ => none
  | _ => none

/-- Reads the hyphens at the start of a class, which stand for themselves. -/
def readHyphens (m : Modes) (items : Items) : Nat → Rest → Items × Rest
  | 0, cs => (items, cs)
  | fuel + 1, cs =>
    match cs with
    | '-' :: rest => readHyphens m (items.add (.char '-')) fuel (m.skip rest)
    | cs => (items, cs)

/-- Reads the start of a class, from behind its opening bracket on: a negation, hyphens, and a
closing bracket that stands for itself because it comes first. -/
def readOpening (m : Modes) (outer : Items) (cs : Rest) : Bracket × Items × Rest :=
  let (negated, cs) :=
    match m.skip cs with
    | '^' :: cs => (true, m.skip cs)
    | cs => (false, cs)
  let (items, cs) := readHyphens m {} (cs.length + 1) cs
  match items.count, cs with
  | 0, ']' :: cs => (⟨outer, negated, none⟩, items.add (.char ']'), m.skip cs)
  | _, cs => (⟨outer, negated, none⟩, items, cs)

/-- One end of a range or a single item of a class. -/
def readItem (m : Modes) : Rest → Option (Atom × Rest)
  | [] => none
  | '\\' :: cs => readEscape m cs
  | c :: cs => some (.literal c false, cs)

/-- The character that an item of a class stands for, where only ASCII is known an ASCII one. -/
def itemChar? (m : Modes) : Atom → Option Char
  | .literal c _ => if m.unicode || c.toNat < 128 then some c else none
  | _ => none

/-- The class that an item stands for. -/
def itemClass? (m : Modes) : Atom → Option CharClass
  | .class k => some k
  | a => (itemChar? m a).map .char

/-- The character behind the one that `cs` begins with, as a range looks for it: spread-out
blanks and the sign of a comment are passed over. -/
def peekBehind (m : Modes) (cs : Rest) : Option Char :=
  if m.extended then
    match cs.dropWhile Text.isBlank with
    | '#' :: rest => (rest.dropWhile Text.isBlank).head?
    | rest => rest.head?
  else cs.head?

/-- Reads a single item or a range. -/
def readRange (m : Modes) (cs : Rest) : Option (CharClass × Rest) := do
  let (a, rest) ← readItem m cs
  match m.skip rest with
  | [] => none
  | '-' :: rest =>
    let next := peekBehind m rest
    if next = some ']' ∨ next = some '-' then do
      let k ← itemClass? m a
      pure (k, '-' :: rest)
    else do
      let (b, rest) ← readItem m (m.skip rest)
      let first ← itemChar? m a
      let last ← itemChar? m b
      if first ≤ last then pure (.range first last, rest) else none
  | rest => do
    let k ← itemClass? m a
    pure (k, rest)

/-- The operator that a text begins with. -/
def readOp? : Rest → Option (ClassOp × Rest)
  | '&' :: '&' :: cs => some (.inter, cs)
  | '-' :: '-' :: cs => some (.diff, cs)
  | '~' :: '~' :: cs => some (.symmDiff, cs)
  | _ => none

/-- Completes the operation that waits in a bracket. -/
def Bracket.complete (m : Modes) (b : Bracket) (items : Items) : NestedClass :=
  match b.pending with
  | none => items.union
  | some (left, op) => op.apply m left items.union

/-- Reads the rest of a class: `b` is the innermost open bracket, `items` its items so far and
`around` the brackets around it. -/
def readClass (m : Modes) (b : Bracket) (items : Items) (around : List Bracket) :
    Nat → Rest → Option (NestedClass × Rest)
  | 0, _ => none
  | fuel + 1, cs =>
    match m.skip cs with
    | [] => none
    | '[' :: cs =>
      match readAscii? cs with
      | some (negated, ranges, rest) => do
        let k ← finishClass? m negated (.ofRanges ranges)
        readClass m b (items.add k) around fuel rest
      | none =>
        let (inner, first, rest) := readOpening m items cs
        readClass m inner first (b :: around) fuel rest
    | ']' :: cs => do
      let whole := b.complete m items
      let k ← finishClass? m b.negated whole.members
      match around with
      | [] => some (⟨k, whole.depth + 1⟩, cs)
      | outer :: around => readClass m outer (b.outer.add k (whole.depth + 1)) around fuel cs
    | cs =>
      match readOp? cs with
      | some (op, rest) =>
        readClass m { b with pending := some (b.complete m items, op) } {} around fuel rest
      | none => do
        let (k, rest) ← readRange m cs
        readClass m b (items.add k) around fuel rest

/-! ### Parts of an expression -/

/-- An expression with what the limits are about: how deep it nests, how much memory its matcher
takes, and whether it matches the empty text at most. -/
structure Part where
  expr : Regex
  depth : Nat := 0
  weight : Nat := 0
  onlyEmpty : Bool := false

namespace Part

/-- The part that matches the empty text. -/
def nothing : Part :=
  { expr := .empty, onlyEmpty := true }

/-- One character of a class. -/
def ofClass (k : CharClass) : Part :=
  { expr := .one k, weight := k.weight }

/-- An assertion. -/
def ofAssertion (a : Assertion) : Part :=
  { expr := .look a, weight := 32, onlyEmpty := true }

/-- Parts one after the other; `others` are further items that stand between them. -/
def concat (parts : List Part) (others : Nat) : Part :=
  match parts, others with
  | [], _ => nothing
  | [p], 0 => p
  | parts, _ =>
    { expr := parts.foldr (fun p r => .seq p.expr r) .empty
      depth := parts.foldl (fun n q => max n q.depth) 0 + 1
      weight := parts.foldl (fun n q => n + q.weight) 0
      onlyEmpty := parts.all onlyEmpty }

/-- Alternatives, of which there is one at least. -/
def choice (p : Part) (ps : List Part) : Part :=
  match ps with
  | [] => p
  | ps =>
    { expr := ps.foldl (fun r q => .alt r q.expr) p.expr
      depth := (p :: ps).foldl (fun n q => max n q.depth) 0 + 1
      weight := (p :: ps).foldl (fun n q => n + q.weight) (32 + 4 * (ps.length + 1))
      onlyEmpty := (p :: ps).all onlyEmpty }

/-- A repetition.  What matches the empty text at most need not be tried twice. -/
def repeated (p : Part) (min : Nat) (max : Option Nat) : Part :=
  let (min, max) :=
    if p.onlyEmpty then (Nat.min min 1, some (Nat.min (max.getD 1) 1)) else (min, max)
  let copies := match max with
    | none => min * p.weight + p.weight + 40
    | some max => max * p.weight + (max - min) * 40
  { expr := .rep p.expr min max
    depth := p.depth + 1
    weight := copies
    onlyEmpty := p.onlyEmpty || max == some 0 }

/-- A part in parentheses, which remember where they matched if they capture. -/
def grouped (p : Part) (captures : Bool) : Part :=
  { p with depth := p.depth + 1, weight := p.weight + if captures then 64 else 0 }

end Part

/-- A plain character; letters of either case match where case does not count. -/
def charClass? (m : Modes) (c : Char) (byte : Bool) : Option CharClass :=
  if !m.unicode && byte && 128 ≤ c.toNat then none
  else if !m.caseless then some (.char c)
  else if m.unicode then some (.caseless (.char c))
  else some (.asciiCaseless (.char c))

/-- The class of the dot.  It needs all characters to be known. -/
def dotClass? (m : Modes) : Option CharClass :=
  if !m.unicode then none
  else if m.dotAll then some .all
  else if m.anyLineEnd then some (.complement (.ofRanges [('\n', '\n'), ('\r', '\r')]))
  else some (.allBut '\n')

/-- The part that an atom stands for. -/
def Atom.part? (m : Modes) : Atom → Option Part
  | .literal c byte => (charClass? m c byte).map .ofClass
  | .class k => some (.ofClass k)
  | .look a => some (.ofAssertion a)

/-! ### Groups -/

/-- A group that is open: what comes before it in the text around it. -/
structure Group where
  /-- The parts before the group, last one first; `none` stands for a change of modes. -/
  before : List (Option Part)
  /-- The alternatives before, last one first. -/
  branches : List Part
  /-- The modes to go back to. -/
  modes : Modes
  captures : Bool

/-- What the opening of a group turns out to be. -/
inductive Opening where
  /-- Modes for the rest of the group around. -/
  | switch (m : Modes)
  /-- A group with its modes, its name if it has one, and whether it captures. -/
  | group (m : Modes) (name : Option (List Char)) (captures : Bool)

/-- Reads letters of modes through the colon or the parenthesis that ends them; `seen` are the
letters and signs read so far, last one first. -/
def readModes (m : Modes) (seen : List Char) : Rest → Option (Modes × List Char × Char × Rest)
  | [] => none
  | c :: cs =>
    if c = ':' ∨ c = ')' then
      if seen.head? = some '-' then none else some (m, seen, c, cs)
    else if seen.contains c then none
    else if c = '-' then readModes m ('-' :: seen) cs
    else do
      let m ← m.set? (!seen.contains '-') c
      readModes m (c :: seen) cs

/-- Whether a character may stand in the name of a group. -/
def isNameChar (first : Bool) (c : Char) : Bool :=
  c == '_' || Unicode.isLatestAlphabetic c ||
    (!first && (c == '.' || c == '[' || c == ']' || Unicode.isLatestNumeric c))

/-- Reads the name of a group through `>`. -/
def readGroupName (cs : Rest) : Option (List Char × Rest) :=
  match cs.span (· != '>') with
  | (name, '>' :: rest) =>
    match name with
    | [] => none
    | c :: more =>
      if isNameChar true c && more.all (isNameChar false) then some (name, rest) else none
  | _ => none

/-- Reads the opening of a group, from behind the parenthesis on. -/
def readGroup (m : Modes) (cs : Rest) : Option (Opening × Rest) :=
  match m.skip cs with
  | '?' :: '=' :: _ | '?' :: '!' :: _ | '?' :: '<' :: '=' :: _ | '?' :: '<' :: '!' :: _ => none
  | '?' :: 'P' :: '<' :: cs | '?' :: '<' :: cs => do
    let (name, rest) ← readGroupName cs
    pure (.group m (some name) true, rest)
  | '?' :: cs => do
    let (inner, seen, last, rest) ← readModes m [] cs
    if last = ':' then pure (.group inner none false, rest)
    else if seen.isEmpty then none
    else pure (.switch inner, rest)
  | cs => some (.group m none true, cs)

/-! ### The whole expression -/

/-- How far the reader has come. -/
structure Reader where
  modes : Modes
  /-- The parts of the current alternative, last one first; `none` stands for a change of
  modes. -/
  parts : List (Option Part) := []
  /-- The alternatives before the current one in the same group, last one first. -/
  branches : List Part := []
  /-- The groups that are open, innermost first. -/
  groups : List Group := []
  /-- The names that groups have. -/
  names : List (List Char) := []

namespace Reader

/-- Adds a part. -/
def push (r : Reader) (p : Part) : Reader :=
  { r with parts := some p :: r.parts }

/-- The current alternative as one part. -/
def alternative (r : Reader) : Part :=
  .concat (r.parts.reverse.filterMap id) (r.parts.countP Option.isNone)

/-- All alternatives of the current group as one part. -/
def whole (r : Reader) : Part :=
  match r.branches.reverse with
  | [] => r.alternative
  | p :: ps => .choice p (ps ++ [r.alternative])

/-- Repeats the last part, which has to exist. -/
def repeatLast? (r : Reader) (min : Nat) (max : Option Nat) : Option Reader :=
  match r.parts with
  | some p :: parts => some { r with parts := some (p.repeated min max) :: parts }
  | _ => none

/-- Drops the question mark that makes a repetition prefer short matches. -/
def dropLazy : Rest → Rest
  | '?' :: cs => cs
  | cs => cs

/-- Reads the counts of a repetition, from behind the brace on. -/
def readCounts (m : Modes) (cs : Rest) : Option (Nat × Option Nat × Rest) := do
  let (min, rest) ← readCount m (m.skip cs)
  match rest with
  | '\x7d' :: rest => pure (min, some min, rest)
  | ',' :: rest =>
    match m.skip rest with
    | '\x7d' :: rest => pure (min, none, rest)
    | rest =>
      match readCount m rest with
      | some (max, '\x7d' :: rest) => if min ≤ max then pure (min, some max, rest) else none
      | _ => none
  | _ => none

/-- Goes one step on: reads the next part, repetition, bar or parenthesis. -/
def step (r : Reader) (c : Char) (cs : Rest) : Option (Reader × Rest) :=
  if c = '(' then do
    let (opening, rest) ← readGroup r.modes cs
    match opening with
    | .switch m => pure ({ r with modes := m, parts := none :: r.parts }, rest)
    | .group m name captures =>
      if name.any r.names.contains then none
      else
        let group : Group := ⟨r.parts, r.branches, r.modes, captures⟩
        pure (⟨m, [], [], group :: r.groups, name.toList ++ r.names⟩, rest)
  else if c = ')' then
    match r.groups with
    | [] => none
    | g :: groups =>
      some (⟨g.modes, some (r.whole.grouped g.captures) :: g.before, g.branches, groups, r.names⟩,
        cs)
  else if c = '|' then
    some ({ r with parts := [], branches := r.alternative :: r.branches }, cs)
  else if c = '[' then do
    let (b, items, rest) := readOpening r.modes {} cs
    let (k, rest) ← readClass r.modes b items [] (rest.length + 1) rest
    pure (r.push { Part.ofClass k.members with depth := k.depth }, rest)
  else if c = '?' then do
    let r ← r.repeatLast? 0 (some 1)
    pure (r, dropLazy cs)
  else if c = '*' then do
    let r ← r.repeatLast? 0 none
    pure (r, dropLazy cs)
  else if c = '+' then do
    let r ← r.repeatLast? 1 none
    pure (r, dropLazy cs)
  else if c = '\x7b' then do
    let (min, max, rest) ← readCounts r.modes cs
    let r ← r.repeatLast? min max
    pure (r, dropLazy (r.modes.skip rest))
  else if c = '\\' then do
    let (a, rest) ← readEscape r.modes cs
    let p ← a.part? r.modes
    pure (r.push p, rest)
  else if c = '.' then do
    let k ← dotClass? r.modes
    pure (r.push (.ofClass k), cs)
  else if c = '^' then
    let a : Assertion :=
      if !r.modes.multiLine then .textStart
      else if r.modes.anyLineEnd then .anyLineStart else .lineStart
    some (r.push (.ofAssertion a), cs)
  else if c = '$' then
    let a : Assertion :=
      if !r.modes.multiLine then .textEnd
      else if r.modes.anyLineEnd then .anyLineEnd else .lineEnd
    some (r.push (.ofAssertion a), cs)
  else do
    let k ← charClass? r.modes c false
    pure (r.push (.ofClass k), cs)

/-- Reads to the end; every step takes a character at least, so that the length of the text is
fuel enough. -/
def run (r : Reader) : Nat → Rest → Option Reader
  | 0, _ => none
  | fuel + 1, cs =>
    match r.modes.skip cs with
    | [] => some r
    | c :: cs => do
      let (r, rest) ← r.step c cs
      run r fuel rest

end Reader

/-- How deep an expression may nest. -/
def depthLimit : Nat := 250

/-- How many bytes of memory its matcher may take. -/
def weightLimit : Nat := 10 * 1024 * 1024

/-- Reads an expression written with the given modes. -/
def read? (m : Modes) (text : List Char) : Option Regex := do
  let r ← Reader.run ⟨m, [], [], [], []⟩ (text.length + 1) text
  let p := r.whole
  if r.groups.isEmpty && p.depth ≤ depthLimit && p.weight ≤ weightLimit then pure p.expr
  else none

instance : Engine := ⟨read?⟩

end RuleLexer.Regex
