/-!
# Reading decimal numbers

`nearestBits` finds the binary64 number nearest to a fraction in exact arithmetic, a tie going to
the even significand, and `Decimal.read?` reads a decimal literal through it.
-/

namespace RuleLexer.Decimal

/-- The bits of positive infinity. -/
def infinityBits : Nat :=
  0x7FF0000000000000

/-- The bit that marks a number as negative. -/
def signBit : Nat :=
  0x8000000000000000

/-- A power of ten. -/
def tenTo (n : Nat) : Nat :=
  Nat.pow 10 n

/-- The quotient rounded to the nearest whole number, a tie going to the even one. -/
def roundToEven (num den : Nat) : Nat :=
  let q := num / den
  let twice := 2 * (num % den)
  if den < twice ∨ (twice = den ∧ q % 2 = 1) then q + 1 else q

/-- The bits of the binary64 number nearest to `num / den`, where the unit of the last place is
at least `2 ^ -1074`.  A significand that rounds up to the next power of two carries into the
exponent, which is right since the two fields are neighbours. -/
def nearestBits (num den : Nat) : Nat :=
  if num = 0 then 0
  else
    -- In units of `2 ^ -1074` the number is `scaled / den`.
    let scaled := num <<< 1074
    let length := (scaled / den).log2
    let shift := length - 52
    let bits := (shift <<< 52) + roundToEven scaled (den <<< shift)
    if infinityBits ≤ bits then infinityBits else bits

/-- A decimal literal without sign: `digits · 10 ^ exponent`. -/
structure Literal where
  digits : Nat
  exponent : Int
deriving DecidableEq, Repr

/-- The bits of the binary64 number nearest to a literal.  Exponents beyond the range of the
format are cut off before any power is computed. -/
def Literal.bits (x : Literal) : Nat :=
  let length := (Nat.toDigits 10 x.digits).length
  if x.digits = 0 ∨ x.exponent + length < -400 then 0
  else if 400 < x.exponent + length then infinityBits
  else if 0 ≤ x.exponent then nearestBits (x.digits * tenTo x.exponent.toNat) 1
  else nearestBits x.digits (tenTo (-x.exponent).toNat)

/-- The number that a list of digits denotes, most significant first. -/
def ofDigits (cs : List Char) : Nat :=
  cs.foldl (fun n c => n * 10 + (c.toNat - '0'.toNat)) 0

/-- Reads the digits at the start of a text. -/
def digitRun (cs : List Char) : List Char × List Char :=
  cs.span Char.isDigit

/-- Splits a sign off a text; the first part tells whether it is a minus. -/
def splitSign : List Char → Bool × List Char
  | '-' :: cs => (true, cs)
  | '+' :: cs => (false, cs)
  | cs => (false, cs)

/-- Reads an exponent, with the letter before it, up to the end of the text. -/
def readExponent? : List Char → Option Int
  | [] => some 0
  | c :: cs =>
    if c = 'e' ∨ c = 'E' then
      let (negative, digits) := splitSign cs
      if digits.isEmpty || !digits.all Char.isDigit then none
      else some (if negative then -(ofDigits digits : Int) else ofDigits digits)
    else none

/-- Reads a literal without sign: digits with at most one point among, before or after them, then
an exponent if there is one. -/
def readLiteral? (cs : List Char) : Option Literal :=
  let (whole, rest) := digitRun cs
  let (fraction, rest) :=
    match rest with
    | '.' :: rest => digitRun rest
    | rest => ([], rest)
  if whole.isEmpty && fraction.isEmpty then none
  else (readExponent? rest).map fun e => ⟨ofDigits (whole ++ fraction), e - fraction.length⟩

/-- Reads a decimal number: a sign if there is one, then a literal or one of the words `inf`,
`infinity` and `nan` in any case. -/
def read? (text : String) : Option Float :=
  let (negative, body) := splitSign text.toList
  let signed (bits : Nat) := Float.ofBits ((if negative then signBit else 0) + bits).toUInt64
  let word := String.ofList (body.map Char.toLower)
  if word = "inf" ∨ word = "infinity" then some (signed infinityBits)
  else if word = "nan" then some (0.0 / 0.0)
  else (readLiteral? body).map fun x => signed x.bits

end RuleLexer.Decimal
