import RuleLexer.Decimal.Nearest

/-!
# Writing numbers with the fewest digits

`shortest` finds the decimal number with the fewest digits that is read back as a given binary64
number, and among those the nearest to it; an exact tie goes up.  `write` lays it out without an
exponent.
-/

namespace RuleLexer.Decimal

/-- A positive binary64 number `significand · 2 ^ exponent`, in units of `2 ^ -1074`. -/
structure Binary where
  significand : Nat
  exponent : Nat
deriving DecidableEq, Repr

namespace Binary

/-- The leading bit of a significand that has all its 53 bits. -/
def leadingBit : Nat :=
  0x10000000000000

/-- The number with the given bits, sign left out; infinities and NaNs are not meant. -/
def ofBits (bits : Nat) : Binary :=
  let field := bits / leadingBit % 2048
  let fraction := bits % leadingBit
  if field = 0 then ⟨fraction, 0⟩ else ⟨leadingBit + fraction, field - 1⟩

/-! The value and the ends of the interval of reals that round to it are counted in quarter
units, `2 ^ -1076`, so that they are whole. -/

/-- The number itself. -/
def value (x : Binary) : Nat :=
  (4 * x.significand) <<< x.exponent

/-- Half-way to the next greater number. -/
def upper (x : Binary) : Nat :=
  (4 * x.significand + 2) <<< x.exponent

/-- Half-way to the next smaller number, which lies nearer at a power of two. -/
def lower (x : Binary) : Nat :=
  if x.significand = leadingBit ∧ 0 < x.exponent then (4 * x.significand - 1) <<< x.exponent
  else (4 * x.significand - 2) <<< x.exponent

/-- Whether the point `num`, counted in quarter units times `scale`, is read back as `x`.  The
ends of the interval are if the significand is even. -/
def readsBack (x : Binary) (scale num : Nat) : Bool :=
  if x.significand % 2 = 0 then x.lower * scale ≤ num && num ≤ x.upper * scale
  else x.lower * scale < num && num < x.upper * scale

end Binary

/-- No grid that is tried is finer than `10 ^ -347`: times this power of ten its points are
whole. -/
def gridScale : Nat :=
  tenTo 347

/-- The decimal exponent of a number: the least `e` with `x < 10 ^ e`, moved up by 330. -/
def magnitude (x : Binary) : Nat :=
  (Nat.toDigits 10 ((x.value * tenTo 330) >>> 1076)).length

/-- The point of the grid of numbers with `count` digits that is read back as `x`: of the two
neighbours of `x` on the grid the one that is, and of two the nearer. -/
def onGrid? (x : Binary) (count : Nat) : Option Nat :=
  let grid := tenTo (magnitude x + 17 - count) <<< 1076
  let scaled := x.value * gridScale
  let below := scaled / grid
  match x.readsBack gridScale (below * grid), x.readsBack gridScale ((below + 1) * grid) with
  | true, false => some below
  | false, true => some (below + 1)
  | true, true => some (if 2 * (scaled % grid) < grid then below else below + 1)
  | false, false => none

/-- The digits and the decimal exponent of the shortest number that is read back as `x`. -/
def shortest (x : Binary) : Nat × Int :=
  match (List.range' 1 17).findSome? fun count => (onGrid? x count).map (·, count) with
  | some (digits, count) => (digits, magnitude x - 330 - count)
  | none => (0, 0)

/-- Lays out `digits · 10 ^ exponent` without an exponent, zeros behind the point left out. -/
def positional (digits : Nat) (exponent : Int) : String :=
  let ds := Nat.toDigits 10 digits
  if 0 ≤ exponent then String.ofList (ds ++ List.replicate exponent.toNat '0')
  else
    let places := (-exponent).toNat
    let padded := List.replicate (places + 1 - ds.length) '0' ++ ds
    let (whole, fraction) := padded.splitAt (padded.length - places)
    match (fraction.reverse.dropWhile (· == '0')).reverse with
    | [] => String.ofList whole
    | ds => String.ofList (whole ++ '.' :: ds)

/-- A number in decimal digits. -/
def write (x : Float) : String :=
  if x.isNaN then "NaN"
  else
    let bits := x.toBits.toNat
    let sign := if signBit ≤ bits then "-" else ""
    let rest := bits % signBit
    if x.isInf then sign ++ "inf"
    else if rest = 0 then sign ++ "0"
    else
      let (digits, exponent) := shortest (Binary.ofBits rest)
      sign ++ positional digits exponent

end RuleLexer.Decimal
