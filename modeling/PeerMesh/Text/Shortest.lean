/-!
# Shortest decimals of binary64 numbers

The reals that round to a finite number form an interval around it, whose ends belong to it
exactly when its significand is even. Its shortest decimal is the one with the fewest digits in
that interval, the nearest to the number if there are several, and of two equally near the larger.
It is printed without an exponent.
-/

set_option autoImplicit false

namespace PeerMesh.Text

/-- A finite number that is not negative: `significand * 2 ^ exponent`. -/
structure Dyadic where
  significand : Nat
  exponent : Int
  /-- Whether the gap to the number below is half the gap to the number above. -/
  narrowBelow : Bool
  deriving DecidableEq, Repr

/-- The decimal `digits * 10 ^ exponent`. -/
structure Decimal where
  digits : Nat
  exponent : Int
  deriving DecidableEq, Repr

/-- The bits of the exponent of a binary64 number. -/
def exponentBits (bits : UInt64) : Nat :=
  ((bits >>> 52) &&& 0x7FF).toNat

/-- The bits of the fraction of a binary64 number. -/
def fractionBits (bits : UInt64) : Nat :=
  (bits &&& 0xFFFFFFFFFFFFF).toNat

/-- Whether the sign bit of a binary64 number is set. -/
def signBit (bits : UInt64) : Bool :=
  bits >>> 63 != 0

/-- The magnitude of a finite binary64 number. -/
def Dyadic.ofBits (bits : UInt64) : Dyadic :=
  if exponentBits bits = 0 then ⟨fractionBits bits, -1074, false⟩
  else
    ⟨0x10000000000000 + fractionBits bits, (exponentBits bits : Int) - 1075,
      fractionBits bits == 0 && 1 < exponentBits bits⟩

/-- Compares `a * 10 ^ i` with `b * 2 ^ j`. -/
def compareScaled (a : Nat) (i : Int) (b : Nat) (j : Int) : Ordering :=
  compare (a * Nat.pow 10 i.toNat * Nat.pow 2 (-j).toNat)
    (b * Nat.pow 2 j.toNat * Nat.pow 10 (-i).toNat)

/-- Whether a decimal rounds to a number: to the nearest, ties to the even significand. -/
def Dyadic.isReadFrom (number : Dyadic) (decimal : Decimal) : Bool :=
  let low := if number.narrowBelow then 4 * number.significand - 1 else 4 * number.significand - 2
  let high := 4 * number.significand + 2
  let closed := number.significand % 2 == 0
  let toLow := compareScaled decimal.digits decimal.exponent low (number.exponent - 2)
  let toHigh := compareScaled decimal.digits decimal.exponent high (number.exponent - 2)
  (toLow == .gt || (closed && toLow == .eq)) && (toHigh == .lt || (closed && toHigh == .eq))

/-- The greatest multiple of `10 ^ grid` that is not above a number, in units of `10 ^ grid`. -/
def Dyadic.floorOn (number : Dyadic) (grid : Int) : Nat :=
  (number.significand * Nat.pow 2 number.exponent.toNat * Nat.pow 10 (-grid).toNat) /
    (Nat.pow 2 (-number.exponent).toNat * Nat.pow 10 grid.toNat)

/-- The decimal nearest to a number among the two neighbours on a grid that round to it. -/
def Dyadic.onGrid? (number : Dyadic) (grid : Int) : Option Decimal :=
  let below : Decimal := ⟨number.floorOn grid, grid⟩
  let above : Decimal := ⟨number.floorOn grid + 1, grid⟩
  match number.isReadFrom below, number.isReadFrom above with
  | true, true =>
    if compareScaled (below.digits + above.digits) grid number.significand (number.exponent + 1) =
        .gt then some below
    else some above
  | true, false => some below
  | false, true => some above
  | false, false => none

/-- The number of decimal places before the point of the greatest numbers, and more. -/
def coarsestGrid : Int := 309

/-- The first grid, from coarse to fine, on which a decimal rounds to a number, with that decimal.
-/
def Dyadic.search (number : Dyadic) : (grids : Nat) → (grid : Int) → Decimal
  | 0, grid => ⟨number.floorOn grid, grid⟩
  | grids + 1, grid =>
    match number.onGrid? grid with
    | some decimal => if decimal.digits = 0 then number.search grids (grid - 1) else decimal
    | none => number.search grids (grid - 1)

/-- The shortest decimal of a number that is not zero. -/
def Dyadic.shortest (number : Dyadic) : Decimal :=
  number.search 634 coarsestGrid

def Decimal.positional (decimal : Decimal) : String :=
  let digits := Nat.toDigits 10 decimal.digits
  if 0 ≤ decimal.exponent then
    String.ofList (digits ++ List.replicate decimal.exponent.toNat '0')
  else
    let places := (-decimal.exponent).toNat
    let padded := List.replicate (places + 1 - digits.length) '0' ++ digits
    let (whole, fraction) := padded.splitAt (padded.length - places)
    String.ofList (whole ++ '.' :: fraction)

def realText (bits : UInt64) : String :=
  if exponentBits bits = 0x7FF then
    if fractionBits bits ≠ 0 then "NaN" else if signBit bits then "-inf" else "inf"
  else
    let number := Dyadic.ofBits bits
    (if signBit bits then "-" else "") ++
      (if number.significand = 0 then "0" else number.shortest.positional)

end PeerMesh.Text
