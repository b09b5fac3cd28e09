/-!
# Shortest decimals

The decimal with the fewest digits that a finite double is the nearest double to, and among those
the one nearest to the double itself. A double is `significand · 2 ^ exponent`; the reals that
round to it form an interval, whose ends belong to it when the significand is even, and the
decimals with `k` digits form a grid, on which only the two neighbours of the double matter.
-/

namespace Espresso.Decimal

/-- The number `coefficient · 10 ^ exponent`. -/
structure Scientific where
  coefficient : Nat
  exponent : Int
  deriving DecidableEq

/-- The number `significand · 2 ^ exponent`. -/
structure Binary where
  significand : Nat
  exponent : Int

def isNegative (x : Float) : Bool :=
  Nat.pow 2 63 ≤ x.toBits.toNat

def fractionField (x : Float) : Nat :=
  x.toBits.toNat % Nat.pow 2 52

def exponentField (x : Float) : Nat :=
  x.toBits.toNat / Nat.pow 2 52 % Nat.pow 2 11

/-- The magnitude of a finite double. -/
def magnitude (x : Float) : Binary :=
  if exponentField x = 0 then ⟨fractionField x, -1074⟩
  else ⟨fractionField x + Nat.pow 2 52, exponentField x - 1075⟩

/-- The reals from `low / unit` to `high / unit` that round to the double `middle / unit`. -/
structure Rounding where
  low : Nat
  middle : Nat
  high : Nat
  unit : Nat
  closed : Bool

/-- The gap below a power of two is half the gap above it, save at the least exponent. -/
def Binary.rounding (b : Binary) : Rounding :=
  let below := if b.significand = Nat.pow 2 52 ∧ b.exponent ≠ -1074 then 1 else 2
  let factor := Nat.pow 2 (b.exponent - 2).toNat
  { low := (4 * b.significand - below) * factor
    middle := 4 * b.significand * factor
    high := (4 * b.significand + 2) * factor
    unit := Nat.pow 2 (2 - b.exponent).toNat
    closed := b.significand % 2 == 0 }

/-- The same interval measured in units of `10 ^ place`. -/
def Rounding.inUnits (r : Rounding) (place : Int) : Rounding :=
  let factor := Nat.pow 10 (-place).toNat
  { low := r.low * factor
    middle := r.middle * factor
    high := r.high * factor
    unit := r.unit * Nat.pow 10 place.toNat
    closed := r.closed }

def Rounding.contains (r : Rounding) (n : Nat) : Bool :=
  let point := n * r.unit
  (r.low < point && point < r.high) || (r.closed && (point == r.low || point == r.high))

/-- Of the integers on both sides of the middle, the one in the interval; of two the nearer, and
of two equally near the even one. -/
def Rounding.neighbour? (r : Rounding) : Option Nat :=
  let below := r.middle / r.unit
  let above := below + 1
  let toBelow := r.middle - below * r.unit
  let toAbove := above * r.unit - r.middle
  match r.contains below, r.contains above with
  | true, true =>
    if toBelow < toAbove then some below
    else if toAbove < toBelow then some above
    else some (if below % 2 == 0 then below else above)
  | true, false => some below
  | false, true => some above
  | false, false => none

def digitCount (n : Nat) : Nat :=
  (Nat.toDigits 10 n).length

/-- The place of the first digit of `middle / unit`. -/
def Rounding.leadingPlace (r : Rounding) : Int :=
  if r.unit ≤ r.middle then (digitCount (r.middle / r.unit) : Int) - 1
  else -(digitCount ((r.unit + r.middle - 1) / r.middle - 1) : Int)

def Scientific.withoutTrailingZeros (s : Scientific) : Scientific :=
  let zeros := ((Nat.toDigits 10 s.coefficient).reverse.takeWhile (· == '0')).length
  ⟨s.coefficient / Nat.pow 10 zeros, s.exponent + zeros⟩

/-- Seventeen digits always suffice. -/
def Binary.shortest (b : Binary) : Scientific :=
  if b.significand = 0 then ⟨0, 0⟩
  else
    let r := b.rounding
    let found := (List.range 17).findSome? fun (more : Nat) =>
      let place := r.leadingPlace - more
      (r.inUnits place).neighbour?.map fun n => (⟨n, place⟩ : Scientific)
    (found.getD ⟨0, 0⟩).withoutTrailingZeros

end Espresso.Decimal
