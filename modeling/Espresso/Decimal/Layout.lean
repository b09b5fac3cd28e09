import Espresso.Decimal.Shortest

/-!
# Layout of decimals

How a double is spelled out of its shortest decimal: the decisions are one record, which the
format that writes the number supplies.
-/

namespace Espresso.Decimal

/-- A number whose first digit stands at a place from `lowest` to `highest` is written without an
exponent; any other with one of at least `exponentDigits` digits. -/
structure Layout where
  lowest : Int
  highest : Int
  exponentDigits : Nat
  infinity : String
  undefined : String

def padded (width n : Nat) : String :=
  let digits := Nat.toDigits 10 n
  String.ofList (List.replicate (width - digits.length) '0' ++ digits)

/-- With a point and at least one digit on both sides of it. -/
def Scientific.positional (s : Scientific) : String :=
  let digits := Nat.toDigits 10 s.coefficient
  if 0 ≤ s.exponent then
    String.ofList (digits ++ List.replicate s.exponent.toNat '0') ++ ".0"
  else
    let places := (-s.exponent).toNat
    let digits := List.replicate (places + 1 - digits.length) '0' ++ digits
    String.ofList (digits.take (digits.length - places)) ++ "." ++
      String.ofList (digits.drop (digits.length - places))

/-- One digit before the point, and no point when no digit follows. -/
def Scientific.exponential (s : Scientific) (leading : Int) (width : Nat) : String :=
  let digits := Nat.toDigits 10 s.coefficient
  let point := if digits.length ≤ 1 then "" else "."
  let sign := if leading < 0 then "-" else "+"
  String.ofList (digits.take 1) ++ point ++ String.ofList (digits.drop 1) ++ "e" ++ sign ++
    padded width leading.natAbs

def Layout.scientific (layout : Layout) (s : Scientific) : String :=
  let leading := s.exponent + digitCount s.coefficient - 1
  if layout.lowest ≤ leading ∧ leading ≤ layout.highest then s.positional
  else s.exponential leading layout.exponentDigits

def Layout.float (layout : Layout) (x : Float) : String :=
  let sign := if isNegative x then "-" else ""
  if exponentField x < 2047 then sign ++ layout.scientific (magnitude x).shortest
  else if fractionField x = 0 then sign ++ layout.infinity
  else layout.undefined

end Espresso.Decimal
