/-!
# Numerals

Unsigned decimal numerals as documents spell them: `9`, `9.`, `9.0` and `.9`. There is no sign and
no exponent, so a numeral is a whole part and a fraction, and its value is the nearest double.
-/

namespace Espresso.Decimal

/-- The digits before and after the point. -/
structure Numeral where
  whole : List Char
  fraction : List Char

def digitsValue (digits : List Char) : Nat :=
  digits.foldl (fun value c => 10 * value + (c.toNat - '0'.toNat)) 0

/-- The nearest double, which for a numeral that is too large is infinity. -/
def Numeral.value (numeral : Numeral) : Float :=
  .ofModel (.ofScientific (digitsValue (numeral.whole ++ numeral.fraction))
    (-(numeral.fraction.length : Int)))

/-- The longest numeral a text starts with, and what follows it. A point alone is no numeral. -/
def Numeral.read? (text : List Char) : Option (Numeral × List Char) :=
  let whole := text.takeWhile Char.isDigit
  match text.dropWhile Char.isDigit with
  | '.' :: rest =>
    let fraction := rest.takeWhile Char.isDigit
    if whole.isEmpty && fraction.isEmpty then none
    else some (⟨whole, fraction⟩, rest.dropWhile Char.isDigit)
  | rest => if whole.isEmpty then none else some (⟨whole, []⟩, rest)

theorem Numeral.suffix_of_read? {text rest : List Char} {numeral : Numeral}
    (h : Numeral.read? text = some (numeral, rest)) : rest <:+ text := by
  have htext := List.dropWhile_suffix (l := text) Char.isDigit
  simp only [Numeral.read?] at h
  split at h
  · next tail htail =>
    split at h
    · cases h
    · cases h
      rw [htail] at htext
      exact ((List.dropWhile_suffix _).trans (List.suffix_cons _ _)).trans htext
  · split at h
    · cases h
    · cases h
      exact htext

end Espresso.Decimal
