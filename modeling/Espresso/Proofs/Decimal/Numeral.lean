import Espresso.Proofs.Decimal.Addition
import Mathlib.Data.List.Induction
import Mathlib.Data.Nat.Digits.Defs

/-!
# The value of a numeral

A numeral stands for a whole number and a decimal fraction. Its value is computed from all of its
digits at once, divided by a power of ten in one step and rounded once, so it is the double nearest
to that number.
-/

namespace Espresso.Decimal

open Float.Model Float.Model.UnpackedFloat

/-- The number that a row of digits stands for. -/
def number (digits : List Char) : ℕ :=
  Nat.ofDigits 10 (digits.reverse.map fun c => c.toNat - '0'.toNat)

/-- The number that a numeral stands for. -/
def Numeral.number (numeral : Numeral) : ℚ :=
  Decimal.number numeral.whole + Decimal.number numeral.fraction / 10 ^ numeral.fraction.length

theorem number_append (first second : List Char) :
    number (first ++ second) = number first * 10 ^ second.length + number second := by
  unfold number
  rw [List.reverse_append, List.map_append, Nat.ofDigits_append, List.length_map,
    List.length_reverse, Nat.add_comm, Nat.mul_comm]

theorem digitsValue_eq_number (digits : List Char) : digitsValue digits = number digits := by
  induction digits using List.reverseRecOn with
  | nil => rfl
  | append_singleton digits c ih =>
    have hlast : digitsValue (digits ++ [c]) = 10 * digitsValue digits + (c.toNat - '0'.toNat) := by
      unfold digitsValue
      rw [List.foldl_append]
      rfl
    have hsingle : number [c] = c.toNat - '0'.toNat := by
      unfold number
      simp
    rw [hlast, ih, number_append, hsingle, List.length_singleton, Nat.pow_one, Nat.mul_comm]

theorem Numeral.number_eq (numeral : Numeral) :
    numeral.number = digitsValue (numeral.whole ++ numeral.fraction) /
      10 ^ numeral.fraction.length := by
  have hscale : (10 : ℚ) ^ numeral.fraction.length ≠ 0 := pow_ne_zero _ (by norm_num)
  unfold Numeral.number
  rw [digitsValue_eq_number, number_append]
  push_cast
  field_simp

/-! ### Rounding a fraction -/

section Fraction

variable {numerator denominator : ℕ}

/-- How far a numerator is shifted so that the quotient has all the bits of a double. -/
def headroom (numerator denominator : ℕ) : ℕ :=
  (-(min 0 (max ((numerator.log2 : ℤ) - denominator.log2 - 53) (-1074)))).toNat

theorem div_eq_roundWithAccuracy (hnumerator : 0 < numerator) (hdenominator : 0 < denominator) :
    UnpackedFloat.div Format.binary64 (.finite .positive numerator 0 hnumerator)
        (.finite .positive denominator 0 hdenominator) =
      roundWithAccuracy Format.binary64 .positive
        (numerator * 2 ^ headroom numerator denominator / denominator)
        (-(headroom numerator denominator))
        (accuracyOfFraction (numerator * 2 ^ headroom numerator denominator % denominator)
          denominator) := by
  have htarget : min (0 - 0) (Format.binary64.targetExponent
      (totalExponent numerator 0 - totalExponent denominator 0)) =
        -(headroom numerator denominator : ℤ) := by
    have hformat : Format.binary64.targetExponent
        (totalExponent numerator 0 - totalExponent denominator 0) =
          max ((numerator.log2 : ℤ) + 1 + 0 - (denominator.log2 + 1 + 0) - 53) (-1074) := rfl
    rw [hformat]
    unfold headroom
    omega
  have hshift : (0 - 0 - -(headroom numerator denominator : ℤ)).toNat =
      headroom numerator denominator := by
    omega
  have hcore : divCore Format.binary64 numerator 0 denominator 0 =
      (numerator * 2 ^ headroom numerator denominator / denominator,
        -(headroom numerator denominator : ℤ),
        accuracyOfFraction (numerator * 2 ^ headroom numerator denominator % denominator)
          denominator) := by
    unfold divCore
    dsimp only
    rw [htarget, hshift, Nat.shiftLeft_eq]
  have hdiv : UnpackedFloat.div Format.binary64 (.finite .positive numerator 0 hnumerator)
      (.finite .positive denominator 0 hdenominator) =
        roundWithAccuracy Format.binary64 .positive
          (divCore Format.binary64 numerator 0 denominator 0).1
          (divCore Format.binary64 numerator 0 denominator 0).2.1
          (divCore Format.binary64 numerator 0 denominator 0).2.2 := rfl
  rw [hdiv, hcore]

/-- A quotient has all the bits of a double, unless its exponent is the least. -/
theorem reaches_headroom (hnumerator : 0 < numerator) (hdenominator : 0 < denominator) :
    Reaches (numerator * 2 ^ headroom numerator denominator / denominator)
      (-(headroom numerator denominator)) := by
  have hleast : -1074 ≤ -(headroom numerator denominator : ℤ) := by
    unfold headroom
    omega
  by_cases hbottom : -(headroom numerator denominator : ℤ) = -1074
  · refine ⟨hleast, ?_, .inr hbottom⟩
    rw [hbottom]
    exact le_goal
  · have hroom : denominator.log2 + 53 ≤ numerator.log2 + headroom numerator denominator := by
      unfold headroom at *
      omega
    have hfull : 2 ^ 52 ≤ numerator * 2 ^ headroom numerator denominator / denominator := by
      rw [Nat.le_div_iff_mul_le hdenominator]
      calc 2 ^ 52 * denominator
        _ ≤ 2 ^ 52 * 2 ^ (denominator.log2 + 1) := Nat.mul_le_mul_left _ Nat.lt_log2_self.le
        _ = 2 ^ (denominator.log2 + 53) := by
          rw [← Nat.pow_add]
          congr 1
          omega
        _ ≤ 2 ^ (numerator.log2 + headroom numerator denominator) :=
          Nat.pow_le_pow_right (by decide) hroom
        _ = 2 ^ numerator.log2 * 2 ^ headroom numerator denominator := Nat.pow_add _ _ _
        _ ≤ numerator * 2 ^ headroom numerator denominator :=
          Nat.mul_le_mul_right _ (Nat.log2_self_le (Nat.ne_of_gt hnumerator))
    have hlog : 52 ≤ (numerator * 2 ^ headroom numerator denominator / denominator).log2 :=
      (Nat.le_log2 (by omega)).mpr hfull
    refine ⟨hleast, ?_, .inl (by omega)⟩
    unfold goal
    omega

/-- A fraction is divided with a remainder, and rounded once. -/
theorem nearest_div (hnumerator : 0 < numerator) (hdenominator : 0 < denominator) :
    Nearest (numerator / denominator) (UnpackedFloat.pack Format.binary64
      (UnpackedFloat.div Format.binary64 (.finite .positive numerator 0 hnumerator)
        (.finite .positive denominator 0 hdenominator))).toNat := by
  have hnearest :=
    nearest_roundWithAccuracy hdenominator (reaches_headroom hnumerator hdenominator)
  have hsame := cast_mul_two_pow numerator (Int.add_left_neg (headroom numerator denominator : ℤ))
  rw [zpow_zero, mul_one] at hsame
  rw [div_mul_eq_mul_div, hsame] at hnearest
  rwa [div_eq_roundWithAccuracy]

end Fraction

/-! ### Rounding a numeral -/

theorem two_mul_unitsOfOne_lt {mantissa amount : ℕ} (h : 2 ^ 11 + mantissa.log2 < amount) :
    2 * mantissa * unitsOfOne < 10 ^ amount := by
  unfold unitsOfOne
  calc 2 * mantissa * 2 ^ 1074
    _ < 2 * 2 ^ (mantissa.log2 + 1) * 2 ^ 1074 := by
      gcongr
      exact Nat.lt_log2_self
    _ = 2 ^ (1 + (mantissa.log2 + 1) + 1074) := by
      rw [Nat.pow_add 2 (1 + (mantissa.log2 + 1)), Nat.pow_add 2 1, Nat.pow_one]
    _ ≤ 2 ^ amount := Nat.pow_le_pow_right (by decide) (by omega)
    _ ≤ 10 ^ amount := Nat.pow_le_pow_left (by decide) _

/-- With that many digits after the point a number is too small. -/
theorem nearest_zero_of_log2 {mantissa amount : ℕ} (h : 2 ^ 11 + mantissa.log2 < amount) :
    Nearest (mantissa / 10 ^ amount) 0 := by
  apply nearest_zero_of_lt
  have hone : worth 1 = 1 / unitsOfOne := by
    have hunits : units 1 = 1 := rfl
    rw [worth, hunits, Nat.cast_one]
  have hscale : (0 : ℚ) < 10 ^ amount := by positivity
  have hsmall : (2 : ℚ) * mantissa * unitsOfOne < 10 ^ amount := by
    exact_mod_cast two_mul_unitsOfOne_lt h
  rwa [hone, ← mul_div_assoc, div_lt_div_iff₀ hscale unitsOfOne_pos, one_mul]

/-- Without a fraction, the mantissa is lengthened by all the bits of a double. -/
theorem nearest_mul {mantissa power : ℕ} (hpos : 0 < mantissa) (hpower : 0 < power)
    (hone : power = 1) (hlonger : 0 < mantissa <<< 53) :
    Nearest mantissa (UnpackedFloat.pack Format.binary64 (UnpackedFloat.mul Format.binary64
      (.finite .positive (mantissa <<< 53) (-(53 : ℕ)) hlonger)
        (.finite .positive power 0 hpower))).toNat := by
  have hlog := log2_mul_two_pow hpos 53
  have hreaches : Reaches (mantissa * 2 ^ 53) (-(53 : ℕ)) := by
    refine ⟨by decide, ?_, .inl (Nat.mul_pos hpos (Nat.two_pow_pos _))⟩
    unfold goal
    omega
  have hmul : UnpackedFloat.mul Format.binary64
      (.finite .positive (mantissa <<< 53) (-(53 : ℕ)) hlonger) (.finite .positive power 0 hpower) =
        roundWithAccuracy Format.binary64 .positive (mantissa <<< 53 * power) (-(53 : ℕ) + 0)
          .exact := rfl
  have hsame := cast_mul_two_pow mantissa (Int.add_left_neg ((53 : ℕ) : ℤ))
  rw [zpow_zero, mul_one] at hsame
  rw [hmul, hone, Nat.mul_one, Nat.shiftLeft_eq, Int.add_zero, ← hsame]
  exact hreaches.nearest

/-- The cases are those of the exponent: too small, none, or a power of ten to divide by. -/
theorem nearest_ofScientific (mantissa amount : ℕ) :
    Nearest (mantissa / 10 ^ amount) (UnpackedFloat.pack Format.binary64
      (UnpackedFloat.ofScientific Format.binary64 mantissa (-(amount : ℤ)))).toNat := by
  have hlarge : ¬ -(amount : ℤ) > 2 ^ Format.binary64.exponentBits := by
    have hbits : Format.binary64.exponentBits = 11 := rfl
    rw [hbits]
    omega
  unfold UnpackedFloat.ofScientific
  by_cases hzero : mantissa = 0
  · rw [dif_pos hzero, Ranked.zero.toNat_pack, hzero, Nat.cast_zero, zero_div]
    exact nearest_zero
  · have hpos := Nat.pos_of_ne_zero hzero
    rw [dif_neg hzero, if_neg hlarge]
    by_cases hsmall : -(amount : ℤ) < -((2 ^ Format.binary64.exponentBits : ℤ) + mantissa.log2)
    · rw [if_pos hsmall, Ranked.zero.toNat_pack]
      have hbits : Format.binary64.exponentBits = 11 := rfl
      rw [hbits] at hsmall
      exact nearest_zero_of_log2 (by omega)
    · rw [if_neg hsmall]
      by_cases hwhole : 0 ≤ -(amount : ℤ)
      · obtain rfl : amount = 0 := by omega
        rw [if_pos hwhole, pow_zero, div_one]
        apply nearest_mul hpos
        rfl
      · have hscale : (-(-(amount : ℤ))).toNat = amount := by omega
        have hpower : ((10 ^ (-(-(amount : ℤ))).toNat : ℕ) : ℚ) = 10 ^ amount := by
          rw [hscale, Nat.cast_pow, Nat.cast_ofNat]
        rw [if_neg hwhole, ← hpower]
        exact nearest_div hpos (Nat.pow_pos (by decide))

/-- The value of a numeral is the double nearest to its number. -/
theorem Numeral.nearest_value (numeral : Numeral) :
    Nearest numeral.number numeral.value.toModel.toBits.toNat := by
  rw [numeral.number_eq]
  exact nearest_ofScientific _ _

example : worth (Numeral.value ⟨['1', '2'], ['5']⟩).toModel.toBits.toNat = 25 / 2 := by
  decide +kernel

theorem eq_of_toBits_eq {x y : Float}
    (h : x.toModel.toBits.toNat = y.toModel.toBits.toNat) : x = y := by
  obtain ⟨⟨bits, _⟩⟩ := x
  obtain ⟨⟨other, _⟩⟩ := y
  obtain rfl : bits = other := UInt64.toNat_inj.mp h
  rfl

/-- No other double is nearest to it. -/
theorem Numeral.nearest_iff {numeral : Numeral} {x : Float} :
    Nearest numeral.number x.toModel.toBits.toNat ↔ numeral.value = x := by
  constructor
  · intro h
    exact eq_of_toBits_eq (numeral.nearest_value.unique h)
  · rintro rfl
    exact numeral.nearest_value

end Espresso.Decimal
