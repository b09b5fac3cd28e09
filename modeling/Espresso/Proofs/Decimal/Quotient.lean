import Espresso.Proofs.Decimal.Nearest
import Mathlib.Algebra.Order.Field.Basic
import Mathlib.Tactic.FieldSimp
import Mathlib.Tactic.Ring

/-!
# Rounding a quotient

Of what is cut off a mantissa two bits are kept. They are enough to tell on which side of a midpoint
it was, also when the mantissa was itself a quotient with a remainder. The whole number that they
give is nearest to the quotient, and in its place it is the nearest double.
-/

namespace Espresso.Decimal

open Float.Model Float.Model.UnpackedFloat

/-! ### Quotients -/

/-- The whole number nearest to a quotient, and the even one of two. -/
def roundedQuotient (numerator denominator : ℕ) : ℕ :=
  Accuracy.roundToNearestEven (numerator / denominator)
    (accuracyOfFraction (numerator % denominator) denominator)

/-- A mantissa with its two bits stands for a quotient. -/
structure Tells (extended : ExtendedMantissa) (numerator denominator : ℕ) : Prop where
  mantissa_eq : extended.mantissa = numerator / denominator
  accuracy_eq : extended.accuracy = accuracyOfFraction (numerator % denominator) denominator

section Quotient

variable {extended : ExtendedMantissa} {numerator denominator : ℕ}

theorem Tells.roundedMantissa_eq (h : Tells extended numerator denominator) :
    extended.roundedMantissa = roundedQuotient numerator denominator := by
  unfold ExtendedMantissa.roundedMantissa roundedQuotient
  rw [h.mantissa_eq, h.accuracy_eq]

theorem accuracy_ofMantissaAndAccuracy (mantissa : ℕ) (accuracy : Accuracy) :
    (ExtendedMantissa.ofMantissaAndAccuracy mantissa accuracy).mantissa = mantissa ∧
      (ExtendedMantissa.ofMantissaAndAccuracy mantissa accuracy).accuracy = accuracy := by
  cases accuracy with
  | exact => exact ⟨rfl, rfl⟩
  | inexact side => cases side <;> exact ⟨rfl, rfl⟩

theorem tells_ofMantissaAndAccuracy (numerator denominator : ℕ) :
    Tells (.ofMantissaAndAccuracy (numerator / denominator)
      (accuracyOfFraction (numerator % denominator) denominator)) numerator denominator :=
  ⟨(accuracy_ofMantissaAndAccuracy _ _).1, (accuracy_ofMantissaAndAccuracy _ _).2⟩

theorem accuracyOfFraction_eq_exact_iff {remainder : ℕ} :
    accuracyOfFraction remainder denominator = .exact ↔ remainder = 0 := by
  unfold accuracyOfFraction
  split <;> simp_all

theorem accuracy_eq_exact_iff :
    extended.accuracy = .exact ↔ (extended.roundBit || extended.stickyBit) = false := by
  obtain ⟨mantissa, roundBit, stickyBit⟩ := extended
  cases roundBit <;> cases stickyBit <;> simp [ExtendedMantissa.accuracy]

/-- The last bit says which half of a place a number is in, and whether anything was cut off before
says if it is at an end of that half. -/
theorem accuracyOfFraction_half {remainder bit : ℕ} (hlt : remainder < denominator)
    (hbit : bit < 2) (mantissa : ℕ) :
    accuracyOfFraction (remainder + denominator * bit) (denominator * 2) =
      ExtendedMantissa.accuracy ⟨mantissa, bit != 0, remainder != 0⟩ := by
  unfold accuracyOfFraction
  obtain rfl | rfl : bit = 0 ∨ bit = 1 := by omega
  · rw [Nat.mul_zero, Nat.add_zero]
    by_cases hzero : remainder = 0
    · rw [if_pos hzero, hzero]
      rfl
    · have hsticky : (remainder != 0) = true := bne_iff_ne.mpr hzero
      rw [if_neg hzero, hsticky, Nat.compare_eq_lt.mpr (by omega)]
      rfl
  · rw [Nat.mul_one, if_neg (by omega)]
    by_cases hzero : remainder = 0
    · rw [hzero, Nat.compare_eq_eq.mpr (by omega)]
      rfl
    · have hsticky : (remainder != 0) = true := bne_iff_ne.mpr hzero
      rw [hsticky, Nat.compare_eq_gt.mpr (by omega)]
      rfl

theorem Tells.shiftRightOne (hpos : 0 < denominator) (h : Tells extended numerator denominator) :
    Tells extended.shiftRightOne numerator (denominator * 2) := by
  have hsticky : (extended.roundBit || extended.stickyBit) = (numerator % denominator != 0) := by
    have hexact : extended.accuracy = .exact ↔ (extended.roundBit || extended.stickyBit) = false :=
      accuracy_eq_exact_iff
    rw [h.accuracy_eq, accuracyOfFraction_eq_exact_iff] at hexact
    rw [Bool.eq_iff_iff, bne_iff_ne, Ne, hexact, Bool.not_eq_false]
  unfold ExtendedMantissa.shiftRightOne
  rw [hsticky, h.mantissa_eq]
  constructor
  · exact Nat.div_div_eq_div_mul _ _ _
  · rw [Nat.mod_mul]
    exact (accuracyOfFraction_half (Nat.mod_lt _ hpos) (Nat.mod_lt _ (by decide)) _).symm

/-- The recursion is on how many bits are cut off. -/
theorem Tells.shiftRight (hpos : 0 < denominator) (h : Tells extended numerator denominator)
    (amount : ℕ) : Tells (extended >>> amount) numerator (denominator * 2 ^ amount) := by
  induction amount with
  | zero =>
    rw [Nat.pow_zero, Nat.mul_one]
    exact h
  | succ amount ih =>
    have hstep : extended >>> (amount + 1) = (extended >>> amount).shiftRightOne := rfl
    rw [hstep, Nat.pow_succ, ← Nat.mul_assoc]
    exact ih.shiftRightOne (Nat.mul_pos hpos (Nat.two_pow_pos _))

/-- A whole number is half away from a quotient at most, and it is even if it is that. -/
structure Rounds (numerator denominator rounded : ℕ) : Prop where
  le_rounded : numerator / denominator ≤ rounded
  rounded_le : rounded ≤ numerator / denominator + 1
  above : 2 * rounded * denominator < 2 * numerator + denominator ∨
    2 * rounded * denominator = 2 * numerator + denominator ∧ Even rounded
  below : 2 * numerator < (2 * rounded + 1) * denominator ∨
    2 * numerator = (2 * rounded + 1) * denominator ∧ Even rounded

theorem rounds_of_lt (h : 2 * (numerator % denominator) < denominator) :
    Rounds numerator denominator (numerator / denominator) := by
  have hsplit := Nat.div_add_mod' numerator denominator
  refine ⟨by omega, by omega, .inl ?_, .inl ?_⟩ <;>
    simp only [Nat.add_mul, Nat.mul_assoc] <;> omega

theorem rounds_of_gt (hpos : 0 < denominator) (h : denominator < 2 * (numerator % denominator)) :
    Rounds numerator denominator (numerator / denominator + 1) := by
  have hsplit := Nat.div_add_mod' numerator denominator
  have hlt := Nat.mod_lt numerator hpos
  refine ⟨by omega, by omega, .inl ?_, .inl ?_⟩ <;>
    simp only [Nat.add_mul, Nat.mul_add, Nat.mul_assoc] <;> omega

theorem rounds_of_eq (hpos : 0 < denominator) (h : 2 * (numerator % denominator) = denominator) :
    Rounds numerator denominator (numerator / denominator + numerator / denominator % 2) := by
  have hsplit := Nat.div_add_mod' numerator denominator
  have heven : Even (numerator / denominator + numerator / denominator % 2) := by
    rw [Nat.even_iff]
    omega
  obtain hparity | hparity : numerator / denominator % 2 = 0 ∨ numerator / denominator % 2 = 1 := by
    omega
  · rw [hparity] at heven ⊢
    refine ⟨by omega, by omega, .inl ?_, .inr ⟨?_, heven⟩⟩ <;>
      simp only [Nat.add_mul, Nat.mul_add, Nat.mul_assoc] <;> omega
  · rw [hparity] at heven ⊢
    refine ⟨by omega, by omega, .inr ⟨?_, heven⟩, .inl ?_⟩ <;>
      simp only [Nat.add_mul, Nat.mul_add, Nat.mul_assoc] <;> omega

theorem rounds_roundedQuotient (hpos : 0 < denominator) :
    Rounds numerator denominator (roundedQuotient numerator denominator) := by
  unfold roundedQuotient accuracyOfFraction
  split
  · next hzero => exact rounds_of_lt (by omega)
  · rcases Nat.lt_trichotomy (2 * (numerator % denominator)) denominator with hless | hsame | hmore
    · rw [Nat.compare_eq_lt.mpr hless]
      exact rounds_of_lt hless
    · rw [Nat.compare_eq_eq.mpr hsame]
      exact rounds_of_eq hpos hsame
    · rw [Nat.compare_eq_gt.mpr hmore]
      exact rounds_of_gt hpos hmore

end Quotient

/-! ### Places -/

/-- So many parts of the least positive double. -/
def parts (numerator denominator : ℕ) : ℚ :=
  numerator / (denominator * unitsOfOne)

section Parts

variable {numerator denominator : ℕ} (hpos : 0 < denominator)
include hpos

theorem strictMono_parts : StrictMono fun numerator => parts numerator denominator := by
  intro first second h
  have hden : (0 : ℚ) < denominator * unitsOfOne :=
    mul_pos (Nat.cast_pos.mpr hpos) unitsOfOne_pos
  unfold parts
  rwa [div_lt_div_iff_of_pos_right hden, Nat.cast_lt]

theorem worth_add_worth (first second : ℕ) :
    worth first + worth second =
      parts ((units first + units second) * denominator) denominator := by
  have hden : (denominator : ℚ) ≠ 0 := Nat.cast_ne_zero.mpr (Nat.ne_of_gt hpos)
  unfold worth parts
  rw [← add_div, Nat.cast_mul, Nat.cast_add, mul_comm (denominator : ℚ),
    mul_div_mul_right _ _ hden]

omit hpos in
theorem two_mul_parts (numerator denominator : ℕ) :
    2 * parts numerator denominator = parts (2 * numerator) denominator := by
  unfold parts
  rw [Nat.cast_mul, Nat.cast_ofNat, mul_div_assoc]

omit hpos in
theorem even_place {rounded place : ℕ} (h : Even rounded) : Even (place * 2 ^ 52 + rounded) := by
  rw [Nat.even_iff] at h ⊢
  omega

end Parts

theorem unitsOfOne_eq : (unitsOfOne : ℚ) = 2 ^ (1074 : ℤ) := by
  unfold unitsOfOne
  rw [Nat.cast_pow, Nat.cast_ofNat]
  exact (zpow_natCast _ _).symm

theorem parts_eq {numerator denominator place amount : ℕ} {exponent : ℤ} (hpos : 0 < denominator)
    (hplace : (place : ℤ) = exponent + amount + 1074) :
    parts (numerator * 2 ^ place) (denominator * 2 ^ amount) =
      numerator / denominator * 2 ^ exponent := by
  have hden : (denominator : ℚ) ≠ 0 := Nat.cast_ne_zero.mpr (Nat.ne_of_gt hpos)
  have hscale : (2 : ℚ) ^ place = 2 ^ exponent * 2 ^ amount * unitsOfOne := by
    rw [unitsOfOne_eq, ← zpow_natCast, ← zpow_natCast, hplace, zpow_add₀ two_ne_zero,
      zpow_add₀ two_ne_zero]
  have hunits := unitsOfOne_pos.ne'
  unfold parts
  push_cast
  rw [hscale]
  field_simp

section Place

variable {numerator denominator rounded place : ℕ} (hpos : 0 < denominator)
  (hrounds : Rounds numerator denominator rounded) (hlt : numerator / denominator < 2 ^ 53)
  (hnormal : 2 ^ 52 ≤ numerator / denominator ∨ place = 0)
include hpos hrounds hlt hnormal

omit hpos in
theorem Rounds.units_eq : units (place * 2 ^ 52 + rounded) = rounded * 2 ^ place := by
  have hlow := hrounds.le_rounded
  have hhigh := hrounds.rounded_le
  exact Decimal.units_eq (by omega) (by omega)

omit hlt hnormal hpos in
/-- A double that is a place or more below the rounded quotient is on the other side of it, or as
far away. -/
theorem Rounds.add_mul_lt_or_eq {below : ℕ} (hwide : below + 2 ^ place ≤ rounded * 2 ^ place) :
    (below + rounded * 2 ^ place) * denominator < 2 * numerator * 2 ^ place ∨
      (below + rounded * 2 ^ place) * denominator = 2 * numerator * 2 ^ place ∧ Even rounded := by
  have hreach : (below + rounded * 2 ^ place) * denominator + denominator * 2 ^ place ≤
      2 * rounded * denominator * 2 ^ place :=
    calc (below + rounded * 2 ^ place) * denominator + denominator * 2 ^ place
      _ = (below + 2 ^ place + rounded * 2 ^ place) * denominator := by ring
      _ ≤ (rounded * 2 ^ place + rounded * 2 ^ place) * denominator := by gcongr
      _ = 2 * rounded * denominator * 2 ^ place := by ring
  rcases hrounds.above with hless | ⟨hsame, heven⟩
  · have hscaled := Nat.mul_lt_mul_of_pos_right hless (Nat.two_pow_pos place)
    rw [Nat.add_mul] at hscaled
    exact .inl (Nat.lt_of_add_lt_add_right (Nat.lt_of_le_of_lt hreach hscaled))
  · rw [hsame, Nat.add_mul (2 * numerator)] at hreach
    rcases Nat.lt_or_eq_of_le (Nat.le_of_add_le_add_right hreach) with hmid | hmid
    · exact .inl hmid
    · exact .inr ⟨hmid, heven⟩

omit hrounds hlt hnormal in
/-- A quotient that is not below what it is rounded to is nearer to it than to anything below. -/
theorem add_mul_lt_of_mul_le {below : ℕ} (hfull : rounded * denominator ≤ numerator)
    (hless : below < rounded * 2 ^ place) :
    (below + rounded * 2 ^ place) * denominator < 2 * numerator * 2 ^ place :=
  calc (below + rounded * 2 ^ place) * denominator
    _ < (rounded * 2 ^ place + rounded * 2 ^ place) * denominator := by gcongr
    _ = 2 * (rounded * denominator) * 2 ^ place := by ring
    _ ≤ 2 * numerator * 2 ^ place := by gcongr

/-- Below a power of two doubles are nearer to each other, but a quotient that is rounded to it is
not below it. -/
theorem Rounds.aboveMidpoint :
    AboveMidpoint (parts (numerator * 2 ^ place) denominator) (place * 2 ^ 52 + rounded) := by
  intro below hnext
  have hunits := hrounds.units_eq hlt hnormal
  have hstep := units_succ below
  rw [hnext, hunits] at hstep
  rw [worth_add_worth hpos, two_mul_parts, (strictMono_parts hpos).lt_iff_lt,
    (strictMono_parts hpos).injective.eq_iff, hunits, ← Nat.mul_assoc]
  by_cases hwide : place ≤ below / 2 ^ 52 - 1
  · have hgap : 2 ^ place ≤ 2 ^ (below / 2 ^ 52 - 1) := Nat.pow_le_pow_right (by decide) hwide
    exact (hrounds.add_mul_lt_or_eq (by omega)).imp id (And.imp id even_place)
  · have hgap := Nat.two_pow_pos (below / 2 ^ 52 - 1)
    have hfull : rounded * denominator ≤ numerator := by
      have hlow := hrounds.le_rounded
      have hhigh := hrounds.rounded_le
      have hsame : numerator / denominator = rounded := by omega
      rw [← hsame]
      exact Nat.div_mul_le_self _ _
    exact .inl (add_mul_lt_of_mul_le hpos hfull (by omega))

theorem Rounds.belowMidpoint :
    BelowMidpoint (parts (numerator * 2 ^ place) denominator) (place * 2 ^ 52 + rounded) := by
  have hlow := hrounds.le_rounded
  have hunits := hrounds.units_eq hlt hnormal
  unfold BelowMidpoint
  rw [worth_add_worth hpos, two_mul_parts, (strictMono_parts hpos).lt_iff_lt,
    (strictMono_parts hpos).injective.eq_iff, units_succ, hunits, ← Nat.mul_assoc]
  have hgap : 2 ^ place ≤ 2 ^ ((place * 2 ^ 52 + rounded) / 2 ^ 52 - 1) :=
    Nat.pow_le_pow_right (by decide) (by omega)
  have hreach : (2 * rounded + 1) * denominator * 2 ^ place ≤ (rounded * 2 ^ place +
      (rounded * 2 ^ place + 2 ^ ((place * 2 ^ 52 + rounded) / 2 ^ 52 - 1))) * denominator :=
    calc (2 * rounded + 1) * denominator * 2 ^ place
      _ = (rounded * 2 ^ place + (rounded * 2 ^ place + 2 ^ place)) * denominator := by ring
      _ ≤ _ := by gcongr
  rcases hrounds.below with hless | ⟨hsame, heven⟩
  · have hscaled := Nat.mul_lt_mul_of_pos_right hless (Nat.two_pow_pos place)
    exact .inl (Nat.lt_of_lt_of_le hscaled hreach)
  · rw [hsame]
    rcases Nat.lt_or_eq_of_le hreach with hmid | hmid
    · exact .inl hmid
    · exact .inr ⟨hmid, even_place heven⟩

/-- A quotient that fits a double but for what is after its last place is rounded to the nearest
one. -/
theorem Rounds.nearest : Nearest (parts (numerator * 2 ^ place) denominator)
    (min (place * 2 ^ 52 + rounded) infinityBits) :=
  .of_midpoints_min (hrounds.aboveMidpoint hpos hlt hnormal)
    (hrounds.belowMidpoint hpos hlt hnormal)

end Place

end Espresso.Decimal
