import Espresso.Proofs.Decimal.Quotient

/-!
# Rounding a mantissa

A mantissa that is too long is cut where the double has its last place, and rounded there. Where
that makes it too long again the last bit moves into the exponent. So rounding gives the nearest
double, and infinity when that is too large.
-/

namespace Espresso.Decimal

open Float.Model Float.Model.UnpackedFloat

/-! ### Mantissas -/

/-- The exponent of the double next to `mantissa * 2 ^ exponent`. -/
def goal (mantissa : ℕ) (exponent : ℤ) : ℤ :=
  max (mantissa.log2 + 1 + exponent - 53) (-1074)

section Mantissa

variable {mantissa : ℕ} {exponent : ℤ}

theorem le_goal : -1074 ≤ goal mantissa exponent :=
  Int.le_max_right _ _

/-- The bits of a mantissa that are left when it is cut to its goal. -/
def kept (mantissa : ℕ) (exponent : ℤ) : ℕ :=
  mantissa / 2 ^ (goal mantissa exponent - exponent).toNat

theorem kept_lt : kept mantissa exponent < 2 ^ 53 := by
  unfold kept
  rw [Nat.div_lt_iff_lt_mul (Nat.two_pow_pos _), ← Nat.pow_add]
  refine Nat.lt_of_lt_of_le Nat.lt_log2_self (Nat.pow_le_pow_right (by decide) ?_)
  unfold goal
  omega

theorem two_pow_le_kept (hpos : 0 < mantissa) (hle : exponent ≤ goal mantissa exponent)
    (hgoal : -1074 < goal mantissa exponent) : 2 ^ 52 ≤ kept mantissa exponent := by
  unfold kept
  rw [Nat.le_div_iff_mul_le (Nat.two_pow_pos _), ← Nat.pow_add]
  refine Nat.le_trans (Nat.pow_le_pow_right (by decide) ?_)
    (Nat.log2_self_le (Nat.ne_of_gt hpos))
  unfold goal at *
  omega

/-- A mantissa can be cut to its goal, and unless it is zero it then has all its bits or the least
exponent. -/
structure Reaches (mantissa : ℕ) (exponent : ℤ) : Prop where
  le_exponent : -1074 ≤ exponent
  le_goal : exponent ≤ goal mantissa exponent
  pos_or_least : 0 < mantissa ∨ exponent = -1074

theorem Reaches.normal_or_subnormal (h : Reaches mantissa exponent) :
    2 ^ 52 ≤ kept mantissa exponent ∨ goal mantissa exponent = -1074 := by
  have hleast : -1074 ≤ goal mantissa exponent := Decimal.le_goal
  by_cases hgoal : goal mantissa exponent = -1074
  · exact .inr hgoal
  · rcases h.pos_or_least with hpos | hexponent
    · exact .inl (two_pow_le_kept hpos h.le_goal (by omega))
    · by_cases hzero : mantissa = 0
      · exact absurd (by rw [hzero, hexponent]; decide) hgoal
      · exact .inl (two_pow_le_kept (Nat.pos_of_ne_zero hzero) h.le_goal (by omega))

theorem shiftToTargetExponent_eq (mantissa : ℕ) (exponent : ℤ) (accuracy : Accuracy) :
    shiftToTargetExponent Format.binary64 mantissa exponent accuracy =
      (ExtendedMantissa.ofMantissaAndAccuracy mantissa accuracy >>>
        (goal mantissa exponent - exponent).toNat,
        exponent + (goal mantissa exponent - exponent).toNat) :=
  rfl

/-- A mantissa that is not too long, at an exponent that is not too small, stays as it is. -/
theorem shiftToTargetExponent_of_lt (hlt : mantissa < 2 ^ 53) (hle : -1074 ≤ exponent) :
    (shiftToTargetExponent Format.binary64 mantissa exponent .exact).2 = exponent ∧
      (shiftToTargetExponent Format.binary64 mantissa exponent .exact).1.mantissa = mantissa := by
  have hgoal : (goal mantissa exponent - exponent).toNat = 0 := by
    have hlog : mantissa.log2 < 53 := by
      by_cases hzero : mantissa = 0
      · rw [hzero]
        decide
      · exact (Nat.log2_lt hzero).mpr hlt
    unfold goal
    omega
  rw [shiftToTargetExponent_eq, hgoal]
  exact ⟨Int.add_zero exponent, rfl⟩

/-- Rounding up to one bit too many moves that bit into the exponent. -/
theorem shiftToTargetExponent_two_pow (hle : -1074 ≤ exponent) :
    (shiftToTargetExponent Format.binary64 (2 ^ 53) exponent .exact).2 = exponent + 1 ∧
      (shiftToTargetExponent Format.binary64 (2 ^ 53) exponent .exact).1.mantissa = 2 ^ 52 := by
  have hgoal : (goal (2 ^ 53) exponent - exponent).toNat = 1 := by
    unfold goal
    rw [Nat.log2_two_pow]
    omega
  rw [shiftToTargetExponent_eq, hgoal]
  exact ⟨rfl, rfl⟩

theorem rank_two_pow (hle : -1074 ≤ exponent) :
    rank (2 ^ 52) (exponent + 1) = rank (2 ^ 53) exponent := by
  unfold rank
  omega

/-- A mantissa is cut, rounded, and cut once more. -/
theorem roundWithAccuracy_eq_finite {sign : Sign} {accuracy : Accuracy} {first : ExtendedMantissa}
    {cut : ℤ} (hfirst : shiftToTargetExponent Format.binary64 mantissa exponent accuracy =
      (first, cut)) {rounded : ℕ} {final : ℤ} (hpos : 0 < rounded)
    (hexponent : (shiftToTargetExponent Format.binary64 first.roundedMantissa cut .exact).2 = final)
    (hmantissa : (shiftToTargetExponent Format.binary64 first.roundedMantissa cut
      .exact).1.mantissa = rounded) :
    roundWithAccuracy Format.binary64 sign mantissa exponent accuracy =
      .finite sign rounded final hpos := by
  subst hexponent hmantissa
  unfold roundWithAccuracy
  rw [hfirst]
  dsimp only
  rw [dif_neg (Nat.ne_of_gt hpos)]

theorem roundWithAccuracy_eq_zero {sign : Sign} {accuracy : Accuracy} {first : ExtendedMantissa}
    {cut : ℤ} (hfirst : shiftToTargetExponent Format.binary64 mantissa exponent accuracy =
      (first, cut))
    (hmantissa : (shiftToTargetExponent Format.binary64 first.roundedMantissa cut
      .exact).1.mantissa = 0) :
    roundWithAccuracy Format.binary64 sign mantissa exponent accuracy = .zero sign := by
  unfold roundWithAccuracy
  rw [hfirst]
  dsimp only
  rw [dif_pos hmantissa]

/-- The cases are whether rounding left nothing, or made the mantissa too long. -/
theorem toNat_pack_roundWithAccuracy {accuracy : Accuracy} {first : ExtendedMantissa} {cut : ℤ}
    (hfirst : shiftToTargetExponent Format.binary64 mantissa exponent accuracy = (first, cut))
    (hcut : -1074 ≤ cut) (hle : first.roundedMantissa ≤ 2 ^ 53)
    (hnormal : 2 ^ 52 ≤ first.roundedMantissa ∨ cut = -1074) :
    (UnpackedFloat.pack Format.binary64
      (roundWithAccuracy Format.binary64 .positive mantissa exponent accuracy)).toNat =
        min (rank first.roundedMantissa cut) infinityBits := by
  by_cases hfits : first.roundedMantissa < 2 ^ 53
  · obtain ⟨hsame, hkeeps⟩ := shiftToTargetExponent_of_lt hfits hcut
    by_cases hzero : first.roundedMantissa = 0
    · obtain rfl : cut = -1074 := by omega
      rw [roundWithAccuracy_eq_zero hfirst (by rw [hkeeps, hzero]), hzero]
      rfl
    · rw [roundWithAccuracy_eq_finite hfirst (Nat.pos_of_ne_zero hzero) hsame hkeeps]
      exact toNat_pack_eq _ ⟨hfits, hcut, hnormal⟩
  · have hcarry : first.roundedMantissa = 2 ^ 53 := by omega
    obtain ⟨hcarried, hhalved⟩ := shiftToTargetExponent_two_pow hcut
    rw [← hcarry] at hcarried hhalved
    rw [roundWithAccuracy_eq_finite hfirst (by decide) hcarried hhalved, hcarry,
      ← rank_two_pow hcut]
    exact toNat_pack_eq _ ⟨by decide, by omega, .inl (Nat.le_refl _)⟩

end Mantissa

section Quotient

variable {numerator denominator amount : ℕ} {exponent : ℤ} (hpos : 0 < denominator)
  (hreaches : Reaches (numerator / denominator) exponent)
  (hcut : exponent + amount = goal (numerator / denominator) exponent)
include hpos hreaches hcut

omit hpos hreaches in
theorem div_eq_kept :
    numerator / (denominator * 2 ^ amount) = kept (numerator / denominator) exponent := by
  have hamount : (goal (numerator / denominator) exponent - exponent).toNat = amount := by omega
  rw [kept, hamount, Nat.div_div_eq_div_mul]

/-- Cutting a quotient with a remainder is dividing by more. -/
theorem toNat_pack_quotient :
    (UnpackedFloat.pack Format.binary64 (roundWithAccuracy Format.binary64 .positive
      (numerator / denominator) exponent
      (accuracyOfFraction (numerator % denominator) denominator))).toNat =
        min (rank (roundedQuotient numerator (denominator * 2 ^ amount))
          (goal (numerator / denominator) exponent)) infinityBits := by
  have htells := (tells_ofMantissaAndAccuracy numerator denominator).shiftRight hpos amount
  have hfirst := shiftToTargetExponent_eq (numerator / denominator) exponent
    (accuracyOfFraction (numerator % denominator) denominator)
  have hamount : (goal (numerator / denominator) exponent - exponent).toNat = amount := by omega
  rw [hamount, hcut] at hfirst
  have hrounds : Rounds numerator (denominator * 2 ^ amount) _ :=
    rounds_roundedQuotient (Nat.mul_pos hpos (Nat.two_pow_pos _))
  obtain ⟨hlow, hhigh, _, _⟩ := hrounds
  rw [← htells.roundedMantissa_eq, div_eq_kept hcut] at hlow hhigh
  have hlt : kept (numerator / denominator) exponent < 2 ^ 53 := kept_lt
  have hnormal := hreaches.normal_or_subnormal
  rw [toNat_pack_roundWithAccuracy hfirst le_goal (by omega) (by omega), htells.roundedMantissa_eq]

end Quotient

/-- What is left of a quotient at some exponent is rounded to the double nearest to it all. -/
theorem nearest_roundWithAccuracy {numerator denominator : ℕ} {exponent : ℤ}
    (hpos : 0 < denominator) (hreaches : Reaches (numerator / denominator) exponent) :
    Nearest (numerator / denominator * 2 ^ exponent)
      (UnpackedFloat.pack Format.binary64 (roundWithAccuracy Format.binary64 .positive
        (numerator / denominator) exponent
        (accuracyOfFraction (numerator % denominator) denominator))).toNat := by
  have hleast := hreaches.le_exponent
  obtain ⟨amount, hcut⟩ : ∃ amount : ℕ,
      exponent + amount = goal (numerator / denominator) exponent :=
    Int.le.dest hreaches.le_goal
  have hplace : ((goal (numerator / denominator) exponent + 1074).toNat : ℤ) =
      exponent + amount + 1074 := by omega
  have hdenominator : 0 < denominator * 2 ^ amount := Nat.mul_pos hpos (Nat.two_pow_pos _)
  have hkept := div_eq_kept hcut
  have hnormal := hreaches.normal_or_subnormal
  rw [toNat_pack_quotient hpos hreaches hcut, ← parts_eq hpos hplace]
  exact (rounds_roundedQuotient hdenominator).nearest hdenominator (hkept ▸ kept_lt) (by omega)

theorem Reaches.nearest {mantissa : ℕ} {exponent : ℤ} (h : Reaches mantissa exponent) :
    Nearest (mantissa * 2 ^ exponent) (UnpackedFloat.pack Format.binary64
      (roundWithAccuracy Format.binary64 .positive mantissa exponent .exact)).toNat := by
  have hwhole : Reaches (mantissa / 1) exponent := by rwa [Nat.div_one]
  have hnearest := nearest_roundWithAccuracy Nat.one_pos hwhole
  rwa [Nat.div_one, Nat.mod_one, Nat.cast_one, div_one] at hnearest

theorem worth_eq_parts (bits : ℕ) : worth bits = parts (units bits) (1 * 2 ^ 0) := by
  unfold worth parts
  rw [Nat.pow_zero, Nat.mul_one, Nat.cast_one, one_mul]

theorem worth_rank {mantissa : ℕ} {exponent : ℤ} (h : Canonical mantissa exponent) :
    worth (rank mantissa exponent) = mantissa * 2 ^ exponent := by
  obtain ⟨hlt, hle, hnormal⟩ := h
  have hunits : units (rank mantissa exponent) = mantissa * 2 ^ (exponent + 1074).toNat :=
    units_eq (Nat.le_of_lt hlt) (by omega)
  have hplace : ((exponent + 1074).toNat : ℤ) = exponent + (0 : ℕ) + 1074 := by omega
  rw [worth_eq_parts, hunits, parts_eq Nat.one_pos hplace, Nat.cast_one, div_one]

/-! ### Longer mantissas -/

theorem log2_mul_two_pow {mantissa : ℕ} (hpos : 0 < mantissa) (amount : ℕ) :
    (mantissa * 2 ^ amount).log2 = mantissa.log2 + amount := by
  have hne := Nat.ne_of_gt hpos
  rw [Nat.log2_eq_iff (Nat.ne_of_gt (Nat.mul_pos hpos (Nat.two_pow_pos amount)))]
  constructor
  · rw [Nat.pow_add]
    exact Nat.mul_le_mul_right _ (Nat.log2_self_le hne)
  · rw [Nat.add_right_comm, Nat.pow_add]
    exact Nat.mul_lt_mul_of_pos_right Nat.lt_log2_self (Nat.two_pow_pos amount)

theorem goal_shift {mantissa : ℕ} (hpos : 0 < mantissa) (exponent : ℤ) (amount : ℕ) :
    goal (mantissa * 2 ^ amount) (exponent - amount) = goal mantissa exponent := by
  unfold goal
  rw [log2_mul_two_pow hpos]
  omega

/-- What is rounded, with an exponent that the double can have. -/
theorem decreaseExponent_eq (mantissa : ℕ) (exponent target : ℤ) :
    decreaseExponent mantissa exponent target =
      (mantissa * 2 ^ (exponent - target).toNat, exponent - (exponent - target).toNat) := by
  unfold decreaseExponent
  simp only [Nat.shiftLeft_eq]

theorem cast_mul_two_pow (mantissa : ℕ) {amount : ℕ} {exponent target : ℤ}
    (h : target + amount = exponent) :
    (mantissa * 2 ^ amount : ℕ) * (2 : ℚ) ^ target = mantissa * 2 ^ exponent := by
  rw [← h, zpow_add₀ two_ne_zero, zpow_natCast]
  push_cast
  ring

/-- A mantissa is lengthened until its exponent is one that the double can have. -/
theorem nearest_round {mantissa : ℕ} {exponent : ℤ} (hpos : 0 < mantissa)
    (hle : -1074 ≤ exponent) :
    Nearest (mantissa * 2 ^ exponent) (UnpackedFloat.pack Format.binary64
      (UnpackedFloat.round Format.binary64 .positive mantissa exponent)).toNat := by
  obtain ⟨amount, hamount⟩ : ∃ amount : ℕ, amount = (exponent - goal mantissa exponent).toNat :=
    ⟨_, rfl⟩
  have hgoal := goal_shift hpos exponent amount
  have hleast : -1074 ≤ goal mantissa exponent := le_goal
  have hreaches : Reaches (mantissa * 2 ^ amount) (exponent - amount) :=
    ⟨by omega, by omega, .inl (Nat.mul_pos hpos (Nat.two_pow_pos _))⟩
  have hround : UnpackedFloat.round Format.binary64 .positive mantissa exponent =
      roundWithAccuracy Format.binary64 .positive
        (decreaseExponent mantissa exponent (goal mantissa exponent)).1
        (decreaseExponent mantissa exponent (goal mantissa exponent)).2 .exact := rfl
  rw [hround, decreaseExponent_eq, ← hamount,
    ← cast_mul_two_pow mantissa (Int.sub_add_cancel exponent amount)]
  exact hreaches.nearest

end Espresso.Decimal
