import Espresso.Proofs.Decimal.Rounding

/-!
# Adding up doubles

Numerals have no sign, so their values and the sums of these are never negative and never undefined.
Among such doubles `≤` is an order. A sum is rounded to the nearest double, and a double that is not
above the sum is not above that one, so adding one to another does not make it smaller.
-/

namespace Espresso.Decimal

open Float.Model Float.Model.UnpackedFloat

theorem Ranked.toNat_pack {unpacked : UnpackedFloat} {bits : Nat} (h : Ranked unpacked bits) :
    (UnpackedFloat.pack Format.binary64 unpacked).toNat = bits := by
  cases h with
  | zero => decide
  | finite hpos hcanonical hbits =>
    rw [toNat_pack_eq hpos hcanonical]
    omega
  | infinity => exact toNat_packedInfinity

theorem Ranked.isNaN_eq_false {unpacked : UnpackedFloat} {bits : Nat} (h : Ranked unpacked bits) :
    unpacked.isNaN = false := by
  cases h <;> rfl

/-- Two finite doubles are added in units of the smaller of their exponents. -/
theorem add_finite_eq {m₁ m₂ : Nat} {e₁ e₂ : Int} (hpos₁ : 0 < m₁) (hpos₂ : 0 < m₂) :
    UnpackedFloat.add Format.binary64 (.finite .positive m₁ e₁ hpos₁)
        (.finite .positive m₂ e₂ hpos₂) =
      UnpackedFloat.round Format.binary64 .positive
        (m₁ * 2 ^ (e₁ - min e₁ e₂).toNat + m₂ * 2 ^ (e₂ - min e₁ e₂).toNat) (min e₁ e₂) := by
  have htotal : 0 < m₁ * 2 ^ (e₁ - min e₁ e₂).toNat :=
    Nat.mul_pos hpos₁ (Nat.two_pow_pos _)
  have hadd : UnpackedFloat.add Format.binary64 (.finite .positive m₁ e₁ hpos₁)
      (.finite .positive m₂ e₂ hpos₂) =
        UnpackedFloat.normalize Format.binary64
          (((decreaseExponent m₁ e₁ (min e₁ e₂)).1 : Int) +
            (decreaseExponent m₂ e₂ (min e₁ e₂)).1) (min e₁ e₂) .positive := rfl
  rw [hadd, decreaseExponent_eq, decreaseExponent_eq, ← Int.natCast_add]
  unfold UnpackedFloat.normalize
  rw [Int.compare_eq_gt.mpr (by omega), Int.toNat_natCast]

/-- The sum of two doubles is the double nearest to the sum of the numbers that they stand for. -/
theorem Ranked.nearest_add {first second : UnpackedFloat} {bits₁ bits₂ : Nat}
    (h₁ : Ranked first bits₁) (h₂ : Ranked second bits₂) :
    Nearest (worth bits₁ + worth bits₂) (UnpackedFloat.pack Format.binary64
      (UnpackedFloat.add Format.binary64 first second)).toNat := by
  cases h₁ with
  | zero =>
    have hsame : (UnpackedFloat.add Format.binary64 (.zero .positive) second) = second := by
      cases h₂ <;> rfl
    rw [hsame, h₂.toNat_pack, worth_zero, zero_add]
    exact nearest_worth h₂.le_infinityBits
  | infinity =>
    have hsame : (UnpackedFloat.add Format.binary64 (.infinity .positive) second) =
        .infinity .positive := by
      cases h₂ <;> rfl
    rw [hsame, Ranked.infinity.toNat_pack]
    exact nearest_infinityBits (le_add_of_nonneg_right (worth_nonneg _))
  | @finite mantissa exponent hpos hcanonical hbits =>
    cases h₂ with
    | zero =>
      have hsame : (UnpackedFloat.add Format.binary64
          (.finite .positive mantissa exponent hpos) (.zero .positive)) =
          .finite .positive mantissa exponent hpos := rfl
      rw [hsame, (Ranked.finite hpos hcanonical hbits).toNat_pack, worth_zero, add_zero]
      exact nearest_worth hbits.le
    | infinity =>
      have hsame : (UnpackedFloat.add Format.binary64
          (.finite .positive mantissa exponent hpos) (.infinity .positive)) =
          .infinity .positive := rfl
      rw [hsame, Ranked.infinity.toNat_pack]
      exact nearest_infinityBits (le_add_of_nonneg_left (worth_nonneg _))
    | @finite added other hadded hcanonicalAdded _ =>
      have hleast : -1074 ≤ min exponent other :=
        le_min hcanonical.le_exponent hcanonicalAdded.le_exponent
      have htotal : 0 < mantissa * 2 ^ (exponent - min exponent other).toNat +
          added * 2 ^ (other - min exponent other).toNat :=
        Nat.add_pos_left (Nat.mul_pos hpos (Nat.two_pow_pos _)) _
      have hfirst : min exponent other + (exponent - min exponent other).toNat = exponent := by
        omega
      have hsecond : min exponent other + (other - min exponent other).toNat = other := by omega
      rw [add_finite_eq hpos hadded, worth_rank hcanonical, worth_rank hcanonicalAdded,
        ← cast_mul_two_pow mantissa hfirst, ← cast_mul_two_pow added hsecond, ← add_mul,
        ← Nat.cast_add]
      exact nearest_round htotal hleast

/-! ### Doubles without a sign -/

/-- A double that has no sign and is a number. -/
def IsMagnitude (x : Float) : Prop :=
  x.toModel.toBits.toNat ≤ infinityBits

namespace IsMagnitude

variable {x y z : Float}

theorem ranked (h : IsMagnitude x) : Ranked x.toModel.unpack x.toModel.toBits.toNat :=
  ranked_unpack h

theorem le_iff (hx : IsMagnitude x) (hy : IsMagnitude y) :
    x ≤ y ↔ x.toModel.toBits.toNat ≤ y.toModel.toBits.toNat := by
  rw [← hx.ranked.le_iff hy.ranked]
  exact decide_eq_true_iff

theorem le_refl (hx : IsMagnitude x) : x ≤ x :=
  (hx.le_iff hx).mpr (Nat.le_refl _)

theorem le_trans (hx : IsMagnitude x) (hy : IsMagnitude y) (hz : IsMagnitude z) (hxy : x ≤ y)
    (hyz : y ≤ z) : x ≤ z :=
  (hx.le_iff hz).mpr (Nat.le_trans ((hx.le_iff hy).mp hxy) ((hy.le_iff hz).mp hyz))

theorem toNat_toBits_add (x y : Float) :
    (x + y).toModel.toBits.toNat =
      (UnpackedFloat.pack Format.binary64
        (UnpackedFloat.add Format.binary64 x.toModel.unpack y.toModel.unpack)).toNat :=
  rfl

theorem add (hx : IsMagnitude x) (hy : IsMagnitude y) : IsMagnitude (x + y) := by
  unfold IsMagnitude
  rw [toNat_toBits_add]
  exact (hx.ranked.nearest_add hy.ranked).le_infinityBits

theorem le_add (hx : IsMagnitude x) (hy : IsMagnitude y) : x ≤ x + y := by
  rw [hx.le_iff (hx.add hy), toNat_toBits_add]
  exact (hx.ranked.nearest_add hy.ranked).le_of_worth_le hx
    (le_add_of_nonneg_right (worth_nonneg _))

theorem zero : IsMagnitude 0.0 := by
  unfold IsMagnitude
  decide +kernel

theorem zero_le (h : IsMagnitude x) : 0.0 ≤ x := by
  have hbits : (0.0 : Float).toModel.toBits.toNat = 0 := by decide +kernel
  rw [zero.le_iff h, hbits]
  exact Nat.zero_le _

theorem isNaN_eq_false (h : IsMagnitude x) : x.isNaN = false :=
  h.ranked.isNaN_eq_false

end IsMagnitude

end Espresso.Decimal
