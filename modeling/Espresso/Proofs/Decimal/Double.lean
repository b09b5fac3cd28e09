import Espresso.Decimal.Numeral
import Mathlib.Algebra.Group.Nat.Defs

/-!
# Non-negative doubles

A double that has no sign and is a number is given by its bits alone: they count the doubles from
zero over the subnormal and the normal ones up to infinity, and grow as the doubles do.
-/

namespace Espresso.Decimal

open Float.Model Float.Model.UnpackedFloat

def infinityBits : Nat :=
  2047 * 2 ^ 52

/-- How many doubles lie between zero and a positive one in canonical form. -/
def rank (mantissa : Nat) (exponent : Int) : Nat :=
  (exponent + 1074).toNat * 2 ^ 52 + mantissa

/-- A canonical mantissa has all its bits unless the exponent is the least there is. -/
structure Canonical (mantissa : Nat) (exponent : Int) : Prop where
  lt_two_pow : mantissa < 2 ^ 53
  le_exponent : -1074 ≤ exponent
  normal_or_subnormal : 2 ^ 52 ≤ mantissa ∨ exponent = -1074

/-- An unpacked double without a sign, and its bits. -/
inductive Ranked : UnpackedFloat → Nat → Prop
  | zero : Ranked (.zero .positive) 0
  | finite {mantissa : Nat} {exponent : Int} (hpos : 0 < mantissa) :
      Canonical mantissa exponent → rank mantissa exponent < infinityBits →
      Ranked (.finite .positive mantissa exponent hpos) (rank mantissa exponent)
  | infinity : Ranked (.infinity .positive) infinityBits

/-! ### Packing and unpacking -/

abbrev DoubleBits : Type :=
  BitVec Format.binary64.numBits

theorem toNat_unpackMantissa (b : DoubleBits) :
    (unpackMantissa b).toNat = b.toNat % 2 ^ 52 := by
  have hbits : (unpackMantissa b).toNat = (b.extractLsb 51 0).toNat := rfl
  rw [hbits, BitVec.extractLsb_toNat, Nat.shiftRight_zero]

theorem toNat_unpackExponent (b : DoubleBits) :
    (unpackExponent b).toNat = b.toNat / 2 ^ 52 % 2 ^ 11 := by
  have hbits : (unpackExponent b).toNat = (b.extractLsb 62 52).toNat := rfl
  rw [hbits, BitVec.extractLsb_toNat, Nat.shiftRight_eq_div_pow]

theorem toNat_unpackSign (b : DoubleBits) : (unpackSign b).toNat = b.toNat / 2 ^ 63 % 2 := by
  have hbits : (unpackSign b).toNat = (b.extractLsb 63 63).toNat := rfl
  rw [hbits, BitVec.extractLsb_toNat, Nat.shiftRight_eq_div_pow]

theorem toNat_packComponents_positive (exponent : BitVec 11) (mantissa : BitVec 52) :
    (packComponents Format.binary64 .positive exponent mantissa).toNat =
      exponent.toNat * 2 ^ 52 + mantissa.toNat := by
  have hmantissa := mantissa.isLt
  simp only [packComponents, Sign.toBitVec]
  rw [BitVec.toNat_append, BitVec.toNat_append, ← Nat.shiftLeft_add_eq_or_of_lt hmantissa]
  simp [Nat.shiftLeft_eq]

theorem Ranked.of_eq {unpacked : UnpackedFloat} {bits other : Nat} (h : Ranked unpacked bits)
    (heq : bits = other) : Ranked unpacked other :=
  heq ▸ h

theorem Ranked.of_finite {sign : Sign} {m mantissa bits : Nat} {e exponent : Int} {hpos : 0 < m}
    (hsign : sign = .positive) (hmantissa : m = mantissa) (hexponent : e = exponent)
    (hcanonical : Canonical mantissa exponent) (hrank : rank mantissa exponent = bits)
    (hbits : bits < infinityBits) : Ranked (.finite sign m e hpos) bits := by
  subst hsign hmantissa hexponent hrank
  exact .finite hpos hcanonical hbits

/-- The cases are those of the exponent: all ones, all zeros, or neither. -/
theorem ranked_unpack {b : DoubleBits} (h : b.toNat ≤ infinityBits) :
    Ranked (UnpackedFloat.unpack Format.binary64 b) b.toNat := by
  unfold infinityBits at h
  have hmantissa := toNat_unpackMantissa b
  have hexponent : (unpackExponent b).toNat = b.toNat / 2 ^ 52 := by
    rw [toNat_unpackExponent]
    omega
  have hsign : Sign.ofBitVec (unpackSign b) = .positive := by
    have hzero : unpackSign b = 0#1 := by
      rw [← BitVec.toNat_inj, toNat_unpackSign, BitVec.toNat_ofNat]
      omega
    rw [hzero]
    rfl
  have hones : unpackExponent b = -1#_ ↔ b.toNat / 2 ^ 52 = 2047 := by
    rw [← BitVec.toNat_inj, hexponent]
    rfl
  have hzeros : unpackExponent b = 0#_ ↔ b.toNat / 2 ^ 52 = 0 := by
    rw [← BitVec.toNat_inj, hexponent]
    rfl
  have hnone : unpackMantissa b = 0#_ ↔ b.toNat % 2 ^ 52 = 0 := by
    rw [← BitVec.toNat_inj, hmantissa]
    rfl
  have hvalue : ((unpackExponent b).toNat : Int) -
      (Format.binary64.exponentBias + Format.binary64.mantissaBitsWithoutImplicit) =
        (b.toNat / 2 ^ 52 : Nat) - 1075 := by
    rw [hexponent]
    rfl
  have happend : (1#1 ++ unpackMantissa b).toNat = 2 ^ 52 + b.toNat % 2 ^ 52 := by
    rw [BitVec.toNat_append, ← Nat.shiftLeft_add_eq_or_of_lt (unpackMantissa b).isLt, hmantissa]
    rfl
  unfold UnpackedFloat.unpack
  dsimp only
  by_cases htop : b.toNat / 2 ^ 52 = 2047
  · rw [if_pos (hones.mpr htop), if_pos (hnone.mpr (by omega)), hsign]
    refine Ranked.infinity.of_eq ?_
    unfold infinityBits
    omega
  · rw [if_neg (mt hones.mp htop)]
    by_cases hbottom : b.toNat / 2 ^ 52 = 0
    · rw [if_pos (hzeros.mpr hbottom)]
      by_cases hempty : b.toNat % 2 ^ 52 = 0
      · rw [dif_pos (hnone.mpr hempty), hsign]
        exact Ranked.zero.of_eq (by omega)
      · have hleast : ((unpackExponent b).toNat : Int) -
            (Format.binary64.exponentBias + Format.binary64.mantissaBitsWithoutImplicit) + 1 =
              -1074 := by
          rw [hvalue, hbottom]
          rfl
        rw [dif_neg (mt hnone.mp hempty)]
        refine .of_finite hsign hmantissa hleast ⟨by omega, by omega, .inr rfl⟩ ?_ ?_
        · unfold rank
          omega
        · unfold infinityBits
          omega
    · rw [if_neg (mt hzeros.mp hbottom)]
      refine .of_finite hsign happend hvalue ⟨by omega, by omega, .inl ?_⟩ ?_ ?_
      · exact Nat.le_add_right _ _
      · unfold rank
        omega
      · unfold infinityBits
        omega

section Pack

variable {mantissa : Nat} {exponent : Int} (hpos : 0 < mantissa)

theorem biased_eq (exponent : Int) :
    (exponent + Format.binary64.exponentBias + (52 : Nat)).toNat = (exponent + 1075).toNat := by
  have hbias : (Format.binary64.exponentBias : Int) = 1023 := rfl
  rw [hbias]
  omega

theorem toNat_packedInfinity :
    (packedInfinity Format.binary64 .positive).toNat = infinityBits := by
  decide

/-- A double that is too large is packed as infinity. -/
theorem toNat_pack_eq (hcanonical : Canonical mantissa exponent) :
    (UnpackedFloat.pack Format.binary64 (.finite .positive mantissa exponent hpos)).toNat =
      min (rank mantissa exponent) infinityBits := by
  obtain ⟨hlt, hle, hnormal⟩ := hcanonical
  have hlog : mantissa.log2 + 1 = 53 ↔ 2 ^ 52 ≤ mantissa := by
    have hlow := Nat.le_log2 (k := 52) (Nat.ne_of_gt hpos)
    have hhigh := Nat.log2_lt (k := 53) (Nat.ne_of_gt hpos)
    omega
  unfold UnpackedFloat.pack
  dsimp only
  rw [biased_eq]
  split
  · next hover =>
    have hbig : 2048 ≤ (exponent + 1075).toNat + 1 := hover
    rw [toNat_packedInfinity]
    unfold rank infinityBits
    omega
  · next hunder =>
    have hsmall : ¬ 2048 ≤ (exponent + 1075).toNat + 1 := hunder
    split
    · next hbits =>
      have hfull := hlog.mp hbits
      rw [toNat_packComponents_positive, BitVec.toNat_ofNat, BitVec.toNat_ofNat]
      unfold rank infinityBits
      omega
    · next hbits =>
      have hpartial := mt hlog.mpr hbits
      rw [toNat_packComponents_positive, BitVec.toNat_ofNat, BitVec.toNat_ofNat]
      unfold rank infinityBits
      omega

end Pack

/-! ### The order -/

theorem rank_le_rank_iff {m₁ m₂ : Nat} {e₁ e₂ : Int} (h₁ : Canonical m₁ e₁)
    (h₂ : Canonical m₂ e₂) :
    ((compare e₁ e₂).then (compare m₁ m₂)).isLE = true ↔ rank m₁ e₁ ≤ rank m₂ e₂ := by
  obtain ⟨hlt₁, hle₁, hnormal₁⟩ := h₁
  obtain ⟨hlt₂, hle₂, hnormal₂⟩ := h₂
  unfold rank
  rcases Int.lt_trichotomy e₁ e₂ with hlt | rfl | hgt
  · rw [Int.compare_eq_lt.mpr hlt]
    simp only [Ordering.lt_then, Ordering.isLE_lt, true_iff]
    omega
  · rw [Int.compare_eq_eq.mpr rfl, Ordering.eq_then, Nat.isLE_compare]
    omega
  · rw [Int.compare_eq_gt.mpr hgt]
    simp only [Ordering.gt_then, Ordering.isLE_gt, Bool.false_eq_true, false_iff]
    omega

theorem Ranked.le_infinityBits {unpacked : UnpackedFloat} {bits : Nat}
    (h : Ranked unpacked bits) : bits ≤ infinityBits := by
  cases h with
  | zero => exact Nat.zero_le _
  | finite _ _ hbits => exact Nat.le_of_lt hbits
  | infinity => exact Nat.le_refl _

/-- Doubles without a sign are ordered as their bits. -/
theorem Ranked.le_iff {first second : UnpackedFloat} {bits₁ bits₂ : Nat}
    (h₁ : Ranked first bits₁) (h₂ : Ranked second bits₂) :
    first.le second = true ↔ bits₁ ≤ bits₂ := by
  have htop : 0 < infinityBits := by decide
  cases h₁ with
  | zero =>
    have hle : UnpackedFloat.le (.zero .positive) second = true := by
      cases h₂ <;> rfl
    exact ⟨fun _ => Nat.zero_le _, fun _ => hle⟩
  | infinity =>
    cases h₂ with
    | zero =>
      have hle : UnpackedFloat.le (.infinity .positive) (.zero .positive) = false := rfl
      rw [hle, Bool.false_eq_true, false_iff]
      omega
    | @finite mantissa exponent hpos _ hbits =>
      have hle : UnpackedFloat.le (.infinity .positive)
          (.finite .positive mantissa exponent hpos) = false := rfl
      rw [hle, Bool.false_eq_true, false_iff]
      omega
    | infinity => exact ⟨fun _ => Nat.le_refl _, fun _ => rfl⟩
  | @finite mantissa exponent hpos hcanonical hbits =>
    cases h₂ with
    | zero =>
      have hle : UnpackedFloat.le (.finite .positive mantissa exponent hpos) (.zero .positive) =
          false := rfl
      rw [hle, Bool.false_eq_true, false_iff]
      unfold rank
      omega
    | @finite other power hother hcanonicalOther _ =>
      have hle : UnpackedFloat.le (.finite .positive mantissa exponent hpos)
          (.finite .positive other power hother) =
            ((compare exponent power).then (compare mantissa other)).isLE := rfl
      rw [hle]
      exact rank_le_rank_iff hcanonical hcanonicalOther
    | infinity => exact ⟨fun _ => Nat.le_of_lt hbits, fun _ => rfl⟩

end Espresso.Decimal
