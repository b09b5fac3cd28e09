import Espresso.Proofs.Decimal.Double
import Mathlib.Algebra.Order.Field.Rat
import Mathlib.Algebra.Order.AbsoluteValue.Basic
import Mathlib.Order.Monotone.Basic
import Mathlib.Tactic.Linarith

/-!
# The nearest double

Which number the bits of a double without a sign stand for, and which double is nearest to a number.
All of these doubles are multiples of the least positive one. Infinity takes the place of the power
of two that would come after the greatest, and of two doubles that are as near the even one counts.
-/

namespace Espresso.Decimal

/-- How many of the least positive double make one. -/
def unitsOfOne : ℕ :=
  2 ^ 1074

/-- How many of the least positive double make the one with these bits. -/
def units (bits : ℕ) : ℕ :=
  if bits < 2 ^ 52 then bits else (2 ^ 52 + bits % 2 ^ 52) * 2 ^ (bits / 2 ^ 52 - 1)

/-- The number that a double without a sign stands for. -/
def worth (bits : ℕ) : ℚ :=
  units bits / unitsOfOne

/-- No double without a sign is nearer to the number, and none is as near unless the one with these
bits is even. -/
structure Nearest (number : ℚ) (bits : ℕ) : Prop where
  le_infinityBits : bits ≤ infinityBits
  abs_sub_le : ∀ other ≤ infinityBits, |number - worth bits| ≤ |number - worth other|
  even : ∀ other ≤ infinityBits, other ≠ bits →
    |number - worth bits| = |number - worth other| → Even bits

/-! ### Units -/

/-- The doubles from a power of two up to the next are all as far apart. -/
theorem units_succ (bits : ℕ) : units (bits + 1) = units bits + 2 ^ (bits / 2 ^ 52 - 1) := by
  unfold units
  by_cases hsubnormal : bits + 1 < 2 ^ 52
  · have hzero : bits / 2 ^ 52 - 1 = 0 := by omega
    rw [if_pos hsubnormal, if_pos (by omega), hzero, Nat.pow_zero]
  · rw [if_neg hsubnormal]
    by_cases hleast : bits < 2 ^ 52
    · obtain rfl : bits = 2 ^ 52 - 1 := by omega
      rfl
    · rw [if_neg hleast]
      by_cases hlast : bits % 2 ^ 52 = 2 ^ 52 - 1
      · have hmantissa : (bits + 1) % 2 ^ 52 = 0 := by omega
        have hexponent : (bits + 1) / 2 ^ 52 - 1 = bits / 2 ^ 52 - 1 + 1 := by omega
        rw [hmantissa, hexponent, hlast, Nat.pow_succ]
        omega
      · have hmantissa : (bits + 1) % 2 ^ 52 = bits % 2 ^ 52 + 1 := by omega
        have hexponent : (bits + 1) / 2 ^ 52 = bits / 2 ^ 52 := by omega
        rw [hmantissa, hexponent, ← Nat.add_assoc, Nat.add_one_mul]

theorem strictMono_units : StrictMono units :=
  strictMono_nat_of_lt_succ fun bits => by
    rw [units_succ]
    exact Nat.lt_add_of_pos_right (Nat.two_pow_pos _)

/-- A mantissa counts units of its place, also when it has just become too long. -/
theorem units_eq {mantissa place : ℕ} (hle : mantissa ≤ 2 ^ 53)
    (hnormal : 2 ^ 52 ≤ mantissa ∨ place = 0) :
    units (place * 2 ^ 52 + mantissa) = mantissa * 2 ^ place := by
  unfold units
  by_cases hlt : mantissa < 2 ^ 52
  · obtain rfl : place = 0 := by omega
    rw [if_pos (by omega), Nat.zero_mul, Nat.zero_add, Nat.pow_zero, Nat.mul_one]
  · rw [if_neg (by omega)]
    by_cases hcarry : mantissa = 2 ^ 53
    · have hmantissa : (place * 2 ^ 52 + mantissa) % 2 ^ 52 = 0 := by omega
      have hexponent : (place * 2 ^ 52 + mantissa) / 2 ^ 52 - 1 = place + 1 := by omega
      rw [hmantissa, hexponent, hcarry, Nat.pow_succ]
      omega
    · have hmantissa : 2 ^ 52 + (place * 2 ^ 52 + mantissa) % 2 ^ 52 = mantissa := by omega
      have hexponent : (place * 2 ^ 52 + mantissa) / 2 ^ 52 - 1 = place := by omega
      rw [hmantissa, hexponent]

theorem unitsOfOne_pos : (0 : ℚ) < unitsOfOne := by
  unfold unitsOfOne
  rw [Nat.cast_pos]
  apply Nat.two_pow_pos

theorem strictMono_worth : StrictMono worth := fun bits other h => by
  unfold worth
  rw [div_lt_div_iff_of_pos_right unitsOfOne_pos, Nat.cast_lt]
  exact strictMono_units h

theorem worth_nonneg (bits : ℕ) : 0 ≤ worth bits :=
  div_nonneg (Nat.cast_nonneg _) unitsOfOne_pos.le

theorem worth_zero : worth 0 = 0 := by
  have hunits : units 0 = 0 := rfl
  rw [worth, hunits, Nat.cast_zero, zero_div]

/-! ### Midpoints -/

section Midpoints

variable {number : ℚ} {bits other : ℕ}

/-- The number is not on the wrong side of the midpoint between a double and the next one below. -/
def AboveMidpoint (number : ℚ) (bits : ℕ) : Prop :=
  ∀ below, below + 1 = bits → worth below + worth bits < 2 * number ∨
    worth below + worth bits = 2 * number ∧ Even bits

/-- Nor of that between a double and the next one above. -/
def BelowMidpoint (number : ℚ) (bits : ℕ) : Prop :=
  2 * number < worth bits + worth (bits + 1) ∨
    2 * number = worth bits + worth (bits + 1) ∧ Even bits

theorem AboveMidpoint.of_lt (h : AboveMidpoint number bits) (hlt : other < bits) :
    worth other + worth bits < 2 * number ∨
      worth other + worth bits = 2 * number ∧ Even bits := by
  obtain ⟨below, rfl⟩ : ∃ below, bits = below + 1 := ⟨bits - 1, by omega⟩
  have hle : worth other ≤ worth below := strictMono_worth.monotone (by omega)
  rcases h below rfl with hmid | ⟨hmid, heven⟩
  · exact .inl (by linarith)
  · rcases hle.lt_or_eq with hless | hsame
    · exact .inl (by linarith)
    · exact .inr ⟨by linarith, heven⟩

theorem BelowMidpoint.of_lt (h : BelowMidpoint number bits) (hlt : bits < other) :
    2 * number < worth bits + worth other ∨
      2 * number = worth bits + worth other ∧ Even bits := by
  have hle : worth (bits + 1) ≤ worth other := strictMono_worth.monotone hlt
  rcases h with hmid | ⟨hmid, heven⟩
  · exact .inl (by linarith)
  · rcases hle.lt_or_eq with hless | hsame
    · exact .inl (by linarith)
    · exact .inr ⟨by linarith, heven⟩

/-- Which of two points is nearer, seen from their midpoint. -/
theorem abs_sub_right_lt {x y number : ℚ} (hlt : x < y) (hmid : x + y < 2 * number) :
    |number - y| < |number - x| :=
  calc |number - y|
    _ < number - x := abs_lt.mpr ⟨by linarith, by linarith⟩
    _ ≤ |number - x| := le_abs_self _

theorem abs_sub_left_lt {x y number : ℚ} (hlt : x < y) (hmid : 2 * number < x + y) :
    |number - x| < |number - y| :=
  calc |number - x|
    _ < y - number := abs_lt.mpr ⟨by linarith, by linarith⟩
    _ ≤ |number - y| := by
      rw [abs_sub_comm]
      exact le_abs_self _

theorem abs_sub_eq_of_add_eq {x y number : ℚ} (hmid : x + y = 2 * number) :
    |number - x| = |number - y| := by
  have hsame : number - x = -(number - y) := by linarith
  rw [hsame, abs_neg]

/-- A double between whose midpoints the number lies is the nearest. -/
theorem Nearest.of_midpoints (hle : bits ≤ infinityBits) (habove : AboveMidpoint number bits)
    (hbelow : bits < infinityBits → BelowMidpoint number bits) : Nearest number bits := by
  have hnearer : ∀ other ≤ infinityBits, other ≠ bits →
      |number - worth bits| < |number - worth other| ∨
        |number - worth bits| = |number - worth other| ∧ Even bits := by
    intro other hother hne
    rcases Nat.lt_or_gt_of_ne hne with hlt | hgt
    · have hless := strictMono_worth hlt
      rcases habove.of_lt hlt with hmid | ⟨hmid, heven⟩
      · exact .inl (abs_sub_right_lt hless hmid)
      · exact .inr ⟨(abs_sub_eq_of_add_eq hmid).symm, heven⟩
    · have hless := strictMono_worth hgt
      rcases (hbelow (by omega)).of_lt hgt with hmid | ⟨hmid, heven⟩
      · exact .inl (abs_sub_left_lt hless hmid)
      · exact .inr ⟨abs_sub_eq_of_add_eq hmid.symm, heven⟩
  refine ⟨hle, fun other hother => ?_, fun other hother hne hsame => ?_⟩
  · by_cases hne : other = bits
    · rw [hne]
    · rcases hnearer other hother hne with hlt | ⟨heq, _⟩
      · exact hlt.le
      · exact heq.le
  · rcases hnearer other hother hne with hlt | ⟨_, heven⟩
    · exact absurd hsame hlt.ne
    · exact heven

/-- What is nearest among the doubles that go on for ever is nearest among those up to infinity,
unless it lies beyond. -/
theorem Nearest.of_midpoints_min (habove : AboveMidpoint number bits)
    (hbelow : BelowMidpoint number bits) : Nearest number (min bits infinityBits) := by
  by_cases hle : bits ≤ infinityBits
  · rw [Nat.min_eq_left hle]
    exact .of_midpoints hle habove fun _ => hbelow
  · rw [Nat.min_eq_right (by omega)]
    refine .of_midpoints (Nat.le_refl _) (fun below hnext => .inl ?_) fun h => absurd h (by omega)
    obtain ⟨last, rfl⟩ : ∃ last, bits = last + 1 := ⟨bits - 1, by omega⟩
    have hbefore : worth below < worth infinityBits := strictMono_worth (by omega)
    have hreach : worth infinityBits ≤ worth last :=
      strictMono_worth.monotone (by omega)
    have hlast : worth last < worth (last + 1) := strictMono_worth (by omega)
    rcases habove last rfl with hmid | ⟨hmid, _⟩ <;> linarith

end Midpoints

namespace Nearest

variable {number : ℚ} {bits other : ℕ}

/-- Two doubles that are nearest would both be even, and another one would lie between them. -/
theorem not_lt (hbits : Nearest number bits) (hother : Nearest number other) : ¬ bits < other := by
  intro hlt
  have hbound := hother.le_infinityBits
  have hsame : |number - worth bits| = |number - worth other| :=
    le_antisymm (hbits.abs_sub_le _ hbound) (hother.abs_sub_le _ hbits.le_infinityBits)
  have hevenBits : Even bits := hbits.even _ hbound (by omega) hsame
  have hevenOther : Even other :=
    hother.even _ hbits.le_infinityBits (by omega) hsame.symm
  have hbetween : bits + 1 < other := by
    rw [Nat.even_iff] at hevenBits hevenOther
    omega
  have hleft : worth bits < worth (bits + 1) := strictMono_worth (by omega)
  have hright : worth (bits + 1) < worth other := strictMono_worth hbetween
  have hcloser := hbits.abs_sub_le (bits + 1) (by omega)
  have hnearer := hother.abs_sub_le (bits + 1) (by omega)
  rcases lt_or_ge (2 * number) (worth (bits + 1) + worth other) with hmid | hmid
  · have := abs_sub_left_lt hright hmid
    linarith
  · have := abs_sub_right_lt hleft (by linarith : _ < 2 * number)
    linarith

theorem unique (hbits : Nearest number bits) (hother : Nearest number other) : bits = other := by
  have hnot := hbits.not_lt hother
  have hnot' := hother.not_lt hbits
  omega

/-- A double that is not above the number is not above the nearest one. -/
theorem le_of_worth_le (h : Nearest number bits) (hother : other ≤ infinityBits)
    (hle : worth other ≤ number) : other ≤ bits := by
  refine Nat.le_of_not_lt fun hlt => ?_
  have hless := strictMono_worth hlt
  have hfar := abs_sub_right_lt hless (by linarith : _ < 2 * number)
  have hnear := h.abs_sub_le other hother
  linarith

end Nearest

/-- A double is nearest to the number that it stands for. -/
theorem nearest_worth {bits : ℕ} (h : bits ≤ infinityBits) : Nearest (worth bits) bits := by
  refine .of_midpoints h (fun below hnext => .inl ?_) fun _ => .inl ?_
  · have hless : worth below < worth bits := strictMono_worth (by omega)
    linarith
  · have hless : worth bits < worth (bits + 1) := strictMono_worth (by omega)
    linarith

theorem nearest_zero : Nearest 0 0 := by
  have h := nearest_worth (Nat.zero_le infinityBits)
  rwa [worth_zero] at h

/-- A number of less than half the least positive double is rounded to zero. -/
theorem nearest_zero_of_lt {number : ℚ} (h : 2 * number < worth 1) : Nearest number 0 := by
  refine .of_midpoints (Nat.zero_le _) (fun below hnext => by omega) fun _ => .inl ?_
  rwa [worth_zero, zero_add]

/-- A number that is not below infinity is rounded to it. -/
theorem nearest_infinityBits {number : ℚ} (h : worth infinityBits ≤ number) :
    Nearest number infinityBits := by
  refine .of_midpoints (Nat.le_refl _) (fun below hnext => .inl ?_) fun hlt => absurd hlt (by omega)
  have hless : worth below < worth infinityBits := strictMono_worth (by omega)
  linarith

end Espresso.Decimal
