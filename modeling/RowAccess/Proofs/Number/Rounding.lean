import Mathlib.Algebra.Order.Ring.Int
import RowAccess.Number.Binary64

/-!
Contract: rounding to binary64 numbers keeps the order of what is rounded.

A magnitude is rounded to a multiple of the spacing around it. Between two powers of
two the spacing is one and the same, and the powers themselves are multiples of the
spacing on both sides, so that no magnitude is rounded across one. Order can be lost
only where two magnitudes are rounded to the same number.

Owns:
- the nearest multiple: where it lies, and that it is monotone.
- the rounding of magnitudes and of integers: monotone, and how far it moves 64-bit ones.
-/

namespace RowAccess

/-! ## The nearest multiple -/

section NearestMultiple

variable {numerator denominator : Nat}

theorem nearestEven_of_lt (below : 2 * (numerator % denominator) < denominator) :
    nearestEven numerator denominator = numerator / denominator := by
  unfold nearestEven
  exact if_pos below

theorem nearestEven_of_gt (above : denominator < 2 * (numerator % denominator)) :
    nearestEven numerator denominator = numerator / denominator + 1 := by
  unfold nearestEven
  dsimp only
  rw [if_neg (by omega), if_pos above]

theorem nearestEven_of_half (half : 2 * (numerator % denominator) = denominator) :
    nearestEven numerator denominator =
      numerator / denominator + numerator / denominator % 2 := by
  unfold nearestEven
  dsimp only
  rw [if_neg (by omega), if_neg (by omega)]

/-- The nearest multiple is that of the whole quotient or the next one, and the other
one is no nearer. -/
theorem nearestEven_cases (numerator denominator : Nat) :
    nearestEven numerator denominator = numerator / denominator ∧
        2 * (numerator % denominator) ≤ denominator ∨
      nearestEven numerator denominator = numerator / denominator + 1 ∧
        denominator ≤ 2 * (numerator % denominator) := by
  rcases Nat.lt_trichotomy (2 * (numerator % denominator)) denominator with
    below | half | above
  · exact Or.inl ⟨nearestEven_of_lt below, below.le⟩
  · have isHalf := nearestEven_of_half half
    rcases Nat.mod_two_eq_zero_or_one (numerator / denominator) with even | odd
    · exact Or.inl ⟨by omega, half.le⟩
    · exact Or.inr ⟨by omega, half.ge⟩
  · exact Or.inr ⟨nearestEven_of_gt above, above.le⟩

theorem nearestEven_mul (quotient : Nat) (positive : 0 < denominator) :
    nearestEven (quotient * denominator) denominator = quotient := by
  rw [nearestEven_of_lt (by rw [Nat.mul_mod_left]; exact positive),
    Nat.mul_div_cancel _ positive]

theorem nearestEven_mono (denominator : Nat) {left right : Nat} (ordered : left ≤ right) :
    nearestEven left denominator ≤ nearestEven right denominator := by
  have leftCases := nearestEven_cases left denominator
  have rightCases := nearestEven_cases right denominator
  have quotients : left / denominator ≤ right / denominator := Nat.div_le_div_right ordered
  rcases Nat.lt_or_eq_of_le quotients with below | same
  · omega
  · -- With one quotient the remainders are ordered, and halves go the same way.
    have remainders : left % denominator ≤ right % denominator := by
      have leftWhole := Nat.div_add_mod left denominator
      have rightWhole := Nat.div_add_mod right denominator
      rw [same] at leftWhole
      omega
    by_cases halves : 2 * (left % denominator) = denominator ∧
        2 * (right % denominator) = denominator
    · rw [nearestEven_of_half halves.1, nearestEven_of_half halves.2, same]
    · omega

/-- The nearest multiple is at most half a step away. -/
theorem nearestEven_near (numerator : Nat) (positive : 0 < denominator) :
    2 * numerator ≤ 2 * (nearestEven numerator denominator * denominator) + denominator ∧
      2 * (nearestEven numerator denominator * denominator) ≤ 2 * numerator + denominator := by
  have whole := Nat.div_add_mod' numerator denominator
  have remainder := Nat.mod_lt numerator positive
  rcases nearestEven_cases numerator denominator with ⟨isQuotient, half⟩ | ⟨isNext, half⟩
  · rw [isQuotient]
    omega
  · rw [isNext, Nat.add_mul, Nat.one_mul]
    omega

end NearestMultiple

namespace Binary64

/-! ## Magnitudes -/

theorem spacing_pos (units : Nat) : 0 < spacing units := Nat.two_pow_pos _

theorem roundUnits_one (units : Nat) :
    roundUnits units 1 = nearestEven units (spacing units) * spacing units := by
  unfold roundUnits
  simp only [Nat.div_one, Nat.one_mul]

section Bounds

variable {units bound : Nat}

/-- The spacing divides the powers of two around a magnitude. -/
theorem spacing_dvd_two_pow {exponent : Nat} (reaches : units.log2 ≤ exponent) :
    spacing units ∣ 2 ^ exponent := by
  unfold spacing
  exact Nat.pow_dvd_pow 2 (by omega)

/-- Rounding does not pass a multiple of the spacing from below. -/
theorem roundUnits_le (aligned : spacing units ∣ bound) (below : units ≤ bound) :
    roundUnits units 1 ≤ bound := by
  obtain ⟨quotient, rfl⟩ := aligned
  rw [Nat.mul_comm] at below ⊢
  have rounded := nearestEven_mono (spacing units) below
  rw [nearestEven_mul quotient (spacing_pos units)] at rounded
  rw [roundUnits_one]
  exact Nat.mul_le_mul_right _ rounded

theorem le_roundUnits (aligned : spacing units ∣ bound) (above : bound ≤ units) :
    bound ≤ roundUnits units 1 := by
  obtain ⟨quotient, rfl⟩ := aligned
  rw [Nat.mul_comm] at above ⊢
  have rounded := nearestEven_mono (spacing units) above
  rw [nearestEven_mul quotient (spacing_pos units)] at rounded
  rw [roundUnits_one]
  exact Nat.mul_le_mul_right _ rounded

end Bounds

theorem log2_mono {left right : Nat} (ordered : left ≤ right) : left.log2 ≤ right.log2 := by
  by_cases isZero : left = 0
  · rw [isZero, Nat.log2_zero]
    exact Nat.zero_le _
  · have power : 2 ^ left.log2 ≤ right := (Nat.log2_self_le isZero).trans ordered
    exact (Nat.le_log2 (by omega)).2 power

/-- Rounding keeps the order: within one power of two the spacing is the same, and
across powers one of them lies between. -/
theorem roundUnits_mono {left right : Nat} (ordered : left ≤ right) :
    roundUnits left 1 ≤ roundUnits right 1 := by
  rcases Nat.lt_or_eq_of_le (log2_mono ordered) with below | same
  · have rightNonzero : right ≠ 0 := by
      rintro rfl
      rw [Nat.log2_zero] at below
      omega
    calc
      roundUnits left 1 ≤ 2 ^ (left.log2 + 1) :=
        roundUnits_le (spacing_dvd_two_pow (Nat.le_succ _)) Nat.lt_log2_self.le
      _ ≤ 2 ^ right.log2 := Nat.pow_le_pow_right Nat.two_pos below
      _ ≤ roundUnits right 1 :=
        le_roundUnits (spacing_dvd_two_pow (Nat.le_refl _)) (Nat.log2_self_le rightNonzero)
  · have sameSpacing : spacing left = spacing right := by
      unfold spacing
      rw [same]
    rw [roundUnits_one, roundUnits_one, sameSpacing]
    exact Nat.mul_le_mul_right _ (nearestEven_mono (spacing right) ordered)

/-! ## Integers -/

theorem exists_unitsPerOne_eq : ∃ exponent, unitsPerOne = 2 ^ exponent := by
  unfold unitsPerOne
  -- The exponent is kept out of the way of evaluation.
  generalize 1074 = exponent
  exact ⟨exponent, rfl⟩

theorem unitsPerOne_pos : 0 < unitsPerOne := by
  obtain ⟨exponent, isPower⟩ := exists_unitsPerOne_eq
  rw [isPower]
  exact Nat.two_pow_pos exponent

theorem signedUnits_ofInt_natCast (magnitude : Nat) :
    (ofInt magnitude).signedUnits = roundUnits (magnitude * unitsPerOne) 1 := by
  unfold ofInt signedUnits
  rw [Int.natAbs_natCast, decide_eq_false (by omega)]
  simp only [Bool.false_eq_true, if_false]

theorem signedUnits_ofInt_neg_natCast (magnitude : Nat) :
    (ofInt (-magnitude)).signedUnits = -(roundUnits (magnitude * unitsPerOne) 1 : Int) := by
  unfold ofInt signedUnits
  rw [Int.natAbs_neg, Int.natAbs_natCast]
  by_cases isZero : magnitude = 0
  · have nothing : roundUnits 0 1 = 0 := rfl
    simp [isZero, nothing]
  · rw [decide_eq_true (by omega)]
    simp only [if_true]

theorem roundUnits_scaled_mono {left right : Nat} (ordered : left ≤ right) :
    (roundUnits (left * unitsPerOne) 1 : Int) ≤ roundUnits (right * unitsPerOne) 1 :=
  Int.ofNat_le.2 (roundUnits_mono (Nat.mul_le_mul_right _ ordered))

/-- The nearest numbers of integers are in the order of the integers. -/
theorem signedUnits_ofInt_mono {left right : Int} (ordered : left ≤ right) :
    (ofInt left).signedUnits ≤ (ofInt right).signedUnits := by
  obtain ⟨leftMagnitude, rfl | rfl⟩ := left.eq_nat_or_neg <;>
    obtain ⟨rightMagnitude, rfl | rfl⟩ := right.eq_nat_or_neg
  · rw [signedUnits_ofInt_natCast, signedUnits_ofInt_natCast]
    exact roundUnits_scaled_mono (by omega)
  · have leftZero : leftMagnitude = 0 := by omega
    have rightZero : rightMagnitude = 0 := by omega
    rw [leftZero, rightZero]
    exact Int.le_refl _
  · rw [signedUnits_ofInt_neg_natCast, signedUnits_ofInt_natCast]
    omega
  · rw [signedUnits_ofInt_neg_natCast, signedUnits_ofInt_neg_natCast]
    exact Int.neg_le_neg (roundUnits_scaled_mono (by omega))

/-- Around a 64-bit integer binary64 numbers are at most 2048 apart. -/
theorem spacing_scaled_le {magnitude : Nat} (bounded : magnitude < 2 ^ 64) :
    spacing (magnitude * unitsPerOne) ≤ 2048 * unitsPerOne := by
  obtain ⟨exponent, isPower⟩ := exists_unitsPerOne_eq
  rw [isPower]
  have logarithm : (magnitude * 2 ^ exponent).log2 ≤ 63 + exponent := by
    have scaled : magnitude * 2 ^ exponent < 2 ^ (63 + exponent + 1) := by
      rw [Nat.add_right_comm, Nat.pow_add]
      exact Nat.mul_lt_mul_of_pos_right bounded (Nat.two_pow_pos exponent)
    by_cases isZero : magnitude * 2 ^ exponent = 0
    · rw [isZero, Nat.log2_zero]
      exact Nat.zero_le _
    · exact Nat.le_of_lt_succ ((Nat.log2_lt isZero).2 scaled)
  calc
    spacing (magnitude * 2 ^ exponent) ≤ 2 ^ (11 + exponent) :=
      Nat.pow_le_pow_right Nat.two_pos (by omega)
    _ = 2048 * 2 ^ exponent := Nat.pow_add 2 11 exponent

/-- A 64-bit integer is moved by 1024 at most. -/
theorem roundUnits_scaled_near (magnitude : Nat) (bounded : magnitude < 2 ^ 64) :
    magnitude * unitsPerOne ≤ roundUnits (magnitude * unitsPerOne) 1 + 1024 * unitsPerOne ∧
      roundUnits (magnitude * unitsPerOne) 1 ≤ magnitude * unitsPerOne + 1024 * unitsPerOne := by
  have spaced := spacing_scaled_le bounded
  have near := nearestEven_near (magnitude * unitsPerOne)
    (spacing_pos (magnitude * unitsPerOne))
  rw [roundUnits_one]
  omega

theorem signedUnits_ofInt_near {value : Int} (bounded : value.natAbs < 2 ^ 64) :
    value * unitsPerOne ≤ (ofInt value).signedUnits + 1024 * unitsPerOne ∧
      (ofInt value).signedUnits ≤ value * unitsPerOne + 1024 * unitsPerOne := by
  obtain ⟨magnitude, rfl | rfl⟩ := value.eq_nat_or_neg
  · rw [signedUnits_ofInt_natCast]
    exact_mod_cast roundUnits_scaled_near magnitude (by omega)
  · have near := roundUnits_scaled_near magnitude (by omega)
    rw [signedUnits_ofInt_neg_natCast, Int.neg_mul]
    omega

/-- Integers that are more than 2048 apart are rounded to different numbers. -/
theorem signedUnits_ofInt_lt {left right : Int} (leftBounded : left.natAbs < 2 ^ 64)
    (rightBounded : right.natAbs < 2 ^ 64) (apart : left + 2048 < right) :
    (ofInt left).signedUnits < (ofInt right).signedUnits := by
  have leftNear := (signedUnits_ofInt_near leftBounded).2
  have rightNear := (signedUnits_ofInt_near rightBounded).1
  have scaled : (left + 2048) * (unitsPerOne : Int) < right * unitsPerOne :=
    Int.mul_lt_mul_of_pos_right apart (Int.ofNat_lt.2 unitsPerOne_pos)
  rw [Int.add_mul] at scaled
  omega

end Binary64

end RowAccess
