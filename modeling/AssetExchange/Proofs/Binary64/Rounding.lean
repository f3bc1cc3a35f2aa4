import AssetExchange.Binary64.Decimal
import Mathlib.Algebra.Order.Field.Power
import Mathlib.Data.Nat.Cast.Order.Field
import Mathlib.Data.Rat.Cast.Order
import Mathlib.Tactic.FieldSimp
import Mathlib.Tactic.Linarith
import Mathlib.Tactic.NormNum
import Mathlib.Tactic.Positivity
import Mathlib.Tactic.Ring

/-!
# Numbers that round to a double-precision number

A finite number other than zero is what `ofRatio` makes of every quotient in its rounding
interval (`ofRatio_of_contains`).  The quotient has the exponent of the number
(`exists_exponent`) and the number's significand is the nearest integer to it there
(`roundedQuotient_of_near`), except just below a power of two: there the quotient has the
exponent before it and is rounded up into the next one.
-/

namespace AssetExchange

/-- A power with an integer exponent as a quotient of powers with natural ones. -/
theorem zpow_eq_div (base : Nat) (nonzero : base ≠ 0) (exponent : Int) :
    (base : ℚ) ^ exponent =
      (base ^ exponent.toNat : Nat) / (base ^ (-exponent).toNat : Nat) := by
  have nonzeroCast : (base : ℚ) ≠ 0 := Nat.cast_ne_zero.2 nonzero
  push_cast
  rw [← zpow_natCast, ← zpow_natCast, ← zpow_sub₀ nonzeroCast]
  congr 1
  omega

namespace Binary64

/-! ## Nearest integers -/

theorem roundedQuotient_eq {numerator denominator whole : Nat} (positive : 0 < denominator)
    (low : 2 * whole * denominator ≤ 2 * numerator + denominator)
    (high : 2 * numerator ≤ (2 * whole + 1) * denominator)
    (even : whole % 2 = 0 ∨ 2 * whole * denominator < 2 * numerator + denominator ∧
      2 * numerator < (2 * whole + 1) * denominator) :
    roundedQuotient numerator denominator = whole := by
  have split := Nat.div_add_mod numerator denominator
  have small := Nat.mod_lt numerator positive
  unfold roundedQuotient
  dsimp only
  generalize numerator / denominator = quotient at split ⊢
  generalize numerator % denominator = rest at split small ⊢
  subst split
  -- The nearest integer is the quotient or the one after it.
  have atLeast : quotient ≤ whole := by
    by_contra below
    have step : (whole + 1) * denominator ≤ quotient * denominator :=
      Nat.mul_le_mul_right denominator (Nat.not_le.1 below)
    nlinarith
  have atMost : whole ≤ quotient + 1 := by
    by_contra above
    have step : (quotient + 2) * denominator ≤ whole * denominator :=
      Nat.mul_le_mul_right denominator (Nat.not_le.1 above)
    nlinarith
  -- Only a tie depends on which of the two is even.
  rcases Nat.eq_or_lt_of_le atLeast with rfl | further
  · have half : 2 * rest ≤ denominator := by
      nlinarith
    rcases Nat.eq_or_lt_of_le half with tie | less
    · rcases even with even | ⟨_, strict⟩
      · rw [if_neg (by omega), if_neg (by omega), even]
        rfl
      · nlinarith
    · rw [if_pos less]
  · obtain rfl : whole = quotient + 1 := by
      omega
    have half : denominator ≤ 2 * rest := by
      nlinarith
    rcases Nat.eq_or_lt_of_le half with tie | more
    · rcases even with even | ⟨strict, _⟩
      · rw [if_neg (by omega), if_neg (by omega)]
        omega
      · nlinarith
    · rw [if_neg (by omega), if_pos more]

/-- An integer is what a quotient is rounded to if it is at most a half away, and less if it
is odd. -/
theorem roundedQuotient_of_near {numerator denominator whole : Nat} (positive : 0 < denominator)
    (low : (whole : ℚ) - 1 / 2 ≤ numerator / denominator)
    (high : (numerator : ℚ) / denominator ≤ whole + 1 / 2)
    (even : whole % 2 = 0 ∨ (whole : ℚ) - 1 / 2 < numerator / denominator ∧
      (numerator : ℚ) / denominator < whole + 1 / 2) :
    roundedQuotient numerator denominator = whole := by
  have positiveCast : (0 : ℚ) < denominator := Nat.cast_pos.2 positive
  rw [le_div_iff₀ positiveCast] at low
  rw [div_le_iff₀ positiveCast] at high
  apply roundedQuotient_eq positive
  · have low : (2 * whole * denominator : ℚ) ≤ 2 * numerator + denominator := by
      linarith
    exact_mod_cast low
  · have high : (2 * numerator : ℚ) ≤ (2 * whole + 1) * denominator := by
      linarith
    exact_mod_cast high
  · refine even.imp id fun ⟨low, high⟩ => ?_
    rw [lt_div_iff₀ positiveCast] at low
    rw [div_lt_iff₀ positiveCast] at high
    constructor
    · have low : (2 * whole * denominator : ℚ) < 2 * numerator + denominator := by
        linarith
      exact_mod_cast low
    · have high : (2 * numerator : ℚ) < (2 * whole + 1) * denominator := by
        linarith
      exact_mod_cast high

theorem roundedMultiple_eq (numerator denominator : Nat) (exponent : Int) :
    roundedMultiple numerator denominator exponent =
      roundedQuotient (numerator * 2 ^ (-exponent).toNat)
        (denominator * 2 ^ exponent.toNat) := by
  unfold roundedMultiple
  split
  · rename_i nonnegative
    rw [Int.toNat_of_nonpos (by omega : -exponent ≤ 0), pow_zero, mul_one]
    rfl
  · rename_i negative
    rw [Int.toNat_of_nonpos (by omega : exponent ≤ 0), pow_zero, mul_one]
    rfl

theorem roundedMultiple_of_near {numerator denominator whole : Nat} {exponent : Int}
    (positive : 0 < denominator)
    (low : (whole - 1 / 2) * (2 : ℚ) ^ exponent ≤ numerator / denominator)
    (high : (numerator : ℚ) / denominator ≤ (whole + 1 / 2) * (2 : ℚ) ^ exponent)
    (even : whole % 2 = 0 ∨
      (whole - 1 / 2) * (2 : ℚ) ^ exponent < numerator / denominator ∧
        (numerator : ℚ) / denominator < (whole + 1 / 2) * (2 : ℚ) ^ exponent) :
    roundedMultiple numerator denominator exponent = whole := by
  have power : (0 : ℚ) < 2 ^ exponent := by
    positivity
  have scaled : ((numerator * 2 ^ (-exponent).toNat : Nat) : ℚ) /
      (denominator * 2 ^ exponent.toNat : Nat) = numerator / denominator / 2 ^ exponent := by
    have split := zpow_eq_div 2 (by decide) exponent
    push_cast at split ⊢
    rw [split]
    field_simp
  rw [roundedMultiple_eq]
  apply roundedQuotient_of_near (by positivity)
  · rw [scaled]
    exact (le_div_iff₀ power).2 low
  · rw [scaled]
    exact (div_le_iff₀ power).2 high
  · rw [scaled]
    exact even.imp id fun ⟨low, high⟩ => ⟨(lt_div_iff₀ power).2 low, (div_lt_iff₀ power).2 high⟩

/-! ## Exponents -/

theorem leadingPlace_eq : leadingPlace = 2 ^ 52 := by
  decide

/-- The exponent at which a quotient has fifty-three significant bits, estimated by the
lengths of its two numbers, is off by at most one. -/
theorem estimate_bounds {numerator denominator : Nat} (nonzero : numerator ≠ 0)
    (positive : 0 < denominator) :
    (2 : ℚ) ^ ((numerator.log2 : Int) - denominator.log2 - 53 + 52) ≤ numerator / denominator ∧
      (numerator : ℚ) / denominator <
        2 ^ ((numerator.log2 : Int) - denominator.log2 - 53 + 54) := by
  have two : (2 : ℚ) ≠ 0 := two_ne_zero
  have positiveCast : (0 : ℚ) < denominator := Nat.cast_pos.2 positive
  have numeratorLow : (2 : ℚ) ^ numerator.log2 ≤ numerator := by
    exact_mod_cast Nat.log2_self_le nonzero
  have numeratorHigh : (numerator : ℚ) < 2 ^ (numerator.log2 + 1) := by
    exact_mod_cast Nat.lt_log2_self
  have denominatorLow : (2 : ℚ) ^ denominator.log2 ≤ denominator := by
    exact_mod_cast Nat.log2_self_le positive.ne'
  have denominatorHigh : (denominator : ℚ) < 2 ^ (denominator.log2 + 1) := by
    exact_mod_cast Nat.lt_log2_self
  constructor
  · have exponent : (numerator.log2 : Int) - denominator.log2 - 53 + 52 =
        (numerator.log2 : Int) - (denominator.log2 + 1 : Nat) := by
      push_cast
      ring
    rw [exponent, zpow_sub₀ two, zpow_natCast, zpow_natCast]
    exact div_le_div₀ (Nat.cast_nonneg _) numeratorLow positiveCast denominatorHigh.le
  · have exponent : (numerator.log2 : Int) - denominator.log2 - 53 + 54 =
        ((numerator.log2 + 1 : Nat) : Int) - denominator.log2 := by
      push_cast
      ring
    rw [exponent, zpow_sub₀ two, zpow_natCast, zpow_natCast]
    exact div_lt_div₀ numeratorHigh denominatorLow (by positivity) (by positivity)

theorem narrow_iff (numerator : Nat) {denominator : Nat} (positive : 0 < denominator)
    (estimate : Int) :
    (if 0 ≤ estimate then
        (numerator < denominator * Nat.pow 2 (estimate.toNat + 53) : Bool)
      else numerator * Nat.pow 2 (-estimate).toNat < denominator * (2 * leadingPlace)) = true ↔
    (numerator : ℚ) / denominator < 2 ^ (estimate + 53) := by
  have positiveCast : (0 : ℚ) < denominator := Nat.cast_pos.2 positive
  have place : ((2 * leadingPlace : Nat) : ℚ) = 2 ^ 53 := by
    rw [leadingPlace_eq]
    norm_num
  rw [div_lt_iff₀ positiveCast, zpow_add₀ two_ne_zero]
  split
  · rename_i nonnegative
    obtain ⟨exponent, rfl⟩ := Int.eq_ofNat_of_zero_le nonnegative
    rw [decide_eq_true_iff]
    refine (Nat.cast_lt : (numerator : ℚ) < _ ↔ _).symm.trans ?_
    rw [Int.toNat_natCast, zpow_natCast]
    push_cast
    rw [Nat.pow_eq]
    push_cast
    rw [pow_add, mul_comm (denominator : ℚ)]
    norm_cast
  · rename_i negative
    obtain ⟨exponent, rfl⟩ : ∃ exponent : Nat, estimate = -exponent :=
      ⟨(-estimate).toNat, by omega⟩
    rw [decide_eq_true_iff]
    refine (Nat.cast_lt : ((numerator * _ : Nat) : ℚ) < _ ↔ _).symm.trans ?_
    rw [neg_neg, Int.toNat_natCast, Nat.cast_mul, Nat.cast_mul, place, zpow_neg, zpow_natCast,
      Nat.pow_eq]
    push_cast
    rw [inv_mul_eq_div, div_mul_eq_mul_div, lt_div_iff₀ (by positivity),
      mul_comm (denominator : ℚ)]
    norm_cast

/-- A quotient is rounded at the exponent at which it has fifty-three significant bits, or at
the least one. -/
theorem exists_exponent (negative : Bool) {numerator denominator : Nat} (nonzero : numerator ≠ 0)
    (positive : 0 < denominator) :
    ∃ exponent : Int, -1074 ≤ exponent ∧
      (numerator : ℚ) / denominator < 2 ^ (exponent + 53) ∧
      (exponent = -1074 ∨ (2 : ℚ) ^ (exponent + 52) ≤ numerator / denominator) ∧
      ofRatio negative numerator denominator =
        ofMagnitude negative (min ((exponent + 1074).toNat * leadingPlace +
          roundedMultiple numerator denominator exponent) infinityBits) := by
  have bounds := estimate_bounds nonzero positive
  have narrow := narrow_iff numerator positive
    ((numerator.log2 : Int) - denominator.log2 - 53)
  unfold ofRatio
  rw [if_neg nonzero]
  dsimp only
  generalize (numerator.log2 : Int) - denominator.log2 - 53 = estimate at bounds narrow ⊢
  generalize (if 0 ≤ estimate then
      decide (numerator < denominator * Nat.pow 2 (estimate.toNat + 53))
    else decide (numerator * Nat.pow 2 (-estimate).toNat < denominator * (2 * leadingPlace))) =
      isNarrow at narrow ⊢
  obtain ⟨low, high⟩ := bounds
  obtain ⟨exponent, chosen, below, above⟩ : ∃ exponent : Int,
      (if isNarrow = true then estimate else estimate + 1) = exponent ∧
        (numerator : ℚ) / denominator < 2 ^ (exponent + 53) ∧
        (2 : ℚ) ^ (exponent + 52) ≤ numerator / denominator := by
    cases isNarrow with
    | true =>
        exact ⟨estimate, rfl, narrow.1 rfl, low⟩
    | false =>
        refine ⟨estimate + 1, rfl, ?_, not_lt.1 fun less => ?_⟩
        · rw [add_assoc]
          exact high
        · rw [add_assoc] at less
          cases narrow.2 less
  rw [chosen]
  refine ⟨max exponent (-1074), le_max_right _ _, ?_, ?_, rfl⟩
  · exact lt_of_lt_of_le below
      (zpow_le_zpow_right₀ one_le_two (Int.add_le_add_right (le_max_left _ _) 53))
  · rcases le_total (-1074) exponent with large | small
    · rw [max_eq_left large]
      exact .inr above
    · rw [max_eq_right small]
      exact .inl rfl

/-! ## The parts of a number -/

theorem ofMagnitude_magnitudeBits (number : Binary64) :
    ofMagnitude number.isNegative number.magnitudeBits = number := by
  have bits : number.bits.toNat < 2 * signPlace := number.bits.toNat_lt
  have same : (if number.isNegative = true then signPlace + number.magnitudeBits
      else number.magnitudeBits) = number.bits.toNat := by
    unfold isNegative magnitudeBits
    unfold signPlace at bits ⊢
    simp only [decide_eq_true_eq]
    split <;> omega
  rw [ofMagnitude, same]
  exact congrArg Binary64.mk UInt64.ofNat_toNat

theorem fractionBits_lt (number : Binary64) : number.fractionBits < 2 ^ 52 :=
  Nat.mod_lt _ (by decide)

theorem significand_lt (number : Binary64) : number.significand < 2 ^ 53 := by
  have fraction := number.fractionBits_lt
  unfold significand
  rw [leadingPlace_eq]
  split <;> omega

theorem scale_ge (number : Binary64) : -1074 ≤ number.scale := by
  unfold scale
  omega

/-- Only at the least scale a number may have fewer than fifty-three significant bits. -/
theorem scale_eq_or_le_significand (number : Binary64) :
    number.scale = -1074 ∨ 2 ^ 52 ≤ number.significand := by
  unfold scale significand
  rw [leadingPlace_eq]
  split
  · left
    omega
  · right
    omega

theorem magnitudeBits_eq (number : Binary64) :
    number.magnitudeBits =
      (number.scale + 1074).toNat * leadingPlace + number.significand := by
  have split := Nat.div_add_mod' number.magnitudeBits leadingPlace
  change number.exponentBits * leadingPlace + number.fractionBits = _ at split
  unfold scale significand
  split
  · rename_i least
    rw [least] at split ⊢
    rw [← split]
    rfl
  · rename_i further
    obtain ⟨exponent, same⟩ := Nat.exists_eq_succ_of_ne_zero further
    have places : (max (number.exponentBits : Int) 1 - 1075 + 1074).toNat = exponent := by
      omega
    rw [places, ← split, same, Nat.succ_mul, Nat.add_assoc]

theorem scale_le {number : Binary64} (finite : number.isFinite = true) :
    number.scale ≤ 971 := by
  have small : number.magnitudeBits < infinityBits := of_decide_eq_true finite
  have exponent : number.exponentBits < 2047 :=
    Nat.div_lt_of_lt_mul (Nat.mul_comm _ _ ▸ small)
  unfold scale
  omega

/-! ## Rounding intervals -/

def RoundingInterval.Contains (interval : RoundingInterval) (value : ℚ) : Prop :=
  if interval.closed = true then
    (interval.lower : ℚ) / interval.denominator ≤ value ∧
      value ≤ interval.upper / interval.denominator
  else
    (interval.lower : ℚ) / interval.denominator < value ∧
      value < interval.upper / interval.denominator

/-- The part of a unit by which a number's interval reaches down from it: a half, but just
above a power of two a quarter. -/
def lowerReach (number : Binary64) : ℚ :=
  if number.fractionBits = 0 ∧ 1 < number.exponentBits then 1 / 4 else 1 / 2

theorem lower_roundingInterval {number : Binary64} (nonzero : number.significand ≠ 0) :
    (number.roundingInterval.lower : ℚ) / number.roundingInterval.denominator =
      (number.significand - number.lowerReach) * 2 ^ number.scale := by
  have power := zpow_eq_div 2 (by decide) number.scale
  have positive : 1 ≤ number.significand := Nat.one_le_iff_ne_zero.2 nonzero
  push_cast at power
  unfold roundingInterval lowerReach
  dsimp only
  rw [power, Nat.pow_eq, Nat.pow_eq]
  split
  · rw [Nat.cast_mul, Nat.cast_sub (by omega)]
    push_cast
    field_simp
  · rw [Nat.cast_mul, Nat.cast_sub (by omega)]
    push_cast
    field_simp
    ring

theorem upper_roundingInterval (number : Binary64) :
    (number.roundingInterval.upper : ℚ) / number.roundingInterval.denominator =
      (number.significand + 1 / 2) * 2 ^ number.scale := by
  have power := zpow_eq_div 2 (by decide) number.scale
  push_cast at power
  unfold roundingInterval
  dsimp only
  rw [power, Nat.pow_eq, Nat.pow_eq]
  push_cast
  field_simp
  ring

theorem contains_roundingInterval_iff {number : Binary64} (nonzero : number.significand ≠ 0)
    (value : ℚ) :
    number.roundingInterval.Contains value ↔
      if number.significand % 2 = 0 then
        (number.significand - number.lowerReach) * 2 ^ number.scale ≤ value ∧
          value ≤ (number.significand + 1 / 2) * 2 ^ number.scale
      else
        (number.significand - number.lowerReach) * 2 ^ number.scale < value ∧
          value < (number.significand + 1 / 2) * 2 ^ number.scale := by
  have closed : (number.roundingInterval.closed = true) ↔ number.significand % 2 = 0 :=
    beq_iff_eq
  unfold RoundingInterval.Contains
  rw [lower_roundingInterval nonzero, upper_roundingInterval]
  simp only [closed]

section Rounding

variable {number : Binary64} {value : ℚ}

theorem lowerReach_le (number : Binary64) : number.lowerReach ≤ 1 / 2 := by
  unfold lowerReach
  split <;> norm_num

/-- A number that is a power of two and not among the least ones. -/
theorem lowerReach_of_leadingPlace (above : number.scale ≠ -1074)
    (power : number.significand = 2 ^ 52) : number.lowerReach = 1 / 4 := by
  unfold lowerReach
  rw [if_pos]
  unfold scale at above
  unfold significand at power
  rw [leadingPlace_eq] at power
  split at power <;> omega

/-- What lies in the rounding interval of a number is at most half a unit away from it. -/
theorem RoundingInterval.Contains.near (nonzero : number.significand ≠ 0)
    (inside : number.roundingInterval.Contains value) :
    (number.significand - 1 / 2) * (2 : ℚ) ^ number.scale ≤ value ∧
      value ≤ (number.significand + 1 / 2) * (2 : ℚ) ^ number.scale ∧
      (number.significand % 2 = 0 ∨
        (number.significand - 1 / 2) * (2 : ℚ) ^ number.scale < value ∧
          value < (number.significand + 1 / 2) * (2 : ℚ) ^ number.scale) := by
  have power : (0 : ℚ) < 2 ^ number.scale := by
    positivity
  have reach : (number.significand - 1 / 2) * (2 : ℚ) ^ number.scale ≤
      (number.significand - number.lowerReach) * 2 ^ number.scale :=
    mul_le_mul_of_nonneg_right (sub_le_sub_left number.lowerReach_le _) power.le
  rw [contains_roundingInterval_iff nonzero] at inside
  split at inside
  · rename_i even
    exact ⟨reach.trans inside.1, inside.2, .inl even⟩
  · have strict := reach.trans_lt inside.1
    exact ⟨strict.le, inside.2.le, .inr ⟨strict, inside.2⟩⟩

theorem RoundingInterval.Contains.pos (nonzero : number.significand ≠ 0)
    (inside : number.roundingInterval.Contains value) : 0 < value := by
  have atLeastOne : (1 : ℚ) ≤ number.significand := by
    exact_mod_cast Nat.one_le_iff_ne_zero.2 nonzero
  have positive : (0 : ℚ) < (number.significand - 1 / 2) * 2 ^ number.scale :=
    mul_pos (by linarith) (by positivity)
  exact positive.trans_le (inside.near nonzero).1

/-- No value that is rounded to a number has a greater exponent than that number. -/
theorem exponent_le_scale (nonzero : number.significand ≠ 0)
    (inside : number.roundingInterval.Contains value) {exponent : Int}
    (above : exponent = -1074 ∨ (2 : ℚ) ^ (exponent + 52) ≤ value) :
    exponent ≤ number.scale := by
  by_contra greater
  have scaleLeast := number.scale_ge
  have power : (0 : ℚ) < 2 ^ number.scale := by
    positivity
  have significandCast : (number.significand : ℚ) + 1 ≤ 2 ^ 53 := by
    exact_mod_cast number.significand_lt
  have valueHigh := (inside.near nonzero).2.1
  have valueLow : (2 : ℚ) ^ (number.scale + 53) ≤ value := by
    refine le_trans (zpow_le_zpow_right₀ one_le_two ?_) (above.resolve_left (by omega))
    omega
  rw [zpow_add₀ two_ne_zero] at valueLow
  have less : ((number.significand : ℚ) + 1 / 2) * 2 ^ number.scale <
      2 ^ number.scale * 2 ^ (53 : Int) := by
    rw [mul_comm]
    refine mul_lt_mul_of_pos_left ?_ power
    norm_num at significandCast ⊢
    linarith
  linarith

/-- Where a value that is rounded to a number has a smaller exponent, it lies just below the
power of two that the number is. -/
theorem below_power (nonzero : number.significand ≠ 0)
    (inside : number.roundingInterval.Contains value) {exponent : Int}
    (atLeast : -1074 ≤ exponent) (below : value < 2 ^ (exponent + 53))
    (less : exponent < number.scale) :
    number.significand = 2 ^ 52 ∧ exponent = number.scale - 1 ∧
      ((2 : ℚ) ^ 53 - 1 / 2) * 2 ^ exponent ≤ value := by
  have power : (0 : ℚ) < 2 ^ number.scale := by
    positivity
  have bounded : ∀ places : Nat, exponent + 53 ≤ places + number.scale →
      value < 2 ^ places * 2 ^ number.scale := by
    intro places atMost
    rw [← zpow_natCast, ← zpow_add₀ two_ne_zero]
    exact below.trans_le (zpow_le_zpow_right₀ one_le_two atMost)
  have full : 2 ^ 52 ≤ number.significand :=
    number.scale_eq_or_le_significand.resolve_left (by omega)
  have isPower : number.significand = 2 ^ 52 := by
    refine Nat.le_antisymm (not_lt.1 fun more => ?_) full
    have moreCast : (2 : ℚ) ^ 52 + 1 ≤ number.significand := by
      exact_mod_cast more
    have valueLow := (inside.near nonzero).1
    have valueHigh := bounded 52 (by omega)
    have more : (2 : ℚ) ^ 52 * 2 ^ number.scale ≤
        (number.significand - 1 / 2) * 2 ^ number.scale :=
      mul_le_mul_of_nonneg_right (by linarith) power.le
    linarith
  have reach := lowerReach_of_leadingPlace (by omega) isPower
  rw [contains_roundingInterval_iff nonzero, isPower, if_pos (by norm_num), reach] at inside
  have valueLow := inside.1
  push_cast at valueLow
  have next : exponent = number.scale - 1 := by
    by_contra different
    have valueHigh := bounded 51 (by omega)
    have more : (2 : ℚ) ^ 51 * 2 ^ number.scale ≤ (2 ^ 52 - 1 / 4) * 2 ^ number.scale :=
      mul_le_mul_of_nonneg_right (by norm_num) power.le
    linarith
  refine ⟨isPower, next, ?_⟩
  have twice : (2 : ℚ) ^ number.scale = 2 * 2 ^ exponent := by
    rw [next, zpow_sub_one₀ two_ne_zero]
    ring
  rw [twice] at valueLow
  linarith

/-- A number is what every quotient in its rounding interval is rounded to. -/
theorem ofRatio_of_contains (finite : number.isFinite = true) (nonzero : number.significand ≠ 0)
    {numerator denominator : Nat} (positive : 0 < denominator)
    (inside : number.roundingInterval.Contains ((numerator : ℚ) / denominator)) :
    ofRatio number.isNegative numerator denominator = number := by
  have numeratorNonzero : numerator ≠ 0 := by
    rintro rfl
    have less := inside.pos nonzero
    rw [Nat.cast_zero, zero_div] at less
    exact less.false
  obtain ⟨exponent, atLeast, below, above, same⟩ :=
    exists_exponent number.isNegative numeratorNonzero positive
  have magnitude : (exponent + 1074).toNat * leadingPlace +
      roundedMultiple numerator denominator exponent = number.magnitudeBits := by
    rw [magnitudeBits_eq]
    have atMost := exponent_le_scale nonzero inside above
    rcases Int.lt_or_eq_of_le atMost with less | rfl
    · -- The quotient is rounded up to the power of two, which carries into the exponent.
      obtain ⟨isPower, next, low⟩ := below_power nonzero inside atLeast below less
      have rounded : roundedMultiple numerator denominator exponent = 2 ^ 53 := by
        rw [zpow_add₀ two_ne_zero] at below
        have power : (0 : ℚ) < 2 ^ exponent := by
          positivity
        apply roundedMultiple_of_near positive
        · push_cast
          exact low
        · norm_num at below ⊢
          linarith
        · exact .inl (by norm_num)
      have places : (number.scale + 1074).toNat = (exponent + 1074).toNat + 1 := by
        omega
      rw [rounded, isPower, places, leadingPlace_eq]
      ring
    · obtain ⟨low, high, even⟩ := inside.near nonzero
      rw [roundedMultiple_of_near positive low high even]
  rw [same, magnitude, Nat.min_eq_left (Nat.le_of_lt (of_decide_eq_true finite)),
    ofMagnitude_magnitudeBits]

end Rounding

end Binary64
end AssetExchange
