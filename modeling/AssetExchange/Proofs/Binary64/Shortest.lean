import AssetExchange.Proofs.Binary64.Rounding

/-!
# The shortest decimal of a number

The decimal that `shortest` selects lies in the number's rounding interval
(`contains_shortest`), so it is read back as that number (`ofDecimal_of_contains`).  Seventeen
digits suffice because there the decimal grid is finer than the interval is wide
(`grid_lt_width`): one of the two neighbours of the number on that grid lies in it.
-/

namespace AssetExchange
namespace Binary64

/-! ## Decimals in an interval -/

def Decimal.value (decimal : Decimal) : ℚ := decimal.digits * 10 ^ decimal.exponent

theorem holds_iff {interval : RoundingInterval} (positive : 0 < interval.denominator)
    (decimal : Decimal) : interval.holds decimal = true ↔ interval.Contains decimal.value := by
  have power := zpow_eq_div 10 (by decide) decimal.exponent
  have positiveCast : (0 : ℚ) < interval.denominator := Nat.cast_pos.2 positive
  have unitPositive : (0 : ℚ) < 10 ^ (-decimal.exponent).toNat := by
    positivity
  have value : decimal.value =
      (decimal.digits * 10 ^ decimal.exponent.toNat) / 10 ^ (-decimal.exponent).toNat := by
    push_cast at power
    rw [Decimal.value, power, mul_div_assoc]
  unfold RoundingInterval.holds RoundingInterval.Contains
  dsimp only
  rw [value]
  split
  · rw [Bool.and_eq_true, decide_eq_true_iff, decide_eq_true_iff,
      div_le_div_iff₀ positiveCast unitPositive, div_le_div_iff₀ unitPositive positiveCast]
    norm_cast
  · rw [Bool.and_eq_true, decide_eq_true_iff, decide_eq_true_iff,
      div_lt_div_iff₀ positiveCast unitPositive, div_lt_div_iff₀ unitPositive positiveCast]
    norm_cast

theorem value_trimmed (fuel : Nat) (decimal : Decimal) :
    (decimal.trimmed fuel).value = decimal.value := by
  induction fuel generalizing decimal with
  | zero =>
      rfl
  | succ fuel inductionHypothesis =>
      rw [Decimal.trimmed]
      split
      · rename_i endsInZero
        have whole : (decimal.digits : ℚ) = 10 * (decimal.digits / 10 : Nat) := by
          exact_mod_cast (by omega : decimal.digits = 10 * (decimal.digits / 10))
        rw [inductionHypothesis, Decimal.value, Decimal.value, whole,
          zpow_add_one₀ (by norm_num)]
        ring
      · rfl

/-! ## The leading digit -/

theorem pow_length_toDigits_le {number : Nat} (positive : 0 < number) :
    10 ^ ((Nat.toDigits 10 number).length - 1) ≤ number := by
  rcases Nat.eq_zero_or_pos ((Nat.toDigits 10 number).length - 1) with single | more
  · rw [single]
    exact positive
  · have notShorter := mt (Nat.length_toDigits_le_iff (b := 10) (by decide) more).2
      (by omega : ¬(Nat.toDigits 10 number).length ≤ (Nat.toDigits 10 number).length - 1)
    exact Nat.not_lt.1 notShorter

theorem lt_pow_length_toDigits (number : Nat) :
    number < 10 ^ (Nat.toDigits 10 number).length :=
  (Nat.length_toDigits_le_iff (by decide) Nat.length_toDigits_pos).1 le_rfl

theorem pow_leadingPower_le {numerator denominator : Nat} (positive : 0 < numerator)
    (denominatorPositive : 0 < denominator) :
    (10 : ℚ) ^ leadingPower numerator denominator ≤ numerator / denominator := by
  have positiveCast : (0 : ℚ) < denominator := Nat.cast_pos.2 denominatorPositive
  unfold leadingPower
  split
  · rename_i atLeastOne
    have quotientPositive : 0 < numerator / denominator :=
      Nat.div_pos atLeastOne denominatorPositive
    have places := pow_length_toDigits_le quotientPositive
    have lengthPositive : 0 < (Nat.toDigits 10 (numerator / denominator)).length :=
      Nat.length_toDigits_pos
    have exponent : ((Nat.toDigits 10 (numerator / denominator)).length : Int) - 1 =
        ((Nat.toDigits 10 (numerator / denominator)).length - 1 : Nat) := by
      omega
    rw [exponent, zpow_natCast, le_div_iff₀ positiveCast]
    exact_mod_cast (Nat.mul_le_mul_right denominator places).trans
      (Nat.div_mul_le_self numerator denominator)
  · rename_i belowOne
    dsimp only
    have enough := lt_pow_length_toDigits ((denominator + numerator - 1) / numerator - 1)
    generalize (Nat.toDigits 10 ((denominator + numerator - 1) / numerator - 1)).length =
      places at enough ⊢
    have covered : denominator ≤ 10 ^ places * numerator := by
      have ceiling : denominator ≤ (denominator + numerator - 1) / numerator * numerator := by
        have split := Nat.div_add_mod' (denominator + numerator - 1) numerator
        have small := Nat.mod_lt (denominator + numerator - 1) positive
        omega
      refine ceiling.trans (Nat.mul_le_mul_right numerator ?_)
      omega
    rw [zpow_neg, zpow_natCast, le_div_iff₀ positiveCast, inv_mul_le_iff₀ (by positivity)]
    exact_mod_cast covered

/-! ## The grid of seventeen digits -/

section Grid

variable {number : Binary64}

theorem value_roundingInterval (number : Binary64) :
    (number.roundingInterval.value : ℚ) / number.roundingInterval.denominator =
      number.significand * 2 ^ number.scale := by
  have power := zpow_eq_div 2 (by decide) number.scale
  push_cast at power
  unfold roundingInterval
  dsimp only
  rw [power, Nat.pow_eq, Nat.pow_eq]
  push_cast
  field_simp

theorem denominator_pos (number : Binary64) : 0 < number.roundingInterval.denominator := by
  unfold roundingInterval
  exact Nat.mul_pos (by decide) (Nat.pow_pos (by decide))

theorem value_pos (nonzero : number.significand ≠ 0) : 0 < number.roundingInterval.value := by
  have positive : (0 : ℚ) < number.roundingInterval.value /
      number.roundingInterval.denominator := by
    rw [value_roundingInterval]
    exact mul_pos (Nat.cast_pos.2 (Nat.pos_of_ne_zero nonzero)) (by positivity)
  rw [div_pos_iff_of_pos_right (Nat.cast_pos.2 number.denominator_pos)] at positive
  exact Nat.cast_pos.1 positive

/-- A grid of seventeen digits is finer than the rounding interval is wide. -/
theorem grid_lt_width {exponent : Int}
    (leading : (10 : ℚ) ^ (exponent + 16) ≤ number.significand * 2 ^ number.scale) :
    (10 : ℚ) ^ exponent < (1 / 2 + number.lowerReach) * 2 ^ number.scale := by
  have power : (0 : ℚ) < 2 ^ number.scale := by
    positivity
  rw [zpow_add₀ (by norm_num)] at leading
  have enough : (number.significand : ℚ) < (1 / 2 + number.lowerReach) * 10 ^ 16 := by
    unfold lowerReach
    split
    · rename_i least
      have same : number.significand = 2 ^ 52 := by
        unfold significand
        rw [if_neg (by omega), least.1, leadingPlace_eq, Nat.add_zero]
      rw [same]
      norm_num
    · have significandCast : (number.significand : ℚ) < 2 ^ 53 := by
        exact_mod_cast number.significand_lt
      refine significandCast.trans ?_
      norm_num
  have more := mul_lt_mul_of_pos_right enough power
  norm_num at leading more ⊢
  linarith

theorem lowerReach_pos (number : Binary64) : 0 < number.lowerReach := by
  unfold lowerReach
  split <;> norm_num

/-- Of two values on either side of a number one lies in its interval, if they are closer to
one another than the interval is wide. -/
theorem contains_or_contains (nonzero : number.significand ≠ 0) {value distance : ℚ}
    (below : value ≤ number.significand * 2 ^ number.scale)
    (above : number.significand * 2 ^ number.scale < value + distance)
    (fine : distance < (1 / 2 + number.lowerReach) * 2 ^ number.scale) :
    number.roundingInterval.Contains value ∨
      number.roundingInterval.Contains (value + distance) := by
  have power : (0 : ℚ) < 2 ^ number.scale := by
    positivity
  have reach := mul_pos number.lowerReach_pos power
  rw [contains_roundingInterval_iff nonzero, contains_roundingInterval_iff nonzero]
  by_cases near : (number.significand - number.lowerReach) * 2 ^ number.scale < value
  · left
    split
    · constructor
      · linarith
      · linarith
    · constructor
      · linarith
      · linarith
  · right
    split
    · constructor
      · linarith
      · linarith
    · constructor
      · linarith
      · linarith

/-- One of the two neighbours of a number on a grid that is fine enough lies in its interval. -/
theorem isSome_onGrid? (nonzero : number.significand ≠ 0) {exponent : Int}
    (fine : (10 : ℚ) ^ exponent < (1 / 2 + number.lowerReach) * 2 ^ number.scale) :
    (number.roundingInterval.onGrid? exponent).isSome = true := by
  have denominator := number.denominator_pos
  have holds := fun decimal => holds_iff denominator decimal
  have grid : (0 : ℚ) < 10 ^ exponent := by
    positivity
  have power := zpow_eq_div 10 (by decide) exponent
  push_cast at power
  unfold RoundingInterval.onGrid?
  dsimp only
  -- The number of whole steps of the grid that the number has.
  generalize counted : number.roundingInterval.value * Nat.pow 10 (-exponent).toNat /
    (Nat.pow 10 exponent.toNat * number.roundingInterval.denominator) = steps
  have placePositive : 0 < 10 ^ exponent.toNat * number.roundingInterval.denominator := by
    positivity
  have same : (number.significand * 2 ^ number.scale : ℚ) / 10 ^ exponent =
      ((number.roundingInterval.value * 10 ^ (-exponent).toNat : Nat) : ℚ) /
        (10 ^ exponent.toNat * number.roundingInterval.denominator : Nat) := by
    rw [← value_roundingInterval, power]
    push_cast
    field_simp
  have below : (⟨steps, exponent⟩ : Decimal).value ≤ number.significand * 2 ^ number.scale := by
    rw [Decimal.value, ← le_div_iff₀ grid, same, ← counted]
    exact Nat.cast_div_le
  have above : (number.significand * 2 ^ number.scale : ℚ) <
      (⟨steps, exponent⟩ : Decimal).value + 10 ^ exponent := by
    rw [Decimal.value, ← add_one_mul, ← div_lt_iff₀ grid, same,
      div_lt_iff₀ (Nat.cast_pos.2 placePositive), ← counted]
    exact_mod_cast Nat.lt_mul_of_div_lt (Nat.lt_succ_self _) placePositive
  have next : (⟨steps, exponent⟩ : Decimal).value + 10 ^ exponent =
      (⟨steps + 1, exponent⟩ : Decimal).value := by
    rw [Decimal.value, Decimal.value]
    push_cast
    ring
  have found := contains_or_contains nonzero below above fine
  rw [next, ← holds, ← holds] at found
  rcases found with lower | upper
  · rw [lower]
    cases number.roundingInterval.holds ⟨steps + 1, exponent⟩ <;> rfl
  · rw [upper]
    cases number.roundingInterval.holds ⟨steps, exponent⟩ <;> rfl

theorem contains_of_onGrid? {exponent : Int} {decimal : Decimal}
    (found : number.roundingInterval.onGrid? exponent = some decimal) :
    number.roundingInterval.Contains decimal.value := by
  have denominator := number.denominator_pos
  unfold RoundingInterval.onGrid? at found
  dsimp only at found
  split at found
  · rename_i below above
    cases found
    split
    · exact (holds_iff denominator _).1 below
    · exact (holds_iff denominator _).1 above
  · rename_i below above
    cases found
    exact (holds_iff denominator _).1 below
  · rename_i below above
    cases found
    exact (holds_iff denominator _).1 above
  · cases found

end Grid

/-- The shortest decimal of a number is rounded to that number. -/
theorem contains_shortest {number : Binary64} (nonzero : number.significand ≠ 0) :
    number.roundingInterval.Contains number.shortest.value := by
  have leading := pow_leadingPower_le (value_pos nonzero) number.denominator_pos
  rw [value_roundingInterval] at leading
  unfold shortest
  rw [if_neg nonzero]
  dsimp only
  generalize leadingPower number.roundingInterval.value
    number.roundingInterval.denominator = place at leading ⊢
  rw [value_trimmed]
  cases found : (List.range 17).findSome? fun (count : Nat) =>
      number.roundingInterval.onGrid? (place - count) with
  | none =>
      -- With seventeen digits a neighbour is found at the latest.
      have last := List.findSome?_eq_none_iff.1 found 16 (by decide)
      have finest : (10 : ℚ) ^ (place - (16 : Nat) + 16 : Int) ≤
          number.significand * 2 ^ number.scale := by
        simpa using leading
      have fine := grid_lt_width finest
      rw [Option.eq_none_iff_forall_ne_some] at last
      obtain ⟨decimal, some⟩ := Option.isSome_iff_exists.1 (isSome_onGrid? nonzero fine)
      exact absurd some (last decimal)
  | some decimal =>
      obtain ⟨count, _, onGrid⟩ := List.exists_of_findSome?_eq_some found
      exact contains_of_onGrid? onGrid

/-! ## Reading decimals -/

section Reading

variable {number : Binary64} {digits : Nat} {exponent : Int}

/-- Four hundred decimal places reach beyond every number, in both directions. -/
theorem two_pow_lt : (2 : ℚ) ^ (1075 : Int) < 10 ^ (400 : Int) :=
  calc (2 : ℚ) ^ (1075 : Int)
      ≤ 2 ^ (3 * 400 : Int) := zpow_le_zpow_right₀ one_le_two (by norm_num)
    _ = (2 ^ (3 : Int)) ^ (400 : Int) := zpow_mul _ _ _
    _ = 8 ^ 400 := by norm_num
    _ < 10 ^ 400 := pow_lt_pow_left₀ (by norm_num) (by norm_num) (by norm_num)
    _ = 10 ^ (400 : Int) := (zpow_natCast _ _).symm

theorem value_lt_of_contains (finite : number.isFinite = true)
    (nonzero : number.significand ≠ 0) {value : ℚ}
    (inside : number.roundingInterval.Contains value) : value < 10 ^ (400 : Int) := by
  have significandCast : (number.significand : ℚ) + 1 ≤ 2 ^ 53 := by
    exact_mod_cast number.significand_lt
  have scale : (2 : ℚ) ^ number.scale ≤ 2 ^ (971 : Int) :=
    zpow_le_zpow_right₀ one_le_two (scale_le finite)
  have bound : ((number.significand : ℚ) + 1 / 2) * 2 ^ number.scale ≤ 2 ^ (1024 : Int) :=
    calc ((number.significand : ℚ) + 1 / 2) * 2 ^ number.scale
        ≤ 2 ^ (53 : Int) * 2 ^ (971 : Int) :=
          mul_le_mul (by norm_num at significandCast ⊢; linarith) scale (by positivity)
            (by positivity)
      _ = 2 ^ (1024 : Int) := by
          rw [show (1024 : Int) = 53 + 971 by norm_num, zpow_add₀ two_ne_zero]
  have more : (2 : ℚ) ^ (1024 : Int) ≤ 2 ^ (1075 : Int) :=
    zpow_le_zpow_right₀ one_le_two (by norm_num)
  exact (inside.near nonzero).2.1.trans_lt (bound.trans_lt (more.trans_lt two_pow_lt))

theorem lt_value_of_contains (nonzero : number.significand ≠ 0) {value : ℚ}
    (inside : number.roundingInterval.Contains value) : 10 ^ (-400 : Int) < value := by
  have significandCast : (1 : ℚ) ≤ number.significand := by
    exact_mod_cast Nat.one_le_iff_ne_zero.2 nonzero
  have scale : (2 : ℚ) ^ (-1074 : Int) ≤ 2 ^ number.scale :=
    zpow_le_zpow_right₀ one_le_two number.scale_ge
  have bound : (2 : ℚ) ^ (-1075 : Int) ≤
      ((number.significand : ℚ) - 1 / 2) * 2 ^ number.scale :=
    calc (2 : ℚ) ^ (-1075 : Int)
        = 1 / 2 * 2 ^ (-1074 : Int) := by
          rw [show (-1075 : Int) = -1 + -1074 by norm_num, zpow_add₀ two_ne_zero]
          norm_num
      _ ≤ ((number.significand : ℚ) - 1 / 2) * 2 ^ number.scale :=
          mul_le_mul (by linarith) scale (by positivity) (by linarith)
  have less : (10 : ℚ) ^ (-400 : Int) < 2 ^ (-1075 : Int) := by
    rw [zpow_neg, zpow_neg]
    exact inv_strictAnti₀ (by positivity) two_pow_lt
  exact less.trans_le (bound.trans (inside.near nonzero).1)

/-- Where the leading digit of a decimal stands, as its value bounds it. -/
theorem length_add_le {bound : Int} (positive : 0 < digits)
    (below : (digits : ℚ) * 10 ^ exponent < 10 ^ bound) :
    (Nat.toDigits 10 digits).length + exponent ≤ bound := by
  by_contra more
  have lengthPositive : 0 < (Nat.toDigits 10 digits).length := Nat.length_toDigits_pos
  have grid : (0 : ℚ) < 10 ^ exponent := by
    positivity
  have low : (10 : ℚ) ^ ((Nat.toDigits 10 digits).length - 1 : Nat) ≤ digits := by
    exact_mod_cast pow_length_toDigits_le positive
  rw [← zpow_natCast] at low
  have atLeast : (10 : ℚ) ^ bound ≤ digits * 10 ^ exponent :=
    calc (10 : ℚ) ^ bound
        ≤ 10 ^ ((((Nat.toDigits 10 digits).length - 1 : Nat) : Int) + exponent) :=
          zpow_le_zpow_right₀ (by norm_num) (by omega)
      _ = 10 ^ (((Nat.toDigits 10 digits).length - 1 : Nat) : Int) * 10 ^ exponent :=
          zpow_add₀ (by norm_num) _ _
      _ ≤ digits * 10 ^ exponent := mul_le_mul_of_nonneg_right low grid.le
  linarith

theorem lt_length_add {bound : Int} (above : (10 : ℚ) ^ bound < digits * 10 ^ exponent) :
    bound < (Nat.toDigits 10 digits).length + exponent := by
  have grid : (0 : ℚ) < 10 ^ exponent := by
    positivity
  have high : (digits : ℚ) < 10 ^ (Nat.toDigits 10 digits).length := by
    exact_mod_cast lt_pow_length_toDigits digits
  rw [← zpow_natCast] at high
  have less : (10 : ℚ) ^ bound < 10 ^ ((Nat.toDigits 10 digits).length + exponent) := by
    rw [zpow_add₀ (by norm_num)]
    exact above.trans (mul_lt_mul_of_pos_right high grid)
  exact (zpow_lt_zpow_iff_right₀ (by norm_num)).1 less

/-- A number is what every decimal in its rounding interval is read as. -/
theorem ofDecimal_of_contains (finite : number.isFinite = true)
    (nonzero : number.significand ≠ 0)
    (inside : number.roundingInterval.Contains (digits * 10 ^ exponent)) :
    ofDecimal number.isNegative digits exponent = number := by
  have positive : 0 < digits := by
    refine Nat.pos_of_ne_zero ?_
    rintro rfl
    have less := inside.pos nonzero
    rw [Nat.cast_zero, zero_mul] at less
    exact less.false
  have notHuge := length_add_le positive (value_lt_of_contains finite nonzero inside)
  have notTiny := lt_length_add (lt_value_of_contains nonzero inside)
  unfold ofDecimal
  rw [if_neg positive.ne']
  dsimp only
  rw [if_neg (not_lt.2 notHuge), if_neg (not_lt.2 notTiny.le)]
  split
  · rename_i nonnegative
    obtain ⟨places, rfl⟩ := Int.eq_ofNat_of_zero_le nonnegative
    apply ofRatio_of_contains finite nonzero Nat.one_pos
    rw [zpow_natCast] at inside
    rw [Int.toNat_natCast, Nat.pow_eq]
    push_cast
    rw [div_one]
    exact inside
  · rename_i negative
    obtain ⟨places, rfl⟩ : ∃ places : Nat, exponent = -places :=
      ⟨(-exponent).toNat, by omega⟩
    rw [neg_neg, Int.toNat_natCast, Nat.pow_eq]
    apply ofRatio_of_contains finite nonzero (Nat.pow_pos (by decide))
    rw [zpow_neg, zpow_natCast] at inside
    push_cast
    rw [div_eq_mul_inv]
    exact inside

theorem magnitudeBits_of_zero (zero : number.significand = 0) : number.magnitudeBits = 0 := by
  have least : number.scale = -1074 :=
    number.scale_eq_or_le_significand.resolve_right (by rw [zero]; decide)
  rw [magnitudeBits_eq, least, zero]
  rfl

/-- Whatever stands for the shortest decimal of a number is read as that number. -/
theorem ofDecimal_of_shortest (finite : number.isFinite = true)
    (same : (digits : ℚ) * 10 ^ exponent = number.shortest.value) :
    ofDecimal number.isNegative digits exponent = number := by
  by_cases zero : number.significand = 0
  · have none : digits = 0 := by
      rw [shortest, if_pos zero, Decimal.value, Nat.cast_zero, zero_mul] at same
      exact Nat.cast_eq_zero.1
        ((mul_eq_zero_iff_right (zpow_ne_zero exponent (by norm_num))).1 same)
    rw [ofDecimal, if_pos none, Binary64.zero, ← magnitudeBits_of_zero zero,
      ofMagnitude_magnitudeBits]
  · exact ofDecimal_of_contains finite zero (same ▸ contains_shortest zero)

end Reading

end Binary64
end AssetExchange
