import BettaPay.Host.Shares
import BettaPay.Settlement.Split
import Mathlib.Data.Rat.Floor

namespace BettaPay.Settlement

open BettaPay.Host
open BettaPay.Common

/-! The fee split against exact arithmetic. -/

/-- A rate in basis points as a fraction. -/
def rateOf (bps : UInt32) : ℚ := bps.toNat / 10000

theorem rateOf_nonneg (bps : UInt32) : 0 ≤ rateOf bps :=
  div_nonneg (Nat.cast_nonneg _) (by norm_num)

def feeRates (rule : SettlementRule) : Rates ℚ where
  first := rateOf rule.platformFeeBps
  second := rateOf rule.networkFeeBps
  firstNonneg := rateOf_nonneg _
  secondNonneg := rateOf_nonneg _

/-- The rate of both legs together. -/
def totalBps (rule : SettlementRule) : Int :=
  rule.platformFeeBps.toNat + rule.networkFeeBps.toNat

/-- The numerator of a rounded-up fee stays within 128 bits. -/
def Fits (product : Int) : Prop :=
  -2 ^ 127 ≤ product ∧ product + 9999 ≤ 2 ^ 127 - 1

/-- The legs that exact arithmetic gives. -/
structure ExactSplit (amount : I128) (rule : SettlementRule)
    (split : FeeSplit) : Prop where
  gross : split.grossAmount = amount
  platform : split.platformFeeAmount.val =
    (feeRates rule).firstShare (max amount.val 0)
  network : split.networkFeeAmount.val =
    (feeRates rule).secondShare (max amount.val 0)
  payout : split.merchantPayoutAmount.val =
    (feeRates rule).ownerShare (max amount.val 0)
  inRange : ∀ leg ∈ [split.platformFeeAmount, split.networkFeeAmount,
    split.merchantPayoutAmount], 0 ≤ leg.val ∧ leg.val ≤ max amount.val 0

/-! The checked steps. -/

theorem due_rateOf (bps : UInt32) (amount : Int) :
    due (rateOf bps) amount = (amount * bps.toNat + 9999) / 10000 := by
  have scaled : (amount : ℚ) * rateOf bps =
      ((amount * bps.toNat : Int) : ℚ) / (10000 : Nat) := by
    rw [rateOf]
    push_cast
    ring
  rw [due, scaled, Rat.ceil_intCast_div_natCast]
  omega

theorem ceilNumerator_of_fits {amount rate : I128}
    (fits : Fits (amount.val * rate.val)) :
    ∃ numerator, ceilNumerator amount rate = some numerator ∧
      numerator.val = amount.val * rate.val + 9999 := by
  obtain ⟨lower, upper⟩ := fits
  refine ⟨⟨amount.val * rate.val + 9999, by omega, by omega⟩, ?_, rfl⟩
  have product : amount.checkedMul rate =
      some ⟨amount.val * rate.val, lower, by omega⟩ :=
    SInt.ofInt?_eq_some.mpr rfl
  simp only [ceilNumerator, product, Option.bind_eq_bind, Option.bind_some]
  exact SInt.ofInt?_eq_some.mpr rfl

theorem ceilNumerator_eq_none {amount rate : I128}
    (wide : ¬ Fits (amount.val * rate.val)) :
    ceilNumerator amount rate = none := by
  cases found : ceilNumerator amount rate with
  | none => rfl
  | some numerator =>
      simp only [ceilNumerator, Option.bind_eq_bind,
        Option.bind_eq_some_iff] at found
      obtain ⟨product, multiplied, added⟩ := found
      have value := SInt.ofInt?_eq_some.mp multiplied
      have value' := SInt.ofInt?_eq_some.mp added
      have nines : ((Bps.mk (bpsDenominator - 1)).asI128).val = 9999 := rfl
      have lower := product.lower
      have upper := numerator.upper
      refine absurd ⟨?_, ?_⟩ wide <;> omega

theorem calculateFeeCeil_eq_bind (bps : Bps) (amount : I128) :
    bps.calculateFeeCeil amount =
      (ceilNumerator amount bps.asI128).bind fun numerator =>
        numerator.checkedDiv (Bps.mk bpsDenominator).asI128 := by
  simp only [Bps.calculateFeeCeil, ceilNumerator, Option.bind_eq_bind,
    Option.bind_assoc]

theorem tdiv_inRange {value : Int} (inRange : SInt.InRange 128 value) :
    SInt.InRange 128 (value.tdiv 10000) := by
  obtain ⟨lower, upper⟩ := inRange
  rcases Int.le_total 0 value with nonneg | negative
  · rw [Int.tdiv_eq_ediv_of_nonneg nonneg]
    constructor <;> omega
  · have mirrored : value.tdiv 10000 = -((-value) / 10000) := by
      rw [← Int.tdiv_eq_ediv_of_nonneg (by omega), Int.neg_tdiv, neg_neg]
    rw [mirrored]
    constructor <;> omega

/-- The fee of a nonnegative amount is its due. -/
theorem calculateFeeCeil_of_fits {bps : Bps} {amount : I128}
    (fits : Fits (amount.val * bps.value.toNat)) :
    ∃ fee, bps.calculateFeeCeil amount = some fee ∧
      (0 ≤ amount.val → fee.val = due (rateOf bps.value) amount.val) := by
  obtain ⟨numerator, found, value⟩ :=
    @ceilNumerator_of_fits amount bps.asI128 fits
  obtain ⟨lower, upper⟩ := tdiv_inRange numerator.inRange
  refine ⟨⟨numerator.val.tdiv 10000, lower, upper⟩, ?_, ?_⟩
  · rw [calculateFeeCeil_eq_bind, found, Option.bind_some, SInt.checkedDiv,
      if_neg (by decide)]
    exact SInt.ofInt?_eq_some.mpr rfl
  · intro nonneg
    have rate : bps.asI128.val = bps.value.toNat := rfl
    have product : 0 ≤ amount.val * bps.value.toNat :=
      mul_nonneg nonneg (Int.natCast_nonneg _)
    rw [due_rateOf]
    simp only [value, rate]
    exact Int.tdiv_eq_ediv_of_nonneg (by omega)

theorem val_clamp_zero {value most : I128} (room : 0 ≤ most.val) :
    (value.clamp .zero most).val = max 0 (min most.val value.val) := by
  have zero : (SInt.zero : I128).val = 0 := rfl
  rw [SInt.val_clamp, zero]
  omega

theorem val_max_zero_eq (gross : I128) :
    (gross.max .zero).val = max gross.val 0 := by
  have zero : (SInt.zero : I128).val = 0 := rfl
  rw [SInt.val_max, zero]
  omega

/-- Neither clamp has crossed bounds and neither subtraction saturates. -/
structure ClampsCleanly (gross platformFee networkFee : I128) : Prop where
  bounds : 0 ≤ (gross.max .zero).val
  platform : ((gross.max .zero).saturatingSub
      (platformFee.clamp .zero (gross.max .zero))).val =
    (gross.max .zero).val - (platformFee.clamp .zero (gross.max .zero)).val
  bounds' : 0 ≤ ((gross.max .zero).saturatingSub
      (platformFee.clamp .zero (gross.max .zero))).val
  network : (clampFeeLegs gross platformFee networkFee).2.2.val =
    (gross.max .zero).val - (clampFeeLegs gross platformFee networkFee).1.val -
      (clampFeeLegs gross platformFee networkFee).2.1.val

theorem clampsCleanly (gross platformFee networkFee : I128) :
    ClampsCleanly gross platformFee networkFee := by
  have top : 0 ≤ (gross.max .zero).val := by
    rw [val_max_zero_eq]
    exact le_max_right _ _
  obtain ⟨low, high⟩ := @val_clamp_bounds platformFee _ top
  have left := val_saturatingSub_of_le low high
  have room : 0 ≤ ((gross.max .zero).saturatingSub
      (platformFee.clamp .zero (gross.max .zero))).val := by
    rw [left]
    omega
  obtain ⟨low', high'⟩ := @val_clamp_bounds networkFee _ room
  refine ⟨top, left, room, ?_⟩
  simp only [clampFeeLegs]
  rw [val_saturatingSub_of_le low' high', left]

theorem clampFeeLegs_val (gross platformFee networkFee : I128) :
    (clampFeeLegs gross platformFee networkFee).1.val =
        max 0 (min (max gross.val 0) platformFee.val) ∧
      (clampFeeLegs gross platformFee networkFee).2.1.val =
        max 0 (min (max gross.val 0 -
          (clampFeeLegs gross platformFee networkFee).1.val)
            networkFee.val) ∧
      (clampFeeLegs gross platformFee networkFee).2.2.val =
        max gross.val 0 -
          (clampFeeLegs gross platformFee networkFee).1.val -
          (clampFeeLegs gross platformFee networkFee).2.1.val := by
  obtain ⟨top, left, room, payout⟩ :=
    clampsCleanly gross platformFee networkFee
  rw [val_max_zero_eq] at left payout
  refine ⟨?_, ?_, payout⟩
  · simp only [clampFeeLegs]
    rw [val_clamp_zero top, val_max_zero_eq]
  · simp only [clampFeeLegs]
    rw [val_clamp_zero room, left]

/-- A rate that fits makes every smaller one fit, on either side of zero. -/
theorem Fits.of_le {amount rate most : Int} (fits : Fits (amount * most))
    (nonneg : 0 ≤ rate) (ordered : rate ≤ most) : Fits (amount * rate) := by
  obtain ⟨lower, upper⟩ := fits
  rcases Int.le_total 0 amount with positive | negative
  · have least : 0 ≤ amount * rate := mul_nonneg positive nonneg
    have most := mul_le_mul_of_nonneg_left ordered positive
    constructor <;> omega
  · have least := mul_le_mul_of_nonpos_left ordered negative
    have most : amount * rate ≤ 0 := mul_nonpos_of_nonpos_of_nonneg negative
      nonneg
    constructor <;> omega

/-- The combined rate never falls back to the largest integer. -/
theorem checkedAdd_rates (rule : SettlementRule) :
    ∃ total, rule.platformBps.asI128.checkedAdd rule.networkBps.asI128 =
        some total ∧ total.val = totalBps rule := by
  have first := rule.platformFeeBps.toNat_lt
  have second := rule.networkFeeBps.toNat_lt
  refine ⟨⟨totalBps rule, ?_, ?_⟩, SInt.ofInt?_eq_some.mpr rfl, rfl⟩ <;>
    simp only [totalBps] <;> omega

theorem val_max_rates (rule : SettlementRule) :
    (rule.platformBps.asI128.max rule.networkBps.asI128).val =
      max (rule.platformFeeBps.toNat : Int) rule.networkFeeBps.toNat := by
  have first : rule.platformBps.asI128.val = rule.platformFeeBps.toNat := rfl
  have second : rule.networkBps.asI128.val = rule.networkFeeBps.toNat := rfl
  rw [SInt.val_max, first, second]
  omega

/-- A fee is clamped to what is left of the gross as its due is. -/
theorem clamped_fee_eq {bps : UInt32} {amount room fee : Int}
    (exact : 0 ≤ amount → fee = due (rateOf bps) amount) (low : 0 ≤ room)
    (high : room ≤ max amount 0) :
    max 0 (min room fee) = min room (due (rateOf bps) (max amount 0)) := by
  have nonneg := due_nonneg (rateOf_nonneg bps) (le_max_right amount 0)
  rcases Int.le_total 0 amount with positive | negative
  · rw [max_eq_left positive] at nonneg ⊢
    rw [exact positive]
    omega
  · omega

theorem exactSplit_of_fees {amount platformFee networkFee : I128}
    {rule : SettlementRule}
    (platform : 0 ≤ amount.val →
      platformFee.val = due (rateOf rule.platformFeeBps) amount.val)
    (network : 0 ≤ amount.val →
      networkFee.val = due (rateOf rule.networkFeeBps) amount.val) :
    ExactSplit amount rule
      { grossAmount := amount
        platformFeeAmount := (clampFeeLegs amount platformFee networkFee).1
        networkFeeAmount := (clampFeeLegs amount platformFee networkFee).2.1
        merchantPayoutAmount :=
          (clampFeeLegs amount platformFee networkFee).2.2 } := by
  obtain ⟨first, second, rest⟩ := clampFeeLegs_val amount platformFee networkFee
  generalize clampFeeLegs amount platformFee networkFee = legs
    at first second rest
  have whole := le_max_right amount.val 0
  have firstShare : legs.1.val =
      (feeRates rule).firstShare (max amount.val 0) :=
    first.trans (clamped_fee_eq platform whole (le_refl _))
  have secondShare : legs.2.1.val =
      (feeRates rule).secondShare (max amount.val 0) := by
    rw [second, clamped_fee_eq network (by omega) (by omega), firstShare]
    rfl
  refine ⟨rfl, firstShare, secondShare, ?_, ?_⟩
  · rw [Rates.ownerShare, Rates.taken, ← firstShare, ← secondShare]
    change legs.2.2.val = _
    omega
  · intro leg listed
    simp only [List.mem_cons, List.not_mem_nil, or_false] at listed
    rcases listed with rfl | rfl | rfl <;> omega

theorem calculateSplit_of_fits {amount : I128} {rule : SettlementRule}
    (fits : Fits (amount.val * totalBps rule)) :
    ∃ split, calculateSplit amount rule = .ok split ∧
      ExactSplit amount rule split := by
  obtain ⟨total, added, value⟩ := checkedAdd_rates rule
  have rates : totalBps rule =
    rule.platformFeeBps.toNat + rule.networkFeeBps.toNat := rfl
  obtain ⟨_, most, _⟩ := @ceilNumerator_of_fits amount
    (rule.platformBps.asI128.max rule.networkBps.asI128)
    (fits.of_le (by rw [val_max_rates]; omega)
      (by rw [val_max_rates]; omega))
  obtain ⟨_, sum, _⟩ :=
    @ceilNumerator_of_fits amount total (value ▸ fits)
  obtain ⟨platformFee, first, platform⟩ :=
    @calculateFeeCeil_of_fits rule.platformBps amount
      (fits.of_le (Int.natCast_nonneg _) (by
        change (rule.platformFeeBps.toNat : Int) ≤ _
        omega))
  obtain ⟨networkFee, second, network⟩ :=
    @calculateFeeCeil_of_fits rule.networkBps amount
      (fits.of_le (Int.natCast_nonneg _) (by
        change (rule.networkFeeBps.toNat : Int) ≤ _
        omega))
  refine ⟨_, ?_, exactSplit_of_fees platform network⟩
  simp only [calculateSplit, most, added, Option.getD_some, sum, first, second,
    orAmountOverflow]
  rfl

theorem calculateSplit_of_not_fits {amount : I128} {rule : SettlementRule}
    (wide : ¬ Fits (amount.val * totalBps rule)) :
    calculateSplit amount rule = .error .amountOverflow := by
  obtain ⟨total, added, value⟩ := checkedAdd_rates rule
  have sum := @ceilNumerator_eq_none amount total (by rw [value]; exact wide)
  cases most : ceilNumerator amount
      (rule.platformBps.asI128.max rule.networkBps.asI128) with
  | none => simp only [calculateSplit, most, orAmountOverflow]; rfl
  | some _ =>
      simp only [calculateSplit, most, added, Option.getD_some, sum,
        orAmountOverflow]
      rfl

/-- For every amount and every pair of rates the calculation overflows exactly
when the numerator of the combined rate does, and is exact otherwise. No step
of it saturates, and no clamp is given crossed bounds. -/
theorem calculateSplit_exact (amount : I128) (rule : SettlementRule) :
    (calculateSplit amount rule = .error .amountOverflow ↔
      amount.val * totalBps rule < -2 ^ 127 ∨
        2 ^ 127 - 1 < amount.val * totalBps rule + 9999) ∧
    ((∃ split, calculateSplit amount rule = .ok split ∧
        ExactSplit amount rule split) ↔
      -2 ^ 127 ≤ amount.val * totalBps rule ∧
        amount.val * totalBps rule + 9999 ≤ 2 ^ 127 - 1) ∧
    (rule.platformBps.asI128.checkedAdd
      rule.networkBps.asI128).isSome = true ∧
    ∀ platformFee networkFee,
      ClampsCleanly amount platformFee networkFee := by
  obtain ⟨total, added, _⟩ := checkedAdd_rates rule
  refine ⟨?_, ?_, by rw [added]; rfl, clampsCleanly amount⟩ <;>
    rcases Classical.em (Fits (amount.val * totalBps rule)) with fits | wide
  · obtain ⟨split, calculated, _⟩ := calculateSplit_of_fits fits
    obtain ⟨lower, upper⟩ := fits
    rw [calculated]
    simp only [reduceCtorEq, false_iff]
    omega
  · simp only [calculateSplit_of_not_fits wide, true_iff]
    simp only [Fits] at wide
    omega
  · exact ⟨fun _ => fits, fun _ => calculateSplit_of_fits fits⟩
  · simp only [calculateSplit_of_not_fits wide, reduceCtorEq, false_and,
      exists_false, false_iff]
    exact wide

/-! Rates of at most the whole. -/

theorem ExactSplit.of_ok {amount : I128} {rule : SettlementRule}
    {split : FeeSplit} (calculated : calculateSplit amount rule = .ok split) :
    Fits (amount.val * totalBps rule) ∧ ExactSplit amount rule split := by
  rcases Classical.em (Fits (amount.val * totalBps rule)) with fits | wide
  · obtain ⟨found, made, exact⟩ := calculateSplit_of_fits fits
    rw [calculated] at made
    cases made
    exact ⟨fits, exact⟩
  · rw [calculateSplit_of_not_fits wide] at calculated
    cases calculated

theorem feeRates_affordable {rule : SettlementRule}
    (affordable : totalBps rule ≤ 10000) :
    (feeRates rule).first + (feeRates rule).second ≤ 1 := by
  have total : ((totalBps rule : Int) : ℚ) ≤ 10000 := by
    exact_mod_cast affordable
  simp only [totalBps] at total
  push_cast at total
  simp only [feeRates, rateOf]
  linarith

/-- The dues of the two fees do not fit into the amount. -/
def FeesClamped (rule : SettlementRule) (amount : I128) : Prop :=
  due (rateOf rule.platformFeeBps) amount.val +
    due (rateOf rule.networkFeeBps) amount.val = amount.val + 1

/-- How far the legs are from the exact fractions of the amount. -/
structure RoundingBounds (amount : I128) (rule : SettlementRule)
    (split : FeeSplit) : Prop where
  platform : split.platformFeeAmount.val =
    due (rateOf rule.platformFeeBps) amount.val
  networkDue : ¬ FeesClamped rule amount →
    split.networkFeeAmount.val = due (rateOf rule.networkFeeBps) amount.val
  networkClamped : FeesClamped rule amount →
    split.networkFeeAmount.val =
      due (rateOf rule.networkFeeBps) amount.val - 1
  platformExcess : (split.platformFeeAmount.val : ℚ) <
    amount.val * rateOf rule.platformFeeBps + 1
  networkExcess : (split.networkFeeAmount.val : ℚ) <
    amount.val * rateOf rule.networkFeeBps + 1
  networkShortfall : (amount.val : ℚ) * rateOf rule.networkFeeBps - 1 <
    split.networkFeeAmount.val
  payoutAtMost : (split.merchantPayoutAmount.val : ℚ) ≤
    amount.val * ((10000 - totalBps rule) / 10000)
  payoutShortfall : (amount.val : ℚ) * ((10000 - totalBps rule) / 10000) -
    split.merchantPayoutAmount.val < 2
  platformRate : 100 ≤ amount.val →
    (split.platformFeeAmount.val : ℚ) * 10000 / amount.val <
      rule.platformFeeBps.toNat + 100
  networkRate : 100 ≤ amount.val →
    (split.networkFeeAmount.val : ℚ) * 10000 / amount.val <
      rule.networkFeeBps.toNat + 100

/-- One unit is at most a hundred basis points of a hundred units. -/
theorem effectiveRate_lt {bps : UInt32} {amount fee : Int}
    (large : 100 ≤ amount) (excess : (fee : ℚ) < amount * rateOf bps + 1) :
    (fee : ℚ) * 10000 / amount < bps.toNat + 100 := by
  have hundred : (100 : ℚ) ≤ amount := by exact_mod_cast large
  rw [div_lt_iff₀ (by linarith)]
  rw [rateOf] at excess
  have scaled : (fee : ℚ) * 10000 < amount * bps.toNat + 10000 := by
    linarith
  nlinarith

/-- When the rates are at most the whole, the platform gets its fee rounded up
and the network the same or one unit less. -/
theorem split_rounding {amount : I128} {rule : SettlementRule}
    {split : FeeSplit} (nonneg : 0 ≤ amount.val)
    (affordable : totalBps rule ≤ 10000)
    (calculated : calculateSplit amount rule = .ok split) :
    RoundingBounds amount rule split := by
  obtain ⟨_, exact⟩ := ExactSplit.of_ok calculated
  have rates := feeRates_affordable affordable
  have platform := exact.platform
  have network := exact.network
  have payout := exact.payout
  rw [max_eq_left nonneg] at platform network payout
  rw [firstShare_eq rates nonneg] at platform
  have reduced := secondShare_cases rates nonneg
  rw [← network, Rates.Clamped] at reduced
  have platformExcess : (split.platformFeeAmount.val : ℚ) <
      amount.val * rateOf rule.platformFeeBps + 1 := by
    rw [platform]
    exact (due_bounds _ _).2
  have networkExcess : (split.networkFeeAmount.val : ℚ) <
      amount.val * rateOf rule.networkFeeBps + 1 := by
    rw [network]
    exact secondShare_lt rates nonneg
  have share : (10000 - totalBps rule : ℚ) / 10000 =
      1 - ((feeRates rule).first + (feeRates rule).second) := by
    simp only [totalBps, feeRates, rateOf]
    push_cast
    ring
  obtain ⟨most, least⟩ := ownerShare_bounds rates nonneg
  exact
    { platform := platform
      networkDue := fun fits => by
        rcases reduced with ⟨same, _⟩ | ⟨_, clamped⟩
        · exact same
        · exact absurd clamped fits
      networkClamped := fun clamped => by
        rcases reduced with ⟨_, fits⟩ | ⟨less, _⟩
        · exact absurd clamped fits
        · exact less
      platformExcess := platformExcess
      networkExcess := networkExcess
      networkShortfall := by
        rw [network]
        exact secondShare_gt rates nonneg
      payoutAtMost := by
        rw [payout, share]
        exact most
      payoutShortfall := by
        rw [payout, share]
        linarith
      platformRate := fun large => effectiveRate_lt large platformExcess
      networkRate := fun large => effectiveRate_lt large networkExcess }

theorem split_rounding_odd :
    ∃ split, calculateSplit ⟨101, by decide, by decide⟩
        ⟨5000, 5000, 0, false⟩ = .ok split ∧
      FeesClamped ⟨5000, 5000, 0, false⟩ ⟨101, by decide, by decide⟩ ∧
      RoundingBounds ⟨101, by decide, by decide⟩
        ⟨5000, 5000, 0, false⟩ split := by
  refine ⟨_, rfl, ?_, split_rounding (by decide) (by decide) rfl⟩
  simp only [FeesClamped, due_rateOf]
  decide

/-! An amount against a larger one, and against its parts. -/

def FeeSplit.fees (split : FeeSplit) : Int :=
  split.platformFeeAmount.val + split.networkFeeAmount.val

structure Grows (smaller larger : FeeSplit) : Prop where
  platform : smaller.platformFeeAmount.val ≤ larger.platformFeeAmount.val
  network : smaller.networkFeeAmount.val ≤ larger.networkFeeAmount.val
  payout : smaller.merchantPayoutAmount.val - 1 ≤
    larger.merchantPayoutAmount.val

/-- What is saved by paying two parts instead of the whole. -/
structure Parts (whole left right : FeeSplit) (clamped : Prop) : Prop where
  platform : whole.platformFeeAmount.val ≤
    left.platformFeeAmount.val + right.platformFeeAmount.val
  platformAtMost :
    left.platformFeeAmount.val + right.platformFeeAmount.val ≤
      whole.platformFeeAmount.val + 1
  fees : whole.fees - 1 ≤ left.fees + right.fees
  unsaved : ¬ clamped → whole.fees ≤ left.fees + right.fees

theorem ExactSplit.shares {amount : I128} {rule : SettlementRule}
    {split : FeeSplit} (exact : ExactSplit amount rule split)
    (nonneg : 0 ≤ amount.val) :
    split.platformFeeAmount.val = (feeRates rule).firstShare amount.val ∧
      split.networkFeeAmount.val =
        (feeRates rule).secondShare amount.val ∧
      split.merchantPayoutAmount.val =
        (feeRates rule).ownerShare amount.val ∧
      split.fees = (feeRates rule).taken amount.val := by
  have platform := exact.platform
  have network := exact.network
  have payout := exact.payout
  rw [max_eq_left nonneg] at platform network payout
  refine ⟨platform, network, payout, ?_⟩
  rw [FeeSplit.fees, platform, network, Rates.taken]

theorem calculateSplit_grows {smaller larger : I128} {rule : SettlementRule}
    {split split' : FeeSplit} (affordable : totalBps rule ≤ 10000)
    (nonneg : 0 ≤ smaller.val) (ordered : smaller.val ≤ larger.val)
    (calculated : calculateSplit smaller rule = .ok split)
    (calculated' : calculateSplit larger rule = .ok split') :
    Grows split split' := by
  have rates := feeRates_affordable affordable
  obtain ⟨platform, network, payout, _⟩ :=
    (ExactSplit.of_ok calculated).2.shares nonneg
  obtain ⟨platform', network', payout', _⟩ :=
    (ExactSplit.of_ok calculated').2.shares (nonneg.trans ordered)
  constructor
  · rw [platform, platform']
    exact firstShare_mono rates nonneg ordered
  · rw [network, network']
    exact secondShare_mono rates nonneg ordered
  · rw [payout, payout']
    exact ownerShare_le rates nonneg ordered

/-- Parts of an amount that does not overflow do not overflow. -/
theorem calculateSplit_part {part whole : I128} {rule : SettlementRule}
    (nonneg : 0 ≤ part.val) (ordered : part.val ≤ whole.val)
    (fits : Fits (whole.val * totalBps rule)) :
    ∃ split, calculateSplit part rule = .ok split ∧
      ExactSplit part rule split := by
  have rate : 0 ≤ totalBps rule := by
    simp only [totalBps]
    omega
  apply calculateSplit_of_fits
  rw [mul_comm] at fits ⊢
  exact fits.of_le nonneg ordered

theorem calculateSplit_parts {left right whole : I128} {rule : SettlementRule}
    {split : FeeSplit} (affordable : totalBps rule ≤ 10000)
    (nonneg : 0 ≤ left.val) (nonneg' : 0 ≤ right.val)
    (sum : whole.val = left.val + right.val)
    (calculated : calculateSplit whole rule = .ok split) :
    ∃ first second, calculateSplit left rule = .ok first ∧
      calculateSplit right rule = .ok second ∧
      Parts split first second
        (FeesClamped rule left ∨ FeesClamped rule right) := by
  have rates := feeRates_affordable affordable
  obtain ⟨fits, exact⟩ := ExactSplit.of_ok calculated
  obtain ⟨first, made, exact'⟩ :=
    calculateSplit_part nonneg (by omega) fits
  obtain ⟨second, made', exact''⟩ :=
    calculateSplit_part nonneg' (by omega) fits
  obtain ⟨platform, _, _, fees⟩ := exact.shares (by omega)
  obtain ⟨platform', _, _, fees'⟩ := exact'.shares nonneg
  obtain ⟨platform'', _, _, fees''⟩ := exact''.shares nonneg'
  rw [firstShare_eq rates (by omega), sum] at platform
  rw [firstShare_eq rates nonneg] at platform'
  rw [firstShare_eq rates nonneg'] at platform''
  rw [sum] at fees
  have least := due_add_le (feeRates rule).first left.val right.val
  have most := due_add_due_le (feeRates rule).first left.val right.val
  obtain ⟨saved, unsaved⟩ := taken_add_le rates nonneg nonneg'
  refine ⟨first, second, made, made', ?_, ?_, ?_, ?_⟩
  · omega
  · omega
  · omega
  · intro neither
    have whole := unsaved (fun clamped => neither (.inl clamped))
      (fun clamped => neither (.inr clamped))
    omega

/-- A larger amount never pays a smaller fee on either leg and pays the
merchant one unit less at most; and paying an amount in two parts never lowers
the platform fee, and saves one unit at most, none when neither part is
clamped. -/
theorem split_monotone_and_subadditive {rule : SettlementRule}
    (affordable : totalBps rule ≤ 10000) :
    (∀ smaller larger split split', 0 ≤ smaller.val →
      smaller.val ≤ larger.val →
      calculateSplit smaller rule = .ok split →
      calculateSplit larger rule = .ok split' → Grows split split') ∧
    ∀ left right whole split, 0 ≤ left.val → 0 ≤ right.val →
      whole.val = left.val + right.val →
      calculateSplit whole rule = .ok split →
      ∃ first second, calculateSplit left rule = .ok first ∧
        calculateSplit right rule = .ok second ∧
        Parts split first second
          (FeesClamped rule left ∨ FeesClamped rule right) :=
  ⟨fun _ _ _ _ => calculateSplit_grows affordable,
    fun _ _ _ _ => calculateSplit_parts affordable⟩

theorem split_monotone_and_subadditive_saves :
    ∃ first second,
      calculateSplit ⟨1, by decide, by decide⟩ ⟨5000, 4999, 0, false⟩ =
        .ok first ∧
      calculateSplit ⟨10000, by decide, by decide⟩
        ⟨5000, 4999, 0, false⟩ = .ok second ∧
      first.fees + second.fees = 10000 ∧
      ∃ split, calculateSplit ⟨10001, by decide, by decide⟩
          ⟨5000, 4999, 0, false⟩ = .ok split ∧ split.fees = 10001 ∧
        Parts split first second
          (FeesClamped ⟨5000, 4999, 0, false⟩ ⟨1, by decide, by decide⟩ ∨
            FeesClamped ⟨5000, 4999, 0, false⟩
              ⟨10000, by decide, by decide⟩) := by
  obtain ⟨first, second, made, made', divided⟩ :=
    (split_monotone_and_subadditive (by decide)).2
      ⟨1, by decide, by decide⟩ ⟨10000, by decide, by decide⟩
      ⟨10001, by decide, by decide⟩ _ (by decide) (by decide) (by decide)
      (rfl : calculateSplit _ ⟨5000, 4999, 0, false⟩ = _)
  refine ⟨first, second, made, made', ?_, _, rfl, rfl, divided⟩
  cases made
  cases made'
  rfl

end BettaPay.Settlement
