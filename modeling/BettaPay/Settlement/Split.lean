import BettaPay.Settlement.Payments

namespace BettaPay.Settlement

open BettaPay.Host
open BettaPay.Common

/-! The fee split conserves the amount. -/

theorem orAmountOverflow_ok {value : Option α} {found : α} :
    orAmountOverflow value = .ok found ↔ value = some found := by
  cases value <;> simp [orAmountOverflow]

/-- The split of a successful calculation is made of the clamped legs. -/
theorem calculateSplit_ok {amount : I128} {rule : SettlementRule}
    {split : FeeSplit} (calculated : calculateSplit amount rule = .ok split) :
    ∃ platformFee networkFee,
      split.grossAmount = amount ∧
      (split.platformFeeAmount, split.networkFeeAmount,
        split.merchantPayoutAmount) =
        clampFeeLegs amount platformFee networkFee := by
  simp only [calculateSplit, except_bind_ok, orAmountOverflow_ok]
    at calculated
  obtain ⟨_, _, _, _, platformFee, _, networkFee, _, made⟩ := calculated
  cases made
  exact ⟨platformFee, networkFee, rfl, rfl⟩

/-- The three legs are nonnegative and make up the gross. -/
structure Conserves (gross : I128) (legs : I128 × I128 × I128) : Prop where
  platform : 0 ≤ legs.1.val
  network : 0 ≤ legs.2.1.val
  payout : 0 ≤ legs.2.2.val
  total : legs.1.val + legs.2.1.val + legs.2.2.val = gross.val

theorem val_max_zero {gross : I128} (nonnegative : 0 ≤ gross.val) :
    (gross.max .zero).val = gross.val := by
  rw [SInt.val_max]
  split
  · rename_i least
    exact Int.le_antisymm nonnegative least
  · rfl

theorem val_clamp_bounds {value most : I128} (room : 0 ≤ most.val) :
    0 ≤ (value.clamp .zero most).val ∧
      (value.clamp .zero most).val ≤ most.val := by
  have zero : (SInt.zero : I128).val = 0 := rfl
  rw [SInt.val_clamp, zero]
  split
  · exact ⟨Int.le_refl 0, room⟩
  · split <;> constructor <;> omega

theorem val_saturatingSub_of_le {left right : I128} (low : 0 ≤ right.val)
    (high : right.val ≤ left.val) :
    (left.saturatingSub right).val = left.val - right.val := by
  apply SInt.val_saturatingSub
  have lower := left.lower
  have upper := left.upper
  constructor <;> omega

theorem clampFeeLegs_conserves {gross platformFee networkFee : I128}
    (nonnegative : 0 ≤ gross.val) :
    Conserves gross (clampFeeLegs gross platformFee networkFee) := by
  have top := val_max_zero nonnegative
  obtain ⟨platformLow, platformHigh⟩ :=
    @val_clamp_bounds platformFee (gross.max .zero) (top ▸ nonnegative)
  have rest := val_saturatingSub_of_le platformLow platformHigh
  obtain ⟨networkLow, networkHigh⟩ := @val_clamp_bounds networkFee
    ((gross.max .zero).saturatingSub
      (platformFee.clamp .zero (gross.max .zero))) (by omega)
  have payout := val_saturatingSub_of_le networkLow networkHigh
  refine ⟨platformLow, networkLow, ?_, ?_⟩ <;>
    simp only [clampFeeLegs] <;> omega

/-- What is paid out by a split of a nonnegative amount is that amount. -/
theorem calculateSplit_conserves {amount : I128} {rule : SettlementRule}
    {split : FeeSplit} (nonnegative : 0 ≤ amount.val)
    (calculated : calculateSplit amount rule = .ok split) :
    split.grossAmount = amount ∧
      Conserves amount (split.platformFeeAmount, split.networkFeeAmount,
        split.merchantPayoutAmount) := by
  obtain ⟨platformFee, networkFee, gross, legs⟩ := calculateSplit_ok calculated
  rw [legs]
  exact ⟨gross, clampFeeLegs_conserves nonnegative⟩

end BettaPay.Settlement
