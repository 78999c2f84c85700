import BettaPay.Governance.Effect

namespace BettaPay.Governance

open BettaPay.Host
open BettaPay.Common

/-! The parameter store: fee configuration, system parameters, anchors. -/

/-- What the store may hold. -/
structure Lawful (state : State) : Prop where
  fees : ∀ config, state.feeConfig = some config →
    FeesInRange config.platformFeeBps config.networkFeeBps
  param : ∀ key value, state.systemParam key = some value → 0 ≤ value.val
  bypass : ∀ value, state.systemParam bypassGovFeesParam = some value →
    value.val = 0 ∨ value.val = 1
  anchor : ∀ asset anchor, state.anchor asset = some anchor →
    asset ≠ zeroAddress ∧ anchor ≠ zeroAddress ∧ asset ≠ anchor

/-- The whole store is the same in both states. -/
structure SameParameters (before after : State) : Prop where
  fees : after.feeConfig = before.feeConfig
  params : after.systemParam = before.systemParam
  anchors : after.anchor = before.anchor

theorem BoundedFees.inRange {config : FeeConfig}
    (bounded : BoundedFees config) :
    FeesInRange config.platformFeeBps config.networkFeeBps :=
  .of_legs bounded.platformAtLeast bounded.platformAtMost
    bounded.networkAtLeast bounded.networkAtMost

theorem Lawful.initial : Lawful State.initial where
  fees := by simp [State.initial]
  param := by simp [State.initial]
  bypass := by simp [State.initial]
  anchor := by simp [State.initial]

theorem Lawful.of_same {before after : State} (lawful : Lawful before)
    (same : SameParameters before after) : Lawful after where
  fees := by
    rw [same.fees]
    exact lawful.fees
  param := by
    rw [same.params]
    exact lawful.param
  bypass := by
    rw [same.params]
    exact lawful.bypass
  anchor := by
    rw [same.anchors]
    exact lawful.anchor

variable {env : Ledger} {before after : State} {call : Call}

/-- A parameter of the updated store is the new one or an old one. -/
theorem update_param_cases {key other : Symbol} {value found : I128}
    (stored : Function.update before.systemParam key (some value) other =
      some found) :
    other = key ∧ found = value ∨
      before.systemParam other = some found := by
  rw [Function.update_apply] at stored
  split at stored
  · rename_i same
    exact .inl ⟨same, (Option.some.inj stored).symm⟩
  · exact .inr stored

theorem Effect.lawful (effect : Effect env before call after)
    (lawful : Lawful before) : Lawful after := by
  cases effect with
  | updateSystemParam unpaused quorum nonnegative flag =>
      refine ⟨lawful.fees, ?_, ?_, lawful.anchor⟩
      · intro other found stored
        rcases update_param_cases stored with ⟨_, rfl⟩ | kept
        · exact nonnegative
        · exact lawful.param other found kept
      · intro found stored
        rcases update_param_cases stored with ⟨same, rfl⟩ | kept
        · have small := flag same.symm
          omega
        · exact lawful.bypass found kept
  | setFeeConfig unpaused quorum bounded =>
      refine ⟨?_, lawful.param, lawful.bypass, lawful.anchor⟩
      intro config stored
      cases stored
      exact bounded.inRange
  | upsertAnchor unpaused quorum assetNonzero anchorNonzero distinct =>
      refine ⟨lawful.fees, lawful.param, lawful.bypass, ?_⟩
      intro other found stored
      simp only [State.publish_anchor, Function.update_apply] at stored
      split at stored
      · rename_i same
        cases stored
        subst same
        exact ⟨assetNonzero, anchorNonzero, distinct⟩
      · exact lawful.anchor other found stored
  | removeAnchor unpaused quorum =>
      refine ⟨lawful.fees, lawful.param, lawful.bypass, ?_⟩
      intro other found stored
      simp only [State.publish_anchor, Function.update_apply] at stored
      split at stored
      · cases stored
      · exact lawful.anchor other found stored
  | _ => exact lawful.of_same ⟨rfl, rfl, rfl⟩

theorem Reachable.lawful {state : State} (reachable : Reachable state) :
    Lawful state :=
  reachable.induction Lawful .initial
    (fun lawful succeeded => (invoke_effect succeeded).lawful lawful)

/-- Every call leaves the store alone, or the contract is not paused and a
quorum signed. -/
theorem Effect.parameters (effect : Effect env before call after) :
    SameParameters before after ∨
      before.isPaused = false ∧
        ∃ signers, before.authority.Quorum env signers := by
  cases effect with
  | updateSystemParam unpaused quorum => exact .inr ⟨unpaused, _, quorum⟩
  | setFeeConfig unpaused quorum => exact .inr ⟨unpaused, _, quorum⟩
  | upsertAnchor unpaused quorum => exact .inr ⟨unpaused, _, quorum⟩
  | removeAnchor unpaused quorum => exact .inr ⟨unpaused, _, quorum⟩
  | _ => exact .inl ⟨rfl, rfl, rfl⟩

/-- In every reachable state the fee legs lie between 5 and 5000 basis points
and sum to at most 10000, no parameter is negative, the bypass flag is 0 or 1,
and anchors map nonzero assets to other nonzero addresses; and whatever call
commits there, an upgrade included, leaves the store as it was while the
contract is paused, and unless at least `Threshold` distinct admins of that
moment authorized it. -/
theorem parameter_store_lawful (state : State)
    (reachable : Reachable state) :
    Lawful state ∧
      ∀ (env : Ledger) (call : Call) (reply : Reply) (after : State),
        invoke env call state = .ok (reply, after) →
        (state.isPaused = true ∨
          ¬ ∃ signers, state.authority.Quorum env signers) →
        SameParameters state after := by
  refine ⟨reachable.lawful, ?_⟩
  intro env call reply after succeeded refused
  rcases (invoke_effect succeeded).parameters with same | ⟨unpaused, signed⟩
  · exact same
  · rcases refused with paused | unsigned
    · rw [paused] at unpaused
      cases unpaused
    · exact absurd signed unsigned

/-- A fee configuration and the bypass flag are set, then the contract is
paused. -/
def sampleParameterRun : List Input :=
  [⟨.granting 0, .init (.account 9) [.account 1] 1 (.account 2)⟩,
    ⟨.granting 100, .setFeeConfig [.account 1] ⟨250, 50⟩⟩,
    ⟨.granting 200, .updateSystemParam [.account 1] bypassGovFeesParam
      ⟨1, by decide, by decide⟩⟩,
    ⟨.granting 300, .upsertAnchor [.account 1] (.contract 3) (.contract 4)⟩,
    ⟨.granting 400, .pause [.account 1]⟩]

theorem parameter_store_lawful_sample :
    (run step State.initial sampleParameterRun).isPaused = true ∧
      (run step State.initial sampleParameterRun).feeConfig =
        some ⟨250, 50⟩ ∧
      Lawful (run step State.initial sampleParameterRun) :=
  ⟨by decide, by decide, (parameter_store_lawful _ ⟨_, rfl⟩).1⟩

end BettaPay.Governance
