import BettaPay.Settlement.Resolution

namespace BettaPay.Settlement

open BettaPay.Host
open BettaPay.Common

/-! The fee ceiling of governance is checked where a rule is written. -/

/-- Neither leg exceeds the configured one. -/
structure Capped (rule : SettlementRule) (ceiling : GovFeeConfig) :
    Prop where
  platform : rule.platformFeeBps ≤ ceiling.platformFeeBps
  network : rule.networkFeeBps ≤ ceiling.networkFeeBps

/-- Governance answered, and the rule is within what it answered. -/
structure CeilingChecked (env : Env) (state : State)
    (rule : SettlementRule) : Prop where
  checked : ∃ governance rawVal config,
    state.governance = some governance ∧
    (env.governance governance).getFeeConfig = .value rawVal ∧
    classifyGovernanceFeeConfig rawVal = .ok config ∧
    ∀ ceiling, config = some ceiling → Capped rule ceiling

theorem checkFeeCeiling_capped {rule : SettlementRule}
    {config : Option GovFeeConfig} {before after : State} {result : Unit}
    (succeeded : checkFeeCeiling rule config before = .ok (result, after))
    (ceiling : GovFeeConfig) (configured : config = some ceiling) :
    Capped rule ceiling := by
  subst configured
  simp only [checkFeeCeiling, Tx.ite_ok, Tx.bind_ok, reject_ok, and_false,
    exists_false, false_or, not_or, UInt32.not_lt] at succeeded
  exact ⟨succeeded.1.1, succeeded.1.2⟩

theorem validateFeeAgainstGovernance_checked {env : Env}
    {rule : SettlementRule} {before after : State} {result : Unit}
    (succeeded : validateFeeAgainstGovernance env rule before =
      .ok (result, after)) : CeilingChecked env before rule := by
  simp only [validateFeeAgainstGovernance, tryReadGovernanceFeeConfig,
    Tx.bind_ok, readGovernance_ok, invokeGovernanceGetFeeConfig_ok,
    orRaise_ok] at succeeded
  obtain ⟨governance, _, ⟨configured, rfl⟩, rawVal, _, ⟨answer, rfl⟩, config,
    _, ⟨classified, rfl⟩, checked⟩ := succeeded
  exact ⟨governance, rawVal, config, configured, answer, classified,
    checkFeeCeiling_capped checked⟩

/-- The rule an operation stores. -/
def Operation.storesRule : Operation → Option SettlementRule
  | .setSettlementRule _ rule => some rule
  | .setDefaultRule rule => some rule
  | _ => none

theorem dispatch_ceilingChecked {env : Env} {executor : Address}
    {operation : Operation} {rule : SettlementRule} {before after : State}
    {result : Unit}
    (succeeded : dispatch env executor operation before =
      .ok (result, after))
    (stores : operation.storesRule = some rule) :
    CeilingChecked env before rule := by
  cases operation with
  | setSettlementRule merchant stored =>
      cases stores
      simp only [dispatch, Timelocked.setSettlementRule, Tx.bind_ok,
        assertNotPaused_ok] at succeeded
      obtain ⟨_, _, ⟨_, rfl⟩, _, _, checked, _⟩ := succeeded
      exact validateFeeAgainstGovernance_checked checked
  | setDefaultRule stored =>
      cases stores
      simp only [dispatch, Timelocked.setDefaultRule, Tx.bind_ok,
        assertNotPaused_ok] at succeeded
      obtain ⟨_, _, ⟨_, rfl⟩, _, _, checked, _⟩ := succeeded
      exact validateFeeAgainstGovernance_checked checked
  | _ => cases stores

/-- Whichever path stores a rule, the ceiling of that moment was checked. -/
theorem invoke_ceilingChecked {codec : Codec} {env : Env} {call : Call}
    {operation : Operation} {rule : SettlementRule} {before after : State}
    {reply : Reply}
    (succeeded : invoke codec env call before = .ok (reply, after))
    (carried : call.operation = some operation)
    (stores : operation.storesRule = some rule) :
    CeilingChecked env before rule := by
  cases call
  case execute executor _ =>
    cases carried
    obtain ⟨_, ran, _⟩ := replying_ok.mp succeeded
    simp only [execute, Tx.bind_ok, consumeScheduledOperation_ok] at ran
    obtain ⟨_, _, validated, _, _, rfl, _, _, dispatched, _⟩ := ran
    obtain ⟨_, _, _, _, _, _, rfl⟩ :=
      validateScheduledExecution_ok validated
    obtain ⟨checked⟩ := dispatch_ceilingChecked dispatched stores
    exact ⟨checked⟩
  case setSettlementRule signers merchant stored =>
    cases carried
    cases stores
    obtain ⟨_, ran, _⟩ := replying_ok.mp succeeded
    simp only [setSettlementRule, Tx.bind_ok, assertAdminAndNotPaused_ok,
      unwrapFirst_ok, validateNonzeroAddress_ok] at ran
    obtain ⟨_, _, ⟨_, rfl⟩, _, _, ⟨_, rfl⟩, _, _, ⟨_, rfl⟩, _, _, looked, _,
      _, bounded, _, _, checked, _⟩ := ran
    obtain ⟨_, live, rfl⟩ := assertMerchantRegistered_ok looked
    obtain ⟨_, rfl⟩ := validateRuleBounds_ok bounded
    obtain ⟨capped⟩ := validateFeeAgainstGovernance_checked checked
    exact ⟨capped⟩
  case setDefaultRule signers stored =>
    cases carried
    cases stores
    obtain ⟨_, ran, _⟩ := replying_ok.mp succeeded
    simp only [setDefaultRule, Tx.bind_ok, assertAdminAndNotPaused_ok,
      unwrapFirst_ok] at ran
    obtain ⟨_, _, ⟨_, rfl⟩, _, _, ⟨_, rfl⟩, _, _, bounded, _, _, checked,
      _⟩ := ran
    obtain ⟨_, rfl⟩ := validateRuleBounds_ok bounded
    exact validateFeeAgainstGovernance_checked checked
  all_goals cases carried
  all_goals cases stores

/-! Which calls move the default rule and the governance address. -/

theorem Applied.defaultRule_set {env : Env} {state after : State}
    {actor : Address} {operation : Operation}
    (applied : Applied env state actor operation after) :
    after.defaultRule = state.defaultRule ∨
      ∃ rule, operation = .setDefaultRule rule ∧
        after.defaultRule = some rule := by
  cases applied <;> first
    | exact .inl rfl
    | exact .inr ⟨_, rfl, rfl⟩

theorem Applied.governance_set {env : Env} {state after : State}
    {actor : Address} {operation : Operation}
    (applied : Applied env state actor operation after) :
    after.governance = state.governance ∨
      ∃ newGovernance, operation = .updateGovernance newGovernance ∧
        after.governance = some newGovernance := by
  cases applied <;> first
    | exact .inl rfl
    | exact .inr ⟨_, rfl, rfl⟩

theorem Effect.defaultRule_set {codec : Codec} {env : Env}
    {state after : State} {call : Call}
    (effect : Effect codec env state call after) :
    after.defaultRule = state.defaultRule ∨
      ∃ rule, call.operation = some (.setDefaultRule rule) ∧
        after.defaultRule = some rule := by
  cases effect with
  | execute queued unpaused matured unvetoed applied =>
      rcases applied.defaultRule_set with kept | ⟨rule, rfl, set⟩
      · exact .inl kept
      · exact .inr ⟨rule, rfl, set⟩
  | cancelAll quorum unpaused bounded drained =>
      obtain ⟨slots, counter, rfl⟩ := drained.unchanged
      exact .inl rfl
  | administer direct quorum unpaused agreed prepared applied =>
      subst prepared
      rcases applied.defaultRule_set with kept | ⟨rule, rfl, set⟩
      · exact .inl kept
      · exact .inr ⟨rule, Call.operation_of_administers direct, set⟩
  | prunePayments quorum bounded pruned counted =>
      have table := pruned.table
      subst table
      exact .inl rfl
  | _ => exact .inl rfl

/-- The governance address comes from `init` or from an update of it. -/
theorem Effect.governance_set {codec : Codec} {env : Env}
    {state after : State} {call : Call}
    (effect : Effect codec env state call after) :
    after.governance = state.governance ∨
      state.admin = none ∧ after.rule = state.rule ∧
        after.defaultRule = state.defaultRule ∧
        after.cachedGovRule = state.cachedGovRule ∨
      ∃ newGovernance,
        call.operation = some (.updateGovernance newGovernance) ∧
        after.governance = some newGovernance := by
  cases effect with
  | init uninitialized => exact .inr (.inl ⟨uninitialized, rfl, rfl, rfl⟩)
  | execute queued unpaused matured unvetoed applied =>
      rcases applied.governance_set with kept | ⟨address, rfl, set⟩
      · exact .inl kept
      · exact .inr (.inr ⟨address, rfl, set⟩)
  | cancelAll quorum unpaused bounded drained =>
      obtain ⟨slots, counter, rfl⟩ := drained.unchanged
      exact .inl rfl
  | administer direct quorum unpaused agreed prepared applied =>
      subst prepared
      rcases applied.governance_set with kept | ⟨address, rfl, set⟩
      · exact .inl kept
      · exact .inr (.inr ⟨address, Call.operation_of_administers direct,
          set⟩)
  | prunePayments quorum bounded pruned counted =>
      have table := pruned.table
      subst table
      exact .inl rfl
  | _ => exact .inl rfl

end BettaPay.Settlement
