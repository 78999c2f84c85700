import BettaPay.Settlement.Ceiling
import BettaPay.Settlement.Pause

namespace BettaPay.Settlement

open BettaPay.Host
open BettaPay.Host.Tx (readState writeState)
open BettaPay.Common

/-! Which of two reasons to fail a call reports: the pause switch or the
signers. -/

/-- The admin calls a paused contract refuses, with their signers. -/
def Call.refusedWhenPaused : Call → Option (List Address)
  | .updateGovernance signers _ => some signers
  | .registerMerchant signers _ => some signers
  | .unregisterMerchant signers _ => some signers
  | .setSettlementRule signers _ _ => some signers
  | .clearSettlementRule signers _ => some signers
  | .setDefaultRule signers _ => some signers
  | .prunePayment signers _ _ => some signers
  | .schedule signers _ _ => some signers
  | .cancel signers _ => some signers
  | .cancelAll signers _ => some signers
  | .migrate signers => some signers
  | _ => none

/-- The calls that verify their signers before they look at the switch. -/
def Call.authorizesFirst : Call → Bool
  | .cancel _ _ => true
  | .cancelAll _ _ => true
  | .migrate _ => true
  | _ => false

theorem assertNotPaused_of_paused {state : State}
    (paused : state.isPaused = true) :
    assertNotPaused state = .error (.error .paused) := by
  simp [assertNotPaused, paused]

theorem checkSigners_avoids_paused {ledger : Ledger}
    {admins signers : List Address} {state : State} :
    Tx.Avoids (.error .paused)
      (checkSigners ledger admins SettlementError.unauthorized signers)
      state := by
  induction signers generalizing state with
  | nil => exact Tx.avoids_pure
  | cons signer rest induction =>
      simp [checkSigners, rejectIf, requireAuth, induction]

theorem verifyThresholdAuth_avoids_paused {env : Env}
    {signers : List Address} {state : State} :
    Tx.Avoids (.error .paused) (verifyThresholdAuth env signers) state := by
  simp [verifyThresholdAuth, verifyAdminAuth, readThreshold, readAdmins,
    orReject, rejectIf, checkSigners_avoids_paused]

/-- Signers that are verified first hide the switch unless they are a
quorum. -/
theorem authorized_then_paused {env : Env} {signers : List Address}
    {state : State} {α : Type} {rest : Unit → Contract α}
    (paused : state.isPaused = true) :
    (verifyThresholdAuth env signers >>= fun _ =>
        assertNotPaused >>= rest) state = .error (.error .paused) ↔
      state.authority.Quorum env.toLedger signers := by
  constructor
  · intro failed
    rcases Tx.bind_error.mp failed with refused | ⟨_, _, verified, _⟩
    · exact absurd refused verifyThresholdAuth_avoids_paused
    · exact (verifyThresholdAuth_ok.mp verified).1
  · intro quorum
    have verified : verifyThresholdAuth env signers state = .ok ((), state) :=
      verifyThresholdAuth_ok.mpr ⟨quorum, rfl⟩
    rw [Tx.bind_of_ok verified]
    exact Tx.bind_error.mpr (.inl (assertNotPaused_of_paused paused))

theorem paused_then_authorized {env : Env} {signers : List Address}
    {state : State} {α : Type} {rest : Unit → Contract α}
    (paused : state.isPaused = true) :
    (assertAdminAndNotPaused env signers >>= rest) state =
      .error (.error .paused) :=
  Tx.bind_error.mpr (.inl (Tx.bind_error.mpr
    (.inl (assertNotPaused_of_paused paused))))

/-- On a paused contract a refused call reports the pause exactly unless it
verifies its signers first and they are no quorum. -/
theorem reports_pause_iff (codec : Codec) (env : Env) (call : Call)
    (signers : List Address) (state : State)
    (paused : state.isPaused = true)
    (refused : call.refusedWhenPaused = some signers) :
    invoke codec env call state = .error (.error .paused) ↔
      call.authorizesFirst = false ∨
        state.authority.Quorum env.toLedger signers := by
  cases call <;> cases refused <;>
    simp only [invoke, replying_error, Call.authorizesFirst, true_or,
      false_or, Bool.true_eq_false]
  case prunePayment =>
    exact iff_true_intro
      (Tx.bind_error.mpr (.inl (assertNotPaused_of_paused paused)))
  case cancel => exact authorized_then_paused paused
  case cancelAll => exact authorized_then_paused paused
  case migrate => exact authorized_then_paused paused
  all_goals exact iff_true_intro (paused_then_authorized paused)

/-- The contract is set up and paused. -/
def samplePauseRun : List Input :=
  [⟨.granting 0, .init (.account 9) [.account 1] 1 (.contract 5)
      (.account 2)⟩,
    ⟨.granting 100, .pause [.account 1] 1⟩]

theorem reports_pause_iff_cancel :
    (run (step sampleCodec) State.initial samplePauseRun).isPaused = true ∧
    (invoke sampleCodec (.granting 200) (.cancel [.account 1] .cancelRecovery)
        (run (step sampleCodec) State.initial samplePauseRun) =
          .error (.error .paused) ↔
      (Call.cancel [.account 1] .cancelRecovery).authorizesFirst = false ∨
        (run (step sampleCodec) State.initial
          samplePauseRun).authority.Quorum (Env.granting 200).toLedger
            [.account 1]) :=
  ⟨by decide, reports_pause_iff sampleCodec _ _ _ _ (by decide) rfl⟩

theorem migrate_reports_unauthorized :
    ¬ ∀ env call signers state, Reachable sampleCodec state →
      state.admin.isSome → state.isPaused = true →
      call.refusedWhenPaused = some signers →
      invoke sampleCodec env call state = .error (.error .paused) := by
  intro reports
  have reported := reports (.granting 200) (.migrate [.account 7])
    [.account 7] (run (step sampleCodec) State.initial samplePauseRun)
    ⟨_, rfl⟩ (by decide) (by decide) rfl
  have unauthorized : invoke sampleCodec (.granting 200)
      (.migrate [.account 7])
      (run (step sampleCodec) State.initial samplePauseRun) =
        .error (.error .unauthorized) := by
    rfl
  rw [unauthorized] at reported
  cases reported

/-! The rule setters. Both paths make the same checks, in different orders;
only the direct one asks for the zero address. -/

def ruleBoundsError (rule : SettlementRule) :
    Option SettlementError :=
  firstError
    [failIf (bpsDenominator < rule.platformFeeBps ∨
        bpsDenominator < rule.networkFeeBps) .invalidFeeBps,
      failIf (rule.platformFeeBps < minFeeBps ∨
        rule.networkFeeBps < minFeeBps) .invalidFeeBps,
      failIf (maxFeeBps < rule.platformFeeBps ∨
        maxFeeBps < rule.networkFeeBps) .invalidFeeBps,
      failIf ((checkedAdd32 rule.platformFeeBps rule.networkFeeBps).all
        (fun sum => bpsDenominator < sum)) .invalidFeeBps,
      failIf (maxSettlementDelayLedger < rule.settlementDelayLedger)
        .invalidSettlementDelay]

def ceilingViolation (rule : SettlementRule) :
    Option GovFeeConfig → Option SettlementError
  | none => none
  | some config =>
      failIf (config.platformFeeBps < rule.platformFeeBps ∨
        config.networkFeeBps < rule.networkFeeBps)
        .feeExceedsGovernanceConfig

def State.ceilingError (env : Env) (rule : SettlementRule)
    (state : State) : Option SettlementError :=
  match state.governance with
  | none => some .notInitialized
  | some governance =>
      match (env.governance governance).getFeeConfig with
      | .value rawVal =>
          match classifyGovernanceFeeConfig rawVal with
          | .ok config => ceilingViolation rule config
          | .error error => some error
      | _ => some .governanceCallFailed

theorem validateRuleBounds_eq (rule : SettlementRule) :
    validateRuleBounds rule = raise (ruleBoundsError rule) := by
  simp only [validateRuleBounds, ruleBoundsError, rejectIf_eq_raise,
    raise_firstError_cons, firstError_singleton]

/-- The sum that traps is only formed of legs within their limits. -/
theorem validateRuleBoundsTrapping_eq (rule : SettlementRule) :
    validateRuleBoundsTrapping rule = validateRuleBounds rule := by
  funext state
  apply Tx.bind_congr_ok
  intro _ first _
  apply Tx.bind_congr_ok
  intro _ second low
  apply Tx.bind_congr_ok
  intro _ third high
  obtain ⟨low, _⟩ := rejectIf_ok.mp low
  obtain ⟨high, _⟩ := rejectIf_ok.mp high
  simp only [not_or, UInt32.not_lt] at low high
  have fits := (FeesInRange.of_legs low.1 high.1 low.2 high.2).sum_fits
  rw [Tx.bind_of_ok (orTrap_ok.mpr ⟨fits, rfl⟩)]
  have same : (rejectIf (bpsDenominator < rule.platformFeeBps +
        rule.networkFeeBps) .invalidFeeBps : Contract Unit) =
      rejectIf ((checkedAdd32 rule.platformFeeBps rule.networkFeeBps).all
        (fun sum => bpsDenominator < sum)) .invalidFeeBps := by
    simp [rejectIf, Tx.panicIf, fits]
  exact congrFun (congrArg (fun check => check >>= fun _ =>
    rejectIf (maxSettlementDelayLedger < rule.settlementDelayLedger)
      .invalidSettlementDelay) same) third

theorem validateFeeAgainstGovernance_eq (env : Env)
    (rule : SettlementRule) (state : State) :
    validateFeeAgainstGovernance env rule state =
      raise (state.ceilingError env rule) state := by
  simp only [State.ceilingError]
  cases configured : state.governance with
  | none =>
      exact Tx.bind_error.mpr (.inl (by simp [readGovernance, configured]))
  | some governance =>
      rw [validateFeeAgainstGovernance,
        Tx.bind_of_ok (readGovernance_ok.mpr ⟨configured, rfl⟩)]
      simp only [invokeGovernanceGetFeeConfig]
      cases (env.governance governance).getFeeConfig with
      | error code => rfl
      | trap => rfl
      | value rawVal =>
          change (tryReadGovernanceFeeConfig rawVal >>= fun config =>
            checkFeeCeiling rule config) state = _
          simp only [tryReadGovernanceFeeConfig]
          cases classifyGovernanceFeeConfig rawVal with
          | error error => rfl
          | ok config =>
              change checkFeeCeiling rule config state = _
              cases config with
              | none => rfl
              | some config =>
                  simp only [checkFeeCeiling, ceilingViolation, failIf]
                  split <;> rfl

/-- The limits of the contract on the fees and the delay of a rule. -/
structure WithinLimits (rule : SettlementRule) : Prop where
  fees : FeesInRange rule.platformFeeBps rule.networkFeeBps
  delay : rule.settlementDelayLedger.toNat ≤ 100000

theorem ruleBoundsError_eq_none {rule : SettlementRule} :
    ruleBoundsError rule = none ↔ WithinLimits rule := by
  have low : minFeeBps.toNat = 5 := rfl
  have high : maxFeeBps.toNat = 5000 := rfl
  have whole : bpsDenominator.toNat = 10000 := rfl
  have longest : maxSettlementDelayLedger.toNat = 100000 := rfl
  simp only [ruleBoundsError, firstError_eq_none, List.mem_cons,
    List.not_mem_nil, or_false, forall_eq_or_imp, forall_eq,
    failIf_eq_none, not_or, UInt32.not_lt]
  constructor
  · intro given
    obtain ⟨_, atLeast, atMost, _, delay⟩ := given
    rw [UInt32.le_iff_toNat_le, longest] at delay
    exact ⟨.of_legs atLeast.1 atMost.1 atLeast.2 atMost.2, delay⟩
  · intro given
    obtain ⟨fees, delay⟩ := given
    have platform := fees.platformAtLeast
    have platform' := fees.platformAtMost
    have network := fees.networkAtLeast
    have network' := fees.networkAtMost
    have total := fees.total
    have sum : (rule.platformFeeBps + rule.networkFeeBps).toNat =
        rule.platformFeeBps.toNat + rule.networkFeeBps.toNat :=
      checkedAdd32_eq_some.mp fees.sum_fits
    rw [fees.sum_fits]
    simp only [UInt32.le_iff_toNat_le, UInt32.lt_iff_toNat_lt,
      Option.all_some, decide_eq_true_eq]
    omega

theorem ceilingError_eq_none {env : Env} {rule : SettlementRule}
    {state : State} :
    state.ceilingError env rule = none ↔ CeilingChecked env state rule := by
  constructor
  · intro passed
    apply @validateFeeAgainstGovernance_checked env rule state state ()
    rw [validateFeeAgainstGovernance_eq, passed]
    rfl
  · intro given
    obtain ⟨governance, rawVal, config, configured, answer, classified,
      capped⟩ := given.checked
    simp only [State.ceilingError, configured, answer, classified]
    cases config with
    | none => rfl
    | some ceiling =>
        obtain ⟨platform, network⟩ := capped ceiling rfl
        simp [ceilingViolation, UInt32.not_lt, platform, network]

theorem requiredU32_error {key : Symbol} {entries : List (Val × Val)}
    {error : SettlementError}
    (failed : requiredU32 key entries = .error error) :
    error = .governanceCallFailed := by
  unfold requiredU32 at failed
  split at failed
  · rename_i value found
    cases value with
    | u32 value => cases failed
    | _ =>
        cases failed
        rfl
  · cases failed
    rfl

theorem classifyGovernanceFeeConfig_error {rawVal : Val}
    {error : SettlementError}
    (failed : classifyGovernanceFeeConfig rawVal = .error error) :
    error = .governanceCallFailed := by
  cases rawVal with
  | map entries =>
      simp only [classifyGovernanceFeeConfig] at failed
      split at failed
      · cases failed
        rfl
      · cases platform : requiredU32 "platform_fee_bps" entries with
        | error raised =>
            rw [platform] at failed
            cases failed
            exact requiredU32_error platform
        | ok platformFeeBps =>
            cases network : requiredU32 "network_fee_bps" entries with
            | error raised =>
                rw [platform, network] at failed
                cases failed
                exact requiredU32_error network
            | ok networkFeeBps =>
                rw [platform, network] at failed
                cases failed
  | _ => cases failed

/-- The errors that the ceiling check can raise. -/
theorem ceilingError_cases {env : Env} {rule : SettlementRule}
    {state : State} {error : SettlementError}
    (failed : state.ceilingError env rule = some error) :
    error = .notInitialized ∨ error = .governanceCallFailed ∨
      error = .feeExceedsGovernanceConfig := by
  simp only [State.ceilingError] at failed
  cases configured : state.governance with
  | none =>
      rw [configured] at failed
      cases failed
      exact .inl rfl
  | some governance =>
      simp only [configured] at failed
      cases answer : (env.governance governance).getFeeConfig with
      | value rawVal =>
          simp only [answer] at failed
          cases classified : classifyGovernanceFeeConfig rawVal with
          | error raised =>
              simp only [classified, Option.some.injEq] at failed
              exact .inr (.inl (failed ▸
                classifyGovernanceFeeConfig_error classified))
          | ok config =>
              simp only [classified] at failed
              cases config with
              | none => cases failed
              | some config =>
                  exact .inr (.inr (failIf_eq_some.mp failed).2.symm)
      | error code =>
          rw [answer] at failed
          cases failed
          exact .inr (.inl rfl)
      | trap =>
          rw [answer] at failed
          cases failed
          exact .inr (.inl rfl)

theorem ruleBoundsError_cases {rule : SettlementRule}
    {error : SettlementError} (failed : ruleBoundsError rule = some error) :
    error = .invalidFeeBps ∨ error = .invalidSettlementDelay := by
  obtain ⟨check, listed, raised⟩ := List.exists_of_findSome?_eq_some failed
  simp only [List.mem_cons, List.not_mem_nil, or_false] at listed
  rcases listed with rfl | rfl | rfl | rfl | rfl <;>
    obtain ⟨_, rfl⟩ := failIf_eq_some.mp raised <;> simp

theorem isMerchantRegisteredAndBumpTtl_succeeds (env : Env)
    (merchant : Address) (state : State) :
    ∃ live, isMerchantRegisteredAndBumpTtl env merchant state =
      .ok (state.merchant merchant,
        state.soft state.cachedGovRule live []) := by
  cases registered : state.merchant merchant with
  | true =>
      exact ⟨_, by simp [isMerchantRegisteredAndBumpTtl, registered]; rfl⟩
  | false =>
      refine ⟨state.liveUntil, ?_⟩
      simp [isMerchantRegisteredAndBumpTtl, registered, State.soft_self]

theorem CeilingChecked.readable {env : Env} {rule : SettlementRule}
    {state : State} (checked : CeilingChecked env state rule)
    (error : SettlementError) : state.reading env ≠ .malformed error := by
  obtain ⟨governance, rawVal, config, configured, answer, classified, _⟩ :=
    checked.checked
  simp only [State.reading, configured, answer, Reading.ofAnswer, classified]
  split <;> simp

/-- Where governance accepted a rule, every resolution succeeds. -/
theorem CeilingChecked.resolves {env : Env} {rule : SettlementRule}
    {state : State} (checked : CeilingChecked env state rule)
    (merchant : Address) : state.resolutionError env merchant = none := by
  simp only [State.resolutionError, State.fallbackError]
  cases state.rule merchant with
  | some rule => rfl
  | none =>
      cases state.defaultRule with
      | some rule => rfl
      | none =>
          cases answer : state.reading env with
          | malformed error => exact absurd answer (checked.readable error)
          | _ => rfl

section Setters

variable {env : Env} {signers : List Address} {admin executor : Address}
  {merchant : Address} {rule : SettlementRule} {state : State}

theorem previousRule_decided :
    Decided [state.resolutionError env merchant]
      (previousRule env merchant state) := by
  rw [previousRule, Tx.readState_bind]
  cases stored : state.rule merchant with
  | some found =>
      simp only [State.resolutionError, stored]
      exact .skip (.done rfl)
  | none => exact readRuleOrDefault_decided rfl

theorem storeRule_accepted (checked : CeilingChecked env state rule) :
    (storeRule env executor merchant rule state).isOk = true := by
  have stores : Decided [state.resolutionError env merchant]
      (storeRule env executor merchant rule state) :=
    .andThen previousRule_decided fun _ _ => rfl
  rw [stores.isOk_iff, firstError_singleton]
  exact checked.resolves merchant

theorem assertMerchantRegistered_decided :
    Decided [failIf (state.merchant merchant = false) .merchantMissing]
      (assertMerchantRegistered env merchant state) := by
  obtain ⟨live, looked⟩ :=
    isMerchantRegisteredAndBumpTtl_succeeds env merchant state
  exact .after looked .ofRejectIf

theorem validateRuleBounds_decided :
    Decided [ruleBoundsError rule] (validateRuleBounds rule state) := by
  rw [validateRuleBounds_eq]
  exact .ofRaise

theorem validateFeeAgainstGovernance_decided
    {check : Option SettlementError}
    (capped : check = state.ceilingError env rule) :
    Decided [check] (validateFeeAgainstGovernance env rule state) := by
  subst capped
  rw [validateFeeAgainstGovernance_eq]
  exact .ofRaise

theorem assertAdminAndNotPaused_passes
    (quorum : state.authority.Quorum env.toLedger signers)
    (unpaused : state.isPaused = false) :
    assertAdminAndNotPaused env signers state = .ok ((), state) :=
  assertAdminAndNotPaused_ok.mpr ⟨⟨unpaused, quorum⟩, rfl⟩

theorem assertNotPaused_passes (unpaused : state.isPaused = false) :
    assertNotPaused state = .ok ((), state) :=
  assertNotPaused_ok.mpr ⟨unpaused, rfl⟩

theorem setSettlementRule_decided
    (quorum : state.authority.Quorum env.toLedger signers)
    (unpaused : state.isPaused = false)
    (leads : signers.head? = some admin) :
    Decided
      [failIf (isZeroAddress merchant) .zeroAddress,
        failIf (state.merchant merchant = false) .merchantMissing,
        ruleBoundsError rule, state.ceilingError env rule]
      (setSettlementRule env signers merchant rule state) := by
  refine .after (assertAdminAndNotPaused_passes quorum unpaused) ?_
  refine .after (unwrapFirst_ok.mpr ⟨leads, rfl⟩) (.rejectIf fun _ => ?_)
  refine .andThenCheck assertMerchantRegistered_decided ?_
  intro _ _ looked
  obtain ⟨_, live, rfl⟩ := assertMerchantRegistered_ok looked
  refine .andThenCheck validateRuleBounds_decided ?_
  intro _ _ bounded
  obtain ⟨_, rfl⟩ := validateRuleBounds_ok bounded
  refine .andThenCheck (validateFeeAgainstGovernance_decided rfl) ?_
  intro _ _ capped
  obtain rfl := validateFeeAgainstGovernance_ok capped
  exact .done (storeRule_accepted
    (validateFeeAgainstGovernance_checked capped))

theorem setDefaultRule_decided
    (quorum : state.authority.Quorum env.toLedger signers)
    (unpaused : state.isPaused = false)
    (leads : signers.head? = some admin) :
    Decided [ruleBoundsError rule, state.ceilingError env rule]
      (setDefaultRule env signers rule state) := by
  refine .after (assertAdminAndNotPaused_passes quorum unpaused) ?_
  refine .after (unwrapFirst_ok.mpr ⟨leads, rfl⟩) ?_
  refine .andThenCheck validateRuleBounds_decided ?_
  intro _ _ bounded
  obtain ⟨_, rfl⟩ := validateRuleBounds_ok bounded
  refine .andThenCheck (validateFeeAgainstGovernance_decided rfl) ?_
  intro _ _ _
  exact .done rfl

theorem Timelocked.setSettlementRule_decided
    (unpaused : state.isPaused = false) :
    Decided
      [state.ceilingError env rule,
        failIf (state.merchant merchant = false) .merchantMissing,
        ruleBoundsError rule]
      (Timelocked.setSettlementRule env executor merchant rule state) := by
  rw [Timelocked.setSettlementRule, validateRuleBoundsTrapping_eq]
  refine .after (assertNotPaused_passes unpaused) ?_
  refine .andThenCheck (validateFeeAgainstGovernance_decided rfl) ?_
  intro _ _ capped
  obtain rfl := validateFeeAgainstGovernance_ok capped
  refine .andThenCheck assertMerchantRegistered_decided ?_
  intro _ _ looked
  obtain ⟨_, live, rfl⟩ := assertMerchantRegistered_ok looked
  refine .andThenCheck validateRuleBounds_decided ?_
  intro _ _ bounded
  obtain ⟨_, rfl⟩ := validateRuleBounds_ok bounded
  have checked := validateFeeAgainstGovernance_checked capped
  exact .done (storeRule_accepted ⟨checked.checked⟩)

theorem Timelocked.setDefaultRule_decided
    (unpaused : state.isPaused = false) :
    Decided [state.ceilingError env rule, ruleBoundsError rule]
      (Timelocked.setDefaultRule env executor rule state) := by
  rw [Timelocked.setDefaultRule, validateRuleBoundsTrapping_eq]
  refine .after (assertNotPaused_passes unpaused) ?_
  refine .andThenCheck (validateFeeAgainstGovernance_decided rfl) ?_
  intro _ _ capped
  obtain rfl := validateFeeAgainstGovernance_ok capped
  refine .andThenCheck validateRuleBounds_decided ?_
  intro _ _ _
  exact .done rfl

end Setters

/-! The same checks behind the timelock. -/

/-- An operation that may be executed now. -/
structure Due (codec : Codec) (env : Env) (state : State)
    (operation : Operation) : Prop where
  queued : ∃ slot, Queued codec state operation slot ∧
    slot.executeAt ≤ env.timestamp
  unpaused : state.isPaused = false
  unvetoed : state.pendingRecovery = none

theorem Due.execute_eq {codec : Codec} {env : Env} {state : State}
    {operation : Operation} (due : Due codec env state operation)
    (executor : Address) :
    execute codec env executor operation state =
      (do
        dispatch env executor operation
        emit (.opExecuted (codec.hash operation)))
        (state.released (codec.hash operation)) := by
  obtain ⟨slot, ⟨stored, encoded⟩, matured⟩ := due.queued
  have found : findScheduled codec operation state = .ok (slot, state) := by
    simp [findScheduled, stored, encoded]
  have validated : validateScheduledExecution codec env operation state =
      .ok (codec.hash operation, state) := by
    rw [validateScheduledExecution,
      Tx.bind_of_ok (assertNotPaused_passes due.unpaused),
      Tx.bind_of_ok found]
    simp [matured, due.unvetoed, UInt64.not_lt]
  have consumed : consumeScheduledOperation (codec.hash operation) state =
      .ok ((), state.released (codec.hash operation)) :=
    consumeScheduledOperation_ok.mpr rfl
  rw [execute, Tx.bind_of_ok validated, Tx.bind_of_ok consumed]

theorem Due.execute_error {codec : Codec} {env : Env} {state : State}
    {operation : Operation} (due : Due codec env state operation)
    {executor : Address} {failure : Failure SettlementError} :
    invoke codec env (.execute executor operation) state =
        .error failure ↔
      dispatch env executor operation
        (state.released (codec.hash operation)) = .error failure := by
  simp only [invoke, replying_error, due.execute_eq, Tx.bind_error,
    emit_error, and_false, exists_false, or_false]

theorem Reachable.registry_sound {codec : Codec} {state : State}
    (reachable : Reachable codec state) : state.registry.Sound := by
  apply reachable.induction (fun state => state.registry.Sound)
  · exact ⟨by simp [State.registry, State.initial],
      by simp [State.registry, State.initial], rfl⟩
  · intro env call before reply after sound succeeded
    exact (invoke_effect succeeded).registryStep.sound sound

section Orders

variable {env : Env} {merchant : Address} {rule : SettlementRule}
  {state : State}

theorem ruleBoundsError_ne_ceilingError {error : SettlementError}
    (bounds : ruleBoundsError rule = some error) :
    state.ceilingError env rule ≠ some error := by
  intro ceiling
  rcases ruleBoundsError_cases bounds with rfl | rfl <;>
    simpa using ceilingError_cases ceiling

theorem missing_or_bounds_ne_ceilingError {error : SettlementError}
    (failed : firstError
      [failIf (state.merchant merchant = false) .merchantMissing,
        ruleBoundsError rule] = some error) :
    state.ceilingError env rule ≠ some error := by
  obtain ⟨check, listed, raised⟩ := List.exists_of_findSome?_eq_some failed
  simp only [List.mem_cons, List.not_mem_nil, or_false] at listed
  rcases listed with rfl | rfl
  · intro ceiling
    obtain ⟨_, rfl⟩ := failIf_eq_some.mp raised
    simpa using ceilingError_cases ceiling
  · exact ruleBoundsError_ne_ceilingError raised

/-- The errors of the direct setter are those of the queued one. -/
theorem setSettlementRule_follows_iff :
    (∀ error, firstError
        [failIf (isZeroAddress merchant) .zeroAddress,
          failIf (state.merchant merchant = false) .merchantMissing,
          ruleBoundsError rule, state.ceilingError env rule] = some error →
      firstError
        [state.ceilingError env rule,
          failIf (state.merchant merchant = false) .merchantMissing,
          ruleBoundsError rule] = some error) ↔
      merchant ≠ zeroAddress ∧ (CeilingChecked env state rule ∨
        state.merchant merchant = true ∧ WithinLimits rule) := by
  rw [← ceilingError_eq_none, ← ruleBoundsError_eq_none]
  cases zero : isZeroAddress merchant with
  | true =>
      have same : merchant = zeroAddress := isZeroAddress_eq_true.mp zero
      subst same
      simp only [ne_eq, not_true, false_and, iff_false]
      intro follows
      have reported := follows .zeroAddress rfl
      obtain ⟨check, listed, raised⟩ :=
        List.exists_of_findSome?_eq_some reported
      simp only [List.mem_cons, List.not_mem_nil, or_false] at listed
      rcases listed with rfl | rfl | rfl
      · simpa using ceilingError_cases raised
      · simpa using (failIf_eq_some.mp raised).2
      · simpa using ruleBoundsError_cases raised
  | false =>
      have nonzero : merchant ≠ zeroAddress := by
        intro same
        rw [isZeroAddress_eq_true.mpr same] at zero
        cases zero
      have passing : firstError
          [failIf (state.merchant merchant = false) .merchantMissing,
            ruleBoundsError rule] = none ↔
          state.merchant merchant = true ∧ ruleBoundsError rule = none := by
        simp
      simp only [nonzero, ne_eq, not_false_eq_true, true_and, ← passing]
      refine (@firstError_rotate_iff _ [_, _] _).trans ?_
      cases capped : state.ceilingError env rule with
      | none => simp
      | some error =>
          simp only [reduceCtorEq, false_or, or_iff_left_iff_imp]
          intro competing
          exact absurd capped (missing_or_bounds_ne_ceilingError competing)

theorem setDefaultRule_follows_iff :
    (∀ error, firstError
        [ruleBoundsError rule, state.ceilingError env rule] = some error →
      firstError [state.ceilingError env rule, ruleBoundsError rule] =
        some error) ↔
      CeilingChecked env state rule ∨ WithinLimits rule := by
  rw [← ceilingError_eq_none, ← ruleBoundsError_eq_none]
  refine (@firstError_rotate_iff _ [_] _).trans ?_
  rw [firstError_singleton]
  cases capped : state.ceilingError env rule with
  | none => simp
  | some error =>
      simp only [reduceCtorEq, false_or, or_iff_left_iff_imp]
      intro competing
      exact absurd capped (ruleBoundsError_ne_ceilingError competing)

end Orders

theorem ceilingError_congr {env direct : Env}
    (agree : direct.governance = env.governance) (rule : SettlementRule)
    (state : State) :
    state.ceilingError direct rule = state.ceilingError env rule := by
  simp only [State.ceilingError, agree]

/-- The errors of a direct call are those of the queued operation. -/
def ReportsAlike (codec : Codec) (direct : Env) (call : Call) (env : Env)
    (executor : Address) (operation : Operation) (state : State) : Prop :=
  ∀ failure, invoke codec direct call state = .error failure →
    invoke codec env (.execute executor operation) state = .error failure

/-- In every reachable state the queued setter of a merchant's rule reports
the error of the direct one exactly unless the merchant is the zero address or
governance refuses the rule while another check fails as well; and the queued
setter of the default rule exactly unless governance refuses the rule while
its bounds fail as well. -/
theorem setters_report_alike_iff (codec : Codec) (state : State)
    (reachable : Reachable codec state) (env direct : Env)
    (agree : direct.governance = env.governance) (executor : Address)
    (signers : List Address)
    (quorum : state.authority.Quorum direct.toLedger signers) :
    (∀ merchant rule,
      Due codec env state (.setSettlementRule merchant rule) →
      (ReportsAlike codec direct (.setSettlementRule signers merchant rule)
          env executor (.setSettlementRule merchant rule) state ↔
        merchant ≠ zeroAddress ∧ (CeilingChecked env state rule ∨
          state.merchant merchant = true ∧ WithinLimits rule))) ∧
    ∀ rule, Due codec env state (.setDefaultRule rule) →
      (ReportsAlike codec direct (.setDefaultRule signers rule) env executor
          (.setDefaultRule rule) state ↔
        CeilingChecked env state rule ∨ WithinLimits rule) := by
  obtain ⟨admin, leads⟩ := reachable.sound.head_of_quorum quorum
  constructor
  · intro merchant rule due
    have decided := @setSettlementRule_decided _ _ _ merchant rule _ quorum
      due.unpaused leads
    have decided' := @Timelocked.setSettlementRule_decided env executor
      merchant rule (state.released
        (codec.hash (.setSettlementRule merchant rule))) due.unpaused
    rw [ceilingError_congr agree] at decided
    refine Iff.trans ?_
      ((decided.follows_iff decided').trans setSettlementRule_follows_iff)
    simp only [ReportsAlike, due.execute_error]
    simp only [invoke, replying_error, dispatch]
  · intro rule due
    have decided := @setDefaultRule_decided _ _ _ rule _ quorum
      due.unpaused leads
    have decided' := @Timelocked.setDefaultRule_decided env executor rule
      (state.released (codec.hash (.setDefaultRule rule))) due.unpaused
    rw [ceilingError_congr agree] at decided
    refine Iff.trans ?_
      ((decided.follows_iff decided').trans setDefaultRule_follows_iff)
    simp only [ReportsAlike, due.execute_error]
    simp only [invoke, replying_error, dispatch]

def sampleRule : SettlementRule := ⟨200, 100, 7, true⟩

/-- A rule is queued for an address that is not registered. -/
def sampleSetterRun : List Input :=
  [⟨.granting 0, .init (.account 9) [.account 1] 1 (.contract 5)
      (.account 2)⟩,
    ⟨.granting 100, .schedule [.account 1]
      (.setSettlementRule (.account 6) sampleRule) 604800⟩]

abbrev sampleSetterState : State :=
  run (step sampleCodec) State.initial sampleSetterRun

set_option maxRecDepth 2000 in
theorem sampleSetterRun_due {env : Env} (late : 604900 ≤ env.timestamp) :
    Due sampleCodec env sampleSetterState
      (.setSettlementRule (.account 6) sampleRule) where
  queued := ⟨⟨Operation.toXdr
    (.setSettlementRule (.account 6) sampleRule), 604900⟩, ⟨rfl, rfl⟩, late⟩
  unpaused := rfl
  unvetoed := rfl

set_option maxRecDepth 2000 in
theorem sampleSetterRun_quorum {env : Env}
    (signed : env.auths (.account 1) = true) :
    sampleSetterState.authority.Quorum env.toLedger [.account 1] :=
  Authority.quorum_of_sole rfl rfl signed

set_option maxRecDepth 2000 in
theorem setters_report_alike_iff_unregistered :
    ReportsAlike sampleCodec (.granting 604900)
        (.setSettlementRule [.account 1] (.account 6) sampleRule)
        (.granting 604900) (.account 3)
        (.setSettlementRule (.account 6) sampleRule) sampleSetterState ↔
      Address.account 6 ≠ zeroAddress ∧
        (CeilingChecked (.granting 604900) sampleSetterState sampleRule ∨
          sampleSetterState.merchant (.account 6) = true ∧
            WithinLimits sampleRule) :=
  (setters_report_alike_iff sampleCodec _ ⟨_, rfl⟩ (.granting 604900)
    (.granting 604900) rfl (.account 3) _ (sampleSetterRun_quorum rfl)).1 _ _
      (sampleSetterRun_due (by decide))

set_option maxRecDepth 2000 in
theorem unregistered_merchant_masked_by_governance :
    ¬ ∀ state, Reachable sampleCodec state → ∀ (env direct : Env),
      direct.governance = env.governance → ∀ executor signers,
      state.authority.Quorum direct.toLedger signers →
      ∀ merchant rule,
        Due sampleCodec env state (.setSettlementRule merchant rule) →
        ReportsAlike sampleCodec direct
          (.setSettlementRule signers merchant rule) env executor
          (.setSettlementRule merchant rule) state := by
  intro alike
  have missing : invoke sampleCodec (Env.granting 604900).muted
      (.setSettlementRule [.account 1] (.account 6) sampleRule)
      sampleSetterState = .error (.error .merchantMissing) := by
    rfl
  have followed := alike sampleSetterState ⟨_, rfl⟩
    (Env.granting 604900).muted (Env.granting 604900).muted rfl (.account 3)
    [.account 1] (sampleSetterRun_quorum rfl) (.account 6) sampleRule
    (sampleSetterRun_due (by decide)) _ missing
  have masked : invoke sampleCodec (Env.granting 604900).muted
      (.execute (.account 3) (.setSettlementRule (.account 6) sampleRule))
      sampleSetterState = .error (.error .governanceCallFailed) := by
    rfl
  rw [masked] at followed
  cases followed

end BettaPay.Settlement
