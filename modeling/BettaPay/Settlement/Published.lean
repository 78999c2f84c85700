import BettaPay.Settlement.Cleared

namespace BettaPay.Settlement

open BettaPay.Host
open BettaPay.Host.Tx (readState writeState)
open BettaPay.Common

/-! What each entry point publishes, as a function of the call, its reply and
the state before it. -/

/-- The first signer, whom the events of an administrative call name. -/
def caller (signers : List Address) : Address :=
  signers.head?.getD zeroAddress

theorem caller_eq {signers : List Address} {first : Address}
    (leading : signers.head? = some first) : caller signers = first := by
  simp [caller, leading]

/-- The report of a rule that is taken away, where there is one. -/
def clearanceEvents (env : Env) (state : State) (actor merchant : Address) :
    List Event :=
  (state.rule merchant).toList.map fun removed =>
    .settlementRuleCleared merchant actor removed (state.fallbackRule env).rule

def Operation.publishes (env : Env) (state : State) (actor : Address) :
    Operation → List Event
  | .updateGovernance newGovernance =>
      [.governanceUpdated actor newGovernance]
  | .cancelRecovery => [.recoveryCancelled actor]
  | .transferAdmin newAdmins _ =>
      [.adminTransferred ⟨state.admin.getD [], newAdmins⟩]
  | .upgrade wasmHash => [.contractUpgraded wasmHash actor]
  | .registerMerchant merchant => [.merchantRegistered merchant actor]
  | .unregisterMerchant merchant =>
      clearanceEvents env state actor merchant ++
        [.merchantUnregistered merchant actor]
  | .setSettlementRule merchant rule =>
      [.settlementRuleUpdated merchant actor
        (state.effectiveRule env merchant).rule rule]
  | .clearSettlementRule merchant =>
      clearanceEvents env state actor merchant
  | .setDefaultRule rule =>
      [.defaultRuleUpdated actor
        (state.defaultRule.getD bootstrapDefaultRule) rule]

/-- The record of a payment at the rule in force. -/
def paymentEvents (env : Env) (state : State) (merchant : Address)
    (reference : BytesN 32) (amount : I128) (split : FeeSplit) :
    List Event :=
  let rule := (state.effectiveRule env merchant).rule
  bootstrapEvents rule ++
    [.paymentStored merchant reference
      (paymentRecord env merchant amount rule split)]

def Call.publishes (codec : Codec) (env : Env) (state : State) :
    Call → Reply → List Event
  | .updateGovernance signers newGovernance, _ =>
      (Operation.updateGovernance newGovernance).publishes env state
        (caller signers)
  | .initiateRecovery newAdmin, _ =>
      [.recoveryInitiated (state.recoveryAddress.getD zeroAddress) newAdmin
        (env.timestamp + recoveryDelaySeconds)]
  | .cancelRecovery signers, _ => [.recoveryCancelled (caller signers)]
  | .updateRecoveryAddress signers newRecovery, _ =>
      [.recoveryAddressUpdated newRecovery (caller signers)]
  | .executeRecovery, _ =>
      [.recoveryExecuted ⟨state.admin.getD [],
        state.pendingRecovery.toList.map PendingRecovery.newAdmin⟩]
  | .transferAdmin signers newAdmins newThreshold, _ =>
      (Operation.transferAdmin newAdmins newThreshold).publishes env state
        (caller signers)
  | .changeThreshold signers newThreshold, _ =>
      [.thresholdChanged (caller signers) (state.threshold.getD 0)
        newThreshold]
  | .upgrade signers newWasmHash, _ =>
      (Operation.upgrade newWasmHash).publishes env state (caller signers)
  | .pause signers reason, _ => [.paused (caller signers) reason]
  | .unpause signers, _ => [.unpaused (caller signers)]
  | .migrate signers, _ => [.migrated (caller signers) currentSchemaVersion]
  | .schedule signers operation executeIn, _ =>
      [.opScheduled (codec.hash operation) (caller signers)
        (env.timestamp + executeIn)]
  | .execute executor operation, _ =>
      operation.publishes env state executor ++
        [.opExecuted (codec.hash operation)]
  | .cancel signers operation, _ =>
      [.opCancelled (codec.hash operation) (caller signers)]
  | .cancelAll signers _, .u32 cancelled =>
      [.opCancelledBatch (caller signers) cancelled]
  | .registerMerchant signers merchant, _ =>
      .merchantConsent merchant ::
        (Operation.registerMerchant merchant).publishes env state
          (caller signers)
  | .unregisterMerchant signers merchant, _ =>
      (Operation.unregisterMerchant merchant).publishes env state
        (caller signers)
  | .setSettlementRule signers merchant rule, _ =>
      (Operation.setSettlementRule merchant rule).publishes env state
        (caller signers)
  | .clearSettlementRule signers merchant, _ =>
      (Operation.clearSettlementRule merchant).publishes env state
        (caller signers)
  | .setDefaultRule signers newRule, _ =>
      (Operation.setDefaultRule newRule).publishes env state (caller signers)
  | .storePaymentReference merchant reference amount, .split split =>
      paymentEvents env state merchant reference amount split
  | .prunePayment _ merchant reference, _ =>
      (state.payment merchant reference).toList.map fun _ =>
        .paymentPruned merchant reference
  | .prunePayments signers merchant _, .u32 removed =>
      [.paymentsPruned merchant (caller signers) removed]
  | _, _ => []

/-! The writes the two paths share. -/

section Shared

variable {env : Env} {actor : Address} {before after : State} {result : Unit}

theorem storeGovernance_publishes {newGovernance : Address}
    (succeeded : storeGovernance actor newGovernance before =
      .ok (result, after)) :
    after.events = before.events ++
      (Operation.updateGovernance newGovernance).publishes env before
        actor := by
  simp only [storeGovernance, Tx.bind_ok, Tx.writeState_ok, emit_ok]
    at succeeded
  obtain ⟨_, _, rfl, rfl⟩ := succeeded
  rfl

theorem swapWasm_publishes {wasmHash : BytesN 32}
    (succeeded : swapWasm actor wasmHash before = .ok (result, after)) :
    after.events = before.events ++
      (Operation.upgrade wasmHash).publishes env before actor := by
  simp only [swapWasm, Tx.bind_ok, Tx.writeState_ok, emit_ok] at succeeded
  obtain ⟨_, _, rfl, rfl⟩ := succeeded
  rfl

theorem addMerchant_publishes {merchant : Address}
    (succeeded : addMerchant env actor merchant before =
      .ok (result, after)) :
    after.events = before.events ++
      (Operation.registerMerchant merchant).publishes env before actor := by
  simp only [addMerchant, setMerchant, Tx.readState_bind, Tx.bind_ok,
    rejectIf_ok, Tx.writeState_ok, extendTtl_ok, emit_ok] at succeeded
  obtain ⟨_, _, ⟨_, rfl⟩, _, _, rfl, _, _, rfl, _, _, rfl, rfl⟩ := succeeded
  simp only [State.soft, List.append_nil]
  rfl

theorem clearMerchantRule_publishes {merchant : Address}
    (succeeded : clearMerchantRule env actor merchant before =
      .ok (result, after)) :
    after.events = before.events ++
      clearanceEvents env before actor merchant := by
  simp only [clearMerchantRule, Tx.readState_bind] at succeeded
  cases stored : before.rule merchant with
  | none =>
      simp only [stored, Tx.pure_ok] at succeeded
      obtain ⟨_, rfl⟩ := succeeded
      simp [clearanceEvents, stored]
  | some removed =>
      simp only [stored, removeRule, Tx.bind_ok, Tx.writeState_ok, emit_ok]
        at succeeded
      obtain ⟨_, _, rfl, fallback, _, resolved, rfl⟩ := succeeded
      obtain ⟨rfl, rfl⟩ := readFallbackRule_exact resolved
      simp only [clearanceEvents, stored, State.soft_events, List.append_nil]
      rfl

theorem removeMerchant_publishes {merchant : Address}
    (succeeded : removeMerchant env actor merchant before =
      .ok (result, after)) :
    after.events = before.events ++
      (Operation.unregisterMerchant merchant).publishes env before
        actor := by
  simp only [removeMerchant, setArchivedMerchant, Tx.readState_bind,
    Tx.bind_ok, rejectIf_ok, Tx.writeState_ok, extendTtl_ok, emit_ok]
    at succeeded
  obtain ⟨_, _, ⟨_, rfl⟩, _, _, rfl, _, _, rfl, _, _, rfl, _, _, cleared,
    rfl⟩ := succeeded
  rw [State.soft_events, clearMerchantRule_publishes cleared,
    State.soft_events, List.append_nil, List.append_assoc]
  rfl

theorem previousRule_exact {merchant : Address} {prev : SettlementRule}
    (succeeded : previousRule env merchant before = .ok (prev, after)) :
    prev = (before.effectiveRule env merchant).rule ∧
      after.events = before.events := by
  simp only [previousRule, Tx.readState_bind] at succeeded
  cases stored : before.rule merchant with
  | some rule =>
      simp only [stored, Tx.pure_ok] at succeeded
      obtain ⟨rfl, rfl⟩ := succeeded
      simp [State.effectiveRule, stored]
  | none =>
      simp only [stored] at succeeded
      obtain ⟨rfl, live, rfl⟩ := readRuleOrDefault_exact succeeded
      exact ⟨rfl, List.append_nil _⟩

theorem storeRule_publishes {merchant : Address} {rule : SettlementRule}
    (succeeded : storeRule env actor merchant rule before =
      .ok (result, after)) :
    after.events = before.events ++
      (Operation.setSettlementRule merchant rule).publishes env before
        actor := by
  simp only [storeRule, setRule, Tx.bind_ok, Tx.writeState_ok, extendTtl_ok,
    emit_ok] at succeeded
  obtain ⟨prev, _, resolved, _, _, rfl, _, _, rfl, rfl⟩ := succeeded
  obtain ⟨rfl, kept⟩ := previousRule_exact resolved
  simp only [State.soft_events, List.append_nil, kept]
  rfl

theorem storeDefaultRule_publishes {newRule : SettlementRule}
    (succeeded : storeDefaultRule actor newRule before =
      .ok (result, after)) :
    after.events = before.events ++
      (Operation.setDefaultRule newRule).publishes env before actor := by
  simp only [storeDefaultRule, Tx.readState_bind, Tx.bind_ok,
    Tx.writeState_ok, emit_ok] at succeeded
  obtain ⟨_, _, rfl, rfl⟩ := succeeded
  rfl

/-- A rule is looked up on behalf of a registered merchant. -/
theorem assertMerchantRegistered_publishes {merchant : Address}
    {operation : Operation}
    (succeeded : assertMerchantRegistered env merchant before =
      .ok (result, after)) :
    after.events ++ operation.publishes env after actor =
      before.events ++ operation.publishes env before actor := by
  obtain ⟨_, live, rfl⟩ := assertMerchantRegistered_ok succeeded
  rw [State.soft_events, List.append_nil]
  cases operation <;> rfl

theorem removal_publishes {merchant : Address}
    {removed fallback : SettlementRule} {middle : State}
    (stored : before.rule merchant = some removed)
    (resolved : readFallbackRule env (before.unruled merchant) =
      .ok (fallback, middle)) :
    middle.events ++
        [.settlementRuleCleared merchant actor removed fallback] =
      before.events ++
        (Operation.clearSettlementRule merchant).publishes env before
          actor := by
  obtain ⟨rfl, rfl⟩ := readFallbackRule_exact resolved
  simp only [Operation.publishes, clearanceEvents, stored,
    State.soft_events, List.append_nil]
  rfl

/-! The timelocked path. -/

theorem dispatch_publishes {operation : Operation}
    (succeeded : dispatch env actor operation before = .ok (result, after)) :
    after.events = before.events ++
      operation.publishes env before actor := by
  cases operation with
  | updateGovernance newGovernance =>
      simp only [dispatch, Timelocked.updateGovernance, Tx.bind_ok,
        assertNotPaused_ok, validateGovernance_ok] at succeeded
      obtain ⟨_, _, ⟨_, rfl⟩, _, _, ⟨_, rfl⟩, stored⟩ := succeeded
      exact storeGovernance_publishes stored
  | cancelRecovery =>
      simp only [dispatch, Timelocked.cancelRecovery, Tx.readState_bind,
        Tx.bind_ok, rejectIf_ok] at succeeded
      obtain ⟨_, _, ⟨_, rfl⟩, removed⟩ := succeeded
      rw [removePendingRecovery_ok removed]
      rfl
  | transferAdmin newAdmins newThreshold =>
      simp only [dispatch, Timelocked.transferAdmin, Tx.bind_ok,
        readAdmins_ok, validateAdminsAndThreshold_ok,
        rejectMerchantAdmins_ok, writeAdmins_ok, emit_ok] at succeeded
      obtain ⟨oldAdmins, _, ⟨stored, rfl⟩, _, _, ⟨_, rfl⟩, _, _, ⟨_, rfl⟩,
        _, _, ⟨_, rfl⟩, rfl⟩ := succeeded
      simp [Operation.publishes, stored]
  | upgrade wasmHash =>
      simp only [dispatch, Timelocked.upgrade, Tx.bind_ok, rejectIf_ok,
        assertNotPaused_ok] at succeeded
      obtain ⟨_, _, ⟨_, rfl⟩, _, _, ⟨_, rfl⟩, _, _, probed, _, _, ⟨_, rfl⟩,
        swapped⟩ := succeeded
      obtain rfl := probeSupportsInterface_ok probed
      exact swapWasm_publishes swapped
  | registerMerchant merchant =>
      simp only [dispatch, Timelocked.registerMerchant, Tx.bind_ok,
        assertNotPaused_ok, validateNonzeroAddress_ok] at succeeded
      obtain ⟨_, _, ⟨_, rfl⟩, _, _, ⟨_, rfl⟩, _, _, checked, added⟩ :=
        succeeded
      obtain ⟨_, rfl⟩ := rejectAdminMerchant_ok checked
      exact addMerchant_publishes added
  | unregisterMerchant merchant =>
      simp only [dispatch, Timelocked.unregisterMerchant, Tx.bind_ok,
        assertNotPaused_ok] at succeeded
      obtain ⟨_, _, ⟨_, rfl⟩, removed⟩ := succeeded
      exact removeMerchant_publishes removed
  | setSettlementRule merchant rule =>
      simp only [dispatch, Timelocked.setSettlementRule, Tx.bind_ok,
        assertNotPaused_ok] at succeeded
      obtain ⟨_, _, ⟨_, rfl⟩, _, _, capped, _, _, looked, _, _, checked,
        stored⟩ := succeeded
      obtain rfl := validateFeeAgainstGovernance_ok capped
      obtain ⟨_, rfl⟩ := validateRuleBoundsTrapping_ok checked
      rw [storeRule_publishes stored,
        assertMerchantRegistered_publishes looked]
  | clearSettlementRule merchant =>
      simp only [dispatch, Timelocked.clearSettlementRule, removeRule,
        Tx.readState_bind, Tx.bind_ok, assertNotPaused_ok, orReject_ok,
        Tx.writeState_ok, emit_ok] at succeeded
      obtain ⟨_, _, ⟨_, rfl⟩, removed, _, ⟨stored, rfl⟩, _, _, rfl, fallback,
        _, resolved, rfl⟩ := succeeded
      exact removal_publishes stored (readRuleOrDefault_unruled ▸ resolved)
  | setDefaultRule rule =>
      simp only [dispatch, Timelocked.setDefaultRule, Tx.bind_ok,
        assertNotPaused_ok] at succeeded
      obtain ⟨_, _, ⟨_, rfl⟩, _, _, capped, _, _, checked, stored⟩ :=
        succeeded
      obtain rfl := validateFeeAgainstGovernance_ok capped
      obtain ⟨_, rfl⟩ := validateRuleBoundsTrapping_ok checked
      exact storeDefaultRule_publishes stored

end Shared

/-! Whole calls. -/

section Calls

variable {codec : Codec} {env : Env} {before after : State} {result : Unit}

theorem deadline_eq {timestamp delay deadline : UInt64}
    (exact : deadline.toNat = timestamp.toNat + delay.toNat) :
    timestamp + delay = deadline := by
  have fits := deadline.toNat_lt
  apply UInt64.toNat_inj.mp
  rw [UInt64.toNat_add, exact, Nat.mod_eq_of_lt (by omega)]

theorem cancelRecovery_publishes {signers : List Address}
    (succeeded : cancelRecovery env signers before = .ok (result, after)) :
    after.events = before.events ++ [.recoveryCancelled (caller signers)] := by
  simp only [cancelRecovery, Tx.bind_ok, readPendingRecovery_ok,
    unwrapFirst_ok] at succeeded
  obtain ⟨pending, _, ⟨_, rfl⟩, _, _, checked, canceller, _,
    ⟨leading, rfl⟩, removed⟩ := succeeded
  obtain ⟨_, rfl⟩ := authorizeCancellation_ok checked
  rw [removePendingRecovery_ok removed, caller_eq leading]
  rfl

theorem updateRecoveryAddress_publishes {signers : List Address}
    {newRecovery : Address}
    (succeeded : updateRecoveryAddress env signers newRecovery before =
      .ok (result, after)) :
    after.events = before.events ++
      [.recoveryAddressUpdated newRecovery (caller signers)] := by
  simp only [updateRecoveryAddress, Tx.bind_ok, verifyThresholdAuth_ok,
    unwrapFirst_ok, validateNonzeroAddress_ok, Tx.writeState_ok, emit_ok]
    at succeeded
  obtain ⟨_, _, ⟨_, rfl⟩, admin, _, ⟨leading, rfl⟩, _, _, ⟨_, rfl⟩, _, _,
    rfl, rfl⟩ := succeeded
  rw [caller_eq leading]
  rfl

theorem transferAdmin_publishes {signers newAdmins : List Address}
    {newThreshold : UInt32}
    (succeeded : transferAdmin env signers newAdmins newThreshold before =
      .ok (result, after)) :
    after.events = before.events ++
      [.adminTransferred ⟨before.admin.getD [], newAdmins⟩] := by
  simp only [transferAdmin, Tx.bind_ok, verifyThresholdAuth_ok,
    validateAdminsAndThreshold_ok, readAdmins_ok, readThreshold_ok,
    rejectIf_ok, rejectMerchantAdmins_ok, writeAdmins_ok, emit_ok]
    at succeeded
  obtain ⟨_, _, ⟨_, rfl⟩, _, _, ⟨_, rfl⟩, oldAdmins, _, ⟨stored, rfl⟩, _, _,
    ⟨_, rfl⟩, _, _, ⟨_, rfl⟩, _, _, ⟨_, rfl⟩, _, _, ⟨_, rfl⟩, rfl⟩ :=
    succeeded
  simp [stored]

theorem changeThreshold_publishes {signers : List Address}
    {newThreshold : UInt32}
    (succeeded : changeThreshold env signers newThreshold before =
      .ok (result, after)) :
    after.events = before.events ++
      [.thresholdChanged (caller signers) (before.threshold.getD 0)
        newThreshold] := by
  simp only [changeThreshold, Tx.bind_ok, readAdmins_ok, rejectIf_ok,
    readThreshold_ok, orTrap_ok, verifyAdminAuth_ok, Tx.writeState_ok,
    unwrapFirst_ok, emit_ok] at succeeded
  obtain ⟨admins, _, ⟨_, rfl⟩, _, _, ⟨_, rfl⟩, current, _,
    ⟨required, rfl⟩, _, _, ⟨_, rfl⟩, _, _, ⟨_, rfl⟩, _, _, ⟨_, rfl⟩, _, _,
    rfl, first, _, ⟨leading, rfl⟩, rfl⟩ := succeeded
  rw [caller_eq leading]
  simp [required]

theorem upgrade_publishes {signers : List Address}
    {newWasmHash : BytesN 32}
    (succeeded : upgrade env signers newWasmHash before =
      .ok (result, after)) :
    after.events = before.events ++
      (Operation.upgrade newWasmHash).publishes env before
        (caller signers) := by
  simp only [upgrade, Tx.bind_ok, verifyThresholdAuth_ok, unwrapFirst_ok,
    rejectIf_ok] at succeeded
  obtain ⟨_, _, ⟨_, rfl⟩, admin, _, ⟨leading, rfl⟩, _, _, probed, _, _,
    ⟨_, rfl⟩, swapped⟩ := succeeded
  obtain rfl := probeSupportsInterface_ok probed
  rw [caller_eq leading]
  exact swapWasm_publishes swapped

theorem pause_publishes {signers : List Address} {reason : UInt32}
    (succeeded : pause env signers reason before = .ok (result, after)) :
    after.events = before.events ++ [.paused (caller signers) reason] ∧
      reason ≤ maxPauseReason := by
  simp only [pause, Tx.readState_bind, Tx.bind_ok, verifyThresholdAuth_ok,
    rejectIf_ok, unwrapFirst_ok, Tx.writeState_ok, emit_ok, UInt32.not_lt]
    at succeeded
  obtain ⟨_, _, ⟨_, rfl⟩, _, _, ⟨_, rfl⟩, _, _, ⟨legal, rfl⟩, admin, _,
    ⟨leading, rfl⟩, _, _, rfl, rfl⟩ := succeeded
  rw [caller_eq leading]
  exact ⟨rfl, legal⟩

theorem unpause_publishes {signers : List Address}
    (succeeded : unpause env signers before = .ok (result, after)) :
    after.events = before.events ++ [.unpaused (caller signers)] := by
  simp only [unpause, Tx.readState_bind, Tx.bind_ok, verifyThresholdAuth_ok,
    rejectIf_ok, unwrapFirst_ok, Tx.writeState_ok, emit_ok] at succeeded
  obtain ⟨_, _, ⟨_, rfl⟩, _, _, ⟨_, rfl⟩, admin, _, ⟨leading, rfl⟩, _, _,
    rfl, rfl⟩ := succeeded
  rw [caller_eq leading]
  rfl

theorem migrate_publishes {signers : List Address}
    (succeeded : migrate env signers before = .ok (result, after)) :
    after.events = before.events ++
      [.migrated (caller signers) currentSchemaVersion] := by
  simp only [migrate, runMigrations, readSchemaVersion, Tx.readState_bind,
    Tx.bind_ok, verifyThresholdAuth_ok, assertNotPaused_ok, unwrapFirst_ok,
    Tx.pure_ok, emit_ok] at succeeded
  obtain ⟨_, _, ⟨_, rfl⟩, _, _, ⟨_, rfl⟩, admin, _, ⟨leading, rfl⟩, _, _,
    ⟨_, _, ⟨_, rfl⟩, migrated⟩, rfl⟩ := succeeded
  obtain ⟨marker, rfl⟩ := migrateRounds_ok migrated
  rw [caller_eq leading]
  rfl

theorem schedule_publishes {signers : List Address} {operation : Operation}
    {executeIn : UInt64}
    (succeeded : schedule codec env signers operation executeIn before =
      .ok (result, after)) :
    after.events = before.events ++
      [.opScheduled (codec.hash operation) (caller signers)
        (env.timestamp + executeIn)] := by
  simp only [schedule, setScheduledOperation, Tx.readState_bind, Tx.bind_ok,
    assertAdminAndNotPaused_ok, unwrapFirst_ok, rejectIf_ok, orReject_ok,
    checkedAdd64_eq_some, Tx.writeState_ok, extendTtl_ok,
    incrementPendingOperationCount_ok, emit_ok, and_assoc, exists_and_left,
    exists_eq_left', exists_const] at succeeded
  obtain ⟨_, _, first, leading, _, _, _, _, _, checked, _, _, _, answered, _,
    _, vacant, executeAt, deadline, rfl⟩ := succeeded
  obtain ⟨_, rfl⟩ := validateOperationBounds_ok checked
  obtain rfl := assertGovernanceReachable_ok answered
  obtain ⟨_, rfl⟩ := rejectOccupied_ok vacant
  rw [caller_eq leading, deadline_eq deadline]
  simp only [State.soft, List.append_nil]
  rfl

/-- What an operation publishes does not depend on the queue, on lifetimes or
on the log. -/
theorem publishes_released {operation : Operation} {opHash : BytesN 32}
    {state : State} {actor : Address} :
    operation.publishes env (state.released opHash) actor =
      operation.publishes env state actor := by
  cases operation <;> rfl

theorem publishes_soft {operation : Operation} {state : State}
    {live : PersistentKey → Nat} {events : List Event} {actor : Address} :
    operation.publishes env (state.soft state.cachedGovRule live events)
        actor =
      operation.publishes env state actor := by
  cases operation <;> rfl

/-- The consent of a merchant that registers. -/
def Call.consent : Call → List Event
  | .registerMerchant _ merchant => [.merchantConsent merchant]
  | _ => []

theorem publishes_of_administers {call : Call} {signers : List Address}
    {operation : Operation} {state : State} {reply : Reply}
    (direct : call.administers = some (signers, operation)) :
    call.publishes codec env state reply =
      call.consent ++ operation.publishes env state (caller signers) := by
  cases call <;> cases direct <;> rfl

theorem execute_publishes {executor : Address} {operation : Operation}
    (succeeded : execute codec env executor operation before =
      .ok (result, after)) :
    after.events = before.events ++
      (operation.publishes env before executor ++
        [.opExecuted (codec.hash operation)]) := by
  simp only [execute, Tx.bind_ok, consumeScheduledOperation_ok, emit_ok]
    at succeeded
  obtain ⟨opHash, _, validated, _, _, rfl, _, middle, dispatched, rfl⟩ :=
    succeeded
  obtain ⟨_, _, _, _, _, rfl, rfl⟩ := validateScheduledExecution_ok validated
  rw [State.soft_events, dispatch_publishes dispatched, List.append_assoc,
    publishes_released]
  rfl

theorem cancel_publishes {signers : List Address} {operation : Operation}
    (succeeded : cancel codec env signers operation before =
      .ok (result, after)) :
    after.events = before.events ++
      [.opCancelled (codec.hash operation) (caller signers)] := by
  simp only [cancel, Tx.bind_ok, verifyThresholdAuth_ok, assertNotPaused_ok,
    unwrapFirst_ok, consumeScheduledOperation_ok, emit_ok] at succeeded
  obtain ⟨_, _, ⟨_, rfl⟩, _, _, ⟨_, rfl⟩, first, _, ⟨leading, rfl⟩, slot, _,
    found, _, _, rfl, rfl⟩ := succeeded
  obtain ⟨_, rfl⟩ := findScheduled_ok found
  rw [caller_eq leading]
  rfl

theorem cancelAll_publishes {signers : List Address}
    {operations : List Operation} {cancelled : UInt32}
    (succeeded : cancelAll codec env signers operations before =
      .ok (cancelled, after)) :
    after.events = before.events ++
      [.opCancelledBatch (caller signers) cancelled] := by
  simp only [cancelAll, Tx.bind_ok, verifyThresholdAuth_ok,
    assertNotPaused_ok, unwrapFirst_ok, rejectIf_ok, emit_ok, Tx.pure_ok]
    at succeeded
  obtain ⟨_, _, ⟨_, rfl⟩, _, _, ⟨_, rfl⟩, first, _, ⟨leading, rfl⟩, _, _,
    ⟨_, rfl⟩, total, middle, looped, _, _, rfl, rfl, rfl⟩ := succeeded
  obtain ⟨count, _, _, drained⟩ := cancelEach_ok looped
  obtain ⟨slots, counter, rfl⟩ := drained.unchanged
  rw [caller_eq leading]
  rfl

theorem registerMerchant_publishes {signers : List Address}
    {merchant : Address}
    (succeeded : registerMerchant env signers merchant before =
      .ok (result, after)) :
    after.events = before.events ++ .merchantConsent merchant ::
      (Operation.registerMerchant merchant).publishes env before
        (caller signers) := by
  simp only [registerMerchant, Tx.bind_ok, assertAdminAndNotPaused_ok,
    validateNonzeroAddress_ok, unwrapFirst_ok, requireAuth_ok, emit_ok]
    at succeeded
  obtain ⟨_, _, ⟨_, rfl⟩, _, _, ⟨_, rfl⟩, admin, _, ⟨leading, rfl⟩, _, _,
    checked, _, _, ⟨_, rfl⟩, _, _, rfl, added⟩ := succeeded
  obtain ⟨_, rfl⟩ := rejectAdminMerchant_ok checked
  rw [addMerchant_publishes added, caller_eq leading, State.soft_events,
    List.append_assoc]
  rfl

theorem unregisterMerchant_publishes {signers : List Address}
    {merchant : Address}
    (succeeded : unregisterMerchant env signers merchant before =
      .ok (result, after)) :
    after.events = before.events ++
      (Operation.unregisterMerchant merchant).publishes env before
        (caller signers) := by
  simp only [unregisterMerchant, Tx.bind_ok, assertAdminAndNotPaused_ok,
    unwrapFirst_ok] at succeeded
  obtain ⟨_, _, ⟨_, rfl⟩, admin, _, ⟨leading, rfl⟩, removed⟩ := succeeded
  rw [caller_eq leading]
  exact removeMerchant_publishes removed

theorem updateGovernance_publishes {signers : List Address}
    {newGovernance : Address}
    (succeeded : updateGovernance env signers newGovernance before =
      .ok (result, after)) :
    after.events = before.events ++
      (Operation.updateGovernance newGovernance).publishes env before
        (caller signers) := by
  simp only [updateGovernance, Tx.bind_ok, assertAdminAndNotPaused_ok,
    validateGovernance_ok, unwrapFirst_ok] at succeeded
  obtain ⟨_, _, ⟨_, rfl⟩, _, _, ⟨_, rfl⟩, admin, _, ⟨leading, rfl⟩,
    stored⟩ := succeeded
  rw [caller_eq leading]
  exact storeGovernance_publishes stored

theorem setSettlementRule_publishes {signers : List Address}
    {merchant : Address} {rule : SettlementRule}
    (succeeded : setSettlementRule env signers merchant rule before =
      .ok (result, after)) :
    after.events = before.events ++
      (Operation.setSettlementRule merchant rule).publishes env before
        (caller signers) := by
  simp only [setSettlementRule, Tx.bind_ok, assertAdminAndNotPaused_ok,
    unwrapFirst_ok, validateNonzeroAddress_ok] at succeeded
  obtain ⟨_, _, ⟨_, rfl⟩, admin, _, ⟨leading, rfl⟩, _, _, ⟨_, rfl⟩, _, _,
    looked, _, _, checked, _, _, capped, stored⟩ := succeeded
  obtain ⟨_, rfl⟩ := validateRuleBounds_ok checked
  obtain rfl := validateFeeAgainstGovernance_ok capped
  rw [caller_eq leading, storeRule_publishes stored,
    assertMerchantRegistered_publishes looked]

theorem clearSettlementRule_publishes {signers : List Address}
    {merchant : Address}
    (succeeded : clearSettlementRule env signers merchant before =
      .ok (result, after)) :
    after.events = before.events ++
      (Operation.clearSettlementRule merchant).publishes env before
        (caller signers) := by
  simp only [clearSettlementRule, removeRule, Tx.readState_bind, Tx.bind_ok,
    assertAdminAndNotPaused_ok, unwrapFirst_ok, orReject_ok,
    Tx.writeState_ok, emit_ok] at succeeded
  obtain ⟨_, _, ⟨_, rfl⟩, admin, _, ⟨leading, rfl⟩, removed, _,
    ⟨stored, rfl⟩, _, _, rfl, fallback, _, resolved, rfl⟩ := succeeded
  rw [caller_eq leading]
  exact removal_publishes stored resolved

theorem setDefaultRule_publishes {signers : List Address}
    {newRule : SettlementRule}
    (succeeded : setDefaultRule env signers newRule before =
      .ok (result, after)) :
    after.events = before.events ++
      (Operation.setDefaultRule newRule).publishes env before
        (caller signers) := by
  simp only [setDefaultRule, Tx.bind_ok, assertAdminAndNotPaused_ok,
    unwrapFirst_ok] at succeeded
  obtain ⟨_, _, ⟨_, rfl⟩, admin, _, ⟨leading, rfl⟩, _, _, checked, _, _,
    capped, stored⟩ := succeeded
  obtain ⟨_, rfl⟩ := validateRuleBounds_ok checked
  obtain rfl := validateFeeAgainstGovernance_ok capped
  rw [caller_eq leading]
  exact storeDefaultRule_publishes stored

theorem storePaymentReference_publishes {merchant : Address}
    {reference : BytesN 32} {amount : I128} {split : FeeSplit}
    (succeeded : storePaymentReference env merchant reference amount
      before = .ok (split, after)) :
    after.events = before.events ++
      paymentEvents env before merchant reference amount split := by
  obtain ⟨_, rule, middle, count, live, live', resolved, _, _, rfl⟩ :=
    storePaymentReference_ok succeeded
  obtain ⟨rfl, _, rfl⟩ := readRuleOrDefault_exact resolved
  simp only [State.soft_events, List.append_nil]
  rfl

theorem prunePayments_publishes {signers : List Address}
    {merchant : Address} {refs : List (BytesN 32)} {removed : UInt32}
    (succeeded : prunePayments env signers merchant refs before =
      .ok (removed, after)) :
    after.events = before.events ++
      [.paymentsPruned merchant (caller signers) removed] := by
  simp only [prunePayments, Tx.bind_ok, verifyThresholdAuth_ok, rejectIf_ok,
    unwrapFirst_ok, emit_ok, Tx.pure_ok] at succeeded
  obtain ⟨_, _, ⟨_, rfl⟩, _, _, ⟨_, rfl⟩, total, middle, looped, _, _,
    counting, admin, _, ⟨leading, rfl⟩, _, _, rfl, rfl, rfl⟩ := succeeded
  obtain ⟨count, _, _, pruned⟩ := pruneEach_ok looped
  obtain ⟨counts, live, _, rfl⟩ := decrementPaymentCount_ok counting
  have table := pruned.table
  subst table
  rw [caller_eq leading]
  simp only [State.soft_events, List.append_nil]

/-- The log grows by exactly what the call is to publish. -/
theorem invoke_publishes {call : Call} {reply : Reply}
    (succeeded : invoke codec env call before = .ok (reply, after)) :
    after.events = before.events ++
      call.publishes codec env before reply := by
  have effect := invoke_effect succeeded
  cases call
  all_goals obtain ⟨_, ran, same⟩ := replying_ok.mp succeeded
  case updateGovernance => exact updateGovernance_publishes ran
  case initiateRecovery =>
      cases effect with
      | initiateRecovery stored _ _ _ deadline =>
          simp only [Call.publishes, stored, deadline_eq deadline]
          rfl
      | administer direct => cases direct
      | query reads => cases reads
  case cancelRecovery => exact cancelRecovery_publishes ran
  case updateRecoveryAddress => exact updateRecoveryAddress_publishes ran
  case executeRecovery =>
      cases effect with
      | executeRecovery stored =>
          simp only [Call.publishes, stored]
          rfl
      | administer direct => cases direct
      | query reads => cases reads
  case transferAdmin => exact transferAdmin_publishes ran
  case changeThreshold => exact changeThreshold_publishes ran
  case upgrade => exact upgrade_publishes ran
  case pause => exact (pause_publishes ran).1
  case unpause => exact unpause_publishes ran
  case migrate => exact migrate_publishes ran
  case schedule => exact schedule_publishes ran
  case execute => exact execute_publishes ran
  case cancel => exact cancel_publishes ran
  case cancelAll =>
      subst same
      exact cancelAll_publishes ran
  case registerMerchant => exact registerMerchant_publishes ran
  case unregisterMerchant => exact unregisterMerchant_publishes ran
  case setSettlementRule => exact setSettlementRule_publishes ran
  case clearSettlementRule => exact clearSettlementRule_publishes ran
  case setDefaultRule => exact setDefaultRule_publishes ran
  case storePaymentReference =>
      subst same
      exact storePaymentReference_publishes ran
  case prunePayment =>
      cases effect with
      | prunePayment _ _ stored =>
          simp only [Call.publishes, stored]
          rfl
      | pruneNothing _ _ absent => simp [Call.publishes, absent]
      | administer direct => cases direct
      | query reads => cases reads
  case prunePayments =>
      subst same
      exact prunePayments_publishes ran
  case init =>
      cases effect with
      | init => exact (List.append_nil _).symm
      | administer direct => cases direct
      | query reads => cases reads
  all_goals
    cases effect with
    | administer direct => cases direct
    | query => rfl

end Calls

end BettaPay.Settlement
