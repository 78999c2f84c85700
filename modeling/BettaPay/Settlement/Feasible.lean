import BettaPay.Settlement.Degradation
import BettaPay.Settlement.Queue

namespace BettaPay.Settlement

open BettaPay.Host
open BettaPay.Host.Tx (readState writeState)
open BettaPay.Common

/-! Which operations the timelock can ever queue, and which it can ever
execute. -/

/-- What an operation has to be for some run to execute it. -/
def Operation.Feasible : Operation → Prop
  | .updateGovernance newGovernance => newGovernance ≠ zeroAddress
  | .cancelRecovery => True
  | .transferAdmin newAdmins newThreshold =>
      ValidAdmins newAdmins newThreshold
  | .upgrade wasmHash => wasmHash ≠ 0
  | .registerMerchant merchant => merchant ≠ zeroAddress
  | .unregisterMerchant merchant => merchant ≠ zeroAddress
  | .setSettlementRule merchant rule =>
      merchant ≠ zeroAddress ∧ WithinLimits rule
  | .clearSettlementRule merchant => merchant ≠ zeroAddress
  | .setDefaultRule rule => WithinLimits rule

variable {codec : Codec} {operation : Operation}

/-! What is executed is feasible. -/

theorem Registry.Sound.registered_nonzero {registry : Registry}
    {merchant : Address} (sound : registry.Sound)
    (registered : registry.merchant merchant = true) :
    merchant ≠ zeroAddress := by
  rintro rfl
  rw [sound.nonzero] at registered
  cases registered

theorem dispatch_upgrade_nonzero {env : Env} {executor : Address}
    {wasmHash : BytesN 32} {before after : State} {result : Unit}
    (succeeded : dispatch env executor (.upgrade wasmHash) before =
      .ok (result, after)) : wasmHash ≠ 0 := by
  simp only [dispatch, Timelocked.upgrade, Tx.bind_ok, rejectIf_ok]
    at succeeded
  obtain ⟨_, _, ⟨nonzero, _⟩, _⟩ := succeeded
  exact nonzero

theorem BoundedRule.withinLimits {rule : SettlementRule}
    (bounded : BoundedRule rule) : WithinLimits rule :=
  ⟨.of_legs bounded.platformAtLeast bounded.platformAtMost
      bounded.networkAtLeast bounded.networkAtMost,
    UInt32.le_iff_toNat_le.mp bounded.delayAtMost⟩

theorem dispatch_feasible {env : Env} {executor : Address}
    {before after : State} {result : Unit}
    (sound : before.registry.Sound)
    (succeeded : dispatch env executor operation before =
      .ok (result, after)) : operation.Feasible := by
  cases dispatch_applied succeeded with
  | updateGovernance nonzero => exact nonzero
  | cancelRecovery => trivial
  | transferAdmin _ valid => exact valid
  | upgrade => exact dispatch_upgrade_nonzero succeeded
  | registerMerchant nonzero => exact nonzero
  | unregisterMerchant registered =>
      exact sound.registered_nonzero registered
  | setSettlementRule _ registered bounded =>
      exact ⟨sound.registered_nonzero registered, bounded.withinLimits⟩
  | clearSettlementRule _ stored =>
      exact sound.registered_nonzero (sound.ruled _ _ stored)
  | setDefaultRule bounded => exact bounded.withinLimits

theorem execute_feasible {inputs : List Input} {index : Nat} {env : Env}
    {executor : Address}
    (committed : Commits codec inputs index env
      (.execute executor operation)) :
    (codec.toXdr operation).length ≤ 4096 ∧ operation.Feasible := by
  obtain ⟨reply, _, succeeded⟩ := committed
  obtain ⟨_, ran, _⟩ := replying_ok.mp succeeded
  simp only [execute, Tx.bind_ok, consumeScheduledOperation_ok] at ran
  obtain ⟨_, _, validated, _, _, rfl, _, _, dispatched, _⟩ := ran
  obtain ⟨slot, queued, _, _, _, rfl, rfl⟩ :=
    validateScheduledExecution_ok validated
  constructor
  · obtain ⟨_, _, _, _, _, _, _, scheduled⟩ := slot_scheduled queued.1
    rw [← queued.2]
    exact scheduled.small
  · have sound := Reachable.registry_sound
      (⟨inputs.take index, rfl⟩ : Reachable codec
        (stateBefore codec inputs index))
    exact dispatch_feasible (by exact sound) dispatched

/-! What is feasible is executed, at the end of a run that prepares it. -/

/-- Everybody authorizes the call, governance answers that it has no fees, and
new code supports the interface. -/
def Env.willing (timestamp : UInt64) : Env :=
  { Env.granting timestamp with probe := fun _ _ => some (.value (.bool true)) }

/-- A contract that is going, has one admin and an empty queue. -/
structure Staffed (codec : Codec) (admin : Address) (state : State) :
    Prop where
  reachable : Reachable codec state
  sole : state.admin = some [admin]
  required : state.threshold = some 1
  governed : state.governance = some (.contract 5)
  rescued : state.recoveryAddress = some (.account 2)
  going : state.isPaused = false
  idle : state.scheduledOperation = fun _ => none
  undefaulted : state.defaultRule = none

theorem Staffed.quorum {admin : Address} {state : State}
    (staffed : Staffed codec admin state) (timestamp : UInt64) :
    state.authority.Quorum (Env.willing timestamp).toLedger [admin] :=
  Authority.quorum_of_sole staffed.sole staffed.required rfl

theorem Reachable.after {state after : State} {env : Env} {call : Call}
    {reply : Reply} (reachable : Reachable codec state)
    (succeeded : invoke codec env call state = .ok (reply, after)) :
    Reachable codec after := by
  obtain ⟨inputs, rfl⟩ := reachable
  refine ⟨inputs ++ [⟨env, call⟩], ?_⟩
  rw [run_append]
  exact commit_of_ok succeeded

theorem Reachable.commits {state : State} {env : Env} {call : Call}
    (reachable : Reachable codec state)
    (accepted : (invoke codec env call state).isOk = true) :
    ∃ inputs index, Commits codec inputs index env call := by
  obtain ⟨inputs, rfl⟩ := reachable
  refine ⟨inputs ++ [⟨env, call⟩], inputs.length,
    commits_of_accepted ?_ ?_⟩
  · rw [List.getElem?_append_right (Nat.le_refl _), Nat.sub_self]
    rfl
  · rw [stateBefore, stateAt, List.take_left]
    exact accepted

theorem staffed_of_init {admin : Address} (nonzero : admin ≠ zeroAddress) :
    ∃ state, Staffed codec admin state ∧
      state.merchant = (fun _ => false) ∧ state.rule = (fun _ => none) ∧
      state.pendingRecovery = none := by
  have valid : ValidAdmins [admin] 1 :=
    ⟨by simpa using nonzero.symm, by simp, by decide, by simp⟩
  have ran : ∃ after, init (.willing 0) (.account 9) [admin] 1 (.contract 5)
      (.account 2) State.initial = .ok ((), after) := by
    simp only [init, Tx.readState_bind, Tx.bind_ok, rejectIf_ok,
      requireAuth_ok, validateAdminsAndThreshold_ok, Tx.writeState_ok,
      validateGovernance_ok, validateNonzeroAddress_ok, requireAllAuth_ok,
      writeAdmins_ok]
    exact ⟨_, (), _, ⟨by decide, rfl⟩, (), _, ⟨rfl, rfl⟩, (), _,
      ⟨by decide, rfl⟩, (), _, ⟨valid, rfl⟩, (), _, rfl, (), _,
      ⟨by decide, rfl⟩, (), _, ⟨by decide, rfl⟩, (), _,
      ⟨fun _ _ => rfl, rfl⟩, (), _, rfl, (), _, ⟨valid, rfl⟩, rfl⟩
  obtain ⟨after, ran⟩ := ran
  have committed : invoke codec (.willing 0) (.init (.account 9) [admin] 1
      (.contract 5) (.account 2)) State.initial = .ok (.unit, after) :=
    replying_ok.mpr ⟨(), ran, rfl⟩
  have reached : Reachable codec after :=
    Reachable.after ⟨[], rfl⟩ committed
  cases invoke_effect committed with
  | init =>
      exact ⟨_, ⟨reached, rfl, rfl, rfl, rfl, rfl, rfl, rfl⟩, rfl, rfl, rfl⟩
  | administer direct => cases direct
  | query reads => cases reads

/-- A contract with an admin other than `merchant`. -/
theorem exists_staffed (codec : Codec) (merchant : Address) :
    ∃ admin state, merchant ≠ admin ∧ Staffed codec admin state ∧
      state.merchant = (fun _ => false) ∧ state.rule = (fun _ => none) ∧
      state.pendingRecovery = none := by
  by_cases same : merchant = .account 1
  · obtain ⟨state, staffed⟩ :=
      @staffed_of_init codec (.account 3) (by decide)
    exact ⟨.account 3, state, by rw [same]; decide, staffed⟩
  · obtain ⟨state, staffed⟩ :=
      @staffed_of_init codec (.account 1) (by decide)
    exact ⟨.account 1, state, same, staffed⟩

theorem Staffed.schedules {admin : Address} {state : State}
    (staffed : Staffed codec admin state)
    (bounded : operation.WithinBounds)
    (small : (codec.toXdr operation).length ≤ 4096) :
    ∃ after, invoke codec (.willing 1000)
      (.schedule [admin] operation 604800) state = .ok (.unit, after) := by
  have answered : assertGovernanceReachable (.willing 1000) state =
      .ok ((), state) := by
    simp [assertGovernanceReachable, readGovernance, staffed.governed,
      invokeGovernanceGetFeeConfig, Env.willing, Env.granting]
  have vacant : rejectOccupied (codec.toXdr operation)
      (state.scheduledOperation (codec.sha256 (codec.toXdr operation)))
      state = .ok ((), state) := by
    rw [staffed.idle]
    rfl
  have ran : ∃ after, schedule codec (.willing 1000) [admin] operation 604800
      state = .ok ((), after) := by
    simp only [schedule, setScheduledOperation, Tx.readState_bind,
      Tx.bind_ok, assertAdminAndNotPaused_ok, unwrapFirst_ok, rejectIf_ok,
      orReject_ok, Tx.writeState_ok, extendTtl_ok,
      incrementPendingOperationCount_ok, emit_ok, Nat.not_lt]
    exact ⟨_, (), _, ⟨⟨staffed.going, staffed.quorum 1000⟩, rfl⟩, admin, _,
      ⟨rfl, rfl⟩, (), _, ⟨by decide, rfl⟩, (), _, ⟨by decide, rfl⟩, (), _,
      ⟨by decide, rfl⟩, (), _, validateOperationBounds_passes bounded, (), _,
      ⟨small, rfl⟩, (), _, answered, (), _, vacant, _, _, ⟨rfl, rfl⟩, (), _,
      rfl, (), _, rfl, (), _, rfl, rfl⟩
  obtain ⟨after, ran⟩ := ran
  exact ⟨after, replying_ok.mpr ⟨(), ran, rfl⟩⟩

theorem execute_ready {env : Env} {executor : Address} {state : State}
    {slot : ScheduledOp} (queued : Queued codec state operation slot)
    (matured : slot.executeAt ≤ env.timestamp)
    (unpaused : state.isPaused = false)
    (unvetoed : state.pendingRecovery = none ∨
      operation = .cancelRecovery) :
    execute codec env executor operation state =
      (do
        dispatch env executor operation
        emit (.opExecuted (codec.hash operation)))
        (state.released (codec.hash operation)) := by
  obtain ⟨stored, encoded⟩ := queued
  have found : findScheduled codec operation state = .ok (slot, state) := by
    simp [findScheduled, stored, encoded]
  have admitted : ¬ (state.pendingRecovery.isSome = true ∧
      operation ≠ .cancelRecovery) := by
    rcases unvetoed with absent | same
    · simp [absent]
    · simp [same]
  have validated : validateScheduledExecution codec env operation state =
      .ok (codec.hash operation, state) := by
    rw [validateScheduledExecution,
      Tx.bind_of_ok (assertNotPaused_passes unpaused), Tx.bind_of_ok found,
      rejectIf_bind (UInt64.not_lt.mpr matured), Tx.readState_bind,
      rejectIf_bind admitted]
    rfl
  have consumed : consumeScheduledOperation (codec.hash operation) state =
      .ok ((), state.released (codec.hash operation)) :=
    consumeScheduledOperation_ok.mpr rfl
  rw [execute, Tx.bind_of_ok validated, Tx.bind_of_ok consumed]

/-- An operation whose writes go through is scheduled and, seven days later,
executed. -/
theorem Staffed.executes {admin : Address} {state : State}
    (staffed : Staffed codec admin state)
    (bounded : operation.WithinBounds)
    (small : (codec.toXdr operation).length ≤ 4096)
    (unvetoed : state.pendingRecovery = none ∨ operation = .cancelRecovery)
    (goes : ∀ slots counter live events,
      (dispatch (.willing 700000) (.account 9) operation
        { state with
          scheduledOperation := slots
          pendingOperationCount := counter
          liveUntil := live
          events := events }).isOk = true) :
    ∃ inputs index env executor,
      Commits codec inputs index env (.execute executor operation) := by
  obtain ⟨after, scheduled⟩ := staffed.schedules bounded small
  obtain ⟨_, ran, _⟩ := replying_ok.mp scheduled
  obtain ⟨_, caller, executeAt, deadline, same⟩ := schedule_ok ran
  have queued : Queued codec after operation
      { operationXdr := codec.toXdr operation, executeAt := executeAt } := by
    rw [same]
    exact ⟨Function.update_self .., rfl⟩
  have matured : executeAt ≤ (Env.willing 700000).timestamp := by
    rw [UInt64.le_iff_toNat_le, deadline]
    decide
  have unpaused : after.isPaused = false := by
    rw [same]
    exact staffed.going
  have unvetoed : after.pendingRecovery = none ∨
      operation = .cancelRecovery := by
    rw [same]
    exact unvetoed
  have accepted : (invoke codec (.willing 700000)
      (.execute (.account 9) operation) after).isOk = true := by
    rw [invoke, replying_isOk,
      execute_ready queued matured unpaused unvetoed,
      Tx.bind_isOk fun _ _ => rfl, same]
    exact goes _ _ _ _
  obtain ⟨inputs, index, committed⟩ :=
    (staffed.reachable.after scheduled).commits accepted
  exact ⟨inputs, index, _, _, committed⟩

/-- What the operation has to find in the state. -/
def Operation.Prepared (state : State) : Operation → Prop
  | .registerMerchant merchant =>
      state.merchant merchant = false ∧ state.admin ≠ none ∧
        ∀ admins, state.admin = some admins → merchant ∉ admins
  | .unregisterMerchant merchant => state.merchant merchant = true
  | .setSettlementRule merchant _ => state.merchant merchant = true
  | .clearSettlementRule merchant => state.rule merchant ≠ none
  | .transferAdmin newAdmins _ => state.admin ≠ none ∧
      ∀ admin, admin ∈ newAdmins → state.merchant admin = false
  | .cancelRecovery => state.pendingRecovery ≠ none
  | _ => True

section Dispatch

variable {state : State} {timestamp : UInt64}

theorem ceilingError_willing {rule : SettlementRule}
    (governed : state.governance = some (.contract 5)) :
    state.ceilingError (.willing timestamp) rule = none := by
  simp [State.ceilingError, governed, Env.willing, Env.granting,
    classifyGovernanceFeeConfig, ceilingViolation]

theorem fallbackError_willing
    (governed : state.governance = some (.contract 5))
    (undefaulted : state.defaultRule = none) :
    state.fallbackError (.willing timestamp) = none := by
  simp only [State.fallbackError, undefaulted, State.reading, governed,
    Env.willing, Env.granting, Reading.ofAnswer, classifyGovernanceFeeConfig]
  rfl

theorem checks_prepared
    (governed : state.governance = some (.contract 5))
    (undefaulted : state.defaultRule = none)
    (feasible : operation.Feasible) (prepared : operation.Prepared state) :
    firstError (operation.checks (.willing timestamp) state) = none := by
  have capped := @ceilingError_willing state timestamp
  have resolved := @fallbackError_willing state timestamp governed undefaulted
  cases operation with
  | updateGovernance newGovernance =>
      have nonzero : newGovernance ≠ zeroAddress := feasible
      simp [Operation.checks, isZeroAddress_eq_true, nonzero]
  | registerMerchant merchant =>
      have nonzero : merchant ≠ zeroAddress := feasible
      obtain ⟨unregistered, present, separate⟩ := prepared
      obtain ⟨admins, stored⟩ := Option.ne_none_iff_exists'.mp present
      simp [Operation.checks, State.adminMerchantError, stored, nonzero,
        unregistered, separate admins stored, isZeroAddress_eq_true]
  | unregisterMerchant merchant =>
      have registered : state.merchant merchant = true := prepared
      simp [Operation.checks, registered, resolved]
  | setSettlementRule merchant rule =>
      have registered : state.merchant merchant = true := prepared
      simp [Operation.checks, capped governed, registered,
        ruleBoundsError_eq_none.mpr feasible.2]
  | clearSettlementRule merchant =>
      have ruled : state.rule merchant ≠ none := prepared
      simp [Operation.checks, resolved, ruled]
  | setDefaultRule rule =>
      simp [Operation.checks, capped governed,
        ruleBoundsError_eq_none.mpr feasible]
  | _ => rfl

theorem dispatch_prepared (going : state.isPaused = false)
    (governed : state.governance = some (.contract 5))
    (undefaulted : state.defaultRule = none)
    (feasible : operation.Feasible) (prepared : operation.Prepared state)
    (executor : Address) :
    (dispatch (.willing timestamp) executor operation state).isOk = true := by
  cases operation with
  | cancelRecovery =>
      have pending : state.pendingRecovery ≠ none := prepared
      simp only [dispatch, Timelocked.cancelRecovery, Tx.readState_bind]
      rw [rejectIf_bind pending]
      rfl
  | transferAdmin newAdmins newThreshold =>
      obtain ⟨present, separate⟩ := prepared
      obtain ⟨admins, stored⟩ := Option.ne_none_iff_exists'.mp present
      exact (Timelocked.transferAdmin_isOk stored).mpr ⟨feasible, separate⟩
  | upgrade wasmHash =>
      have nonzero : wasmHash ≠ 0 := feasible
      simp only [dispatch, Timelocked.upgrade]
      rw [rejectIf_bind nonzero, Tx.bind_of_ok (assertNotPaused_passes going)]
      rfl
  | _ =>
      rw [(dispatch_decided going rfl).isOk_iff]
      exact checks_prepared governed undefaulted feasible prepared

end Dispatch

/-! How the state is prepared: the admin administers directly, or the recovery
address initiates a recovery. -/

theorem Staffed.administers {admin : Address} {state : State} {call : Call}
    {prior : Operation} (staffed : Staffed codec admin state)
    (carries : call.administers = some ([admin], prior))
    (twofold : prior.isTwofold = true) (feasible : prior.Feasible)
    (prepared : prior.Prepared state) :
    ∃ cache live events,
      Reachable codec ((prior.perform state).soft cache live events) := by
  have consented : prior.consented (.willing 500) := by
    cases prior <;> trivial
  have decided : Decided (prior.directChecks (.willing 500) state)
      (invoke codec (.willing 500) call state) :=
    Call.administers_decided carries twofold (staffed.quorum 500)
      staffed.going rfl consented
  have passed : firstError (prior.directChecks (.willing 500) state) = none :=
    (prior.directChecks_pass rfl staffed.reachable.registry_sound).mpr
      (checks_prepared staffed.governed staffed.undefaulted feasible prepared)
  obtain ⟨reply, after, succeeded⟩ :=
    isOk_iff_exists.mp (decided.isOk_iff.mpr passed)
  obtain ⟨cache, live, events, rfl⟩ :=
    (invoke_effect succeeded).administered carries
  exact ⟨cache, live, events, staffed.reachable.after succeeded⟩

theorem Staffed.registrable {admin merchant : Address} {state : State}
    (staffed : Staffed codec admin state)
    (merchants : state.merchant = fun _ => false)
    (distinct : merchant ≠ admin) :
    (Operation.registerMerchant merchant).Prepared state := by
  refine ⟨by rw [merchants], by simp [staffed.sole], ?_⟩
  intro admins stored listed
  cases staffed.sole.symm.trans stored
  exact distinct (List.mem_singleton.mp listed)

theorem exists_registered {merchant : Address}
    (nonzero : merchant ≠ zeroAddress) :
    ∃ admin state, Staffed codec admin state ∧
      state.merchant merchant = true ∧ state.pendingRecovery = none := by
  obtain ⟨admin, state, distinct, staffed, merchants, _, unvetoed⟩ :=
    exists_staffed codec merchant
  obtain ⟨_, _, _, reached⟩ := @Staffed.administers codec admin state
    (.registerMerchant [admin] merchant) _ staffed rfl rfl nonzero
    (staffed.registrable merchants distinct)
  refine ⟨admin, _, ⟨reached, staffed.sole, staffed.required,
    staffed.governed, staffed.rescued, staffed.going, staffed.idle,
    staffed.undefaulted⟩, Function.update_self .., unvetoed⟩

theorem exists_ruled {merchant : Address} (nonzero : merchant ≠ zeroAddress) :
    ∃ admin state, Staffed codec admin state ∧
      state.rule merchant ≠ none ∧ state.pendingRecovery = none := by
  obtain ⟨admin, state, staffed, registered, unvetoed⟩ :=
    @exists_registered codec merchant nonzero
  obtain ⟨_, _, _, reached⟩ := @Staffed.administers codec admin state
    (.setSettlementRule [admin] merchant bootstrapDefaultRule) _ staffed rfl
    rfl ⟨nonzero, ruleBoundsError_eq_none.mp rfl⟩ registered
  refine ⟨admin, _, ⟨reached, staffed.sole, staffed.required,
    staffed.governed, staffed.rescued, staffed.going, staffed.idle,
    staffed.undefaulted⟩, ?_, unvetoed⟩
  exact Option.ne_none_iff_exists'.mpr ⟨_, Function.update_self ..⟩

theorem exists_recovering :
    ∃ admin state, Staffed codec admin state ∧
      state.pendingRecovery ≠ none := by
  obtain ⟨admin, state, _, staffed, _, _, absent⟩ :=
    exists_staffed codec (.account 3)
  have free : ¬ state.pendingRecovery.isSome = true := by simp [absent]
  have ran : ∃ after, initiateRecovery (.willing 500) (.account 4) state =
      .ok ((), after) := by
    simp only [initiateRecovery, Tx.readState_bind, Tx.bind_ok,
      readRecoveryAddress_ok, requireAuth_ok, validateNonzeroAddress_ok,
      rejectIf_ok, orTrap_ok, Tx.writeState_ok, emit_ok]
    exact ⟨_, _, _, ⟨staffed.rescued, rfl⟩, (), _, ⟨rfl, rfl⟩, (), _,
      ⟨by decide, rfl⟩, (), _, ⟨free, rfl⟩, _, _, ⟨rfl, rfl⟩, (), _, rfl,
      rfl⟩
  obtain ⟨after, ran⟩ := ran
  have succeeded : invoke codec (.willing 500)
      (.initiateRecovery (.account 4)) state = .ok (.unit, after) :=
    replying_ok.mpr ⟨(), ran, rfl⟩
  have reached := staffed.reachable.after succeeded
  cases invoke_effect succeeded with
  | initiateRecovery =>
      refine ⟨admin, _, ⟨reached, staffed.sole, staffed.required,
        staffed.governed, staffed.rescued, staffed.going, staffed.idle,
        staffed.undefaulted⟩, ?_⟩
      exact Option.ne_none_iff_exists'.mpr ⟨_, rfl⟩
  | administer direct => cases direct
  | query reads => cases reads

theorem exists_prepared (feasible : operation.Feasible) :
    ∃ admin state, Staffed codec admin state ∧ operation.Prepared state ∧
      (state.pendingRecovery = none ∨ operation = .cancelRecovery) := by
  cases operation with
  | registerMerchant merchant =>
      obtain ⟨admin, state, distinct, staffed, merchants, _, unvetoed⟩ :=
        exists_staffed codec merchant
      exact ⟨admin, state, staffed, staffed.registrable merchants distinct,
        .inl unvetoed⟩
  | unregisterMerchant merchant =>
      obtain ⟨admin, state, staffed, registered, unvetoed⟩ :=
        @exists_registered codec merchant feasible
      exact ⟨admin, state, staffed, registered, .inl unvetoed⟩
  | setSettlementRule merchant rule =>
      obtain ⟨admin, state, staffed, registered, unvetoed⟩ :=
        @exists_registered codec merchant feasible.1
      exact ⟨admin, state, staffed, registered, .inl unvetoed⟩
  | clearSettlementRule merchant =>
      obtain ⟨admin, state, staffed, ruled, unvetoed⟩ :=
        @exists_ruled codec merchant feasible
      exact ⟨admin, state, staffed, ruled, .inl unvetoed⟩
  | cancelRecovery =>
      obtain ⟨admin, state, staffed, pending⟩ := @exists_recovering codec
      exact ⟨admin, state, staffed, pending, .inr rfl⟩
  | transferAdmin newAdmins newThreshold =>
      obtain ⟨admin, state, _, staffed, merchants, _, unvetoed⟩ :=
        exists_staffed codec (.account 3)
      refine ⟨admin, state, staffed, ⟨by simp [staffed.sole], ?_⟩,
        .inl unvetoed⟩
      intro admin _
      rw [merchants]
  | _ =>
      obtain ⟨admin, state, _, staffed, _, _, unvetoed⟩ :=
        exists_staffed codec (.account 3)
      exact ⟨admin, state, staffed, trivial, .inl unvetoed⟩

theorem Operation.Feasible.withinBounds (feasible : operation.Feasible) :
    operation.WithinBounds := by
  cases operation with
  | transferAdmin => exact ⟨feasible.positive, feasible.attainable⟩
  | setSettlementRule =>
      exact UInt32.le_iff_toNat_le.mpr feasible.2.delay
  | _ => trivial

theorem schedule_bounded {inputs : List Input} {index : Nat} {env : Env}
    {signers : List Address} {executeIn : UInt64}
    (committed : Commits codec inputs index env
      (.schedule signers operation executeIn)) :
    (codec.toXdr operation).length ≤ 4096 ∧ operation.WithinBounds := by
  obtain ⟨reply, _, succeeded⟩ := committed
  obtain ⟨_, ran, _⟩ := replying_ok.mp succeeded
  obtain ⟨⟨_, _, _, _, bounded, small, _⟩, _⟩ := schedule_ok ran
  exact ⟨small, bounded⟩

/-- An operation is queued by some run exactly if it is small enough and passes
the few checks of the scheduling, and executed by some run exactly if it is
small enough and feasible. -/
theorem timelock_reach (codec : Codec) (operation : Operation) :
    ((∃ inputs index env signers executeIn, Commits codec inputs index env
        (.schedule signers operation executeIn)) ↔
      (codec.toXdr operation).length ≤ 4096 ∧ operation.WithinBounds) ∧
    ((∃ inputs index env executor,
        Commits codec inputs index env (.execute executor operation)) ↔
      (codec.toXdr operation).length ≤ 4096 ∧ operation.Feasible) := by
  constructor
  case left =>
    constructor
    · intro given
      obtain ⟨_, _, _, _, _, committed⟩ := given
      exact schedule_bounded committed
    · intro given
      obtain ⟨small, bounded⟩ := given
      obtain ⟨admin, state, _, staffed, _⟩ :=
        exists_staffed codec (.account 3)
      obtain ⟨after, scheduled⟩ := staffed.schedules bounded small
      obtain ⟨inputs, index, committed⟩ :=
        staffed.reachable.commits (isOk_iff_exists.mpr ⟨_, _, scheduled⟩)
      exact ⟨inputs, index, _, _, _, committed⟩
  case right =>
    constructor
    · intro given
      obtain ⟨_, _, _, _, committed⟩ := given
      exact execute_feasible committed
    · intro given
      obtain ⟨small, feasible⟩ := given
      obtain ⟨admin, state, staffed, prepared, unvetoed⟩ :=
        @exists_prepared codec operation feasible
      apply staffed.executes feasible.withinBounds small unvetoed
      intro slots counter live events
      apply dispatch_prepared
      case going => exact staffed.going
      case governed => exact staffed.governed
      case undefaulted => exact staffed.undefaulted
      case feasible => exact feasible
      case prepared => cases operation <;> exact prepared

end BettaPay.Settlement
