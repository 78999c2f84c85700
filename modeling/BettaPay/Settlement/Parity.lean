import BettaPay.Settlement.Precedence

namespace BettaPay.Settlement

open BettaPay.Host
open BettaPay.Host.Tx (readState writeState)
open BettaPay.Common

/-! The direct and the timelocked path of an operation. -/

/-- What an operation writes, whichever way it comes. -/
def Operation.perform (state : State) : Operation → State
  | .updateGovernance newGovernance =>
      { state with governance := some newGovernance }
  | .cancelRecovery => { state with pendingRecovery := none }
  | .transferAdmin newAdmins newThreshold =>
      { state with
        admin := some newAdmins
        threshold := some newThreshold }
  | .upgrade wasmHash => { state with wasm := some wasmHash }
  | .registerMerchant merchant =>
      { state with
        merchant := Function.update state.merchant merchant true
        archivedMerchant :=
          Function.update state.archivedMerchant merchant false }
  | .unregisterMerchant merchant =>
      { state with
        merchant := Function.update state.merchant merchant false
        archivedMerchant :=
          Function.update state.archivedMerchant merchant true
        rule := Function.update state.rule merchant none }
  | .setSettlementRule merchant rule =>
      { state with
        rule := Function.update state.rule merchant (some rule) }
  | .clearSettlementRule merchant =>
      { state with rule := Function.update state.rule merchant none }
  | .setDefaultRule rule => { state with defaultRule := some rule }

/-- The executed operation left what the direct call left, less the slot it
came from; lifetimes and events are its own. -/
def SettledAlike (opHash : BytesN 32) (administered executed : State) :
    Prop :=
  ∃ live events, executed =
    { administered.released opHash with
      liveUntil := live
      events := events }

theorem Applied.performs {env : Env} {state after : State}
    {actor : Address} {operation : Operation}
    (applied : Applied env state actor operation after) :
    ∃ cache live events,
      after = (operation.perform state).soft cache live events := by
  cases applied <;> exact ⟨_, _, _, rfl⟩

theorem Operation.perform_soft (operation : Operation) (state : State)
    (cache : Option (Option SettlementRule)) (live : PersistentKey → Nat)
    (events : List Event) :
    operation.perform (state.soft cache live events) =
      (operation.perform state).soft cache live events := by
  cases operation <;> rfl

theorem Effect.administered {codec : Codec} {env : Env}
    {state after : State} {call : Call} {signers : List Address}
    {operation : Operation} (effect : Effect codec env state call after)
    (direct : call.administers = some (signers, operation)) :
    ∃ cache live events,
      after = (operation.perform state).soft cache live events := by
  cases effect with
  | administer direct' _ _ _ prepared applied =>
      cases direct'.symm.trans direct
      subst prepared
      obtain ⟨cache, live, events, rfl⟩ := applied.performs
      rw [Operation.perform_soft, State.soft_soft]
      exact ⟨_, _, _, rfl⟩
  | query reads =>
      cases (Call.operation_of_isQuery reads).symm.trans
        (Call.operation_of_administers direct)
  | _ => cases direct

theorem Effect.executed {codec : Codec} {env : Env}
    {state after : State} {executor : Address} {operation : Operation}
    (effect : Effect codec env state (.execute executor operation) after) :
    ∃ cache live events, after =
      ((operation.perform state).released (codec.hash operation)).soft cache
        live events := by
  cases effect with
  | execute _ _ _ _ applied =>
      obtain ⟨cache, live, events, rfl⟩ := applied.performs
      rw [State.soft_soft]
      have commutes : operation.perform
          (state.released (codec.hash operation)) =
            (operation.perform state).released (codec.hash operation) := by
        cases operation <;> rfl
      rw [commutes]
      exact ⟨_, _, _, rfl⟩
  | administer direct => cases direct
  | query reads => cases reads

theorem Operation.cacheAfter_congr {env direct : Env}
    (agree : direct.governance = env.governance) (operation : Operation)
    (state : State) :
    operation.cacheAfter direct state = operation.cacheAfter env state := by
  cases operation <;>
    simp only [Operation.cacheAfter, State.effectiveCache,
      State.fallbackCache, State.refreshedCache, reading_congr agree]

/-- Whatever the operation, both paths leave the same entries behind. -/
theorem settledAlike_of_ok {codec : Codec} {env direct : Env}
    {executor : Address} {call : Call} {signers : List Address}
    {operation : Operation} {state administered executed : State}
    {reply reply' : Reply}
    (agree : direct.governance = env.governance)
    (carries : call.administers = some (signers, operation))
    (administers : invoke codec direct call state =
      .ok (reply, administered))
    (executes : invoke codec env (.execute executor operation) state =
      .ok (reply', executed)) :
    SettledAlike (codec.hash operation) administered executed := by
  have cached := invoke_cache administers
  have cached' := invoke_cache executes
  rw [Call.cacheAfter, Call.operation_of_administers carries] at cached
  rw [Call.cacheAfter] at cached'
  simp only [Operation.cacheAfter_congr agree] at cached
  obtain ⟨cache, live, events, rfl⟩ :=
    (invoke_effect administers).administered carries
  obtain ⟨cache', live', events', rfl⟩ := (invoke_effect executes).executed
  have same : cache' = cache := cached'.trans cached.symm
  subst same
  exact ⟨live', (operation.perform state).events ++ events', rfl⟩

/-! What each path checks. -/

def State.adminMerchantError (merchant : Address) (state : State) :
    Option SettlementError :=
  match state.admin with
  | none => some .notInitialized
  | some admins => failIf (merchant ∈ admins) .invalidAdmin

/-- The checks of a queued operation, in order. -/
def Operation.checks (env : Env) (state : State) :
    Operation → List (Option SettlementError)
  | .updateGovernance newGovernance =>
      [failIf (isZeroAddress newGovernance) .invalidGovernance]
  | .registerMerchant merchant =>
      [failIf (isZeroAddress merchant) .zeroAddress,
        state.adminMerchantError merchant,
        failIf (state.merchant merchant) .merchantExists]
  | .unregisterMerchant merchant =>
      [failIf (state.merchant merchant = false) .merchantMissing,
        if (state.rule merchant).isSome then state.fallbackError env
        else none]
  | .setSettlementRule merchant rule =>
      [state.ceilingError env rule,
        failIf (state.merchant merchant = false) .merchantMissing,
        ruleBoundsError rule]
  | .clearSettlementRule merchant =>
      [failIf (state.rule merchant = none) .merchantRuleNotSet,
        state.fallbackError env]
  | .setDefaultRule rule =>
      [state.ceilingError env rule, ruleBoundsError rule]
  | _ => []

section Paths

variable {env : Env} {actor merchant : Address} {state : State}

/-- Clearing a rule, whichever way the rule it uncovers is read. -/
theorem clearing_decided {fallback : Contract SettlementRule}
    (resolves : Decided [state.fallbackError env]
      (fallback { state with
        rule := Function.update state.rule merchant none })) :
    Decided
      [failIf (state.rule merchant = none) .merchantRuleNotSet,
        state.fallbackError env]
      ((do
        let removed ← orReject (state.rule merchant) .merchantRuleNotSet
        removeRule merchant
        let fallback ← fallback
        emit (.settlementRuleCleared merchant actor removed fallback) :
          Contract Unit) state) := by
  refine .andThenCheck .ofOrReject ?_
  intro removed middle found
  obtain ⟨_, rfl⟩ := orReject_ok.mp found
  exact .after rfl (.andThen resolves fun _ _ => rfl)

theorem clearSettlementRule_decided {signers : List Address}
    {admin : Address}
    (quorum : state.authority.Quorum env.toLedger signers)
    (unpaused : state.isPaused = false)
    (leads : signers.head? = some admin) :
    Decided
      [failIf (state.rule merchant = none) .merchantRuleNotSet,
        state.fallbackError env]
      (clearSettlementRule env signers merchant state) := by
  rw [clearSettlementRule,
    Tx.bind_of_ok (assertAdminAndNotPaused_passes quorum unpaused),
    Tx.bind_of_ok (unwrapFirst_ok.mpr ⟨leads, rfl⟩), Tx.readState_bind]
  exact clearing_decided (readFallbackRule_decided rfl)

theorem Timelocked.clearSettlementRule_decided
    (unpaused : state.isPaused = false) :
    Decided
      [failIf (state.rule merchant = none) .merchantRuleNotSet,
        state.fallbackError env]
      (Timelocked.clearSettlementRule env actor merchant state) := by
  rw [Timelocked.clearSettlementRule,
    Tx.bind_of_ok (assertNotPaused_passes unpaused), Tx.readState_bind]
  apply clearing_decided
  refine readRuleOrDefault_decided ?_
  simp only [State.resolutionError, Function.update_self]
  rfl

theorem addMerchant_decided {check : Option SettlementError}
    (fresh : check = failIf (state.merchant merchant) .merchantExists) :
    Decided [check] (addMerchant env actor merchant state) := by
  subst fresh
  rw [addMerchant, Tx.readState_bind]
  exact .rejectIf fun _ => .done rfl

theorem clearMerchantRule_decided {check : Option SettlementError}
    (resolves : check = if (state.rule merchant).isSome then
      state.fallbackError env else none) :
    Decided [check] (clearMerchantRule env actor merchant state) := by
  subst resolves
  cases stored : state.rule merchant with
  | none =>
      simp only [clearMerchantRule, Tx.readState_bind, stored]
      exact .skip (.done rfl)
  | some rule =>
      simp only [clearMerchantRule, Tx.readState_bind, stored]
      refine .after rfl ?_
      exact .andThen (readFallbackRule_decided rfl) fun _ _ => rfl

theorem removeMerchant_decided :
    Decided
      [failIf (state.merchant merchant = false) .merchantMissing,
        if (state.rule merchant).isSome then state.fallbackError env
        else none]
      (removeMerchant env actor merchant state) := by
  rw [removeMerchant, Tx.readState_bind]
  refine .rejectIf fun _ => .after rfl (.after rfl (.after rfl ?_))
  exact .andThen (clearMerchantRule_decided rfl) fun _ _ => rfl

theorem rejectAdminMerchant_decided :
    Decided [state.adminMerchantError merchant]
      (rejectAdminMerchant merchant state) := by
  simp only [State.adminMerchantError]
  cases stored : state.admin with
  | none => exact Tx.bind_error.mpr (.inl (by simp [readAdmins, stored]))
  | some admins =>
      have read : readAdmins state = .ok (admins, state) :=
        readAdmins_ok.mpr ⟨stored, rfl⟩
      exact .after read .ofRejectIf

end Paths

/-- The operations that both paths check in full. -/
def Operation.isTwofold : Operation → Bool
  | .cancelRecovery => false
  | .transferAdmin _ _ => false
  | .upgrade _ => false
  | _ => true

/-- A queued operation is decided by its checks. -/
theorem dispatch_decided {env : Env} {executor : Address}
    {operation : Operation} {state : State}
    (unpaused : state.isPaused = false)
    (twofold : operation.isTwofold = true) :
    Decided (operation.checks env state)
      (dispatch env executor operation state) := by
  cases operation with
  | updateGovernance newGovernance =>
      refine .after (assertNotPaused_passes unpaused) ?_
      exact .rejectIf fun _ => .done rfl
  | registerMerchant merchant =>
      refine .after (assertNotPaused_passes unpaused) ?_
      refine .rejectIf fun _ => .andThenCheck rejectAdminMerchant_decided ?_
      intro _ _ separate
      obtain ⟨_, rfl⟩ := rejectAdminMerchant_ok separate
      exact addMerchant_decided rfl
  | unregisterMerchant merchant =>
      exact .after (assertNotPaused_passes unpaused) removeMerchant_decided
  | setSettlementRule merchant rule =>
      exact Timelocked.setSettlementRule_decided unpaused
  | clearSettlementRule merchant =>
      exact Timelocked.clearSettlementRule_decided unpaused
  | setDefaultRule rule => exact Timelocked.setDefaultRule_decided unpaused
  | _ => cases twofold

/-- The same operation, administered directly. A merchant consents to its
registration. -/
def Operation.consented (env : Env) : Operation → Prop
  | .registerMerchant merchant => env.auths merchant = true
  | _ => True

/-- The checks of the direct call: those of the queued operation, but for
their order and the zero address of a rule. -/
def Operation.directChecks (env : Env) (state : State) :
    Operation → List (Option SettlementError)
  | .setSettlementRule merchant rule =>
      [failIf (isZeroAddress merchant) .zeroAddress,
        failIf (state.merchant merchant = false) .merchantMissing,
        ruleBoundsError rule, state.ceilingError env rule]
  | .setDefaultRule rule => [ruleBoundsError rule, state.ceilingError env rule]
  | operation => operation.checks env state

section Direct

variable {env : Env} {signers : List Address} {admin merchant : Address}
  {state : State}

theorem updateGovernance_decided {newGovernance : Address}
    (quorum : state.authority.Quorum env.toLedger signers)
    (unpaused : state.isPaused = false)
    (leads : signers.head? = some admin) :
    Decided [failIf (isZeroAddress newGovernance) .invalidGovernance]
      (updateGovernance env signers newGovernance state) := by
  refine .after (assertAdminAndNotPaused_passes quorum unpaused) ?_
  refine .rejectIf fun _ => ?_
  exact .after (unwrapFirst_ok.mpr ⟨leads, rfl⟩) (.done rfl)

theorem registerMerchant_decided
    (quorum : state.authority.Quorum env.toLedger signers)
    (unpaused : state.isPaused = false)
    (leads : signers.head? = some admin)
    (consented : env.auths merchant = true) :
    Decided
      [failIf (isZeroAddress merchant) .zeroAddress,
        state.adminMerchantError merchant,
        failIf (state.merchant merchant) .merchantExists]
      (registerMerchant env signers merchant state) := by
  refine .after (assertAdminAndNotPaused_passes quorum unpaused) ?_
  refine .rejectIf fun _ => ?_
  refine .after (unwrapFirst_ok.mpr ⟨leads, rfl⟩) ?_
  have agreed : (requireAuth env.toLedger merchant : Contract Unit) state =
      .ok ((), state) := requireAuth_ok.mpr ⟨consented, rfl⟩
  refine .andThenCheck rejectAdminMerchant_decided ?_
  intro _ _ separate
  obtain ⟨_, rfl⟩ := rejectAdminMerchant_ok separate
  refine .after agreed (.after rfl ?_)
  exact addMerchant_decided rfl

theorem unregisterMerchant_decided
    (quorum : state.authority.Quorum env.toLedger signers)
    (unpaused : state.isPaused = false)
    (leads : signers.head? = some admin) :
    Decided
      [failIf (state.merchant merchant = false) .merchantMissing,
        if (state.rule merchant).isSome then state.fallbackError env
        else none]
      (unregisterMerchant env signers merchant state) := by
  refine .after (assertAdminAndNotPaused_passes quorum unpaused) ?_
  refine .after (unwrapFirst_ok.mpr ⟨leads, rfl⟩) ?_
  exact removeMerchant_decided

end Direct

theorem Call.administers_decided {codec : Codec} {env : Env} {call : Call}
    {signers : List Address} {admin : Address} {operation : Operation}
    {state : State}
    (carries : call.administers = some (signers, operation))
    (twofold : operation.isTwofold = true)
    (quorum : state.authority.Quorum env.toLedger signers)
    (unpaused : state.isPaused = false)
    (leads : signers.head? = some admin)
    (consented : operation.consented env) :
    Decided (operation.directChecks env state)
      (invoke codec env call state) := by
  cases call with
  | updateGovernance =>
      cases carries
      exact .andThen (updateGovernance_decided quorum unpaused leads)
        fun _ _ => rfl
  | registerMerchant =>
      cases carries
      exact .andThen (registerMerchant_decided quorum unpaused leads consented)
        fun _ _ => rfl
  | unregisterMerchant =>
      cases carries
      exact .andThen (unregisterMerchant_decided quorum unpaused leads)
        fun _ _ => rfl
  | setSettlementRule =>
      cases carries
      exact .andThen (setSettlementRule_decided quorum unpaused leads)
        fun _ _ => rfl
  | clearSettlementRule =>
      cases carries
      exact .andThen (clearSettlementRule_decided quorum unpaused leads)
        fun _ _ => rfl
  | setDefaultRule =>
      cases carries
      exact .andThen (setDefaultRule_decided quorum unpaused leads)
        fun _ _ => rfl
  | _ => cases carries <;> cases twofold

theorem Due.execute_decided {codec : Codec} {env : Env} {state : State}
    {operation : Operation} (due : Due codec env state operation)
    (twofold : operation.isTwofold = true) (executor : Address) :
    Decided (operation.checks env state)
      (invoke codec env (.execute executor operation) state) := by
  have unmoved : operation.checks env
      (state.released (codec.hash operation)) =
        operation.checks env state := by
    cases operation <;> rfl
  have dispatched := @dispatch_decided env executor operation
    (state.released (codec.hash operation)) due.unpaused twofold
  rw [unmoved] at dispatched
  refine .andThen ?_ fun _ _ => rfl
  rw [due.execute_eq]
  exact .andThen dispatched fun _ _ => rfl

theorem Due.execute_isOk {codec : Codec} {env : Env} {state : State}
    {operation : Operation} (due : Due codec env state operation)
    (executor : Address) :
    (invoke codec env (.execute executor operation) state).isOk =
      (dispatch env executor operation
        (state.released (codec.hash operation))).isOk := by
  rw [invoke, replying_isOk, due.execute_eq]
  exact Tx.bind_isOk fun _ _ => rfl

/-- The two lists of checks pass alike where the zero address is not
registered. -/
theorem Operation.directChecks_pass {env direct : Env} {state : State}
    (agree : direct.governance = env.governance)
    (sound : state.registry.Sound) (operation : Operation) :
    firstError (operation.directChecks direct state) = none ↔
      firstError (operation.checks env state) = none := by
  cases operation with
  | setSettlementRule merchant rule =>
      simp only [Operation.directChecks, Operation.checks,
        ceilingError_congr agree, firstError_eq_none, List.mem_cons,
        List.not_mem_nil, or_false, forall_eq_or_imp, forall_eq,
        failIf_eq_none]
      constructor
      · intro passed
        obtain ⟨_, registered, bounded, capped⟩ := passed
        exact ⟨capped, registered, bounded⟩
      · intro passed
        obtain ⟨capped, registered, bounded⟩ := passed
        refine ⟨?_, registered, bounded, capped⟩
        intro zero
        rw [isZeroAddress_eq_true.mp zero] at registered
        exact registered sound.nonzero
  | setDefaultRule rule =>
      simp only [Operation.directChecks, Operation.checks,
        ceilingError_congr agree, firstError_eq_none, List.mem_cons,
        List.not_mem_nil, or_false, forall_eq_or_imp, forall_eq]
      exact and_comm
  | _ =>
      simp only [Operation.directChecks, Operation.checks,
        fallbackError_congr agree]

/-- The direct call and the execution of what was queued come to the same. -/
structure PathsAgree (codec : Codec) (direct : Env) (call : Call) (env : Env)
    (executor : Address) (operation : Operation) (state : State) :
    Prop where
  together : (invoke codec env (.execute executor operation) state).isOk =
    (invoke codec direct call state).isOk
  alike : ∀ reply reply' administered executed,
    invoke codec direct call state = .ok (reply, administered) →
    invoke codec env (.execute executor operation) state =
      .ok (reply', executed) →
    SettledAlike (codec.hash operation) administered executed
  ruled : ∀ merchant rule, operation = .setSettlementRule merchant rule →
    ((invoke codec direct call state).isOk = true ↔
      state.merchant merchant = true ∧ WithinLimits rule ∧
        CeilingChecked env state rule)
  defaulted : ∀ rule, operation = .setDefaultRule rule →
    ((invoke codec direct call state).isOk = true ↔
      WithinLimits rule ∧ CeilingChecked env state rule)
  untrapped : invoke codec direct call state ≠ .error .overflow ∧
    invoke codec env (.execute executor operation) state ≠ .error .overflow

theorem Operation.checks_setSettlementRule {env : Env} {state : State}
    {merchant : Address} {rule : SettlementRule} :
    firstError (Operation.checks env state
        (.setSettlementRule merchant rule)) = none ↔
      state.merchant merchant = true ∧ WithinLimits rule ∧
        CeilingChecked env state rule := by
  simp only [Operation.checks, firstError_eq_none, List.mem_cons,
    List.not_mem_nil, or_false, forall_eq_or_imp, forall_eq, failIf_eq_none,
    Bool.not_eq_false, ceilingError_eq_none, ruleBoundsError_eq_none]
  constructor
  · intro given
    exact ⟨given.2.1, given.2.2, given.1⟩
  · intro given
    exact ⟨given.2.2, given.1, given.2.1⟩

theorem Operation.checks_setDefaultRule {env : Env} {state : State}
    {rule : SettlementRule} :
    firstError (Operation.checks env state (.setDefaultRule rule)) = none ↔
      WithinLimits rule ∧ CeilingChecked env state rule := by
  simp only [Operation.checks, firstError_eq_none, List.mem_cons,
    List.not_mem_nil, or_false, forall_eq_or_imp, forall_eq,
    ceilingError_eq_none, ruleBoundsError_eq_none]
  exact and_comm

/-- In every reachable state, an operation of the twofold kind that is due and
the direct call of a quorum for it succeed together, leave the same entries
but for the slot, and trap on nothing; the rule setters succeed exactly within
their limits. -/
theorem paths_agree (codec : Codec) (state : State)
    (reachable : Reachable codec state) (env direct : Env)
    (agree : direct.governance = env.governance) (executor : Address)
    (call : Call) (signers : List Address) (operation : Operation)
    (carries : call.administers = some (signers, operation))
    (twofold : operation.isTwofold = true)
    (due : Due codec env state operation)
    (quorum : state.authority.Quorum direct.toLedger signers)
    (consented : operation.consented direct) :
    PathsAgree codec direct call env executor operation state := by
  obtain ⟨admin, leads⟩ := reachable.sound.head_of_quorum quorum
  have decided : Decided (operation.directChecks direct state)
      (invoke codec direct call state) :=
    Call.administers_decided carries twofold quorum due.unpaused leads
      consented
  have decided' : Decided (operation.checks env state)
      (invoke codec env (.execute executor operation) state) :=
    due.execute_decided twofold executor
  have passes := operation.directChecks_pass agree reachable.registry_sound
  have accepted := decided.isOk_iff.trans passes
  constructor
  case together =>
    rw [Bool.eq_iff_iff, decided'.isOk_iff]
    exact accepted.symm
  case alike =>
    intro reply reply' administered executed administers executes
    exact settledAlike_of_ok agree carries administers executes
  case ruled =>
    intro merchant rule same
    subst same
    exact accepted.trans Operation.checks_setSettlementRule
  case defaulted =>
    intro rule same
    subst same
    exact accepted.trans Operation.checks_setDefaultRule
  case untrapped =>
    simp [decided.eq_error_iff, decided'.eq_error_iff]

set_option maxRecDepth 2000 in
theorem paths_agree_setSettlementRule :
    PathsAgree sampleCodec (.granting 604900)
      (.setSettlementRule [.account 1] (.account 6) sampleRule)
      (.granting 604900) (.account 3)
      (.setSettlementRule (.account 6) sampleRule) sampleSetterState :=
  paths_agree sampleCodec sampleSetterState ⟨_, rfl⟩ (.granting 604900)
    (.granting 604900) rfl (.account 3)
    (.setSettlementRule [.account 1] (.account 6) sampleRule) [.account 1]
    (.setSettlementRule (.account 6) sampleRule) rfl rfl
    (sampleSetterRun_due (by decide)) (sampleSetterRun_quorum rfl) trivial

/-! The transfer of the admin set is not of this kind: only the direct call
refuses to replace the configuration by itself. -/

section Transfer

variable {env : Env} {state : State} {admins newAdmins : List Address}
  {threshold newThreshold : UInt32}

theorem Timelocked.transferAdmin_isOk
    (stored : state.admin = some admins) :
    (Timelocked.transferAdmin newAdmins newThreshold state).isOk = true ↔
      ValidAdmins newAdmins newThreshold ∧
        ∀ admin, admin ∈ newAdmins → state.merchant admin = false := by
  simp only [isOk_iff_exists, Timelocked.transferAdmin, Tx.bind_ok,
    readAdmins_ok, validateAdminsAndThreshold_ok, rejectMerchantAdmins_ok,
    writeAdmins_ok, emit_ok]
  constructor
  · intro given
    obtain ⟨_, _, _, _, ⟨_, rfl⟩, _, _, ⟨valid, rfl⟩, _, _,
      ⟨separate, rfl⟩, _⟩ := given
    exact ⟨valid, separate⟩
  · intro given
    obtain ⟨valid, separate⟩ := given
    exact ⟨(), _, admins, state, ⟨stored, rfl⟩, (), state, ⟨valid, rfl⟩,
      (), state, ⟨separate, rfl⟩, (), _, ⟨valid, rfl⟩, rfl⟩

theorem transferAdmin_isOk {signers : List Address}
    (quorum : state.authority.Quorum env.toLedger signers)
    (stored : state.admin = some admins)
    (required : state.threshold = some threshold) :
    (transferAdmin env signers newAdmins newThreshold state).isOk = true ↔
      (ValidAdmins newAdmins newThreshold ∧
        ∀ admin, admin ∈ newAdmins → state.merchant admin = false) ∧
      ¬ (admins = newAdmins ∧ threshold = newThreshold) := by
  simp only [isOk_iff_exists, transferAdmin, Tx.bind_ok,
    verifyThresholdAuth_ok, validateAdminsAndThreshold_ok, readAdmins_ok,
    readThreshold_ok, rejectIf_ok, rejectMerchantAdmins_ok, writeAdmins_ok,
    emit_ok]
  constructor
  · intro given
    obtain ⟨_, _, _, _, ⟨_, rfl⟩, _, _, ⟨valid, rfl⟩, _, _, ⟨stored', rfl⟩,
      _, _, ⟨required', rfl⟩, _, _, ⟨different, rfl⟩, _, _,
      ⟨separate, rfl⟩, _⟩ := given
    cases stored.symm.trans stored'
    cases required.symm.trans required'
    exact ⟨⟨valid, separate⟩, different⟩
  · intro given
    obtain ⟨⟨valid, separate⟩, different⟩ := given
    exact ⟨(), _, (), state, ⟨quorum, rfl⟩, (), state, ⟨valid, rfl⟩,
      admins, state, ⟨stored, rfl⟩, threshold, state, ⟨required, rfl⟩,
      (), state, ⟨different, rfl⟩, (), state, ⟨separate, rfl⟩,
      (), _, ⟨valid, rfl⟩, rfl⟩

end Transfer

/-- The execution of a queued transfer and the direct call come to the same
admin set. -/
structure TransfersAgree (codec : Codec) (direct : Env)
    (signers : List Address) (env : Env) (executor : Address)
    (newAdmins : List Address) (newThreshold : UInt32) (state : State) :
    Prop where
  together : (invoke codec env
      (.execute executor (.transferAdmin newAdmins newThreshold)) state).isOk =
    (invoke codec direct (.transferAdmin signers newAdmins newThreshold)
      state).isOk
  alike : ∀ reply reply' administered executed,
    invoke codec direct (.transferAdmin signers newAdmins newThreshold)
      state = .ok (reply, administered) →
    invoke codec env
      (.execute executor (.transferAdmin newAdmins newThreshold)) state =
        .ok (reply', executed) →
    executed.admin = administered.admin ∧
      executed.threshold = administered.threshold

/-- In every reachable state a due transfer and the direct call of a quorum
agree exactly unless the transfer names the stored admins and threshold, none
of them a merchant. -/
theorem transfers_agree_iff (codec : Codec) (state : State)
    (reachable : Reachable codec state) (env direct : Env)
    (executor : Address) (signers newAdmins : List Address)
    (newThreshold : UInt32)
    (due : Due codec env state (.transferAdmin newAdmins newThreshold))
    (quorum : state.authority.Quorum direct.toLedger signers) :
    TransfersAgree codec direct signers env executor newAdmins newThreshold
        state ↔
      ¬ (state.admin = some newAdmins ∧
        state.threshold = some newThreshold ∧
        ∀ admin, admin ∈ newAdmins → state.merchant admin = false) := by
  obtain ⟨admins, stored⟩ :=
    Option.isSome_iff_exists.mp quorum.initialized
  obtain ⟨threshold, required, valid⟩ :=
    reachable.sound.configured admins stored
  have executes : (invoke codec env
      (.execute executor (.transferAdmin newAdmins newThreshold))
        state).isOk = true ↔
      ValidAdmins newAdmins newThreshold ∧
        ∀ admin, admin ∈ newAdmins → state.merchant admin = false := by
    rw [due.execute_isOk]
    exact Timelocked.transferAdmin_isOk stored
  have administers : (invoke codec direct
      (.transferAdmin signers newAdmins newThreshold) state).isOk = true ↔
      (ValidAdmins newAdmins newThreshold ∧
        ∀ admin, admin ∈ newAdmins → state.merchant admin = false) ∧
      ¬ (admins = newAdmins ∧ threshold = newThreshold) := by
    rw [invoke, replying_isOk]
    exact transferAdmin_isOk quorum stored required
  constructor
  · intro agrees unchanged
    obtain ⟨stored', required', separate⟩ := unchanged
    cases stored.symm.trans stored'
    cases required.symm.trans required'
    have executed := executes.mpr ⟨valid, separate⟩
    rw [agrees.together, administers] at executed
    exact executed.2 ⟨rfl, rfl⟩
  · intro changed
    constructor
    case together =>
      rw [Bool.eq_iff_iff, executes, administers, iff_self_and]
      intro accepted same
      obtain ⟨rfl, rfl⟩ := same
      exact changed ⟨stored, required, accepted.2⟩
    case alike =>
      intro reply reply' administered executed directly executes
      obtain ⟨_, _, _, rfl⟩ := (invoke_effect directly).administered rfl
      obtain ⟨_, _, _, rfl⟩ := (invoke_effect executes).executed
      exact ⟨rfl, rfl⟩

/-- The admin set is queued to replace itself. -/
def sampleTransferRun : List Input :=
  [⟨.granting 0, .init (.account 9) [.account 1] 1 (.contract 5)
      (.account 2)⟩,
    ⟨.granting 100, .schedule [.account 1]
      (.transferAdmin [.account 1] 1) 604800⟩]

abbrev sampleTransferState : State :=
  run (step sampleCodec) State.initial sampleTransferRun

set_option maxRecDepth 2000 in
theorem sampleTransferRun_due {env : Env} (late : 604900 ≤ env.timestamp) :
    Due sampleCodec env sampleTransferState
      (.transferAdmin [.account 1] 1) where
  queued := ⟨⟨Operation.toXdr (.transferAdmin [.account 1] 1), 604900⟩,
    ⟨rfl, rfl⟩, late⟩
  unpaused := rfl
  unvetoed := rfl

set_option maxRecDepth 2000 in
theorem sampleTransferRun_quorum {env : Env}
    (signed : env.auths (.account 1) = true) :
    sampleTransferState.authority.Quorum env.toLedger [.account 1] :=
  Authority.quorum_of_sole rfl rfl signed

theorem transfers_agree_iff_unchanged :
    TransfersAgree sampleCodec (.granting 604900) [.account 1]
        (.granting 604900) (.account 3) [.account 1] 1 sampleTransferState ↔
      ¬ (sampleTransferState.admin = some [.account 1] ∧
        sampleTransferState.threshold = some 1 ∧
        ∀ admin, admin ∈ [Address.account 1] →
          sampleTransferState.merchant admin = false) :=
  transfers_agree_iff sampleCodec sampleTransferState ⟨_, rfl⟩
    (.granting 604900) (.granting 604900) (.account 3) [.account 1]
    [.account 1] 1 (sampleTransferRun_due (by decide))
    (sampleTransferRun_quorum rfl)

set_option maxRecDepth 2000 in
theorem queued_transfer_replaces_itself :
    ¬ ∀ state, Reachable sampleCodec state → ∀ (env direct : Env) executor
      signers newAdmins newThreshold,
      Due sampleCodec env state (.transferAdmin newAdmins newThreshold) →
      state.authority.Quorum direct.toLedger signers →
      TransfersAgree sampleCodec direct signers env executor newAdmins
        newThreshold state := by
  intro agree
  have agrees := agree sampleTransferState ⟨_, rfl⟩ (.granting 604900)
    (.granting 604900) (.account 3) [.account 1] [.account 1] 1
    (sampleTransferRun_due (by decide)) (sampleTransferRun_quorum rfl)
  have executed : (invoke sampleCodec (.granting 604900)
      (.execute (.account 3) (.transferAdmin [.account 1] 1))
      sampleTransferState).isOk = true := by
    rfl
  have refused : (invoke sampleCodec (.granting 604900)
      (.transferAdmin [.account 1] [.account 1] 1)
      sampleTransferState).isOk = false := by
    rfl
  rw [agrees.together, refused] at executed
  cases executed

end BettaPay.Settlement
