import BettaPay.Governance.Contract
import BettaPay.Common.Recovery
import Mathlib.Tactic.Simps.Basic

namespace BettaPay.Governance

open BettaPay.Host
open BettaPay.Host.Tx (readState writeState)
open BettaPay.Common

@[simps -fullyApplied] def State.authority (state : State) : Authority where
  admin := state.admin
  threshold := state.threshold
  recoveryAddress := state.recoveryAddress
  pendingRecovery := state.pendingRecovery

@[simps -fullyApplied] def State.publish (state : State) (event : Event) :
    State :=
  { state with events := state.events ++ [event] }

/-! Successful helpers. -/

@[simp] theorem emit_ok {event : Event} {before after : State}
    {result : Unit} :
    emit event before = .ok (result, after) ↔
      before.publish event = after := by
  simp [emit, State.publish]

@[simp] theorem readAdmins_ok {before after : State}
    {admins : List Address} :
    readAdmins before = .ok (admins, after) ↔
      before.admin = some admins ∧ before = after := by
  simp [readAdmins]

@[simp] theorem readOptionalAdmins_ok {before after : State}
    {admins : List Address} :
    readOptionalAdmins before = .ok (admins, after) ↔
      before.admin.getD [] = admins ∧ before = after := by
  simp [readOptionalAdmins]

@[simp] theorem readThreshold_ok {before after : State}
    {threshold : UInt32} :
    readThreshold before = .ok (threshold, after) ↔
      before.threshold = some threshold ∧ before = after := by
  simp [readThreshold]

@[simp] theorem assertNotZero_ok {address : Address}
    {error : GovernanceError} {before after : State} {result : Unit} :
    assertNotZero address error before = .ok (result, after) ↔
      address ≠ zeroAddress ∧ before = after := by
  simp [assertNotZero]

@[simp] theorem validateAdminsAndThreshold_ok {admins : List Address}
    {threshold : UInt32} {before after : State} {result : Unit} :
    validateAdminsAndThreshold admins threshold before =
        .ok (result, after) ↔
      ValidAdmins admins threshold ∧ before = after := by
  simp only [validateAdminsAndThreshold, Tx.bind_ok, rejectIf_ok,
    checkAdmins_ok, not_or, Nat.not_lt, ← UInt32.toNat_inj]
  constructor
  · intro given
    obtain ⟨_, _, ⟨⟨positive, attainable⟩, rfl⟩, _, _, ⟨_, rfl⟩, ⟨nonzero,
      distinct⟩, same⟩ := given
    exact ⟨⟨nonzero, distinct, Nat.pos_of_ne_zero positive, attainable⟩,
      same⟩
  · intro given
    obtain ⟨valid, rfl⟩ := given
    have positive : threshold.toNat ≠ (0 : UInt32).toNat :=
      Nat.pos_iff_ne_zero.mp valid.positive
    exact ⟨(), _, ⟨⟨positive, valid.attainable⟩, rfl⟩, (), _,
      ⟨valid.nonempty, rfl⟩, ⟨valid.nonzero, valid.distinct⟩, rfl⟩

@[simp] theorem verifyAdminAuth_ok {env : Ledger} {signers : List Address}
    {count : UInt32} {before after : State} {result : Unit} :
    verifyAdminAuth env signers count before = .ok (result, after) ↔
      before.authority.AuthorizedBy env signers count ∧ before = after := by
  simp only [verifyAdminAuth, Tx.bind_ok, readAdmins_ok, rejectIf_ok,
    checkSigners_ok, Nat.not_lt, Authority.AuthorizedBy]
  constructor
  · intro given
    obtain ⟨admins, _, ⟨stored, rfl⟩, _, _, ⟨enough, rfl⟩, signed, same⟩ :=
      given
    exact ⟨⟨admins, stored, enough, signed⟩, same⟩
  · intro given
    obtain ⟨⟨admins, stored, enough, signed⟩, rfl⟩ := given
    exact ⟨admins, _, ⟨stored, rfl⟩, (), _, ⟨enough, rfl⟩, signed, rfl⟩

@[simp] theorem verifyThresholdAuth_ok {env : Ledger}
    {signers : List Address} {before after : State} {result : Unit} :
    verifyThresholdAuth env signers before = .ok (result, after) ↔
      before.authority.Quorum env signers ∧ before = after := by
  simp only [verifyThresholdAuth, Tx.bind_ok, readThreshold_ok,
    verifyAdminAuth_ok, Authority.Quorum]
  constructor
  · intro given
    obtain ⟨threshold, _, ⟨stored, rfl⟩, authorized, same⟩ := given
    exact ⟨⟨threshold, stored, authorized⟩, same⟩
  · intro given
    obtain ⟨⟨threshold, stored, authorized⟩, rfl⟩ := given
    exact ⟨threshold, _, ⟨stored, rfl⟩, authorized, rfl⟩

@[simp] theorem readRecoveryAddress_ok {before after : State}
    {recovery : Address} :
    readRecoveryAddress before = .ok (recovery, after) ↔
      before.recoveryAddress = some recovery ∧ before = after := by
  simp [readRecoveryAddress]

@[simp] theorem readPendingRecovery_ok {before after : State}
    {pending : PendingRecovery} :
    readPendingRecovery before = .ok (pending, after) ↔
      before.pendingRecovery = some pending ∧ before = after := by
  simp [readPendingRecovery]

@[simp] theorem assertNotPaused_ok {before after : State} {result : Unit} :
    assertNotPaused before = .ok (result, after) ↔
      before.isPaused = false ∧ before = after := by
  simp [assertNotPaused]

@[simp] theorem assertAdminAndNotPaused_ok {env : Ledger}
    {signers : List Address} {before after : State} {result : Unit} :
    assertAdminAndNotPaused env signers before = .ok (result, after) ↔
      (before.isPaused = false ∧ before.authority.Quorum env signers) ∧
        before = after := by
  simp only [assertAdminAndNotPaused, Tx.bind_ok, assertNotPaused_ok,
    verifyThresholdAuth_ok]
  constructor
  · intro given
    obtain ⟨_, _, ⟨unpaused, rfl⟩, quorum, same⟩ := given
    exact ⟨⟨unpaused, quorum⟩, same⟩
  · intro given
    obtain ⟨⟨unpaused, quorum⟩, rfl⟩ := given
    exact ⟨(), _, ⟨unpaused, rfl⟩, quorum, rfl⟩

theorem authorizeCancellation_ok {env : Ledger} {pending : PendingRecovery}
    {signers : List Address} {before after : State} {result : Unit}
    (succeeded : authorizeCancellation env pending signers before =
      .ok (result, after)) :
    (signers = [pending.initiatedBy] ∧
        env.auths pending.initiatedBy = true ∨
      before.authority.Quorum env signers) ∧ before = after := by
  simp only [authorizeCancellation, Tx.ite_ok, requireAuth_ok,
    verifyThresholdAuth_ok] at succeeded
  obtain ⟨alone, authorized, same⟩ | ⟨_, quorum, same⟩ := succeeded
  · exact ⟨.inl ⟨alone, authorized⟩, same⟩
  · exact ⟨.inr quorum, same⟩

theorem migrateRounds_ok {remaining : Nat} {version : UInt32}
    {before after : State} {result : Unit}
    (succeeded : migrateRounds migrateStep setSchemaVersion remaining
      version before = .ok (result, after)) :
    ∃ marker, after = { before with schemaVersion := marker } := by
  induction remaining generalizing version before with
  | zero =>
      simp only [migrateRounds, Tx.pure_ok] at succeeded
      exact ⟨_, succeeded.2.symm⟩
  | succ remaining induction =>
      simp only [migrateRounds, migrateStep, setSchemaVersion, Tx.bind_ok,
        Tx.pure_ok, Tx.writeState_ok] at succeeded
      obtain ⟨_, _, ⟨_, rfl⟩, _, _, rfl, later⟩ := succeeded
      obtain ⟨marker, rfl⟩ := induction later
      exact ⟨marker, rfl⟩

/-- The bounds of a stored fee configuration. -/
structure BoundedFees (config : FeeConfig) : Prop where
  platformAtLeast : minFeeBps ≤ config.platformFeeBps
  platformAtMost : config.platformFeeBps ≤ maxFeeBps
  networkAtLeast : minFeeBps ≤ config.networkFeeBps
  networkAtMost : config.networkFeeBps ≤ maxFeeBps

/-- The entry points that only read. -/
def Call.isQuery : Call → Bool
  | .supportsInterface _ => true
  | .isInitialized => true
  | .getAdmin => true
  | .getThreshold => true
  | .getRecoveryAddress => true
  | .isPaused => true
  | .getSystemParam _ => true
  | .getFeeConfig => true
  | .getAnchor _ => true
  | _ => false

/-- What each entry point does when it succeeds: the conditions it checked,
and the state it leaves. -/
inductive Effect (env : Ledger) (state : State) : Call → State → Prop where
  | init {deployer recoveryAddress admin : Address} {admins : List Address}
      {threshold : UInt32} (uninitialized : state.admin = none)
      (deployed : env.auths deployer = true)
      (consented : ∀ admin, admin ∈ admins → env.auths admin = true)
      (valid : ValidAdmins admins threshold)
      (recoverable : recoveryAddress ≠ zeroAddress) :
      Effect env state (.init deployer admins threshold recoveryAddress)
        (State.publish
          { state with
            deployer := some deployer
            admin := some admins
            threshold := some threshold
            recoveryAddress := some recoveryAddress
            schemaVersion := some currentSchemaVersion }
          (.initialized admin))
  | updateRecoveryAddress {signers : List Address}
      {newRecovery admin : Address}
      (quorum : state.authority.Quorum env signers)
      (nonzero : newRecovery ≠ zeroAddress) :
      Effect env state (.updateRecoveryAddress signers newRecovery)
        (State.publish { state with recoveryAddress := some newRecovery }
          (.recoveryAddressUpdated newRecovery admin))
  | upgrade {signers : List Address} {newWasmHash : BytesN 32}
      {caller : Address} (quorum : state.authority.Quorum env signers) :
      Effect env state (.upgrade signers newWasmHash)
        (State.publish { state with wasm := some newWasmHash }
          (.contractUpgraded newWasmHash caller))
  | initiateRecovery {newAdmin recovery : Address} {executeAfter : UInt64}
      (stored : state.recoveryAddress = some recovery)
      (authorized : env.auths recovery = true)
      (nonzero : newAdmin ≠ zeroAddress)
      (absent : state.pendingRecovery = none)
      (deadline : executeAfter.toNat =
        env.timestamp.toNat + recoveryDelaySeconds.toNat) :
      Effect env state (.initiateRecovery newAdmin)
        (State.publish
          { state with
            pendingRecovery := some ⟨newAdmin, executeAfter, recovery⟩ }
          (.recoveryInitiated recovery newAdmin executeAfter))
  | cancelRecovery {signers : List Address} {pending : PendingRecovery}
      {canceller : Address}
      (stored : state.pendingRecovery = some pending)
      (authorized : signers = [pending.initiatedBy] ∧
          env.auths pending.initiatedBy = true ∨
        state.authority.Quorum env signers) :
      Effect env state (.cancelRecovery signers)
        (State.publish { state with pendingRecovery := none }
          (.recoveryCancelled canceller))
  | executeRecovery {pending : PendingRecovery}
      (stored : state.pendingRecovery = some pending)
      (matured : pending.executeAfter ≤ env.timestamp) :
      Effect env state .executeRecovery
        (State.publish
          { state with
            admin := some [pending.newAdmin]
            threshold := some 1
            pendingRecovery := none }
          (.recoveryExecuted ⟨state.admin.getD [], [pending.newAdmin]⟩))
  | transferAdmin {signers oldAdmins newAdmins : List Address}
      {newThreshold : UInt32}
      (quorum : state.authority.Quorum env signers)
      (stored : state.admin = some oldAdmins)
      (valid : ValidAdmins newAdmins newThreshold) :
      Effect env state (.transferAdmin signers newAdmins newThreshold)
        (State.publish
          { state with
            admin := some newAdmins
            threshold := some newThreshold }
          (.adminTransferred ⟨oldAdmins, newAdmins⟩))
  | changeThreshold {signers admins : List Address}
      {newThreshold current : UInt32}
      (stored : state.admin = some admins)
      (threshold : state.threshold = some current)
      (positive : 1 ≤ newThreshold.toNat)
      (attainable : newThreshold.toNat ≤ admins.length)
      (authorized : state.authority.AuthorizedBy env signers current) :
      Effect env state (.changeThreshold signers newThreshold)
        (State.publish { state with threshold := some newThreshold }
          (.thresholdChanged current newThreshold))
  | pause {signers : List Address} {admin : Address}
      (quorum : state.authority.Quorum env signers)
      (unpaused : state.isPaused = false) :
      Effect env state (.pause signers)
        (State.publish { state with paused := some true }
          (.paused admin pauseReasonNone))
  | unpause {signers : List Address} {admin : Address}
      (quorum : state.authority.Quorum env signers)
      (paused : state.isPaused = true) :
      Effect env state (.unpause signers)
        (State.publish { state with paused := some false }
          (.unpaused admin))
  | migrate {signers : List Address} {admin : Address}
      {version : Option UInt32}
      (unpaused : state.isPaused = false)
      (quorum : state.authority.Quorum env signers) :
      Effect env state (.migrate signers)
        (State.publish { state with schemaVersion := version }
          (.migrated admin currentSchemaVersion))
  | updateSystemParam {signers : List Address} {key : Symbol}
      {value : I128} {admin : Address}
      (unpaused : state.isPaused = false)
      (quorum : state.authority.Quorum env signers)
      (nonnegative : 0 ≤ value.val)
      (flag : key = bypassGovFeesParam → value.val ≤ 1) :
      Effect env state (.updateSystemParam signers key value)
        (State.publish
          { state with
            systemParam :=
              Function.update state.systemParam key (some value) }
          (.sysParamUpdated key admin (state.systemParam key) value))
  | setFeeConfig {signers : List Address} {config : FeeConfig}
      {admin : Address} (unpaused : state.isPaused = false)
      (quorum : state.authority.Quorum env signers)
      (bounded : BoundedFees config) :
      Effect env state (.setFeeConfig signers config)
        (State.publish { state with feeConfig := some config }
          (.feeConfigUpdated admin config))
  | upsertAnchor {signers : List Address} {asset anchor : Address}
      (unpaused : state.isPaused = false)
      (quorum : state.authority.Quorum env signers)
      (assetNonzero : asset ≠ zeroAddress)
      (anchorNonzero : anchor ≠ zeroAddress) (distinct : asset ≠ anchor) :
      Effect env state (.upsertAnchor signers asset anchor)
        (State.publish
          { state with
            anchor := Function.update state.anchor asset (some anchor) }
          (.anchorUpserted asset (state.anchor asset) anchor))
  | removeAnchor {signers : List Address} {asset : Address}
      (unpaused : state.isPaused = false)
      (quorum : state.authority.Quorum env signers) :
      Effect env state (.removeAnchor signers asset)
        (State.publish
          { state with anchor := Function.update state.anchor asset none }
          (.anchorRemoved asset))
  | query {call : Call} (reads : call.isQuery = true) :
      Effect env state call state

variable {env : Ledger} {before after : State} {result : Unit}

theorem init_effect {deployer recoveryAddress : Address}
    {admins : List Address} {threshold : UInt32}
    (succeeded : init env deployer admins threshold recoveryAddress before =
      .ok (result, after)) :
    Effect env before (.init deployer admins threshold recoveryAddress)
      after := by
  simp only [init, Tx.readState_bind, Tx.bind_ok, rejectIf_ok,
    requireAuth_ok, validateAdminsAndThreshold_ok, assertNotZero_ok,
    requireAllAuth_ok, Tx.writeState_ok, unwrapFirst_ok, emit_ok]
    at succeeded
  obtain ⟨_, _, ⟨uninitialized, rfl⟩, _, _, ⟨deployed, rfl⟩, _, _,
    ⟨valid, rfl⟩, _, _, ⟨recoverable, rfl⟩, _, _, ⟨consented, rfl⟩, _, _,
    rfl, admin, _, ⟨_, rfl⟩, rfl⟩ := succeeded
  exact .init (by simpa using uninitialized) deployed consented valid
    recoverable

theorem updateRecoveryAddress_effect {signers : List Address}
    {newRecovery : Address}
    (succeeded : updateRecoveryAddress env signers newRecovery before =
      .ok (result, after)) :
    Effect env before (.updateRecoveryAddress signers newRecovery)
      after := by
  simp only [updateRecoveryAddress, Tx.bind_ok, verifyThresholdAuth_ok,
    unwrapFirst_ok, assertNotZero_ok, Tx.writeState_ok, emit_ok]
    at succeeded
  obtain ⟨_, _, ⟨quorum, rfl⟩, admin, _, ⟨_, rfl⟩, _, _, ⟨nonzero, rfl⟩, _,
    _, rfl, rfl⟩ := succeeded
  exact .updateRecoveryAddress quorum nonzero

theorem upgrade_effect {signers : List Address} {newWasmHash : BytesN 32}
    (succeeded : upgrade env signers newWasmHash before =
      .ok (result, after)) :
    Effect env before (.upgrade signers newWasmHash) after := by
  simp only [upgrade, Tx.bind_ok, verifyThresholdAuth_ok, rejectIf_ok,
    unwrapFirst_ok, emit_ok, Tx.writeState_ok] at succeeded
  obtain ⟨_, _, ⟨quorum, rfl⟩, _, _, probed, _, _, ⟨_, rfl⟩, caller, _,
    ⟨_, rfl⟩, _, _, rfl, rfl⟩ := succeeded
  obtain rfl := probeSupportsInterface_ok probed
  exact .upgrade quorum

theorem initiateRecovery_effect {newAdmin : Address}
    (succeeded : initiateRecovery env newAdmin before =
      .ok (result, after)) :
    Effect env before (.initiateRecovery newAdmin) after := by
  simp only [initiateRecovery, Tx.readState_bind, Tx.bind_ok,
    readRecoveryAddress_ok, requireAuth_ok, assertNotZero_ok, rejectIf_ok,
    orTrap_ok, checkedAdd64_eq_some, Tx.writeState_ok, emit_ok] at succeeded
  obtain ⟨recovery, _, ⟨stored, rfl⟩, _, _, ⟨authorized, rfl⟩, _, _,
    ⟨nonzero, rfl⟩, _, _, ⟨absent, rfl⟩, executeAfter, _, ⟨deadline, rfl⟩,
    _, _, rfl, rfl⟩ := succeeded
  exact .initiateRecovery stored authorized nonzero (by simpa using absent)
    deadline

theorem cancelRecovery_effect {signers : List Address}
    (succeeded : cancelRecovery env signers before = .ok (result, after)) :
    Effect env before (.cancelRecovery signers) after := by
  simp only [cancelRecovery, Tx.bind_ok, readPendingRecovery_ok,
    unwrapFirst_ok, Tx.writeState_ok, emit_ok] at succeeded
  obtain ⟨pending, _, ⟨stored, rfl⟩, _, _, checked, canceller, _, ⟨_, rfl⟩,
    _, _, rfl, rfl⟩ := succeeded
  obtain ⟨authorized, rfl⟩ := authorizeCancellation_ok checked
  exact .cancelRecovery stored authorized

theorem executeRecovery_effect
    (succeeded : executeRecovery env before = .ok (result, after)) :
    Effect env before .executeRecovery after := by
  simp only [executeRecovery, Tx.bind_ok, readPendingRecovery_ok,
    rejectIf_ok, readOptionalAdmins_ok, Tx.writeState_ok, emit_ok]
    at succeeded
  obtain ⟨pending, _, ⟨stored, rfl⟩, _, _, ⟨matured, rfl⟩, _, _, ⟨rfl, rfl⟩,
    _, _, rfl, rfl⟩ := succeeded
  exact .executeRecovery stored (UInt64.not_lt.mp matured)

theorem transferAdmin_effect {signers newAdmins : List Address}
    {newThreshold : UInt32}
    (succeeded : transferAdmin env signers newAdmins newThreshold before =
      .ok (result, after)) :
    Effect env before (.transferAdmin signers newAdmins newThreshold)
      after := by
  simp only [transferAdmin, Tx.bind_ok, readThreshold_ok,
    verifyAdminAuth_ok, validateAdminsAndThreshold_ok, readAdmins_ok,
    rejectIf_ok, Tx.writeState_ok, emit_ok] at succeeded
  obtain ⟨threshold, _, ⟨required, rfl⟩, _, _, ⟨authorized, rfl⟩, _, _,
    ⟨valid, rfl⟩, oldAdmins, _, ⟨stored, rfl⟩, _, _, ⟨_, rfl⟩, _, _, rfl,
    rfl⟩ := succeeded
  exact .transferAdmin ⟨threshold, required, authorized⟩ stored valid

theorem changeThreshold_effect {signers : List Address}
    {newThreshold : UInt32}
    (succeeded : changeThreshold env signers newThreshold before =
      .ok (result, after)) :
    Effect env before (.changeThreshold signers newThreshold) after := by
  simp only [changeThreshold, Tx.bind_ok, readAdmins_ok, rejectIf_ok,
    readThreshold_ok, verifyAdminAuth_ok, Tx.writeState_ok, emit_ok, not_or,
    Nat.not_lt, ← UInt32.toNat_inj] at succeeded
  obtain ⟨admins, _, ⟨stored, rfl⟩, _, _, ⟨⟨positive, attainable⟩, rfl⟩,
    current, _, ⟨threshold, rfl⟩, _, _, ⟨authorized, rfl⟩, _, _, rfl, rfl⟩ :=
    succeeded
  exact .changeThreshold stored threshold (Nat.pos_of_ne_zero positive)
    attainable authorized

theorem pause_effect {signers : List Address}
    (succeeded : pause env signers before = .ok (result, after)) :
    Effect env before (.pause signers) after := by
  simp only [pause, applyPause, Tx.readState_bind, Tx.bind_ok,
    verifyThresholdAuth_ok, rejectIf_ok, unwrapFirst_ok, Tx.writeState_ok,
    emit_ok] at succeeded
  obtain ⟨_, _, ⟨quorum, rfl⟩, _, _, ⟨unpaused, rfl⟩, admin, _, ⟨_, rfl⟩, _,
    _, rfl, rfl⟩ := succeeded
  exact .pause quorum (by simpa using unpaused)

theorem unpause_effect {signers : List Address}
    (succeeded : unpause env signers before = .ok (result, after)) :
    Effect env before (.unpause signers) after := by
  simp only [unpause, applyUnpause, Tx.readState_bind, Tx.bind_ok,
    verifyThresholdAuth_ok, rejectIf_ok, unwrapFirst_ok, Tx.writeState_ok,
    emit_ok] at succeeded
  obtain ⟨_, _, ⟨quorum, rfl⟩, _, _, ⟨paused, rfl⟩, admin, _, ⟨_, rfl⟩, _, _,
    rfl, rfl⟩ := succeeded
  exact .unpause quorum (by simpa using paused)

theorem migrate_effect {signers : List Address}
    (succeeded : migrate env signers before = .ok (result, after)) :
    Effect env before (.migrate signers) after := by
  simp only [migrate, runMigrations, readSchemaVersion, Tx.readState_bind,
    Tx.bind_ok, assertNotPaused_ok, verifyThresholdAuth_ok, unwrapFirst_ok,
    Tx.pure_ok, emit_ok] at succeeded
  obtain ⟨_, _, ⟨unpaused, rfl⟩, _, _, ⟨quorum, rfl⟩, admin, _, ⟨_, rfl⟩, _,
    _, ⟨_, _, ⟨_, rfl⟩, migrated⟩, rfl⟩ := succeeded
  obtain ⟨marker, rfl⟩ := migrateRounds_ok migrated
  exact .migrate unpaused quorum

theorem updateSystemParam_effect {signers : List Address} {key : Symbol}
    {value : I128}
    (succeeded : updateSystemParam env signers key value before =
      .ok (result, after)) :
    Effect env before (.updateSystemParam signers key value) after := by
  simp only [updateSystemParam, Tx.readState_bind, Tx.bind_ok,
    assertAdminAndNotPaused_ok, rejectIf_ok, unwrapFirst_ok,
    Tx.writeState_ok, emit_ok, Int.not_lt, not_and] at succeeded
  obtain ⟨_, _, ⟨⟨unpaused, quorum⟩, rfl⟩, _, _, ⟨nonnegative, rfl⟩, _, _,
    ⟨flag, rfl⟩, admin, _, ⟨_, rfl⟩, _, _, rfl, rfl⟩ := succeeded
  exact .updateSystemParam unpaused quorum nonnegative flag

theorem setFeeConfig_effect {signers : List Address} {config : FeeConfig}
    (succeeded : setFeeConfig env signers config before =
      .ok (result, after)) :
    Effect env before (.setFeeConfig signers config) after := by
  simp only [setFeeConfig, Tx.bind_ok, assertAdminAndNotPaused_ok,
    rejectIf_ok, orTrap_ok, unwrapFirst_ok, Tx.writeState_ok, emit_ok,
    not_or, UInt32.not_lt] at succeeded
  obtain ⟨_, _, ⟨⟨unpaused, quorum⟩, rfl⟩, _, _,
    ⟨⟨platformLow, platformHigh, networkLow, networkHigh⟩, rfl⟩, _, _,
    ⟨_, rfl⟩, _, _, ⟨_, rfl⟩, admin, _, ⟨_, rfl⟩, _, _, rfl, rfl⟩ := succeeded
  exact .setFeeConfig unpaused quorum
    ⟨platformLow, platformHigh, networkLow, networkHigh⟩

theorem upsertAnchor_effect {signers : List Address}
    {asset anchor : Address}
    (succeeded : upsertAnchor env signers asset anchor before =
      .ok (result, after)) :
    Effect env before (.upsertAnchor signers asset anchor) after := by
  simp only [upsertAnchor, Tx.readState_bind, Tx.bind_ok,
    assertAdminAndNotPaused_ok, assertNotZero_ok, rejectIf_ok,
    Tx.writeState_ok, emit_ok] at succeeded
  obtain ⟨_, _, ⟨⟨unpaused, quorum⟩, rfl⟩, _, _, ⟨assetNonzero, rfl⟩, _, _,
    ⟨anchorNonzero, rfl⟩, _, _, ⟨distinct, rfl⟩, _, _, rfl, rfl⟩ := succeeded
  exact .upsertAnchor unpaused quorum assetNonzero anchorNonzero distinct

theorem removeAnchor_effect {signers : List Address} {asset : Address}
    (succeeded : removeAnchor env signers asset before =
      .ok (result, after)) :
    Effect env before (.removeAnchor signers asset) after := by
  simp only [removeAnchor, Tx.readState_bind, Tx.bind_ok,
    assertAdminAndNotPaused_ok, rejectIf_ok, Tx.writeState_ok, emit_ok]
    at succeeded
  obtain ⟨_, _, ⟨⟨unpaused, quorum⟩, rfl⟩, _, _, ⟨_, rfl⟩, _, _, rfl, rfl⟩ :=
    succeeded
  exact .removeAnchor unpaused quorum

/-- Every committed call has one of the listed effects. -/
theorem invoke_effect {call : Call} {reply : Reply}
    (succeeded : invoke env call before = .ok (reply, after)) :
    Effect env before call after := by
  cases call
  all_goals obtain ⟨_, ran, _⟩ := replying_ok.mp succeeded
  case init => exact init_effect ran
  case updateRecoveryAddress => exact updateRecoveryAddress_effect ran
  case upgrade => exact upgrade_effect ran
  case initiateRecovery => exact initiateRecovery_effect ran
  case cancelRecovery => exact cancelRecovery_effect ran
  case executeRecovery => exact executeRecovery_effect ran
  case transferAdmin => exact transferAdmin_effect ran
  case changeThreshold => exact changeThreshold_effect ran
  case pause => exact pause_effect ran
  case unpause => exact unpause_effect ran
  case migrate => exact migrate_effect ran
  case updateSystemParam => exact updateSystemParam_effect ran
  case setFeeConfig => exact setFeeConfig_effect ran
  case upsertAnchor => exact upsertAnchor_effect ran
  case removeAnchor => exact removeAnchor_effect ran
  all_goals
    simp only [supportsInterface, isInitialized, getAdmin, getThreshold,
      getRecoveryAddress, getIsPaused, getSystemParam, getFeeConfig,
      getAnchor, Tx.readState_bind, readAdmins_ok, readThreshold_ok,
      readRecoveryAddress_ok, Tx.pure_ok] at ran
    obtain ⟨_, rfl⟩ := ran
    exact .query rfl

/-! The governance contract as a machine that moves an authority. -/

def Call.action : Call → Authority.Action
  | .initiateRecovery newAdmin => .initiate newAdmin
  | .cancelRecovery signers => .cancel signers
  | .executeRecovery => .execute
  | _ => .other

theorem Call.action_of_isQuery {call : Call} (reads : call.isQuery = true) :
    call.action = .other := by
  cases call <;> first | rfl | cases reads

theorem Effect.stepped {call : Call}
    (effect : Effect env before call after) :
    Authority.Step env before.authority call.action after.authority := by
  cases effect with
  | init uninitialized deployed consented valid =>
      exact .establish uninitialized valid
  | updateRecoveryAddress quorum nonzero =>
      exact .rotate quorum.initialized
  | initiateRecovery stored authorized nonzero absent deadline =>
      exact .initiate stored authorized nonzero absent deadline
  | cancelRecovery stored authorized => exact .cancel stored authorized
  | executeRecovery stored matured => exact .execute stored matured
  | transferAdmin quorum stored valid =>
      exact .transfer (by simp [stored]) valid
  | changeThreshold stored threshold positive attainable =>
      exact .changeThreshold stored positive attainable
  | query reads =>
      rw [Call.action_of_isQuery reads]
      exact .idle
  | _ => exact .idle

/-- The governance contract and the authority in its storage. -/
def machine :
    Controlled State (Failure GovernanceError) Input Reply where
  step := step
  start := State.initial
  ledger := Input.env
  action := fun input => input.call.action
  authority := State.authority
  blank := rfl
  refines := fun succeeded => (invoke_effect succeeded).stepped

theorem init_initializes {deployer recoveryAddress : Address}
    {admins : List Address} {threshold : UInt32} {reply : Reply}
    (succeeded : invoke env
      (.init deployer admins threshold recoveryAddress) before =
        .ok (reply, after)) : after.authority.admin.isSome := by
  cases invoke_effect succeeded with
  | init => rfl
  | query reads => cases reads

theorem Reachable.sound {state : State} (reachable : Reachable state) :
    state.authority.Sound := by
  obtain ⟨inputs, rfl⟩ := reachable
  exact machine.sound_run

end BettaPay.Governance
