import BettaPay.Governance.Effect

namespace BettaPay.Governance

open BettaPay.Host
open BettaPay.Common

/-! No entry point fails to unwrap its first signer. -/

variable {env : Ledger} {state : State}

@[simp] theorem avoids_emit {event : Event} :
    Tx.Avoids .unwrapNone (emit event) state := by
  simp [emit]

@[simp] theorem avoids_readAdmins : Tx.Avoids .unwrapNone readAdmins state := by
  simp [readAdmins]

@[simp] theorem avoids_readThreshold :
    Tx.Avoids .unwrapNone readThreshold state := by
  simp [readThreshold]

@[simp] theorem avoids_assertNotZero {address : Address}
    {error : GovernanceError} :
    Tx.Avoids .unwrapNone (assertNotZero address error) state := by
  simp [assertNotZero]

@[simp] theorem avoids_validateAdminsAndThreshold {admins : List Address}
    {threshold : UInt32} :
    Tx.Avoids .unwrapNone (validateAdminsAndThreshold admins threshold)
      state := by
  simp [validateAdminsAndThreshold]

@[simp] theorem avoids_verifyAdminAuth {signers : List Address}
    {count : UInt32} :
    Tx.Avoids .unwrapNone (verifyAdminAuth env signers count) state := by
  simp [verifyAdminAuth]

@[simp] theorem avoids_verifyThresholdAuth {signers : List Address} :
    Tx.Avoids .unwrapNone (verifyThresholdAuth env signers) state := by
  simp [verifyThresholdAuth]

@[simp] theorem avoids_assertNotPaused :
    Tx.Avoids .unwrapNone assertNotPaused state := by
  simp [assertNotPaused]

@[simp] theorem avoids_assertAdminAndNotPaused {signers : List Address} :
    Tx.Avoids .unwrapNone (assertAdminAndNotPaused env signers) state := by
  simp [assertAdminAndNotPaused]

@[simp] theorem avoids_runMigrations :
    Tx.Avoids .unwrapNone runMigrations state := by
  have rounds : ∀ remaining version middle, Tx.Avoids .unwrapNone
      (migrateRounds migrateStep setSchemaVersion remaining version)
      middle := fun _ _ _ =>
    avoids_migrateRounds (by simp [migrateStep]) (by simp [setSchemaVersion])
  simp [runMigrations, readSchemaVersion, rounds]

/-- No call ends in a failed `unwrap`, whatever its signers. -/
theorem invoke_avoids (sound : state.authority.Sound) (call : Call) :
    Tx.Avoids .unwrapNone (invoke env call) state := by
  have signed : ∀ {signers : List Address},
      state.authority.Quorum env signers → signers ≠ [] :=
    sound.signers_ne_nil
  cases call
  case init deployer admins threshold recoveryAddress =>
    simp only [invoke, avoids_replying, init, Tx.avoids_bind,
      Tx.avoids_readState, avoids_rejectIf, avoids_requireAuth,
      avoids_validateAdminsAndThreshold, validateAdminsAndThreshold_ok,
      avoids_assertNotZero, avoids_requireAllAuth, Tx.avoids_writeState,
      avoids_unwrapFirst, avoids_emit, true_and, implies_true, and_true]
    intro _ _ _ _ _ _ _ _ _ _ _ given _ _ _ _ _ _ _ _ _
    obtain ⟨valid, rfl⟩ := given
    exact valid.nonempty
  case cancelRecovery signers =>
    simp only [invoke, avoids_replying, cancelRecovery, readPendingRecovery,
      Tx.avoids_bind, Tx.avoids_readState, avoids_orReject, Tx.readState_bind,
      orReject_ok, Tx.avoids_writeState, avoids_emit, true_and, implies_true,
      avoids_unwrapFirst, and_true]
    intro pending _ given
    obtain ⟨stored, rfl⟩ := given
    refine ⟨by simp [authorizeCancellation], ?_⟩
    intro _ _ authorized
    obtain ⟨⟨rfl, _⟩ | quorum, _⟩ := authorizeCancellation_ok authorized
    · simp
    · exact signed quorum
  case setFeeConfig signers config =>
    simp only [invoke, avoids_replying, setFeeConfig, Tx.avoids_bind,
      avoids_assertAdminAndNotPaused, assertAdminAndNotPaused_ok,
      avoids_rejectIf, avoids_orTrap, avoids_unwrapFirst,
      Tx.avoids_writeState, avoids_emit, true_and, implies_true, and_true]
    intro _ _ given _ _ _ _ _ _ _ _ _
    obtain ⟨⟨_, quorum⟩, rfl⟩ := given
    exact signed quorum
  all_goals
    simp +contextual [invoke, updateRecoveryAddress, upgrade,
      initiateRecovery, readRecoveryAddress, executeRecovery,
      readPendingRecovery, readOptionalAdmins, transferAdmin,
      changeThreshold, pause, applyPause, unpause, applyUnpause, migrate,
      updateSystemParam, upsertAnchor, removeAnchor,
      supportsInterface, isInitialized, getAdmin, getThreshold,
      getRecoveryAddress, getIsPaused, getSystemParam, getFeeConfig,
      getAnchor, signed]

end BettaPay.Governance
