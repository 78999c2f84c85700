import BettaPay.Host.Journal
import BettaPay.Governance.Effect

namespace BettaPay.Governance

open BettaPay.Host
open BettaPay.Common

/-! Whom the events name as the author of what they report. -/

def Event.actor : Event → Option Address
  | .initialized admin => some admin
  | .recoveryAddressUpdated _ admin => some admin
  | .contractUpgraded _ caller => some caller
  | .recoveryInitiated recovery _ _ => some recovery
  | .recoveryCancelled canceller => some canceller
  | .recoveryExecuted _ => none
  | .adminTransferred _ => none
  | .thresholdChanged _ _ => none
  | .paused admin _ => some admin
  | .unpaused admin => some admin
  | .migrated admin _ => some admin
  | .sysParamUpdated _ admin _ _ => some admin
  | .feeConfigUpdated admin _ => some admin
  | .anchorUpserted _ _ _ => none
  | .anchorRemoved _ => none

/-- What an address has to be to do what the event reports: the head of a
quorum, or, where the event is about these, the recovery address, who initiated
the pending recovery, or anyone while there are no admins yet. -/
def State.Entitled (env : Ledger) (state : State) (actor : Address) :
    Event → Prop
  | .initialized _ => state.admin = none
  | .recoveryInitiated _ _ _ => state.recoveryAddress = some actor
  | .recoveryCancelled _ => state.authority.LedBy env actor ∨
      ∃ pending, state.pendingRecovery = some pending ∧
        pending.initiatedBy = actor
  | _ => state.authority.LedBy env actor

structure Vouched (env : Ledger) (state : State) (actor : Address)
    (event : Event) : Prop where
  signed : env.auths actor = true
  entitled : state.Entitled env actor event

/-- The authors of what was published stand by it. -/
def PublishesVouched (env : Ledger) (before after : State) : Prop :=
  ∃ published, after.events = before.events ++ published ∧
    ∀ event ∈ published, ∀ actor, event.actor = some actor →
      Vouched env before actor event

variable {env : Ledger} {before after : State} {result : Unit}

theorem PublishesVouched.silent (same : after.events = before.events) :
    PublishesVouched env before after :=
  ⟨[], by rw [same, List.append_nil], fun _ absent => by cases absent⟩

theorem PublishesVouched.single {event : Event}
    (added : after.events = before.events ++ [event])
    (vouched : ∀ actor, event.actor = some actor →
      Vouched env before actor event) :
    PublishesVouched env before after := by
  refine ⟨[event], added, ?_⟩
  intro other listed
  rw [List.mem_singleton.mp listed]
  exact vouched

/-- An administrative event names the first signer of a quorum. -/
theorem PublishesVouched.led {signers : List Address} {leader : Address}
    {event : Event} (added : after.events = before.events ++ [event])
    (quorum : before.authority.Quorum env signers)
    (leads : signers.head? = some leader)
    (names : event.actor = some leader)
    (entitled : before.authority.LedBy env leader →
      before.Entitled env leader event) :
    PublishesVouched env before after := by
  apply single added
  intro actor named
  cases named.symm.trans names
  have led : before.authority.LedBy env leader := ⟨signers, leads, quorum⟩
  exact ⟨led.signed, entitled led⟩

theorem init_vouched {deployer recoveryAddress : Address}
    {admins : List Address} {threshold : UInt32}
    (succeeded : init env deployer admins threshold recoveryAddress before =
      .ok (result, after)) : PublishesVouched env before after := by
  simp only [init, Tx.readState_bind, Tx.bind_ok, rejectIf_ok,
    requireAuth_ok, validateAdminsAndThreshold_ok, assertNotZero_ok,
    requireAllAuth_ok, Tx.writeState_ok, unwrapFirst_ok, emit_ok]
    at succeeded
  obtain ⟨_, _, ⟨uninitialized, rfl⟩, _, _, ⟨_, rfl⟩, _, _, ⟨_, rfl⟩, _, _,
    ⟨_, rfl⟩, _, _, ⟨consented, rfl⟩, _, _, rfl, admin, _, ⟨leads, rfl⟩,
    rfl⟩ := succeeded
  refine .single rfl fun actor names => ?_
  cases names
  have blank : before.admin = none := by simpa using uninitialized
  exact ⟨consented _ (List.mem_of_head? leads), blank⟩

theorem updateRecoveryAddress_vouched {signers : List Address}
    {newRecovery : Address}
    (succeeded : updateRecoveryAddress env signers newRecovery before =
      .ok (result, after)) : PublishesVouched env before after := by
  simp only [updateRecoveryAddress, Tx.bind_ok, verifyThresholdAuth_ok,
    unwrapFirst_ok, assertNotZero_ok, Tx.writeState_ok, emit_ok]
    at succeeded
  obtain ⟨_, _, ⟨quorum, rfl⟩, admin, _, ⟨leads, rfl⟩, _, _, ⟨_, rfl⟩, _, _,
    rfl, rfl⟩ := succeeded
  exact .led rfl quorum leads rfl id

theorem upgrade_vouched {signers : List Address} {newWasmHash : BytesN 32}
    (succeeded : upgrade env signers newWasmHash before =
      .ok (result, after)) : PublishesVouched env before after := by
  simp only [upgrade, Tx.bind_ok, verifyThresholdAuth_ok, rejectIf_ok,
    unwrapFirst_ok, emit_ok, Tx.writeState_ok] at succeeded
  obtain ⟨_, _, ⟨quorum, rfl⟩, _, _, probed, _, _, ⟨_, rfl⟩, caller, _,
    ⟨leads, rfl⟩, _, _, rfl, rfl⟩ := succeeded
  obtain rfl := probeSupportsInterface_ok probed
  exact .led rfl quorum leads rfl id

theorem cancelRecovery_vouched {signers : List Address}
    (succeeded : cancelRecovery env signers before = .ok (result, after)) :
    PublishesVouched env before after := by
  simp only [cancelRecovery, Tx.bind_ok, readPendingRecovery_ok,
    unwrapFirst_ok, Tx.writeState_ok, emit_ok] at succeeded
  obtain ⟨pending, _, ⟨stored, rfl⟩, _, _, checked, canceller, _,
    ⟨leads, rfl⟩, _, _, rfl, rfl⟩ := succeeded
  obtain ⟨authorized, rfl⟩ := authorizeCancellation_ok checked
  rcases authorized with ⟨rfl, signed⟩ | quorum
  · cases leads
    refine .single rfl fun actor names => ?_
    cases names
    exact ⟨signed, .inr ⟨pending, stored, rfl⟩⟩
  · exact .led rfl quorum leads rfl .inl

theorem pause_vouched {signers : List Address}
    (succeeded : pause env signers before = .ok (result, after)) :
    PublishesVouched env before after := by
  simp only [pause, applyPause, Tx.readState_bind, Tx.bind_ok,
    verifyThresholdAuth_ok, rejectIf_ok, unwrapFirst_ok, Tx.writeState_ok,
    emit_ok] at succeeded
  obtain ⟨_, _, ⟨quorum, rfl⟩, _, _, ⟨_, rfl⟩, admin, _, ⟨leads, rfl⟩, _, _,
    rfl, rfl⟩ := succeeded
  exact .led rfl quorum leads rfl id

theorem unpause_vouched {signers : List Address}
    (succeeded : unpause env signers before = .ok (result, after)) :
    PublishesVouched env before after := by
  simp only [unpause, applyUnpause, Tx.readState_bind, Tx.bind_ok,
    verifyThresholdAuth_ok, rejectIf_ok, unwrapFirst_ok, Tx.writeState_ok,
    emit_ok] at succeeded
  obtain ⟨_, _, ⟨quorum, rfl⟩, _, _, ⟨_, rfl⟩, admin, _, ⟨leads, rfl⟩, _, _,
    rfl, rfl⟩ := succeeded
  exact .led rfl quorum leads rfl id

theorem migrate_vouched {signers : List Address}
    (succeeded : migrate env signers before = .ok (result, after)) :
    PublishesVouched env before after := by
  simp only [migrate, runMigrations, readSchemaVersion, Tx.readState_bind,
    Tx.bind_ok, assertNotPaused_ok, verifyThresholdAuth_ok, unwrapFirst_ok,
    Tx.pure_ok, emit_ok] at succeeded
  obtain ⟨_, _, ⟨_, rfl⟩, _, _, ⟨quorum, rfl⟩, admin, _, ⟨leads, rfl⟩, _, _,
    ⟨_, _, ⟨_, rfl⟩, migrated⟩, rfl⟩ := succeeded
  obtain ⟨marker, rfl⟩ := migrateRounds_ok migrated
  exact .led rfl quorum leads rfl id

theorem updateSystemParam_vouched {signers : List Address} {key : Symbol}
    {value : I128}
    (succeeded : updateSystemParam env signers key value before =
      .ok (result, after)) : PublishesVouched env before after := by
  simp only [updateSystemParam, Tx.readState_bind, Tx.bind_ok,
    assertAdminAndNotPaused_ok, rejectIf_ok, unwrapFirst_ok,
    Tx.writeState_ok, emit_ok] at succeeded
  obtain ⟨_, _, ⟨⟨_, quorum⟩, rfl⟩, _, _, ⟨_, rfl⟩, _, _, ⟨_, rfl⟩, admin, _,
    ⟨leads, rfl⟩, _, _, rfl, rfl⟩ := succeeded
  exact .led rfl quorum leads rfl id

theorem setFeeConfig_vouched {signers : List Address} {config : FeeConfig}
    (succeeded : setFeeConfig env signers config before =
      .ok (result, after)) : PublishesVouched env before after := by
  simp only [setFeeConfig, Tx.bind_ok, assertAdminAndNotPaused_ok,
    rejectIf_ok, orTrap_ok, unwrapFirst_ok, Tx.writeState_ok, emit_ok]
    at succeeded
  obtain ⟨_, _, ⟨⟨_, quorum⟩, rfl⟩, _, _, ⟨_, rfl⟩, _, _, ⟨_, rfl⟩, _, _,
    ⟨_, rfl⟩, admin, _, ⟨leads, rfl⟩, _, _, rfl, rfl⟩ := succeeded
  exact .led rfl quorum leads rfl id

/-- Every author that a call names signed it in a fitting role. -/
theorem invoke_vouched {call : Call} {reply : Reply}
    (succeeded : invoke env call before = .ok (reply, after)) :
    PublishesVouched env before after := by
  have effect := invoke_effect succeeded
  cases call
  all_goals obtain ⟨_, ran, _⟩ := replying_ok.mp succeeded
  case init => exact init_vouched ran
  case updateRecoveryAddress => exact updateRecoveryAddress_vouched ran
  case upgrade => exact upgrade_vouched ran
  case cancelRecovery => exact cancelRecovery_vouched ran
  case pause => exact pause_vouched ran
  case unpause => exact unpause_vouched ran
  case migrate => exact migrate_vouched ran
  case updateSystemParam => exact updateSystemParam_vouched ran
  case setFeeConfig => exact setFeeConfig_vouched ran
  case initiateRecovery =>
    cases effect with
    | initiateRecovery stored authorized =>
        refine .single rfl fun actor names => ?_
        cases names
        exact ⟨authorized, stored⟩
    | query reads => cases reads
  all_goals
    cases effect
    case query => exact .silent rfl
    all_goals exact .single rfl fun _ names => by cases names

theorem events_growing : Growing step State.events := by
  intro input before reply after succeeded
  obtain ⟨published, added, _⟩ := invoke_vouched succeeded
  exact ⟨published, added⟩

/-- Nobody is named in the log as the author of what they did not sign, nor
of what their role does not allow. -/
theorem authors_vouched {inputs : List Input} {position : Nat}
    {event : Event} {actor : Address}
    (listed : (run step State.initial inputs).events[position]? =
      some event)
    (names : event.actor = some actor) :
    ∃ index input,
      AddedBy step State.events State.initial inputs position index input ∧
      Vouched input.env (stateAt step State.initial inputs index) actor
        event := by
  obtain ⟨index, input, reply, after, published, added, succeeded, told,
    member⟩ := events_growing.added rfl listed
  refine ⟨index, input, added, ?_⟩
  obtain ⟨published', told', vouched⟩ := invoke_vouched succeeded
  rw [told, List.append_cancel_left_eq] at told'
  subst told'
  exact vouched event member actor names

end BettaPay.Governance
