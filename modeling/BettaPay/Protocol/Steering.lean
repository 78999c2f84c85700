import BettaPay.Protocol.Takeover
import BettaPay.Settlement.Drain

namespace BettaPay.Protocol

open BettaPay.Host
open BettaPay.Common

/-! A quorum can bring either contract to rest and set it up anew. -/

/-- Who is to control a contract. -/
structure Appointment where
  admins : List Address
  threshold : UInt32
  recovery : Address

structure Appointment.Valid (appointed : Appointment) : Prop where
  admins : ValidAdmins appointed.admins appointed.threshold
  recovery : appointed.recovery ≠ zeroAddress

section Settlement

variable {codec : Settlement.Codec} {env : Settlement.Env}
  {state : Settlement.State} {signers : List Address} {signer : Address}

/-- The calls of one ledger, in order. -/
abbrev settlementCalls (env : Settlement.Env)
    (calls : List Settlement.Call) : List Settlement.Input :=
  calls.map fun call => ⟨env, call⟩

theorem settlement_commits {call : Settlement.Call}
    {reply : Settlement.Reply} {after : Settlement.State}
    (succeeded : Settlement.invoke codec env call state =
      .ok (reply, after)) :
    run (Settlement.step codec) state (settlementCalls env [call]) =
      after :=
  commit_of_ok succeeded

theorem settlement_resumes (first : signers.head? = some signer)
    (quorum : state.authority.Quorum env.toLedger signers) :
    ∃ calls paused events, calls.length ≤ 1 ∧
      run (Settlement.step codec) state (settlementCalls env calls) =
        { state with paused := paused, events := events } ∧
      paused.getD false = false := by
  cases paused : state.isPaused with
  | false => exact ⟨[], state.paused, state.events, by simp, rfl, paused⟩
  | true =>
      have ran : Settlement.unpause env signers state = .ok ((),
          { state with
            paused := some false
            events := state.events ++ [.unpaused signer] }) := by
        simp only [Settlement.unpause, Tx.readState_bind, Tx.bind_ok,
          Settlement.verifyThresholdAuth_ok, rejectIf_ok, unwrapFirst_ok,
          Tx.writeState_ok, Settlement.emit_ok, Bool.not_eq_false]
        exact ⟨(), _, ⟨quorum, rfl⟩, (), _, ⟨paused, rfl⟩, signer, _,
          ⟨first, rfl⟩, (), _, rfl, rfl⟩
      refine ⟨[.unpause signers], some false,
        state.events ++ [.unpaused signer], Nat.le_refl _, ?_, rfl⟩
      exact settlement_commits (replying_ok.mpr ⟨_, ran, rfl⟩)

theorem settlement_dismisses (first : signers.head? = some signer)
    (quorum : state.authority.Quorum env.toLedger signers) :
    ∃ calls events, calls.length ≤ 1 ∧
      run (Settlement.step codec) state (settlementCalls env calls) =
        { state with pendingRecovery := none, events := events } := by
  cases stored : state.pendingRecovery with
  | none => exact ⟨[], state.events, by simp, by rw [← stored]; rfl⟩
  | some pending =>
      have ran : Settlement.cancelRecovery env signers state = .ok ((),
          { state with
            pendingRecovery := none
            events := state.events ++ [.recoveryCancelled signer] }) := by
        simp only [Settlement.cancelRecovery,
          Settlement.removePendingRecovery, Tx.bind_ok,
          Settlement.readPendingRecovery_ok, unwrapFirst_ok,
          Tx.writeState_ok, Settlement.emit_ok]
        exact ⟨pending, _, ⟨stored, rfl⟩, (), _,
          settlement_authorizes (.inr quorum), signer, _, ⟨first, rfl⟩, (),
          _, rfl, rfl⟩
      refine ⟨[.cancelRecovery signers],
        state.events ++ [.recoveryCancelled signer], Nat.le_refl _, ?_⟩
      exact settlement_commits (replying_ok.mpr ⟨_, ran, rfl⟩)

/-- The governance contract and the recovery address are replaced. -/
theorem settlement_appoints {governance recovery : Address}
    (first : signers.head? = some signer)
    (quorum : state.authority.Quorum env.toLedger signers)
    (unpaused : state.isPaused = false) (governed : governance ≠ zeroAddress)
    (recoverable : recovery ≠ zeroAddress) :
    ∃ events, run (Settlement.step codec) state
        (settlementCalls env [.updateGovernance signers governance,
          .updateRecoveryAddress signers recovery]) =
      { state with
        governance := some governance
        recoveryAddress := some recovery
        events := events } := by
  have governs : Settlement.updateGovernance env signers governance state =
      .ok ((), { state with
        governance := some governance
        events := state.events ++
          [.governanceUpdated signer governance] }) := by
    simp only [Settlement.updateGovernance, Settlement.storeGovernance,
      Tx.bind_ok, Settlement.assertAdminAndNotPaused_ok,
      Settlement.validateGovernance_ok, unwrapFirst_ok, Tx.writeState_ok,
      Settlement.emit_ok]
    exact ⟨(), _, ⟨⟨unpaused, quorum⟩, rfl⟩, (), _, ⟨governed, rfl⟩, signer,
      _, ⟨first, rfl⟩, (), _, rfl, rfl⟩
  have recovers : Settlement.updateRecoveryAddress env signers recovery
      { state with
        governance := some governance
        events := state.events ++
          [.governanceUpdated signer governance] } =
      .ok ((), { state with
        governance := some governance
        recoveryAddress := some recovery
        events := state.events ++ [.governanceUpdated signer governance] ++
          [.recoveryAddressUpdated recovery signer] }) := by
    simp only [Settlement.updateRecoveryAddress, Tx.bind_ok,
      Settlement.verifyThresholdAuth_ok, unwrapFirst_ok,
      Settlement.validateNonzeroAddress_ok, Tx.writeState_ok,
      Settlement.emit_ok]
    exact ⟨(), _, ⟨quorum, rfl⟩, signer, _, ⟨first, rfl⟩, (), _,
      ⟨recoverable, rfl⟩, (), _, rfl, rfl⟩
  have replaced := @settlement_commits codec env state
    (.updateGovernance signers governance) .unit _
    (replying_ok.mpr ⟨_, governs, rfl⟩)
  refine ⟨state.events ++ [.governanceUpdated signer governance] ++
    [.recoveryAddressUpdated recovery signer], ?_⟩
  rw [show settlementCalls env [_, _] = settlementCalls env [_] ++
    settlementCalls env [_] from rfl, run_append, replaced]
  exact settlement_commits (replying_ok.mpr ⟨_, recovers, rfl⟩)

/-- The admins come last: with them the quorum changes. -/
theorem settlement_hands_on {appointed : Appointment}
    (quorum : state.authority.Quorum env.toLedger signers)
    (valid : ValidAdmins appointed.admins appointed.threshold)
    (separate : ∀ admin, admin ∈ appointed.admins →
      state.merchant admin = false) :
    ∃ calls events, calls.length ≤ 1 ∧
      run (Settlement.step codec) state (settlementCalls env calls) =
        { state with
          admin := some appointed.admins
          threshold := some appointed.threshold
          events := events } := by
  obtain ⟨threshold, required, admins, stored, _⟩ := id quorum
  have known : state.admin = some admins := stored
  have needed : state.threshold = some threshold := required
  by_cases same : admins = appointed.admins ∧
      threshold = appointed.threshold
  · refine ⟨[], state.events, by simp, ?_⟩
    rw [← same.1, ← same.2, ← known, ← needed]
    rfl
  · have ran : Settlement.transferAdmin env signers appointed.admins
        appointed.threshold state = .ok ((), { state with
          admin := some appointed.admins
          threshold := some appointed.threshold
          events := state.events ++
            [.adminTransferred ⟨admins, appointed.admins⟩] }) := by
      simp only [Settlement.transferAdmin, Tx.bind_ok,
        Settlement.verifyThresholdAuth_ok,
        Settlement.validateAdminsAndThreshold_ok, Settlement.readAdmins_ok,
        Settlement.readThreshold_ok, rejectIf_ok,
        Settlement.rejectMerchantAdmins_ok, Settlement.writeAdmins_ok,
        Settlement.emit_ok]
      exact ⟨(), _, ⟨quorum, rfl⟩, (), _, ⟨valid, rfl⟩, admins, _,
        ⟨known, rfl⟩, threshold, _, ⟨needed, rfl⟩, (), _, ⟨same, rfl⟩, (),
        _, ⟨separate, rfl⟩, (), _, ⟨valid, rfl⟩, rfl⟩
    refine ⟨[.transferAdmin signers appointed.admins appointed.threshold],
      state.events ++ [.adminTransferred ⟨admins, appointed.admins⟩],
      Nat.le_refl _, ?_⟩
    exact settlement_commits (replying_ok.mpr ⟨_, ran, rfl⟩)

/-- The contract after it was brought to rest and set up anew: everything
else is as it was. -/
def settlementSteered (state : Settlement.State) (appointed : Appointment)
    (governance : Address) (paused : Option Bool) (counter : Option UInt32)
    (events : List Settlement.Event) : Settlement.State :=
  { state with
    admin := some appointed.admins
    threshold := some appointed.threshold
    recoveryAddress := some appointed.recovery
    governance := some governance
    pendingRecovery := none
    paused := paused
    scheduledOperation := fun _ => none
    pendingOperationCount := counter
    events := events }

theorem settlement_steers {appointed : Appointment} {governance : Address}
    (reachable : Settlement.Reachable codec state)
    (quorum : state.authority.Quorum env.toLedger signers)
    (valid : appointed.Valid) (governed : governance ≠ zeroAddress)
    (separate : ∀ admin, admin ∈ appointed.admins →
      state.merchant admin = false) :
    ∃ calls paused counter events,
      calls.length ≤ (size state.scheduledOperation + 49) / 50 + 5 ∧
      run (Settlement.step codec) state (settlementCalls env calls) =
        settlementSteered state appointed governance paused counter
          events ∧
      paused.getD false = false ∧
      (counter.getD 0).toNat =
        state.readPendingOperationCount.toNat -
          size state.scheduledOperation := by
  obtain ⟨signer, first⟩ := reachable.sound.head_of_quorum quorum
  obtain ⟨operations, sized, listed⟩ := reachable.listed
  obtain ⟨resume, paused, events₁, one, resumed, going⟩ :=
    @settlement_resumes codec env state signers signer first quorum
  obtain ⟨dismiss, events₂, one', dismissed⟩ :=
    @settlement_dismisses codec env
      { state with paused := paused, events := events₁ } signers signer
      first quorum
  obtain ⟨batches, counter, events₃, rounds, drained, counted⟩ :=
    @Settlement.drains codec env
      { state with
        paused := paused
        pendingRecovery := none
        events := events₂ }
      signers signer ((size state.scheduledOperation + 49) / 50) operations
      (by omega) listed first quorum going
  obtain ⟨events₄, appointing⟩ := @settlement_appoints codec env
    { state with
      paused := paused
      pendingRecovery := none
      scheduledOperation := fun _ => none
      pendingOperationCount := counter
      events := events₃ }
    signers signer governance appointed.recovery first quorum going governed
    valid.recovery
  obtain ⟨hand, events₅, one'', handed⟩ := @settlement_hands_on codec env
    { state with
      paused := paused
      pendingRecovery := none
      scheduledOperation := fun _ => none
      pendingOperationCount := counter
      governance := some governance
      recoveryAddress := some appointed.recovery
      events := events₄ }
    signers appointed quorum valid.admins separate
  have batched : settlementCalls env
      (batches.map (Settlement.Call.cancelAll signers)) =
      Settlement.cancelBatches env signers batches :=
    List.map_map ..
  refine ⟨resume ++ dismiss ++
      batches.map (Settlement.Call.cancelAll signers) ++
      [.updateGovernance signers governance,
        .updateRecoveryAddress signers appointed.recovery] ++ hand,
    paused, counter, events₅, ?_, ?_, going, counted⟩
  · simp only [List.length_append, List.length_map, List.length_cons,
      List.length_nil, rounds]
    omega
  · simp only [settlementCalls, List.map_append, run_append] at *
    rw [resumed, dismissed, batched, drained, appointing, handed]
    rfl

end Settlement

section Governance

variable {ledger : Ledger} {state : Governance.State}
  {signers : List Address} {signer : Address}

abbrev governanceCalls (ledger : Ledger) (calls : List Governance.Call) :
    List Governance.Input :=
  calls.map fun call => ⟨ledger, call⟩

theorem governance_commits {call : Governance.Call}
    {reply : Governance.Reply} {after : Governance.State}
    (succeeded : Governance.invoke ledger call state = .ok (reply, after)) :
    run Governance.step state (governanceCalls ledger [call]) = after :=
  commit_of_ok succeeded

theorem governance_resumes (first : signers.head? = some signer)
    (quorum : state.authority.Quorum ledger signers) :
    ∃ calls paused events, calls.length ≤ 1 ∧
      run Governance.step state (governanceCalls ledger calls) =
        { state with paused := paused, events := events } ∧
      paused.getD false = false := by
  cases paused : state.isPaused with
  | false => exact ⟨[], state.paused, state.events, by simp, rfl, paused⟩
  | true =>
      have ran : Governance.unpause ledger signers state = .ok ((),
          { state with
            paused := some false
            events := state.events ++ [.unpaused signer] }) := by
        simp only [Governance.unpause, Governance.applyUnpause,
          Tx.readState_bind, Tx.bind_ok, Governance.verifyThresholdAuth_ok,
          rejectIf_ok, unwrapFirst_ok, Tx.writeState_ok, Governance.emit_ok,
          Bool.not_eq_false]
        exact ⟨(), _, ⟨quorum, rfl⟩, (), _, ⟨paused, rfl⟩, signer, _,
          ⟨first, rfl⟩, (), _, rfl, rfl⟩
      refine ⟨[.unpause signers], some false,
        state.events ++ [.unpaused signer], Nat.le_refl _, ?_, rfl⟩
      exact governance_commits (replying_ok.mpr ⟨_, ran, rfl⟩)

theorem governance_dismisses (first : signers.head? = some signer)
    (quorum : state.authority.Quorum ledger signers) :
    ∃ calls events, calls.length ≤ 1 ∧
      run Governance.step state (governanceCalls ledger calls) =
        { state with pendingRecovery := none, events := events } := by
  cases stored : state.pendingRecovery with
  | none => exact ⟨[], state.events, by simp, by rw [← stored]; rfl⟩
  | some pending =>
      have ran : Governance.cancelRecovery ledger signers state = .ok ((),
          { state with
            pendingRecovery := none
            events := state.events ++ [.recoveryCancelled signer] }) := by
        simp only [Governance.cancelRecovery, Tx.bind_ok,
          Governance.readPendingRecovery_ok, unwrapFirst_ok,
          Tx.writeState_ok, Governance.emit_ok]
        exact ⟨pending, _, ⟨stored, rfl⟩, (), _,
          governance_authorizes (.inr quorum), signer, _, ⟨first, rfl⟩, (),
          _, rfl, rfl⟩
      refine ⟨[.cancelRecovery signers],
        state.events ++ [.recoveryCancelled signer], Nat.le_refl _, ?_⟩
      exact governance_commits (replying_ok.mpr ⟨_, ran, rfl⟩)

theorem governance_appoints {recovery : Address}
    (first : signers.head? = some signer)
    (quorum : state.authority.Quorum ledger signers)
    (recoverable : recovery ≠ zeroAddress) :
    run Governance.step state
        (governanceCalls ledger [.updateRecoveryAddress signers recovery]) =
      { state with
        recoveryAddress := some recovery
        events := state.events ++
          [.recoveryAddressUpdated recovery signer] } := by
  have ran : Governance.updateRecoveryAddress ledger signers recovery state =
      .ok ((), { state with
        recoveryAddress := some recovery
        events := state.events ++
          [.recoveryAddressUpdated recovery signer] }) := by
    simp only [Governance.updateRecoveryAddress, Tx.bind_ok,
      Governance.verifyThresholdAuth_ok, unwrapFirst_ok,
      Governance.assertNotZero_ok, Tx.writeState_ok, Governance.emit_ok]
    exact ⟨(), _, ⟨quorum, rfl⟩, signer, _, ⟨first, rfl⟩, (), _,
      ⟨recoverable, rfl⟩, (), _, rfl, rfl⟩
  exact governance_commits (replying_ok.mpr ⟨_, ran, rfl⟩)

theorem governance_hands_on {appointed : Appointment}
    (quorum : state.authority.Quorum ledger signers)
    (valid : ValidAdmins appointed.admins appointed.threshold) :
    ∃ calls events, calls.length ≤ 1 ∧
      run Governance.step state (governanceCalls ledger calls) =
        { state with
          admin := some appointed.admins
          threshold := some appointed.threshold
          events := events } := by
  obtain ⟨threshold, required, authorized⟩ := id quorum
  obtain ⟨admins, stored, _⟩ := id authorized
  have known : state.admin = some admins := stored
  have needed : state.threshold = some threshold := required
  by_cases same : admins = appointed.admins ∧
      threshold = appointed.threshold
  · refine ⟨[], state.events, by simp, ?_⟩
    rw [← same.1, ← same.2, ← known, ← needed]
    rfl
  · have ran : Governance.transferAdmin ledger signers appointed.admins
        appointed.threshold state = .ok ((), { state with
          admin := some appointed.admins
          threshold := some appointed.threshold
          events := state.events ++
            [.adminTransferred ⟨admins, appointed.admins⟩] }) := by
      simp only [Governance.transferAdmin, Tx.bind_ok,
        Governance.readThreshold_ok, Governance.verifyAdminAuth_ok,
        Governance.validateAdminsAndThreshold_ok, Governance.readAdmins_ok,
        rejectIf_ok, Tx.writeState_ok, Governance.emit_ok]
      exact ⟨threshold, _, ⟨needed, rfl⟩, (), _, ⟨authorized, rfl⟩, (), _,
        ⟨valid, rfl⟩, admins, _, ⟨known, rfl⟩, (), _, ⟨same, rfl⟩, (), _,
        rfl, rfl⟩
    refine ⟨[.transferAdmin signers appointed.admins appointed.threshold],
      state.events ++ [.adminTransferred ⟨admins, appointed.admins⟩],
      Nat.le_refl _, ?_⟩
    exact governance_commits (replying_ok.mpr ⟨_, ran, rfl⟩)

def governanceSteered (state : Governance.State) (appointed : Appointment)
    (paused : Option Bool) (events : List Governance.Event) :
    Governance.State :=
  { state with
    admin := some appointed.admins
    threshold := some appointed.threshold
    recoveryAddress := some appointed.recovery
    pendingRecovery := none
    paused := paused
    events := events }

theorem governance_steers {appointed : Appointment}
    (sound : state.authority.Sound)
    (quorum : state.authority.Quorum ledger signers)
    (valid : appointed.Valid) :
    ∃ calls paused events, calls.length ≤ 4 ∧
      run Governance.step state (governanceCalls ledger calls) =
        governanceSteered state appointed paused events ∧
      paused.getD false = false := by
  obtain ⟨signer, first⟩ := sound.head_of_quorum quorum
  obtain ⟨resume, paused, events₁, one, resumed, going⟩ :=
    @governance_resumes ledger state signers signer first quorum
  obtain ⟨dismiss, events₂, one', dismissed⟩ :=
    @governance_dismisses ledger
      { state with paused := paused, events := events₁ } signers signer
      first quorum
  have appointing := @governance_appoints ledger
    { state with
      paused := paused
      pendingRecovery := none
      events := events₂ }
    signers signer appointed.recovery first quorum valid.recovery
  obtain ⟨hand, events₃, one'', handed⟩ := @governance_hands_on ledger
    { state with
      paused := paused
      pendingRecovery := none
      recoveryAddress := some appointed.recovery
      events := events₂ ++
        [.recoveryAddressUpdated appointed.recovery signer] }
    signers appointed quorum valid.admins
  refine ⟨resume ++ dismiss ++
      [.updateRecoveryAddress signers appointed.recovery] ++ hand,
    paused, events₃, ?_, ?_, going⟩
  · simp only [List.length_append, List.length_cons, List.length_nil]
    omega
  · simp only [governanceCalls, List.map_append, run_append] at *
    rw [resumed, dismissed, appointing, handed]
    rfl

end Governance

/-- From every state that either contract can reach, paused or not, with a
recovery under way or not and whatever waits in the queue, a quorum of the
admins of that state brings it within one ledger to rest and under the control
of whom it likes, and leaves everything else as it is. -/
theorem quorum_steers (codec : Settlement.Codec)
    (appointed : Appointment) (valid : appointed.Valid)
    (signers : List Address) :
    (∀ state, Settlement.Reachable codec state →
      ∀ env : Settlement.Env,
        state.authority.Quorum env.toLedger signers →
      ∀ governance, governance ≠ zeroAddress →
      (∀ admin, admin ∈ appointed.admins → state.merchant admin = false) →
      ∃ calls paused counter events,
        calls.length ≤ (size state.scheduledOperation + 49) / 50 + 5 ∧
        run (Settlement.step codec) state (settlementCalls env calls) =
          settlementSteered state appointed governance paused counter
            events ∧
        paused.getD false = false ∧
        (counter.getD 0).toNat =
          state.readPendingOperationCount.toNat -
            size state.scheduledOperation) ∧
    (∀ state, Governance.Reachable state →
      ∀ ledger, state.authority.Quorum ledger signers →
      ∃ calls paused events, calls.length ≤ 4 ∧
        run Governance.step state (governanceCalls ledger calls) =
          governanceSteered state appointed paused events ∧
        paused.getD false = false) := by
  constructor
  · intro state reachable env quorum governance governed separate
    exact settlement_steers reachable quorum valid governed separate
  · intro state reachable ledger quorum
    exact governance_steers reachable.sound quorum valid

/-- A stopped contract with an operation in its queue and a recovery under
way, which the admin calls off before it hands over. -/
theorem quorum_steers_sample :
    ∃ calls final,
      run (Settlement.step Settlement.sampleCodec)
        (run (Settlement.step Settlement.sampleCodec)
          Settlement.State.initial
          (hostilePast ++
            [⟨.granting 400, .initiateRecovery (.account 8)⟩]))
        (settlementCalls (.granting 500) calls) = final ∧
      final.admin = some [.account 3, .account 4] ∧
      final.isPaused = false ∧ final.pendingRecovery = none ∧
      ∀ opHash, final.scheduledOperation opHash = none := by
  have steers := (quorum_steers Settlement.sampleCodec
    ⟨[.account 3, .account 4], 2, .account 7⟩
    ⟨⟨by decide, by decide, by decide, by decide⟩, by decide⟩
    [.account 1]).1
    (run (Settlement.step Settlement.sampleCodec) Settlement.State.initial
      (hostilePast ++ [⟨.granting 400, .initiateRecovery (.account 8)⟩]))
    ⟨_, rfl⟩ (.granting 500)
    (Authority.quorum_of_sole (by decide) (by decide) rfl) (.contract 5)
    (by decide) (by
      intro admin listed
      simp only [List.mem_cons, List.not_mem_nil, or_false] at listed
      rcases listed with rfl | rfl <;> decide)
  obtain ⟨calls, paused, counter, events, _, steered, going, _⟩ := steers
  exact ⟨calls, _, steered, rfl, going, rfl, fun _ => rfl⟩

end BettaPay.Protocol
