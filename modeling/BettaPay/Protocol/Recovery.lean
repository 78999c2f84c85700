import BettaPay.Settlement.Control
import BettaPay.Governance.Effect

namespace BettaPay.Protocol

open BettaPay.Host
open BettaPay.Common

/-- What the recovery process guarantees along one run of a contract. -/
structure RecoveryLifecycle {σ ε ι ο : Type} (machine : Controlled σ ε ι ο)
    (inputs : List ι) : Prop where
  /-- An execution commits exactly when a recovery is pending and due. -/
  enabled : ∀ index input, inputs[index]? = some input →
    machine.action input = .execute →
    (machine.Commits inputs index input .execute ↔
      ∃ pending,
        (machine.authorityAt inputs index).pendingRecovery = some pending ∧
        pending.executeAfter ≤ (machine.ledger input).timestamp)
  /-- Every execution completes its own earlier initiation. -/
  initiated : ∃ initiationOf : Nat → Nat,
    (∀ execution,
      (∃ finish, machine.Commits inputs execution finish .execute) →
      machine.CompletedFrom inputs (initiationOf execution) execution) ∧
    ∀ first second,
      (∃ finish, machine.Commits inputs first finish .execute) →
      (∃ finish, machine.Commits inputs second finish .execute) →
      initiationOf first = initiationOf second → first = second
  /-- A pending recovery is only ever removed, by those entitled to. -/
  kept : ∀ index pending,
    (machine.authorityAt inputs index).pendingRecovery = some pending →
    (machine.authorityAt inputs (index + 1)).pendingRecovery =
        some pending ∨
      (machine.authorityAt inputs (index + 1)).pendingRecovery = none ∧
        ∃ input action, machine.Commits inputs index input action ∧
          Authority.Ends (machine.ledger input)
            (machine.authorityAt inputs index) pending action

/-- The part of the lifecycle that holds of every controlled machine; only the
success of an execution depends on the contract. -/
theorem RecoveryLifecycle.of_enabled {σ ε ι ο : Type}
    {machine : Controlled σ ε ι ο} {inputs : List ι}
    (succeeds : ∀ {input state pending}, (machine.authority state).Sound →
      machine.action input = .execute →
      (machine.authority state).pendingRecovery = some pending →
      pending.executeAfter ≤ (machine.ledger input).timestamp →
      ∃ reply after, machine.step input state = .ok (reply, after)) :
    RecoveryLifecycle machine inputs where
  enabled := by
    intro index input here executes
    constructor
    · intro committed
      have stepped := committed.stepped
      cases installed : machine.authorityAt inputs (index + 1)
      rw [installed] at stepped
      cases stepped with
      | execute stored matured => exact ⟨_, stored, matured⟩
    · intro given
      obtain ⟨pending, stored, matured⟩ := given
      obtain ⟨reply, after, succeeded⟩ :=
        succeeds (Controlled.sound_at index) executes stored matured
      exact ⟨executes, reply, succeeds_of_ok here succeeded⟩
  initiated := Controlled.exists_initiations
  kept := fun _ _ stored => Controlled.pending_kept_or_ended stored

theorem settlement_execution_succeeds {codec : Settlement.Codec}
    {input : Settlement.Input} {state : Settlement.State}
    {pending : PendingRecovery} (sound : state.authority.Sound)
    (executes : input.call.action = .execute)
    (stored : state.pendingRecovery = some pending)
    (matured : pending.executeAfter ≤ input.env.timestamp) :
    ∃ reply after, Settlement.step codec input state = .ok (reply, after) := by
  obtain ⟨env, call⟩ := input
  have call_eq : call = .executeRecovery := by
    cases call with
    | executeRecovery => rfl
    | execute executor operation => cases operation <;> cases executes
    | _ => cases executes
  subst call_eq
  have valid := validAdmins_singleton (sound.recoverable pending stored)
  have executed : ∃ after,
      Settlement.executeRecovery env state = .ok ((), after) := by
    simp only [Settlement.executeRecovery, Tx.bind_ok,
      Settlement.readPendingRecovery_ok, rejectIf_ok,
      Settlement.readOptionalAdmins_ok, Settlement.writeAdmins_ok,
      Tx.writeState_ok, Settlement.emit_ok]
    exact ⟨_, pending, _, ⟨stored, rfl⟩, (), _,
      ⟨UInt64.not_lt.mpr matured, rfl⟩, _, _, ⟨rfl, rfl⟩, (), _,
      ⟨valid, rfl⟩, (), _, rfl, rfl⟩
  obtain ⟨after, executed⟩ := executed
  exact ⟨.unit, after, replying_ok.mpr ⟨(), executed, rfl⟩⟩

theorem governance_execution_succeeds {input : Governance.Input}
    {state : Governance.State} {pending : PendingRecovery}
    (executes : input.call.action = .execute)
    (stored : state.pendingRecovery = some pending)
    (matured : pending.executeAfter ≤ input.env.timestamp) :
    ∃ reply after, Governance.step input state = .ok (reply, after) := by
  obtain ⟨env, call⟩ := input
  have call_eq : call = .executeRecovery := by
    cases call with
    | executeRecovery => rfl
    | _ => cases executes
  subst call_eq
  have executed : ∃ after,
      Governance.executeRecovery env state = .ok ((), after) := by
    simp only [Governance.executeRecovery, Tx.bind_ok,
      Governance.readPendingRecovery_ok, rejectIf_ok,
      Governance.readOptionalAdmins_ok, Tx.writeState_ok, Governance.emit_ok]
    exact ⟨_, pending, _, ⟨stored, rfl⟩, (), _,
      ⟨UInt64.not_lt.mpr matured, rfl⟩, _, _, ⟨rfl, rfl⟩, (), _, rfl, rfl⟩
  obtain ⟨after, executed⟩ := executed
  exact ⟨.unit, after, replying_ok.mpr ⟨(), executed, rfl⟩⟩

/-- Recovery is safe in both contracts, along every run; only the settlement
contract can also cancel one through its timelock. -/
theorem recovery_lifecycle (codec : Settlement.Codec)
    (settlementInputs : List Settlement.Input)
    (governanceInputs : List Governance.Input) :
    RecoveryLifecycle (Settlement.machine codec) settlementInputs ∧
      RecoveryLifecycle Governance.machine governanceInputs ∧
      ∀ input, Governance.machine.action input ≠ .cancelQueued := by
  refine ⟨.of_enabled settlement_execution_succeeds, .of_enabled ?_, ?_⟩
  · intro input state pending _ executes stored matured
    exact governance_execution_succeeds executes stored matured
  · intro given queued
    obtain ⟨env, call⟩ := given
    cases call <;> cases queued

end BettaPay.Protocol
