import BettaPay.Settlement.Inversion
import BettaPay.Common.Recovery

namespace BettaPay.Settlement

open BettaPay.Host
open BettaPay.Common

/-! The settlement contract as a machine that moves an authority. -/

def Operation.action : Operation → Authority.Action
  | .cancelRecovery => .cancelQueued
  | _ => .other

def Call.action : Call → Authority.Action
  | .initiateRecovery newAdmin => .initiate newAdmin
  | .cancelRecovery signers => .cancel signers
  | .executeRecovery => .execute
  | .execute _ operation => operation.action
  | _ => .other

theorem Applied.stepped {env : Env} {ledger : Ledger}
    {state after : State} {actor : Address} {operation : Operation}
    (applied : Applied env state actor operation after) :
    Authority.Step ledger state.authority operation.action
      after.authority := by
  cases applied with
  | cancelRecovery stored => exact .cancelQueued stored
  | transferAdmin stored valid separate =>
      exact .transfer (by simp [stored]) valid
  | _ => exact .idle

theorem Call.action_of_administers {call : Call} {signers : List Address}
    {operation : Operation}
    (direct : call.administers = some (signers, operation)) :
    call.action = operation.action := by
  cases call <;> simp only [Call.administers, Option.some.injEq,
    Prod.mk.injEq, reduceCtorEq] at direct <;>
    obtain ⟨_, rfl⟩ := direct <;> rfl

theorem Call.action_of_isQuery {call : Call} (reads : call.isQuery = true) :
    call.action = .other := by
  cases call <;> first | rfl | cases reads

theorem Drained.authority {codec : Codec} {operations : List Operation}
    {count : Nat} {before after : State}
    (drained : Drained codec operations count before after) :
    after.authority = before.authority := by
  obtain ⟨slots, counter, rfl⟩ := drained.unchanged
  rfl

theorem Pruned.authority {merchant : Address} {refs : List (BytesN 32)}
    {count : Nat} {before after : State}
    (pruned : Pruned merchant refs count before after) :
    after.authority = before.authority := by
  rw [pruned.table]
  rfl

theorem Effect.stepped {codec : Codec} {env : Env} {state after : State}
    {call : Call} (effect : Effect codec env state call after) :
    Authority.Step env.toLedger state.authority call.action
      after.authority := by
  cases effect with
  | init uninitialized deployed consented valid =>
      exact .establish uninitialized valid
  | initiateRecovery stored authorized nonzero absent deadline =>
      exact .initiate stored authorized nonzero absent deadline
  | cancelRecovery stored authorized => exact .cancel stored authorized
  | updateRecoveryAddress quorum nonzero =>
      exact .rotate quorum.initialized
  | executeRecovery stored matured valid => exact .execute stored matured
  | changeThreshold stored threshold positive attainable =>
      exact .changeThreshold stored positive attainable
  | execute queued unpaused matured unvetoed applied =>
      exact applied.stepped
  | cancelAll quorum unpaused bounded drained =>
      rw [State.authority_soft, drained.authority]
      exact .idle
  | administer direct quorum unpaused agreed prepared applied =>
      subst prepared
      rw [Call.action_of_administers direct]
      exact applied.stepped
  | prunePayments quorum bounded pruned counted =>
      have same := pruned.authority
      rw [State.authority_soft]
      simp only [State.authority] at same ⊢
      rw [same]
      exact .idle
  | query reads =>
      rw [Call.action_of_isQuery reads]
      exact .idle
  | _ => exact .idle

/-- The settlement contract and the authority in its storage. -/
def machine (codec : Codec) :
    Controlled State (Failure SettlementError) Input Reply where
  step := step codec
  start := State.initial
  ledger := fun input => input.env.toLedger
  action := fun input => input.call.action
  authority := State.authority
  blank := rfl
  refines := fun succeeded => (invoke_effect succeeded).stepped

theorem init_initializes {codec : Codec} {env : Env}
    {deployer governance recoveryAddress : Address} {admins : List Address}
    {threshold : UInt32} {before after : State} {reply : Reply}
    (succeeded : invoke codec env
      (.init deployer admins threshold governance recoveryAddress) before =
        .ok (reply, after)) : after.authority.admin.isSome := by
  cases invoke_effect succeeded with
  | init => rfl
  | administer direct => cases direct
  | query reads => cases reads

theorem Reachable.sound {codec : Codec} {state : State}
    (reachable : Reachable codec state) : state.authority.Sound := by
  obtain ⟨inputs, rfl⟩ := reachable
  exact (machine codec).sound_run

end BettaPay.Settlement
