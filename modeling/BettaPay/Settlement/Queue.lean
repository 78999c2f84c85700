import BettaPay.Settlement.Inversion
import BettaPay.Settlement.Xdr

namespace BettaPay.Settlement

open BettaPay.Host
open BettaPay.Common

/-- The calls that touch the timelock queue. -/
def Call.touchesQueue : Call → Bool
  | .schedule _ _ _ => true
  | .execute _ _ => true
  | .cancel _ _ => true
  | .cancelAll _ _ => true
  | _ => false

/-- What a committed call does to the timelock queue. -/
inductive QueueStep (codec : Codec) (env : Env) (before after : State) :
    Call → Prop where
  | schedule {signers : List Address} {operation : Operation}
      {executeIn executeAt : UInt64}
      (quorum : before.authority.Quorum env.toLedger signers)
      (longEnough : minTimelockDelaySeconds ≤ executeIn)
      (shortEnough : executeIn ≤ maxTimelockDelaySeconds)
      (bounded : operation.WithinBounds)
      (small : (codec.toXdr operation).length ≤
        maxScheduledOperationPayloadLen.toNat)
      (free : before.scheduledOperation (codec.hash operation) = none)
      (deadline : executeAt.toNat = env.timestamp.toNat + executeIn.toNat)
      (slots : after.scheduledOperation =
        Function.update before.scheduledOperation (codec.hash operation)
          (some ⟨codec.toXdr operation, executeAt⟩))
      (counter : after.readPendingOperationCount =
        saturatingAdd32 before.readPendingOperationCount 1) :
      QueueStep codec env before after
        (.schedule signers operation executeIn)
  | execute {executor : Address} {operation : Operation}
      {slot : ScheduledOp} (queued : Queued codec before operation slot)
      (matured : slot.executeAt ≤ env.timestamp)
      (unvetoed : before.pendingRecovery = none ∨
        operation = .cancelRecovery)
      (slots : after.scheduledOperation =
        Function.update before.scheduledOperation (codec.hash operation)
          none)
      (counter : after.readPendingOperationCount =
        saturatingSub32 before.readPendingOperationCount 1) :
      QueueStep codec env before after (.execute executor operation)
  | cancel {signers : List Address} {operation : Operation}
      {slot : ScheduledOp} (queued : Queued codec before operation slot)
      (slots : after.scheduledOperation =
        Function.update before.scheduledOperation (codec.hash operation)
          none)
      (counter : after.readPendingOperationCount =
        saturatingSub32 before.readPendingOperationCount 1) :
      QueueStep codec env before after (.cancel signers operation)
  | cancelAll {signers : List Address} {operations : List Operation}
      {count : Nat}
      (slots : after.scheduledOperation =
        eraseIf (fun opHash slot => operations.any fun operation =>
          codec.holds operation opHash slot) before.scheduledOperation)
      (sized : size after.scheduledOperation + count =
        size before.scheduledOperation)
      (counter : after.readPendingOperationCount.toNat =
        before.readPendingOperationCount.toNat - count) :
      QueueStep codec env before after (.cancelAll signers operations)
  | other {call : Call} (untouched : call.touchesQueue = false)
      (slots : after.scheduledOperation = before.scheduledOperation)
      (counter : after.readPendingOperationCount =
        before.readPendingOperationCount) :
      QueueStep codec env before after call

theorem Applied.queue {env : Env} {state after : State} {actor : Address}
    {operation : Operation}
    (applied : Applied env state actor operation after) :
    after.scheduledOperation = state.scheduledOperation ∧
      after.pendingOperationCount = state.pendingOperationCount := by
  cases applied <;> exact ⟨rfl, rfl⟩

theorem Call.touchesQueue_of_administers {call : Call}
    {signers : List Address} {operation : Operation}
    (direct : call.administers = some (signers, operation)) :
    call.touchesQueue = false := by
  cases call <;> first | rfl | cases direct

theorem Call.touchesQueue_of_isQuery {call : Call}
    (reads : call.isQuery = true) : call.touchesQueue = false := by
  cases call <;> first | rfl | cases reads

theorem Effect.queueStep {codec : Codec} {env : Env} {state after : State}
    {call : Call} (effect : Effect codec env state call after) :
    QueueStep codec env state after call := by
  cases effect with
  | schedule quorum unpaused longEnough shortEnough bounded small free
      deadline =>
      exact .schedule quorum longEnough shortEnough bounded small free
        deadline rfl rfl
  | execute queued unpaused matured unvetoed applied =>
      obtain ⟨slots, counter⟩ := applied.queue
      refine .execute queued matured unvetoed ?_ ?_
      · rw [State.soft_scheduledOperation, slots]
        rfl
      · simp only [State.readPendingOperationCount,
          State.soft_pendingOperationCount, counter]
        rfl
  | cancel quorum unpaused queued => exact .cancel queued rfl rfl
  | cancelAll quorum unpaused bounded drained =>
      exact .cancelAll drained.slots drained.sized drained.counter
  | administer direct quorum unpaused agreed prepared applied =>
      subst prepared
      obtain ⟨slots, counter⟩ := applied.queue
      refine .other (Call.touchesQueue_of_administers direct) slots ?_
      simp only [State.readPendingOperationCount, counter]
      rfl
  | prunePayments quorum bounded pruned counted =>
      have table := pruned.table
      subst table
      exact .other rfl rfl rfl
  | query reads refreshed =>
      exact .other (Call.touchesQueue_of_isQuery reads) rfl rfl
  | _ => exact .other rfl rfl rfl

/-! The counter and the slots. -/

/-- The counter of pending operations is the number of slots. -/
def QueueCounted (state : State) : Prop :=
  state.readPendingOperationCount.toNat = size state.scheduledOperation

theorem QueueStep.counted {codec : Codec} {env : Env}
    {before after : State} {call : Call}
    (stepped : QueueStep codec env before after call)
    (few : size after.scheduledOperation < 2 ^ 32)
    (counted : QueueCounted before) : QueueCounted after := by
  unfold QueueCounted at counted ⊢
  cases stepped with
  | @schedule _ operation _ executeAt _ _ _ _ _ free _ slots counter =>
      have grown := size_insert
        (⟨codec.toXdr operation, executeAt⟩ : ScheduledOp) free
      rw [slots] at few
      rw [counter, slots, grown, toNat_saturatingAdd32]
      · rw [counted]
        rfl
      · rw [grown] at few
        rw [counted]
        exact few
  | execute queued _ _ slots counter =>
      have shrunk := queued.size_erased
      rw [counter, slots, toNat_saturatingSub32, counted, ← shrunk]
      rfl
  | cancel queued slots counter =>
      have shrunk := queued.size_erased
      rw [counter, slots, toNat_saturatingSub32, counted, ← shrunk]
      rfl
  | cancelAll slots sized counter => omega
  | other _ slots counter => rw [counter, slots, counted]

theorem stateBefore_counted {codec : Codec} {inputs : List Input}
    (few : ∀ index,
      size (stateBefore codec inputs index).scheduledOperation < 2 ^ 32)
    (index : Nat) : QueueCounted (stateBefore codec inputs index) := by
  induction index with
  | zero =>
      rw [stateBefore, stateAt_zero]
      exact size_empty.symm
  | succ index induction =>
      rcases @stateAt_succ_eq_or_succeeds _ _ _ _ (step codec) State.initial
        inputs index with unchanged | ⟨input, reply, succeeded⟩
      · rw [stateBefore, unchanged]
        exact induction
      · exact (invoke_effect succeeded.2).queueStep.counted (few (index + 1))
          induction

/-! Where a slot comes from. -/

/-- A committed `schedule` put the slot there, within its own limits. -/
structure Scheduling (codec : Codec) (env : Env) (before : State)
    (signers : List Address) (operation : Operation) (opHash : BytesN 32)
    (slot : ScheduledOp) : Prop where
  quorum : before.authority.Quorum env.toLedger signers
  indexed : codec.hash operation = opHash
  encoded : slot.operationXdr = codec.toXdr operation
  bounded : operation.WithinBounds
  small : slot.operationXdr.length ≤ 4096
  notEarlier : env.timestamp.toNat + 7 * 24 * 60 * 60 ≤ slot.executeAt.toNat
  notLater : slot.executeAt.toNat ≤ env.timestamp.toNat + 30 * 24 * 60 * 60

theorem QueueStep.begins {codec : Codec} {env : Env}
    {before after : State} {call : Call}
    (stepped : QueueStep codec env before after call)
    {opHash : BytesN 32} {slot : ScheduledOp}
    (fresh : before.scheduledOperation opHash ≠ some slot)
    (stored : after.scheduledOperation opHash = some slot) :
    ∃ signers operation executeIn,
      call = .schedule signers operation executeIn ∧
      Scheduling codec env before signers operation opHash slot := by
  cases stepped with
  | @schedule signers operation executeIn executeAt quorum longEnough
      shortEnough bounded small free deadline slots counter =>
      rw [slots, Function.update_apply] at stored
      split at stored
      · rename_i same
        cases stored
        have lower := UInt64.le_iff_toNat_le.mp longEnough
        have upper := UInt64.le_iff_toNat_le.mp shortEnough
        have least : minTimelockDelaySeconds.toNat = 7 * 24 * 60 * 60 := rfl
        have most : maxTimelockDelaySeconds.toNat = 30 * 24 * 60 * 60 := rfl
        exact ⟨signers, operation, executeIn, rfl, quorum, same.symm, rfl,
          bounded, small, by simp only; omega, by simp only; omega⟩
      · exact absurd stored fresh
  | execute _ _ _ slots _ =>
      rw [slots] at stored
      exact absurd (update_none_eq_some stored) fresh
  | cancel _ slots _ =>
      rw [slots] at stored
      exact absurd (update_none_eq_some stored) fresh
  | cancelAll slots _ _ =>
      rw [slots, eraseIf_eq_some] at stored
      exact absurd stored.1 fresh
  | other _ slots _ =>
      rw [slots] at stored
      exact absurd stored fresh

theorem slot_scheduled {codec : Codec} {inputs : List Input} {index : Nat}
    {opHash : BytesN 32} {slot : ScheduledOp}
    (stored : (stateBefore codec inputs index).scheduledOperation opHash =
      some slot) :
    ∃ scheduling env signers operation executeIn, scheduling < index ∧
      Commits codec inputs scheduling env
        (.schedule signers operation executeIn) ∧
      Scheduling codec env (stateBefore codec inputs scheduling) signers
        operation opHash slot := by
  obtain ⟨scheduling, ⟨env, call⟩, reply, earlier, succeeded, fresh, since⟩ :=
    exists_onset (fun state : State =>
      state.scheduledOperation opHash = some slot)
      (by simp [State.initial]) stored
  obtain ⟨signers, operation, executeIn, rfl, scheduled⟩ :=
    (invoke_effect succeeded.2).queueStep.begins fresh
      (since (scheduling + 1) (by omega) (by omega))
  exact ⟨scheduling, env, signers, operation, executeIn, earlier,
    ⟨reply, succeeded⟩, scheduled⟩

/-! The representation invariant. -/

/-- The queue just before the call at `index`: the counter is the number of
slots, every slot is one that a `schedule` wrote, and no sum or difference that
maintains the counter saturates. -/
structure QueueFaithful (codec : Codec) (inputs : List Input)
    (index : Nat) : Prop where
  counted :
    (stateBefore codec inputs index).readPendingOperationCount.toNat =
      size (stateBefore codec inputs index).scheduledOperation
  slots : ∀ opHash slot,
    (stateBefore codec inputs index).scheduledOperation opHash =
        some slot →
      codec.sha256 slot.operationXdr = opHash ∧
      ∃ scheduling env signers operation executeIn, scheduling < index ∧
        Commits codec inputs scheduling env
          (.schedule signers operation executeIn) ∧
        Scheduling codec env (stateBefore codec inputs scheduling) signers
          operation opHash slot
  incremented : ∀ env signers operation executeIn,
    Commits codec inputs index env
        (.schedule signers operation executeIn) →
      (saturatingAdd32
          (stateBefore codec inputs index).readPendingOperationCount
          1).toNat =
        (stateBefore codec inputs index).readPendingOperationCount.toNat + 1
  decremented : ∀ operation slot,
    Queued codec (stateBefore codec inputs index) operation slot →
      (saturatingSub32
          (stateBefore codec inputs index).readPendingOperationCount
          1).toNat + 1 =
        (stateBefore codec inputs index).readPendingOperationCount.toNat
  drained : ∀ operations cancelled after,
    cancelEach codec operations 0 (stateBefore codec inputs index) =
        .ok (cancelled, after) →
      after.readPendingOperationCount.toNat + cancelled =
        (stateBefore codec inputs index).readPendingOperationCount.toNat

theorem QueueCounted.decremented {codec : Codec} {state : State}
    (counted : QueueCounted state) {operation : Operation}
    {slot : ScheduledOp} (queued : Queued codec state operation slot) :
    (saturatingSub32 state.readPendingOperationCount 1).toNat + 1 =
      state.readPendingOperationCount.toNat := by
  have erased := queued.size_erased
  have exact : state.readPendingOperationCount.toNat =
    size state.scheduledOperation := counted
  have one : (1 : UInt32).toNat = 1 := rfl
  rw [toNat_saturatingSub32, one]
  omega

theorem QueueCounted.drained {codec : Codec} {operations : List Operation}
    {cancelled : Nat} {before after : State}
    (counted : QueueCounted before)
    (looped : cancelEach codec operations 0 before =
      .ok (cancelled, after)) :
    after.readPendingOperationCount.toNat + cancelled =
      before.readPendingOperationCount.toNat := by
  obtain ⟨count, rfl, _, drained⟩ := cancelEach_ok looped
  have exact : before.readPendingOperationCount.toNat =
    size before.scheduledOperation := counted
  have sized := drained.sized
  have counter := drained.counter
  omega

/-- While fewer than `2 ^ 32` operations are pending at a time, the queue of
every state of every run is faithful, whatever the hash does. -/
theorem queue_representation (codec : Codec) (inputs : List Input)
    (few : ∀ index,
      size (stateBefore codec inputs index).scheduledOperation < 2 ^ 32)
    (index : Nat) : QueueFaithful codec inputs index := by
  have counted := stateBefore_counted few index
  refine ⟨counted, ?_, ?_, fun _ _ => counted.decremented,
    fun _ _ _ => counted.drained⟩
  · intro opHash slot stored
    obtain ⟨scheduling, env, signers, operation, executeIn, earlier,
      committed, scheduled⟩ := slot_scheduled stored
    refine ⟨?_, scheduling, env, signers, operation, executeIn, earlier,
      committed, scheduled⟩
    rw [scheduled.encoded]
    exact scheduled.indexed
  · intro env signers operation executeIn given
    obtain ⟨reply, succeeded⟩ := given
    have later : _ = size _ := stateBefore_counted few (index + 1)
    have here : _ = size _ := counted
    cases (invoke_effect succeeded.2).queueStep with
    | @schedule _ _ _ executeAt _ _ _ _ _ free _ slots counter =>
        have grown := size_insert
          (⟨codec.toXdr operation, executeAt⟩ : ScheduledOp) free
        rw [← slots] at grown
        rw [← counter, later, grown, here]
    | other untouched => cases untouched

theorem QueueStep.size_le {codec : Codec} {env : Env}
    {before after : State} {call : Call}
    (stepped : QueueStep codec env before after call) :
    size after.scheduledOperation ≤ size before.scheduledOperation + 1 := by
  cases stepped with
  | schedule _ _ _ _ _ free _ slots _ => rw [slots, size_insert _ free]
  | execute queued _ _ slots _ =>
      have shrunk := queued.size_erased
      rw [slots]
      omega
  | cancel queued slots _ =>
      have shrunk := queued.size_erased
      rw [slots]
      omega
  | cancelAll _ sized _ => omega
  | other _ slots _ => rw [slots]; omega

/-- A run never has more pending operations than it has calls. -/
theorem size_stateBefore_le {codec : Codec} {inputs : List Input}
    {index : Nat} :
    size (stateBefore codec inputs index).scheduledOperation ≤
      min index inputs.length := by
  unfold stateBefore
  induction index with
  | zero =>
      rw [stateAt_zero]
      exact Nat.le_of_eq size_empty
  | succ index induction =>
      rcases @stateAt_succ_eq_or_succeeds _ _ _ _ (step codec) State.initial
        inputs index with unchanged | ⟨input, reply, succeeded⟩
      · rw [unchanged]
        omega
      · have grown := (invoke_effect succeeded.2).queueStep.size_le
        have inside : index < inputs.length :=
          (List.getElem?_eq_some_iff.mp succeeded.1).1
        omega

/-- One operation, scheduled and executed a week later. -/
def sampleTimelockRun : List Input :=
  [⟨.granting 0, .init (.account 9) [.account 1] 1 (.contract 5)
      (.account 2)⟩,
    ⟨.granting 100, .schedule [.account 1] sampleOperation 604800⟩,
    ⟨.granting 604900, .execute (.account 3) sampleOperation⟩]

theorem queue_representation_sample :
    (∀ index, size (stateBefore sampleCodec sampleTimelockRun
      index).scheduledOperation < 2 ^ 32) ∧
    (stateBefore sampleCodec sampleTimelockRun
      2).readPendingOperationCount = 1 ∧
    QueueFaithful sampleCodec sampleTimelockRun 2 := by
  have few : ∀ index, size (stateBefore sampleCodec sampleTimelockRun
      index).scheduledOperation < 2 ^ 32 := by
    intro index
    have bound := @size_stateBefore_le sampleCodec sampleTimelockRun index
    have short : sampleTimelockRun.length = 3 := rfl
    omega
  exact ⟨few, by decide, queue_representation sampleCodec sampleTimelockRun
    few 2⟩

end BettaPay.Settlement
