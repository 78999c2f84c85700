import BettaPay.Settlement.Control
import BettaPay.Settlement.Queue

namespace BettaPay.Settlement

open BettaPay.Host
open BettaPay.Common

/-! Batch cancellation against cancelling one operation at a time. -/

variable {codec : Codec}

/-- Exactly this operation is queued. -/
def State.pending (state : State) (codec : Codec) (operation : Operation) :
    Bool :=
  (state.scheduledOperation (codec.hash operation)).any fun scheduled =>
    scheduled.operationXdr = codec.toXdr operation

theorem pending_iff {state : State} {operation : Operation} :
    state.pending codec operation = true ↔
      ∃ slot, Queued codec state operation slot := by
  simp only [State.pending, Queued, Option.any_eq_true, decide_eq_true_eq]

theorem cancelEach_cons {operation : Operation} {rest : List Operation}
    {start : Nat} {state : State} :
    cancelEach codec (operation :: rest) start state =
      if state.pending codec operation then
        cancelEach codec rest (start + 1)
          (state.released (codec.hash operation))
      else cancelEach codec rest start state := by
  have consumed : consumeScheduledOperation (codec.hash operation) state =
      .ok ((), state.released (codec.hash operation)) :=
    consumeScheduledOperation_ok.mpr rfl
  simp only [cancelEach, Tx.readState_bind]
  cases pending : state.pending codec operation with
  | true =>
      rw [if_pos (by exact pending), if_pos rfl]
      exact Tx.bind_of_ok consumed
  | false =>
      rw [if_neg (by rw [Bool.not_eq_true]; exact pending),
        if_neg Bool.false_ne_true]

/-- The queue's part of a state. -/
structure SameQueue (left right : State) : Prop where
  slots : left.scheduledOperation = right.scheduledOperation
  counter : left.pendingOperationCount = right.pendingOperationCount

theorem SameQueue.pending {left right : State} (same : SameQueue left right)
    (operation : Operation) :
    left.pending codec operation = right.pending codec operation := by
  unfold State.pending
  rw [same.slots]

theorem SameQueue.released {left right : State}
    (same : SameQueue left right) (opHash : BytesN 32) :
    SameQueue (left.released opHash) (right.released opHash) where
  slots := by
    rw [State.released_scheduledOperation,
      State.released_scheduledOperation, same.slots]
  counter := by
    simp only [State.released_pendingOperationCount,
      State.readPendingOperationCount, same.counter]

/-! One operation at a time, each in a call of its own. -/

/-- Carry on after one kind of failure, with nothing changed. -/
def ignoring (failure : Failure SettlementError) (action : Contract Unit) :
    Contract Unit := fun state =>
  match action state with
  | .ok outcome => .ok outcome
  | .error failed =>
      if failed = failure then .ok ((), state) else .error failed

def cancelSingly (codec : Codec) (signers : List Address) :
    List (Env × Operation) → Contract Unit
  | [] => pure ()
  | call :: rest => do
      ignoring (.error .operationNotScheduled)
        (cancel codec call.1 signers call.2)
      cancelSingly codec signers rest

/-- The checks in front of both cancellations. -/
theorem admitted_bind {α : Type} {env : Env} {signers : List Address}
    {before : State} {caller : Address} {next : Address → Contract α}
    (head : signers.head? = some caller)
    (quorum : before.authority.Quorum env.toLedger signers)
    (unpaused : before.isPaused = false) :
    (do
      verifyThresholdAuth env signers
      assertNotPaused
      let caller ← unwrapFirst signers
      next caller) before = next caller before := by
  have signed : verifyThresholdAuth env signers before = .ok ((), before) :=
    verifyThresholdAuth_ok.mpr ⟨quorum, rfl⟩
  have running : assertNotPaused before = .ok ((), before) :=
    assertNotPaused_ok.mpr ⟨unpaused, rfl⟩
  have first : unwrapFirst signers before =
      (.ok (caller, before) : Except (Failure SettlementError) _) :=
    unwrapFirst_ok.mpr ⟨head, rfl⟩
  rw [Tx.bind_of_ok signed, Tx.bind_of_ok running, Tx.bind_of_ok first]

/-- An authorized cancellation comes down to the queue. -/
theorem cancel_authorized {env : Env} {signers : List Address}
    {operation : Operation} {before : State} {caller : Address}
    (head : signers.head? = some caller)
    (quorum : before.authority.Quorum env.toLedger signers)
    (unpaused : before.isPaused = false) :
    cancel codec env signers operation before =
      (do
        let _ ← findScheduled codec operation
        consumeScheduledOperation (codec.hash operation)
        emit (.opCancelled (codec.hash operation) caller)) before := by
  unfold cancel
  rw [admitted_bind head quorum unpaused]

theorem ignoring_cancel {env : Env} {signers : List Address}
    {operation : Operation} {before : State} {caller : Address}
    (head : signers.head? = some caller)
    (quorum : before.authority.Quorum env.toLedger signers)
    (unpaused : before.isPaused = false) :
    ∃ events, ignoring (.error .operationNotScheduled)
        (cancel codec env signers operation) before =
      .ok ((), State.soft
        (if before.pending codec operation then
          before.released (codec.hash operation) else before)
        before.cachedGovRule before.liveUntil events) := by
  unfold ignoring
  rw [cancel_authorized head quorum unpaused]
  cases pending : before.pending codec operation with
  | true =>
      obtain ⟨slot, stored, encoded⟩ := pending_iff.mp pending
      have found : findScheduled codec operation before =
          .ok (slot, before) := by
        simp [findScheduled, stored, encoded]
      have consumed : consumeScheduledOperation (codec.hash operation)
          before = .ok ((), before.released (codec.hash operation)) :=
        consumeScheduledOperation_ok.mpr rfl
      refine ⟨[.opCancelled (codec.hash operation) caller], ?_⟩
      rw [Tx.bind_of_ok found, Tx.bind_of_ok consumed]
      rfl
  | false =>
      have missed : findScheduled codec operation before =
          .error (.error .operationNotScheduled) := by
        simp only [findScheduled, Tx.readState_bind, Tx.bind_error,
          orReject_error, orReject_ok, rejectIf_error, Tx.pure_error]
        cases stored : before.scheduledOperation (codec.hash operation) with
        | none => exact .inl ⟨rfl, trivial⟩
        | some slot =>
            right
            refine ⟨slot, before, ⟨rfl, rfl⟩, .inl ⟨?_, trivial⟩⟩
            intro encoded
            have queued := pending_iff.mpr ⟨slot, stored, encoded⟩
            rw [pending] at queued
            cases queued
      have failed : ((do
          let _ ← findScheduled codec operation
          consumeScheduledOperation (codec.hash operation)
          emit (.opCancelled (codec.hash operation) caller)) :
          Contract Unit) before =
          .error (.error .operationNotScheduled) :=
        Tx.bind_error.mpr (.inl missed)
      refine ⟨[], ?_⟩
      rw [failed]
      exact congrArg (fun after => Except.ok ((), after))
        (State.soft_self before).symm

/-- The loop of the batch and the single calls go through the same queues. -/
theorem cancelSingly_follows {signers : List Address} {caller : Address}
    (head : signers.head? = some caller) {calls : List (Env × Operation)}
    {start : Nat} {batch single : State} (same : SameQueue batch single)
    (quorum : ∀ call ∈ calls,
      single.authority.Quorum call.1.toLedger signers)
    (unpaused : single.isPaused = false) :
    ∃ total middle final,
      cancelEach codec (calls.map Prod.snd) start batch =
        .ok (total, middle) ∧
      cancelSingly codec signers calls single = .ok ((), final) ∧
      SameQueue middle final := by
  induction calls generalizing start batch single with
  | nil => exact ⟨start, batch, single, rfl, rfl, same⟩
  | cons call rest induction =>
      obtain ⟨env, operation⟩ := call
      have signed := quorum (env, operation) (List.mem_cons_self ..)
      have later : ∀ call ∈ rest,
          single.authority.Quorum call.1.toLedger signers :=
        fun call listed => quorum call (List.mem_cons_of_mem _ listed)
      obtain ⟨events, cancelled⟩ :=
        @ignoring_cancel codec env signers operation single caller head
          signed unpaused
      simp only [cancelSingly, List.map_cons, cancelEach_cons,
        same.pending]
      rw [Tx.bind_of_ok cancelled]
      cases single.pending codec operation with
      | true =>
          rw [if_pos rfl, if_pos rfl]
          have next := same.released (codec.hash operation)
          exact induction ⟨next.slots, next.counter⟩ later unpaused
      | false =>
          rw [if_neg Bool.false_ne_true, if_neg Bool.false_ne_true]
          exact induction ⟨same.slots, same.counter⟩ later unpaused

/-! The batch. -/

theorem cancelAll_ran {env : Env} {signers : List Address}
    {operations : List Operation} {before middle : State}
    {caller : Address} {total : Nat}
    (head : signers.head? = some caller)
    (quorum : before.authority.Quorum env.toLedger signers)
    (unpaused : before.isPaused = false)
    (few : operations.length ≤ maxCancelAllBatch.toNat)
    (looped : cancelEach codec operations 0 before = .ok (total, middle)) :
    cancelAll codec env signers operations before =
      .ok (UInt32.ofNat total, { middle with
        events := middle.events ++
          [.opCancelledBatch caller (UInt32.ofNat total)] }) := by
  unfold cancelAll
  rw [admitted_bind head quorum unpaused,
    rejectIf_bind (Nat.not_lt.mpr few), Tx.bind_of_ok looped]
  rfl

/-- How many of the listed operations are queued, each counted once. -/
def State.pendingAmong (state : State) (codec : Codec)
    (operations : List Operation) : Nat :=
  (operations.dedup.filter (state.pending codec)).length

/-- Different operations are queued under different hashes, since a slot
holds one serialization. -/
theorem pending_injOn (injective : Function.Injective codec.toXdr)
    (state : State) :
    Set.InjOn codec.hash {operation | state.pending codec operation} := by
  intro operation queued operation' queued' same
  obtain ⟨slot, stored, encoded⟩ := pending_iff.mp queued
  obtain ⟨slot', stored', encoded'⟩ := pending_iff.mp queued'
  rw [same, stored'] at stored
  cases stored
  exact injective (encoded.symm.trans encoded')

theorem Drained.counted {operations : List Operation} {count : Nat}
    {before after : State} (injective : Function.Injective codec.toXdr)
    (drained : Drained codec operations count before after) :
    count = before.pendingAmong codec operations := by
  have erased := size_eraseIf
    (fun opHash slot => operations.any fun operation =>
      codec.holds operation opHash slot) before.scheduledOperation
  have listed := ncard_listed operations (before.pending codec)
  have same : {opHash | (before.scheduledOperation opHash).any
      (fun slot => operations.any fun operation =>
        codec.holds operation opHash slot) = true} =
      codec.hash '' {operation | operation ∈ operations ∧
        before.pending codec operation = true} := by
    ext opHash
    simp only [Set.mem_ofPred_eq, Set.mem_image, Option.any_eq_true,
      List.any_eq_true, Codec.holds_eq_true, pending_iff]
    constructor
    · intro given
      obtain ⟨slot, stored, operation, member, rfl, encoded⟩ := given
      exact ⟨operation, ⟨member, slot, stored, encoded⟩, rfl⟩
    · intro given
      obtain ⟨operation, ⟨member, slot, stored, encoded⟩, rfl⟩ := given
      exact ⟨slot, stored, operation, member, rfl, encoded⟩
  have distinct : Set.InjOn codec.hash {operation |
      operation ∈ operations ∧ before.pending codec operation = true} :=
    (pending_injOn injective before).mono fun _ given => given.2
  have sized := drained.sized
  rw [drained.slots] at sized
  rw [same, distinct.ncard_image, listed] at erased
  unfold State.pendingAmong
  omega

theorem Drained.spared {operations : List Operation} {count : Nat}
    {before after : State} (injective : Function.Injective codec.toXdr)
    (drained : Drained codec operations count before after)
    {operation : Operation} (unlisted : operation ∉ operations)
    {slot : ScheduledOp} (queued : Queued codec before operation slot) :
    Queued codec after operation slot := by
  refine ⟨?_, queued.2⟩
  rw [drained.slots, eraseIf_eq_some]
  refine ⟨queued.1, ?_⟩
  rw [← Bool.not_eq_true, List.any_eq_true]
  intro given
  obtain ⟨other, member, held⟩ := given
  have encoded := (Codec.holds_eq_true.mp held).2
  rw [injective (encoded.symm.trans queued.2)] at member
  exact unlisted member

theorem Drained.absent {operations : List Operation} {count : Nat}
    {before after : State}
    (drained : Drained codec operations count before after)
    {operation : Operation} (listed : operation ∈ operations) :
    after.pending codec operation = false := by
  rw [← Bool.not_eq_true, pending_iff]
  intro given
  obtain ⟨slot, stored, encoded⟩ := given
  rw [drained.slots, eraseIf_eq_some, ← Bool.not_eq_true,
    List.any_eq_true] at stored
  exact stored.2 ⟨operation, listed,
    Codec.holds_eq_true.mpr ⟨rfl, encoded⟩⟩

theorem cancelEach_absent {operations : List Operation} {start : Nat}
    {state : State}
    (absent : ∀ operation ∈ operations,
      state.pending codec operation = false) :
    cancelEach codec operations start state = .ok (start, state) := by
  induction operations with
  | nil => rfl
  | cons operation rest induction =>
      rw [cancelEach_cons, absent operation (List.mem_cons_self ..),
        if_neg Bool.false_ne_true]
      apply induction
      intro other listed
      exact absent other (List.mem_cons_of_mem _ listed)

/-- What a batch cancellation amounts to. -/
structure CancelsAsSingles (codec : Codec) (state : State) (env : Env)
    (signers : List Address) (operations : List Operation)
    (cancelled : UInt32) (after : State) : Prop where
  ran : cancelAll codec env signers operations state =
    .ok (cancelled, after)
  /-- No single cancellation fails otherwise than for an operation that is
  not scheduled, and together they leave the same queue. -/
  iterated : ∀ calls : List (Env × Operation),
    calls.map Prod.snd = operations →
    (∀ call ∈ calls, state.authority.Quorum call.1.toLedger signers) →
    ∃ final, cancelSingly codec signers calls state = .ok ((), final) ∧
      final.scheduledOperation = after.scheduledOperation ∧
      final.pendingOperationCount = after.pendingOperationCount
  counted : cancelled.toNat = state.pendingAmong codec operations
  spared : ∀ operation, operation ∉ operations → ∀ slot,
    Queued codec state operation slot → Queued codec after operation slot
  repeated : ∀ env' signers',
    state.authority.Quorum env'.toLedger signers' →
    ∃ event, cancelAll codec env' signers' operations after =
      .ok (0, { after with events := after.events ++ [event] })

/-- In every reachable state that is not paused, an authorized cancellation
of at most 50 operations, repeated, unscheduled, colliding and in any order,
does what cancelling them one by one does. -/
theorem cancel_all_iterates (codec : Codec)
    (injective : Function.Injective codec.toXdr) (state : State)
    (reachable : Reachable codec state) (unpaused : state.isPaused = false)
    (env : Env) (signers : List Address)
    (quorum : state.authority.Quorum env.toLedger signers)
    (operations : List Operation) (few : operations.length ≤ 50) :
    ∃ cancelled after, CancelsAsSingles codec state env signers operations
      cancelled after := by
  obtain ⟨caller, head⟩ := reachable.sound.head_of_quorum quorum
  have follows : ∀ calls : List (Env × Operation),
      (∀ call ∈ calls,
        state.authority.Quorum call.1.toLedger signers) →
      ∃ total middle final,
        cancelEach codec (calls.map Prod.snd) 0 state =
          .ok (total, middle) ∧
        cancelSingly codec signers calls state = .ok ((), final) ∧
        SameQueue middle final :=
    fun calls signed =>
      cancelSingly_follows head ⟨rfl, rfl⟩ signed unpaused
  obtain ⟨total, middle, _, looped, _, _⟩ :=
    follows (operations.map fun operation => (env, operation)) (by
      intro call listed
      obtain ⟨operation, _, rfl⟩ := List.mem_map.mp listed
      exact quorum)
  rw [List.map_map, Function.comp_def, List.map_id'] at looped
  obtain ⟨count, rfl, bounded, drained⟩ := cancelEach_ok looped
  rw [Nat.zero_add] at looped
  have ran := cancelAll_ran head quorum unpaused few looped
  obtain ⟨slots, counter, shape⟩ := drained.unchanged
  refine ⟨_, _, ran, ?_, ?_, ?_, ?_⟩
  · intro calls listed signed
    obtain ⟨total', middle', final, looped', singly, same⟩ :=
      follows calls signed
    rw [listed, looped] at looped'
    cases looped'
    exact ⟨final, singly, same.slots.symm, same.counter.symm⟩
  · have fits : (UInt32.ofNat count).toNat = count :=
      toNat_ofNat_of_le
        (show count ≤ maxCancelAllBatch.toNat from bounded.trans few)
    rw [fits]
    exact drained.counted injective
  · intro operation unlisted slot queued
    exact drained.spared injective unlisted queued
  · intro env' signers' quorum'
    obtain ⟨caller', head'⟩ := reachable.sound.head_of_quorum quorum'
    refine ⟨.opCancelledBatch caller' 0, ?_⟩
    apply cancelAll_ran head' _ _ few (cancelEach_absent _)
    · rw [shape]
      exact quorum'
    · rw [shape]
      exact unpaused
    · intro operation listed
      exact drained.absent listed

/-- Of two listed operations one is queued, and is listed twice. -/
theorem cancel_all_iterates_sample :
    (run (step sampleCodec) State.initial
        (sampleTimelockRun.take 2)).pendingAmong sampleCodec
        [sampleOperation, .cancelRecovery, sampleOperation] = 1 ∧
      ∃ cancelled after, CancelsAsSingles sampleCodec
        (run (step sampleCodec) State.initial (sampleTimelockRun.take 2))
        (.granting 200) [.account 1]
        [sampleOperation, .cancelRecovery, sampleOperation] cancelled
        after :=
  ⟨by decide, cancel_all_iterates sampleCodec Operation.toXdr_injective _
    ⟨sampleTimelockRun.take 2, rfl⟩ (by decide) _ _
    (Authority.quorum_of_sole rfl rfl rfl) _ (by decide)⟩

end BettaPay.Settlement
