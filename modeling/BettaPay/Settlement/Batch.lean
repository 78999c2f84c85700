import BettaPay.Settlement.Applied
import BettaPay.Settlement.Payments

namespace BettaPay.Settlement

open BettaPay.Host
open BettaPay.Host.Tx (readState writeState)
open BettaPay.Common

/-! The timelock queue as a table of slots. -/

/-- The slot holds exactly this operation. -/
def Codec.holds (codec : Codec) (operation : Operation) (opHash : BytesN 32)
    (slot : ScheduledOp) : Bool :=
  codec.hash operation = opHash ∧
    slot.operationXdr = codec.toXdr operation

@[simp] theorem Codec.holds_eq_true {codec : Codec} {operation : Operation}
    {opHash : BytesN 32} {slot : ScheduledOp} :
    codec.holds operation opHash slot = true ↔
      codec.hash operation = opHash ∧
        slot.operationXdr = codec.toXdr operation := by
  simp [Codec.holds]

/-- The operation is queued in `slot`. -/
def Queued (codec : Codec) (state : State) (operation : Operation)
    (slot : ScheduledOp) : Prop :=
  state.scheduledOperation (codec.hash operation) = some slot ∧
    slot.operationXdr = codec.toXdr operation

theorem Queued.size_erased {codec : Codec} {state : State}
    {operation : Operation} {slot : ScheduledOp}
    (queued : Queued codec state operation slot) :
    size (Function.update state.scheduledOperation (codec.hash operation)
        none) + 1 =
      size state.scheduledOperation :=
  size_erase (by rw [queued.1]; rfl)

/-- The state with one slot released and the counter lowered. -/
@[simps -fullyApplied] def State.released (state : State)
    (opHash : BytesN 32) : State :=
  { state with
    scheduledOperation :=
      Function.update state.scheduledOperation opHash none
    pendingOperationCount :=
      some (saturatingSub32 state.readPendingOperationCount 1) }

@[simp] theorem consumeScheduledOperation_ok {opHash : BytesN 32}
    {before after : State} {result : Unit} :
    consumeScheduledOperation opHash before = .ok (result, after) ↔
      before.released opHash = after := by
  simp [consumeScheduledOperation, State.released,
    State.readPendingOperationCount]

theorem findScheduled_ok {codec : Codec} {operation : Operation}
    {before after : State} {slot : ScheduledOp}
    (succeeded : findScheduled codec operation before = .ok (slot, after)) :
    Queued codec before operation slot ∧ before = after := by
  simp only [findScheduled, Tx.readState_bind, Tx.bind_ok, orReject_ok,
    rejectIf_ok, Decidable.not_not, Tx.pure_ok] at succeeded
  obtain ⟨found, _, ⟨stored, rfl⟩, _, _, ⟨same, rfl⟩, rfl, rfl⟩ := succeeded
  exact ⟨⟨stored, same⟩, rfl⟩

theorem validateScheduledExecution_ok {codec : Codec} {env : Env}
    {operation : Operation} {before after : State} {opHash : BytesN 32}
    (succeeded : validateScheduledExecution codec env operation before =
      .ok (opHash, after)) :
    ∃ slot, Queued codec before operation slot ∧
      before.isPaused = false ∧ slot.executeAt ≤ env.timestamp ∧
      (before.pendingRecovery = none ∨ operation = .cancelRecovery) ∧
      opHash = codec.hash operation ∧ after = before := by
  simp only [validateScheduledExecution, Tx.readState_bind, Tx.bind_ok,
    assertNotPaused_ok, rejectIf_ok, Tx.pure_ok] at succeeded
  obtain ⟨_, _, ⟨unpaused, rfl⟩, slot, _, found, _, _, ⟨matured, rfl⟩, _, _,
    ⟨unvetoed, rfl⟩, rfl, rfl⟩ := succeeded
  obtain ⟨queued, rfl⟩ := findScheduled_ok found
  refine ⟨slot, queued, unpaused, UInt64.not_lt.mp matured, ?_, rfl, rfl⟩
  by_cases pending : before.pendingRecovery = none
  · exact .inl pending
  · right
    by_contra other
    exact unvetoed ⟨Option.isSome_iff_ne_none.mpr pending, other⟩

/-- A batch cancellation: the slots of the listed operations are gone, the
counter is lowered once for each of them. -/
structure Drained (codec : Codec) (operations : List Operation)
    (count : Nat) (before after : State) : Prop where
  unchanged : ∃ slots counter, after = { before with
    scheduledOperation := slots, pendingOperationCount := counter }
  slots : after.scheduledOperation =
    eraseIf (fun opHash slot => operations.any fun operation =>
      codec.holds operation opHash slot) before.scheduledOperation
  sized : size after.scheduledOperation + count =
    size before.scheduledOperation
  counter : after.readPendingOperationCount.toNat =
    before.readPendingOperationCount.toNat - count

theorem Drained.empty (codec : Codec) (state : State) :
    Drained codec [] 0 state state where
  unchanged := ⟨_, _, rfl⟩
  slots := (eraseIf_never _).symm
  sized := rfl
  counter := rfl

theorem Drained.hit {codec : Codec} {operation : Operation}
    {rest : List Operation} {count : Nat} {before after : State}
    {slot : ScheduledOp} (queued : Queued codec before operation slot)
    (drained : Drained codec rest count
      (before.released (codec.hash operation)) after) :
    Drained codec (operation :: rest) (count + 1) before after where
  unchanged := by
    obtain ⟨slots, counter, same⟩ := drained.unchanged
    exact ⟨slots, counter, same⟩
  slots := by
    rw [drained.slots]
    funext opHash
    apply Option.ext
    intro other
    simp only [eraseIf_eq_some, State.released_scheduledOperation,
      Function.update_apply, List.any_cons, Bool.or_eq_false_iff]
    by_cases same : opHash = codec.hash operation
    · subst same
      simp only [if_pos, reduceCtorEq, false_and, false_iff, not_and]
      intro stored missed
      have agree : slot = other :=
        Option.some.inj (queued.1.symm.trans stored)
      subst agree
      simp [Codec.holds, queued.2] at missed
    · have missed : codec.holds operation opHash other = false := by
        simp [Codec.holds, Ne.symm same]
      simp [same, missed]
  sized := by
    have erased := queued.size_erased
    have tail : size after.scheduledOperation + count =
        size (Function.update before.scheduledOperation
          (codec.hash operation) none) := drained.sized
    omega
  counter := by
    have tail := drained.counter
    simp only [State.readPendingOperationCount, State.released,
      Option.getD_some, toNat_saturatingSub32] at tail
    rw [State.readPendingOperationCount, tail,
      State.readPendingOperationCount, Nat.sub_sub, Nat.add_comm count 1]
    rfl

theorem Drained.miss {codec : Codec} {operation : Operation}
    {rest : List Operation} {count : Nat} {before after : State}
    (unqueued : ∀ slot, ¬ Queued codec before operation slot)
    (drained : Drained codec rest count before after) :
    Drained codec (operation :: rest) count before after where
  unchanged := drained.unchanged
  slots := by
    rw [drained.slots]
    funext opHash
    apply Option.ext
    intro other
    simp only [eraseIf_eq_some, List.any_cons, Bool.or_eq_false_iff,
      and_congr_right_iff]
    intro stored
    have missed : codec.holds operation opHash other = false := by
      rw [← Bool.not_eq_true, Codec.holds_eq_true]
      intro given
      obtain ⟨rfl, same⟩ := given
      exact unqueued other ⟨stored, same⟩
    simp [missed]
  sized := drained.sized
  counter := drained.counter

theorem cancelEach_ok {codec : Codec} {operations : List Operation}
    {start total : Nat} {before after : State}
    (succeeded : cancelEach codec operations start before =
      .ok (total, after)) :
    ∃ count, total = start + count ∧ count ≤ operations.length ∧
      Drained codec operations count before after := by
  induction operations generalizing start before with
  | nil =>
      simp only [cancelEach, Tx.pure_ok] at succeeded
      obtain ⟨rfl, rfl⟩ := succeeded
      exact ⟨0, rfl, Nat.le_refl _, Drained.empty codec before⟩
  | cons operation rest induction =>
      simp only [cancelEach, Tx.readState_bind, Tx.ite_ok, Tx.bind_ok,
        consumeScheduledOperation_ok, Option.any_eq_true,
        decide_eq_true_eq] at succeeded
      rcases succeeded with ⟨⟨slot, stored, same⟩, _, _, rfl, later⟩ |
        ⟨unqueued, later⟩
      · obtain ⟨count, total, bound, drained⟩ := induction later
        refine ⟨count + 1, by omega, ?_, drained.hit ⟨stored, same⟩⟩
        simpa using bound
      · obtain ⟨count, total, bound, drained⟩ := induction later
        refine ⟨count, total, Nat.le_succ_of_le bound, drained.miss ?_⟩
        intro slot given
        obtain ⟨stored, same⟩ := given
        exact unqueued ⟨slot, stored, same⟩

/-! Batch pruning. -/

/-- The listed references of one merchant are gone; nothing else is. -/
structure Pruned (merchant : Address) (refs : List (BytesN 32))
    (count : Nat) (before after : State) : Prop where
  table : after = { before with
    payment := Function.update before.payment merchant
      (eraseIf (fun reference _ => refs.contains reference)
        (before.payment merchant)) }
  sized : size (after.payment merchant) + count =
    size (before.payment merchant)

theorem Pruned.empty (merchant : Address) (state : State) :
    Pruned merchant [] 0 state state where
  table := by
    have kept : eraseIf (fun reference _ => [].contains reference)
        (state.payment merchant) = state.payment merchant :=
      eraseIf_never _
    rw [kept, Function.update_eq_self]
  sized := rfl

theorem eraseIf_contains_cons {table : BytesN 32 → Option PaymentRecord}
    {reference : BytesN 32} {rest : List (BytesN 32)} :
    eraseIf (fun other _ => rest.contains other)
        (Function.update table reference none) =
      eraseIf (fun other _ => (reference :: rest).contains other) table := by
  funext other
  apply Option.ext
  intro record
  simp only [eraseIf_eq_some, Function.update_apply, List.contains_cons,
    Bool.or_eq_false_iff]
  by_cases same : other = reference <;> simp [same]

theorem pruneEach_ok {merchant : Address} {refs : List (BytesN 32)}
    {start total : Nat} {before after : State}
    (succeeded : pruneEach merchant refs start before =
      .ok (total, after)) :
    ∃ count, total = start + count ∧ count ≤ refs.length ∧
      Pruned merchant refs count before after := by
  induction refs generalizing start before with
  | nil =>
      simp only [pruneEach, Tx.pure_ok] at succeeded
      obtain ⟨rfl, rfl⟩ := succeeded
      exact ⟨0, rfl, Nat.le_refl _, Pruned.empty merchant before⟩
  | cons reference rest induction =>
      simp only [pruneEach, removePayment, Tx.readState_bind, Tx.ite_ok,
        Tx.bind_ok, Tx.writeState_ok] at succeeded
      rcases succeeded with ⟨stored, _, _, rfl, later⟩ | ⟨absent, later⟩
      · obtain ⟨count, total, bound, pruned⟩ := induction later
        refine ⟨count + 1, by omega, by simpa using bound, ?_, ?_⟩
        · rw [pruned.table]
          simp only [Function.update_self, Function.update_idem]
          rw [eraseIf_contains_cons]
        · have erased := size_erase stored
          have tail := pruned.sized
          simp only [Function.update_self] at tail
          omega
      · obtain ⟨count, total, bound, pruned⟩ := induction later
        refine ⟨count, total, Nat.le_succ_of_le bound, ?_, pruned.sized⟩
        rw [pruned.table, ← eraseIf_contains_cons,
          erase_absent (by simpa using absent)]

end BettaPay.Settlement
