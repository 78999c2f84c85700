import BettaPay.Settlement.Timelock
import BettaPay.Settlement.Slots
import BettaPay.Host.Clock

namespace BettaPay.Settlement

open BettaPay.Host
open BettaPay.Host.Tx (readState writeState)
open BettaPay.Common

/-! How long a slot of the queue lives, and how long it has to. -/

section Kept

variable {codec : Codec} {env : Env} {before after : State}
  {opHash : BytesN 32}

/-- A schedule starts the lifetime of its slot, and extends it. -/
theorem schedule_lives {signers : List Address} {operation : Operation}
    {executeIn : UInt64} {result : Unit}
    (succeeded : schedule codec env signers operation executeIn before =
      .ok (result, after)) :
    after.liveUntil = Function.update
      (Function.update before.liveUntil
        (.scheduledOperation (codec.hash operation))
        (env.sequence.toNat + env.freshTtl.toNat))
      (.scheduledOperation (codec.hash operation))
      (env.extendTtl scheduledOpTtlThreshold scheduledOpTtlBump
        (env.sequence.toNat + env.freshTtl.toNat)) := by
  obtain ⟨_, _, _, _, rfl⟩ := schedule_ok succeeded
  rfl

/-- No call changes the lifetime of a slot that is taken. -/
theorem invoke_keeps_life {call : Call} {reply : Reply}
    (succeeded : invoke codec env call before = .ok (reply, after))
    (stored : (before.scheduledOperation opHash).isSome) :
    after.liveUntil (.scheduledOperation opHash) =
      before.liveUntil (.scheduledOperation opHash) := by
  cases unseen : call.seesQueue with
  | false =>
      have kept := Slotless.kept
        (fun _ => slotless_invoke unseen) succeeded
      exact congrFun (congrArg Slots.liveUntil kept) opHash
  | true =>
      cases call with
      | schedule signers operation executeIn =>
          have effect := invoke_effect succeeded
          obtain ⟨_, scheduled, _⟩ := replying_ok.mp succeeded
          have other : opHash ≠ codec.hash operation := by
            intro same
            subst same
            cases effect.queueStep with
            | schedule _ _ _ _ _ free =>
                rw [free] at stored
                cases stored
            | other untouched => cases untouched
          rw [schedule_lives scheduled, Function.update_of_ne (by simpa),
            Function.update_of_ne (by simpa)]
      | execute executor operation =>
          obtain ⟨_, executed, _⟩ := replying_ok.mp succeeded
          simp only [execute, Tx.bind_ok, consumeScheduledOperation_ok,
            emit_ok] at executed
          obtain ⟨consumed, _, validated, _, _, rfl, _, middle, dispatched,
            rfl⟩ := executed
          obtain ⟨_, _, _, _, _, _, rfl⟩ :=
            validateScheduledExecution_ok validated
          have kept := Slotless.kept (fun _ => inferInstance) dispatched
          exact congrFun (congrArg Slots.liveUntil kept) opHash
      | cancel signers operation =>
          cases invoke_effect succeeded with
          | cancel => rfl
          | administer direct => cases direct
          | query reads => cases reads
      | cancelAll signers operations =>
          cases invoke_effect succeeded with
          | cancelAll _ _ _ drained =>
              obtain ⟨_, _, rfl⟩ := drained.unchanged
              rfl
          | administer direct => cases direct
          | query reads => cases reads
      | dryRun operation =>
          obtain ⟨_, checked, _⟩ := replying_ok.mp succeeded
          simp only [dryRun, Tx.bind_ok, Tx.pure_ok] at checked
          obtain ⟨_, _, validated, _, rfl⟩ := checked
          obtain ⟨_, _, _, _, _, _, rfl⟩ :=
            validateScheduledExecution_ok validated
          rfl
      | _ => cases unseen

end Kept

section Outcome

/-- The state with other slots besides the one behind `opHash`, and with other
lifetimes. -/
def State.besides (opHash : BytesN 32)
    (others : (BytesN 32 → Option ScheduledOp) × (PersistentKey → Nat))
    (state : State) : State :=
  { state with
    scheduledOperation :=
      Function.update others.1 opHash (state.scheduledOperation opHash)
    liveUntil := others.2 }

/-- An action that looks at no other slot. -/
abbrev Narrow {α : Type} (opHash : BytesN 32) (action : Contract α) : Prop :=
  Tx.Blind (State.besides opHash) action

variable {codec : Codec} {env : Env} {opHash : BytesN 32}

instance (priority := low) narrow_of_slotless {α : Type}
    {action : Contract α} [slotless : ∀ slots, Slotless slots action] :
    Narrow opHash action := by
  apply Slotless.blind slotless
  intro others state
  refine ⟨⟨Function.update others.1 opHash (state.scheduledOperation opHash),
    fun opHash => others.2 (.scheduledOperation opHash)⟩,
    ⟨others.2, fun _ => rfl⟩, rfl, ?_⟩
  intro after stored live
  refine ⟨⟨others.1, live.val⟩, ?_⟩
  simp only [State.slotted, State.besides, stored]

instance narrow_findScheduled {operation : Operation} :
    Narrow (codec.hash operation) (findScheduled codec operation) :=
  .read (fun _ => inferInstance) fun _ _ => by
    simp only [State.besides, Function.update_self]

instance narrow_validateScheduledExecution {operation : Operation} :
    Narrow (codec.hash operation)
      (validateScheduledExecution codec env operation) :=
  .andThen inferInstance fun _ => .andThen inferInstance fun _ =>
    .andThen inferInstance fun _ =>
    .read (fun _ => inferInstance) fun _ _ => rfl

instance narrow_consumeScheduledOperation {consumed : BytesN 32} :
    Narrow opHash (consumeScheduledOperation consumed) := by
  refine .andThen (.write fun others state => ?_) fun _ => inferInstance
  refine ⟨⟨Function.update others.1 consumed none, others.2⟩, ?_⟩
  simp only [State.besides]
  rcases eq_or_ne consumed opHash with rfl | other
  · simp only [Function.update_self, Function.update_idem]
  · simp only [Function.update_of_ne other.symm,
      Function.update_comm other.symm]

theorem narrow_execute {executor : Address} {operation : Operation} :
    Narrow (codec.hash operation)
      (execute codec env executor operation) := by
  unfold execute
  infer_instance

/-- What the host has of the queue at `ledger`, less the slots that have
expired. -/
def State.unexpired (ledger : Nat) (state : State) : State :=
  { state with
    scheduledOperation := fun opHash =>
      if ledger ≤ state.liveUntil (.scheduledOperation opHash) then
        state.scheduledOperation opHash
      else none }

theorem State.unexpired_eq {ledger : Nat} {state : State}
    (lives : ledger ≤ state.liveUntil (.scheduledOperation opHash)) :
    state.unexpired ledger = state.besides opHash
      ⟨(state.unexpired ledger).scheduledOperation, state.liveUntil⟩ := by
  have found : (state.unexpired ledger).scheduledOperation opHash =
      state.scheduledOperation opHash := if_pos lives
  simp only [State.besides, ← found, Function.update_eq_self]
  rfl

/-- While its own slot lives, an execution does not feel expiry. -/
theorem execute_unexpired {executor : Address} {operation : Operation}
    {state : State} {ledger : Nat}
    (lives : ledger ≤
      state.liveUntil (.scheduledOperation (codec.hash operation))) :
    (invoke codec env (.execute executor operation)
        (state.unexpired ledger)).map Prod.fst =
      (invoke codec env (.execute executor operation) state).map
        Prod.fst := by
  have narrow : Narrow (codec.hash operation)
      (invoke codec env (.execute executor operation)) := by
    have executes := @narrow_execute codec env executor operation
    exact blind_replying
  rw [State.unexpired_eq lives]
  cases attempt : invoke codec env (.execute executor operation) state with
  | ok outcome =>
      obtain ⟨reply, after⟩ := outcome
      obtain ⟨_, succeeded⟩ := narrow.ok _ attempt
      rw [succeeded]
      rfl
  | error failure => rw [narrow.error _ attempt]

end Outcome

/-! Over a run. -/

theorem Queued.kept {codec : Codec} {env : Env} {call : Call}
    {before after : State} {reply : Reply} {operation : Operation}
    {slot : ScheduledOp} (queued : Queued codec before operation slot)
    (injective : Function.Injective codec.toXdr)
    (succeeded : invoke codec env call before = .ok (reply, after))
    (spared : call.timelock.consumes operation = false) :
    Queued codec after operation slot :=
  .of_waiting queued.2
    (((invoke_effect succeeded).queueStep.timelock injective).kept spared
      queued.waiting)

theorem extendTtl_fresh {env : Env}
    (fresh : env.freshTtl < scheduledOpTtlThreshold ∨
      scheduledOpTtlBump ≤ env.freshTtl) :
    env.sequence.toNat + scheduledOpTtlBump.toNat ≤
      env.extendTtl scheduledOpTtlThreshold scheduledOpTtlBump
        (env.sequence.toNat + env.freshTtl.toNat) := by
  have left : env.sequence.toNat + env.freshTtl.toNat -
      env.sequence.toNat = env.freshTtl.toNat := Nat.add_sub_cancel_left ..
  rcases fresh with short | long
  · rw [Ledger.extendTtl_below (left.symm ▸ UInt32.lt_iff_toNat_lt.mp short)]
  · rw [Ledger.extendTtl]
    split
    · exact Nat.le_refl _
    · exact Nat.add_le_add_left (UInt32.le_iff_toNat_le.mp long) _

/-- A schedule queues its operation. -/
theorem schedule_queues {codec : Codec} {env : Env}
    {signers : List Address} {operation : Operation} {executeIn : UInt64}
    {before after : State} {reply : Reply}
    (succeeded : invoke codec env (.schedule signers operation executeIn)
      before = .ok (reply, after)) :
    executeIn ≤ maxTimelockDelaySeconds ∧
      ∃ slot, Queued codec after operation slot ∧
        slot.executeAt.toNat = env.timestamp.toNat + executeIn.toNat := by
  cases (invoke_effect succeeded).queueStep with
  | @schedule _ _ _ executeAt _ _ shortEnough _ _ _ deadline slots _ =>
      refine ⟨shortEnough, ⟨codec.toXdr operation, executeAt⟩, ⟨?_, rfl⟩,
        deadline⟩
      rw [slots]
      exact Function.update_self ..
  | other untouched => cases untouched

theorem schedule_outlasts {codec : Codec} {env : Env}
    {signers : List Address} {operation : Operation} {executeIn : UInt64}
    {before after : State} {reply : Reply}
    (succeeded : invoke codec env (.schedule signers operation executeIn)
      before = .ok (reply, after))
    (fresh : env.freshTtl < scheduledOpTtlThreshold ∨
      scheduledOpTtlBump ≤ env.freshTtl) :
    env.sequence.toNat + scheduledOpTtlBump.toNat ≤
      after.liveUntil (.scheduledOperation (codec.hash operation)) := by
  obtain ⟨_, scheduled, _⟩ := replying_ok.mp succeeded
  rw [schedule_lives scheduled, Function.update_self]
  exact extendTtl_fresh fresh

/-- At the first ledger at which the operation may run its slot is there and
alive, and expiry does not change what comes of running it. -/
structure Outlives (codec : Codec) (env : Env) (state : State)
    (operation : Operation) (executeAt : Nat) : Prop where
  queued : ∃ slot, Queued codec state operation slot ∧
    slot.executeAt.toNat = executeAt
  live : env.sequence.toNat ≤
    state.liveUntil (.scheduledOperation (codec.hash operation))
  executed : ∀ executor,
    (invoke codec env (.execute executor operation)
        (state.unexpired env.sequence.toNat)).map Prod.fst =
      (invoke codec env (.execute executor operation) state).map Prod.fst

/-- An operation that is not taken off the queue outlives its timelock, where
ledgers are at least five seconds apart. -/
theorem operation_outlives_timelock (codec : Codec)
    (injective : Function.Injective codec.toXdr) (inputs : List Input)
    (closed : Nat → Nat) (paced : Paced 5 closed) (index : Nat) (env : Env)
    (signers : List Address) (operation : Operation) (executeIn : UInt64)
    (scheduled : Commits codec inputs index env
      (.schedule signers operation executeIn))
    (timed : env.timestamp.toNat = closed env.sequence.toNat)
    (fresh : env.freshTtl < scheduledOpTtlThreshold ∨
      scheduledOpTtlBump ≤ env.freshTtl)
    (later : Nat) (after : index < later)
    (spared : ∀ between other call, index < between → between < later →
      Commits codec inputs between other call →
      call.timelock.consumes operation = false)
    (next : Env)
    (reaching : FirstReaching closed
      (env.timestamp.toNat + executeIn.toNat) next.sequence.toNat) :
    Outlives codec next (stateBefore codec inputs later) operation
      (env.timestamp.toNat + executeIn.toNat) := by
  obtain ⟨reply, succeeded⟩ := scheduled
  obtain ⟨bounded, slot, queued, deadline⟩ := schedule_queues succeeded.2
  have lives := schedule_outlasts succeeded.2 fresh
  -- The slot and its lifetime stay as they are from call to call.
  have kept : Queued codec (stateBefore codec inputs later) operation slot ∧
      env.sequence.toNat + scheduledOpTtlBump.toNat ≤
        (stateBefore codec inputs later).liveUntil
          (.scheduledOperation (codec.hash operation)) := by
    apply stateAt_kept
      (fun state : State => Queued codec state operation slot ∧
        env.sequence.toNat + scheduledOpTtlBump.toNat ≤
          state.liveUntil (.scheduledOperation (codec.hash operation)))
      (Nat.succ_le_of_lt after) _ ⟨queued, lives⟩
    intro between input reply' from' to' ran held
    obtain ⟨queued', lives'⟩ := held
    have consumes := spared between input.env input.call from' to'
      ⟨reply', ran⟩
    refine ⟨queued'.kept injective ran.2 consumes, ?_⟩
    rw [invoke_keeps_life ran.2 (by rw [queued'.1]; rfl)]
    exact lives'
  have soon : next.sequence.toNat ≤
      env.sequence.toNat + scheduledOpTtlBump.toNat := by
    apply reaching.le_of_paced paced
    rw [timed]
    exact Nat.add_le_add_left (UInt64.le_iff_toNat_le.mp bounded) _
  have live := Nat.le_trans soon kept.2
  exact ⟨⟨slot, kept.1, deadline⟩, live, fun _ => execute_unexpired live⟩

/-- A call in the given ledger, where ledgers close every five seconds. -/
def Env.closing (ledger : UInt32) : Env :=
  { Env.granting (5 * ledger.toUInt64) with sequence := ledger }

def sampleOpening : List Input :=
  [⟨.closing 1, .init (.account 9) [.account 1] 1 (.contract 5)
    (.account 2)⟩]

/-- An operation that is scheduled with the longest delay. -/
def sampleMonthRun : List Input :=
  sampleOpening ++
    [⟨.closing 20, .schedule [.account 1] sampleOperation 2592000⟩]

theorem operation_outlives_timelock_sample :
    Outlives sampleCodec (.closing 518420)
      (stateBefore sampleCodec sampleMonthRun 2) sampleOperation 2592100 := by
  apply operation_outlives_timelock sampleCodec Operation.toXdr_injective
    sampleMonthRun (5 * ·) (fun _ => Nat.le_refl _) 1 (.closing 20)
    [.account 1] sampleOperation 2592000
    (commits_of_accepted rfl (by decide)) rfl (.inl (by decide)) 2
    (by decide)
  · intro between _ _ from' to'
    omega
  · constructor
    · decide
    · intro earlier sooner
      have bound : earlier < 518420 := sooner
      have moment : (Env.closing 20).timestamp.toNat +
          (2592000 : UInt64).toNat = 2592100 := by
        decide
      omega

end BettaPay.Settlement
