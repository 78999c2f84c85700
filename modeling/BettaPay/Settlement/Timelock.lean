import BettaPay.Settlement.Queue
import BettaPay.Common.Timelock

namespace BettaPay.Settlement

open BettaPay.Host
open BettaPay.Common

/-! The slot table read as a queue of operations. Slots are found by hash;
an operation waits when the slot at its hash holds its own serialization. -/

def Codec.queue (codec : Codec)
    (slots : BytesN 32 → Option ScheduledOp) : Timelock.Queue Operation :=
  fun operation =>
    ((slots (codec.hash operation)).filter fun slot =>
      slot.operationXdr = codec.toXdr operation).map fun slot =>
        slot.executeAt.toNat

theorem Codec.queue_eq_some {codec : Codec}
    {slots : BytesN 32 → Option ScheduledOp} {operation : Operation}
    {deadline : Nat} :
    codec.queue slots operation = some deadline ↔
      ∃ slot, slots (codec.hash operation) = some slot ∧
        slot.operationXdr = codec.toXdr operation ∧
        slot.executeAt.toNat = deadline := by
  simp [Codec.queue, Option.filter_eq_some_iff, and_assoc]

theorem Queued.waiting {codec : Codec} {state : State}
    {operation : Operation} {slot : ScheduledOp}
    (queued : Queued codec state operation slot) :
    codec.queue state.scheduledOperation operation =
      some slot.executeAt.toNat :=
  Codec.queue_eq_some.mpr ⟨slot, queued.1, queued.2, rfl⟩

theorem Codec.queue_of_ne {codec : Codec}
    {slots : BytesN 32 → Option ScheduledOp} {operation : Operation}
    {slot : ScheduledOp}
    (stored : slots (codec.hash operation) = some slot)
    (different : slot.operationXdr ≠ codec.toXdr operation) :
    codec.queue slots operation = none := by
  simp [Codec.queue, stored, different]

theorem Codec.queue_of_free {codec : Codec}
    {slots : BytesN 32 → Option ScheduledOp} {operation : Operation}
    (free : slots (codec.hash operation) = none) :
    codec.queue slots operation = none := by
  simp [Codec.queue, free]

section Injective

variable {codec : Codec} (injective : Function.Injective codec.toXdr)
  {slots : BytesN 32 → Option ScheduledOp} {operation : Operation}
include injective

theorem Codec.queue_insert {executeAt : UInt64}
    (free : slots (codec.hash operation) = none) :
    codec.queue (Function.update slots (codec.hash operation)
        (some ⟨codec.toXdr operation, executeAt⟩)) =
      Function.update (codec.queue slots) operation
        (some executeAt.toNat) := by
  funext other
  by_cases same : other = operation
  · subst same
    simp [Codec.queue]
  · rw [Function.update_of_ne same]
    by_cases collides : codec.hash other = codec.hash operation
    · have before : codec.queue slots other = none :=
        Codec.queue_of_free (by rw [collides, free])
      rw [before]
      apply Codec.queue_of_ne
      · rw [collides, Function.update_self]
      · exact fun encoded => same (injective encoded).symm
    · simp [Codec.queue, Function.update_of_ne collides]

theorem Codec.queue_erase {slot : ScheduledOp}
    (stored : slots (codec.hash operation) = some slot)
    (encoded : slot.operationXdr = codec.toXdr operation) :
    codec.queue (Function.update slots (codec.hash operation) none) =
      Function.update (codec.queue slots) operation none := by
  funext other
  by_cases same : other = operation
  · subst same
    simp [Codec.queue]
  · rw [Function.update_of_ne same]
    by_cases collides : codec.hash other = codec.hash operation
    · rw [Codec.queue_of_free (by rw [collides, Function.update_self])]
      symm
      apply Codec.queue_of_ne
      · rw [collides, stored]
      · rw [encoded]
        exact fun confused => same (injective confused).symm
    · simp [Codec.queue, Function.update_of_ne collides]

theorem Codec.queue_eraseIf {operations : List Operation} :
    codec.queue (eraseIf (fun opHash slot => operations.any fun listed =>
        codec.holds listed opHash slot) slots) =
      fun operation =>
        if operation ∈ operations then none
        else codec.queue slots operation := by
  funext operation
  apply Option.ext
  intro deadline
  simp only [Codec.queue_eq_some, eraseIf_eq_some]
  split
  · rename_i member
    simp only [reduceCtorEq, iff_false, not_exists, not_and]
    intro slot given encoded
    obtain ⟨stored, spared⟩ := given
    have listed : codec.holds operation (codec.hash operation) slot =
      true := Codec.holds_eq_true.mpr ⟨rfl, encoded⟩
    exact absurd listed (by
      simpa using List.any_eq_false.mp spared operation member)
  · rename_i absent
    rw [Codec.queue_eq_some]
    constructor
    · intro given
      obtain ⟨slot, ⟨stored, _⟩, rest⟩ := given
      exact ⟨slot, stored, rest⟩
    · intro given
      obtain ⟨slot, stored, encoded, deadline⟩ := given
      refine ⟨slot, ⟨stored, ?_⟩, encoded, deadline⟩
      rw [List.any_eq_false]
      intro listed member held
      have confused := (Codec.holds_eq_true.mp held).2
      have same : operation = listed :=
        injective (encoded.symm.trans confused)
      exact absent (same ▸ member)

end Injective

/-! The settlement contract as a timelock. -/

def Call.timelock : Call → Timelock.Action Operation
  | .schedule _ operation _ => .schedule operation
  | .execute _ operation => .execute operation
  | .cancel _ operation => .cancel operation
  | .cancelAll _ operations => .cancelAll operations
  | _ => .other

theorem Call.timelock_of_untouched {call : Call}
    (untouched : call.touchesQueue = false) : call.timelock = .other := by
  cases call <;> first | rfl | cases untouched

theorem QueueStep.timelock {codec : Codec} {env : Env}
    {before after : State} {call : Call}
    (stepped : QueueStep codec env before after call)
    (injective : Function.Injective codec.toXdr) :
    Timelock.Step minTimelockDelaySeconds.toNat env.timestamp.toNat
      (codec.queue before.scheduledOperation) call.timelock
      (codec.queue after.scheduledOperation) := by
  cases stepped with
  | schedule _ longEnough _ _ _ free deadline slots _ =>
      rw [slots, Codec.queue_insert injective free]
      refine .schedule (Codec.queue_of_free free) ?_
      have lower := UInt64.le_iff_toNat_le.mp longEnough
      omega
  | execute queued matured _ slots _ =>
      rw [slots, Codec.queue_erase injective queued.1 queued.2]
      exact .execute queued.waiting (UInt64.le_iff_toNat_le.mp matured)
  | cancel queued slots _ =>
      rw [slots, Codec.queue_erase injective queued.1 queued.2]
      exact .cancel (by rw [queued.waiting]; rfl)
  | cancelAll slots _ _ =>
      rw [slots, Codec.queue_eraseIf injective]
      exact .cancelAll
  | other untouched slots _ =>
      rw [slots, Call.timelock_of_untouched untouched]
      exact .other

/-- The settlement contract and the queue in its storage. -/
def timelock (codec : Codec) (injective : Function.Injective codec.toXdr) :
    Timelocked State (Failure SettlementError) Input Reply Operation where
  step := step codec
  start := State.initial
  now := fun input => input.env.timestamp.toNat
  delay := minTimelockDelaySeconds.toNat
  action := fun input => input.call.timelock
  queue := fun state => codec.queue state.scheduledOperation
  blank := fun _ => rfl
  refines := fun succeeded =>
    (invoke_effect succeeded).queueStep.timelock injective

/-! Safety of the timelock. -/

/-- The `execute` at `execution` runs what the `schedule` at `scheduling`
queued: a quorum of that moment asked for it at least seven days before, and
no call took it off the queue in between. -/
structure ScheduledBy (codec : Codec) (inputs : List Input)
    (operation : Operation) (env : Env) (scheduling execution : Nat) :
    Prop where
  earlier : scheduling < execution
  patient : ∃ begin signers executeIn,
    Commits codec inputs scheduling begin
      (.schedule signers operation executeIn) ∧
    (stateBefore codec inputs scheduling).authority.Quorum begin.toLedger
      signers ∧
    begin.timestamp.toNat + 7 * 24 * 60 * 60 ≤ env.timestamp.toNat
  untouched : ∀ between other call, scheduling < between →
    between < execution → Commits codec inputs between other call →
    call.timelock.consumes operation = false

def schedules (codec : Codec) (inputs : List Input)
    (operation : Operation) : Nat :=
  total (fun call =>
    (decide (call.input.call.timelock = .schedule operation)).toNat)
    (trace (step codec) State.initial inputs)

def executions (codec : Codec) (inputs : List Input)
    (operation : Operation) : Nat :=
  total (fun call =>
    (decide (call.input.call.timelock = .execute operation)).toNat)
    (trace (step codec) State.initial inputs)

/-- The cancellations that found the operation on the queue. -/
def cancellations (codec : Codec) (inputs : List Input)
    (operation : Operation) : Nat :=
  total (fun call =>
    (call.input.call.timelock.cancels operation &&
      (codec.queue call.before.scheduledOperation operation).isSome).toNat)
    (trace (step codec) State.initial inputs)

/-- The call schedules, executes or cancels exactly this operation. -/
def Call.names (operation : Operation) : Call → Bool
  | .schedule _ scheduled _ => scheduled = operation
  | .execute _ executed => executed = operation
  | .cancel _ cancelled => cancelled = operation
  | _ => false

structure TimelockSafe (codec : Codec) (inputs : List Input) : Prop where
  matched : ∃ schedulingOf : Nat → Nat,
    (∀ execution env executor operation,
      Commits codec inputs execution env (.execute executor operation) →
      ScheduledBy codec inputs operation env (schedulingOf execution)
        execution) ∧
    ∀ first second env env' executor executor' operation operation',
      Commits codec inputs first env (.execute executor operation) →
      Commits codec inputs second env' (.execute executor' operation') →
      schedulingOf first = schedulingOf second → first = second
  counted : ∀ operation,
    executions codec inputs operation +
        cancellations codec inputs operation ≤
      schedules codec inputs operation
  collision : ∀ index operation slot other env call,
    Queued codec (stateBefore codec inputs index) operation slot →
    other ≠ operation → codec.hash other = codec.hash operation →
    call.names other = true → ∃ failure,
      invoke codec env call (stateBefore codec inputs index) =
        .error failure
  isolated : ∀ index operation slot env call,
    Queued codec (stateBefore codec inputs index) operation slot →
    Commits codec inputs index env call →
    call.timelock.consumes operation = false →
    Queued codec (stateBefore codec inputs (index + 1)) operation slot

theorem Queued.of_waiting {codec : Codec} {state : State}
    {operation : Operation} {slot : ScheduledOp}
    (encoded : slot.operationXdr = codec.toXdr operation)
    (waiting : codec.queue state.scheduledOperation operation =
      some slot.executeAt.toNat) : Queued codec state operation slot := by
  obtain ⟨found, stored, same, deadline⟩ := Codec.queue_eq_some.mp waiting
  have equal : found = slot := by
    cases found
    cases slot
    cases UInt64.toNat_inj.mp deadline
    cases same.trans encoded.symm
    rfl
  exact ⟨equal ▸ stored, encoded⟩

theorem Queued.unique {codec : Codec}
    (injective : Function.Injective codec.toXdr) {state : State}
    {operation other : Operation} {slot found : ScheduledOp}
    (queued : Queued codec state operation slot)
    (collides : codec.hash other = codec.hash operation)
    (queued' : Queued codec state other found) : other = operation := by
  have stored := queued'.1
  rw [collides, queued.1] at stored
  cases stored
  exact injective (queued'.2.symm.trans queued.2)

/-- Behind a hash that is taken, only the operation that took it can be
touched. -/
theorem QueueStep.names_occupant {codec : Codec} {env : Env}
    {before after : State} {call : Call}
    (stepped : QueueStep codec env before after call)
    (injective : Function.Injective codec.toXdr)
    {operation other : Operation} {slot : ScheduledOp}
    (queued : Queued codec before operation slot)
    (collides : codec.hash other = codec.hash operation)
    (named : call.names other = true) : other = operation := by
  cases stepped with
  | schedule _ _ _ _ _ free _ _ _ =>
      cases of_decide_eq_true named
      rw [collides, queued.1] at free
      cases free
  | execute queued' _ _ _ _ =>
      cases of_decide_eq_true named
      exact queued.unique injective collides queued'
  | cancel queued' _ _ =>
      cases of_decide_eq_true named
      exact queued.unique injective collides queued'
  | cancelAll => cases named
  | other untouched =>
      cases call <;> first | cases named | cases untouched

theorem scheduled_by_quorum {codec : Codec}
    {injective : Function.Injective codec.toXdr} {inputs : List Input}
    {operation : Operation} {index : Nat} {begin : Input}
    (scheduled : (timelock codec injective).Commits inputs index begin
      (.schedule operation)) :
    ∃ signers executeIn,
      Commits codec inputs index begin.env
        (.schedule signers operation executeIn) ∧
      (stateBefore codec inputs index).authority.Quorum
        begin.env.toLedger signers := by
  obtain ⟨action, reply, succeeded⟩ := scheduled
  rcases begin with ⟨env, call⟩
  have effect := invoke_effect succeeded.2
  cases call with
  | schedule signers queued executeIn =>
      cases action
      cases effect.queueStep with
      | schedule quorum =>
          exact ⟨signers, executeIn, ⟨reply, succeeded⟩, quorum⟩
      | other untouched => cases untouched
  | _ => cases action

theorem scheduledBy_of_scheduledFrom {codec : Codec}
    {injective : Function.Injective codec.toXdr} {inputs : List Input}
    {operation : Operation} {env : Env} {executor : Address}
    {scheduling execution : Nat}
    (executed : Commits codec inputs execution env
      (.execute executor operation))
    (charged : (timelock codec injective).ScheduledFrom inputs operation
      scheduling execution) :
    ScheduledBy codec inputs operation env scheduling execution := by
  obtain ⟨begin, finish, scheduled, ⟨_, _, here, _⟩, patient⟩ :=
    charged.patient
  obtain ⟨_, there, _⟩ := executed
  cases here.symm.trans there
  obtain ⟨signers, executeIn, committed, quorum⟩ :=
    scheduled_by_quorum scheduled
  refine ⟨charged.earlier, ⟨begin.env, signers, executeIn, committed, quorum,
    patient⟩, ?_⟩
  intro between other call after before given
  obtain ⟨reply, succeeded⟩ := given
  exact charged.untouched between _ _ after before ⟨rfl, reply, succeeded⟩

/-- In every run, whatever the hash: each execution has a schedule of its own,
at least seven days older and by a quorum of its moment, with the operation
waiting in between; executions and cancellations never outnumber schedules;
an operation that shares its hash with a different pending one cannot be
scheduled, executed or cancelled; and only a call that consumes an operation
touches its slot. -/
theorem timelock_safety (codec : Codec)
    (injective : Function.Injective codec.toXdr) (inputs : List Input) :
    TimelockSafe codec inputs where
  matched := by
    obtain ⟨schedulingOf, found, distinct⟩ :=
      @Timelocked.exists_schedulings _ _ _ _ _ _ (timelock codec injective)
        inputs
    refine ⟨schedulingOf, ?_, ?_⟩
    · intro execution env executor operation given
      obtain ⟨reply, succeeded⟩ := given
      exact scheduledBy_of_scheduledFrom ⟨reply, succeeded⟩
        (found execution _ operation ⟨rfl, reply, succeeded⟩)
    · rintro first second env env' executor executor' operation operation'
        ⟨reply, succeeded⟩ ⟨reply', succeeded'⟩ same
      exact distinct first second
        ⟨_, operation, rfl, reply, succeeded⟩
        ⟨_, operation', rfl, reply', succeeded'⟩ same
  counted := by
    intro operation
    have balance := @Timelocked.scheduled_balance _ _ _ _ _ _
      (timelock codec injective) inputs operation
    rw [total_add] at balance
    have split : _ + (executions codec inputs operation +
        cancellations codec inputs operation) =
      schedules codec inputs operation := balance
    omega
  collision := by
    intro index operation slot other env call queued different collides
      named
    cases attempt : invoke codec env call
        (stateBefore codec inputs index) with
    | error failure => exact ⟨failure, rfl⟩
    | ok outcome =>
        have stepped := (invoke_effect attempt).queueStep
        exact absurd (stepped.names_occupant injective queued collides named)
          different
  isolated := by
    intro index operation slot env call queued given spared
    obtain ⟨reply, succeeded⟩ := given
    exact Queued.of_waiting queued.2
      (@Timelocked.waiting_kept _ _ _ _ _ _ (timelock codec injective) _ _ _
        _ _ _ ⟨rfl, reply, succeeded⟩ spared queued.waiting)

theorem timelock_safety_sample :
    Function.Injective sampleCodec.toXdr ∧
    Commits sampleCodec sampleTimelockRun 2 (.granting 604900)
      (.execute (.account 3) sampleOperation) ∧
    TimelockSafe sampleCodec sampleTimelockRun :=
  ⟨Operation.toXdr_injective, commits_of_accepted rfl (by decide),
    timelock_safety sampleCodec Operation.toXdr_injective
      sampleTimelockRun⟩

end BettaPay.Settlement
