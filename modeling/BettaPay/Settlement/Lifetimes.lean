import BettaPay.Settlement.Slots

namespace BettaPay.Settlement

open BettaPay.Host
open BettaPay.Host.Tx (readState writeState)
open BettaPay.Common

/-! No entry point depends on how long entries have to live. -/

/-- The state with other lifetimes. -/
def State.aged (live : PersistentKey → Nat) (state : State) : State :=
  { state with liveUntil := live }

abbrev Ageless {α : Type} (action : Contract α) : Prop :=
  Tx.Blind State.aged action

instance (priority := low) ageless_of_slotless {α : Type}
    {action : Contract α} [slotless : ∀ slots, Slotless slots action] :
    Ageless action := by
  apply Slotless.blind slotless
  intro live state
  refine ⟨⟨state.scheduledOperation,
    fun opHash => live (.scheduledOperation opHash)⟩,
    ⟨live, fun _ => rfl⟩, rfl, ?_⟩
  intro after stored live'
  refine ⟨live'.val, ?_⟩
  simp only [State.slotted, State.aged, ← stored]

variable {env : Env} {codec : Codec}

instance ageless_extendTtl {key : PersistentKey} {threshold bump : UInt32} :
    Ageless (extendTtl env key threshold bump) :=
  .write fun _ _ => ⟨_, rfl⟩

instance ageless_setScheduledOperation {opHash : BytesN 32}
    {scheduled : ScheduledOp} :
    Ageless (setScheduledOperation env opHash scheduled) :=
  .write fun _ _ => ⟨_, rfl⟩

instance ageless_schedule {signers : List Address} {operation : Operation}
    {executeIn : UInt64} :
    Ageless (schedule codec env signers operation executeIn) :=
  .andThen inferInstance fun _ => .andThen inferInstance fun _ =>
    .andThen inferInstance fun _ => .andThen inferInstance fun _ =>
    .andThen inferInstance fun _ => .andThen inferInstance fun _ =>
    .andThen inferInstance fun _ => .andThen inferInstance fun _ =>
    .read (fun _ => inferInstance) fun _ _ => rfl

instance ageless_findScheduled {operation : Operation} :
    Ageless (findScheduled codec operation) :=
  .read (fun _ => inferInstance) fun _ _ => rfl

instance ageless_validateScheduledExecution {operation : Operation} :
    Ageless (validateScheduledExecution codec env operation) :=
  .andThen inferInstance fun _ => .andThen inferInstance fun _ =>
    .andThen inferInstance fun _ =>
    .read (fun _ => inferInstance) fun _ _ => rfl

instance ageless_consumeScheduledOperation {opHash : BytesN 32} :
    Ageless (consumeScheduledOperation opHash) :=
  .andThen (.write fun live _ => ⟨live, rfl⟩) fun _ => inferInstance

instance ageless_execute {executor : Address} {operation : Operation} :
    Ageless (execute codec env executor operation) := by
  unfold execute
  infer_instance

instance ageless_cancel {signers : List Address} {operation : Operation} :
    Ageless (cancel codec env signers operation) := by
  unfold cancel
  infer_instance

instance ageless_cancelEach {operations : List Operation}
    {cancelled : Nat} : Ageless (cancelEach codec operations cancelled) := by
  induction operations generalizing cancelled with
  | nil => exact Tx.Blind.pure
  | cons operation rest induction =>
      exact .read (fun _ => inferInstance) fun _ _ => rfl

instance ageless_cancelAll {signers : List Address}
    {operations : List Operation} :
    Ageless (cancelAll codec env signers operations) := by
  unfold cancelAll
  infer_instance

/-- Whatever the lifetimes, a call gives the same answer and leaves the same
entries. -/
instance ageless_invoke {call : Call} : Ageless (invoke codec env call) := by
  cases unseen : call.seesQueue with
  | false =>
      have slotless : ∀ slots, Slotless slots (invoke codec env call) :=
        fun _ => slotless_invoke unseen
      infer_instance
  | true =>
      cases call
      case schedule | execute | cancel | cancelAll | dryRun =>
        simp only [invoke, dryRun]
        infer_instance
      all_goals cases unseen

end BettaPay.Settlement
