import BettaPay.Scripts.SorobanEvents
import BettaPay.Settlement.PaymentLog
import BettaPay.Settlement.Queue
import BettaPay.Host.Xdr
import Mathlib.Data.Set.Card

namespace BettaPay.Scripts

open BettaPay.Host
open BettaPay.Common
open BettaPay.Settlement

/-! The reconstructed queue against the queue on chain. -/

def hashBytes (opHash : BytesN 32) : Bytes := Xdr.fixed 32 opHash.toNat

def hashText (opHash : BytesN 32) : String := hex (hashBytes opHash)

theorem hashText_injective : Function.Injective hashText := by
  intro left right same
  exact Xdr.key_delimited.injective (hex_injective same)

/-- The topics of the events about the queue. A batch cancellation shares the
name of a single one but carries no hash. -/
def queueTopics : Event → Option (List Val)
  | .opScheduled opHash _ _ =>
      some [.symbol opScheduled, .bytes (hashBytes opHash)]
  | .opExecuted opHash =>
      some [.symbol opExecuted, .bytes (hashBytes opHash)]
  | .opCancelled opHash _ =>
      some [.symbol opCancelled, .bytes (hashBytes opHash)]
  | .opCancelledBatch _ _ => some [.symbol opCancelled]
  | _ => none

/-- The events are those the contract has published about the queue, all of
them and in order. -/
def Reports (events : List RpcEvent) (state : State) : Prop :=
  events.map RpcEvent.topic = state.events.filterMap queueTopics

/-- From every such log the script finds exactly the hashes of the stored
slots, as many as the contract counts. -/
def Reconstructs (decodeEventValue : String → Decoded) (state : State) :
    Prop :=
  ∀ events, Reports events state →
    (∀ text, text ∈ pendingHashes decodeEventValue events ↔
      ∃ opHash, (state.scheduledOperation opHash).isSome ∧
        hashText opHash = text) ∧
    (pendingHashes decodeEventValue events).length =
      state.readPendingOperationCount.toNat

def schedules : Event → Option (BytesN 32)
  | .opScheduled opHash _ _ => some opHash
  | _ => none

def finishes : Event → Option (BytesN 32)
  | .opExecuted opHash => some opHash
  | .opCancelled opHash _ => some opHash
  | _ => none

def scheduledHashes (state : State) : List (BytesN 32) :=
  state.events.filterMap schedules

def finishedHashes (state : State) : List (BytesN 32) :=
  state.events.filterMap finishes

/-- The slots are the hashes that were scheduled and never finished. -/
def LogAgrees (state : State) : Prop :=
  ∀ opHash, (state.scheduledOperation opHash).isSome ↔
    opHash ∈ scheduledHashes state ∧ opHash ∉ finishedHashes state

/-! Reading the log. -/

/-- An event of which only the topics matter. -/
def ofTopics (topic : List Val) : RpcEvent where
  contractId := ""
  ledger := 0
  pagingToken := ""
  topic := topic
  value := ""

theorem exists_reported {events : List RpcEvent} {state : State}
    (reported : Reports events state) {note : Option (Symbol × String)} :
    (∃ event ∈ events, event.noted = note) ↔
      ∃ event ∈ state.events, ∃ topic, queueTopics event = some topic ∧
        (ofTopics topic).noted = note := by
  have byTopic : (∃ event ∈ events, event.noted = note) ↔
      ∃ topic ∈ events.map RpcEvent.topic,
        (ofTopics topic).noted = note := by
    constructor
    · intro given
      obtain ⟨event, member, noted⟩ := given
      exact ⟨event.topic, List.mem_map_of_mem member, noted⟩
    · intro given
      obtain ⟨topic, member, noted⟩ := given
      obtain ⟨event, there, rfl⟩ := List.mem_map.mp member
      exact ⟨event, there, noted⟩
  rw [byTopic, reported]
  constructor
  · intro given
    obtain ⟨topic, member, noted⟩ := given
    obtain ⟨event, there, same⟩ := List.mem_filterMap.mp member
    exact ⟨event, there, topic, same, noted⟩
  · intro given
    obtain ⟨event, there, topic, same, noted⟩ := given
    exact ⟨topic, List.mem_filterMap.mpr ⟨event, there, same⟩, noted⟩

theorem noted_scheduled {event : Event} {text : String} :
    (∃ topic, queueTopics event = some topic ∧
        (ofTopics topic).noted = some (opScheduled, text)) ↔
      ∃ opHash, schedules event = some opHash ∧ hashText opHash = text := by
  cases event <;> simp [queueTopics, schedules, ofTopics, RpcEvent.noted,
    extractTopicSymbols, extractOpHash, decodeSymbol, decodeBytesN,
    opScheduled, opExecuted, opCancelled, hashText]

theorem noted_finished {event : Event} {text : String} :
    (∃ topic0, topic0 ≠ opScheduled ∧
        ∃ topic, queueTopics event = some topic ∧
          (ofTopics topic).noted = some (topic0, text)) ↔
      ∃ opHash, finishes event = some opHash ∧ hashText opHash = text := by
  cases event <;> simp [queueTopics, finishes, ofTopics, RpcEvent.noted,
    extractTopicSymbols, extractOpHash, decodeSymbol, decodeBytesN,
    opScheduled, opExecuted, opCancelled, hashText]

section Reading

variable {decodeEventValue : String → Decoded} {events : List RpcEvent}
  {state : State}

theorem exists_scheduled (reported : Reports events state) {text : String} :
    (∃ event ∈ events, event.noted = some (opScheduled, text)) ↔
      ∃ opHash ∈ scheduledHashes state, hashText opHash = text := by
  rw [exists_reported reported]
  simp only [noted_scheduled, scheduledHashes, List.mem_filterMap]
  constructor
  · intro given
    obtain ⟨event, member, opHash, scheduled, same⟩ := given
    exact ⟨opHash, ⟨event, member, scheduled⟩, same⟩
  · intro given
    obtain ⟨opHash, ⟨event, member, scheduled⟩, same⟩ := given
    exact ⟨event, member, opHash, scheduled, same⟩

theorem exists_finished (reported : Reports events state) {text : String} :
    (∃ event ∈ events, ∃ topic0, topic0 ≠ opScheduled ∧
        event.noted = some (topic0, text)) ↔
      ∃ opHash ∈ finishedHashes state, hashText opHash = text := by
  simp only [finishedHashes, List.mem_filterMap]
  constructor
  · intro given
    obtain ⟨event, member, topic0, other, noted⟩ := given
    obtain ⟨event', member', reading⟩ :=
      (exists_reported reported).mp ⟨event, member, noted⟩
    obtain ⟨opHash, finished, same⟩ :=
      noted_finished.mp ⟨topic0, other, reading⟩
    exact ⟨opHash, ⟨event', member', finished⟩, same⟩
  · intro given
    obtain ⟨opHash, ⟨event', member', finished⟩, same⟩ := given
    obtain ⟨topic0, other, reading⟩ :=
      noted_finished.mpr ⟨opHash, finished, same⟩
    obtain ⟨event, member, noted⟩ :=
      (exists_reported reported).mpr ⟨event', member', reading⟩
    exact ⟨event, member, topic0, other, noted⟩

/-- The script returns the hashes that were scheduled and never finished. -/
theorem mem_pendingHashes_reported (reported : Reports events state)
    {text : String} :
    text ∈ pendingHashes decodeEventValue events ↔
      ∃ opHash, (opHash ∈ scheduledHashes state ∧
        opHash ∉ finishedHashes state) ∧ hashText opHash = text := by
  rw [mem_pendingHashes, exists_scheduled reported, exists_finished reported]
  constructor
  · intro given
    obtain ⟨⟨opHash, scheduled, rfl⟩, unfinished⟩ := given
    exact ⟨opHash, ⟨scheduled, fun finished =>
      unfinished ⟨opHash, finished, rfl⟩⟩, rfl⟩
  · intro given
    obtain ⟨opHash, ⟨scheduled, unfinished⟩, rfl⟩ := given
    refine ⟨⟨opHash, scheduled, rfl⟩, ?_⟩
    intro finished
    obtain ⟨other, member, same⟩ := finished
    exact unfinished (hashText_injective same ▸ member)

theorem length_pendingHashes
    (found : ∀ text, text ∈ pendingHashes decodeEventValue events ↔
      ∃ opHash, (state.scheduledOperation opHash).isSome ∧
        hashText opHash = text) :
    (pendingHashes decodeEventValue events).length =
      size state.scheduledOperation := by
  have texts : ((pendingHashes decodeEventValue events).toFinset :
        Set String) =
      hashText '' {opHash | (state.scheduledOperation opHash).isSome} := by
    ext text
    simp [found]
  rw [← List.toFinset_card_of_nodup (nodup_pendingHashes events),
    ← Set.ncard_coe_finset, texts,
    Set.ncard_image_of_injective _ hashText_injective]
  rfl

end Reading

theorem reconstructs_iff {decodeEventValue : String → Decoded}
    {state : State} :
    Reconstructs decodeEventValue state ↔
      LogAgrees state ∧ QueueCounted state := by
  constructor
  · intro reconstructs
    have reported : Reports
        ((state.events.filterMap queueTopics).map ofTopics) state := by
      rw [Reports, List.map_map]
      exact List.map_id _
    obtain ⟨found, counted⟩ := reconstructs _ reported
    refine ⟨?_, ?_⟩
    · intro opHash
      have here := found (hashText opHash)
      rw [mem_pendingHashes_reported reported] at here
      simp only [hashText_injective.eq_iff, exists_eq_right] at here
      exact here.symm
    · rw [length_pendingHashes found] at counted
      exact counted.symm
  · intro given events reported
    obtain ⟨agrees, counted⟩ := given
    have found : ∀ text, text ∈ pendingHashes decodeEventValue events ↔
        ∃ opHash, (state.scheduledOperation opHash).isSome ∧
          hashText opHash = text := by
      intro text
      rw [mem_pendingHashes_reported reported]
      simp only [agrees _]
    exact ⟨found, (length_pendingHashes found).trans counted.symm⟩

/-! What a call adds to the log. -/

def hashScheduled (codec : Codec) : Call → List (BytesN 32)
  | .schedule _ operation _ => [codec.hash operation]
  | _ => []

def hashFinished (codec : Codec) : Call → List (BytesN 32)
  | .execute _ operation => [codec.hash operation]
  | .cancel _ operation => [codec.hash operation]
  | _ => []

theorem hashes_of_administers {codec : Codec} {call : Call}
    {signers : List Address} {operation : Operation}
    (direct : call.administers = some (signers, operation)) :
    hashScheduled codec call = [] ∧ hashFinished codec call = [] := by
  cases call <;> cases direct <;> exact ⟨rfl, rfl⟩

theorem hashes_of_isQuery {codec : Codec} {call : Call}
    (reads : call.isQuery = true) :
    hashScheduled codec call = [] ∧ hashFinished codec call = [] := by
  cases call <;> first | exact ⟨rfl, rfl⟩ | cases reads

theorem scheduledHashes_soft (state : State)
    (cache : Option (Option SettlementRule)) (live : PersistentKey → Nat)
    (events : List Event) :
    scheduledHashes (state.soft cache live events) =
      scheduledHashes state ++ events.filterMap schedules :=
  List.filterMap_append

theorem finishedHashes_soft (state : State)
    (cache : Option (Option SettlementRule)) (live : PersistentKey → Nat)
    (events : List Event) :
    finishedHashes (state.soft cache live events) =
      finishedHashes state ++ events.filterMap finishes :=
  List.filterMap_append

theorem applied_unlogged {env : Env} {state after : State}
    {actor : Address} {operation : Operation}
    (applied : Applied env state actor operation after) :
    scheduledHashes after = scheduledHashes state ∧
      finishedHashes after = finishedHashes state := by
  cases applied with
  | unregisterMerchant registered refreshed clearing =>
      rw [scheduledHashes_soft, finishedHashes_soft]
      cases clearing <;>
        exact ⟨List.append_nil _, List.append_nil _⟩
  | _ =>
      rw [scheduledHashes_soft, finishedHashes_soft]
      exact ⟨List.append_nil _, List.append_nil _⟩

/-- The hashes a committed call adds to the log. -/
theorem logged_hashes {codec : Codec} {env : Env} {state after : State}
    {call : Call} (effect : Effect codec env state call after) :
    scheduledHashes after =
        scheduledHashes state ++ hashScheduled codec call ∧
      finishedHashes after =
        finishedHashes state ++ hashFinished codec call := by
  cases effect with
  | init | pruneNothing =>
      exact ⟨(List.append_nil _).symm, (List.append_nil _).symm⟩
  | execute queued unpaused matured unvetoed applied =>
      obtain ⟨scheduled, finished⟩ := applied_unlogged applied
      rw [scheduledHashes_soft, finishedHashes_soft, scheduled, finished]
      exact ⟨rfl, rfl⟩
  | cancelAll quorum unpaused bounded drained =>
      obtain ⟨slots, counter, rfl⟩ := drained.unchanged
      rw [scheduledHashes_soft, finishedHashes_soft]
      exact ⟨rfl, rfl⟩
  | administer direct quorum unpaused agreed prepared applied =>
      subst prepared
      obtain ⟨scheduled, finished⟩ := applied_unlogged applied
      obtain ⟨none, none'⟩ := @hashes_of_administers codec _ _ _ direct
      rw [scheduled, finished, scheduledHashes_soft, finishedHashes_soft,
        none, none']
      rcases agreed with rfl | ⟨merchant, rfl⟩ <;> exact ⟨rfl, rfl⟩
  | storePaymentReference =>
      rw [scheduledHashes_soft, finishedHashes_soft, bootstrapEvents]
      split <;> exact ⟨rfl, rfl⟩
  | prunePayments quorum bounded pruned counted =>
      have table := pruned.table
      subst table
      rw [scheduledHashes_soft, finishedHashes_soft]
      exact ⟨rfl, rfl⟩
  | query reads =>
      obtain ⟨none, none'⟩ := @hashes_of_isQuery codec _ reads
      rw [scheduledHashes_soft, finishedHashes_soft, none, none']
      exact ⟨rfl, rfl⟩
  | _ =>
      rw [scheduledHashes_soft, finishedHashes_soft]
      exact ⟨rfl, rfl⟩

/-! One call. -/

/-- The state before a call lets the log follow the queue: a schedule is of a
hash that was never finished and does not saturate the counter, and a batch
cancellation finds nothing to cancel. -/
structure Traceable (codec : Codec) (state : State) (call : Call) :
    Prop where
  fresh : ∀ signers operation executeIn,
    call = .schedule signers operation executeIn →
    codec.hash operation ∉ finishedHashes state
  countable : ∀ signers operation executeIn,
    call = .schedule signers operation executeIn →
    state.readPendingOperationCount.toNat + 1 < 2 ^ 32
  idle : ∀ signers operations, call = .cancelAll signers operations →
    ∀ operation ∈ operations, ∀ slot, ¬ Queued codec state operation slot

section Step

variable {codec : Codec} {env : Env} {before after : State} {call : Call}

theorem LogAgrees.of_hashes
    (slots : ∀ opHash, (after.scheduledOperation opHash).isSome ↔
      (before.scheduledOperation opHash).isSome)
    (scheduled : scheduledHashes after = scheduledHashes before)
    (finished : finishedHashes after = finishedHashes before)
    (agrees : LogAgrees before) : LogAgrees after := by
  intro opHash
  rw [slots, scheduled, finished]
  exact agrees opHash

/-- A slot that is finished by name leaves the log with the queue. -/
theorem LogAgrees.finish {opHash : BytesN 32}
    (slots : after.scheduledOperation =
      Function.update before.scheduledOperation opHash none)
    (scheduled : scheduledHashes after = scheduledHashes before)
    (finished : finishedHashes after = finishedHashes before ++ [opHash])
    (agrees : LogAgrees before) : LogAgrees after := by
  intro other
  rw [slots, scheduled, finished, Function.update_apply]
  split
  · rename_i same
    simp [same]
  · rename_i different
    rw [agrees other]
    simp [different]

theorem logAgrees_schedule_iff {opHash : BytesN 32} {slot : ScheduledOp}
    (slots : after.scheduledOperation =
      Function.update before.scheduledOperation opHash (some slot))
    (scheduled : scheduledHashes after = scheduledHashes before ++ [opHash])
    (finished : finishedHashes after = finishedHashes before)
    (agrees : LogAgrees before) :
    LogAgrees after ↔ opHash ∉ finishedHashes before := by
  constructor
  · intro later
    have here := later opHash
    rw [slots, finished, Function.update_self] at here
    exact (here.mp rfl).2
  · intro fresh other
    rw [slots, scheduled, finished, Function.update_apply]
    split
    · rename_i same
      simp [same, fresh]
    · rename_i different
      rw [agrees other]
      simp [different]

theorem logAgrees_cancelAll_iff {operations : List Operation}
    (slots : after.scheduledOperation =
      eraseIf (fun opHash slot => operations.any fun operation =>
        codec.holds operation opHash slot) before.scheduledOperation)
    (scheduled : scheduledHashes after = scheduledHashes before)
    (finished : finishedHashes after = finishedHashes before)
    (agrees : LogAgrees before) :
    LogAgrees after ↔ ∀ operation ∈ operations, ∀ slot,
      ¬ Queued codec before operation slot := by
  constructor
  · intro later operation listed slot queued
    have kept : (after.scheduledOperation (codec.hash operation)).isSome := by
      rw [later, scheduled, finished, ← agrees, queued.1]
      rfl
    obtain ⟨slot', stored⟩ := Option.isSome_iff_exists.mp kept
    rw [slots, eraseIf_eq_some] at stored
    obtain ⟨there, unerased⟩ := stored
    cases queued.1.symm.trans there
    rw [List.any_eq_false] at unerased
    exact unerased operation listed (Codec.holds_eq_true.mpr ⟨rfl, queued.2⟩)
  · intro idle
    refine agrees.of_hashes ?_ scheduled finished
    intro opHash
    have same : after.scheduledOperation opHash =
        before.scheduledOperation opHash := by
      cases stored : before.scheduledOperation opHash with
      | none => simp [slots, eraseIf, stored]
      | some slot =>
          rw [slots, eraseIf_eq_some]
          refine ⟨stored, List.any_eq_false.mpr ?_⟩
          intro operation listed held
          obtain ⟨rfl, encoded⟩ := Codec.holds_eq_true.mp held
          exact idle operation listed slot ⟨stored, encoded⟩
    rw [same]

/-- A call that schedules nothing keeps the counter exact. -/
theorem counted_of_size_le
    (stepped : QueueStep codec env before after call)
    (smaller : size after.scheduledOperation ≤
      size before.scheduledOperation)
    (counted : QueueCounted before) : QueueCounted after := by
  apply stepped.counted _ counted
  have exact : before.readPendingOperationCount.toNat =
    size before.scheduledOperation := counted
  have bound := before.readPendingOperationCount.toNat_lt
  omega

theorem reconstruction_finish {operation : Operation} {slot : ScheduledOp}
    (stepped : QueueStep codec env before after call)
    (queued : Queued codec before operation slot)
    (slots : after.scheduledOperation = Function.update
      before.scheduledOperation (codec.hash operation) none)
    (scheduled : scheduledHashes after = scheduledHashes before)
    (finished : finishedHashes after =
      finishedHashes before ++ [codec.hash operation])
    (agrees : LogAgrees before) (counted : QueueCounted before) :
    LogAgrees after ∧ QueueCounted after := by
  have shrunk := queued.size_erased
  rw [← slots] at shrunk
  exact ⟨agrees.finish slots scheduled finished,
    counted_of_size_le stepped (by omega) counted⟩

theorem counted_schedule_iff {signers : List Address}
    {operation : Operation} {executeIn : UInt64}
    (stepped : QueueStep codec env before after
      (.schedule signers operation executeIn))
    (counted : QueueCounted before) :
    QueueCounted after ↔
      before.readPendingOperationCount.toNat + 1 < 2 ^ 32 := by
  have exact : before.readPendingOperationCount.toNat =
    size before.scheduledOperation := counted
  have grown : size after.scheduledOperation =
      size before.scheduledOperation + 1 := by
    cases stepped with
    | schedule _ _ _ _ _ free _ slots _ => rw [slots, size_insert _ free]
    | other untouched => cases untouched
  constructor
  · intro later
    have exact' : after.readPendingOperationCount.toNat =
      size after.scheduledOperation := later
    have bound := after.readPendingOperationCount.toNat_lt
    omega
  · intro room
    apply stepped.counted _ counted
    omega

theorem Traceable.of_other
    (unscheduled : ∀ signers operation executeIn,
      call ≠ .schedule signers operation executeIn)
    (unbatched : ∀ signers operations,
      call ≠ .cancelAll signers operations) :
    Traceable codec before call where
  fresh := fun _ _ _ same => absurd same (unscheduled _ _ _)
  countable := fun _ _ _ same => absurd same (unscheduled _ _ _)
  idle := fun _ _ same => absurd same (unbatched _ _)

theorem traceable_schedule_iff {signers : List Address}
    {operation : Operation} {executeIn : UInt64} :
    Traceable codec before (.schedule signers operation executeIn) ↔
      codec.hash operation ∉ finishedHashes before ∧
        before.readPendingOperationCount.toNat + 1 < 2 ^ 32 := by
  constructor
  · intro traceable
    exact ⟨traceable.fresh _ _ _ rfl, traceable.countable _ _ _ rfl⟩
  · intro given
    obtain ⟨fresh, room⟩ := given
    refine ⟨?_, fun _ _ _ _ => room, ?_⟩
    · intro signers' operation' executeIn' same
      cases same
      exact fresh
    · intro signers' operations same
      cases same

theorem traceable_cancelAll_iff {signers : List Address}
    {operations : List Operation} :
    Traceable codec before (.cancelAll signers operations) ↔
      ∀ operation ∈ operations, ∀ slot,
        ¬ Queued codec before operation slot := by
  constructor
  · intro traceable
    exact traceable.idle _ _ rfl
  · intro idle
    refine ⟨?_, ?_, ?_⟩
    · intro signers' operation executeIn same
      cases same
    · intro signers' operation executeIn same
      cases same
    · intro signers' operations' same
      cases same
      exact idle

/-- The reconstruction survives a call exactly when the call is traceable. -/
theorem traceable_iff {reply : Reply}
    (succeeded : invoke codec env call before = .ok (reply, after))
    (agrees : LogAgrees before) (counted : QueueCounted before) :
    LogAgrees after ∧ QueueCounted after ↔ Traceable codec before call := by
  have effect := invoke_effect succeeded
  have stepped := effect.queueStep
  obtain ⟨scheduled, finished⟩ := logged_hashes effect
  cases id stepped with
  | schedule _ _ _ _ _ _ _ slots _ =>
      rw [traceable_schedule_iff, counted_schedule_iff stepped counted,
        logAgrees_schedule_iff slots scheduled
          (finished.trans (List.append_nil _)) agrees]
  | execute queued _ _ slots _ =>
      exact ⟨fun _ => .of_other (by simp) (by simp), fun _ =>
        reconstruction_finish stepped queued slots
          (scheduled.trans (List.append_nil _)) finished agrees counted⟩
  | cancel queued slots _ =>
      exact ⟨fun _ => .of_other (by simp) (by simp), fun _ =>
        reconstruction_finish stepped queued slots
          (scheduled.trans (List.append_nil _)) finished agrees counted⟩
  | cancelAll slots sized _ =>
      have kept : QueueCounted after :=
        counted_of_size_le stepped (by omega) counted
      rw [traceable_cancelAll_iff, ← logAgrees_cancelAll_iff slots
        (scheduled.trans (List.append_nil _))
        (finished.trans (List.append_nil _)) agrees]
      exact ⟨fun given => given.1, fun later => ⟨later, kept⟩⟩
  | other untouched slots _ =>
      have quiet : hashScheduled codec call = [] ∧
          hashFinished codec call = [] := by
        cases call <;> first | exact ⟨rfl, rfl⟩ | cases untouched
      rw [quiet.1, List.append_nil] at scheduled
      rw [quiet.2, List.append_nil] at finished
      refine ⟨fun _ => .of_other ?_ ?_, fun _ => ⟨agrees.of_hashes ?_
        scheduled finished, counted_of_size_le stepped ?_ counted⟩⟩
      · intro signers operation executeIn same
        rw [same] at untouched
        cases untouched
      · intro signers operations same
        rw [same] at untouched
        cases untouched
      · intro opHash
        rw [slots]
      · rw [slots]

end Step

theorem reconstructs_succ_iff {decodeEventValue : String → Decoded}
    {codec : Codec} {inputs : List Input} {index : Nat}
    (current : Reconstructs decodeEventValue
      (stateBefore codec inputs index)) :
    Reconstructs decodeEventValue (stateBefore codec inputs (index + 1)) ↔
      ∀ env call, Commits codec inputs index env call →
        Traceable codec (stateBefore codec inputs index) call := by
  apply iff_forall_commits
  · intro env call committed
    obtain ⟨agrees, counted⟩ := reconstructs_iff.mp current
    rw [reconstructs_iff,
      traceable_iff committed.choose_spec.2 agrees counted]
  · intro idle
    rw [stateBefore_succ_of_idle idle]
    exact current

theorem reconstructs_initially {decodeEventValue : String → Decoded} :
    Reconstructs decodeEventValue State.initial := by
  rw [reconstructs_iff]
  constructor
  · intro opHash
    exact ⟨fun stored => absurd stored Bool.false_ne_true,
      fun logged => absurd logged.1 List.not_mem_nil⟩
  · exact size_empty.symm

/-- In every run the script rebuilds the queue after every call, exactly when
every committed call is traceable. How the data of an event decodes does not
matter. -/
theorem reconstructs_queue_iff (decodeEventValue : String → Decoded)
    (codec : Codec) (inputs : List Input) :
    (∀ index, Reconstructs decodeEventValue
        (stateBefore codec inputs index)) ↔
      ∀ index env call, Commits codec inputs index env call →
        Traceable codec (stateBefore codec inputs index) call := by
  apply forall_iff_of_succ_iff
  · exact reconstructs_initially
  · intro index current
    exact reconstructs_succ_iff current

/-- An operation is scheduled, cancelled and scheduled again. -/
def rescheduledRun : List Input :=
  [⟨.granting 0, .init (.account 9) [.account 1] 1 (.contract 5)
      (.account 2)⟩,
    ⟨.granting 100, .schedule [.account 1] sampleOperation 604800⟩,
    ⟨.granting 200, .cancel [.account 1] sampleOperation⟩,
    ⟨.granting 300, .schedule [.account 1] sampleOperation 604800⟩]

/-- An operation is scheduled and cancelled in a batch. -/
def batchCancelledRun : List Input :=
  [⟨.granting 0, .init (.account 9) [.account 1] 1 (.contract 5)
      (.account 2)⟩,
    ⟨.granting 100, .schedule [.account 1] sampleOperation 604800⟩,
    ⟨.granting 200, .cancelAll [.account 1] [sampleOperation]⟩]

/-- The slot is back but its hash counts as finished, and the batch leaves no
slot but a hash that counts as pending. -/
theorem rescheduled_and_batch_cancelled_misread :
    ((stateBefore sampleCodec rescheduledRun 4).readPendingOperationCount =
        1 ∧
      finishedHashes (stateBefore sampleCodec rescheduledRun 4) =
        [sampleCodec.hash sampleOperation] ∧
      ∀ decodeEventValue, ¬ Reconstructs decodeEventValue
        (stateBefore sampleCodec rescheduledRun 4)) ∧
    ((stateBefore sampleCodec batchCancelledRun 3).readPendingOperationCount =
        0 ∧
      finishedHashes (stateBefore sampleCodec batchCancelledRun 3) = [] ∧
      ∀ decodeEventValue, ¬ Reconstructs decodeEventValue
        (stateBefore sampleCodec batchCancelledRun 3)) := by
  refine ⟨⟨by decide, by decide, ?_⟩, ⟨by decide, by decide, ?_⟩⟩
  · intro decodeEventValue reconstructs
    have here := (reconstructs_iff.mp reconstructs).1
      (sampleCodec.hash sampleOperation)
    revert here
    decide
  · intro decodeEventValue reconstructs
    have here := (reconstructs_iff.mp reconstructs).1
      (sampleCodec.hash sampleOperation)
    revert here
    decide

end BettaPay.Scripts
