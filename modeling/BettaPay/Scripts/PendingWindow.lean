import BettaPay.Scripts.FetchEvents
import BettaPay.Scripts.PendingQueue
import BettaPay.Settlement.SlotLifetime

namespace BettaPay.Scripts

open BettaPay.Host
open BettaPay.Common
open BettaPay.Settlement

/-! What the default listing of pending operations shows. -/

def queueNames : List Symbol := [opScheduled, opExecuted, opCancelled]

section Listing

variable (decodeEventValue : String → Decoded)
  (tokenBefore : String → String → Bool)

/-- The entries of `cmd_pending` when it is given no ledgers. -/
def listPending (rpc : Rpc) (contractId : String) (pageLimit fuel : Nat) :
    Option (Except String (List PendingEntry)) :=
  (fetchEvents tokenBefore rpc none none contractId queueNames pageLimit
    fuel).map fun fetched => fetched.map fun fetched =>
      (collectPending decodeEventValue fetched.events (some contractId)).1

end Listing

/-- The events of a run about the queue, with the ledgers of their calls. -/
def ledgerLog (codec : Codec) (inputs : List Input) :
    List (Nat × List Val) :=
  (trace (step codec) State.initial inputs).flatMap fun call =>
    ((call.after.events.drop call.before.events.length).filterMap
      queueTopics).map fun topic => (call.input.env.sequence.toNat, topic)

/-- The log holds the contract's events about the queue, all of them and in
order. -/
def Records (contractId : String) (codec : Codec) (inputs : List Input)
    (log : List RpcEvent) : Prop :=
  (log.filter (selected (eventFilters contractId queueNames))).map
      (fun event => (event.ledger, event.topic)) =
    ledgerLog codec inputs

/-- Whatever serves the log at `latest`, the listing shows the hash. -/
def Lists (codec : Codec) (inputs : List Input) (latest : Nat)
    (opHash : BytesN 32) : Prop :=
  ∀ decodeEventValue tokenBefore rpc log contractId pageLimit fuel,
    rpc.Serves log latest → Chronicle log →
    Records contractId codec inputs log → 0 < pageLimit →
    log.length < fuel → ∃ entries,
      listPending decodeEventValue tokenBefore rpc contractId pageLimit
        fuel = some (.ok entries) ∧
      hashText opHash ∈ entries.map PendingEntry.opHash

/-! The fold keeps to the contract whose events it reads. -/

theorem mem_scheduled_contract {decodeEventValue : String → Decoded}
    {contractId : String} {events : List RpcEvent}
    (own : ∀ event ∈ events, event.contractId = contractId) :
    ∀ entry ∈ (events.foldl (collect decodeEventValue) ⟨[], []⟩).scheduled,
      entry.2.contractId = contractId := by
  induction events using List.reverseRecOn with
  | nil => simp
  | append_singleton events event induction =>
      have earlier := induction fun other member =>
        own other (List.mem_append_left _ member)
      rw [List.foldl_append, List.foldl_cons, List.foldl_nil, collect_eq]
      cases event.noted with
      | none => exact earlier
      | some note =>
          simp only
          split
          · intro entry member
            rcases Dict.mem_set member with rfl | there
            · exact own event (by simp)
            · exact earlier entry there
          · exact earlier

theorem collectPending_contract {decodeEventValue : String → Decoded}
    {contractId : String} {events : List RpcEvent}
    (own : ∀ event ∈ events, event.contractId = contractId) :
    (collectPending decodeEventValue events (some contractId)).1 =
      (collectPending decodeEventValue events none).1 := by
  have all := @mem_scheduled_contract decodeEventValue contractId events own
  simp only [collectPending]
  congr 1
  rw [List.filter_eq_self]
  intro entry member
  obtain ⟨pair, there, rfl⟩ := List.mem_map.mp member
  exact decide_eq_true (all pair (List.mem_filter.mp there).1)

theorem selected_contract {contractId : String} {event : RpcEvent}
    (chosen : selected (eventFilters contractId queueNames) event = true) :
    event.contractId = contractId := by
  obtain ⟨filter, member, selects⟩ := List.any_eq_true.mp chosen
  obtain ⟨name, _, rfl⟩ := List.mem_map.mp member
  have listed := (Bool.and_eq_true_iff.mp selects).1
  simpa using listed

/-! What a window of the log tells. -/

section Window

variable {codec : Codec} {inputs : List Input} {latest : Nat}
  {opHash : BytesN 32}

/-- A committed call in the window of the listing. -/
structure InWindow (latest : Nat) (env : Env) : Prop where
  first : latest ≤ env.sequence.toNat + defaultPendingWindowLedgers
  last : env.sequence.toNat ≤ latest

theorem mem_ledgerLog {ledger : Nat} {topic : List Val} :
    (ledger, topic) ∈ ledgerLog codec inputs ↔
      ∃ index env call, Commits codec inputs index env call ∧
        env.sequence.toNat = ledger ∧
        ∃ event ∈ (stateBefore codec inputs (index + 1)).events.drop
            (stateBefore codec inputs index).events.length,
          queueTopics event = some topic := by
  simp only [ledgerLog, List.mem_flatMap, List.mem_map, List.mem_filterMap,
    mem_trace, Prod.mk.injEq]
  constructor
  · intro given
    obtain ⟨⟨before, ⟨env, call⟩, reply, after⟩, ⟨index, succeeded, rfl,
      rfl⟩, _, ⟨event, member, reported⟩, same, rfl⟩ := given
    exact ⟨index, env, call, ⟨reply, succeeded⟩, same, event, member,
      reported⟩
  · intro given
    obtain ⟨index, env, call, ⟨reply, succeeded⟩, same, event, member,
      reported⟩ := given
    exact ⟨⟨_, ⟨env, call⟩, reply, _⟩, ⟨index, succeeded, rfl, rfl⟩, topic,
      ⟨event, member, reported⟩, same, rfl⟩

/-- The hashes in what a committed call publishes. -/
theorem published_hashes {index : Nat} {env : Env} {call : Call}
    (committed : Commits codec inputs index env call) :
    ((stateBefore codec inputs (index + 1)).events.drop
        (stateBefore codec inputs index).events.length).filterMap schedules =
        hashScheduled codec call ∧
      ((stateBefore codec inputs (index + 1)).events.drop
        (stateBefore codec inputs index).events.length).filterMap finishes =
        hashFinished codec call := by
  obtain ⟨reply, succeeded⟩ := committed
  have effect := invoke_effect succeeded.2
  obtain ⟨published, extended, _⟩ := effect.logged
  obtain ⟨scheduled, finished⟩ := logged_hashes effect
  rw [scheduledHashes, extended, List.filterMap_append] at scheduled
  rw [finishedHashes, extended, List.filterMap_append] at finished
  rw [extended, List.drop_left]
  exact ⟨List.append_cancel_left scheduled,
    List.append_cancel_left finished⟩

/-- A call in the window reports the hash. -/
def Reported (codec : Codec) (inputs : List Input) (latest : Nat)
    (hashes : Codec → Call → List (BytesN 32)) (opHash : BytesN 32) :
    Prop :=
  ∃ index env call, Commits codec inputs index env call ∧
    InWindow latest env ∧ opHash ∈ hashes codec call

/-- Exactly the events that the listing selects from the log. -/
def IsWindow (contractId : String) (latest : Nat)
    (log events : List RpcEvent) : Prop :=
  ∀ event, event ∈ events ↔ event ∈ log ∧
    selected (eventFilters contractId queueNames) event = true ∧
    firstLedger latest none queueNames ≤ event.ledger ∧
    event.ledger ≤ lastLedger latest none

section Fetched

variable {contractId : String} {log events : List RpcEvent}

theorem exists_fetched (records : Records contractId codec inputs log)
    (fetched : IsWindow contractId latest log events)
    {note : Option (Symbol × String)} :
    (∃ event ∈ events, event.noted = note) ↔
      ∃ index env call, Commits codec inputs index env call ∧
        InWindow latest env ∧
        ∃ event ∈ (stateBefore codec inputs (index + 1)).events.drop
            (stateBefore codec inputs index).events.length,
          ∃ topic, queueTopics event = some topic ∧
            (ofTopics topic).noted = note := by
  have window : ∀ ledger, firstLedger latest none queueNames ≤ ledger ↔
      latest ≤ ledger + defaultPendingWindowLedgers :=
    fun ledger => Nat.sub_le_iff_le_add
  constructor
  · intro given
    obtain ⟨event, member, noted⟩ := given
    obtain ⟨logged, chosen, late, early⟩ := (fetched event).mp member
    have recorded : (event.ledger, event.topic) ∈ ledgerLog codec inputs := by
      rw [← records]
      exact List.mem_map.mpr
        ⟨event, List.mem_filter.mpr ⟨logged, chosen⟩, rfl⟩
    obtain ⟨index, env, call, committed, same, event', published,
      reported⟩ := mem_ledgerLog.mp recorded
    rw [← same] at late early
    exact ⟨index, env, call, committed, ⟨(window _).mp late, early⟩, event',
      published, event.topic, reported, noted⟩
  · intro given
    obtain ⟨index, env, call, committed, inside, event', published, topic,
      reported, noted⟩ := given
    have recorded : (env.sequence.toNat, topic) ∈ ledgerLog codec inputs :=
      mem_ledgerLog.mpr ⟨index, env, call, committed, rfl, event', published,
        reported⟩
    rw [← records] at recorded
    obtain ⟨event, member, same⟩ := List.mem_map.mp recorded
    obtain ⟨logged, chosen⟩ := List.mem_filter.mp member
    obtain ⟨ledger, rfl⟩ := Prod.mk.inj same
    refine ⟨event, (fetched event).mpr ⟨logged, chosen, ?_, ?_⟩, noted⟩
    · rw [ledger]
      exact (window _).mpr inside.first
    · rw [ledger]
      exact inside.last

theorem fetched_scheduled (records : Records contractId codec inputs log)
    (fetched : IsWindow contractId latest log events) :
    (∃ event ∈ events, event.noted = some (opScheduled, hashText opHash)) ↔
      Reported codec inputs latest hashScheduled opHash := by
  rw [exists_fetched records fetched]
  simp only [noted_scheduled, Reported]
  constructor
  · intro given
    obtain ⟨index, env, call, committed, inside, event, published, other,
      scheduled, same⟩ := given
    cases hashText_injective same
    refine ⟨index, env, call, committed, inside, ?_⟩
    rw [← (published_hashes committed).1]
    exact List.mem_filterMap.mpr ⟨event, published, scheduled⟩
  · intro given
    obtain ⟨index, env, call, committed, inside, named⟩ := given
    rw [← (published_hashes committed).1] at named
    obtain ⟨event, published, scheduled⟩ := List.mem_filterMap.mp named
    exact ⟨index, env, call, committed, inside, event, published, opHash,
      scheduled, rfl⟩

theorem fetched_finished (records : Records contractId codec inputs log)
    (fetched : IsWindow contractId latest log events) :
    (∃ event ∈ events, ∃ topic0, topic0 ≠ opScheduled ∧
        event.noted = some (topic0, hashText opHash)) ↔
      Reported codec inputs latest hashFinished opHash := by
  constructor
  · intro given
    obtain ⟨event, member, topic0, other, noted⟩ := given
    obtain ⟨index, env, call, committed, inside, event', published, topic,
      reported, noted'⟩ :=
        (exists_fetched records fetched).mp ⟨event, member, noted⟩
    obtain ⟨found, finished, same⟩ :=
      noted_finished.mp ⟨topic0, other, topic, reported, noted'⟩
    cases hashText_injective same
    refine ⟨index, env, call, committed, inside, ?_⟩
    rw [← (published_hashes committed).2]
    exact List.mem_filterMap.mpr ⟨event', published, finished⟩
  · intro given
    obtain ⟨index, env, call, committed, inside, named⟩ := given
    rw [← (published_hashes committed).2] at named
    obtain ⟨event', published, finished⟩ := List.mem_filterMap.mp named
    obtain ⟨topic0, other, topic, reported, noted⟩ :=
      noted_finished.mpr ⟨opHash, finished, rfl⟩
    obtain ⟨event, member, noted⟩ := (exists_fetched records fetched).mpr
      ⟨index, env, call, committed, inside, event', published, topic,
        reported, noted⟩
    exact ⟨event, member, topic0, other, noted⟩

end Fetched

/-- Through an endpoint that serves the log the listing shows what was
reported scheduled in the window and not reported finished there. -/
theorem listPending_serving {decodeEventValue : String → Decoded}
    {tokenBefore : String → String → Bool} {rpc : Rpc}
    {log : List RpcEvent} {contractId : String} {pageLimit fuel : Nat}
    (serves : rpc.Serves log latest) (chronicle : Chronicle log)
    (records : Records contractId codec inputs log)
    (positive : 0 < pageLimit) (enough : log.length < fuel) :
    ∃ entries, listPending decodeEventValue tokenBefore rpc contractId
        pageLimit fuel = some (.ok entries) ∧
      (hashText opHash ∈ entries.map PendingEntry.opHash ↔
        Reported codec inputs latest hashScheduled opHash ∧
          ¬ Reported codec inputs latest hashFinished opHash) := by
  obtain ⟨events, fetched, window⟩ := @fetchEvents_serving log tokenBefore
    rpc latest pageLimit fuel none none contractId queueNames serves
    chronicle positive enough
  have own : ∀ event ∈ events, event.contractId = contractId := by
    intro event member
    exact selected_contract ((window event).mp member).2.1
  have listed := @mem_pendingHashes decodeEventValue events
    (hashText opHash)
  rw [fetched_scheduled records window, fetched_finished records window,
    pendingHashes, ← collectPending_contract own] at listed
  refine ⟨_, ?_, listed⟩
  rw [listPending, fetched]
  rfl

end Window

/-! Every run in the order of its ledgers has such a log and endpoint. -/

def servedBy (log : List RpcEvent) (latest : Nat) : Rpc where
  latestLedger := .ok latest
  getEvents := fun filters position limit =>
    .ok (((position.rest log).filter (selected filters)).take limit)

def recordedLog (contractId : String) (entries : List (Nat × List Val)) :
    List RpcEvent :=
  entries.zipIdx.map fun entry =>
    { contractId := contractId
      ledger := entry.1.1
      pagingToken := String.ofList (List.replicate entry.2 '0')
      topic := entry.1.2
      value := "" }

theorem chronicle_recordedLog {contractId : String}
    {entries : List (Nat × List Val)}
    (ordered : entries.Pairwise fun left right => left.1 ≤ right.1) :
    Chronicle (recordedLog contractId entries) where
  ordered := by
    rw [recordedLog, List.pairwise_map]
    rw [← List.zipIdx_map_fst 0 entries, List.pairwise_map] at ordered
    exact ordered
  named := by
    have tokens : (recordedLog contractId entries).map
        RpcEvent.pagingToken =
        (entries.zipIdx.map Prod.snd).map fun index =>
          String.ofList (List.replicate index '0') := by
      rw [recordedLog, List.map_map, List.map_map]
      rfl
    rw [tokens, List.zipIdx_map_snd]
    refine List.Nodup.map ?_ (List.nodup_range' 1)
    intro left right same
    have long := congrArg List.length (String.ofList_injective same)
    rwa [List.length_replicate, List.length_replicate] at long

theorem ledgerLog_ordered {codec : Codec} {inputs : List Input}
    (ordered : inputs.Pairwise fun left right =>
      left.env.sequence ≤ right.env.sequence) :
    (ledgerLog codec inputs).Pairwise fun left right =>
      left.1 ≤ right.1 := by
  have called := ordered.sublist
    (@trace_sublist _ _ _ _ (step codec) State.initial inputs)
  rw [List.pairwise_map] at called
  rw [ledgerLog, List.pairwise_flatMap]
  constructor
  · intro call _
    rw [List.pairwise_map]
    exact List.pairwise_of_forall fun _ _ => Nat.le_refl _
  · apply called.imp
    intro left right earlier first member second member'
    obtain ⟨_, _, rfl⟩ := List.mem_map.mp member
    obtain ⟨_, _, rfl⟩ := List.mem_map.mp member'
    exact earlier

theorem selected_queueTopics {contractId : String} {event : Event}
    {topic : List Val} {found : RpcEvent}
    (reported : queueTopics event = some topic)
    (named : found.topic = topic)
    (own : found.contractId = contractId) :
    selected (eventFilters contractId queueNames) found = true := by
  cases event with
  | opScheduled | opExecuted | opCancelled | opCancelledBatch =>
      cases reported
      simp [selected, eventFilters, queueNames, EventFilter.selects,
        extractTopicSymbols, named, own, decodeSymbol]
  | _ => cases reported

theorem records_recordedLog {codec : Codec} {inputs : List Input}
    (contractId : String) :
    Records contractId codec inputs
      (recordedLog contractId (ledgerLog codec inputs)) := by
  have all : ∀ event ∈ recordedLog contractId (ledgerLog codec inputs),
      selected (eventFilters contractId queueNames) event = true := by
    intro event member
    obtain ⟨⟨⟨ledger, topic⟩, _⟩, there, rfl⟩ := List.mem_map.mp member
    have logged : (ledger, topic) ∈ ledgerLog codec inputs := by
      rw [← List.zipIdx_map_fst 0 (ledgerLog codec inputs)]
      exact List.mem_map.mpr ⟨_, there, rfl⟩
    obtain ⟨_, _, _, _, _, event, _, reported⟩ := mem_ledgerLog.mp logged
    exact selected_queueTopics reported rfl rfl
  rw [Records, List.filter_eq_self.mpr all, recordedLog, List.map_map]
  exact List.zipIdx_map_fst 0 _

/-- In such a run the listing is what the window reports. -/
theorem lists_iff {codec : Codec} {inputs : List Input} {latest : Nat}
    {opHash : BytesN 32}
    (ordered : inputs.Pairwise fun left right =>
      left.env.sequence ≤ right.env.sequence) :
    Lists codec inputs latest opHash ↔
      Reported codec inputs latest hashScheduled opHash ∧
        ¬ Reported codec inputs latest hashFinished opHash := by
  constructor
  · intro lists
    have chronicle := @chronicle_recordedLog "" _
      (@ledgerLog_ordered codec _ ordered)
    have records := @records_recordedLog codec inputs ""
    let log := recordedLog "" (ledgerLog codec inputs)
    have serves : (servedBy log latest).Serves log latest :=
      ⟨rfl, fun _ _ _ => rfl⟩
    obtain ⟨entries, listed, shown⟩ := lists (fun _ => .none)
      (fun _ _ => true) _ _ "" 1 (log.length + 1) serves chronicle records
      Nat.one_pos (Nat.lt_succ_self _)
    obtain ⟨entries', listed', found⟩ := @listPending_serving codec inputs
      latest opHash (fun _ => .none) (fun _ _ => true) _ _ "" 1
      (log.length + 1) serves chronicle records Nat.one_pos
      (Nat.lt_succ_self _)
    cases listed.symm.trans listed'
    exact found.mp shown
  · intro reported decodeEventValue tokenBefore rpc log contractId pageLimit
      fuel serves chronicle records positive enough
    obtain ⟨entries, listed, found⟩ := listPending_serving serves chronicle
      records positive enough
    exact ⟨entries, listed, found.mpr reported⟩

/-! Operations that wait. -/

/-- The calls come in the order of their ledgers, at the times at which these
close. -/
structure Timely (closed : Nat → Nat) (inputs : List Input) : Prop where
  ordered : inputs.Pairwise fun left right =>
    left.env.sequence ≤ right.env.sequence
  timed : ∀ input ∈ inputs,
    input.env.timestamp.toNat = closed input.env.sequence.toNat

theorem Timely.here {closed : Nat → Nat} {past rest : List Input}
    {input : Input} (timely : Timely closed (past ++ input :: rest)) :
    input.env.timestamp.toNat = closed input.env.sequence.toNat :=
  timely.timed input (List.mem_append_right past List.mem_cons_self)

theorem Timely.le_last {closed : Nat → Nat} {past : List Input}
    {input last : Input} (timely : Timely closed (past ++ [last]))
    (member : input ∈ past ++ [last]) :
    input.env.sequence.toNat ≤ last.env.sequence.toNat := by
  rcases List.mem_append.mp member with before | same
  · exact UInt32.le_iff_toNat_le.mp ((List.pairwise_append.mp
      timely.ordered).2.2 input before last (List.mem_singleton_self _))
  · cases List.mem_singleton.mp same
    exact Nat.le_refl _

/-- A moment at which what was scheduled after `past` still waits: `rest` has
been called since, and `latest` has closed. -/
structure Waits (codec : Codec) (closed : Nat → Nat) (past : List Input)
    (scheduling : Input) (operation : Operation) (executeAt : Nat)
    (rest : List Input) (latest : Nat) : Prop where
  timely : Timely closed (past ++ scheduling :: rest)
  current : ∀ input ∈ past ++ scheduling :: rest,
    input.env.sequence.toNat ≤ latest
  spared : ∀ index env call, past.length < index →
    Commits codec (past ++ scheduling :: rest) index env call →
    call.timelock.consumes operation = false
  early : closed latest ≤ executeAt

section Waiting

variable {codec : Codec} {past later : List Input} {index : Nat}

theorem commits_append_left {env : Env} {call : Call}
    (earlier : index < past.length) :
    Commits codec (past ++ later) index env call ↔
      Commits codec past index env call :=
  exists_congr fun _ => succeeds_append_left earlier

end Waiting

section Scheduled

variable {codec : Codec} {closed : Nat → Nat} {past rest : List Input}
  {env : Env} {signers : List Address} {operation : Operation}
  {executeIn : UInt64} {executeAt latest : Nat}

theorem commits_schedule
    (accepted : (invoke codec env (.schedule signers operation executeIn)
      (run (step codec) State.initial past)).isOk = true) :
    Commits codec (past ++ ⟨env, .schedule signers operation executeIn⟩ ::
      rest) past.length env (.schedule signers operation executeIn) := by
  apply commits_of_accepted (by simp)
  rw [stateBefore, stateAt_append_left (Nat.le_refl _),
    stateAt_of_length_le (Nat.le_refl _)]
  exact accepted

theorem Waits.queued
    (waits : Waits codec closed past
      ⟨env, .schedule signers operation executeIn⟩ operation executeAt rest
      latest)
    (injective : Function.Injective codec.toXdr)
    (accepted : (invoke codec env (.schedule signers operation executeIn)
      (run (step codec) State.initial past)).isOk = true)
    {index : Nat} (later : past.length < index) :
    ∃ slot, Queued codec (stateBefore codec
      (past ++ ⟨env, .schedule signers operation executeIn⟩ :: rest) index)
        operation slot := by
  obtain ⟨reply, scheduled⟩ := @commits_schedule codec past rest env signers
    operation executeIn accepted
  obtain ⟨_, slot, queued, _⟩ := schedule_queues scheduled.2
  refine ⟨slot, stateAt_kept
    (fun state : State => Queued codec state operation slot)
    (Nat.succ_le_of_lt later) ?_ queued⟩
  intro between input reply' from' to' ran held
  exact held.kept injective ran.2
    (waits.spared between input.env input.call from' ⟨reply', ran⟩)

theorem hashFinished_cases {call : Call} {opHash : BytesN 32}
    (finished : opHash ∈ hashFinished codec call) :
    ∃ other, codec.hash other = opHash ∧ call.names other = true ∧
      call.timelock.consumes other = true := by
  cases call with
  | execute executor other | cancel signers other =>
      refine ⟨other, (List.mem_singleton.mp finished).symm, ?_, ?_⟩
      · exact decide_eq_true rfl
      · exact decide_eq_true rfl
  | _ => cases finished

/-- While the operation waits nothing reports its hash as finished. -/
theorem Waits.unfinished
    (waits : Waits codec closed past
      ⟨env, .schedule signers operation executeIn⟩ operation executeAt rest
      latest)
    (injective : Function.Injective codec.toXdr)
    (accepted : (invoke codec env (.schedule signers operation executeIn)
      (run (step codec) State.initial past)).isOk = true)
    {index : Nat} {env' : Env} {call : Call}
    (since : past.length ≤ index)
    (committed : Commits codec
      (past ++ ⟨env, .schedule signers operation executeIn⟩ :: rest) index
      env' call) :
    codec.hash operation ∉ hashFinished codec call := by
  intro finished
  rcases Nat.lt_or_eq_of_le since with later | rfl
  · obtain ⟨slot, queued⟩ := waits.queued injective accepted later
    obtain ⟨other, collides, named, consumes⟩ := hashFinished_cases finished
    have spared := waits.spared index env' call later committed
    obtain ⟨reply, succeeded⟩ := committed
    have same := (invoke_effect succeeded.2).queueStep.names_occupant
      injective queued collides named
    subst same
    rw [spared] at consumes
    cases consumes
  · obtain ⟨_, rfl⟩ := committed.unique (commits_schedule accepted)
    cases finished

/-- No operation of the hash was executed or cancelled in the window just
before. -/
def Unfinished (codec : Codec) (past : List Input) (env : Env)
    (opHash : BytesN 32) : Prop :=
  ∀ index earlier call, Commits codec past index earlier call →
    opHash ∈ hashFinished codec call →
    earlier.sequence.toNat + defaultPendingWindowLedgers <
      env.sequence.toNat

theorem Waits.lists
    (waits : Waits codec closed past
      ⟨env, .schedule signers operation executeIn⟩ operation
      (env.timestamp.toNat + executeIn.toNat) rest latest)
    (injective : Function.Injective codec.toXdr) (steady : Steady 5 closed)
    (accepted : (invoke codec env (.schedule signers operation executeIn)
      (run (step codec) State.initial past)).isOk = true)
    (short : executeIn.toNat < 5 * (defaultPendingWindowLedgers + 1))
    (unfinished : Unfinished codec past env (codec.hash operation)) :
    Lists codec
      (past ++ ⟨env, .schedule signers operation executeIn⟩ :: rest) latest
      (codec.hash operation) := by
  have current : env.sequence.toNat ≤ latest :=
    waits.current ⟨env, .schedule signers operation executeIn⟩ (by simp)
  have timed : env.timestamp.toNat = closed env.sequence.toNat :=
    waits.timely.here
  have early := waits.early
  rw [timed, steady.closed_of_le current] at early
  rw [lists_iff waits.timely.ordered]
  constructor
  · exact ⟨past.length, env, _, commits_schedule accepted,
      ⟨by omega, current⟩, List.mem_singleton_self _⟩
  · intro reported
    obtain ⟨index, env', call, committed, inside, finished⟩ := reported
    rcases Nat.lt_or_ge index past.length with earlier | since
    · have before := unfinished index env' call
        ((commits_append_left earlier).mp committed) finished
      have first := inside.first
      omega
    · exact waits.unfinished injective accepted since committed finished

/-- The moments before anything else is called. -/
theorem waits_alone
    (timely : Timely closed
      (past ++ [⟨env, .schedule signers operation executeIn⟩]))
    (since : env.sequence.toNat ≤ latest)
    (early : closed latest ≤ executeAt) :
    Waits codec closed past ⟨env, .schedule signers operation executeIn⟩
      operation executeAt [] latest where
  timely := timely
  current := by
    intro input member
    exact Nat.le_trans (timely.le_last member) since
  spared := by
    intro index env' call later committed
    obtain ⟨_, here, _⟩ := committed
    have bound := (List.getElem?_eq_some_iff.mp here).1
    simp only [List.length_append, List.length_singleton] at bound
    omega
  early := early

/-- A delay that outlasts the window ends in it without a trace. -/
theorem hidden_of_long
    (timely : Timely closed
      (past ++ [⟨env, .schedule signers operation executeIn⟩]))
    (steady : Steady 5 closed)
    (long : 5 * (defaultPendingWindowLedgers + 1) ≤ executeIn.toNat) :
    Waits codec closed past ⟨env, .schedule signers operation executeIn⟩
        operation (env.timestamp.toNat + executeIn.toNat) []
        (env.sequence.toNat + (defaultPendingWindowLedgers + 1)) ∧
      ¬ Lists codec (past ++ [⟨env, .schedule signers operation executeIn⟩])
        (env.sequence.toNat + (defaultPendingWindowLedgers + 1))
        (codec.hash operation) := by
  have timed : env.timestamp.toNat = closed env.sequence.toNat :=
    timely.here
  have waits : Waits codec closed past
      ⟨env, .schedule signers operation executeIn⟩ operation
      (env.timestamp.toNat + executeIn.toNat) []
      (env.sequence.toNat + (defaultPendingWindowLedgers + 1)) := by
    apply waits_alone timely (Nat.le_add_right _ _)
    rw [timed, steady.elapsed]
    exact Nat.add_le_add_left long _
  refine ⟨waits, ?_⟩
  rw [lists_iff timely.ordered]
  intro given
  obtain ⟨⟨index, env', call, ⟨_, here, _⟩, inside, _⟩, _⟩ := given
  have first := inside.first
  have before : env'.sequence.toNat ≤ env.sequence.toNat :=
    timely.le_last (List.mem_of_getElem? here)
  omega

/-- A hash that was finished in the window hides what is scheduled behind it
again. -/
theorem hidden_of_finished
    (timely : Timely closed
      (past ++ [⟨env, .schedule signers operation executeIn⟩]))
    (lists : Lists codec
      (past ++ [⟨env, .schedule signers operation executeIn⟩])
      env.sequence.toNat (codec.hash operation)) :
    Unfinished codec past env (codec.hash operation) := by
  rw [lists_iff timely.ordered] at lists
  intro index earlier call committed finished
  apply Nat.lt_of_not_le
  intro recent
  apply lists.2
  have here := committed.choose_spec.1
  have bound := (List.getElem?_eq_some_iff.mp here).1
  have before : earlier.sequence.toNat ≤ env.sequence.toNat :=
    timely.le_last (List.mem_append_left _ (List.mem_of_getElem? here))
  exact ⟨index, earlier, call, (commits_append_left bound).mpr committed,
    ⟨recent, before⟩, finished⟩

end Scheduled

/-- Where ledgers close every five seconds, the default listing shows a
scheduled operation at every moment of its wait exactly when the delay is
shorter than 750005 seconds and its hash was not finished in the window just
before. -/
theorem default_listing_shows_iff (codec : Codec)
    (injective : Function.Injective codec.toXdr) (closed : Nat → Nat)
    (steady : Steady 5 closed) (past : List Input) (env : Env)
    (signers : List Address) (operation : Operation) (executeIn : UInt64)
    (timely : Timely closed
      (past ++ [⟨env, .schedule signers operation executeIn⟩]))
    (accepted : (invoke codec env (.schedule signers operation executeIn)
      (run (step codec) State.initial past)).isOk = true) :
    (∀ rest latest,
      Waits codec closed past ⟨env, .schedule signers operation executeIn⟩
        operation (env.timestamp.toNat + executeIn.toNat) rest latest →
      Lists codec
        (past ++ ⟨env, .schedule signers operation executeIn⟩ :: rest)
        latest (codec.hash operation)) ↔
      executeIn.toNat < 750005 ∧
        Unfinished codec past env (codec.hash operation) := by
  constructor
  · intro lists
    constructor
    · apply Nat.lt_of_not_le
      intro long
      obtain ⟨waits, hidden⟩ := @hidden_of_long codec closed past env signers
        operation executeIn timely steady long
      exact hidden (lists _ _ waits)
    · apply hidden_of_finished timely
      have timed : env.timestamp.toNat = closed env.sequence.toNat :=
        timely.here
      apply lists [] _ (waits_alone timely (Nat.le_refl _) _)
      rw [← timed]
      exact Nat.le_add_right _ _
  · intro given rest latest waits
    exact waits.lists injective steady accepted given.1 given.2

theorem sampleMonthRun_timely : Timely (5 * ·) sampleMonthRun where
  ordered := by
    simp [sampleMonthRun, sampleOpening, Env.closing]
  timed := by
    intro input member
    simp only [sampleMonthRun, sampleOpening, List.cons_append,
      List.nil_append, List.mem_cons, List.not_mem_nil, or_false] at member
    rcases member with rfl | rfl <;> rfl

theorem default_listing_shows_iff_sample :
    (∀ rest latest,
      Waits sampleCodec (5 * ·) sampleOpening
        ⟨.closing 20, .schedule [.account 1] sampleOperation 2592000⟩
        sampleOperation 2592100 rest latest →
      Lists sampleCodec
        (sampleOpening ++
          ⟨.closing 20, .schedule [.account 1] sampleOperation 2592000⟩ ::
            rest)
        latest (sampleCodec.hash sampleOperation)) ↔
      2592000 < 750005 ∧
        Unfinished sampleCodec sampleOpening (.closing 20)
          (sampleCodec.hash sampleOperation) :=
  default_listing_shows_iff sampleCodec Operation.toXdr_injective (5 * ·)
    (fun _ => rfl) sampleOpening (.closing 20) [.account 1] sampleOperation
    2592000 sampleMonthRun_timely (by decide)

/-- Scheduled once, with the longest delay, and out of sight when 150001
ledgers have closed since: three weeks before it may run. -/
theorem waiting_operation_hidden :
    (invoke sampleCodec (.closing 20)
        (.schedule [.account 1] sampleOperation 2592000)
        (run (step sampleCodec) State.initial sampleOpening)).isOk = true ∧
      Waits sampleCodec (5 * ·) sampleOpening
        ⟨.closing 20, .schedule [.account 1] sampleOperation 2592000⟩
        sampleOperation 2592100 [] 150021 ∧
      ¬ Lists sampleCodec sampleMonthRun 150021
        (sampleCodec.hash sampleOperation) :=
  ⟨by decide, hidden_of_long sampleMonthRun_timely (fun _ => rfl)
    (by decide)⟩

end BettaPay.Scripts
