import BettaPay.Scripts.Export
import BettaPay.Settlement.EventWire
import BettaPay.Settlement.Journal

namespace BettaPay.Scripts.Wire

open BettaPay.Host
open BettaPay.Common
open BettaPay.Settlement

/-! The listing of pending operations on what the chain reports, as text. -/

/-- What `decode_symbol` makes of a topic; the void value where it fails. -/
def symbolTopic (tag : Nat) (topic : String) : Val :=
  match decodeSymbolAs tag topic with
  | .ok name => .symbol name
  | .error _ => .void

/-- What `decode_bytes_n` makes of it. -/
def bytesTopic (tag : Nat) (topic : String) : Val :=
  match readTopic topic (taggedBytes tag fun _ => .notBytes) with
  | .ok payload => .bytes payload
  | .error _ => .void

section Listing

variable (symbolTag bytesTag : Nat) (decodeEventValue : String → Decoded)

/-- The first topic is read as a name and the second as a hash. -/
def readTopics : List String → List Val
  | [] => []
  | topic0 :: rest =>
      symbolTopic symbolTag topic0 :: rest.map (bytesTopic bytesTag)

def readResponse (event : ResponseEvent) : RpcEvent where
  contractId := event.contractId.getD ""
  ledger := event.ledger.getD 0
  pagingToken := event.pagingToken.getD ""
  topic := readTopics symbolTag bytesTag event.topic
  value := event.value.getD ""

/-- `collect_pending` on the events of a response. -/
def collectResponses (events : List ResponseEvent)
    (contractId : Option String) : List PendingEntry × Nat × Nat :=
  collectPending decodeEventValue
    (events.map (readResponse symbolTag bytesTag)) contractId

/-- `cmd_pending` on an endpoint: the entries, and how many events it
counted. -/
def cmdPending (tokenBefore : String → String → Bool)
    (closedAt : Nat → String) (rpc : Rpc)
    (startLedger endLedger : Option Nat) (contractId : String)
    (pageLimit fuel : Nat) :
    Option (Except String (List PendingEntry × Nat × Nat)) :=
  (fetchEvents tokenBefore rpc startLedger endLedger contractId queueNames
    pageLimit fuel).map fun fetched => fetched.map fun fetched =>
      collectResponses symbolTag bytesTag decodeEventValue
        (fetched.events.map (respond closedAt)) (some contractId)

end Listing

/-! An endpoint compares the text of topics. -/

def selectedText (symbolTag : Nat) (filters : List Scripts.EventFilter)
    (event : RpcEvent) : Bool :=
  filters.any fun filter =>
    event.contractId ∈ filter.contractIds &&
      (filter.topic.isEmpty ||
        (event.topic.map chainText).head? =
          (filter.topic.map (encodeSymbolAs symbolTag)).head?)

structure ServesText (symbolTag : Nat) (rpc : Rpc) (log : List RpcEvent)
    (latest : Nat) : Prop where
  latestLedger : rpc.latestLedger = .ok latest
  getEvents : ∀ filters position limit,
    rpc.getEvents filters position limit =
      .ok (((position.rest log).filter
        (selectedText symbolTag filters)).take limit)

/-- The events of the contract are some that a run of it published. -/
def Publishes (codec : Codec) (inputs : List Input) (contractId : String)
    (log : List RpcEvent) : Prop :=
  ∀ event ∈ log, event.contractId = contractId →
    ∃ told ∈ (run (step codec) State.initial inputs).events,
      event.topic = told.topics

section Blind

variable {contractId : String} {log : List RpcEvent} {event : RpcEvent}
  {symbol : Symbol}

theorem selectedText_named {names : List Symbol} (asked : names ≠ [])
    (named : event.contractId = contractId →
      event.topic.head? = some (.symbol symbol)) :
    selectedText scvalSymbol (eventFilters contractId names) event =
      false := by
  rw [selectedText, List.any_eq_false]
  intro filter sent
  cases names with
  | nil => exact absurd rfl asked
  | cons first rest =>
      obtain ⟨name, _, rfl⟩ := List.mem_map.mp sent
      simp only [List.mem_singleton, List.isEmpty_cons, Bool.false_or,
        List.map_cons, List.map_nil, List.head?_cons, Bool.and_eq_true,
        decide_eq_true_eq, not_and]
      intro own
      rw [List.head?_map, named own]
      exact fun same => encodeSymbol_ne_chainText name symbol
        (Option.some.inj same).symm

/-- An event whose name is a symbol of the chain tells the script nothing. -/
theorem noted_named {closedAt : Nat → String}
    (named : event.topic.head? = some (.symbol symbol)) :
    (readResponse scvalSymbol scvalBytes (respond closedAt event)).noted =
      none := by
  obtain ⟨rest, same⟩ := List.head?_eq_some_iff.mp named
  have unread : symbolTopic scvalSymbol (chainText (.symbol symbol)) =
      .void := by
    rw [symbolTopic]
    change (match decodeSymbol _ with | .ok name => _ | .error _ => _) = _
    rw [decodeSymbol_symbol]
  simp [RpcEvent.noted, Scripts.extractTopicSymbols, readResponse, respond,
    same, readTopics, unread, Scripts.decodeSymbol]

theorem foldl_collect_silent {decodeEventValue : String → Decoded}
    {events : List RpcEvent} (silent : ∀ event ∈ events, event.noted = none)
    (collected : Collected) :
    events.foldl (collect decodeEventValue) collected = collected := by
  induction events with
  | nil => rfl
  | cons event rest induction =>
      rw [List.foldl_cons, collect_eq, silent event List.mem_cons_self]
      exact induction fun other listed =>
        silent other (List.mem_cons_of_mem _ listed)

theorem collectResponses_silent {decodeEventValue : String → Decoded}
    {symbolTag bytesTag : Nat} {events : List ResponseEvent}
    (silent : ∀ event ∈ events,
      (readResponse symbolTag bytesTag event).noted = none) :
    collectResponses symbolTag bytesTag decodeEventValue events
      (some contractId) = ([], 0, 0) := by
  rw [collectResponses, collectPending, foldl_collect_silent]
  · simp
  · intro event listed
    obtain ⟨response, member, rfl⟩ := List.mem_map.mp listed
    exact silent response member

theorem told_named {codec : Codec} {inputs : List Input}
    (publishes : Publishes codec inputs contractId log)
    (listed : event ∈ log) (own : event.contractId = contractId) :
    ∃ told : Event, event.topic = told.topics ∧
      event.topic.head? = some (.symbol told.name) := by
  obtain ⟨told, _, same⟩ := publishes event listed own
  refine ⟨told, same, ?_⟩
  rw [same]
  rfl

/-- A first page without events ends the paging. -/
theorem fetchEvents_nothing {tokenBefore : String → String → Bool}
    {rpc : Rpc} {latest pageLimit fuel : Nat}
    {startLedger endLedger : Option Nat} {names : List Symbol}
    (reached : rpc.latestLedger = .ok latest)
    (nothing : rpc.getEvents (eventFilters contractId names)
      (.startLedger (firstLedger latest startLedger names)) pageLimit =
        .ok []) (some_page : 0 < fuel) :
    fetchEvents tokenBefore rpc startLedger endLedger contractId names
        pageLimit fuel =
      some (.ok ⟨[], firstLedger latest startLedger names,
        lastLedger latest endLedger⟩) := by
  obtain ⟨pages, rfl⟩ := Nat.exists_eq_succ_of_ne_zero
    (Nat.ne_of_gt some_page)
  simp [fetchEvents, reached, fetchPages, nothing, Except.map]

end Blind

/-! With the discriminants of the chain the text says what it should. -/

section Sighted

variable {contractId : String} {log : List RpcEvent} {event : RpcEvent}

theorem eventName (told : Event) :
    ∃ symbol : ScSymbol, symbol.text = told.name :=
  ⟨⟨told.name, allEventTopics_short _ told.name_mem,
    allEventTopics_plain _ told.name_mem⟩, rfl⟩

theorem queueName {name : Symbol} (listed : name ∈ queueNames) :
    ∃ symbol : ScSymbol, symbol.text = name := by
  have known : name ∈ allEventTopics := by
    simp only [queueNames, List.mem_cons, List.not_mem_nil, or_false]
      at listed
    rcases listed with rfl | rfl | rfl <;> decide
  exact ⟨⟨name, allEventTopics_short _ known, allEventTopics_plain _ known⟩,
    rfl⟩

theorem encodeSymbolAs_eq_chainText (name told : ScSymbol) :
    chainText (.symbol told.text) = encodeSymbolAs 15 name.text ↔
      told.text = name.text := by
  have encoded : encodeSymbolAs 15 name.text =
      chainText (.symbol name.text) := encodeSymbolAs_eq 15 name
  rw [encoded]
  constructor
  · intro same
    have read := decodeSymbolAs_symbol told
    rw [same, decodeSymbolAs_symbol name] at read
    exact (Except.ok.inj read).symm
  · exact fun same => by rw [same]

theorem selectedText_published
    (published : event.contractId = contractId →
      ∃ told : Event, event.topic = told.topics) :
    selectedText 15 (eventFilters contractId queueNames) event =
      selected (eventFilters contractId queueNames) event := by
  have each : ∀ filter ∈ eventFilters contractId queueNames,
      (event.contractId ∈ filter.contractIds &&
        (filter.topic.isEmpty ||
          (event.topic.map chainText).head? =
            (filter.topic.map (encodeSymbolAs 15)).head?)) =
        filter.selects event := by
    intro filter sent
    obtain ⟨name, listed, rfl⟩ := List.mem_map.mp sent
    by_cases own : event.contractId = contractId
    · obtain ⟨told, same⟩ := published own
      obtain ⟨symbol, text⟩ := queueName listed
      obtain ⟨symbol', text'⟩ := eventName told
      have alike := encodeSymbolAs_eq_chainText symbol symbol'
      rw [text, text'] at alike
      simp [Scripts.EventFilter.selects, Scripts.extractTopicSymbols,
        Scripts.decodeSymbol, same, Event.topics, alike]
    · simp [Scripts.EventFilter.selects, own]
  rw [selectedText, selected, Bool.eq_iff_iff, List.any_eq_true,
    List.any_eq_true]
  apply exists_congr
  intro filter
  apply and_congr_right
  intro sent
  rw [each filter sent]

theorem symbolTopic_symbol (symbol : ScSymbol) :
    symbolTopic 15 (chainText (.symbol symbol.text)) =
      .symbol symbol.text := by
  rw [symbolTopic, decodeSymbolAs_symbol]

theorem bytesTopic_bytes {bytes : Bytes} (short : bytes.length < 2 ^ 32) :
    bytesTopic 13 (chainText (.bytes bytes)) = .bytes bytes := by
  rw [bytesTopic, chainText, readTopic_b64encode, Val.toXdr,
    Val.discriminant, Val.body, ← List.append_nil (Xdr.padded _),
    taggedBytes_padded (by decide) short]

/-- An event about the queue is read from its text as it was. -/
theorem readResponse_published {closedAt : Nat → String} {told : Event}
    (same : event.topic = told.topics) (queue : told.name ∈ queueNames) :
    readResponse 15 13 (respond closedAt event) = event := by
  obtain ⟨symbol, named⟩ := eventName told
  have first : symbolTopic 15 (chainText (.symbol told.name)) =
      .symbol told.name := by
    rw [← named, symbolTopic_symbol]
  have hash : ∀ opHash : BytesN 32,
      bytesTopic 13 (chainText (.ofBytesN opHash)) = .ofBytesN opHash := by
    intro opHash
    apply bytesTopic_bytes
    rw [Xdr.length_fixed]
    decide
  have topics : readTopics 15 13 (told.topics.map chainText) =
      told.topics := by
    rw [Event.topics, List.map_cons, readTopics, first]
    cases told with
    | opScheduled opHash | opExecuted opHash | opCancelled opHash =>
        simp [Event.keys, hash]
    | opCancelledBatch => rfl
    | _ =>
        simp only [Event.name] at queue
        exact absurd queue (by decide)
  rw [readResponse, respond]
  simp only [Option.getD_some, same, topics]
  rw [← same]

theorem queue_of_selected {told : Event} (same : event.topic = told.topics)
    (chosen : selected (eventFilters contractId queueNames) event = true) :
    told.name ∈ queueNames := by
  obtain ⟨filter, sent, selects⟩ := List.any_eq_true.mp chosen
  obtain ⟨name, listed, rfl⟩ := List.mem_map.mp sent
  have named : told.name = name := by
    simpa [Scripts.EventFilter.selects, Scripts.extractTopicSymbols,
      Scripts.decodeSymbol, same, Event.topics] using
      (Bool.and_eq_true_iff.mp selects).2
  rwa [named]

theorem mem_rest {position : Position} (listed : event ∈ position.rest log) :
    event ∈ log := by
  cases position with
  | startLedger ledger => exact (List.mem_filter.mp listed).1
  | cursor token =>
      exact (List.dropWhile_sublist _).mem (List.mem_of_mem_tail listed)

theorem fetchPages_congr {rpc rpc' : Rpc}
    {filters : List Scripts.EventFilter}
    {pageLimit endLedger : Nat}
    (alike : ∀ position, rpc.getEvents filters position pageLimit =
      rpc'.getEvents filters position pageLimit) (fuel : Nat)
    (position : Position) (events : List RpcEvent) :
    fetchPages rpc filters pageLimit endLedger fuel position events =
      fetchPages rpc' filters pageLimit endLedger fuel position events := by
  induction fuel generalizing position events with
  | zero => rfl
  | succ fuel induction =>
      rw [fetchPages, fetchPages, alike]
      simp only [induction]

/-- Such an endpoint gives the script what one that compares the decoded
topics would. -/
theorem fetchEvents_text {codec : Codec} {inputs : List Input}
    {tokenBefore : String → String → Bool} {rpc : Rpc}
    {latest pageLimit fuel : Nat} {startLedger endLedger : Option Nat}
    (serves : ServesText 15 rpc log latest)
    (publishes : Publishes codec inputs contractId log) :
    fetchEvents tokenBefore rpc startLedger endLedger contractId queueNames
        pageLimit fuel =
      fetchEvents tokenBefore (servedBy log latest) startLedger endLedger
        contractId queueNames pageLimit fuel := by
  have alike : ∀ position,
      rpc.getEvents (eventFilters contractId queueNames) position pageLimit =
        (servedBy log latest).getEvents (eventFilters contractId queueNames)
          position pageLimit := by
    intro position
    rw [serves.getEvents, servedBy]
    congr 2
    apply List.filter_congr
    intro event listed
    apply selectedText_published
    intro own
    obtain ⟨told, _, same⟩ := publishes event (mem_rest listed) own
    exact ⟨told, same⟩
  rw [fetchEvents, fetchEvents, serves.latestLedger, servedBy]
  simp only
  rw [fetchPages_congr alike]
  rfl

end Sighted

/-- `cmd_pending` where topics are the values they decode to. -/
def listDecoded (decodeEventValue : String → Decoded)
    (tokenBefore : String → String → Bool) (rpc : Rpc)
    (startLedger endLedger : Option Nat) (contractId : String)
    (pageLimit fuel : Nat) :
    Option (Except String (List PendingEntry × Nat × Nat)) :=
  (fetchEvents tokenBefore rpc startLedger endLedger contractId queueNames
    pageLimit fuel).map fun fetched => fetched.map fun fetched =>
      collectPending decodeEventValue fetched.events (some contractId)

/-- Whatever a run has put on the queue, the listing finds nothing pending,
and has not counted a single event, through an endpoint or in a saved
response. Its two discriminants are all that is wrong: with those of the chain
it finds in the same texts what it would in the decoded topics. -/
theorem pending_listing_blind {codec : Codec} {inputs : List Input}
    {decodeEventValue : String → Decoded}
    {tokenBefore : String → String → Bool} {closedAt : Nat → String}
    {log : List RpcEvent} {latest pageLimit fuel : Nat}
    {startLedger endLedger : Option Nat} {contractId : String}
    (publishes : Publishes codec inputs contractId log)
    (chronicle : Chronicle log) (positive : 0 < pageLimit)
    (enough : log.length < fuel) :
    (∀ rpc, ServesText scvalSymbol rpc log latest →
      cmdPending scvalSymbol scvalBytes decodeEventValue tokenBefore closedAt
        rpc startLedger endLedger contractId pageLimit fuel =
          some (.ok ([], 0, 0))) ∧
    collectResponses scvalSymbol scvalBytes decodeEventValue
        ((log.filter fun event => event.contractId = contractId).map
          (respond closedAt)) (some contractId) = ([], 0, 0) ∧
    ∀ rpc, ServesText 15 rpc log latest →
      cmdPending 15 13 decodeEventValue tokenBefore closedAt rpc startLedger
        endLedger contractId pageLimit fuel =
          listDecoded decodeEventValue tokenBefore (servedBy log latest)
            startLedger endLedger contractId pageLimit fuel := by
  refine ⟨?_, ?_, ?_⟩
  · intro rpc serves
    have nothing : rpc.getEvents (eventFilters contractId queueNames)
        (.startLedger (firstLedger latest startLedger queueNames))
        pageLimit = .ok [] := by
      rw [serves.getEvents, List.filter_eq_nil_iff.mpr, List.take_nil]
      intro event listed
      rw [Bool.not_eq_true]
      by_cases own : event.contractId = contractId
      · obtain ⟨told, _, named⟩ := told_named publishes (mem_rest listed) own
        exact selectedText_named nofun fun _ => named
      · exact @selectedText_named contractId event "" queueNames nofun
          fun same => absurd same own
    rw [cmdPending, fetchEvents_nothing serves.latestLedger nothing
      (Nat.lt_of_le_of_lt (Nat.zero_le _) enough)]
    have empty := @collectResponses_silent contractId decodeEventValue
      scvalSymbol scvalBytes [] (by simp)
    exact congrArg (fun found => some (Except.ok found)) empty
  · apply collectResponses_silent
    intro response listed
    obtain ⟨event, member, rfl⟩ := List.mem_map.mp listed
    obtain ⟨logged, own⟩ := List.mem_filter.mp member
    obtain ⟨told, _, named⟩ :=
      told_named publishes logged (of_decide_eq_true own)
    exact noted_named named
  · intro rpc serves
    obtain ⟨events, fetched, window⟩ := @fetchEvents_serving log tokenBefore
      (servedBy log latest) latest pageLimit fuel startLedger endLedger
      contractId queueNames ⟨rfl, fun _ _ _ => rfl⟩ chronicle positive enough
    rw [cmdPending, listDecoded, fetchEvents_text serves publishes, fetched]
    have same : events.map (fun event =>
        readResponse 15 13 (respond closedAt event)) = events := by
      rw [List.map_congr_left, List.map_id]
      intro event member
      obtain ⟨logged, chosen, _⟩ := (window event).mp member
      obtain ⟨told, same, _⟩ :=
        told_named publishes logged (selected_contract chosen)
      exact readResponse_published same (queue_of_selected same chosen)
    simp only [Option.map_some, Except.map, collectResponses, List.map_map,
      Function.comp_def, same]

def servedText (log : List RpcEvent) (latest : Nat) : Rpc where
  latestLedger := .ok latest
  getEvents := fun filters position limit =>
    .ok (((position.rest log).filter
      (selectedText scvalSymbol filters)).take limit)

/-- An operation is waiting. -/
def waitingRun : List Input :=
  [sampleFounding, ⟨.granting 200, .schedule [.account 1] sampleOperation
    604800⟩]

def waitingEvent : Event :=
  .opScheduled (sampleCodec.hash sampleOperation) (.account 1) 605000

set_option maxRecDepth 4000 in
theorem pending_listing_blind_sample :
    (run (step sampleCodec) State.initial
      waitingRun).readPendingOperationCount = 1 ∧
    cmdPending scvalSymbol scvalBytes (fun _ => .none) (fun _ _ => true)
      toString (servedText (recordedLog "C" [(5, waitingEvent.topics)]) 20)
      none none "C" 2 4 = some (.ok ([], 0, 0)) := by
  have published : (run (step sampleCodec) State.initial
      waitingRun).events = [waitingEvent] := by decide
  have publishes : Publishes sampleCodec waitingRun "C"
      (recordedLog "C" [(5, waitingEvent.topics)]) := by
    intro event listed _
    refine ⟨waitingEvent, ?_, ?_⟩
    · rw [published]
      exact List.mem_singleton_self _
    · rw [List.mem_singleton.mp listed]
  have blind := @pending_listing_blind sampleCodec waitingRun
    (fun _ => .none) (fun _ _ => true) toString _ 20 2 4 none none "C"
    publishes ⟨by simp [recordedLog], by simp [recordedLog]⟩ (by decide)
    (by simp [recordedLog])
  exact ⟨by decide, blind.1 _ ⟨rfl, fun _ _ _ => rfl⟩⟩

end BettaPay.Scripts.Wire
