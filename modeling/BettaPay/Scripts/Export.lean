import BettaPay.Host.Csv
import BettaPay.Scripts.Decoder
import BettaPay.Scripts.PendingWindow
import BettaPay.Scripts.Topics

namespace BettaPay.Scripts.Wire

open BettaPay.Host
open BettaPay.Host.Base64

/-! The export of events as comma-separated text. -/

/-- One event of a `getEvents` response, which may leave out what has a
default. -/
structure ResponseEvent where
  ledger : Option Nat
  pagingToken : Option String
  ledgerClosedAt : Option String
  contractId : Option String
  eventType : Option String
  topic : List String
  value : Option String

structure Record where
  ledger : Nat
  pagingToken : String
  ledgerTimestamp : String
  contractId : String
  eventType : String
  topic0 : String
  topic0Constant : Option String
  topicCount : Nat
  topic1 : String
  dataBase64 : String
  dataDecoded : Decoded

/-- The bytes begin with the tag of a symbol. -/
def hasSymbolTag (raw : Bytes) : Bool :=
  4 ≤ raw.length && bigEndian (raw.take 4) = scvalSymbol

/-- Text that is not ASCII raises what is not caught. -/
def isSymbol (topic : String) : Except Raised Bool :=
  if topic.toList.all fun letter => letter.toNat < 128 then
    match b64decode topic with
    | none => .ok false
    | some raw => .ok (hasSymbolTag raw)
  else .error (.reading .base64)

def undecodable : String := "<undecodable>"

/-- A symbol, or the note that it is none. -/
def symbolText (topic : String) : String :=
  match decodeSymbol topic with
  | .ok symbol => symbol
  | .error _ => undecodable

def topic0Symbol : List String → String
  | [] => ""
  | topic0 :: _ => symbolText topic0

/-- A second topic that is no symbol, such as a hash, stays as it is. -/
def topic1Text : List String → Except Raised String
  | _ :: topic1 :: _ => do
      let symbol ← isSymbol topic1
      pure (if symbol then symbolText topic1 else topic1)
  | _ => pure ""

/-- `eventNames` gives the constants that name the events, by the names. -/
def recordOf (eventNames : String → Option String) (event : ResponseEvent)
    (topic1 : String) (decoded : Decoded) : Record where
  ledger := event.ledger.getD 0
  pagingToken := event.pagingToken.getD ""
  ledgerTimestamp := event.ledgerClosedAt.getD ""
  contractId := event.contractId.getD ""
  eventType := event.eventType.getD "contract"
  topic0 := topic0Symbol event.topic
  topic0Constant := eventNames (topic0Symbol event.topic)
  topicCount := event.topic.length
  topic1 := topic1
  dataBase64 := event.value.getD ""
  dataDecoded := decoded

def normaliseEvent (repr : Decoded → String) (limit : Nat)
    (eventNames : String → Option String) (event : ResponseEvent) :
    Except Raised Record := do
  let topic1 ← topic1Text event.topic
  let decoded ← decodeEventValue repr limit (event.value.getD "")
  pure (recordOf eventNames event topic1 decoded)

def csvColumns : List String :=
  ["ledger", "paging_token", "ledger_timestamp", "contract_id", "event_type",
    "event_name", "topic0", "topic1", "data"]

/-- The constant of an event, where it has one, or its name. -/
def Record.eventName (record : Record) : String :=
  match record.topic0Constant with
  | none => record.topic0
  | some constant => if constant = "" then record.topic0 else constant

def Record.fields (record : Record) : List String :=
  [toString record.ledger, record.pagingToken, record.ledgerTimestamp,
    record.contractId, record.eventType, record.eventName, record.topic0,
    record.topic1, record.dataBase64]

def csvLetters (fields : List String) : List Csv.Letters :=
  fields.map String.toList

/-- The names of the columns are written without a look at their letters. -/
def writeCsv (records : List Record) : String :=
  String.ofList (Csv.join (csvLetters csvColumns) ++ ['\n'] ++
    records.flatMap fun record => Csv.row (csvLetters record.fields))

section Export

variable (repr : Decoded → String) (limit : Nat)
  (eventNames : String → Option String)
  (tokenBefore : String → String → Bool)

def recordBefore (left right : Record) : Bool :=
  left.ledger < right.ledger ||
    left.ledger = right.ledger &&
      tokenBefore left.pagingToken right.pagingToken

/-- `cmd_export` on the events of a saved response, as CSV. -/
def exportCsv (events : List ResponseEvent) : Except Raised String := do
  let records ← events.mapM (normaliseEvent repr limit eventNames)
  pure (writeCsv (records.mergeSort (recordBefore tokenBefore)))

end Export

/-! What a reader of the text finds. -/

def readCsv (text : String) : Option (List (List String)) :=
  (Csv.read text.toList).map fun rows =>
    rows.map fun fields => fields.map fun letters => String.ofList letters

theorem readCsv_writeCsv {records : List Record}
    (kept : ∀ record ∈ records, ∀ text ∈ record.fields,
      Csv.Kept text.toList) :
    readCsv (writeCsv records) =
      some (csvColumns :: records.map Record.fields) := by
  have header : Csv.join (csvLetters csvColumns) ++ ['\n'] =
      Csv.row (csvLetters csvColumns) := by
    decide
  have whole : (writeCsv records).toList =
      Csv.table (csvLetters csvColumns ::
        records.map fun record => csvLetters record.fields) := by
    rw [writeCsv, String.toList_ofList, header, Csv.table,
      List.flatMap_cons, List.flatMap_map]
  have filled : ∀ fields ∈ csvLetters csvColumns ::
      records.map (fun record => csvLetters record.fields),
      fields ≠ [] := by
    intro fields listed
    rw [List.mem_cons, List.mem_map] at listed
    rcases listed with rfl | ⟨record, _, rfl⟩ <;>
      exact List.cons_ne_nil _ _
  have legible : ∀ fields ∈ csvLetters csvColumns ::
      records.map (fun record => csvLetters record.fields),
      ∀ letters ∈ fields, Csv.Kept letters := by
    intro fields listed letters member
    rw [List.mem_cons, List.mem_map] at listed
    rcases listed with rfl | ⟨record, among, rfl⟩
    · revert letters
      decide
    · obtain ⟨text, held, rfl⟩ := List.mem_map.mp member
      exact kept record among text held
  have back : ∀ fields : List String,
      (csvLetters fields).map (fun letters => String.ofList letters) =
        fields := by
    intro fields
    simp [csvLetters, Function.comp_def]
  rw [readCsv, whole, Csv.read_table filled legible, Option.map_some,
    List.map_cons, back, List.map_map]
  simp [Function.comp_def, back]

/-! The events of a chain. -/

/-- An event as the endpoint reports it; its ledger decides when it was
closed. -/
def respond (closedAt : Nat → String) (event : RpcEvent) :
    ResponseEvent where
  ledger := some event.ledger
  pagingToken := some event.pagingToken
  ledgerClosedAt := some (closedAt event.ledger)
  contractId := some event.contractId
  eventType := some "contract"
  topic := event.topic.map chainText
  value := some event.value

/-- `cmd_export` on an endpoint. `fuel` bounds the number of pages. -/
def cmdExport (repr : Decoded → String) (limit : Nat)
    (eventNames : String → Option String)
    (tokenBefore : String → String → Bool) (closedAt : Nat → String)
    (rpc : Rpc) (startLedger endLedger : Option Nat) (contractId : String)
    (pageLimit fuel : Nat) :
    Option (Except String (Except Raised String)) :=
  (fetchEvents tokenBefore rpc startLedger endLedger contractId [] pageLimit
    fuel).map fun fetched => fetched.map fun fetched =>
      exportCsv repr limit eventNames tokenBefore
        (fetched.events.map (respond closedAt))

/-- What is shown of a second topic of the chain. -/
def shownTopic1 : List Val → String
  | _ :: topic1 :: _ =>
      if hasSymbolTag topic1.toXdr then symbolText (chainText topic1)
      else chainText topic1
  | _ => ""

theorem isSymbol_chainText (value : Val) :
    isSymbol (chainText value) = .ok (hasSymbolTag value.toXdr) := by
  have ascii : (chainText value).toList.all
      (fun letter => letter.toNat < 128) = true := by
    simpa [chainText, b64encode] using digits_ascii value.toXdr
  rw [isSymbol, if_pos ascii, chainText, b64decode_b64encode]

theorem topic1Text_chain (topics : List Val) :
    topic1Text (topics.map chainText) = .ok (shownTopic1 topics) := by
  match topics with
  | [] => rfl
  | [_] => rfl
  | _ :: topic1 :: _ =>
      simp only [List.map_cons, topic1Text, isSymbol_chainText]
      rfl

/-- The row of an event. -/
def exportedRow (eventNames : String → Option String)
    (closedAt : Nat → String) (event : RpcEvent) : List String :=
  let topic0 := topic0Symbol (event.topic.map chainText)
  let eventName := match eventNames topic0 with
    | none => topic0
    | some constant => if constant = "" then topic0 else constant
  [toString event.ledger, event.pagingToken, closedAt event.ledger,
    event.contractId, "contract", eventName, topic0,
    shownTopic1 event.topic, event.value]

section Exported

variable {repr : Decoded → String} {limit : Nat}
  {eventNames : String → Option String} {closedAt : Nat → String}

/-- The record of an event, where its data can be looked at. -/
theorem normaliseEvent_respond {event : RpcEvent} {decoded : Decoded}
    (readable : decodeEventValue repr limit event.value = .ok decoded) :
    ∃ record, normaliseEvent repr limit eventNames
        (respond closedAt event) = .ok record ∧
      record.fields = exportedRow eventNames closedAt event ∧
      record.ledger = event.ledger ∧
      record.pagingToken = event.pagingToken := by
  refine ⟨recordOf eventNames (respond closedAt event)
    (shownTopic1 event.topic) decoded, ?_, rfl, rfl, rfl⟩
  rw [normaliseEvent]
  simp only [respond, Option.getD_some, topic1Text_chain, readable]
  rfl

theorem mapM_normaliseEvent {events : List RpcEvent}
    (readable : ∀ event ∈ events,
      (decodeEventValue repr limit event.value).isOk = true) :
    ∃ records, (events.map (respond closedAt)).mapM
        (normaliseEvent repr limit eventNames) = .ok records ∧
      records.map Record.fields =
        events.map (exportedRow eventNames closedAt) ∧
      records.map (fun record => (record.ledger, record.pagingToken)) =
        events.map fun event => (event.ledger, event.pagingToken) := by
  induction events with
  | nil => exact ⟨[], rfl, rfl, rfl⟩
  | cons event rest induction =>
      cases decoded : decodeEventValue repr limit event.value with
      | error raised =>
          have ok := readable event List.mem_cons_self
          rw [decoded] at ok
          cases ok
      | ok value =>
          obtain ⟨record, normalised, fields, ledger, token⟩ :=
            @normaliseEvent_respond repr limit eventNames closedAt event
              value decoded
          obtain ⟨records, others, rows, keys⟩ := induction
            fun other listed => readable other (List.mem_cons_of_mem _ listed)
          refine ⟨record :: records, ?_, ?_, ?_⟩
          · rw [List.map_cons, List.mapM_cons, normalised, others]
            rfl
          · rw [List.map_cons, List.map_cons, fields, rows]
          · rw [List.map_cons, List.map_cons, keys, ledger, token]

/-- The name of an event is a symbol of the chain, which the scripts do not
decode. -/
theorem topic0Symbol_symbol (name : Symbol) (rest : List Val) :
    topic0Symbol ((Val.symbol name :: rest).map chainText) =
      undecodable := by
  rw [List.map_cons, topic0Symbol, symbolText, decodeSymbol_symbol]

/-- How the keys of two events compare. -/
def keyBefore (tokenBefore : String → String → Bool)
    (left right : Nat × String) : Bool :=
  left.1 < right.1 || left.1 = right.1 && tokenBefore left.2 right.2

variable {tokenBefore : String → String → Bool}

theorem keyBefore_trans (trans : ∀ first second third,
      tokenBefore first second = true → tokenBefore second third = true →
      tokenBefore first third = true) (first second third : Nat × String)
    (earlier : keyBefore tokenBefore first second = true)
    (later : keyBefore tokenBefore second third = true) :
    keyBefore tokenBefore first third = true := by
  simp only [keyBefore, Bool.or_eq_true, Bool.and_eq_true,
    decide_eq_true_eq] at earlier later ⊢
  rcases earlier with less | ⟨same, before⟩
  · rcases later with less' | ⟨same', _⟩ <;> left <;> omega
  · rcases later with less' | ⟨same', before'⟩
    · left
      omega
    · exact .inr ⟨same.trans same', trans _ _ _ before before'⟩

theorem keyBefore_total (total : ∀ first second,
      (tokenBefore first second || tokenBefore second first) = true)
    (first second : Nat × String) :
    (keyBefore tokenBefore first second ||
      keyBefore tokenBefore second first) = true := by
  have tokens := total first.2 second.2
  simp only [keyBefore, Bool.or_eq_true, Bool.and_eq_true,
    decide_eq_true_eq] at tokens ⊢
  rcases Nat.lt_trichotomy first.1 second.1 with less | same | greater
  · exact .inl (.inl less)
  · rcases tokens with before | before
    · exact .inl (.inr ⟨same, before⟩)
    · exact .inr (.inr ⟨same.symm, before⟩)
  · exact .inr (.inl greater)

/-- What is written of events that are in order. -/
theorem exportCsv_ordered {events : List RpcEvent}
    (readable : ∀ event ∈ events,
      (decodeEventValue repr limit event.value).isOk = true)
    (kept : ∀ event ∈ events, ∀ text ∈ exportedRow eventNames closedAt event,
      Csv.Kept text.toList)
    (ordered : events.Pairwise fun left right =>
      fetchedBefore tokenBefore left right = true) :
    ∃ text, exportCsv repr limit eventNames tokenBefore
        (events.map (respond closedAt)) = .ok text ∧
      readCsv text =
        some (csvColumns :: events.map (exportedRow eventNames closedAt))
        := by
  obtain ⟨records, normalised, rows, keys⟩ :=
    @mapM_normaliseEvent repr limit eventNames closedAt events readable
  have sorted : records.Pairwise fun left right =>
      recordBefore tokenBefore left right = true := by
    have paired : (events.map fun event =>
        (event.ledger, event.pagingToken)).Pairwise fun left right =>
          keyBefore tokenBefore left right = true :=
      List.pairwise_map.mpr ordered
    rw [← keys] at paired
    exact List.pairwise_map.mp paired
  refine ⟨writeCsv records, ?_, ?_⟩
  · rw [exportCsv, normalised]
    change Except.ok (writeCsv (records.mergeSort _)) = _
    rw [List.mergeSort_of_pairwise sorted]
  · rw [readCsv_writeCsv, rows]
    intro record listed
    have member : record.fields ∈
        events.map (exportedRow eventNames closedAt) := by
      rw [← rows]
      exact List.mem_map_of_mem listed
    obtain ⟨event, among, same⟩ := List.mem_map.mp member
    rw [← same]
    exact kept event among

end Exported

/-- What a listing without a filter on topics fetches. -/
def windowOf (log : List RpcEvent) (contractId : String)
    (first last : Nat) : List RpcEvent :=
  (((Position.startLedger first).rest log).filter
    (selected (eventFilters contractId []))).takeWhile fun event =>
      event.ledger ≤ last

section Window

variable {log : List RpcEvent} {contractId : String} {first last : Nat}

theorem windowOf_sublist : (windowOf log contractId first last).Sublist log :=
  ((List.takeWhile_sublist _).trans List.filter_sublist).trans
    List.filter_sublist

theorem mem_windowOf (chronicle : Chronicle log) {event : RpcEvent} :
    event ∈ windowOf log contractId first last ↔ event ∈ log ∧
      event.contractId = contractId ∧ first ≤ event.ledger ∧
      event.ledger ≤ last := by
  have ordered : (((Position.startLedger first).rest log).filter
      (selected (eventFilters contractId []))).Pairwise fun left right =>
        left.ledger ≤ right.ledger :=
    chronicle.ordered.sublist
      (List.filter_sublist.trans List.filter_sublist)
  have chosen : selected (eventFilters contractId []) event = true ↔
      event.contractId = contractId := by
    simp [selected, eventFilters, EventFilter.selects]
  rw [windowOf, mem_takeWhile_ordered ordered, List.mem_filter, chosen,
    Position.rest, List.mem_filter, decide_eq_true_eq]
  tauto

theorem nodup_windowOf (chronicle : Chronicle log) :
    (windowOf log contractId first last).Nodup :=
  (List.Nodup.of_map _ chronicle.named).sublist windowOf_sublist

theorem fetchEvents_window {tokenBefore : String → String → Bool}
    {rpc : Rpc} {latest pageLimit fuel : Nat}
    {startLedger endLedger : Option Nat} (serves : rpc.Serves log latest)
    (chronicle : Chronicle log) (positive : 0 < pageLimit)
    (enough : log.length < fuel) :
    fetchEvents tokenBefore rpc startLedger endLedger contractId [] pageLimit
        fuel =
      some (.ok ⟨(windowOf log contractId
          (firstLedger latest startLedger [])
          (lastLedger latest endLedger)).mergeSort
            (fetchedBefore tokenBefore),
        firstLedger latest startLedger [],
        lastLedger latest endLedger⟩) := by
  have suffix : (Position.startLedger
      (firstLedger latest startLedger [])).rest log <:+ log :=
    filter_suffix chronicle.ordered _
  have fewer := (List.length_filter_le
    (selected (eventFilters contractId [])) _).trans suffix.length_le
  have paged := @fetchPages_serving log _
    (eventFilters contractId []) rpc latest pageLimit
    (lastLedger latest endLedger) serves chronicle positive fuel _ rfl suffix
    (Nat.lt_of_le_of_lt fewer enough) []
  simp only [fetchEvents, serves.latestLedger, paged]
  rfl

end Window

/-- An export of events whose data can be looked at holds each event of the
contract in its window once, in the order of the chain, and a reader of the
text gets back every field as it was, as long as no carriage return stands
where nothing else has the field quoted; but the column for the name of an
event never shows one. -/
theorem export_complete {repr : Decoded → String} {limit : Nat}
    {eventNames : String → Option String} {closedAt : Nat → String}
    {tokenBefore : String → String → Bool} {rpc : Rpc}
    {log : List RpcEvent} {latest pageLimit fuel : Nat}
    {startLedger endLedger : Option Nat} {contractId : String}
    (trans : ∀ first second third, tokenBefore first second = true →
      tokenBefore second third = true → tokenBefore first third = true)
    (total : ∀ first second,
      (tokenBefore first second || tokenBefore second first) = true)
    (serves : rpc.Serves log latest) (chronicle : Chronicle log)
    (positive : 0 < pageLimit) (enough : log.length < fuel)
    (readable : ∀ event ∈ log,
      (decodeEventValue repr limit event.value).isOk = true)
    (kept : ∀ event ∈ log, ∀ text ∈ exportedRow eventNames closedAt event,
      Csv.Kept text.toList) :
    ∃ (text : String) (events : List RpcEvent),
      cmdExport repr limit eventNames tokenBefore closedAt rpc startLedger
        endLedger contractId pageLimit fuel = some (.ok (.ok text)) ∧
      readCsv text =
        some (csvColumns :: events.map (exportedRow eventNames closedAt)) ∧
      (∀ event, event ∈ events ↔ event ∈ log ∧
        event.contractId = contractId ∧
        firstLedger latest startLedger [] ≤ event.ledger ∧
        event.ledger ≤ lastLedger latest endLedger) ∧
      events.Nodup ∧
      (events.Pairwise fun left right =>
        fetchedBefore tokenBefore left right = true) ∧
      ∀ event ∈ events, ∀ name rest, event.topic = .symbol name :: rest →
        (exportedRow eventNames closedAt event)[6]? = some undecodable := by
  have perm := List.mergeSort_perm (windowOf log contractId
    (firstLedger latest startLedger []) (lastLedger latest endLedger))
    (fetchedBefore tokenBefore)
  have ordered := @List.pairwise_mergeSort _ (fetchedBefore tokenBefore)
    (fun first second third =>
      keyBefore_trans trans (first.ledger, first.pagingToken)
        (second.ledger, second.pagingToken)
        (third.ledger, third.pagingToken))
    (fun first second =>
      keyBefore_total total (first.ledger, first.pagingToken)
        (second.ledger, second.pagingToken))
    (windowOf log contractId (firstLedger latest startLedger [])
      (lastLedger latest endLedger))
  generalize fetched : (windowOf log contractId
    (firstLedger latest startLedger [])
    (lastLedger latest endLedger)).mergeSort (fetchedBefore tokenBefore) =
      events at perm ordered
  have members : ∀ event, event ∈ events ↔ event ∈ log ∧
      event.contractId = contractId ∧
      firstLedger latest startLedger [] ≤ event.ledger ∧
      event.ledger ≤ lastLedger latest endLedger := by
    intro event
    rw [perm.mem_iff, mem_windowOf chronicle]
  obtain ⟨text, written, read⟩ := @exportCsv_ordered repr limit eventNames
    closedAt tokenBefore events
    (fun event listed => readable event ((members event).mp listed).1)
    (fun event listed => kept event ((members event).mp listed).1) ordered
  refine ⟨text, events, ?_, read, members,
    perm.nodup_iff.mpr (nodup_windowOf chronicle), ordered, ?_⟩
  · rw [cmdExport, fetchEvents_window serves chronicle positive enough,
      fetched]
    exact congrArg (fun outcome => some (Except.ok outcome)) written
  · intro event listed name rest named
    simp only [exportedRow, named, topic0Symbol_symbol]
    rfl

/-- Three events, the last one of another contract; the name of the first
contract needs quotes. -/
def sampleLog : List RpcEvent :=
  recordedLog "C,\"1\"" [(5, [.symbol "paused"]), (9, [.symbol "unpaused"])]
    ++ [⟨"C2", 11, "000", [.symbol "paused"], ""⟩]

theorem export_complete_sample :
    ∃ (text : String) (events : List RpcEvent),
      cmdExport (fun _ => "") 1000 (fun _ => none)
        (fun left right => left.length ≤ right.length) toString
        (servedBy sampleLog 20) none none "C,\"1\"" 2 4 =
          some (.ok (.ok text)) ∧
      readCsv text = some (csvColumns ::
        events.map (exportedRow (fun _ => none) toString)) ∧
      ⟨"C,\"1\"", 5, "", [.symbol "paused"], ""⟩ ∈ events := by
  have chronicle : Chronicle sampleLog := ⟨by decide, by decide⟩
  obtain ⟨text, events, exported, read, members, nodup, _, _⟩ :=
    @export_complete (fun _ => "") 1000 (fun _ => none) toString
      (fun left right => left.length ≤ right.length) (servedBy sampleLog 20)
      sampleLog 20 2 4 none none "C,\"1\""
      (fun _ _ _ before after => by
        simp only [decide_eq_true_eq] at before after ⊢
        omega)
      (fun first second => by
        simp only [Bool.or_eq_true, decide_eq_true_eq]
        omega)
      ⟨rfl, fun _ _ _ => rfl⟩ chronicle (by decide) (by decide)
      (fun event listed => by
        simp only [sampleLog, List.mem_append, List.mem_singleton] at listed
        rcases listed with recorded | rfl
        · obtain ⟨entry, _, rfl⟩ := List.mem_map.mp recorded
          rfl
        · rfl)
      (by decide)
  exact ⟨text, events, exported, read, (members _).mpr
    ⟨by simp [sampleLog, recordedLog], rfl, by decide, by decide⟩⟩

end BettaPay.Scripts.Wire
