import BettaPay.Common.EventTopics
import BettaPay.Settlement.Types

namespace BettaPay.Settlement

open BettaPay.Host
open BettaPay.Common

/-! The events of the settlement contract as it publishes them: topics, of
which the first is the name, and a payload. -/

def PaymentRecord.toVal (record : PaymentRecord) : Val :=
  .struct
    [("amount", .i128 record.amount),
      ("auto_settle", .bool record.autoSettle),
      ("ledger", .u32 record.ledger),
      ("merchant", .address record.merchant),
      ("merchant_payout_amount", .i128 record.merchantPayoutAmount),
      ("network_fee_amount", .i128 record.networkFeeAmount),
      ("network_fee_bps", .u32 record.networkFeeBps),
      ("platform_fee_amount", .i128 record.platformFeeAmount),
      ("platform_fee_bps", .u32 record.platformFeeBps),
      ("settlement_delay_ledger", .u32 record.settlementDelayLedger),
      ("version", .u32 record.version)]

def PaymentRecord.ofVal (value : Val) : Option PaymentRecord := do
  let .i128 amount ← value.field "amount" | none
  let .bool autoSettle ← value.field "auto_settle" | none
  let .u32 ledger ← value.field "ledger" | none
  let .address merchant ← value.field "merchant" | none
  let .i128 payout ← value.field "merchant_payout_amount" | none
  let .i128 networkFee ← value.field "network_fee_amount" | none
  let .u32 networkFeeBps ← value.field "network_fee_bps" | none
  let .i128 platformFee ← value.field "platform_fee_amount" | none
  let .u32 platformFeeBps ← value.field "platform_fee_bps" | none
  let .u32 delay ← value.field "settlement_delay_ledger" | none
  let .u32 version ← value.field "version" | none
  pure
    { merchant := merchant
      amount := amount
      platformFeeAmount := platformFee
      networkFeeAmount := networkFee
      merchantPayoutAmount := payout
      platformFeeBps := platformFeeBps
      networkFeeBps := networkFeeBps
      ledger := ledger
      settlementDelayLedger := delay
      autoSettle := autoSettle
      version := version }

@[simp] theorem PaymentRecord.ofVal_toVal (record : PaymentRecord) :
    PaymentRecord.ofVal record.toVal = some record := by
  simp [PaymentRecord.ofVal, PaymentRecord.toVal]

namespace Event

def name : Event → Symbol
  | .governanceUpdated _ _ => governanceUpdatedEvent
  | .recoveryInitiated _ _ _ => recoveryInitiatedEvent
  | .recoveryCancelled _ => recoveryCancelledEvent
  | .recoveryExecuted _ => recoveryExecutedEvent
  | .recoveryAddressUpdated _ _ => recoveryAddressUpdatedEvent
  | .adminTransferred _ => adminTransferredEvent
  | .thresholdChanged _ _ _ => thresholdChangedEvent
  | .contractUpgraded _ _ => contractUpgradedEvent
  | .paused _ _ => pausedEvent
  | .unpaused _ => unpausedEvent
  | .migrated _ _ => migratedEvent
  | .opScheduled _ _ _ => opScheduledEvent
  | .opExecuted _ => opExecutedEvent
  | .opCancelled _ _ => opCancelledEvent
  | .opCancelledBatch _ _ => opCancelledEvent
  | .merchantRegistered _ _ => merchantRegisteredEvent
  | .merchantConsent _ => merchantConsentEvent
  | .merchantUnregistered _ _ => merchantUnregisteredEvent
  | .settlementRuleUpdated _ _ _ _ => settlementRuleUpdatedEvent
  | .settlementRuleCleared _ _ _ _ => settlementRuleClearedEvent
  | .defaultRuleUpdated _ _ _ => defaultRuleUpdatedEvent
  | .bootstrapFallback _ => bootstrapFallbackEvent
  | .paymentStored _ _ _ => paymentStoredEvent
  | .paymentPruned _ _ => paymentPrunedEvent
  | .paymentsPruned _ _ _ => paymentsPrunedEvent
  | .feeCeilingRejected _ _ => feeCeilingRejectedEvent

/-- The topics after the name. -/
def keys : Event → List Val
  | .recoveryAddressUpdated newRecovery _ => [.address newRecovery]
  | .contractUpgraded wasmHash _ => [.ofBytesN wasmHash]
  | .opScheduled opHash _ _ => [.ofBytesN opHash]
  | .opExecuted opHash => [.ofBytesN opHash]
  | .opCancelled opHash _ => [.ofBytesN opHash]
  | .merchantRegistered merchant _ => [.address merchant]
  | .merchantConsent merchant => [.address merchant]
  | .merchantUnregistered merchant _ => [.address merchant]
  | .settlementRuleUpdated merchant _ _ _ => [.address merchant]
  | .settlementRuleCleared merchant _ _ _ => [.address merchant]
  | .paymentStored merchant reference _ =>
      [.address merchant, .ofBytesN reference]
  | .paymentPruned merchant reference =>
      [.address merchant, .ofBytesN reference]
  | .paymentsPruned merchant _ _ => [.address merchant]
  | .feeCeilingRejected platformFeeBps _ => [.u32 platformFeeBps]
  | _ => []

def topics (event : Event) : List Val := .symbol event.name :: event.keys

def data : Event → Val
  | .governanceUpdated admin newGovernance =>
      .vec [.address admin, .address newGovernance]
  | .recoveryInitiated recovery newAdmin executeAfter =>
      .vec [.address recovery, .address newAdmin, .u64 executeAfter]
  | .recoveryCancelled canceller => .address canceller
  | .recoveryExecuted payload => payload.toVal
  | .recoveryAddressUpdated _ admin => .address admin
  | .adminTransferred payload => payload.toVal
  | .thresholdChanged caller current new =>
      .vec [.address caller, .u32 current, .u32 new]
  | .contractUpgraded _ admin => .address admin
  | .paused admin reason => .vec [.address admin, .bool true, .u32 reason]
  | .unpaused admin => .vec [.address admin, .bool false]
  | .migrated admin version => .vec [.address admin, .u32 version]
  | .opScheduled _ caller executeAt =>
      .vec [.address caller, .u64 executeAt]
  | .opExecuted _ => .void
  | .opCancelled _ caller => .address caller
  | .opCancelledBatch caller cancelled =>
      .vec [.address caller, .u32 cancelled]
  | .merchantRegistered _ admin => .address admin
  | .merchantConsent _ => .void
  | .merchantUnregistered _ admin => .address admin
  | .settlementRuleUpdated _ admin prev rule =>
      .vec [.address admin, prev.toVal, rule.toVal]
  | .settlementRuleCleared _ admin removed fallback =>
      .vec [.address admin, removed.toVal, fallback.toVal]
  | .defaultRuleUpdated admin prev rule =>
      .vec [.address admin, prev.toVal, rule.toVal]
  | .bootstrapFallback rule => rule.toVal
  | .paymentStored _ _ record => record.toVal
  | .paymentPruned merchant reference =>
      .vec [.address merchant, .ofBytesN reference]
  | .paymentsPruned _ admin removed => .vec [.address admin, .u32 removed]
  | .feeCeilingRejected _ networkFeeBps => .u32 networkFeeBps

end Event

/-! What a reader of the topics and the payload finds. -/

/-- A change from one rule to another. -/
def readRules (made : SettlementRule → SettlementRule → Event)
    (first second : Val) : Option Event := do
  pure (made (← SettlementRule.ofVal first) (← SettlementRule.ofVal second))

@[simp] theorem readRules_toVal
    (made : SettlementRule → SettlementRule → Event)
    (first second : SettlementRule) :
    readRules made first.toVal second.toVal = some (made first second) := by
  simp [readRules]

/-- An event with a name and nothing else for topics. -/
def readPlain (name : Symbol) (data : Val) : Option Event :=
  if name = governanceUpdatedEvent then
    match data with
    | .vec [.address admin, .address newGovernance] =>
        some (.governanceUpdated admin newGovernance)
    | _ => none
  else if name = recoveryInitiatedEvent then
    match data with
    | .vec [.address recovery, .address newAdmin, .u64 executeAfter] =>
        some (.recoveryInitiated recovery newAdmin executeAfter)
    | _ => none
  else if name = recoveryCancelledEvent then
    data.asAddress.map .recoveryCancelled
  else if name = recoveryExecutedEvent then
    (AdminTransferred.ofVal data).map .recoveryExecuted
  else if name = adminTransferredEvent then
    (AdminTransferred.ofVal data).map .adminTransferred
  else if name = thresholdChangedEvent then
    match data with
    | .vec [.address caller, .u32 current, .u32 new] =>
        some (.thresholdChanged caller current new)
    | _ => none
  else if name = pausedEvent then
    match data with
    | .vec [.address admin, .bool true, .u32 reason] =>
        some (.paused admin reason)
    | _ => none
  else if name = unpausedEvent then
    match data with
    | .vec [.address admin, .bool false] => some (.unpaused admin)
    | _ => none
  else if name = migratedEvent then
    match data with
    | .vec [.address admin, .u32 version] => some (.migrated admin version)
    | _ => none
  else if name = opCancelledEvent then
    match data with
    | .vec [.address caller, .u32 cancelled] =>
        some (.opCancelledBatch caller cancelled)
    | _ => none
  else if name = defaultRuleUpdatedEvent then
    match data with
    | .vec [.address admin, prev, rule] =>
        readRules (.defaultRuleUpdated admin) prev rule
    | _ => none
  else if name = bootstrapFallbackEvent then
    (SettlementRule.ofVal data).map .bootstrapFallback
  else none

/-- An event about an address. -/
def readAbout (name : Symbol) (address : Address) (data : Val) :
    Option Event :=
  if name = recoveryAddressUpdatedEvent then
    data.asAddress.map (.recoveryAddressUpdated address)
  else if name = merchantRegisteredEvent then
    data.asAddress.map (.merchantRegistered address)
  else if name = merchantConsentEvent then
    match data with
    | .void => some (.merchantConsent address)
    | _ => none
  else if name = merchantUnregisteredEvent then
    data.asAddress.map (.merchantUnregistered address)
  else if name = settlementRuleUpdatedEvent then
    match data with
    | .vec [.address admin, prev, rule] =>
        readRules (.settlementRuleUpdated address admin) prev rule
    | _ => none
  else if name = settlementRuleClearedEvent then
    match data with
    | .vec [.address admin, removed, fallback] =>
        readRules (.settlementRuleCleared address admin) removed fallback
    | _ => none
  else if name = paymentsPrunedEvent then
    match data with
    | .vec [.address admin, .u32 removed] =>
        some (.paymentsPruned address admin removed)
    | _ => none
  else none

/-- An event about a hash. -/
def readHashed (name : Symbol) (hash : BytesN 32) (data : Val) :
    Option Event :=
  if name = contractUpgradedEvent then
    data.asAddress.map (.contractUpgraded hash)
  else if name = opScheduledEvent then
    match data with
    | .vec [.address caller, .u64 executeAt] =>
        some (.opScheduled hash caller executeAt)
    | _ => none
  else if name = opExecutedEvent then
    match data with
    | .void => some (.opExecuted hash)
    | _ => none
  else if name = opCancelledEvent then
    data.asAddress.map (.opCancelled hash)
  else none

/-- An event about a payment. -/
def readPayment (name : Symbol) (merchant : Address) (reference : BytesN 32)
    (data : Val) : Option Event :=
  if name = paymentStoredEvent then
    (PaymentRecord.ofVal data).map (.paymentStored merchant reference)
  else if name = paymentPrunedEvent then
    some (.paymentPruned merchant reference)
  else none

def readEvent (topics : List Val) (data : Val) : Option Event :=
  match topics with
  | [.symbol name] => readPlain name data
  | [.symbol name, .address address] => readAbout name address data
  | [.symbol name, .bytes hash] => do
      readHashed name (← Val.asBytesN (.bytes hash)) data
  | [.symbol name, .address merchant, reference] => do
      readPayment name merchant (← reference.asBytesN) data
  | [.symbol name, .u32 platformFeeBps] =>
      if name = feeCeilingRejectedEvent then
        match data with
        | .u32 networkFeeBps =>
            some (.feeCeilingRejected platformFeeBps networkFeeBps)
        | _ => none
      else none
  | _ => none

@[simp] theorem readEvent_hashed (name : Symbol) (hash : BytesN 32)
    (data : Val) :
    readEvent [.symbol name, .ofBytesN hash] data =
      readHashed name hash data := by
  have back := Val.asBytesN_ofBytesN hash
  rw [Val.ofBytesN] at back ⊢
  simp [readEvent, back]

@[simp] theorem readEvent_payment (name : Symbol) (merchant : Address)
    (reference : BytesN 32) (data : Val) :
    readEvent [.symbol name, .address merchant, .ofBytesN reference] data =
      readPayment name merchant reference data := by
  simp [readEvent]

/-- Every event is read back from its topics and its payload. -/
theorem Event.readEvent_wire (event : Event) :
    readEvent event.topics event.data = some event := by
  cases event with
  | contractUpgraded | opScheduled | opExecuted | opCancelled =>
      rw [Event.topics, Event.keys, readEvent_hashed]
      rfl
  | paymentStored merchant reference record =>
      rw [Event.topics, Event.keys, readEvent_payment]
      exact congrArg (Option.map _) record.ofVal_toVal
  | paymentPruned =>
      rw [Event.topics, Event.keys, readEvent_payment]
      rfl
  | recoveryExecuted payload | adminTransferred payload =>
      exact congrArg (Option.map _) payload.ofVal_toVal
  | bootstrapFallback rule =>
      exact congrArg (Option.map _) rule.ofVal_toVal
  | settlementRuleUpdated | settlementRuleCleared | defaultRuleUpdated =>
      exact readRules_toVal _ _ _
  | _ => rfl

/-- The registry leaves `migrated` to the governance contract. -/
theorem Event.registered (event : Event) :
    event.name ∈ sharedTopics ++ settlementTopics ∨
      event.name = migratedEvent := by
  cases event with
  | migrated => exact .inr rfl
  | _ =>
      apply Or.inl
      simp only [Event.name]
      decide

theorem Event.name_mem (event : Event) : event.name ∈ allEventTopics := by
  rcases event.registered with listed | migrated
  · rw [List.mem_append] at listed
    rw [allEventTopics, List.mem_append, List.mem_append]
    exact listed.imp_left .inl
  · rw [migrated]
    decide

def Event.wire (event : Event) : List Val × Val := (event.topics, event.data)

theorem Event.wire_injective : Function.Injective Event.wire := by
  intro left right same
  obtain ⟨topics, data⟩ := Prod.mk.inj same
  have back := left.readEvent_wire
  rw [topics, data, right.readEvent_wire] at back
  exact (Option.some.inj back).symm

end BettaPay.Settlement
