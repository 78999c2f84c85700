import BettaPay.Common.EventTopics
import BettaPay.Governance.Contract

namespace BettaPay.Governance

open BettaPay.Host
open BettaPay.Common

/-! The events of the governance contract as it publishes them. -/

def FeeConfig.toVal (config : FeeConfig) : Val :=
  .struct
    [("network_fee_bps", .u32 config.networkFeeBps),
      ("platform_fee_bps", .u32 config.platformFeeBps)]

def FeeConfig.ofVal (value : Val) : Option FeeConfig :=
  match value.field "network_fee_bps", value.field "platform_fee_bps" with
  | some (.u32 networkFeeBps), some (.u32 platformFeeBps) =>
      some ⟨platformFeeBps, networkFeeBps⟩
  | _, _ => none

@[simp] theorem FeeConfig.ofVal_toVal (config : FeeConfig) :
    FeeConfig.ofVal config.toVal = some config := by
  simp [FeeConfig.ofVal, FeeConfig.toVal]

namespace Event

def name : Event → Symbol
  | .initialized _ => initializedEvent
  | .recoveryAddressUpdated _ _ => recoveryAddressUpdatedEvent
  | .contractUpgraded _ _ => contractUpgradedEvent
  | .recoveryInitiated _ _ _ => recoveryInitiatedEvent
  | .recoveryCancelled _ => recoveryCancelledEvent
  | .recoveryExecuted _ => recoveryExecutedEvent
  | .adminTransferred _ => adminTransferredEvent
  | .thresholdChanged _ _ => thresholdChangedEvent
  | .paused _ _ => pausedEvent
  | .unpaused _ => unpausedEvent
  | .migrated _ _ => migratedEvent
  | .sysParamUpdated _ _ _ _ => sysParamUpdatedEvent
  | .feeConfigUpdated _ _ => feeConfigUpdatedEvent
  | .anchorUpserted _ _ _ => anchorUpsertedEvent
  | .anchorRemoved _ => anchorRemovedEvent

/-- The topics after the name. -/
def keys : Event → List Val
  | .recoveryAddressUpdated newRecovery _ => [.address newRecovery]
  | .contractUpgraded newWasmHash _ => [.ofBytesN newWasmHash]
  | .sysParamUpdated key _ _ _ => [.symbol key]
  | .anchorUpserted asset _ _ => [.address asset]
  | .anchorRemoved asset => [.address asset]
  | _ => []

def topics (event : Event) : List Val := .symbol event.name :: event.keys

def data : Event → Val
  | .initialized admin => .address admin
  | .recoveryAddressUpdated _ admin => .address admin
  | .contractUpgraded _ caller => .address caller
  | .recoveryInitiated recovery newAdmin executeAfter =>
      .vec [.address recovery, .address newAdmin, .u64 executeAfter]
  | .recoveryCancelled canceller => .address canceller
  | .recoveryExecuted payload => payload.toVal
  | .adminTransferred payload => payload.toVal
  | .thresholdChanged current new => .vec [.u32 current, .u32 new]
  | .paused admin reason => .vec [.address admin, .bool true, .u32 reason]
  | .unpaused admin => .vec [.address admin, .bool false]
  | .migrated admin version => .vec [.address admin, .u32 version]
  | .sysParamUpdated _ admin previous value =>
      .vec [.address admin, .ofOption .i128 previous, .i128 value]
  | .feeConfigUpdated admin config => .vec [.address admin, config.toVal]
  | .anchorUpserted _ previous current =>
      .vec [.ofOption .address previous, .address current]
  | .anchorRemoved _ => .void

end Event

/-! What a reader of the topics and the payload finds. -/

def readPlain (name : Symbol) (data : Val) : Option Event :=
  if name = initializedEvent then
    data.asAddress.map .initialized
  else if name = recoveryInitiatedEvent then
    match data with
    | .vec [.address recovery, .address newAdmin, .u64 executeAfter] =>
        some (.recoveryInitiated recovery newAdmin executeAfter)
    | _ => none
  else if name = recoveryCancelledEvent then
    data.asAddress.map .recoveryCancelled
  else if name = recoveryExecutedEvent then
    (AdminTransferred.ofVal data).map .recoveryExecuted
  else if name = adminTransferredEvent then
    (AdminTransferred.ofVal data).map .adminTransferred
  else if name = thresholdChangedEvent then
    match data with
    | .vec [.u32 current, .u32 new] => some (.thresholdChanged current new)
    | _ => none
  else if name = pausedEvent then
    match data with
    | .vec [.address admin, .bool true, .u32 reason] =>
        some (.paused admin reason)
    | _ => none
  else if name = unpausedEvent then
    match data with
    | .vec [.address admin, .bool false] => some (.unpaused admin)
    | _ => none
  else if name = migratedEvent then
    match data with
    | .vec [.address admin, .u32 version] => some (.migrated admin version)
    | _ => none
  else if name = feeConfigUpdatedEvent then
    match data with
    | .vec [.address admin, config] =>
        (FeeConfig.ofVal config).map (.feeConfigUpdated admin)
    | _ => none
  else none

def readAbout (name : Symbol) (address : Address) (data : Val) :
    Option Event :=
  if name = recoveryAddressUpdatedEvent then
    data.asAddress.map (.recoveryAddressUpdated address)
  else if name = anchorUpsertedEvent then
    match data with
    | .vec [.void, .address current] =>
        some (.anchorUpserted address none current)
    | .vec [.address previous, .address current] =>
        some (.anchorUpserted address (some previous) current)
    | _ => none
  else if name = anchorRemovedEvent then
    match data with
    | .void => some (.anchorRemoved address)
    | _ => none
  else none

def readParameter (key : Symbol) (data : Val) : Option Event :=
  match data with
  | .vec [.address admin, .void, .i128 value] =>
      some (.sysParamUpdated key admin none value)
  | .vec [.address admin, .i128 previous, .i128 value] =>
      some (.sysParamUpdated key admin (some previous) value)
  | _ => none

def readEvent (topics : List Val) (data : Val) : Option Event :=
  match topics with
  | [.symbol name] => readPlain name data
  | [.symbol name, .address address] => readAbout name address data
  | [.symbol name, .symbol key] =>
      if name = sysParamUpdatedEvent then readParameter key data else none
  | [.symbol name, hash] => do
      if name = contractUpgradedEvent then
        pure (.contractUpgraded (← hash.asBytesN) (← data.asAddress))
      else none
  | _ => none

/-- Every event is read back from its topics and its payload. -/
theorem Event.readEvent_wire (event : Event) :
    readEvent event.topics event.data = some event := by
  cases event with
  | contractUpgraded newWasmHash caller =>
      change (do
        pure (Event.contractUpgraded (← (Val.ofBytesN newWasmHash).asBytesN)
          caller)) = _
      rw [Val.asBytesN_ofBytesN]
      rfl
  | recoveryExecuted payload | adminTransferred payload =>
      exact congrArg (Option.map _) payload.ofVal_toVal
  | feeConfigUpdated admin config =>
      exact congrArg (Option.map _) config.ofVal_toVal
  | sysParamUpdated key admin previous value =>
      cases previous with
      | none => rfl
      | some previous => rfl
  | anchorUpserted asset previous current =>
      cases previous with
      | none => rfl
      | some previous => rfl
  | _ => rfl

theorem Event.registered (event : Event) :
    event.name ∈ sharedTopics ++ governanceTopics := by
  cases event <;> simp only [Event.name] <;> decide

def Event.wire (event : Event) : List Val × Val := (event.topics, event.data)

theorem Event.wire_injective : Function.Injective Event.wire := by
  intro left right same
  obtain ⟨topics, data⟩ := Prod.mk.inj same
  have back := left.readEvent_wire
  rw [topics, data, right.readEvent_wire] at back
  exact (Option.some.inj back).symm

end BettaPay.Governance
