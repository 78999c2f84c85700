import BettaPay.Governance.EventWire
import BettaPay.Settlement.EventWire

namespace BettaPay.Protocol

open BettaPay.Host
open BettaPay.Common

/-! Reading the events of both contracts side by side. -/

/-- What of the governance contract's events a reader of the settlement
contract's takes for its own. -/
def common : Governance.Event → Option Settlement.Event
  | .recoveryAddressUpdated newRecovery admin =>
      some (.recoveryAddressUpdated newRecovery admin)
  | .contractUpgraded newWasmHash caller =>
      some (.contractUpgraded newWasmHash caller)
  | .recoveryInitiated recovery newAdmin executeAfter =>
      some (.recoveryInitiated recovery newAdmin executeAfter)
  | .recoveryCancelled canceller => some (.recoveryCancelled canceller)
  | .recoveryExecuted payload => some (.recoveryExecuted payload)
  | .adminTransferred payload => some (.adminTransferred payload)
  | .paused admin reason => some (.paused admin reason)
  | .unpaused admin => some (.unpaused admin)
  | .migrated admin version => some (.migrated admin version)
  | _ => none

theorem settlement_reads (event : Governance.Event) :
    Settlement.readEvent event.topics event.data = common event := by
  cases event with
  | contractUpgraded newWasmHash caller =>
      rw [Governance.Event.topics, Governance.Event.keys,
        Settlement.readEvent_hashed]
      rfl
  | recoveryExecuted payload | adminTransferred payload =>
      exact congrArg (Option.map _) payload.ofVal_toVal
  | _ => rfl

theorem same_wire_of_common {event : Governance.Event}
    {event' : Settlement.Event} (shared : common event = some event') :
    event.topics = event'.topics ∧ event.data = event'.data := by
  cases event <;> cases shared <;> exact ⟨rfl, rfl⟩

/-- The two contracts publish the same exactly where both mean the same. -/
theorem same_wire_iff (event : Governance.Event)
    (event' : Settlement.Event) :
    event.topics = event'.topics ∧ event.data = event'.data ↔
      common event = some event' := by
  constructor
  · intro same
    obtain ⟨topics, data⟩ := same
    rw [← settlement_reads, topics, data, event'.readEvent_wire]
  · exact same_wire_of_common

theorem unshared_name {event : Governance.Event}
    (alone : event.name ∉ migratedEvent :: (sharedTopics ++ settlementTopics))
    (event' : Settlement.Event) : event'.name ≠ event.name := by
  intro same
  rw [← same, List.mem_cons, not_or] at alone
  exact event'.registered.elim alone.2 alone.1

theorem common_threshold {event : Governance.Event}
    (threshold : event.name = thresholdChangedEvent) :
    common event = none := by
  cases event <;>
    first
    | rfl
    | exact absurd threshold (by simp only [Governance.Event.name]; decide)

/-- A name that both contracts use means the same in both, but for a changed
threshold. -/
theorem common_eq_none (event : Governance.Event) :
    common event = none ↔ event.name = thresholdChangedEvent ∨
      ∀ event' : Settlement.Event, event'.name ≠ event.name := by
  constructor
  · intro unread
    cases event with
    | thresholdChanged => exact .inl rfl
    | initialized | sysParamUpdated | feeConfigUpdated | anchorUpserted
    | anchorRemoved =>
        apply Or.inr
        apply unshared_name
        simp only [Governance.Event.name]
        decide
    | _ => cases unread
  · intro given
    cases read : common event with
    | none => rfl
    | some event' =>
        have same := (same_wire_of_common read).1
        rw [Governance.Event.topics, Settlement.Event.topics,
          List.cons.injEq, Val.symbol.injEq] at same
        rcases given with threshold | alone
        · rw [common_threshold threshold] at read
          cases read
        · exact absurd same.1.symm (alone event')

/-- Whoever reads the topics and the payload of an event knows the event, and
which contract it is from wherever that matters: what the two publish alike
means the same. All names are registered, but the settlement contract also
publishes `migrated`, which the registry leaves to the other, and the two
disagree on the payload of `threshold_changed`. -/
theorem events_told_apart :
    (∀ event : Governance.Event,
      Governance.readEvent event.topics event.data = some event ∧
      event.name ∈ sharedTopics ++ governanceTopics) ∧
    (∀ event : Settlement.Event,
      Settlement.readEvent event.topics event.data = some event ∧
      (event.name ∈ sharedTopics ++ settlementTopics ∨
        event.name = migratedEvent)) ∧
    ∀ event : Governance.Event,
      (∀ event' : Settlement.Event,
        event.topics = event'.topics ∧ event.data = event'.data ↔
          common event = some event') ∧
      (common event = none ↔ event.name = thresholdChangedEvent ∨
        ∀ event' : Settlement.Event, event'.name ≠ event.name) := by
  refine ⟨?_, ?_, ?_⟩
  · exact fun event => ⟨event.readEvent_wire, event.registered⟩
  · exact fun event => ⟨event.readEvent_wire, event.registered⟩
  · exact fun event => ⟨same_wire_iff event, common_eq_none event⟩

end BettaPay.Protocol
