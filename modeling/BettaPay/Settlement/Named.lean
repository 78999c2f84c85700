import BettaPay.Host.Journal
import BettaPay.Settlement.Control
import BettaPay.Settlement.Published

namespace BettaPay.Settlement

open BettaPay.Host
open BettaPay.Common

/-! Whom the events name as the author of what they report, and whether that
address had a part in it. -/

def Event.actor : Event → Option Address
  | .governanceUpdated admin _ => some admin
  | .recoveryInitiated recovery _ _ => some recovery
  | .recoveryCancelled canceller => some canceller
  | .recoveryExecuted _ => none
  | .recoveryAddressUpdated _ admin => some admin
  | .adminTransferred _ => none
  | .thresholdChanged caller _ _ => some caller
  | .contractUpgraded _ admin => some admin
  | .paused admin _ => some admin
  | .unpaused admin => some admin
  | .migrated admin _ => some admin
  | .opScheduled _ caller _ => some caller
  | .opExecuted _ => none
  | .opCancelled _ caller => some caller
  | .opCancelledBatch caller _ => some caller
  | .merchantRegistered _ admin => some admin
  | .merchantConsent merchant => some merchant
  | .merchantUnregistered _ admin => some admin
  | .settlementRuleUpdated _ admin _ _ => some admin
  | .settlementRuleCleared _ admin _ _ => some admin
  | .defaultRuleUpdated admin _ _ => some admin
  | .bootstrapFallback _ => none
  | .paymentStored merchant _ _ => some merchant
  | .paymentPruned _ _ => none
  | .paymentsPruned _ admin _ => some admin
  | .feeCeilingRejected _ _ => none

/-- What an address has to be to do what the event reports: the head of a
quorum, or, where the event is about these, the recovery address, who initiated
the pending recovery, or the merchant. -/
def State.Entitled (env : Env) (state : State) (actor : Address) :
    Event → Prop
  | .recoveryInitiated _ _ _ => state.recoveryAddress = some actor
  | .recoveryCancelled _ => state.authority.LedBy env.toLedger actor ∨
      ∃ pending, state.pendingRecovery = some pending ∧
        pending.initiatedBy = actor
  | .merchantConsent _ => state.merchant actor = false
  | .paymentStored _ _ _ => state.merchant actor = true
  | _ => state.authority.LedBy env.toLedger actor

/-- The address signed the call, in a role that may do what is reported. -/
structure Vouched (env : Env) (state : State) (actor : Address)
    (event : Event) : Prop where
  signed : env.auths actor = true
  entitled : state.Entitled env actor event

variable {codec : Codec} {env : Env} {state : State}

theorem ledBy_of_quorum {signers : List Address}
    (sound : state.authority.Sound)
    (quorum : state.authority.Quorum env.toLedger signers) :
    state.authority.LedBy env.toLedger (caller signers) := by
  obtain ⟨first, leads⟩ := sound.head_of_quorum quorum
  rw [caller_eq leads]
  exact ⟨signers, leads, quorum⟩

/-- An operation names whoever applies it, or nobody. -/
theorem Operation.publishes_actor {operation : Operation}
    {actor named : Address} {event : Event}
    (listed : event ∈ operation.publishes env state actor)
    (names : event.actor = some named) : named = actor := by
  cases operation <;>
    simp only [Operation.publishes, clearanceEvents, List.mem_append,
      List.mem_map, List.mem_singleton] at listed
  case unregisterMerchant =>
    obtain ⟨_, _, rfl⟩ | rfl := listed <;> cases names <;> rfl
  case clearSettlementRule =>
    obtain ⟨_, _, rfl⟩ := listed
    cases names
    rfl
  all_goals
    subst listed
    cases names
  all_goals rfl

theorem Operation.publishes_entitled {operation : Operation}
    {actor : Address} {event : Event}
    (listed : event ∈ operation.publishes env state actor)
    (led : state.authority.LedBy env.toLedger actor) :
    state.Entitled env actor event := by
  cases operation <;>
    simp only [Operation.publishes, clearanceEvents, List.mem_append,
      List.mem_map, List.mem_singleton] at listed
  case unregisterMerchant =>
    obtain ⟨_, _, rfl⟩ | rfl := listed <;> exact led
  case clearSettlementRule =>
    obtain ⟨_, _, rfl⟩ := listed
    exact led
  case cancelRecovery =>
    subst listed
    exact .inl led
  all_goals
    subst listed
    exact led

/-- The merchant that registers signs, and is not one yet. -/
theorem registerMerchant_consents {signers : List Address}
    {merchant : Address} {after : State} {result : Unit}
    (succeeded : registerMerchant env signers merchant state =
      .ok (result, after)) :
    env.auths merchant = true ∧ state.merchant merchant = false := by
  simp only [registerMerchant, Tx.bind_ok, assertAdminAndNotPaused_ok,
    validateNonzeroAddress_ok, unwrapFirst_ok, requireAuth_ok, emit_ok]
    at succeeded
  obtain ⟨_, _, ⟨_, rfl⟩, _, _, ⟨_, rfl⟩, _, _, ⟨_, rfl⟩, _, _, checked, _, _,
    ⟨signed, rfl⟩, _, _, rfl, added⟩ := succeeded
  obtain ⟨_, rfl⟩ := rejectAdminMerchant_ok checked
  simp only [addMerchant, Tx.readState_bind, Tx.bind_ok, rejectIf_ok,
    Bool.not_eq_true] at added
  obtain ⟨_, _, ⟨fresh, rfl⟩, _⟩ := added
  exact ⟨signed, fresh⟩

/-- What an administrative event asks of its author, the first signer of a
quorum has. -/
theorem vouched_of_quorum {signers : List Address} {event : Event}
    {actor : Address} (sound : state.authority.Sound)
    (quorum : state.authority.Quorum env.toLedger signers)
    (names : actor = caller signers)
    (entitled : state.authority.LedBy env.toLedger actor →
      state.Entitled env actor event) :
    Vouched env state actor event := by
  subst names
  have led := ledBy_of_quorum sound quorum
  exact ⟨led.signed, entitled led⟩

/-- Every author that a call names signed it in a fitting role, but for the
executor of a queued operation. -/
theorem publishes_vouched {call : Call} {reply : Reply} {after : State}
    {event : Event} {actor : Address} (sound : state.authority.Sound)
    (succeeded : invoke codec env call state = .ok (reply, after))
    (listed : event ∈ call.publishes codec env state reply)
    (names : event.actor = some actor) :
    Vouched env state actor event ∨
      ∃ operation, call = .execute actor operation := by
  have effect := invoke_effect succeeded
  cases effect with
  | init => cases listed
  | initiateRecovery stored authorized =>
      rw [Call.publishes, stored, List.mem_singleton] at listed
      subst listed
      cases names
      exact .inl ⟨authorized, stored⟩
  | cancelRecovery stored authorized =>
      rw [Call.publishes, List.mem_singleton] at listed
      subst listed
      cases names
      rcases authorized with ⟨rfl, signed⟩ | quorum
      · exact .inl ⟨signed, .inr ⟨_, stored, rfl⟩⟩
      · exact .inl (vouched_of_quorum sound quorum rfl .inl)
  | executeRecovery =>
      rw [Call.publishes, List.mem_singleton] at listed
      subst listed
      cases names
  | changeThreshold stored threshold positive attainable larger authorized =>
      rw [Call.publishes, List.mem_singleton] at listed
      subst listed
      cases names
      have quorum := authorized.quorum threshold (by omega)
      exact .inl (vouched_of_quorum sound quorum rfl id)
  | updateRecoveryAddress quorum | pause quorum | unpause quorum
  | migrate quorum | schedule quorum | cancel quorum =>
      rw [Call.publishes, List.mem_singleton] at listed
      subst listed
      cases names
      exact .inl (vouched_of_quorum sound quorum rfl id)
  | cancelAll quorum | prunePayments quorum =>
      cases reply <;> cases listed
      case head =>
        cases names
        exact .inl (vouched_of_quorum sound quorum rfl id)
      case tail rest => cases rest
  | execute =>
      rw [Call.publishes, List.mem_append, List.mem_singleton] at listed
      rcases listed with applied | rfl
      · rw [Operation.publishes_actor applied names]
        exact .inr ⟨_, rfl⟩
      · cases names
  | administer direct quorum =>
      rw [publishes_of_administers direct, List.mem_append] at listed
      rcases listed with consents | applied
      · cases call <;> cases consents
        case tail rest => cases rest
        case head =>
          cases names
          obtain ⟨_, ran, _⟩ := replying_ok.mp succeeded
          obtain ⟨signed, fresh⟩ := registerMerchant_consents ran
          exact .inl ⟨signed, fresh⟩
      · have author := Operation.publishes_actor applied names
        subst author
        exact .inl (vouched_of_quorum sound quorum rfl
          (Operation.publishes_entitled applied))
  | storePaymentReference nonzero unpaused authorized registered =>
      cases reply with
      | split split =>
          rw [Call.publishes, paymentEvents, List.mem_append,
            List.mem_singleton] at listed
          rcases listed with fallback | rfl
          · rw [bootstrapEvents] at fallback
            split at fallback
            · cases List.mem_singleton.mp fallback
              cases names
            · cases fallback
          · cases names
            exact .inl ⟨authorized, registered⟩
      | _ => cases listed
  | prunePayment quorum unpaused stored =>
      rw [Call.publishes, stored] at listed
      cases listed
      case head => cases names
      case tail rest => cases rest
  | pruneNothing quorum unpaused absent =>
      rw [Call.publishes, absent] at listed
      cases listed
  | query reads =>
      have silent := List.append_cancel_left (invoke_publishes succeeded)
      rw [← silent] at listed
      cases listed

theorem events_growing (codec : Codec) :
    Growing (step codec) State.events :=
  fun _ _ _ _ succeeded => ⟨_, invoke_publishes succeeded⟩

/-- Nobody is named in the log as the author of what they did not sign, nor
of what their role does not allow; but whoever executes a queued operation
names the author of its events freely. -/
theorem authors_vouched (codec : Codec) {inputs : List Input}
    {position : Nat} {event : Event} {actor : Address}
    (listed : (run (step codec) State.initial
      inputs).events[position]? = some event)
    (names : event.actor = some actor) :
    ∃ index input,
      AddedBy (step codec) State.events State.initial inputs position index
        input ∧
      (Vouched input.env (stateAt (step codec) State.initial inputs index)
          actor event ∨
        ∃ operation, input.call = .execute actor operation) := by
  obtain ⟨index, input, reply, after, published, added, succeeded, told,
    member⟩ := (events_growing codec).added rfl listed
  refine ⟨index, input, added, ?_⟩
  rw [invoke_publishes succeeded, List.append_cancel_left_eq] at told
  subst told
  exact publishes_vouched ((machine codec).sound_at index) succeeded member
    names

end BettaPay.Settlement
