import BettaPay.Settlement.Inversion
import Mathlib.Data.List.Induction

namespace BettaPay.Settlement

open BettaPay.Host
open BettaPay.Common

/-! The payment store is a log of stores and prunes, read from its end. -/

/-- What a committed call says about one payment: nothing, that it is gone, or
that it is the record its event carries. -/
def logEntry (merchant : Address) (reference : BytesN 32) :
    Call × List Event → Option (Option PaymentRecord)
  | (.storePaymentReference owner stored _, events) =>
      if owner = merchant ∧ stored = reference then
        some (events.findSome? fun event =>
          match event with
          | .paymentStored owner stored record =>
              if owner = merchant ∧ stored = reference then some record
              else none
          | _ => none)
      else none
  | (.prunePayment _ owner pruned, _) =>
      if owner = merchant ∧ pruned = reference then some none else none
  | (.prunePayments _ owner refs, _) =>
      if owner = merchant ∧ reference ∈ refs then some none else none
  | _ => none

/-- The committed calls of a run with the events each of them published. -/
def history (codec : Codec) (inputs : List Input) :
    List (Call × List Event) :=
  (trace (step codec) State.initial inputs).map fun call =>
    (call.input.call, call.after.events.drop call.before.events.length)

/-- The record of the last store not followed by a prune. -/
def lastRecord (codec : Codec) (inputs : List Input) (merchant : Address)
    (reference : BytesN 32) : Option PaymentRecord :=
  ((history codec inputs).reverse.findSome?
    (logEntry merchant reference)).join

theorem findSome?_stored {merchant : Address} {reference : BytesN 32}
    {rule : SettlementRule} {record : PaymentRecord} :
    (bootstrapEvents rule ++
        [Event.paymentStored merchant reference record]).findSome?
      (fun event =>
        match event with
        | .paymentStored owner stored record =>
            if owner = merchant ∧ stored = reference then some record
            else none
        | _ => none) = some record := by
  unfold bootstrapEvents
  split <;> simp

theorem Applied.events {env : Env} {state after : State}
    {actor : Address} {operation : Operation}
    (applied : Applied env state actor operation after) :
    ∃ published, after.events = state.events ++ published := by
  cases applied <;> exact ⟨_, rfl⟩

theorem Applied.payment {env : Env} {state after : State}
    {actor : Address} {operation : Operation}
    (applied : Applied env state actor operation after) :
    after.payment = state.payment := by
  cases applied <;> rfl

theorem logEntry_of_administers {call : Call} {signers : List Address}
    {operation : Operation}
    (direct : call.administers = some (signers, operation))
    (merchant : Address) (reference : BytesN 32) (events : List Event) :
    logEntry merchant reference (call, events) = none := by
  cases call <;> first | rfl | cases direct

theorem logEntry_of_isQuery {call : Call} (reads : call.isQuery = true)
    (merchant : Address) (reference : BytesN 32) (events : List Event) :
    logEntry merchant reference (call, events) = none := by
  cases call <;> first | rfl | cases reads

/-- One committed call moves the store as its log entry says. -/
theorem Effect.logged {codec : Codec} {env : Env} {state after : State}
    {call : Call} (effect : Effect codec env state call after) :
    ∃ published, after.events = state.events ++ published ∧
      ∀ merchant reference,
        after.payment merchant reference =
          (logEntry merchant reference (call, published)).getD
            (state.payment merchant reference) := by
  cases effect with
  | init => exact ⟨[], (List.append_nil _).symm, fun _ _ => rfl⟩
  | @execute _ operation _ _ queued unpaused matured unvetoed applied =>
      obtain ⟨published, events⟩ := applied.events
      refine ⟨published ++ [.opExecuted (codec.hash operation)], ?_, ?_⟩
      · rw [State.soft_events, events, List.append_assoc]
        rfl
      · intro merchant reference
        rw [State.soft_payment, applied.payment]
        rfl
  | cancelAll quorum unpaused small drained =>
      obtain ⟨slots, counter, rfl⟩ := drained.unchanged
      exact ⟨_, rfl, fun _ _ => rfl⟩
  | @administer _ _ _ _ _ _ consent _ direct _ _ _ prepared applied =>
      subst prepared
      obtain ⟨published, events⟩ := applied.events
      refine ⟨consent ++ published, ?_, ?_⟩
      · rw [events, State.soft_events, List.append_assoc]
      · intro merchant reference
        rw [logEntry_of_administers direct, applied.payment]
        rfl
  | @storePaymentReference merchant reference =>
      refine ⟨_, rfl, ?_⟩
      intro other found
      simp only [logEntry, State.soft_payment]
      by_cases here : merchant = other
      · subst here
        rw [Function.update_self]
        by_cases same : reference = found
        · subst same
          simp only [Function.update_self, true_and, if_true,
            findSome?_stored, Option.getD_some]
        · simp [same, Function.update_of_ne (Ne.symm same)]
      · simp [here, Function.update_of_ne (Ne.symm here)]
  | @prunePayment _ merchant reference =>
      refine ⟨_, rfl, ?_⟩
      intro other found
      simp only [logEntry, State.soft_payment]
      by_cases here : merchant = other
      · subst here
        by_cases same : reference = found
        · subst same
          simp
        · simp [same, Function.update_of_ne (Ne.symm same)]
      · simp [here, Function.update_of_ne (Ne.symm here)]
  | @pruneNothing _ merchant reference _ _ absent =>
      refine ⟨[], (List.append_nil _).symm, ?_⟩
      intro other found
      simp only [logEntry]
      by_cases same : merchant = other ∧ reference = found
      · obtain ⟨rfl, rfl⟩ := same
        simp [absent]
      · simp [same]
  | @prunePayments _ merchant _ refs _ _ _ _ _ _ pruned _ =>
      have table := pruned.table
      subst table
      refine ⟨_, rfl, ?_⟩
      intro other found
      simp only [logEntry, State.soft_payment]
      by_cases here : merchant = other
      · subst here
        by_cases member : found ∈ refs
        · cases stored : state.payment merchant found <;>
            simp [member, eraseIf, stored]
        · cases stored : state.payment merchant found <;>
            simp [member, eraseIf, stored]
      · simp [here, Function.update_of_ne (Ne.symm here)]
  | query reads =>
      refine ⟨[], rfl, ?_⟩
      intro merchant reference
      rw [logEntry_of_isQuery reads]
      rfl
  | _ => exact ⟨_, rfl, fun _ _ => rfl⟩

/-- The store holds what the log says, after every run. -/
theorem payment_eq_lastRecord (codec : Codec) (inputs : List Input)
    (merchant : Address) (reference : BytesN 32) :
    (run (step codec) State.initial inputs).payment merchant reference =
      lastRecord codec inputs merchant reference := by
  induction inputs using List.reverseRecOn with
  | nil => rfl
  | append_singleton inputs input induction =>
      rw [lastRecord, history, trace_snoc, run_append, List.map_append,
        List.reverse_append, List.findSome?_append]
      cases attempt : step codec input
          (run (step codec) State.initial inputs) with
      | error failure =>
          simp only [committed, attempt, List.map_nil, List.reverse_nil,
            List.findSome?_nil, Option.none_or, run_cons, run_nil,
            commit_of_error attempt]
          exact induction
      | ok outcome =>
          rcases outcome with ⟨reply, after⟩
          obtain ⟨published, events, logged⟩ := (invoke_effect attempt).logged
          simp only [committed, attempt, run_cons, run_nil,
            commit_of_ok attempt, List.map_cons, List.map_nil,
            List.reverse_singleton, List.findSome?_cons, List.findSome?_nil]
          rw [logged, events, List.drop_left, induction]
          cases logEntry merchant reference (input.call, published) <;> rfl

/-! Reading the store. -/

/-- No merchant is registered and archived at once. -/
def MerchantsExclusive (state : State) : Prop :=
  ∀ merchant, state.merchant merchant = true →
    state.archivedMerchant merchant = false

theorem Applied.merchants_exclusive {env : Env} {state after : State}
    {actor : Address} {operation : Operation}
    (applied : Applied env state actor operation after)
    (exclusive : MerchantsExclusive state) : MerchantsExclusive after := by
  cases applied with
  | @registerMerchant merchant =>
      intro other registered
      simp only [State.soft_merchant, State.soft_archivedMerchant]
        at registered ⊢
      by_cases same : other = merchant
      · simp [same]
      · rw [Function.update_of_ne same] at registered ⊢
        exact exclusive other registered
  | @unregisterMerchant merchant =>
      intro other registered
      simp only [State.soft_merchant, State.soft_archivedMerchant]
        at registered ⊢
      by_cases same : other = merchant
      · simp [same] at registered
      · rw [Function.update_of_ne same] at registered ⊢
        exact exclusive other registered
  | _ => exact exclusive

theorem Effect.merchants_exclusive {codec : Codec} {env : Env}
    {state after : State} {call : Call}
    (effect : Effect codec env state call after)
    (exclusive : MerchantsExclusive state) : MerchantsExclusive after := by
  cases effect with
  | execute queued unpaused matured unvetoed applied =>
      exact applied.merchants_exclusive exclusive
  | cancelAll quorum unpaused small drained =>
      obtain ⟨slots, counter, rfl⟩ := drained.unchanged
      exact exclusive
  | administer direct quorum unpaused agreed prepared applied =>
      subst prepared
      exact applied.merchants_exclusive exclusive
  | prunePayments quorum small pruned counted =>
      have table := pruned.table
      subst table
      exact exclusive
  | _ => exact exclusive

theorem merchants_exclusive_run (codec : Codec) (inputs : List Input) :
    MerchantsExclusive (run (step codec) State.initial inputs) :=
  run_invariant MerchantsExclusive
    (fun exclusive succeeded =>
      (invoke_effect succeeded).merchants_exclusive exclusive)
    (by simp [MerchantsExclusive, State.initial]) inputs

/-- The caller may read the payments of the merchant. -/
def ReadAuthorized (env : Env) (state : State) (merchant : Address)
    (signers : List Address) : Prop :=
  assertReadAuthorized env merchant signers state = .ok ((), state)

theorem bumpPayment_succeeds (env : Env) (state : State)
    (merchant : Address) (reference : BytesN 32)
    (record : Option PaymentRecord) :
    ∃ live, bumpPayment env merchant reference record state =
      .ok ((), state.soft state.cachedGovRule live []) := by
  unfold bumpPayment
  split
  · exact ⟨_, extendTtl_ok.mpr rfl⟩
  · exact ⟨state.liveUntil,
      Tx.pure_ok.mpr ⟨rfl, (State.soft_self state).symm⟩⟩

theorem getEachPayment_succeeds (env : Env) (state : State)
    (merchant : Address) (refs : List (BytesN 32)) :
    ∃ after, getEachPayment env merchant refs state =
      .ok (refs.filterMap (state.payment merchant), after) := by
  induction refs generalizing state with
  | nil => exact ⟨state, rfl⟩
  | cons reference rest induction =>
      obtain ⟨live, bumped⟩ := bumpPayment_succeeds env state merchant
        reference (state.payment merchant reference)
      obtain ⟨after, read⟩ :=
        induction (state.soft state.cachedGovRule live [])
      refine ⟨after, ?_⟩
      simp only [getEachPayment, Tx.readState_bind, Tx.bind_ok, Tx.pure_ok]
      refine ⟨(), _, bumped, _, _, read, ?_, rfl⟩
      cases stored : state.payment merchant reference <;> simp [stored]

theorem assertPaymentsReadable_fails {state : State} {merchant : Address}
    (unregistered : state.merchant merchant = false) :
    assertPaymentsReadable merchant state =
      .error (.error .paymentOrphaned) := by
  simp [assertPaymentsReadable, isMerchantRegisteredInternal, unregistered]

section Reads

variable {env : Env} {state : State} {merchant : Address}
  {signers : List Address}

theorem getPaymentReference_unregistered {reference : BytesN 32}
    (authorized : ReadAuthorized env state merchant signers)
    (unregistered : state.merchant merchant = false) :
    getPaymentReference env merchant reference signers state =
      .error (.error .paymentOrphaned) := by
  simp only [getPaymentReference, Tx.bind_error]
  exact .inr ⟨(), state, authorized,
    .inl (assertPaymentsReadable_fails unregistered)⟩

theorem getPaymentReference_registered {reference : BytesN 32}
    (exclusive : MerchantsExclusive state)
    (authorized : ReadAuthorized env state merchant signers)
    (registered : state.merchant merchant = true) :
    ∃ after, getPaymentReference env merchant reference signers state =
      .ok (state.payment merchant reference, after) := by
  obtain ⟨live, bumped⟩ := bumpPayment_succeeds env state merchant reference
    (state.payment merchant reference)
  refine ⟨state.soft state.cachedGovRule live [], ?_⟩
  simp only [getPaymentReference, Tx.readState_bind, Tx.bind_ok,
    assertPaymentsReadable_ok, Tx.pure_ok]
  exact ⟨(), state, authorized, (), state,
    ⟨⟨registered, exclusive merchant registered⟩, rfl⟩, (), _, bumped, rfl,
    rfl⟩

theorem getPayments_unregistered {refs : List (BytesN 32)}
    {cursor : UInt32}
    (authorized : ReadAuthorized env state merchant signers)
    (unregistered : state.merchant merchant = false) :
    getPayments env merchant refs cursor signers state =
      .error (.error .paymentOrphaned) := by
  simp only [getPayments, Tx.bind_error]
  exact .inr ⟨(), state, authorized,
    .inl (assertPaymentsReadable_fails unregistered)⟩

theorem nextCursor_succeeds {refs : List (BytesN 32)} {cursor : UInt32}
    (room : refs.length = maxPaymentsBatch.toNat →
      cursor.toNat + maxPaymentsBatch.toNat < 2 ^ 32) (middle : State) :
    ∃ next, nextCursor cursor refs middle = .ok (next, middle) := by
  by_cases full : refs.length = maxPaymentsBatch.toNat
  · have added : checkedAdd32 cursor maxPaymentsBatch =
        some (cursor + maxPaymentsBatch) := by
      rw [checkedAdd32, if_pos (room full)]
    exact ⟨some (cursor + maxPaymentsBatch),
      by simp [nextCursor, full, added]⟩
  · exact ⟨none, by simp [nextCursor, full]⟩

theorem getPayments_registered {refs : List (BytesN 32)} {cursor : UInt32}
    (exclusive : MerchantsExclusive state)
    (authorized : ReadAuthorized env state merchant signers)
    (registered : state.merchant merchant = true)
    (small : refs.length ≤ maxPaymentsBatch.toNat)
    (room : refs.length = maxPaymentsBatch.toNat →
      cursor.toNat + maxPaymentsBatch.toNat < 2 ^ 32) :
    ∃ next after, getPayments env merchant refs cursor signers state =
      .ok (⟨refs.filterMap (state.payment merchant), next⟩, after) := by
  obtain ⟨after, read⟩ := getEachPayment_succeeds env state merchant refs
  obtain ⟨next, cursored⟩ := nextCursor_succeeds room after
  refine ⟨next, after, ?_⟩
  simp only [getPayments, Tx.bind_ok, assertPaymentsReadable_ok, rejectIf_ok,
    Tx.pure_ok]
  exact ⟨(), state, authorized, (), state,
    ⟨⟨registered, exclusive merchant registered⟩, rfl⟩, (), state,
    ⟨Nat.not_lt.mpr small, rfl⟩, _, _, read, next, _, cursored, rfl, rfl⟩

/-- A registered merchant's page is refused only for its size or cursor. -/
theorem getPayments_registered_error {refs : List (BytesN 32)}
    {cursor : UInt32} {failure : Failure SettlementError}
    (exclusive : MerchantsExclusive state)
    (authorized : ReadAuthorized env state merchant signers)
    (registered : state.merchant merchant = true)
    (failed : getPayments env merchant refs cursor signers state =
      .error failure) :
    failure = .error .batchTooLarge ∨ failure = .overflow := by
  have readable : assertPaymentsReadable merchant state = .ok ((), state) :=
    assertPaymentsReadable_ok.mpr
      ⟨⟨registered, exclusive merchant registered⟩, rfl⟩
  rw [getPayments, Tx.bind_of_ok authorized, Tx.bind_of_ok readable] at failed
  simp only [Tx.bind_error, rejectIf_error, rejectIf_ok, nextCursor,
    Tx.ite_error, orTrap_error, Tx.pure_error, and_false, exists_false,
    or_false] at failed
  obtain ⟨_, rfl⟩ | ⟨_, _, ⟨_, rfl⟩, unread | ⟨_, _, _, _, _, rfl⟩⟩ := failed
  · exact .inl rfl
  · obtain ⟨after, read⟩ := getEachPayment_succeeds env state merchant refs
    rw [read] at unread
    cases unread
  · exact .inr rfl

end Reads

end BettaPay.Settlement
