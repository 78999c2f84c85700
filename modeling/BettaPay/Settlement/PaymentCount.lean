import BettaPay.Settlement.PaymentLog
import BettaPay.Settlement.Xdr

namespace BettaPay.Settlement

open BettaPay.Host
open BettaPay.Common

/-! The payment counter against the stored records and the published events. -/

def Event.storedFor (merchant : Address) : Event → Nat
  | .paymentStored owner _ _ => if owner = merchant then 1 else 0
  | _ => 0

def Event.prunedFor (merchant : Address) : Event → Nat
  | .paymentPruned owner _ => if owner = merchant then 1 else 0
  | _ => 0

def Event.batchPrunedFor (merchant : Address) : Event → Nat
  | .paymentsPruned owner _ removed =>
      if owner = merchant then removed.toNat else 0
  | _ => 0

/-- The sum of a weight over a list of events. -/
def tally (weight : Event → Nat) (events : List Event) : Nat :=
  (events.map weight).sum

@[simp] theorem tally_append (weight : Event → Nat)
    (first second : List Event) :
    tally weight (first ++ second) =
      tally weight first + tally weight second := by
  simp [tally]

@[simp] theorem tally_singleton (weight : Event → Nat) (event : Event) :
    tally weight [event] = weight event := by
  simp [tally]

/-- The event is about payments. -/
def Event.isPayment : Event → Bool
  | .paymentStored _ _ _ => true
  | .paymentPruned _ _ => true
  | .paymentsPruned _ _ _ => true
  | _ => false

def Quiet (events : List Event) : Prop :=
  ∀ event ∈ events, event.isPayment = false

theorem tally_quiet {events : List Event} {weight : Event → Nat}
    (quiet : Quiet events)
    (weightless : ∀ event, event.isPayment = false → weight event = 0) :
    tally weight events = 0 := by
  unfold tally
  rw [List.sum_eq_zero_iff_forall_eq_nat]
  intro value member
  obtain ⟨event, present, rfl⟩ := List.mem_map.mp member
  exact weightless event (quiet event present)

theorem storedFor_quiet (merchant : Address) (event : Event)
    (quiet : event.isPayment = false) : event.storedFor merchant = 0 := by
  cases event <;> first | rfl | cases quiet

theorem prunedFor_quiet (merchant : Address) (event : Event)
    (quiet : event.isPayment = false) : event.prunedFor merchant = 0 := by
  cases event <;> first | rfl | cases quiet

theorem batchPrunedFor_quiet (merchant : Address) (event : Event)
    (quiet : event.isPayment = false) :
    event.batchPrunedFor merchant = 0 := by
  cases event <;> first | rfl | cases quiet

/-- The counter of one merchant is the number of its records, and both are
what the events add up to. -/
structure Counted (state : State) (merchant : Address) : Prop where
  counter : (state.readPaymentCount merchant).toNat =
    size (state.payment merchant)
  published : size (state.payment merchant) +
      tally (Event.prunedFor merchant) state.events +
      tally (Event.batchPrunedFor merchant) state.events =
    tally (Event.storedFor merchant) state.events

/-- A call that adds and removes records keeps the count, provided the
counter and the events follow. -/
theorem Counted.of_change {state after : State} {merchant : Address}
    {added pruned batch : Nat} (counted : Counted state merchant)
    (sized : size (after.payment merchant) + pruned + batch =
      size (state.payment merchant) + added)
    (counter : (after.readPaymentCount merchant).toNat + pruned + batch =
      (state.readPaymentCount merchant).toNat + added)
    (storedEvents : tally (Event.storedFor merchant) after.events =
      tally (Event.storedFor merchant) state.events + added)
    (prunedEvents : tally (Event.prunedFor merchant) after.events =
      tally (Event.prunedFor merchant) state.events + pruned)
    (batchEvents : tally (Event.batchPrunedFor merchant) after.events =
      tally (Event.batchPrunedFor merchant) state.events + batch) :
    Counted after merchant where
  counter := by
    have before := counted.counter
    omega
  published := by
    have before := counted.published
    omega

/-- A call without payment events that leaves the records and the counter
alone. -/
theorem Counted.of_quiet {state after : State} {merchant : Address}
    {events : List Event} (counted : Counted state merchant)
    (payment : after.payment = state.payment)
    (count : after.paymentCount = state.paymentCount)
    (extended : after.events = state.events ++ events)
    (quiet : Quiet events) : Counted after merchant := by
  refine @Counted.of_change _ _ _ 0 0 0 counted ?_ ?_ ?_ ?_ ?_
  · rw [payment]
  · simp only [State.readPaymentCount, count]
  · rw [extended, tally_append,
      tally_quiet quiet (storedFor_quiet merchant)]
  · rw [extended, tally_append,
      tally_quiet quiet (prunedFor_quiet merchant)]
  · rw [extended, tally_append,
      tally_quiet quiet (batchPrunedFor_quiet merchant)]

theorem ClearedEvents.quiet {state : State} {actor merchant : Address}
    {events : List Event}
    (cleared : ClearedEvents state actor merchant events) :
    Quiet events := by
  cases cleared <;> simp [Quiet, Event.isPayment]

theorem Applied.quiet {env : Env} {state after : State} {actor : Address}
    {operation : Operation}
    (applied : Applied env state actor operation after) :
    ∃ published, after.events = state.events ++ published ∧
      Quiet published := by
  cases applied with
  | unregisterMerchant registered refreshed clearing =>
      refine ⟨_, rfl, ?_⟩
      intro event member
      rcases List.mem_append.mp member with cleared | last
      · exact clearing.quiet event cleared
      · rw [List.mem_singleton.mp last]
        rfl
  | _ => exact ⟨_, rfl, by simp [Quiet, Event.isPayment]⟩

theorem Applied.paymentCount {env : Env} {state after : State}
    {actor : Address} {operation : Operation}
    (applied : Applied env state actor operation after) :
    after.paymentCount = state.paymentCount := by
  cases applied <;> rfl

theorem bootstrapEvents_quiet (rule : SettlementRule) :
    Quiet (bootstrapEvents rule) := by
  unfold bootstrapEvents
  split <;> simp [Quiet, Event.isPayment]

theorem stored_counted {state after : State} {merchant : Address}
    {reference : BytesN 32} {record : PaymentRecord} {count : UInt32}
    {events : List Event} (quiet : Quiet events)
    (absent : state.payment merchant reference = none)
    (incremented : count.toNat =
      (state.readPaymentCount merchant).toNat + 1)
    (payment : after.payment = Function.update state.payment merchant
      (Function.update (state.payment merchant) reference (some record)))
    (counter : after.paymentCount =
      Function.update state.paymentCount merchant (some count))
    (extended : after.events = state.events ++
      (events ++ [.paymentStored merchant reference record]))
    {other : Address} (counted : Counted state other) :
    Counted after other := by
  have stored : tally (Event.storedFor other) after.events =
      tally (Event.storedFor other) state.events +
        if merchant = other then 1 else 0 := by
    simp only [extended, tally_append, tally_singleton,
      tally_quiet quiet (storedFor_quiet other), Nat.zero_add]
    rfl
  have pruned : tally (Event.prunedFor other) after.events =
      tally (Event.prunedFor other) state.events + 0 := by
    simp only [extended, tally_append, tally_singleton,
      tally_quiet quiet (prunedFor_quiet other), Nat.zero_add]
    rfl
  have batch : tally (Event.batchPrunedFor other) after.events =
      tally (Event.batchPrunedFor other) state.events + 0 := by
    simp only [extended, tally_append, tally_singleton,
      tally_quiet quiet (batchPrunedFor_quiet other), Nat.zero_add]
    rfl
  refine counted.of_change ?_ ?_ stored pruned batch
  · by_cases same : merchant = other
    · subst same
      rw [payment, Function.update_self, size_insert record absent]
      simp
    · rw [payment, Function.update_of_ne (Ne.symm same)]
      simp [same]
  · by_cases same : merchant = other
    · subst same
      simp [State.readPaymentCount, counter, incremented]
    · simp [State.readPaymentCount, counter,
        Function.update_of_ne (Ne.symm same), same]

/-- Records of one merchant were removed and its counter lowered by as many;
`pruned` and `batch` are how the event reports them. -/
theorem pruned_counted {state after : State} {merchant other : Address}
    {event : Event} {pruned batch : Nat} (counted : Counted state other)
    (unstored : event.storedFor other = 0)
    (reported : event.prunedFor other =
      if merchant = other then pruned else 0)
    (batched : event.batchPrunedFor other =
      if merchant = other then batch else 0)
    (sized : size (after.payment merchant) + pruned + batch =
      size (state.payment merchant))
    (lowered : (after.readPaymentCount merchant).toNat =
      (state.readPaymentCount merchant).toNat - (pruned + batch))
    (payment : ∀ address, address ≠ merchant →
      after.payment address = state.payment address)
    (counter : ∀ address, address ≠ merchant →
      after.paymentCount address = state.paymentCount address)
    (extended : after.events = state.events ++ [event]) :
    Counted after other := by
  have stored : tally (Event.storedFor other) after.events =
      tally (Event.storedFor other) state.events + 0 := by
    rw [extended, tally_append, tally_singleton, unstored]
  have prunedEvents : tally (Event.prunedFor other) after.events =
      tally (Event.prunedFor other) state.events +
        if merchant = other then pruned else 0 := by
    rw [extended, tally_append, tally_singleton, reported]
  have batchEvents : tally (Event.batchPrunedFor other) after.events =
      tally (Event.batchPrunedFor other) state.events +
        if merchant = other then batch else 0 := by
    rw [extended, tally_append, tally_singleton, batched]
  refine counted.of_change ?_ ?_ stored prunedEvents batchEvents
  · by_cases same : merchant = other
    · subst same
      simpa using sized
    · rw [payment other (Ne.symm same)]
      simp [same]
  · by_cases same : merchant = other
    · subst same
      have exact := counted.counter
      simp only [if_true]
      omega
    · simp [State.readPaymentCount, counter other (Ne.symm same), same]

theorem Effect.counted {codec : Codec} {env : Env} {state after : State}
    {call : Call} (effect : Effect codec env state call after)
    (counted : ∀ merchant, Counted state merchant) :
    ∀ merchant, Counted after merchant := by
  intro merchant
  cases effect with
  | init =>
      exact (counted merchant).of_quiet rfl rfl (List.append_nil _).symm
        (by simp [Quiet])
  | @execute _ operation _ _ queued unpaused matured unvetoed applied =>
      obtain ⟨published, extended, quiet⟩ := applied.quiet
      refine (counted merchant).of_quiet applied.payment
        applied.paymentCount
        (by rw [State.soft_events, extended, List.append_assoc]; rfl) ?_
      intro event member
      rcases List.mem_append.mp member with earlier | last
      · exact quiet event earlier
      · rw [List.mem_singleton.mp last]
        rfl
  | cancelAll quorum unpaused small drained =>
      obtain ⟨slots, counter, rfl⟩ := drained.unchanged
      exact (counted merchant).of_quiet rfl rfl rfl
        (by simp [Quiet, Event.isPayment])
  | @administer _ _ _ _ _ _ consent _ direct _ _ agreed prepared applied =>
      subst prepared
      obtain ⟨published, extended, quiet⟩ := applied.quiet
      refine (counted merchant).of_quiet applied.payment
        applied.paymentCount
        (by rw [extended, State.soft_events, List.append_assoc]) ?_
      intro event member
      rcases List.mem_append.mp member with consented | later
      · rcases agreed with rfl | ⟨_, rfl⟩
        · cases consented
        · rw [List.mem_singleton.mp consented]
          rfl
      · exact quiet event later
  | storePaymentReference _ _ _ _ _ absent _ _ _ incremented =>
      exact stored_counted (bootstrapEvents_quiet _) absent incremented rfl
        rfl rfl (counted merchant)
  | @prunePayment _ owner reference _ _ quorum unpaused stored =>
      refine @pruned_counted _ _ owner merchant _ 1 0 (counted merchant)
        rfl rfl (by simp [Event.batchPrunedFor]) ?_ ?_ ?_ ?_ rfl
      · simp only [State.soft_payment, Function.update_self]
        exact size_erase (by rw [stored]; rfl)
      · simp only [State.readPaymentCount, State.soft_paymentCount,
          Function.update_self, Option.getD_some, toNat_saturatingSub32]
        rfl
      · intro address different
        simp [Function.update_of_ne different]
      · intro address different
        simp [Function.update_of_ne different]
  | pruneNothing => exact counted merchant
  | @prunePayments _ owner _ _ count counts _ middle quorum small pruned
      lowered =>
      have fits := toNat_ofNat_of_le small
      have sized := pruned.sized
      have table := pruned.table
      subst table
      refine @pruned_counted _ _ owner merchant _ 0 count
        (counted merchant) rfl (by simp [Event.prunedFor])
        (by simp [Event.batchPrunedFor, fits]) ?_ ?_ ?_ ?_ rfl
      · simpa using sized
      · simp only [State.readPaymentCount, State.soft_paymentCount]
        rcases lowered with ⟨rfl, rfl⟩ | rfl
        · simp
        · simp [toNat_saturatingSub32, State.readPaymentCount, fits]
      · intro address different
        simp [Function.update_of_ne different]
      · intro address different
        rcases lowered with ⟨_, rfl⟩ | rfl
        · rfl
        · simp [Function.update_of_ne different]
  | query reads =>
      exact (counted merchant).of_quiet rfl rfl rfl (by simp [Quiet])
  | _ =>
      exact (counted merchant).of_quiet rfl rfl rfl
        (by simp [Quiet, Event.isPayment])

theorem Reachable.counted {codec : Codec} {state : State}
    (reachable : Reachable codec state) (merchant : Address) :
    Counted state merchant :=
  reachable.induction (fun state => ∀ merchant, Counted state merchant)
    (fun _ => ⟨size_empty.symm, by
      simp [State.initial, size_empty, tally]⟩)
    (fun counted succeeded => (invoke_effect succeeded).counted counted)
    merchant

/-- In every reachable state the counter of a merchant is the number of its
stored records, and equals the stores its events report less the prunes; so
neither decrement, of one stored record or of a whole batch, ever asks for
more than the counter holds. -/
theorem payment_counter_exact (codec : Codec) (state : State)
    (reachable : Reachable codec state) (merchant : Address) :
    (state.readPaymentCount merchant).toNat =
        size (state.payment merchant) ∧
      ((state.readPaymentCount merchant).toNat : Int) =
        tally (Event.storedFor merchant) state.events -
          tally (Event.prunedFor merchant) state.events -
          tally (Event.batchPrunedFor merchant) state.events ∧
      (∀ reference, (state.payment merchant reference).isSome →
        1 ≤ state.readPaymentCount merchant) ∧
      ∀ refs removed middle,
        pruneEach merchant refs 0 state = .ok (removed, middle) →
        (UInt32.ofNat removed).toNat = removed ∧
          UInt32.ofNat removed ≤ middle.readPaymentCount merchant := by
  have counted := reachable.counted merchant
  have counter := counted.counter
  have published := counted.published
  refine ⟨counter, by omega, ?_, ?_⟩
  · intro reference stored
    have erased := size_erase stored
    rw [UInt32.le_iff_toNat_le]
    have one : (1 : UInt32).toNat = 1 := rfl
    omega
  · intro refs removed middle looped
    obtain ⟨count, rfl, _, pruned⟩ := pruneEach_ok looped
    have sized := pruned.sized
    have same : middle.readPaymentCount merchant =
        state.readPaymentCount merchant := by
      rw [pruned.table]
      rfl
    have small : 0 + count ≤ (state.readPaymentCount merchant).toNat := by
      omega
    have fits := toNat_ofNat_of_le small
    refine ⟨fits, ?_⟩
    rw [same, UInt32.le_iff_toNat_le, fits]
    exact small

/-- Two payments, one of them pruned. -/
def samplePaymentRun : List Input :=
  [⟨.granting 0, .init (.account 9) [.account 1] 1 (.contract 5)
      (.account 2)⟩,
    ⟨.granting 100, .registerMerchant [.account 1] (.account 6)⟩,
    ⟨.granting 200, .storePaymentReference (.account 6) 1
      minPaymentAmount⟩,
    ⟨.granting 300, .storePaymentReference (.account 6) 2
      minPaymentAmount⟩,
    ⟨.granting 400, .prunePayment [.account 1] (.account 6) 1⟩]

theorem payment_counter_exact_sample :
    (run (step sampleCodec) State.initial samplePaymentRun).readPaymentCount
        (.account 6) = 1 ∧
      size ((run (step sampleCodec) State.initial samplePaymentRun).payment
        (.account 6)) = 1 := by
  have one : (run (step sampleCodec) State.initial
      samplePaymentRun).readPaymentCount (.account 6) = 1 := by decide
  have counted := (payment_counter_exact sampleCodec _
    ⟨samplePaymentRun, rfl⟩ (.account 6)).1
  rw [one] at counted
  exact ⟨one, counted.symm⟩

end BettaPay.Settlement
