import BettaPay.Settlement.PaymentLog

namespace BettaPay.Settlement

open BettaPay.Host
open BettaPay.Common

/-! Which calls can change what is read for one payment. -/

def Call.stores (merchant : Address) (reference : BytesN 32) :
    Call → Bool
  | .storePaymentReference owner stored _ =>
      owner = merchant ∧ stored = reference
  | _ => false

def Call.prunes (merchant : Address) (reference : BytesN 32) :
    Call → Bool
  | .prunePayment _ owner pruned => owner = merchant ∧ pruned = reference
  | .prunePayments _ owner refs => owner = merchant ∧ refs.contains reference
  | _ => false

/-- The operation registers or unregisters the merchant. -/
def Operation.registers (merchant : Address) : Operation → Bool
  | .registerMerchant subject => subject = merchant
  | .unregisterMerchant subject => subject = merchant
  | _ => false

/-- The call registers or unregisters the merchant, directly or through the
timelock. -/
def Call.registers (merchant : Address) : Call → Bool
  | .registerMerchant _ subject => subject = merchant
  | .unregisterMerchant _ subject => subject = merchant
  | .execute _ operation => operation.registers merchant
  | _ => false

variable {codec : Codec} {env : Env} {state after : State} {call : Call}
  {merchant : Address} {reference : BytesN 32}

theorem Effect.stores (effect : Effect codec env state call after)
    (stores : call.stores merchant reference = true) :
    state.payment merchant reference = none ∧
      (after.payment merchant reference).isSome := by
  cases effect with
  | storePaymentReference _ _ _ _ _ absent =>
      simp only [Call.stores, decide_eq_true_eq] at stores
      obtain ⟨rfl, rfl⟩ := stores
      exact ⟨absent, by simp⟩
  | @administer call _ _ _ _ _ _ _ direct =>
      cases call <;> first | cases stores | cases direct
  | @query call _ _ reads =>
      cases call <;> first | cases stores | cases reads
  | _ => cases stores

theorem logEntry_of_prunes (prunes : call.prunes merchant reference = true)
    (published : List Event) :
    logEntry merchant reference (call, published) = some none := by
  cases call <;> simp only [Call.prunes, decide_eq_true_eq,
    List.contains_iff_mem, reduceCtorEq] at prunes <;>
    simp [logEntry, prunes]

theorem logEntry_of_unnamed (stores : call.stores merchant reference = false)
    (prunes : call.prunes merchant reference = false)
    (published : List Event) :
    logEntry merchant reference (call, published) = none := by
  cases call <;> simp only [Call.stores, Call.prunes,
    decide_eq_false_iff_not, List.contains_iff_mem] at stores prunes <;>
    simp only [logEntry, stores, prunes, if_false]

theorem Effect.prunes (effect : Effect codec env state call after)
    (prunes : call.prunes merchant reference = true) :
    after.payment merchant reference = none := by
  obtain ⟨published, _, logged⟩ := effect.logged
  rw [logged, logEntry_of_prunes prunes]
  rfl

/-- A call that names another merchant or another reference leaves the record
as it is. -/
theorem Effect.payment_unnamed (effect : Effect codec env state call after)
    (stores : call.stores merchant reference = false)
    (prunes : call.prunes merchant reference = false) :
    after.payment merchant reference = state.payment merchant reference := by
  obtain ⟨published, _, logged⟩ := effect.logged
  rw [logged, logEntry_of_unnamed stores prunes]
  rfl

theorem Applied.merchant_unnamed {actor : Address} {operation : Operation}
    (applied : Applied env state actor operation after)
    (unnamed : operation.registers merchant = false) :
    after.merchant merchant = state.merchant merchant := by
  cases applied with
  | registerMerchant =>
      simp only [Operation.registers, decide_eq_false_iff_not] at unnamed
      simp [Function.update_of_ne (Ne.symm unnamed)]
  | unregisterMerchant =>
      simp only [Operation.registers, decide_eq_false_iff_not] at unnamed
      simp [Function.update_of_ne (Ne.symm unnamed)]
  | _ => rfl

theorem Call.registers_of_administers {signers : List Address}
    {operation : Operation}
    (direct : call.administers = some (signers, operation)) :
    call.registers merchant = operation.registers merchant := by
  cases call <;> simp only [Call.administers, Option.some.injEq,
    Prod.mk.injEq, reduceCtorEq] at direct <;>
    obtain ⟨_, rfl⟩ := direct <;> rfl

/-- Only the merchant's own registration calls change its registration. -/
theorem Effect.merchant_unnamed (effect : Effect codec env state call after)
    (unnamed : call.registers merchant = false) :
    after.merchant merchant = state.merchant merchant := by
  cases effect with
  | execute queued unpaused matured unvetoed applied =>
      exact applied.merchant_unnamed unnamed
  | cancelAll quorum unpaused small drained =>
      obtain ⟨slots, counter, rfl⟩ := drained.unchanged
      rfl
  | administer direct quorum unpaused agreed prepared applied =>
      subst prepared
      rw [Call.registers_of_administers direct] at unnamed
      exact applied.merchant_unnamed unnamed
  | prunePayments quorum small pruned counted =>
      have table := pruned.table
      subst table
      rfl
  | _ => rfl

/-! The store along a run. -/

section Runs

variable {inputs : List Input}

theorem payment_changed (index : Nat) :
    let before := stateAt (step codec) State.initial inputs index
    let after := stateAt (step codec) State.initial inputs (index + 1)
    after.payment merchant reference = before.payment merchant reference ∨
      ∃ input reply,
        Succeeds (step codec) State.initial inputs index input reply ∧
        (input.call.stores merchant reference = true ∧
            before.payment merchant reference = none ∨
          input.call.prunes merchant reference = true ∧
            after.payment merchant reference = none) := by
  intro before after
  rcases @stateAt_succ_eq_or_succeeds _ _ _ _ (step codec) State.initial
    inputs index with unchanged | ⟨input, reply, succeeded⟩
  · exact .inl (congrArg (fun state => state.payment merchant reference)
      unchanged)
  · have effect := invoke_effect succeeded.2
    cases stores : input.call.stores merchant reference with
    | true =>
        exact .inr ⟨input, reply, succeeded, .inl ⟨stores,
          (effect.stores stores).1⟩⟩
    | false =>
        cases prunes : input.call.prunes merchant reference with
        | true =>
            exact .inr ⟨input, reply, succeeded, .inr ⟨prunes,
              effect.prunes prunes⟩⟩
        | false => exact .inl (effect.payment_unnamed stores prunes)

theorem registration_changed (index : Nat) :
    (stateAt (step codec) State.initial inputs (index + 1)).merchant
        merchant =
      (stateAt (step codec) State.initial inputs index).merchant merchant ∨
    ∃ input reply,
      Succeeds (step codec) State.initial inputs index input reply ∧
      input.call.registers merchant = true := by
  rcases @stateAt_succ_eq_or_succeeds _ _ _ _ (step codec) State.initial
    inputs index with unchanged | ⟨input, reply, succeeded⟩
  · rw [unchanged]
    exact .inl rfl
  · cases registers : input.call.registers merchant with
    | true => exact .inr ⟨input, reply, succeeded, registers⟩
    | false =>
        exact .inl ((invoke_effect succeeded.2).merchant_unnamed registers)

/-- Between two stores of the same payment it was pruned. -/
theorem pruned_between {first second : Nat} {input input' : Input}
    {reply reply' : Reply} (ordered : first < second)
    (stored : Succeeds (step codec) State.initial inputs first input reply)
    (stores : input.call.stores merchant reference = true)
    (again : Succeeds (step codec) State.initial inputs second input'
      reply')
    (restores : input'.call.stores merchant reference = true) :
    ∃ between input'' reply'', first < between ∧ between < second ∧
      Succeeds (step codec) State.initial inputs between input'' reply'' ∧
      input''.call.prunes merchant reference = true := by
  by_contra unpruned
  simp only [not_exists, not_and] at unpruned
  have present : ((stateAt (step codec) State.initial inputs
      (first + 1)).payment merchant reference).isSome :=
    ((invoke_effect stored.2).stores stores).2
  have absent := ((invoke_effect again.2).stores restores).1
  have kept : ((stateAt (step codec) State.initial inputs
      second).payment merchant reference).isSome := by
    refine stateAt_kept
      (fun state : State => (state.payment merchant reference).isSome)
      ordered ?_ present
    intro index input'' reply'' lower upper succeeded held
    have effect := invoke_effect succeeded.2
    cases stores' : input''.call.stores merchant reference with
    | true => exact (effect.stores stores').2
    | false =>
        have unnamed : input''.call.prunes merchant reference = false := by
          simpa using unpruned index input'' reply'' lower upper succeeded
        simp only [effect.payment_unnamed stores' unnamed]
        exact held
  rw [absent] at kept
  cases kept

end Runs

/-- How one payment reads along one run. -/
structure ReadsLog (codec : Codec) (inputs : List Input)
    (merchant : Address) (reference : BytesN 32) : Prop where
  /-- A single read is orphaned exactly when the merchant is not registered,
  and otherwise returns what the log says. -/
  single : ∀ env signers,
    let state := run (step codec) State.initial inputs
    ReadAuthorized env state merchant signers →
    (invoke codec env (.getPaymentReference merchant reference signers)
        state = .error (.error .paymentOrphaned) ↔
      state.merchant merchant = false) ∧
    (state.merchant merchant = true → ∃ after,
      invoke codec env (.getPaymentReference merchant reference signers)
        state =
      .ok (.record (lastRecord codec inputs merchant reference), after))
  /-- A page of references reads the same. -/
  page : ∀ env signers refs cursor,
    let state := run (step codec) State.initial inputs
    ReadAuthorized env state merchant signers →
    (invoke codec env (.getPayments merchant refs cursor signers) state =
        .error (.error .paymentOrphaned) ↔
      state.merchant merchant = false) ∧
    (state.merchant merchant = true →
      refs.length ≤ maxPaymentsBatch.toNat →
      (refs.length = maxPaymentsBatch.toNat →
        cursor.toNat + maxPaymentsBatch.toNat < 2 ^ 32) →
      ∃ next after,
        invoke codec env (.getPayments merchant refs cursor signers) state =
        .ok (.page ⟨refs.filterMap (lastRecord codec inputs merchant),
          next⟩, after))
  /-- A record appears where there was none and disappears by a prune; it is
  never modified, and calls that name another payment leave it alone. -/
  immutable : ∀ index,
    let before := stateAt (step codec) State.initial inputs index
    let after := stateAt (step codec) State.initial inputs (index + 1)
    after.payment merchant reference = before.payment merchant reference ∨
      ∃ input reply,
        Succeeds (step codec) State.initial inputs index input reply ∧
        (input.call.stores merchant reference = true ∧
            before.payment merchant reference = none ∨
          input.call.prunes merchant reference = true ∧
            after.payment merchant reference = none)
  /-- Registration changes only by calls that name the merchant. -/
  registration : ∀ index,
    (stateAt (step codec) State.initial inputs (index + 1)).merchant
        merchant =
      (stateAt (step codec) State.initial inputs index).merchant merchant ∨
    ∃ input reply,
      Succeeds (step codec) State.initial inputs index input reply ∧
      input.call.registers merchant = true
  /-- The same payment is stored twice only with a prune in between. -/
  separated : ∀ first second input input' reply reply', first < second →
    Succeeds (step codec) State.initial inputs first input reply →
    input.call.stores merchant reference = true →
    Succeeds (step codec) State.initial inputs second input' reply' →
    input'.call.stores merchant reference = true →
    ∃ between input'' reply'', first < between ∧ between < second ∧
      Succeeds (step codec) State.initial inputs between input'' reply'' ∧
      input''.call.prunes merchant reference = true

/-- The payment store refines the log of its stores and prunes. -/
theorem payment_store_refines_log (codec : Codec) (inputs : List Input)
    (merchant : Address) (reference : BytesN 32) :
    ReadsLog codec inputs merchant reference where
  single := by
    intro env signers state authorized
    have exclusive := merchants_exclusive_run codec inputs
    have logged := payment_eq_lastRecord codec inputs merchant reference
    cases registered : state.merchant merchant with
    | false =>
        have orphaned : invoke codec env
            (.getPaymentReference merchant reference signers) state =
            .error (.error .paymentOrphaned) :=
          replying_error.mpr
            (getPaymentReference_unregistered authorized registered)
        exact ⟨⟨fun _ => rfl, fun _ => orphaned⟩, by simp⟩
    | true =>
        obtain ⟨after, read⟩ := @getPaymentReference_registered _ _ _ _
          reference exclusive authorized registered
        rw [logged] at read
        have served : invoke codec env
            (.getPaymentReference merchant reference signers) state =
            .ok (.record (lastRecord codec inputs merchant reference),
              after) :=
          replying_ok.mpr ⟨_, read, rfl⟩
        refine ⟨⟨?_, by simp⟩, fun _ => ⟨after, served⟩⟩
        intro failed
        rw [served] at failed
        cases failed
  page := by
    intro env signers refs cursor state authorized
    have exclusive := merchants_exclusive_run codec inputs
    cases registered : state.merchant merchant with
    | false =>
        have orphaned : invoke codec env
            (.getPayments merchant refs cursor signers) state =
            .error (.error .paymentOrphaned) :=
          replying_error.mpr (getPayments_unregistered authorized registered)
        exact ⟨⟨fun _ => rfl, fun _ => orphaned⟩, by simp⟩
    | true =>
        refine ⟨⟨?_, by simp⟩, ?_⟩
        · intro failed
          rcases getPayments_registered_error exclusive authorized registered
            (replying_error.mp failed) with large | overflow
          · cases large
          · cases overflow
        · intro _ small room
          obtain ⟨next, after, read⟩ := getPayments_registered exclusive
            authorized registered small room
          have logged : state.payment merchant =
              lastRecord codec inputs merchant :=
            funext (payment_eq_lastRecord codec inputs merchant)
          rw [logged] at read
          exact ⟨next, after, replying_ok.mpr ⟨_, read, rfl⟩⟩
  immutable := fun index => payment_changed index
  registration := fun index => registration_changed index
  separated := fun _ _ _ _ _ _ ordered stored stores again restores =>
    pruned_between ordered stored stores again restores

end BettaPay.Settlement
