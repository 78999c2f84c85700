import BettaPay.Settlement.PaymentLog
import BettaPay.Settlement.Split

namespace BettaPay.Settlement

open BettaPay.Host
open BettaPay.Common

/-! Every rule that can price a payment is within bounds, as long as the
answers of governance are. -/

structure RulesBounded (state : State) : Prop where
  merchant : ∀ merchant rule, state.rule merchant = some rule →
    BoundedRule rule
  default : ∀ rule, state.defaultRule = some rule → BoundedRule rule
  cached : ∀ rule, state.cachedGovRule = some (some rule) →
    BoundedRule rule

/-- What governance answers during one call is within bounds. -/
structure Trusted (env : Env) (state : State) : Prop where
  fees : ∀ config, Answers env state config → BoundedRule config.toRule
  minimum : 0 ≤ (state.readMinPaymentAmount env).val

theorem bootstrapDefaultRule_bounded : BoundedRule bootstrapDefaultRule :=
  ⟨by decide, by decide, by decide, by decide, by decide⟩

theorem Sourced.bounded {env : Env} {state : State} {merchant : Address}
    {effective : EffectiveRule} (bounded : RulesBounded state)
    (trusted : Trusted env state)
    (sourced : Sourced env state merchant effective) :
    BoundedRule effective.rule := by
  cases sourced with
  | merchant stored => exact bounded.merchant _ _ stored
  | fallback unset source =>
      cases source with
      | default stored => exact bounded.default _ stored
      | answered _ answers => exact trusted.fees _ answers
      | cached _ stored =>
          exact bounded.cached _ (Option.join_eq_some_iff.mp stored)
      | bootstrap _ => exact bootstrapDefaultRule_bounded

theorem RulesBounded.soft {env : Env} {state middle : State}
    {cache : Option (Option SettlementRule)} {live : PersistentKey → Nat}
    {events : List Event} (trusted : Trusted env state)
    (bounded : RulesBounded state) (refreshed : Refreshed env state cache)
    (rules : ∀ merchant rule, middle.rule merchant = some rule →
      state.rule merchant = some rule ∨ BoundedRule rule)
    (default : ∀ rule, middle.defaultRule = some rule →
      state.defaultRule = some rule ∨ BoundedRule rule) :
    RulesBounded (middle.soft cache live events) where
  merchant := by
    intro merchant rule stored
    exact (rules merchant rule stored).elim (bounded.merchant _ _) id
  default := by
    intro rule stored
    exact (default rule stored).elim (bounded.default _) id
  cached := by
    intro rule stored
    cases refreshed with
    | kept => exact bounded.cached rule stored
    | answered answers =>
        cases stored
        exact trusted.fees _ answers

/-- A call that leaves the rules alone keeps them bounded. -/
theorem RulesBounded.of_same {state after : State}
    (bounded : RulesBounded state) (rule : after.rule = state.rule)
    (default : after.defaultRule = state.defaultRule)
    (cached : after.cachedGovRule = state.cachedGovRule) :
    RulesBounded after := by
  refine ⟨?_, ?_, ?_⟩
  · rw [rule]
    exact bounded.merchant
  · rw [default]
    exact bounded.default
  · rw [cached]
    exact bounded.cached

theorem Applied.rules_bounded {env : Env} {state after : State}
    {actor : Address} {operation : Operation}
    (applied : Applied env state actor operation after)
    (trusted : Trusted env state) (bounded : RulesBounded state) :
    RulesBounded after := by
  cases applied with
  | unregisterMerchant registered refreshed clearing =>
      exact bounded.soft trusted refreshed
        (fun _ _ stored => .inl (update_none_eq_some stored))
        (fun _ stored => .inl stored)
  | @setSettlementRule merchant _ _ _ _ refreshed registered allowed =>
      refine bounded.soft trusted refreshed ?_ (fun _ stored => .inl stored)
      intro other found stored
      by_cases same : other = merchant
      · subst same
        simp only [Function.update_self, Option.some.injEq] at stored
        exact .inr (stored ▸ allowed)
      · simp only [Function.update_of_ne same] at stored
        exact .inl stored
  | clearSettlementRule refreshed removed =>
      exact bounded.soft trusted refreshed
        (fun _ _ stored => .inl (update_none_eq_some stored))
        (fun _ stored => .inl stored)
  | setDefaultRule allowed =>
      refine bounded.soft trusted .kept (fun _ _ stored => .inl stored) ?_
      intro _ same
      cases same
      exact .inr allowed
  | _ => exact bounded.of_same rfl rfl rfl

theorem Trusted.congr {env : Env} {left right : State}
    (trusted : Trusted env left)
    (same : left.governance = right.governance) : Trusted env right where
  fees := fun config answers => trusted.fees config (answers.congr same.symm)
  minimum := by
    simpa only [State.readMinPaymentAmount, same] using trusted.minimum

theorem Effect.rules_bounded {codec : Codec} {env : Env}
    {state after : State} {call : Call}
    (effect : Effect codec env state call after)
    (trusted : Trusted env state) (bounded : RulesBounded state) :
    RulesBounded after := by
  cases effect with
  | execute queued unpaused matured unvetoed applied =>
      have released := applied.rules_bounded (trusted.congr rfl)
        (bounded.of_same rfl rfl rfl)
      exact released.of_same rfl rfl rfl
  | cancelAll quorum unpaused small drained =>
      obtain ⟨slots, counter, rfl⟩ := drained.unchanged
      exact bounded.of_same rfl rfl rfl
  | administer direct quorum unpaused agreed prepared applied =>
      subst prepared
      exact applied.rules_bounded (trusted.congr rfl)
        (bounded.of_same rfl rfl rfl)
  | storePaymentReference _ _ _ _ _ _ sourced refreshed =>
      exact bounded.soft trusted refreshed (fun _ _ stored => .inl stored)
        (fun _ stored => .inl stored)
  | prunePayments quorum small pruned counted =>
      have table := pruned.table
      subst table
      exact bounded.of_same rfl rfl rfl
  | query reads refreshed =>
      exact bounded.soft trusted refreshed (fun _ _ stored => .inl stored)
        (fun _ stored => .inl stored)
  | _ => exact bounded.of_same rfl rfl rfl

/-! Every stored record accounts for its whole amount. -/

/-- The rule a record was priced with. -/
def PaymentRecord.rule (record : PaymentRecord) : SettlementRule where
  platformFeeBps := record.platformFeeBps
  networkFeeBps := record.networkFeeBps
  settlementDelayLedger := record.settlementDelayLedger
  autoSettle := record.autoSettle

/-- The split a record carries. -/
def PaymentRecord.split (record : PaymentRecord) : FeeSplit where
  grossAmount := record.amount
  platformFeeAmount := record.platformFeeAmount
  networkFeeAmount := record.networkFeeAmount
  merchantPayoutAmount := record.merchantPayoutAmount

/-- A record stored for `merchant` that conserves its amount. -/
structure Accounted (merchant : Address) (record : PaymentRecord) :
    Prop where
  owner : record.merchant = merchant
  amount : 0 ≤ record.amount.val
  platform : 0 ≤ record.platformFeeAmount.val
  network : 0 ≤ record.networkFeeAmount.val
  payout : 0 ≤ record.merchantPayoutAmount.val
  total : record.platformFeeAmount.val + record.networkFeeAmount.val +
    record.merchantPayoutAmount.val = record.amount.val
  priced : calculateSplit record.amount record.rule = .ok record.split
  genuine : record ≠ dummyRecord merchant

def PaymentsAccounted (state : State) : Prop :=
  ∀ merchant reference record,
    state.payment merchant reference = some record →
    Accounted merchant record

theorem paymentRecord_accounted {env : Env} {merchant : Address}
    {amount : I128} {rule : SettlementRule} {split : FeeSplit}
    (nonnegative : 0 ≤ amount.val) (bounded : BoundedRule rule)
    (priced : calculateSplit amount rule = .ok split) :
    Accounted merchant (paymentRecord env merchant amount rule split) := by
  obtain ⟨gross, platform, network, payout, total⟩ :=
    calculateSplit_conserves nonnegative priced
  refine ⟨rfl, nonnegative, platform, network, payout, total, ?_, ?_⟩
  · subst gross
    exact priced
  · intro placeholder
    have zero : rule.platformFeeBps = 0 :=
      congrArg PaymentRecord.platformFeeBps placeholder
    have least := bounded.platformAtLeast
    rw [zero] at least
    exact absurd least (by decide)

/-- A stored record was there before the call, or is the one it has just
priced. -/
theorem Effect.payment_cases {codec : Codec} {env : Env}
    {state after : State} {call : Call}
    (effect : Effect codec env state call after) {merchant : Address}
    {reference : BytesN 32} {record : PaymentRecord}
    (stored : after.payment merchant reference = some record) :
    state.payment merchant reference = some record ∨
      ∃ amount rule provenance split,
        (state.readMinPaymentAmount env).val ≤ amount.val ∧
        Sourced env state merchant ⟨rule, provenance⟩ ∧
        calculateSplit amount rule = .ok split ∧
        record = paymentRecord env merchant amount rule split := by
  cases effect with
  | execute queued unpaused matured unvetoed applied =>
      left
      rwa [State.soft_payment, applied.payment] at stored
  | cancelAll quorum unpaused small drained =>
      obtain ⟨slots, counter, rfl⟩ := drained.unchanged
      exact .inl stored
  | administer direct quorum unpaused agreed prepared applied =>
      subst prepared
      left
      rwa [applied.payment] at stored
  | @storePaymentReference owner named amount rule split _ _ _ _ _ _ _ enough
      _ sourced _ priced _ =>
      obtain ⟨provenance, sourced⟩ := sourced
      simp only [State.soft_payment, Function.update_apply] at stored
      split at stored
      · rename_i same
        subst same
        rw [Function.update_apply] at stored
        split at stored
        · cases stored
          exact .inr ⟨amount, rule, provenance, split, enough, sourced,
            priced, rfl⟩
        · exact .inl stored
      · exact .inl stored
  | @prunePayment _ owner =>
      left
      simp only [State.soft_payment, Function.update_apply] at stored
      split at stored
      · rename_i same
        subst same
        exact update_none_eq_some stored
      · exact stored
  | @prunePayments _ owner _ _ _ _ _ _ _ _ pruned _ =>
      left
      have table := pruned.table
      subst table
      simp only [State.soft_payment, Function.update_apply] at stored
      split at stored
      · rename_i same
        subst same
        exact (eraseIf_eq_some.mp stored).1
      · exact stored
  | _ => exact .inl stored

theorem Effect.payments_accounted {codec : Codec} {env : Env}
    {state after : State} {call : Call}
    (effect : Effect codec env state call after)
    (trusted : Trusted env state) (bounded : RulesBounded state)
    (accounted : PaymentsAccounted state) : PaymentsAccounted after := by
  intro merchant reference record stored
  rcases effect.payment_cases stored with kept | ⟨amount, rule, provenance,
    split, enough, sourced, priced, rfl⟩
  · exact accounted merchant reference record kept
  · exact paymentRecord_accounted (Int.le_trans trusted.minimum enough)
      (sourced.bounded bounded trusted) priced

/-- The rates and delay of every stored record are within bounds. -/
def PaymentsBounded (state : State) : Prop :=
  ∀ merchant reference record,
    state.payment merchant reference = some record →
    BoundedRule record.rule

theorem Effect.payments_bounded {codec : Codec} {env : Env}
    {state after : State} {call : Call}
    (effect : Effect codec env state call after)
    (trusted : Trusted env state) (bounded : RulesBounded state)
    (within : PaymentsBounded state) : PaymentsBounded after := by
  intro merchant reference record stored
  rcases effect.payment_cases stored with kept | ⟨amount, rule, provenance,
    split, _, sourced, _, rfl⟩
  · exact within merchant reference record kept
  · exact sourced.bounded bounded trusted

end BettaPay.Settlement
