import BettaPay.Settlement.Published

namespace BettaPay.Settlement

open BettaPay.Host
open BettaPay.Host.Tx (readState writeState)
open BettaPay.Common

/-! The events of an updated rule against what happened to the rule. -/

/-- The previous and the new rule, where the event reports an updated rule of
the merchant. -/
def Event.update (merchant : Address) :
    Event → Option (SettlementRule × SettlementRule)
  | .settlementRuleUpdated owner _ prev rule =>
      if owner = merchant then some (prev, rule) else none
  | _ => none

def updates (merchant : Address) (events : List Event) :
    List (SettlementRule × SettlementRule) :=
  events.filterMap (Event.update merchant)

@[simp] theorem updates_append (merchant : Address)
    (first second : List Event) :
    updates merchant (first ++ second) =
      updates merchant first ++ updates merchant second :=
  List.filterMap_append

/-- The same of the rule of all merchants without one. -/
def Event.defaultUpdate : Event → Option (SettlementRule × SettlementRule)
  | .defaultRuleUpdated _ prev rule => some (prev, rule)
  | _ => none

def defaultUpdates (events : List Event) :
    List (SettlementRule × SettlementRule) :=
  events.filterMap Event.defaultUpdate

@[simp] theorem defaultUpdates_append (first second : List Event) :
    defaultUpdates (first ++ second) =
      defaultUpdates first ++ defaultUpdates second :=
  List.filterMap_append

/-! What the operations and the calls are to report. -/

section Reports

variable {codec : Codec} {env : Env} {state : State} {actor : Address}

theorem updates_clearance {owner merchant : Address} :
    updates merchant (clearanceEvents env state actor owner) = [] ∧
      defaultUpdates (clearanceEvents env state actor owner) = [] := by
  unfold clearanceEvents
  cases state.rule owner <;> exact ⟨rfl, rfl⟩

/-- What is to be reported of the merchant's rule. -/
def Operation.update (env : Env) (state : State) (merchant : Address) :
    Operation → List (SettlementRule × SettlementRule)
  | .setSettlementRule owner rule =>
      if owner = merchant then
        [((state.effectiveRule env merchant).rule, rule)]
      else []
  | _ => []

/-- What is to be reported of the default rule: the rule before it is the
stored one or the built-in one, whatever governance says. -/
def Operation.defaultUpdate (state : State) :
    Operation → List (SettlementRule × SettlementRule)
  | .setDefaultRule rule =>
      [(state.defaultRule.getD bootstrapDefaultRule, rule)]
  | _ => []

theorem updates_publishes (operation : Operation) (merchant : Address) :
    updates merchant (operation.publishes env state actor) =
        operation.update env state merchant ∧
      defaultUpdates (operation.publishes env state actor) =
        operation.defaultUpdate state := by
  cases operation with
  | unregisterMerchant owner =>
      obtain ⟨silent, quiet⟩ :=
        @updates_clearance env state actor owner merchant
      simp only [Operation.publishes, updates_append, defaultUpdates_append,
        silent, quiet]
      exact ⟨rfl, rfl⟩
  | clearSettlementRule owner => exact updates_clearance
  | setSettlementRule owner rule =>
      refine ⟨?_, rfl⟩
      by_cases owned : owner = merchant
      · subst owned
        simp [updates, Operation.publishes, Operation.update, Event.update]
      · simp [updates, Operation.publishes, Operation.update, Event.update,
          owned]
  | _ => exact ⟨rfl, rfl⟩

/-- No call reports an update but for the operation that it is for. -/
theorem updates_call (call : Call) (reply : Reply) (merchant : Address) :
    updates merchant (call.publishes codec env state reply) =
        (call.operation.toList.flatMap fun operation =>
          operation.update env state merchant) ∧
      defaultUpdates (call.publishes codec env state reply) =
        call.operation.toList.flatMap (Operation.defaultUpdate state) := by
  cases direct : call.administers with
  | some task =>
      rcases task with ⟨signers, operation⟩
      obtain ⟨updated, changed⟩ := @updates_publishes env state
        (caller signers) operation merchant
      have consent : updates merchant call.consent = [] ∧
          defaultUpdates call.consent = [] := by
        cases call <;> exact ⟨rfl, rfl⟩
      rw [Call.operation_of_administers direct,
        publishes_of_administers direct, updates_append,
        defaultUpdates_append, consent.1, consent.2, updated, changed]
      simp
  | none =>
      cases call with
      | execute executor operation =>
          obtain ⟨updated, changed⟩ :=
            @updates_publishes env state executor operation merchant
          rw [Call.publishes, updates_append, defaultUpdates_append, updated,
            changed]
          simp [Call.operation, updates, defaultUpdates, Event.update,
            Event.defaultUpdate]
      | storePaymentReference owner reference amount =>
          cases reply with
          | split split =>
              simp only [Call.publishes, paymentEvents, bootstrapEvents]
              split <;> exact ⟨rfl, rfl⟩
          | _ => exact ⟨rfl, rfl⟩
      | prunePayment signers owner reference =>
          simp only [Call.publishes]
          cases state.payment owner reference <;> exact ⟨rfl, rfl⟩
      | cancelAll => cases reply <;> exact ⟨rfl, rfl⟩
      | prunePayments => cases reply <;> exact ⟨rfl, rfl⟩
      | _ =>
          first
          | exact ⟨rfl, rfl⟩
          | cases direct

end Reports

/-! The rule before an update can be resolved. -/

section Resolving

variable {codec : Codec} {env : Env} {merchant : Address} {actor : Address}
  {rule : SettlementRule} {before after : State} {result : Unit}

theorem storeRule_resolves
    (succeeded : storeRule env actor merchant rule before =
      .ok (result, after)) : before.resolutionError env merchant = none := by
  simp only [storeRule, Tx.bind_ok] at succeeded
  obtain ⟨prev, _, resolved, _⟩ := succeeded
  cases stored : before.rule merchant with
  | some own => simp [State.resolutionError, stored]
  | none =>
      simp only [previousRule, Tx.readState_bind, stored] at resolved
      exact readRuleOrDefault_resolved resolved

/-- Looking the merchant up first makes no difference. -/
theorem resolves_of_registered {looked : State}
    (registered : assertMerchantRegistered env merchant before =
      .ok (result, looked))
    (resolves : looked.resolutionError env merchant = none) :
    before.resolutionError env merchant = none := by
  obtain ⟨_, live, rfl⟩ := assertMerchantRegistered_ok registered
  exact resolves

theorem setSettlementRule_resolves {signers : List Address}
    (succeeded : setSettlementRule env signers merchant rule before =
      .ok (result, after)) : before.resolutionError env merchant = none := by
  simp only [setSettlementRule, Tx.bind_ok, assertAdminAndNotPaused_ok,
    unwrapFirst_ok, validateNonzeroAddress_ok] at succeeded
  obtain ⟨_, _, ⟨_, rfl⟩, _, _, ⟨_, rfl⟩, _, _, ⟨_, rfl⟩, _, _, looked, _, _,
    checked, _, _, capped, stored⟩ := succeeded
  obtain ⟨_, rfl⟩ := validateRuleBounds_ok checked
  obtain rfl := validateFeeAgainstGovernance_ok capped
  exact resolves_of_registered looked (storeRule_resolves stored)

theorem dispatch_resolves
    (succeeded : dispatch env actor (.setSettlementRule merchant rule)
      before = .ok (result, after)) :
    before.resolutionError env merchant = none := by
  simp only [dispatch, Timelocked.setSettlementRule, Tx.bind_ok,
    assertNotPaused_ok] at succeeded
  obtain ⟨_, _, ⟨_, rfl⟩, _, _, capped, _, _, looked, _, _, checked,
    stored⟩ := succeeded
  obtain rfl := validateFeeAgainstGovernance_ok capped
  obtain ⟨_, rfl⟩ := validateRuleBoundsTrapping_ok checked
  exact resolves_of_registered looked (storeRule_resolves stored)

theorem invoke_resolves {call : Call} {reply : Reply}
    (sets : call.operation = some (.setSettlementRule merchant rule))
    (succeeded : invoke codec env call before = .ok (reply, after)) :
    before.resolutionError env merchant = none := by
  cases call with
  | execute executor operation =>
      cases sets
      obtain ⟨_, ran, _⟩ := replying_ok.mp succeeded
      simp only [execute, Tx.bind_ok, consumeScheduledOperation_ok]
        at ran
      obtain ⟨opHash, _, validated, _, _, rfl, _, middle, dispatched, _⟩ :=
        ran
      obtain ⟨_, _, _, _, _, _, rfl⟩ := validateScheduledExecution_ok
        validated
      have resolves := dispatch_resolves dispatched
      exact resolves
  | setSettlementRule signers owner own =>
      cases sets
      obtain ⟨_, ran, _⟩ := replying_ok.mp succeeded
      exact setSettlementRule_resolves ran
  | _ => cases sets

theorem getEffectiveRule_resolved {next : Env} {state : State}
    (resolves : state.resolutionError env merchant = none)
    (agree : next.governance = env.governance) :
    ∃ later, getEffectiveRule next merchant state =
      .ok ((state.effectiveRule env merchant).rule, later) := by
  have decided := @readRuleOrDefaultNoBump_decided next merchant state _ rfl
  rw [resolutionError_congr agree, resolves] at decided
  obtain ⟨found, later, read⟩ := isOk_iff_exists.mp decided
  obtain ⟨same, _⟩ := readRuleOrDefaultNoBump_exact read
  rw [effectiveRule_congr agree] at same
  rw [same] at read
  exact ⟨later, read⟩

end Resolving

/-- What a committed call publishes about updated rules. -/
structure TellsUpdates (env : Env) (call : Call) (before after : State)
    (published : List Event) : Prop where
  extends_log : after.events = before.events ++ published
  /-- A rule that is set is stored and reported once, with the rule that the
  last read before, which governance answers the same, returns. -/
  set : ∀ merchant rule,
    call.operation = some (.setSettlementRule merchant rule) →
    ∃ prev, updates merchant published = [(prev, rule)] ∧
      (∀ last : Env, last.governance = env.governance →
        ∃ later, getEffectiveRule last merchant before = .ok (prev, later)) ∧
      after.rule merchant = some rule
  /-- The report of a default rule names the stored rule before it, or the
  built-in one. That is the rule which priced payments exactly when there was
  a stored one or governance yields the built-in one. -/
  setDefault : ∀ rule, call.operation = some (.setDefaultRule rule) →
    ∃ prev, defaultUpdates published = [(prev, rule)] ∧
      prev = before.defaultRule.getD bootstrapDefaultRule ∧
      after.defaultRule = some rule ∧
      (prev = (before.fallbackRule env).rule ↔
        before.defaultRule.isSome ∨
          ∀ governed, before.governanceRule env = some governed →
            governed = bootstrapDefaultRule)
  /-- Nothing else is reported. -/
  report : ∀ merchant, updates merchant published ≠ [] →
    ∃ rule, call.operation = some (.setSettlementRule merchant rule)
  reportDefault : defaultUpdates published ≠ [] →
    ∃ rule, call.operation = some (.setDefaultRule rule)

theorem default_priced_iff {env : Env} {state : State} :
    state.defaultRule.getD bootstrapDefaultRule =
        (state.fallbackRule env).rule ↔
      state.defaultRule.isSome ∨
        ∀ governed, state.governanceRule env = some governed →
          governed = bootstrapDefaultRule := by
  cases stored : state.defaultRule with
  | some rule => simp [State.fallbackRule, stored]
  | none =>
      cases answer : state.governanceRule env with
      | none => simp [State.fallbackRule, stored, answer]
      | some governed =>
          simp [State.fallbackRule, stored, answer, eq_comm]

/-- The state after an operation took effect on a merchant's rule. -/
theorem rule_stored {codec : Codec} {env : Env} {call : Call}
    {before after : State} {merchant : Address} {rule : SettlementRule}
    (effect : Effect codec env before call after)
    (sets : call.operation = some (.setSettlementRule merchant rule)) :
    after.rule merchant = some rule := by
  cases effect with
  | execute queued unpaused matured unvetoed applied =>
      cases sets
      cases applied with
      | setSettlementRule => simp
  | administer direct quorum unpaused agreed prepared applied =>
      rw [Call.operation_of_administers direct] at sets
      cases sets
      cases applied with
      | setSettlementRule => simp
  | query reads =>
      rw [Call.operation_of_isQuery reads] at sets
      cases sets
  | _ => cases sets

theorem defaultRule_stored {codec : Codec} {env : Env} {call : Call}
    {before after : State} {rule : SettlementRule}
    (effect : Effect codec env before call after)
    (sets : call.operation = some (.setDefaultRule rule)) :
    after.defaultRule = some rule := by
  cases effect with
  | execute queued unpaused matured unvetoed applied =>
      cases sets
      cases applied with
      | setDefaultRule => rfl
  | administer direct quorum unpaused agreed prepared applied =>
      rw [Call.operation_of_administers direct] at sets
      cases sets
      cases applied with
      | setDefaultRule => rfl
  | query reads =>
      rw [Call.operation_of_isQuery reads] at sets
      cases sets
  | _ => cases sets

/-- Every committed call that sets a rule, at once or through the timelock,
publishes one report of it, and the report is true; no other call reports
one. -/
theorem rule_updated_event_true (codec : Codec) (env : Env) (call : Call)
    (before after : State) (reply : Reply)
    (succeeded : invoke codec env call before = .ok (reply, after)) :
    ∃ published, TellsUpdates env call before after published := by
  have effect := invoke_effect succeeded
  have reports := @updates_call codec env before call reply
  refine ⟨_, invoke_publishes succeeded, ?_, ?_, ?_, ?_⟩
  · intro merchant rule sets
    refine ⟨(before.effectiveRule env merchant).rule, ?_, ?_,
      rule_stored effect sets⟩
    · rw [(reports merchant).1, sets]
      simp [Operation.update]
    · intro last agree
      exact getEffectiveRule_resolved (invoke_resolves sets succeeded) agree
  · intro rule sets
    refine ⟨_, ?_, rfl, defaultRule_stored effect sets, default_priced_iff⟩
    rw [(reports zeroAddress).2, sets]
    simp [Operation.defaultUpdate]
  · intro merchant told
    rw [(reports merchant).1] at told
    cases sets : call.operation with
    | none => simp [sets] at told
    | some operation =>
        rw [sets] at told
        cases operation with
        | setSettlementRule owner rule =>
            by_cases owned : owner = merchant
            · subst owned
              exact ⟨rule, rfl⟩
            · simp [Operation.update, owned] at told
        | _ => simp [Operation.update] at told
  · intro told
    rw [(reports zeroAddress).2] at told
    cases sets : call.operation with
    | none => simp [sets] at told
    | some operation =>
        rw [sets] at told
        cases operation with
        | setDefaultRule rule => exact ⟨rule, rfl⟩
        | _ => simp [Operation.defaultUpdate] at told

theorem rule_updated_event_true_sample :
    (run (step sampleCodec) State.initial sampleRuleRun).rule (.account 6) =
        some ⟨25, 10, 7, true⟩ ∧
      ∃ reply after, invoke sampleCodec (.granting 300)
          (.setSettlementRule [.account 1] (.account 6) ⟨40, 10, 7, true⟩)
          (run (step sampleCodec) State.initial sampleRuleRun) =
          .ok (reply, after) ∧
        ∃ published, TellsUpdates (.granting 300)
          (.setSettlementRule [.account 1] (.account 6) ⟨40, 10, 7, true⟩)
          (run (step sampleCodec) State.initial sampleRuleRun) after
          published := by
  have accepted : (invoke sampleCodec (.granting 300)
      (.setSettlementRule [.account 1] (.account 6) ⟨40, 10, 7, true⟩)
      (run (step sampleCodec) State.initial sampleRuleRun)).isOk = true := by
    decide
  obtain ⟨reply, after, ran⟩ := isOk_iff_exists.mp accepted
  exact ⟨by decide, reply, after, ran,
    rule_updated_event_true sampleCodec _ _ _ _ _ ran⟩

end BettaPay.Settlement
