import BettaPay.Settlement.Cache

namespace BettaPay.Settlement

open BettaPay.Host
open BettaPay.Host.Tx (readState writeState)
open BettaPay.Common

/-! The event of a cleared rule against what happened to the rule. -/

/-- The removed and the fallback rule, where the event reports a cleared rule
of the merchant. -/
def Event.clearing (merchant : Address) :
    Event → Option (SettlementRule × SettlementRule)
  | .settlementRuleCleared owner _ removed fallback =>
      if owner = merchant then some (removed, fallback) else none
  | _ => none

def clearings (merchant : Address) (events : List Event) :
    List (SettlementRule × SettlementRule) :=
  events.filterMap (Event.clearing merchant)

@[simp] theorem clearings_append (merchant : Address)
    (first second : List Event) :
    clearings merchant (first ++ second) =
      clearings merchant first ++ clearings merchant second :=
  List.filterMap_append

/-- The merchant whose rule the operation is to clear. -/
def Operation.clearsRule : Operation → Option Address
  | .clearSettlementRule merchant => some merchant
  | .unregisterMerchant merchant => some merchant
  | _ => none

def Call.clearsRule : Call → Option Address
  | .clearSettlementRule _ merchant => some merchant
  | .unregisterMerchant _ merchant => some merchant
  | .execute _ operation => operation.clearsRule
  | _ => none

theorem Call.clearsRule_eq (call : Call) :
    call.clearsRule = call.operation.bind Operation.clearsRule := by
  cases call <;> rfl

/-- What is to be reported: the rule stored, if any, and the rule that takes
its place. -/
def State.clearing (env : Env) (merchant : Address) (state : State) :
    List (SettlementRule × SettlementRule) :=
  (state.rule merchant).toList.map fun removed =>
    (removed, (state.fallbackRule env).rule)

/-- The merchant's rule is gone, and what is published says so. -/
structure Clears (env : Env) (merchant : Address) (before after : State) :
    Prop where
  reported : ∃ published, after.events = before.events ++ published ∧
    ∀ other, clearings other published =
      if merchant = other then before.clearing env merchant else []
  gone : after.rule merchant = none
  defaultRule : after.defaultRule = before.defaultRule
  governance : after.governance = before.governance
  cached : (before.rule merchant).isSome →
    after.cachedGovRule = before.fallbackCache env
  resolved : (before.rule merchant).isSome → before.fallbackError env = none

theorem readFallbackRule_resolved {env : Env} {before after : State}
    {rule : SettlementRule}
    (succeeded : readFallbackRule env before = .ok (rule, after)) :
    before.fallbackError env = none := by
  have decided := @readFallbackRule_decided env before _ rfl
  rw [succeeded] at decided
  cases check : before.fallbackError env with
  | none => rfl
  | some error =>
      rw [check] at decided
      cases decided

/-- The rule that takes the place of a removed one does not depend on it. -/
theorem fallbackRule_settled {env : Env} {before after : State}
    (defaultRule : after.defaultRule = before.defaultRule)
    (governance : after.governance = before.governance)
    (cached : after.cachedGovRule = before.fallbackCache env) :
    after.fallbackRule env = before.fallbackRule env ∧
      after.fallbackError env = before.fallbackError env := by
  have reading : after.reading env = before.reading env := by
    unfold State.reading
    rw [governance]
  simp only [State.fallbackError, State.fallbackRule, reading, defaultRule]
  refine ⟨?_, trivial⟩
  cases stored : before.defaultRule with
  | some rule => rfl
  | none =>
      have same : after.governanceRule env = before.governanceRule env := by
        simp only [State.governanceRule, reading]
        cases answer : before.reading env with
        | outage =>
            simp only [State.readCachedGovernanceFeeRule, cached,
              State.fallbackCache, stored, State.refreshedCache, answer]
        | _ => rfl
      rw [same]

/-! The emitters. -/

/-- The state without the merchant's rule. -/
def State.unruled (state : State) (merchant : Address) : State :=
  { state with rule := Function.update state.rule merchant none }

theorem removal_clears {env : Env} {actor merchant : Address}
    {before middle : State} {removed fallback : SettlementRule}
    (stored : before.rule merchant = some removed)
    (resolved : readFallbackRule env (before.unruled merchant) =
      .ok (fallback, middle)) :
    Clears env merchant before
      (middle.soft middle.cachedGovRule middle.liveUntil
        [.settlementRuleCleared merchant actor removed fallback]) := by
  have resolves := readFallbackRule_resolved resolved
  obtain ⟨rfl, rfl⟩ := readFallbackRule_exact resolved
  rw [State.soft_soft]
  refine ⟨⟨_, rfl, ?_⟩, Function.update_self .., rfl, rfl,
    fun _ => rfl, fun _ => resolves⟩
  intro other
  by_cases owned : merchant = other
  · subst owned
    simp only [List.nil_append, clearings, List.filterMap_cons,
      Event.clearing, State.clearing, stored, List.filterMap_nil, if_true]
    rfl
  · simp [clearings, Event.clearing, owned]

/-- Events in front of and behind the report that are not about rules, and
changes to other entries, make no difference. -/
theorem Clears.widen {env : Env} {merchant : Address}
    {before before' after after' : State} {first last : List Event}
    (clears : Clears env merchant before' after')
    (started : before'.events = before.events ++ first)
    (ended : after.events = after'.events ++ last)
    (silent : ∀ other, clearings other (first ++ last) = [])
    (rules : before'.rule = before.rule)
    (ruled : after.rule = after'.rule)
    (config : before'.defaultRule = before.defaultRule ∧
      before'.governance = before.governance ∧
      before'.cachedGovRule = before.cachedGovRule)
    (kept : after.defaultRule = after'.defaultRule ∧
      after.governance = after'.governance ∧
      after.cachedGovRule = after'.cachedGovRule) :
    Clears env merchant before after := by
  obtain ⟨defaultRule, governance, cached⟩ := config
  obtain ⟨defaultRule', governance', cached'⟩ := kept
  have reading : before'.reading env = before.reading env := by
    unfold State.reading
    rw [governance]
  have fallback : before'.fallbackRule env = before.fallbackRule env := by
    simp only [State.fallbackRule, State.governanceRule,
      State.readCachedGovernanceFeeRule, reading, defaultRule, cached]
  have cache : before'.fallbackCache env = before.fallbackCache env := by
    simp only [State.fallbackCache, State.refreshedCache, reading,
      defaultRule, cached]
  have error : before'.fallbackError env = before.fallbackError env := by
    simp only [State.fallbackError, reading, defaultRule]
  obtain ⟨published, extended, told⟩ := clears.reported
  refine ⟨⟨first ++ (published ++ last), ?_, ?_⟩, ?_, ?_, ?_, ?_, ?_⟩
  · rw [ended, extended, started, List.append_assoc, List.append_assoc]
  · intro other
    have quiet := silent other
    rw [clearings_append, List.append_eq_nil_iff] at quiet
    rw [clearings_append, clearings_append, quiet.1, quiet.2, told other,
      List.append_nil, List.nil_append]
    simp only [State.clearing, rules, fallback]
  · rw [ruled]
    exact clears.gone
  · rw [defaultRule', clears.defaultRule, defaultRule]
  · rw [governance', clears.governance, governance]
  · intro stored
    rw [cached', clears.cached (by rw [rules]; exact stored), cache]
  · intro stored
    rw [← error]
    exact clears.resolved (by rw [rules]; exact stored)

theorem clearMerchantRule_clears {env : Env} {actor merchant : Address}
    {before after : State} {result : Unit}
    (succeeded : clearMerchantRule env actor merchant before =
      .ok (result, after)) : Clears env merchant before after := by
  simp only [clearMerchantRule, Tx.readState_bind] at succeeded
  cases stored : before.rule merchant with
  | none =>
      simp only [stored, Tx.pure_ok] at succeeded
      obtain ⟨_, rfl⟩ := succeeded
      refine ⟨⟨[], (List.append_nil _).symm, ?_⟩, stored, rfl, rfl, ?_, ?_⟩
      · intro other
        simp [State.clearing, stored, clearings]
      · simp [stored]
      · simp [stored]
  | some removed =>
      simp only [stored, removeRule, Tx.bind_ok, Tx.writeState_ok, emit_ok]
        at succeeded
      obtain ⟨_, _, rfl, fallback, _, resolved, rfl⟩ := succeeded
      exact removal_clears stored resolved

theorem removeMerchant_clears {env : Env} {actor merchant : Address}
    {before after : State} {result : Unit}
    (succeeded : removeMerchant env actor merchant before =
      .ok (result, after)) : Clears env merchant before after := by
  simp only [removeMerchant, setArchivedMerchant, Tx.readState_bind,
    Tx.bind_ok, rejectIf_ok, Tx.writeState_ok, extendTtl_ok, emit_ok]
    at succeeded
  obtain ⟨_, _, ⟨_, rfl⟩, _, _, rfl, _, _, rfl, _, _, rfl, _, _, cleared,
    rfl⟩ := succeeded
  exact (clearMerchantRule_clears cleared).widen rfl rfl
    (fun _ => rfl) rfl rfl ⟨rfl, rfl, rfl⟩ ⟨rfl, rfl, rfl⟩

theorem clearSettlementRule_clears {env : Env} {signers : List Address}
    {merchant : Address} {before after : State} {result : Unit}
    (succeeded : clearSettlementRule env signers merchant before =
      .ok (result, after)) : Clears env merchant before after := by
  simp only [clearSettlementRule, removeRule, Tx.readState_bind, Tx.bind_ok,
    assertAdminAndNotPaused_ok, unwrapFirst_ok, orReject_ok,
    Tx.writeState_ok, emit_ok] at succeeded
  obtain ⟨_, _, ⟨_, rfl⟩, _, _, ⟨_, rfl⟩, removed, _, ⟨stored, rfl⟩, _, _,
    rfl, fallback, _, resolved, rfl⟩ := succeeded
  exact removal_clears stored resolved

/-- The other reader, where there is no rule left to read. -/
theorem readRuleOrDefault_unruled {env : Env} {merchant : Address}
    {state : State} :
    readRuleOrDefault env merchant (state.unruled merchant) =
      readFallbackRule env (state.unruled merchant) := by
  have absent : (state.unruled merchant).rule merchant = none :=
    Function.update_self ..
  have unbumped : bumpRule env merchant (state.unruled merchant) =
      .ok ((), state.unruled merchant) := by
    simp [bumpRule, absent]
  have same : readEffectiveRuleNoBump env merchant
      (state.unruled merchant) =
      readEffectiveFallbackRule env (state.unruled merchant) := by
    simp only [readEffectiveRuleNoBump, Tx.readState_bind, absent]
  unfold readRuleOrDefault readRuleOrDefaultNoBump readFallbackRule
  rw [Tx.bind_of_ok unbumped]
  cases attempt : readEffectiveFallbackRule env
      (state.unruled merchant) with
  | ok outcome =>
      rw [Tx.bind_of_ok (same.trans attempt), Tx.bind_of_ok attempt]
  | error failure =>
      rw [Tx.bind_error.mpr (.inl (same.trans attempt)),
        Tx.bind_error.mpr (.inl attempt)]

theorem dispatch_clears {env : Env} {executor merchant : Address}
    {operation : Operation} {before after : State} {result : Unit}
    (about : operation.clearsRule = some merchant)
    (succeeded : dispatch env executor operation before =
      .ok (result, after)) : Clears env merchant before after := by
  cases operation with
  | clearSettlementRule owner =>
      cases about
      simp only [dispatch, Timelocked.clearSettlementRule, removeRule,
        Tx.readState_bind, Tx.bind_ok, assertNotPaused_ok, orReject_ok,
        Tx.writeState_ok, emit_ok] at succeeded
      obtain ⟨_, _, ⟨_, rfl⟩, removed, _, ⟨stored, rfl⟩, _, _, rfl, fallback,
        _, resolved, rfl⟩ := succeeded
      exact removal_clears stored (readRuleOrDefault_unruled ▸ resolved)
  | unregisterMerchant owner =>
      cases about
      simp only [dispatch, Timelocked.unregisterMerchant, Tx.bind_ok,
        assertNotPaused_ok] at succeeded
      obtain ⟨_, _, ⟨_, rfl⟩, removed⟩ := succeeded
      exact removeMerchant_clears removed
  | _ => cases about

/-! Whole calls. -/

section Calls

variable {codec : Codec} {env : Env} {before after : State} {call : Call}
  {reply : Reply}

theorem execute_clears {executor merchant : Address}
    {operation : Operation} {result : Unit}
    (about : operation.clearsRule = some merchant)
    (succeeded : execute codec env executor operation before =
      .ok (result, after)) : Clears env merchant before after := by
  simp only [execute, Tx.bind_ok, consumeScheduledOperation_ok, emit_ok]
    at succeeded
  obtain ⟨opHash, _, validated, _, _, rfl, _, middle, dispatched, rfl⟩ :=
    succeeded
  obtain ⟨_, _, _, _, _, _, rfl⟩ := validateScheduledExecution_ok validated
  exact (dispatch_clears about dispatched).widen
    (List.append_nil _).symm rfl (fun _ => rfl) rfl rfl ⟨rfl, rfl, rfl⟩
    ⟨rfl, rfl, rfl⟩

theorem invoke_clears {merchant : Address}
    (about : call.clearsRule = some merchant)
    (succeeded : invoke codec env call before = .ok (reply, after)) :
    Clears env merchant before after := by
  cases call with
  | clearSettlementRule signers owner =>
      cases about
      obtain ⟨_, ran, _⟩ := replying_ok.mp succeeded
      exact clearSettlementRule_clears ran
  | unregisterMerchant signers owner =>
      cases about
      obtain ⟨_, ran, _⟩ := replying_ok.mp succeeded
      simp only [unregisterMerchant, Tx.bind_ok, assertAdminAndNotPaused_ok,
        unwrapFirst_ok] at ran
      obtain ⟨_, _, ⟨_, rfl⟩, _, _, ⟨_, rfl⟩, removed⟩ := ran
      exact removeMerchant_clears removed
  | execute executor operation =>
      obtain ⟨_, ran, _⟩ := replying_ok.mp succeeded
      exact execute_clears about ran
  | _ => cases about

theorem Applied.unclearing {actor : Address} {operation : Operation}
    (applied : Applied env before actor operation after)
    (unrelated : operation.clearsRule = none) :
    ∃ published, after.events = before.events ++ published ∧
      ∀ merchant, clearings merchant published = [] := by
  cases applied with
  | unregisterMerchant => cases unrelated
  | clearSettlementRule => cases unrelated
  | _ => exact ⟨_, rfl, fun _ => rfl⟩

/-- Whatever else a call publishes, it is no report of a cleared rule. -/
theorem Effect.unclearing (effect : Effect codec env before call after)
    (unrelated : call.clearsRule = none) :
    ∃ published, after.events = before.events ++ published ∧
      ∀ merchant, clearings merchant published = [] := by
  cases effect with
  | init | pruneNothing =>
      exact ⟨[], (List.append_nil _).symm, fun _ => rfl⟩
  | @execute _ operation _ _ queued unpaused matured unvetoed applied =>
      obtain ⟨published, extended, silent⟩ := applied.unclearing unrelated
      refine ⟨published ++ [.opExecuted (codec.hash operation)], ?_, ?_⟩
      · rw [State.soft_events, extended, List.append_assoc]
        rfl
      · intro merchant
        rw [clearings_append, silent]
        rfl
  | cancelAll quorum unpaused bounded drained =>
      obtain ⟨slots, counter, rfl⟩ := drained.unchanged
      exact ⟨_, rfl, fun _ => rfl⟩
  | administer direct quorum unpaused agreed prepared applied =>
      subst prepared
      rw [Call.clearsRule_eq, Call.operation_of_administers direct]
        at unrelated
      obtain ⟨published, extended, silent⟩ := applied.unclearing unrelated
      rw [State.soft_events, List.append_assoc] at extended
      refine ⟨_, extended, ?_⟩
      intro merchant
      rw [clearings_append, silent]
      rcases agreed with rfl | ⟨_, rfl⟩ <;> rfl
  | storePaymentReference =>
      refine ⟨_, rfl, ?_⟩
      intro merchant
      rw [clearings_append, bootstrapEvents]
      split <;> rfl
  | prunePayments quorum bounded pruned counted =>
      have table := pruned.table
      subst table
      exact ⟨_, rfl, fun _ => rfl⟩
  | _ => exact ⟨_, rfl, fun _ => rfl⟩

/-- A merchant's rule is removed only by the calls that are to clear it. -/
theorem clearsRule_of_removed {merchant : Address}
    {removed : SettlementRule}
    (succeeded : invoke codec env call before = .ok (reply, after))
    (stored : before.rule merchant = some removed)
    (gone : after.rule merchant = none) :
    call.clearsRule = some merchant := by
  rw [Call.clearsRule_eq]
  rcases (invoke_effect succeeded).registryStep.rule_removed stored gone
    with same | same
  · rw [same]
    rfl
  · rw [same]
    rfl

end Calls

/-- What a committed call publishes about the merchant's rule. -/
structure TellsClearing (env : Env) (call : Call) (merchant : Address)
    (before after : State) (published : List Event) : Prop where
  extends_log : after.events = before.events ++ published
  /-- A rule that disappears does so in one of the calls that are to clear
  it, and is reported once: the rule removed, and the one that the next
  read, which governance answers the same, returns. -/
  removal : ∀ removed, before.rule merchant = some removed →
    after.rule merchant = none →
    call.clearsRule = some merchant ∧
    ∀ next : Env, next.governance = env.governance →
      ∃ fallback later,
        getEffectiveRule next merchant after = .ok (fallback, later) ∧
        clearings merchant published = [(removed, fallback)]
  /-- A report means that there was a rule, and that it is gone. -/
  report : clearings merchant published ≠ [] →
    (before.rule merchant).isSome ∧ after.rule merchant = none

theorem getEffectiveRule_cleared {env next : Env} {merchant : Address}
    {before after : State} {removed : SettlementRule}
    (clears : Clears env merchant before after)
    (stored : before.rule merchant = some removed)
    (agree : next.governance = env.governance) :
    ∃ later, getEffectiveRule next merchant after =
      .ok ((before.fallbackRule env).rule, later) := by
  have present : (before.rule merchant).isSome := by
    rw [stored]
    rfl
  obtain ⟨rule, error⟩ := fallbackRule_settled clears.defaultRule
    clears.governance (clears.cached present)
  have resolves : none = after.resolutionError next merchant := by
    rw [resolutionError_congr agree, State.resolutionError, clears.gone,
      error, clears.resolved present]
  have decided := readRuleOrDefaultNoBump_decided resolves
  obtain ⟨found, later, read⟩ := isOk_iff_exists.mp decided
  obtain ⟨same, _⟩ := readRuleOrDefaultNoBump_exact read
  rw [effectiveRule_congr agree, State.effectiveRule, clears.gone, rule]
    at same
  rw [same] at read
  exact ⟨later, read⟩

/-- Every committed call publishes one report for each rule it clears, and
the report is true; and none for a rule that it does not. -/
theorem rule_cleared_event_true (codec : Codec) (env : Env) (call : Call)
    (before after : State) (reply : Reply)
    (succeeded : invoke codec env call before = .ok (reply, after)) :
    ∃ published, ∀ merchant,
      TellsClearing env call merchant before after published := by
  cases about : call.clearsRule with
  | none =>
      obtain ⟨published, extended, silent⟩ :=
        (invoke_effect succeeded).unclearing about
      refine ⟨published, fun merchant => ⟨extended, ?_, ?_⟩⟩
      · intro removed stored gone
        rw [clearsRule_of_removed succeeded stored gone] at about
        cases about
      · intro told
        exact absurd (silent merchant) told
  | some owner =>
      have clears := invoke_clears about succeeded
      obtain ⟨published, extended, reported⟩ := clears.reported
      refine ⟨published, fun merchant => ⟨extended, ?_, ?_⟩⟩
      · intro removed stored gone
        have same := clearsRule_of_removed succeeded stored gone
        rw [about] at same
        cases same
        refine ⟨about, ?_⟩
        intro next agree
        obtain ⟨later, read⟩ := getEffectiveRule_cleared clears stored agree
        refine ⟨_, later, read, ?_⟩
        rw [reported, if_pos rfl, State.clearing, stored]
        rfl
      · intro told
        rw [reported] at told
        split at told
        · rename_i same
          subst same
          refine ⟨?_, clears.gone⟩
          cases stored : before.rule owner with
          | none => simp [State.clearing, stored] at told
          | some rule => rfl
        · exact absurd rfl told

/-- A merchant with a rule of its own. -/
def sampleRuleRun : List Input :=
  [⟨.granting 0, .init (.account 9) [.account 1] 1 (.contract 5)
      (.account 2)⟩,
    ⟨.granting 100, .registerMerchant [.account 1] (.account 6)⟩,
    ⟨.granting 200, .setSettlementRule [.account 1] (.account 6)
      ⟨25, 10, 7, true⟩⟩]

theorem rule_cleared_event_true_sample :
    (run (step sampleCodec) State.initial sampleRuleRun).rule (.account 6) =
        some ⟨25, 10, 7, true⟩ ∧
      ∃ reply after, invoke sampleCodec (.granting 300)
          (.clearSettlementRule [.account 1] (.account 6))
          (run (step sampleCodec) State.initial sampleRuleRun) =
          .ok (reply, after) ∧
        ∃ published, ∀ merchant, TellsClearing (.granting 300)
          (.clearSettlementRule [.account 1] (.account 6)) merchant
          (run (step sampleCodec) State.initial sampleRuleRun) after
          published := by
  have accepted : (invoke sampleCodec (.granting 300)
      (.clearSettlementRule [.account 1] (.account 6))
      (run (step sampleCodec) State.initial sampleRuleRun)).isOk = true := by
    decide
  obtain ⟨reply, after, ran⟩ := isOk_iff_exists.mp accepted
  exact ⟨by decide, reply, after, ran,
    rule_cleared_event_true sampleCodec _ _ _ _ _ ran⟩

end BettaPay.Settlement
