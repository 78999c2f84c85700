import BettaPay.Host.Checks
import BettaPay.Settlement.Registry

namespace BettaPay.Settlement

open BettaPay.Host
open BettaPay.Host.Tx (readState writeState)
open BettaPay.Common

/-! Rule resolution as a function of the state and of what governance
answers. -/

/-- What a resolution learns from the configured governance. -/
inductive Reading where
  | bypassed
  | outage
  | malformed (error : SettlementError)
  | answered (config : Option GovFeeConfig)

/-- An answer, decoded. -/
def Reading.ofAnswer : Answer → Reading
  | .value rawVal =>
      match classifyGovernanceFeeConfig rawVal with
      | .ok config => .answered config
      | .error error => .malformed error
  | _ => .outage

def State.reading (env : Env) (state : State) : Reading :=
  match state.governance with
  | none => .bypassed
  | some governance =>
      if governanceBypassEnabled env governance then .bypassed
      else .ofAnswer (env.governance governance).getFeeConfig

/-- The rule governance stands for at this moment. -/
def State.governanceRule (env : Env) (state : State) :
    Option SettlementRule :=
  match state.reading env with
  | .outage => state.readCachedGovernanceFeeRule
  | .answered config => config.map GovFeeConfig.toRule
  | _ => none

/-- The cache after a resolution that got as far as governance. -/
def State.refreshedCache (env : Env) (state : State) :
    Option (Option SettlementRule) :=
  match state.reading env with
  | .answered (some config) => some (some config.toRule)
  | _ => state.cachedGovRule

def State.fallbackRule (env : Env) (state : State) : EffectiveRule :=
  match state.defaultRule with
  | some rule => ⟨rule, .default⟩
  | none =>
      match state.governanceRule env with
      | some rule => ⟨rule, .governance⟩
      | none => ⟨bootstrapDefaultRule, .bootstrap⟩

def State.fallbackCache (env : Env) (state : State) :
    Option (Option SettlementRule) :=
  match state.defaultRule with
  | some _ => state.cachedGovRule
  | none => state.refreshedCache env

def State.effectiveRule (env : Env) (merchant : Address) (state : State) :
    EffectiveRule :=
  match state.rule merchant with
  | some rule => ⟨rule, .merchant⟩
  | none => state.fallbackRule env

def State.effectiveCache (env : Env) (merchant : Address) (state : State) :
    Option (Option SettlementRule) :=
  match state.rule merchant with
  | some _ => state.cachedGovRule
  | none => state.fallbackCache env

def State.recached (state : State) (cache : Option (Option SettlementRule)) :
    State :=
  { state with cachedGovRule := cache }

theorem readGovernanceFeeRule_eq (env : Env) (state : State) :
    readGovernanceFeeRule env state =
      match state.reading env with
      | .malformed error => .error (.error error)
      | _ => .ok (state.governanceRule env,
          state.recached (state.refreshedCache env)) := by
  simp only [readGovernanceFeeRule, Tx.readState_bind, State.governanceRule,
    State.refreshedCache, State.reading]
  cases state.governance with
  | none => rfl
  | some governance =>
      simp only
      split
      · rfl
      · cases (env.governance governance).getFeeConfig with
        | error code => rfl
        | trap => rfl
        | value rawVal =>
            simp only [Reading.ofAnswer, tryReadGovernanceFeeConfig]
            cases classifyGovernanceFeeConfig rawVal with
            | error error => rfl
            | ok config => cases config <;> rfl

/-- Every resolution that succeeds yields the rule of its tier and leaves the
cache as that tier does. -/
theorem readGovernanceFeeRule_exact {env : Env} {before after : State}
    {rule : Option SettlementRule}
    (succeeded : readGovernanceFeeRule env before = .ok (rule, after)) :
    rule = before.governanceRule env ∧
      after = before.soft (before.refreshedCache env) before.liveUntil
        [] := by
  rw [readGovernanceFeeRule_eq] at succeeded
  split at succeeded
  · cases succeeded
  · cases succeeded
    exact ⟨rfl, by simp [State.soft, State.recached]⟩

theorem readEffectiveFallbackRule_exact {env : Env} {before after : State}
    {effective : EffectiveRule}
    (succeeded : readEffectiveFallbackRule env before =
      .ok (effective, after)) :
    effective = before.fallbackRule env ∧
      after = before.soft (before.fallbackCache env) before.liveUntil
        [] := by
  simp only [readEffectiveFallbackRule, Tx.readState_bind] at succeeded
  simp only [State.fallbackRule, State.fallbackCache]
  cases stored : before.defaultRule with
  | some rule =>
      simp only [stored, Tx.pure_ok] at succeeded
      obtain ⟨rfl, rfl⟩ := succeeded
      exact ⟨rfl, (State.soft_self before).symm⟩
  | none =>
      simp only [stored, Tx.bind_ok] at succeeded
      obtain ⟨rule, middle, asked, chosen⟩ := succeeded
      obtain ⟨rfl, rfl⟩ := readGovernanceFeeRule_exact asked
      cases found : before.governanceRule env with
      | none =>
          rw [found] at chosen
          obtain ⟨rfl, rfl⟩ := Tx.pure_ok.mp chosen
          exact ⟨rfl, rfl⟩
      | some rule =>
          rw [found] at chosen
          obtain ⟨rfl, rfl⟩ := Tx.pure_ok.mp chosen
          exact ⟨rfl, rfl⟩

theorem readFallbackRule_exact {env : Env} {before after : State}
    {rule : SettlementRule}
    (succeeded : readFallbackRule env before = .ok (rule, after)) :
    rule = (before.fallbackRule env).rule ∧
      after = before.soft (before.fallbackCache env) before.liveUntil
        [] := by
  simp only [readFallbackRule, Tx.bind_ok, Tx.pure_ok] at succeeded
  obtain ⟨_, _, resolved, rfl, rfl⟩ := succeeded
  obtain ⟨rfl, kept⟩ := readEffectiveFallbackRule_exact resolved
  exact ⟨rfl, kept⟩

theorem readEffectiveRuleNoBump_exact {env : Env} {merchant : Address}
    {before after : State} {effective : EffectiveRule}
    (succeeded : readEffectiveRuleNoBump env merchant before =
      .ok (effective, after)) :
    effective = before.effectiveRule env merchant ∧
      after = before.soft (before.effectiveCache env merchant)
        before.liveUntil [] := by
  simp only [readEffectiveRuleNoBump, Tx.readState_bind] at succeeded
  simp only [State.effectiveRule, State.effectiveCache]
  cases stored : before.rule merchant with
  | some rule =>
      simp only [stored, Tx.pure_ok] at succeeded
      obtain ⟨rfl, rfl⟩ := succeeded
      exact ⟨rfl, (State.soft_self before).symm⟩
  | none =>
      simp only [stored] at succeeded
      exact readEffectiveFallbackRule_exact succeeded

theorem readRuleOrDefaultNoBump_exact {env : Env} {merchant : Address}
    {before after : State} {rule : SettlementRule}
    (succeeded : readRuleOrDefaultNoBump env merchant before =
      .ok (rule, after)) :
    rule = (before.effectiveRule env merchant).rule ∧
      after = before.soft (before.effectiveCache env merchant)
        before.liveUntil [] := by
  simp only [readRuleOrDefaultNoBump, Tx.bind_ok, Tx.pure_ok] at succeeded
  obtain ⟨_, _, resolved, rfl, rfl⟩ := succeeded
  obtain ⟨rfl, kept⟩ := readEffectiveRuleNoBump_exact resolved
  exact ⟨rfl, kept⟩

theorem readRuleOrDefault_exact {env : Env} {merchant : Address}
    {before after : State} {rule : SettlementRule}
    (succeeded : readRuleOrDefault env merchant before =
      .ok (rule, after)) :
    rule = (before.effectiveRule env merchant).rule ∧
      ∃ live, after =
        before.soft (before.effectiveCache env merchant) live [] := by
  simp only [readRuleOrDefault, Tx.bind_ok] at succeeded
  obtain ⟨_, middle, bumped, resolved⟩ := succeeded
  obtain ⟨live, rfl⟩ := bumpRule_ok bumped
  obtain ⟨rfl, rfl⟩ := readRuleOrDefaultNoBump_exact resolved
  refine ⟨rfl, live, ?_⟩
  rw [State.soft_soft]
  rfl

/-- A resolution fails only over an answer that cannot be decoded. -/
theorem readEffectiveFallbackRule_succeeds {env : Env} {state : State}
    (readable : ∀ error, state.reading env ≠ .malformed error) :
    ∃ after, readEffectiveFallbackRule env state =
      .ok (state.fallbackRule env, after) := by
  have asked : readGovernanceFeeRule env state =
      .ok (state.governanceRule env,
        state.recached (state.refreshedCache env)) := by
    rw [readGovernanceFeeRule_eq]
    split
    · rename_i error malformed
      exact absurd malformed (readable error)
    · rfl
  simp only [readEffectiveFallbackRule, Tx.readState_bind,
    State.fallbackRule]
  cases state.defaultRule with
  | some rule => exact ⟨_, rfl⟩
  | none =>
      simp only
      rw [Tx.bind_of_ok asked]
      cases state.governanceRule env <;> exact ⟨_, rfl⟩

theorem readEffectiveRuleNoBump_succeeds {env : Env} {merchant : Address}
    {state : State}
    (readable : ∀ error, state.reading env ≠ .malformed error) :
    ∃ after, readEffectiveRuleNoBump env merchant state =
      .ok (state.effectiveRule env merchant, after) := by
  simp only [readEffectiveRuleNoBump, Tx.readState_bind,
    State.effectiveRule]
  cases state.rule merchant with
  | some rule => exact ⟨_, rfl⟩
  | none => exact readEffectiveFallbackRule_succeeds readable

/-! What a resolution fails with. -/

/-- The error of a resolution that gets as far as governance. -/
def State.fallbackError (env : Env) (state : State) :
    Option SettlementError :=
  match state.defaultRule with
  | some _ => none
  | none =>
      match state.reading env with
      | .malformed error => some error
      | _ => none

def State.resolutionError (env : Env) (merchant : Address)
    (state : State) : Option SettlementError :=
  match state.rule merchant with
  | some _ => none
  | none => state.fallbackError env

/-- A reading depends on the call only through what governance answers. -/
theorem reading_congr {env direct : Env}
    (agree : direct.governance = env.governance) (state : State) :
    state.reading direct = state.reading env := by
  have bypass : ∀ governance, governanceBypassEnabled direct governance =
      governanceBypassEnabled env governance := by
    intro governance
    simp only [governanceBypassEnabled, agree]
  simp only [State.reading, bypass, agree]

theorem fallbackError_congr {env direct : Env}
    (agree : direct.governance = env.governance) (state : State) :
    state.fallbackError direct = state.fallbackError env := by
  simp only [State.fallbackError, reading_congr agree]

theorem resolutionError_congr {env direct : Env}
    (agree : direct.governance = env.governance) (merchant : Address)
    (state : State) :
    state.resolutionError direct merchant =
      state.resolutionError env merchant := by
  simp only [State.resolutionError, fallbackError_congr agree]

theorem effectiveRule_congr {env direct : Env}
    (agree : direct.governance = env.governance) (merchant : Address)
    (state : State) :
    state.effectiveRule direct merchant =
      state.effectiveRule env merchant := by
  simp only [State.effectiveRule, State.fallbackRule, State.governanceRule,
    reading_congr agree]

section Resolutions

variable {env : Env} {merchant : Address} {state : State}
  {check : Option SettlementError}

theorem readEffectiveFallbackRule_decided :
    Decided [state.fallbackError env]
      (readEffectiveFallbackRule env state) := by
  simp only [State.fallbackError]
  cases stored : state.defaultRule with
  | some rule =>
      simp only [readEffectiveFallbackRule, Tx.readState_bind, stored]
      exact .skip (.done rfl)
  | none =>
      cases answer : state.reading env with
      | malformed error =>
          have asked : readGovernanceFeeRule env state =
              .error (.error error) := by
            rw [readGovernanceFeeRule_eq, answer]
          simp only [readEffectiveFallbackRule, Tx.readState_bind, stored]
          exact Tx.bind_error.mpr (.inl asked)
      | _ =>
          obtain ⟨after, resolved⟩ :=
            @readEffectiveFallbackRule_succeeds env state (by simp [answer])
          exact .skip (.done (isOk_iff_exists.mpr ⟨_, after, resolved⟩))

theorem readFallbackRule_decided
    (resolves : check = state.fallbackError env) :
    Decided [check] (readFallbackRule env state) := by
  subst resolves
  exact .andThen readEffectiveFallbackRule_decided fun _ _ => rfl

theorem readEffectiveRuleNoBump_decided
    (resolves : check = state.resolutionError env merchant) :
    Decided [check] (readEffectiveRuleNoBump env merchant state) := by
  subst resolves
  simp only [State.resolutionError, readEffectiveRuleNoBump,
    Tx.readState_bind]
  cases stored : state.rule merchant with
  | some rule => exact .skip (.done rfl)
  | none => exact readEffectiveFallbackRule_decided

theorem readRuleOrDefaultNoBump_decided
    (resolves : check = state.resolutionError env merchant) :
    Decided [check] (readRuleOrDefaultNoBump env merchant state) :=
  .andThen (readEffectiveRuleNoBump_decided resolves) fun _ _ => rfl

theorem bumpRule_succeeds (env : Env) (merchant : Address)
    (state : State) :
    ∃ live, bumpRule env merchant state =
      .ok ((), state.soft state.cachedGovRule live []) := by
  cases stored : state.rule merchant with
  | none =>
      refine ⟨state.liveUntil, ?_⟩
      simp [bumpRule, stored, State.soft_self]
  | some rule =>
      exact ⟨_, by simp [bumpRule, stored]; rfl⟩

theorem readRuleOrDefault_decided
    (resolves : check = state.resolutionError env merchant) :
    Decided [check] (readRuleOrDefault env merchant state) := by
  obtain ⟨live, bumped⟩ := bumpRule_succeeds env merchant state
  exact .after bumped (readRuleOrDefaultNoBump_decided resolves)

theorem readRuleOrDefault_resolved {rule : SettlementRule} {after : State}
    (succeeded : readRuleOrDefault env merchant state =
      .ok (rule, after)) : state.resolutionError env merchant = none := by
  have decided := @readRuleOrDefault_decided env merchant state _ rfl
  rw [succeeded] at decided
  cases check : state.resolutionError env merchant with
  | none => rfl
  | some error =>
      rw [check] at decided
      cases decided

end Resolutions

/-! The cache after a call. -/

/-- The cache after an operation, by either path. -/
def Operation.cacheAfter (env : Env) (state : State) :
    Operation → Option (Option SettlementRule)
  | .unregisterMerchant merchant =>
      match state.rule merchant with
      | some _ => state.fallbackCache env
      | none => state.cachedGovRule
  | .setSettlementRule merchant _ => state.effectiveCache env merchant
  | .clearSettlementRule _ => state.fallbackCache env
  | _ => state.cachedGovRule

/-- The merchant whose rule the call resolves. -/
def Call.prices : Call → Option Address
  | .storePaymentReference merchant _ _ => some merchant
  | .calculateFeeSplit merchant _ => some merchant
  | .getEffectiveRule merchant => some merchant
  | .getRuleProvenance merchant => some merchant
  | _ => none

def Call.cacheAfter (env : Env) (state : State) (call : Call) :
    Option (Option SettlementRule) :=
  match call.operation, call.prices with
  | some operation, _ => operation.cacheAfter env state
  | none, some merchant => state.effectiveCache env merchant
  | none, none => state.cachedGovRule

theorem clearMerchantRule_cache {env : Env} {actor merchant : Address}
    {before after : State} {result : Unit}
    (succeeded : clearMerchantRule env actor merchant before =
      .ok (result, after)) :
    after.cachedGovRule =
      (Operation.unregisterMerchant merchant).cacheAfter env before := by
  simp only [clearMerchantRule, Tx.readState_bind] at succeeded
  simp only [Operation.cacheAfter]
  cases stored : before.rule merchant with
  | none =>
      simp only [stored, Tx.pure_ok] at succeeded
      obtain ⟨_, rfl⟩ := succeeded
      rfl
  | some oldRule =>
      simp only [stored, removeRule, Tx.bind_ok, Tx.writeState_ok, emit_ok]
        at succeeded
      obtain ⟨_, _, rfl, fallback, _, resolved, rfl⟩ := succeeded
      obtain ⟨rfl, rfl⟩ := readFallbackRule_exact resolved
      rfl

theorem removeMerchant_cache {env : Env} {actor merchant : Address}
    {before after : State} {result : Unit}
    (succeeded : removeMerchant env actor merchant before =
      .ok (result, after)) :
    after.cachedGovRule =
      (Operation.unregisterMerchant merchant).cacheAfter env before := by
  simp only [removeMerchant, setArchivedMerchant, Tx.readState_bind,
    Tx.bind_ok, rejectIf_ok, Tx.writeState_ok, extendTtl_ok, emit_ok]
    at succeeded
  obtain ⟨_, _, ⟨_, rfl⟩, _, _, rfl, _, _, rfl, _, _, rfl, _, _,
    cleared, rfl⟩ := succeeded
  have kept := clearMerchantRule_cache cleared
  exact kept

theorem storeRule_cache {env : Env} {actor merchant : Address}
    {rule : SettlementRule} {before after : State} {result : Unit}
    (succeeded : storeRule env actor merchant rule before =
      .ok (result, after)) :
    after.cachedGovRule = before.effectiveCache env merchant := by
  simp only [storeRule, setRule, Tx.bind_ok, Tx.writeState_ok, extendTtl_ok,
    emit_ok] at succeeded
  obtain ⟨prev, _, resolved, _, _, rfl, _, _, rfl, rfl⟩ := succeeded
  simp only [previousRule, Tx.readState_bind] at resolved
  cases stored : before.rule merchant with
  | some found =>
      simp only [stored, Tx.pure_ok] at resolved
      obtain ⟨_, rfl⟩ := resolved
      simp [State.effectiveCache, stored]
  | none =>
      simp only [stored] at resolved
      obtain ⟨_, live, rfl⟩ := readRuleOrDefault_exact resolved
      rfl

/-- The operations that resolve a rule to report it. -/
def Operation.resolves : Operation → Bool
  | .unregisterMerchant _ => true
  | .setSettlementRule _ _ => true
  | .clearSettlementRule _ => true
  | _ => false

theorem Operation.cacheAfter_idle {operation : Operation} {env : Env}
    {state : State} (idle : operation.resolves = false) :
    operation.cacheAfter env state = state.cachedGovRule := by
  cases operation <;> first | rfl | cases idle

theorem Applied.cache_idle {env : Env} {state after : State}
    {actor : Address} {operation : Operation}
    (applied : Applied env state actor operation after)
    (idle : operation.resolves = false) :
    after.cachedGovRule = state.cachedGovRule := by
  cases applied <;> first | rfl | cases idle

theorem dispatch_cache {env : Env} {executor : Address}
    {operation : Operation} {before after : State} {result : Unit}
    (succeeded : dispatch env executor operation before =
      .ok (result, after)) :
    after.cachedGovRule = operation.cacheAfter env before := by
  cases operation with
  | unregisterMerchant merchant =>
      simp only [dispatch, Timelocked.unregisterMerchant, Tx.bind_ok,
        assertNotPaused_ok] at succeeded
      obtain ⟨_, _, ⟨_, rfl⟩, removed⟩ := succeeded
      exact removeMerchant_cache removed
  | setSettlementRule merchant rule =>
      simp only [dispatch, Timelocked.setSettlementRule, Tx.bind_ok,
        assertNotPaused_ok] at succeeded
      obtain ⟨_, _, ⟨_, rfl⟩, _, _, capped, _, _, looked, _, _, checked,
        stored⟩ := succeeded
      obtain rfl := validateFeeAgainstGovernance_ok capped
      obtain ⟨_, live, rfl⟩ := assertMerchantRegistered_ok looked
      obtain ⟨_, rfl⟩ := validateRuleBoundsTrapping_ok checked
      have kept := storeRule_cache stored
      exact kept
  | clearSettlementRule merchant =>
      simp only [dispatch, Timelocked.clearSettlementRule, removeRule,
        Tx.readState_bind, Tx.bind_ok, assertNotPaused_ok, orReject_ok,
        Tx.writeState_ok, emit_ok] at succeeded
      obtain ⟨_, _, ⟨_, rfl⟩, removed, _, ⟨_, rfl⟩, _, _, rfl, fallback, _,
        resolved, rfl⟩ := succeeded
      obtain ⟨_, live, rfl⟩ := readRuleOrDefault_exact resolved
      simp only [State.soft_cachedGovRule, State.effectiveCache,
        Function.update_self]
      rfl
  | _ =>
      have applied := dispatch_applied succeeded
      rw [Operation.cacheAfter_idle rfl]
      exact applied.cache_idle rfl

theorem execute_cache {codec : Codec} {env : Env} {executor : Address}
    {operation : Operation} {before after : State} {result : Unit}
    (succeeded : execute codec env executor operation before =
      .ok (result, after)) :
    after.cachedGovRule = operation.cacheAfter env before := by
  simp only [execute, Tx.bind_ok, consumeScheduledOperation_ok, emit_ok]
    at succeeded
  obtain ⟨opHash, _, validated, _, _, rfl, _, middle, dispatched, rfl⟩ :=
    succeeded
  obtain ⟨_, _, _, _, _, _, rfl⟩ := validateScheduledExecution_ok validated
  have kept := dispatch_cache dispatched
  rw [State.soft_cachedGovRule, kept]
  cases operation <;> rfl

theorem storePaymentReference_exact {env : Env} {merchant : Address}
    {reference : BytesN 32} {amount : I128} {before after : State}
    {split : FeeSplit}
    (succeeded : storePaymentReference env merchant reference amount
      before = .ok (split, after)) :
    after.cachedGovRule = before.effectiveCache env merchant ∧
      after.payment merchant reference =
        some (paymentRecord env merchant amount
          (before.effectiveRule env merchant).rule split) := by
  obtain ⟨_, rule, middle, count, live, live', resolved, _, _, rfl⟩ :=
    storePaymentReference_ok succeeded
  obtain ⟨rfl, _, rfl⟩ := readRuleOrDefault_exact resolved
  constructor
  · rfl
  · simp only [State.soft_payment, Function.update_self]
    rfl

/-- The same call when no governance contract answers. -/
def Env.muted (env : Env) : Env :=
  { env with governance := fun _ => ⟨fun _ => .trap, .trap⟩ }

theorem Refreshed.muted {env : Env} {state : State}
    {cache : Option (Option SettlementRule)}
    (refreshed : Refreshed env.muted state cache) :
    cache = state.cachedGovRule := by
  cases refreshed with
  | kept => rfl
  | answered answers =>
      obtain ⟨governance, rawVal, _, answer, _⟩ := answers
      cases answer

theorem Effect.of_isQuery {codec : Codec} {env : Env} {state after : State}
    {call : Call} (effect : Effect codec env state call after)
    (reads : call.isQuery = true) :
    ∃ cache live, Refreshed env state cache ∧
      after = state.soft cache live [] := by
  cases effect with
  | query _ refreshed => exact ⟨_, _, refreshed, rfl⟩
  | administer direct => cases call <;> cases direct <;> cases reads
  | _ => cases reads

/-- A query that does not ask governance keeps the cache. -/
theorem query_cache {codec : Codec} {env : Env} {call : Call}
    {before after : State} {reply : Reply}
    (succeeded : invoke codec env call before = .ok (reply, after))
    (reads : call.isQuery = true)
    (deaf : invoke codec env call = invoke codec env.muted call) :
    after.cachedGovRule = before.cachedGovRule := by
  rw [deaf] at succeeded
  obtain ⟨cache, live, refreshed, rfl⟩ :=
    (invoke_effect succeeded).of_isQuery reads
  exact refreshed.muted

theorem Effect.cache_idle {codec : Codec} {env : Env} {state after : State}
    {call : Call} (effect : Effect codec env state call after)
    (idle : call.operation.any Operation.resolves = false)
    (unpriced : call.prices = none) (writes : call.isQuery = false) :
    after.cachedGovRule = state.cachedGovRule := by
  cases effect with
  | execute queued unpaused matured unvetoed applied =>
      exact applied.cache_idle idle
  | cancelAll quorum unpaused bounded drained =>
      obtain ⟨slots, counter, rfl⟩ := drained.unchanged
      rfl
  | administer direct quorum unpaused agreed prepared applied =>
      subst prepared
      rw [Call.operation_of_administers direct] at idle
      exact applied.cache_idle idle
  | storePaymentReference => cases unpriced
  | prunePayments quorum bounded pruned counted =>
      have table := pruned.table
      subst table
      rfl
  | query reads =>
      rw [reads] at writes
      cases writes
  | _ => rfl

/-- What every committed call does to the cache. -/
theorem invoke_cache {codec : Codec} {env : Env} {call : Call}
    {before after : State} {reply : Reply}
    (succeeded : invoke codec env call before = .ok (reply, after)) :
    after.cachedGovRule = call.cacheAfter env before := by
  have effect := invoke_effect succeeded
  cases call
  all_goals obtain ⟨_, ran, _⟩ := replying_ok.mp succeeded
  case execute => exact execute_cache ran
  case unregisterMerchant =>
    simp only [unregisterMerchant, Tx.bind_ok, assertAdminAndNotPaused_ok,
      unwrapFirst_ok] at ran
    obtain ⟨_, _, ⟨_, rfl⟩, _, _, ⟨_, rfl⟩, removed⟩ := ran
    exact removeMerchant_cache removed
  case setSettlementRule =>
    simp only [setSettlementRule, Tx.bind_ok, assertAdminAndNotPaused_ok,
      unwrapFirst_ok, validateNonzeroAddress_ok] at ran
    obtain ⟨_, _, ⟨_, rfl⟩, _, _, ⟨_, rfl⟩, _, _, ⟨_, rfl⟩, _, _, looked, _,
      _, checked, _, _, capped, stored⟩ := ran
    obtain ⟨_, live, rfl⟩ := assertMerchantRegistered_ok looked
    obtain ⟨_, rfl⟩ := validateRuleBounds_ok checked
    obtain rfl := validateFeeAgainstGovernance_ok capped
    have kept := storeRule_cache stored
    exact kept
  case clearSettlementRule =>
    simp only [clearSettlementRule, removeRule, Tx.readState_bind,
      Tx.bind_ok, assertAdminAndNotPaused_ok, unwrapFirst_ok, orReject_ok,
      Tx.writeState_ok, emit_ok] at ran
    obtain ⟨_, _, ⟨_, rfl⟩, _, _, ⟨_, rfl⟩, removed, _, ⟨_, rfl⟩, _, _, rfl,
      fallback, _, resolved, rfl⟩ := ran
    obtain ⟨_, rfl⟩ := readFallbackRule_exact resolved
    rfl
  case storePaymentReference => exact (storePaymentReference_exact ran).1
  case getPayments =>
    -- The loop over the references keeps this one from being deaf by `rfl`.
    simp only [getPayments, nextCursor, Tx.bind_ok,
      assertPaymentsReadable_ok, rejectIf_ok, Tx.ite_ok, orTrap_ok,
      Tx.pure_ok] at ran
    obtain ⟨_, _, authorized, _, _, ⟨_, rfl⟩, _, _, ⟨_, rfl⟩, _, _, read, _,
      _, cursored, rfl, rfl⟩ := ran
    obtain rfl := assertReadAuthorized_ok authorized
    obtain ⟨⟨live, rfl⟩, _⟩ := getEachPayment_ok read
    obtain ⟨_, _, _, ⟨_, rfl⟩, _, rfl⟩ | ⟨_, _, rfl⟩ := cursored <;> rfl
  case calculateFeeSplit =>
    simp only [calculateFeeSplit, Tx.readState_bind, Tx.bind_ok,
      isMerchantRegisteredInternal_ok, rejectIf_ok, orRaise_ok] at ran
    obtain ⟨_, _, ⟨_, rfl⟩, _, _, ⟨_, rfl⟩, _, _, ⟨_, rfl⟩, _, _, resolved,
      _, rfl⟩ := ran
    obtain ⟨_, rfl⟩ := readRuleOrDefaultNoBump_exact resolved
    rfl
  case getEffectiveRule =>
    obtain ⟨_, rfl⟩ := readRuleOrDefaultNoBump_exact ran
    rfl
  case getRuleProvenance =>
    obtain ⟨_, rfl⟩ := readEffectiveRuleNoBump_exact ran
    rfl
  all_goals first
    | exact effect.cache_idle rfl rfl rfl
    | exact query_cache succeeded rfl rfl

end BettaPay.Settlement
