import BettaPay.Settlement.Asking
import BettaPay.Settlement.Ceiling
import BettaPay.Settlement.Pause
import BettaPay.Settlement.Xdr

namespace BettaPay.Settlement

open BettaPay.Host
open BettaPay.Host.Tx (readState writeState)
open BettaPay.Common

/-! The cached governance rule as a memory of what governance answered. -/

/-- Every governance contract fails, has no configuration, or answers with a
well-formed one, and none of them bypasses its fees. -/
structure Env.WellFormed (env : Env) : Prop where
  charging : ∀ governance, governanceBypassEnabled env governance = false
  decodable : ∀ governance rawVal,
    (env.governance governance).getFeeConfig = .value rawVal →
    ∃ config, classifyGovernanceFeeConfig rawVal = .ok config

/-- The operations that resolve a rule all the way to governance. -/
def Operation.reachesGovernance (state : State) : Operation → Bool
  | .unregisterMerchant merchant =>
      (state.rule merchant).isSome && state.defaultRule.isNone
  | .setSettlementRule merchant _ =>
      (state.rule merchant).isNone && state.defaultRule.isNone
  | .clearSettlementRule _ => state.defaultRule.isNone
  | _ => false

def Call.reachesGovernance (state : State) (call : Call) : Bool :=
  match call.operation, call.prices with
  | some operation, _ => operation.reachesGovernance state
  | none, some merchant =>
      (state.rule merchant).isNone && state.defaultRule.isNone
  | none, none => false

/-- The calls that ask governance without resolving: the fee ceiling of a rule
to be stored and the reachability check of the timelock. -/
def Call.checksGovernance : Call → Bool
  | .schedule _ _ _ => true
  | call => call.operation.any fun operation => operation.storesRule.isSome

/-- What is heard of governance. Where it bypasses its fees, fails or answers
nonsense, nothing is. -/
def Reading.heard : Reading → Option (Option GovFeeConfig)
  | .answered config => some config
  | _ => none

/-- The answer that a call gets where it resolves a rule. -/
def Asked.Input.resolves (input : Asked.Input) (state : State) :
    Option (Option GovFeeConfig) :=
  if input.call.reachesGovernance state then
    (state.reading input.resolver).heard
  else none

/-- The answer that a call gets where it only checks. -/
def Asked.Input.checks (input : Asked.Input) (state : State) :
    Option (Option GovFeeConfig) :=
  if input.call.checksGovernance then (state.reading input.env).heard
  else none

/-- The last answer that a committed call gets. What it checks comes before
what it resolves. -/
def Asked.Input.hears (input : Asked.Input) (state : State) :
    Option (Option GovFeeConfig) :=
  (input.resolves state).or (input.checks state)

/-- The answer that the call at `index` gets. A failed call is rolled back and
gets none. -/
def hearing (codec : Codec) (inputs : List Asked.Input) (index : Nat) :
    Option (Option GovFeeConfig) :=
  match inputs[index]? with
  | none => none
  | some input =>
      match Asked.step codec input (Asked.stateBefore codec inputs index) with
      | .ok _ => input.hears (Asked.stateBefore codec inputs index)
      | .error _ => none

/-- The last answer before `index` from the governance address configured
there, since it was configured. -/
def heard (codec : Codec) (inputs : List Asked.Input) :
    Nat → Option (Option GovFeeConfig)
  | 0 => none
  | index + 1 =>
      if (Asked.stateBefore codec inputs (index + 1)).governance =
          (Asked.stateBefore codec inputs index).governance then
        (hearing codec inputs index).or (heard codec inputs index)
      else none

/-- The rule an answer stands for in an outage. -/
def heardRule (heard : Option (Option GovFeeConfig)) : SettlementRule :=
  (heard.join.map GovFeeConfig.toRule).getD bootstrapDefaultRule

/-- The rule the contract has at hand for an outage. -/
def State.outageRule (state : State) : SettlementRule :=
  state.readCachedGovernanceFeeRule.getD bootstrapDefaultRule

/-- The configured governance does not answer. -/
def State.InOutage (env : Env) (state : State) : Prop :=
  ∃ governance, state.governance = some governance ∧
    ∀ rawVal, (env.governance governance).getFeeConfig ≠ .value rawVal

/-- Every resolver yields `rule` where no merchant rule is stored. -/
structure Serves (env : Env) (state : State) (rule : SettlementRule) :
    Prop where
  quoted : ∀ merchant, state.rule merchant = none →
    ∃ effective after, readEffectiveRuleNoBump env merchant state =
      .ok (effective, after) ∧ effective.rule = rule
  charged : ∀ merchant, state.rule merchant = none →
    ∃ after, readRuleOrDefault env merchant state = .ok (rule, after)
  reported : ∃ after, readFallbackRule env state = .ok (rule, after)

/-- In every outage without a default rule, the contract serves what it last
heard. -/
def ServesHeard (state : State) (heard : Option (Option GovFeeConfig)) :
    Prop :=
  ∀ env : Env, env.WellFormed → state.InOutage env →
    state.defaultRule = none → Serves env state (heardRule heard)

/-- A call that itself resolves a rule in an outage serves what it and the
calls before it last heard. -/
def ServesWithin (input : Asked.Input) (state : State)
    (heard : Option (Option GovFeeConfig)) : Prop :=
  input.call.reachesGovernance state = true →
    state.reading input.resolver = .outage →
    (state.fallbackRule input.resolver).rule =
      heardRule ((input.checks state).or heard)

/-- The state before a call lets the cache follow what the call hears. -/
structure CacheFollows (input : Asked.Input) (state : State) : Prop where
  moved : ∀ newGovernance,
    input.call.operation = some (.updateGovernance newGovernance) →
    state.governance ≠ some newGovernance →
    state.outageRule = bootstrapDefaultRule
  emptied : input.hears state = some none →
    state.outageRule = bootstrapDefaultRule
  overheard : ∀ config, input.hears state = some (some config) →
    input.resolves state = none → state.outageRule = config.toRule

/-- No default rule hides the cache, before or after the call. -/
structure Exposed (state : State) (call : Call) : Prop where
  unset : state.defaultRule = none
  keeps : ∀ rule, call.operation ≠ some (.setDefaultRule rule)

/-! What an outage serves. -/

theorem reading_outage {env : Env} {state : State}
    (wellFormed : env.WellFormed) (out : state.InOutage env) :
    state.reading env = .outage := by
  obtain ⟨governance, configured, silent⟩ := out
  simp only [State.reading, configured, wellFormed.charging governance,
    Bool.false_eq_true, if_false]
  cases answer : (env.governance governance).getFeeConfig with
  | value rawVal => exact absurd answer (silent rawVal)
  | error code => rfl
  | trap => rfl

theorem fallbackRule_outage {env : Env} {state : State}
    (out : state.reading env = .outage)
    (unset : state.defaultRule = none) :
    (state.fallbackRule env).rule = state.outageRule := by
  simp only [State.fallbackRule, unset, State.governanceRule, out,
    State.outageRule]
  cases state.readCachedGovernanceFeeRule <;> rfl

theorem serves_outageRule {env : Env} {state : State}
    (wellFormed : env.WellFormed) (out : state.InOutage env)
    (unset : state.defaultRule = none) :
    Serves env state state.outageRule := by
  have readable : ∀ error, state.reading env ≠ .malformed error := by
    intro error malformed
    rw [reading_outage wellFormed out] at malformed
    cases malformed
  have served := fallbackRule_outage (reading_outage wellFormed out) unset
  have effective : ∀ merchant, state.rule merchant = none →
      (state.effectiveRule env merchant).rule = state.outageRule := by
    intro merchant absent
    simp only [State.effectiveRule, absent]
    exact served
  constructor
  · intro merchant absent
    obtain ⟨after, resolved⟩ :=
      @readEffectiveRuleNoBump_succeeds env merchant state readable
    exact ⟨_, after, resolved, effective merchant absent⟩
  · intro merchant absent
    obtain ⟨after, resolved⟩ :=
      @readEffectiveRuleNoBump_succeeds env merchant state readable
    refine ⟨after, ?_⟩
    rw [← effective merchant absent]
    simp [readRuleOrDefault, bumpRule, readRuleOrDefaultNoBump, absent,
      resolved]
  · obtain ⟨after, resolved⟩ := readEffectiveFallbackRule_succeeds readable
    refine ⟨after, ?_⟩
    rw [← served]
    simp [readFallbackRule, resolved]

theorem Env.WellFormed.muted (env : Env) : env.muted.WellFormed := by
  constructor
  · intro governance
    rfl
  · intro governance rawVal answer
    cases answer

/-- Only the cache decides what an outage serves. -/
theorem servesHeard_iff {state : State}
    {heard : Option (Option GovFeeConfig)} :
    ServesHeard state heard ↔
      (state.governance.isSome → state.defaultRule = none →
        state.outageRule = heardRule heard) := by
  constructor
  · intro serves configured unset
    obtain ⟨governance, configured⟩ := Option.isSome_iff_exists.mp configured
    have wellFormed := Env.WellFormed.muted (.granting 0)
    have out : state.InOutage (Env.granting 0).muted := by
      refine ⟨governance, configured, ?_⟩
      intro rawVal answer
      cases answer
    obtain ⟨after, resolved⟩ := (serves _ wellFormed out unset).reported
    obtain ⟨same, _⟩ := readFallbackRule_exact resolved
    rw [same, fallbackRule_outage (reading_outage wellFormed out) unset]
  · intro follows env wellFormed out unset
    obtain ⟨governance, configured, _⟩ := id out
    have served := serves_outageRule wellFormed out unset
    rwa [follows (by simp [configured]) unset] at served

/-! One call. -/

theorem Operation.cacheAfter_eq (env : Env) (state : State)
    (operation : Operation) :
    operation.cacheAfter env state =
      if operation.reachesGovernance state then state.refreshedCache env
      else state.cachedGovRule := by
  cases operation with
  | unregisterMerchant merchant | setSettlementRule merchant _ =>
      cases ruled : state.rule merchant <;>
        cases unset : state.defaultRule <;>
        simp [Operation.cacheAfter, Operation.reachesGovernance,
          State.effectiveCache, State.fallbackCache, ruled, unset]
  | clearSettlementRule merchant =>
      cases unset : state.defaultRule <;>
        simp [Operation.cacheAfter, Operation.reachesGovernance,
          State.fallbackCache, unset]
  | _ => rfl

theorem Call.cacheAfter_eq (env : Env) (state : State) (call : Call) :
    call.cacheAfter env state =
      if call.reachesGovernance state then state.refreshedCache env
      else state.cachedGovRule := by
  cases carried : call.operation with
  | some operation =>
      simp only [Call.cacheAfter, Call.reachesGovernance, carried]
      exact operation.cacheAfter_eq env state
  | none =>
      simp only [Call.cacheAfter, Call.reachesGovernance, carried]
      cases call.prices with
      | none => rfl
      | some merchant =>
          cases ruled : state.rule merchant <;>
            cases unset : state.defaultRule <;>
            simp [State.effectiveCache, State.fallbackCache, ruled, unset]

theorem Call.unset_of_reachesGovernance {state : State} {call : Call}
    (reaches : call.reachesGovernance state = true) :
    state.defaultRule = none := by
  simp only [Call.reachesGovernance] at reaches
  cases carried : call.operation with
  | some operation =>
      rw [carried] at reaches
      cases operation <;> simp_all [Operation.reachesGovernance]
  | none =>
      cases priced : call.prices <;> simp_all

theorem refreshedCache_kept {env : Env} {state : State}
    (unanswered : ∀ config, state.reading env ≠ .answered (some config)) :
    state.refreshedCache env = state.cachedGovRule := by
  unfold State.refreshedCache
  split
  · rename_i config answered
    exact absurd answered (unanswered config)
  · rfl

/-- Only a configuration that a call resolves is cached. -/
theorem Asked.Input.cache_of_resolves {input : Asked.Input} {state : State} :
    (∃ config, input.resolves state = some (some config) ∧
        input.call.cacheAfter input.resolver state =
          some (some config.toRule)) ∨
      (input.resolves state = none ∨ input.resolves state = some none) ∧
        input.call.cacheAfter input.resolver state =
          state.cachedGovRule := by
  rw [Call.cacheAfter_eq]
  unfold Asked.Input.resolves
  cases input.call.reachesGovernance state with
  | false => simp
  | true =>
      simp only [if_true]
      cases reading : state.reading input.resolver with
      | answered config =>
          cases config with
          | none =>
              have kept := @refreshedCache_kept input.resolver state
                (by simp [reading])
              simp [Reading.heard, kept]
          | some config => simp [Reading.heard, State.refreshedCache, reading]
      | _ =>
          have kept := @refreshedCache_kept input.resolver state
            (by simp [reading])
          simp [Reading.heard, kept]

/-- An operation that a call carries out is applied. -/
theorem Effect.installs {codec : Codec} {env : Env} {state after : State}
    {call : Call} {operation : Operation}
    (effect : Effect codec env state call after)
    (carried : call.operation = some operation) :
    ∃ start actor middle, Applied env start actor operation middle ∧
      after.governance = middle.governance ∧
      after.defaultRule = middle.defaultRule := by
  cases effect with
  | execute queued unpaused matured unvetoed applied =>
      cases carried
      exact ⟨_, _, _, applied, rfl, rfl⟩
  | administer direct quorum unpaused agreed prepared applied =>
      cases (Call.operation_of_administers direct).symm.trans carried
      exact ⟨_, _, _, applied, rfl, rfl⟩
  | query reads => cases call <;> cases carried <;> cases reads
  | _ => cases carried

theorem Effect.governance_stored {codec : Codec} {env : Env}
    {state after : State} {call : Call} {newGovernance : Address}
    (effect : Effect codec env state call after)
    (carried : call.operation = some (.updateGovernance newGovernance)) :
    after.governance = some newGovernance := by
  obtain ⟨_, _, _, applied, stored, _⟩ := effect.installs carried
  rw [stored]
  cases applied
  rfl

theorem Effect.defaultRule_stored {codec : Codec} {env : Env}
    {state after : State} {call : Call} {rule : SettlementRule}
    (effect : Effect codec env state call after)
    (carried : call.operation = some (.setDefaultRule rule)) :
    after.defaultRule = some rule := by
  obtain ⟨_, _, _, applied, _, stored⟩ := effect.installs carried
  rw [stored]
  cases applied
  rfl

theorem Effect.defaultRule_some {codec : Codec} {env : Env}
    {state after : State} {call : Call}
    (effect : Effect codec env state call after)
    (set : state.defaultRule ≠ none) : after.defaultRule ≠ none := by
  rcases effect.defaultRule_set with kept | ⟨rule, _, stored⟩
  · rwa [kept]
  · simp [stored]

theorem Effect.defaultRule_of_hidden {codec : Codec} {env : Env}
    {state after : State} {call : Call}
    (effect : Effect codec env state call after)
    (hidden : ¬ Exposed state call) : after.defaultRule ≠ none := by
  by_cases unset : state.defaultRule = none
  · have stores : ∃ rule, call.operation = some (.setDefaultRule rule) := by
      by_contra keeps
      exact hidden ⟨unset, not_exists.mp keeps⟩
    obtain ⟨rule, carried⟩ := stores
    simp [effect.defaultRule_stored carried]
  · exact effect.defaultRule_some unset

/-- Nothing that `init` guards has been written. -/
structure Unopened (state : State) : Prop where
  governance : state.governance = none
  cache : state.cachedGovRule = none
  queue : ∀ opHash, state.scheduledOperation opHash = none

theorem Effect.unopened {codec : Codec} {env : Env} {state after : State}
    {call : Call} (effect : Effect codec env state call after)
    (unopened : Unopened state) (uninitialized : after.admin = none) :
    Unopened after := by
  have vacant : ¬ state.admin.isSome := by
    intro initialized
    have kept := effect.initialized initialized
    simp [uninitialized] at kept
  cases effect with
  | init | executeRecovery => cases uninitialized
  | initiateRecovery | cancelRecovery =>
      exact ⟨unopened.governance, unopened.cache, unopened.queue⟩
  | execute queued =>
      cases (unopened.queue _).symm.trans queued.1
  | changeThreshold stored => simp [stored] at vacant
  | storePaymentReference _ _ _ _ _ _ _ refreshed =>
      have kept := refreshed.unconfigured unopened.governance
      exact ⟨unopened.governance, kept.trans unopened.cache,
        unopened.queue⟩
  | query reads refreshed =>
      have kept := refreshed.unconfigured unopened.governance
      exact ⟨unopened.governance, kept.trans unopened.cache,
        unopened.queue⟩
  | _ =>
      rename State.authority state |>.Quorum _ _ => quorum
      exact absurd quorum.initialized vacant

theorem unopened_before {codec : Codec} {inputs : List Asked.Input}
    {index : Nat}
    (uninitialized : (Asked.stateBefore codec inputs index).admin = none) :
    Unopened (Asked.stateBefore codec inputs index) := by
  apply run_invariant (fun state => state.admin = none → Unopened state)
  · intro input before reply after unopened succeeded vacant
    have effect := Asked.step_effect succeeded
    refine effect.unopened (unopened ?_) vacant
    cases stored : before.admin with
    | none => rfl
    | some admins =>
        have kept := effect.initialized (by simp [stored])
        simp [vacant] at kept
  · intro _
    exact ⟨rfl, rfl, fun _ => rfl⟩
  · exact uninitialized

section Step

variable {codec : Codec} {input : Asked.Input} {before after : State}
  {reply : Reply} {heard : Option (Option GovFeeConfig)}

theorem CacheFollows.of_silent (silent : input.hears before = none)
    (moved : ∀ newGovernance,
      input.call.operation = some (.updateGovernance newGovernance) →
      before.governance ≠ some newGovernance →
      before.outageRule = bootstrapDefaultRule) :
    CacheFollows input before := by
  refine ⟨moved, ?_, ?_⟩
  · intro answered
    cases silent.symm.trans answered
  · intro config answered
    cases silent.symm.trans answered

theorem Asked.Input.hears_unconfigured
    (unconfigured : before.governance = none) :
    input.hears before = none := by
  have deaf : ∀ env, (before.reading env).heard = none := by
    intro env
    simp [State.reading, unconfigured, Reading.heard]
  simp [Asked.Input.hears, Asked.Input.resolves, Asked.Input.checks, deaf]

/-- A call that hears nothing keeps the cache. -/
theorem cache_of_silent
    (succeeded : Asked.step codec input before = .ok (reply, after))
    (silent : input.hears before = none) :
    after.cachedGovRule = before.cachedGovRule := by
  rw [Asked.step_cache succeeded]
  rcases @Asked.Input.cache_of_resolves input before with
    ⟨config, resolved, _⟩ | ⟨_, kept⟩
  · simp [Asked.Input.hears, resolved] at silent
  · exact kept

/-- Before `init` there is nothing to forget. -/
theorem follows_unopened
    (succeeded : Asked.step codec input before = .ok (reply, after))
    (unopened : Unopened before) (uninitialized : before.admin = none) :
    CacheFollows input before ∧
      (after.governance = before.governance → after.governance = none) ∧
      after.outageRule = bootstrapDefaultRule := by
  have effect := Asked.step_effect succeeded
  have silent : input.hears before = none :=
    Asked.Input.hears_unconfigured unopened.governance
  have idle : ∀ operation, input.call.operation ≠ some operation := by
    intro operation carried
    generalize input.call = call at effect carried
    cases effect with
    | execute queued => cases (unopened.queue _).symm.trans queued.1
    | administer direct quorum =>
        have initialized := quorum.initialized
        simp [uninitialized] at initialized
    | query reads => cases call <;> cases carried <;> cases reads
    | _ => cases carried
  refine ⟨.of_silent silent ?_, ?_, ?_⟩
  · intro newGovernance carried
    exact absurd carried (idle _)
  · intro kept
    exact kept.trans unopened.governance
  · have same : after.cachedGovRule = none :=
      (cache_of_silent succeeded silent).trans unopened.cache
    simp [State.outageRule, State.readCachedGovernanceFeeRule, same]

theorem outageRule_of_cache {state state' : State}
    (same : state.cachedGovRule = state'.cachedGovRule) :
    state.outageRule = state'.outageRule := by
  simp [State.outageRule, State.readCachedGovernanceFeeRule, same]

theorem outageRule_of_cached {config : GovFeeConfig}
    (cached : after.cachedGovRule = some (some config.toRule)) :
    after.outageRule = config.toRule := by
  simp [State.outageRule, State.readCachedGovernanceFeeRule, cached]

/-- What a call resolves is cached. -/
theorem CacheFollows.of_resolved {config : GovFeeConfig}
    (resolved : input.resolves before = some (some config))
    (moved : ∀ newGovernance,
      input.call.operation = some (.updateGovernance newGovernance) →
      before.governance ≠ some newGovernance →
      before.outageRule = bootstrapDefaultRule) :
    CacheFollows input before := by
  have answered : input.hears before = some (some config) := by
    simp [Asked.Input.hears, resolved]
  refine ⟨moved, ?_, ?_⟩
  · intro empty
    cases answered.symm.trans empty
  · intro other _ silent
    cases resolved.symm.trans silent

/-- Where a call leaves the cache alone, it has to be there already what the
call hears. -/
theorem follows_iff_kept
    (unresolved : input.resolves before = none ∨
      input.resolves before = some none)
    (moved : ∀ newGovernance,
      input.call.operation = some (.updateGovernance newGovernance) →
      before.governance ≠ some newGovernance →
      before.outageRule = bootstrapDefaultRule)
    (current : before.outageRule = heardRule heard) :
    before.outageRule = heardRule ((input.hears before).or heard) ↔
      CacheFollows input before := by
  cases answered : input.hears before with
  | none => exact ⟨fun _ => .of_silent answered moved, fun _ => current⟩
  | some answer =>
      cases answer with
      | none =>
          constructor
          · intro empty
            refine ⟨moved, fun _ => empty, ?_⟩
            intro config given
            cases answered.symm.trans given
          · intro follows
            exact follows.emptied answered
      | some config =>
          constructor
          · intro known
            refine ⟨moved, ?_, ?_⟩
            · intro empty
              cases answered.symm.trans empty
            · intro other given _
              cases answered.symm.trans given
              exact known
          · intro follows
            apply follows.overheard config answered
            rcases unresolved with silent | empty
            · exact silent
            · simp [Asked.Input.hears, empty] at answered

/-- At an unmoved governance the cache follows exactly when it keeps up with
the answer of the call. -/
theorem follows_iff_unmoved
    (succeeded : Asked.step codec input before = .ok (reply, after))
    (unmoved : after.governance = before.governance)
    (current : before.outageRule = heardRule heard) :
    after.outageRule = heardRule ((input.hears before).or heard) ↔
      CacheFollows input before := by
  have moved : ∀ newGovernance,
      input.call.operation = some (.updateGovernance newGovernance) →
      before.governance ≠ some newGovernance →
      before.outageRule = bootstrapDefaultRule := by
    intro newGovernance carried changed
    have stored := (Asked.step_effect succeeded).governance_stored carried
    exact absurd (unmoved.symm.trans stored) changed
  have cache := Asked.step_cache succeeded
  rcases @Asked.Input.cache_of_resolves input before with
    ⟨config, resolved, cached⟩ | ⟨unresolved, kept⟩
  · rw [outageRule_of_cached (cache.trans cached), Asked.Input.hears, resolved]
    exact ⟨fun _ => .of_resolved resolved moved, fun _ => rfl⟩
  · rw [outageRule_of_cache (cache.trans kept)]
    exact follows_iff_kept unresolved moved current

theorem Asked.Input.hears_of_updateGovernance {newGovernance : Address}
    (carried : input.call.operation =
      some (.updateGovernance newGovernance)) :
    input.hears before = none := by
  have unresolved : input.resolves before = none := by
    simp [Asked.Input.resolves, Call.reachesGovernance, carried,
      Operation.reachesGovernance]
  have unchecked : input.call.checksGovernance = false := by
    generalize input.call = call at carried
    cases call <;> cases carried <;> rfl
  simp [Asked.Input.hears, unresolved, Asked.Input.checks, unchecked]

/-- A move to another governance keeps the cache. -/
theorem follows_iff_moved {newGovernance : Address}
    (succeeded : Asked.step codec input before = .ok (reply, after))
    (carried : input.call.operation =
      some (.updateGovernance newGovernance))
    (moved : after.governance ≠ before.governance) :
    after.outageRule = heardRule none ↔ CacheFollows input before := by
  have silent := @Asked.Input.hears_of_updateGovernance input before _ carried
  have stored := (Asked.step_effect succeeded).governance_stored carried
  rw [outageRule_of_cache (cache_of_silent succeeded silent)]
  constructor
  · intro empty
    exact .of_silent silent fun _ _ _ => empty
  · intro follows
    apply follows.moved newGovernance carried
    rw [← stored]
    exact moved.symm

theorem servesHeard_step_iff
    (succeeded : Asked.step codec input before = .ok (reply, after))
    (opening : before.admin = none → Unopened before)
    (current : ServesHeard before heard) :
    ServesHeard after
        (if after.governance = before.governance then
          (input.hears before).or heard
        else none) ↔
      (Exposed before input.call → CacheFollows input before) := by
  have effect := Asked.step_effect succeeded
  rw [servesHeard_iff] at current ⊢
  by_cases exposed : Exposed before input.call
  · have unset : after.defaultRule = none := by
      rcases effect.defaultRule_set with kept | ⟨rule, carried, _⟩
      · exact kept.trans exposed.unset
      · exact absurd carried (exposed.keeps rule)
    simp only [exposed, forall_const, unset]
    cases administered : before.admin with
    | none =>
        obtain ⟨follows, unmoved, empty⟩ := follows_unopened succeeded
          (opening administered) administered
        refine ⟨fun _ => follows, fun _ configured => ?_⟩
        split
        · rename_i same
          simp [unmoved same] at configured
        · exact empty
    | some admins =>
        split
        · rename_i unmoved
          rw [unmoved]
          cases configured : before.governance with
          | none =>
              refine ⟨fun _ => .of_silent
                (Asked.Input.hears_unconfigured configured) ?_,
                fun _ present => by cases present⟩
              intro newGovernance carried _
              have stored := effect.governance_stored carried
              rw [unmoved, configured] at stored
              cases stored
          | some governance =>
              simp only [Option.isSome_some, forall_const]
              exact follows_iff_unmoved succeeded unmoved
                (current (by simp [configured]) exposed.unset)
        · rename_i moved
          rcases effect.governance_set with kept | ⟨vacant, _⟩ |
            ⟨newGovernance, carried, stored⟩
          · exact absurd kept moved
          · cases administered.symm.trans vacant
          · simp only [stored, Option.isSome_some, forall_const]
            exact follows_iff_moved succeeded carried moved
  · have set := effect.defaultRule_of_hidden exposed
    exact ⟨fun _ given => absurd given exposed,
      fun _ _ unset => absurd unset set⟩

/-- What a call serves is what an outage right after it would be served. -/
theorem servesWithin_of_after
    (succeeded : Asked.step codec input before = .ok (reply, after))
    (opening : before.admin = none → Unopened before)
    (served : ServesHeard after
      (if after.governance = before.governance then
        (input.hears before).or heard
      else none)) :
    ServesWithin input before heard := by
  intro reaches out
  have effect := Asked.step_effect succeeded
  have unset := Call.unset_of_reachesGovernance reaches
  have configured : before.governance.isSome = true := by
    cases stored : before.governance with
    | none => simp [State.reading, stored] at out
    | some governance => rfl
  have unresolved : input.resolves before = none := by
    simp [Asked.Input.resolves, reaches, out, Reading.heard]
  have unmoved : after.governance = before.governance := by
    rcases effect.governance_set with kept | ⟨vacant, _⟩ | ⟨_, carried, _⟩
    · exact kept
    · simp [(opening vacant).governance] at configured
    · simp [Call.reachesGovernance, carried, Operation.reachesGovernance]
        at reaches
  have still : after.defaultRule = none := by
    rcases effect.defaultRule_set with kept | ⟨_, carried, _⟩
    · exact kept.trans unset
    · simp [Call.reachesGovernance, carried, Operation.reachesGovernance]
        at reaches
  have cache : after.cachedGovRule = before.cachedGovRule := by
    rw [Asked.step_cache succeeded, Call.cacheAfter_eq, reaches, if_pos rfl]
    exact refreshedCache_kept (by simp [out])
  rw [if_pos unmoved, servesHeard_iff, unmoved, outageRule_of_cache cache]
    at served
  rw [fallbackRule_outage out unset, served configured still,
    Asked.Input.hears, unresolved, Option.none_or]

end Step

/-! Runs. -/

section Runs

variable {codec : Codec} {inputs : List Asked.Input} {index : Nat}

theorem hearing_of_commits {input : Asked.Input}
    (committed : Asked.Commits codec inputs index input) :
    hearing codec inputs index =
      input.hears (Asked.stateBefore codec inputs index) := by
  obtain ⟨reply, here, succeeded⟩ := committed
  simp only [hearing, here, Asked.stateBefore, succeeded]

/-- A call that fails is not heard of. -/
theorem heard_unchanged
    (fails : ∀ input reply, ¬ Succeeds (Asked.step codec) State.initial
      inputs index input reply) :
    Asked.stateBefore codec inputs (index + 1) =
        Asked.stateBefore codec inputs index ∧
      heard codec inputs (index + 1) = heard codec inputs index := by
  have same : Asked.stateBefore codec inputs (index + 1) =
      Asked.stateBefore codec inputs index := stateAt_succ_of_idle fails
  refine ⟨same, ?_⟩
  have silent : hearing codec inputs index = none := by
    cases here : inputs[index]? with
    | none => simp only [hearing, here]
    | some input =>
        cases attempt : Asked.step codec input
            (Asked.stateBefore codec inputs index) with
        | error failure => simp only [hearing, here, attempt]
        | ok outcome =>
            rcases outcome with ⟨reply, after⟩
            exact absurd (succeeds_of_ok here attempt) (fails input reply)
  simp only [heard, same, if_true, silent, Option.none_or]

theorem servesHeard_succ_iff
    (current : ServesHeard (Asked.stateBefore codec inputs index)
      (heard codec inputs index)) :
    ServesHeard (Asked.stateBefore codec inputs (index + 1))
        (heard codec inputs (index + 1)) ↔
      ∀ input, Asked.Commits codec inputs index input →
        Exposed (Asked.stateBefore codec inputs index) input.call →
        CacheFollows input (Asked.stateBefore codec inputs index) := by
  apply iff_forall_succeeds
  · intro input committed
    have stepped := servesHeard_step_iff committed.choose_spec.2
      unopened_before current
    rw [← hearing_of_commits committed] at stepped
    rw [heard, stepped]
  · intro idle
    obtain ⟨same, unheard⟩ := heard_unchanged idle
    rw [same, unheard]
    exact current

end Runs

/-- In every outage of every run, within a call as between two, the contract
serves the last answer of the governance configured at that moment, or the
bootstrap rule if it gave none, exactly when, as long as there is no default
rule, every committed call finds the cache such that it can follow what the
call hears. -/
theorem outage_serves_heard_iff (codec : Codec)
    (inputs : List Asked.Input) :
    (∀ index, ServesHeard (Asked.stateBefore codec inputs index)
          (heard codec inputs index) ∧
        ∀ input, Asked.Commits codec inputs index input →
          ServesWithin input (Asked.stateBefore codec inputs index)
            (heard codec inputs index)) ↔
      ∀ index input, Asked.Commits codec inputs index input →
        Exposed (Asked.stateBefore codec inputs index) input.call →
        CacheFollows input (Asked.stateBefore codec inputs index) := by
  have between : (∀ index, ServesHeard (Asked.stateBefore codec inputs index)
      (heard codec inputs index)) ↔
      ∀ index input, Asked.Commits codec inputs index input →
        Exposed (Asked.stateBefore codec inputs index) input.call →
        CacheFollows input (Asked.stateBefore codec inputs index) := by
    apply forall_iff_of_succ_iff
    · rw [servesHeard_iff]
      intro configured
      cases configured
    · intro index current
      exact servesHeard_succ_iff current
  constructor
  · intro served
    exact between.mp fun index => (served index).1
  · intro follows index
    have served := between.mpr follows
    refine ⟨served index, ?_⟩
    intro input committed
    have next := served (index + 1)
    rw [heard, hearing_of_commits committed] at next
    exact servesWithin_of_after committed.choose_spec.2 unopened_before next

/-- A granting ledger on which every governance contract answers with
`config`. -/
def Env.quoting (timestamp : UInt64) (config : GovFeeConfig) : Env :=
  { Env.granting timestamp with
    governance := fun _ =>
      ⟨fun _ => .value .void,
        .value (.map [(.symbol "network_fee_bps", .u32 config.networkFeeBps),
          (.symbol "platform_fee_bps", .u32 config.platformFeeBps)])⟩ }

/-- A rule is quoted from one governance, then governance moves. -/
def movedGovernanceRun : List Asked.Input :=
  List.map Asked.steady
    [⟨.granting 0, .init (.account 9) [.account 1] 1 (.contract 5)
        (.account 2)⟩,
      ⟨.quoting 100 ⟨200, 10⟩, .getEffectiveRule (.account 3)⟩,
      ⟨.granting 200, .updateGovernance [.account 1] (.contract 7)⟩]

/-- The new governance has not answered yet, but an outage is served from the
cache of the old one. -/
theorem stale_rule_served_after_move :
    heard sampleCodec movedGovernanceRun 3 = none ∧
      (Asked.stateBefore sampleCodec movedGovernanceRun 3).governance =
        some (.contract 7) ∧
      (Asked.stateBefore sampleCodec movedGovernanceRun 3).outageRule =
        (GovFeeConfig.mk 200 10).toRule ∧
      ¬ ServesHeard (Asked.stateBefore sampleCodec movedGovernanceRun 3)
        (heard sampleCodec movedGovernanceRun 3) := by
  refine ⟨by decide, by decide, by decide, ?_⟩
  rw [servesHeard_iff]
  decide

/-- A setter passes the ceiling check, and governance fails before the
replaced rule is resolved. -/
def forgottenAnswerRun : List Asked.Input :=
  [Asked.steady ⟨.granting 0, .init (.account 9) [.account 1] 1
      (.contract 5) (.account 2)⟩,
    Asked.steady ⟨.granting 100,
      .registerMerchant [.account 1] (.account 3)⟩,
    ⟨⟨.quoting 200 ⟨200, 10⟩, .setSettlementRule [.account 1] (.account 3)
      ⟨100, 5, 0, false⟩⟩, (Env.granting 200).muted.governance⟩]

/-- The only answer governance ever gave is not served. -/
theorem checked_answer_forgotten :
    heard sampleCodec forgottenAnswerRun 3 = some (some ⟨200, 10⟩) ∧
      ¬ ServesHeard (Asked.stateBefore sampleCodec forgottenAnswerRun 3)
        (heard sampleCodec forgottenAnswerRun 3) := by
  refine ⟨by decide, ?_⟩
  rw [servesHeard_iff]
  decide

end BettaPay.Settlement
