import BettaPay.Settlement.Storage
import BettaPay.Common.Authority
import Mathlib.Tactic.Simps.Basic

namespace BettaPay.Settlement

open BettaPay.Host
open BettaPay.Host.Tx (readState writeState)
open BettaPay.Common

/-- The state with another rule cache, other lifetimes and more events:
what a call may change besides the entries it is about. -/
@[simps -fullyApplied] def State.soft (state : State)
    (cache : Option (Option SettlementRule)) (live : PersistentKey → Nat)
    (events : List Event) : State :=
  { state with
    cachedGovRule := cache
    liveUntil := live
    events := state.events ++ events }

theorem State.soft_soft (state : State)
    (cache cache' : Option (Option SettlementRule))
    (live live' : PersistentKey → Nat) (events events' : List Event) :
    (state.soft cache live events).soft cache' live' events' =
      state.soft cache' live' (events ++ events') := by
  simp [State.soft]

theorem State.soft_self (state : State) :
    state.soft state.cachedGovRule state.liveUntil [] = state := by
  simp [State.soft]

@[simps -fullyApplied] def State.authority (state : State) : Authority where
  admin := state.admin
  threshold := state.threshold
  recoveryAddress := state.recoveryAddress
  pendingRecovery := state.pendingRecovery

@[simp] theorem State.authority_soft (state : State)
    (cache : Option (Option SettlementRule)) (live : PersistentKey → Nat)
    (events : List Event) :
    (state.soft cache live events).authority = state.authority := rfl

/-! Host operations. -/

@[simp] theorem emit_ok {event : Event} {before after : State}
    {result : Unit} :
    emit event before = .ok (result, after) ↔
      before.soft before.cachedGovRule before.liveUntil [event] = after := by
  simp [emit, State.soft]

@[simp] theorem emit_error {event : Event} {before : State}
    {failure : Failure SettlementError} :
    emit event before = .error failure ↔ False := by
  simp [emit]

@[simp] theorem extendTtl_ok {env : Env} {key : PersistentKey}
    {threshold bump : UInt32} {before after : State} {result : Unit} :
    extendTtl env key threshold bump before = .ok (result, after) ↔
      before.soft before.cachedGovRule
        (Function.update before.liveUntil key
          (env.extendTtl threshold bump (before.liveUntil key))) [] =
        after := by
  simp [extendTtl, State.soft]

@[simp] theorem extendTtl_error {env : Env} {key : PersistentKey}
    {threshold bump : UInt32} {before : State}
    {failure : Failure SettlementError} :
    extendTtl env key threshold bump before = .error failure ↔ False := by
  simp [extendTtl]

/-! Admin configuration and authorization. -/

@[simp] theorem readAdmins_ok {before after : State}
    {admins : List Address} :
    readAdmins before = .ok (admins, after) ↔
      before.admin = some admins ∧ before = after := by
  simp [readAdmins]

@[simp] theorem readOptionalAdmins_ok {before after : State}
    {admins : List Address} :
    readOptionalAdmins before = .ok (admins, after) ↔
      before.admin.getD [] = admins ∧ before = after := by
  simp [readOptionalAdmins]

@[simp] theorem readThreshold_ok {before after : State}
    {threshold : UInt32} :
    readThreshold before = .ok (threshold, after) ↔
      before.threshold = some threshold ∧ before = after := by
  simp [readThreshold]

@[simp] theorem validateNonzeroAddress_ok {address : Address}
    {zeroError : SettlementError} {before after : State} {result : Unit} :
    validateNonzeroAddress address zeroError before = .ok (result, after) ↔
      address ≠ zeroAddress ∧ before = after := by
  simp [validateNonzeroAddress]

@[simp] theorem validateAdminsAndThreshold_ok {admins : List Address}
    {threshold : UInt32} {before after : State} {result : Unit} :
    validateAdminsAndThreshold admins threshold before =
        .ok (result, after) ↔
      ValidAdmins admins threshold ∧ before = after := by
  simp only [validateAdminsAndThreshold, Tx.bind_ok, rejectIf_ok,
    checkAdmins_ok, not_or, Nat.not_lt, ← UInt32.toNat_inj]
  constructor
  · intro given
    obtain ⟨_, _, ⟨⟨positive, attainable⟩, rfl⟩, _, _, ⟨_, rfl⟩, ⟨nonzero,
      distinct⟩, same⟩ := given
    exact ⟨⟨nonzero, distinct, Nat.pos_of_ne_zero positive, attainable⟩,
      same⟩
  · intro given
    obtain ⟨valid, rfl⟩ := given
    have positive : threshold.toNat ≠ (0 : UInt32).toNat :=
      Nat.pos_iff_ne_zero.mp valid.positive
    exact ⟨(), _, ⟨⟨positive, valid.attainable⟩, rfl⟩, (), _,
      ⟨valid.nonempty, rfl⟩, ⟨valid.nonzero, valid.distinct⟩, rfl⟩

@[simp] theorem writeAdmins_ok {admins : List Address} {threshold : UInt32}
    {before after : State} {result : Unit} :
    writeAdmins admins threshold before = .ok (result, after) ↔
      ValidAdmins admins threshold ∧
        { before with admin := some admins, threshold := some threshold } =
          after := by
  simp only [writeAdmins, Tx.bind_ok, validateAdminsAndThreshold_ok,
    Tx.writeState_ok]
  constructor
  · intro given
    obtain ⟨_, _, ⟨valid, rfl⟩, written⟩ := given
    exact ⟨valid, written⟩
  · intro given
    obtain ⟨valid, written⟩ := given
    exact ⟨(), _, ⟨valid, rfl⟩, written⟩

@[simp] theorem verifyAdminAuth_ok {env : Env} {signers : List Address}
    {count : UInt32} {before after : State} {result : Unit} :
    verifyAdminAuth env signers count before = .ok (result, after) ↔
      before.authority.AuthorizedBy env.toLedger signers count ∧
        before = after := by
  simp only [verifyAdminAuth, Tx.bind_ok, readAdmins_ok, rejectIf_ok,
    checkSigners_ok, Nat.not_lt, Authority.AuthorizedBy]
  constructor
  · intro given
    obtain ⟨admins, _, ⟨stored, rfl⟩, _, _, ⟨enough, rfl⟩, signed, same⟩ :=
      given
    exact ⟨⟨admins, stored, enough, signed⟩, same⟩
  · intro given
    obtain ⟨⟨admins, stored, enough, signed⟩, rfl⟩ := given
    exact ⟨admins, _, ⟨stored, rfl⟩, (), _, ⟨enough, rfl⟩, signed, rfl⟩

@[simp] theorem verifyThresholdAuth_ok {env : Env} {signers : List Address}
    {before after : State} {result : Unit} :
    verifyThresholdAuth env signers before = .ok (result, after) ↔
      before.authority.Quorum env.toLedger signers ∧ before = after := by
  simp only [verifyThresholdAuth, Tx.bind_ok, readThreshold_ok,
    verifyAdminAuth_ok, Authority.Quorum]
  constructor
  · intro given
    obtain ⟨threshold, _, ⟨stored, rfl⟩, authorized, same⟩ := given
    exact ⟨⟨threshold, stored, authorized⟩, same⟩
  · intro given
    obtain ⟨⟨threshold, stored, authorized⟩, rfl⟩ := given
    exact ⟨threshold, _, ⟨stored, rfl⟩, authorized, rfl⟩

@[simp] theorem readGovernance_ok {before after : State}
    {governance : Address} :
    readGovernance before = .ok (governance, after) ↔
      before.governance = some governance ∧ before = after := by
  simp [readGovernance]

@[simp] theorem readRecoveryAddress_ok {before after : State}
    {recovery : Address} :
    readRecoveryAddress before = .ok (recovery, after) ↔
      before.recoveryAddress = some recovery ∧ before = after := by
  simp [readRecoveryAddress]

@[simp] theorem readPendingRecovery_ok {before after : State}
    {pending : PendingRecovery} :
    readPendingRecovery before = .ok (pending, after) ↔
      before.pendingRecovery = some pending ∧ before = after := by
  simp [readPendingRecovery]

@[simp] theorem validateGovernance_ok {governance : Address}
    {before after : State} {result : Unit} :
    validateGovernance governance before = .ok (result, after) ↔
      governance ≠ zeroAddress ∧ before = after := by
  simp [validateGovernance]

@[simp] theorem assertNotPaused_ok {before after : State} {result : Unit} :
    assertNotPaused before = .ok (result, after) ↔
      before.isPaused = false ∧ before = after := by
  simp [assertNotPaused]

@[simp] theorem assertAdminAndNotPaused_ok {env : Env}
    {signers : List Address} {before after : State} {result : Unit} :
    assertAdminAndNotPaused env signers before = .ok (result, after) ↔
      (before.isPaused = false ∧ before.authority.Quorum env.toLedger signers) ∧
        before = after := by
  simp only [assertAdminAndNotPaused, Tx.bind_ok, assertNotPaused_ok,
    verifyThresholdAuth_ok]
  constructor
  · intro given
    obtain ⟨_, _, ⟨unpaused, rfl⟩, quorum, same⟩ := given
    exact ⟨⟨unpaused, quorum⟩, same⟩
  · intro given
    obtain ⟨⟨unpaused, quorum⟩, rfl⟩ := given
    exact ⟨(), _, ⟨unpaused, rfl⟩, quorum, rfl⟩

/-! Merchant markers and counters. -/

@[simp] theorem isMerchantRegisteredInternal_ok {merchant : Address}
    {before after : State} {registered : Bool} :
    isMerchantRegisteredInternal merchant before = .ok (registered, after) ↔
      before.merchant merchant = registered ∧ before = after := by
  simp [isMerchantRegisteredInternal]

theorem isMerchantRegisteredAndBumpTtl_ok {env : Env} {merchant : Address}
    {before after : State} {registered : Bool}
    (succeeded : isMerchantRegisteredAndBumpTtl env merchant before =
      .ok (registered, after)) :
    before.merchant merchant = registered ∧
      ∃ live, after = before.soft before.cachedGovRule live [] := by
  simp only [isMerchantRegisteredAndBumpTtl, Tx.bind_ok, Tx.readState_bind,
    Tx.ite_ok, extendTtl_ok, Tx.pure_ok] at succeeded
  obtain present | absent := succeeded
  · obtain ⟨marked, _, _, rfl, rfl, rfl⟩ := present
    exact ⟨marked, _, rfl⟩
  · obtain ⟨unmarked, rfl, rfl⟩ := absent
    exact ⟨by simpa using unmarked, _, (State.soft_self before).symm⟩

@[simp] theorem assertPaymentsReadable_ok {merchant : Address}
    {before after : State} {result : Unit} :
    assertPaymentsReadable merchant before = .ok (result, after) ↔
      (before.merchant merchant = true ∧
        before.archivedMerchant merchant = false) ∧ before = after := by
  simp only [assertPaymentsReadable, Tx.bind_ok,
    isMerchantRegisteredInternal_ok, rejectIf_ok, Tx.readState_bind]
  constructor
  · intro given
    obtain ⟨_, _, ⟨rfl, rfl⟩, _, _, ⟨registered, rfl⟩, archived, same⟩ :=
      given
    exact ⟨⟨by simpa using registered, by simpa using archived⟩, same⟩
  · intro given
    obtain ⟨⟨registered, archived⟩, rfl⟩ := given
    exact ⟨_, _, ⟨rfl, rfl⟩, (), _, ⟨by simp [registered], rfl⟩,
      by simp [archived], rfl⟩

theorem incrementPaymentCount_ok {env : Env} {merchant : Address}
    {before after : State} {result : Unit}
    (succeeded : incrementPaymentCount env merchant before =
      .ok (result, after)) :
    ∃ count live,
      count.toNat = (before.readPaymentCount merchant).toNat + 1 ∧
      after = State.soft { before with
        paymentCount :=
          Function.update before.paymentCount merchant (some count) }
        before.cachedGovRule live [] := by
  simp only [incrementPaymentCount, setPaymentCount, Tx.bind_ok,
    Tx.readState_bind, orTrap_ok, Tx.writeState_ok, extendTtl_ok,
    checkedAdd32_eq_some] at succeeded
  obtain ⟨count, _, ⟨counted, rfl⟩, _, _, rfl, rfl⟩ := succeeded
  exact ⟨count, _, counted, rfl⟩

/-- Every branch leaves the entry at the saturated difference, absent read
as zero. -/
theorem decrementPaymentCount_ok {env : Env} {merchant : Address}
    {removed : UInt32} {before after : State} {result : Unit}
    (succeeded : decrementPaymentCount env merchant removed before =
      .ok (result, after)) :
    ∃ counts live,
      (removed = 0 ∧ counts = before.paymentCount ∨
        counts = Function.update before.paymentCount merchant
          (some (saturatingSub32 (before.readPaymentCount merchant)
            removed))) ∧
      after = State.soft { before with paymentCount := counts }
        before.cachedGovRule live [] := by
  simp only [decrementPaymentCount, setPaymentCount, Tx.ite_ok, Tx.bind_ok,
    Tx.readState_bind, Tx.writeState_ok, extendTtl_ok, Tx.pure_ok] at succeeded
  obtain ⟨zero, _, rfl⟩ | ⟨_, _, _, rfl, rfl⟩ := succeeded
  · exact ⟨_, _, .inl ⟨zero, rfl⟩, (State.soft_self before).symm⟩
  · exact ⟨_, _, .inr rfl, rfl⟩

@[simp] theorem incrementPendingOperationCount_ok {before after : State}
    {result : Unit} :
    incrementPendingOperationCount before = .ok (result, after) ↔
      { before with
        pendingOperationCount :=
          some (saturatingAdd32 before.readPendingOperationCount 1) } =
        after := by
  simp [incrementPendingOperationCount]

@[simp] theorem decrementPendingOperationCount_one_ok
    {before after : State} {result : Unit} :
    decrementPendingOperationCount 1 before = .ok (result, after) ↔
      { before with
        pendingOperationCount :=
          some (saturatingSub32 before.readPendingOperationCount 1) } =
        after := by
  simp [decrementPendingOperationCount]

/-! Rule resolution touches nothing but the cache and lifetimes. -/

/-- The configured governance answers with this fee configuration. -/
def Answers (env : Env) (state : State) (config : GovFeeConfig) : Prop :=
  ∃ governance rawVal, state.governance = some governance ∧
    (env.governance governance).getFeeConfig = .value rawVal ∧
    classifyGovernanceFeeConfig rawVal = .ok (some config)

/-- The cache after a call: what it was, or the rule just answered. -/
inductive Refreshed (env : Env) (state : State) :
    Option (Option SettlementRule) → Prop where
  | kept : Refreshed env state state.cachedGovRule
  | answered {config : GovFeeConfig} (answers : Answers env state config) :
      Refreshed env state (some (some config.toRule))

theorem Refreshed.unconfigured {env : Env} {state : State}
    {cache : Option (Option SettlementRule)}
    (refreshed : Refreshed env state cache)
    (unconfigured : state.governance = none) :
    cache = state.cachedGovRule := by
  cases refreshed with
  | kept => rfl
  | answered answers =>
      obtain ⟨governance, _, configured, _⟩ := answers
      cases unconfigured.symm.trans configured

/-- Where a fallback rule comes from. -/
inductive Fallback (env : Env) (state : State) : EffectiveRule → Prop where
  | default {rule : SettlementRule} (stored : state.defaultRule = some rule) :
      Fallback env state ⟨rule, .default⟩
  | answered {config : GovFeeConfig} (unset : state.defaultRule = none)
      (answers : Answers env state config) :
      Fallback env state ⟨config.toRule, .governance⟩
  | cached {rule : SettlementRule} (unset : state.defaultRule = none)
      (stored : state.readCachedGovernanceFeeRule = some rule) :
      Fallback env state ⟨rule, .governance⟩
  | bootstrap (unset : state.defaultRule = none) :
      Fallback env state ⟨bootstrapDefaultRule, .bootstrap⟩

/-- Where the rule of a merchant comes from. -/
inductive Sourced (env : Env) (state : State) (merchant : Address) :
    EffectiveRule → Prop where
  | merchant {rule : SettlementRule}
      (stored : state.rule merchant = some rule) :
      Sourced env state merchant ⟨rule, .merchant⟩
  | fallback {effective : EffectiveRule}
      (unset : state.rule merchant = none)
      (source : Fallback env state effective) :
      Sourced env state merchant effective

theorem cacheGovernanceFeeRule_ok {config : Option GovFeeConfig}
    {before after : State} {rule : Option SettlementRule}
    (succeeded : cacheGovernanceFeeRule config before = .ok (rule, after)) :
    rule = config.map GovFeeConfig.toRule ∧
      after = before.soft
        (if config.isSome then some rule else before.cachedGovRule)
        before.liveUntil [] := by
  cases config with
  | none =>
      simp only [cacheGovernanceFeeRule, Tx.pure_ok] at succeeded
      obtain ⟨rfl, rfl⟩ := succeeded
      exact ⟨rfl, (State.soft_self before).symm⟩
  | some config =>
      simp only [cacheGovernanceFeeRule, Tx.bind_ok, rejectIf_ok,
        Tx.writeState_ok, Tx.pure_ok] at succeeded
      obtain ⟨_, _, ⟨_, rfl⟩, _, _, rfl, rfl, rfl⟩ := succeeded
      exact ⟨rfl, by simp [State.soft]⟩

theorem readGovernanceFeeRule_ok {env : Env} {before after : State}
    {rule : Option SettlementRule}
    (succeeded : readGovernanceFeeRule env before = .ok (rule, after)) :
    (∃ cache, Refreshed env before cache ∧
        after = before.soft cache before.liveUntil []) ∧
      ∀ found, rule = some found →
        before.readCachedGovernanceFeeRule = some found ∨
          ∃ config, Answers env before config ∧ found = config.toRule := by
  have unchanged : ∃ cache, Refreshed env before cache ∧
      before = before.soft cache before.liveUntil [] :=
    ⟨_, .kept, (State.soft_self before).symm⟩
  simp only [readGovernanceFeeRule, Tx.readState_bind] at succeeded
  cases configured : before.governance with
  | none =>
      simp only [configured, Tx.pure_ok] at succeeded
      obtain ⟨rfl, rfl⟩ := succeeded
      exact ⟨unchanged, by simp⟩
  | some governance =>
      simp only [configured, Tx.ite_ok, Tx.pure_ok] at succeeded
      obtain ⟨_, rfl, rfl⟩ | ⟨_, asked⟩ := succeeded
      · exact ⟨unchanged, by simp⟩
      · cases answer : (env.governance governance).getFeeConfig with
        | value rawVal =>
            simp only [answer, Tx.bind_ok, tryReadGovernanceFeeConfig,
              orRaise_ok] at asked
            obtain ⟨config, _, ⟨classified, rfl⟩, cached⟩ := asked
            obtain ⟨rfl, rfl⟩ := cacheGovernanceFeeRule_ok cached
            cases config with
            | none =>
                exact ⟨⟨_, .kept, rfl⟩, by simp⟩
            | some config =>
                have answers : Answers env before config :=
                  ⟨governance, rawVal, configured, answer, classified⟩
                refine ⟨⟨_, .answered answers, rfl⟩, ?_⟩
                intro _ same
                cases same
                exact .inr ⟨config, answers, rfl⟩
        | error code =>
            simp only [answer, Tx.pure_ok] at asked
            obtain ⟨rfl, rfl⟩ := asked
            exact ⟨unchanged, fun _ stored => .inl stored⟩
        | trap =>
            simp only [answer, Tx.pure_ok] at asked
            obtain ⟨rfl, rfl⟩ := asked
            exact ⟨unchanged, fun _ stored => .inl stored⟩

theorem readEffectiveFallbackRule_ok {env : Env} {before after : State}
    {effective : EffectiveRule}
    (succeeded : readEffectiveFallbackRule env before =
      .ok (effective, after)) :
    Fallback env before effective ∧
      ∃ cache, Refreshed env before cache ∧
        after = before.soft cache before.liveUntil [] := by
  simp only [readEffectiveFallbackRule, Tx.readState_bind] at succeeded
  cases stored : before.defaultRule with
  | some rule =>
      simp only [stored, Tx.pure_ok] at succeeded
      obtain ⟨rfl, rfl⟩ := succeeded
      exact ⟨.default stored, _, .kept, (State.soft_self before).symm⟩
  | none =>
      simp only [stored, Tx.bind_ok] at succeeded
      obtain ⟨rule, middle, asked, chosen⟩ := succeeded
      obtain ⟨⟨cache, refreshed, rfl⟩, origin⟩ :=
        readGovernanceFeeRule_ok asked
      cases rule with
      | none =>
          obtain ⟨rfl, rfl⟩ := Tx.pure_ok.mp chosen
          exact ⟨.bootstrap stored, cache, refreshed, rfl⟩
      | some rule =>
          obtain ⟨rfl, rfl⟩ := Tx.pure_ok.mp chosen
          refine ⟨?_, cache, refreshed, rfl⟩
          rcases origin rule rfl with cached | ⟨config, answers, rfl⟩
          · exact .cached stored cached
          · exact .answered stored answers

theorem readFallbackRule_ok {env : Env} {before after : State}
    {rule : SettlementRule}
    (succeeded : readFallbackRule env before = .ok (rule, after)) :
    ∃ cache, Refreshed env before cache ∧
      after = before.soft cache before.liveUntil [] := by
  simp only [readFallbackRule, Tx.bind_ok, Tx.pure_ok] at succeeded
  obtain ⟨_, _, resolved, _, rfl⟩ := succeeded
  exact (readEffectiveFallbackRule_ok resolved).2

theorem readEffectiveRuleNoBump_ok {env : Env} {merchant : Address}
    {before after : State} {effective : EffectiveRule}
    (succeeded : readEffectiveRuleNoBump env merchant before =
      .ok (effective, after)) :
    Sourced env before merchant effective ∧
      ∃ cache, Refreshed env before cache ∧
        after = before.soft cache before.liveUntil [] := by
  simp only [readEffectiveRuleNoBump, Tx.readState_bind] at succeeded
  cases stored : before.rule merchant with
  | some rule =>
      simp only [stored, Tx.pure_ok] at succeeded
      obtain ⟨rfl, rfl⟩ := succeeded
      exact ⟨.merchant stored, _, .kept, (State.soft_self before).symm⟩
  | none =>
      simp only [stored] at succeeded
      obtain ⟨source, refreshed⟩ := readEffectiveFallbackRule_ok succeeded
      exact ⟨.fallback stored source, refreshed⟩

theorem readRuleOrDefaultNoBump_ok {env : Env} {merchant : Address}
    {before after : State} {rule : SettlementRule}
    (succeeded : readRuleOrDefaultNoBump env merchant before =
      .ok (rule, after)) :
    (∃ provenance, Sourced env before merchant ⟨rule, provenance⟩) ∧
      ∃ cache, Refreshed env before cache ∧
        after = before.soft cache before.liveUntil [] := by
  simp only [readRuleOrDefaultNoBump, Tx.bind_ok, Tx.pure_ok] at succeeded
  obtain ⟨effective, _, resolved, rfl, rfl⟩ := succeeded
  obtain ⟨source, refreshed⟩ := readEffectiveRuleNoBump_ok resolved
  exact ⟨⟨effective.provenance, source⟩, refreshed⟩

theorem bumpRule_ok {env : Env} {merchant : Address}
    {before after : State} {result : Unit}
    (succeeded : bumpRule env merchant before = .ok (result, after)) :
    ∃ live, after = before.soft before.cachedGovRule live [] := by
  simp only [bumpRule, Tx.readState_bind, Tx.ite_ok, extendTtl_ok,
    Tx.pure_ok] at succeeded
  obtain ⟨_, rfl⟩ | ⟨_, _, rfl⟩ := succeeded
  · exact ⟨_, rfl⟩
  · exact ⟨_, (State.soft_self before).symm⟩

/-- Answers, the cache and stored rules do not depend on lifetimes, events or
payments; states that agree on the rest resolve rules alike. -/
structure SameRules (left right : State) : Prop where
  governance : left.governance = right.governance
  cachedGovRule : left.cachedGovRule = right.cachedGovRule
  defaultRule : left.defaultRule = right.defaultRule
  rule : left.rule = right.rule

theorem Answers.congr {env : Env} {left right : State}
    {config : GovFeeConfig} (answers : Answers env left config)
    (same : left.governance = right.governance) :
    Answers env right config := by
  simpa only [Answers, same] using answers

theorem Refreshed.congr {env : Env} {left right : State}
    {cache : Option (Option SettlementRule)}
    (refreshed : Refreshed env left cache)
    (governance : left.governance = right.governance)
    (cached : left.cachedGovRule = right.cachedGovRule) :
    Refreshed env right cache := by
  cases refreshed with
  | kept =>
      rw [cached]
      exact .kept
  | answered answers => exact .answered (answers.congr governance)

theorem Sourced.congr {env : Env} {left right : State}
    {merchant : Address} {effective : EffectiveRule}
    (source : Sourced env left merchant effective)
    (same : SameRules left right) :
    Sourced env right merchant effective := by
  cases source with
  | merchant stored => exact .merchant (same.rule ▸ stored)
  | fallback unset source =>
      refine .fallback (same.rule ▸ unset) ?_
      cases source with
      | default stored => exact .default (same.defaultRule ▸ stored)
      | answered none answers =>
          exact .answered (same.defaultRule ▸ none)
            (answers.congr same.governance)
      | cached none stored =>
          refine .cached (same.defaultRule ▸ none) ?_
          rw [State.readCachedGovernanceFeeRule, ← same.cachedGovRule]
          exact stored
      | bootstrap none => exact .bootstrap (same.defaultRule ▸ none)

theorem readRuleOrDefault_ok {env : Env} {merchant : Address}
    {before after : State} {rule : SettlementRule}
    (succeeded : readRuleOrDefault env merchant before =
      .ok (rule, after)) :
    (∃ provenance, Sourced env before merchant ⟨rule, provenance⟩) ∧
      ∃ cache live, Refreshed env before cache ∧
        after = before.soft cache live [] := by
  simp only [readRuleOrDefault, Tx.bind_ok] at succeeded
  obtain ⟨_, middle, bumped, resolved⟩ := succeeded
  obtain ⟨live, rfl⟩ := bumpRule_ok bumped
  obtain ⟨⟨provenance, source⟩, cache, refreshed, rfl⟩ :=
    readRuleOrDefaultNoBump_ok resolved
  refine ⟨⟨provenance, source.congr ⟨rfl, rfl, rfl, rfl⟩⟩, cache, live,
    refreshed.congr rfl rfl, ?_⟩
  rw [State.soft_soft]
  rfl

@[simp] theorem invokeGovernanceGetFeeConfig_ok {env : Env}
    {governance : Address} {before after : State} {rawVal : Val} :
    invokeGovernanceGetFeeConfig env governance before =
        .ok (rawVal, after) ↔
      (env.governance governance).getFeeConfig = .value rawVal ∧
        before = after := by
  cases answer : (env.governance governance).getFeeConfig <;>
    simp [invokeGovernanceGetFeeConfig, answer]

theorem checkFeeCeiling_ok {rule : SettlementRule}
    {config : Option GovFeeConfig} {before after : State} {result : Unit}
    (succeeded : checkFeeCeiling rule config before = .ok (result, after)) :
    after = before := by
  cases config with
  | none => exact (Tx.pure_ok.mp succeeded).2.symm
  | some config =>
      simp only [checkFeeCeiling, Tx.ite_ok, Tx.bind_ok, reject_ok,
        and_false, exists_false, false_or, Tx.pure_ok] at succeeded
      exact succeeded.2.2.symm

theorem validateFeeAgainstGovernance_ok {env : Env} {rule : SettlementRule}
    {before after : State} {result : Unit}
    (succeeded : validateFeeAgainstGovernance env rule before =
      .ok (result, after)) : after = before := by
  simp only [validateFeeAgainstGovernance, tryReadGovernanceFeeConfig,
    Tx.bind_ok, readGovernance_ok, invokeGovernanceGetFeeConfig_ok,
    orRaise_ok] at succeeded
  obtain ⟨_, _, ⟨_, rfl⟩, _, _, ⟨_, rfl⟩, _, _, ⟨_, rfl⟩, checked⟩ :=
    succeeded
  exact checkFeeCeiling_ok checked

theorem assertGovernanceReachable_ok {env : Env} {before after : State}
    {result : Unit}
    (succeeded : assertGovernanceReachable env before =
      .ok (result, after)) : after = before := by
  simp only [assertGovernanceReachable, Tx.bind_ok, readGovernance_ok,
    invokeGovernanceGetFeeConfig_ok, Tx.pure_ok] at succeeded
  obtain ⟨_, _, ⟨_, rfl⟩, _, _, ⟨_, rfl⟩, _, rfl⟩ := succeeded
  rfl

end BettaPay.Settlement
