import BettaPay.Settlement.StorageSpec
import BettaPay.Settlement.Admin
import BettaPay.Host.Support

namespace BettaPay.Settlement

open BettaPay.Host
open BettaPay.Host.Tx (readState writeState)
open BettaPay.Common

/-- The bounds every accepted settlement rule meets. -/
structure BoundedRule (rule : SettlementRule) : Prop where
  platformAtLeast : minFeeBps ≤ rule.platformFeeBps
  platformAtMost : rule.platformFeeBps ≤ maxFeeBps
  networkAtLeast : minFeeBps ≤ rule.networkFeeBps
  networkAtMost : rule.networkFeeBps ≤ maxFeeBps
  delayAtMost : rule.settlementDelayLedger ≤ maxSettlementDelayLedger

theorem validateRuleBounds_ok {rule : SettlementRule}
    {before after : State} {result : Unit}
    (succeeded : validateRuleBounds rule before = .ok (result, after)) :
    BoundedRule rule ∧ after = before := by
  simp only [validateRuleBounds, Tx.bind_ok, rejectIf_ok, not_or,
    UInt32.not_lt] at succeeded
  obtain ⟨_, _, ⟨_, rfl⟩, _, _, ⟨⟨platformLow, networkLow⟩, rfl⟩, _, _,
    ⟨⟨platformHigh, networkHigh⟩, rfl⟩, _, _, ⟨_, rfl⟩, delay, rfl⟩ :=
    succeeded
  exact ⟨⟨platformLow, platformHigh, networkLow, networkHigh, delay⟩, rfl⟩

theorem validateRuleBoundsTrapping_ok {rule : SettlementRule}
    {before after : State} {result : Unit}
    (succeeded : validateRuleBoundsTrapping rule before =
      .ok (result, after)) :
    BoundedRule rule ∧ after = before := by
  simp only [validateRuleBoundsTrapping, Tx.bind_ok, rejectIf_ok, orTrap_ok,
    not_or, UInt32.not_lt] at succeeded
  obtain ⟨_, _, ⟨_, rfl⟩, _, _, ⟨⟨platformLow, networkLow⟩, rfl⟩, _, _,
    ⟨⟨platformHigh, networkHigh⟩, rfl⟩, _, _, ⟨_, rfl⟩, _, _, ⟨_, rfl⟩,
    delay, rfl⟩ := succeeded
  exact ⟨⟨platformLow, platformHigh, networkLow, networkHigh, delay⟩, rfl⟩

/-- The events that report the removal of the merchant's rule, if it has
one. -/
inductive ClearedEvents (state : State) (actor merchant : Address) :
    List Event → Prop where
  | none (absent : state.rule merchant = none) :
      ClearedEvents state actor merchant []
  | some {removed fallback : SettlementRule}
      (stored : state.rule merchant = some removed) :
      ClearedEvents state actor merchant
        [.settlementRuleCleared merchant actor removed fallback]

/-- What one operation writes on behalf of `actor`, by either path. -/
inductive Applied (env : Env) (state : State) (actor : Address) :
    Operation → State → Prop where
  | updateGovernance {newGovernance : Address}
      (nonzero : newGovernance ≠ zeroAddress) :
      Applied env state actor (.updateGovernance newGovernance)
        (State.soft { state with governance := some newGovernance }
          state.cachedGovRule state.liveUntil
          [.governanceUpdated actor newGovernance])
  | cancelRecovery {pending : PendingRecovery}
      (stored : state.pendingRecovery = some pending) :
      Applied env state actor .cancelRecovery
        (State.soft { state with pendingRecovery := none }
          state.cachedGovRule state.liveUntil [.recoveryCancelled actor])
  | transferAdmin {oldAdmins newAdmins : List Address}
      {newThreshold : UInt32} (stored : state.admin = some oldAdmins)
      (valid : ValidAdmins newAdmins newThreshold)
      (separate : ∀ admin, admin ∈ newAdmins →
        state.merchant admin = false) :
      Applied env state actor (.transferAdmin newAdmins newThreshold)
        (State.soft
          { state with
            admin := some newAdmins
            threshold := some newThreshold }
          state.cachedGovRule state.liveUntil
          [.adminTransferred ⟨oldAdmins, newAdmins⟩])
  | upgrade {wasmHash : BytesN 32} :
      Applied env state actor (.upgrade wasmHash)
        (State.soft { state with wasm := some wasmHash }
          state.cachedGovRule state.liveUntil
          [.contractUpgraded wasmHash actor])
  | registerMerchant {merchant : Address} {admins : List Address}
      {live : PersistentKey → Nat} (nonzero : merchant ≠ zeroAddress)
      (stored : state.admin = some admins) (separate : merchant ∉ admins)
      (fresh : state.merchant merchant = false) :
      Applied env state actor (.registerMerchant merchant)
        (State.soft
          { state with
            merchant := Function.update state.merchant merchant true
            archivedMerchant :=
              Function.update state.archivedMerchant merchant false }
          state.cachedGovRule live [.merchantRegistered merchant actor])
  | unregisterMerchant {merchant : Address}
      {cache : Option (Option SettlementRule)}
      {live : PersistentKey → Nat} {cleared : List Event}
      (registered : state.merchant merchant = true)
      (refreshed : Refreshed env state cache)
      (clearing : ClearedEvents state actor merchant cleared) :
      Applied env state actor (.unregisterMerchant merchant)
        (State.soft
          { state with
            merchant := Function.update state.merchant merchant false
            archivedMerchant :=
              Function.update state.archivedMerchant merchant true
            rule := Function.update state.rule merchant none }
          cache live (cleared ++ [.merchantUnregistered merchant actor]))
  | setSettlementRule {merchant : Address} {rule prev : SettlementRule}
      {cache : Option (Option SettlementRule)}
      {live : PersistentKey → Nat}
      (refreshed : Refreshed env state cache)
      (registered : state.merchant merchant = true)
      (bounded : BoundedRule rule) :
      Applied env state actor (.setSettlementRule merchant rule)
        (State.soft
          { state with
            rule := Function.update state.rule merchant (some rule) }
          cache live [.settlementRuleUpdated merchant actor prev rule])
  | clearSettlementRule {merchant : Address}
      {removed fallback : SettlementRule}
      {cache : Option (Option SettlementRule)}
      {live : PersistentKey → Nat}
      (refreshed : Refreshed env state cache)
      (stored : state.rule merchant = some removed) :
      Applied env state actor (.clearSettlementRule merchant)
        (State.soft
          { state with rule := Function.update state.rule merchant none }
          cache live
          [.settlementRuleCleared merchant actor removed fallback])
  | setDefaultRule {rule prev : SettlementRule}
      (bounded : BoundedRule rule) :
      Applied env state actor (.setDefaultRule rule)
        (State.soft { state with defaultRule := some rule }
          state.cachedGovRule state.liveUntil
          [.defaultRuleUpdated actor prev rule])

/-! The writes the two paths share. -/

theorem storeGovernance_applied {env : Env} {actor newGovernance : Address}
    {before after : State} {result : Unit}
    (nonzero : newGovernance ≠ zeroAddress)
    (succeeded : storeGovernance actor newGovernance before =
      .ok (result, after)) :
    Applied env before actor (.updateGovernance newGovernance) after := by
  simp only [storeGovernance, Tx.bind_ok, Tx.writeState_ok, emit_ok]
    at succeeded
  obtain ⟨_, _, rfl, rfl⟩ := succeeded
  exact .updateGovernance nonzero

theorem removePendingRecovery_ok {canceller : Address}
    {before after : State} {result : Unit}
    (succeeded : removePendingRecovery canceller before =
      .ok (result, after)) :
    after = State.soft { before with pendingRecovery := none }
      before.cachedGovRule before.liveUntil
      [.recoveryCancelled canceller] := by
  simp only [removePendingRecovery, Tx.bind_ok, Tx.writeState_ok, emit_ok]
    at succeeded
  obtain ⟨_, _, rfl, rfl⟩ := succeeded
  rfl

@[simp] theorem rejectMerchantAdmins_ok {admins : List Address}
    {before after : State} {result : Unit} :
    rejectMerchantAdmins admins before = .ok (result, after) ↔
      (∀ admin, admin ∈ admins → before.merchant admin = false) ∧
        before = after := by
  induction admins with
  | nil => simp [rejectMerchantAdmins]
  | cons admin rest induction =>
      simp only [rejectMerchantAdmins, Tx.bind_ok,
        isMerchantRegisteredInternal_ok, rejectIf_ok, List.mem_cons,
        forall_eq_or_imp, Bool.not_eq_true]
      constructor
      · intro given
        obtain ⟨_, _, ⟨rfl, rfl⟩, _, _, ⟨first, rfl⟩, later⟩ := given
        obtain ⟨others, same⟩ := induction.mp later
        exact ⟨⟨first, others⟩, same⟩
      · intro given
        obtain ⟨⟨first, others⟩, rfl⟩ := given
        exact ⟨_, _, ⟨rfl, rfl⟩, (), _, ⟨first, rfl⟩,
          induction.mpr ⟨others, rfl⟩⟩

theorem swapWasm_applied {env : Env} {actor : Address}
    {newWasmHash : BytesN 32} {before after : State} {result : Unit}
    (succeeded : swapWasm actor newWasmHash before = .ok (result, after)) :
    Applied env before actor (.upgrade newWasmHash) after := by
  simp only [swapWasm, Tx.bind_ok, Tx.writeState_ok, emit_ok] at succeeded
  obtain ⟨_, _, rfl, rfl⟩ := succeeded
  exact .upgrade

theorem rejectAdminMerchant_ok {merchant : Address}
    {before after : State} {result : Unit}
    (succeeded : rejectAdminMerchant merchant before =
      .ok (result, after)) :
    (∃ admins, before.admin = some admins ∧ merchant ∉ admins) ∧
      after = before := by
  simp only [rejectAdminMerchant, Tx.bind_ok, readAdmins_ok, rejectIf_ok]
    at succeeded
  obtain ⟨admins, _, ⟨stored, rfl⟩, separate, rfl⟩ := succeeded
  exact ⟨⟨admins, stored, separate⟩, rfl⟩

theorem addMerchant_applied {env : Env} {actor merchant : Address}
    {admins : List Address} {before after : State} {result : Unit}
    (nonzero : merchant ≠ zeroAddress)
    (stored : before.admin = some admins) (separate : merchant ∉ admins)
    (succeeded : addMerchant env actor merchant before =
      .ok (result, after)) :
    Applied env before actor (.registerMerchant merchant) after := by
  simp only [addMerchant, setMerchant, Tx.readState_bind, Tx.bind_ok,
    rejectIf_ok, Tx.writeState_ok, extendTtl_ok, emit_ok,
    Bool.not_eq_true] at succeeded
  obtain ⟨_, _, ⟨fresh, rfl⟩, _, _, rfl, _, _, rfl, _, _, rfl, rfl⟩ :=
    succeeded
  simp only [State.soft, List.append_nil]
  exact .registerMerchant nonzero stored separate fresh

theorem clearMerchantRule_ok {env : Env} {actor merchant : Address}
    {before after : State} {result : Unit}
    (succeeded : clearMerchantRule env actor merchant before =
      .ok (result, after)) :
    ∃ cache cleared, Refreshed env before cache ∧
      ClearedEvents before actor merchant cleared ∧
      after = State.soft
        { before with rule := Function.update before.rule merchant none }
        cache before.liveUntil cleared := by
  simp only [clearMerchantRule, Tx.readState_bind] at succeeded
  cases stored : before.rule merchant with
  | none =>
      simp only [stored, Tx.pure_ok] at succeeded
      obtain ⟨_, rfl⟩ := succeeded
      refine ⟨before.cachedGovRule, [], .kept, .none stored, ?_⟩
      rw [erase_absent stored]
      exact (State.soft_self before).symm
  | some oldRule =>
      simp only [stored, removeRule, Tx.bind_ok, Tx.writeState_ok, emit_ok]
        at succeeded
      obtain ⟨_, _, rfl, fallback, _, resolved, rfl⟩ := succeeded
      obtain ⟨cache, refreshed, rfl⟩ := readFallbackRule_ok resolved
      rw [State.soft_soft]
      exact ⟨cache, _, refreshed.congr rfl rfl, .some stored, rfl⟩

theorem removeMerchant_applied {env : Env} {actor merchant : Address}
    {before after : State} {result : Unit}
    (succeeded : removeMerchant env actor merchant before =
      .ok (result, after)) :
    Applied env before actor (.unregisterMerchant merchant) after := by
  simp only [removeMerchant, setArchivedMerchant, Tx.readState_bind,
    Tx.bind_ok, rejectIf_ok, Tx.writeState_ok, extendTtl_ok, emit_ok,
    Bool.not_eq_false] at succeeded
  obtain ⟨_, _, ⟨registered, rfl⟩, _, _, rfl, _, _, rfl, _, _, rfl, _, _,
    ruleCleared, rfl⟩ := succeeded
  obtain ⟨cache, cleared, refreshed, clearing, rfl⟩ :=
    clearMerchantRule_ok ruleCleared
  have reported : ClearedEvents before actor merchant cleared := by
    cases clearing with
    | none absent => exact .none absent
    | some stored => exact .some stored
  rw [State.soft_soft]
  simp only [State.soft, List.append_nil]
  exact .unregisterMerchant registered (refreshed.congr rfl rfl) reported

theorem previousRule_ok {env : Env} {merchant : Address}
    {before after : State} {prev : SettlementRule}
    (succeeded : previousRule env merchant before = .ok (prev, after)) :
    ∃ cache live, Refreshed env before cache ∧
      after = before.soft cache live [] := by
  simp only [previousRule, Tx.readState_bind] at succeeded
  cases stored : before.rule merchant with
  | some rule =>
      simp only [stored, Tx.pure_ok] at succeeded
      obtain ⟨_, rfl⟩ := succeeded
      exact ⟨_, _, .kept, (State.soft_self before).symm⟩
  | none =>
      simp only [stored] at succeeded
      exact (readRuleOrDefault_ok succeeded).2

theorem assertMerchantRegistered_ok {env : Env} {merchant : Address}
    {before after : State} {result : Unit}
    (succeeded : assertMerchantRegistered env merchant before =
      .ok (result, after)) :
    before.merchant merchant = true ∧
      ∃ live, after = before.soft before.cachedGovRule live [] := by
  simp only [assertMerchantRegistered, Tx.bind_ok, rejectIf_ok,
    Bool.not_eq_false] at succeeded
  obtain ⟨registered, _, looked, present, rfl⟩ := succeeded
  obtain ⟨stored, kept⟩ := isMerchantRegisteredAndBumpTtl_ok looked
  exact ⟨stored.trans present, kept⟩

theorem storeRule_applied {env : Env} {actor merchant : Address}
    {rule : SettlementRule} {live : PersistentKey → Nat}
    {before after : State} {result : Unit}
    (registered : before.merchant merchant = true)
    (bounded : BoundedRule rule)
    (succeeded : storeRule env actor merchant rule
      (before.soft before.cachedGovRule live []) = .ok (result, after)) :
    Applied env before actor (.setSettlementRule merchant rule) after := by
  simp only [storeRule, setRule, Tx.bind_ok, Tx.writeState_ok, extendTtl_ok,
    emit_ok] at succeeded
  obtain ⟨prev, _, resolved, _, _, rfl, _, _, rfl, rfl⟩ := succeeded
  obtain ⟨cache, live, refreshed, rfl⟩ := previousRule_ok resolved
  simp only [State.soft, List.append_nil]
  exact .setSettlementRule (refreshed.congr rfl rfl) registered bounded

theorem storeDefaultRule_applied {env : Env} {actor : Address}
    {newRule : SettlementRule} {before after : State} {result : Unit}
    (bounded : BoundedRule newRule)
    (succeeded : storeDefaultRule actor newRule before =
      .ok (result, after)) :
    Applied env before actor (.setDefaultRule newRule) after := by
  simp only [storeDefaultRule, Tx.readState_bind, Tx.bind_ok,
    Tx.writeState_ok, emit_ok] at succeeded
  obtain ⟨_, _, rfl, rfl⟩ := succeeded
  exact .setDefaultRule bounded

/-! The timelocked path. -/

theorem Timelocked.transferAdmin_applied {env : Env} {actor : Address}
    {newAdmins : List Address} {newThreshold : UInt32}
    {before after : State} {result : Unit}
    (succeeded : Timelocked.transferAdmin newAdmins newThreshold before =
      .ok (result, after)) :
    Applied env before actor (.transferAdmin newAdmins newThreshold) after := by
  simp only [Timelocked.transferAdmin, Tx.bind_ok, readAdmins_ok,
    validateAdminsAndThreshold_ok, rejectMerchantAdmins_ok, writeAdmins_ok,
    emit_ok] at succeeded
  obtain ⟨oldAdmins, _, ⟨stored, rfl⟩, _, _, ⟨valid, rfl⟩, _, _,
    ⟨separate, rfl⟩, _, _, ⟨_, rfl⟩, rfl⟩ := succeeded
  exact .transferAdmin stored valid separate

theorem Timelocked.clearSettlementRule_applied {env : Env}
    {actor merchant : Address} {before after : State} {result : Unit}
    (succeeded : Timelocked.clearSettlementRule env actor merchant before =
      .ok (result, after)) :
    Applied env before actor (.clearSettlementRule merchant) after := by
  simp only [Timelocked.clearSettlementRule, removeRule, Tx.readState_bind,
    Tx.bind_ok, assertNotPaused_ok, orReject_ok, Tx.writeState_ok, emit_ok]
    at succeeded
  obtain ⟨_, _, ⟨_, rfl⟩, removed, _, ⟨stored, rfl⟩, _, _, rfl, fallback,
    _, resolved, rfl⟩ := succeeded
  obtain ⟨_, cache, live, refreshed, rfl⟩ := readRuleOrDefault_ok resolved
  rw [State.soft_soft]
  exact .clearSettlementRule (refreshed.congr rfl rfl) stored

theorem dispatch_applied {env : Env} {executor : Address}
    {operation : Operation} {before after : State} {result : Unit}
    (succeeded : dispatch env executor operation before =
      .ok (result, after)) :
    Applied env before executor operation after := by
  cases operation with
  | updateGovernance newGovernance =>
      simp only [dispatch, Timelocked.updateGovernance, Tx.bind_ok,
        assertNotPaused_ok, validateGovernance_ok] at succeeded
      obtain ⟨_, _, ⟨_, rfl⟩, _, _, ⟨nonzero, rfl⟩, stored⟩ := succeeded
      exact storeGovernance_applied nonzero stored
  | cancelRecovery =>
      simp only [dispatch, Timelocked.cancelRecovery, Tx.readState_bind,
        Tx.bind_ok, rejectIf_ok] at succeeded
      obtain ⟨_, _, ⟨present, rfl⟩, removed⟩ := succeeded
      obtain ⟨pending, stored⟩ := Option.ne_none_iff_exists'.mp present
      rw [removePendingRecovery_ok removed]
      exact .cancelRecovery stored
  | transferAdmin newAdmins newThreshold =>
      exact Timelocked.transferAdmin_applied succeeded
  | upgrade wasmHash =>
      simp only [dispatch, Timelocked.upgrade, Tx.bind_ok, rejectIf_ok,
        assertNotPaused_ok] at succeeded
      obtain ⟨_, _, ⟨_, rfl⟩, _, _, ⟨_, rfl⟩, _, _, probed, _, _, ⟨_, rfl⟩,
        swapped⟩ := succeeded
      obtain rfl := probeSupportsInterface_ok probed
      exact swapWasm_applied swapped
  | registerMerchant merchant =>
      simp only [dispatch, Timelocked.registerMerchant, Tx.bind_ok,
        assertNotPaused_ok, validateNonzeroAddress_ok] at succeeded
      obtain ⟨_, _, ⟨_, rfl⟩, _, _, ⟨nonzero, rfl⟩, _, _, checked, added⟩ :=
        succeeded
      obtain ⟨⟨admins, stored, separate⟩, rfl⟩ :=
        rejectAdminMerchant_ok checked
      exact addMerchant_applied nonzero stored separate added
  | unregisterMerchant merchant =>
      simp only [dispatch, Timelocked.unregisterMerchant, Tx.bind_ok,
        assertNotPaused_ok] at succeeded
      obtain ⟨_, _, ⟨_, rfl⟩, removed⟩ := succeeded
      exact removeMerchant_applied removed
  | setSettlementRule merchant rule =>
      simp only [dispatch, Timelocked.setSettlementRule, Tx.bind_ok,
        assertNotPaused_ok] at succeeded
      obtain ⟨_, _, ⟨_, rfl⟩, _, _, capped, _, _, looked, _, _, checked,
        stored⟩ := succeeded
      obtain rfl := validateFeeAgainstGovernance_ok capped
      obtain ⟨registered, live, rfl⟩ := assertMerchantRegistered_ok looked
      obtain ⟨bounded, rfl⟩ := validateRuleBoundsTrapping_ok checked
      exact storeRule_applied registered bounded stored
  | clearSettlementRule merchant =>
      exact Timelocked.clearSettlementRule_applied succeeded
  | setDefaultRule rule =>
      simp only [dispatch, Timelocked.setDefaultRule, Tx.bind_ok,
        assertNotPaused_ok] at succeeded
      obtain ⟨_, _, ⟨_, rfl⟩, _, _, capped, _, _, checked, stored⟩ :=
        succeeded
      obtain rfl := validateFeeAgainstGovernance_ok capped
      obtain ⟨bounded, rfl⟩ := validateRuleBoundsTrapping_ok checked
      exact storeDefaultRule_applied bounded stored

end BettaPay.Settlement
