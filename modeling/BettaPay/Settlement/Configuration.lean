import BettaPay.Common.Book
import BettaPay.Settlement.Published

namespace BettaPay.Settlement

open BettaPay.Host
open BettaPay.Common

/-! What an observer of the settlement log knows of the configuration. -/

/-- Who controls the contract, and how it prices payments. -/
structure Configuration extends ControlBook where
  governance : Address
  defaultRule : Option SettlementRule
  merchant : Address → Bool
  archived : Address → Bool
  rule : Address → Option SettlementRule

namespace Configuration

def control (config : Configuration) (notice : Notice) :
    Option Configuration :=
  (config.toControlBook.post notice).map fun next =>
    { config with toControlBook := next }

/-- The rule of a merchant, unless only governance can tell it. -/
def known (config : Configuration) (merchant : Address) :
    Option SettlementRule :=
  (config.rule merchant).or config.defaultRule

def post (config : Configuration) : Event → Option Configuration
  | .governanceUpdated _ newGovernance =>
      follow (config.paused = false ∧ newGovernance ≠ zeroAddress)
        { config with governance := newGovernance }
  | .recoveryInitiated recovery newAdmin executeAfter =>
      config.control (.recoveryInitiated recovery newAdmin executeAfter)
  | .recoveryCancelled _ => config.control .recoveryCancelled
  | .recoveryExecuted payload => config.control (.recoveryExecuted payload)
  | .recoveryAddressUpdated newRecovery _ =>
      config.control (.recoveryAddressUpdated newRecovery)
  | .adminTransferred payload => config.control (.adminTransferred payload)
  | .thresholdChanged _ current new =>
      config.control (.thresholdChanged current new)
  | .contractUpgraded wasmHash _ =>
      config.control (.contractUpgraded wasmHash)
  | .paused _ _ => config.control .paused
  | .unpaused _ => config.control .unpaused
  | .migrated _ version =>
      if version = currentSchemaVersion then config.control .migrated
      else none
  | .merchantConsent merchant =>
      follow (config.paused = false ∧ config.merchant merchant = false) config
  | .merchantRegistered merchant _ =>
      follow (config.paused = false ∧ config.merchant merchant = false ∧
          merchant ≠ zeroAddress ∧ merchant ∉ config.admins)
        { config with
          merchant := Function.update config.merchant merchant true
          archived := Function.update config.archived merchant false }
  | .merchantUnregistered merchant _ =>
      follow (config.paused = false ∧ config.merchant merchant = true ∧
          config.rule merchant = none)
        { config with
          merchant := Function.update config.merchant merchant false
          archived := Function.update config.archived merchant true }
  | .settlementRuleUpdated merchant _ prev rule =>
      follow (config.paused = false ∧ config.merchant merchant = true ∧
          (∀ known, known ∈ config.known merchant → known = prev) ∧
          minFeeBps ≤ rule.platformFeeBps ∧
          rule.platformFeeBps ≤ maxFeeBps ∧
          minFeeBps ≤ rule.networkFeeBps ∧
          rule.networkFeeBps ≤ maxFeeBps ∧
          rule.settlementDelayLedger ≤ maxSettlementDelayLedger)
        { config with
          rule := Function.update config.rule merchant (some rule) }
  | .settlementRuleCleared merchant _ removed fallback =>
      follow (config.paused = false ∧ config.rule merchant = some removed ∧
          ∀ known, known ∈ config.defaultRule → known = fallback)
        { config with rule := Function.update config.rule merchant none }
  | .defaultRuleUpdated _ prev rule =>
      follow (config.paused = false ∧
          prev = config.defaultRule.getD bootstrapDefaultRule ∧
          minFeeBps ≤ rule.platformFeeBps ∧
          rule.platformFeeBps ≤ maxFeeBps ∧
          minFeeBps ≤ rule.networkFeeBps ∧
          rule.networkFeeBps ≤ maxFeeBps ∧
          rule.settlementDelayLedger ≤ maxSettlementDelayLedger)
        { config with defaultRule := some rule }
  | _ => none

/-- What the log tells of the configuration is so in the state. -/
structure Tells (config : Configuration) (state : State) : Prop where
  control : config.toControlBook.Tells state.authority state.isPaused
    state.wasm
  governance : state.governance = some config.governance
  defaultRule : state.defaultRule = config.defaultRule
  merchant : state.merchant = config.merchant
  archived : state.archivedMerchant = config.archived
  rule : state.rule = config.rule

variable {config : Configuration} {before after : State}

theorem Tells.unpaused (tells : config.Tells before)
    (running : before.isPaused = false) : config.paused = false :=
  tells.control.paused.symm.trans running

/-- A notice moves the control of the contract and nothing else. -/
theorem Tells.notice {notice : Notice} (tells : config.Tells before)
    (posted : ∃ next, config.toControlBook.post notice = some next ∧
      next.Tells after.authority after.isPaused after.wasm)
    (governance : after.governance = before.governance)
    (defaultRule : after.defaultRule = before.defaultRule)
    (registry : after.registry = before.registry) :
    ∃ next, config.control notice = some next ∧ next.Tells after := by
  obtain ⟨next, accepted, control⟩ := posted
  have merchant : after.merchant = before.merchant :=
    congrArg Registry.merchant registry
  have archived : after.archivedMerchant = before.archivedMerchant :=
    congrArg Registry.archivedMerchant registry
  have rule : after.rule = before.rule := congrArg Registry.rule registry
  refine ⟨{ config with toControlBook := next }, ?_, control,
    governance.trans tells.governance, defaultRule.trans tells.defaultRule,
    merchant.trans tells.merchant, archived.trans tells.archived,
    rule.trans tells.rule⟩
  rw [Configuration.control, accepted]
  rfl

/-- Caches, lifetimes and events are not part of the configuration. -/
theorem Tells.soft (tells : config.Tells before)
    (cache : Option (Option SettlementRule)) (live : PersistentKey → Nat)
    (events : List Event) : config.Tells (before.soft cache live events) :=
  { tells with }

/-- Where the log tells the rule of a merchant, it is the effective one. -/
theorem Tells.known (tells : config.Tells before) (env : Env)
    (merchant : Address) {rule : SettlementRule}
    (told : rule ∈ config.known merchant) :
    rule = (before.effectiveRule env merchant).rule := by
  rw [Configuration.known, ← tells.rule, ← tells.defaultRule,
    Option.mem_def] at told
  cases stored : before.rule merchant with
  | some found =>
      rw [stored] at told
      cases told
      simp [State.effectiveRule, stored]
  | none =>
      rw [stored, Option.none_or] at told
      simp [State.effectiveRule, State.fallbackRule, stored, told]

end Configuration

/-! The operations, by either path. -/

section Operations

variable {config : Configuration} {env : Env} {actor named : Address}
  {before after : State}

/-- A rule that is taken away is reported with the rule behind it. -/
theorem clearance_posts {merchant : Address} (tells : config.Tells before)
    (running : before.isPaused = false) :
    replay Configuration.post config
        (clearanceEvents env before named merchant) =
      some { config with
        rule := Function.update config.rule merchant none } := by
  cases stored : before.rule merchant with
  | none =>
      have absent : config.rule merchant = none := by
        rw [← tells.rule, stored]
      have erased := erase_absent absent
      simp only [clearanceEvents, stored, Option.toList_none, List.map_nil,
        replay_nil, erased]
  | some removed =>
      have present : config.rule merchant = some removed := by
        rw [← tells.rule, stored]
      have fallback : ∀ known, known ∈ config.defaultRule →
          known = (before.fallbackRule env).rule := by
        intro known told
        rw [← tells.defaultRule, Option.mem_def] at told
        simp [State.fallbackRule, told]
      simp only [clearanceEvents, stored, Option.toList_some, List.map_cons,
        List.map_nil, replay_singleton]
      exact follow_eq_some.mpr ⟨⟨tells.unpaused running, present, fallback⟩,
        rfl⟩

/-- Whoever an operation is published on behalf of. -/
theorem Applied.posts {operation : Operation}
    (applied : Applied env before actor operation after)
    (running : before.isPaused = false ∨ operation.ignoresPause = true)
    (tells : config.Tells before) :
    ∃ next, replay Configuration.post config
        (operation.publishes env before named) = some next ∧
      next.Tells after := by
  have single : ∀ {event : Event},
      (∃ next, config.post event = some next ∧ next.Tells after) →
      ∃ next, replay Configuration.post config [event] = some next ∧
        next.Tells after := by
    intro event posted
    obtain ⟨next, accepted, told⟩ := posted
    exact ⟨next, (replay_singleton _ _).trans accepted, told⟩
  cases applied with
  | updateGovernance nonzero =>
      have unpaused := tells.unpaused (running.resolve_right Bool.false_ne_true)
      refine single ⟨_, follow_eq_some.mpr ⟨⟨unpaused, nonzero⟩, rfl⟩, ?_⟩
      exact { tells with control := tells.control, governance := rfl }
  | cancelRecovery stored =>
      exact single (tells.notice (tells.control.cancelled stored) rfl rfl rfl)
  | transferAdmin stored valid separate =>
      simp only [Operation.publishes, stored, Option.getD_some]
      exact single (tells.notice
        (tells.control.transferred stored valid) rfl rfl rfl)
  | upgrade =>
      exact single (tells.notice (tells.control.upgraded _) rfl rfl rfl)
  | registerMerchant nonzero stored separate fresh =>
      have unpaused := tells.unpaused (running.resolve_right Bool.false_ne_true)
      have listed := Option.some.inj (tells.control.admins.symm.trans stored)
      rw [tells.merchant] at fresh
      refine single ⟨_, follow_eq_some.mpr ⟨⟨unpaused, fresh, nonzero,
        by rw [listed]; exact separate⟩, rfl⟩, ?_⟩
      exact { tells with
        control := tells.control
        merchant := by rw [← tells.merchant]; rfl
        archived := by rw [← tells.archived]; rfl }
  | @unregisterMerchant merchant _ _ _ registered refreshed clearing =>
      have unpaused := tells.unpaused (running.resolve_right Bool.false_ne_true)
      rw [tells.merchant] at registered
      have cleared := @clearance_posts config env named _ merchant tells
        (running.resolve_right Bool.false_ne_true)
      have posted : replay Configuration.post config
          ((Operation.unregisterMerchant merchant).publishes env before
            named) =
          some { config with
            merchant := Function.update config.merchant merchant false
            archived := Function.update config.archived merchant true
            rule := Function.update config.rule merchant none } := by
        rw [Operation.publishes, replay_append, cleared, Option.bind_some,
          replay_singleton]
        exact follow_eq_some.mpr ⟨⟨unpaused, registered,
          Function.update_self ..⟩, rfl⟩
      refine ⟨_, posted, ?_⟩
      exact { tells with
        control := tells.control
        merchant := by rw [← tells.merchant]; rfl
        archived := by rw [← tells.archived]; rfl
        rule := by rw [← tells.rule]; rfl }
  | @setSettlementRule merchant rule prev _ _ refreshed registered bounded =>
      have unpaused := tells.unpaused (running.resolve_right Bool.false_ne_true)
      rw [tells.merchant] at registered
      refine single ⟨_, follow_eq_some.mpr ⟨⟨unpaused, registered,
        fun known told => tells.known env merchant told,
        bounded.platformAtLeast, bounded.platformAtMost,
        bounded.networkAtLeast, bounded.networkAtMost,
        bounded.delayAtMost⟩, rfl⟩, ?_⟩
      exact { tells with
        control := tells.control
        rule := by rw [← tells.rule]; rfl }
  | clearSettlementRule refreshed stored =>
      refine ⟨_, clearance_posts tells
        (running.resolve_right Bool.false_ne_true), ?_⟩
      exact { tells with
        control := tells.control
        rule := by rw [← tells.rule]; rfl }
  | setDefaultRule bounded =>
      have unpaused := tells.unpaused (running.resolve_right Bool.false_ne_true)
      refine single ⟨_, follow_eq_some.mpr ⟨⟨unpaused,
        by rw [tells.defaultRule], bounded.platformAtLeast,
        bounded.platformAtMost, bounded.networkAtLeast,
        bounded.networkAtMost, bounded.delayAtMost⟩, rfl⟩, ?_⟩
      exact { tells with control := tells.control, defaultRule := rfl }

end Operations

end BettaPay.Settlement
