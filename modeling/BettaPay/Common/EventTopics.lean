import BettaPay.Common.Types
import BettaPay.Host.Fields

namespace BettaPay.Common

open BettaPay.Host

/-! The registry of event names, and the payloads that both contracts use. -/

/-! Shared: emitted by both contracts. -/

def adminTransferredEvent : Symbol := "admin_transferred"
def pausedEvent : Symbol := "paused"
def unpausedEvent : Symbol := "unpaused"
def recoveryInitiatedEvent : Symbol := "recovery_initiated"
def recoveryCancelledEvent : Symbol := "recovery_cancelled"
def recoveryExecutedEvent : Symbol := "recovery_executed"
def contractUpgradedEvent : Symbol := "contract_upgraded"
def thresholdChangedEvent : Symbol := "threshold_changed"
def recoveryAddressUpdatedEvent : Symbol := "recovery_address_updated"

/-! The governance contract only. -/

def initializedEvent : Symbol := "initialized"
def migratedEvent : Symbol := "migrated"
def sysParamUpdatedEvent : Symbol := "sys_param_updated"
def feeConfigUpdatedEvent : Symbol := "fee_config_updated"
def anchorUpsertedEvent : Symbol := "anchor_upserted"
def anchorRemovedEvent : Symbol := "anchor_removed"

/-! The settlement contract only. -/

def governanceUpdatedEvent : Symbol := "governance_updated"
def merchantRegisteredEvent : Symbol := "merchant_registered"
def merchantConsentEvent : Symbol := "merchant_consent"
def merchantUnregisteredEvent : Symbol := "merchant_unregistered"
def settlementRuleUpdatedEvent : Symbol := "settlement_rule_updated"
def settlementRuleClearedEvent : Symbol := "settlement_rule_cleared"
def defaultRuleUpdatedEvent : Symbol := "default_rule_updated"
def bootstrapFallbackEvent : Symbol := "bootstrap_fallback"
def paymentStoredEvent : Symbol := "payment_stored"
def paymentsPrunedEvent : Symbol := "payments_pruned"
def paymentPrunedEvent : Symbol := "payment_pruned"
def opScheduledEvent : Symbol := "op_scheduled"
def opExecutedEvent : Symbol := "op_executed"
def opCancelledEvent : Symbol := "op_cancelled"
def feeCeilingRejectedEvent : Symbol := "fee_ceiling_rejected"

def sharedTopics : List Symbol :=
  [adminTransferredEvent, pausedEvent, unpausedEvent, recoveryInitiatedEvent,
    recoveryCancelledEvent, recoveryExecutedEvent, contractUpgradedEvent,
    thresholdChangedEvent, recoveryAddressUpdatedEvent]

def governanceTopics : List Symbol :=
  [initializedEvent, migratedEvent, sysParamUpdatedEvent,
    feeConfigUpdatedEvent, anchorUpsertedEvent, anchorRemovedEvent]

def settlementTopics : List Symbol :=
  [governanceUpdatedEvent, merchantRegisteredEvent, merchantConsentEvent,
    merchantUnregisteredEvent, settlementRuleUpdatedEvent,
    settlementRuleClearedEvent, defaultRuleUpdatedEvent,
    bootstrapFallbackEvent, paymentStoredEvent, paymentsPrunedEvent,
    paymentPrunedEvent, opScheduledEvent, opExecutedEvent, opCancelledEvent,
    feeCeilingRejectedEvent]

def allEventTopics : List Symbol :=
  sharedTopics ++ governanceTopics ++ settlementTopics

theorem allEventTopics_nodup : allEventTopics.Nodup := by decide

theorem allEventTopics_short :
    ∀ name ∈ allEventTopics, name.length ≤ 32 := by
  decide

theorem allEventTopics_letters : (allEventTopics.all fun name =>
    name.toList.all fun letter =>
      letter.isAlphanum || letter == '_') = true := by
  decide

theorem allEventTopics_plain : ∀ name ∈ allEventTopics,
    ∀ letter ∈ name.toList, letter.isAlphanum ∨ letter = '_' := by
  have letters := allEventTopics_letters
  simp only [List.all_eq_true, Bool.or_eq_true, beq_iff_eq] at letters
  exact letters

/-! Payloads. -/

def SettlementRule.toVal (rule : SettlementRule) : Val :=
  .struct
    [("auto_settle", .bool rule.autoSettle),
      ("network_fee_bps", .u32 rule.networkFeeBps),
      ("platform_fee_bps", .u32 rule.platformFeeBps),
      ("settlement_delay_ledger", .u32 rule.settlementDelayLedger)]

def SettlementRule.ofVal (value : Val) : Option SettlementRule :=
  match value.field "auto_settle", value.field "network_fee_bps",
    value.field "platform_fee_bps",
    value.field "settlement_delay_ledger" with
  | some (.bool autoSettle), some (.u32 networkFeeBps),
      some (.u32 platformFeeBps), some (.u32 settlementDelayLedger) =>
      some ⟨platformFeeBps, networkFeeBps, settlementDelayLedger, autoSettle⟩
  | _, _, _, _ => none

@[simp] theorem SettlementRule.ofVal_toVal (rule : SettlementRule) :
    SettlementRule.ofVal rule.toVal = some rule := by
  simp [SettlementRule.ofVal, SettlementRule.toVal]

def AdminTransferred.toVal (payload : AdminTransferred) : Val :=
  .struct
    [("new_admins", .ofAddresses payload.newAdmins),
      ("old_admins", .ofAddresses payload.oldAdmins)]

def AdminTransferred.ofVal (value : Val) : Option AdminTransferred := do
  let newAdmins ← (← value.field "new_admins").asAddresses
  let oldAdmins ← (← value.field "old_admins").asAddresses
  pure ⟨oldAdmins, newAdmins⟩

@[simp] theorem AdminTransferred.ofVal_toVal (payload : AdminTransferred) :
    AdminTransferred.ofVal payload.toVal = some payload := by
  simp [AdminTransferred.ofVal, AdminTransferred.toVal]

end BettaPay.Common
