import BettaPay.Settlement.Types
import BettaPay.Host.Xdr

namespace BettaPay.Settlement

open BettaPay.Host
open BettaPay.Common

/-! The serialization of operations: a vector of the variant's name and its
fields. -/

/-- A structure is a map from its field names, in order, to their values. -/
def ruleXdr (rule : SettlementRule) : Bytes :=
  Xdr.map 4 ++
    (Xdr.symbol "auto_settle" ++ (Xdr.bool rule.autoSettle ++
    (Xdr.symbol "network_fee_bps" ++ (Xdr.u32 rule.networkFeeBps ++
    (Xdr.symbol "platform_fee_bps" ++ (Xdr.u32 rule.platformFeeBps ++
    (Xdr.symbol "settlement_delay_ledger" ++
      Xdr.u32 rule.settlementDelayLedger)))))))

def Operation.name : Operation → Symbol
  | .updateGovernance _ => "UpdateGovernance"
  | .cancelRecovery => "CancelRecovery"
  | .transferAdmin _ _ => "TransferAdmin"
  | .upgrade _ => "Upgrade"
  | .registerMerchant _ => "RegisterMerchant"
  | .unregisterMerchant _ => "UnregisterMerchant"
  | .setSettlementRule _ _ => "SetSettlementRule"
  | .clearSettlementRule _ => "ClearSettlementRule"
  | .setDefaultRule _ => "SetDefaultRule"

/-- The number of fields. -/
def Operation.arity : Operation → Nat
  | .cancelRecovery => 0
  | .transferAdmin _ _ => 2
  | .setSettlementRule _ _ => 2
  | _ => 1

def Operation.fields : Operation → Bytes
  | .updateGovernance newGovernance => Xdr.address newGovernance
  | .cancelRecovery => []
  | .transferAdmin newAdmins newThreshold =>
      Xdr.vec newAdmins.length ++
        (newAdmins.flatMap Xdr.address ++ Xdr.u32 newThreshold)
  | .upgrade wasmHash => Xdr.bytesN wasmHash
  | .registerMerchant merchant => Xdr.address merchant
  | .unregisterMerchant merchant => Xdr.address merchant
  | .setSettlementRule merchant rule => Xdr.address merchant ++ ruleXdr rule
  | .clearSettlementRule merchant => Xdr.address merchant
  | .setDefaultRule rule => ruleXdr rule

def Operation.toXdr (operation : Operation) : Bytes :=
  Xdr.vec (operation.arity + 1) ++
    (Xdr.symbol operation.name ++ operation.fields)

theorem ruleXdr_injective : Function.Injective ruleXdr := by
  intro left right same
  have settle := Xdr.bool_delimited.split
    (List.append_cancel_left (List.append_cancel_left same))
  have network := Xdr.u32_delimited.split
    (List.append_cancel_left settle.2)
  have platform := Xdr.u32_delimited.split
    (List.append_cancel_left network.2)
  have delay := Xdr.u32_delimited.injective
    (List.append_cancel_left platform.2)
  cases left
  cases right
  cases settle.1
  cases network.1
  cases platform.1
  cases delay
  rfl

theorem Operation.name_short (operation : Operation) :
    (Xdr.ascii operation.name).length < 2 ^ 32 := by
  cases operation <;> simp only [Operation.name] <;> decide

theorem Operation.fields_injective {left right : Operation}
    (names : Xdr.ascii left.name = Xdr.ascii right.name)
    (same : left.fields = right.fields) : left = right := by
  cases left <;> cases right <;> simp only [Operation.name] at names <;>
    first
      | exact absurd names (by decide)
      | skip
  case updateGovernance => rw [Xdr.address_delimited.injective same]
  case cancelRecovery => rfl
  case transferAdmin admins threshold admins' threshold' =>
    obtain ⟨_, tails⟩ := List.append_inj same (by simp [Xdr.vec])
    obtain ⟨rfl, rfl⟩ := Xdr.addresses_before_u32_injective tails
    rfl
  case upgrade => rw [Xdr.bytesN_delimited.injective same]
  case registerMerchant => rw [Xdr.address_delimited.injective same]
  case unregisterMerchant => rw [Xdr.address_delimited.injective same]
  case setSettlementRule =>
    obtain ⟨rfl, tails⟩ := Xdr.address_delimited.split same
    rw [ruleXdr_injective tails]
  case clearSettlementRule => rw [Xdr.address_delimited.injective same]
  case setDefaultRule => rw [ruleXdr_injective same]

theorem Operation.toXdr_injective : Function.Injective Operation.toXdr := by
  intro left right same
  obtain ⟨_, tails⟩ := List.append_inj same (by simp [Xdr.vec])
  simp only [Xdr.symbol, List.append_assoc] at tails
  obtain ⟨names, fields⟩ := Xdr.padded_injective left.name_short
    right.name_short (List.append_cancel_left tails)
  exact Operation.fields_injective names fields

def sampleOperation : Operation := .updateGovernance (.contract 7)

/-- The host's serialization under a hash that gives everything the digest of
`sampleOperation`. -/
def sampleCodec : Codec where
  toXdr := Operation.toXdr
  sha256 := fun _ =>
    0x0d1a125486869660a345aa688f0a3ca34d4748ff9126b867a8c3319e2f6fd72c

end BettaPay.Settlement
