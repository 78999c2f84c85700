import BettaPay.Host.Value

namespace BettaPay.Common

open BettaPay.Host

/-! Protocol-wide constants. -/

def bpsDenominator : UInt32 := 10000

def minFeeBps : UInt32 := 5

def maxFeeBps : UInt32 := 5000

def ledgersPerDay : UInt32 := 17280

def recoveryDelaySeconds : UInt64 := 7 * 24 * 60 * 60

def pauseReasonNone : UInt32 := 0

def maxPauseReason : UInt32 := 99

/-! Types shared by the two contracts. -/

structure Bps where
  value : UInt32
  deriving DecidableEq, Repr

def Bps.asI128 (bps : Bps) : I128 :=
  ⟨bps.value.toNat, by omega, by
    have := bps.value.toNat_lt
    have : (2 : Int) ^ 32 ≤ 2 ^ (128 - 1) := by decide
    omega⟩

/-- `ceil(amount * bps / BPS_DENOMINATOR)`, absent when an intermediate value
leaves the 128-bit range. -/
def Bps.calculateFeeCeil (bps : Bps) (amount : I128) : Option I128 := do
  let denom := (Bps.mk bpsDenominator).asI128
  let product ← amount.checkedMul bps.asI128
  let numerator ← product.checkedAdd (Bps.mk (bpsDenominator - 1)).asI128
  numerator.checkedDiv denom

structure SettlementRule where
  platformFeeBps : UInt32
  networkFeeBps : UInt32
  settlementDelayLedger : UInt32
  autoSettle : Bool
  deriving DecidableEq, Repr

def SettlementRule.platformBps (rule : SettlementRule) : Bps :=
  ⟨rule.platformFeeBps⟩

def SettlementRule.networkBps (rule : SettlementRule) : Bps :=
  ⟨rule.networkFeeBps⟩

/-- Fee legs within the limits of the protocol, in basis points. -/
structure FeesInRange (platform network : UInt32) : Prop where
  platformAtLeast : 5 ≤ platform.toNat
  platformAtMost : platform.toNat ≤ 5000
  networkAtLeast : 5 ≤ network.toNat
  networkAtMost : network.toNat ≤ 5000
  total : platform.toNat + network.toNat ≤ 10000

/-- The limits on the single legs bound their sum. -/
theorem FeesInRange.of_legs {platform network : UInt32}
    (platformAtLeast : minFeeBps ≤ platform)
    (platformAtMost : platform ≤ maxFeeBps)
    (networkAtLeast : minFeeBps ≤ network)
    (networkAtMost : network ≤ maxFeeBps) :
    FeesInRange platform network := by
  have low : minFeeBps.toNat = 5 := rfl
  have high : maxFeeBps.toNat = 5000 := rfl
  rw [UInt32.le_iff_toNat_le] at platformAtLeast platformAtMost
  rw [UInt32.le_iff_toNat_le] at networkAtLeast networkAtMost
  constructor <;> omega

/-- The sum of the legs does not overflow. -/
theorem FeesInRange.sum_fits {platform network : UInt32}
    (inRange : FeesInRange platform network) :
    checkedAdd32 platform network = some (platform + network) := by
  have total := inRange.total
  exact if_pos (by omega)

structure AdminTransferred where
  oldAdmins : List Address
  newAdmins : List Address
  deriving DecidableEq, Repr

/-- A recovery between its initiation and its execution or cancellation. -/
structure PendingRecovery where
  newAdmin : Address
  executeAfter : UInt64
  initiatedBy : Address
  deriving DecidableEq, Repr

/-- The account whose key is all zeros, written `GAAA…AWHF` as a strkey. -/
def zeroAddress : Address := .account 0

def isZeroAddress (address : Address) : Bool := address = zeroAddress

@[simp] theorem isZeroAddress_eq_true {address : Address} :
    isZeroAddress address = true ↔ address = zeroAddress := by
  simp [isZeroAddress]

end BettaPay.Common
