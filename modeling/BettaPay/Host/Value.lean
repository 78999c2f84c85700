import BettaPay.Host.Run
import BettaPay.Host.Word

namespace BettaPay.Host

abbrev I128 := SInt 128

abbrev Bytes := List UInt8

abbrev BytesN (length : Nat) := BitVec (8 * length)

abbrev Symbol := String

/-- An account key or a contract identifier. -/
inductive Address where
  | account (key : BytesN 32)
  | contract (id : BytesN 32)
  deriving DecidableEq, Repr

/-- Values that cross a contract boundary. -/
inductive Val where
  | void
  | bool (value : Bool)
  | u32 (value : UInt32)
  | i32 (value : SInt 32)
  | u64 (value : UInt64)
  | i64 (value : SInt 64)
  | u128 (value : BitVec 128)
  | i128 (value : I128)
  | u256 (value : BitVec 256)
  | i256 (value : SInt 256)
  | timepoint (value : UInt64)
  | duration (value : UInt64)
  | bytes (value : Bytes)
  | string (value : Bytes)
  | symbol (value : Symbol)
  | address (value : Address)
  | error (code : UInt32)
  | vec (items : List Val)
  | map (entries : List (Val × Val))

/-- What a cross-contract call hands back to a caller that tolerates its
failure: a value, an error raised by the callee, or a trap. -/
inductive Answer where
  | value (result : Val)
  | error (code : UInt32)
  | trap

/-- Why a call is rolled back: an error of the contract, a missing
authorization, or a trap of the host. -/
inductive Failure (ε : Type) where
  | error (error : ε)
  | auth (address : Address)
  | overflow
  | unwrapNone
  | host
  deriving DecidableEq, Repr

/-- What the host supplies to one call. A deployment of `hash` traps when
`probe hash` is absent; otherwise the deployed instance answers a query for
the given interface version. Whether `extend_ttl` acts on an entry whose
remaining lifetime is the threshold itself is left open. -/
structure Ledger where
  timestamp : UInt64
  sequence : UInt32
  freshTtl : UInt32
  renewsAtThreshold : Bool
  auths : Address → Bool
  probe : BytesN 32 → UInt32 → Option Answer

/-- A ledger on which every address authorizes the call. -/
def Ledger.granting (timestamp : UInt64) : Ledger where
  timestamp := timestamp
  sequence := 1
  freshTtl := 1
  renewsAtThreshold := false
  auths := fun _ => true
  probe := fun _ _ => none

/-- An entry with so many ledgers left is renewed. -/
def Ledger.Renews (ledger : Ledger) (threshold : UInt32) (left : Nat) :
    Prop :=
  left < threshold.toNat ∨
    ledger.renewsAtThreshold = true ∧ left = threshold.toNat

instance (ledger : Ledger) (threshold : UInt32) (left : Nat) :
    Decidable (ledger.Renews threshold left) :=
  inferInstanceAs (Decidable (_ ∨ _))

/-- The last ledger of an entry after `extend_ttl`, given the last one
before. -/
def Ledger.extendTtl (ledger : Ledger) (threshold bump : UInt32)
    (liveUntil : Nat) : Nat :=
  if ledger.Renews threshold (liveUntil - ledger.sequence.toNat) then
    ledger.sequence.toNat + bump.toNat
  else liveUntil

theorem Ledger.extendTtl_below {ledger : Ledger} {threshold bump : UInt32}
    {liveUntil : Nat}
    (short : liveUntil - ledger.sequence.toNat < threshold.toNat) :
    ledger.extendTtl threshold bump liveUntil =
      ledger.sequence.toNat + bump.toNat :=
  if_pos (.inl short)

theorem Ledger.extendTtl_above {ledger : Ledger} {threshold bump : UInt32}
    {liveUntil : Nat}
    (long : threshold.toNat < liveUntil - ledger.sequence.toNat) :
    ledger.extendTtl threshold bump liveUntil = liveUntil := by
  apply if_neg
  rintro (short | ⟨_, exact⟩)
  · exact Nat.lt_asymm short long
  · exact Nat.ne_of_gt long exact

section Primitives

variable {σ ε α : Type}

def requireAuth (ledger : Ledger) (address : Address) :
    Tx σ (Failure ε) Unit :=
  Tx.panicIf (ledger.auths address = false) (.auth address)

def reject (error : ε) : Tx σ (Failure ε) α := Tx.panic (.error error)

def rejectIf (condition : Prop) [Decidable condition] (error : ε) :
    Tx σ (Failure ε) Unit :=
  Tx.panicIf condition (.error error)

def orReject (value : Option α) (error : ε) : Tx σ (Failure ε) α :=
  Tx.expect value (.error error)

/-- Arithmetic compiled with overflow checks. -/
def orTrap (value : Option α) : Tx σ (Failure ε) α :=
  Tx.expect value .overflow

def orRaise (result : Except ε α) : Tx σ (Failure ε) α :=
  match result with
  | .ok value => pure value
  | .error error => reject error

/-- `items.get(0).unwrap()`. -/
def unwrapFirst (items : List α) : Tx σ (Failure ε) α :=
  Tx.expect items.head? .unwrapNone

@[simp] theorem requireAuth_ok {ledger : Ledger} {address : Address}
    {before after : σ} {result : Unit} :
    (requireAuth ledger address : Tx σ (Failure ε) Unit) before =
        .ok (result, after) ↔
      ledger.auths address = true ∧ before = after := by
  simp [requireAuth]

@[simp] theorem requireAuth_error {ledger : Ledger} {address : Address}
    {before : σ} {failure : Failure ε} :
    (requireAuth ledger address : Tx σ (Failure ε) Unit) before =
        .error failure ↔
      ledger.auths address = false ∧ .auth address = failure := by
  simp [requireAuth]

@[simp] theorem reject_ok {error : ε} {before : σ} {outcome : α × σ} :
    (reject error : Tx σ (Failure ε) α) before = .ok outcome ↔ False := by
  simp [reject]

@[simp] theorem reject_error {error : ε} {before : σ}
    {failure : Failure ε} :
    (reject error : Tx σ (Failure ε) α) before = .error failure ↔
      .error error = failure := by
  simp [reject]

@[simp] theorem rejectIf_ok {condition : Prop} [Decidable condition]
    {error : ε} {before after : σ} {result : Unit} :
    (rejectIf condition error : Tx σ (Failure ε) Unit) before =
        .ok (result, after) ↔
      ¬ condition ∧ before = after := by
  simp [rejectIf]

theorem rejectIf_bind {condition : Prop} [Decidable condition] {error : ε}
    {next : Unit → Tx σ (Failure ε) α} {state : σ}
    (passes : ¬ condition) :
    (rejectIf condition error >>= next) state = next () state :=
  Tx.bind_of_ok (rejectIf_ok.mpr ⟨passes, rfl⟩)

@[simp] theorem rejectIf_error {condition : Prop} [Decidable condition]
    {error : ε} {before : σ} {failure : Failure ε} :
    (rejectIf condition error : Tx σ (Failure ε) Unit) before =
        .error failure ↔
      condition ∧ .error error = failure := by
  simp [rejectIf]

@[simp] theorem orReject_ok {value : Option α} {error : ε}
    {before after : σ} {result : α} :
    (orReject value error : Tx σ (Failure ε) α) before =
        .ok (result, after) ↔
      value = some result ∧ before = after := by
  simp [orReject]

@[simp] theorem orReject_error {value : Option α} {error : ε} {before : σ}
    {failure : Failure ε} :
    (orReject value error : Tx σ (Failure ε) α) before = .error failure ↔
      value = none ∧ .error error = failure := by
  simp [orReject]

@[simp] theorem orTrap_ok {value : Option α} {before after : σ}
    {result : α} :
    (orTrap value : Tx σ (Failure ε) α) before = .ok (result, after) ↔
      value = some result ∧ before = after := by
  simp [orTrap]

@[simp] theorem orTrap_error {value : Option α} {before : σ}
    {failure : Failure ε} :
    (orTrap value : Tx σ (Failure ε) α) before = .error failure ↔
      value = none ∧ .overflow = failure := by
  simp [orTrap]

@[simp] theorem orRaise_ok {attempt : Except ε α} {before after : σ}
    {result : α} :
    (orRaise attempt : Tx σ (Failure ε) α) before = .ok (result, after) ↔
      attempt = .ok result ∧ before = after := by
  cases attempt <;> simp [orRaise]

@[simp] theorem orRaise_error {attempt : Except ε α} {before : σ}
    {failure : Failure ε} :
    (orRaise attempt : Tx σ (Failure ε) α) before = .error failure ↔
      ∃ error, attempt = .error error ∧ .error error = failure := by
  cases attempt <;> simp [orRaise]

@[simp] theorem unwrapFirst_ok {items : List α} {before after : σ}
    {result : α} :
    (unwrapFirst items : Tx σ (Failure ε) α) before = .ok (result, after) ↔
      items.head? = some result ∧ before = after := by
  simp [unwrapFirst]

@[simp] theorem unwrapFirst_error {items : List α} {before : σ}
    {failure : Failure ε} :
    (unwrapFirst items : Tx σ (Failure ε) α) before = .error failure ↔
      items = [] ∧ .unwrapNone = failure := by
  simp [unwrapFirst]

/-! Only `unwrapFirst` can fail to unwrap. -/

variable {state : σ}

@[simp] theorem avoids_requireAuth {ledger : Ledger} {address : Address} :
    Tx.Avoids .unwrapNone
      (requireAuth ledger address : Tx σ (Failure ε) Unit) state := by
  simp [requireAuth]

@[simp] theorem avoids_reject {error : ε} :
    Tx.Avoids .unwrapNone (reject error : Tx σ (Failure ε) α) state := by
  simp [reject]

@[simp] theorem avoids_rejectIf {condition : Prop} [Decidable condition]
    {error : ε} :
    Tx.Avoids .unwrapNone
      (rejectIf condition error : Tx σ (Failure ε) Unit) state := by
  simp [rejectIf]

@[simp] theorem avoids_orReject {value : Option α} {error : ε} :
    Tx.Avoids .unwrapNone (orReject value error : Tx σ (Failure ε) α)
      state := by
  simp [orReject]

@[simp] theorem avoids_orTrap {value : Option α} :
    Tx.Avoids .unwrapNone (orTrap value : Tx σ (Failure ε) α) state := by
  simp [orTrap]

@[simp] theorem avoids_orRaise {attempt : Except ε α} :
    Tx.Avoids .unwrapNone (orRaise attempt : Tx σ (Failure ε) α) state := by
  cases attempt <;> simp [orRaise]

@[simp] theorem avoids_unwrapFirst {items : List α} :
    Tx.Avoids .unwrapNone (unwrapFirst items : Tx σ (Failure ε) α) state ↔
      items ≠ [] := by
  simp [unwrapFirst]

end Primitives

end BettaPay.Host
