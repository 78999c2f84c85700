import BettaPay.Common.Types
import BettaPay.Host.Blind

namespace BettaPay.Common

open BettaPay.Host

variable {σ ε : Type}

/-! Both contracts carry their own copy of the admin checks, which differ in
the errors they raise. The loops are stated once over the list still to be
visited. -/

def checkAdmins (zero duplicate : ε) : List Address → Tx σ (Failure ε) Unit
  | [] => pure ()
  | admin :: rest => do
      rejectIf (isZeroAddress admin) zero
      rejectIf (admin ∈ rest) duplicate
      checkAdmins zero duplicate rest

def checkSigners (ledger : Ledger) (admins : List Address)
    (unauthorized : ε) : List Address → Tx σ (Failure ε) Unit
  | [] => pure ()
  | signer :: rest => do
      rejectIf (signer ∉ admins) unauthorized
      rejectIf (signer ∈ rest) unauthorized
      requireAuth ledger signer
      checkSigners ledger admins unauthorized rest

def requireAllAuth (ledger : Ledger) : List Address → Tx σ (Failure ε) Unit
  | [] => pure ()
  | address :: rest => do
      requireAuth ledger address
      requireAllAuth ledger rest

@[simp] theorem checkAdmins_ok {zero duplicate : ε} {admins : List Address}
    {before after : σ} {result : Unit} :
    (checkAdmins zero duplicate admins : Tx σ (Failure ε) Unit) before =
        .ok (result, after) ↔
      (zeroAddress ∉ admins ∧ admins.Nodup) ∧ before = after := by
  induction admins with
  | nil => simp [checkAdmins]
  | cons admin rest induction =>
      simp only [checkAdmins, Tx.bind_ok, rejectIf_ok, isZeroAddress_eq_true,
        List.mem_cons, List.nodup_cons, not_or]
      constructor
      · intro given
        obtain ⟨_, _, ⟨nonzero, rfl⟩, _, _, ⟨fresh, rfl⟩, checked⟩ := given
        obtain ⟨⟨absent, distinct⟩, same⟩ := induction.mp checked
        exact ⟨⟨⟨fun zero => nonzero zero.symm, absent⟩, fresh, distinct⟩,
          same⟩
      · intro given
        obtain ⟨⟨⟨nonzero, absent⟩, fresh, distinct⟩, rfl⟩ := given
        exact ⟨(), _, ⟨fun zero => nonzero zero.symm, rfl⟩, (), _,
          ⟨fresh, rfl⟩, induction.mpr ⟨⟨absent, distinct⟩, rfl⟩⟩

/-- The signers are distinct members of the admin set and each of them
authorized the call. -/
structure Authorizing (ledger : Ledger) (admins signers : List Address) :
    Prop where
  members : ∀ signer, signer ∈ signers → signer ∈ admins
  distinct : signers.Nodup
  authorized : ∀ signer, signer ∈ signers → ledger.auths signer = true

@[simp] theorem checkSigners_ok {ledger : Ledger}
    {admins signers : List Address} {unauthorized : ε}
    {before after : σ} {result : Unit} :
    (checkSigners ledger admins unauthorized signers :
        Tx σ (Failure ε) Unit) before = .ok (result, after) ↔
      Authorizing ledger admins signers ∧ before = after := by
  induction signers with
  | nil =>
      simp only [checkSigners, Tx.pure_ok, true_and]
      constructor
      · intro same
        exact ⟨⟨by simp, by simp, by simp⟩, same⟩
      · exact And.right
  | cons signer rest induction =>
      simp only [checkSigners, Tx.bind_ok, rejectIf_ok, requireAuth_ok,
        Decidable.not_not]
      constructor
      · intro given
        obtain ⟨_, _, ⟨member, rfl⟩, _, _, ⟨fresh, rfl⟩, _, _, ⟨authorized,
          rfl⟩, checked⟩ := given
        obtain ⟨tail, same⟩ := induction.mp checked
        refine ⟨⟨?_, ?_, ?_⟩, same⟩
        · simpa [member] using tail.members
        · simpa [fresh] using tail.distinct
        · simpa [authorized] using tail.authorized
      · intro given
        obtain ⟨⟨members, distinct, authorized⟩, rfl⟩ := given
        simp only [List.nodup_cons] at distinct
        have tail : Authorizing ledger admins rest :=
          ⟨fun other member => members other (by simp [member]), distinct.2,
            fun other member => authorized other (by simp [member])⟩
        exact ⟨(), _, ⟨members signer (by simp), rfl⟩, (), _,
          ⟨distinct.1, rfl⟩, (), _, ⟨authorized signer (by simp), rfl⟩,
          induction.mpr ⟨tail, rfl⟩⟩

@[simp] theorem requireAllAuth_ok {ledger : Ledger}
    {addresses : List Address} {before after : σ} {result : Unit} :
    (requireAllAuth ledger addresses : Tx σ (Failure ε) Unit) before =
        .ok (result, after) ↔
      (∀ address, address ∈ addresses → ledger.auths address = true) ∧
        before = after := by
  induction addresses with
  | nil => simp [requireAllAuth]
  | cons address rest induction =>
      simp only [requireAllAuth, Tx.bind_ok, requireAuth_ok, List.mem_cons,
        forall_eq_or_imp]
      constructor
      · intro given
        obtain ⟨_, _, ⟨authorized, rfl⟩, others⟩ := given
        obtain ⟨tail, same⟩ := induction.mp others
        exact ⟨⟨authorized, tail⟩, same⟩
      · intro given
        obtain ⟨⟨authorized, tail⟩, rfl⟩ := given
        exact ⟨(), _, ⟨authorized, rfl⟩, induction.mpr ⟨tail, rfl⟩⟩

/-- A usable multisig configuration. -/
structure ValidAdmins (admins : List Address) (threshold : UInt32) :
    Prop where
  nonzero : zeroAddress ∉ admins
  distinct : admins.Nodup
  positive : 1 ≤ threshold.toNat
  attainable : threshold.toNat ≤ admins.length

theorem ValidAdmins.nonempty {admins : List Address} {threshold : UInt32}
    (valid : ValidAdmins admins threshold) : admins ≠ [] := by
  have positive := valid.positive
  have attainable := valid.attainable
  intro empty
  simp only [empty, List.length_nil] at attainable
  omega

theorem validAdmins_singleton {admin : Address}
    (nonzero : admin ≠ zeroAddress) : ValidAdmins [admin] 1 :=
  ⟨by simpa using nonzero.symm, by simp, by decide, by simp⟩

/-! No admin check ends in a failed `unwrap`. -/

variable {state : σ}

@[simp] theorem avoids_checkAdmins {zero duplicate : ε}
    {admins : List Address} :
    Tx.Avoids .unwrapNone
      (checkAdmins zero duplicate admins : Tx σ (Failure ε) Unit) state := by
  induction admins generalizing state with
  | nil => simp [checkAdmins]
  | cons admin rest induction => simp [checkAdmins, induction]

@[simp] theorem avoids_checkSigners {ledger : Ledger}
    {admins signers : List Address} {unauthorized : ε} :
    Tx.Avoids .unwrapNone
      (checkSigners ledger admins unauthorized signers :
        Tx σ (Failure ε) Unit) state := by
  induction signers generalizing state with
  | nil => simp [checkSigners]
  | cons signer rest induction => simp [checkSigners, induction]

@[simp] theorem avoids_requireAllAuth {ledger : Ledger}
    {addresses : List Address} :
    Tx.Avoids .unwrapNone
      (requireAllAuth ledger addresses : Tx σ (Failure ε) Unit) state := by
  induction addresses generalizing state with
  | nil => simp [requireAllAuth]
  | cons address rest induction => simp [requireAllAuth, induction]

/-! The Wasm probe and the migration loop, also common to both contracts. -/

def probeSupportsInterface (ledger : Ledger) (newWasmHash : BytesN 32)
    (version : UInt32) : Tx σ (Failure ε) Bool :=
  match ledger.probe newWasmHash version with
  | none => Tx.panic .host
  | some (.value (.bool supports)) => pure supports
  | some _ => pure false

theorem probeSupportsInterface_ok {ledger : Ledger}
    {newWasmHash : BytesN 32} {version : UInt32} {before after : σ}
    {supported : Bool}
    (succeeded : (probeSupportsInterface ledger newWasmHash version :
      Tx σ (Failure ε) Bool) before = .ok (supported, after)) :
    after = before := by
  unfold probeSupportsInterface at succeeded
  cases answer : ledger.probe newWasmHash version with
  | none => simp [answer] at succeeded
  | some reply =>
      rcases reply with value | code | _
      · cases value <;> simp only [answer, Tx.pure_ok] at succeeded <;>
          exact succeeded.2.symm
      · simp only [answer, Tx.pure_ok] at succeeded
        exact succeeded.2.symm
      · simp only [answer, Tx.pure_ok] at succeeded
        exact succeeded.2.symm

/-- `remaining` rounds of the loop that runs `migrateStep` and advances the
stored version past it. -/
def migrateRounds (migrateStep setVersion : UInt32 → Tx σ (Failure ε) Unit) :
    Nat → UInt32 → Tx σ (Failure ε) Unit
  | 0, _ => pure ()
  | remaining + 1, version => do
      migrateStep version
      setVersion (version + 1)
      migrateRounds migrateStep setVersion remaining (version + 1)

@[simp] theorem avoids_probeSupportsInterface {ledger : Ledger}
    {newWasmHash : BytesN 32} {version : UInt32} :
    Tx.Avoids .unwrapNone
      (probeSupportsInterface ledger newWasmHash version :
        Tx σ (Failure ε) Bool) state := by
  unfold probeSupportsInterface
  split <;> simp

theorem avoids_migrateRounds
    {migrateStep setVersion : UInt32 → Tx σ (Failure ε) Unit}
    (stepAvoids : ∀ version state,
      Tx.Avoids .unwrapNone (migrateStep version) state)
    (setAvoids : ∀ version state,
      Tx.Avoids .unwrapNone (setVersion version) state)
    {remaining : Nat} {version : UInt32} :
    Tx.Avoids .unwrapNone
      (migrateRounds migrateStep setVersion remaining version) state := by
  induction remaining generalizing version state with
  | zero => simp [migrateRounds]
  | succ remaining induction =>
      simp [migrateRounds, stepAvoids, setAvoids, induction]

/-! None of these loops reads the state. -/

section Blind

variable {κ : Type} {blur : κ → σ → σ} {ledger : Ledger}

instance blind_checkAdmins {zero duplicate : ε} {admins : List Address} :
    Tx.Blind blur
      (checkAdmins zero duplicate admins : Tx σ (Failure ε) Unit) := by
  induction admins with
  | nil => exact Tx.Blind.pure
  | cons admin rest induction =>
      unfold checkAdmins
      infer_instance

instance blind_checkSigners {admins signers : List Address}
    {unauthorized : ε} :
    Tx.Blind blur (checkSigners ledger admins unauthorized signers :
      Tx σ (Failure ε) Unit) := by
  induction signers with
  | nil => exact Tx.Blind.pure
  | cons signer rest induction =>
      unfold checkSigners
      infer_instance

instance blind_requireAllAuth {addresses : List Address} :
    Tx.Blind blur
      (requireAllAuth ledger addresses : Tx σ (Failure ε) Unit) := by
  induction addresses with
  | nil => exact Tx.Blind.pure
  | cons address rest induction =>
      unfold requireAllAuth
      infer_instance

instance blind_probeSupportsInterface {newWasmHash : BytesN 32}
    {version : UInt32} :
    Tx.Blind blur (probeSupportsInterface ledger newWasmHash version :
      Tx σ (Failure ε) Bool) := by
  unfold probeSupportsInterface
  split <;> infer_instance

instance blind_migrateRounds
    {migrateStep setVersion : UInt32 → Tx σ (Failure ε) Unit}
    [blindStep : ∀ version, Tx.Blind blur (migrateStep version)]
    [blindSet : ∀ version, Tx.Blind blur (setVersion version)]
    {remaining : Nat} {version : UInt32} :
    Tx.Blind blur
      (migrateRounds migrateStep setVersion remaining version) := by
  induction remaining generalizing version with
  | zero => exact Tx.Blind.pure
  | succ remaining induction =>
      unfold migrateRounds
      infer_instance

end Blind

end BettaPay.Common
