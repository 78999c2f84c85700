import BettaPay.Common.SignerLoop
import BettaPay.Governance.Effect
import BettaPay.Settlement.StorageSpec
import Mathlib.Data.Finset.Card

/-! The two copies of `verify_admin_auth`, with their loops as written. -/

namespace BettaPay.Settlement

open BettaPay.Host
open BettaPay.Common

def verifyAdminAuthByIndex (env : Env) (signers : List Address)
    (requiredCount : UInt32) : Contract Unit := do
  let admins ← readAdmins
  rejectIf (signers.length < requiredCount.toNat) .unauthorized
  signerLoop env.toLedger admins signers .unauthorized

theorem verifyAdminAuthByIndex_eq (env : Env) :
    verifyAdminAuthByIndex env = verifyAdminAuth env := by
  funext signers requiredCount
  simp only [verifyAdminAuthByIndex, signerLoop_eq, verifyAdminAuth]

end BettaPay.Settlement

namespace BettaPay.Governance

open BettaPay.Host
open BettaPay.Common

def verifyAdminAuthByIndex (env : Ledger) (signers : List Address)
    (requiredCount : UInt32) : Contract Unit := do
  let admins ← readAdmins
  rejectIf (signers.length < requiredCount.toNat) .unauthorized
  signerLoop env admins signers .unauthorized

theorem verifyAdminAuthByIndex_eq (env : Ledger) :
    verifyAdminAuthByIndex env = verifyAdminAuth env := by
  funext signers requiredCount
  simp only [verifyAdminAuthByIndex, signerLoop_eq, verifyAdminAuth]

end BettaPay.Governance

namespace BettaPay.Protocol

open BettaPay.Host
open BettaPay.Common

/-- The multisig predicate. -/
structure Approved (ledger : Ledger) (admins signers : List Address)
    (requiredCount : UInt32) : Prop where
  enough : requiredCount.toNat ≤ signers.length
  members : ∀ signer ∈ signers, signer ∈ admins
  distinct : signers.Pairwise (· ≠ ·)
  authorized : ∀ signer ∈ signers, ledger.auths signer = true

section Approved

variable {ledger : Ledger} {admins admins' signers signers' : List Address}
  {requiredCount : UInt32}

theorem approved_iff :
    Approved ledger admins signers requiredCount ↔
      requiredCount.toNat ≤ signers.length ∧
        Authorizing ledger admins signers := by
  constructor
  · intro approved
    exact ⟨approved.enough, approved.members, approved.distinct,
      approved.authorized⟩
  · intro given
    exact ⟨given.1, given.2.members, given.2.distinct, given.2.authorized⟩

/-- As many admins as are required have authorized the call. -/
theorem Approved.quorum
    (approved : Approved ledger admins signers requiredCount) :
    ∃ approving : Finset Address, requiredCount.toNat ≤ approving.card ∧
      ∀ admin ∈ approving, admin ∈ admins ∧ ledger.auths admin = true := by
  refine ⟨signers.toFinset, ?_, ?_⟩
  · rw [List.toFinset_card_of_nodup approved.distinct]
    exact approved.enough
  · intro admin member
    have signed := List.mem_toFinset.mp member
    exact ⟨approved.members admin signed, approved.authorized admin signed⟩

theorem Approved.reorder
    (approved : Approved ledger admins signers requiredCount)
    (sameAdmins : admins.Perm admins') (sameSigners : signers.Perm signers') :
    Approved ledger admins' signers' requiredCount where
  enough := sameSigners.length_eq ▸ approved.enough
  members := fun signer signed => sameAdmins.mem_iff.mp
    (approved.members signer (sameSigners.mem_iff.mpr signed))
  distinct := sameSigners.nodup_iff.mp approved.distinct
  authorized := fun signer signed =>
    approved.authorized signer (sameSigners.mem_iff.mpr signed)

end Approved

/-- The check succeeds exactly for approved calls, and changes nothing; so
on success as many distinct admins as required authorized the call, and
neither order matters to whether it succeeds. -/
structure Decides {σ ε : Type} (ledger : Ledger)
    (storedAdmins : σ → Option (List Address))
    (verify : List Address → UInt32 → Tx σ (Failure ε) Unit) : Prop where
  exact : ∀ state admins, storedAdmins state = some admins →
    ∀ signers requiredCount after,
      verify signers requiredCount state = .ok ((), after) ↔
        Approved ledger admins signers requiredCount ∧ state = after
  quorum : ∀ state admins, storedAdmins state = some admins →
    ∀ signers requiredCount,
      (verify signers requiredCount state).isOk = true →
      ∃ approving : Finset Address, requiredCount.toNat ≤ approving.card ∧
        ∀ admin ∈ approving, admin ∈ admins ∧ ledger.auths admin = true
  unordered : ∀ state state' admins admins',
    storedAdmins state = some admins → storedAdmins state' = some admins' →
    admins.Perm admins' → ∀ signers signers' requiredCount,
      signers.Perm signers' →
      (verify signers requiredCount state).isOk =
        (verify signers' requiredCount state').isOk

theorem decides_of_exact {σ ε : Type} {ledger : Ledger}
    {storedAdmins : σ → Option (List Address)}
    {verify : List Address → UInt32 → Tx σ (Failure ε) Unit}
    (exact : ∀ state admins, storedAdmins state = some admins →
      ∀ signers requiredCount after,
        verify signers requiredCount state = .ok ((), after) ↔
          Approved ledger admins signers requiredCount ∧ state = after) :
    Decides ledger storedAdmins verify := by
  have accepts : ∀ {state admins}, storedAdmins state = some admins →
      ∀ {signers requiredCount},
        (verify signers requiredCount state).isOk = true ↔
          Approved ledger admins signers requiredCount := by
    intro state admins stored signers requiredCount
    rw [isOk_iff_exists]
    constructor
    · intro given
      obtain ⟨_, after, succeeded⟩ := given
      exact ((exact state admins stored _ _ after).mp succeeded).1
    · intro approved
      exact ⟨(), state, (exact state admins stored _ _ state).mpr
        ⟨approved, rfl⟩⟩
  refine ⟨exact, ?_, ?_⟩
  · intro state admins stored signers requiredCount succeeded
    exact ((accepts stored).mp succeeded).quorum
  · intro state state' admins admins' stored stored' sameAdmins signers
      signers' requiredCount sameSigners
    rw [Bool.eq_iff_iff, accepts stored, accepts stored']
    constructor
    · intro approved
      exact approved.reorder sameAdmins sameSigners
    · intro approved
      exact approved.reorder sameAdmins.symm sameSigners.symm

/-- Both copies decide the same multisig predicate, and are the checks that
the contracts are built on. -/
theorem verify_admin_auth_decides :
    (∀ env : Settlement.Env,
      Decides env.toLedger Settlement.State.admin
        (Settlement.verifyAdminAuthByIndex env) ∧
      Settlement.verifyAdminAuthByIndex env =
        Settlement.verifyAdminAuth env) ∧
    ∀ ledger : Ledger,
      Decides ledger Governance.State.admin
        (Governance.verifyAdminAuthByIndex ledger) ∧
      Governance.verifyAdminAuthByIndex ledger =
        Governance.verifyAdminAuth ledger := by
  constructor
  · intro env
    refine ⟨decides_of_exact ?_, Settlement.verifyAdminAuthByIndex_eq env⟩
    intro state admins stored signers requiredCount after
    rw [Settlement.verifyAdminAuthByIndex_eq, Settlement.verifyAdminAuth_ok,
      approved_iff]
    simp [Authority.AuthorizedBy, stored]
  · intro ledger
    refine ⟨decides_of_exact ?_,
      Governance.verifyAdminAuthByIndex_eq ledger⟩
    intro state admins stored signers requiredCount after
    rw [Governance.verifyAdminAuthByIndex_eq, Governance.verifyAdminAuth_ok,
      approved_iff]
    simp [Authority.AuthorizedBy, stored]

end BettaPay.Protocol
