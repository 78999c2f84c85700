import BettaPay.Common.Authority

namespace BettaPay.Common

open BettaPay.Host

/-! What those can do who are too few to meet the threshold. -/

/-- Nobody but a coalition signs the call, and it is made in time. -/
structure Restrained (signs : Address → Bool) (horizon : UInt64)
    (ledger : Ledger) : Prop where
  only : ∀ address, ledger.auths address = true → signs address = true
  early : ledger.timestamp ≤ horizon

/-- The coalition holds fewer seats than the threshold asks for, neither the
recovery address nor the initiator of a pending recovery is of it, and no
recovery falls due in time. -/
structure Authority.Outvotes (authority : Authority)
    (signs : Address → Bool) (horizon : UInt64) : Prop where
  minority : ∃ admins threshold, authority.admin = some admins ∧
    authority.threshold = some threshold ∧
    (admins.filter signs).length < threshold.toNat
  recoveryAddress : ∀ recovery, authority.recoveryAddress = some recovery →
    signs recovery = false
  pendingRecovery : ∀ pending, authority.pendingRecovery = some pending →
    signs pending.initiatedBy = false ∧ horizon < pending.executeAfter

namespace Authority.Outvotes

variable {authority : Authority} {signs : Address → Bool}
  {horizon : UInt64} {ledger : Ledger} {signers : List Address}

/-- Those of them who are admins and sign are not enough. -/
theorem unauthorized (outvotes : authority.Outvotes signs horizon)
    (restrained : Restrained signs horizon ledger) {count current : UInt32}
    (stored : authority.threshold = some current)
    (enough : current.toNat ≤ count.toNat) :
    ¬ authority.AuthorizedBy ledger signers count := by
  intro authorized
  obtain ⟨admins, listed, many, authorizing⟩ := authorized
  obtain ⟨admins', threshold, listed', stored', fewer⟩ := outvotes.minority
  cases listed.symm.trans listed'
  cases stored.symm.trans stored'
  have seats : signers ⊆ admins.filter signs := by
    intro signer member
    apply List.mem_filter.mpr
    exact ⟨authorizing.members signer member,
      restrained.only signer (authorizing.authorized signer member)⟩
  have shorter :=
    (List.subperm_of_subset authorizing.distinct seats).length_le
  omega

theorem no_quorum (outvotes : authority.Outvotes signs horizon)
    (restrained : Restrained signs horizon ledger) :
    ¬ authority.Quorum ledger signers := by
  intro quorum
  obtain ⟨threshold, stored, authorized⟩ := quorum
  exact outvotes.unauthorized restrained stored (Nat.le_refl _) authorized

theorem initialized (outvotes : authority.Outvotes signs horizon) :
    authority.admin ≠ none := by
  obtain ⟨admins, _, stored, _⟩ := outvotes.minority
  rw [stored]
  exact nofun

theorem no_initiation (outvotes : authority.Outvotes signs horizon)
    (restrained : Restrained signs horizon ledger) {recovery : Address}
    (stored : authority.recoveryAddress = some recovery) :
    ledger.auths recovery ≠ true := by
  intro signed
  have outside := outvotes.recoveryAddress recovery stored
  rw [restrained.only recovery signed] at outside
  cases outside

theorem no_cancellation (outvotes : authority.Outvotes signs horizon)
    (restrained : Restrained signs horizon ledger)
    {pending : PendingRecovery}
    (stored : authority.pendingRecovery = some pending) :
    ¬ (signers = [pending.initiatedBy] ∧
        ledger.auths pending.initiatedBy = true ∨
      authority.Quorum ledger signers) := by
  intro authorized
  rcases authorized with ⟨_, signed⟩ | quorum
  · have outside := (outvotes.pendingRecovery pending stored).1
    rw [restrained.only _ signed] at outside
    cases outside
  · exact outvotes.no_quorum restrained quorum

theorem no_completion (outvotes : authority.Outvotes signs horizon)
    (restrained : Restrained signs horizon ledger)
    {pending : PendingRecovery}
    (stored : authority.pendingRecovery = some pending) :
    ¬ pending.executeAfter ≤ ledger.timestamp := by
  intro matured
  have late := (outvotes.pendingRecovery pending stored).2
  have early := restrained.early
  rw [UInt64.lt_iff_toNat_lt] at late
  rw [UInt64.le_iff_toNat_le] at matured early
  omega

end Authority.Outvotes

end BettaPay.Common
