import BettaPay.Settlement.Effect
import BettaPay.Settlement.Inversion
import BettaPay.Settlement.Xdr
import BettaPay.Governance.Effect

namespace BettaPay.Protocol

open BettaPay.Host
open BettaPay.Common

/-! The two contracts ask for different numbers of signers when the threshold
is to change. -/

/-- Signers that meet the current threshold ask for another one that the admin
set can meet. -/
structure ThresholdRequest (authority : Authority) (ledger : Ledger)
    (signers : List Address) (current new : UInt32) : Prop where
  required : authority.threshold = some current
  authorized : authority.AuthorizedBy ledger signers current
  positive : 1 ≤ new.toNat
  attainable : ∀ admins, authority.admin = some admins →
    new.toNat ≤ admins.length
  changed : new ≠ current

/-- There is one signer more than the threshold, and the counter of signers
can hold that number. -/
def SpareSigner (signers : List Address) (current : UInt32) : Prop :=
  current.toNat + 1 ≤ signers.length ∧ current.toNat + 1 < 2 ^ 32

theorem settlement_changes_threshold_iff {env : Settlement.Env}
    {signers : List Address} {current new : UInt32}
    {state : Settlement.State}
    (request : ThresholdRequest state.authority env.toLedger signers current
      new) :
    (∃ after, Settlement.changeThreshold env signers new state =
        .ok ((), after) ∧
      after.authority = { state.authority with threshold := some new }) ↔
      SpareSigner signers current := by
  obtain ⟨admins, stored, enough, signed⟩ := request.authorized
  have attainable := request.attainable admins stored
  have positive := request.positive
  have zero : (0 : UInt32).toNat = 0 := rfl
  have one : (1 : UInt32).toNat = 1 := rfl
  simp only [Settlement.changeThreshold, Tx.bind_ok,
    Settlement.readAdmins_ok, rejectIf_ok, Settlement.readThreshold_ok,
    orTrap_ok, checkedAdd32_eq_some, Settlement.verifyAdminAuth_ok,
    Tx.writeState_ok, unwrapFirst_ok, Settlement.emit_ok]
  constructor
  · intro given
    obtain ⟨_, ⟨_, _, ⟨_, rfl⟩, _, _, ⟨_, rfl⟩, threshold, _,
      ⟨found, rfl⟩, _, _, ⟨_, rfl⟩, required, _, ⟨added, rfl⟩, _, _,
      ⟨⟨_, _, many, _⟩, rfl⟩, _⟩, _⟩ := given
    cases found.symm.trans request.required
    have bound := required.toNat_lt
    constructor <;> omega
  · intro given
    obtain ⟨spare, fits⟩ := given
    cases signers with
    | nil => simp at spare
    | cons caller rest =>
        refine ⟨_, ⟨admins, _, ⟨stored, rfl⟩, (), _, ⟨?_, rfl⟩, current, _,
          ⟨request.required, rfl⟩, (), _, ⟨request.changed, rfl⟩,
          current + 1, _, ⟨?_, rfl⟩, (), _, ⟨⟨admins, stored, ?_, signed⟩,
          rfl⟩, (), _, rfl, caller, _, ⟨rfl, rfl⟩, rfl⟩, rfl⟩
        · rw [← UInt32.toNat_inj]
          omega
        · rw [UInt32.toNat_add]
          omega
        · rw [UInt32.toNat_add]
          omega

theorem governance_changes_threshold {env : Ledger}
    {signers : List Address} {current new : UInt32}
    {state : Governance.State}
    (request : ThresholdRequest state.authority env signers current new) :
    ∃ after, Governance.changeThreshold env signers new state =
        .ok ((), after) ∧
      after.authority = { state.authority with threshold := some new } := by
  obtain ⟨admins, stored, enough, signed⟩ := request.authorized
  have attainable := request.attainable admins stored
  have positive := request.positive
  have zero : (0 : UInt32).toNat = 0 := rfl
  simp only [Governance.changeThreshold, Tx.bind_ok,
    Governance.readAdmins_ok, rejectIf_ok, Governance.readThreshold_ok,
    Governance.verifyAdminAuth_ok, Tx.writeState_ok, Governance.emit_ok]
  refine ⟨_, ⟨admins, _, ⟨stored, rfl⟩, (), _, ⟨?_, rfl⟩, current, _,
    ⟨request.required, rfl⟩, (), _, ⟨⟨admins, stored, enough, signed⟩, rfl⟩,
    (), _, rfl, rfl⟩, rfl⟩
  rw [← UInt32.toNat_inj]
  omega

/-- Where every admin has to sign, no list of signers has a spare one. -/
theorem no_spare_signer {authority : Authority} {ledger : Ledger}
    {admins signers : List Address} {current : UInt32}
    (stored : authority.admin = some admins)
    (full : current.toNat = admins.length)
    (authorized : authority.AuthorizedBy ledger signers current) :
    ¬ SpareSigner signers current := by
  obtain ⟨_, found, _, signed⟩ := authorized
  cases found.symm.trans stored
  have few : signers.length ≤ admins.length :=
    (signed.distinct.subperm signed.members).length_le
  intro spare
  have more := spare.1
  omega

/-- In every reachable state a quorum of the settlement contract can change
the threshold exactly when it has a signer to spare, which no quorum has where
all admins must sign; a quorum of the governance contract always can. -/
theorem change_threshold_iff_spare_signer (codec : Settlement.Codec) :
    (∀ state, Settlement.Reachable codec state →
      ∀ env signers current new,
        ThresholdRequest state.authority env.toLedger signers current new →
        ((∃ after, Settlement.invoke codec env
              (.changeThreshold signers new) state = .ok (.unit, after) ∧
            after.authority =
              { state.authority with threshold := some new }) ↔
          SpareSigner signers current)) ∧
    (∀ state, Settlement.Reachable codec state →
      ∀ ledger admins signers current, state.admin = some admins →
        current.toNat = admins.length →
        state.authority.AuthorizedBy ledger signers current →
        ¬ SpareSigner signers current) ∧
    ∀ state, Governance.Reachable state → ∀ env signers current new,
      ThresholdRequest state.authority env signers current new →
      ∃ after, Governance.invoke env (.changeThreshold signers new) state =
          .ok (.unit, after) ∧
        after.authority =
          { state.authority with threshold := some new } := by
  refine ⟨?_, ?_, ?_⟩
  · intro state _ env signers current new request
    rw [← settlement_changes_threshold_iff request]
    simp only [Settlement.invoke, replying_ok, and_true]
    constructor
    · intro given
      obtain ⟨after, ⟨_, done⟩, kept⟩ := given
      exact ⟨after, done, kept⟩
    · intro given
      obtain ⟨after, done, kept⟩ := given
      exact ⟨after, ⟨(), done⟩, kept⟩
  · intro state _ ledger admins signers current stored full authorized
    exact no_spare_signer stored full authorized
  · intro state _ env signers current new request
    obtain ⟨after, done, kept⟩ := governance_changes_threshold request
    exact ⟨after, replying_ok.mpr ⟨(), done, rfl⟩, kept⟩

/-- Two admins, after an `init` with this threshold. -/
def samplePair (threshold : UInt32) : Settlement.State :=
  run (Settlement.step Settlement.sampleCodec) Settlement.State.initial
    [⟨.granting 0, .init (.account 9) [.account 1, .account 3] threshold
      (.contract 5) (.account 2)⟩]

theorem change_threshold_iff_spare_signer_raised :
    SpareSigner [.account 1, .account 3] 1 ∧
    ∃ after, Settlement.invoke Settlement.sampleCodec (.granting 100)
        (.changeThreshold [.account 1, .account 3] 2) (samplePair 1) =
          .ok (.unit, after) ∧
      after.authority =
        { (samplePair 1).authority with threshold := some 2 } := by
  have spare : SpareSigner [.account 1, .account 3] 1 := by
    constructor <;> decide
  refine ⟨spare, ((change_threshold_iff_spare_signer
    Settlement.sampleCodec).1 _ ⟨_, rfl⟩ (.granting 100) _ 1 _
      ⟨rfl, ⟨_, rfl, by decide, fun _ => id, by decide, fun _ _ => rfl⟩,
        by decide, ?_, by decide⟩).mpr spare⟩
  intro _ stored
  cases stored
  decide

theorem two_of_two_cannot_lower :
    ¬ ∀ state, Settlement.Reachable Settlement.sampleCodec state →
      ∀ env signers current new,
        ThresholdRequest state.authority env.toLedger signers current new →
        ∃ after, Settlement.invoke Settlement.sampleCodec env
          (.changeThreshold signers new) state = .ok (.unit, after) := by
  intro changes
  have request : ThresholdRequest (samplePair 2).authority
      (Settlement.Env.granting 100).toLedger [.account 1, .account 3] 2
      1 := by
    refine ⟨rfl, ⟨_, rfl, by decide, fun _ => id, by decide, fun _ _ => rfl⟩,
      by decide, ?_, by decide⟩
    intro _ stored
    cases stored
    decide
  obtain ⟨after, succeeded⟩ := changes (samplePair 2) ⟨_, rfl⟩
    (.granting 100) [.account 1, .account 3] 2 1 request
  have refused : Settlement.invoke Settlement.sampleCodec (.granting 100)
      (.changeThreshold [.account 1, .account 3] 1) (samplePair 2) =
        .error (.error .unauthorized) := by
    rfl
  rw [refused] at succeeded
  cases succeeded

end BettaPay.Protocol
