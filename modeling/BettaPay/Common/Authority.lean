import BettaPay.Common.Multisig

namespace BettaPay.Common

open BettaPay.Host

/-- The part of a contract's storage that decides who controls it. Both
contracts keep one and move it by the same rules. -/
structure Authority where
  admin : Option (List Address)
  threshold : Option UInt32
  recoveryAddress : Option Address
  pendingRecovery : Option PendingRecovery

namespace Authority

/-- At least `count` distinct admins among `signers` authorized the call. -/
def AuthorizedBy (authority : Authority) (ledger : Ledger)
    (signers : List Address) (count : UInt32) : Prop :=
  ∃ admins, authority.admin = some admins ∧ count.toNat ≤ signers.length ∧
    Authorizing ledger admins signers

/-- The signers meet the stored threshold. -/
def Quorum (authority : Authority) (ledger : Ledger)
    (signers : List Address) : Prop :=
  ∃ threshold, authority.threshold = some threshold ∧
    authority.AuthorizedBy ledger signers threshold

theorem Quorum.initialized {authority : Authority} {ledger : Ledger}
    {signers : List Address} (quorum : authority.Quorum ledger signers) :
    authority.admin.isSome := by
  obtain ⟨_, _, admins, stored, _⟩ := quorum
  simp [stored]

/-- The address heads a quorum that signs. -/
def LedBy (authority : Authority) (ledger : Ledger) (leader : Address) :
    Prop :=
  ∃ signers, signers.head? = some leader ∧ authority.Quorum ledger signers

/-- More signatures than the threshold asks for are a quorum. -/
theorem AuthorizedBy.quorum {authority : Authority} {ledger : Ledger}
    {signers : List Address} {count threshold : UInt32}
    (authorized : authority.AuthorizedBy ledger signers count)
    (required : authority.threshold = some threshold)
    (enough : threshold.toNat ≤ count.toNat) :
    authority.Quorum ledger signers := by
  obtain ⟨admins, stored, signing, authorizing⟩ := authorized
  exact ⟨threshold, required, admins, stored,
    Nat.le_trans enough signing, authorizing⟩

theorem LedBy.signed {authority : Authority} {ledger : Ledger}
    {leader : Address} (led : authority.LedBy ledger leader) :
    ledger.auths leader = true := by
  obtain ⟨signers, leads, _, _, _, _, _, authorizing⟩ := led
  exact authorizing.authorized _ (List.mem_of_head? leads)

/-- A sole admin is a quorum. -/
theorem quorum_of_sole {authority : Authority} {ledger : Ledger}
    {admin : Address} (stored : authority.admin = some [admin])
    (required : authority.threshold = some 1)
    (signed : ledger.auths admin = true) :
    authority.Quorum ledger [admin] := by
  refine ⟨1, required, [admin], stored, by simp, by simp, by simp, ?_⟩
  intro signer listed
  rw [List.mem_singleton.mp listed]
  exact signed

/-- What a call asks of the recovery process. -/
inductive Action where
  | initiate (newAdmin : Address)
  | cancel (signers : List Address)
  | cancelQueued
  | execute
  | other
  deriving DecidableEq, Repr

/-- The transitions of an authority. -/
inductive Step (ledger : Ledger) (before : Authority) :
    Action → Authority → Prop where
  | establish {admins : List Address} {threshold : UInt32}
      {recovery : Address} (uninitialized : before.admin = none)
      (valid : ValidAdmins admins threshold) :
      Step ledger before .other
        { before with
          admin := some admins
          threshold := some threshold
          recoveryAddress := some recovery }
  | initiate {newAdmin recovery : Address} {executeAfter : UInt64}
      (stored : before.recoveryAddress = some recovery)
      (authorized : ledger.auths recovery = true)
      (nonzero : newAdmin ≠ zeroAddress)
      (absent : before.pendingRecovery = none)
      (deadline : executeAfter.toNat =
        ledger.timestamp.toNat + recoveryDelaySeconds.toNat) :
      Step ledger before (.initiate newAdmin)
        { before with
          pendingRecovery := some ⟨newAdmin, executeAfter, recovery⟩ }
  | cancel {signers : List Address} {pending : PendingRecovery}
      (stored : before.pendingRecovery = some pending)
      (authorized : signers = [pending.initiatedBy] ∧
          ledger.auths pending.initiatedBy = true ∨
        before.Quorum ledger signers) :
      Step ledger before (.cancel signers)
        { before with pendingRecovery := none }
  | cancelQueued {pending : PendingRecovery}
      (stored : before.pendingRecovery = some pending) :
      Step ledger before .cancelQueued
        { before with pendingRecovery := none }
  | execute {pending : PendingRecovery}
      (stored : before.pendingRecovery = some pending)
      (matured : pending.executeAfter ≤ ledger.timestamp) :
      Step ledger before .execute
        { before with
          admin := some [pending.newAdmin]
          threshold := some 1
          pendingRecovery := none }
  | rotate {recovery : Address} (initialized : before.admin.isSome) :
      Step ledger before .other
        { before with recoveryAddress := some recovery }
  | transfer {admins : List Address} {threshold : UInt32}
      (initialized : before.admin.isSome)
      (valid : ValidAdmins admins threshold) :
      Step ledger before .other
        { before with
          admin := some admins
          threshold := some threshold }
  | changeThreshold {admins : List Address} {threshold : UInt32}
      (stored : before.admin = some admins)
      (positive : 1 ≤ threshold.toNat)
      (attainable : threshold.toNat ≤ admins.length) :
      Step ledger before .other
        { before with threshold := some threshold }
  | idle : Step ledger before .other before

/-! The configuration invariant. -/

/-- Either nothing is configured yet, or the admin set is usable and any
pending recovery would leave it so. -/
structure Sound (authority : Authority) : Prop where
  configured : ∀ admins, authority.admin = some admins →
    ∃ threshold, authority.threshold = some threshold ∧
      ValidAdmins admins threshold
  blank : authority.admin = none →
    authority.recoveryAddress = none ∧ authority.pendingRecovery = none
  recoverable : ∀ pending, authority.pendingRecovery = some pending →
    pending.newAdmin ≠ zeroAddress

theorem Sound.valid {authority : Authority} (sound : authority.Sound)
    {admins : List Address} {threshold : UInt32}
    (stored : authority.admin = some admins)
    (required : authority.threshold = some threshold) :
    ValidAdmins admins threshold := by
  obtain ⟨found, same, valid⟩ := sound.configured admins stored
  cases required.symm.trans same
  exact valid

theorem Sound.signers_ne_nil {authority : Authority}
    (sound : authority.Sound) {ledger : Ledger} {signers : List Address}
    (quorum : authority.Quorum ledger signers) : signers ≠ [] := by
  obtain ⟨threshold, required, admins, stored, enough, _⟩ := quorum
  have positive := (sound.valid stored required).positive
  intro empty
  rw [empty, List.length_nil] at enough
  omega

theorem Sound.head_of_quorum {authority : Authority}
    (sound : authority.Sound) {ledger : Ledger} {signers : List Address}
    (quorum : authority.Quorum ledger signers) :
    ∃ signer, signers.head? = some signer := by
  cases signers with
  | nil => exact absurd rfl (sound.signers_ne_nil quorum)
  | cons signer rest => exact ⟨signer, rfl⟩

theorem Step.initialized {ledger : Ledger} {before after : Authority}
    {action : Action} (stepped : Step ledger before action after)
    (initialized : before.admin.isSome) : after.admin.isSome := by
  cases stepped <;> first | rfl | exact initialized

theorem Step.sound {ledger : Ledger} {before after : Authority}
    {action : Action} (sound : before.Sound)
    (stepped : Step ledger before action after) : after.Sound := by
  cases stepped with
  | establish uninitialized valid =>
      refine ⟨?_, by simp, sound.recoverable⟩
      intro _ same
      cases same
      exact ⟨_, rfl, valid⟩
  | initiate stored authorized nonzero absent deadline =>
      refine ⟨sound.configured, ?_, ?_⟩
      · intro blank
        have unset := (sound.blank blank).1
        rw [stored] at unset
        cases unset
      · intro _ same
        cases same
        exact nonzero
  | cancel stored authorized =>
      exact ⟨sound.configured, fun blank => ⟨(sound.blank blank).1, rfl⟩,
        by simp⟩
  | cancelQueued stored =>
      exact ⟨sound.configured, fun blank => ⟨(sound.blank blank).1, rfl⟩,
        by simp⟩
  | execute stored matured =>
      refine ⟨?_, by simp, by simp⟩
      intro _ same
      cases same
      exact ⟨1, rfl, validAdmins_singleton (sound.recoverable _ stored)⟩
  | rotate initialized =>
      refine ⟨sound.configured, ?_, sound.recoverable⟩
      intro blank
      simp only at blank
      rw [blank] at initialized
      cases initialized
  | transfer initialized valid =>
      refine ⟨?_, by simp, sound.recoverable⟩
      intro _ same
      cases same
      exact ⟨_, rfl, valid⟩
  | changeThreshold stored positive attainable =>
      refine ⟨?_, sound.blank, sound.recoverable⟩
      intro admins same
      obtain ⟨threshold, _, valid⟩ := sound.configured admins same
      cases stored.symm.trans same
      exact ⟨_, rfl, valid.nonzero, valid.distinct, positive, attainable⟩
  | idle => exact sound

/-! The life of a pending recovery. -/

/-- What may end a pending recovery: its initiator, an admin quorum of that
moment, a queued cancellation, or its execution. -/
inductive Ends (ledger : Ledger) (authority : Authority)
    (pending : PendingRecovery) : Action → Prop where
  | initiator (authorized : ledger.auths pending.initiatedBy = true) :
      Ends ledger authority pending (.cancel [pending.initiatedBy])
  | quorum {signers : List Address}
      (authorized : authority.Quorum ledger signers) :
      Ends ledger authority pending (.cancel signers)
  | queued : Ends ledger authority pending .cancelQueued
  | executed (matured : pending.executeAfter ≤ ledger.timestamp) :
      Ends ledger authority pending .execute

theorem Step.pending_kept_or_ended {ledger : Ledger}
    {before after : Authority} {action : Action}
    {pending : PendingRecovery}
    (stepped : Step ledger before action after)
    (stored : before.pendingRecovery = some pending) :
    after.pendingRecovery = some pending ∧
        (action = .other) ∨
      after.pendingRecovery = none ∧
        Ends ledger before pending action := by
  cases stepped with
  | initiate _ _ _ absent _ =>
      rw [absent] at stored
      cases stored
  | cancel found authorized =>
      cases stored.symm.trans found
      rcases authorized with ⟨rfl, authorized⟩ | quorum
      · exact .inr ⟨rfl, .initiator authorized⟩
      · exact .inr ⟨rfl, .quorum quorum⟩
  | cancelQueued found => exact .inr ⟨rfl, .queued⟩
  | execute found matured =>
      cases stored.symm.trans found
      exact .inr ⟨rfl, .executed matured⟩
  | _ => exact .inl ⟨stored, rfl⟩

/-- A pending recovery appears only by its initiation. -/
theorem Step.pending_begins {ledger : Ledger} {before after : Authority}
    {action : Action} {pending : PendingRecovery}
    (stepped : Step ledger before action after)
    (fresh : before.pendingRecovery ≠ some pending)
    (stored : after.pendingRecovery = some pending) :
    action = .initiate pending.newAdmin ∧
      before.pendingRecovery = none ∧
      before.recoveryAddress = some pending.initiatedBy ∧
      ledger.auths pending.initiatedBy = true ∧
      pending.executeAfter.toNat =
        ledger.timestamp.toNat + recoveryDelaySeconds.toNat := by
  cases stepped with
  | initiate found authorized _ absent deadline =>
      cases stored
      exact ⟨rfl, absent, found, authorized, deadline⟩
  | cancel => cases stored
  | cancelQueued => cases stored
  | execute => cases stored
  | _ => exact absurd stored fresh

end Authority

end BettaPay.Common
