import BettaPay.Common.Authority

namespace BettaPay.Common

open BettaPay.Host

/-! The admin, recovery and pause machine, apart from any contract. -/

/-- The entries the machine moves. -/
structure Control where
  admin : Option (List Address)
  threshold : Option UInt32
  recoveryAddress : Option Address
  pendingRecovery : Option PendingRecovery
  paused : Option Bool

def Control.authority (control : Control) : Authority where
  admin := control.admin
  threshold := control.threshold
  recoveryAddress := control.recoveryAddress
  pendingRecovery := control.pendingRecovery

/-- The calls of the machine. A pause carries a legal reason. -/
inductive ControlCall where
  | transferAdmin (signers newAdmins : List Address) (newThreshold : UInt32)
  | updateRecoveryAddress (signers : List Address) (newRecovery : Address)
  | initiateRecovery (newAdmin : Address)
  | cancelRecovery (signers : List Address)
  | executeRecovery
  | pause (signers : List Address) (reason : UInt32)
      (legal : reason ≤ maxPauseReason)
  | unpause (signers : List Address)

/-- When a call is accepted, and what it does then. -/
inductive Control.Step (ledger : Ledger) (before : Control) :
    ControlCall → Control → Prop where
  | transferAdmin {signers newAdmins : List Address} {newThreshold : UInt32}
      (quorum : before.authority.Quorum ledger signers)
      (valid : ValidAdmins newAdmins newThreshold)
      (changed : ¬ (before.admin = some newAdmins ∧
        before.threshold = some newThreshold)) :
      Step ledger before (.transferAdmin signers newAdmins newThreshold)
        { before with
          admin := some newAdmins
          threshold := some newThreshold }
  | updateRecoveryAddress {signers : List Address} {newRecovery : Address}
      (quorum : before.authority.Quorum ledger signers)
      (nonzero : newRecovery ≠ zeroAddress) :
      Step ledger before (.updateRecoveryAddress signers newRecovery)
        { before with recoveryAddress := some newRecovery }
  | initiateRecovery {newAdmin recovery : Address} {executeAfter : UInt64}
      (stored : before.recoveryAddress = some recovery)
      (authorized : ledger.auths recovery = true)
      (nonzero : newAdmin ≠ zeroAddress)
      (absent : before.pendingRecovery = none)
      (deadline : executeAfter.toNat =
        ledger.timestamp.toNat + recoveryDelaySeconds.toNat) :
      Step ledger before (.initiateRecovery newAdmin)
        { before with
          pendingRecovery := some ⟨newAdmin, executeAfter, recovery⟩ }
  | cancelRecovery {signers : List Address} {pending : PendingRecovery}
      (stored : before.pendingRecovery = some pending)
      (authorized : signers = [pending.initiatedBy] ∧
          ledger.auths pending.initiatedBy = true ∨
        before.authority.Quorum ledger signers) :
      Step ledger before (.cancelRecovery signers)
        { before with pendingRecovery := none }
  | executeRecovery {pending : PendingRecovery}
      (stored : before.pendingRecovery = some pending)
      (matured : pending.executeAfter ≤ ledger.timestamp) :
      Step ledger before .executeRecovery
        { before with
          admin := some [pending.newAdmin]
          threshold := some 1
          pendingRecovery := none }
  | pause {signers : List Address} {reason : UInt32}
      {legal : reason ≤ maxPauseReason}
      (quorum : before.authority.Quorum ledger signers)
      (unpaused : before.paused.getD false = false) :
      Step ledger before (.pause signers reason legal)
        { before with paused := some true }
  | unpause {signers : List Address}
      (quorum : before.authority.Quorum ledger signers)
      (paused : before.paused.getD false = true) :
      Step ledger before (.unpause signers)
        { before with paused := some false }

/-- A quorum depends on the ledger only through who authorized the call. -/
theorem Authority.Quorum.congr {authority : Authority}
    {ledger ledger' : Ledger} {signers : List Address}
    (quorum : authority.Quorum ledger signers)
    (auths : ledger.auths = ledger'.auths) :
    authority.Quorum ledger' signers := by
  obtain ⟨threshold, required, admins, stored, enough, authorizing⟩ := quorum
  refine ⟨threshold, required, admins, stored, enough, authorizing.members,
    authorizing.distinct, ?_⟩
  rw [← auths]
  exact authorizing.authorized

/-- A step depends on the ledger only through authorizations and time. -/
theorem Control.Step.congr {ledger ledger' : Ledger}
    {before after : Control} {call : ControlCall}
    (stepped : Control.Step ledger before call after)
    (auths : ledger.auths = ledger'.auths)
    (timestamp : ledger.timestamp = ledger'.timestamp) :
    Control.Step ledger' before call after := by
  cases stepped with
  | transferAdmin quorum valid changed =>
      exact .transferAdmin (quorum.congr auths) valid changed
  | updateRecoveryAddress quorum nonzero =>
      exact .updateRecoveryAddress (quorum.congr auths) nonzero
  | initiateRecovery stored authorized nonzero absent deadline =>
      exact .initiateRecovery stored (auths ▸ authorized) nonzero absent
        (timestamp ▸ deadline)
  | cancelRecovery stored authorized =>
      refine .cancelRecovery stored ?_
      rcases authorized with ⟨alone, signed⟩ | quorum
      · exact .inl ⟨alone, auths ▸ signed⟩
      · exact .inr (quorum.congr auths)
  | executeRecovery stored matured =>
      exact .executeRecovery stored (timestamp ▸ matured)
  | pause quorum unpaused => exact .pause (quorum.congr auths) unpaused
  | unpause quorum paused => exact .unpause (quorum.congr auths) paused

/-- A lone signer with a quorum has authorized the call. -/
theorem Authority.Quorum.lone {authority : Authority} {ledger : Ledger}
    {signer : Address} (quorum : authority.Quorum ledger [signer]) :
    ledger.auths signer = true := by
  obtain ⟨_, _, _, _, _, authorizing⟩ := quorum
  exact authorizing.authorized signer (by simp)

end BettaPay.Common
