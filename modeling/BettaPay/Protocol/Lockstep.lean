import BettaPay.Common.Control
import BettaPay.Settlement.Control
import BettaPay.Settlement.PaymentStore
import BettaPay.Settlement.Xdr
import BettaPay.Governance.Effect

namespace BettaPay.Protocol

open BettaPay.Host
open BettaPay.Host.Tx (readState writeState)
open BettaPay.Common

/-! Both contracts implement the admin, recovery and pause machine. -/

def settlementControl (state : Settlement.State) : Control where
  admin := state.admin
  threshold := state.threshold
  recoveryAddress := state.recoveryAddress
  pendingRecovery := state.pendingRecovery
  paused := state.paused

def governanceControl (state : Governance.State) : Control where
  admin := state.admin
  threshold := state.threshold
  recoveryAddress := state.recoveryAddress
  pendingRecovery := state.pendingRecovery
  paused := state.paused

def settlementCall : ControlCall → Settlement.Call
  | .transferAdmin signers newAdmins newThreshold =>
      .transferAdmin signers newAdmins newThreshold
  | .updateRecoveryAddress signers newRecovery =>
      .updateRecoveryAddress signers newRecovery
  | .initiateRecovery newAdmin => .initiateRecovery newAdmin
  | .cancelRecovery signers => .cancelRecovery signers
  | .executeRecovery => .executeRecovery
  | .pause signers reason _ => .pause signers reason
  | .unpause signers => .unpause signers

def governanceCall : ControlCall → Governance.Call
  | .transferAdmin signers newAdmins newThreshold =>
      .transferAdmin signers newAdmins newThreshold
  | .updateRecoveryAddress signers newRecovery =>
      .updateRecoveryAddress signers newRecovery
  | .initiateRecovery newAdmin => .initiateRecovery newAdmin
  | .cancelRecovery signers => .cancelRecovery signers
  | .executeRecovery => .executeRecovery
  | .pause signers _ _ => .pause signers
  | .unpause signers => .unpause signers

theorem replied {σ ε ρ : Type} {action : Tx σ ε Unit} {reply : Unit → ρ}
    {before : σ} {view : σ → Control} {next : Control}
    (ran : ∃ after, action before = .ok ((), after) ∧ view after = next) :
    ∃ answer after, replying reply action before = .ok (answer, after) ∧
      view after = next := by
  obtain ⟨after, done, seen⟩ := ran
  exact ⟨reply (), after, replying_ok.mpr ⟨(), done, rfl⟩, seen⟩

/-- An authorized list of signers has a first one. -/
theorem head_of_canceller {authority : Authority} {ledger : Ledger}
    {signers : List Address} {pending : PendingRecovery}
    (sound : authority.Sound)
    (authorized : signers = [pending.initiatedBy] ∧
        ledger.auths pending.initiatedBy = true ∨
      authority.Quorum ledger signers) :
    ∃ signer, signers.head? = some signer := by
  rcases authorized with ⟨rfl, _⟩ | quorum
  · exact ⟨_, rfl⟩
  · exact sound.head_of_quorum quorum

theorem same_authority_iff {admin : Option (List Address)}
    {required : Option UInt32} {admins newAdmins : List Address}
    {threshold newThreshold : UInt32} (stored : admin = some admins)
    (needed : required = some threshold) :
    admin = some newAdmins ∧ required = some newThreshold ↔
      admins = newAdmins ∧ threshold = newThreshold := by
  rw [stored, needed, Option.some_inj, Option.some_inj]

/-! The settlement contract. -/

section Settlement

variable {codec : Settlement.Codec} {env : Settlement.Env}
  {before after : Settlement.State} {call : ControlCall}

theorem settlement_transferAdmin {signers newAdmins : List Address}
    {newThreshold : UInt32}
    (ran : Settlement.transferAdmin env signers newAdmins newThreshold
      before = .ok ((), after)) :
    Control.Step env.toLedger (settlementControl before)
      (.transferAdmin signers newAdmins newThreshold)
      (settlementControl after) := by
  simp only [Settlement.transferAdmin, Tx.bind_ok,
    Settlement.verifyThresholdAuth_ok,
    Settlement.validateAdminsAndThreshold_ok, Settlement.readAdmins_ok,
    Settlement.readThreshold_ok, rejectIf_ok,
    Settlement.rejectMerchantAdmins_ok, Settlement.writeAdmins_ok,
    Settlement.emit_ok] at ran
  obtain ⟨_, _, ⟨quorum, rfl⟩, _, _, ⟨valid, rfl⟩, oldAdmins, _,
    ⟨stored, rfl⟩, oldThreshold, _, ⟨required, rfl⟩, _, _, ⟨changed, rfl⟩,
    _, _, ⟨_, rfl⟩, _, _, ⟨_, rfl⟩, rfl⟩ := ran
  exact .transferAdmin quorum valid
    (mt (same_authority_iff stored required).mp changed)

theorem settlement_steps {reply : Settlement.Reply}
    (succeeded : Settlement.invoke codec env (settlementCall call) before =
      .ok (reply, after)) :
    Control.Step env.toLedger (settlementControl before) call
      (settlementControl after) := by
  have effect := Settlement.invoke_effect succeeded
  cases call with
  | transferAdmin signers newAdmins newThreshold =>
      obtain ⟨_, ran, _⟩ := replying_ok.mp succeeded
      exact settlement_transferAdmin ran
  | updateRecoveryAddress =>
      cases effect with
      | updateRecoveryAddress quorum nonzero =>
          exact .updateRecoveryAddress quorum nonzero
      | administer direct => cases direct
      | query reads => cases reads
  | initiateRecovery =>
      cases effect with
      | initiateRecovery stored authorized nonzero absent deadline =>
          exact .initiateRecovery stored authorized nonzero absent deadline
      | administer direct => cases direct
      | query reads => cases reads
  | cancelRecovery =>
      cases effect with
      | cancelRecovery stored authorized =>
          exact .cancelRecovery stored authorized
      | administer direct => cases direct
      | query reads => cases reads
  | executeRecovery =>
      cases effect with
      | executeRecovery stored matured =>
          exact .executeRecovery stored matured
      | administer direct => cases direct
      | query reads => cases reads
  | pause =>
      cases effect with
      | pause quorum unpaused => exact .pause quorum unpaused
      | administer direct => cases direct
      | query reads => cases reads
  | unpause =>
      cases effect with
      | unpause quorum paused => exact .unpause quorum paused
      | administer direct => cases direct
      | query reads => cases reads

theorem settlement_authorizes {pending : PendingRecovery}
    {signers : List Address}
    (authorized : signers = [pending.initiatedBy] ∧
        env.auths pending.initiatedBy = true ∨
      before.authority.Quorum env.toLedger signers) :
    Settlement.authorizeCancellation env pending signers before =
      .ok ((), before) := by
  unfold Settlement.authorizeCancellation
  split
  · rename_i alone
    subst alone
    rw [requireAuth_ok]
    refine ⟨?_, rfl⟩
    rcases authorized with ⟨_, signed⟩ | quorum
    · exact signed
    · exact quorum.lone
  · rename_i others
    rw [Settlement.verifyThresholdAuth_ok]
    rcases authorized with ⟨alone, _⟩ | quorum
    · exact absurd alone others
    · exact ⟨quorum, rfl⟩

theorem settlement_accepts {next : Control}
    (sound : before.authority.Sound)
    (unregistered : ∀ address, before.merchant address = false)
    (stepped : Control.Step env.toLedger (settlementControl before) call
      next) :
    ∃ reply after, Settlement.invoke codec env (settlementCall call)
        before = .ok (reply, after) ∧ settlementControl after = next := by
  cases stepped with
  | @transferAdmin signers newAdmins newThreshold quorum valid changed =>
      obtain ⟨threshold, required, admins, stored, _⟩ := id quorum
      apply replied
      simp only [Settlement.transferAdmin, Tx.bind_ok,
        Settlement.verifyThresholdAuth_ok,
        Settlement.validateAdminsAndThreshold_ok, Settlement.readAdmins_ok,
        Settlement.readThreshold_ok, rejectIf_ok,
        Settlement.rejectMerchantAdmins_ok, Settlement.writeAdmins_ok,
        Settlement.emit_ok]
      have different := mt (same_authority_iff stored required).mpr changed
      exact ⟨_, ⟨(), _, ⟨quorum, rfl⟩, (), _, ⟨valid, rfl⟩, admins, _,
        ⟨stored, rfl⟩, threshold, _, ⟨required, rfl⟩, (), _,
        ⟨different, rfl⟩, (), _, ⟨fun admin _ => unregistered admin, rfl⟩,
        (), _, ⟨valid, rfl⟩, rfl⟩, rfl⟩
  | updateRecoveryAddress quorum nonzero =>
      obtain ⟨admin, first⟩ := sound.head_of_quorum quorum
      apply replied
      simp only [Settlement.updateRecoveryAddress, Tx.bind_ok,
        Settlement.verifyThresholdAuth_ok, unwrapFirst_ok,
        Settlement.validateNonzeroAddress_ok, Tx.writeState_ok,
        Settlement.emit_ok]
      exact ⟨_, ⟨(), _, ⟨quorum, rfl⟩, admin, _, ⟨first, rfl⟩, (), _,
        ⟨nonzero, rfl⟩, (), _, rfl, rfl⟩, rfl⟩
  | initiateRecovery stored authorized nonzero absent deadline =>
      apply replied
      have free : ¬ before.pendingRecovery.isSome = true := by
        rw [show before.pendingRecovery = none from absent]
        simp
      simp only [Settlement.initiateRecovery, Tx.readState_bind, Tx.bind_ok,
        Settlement.readRecoveryAddress_ok, requireAuth_ok,
        Settlement.validateNonzeroAddress_ok, rejectIf_ok, orTrap_ok,
        Tx.writeState_ok, Settlement.emit_ok]
      exact ⟨_, ⟨_, _, ⟨stored, rfl⟩, (), _, ⟨authorized, rfl⟩, (), _,
        ⟨nonzero, rfl⟩, (), _, ⟨free, rfl⟩, _, _,
        ⟨checkedAdd64_eq_some.mpr deadline, rfl⟩, (), _, rfl, rfl⟩, rfl⟩
  | cancelRecovery stored authorized =>
      obtain ⟨canceller, first⟩ := head_of_canceller sound authorized
      apply replied
      simp only [Settlement.cancelRecovery, Settlement.removePendingRecovery,
        Tx.bind_ok, Settlement.readPendingRecovery_ok, unwrapFirst_ok,
        Tx.writeState_ok, Settlement.emit_ok]
      exact ⟨_, ⟨_, _, ⟨stored, rfl⟩, (), _,
        settlement_authorizes authorized, canceller, _, ⟨first, rfl⟩, (), _,
        rfl, rfl⟩, rfl⟩
  | executeRecovery stored matured =>
      have valid := validAdmins_singleton (sound.recoverable _ stored)
      apply replied
      simp only [Settlement.executeRecovery, Tx.bind_ok,
        Settlement.readPendingRecovery_ok, rejectIf_ok,
        Settlement.readOptionalAdmins_ok, Settlement.writeAdmins_ok,
        Tx.writeState_ok, Settlement.emit_ok]
      exact ⟨_, ⟨_, _, ⟨stored, rfl⟩, (), _, ⟨UInt64.not_lt.mpr matured,
        rfl⟩, _, _, ⟨rfl, rfl⟩, (), _, ⟨valid, rfl⟩, (), _, rfl, rfl⟩, rfl⟩
  | @pause signers reason legal quorum unpaused =>
      obtain ⟨admin, first⟩ := sound.head_of_quorum quorum
      apply replied
      simp only [Settlement.pause, Tx.readState_bind, Tx.bind_ok,
        Settlement.verifyThresholdAuth_ok, rejectIf_ok, unwrapFirst_ok,
        Tx.writeState_ok, Settlement.emit_ok]
      exact ⟨_, ⟨(), _, ⟨quorum, rfl⟩, (), _, ⟨Bool.eq_false_iff.mp unpaused,
        rfl⟩, (), _, ⟨UInt32.not_lt.mpr legal, rfl⟩, admin, _, ⟨first, rfl⟩,
        (), _, rfl, rfl⟩, rfl⟩
  | unpause quorum paused =>
      obtain ⟨admin, first⟩ := sound.head_of_quorum quorum
      apply replied
      simp only [Settlement.unpause, Tx.readState_bind, Tx.bind_ok,
        Settlement.verifyThresholdAuth_ok, rejectIf_ok, unwrapFirst_ok,
        Tx.writeState_ok, Settlement.emit_ok, Bool.not_eq_false]
      exact ⟨_, ⟨(), _, ⟨quorum, rfl⟩, (), _, ⟨paused, rfl⟩, admin, _,
        ⟨first, rfl⟩, (), _, rfl, rfl⟩, rfl⟩

end Settlement

/-! The governance contract. -/

section Governance

variable {ledger : Ledger} {before after : Governance.State}
  {call : ControlCall}

theorem governance_transferAdmin {signers newAdmins : List Address}
    {newThreshold : UInt32}
    (ran : Governance.transferAdmin ledger signers newAdmins newThreshold
      before = .ok ((), after)) :
    Control.Step ledger (governanceControl before)
      (.transferAdmin signers newAdmins newThreshold)
      (governanceControl after) := by
  simp only [Governance.transferAdmin, Tx.bind_ok,
    Governance.readThreshold_ok, Governance.verifyAdminAuth_ok,
    Governance.validateAdminsAndThreshold_ok, Governance.readAdmins_ok,
    rejectIf_ok, Tx.writeState_ok, Governance.emit_ok] at ran
  obtain ⟨oldThreshold, _, ⟨required, rfl⟩, _, _, ⟨authorized, rfl⟩, _, _,
    ⟨valid, rfl⟩, oldAdmins, _, ⟨stored, rfl⟩, _, _, ⟨changed, rfl⟩, _, _,
    rfl, rfl⟩ := ran
  exact .transferAdmin ⟨oldThreshold, required, authorized⟩ valid
    (mt (same_authority_iff stored required).mp changed)

theorem governance_steps {reply : Governance.Reply}
    (succeeded : Governance.invoke ledger (governanceCall call) before =
      .ok (reply, after)) :
    Control.Step ledger (governanceControl before) call
      (governanceControl after) := by
  have effect := Governance.invoke_effect succeeded
  cases call with
  | transferAdmin signers newAdmins newThreshold =>
      obtain ⟨_, ran, _⟩ := replying_ok.mp succeeded
      exact governance_transferAdmin ran
  | updateRecoveryAddress =>
      cases effect with
      | updateRecoveryAddress quorum nonzero =>
          exact .updateRecoveryAddress quorum nonzero
      | query reads => cases reads
  | initiateRecovery =>
      cases effect with
      | initiateRecovery stored authorized nonzero absent deadline =>
          exact .initiateRecovery stored authorized nonzero absent deadline
      | query reads => cases reads
  | cancelRecovery =>
      cases effect with
      | cancelRecovery stored authorized =>
          exact .cancelRecovery stored authorized
      | query reads => cases reads
  | executeRecovery =>
      cases effect with
      | executeRecovery stored matured =>
          exact .executeRecovery stored matured
      | query reads => cases reads
  | pause =>
      cases effect with
      | pause quorum unpaused => exact .pause quorum unpaused
      | query reads => cases reads
  | unpause =>
      cases effect with
      | unpause quorum paused => exact .unpause quorum paused
      | query reads => cases reads

theorem governance_authorizes {pending : PendingRecovery}
    {signers : List Address}
    (authorized : signers = [pending.initiatedBy] ∧
        ledger.auths pending.initiatedBy = true ∨
      before.authority.Quorum ledger signers) :
    Governance.authorizeCancellation ledger pending signers before =
      .ok ((), before) := by
  unfold Governance.authorizeCancellation
  split
  · rename_i alone
    subst alone
    rw [requireAuth_ok]
    refine ⟨?_, rfl⟩
    rcases authorized with ⟨_, signed⟩ | quorum
    · exact signed
    · exact quorum.lone
  · rename_i others
    rw [Governance.verifyThresholdAuth_ok]
    rcases authorized with ⟨alone, _⟩ | quorum
    · exact absurd alone others
    · exact ⟨quorum, rfl⟩

theorem governance_accepts {next : Control}
    (sound : before.authority.Sound)
    (stepped : Control.Step ledger (governanceControl before) call next) :
    ∃ reply after, Governance.invoke ledger (governanceCall call) before =
      .ok (reply, after) ∧ governanceControl after = next := by
  cases stepped with
  | @transferAdmin signers newAdmins newThreshold quorum valid changed =>
      obtain ⟨threshold, required, authorized⟩ := id quorum
      obtain ⟨admins, stored, _⟩ := id authorized
      apply replied
      have different := mt (same_authority_iff stored required).mpr changed
      simp only [Governance.transferAdmin, Tx.bind_ok,
        Governance.readThreshold_ok, Governance.verifyAdminAuth_ok,
        Governance.validateAdminsAndThreshold_ok, Governance.readAdmins_ok,
        rejectIf_ok, Tx.writeState_ok, Governance.emit_ok]
      exact ⟨_, ⟨threshold, _, ⟨required, rfl⟩, (), _, ⟨authorized, rfl⟩, (),
        _, ⟨valid, rfl⟩, admins, _, ⟨stored, rfl⟩, (), _, ⟨different, rfl⟩,
        (), _, rfl, rfl⟩, rfl⟩
  | updateRecoveryAddress quorum nonzero =>
      obtain ⟨admin, first⟩ := sound.head_of_quorum quorum
      apply replied
      simp only [Governance.updateRecoveryAddress, Tx.bind_ok,
        Governance.verifyThresholdAuth_ok, unwrapFirst_ok,
        Governance.assertNotZero_ok, Tx.writeState_ok, Governance.emit_ok]
      exact ⟨_, ⟨(), _, ⟨quorum, rfl⟩, admin, _, ⟨first, rfl⟩, (), _,
        ⟨nonzero, rfl⟩, (), _, rfl, rfl⟩, rfl⟩
  | initiateRecovery stored authorized nonzero absent deadline =>
      apply replied
      have free : ¬ before.pendingRecovery.isSome = true := by
        rw [show before.pendingRecovery = none from absent]
        simp
      simp only [Governance.initiateRecovery, Tx.readState_bind, Tx.bind_ok,
        Governance.readRecoveryAddress_ok, requireAuth_ok,
        Governance.assertNotZero_ok, rejectIf_ok, orTrap_ok,
        Tx.writeState_ok, Governance.emit_ok]
      exact ⟨_, ⟨_, _, ⟨stored, rfl⟩, (), _, ⟨authorized, rfl⟩, (), _,
        ⟨nonzero, rfl⟩, (), _, ⟨free, rfl⟩, _, _,
        ⟨checkedAdd64_eq_some.mpr deadline, rfl⟩, (), _, rfl, rfl⟩, rfl⟩
  | cancelRecovery stored authorized =>
      obtain ⟨canceller, first⟩ := head_of_canceller sound authorized
      apply replied
      simp only [Governance.cancelRecovery, Tx.bind_ok,
        Governance.readPendingRecovery_ok, unwrapFirst_ok, Tx.writeState_ok,
        Governance.emit_ok]
      exact ⟨_, ⟨_, _, ⟨stored, rfl⟩, (), _,
        governance_authorizes authorized, canceller, _, ⟨first, rfl⟩, (), _,
        rfl, rfl⟩, rfl⟩
  | executeRecovery stored matured =>
      apply replied
      simp only [Governance.executeRecovery, Tx.bind_ok,
        Governance.readPendingRecovery_ok, rejectIf_ok,
        Governance.readOptionalAdmins_ok, Tx.writeState_ok,
        Governance.emit_ok]
      exact ⟨_, ⟨_, _, ⟨stored, rfl⟩, (), _, ⟨UInt64.not_lt.mpr matured,
        rfl⟩, _, _, ⟨rfl, rfl⟩, (), _, rfl, rfl⟩, rfl⟩
  | pause quorum unpaused =>
      obtain ⟨admin, first⟩ := sound.head_of_quorum quorum
      apply replied
      simp only [Governance.pause, Governance.applyPause, Tx.readState_bind,
        Tx.bind_ok, Governance.verifyThresholdAuth_ok, rejectIf_ok,
        unwrapFirst_ok, Tx.writeState_ok, Governance.emit_ok]
      exact ⟨_, ⟨(), _, ⟨quorum, rfl⟩, (), _, ⟨Bool.eq_false_iff.mp unpaused,
        rfl⟩, admin, _, ⟨first, rfl⟩, (), _, rfl, rfl⟩, rfl⟩
  | unpause quorum paused =>
      obtain ⟨admin, first⟩ := sound.head_of_quorum quorum
      apply replied
      simp only [Governance.unpause, Governance.applyUnpause,
        Tx.readState_bind, Tx.bind_ok, Governance.verifyThresholdAuth_ok,
        rejectIf_ok, unwrapFirst_ok, Tx.writeState_ok, Governance.emit_ok,
        Bool.not_eq_false]
      exact ⟨_, ⟨(), _, ⟨quorum, rfl⟩, (), _, ⟨paused, rfl⟩, admin, _,
        ⟨first, rfl⟩, (), _, rfl, rfl⟩, rfl⟩

end Governance

/-! Runs of both contracts side by side. -/

/-- One call made to both contracts, with the same authorizations at the same
time. -/
structure Exchange where
  env : Settlement.Env
  ledger : Ledger
  call : ControlCall
  auths : env.auths = ledger.auths
  timestamp : env.timestamp = ledger.timestamp

/-- The initializations that both contracts start from. -/
structure Setup where
  env : Settlement.Env
  ledger : Ledger
  settlementDeployer : Address
  governanceDeployer : Address
  admins : List Address
  threshold : UInt32
  governance : Address
  recoveryAddress : Address

namespace Setup

variable (setup : Setup) (exchanges : List Exchange)

def settlementInit : Settlement.Input :=
  ⟨setup.env, .init setup.settlementDeployer setup.admins setup.threshold
    setup.governance setup.recoveryAddress⟩

def governanceInit : Governance.Input :=
  ⟨setup.ledger, .init setup.governanceDeployer setup.admins
    setup.threshold setup.recoveryAddress⟩

def settlementInputs : List Settlement.Input :=
  setup.settlementInit :: exchanges.map fun exchange =>
    ⟨exchange.env, settlementCall exchange.call⟩

def governanceInputs : List Governance.Input :=
  setup.governanceInit :: exchanges.map fun exchange =>
    ⟨exchange.ledger, governanceCall exchange.call⟩

/-- The settlement contract just before the call at `index`. -/
def settlementAt (codec : Settlement.Codec) (index : Nat) :
    Settlement.State :=
  stateAt (Settlement.step codec) Settlement.State.initial
    (setup.settlementInputs exchanges) index

/-- The governance contract just before the call at `index`. -/
def governanceAt (index : Nat) : Governance.State :=
  stateAt Governance.step Governance.State.initial
    (setup.governanceInputs exchanges) index

end Setup

/-- The two contracts agree on the machine, and nobody is a merchant. -/
structure InStep (settlement : Settlement.State)
    (governance : Governance.State) : Prop where
  control : settlementControl settlement = governanceControl governance
  unregistered : ∀ address, settlement.merchant address = false

theorem inStep_of_init {codec : Settlement.Codec} {setup : Setup}
    {settlement : Settlement.State} {governance : Governance.State}
    {reply : Settlement.Reply} {reply' : Governance.Reply}
    (settled : Settlement.step codec setup.settlementInit
      Settlement.State.initial = .ok (reply, settlement))
    (governed : Governance.step setup.governanceInit
      Governance.State.initial = .ok (reply', governance)) :
    InStep settlement governance := by
  cases Settlement.invoke_effect settled with
  | init =>
      cases Governance.invoke_effect governed with
      | init => exact ⟨rfl, fun _ => rfl⟩
      | query reads => cases reads
  | administer direct => cases direct
  | query reads => cases reads

section Exchanges

variable {codec : Settlement.Codec} {settlement : Settlement.State}
  {governance : Governance.State} {exchange : Exchange}

/-- One contract accepts a call exactly when the other does. -/
theorem accepted_iff (inStep : InStep settlement governance)
    (sound : settlement.authority.Sound)
    (sound' : governance.authority.Sound) :
    (∃ reply after, Settlement.invoke codec exchange.env
        (settlementCall exchange.call) settlement = .ok (reply, after)) ↔
      ∃ reply after, Governance.invoke exchange.ledger
        (governanceCall exchange.call) governance = .ok (reply, after) := by
  constructor
  · intro given
    obtain ⟨_, _, succeeded⟩ := given
    have stepped := (settlement_steps succeeded).congr exchange.auths
      exchange.timestamp
    rw [inStep.control] at stepped
    obtain ⟨reply, after, accepted, _⟩ := governance_accepts sound' stepped
    exact ⟨reply, after, accepted⟩
  · intro given
    obtain ⟨_, _, succeeded⟩ := given
    have stepped := (governance_steps succeeded).congr exchange.auths.symm
      exchange.timestamp.symm
    rw [← inStep.control] at stepped
    obtain ⟨reply, after, accepted, _⟩ :=
      settlement_accepts sound inStep.unregistered stepped
    exact ⟨reply, after, accepted⟩

theorem settlement_unregistered {call : ControlCall} {env : Settlement.Env}
    {after : Settlement.State} {reply : Settlement.Reply}
    (succeeded : Settlement.invoke codec env (settlementCall call)
      settlement = .ok (reply, after))
    (unregistered : ∀ address, settlement.merchant address = false)
    (address : Address) : after.merchant address = false := by
  have unnamed : (settlementCall call).registers address = false := by
    cases call <;> rfl
  rw [(Settlement.invoke_effect succeeded).merchant_unnamed unnamed]
  exact unregistered address

theorem InStep.committed (inStep : InStep settlement governance)
    (sound : settlement.authority.Sound)
    (sound' : governance.authority.Sound) :
    InStep
      (commit (Settlement.step codec) settlement
        ⟨exchange.env, settlementCall exchange.call⟩)
      (commit Governance.step governance
        ⟨exchange.ledger, governanceCall exchange.call⟩) := by
  have together := @accepted_iff codec _ _ exchange inStep sound sound'
  cases attempt : Settlement.step codec
      ⟨exchange.env, settlementCall exchange.call⟩ settlement with
  | ok outcome =>
      rcases outcome with ⟨reply, after⟩
      rw [commit_of_ok attempt]
      have stepped := (settlement_steps attempt).congr exchange.auths
        exchange.timestamp
      rw [inStep.control] at stepped
      obtain ⟨reply', after', accepted, seen⟩ :=
        governance_accepts sound' stepped
      have committed : commit Governance.step governance
          ⟨exchange.ledger, governanceCall exchange.call⟩ = after' :=
        commit_of_ok accepted
      rw [committed]
      exact ⟨seen.symm,
        settlement_unregistered attempt inStep.unregistered⟩
  | error failure =>
      rw [commit_of_error attempt]
      cases attempt' : Governance.step
          ⟨exchange.ledger, governanceCall exchange.call⟩ governance with
      | ok outcome =>
          obtain ⟨reply, after, accepted⟩ :=
            together.mpr ⟨outcome.1, outcome.2, attempt'⟩
          cases attempt.symm.trans accepted
      | error failure' =>
          rw [commit_of_error attempt']
          exact inStep

end Exchanges

theorem inStep_at {codec : Settlement.Codec} {setup : Setup}
    {exchanges : List Exchange}
    (settled : (Settlement.step codec setup.settlementInit
      Settlement.State.initial).isOk = true)
    (governed : (Governance.step setup.governanceInit
      Governance.State.initial).isOk = true) (index : Nat) :
    InStep (setup.settlementAt exchanges codec (index + 1))
      (setup.governanceAt exchanges (index + 1)) := by
  induction index with
  | zero =>
      obtain ⟨reply, _, settled⟩ := @succeeds_of_isOk _ _ _ _
        (Settlement.step codec) Settlement.State.initial
        (setup.settlementInputs exchanges) 0 setup.settlementInit rfl settled
      obtain ⟨reply', _, governed⟩ := @succeeds_of_isOk _ _ _ _
        Governance.step Governance.State.initial
        (setup.governanceInputs exchanges) 0 setup.governanceInit rfl
        governed
      exact inStep_of_init settled governed
  | succ index induction =>
      have sound : (setup.settlementAt exchanges codec
          (index + 1)).authority.Sound :=
        (Settlement.machine codec).sound_at (index + 1)
      have sound' : (setup.governanceAt exchanges
          (index + 1)).authority.Sound :=
        Governance.machine.sound_at (index + 1)
      cases here : exchanges[index]? with
      | none =>
          have same : setup.settlementAt exchanges codec (index + 1 + 1) =
              setup.settlementAt exchanges codec (index + 1) :=
            stateAt_succ_of_none (by simp [Setup.settlementInputs, here])
          have same' : setup.governanceAt exchanges (index + 1 + 1) =
              setup.governanceAt exchanges (index + 1) :=
            stateAt_succ_of_none (by simp [Setup.governanceInputs, here])
          rw [same, same']
          exact induction
      | some exchange =>
          have next : setup.settlementAt exchanges codec (index + 1 + 1) =
              commit (Settlement.step codec)
                (setup.settlementAt exchanges codec (index + 1))
                ⟨exchange.env, settlementCall exchange.call⟩ :=
            stateAt_succ (by simp [Setup.settlementInputs, here])
          have next' : setup.governanceAt exchanges (index + 1 + 1) =
              commit Governance.step
                (setup.governanceAt exchanges (index + 1))
                ⟨exchange.ledger, governanceCall exchange.call⟩ :=
            stateAt_succ (by simp [Setup.governanceInputs, here])
          rw [next, next']
          exact induction.committed sound sound'

/-- Started by `init` with the same admins, threshold and recovery address, and
given the same sequence of calls with the same authorizations at the same
times, the two contracts accept and refuse the same calls, and after every
prefix hold the same admins, threshold, recovery address, pending recovery and
pause flag. -/
theorem contracts_in_lockstep (codec : Settlement.Codec) (setup : Setup)
    (exchanges : List Exchange)
    (settled : (Settlement.step codec setup.settlementInit
      Settlement.State.initial).isOk = true)
    (governed : (Governance.step setup.governanceInit
      Governance.State.initial).isOk = true) (index : Nat) :
    settlementControl (setup.settlementAt exchanges codec (index + 1)) =
        governanceControl (setup.governanceAt exchanges (index + 1)) ∧
      ∀ exchange, exchanges[index]? = some exchange →
        ((Settlement.step codec
              ⟨exchange.env, settlementCall exchange.call⟩
              (setup.settlementAt exchanges codec (index + 1))).isOk =
          (Governance.step ⟨exchange.ledger, governanceCall exchange.call⟩
              (setup.governanceAt exchanges (index + 1))).isOk) := by
  have inStep := @inStep_at codec setup exchanges settled governed index
  refine ⟨inStep.control, ?_⟩
  intro exchange _
  have together := @accepted_iff codec _ _ exchange inStep
    ((Settlement.machine codec).sound_at (index + 1))
    (Governance.machine.sound_at (index + 1))
  rw [Bool.eq_iff_iff, isOk_iff_exists, isOk_iff_exists]
  exact together

def sampleSetup : Setup where
  env := .granting 0
  ledger := .granting 0
  settlementDeployer := .account 9
  governanceDeployer := .account 8
  admins := [.account 1]
  threshold := 1
  governance := .contract 5
  recoveryAddress := .account 2

/-- A pause, a rotation, and an attempt of the replaced admin that both
contracts refuse. -/
def sampleExchanges : List Exchange :=
  [⟨.granting 100, .granting 100, .pause [.account 1] 7 (by decide), rfl,
      rfl⟩,
    ⟨.granting 200, .granting 200,
      .transferAdmin [.account 1] [.account 3, .account 4] 2, rfl, rfl⟩,
    ⟨.granting 300, .granting 300, .unpause [.account 1], rfl, rfl⟩]

theorem contracts_in_lockstep_sample :
    (sampleSetup.settlementAt sampleExchanges Settlement.sampleCodec
        3).threshold = some 2 ∧
      settlementControl (sampleSetup.settlementAt sampleExchanges
          Settlement.sampleCodec 3) =
        governanceControl (sampleSetup.governanceAt sampleExchanges 3) :=
  ⟨by decide, (contracts_in_lockstep Settlement.sampleCodec sampleSetup
    sampleExchanges (by decide) (by decide) 2).1⟩

end BettaPay.Protocol
