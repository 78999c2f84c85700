import BettaPay.Common.Takeover
import BettaPay.Protocol.Lockstep
import BettaPay.Protocol.Recovery

namespace BettaPay.Protocol

open BettaPay.Host
open BettaPay.Common

/-! The recovery address against both contracts. -/

section Settlement

variable {codec : Settlement.Codec} {input : Settlement.Input}
  {state : Settlement.State}

theorem settlement_initiation_succeeds {newAdmin recovery : Address}
    (initiates : input.call.action = .initiate newAdmin)
    (stored : state.recoveryAddress = some recovery)
    (signed : input.env.auths recovery = true)
    (nonzero : newAdmin ≠ zeroAddress)
    (absent : state.pendingRecovery = none)
    (fits : input.env.timestamp.toNat + recoveryDelaySeconds.toNat <
      2 ^ 64) :
    ∃ reply after, Settlement.step codec input state =
      .ok (reply, after) := by
  obtain ⟨env, call⟩ := input
  have call_eq : call = .initiateRecovery newAdmin := by
    cases call with
    | initiateRecovery target =>
        cases initiates
        rfl
    | execute executor operation => cases operation <;> cases initiates
    | _ => cases initiates
  subst call_eq
  have free : ¬ state.pendingRecovery.isSome = true := by simp [absent]
  have deadline : checkedAdd64 env.timestamp recoveryDelaySeconds =
      some (env.timestamp + recoveryDelaySeconds) := by
    rw [checkedAdd64_eq_some, UInt64.toNat_add]
    exact Nat.mod_eq_of_lt fits
  have initiated : ∃ after,
      Settlement.initiateRecovery env newAdmin state = .ok ((), after) := by
    simp only [Settlement.initiateRecovery, Tx.readState_bind, Tx.bind_ok,
      Settlement.readRecoveryAddress_ok, requireAuth_ok,
      Settlement.validateNonzeroAddress_ok, rejectIf_ok, orTrap_ok,
      Tx.writeState_ok, Settlement.emit_ok]
    exact ⟨_, recovery, _, ⟨stored, rfl⟩, (), _, ⟨signed, rfl⟩, (), _,
      ⟨nonzero, rfl⟩, (), _, ⟨free, rfl⟩, _, _, ⟨deadline, rfl⟩, (), _, rfl,
      rfl⟩
  obtain ⟨after, initiated⟩ := initiated
  exact ⟨.unit, after, replying_ok.mpr ⟨(), initiated, rfl⟩⟩

def settlementUnpauses : Settlement.Call → Option (List Address)
  | .unpause signers => some signers
  | _ => none

theorem settlement_unpause_succeeds {signers : List Address}
    (sound : state.authority.Sound)
    (unpauses : settlementUnpauses input.call = some signers)
    (quorum : state.authority.Quorum input.env.toLedger signers)
    (paused : state.isPaused = true) :
    ∃ reply after, Settlement.step codec input state =
      .ok (reply, after) ∧ after.isPaused = false := by
  obtain ⟨env, call⟩ := input
  have call_eq : call = .unpause signers := by
    cases call with
    | unpause listed =>
        cases unpauses
        rfl
    | _ => cases unpauses
  subst call_eq
  obtain ⟨admin, first⟩ := sound.head_of_quorum quorum
  have resumed : ∃ after, Settlement.unpause env signers state =
      .ok ((), after) ∧ after.isPaused = false := by
    simp only [Settlement.unpause, Tx.readState_bind, Tx.bind_ok,
      Settlement.verifyThresholdAuth_ok, rejectIf_ok, unwrapFirst_ok,
      Tx.writeState_ok, Settlement.emit_ok, Bool.not_eq_false]
    exact ⟨_, ⟨(), _, ⟨quorum, rfl⟩, (), _, ⟨paused, rfl⟩, admin, _,
      ⟨first, rfl⟩, (), _, rfl, rfl⟩, rfl⟩
  obtain ⟨after, ran, going⟩ := resumed
  exact ⟨.unit, after, replying_ok.mpr ⟨(), ran, rfl⟩, going⟩

/-- The call, at once or through the timelock, puts other code in place. -/
def settlementUpgrades : Settlement.Call → Bool
  | .upgrade _ _ => true
  | .execute _ (.upgrade _) => true
  | _ => false

/-- The settlement contract and its recovery. -/
def settlementRecoverable (codec : Settlement.Codec) :
    Recoverable Settlement.State (Failure Settlement.SettlementError)
      Settlement.Input Settlement.Reply where
  toControlled := Settlement.machine codec
  initiates := fun _ => settlement_initiation_succeeds
  executes := settlement_execution_succeeds
  paused := Settlement.State.isPaused
  unpauses := fun input => settlementUnpauses input.call
  upgrades := fun input => settlementUpgrades input.call
  resumes := settlement_unpause_succeeds
  keepsPause := by
    intro input state signers reply after unpauses going succeeded
    obtain ⟨env, call⟩ := input
    have ran : Settlement.invoke codec env call state =
      .ok (reply, after) := succeeded
    cases call with
    | unpause listed =>
        cases Settlement.invoke_effect ran with
        | unpause => rfl
        | administer direct => cases direct
        | query reads => cases reads
    | _ => cases unpauses

end Settlement

section Governance

variable {input : Governance.Input} {state : Governance.State}

theorem governance_initiation_succeeds {newAdmin recovery : Address}
    (sound : state.authority.Sound)
    (initiates : input.call.action = .initiate newAdmin)
    (stored : state.recoveryAddress = some recovery)
    (signed : input.env.auths recovery = true)
    (nonzero : newAdmin ≠ zeroAddress)
    (absent : state.pendingRecovery = none)
    (fits : input.env.timestamp.toNat + recoveryDelaySeconds.toNat <
      2 ^ 64) :
    ∃ reply after, Governance.step input state = .ok (reply, after) := by
  obtain ⟨env, call⟩ := input
  have call_eq : call = .initiateRecovery newAdmin := by
    cases call with
    | initiateRecovery target =>
        cases initiates
        rfl
    | _ => cases initiates
  subst call_eq
  have deadline : (env.timestamp + recoveryDelaySeconds).toNat =
      env.timestamp.toNat + recoveryDelaySeconds.toNat := by
    rw [UInt64.toNat_add]
    exact Nat.mod_eq_of_lt fits
  obtain ⟨reply, after, ran, _⟩ := governance_accepts sound
    (.initiateRecovery stored signed nonzero absent deadline)
  exact ⟨reply, after, ran⟩

def governanceUnpauses : Governance.Call → Option (List Address)
  | .unpause signers => some signers
  | _ => none

theorem governance_unpause_succeeds {signers : List Address}
    (sound : state.authority.Sound)
    (unpauses : governanceUnpauses input.call = some signers)
    (quorum : state.authority.Quorum input.env signers)
    (paused : state.isPaused = true) :
    ∃ reply after, Governance.step input state =
      .ok (reply, after) ∧ after.isPaused = false := by
  obtain ⟨env, call⟩ := input
  have call_eq : call = .unpause signers := by
    cases call with
    | unpause listed =>
        cases unpauses
        rfl
    | _ => cases unpauses
  subst call_eq
  obtain ⟨reply, after, ran, installed⟩ :=
    governance_accepts sound (.unpause quorum paused)
  have going : after.paused = some false :=
    congrArg Control.paused installed
  exact ⟨reply, after, ran, by simp [Governance.State.isPaused, going]⟩

def governanceUpgrades : Governance.Call → Bool
  | .upgrade _ _ => true
  | _ => false

/-- The governance contract and its recovery. -/
def governanceRecoverable : Recoverable Governance.State
    (Failure Governance.GovernanceError) Governance.Input
    Governance.Reply where
  toControlled := Governance.machine
  initiates := governance_initiation_succeeds
  executes := fun _ => governance_execution_succeeds
  paused := Governance.State.isPaused
  unpauses := fun input => governanceUnpauses input.call
  upgrades := fun input => governanceUpgrades input.call
  resumes := governance_unpause_succeeds
  keepsPause := by
    intro input state signers reply after unpauses going succeeded
    obtain ⟨env, call⟩ := input
    have ran : Governance.invoke env call state = .ok (reply, after) :=
      succeeded
    cases call with
    | unpause listed =>
        cases Governance.invoke_effect ran with
        | unpause => rfl
        | query reads => cases reads
    | _ => cases unpauses

end Governance

/-- As long as its code is not replaced, neither contract can be kept from its
recovery address: whatever else the admins did before, paused or not, and
whatever else anyone calls meanwhile, it can make an address of its choice the
sole admin, who can then set the contract going, unless somebody cancels or
completes the recovery. -/
theorem recovery_hands_over (codec : Settlement.Codec) :
    (settlementRecoverable codec).HandsOver ∧
      governanceRecoverable.HandsOver :=
  ⟨Recoverable.handsOver _, Recoverable.handsOver _⟩

/-- The admin stops the contract and queues an operation. -/
def hostilePast : List Settlement.Input :=
  [⟨.granting 0, .init (.account 9) [.account 1] 1 (.contract 5)
      (.account 2)⟩,
    ⟨.granting 100, .schedule [.account 1] Settlement.sampleOperation
      604800⟩,
    ⟨.granting 200, .pause [.account 1] 0⟩]

/-- While the recovery is under way the admin hands over to others, who name
another recovery address. -/
def hostileNoise : List Settlement.Input :=
  [⟨.granting 1000, .transferAdmin [.account 1] [.account 3, .account 4] 2⟩,
    ⟨.granting 1100, .updateRecoveryAddress [.account 3, .account 4]
      (.account 7)⟩,
    ⟨.granting 605000, .execute (.account 3) Settlement.sampleOperation⟩]

set_option maxRecDepth 4000 in
theorem recovery_hands_over_sample :
    let final := run (Settlement.step Settlement.sampleCodec)
      (run (Settlement.step Settlement.sampleCodec)
        Settlement.State.initial hostilePast)
      (⟨.unsigned 300, .executeRecovery⟩ ::
        ⟨.granting 400, .initiateRecovery (.account 8)⟩ :: hostileNoise ++
          [⟨.unsigned 606000, .executeRecovery⟩])
    final.recoveryAddress = some (.account 7) ∧ final.isPaused = true ∧
      final.admin = some [.account 8] ∧
      (commit (Settlement.step Settlement.sampleCodec) final
        ⟨.granting 606100, .unpause [.account 8]⟩).isPaused = false := by
  intro final
  have absent : (run (Settlement.step Settlement.sampleCodec)
      Settlement.State.initial hostilePast).pendingRecovery = none := by
    decide
  have unreplaced : ∀ input ∈ hostilePast,
      settlementUpgrades input.call = false := by
    decide
  have apart : ∀ input ∈ hostileNoise,
      (settlementRecoverable Settlement.sampleCodec).Apart input := by
    intro input listed
    simp only [hostileNoise, List.mem_cons, List.not_mem_nil, or_false]
      at listed
    rcases listed with rfl | rfl | rfl <;>
      exact Recoverable.apart_of_other rfl rfl
  have handed := (recovery_hands_over Settlement.sampleCodec).1 hostilePast
    hostileNoise ⟨.unsigned 300, .executeRecovery⟩
    ⟨.granting 400, .initiateRecovery (.account 8)⟩
    ⟨.unsigned 606000, .executeRecovery⟩
    ⟨.granting 606100, .unpause [.account 8]⟩ (.account 8) (.account 2)
    (fun _ _ _ ran => unreplaced _ (List.mem_of_getElem? ran.1))
    rfl rfl (by
      intro pending waiting
      have none : none = some pending := absent.symm.trans waiting
      cases none) rfl rfl (by decide)
    (Recoverable.undisturbed_of_apart apart)
    rfl (by decide) rfl rfl
  exact ⟨by decide, by decide, handed.1, handed.2.2.2⟩

end BettaPay.Protocol
