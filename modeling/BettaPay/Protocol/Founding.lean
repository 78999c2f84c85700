import BettaPay.Host.Founding
import BettaPay.Settlement.Control
import BettaPay.Settlement.Renewal
import BettaPay.Settlement.Xdr
import BettaPay.Governance.Effect

namespace BettaPay.Protocol

open BettaPay.Host
open BettaPay.Common

/-! Both contracts are set up once. -/

def settlementFounder : Settlement.Call → Option Address
  | .init deployer _ _ _ _ => some deployer
  | _ => none

/-- A query of a fresh contract finds nothing whose lifetime it renews. -/
theorem renews_initial {codec : Settlement.Codec} {call : Settlement.Call}
    (reads : call.isQuery = true) :
    call.renews codec Settlement.State.initial = [] := by
  cases call with
  | getPaymentReference | getPayments =>
      simp [Settlement.Call.renews, Settlement.State.paymentKeys,
        Settlement.State.initial]
  | getSettlementRule => rfl
  | _ =>
      first
      | rfl
      | cases reads

/-- On a fresh contract only `init` and the queries commit. -/
theorem settlement_waits {codec : Settlement.Codec} {env : Settlement.Env}
    {call : Settlement.Call} {after : Settlement.State}
    {reply : Settlement.Reply} (other : settlementFounder call = none)
    (succeeded : Settlement.invoke codec env call Settlement.State.initial =
      .ok (reply, after)) :
    call.isQuery = true ∧ after = Settlement.State.initial := by
  have unsigned : ∀ {signers : List Address},
      ¬ Settlement.State.initial.authority.Quorum env.toLedger signers := by
    intro signers quorum
    have initialized := quorum.initialized
    cases initialized
  have lives := Settlement.invoke_renews succeeded
  cases Settlement.invoke_effect succeeded with
  | init => cases other
  | initiateRecovery stored => cases stored
  | cancelRecovery stored => cases stored
  | updateRecoveryAddress quorum => exact absurd quorum unsigned
  | executeRecovery stored => cases stored
  | changeThreshold stored => cases stored
  | pause quorum => exact absurd quorum unsigned
  | unpause quorum => exact absurd quorum unsigned
  | migrate quorum => exact absurd quorum unsigned
  | schedule quorum => exact absurd quorum unsigned
  | execute queued => cases queued.1
  | cancel quorum => exact absurd quorum unsigned
  | cancelAll quorum => exact absurd quorum unsigned
  | administer direct quorum => exact absurd quorum unsigned
  | storePaymentReference nonzero unpaused authorized registered =>
      cases registered
  | prunePayment quorum => exact absurd quorum unsigned
  | pruneNothing quorum => exact absurd quorum unsigned
  | prunePayments quorum => exact absurd quorum unsigned
  | query reads refreshed =>
      have kept := refreshed.unconfigured rfl
      rw [renews_initial reads, Settlement.State.renewed_nil] at lives
      subst kept
      cases lives
      exact ⟨reads, rfl⟩

theorem applied_keeps_deployer {env : Settlement.Env}
    {before after : Settlement.State} {actor : Address}
    {operation : Settlement.Operation}
    (applied : Settlement.Applied env before actor operation after) :
    after.deployer = before.deployer := by
  cases applied <;> rfl

theorem settlement_keeps_deployer {codec : Settlement.Codec}
    {env : Settlement.Env} {call : Settlement.Call}
    {before after : Settlement.State}
    (effect : Settlement.Effect codec env before call after)
    (initialized : before.admin.isSome) :
    after.deployer = before.deployer := by
  cases effect with
  | init uninitialized => simp [uninitialized] at initialized
  | execute queued unpaused matured unvetoed applied =>
      have kept := applied_keeps_deployer applied
      exact kept
  | cancelAll quorum unpaused bounded drained =>
      obtain ⟨slots, counter, rfl⟩ := drained.unchanged
      rfl
  | administer direct quorum unpaused agreed prepared applied =>
      subst prepared
      have kept := applied_keeps_deployer applied
      exact kept
  | prunePayments quorum bounded pruned counted =>
      have table := pruned.table
      subst table
      rfl
  | _ => rfl

/-- The settlement contract and its `init`. -/
def settlementFoundable (codec : Settlement.Codec) :
    Foundable Settlement.State (Failure Settlement.SettlementError)
      Settlement.Input Settlement.Reply Address where
  step := Settlement.step codec
  start := Settlement.State.initial
  founder := fun input => settlementFounder input.call
  signs := fun input deployer => input.env.auths deployer
  reads := fun input => input.call.isQuery
  Blank := fun state => state = Settlement.State.initial
  Alive := fun state => state.admin.isSome = true
  recorded := Settlement.State.deployer
  blank := rfl
  founding := by
    intro input before after reply who named succeeded
    obtain ⟨env, call⟩ := input
    have effect := Settlement.invoke_effect succeeded
    cases call with
    | init =>
        cases named
        cases effect with
        | init uninitialized deployed =>
            exact ⟨deployed, by simp [uninitialized], rfl, rfl⟩
        | administer direct => cases direct
        | query reads => cases reads
    | _ => cases named
  waiting := by
    intro input before after reply other blank succeeded
    subst blank
    exact settlement_waits other succeeded
  lasting := fun alive succeeded =>
    ⟨((Settlement.machine codec).refines succeeded).initialized alive,
      settlement_keeps_deployer (Settlement.invoke_effect succeeded) alive⟩

def governanceFounder : Governance.Call → Option Address
  | .init deployer _ _ _ => some deployer
  | _ => none

theorem governance_waits {ledger : Ledger} {call : Governance.Call}
    {after : Governance.State}
    (effect : Governance.Effect ledger Governance.State.initial call after)
    (other : governanceFounder call = none) :
    call.isQuery = true ∧ after = Governance.State.initial := by
  have unsigned : ∀ {signers : List Address},
      ¬ Governance.State.initial.authority.Quorum ledger signers := by
    intro signers quorum
    have initialized := quorum.initialized
    cases initialized
  cases effect with
  | init => cases other
  | updateRecoveryAddress quorum => exact absurd quorum unsigned
  | upgrade quorum => exact absurd quorum unsigned
  | initiateRecovery stored => cases stored
  | cancelRecovery stored => cases stored
  | executeRecovery stored => cases stored
  | transferAdmin quorum => exact absurd quorum unsigned
  | changeThreshold stored => cases stored
  | pause quorum => exact absurd quorum unsigned
  | unpause quorum => exact absurd quorum unsigned
  | migrate unpaused quorum => exact absurd quorum unsigned
  | updateSystemParam unpaused quorum => exact absurd quorum unsigned
  | setFeeConfig unpaused quorum => exact absurd quorum unsigned
  | upsertAnchor unpaused quorum => exact absurd quorum unsigned
  | removeAnchor unpaused quorum => exact absurd quorum unsigned
  | query reads => exact ⟨reads, rfl⟩

/-- The governance contract and its `init`. -/
def governanceFoundable : Foundable Governance.State
    (Failure Governance.GovernanceError) Governance.Input Governance.Reply
    Address where
  step := Governance.step
  start := Governance.State.initial
  founder := fun input => governanceFounder input.call
  signs := fun input deployer => input.env.auths deployer
  reads := fun input => input.call.isQuery
  Blank := fun state => state = Governance.State.initial
  Alive := fun state => state.admin.isSome = true
  recorded := Governance.State.deployer
  blank := rfl
  founding := by
    intro input before after reply who named succeeded
    obtain ⟨env, call⟩ := input
    have effect := Governance.invoke_effect succeeded
    cases call with
    | init =>
        cases named
        cases effect with
        | init uninitialized deployed =>
            exact ⟨deployed, by simp [uninitialized], rfl, rfl⟩
        | query reads => cases reads
    | _ => cases named
  waiting := by
    intro input before after reply other blank succeeded
    subst blank
    exact governance_waits (Governance.invoke_effect succeeded) other
  lasting := by
    intro input before after reply alive succeeded
    obtain ⟨env, call⟩ := input
    refine ⟨(Governance.machine.refines succeeded).initialized alive, ?_⟩
    cases Governance.invoke_effect succeeded with
    | init uninitialized => simp [uninitialized] at alive
    | _ => rfl

/-- In every run of either contract, at most one `init` commits. Until it
does, nothing but queries commits and nothing is stored or published; from
then on the contract has admins, and its deployer is the one who signed that
`init`. -/
theorem contracts_set_up_once (codec : Settlement.Codec)
    (settlementInputs : List Settlement.Input)
    (governanceInputs : List Governance.Input) :
    (settlementFoundable codec).SetUpOnce settlementInputs ∧
      governanceFoundable.SetUpOnce governanceInputs :=
  ⟨Foundable.setUpOnce _ _, Foundable.setUpOnce _ _⟩

end BettaPay.Protocol
