import BettaPay.Settlement.Inversion
import BettaPay.Settlement.Xdr

namespace BettaPay.Settlement

open BettaPay.Host
open BettaPay.Common

/-! Admins and merchants. -/

/-- No admin is a registered merchant. -/
def Exclusive (state : State) : Prop :=
  ∀ admins address, state.admin = some admins → address ∈ admins →
    state.merchant address = false

/-- What a committed call does to the admin set and the merchant registry. -/
inductive RoleStep (before after : State) : Call → Prop where
  | establish {call : Call} (uninitialized : before.admin = none)
      (registry : after.merchant = before.merchant) :
      RoleStep before after call
  | recover {pending : PendingRecovery}
      (stored : before.pendingRecovery = some pending)
      (installed : after.admin = some [pending.newAdmin])
      (registry : after.merchant = before.merchant) :
      RoleStep before after .executeRecovery
  | transfer {call : Call} {newAdmins : List Address}
      (initialized : before.admin.isSome)
      (separate : ∀ admin, admin ∈ newAdmins →
        before.merchant admin = false)
      (installed : after.admin = some newAdmins)
      (registry : after.merchant = before.merchant) :
      RoleStep before after call
  | register {call : Call} {merchant : Address} {admins : List Address}
      (stored : before.admin = some admins) (separate : merchant ∉ admins)
      (admin : after.admin = before.admin)
      (registry : after.merchant =
        Function.update before.merchant merchant true) :
      RoleStep before after call
  | unregister {call : Call} {merchant : Address}
      (admin : after.admin = before.admin)
      (registry : after.merchant =
        Function.update before.merchant merchant false) :
      RoleStep before after call
  | other {call : Call} (admin : after.admin = before.admin)
      (registry : after.merchant = before.merchant) :
      RoleStep before after call

theorem Applied.roleStep {env : Env} {state after : State}
    {actor : Address} {operation : Operation} {call : Call}
    (applied : Applied env state actor operation after) :
    RoleStep state after call := by
  cases applied with
  | transferAdmin stored valid separate =>
      exact .transfer (by rw [stored]; rfl) separate rfl rfl
  | registerMerchant nonzero stored separate fresh =>
      exact .register stored separate rfl rfl
  | unregisterMerchant => exact .unregister rfl rfl
  | _ => exact .other rfl rfl

theorem RoleStep.congr {before after middle final : State} {call : Call}
    (stepped : RoleStep middle after call)
    (recovery : middle.pendingRecovery = before.pendingRecovery)
    (admin : middle.admin = before.admin)
    (registry : middle.merchant = before.merchant)
    (admin' : final.admin = after.admin)
    (registry' : final.merchant = after.merchant) :
    RoleStep before final call := by
  cases stepped with
  | establish uninitialized kept =>
      exact .establish (by rw [← admin, uninitialized])
        (by rw [registry', kept, registry])
  | recover stored installed kept =>
      exact .recover (by rw [← recovery, stored])
        (by rw [admin', installed]) (by rw [registry', kept, registry])
  | transfer initialized separate installed kept =>
      exact .transfer (by rw [← admin]; exact initialized)
        (by rw [← registry]; exact separate) (by rw [admin', installed])
        (by rw [registry', kept, registry])
  | register stored separate same added =>
      exact .register (by rw [← admin, stored]) separate
        (by rw [admin', same, admin]) (by rw [registry', added, registry])
  | unregister same removed =>
      exact .unregister (by rw [admin', same, admin])
        (by rw [registry', removed, registry])
  | other same kept =>
      exact .other (by rw [admin', same, admin])
        (by rw [registry', kept, registry])

theorem Effect.roleStep {codec : Codec} {env : Env} {state after : State}
    {call : Call} (effect : Effect codec env state call after) :
    RoleStep state after call := by
  cases effect with
  | init uninitialized => exact .establish uninitialized rfl
  | executeRecovery stored => exact .recover stored rfl rfl
  | execute queued unpaused matured unvetoed applied =>
      exact applied.roleStep.congr rfl rfl rfl rfl rfl
  | cancelAll quorum unpaused bounded drained =>
      obtain ⟨slots, counter, rfl⟩ := drained.unchanged
      exact .other rfl rfl
  | administer direct quorum unpaused agreed prepared applied =>
      subst prepared
      exact applied.roleStep.congr rfl rfl rfl rfl rfl
  | prunePayments quorum bounded pruned counted =>
      have table := pruned.table
      subst table
      exact .other rfl rfl
  | _ => exact .other rfl rfl

/-- Before `init` nobody is registered; after it no admin is. -/
structure Separated (state : State) : Prop where
  unmanaged : state.admin = none → ∀ address,
    state.merchant address = false
  exclusive : Exclusive state

theorem Separated.initial : Separated State.initial where
  unmanaged := fun _ _ => rfl
  exclusive := fun _ _ stored => by cases stored

/-- Only the completion of a recovery can put a merchant among the admins. -/
theorem RoleStep.separated {before after : State} {call : Call}
    (stepped : RoleStep before after call) (separated : Separated before)
    (safe : call = .executeRecovery → ∀ pending,
      before.pendingRecovery = some pending →
      before.merchant pending.newAdmin = false) : Separated after := by
  cases stepped with
  | establish uninitialized registry =>
      have empty := separated.unmanaged uninitialized
      constructor
      · intro _ address
        rw [registry, empty]
      · intro _ address _ _
        rw [registry, empty]
  | recover stored installed registry =>
      constructor
      · intro blank
        rw [installed] at blank
        cases blank
      · intro admins address same member
        rw [installed] at same
        cases same
        rw [registry, List.mem_singleton.mp member]
        exact safe rfl _ stored
  | transfer initialized separate installed registry =>
      constructor
      · intro blank
        rw [installed] at blank
        cases blank
      · intro admins address same member
        rw [installed] at same
        cases same
        rw [registry]
        exact separate address member
  | @register _ merchant _ stored separate admin registry =>
      constructor
      · intro blank
        rw [admin, stored] at blank
        cases blank
      · intro admins address same member
        rw [admin, stored] at same
        cases same
        have different : address ≠ merchant := by
          intro same
          subst same
          exact separate member
        rw [registry, Function.update_of_ne different]
        exact separated.exclusive _ address stored member
  | @unregister _ merchant admin registry =>
      constructor
      · intro blank address
        rw [registry, Function.update_apply]
        split
        · rfl
        · exact separated.unmanaged (by rw [← admin, blank]) address
      · intro admins address same member
        rw [registry, Function.update_apply]
        split
        · rfl
        · exact separated.exclusive admins address (by rw [← admin, same])
            member
  | other admin registry =>
      constructor
      · intro blank
        rw [registry]
        exact separated.unmanaged (by rw [← admin, blank])
      · intro admins address same
        rw [registry]
        exact separated.exclusive admins address (by rw [← admin, same])

theorem executeRecovery_installs {codec : Codec} {inputs : List Input}
    {index : Nat} {env : Env} {pending : PendingRecovery}
    (committed : Commits codec inputs index env .executeRecovery)
    (stored : (stateBefore codec inputs index).pendingRecovery =
      some pending) :
    (stateBefore codec inputs (index + 1)).admin = some [pending.newAdmin] ∧
      (stateBefore codec inputs (index + 1)).merchant =
        (stateBefore codec inputs index).merchant := by
  obtain ⟨reply, succeeded⟩ := committed
  have effect := invoke_effect succeeded.2
  unfold stateBefore at stored ⊢
  generalize stateAt (step codec) State.initial inputs (index + 1) = after
    at effect ⊢
  cases effect with
  | executeRecovery found =>
      cases stored.symm.trans found
      exact ⟨rfl, rfl⟩
  | administer direct => cases direct
  | query reads => cases reads

/-- Throughout a run no admin is a registered merchant, if and only if no
recovery of the run completes while its target is registered. -/
theorem exclusive_iff_recoveries_unregistered (codec : Codec)
    (inputs : List Input) :
    (∀ index, Exclusive (stateBefore codec inputs index)) ↔
      ∀ index env pending,
        Commits codec inputs index env .executeRecovery →
        (stateBefore codec inputs index).pendingRecovery = some pending →
        (stateBefore codec inputs index).merchant pending.newAdmin =
          false := by
  constructor
  · intro exclusive index env pending committed stored
    obtain ⟨installed, registry⟩ := executeRecovery_installs committed stored
    rw [← registry]
    exact exclusive (index + 1) _ _ installed (List.mem_singleton_self _)
  · intro safe index
    suffices separated : Separated (stateBefore codec inputs index) from
      separated.exclusive
    refine stateAt_kept Separated (Nat.zero_le index) ?_
      (by rw [stateAt_zero]; exact Separated.initial)
    intro position input reply _ _ succeeded separated
    refine (invoke_effect succeeded.2).roleStep.separated separated ?_
    intro recovers pending stored
    rcases input with ⟨env, call⟩
    cases recovers
    exact safe position env pending ⟨reply, succeeded⟩ stored

/-- The target of a recovery is registered as a merchant first. -/
def sampleMerchantRecoveryRun : List Input :=
  [⟨.granting 0, .init (.account 9) [.account 1] 1 (.contract 5)
      (.account 2)⟩,
    ⟨.granting 100, .registerMerchant [.account 1] (.account 6)⟩,
    ⟨.granting 200, .initiateRecovery (.account 6)⟩,
    ⟨.granting 605000, .executeRecovery⟩]

theorem exclusive_fails_after_recovery :
    ¬ ∀ state, Reachable sampleCodec state → Exclusive state := by
  intro exclusive
  have registered := exclusive _ ⟨sampleMerchantRecoveryRun, rfl⟩
    [.account 6] (.account 6) (by decide) (by decide)
  exact absurd registered (by decide)

end BettaPay.Settlement
