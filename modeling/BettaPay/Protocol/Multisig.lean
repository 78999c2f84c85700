import BettaPay.Settlement.Unwrap
import BettaPay.Settlement.Xdr
import BettaPay.Governance.Unwrap

namespace BettaPay.Protocol

open BettaPay.Host
open BettaPay.Common

/-! The multisig configuration of both contracts. -/

/-- The stored admin set is usable. -/
def Configured (authority : Authority) : Prop :=
  ∃ admins threshold, authority.admin = some admins ∧
    authority.threshold = some threshold ∧ admins ≠ [] ∧
    ValidAdmins admins threshold

theorem configured_of_sound {authority : Authority}
    (sound : authority.Sound) (initialized : authority.admin.isSome) :
    Configured authority := by
  obtain ⟨admins, stored⟩ := Option.isSome_iff_exists.mp initialized
  obtain ⟨threshold, required, valid⟩ := sound.configured admins stored
  exact ⟨admins, threshold, stored, required, valid.nonempty, valid⟩

theorem configured_after {σ ε ι ο : Type}
    {machine : Controlled σ ε ι ο} {inputs : List ι} {index later : Nat}
    (initialized : (machine.authorityAt inputs (index + 1)).admin.isSome)
    (after : index < later) :
    Configured (machine.authorityAt inputs later) :=
  configured_of_sound (Controlled.sound_at later)
    (Controlled.initialized_after after initialized)

/-- After a successful `init`, however the run goes on, both contracts keep a
nonempty, duplicate-free admin vector without the zero address and a threshold
between one and its length; and no call of either, on any reachable state,
ends in a failed `unwrap` of its first signer. -/
theorem multisig_never_degenerates (codec : Settlement.Codec) :
    (∀ (inputs : List Settlement.Input) (index later : Nat) (env reply)
        (deployer : Address) (admins : List Address) (threshold : UInt32)
        (governance recoveryAddress : Address),
      Succeeds (Settlement.step codec) Settlement.State.initial inputs index
        ⟨env, .init deployer admins threshold governance recoveryAddress⟩
        reply →
      index < later →
      Configured (stateAt (Settlement.step codec) Settlement.State.initial
        inputs later).authority) ∧
    (∀ (inputs : List Governance.Input) (index later : Nat) (env reply)
        (deployer : Address) (admins : List Address) (threshold : UInt32)
        (recoveryAddress : Address),
      Succeeds Governance.step Governance.State.initial inputs index
        ⟨env, .init deployer admins threshold recoveryAddress⟩ reply →
      index < later →
      Configured (stateAt Governance.step Governance.State.initial inputs
        later).authority) ∧
    (∀ state, Settlement.Reachable codec state → ∀ env call,
      Settlement.invoke codec env call state ≠ .error .unwrapNone) ∧
    (∀ state, Governance.Reachable state → ∀ env call,
      Governance.invoke env call state ≠ .error .unwrapNone) := by
  refine ⟨?_, ?_, ?_, ?_⟩
  · intro inputs index later env reply deployer admins threshold governance
      recoveryAddress succeeded after
    exact @configured_after _ _ _ _ (Settlement.machine codec) _ _ _
      (Settlement.init_initializes succeeded.2) after
  · intro inputs index later env reply deployer admins threshold
      recoveryAddress succeeded after
    exact @configured_after _ _ _ _ Governance.machine _ _ _
      (Governance.init_initializes succeeded.2) after
  · intro state reachable env call
    exact Settlement.invoke_avoids reachable.sound call
  · intro state reachable env call
    exact Governance.invoke_avoids reachable.sound call

theorem multisig_never_degenerates_sample :
    Configured (stateAt (Settlement.step Settlement.sampleCodec)
      Settlement.State.initial
      [⟨.granting 0, .init (.account 9) [.account 1] 1 (.contract 5)
          (.account 2)⟩,
        ⟨.granting 100, .initiateRecovery (.account 4)⟩,
        ⟨.granting 605000, .executeRecovery⟩] 3).authority := by
  have initialized : Settlement.Commits Settlement.sampleCodec
      [⟨.granting 0, .init (.account 9) [.account 1] 1 (.contract 5)
          (.account 2)⟩,
        ⟨.granting 100, .initiateRecovery (.account 4)⟩,
        ⟨.granting 605000, .executeRecovery⟩] 0 (.granting 0)
      (.init (.account 9) [.account 1] 1 (.contract 5) (.account 2)) :=
    Settlement.commits_of_accepted rfl (by decide)
  obtain ⟨reply, succeeded⟩ := initialized
  exact (multisig_never_degenerates Settlement.sampleCodec).1 _ 0 3 _ reply
    _ _ _ _ _ succeeded (by decide)

end BettaPay.Protocol
