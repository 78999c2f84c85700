import BettaPay.Settlement.Inversion
import BettaPay.Settlement.Xdr

namespace BettaPay.Settlement

open BettaPay.Host
open BettaPay.Common

/-! The merchant registry: registrations, archive markers and rules. -/

/-- The operation a call carries out, directly or through the timelock. -/
def Call.operation : Call → Option Operation
  | .execute _ operation => some operation
  | call => call.administers.map Prod.snd

def Operation.isRegistry : Operation → Bool
  | .registerMerchant _ => true
  | .unregisterMerchant _ => true
  | .setSettlementRule _ _ => true
  | .clearSettlementRule _ => true
  | _ => false

/-- The tables of the registry. -/
structure Registry where
  merchant : Address → Bool
  archivedMerchant : Address → Bool
  rule : Address → Option SettlementRule

def State.registry (state : State) : Registry where
  merchant := state.merchant
  archivedMerchant := state.archivedMerchant
  rule := state.rule

namespace Registry

/-- What a committed call does to the registry. -/
inductive Step (before : Registry) : Option Operation → Registry → Prop where
  | register {merchant : Address} (nonzero : merchant ≠ zeroAddress)
      (fresh : before.merchant merchant = false) :
      Step before (some (.registerMerchant merchant))
        { before with
          merchant := Function.update before.merchant merchant true
          archivedMerchant :=
            Function.update before.archivedMerchant merchant false }
  | unregister {merchant : Address} :
      Step before (some (.unregisterMerchant merchant))
        { merchant := Function.update before.merchant merchant false
          archivedMerchant :=
            Function.update before.archivedMerchant merchant true
          rule := Function.update before.rule merchant none }
  | setRule {merchant : Address} {rule : SettlementRule}
      (registered : before.merchant merchant = true) :
      Step before (some (.setSettlementRule merchant rule))
        { before with
          rule := Function.update before.rule merchant (some rule) }
  | clearRule {merchant : Address} :
      Step before (some (.clearSettlementRule merchant))
        { before with rule := Function.update before.rule merchant none }
  | other {operation : Option Operation}
      (unrelated : operation.any Operation.isRegistry = false) :
      Step before operation before

/-- Rules belong to registered merchants, none of which is archived or
zero. -/
structure Sound (registry : Registry) : Prop where
  ruled : ∀ merchant rule, registry.rule merchant = some rule →
    registry.merchant merchant = true
  exclusive : ∀ merchant, registry.merchant merchant = true →
    registry.archivedMerchant merchant = false
  nonzero : registry.merchant zeroAddress = false

theorem Step.sound {before after : Registry}
    {operation : Option Operation} (stepped : Step before operation after)
    (sound : before.Sound) : after.Sound := by
  cases stepped with
  | @register merchant nonzero fresh =>
      constructor
      · intro other rule stored
        simp only [Function.update_apply]
        split
        · rfl
        · exact sound.ruled other rule stored
      · intro other present
        simp only [Function.update_apply] at present ⊢
        split
        · rfl
        · rename_i different
          rw [if_neg different] at present
          exact sound.exclusive other present
      · simp only [Function.update_of_ne nonzero.symm]
        exact sound.nonzero
  | @unregister merchant =>
      constructor
      · intro other rule stored
        simp only [Function.update_apply] at stored ⊢
        split at stored
        · cases stored
        · rename_i different
          rw [if_neg different]
          exact sound.ruled other rule stored
      · intro other present
        simp only [Function.update_apply] at present ⊢
        split at present
        · cases present
        · rename_i different
          rw [if_neg different]
          exact sound.exclusive other present
      · simp only [Function.update_apply]
        split
        · rfl
        · exact sound.nonzero
  | @setRule merchant rule registered =>
      refine ⟨?_, sound.exclusive, sound.nonzero⟩
      intro other found stored
      simp only [Function.update_apply] at stored
      split at stored
      · rename_i same
        rw [same]
        exact registered
      · exact sound.ruled other found stored
  | clearRule =>
      refine ⟨?_, sound.exclusive, sound.nonzero⟩
      intro other found stored
      exact sound.ruled other found (update_none_eq_some stored)
  | other unrelated => exact sound

/-- Only the setter puts a rule in place. -/
theorem Step.rule_set {before after : Registry}
    {operation : Option Operation} {merchant : Address}
    {rule : SettlementRule} (stepped : Step before operation after)
    (fresh : before.rule merchant ≠ some rule)
    (stored : after.rule merchant = some rule) :
    operation = some (.setSettlementRule merchant rule) := by
  cases stepped with
  | @setRule subject set _ =>
      simp only [Function.update_apply] at stored
      split at stored
      · rename_i same
        cases stored
        rw [same]
      · exact absurd stored fresh
  | unregister => exact absurd (update_none_eq_some stored) fresh
  | clearRule => exact absurd (update_none_eq_some stored) fresh
  | register => exact absurd stored fresh
  | other => exact absurd stored fresh

/-- Only a clearance or the end of the registration takes a rule away. -/
theorem Step.rule_removed {before after : Registry}
    {operation : Option Operation} {merchant : Address}
    {rule : SettlementRule} (stepped : Step before operation after)
    (stored : before.rule merchant = some rule)
    (gone : after.rule merchant = none) :
    operation = some (.unregisterMerchant merchant) ∨
      operation = some (.clearSettlementRule merchant) := by
  cases stepped with
  | @unregister owner =>
      simp only [Function.update_apply] at gone
      split at gone
      · rename_i same
        exact .inl (by rw [same])
      · cases stored.symm.trans gone
  | @setRule owner set _ =>
      simp only [Function.update_apply] at gone
      split at gone
      · cases gone
      · cases stored.symm.trans gone
  | @clearRule owner =>
      simp only [Function.update_apply] at gone
      split at gone
      · rename_i same
        exact .inr (by rw [same])
      · cases stored.symm.trans gone
  | register => cases stored.symm.trans gone
  | other => cases stored.symm.trans gone

end Registry

theorem Applied.registryStep {env : Env} {state after : State}
    {actor : Address} {operation : Operation}
    (applied : Applied env state actor operation after) :
    Registry.Step state.registry (some operation) after.registry := by
  cases applied with
  | registerMerchant nonzero _ _ fresh => exact .register nonzero fresh
  | unregisterMerchant => exact .unregister
  | setSettlementRule _ registered => exact .setRule registered
  | clearSettlementRule => exact .clearRule
  | _ => exact .other rfl

theorem Call.operation_of_administers {call : Call}
    {signers : List Address} {operation : Operation}
    (direct : call.administers = some (signers, operation)) :
    call.operation = some operation := by
  cases call <;> cases direct <;> rfl

theorem Call.operation_of_isQuery {call : Call}
    (reads : call.isQuery = true) : call.operation = none := by
  cases call <;> first | rfl | cases reads

theorem Effect.registryStep {codec : Codec} {env : Env}
    {state after : State} {call : Call}
    (effect : Effect codec env state call after) :
    Registry.Step state.registry call.operation after.registry := by
  cases effect with
  | execute queued unpaused matured unvetoed applied =>
      exact applied.registryStep
  | cancelAll quorum unpaused bounded drained =>
      obtain ⟨slots, counter, rfl⟩ := drained.unchanged
      exact .other rfl
  | administer direct quorum unpaused agreed prepared applied =>
      subst prepared
      rw [Call.operation_of_administers direct]
      exact applied.registryStep
  | prunePayments quorum bounded pruned counted =>
      have table := pruned.table
      subst table
      exact .other rfl
  | query reads refreshed =>
      rw [Call.operation_of_isQuery reads]
      exact .other rfl
  | _ => exact .other rfl

/-! The registry along a run. -/

/-- The operation that the call at `index` carried out. -/
def performed (codec : Codec) (inputs : List Input) (index : Nat) :
    Option Operation :=
  match inputs[index]? with
  | none => none
  | some input =>
      match step codec input (stateBefore codec inputs index) with
      | .ok _ => input.call.operation
      | .error _ => none

section Runs

variable {codec : Codec} {inputs : List Input}

theorem performed_registryStep (index : Nat) :
    Registry.Step (stateBefore codec inputs index).registry
      (performed codec inputs index)
      (stateBefore codec inputs (index + 1)).registry := by
  cases here : inputs[index]? with
  | none =>
      have same : stateBefore codec inputs (index + 1) =
          stateBefore codec inputs index :=
        stateAt_succ_of_none here
      simp only [performed, here, same]
      exact .other rfl
  | some input =>
      have next : stateBefore codec inputs (index + 1) =
          commit (step codec) (stateBefore codec inputs index) input :=
        stateAt_succ here
      cases attempt : step codec input
          (stateBefore codec inputs index) with
      | ok outcome =>
          rcases outcome with ⟨reply, after⟩
          simp only [performed, here, attempt]
          rw [next, commit_of_ok attempt]
          exact (invoke_effect attempt).registryStep
      | error failure =>
          simp only [performed, here, attempt]
          rw [next, commit_of_error attempt]
          exact .other rfl

theorem registry_sound (index : Nat) :
    (stateBefore codec inputs index).registry.Sound := by
  induction index with
  | zero => exact ⟨by simp [State.registry, State.initial],
      by simp [State.registry, State.initial], rfl⟩
  | succ index induction =>
      exact (performed_registryStep index).sound induction

/-- The merchant was unregistered before `index` and not registered
since. -/
def UnregisteredSince (codec : Codec) (inputs : List Input) (index : Nat)
    (merchant : Address) : Prop :=
  ∃ earlier, earlier < index ∧
    performed codec inputs earlier = some (.unregisterMerchant merchant) ∧
    ∀ later, earlier < later → later < index →
      performed codec inputs later ≠ some (.registerMerchant merchant)

theorem unregisteredSince_of_unregistered {index : Nat}
    {merchant : Address}
    (here : performed codec inputs index =
      some (.unregisterMerchant merchant)) :
    UnregisteredSince codec inputs (index + 1) merchant := by
  refine ⟨index, by omega, here, ?_⟩
  intro later after before
  omega

theorem not_unregisteredSince_of_registered {index : Nat}
    {merchant : Address}
    (here : performed codec inputs index =
      some (.registerMerchant merchant)) :
    ¬ UnregisteredSince codec inputs (index + 1) merchant := by
  intro given
  obtain ⟨earlier, before, there, since⟩ := given
  rcases Nat.lt_succ_iff_lt_or_eq.mp before with strict | rfl
  · exact since index strict (by omega) here
  · rw [there] at here
    cases here

theorem unregisteredSince_succ {index : Nat} {merchant : Address}
    (unregistered : performed codec inputs index ≠
      some (.unregisterMerchant merchant))
    (registered : performed codec inputs index ≠
      some (.registerMerchant merchant)) :
    UnregisteredSince codec inputs (index + 1) merchant ↔
      UnregisteredSince codec inputs index merchant := by
  constructor
  · intro given
    obtain ⟨earlier, before, there, since⟩ := given
    have different : earlier ≠ index := by
      intro same
      exact unregistered (same ▸ there)
    refine ⟨earlier, by omega, there, ?_⟩
    intro later after bound
    exact since later after (by omega)
  · intro given
    obtain ⟨earlier, before, there, since⟩ := given
    refine ⟨earlier, by omega, there, ?_⟩
    intro later after bound
    rcases Nat.lt_succ_iff_lt_or_eq.mp bound with strict | rfl
    · exact since later after strict
    · exact registered

theorem archived_iff_unregisteredSince (index : Nat)
    (merchant : Address) :
    (stateBefore codec inputs index).registry.archivedMerchant merchant =
        true ↔
      UnregisteredSince codec inputs index merchant := by
  induction index with
  | zero =>
      constructor
      · intro archived
        cases archived
      · intro given
        obtain ⟨_, before, _⟩ := given
        omega
  | succ index induction =>
      have stepped := @performed_registryStep codec inputs index
      generalize performing : performed codec inputs index = operation
        at stepped
      generalize (stateBefore codec inputs (index + 1)).registry = after
        at stepped ⊢
      cases stepped with
      | @register subject =>
          simp only [Function.update_apply]
          split
          · rename_i same
            subst same
            simp [not_unregisteredSince_of_registered performing]
          · rename_i different
            rw [induction, unregisteredSince_succ]
            · simp [performing]
            · simpa [performing] using Ne.symm different
      | @unregister subject =>
          simp only [Function.update_apply]
          split
          · rename_i same
            subst same
            simp [unregisteredSince_of_unregistered performing]
          · rename_i different
            rw [induction, unregisteredSince_succ]
            · simpa [performing] using Ne.symm different
            · simp [performing]
      | setRule =>
          rw [induction, unregisteredSince_succ] <;> simp [performing]
      | clearRule =>
          rw [induction, unregisteredSince_succ] <;> simp [performing]
      | other unrelated =>
          rw [induction, unregisteredSince_succ] <;>
            · intro same
              rw [performing] at same
              subst same
              cases unrelated

/-- A merchant has no rule when it is registered. -/
theorem unruled_at_registration {registration : Nat} {merchant : Address}
    (registered : performed codec inputs registration =
      some (.registerMerchant merchant)) (rule : SettlementRule) :
    (stateBefore codec inputs (registration + 1)).registry.rule merchant ≠
      some rule := by
  have sound := @registry_sound codec inputs registration
  have stepped := @performed_registryStep codec inputs registration
  rw [registered] at stepped
  generalize (stateBefore codec inputs (registration + 1)).registry = after
    at stepped ⊢
  cases stepped with
  | register _ fresh =>
      intro found
      rw [sound.ruled _ _ found] at fresh
      cases fresh
  | other unrelated => cases unrelated

/-- A rule that a merchant has after its registration was set since. -/
theorem rule_set_since {registration index : Nat} {merchant : Address}
    {rule : SettlementRule}
    (registered : performed codec inputs registration =
      some (.registerMerchant merchant))
    (later : registration < index)
    (stored : (stateBefore codec inputs index).registry.rule merchant =
      some rule) :
    ∃ setting, registration < setting ∧ setting < index ∧
      performed codec inputs setting =
        some (.setSettlementRule merchant rule) := by
  obtain ⟨distance, rfl⟩ := Nat.exists_eq_add_of_lt later
  obtain ⟨onset, before, fails, since⟩ := @exists_onset_nat
    (fun offset => (stateBefore codec inputs
      (registration + 1 + offset)).registry.rule merchant = some rule)
    distance (unruled_at_registration registered rule)
    (by rwa [Nat.add_right_comm])
  have holds := since (onset + 1) (by omega) (by omega)
  exact ⟨registration + 1 + onset, by omega, by omega,
    (performed_registryStep _).rule_set fails holds⟩

end Runs

/-- The registry just before the call at `index`. -/
structure RegistryFaithful (codec : Codec) (inputs : List Input)
    (index : Nat) : Prop where
  ruled : ∀ merchant rule,
    (stateBefore codec inputs index).rule merchant = some rule →
      (stateBefore codec inputs index).merchant merchant = true
  exclusive : ∀ merchant,
    ¬ ((stateBefore codec inputs index).merchant merchant = true ∧
      (stateBefore codec inputs index).archivedMerchant merchant = true)
  archived : ∀ merchant,
    (stateBefore codec inputs index).archivedMerchant merchant = true ↔
      UnregisteredSince codec inputs index merchant
  nonzero : (stateBefore codec inputs index).merchant zeroAddress = false
  reset : ∀ merchant rule unregistration registration,
    performed codec inputs unregistration =
        some (.unregisterMerchant merchant) →
      performed codec inputs registration =
        some (.registerMerchant merchant) →
      unregistration < registration → registration < index →
      (stateBefore codec inputs index).rule merchant = some rule →
      ∃ setting, registration < setting ∧ setting < index ∧
        performed codec inputs setting =
          some (.setSettlementRule merchant rule)
  refused : ∀ merchant rule,
    (stateBefore codec inputs index).merchant merchant = false →
      (stateBefore codec inputs index).rule merchant = none ∧
      performed codec inputs index ≠
        some (.setSettlementRule merchant rule)

/-- In every run, at every position: only registered merchants have rules, none
is archived, and the zero address is not among them; a merchant is archived
exactly when it was unregistered since its last registration; a merchant that
was unregistered and registered again has no rule but one set after that; and no
rule is set, by a queued operation or otherwise, while its merchant is
unregistered. -/
theorem registry_faithful (codec : Codec) (inputs : List Input)
    (index : Nat) : RegistryFaithful codec inputs index := by
  have sound := @registry_sound codec inputs index
  refine ⟨sound.ruled, ?_, archived_iff_unregisteredSince index,
    sound.nonzero, ?_, ?_⟩
  · intro merchant given
    obtain ⟨registered, archived⟩ := given
    have unarchived := sound.exclusive merchant registered
    cases archived.symm.trans unarchived
  · intro merchant rule unregistration registration _ registered _ later
      stored
    exact rule_set_since registered later stored
  · intro merchant rule absent
    constructor
    · apply Option.eq_none_iff_forall_ne_some.mpr
      intro found stored
      have present := sound.ruled merchant found stored
      cases absent.symm.trans present
    · intro set
      have stepped := @performed_registryStep codec inputs index
      rw [set] at stepped
      generalize (stateBefore codec inputs (index + 1)).registry = after
        at stepped
      cases stepped with
      | setRule present => cases absent.symm.trans present
      | other unrelated => cases unrelated

end BettaPay.Settlement
