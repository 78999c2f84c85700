import BettaPay.Common.Authority

namespace BettaPay.Common

open BettaPay.Host

/-- A contract seen as a machine that moves an authority. -/
structure Controlled (σ ε ι ο : Type) where
  step : ι → Tx σ ε ο
  start : σ
  ledger : ι → Ledger
  action : ι → Authority.Action
  authority : σ → Authority
  blank : authority start = ⟨none, none, none, none⟩
  refines : ∀ {input before reply after},
    step input before = .ok (reply, after) →
      Authority.Step (ledger input) (authority before) (action input)
        (authority after)

namespace Controlled

variable {σ ε ι ο : Type} (machine : Controlled σ ε ι ο) (inputs : List ι)

/-- The authority just before the call at position `index`. -/
def authorityAt (index : Nat) : Authority :=
  machine.authority (stateAt machine.step machine.start inputs index)

/-- The call at position `index` commits and asks for `action`. -/
def Commits (index : Nat) (input : ι) (action : Authority.Action) : Prop :=
  machine.action input = action ∧
    ∃ reply, Succeeds machine.step machine.start inputs index input reply

variable {machine inputs}

theorem Commits.stepped {index : Nat} {input : ι}
    {action : Authority.Action}
    (committed : machine.Commits inputs index input action) :
    Authority.Step (machine.ledger input) (machine.authorityAt inputs index)
      action (machine.authorityAt inputs (index + 1)) := by
  obtain ⟨rfl, reply, succeeded⟩ := committed
  exact machine.refines succeeded.2

theorem sound_initially : (machine.authority machine.start).Sound := by
  rw [machine.blank]
  exact ⟨by simp, by simp, by simp⟩

theorem sound_run : (machine.authority
    (run machine.step machine.start inputs)).Sound :=
  run_invariant (fun state => (machine.authority state).Sound)
    (fun sound succeeded => (machine.refines succeeded).sound sound)
    sound_initially inputs

theorem sound_at (index : Nat) :
    (machine.authorityAt inputs index).Sound :=
  sound_run

theorem initialized_after {first last : Nat} (ordered : first ≤ last)
    (initialized : (machine.authorityAt inputs first).admin.isSome) :
    (machine.authorityAt inputs last).admin.isSome :=
  stateAt_kept (fun state => (machine.authority state).admin.isSome) ordered
    (fun _ _ _ _ _ succeeded present =>
      (machine.refines succeeded.2).initialized present)
    initialized

/-- The recovery that the call at `execution` completes was begun by the call
at `initiation`, and nothing touched it in between. -/
structure CompletedFrom (machine : Controlled σ ε ι ο) (inputs : List ι)
    (initiation execution : Nat) : Prop where
  earlier : initiation < execution
  begun : ∃ target recovery begin finish,
    machine.Commits inputs initiation begin (.initiate target) ∧
    machine.Commits inputs execution finish .execute ∧
    (machine.authorityAt inputs initiation).recoveryAddress =
      some recovery ∧
    (machine.ledger begin).auths recovery = true ∧
    (machine.ledger begin).timestamp.toNat + recoveryDelaySeconds.toNat ≤
      (machine.ledger finish).timestamp.toNat ∧
    (machine.authorityAt inputs (execution + 1)).admin = some [target] ∧
    (machine.authorityAt inputs (execution + 1)).threshold = some 1
  undisturbed : ∀ between input action, initiation < between →
    between < execution → machine.Commits inputs between input action →
    action = .other

theorem CompletedFrom.unique {initiation first second : Nat}
    (left : machine.CompletedFrom inputs initiation first)
    (right : machine.CompletedFrom inputs initiation second) :
    first = second := by
  obtain ⟨_, _, _, finish, _, executed, _⟩ := left.begun
  obtain ⟨_, _, _, finish', _, executed', _⟩ := right.begun
  rcases Nat.lt_trichotomy first second with before | same | after
  · cases right.undisturbed first finish _ left.earlier before executed
  · exact same
  · cases left.undisturbed second finish' _ right.earlier after executed'

/-- A pending recovery is there because of one initiation and has been left
alone since. -/
theorem pending_since {index : Nat} {pending : PendingRecovery}
    (stored : (machine.authorityAt inputs index).pendingRecovery =
      some pending) :
    ∃ initiation begin, initiation < index ∧
      machine.Commits inputs initiation begin
        (.initiate pending.newAdmin) ∧
      (machine.authorityAt inputs initiation).recoveryAddress =
        some pending.initiatedBy ∧
      (machine.ledger begin).auths pending.initiatedBy = true ∧
      pending.executeAfter.toNat =
        (machine.ledger begin).timestamp.toNat +
          recoveryDelaySeconds.toNat ∧
      ∀ between, initiation < between → between ≤ index →
        (machine.authorityAt inputs between).pendingRecovery =
          some pending := by
  have absent : ¬ (machine.authority machine.start).pendingRecovery =
      some pending := by
    rw [machine.blank]
    simp
  obtain ⟨initiation, begin, reply, earlier, succeeded, fresh, since⟩ :=
    exists_onset (fun state =>
      (machine.authority state).pendingRecovery = some pending) absent stored
  obtain ⟨initiates, _, recovery, authorized, deadline⟩ :=
    (machine.refines succeeded.2).pending_begins fresh
      (since (initiation + 1) (by omega) (by omega))
  exact ⟨initiation, begin, earlier, ⟨initiates, reply, succeeded⟩, recovery,
    authorized, deadline, since⟩

theorem executed_completes {execution : Nat} {finish : ι}
    (executed : machine.Commits inputs execution finish .execute) :
    ∃ initiation, machine.CompletedFrom inputs initiation execution := by
  have stepped := executed.stepped
  cases installed : machine.authorityAt inputs (execution + 1)
  rw [installed] at stepped
  cases stepped with
  | execute stored matured =>
      obtain ⟨initiation, begin, earlier, initiated, recovery, authorized,
        deadline, since⟩ := pending_since stored
      refine ⟨initiation, earlier, ?_, ?_⟩
      · refine ⟨_, _, begin, finish, initiated, executed, recovery,
          authorized, ?_, ?_, ?_⟩
        · rw [← deadline]
          exact UInt64.le_iff_toNat_le.mp matured
        · rw [installed]
        · rw [installed]
      · intro between input action after before committed
        have pending := since between after (by omega)
        have kept := since (between + 1) (by omega) (by omega)
        rcases committed.stepped.pending_kept_or_ended pending with
          ⟨_, quiet⟩ | ⟨gone, _⟩
        · exact quiet
        · rw [kept] at gone
          cases gone

/-- Every execution can be charged to its own initiation. -/
theorem exists_initiations :
    ∃ initiationOf : Nat → Nat,
      (∀ execution,
        (∃ finish, machine.Commits inputs execution finish .execute) →
        machine.CompletedFrom inputs (initiationOf execution) execution) ∧
      ∀ first second,
        (∃ finish, machine.Commits inputs first finish .execute) →
        (∃ finish, machine.Commits inputs second finish .execute) →
        initiationOf first = initiationOf second → first = second :=
  exists_matching (fun _ ⟨_, executed⟩ => executed_completes executed)
    CompletedFrom.unique

/-- A pending recovery stays as it is until something entitled to ends it. -/
theorem pending_kept_or_ended {index : Nat} {pending : PendingRecovery}
    (stored : (machine.authorityAt inputs index).pendingRecovery =
      some pending) :
    (machine.authorityAt inputs (index + 1)).pendingRecovery =
        some pending ∨
      (machine.authorityAt inputs (index + 1)).pendingRecovery = none ∧
        ∃ input action, machine.Commits inputs index input action ∧
          Authority.Ends (machine.ledger input)
            (machine.authorityAt inputs index) pending action := by
  rcases @stateAt_succ_eq_or_succeeds _ _ _ _ machine.step machine.start
    inputs index with unchanged | ⟨input, reply, succeeded⟩
  · left
    rw [authorityAt, unchanged]
    exact stored
  · rcases (machine.refines succeeded.2).pending_kept_or_ended stored with
      ⟨kept, _⟩ | ⟨gone, ended⟩
    · exact .inl kept
    · exact .inr ⟨gone, input, _, ⟨rfl, reply, succeeded⟩, ended⟩

end Controlled

end BettaPay.Common
