import BettaPay.Settlement.Timelock
import BettaPay.Settlement.Control

namespace BettaPay.Settlement

open BettaPay.Host
open BettaPay.Common

/-! The veto of a pending recovery over the timelock queue. While a recovery is
pending nothing but its cancellation executes; the slots themselves stay. -/

/-- The recovery begun at `initiation` is completed at `execution`, and
nothing cancelled it in between. -/
structure Completes (codec : Codec) (inputs : List Input)
    (initiation execution : Nat) : Prop where
  earlier : initiation < execution
  begun : ∃ env newAdmin,
    Commits codec inputs initiation env (.initiateRecovery newAdmin)
  finished : ∃ env, Commits codec inputs execution env .executeRecovery
  undisturbed : ∀ between env call, initiation < between →
    between < execution → Commits codec inputs between env call →
    call.action = .other

/-- What was queued when a completed recovery was initiated executes only
after a quorum scheduled it again, under the admins the recovery put in
place. -/
def VetoFinal (codec : Codec) (inputs : List Input) : Prop :=
  ∀ initiation execution operation slot later env executor,
    Completes codec inputs initiation execution →
    Queued codec (stateBefore codec inputs initiation) operation slot →
    initiation < later →
    Commits codec inputs later env (.execute executor operation) →
    ∃ scheduling begin signers executeIn,
      execution < scheduling ∧ scheduling < later ∧
      Commits codec inputs scheduling begin
        (.schedule signers operation executeIn) ∧
      (stateBefore codec inputs scheduling).authority.Quorum
        begin.toLedger signers

/-- When a recovery is completed, nothing that was queued at its initiation is
queued. -/
def VetoedCleared (codec : Codec) (inputs : List Input) : Prop :=
  ∀ initiation execution operation slot found,
    Completes codec inputs initiation execution →
    Queued codec (stateBefore codec inputs initiation) operation slot →
    ¬ Queued codec (stateBefore codec inputs execution) operation found

theorem initiated_pending {codec : Codec} {inputs : List Input}
    {index : Nat} {env : Env} {newAdmin : Address}
    (begun : Commits codec inputs index env (.initiateRecovery newAdmin)) :
    (stateBefore codec inputs (index + 1)).pendingRecovery.isSome := by
  obtain ⟨reply, succeeded⟩ := begun
  have effect := invoke_effect succeeded.2
  unfold stateBefore
  generalize stateAt (step codec) State.initial inputs (index + 1) = after
    at effect ⊢
  cases effect with
  | initiateRecovery => rfl
  | administer direct => cases direct
  | query reads => cases reads

theorem Completes.pending {codec : Codec} {inputs : List Input}
    {initiation execution : Nat}
    (completes : Completes codec inputs initiation execution)
    {index : Nat} (after : initiation < index) (bound : index ≤ execution) :
    (stateBefore codec inputs index).pendingRecovery.isSome := by
  obtain ⟨env, newAdmin, begun⟩ := completes.begun
  refine stateAt_kept (fun state : State => state.pendingRecovery.isSome)
    after ?_ (initiated_pending begun)
  intro between input reply lower upper succeeded present
  obtain ⟨pending, stored⟩ := Option.isSome_iff_exists.mp present
  have quiet := completes.undisturbed between input.env input.call
    (by omega) (by omega) ⟨reply, succeeded⟩
  rcases (invoke_effect succeeded.2).stepped.pending_kept_or_ended stored
    with ⟨kept, _⟩ | ⟨_, ended⟩
  · exact Option.isSome_iff_exists.mpr ⟨pending, kept⟩
  · rw [quiet] at ended
    cases ended

theorem Completes.executes_nothing {codec : Codec} {inputs : List Input}
    {initiation execution later : Nat} {env : Env} {executor : Address}
    {operation : Operation}
    (completes : Completes codec inputs initiation execution)
    (after : initiation < later)
    (executed : Commits codec inputs later env
      (.execute executor operation)) : execution < later := by
  by_contra early
  obtain ⟨finish, ending⟩ := completes.finished
  rcases Nat.lt_or_eq_of_le (Nat.not_lt.mp early) with before | same
  · have quiet := completes.undisturbed later env _ after before executed
    have present := completes.pending after (Nat.le_of_lt before)
    obtain ⟨reply, succeeded⟩ := executed
    cases (invoke_effect succeeded.2).queueStep with
    | execute _ _ unvetoed _ _ =>
        rcases unvetoed with absent | rfl
        · rw [stateBefore, absent] at present
          cases present
        · cases quiet
    | other untouched => cases untouched
  · subst same
    cases (executed.unique ending).2

/-- In every run in which the queue no longer holds what a recovery vetoed by
the time the recovery completes, the veto is final. -/
theorem veto_final_of_cleared (codec : Codec)
    (injective : Function.Injective codec.toXdr) (inputs : List Input)
    (cleared : VetoedCleared codec inputs) : VetoFinal codec inputs := by
  intro initiation execution operation slot later env executor completes
    queued after executed
  have beyond := completes.executes_nothing after executed
  have waiting : ∃ deadline, (timelock codec injective).queueAt inputs later
      operation = some deadline := by
    obtain ⟨reply, succeeded⟩ := executed
    cases (invoke_effect succeeded.2).queueStep with
    | execute found => exact ⟨_, found.waiting⟩
    | other untouched => cases untouched
  obtain ⟨deadline, waiting⟩ := waiting
  obtain ⟨scheduling, begin, earlier, scheduled, _, since⟩ :=
    Timelocked.waiting_since waiting
  obtain ⟨signers, executeIn, committed, quorum⟩ :=
    scheduled_by_quorum scheduled
  refine ⟨scheduling, begin.env, signers, executeIn, ?_, earlier, committed,
    quorum⟩
  rcases Nat.lt_trichotomy scheduling execution with before | same | past
  · have held := since execution before (Nat.le_of_lt beyond)
    obtain ⟨found, stored, encoded, _⟩ := Codec.queue_eq_some.mp held
    exact absurd ⟨stored, encoded⟩
      (cleared initiation execution operation slot found completes queued)
  · subst same
    obtain ⟨finish, ending⟩ := completes.finished
    cases (committed.unique ending).2
  · exact past

/-- The operation is cancelled while the recovery is pending; the recovered
admin schedules it anew. -/
def sampleClearedRun : List Input :=
  [⟨.granting 0, .init (.account 9) [.account 1] 1 (.contract 5)
      (.account 2)⟩,
    ⟨.granting 100, .schedule [.account 1] sampleOperation 604800⟩,
    ⟨.granting 200, .initiateRecovery (.account 4)⟩,
    ⟨.granting 300, .cancel [.account 1] sampleOperation⟩,
    ⟨.granting 605000, .executeRecovery⟩,
    ⟨.granting 605000, .schedule [.account 4] sampleOperation 604800⟩,
    ⟨.granting 1209800, .execute (.account 3) sampleOperation⟩]

theorem sampleClearedRun_executeRecovery {execution : Nat} {env : Env}
    (committed : Commits sampleCodec sampleClearedRun execution env
      .executeRecovery) : execution = 4 := by
  have only : ∀ index, index < 7 →
      sampleClearedRun[index]?.map Input.call = some .executeRecovery →
      index = 4 := by decide
  obtain ⟨_, here, _⟩ := committed
  have inside : execution < 7 := (List.getElem?_eq_some_iff.mp here).1
  exact only execution inside (by rw [here]; rfl)

theorem sampleClearedRun_completes :
    Completes sampleCodec sampleClearedRun 2 4 where
  earlier := by decide
  begun := ⟨_, _, commits_of_accepted rfl (by decide)⟩
  finished := ⟨_, commits_of_accepted rfl (by decide)⟩
  undisturbed := by
    intro between env call after before given
    obtain ⟨_, here, _⟩ := given
    have same : between = 3 := by omega
    subst same
    cases here
    rfl

theorem veto_final_of_cleared_sample :
    Completes sampleCodec sampleClearedRun 2 4 ∧
    Queued sampleCodec (stateBefore sampleCodec sampleClearedRun 2)
      sampleOperation ⟨sampleOperation.toXdr, 604900⟩ ∧
    Commits sampleCodec sampleClearedRun 6 (.granting 1209800)
      (.execute (.account 3) sampleOperation) ∧
    VetoFinal sampleCodec sampleClearedRun := by
  refine ⟨sampleClearedRun_completes, ⟨by decide, rfl⟩,
    commits_of_accepted rfl (by decide), ?_⟩
  apply veto_final_of_cleared sampleCodec Operation.toXdr_injective
  intro initiation execution operation slot found completes _ queued
  obtain ⟨env, finished⟩ := completes.finished
  cases sampleClearedRun_executeRecovery finished
  have empty : (stateBefore sampleCodec sampleClearedRun
    4).scheduledOperation (sampleCodec.hash sampleOperation) = none := by
    decide
  cases empty.symm.trans queued.1

/-- The operation is left queued; once the recovery completes, anyone runs
it. -/
def sampleVetoLapsedRun : List Input :=
  [⟨.granting 0, .init (.account 9) [.account 1] 1 (.contract 5)
      (.account 2)⟩,
    ⟨.granting 100, .schedule [.account 1] sampleOperation 604800⟩,
    ⟨.granting 200, .initiateRecovery (.account 4)⟩,
    ⟨.granting 605000, .executeRecovery⟩,
    ⟨.granting 605000, .execute (.account 3) sampleOperation⟩]

theorem veto_not_final :
    ¬ VetoFinal sampleCodec sampleVetoLapsedRun := by
  intro final
  have completes : Completes sampleCodec sampleVetoLapsedRun 2 3 := by
    refine ⟨by decide, ⟨_, _, commits_of_accepted rfl (by decide)⟩,
      ⟨_, commits_of_accepted rfl (by decide)⟩, ?_⟩
    intro between env call after before
    omega
  obtain ⟨scheduling, _, _, _, after, before, _⟩ := final 2 3 sampleOperation
    ⟨sampleOperation.toXdr, 604900⟩ 4 (.granting 605000) (.account 3)
    completes ⟨by decide, rfl⟩ (by decide)
    (commits_of_accepted rfl (by decide))
  omega

end BettaPay.Settlement
