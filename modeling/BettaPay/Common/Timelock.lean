import BettaPay.Host.Run
import BettaPay.Host.Support

namespace BettaPay.Common

open BettaPay.Host

namespace Timelock

/-- What a call asks of a timelock. -/
inductive Action (κ : Type) where
  | schedule (operation : κ)
  | execute (operation : κ)
  | cancel (operation : κ)
  | cancelAll (operations : List κ)
  | other
  deriving DecidableEq

/-- The operations that wait, each with the time from which it may run. -/
abbrev Queue (κ : Type) := κ → Option Nat

variable {κ : Type} [DecidableEq κ]

/-- The transitions of a timelock whose operations wait for at least
`delay`. -/
inductive Step (delay now : Nat) (before : Queue κ) :
    Action κ → Queue κ → Prop where
  | schedule {operation : κ} {deadline : Nat}
      (free : before operation = none) (patient : now + delay ≤ deadline) :
      Step delay now before (.schedule operation)
        (Function.update before operation (some deadline))
  | execute {operation : κ} {deadline : Nat}
      (waiting : before operation = some deadline)
      (matured : deadline ≤ now) :
      Step delay now before (.execute operation)
        (Function.update before operation none)
  | cancel {operation : κ} (waiting : (before operation).isSome) :
      Step delay now before (.cancel operation)
        (Function.update before operation none)
  | cancelAll {operations : List κ} :
      Step delay now before (.cancelAll operations)
        (fun operation =>
          if operation ∈ operations then none else before operation)
  | other : Step delay now before .other before

/-- The actions that take an operation off the queue. -/
def Action.consumes (operation : κ) : Action κ → Bool
  | .execute executed => executed = operation
  | .cancel cancelled => cancelled = operation
  | .cancelAll operations => operation ∈ operations
  | _ => false

/-- The actions that take an operation off the queue unexecuted. -/
def Action.cancels (operation : κ) : Action κ → Bool
  | .cancel cancelled => cancelled = operation
  | .cancelAll operations => operation ∈ operations
  | _ => false

variable {delay now : Nat} {before after : Queue κ} {action : Action κ}

theorem Step.kept (stepped : Step delay now before action after)
    {operation : κ} (spared : action.consumes operation = false)
    {deadline : Nat} (waiting : before operation = some deadline) :
    after operation = some deadline := by
  cases stepped with
  | @schedule scheduled _ free patient =>
      have different : operation ≠ scheduled := by
        intro same
        subst same
        rw [free] at waiting
        cases waiting
      rw [Function.update_of_ne different, waiting]
  | execute _ matured =>
      have different : _ ≠ operation := of_decide_eq_false spared
      rw [Function.update_of_ne different.symm, waiting]
  | cancel _ =>
      have different : _ ≠ operation := of_decide_eq_false spared
      rw [Function.update_of_ne different.symm, waiting]
  | cancelAll =>
      have absent : operation ∉ _ := of_decide_eq_false spared
      exact (if_neg absent).trans waiting
  | other => exact waiting

theorem Step.consumed (stepped : Step delay now before action after)
    {operation : κ} (consumes : action.consumes operation = true) :
    after operation = none := by
  cases stepped with
  | schedule _ _ => cases consumes
  | execute _ _ =>
      cases of_decide_eq_true consumes
      exact Function.update_self ..
  | cancel _ =>
      cases of_decide_eq_true consumes
      exact Function.update_self ..
  | cancelAll => exact if_pos (of_decide_eq_true consumes)
  | other => cases consumes

theorem Step.begins (stepped : Step delay now before action after)
    {operation : κ} {deadline : Nat}
    (fresh : before operation ≠ some deadline)
    (waiting : after operation = some deadline) :
    action = .schedule operation ∧ now + delay ≤ deadline := by
  cases stepped with
  | @schedule scheduled _ free patient =>
      by_cases same : operation = scheduled
      · subst same
        rw [Function.update_self] at waiting
        cases waiting
        exact ⟨rfl, patient⟩
      · rw [Function.update_of_ne same] at waiting
        exact absurd waiting fresh
  | execute _ _ => exact absurd (update_none_eq_some waiting) fresh
  | cancel _ => exact absurd (update_none_eq_some waiting) fresh
  | cancelAll =>
      simp only at waiting
      split at waiting
      · cases waiting
      · exact absurd waiting fresh
  | other => exact absurd waiting fresh

/-- One operation, in and out: it is on the queue as often as it was put
there and not taken off. -/
theorem Step.balanced (stepped : Step delay now before action after)
    (operation : κ) :
    (after operation).isSome.toNat +
        ((decide (action = .execute operation)).toNat +
          (action.cancels operation &&
            (before operation).isSome).toNat) =
      (before operation).isSome.toNat +
        (decide (action = .schedule operation)).toNat := by
  cases stepped with
  | @schedule scheduled _ free _ =>
      by_cases same : scheduled = operation
      · subst same
        simp [free, Action.cancels]
      · simp [Function.update_of_ne (Ne.symm same), same, Action.cancels]
  | @execute executed _ waiting _ =>
      by_cases same : executed = operation
      · subst same
        simp [waiting, Action.cancels]
      · simp [Function.update_of_ne (Ne.symm same), same, Action.cancels]
  | @cancel cancelled waiting =>
      by_cases same : cancelled = operation
      · subst same
        simp [waiting, Action.cancels]
      · simp [Function.update_of_ne (Ne.symm same), same, Action.cancels]
  | @cancelAll operations =>
      by_cases member : operation ∈ operations <;>
        simp [member, Action.cancels]
  | other => simp [Action.cancels]

end Timelock

/-- A machine seen as a timelock. -/
structure Timelocked (σ ε ι ο κ : Type) [DecidableEq κ] where
  step : ι → Tx σ ε ο
  start : σ
  now : ι → Nat
  delay : Nat
  action : ι → Timelock.Action κ
  queue : σ → Timelock.Queue κ
  blank : ∀ operation, queue start operation = none
  refines : ∀ {input before reply after},
    step input before = .ok (reply, after) →
      Timelock.Step delay (now input) (queue before) (action input)
        (queue after)

namespace Timelocked

variable {σ ε ι ο κ : Type} [DecidableEq κ]
  (machine : Timelocked σ ε ι ο κ) (inputs : List ι)

/-- The queue just before the call at position `index`. -/
def queueAt (index : Nat) : Timelock.Queue κ :=
  machine.queue (stateAt machine.step machine.start inputs index)

/-- The call at position `index` commits and asks for `action`. -/
def Commits (index : Nat) (input : ι) (action : Timelock.Action κ) : Prop :=
  machine.action input = action ∧
    ∃ reply, Succeeds machine.step machine.start inputs index input reply

/-- The execution at `execution` runs what the call at `scheduling` queued,
and nothing took it off the queue in between. -/
structure ScheduledFrom (operation : κ) (scheduling execution : Nat) :
    Prop where
  earlier : scheduling < execution
  patient : ∃ begin finish,
    machine.Commits inputs scheduling begin (.schedule operation) ∧
    machine.Commits inputs execution finish (.execute operation) ∧
    machine.now begin + machine.delay ≤ machine.now finish
  untouched : ∀ between input action, scheduling < between →
    between < execution → machine.Commits inputs between input action →
    action.consumes operation = false

variable {machine inputs}

theorem Commits.stepped {index : Nat} {input : ι}
    {action : Timelock.Action κ}
    (committed : machine.Commits inputs index input action) :
    Timelock.Step machine.delay (machine.now input)
      (machine.queueAt inputs index) action
      (machine.queueAt inputs (index + 1)) := by
  obtain ⟨rfl, reply, succeeded⟩ := committed
  exact machine.refines succeeded.2

/-- One call asks for one thing. -/
theorem Commits.unique {index : Nat} {input input' : ι}
    {action action' : Timelock.Action κ}
    (committed : machine.Commits inputs index input action)
    (committed' : machine.Commits inputs index input' action') :
    input = input' ∧ action = action' := by
  obtain ⟨asked, _, here, _⟩ := committed
  obtain ⟨asked', _, here', _⟩ := committed'
  cases here.symm.trans here'
  exact ⟨rfl, asked.symm.trans asked'⟩

/-- What waits was scheduled once and has waited ever since. -/
theorem waiting_since {index : Nat} {operation : κ} {deadline : Nat}
    (waiting : machine.queueAt inputs index operation = some deadline) :
    ∃ scheduling begin, scheduling < index ∧
      machine.Commits inputs scheduling begin (.schedule operation) ∧
      machine.now begin + machine.delay ≤ deadline ∧
      ∀ between, scheduling < between → between ≤ index →
        machine.queueAt inputs between operation = some deadline := by
  have absent : ¬ machine.queue machine.start operation =
      some deadline := by
    rw [machine.blank]
    simp
  obtain ⟨scheduling, begin, reply, earlier, succeeded, fresh, since⟩ :=
    exists_onset (fun state => machine.queue state operation =
      some deadline) absent waiting
  obtain ⟨schedules, patient⟩ := (machine.refines succeeded.2).begins fresh
    (since (scheduling + 1) (by omega) (by omega))
  exact ⟨scheduling, begin, earlier, ⟨schedules, reply, succeeded⟩, patient,
    since⟩

theorem executed_scheduled {execution : Nat} {finish : ι} {operation : κ}
    (executed : machine.Commits inputs execution finish
      (.execute operation)) :
    ∃ scheduling,
      machine.ScheduledFrom inputs operation scheduling execution := by
  have stepped := executed.stepped
  generalize machine.queueAt inputs (execution + 1) = after at stepped
  cases stepped with
  | execute waiting matured =>
      obtain ⟨scheduling, begin, earlier, scheduled, patient, since⟩ :=
        waiting_since waiting
      refine ⟨scheduling, earlier, ⟨begin, finish, scheduled, executed,
        by omega⟩, ?_⟩
      intro between input action after before committed
      have kept := since (between + 1) (by omega) (by omega)
      by_contra consumes
      rw [committed.stepped.consumed (by simpa using consumes)] at kept
      cases kept

theorem ScheduledFrom.unique {operation other : κ}
    {scheduling first second : Nat}
    (left : machine.ScheduledFrom inputs operation scheduling first)
    (right : machine.ScheduledFrom inputs other scheduling second) :
    first = second := by
  obtain ⟨begin, finish, scheduled, executed, _⟩ := left.patient
  obtain ⟨begin', finish', scheduled', executed', _⟩ := right.patient
  cases (scheduled.unique scheduled').2
  rcases Nat.lt_trichotomy first second with before | same | after
  · have spared := right.untouched first finish _ left.earlier before executed
    simp [Timelock.Action.consumes] at spared
  · exact same
  · have spared := left.untouched second finish' _ right.earlier after
      executed'
    simp [Timelock.Action.consumes] at spared

/-- Every execution can be charged to its own scheduling. -/
theorem exists_schedulings :
    ∃ schedulingOf : Nat → Nat,
      (∀ execution finish operation,
        machine.Commits inputs execution finish (.execute operation) →
        machine.ScheduledFrom inputs operation (schedulingOf execution)
          execution) ∧
      ∀ first second,
        (∃ finish operation,
          machine.Commits inputs first finish (.execute operation)) →
        (∃ finish operation,
          machine.Commits inputs second finish (.execute operation)) →
        schedulingOf first = schedulingOf second → first = second := by
  obtain ⟨schedulingOf, found, distinct⟩ := @exists_matching
    (fun execution => ∃ finish operation,
      machine.Commits inputs execution finish (.execute operation))
    (fun scheduling execution => ∃ operation,
      machine.ScheduledFrom inputs operation scheduling execution)
    (fun _ ⟨_, operation, executed⟩ =>
      let ⟨scheduling, charged⟩ := executed_scheduled executed
      ⟨scheduling, operation, charged⟩)
    (fun ⟨_, left⟩ ⟨_, right⟩ => left.unique right)
  refine ⟨schedulingOf, ?_, distinct⟩
  intro execution finish operation executed
  obtain ⟨other, charged⟩ := found execution ⟨finish, operation, executed⟩
  obtain ⟨_, _, _, executed', _⟩ := charged.patient
  cases (executed.unique executed').2
  exact charged

/-- An operation leaves the queue only when a call names it. -/
theorem waiting_kept {index : Nat} {input : ι} {action : Timelock.Action κ}
    {operation : κ} {deadline : Nat}
    (committed : machine.Commits inputs index input action)
    (spared : action.consumes operation = false)
    (waiting : machine.queueAt inputs index operation = some deadline) :
    machine.queueAt inputs (index + 1) operation = some deadline :=
  committed.stepped.kept spared waiting

/-- Over a whole run, what was scheduled has been executed, cancelled, or
still waits. -/
theorem scheduled_balance (operation : κ) :
    (machine.queue (run machine.step machine.start inputs)
        operation).isSome.toNat +
      total (fun call =>
        (decide (machine.action call.input = .execute operation)).toNat +
          ((machine.action call.input).cancels operation &&
            (machine.queue call.before operation).isSome).toNat)
        (trace machine.step machine.start inputs) =
      total (fun call =>
        (decide (machine.action call.input = .schedule operation)).toNat)
        (trace machine.step machine.start inputs) := by
  have balance := @total_balance _ _ _ _ machine.step (fun _ => True)
    (fun state => (machine.queue state operation).isSome.toNat)
    (fun call =>
      (decide (machine.action call.input = .schedule operation)).toNat)
    (fun call =>
      (decide (machine.action call.input = .execute operation)).toNat +
        ((machine.action call.input).cancels operation &&
          (machine.queue call.before operation).isSome).toNat)
    (fun _ _ => trivial)
    (fun _ succeeded => (machine.refines succeeded).balanced operation)
    machine.start trivial inputs
  rw [machine.blank] at balance
  simpa using balance

end Timelocked

end BettaPay.Common
