import BettaPay.Host.Transaction
import Mathlib.Algebra.BigOperators.Group.List.Basic
import Mathlib.Algebra.Ring.Nat

namespace BettaPay.Host

/-! Runs of a machine whose failed calls are rolled back. A run is its list of
inputs; everything else about it is computed. -/

variable {σ ε ι ο : Type} (step : ι → Tx σ ε ο)

def commit (state : σ) (input : ι) : σ :=
  match step input state with
  | .ok (_, after) => after
  | .error _ => state

def run (start : σ) (inputs : List ι) : σ :=
  inputs.foldl (commit step) start

/-- The state just before the call at position `index`. -/
def stateAt (start : σ) (inputs : List ι) (index : Nat) : σ :=
  run step start (inputs.take index)

/-- The call at position `index` is `input` and commits with `reply`. -/
def Succeeds (start : σ) (inputs : List ι) (index : Nat) (input : ι)
    (reply : ο) : Prop :=
  inputs[index]? = some input ∧
    step input (stateAt step start inputs index) =
      .ok (reply, stateAt step start inputs (index + 1))

variable {step}

theorem commit_of_ok {input : ι} {before after : σ} {reply : ο}
    (succeeded : step input before = .ok (reply, after)) :
    commit step before input = after := by
  simp [commit, succeeded]

theorem commit_of_error {input : ι} {before : σ} {failure : ε}
    (failed : step input before = .error failure) :
    commit step before input = before := by
  simp [commit, failed]

@[simp] theorem run_nil (start : σ) : run step start [] = start := rfl

@[simp] theorem run_cons (start : σ) (input : ι) (rest : List ι) :
    run step start (input :: rest) =
      run step (commit step start input) rest := rfl

theorem run_append (start : σ) (first second : List ι) :
    run step start (first ++ second) =
      run step (run step start first) second := by
  simp [run]

/-- The invariant rule: what every committed call preserves holds throughout
a run that starts with it. -/
theorem run_invariant (invariant : σ → Prop)
    (preserved : ∀ {input before reply after}, invariant before →
      step input before = .ok (reply, after) → invariant after)
    {start : σ} (initially : invariant start) (inputs : List ι) :
    invariant (run step start inputs) := by
  induction inputs generalizing start with
  | nil => exact initially
  | cons input rest induction =>
      rw [run_cons]
      apply induction
      cases attempt : step input start with
      | ok outcome =>
          rcases outcome with ⟨reply, after⟩
          rw [commit_of_ok attempt]
          exact preserved initially attempt
      | error failure =>
          rw [commit_of_error attempt]
          exact initially

/-- What every committed call of a kind preserves holds throughout a run of
such calls. -/
theorem run_invariant_of {allowed : ι → Prop} (invariant : σ → Prop)
    (preserved : ∀ {input before reply after}, allowed input →
      invariant before → step input before = .ok (reply, after) →
      invariant after)
    {start : σ} (initially : invariant start) {inputs : List ι}
    (all : ∀ input ∈ inputs, allowed input) :
    invariant (run step start inputs) := by
  induction inputs generalizing start with
  | nil => exact initially
  | cons input rest induction =>
      rw [run_cons]
      apply induction
      · cases attempt : step input start with
        | ok outcome =>
            rcases outcome with ⟨reply, after⟩
            rw [commit_of_ok attempt]
            exact preserved (all input List.mem_cons_self) initially attempt
        | error failure =>
            rw [commit_of_error attempt]
            exact initially
      · exact fun other listed => all other (List.mem_cons_of_mem _ listed)

@[simp] theorem stateAt_zero (start : σ) (inputs : List ι) :
    stateAt step start inputs 0 = start := by
  simp [stateAt]

theorem stateAt_of_length_le {start : σ} {inputs : List ι} {index : Nat}
    (past : inputs.length ≤ index) :
    stateAt step start inputs index = run step start inputs := by
  rw [stateAt, List.take_of_length_le past]

theorem stateAt_succ {start : σ} {inputs : List ι} {index : Nat} {input : ι}
    (here : inputs[index]? = some input) :
    stateAt step start inputs (index + 1) =
      commit step (stateAt step start inputs index) input := by
  rw [stateAt, List.take_add_one, here, run_append]
  rfl

theorem stateAt_succ_of_none {start : σ} {inputs : List ι} {index : Nat}
    (past : inputs[index]? = none) :
    stateAt step start inputs (index + 1) =
      stateAt step start inputs index := by
  have ended : inputs.length ≤ index := List.getElem?_eq_none_iff.mp past
  rw [stateAt_of_length_le ended, stateAt_of_length_le (by omega)]

theorem succeeds_of_ok {start : σ} {inputs : List ι} {index : Nat}
    {input : ι} {reply : ο} {after : σ}
    (here : inputs[index]? = some input)
    (succeeded : step input (stateAt step start inputs index) =
      .ok (reply, after)) :
    Succeeds step start inputs index input reply := by
  refine ⟨here, ?_⟩
  rw [stateAt_succ here, commit_of_ok succeeded]
  exact succeeded

theorem succeeds_of_isOk {start : σ} {inputs : List ι} {index : Nat}
    {input : ι} (here : inputs[index]? = some input)
    (accepted : (step input (stateAt step start inputs index)).isOk =
      true) :
    ∃ reply, Succeeds step start inputs index input reply := by
  obtain ⟨reply, after, succeeded⟩ := isOk_iff_exists.mp accepted
  exact ⟨reply, succeeds_of_ok here succeeded⟩

/-- Inputs that step alike run alike. -/
theorem stateAt_map {κ : Type} {other : κ → Tx σ ε ο} {embed : ι → κ}
    (alike : ∀ input, other (embed input) = step input) (start : σ)
    (inputs : List ι) (index : Nat) :
    stateAt other start (inputs.map embed) index =
      stateAt step start inputs index := by
  have commits : ∀ state input, commit other state (embed input) =
      commit step state input := by
    intro state input
    simp only [commit, alike]
  simp only [stateAt, run, ← List.map_take, List.foldl_map, commits]

/-- What comes later in a run does not matter. -/
theorem stateAt_append_left {start : σ} {first second : List ι}
    {index : Nat} (bounded : index ≤ first.length) :
    stateAt step start (first ++ second) index =
      stateAt step start first index := by
  rw [stateAt, List.take_append_of_le_length bounded, stateAt]

theorem succeeds_append_left {start : σ} {first second : List ι}
    {index : Nat} {input : ι} {reply : ο} (earlier : index < first.length) :
    Succeeds step start (first ++ second) index input reply ↔
      Succeeds step start first index input reply := by
  rw [Succeeds, Succeeds, List.getElem?_append_left earlier,
    stateAt_append_left (Nat.le_of_lt earlier), stateAt_append_left earlier]

/-- A state changes only at the position of a committed call. -/
theorem stateAt_succ_eq_or_succeeds (start : σ) (inputs : List ι)
    (index : Nat) :
    stateAt step start inputs (index + 1) =
        stateAt step start inputs index ∨
      ∃ input reply, Succeeds step start inputs index input reply := by
  cases here : inputs[index]? with
  | none => exact .inl (stateAt_succ_of_none here)
  | some input =>
      cases attempt : step input (stateAt step start inputs index) with
      | ok outcome =>
          rcases outcome with ⟨reply, after⟩
          exact .inr ⟨input, reply, succeeds_of_ok here attempt⟩
      | error failure =>
          left
          rw [stateAt_succ here, commit_of_error attempt]

theorem stateAt_succ_of_idle {start : σ} {inputs : List ι} {index : Nat}
    (idle : ∀ input reply, ¬ Succeeds step start inputs index input reply) :
    stateAt step start inputs (index + 1) =
      stateAt step start inputs index := by
  rcases @stateAt_succ_eq_or_succeeds _ _ _ _ step start inputs index with
    unchanged | ⟨input, reply, succeeded⟩
  · exact unchanged
  · exact absurd succeeded (idle input reply)

/-- What a position leaves behind, told from the call that commits there. -/
theorem iff_forall_succeeds {start : σ} {inputs : List ι} {index : Nat}
    {next : Prop} {good : ι → Prop}
    (stepped : ∀ input, (∃ reply, Succeeds step start inputs index input
      reply) → (next ↔ good input))
    (idle : (∀ input reply,
      ¬ Succeeds step start inputs index input reply) → next) :
    next ↔ ∀ input, (∃ reply, Succeeds step start inputs index input
      reply) → good input := by
  constructor
  · intro holds input succeeded
    exact (stepped input succeeded).mp holds
  · intro good
    by_cases commits : ∃ input reply,
        Succeeds step start inputs index input reply
    · obtain ⟨input, succeeded⟩ := commits
      exact (stepped input succeeded).mpr (good input succeeded)
    · apply idle
      intro input reply succeeded
      exact commits ⟨input, reply, succeeded⟩

/-! Histories: when a property of the state came to hold, and what stays the
same over a stretch of a run. -/

/-- What holds at the start, and survives each position exactly when the
position is good, holds throughout exactly when every position is. -/
theorem forall_iff_of_succ_iff {holds good : Nat → Prop}
    (initially : holds 0)
    (stepped : ∀ index, holds index → (holds (index + 1) ↔ good index)) :
    (∀ index, holds index) ↔ ∀ index, good index := by
  constructor
  · intro always index
    exact (stepped index (always index)).mp (always (index + 1))
  · intro good index
    induction index with
    | zero => exact initially
    | succ index induction => exact (stepped index induction).mpr (good index)

theorem exists_onset_nat {holds : Nat → Prop} {finish : Nat}
    (absent : ¬ holds 0) (present : holds finish) :
    ∃ onset, onset < finish ∧ ¬ holds onset ∧
      ∀ later, onset < later → later ≤ finish → holds later := by
  induction finish with
  | zero => exact absurd present absent
  | succ finish induction =>
      by_cases earlier : holds finish
      · obtain ⟨onset, before, fails, since⟩ := induction earlier
        refine ⟨onset, by omega, fails, ?_⟩
        intro later after bound
        by_cases last : later = finish + 1
        · exact last ▸ present
        · exact since later after (by omega)
      · refine ⟨finish, by omega, earlier, ?_⟩
        intro later after bound
        have last : later = finish + 1 := by omega
        exact last ▸ present

/-- A property that fails at the start and holds at `finish` was brought
about by a committed call and has held ever since. -/
theorem exists_onset {start : σ} {inputs : List ι} {finish : Nat}
    (holds : σ → Prop) (absent : ¬ holds start)
    (present : holds (stateAt step start inputs finish)) :
    ∃ onset input reply, onset < finish ∧
      Succeeds step start inputs onset input reply ∧
      ¬ holds (stateAt step start inputs onset) ∧
      ∀ later, onset < later → later ≤ finish →
        holds (stateAt step start inputs later) := by
  have absentAt : ¬ holds (stateAt step start inputs 0) := by
    simpa using absent
  obtain ⟨onset, before, fails, since⟩ :=
    @exists_onset_nat (fun index => holds (stateAt step start inputs index))
      finish absentAt present
  have change := @stateAt_succ_eq_or_succeeds _ _ _ _ step start inputs onset
  rcases change with unchanged | ⟨input, reply, succeeded⟩
  · have next := since (onset + 1) (by omega) (by omega)
    rw [unchanged] at next
    exact absurd next fails
  · exact ⟨onset, input, reply, before, succeeded, fails, since⟩

/-- Where every later position has an earlier partner and no partner serves
two positions, the partners can be chosen injectively. -/
theorem exists_matching {occurs : Nat → Prop} {partner : Nat → Nat → Prop}
    (found : ∀ later, occurs later → ∃ earlier, partner earlier later)
    (unique : ∀ {earlier first second}, partner earlier first →
      partner earlier second → first = second) :
    ∃ earlierOf : Nat → Nat,
      (∀ later, occurs later → partner (earlierOf later) later) ∧
      ∀ first second, occurs first → occurs second →
        earlierOf first = earlierOf second → first = second := by
  classical
  have total : ∀ later, ∃ earlier, occurs later →
      partner earlier later := by
    intro later
    by_cases here : occurs later
    · obtain ⟨earlier, paired⟩ := found later here
      exact ⟨earlier, fun _ => paired⟩
    · exact ⟨0, fun occurring => absurd occurring here⟩
  refine ⟨fun later => (total later).choose,
    fun later => (total later).choose_spec, ?_⟩
  intro first second here there same
  have left := (total first).choose_spec here
  have right := (total second).choose_spec there
  simp only at same
  rw [same] at left
  exact unique left right

/-- What every committed call between two positions keeps, and holds at the
first, holds at the second. -/
theorem stateAt_kept {start : σ} {inputs : List ι} {first last : Nat}
    (holds : σ → Prop) (ordered : first ≤ last)
    (kept : ∀ index input reply, first ≤ index → index < last →
      Succeeds step start inputs index input reply →
      holds (stateAt step start inputs index) →
      holds (stateAt step start inputs (index + 1)))
    (initially : holds (stateAt step start inputs first)) :
    holds (stateAt step start inputs last) := by
  induction last with
  | zero =>
      have same : first = 0 := by omega
      rw [← same]
      exact initially
  | succ last induction =>
      by_cases reached : first = last + 1
      · rw [← reached]
        exact initially
      · have earlier := induction (by omega)
          (fun index input reply lower upper =>
            kept index input reply lower (by omega))
        have change :=
          @stateAt_succ_eq_or_succeeds _ _ _ _ step start inputs last
        rcases change with unchanged | ⟨input, reply, succeeded⟩
        · rw [unchanged]
          exact earlier
        · exact kept last input reply (by omega) (by omega) succeeded earlier

/-! The committed calls of a run, and totals over them. -/

/-- A call that committed, with the states around it. -/
structure Committed (σ ι ο : Type) where
  before : σ
  input : ι
  reply : ο
  after : σ

def committed (step : ι → Tx σ ε ο) (state : σ) (input : ι) :
    List (Committed σ ι ο) :=
  match step input state with
  | .ok (reply, after) => [⟨state, input, reply, after⟩]
  | .error _ => []

def trace (step : ι → Tx σ ε ο) (start : σ) :
    List ι → List (Committed σ ι ο)
  | [] => []
  | input :: rest =>
      committed step start input ++
        trace step (commit step start input) rest

theorem trace_append (start : σ) (first second : List ι) :
    trace step start (first ++ second) =
      trace step start first ++ trace step (run step start first) second := by
  induction first generalizing start with
  | nil => rfl
  | cons input rest induction =>
      simp only [List.cons_append, trace, run_cons, induction,
        List.append_assoc]

theorem trace_snoc (start : σ) (inputs : List ι) (input : ι) :
    trace step start (inputs ++ [input]) =
      trace step start inputs ++
        committed step (run step start inputs) input := by
  rw [trace_append]
  simp [trace]

theorem stateAt_cons_succ (start : σ) (input : ι) (rest : List ι)
    (index : Nat) :
    stateAt step start (input :: rest) (index + 1) =
      stateAt step (commit step start input) rest index := by
  rw [stateAt, List.take_succ_cons, run_cons]
  rfl

theorem mem_trace {start : σ} {inputs : List ι} {call : Committed σ ι ο} :
    call ∈ trace step start inputs ↔ ∃ index,
      Succeeds step start inputs index call.input call.reply ∧
      call.before = stateAt step start inputs index ∧
      call.after = stateAt step start inputs (index + 1) := by
  induction inputs generalizing start with
  | nil => simp [trace, Succeeds]
  | cons input rest induction =>
      rw [trace, List.mem_append, induction]
      constructor
      · intro given
        rcases given with here | later
        · unfold committed at here
          split at here
          · rename_i reply after attempt
            cases List.mem_singleton.mp here
            have reached : stateAt step start (input :: rest) 1 = after := by
              rw [stateAt_succ rfl, stateAt_zero, commit_of_ok attempt]
            refine ⟨0, ⟨rfl, ?_⟩, (stateAt_zero _ _).symm, reached.symm⟩
            rw [reached, stateAt_zero]
            exact attempt
          · cases here
        · obtain ⟨index, ⟨there, succeeded⟩, before, after⟩ := later
          refine ⟨index + 1, ⟨there, ?_⟩, ?_, ?_⟩
          · rw [stateAt_cons_succ, stateAt_cons_succ]
            exact succeeded
          · rw [stateAt_cons_succ]
            exact before
          · rw [stateAt_cons_succ]
            exact after
      · intro given
        obtain ⟨index, ⟨there, succeeded⟩, before, after⟩ := given
        cases index with
        | zero =>
            left
            cases there
            rw [stateAt_zero] at before succeeded
            rw [← after] at succeeded
            rw [committed, succeeded, ← before]
            exact List.mem_singleton_self call
        | succ index =>
            right
            rw [stateAt_cons_succ] at before after
            rw [stateAt_cons_succ, stateAt_cons_succ] at succeeded
            exact ⟨index, ⟨there, succeeded⟩, before, after⟩

theorem trace_sublist {start : σ} {inputs : List ι} :
    ((trace step start inputs).map Committed.input).Sublist inputs := by
  induction inputs generalizing start with
  | nil => exact List.Sublist.slnil
  | cons input rest induction =>
      rw [trace, List.map_append]
      unfold committed
      split
      · exact induction.cons_cons input
      · exact induction.cons input

def total (weight : Committed σ ι ο → Nat) (calls : List (Committed σ ι ο)) :
    Nat :=
  (calls.map weight).sum

theorem total_add {left right : Committed σ ι ο → Nat}
    {calls : List (Committed σ ι ο)} :
    total (fun call => left call + right call) calls =
      total left calls + total right calls :=
  List.sum_map_add

theorem total_balance {invariant : σ → Prop} {potential : σ → Nat}
    {inflow outflow : Committed σ ι ο → Nat}
    (preserved : ∀ {input before reply after}, invariant before →
      step input before = .ok (reply, after) → invariant after)
    (balanced : ∀ {input before reply after}, invariant before →
      step input before = .ok (reply, after) →
      potential after + outflow ⟨before, input, reply, after⟩ =
        potential before + inflow ⟨before, input, reply, after⟩)
    {start : σ} (initially : invariant start) (inputs : List ι) :
    potential (run step start inputs) +
        total outflow (trace step start inputs) =
      potential start + total inflow (trace step start inputs) := by
  induction inputs generalizing start with
  | nil => rfl
  | cons input rest induction =>
      cases attempt : step input start with
      | ok outcome =>
          rcases outcome with ⟨reply, after⟩
          have next := induction (preserved initially attempt)
          have here := balanced initially attempt
          simp only [run_cons, trace, committed, attempt, total,
            commit_of_ok attempt, List.singleton_append, List.map_cons,
            List.sum_cons] at next ⊢
          omega
      | error failure =>
          have next := induction initially
          simpa only [run_cons, trace, committed, attempt,
            commit_of_error attempt, List.nil_append] using next

end BettaPay.Host
