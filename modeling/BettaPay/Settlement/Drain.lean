import BettaPay.Settlement.CancelBatch

namespace BettaPay.Settlement

open BettaPay.Host
open BettaPay.Common

/-! A quorum can empty the timelock queue. -/

variable {codec : Codec} {env : Env} {state : State}

/-- Every slot is that of a listed operation. -/
def State.ListedIn (state : State) (codec : Codec)
    (operations : List Operation) : Prop :=
  ∀ opHash slot, state.scheduledOperation opHash = some slot →
    ∃ operation ∈ operations, codec.holds operation opHash slot = true

/-- There are no slots but those of operations that were scheduled. -/
theorem Reachable.listed (reachable : Reachable codec state) :
    ∃ operations : List Operation,
      operations.length = size state.scheduledOperation ∧
      state.ListedIn codec operations := by
  obtain ⟨inputs, rfl⟩ := reachable
  have scheduled : ∀ opHash slot,
      (run (step codec) State.initial inputs).scheduledOperation opHash =
        some slot →
      ∃ operation, codec.holds operation opHash slot = true := by
    intro opHash slot stored
    rw [← stateAt_of_length_le (Nat.le_refl _)] at stored
    obtain ⟨_, _, _, operation, _, _, _, scheduling⟩ := slot_scheduled stored
    exact ⟨operation,
      Codec.holds_eq_true.mpr ⟨scheduling.indexed, scheduling.encoded⟩⟩
  generalize run (step codec) State.initial inputs = state at scheduled
  have named : ∀ opHash, ∃ operation : Operation, ∀ slot,
      state.scheduledOperation opHash = some slot →
        codec.holds operation opHash slot = true := by
    intro opHash
    cases stored : state.scheduledOperation opHash with
    | none => exact ⟨.cancelRecovery, fun _ impossible => by cases impossible⟩
    | some slot =>
        obtain ⟨operation, held⟩ := scheduled opHash slot stored
        refine ⟨operation, ?_⟩
        rintro _ ⟨⟩
        exact held
  choose operationAt encodes using named
  have taken := Set.toFinite
    {opHash | (state.scheduledOperation opHash).isSome}
  refine ⟨taken.toFinset.toList.map operationAt, ?_, ?_⟩
  · rw [List.length_map, Finset.length_toList, size,
      Set.ncard_eq_toFinset_card _ taken]
  · intro opHash slot stored
    refine ⟨operationAt opHash, ?_, encodes opHash slot stored⟩
    apply List.mem_map_of_mem
    rw [Finset.mem_toList, Set.Finite.mem_toFinset]
    exact Option.isSome_iff_exists.mpr ⟨slot, stored⟩

/-- A batch leaves the operations that it does not list. -/
theorem Drained.listed {batch rest : List Operation} {count : Nat}
    {before after : State}
    (drained : Drained codec batch count before after)
    (listed : before.ListedIn codec (batch ++ rest)) :
    after.ListedIn codec rest := by
  intro opHash slot stored
  rw [drained.slots, eraseIf_eq_some] at stored
  obtain ⟨stored, spared⟩ := stored
  obtain ⟨operation, member, held⟩ := listed opHash slot stored
  rcases List.mem_append.mp member with taken | left
  · rw [← Bool.not_eq_true, List.any_eq_true] at spared
    exact absurd ⟨operation, taken, held⟩ spared
  · exact ⟨operation, left, held⟩

theorem cancelEach_runs {operations : List Operation} {start : Nat} :
    ∃ total after, cancelEach codec operations start state =
      .ok (total, after) := by
  induction operations generalizing start state with
  | nil => exact ⟨start, state, rfl⟩
  | cons operation rest induction =>
      rw [cancelEach_cons]
      split
      · exact induction
      · exact induction

/-- The calls that cancel the batches, one after the other. -/
def cancelBatches (env : Env) (signers : List Address)
    (batches : List (List Operation)) : List Input :=
  batches.map fun batch => ⟨env, .cancelAll signers batch⟩

/-- As many batches as it takes empty the queue and do nothing else. -/
theorem drains {signers : List Address} {caller : Address} {rounds : Nat}
    {operations : List Operation} (few : operations.length ≤ 50 * rounds)
    (listed : state.ListedIn codec operations)
    (head : signers.head? = some caller)
    (quorum : state.authority.Quorum env.toLedger signers)
    (unpaused : state.isPaused = false) :
    ∃ batches counter events, batches.length = rounds ∧
      run (step codec) state (cancelBatches env signers batches) =
        { state with
          scheduledOperation := fun _ => none
          pendingOperationCount := counter
          events := events } ∧
      (counter.getD 0).toNat =
        state.readPendingOperationCount.toNat -
          size state.scheduledOperation := by
  induction rounds generalizing state operations with
  | zero =>
      have none : operations = [] := List.eq_nil_of_length_eq_zero (by omega)
      have empty : state.scheduledOperation = fun _ => Option.none := by
        funext opHash
        cases stored : state.scheduledOperation opHash with
        | none => rfl
        | some slot =>
            obtain ⟨operation, member, _⟩ := listed opHash slot stored
            rw [none] at member
            cases member
      refine ⟨[], state.pendingOperationCount, state.events, rfl, ?_, ?_⟩
      · rw [← empty]
        rfl
      · rw [empty, size_empty]
        rfl
  | succ rounds induction =>
      have batched : (operations.take 50).length ≤ 50 :=
        List.length_take_le ..
      have left : (operations.drop 50).length ≤ 50 * rounds := by
        rw [List.length_drop]
        omega
      obtain ⟨total, middle, looped⟩ := @cancelEach_runs codec state
        (operations.take 50) 0
      obtain ⟨count, rfl, _, drained⟩ := cancelEach_ok looped
      have ran := cancelAll_ran head quorum unpaused batched looped
      have rest := drained.listed
        (by rwa [List.take_append_drop] : state.ListedIn codec
          (operations.take 50 ++ operations.drop 50))
      have sized := drained.sized
      have counted := drained.counter
      obtain ⟨slots, counter, rfl⟩ := drained.unchanged
      obtain ⟨batches, counter', events, enough, emptied, counted'⟩ :=
        @induction { state with
            scheduledOperation := slots
            pendingOperationCount := counter
            events := state.events ++ [.opCancelledBatch caller
              (UInt32.ofNat (0 + count))] }
          (operations.drop 50) left rest quorum unpaused
      refine ⟨operations.take 50 :: batches, counter', events, ?_, ?_, ?_⟩
      · rw [List.length_cons, enough]
      · have committed : step codec
            ⟨env, .cancelAll signers (operations.take 50)⟩ state = _ :=
          replying_ok.mpr ⟨_, ran, rfl⟩
        rw [cancelBatches, List.map_cons, run_cons, commit_of_ok committed]
        exact emptied
      · simp only [State.readPendingOperationCount] at sized counted counted' ⊢
        omega

end BettaPay.Settlement
