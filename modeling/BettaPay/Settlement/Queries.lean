import BettaPay.Settlement.Cache
import BettaPay.Settlement.Lifetimes

namespace BettaPay.Settlement

open BettaPay.Host
open BettaPay.Common

/-! What anyone may ask of the contract, and whether the asking is felt. -/

/-- The queries that nobody has to authorize. -/
def Call.isPublic : Call → Bool
  | .getPaymentReference _ _ _ => false
  | .getPayments _ _ _ _ => false
  | .getPaymentCount _ _ => false
  | call => call.isQuery

/-- A run, edited by inserting and deleting public queries. -/
inductive Edit where
  | keep (input : Input)
  | insert (query : Input) (anyone : query.call.isPublic = true)
  | delete (query : Input) (anyone : query.call.isPublic = true)

def Edit.original : Edit → List Input
  | .keep input => [input]
  | .insert _ _ => []
  | .delete query _ => [query]

def Edit.edited : Edit → List Input
  | .keep input => [input]
  | .insert query _ => [query]
  | .delete _ _ => []

/-- The states of the two runs after the first `index` edits. -/
def originalAt (codec : Codec) (script : List Edit) (index : Nat) : State :=
  run (step codec) State.initial ((script.take index).flatMap Edit.original)

def editedAt (codec : Codec) (script : List Edit) (index : Nat) : State :=
  run (step codec) State.initial ((script.take index).flatMap Edit.edited)

/-- The same entries and events, whatever the lifetimes. -/
def State.Alike (state other : State) : Prop :=
  ∃ live, other = state.aged live

/-- The two runs hold the same entries and have published the same events
after `index` edits, and a call that both of them make there returns the
same. -/
structure Unfelt (codec : Codec) (script : List Edit) (index : Nat) :
    Prop where
  stored : State.Alike (originalAt codec script index)
    (editedAt codec script index)
  answered : ∀ input, script[index]? = some (.keep input) →
    (step codec input (originalAt codec script index)).map Prod.fst =
      (step codec input (editedAt codec script index)).map Prod.fst

/-- The query fails, does not get as far as governance, gets no configuration
from it, or gets the one that is cached. -/
def Inert (codec : Codec) (query : Input) (state : State) : Prop :=
  (step codec query state).isOk = true →
    query.call.reachesGovernance state = true →
    ∀ config, state.reading query.env = .answered (some config) →
      state.cachedGovRule = some (some config.toRule)

theorem State.Alike.refl (state : State) : state.Alike state :=
  ⟨state.liveUntil, rfl⟩

theorem State.Alike.symm {state other : State} (alike : state.Alike other) :
    other.Alike state := by
  obtain ⟨live, rfl⟩ := alike
  exact ⟨state.liveUntil, rfl⟩

theorem State.Alike.trans {first second third : State}
    (left : first.Alike second) (right : second.Alike third) :
    first.Alike third := by
  obtain ⟨_, rfl⟩ := left
  obtain ⟨live, rfl⟩ := right
  exact ⟨live, rfl⟩

theorem State.Alike.cache {state other : State}
    (alike : state.Alike other) :
    other.cachedGovRule = state.cachedGovRule := by
  obtain ⟨_, rfl⟩ := alike
  rfl

/-- A call cannot tell alike states apart. -/
theorem State.Alike.step {codec : Codec} {state other : State}
    (alike : state.Alike other) (input : Input) :
    (step codec input state).map Prod.fst =
        (Settlement.step codec input other).map Prod.fst ∧
      (commit (Settlement.step codec) state input).Alike
        (commit (Settlement.step codec) other input) := by
  obtain ⟨live, rfl⟩ := alike
  have ageless : Ageless (Settlement.step codec input) := ageless_invoke
  cases attempt : Settlement.step codec input state with
  | ok outcome =>
      rcases outcome with ⟨reply, after⟩
      obtain ⟨live', succeeded⟩ := ageless.ok live attempt
      rw [commit_of_ok attempt, commit_of_ok succeeded, succeeded]
      exact ⟨rfl, live', rfl⟩
  | error failure =>
      have failed := ageless.error live attempt
      rw [commit_of_error attempt, commit_of_error failed, failed]
      exact ⟨rfl, live, rfl⟩

theorem Call.isQuery_of_isPublic {call : Call}
    (anyone : call.isPublic = true) : call.isQuery = true := by
  cases call <;> first | rfl | cases anyone

/-- A public query is felt exactly when it is not inert. -/
theorem inert_iff_alike {codec : Codec} {query : Input} {state : State}
    (anyone : query.call.isPublic = true) :
    Inert codec query state ↔
      state.Alike (commit (step codec) state query) := by
  cases attempt : step codec query state with
  | error failure =>
      rw [commit_of_error attempt]
      refine ⟨fun _ => .refl state, fun _ succeeded => ?_⟩
      rw [attempt] at succeeded
      cases succeeded
  | ok outcome =>
      rcases outcome with ⟨reply, after⟩
      rw [commit_of_ok attempt]
      have cache := (invoke_cache attempt).trans
        (query.call.cacheAfter_eq query.env state)
      constructor
      · intro inert
        have kept : after.cachedGovRule = state.cachedGovRule := by
          rw [cache]
          split
          · rename_i reaches
            unfold State.refreshedCache
            split
            · rename_i config answered
              exact (inert (by simp [attempt, Except.isOk, Except.toBool])
                reaches config answered).symm
            · rfl
          · rfl
        obtain ⟨_, live, _, rfl⟩ := (invoke_effect attempt).of_isQuery
          (Call.isQuery_of_isPublic anyone)
        refine ⟨live, ?_⟩
        rw [State.soft_cachedGovRule] at kept
        simp [State.soft, State.aged, kept]
      · intro alike _ reaches config answered
        rw [alike.cache, reaches, if_pos rfl] at cache
        rw [cache, State.refreshedCache, answered]

/-! The two runs of a script. -/

section Scripts

variable {codec : Codec} {script : List Edit} {index : Nat}

theorem originalAt_succ {edit : Edit} (here : script[index]? = some edit) :
    originalAt codec script (index + 1) =
      run (step codec) (originalAt codec script index) edit.original := by
  rw [originalAt, List.take_add_one, here, List.flatMap_append, run_append]
  simp [originalAt]

theorem editedAt_succ {edit : Edit} (here : script[index]? = some edit) :
    editedAt codec script (index + 1) =
      run (step codec) (editedAt codec script index) edit.edited := by
  rw [editedAt, List.take_add_one, here, List.flatMap_append, run_append]
  simp [editedAt]

theorem at_succ_of_none (past : script[index]? = none) :
    originalAt codec script (index + 1) = originalAt codec script index ∧
      editedAt codec script (index + 1) = editedAt codec script index := by
  simp [originalAt, editedAt, List.take_add_one, past]

/-- Every query that only one of the runs makes at this point is inert
there. -/
structure InertAt (codec : Codec) (script : List Edit) (index : Nat) :
    Prop where
  inserted : ∀ query anyone, script[index]? = some (.insert query anyone) →
    Inert codec query (editedAt codec script index)
  deleted : ∀ query anyone, script[index]? = some (.delete query anyone) →
    Inert codec query (originalAt codec script index)

theorem InertAt.of_unedited
    (unedited : ∀ query anyone, script[index]? ≠ some (.insert query anyone) ∧
      script[index]? ≠ some (.delete query anyone)) :
    InertAt codec script index where
  inserted := fun query anyone here => absurd here (unedited query anyone).1
  deleted := fun query anyone here => absurd here (unedited query anyone).2

theorem inertAt_insert_iff {query : Input} {anyone : query.call.isPublic}
    (here : script[index]? = some (.insert query anyone)) :
    InertAt codec script index ↔
      Inert codec query (editedAt codec script index) := by
  constructor
  · intro inert
    exact inert.inserted query anyone here
  · intro inert
    constructor
    · intro query' anyone' found
      cases here.symm.trans found
      exact inert
    · intro query' anyone' found
      cases here.symm.trans found

theorem inertAt_delete_iff {query : Input} {anyone : query.call.isPublic}
    (here : script[index]? = some (.delete query anyone)) :
    InertAt codec script index ↔
      Inert codec query (originalAt codec script index) := by
  constructor
  · intro inert
    exact inert.deleted query anyone here
  · intro inert
    constructor
    · intro query' anyone' found
      cases here.symm.trans found
    · intro query' anyone' found
      cases here.symm.trans found
      exact inert

theorem alike_succ_iff
    (alike : (originalAt codec script index).Alike
      (editedAt codec script index)) :
    (originalAt codec script (index + 1)).Alike
        (editedAt codec script (index + 1)) ↔
      InertAt codec script index := by
  cases here : script[index]? with
  | none =>
      obtain ⟨same, same'⟩ := @at_succ_of_none codec _ _ here
      rw [same, same']
      exact ⟨fun _ => .of_unedited (by simp [here]), fun _ => alike⟩
  | some edit =>
      rw [originalAt_succ here, editedAt_succ here]
      cases edit with
      | keep input =>
          exact ⟨fun _ => .of_unedited (by simp [here]),
            fun _ => (alike.step input).2⟩
      | insert query anyone =>
          rw [inertAt_insert_iff here, inert_iff_alike anyone]
          exact ⟨alike.symm.trans, alike.trans⟩
      | delete query anyone =>
          rw [inertAt_delete_iff here, inert_iff_alike anyone]
          constructor
          · intro next
            exact alike.trans next.symm
          · intro unfelt
            exact unfelt.symm.trans alike

end Scripts

/-- Inserting and deleting public queries leaves the results of all other
calls, the events and the stored values of a run as they are, exactly when
every one of these queries is inert: it refreshes no cached governance rule. -/
theorem queries_unfelt_iff (codec : Codec) (script : List Edit) :
    (∀ index, Unfelt codec script index) ↔
      ∀ index, InertAt codec script index := by
  have alike : (∀ index, (originalAt codec script index).Alike
      (editedAt codec script index)) ↔
      ∀ index, InertAt codec script index := by
    apply forall_iff_of_succ_iff
    · exact .refl _
    · intro index current
      exact alike_succ_iff current
  rw [← alike]
  constructor
  · intro unfelt index
    exact (unfelt index).stored
  · intro alike index
    exact ⟨alike index, fun input _ => ((alike index).step input).1⟩

/-- A payment while governance does not answer. -/
def outagePayment : Input where
  env := (Env.granting 200).muted
  call := .storePaymentReference (.account 3) 1 ⟨10000, by decide, by decide⟩

/-- A merchant without a rule is paid during an outage; the edited run previews
the rule before, while governance still answers. -/
def previewScript : List Edit :=
  [.keep ⟨.granting 0, .init (.account 9) [.account 1] 1 (.contract 5)
      (.account 2)⟩,
    .keep ⟨.granting 50, .registerMerchant [.account 1] (.account 3)⟩,
    .insert ⟨.quoting 100 ⟨200, 10⟩, .getEffectiveRule (.account 3)⟩ rfl,
    .keep outagePayment]

/-- The preview changes what the payment is charged. -/
theorem preview_changes_payment :
    (step sampleCodec outagePayment
        (originalAt sampleCodec previewScript 3)).map Prod.fst ≠
      (step sampleCodec outagePayment
        (editedAt sampleCodec previewScript 3)).map Prod.fst ∧
      ¬ ∀ index, Unfelt sampleCodec previewScript index := by
  have differs : (step sampleCodec outagePayment
        (originalAt sampleCodec previewScript 3)).map Prod.fst ≠
      (step sampleCodec outagePayment
        (editedAt sampleCodec previewScript 3)).map Prod.fst := by
    decide
  exact ⟨differs, fun unfelt => differs ((unfelt 3).answered _ rfl)⟩

end BettaPay.Settlement
