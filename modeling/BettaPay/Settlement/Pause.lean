import BettaPay.Settlement.Authorization
import BettaPay.Settlement.Control

namespace BettaPay.Settlement

open BettaPay.Host
open BettaPay.Host.Tx (readState writeState)
open BettaPay.Common

/-! What the pause switch freezes. -/

/-- Payment and merchant state, and the timelock queue. -/
def Entry.isFrozen : Entry → Bool
  | .governance => true
  | .defaultRule => true
  | .pendingOperationCount => true
  | .rule _ => true
  | .merchant _ => true
  | .archivedMerchant _ => true
  | .scheduledOperation _ => true
  | .payment _ _ => true
  | .paymentCount _ => true
  | _ => false

def Frozen (before after : State) : Prop :=
  ∀ entry : Entry, entry.isFrozen = true → entry.Same before after

theorem Confined.frozen {before after : State} {entries : List Entry}
    (confined : Confined before after entries)
    (unfrozen : ∀ entry, entry ∈ entries → entry.isFrozen = false) :
    Frozen before after := by
  intro entry frozen
  apply confined
  intro listed
  rw [unfrozen entry listed] at frozen
  cases frozen

theorem State.soft_frozen (state : State)
    (cache : Option (Option SettlementRule)) (live : PersistentKey → Nat)
    (events : List Event) :
    Frozen state (state.soft cache live events) :=
  fun entry _ => state.soft_same cache live events entry

/-! Only an initialized contract can be paused. -/

/-- The switch moves only with a quorum behind it. -/
theorem Effect.paused_kept_or_quorum {codec : Codec} {env : Env}
    {state after : State} {call : Call}
    (effect : Effect codec env state call after) :
    after.paused = state.paused ∨
      ∃ signers, state.authority.Quorum env.toLedger signers := by
  cases effect with
  | execute queued unpaused matured unvetoed applied =>
      left
      cases applied <;> rfl
  | pause quorum => exact .inr ⟨_, quorum⟩
  | unpause quorum => exact .inr ⟨_, quorum⟩
  | cancelAll quorum => exact .inr ⟨_, quorum⟩
  | administer _ quorum => exact .inr ⟨_, quorum⟩
  | prunePayments quorum => exact .inr ⟨_, quorum⟩
  | _ => exact .inl rfl

theorem Effect.initialized {codec : Codec} {env : Env}
    {state after : State} {call : Call}
    (effect : Effect codec env state call after)
    (initialized : state.admin.isSome) : after.admin.isSome :=
  effect.stepped.initialized initialized

theorem Reachable.paused_initialized {codec : Codec} {state : State}
    (reachable : Reachable codec state) (paused : state.isPaused = true) :
    state.admin.isSome := by
  apply reachable.induction
    (fun state => state.isPaused = true → state.admin.isSome)
  · intro paused
    cases paused
  · intro env call before reply after initialized succeeded paused
    have effect := invoke_effect succeeded
    apply effect.initialized
    rcases effect.paused_kept_or_quorum with kept | ⟨signers, quorum⟩
    · apply initialized
      rwa [State.isPaused, ← kept]
    · exact quorum.initialized
  · exact paused

/-! What a paused contract still does. -/

theorem Operation.unfrozen_of_ignoresPause {operation : Operation}
    (ignores : operation.ignoresPause = true) :
    ∀ entry, entry ∈ operation.writes → entry.isFrozen = false := by
  cases operation with
  | transferAdmin | upgrade => simp [Operation.writes, Entry.isFrozen]
  | _ => cases ignores

/-- Every call but the batch prune leaves the frozen entries alone. -/
theorem Effect.frozen {codec : Codec} {env : Env} {state after : State}
    {call : Call} (effect : Effect codec env state call after)
    (initialized : state.admin.isSome) (paused : state.isPaused = true)
    (single : ∀ signers merchant refs,
      call ≠ .prunePayments signers merchant refs) :
    Frozen state after := by
  cases effect with
  | init uninitialized =>
      rw [uninitialized] at initialized
      cases initialized
  | prunePayments => exact absurd rfl (single _ _ _)
  | administer direct quorum unpaused agreed prepared applied =>
      subst prepared
      rcases unpaused with unpaused | ignores
      · rw [paused] at unpaused
        cases unpaused
      · exact applied.confined.frozen
          (Operation.unfrozen_of_ignoresPause ignores)
  | initiateRecovery | cancelRecovery | updateRecoveryAddress
  | executeRecovery | changeThreshold | pause | unpause | query =>
      intro entry frozen
      cases entry <;> first | rfl | cases frozen
  | _ =>
      rename state.isPaused = false => unpaused
      rw [paused] at unpaused
      cases unpaused

/-! The batch prune does not ask for the switch. -/

theorem pruneEach_absent {merchant : Address} {refs : List (BytesN 32)}
    {start : Nat} {state : State}
    (absent : ∀ reference, reference ∈ refs →
      state.payment merchant reference = none) :
    pruneEach merchant refs start state = .ok (start, state) := by
  induction refs with
  | nil => rfl
  | cons reference rest induction =>
      have missing := absent reference (List.mem_cons_self ..)
      simp only [pruneEach, Tx.readState_bind, missing, Option.isSome_none,
        Bool.false_eq_true, if_false]
      apply induction
      intro other listed
      exact absent other (List.mem_cons_of_mem _ listed)

theorem prunePayments_absent {env : Env} {signers : List Address}
    {merchant : Address} {refs : List (BytesN 32)} {before after : State}
    {removed : UInt32}
    (absent : ∀ reference, reference ∈ refs →
      before.payment merchant reference = none)
    (succeeded : prunePayments env signers merchant refs before =
      .ok (removed, after)) : Frozen before after := by
  simp only [prunePayments, Tx.bind_ok, verifyThresholdAuth_ok, rejectIf_ok,
    unwrapFirst_ok, emit_ok, Tx.pure_ok] at succeeded
  obtain ⟨_, _, ⟨_, rfl⟩, _, _, ⟨_, rfl⟩, count, _, looped, _, _, lowered,
    admin, _, ⟨_, rfl⟩, _, _, rfl, _, rfl⟩ := succeeded
  rw [pruneEach_absent absent] at looped
  cases looped
  have idle : decrementPaymentCount env merchant 0 before =
      .ok ((), before) := rfl
  cases idle.symm.trans lowered
  exact before.soft_frozen _ _ _

/-- The batch names no stored payment. -/
def Call.PrunesNothing (state : State) : Call → Prop
  | .prunePayments _ merchant refs => ∀ reference, reference ∈ refs →
      state.payment merchant reference = none
  | _ => True

theorem Effect.pruned_absent {codec : Codec} {env : Env}
    {state after : State} {signers : List Address} {merchant : Address}
    {refs : List (BytesN 32)} {reference : BytesN 32}
    (effect : Effect codec env state
      (.prunePayments signers merchant refs) after)
    (listed : reference ∈ refs) :
    after.payment merchant reference = none := by
  cases effect with
  | prunePayments quorum bounded pruned counted =>
      have table := pruned.table
      subst table
      simp only [State.soft_payment, Function.update_self]
      apply Option.eq_none_iff_forall_ne_some.mpr
      intro record stored
      have unlisted := (eraseIf_eq_some.mp stored).2
      rw [List.contains_iff_mem.mpr listed] at unlisted
      cases unlisted
  | administer direct => cases direct
  | query reads => cases reads

/-- A successful call on a paused contract leaves all payments and their
counts, merchants, archive markers, rules, the default rule, the governance
address and the timelock queue as they were, exactly unless it is a batch
prune that names a stored payment. -/
theorem pause_freezes_iff_prunes_nothing (codec : Codec) (env : Env)
    (call : Call) (state after : State) (reply : Reply)
    (reachable : Reachable codec state) (paused : state.isPaused = true)
    (succeeded : invoke codec env call state = .ok (reply, after)) :
    Frozen state after ↔ call.PrunesNothing state := by
  have effect := invoke_effect succeeded
  have initialized := reachable.paused_initialized paused
  cases call with
  | prunePayments signers merchant refs =>
      constructor
      · intro frozen reference listed
        have same : after.payment merchant reference =
          state.payment merchant reference :=
            frozen (.payment merchant reference) rfl
        rw [← same]
        exact effect.pruned_absent listed
      · intro absent
        simp only [invoke, replying_ok] at succeeded
        obtain ⟨removed, done, _⟩ := succeeded
        exact prunePayments_absent absent done
  | _ =>
      constructor
      · intro _
        trivial
      · intro _
        apply effect.frozen initialized paused
        intro _ _ _ same
        cases same

/-- A payment is stored, the contract is paused, and two batches follow: one
names an unknown reference, the other the stored one. -/
def samplePausedRun : List Input :=
  [⟨.granting 0, .init (.account 9) [.account 1] 1 (.contract 5)
      (.account 2)⟩,
    ⟨.granting 100, .registerMerchant [.account 1] (.account 6)⟩,
    ⟨.granting 200, .storePaymentReference (.account 6) 1 minPaymentAmount⟩,
    ⟨.granting 300, .pause [.account 1] 1⟩,
    ⟨.granting 400, .prunePayments [.account 1] (.account 6) [2]⟩,
    ⟨.granting 500, .prunePayments [.account 1] (.account 6) [1]⟩]

theorem pause_freezes_iff_prunes_nothing_sample :
    (stateBefore sampleCodec samplePausedRun 4).isPaused = true ∧
    (Frozen (stateBefore sampleCodec samplePausedRun 4)
        (stateBefore sampleCodec samplePausedRun 5) ↔
      (Call.prunePayments [.account 1] (.account 6) [2]).PrunesNothing
        (stateBefore sampleCodec samplePausedRun 4)) := by
  have committed : Commits sampleCodec samplePausedRun 4 (.granting 400)
      (.prunePayments [.account 1] (.account 6) [2]) :=
    commits_of_accepted rfl (by decide)
  obtain ⟨reply, _, succeeded⟩ := committed
  have paused :
      (stateBefore sampleCodec samplePausedRun 4).isPaused = true := by
    decide
  exact ⟨paused, pause_freezes_iff_prunes_nothing sampleCodec _ _ _ _ reply
    ⟨_, rfl⟩ paused succeeded⟩

theorem pause_forgotten_by_batch_prune :
    ¬ ∀ env call state after reply, Reachable sampleCodec state →
      state.isPaused = true →
      invoke sampleCodec env call state = .ok (reply, after) →
      (∀ signers newWasmHash, call ≠ .upgrade signers newWasmHash) →
      (∀ executor wasmHash, call ≠ .execute executor (.upgrade wasmHash)) →
      (∀ signers, call ≠ .unpause signers) → Frozen state after := by
  intro freezes
  have committed : Commits sampleCodec samplePausedRun 5 (.granting 500)
      (.prunePayments [.account 1] (.account 6) [1]) :=
    commits_of_accepted rfl (by decide)
  obtain ⟨reply, _, succeeded⟩ := committed
  have frozen := freezes _ _ _ _ reply ⟨_, rfl⟩ (by decide) succeeded
    (by simp) (by simp) (by simp)
  have lost : ¬ Entry.Same (stateBefore sampleCodec samplePausedRun 5)
      (stateBefore sampleCodec samplePausedRun 6)
      (.payment (.account 6) 1) := by decide
  exact lost (frozen (.payment (.account 6) 1) rfl)

end BettaPay.Settlement
