import BettaPay.Common.Recovery

namespace BettaPay.Common

open BettaPay.Host

/-! What the recovery address can bring about on its own. -/

/-- A controlled machine whose recovery calls commit whenever the authority
lets them, and which a quorum can set going again. -/
structure Recoverable (σ ε ι ο : Type) extends Controlled σ ε ι ο where
  paused : σ → Bool
  unpauses : ι → Option (List Address)
  upgrades : ι → Bool
  initiates : ∀ {input state newAdmin recovery}, (authority state).Sound →
    action input = .initiate newAdmin →
    (authority state).recoveryAddress = some recovery →
    (ledger input).auths recovery = true →
    newAdmin ≠ zeroAddress →
    (authority state).pendingRecovery = none →
    (ledger input).timestamp.toNat + recoveryDelaySeconds.toNat < 2 ^ 64 →
    ∃ reply after, step input state = .ok (reply, after)
  executes : ∀ {input state pending}, (authority state).Sound →
    action input = .execute →
    (authority state).pendingRecovery = some pending →
    pending.executeAfter ≤ (ledger input).timestamp →
    ∃ reply after, step input state = .ok (reply, after)
  resumes : ∀ {input state signers}, (authority state).Sound →
    unpauses input = some signers →
    (authority state).Quorum (ledger input) signers →
    paused state = true →
    ∃ reply after, step input state = .ok (reply, after) ∧
      paused after = false
  keepsPause : ∀ {input state signers reply after},
    unpauses input = some signers → paused state = false →
    step input state = .ok (reply, after) → paused after = false

namespace Recoverable

variable {σ ε ι ο : Type} (machine : Recoverable σ ε ι ο)

/-- No call that commits replaces the code of the contract. -/
def Unreplaced (start : σ) (inputs : List ι) : Prop :=
  ∀ index input reply,
    Succeeds machine.step start inputs index input reply →
    machine.upgrades input = false

/-- The call has nothing to do with a recovery that is under way, and leaves
the code as it is. -/
structure Apart (input : ι) : Prop where
  unfinished : machine.action input ≠ .execute
  unvetoed : machine.action input ≠ .cancelQueued
  uncancelled : ∀ signers, machine.action input ≠ .cancel signers
  unreplaced : machine.upgrades input = false

/-- No call that commits cancels or completes a recovery or replaces the
code. -/
def Undisturbed (start : σ) (inputs : List ι) : Prop :=
  ∀ index input reply,
    Succeeds machine.step start inputs index input reply →
    machine.Apart input

variable {machine} {state : σ} {input : ι}

theorem apart_of_other (unrelated : machine.action input = .other)
    (unreplaced : machine.upgrades input = false) :
    machine.Apart input where
  unfinished := by
    rw [unrelated]
    nofun
  unvetoed := by
    rw [unrelated]
    nofun
  uncancelled := by
    rw [unrelated]
    nofun
  unreplaced := unreplaced

theorem undisturbed_of_apart {inputs : List ι}
    (apart : ∀ input ∈ inputs, machine.Apart input) :
    machine.Undisturbed state inputs := by
  intro index input reply succeeded
  exact apart input (List.mem_of_getElem? succeeded.1)

/-- A pending recovery that is due is out of the way after an execution. -/
theorem cleared (sound : (machine.authority state).Sound)
    {recovery : Address}
    (stored : (machine.authority state).recoveryAddress = some recovery)
    (executes : machine.action input = .execute)
    (due : ∀ pending,
      (machine.authority state).pendingRecovery = some pending →
      pending.executeAfter ≤ (machine.ledger input).timestamp) :
    (machine.authority (commit machine.step state input)).Sound ∧
      (machine.authority
        (commit machine.step state input)).recoveryAddress = some recovery ∧
      (machine.authority
        (commit machine.step state input)).pendingRecovery = none := by
  cases attempt : machine.step input state with
  | ok outcome =>
      rcases outcome with ⟨reply, after⟩
      rw [commit_of_ok attempt]
      have stepped := machine.refines attempt
      refine ⟨stepped.sound sound, ?_⟩
      rw [executes] at stepped
      cases installed : machine.authority after
      rw [installed] at stepped
      cases stepped with
      | execute pending matured => exact ⟨stored, rfl⟩
  | error failure =>
      rw [commit_of_error attempt]
      refine ⟨sound, stored, ?_⟩
      cases waiting : (machine.authority state).pendingRecovery with
      | none => rfl
      | some pending =>
          obtain ⟨reply, after, ran⟩ :=
            machine.executes sound executes waiting (due pending waiting)
          cases attempt.symm.trans ran

/-- An initiation by the recovery address is recorded with its deadline. -/
theorem begun {newAdmin recovery : Address}
    (sound : (machine.authority state).Sound)
    (initiates : machine.action input = .initiate newAdmin)
    (stored : (machine.authority state).recoveryAddress = some recovery)
    (signed : (machine.ledger input).auths recovery = true)
    (nonzero : newAdmin ≠ zeroAddress)
    (absent : (machine.authority state).pendingRecovery = none)
    (fits : (machine.ledger input).timestamp.toNat +
      recoveryDelaySeconds.toNat < 2 ^ 64) :
    (machine.authority (commit machine.step state input)).Sound ∧
      ∃ pending, (machine.authority
          (commit machine.step state input)).pendingRecovery =
            some pending ∧
        pending.newAdmin = newAdmin ∧
        pending.executeAfter.toNat =
          (machine.ledger input).timestamp.toNat +
            recoveryDelaySeconds.toNat := by
  obtain ⟨reply, after, ran⟩ :=
    machine.initiates sound initiates stored signed nonzero absent fits
  rw [commit_of_ok ran]
  have stepped := machine.refines ran
  refine ⟨stepped.sound sound, ?_⟩
  rw [initiates] at stepped
  cases installed : machine.authority after
  rw [installed] at stepped
  cases stepped with
  | initiate _ _ _ _ deadline => exact ⟨_, rfl, rfl, deadline⟩

/-- A recovery that nobody cancels or completes stays as it is. -/
theorem undisturbed_kept {inputs : List ι} {pending : PendingRecovery}
    (quiet : machine.Undisturbed state inputs)
    (waiting : (machine.authority state).pendingRecovery = some pending) :
    (machine.authority (run machine.step state inputs)).pendingRecovery =
      some pending := by
  have kept := @stateAt_kept _ _ _ _ machine.step state inputs 0
    inputs.length
    (fun state => (machine.authority state).pendingRecovery = some pending)
    (Nat.zero_le _) ?_ waiting
  · rwa [stateAt_of_length_le (Nat.le_refl _)] at kept
  · intro index input reply _ _ succeeded stored
    have apart := quiet index input reply succeeded
    rcases (machine.refines succeeded.2).pending_kept_or_ended stored with
      ⟨kept, _⟩ | ⟨_, ended⟩
    · exact kept
    · cases named : machine.action input <;> rw [named] at ended <;>
        cases ended
      · exact absurd named (apart.uncancelled _)
      · exact absurd named (apart.uncancelled _)
      · exact absurd named apart.unvetoed
      · exact absurd named apart.unfinished

/-- From any sound state the recovery address hands the contract to an
address of its choice: it has a recovery that is already due completed,
initiates its own and completes it after the delay, whatever anyone calls in
between, short of cancelling or completing it or replacing the code. -/
theorem takes_over (sound : (machine.authority state).Sound)
    {clear begin finish : ι} {noise : List ι} {newAdmin recovery : Address}
    (stored : (machine.authority state).recoveryAddress = some recovery)
    (clears : machine.action clear = .execute)
    (due : ∀ pending,
      (machine.authority state).pendingRecovery = some pending →
      pending.executeAfter ≤ (machine.ledger clear).timestamp)
    (begins : machine.action begin = .initiate newAdmin)
    (signed : (machine.ledger begin).auths recovery = true)
    (nonzero : newAdmin ≠ zeroAddress)
    (quiet : machine.Undisturbed
      (run machine.step state [clear, begin]) noise)
    (finishes : machine.action finish = .execute)
    (waited : (machine.ledger begin).timestamp.toNat +
        recoveryDelaySeconds.toNat ≤
      (machine.ledger finish).timestamp.toNat) :
    let final := machine.authority
      (run machine.step state (clear :: begin :: noise ++ [finish]))
    final.Sound ∧ final.admin = some [newAdmin] ∧
      final.threshold = some 1 ∧ final.pendingRecovery = none := by
  intro final
  obtain ⟨sound', stored', absent⟩ := cleared sound stored clears due
  have bound := (machine.ledger finish).timestamp.toNat_lt
  obtain ⟨sound'', pending, waiting, named, deadline⟩ :=
    begun sound' begins stored' signed nonzero absent (by omega)
  have kept := undisturbed_kept quiet waiting
  have steady : (machine.authority (run machine.step
      (run machine.step state [clear, begin]) noise)).Sound :=
    run_invariant (fun state => (machine.authority state).Sound)
      (fun sound succeeded => (machine.refines succeeded).sound sound)
      sound'' noise
  have matured : pending.executeAfter ≤
      (machine.ledger finish).timestamp := by
    rw [UInt64.le_iff_toNat_le, deadline]
    exact waited
  obtain ⟨reply, after, ran⟩ :=
    machine.executes steady finishes kept matured
  have reached : run machine.step state
      (clear :: begin :: noise ++ [finish]) = after := by
    have split : clear :: begin :: noise ++ [finish] =
        [clear, begin] ++ (noise ++ [finish]) := rfl
    rw [split, run_append, run_append, run_cons, run_nil]
    exact commit_of_ok ran
  have stepped := machine.refines ran
  have solid := stepped.sound steady
  rw [finishes] at stepped
  rw [← reached] at stepped solid
  change Authority.Step _ _ _ final at stepped
  refine ⟨solid, ?_⟩
  cases installed : final
  rw [installed] at stepped
  cases stepped with
  | execute found _ =>
      cases found.symm.trans kept
      rw [named]
      exact ⟨rfl, rfl, rfl⟩

/-- A sole admin can set the contract going. -/
theorem resumed (sound : (machine.authority state).Sound)
    {admin : Address}
    (stored : (machine.authority state).admin = some [admin])
    (required : (machine.authority state).threshold = some 1)
    (unpauses : machine.unpauses input = some [admin])
    (signed : (machine.ledger input).auths admin = true) :
    machine.paused (commit machine.step state input) = false := by
  cases stopped : machine.paused state with
  | true =>
      obtain ⟨reply, after, ran, going⟩ := machine.resumes sound unpauses
        (Authority.quorum_of_sole stored required signed) stopped
      rw [commit_of_ok ran]
      exact going
  | false =>
      cases attempt : machine.step input state with
      | ok outcome =>
          rw [commit_of_ok attempt]
          exact machine.keepsPause unpauses stopped attempt
      | error failure =>
          rw [commit_of_error attempt]
          exact stopped

/-- At any moment of any run that never replaced the code, the recovery
address alone can make an address of its choice the sole admin, who alone is
then a quorum and alone can set the contract going, unless somebody cancels or
completes the recovery or replaces the code meanwhile. -/
def HandsOver (machine : Recoverable σ ε ι ο) : Prop :=
  ∀ (past noise : List ι) (clear begin finish last : ι)
    (newAdmin recovery : Address),
    let state := run machine.step machine.start past
    machine.Unreplaced machine.start past →
    (machine.authority state).recoveryAddress = some recovery →
    machine.action clear = .execute →
    (∀ pending, (machine.authority state).pendingRecovery = some pending →
      pending.executeAfter ≤ (machine.ledger clear).timestamp) →
    machine.action begin = .initiate newAdmin →
    (machine.ledger begin).auths recovery = true →
    newAdmin ≠ zeroAddress →
    machine.Undisturbed (run machine.step state [clear, begin]) noise →
    machine.action finish = .execute →
    (machine.ledger begin).timestamp.toNat + recoveryDelaySeconds.toNat ≤
      (machine.ledger finish).timestamp.toNat →
    machine.unpauses last = some [newAdmin] →
    (machine.ledger last).auths newAdmin = true →
    let final := run machine.step state
      (clear :: begin :: noise ++ [finish])
    (machine.authority final).admin = some [newAdmin] ∧
      (machine.authority final).threshold = some 1 ∧
      (machine.authority final).pendingRecovery = none ∧
      machine.paused (commit machine.step final last) = false

theorem handsOver (machine : Recoverable σ ε ι ο) : machine.HandsOver := by
  intro past noise clear begin finish last newAdmin recovery state _ stored
    clears due begins signed nonzero quiet finishes waited unpauses signed'
    final
  obtain ⟨sound, admin, threshold, absent⟩ :=
    takes_over machine.sound_run stored clears due begins signed nonzero
      quiet finishes waited
  exact ⟨admin, threshold, absent,
    resumed sound admin threshold unpauses signed'⟩

end Recoverable

end BettaPay.Common
