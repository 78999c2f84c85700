import BettaPay.Common.Coalition
import BettaPay.Governance.Effect
import BettaPay.Settlement.Inversion
import BettaPay.Settlement.Xdr

namespace BettaPay.Protocol

open BettaPay.Host
open BettaPay.Common

/-! A minority of the admins, on its own. -/

/-- A payment of a merchant in the coalition, or the note on its pricing. -/
def OwnPayment (signs : Address → Bool) : Settlement.Event → Prop
  | .paymentStored merchant _ _ => signs merchant = true
  | .bootstrapFallback _ => True
  | _ => False

/-- Nothing but payments of the coalition's own merchants came in, besides
the cache and lifetimes, which no one needs to sign for. -/
structure Untouched (signs : Address → Bool)
    (before after : Settlement.State) : Prop where
  rest : ∃ payment paymentCount cache live events,
    after = { before with
      payment := payment
      paymentCount := paymentCount
      cachedGovRule := cache
      liveUntil := live
      events := events }
  payment : ∀ merchant, signs merchant = false →
    after.payment merchant = before.payment merchant
  paymentCount : ∀ merchant, signs merchant = false →
    after.paymentCount merchant = before.paymentCount merchant
  kept : ∀ merchant reference record,
    before.payment merchant reference = some record →
    after.payment merchant reference = some record
  events : ∃ published, after.events = before.events ++ published ∧
    ∀ event ∈ published, OwnPayment signs event

namespace Untouched

variable {signs : Address → Bool} {first second third : Settlement.State}

theorem refl (state : Settlement.State) : Untouched signs state state where
  rest := ⟨_, _, _, _, _, rfl⟩
  payment := fun _ _ => rfl
  paymentCount := fun _ _ => rfl
  kept := fun _ _ _ stored => stored
  events := ⟨[], (List.append_nil _).symm, fun _ listed => by cases listed⟩

theorem trans (untouched : Untouched signs first second)
    (untouched' : Untouched signs second third) :
    Untouched signs first third where
  rest := by
    obtain ⟨_, _, _, _, _, rfl⟩ := untouched.rest
    obtain ⟨_, _, _, _, _, rfl⟩ := untouched'.rest
    exact ⟨_, _, _, _, _, rfl⟩
  payment := fun merchant outside =>
    (untouched'.payment merchant outside).trans
      (untouched.payment merchant outside)
  paymentCount := fun merchant outside =>
    (untouched'.paymentCount merchant outside).trans
      (untouched.paymentCount merchant outside)
  kept := fun merchant reference record stored =>
    untouched'.kept merchant reference record
      (untouched.kept merchant reference record stored)
  events := by
    obtain ⟨published, extended, own⟩ := untouched.events
    obtain ⟨published', extended', own'⟩ := untouched'.events
    refine ⟨published ++ published', ?_, ?_⟩
    · rw [extended', extended, List.append_assoc]
    · intro event listed
      rcases List.mem_append.mp listed with early | late
      · exact own event early
      · exact own' event late

end Untouched

/-- Nothing queued falls due in time. -/
def Unripe (horizon : UInt64) (state : Settlement.State) : Prop :=
  ∀ opHash slot, state.scheduledOperation opHash = some slot →
    horizon < slot.executeAt

section Settlement

open Settlement

variable {codec : Codec} {env : Env} {call : Call} {before after : State}
  {signs : Address → Bool} {horizon : UInt64}

theorem untouched_payment {merchant : Address} {reference : BytesN 32}
    {amount : I128} {rule : SettlementRule} {split : FeeSplit}
    {count : UInt32} {cache : Option (Option SettlementRule)}
    {live : PersistentKey → Nat} (signed : signs merchant = true)
    (absent : before.payment merchant reference = none) :
    Untouched signs before
      (State.soft
        { before with
          payment := Function.update before.payment merchant
            (Function.update (before.payment merchant) reference
              (some (paymentRecord env merchant amount rule split)))
          paymentCount :=
            Function.update before.paymentCount merchant (some count) }
        cache live
        (bootstrapEvents rule ++ [.paymentStored merchant reference
          (paymentRecord env merchant amount rule split)])) where
  rest := ⟨_, _, _, _, _, rfl⟩
  payment := by
    intro other outside
    refine Function.update_of_ne ?_ ..
    intro same
    rw [same, signed] at outside
    cases outside
  paymentCount := by
    intro other outside
    refine Function.update_of_ne ?_ ..
    intro same
    rw [same, signed] at outside
    cases outside
  kept := by
    intro owner other record stored
    by_cases same : owner = merchant
    · subst same
      have different : other ≠ reference := by
        rintro rfl
        cases absent.symm.trans stored
      simp only [State.soft_payment, Function.update_self]
      rw [Function.update_of_ne different, stored]
    · simp only [State.soft_payment]
      rw [Function.update_of_ne same, stored]
  events := by
    refine ⟨_, rfl, ?_⟩
    intro event listed
    rcases List.mem_append.mp listed with noted | filed
    · unfold bootstrapEvents at noted
      split at noted
      · rw [List.mem_singleton.mp noted]
        trivial
      · cases noted
    · rw [List.mem_singleton.mp filed]
      exact signed

/-- One call that nobody outside of the coalition signs. -/
theorem Untouched.step
    (outvotes : before.authority.Outvotes signs horizon)
    (unripe : Unripe horizon before)
    (restrained : Restrained signs horizon env.toLedger)
    (effect : Effect codec env before call after) :
    Untouched signs before after := by
  cases effect with
  | init uninitialized => exact absurd uninitialized outvotes.initialized
  | initiateRecovery stored authorized =>
      exact absurd authorized (outvotes.no_initiation restrained stored)
  | cancelRecovery stored authorized =>
      exact absurd authorized (outvotes.no_cancellation restrained stored)
  | executeRecovery stored matured =>
      exact absurd matured (outvotes.no_completion restrained stored)
  | changeThreshold stored threshold _ _ larger authorized =>
      exact absurd authorized
        (outvotes.unauthorized restrained threshold (by omega))
  | execute queued _ matured =>
      have late := unripe _ _ queued.1
      have early := restrained.early
      rw [UInt64.lt_iff_toNat_lt] at late
      rw [UInt64.le_iff_toNat_le] at matured early
      omega
  | storePaymentReference _ _ authorized _ _ absent =>
      exact untouched_payment (restrained.only _ authorized) absent
  | query =>
      exact
        { rest := ⟨_, _, _, _, _, rfl⟩
          payment := fun _ _ => rfl
          paymentCount := fun _ _ => rfl
          kept := fun _ _ _ stored => stored
          events := ⟨[], rfl, fun _ listed => by cases listed⟩ }
  | _ => exact absurd ‹_› (outvotes.no_quorum restrained)

/-- Throughout a run. -/
theorem untouched_run (start : State) {inputs : List Input}
    (outvotes : start.authority.Outvotes signs horizon)
    (unripe : Unripe horizon start)
    (restrained : ∀ input ∈ inputs,
      Restrained signs horizon input.env.toLedger) :
    Untouched signs start (run (Settlement.step codec) start inputs) := by
  refine run_invariant_of (Untouched signs start) ?_ (.refl start)
    restrained
  intro input before reply after allowed untouched succeeded
  apply untouched.trans
  obtain ⟨_, _, _, _, _, rfl⟩ := untouched.rest
  exact .step outvotes unripe allowed (invoke_effect succeeded)

end Settlement

section Governance

open Governance

variable {signs : Address → Bool} {horizon : UInt64}

/-- A governance contract stays as it is. -/
theorem same_run (start : State) {inputs : List Input}
    (outvotes : start.authority.Outvotes signs horizon)
    (restrained : ∀ input ∈ inputs, Restrained signs horizon input.env) :
    run Governance.step start inputs = start := by
  refine run_invariant_of (fun state => state = start) ?_ rfl restrained
  rintro ⟨env, call⟩ before reply after allowed same succeeded
  subst same
  cases invoke_effect succeeded with
  | init uninitialized => exact absurd uninitialized outvotes.initialized
  | initiateRecovery stored authorized =>
      exact absurd authorized (outvotes.no_initiation allowed stored)
  | cancelRecovery stored authorized =>
      exact absurd authorized (outvotes.no_cancellation allowed stored)
  | executeRecovery stored matured =>
      exact absurd matured (outvotes.no_completion allowed stored)
  | changeThreshold stored threshold _ _ authorized =>
      exact absurd authorized
        (outvotes.unauthorized allowed threshold (Nat.le_refl _))
  | query => rfl
  | _ => exact absurd ‹_› (outvotes.no_quorum allowed)

end Governance

/-- Whoever signs, as long as fewer admins do than the threshold asks for,
neither the recovery address nor the initiator of a pending recovery does, and
nothing that is under way falls due: the settlement contract takes nothing but
payments of those merchants who sign, and loses none, and the governance
contract does not change at all, whatever is called in whatever order. -/
theorem minority_powerless (codec : Settlement.Codec)
    (signs : Address → Bool) (horizon : UInt64) :
    (∀ (start : Settlement.State) (inputs : List Settlement.Input),
      start.authority.Outvotes signs horizon → Unripe horizon start →
      (∀ input ∈ inputs, Restrained signs horizon input.env.toLedger) →
      Untouched signs start (run (Settlement.step codec) start inputs)) ∧
    ∀ (start : Governance.State) (inputs : List Governance.Input),
      start.authority.Outvotes signs horizon →
      (∀ input ∈ inputs, Restrained signs horizon input.env) →
      run Governance.step start inputs = start :=
  ⟨fun start _ => untouched_run start, fun start _ => same_run start⟩

/-- One of three admins, with a merchant. -/
def colluders (address : Address) : Bool :=
  address = .account 1 ∨ address = .account 6

def colluding (timestamp : UInt64) : Settlement.Env :=
  { Settlement.Env.granting timestamp with auths := colluders }

def quorumPast : List Settlement.Input :=
  [⟨.granting 0, .init (.account 9)
      [.account 1, .account 2, .account 3] 2 (.contract 5) (.account 4)⟩,
    ⟨.granting 100, .registerMerchant [.account 1, .account 2]
      (.account 6)⟩,
    ⟨.granting 200, .schedule [.account 1, .account 2]
      Settlement.sampleOperation 604800⟩]

def collusion : List Settlement.Input :=
  [⟨colluding 300, .pause [.account 1] 0⟩,
    ⟨colluding 400, .transferAdmin [.account 1, .account 2] [.account 1] 1⟩,
    ⟨colluding 500, .storePaymentReference (.account 6) 1
      Settlement.minPaymentAmount⟩,
    ⟨colluding 600, .execute (.account 1) Settlement.sampleOperation⟩]

set_option maxRecDepth 4000 in
theorem minority_powerless_sample :
    let start := run (Settlement.step Settlement.sampleCodec)
      Settlement.State.initial quorumPast
    Untouched colluders start
        (run (Settlement.step Settlement.sampleCodec) start collusion) ∧
      ((run (Settlement.step Settlement.sampleCodec) start
        collusion).payment (.account 6) 1).isSome = true := by
  intro start
  have seats : start.authority.Outvotes colluders 600 := by
    have recovery : start.authority.recoveryAddress = some (.account 4) := by
      decide
    have idle : start.authority.pendingRecovery = none := by decide
    refine ⟨⟨[.account 1, .account 2, .account 3], 2, by decide, by decide,
      by decide⟩, ?_, ?_⟩
    · intro found stored
      cases recovery.symm.trans stored
      decide
    · intro pending stored
      cases idle.symm.trans stored
  have waiting : start.scheduledOperation =
      Function.update (fun _ => none)
        (Settlement.sampleCodec.hash Settlement.sampleOperation)
        (some ⟨Settlement.sampleOperation.toXdr, 605000⟩) := rfl
  have unripe : Unripe 600 start := by
    intro opHash slot stored
    rw [waiting, Function.update_apply] at stored
    split at stored
    · cases stored
      decide
    · cases stored
  have restrained : ∀ input ∈ collusion,
      Restrained colluders 600 input.env.toLedger := by
    intro input listed
    simp only [collusion, List.mem_cons, List.not_mem_nil, or_false]
      at listed
    rcases listed with rfl | rfl | rfl | rfl <;>
      exact ⟨fun _ signed => signed, by decide⟩
  exact ⟨(minority_powerless _ colluders 600).1 start collusion seats unripe
    restrained, by decide⟩

end BettaPay.Protocol
