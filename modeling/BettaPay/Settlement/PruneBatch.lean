import BettaPay.Settlement.Control
import BettaPay.Settlement.Pause
import BettaPay.Settlement.PaymentCount

namespace BettaPay.Settlement

open BettaPay.Host
open BettaPay.Host.Tx (readState writeState)
open BettaPay.Common

/-! Batch pruning against pruning one reference at a time. -/

/-- The counters once `count` of the merchant's records are gone. -/
def State.lowered (state : State) (merchant : Address) (count : Nat) :
    Address → Option UInt32 :=
  if count = 0 then state.paymentCount
  else
    Function.update state.paymentCount merchant
      (some (saturatingSub32 (state.readPaymentCount merchant)
        (UInt32.ofNat count)))

/-- The payments and counters once the listed references of one merchant are
gone. -/
structure Cleaned (merchant : Address) (refs : List (BytesN 32))
    (count : Nat) (before after : State) : Prop where
  payment : after.payment =
    Function.update before.payment merchant
      (eraseIf (fun reference _ => refs.contains reference)
        (before.payment merchant))
  paymentCount : after.paymentCount = before.lowered merchant count
  sized : size (after.payment merchant) + count =
    size (before.payment merchant)
  bounded : count ≤ refs.length

theorem Cleaned.unique {merchant : Address} {refs : List (BytesN 32)}
    {count count' : Nat} {before after after' : State}
    (cleaned : Cleaned merchant refs count before after)
    (cleaned' : Cleaned merchant refs count' before after') :
    count = count' ∧ after.payment = after'.payment ∧
      after.paymentCount = after'.paymentCount := by
  have same : after.payment = after'.payment :=
    cleaned.payment.trans cleaned'.payment.symm
  have sized := cleaned.sized
  have sized' := cleaned'.sized
  rw [same] at sized
  have counts : count = count' := by omega
  refine ⟨counts, same, ?_⟩
  rw [cleaned.paymentCount, cleaned'.paymentCount, counts]

theorem Cleaned.empty (merchant : Address) (state : State) :
    Cleaned merchant [] 0 state state where
  payment := by
    have kept : eraseIf (fun reference _ => [].contains reference)
        (state.payment merchant) = state.payment merchant :=
      eraseIf_never _
    rw [kept, Function.update_eq_self]
  paymentCount := rfl
  sized := rfl
  bounded := Nat.le_refl _

/-- A stored reference is removed and the counter lowered by one. -/
theorem Cleaned.hit {merchant : Address} {reference : BytesN 32}
    {rest : List (BytesN 32)} {count : Nat} {before middle after : State}
    (stored : (before.payment merchant reference).isSome)
    (few : rest.length < 2 ^ 32 - 1)
    (removed : middle.payment = Function.update before.payment merchant
      (Function.update (before.payment merchant) reference none))
    (lowered : middle.paymentCount = before.lowered merchant 1)
    (cleaned : Cleaned merchant rest count middle after) :
    Cleaned merchant (reference :: rest) (count + 1) before after where
  payment := by
    rw [cleaned.payment, removed]
    simp only [Function.update_self, Function.update_idem]
    rw [eraseIf_contains_cons]
  paymentCount := by
    rw [cleaned.paymentCount]
    unfold State.lowered at lowered ⊢
    rw [if_neg Nat.one_ne_zero] at lowered
    rw [if_neg (Nat.succ_ne_zero count)]
    split
    · rename_i none
      rw [lowered, none]
    · have bounded := cleaned.bounded
      have left : middle.readPaymentCount merchant =
          saturatingSub32 (before.readPaymentCount merchant)
            (UInt32.ofNat 1) := by
        simp [State.readPaymentCount, lowered]
      have one : (UInt32.ofNat 1).toNat = 1 := rfl
      have width : UInt32.size = 2 ^ 32 := rfl
      have now : (UInt32.ofNat count).toNat = count :=
        UInt32.toNat_ofNat_of_lt' (by omega)
      have next : (UInt32.ofNat (count + 1)).toNat = count + 1 :=
        UInt32.toNat_ofNat_of_lt' (by omega)
      have same : saturatingSub32 (middle.readPaymentCount merchant)
          (UInt32.ofNat count) =
          saturatingSub32 (before.readPaymentCount merchant)
            (UInt32.ofNat (count + 1)) := by
        rw [← UInt32.toNat_inj, toNat_saturatingSub32, left,
          toNat_saturatingSub32, toNat_saturatingSub32, one, now, next]
        omega
      rw [lowered, Function.update_idem, same]
  sized := by
    have erased := size_erase stored
    have tail := cleaned.sized
    rw [removed, Function.update_self] at tail
    omega
  bounded := Nat.succ_le_succ cleaned.bounded

theorem Cleaned.miss {merchant : Address} {reference : BytesN 32}
    {rest : List (BytesN 32)} {count : Nat} {before after : State}
    (absent : before.payment merchant reference = none)
    (cleaned : Cleaned merchant rest count before after) :
    Cleaned merchant (reference :: rest) count before after where
  payment := by
    rw [cleaned.payment, ← eraseIf_contains_cons, erase_absent absent]
  paymentCount := cleaned.paymentCount
  sized := cleaned.sized
  bounded := Nat.le_succ_of_le cleaned.bounded

/-! One reference at a time, each in a call of its own. -/

def pruneSingly (signers : List Address) (merchant : Address) :
    List (Env × BytesN 32) → Contract Unit
  | [] => pure ()
  | call :: rest => do
      prunePayment call.1 signers merchant call.2
      pruneSingly signers merchant rest

theorem decrementPaymentCount_lowers {env : Env} {merchant : Address}
    {count : Nat} {before : State} (fits : count < 2 ^ 32) :
    ∃ live, decrementPaymentCount env merchant (UInt32.ofNat count) before =
        .ok ((), { before with
          paymentCount := before.lowered merchant count
          liveUntil := live }) ∧
      (count = 0 → live = before.liveUntil) := by
  have value : (UInt32.ofNat count).toNat = count :=
    UInt32.toNat_ofNat_of_lt' fits
  unfold decrementPaymentCount State.lowered
  by_cases none : count = 0
  · subst none
    exact ⟨before.liveUntil, rfl, fun _ => rfl⟩
  · have some : UInt32.ofNat count ≠ 0 := by
      rw [ne_eq, ← UInt32.toNat_inj, value]
      exact none
    rw [if_neg some, if_neg none]
    exact ⟨_, rfl, fun zero => absurd zero none⟩

theorem prunePayment_authorized {env : Env} {signers : List Address}
    {merchant : Address} {reference : BytesN 32} {before : State}
    (quorum : before.authority.Quorum env.toLedger signers)
    (unpaused : before.isPaused = false) :
    prunePayment env signers merchant reference before =
      (if (before.payment merchant reference).isSome then
        pruneStored env merchant reference
      else pure ()) before := by
  have running : assertNotPaused before = .ok ((), before) :=
    assertNotPaused_ok.mpr ⟨unpaused, rfl⟩
  have signed : verifyThresholdAuth env signers before = .ok ((), before) :=
    verifyThresholdAuth_ok.mpr ⟨quorum, rfl⟩
  unfold prunePayment
  rw [Tx.bind_of_ok running, Tx.bind_of_ok signed, Tx.readState_bind]

theorem prunePayment_stored {env : Env} {signers : List Address}
    {merchant : Address} {reference : BytesN 32} {before : State}
    (quorum : before.authority.Quorum env.toLedger signers)
    (unpaused : before.isPaused = false)
    (stored : (before.payment merchant reference).isSome) :
    ∃ middle,
      prunePayment env signers merchant reference before =
        .ok ((), middle) ∧
      middle.payment = Function.update before.payment merchant
        (Function.update (before.payment merchant) reference none) ∧
      middle.paymentCount = before.lowered merchant 1 ∧
      middle.authority = before.authority ∧
      middle.isPaused = before.isPaused := by
  have removed : removePayment merchant reference before =
      .ok ((), { before with
        payment := Function.update before.payment merchant
          (Function.update (before.payment merchant) reference none) }) :=
    rfl
  obtain ⟨live, counted, _⟩ := @decrementPaymentCount_lowers env merchant 1
    { before with
      payment := Function.update before.payment merchant
        (Function.update (before.payment merchant) reference none) }
    (by decide)
  rw [prunePayment_authorized quorum unpaused, if_pos stored]
  unfold pruneStored
  rw [Tx.bind_of_ok removed]
  exact ⟨_, (Tx.bind_of_ok counted).trans rfl, rfl, rfl, rfl, rfl⟩

theorem prunePayment_missing {env : Env} {signers : List Address}
    {merchant : Address} {reference : BytesN 32} {before : State}
    (quorum : before.authority.Quorum env.toLedger signers)
    (unpaused : before.isPaused = false)
    (absent : before.payment merchant reference = none) :
    prunePayment env signers merchant reference before =
      .ok ((), before) := by
  rw [prunePayment_authorized quorum unpaused, absent]
  rfl

theorem pruneSingly_cleans {signers : List Address} {merchant : Address}
    {calls : List (Env × BytesN 32)} {state : State}
    (unpaused : state.isPaused = false)
    (quorum : ∀ call ∈ calls,
      state.authority.Quorum call.1.toLedger signers)
    (few : calls.length < 2 ^ 32) :
    ∃ count final, pruneSingly signers merchant calls state =
        .ok ((), final) ∧
      Cleaned merchant (calls.map Prod.snd) count state final := by
  induction calls generalizing state with
  | nil => exact ⟨0, state, rfl, .empty merchant state⟩
  | cons call rest induction =>
      obtain ⟨env, reference⟩ := call
      have signed := quorum (env, reference) (List.mem_cons_self ..)
      have later : ∀ call ∈ rest,
          state.authority.Quorum call.1.toLedger signers :=
        fun call listed => quorum call (List.mem_cons_of_mem _ listed)
      rw [List.length_cons] at few
      simp only [pruneSingly, List.map_cons]
      cases stored : state.payment merchant reference with
      | none =>
          rw [Tx.bind_of_ok (prunePayment_missing signed unpaused stored)]
          obtain ⟨count, final, ran, cleaned⟩ :=
            induction unpaused later (by omega)
          exact ⟨count, final, ran, cleaned.miss stored⟩
      | some record =>
          have present : (state.payment merchant reference).isSome := by
            rw [stored]
            rfl
          obtain ⟨middle, pruned, removed, lowered, authority, switch⟩ :=
            prunePayment_stored signed unpaused present
          rw [Tx.bind_of_ok pruned]
          rw [← switch] at unpaused
          rw [← authority] at later
          obtain ⟨count, final, ran, cleaned⟩ :=
            induction unpaused later (by omega)
          refine ⟨count + 1, final, ran, ?_⟩
          apply cleaned.hit present _ removed lowered
          rw [List.length_map]
          omega

/-! The batch. -/

theorem pruneEach_total (merchant : Address) (refs : List (BytesN 32))
    (start : Nat) (state : State) :
    ∃ count middle, pruneEach merchant refs start state =
        .ok (start + count, middle) ∧
      count ≤ refs.length ∧ Pruned merchant refs count state middle := by
  have ran : ∃ outcome, pruneEach merchant refs start state =
      .ok outcome := by
    induction refs generalizing start state with
    | nil => exact ⟨_, rfl⟩
    | cons reference rest induction =>
        simp only [pruneEach, Tx.readState_bind]
        split
        · exact induction _ _
        · exact induction _ _
  obtain ⟨⟨total, middle⟩, ran⟩ := ran
  obtain ⟨count, rfl, bounded, pruned⟩ := pruneEach_ok ran
  exact ⟨count, middle, ran, bounded, pruned⟩

/-- The loop cannot tell apart two lists with the same members. -/
theorem pruneEach_congr {refs refs' : List (BytesN 32)}
    (same : ∀ reference, reference ∈ refs' ↔ reference ∈ refs)
    (merchant : Address) :
    pruneEach merchant refs' 0 = pruneEach merchant refs 0 := by
  funext state
  obtain ⟨count, middle, ran, _, pruned⟩ :=
    pruneEach_total merchant refs 0 state
  obtain ⟨count', middle', ran', _, pruned'⟩ :=
    pruneEach_total merchant refs' 0 state
  have members : refs'.contains = refs.contains := by
    funext reference
    rw [Bool.eq_iff_iff, List.contains_iff_mem, List.contains_iff_mem]
    exact same reference
  have middles : middle' = middle := by
    rw [pruned'.table, pruned.table, members]
  subst middles
  have sized := pruned.sized
  have sized' := pruned'.sized
  have counts : count' = count := by omega
  rw [ran, ran', counts]

theorem prunePayments_congr {refs refs' : List (BytesN 32)}
    (permuted : refs'.Perm refs) (env : Env) (signers : List Address)
    (merchant : Address) :
    prunePayments env signers merchant refs' =
      prunePayments env signers merchant refs := by
  unfold prunePayments
  rw [permuted.length_eq,
    pruneEach_congr (fun _ => permuted.mem_iff) merchant]

theorem prunePayments_cleans {env : Env} {signers : List Address}
    {merchant : Address} {refs : List (BytesN 32)} {state : State}
    {admin : Address} (head : signers.head? = some admin)
    (quorum : state.authority.Quorum env.toLedger signers)
    (few : refs.length ≤ maxPaymentsBatch.toNat) :
    ∃ count live after, prunePayments env signers merchant refs state =
        .ok (UInt32.ofNat count, after) ∧
      Cleaned merchant refs count state after ∧
      (count = 0 → live = state.liveUntil) ∧
      after = { state with
        payment := after.payment
        paymentCount := after.paymentCount
        liveUntil := live
        events := state.events ++
          [.paymentsPruned merchant admin (UInt32.ofNat count)] } := by
  obtain ⟨count, middle, looped, bounded, pruned⟩ :=
    pruneEach_total merchant refs 0 state
  rw [Nat.zero_add] at looped
  have batch : maxPaymentsBatch.toNat = 100 := rfl
  obtain ⟨live, counted, idle⟩ := @decrementPaymentCount_lowers env merchant
    count middle (by omega)
  have signed : verifyThresholdAuth env signers state = .ok ((), state) :=
    verifyThresholdAuth_ok.mpr ⟨quorum, rfl⟩
  have first : unwrapFirst signers { middle with
      paymentCount := middle.lowered merchant count
      liveUntil := live } =
      (.ok (admin, _) : Except (Failure SettlementError) _) :=
    unwrapFirst_ok.mpr ⟨head, rfl⟩
  refine ⟨count, live, { middle with
    paymentCount := middle.lowered merchant count
    liveUntil := live
    events := middle.events ++
      [.paymentsPruned merchant admin (UInt32.ofNat count)] }, ?_, ?_, ?_, ?_⟩
  · unfold prunePayments
    rw [Tx.bind_of_ok signed, rejectIf_bind (Nat.not_lt.mpr few),
      Tx.bind_of_ok looped, Tx.bind_of_ok counted, Tx.bind_of_ok first]
    rfl
  · have table := pruned.table
    have sized := pruned.sized
    subst table
    exact ⟨rfl, rfl, sized, bounded⟩
  · intro none
    rw [idle none, pruned.table]
  · rw [pruned.table]

/-- How many of the listed references are stored, each counted once. -/
def State.storedAmong (state : State) (merchant : Address)
    (refs : List (BytesN 32)) : Nat :=
  (refs.dedup.filter fun reference =>
    (state.payment merchant reference).isSome).length

theorem Cleaned.counted {merchant : Address} {refs : List (BytesN 32)}
    {count : Nat} {before after : State}
    (cleaned : Cleaned merchant refs count before after) :
    count = before.storedAmong merchant refs := by
  have erased := size_eraseIf
    (fun reference (_ : PaymentRecord) => refs.contains reference)
    (before.payment merchant)
  have listed := ncard_listed refs fun reference =>
    (before.payment merchant reference).isSome
  have same : {reference | (before.payment merchant reference).any
      (fun _ => refs.contains reference) = true} =
      {reference | reference ∈ refs ∧
        (before.payment merchant reference).isSome = true} := by
    ext reference
    cases stored : before.payment merchant reference <;> simp [stored]
  have sized := cleaned.sized
  rw [cleaned.payment, Function.update_self] at sized
  rw [same, listed] at erased
  unfold State.storedAmong
  omega

/-- The listed references are gone already. -/
theorem Cleaned.again {merchant : Address} {refs : List (BytesN 32)}
    {count count' : Nat} {before middle after : State}
    (first : Cleaned merchant refs count before middle)
    (second : Cleaned merchant refs count' middle after) :
    count' = 0 ∧ after.payment = middle.payment ∧
      after.paymentCount = middle.paymentCount := by
  have payment : after.payment = middle.payment := by
    rw [second.payment]
    have here : middle.payment merchant = eraseIf
        (fun reference _ => refs.contains reference)
        (before.payment merchant) := by
      rw [first.payment, Function.update_self]
    rw [here, eraseIf_idem, ← here, Function.update_eq_self]
  have sized := second.sized
  rw [payment] at sized
  have none : count' = 0 := by omega
  refine ⟨none, payment, ?_⟩
  rw [second.paymentCount, none]
  rfl

/-- What a batch prune amounts to. -/
structure PrunesAsSingles (state : State) (env : Env)
    (signers : List Address) (merchant : Address)
    (refs : List (BytesN 32)) (removed : UInt32) (after : State) :
    Prop where
  ran : prunePayments env signers merchant refs state = .ok (removed, after)
  /-- Every single prune succeeds, and together they leave the same records
  and counters. -/
  iterated : ∀ calls : List (Env × BytesN 32), calls.map Prod.snd = refs →
    (∀ call ∈ calls, state.authority.Quorum call.1.toLedger signers) →
    ∃ final, pruneSingly signers merchant calls state = .ok ((), final) ∧
      final.payment = after.payment ∧
      final.paymentCount = after.paymentCount
  counted : removed.toNat = state.storedAmong merchant refs
  permuted : ∀ refs', refs'.Perm refs →
    prunePayments env signers merchant refs' state = .ok (removed, after)
  repeated : ∀ env' signers',
    state.authority.Quorum env'.toLedger signers' →
    ∃ event, prunePayments env' signers' merchant refs after =
      .ok (0, { after with events := after.events ++ [event] })

/-- In every reachable state that is not paused, an authorized prune of at
most 100 references, repeated, missing and in any order, does what pruning
them one by one does. -/
theorem prune_payments_iterates (codec : Codec) (state : State)
    (reachable : Reachable codec state) (unpaused : state.isPaused = false)
    (env : Env) (signers : List Address)
    (quorum : state.authority.Quorum env.toLedger signers)
    (merchant : Address) (refs : List (BytesN 32))
    (few : refs.length ≤ 100) :
    ∃ removed after,
      PrunesAsSingles state env signers merchant refs removed after := by
  obtain ⟨admin, head⟩ := reachable.sound.head_of_quorum quorum
  obtain ⟨count, live, after, ran, cleaned, _, shape⟩ :=
    @prunePayments_cleans env signers merchant refs state admin head quorum
      few
  have bounded := cleaned.bounded
  refine ⟨UInt32.ofNat count, after, ran, ?_, ?_, ?_, ?_⟩
  · intro calls listed signed
    have length : calls.length = refs.length := by
      rw [← listed, List.length_map]
    obtain ⟨count', final, singly, cleaned'⟩ :=
      pruneSingly_cleans unpaused signed
        (show calls.length < 2 ^ 32 by omega)
    rw [listed] at cleaned'
    obtain ⟨_, payment, paymentCount⟩ := cleaned'.unique cleaned
    exact ⟨final, singly, payment, paymentCount⟩
  · have fits : (UInt32.ofNat count).toNat = count :=
      toNat_ofNat_of_le
        (show count ≤ maxPaymentsBatch.toNat from bounded.trans few)
    rw [fits, cleaned.counted]
  · intro refs' permuted
    rw [prunePayments_congr permuted, ran]
  · intro env' signers' quorum'
    have authority : after.authority = state.authority := by
      rw [shape]
      rfl
    obtain ⟨admin', head'⟩ := reachable.sound.head_of_quorum quorum'
    rw [← authority] at quorum'
    obtain ⟨count', live', final, ran', cleaned', idle, shape'⟩ :=
      @prunePayments_cleans env' signers' merchant refs after admin' head'
        quorum' few
    obtain ⟨none, payment, paymentCount⟩ := cleaned.again cleaned'
    refine ⟨.paymentsPruned merchant admin' 0, ?_⟩
    rw [ran', shape', idle none, payment, paymentCount, none]
    rfl

theorem prune_payments_iterates_sample :
    (run (step sampleCodec) State.initial samplePaymentRun).storedAmong
        (.account 6) [2, 1, 2] = 1 ∧
      ∃ removed after, PrunesAsSingles
        (run (step sampleCodec) State.initial samplePaymentRun)
        (.granting 500) [.account 1] (.account 6) [2, 1, 2] removed
        after :=
  ⟨by decide, prune_payments_iterates sampleCodec _ ⟨samplePaymentRun, rfl⟩
    (by decide) _ _ (Authority.quorum_of_sole rfl rfl rfl) _ _ (by decide)⟩

end BettaPay.Settlement
