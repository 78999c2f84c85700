import BettaPay.Settlement.Control
import BettaPay.Settlement.PaymentCount

namespace BettaPay.Settlement

open BettaPay.Host
open BettaPay.Host.Tx (readState writeState)
open BettaPay.Common

/-! Reads of many payments: one page against single reads, and a client that
reads page after page. -/

variable {env : Env} {merchant : Address} {signers : List Address}

/-- The state after a read of one reference: the record, when there is one,
has its lifetime extended. -/
def State.bumped (state : State) (env : Env) (merchant : Address)
    (reference : BytesN 32) : State :=
  if (state.payment merchant reference).isSome then
    { state with
      liveUntil := Function.update state.liveUntil
        (.payment merchant reference)
        (env.extendTtl paymentTtlThreshold paymentTtlBump
          (state.liveUntil (.payment merchant reference))) }
  else state

theorem bumpPayment_bumped (state : State) (reference : BytesN 32) :
    bumpPayment env merchant reference (state.payment merchant reference)
        state =
      .ok ((), state.bumped env merchant reference) := by
  unfold bumpPayment State.bumped
  cases stored : state.payment merchant reference <;> rfl

@[simp] theorem bumped_payment (state : State) (reference : BytesN 32) :
    (state.bumped env merchant reference).payment = state.payment := by
  unfold State.bumped
  split <;> rfl

/-- The caller may read the merchant's payments, and they are served. -/
structure Readable (env : Env) (merchant : Address)
    (signers : List Address) (state : State) : Prop where
  authorized : ReadAuthorized env state merchant signers
  served : assertPaymentsReadable merchant state = .ok ((), state)

theorem readAuthorized_iff {state : State} :
    ReadAuthorized env state merchant signers ↔
      signers = [] ∧ env.auths merchant = true ∨
        signers ≠ [] ∧ state.authority.Quorum env.toLedger signers := by
  simp only [ReadAuthorized, assertReadAuthorized, Tx.ite_ok,
    requireAuth_ok, verifyThresholdAuth_ok, and_true, ne_eq]

theorem Readable.bumped {env' : Env} {state : State}
    (readable : Readable env' merchant signers state)
    (reference : BytesN 32) :
    Readable env' merchant signers (state.bumped env merchant reference) where
  authorized := by
    have authorized := readAuthorized_iff.mp readable.authorized
    apply readAuthorized_iff.mpr
    unfold State.bumped
    split
    · exact authorized
    · exact authorized
  served := by
    have served := assertPaymentsReadable_ok.mp readable.served
    apply assertPaymentsReadable_ok.mpr
    refine ⟨?_, rfl⟩
    unfold State.bumped
    split
    · exact served.1
    · exact served.1

theorem Readable.of_registered {state : State}
    (exclusive : MerchantsExclusive state)
    (registered : state.merchant merchant = true)
    (authorized : ReadAuthorized env state merchant signers) :
    Readable env merchant signers state where
  authorized := authorized
  served := assertPaymentsReadable_ok.mpr
    ⟨⟨registered, exclusive merchant registered⟩, rfl⟩

/-! One page. -/

/-- The state after reads of several references. -/
def State.bumpedAll (state : State) (env : Env) (merchant : Address)
    (refs : List (BytesN 32)) : State :=
  refs.foldl (fun state reference => state.bumped env merchant reference)
    state

theorem bumpedAll_payment (state : State) (refs : List (BytesN 32)) :
    (state.bumpedAll env merchant refs).payment = state.payment := by
  induction refs generalizing state with
  | nil => rfl
  | cons reference rest induction =>
      exact (induction _).trans (bumped_payment state reference)

theorem Readable.bumpedAll {env' : Env} {state : State}
    (readable : Readable env' merchant signers state)
    (refs : List (BytesN 32)) :
    Readable env' merchant signers (state.bumpedAll env merchant refs) := by
  induction refs generalizing state with
  | nil => exact readable
  | cons reference rest induction =>
      exact induction (readable.bumped reference)

theorem getEachPayment_bumps (state : State) (refs : List (BytesN 32)) :
    getEachPayment env merchant refs state =
      .ok (refs.filterMap (state.payment merchant),
        state.bumpedAll env merchant refs) := by
  induction refs generalizing state with
  | nil => rfl
  | cons reference rest induction =>
      simp only [getEachPayment, Tx.readState_bind]
      rw [Tx.bind_of_ok (bumpPayment_bumped state reference),
        Tx.bind_of_ok (induction _), bumped_payment]
      cases stored : state.payment merchant reference with
      | none =>
          rw [List.filterMap_cons_none stored]
          rfl
      | some record =>
          rw [List.filterMap_cons_some stored]
          rfl

theorem getPaymentReference_bumps {state : State}
    (readable : Readable env merchant signers state)
    (reference : BytesN 32) :
    getPaymentReference env merchant reference signers state =
      .ok (state.payment merchant reference,
        state.bumped env merchant reference) := by
  unfold getPaymentReference
  rw [Tx.bind_of_ok readable.authorized, Tx.bind_of_ok readable.served,
    Tx.readState_bind, Tx.bind_of_ok (bumpPayment_bumped state reference)]
  rfl

/-- One single read after the other. -/
def readSingly (env : Env) (merchant : Address) (signers : List Address) :
    List (BytesN 32) → Contract (List (Option PaymentRecord))
  | [] => pure []
  | reference :: rest => do
      let record ← getPaymentReference env merchant reference signers
      let records ← readSingly env merchant signers rest
      pure (record :: records)

theorem readSingly_bumps {state : State}
    (readable : Readable env merchant signers state)
    (refs : List (BytesN 32)) :
    readSingly env merchant signers refs state =
      .ok (refs.map (state.payment merchant),
        state.bumpedAll env merchant refs) := by
  induction refs generalizing state with
  | nil => rfl
  | cons reference rest induction =>
      simp only [readSingly]
      rw [Tx.bind_of_ok (getPaymentReference_bumps readable reference),
        Tx.bind_of_ok (induction (readable.bumped reference)),
        bumped_payment]
      rfl

/-- What a page names as the next cursor. -/
def pageCursor (cursor : UInt32) (refs : List (BytesN 32)) :
    Option UInt32 :=
  if refs.length = maxPaymentsBatch.toNat then
    some (cursor + maxPaymentsBatch)
  else none

theorem nextCursor_names {cursor : UInt32} {refs : List (BytesN 32)}
    {state : State}
    (room : refs.length = maxPaymentsBatch.toNat →
      cursor.toNat + maxPaymentsBatch.toNat < 2 ^ 32) :
    nextCursor cursor refs state =
      .ok (pageCursor cursor refs, state) := by
  unfold nextCursor pageCursor
  by_cases full : refs.length = maxPaymentsBatch.toNat
  · have added : checkedAdd32 cursor maxPaymentsBatch =
        some (cursor + maxPaymentsBatch) := by
      rw [checkedAdd32, if_pos (room full)]
    rw [if_pos full, if_pos full, added]
    rfl
  · rw [if_neg full, if_neg full]
    rfl

theorem getPayments_bumps {state : State} {cursor : UInt32}
    {refs : List (BytesN 32)}
    (readable : Readable env merchant signers state)
    (small : refs.length ≤ maxPaymentsBatch.toNat)
    (room : refs.length = maxPaymentsBatch.toNat →
      cursor.toNat + maxPaymentsBatch.toNat < 2 ^ 32) :
    getPayments env merchant refs cursor signers state =
      .ok (⟨refs.filterMap (state.payment merchant),
          pageCursor cursor refs⟩,
        state.bumpedAll env merchant refs) := by
  unfold getPayments
  rw [Tx.bind_of_ok readable.authorized, Tx.bind_of_ok readable.served,
    rejectIf_bind (Nat.not_lt.mpr small),
    Tx.bind_of_ok (getEachPayment_bumps state refs),
    Tx.bind_of_ok (nextCursor_names room)]
  rfl

/-! The client. -/

/-- What the client sent, and the records it got. -/
structure Exchange where
  sent : List (BytesN 32)
  records : List PaymentRecord

/-- The client sends the next references from `cursor` on and continues with
the cursor it is given, until it is given none. The calls may fall into
different ledgers; out of fuel it returns nothing. -/
def readPages (envs : Nat → Env) (merchant : Address)
    (signers : List Address) (refs : List (BytesN 32)) :
    Nat → Nat → UInt32 → Contract (Option (List Exchange))
  | 0, _, _ => pure none
  | fuel + 1, round, cursor => do
      let sent := (refs.drop cursor.toNat).take maxPaymentsBatch.toNat
      let page ← getPayments (envs round) merchant sent cursor signers
      match page.nextCursor with
      | none => pure (some [⟨sent, page.records⟩])
      | some next => do
          let later ← readPages envs merchant signers refs fuel (round + 1)
            next
          pure (later.map (⟨sent, page.records⟩ :: ·))

/-- The exchange in which these references are sent. -/
def State.exchange (state : State) (merchant : Address)
    (sent : List (BytesN 32)) : Exchange :=
  ⟨sent, sent.filterMap (state.payment merchant)⟩

theorem readPages_last {envs : Nat → Env} {refs : List (BytesN 32)}
    {fuel round : Nat} {cursor : UInt32} {state : State}
    (readable : Readable (envs round) merchant signers state)
    (short : (refs.drop cursor.toNat).length < 100) :
    readPages envs merchant signers refs (fuel + 1) round cursor state =
      .ok (some [state.exchange merchant (refs.drop cursor.toNat)],
        state.bumpedAll (envs round) merchant (refs.drop cursor.toNat)) := by
  have batch : maxPaymentsBatch.toNat = 100 := rfl
  have sent : (refs.drop cursor.toNat).take maxPaymentsBatch.toNat =
      refs.drop cursor.toNat :=
    List.take_of_length_le (by omega)
  have read := @getPayments_bumps (envs round) merchant signers state cursor
    (refs.drop cursor.toNat) readable (by omega) (by omega)
  have ended : pageCursor cursor (refs.drop cursor.toNat) = none :=
    if_neg (by omega)
  rw [ended] at read
  simp only [readPages, sent]
  rw [Tx.bind_of_ok read]
  rfl

theorem readPages_full {envs : Nat → Env} {refs : List (BytesN 32)}
    {fuel round : Nat} {cursor : UInt32} {state : State}
    (readable : Readable (envs round) merchant signers state)
    (full : 100 ≤ (refs.drop cursor.toNat).length)
    (few : refs.length < 2 ^ 32 - 100) :
    ∃ (next : UInt32) (middle : State),
      next.toNat = cursor.toNat + 100 ∧
      middle = state.bumpedAll (envs round) merchant
        ((refs.drop cursor.toNat).take 100) ∧
      readPages envs merchant signers refs (fuel + 1) round cursor state =
        (do
          let later ← readPages envs merchant signers refs fuel (round + 1)
            next
          pure (later.map (state.exchange merchant
            ((refs.drop cursor.toNat).take 100) :: ·))) middle := by
  have batch : maxPaymentsBatch.toNat = 100 := rfl
  have length : ((refs.drop cursor.toNat).take 100).length = 100 :=
    List.length_take_of_le full
  have inside := full
  rw [List.length_drop] at inside
  have read := @getPayments_bumps (envs round) merchant signers state cursor
    ((refs.drop cursor.toNat).take 100) readable (by omega) (by omega)
  have named : pageCursor cursor ((refs.drop cursor.toNat).take 100) =
      some (cursor + maxPaymentsBatch) :=
    if_pos length
  rw [named] at read
  refine ⟨cursor + maxPaymentsBatch, _, ?_, rfl, ?_⟩
  · rw [UInt32.toNat_add, batch]
    exact Nat.mod_eq_of_lt (by omega)
  · simp only [readPages, batch]
    rw [Tx.bind_of_ok read]
    rfl

/-- From a cursor with `pages` full pages ahead of it, by induction on their
number: the page that is not full is the last. -/
theorem readPages_complete {envs : Nat → Env} {refs : List (BytesN 32)}
    {pages round : Nat} {cursor : UInt32} {state : State}
    (readable : ∀ round, Readable (envs round) merchant signers state)
    (few : refs.length < 2 ^ 32 - 100)
    (full : cursor.toNat + 100 * pages ≤ refs.length)
    (last : refs.length < cursor.toNat + 100 * pages + 100) :
    ∃ exchanges after,
      (∀ fuel, pages < fuel →
        readPages envs merchant signers refs fuel round cursor state =
          .ok (some exchanges, after)) ∧
      exchanges.flatMap Exchange.sent = refs.drop cursor.toNat ∧
      exchanges.flatMap Exchange.records =
        (refs.drop cursor.toNat).filterMap (state.payment merchant) := by
  induction pages generalizing round cursor state with
  | zero =>
      have short : (refs.drop cursor.toNat).length < 100 := by
        rw [List.length_drop]
        omega
      refine ⟨[state.exchange merchant (refs.drop cursor.toNat)],
        state.bumpedAll (envs round) merchant (refs.drop cursor.toNat), ?_,
        List.flatMap_singleton .., List.flatMap_singleton ..⟩
      intro fuel enough
      obtain ⟨rest, rfl⟩ : ∃ rest, fuel = rest + 1 :=
        ⟨fuel - 1, by omega⟩
      exact readPages_last (readable round) short
  | succ pages induction =>
      have filled : 100 ≤ (refs.drop cursor.toNat).length := by
        rw [List.length_drop]
        omega
      obtain ⟨next, middle, advanced, bumped, _⟩ :=
        @readPages_full merchant signers envs refs 0 round cursor state
          (readable round) filled few
      have later : ∀ round, Readable (envs round) merchant signers middle :=
        fun round' => bumped ▸ (readable round').bumpedAll _
      have same : middle.payment = state.payment := by
        rw [bumped, bumpedAll_payment]
      obtain ⟨exchanges, after, ran, sent, records⟩ :=
        @induction (round + 1) next middle later (by omega) (by omega)
      rw [same, advanced, ← List.drop_drop] at records
      rw [advanced, ← List.drop_drop] at sent
      refine ⟨state.exchange merchant ((refs.drop cursor.toNat).take 100) ::
        exchanges, after, ?_, ?_, ?_⟩
      · intro fuel enough
        obtain ⟨rest, rfl⟩ : ∃ rest, fuel = rest + 1 :=
          ⟨fuel - 1, by omega⟩
        obtain ⟨next', middle', advanced', bumped', stepped⟩ :=
          @readPages_full merchant signers envs refs rest round cursor state
            (readable round) filled few
        have nexts : next' = next :=
          UInt32.toNat_inj.mp (advanced'.trans advanced.symm)
        rw [stepped, nexts, bumped', ← bumped,
          Tx.bind_of_ok (ran rest (by omega))]
        rfl
      · rw [List.flatMap_cons, sent]
        exact List.take_append_drop ..
      · rw [List.flatMap_cons, records]
        refine (List.filterMap_append ..).symm.trans ?_
        rw [List.take_append_drop]

/-- Reads of the merchant's payments lose and repeat nothing. -/
structure ReadsComplete (state : State) (merchant : Address)
    (signers : List Address) : Prop where
  /-- A page returns what single reads return, without the missing ones, and
  leaves the state, lifetimes included, as they do. -/
  page : ∀ env refs cursor, ReadAuthorized env state merchant signers →
    refs.length ≤ 100 →
    (refs.length = 100 → cursor.toNat + 100 < 2 ^ 32) →
    ∃ results next after,
      readSingly env merchant signers refs state = .ok (results, after) ∧
      getPayments env merchant refs cursor signers state =
        .ok (⟨results.reduceOption, next⟩, after)
  /-- The client comes to an end, has sent every reference once and in its
  place, and has been given the records stored for them. -/
  client : ∀ envs refs,
    (∀ round, ReadAuthorized (envs round) state merchant signers) →
    refs.length < 2 ^ 32 - 100 →
    ∃ rounds exchanges after,
      (∀ fuel, rounds ≤ fuel →
        readPages envs merchant signers refs fuel 0 0 state =
          .ok (some exchanges, after)) ∧
      exchanges.flatMap Exchange.sent = refs ∧
      exchanges.flatMap Exchange.records =
        refs.filterMap (state.payment merchant)

/-- In every reachable state, for every registered merchant. -/
theorem reads_lose_nothing (codec : Codec) (state : State)
    (reachable : Reachable codec state) (merchant : Address)
    (registered : state.merchant merchant = true)
    (signers : List Address) : ReadsComplete state merchant signers := by
  have exclusive : MerchantsExclusive state := by
    obtain ⟨inputs, rfl⟩ := reachable
    exact merchants_exclusive_run codec inputs
  refine ⟨?_, ?_⟩
  · intro env refs cursor authorized small room
    have readable := Readable.of_registered exclusive registered authorized
    refine ⟨_, pageCursor cursor refs, _, readSingly_bumps readable refs,
      ?_⟩
    rw [getPayments_bumps readable small room]
    have present : ∀ results : List (Option PaymentRecord),
        results.reduceOption = results.filterMap id := fun _ => rfl
    rw [present, List.filterMap_map, Function.id_comp]
  · intro envs refs authorized few
    have readable : ∀ round,
        Readable (envs round) merchant signers state :=
      fun round =>
        Readable.of_registered exclusive registered (authorized round)
    have start : (0 : UInt32).toNat = 0 := rfl
    obtain ⟨exchanges, after, ran, sent, records⟩ :=
      @readPages_complete merchant signers envs refs (refs.length / 100) 0 0
        state readable few (by omega) (by omega)
    rw [start, List.drop_zero] at sent records
    exact ⟨refs.length / 100 + 1, exchanges, after,
      fun fuel enough => ran fuel (by omega), sent, records⟩

theorem reads_lose_nothing_sample :
    ReadsComplete (run (step sampleCodec) State.initial samplePaymentRun)
      (.account 6) [] :=
  reads_lose_nothing sampleCodec _ ⟨samplePaymentRun, rfl⟩ _ rfl _

/-- A full page at the end of the cursor's range traps. -/
theorem full_page_overflows :
    ¬ ∀ (state : State), Reachable sampleCodec state →
      ∀ merchant, state.merchant merchant = true →
      ∀ env refs cursor signers,
        ReadAuthorized env state merchant signers → refs.length ≤ 100 →
        ∃ page after, getPayments env merchant refs cursor signers state =
          .ok (page, after) := by
  intro served
  obtain ⟨page, after, read⟩ := served
    (run (step sampleCodec) State.initial samplePaymentRun)
    ⟨samplePaymentRun, rfl⟩ (.account 6) rfl (.granting 500)
    (List.replicate 100 2) 4294967295 []
    (readAuthorized_iff.mpr (.inl ⟨rfl, rfl⟩)) (by decide)
  simp only [getPayments, nextCursor, Tx.bind_ok, Tx.ite_ok,
    orTrap_ok] at read
  obtain ⟨_, _, _, _, _, _, _, _, _, _, _, _, _, _,
    ⟨_, _, _, ⟨added, _⟩, _⟩ | ⟨short, _⟩, _⟩ := read
  · cases added
  · exact short rfl

end BettaPay.Settlement
