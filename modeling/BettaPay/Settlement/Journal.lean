import BettaPay.Settlement.Configuration
import BettaPay.Settlement.Pricing
import BettaPay.Settlement.Queue

namespace BettaPay.Settlement

open BettaPay.Host
open BettaPay.Common

/-! What an observer of the settlement log knows of the queue and of the
payments. -/

/-- Batches are published as counts, so `slot` and `payment` hold what may
still be there, while `pending` and `payments` are exact. -/
structure Book extends Configuration where
  slot : BytesN 32 → Option UInt64
  pending : Nat
  payment : Address → BytesN 32 → Option PaymentRecord
  payments : Address → Nat

namespace Book

/-- A slot that the log names is released. -/
def release (book : Book) (opHash : BytesN 32) : Option Book :=
  follow (book.paused = false ∧ book.slot opHash ≠ none ∧ 0 < book.pending)
    { book with
      slot := Function.update book.slot opHash none
      pending := book.pending - 1 }

def filed (book : Book) (merchant : Address) (reference : BytesN 32)
    (record : PaymentRecord) : Book :=
  { book with
    payment := Function.update book.payment merchant
      (Function.update (book.payment merchant) reference (some record))
    payments := Function.update book.payments merchant
      (book.payments merchant + 1) }

def withdrawn (book : Book) (merchant : Address) (reference : BytesN 32) :
    Book :=
  { book with
    payment := Function.update book.payment merchant
      (Function.update (book.payment merchant) reference none)
    payments := Function.update book.payments merchant
      (book.payments merchant - 1) }

/-- The book after one event, where the event can follow. -/
def post (book : Book) : Event → Option Book
  | .opScheduled opHash _ executeAt =>
      follow (book.paused = false)
        { book with
          slot := Function.update book.slot opHash (some executeAt)
          pending := book.pending + 1 }
  | .opExecuted opHash => book.release opHash
  | .opCancelled opHash _ => book.release opHash
  | .opCancelledBatch _ cancelled =>
      follow (book.paused = false ∧
          cancelled.toNat ≤ maxCancelAllBatch.toNat ∧
          cancelled.toNat ≤ book.pending)
        { book with pending := book.pending - cancelled.toNat }
  | .bootstrapFallback rule =>
      follow (book.paused = false ∧ rule = bootstrapDefaultRule) book
  | .paymentStored merchant reference record =>
      follow (book.paused = false ∧ book.merchant merchant = true ∧
          reference ≠ 0 ∧ record.merchant = merchant ∧
          calculateSplit record.amount record.rule = .ok record.split ∧
          ∀ known, known ∈ book.known merchant → known = record.rule)
        (book.filed merchant reference record)
  | .paymentPruned merchant reference =>
      follow (book.paused = false ∧ book.payment merchant reference ≠ none ∧
          0 < book.payments merchant)
        (book.withdrawn merchant reference)
  | .paymentsPruned merchant _ removed =>
      follow (removed.toNat ≤ maxPaymentsBatch.toNat ∧
          removed.toNat ≤ book.payments merchant)
        { book with
          payments := Function.update book.payments merchant
            (book.payments merchant - removed.toNat) }
  | event =>
      (book.toConfiguration.post event).map fun next =>
        { book with toConfiguration := next }

/-- What the log tells is so in the state. -/
structure Tells (book : Book) (state : State) : Prop where
  configuration : book.toConfiguration.Tells state
  slot : ∀ opHash slot, state.scheduledOperation opHash = some slot →
    book.slot opHash = some slot.executeAt
  pending : size state.scheduledOperation = book.pending
  payment : ∀ merchant reference record,
    state.payment merchant reference = some record →
      book.payment merchant reference = some record
  payments : ∀ merchant, size (state.payment merchant) =
    book.payments merchant

/-- The book of a contract that was just set up. -/
def opening (admins : List Address) (threshold : UInt32)
    (governance recoveryAddress : Address) : Book where
  toControlBook := .opening admins threshold recoveryAddress none
  governance := governance
  defaultRule := none
  merchant := fun _ => false
  archived := fun _ => false
  rule := fun _ => none
  slot := fun _ => none
  pending := 0
  payment := fun _ _ => none
  payments := fun _ => 0

variable {book : Book} {before after : State}

theorem Tells.unpaused (tells : book.Tells before)
    (running : before.isPaused = false) : book.paused = false :=
  tells.configuration.unpaused running

/-- The events that are about the configuration alone. -/
def configures : Event → Bool
  | .opScheduled _ _ _ => false
  | .opExecuted _ => false
  | .opCancelled _ _ => false
  | .opCancelledBatch _ _ => false
  | .bootstrapFallback _ => false
  | .paymentStored _ _ _ => false
  | .paymentPruned _ _ => false
  | .paymentsPruned _ _ _ => false
  | _ => true

theorem post_of_configures {event : Event}
    (about : configures event = true) :
    book.post event = (book.toConfiguration.post event).map fun next =>
      { book with toConfiguration := next } := by
  cases event <;> first | rfl | cases about

theorem replay_of_configures {events : List Event}
    (about : ∀ event, event ∈ events → configures event = true)
    {next : Configuration}
    (posted : replay Configuration.post book.toConfiguration events =
      some next) :
    replay Book.post book events =
      some { book with toConfiguration := next } := by
  induction events generalizing book with
  | nil =>
      cases posted
      rfl
  | cons event rest induction =>
      rw [replay_cons, Option.bind_eq_some_iff] at posted
      obtain ⟨middle, first, later⟩ := posted
      rw [replay_cons, post_of_configures (about event (by simp)), first,
        Option.map_some, Option.bind_some]
      exact @induction { book with toConfiguration := middle }
        (fun other member => about other (by simp [member])) later

theorem configures_clearance {env : Env} {state : State}
    {actor merchant : Address} :
    ∀ event, event ∈ clearanceEvents env state actor merchant →
      configures event = true := by
  intro event member
  obtain ⟨_, _, rfl⟩ := List.mem_map.mp member
  rfl

theorem configures_publishes {env : Env} {state : State} {actor : Address}
    {operation : Operation} :
    ∀ event, event ∈ operation.publishes env state actor →
      configures event = true := by
  intro event member
  cases operation with
  | unregisterMerchant merchant =>
      rcases List.mem_append.mp member with cleared | last
      · exact configures_clearance event cleared
      · rw [List.mem_singleton.mp last]
        rfl
  | clearSettlementRule merchant => exact configures_clearance event member
  | _ =>
      rw [List.mem_singleton.mp member]
      rfl

/-- A book whose configuration moved, over the same tables. -/
theorem Tells.moved {next : Configuration} (tells : book.Tells before)
    (configured : next.Tells after)
    (slots : after.scheduledOperation = before.scheduledOperation)
    (stored : after.payment = before.payment) :
    ({ book with toConfiguration := next } : Book).Tells after where
  configuration := configured
  slot := by rw [slots]; exact tells.slot
  pending := by rw [slots]; exact tells.pending
  payment := by rw [stored]; exact tells.payment
  payments := by rw [stored]; exact tells.payments

/-- A slot that is taken can be released. -/
theorem Tells.released {codec : Codec} {operation : Operation}
    {slot : ScheduledOp} (tells : book.Tells before)
    (running : before.isPaused = false)
    (queued : Queued codec before operation slot) :
    ∃ next, book.release (codec.hash operation) = some next ∧
      next.Tells (before.released (codec.hash operation)) := by
  have erased := queued.size_erased
  have sized := tells.pending
  have taken : book.slot (codec.hash operation) ≠ none := by
    rw [tells.slot _ _ queued.1]
    exact Option.some_ne_none _
  refine ⟨_, follow_eq_some.mpr ⟨⟨tells.unpaused running, taken,
    by omega⟩, rfl⟩, ?_⟩
  refine { tells with
    configuration := { tells.configuration with }
    slot := ?_
    pending := ?_ }
  · intro opHash other stored
    simp only [State.released_scheduledOperation, Function.update_apply]
      at stored ⊢
    split
    · rename_i same
      rw [if_pos same] at stored
      cases stored
    · rename_i different
      rw [if_neg different] at stored
      exact tells.slot opHash other stored
  · simp only [State.released_scheduledOperation]
    omega

/-- A new payment is filed. -/
theorem Tells.filed {merchant : Address} {reference : BytesN 32}
    {record : PaymentRecord} (tells : book.Tells before)
    (absent : before.payment merchant reference = none)
    (configured : book.toConfiguration.Tells after)
    (slots : after.scheduledOperation = before.scheduledOperation)
    (stored : after.payment = Function.update before.payment merchant
      (Function.update (before.payment merchant) reference
        (some record))) :
    (book.filed merchant reference record).Tells after where
  configuration := configured
  slot := by rw [slots]; exact tells.slot
  pending := by rw [slots]; exact tells.pending
  payment := by
    intro other found kept present
    rw [stored] at present
    simp only [Book.filed, Function.update_apply] at present ⊢
    split <;> rename_i owner
    · rw [if_pos owner] at present
      rw [Function.update_apply] at present ⊢
      split <;> rename_i named
      · rwa [if_pos named] at present
      · rw [if_neg named] at present
        exact tells.payment merchant found kept present
    · rw [if_neg owner] at present
      exact tells.payment other found kept present
  payments := by
    intro other
    rw [stored]
    simp only [Book.filed, Function.update_apply]
    split
    · rw [size_insert record absent, tells.payments]
    · exact tells.payments other

/-- A payment that the log names is withdrawn. -/
theorem Tells.withdrawn {merchant : Address} {reference : BytesN 32}
    {record : PaymentRecord} (tells : book.Tells before)
    (present : before.payment merchant reference = some record)
    (configured : book.toConfiguration.Tells after)
    (slots : after.scheduledOperation = before.scheduledOperation)
    (stored : after.payment = Function.update before.payment merchant
      (Function.update (before.payment merchant) reference none)) :
    (book.withdrawn merchant reference).Tells after where
  configuration := configured
  slot := by rw [slots]; exact tells.slot
  pending := by rw [slots]; exact tells.pending
  payment := by
    intro other found kept here
    rw [stored] at here
    simp only [Book.withdrawn, Function.update_apply] at here ⊢
    split <;> rename_i owner
    · rw [if_pos owner] at here
      rw [Function.update_apply] at here ⊢
      split <;> rename_i named
      · rw [if_pos named] at here
        cases here
      · rw [if_neg named] at here
        exact tells.payment merchant found kept here
    · rw [if_neg owner] at here
      exact tells.payment other found kept here
  payments := by
    intro other
    rw [stored]
    simp only [Book.withdrawn, Function.update_apply]
    split
    · have shrunk := size_erase (Option.isSome_of_eq_some present)
      have counted := tells.payments merchant
      omega
    · exact tells.payments other

end Book

section Posting

variable {codec : Codec} {env : Env} {before after : State} {book : Book}

/-- Where one event is published, and it can follow. -/
theorem posts_single {event : Event}
    (extended : after.events = before.events ++ [event])
    (posted : ∃ next, book.post event = some next ∧ next.Tells after) :
    ∃ published next, after.events = before.events ++ published ∧
      replay Book.post book published = some next ∧ next.Tells after := by
  obtain ⟨next, accepted, told⟩ := posted
  exact ⟨[event], next, extended, (replay_singleton _ _).trans accepted,
    told⟩

/-- Where the event is a notice about the configuration. -/
theorem posts_notice {event : Event} (tells : book.Tells before)
    (extended : after.events = before.events ++ [event])
    (about : Book.configures event = true)
    (posted : ∃ next, book.toConfiguration.post event = some next ∧
      next.Tells after)
    (slots : after.scheduledOperation = before.scheduledOperation)
    (stored : after.payment = before.payment) :
    ∃ published next, after.events = before.events ++ published ∧
      replay Book.post book published = some next ∧ next.Tells after := by
  obtain ⟨next, accepted, told⟩ := posted
  refine posts_single extended ⟨_, ?_, tells.moved told slots stored⟩
  rw [Book.post_of_configures about, accepted]
  rfl

/-- A rule that the log tells is the one a payment is priced by. -/
theorem Sourced.told {merchant : Address} {rule found : SettlementRule}
    {provenance : RuleProvenance}
    (sourced : Sourced env before merchant ⟨rule, provenance⟩)
    (told : found ∈ (before.rule merchant).or before.defaultRule) :
    found = rule := by
  rw [Option.mem_def] at told
  cases sourced with
  | merchant stored =>
      rw [stored] at told
      cases told
      rfl
  | fallback unset source =>
      rw [unset, Option.none_or] at told
      cases source with
      | default stored => exact Option.some.inj (told.symm.trans stored)
      | answered empty => cases told.symm.trans empty
      | cached empty => cases told.symm.trans empty
      | bootstrap empty => cases told.symm.trans empty

/-- A payment is filed under the rule that its record shows. -/
theorem posts_payment {merchant : Address} {reference : BytesN 32}
    {amount : I128} {rule : SettlementRule} {split : FeeSplit}
    {provenance : RuleProvenance} {count : UInt32}
    {cache : Option (Option SettlementRule)} {live : PersistentKey → Nat}
    (tells : book.Tells before) (nonzero : reference ≠ 0)
    (running : before.isPaused = false)
    (registered : before.merchant merchant = true)
    (absent : before.payment merchant reference = none)
    (sourced : Sourced env before merchant ⟨rule, provenance⟩)
    (priced : calculateSplit amount rule = .ok split) :
    ∃ next, replay Book.post book (bootstrapEvents rule ++
        [.paymentStored merchant reference
          (paymentRecord env merchant amount rule split)]) = some next ∧
      next.Tells (State.soft
        { before with
          payment := Function.update before.payment merchant
            (Function.update (before.payment merchant) reference
              (some (paymentRecord env merchant amount rule split)))
          paymentCount :=
            Function.update before.paymentCount merchant (some count) }
        cache live (bootstrapEvents rule ++
          [.paymentStored merchant reference
            (paymentRecord env merchant amount rule split)])) := by
  have unpaused := tells.unpaused running
  have announced : replay Book.post book (bootstrapEvents rule) =
      some book := by
    unfold bootstrapEvents
    split
    · rw [replay_singleton]
      exact follow_eq_some.mpr ⟨⟨unpaused, rfl⟩, rfl⟩
    · rfl
  have known : ∀ found, found ∈ book.known merchant → found = rule := by
    intro found told
    rw [Configuration.known, ← tells.configuration.rule,
      ← tells.configuration.defaultRule] at told
    exact sourced.told told
  have gross : split.grossAmount = amount :=
    (calculateSplit_ok priced).choose_spec.choose_spec.1
  have split_eq : calculateSplit amount rule = .ok
      (paymentRecord env merchant amount rule split).split := by
    rw [priced, ← gross]
    rfl
  have merchant' : book.merchant merchant = true := by
    rw [← tells.configuration.merchant, registered]
  refine ⟨book.filed merchant reference
      (paymentRecord env merchant amount rule split), ?_,
    tells.filed absent { tells.configuration with } rfl rfl⟩
  rw [replay_append, announced, Option.bind_some, replay_singleton]
  exact follow_eq_some.mpr ⟨⟨unpaused, merchant', nonzero, rfl, split_eq,
    known⟩, rfl⟩

theorem Applied.isPaused {actor : Address} {operation : Operation}
    (applied : Applied env before actor operation after) :
    after.isPaused = before.isPaused := by
  cases applied <;> rfl

/-- A merchant consents before it is registered. -/
theorem posts_consent {call : Call} {signers : List Address}
    {operation : Operation} {actor : Address}
    {live : PersistentKey → Nat} {events : List Event}
    (direct : call.administers = some (signers, operation))
    (applied : Applied env (before.soft before.cachedGovRule live events)
      actor operation after)
    (running : before.isPaused = false ∨ operation.ignoresPause = true)
    (tells : book.Tells before) :
    replay Book.post book call.consent = some book := by
  cases call with
  | registerMerchant _ merchant =>
      cases direct
      cases applied with
      | registerMerchant _ _ _ fresh =>
          have unpaused := tells.unpaused (running.resolve_right nofun)
          have absent : book.merchant merchant = false := by
            rw [← tells.configuration.merchant]
            exact fresh
          rw [Call.consent, replay_singleton,
            Book.post_of_configures rfl]
          have accepted : book.toConfiguration.post
              (.merchantConsent merchant) = some book.toConfiguration :=
            follow_eq_some.mpr ⟨⟨unpaused, absent⟩, rfl⟩
          rw [accepted]
          rfl
  | _ => rfl

/-- What a committed call publishes can follow, and keeps the book true. -/
theorem Effect.posts {call : Call} {reply : Reply}
    (effect : Effect codec env before call after)
    (told : after.events = before.events ++
      call.publishes codec env before reply)
    (tells : book.Tells before) :
    ∃ published next, after.events = before.events ++ published ∧
      replay Book.post book published = some next ∧ next.Tells after := by
  have config := tells.configuration
  cases effect with
  | init uninitialized =>
      have configured := config.control.admins
      rw [State.authority_admin, uninitialized] at configured
      cases configured
  | initiateRecovery stored authorized nonzero absent deadline =>
      exact posts_notice tells rfl rfl
        (config.notice (config.control.initiated stored nonzero absent) rfl
          rfl rfl) rfl rfl
  | cancelRecovery stored authorized =>
      exact posts_notice tells rfl rfl
        (config.notice (config.control.cancelled stored) rfl rfl rfl) rfl rfl
  | updateRecoveryAddress quorum nonzero =>
      exact posts_notice tells rfl rfl
        (config.notice (config.control.rotated nonzero) rfl rfl rfl) rfl rfl
  | executeRecovery stored matured valid =>
      exact posts_notice tells rfl rfl
        (config.notice (config.control.recovered stored) rfl rfl rfl) rfl rfl
  | changeThreshold stored threshold positive attainable =>
      exact posts_notice tells rfl rfl
        (config.notice
          (config.control.adjusted stored threshold positive attainable) rfl
          rfl rfl) rfl rfl
  | pause quorum unpaused =>
      exact posts_notice tells rfl rfl
        (config.notice (config.control.stopped unpaused) rfl rfl rfl) rfl rfl
  | unpause quorum paused =>
      exact posts_notice tells rfl rfl
        (config.notice (config.control.resumed paused) rfl rfl rfl) rfl rfl
  | migrate quorum unpaused =>
      exact posts_notice tells rfl rfl
        (config.notice (config.control.migrated unpaused) rfl rfl rfl) rfl
        rfl
  | @schedule _ operation _ executeAt _ _ quorum unpaused longEnough
      shortEnough bounded small free deadline =>
      refine posts_single rfl ⟨_, follow_eq_some.mpr ⟨tells.unpaused unpaused,
        rfl⟩, ?_⟩
      refine { tells with
        configuration := { config with }
        slot := ?_
        pending := ?_ }
      · intro opHash slot stored
        simp only [State.soft_scheduledOperation, Function.update_apply]
          at stored ⊢
        split
        · rename_i same
          rw [if_pos same] at stored
          cases stored
          rfl
        · rename_i different
          rw [if_neg different] at stored
          exact tells.slot opHash slot stored
      · rw [State.soft_scheduledOperation, size_insert _ free,
          tells.pending]
  | @execute executor operation slot middle queued unpaused matured unvetoed
      applied =>
      obtain ⟨released, freed, holds⟩ := tells.released unpaused queued
      obtain ⟨next, posted, moved⟩ := @Applied.posts book.toConfiguration env
        executor executor _ _ operation applied (.inl unpaused)
        { config with }
      rw [publishes_released] at posted
      have replayed := Book.replay_of_configures
        Book.configures_publishes posted
      obtain ⟨⟨_, taken, some_pending⟩, rfl⟩ := follow_eq_some.mp freed
      have running : next.paused = false :=
        moved.unpaused (applied.isPaused.trans unpaused)
      obtain ⟨slots, _⟩ := applied.queue
      have finished := holds.moved moved slots applied.payment
      refine ⟨_, { ({ book with
          slot := Function.update book.slot (codec.hash operation) none
          pending := book.pending - 1 } : Book) with
        toConfiguration := next }, told, ?_,
        { finished with configuration := { moved with } }⟩
      rw [Call.publishes, replay_append, replayed, Option.bind_some,
        replay_singleton]
      exact follow_eq_some.mpr ⟨⟨running, taken, some_pending⟩, rfl⟩
  | @cancel _ operation _ _ quorum unpaused queued =>
      obtain ⟨next, freed, holds⟩ := tells.released unpaused queued
      refine posts_single rfl ⟨next, freed, ?_⟩
      exact { holds with configuration := { holds.configuration with } }
  | @cancelAll _ operations count _ middle quorum unpaused bounded drained =>
      have listed := toNat_ofNat_of_le bounded
      have sized := drained.sized
      have erased := drained.slots
      have pending := tells.pending
      obtain ⟨slots, counter, rfl⟩ := drained.unchanged
      refine posts_single rfl ⟨_, follow_eq_some.mpr
        ⟨⟨tells.unpaused unpaused, by omega, by omega⟩, rfl⟩, ?_⟩
      refine { tells with
        configuration := { config with }
        slot := ?_
        pending := ?_ }
      · intro opHash slot stored
        rw [State.soft_scheduledOperation, erased, eraseIf_eq_some] at stored
        exact tells.slot opHash slot stored.1
      · simp only [State.soft_scheduledOperation] at sized ⊢
        omega
  | @administer call signers operation actor _ _ consent live direct quorum
      running agreed prepared applied =>
      subst prepared
      obtain ⟨next, posted, moved⟩ := @Applied.posts book.toConfiguration env
        actor (caller signers) _ _ operation applied running
        { config with }
      rw [publishes_soft] at posted
      have replayed := Book.replay_of_configures
        Book.configures_publishes posted
      have consented := posts_consent direct applied running tells
      obtain ⟨slots, _⟩ := applied.queue
      refine ⟨_, _, told, ?_, tells.moved moved slots applied.payment⟩
      rw [publishes_of_administers direct, replay_append, consented,
        Option.bind_some]
      exact replayed
  | storePaymentReference nonzero unpaused authorized registered enough
      absent sourced refreshed priced counted =>
      obtain ⟨provenance, source⟩ := sourced
      obtain ⟨next, posted, holds⟩ := posts_payment tells nonzero unpaused
        registered absent source priced
      exact ⟨_, next, rfl, posted, holds⟩
  | @prunePayment _ merchant reference record _ quorum unpaused stored =>
      have counted := tells.payments merchant
      have shrunk := size_erase (Option.isSome_of_eq_some stored)
      have filed : book.payment merchant reference ≠ none := by
        rw [tells.payment merchant reference record stored]
        exact Option.some_ne_none _
      exact posts_single rfl ⟨_, follow_eq_some.mpr
        ⟨⟨tells.unpaused unpaused, filed, by omega⟩, rfl⟩,
        tells.withdrawn stored { config with } rfl rfl⟩
  | pruneNothing quorum unpaused absent =>
      exact ⟨[], book, (List.append_nil _).symm, rfl, tells⟩
  | @prunePayments _ merchant _ refs count counts live middle quorum bounded
      pruned counted =>
      have listed := toNat_ofNat_of_le bounded
      have sized := pruned.sized
      have filed := tells.payments merchant
      have table := pruned.table
      subst table
      refine posts_single rfl ⟨_, follow_eq_some.mpr
        ⟨⟨by omega, by omega⟩, rfl⟩, ?_⟩
      refine { tells with
        configuration := { config with }
        payment := ?_
        payments := ?_ }
      · intro other reference record stored
        simp only [State.soft_payment, Function.update_apply] at stored
        split at stored
        · rename_i owner
          rw [owner]
          exact tells.payment merchant reference record
            (eraseIf_eq_some.mp stored).1
        · exact tells.payment other reference record stored
      · intro other
        simp only [Function.update_self] at sized
        simp only [State.soft_payment, Function.update_apply]
        split
        · omega
        · exact tells.payments other
  | query reads refreshed =>
      exact ⟨[], book, rfl, rfl, { tells with
        configuration := config.soft _ _ _ }⟩

end Posting

/-- The settlement contract and the book kept from its log. -/
def journal (codec : Codec) : Journaled State (Failure SettlementError) Input
    Reply Event Book where
  step := step codec
  entries := State.events
  post := Book.post
  tells := Book.Tells
  posts := fun tells succeeded =>
    (invoke_effect succeeded).posts (invoke_publishes succeeded) tells

theorem init_opens {codec : Codec} {env : Env}
    {deployer governance recoveryAddress : Address} {admins : List Address}
    {threshold : UInt32} {reply : Reply} {opened : State}
    (opens : invoke codec env
      (.init deployer admins threshold governance recoveryAddress)
      State.initial = .ok (reply, opened)) :
    opened.events = [] ∧
      (Book.opening admins threshold governance recoveryAddress).Tells
        opened := by
  cases invoke_effect opens with
  | init =>
      refine ⟨rfl, ?_⟩
      exact {
        configuration :=
          { control := ControlBook.opening_tells rfl rfl rfl rfl
            governance := rfl
            defaultRule := rfl
            merchant := rfl
            archived := rfl
            rule := rfl }
        slot := fun _ _ absent => by cases absent
        pending := size_empty
        payment := fun _ _ _ absent => by cases absent
        payments := fun _ => size_empty }
  | administer direct => cases direct
  | query reads => cases reads

/-- After `init`, which the settlement contract does not announce, its log at
every moment replays from the arguments of `init`: the book of it is exact on
the registry, the rules, the governance and the control of the contract but
for the threshold, which a transfer does not publish, on how many operations
wait and how many payments each merchant has, and right about every payment
that is there and about when a queued operation falls due. -/
theorem log_keeps_ledger (codec : Codec) {env : Env}
    {deployer governance recoveryAddress : Address} {admins : List Address}
    {threshold : UInt32} {reply : Reply} {opened : State}
    (opens : invoke codec env
      (.init deployer admins threshold governance recoveryAddress)
      State.initial = .ok (reply, opened)) (inputs : List Input)
    (index : Nat) :
    ∃ book, replay Book.post
        (.opening admins threshold governance recoveryAddress)
        (stateAt (step codec) opened inputs index).events = some book ∧
      book.Tells (stateAt (step codec) opened inputs index) := by
  obtain ⟨silent, tells⟩ := init_opens opens
  obtain ⟨published, book, extended, posted, told⟩ :=
    (journal codec).replays tells (inputs.take index)
  refine ⟨book, ?_, told⟩
  have logged : (stateAt (step codec) opened inputs index).events =
      opened.events ++ published := extended
  rw [logged, silent]
  exact posted

/-- A merchant under the default rule is paid and its payment pruned, while
an operation waits and is executed. -/
def sampleLedgerRun : List Input :=
  [⟨.granting 100, .registerMerchant [.account 1] (.account 6)⟩,
    ⟨.granting 200, .schedule [.account 1] sampleOperation 604800⟩,
    ⟨.granting 300, .storePaymentReference (.account 6) 1
      minPaymentAmount⟩,
    ⟨.granting 400, .prunePayment [.account 1] (.account 6) 1⟩,
    ⟨.granting 605000, .execute (.account 3) sampleOperation⟩]

def sampleFounding : Input :=
  ⟨.granting 0, .init (.account 9) [.account 1] 1 (.contract 5)
    (.account 2)⟩

theorem log_keeps_ledger_sample :
    (run (step sampleCodec) State.initial
        (sampleFounding :: sampleLedgerRun)).events.length = 8 ∧
      ∃ reply opened,
        invoke sampleCodec sampleFounding.env sampleFounding.call
          State.initial = .ok (reply, opened) ∧
        ∀ index, ∃ book, replay Book.post
            (.opening [.account 1] 1 (.contract 5) (.account 2))
            (stateAt (step sampleCodec) opened sampleLedgerRun
              index).events = some book ∧
          book.Tells (stateAt (step sampleCodec) opened sampleLedgerRun
            index) := by
  have accepted : (invoke sampleCodec sampleFounding.env sampleFounding.call
      State.initial).isOk = true := by decide
  obtain ⟨reply, opened, opens⟩ := isOk_iff_exists.mp accepted
  exact ⟨by decide, reply, opened, opens,
    log_keeps_ledger sampleCodec opens sampleLedgerRun⟩

end BettaPay.Settlement
