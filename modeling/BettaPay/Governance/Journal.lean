import BettaPay.Common.Book
import BettaPay.Governance.Effect

namespace BettaPay.Governance

open BettaPay.Host
open BettaPay.Common

/-! What an observer of the governance log knows. -/

/-- The parameters of the protocol and who controls them. -/
structure Book extends ControlBook where
  feeConfig : Option FeeConfig
  systemParam : Symbol → Option I128
  anchor : Address → Option Address

namespace Book

def control (book : Book) (notice : Notice) : Option Book :=
  (book.toControlBook.post notice).map fun next =>
    { book with toControlBook := next }

/-- The book after one event, where the event can follow. -/
def post (book : Book) : Event → Option Book
  | .initialized _ => none
  | .recoveryAddressUpdated newRecovery _ =>
      book.control (.recoveryAddressUpdated newRecovery)
  | .contractUpgraded newWasmHash _ =>
      book.control (.contractUpgraded newWasmHash)
  | .recoveryInitiated recovery newAdmin executeAfter =>
      book.control (.recoveryInitiated recovery newAdmin executeAfter)
  | .recoveryCancelled _ => book.control .recoveryCancelled
  | .recoveryExecuted payload => book.control (.recoveryExecuted payload)
  | .adminTransferred payload => book.control (.adminTransferred payload)
  | .thresholdChanged current new =>
      book.control (.thresholdChanged current new)
  | .paused _ reason =>
      if reason = pauseReasonNone then book.control .paused else none
  | .unpaused _ => book.control .unpaused
  | .migrated _ version =>
      if version = currentSchemaVersion then book.control .migrated else none
  | .sysParamUpdated key _ previous value =>
      follow (book.paused = false ∧ previous = book.systemParam key ∧
          0 ≤ value.val ∧ (key = bypassGovFeesParam → value.val ≤ 1))
        { book with
          systemParam := Function.update book.systemParam key (some value) }
  | .feeConfigUpdated _ config =>
      follow (book.paused = false ∧
          minFeeBps ≤ config.platformFeeBps ∧
          config.platformFeeBps ≤ maxFeeBps ∧
          minFeeBps ≤ config.networkFeeBps ∧
          config.networkFeeBps ≤ maxFeeBps)
        { book with feeConfig := some config }
  | .anchorUpserted asset previous current =>
      follow (book.paused = false ∧ previous = book.anchor asset ∧
          asset ≠ zeroAddress ∧ current ≠ zeroAddress ∧ asset ≠ current)
        { book with
          anchor := Function.update book.anchor asset (some current) }
  | .anchorRemoved asset =>
      follow (book.paused = false ∧ book.anchor asset ≠ none)
        { book with anchor := Function.update book.anchor asset none }

/-- What the book says about the state of the contract. -/
structure Tells (book : Book) (state : State) : Prop where
  control : book.toControlBook.Tells state.authority state.isPaused
    state.wasm
  feeConfig : state.feeConfig = book.feeConfig
  systemParam : state.systemParam = book.systemParam
  anchor : state.anchor = book.anchor

/-- The book of a contract that was just set up. -/
def opening (admins : List Address) (threshold : UInt32)
    (recoveryAddress : Address) : Book where
  toControlBook := .opening admins threshold recoveryAddress none
  feeConfig := none
  systemParam := fun _ => none
  anchor := fun _ => none

theorem Tells.paused {book : Book} {state : State} (tells : book.Tells state)
    (unpaused : state.isPaused = false) : book.paused = false :=
  tells.control.paused.symm.trans unpaused

/-- A notice moves the control of the contract and nothing else. -/
theorem Tells.notice {book : Book} {before after : State} {notice : Notice}
    (tells : book.Tells before)
    (posted : ∃ next, book.toControlBook.post notice = some next ∧
      next.Tells after.authority after.isPaused after.wasm)
    (feeConfig : after.feeConfig = before.feeConfig)
    (systemParam : after.systemParam = before.systemParam)
    (anchor : after.anchor = before.anchor) :
    ∃ next, book.control notice = some next ∧ next.Tells after := by
  obtain ⟨next, accepted, control⟩ := posted
  refine ⟨{ book with toControlBook := next }, ?_, control,
    feeConfig.trans tells.feeConfig, systemParam.trans tells.systemParam,
    anchor.trans tells.anchor⟩
  rw [Book.control, accepted]
  rfl

end Book

/-- A removed anchor was there. -/
theorem removeAnchor_present {env : Ledger} {signers : List Address}
    {asset : Address} {before after : State} {result : Unit}
    (succeeded : removeAnchor env signers asset before =
      .ok (result, after)) : before.anchor asset ≠ none := by
  simp only [removeAnchor, Tx.readState_bind, Tx.bind_ok,
    assertAdminAndNotPaused_ok, rejectIf_ok] at succeeded
  obtain ⟨_, _, ⟨_, rfl⟩, _, _, ⟨present, rfl⟩, _⟩ := succeeded
  exact present

/-- The single event of a committed call can follow, and keeps the book
true. -/
theorem Effect.posts {env : Ledger} {call : Call} {before after : State}
    {book : Book} (effect : Effect env before call after)
    (present : ∀ signers asset, call = .removeAnchor signers asset →
      before.anchor asset ≠ none)
    (tells : book.Tells before) :
    ∃ published next, after.events = before.events ++ published ∧
      replay Book.post book published = some next ∧ next.Tells after := by
  have single : ∀ {event : Event},
      after.events = before.events ++ [event] →
      (∃ next, book.post event = some next ∧ next.Tells after) →
      ∃ published next, after.events = before.events ++ published ∧
        replay Book.post book published = some next ∧
        next.Tells after := by
    intro event extended posted
    obtain ⟨next, accepted, told⟩ := posted
    exact ⟨[event], next, extended, (replay_singleton _ _).trans accepted,
      told⟩
  cases effect with
  | init uninitialized =>
      have configured := tells.control.admins
      rw [State.authority_admin, uninitialized] at configured
      cases configured
  | updateRecoveryAddress quorum nonzero =>
      exact single rfl
        (tells.notice (tells.control.rotated nonzero) rfl rfl rfl)
  | upgrade quorum =>
      exact single rfl (tells.notice (tells.control.upgraded _) rfl rfl rfl)
  | initiateRecovery stored authorized nonzero absent deadline =>
      exact single rfl
        (tells.notice (tells.control.initiated stored nonzero absent) rfl
          rfl rfl)
  | cancelRecovery stored authorized =>
      exact single rfl
        (tells.notice (tells.control.cancelled stored) rfl rfl rfl)
  | executeRecovery stored matured =>
      exact single rfl
        (tells.notice (tells.control.recovered stored) rfl rfl rfl)
  | transferAdmin quorum stored valid =>
      exact single rfl
        (tells.notice (tells.control.transferred stored valid) rfl rfl rfl)
  | changeThreshold stored threshold positive attainable authorized =>
      exact single rfl
        (tells.notice
          (tells.control.adjusted stored threshold positive attainable) rfl
          rfl rfl)
  | pause quorum unpaused =>
      exact single rfl
        (tells.notice (tells.control.stopped unpaused) rfl rfl rfl)
  | unpause quorum paused =>
      exact single rfl
        (tells.notice (tells.control.resumed paused) rfl rfl rfl)
  | migrate unpaused quorum =>
      exact single rfl
        (tells.notice (tells.control.migrated unpaused) rfl rfl rfl)
  | updateSystemParam unpaused quorum nonnegative flag =>
      refine single rfl ⟨_, follow_eq_some.mpr ⟨⟨tells.paused unpaused,
        congrFun tells.systemParam _, nonnegative, flag⟩, rfl⟩, ?_⟩
      exact { tells with
        control := tells.control
        systemParam := by rw [← tells.systemParam]; rfl }
  | setFeeConfig unpaused quorum bounded =>
      refine single rfl ⟨_, follow_eq_some.mpr ⟨⟨tells.paused unpaused,
        bounded.platformAtLeast, bounded.platformAtMost,
        bounded.networkAtLeast, bounded.networkAtMost⟩, rfl⟩, ?_⟩
      exact { tells with control := tells.control, feeConfig := rfl }
  | upsertAnchor unpaused quorum assetNonzero anchorNonzero distinct =>
      refine single rfl ⟨_, follow_eq_some.mpr ⟨⟨tells.paused unpaused,
        congrFun tells.anchor _, assetNonzero, anchorNonzero, distinct⟩,
        rfl⟩, ?_⟩
      exact { tells with
        control := tells.control
        anchor := by rw [← tells.anchor]; rfl }
  | removeAnchor unpaused quorum =>
      have stored := present _ _ rfl
      rw [tells.anchor] at stored
      refine single rfl ⟨_, follow_eq_some.mpr ⟨⟨tells.paused unpaused,
        stored⟩, rfl⟩, ?_⟩
      exact { tells with
        control := tells.control
        anchor := by rw [← tells.anchor]; rfl }
  | query reads =>
      exact ⟨[], book, (List.append_nil _).symm, rfl, tells⟩

/-- The governance contract and the book kept from its log. -/
def journal : Journaled State (Failure GovernanceError) Input Reply Event
    Book where
  step := step
  entries := State.events
  post := Book.post
  tells := Book.Tells
  posts := by
    intro book input before after reply tells succeeded
    refine (invoke_effect succeeded).posts ?_ tells
    intro signers asset same
    rcases input with ⟨env, call⟩
    cases same
    obtain ⟨_, ran, _⟩ := replying_ok.mp succeeded
    exact removeAnchor_present ran

theorem init_opens {env : Ledger} {deployer recoveryAddress : Address}
    {admins : List Address} {threshold : UInt32} {reply : Reply}
    {opened : State}
    (opens : invoke env (.init deployer admins threshold recoveryAddress)
      State.initial = .ok (reply, opened)) :
    (∃ admin, opened.events = [.initialized admin]) ∧
      (Book.opening admins threshold recoveryAddress).Tells opened := by
  cases invoke_effect opens with
  | init => exact ⟨⟨_, rfl⟩, ControlBook.opening_tells rfl rfl rfl rfl, rfl,
      rfl, rfl⟩
  | query reads => cases reads

/-- After `init`, an observer who knows its arguments keeps a true book from
the events alone: at every moment of every run each event so far could follow
the ones before it, and the book they give is that of the state. -/
theorem log_keeps_book {env : Ledger} {deployer recoveryAddress : Address}
    {admins : List Address} {threshold : UInt32} {reply : Reply}
    {opened : State}
    (opens : invoke env (.init deployer admins threshold recoveryAddress)
      State.initial = .ok (reply, opened)) (inputs : List Input) :
    ∃ admin log, (run step opened inputs).events =
        .initialized admin :: log ∧
      ∀ index, ∃ length book,
        (stateAt step opened inputs index).events =
          .initialized admin :: log.take length ∧
        replay Book.post (.opening admins threshold recoveryAddress)
          (log.take length) = some book ∧
        book.Tells (stateAt step opened inputs index) := by
  obtain ⟨⟨admin, announced⟩, tells⟩ := init_opens opens
  obtain ⟨log, _, extended, _⟩ := journal.replays tells inputs
  change (run step opened inputs).events = opened.events ++ log at extended
  refine ⟨admin, log, extended.trans (by rw [announced]; rfl), ?_⟩
  intro index
  obtain ⟨earlier, later, book, _, whole, reached, posted, told, _⟩ :=
    journal.replays_at tells inputs index
  change (run step opened inputs).events = opened.events ++ _ at whole
  change (stateAt step opened inputs index).events =
    opened.events ++ earlier at reached
  have split : log = earlier ++ later :=
    List.append_cancel_left (extended.symm.trans whole)
  refine ⟨earlier.length, book, ?_, ?_, told⟩
  · rw [split, List.take_left, reached, announced]
    rfl
  · rw [split, List.take_left]
    exact posted

/-- Parameters are set and replaced, an anchor comes and goes, and a recovery
takes the contract over. -/
def sampleJournalRun : List Input :=
  [⟨.granting 100, .setFeeConfig [.account 1] ⟨250, 50⟩⟩,
    ⟨.granting 200, .updateSystemParam [.account 1] "min_payment"
      ⟨500, by decide, by decide⟩⟩,
    ⟨.granting 300, .updateSystemParam [.account 1] "min_payment"
      ⟨700, by decide, by decide⟩⟩,
    ⟨.granting 400, .upsertAnchor [.account 1] (.contract 3) (.contract 4)⟩,
    ⟨.granting 500, .removeAnchor [.account 1] (.contract 3)⟩,
    ⟨.granting 600, .initiateRecovery (.account 8)⟩,
    ⟨.granting 700000, .executeRecovery⟩]

def sampleOpening : Input :=
  ⟨.granting 0, .init (.account 9) [.account 1] 1 (.account 2)⟩

theorem log_keeps_book_sample :
    (run step State.initial (sampleOpening :: sampleJournalRun)).admin =
        some [.account 8] ∧
      ∃ reply opened,
        invoke sampleOpening.env sampleOpening.call State.initial =
          .ok (reply, opened) ∧
        ∃ admin log, (run step opened sampleJournalRun).events =
            .initialized admin :: log ∧
          ∀ index, ∃ length book,
            (stateAt step opened sampleJournalRun index).events =
              .initialized admin :: log.take length ∧
            replay Book.post (.opening [.account 1] 1 (.account 2))
              (log.take length) = some book ∧
            book.Tells (stateAt step opened sampleJournalRun index) := by
  have accepted : (invoke sampleOpening.env sampleOpening.call
      State.initial).isOk = true := by decide
  obtain ⟨reply, opened, opens⟩ := isOk_iff_exists.mp accepted
  exact ⟨by decide, reply, opened, opens,
    log_keeps_book opens sampleJournalRun⟩

end BettaPay.Governance
