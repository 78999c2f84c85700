import BettaPay.Governance.EventWire
import BettaPay.Governance.Journal
import BettaPay.Settlement.EventWire
import BettaPay.Settlement.Journal

namespace BettaPay.Protocol

open BettaPay.Host
open BettaPay.Common

/-! Two contracts of the same kind that were set up alike and published the
same log. -/

/-- The control of two contracts, but for the threshold, which a transfer
does not publish. -/
structure SameControl (left right : Authority) (paused paused' : Bool)
    (wasm wasm' : Option (BytesN 32)) : Prop where
  admin : left.admin = right.admin
  recoveryAddress : left.recoveryAddress = right.recoveryAddress
  pendingRecovery : left.pendingRecovery = right.pendingRecovery
  paused : paused = paused'
  wasm : wasm = wasm'

structure SameParameters (left right : Governance.State) : Prop where
  control : SameControl left.authority right.authority left.isPaused
    right.isPaused left.wasm right.wasm
  feeConfig : left.feeConfig = right.feeConfig
  systemParam : left.systemParam = right.systemParam
  anchor : left.anchor = right.anchor

/-- The registry, the rules and the numbers agree; a slot that both have falls
due at the same time, and a payment that both have is the same one. -/
structure SameLedger (left right : Settlement.State) : Prop where
  control : SameControl left.authority right.authority left.isPaused
    right.isPaused left.wasm right.wasm
  governance : left.governance = right.governance
  defaultRule : left.defaultRule = right.defaultRule
  merchant : left.merchant = right.merchant
  archived : left.archivedMerchant = right.archivedMerchant
  rule : left.rule = right.rule
  pending : size left.scheduledOperation = size right.scheduledOperation
  executeAt : ∀ opHash slot slot',
    left.scheduledOperation opHash = some slot →
    right.scheduledOperation opHash = some slot' →
    slot.executeAt = slot'.executeAt
  payments : ∀ merchant,
    size (left.payment merchant) = size (right.payment merchant)
  payment : ∀ merchant reference record record',
    left.payment merchant reference = some record →
    right.payment merchant reference = some record' → record = record'

theorem SameControl.of_told {book : ControlBook} {left right : Authority}
    {paused paused' : Bool} {wasm wasm' : Option (BytesN 32)}
    (told : book.Tells left paused wasm)
    (told' : book.Tells right paused' wasm') :
    SameControl left right paused paused' wasm wasm' where
  admin := told.admins.trans told'.admins.symm
  recoveryAddress := told.recoveryAddress.trans told'.recoveryAddress.symm
  pendingRecovery := told.pendingRecovery.trans told'.pendingRecovery.symm
  paused := told.paused.trans told'.paused.symm
  wasm := told.wasm.trans told'.wasm.symm

theorem SameParameters.of_told {book : Governance.Book}
    {left right : Governance.State} (told : book.Tells left)
    (told' : book.Tells right) : SameParameters left right where
  control := .of_told told.control told'.control
  feeConfig := told.feeConfig.trans told'.feeConfig.symm
  systemParam := told.systemParam.trans told'.systemParam.symm
  anchor := told.anchor.trans told'.anchor.symm

theorem SameLedger.of_told {book : Settlement.Book}
    {left right : Settlement.State} (told : book.Tells left)
    (told' : book.Tells right) : SameLedger left right where
  control := .of_told told.configuration.control told'.configuration.control
  governance := told.configuration.governance.trans
    told'.configuration.governance.symm
  defaultRule := told.configuration.defaultRule.trans
    told'.configuration.defaultRule.symm
  merchant := told.configuration.merchant.trans
    told'.configuration.merchant.symm
  archived := told.configuration.archived.trans
    told'.configuration.archived.symm
  rule := told.configuration.rule.trans told'.configuration.rule.symm
  pending := told.pending.trans told'.pending.symm
  executeAt := by
    intro opHash slot slot' stored stored'
    have known := told.slot opHash slot stored
    rw [told'.slot opHash slot' stored'] at known
    exact (Option.some.inj known).symm
  payments := fun merchant =>
    (told.payments merchant).trans (told'.payments merchant).symm
  payment := by
    intro merchant reference record record' stored stored'
    have known := told.payment merchant reference record stored
    rw [told'.payment merchant reference record' stored'] at known
    exact (Option.some.inj known).symm

/-- Two governance contracts set up with the same arguments that published
the same topics and payloads have the same parameters and are controlled
alike but for the threshold, whoever called them, in whatever order and with
whatever failures in between. -/
theorem governance_log_decides {env env' : Ledger}
    {deployer deployer' recoveryAddress : Address} {admins : List Address}
    {threshold : UInt32} {reply reply' : Governance.Reply}
    {opened opened' : Governance.State}
    (opens : Governance.invoke env
      (.init deployer admins threshold recoveryAddress)
      Governance.State.initial = .ok (reply, opened))
    (opens' : Governance.invoke env'
      (.init deployer' admins threshold recoveryAddress)
      Governance.State.initial = .ok (reply', opened'))
    (inputs inputs' : List Governance.Input)
    (published :
      (run Governance.step opened inputs).events.map Governance.Event.wire =
        (run Governance.step opened' inputs').events.map
          Governance.Event.wire) :
    SameParameters (run Governance.step opened inputs)
      (run Governance.step opened' inputs') := by
  have same := Governance.Event.wire_injective.list_map published
  obtain ⟨⟨admin, announced⟩, tells⟩ := Governance.init_opens opens
  obtain ⟨⟨admin', announced'⟩, tells'⟩ := Governance.init_opens opens'
  obtain ⟨log, _, extended, _⟩ := Governance.journal.replays tells inputs
  obtain ⟨log', _, extended', _⟩ := Governance.journal.replays tells' inputs'
  have tail : log = log' := by
    change (run Governance.step opened inputs).events = _ at extended
    change (run Governance.step opened' inputs').events = _ at extended'
    rw [extended, extended'] at same
    change opened.events ++ log = opened'.events ++ log' at same
    rw [announced, announced'] at same
    exact (List.cons.inj same).2
  subst tail
  obtain ⟨book, told, told'⟩ :=
    Governance.journal.same_log tells tells' extended extended'
  exact .of_told told told'

/-- The same parameter set by another signer first, who is refused. -/
def refusedFirst : List Governance.Input :=
  ⟨.granting 50, .setFeeConfig [.account 7] ⟨250, 50⟩⟩ ::
    Governance.sampleJournalRun

theorem governance_log_decides_sample :
    ∃ reply opened,
      Governance.invoke Governance.sampleOpening.env
        Governance.sampleOpening.call Governance.State.initial =
          .ok (reply, opened) ∧
      SameParameters (run Governance.step opened Governance.sampleJournalRun)
        (run Governance.step opened refusedFirst) := by
  have accepted : (Governance.invoke Governance.sampleOpening.env
      Governance.sampleOpening.call Governance.State.initial).isOk =
        true := by decide
  obtain ⟨reply, opened, opens⟩ := isOk_iff_exists.mp accepted
  refine ⟨reply, opened, opens, governance_log_decides opens opens _ _ ?_⟩
  have reached : opened = run Governance.step Governance.State.initial
      [Governance.sampleOpening] := (commit_of_ok opens).symm
  rw [reached]
  refine congrArg (List.map Governance.Event.wire) ?_
  decide

/-- Two settlement contracts set up with the same arguments that published
the same topics and payloads have the same registry and rules, the same
control but for the threshold, as many pending operations and as many payments
of each merchant, and agree on the payments that both hold and on when an
operation falls due that both hold. -/
theorem settlement_log_decides (codec : Settlement.Codec)
    {env env' : Settlement.Env}
    {deployer deployer' governance recoveryAddress : Address}
    {admins : List Address} {threshold : UInt32}
    {reply reply' : Settlement.Reply} {opened opened' : Settlement.State}
    (opens : Settlement.invoke codec env
      (.init deployer admins threshold governance recoveryAddress)
      Settlement.State.initial = .ok (reply, opened))
    (opens' : Settlement.invoke codec env'
      (.init deployer' admins threshold governance recoveryAddress)
      Settlement.State.initial = .ok (reply', opened'))
    (inputs inputs' : List Settlement.Input)
    (published :
      (run (Settlement.step codec) opened inputs).events.map
          Settlement.Event.wire =
        (run (Settlement.step codec) opened' inputs').events.map
          Settlement.Event.wire) :
    SameLedger (run (Settlement.step codec) opened inputs)
      (run (Settlement.step codec) opened' inputs') := by
  have same := Settlement.Event.wire_injective.list_map published
  obtain ⟨silent, tells⟩ := Settlement.init_opens opens
  obtain ⟨silent', tells'⟩ := Settlement.init_opens opens'
  obtain ⟨log, _, extended, _⟩ :=
    (Settlement.journal codec).replays tells inputs
  have log_eq : (run (Settlement.step codec) opened inputs).events =
      opened.events ++ log := extended
  have extended' : (run (Settlement.step codec) opened' inputs').events =
      opened'.events ++ log := by
    rw [← same, log_eq, silent, silent']
  obtain ⟨book, told, told'⟩ :=
    (Settlement.journal codec).same_log tells tells' extended extended'
  exact .of_told told told'

/-- The same calls after one of a stranger, and with the rule of a merchant
asked for at the end. -/
def watchedRun : List Settlement.Input :=
  ⟨.granting 50, .registerMerchant [.account 7] (.account 6)⟩ ::
    Settlement.sampleLedgerRun ++
      [⟨.granting 700000, .getEffectiveRule (.account 6)⟩]

theorem settlement_log_decides_sample :
    ∃ reply opened,
      Settlement.invoke Settlement.sampleCodec Settlement.sampleFounding.env
        Settlement.sampleFounding.call Settlement.State.initial =
          .ok (reply, opened) ∧
      SameLedger
        (run (Settlement.step Settlement.sampleCodec) opened
          Settlement.sampleLedgerRun)
        (run (Settlement.step Settlement.sampleCodec) opened watchedRun) := by
  have accepted : (Settlement.invoke Settlement.sampleCodec
      Settlement.sampleFounding.env Settlement.sampleFounding.call
      Settlement.State.initial).isOk = true := by decide
  obtain ⟨reply, opened, opens⟩ := isOk_iff_exists.mp accepted
  refine ⟨reply, opened, opens,
    settlement_log_decides _ opens opens _ _ ?_⟩
  have reached : opened = run (Settlement.step Settlement.sampleCodec)
      Settlement.State.initial [Settlement.sampleFounding] :=
    (commit_of_ok opens).symm
  rw [reached]
  refine congrArg (List.map Settlement.Event.wire) ?_
  decide

end BettaPay.Protocol
