import BettaPay.Common.Audit
import BettaPay.Settlement.Control
import BettaPay.Settlement.Xdr
import BettaPay.Governance.Effect

namespace BettaPay.Protocol

open BettaPay.Host
open BettaPay.Common

/-! What the logs of the two contracts say about their authorities. -/

def settlementMark : Settlement.Event → Option Mark
  | .adminTransferred payload => some (.transferred payload.newAdmins)
  | .recoveryExecuted payload => some (.recovered payload.newAdmins)
  | .thresholdChanged _ _ new => some (.adjusted new)
  | _ => none

def governanceMark : Governance.Event → Option Mark
  | .adminTransferred payload => some (.transferred payload.newAdmins)
  | .recoveryExecuted payload => some (.recovered payload.newAdmins)
  | .thresholdChanged _ new => some (.adjusted new)
  | _ => none

/-- The threshold a transfer installs is in no event, on either path. -/
def settlementUnsaid : Settlement.Call → Option (Option UInt32)
  | .transferAdmin _ _ newThreshold => some (some newThreshold)
  | .execute _ (.transferAdmin _ newThreshold) => some (some newThreshold)
  | .changeThreshold _ _ => some none
  | .executeRecovery => some none
  | _ => none

def governanceUnsaid : Governance.Call → Option (Option UInt32)
  | .transferAdmin _ _ newThreshold => some (some newThreshold)
  | .changeThreshold _ _ => some none
  | .executeRecovery => some none
  | _ => none

/-! The settlement contract. -/

theorem applied_audited {env : Settlement.Env}
    {before after : Settlement.State} {executor actor : Address}
    {operation : Settlement.Operation}
    (applied : Settlement.Applied env before actor operation after) :
    ∃ published, after.events = before.events ++ published ∧
      Audited before.authority
        (settlementUnsaid (.execute executor operation))
        (published.filterMap settlementMark) after.authority := by
  cases applied with
  | transferAdmin => exact ⟨_, rfl, .transfer rfl rfl⟩
  | unregisterMerchant registered refreshed clearing =>
      refine ⟨_, rfl, ?_⟩
      cases clearing with
      | none => exact .idle rfl rfl
      | some => exact .idle rfl rfl
  | _ => exact ⟨_, rfl, .idle rfl rfl⟩

theorem settlementUnsaid_of_administers {call : Settlement.Call}
    {signers : List Address} {operation : Settlement.Operation}
    (direct : call.administers = some (signers, operation))
    (executor : Address) :
    settlementUnsaid call =
      settlementUnsaid (.execute executor operation) := by
  cases call <;> cases direct <;> rfl

theorem settlementUnsaid_of_isQuery {call : Settlement.Call}
    (reads : call.isQuery = true) : settlementUnsaid call = none := by
  cases call <;> first | rfl | cases reads

theorem filterMap_consent {consent : List Settlement.Event}
    (agreed : consent = [] ∨ ∃ merchant,
      consent = [.merchantConsent merchant]) :
    consent.filterMap settlementMark = [] := by
  rcases agreed with rfl | ⟨merchant, rfl⟩ <;> rfl

theorem settlement_audits {codec : Settlement.Codec} {env : Settlement.Env}
    {call : Settlement.Call} {before after : Settlement.State}
    (effect : Settlement.Effect codec env before call after)
    (initialized : before.admin.isSome) :
    ∃ published, after.events = before.events ++ published ∧
      Audited before.authority (settlementUnsaid call)
        (published.filterMap settlementMark) after.authority := by
  cases effect with
  | init uninitialized => simp [uninitialized] at initialized
  | executeRecovery => exact ⟨_, rfl, .recover rfl rfl⟩
  | changeThreshold stored => exact ⟨_, rfl, .adjust rfl rfl⟩
  | @execute executor operation _ middle queued unpaused matured unvetoed
      applied =>
      obtain ⟨published, events, audited⟩ :=
        @applied_audited _ _ _ executor _ _ applied
      refine ⟨published ++ [.opExecuted (codec.hash operation)], ?_, ?_⟩
      · rw [Settlement.State.soft_events, events, List.append_assoc]
        rfl
      · have quiet : List.filterMap settlementMark
            [.opExecuted (codec.hash operation)] = [] := rfl
        rw [List.filterMap_append, quiet, List.append_nil]
        exact audited
  | cancelAll quorum unpaused bounded drained =>
      obtain ⟨slots, counter, rfl⟩ := drained.unchanged
      exact ⟨_, rfl, .idle rfl rfl⟩
  | @administer _ _ _ actor _ _ consent _ direct quorum unpaused agreed
      prepared applied =>
      subst prepared
      obtain ⟨published, events, audited⟩ :=
        @applied_audited _ _ _ actor _ _ applied
      refine ⟨consent ++ published, ?_, ?_⟩
      · rw [events, Settlement.State.soft_events, List.append_assoc]
      · rw [List.filterMap_append, filterMap_consent agreed,
          settlementUnsaid_of_administers direct actor]
        exact audited
  | @storePaymentReference _ _ _ rule =>
      refine ⟨_, rfl, ?_⟩
      unfold Settlement.bootstrapEvents
      split <;> exact .idle rfl rfl
  | pruneNothing => exact ⟨[], (List.append_nil _).symm, .idle rfl rfl⟩
  | prunePayments quorum bounded pruned counted =>
      have table := pruned.table
      subst table
      exact ⟨_, rfl, .idle rfl rfl⟩
  | query reads =>
      rw [settlementUnsaid_of_isQuery reads]
      exact ⟨[], rfl, .idle rfl rfl⟩
  | _ => exact ⟨_, rfl, .idle rfl rfl⟩

/-- The settlement contract and its log. -/
def settlementAudit (codec : Settlement.Codec) :
    Auditable Settlement.State (Failure Settlement.SettlementError)
      Settlement.Input Settlement.Reply Settlement.Event where
  toControlled := Settlement.machine codec
  events := Settlement.State.events
  mark := settlementMark
  unsaid := fun input => settlementUnsaid input.call
  audits := fun succeeded =>
    settlement_audits (Settlement.invoke_effect succeeded)

/-! The governance contract. -/

theorem governanceUnsaid_of_isQuery {call : Governance.Call}
    (reads : call.isQuery = true) : governanceUnsaid call = none := by
  cases call <;> first | rfl | cases reads

theorem governance_audits {ledger : Ledger} {call : Governance.Call}
    {before after : Governance.State}
    (effect : Governance.Effect ledger before call after)
    (initialized : before.admin.isSome) :
    ∃ published, after.events = before.events ++ published ∧
      Audited before.authority (governanceUnsaid call)
        (published.filterMap governanceMark) after.authority := by
  cases effect with
  | init uninitialized => simp [uninitialized] at initialized
  | executeRecovery => exact ⟨_, rfl, .recover rfl rfl⟩
  | transferAdmin => exact ⟨_, rfl, .transfer rfl rfl⟩
  | changeThreshold stored => exact ⟨_, rfl, .adjust rfl rfl⟩
  | query reads =>
      rw [governanceUnsaid_of_isQuery reads]
      exact ⟨[], (List.append_nil _).symm, .idle rfl rfl⟩
  | _ => exact ⟨_, rfl, .idle rfl rfl⟩

/-- The governance contract and its log. -/
def governanceAudit :
    Auditable Governance.State (Failure Governance.GovernanceError)
      Governance.Input Governance.Reply Governance.Event where
  toControlled := Governance.machine
  events := Governance.State.events
  mark := governanceMark
  unsaid := fun input => governanceUnsaid input.call
  audits := fun succeeded =>
    governance_audits (Governance.invoke_effect succeeded)

/-! Two runs with the same log. -/

/-- The arguments of `init`; the governance contract ignores the governance
address. -/
structure Opening where
  deployer : Address
  admins : List Address
  threshold : UInt32
  governance : Address
  recoveryAddress : Address

def Opening.settlement (opening : Opening) (env : Settlement.Env) :
    Settlement.Input :=
  ⟨env, .init opening.deployer opening.admins opening.threshold
    opening.governance opening.recoveryAddress⟩

def Opening.governed (opening : Opening) (ledger : Ledger) :
    Governance.Input :=
  ⟨ledger, .init opening.deployer opening.admins opening.threshold
    opening.recoveryAddress⟩

def Opening.observed (opening : Opening) : Observed where
  admins := opening.admins
  threshold := some opening.threshold

theorem settlement_opened {codec : Settlement.Codec} {opening : Opening}
    {env : Settlement.Env} {reply : Settlement.Reply}
    {opened : Settlement.State}
    (opens : Settlement.step codec (opening.settlement env)
      Settlement.State.initial = .ok (reply, opened)) :
    Explained opened.authority
      ((settlementAudit codec).observe opening.observed opened.events)
      none := by
  cases Settlement.invoke_effect opens with
  | init => exact .announced rfl rfl
  | administer direct => cases direct
  | query reads => cases reads

theorem governance_opened {opening : Opening} {ledger : Ledger}
    {reply : Governance.Reply} {opened : Governance.State}
    (opens : Governance.step (opening.governed ledger)
      Governance.State.initial = .ok (reply, opened)) :
    Explained opened.authority
      (governanceAudit.observe opening.observed opened.events) none := by
  cases Governance.invoke_effect opens with
  | init => exact .announced rfl rfl
  | query reads => cases reads

/-- Two runs that open alike and end with the same events. -/
structure SameLog {σ ε ι ο η : Type} (contract : Auditable σ ε ι ο η)
    (first first' : ι) (left right : List ι) : Prop where
  opens : (contract.step first contract.start).isOk = true
  opens' : (contract.step first' contract.start).isOk = true
  events : contract.events
      (run contract.step contract.start (first :: left)) =
    contract.events (run contract.step contract.start (first' :: right))

/-- Two runs of either contract that start from the same `init` arguments and
emit the same events end with the same admins and threshold exactly when the
last transfer of each that no threshold change or recovery follows installed
the same threshold, or neither has one. -/
theorem authority_reconstructible_iff (codec : Settlement.Codec)
    (opening : Opening) :
    (∀ env env' left right,
      SameLog (settlementAudit codec) (opening.settlement env)
        (opening.settlement env') left right →
      let final := run (Settlement.step codec) Settlement.State.initial
        (opening.settlement env :: left)
      let final' := run (Settlement.step codec) Settlement.State.initial
        (opening.settlement env' :: right)
      (final.admin = final'.admin ∧ final.threshold = final'.threshold ↔
        (settlementAudit codec).unnamed Settlement.State.initial
            (opening.settlement env :: left) =
          (settlementAudit codec).unnamed Settlement.State.initial
            (opening.settlement env' :: right))) ∧
      ∀ ledger ledger' left right,
        SameLog governanceAudit (opening.governed ledger)
          (opening.governed ledger') left right →
        let final := run Governance.step Governance.State.initial
          (opening.governed ledger :: left)
        let final' := run Governance.step Governance.State.initial
          (opening.governed ledger' :: right)
        (final.admin = final'.admin ∧ final.threshold = final'.threshold ↔
          governanceAudit.unnamed Governance.State.initial
              (opening.governed ledger :: left) =
            governanceAudit.unnamed Governance.State.initial
              (opening.governed ledger' :: right)) := by
  refine ⟨?_, ?_⟩
  · intro env env' left right same
    obtain ⟨reply, opened, opens⟩ := isOk_iff_exists.mp same.opens
    obtain ⟨reply', opened', opens'⟩ := isOk_iff_exists.mp same.opens'
    exact Auditable.reconstructs_iff opens opens' rfl rfl
      (settlement_opened opens) (settlement_opened opens') left right
      same.events
  · intro ledger ledger' left right same
    obtain ⟨reply, opened, opens⟩ := isOk_iff_exists.mp same.opens
    obtain ⟨reply', opened', opens'⟩ := isOk_iff_exists.mp same.opens'
    exact Auditable.reconstructs_iff opens opens' rfl rfl
      (governance_opened opens) (governance_opened opens') left right
      same.events

def sampleOpening : Opening where
  deployer := .account 9
  admins := [.account 1]
  threshold := 1
  governance := .contract 5
  recoveryAddress := .account 2

/-- A transfer to two admins that nothing follows. -/
def settlementHandover (threshold : UInt32) : List Settlement.Input :=
  [⟨.granting 100,
    .transferAdmin [.account 1] [.account 3, .account 4] threshold⟩]

def governanceHandover (threshold : UInt32) : List Governance.Input :=
  [⟨.granting 100,
    .transferAdmin [.account 1] [.account 3, .account 4] threshold⟩]

/-- The events of a transfer are the same whatever threshold it installs, in
both contracts. -/
theorem transfer_hides_threshold :
    (SameLog (settlementAudit Settlement.sampleCodec)
        (sampleOpening.settlement (.granting 0))
        (sampleOpening.settlement (.granting 0))
        (settlementHandover 1) (settlementHandover 2) ∧
      (run (Settlement.step Settlement.sampleCodec) Settlement.State.initial
        (sampleOpening.settlement (.granting 0) ::
          settlementHandover 1)).threshold ≠
      (run (Settlement.step Settlement.sampleCodec) Settlement.State.initial
        (sampleOpening.settlement (.granting 0) ::
          settlementHandover 2)).threshold) ∧
    SameLog governanceAudit (sampleOpening.governed (.granting 0))
        (sampleOpening.governed (.granting 0))
        (governanceHandover 1) (governanceHandover 2) ∧
      (run Governance.step Governance.State.initial
        (sampleOpening.governed (.granting 0) ::
          governanceHandover 1)).threshold ≠
      (run Governance.step Governance.State.initial
        (sampleOpening.governed (.granting 0) ::
          governanceHandover 2)).threshold := by
  refine ⟨⟨⟨?_, ?_, ?_⟩, ?_⟩, ⟨?_, ?_, ?_⟩, ?_⟩ <;> decide

/-- Transfers with different thresholds, each followed by a recovery. -/
def settlementRecovered (threshold : UInt32) : List Settlement.Input :=
  settlementHandover threshold ++
    [⟨.granting 200, .initiateRecovery (.account 6)⟩,
      ⟨.granting 1000000, .executeRecovery⟩]

theorem authority_reconstructible_iff_sample :
    SameLog (settlementAudit Settlement.sampleCodec)
        (sampleOpening.settlement (.granting 0))
        (sampleOpening.settlement (.granting 0))
        (settlementRecovered 1) (settlementRecovered 2) ∧
      (run (Settlement.step Settlement.sampleCodec) Settlement.State.initial
        (sampleOpening.settlement (.granting 0) ::
          settlementRecovered 1)).threshold =
      (run (Settlement.step Settlement.sampleCodec) Settlement.State.initial
        (sampleOpening.settlement (.granting 0) ::
          settlementRecovered 2)).threshold := by
  have same : SameLog (settlementAudit Settlement.sampleCodec)
      (sampleOpening.settlement (.granting 0))
      (sampleOpening.settlement (.granting 0))
      (settlementRecovered 1) (settlementRecovered 2) :=
    ⟨by decide, by decide, by decide⟩
  exact ⟨same, (((authority_reconstructible_iff Settlement.sampleCodec
    sampleOpening).1 _ _ _ _ same).mpr (by decide)).2⟩

end BettaPay.Protocol
