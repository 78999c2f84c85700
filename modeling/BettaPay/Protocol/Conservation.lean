import BettaPay.Settlement.Pricing
import BettaPay.Settlement.Xdr
import BettaPay.Governance.Effect

namespace BettaPay.Protocol

open BettaPay.Host
open BettaPay.Common

/-! The settlement contract composed with the governance contracts it may be
pointed at. -/

/-- How a call to another contract fails. -/
inductive Outage where
  | error (code : UInt32)
  | trap

def Outage.answer : Outage → Answer
  | .error code => .error code
  | .trap => .trap

/-- Where no governance contract is deployed, every call fails. -/
structure System where
  settlement : Settlement.State
  governance : Address → Option Governance.State

def System.initial : System where
  settlement := Settlement.State.initial
  governance := fun _ => none

/-- `Option<i128>` as a host value. -/
def encodeParam : Option I128 → Val
  | none => .void
  | some value => .i128 value

/-- `Option<FeeConfig>` as a host value: a map keyed by the field names. -/
def encodeFeeConfig : Option Governance.FeeConfig → Val
  | none => .void
  | some config =>
      .map [(.symbol "network_fee_bps", .u32 config.networkFeeBps),
        (.symbol "platform_fee_bps", .u32 config.platformFeeBps)]

def answer {σ ε α : Type} (encode : α → Val) (query : Tx σ ε α)
    (state : σ) : Answer :=
  match query state with
  | .ok (value, _) => .value (encode value)
  | .error _ => .trap

def deployedView (state : Governance.State) : Settlement.GovernanceView where
  getSystemParam := fun key =>
    answer encodeParam (Governance.getSystemParam key) state
  getFeeConfig := answer encodeFeeConfig Governance.getFeeConfig state

def outageView (outage : Outage) : Settlement.GovernanceView where
  getSystemParam := fun _ => outage.answer
  getFeeConfig := outage.answer

/-- The governance seen by one settlement call, in which some contracts may
be unreachable. -/
def System.view (system : System) (outages : Address → Option Outage)
    (address : Address) : Settlement.GovernanceView :=
  match outages address, system.governance address with
  | some outage, _ => outageView outage
  | none, some state => deployedView state
  | none, none => outageView .trap

inductive Input where
  | settlement (ledger : Ledger) (outages : Address → Option Outage)
      (call : Settlement.Call)
  | governance (address : Address) (ledger : Ledger)
      (call : Governance.Call)
  | deployGovernance (address : Address)

inductive Reply where
  | settlement (reply : Settlement.Reply)
  | governance (reply : Governance.Reply)
  | deployed

inductive SystemFailure where
  | settlement (failure : Failure Settlement.SettlementError)
  | governance (failure : Failure Governance.GovernanceError)
  | address (address : Address)

def settlementStep (codec : Settlement.Codec) (ledger : Ledger)
    (outages : Address → Option Outage) (call : Settlement.Call) :
    Tx System SystemFailure Reply := fun system =>
  match Settlement.invoke codec ⟨ledger, system.view outages⟩ call
      system.settlement with
  | .ok (reply, after) =>
      .ok (.settlement reply, { system with settlement := after })
  | .error failure => .error (.settlement failure)

def governanceStep (address : Address) (ledger : Ledger)
    (call : Governance.Call) : Tx System SystemFailure Reply := fun system =>
  match system.governance address with
  | none => .error (.address address)
  | some state =>
      match Governance.invoke ledger call state with
      | .ok (reply, after) =>
          .ok (.governance reply,
            { system with
              governance :=
                Function.update system.governance address (some after) })
      | .error failure => .error (.governance failure)

def deployStep (address : Address) : Tx System SystemFailure Reply :=
  fun system =>
    match system.governance address with
    | some _ => .error (.address address)
    | none =>
        .ok (.deployed,
          { system with
            governance := Function.update system.governance address
              (some Governance.State.initial) })

/-- One call of either contract, or a deployment. -/
def step (codec : Settlement.Codec) : Input → Tx System SystemFailure Reply
  | .settlement ledger outages call =>
      settlementStep codec ledger outages call
  | .governance address ledger call => governanceStep address ledger call
  | .deployGovernance address => deployStep address

/-! The parameters governance can hold. -/

structure ParamsBounded (state : Governance.State) : Prop where
  param : ∀ key value, state.systemParam key = some value → 0 ≤ value.val
  fees : ∀ config, state.feeConfig = some config →
    Governance.BoundedFees config

theorem paramsBounded_initial :
    ParamsBounded Governance.State.initial :=
  ⟨by simp [Governance.State.initial], by simp [Governance.State.initial]⟩

theorem paramsBounded_preserved {ledger : Ledger} {call : Governance.Call}
    {before after : Governance.State}
    (effect : Governance.Effect ledger before call after)
    (bounded : ParamsBounded before) : ParamsBounded after := by
  cases effect with
  | @updateSystemParam _ key value _ _ _ nonnegative _ =>
      refine ⟨?_, bounded.fees⟩
      intro other found stored
      simp only [Governance.State.publish_systemParam] at stored
      by_cases same : other = key
      · subst same
        rw [Function.update_self] at stored
        cases stored
        exact nonnegative
      · rw [Function.update_of_ne same] at stored
        exact bounded.param other found stored
  | setFeeConfig _ _ within =>
      refine ⟨bounded.param, ?_⟩
      intro _ same
      cases same
      exact within
  | _ => exact ⟨bounded.param, bounded.fees⟩

/-! What settlement reads from bounded governance contracts. -/

def GovernancesBounded (system : System) : Prop :=
  ∀ address state, system.governance address = some state →
    ParamsBounded state

theorem view_cases (system : System) (outages : Address → Option Outage)
    (address : Address) :
    (∃ outage, system.view outages address = outageView outage) ∨
      ∃ state, system.governance address = some state ∧
        system.view outages address = deployedView state := by
  unfold System.view
  cases outages address with
  | some outage => exact .inl ⟨outage, rfl⟩
  | none =>
      cases found : system.governance address with
      | some state => exact .inr ⟨state, rfl, rfl⟩
      | none => exact .inl ⟨.trap, rfl⟩

theorem classify_encodeFeeConfig (config : Option Governance.FeeConfig) :
    Settlement.classifyGovernanceFeeConfig (encodeFeeConfig config) =
      .ok (config.map fun stored =>
        ⟨stored.platformFeeBps, stored.networkFeeBps⟩) := by
  cases config <;> rfl

theorem trusted_of_bounded {system : System} {ledger : Ledger}
    {outages : Address → Option Outage}
    (bounded : GovernancesBounded system) :
    Settlement.Trusted ⟨ledger, system.view outages⟩ system.settlement where
  fees := by
    intro config given
    obtain ⟨address, rawVal, _, answered, classified⟩ := given
    simp only at answered
    rcases view_cases system outages address with
      ⟨outage, same⟩ | ⟨state, deployed, same⟩
    · rw [same] at answered
      cases outage <;> cases answered
    · rw [same] at answered
      have encoded : encodeFeeConfig state.feeConfig = rawVal :=
        Answer.value.inj answered
      rw [← encoded, classify_encodeFeeConfig] at classified
      cases stored : state.feeConfig with
      | none => simp [stored] at classified
      | some fees =>
          simp only [stored, Option.map_some, Except.ok.injEq,
            Option.some.injEq] at classified
          subst classified
          have within := (bounded address state deployed).fees fees stored
          have immediate :
              (0 : UInt32) ≤ Settlement.maxSettlementDelayLedger := by decide
          exact ⟨within.platformAtLeast, within.platformAtMost,
            within.networkAtLeast, within.networkAtMost, immediate⟩
  minimum := by
    have least : 0 ≤ Settlement.minPaymentAmount.val := by decide
    unfold Settlement.State.readMinPaymentAmount
    cases system.settlement.governance with
    | none => exact least
    | some address =>
        simp only
        rcases view_cases system outages address with
          ⟨outage, same⟩ | ⟨state, deployed, same⟩
        · rw [same]
          cases outage <;> exact least
        · have read : (deployedView state).getSystemParam "min_payment" =
              .value (encodeParam (state.systemParam "min_payment")) := rfl
          rw [same, read]
          cases stored : state.systemParam "min_payment" with
          | none => exact least
          | some value =>
              exact (bounded address state deployed).param _ value stored

/-- The invariant of the composed system. -/
structure System.Sound (system : System) : Prop where
  governance : GovernancesBounded system
  rules : Settlement.RulesBounded system.settlement
  payments : Settlement.PaymentsAccounted system.settlement

theorem sound_initial : System.initial.Sound where
  governance := by simp [GovernancesBounded, System.initial]
  rules := ⟨by simp [System.initial, Settlement.State.initial],
    by simp [System.initial, Settlement.State.initial],
    by simp [System.initial, Settlement.State.initial]⟩
  payments := by
    intro merchant reference record stored
    cases stored

theorem governances_update {system : System} {address : Address}
    {state : Governance.State} (bounded : GovernancesBounded system)
    (updated : ParamsBounded state) :
    GovernancesBounded { system with
      governance := Function.update system.governance address
        (some state) } := by
  intro other found stored
  simp only at stored
  by_cases same : other = address
  · subst same
    rw [Function.update_self] at stored
    cases stored
    exact updated
  · rw [Function.update_of_ne same] at stored
    exact bounded other found stored

theorem step_sound {codec : Settlement.Codec} {input : Input}
    {before after : System} {reply : Reply} (sound : before.Sound)
    (succeeded : step codec input before = .ok (reply, after)) :
    after.Sound := by
  cases input with
  | settlement ledger outages call =>
      simp only [step, settlementStep] at succeeded
      split at succeeded
      · rename_i done
        cases succeeded
        have effect := Settlement.invoke_effect done
        have trusted :=
          @trusted_of_bounded before ledger outages sound.governance
        exact ⟨sound.governance, effect.rules_bounded trusted sound.rules,
          effect.payments_accounted trusted sound.rules sound.payments⟩
      · cases succeeded
  | governance address ledger call =>
      simp only [step, governanceStep] at succeeded
      split at succeeded
      · cases succeeded
      · rename_i state deployed
        split at succeeded
        · rename_i done
          cases succeeded
          have updated := paramsBounded_preserved
            (Governance.invoke_effect done)
            (sound.governance address state deployed)
          exact ⟨governances_update sound.governance updated, sound.rules,
            sound.payments⟩
        · cases succeeded
  | deployGovernance address =>
      simp only [step, deployStep] at succeeded
      split at succeeded
      · cases succeeded
      · cases succeeded
        exact ⟨governances_update sound.governance paramsBounded_initial,
          sound.rules, sound.payments⟩

/-- In every run of the composed system, every record stored under a merchant
names that merchant, splits a nonnegative amount into three nonnegative legs
that add up to it and are the ones calculated from the recorded rates, and is
not the placeholder. -/
theorem stored_payments_conserve_money (codec : Settlement.Codec)
    (inputs : List Input) (merchant : Address) (reference : BytesN 32)
    (record : Settlement.PaymentRecord)
    (stored : (run (step codec) System.initial inputs).settlement.payment
      merchant reference = some record) :
    Settlement.Accounted merchant record :=
  (run_invariant System.Sound step_sound sound_initial inputs).payments
    merchant reference record stored

def sampleRun : List Input :=
  [.deployGovernance (.contract 5),
    .settlement (.granting 0) (fun _ => none) (.init (.account 9)
      [.account 1] 1 (.contract 5) (.account 2)),
    .settlement (.granting 100) (fun _ => none)
      (.registerMerchant [.account 1] (.account 6)),
    .settlement (.granting 200) (fun _ => none)
      (.storePaymentReference (.account 6) 1 Settlement.minPaymentAmount)]

theorem stored_payments_conserve_money_sample :
    ∃ record,
      (run (step Settlement.sampleCodec) System.initial
        sampleRun).settlement.payment (.account 6) 1 = some record ∧
      Settlement.Accounted (.account 6) record := by
  have present : ((run (step Settlement.sampleCodec) System.initial
      sampleRun).settlement.payment (.account 6) 1).isSome = true := by
    decide
  obtain ⟨record, stored⟩ := Option.isSome_iff_exists.mp present
  exact ⟨record, stored, stored_payments_conserve_money
    Settlement.sampleCodec sampleRun (.account 6) 1 record stored⟩

end BettaPay.Protocol
