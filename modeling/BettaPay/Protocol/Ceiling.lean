import BettaPay.Protocol.Bounds
import BettaPay.Settlement.Ceiling

namespace BettaPay.Protocol

open BettaPay.Host
open BettaPay.Common

/-! Payments under the fee ceiling that governance has in force. -/

/-- The fee configuration of the governance contract that settlement is
pointed at. -/
def System.ceiling (system : System) : Option Governance.FeeConfig :=
  system.settlement.governance.bind fun address =>
    (system.governance address).bind Governance.State.feeConfig

/-- Governance can be reached, has this configuration, and does not ask to be
bypassed. -/
def System.InForce (system : System) (outages : Address → Option Outage)
    (config : Governance.FeeConfig) : Prop :=
  ∃ address state, system.settlement.governance = some address ∧
    outages address = none ∧ system.governance address = some state ∧
    state.feeConfig = some config ∧
    ∀ value, state.systemParam Governance.bypassGovFeesParam = some value →
      value.val ≠ 1

def Within (platform network : UInt32) (config : Governance.FeeConfig) :
    Prop :=
  platform ≤ config.platformFeeBps ∧ network ≤ config.networkFeeBps

/-- The stored rule that prices the payments of a merchant, if any. -/
def storedRule (state : Settlement.State) (merchant : Address) :
    Option SettlementRule :=
  (state.rule merchant).or state.defaultRule

theorem System.InForce.ceiling {system : System}
    {outages : Address → Option Outage} {config : Governance.FeeConfig}
    (inForce : system.InForce outages config) :
    system.ceiling = some config := by
  obtain ⟨address, state, configured, _, deployed, stored, _⟩ := inForce
  simp [System.ceiling, configured, deployed, stored]

theorem System.InForce.governanceRule {system : System}
    {outages : Address → Option Outage} {config : Governance.FeeConfig}
    (inForce : system.InForce outages config) (ledger : Ledger) :
    system.settlement.governanceRule ⟨ledger, system.view outages⟩ =
      some ⟨config.platformFeeBps, config.networkFeeBps, 0, false⟩ := by
  obtain ⟨address, state, configured, reachable, deployed, stored,
    unbypassed⟩ := inForce
  have seen : system.view outages address = deployedView state := by
    simp [System.view, reachable, deployed]
  have open' : Settlement.governanceBypassEnabled
      ⟨ledger, system.view outages⟩ address = false := by
    have read : (system.view outages address).getSystemParam
        Settlement.bypassGovFeesParam =
      .value (encodeParam (state.systemParam
        Governance.bypassGovFeesParam)) := by
      rw [seen]
      rfl
    simp only [Settlement.governanceBypassEnabled, read]
    cases param : state.systemParam Governance.bypassGovFeesParam with
    | none => rfl
    | some value =>
        simpa [encodeParam, Settlement.asOptionI128] using
          unbypassed value param
  have answered : (system.view outages address).getFeeConfig =
      .value (encodeFeeConfig (some config)) := by
    rw [seen, ← stored]
    rfl
  simp [Settlement.State.governanceRule, Settlement.State.reading,
    configured, open', answered, Settlement.Reading.ofAnswer,
    classify_encodeFeeConfig, Settlement.GovFeeConfig.toRule]

/-- The rule in effect is the stored one, else the configured one. -/
theorem System.InForce.effectiveRule {system : System}
    {outages : Address → Option Outage} {config : Governance.FeeConfig}
    (inForce : system.InForce outages config) (ledger : Ledger)
    (merchant : Address) :
    (system.settlement.effectiveRule ⟨ledger, system.view outages⟩
        merchant).rule =
      (storedRule system.settlement merchant).getD
        ⟨config.platformFeeBps, config.networkFeeBps, 0, false⟩ := by
  simp only [Settlement.State.effectiveRule, storedRule]
  cases system.settlement.rule merchant with
  | some rule => rfl
  | none =>
      simp only [Settlement.State.fallbackRule, Option.none_or]
      cases system.settlement.defaultRule with
      | some rule => rfl
      | none =>
          simp only [inForce.governanceRule ledger]
          rfl

/-- A payment records the rule in effect, so it is within the ceiling exactly
when the stored rule is; a rule built from the configuration always is. -/
theorem payment_within_iff {codec : Settlement.Codec} {ledger : Ledger}
    {outages : Address → Option Outage} {merchant : Address}
    {reference : BytesN 32} {amount : I128} {before after : System}
    {reply : Reply} {config : Governance.FeeConfig}
    {record : Settlement.PaymentRecord}
    (succeeded : step codec (.settlement ledger outages
      (.storePaymentReference merchant reference amount)) before =
        .ok (reply, after))
    (inForce : before.InForce outages config)
    (stored : after.settlement.payment merchant reference = some record) :
    Within record.platformFeeBps record.networkFeeBps config ↔
      ∀ rule, storedRule before.settlement merchant = some rule →
        Within rule.platformFeeBps rule.networkFeeBps config := by
  simp only [step, settlementStep] at succeeded
  split at succeeded
  · rename_i reply' next done
    cases succeeded
    obtain ⟨split, ran, _⟩ := replying_ok.mp done
    have recorded := (Settlement.storePaymentReference_exact ran).2
    cases stored.symm.trans recorded
    simp only [Settlement.paymentRecord, inForce.effectiveRule]
    cases storedRule before.settlement merchant with
    | some rule => simp
    | none => simp [Within]
  · cases succeeded

/-! Where the ceiling only ever moves over the stored rules, no payment can
exceed it. -/

/-- Every stored rule is within the configuration. -/
structure RulesWithin (state : Settlement.State)
    (config : Governance.FeeConfig) : Prop where
  merchant : ∀ merchant rule, state.rule merchant = some rule →
    Within rule.platformFeeBps rule.networkFeeBps config
  default : ∀ rule, state.defaultRule = some rule →
    Within rule.platformFeeBps rule.networkFeeBps config

theorem RulesWithin.stored {state : Settlement.State}
    {config : Governance.FeeConfig} (within : RulesWithin state config)
    {merchant : Address} {rule : SettlementRule}
    (stored : storedRule state merchant = some rule) :
    Within rule.platformFeeBps rule.networkFeeBps config := by
  rcases Option.or_eq_some_iff.mp stored with own | ⟨_, shared⟩
  · exact within.merchant merchant rule own
  · exact within.default rule shared

/-- A rule that settlement accepts is within the ceiling of that moment. -/
theorem accepted_within {system : System} {ledger : Ledger}
    {outages : Address → Option Outage} {rule : SettlementRule}
    {config : Governance.FeeConfig}
    (checked : Settlement.CeilingChecked ⟨ledger, system.view outages⟩
      system.settlement rule)
    (inForce : system.ceiling = some config) :
    Within rule.platformFeeBps rule.networkFeeBps config := by
  obtain ⟨address, rawVal, found, configured, answer, classified, capped⟩ :=
    checked
  simp only at answer
  rcases view_cases system outages address with
    ⟨outage, same⟩ | ⟨state, deployed, same⟩
  · rw [same] at answer
    cases outage <;> cases answer
  · rw [same] at answer
    have encoded : encodeFeeConfig state.feeConfig = rawVal :=
      Answer.value.inj answer
    have stored : state.feeConfig = some config := by
      simpa [System.ceiling, configured, deployed] using inForce
    rw [← encoded, classify_encodeFeeConfig, stored] at classified
    have bounded := capped _ (Except.ok.inj classified).symm
    exact ⟨bounded.platform, bounded.network⟩

/-- Settlement stores no rule above the ceiling. -/
theorem settlement_rulesWithin {codec : Settlement.Codec} {ledger : Ledger}
    {outages : Address → Option Outage} {call : Settlement.Call}
    {system : System} {after : Settlement.State} {reply : Settlement.Reply}
    {config : Governance.FeeConfig}
    (succeeded : Settlement.invoke codec ⟨ledger, system.view outages⟩ call
      system.settlement = .ok (reply, after))
    (inForce : System.ceiling { system with settlement := after } =
      some config)
    (within : RulesWithin system.settlement config) :
    RulesWithin after config := by
  have effect := Settlement.invoke_effect succeeded
  -- A call that stores a rule leaves the governance address alone.
  have unmoved : ∀ {operation rule},
      call.operation = some operation →
      operation.storesRule = some rule →
      after.rule ≠ system.settlement.rule ∨
        after.defaultRule ≠ system.settlement.defaultRule →
      system.ceiling = some config := by
    intro operation rule carried stores changed
    rcases effect.governance_set with kept |
      ⟨_, rules, default, _⟩ | ⟨address, moved, _⟩
    · rw [← inForce]
      simp only [System.ceiling, kept]
    · rcases changed with changed | changed
      · exact absurd rules changed
      · exact absurd default changed
    · cases carried.symm.trans moved
      cases stores
  constructor
  · intro merchant rule stored
    by_cases kept : system.settlement.rule merchant = some rule
    · exact within.merchant merchant rule kept
    · have carried := effect.registryStep.rule_set kept stored
      refine accepted_within
        (Settlement.invoke_ceilingChecked succeeded carried rfl)
        (unmoved carried rfl (.inl ?_))
      intro same
      rw [same] at stored
      exact kept stored
  · intro rule stored
    rcases effect.defaultRule_set with kept | ⟨set, carried, changed⟩
    · rw [kept] at stored
      exact within.default rule stored
    · cases stored.symm.trans changed
      by_cases same : after.defaultRule = system.settlement.defaultRule
      · exact within.default rule (same ▸ stored)
      · exact accepted_within
          (Settlement.invoke_ceilingChecked succeeded carried rfl)
          (unmoved carried rfl (.inr same))

theorem step_rulesWithin {codec : Settlement.Codec} {input : Input}
    {before after : System} {reply : Reply}
    {config : Governance.FeeConfig}
    (succeeded : step codec input before = .ok (reply, after))
    (inForce : after.ceiling = some config)
    (within : RulesWithin before.settlement config) :
    RulesWithin after.settlement config := by
  cases input with
  | settlement ledger outages call =>
      simp only [step, settlementStep] at succeeded
      split at succeeded
      · rename_i done
        cases succeeded
        exact settlement_rulesWithin done inForce within
      · cases succeeded
  | governance address ledger call =>
      simp only [step, governanceStep] at succeeded
      split at succeeded
      · cases succeeded
      · split at succeeded <;> cases succeeded
        exact within
  | deployGovernance address =>
      simp only [step, deployStep] at succeeded
      split at succeeded <;> cases succeeded
      exact within

/-! Runs. -/

section Runs

variable (codec : Settlement.Codec) (inputs : List Input)

/-- A payment that the call at `index` stores while `config` is in force. -/
structure CappedPayment (index : Nat) (merchant : Address)
    (config : Governance.FeeConfig) (record : Settlement.PaymentRecord) :
    Prop where
  committed : ∃ ledger outages reference amount reply,
    Succeeds (step codec) System.initial inputs index
      (.settlement ledger outages
        (.storePaymentReference merchant reference amount)) reply ∧
    (stateAt (step codec) System.initial inputs index).InForce outages
      config ∧
    (stateAt (step codec) System.initial inputs
      (index + 1)).settlement.payment merchant reference = some record

/-- Every payment is within the configuration in force when it is stored. -/
def PaymentsWithin : Prop :=
  ∀ index merchant config record,
    CappedPayment codec inputs index merchant config record →
    Within record.platformFeeBps record.networkFeeBps config

/-- Every payment finds the stored rule that prices it within the
configuration in force. -/
def StoredRulesWithin : Prop :=
  ∀ index merchant config record,
    CappedPayment codec inputs index merchant config record →
    ∀ rule, storedRule (stateAt (step codec) System.initial inputs
        index).settlement merchant = some rule →
      Within rule.platformFeeBps rule.networkFeeBps config

/-- Whenever another configuration comes into force, every rule stored at that
moment is within it. -/
def CeilingsRespected : Prop :=
  ∀ index config,
    (stateAt (step codec) System.initial inputs index).ceiling ≠
      some config →
    (stateAt (step codec) System.initial inputs (index + 1)).ceiling =
      some config →
    RulesWithin (stateAt (step codec) System.initial inputs
      index).settlement config

end Runs

section Runs

variable {codec : Settlement.Codec} {inputs : List Input}

theorem rulesWithin_at (respected : CeilingsRespected codec inputs)
    (index : Nat) :
    ∀ config, (stateAt (step codec) System.initial inputs index).ceiling =
        some config →
      RulesWithin (stateAt (step codec) System.initial inputs
        index).settlement config := by
  induction index with
  | zero =>
      intro config inForce
      simp [System.ceiling, System.initial, Settlement.State.initial]
        at inForce
  | succ index induction =>
      intro config inForce
      have earlier : RulesWithin (stateAt (step codec) System.initial inputs
          index).settlement config := by
        by_cases same : (stateAt (step codec) System.initial inputs
            index).ceiling = some config
        · exact induction config same
        · exact respected index config same inForce
      rcases @stateAt_succ_eq_or_succeeds _ _ _ _ (step codec)
        System.initial inputs index with unchanged | ⟨input, reply, done⟩
      · rw [unchanged]
        exact earlier
      · exact step_rulesWithin done.2 inForce earlier

/-- In every run, the payments are within the ceiling of their moment exactly
when the stored rules that price them are; and they all are when no
configuration comes into force below a stored rule. -/
theorem payments_within_iff (codec : Settlement.Codec)
    (inputs : List Input) :
    (PaymentsWithin codec inputs ↔ StoredRulesWithin codec inputs) ∧
      (CeilingsRespected codec inputs → PaymentsWithin codec inputs) := by
  have exactly : ∀ {index merchant config record},
      CappedPayment codec inputs index merchant config record →
      (Within record.platformFeeBps record.networkFeeBps config ↔
        ∀ rule, storedRule (stateAt (step codec) System.initial inputs
            index).settlement merchant = some rule →
          Within rule.platformFeeBps rule.networkFeeBps config) := by
    intro index merchant config record payment
    obtain ⟨_, _, _, _, _, done, inForce, stored⟩ := payment
    exact payment_within_iff done.2 inForce stored
  constructor
  · constructor
    · intro within index merchant config record payment
      exact (exactly payment).mp (within index merchant config record payment)
    · intro within index merchant config record payment
      exact (exactly payment).mpr
        (within index merchant config record payment)
  · intro respected index merchant config record payment
    apply (exactly payment).mpr
    intro rule stored
    obtain ⟨_, _, _, _, _, _, inForce, _⟩ := payment
    exact (rulesWithin_at respected index config inForce.ceiling).stored
      stored

end Runs

/-- The ceiling is lowered after a merchant got its rule. -/
def sampleLoweredRun : List Input :=
  [.deployGovernance (.contract 5),
    .governance (.contract 5) (.granting 0)
      (.init (.account 9) [.account 1] 1 (.account 2)),
    .governance (.contract 5) (.granting 0)
      (.setFeeConfig [.account 1] ⟨500, 500⟩),
    .settlement (.granting 0) (fun _ => none) (.init (.account 9)
      [.account 1] 1 (.contract 5) (.account 2)),
    .settlement (.granting 100) (fun _ => none)
      (.registerMerchant [.account 1] (.account 6)),
    .settlement (.granting 200) (fun _ => none)
      (.setSettlementRule [.account 1] (.account 6) ⟨400, 400, 0, false⟩),
    .governance (.contract 5) (.granting 300)
      (.setFeeConfig [.account 1] ⟨100, 100⟩),
    .settlement (.granting 400) (fun _ => none)
      (.storePaymentReference (.account 6) 1 Settlement.minPaymentAmount)]

theorem payment_above_lowered_ceiling :
    ¬ ∀ inputs, PaymentsWithin Settlement.sampleCodec inputs := by
  intro within
  have priced : ((stateAt (step Settlement.sampleCodec) System.initial
      sampleLoweredRun 8).settlement.payment (.account 6) 1).map
        Settlement.PaymentRecord.platformFeeBps = some 400 := by decide
  obtain ⟨record, stored, rate⟩ := Option.map_eq_some_iff.mp priced
  obtain ⟨reply, done⟩ := @succeeds_of_isOk _ _ _ _
    (step Settlement.sampleCodec) System.initial sampleLoweredRun 7 _ rfl
    (by decide)
  have inForce : (stateAt (step Settlement.sampleCodec) System.initial
      sampleLoweredRun 7).InForce (fun _ => none) ⟨100, 100⟩ :=
    ⟨.contract 5, _, rfl, rfl, rfl, rfl, by intro _ unset; cases unset⟩
  have bounded := within sampleLoweredRun 7 (.account 6) ⟨100, 100⟩ record
    ⟨_, _, 1, _, reply, done, inForce, stored⟩
  have low : record.platformFeeBps ≤ 100 := bounded.1
  rw [rate] at low
  exact absurd low (by decide)

end BettaPay.Protocol
