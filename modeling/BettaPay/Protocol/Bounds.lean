import BettaPay.Protocol.Conservation
import BettaPay.Settlement.Resolution
import BettaPay.Governance.Parameters

namespace BettaPay.Protocol

open BettaPay.Host
open BettaPay.Common

/-! Every rule that can price a payment is within the limits of the
protocol. -/

structure RuleInRange (rule : SettlementRule) : Prop where
  fees : FeesInRange rule.platformFeeBps rule.networkFeeBps
  delay : rule.settlementDelayLedger.toNat ≤ 100000

theorem ruleInRange_of_bounded {rule : SettlementRule}
    (bounded : Settlement.BoundedRule rule) : RuleInRange rule where
  fees := .of_legs bounded.platformAtLeast bounded.platformAtMost
    bounded.networkAtLeast bounded.networkAtMost
  delay := UInt32.le_iff_toNat_le.mp bounded.delayAtMost

/-- All rules of the composed system: those stored, those governance may
supply, those in effect whatever is unreachable, and those on record. -/
structure RulesInRange (codec : Settlement.Codec) (system : System) :
    Prop where
  merchant : ∀ merchant rule,
    system.settlement.rule merchant = some rule → RuleInRange rule
  default : ∀ rule, system.settlement.defaultRule = some rule →
    RuleInRange rule
  cached : ∀ rule, system.settlement.cachedGovRule = some (some rule) →
    RuleInRange rule
  governance : ∀ address state config,
    system.governance address = some state →
      state.feeConfig = some config →
      FeesInRange config.platformFeeBps config.networkFeeBps
  effective : ∀ ledger outages merchant, ∃ rule after,
    Settlement.invoke codec ⟨ledger, system.view outages⟩
        (.getEffectiveRule merchant) system.settlement =
      .ok (.rule rule, after) ∧ RuleInRange rule
  payment : ∀ merchant reference record,
    system.settlement.payment merchant reference = some record →
      FeesInRange record.platformFeeBps record.networkFeeBps ∧
        record.settlementDelayLedger.toNat ≤ 100000

/-! The effective rule exists, and it is one of the bounded ones. -/

theorem reading_ne_malformed {system : System} {ledger : Ledger}
    {outages : Address → Option Outage}
    {error : Settlement.SettlementError} :
    system.settlement.reading ⟨ledger, system.view outages⟩ ≠
      .malformed error := by
  unfold Settlement.State.reading
  cases system.settlement.governance with
  | none => simp
  | some address =>
      simp only
      split
      · simp
      · rcases view_cases system outages address with
          ⟨outage, same⟩ | ⟨state, _, same⟩
        · rw [same]
          cases outage <;> simp [outageView, Outage.answer,
            Settlement.Reading.ofAnswer]
        · have answered : (deployedView state).getFeeConfig =
              .value (encodeFeeConfig state.feeConfig) := rfl
          rw [same, answered]
          simp [Settlement.Reading.ofAnswer, classify_encodeFeeConfig]

theorem getEffectiveRule_inRange {codec : Settlement.Codec}
    {system : System} (sound : system.Sound) (ledger : Ledger)
    (outages : Address → Option Outage) (merchant : Address) :
    ∃ rule after,
      Settlement.invoke codec ⟨ledger, system.view outages⟩
          (.getEffectiveRule merchant) system.settlement =
        .ok (.rule rule, after) ∧ RuleInRange rule := by
  obtain ⟨after, resolved⟩ :=
    @Settlement.readEffectiveRuleNoBump_succeeds
      ⟨ledger, system.view outages⟩ merchant system.settlement
      (fun _ => reading_ne_malformed)
  obtain ⟨source, _⟩ := Settlement.readEffectiveRuleNoBump_ok resolved
  have bounded := source.bounded sound.rules
    (trusted_of_bounded sound.governance)
  refine ⟨_, after, ?_, ruleInRange_of_bounded bounded⟩
  simp only [Settlement.invoke, Settlement.getEffectiveRule,
    Settlement.readRuleOrDefaultNoBump, replying]
  rw [Tx.bind_of_ok (Tx.bind_of_ok resolved)]
  rfl

/-- The invariant of the composed system, with bounded records. -/
structure System.Bounded (system : System) : Prop where
  sound : system.Sound
  payments : Settlement.PaymentsBounded system.settlement

theorem bounded_initial : System.initial.Bounded where
  sound := sound_initial
  payments := by
    intro merchant reference record stored
    cases stored

theorem step_bounded {codec : Settlement.Codec} {input : Input}
    {before after : System} {reply : Reply} (bounded : before.Bounded)
    (succeeded : step codec input before = .ok (reply, after)) :
    after.Bounded := by
  refine ⟨step_sound bounded.sound succeeded, ?_⟩
  cases input with
  | settlement ledger outages call =>
      simp only [step, settlementStep] at succeeded
      split at succeeded
      · rename_i done
        cases succeeded
        exact (Settlement.invoke_effect done).payments_bounded
          (trusted_of_bounded bounded.sound.governance) bounded.sound.rules
          bounded.payments
      · cases succeeded
  | governance address ledger call =>
      simp only [step, governanceStep] at succeeded
      split at succeeded
      · cases succeeded
      · split at succeeded <;> cases succeeded
        exact bounded.payments
  | deployGovernance address =>
      simp only [step, deployStep] at succeeded
      split at succeeded <;> cases succeeded
      exact bounded.payments

theorem System.Bounded.rulesInRange {codec : Settlement.Codec}
    {system : System} (bounded : system.Bounded) :
    RulesInRange codec system where
  merchant := fun merchant rule stored =>
    ruleInRange_of_bounded (bounded.sound.rules.merchant merchant rule stored)
  default := fun rule stored =>
    ruleInRange_of_bounded (bounded.sound.rules.default rule stored)
  cached := fun rule stored =>
    ruleInRange_of_bounded (bounded.sound.rules.cached rule stored)
  governance := fun address state config deployed stored =>
    ((bounded.sound.governance address state deployed).fees config
      stored).inRange
  effective := getEffectiveRule_inRange bounded.sound
  payment := by
    intro merchant reference record stored
    have inRange := ruleInRange_of_bounded
      (bounded.payments merchant reference record stored)
    exact ⟨inRange.fees, inRange.delay⟩

/-! No sum of fee legs overflows. -/

/-- The direct and the timelocked validator agree: the legs are checked before
they are added, so the sum that one of them treats as an error and the other
as a trap always exists. -/
theorem validators_agree (rule : SettlementRule)
    (state : Settlement.State) :
    Settlement.validateRuleBounds rule state =
      Settlement.validateRuleBoundsTrapping rule state := by
  unfold Settlement.validateRuleBounds Settlement.validateRuleBoundsTrapping
  apply Tx.bind_congr_ok
  intro _ _ _
  apply Tx.bind_congr_ok
  intro _ _ low
  apply Tx.bind_congr_ok
  intro _ _ high
  simp only [rejectIf_ok, not_or, UInt32.not_lt] at low high
  have inRange : FeesInRange rule.platformFeeBps rule.networkFeeBps :=
    .of_legs low.1.1 high.1.1 low.1.2 high.1.2
  rw [inRange.sum_fits, Tx.bind_of_ok (orTrap_ok.mpr ⟨rfl, rfl⟩)]
  simp only [Option.all_some, rejectIf, Tx.panicIf, decide_eq_true_eq]

theorem validateRuleBounds_avoids_overflow (rule : SettlementRule)
    (state : Settlement.State) :
    Tx.Avoids .overflow (Settlement.validateRuleBounds rule) state := by
  simp [Settlement.validateRuleBounds, rejectIf]

theorem checkSigners_avoids_overflow {σ ε : Type} {ledger : Ledger}
    {admins signers : List Address} {unauthorized : ε} {state : σ} :
    Tx.Avoids .overflow
      (checkSigners ledger admins unauthorized signers :
        Tx σ (Failure ε) Unit) state := by
  induction signers generalizing state with
  | nil => simp [checkSigners]
  | cons signer rest induction =>
      simp [checkSigners, rejectIf, requireAuth, induction]

theorem assertAdminAndNotPaused_avoids_overflow {ledger : Ledger}
    {signers : List Address} {state : Governance.State} :
    Tx.Avoids .overflow
      (Governance.assertAdminAndNotPaused ledger signers) state := by
  simp [Governance.assertAdminAndNotPaused, Governance.assertNotPaused,
    Governance.verifyThresholdAuth, Governance.verifyAdminAuth,
    Governance.readThreshold, Governance.readAdmins, rejectIf, orReject,
    checkSigners_avoids_overflow]

theorem setFeeConfig_avoids_overflow (ledger : Ledger)
    (signers : List Address) (config : Governance.FeeConfig)
    (state : Governance.State) :
    Tx.Avoids .overflow (Governance.setFeeConfig ledger signers config)
      state := by
  unfold Governance.setFeeConfig
  rw [Tx.avoids_bind]
  refine ⟨assertAdminAndNotPaused_avoids_overflow, ?_⟩
  intro _ _ _
  rw [Tx.avoids_bind]
  refine ⟨by simp [rejectIf], ?_⟩
  intro _ _ checked
  simp only [rejectIf_ok, not_or, UInt32.not_lt] at checked
  obtain ⟨⟨platformLow, platformHigh, networkLow, networkHigh⟩, _⟩ := checked
  have inRange :=
    FeesInRange.of_legs platformLow platformHigh networkLow networkHigh
  rw [inRange.sum_fits]
  simp [orTrap, rejectIf, unwrapFirst, Governance.emit]

/-- In every run of the composed system, the merchant rules, the default rule,
the cached rule, every governance fee configuration, the effective rule of
every merchant under any outage and the rates of every stored payment have legs
between 5 and 5000 basis points that sum to at most 10000, and delays of at
most 100000 ledgers. Both validators of settlement reach the sum of the legs
only when it exists, and neither contract traps on it. -/
theorem rules_within_protocol_limits (codec : Settlement.Codec)
    (inputs : List Input) :
    RulesInRange codec (run (step codec) System.initial inputs) ∧
    (∀ rule state,
      Settlement.validateRuleBounds rule state =
          Settlement.validateRuleBoundsTrapping rule state ∧
        Settlement.validateRuleBoundsTrapping rule state ≠
          .error .overflow) ∧
    ∀ ledger signers config state,
      Governance.setFeeConfig ledger signers config state ≠
        .error .overflow := by
  have bounded : (run (step codec) System.initial inputs).Bounded :=
    run_invariant System.Bounded step_bounded bounded_initial inputs
  refine ⟨bounded.rulesInRange, ?_, setFeeConfig_avoids_overflow⟩
  intro rule state
  have agree := validators_agree rule state
  refine ⟨agree, ?_⟩
  rw [← agree]
  exact validateRuleBounds_avoids_overflow rule state

end BettaPay.Protocol
