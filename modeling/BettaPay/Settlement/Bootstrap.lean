import BettaPay.Settlement.Resolution

namespace BettaPay.Settlement

open BettaPay.Host
open BettaPay.Common

/-! What the bootstrap event of a payment tells. The payment compares the rule
it resolved with the bootstrap rule; the provenance reader names the tier that
answered. -/

/-- The rule of the first tier that has one configured. -/
def State.configuredRule (env : Env) (merchant : Address) (state : State) :
    Option SettlementRule :=
  (state.rule merchant).or (state.defaultRule.or (state.governanceRule env))

/-- No tier prices the payments of the merchant. -/
structure Unconfigured (env : Env) (merchant : Address) (state : State) :
    Prop where
  ruleless : state.rule merchant = none
  defaultless : state.defaultRule = none
  ungoverned : state.reading env = .bypassed ∨
    state.reading env = .answered none ∨
    state.reading env = .outage ∧ state.readCachedGovernanceFeeRule = none

/-- What the call published says that bootstrap was reached. -/
def SignalsBootstrap (before after : State) : Prop :=
  ∃ published rule, after.events = before.events ++ published ∧
    .bootstrapFallback rule ∈ published

section Tiers

variable {env : Env} {merchant : Address} {state : State}

theorem effectiveRule_rule :
    (state.effectiveRule env merchant).rule =
      (state.configuredRule env merchant).getD bootstrapDefaultRule := by
  simp only [State.effectiveRule, State.fallbackRule, State.configuredRule]
  cases state.rule merchant with
  | some rule => rfl
  | none =>
      cases state.defaultRule with
      | some rule => rfl
      | none => cases state.governanceRule env <;> rfl

theorem effectiveRule_bootstrap :
    (state.effectiveRule env merchant).provenance = .bootstrap ↔
      state.configuredRule env merchant = none := by
  simp only [State.effectiveRule, State.fallbackRule, State.configuredRule]
  cases state.rule merchant with
  | some rule => simp
  | none =>
      cases state.defaultRule with
      | some rule => simp
      | none => cases state.governanceRule env <;> simp

/-- Governance yields no rule when it is bypassed, has none configured, or is
out with nothing cached. -/
theorem governanceRule_eq_none
    (readable : ∀ error, state.reading env ≠ .malformed error) :
    state.governanceRule env = none ↔
      state.reading env = .bypassed ∨ state.reading env = .answered none ∨
        state.reading env = .outage ∧
          state.readCachedGovernanceFeeRule = none := by
  simp only [State.governanceRule]
  cases answer : state.reading env with
  | malformed error => exact absurd answer (readable error)
  | bypassed => simp
  | outage => simp
  | answered config => cases config <;> simp

theorem configuredRule_eq_none
    (resolved : state.resolutionError env merchant = none) :
    state.configuredRule env merchant = none ↔
      Unconfigured env merchant state := by
  simp only [State.configuredRule, Option.or_eq_none_iff]
  constructor
  · intro given
    obtain ⟨ruleless, defaultless, ungoverned⟩ := given
    refine ⟨ruleless, defaultless, (governanceRule_eq_none ?_).mp ungoverned⟩
    intro error malformed
    simp [State.resolutionError, State.fallbackError, ruleless, defaultless,
      malformed] at resolved
  · intro given
    refine ⟨given.ruleless, given.defaultless,
      (governanceRule_eq_none ?_).mpr given.ungoverned⟩
    intro error malformed
    have ungoverned := given.ungoverned
    simp [malformed] at ungoverned

end Tiers

theorem storePaymentReference_resolved {env : Env} {merchant : Address}
    {reference : BytesN 32} {amount : I128} {before after : State}
    {split : FeeSplit}
    (succeeded : storePaymentReference env merchant reference amount
      before = .ok (split, after)) :
    before.resolutionError env merchant = none ∧
      after.events = before.events ++
        (bootstrapEvents (before.effectiveRule env merchant).rule ++
          [.paymentStored merchant reference (paymentRecord env merchant
            amount (before.effectiveRule env merchant).rule split)]) := by
  obtain ⟨_, rule, middle, count, live, live', resolved, _, _, rfl⟩ :=
    storePaymentReference_ok succeeded
  have accepted := (readRuleOrDefault_decided rfl).isOk_iff.mp
    (isOk_iff_exists.mpr ⟨rule, middle, resolved⟩)
  rw [firstError_singleton] at accepted
  obtain ⟨rfl, _, rfl⟩ := readRuleOrDefault_exact resolved
  constructor
  · exact accepted
  · simp only [State.soft, List.append_nil]
    rfl

theorem signalsBootstrap_iff {env : Env} {merchant : Address}
    {reference : BytesN 32} {amount : I128} {before after : State}
    {split : FeeSplit}
    (succeeded : storePaymentReference env merchant reference amount
      before = .ok (split, after)) :
    SignalsBootstrap before after ↔
      (before.effectiveRule env merchant).rule = bootstrapDefaultRule := by
  obtain ⟨_, published⟩ := storePaymentReference_resolved succeeded
  constructor
  · intro signals
    obtain ⟨found, rule, same, listed⟩ := signals
    rw [published, List.append_cancel_left_eq] at same
    rw [← same] at listed
    by_contra different
    simp [bootstrapEvents, isBootstrapRule, different] at listed
  · intro same
    refine ⟨_, bootstrapDefaultRule, published, ?_⟩
    simp [bootstrapEvents, isBootstrapRule, same]

/-- A payment signals bootstrap for its rule, not for its tier: the signal is
right exactly unless the rule configured for the merchant is the bootstrap
rule itself. -/
theorem bootstrap_signal_iff (codec : Codec) (env : Env)
    (merchant : Address) (reference : BytesN 32) (amount : I128)
    (split : FeeSplit) (state after : State)
    (succeeded : invoke codec env
      (.storePaymentReference merchant reference amount) state =
        .ok (.split split, after)) :
    ∃ effective resolved,
      invoke codec env (.getRuleProvenance merchant) state =
        .ok (.effective effective, resolved) ∧
      after.payment merchant reference =
        some (paymentRecord env merchant amount effective.rule split) ∧
      (effective.provenance = .bootstrap ↔
        Unconfigured env merchant state) ∧
      ((SignalsBootstrap state after ↔
          effective.provenance = .bootstrap) ↔
        state.configuredRule env merchant ≠ some bootstrapDefaultRule) := by
  obtain ⟨_, stored, same⟩ := replying_ok.mp succeeded
  cases same
  obtain ⟨readable, _⟩ := storePaymentReference_resolved stored
  have decided := @readEffectiveRuleNoBump_decided env merchant state _ rfl
  rw [readable] at decided
  obtain ⟨effective, resolved, provided⟩ :=
    isOk_iff_exists.mp (decided.isOk_iff.mpr rfl)
  obtain ⟨rfl, _⟩ := readEffectiveRuleNoBump_exact provided
  refine ⟨_, resolved, replying_ok.mpr ⟨_, provided, rfl⟩,
    (storePaymentReference_exact stored).2,
    effectiveRule_bootstrap.trans (configuredRule_eq_none readable), ?_⟩
  rw [signalsBootstrap_iff stored, effectiveRule_bootstrap,
    effectiveRule_rule]
  cases state.configuredRule env merchant with
  | none => simp
  | some rule => simp

/-- The bootstrap rule is configured as the merchant's own. -/
def sampleBootstrapRun : List Input :=
  [⟨.granting 0, .init (.account 9) [.account 1] 1 (.contract 5)
      (.account 2)⟩,
    ⟨.granting 100, .registerMerchant [.account 1] (.account 6)⟩,
    ⟨.granting 200, .setSettlementRule [.account 1] (.account 6)
      bootstrapDefaultRule⟩]

abbrev sampleBootstrapState : State :=
  run (step sampleCodec) State.initial sampleBootstrapRun

set_option maxRecDepth 4000 in
theorem sampleBootstrapRun_pays :
    ∃ split after, invoke sampleCodec (.granting 300)
      (.storePaymentReference (.account 6) 1 minPaymentAmount)
      sampleBootstrapState = .ok (.split split, after) :=
  ⟨_, _, rfl⟩

theorem bootstrap_signal_iff_merchant_rule :
    ∃ split after effective resolved,
      invoke sampleCodec (.granting 300) (.getRuleProvenance (.account 6))
        sampleBootstrapState = .ok (.effective effective, resolved) ∧
      after.payment (.account 6) 1 =
        some (paymentRecord (.granting 300) (.account 6) minPaymentAmount
          effective.rule split) ∧
      (effective.provenance = .bootstrap ↔
        Unconfigured (.granting 300) (.account 6) sampleBootstrapState) ∧
      ((SignalsBootstrap sampleBootstrapState after ↔
          effective.provenance = .bootstrap) ↔
        sampleBootstrapState.configuredRule (.granting 300) (.account 6) ≠
          some bootstrapDefaultRule) := by
  obtain ⟨split, after, succeeded⟩ := sampleBootstrapRun_pays
  exact ⟨split, after, bootstrap_signal_iff sampleCodec (.granting 300)
    (.account 6) 1 minPaymentAmount split sampleBootstrapState after
    succeeded⟩

theorem configured_rule_signals_bootstrap :
    ¬ ∀ state, Reachable sampleCodec state →
      ∀ env merchant reference amount split after effective resolved,
      invoke sampleCodec env (.storePaymentReference merchant reference amount)
        state = .ok (.split split, after) →
      invoke sampleCodec env (.getRuleProvenance merchant) state =
        .ok (.effective effective, resolved) →
      (SignalsBootstrap state after ↔ effective.provenance = .bootstrap) := by
  intro faithful
  obtain ⟨split, after, succeeded⟩ := sampleBootstrapRun_pays
  have provided : ∃ resolved, invoke sampleCodec (.granting 300)
      (.getRuleProvenance (.account 6)) sampleBootstrapState =
        .ok (.effective ⟨bootstrapDefaultRule, .merchant⟩, resolved) :=
    ⟨_, rfl⟩
  obtain ⟨resolved, provided⟩ := provided
  have signals : SignalsBootstrap sampleBootstrapState after := by
    obtain ⟨_, stored, same⟩ := replying_ok.mp succeeded
    cases same
    exact (signalsBootstrap_iff stored).mpr rfl
  cases (faithful sampleBootstrapState ⟨_, rfl⟩ _ _ _ _ _ _ _ _ succeeded
    provided).mp signals

end BettaPay.Settlement
