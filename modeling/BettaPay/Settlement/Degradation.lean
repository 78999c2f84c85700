import BettaPay.Settlement.Parity
import BettaPay.Settlement.Preview
import BettaPay.Settlement.Rounding

namespace BettaPay.Settlement

open BettaPay.Host
open BettaPay.Host.Tx (readState writeState)
open BettaPay.Common

/-! What fails when governance does. -/

variable {env : Env} {state : State}

/-! The answers of governance. -/

/-- Exactly the two fields of a fee configuration, as `u32` values. -/
def TwoFields (entries : List (Val × Val)) : Prop :=
  ∃ platformFeeBps networkFeeBps,
    entries = [(.symbol "platform_fee_bps", .u32 platformFeeBps),
        (.symbol "network_fee_bps", .u32 networkFeeBps)] ∨
      entries = [(.symbol "network_fee_bps", .u32 networkFeeBps),
        (.symbol "platform_fee_bps", .u32 platformFeeBps)]

/-- The bypass parameter is answered by exactly 1. -/
def Bypasses (env : Env) (governance : Address) : Prop :=
  ∃ value, (env.governance governance).getSystemParam bypassGovFeesParam =
      .value (.i128 value) ∧
    value.val = 1

/-- The fee configuration is answered by a map that is not one. -/
def AnswersMalformed (env : Env) (governance : Address) : Prop :=
  ∃ entries, (env.governance governance).getFeeConfig =
      .value (.map entries) ∧
    ¬ TwoFields entries

/-- The call for the fee configuration traps or returns an error. -/
def Unanswered (env : Env) (governance : Address) : Prop :=
  (env.governance governance).getFeeConfig = .trap ∨
    ∃ code, (env.governance governance).getFeeConfig = .error code

/-- Nothing below the merchant's own rule can be resolved. -/
def State.FallbackFails (env : Env) (state : State) : Prop :=
  state.defaultRule = none ∧ ∃ governance,
    state.governance = some governance ∧ ¬ Bypasses env governance ∧
      AnswersMalformed env governance

/-- No rule can be checked against governance. -/
def State.CeilingFails (env : Env) (state : State) : Prop :=
  ∃ governance, state.governance = some governance ∧
    (Unanswered env governance ∨ AnswersMalformed env governance)

def State.Unreachable (env : Env) (state : State) : Prop :=
  ∃ governance, state.governance = some governance ∧
    Unanswered env governance

theorem governanceBypassEnabled_iff {governance : Address} :
    governanceBypassEnabled env governance = true ↔
      Bypasses env governance := by
  unfold governanceBypassEnabled Bypasses
  cases answer :
      (env.governance governance).getSystemParam bypassGovFeesParam with
  | value found => cases found <;> simp [asOptionI128]
  | error code => simp [asOptionI128]
  | trap => simp [asOptionI128]

theorem lookupSymbol_mem {key : Symbol} {entries : List (Val × Val)}
    {value : Val} (found : lookupSymbol key entries = some value) :
    (.symbol key, value) ∈ entries := by
  induction entries with
  | nil => cases found
  | cons entry rest induction =>
      obtain ⟨name, held⟩ := entry
      cases name with
      | symbol other =>
          simp only [lookupSymbol] at found
          split at found
          · rename_i same
            cases found
            rw [same]
            exact List.mem_cons_self ..
          · exact List.mem_cons_of_mem _ (induction found)
      | _ => exact List.mem_cons_of_mem _ (induction found)

theorem requiredU32_mem {key : Symbol} {entries : List (Val × Val)}
    {value : UInt32} (found : requiredU32 key entries = .ok value) :
    (.symbol key, .u32 value) ∈ entries := by
  unfold requiredU32 at found
  split at found
  · rename_i held looked
    cases held with
    | u32 number =>
        cases found
        exact lookupSymbol_mem looked
    | _ => cases found
  · cases found

/-- Two entries under different names are all there is room for. -/
theorem twoFields_of_mem {entries : List (Val × Val)}
    {platformFeeBps networkFeeBps : UInt32} (length : entries.length = 2)
    (platform : (.symbol "platform_fee_bps", .u32 platformFeeBps) ∈ entries)
    (network : (.symbol "network_fee_bps", .u32 networkFeeBps) ∈ entries) :
    TwoFields entries := by
  obtain ⟨first, second, rfl⟩ := List.length_eq_two.mp length
  refine ⟨platformFeeBps, networkFeeBps, ?_⟩
  simp only [List.mem_cons, List.not_mem_nil, or_false] at platform network
  rcases platform with rfl | rfl
  · rcases network with same | rfl
    · simp at same
    · exact .inl rfl
  · rcases network with rfl | same
    · exact .inr rfl
    · simp at same

theorem classifyGovernanceFeeConfig_map {entries : List (Val × Val)} :
    (∃ config, classifyGovernanceFeeConfig (.map entries) = .ok config) ↔
      TwoFields entries := by
  constructor
  · intro given
    obtain ⟨config, classified⟩ := given
    simp only [classifyGovernanceFeeConfig] at classified
    split at classified
    · cases classified
    · rename_i length
      simp only [except_bind_ok] at classified
      obtain ⟨platformFeeBps, platform, networkFeeBps, network, _⟩ :=
        classified
      exact twoFields_of_mem (by simpa using length)
        (requiredU32_mem platform) (requiredU32_mem network)
  · intro given
    obtain ⟨platformFeeBps, networkFeeBps, rfl | rfl⟩ := given
    · exact ⟨some ⟨platformFeeBps, networkFeeBps⟩, rfl⟩
    · exact ⟨some ⟨platformFeeBps, networkFeeBps⟩, rfl⟩

theorem classifyGovernanceFeeConfig_fails {rawVal : Val} :
    classifyGovernanceFeeConfig rawVal = .error .governanceCallFailed ↔
      ∃ entries, rawVal = .map entries ∧ ¬ TwoFields entries := by
  cases rawVal with
  | map entries =>
      have known := @classifyGovernanceFeeConfig_map entries
      cases classified : classifyGovernanceFeeConfig (.map entries) with
      | ok config =>
          have fields := known.mp ⟨config, classified⟩
          simp [fields]
      | error error =>
          rw [classifyGovernanceFeeConfig_error classified]
          have missing : ¬ TwoFields entries := by
            intro fields
            obtain ⟨config, same⟩ := known.mpr fields
            rw [classified] at same
            cases same
          simp [missing]
  | _ => simp [classifyGovernanceFeeConfig]

/-! The errors that come of them. -/

theorem reading_malformed {governance : Address}
    (configured : state.governance = some governance) :
    state.reading env = .malformed .governanceCallFailed ↔
      ¬ Bypasses env governance ∧ AnswersMalformed env governance := by
  simp only [State.reading, configured, ← governanceBypassEnabled_iff]
  cases bypass : governanceBypassEnabled env governance with
  | true => simp
  | false =>
      simp only [Bool.false_eq_true, if_false, not_false_eq_true, true_and,
        AnswersMalformed]
      cases answer : (env.governance governance).getFeeConfig with
      | value rawVal =>
          have failing := @classifyGovernanceFeeConfig_fails rawVal
          simp only [Reading.ofAnswer, Answer.value.injEq]
          rw [← failing]
          cases classifyGovernanceFeeConfig rawVal <;> simp
      | error code => simp [Reading.ofAnswer]
      | trap => simp [Reading.ofAnswer]

theorem fallbackError_fails :
    state.fallbackError env = some .governanceCallFailed ↔
      state.FallbackFails env := by
  simp only [State.fallbackError, State.FallbackFails]
  cases state.defaultRule with
  | some rule => simp
  | none =>
      simp only [true_and]
      cases configured : state.governance with
      | none => simp [State.reading, configured]
      | some governance =>
          have malformed := @reading_malformed env state governance configured
          simp only [Option.some.injEq, exists_eq_left']
          rw [← malformed]
          cases state.reading env <;> simp

theorem resolutionError_fails {merchant : Address} :
    state.resolutionError env merchant = some .governanceCallFailed ↔
      state.rule merchant = none ∧ state.FallbackFails env := by
  simp only [State.resolutionError]
  cases state.rule merchant with
  | some rule => simp
  | none =>
      simp only [true_and]
      exact fallbackError_fails

theorem ceilingError_fails {rule : SettlementRule} :
    state.ceilingError env rule = some .governanceCallFailed ↔
      state.CeilingFails env := by
  simp only [State.ceilingError, State.CeilingFails, Unanswered,
    AnswersMalformed]
  cases state.governance with
  | none => simp
  | some governance =>
      simp only [Option.some.injEq, exists_eq_left']
      cases answer : (env.governance governance).getFeeConfig with
      | value rawVal =>
          have failing := @classifyGovernanceFeeConfig_fails rawVal
          simp only [reduceCtorEq, exists_false, false_or,
            Answer.value.injEq]
          rw [← failing]
          cases classifyGovernanceFeeConfig rawVal with
          | error error => simp
          | ok config =>
              cases config with
              | none => simp [ceilingViolation]
              | some config => simp [ceilingViolation, failIf]
      | error code => simp
      | trap => simp

theorem calculateSplit_error {amount : I128} {rule : SettlementRule} :
    errorOf (calculateSplit amount rule) ≠ some .governanceCallFailed := by
  rcases Classical.em (Fits (amount.val * totalBps rule)) with fits | wide
  · obtain ⟨split, calculated, _⟩ := calculateSplit_of_fits fits
    simp [calculated, errorOf]
  · simp [calculateSplit_of_not_fits wide, errorOf]

/-! The entry points. -/

/-- The operations that ask governance for its fee configuration. -/
def Operation.asksGovernance : Operation → Bool
  | .setSettlementRule _ _ => true
  | .setDefaultRule _ => true
  | .clearSettlementRule _ => true
  | .unregisterMerchant _ => true
  | _ => false

/-- The checks of such an operation besides those against governance. -/
def Operation.othersPass (state : State) : Operation → Prop
  | .setSettlementRule merchant rule =>
      state.merchant merchant = true ∧ WithinLimits rule
  | .setDefaultRule rule => WithinLimits rule
  | .clearSettlementRule merchant => (state.rule merchant).isSome
  | .unregisterMerchant merchant => state.merchant merchant = true
  | _ => True

/-- When governance makes it fail: a setter whenever the rule cannot be
checked, a clearance when the rule it would uncover cannot be resolved. -/
def Operation.governanceFails (env : Env) (state : State) :
    Operation → Prop
  | .setSettlementRule _ _ => state.CeilingFails env
  | .setDefaultRule _ => state.CeilingFails env
  | .clearSettlementRule _ => state.FallbackFails env
  | .unregisterMerchant merchant =>
      (state.rule merchant).isSome ∧ state.FallbackFails env
  | _ => False

theorem Operation.isTwofold_of_asks {operation : Operation}
    (asks : operation.asksGovernance = true) :
    operation.isTwofold = true := by
  cases operation <;> first | rfl | cases asks

theorem Operation.consented_of_asks {operation : Operation}
    (asks : operation.asksGovernance = true) : operation.consented env := by
  cases operation <;> first | exact trivial | cases asks

theorem Operation.checks_fail {operation : Operation}
    (asks : operation.asksGovernance = true)
    (others : operation.othersPass state) :
    firstError (operation.checks env state) = some .governanceCallFailed ↔
      operation.governanceFails env state := by
  cases operation with
  | setSettlementRule merchant rule =>
      have bounds := ruleBoundsError_eq_none.mpr others.2
      simp only [Operation.checks, firstError_cons, firstError_nil, bounds,
        failIf, others.1, Bool.true_eq_false, if_false, Option.or_none]
      exact ceilingError_fails
  | setDefaultRule rule =>
      have bounds := ruleBoundsError_eq_none.mpr others
      simp only [Operation.checks, firstError_cons, firstError_nil, bounds,
        Option.or_none]
      exact ceilingError_fails
  | clearSettlementRule merchant =>
      have stored : state.rule merchant ≠ none :=
        Option.isSome_iff_ne_none.mp others
      simp only [Operation.checks, firstError_cons, firstError_nil, failIf,
        stored, if_false, Option.none_or, Option.or_none]
      exact fallbackError_fails
  | unregisterMerchant merchant =>
      have registered : state.merchant merchant = true := others
      simp only [Operation.checks, firstError_cons, firstError_nil, failIf,
        registered, Bool.true_eq_false, if_false, Option.none_or,
        Option.or_none, Operation.governanceFails]
      split
      · rename_i ruled
        simp only [ruled, true_and]
        exact fallbackError_fails
      · rename_i unruled
        simp [unruled]
  | _ => cases asks

/-- The direct call makes the same checks in another order. -/
theorem Operation.directChecks_fail {operation : Operation}
    (sound : state.registry.Sound)
    (asks : operation.asksGovernance = true)
    (others : operation.othersPass state) :
    firstError (operation.directChecks env state) =
        some .governanceCallFailed ↔
      operation.governanceFails env state := by
  cases operation with
  | setSettlementRule merchant rule =>
      have bounds := ruleBoundsError_eq_none.mpr others.2
      have nonzero : isZeroAddress merchant ≠ true := by
        intro zero
        have registered := others.1
        rw [isZeroAddress_eq_true.mp zero] at registered
        cases registered.symm.trans sound.nonzero
      simp only [Operation.directChecks, firstError_cons, firstError_nil,
        bounds, failIf, others.1, nonzero, Bool.true_eq_false, if_false,
        Option.or_none, Option.none_or]
      exact ceilingError_fails
  | setDefaultRule rule =>
      have bounds := ruleBoundsError_eq_none.mpr others
      simp only [Operation.directChecks, firstError_cons, firstError_nil,
        bounds, Option.none_or, Option.or_none]
      exact ceilingError_fails
  | clearSettlementRule merchant => exact checks_fail asks others
  | unregisterMerchant merchant => exact checks_fail asks others
  | _ => cases asks

/-- The checks of an amount besides the resolution. -/
structure PaymentPasses (env : Env) (state : State) (merchant : Address)
    (amount : I128) : Prop where
  registered : state.merchant merchant = true
  enough : (state.readMinPaymentAmount env).val ≤ amount.val

theorem PaymentPasses.fails {merchant : Address} {amount : I128}
    (passes : PaymentPasses env state merchant amount) :
    firstError (state.paymentChecks env merchant amount) =
        some .governanceCallFailed ↔
      state.rule merchant = none ∧ state.FallbackFails env := by
  have enough := Int.not_lt.mpr passes.enough
  simp only [State.paymentChecks, firstError_cons, firstError_nil, failIf,
    passes.registered, Bool.true_eq_false, if_false, enough,
    Option.none_or, Option.or_none]
  rw [← resolutionError_fails]
  cases check : state.resolutionError env merchant with
  | none => simp [calculateSplit_error]
  | some error => simp

/-! The queue. -/

theorem assertGovernanceReachable_fails :
    assertGovernanceReachable env state =
        .error (.error .governanceCallFailed) ↔
      state.Unreachable env := by
  simp only [assertGovernanceReachable, State.Unreachable, Unanswered]
  cases configured : state.governance with
  | none => simp [readGovernance, Tx.bind_error, configured]
  | some governance =>
      have read : readGovernance state = .ok (governance, state) :=
        readGovernance_ok.mpr ⟨configured, rfl⟩
      rw [Tx.bind_of_ok read]
      cases answer : (env.governance governance).getFeeConfig <;>
        simp [invokeGovernanceGetFeeConfig, answer]

theorem rejectOccupied_avoids {operationXdr : Bytes}
    {occupant : Option ScheduledOp} :
    Tx.Avoids (.error .governanceCallFailed)
      (rejectOccupied operationXdr occupant) state := by
  cases occupant with
  | none => exact Tx.avoids_pure
  | some existing => simp [rejectOccupied, Tx.Avoids, Tx.bind_error]

/-- What follows the question has other errors. -/
theorem enqueue_avoids {operationXdr : Bytes} {opHash : BytesN 32}
    {executeIn : UInt64} {caller : Address} :
    Tx.Avoids (.error .governanceCallFailed) (do
      let state ← readState
      rejectOccupied operationXdr (state.scheduledOperation opHash)
      let executeAt ← orReject (checkedAdd64 env.timestamp executeIn)
        .executionDelayTooLong
      setScheduledOperation env opHash ⟨operationXdr, executeAt⟩
      extendTtl env (.scheduledOperation opHash) scheduledOpTtlThreshold
        scheduledOpTtlBump
      incrementPendingOperationCount
      emit (.opScheduled opHash caller executeAt) : Contract Unit) state := by
  simp [rejectOccupied_avoids, setScheduledOperation, orReject, extendTtl,
    incrementPendingOperationCount, emit]

theorem validateOperationBounds_passes {operation : Operation}
    (bounded : operation.WithinBounds) :
    validateOperationBounds operation state = .ok ((), state) := by
  cases operation with
  | transferAdmin newAdmins threshold =>
      have positive : threshold ≠ 0 := by
        rw [ne_eq, ← UInt32.toNat_inj]
        exact Nat.ne_of_gt bounded.1
      exact rejectIf_ok.mpr
        ⟨by simp [positive, Nat.not_lt.mpr bounded.2], rfl⟩
  | setSettlementRule merchant rule =>
      exact rejectIf_ok.mpr ⟨UInt32.not_lt.mpr bounded, rfl⟩
  | _ => rfl

/-- The arguments of a scheduling that pass what is checked before governance
is asked. -/
structure SchedulePasses (codec : Codec) (operation : Operation)
    (executeIn : UInt64) : Prop where
  longEnough : minTimelockDelaySeconds ≤ executeIn
  shortEnough : executeIn ≤ maxTimelockDelaySeconds
  bounded : operation.WithinBounds
  small : (codec.toXdr operation).length ≤
    maxScheduledOperationPayloadLen.toNat

theorem SchedulePasses.fails {codec : Codec} {signers : List Address}
    {caller : Address} {operation : Operation} {executeIn : UInt64}
    (passes : SchedulePasses codec operation executeIn)
    (quorum : state.authority.Quorum env.toLedger signers)
    (unpaused : state.isPaused = false)
    (leads : signers.head? = some caller) :
    schedule codec env signers operation executeIn state =
        .error (.error .governanceCallFailed) ↔
      state.Unreachable env := by
  have led : (unwrapFirst signers : Contract Address) state =
      .ok (caller, state) := unwrapFirst_ok.mpr ⟨leads, rfl⟩
  have nonzero : executeIn ≠ 0 := by
    intro zero
    exact absurd (zero ▸ passes.longEnough) (by decide)
  rw [schedule, Tx.bind_of_ok (assertAdminAndNotPaused_passes quorum unpaused),
    Tx.bind_of_ok led, rejectIf_bind nonzero,
    rejectIf_bind (UInt64.not_lt.mpr passes.longEnough),
    rejectIf_bind (UInt64.not_lt.mpr passes.shortEnough),
    Tx.bind_of_ok (validateOperationBounds_passes passes.bounded),
    rejectIf_bind (Nat.not_lt.mpr passes.small), Tx.bind_error,
    assertGovernanceReachable_fails]
  apply or_iff_left
  intro given
  obtain ⟨_, middle, _, failed⟩ := given
  revert failed
  exact enqueue_avoids

/-! All entry points together. -/

/-- The arguments of each entry point pass its other checks; it fails with
`GovernanceCallFailed` exactly as its policy towards governance says. -/
structure Degrades (codec : Codec) (env : Env) (state : State) : Prop where
  payment : ∀ merchant reference amount, reference ≠ 0 →
    state.isPaused = false → env.auths merchant = true →
    state.payment merchant reference = none →
    PaymentPasses env state merchant amount →
    (invoke codec env (.storePaymentReference merchant reference amount)
        state = .error (.error .governanceCallFailed) ↔
      state.rule merchant = none ∧ state.FallbackFails env)
  preview : ∀ merchant amount, PaymentPasses env state merchant amount →
    (invoke codec env (.calculateFeeSplit merchant amount) state =
        .error (.error .governanceCallFailed) ↔
      state.rule merchant = none ∧ state.FallbackFails env)
  administered : ∀ call signers operation,
    call.administers = some (signers, operation) →
    operation.asksGovernance = true →
    state.authority.Quorum env.toLedger signers →
    state.isPaused = false → operation.othersPass state →
    (invoke codec env call state = .error (.error .governanceCallFailed) ↔
      operation.governanceFails env state)
  executed : ∀ executor operation, operation.asksGovernance = true →
    Due codec env state operation → operation.othersPass state →
    (invoke codec env (.execute executor operation) state =
        .error (.error .governanceCallFailed) ↔
      operation.governanceFails env state)
  scheduled : ∀ signers operation executeIn,
    state.authority.Quorum env.toLedger signers →
    state.isPaused = false → SchedulePasses codec operation executeIn →
    (invoke codec env (.schedule signers operation executeIn) state =
        .error (.error .governanceCallFailed) ↔
      state.Unreachable env)

theorem storePaymentReference_fails {merchant : Address}
    {reference : BytesN 32} {amount : I128} (nonzero : reference ≠ 0)
    (unpaused : state.isPaused = false)
    (authorized : env.auths merchant = true)
    (fresh : state.payment merchant reference = none) :
    storePaymentReference env merchant reference amount state =
        .error (.error .governanceCallFailed) ↔
      firstError (state.paymentChecks env merchant amount) =
        some .governanceCallFailed := by
  have counting : ∀ split record (middle : State),
      middle.paymentCount = state.paymentCount →
      Tx.Avoids (.error .governanceCallFailed) (do
        incrementPaymentCount env merchant
        emit (.paymentStored merchant reference record)
        pure split : Contract FeeSplit) middle := by
    intro split record middle _
    simp [incrementPaymentCount, setPaymentCount, orTrap, extendTtl, emit]
  have ends : Ends (· ≠ .error (.error .governanceCallFailed))
      (state.paymentChecks env merchant amount)
      (storePaymentReference env merchant reference amount state) :=
    storePaymentReference_ends nonzero unpaused authorized fresh counting
  exact ends.eq_error_iff id

/-- What each entry point does when governance fails, in every reachable
state and for all answers. -/
theorem degrades (codec : Codec) (env : Env) (state : State)
    (reachable : Reachable codec state) : Degrades codec env state := by
  constructor
  case payment =>
    intro merchant reference amount nonzero unpaused authorized fresh passes
    rw [← passes.fails, invoke, replying_error]
    exact storePaymentReference_fails nonzero unpaused authorized fresh
  case preview =>
    intro merchant amount passes
    rw [← passes.fails, invoke, replying_error]
    exact calculateFeeSplit_decided.raises_iff
  case administered =>
    intro call signers operation carries asks quorum unpaused others
    obtain ⟨admin, leads⟩ := reachable.sound.head_of_quorum quorum
    rw [← Operation.directChecks_fail reachable.registry_sound asks others]
    exact (Call.administers_decided carries
      (Operation.isTwofold_of_asks asks) quorum unpaused leads
      (Operation.consented_of_asks asks)).raises_iff
  case executed =>
    intro executor operation asks due others
    rw [← Operation.checks_fail asks others]
    exact (due.execute_decided (Operation.isTwofold_of_asks asks)
      executor).raises_iff
  case scheduled =>
    intro signers operation executeIn quorum unpaused passes
    obtain ⟨caller, leads⟩ := reachable.sound.head_of_quorum quorum
    rw [invoke, replying_error]
    exact passes.fails quorum unpaused leads

/-- The same call when governance answers with an empty map. -/
def Env.garbled (env : Env) : Env :=
  { env with
    governance := fun _ => ⟨fun _ => .value .void, .value (.map [])⟩ }

theorem degrades_shop :
    Degrades sampleCodec (Env.granting 200).garbled
      (run (step sampleCodec) State.initial sampleShopRun) :=
  degrades sampleCodec (Env.granting 200).garbled _ ⟨_, rfl⟩

example :
    invoke sampleCodec (Env.granting 200).garbled
        (.storePaymentReference (.account 6) 1 minPaymentAmount)
        (run (step sampleCodec) State.initial sampleShopRun) =
      .error (.error .governanceCallFailed) := by
  rfl

end BettaPay.Settlement
