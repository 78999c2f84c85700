import BettaPay.Settlement.Precedence

namespace BettaPay.Settlement

open BettaPay.Host
open BettaPay.Host.Tx (readState writeState)
open BettaPay.Common

/-! The fee preview and the payment make the same checks, on readers that
differ only in the lifetimes they extend. -/

/-- What both check of an amount, in order. -/
def State.paymentChecks (env : Env) (merchant : Address) (amount : I128)
    (state : State) : List (Option SettlementError) :=
  [failIf (state.merchant merchant = false) .merchantMissing,
    failIf (amount.val < (state.readMinPaymentAmount env).val)
      .amountTooSmall,
    state.resolutionError env merchant,
    errorOf (calculateSplit amount (state.effectiveRule env merchant).rule)]

section Payments

variable {env : Env} {merchant : Address} {reference : BytesN 32}
  {amount : I128} {split : FeeSplit} {state after : State}

theorem emitBootstrapFallback_succeeds (rule : SettlementRule)
    (state : State) :
    ∃ events, emitBootstrapFallback rule state =
      .ok ((), state.soft state.cachedGovRule state.liveUntil events) := by
  simp only [emitBootstrapFallback]
  cases isBootstrapRule rule with
  | true => exact ⟨_, rfl⟩
  | false => exact ⟨[], by simp [State.soft_self]⟩

theorem calculateFeeSplit_decided :
    Decided (state.paymentChecks env merchant amount)
      (calculateFeeSplit env merchant amount state) := by
  rw [calculateFeeSplit]
  refine .after rfl (.rejectIf fun _ => .after rfl (.rejectIf fun _ => ?_))
  refine .andThenCheck (readRuleOrDefaultNoBump_decided rfl) ?_
  intro rule middle resolved
  obtain ⟨rfl, _⟩ := readRuleOrDefaultNoBump_exact resolved
  exact .ofResult

/-- The payment, up to what the counter makes of it. -/
theorem storePaymentReference_ends
    {passed : Except (Failure SettlementError) (FeeSplit × State) → Prop}
    (nonzero : reference ≠ 0) (unpaused : state.isPaused = false)
    (authorized : env.auths merchant = true)
    (fresh : state.payment merchant reference = none)
    (counting : ∀ split record middle,
      middle.paymentCount = state.paymentCount →
      passed ((do
        incrementPaymentCount env merchant
        emit (.paymentStored merchant reference record)
        pure split : Contract FeeSplit) middle)) :
    Ends passed (state.paymentChecks env merchant amount)
      (storePaymentReference env merchant reference amount state) := by
  have named : (rejectIf (reference = 0) .invalidPaymentReference :
      Contract Unit) state = .ok ((), state) :=
    rejectIf_ok.mpr ⟨nonzero, rfl⟩
  have agreed : (requireAuth env.toLedger merchant : Contract Unit) state =
      .ok ((), state) := requireAuth_ok.mpr ⟨authorized, rfl⟩
  obtain ⟨live, looked⟩ :=
    isMerchantRegisteredAndBumpTtl_succeeds env merchant state
  rw [storePaymentReference]
  refine .after named (.after (assertNotPaused_passes unpaused)
    (.after agreed (.after looked (.rejectIf fun _ => .after rfl ?_))))
  refine .rejectIf fun _ => ?_
  have unfiled : (rejectIf ((state.payment merchant reference).isSome)
      .duplicatePaymentReference : Contract Unit)
        (state.soft state.cachedGovRule live []) =
      .ok ((), state.soft state.cachedGovRule live []) :=
    rejectIf_ok.mpr ⟨by simp [fresh], rfl⟩
  refine .after unfiled (.after rfl ?_)
  refine .andThenCheck (readRuleOrDefault_decided rfl) ?_
  intro rule middle resolved
  obtain ⟨rfl, live', rfl⟩ := readRuleOrDefault_exact resolved
  obtain ⟨events, signalled⟩ := emitBootstrapFallback_succeeds
    (state.effectiveRule env merchant).rule _
  refine .after signalled (.orRaise fun split priced => ?_)
  refine .after rfl (.after rfl (.done ?_))
  exact counting _ _ _ rfl

theorem storePaymentReference_decided
    (nonzero : reference ≠ 0) (unpaused : state.isPaused = false)
    (authorized : env.auths merchant = true)
    (fresh : state.payment merchant reference = none)
    (room : (state.readPaymentCount merchant).toNat + 1 < 2 ^ 32) :
    Decided (state.paymentChecks env merchant amount)
      (storePaymentReference env merchant reference amount state) := by
  apply storePaymentReference_ends nonzero unpaused authorized fresh
  intro split record middle same
  have counted : checkedAdd32 (middle.readPaymentCount merchant) 1 =
      some (state.readPaymentCount merchant + 1) := by
    rw [State.readPaymentCount, same, checkedAdd32_eq_some]
    rw [UInt32.toNat_add]
    exact Nat.mod_eq_of_lt room
  have incremented : (incrementPaymentCount env merchant middle).isOk =
      true := by
    rw [incrementPaymentCount, Tx.readState_bind,
      Tx.bind_of_ok (orTrap_ok.mpr ⟨counted, rfl⟩)]
    rfl
  rw [Tx.bind_isOk fun _ _ => rfl]
  exact incremented

/-- At its maximum the counter fails what passed every check. -/
theorem storePaymentReference_full
    (nonzero : reference ≠ 0) (unpaused : state.isPaused = false)
    (authorized : env.auths merchant = true)
    (fresh : state.payment merchant reference = none)
    (full : (state.readPaymentCount merchant).toNat + 1 = 2 ^ 32) :
    Ends (fun attempt => attempt = .error .overflow)
      (state.paymentChecks env merchant amount)
      (storePaymentReference env merchant reference amount state) := by
  apply storePaymentReference_ends nonzero unpaused authorized fresh
  intro split record middle same
  have trapped : checkedAdd32 (middle.readPaymentCount merchant) 1 =
      none := by
    rw [Option.eq_none_iff_forall_ne_some]
    intro sum counted
    rw [checkedAdd32_eq_some, State.readPaymentCount, same] at counted
    have bound := sum.toNat_lt
    rw [counted] at bound
    exact absurd full (Nat.ne_of_lt bound)
  refine Tx.bind_error.mpr (.inl ?_)
  rw [incrementPaymentCount, Tx.readState_bind]
  exact Tx.bind_error.mpr (.inl (orTrap_error.mpr ⟨trapped, rfl⟩))

theorem storePaymentReference_priced
    (succeeded : storePaymentReference env merchant reference amount state =
      .ok (split, after)) :
    calculateSplit amount (state.effectiveRule env merchant).rule =
      .ok split := by
  obtain ⟨_, rule, middle, count, live, live', resolved, priced, _⟩ :=
    storePaymentReference_ok succeeded
  obtain ⟨rfl, _⟩ := readRuleOrDefault_exact resolved
  exact priced

theorem calculateFeeSplit_priced
    (succeeded : calculateFeeSplit env merchant amount state =
      .ok (split, after)) :
    calculateSplit amount (state.effectiveRule env merchant).rule =
      .ok split := by
  simp only [calculateFeeSplit, Tx.readState_bind, Tx.bind_ok,
    isMerchantRegisteredInternal_ok, rejectIf_ok, orRaise_ok] at succeeded
  obtain ⟨_, _, ⟨_, rfl⟩, _, _, ⟨_, rfl⟩, _, _, ⟨_, rfl⟩, _, _, resolved,
    priced, rfl⟩ := succeeded
  obtain ⟨rfl, _⟩ := readRuleOrDefaultNoBump_exact resolved
  exact priced

theorem getEffectiveRule_of_calculateFeeSplit
    (succeeded : calculateFeeSplit env merchant amount state =
      .ok (split, after)) :
    ∃ resolved, getEffectiveRule env merchant state =
      .ok ((state.effectiveRule env merchant).rule, resolved) := by
  have passed := calculateFeeSplit_decided.isOk_iff.mp
    (isOk_iff_exists.mpr ⟨split, after, succeeded⟩)
  have readable := firstError_eq_none.mp passed
    (state.resolutionError env merchant) (by simp [State.paymentChecks])
  obtain ⟨rule, resolved, read⟩ := isOk_iff_exists.mp
    ((@readRuleOrDefaultNoBump_decided env merchant state _ rfl).isOk_iff.mpr
      (by rw [firstError_singleton, readable]))
  obtain ⟨rfl, _⟩ := readRuleOrDefaultNoBump_exact read
  exact ⟨resolved, read⟩

end Payments

theorem readMinPaymentAmount_congr {env preview : Env}
    (agree : preview.governance = env.governance) (state : State) :
    state.readMinPaymentAmount preview =
      state.readMinPaymentAmount env := by
  simp only [State.readMinPaymentAmount, agree]

theorem paymentChecks_congr {env preview : Env}
    (agree : preview.governance = env.governance) (merchant : Address)
    (amount : I128) (state : State) :
    state.paymentChecks preview merchant amount =
      state.paymentChecks env merchant amount := by
  simp only [State.paymentChecks, readMinPaymentAmount_congr agree,
    resolutionError_congr agree, effectiveRule_congr agree]

/-- The payment and its preview fail with the same error, or both succeed with
the same split, and the record is priced by the effective rule. -/
def PreviewAgrees (codec : Codec) (env preview : Env) (merchant : Address)
    (reference : BytesN 32) (amount : I128) (state : State) : Prop :=
  (∃ failure,
    invoke codec env (.storePaymentReference merchant reference amount)
      state = .error failure ∧
    invoke codec preview (.calculateFeeSplit merchant amount) state =
      .error failure) ∨
  ∃ split rule after previewed resolved,
    invoke codec env (.storePaymentReference merchant reference amount)
      state = .ok (.split split, after) ∧
    invoke codec preview (.calculateFeeSplit merchant amount) state =
      .ok (.split split, previewed) ∧
    invoke codec preview (.getEffectiveRule merchant) state =
      .ok (.rule rule, resolved) ∧
    after.payment merchant reference =
      some (paymentRecord env merchant amount rule split)

/-- They fail with the same error, or the payment traps. -/
def PreviewTraps (codec : Codec) (env preview : Env) (merchant : Address)
    (reference : BytesN 32) (amount : I128) (state : State) : Prop :=
  (∃ failure,
    invoke codec env (.storePaymentReference merchant reference amount)
      state = .error failure ∧
    invoke codec preview (.calculateFeeSplit merchant amount) state =
      .error failure) ∨
  invoke codec env (.storePaymentReference merchant reference amount)
      state = .error .overflow ∧
    (invoke codec preview (.calculateFeeSplit merchant amount) state).isOk =
      true

/-- On an unpaused contract an authorized payment under a new reference comes
to what its preview shows, as long as the counter has room for it; at the
maximum of the counter the payment traps where its preview succeeds. -/
theorem preview_agrees (codec : Codec) (env preview : Env)
    (agree : preview.governance = env.governance) (merchant : Address)
    (reference : BytesN 32) (amount : I128) (state : State)
    (nonzero : reference ≠ 0) (unpaused : state.isPaused = false)
    (authorized : env.auths merchant = true)
    (fresh : state.payment merchant reference = none) :
    ((state.readPaymentCount merchant).toNat + 1 < 2 ^ 32 →
      PreviewAgrees codec env preview merchant reference amount state) ∧
    ((state.readPaymentCount merchant).toNat + 1 = 2 ^ 32 →
      PreviewTraps codec env preview merchant reference amount state) := by
  have previewed := @calculateFeeSplit_decided preview merchant amount state
  rw [paymentChecks_congr agree] at previewed
  constructor
  · intro room
    rcases (storePaymentReference_decided nonzero unpaused authorized fresh
      room).together previewed with failed | succeeded
    · obtain ⟨error, stored, shown⟩ := failed
      exact .inl ⟨_, replying_error.mpr stored, replying_error.mpr shown⟩
    · obtain ⟨stored, shown⟩ := succeeded
      obtain ⟨split, after, stored⟩ := isOk_iff_exists.mp stored
      obtain ⟨split', middle, shown⟩ := isOk_iff_exists.mp shown
      have priced := storePaymentReference_priced stored
      have priced' := calculateFeeSplit_priced shown
      rw [effectiveRule_congr agree, priced] at priced'
      cases priced'
      obtain ⟨resolved, read⟩ := getEffectiveRule_of_calculateFeeSplit shown
      rw [effectiveRule_congr agree] at read
      exact .inr ⟨split, _, after, middle, resolved,
        replying_ok.mpr ⟨_, stored, rfl⟩, replying_ok.mpr ⟨_, shown, rfl⟩,
        replying_ok.mpr ⟨_, read, rfl⟩,
        (storePaymentReference_exact stored).2⟩
  · intro full
    rcases (storePaymentReference_full nonzero unpaused authorized fresh
      full).together previewed with failed | trapped
    · obtain ⟨error, stored, shown⟩ := failed
      exact .inl ⟨_, replying_error.mpr stored, replying_error.mpr shown⟩
    · obtain ⟨stored, shown⟩ := trapped
      refine .inr ⟨replying_error.mpr stored, ?_⟩
      rw [invoke, replying_isOk]
      exact shown

/-- A merchant opens shop on a contract without any rules. -/
def sampleShopRun : List Input :=
  [⟨.granting 0, .init (.account 9) [.account 1] 1 (.contract 5)
      (.account 2)⟩,
    ⟨.granting 100, .registerMerchant [.account 1] (.account 6)⟩]

theorem preview_agrees_first_payment :
    let state := run (step sampleCodec) State.initial sampleShopRun
    ((state.readPaymentCount (.account 6)).toNat + 1 < 2 ^ 32 →
      PreviewAgrees sampleCodec (.granting 200) (.granting 200) (.account 6) 1
        minPaymentAmount state) ∧
    ((state.readPaymentCount (.account 6)).toNat + 1 = 2 ^ 32 →
      PreviewTraps sampleCodec (.granting 200) (.granting 200) (.account 6) 1
        minPaymentAmount state) :=
  preview_agrees sampleCodec (.granting 200) (.granting 200) rfl (.account 6)
    1 minPaymentAmount _ (by decide) rfl rfl rfl

/-! The maximum of the counter is reached by a run that stores as many
payments, each of the least amount and under the next number. -/

def countedPayment (number : Nat) : Call :=
  .storePaymentReference (.account 6) (BitVec.ofNat _ number)
    minPaymentAmount

def busyRun (payments : Nat) : List Input :=
  sampleShopRun ++ (List.range payments).map fun index =>
    ⟨.granting 200, countedPayment (index + 1)⟩

/-- The shop after so many payments. -/
structure Busy (payments : Nat) (state : State) : Prop where
  registered : state.merchant (.account 6) = true
  unpaused : state.isPaused = false
  governed : state.governance = some (.contract 5)
  ruleless : state.rule (.account 6) = none
  defaultless : state.defaultRule = none
  unused : ∀ reference, payments < reference.toNat →
    state.payment (.account 6) reference = none
  counted : (state.readPaymentCount (.account 6)).toNat = payments

theorem Busy.passes {payments : Nat} {state : State}
    (busy : Busy payments state) :
    firstError (state.paymentChecks (.granting 200) (.account 6)
      minPaymentAmount) = none := by
  have bootstrap : (state.effectiveRule (.granting 200)
      (.account 6)).rule = bootstrapDefaultRule := by
    simp only [State.effectiveRule, State.fallbackRule, busy.ruleless,
      busy.defaultless, State.governanceRule, State.reading, busy.governed]
    rfl
  simp only [State.paymentChecks, busy.registered, bootstrap,
    State.readMinPaymentAmount, State.resolutionError, State.fallbackError,
    State.reading, busy.governed, busy.ruleless, busy.defaultless]
  rfl

theorem Busy.pays {payments : Nat} {state : State}
    (busy : Busy payments state) (room : payments + 1 < 2 ^ 32) :
    ∃ reply after, invoke sampleCodec (.granting 200)
      (countedPayment (payments + 1)) state = .ok (reply, after) ∧
      Busy (payments + 1) after := by
  have number : (BitVec.ofNat (8 * 32) (payments + 1)).toNat =
      payments + 1 := by
    rw [BitVec.toNat_ofNat]
    exact Nat.mod_eq_of_lt (by omega)
  have nonzero : BitVec.ofNat (8 * 32) (payments + 1) ≠ 0 := by
    intro zero
    rw [zero] at number
    cases number
  have accepted := (@storePaymentReference_decided (.granting 200) _ _
    minPaymentAmount _ nonzero busy.unpaused rfl
    (busy.unused _ (by omega)) (by rw [busy.counted]; exact room)).isOk_iff.mpr
      busy.passes
  obtain ⟨split, after, stored⟩ := isOk_iff_exists.mp accepted
  have succeeded : invoke sampleCodec (.granting 200)
      (countedPayment (payments + 1)) state = .ok (.split split, after) :=
    replying_ok.mpr ⟨_, stored, rfl⟩
  refine ⟨_, after, succeeded, ?_⟩
  have effect : Effect sampleCodec (.granting 200) state
      (.storePaymentReference (.account 6)
        (BitVec.ofNat _ (payments + 1)) minPaymentAmount) after :=
    invoke_effect succeeded
  cases effect with
  | storePaymentReference _ _ _ _ _ _ _ _ _ counted =>
      refine ⟨busy.registered, busy.unpaused, busy.governed, busy.ruleless,
        busy.defaultless, ?_, ?_⟩
      · intro reference later
        have other : reference ≠ BitVec.ofNat _ (payments + 1) := by
          intro same
          rw [same, number] at later
          exact Nat.lt_irrefl _ later
        simp only [State.soft_payment, Function.update_self,
          Function.update_of_ne other]
        exact busy.unused reference (by omega)
      · simp only [State.readPaymentCount, State.soft_paymentCount,
          Function.update_self, Option.getD_some, counted]
        exact congrArg (· + 1) busy.counted
  | administer direct => cases direct
  | query reads => cases reads

theorem busyRun_busy (payments : Nat) (room : payments < 2 ^ 32) :
    Busy payments (run (step sampleCodec) State.initial
      (busyRun payments)) := by
  induction payments with
  | zero => exact ⟨rfl, rfl, rfl, rfl, rfl, fun _ _ => rfl, rfl⟩
  | succ payments induction =>
      obtain ⟨reply, after, succeeded, busy⟩ :=
        (induction (by omega)).pays room
      have extended : busyRun (payments + 1) = busyRun payments ++
          [⟨.granting 200, countedPayment (payments + 1)⟩] := by
        simp only [busyRun, List.range_succ, List.map_append,
          List.map_singleton, List.append_assoc]
      have committed : commit (step sampleCodec)
          (run (step sampleCodec) State.initial (busyRun payments))
          ⟨.granting 200, countedPayment (payments + 1)⟩ = after :=
        commit_of_ok succeeded
      rw [extended, run_append, run_cons, run_nil, committed]
      exact busy

/-- One more payment than the counter can count. -/
theorem Busy.traps {state : State} (busy : Busy (2 ^ 32 - 1) state) :
    ¬ PreviewAgrees sampleCodec (.granting 200) (.granting 200) (.account 6)
      (BitVec.ofNat _ (2 ^ 32)) minPaymentAmount state := by
  have fresh : state.payment (.account 6) (BitVec.ofNat _ (2 ^ 32)) =
      none := busy.unused _ (by decide)
  have trapped := (@storePaymentReference_full (.granting 200) _ _
    minPaymentAmount _ (by decide) busy.unpaused rfl fresh
    (congrArg (· + 1) busy.counted)).of_firstError_eq_none busy.passes
  have shown := (@calculateFeeSplit_decided (.granting 200) (.account 6)
    minPaymentAmount state).isOk_iff.mpr busy.passes
  intro agrees
  rcases agrees with failed | succeeded
  · obtain ⟨failure, _, failed⟩ := failed
    rw [replying_error.mp failed] at shown
    cases shown
  · obtain ⟨_, _, _, _, _, stored, _⟩ := succeeded
    obtain ⟨_, stored, _⟩ := replying_ok.mp stored
    rw [trapped] at stored
    cases stored

theorem full_counter_breaks_preview :
    ¬ ∀ state, Reachable sampleCodec state → ∀ (env preview : Env),
      preview.governance = env.governance →
      ∀ merchant reference amount, reference ≠ 0 →
      state.isPaused = false → env.auths merchant = true →
      state.payment merchant reference = none →
      PreviewAgrees sampleCodec env preview merchant reference amount
        state := by
  intro agrees
  have busy := busyRun_busy (2 ^ 32 - 1) (by decide)
  exact busy.traps (agrees _ ⟨busyRun (2 ^ 32 - 1), rfl⟩ (.granting 200)
    (.granting 200) rfl (.account 6) _ minPaymentAmount (by decide)
    busy.unpaused rfl (busy.unused _ (by decide)))

end BettaPay.Settlement
