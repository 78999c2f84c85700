import BettaPay.Settlement.Resolution
import BettaPay.Settlement.SlotLifetime

namespace BettaPay.Settlement

open BettaPay.Host
open BettaPay.Host.Tx (readState writeState)
open BettaPay.Common

/-! Which persistent entries a call keeps alive, and for how long. -/

def PersistentKey.threshold : PersistentKey → UInt32
  | .merchant _ => merchantTtlThreshold
  | .rule _ => ruleTtlThreshold
  | .archivedMerchant _ => merchantTtlThreshold
  | .payment _ _ => paymentTtlThreshold
  | .scheduledOperation _ => scheduledOpTtlThreshold
  | .paymentCount _ => merchantTtlThreshold

def PersistentKey.bump : PersistentKey → UInt32
  | .merchant _ => merchantTtlBump
  | .rule _ => ruleTtlBump
  | .archivedMerchant _ => merchantTtlBump
  | .payment _ _ => paymentTtlBump
  | .scheduledOperation _ => scheduledOpTtlBump
  | .paymentCount _ => merchantTtlBump

/-- There is an entry under the key. -/
def State.holds (state : State) : PersistentKey → Bool
  | .merchant merchant => state.merchant merchant
  | .rule merchant => (state.rule merchant).isSome
  | .archivedMerchant merchant => state.archivedMerchant merchant
  | .payment merchant reference => (state.payment merchant reference).isSome
  | .scheduledOperation opHash => (state.scheduledOperation opHash).isSome
  | .paymentCount merchant => (state.paymentCount merchant).isSome

/-- The lifetime of an entry that is written or read for use. -/
def State.renewal (env : Env) (state : State) (key : PersistentKey) : Nat :=
  env.extendTtl key.threshold key.bump
    (if state.holds key then state.liveUntil key
    else env.sequence.toNat + env.freshTtl.toNat)

def State.renewed (env : Env) (state : State) (keys : List PersistentKey) :
    PersistentKey → Nat :=
  fun key =>
    if key ∈ keys then state.renewal env key else state.liveUntil key

/-- The rule of a merchant, where one is stored. -/
def State.ruleKeys (state : State) (merchant : Address) :
    List PersistentKey :=
  if (state.rule merchant).isSome then [.rule merchant] else []

def State.paymentKeys (state : State) (merchant : Address)
    (refs : List (BytesN 32)) : List PersistentKey :=
  (refs.filter fun reference =>
    (state.payment merchant reference).isSome).map (.payment merchant)

def Operation.renews : Operation → List PersistentKey
  | .registerMerchant merchant => [.merchant merchant]
  | .unregisterMerchant merchant => [.archivedMerchant merchant]
  | .setSettlementRule merchant _ => [.merchant merchant, .rule merchant]
  | _ => []

def Call.renews (codec : Codec) (state : State) :
    Call → List PersistentKey
  | .schedule _ operation _ => [.scheduledOperation (codec.hash operation)]
  | .storePaymentReference merchant reference _ =>
      .merchant merchant :: state.ruleKeys merchant ++
        [.payment merchant reference] ++ [.paymentCount merchant]
  | .prunePayment _ merchant reference =>
      if (state.payment merchant reference).isSome then
        [.paymentCount merchant]
      else []
  | .prunePayments _ merchant refs =>
      if refs.any fun reference =>
          (state.payment merchant reference).isSome then
        [.paymentCount merchant]
      else []
  | .getPaymentReference merchant reference _ =>
      state.paymentKeys merchant [reference]
  | .getPayments merchant refs _ _ => state.paymentKeys merchant refs
  | .getSettlementRule merchant => state.ruleKeys merchant
  | .execute _ operation => operation.renews
  | .registerMerchant _ merchant =>
      (Operation.registerMerchant merchant).renews
  | .unregisterMerchant _ merchant =>
      (Operation.unregisterMerchant merchant).renews
  | .setSettlementRule _ merchant rule =>
      (Operation.setSettlementRule merchant rule).renews
  | _ => []

variable {codec : Codec} {env : Env} {state before after : State}

theorem State.paymentKeys_cons {merchant : Address}
    {reference : BytesN 32} {rest : List (BytesN 32)} :
    state.paymentKeys merchant (reference :: rest) =
      (if (state.payment merchant reference).isSome then
        [.payment merchant reference]
      else []) ++ state.paymentKeys merchant rest := by
  simp only [State.paymentKeys, List.filter_cons]
  split <;> rfl

@[simp] theorem State.renewed_nil : state.renewed env [] =
    state.liveUntil := by
  funext key
  simp [State.renewed]

/-- One entry that is written or read for use. -/
theorem State.renewed_singleton {key : PersistentKey} :
    state.renewed env [key] =
      Function.update state.liveUntil key (state.renewal env key) := by
  funext other
  by_cases same : other = key
  · subst same
    simp [State.renewed]
  · simp [State.renewed, same]

theorem State.renewed_congr {other : State} {keys : List PersistentKey}
    (held : ∀ key ∈ keys, state.holds key = other.holds key)
    (lives : state.liveUntil = other.liveUntil) :
    state.renewed env keys = other.renewed env keys := by
  funext key
  simp only [State.renewed, State.renewal, lives]
  by_cases listed : key ∈ keys
  · rw [if_pos listed, if_pos listed, held key listed]
  · rw [if_neg listed, if_neg listed]

theorem State.renewed_one {other : State} {key : PersistentKey}
    (held : state.holds key = other.holds key)
    (lives : state.liveUntil = other.liveUntil) :
    state.renewed env [key] = other.renewed env [key] := by
  apply State.renewed_congr
  · intro found listed
    rw [List.mem_singleton.mp listed]
    exact held
  · exact lives

theorem extend_started {key : PersistentKey} {present : Bool}
    (held : present = state.holds key) :
    Function.update (started env key present state.liveUntil) key
        (env.extendTtl key.threshold key.bump
          (started env key present state.liveUntil key)) =
      state.renewed env [key] := by
  subst held
  rw [State.renewed_singleton, State.renewal, started]
  split
  · rfl
  · rw [Function.update_idem, Function.update_self]

theorem extend_held {key : PersistentKey} (held : state.holds key = true) :
    Function.update state.liveUntil key
        (env.extendTtl key.threshold key.bump (state.liveUntil key)) =
      state.renewed env [key] := by
  rw [State.renewed_singleton, State.renewal, if_pos held]

theorem extend_rule {merchant : Address} {result : Unit}
    (succeeded : bumpRule env merchant before = .ok (result, after)) :
    after.liveUntil = before.renewed env (before.ruleKeys merchant) := by
  simp only [bumpRule, Tx.readState_bind, Tx.ite_ok, extendTtl_ok,
    Tx.pure_ok] at succeeded
  rcases succeeded with ⟨present, rfl⟩ | ⟨absent, _, rfl⟩
  · rw [State.ruleKeys, if_pos present]
    exact @extend_held env before (.rule merchant) present
  · rw [State.ruleKeys, if_neg absent, State.renewed_nil]

theorem PersistentKey.threshold_bounds (key : PersistentKey) :
    0 < key.threshold.toNat ∧ key.threshold.toNat < key.bump.toNat := by
  cases key <;>
    simp only [PersistentKey.threshold, PersistentKey.bump] <;> decide

theorem extendTtl_again (ledger : Ledger) (key : PersistentKey)
    (live : Nat) :
    ledger.extendTtl key.threshold key.bump
        (ledger.extendTtl key.threshold key.bump live) =
      ledger.extendTtl key.threshold key.bump live := by
  obtain ⟨_, ordered⟩ := key.threshold_bounds
  by_cases renews :
      ledger.Renews key.threshold (live - ledger.sequence.toNat)
  · have extended : ledger.extendTtl key.threshold key.bump live =
        ledger.sequence.toNat + key.bump.toNat := if_pos renews
    rw [extended]
    apply Ledger.extendTtl_above
    rwa [Nat.add_sub_cancel_left]
  · have kept : ledger.extendTtl key.threshold key.bump live = live :=
      if_neg renews
    rw [kept, kept]

/-- What two parts of a call renew, where the first took nothing away that
the second works on. -/
theorem renewed_append {middle : State} {keys more : List PersistentKey}
    (first : middle.liveUntil = before.renewed env keys)
    (second : after.liveUntil = middle.renewed env more)
    (held : ∀ key ∈ more, middle.holds key = before.holds key)
    (again : ∀ key ∈ more, key ∈ keys → before.holds key = true) :
    after.liveUntil = before.renewed env (keys ++ more) := by
  rw [second]
  funext key
  simp only [State.renewed, List.mem_append]
  by_cases listed : key ∈ more
  · rw [if_pos listed, if_pos (.inr listed), State.renewal, held key listed,
      first, State.renewed]
    by_cases earlier : key ∈ keys
    · rw [if_pos earlier, again key listed earlier, if_pos rfl,
        State.renewal, again key listed earlier, if_pos rfl,
        extendTtl_again]
    · rw [if_neg earlier, State.renewal]
  · rw [if_neg listed, first, State.renewed]
    simp only [listed, or_false]

/-! The writes the two paths share. -/

section Shared

variable {actor merchant : Address} {result : Unit}

theorem addMerchant_renews
    (succeeded : addMerchant env actor merchant before =
      .ok (result, after)) :
    after.liveUntil = before.renewed env [.merchant merchant] := by
  simp only [addMerchant, setMerchant, Tx.readState_bind, Tx.bind_ok,
    rejectIf_ok, Tx.writeState_ok, extendTtl_ok, emit_ok] at succeeded
  obtain ⟨_, _, ⟨_, rfl⟩, _, _, rfl, _, _, rfl, _, _, rfl, rfl⟩ := succeeded
  exact @extend_started env before (.merchant merchant) _ rfl

theorem clearMerchantRule_renews
    (succeeded : clearMerchantRule env actor merchant before =
      .ok (result, after)) : after.liveUntil = before.liveUntil := by
  obtain ⟨cache, cleared, _, _, rfl⟩ := clearMerchantRule_ok succeeded
  rfl

theorem removeMerchant_renews
    (succeeded : removeMerchant env actor merchant before =
      .ok (result, after)) :
    after.liveUntil = before.renewed env [.archivedMerchant merchant] := by
  simp only [removeMerchant, setArchivedMerchant, Tx.readState_bind,
    Tx.bind_ok, rejectIf_ok, Tx.writeState_ok, extendTtl_ok, emit_ok]
    at succeeded
  obtain ⟨_, _, ⟨_, rfl⟩, _, _, rfl, _, _, rfl, _, _, rfl, _, _, cleared,
    rfl⟩ := succeeded
  have kept := clearMerchantRule_renews cleared
  rw [State.soft_liveUntil, kept]
  exact @extend_started env before (.archivedMerchant merchant) _ rfl

theorem looked_renews
    (succeeded : isMerchantRegisteredAndBumpTtl env merchant before =
      .ok (true, after)) :
    after.liveUntil = before.renewed env [.merchant merchant] := by
  simp only [isMerchantRegisteredAndBumpTtl, Tx.readState_bind, Tx.bind_ok,
    Tx.ite_ok, extendTtl_ok, Tx.pure_ok] at succeeded
  obtain ⟨held, _, _, rfl, _, rfl⟩ | ⟨_, known, _⟩ := succeeded
  · exact @extend_held env before (.merchant merchant) held
  · cases known

theorem assertMerchantRegistered_renews
    (succeeded : assertMerchantRegistered env merchant before =
      .ok (result, after)) :
    after.liveUntil = before.renewed env [.merchant merchant] := by
  simp only [assertMerchantRegistered, Tx.bind_ok, rejectIf_ok,
    Bool.not_eq_false] at succeeded
  obtain ⟨_, _, looked, rfl, rfl⟩ := succeeded
  exact looked_renews looked

theorem previousRule_renews {prev : SettlementRule}
    (succeeded : previousRule env merchant before = .ok (prev, after)) :
    after.liveUntil = before.liveUntil ∧ after.rule = before.rule := by
  simp only [previousRule, Tx.readState_bind] at succeeded
  cases stored : before.rule merchant with
  | some rule =>
      simp only [stored, Tx.pure_ok] at succeeded
      obtain ⟨_, rfl⟩ := succeeded
      exact ⟨rfl, rfl⟩
  | none =>
      simp only [stored, readRuleOrDefault, Tx.bind_ok] at succeeded
      obtain ⟨_, middle, bumped, resolved⟩ := succeeded
      have kept := extend_rule bumped
      rw [State.ruleKeys, stored] at kept
      obtain ⟨live, rfl⟩ := bumpRule_ok bumped
      obtain ⟨_, rfl⟩ := readRuleOrDefaultNoBump_exact resolved
      exact ⟨kept.trans State.renewed_nil, rfl⟩

theorem storeRule_renews {rule : SettlementRule}
    (succeeded : storeRule env actor merchant rule before =
      .ok (result, after)) :
    after.liveUntil = before.renewed env [.rule merchant] := by
  simp only [storeRule, setRule, Tx.bind_ok, Tx.writeState_ok, extendTtl_ok,
    emit_ok] at succeeded
  obtain ⟨prev, middle, resolved, _, _, rfl, _, _, rfl, rfl⟩ := succeeded
  obtain ⟨lives, rules⟩ := previousRule_renews resolved
  have held : (middle.rule merchant).isSome =
      before.holds (.rule merchant) := by
    rw [rules]
    rfl
  have renewed := @extend_started env before (.rule merchant) _ held
  rw [← lives] at renewed
  exact renewed

/-- Registration is looked up on the way to storing a rule. -/
theorem ruleSetting_renews {middle : State} {rule : SettlementRule}
    (looked : assertMerchantRegistered env merchant before =
      .ok (result, middle))
    (stored : storeRule env actor merchant rule middle =
      .ok (result, after)) :
    after.liveUntil =
      before.renewed env [.merchant merchant, .rule merchant] := by
  refine renewed_append (assertMerchantRegistered_renews looked)
    (storeRule_renews stored) ?_ ?_
  · intro key listed
    obtain ⟨_, live, rfl⟩ := assertMerchantRegistered_ok looked
    cases key <;> rfl
  · intro key listed earlier
    rw [List.mem_singleton] at listed earlier
    rw [listed] at earlier
    cases earlier

theorem dispatch_renews {operation : Operation}
    (succeeded : dispatch env actor operation before =
      .ok (result, after)) :
    after.liveUntil = before.renewed env operation.renews := by
  cases operation with
  | updateGovernance newGovernance =>
      simp only [dispatch, Timelocked.updateGovernance, storeGovernance,
        Tx.bind_ok, assertNotPaused_ok, validateGovernance_ok,
        Tx.writeState_ok, emit_ok] at succeeded
      obtain ⟨_, _, ⟨_, rfl⟩, _, _, ⟨_, rfl⟩, _, _, rfl, rfl⟩ := succeeded
      exact State.renewed_nil.symm
  | cancelRecovery =>
      simp only [dispatch, Timelocked.cancelRecovery, removePendingRecovery,
        Tx.readState_bind, Tx.bind_ok, rejectIf_ok, Tx.writeState_ok,
        emit_ok] at succeeded
      obtain ⟨_, _, ⟨_, rfl⟩, _, _, rfl, rfl⟩ := succeeded
      exact State.renewed_nil.symm
  | transferAdmin newAdmins newThreshold =>
      simp only [dispatch, Timelocked.transferAdmin, Tx.bind_ok,
        readAdmins_ok, validateAdminsAndThreshold_ok, writeAdmins_ok,
        emit_ok] at succeeded
      obtain ⟨_, _, ⟨_, rfl⟩, _, _, ⟨_, rfl⟩, _, _, checked, _, _,
        ⟨_, rfl⟩, rfl⟩ := succeeded
      obtain ⟨_, rfl⟩ := rejectMerchantAdmins_ok.mp checked
      exact State.renewed_nil.symm
  | upgrade wasmHash =>
      simp only [dispatch, Timelocked.upgrade, swapWasm, Tx.bind_ok,
        rejectIf_ok, assertNotPaused_ok, emit_ok, Tx.writeState_ok]
        at succeeded
      obtain ⟨_, _, ⟨_, rfl⟩, _, _, ⟨_, rfl⟩, _, _, probed, _, _, ⟨_, rfl⟩,
        _, _, rfl, rfl⟩ := succeeded
      obtain rfl := probeSupportsInterface_ok probed
      exact State.renewed_nil.symm
  | registerMerchant merchant =>
      simp only [dispatch, Timelocked.registerMerchant, Tx.bind_ok,
        assertNotPaused_ok, validateNonzeroAddress_ok] at succeeded
      obtain ⟨_, _, ⟨_, rfl⟩, _, _, ⟨_, rfl⟩, _, _, checked, added⟩ :=
        succeeded
      obtain ⟨_, rfl⟩ := rejectAdminMerchant_ok checked
      exact addMerchant_renews added
  | unregisterMerchant merchant =>
      simp only [dispatch, Timelocked.unregisterMerchant, Tx.bind_ok,
        assertNotPaused_ok] at succeeded
      obtain ⟨_, _, ⟨_, rfl⟩, removed⟩ := succeeded
      exact removeMerchant_renews removed
  | setSettlementRule merchant rule =>
      simp only [dispatch, Timelocked.setSettlementRule, Tx.bind_ok,
        assertNotPaused_ok] at succeeded
      obtain ⟨_, _, ⟨_, rfl⟩, _, _, capped, _, _, looked, _, _, bounded,
        stored⟩ := succeeded
      obtain rfl := validateFeeAgainstGovernance_ok capped
      obtain ⟨_, rfl⟩ := validateRuleBoundsTrapping_ok bounded
      exact ruleSetting_renews looked stored
  | clearSettlementRule merchant =>
      simp only [dispatch, Timelocked.clearSettlementRule, removeRule,
        readRuleOrDefault, Tx.readState_bind, Tx.bind_ok,
        assertNotPaused_ok, orReject_ok, Tx.writeState_ok, emit_ok]
        at succeeded
      obtain ⟨_, _, ⟨_, rfl⟩, _, _, ⟨_, rfl⟩, _, _, rfl, _, _, ⟨_, _,
        bumped, resolved⟩, rfl⟩ := succeeded
      have kept := extend_rule bumped
      simp only [State.ruleKeys, Function.update_self, Option.isSome_none,
        Bool.false_eq_true, if_false, State.renewed_nil] at kept
      obtain ⟨live, rfl⟩ := bumpRule_ok bumped
      obtain ⟨_, rfl⟩ := readRuleOrDefaultNoBump_exact resolved
      exact kept.trans State.renewed_nil.symm
  | setDefaultRule rule =>
      simp only [dispatch, Timelocked.setDefaultRule, storeDefaultRule,
        Tx.readState_bind, Tx.bind_ok, assertNotPaused_ok, Tx.writeState_ok,
        emit_ok] at succeeded
      obtain ⟨_, _, ⟨_, rfl⟩, _, _, capped, _, _, bounded, _, _, rfl, rfl⟩ :=
        succeeded
      obtain rfl := validateFeeAgainstGovernance_ok capped
      obtain ⟨_, rfl⟩ := validateRuleBoundsTrapping_ok bounded
      exact State.renewed_nil.symm

end Shared

/-! Each entry point. -/

section Calls

variable {merchant : Address} {result : Unit}

theorem execute_renews {executor : Address} {operation : Operation}
    (succeeded : execute codec env executor operation before =
      .ok (result, after)) :
    after.liveUntil = before.renewed env operation.renews := by
  simp only [execute, Tx.bind_ok, consumeScheduledOperation_ok, emit_ok]
    at succeeded
  obtain ⟨opHash, _, validated, _, _, rfl, _, middle, dispatched, rfl⟩ :=
    succeeded
  obtain ⟨_, _, _, _, _, rfl, rfl⟩ := validateScheduledExecution_ok validated
  rw [State.soft_liveUntil, dispatch_renews dispatched]
  -- Taking the slot off the queue is all that happened before, and no
  -- operation renews a slot.
  apply State.renewed_congr
  · intro key listed
    cases key with
    | scheduledOperation =>
        cases operation <;> simp [Operation.renews] at listed
    | _ => rfl
  · rfl

theorem schedule_renews {signers : List Address} {operation : Operation}
    {executeIn : UInt64}
    (succeeded : schedule codec env signers operation executeIn before =
      .ok (result, after)) :
    after.liveUntil = before.renewed env
      [.scheduledOperation (codec.hash operation)] := by
  obtain ⟨⟨_, _, _, _, _, _, free⟩, _⟩ := schedule_ok succeeded
  have absent : before.holds (.scheduledOperation (codec.hash operation)) =
      false := by
    rw [State.holds, free]
    rfl
  rw [schedule_lives succeeded, Function.update_idem,
    State.renewed_singleton, State.renewal, absent]
  rfl

theorem registerMerchant_renews {signers : List Address}
    (succeeded : registerMerchant env signers merchant before =
      .ok (result, after)) :
    after.liveUntil = before.renewed env [.merchant merchant] := by
  simp only [registerMerchant, Tx.bind_ok, assertAdminAndNotPaused_ok,
    validateNonzeroAddress_ok, unwrapFirst_ok, requireAuth_ok, emit_ok]
    at succeeded
  obtain ⟨_, _, ⟨_, rfl⟩, _, _, ⟨_, rfl⟩, admin, _, ⟨_, rfl⟩, _, _, checked,
    _, _, ⟨_, rfl⟩, _, _, rfl, added⟩ := succeeded
  obtain ⟨_, rfl⟩ := rejectAdminMerchant_ok checked
  exact (addMerchant_renews added).trans (State.renewed_one rfl rfl)

theorem unregisterMerchant_renews {signers : List Address}
    (succeeded : unregisterMerchant env signers merchant before =
      .ok (result, after)) :
    after.liveUntil = before.renewed env [.archivedMerchant merchant] := by
  simp only [unregisterMerchant, Tx.bind_ok, assertAdminAndNotPaused_ok,
    unwrapFirst_ok] at succeeded
  obtain ⟨_, _, ⟨_, rfl⟩, _, _, ⟨_, rfl⟩, removed⟩ := succeeded
  exact removeMerchant_renews removed

theorem setSettlementRule_renews {signers : List Address}
    {rule : SettlementRule}
    (succeeded : setSettlementRule env signers merchant rule before =
      .ok (result, after)) :
    after.liveUntil =
      before.renewed env [.merchant merchant, .rule merchant] := by
  simp only [setSettlementRule, Tx.bind_ok, assertAdminAndNotPaused_ok,
    unwrapFirst_ok, validateNonzeroAddress_ok] at succeeded
  obtain ⟨_, _, ⟨_, rfl⟩, _, _, ⟨_, rfl⟩, _, _, ⟨_, rfl⟩, _, _, looked, _, _,
    checked, _, _, capped, stored⟩ := succeeded
  obtain ⟨_, rfl⟩ := validateRuleBounds_ok checked
  obtain rfl := validateFeeAgainstGovernance_ok capped
  exact ruleSetting_renews looked stored

theorem clearSettlementRule_renews {signers : List Address}
    (succeeded : clearSettlementRule env signers merchant before =
      .ok (result, after)) : after.liveUntil = before.liveUntil := by
  simp only [clearSettlementRule, removeRule, Tx.readState_bind, Tx.bind_ok,
    assertAdminAndNotPaused_ok, unwrapFirst_ok, orReject_ok,
    Tx.writeState_ok, emit_ok] at succeeded
  obtain ⟨_, _, ⟨_, rfl⟩, _, _, ⟨_, rfl⟩, removed, _, ⟨_, rfl⟩, _, _, rfl,
    fallback, _, resolved, rfl⟩ := succeeded
  obtain ⟨_, rfl⟩ := readFallbackRule_exact resolved
  rfl

theorem decrementPaymentCount_renews {count : UInt32}
    (succeeded : decrementPaymentCount env merchant count before =
      .ok (result, after)) :
    after.liveUntil = before.renewed env
      (if count = 0 then [] else [.paymentCount merchant]) := by
  simp only [decrementPaymentCount, setPaymentCount, Tx.ite_ok, Tx.bind_ok,
    Tx.readState_bind, Tx.writeState_ok, extendTtl_ok, Tx.pure_ok]
    at succeeded
  obtain ⟨zero, _, rfl⟩ | ⟨positive, _, _, rfl, rfl⟩ := succeeded
  · rw [if_pos zero, State.renewed_nil]
  · rw [if_neg positive]
    exact @extend_started env before (.paymentCount merchant) _ rfl

theorem prunePayment_renews {signers : List Address}
    {reference : BytesN 32}
    (succeeded : prunePayment env signers merchant reference before =
      .ok (result, after)) :
    after.liveUntil = before.renewed env
      (if (before.payment merchant reference).isSome then
        [.paymentCount merchant]
      else []) := by
  simp only [prunePayment, pruneStored, removePayment, Tx.readState_bind,
    Tx.bind_ok, assertNotPaused_ok, verifyThresholdAuth_ok, Tx.ite_ok,
    Tx.writeState_ok, emit_ok, Tx.pure_ok] at succeeded
  obtain ⟨_, _, ⟨_, rfl⟩, _, _, ⟨_, rfl⟩, ⟨stored, _, _, rfl, _, _,
    counting, rfl⟩ | ⟨absent, _, rfl⟩⟩ := succeeded
  · rw [if_pos stored]
    have renewed := decrementPaymentCount_renews counting
    rw [if_neg (by decide)] at renewed
    exact renewed.trans (State.renewed_one rfl rfl)
  · rw [if_neg absent, State.renewed_nil]

/-- The loop counts something where there is something to take. -/
theorem pruneEach_counts {refs : List (BytesN 32)} {start total : Nat}
    (succeeded : pruneEach merchant refs start before =
      .ok (total, after)) :
    (refs.any fun reference =>
      (before.payment merchant reference).isSome) = true ↔
        start < total := by
  induction refs generalizing start before with
  | nil =>
      simp only [pruneEach, Tx.pure_ok] at succeeded
      obtain ⟨rfl, rfl⟩ := succeeded
      simp
  | cons reference rest induction =>
      simp only [pruneEach, removePayment, Tx.readState_bind, Tx.ite_ok,
        Tx.bind_ok, Tx.writeState_ok] at succeeded
      rcases succeeded with ⟨stored, _, _, rfl, later⟩ | ⟨absent, later⟩
      · obtain ⟨count, rfl, _⟩ := pruneEach_ok later
        simp only [List.any_cons, stored, Bool.true_or, true_iff]
        omega
      · rw [List.any_cons, Bool.eq_false_of_not_eq_true absent,
          Bool.false_or]
        exact induction later

theorem prunePayments_renews {signers : List Address}
    {refs : List (BytesN 32)} {removed : UInt32}
    (succeeded : prunePayments env signers merchant refs before =
      .ok (removed, after)) :
    after.liveUntil = before.renewed env
      (if refs.any fun reference =>
          (before.payment merchant reference).isSome then
        [.paymentCount merchant]
      else []) := by
  simp only [prunePayments, Tx.bind_ok, verifyThresholdAuth_ok, rejectIf_ok,
    unwrapFirst_ok, emit_ok, Tx.pure_ok, Nat.not_lt] at succeeded
  obtain ⟨_, _, ⟨_, rfl⟩, _, _, ⟨small, rfl⟩, total, middle, looped, _, _,
    counting, _, _, ⟨_, rfl⟩, _, _, rfl, rfl, rfl⟩ := succeeded
  have counted := pruneEach_counts looped
  obtain ⟨count, rfl, bound, pruned⟩ := pruneEach_ok looped
  rw [Nat.zero_add] at counting counted
  have renewed := decrementPaymentCount_renews counting
  have exact_ := toNat_ofNat_of_le (Nat.le_trans bound small)
  have zero : UInt32.ofNat count = 0 ↔ count = 0 := by
    rw [← UInt32.toNat_inj, exact_]
    rfl
  rw [State.soft_liveUntil, renewed]
  have table := pruned.table
  subst table
  by_cases none : count = 0
  · rw [if_pos (zero.mpr none), if_neg (by rw [counted]; omega)]
    rfl
  · rw [if_neg (zero.not.mpr none), if_pos (counted.mpr (by omega))]
    exact State.renewed_one rfl rfl

theorem getEachPayment_renews {refs : List (BytesN 32)}
    {records : List PaymentRecord}
    (succeeded : getEachPayment env merchant refs before =
      .ok (records, after)) :
    after.liveUntil =
      before.renewed env (before.paymentKeys merchant refs) := by
  induction refs generalizing before records with
  | nil =>
      simp only [getEachPayment, Tx.pure_ok] at succeeded
      obtain ⟨_, rfl⟩ := succeeded
      exact State.renewed_nil.symm
  | cons reference rest induction =>
      simp only [getEachPayment, Tx.readState_bind, Tx.bind_ok, Tx.pure_ok]
        at succeeded
      obtain ⟨_, middle, bumped, others, _, read, _, rfl⟩ := succeeded
      have later := induction read
      simp only [bumpPayment, Tx.ite_ok, extendTtl_ok, Tx.pure_ok] at bumped
      rcases bumped with ⟨stored, rfl⟩ | ⟨absent, _, rfl⟩
      · rw [State.paymentKeys_cons, if_pos stored]
        have first := @extend_held env before (.payment merchant reference)
          stored
        refine @renewed_append env before _ _ [_] _ first later ?_ ?_
        · intro key _
          cases key <;> rfl
        · intro key _ listed
          rw [List.mem_singleton.mp listed]
          exact stored
      · rw [State.paymentKeys_cons, if_neg absent]
        exact later

theorem getPaymentReference_renews {reference : BytesN 32}
    {signers : List Address} {found : Option PaymentRecord}
    (succeeded : getPaymentReference env merchant reference signers before =
      .ok (found, after)) :
    after.liveUntil =
      before.renewed env (before.paymentKeys merchant [reference]) := by
  simp only [getPaymentReference, bumpPayment, Tx.readState_bind, Tx.bind_ok,
    assertPaymentsReadable_ok, Tx.ite_ok, extendTtl_ok, Tx.pure_ok]
    at succeeded
  obtain ⟨_, _, authorized, _, _, ⟨_, rfl⟩, _, _, bumped, _, rfl⟩ :=
    succeeded
  obtain rfl := assertReadAuthorized_ok authorized
  rw [State.paymentKeys_cons]
  rcases bumped with ⟨stored, rfl⟩ | ⟨absent, _, rfl⟩
  · rw [if_pos stored]
    exact @extend_held env before (.payment merchant reference) stored
  · rw [if_neg absent]
    exact State.renewed_nil.symm

theorem getPayments_renews {refs : List (BytesN 32)} {cursor : UInt32}
    {signers : List Address} {page : PaymentsPage}
    (succeeded : getPayments env merchant refs cursor signers before =
      .ok (page, after)) :
    after.liveUntil =
      before.renewed env (before.paymentKeys merchant refs) := by
  simp only [getPayments, nextCursor, Tx.bind_ok, assertPaymentsReadable_ok,
    rejectIf_ok, Tx.ite_ok, orTrap_ok, Tx.pure_ok] at succeeded
  obtain ⟨_, _, authorized, _, _, ⟨_, rfl⟩, _, _, ⟨_, rfl⟩, _, middle, read,
    _, _, cursored, _, rfl⟩ := succeeded
  obtain rfl := assertReadAuthorized_ok authorized
  have renewed := getEachPayment_renews read
  obtain ⟨_, _, _, ⟨_, rfl⟩, _, rfl⟩ | ⟨_, _, rfl⟩ := cursored <;>
    exact renewed

/-- A write to one entry and the renewal of others do not get in each other's
way. -/
theorem State.renewed_aside {other : State} {key : PersistentKey}
    {keys : List PersistentKey} {live : Nat} (aside : key ∉ keys)
    (held : ∀ listed ∈ keys, other.holds listed = state.holds listed)
    (lives : other.liveUntil = Function.update state.liveUntil key live) :
    other.renewed env keys =
      Function.update (state.renewed env keys) key live := by
  funext found
  by_cases same : found = key
  · subst same
    rw [State.renewed, if_neg aside, lives, Function.update_self,
      Function.update_self]
  · rw [Function.update_of_ne same]
    simp only [State.renewed, State.renewal, lives]
    by_cases listed : found ∈ keys
    · rw [if_pos listed, if_pos listed, held found listed,
        Function.update_of_ne same]
    · rw [if_neg listed, if_neg listed, Function.update_of_ne same]

/-- An entry that is started, left alone for a while and then extended. -/
theorem State.renewed_started {key : PersistentKey}
    {keys : List PersistentKey} {live : PersistentKey → Nat}
    (absent : state.holds key = false) (aside : key ∉ keys)
    (lives : live = Function.update (state.renewed env keys) key
      (env.sequence.toNat + env.freshTtl.toNat)) :
    Function.update live key
        (env.extendTtl key.threshold key.bump (live key)) =
      state.renewed env (keys ++ [key]) := by
  subst lives
  rw [Function.update_idem, Function.update_self]
  funext found
  simp only [State.renewed, List.mem_append, List.mem_singleton]
  by_cases same : found = key
  · subst same
    rw [Function.update_self, if_pos (.inr rfl), State.renewal, absent]
    rfl
  · rw [Function.update_of_ne same]
    simp only [State.renewed, same, or_false]

theorem State.rule_of_ruleKeys {key : PersistentKey}
    (listed : key ∈ state.ruleKeys merchant) : key = .rule merchant := by
  unfold State.ruleKeys at listed
  split at listed
  · exact List.mem_singleton.mp listed
  · cases listed

/-- The record of a payment is started before the rule is looked up, and
extended after. -/
theorem recorded_renews {reference : BytesN 32} {pending : State}
    {live : PersistentKey → Nat}
    (absent : before.holds (.payment merchant reference) = false)
    (ruled : live = pending.renewed env (pending.ruleKeys merchant))
    (rules : pending.rule = before.rule)
    (fresh : pending.liveUntil = started env (.payment merchant reference)
      (before.holds (.payment merchant reference))
      (before.renewed env [.merchant merchant])) :
    Function.update live (.payment merchant reference)
        (env.extendTtl paymentTtlThreshold paymentTtlBump
          (live (.payment merchant reference))) =
      before.renewed env (.merchant merchant :: before.ruleKeys merchant ++
        [.payment merchant reference]) := by
  have keys : pending.ruleKeys merchant = before.ruleKeys merchant := by
    rw [State.ruleKeys, State.ruleKeys, rules]
  have aside : ∀ key ∈ before.ruleKeys merchant,
      key ≠ .payment merchant reference := by
    intro key listed same
    rw [State.rule_of_ruleKeys listed] at same
    cases same
  let marked := before.soft before.cachedGovRule
    (before.renewed env [.merchant merchant]) []
  have both : marked.renewed env (before.ruleKeys merchant) =
      before.renewed env
        ([.merchant merchant] ++ before.ruleKeys merchant) := by
    refine @renewed_append env before (before.soft before.cachedGovRule
      (marked.renewed env (before.ruleKeys merchant)) []) marked _ _ rfl rfl
      ?_ ?_
    · intro key _
      cases key <;> rfl
    · intro key listed earlier
      rw [State.rule_of_ruleKeys listed, List.mem_singleton] at earlier
      cases earlier
  apply State.renewed_started absent
  · simp only [List.mem_cons, reduceCtorEq, false_or]
    exact fun listed => aside _ listed rfl
  · rw [ruled, keys, ← List.singleton_append, ← both]
    apply State.renewed_aside
    · exact fun listed => aside _ listed rfl
    · intro key listed
      rw [State.rule_of_ruleKeys listed, State.holds, rules]
      rfl
    · rw [fresh, started, absent]
      rfl

theorem setPayment_starts {reference : BytesN 32} {record : PaymentRecord}
    (succeeded : setPayment env merchant reference record before =
      .ok (result, after)) :
    after.liveUntil = started env (.payment merchant reference)
        (before.holds (.payment merchant reference)) before.liveUntil ∧
      after.holds (.payment merchant reference) = true ∧
      after.rule = before.rule ∧ after.paymentCount = before.paymentCount := by
  obtain rfl := Tx.writeState_ok.mp succeeded
  simp only [State.holds, Function.update_self, Option.isSome_some, and_self]

theorem incrementPaymentCount_lives
    (succeeded : incrementPaymentCount env merchant before =
      .ok (result, after)) :
    after.liveUntil = before.renewed env [.paymentCount merchant] := by
  simp only [incrementPaymentCount, setPaymentCount, Tx.readState_bind,
    Tx.bind_ok, orTrap_ok, Tx.writeState_ok, extendTtl_ok] at succeeded
  obtain ⟨_, _, ⟨_, rfl⟩, _, _, rfl, rfl⟩ := succeeded
  exact @extend_started env before (.paymentCount merchant) _ rfl

theorem storePaymentReference_renews {reference : BytesN 32}
    {amount : I128} {split : FeeSplit}
    (succeeded : storePaymentReference env merchant reference amount
      before = .ok (split, after)) :
    after.liveUntil = before.renewed env
      (.merchant merchant :: before.ruleKeys merchant ++
        [.payment merchant reference] ++ [.paymentCount merchant]) := by
  simp only [storePaymentReference, readRuleOrDefault, Tx.readState_bind,
    Tx.bind_ok, rejectIf_ok, assertNotPaused_ok, requireAuth_ok, orRaise_ok,
    extendTtl_ok, emit_ok, Tx.pure_ok, Bool.not_eq_false] at succeeded
  obtain ⟨_, _, ⟨_, rfl⟩, _, _, ⟨_, rfl⟩, _, _, ⟨_, rfl⟩, _, marked, looked,
    _, _, ⟨rfl, rfl⟩, _, _, ⟨_, rfl⟩, _, _, ⟨absent, rfl⟩, _, pending, filed,
    rule, resolving, ⟨_, _, bumped, resolved⟩, _, _, fallback, _, _,
    ⟨_, rfl⟩, _, recording, stored, _, _, rfl, _, counting, counted, _, _, rfl,
    rfl, rfl⟩ := succeeded
  have lookup : marked.liveUntil = _ := looked_renews looked
  obtain ⟨_, live, rfl⟩ := isMerchantRegisteredAndBumpTtl_ok looked
  obtain ⟨fresh, filled, rules, counts⟩ := setPayment_starts filed
  have ruled := extend_rule bumped
  obtain ⟨_, rfl⟩ := bumpRule_ok bumped
  obtain ⟨_, rfl⟩ := readRuleOrDefaultNoBump_exact resolved
  obtain rfl := emitBootstrapFallback_ok fallback
  obtain ⟨kept, _, _, counts'⟩ := setPayment_starts stored
  have untouched : recording.liveUntil = _ := kept.trans (if_pos filled)
  have recorded := @recorded_renews env before merchant reference pending _
    (Bool.eq_false_of_not_eq_true absent) ruled rules (fresh.trans (by
      rw [lookup]
      rfl))
  rw [State.soft_liveUntil]
  refine renewed_append ?_ (incrementPaymentCount_lives counted) ?_ ?_
  · rw [State.soft_liveUntil, untouched]
    exact recorded
  · intro key listed
    rw [List.mem_singleton.mp listed, State.holds, State.holds,
      State.soft, counts']
    simp only [State.soft, counts]
  · intro key listed earlier
    rw [List.mem_singleton.mp listed] at earlier
    simp only [List.mem_append, List.mem_cons, List.not_mem_nil,
      reduceCtorEq, or_false, false_or] at earlier
    cases State.rule_of_ruleKeys earlier

theorem getSettlementRule_renews {rule : Option SettlementRule}
    (succeeded : getSettlementRule env merchant before = .ok (rule, after)) :
    after.liveUntil = before.renewed env (before.ruleKeys merchant) := by
  simp only [getSettlementRule, Tx.bind_ok, Tx.readState_bind, Tx.pure_ok]
    at succeeded
  obtain ⟨_, _, bumped, _, rfl⟩ := succeeded
  exact extend_rule bumped

/-- The direct calls of the operations that renew nothing. -/
theorem updateGovernance_lives {signers : List Address}
    {newGovernance : Address}
    (succeeded : updateGovernance env signers newGovernance before =
      .ok (result, after)) : after.liveUntil = before.liveUntil := by
  simp only [updateGovernance, storeGovernance, Tx.bind_ok,
    assertAdminAndNotPaused_ok, validateGovernance_ok, unwrapFirst_ok,
    Tx.writeState_ok, emit_ok] at succeeded
  obtain ⟨_, _, ⟨_, rfl⟩, _, _, ⟨_, rfl⟩, _, _, ⟨_, rfl⟩, _, _, rfl, rfl⟩ :=
    succeeded
  rfl

theorem transferAdmin_lives {signers newAdmins : List Address}
    {newThreshold : UInt32}
    (succeeded : transferAdmin env signers newAdmins newThreshold before =
      .ok (result, after)) : after.liveUntil = before.liveUntil := by
  simp only [transferAdmin, Tx.bind_ok, verifyThresholdAuth_ok,
    validateAdminsAndThreshold_ok, readAdmins_ok, readThreshold_ok,
    rejectIf_ok, rejectMerchantAdmins_ok, writeAdmins_ok, emit_ok]
    at succeeded
  obtain ⟨_, _, ⟨_, rfl⟩, _, _, ⟨_, rfl⟩, _, _, ⟨_, rfl⟩, _, _, ⟨_, rfl⟩, _,
    _, ⟨_, rfl⟩, _, _, ⟨_, rfl⟩, _, _, ⟨_, rfl⟩, rfl⟩ := succeeded
  rfl

theorem upgrade_lives {signers : List Address} {newWasmHash : BytesN 32}
    (succeeded : upgrade env signers newWasmHash before =
      .ok (result, after)) : after.liveUntil = before.liveUntil := by
  simp only [upgrade, swapWasm, Tx.bind_ok, verifyThresholdAuth_ok,
    unwrapFirst_ok, rejectIf_ok, emit_ok, Tx.writeState_ok] at succeeded
  obtain ⟨_, _, ⟨_, rfl⟩, _, _, ⟨_, rfl⟩, _, _, probed, _, _, ⟨_, rfl⟩, _, _,
    rfl, rfl⟩ := succeeded
  obtain rfl := probeSupportsInterface_ok probed
  rfl

theorem setDefaultRule_lives {signers : List Address}
    {newRule : SettlementRule}
    (succeeded : setDefaultRule env signers newRule before =
      .ok (result, after)) : after.liveUntil = before.liveUntil := by
  simp only [setDefaultRule, storeDefaultRule, Tx.readState_bind, Tx.bind_ok,
    assertAdminAndNotPaused_ok, unwrapFirst_ok, Tx.writeState_ok, emit_ok]
    at succeeded
  obtain ⟨_, _, ⟨_, rfl⟩, _, _, ⟨_, rfl⟩, _, _, checked, _, _, capped, _, _,
    rfl, rfl⟩ := succeeded
  obtain ⟨_, rfl⟩ := validateRuleBounds_ok checked
  obtain rfl := validateFeeAgainstGovernance_ok capped
  rfl

theorem calculateFeeSplit_lives {amount : I128} {split : FeeSplit}
    (succeeded : calculateFeeSplit env merchant amount before =
      .ok (split, after)) : after.liveUntil = before.liveUntil := by
  simp only [calculateFeeSplit, Tx.readState_bind, Tx.bind_ok,
    isMerchantRegisteredInternal_ok, rejectIf_ok, orRaise_ok] at succeeded
  obtain ⟨_, _, ⟨_, rfl⟩, _, _, ⟨_, rfl⟩, _, _, ⟨_, rfl⟩, _, _, resolved, _,
    rfl⟩ := succeeded
  obtain ⟨_, rfl⟩ := readRuleOrDefaultNoBump_exact resolved
  rfl

theorem getPaymentCount_lives {signers : List Address} {count : UInt32}
    (succeeded : getPaymentCount env merchant signers before =
      .ok (count, after)) : after.liveUntil = before.liveUntil := by
  simp only [getPaymentCount, Tx.readState_bind, Tx.bind_ok,
    assertPaymentsReadable_ok, Tx.pure_ok] at succeeded
  obtain ⟨_, _, authorized, _, _, ⟨_, rfl⟩, _, rfl⟩ := succeeded
  obtain rfl := assertReadAuthorized_ok authorized
  rfl

/-- The lifetimes after a call are those before it with the listed entries
renewed. -/
theorem invoke_renews {call : Call} {reply : Reply}
    (succeeded : invoke codec env call before = .ok (reply, after)) :
    after.liveUntil = before.renewed env (call.renews codec before) := by
  cases call
  all_goals obtain ⟨_, ran, _⟩ := replying_ok.mp succeeded
  case schedule => exact schedule_renews ran
  case execute => exact execute_renews ran
  case registerMerchant => exact registerMerchant_renews ran
  case unregisterMerchant => exact unregisterMerchant_renews ran
  case setSettlementRule => exact setSettlementRule_renews ran
  case storePaymentReference => exact storePaymentReference_renews ran
  case prunePayment => exact prunePayment_renews ran
  case prunePayments => exact prunePayments_renews ran
  case getPaymentReference => exact getPaymentReference_renews ran
  case getPayments => exact getPayments_renews ran
  case getSettlementRule => exact getSettlementRule_renews ran
  all_goals refine Eq.trans ?_ State.renewed_nil.symm
  case updateGovernance => exact updateGovernance_lives ran
  case transferAdmin => exact transferAdmin_lives ran
  case upgrade => exact upgrade_lives ran
  case setDefaultRule => exact setDefaultRule_lives ran
  case clearSettlementRule => exact clearSettlementRule_renews ran
  case calculateFeeSplit => exact calculateFeeSplit_lives ran
  case getPaymentCount => exact getPaymentCount_lives ran
  case cancelAll =>
    cases invoke_effect succeeded with
    | cancelAll _ _ _ drained =>
        obtain ⟨_, _, rfl⟩ := drained.unchanged
        rfl
    | administer direct => cases direct
    | query reads => cases reads
  case dryRun =>
    simp only [dryRun, Tx.bind_ok, Tx.pure_ok] at ran
    obtain ⟨_, _, validated, _, rfl⟩ := ran
    obtain ⟨_, _, _, _, _, _, rfl⟩ := validateScheduledExecution_ok validated
    rfl
  case getEffectiveRule =>
    obtain ⟨_, rfl⟩ := readRuleOrDefaultNoBump_exact ran
    rfl
  case getRuleProvenance =>
    obtain ⟨_, rfl⟩ := readEffectiveRuleNoBump_exact ran
    rfl
  case isMerchantRegistered =>
    simp only [isMerchantRegistered, Tx.readState_bind, Tx.bind_ok,
      rejectIf_ok, Tx.pure_ok] at ran
    obtain ⟨_, _, ⟨_, rfl⟩, _, rfl⟩ := ran
    rfl
  case supportsInterface | version | getCapabilities | isInitialized |
      getAdmin | getThreshold | getGovernance | getRecoveryAddress |
      isPaused | getPendingOperationCount | getDefaultRule |
      getSettlementRuleNoBump =>
    simp only [supportsInterface, version, getCapabilities, isInitialized,
      getAdmin, getThreshold, getGovernance, getRecoveryAddress, getIsPaused,
      getPendingOperationCount, getDefaultRule, getSettlementRuleNoBump,
      Tx.readState_bind, readAdmins_ok, readThreshold_ok, readGovernance_ok,
      readRecoveryAddress_ok, Tx.pure_ok] at ran
    obtain ⟨_, rfl⟩ := ran
    rfl
  all_goals
    cases invoke_effect succeeded with
    | administer direct => cases direct
    | query reads => cases reads
    | _ => rfl

end Calls

end BettaPay.Settlement
