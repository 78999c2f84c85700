import BettaPay.Settlement.Queue

namespace BettaPay.Settlement

open BettaPay.Host
open BettaPay.Host.Tx (readState writeState)
open BettaPay.Common

/-! The slots of the timelock queue. Only the timelock's own entry points
touch them; no other depends on them or on how long any entry has to live.
Reads and writes are shown to leave the slots out; what is composed of such
steps does so too. -/

structure Slots where
  scheduledOperation : BytesN 32 → Option ScheduledOp
  liveUntil : BytesN 32 → Nat

def Slots.Agrees (slots : Slots) (live : PersistentKey → Nat) : Prop :=
  ∀ opHash, live (.scheduledOperation opHash) = slots.liveUntil opHash

/-- Lifetimes of all entries under which the slots have theirs. -/
def Slots.Lifetimes (slots : Slots) : Type :=
  { live : PersistentKey → Nat // slots.Agrees live }

def State.slots (state : State) : Slots :=
  ⟨state.scheduledOperation,
    fun opHash => state.liveUntil (.scheduledOperation opHash)⟩

/-- The state with other slots, and with other lifetimes. -/
def State.slotted (slots : Slots) (live : slots.Lifetimes) (state : State) :
    State :=
  { state with
    scheduledOperation := slots.scheduledOperation
    liveUntil := live.val }

abbrev Slotless {α : Type} (slots : Slots) (action : Contract α) : Prop :=
  Tx.Blind (State.slotted slots) action

theorem State.slotted_self (state : State) :
    state.slotted state.slots ⟨state.liveUntil, fun _ => rfl⟩ = state :=
  rfl

/-- What leaves the slots out keeps them. -/
theorem Slotless.kept {α : Type} {action : Contract α} {state after : State}
    {value : α} (slotless : ∀ slots, Slotless slots action)
    (succeeded : action state = .ok (value, after)) :
    after.slots = state.slots := by
  obtain ⟨live, again⟩ :=
    (slotless state.slots).ok ⟨state.liveUntil, fun _ => rfl⟩ succeeded
  rw [State.slotted_self, succeeded] at again
  have same : after = after.slotted state.slots live := by
    simpa using again
  rw [same]
  exact congrArg (Slots.mk _) (funext live.property)

/-- It is then blind to whatever is hidden in slots and lifetimes alone. -/
theorem Slotless.blind {κ α : Type} {blur : κ → State → State}
    {action : Contract α} (slotless : ∀ slots, Slotless slots action)
    (asSlots : ∀ hidden state, ∃ slots, ∃ live : slots.Lifetimes,
      blur hidden state = state.slotted slots live ∧
        ∀ after : State,
          after.scheduledOperation = state.scheduledOperation →
          ∀ live' : slots.Lifetimes, ∃ hidden',
            after.slotted slots live' = blur hidden' after) :
    Tx.Blind blur action where
  ok := by
    intro hidden state after value succeeded
    have kept := Slotless.kept slotless succeeded
    obtain ⟨slots, live, same, back⟩ := asSlots hidden state
    obtain ⟨live', again⟩ := (slotless slots).ok live succeeded
    obtain ⟨hidden', same'⟩ :=
      back after (congrArg Slots.scheduledOperation kept) live'
    refine ⟨hidden', ?_⟩
    rw [same, ← same']
    exact again
  error := by
    intro hidden state failure failed
    obtain ⟨slots, live, same, _⟩ := asSlots hidden state
    rw [same]
    exact (slotless slots).error live failed

variable {slots : Slots} {env : Env}

theorem Slots.Agrees.update {live : PersistentKey → Nat}
    {key : PersistentKey} {last : Nat} (agrees : slots.Agrees live)
    (other : ∀ opHash, .scheduledOperation opHash ≠ key) :
    slots.Agrees (Function.update live key last) := by
  intro opHash
  rw [Function.update_of_ne (other opHash)]
  exact agrees opHash

theorem Slots.Agrees.started {live : PersistentKey → Nat}
    {key : PersistentKey} {present : Bool} (agrees : slots.Agrees live)
    (other : ∀ opHash, .scheduledOperation opHash ≠ key) :
    slots.Agrees (started env key present live) := by
  unfold Settlement.started
  split
  · exact agrees
  · exact agrees.update other

theorem slotless_extendTtl {key : PersistentKey} {threshold bump : UInt32}
    (other : ∀ opHash, .scheduledOperation opHash ≠ key) :
    Slotless slots (extendTtl env key threshold bump) :=
  .write fun live _ => ⟨⟨_, live.property.update other⟩, rfl⟩

/-! Storage. -/

instance slotless_emit {event : Event} : Slotless slots (emit event) :=
  .write fun live _ => ⟨live, rfl⟩

instance slotless_extendMerchant {merchant : Address}
    {threshold bump : UInt32} :
    Slotless slots (extendTtl env (.merchant merchant) threshold bump) :=
  slotless_extendTtl nofun

instance slotless_extendArchivedMerchant {merchant : Address}
    {threshold bump : UInt32} :
    Slotless slots
      (extendTtl env (.archivedMerchant merchant) threshold bump) :=
  slotless_extendTtl nofun

instance slotless_extendRule {merchant : Address}
    {threshold bump : UInt32} :
    Slotless slots (extendTtl env (.rule merchant) threshold bump) :=
  slotless_extendTtl nofun

instance slotless_extendPayment {merchant : Address}
    {reference : BytesN 32} {threshold bump : UInt32} :
    Slotless slots
      (extendTtl env (.payment merchant reference) threshold bump) :=
  slotless_extendTtl nofun

instance slotless_extendPaymentCount {merchant : Address}
    {threshold bump : UInt32} :
    Slotless slots (extendTtl env (.paymentCount merchant) threshold bump) :=
  slotless_extendTtl nofun

instance slotless_setMerchant {merchant : Address} :
    Slotless slots (setMerchant env merchant) :=
  .write fun live _ => ⟨⟨_, live.property.started (by simp)⟩, rfl⟩

instance slotless_setArchivedMerchant {merchant : Address} :
    Slotless slots (setArchivedMerchant env merchant) :=
  .write fun live _ => ⟨⟨_, live.property.started (by simp)⟩, rfl⟩

instance slotless_setRule {merchant : Address} {rule : SettlementRule} :
    Slotless slots (setRule env merchant rule) :=
  .write fun live _ => ⟨⟨_, live.property.started (by simp)⟩, rfl⟩

instance slotless_removeRule {merchant : Address} :
    Slotless slots (removeRule merchant) :=
  .write fun live _ => ⟨live, rfl⟩

instance slotless_setPayment {merchant : Address} {reference : BytesN 32}
    {record : PaymentRecord} :
    Slotless slots (setPayment env merchant reference record) :=
  .write fun live _ => ⟨⟨_, live.property.started (by simp)⟩, rfl⟩

instance slotless_removePayment {merchant : Address}
    {reference : BytesN 32} :
    Slotless slots (removePayment merchant reference) :=
  .write fun live _ => ⟨live, rfl⟩

instance slotless_setPaymentCount {merchant : Address} {count : UInt32} :
    Slotless slots (setPaymentCount env merchant count) :=
  .write fun live _ => ⟨⟨_, live.property.started (by simp)⟩, rfl⟩

instance slotless_readAdmins : Slotless slots readAdmins :=
  .read (fun _ => inferInstance) fun _ _ => rfl

instance slotless_readOptionalAdmins : Slotless slots readOptionalAdmins :=
  .read (fun _ => inferInstance) fun _ _ => rfl

instance slotless_readThreshold : Slotless slots readThreshold :=
  .read (fun _ => inferInstance) fun _ _ => rfl

instance slotless_validateNonzeroAddress {address : Address}
    {zeroError : SettlementError} :
    Slotless slots (validateNonzeroAddress address zeroError) :=
  blind_rejectIf

instance slotless_validateAdminsAndThreshold {admins : List Address}
    {threshold : UInt32} :
    Slotless slots (validateAdminsAndThreshold admins threshold) := by
  unfold validateAdminsAndThreshold
  infer_instance

instance slotless_writeAdmins {admins : List Address} {threshold : UInt32} :
    Slotless slots (writeAdmins admins threshold) :=
  .andThen inferInstance fun _ => .write fun live _ => ⟨live, rfl⟩

instance slotless_verifyAdminAuth {signers : List Address}
    {count : UInt32} : Slotless slots (verifyAdminAuth env signers count) := by
  unfold verifyAdminAuth
  infer_instance

instance slotless_verifyThresholdAuth {signers : List Address} :
    Slotless slots (verifyThresholdAuth env signers) := by
  unfold verifyThresholdAuth
  infer_instance

instance slotless_readGovernance : Slotless slots readGovernance :=
  .read (fun _ => inferInstance) fun _ _ => rfl

instance slotless_readRecoveryAddress : Slotless slots readRecoveryAddress :=
  .read (fun _ => inferInstance) fun _ _ => rfl

instance slotless_readPendingRecovery : Slotless slots readPendingRecovery :=
  .read (fun _ => inferInstance) fun _ _ => rfl

instance slotless_validateGovernance {governance : Address} :
    Slotless slots (validateGovernance governance) :=
  slotless_validateNonzeroAddress

instance slotless_assertNotPaused : Slotless slots assertNotPaused :=
  .read (fun _ => inferInstance) fun _ _ => rfl

instance slotless_assertAdminAndNotPaused {signers : List Address} :
    Slotless slots (assertAdminAndNotPaused env signers) := by
  unfold assertAdminAndNotPaused
  infer_instance

instance slotless_readSchemaVersion : Slotless slots readSchemaVersion :=
  .read (fun _ => inferInstance) fun _ _ => rfl

instance slotless_isMerchantRegisteredInternal {merchant : Address} :
    Slotless slots (isMerchantRegisteredInternal merchant) :=
  .read (fun _ => inferInstance) fun _ _ => rfl

instance slotless_isMerchantRegisteredAndBumpTtl {merchant : Address} :
    Slotless slots (isMerchantRegisteredAndBumpTtl env merchant) :=
  .read (fun _ => inferInstance) fun _ _ => rfl

instance slotless_assertPaymentsReadable {merchant : Address} :
    Slotless slots (assertPaymentsReadable merchant) :=
  .andThen inferInstance fun _ => .andThen inferInstance fun _ =>
    .read (fun _ => inferInstance) fun _ _ => rfl

instance slotless_incrementPaymentCount {merchant : Address} :
    Slotless slots (incrementPaymentCount env merchant) :=
  .read (fun _ => inferInstance) fun _ _ => rfl

instance slotless_decrementPaymentCount {merchant : Address}
    {count : UInt32} :
    Slotless slots (decrementPaymentCount env merchant count) := by
  unfold decrementPaymentCount
  split
  · infer_instance
  · exact .read (fun _ => inferInstance) fun _ _ => rfl

instance slotless_incrementPendingOperationCount :
    Slotless slots incrementPendingOperationCount :=
  .write fun live _ => ⟨live, rfl⟩

instance slotless_decrementPendingOperationCount {count : UInt32} :
    Slotless slots (decrementPendingOperationCount count) := by
  unfold decrementPendingOperationCount
  split
  · infer_instance
  · exact .write fun live _ => ⟨live, rfl⟩

/-! Governance reads and rule resolution. -/

instance slotless_cacheGovernanceFeeRule {config : Option GovFeeConfig} :
    Slotless slots (cacheGovernanceFeeRule config) := by
  cases config with
  | none => exact Tx.Blind.pure
  | some config =>
      exact .andThen inferInstance fun _ =>
        .andThen (.write fun live _ => ⟨live, rfl⟩) fun _ => inferInstance

instance slotless_tryReadGovernanceFeeConfig {rawVal : Val} :
    Slotless slots (tryReadGovernanceFeeConfig rawVal) :=
  blind_orRaise

instance slotless_readGovernanceFeeRule :
    Slotless slots (readGovernanceFeeRule env) := by
  refine .read (fun state => ?_) fun _ _ => rfl
  cases state.governance with
  | none => exact Tx.Blind.pure
  | some governance =>
      simp only
      split
      · infer_instance
      · split <;> infer_instance

instance slotless_invokeGovernanceGetFeeConfig {governance : Address} :
    Slotless slots (invokeGovernanceGetFeeConfig env governance) := by
  unfold invokeGovernanceGetFeeConfig
  split <;> infer_instance

instance slotless_assertGovernanceReachable :
    Slotless slots (assertGovernanceReachable env) := by
  unfold assertGovernanceReachable
  infer_instance

instance slotless_checkFeeCeiling {rule : SettlementRule}
    {config : Option GovFeeConfig} :
    Slotless slots (checkFeeCeiling rule config) := by
  cases config with
  | none => exact Tx.Blind.pure
  | some config =>
      simp only [checkFeeCeiling]
      infer_instance

instance slotless_validateFeeAgainstGovernance {rule : SettlementRule} :
    Slotless slots (validateFeeAgainstGovernance env rule) := by
  unfold validateFeeAgainstGovernance
  infer_instance

instance slotless_readEffectiveFallbackRule :
    Slotless slots (readEffectiveFallbackRule env) := by
  refine .read (fun state => ?_) fun _ _ => rfl
  cases state.defaultRule with
  | some rule => exact Tx.Blind.pure
  | none =>
      refine .andThen inferInstance fun rule => ?_
      cases rule <;> infer_instance

instance slotless_readFallbackRule : Slotless slots (readFallbackRule env) := by
  unfold readFallbackRule
  infer_instance

instance slotless_readEffectiveRuleNoBump {merchant : Address} :
    Slotless slots (readEffectiveRuleNoBump env merchant) := by
  refine .read (fun state => ?_) fun _ _ => rfl
  cases state.rule merchant <;> infer_instance

instance slotless_readRuleOrDefaultNoBump {merchant : Address} :
    Slotless slots (readRuleOrDefaultNoBump env merchant) := by
  unfold readRuleOrDefaultNoBump
  infer_instance

instance slotless_bumpRule {merchant : Address} :
    Slotless slots (bumpRule env merchant) :=
  .read (fun _ => inferInstance) fun _ _ => rfl

instance slotless_readRuleOrDefault {merchant : Address} :
    Slotless slots (readRuleOrDefault env merchant) := by
  unfold readRuleOrDefault
  infer_instance

/-! Merchants and rules. -/

instance slotless_rejectAdminMerchant {merchant : Address} :
    Slotless slots (rejectAdminMerchant merchant) := by
  unfold rejectAdminMerchant
  infer_instance

instance slotless_addMerchant {actor merchant : Address} :
    Slotless slots (addMerchant env actor merchant) :=
  .read (fun _ => .andThen inferInstance fun _ =>
    .andThen inferInstance fun _ => .andThen inferInstance fun _ =>
    .andThen (.write fun live _ => ⟨live, rfl⟩) fun _ => inferInstance)
    fun _ _ => rfl

instance slotless_clearMerchantRule {actor merchant : Address} :
    Slotless slots (clearMerchantRule env actor merchant) := by
  refine .read (fun state => ?_) fun _ _ => rfl
  cases state.rule merchant <;> infer_instance

instance slotless_removeMerchant {actor merchant : Address} :
    Slotless slots (removeMerchant env actor merchant) :=
  .read (fun _ => .andThen inferInstance fun _ =>
    .andThen (.write fun live _ => ⟨live, rfl⟩) fun _ => inferInstance)
    fun _ _ => rfl

instance slotless_registerMerchant {signers : List Address}
    {merchant : Address} :
    Slotless slots (registerMerchant env signers merchant) :=
  .andThen inferInstance fun _ => .andThen inferInstance fun _ =>
    .andThen inferInstance fun _ => inferInstance

instance slotless_unregisterMerchant {signers : List Address}
    {merchant : Address} :
    Slotless slots (unregisterMerchant env signers merchant) := by
  unfold unregisterMerchant
  infer_instance

instance slotless_isMerchantRegistered {merchant : Address} :
    Slotless slots (isMerchantRegistered merchant) :=
  .read (fun _ => inferInstance) fun _ _ => rfl

instance slotless_validateRuleBounds {rule : SettlementRule} :
    Slotless slots (validateRuleBounds rule) := by
  unfold validateRuleBounds
  infer_instance

instance slotless_validateRuleBoundsTrapping {rule : SettlementRule} :
    Slotless slots (validateRuleBoundsTrapping rule) := by
  unfold validateRuleBoundsTrapping
  infer_instance

instance slotless_previousRule {merchant : Address} :
    Slotless slots (previousRule env merchant) := by
  refine .read (fun state => ?_) fun _ _ => rfl
  cases state.rule merchant <;> infer_instance

instance slotless_storeRule {actor merchant : Address}
    {rule : SettlementRule} :
    Slotless slots (storeRule env actor merchant rule) := by
  unfold storeRule
  infer_instance

instance slotless_storeDefaultRule {actor : Address}
    {newRule : SettlementRule} :
    Slotless slots (storeDefaultRule actor newRule) :=
  .read (fun _ => .andThen (.write fun live _ => ⟨live, rfl⟩)
    fun _ => inferInstance) fun _ _ => rfl

instance slotless_assertMerchantRegistered {merchant : Address} :
    Slotless slots (assertMerchantRegistered env merchant) := by
  unfold assertMerchantRegistered
  infer_instance

instance slotless_setSettlementRule {signers : List Address}
    {merchant : Address} {rule : SettlementRule} :
    Slotless slots (setSettlementRule env signers merchant rule) :=
  .andThen inferInstance fun _ => .andThen inferInstance fun _ =>
    .andThen inferInstance fun _ => inferInstance

instance slotless_setDefaultRule {signers : List Address}
    {newRule : SettlementRule} :
    Slotless slots (setDefaultRule env signers newRule) := by
  unfold setDefaultRule
  infer_instance

instance slotless_getSettlementRule {merchant : Address} :
    Slotless slots (getSettlementRule env merchant) :=
  .andThen inferInstance fun _ =>
    .read (fun _ => inferInstance) fun _ _ => rfl

instance slotless_clearSettlementRule {signers : List Address}
    {merchant : Address} :
    Slotless slots (clearSettlementRule env signers merchant) :=
  .andThen inferInstance fun _ => .andThen inferInstance fun _ =>
    .read (fun _ => inferInstance) fun _ _ => rfl

instance slotless_timelockedClearSettlementRule
    {executor merchant : Address} :
    Slotless slots (Timelocked.clearSettlementRule env executor merchant) :=
  .andThen inferInstance fun _ =>
    .read (fun _ => inferInstance) fun _ _ => rfl

/-! Payments. -/

instance slotless_assertReadAuthorized {merchant : Address}
    {signers : List Address} :
    Slotless slots (assertReadAuthorized env merchant signers) := by
  unfold assertReadAuthorized
  infer_instance

instance slotless_emitBootstrapFallback {rule : SettlementRule} :
    Slotless slots (emitBootstrapFallback rule) := by
  unfold emitBootstrapFallback
  infer_instance

instance slotless_storePaymentReference {merchant : Address}
    {reference : BytesN 32} {amount : I128} :
    Slotless slots (storePaymentReference env merchant reference amount) :=
  .andThen inferInstance fun _ => .andThen inferInstance fun _ =>
    .andThen inferInstance fun _ => .andThen inferInstance fun _ =>
    .andThen inferInstance fun _ =>
    .read (fun _ => .andThen inferInstance fun _ =>
      .andThen inferInstance fun _ => .andThen inferInstance fun _ =>
      .andThen inferInstance fun _ => inferInstance) fun _ _ => rfl

instance slotless_calculateFeeSplit {merchant : Address} {amount : I128} :
    Slotless slots (calculateFeeSplit env merchant amount) :=
  .andThen inferInstance fun _ => .andThen inferInstance fun _ =>
    .read (fun _ => inferInstance) fun _ _ => rfl

instance slotless_pruneStored {merchant : Address}
    {reference : BytesN 32} :
    Slotless slots (pruneStored env merchant reference) := by
  unfold pruneStored
  infer_instance

instance slotless_prunePayment {signers : List Address} {merchant : Address}
    {reference : BytesN 32} :
    Slotless slots (prunePayment env signers merchant reference) :=
  .andThen inferInstance fun _ => .andThen inferInstance fun _ =>
    .read (fun _ => inferInstance) fun _ _ => rfl

instance slotless_pruneEach {merchant : Address} {refs : List (BytesN 32)}
    {removed : Nat} : Slotless slots (pruneEach merchant refs removed) := by
  induction refs generalizing removed with
  | nil => exact Tx.Blind.pure
  | cons reference rest induction =>
      exact .read (fun _ => inferInstance) fun _ _ => rfl

instance slotless_prunePayments {signers : List Address}
    {merchant : Address} {refs : List (BytesN 32)} :
    Slotless slots (prunePayments env signers merchant refs) := by
  unfold prunePayments
  infer_instance

instance slotless_bumpPayment {merchant : Address} {reference : BytesN 32}
    {record : Option PaymentRecord} :
    Slotless slots (bumpPayment env merchant reference record) := by
  unfold bumpPayment
  infer_instance

instance slotless_getPaymentReference {merchant : Address}
    {reference : BytesN 32} {signers : List Address} :
    Slotless slots (getPaymentReference env merchant reference signers) :=
  .andThen inferInstance fun _ => .andThen inferInstance fun _ =>
    .read (fun _ => inferInstance) fun _ _ => rfl

instance slotless_getEachPayment {merchant : Address}
    {refs : List (BytesN 32)} :
    Slotless slots (getEachPayment env merchant refs) := by
  induction refs with
  | nil => exact Tx.Blind.pure
  | cons reference rest induction =>
      exact .read (fun _ => inferInstance) fun _ _ => rfl

instance slotless_nextCursor {cursor : UInt32} {refs : List (BytesN 32)} :
    Slotless slots (nextCursor cursor refs) := by
  unfold nextCursor
  infer_instance

instance slotless_getPayments {merchant : Address}
    {refs : List (BytesN 32)} {cursor : UInt32} {signers : List Address} :
    Slotless slots (getPayments env merchant refs cursor signers) := by
  unfold getPayments
  infer_instance

instance slotless_getPaymentCount {merchant : Address}
    {signers : List Address} :
    Slotless slots (getPaymentCount env merchant signers) :=
  .andThen inferInstance fun _ => .andThen inferInstance fun _ =>
    .read (fun _ => inferInstance) fun _ _ => rfl

/-! Administration and the timelock. -/

instance slotless_setSchemaVersion {version : UInt32} :
    Slotless slots (setSchemaVersion version) :=
  .write fun live _ => ⟨live, rfl⟩

instance slotless_migrateStep {version : UInt32} :
    Slotless slots (migrateStep version) :=
  Tx.Blind.pure

instance slotless_runMigrations : Slotless slots runMigrations := by
  unfold runMigrations
  infer_instance

instance slotless_init {deployer governance recoveryAddress : Address}
    {admins : List Address} {threshold : UInt32} :
    Slotless slots (init env deployer admins threshold governance
      recoveryAddress) :=
  .read (fun _ => .andThen inferInstance fun _ =>
    .andThen inferInstance fun _ => .andThen inferInstance fun _ =>
    .andThen inferInstance fun _ =>
    .andThen (.write fun live _ => ⟨live, rfl⟩) fun _ =>
    .andThen inferInstance fun _ => .andThen inferInstance fun _ =>
    .andThen inferInstance fun _ =>
    .andThen (.write fun live _ => ⟨live, rfl⟩) fun _ =>
    .andThen inferInstance fun _ => .write fun live _ => ⟨live, rfl⟩)
    fun _ _ => rfl

instance slotless_storeGovernance {actor newGovernance : Address} :
    Slotless slots (storeGovernance actor newGovernance) :=
  .andThen (.write fun live _ => ⟨live, rfl⟩) fun _ => inferInstance

instance slotless_updateGovernance {signers : List Address}
    {newGovernance : Address} :
    Slotless slots (updateGovernance env signers newGovernance) := by
  unfold updateGovernance
  infer_instance

instance slotless_initiateRecovery {newAdmin : Address} :
    Slotless slots (initiateRecovery env newAdmin) :=
  .andThen inferInstance fun _ => .andThen inferInstance fun _ =>
    .andThen inferInstance fun _ =>
    .read (fun _ => .andThen inferInstance fun _ =>
      .andThen inferInstance fun _ =>
      .andThen (.write fun live _ => ⟨live, rfl⟩) fun _ => inferInstance)
      fun _ _ => rfl

instance slotless_removePendingRecovery {canceller : Address} :
    Slotless slots (removePendingRecovery canceller) :=
  .andThen (.write fun live _ => ⟨live, rfl⟩) fun _ => inferInstance

instance slotless_authorizeCancellation {pending : PendingRecovery}
    {signers : List Address} :
    Slotless slots (authorizeCancellation env pending signers) := by
  unfold authorizeCancellation
  infer_instance

instance slotless_cancelRecovery {signers : List Address} :
    Slotless slots (cancelRecovery env signers) := by
  unfold cancelRecovery
  infer_instance

instance slotless_updateRecoveryAddress {signers : List Address}
    {newRecovery : Address} :
    Slotless slots (updateRecoveryAddress env signers newRecovery) :=
  .andThen inferInstance fun _ => .andThen inferInstance fun _ =>
    .andThen inferInstance fun _ =>
    .andThen (.write fun live _ => ⟨live, rfl⟩) fun _ => inferInstance

instance slotless_executeRecovery : Slotless slots (executeRecovery env) :=
  .andThen inferInstance fun _ => .andThen inferInstance fun _ =>
    .andThen inferInstance fun _ => .andThen inferInstance fun _ =>
    .andThen (.write fun live _ => ⟨live, rfl⟩) fun _ => inferInstance

instance slotless_rejectMerchantAdmins {admins : List Address} :
    Slotless slots (rejectMerchantAdmins admins) := by
  induction admins with
  | nil => exact Tx.Blind.pure
  | cons admin rest induction =>
      unfold rejectMerchantAdmins
      infer_instance

instance slotless_transferAdmin {signers newAdmins : List Address}
    {newThreshold : UInt32} :
    Slotless slots (transferAdmin env signers newAdmins newThreshold) :=
  .andThen inferInstance fun _ => .andThen inferInstance fun _ =>
    .andThen inferInstance fun _ => .andThen inferInstance fun _ =>
    inferInstance

instance slotless_changeThreshold {signers : List Address}
    {newThreshold : UInt32} :
    Slotless slots (changeThreshold env signers newThreshold) :=
  .andThen inferInstance fun _ => .andThen inferInstance fun _ =>
    .andThen inferInstance fun _ => .andThen inferInstance fun _ =>
    .andThen inferInstance fun _ => .andThen inferInstance fun _ =>
    .andThen (.write fun live _ => ⟨live, rfl⟩) fun _ => inferInstance

instance slotless_swapWasm {actor : Address} {newWasmHash : BytesN 32} :
    Slotless slots (swapWasm actor newWasmHash) :=
  .andThen inferInstance fun _ => .write fun live _ => ⟨live, rfl⟩

instance slotless_upgrade {signers : List Address}
    {newWasmHash : BytesN 32} :
    Slotless slots (upgrade env signers newWasmHash) := by
  unfold upgrade
  infer_instance

instance slotless_pause {signers : List Address} {reason : UInt32} :
    Slotless slots (pause env signers reason) :=
  .andThen inferInstance fun _ =>
    .read (fun _ => .andThen inferInstance fun _ =>
      .andThen inferInstance fun _ => .andThen inferInstance fun _ =>
      .andThen (.write fun live _ => ⟨live, rfl⟩) fun _ => inferInstance)
      fun _ _ => rfl

instance slotless_unpause {signers : List Address} :
    Slotless slots (unpause env signers) :=
  .andThen inferInstance fun _ =>
    .read (fun _ => .andThen inferInstance fun _ =>
      .andThen inferInstance fun _ =>
      .andThen (.write fun live _ => ⟨live, rfl⟩) fun _ => inferInstance)
      fun _ _ => rfl

instance slotless_migrate {signers : List Address} :
    Slotless slots (migrate env signers) := by
  unfold migrate
  infer_instance

instance slotless_validateOperationBounds {operation : Operation} :
    Slotless slots (validateOperationBounds operation) := by
  unfold validateOperationBounds
  split <;> infer_instance

instance slotless_rejectOccupied {operationXdr : Bytes}
    {occupant : Option ScheduledOp} :
    Slotless slots (rejectOccupied operationXdr occupant) := by
  cases occupant with
  | none => exact Tx.Blind.pure
  | some existing =>
      unfold rejectOccupied
      infer_instance

instance slotless_timelockedCancelRecovery {executor : Address} :
    Slotless slots (Timelocked.cancelRecovery executor) :=
  .read (fun _ => inferInstance) fun _ _ => rfl

instance slotless_dispatch {executor : Address} {operation : Operation} :
    Slotless slots (dispatch env executor operation) := by
  cases operation with
  | cancelRecovery => exact slotless_timelockedCancelRecovery
  | clearSettlementRule => exact slotless_timelockedClearSettlementRule
  | _ =>
      simp only [dispatch, Timelocked.updateGovernance,
        Timelocked.transferAdmin, Timelocked.upgrade,
        Timelocked.registerMerchant, Timelocked.unregisterMerchant,
        Timelocked.setSettlementRule, Timelocked.setDefaultRule]
      infer_instance

/-! The entry points. -/

/-- The calls that look at the queue. -/
def Call.seesQueue : Call → Bool
  | .dryRun _ => true
  | call => call.touchesQueue

theorem slotless_invoke {call : Call} (unseen : call.seesQueue = false) :
    Slotless slots (invoke codec env call) := by
  cases call
  case schedule | execute | cancel | cancelAll | dryRun => cases unseen
  case isInitialized | isPaused | getPendingOperationCount |
      getDefaultRule | getSettlementRuleNoBump =>
    exact .andThen (.read (fun _ => inferInstance) fun _ _ => rfl)
      fun _ => inferInstance
  all_goals
    simp only [invoke, supportsInterface, version, getCapabilities,
      getAdmin, getThreshold, getGovernance, getRecoveryAddress,
      getEffectiveRule, getRuleProvenance]
    infer_instance

end BettaPay.Settlement
