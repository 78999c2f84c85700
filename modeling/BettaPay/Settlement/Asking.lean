import BettaPay.Settlement.Resolution

namespace BettaPay.Settlement

open BettaPay.Host
open BettaPay.Common

/-! Governance may change its mind within a call. A setter of a merchant rule
asks for the fee configuration at the ceiling check, and again where it
resolves the rule it replaces; no other call asks more than once. -/

/-- The same call when governance is asked once more. -/
def Env.asked (env : Env) (again : Address → GovernanceView) : Env :=
  { env with governance := again }

/-- Where an operation resolves a rule. -/
def Operation.resolver (env : Env) (again : Address → GovernanceView) :
    Operation → Env
  | .setSettlementRule _ _ => env.asked again
  | _ => env

def Call.resolver (env : Env) (again : Address → GovernanceView)
    (call : Call) : Env :=
  match call.operation with
  | some operation => operation.resolver env again
  | none => env

namespace Asked

/-! The setters, with an answer of its own to each ask. -/

def setSettlementRule (env : Env) (again : Address → GovernanceView)
    (signers : List Address) (merchant : Address) (rule : SettlementRule) :
    Contract Unit := do
  assertAdminAndNotPaused env signers
  let admin ← unwrapFirst signers
  validateNonzeroAddress merchant .zeroAddress
  assertMerchantRegistered env merchant
  validateRuleBounds rule
  validateFeeAgainstGovernance env rule
  storeRule (env.asked again) admin merchant rule

def Timelocked.setSettlementRule (env : Env)
    (again : Address → GovernanceView) (executor merchant : Address)
    (rule : SettlementRule) : Contract Unit := do
  assertNotPaused
  validateFeeAgainstGovernance env rule
  assertMerchantRegistered env merchant
  validateRuleBoundsTrapping rule
  storeRule (env.asked again) executor merchant rule

def dispatch (env : Env) (again : Address → GovernanceView)
    (executor : Address) : Operation → Contract Unit
  | .setSettlementRule merchant rule =>
      Timelocked.setSettlementRule env again executor merchant rule
  | operation => Settlement.dispatch env executor operation

def execute (codec : Codec) (env : Env) (again : Address → GovernanceView)
    (executor : Address) (operation : Operation) : Contract Unit := do
  let opHash ← validateScheduledExecution codec env operation
  consumeScheduledOperation opHash
  dispatch env again executor operation
  emit (.opExecuted opHash)

def invoke (codec : Codec) (env : Env) (again : Address → GovernanceView) :
    Call → Contract Reply
  | .execute executor operation =>
      replying (fun _ => .unit) (execute codec env again executor operation)
  | .setSettlementRule signers merchant rule =>
      replying (fun _ => .unit)
        (setSettlementRule env again signers merchant rule)
  | call => Settlement.invoke codec env call

/-- A call together with what governance answers when asked once more. -/
structure Input extends Settlement.Input where
  again : Address → GovernanceView

/-- Where the call resolves a rule. -/
def Input.resolver (input : Input) : Env :=
  input.call.resolver input.env input.again

def step (codec : Codec) (input : Input) : Contract Reply :=
  invoke codec input.env input.again input.call

/-- A fresh contract just before the call at `index`. -/
abbrev stateBefore (codec : Codec) (inputs : List Input) (index : Nat) :
    State :=
  stateAt (step codec) State.initial inputs index

/-- The call at `index` commits. -/
abbrev Commits (codec : Codec) (inputs : List Input) (index : Nat)
    (input : Input) : Prop :=
  ∃ reply, Succeeds (step codec) State.initial inputs index input reply

/-- Governance keeps to one answer throughout the call. -/
def steady (input : Settlement.Input) : Input :=
  ⟨input, input.env.governance⟩

theorem invoke_steady (codec : Codec) (env : Env) (call : Call) :
    invoke codec env env.governance call =
      Settlement.invoke codec env call := by
  cases call with
  | execute executor operation => cases operation <;> rfl
  | _ => rfl

/-- A plain run is one of steady answers. -/
theorem stateBefore_steady (codec : Codec) (inputs : List Settlement.Input)
    (index : Nat) :
    stateBefore codec (inputs.map steady) index =
      Settlement.stateBefore codec inputs index := by
  apply stateAt_map
  intro input
  exact invoke_steady codec input.env input.call

/-! What a call does, told in terms of where it resolves. -/

section Calls

variable {codec : Codec} {env : Env} {again : Address → GovernanceView}
  {before after : State}

theorem resolver_toLedger (call : Call) :
    (call.resolver env again).toLedger = env.toLedger := by
  unfold Call.resolver Operation.resolver
  split
  · split <;> rfl
  · rfl

theorem setSettlementRule_stored {signers : List Address}
    {merchant : Address} {rule : SettlementRule} {result : Unit}
    (succeeded : setSettlementRule env again signers merchant rule before =
      .ok (result, after)) :
    Effect codec (env.asked again) before
        (.setSettlementRule signers merchant rule) after ∧
      after.cachedGovRule =
        before.effectiveCache (env.asked again) merchant := by
  simp only [setSettlementRule, Tx.bind_ok, assertAdminAndNotPaused_ok,
    unwrapFirst_ok, validateNonzeroAddress_ok] at succeeded
  obtain ⟨_, _, ⟨⟨unpaused, quorum⟩, rfl⟩, admin, _, ⟨_, rfl⟩, _, _,
    ⟨_, rfl⟩, _, _, looked, _, _, checked, _, _, capped, stored⟩ := succeeded
  obtain ⟨registered, live, rfl⟩ := assertMerchantRegistered_ok looked
  obtain ⟨bounded, rfl⟩ := validateRuleBounds_ok checked
  obtain rfl := validateFeeAgainstGovernance_ok capped
  have kept := storeRule_cache stored
  exact ⟨administer_effect rfl quorum (.inl unpaused)
    (storeRule_applied registered bounded stored), kept⟩

theorem Timelocked.setSettlementRule_stored {executor merchant : Address}
    {rule : SettlementRule} {result : Unit}
    (succeeded : Timelocked.setSettlementRule env again executor merchant
      rule before = .ok (result, after)) :
    Applied (env.asked again) before executor
        (.setSettlementRule merchant rule) after ∧
      after.cachedGovRule =
        before.effectiveCache (env.asked again) merchant := by
  simp only [Timelocked.setSettlementRule, Tx.bind_ok, assertNotPaused_ok]
    at succeeded
  obtain ⟨_, _, ⟨_, rfl⟩, _, _, capped, _, _, looked, _, _, checked,
    stored⟩ := succeeded
  obtain rfl := validateFeeAgainstGovernance_ok capped
  obtain ⟨registered, live, rfl⟩ := assertMerchantRegistered_ok looked
  obtain ⟨bounded, rfl⟩ := validateRuleBoundsTrapping_ok checked
  have kept := storeRule_cache stored
  exact ⟨storeRule_applied registered bounded stored, kept⟩

theorem dispatch_applied {executor : Address} {operation : Operation}
    {result : Unit}
    (succeeded : dispatch env again executor operation before =
      .ok (result, after)) :
    Applied (operation.resolver env again) before executor operation after ∧
      after.cachedGovRule =
        operation.cacheAfter (operation.resolver env again) before := by
  cases operation with
  | setSettlementRule merchant rule =>
      exact Timelocked.setSettlementRule_stored succeeded
  | _ =>
      exact ⟨Settlement.dispatch_applied succeeded,
        @dispatch_cache env executor _ before after result succeeded⟩

theorem execute_effect {executor : Address} {operation : Operation}
    {result : Unit}
    (succeeded : execute codec env again executor operation before =
      .ok (result, after)) :
    Effect codec (operation.resolver env again) before
        (.execute executor operation) after ∧
      after.cachedGovRule =
        operation.cacheAfter (operation.resolver env again) before := by
  simp only [execute, Tx.bind_ok, consumeScheduledOperation_ok, emit_ok]
    at succeeded
  obtain ⟨opHash, _, validated, _, _, rfl, _, middle, dispatched, rfl⟩ :=
    succeeded
  obtain ⟨slot, queued, unpaused, matured, unvetoed, rfl, rfl⟩ :=
    validateScheduledExecution_ok validated
  obtain ⟨applied, cache⟩ := dispatch_applied dispatched
  have ledger : (operation.resolver env again).toLedger = env.toLedger :=
    @resolver_toLedger env again (.execute executor operation)
  constructor
  · refine .execute queued unpaused ?_ unvetoed applied
    rwa [ledger]
  · rw [State.soft_cachedGovRule, cache]
    cases operation <;> rfl

/-- A call has the effect, and leaves the cache, of the plain call made where
it resolves. -/
theorem invoke_effect {call : Call} {reply : Reply}
    (succeeded : invoke codec env again call before = .ok (reply, after)) :
    Effect codec (call.resolver env again) before call after ∧
      after.cachedGovRule =
        call.cacheAfter (call.resolver env again) before := by
  cases call with
  | execute executor operation =>
      obtain ⟨_, ran, _⟩ := replying_ok.mp succeeded
      exact execute_effect ran
  | setSettlementRule signers merchant rule =>
      obtain ⟨_, ran, _⟩ := replying_ok.mp succeeded
      exact setSettlementRule_stored ran
  | _ =>
      exact ⟨Settlement.invoke_effect succeeded,
        @invoke_cache codec env _ before after reply succeeded⟩

theorem step_effect {input : Input} {reply : Reply}
    (succeeded : step codec input before = .ok (reply, after)) :
    Effect codec input.resolver before input.call after :=
  (invoke_effect succeeded).1

theorem step_cache {input : Input} {reply : Reply}
    (succeeded : step codec input before = .ok (reply, after)) :
    after.cachedGovRule = input.call.cacheAfter input.resolver before :=
  (invoke_effect succeeded).2

end Calls

end Asked

end BettaPay.Settlement
