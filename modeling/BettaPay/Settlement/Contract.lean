import BettaPay.Settlement.Admin
import BettaPay.Settlement.Payments

namespace BettaPay.Settlement

open BettaPay.Host
open BettaPay.Common

/-- The entry points with their arguments. -/
inductive Call where
  | init (deployer : Address) (admins : List Address) (threshold : UInt32)
      (governance recoveryAddress : Address)
  | updateGovernance (signers : List Address) (newGovernance : Address)
  | initiateRecovery (newAdmin : Address)
  | cancelRecovery (signers : List Address)
  | updateRecoveryAddress (signers : List Address) (newRecovery : Address)
  | executeRecovery
  | transferAdmin (signers newAdmins : List Address) (newThreshold : UInt32)
  | changeThreshold (signers : List Address) (newThreshold : UInt32)
  | upgrade (signers : List Address) (newWasmHash : BytesN 32)
  | pause (signers : List Address) (reason : UInt32)
  | unpause (signers : List Address)
  | migrate (signers : List Address)
  | schedule (signers : List Address) (operation : Operation)
      (executeIn : UInt64)
  | execute (executor : Address) (operation : Operation)
  | cancel (signers : List Address) (operation : Operation)
  | cancelAll (signers : List Address) (operations : List Operation)
  | registerMerchant (signers : List Address) (merchant : Address)
  | unregisterMerchant (signers : List Address) (merchant : Address)
  | setSettlementRule (signers : List Address) (merchant : Address)
      (rule : SettlementRule)
  | clearSettlementRule (signers : List Address) (merchant : Address)
  | setDefaultRule (signers : List Address) (newRule : SettlementRule)
  | storePaymentReference (merchant : Address) (reference : BytesN 32)
      (amount : I128)
  | prunePayment (signers : List Address) (merchant : Address)
      (reference : BytesN 32)
  | prunePayments (signers : List Address) (merchant : Address)
      (refs : List (BytesN 32))
  | getPaymentReference (merchant : Address) (reference : BytesN 32)
      (signers : List Address)
  | getPayments (merchant : Address) (refs : List (BytesN 32))
      (cursor : UInt32) (signers : List Address)
  | getPaymentCount (merchant : Address) (signers : List Address)
  | calculateFeeSplit (merchant : Address) (amount : I128)
  | dryRun (operation : Operation)
  | supportsInterface (version : UInt32)
  | version
  | getCapabilities
  | isInitialized
  | getAdmin
  | getThreshold
  | getGovernance
  | getRecoveryAddress
  | isPaused
  | getPendingOperationCount
  | isMerchantRegistered (merchant : Address)
  | getDefaultRule
  | getSettlementRule (merchant : Address)
  | getSettlementRuleNoBump (merchant : Address)
  | getEffectiveRule (merchant : Address)
  | getRuleProvenance (merchant : Address)
  deriving DecidableEq, Repr

/-- Returned values. -/
inductive Reply where
  | unit
  | bool (value : Bool)
  | u32 (value : UInt32)
  | address (value : Address)
  | addresses (value : List Address)
  | flags (value : List (Symbol × Bool))
  | split (value : FeeSplit)
  | record (value : Option PaymentRecord)
  | page (value : PaymentsPage)
  | rule (value : SettlementRule)
  | optionalRule (value : Option SettlementRule)
  | effective (value : EffectiveRule)
  deriving DecidableEq, Repr

/-- One call of the contract. -/
def invoke (codec : Codec) (env : Env) : Call → Contract Reply
  | .init deployer admins threshold governance recoveryAddress =>
      replying (fun _ => .unit)
        (init env deployer admins threshold governance recoveryAddress)
  | .updateGovernance signers newGovernance =>
      replying (fun _ => .unit) (updateGovernance env signers newGovernance)
  | .initiateRecovery newAdmin =>
      replying (fun _ => .unit) (initiateRecovery env newAdmin)
  | .cancelRecovery signers =>
      replying (fun _ => .unit) (cancelRecovery env signers)
  | .updateRecoveryAddress signers newRecovery =>
      replying (fun _ => .unit)
        (updateRecoveryAddress env signers newRecovery)
  | .executeRecovery => replying (fun _ => .unit) (executeRecovery env)
  | .transferAdmin signers newAdmins newThreshold =>
      replying (fun _ => .unit)
        (transferAdmin env signers newAdmins newThreshold)
  | .changeThreshold signers newThreshold =>
      replying (fun _ => .unit) (changeThreshold env signers newThreshold)
  | .upgrade signers newWasmHash =>
      replying (fun _ => .unit) (upgrade env signers newWasmHash)
  | .pause signers reason =>
      replying (fun _ => .unit) (pause env signers reason)
  | .unpause signers => replying (fun _ => .unit) (unpause env signers)
  | .migrate signers => replying (fun _ => .unit) (migrate env signers)
  | .schedule signers operation executeIn =>
      replying (fun _ => .unit)
        (schedule codec env signers operation executeIn)
  | .execute executor operation =>
      replying (fun _ => .unit) (execute codec env executor operation)
  | .cancel signers operation =>
      replying (fun _ => .unit) (cancel codec env signers operation)
  | .cancelAll signers operations =>
      replying .u32 (cancelAll codec env signers operations)
  | .registerMerchant signers merchant =>
      replying (fun _ => .unit) (registerMerchant env signers merchant)
  | .unregisterMerchant signers merchant =>
      replying (fun _ => .unit) (unregisterMerchant env signers merchant)
  | .setSettlementRule signers merchant rule =>
      replying (fun _ => .unit) (setSettlementRule env signers merchant rule)
  | .clearSettlementRule signers merchant =>
      replying (fun _ => .unit) (clearSettlementRule env signers merchant)
  | .setDefaultRule signers newRule =>
      replying (fun _ => .unit) (setDefaultRule env signers newRule)
  | .storePaymentReference merchant reference amount =>
      replying .split (storePaymentReference env merchant reference amount)
  | .prunePayment signers merchant reference =>
      replying (fun _ => .unit) (prunePayment env signers merchant reference)
  | .prunePayments signers merchant refs =>
      replying .u32 (prunePayments env signers merchant refs)
  | .getPaymentReference merchant reference signers =>
      replying .record (getPaymentReference env merchant reference signers)
  | .getPayments merchant refs cursor signers =>
      replying .page (getPayments env merchant refs cursor signers)
  | .getPaymentCount merchant signers =>
      replying .u32 (getPaymentCount env merchant signers)
  | .calculateFeeSplit merchant amount =>
      replying .split (calculateFeeSplit env merchant amount)
  | .dryRun operation =>
      replying (fun _ => .unit) (dryRun codec env operation)
  | .supportsInterface version => replying .bool (supportsInterface version)
  | .version => replying .u32 version
  | .getCapabilities => replying .flags getCapabilities
  | .isInitialized => replying .bool isInitialized
  | .getAdmin => replying .addresses getAdmin
  | .getThreshold => replying .u32 getThreshold
  | .getGovernance => replying .address getGovernance
  | .getRecoveryAddress => replying .address getRecoveryAddress
  | .isPaused => replying .bool getIsPaused
  | .getPendingOperationCount => replying .u32 getPendingOperationCount
  | .isMerchantRegistered merchant =>
      replying .bool (isMerchantRegistered merchant)
  | .getDefaultRule => replying .optionalRule getDefaultRule
  | .getSettlementRule merchant =>
      replying .optionalRule (getSettlementRule env merchant)
  | .getSettlementRuleNoBump merchant =>
      replying .optionalRule (getSettlementRuleNoBump merchant)
  | .getEffectiveRule merchant =>
      replying .rule (getEffectiveRule env merchant)
  | .getRuleProvenance merchant =>
      replying .effective (getRuleProvenance env merchant)

/-- A call together with what the host supplies to it. -/
structure Input where
  env : Env
  call : Call

def step (codec : Codec) (input : Input) : Contract Reply :=
  invoke codec input.env input.call

/-- A fresh contract just before the call at `index`. -/
abbrev stateBefore (codec : Codec) (inputs : List Input) (index : Nat) :
    State :=
  stateAt (step codec) State.initial inputs index

/-- The call at `index` commits. -/
abbrev Commits (codec : Codec) (inputs : List Input) (index : Nat)
    (env : Env) (call : Call) : Prop :=
  ∃ reply, Succeeds (step codec) State.initial inputs index ⟨env, call⟩ reply

theorem Commits.unique {codec : Codec} {inputs : List Input} {index : Nat}
    {env env' : Env} {call call' : Call}
    (committed : Commits codec inputs index env call)
    (committed' : Commits codec inputs index env' call') :
    env = env' ∧ call = call' := by
  obtain ⟨_, here, _⟩ := committed
  obtain ⟨_, here', _⟩ := committed'
  cases here.symm.trans here'
  exact ⟨rfl, rfl⟩

theorem stateBefore_succ_of_idle {codec : Codec} {inputs : List Input}
    {index : Nat}
    (idle : ∀ env call, ¬ Commits codec inputs index env call) :
    stateBefore codec inputs (index + 1) =
      stateBefore codec inputs index := by
  apply stateAt_succ_of_idle
  intro input reply succeeded
  exact idle input.env input.call ⟨reply, succeeded⟩

/-- What a position leaves behind, told from the call that commits there. -/
theorem iff_forall_commits {codec : Codec} {inputs : List Input}
    {index : Nat} {next : Prop} {good : Env → Call → Prop}
    (stepped : ∀ env call, Commits codec inputs index env call →
      (next ↔ good env call))
    (idle : (∀ env call, ¬ Commits codec inputs index env call) → next) :
    next ↔ ∀ env call, Commits codec inputs index env call →
      good env call := by
  have told := @iff_forall_succeeds _ _ _ _ (step codec) State.initial inputs
    index next (fun input => good input.env input.call)
    (fun input committed => stepped input.env input.call committed)
    (fun fails => idle fun _ _ ⟨reply, committed⟩ => fails _ reply committed)
  rw [told]
  constructor
  · intro good env call committed
    exact good ⟨env, call⟩ committed
  · intro good input committed
    exact good input.env input.call committed

theorem commits_of_accepted {codec : Codec} {inputs : List Input}
    {index : Nat} {env : Env} {call : Call}
    (here : inputs[index]? = some ⟨env, call⟩)
    (accepted : (invoke codec env call
      (stateBefore codec inputs index)).isOk = true) :
    Commits codec inputs index env call :=
  succeeds_of_isOk here accepted

/-- A call on a granting ledger whose governance contract has nothing
configured. -/
def Env.granting (timestamp : UInt64) : Env where
  toLedger := Ledger.granting timestamp
  governance := fun _ => ⟨fun _ => .value .void, .value .void⟩

/-- The same when nobody authorizes the call. -/
def Env.unsigned (timestamp : UInt64) : Env :=
  { Env.granting timestamp with auths := fun _ => false }

/-- The states of a deployed contract that some run of calls reaches. -/
def Reachable (codec : Codec) (state : State) : Prop :=
  ∃ inputs, run (step codec) State.initial inputs = state

theorem Reachable.induction {codec : Codec} (invariant : State → Prop)
    (initially : invariant State.initial)
    (preserved : ∀ {env call before reply after}, invariant before →
      invoke codec env call before = .ok (reply, after) → invariant after)
    {state : State} (reachable : Reachable codec state) :
    invariant state := by
  obtain ⟨inputs, rfl⟩ := reachable
  exact run_invariant invariant preserved initially inputs

end BettaPay.Settlement
