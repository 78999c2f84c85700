import BettaPay.Host.Alike
import BettaPay.Settlement.Named

namespace BettaPay.Settlement

open BettaPay.Host
open BettaPay.Host.Tx (readState writeState)
open BettaPay.Common

/-! The executor of a queued operation is whoever the call says. -/

/-- The event with another author. -/
def Event.attribute (actor : Address) : Event → Event
  | .governanceUpdated _ newGovernance =>
      .governanceUpdated actor newGovernance
  | .recoveryCancelled _ => .recoveryCancelled actor
  | .contractUpgraded wasmHash _ => .contractUpgraded wasmHash actor
  | .merchantRegistered merchant _ => .merchantRegistered merchant actor
  | .merchantUnregistered merchant _ => .merchantUnregistered merchant actor
  | .settlementRuleUpdated merchant _ prev rule =>
      .settlementRuleUpdated merchant actor prev rule
  | .settlementRuleCleared merchant _ removed fallback =>
      .settlementRuleCleared merchant actor removed fallback
  | .defaultRuleUpdated _ prev rule => .defaultRuleUpdated actor prev rule
  | event => event

theorem Operation.publishes_attribute (env : Env) (state : State)
    (actor other : Address) (operation : Operation) :
    (operation.publishes env state actor).map (Event.attribute other) =
      operation.publishes env state other := by
  cases operation <;>
    simp [Operation.publishes, clearanceEvents, Event.attribute,
      Function.comp_def]

/-- The states differ in the log alone. -/
def SameButLog (state state' : State) : Prop :=
  ∃ events, state' = { state with events := events }

theorem SameButLog.refl (state : State) : SameButLog state state :=
  ⟨state.events, rfl⟩

abbrev LoggedAlike {α : Type} :
    Except (Failure SettlementError) (α × State) →
    Except (Failure SettlementError) (α × State) → Prop :=
  Tx.Alike SameButLog

theorem emit_alike {event event' : Event} {state state' : State}
    (same : SameButLog state state') :
    LoggedAlike (emit event state) (emit event' state') := by
  obtain ⟨events, rfl⟩ := same
  exact .ok ⟨_, rfl⟩

section Dispatch

variable {env : Env} {actor other merchant : Address} {state : State}

theorem storeGovernance_alike {newGovernance : Address} :
    LoggedAlike (storeGovernance actor newGovernance state)
      (storeGovernance other newGovernance state) :=
  .after fun _ middle _ => emit_alike (.refl middle)

theorem removePendingRecovery_alike :
    LoggedAlike (removePendingRecovery actor state)
      (removePendingRecovery other state) :=
  .after fun _ middle _ => emit_alike (.refl middle)

theorem swapWasm_alike {wasmHash : BytesN 32} :
    LoggedAlike (swapWasm actor wasmHash state)
      (swapWasm other wasmHash state) := by
  refine .andThen (emit_alike (.refl state)) ?_
  rintro _ middle _ ⟨events, rfl⟩
  exact .ok ⟨events, rfl⟩

theorem addMerchant_alike :
    LoggedAlike (addMerchant env actor merchant state)
      (addMerchant env other merchant state) :=
  .after fun _ _ _ => .after fun _ _ _ => .after fun _ _ _ =>
    .after fun _ _ _ => .after fun _ middle _ => emit_alike (.refl middle)

theorem clearMerchantRule_alike :
    LoggedAlike (clearMerchantRule env actor merchant state)
      (clearMerchantRule env other merchant state) := by
  refine .after fun before _ _ => ?_
  cases before.rule merchant with
  | none => exact .ok (.refl _)
  | some oldRule =>
      exact .after fun _ _ _ => .after fun _ middle _ =>
        emit_alike (.refl middle)

theorem removeMerchant_alike :
    LoggedAlike (removeMerchant env actor merchant state)
      (removeMerchant env other merchant state) := by
  refine .after fun _ _ _ => .after fun _ _ _ => .after fun _ _ _ =>
    .after fun _ _ _ => .after fun _ _ _ => ?_
  exact .andThen clearMerchantRule_alike fun _ _ _ same => emit_alike same

theorem storeRule_alike {rule : SettlementRule} :
    LoggedAlike (storeRule env actor merchant rule state)
      (storeRule env other merchant rule state) :=
  .after fun _ _ _ => .after fun _ _ _ => .after fun _ middle _ =>
    emit_alike (.refl middle)

theorem storeDefaultRule_alike {rule : SettlementRule} :
    LoggedAlike (storeDefaultRule actor rule state)
      (storeDefaultRule other rule state) :=
  .after fun _ _ _ => .after fun _ middle _ => emit_alike (.refl middle)

theorem dispatch_alike (operation : Operation) :
    LoggedAlike (dispatch env actor operation state)
      (dispatch env other operation state) := by
  cases operation with
  | updateGovernance newGovernance =>
      exact .after fun _ _ _ => .after fun _ _ _ => storeGovernance_alike
  | cancelRecovery =>
      exact .after fun _ _ _ => .after fun _ _ _ =>
        removePendingRecovery_alike
  | transferAdmin newAdmins newThreshold =>
      simp only [dispatch]
      cases Timelocked.transferAdmin newAdmins newThreshold state with
      | ok outcome => exact .ok (.refl outcome.2)
      | error failure => exact .error
  | upgrade wasmHash =>
      exact .after fun _ _ _ => .after fun _ _ _ => .after fun _ _ _ =>
        .after fun _ _ _ => swapWasm_alike
  | registerMerchant merchant =>
      exact .after fun _ _ _ => .after fun _ _ _ => .after fun _ _ _ =>
        addMerchant_alike
  | unregisterMerchant merchant =>
      exact .after fun _ _ _ => removeMerchant_alike
  | setSettlementRule merchant rule =>
      exact .after fun _ _ _ => .after fun _ _ _ => .after fun _ _ _ =>
        .after fun _ _ _ => storeRule_alike
  | clearSettlementRule merchant =>
      exact .after fun _ _ _ => .after fun _ _ _ => .after fun _ _ _ =>
        .after fun _ _ _ => .after fun _ middle _ => emit_alike (.refl middle)
  | setDefaultRule rule =>
      exact .after fun _ _ _ => .after fun _ _ _ => .after fun _ _ _ =>
        storeDefaultRule_alike

end Dispatch

theorem execute_alike {codec : Codec} {env : Env} {actor other : Address}
    {operation : Operation} {state : State} :
    LoggedAlike (execute codec env actor operation state)
      (execute codec env other operation state) := by
  refine .after fun _ _ _ => .after fun _ _ _ => ?_
  exact .andThen (dispatch_alike operation) fun _ _ _ same =>
    emit_alike same

/-- An executor decides nothing but the author its events name. -/
theorem execute_attribution {codec : Codec} {env : Env}
    {actor : Address} {operation : Operation} {state after : State}
    {result : Unit} (other : Address)
    (succeeded : execute codec env actor operation state =
      .ok (result, after)) :
    ∃ published, after.events = state.events ++ published ∧
      execute codec env other operation state =
        .ok (result, { after with
          events :=
            state.events ++ published.map (Event.attribute other) }) := by
  obtain ⟨after', succeeded', events, rfl⟩ :=
    execute_alike.of_ok succeeded
  refine ⟨_, execute_publishes succeeded, ?_⟩
  have published := execute_publishes succeeded'
  simp only at published
  rw [succeeded', published, List.map_append, Operation.publishes_attribute]
  rfl

end BettaPay.Settlement
