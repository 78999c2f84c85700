import BettaPay.Settlement.Inversion
import BettaPay.Settlement.Xdr

namespace BettaPay.Settlement

open BettaPay.Host
open BettaPay.Common

/-! Who may change which entry of the storage. -/

inductive Entry where
  | admin
  | threshold
  | governance
  | recoveryAddress
  | paused
  | pendingRecovery
  | defaultRule
  | schemaVersion
  | pendingOperationCount
  | rule (merchant : Address)
  | merchant (merchant : Address)
  | archivedMerchant (merchant : Address)
  | scheduledOperation (opHash : BytesN 32)
  | payment (merchant : Address) (reference : BytesN 32)
  | paymentCount (merchant : Address)
  deriving DecidableEq, Repr

/-- The entry has the same content in both states. -/
def Entry.Same (before after : State) : Entry → Prop
  | .admin => after.admin = before.admin
  | .threshold => after.threshold = before.threshold
  | .governance => after.governance = before.governance
  | .recoveryAddress => after.recoveryAddress = before.recoveryAddress
  | .paused => after.paused = before.paused
  | .pendingRecovery => after.pendingRecovery = before.pendingRecovery
  | .defaultRule => after.defaultRule = before.defaultRule
  | .schemaVersion => after.schemaVersion = before.schemaVersion
  | .pendingOperationCount =>
      after.pendingOperationCount = before.pendingOperationCount
  | .rule owner => after.rule owner = before.rule owner
  | .merchant owner => after.merchant owner = before.merchant owner
  | .archivedMerchant owner =>
      after.archivedMerchant owner = before.archivedMerchant owner
  | .scheduledOperation opHash =>
      after.scheduledOperation opHash = before.scheduledOperation opHash
  | .payment owner reference =>
      after.payment owner reference = before.payment owner reference
  | .paymentCount owner =>
      after.paymentCount owner = before.paymentCount owner

instance (before after : State) :
    (entry : Entry) → Decidable (entry.Same before after)
  | .admin => decEq after.admin before.admin
  | .threshold => decEq after.threshold before.threshold
  | .governance => decEq after.governance before.governance
  | .recoveryAddress => decEq after.recoveryAddress before.recoveryAddress
  | .paused => decEq after.paused before.paused
  | .pendingRecovery => decEq after.pendingRecovery before.pendingRecovery
  | .defaultRule => decEq after.defaultRule before.defaultRule
  | .schemaVersion => decEq after.schemaVersion before.schemaVersion
  | .pendingOperationCount =>
      decEq after.pendingOperationCount before.pendingOperationCount
  | .rule owner => decEq (after.rule owner) (before.rule owner)
  | .merchant owner => decEq (after.merchant owner) (before.merchant owner)
  | .archivedMerchant owner =>
      decEq (after.archivedMerchant owner) (before.archivedMerchant owner)
  | .scheduledOperation opHash =>
      decEq (after.scheduledOperation opHash)
        (before.scheduledOperation opHash)
  | .payment owner reference =>
      decEq (after.payment owner reference) (before.payment owner reference)
  | .paymentCount owner =>
      decEq (after.paymentCount owner) (before.paymentCount owner)

/-- Every other entry is left as it was. -/
def Confined (before after : State) (entries : List Entry) : Prop :=
  ∀ entry, entry ∉ entries → entry.Same before after

/-- The entries an operation is about. -/
def Operation.writes : Operation → List Entry
  | .updateGovernance _ => [.governance]
  | .cancelRecovery => [.pendingRecovery]
  | .transferAdmin _ _ => [.admin, .threshold]
  | .upgrade _ => []
  | .registerMerchant merchant =>
      [.merchant merchant, .archivedMerchant merchant]
  | .unregisterMerchant merchant =>
      [.merchant merchant, .archivedMerchant merchant, .rule merchant]
  | .setSettlementRule merchant _ => [.rule merchant]
  | .clearSettlementRule merchant => [.rule merchant]
  | .setDefaultRule _ => [.defaultRule]

/-- The calls that change storage on someone's authority. -/
inductive Authorized (codec : Codec) (env : Env) (before : State) :
    Call → State → Prop where
  | quorum {call : Call} {after : State} {signers : List Address}
      (quorum : before.authority.Quorum env.toLedger signers) :
      Authorized codec env before call after
  | merchant {merchant : Address} {reference : BytesN 32} {amount : I128}
      {after : State} (authorized : env.auths merchant = true)
      (absent : before.payment merchant reference = none)
      (confined : Confined before after
        [.payment merchant reference, .paymentCount merchant]) :
      Authorized codec env before
        (.storePaymentReference merchant reference amount) after
  | queued {executor : Address} {operation : Operation}
      {slot : ScheduledOp} {after : State}
      (queued : Queued codec before operation slot)
      (matured : slot.executeAt ≤ env.timestamp)
      (confined : Confined before after
        (.scheduledOperation (codec.hash operation) ::
          .pendingOperationCount :: operation.writes)) :
      Authorized codec env before (.execute executor operation) after
  | recovery {newAdmin recovery : Address} {after : State}
      (stored : before.recoveryAddress = some recovery)
      (authorized : env.auths recovery = true)
      (absent : before.pendingRecovery = none)
      (confined : Confined before after [.pendingRecovery]) :
      Authorized codec env before (.initiateRecovery newAdmin) after
  | initiator {signers : List Address} {pending : PendingRecovery}
      {after : State} (stored : before.pendingRecovery = some pending)
      (authorized : env.auths pending.initiatedBy = true)
      (confined : Confined before after [.pendingRecovery]) :
      Authorized codec env before (.cancelRecovery signers) after

/-- The two calls that need nobody's authority of that moment: the completion
of a recovery whose delay is over, and the initialization of a fresh contract,
which its deployer and all of its first admins sign. -/
inductive Unopposed (env : Env) (before : State) : Call → State → Prop where
  | recovered {pending : PendingRecovery} {after : State}
      (stored : before.pendingRecovery = some pending)
      (matured : pending.executeAfter ≤ env.timestamp)
      (confined : Confined before after
        [.admin, .threshold, .pendingRecovery]) :
      Unopposed env before .executeRecovery after
  | initialized {deployer governance recoveryAddress : Address}
      {admins : List Address} {threshold : UInt32} {after : State}
      (uninitialized : before.admin = none)
      (deployed : env.auths deployer = true)
      (consented : ∀ admin, admin ∈ admins → env.auths admin = true)
      (confined : Confined before after
        [.admin, .threshold, .governance, .recoveryAddress,
          .schemaVersion]) :
      Unopposed env before
        (.init deployer admins threshold governance recoveryAddress) after

theorem Confined.trans {first second third : State}
    {left right : List Entry} (confined : Confined first second left)
    (confined' : Confined second third right) :
    Confined first third (left ++ right) := by
  intro entry outside
  rw [List.mem_append, not_or] at outside
  have early := confined entry outside.1
  have late := confined' entry outside.2
  cases entry <;> exact Eq.trans late early

theorem State.soft_same (state : State)
    (cache : Option (Option SettlementRule)) (live : PersistentKey → Nat)
    (events : List Event) (entry : Entry) :
    entry.Same state (state.soft cache live events) := by
  cases entry <;> rfl

theorem Confined.soft {before after : State} {entries : List Entry}
    (confined : Confined before after entries)
    {cache : Option (Option SettlementRule)} {live : PersistentKey → Nat}
    {events : List Event} :
    Confined before (after.soft cache live events) entries := by
  intro entry outside
  have same := confined entry outside
  cases entry <;> exact same

theorem State.released_confined (state : State) (opHash : BytesN 32) :
    Confined state (state.released opHash)
      [.scheduledOperation opHash, .pendingOperationCount] := by
  intro entry outside
  cases entry with
  | scheduledOperation other =>
      have different : other ≠ opHash := by
        intro same
        subst same
        exact outside (List.mem_cons_self ..)
      exact Function.update_of_ne different ..
  | pendingOperationCount => simp at outside
  | _ => rfl

theorem Applied.confined {env : Env} {state after : State}
    {actor : Address} {operation : Operation}
    (applied : Applied env state actor operation after) :
    Confined state after operation.writes := by
  intro entry outside
  cases applied <;> cases entry <;> first
    | rfl
    | exact Function.update_of_ne
        (fun same => outside (by simp [Operation.writes, same])) ..
    | simp [Operation.writes] at outside

theorem stored_confined {state : State} {merchant : Address}
    {reference : BytesN 32} {record : PaymentRecord} {count : UInt32} :
    Confined state
      { state with
        payment := Function.update state.payment merchant
          (Function.update (state.payment merchant) reference (some record))
        paymentCount :=
          Function.update state.paymentCount merchant (some count) }
      [.payment merchant reference, .paymentCount merchant] := by
  intro entry outside
  cases entry with
  | payment owner other =>
      by_cases same : owner = merchant
      · subst same
        have different : other ≠ reference := by
          intro same
          subst same
          exact outside (List.mem_cons_self ..)
        simp only [Entry.Same, Function.update_self]
        exact Function.update_of_ne different ..
      · simp only [Entry.Same, Function.update_of_ne same]
  | paymentCount owner =>
      exact Function.update_of_ne
        (fun same => outside (by simp [same])) ..
  | _ => rfl

theorem Effect.authorized {codec : Codec} {env : Env}
    {state after : State} {call : Call}
    (effect : Effect codec env state call after)
    (changed : ∃ entry : Entry, ¬ entry.Same state after) :
    Authorized codec env state call after ∨
      Unopposed env state call after := by
  cases effect with
  | init uninitialized deployed consented =>
      refine .inr (.initialized uninitialized deployed consented ?_)
      intro entry outside
      cases entry <;> first | rfl | simp at outside
  | initiateRecovery stored authorized nonzero absent =>
      refine .inl (.recovery stored authorized absent ?_)
      intro entry outside
      cases entry <;> first | rfl | simp at outside
  | cancelRecovery stored authorized =>
      rcases authorized with ⟨rfl, authorized⟩ | quorum
      · refine .inl (.initiator stored authorized ?_)
        intro entry outside
        cases entry <;> first | rfl | simp at outside
      · exact .inl (.quorum quorum)
  | executeRecovery stored matured =>
      refine .inr (.recovered stored matured ?_)
      intro entry outside
      cases entry <;> first | rfl | simp at outside
  | changeThreshold stored threshold _ _ larger authorized =>
      obtain ⟨admins, found, enough, distinct⟩ := authorized
      exact .inl (.quorum ⟨_, threshold, admins, found, by omega, distinct⟩)
  | execute queued unpaused matured unvetoed applied =>
      refine .inl (.queued queued matured ?_)
      have changes := (State.released_confined _ _).trans applied.confined
      exact changes.soft
  | storePaymentReference _ _ authorized _ _ absent =>
      exact .inl (.merchant authorized absent stored_confined.soft)
  | query reads =>
      obtain ⟨entry, differs⟩ := changed
      exact absurd (State.soft_same _ _ _ _ entry) differs
  | _ => exact .inl (.quorum ‹_›)

/-- Whatever call commits, from any state: if any entry changed, then a quorum
of that moment signed, or the merchant, the timelock, the recovery address or
the initiator of the pending recovery stands behind it and nothing else
changed, or the call completed a recovery that was due or initialized a fresh
contract. -/
theorem changes_authorized (codec : Codec) (env : Env) (call : Call)
    (state after : State) (reply : Reply)
    (succeeded : invoke codec env call state = .ok (reply, after))
    (changed : ∃ entry : Entry, ¬ entry.Same state after) :
    Authorized codec env state call after ∨
      Unopposed env state call after :=
  (invoke_effect succeeded).authorized changed

/-- Nobody signs the completion of the recovery. -/
def sampleRecoveryRun : List Input :=
  [⟨.granting 0, .init (.account 9) [.account 1] 1 (.contract 5)
      (.account 2)⟩,
    ⟨.granting 200, .initiateRecovery (.account 4)⟩,
    ⟨.unsigned 605000, .executeRecovery⟩]

theorem changes_authorized_sample :
    (∃ entry : Entry, ¬ entry.Same
      (stateBefore sampleCodec sampleRecoveryRun 2)
      (stateBefore sampleCodec sampleRecoveryRun 3)) ∧
    (Authorized sampleCodec (.unsigned 605000)
        (stateBefore sampleCodec sampleRecoveryRun 2) .executeRecovery
        (stateBefore sampleCodec sampleRecoveryRun 3) ∨
      Unopposed (.unsigned 605000)
        (stateBefore sampleCodec sampleRecoveryRun 2) .executeRecovery
        (stateBefore sampleCodec sampleRecoveryRun 3)) := by
  have committed : Commits sampleCodec sampleRecoveryRun 2
      (.unsigned 605000) .executeRecovery :=
    commits_of_accepted rfl (by decide)
  have changed : ∃ entry : Entry, ¬ entry.Same
      (stateBefore sampleCodec sampleRecoveryRun 2)
      (stateBefore sampleCodec sampleRecoveryRun 3) :=
    ⟨.admin, by decide⟩
  obtain ⟨reply, _, succeeded⟩ := committed
  exact ⟨changed, changes_authorized sampleCodec _ _ _ _ reply succeeded
    changed⟩

theorem completed_recovery_unauthorized :
    ¬ ∀ env call state after reply, Reachable sampleCodec state →
      invoke sampleCodec env call state = .ok (reply, after) →
      (∃ entry : Entry, ¬ entry.Same state after) →
      Authorized sampleCodec env state call after := by
  intro authorized
  have committed : Commits sampleCodec sampleRecoveryRun 2
      (.unsigned 605000) .executeRecovery :=
    commits_of_accepted rfl (by decide)
  obtain ⟨reply, _, succeeded⟩ := committed
  have explained := authorized _ _ _ _ reply ⟨_, rfl⟩ succeeded
    ⟨.admin, by decide⟩
  cases explained with
  | quorum quorum =>
      obtain ⟨threshold, stored, _, _, enough, authorizing⟩ := quorum
      have one : (stateBefore sampleCodec sampleRecoveryRun
        2).authority.threshold = some 1 := by decide
      cases one.symm.trans stored
      obtain ⟨signer, member⟩ :=
        List.exists_mem_of_length_pos enough
      cases authorizing.authorized signer member

end BettaPay.Settlement
