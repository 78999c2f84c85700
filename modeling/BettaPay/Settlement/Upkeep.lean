import BettaPay.Settlement.Renewal

namespace BettaPay.Settlement

open BettaPay.Host
open BettaPay.Common

/-! How long the entries of a run live. -/

section Started

variable {κ : Type} [DecidableEq κ] {key found : κ}

theorem update_true {table : κ → Bool} {value : Bool}
    (present : Function.update table key value found = true) :
    table found = true ∨ found = key ∧ value = true := by
  by_cases same : found = key
  · rw [same, Function.update_self] at present
    exact .inr ⟨same, present⟩
  · rw [Function.update_of_ne same] at present
    exact .inl present

theorem update_isSome {α : Type} {table : κ → Option α} {value : Option α}
    (present : (Function.update table key value found).isSome = true) :
    (table found).isSome = true ∨ found = key ∧ value.isSome = true := by
  by_cases same : found = key
  · rw [same, Function.update_self] at present
    exact .inr ⟨same, present⟩
  · rw [Function.update_of_ne same] at present
    exact .inl present

end Started

variable {codec : Codec} {env : Env} {before after : State}
  {key : PersistentKey}

/-- Whatever entry there is after, was there before or is renewed. -/
def StartsNone (keys : List PersistentKey) (before after : State) : Prop :=
  ∀ key, after.holds key = true →
    before.holds key = true ∨ key ∈ keys

theorem applied_starts {actor : Address} {operation : Operation}
    (applied : Applied env before actor operation after) :
    StartsNone operation.renews before after := by
  intro key present
  cases applied with
  | registerMerchant =>
      cases key with
      | merchant found =>
          rcases update_true present with held | ⟨rfl, _⟩
          · exact .inl held
          · exact .inr List.mem_cons_self
      | archivedMerchant found =>
          rcases update_true present with held | ⟨_, impossible⟩
          · exact .inl held
          · cases impossible
      | _ => exact .inl present
  | unregisterMerchant =>
      cases key with
      | merchant found =>
          rcases update_true present with held | ⟨_, impossible⟩
          · exact .inl held
          · cases impossible
      | archivedMerchant found =>
          rcases update_true present with held | ⟨rfl, _⟩
          · exact .inl held
          · exact .inr List.mem_cons_self
      | rule found =>
          rcases update_isSome present with held | ⟨_, impossible⟩
          · exact .inl held
          · cases impossible
      | _ => exact .inl present
  | setSettlementRule =>
      cases key with
      | rule found =>
          rcases update_isSome present with held | ⟨rfl, _⟩
          · exact .inl held
          · exact .inr (List.mem_cons_of_mem _ List.mem_cons_self)
      | _ => exact .inl present
  | clearSettlementRule =>
      cases key with
      | rule found =>
          rcases update_isSome present with held | ⟨_, impossible⟩
          · exact .inl held
          · cases impossible
      | _ => exact .inl present
  | _ => exact .inl present

theorem administers_renews {call : Call} {signers : List Address}
    {operation : Operation}
    (direct : call.administers = some (signers, operation)) :
    call.renews codec before = operation.renews := by
  cases call <;> cases direct <;> rfl

theorem released_holds {opHash : BytesN 32}
    (present : (before.released opHash).holds key = true) :
    before.holds key = true := by
  cases key with
  | scheduledOperation found =>
      rcases update_isSome present with held | ⟨_, impossible⟩
      · exact held
      · cases impossible
  | _ => exact present

theorem drained_holds {operations : List Operation} {count : Nat}
    (drained : Drained codec operations count before after)
    (present : after.holds key = true) : before.holds key = true := by
  cases key with
  | scheduledOperation found =>
      obtain ⟨slot, stored⟩ := Option.isSome_iff_exists.mp present
      rw [drained.slots, eraseIf_eq_some] at stored
      exact Option.isSome_iff_exists.mpr ⟨slot, stored.1⟩
  | _ =>
      obtain ⟨_, _, rfl⟩ := drained.unchanged
      exact present

theorem payment_isSome {table : Address → BytesN 32 → Option PaymentRecord}
    {merchant found : Address} {reference other : BytesN 32}
    {record : Option PaymentRecord}
    (present : (Function.update table merchant
      (Function.update (table merchant) reference record) found
        other).isSome = true) :
    (table found other).isSome = true ∨
      found = merchant ∧ other = reference ∧ record.isSome = true := by
  by_cases same : found = merchant
  · subst same
    rw [Function.update_self] at present
    rcases update_isSome present with held | ⟨named, stored⟩
    · exact .inl held
    · exact .inr ⟨rfl, named, stored⟩
  · rw [Function.update_of_ne same] at present
    exact .inl present

theorem pruned_holds {merchant : Address} {refs : List (BytesN 32)}
    {count : Nat} (pruned : Pruned merchant refs count before after)
    (present : after.holds key = true) : before.holds key = true := by
  have table := pruned.table
  subst table
  cases key with
  | payment found reference =>
      by_cases same : found = merchant
      · subst same
        obtain ⟨record, stored⟩ := Option.isSome_iff_exists.mp present
        simp only [Function.update_self, eraseIf_eq_some] at stored
        exact Option.isSome_iff_exists.mpr ⟨record, stored.1⟩
      · simp only [State.holds, Function.update_of_ne same] at present
        exact present
  | _ => exact present

theorem decrementPaymentCount_starts {merchant : Address} {count : UInt32}
    {result : Unit}
    (succeeded : decrementPaymentCount env merchant count before =
      .ok (result, after)) :
    StartsNone (if count = 0 then [] else [.paymentCount merchant]) before
      after := by
  simp only [decrementPaymentCount, setPaymentCount, Tx.ite_ok, Tx.bind_ok,
    Tx.readState_bind, Tx.writeState_ok, extendTtl_ok, Tx.pure_ok]
    at succeeded
  intro key present
  obtain ⟨_, _, rfl⟩ | ⟨positive, _, _, rfl, rfl⟩ := succeeded
  · exact .inl present
  · cases key with
    | paymentCount found =>
        rcases update_isSome present with held | ⟨rfl, _⟩
        · exact .inl held
        · rw [if_neg positive]
          exact .inr List.mem_cons_self
    | _ => exact .inl present

theorem prunePayments_starts {signers : List Address} {merchant : Address}
    {refs : List (BytesN 32)} {removed : UInt32}
    (succeeded : prunePayments env signers merchant refs before =
      .ok (removed, after)) :
    StartsNone ((Call.prunePayments signers merchant refs).renews codec
      before) before after := by
  simp only [prunePayments, Tx.bind_ok, verifyThresholdAuth_ok, rejectIf_ok,
    unwrapFirst_ok, emit_ok, Tx.pure_ok, Nat.not_lt] at succeeded
  obtain ⟨_, _, ⟨_, rfl⟩, _, _, ⟨_, rfl⟩, total, middle, looped, _, _,
    counting, _, _, ⟨_, rfl⟩, _, _, rfl, rfl, rfl⟩ := succeeded
  have counted := pruneEach_counts looped
  obtain ⟨count, rfl, _, pruned⟩ := pruneEach_ok looped
  intro key present
  rcases decrementPaymentCount_starts counting key present with
    held | listed
  · exact .inl (pruned_holds pruned held)
  · split at listed
    · cases listed
    · rename_i positive
      rw [Call.renews, if_pos (counted.mpr ?_)]
      · exact .inr listed
      · apply Nat.pos_of_ne_zero
        rintro zero
        rw [zero] at positive
        exact positive rfl

/-- Every way in which an entry comes to be renews it. -/
theorem invoke_starts {call : Call} {reply : Reply}
    (succeeded : invoke codec env call before = .ok (reply, after)) :
    StartsNone (call.renews codec before) before after := by
  intro key present
  cases invoke_effect succeeded with
  | schedule =>
      cases key with
      | scheduledOperation found =>
          rcases update_isSome present with held | ⟨rfl, _⟩
          · exact .inl held
          · exact .inr List.mem_cons_self
      | _ => exact .inl present
  | execute _ _ _ _ applied =>
      rcases applied_starts applied key present with held | listed
      · exact .inl (released_holds held)
      · exact .inr listed
  | cancel => exact .inl (released_holds present)
  | cancelAll _ _ _ drained => exact .inl (drained_holds drained present)
  | administer direct _ _ _ consented applied =>
      rw [administers_renews direct]
      subst consented
      exact applied_starts applied key present
  | storePaymentReference =>
      cases key with
      | payment found reference =>
          rcases payment_isSome present with held | ⟨rfl, rfl, _⟩
          · exact .inl held
          · simp [Call.renews]
      | paymentCount found =>
          rcases update_isSome present with held | ⟨rfl, _⟩
          · exact .inl held
          · simp [Call.renews]
      | _ => exact .inl present
  | prunePayment _ _ stored =>
      cases key with
      | payment found reference =>
          rcases payment_isSome present with held | ⟨_, _, impossible⟩
          · exact .inl held
          · cases impossible
      | paymentCount found =>
          rcases update_isSome present with held | ⟨rfl, _⟩
          · exact .inl held
          · simp [Call.renews, stored]
      | _ => exact .inl present
  | prunePayments =>
      obtain ⟨_, ran, _⟩ := replying_ok.mp succeeded
      exact prunePayments_starts ran key present
  | _ => exact .inl present

/-! Over a run. -/

theorem le_extendTtl {ledger : Ledger} {live : Nat} :
    ledger.sequence.toNat + key.threshold.toNat ≤
      ledger.extendTtl key.threshold key.bump live := by
  obtain ⟨positive, ordered⟩ := key.threshold_bounds
  rw [Ledger.extendTtl]
  split
  · omega
  · rename_i spared
    have long : ¬ live - ledger.sequence.toNat < key.threshold.toNat :=
      fun short => spared (.inl short)
    omega

/-- The entry, if it is there, lives at least until `expiry`. -/
def State.Lasts (state : State) (key : PersistentKey) (expiry : Nat) : Prop :=
  state.holds key = true → expiry ≤ state.liveUntil key

theorem invoke_lasts {call : Call} {reply : Reply} {ledger : Nat}
    (succeeded : invoke codec env call before = .ok (reply, after))
    (since : ledger ≤ env.sequence.toNat)
    (lasts : before.Lasts key (ledger + key.threshold.toNat)) :
    after.Lasts key (ledger + key.threshold.toNat) := by
  intro present
  rw [invoke_renews succeeded, State.renewed]
  have started := invoke_starts succeeded key present
  split
  · exact Nat.le_trans (Nat.add_le_add_right since _) le_extendTtl
  · rename_i spared
    exact lasts (started.resolve_right spared)

/-- What a committed call does to the lifetimes, and what comes of it. -/
structure Upkept (codec : Codec) (inputs : List Input) (index : Nat)
    (env : Env) (call : Call) : Prop where
  renewed : ∀ key,
    key ∈ call.renews codec (stateBefore codec inputs index) →
      (stateBefore codec inputs (index + 1)).liveUntil key =
        (stateBefore codec inputs index).renewal env key
  spared : ∀ key,
    key ∉ call.renews codec (stateBefore codec inputs index) →
      (stateBefore codec inputs (index + 1)).liveUntil key =
          (stateBefore codec inputs index).liveUntil key ∧
        ((stateBefore codec inputs (index + 1)).holds key = true →
          (stateBefore codec inputs index).holds key = true)
  lasting : ∀ key,
    key ∈ call.renews codec (stateBefore codec inputs index) →
      ∀ later, index < later →
        (stateBefore codec inputs later).Lasts key
          (env.sequence.toNat + key.threshold.toNat)

/-- A committed call renews the listed entries and leaves every other lifetime
as it was; no entry comes to be that is not renewed. A renewed entry that is
there at a later moment lives past its threshold, whatever was called since,
whether or not it was there all the time. -/
theorem entries_upkept (codec : Codec) (inputs : List Input)
    (ordered : inputs.Pairwise fun left right =>
      left.env.sequence ≤ right.env.sequence) (index : Nat) (env : Env)
    (call : Call) (committed : Commits codec inputs index env call) :
    Upkept codec inputs index env call := by
  obtain ⟨reply, here, succeeded⟩ := committed
  have lives := invoke_renews succeeded
  have started := invoke_starts succeeded
  constructor
  · intro key listed
    rw [stateBefore, lives, State.renewed, if_pos listed, stateBefore]
  · intro key spared
    constructor
    · rw [stateBefore, lives, State.renewed, if_neg spared]
    · exact fun present => (started key present).resolve_right spared
  · intro key listed later after
    apply stateAt_kept
      (fun state : State => state.Lasts key
        (env.sequence.toNat + key.threshold.toNat))
      (Nat.succ_le_of_lt after)
    · intro between input reply' from' _ ran lasts
      refine invoke_lasts ran.2 ?_ lasts
      have earlier := List.pairwise_iff_getElem.mp ordered
      obtain ⟨inside, found⟩ := List.getElem?_eq_some_iff.mp here
      obtain ⟨inside', found'⟩ := List.getElem?_eq_some_iff.mp ran.1
      have sooner := earlier index between inside inside' (by omega)
      rw [found, found'] at sooner
      exact UInt32.le_iff_toNat_le.mp sooner
    · intro _
      rw [lives, State.renewed, if_pos listed, State.renewal]
      exact le_extendTtl

/-- A merchant that is paid, dropped and registered again. -/
def sampleUpkeepRun : List Input :=
  sampleOpening ++
    [⟨.closing 20, .registerMerchant [.account 1] (.account 6)⟩,
      ⟨.closing 30, .storePaymentReference (.account 6) 1 minPaymentAmount⟩,
      ⟨.closing 40, .unregisterMerchant [.account 1] (.account 6)⟩,
      ⟨.closing 50, .registerMerchant [.account 1] (.account 6)⟩]

set_option maxRecDepth 4000 in
theorem entries_upkept_sample :
    Upkept sampleCodec sampleUpkeepRun 2 (.closing 30)
      (.storePaymentReference (.account 6) 1 minPaymentAmount) := by
  apply entries_upkept sampleCodec sampleUpkeepRun (by decide)
  exact commits_of_accepted rfl rfl

end BettaPay.Settlement
