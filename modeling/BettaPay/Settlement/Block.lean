import BettaPay.Settlement.Cleared
import BettaPay.Settlement.Preview

namespace BettaPay.Settlement

open BettaPay.Host
open BettaPay.Common

/-! The payments of one ledger, as a function of the state that the ledger
begins with. -/

/-- One payment, with the authorizations it comes with. -/
structure Submission where
  auths : Address → Bool
  merchant : Address
  reference : BytesN 32
  amount : I128

namespace Submission

variable (submission : Submission) (env : Env)

/-- The ledger as the payment sees it. -/
def within : Env := { env with auths := submission.auths }

def input : Input :=
  ⟨submission.within env, .storePaymentReference submission.merchant
    submission.reference submission.amount⟩

def key : Address × BytesN 32 := (submission.merchant, submission.reference)

/-- The rule that prices the payment. -/
def rule (state : State) : SettlementRule :=
  (state.effectiveRule env submission.merchant).rule

/-- What the payment has to meet, but for its price. -/
def Admissible (state : State) : Prop :=
  submission.reference ≠ 0 ∧ state.isPaused = false ∧
    submission.auths submission.merchant = true ∧
    state.merchant submission.merchant = true ∧
    (state.readMinPaymentAmount env).val ≤ submission.amount.val ∧
    state.payment submission.merchant submission.reference = none ∧
    state.resolutionError env submission.merchant = none

instance (state : State) : Decidable (submission.Admissible env state) := by
  unfold Admissible
  infer_instance

/-- The record that the payment leaves, if it is accepted. -/
def files (state : State) : Option PaymentRecord :=
  if submission.Admissible env state then
    (calculateSplit submission.amount
      (submission.rule env state)).toOption.map
        (paymentRecord env submission.merchant submission.amount
          (submission.rule env state))
  else none

/-- What an accepted payment publishes. -/
def announces (state : State) : List Event :=
  (submission.files env state).toList.flatMap fun record =>
    bootstrapEvents (submission.rule env state) ++
      [.paymentStored submission.merchant submission.reference record]

/-- The state after an accepted payment. -/
structure Filed (before : State) (record : PaymentRecord) (after : State) :
    Prop where
  counted : ∃ count live,
    count.toNat =
      (before.readPaymentCount submission.merchant).toNat + 1 ∧
    after = State.soft
      { before with
        payment := Function.update before.payment submission.merchant
          (Function.update (before.payment submission.merchant)
            submission.reference (some record))
        paymentCount := Function.update before.paymentCount
          submission.merchant (some count) }
      (before.effectiveCache env submission.merchant) live
      (bootstrapEvents (submission.rule env before) ++
        [.paymentStored submission.merchant submission.reference record])

variable {submission env} {codec : Codec} {before after state : State}

theorem files_eq_some {record : PaymentRecord} :
    submission.files env state = some record ↔
      submission.Admissible env state ∧
        ∃ split, calculateSplit submission.amount
            (submission.rule env state) = .ok split ∧
          paymentRecord env submission.merchant submission.amount
            (submission.rule env state) split = record := by
  unfold files
  split
  · rename_i admissible
    cases calculateSplit submission.amount
      (submission.rule env state) <;>
      simp [Except.toOption, admissible]
  · rename_i refused
    simp [refused]

/-- What the resolution makes of the cache does not depend on the payments. -/
theorem effectiveCache_reserved
    {payments : Address → BytesN 32 → Option PaymentRecord}
    {live : PersistentKey → Nat} {merchant : Address} :
    (State.soft { before with payment := payments } before.cachedGovRule
        live []).effectiveCache (submission.within env) merchant =
      before.effectiveCache env merchant := by
  have agree : (submission.within env).governance = env.governance := rfl
  simp only [State.effectiveCache, State.fallbackCache, State.refreshedCache,
    reading_congr agree]
  rfl

/-- A payment that commits is one that is accepted. -/
theorem filed_of_ok {split : FeeSplit}
    (succeeded : storePaymentReference (submission.within env)
      submission.merchant submission.reference submission.amount before =
        .ok (split, after)) :
    ∃ record, submission.files env before = some record ∧
      submission.Filed env before record after := by
  obtain ⟨⟨nonzero, unpaused, authorized, registered, enough, absent⟩, rule,
    middle, count, live, live', resolved, priced, counted, rfl⟩ :=
    storePaymentReference_ok succeeded
  have resolves : before.resolutionError env submission.merchant = none := by
    rw [← @resolutionError_congr env (submission.within env) rfl]
    have resolves := readRuleOrDefault_resolved resolved
    exact resolves
  obtain ⟨rule_eq, live'', rfl⟩ := readRuleOrDefault_exact resolved
  have same : rule = submission.rule env before := by
    rw [rule_eq]
    exact congrArg EffectiveRule.rule
      (@effectiveRule_congr env (submission.within env) rfl _ before)
  subst same
  have enough' : (before.readMinPaymentAmount env).val ≤
      submission.amount.val := enough
  refine ⟨_, files_eq_some.mpr ⟨⟨nonzero, unpaused, authorized, registered,
    enough', absent, resolves⟩, split, priced, rfl⟩,
    ⟨count, live', counted, ?_⟩⟩
  rw [State.soft_soft, effectiveCache_reserved]
  simp only [State.soft, Function.update_idem, Function.update_self,
    List.append_nil]
  rfl

/-- A payment that is accepted commits, as long as its counter has room. -/
theorem commits_of_files {record : PaymentRecord}
    (room : (before.readPaymentCount submission.merchant).toNat + 1 <
      2 ^ 32)
    (accepted : submission.files env before = some record) :
    ∃ split after, storePaymentReference (submission.within env)
      submission.merchant submission.reference submission.amount before =
        .ok (split, after) := by
  obtain ⟨⟨nonzero, unpaused, authorized, registered, enough, absent,
    resolves⟩, split, priced, _⟩ := files_eq_some.mp accepted
  have decided := @storePaymentReference_decided (submission.within env)
    submission.merchant submission.reference submission.amount before nonzero
    unpaused authorized absent room
  rw [paymentChecks_congr (show (submission.within env).governance =
    env.governance from rfl)] at decided
  refine isOk_iff_exists.mp (decided.isOk_iff.mpr ?_)
  rw [firstError_eq_none]
  intro check listed
  simp only [State.paymentChecks, List.mem_cons, List.not_mem_nil, or_false]
    at listed
  rcases listed with rfl | rfl | rfl | rfl
  · simp [registered]
  · rw [failIf_eq_none]
    omega
  · exact resolves
  · unfold rule at priced
    rw [priced]
    rfl

/-- What a payment comes to within its ledger. -/
theorem commit_input
    (room : (before.readPaymentCount submission.merchant).toNat + 1 <
      2 ^ 32) :
    (submission.files env before = none ∧
        commit (step codec) before (submission.input env) = before) ∨
      ∃ record, submission.files env before = some record ∧
        submission.Filed env before record
          (commit (step codec) before (submission.input env)) := by
  cases attempt : storePaymentReference (submission.within env)
    submission.merchant submission.reference submission.amount before with
  | ok outcome =>
      rcases outcome with ⟨split, after⟩
      obtain ⟨record, accepted, filed⟩ := filed_of_ok attempt
      have committed : step codec (submission.input env) before =
          .ok (.split split, after) :=
        replying_ok.mpr ⟨split, attempt, rfl⟩
      rw [commit_of_ok committed]
      exact .inr ⟨record, accepted, filed⟩
  | error failure =>
      have failed : step codec (submission.input env) before =
          .error failure := replying_error.mpr attempt
      rw [commit_of_error failed]
      refine .inl ⟨?_, rfl⟩
      cases accepted : submission.files env before with
      | none => rfl
      | some record =>
          obtain ⟨split, after, ran⟩ := commits_of_files room accepted
          cases attempt.symm.trans ran

/-- A payment may refresh the cache, but not so that a rule is another. -/
theorem Filed.rule_kept {record : PaymentRecord}
    (filed : submission.Filed env before record after) (merchant : Address) :
    after.effectiveRule env merchant = before.effectiveRule env merchant ∧
      after.resolutionError env merchant =
        before.resolutionError env merchant := by
  obtain ⟨count, live, _, rfl⟩ := filed.counted
  have settled : ∀ cache, cache = before.cachedGovRule ∨
      cache = before.fallbackCache env → ∀ after : State,
      after.rule = before.rule → after.defaultRule = before.defaultRule →
      after.governance = before.governance → after.cachedGovRule = cache →
      after.effectiveRule env merchant =
          before.effectiveRule env merchant ∧
        after.resolutionError env merchant =
          before.resolutionError env merchant := by
    intro cache origin after rules default governance cached
    have fallback : after.fallbackRule env = before.fallbackRule env ∧
        after.fallbackError env = before.fallbackError env := by
      rcases origin with kept | refreshed
      · have reading : after.reading env = before.reading env := by
          simp only [State.reading, governance]
        simp only [State.fallbackRule, State.fallbackError,
          State.governanceRule, State.readCachedGovernanceFeeRule, reading,
          default, cached.trans kept]
        exact ⟨trivial, trivial⟩
      · exact fallbackRule_settled default governance
          (cached.trans refreshed)
    simp only [State.effectiveRule, State.resolutionError, rules,
      fallback.1, fallback.2]
    exact ⟨trivial, trivial⟩
  refine settled _ ?_ _ rfl rfl rfl rfl
  cases own : before.rule submission.merchant with
  | some rule => exact .inl (by simp [State.effectiveCache, own])
  | none => exact .inr (by simp [State.effectiveCache, own])

/-- Refreshing the cache again makes no difference. -/
theorem fallbackCache_recached {cache : Option (Option SettlementRule)}
    (origin : cache = before.cachedGovRule ∨
      cache = before.fallbackCache env) :
    (before.recached cache).fallbackCache env =
      before.fallbackCache env := by
  have reading : (before.recached cache).reading env =
      before.reading env := rfl
  have fallback : ∀ state : State, state.fallbackCache env =
      if state.defaultRule.isSome then state.cachedGovRule
      else state.refreshedCache env := by
    intro state
    cases default : state.defaultRule <;> simp [State.fallbackCache, default]
  cases answer : before.reading env with
  | answered config =>
      cases config with
      | none =>
          have kept : before.fallbackCache env = before.cachedGovRule := by
            simp [fallback, State.refreshedCache, answer]
          rw [kept, or_self] at origin
          rw [kept, fallback, State.refreshedCache, reading, answer]
          simp [State.recached, origin]
      | some config =>
          rw [fallback, fallback, State.refreshedCache, State.refreshedCache,
            reading, answer]
          cases default : before.defaultRule with
          | none => simp [State.recached, default]
          | some rule =>
              simp only [fallback, default, Option.isSome_some, if_true,
                or_self] at origin
              simp [State.recached, default, origin]
  | _ =>
      have kept : before.fallbackCache env = before.cachedGovRule := by
        simp [fallback, State.refreshedCache, answer]
      rw [kept, or_self] at origin
      rw [kept, fallback, State.refreshedCache, reading, answer]
      simp [State.recached, origin]

/-- The cache is refreshed by a payment whose merchant has no rule of its
own. -/
theorem Filed.cache {record : PaymentRecord}
    (filed : submission.Filed env before record after) :
    after.cachedGovRule =
        (if (before.rule submission.merchant).isNone then
          before.fallbackCache env
        else before.cachedGovRule) ∧
      after.fallbackCache env = before.fallbackCache env := by
  obtain ⟨count, live, _, rfl⟩ := filed.counted
  cases own : before.rule submission.merchant with
  | some rule =>
      have cached : before.effectiveCache env submission.merchant =
          before.cachedGovRule := by simp [State.effectiveCache, own]
      exact ⟨cached, fallbackCache_recached (.inl cached)⟩
  | none =>
      have cached : before.effectiveCache env submission.merchant =
          before.fallbackCache env := by simp [State.effectiveCache, own]
      exact ⟨cached, fallbackCache_recached (.inr cached)⟩

theorem Filed.payment {record : PaymentRecord}
    (filed : submission.Filed env before record after) (merchant : Address)
    (reference : BytesN 32) :
    after.payment merchant reference =
      if (merchant, reference) = submission.key then some record
      else before.payment merchant reference := by
  obtain ⟨count, live, _, rfl⟩ := filed.counted
  simp only [State.soft_payment, Function.update_apply, key, Prod.mk.injEq]
  by_cases owner : merchant = submission.merchant
  · subst owner
    simp only [if_true, Function.update_apply, true_and]
  · simp only [owner, if_false, false_and]

theorem Filed.count {record : PaymentRecord}
    (filed : submission.Filed env before record after)
    (merchant : Address) :
    (after.readPaymentCount merchant).toNat =
      (before.readPaymentCount merchant).toNat +
        if submission.merchant = merchant then 1 else 0 := by
  obtain ⟨count, live, counted, rfl⟩ := filed.counted
  by_cases owner : submission.merchant = merchant
  · subst owner
    rw [if_pos rfl, ← counted]
    simp [State.readPaymentCount]
  · rw [if_neg owner]
    simp [State.readPaymentCount, Ne.symm owner]

/-- A payment leaves every other one to be decided as before. -/
theorem Filed.files_kept {record : PaymentRecord} {other : Submission}
    (filed : submission.Filed env before record after)
    (different : other.key ≠ submission.key) :
    other.files env after = other.files env before := by
  obtain ⟨rule_eq, error_eq⟩ := filed.rule_kept other.merchant
  have stored : after.payment other.merchant other.reference =
      before.payment other.merchant other.reference :=
    (filed.payment _ _).trans (if_neg different)
  have kept : after.isPaused = before.isPaused ∧
      after.merchant = before.merchant ∧
      after.readMinPaymentAmount env = before.readMinPaymentAmount env := by
    obtain ⟨count, live, _, rfl⟩ := filed.counted
    exact ⟨rfl, rfl, rfl⟩
  obtain ⟨paused, merchants, minimum⟩ := kept
  have admissible : other.Admissible env after ↔
      other.Admissible env before := by
    simp only [Admissible, paused, merchants, minimum, stored, error_eq]
  apply Option.ext
  intro found
  rw [files_eq_some, files_eq_some, admissible, rule, rule, rule_eq]

theorem Filed.events {record : PaymentRecord}
    (accepted : submission.files env before = some record)
    (filed : submission.Filed env before record after) :
    after.events = before.events ++ submission.announces env before := by
  obtain ⟨count, live, _, rfl⟩ := filed.counted
  rw [announces, accepted]
  simp

end Submission

/-! The whole ledger. -/

/-- What the payments of one ledger come to, each decided against the state
that the ledger begins with. -/
structure Settled (env : Env) (block : List Submission)
    (before after : State) : Prop where
  payment : ∀ merchant reference record,
    after.payment merchant reference = some record ↔
      before.payment merchant reference = some record ∨
      ∃ submission ∈ block, submission.key = (merchant, reference) ∧
        submission.files env before = some record
  count : ∀ merchant, (after.readPaymentCount merchant).toNat =
    (before.readPaymentCount merchant).toNat +
      block.countP fun submission =>
        submission.merchant = merchant ∧
          (submission.files env before).isSome = true
  events : after.events = before.events ++
    block.flatMap fun submission => submission.announces env before
  rules : ∀ merchant,
    after.effectiveRule env merchant = before.effectiveRule env merchant
  cache : after.cachedGovRule =
    if block.any fun submission =>
        (before.rule submission.merchant).isNone &&
          (submission.files env before).isSome then
      before.fallbackCache env
    else before.cachedGovRule
  frame : after = { before with
    payment := after.payment
    paymentCount := after.paymentCount
    cachedGovRule := after.cachedGovRule
    liveUntil := after.liveUntil
    events := after.events }

section Settling

variable {codec : Codec} {env : Env} {block : List Submission}
  {before middle after : State} {submission : Submission}

/-- The payments of the ledger are different ones. -/
def Distinct (block : List Submission) : Prop :=
  (block.map Submission.key).Nodup

instance (block : List Submission) : Decidable (Distinct block) :=
  inferInstanceAs (Decidable (List.Nodup _))

/-- No counter can reach its end within the ledger. -/
def Roomy (block : List Submission) (state : State) : Prop :=
  ∀ merchant,
    (state.readPaymentCount merchant).toNat + block.length < 2 ^ 32

theorem Distinct.apart {other : Submission}
    (distinct : Distinct (submission :: block)) (listed : other ∈ block) :
    other.key ≠ submission.key := by
  intro same
  apply (List.nodup_cons.mp distinct).1
  rw [← same]
  exact List.mem_map_of_mem listed

theorem Settled.nil : Settled env [] before before where
  payment := by simp
  count := by simp
  events := by simp
  rules := fun _ => rfl
  cache := rfl
  frame := rfl

/-- A payment that is refused. -/
theorem Settled.refused (refused : submission.files env before = none)
    (settled : Settled env block before after) :
    Settled env (submission :: block) before after where
  payment := by
    intro merchant reference record
    rw [settled.payment]
    simp [refused]
  count := by
    intro merchant
    rw [settled.count, List.countP_cons_of_neg (by simp [refused])]
  events := by
    rw [settled.events, List.flatMap_cons, Submission.announces, refused]
    rfl
  rules := settled.rules
  cache := by rw [settled.cache, List.any_cons, refused]; simp
  frame := settled.frame

/-- A payment that is accepted leaves the others to be decided as they would
have been without it. -/
theorem Settled.accepted {record : PaymentRecord}
    (distinct : Distinct (submission :: block))
    (accepted : submission.files env before = some record)
    (filed : submission.Filed env before record middle)
    (settled : Settled env block middle after) :
    Settled env (submission :: block) before after := by
  have kept : ∀ other ∈ block,
      other.files env middle = other.files env before :=
    fun other listed => filed.files_kept (distinct.apart listed)
  refine ⟨?_, ?_, ?_, ?_, ?_, ?_⟩
  · intro merchant reference found
    have later : (∃ other ∈ block, other.key = (merchant, reference) ∧
          other.files env middle = some found) ↔
        ∃ other ∈ block, other.key = (merchant, reference) ∧
          other.files env before = some found := by
      constructor
      · intro given
        obtain ⟨other, listed, named, files⟩ := given
        exact ⟨other, listed, named, (kept other listed).symm.trans files⟩
      · intro given
        obtain ⟨other, listed, named, files⟩ := given
        exact ⟨other, listed, named, (kept other listed).trans files⟩
    rw [settled.payment, filed.payment, later]
    simp only [List.mem_cons, exists_eq_or_imp, accepted]
    split
    · rename_i named
      have absent : before.payment merchant reference = none := by
        obtain ⟨rfl, rfl⟩ := Prod.ext_iff.mp named
        exact (Submission.files_eq_some.mp accepted).1.2.2.2.2.2.1
      simp [absent, named]
    · rename_i other
      simp [Ne.symm other]
  · intro merchant
    have counts : (block.countP fun other =>
          other.merchant = merchant ∧
            (other.files env middle).isSome = true) =
        block.countP fun other => other.merchant = merchant ∧
          (other.files env before).isSome = true := by
      apply List.countP_congr
      intro other listed
      rw [kept other listed]
    rw [settled.count, filed.count, counts, List.countP_cons]
    simp only [accepted, Option.isSome_some, and_true, decide_eq_true_eq]
    omega
  · have announced : (block.flatMap fun other =>
          other.announces env middle) =
        block.flatMap fun other => other.announces env before := by
      apply List.flatMap_congr
      intro other listed
      rw [Submission.announces, Submission.announces, kept other listed,
        Submission.rule, Submission.rule, (filed.rule_kept _).1]
    rw [settled.events, filed.events accepted, announced, List.flatMap_cons,
      List.append_assoc]
  · intro merchant
    rw [settled.rules, (filed.rule_kept merchant).1]
  · obtain ⟨cached, again⟩ := filed.cache
    have rules : middle.rule = before.rule := by
      obtain ⟨count, live, _, rfl⟩ := filed.counted
      rfl
    have others : (block.any fun other =>
          (middle.rule other.merchant).isNone &&
            (other.files env middle).isSome) =
        block.any fun other => (before.rule other.merchant).isNone &&
          (other.files env before).isSome := by
      rw [Bool.eq_iff_iff, List.any_eq_true, List.any_eq_true]
      refine exists_congr fun other => and_congr_right fun listed => ?_
      rw [kept other listed, rules]
    rw [settled.cache, others, again, cached, List.any_cons, accepted]
    simp only [Option.isSome_some, Bool.and_true]
    cases (before.rule submission.merchant).isNone <;> simp
  · have frame := settled.frame
    obtain ⟨count, live, _, same⟩ := filed.counted
    rw [same] at frame
    exact frame

/-- A ledger of different payments comes to what each of them comes to at its
beginning. -/
theorem block_settles (distinct : Distinct block)
    (roomy : Roomy block before) :
    Settled env block before (run (step codec) before
      (block.map fun submission => submission.input env)) := by
  induction block generalizing before with
  | nil => exact .nil
  | cons submission rest induction =>
      rw [List.map_cons, run_cons]
      have rest_distinct : Distinct rest := (List.nodup_cons.mp distinct).2
      have room : (before.readPaymentCount submission.merchant).toNat + 1 <
          2 ^ 32 := by
        have bound := roomy submission.merchant
        rw [List.length_cons] at bound
        omega
      rcases Submission.commit_input room with
        ⟨refused, kept⟩ | ⟨record, accepted, filed⟩
      · rw [kept]
        refine (induction rest_distinct ?_).refused refused
        intro merchant
        have bound := roomy merchant
        rw [List.length_cons] at bound
        omega
      · refine (induction rest_distinct ?_).accepted distinct accepted filed
        intro merchant
        have bound := roomy merchant
        rw [List.length_cons] at bound
        rw [filed.count]
        split <;> omega

end Settling

/-- Two states that differ in the lifetimes of entries and in the order of
the log alone. -/
structure SameBut (left right : State) : Prop where
  payment : left.payment = right.payment
  count : ∀ merchant,
    left.readPaymentCount merchant = right.readPaymentCount merchant
  cache : left.cachedGovRule = right.cachedGovRule
  events : left.events.Perm right.events
  frame : right = { left with
    paymentCount := right.paymentCount
    liveUntil := right.liveUntil
    events := right.events }

/-- Where no counter can reach its end, the different payments of one ledger
come to what each of them comes to on its own at the beginning of the ledger,
and so to the same in whatever order the ledger applies them. -/
theorem ledger_order_irrelevant (codec : Codec) (env : Env)
    (block block' : List Submission) (state : State)
    (distinct : Distinct block) (roomy : Roomy block state)
    (shuffled : block.Perm block') :
    let after := run (step codec) state
      (block.map fun submission => submission.input env)
    let after' := run (step codec) state
      (block'.map fun submission => submission.input env)
    Settled env block state after ∧ SameBut after after' := by
  intro after after'
  have settled : Settled env block state after :=
    block_settles distinct roomy
  have distinct' : Distinct block' :=
    (shuffled.map Submission.key).nodup_iff.mp distinct
  have roomy' : Roomy block' state := by
    intro merchant
    rw [← shuffled.length_eq]
    exact roomy merchant
  have settled' : Settled env block' state after' :=
    block_settles distinct' roomy'
  have payment : after.payment = after'.payment := by
    funext merchant reference
    apply Option.ext
    intro record
    rw [settled.payment, settled'.payment]
    simp only [shuffled.mem_iff]
  have cache : after.cachedGovRule = after'.cachedGovRule := by
    rw [settled.cache, settled'.cache, shuffled.any_eq]
  refine ⟨settled, payment, ?_, cache, ?_, ?_⟩
  · intro merchant
    apply UInt32.toNat_inj.mp
    rw [settled.count, settled'.count, shuffled.countP_eq]
  · rw [settled.events, settled'.events]
    exact (shuffled.flatMap_right _).append_left _
  · have frame := settled.frame
    have frame' := settled'.frame
    rw [frame', frame, payment, cache]

/-- Two shops are open. -/
def sampleStreet : State :=
  run (step sampleCodec) State.initial
    [⟨.granting 0, .init (.account 9) [.account 1] 1 (.contract 5)
        (.account 2)⟩,
      ⟨.granting 100, .registerMerchant [.account 1] (.account 6)⟩,
      ⟨.granting 200, .registerMerchant [.account 1] (.account 7)⟩]

/-- Both shops are paid, and one payment is too small. -/
def sampleBlock : List Submission :=
  [⟨fun _ => true, .account 6, 1, minPaymentAmount⟩,
    ⟨fun _ => true, .account 7, 1, minPaymentAmount⟩,
    ⟨fun _ => true, .account 6, 2, ⟨0, by decide, by decide⟩⟩]

theorem ledger_order_irrelevant_sample :
    let block := sampleBlock.map fun submission =>
      submission.input (.granting 300)
    let after := run (step sampleCodec) sampleStreet block
    let after' := run (step sampleCodec) sampleStreet
      (sampleBlock.reverse.map fun submission =>
        submission.input (.granting 300))
    after.readPaymentCount (.account 6) = 1 ∧ after.events ≠ after'.events ∧
      Settled (.granting 300) sampleBlock sampleStreet after ∧
      SameBut after after' := by
  have roomy : Roomy sampleBlock sampleStreet := by
    intro merchant
    have none : sampleStreet.readPaymentCount merchant = 0 := rfl
    rw [none]
    decide
  intro block after after'
  exact ⟨by decide, by decide, ledger_order_irrelevant sampleCodec
    (.granting 300) sampleBlock sampleBlock.reverse sampleStreet (by decide)
    roomy (List.reverse_perm _).symm⟩

end BettaPay.Settlement
