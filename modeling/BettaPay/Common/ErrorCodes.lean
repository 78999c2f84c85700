import Mathlib.Data.List.Pairwise

namespace BettaPay.Common

/-! The registry of error codes, and the check that each contract makes of its
own table against it. -/

namespace ErrorCodes

abbrev Table := List (String × UInt32)

def governanceRangeStart : UInt32 := 200

def settlementRangeStart : UInt32 := 300

/-- The codes that the contracts share. -/
def sharedCodes : Table :=
  [("AlreadyInitialized", 1), ("NotInitialized", 2), ("Unauthorized", 3),
    ("InvalidFeeBps", 4), ("Paused", 5), ("InvalidAdmin", 6),
    ("InvalidRecoveryAddress", 7), ("RecoveryNotPending", 8),
    ("RecoveryDelayActive", 9), ("ExecutionNotReady", 10),
    ("OperationNotScheduled", 11), ("OperationAlreadyScheduled", 12),
    ("InvalidWasmInterface", 13), ("InvalidThreshold", 14),
    ("RecoveryAlreadyPending", 15), ("AlreadyPaused", 17),
    ("AlreadyUnpaused", 16), ("SameAdmin", 18)]

/-- The assertion that fails. -/
inductive Collision where
  | reserved (name sharedName : String) (code : UInt32)
  | outside (name : String) (code rangeStart : UInt32)
  | duplicate (nameA nameB : String) (code : UInt32)
  deriving DecidableEq, Repr

def Collision.message : Collision → String
  | .reserved name sharedName code =>
      s!"error code {code} is reserved for shared concept `{sharedName}` " ++
        s!"but is also used here for `{name}`"
  | .outside name code rangeStart =>
      s!"error code {code} (`{name}`) is not a shared code and falls " ++
        s!"outside this contract's reserved range ({rangeStart}+)"
  | .duplicate nameA nameB code =>
      s!"duplicate code {code} shared between `{nameA}` and `{nameB}`"

def assertInRange (rangeStart : UInt32) (entry : String × UInt32) :
    Except Collision Unit :=
  match sharedCodes.find? fun shared => shared.2 = entry.2 with
  | some shared =>
      if entry.1 = shared.1 then pure ()
      else throw (.reserved entry.1 shared.1 entry.2)
  | none =>
      if rangeStart ≤ entry.2 then pure ()
      else throw (.outside entry.1 entry.2 rangeStart)

def assertDistinct (first second : String × UInt32) :
    Except Collision Unit :=
  if first.2 = second.2 then throw (.duplicate first.1 second.1 first.2)
  else pure ()

/-- The second loop, over the pairs in their order. -/
def assertNoDuplicates : Table → Except Collision Unit
  | [] => pure ()
  | entry :: rest => do
      forM rest (assertDistinct entry)
      assertNoDuplicates rest

def assertNoCodeCollisions (contractCodes : Table) (rangeStart : UInt32) :
    Except Collision Unit := do
  forM contractCodes (assertInRange rangeStart)
  assertNoDuplicates contractCodes

/-! What a table that passes satisfies. -/

theorem bind_eq_ok {first second : Except Collision Unit} :
    (first >>= fun _ => second) = .ok () ↔
      first = .ok () ∧ second = .ok () := by
  cases first with
  | error collision =>
      constructor
      · intro failed
        cases failed
      · intro given
        cases given.1
  | ok =>
      exact ⟨fun passed => ⟨rfl, passed⟩, fun given => given.2⟩

theorem forM_eq_ok {check : String × UInt32 → Except Collision Unit}
    {table : Table} :
    forM table check = .ok () ↔ ∀ entry ∈ table, check entry = .ok () := by
  induction table with
  | nil => exact ⟨fun _ entry member => absurd member (List.not_mem_nil),
      fun _ => rfl⟩
  | cons entry rest induction =>
      rw [List.forM_cons, bind_eq_ok, induction, List.forall_mem_cons]

/-- An entry in its place: a shared code under its own name, or a code of the
contract's range. -/
def Placed (rangeStart : UInt32) (entry : String × UInt32) : Prop :=
  entry ∈ sharedCodes ∨
    (∀ shared ∈ sharedCodes, shared.2 ≠ entry.2) ∧ rangeStart ≤ entry.2

/-- No code is attached to two names. -/
def Unambiguous (table : Table) : Prop :=
  ∀ left ∈ table, ∀ right ∈ table, left.2 = right.2 → left.1 = right.1

theorem sharedCodes_unambiguous : Unambiguous sharedCodes := by
  unfold Unambiguous
  decide

theorem assertInRange_ok {rangeStart : UInt32} {entry : String × UInt32} :
    assertInRange rangeStart entry = .ok () ↔ Placed rangeStart entry := by
  unfold assertInRange Placed
  cases found : sharedCodes.find? fun shared => shared.2 = entry.2 with
  | none =>
      have unshared : ∀ shared ∈ sharedCodes, shared.2 ≠ entry.2 := by
        simpa using found
      have foreign : entry ∉ sharedCodes :=
        fun member => unshared entry member rfl
      simp only [foreign, false_or]
      split
      · rename_i high
        exact ⟨fun _ => ⟨unshared, high⟩, fun _ => rfl⟩
      · rename_i low
        constructor
        · intro passed
          cases passed
        · intro given
          exact absurd given.2 low
  | some shared =>
      have member := List.mem_of_find?_eq_some found
      have same : shared.2 = entry.2 := by
        simpa using List.find?_some found
      simp only
      split
      · rename_i named
        have own : entry = shared := Prod.ext named same.symm
        exact ⟨fun _ => .inl (own ▸ member), fun _ => rfl⟩
      · rename_i renamed
        constructor
        · intro passed
          cases passed
        · intro given
          rcases given with listed | ⟨unshared, _⟩
          · exact absurd
              (sharedCodes_unambiguous entry listed shared member same.symm)
              renamed
          · exact absurd same (unshared shared member)

theorem assertDistinct_ok {first second : String × UInt32} :
    assertDistinct first second = .ok () ↔ first.2 ≠ second.2 := by
  unfold assertDistinct
  split
  · rename_i same
    constructor
    · intro passed
      cases passed
    · intro distinct
      exact absurd same distinct
  · rename_i distinct
    exact ⟨fun _ => distinct, fun _ => rfl⟩

theorem assertNoDuplicates_ok {table : Table} :
    assertNoDuplicates table = .ok () ↔
      table.Pairwise fun first second => first.2 ≠ second.2 := by
  induction table with
  | nil => exact ⟨fun _ => .nil, fun _ => rfl⟩
  | cons entry rest induction =>
      rw [assertNoDuplicates, bind_eq_ok, forM_eq_ok, induction,
        List.pairwise_cons]
      simp only [assertDistinct_ok]

theorem assertNoCodeCollisions_ok {table : Table} {rangeStart : UInt32} :
    assertNoCodeCollisions table rangeStart = .ok () ↔
      (∀ entry ∈ table, Placed rangeStart entry) ∧
        table.Pairwise fun first second => first.2 ≠ second.2 := by
  rw [assertNoCodeCollisions, bind_eq_ok, forM_eq_ok, assertNoDuplicates_ok]
  simp only [assertInRange_ok]

/-! Two tables that pass, each against its own range. -/

/-- No two entries, one of each table, share a code but not the name. -/
def Agree (left right : Table) : Prop :=
  ∀ entry ∈ left, ∀ other ∈ right, entry.2 = other.2 → entry.1 = other.1

theorem unambiguous_append {left right : Table} :
    Unambiguous (left ++ right) ↔
      Unambiguous left ∧ Unambiguous right ∧ Agree left right := by
  simp only [Unambiguous, Agree, List.mem_append]
  constructor
  · intro unambiguous
    refine ⟨?_, ?_, ?_⟩
    · intro entry member other member'
      exact unambiguous entry (.inl member) other (.inl member')
    · intro entry member other member'
      exact unambiguous entry (.inr member) other (.inr member')
    · intro entry member other member'
      exact unambiguous entry (.inl member) other (.inr member')
  · intro given
    obtain ⟨lefts, rights, across⟩ := given
    intro entry member other member' same
    rcases member with member | member <;>
      rcases member' with member' | member'
    · exact lefts entry member other member' same
    · exact across entry member other member' same
    · exact (across other member' entry member same.symm).symm
    · exact rights entry member other member' same

theorem unambiguous_of_passed {table : Table} {rangeStart : UInt32}
    (passed : assertNoCodeCollisions table rangeStart = .ok ()) :
    Unambiguous table := by
  intro entry member other member' same
  have distinct := (assertNoCodeCollisions_ok.mp passed).2
  by_contra renamed
  have apart : entry ≠ other := fun equal => renamed (congrArg _ equal)
  have symmetric : Std.Symm fun first second : String × UInt32 =>
      first.2 ≠ second.2 := ⟨fun _ _ unequal => unequal.symm⟩
  exact distinct.forall member member' apart same

theorem agree_shared_of_passed {table : Table} {rangeStart : UInt32}
    (passed : assertNoCodeCollisions table rangeStart = .ok ()) :
    Agree table sharedCodes := by
  intro entry member shared listed same
  rcases (assertNoCodeCollisions_ok.mp passed).1 entry member with
    own | ⟨unshared, _⟩
  · exact sharedCodes_unambiguous entry own shared listed same
  · exact absurd same.symm (unshared shared listed)

/-- Two tables that pass may still disagree on a code that neither shares, and
such a code lies in both ranges. -/
theorem agree_of_passed_iff {governance settlement : Table}
    (passed : assertNoCodeCollisions settlement settlementRangeStart =
      .ok ())
    (passed' : assertNoCodeCollisions governance governanceRangeStart =
      .ok ()) :
    Agree governance settlement ↔
      ∀ entry ∈ governance, settlementRangeStart ≤ entry.2 →
        ∀ other ∈ settlement, other.2 = entry.2 → other.1 = entry.1 := by
  constructor
  · intro agree entry member _ other member' same
    exact (agree entry member other member' same.symm).symm
  · intro clear entry member other member' same
    rcases (assertNoCodeCollisions_ok.mp passed).1 other member' with
      own | ⟨_, high⟩
    · exact agree_shared_of_passed passed' entry member other own same
    · exact (clear entry member (same ▸ high) other member' same.symm).symm

/-- Where both checks pass, a code identifies one concept exactly if the
governance table attaches no code of the settlement range that the settlement
table uses under another name. -/
theorem codes_unambiguous_iff (governance settlement : Table)
    (governancePasses :
      assertNoCodeCollisions governance governanceRangeStart = .ok ())
    (settlementPasses :
      assertNoCodeCollisions settlement settlementRangeStart = .ok ()) :
    Unambiguous (governance ++ settlement ++ sharedCodes) ↔
      ∀ entry ∈ governance, settlementRangeStart ≤ entry.2 →
        ∀ other ∈ settlement, other.2 = entry.2 → other.1 = entry.1 := by
  rw [unambiguous_append, unambiguous_append,
    agree_of_passed_iff settlementPasses governancePasses]
  constructor
  · intro given
    exact given.1.2.2
  · intro clear
    refine ⟨⟨unambiguous_of_passed governancePasses,
      unambiguous_of_passed settlementPasses, clear⟩,
      sharedCodes_unambiguous, ?_⟩
    intro entry member shared listed same
    rcases List.mem_append.mp member with member | member
    · exact agree_shared_of_passed governancePasses entry member shared
        listed same
    · exact agree_shared_of_passed settlementPasses entry member shared
        listed same

theorem codes_unambiguous_iff_reserved :
    Unambiguous ([("SameAdmin", 18), ("AnchorMissing", 200)] ++
      [("SameAdmin", 18), ("MerchantExists", 300)] ++ sharedCodes) :=
  (codes_unambiguous_iff _ _ rfl rfl).mpr (by decide)

/-- A governance code in the settlement range passes. -/
theorem codes_above_range_collide :
    ¬ ∀ governance settlement,
      assertNoCodeCollisions governance governanceRangeStart = .ok () →
      assertNoCodeCollisions settlement settlementRangeStart = .ok () →
      Unambiguous (governance ++ settlement ++ sharedCodes) := by
  intro sound
  have named := sound [("AnchorMissing", 300)] [("MerchantExists", 300)]
    rfl rfl ("AnchorMissing", 300) (by simp)
    ("MerchantExists", 300) (by simp) rfl
  exact absurd named (by decide)

end ErrorCodes

end BettaPay.Common
