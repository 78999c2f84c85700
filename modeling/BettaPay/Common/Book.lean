import BettaPay.Common.Authority
import BettaPay.Host.Journal

namespace BettaPay.Common

open BettaPay.Host

/-! Who controls a contract, as its log tells it. Both contracts publish the
same notices; who published them plays no part here. -/

inductive Notice where
  | recoveryAddressUpdated (newRecovery : Address)
  | recoveryInitiated (recovery newAdmin : Address) (executeAfter : UInt64)
  | recoveryCancelled
  | recoveryExecuted (payload : AdminTransferred)
  | adminTransferred (payload : AdminTransferred)
  | thresholdChanged (current new : UInt32)
  | contractUpgraded (wasmHash : BytesN 32)
  | paused
  | unpaused
  | migrated
  deriving DecidableEq, Repr

/-- The threshold is unknown after a transfer, which does not publish it. -/
structure ControlBook where
  admins : List Address
  threshold : Option UInt32
  recoveryAddress : Address
  pendingRecovery : Option PendingRecovery
  paused : Bool
  wasm : Option (BytesN 32)

namespace ControlBook

def post (book : ControlBook) : Notice → Option ControlBook
  | .recoveryAddressUpdated newRecovery =>
      follow (newRecovery ≠ zeroAddress)
        { book with recoveryAddress := newRecovery }
  | .recoveryInitiated recovery newAdmin executeAfter =>
      follow (recovery = book.recoveryAddress ∧ newAdmin ≠ zeroAddress ∧
          book.pendingRecovery = none)
        { book with
          pendingRecovery := some ⟨newAdmin, executeAfter, recovery⟩ }
  | .recoveryCancelled =>
      follow (book.pendingRecovery ≠ none)
        { book with pendingRecovery := none }
  | .recoveryExecuted payload =>
      follow (payload.oldAdmins = book.admins ∧
          book.pendingRecovery.map (fun pending => [pending.newAdmin]) =
            some payload.newAdmins)
        { book with
          admins := payload.newAdmins
          threshold := some 1
          pendingRecovery := none }
  | .adminTransferred payload =>
      follow (payload.oldAdmins = book.admins ∧ payload.newAdmins ≠ [] ∧
          payload.newAdmins.Nodup ∧ zeroAddress ∉ payload.newAdmins)
        { book with admins := payload.newAdmins, threshold := none }
  | .thresholdChanged current new =>
      follow ((book.threshold = none ∨ book.threshold = some current) ∧
          1 ≤ new.toNat ∧ new.toNat ≤ book.admins.length)
        { book with threshold := some new }
  | .contractUpgraded wasmHash => some { book with wasm := some wasmHash }
  | .paused => follow (book.paused = false) { book with paused := true }
  | .unpaused => follow (book.paused = true) { book with paused := false }
  | .migrated => follow (book.paused = false) book

/-- What the book says about the control of a contract. -/
structure Tells (book : ControlBook) (authority : Authority) (paused : Bool)
    (wasm : Option (BytesN 32)) : Prop where
  admins : authority.admin = some book.admins
  threshold : ∀ known, book.threshold = some known →
    authority.threshold = some known
  recoveryAddress : authority.recoveryAddress = some book.recoveryAddress
  pendingRecovery : authority.pendingRecovery = book.pendingRecovery
  paused : paused = book.paused
  wasm : wasm = book.wasm

/-- The book before anything is published by a contract that was set up. -/
def opening (admins : List Address) (threshold : UInt32)
    (recoveryAddress : Address) (wasm : Option (BytesN 32)) : ControlBook where
  admins := admins
  threshold := some threshold
  recoveryAddress := recoveryAddress
  pendingRecovery := none
  paused := false
  wasm := wasm

theorem opening_tells {authority : Authority} {admins : List Address}
    {threshold : UInt32} {recovery : Address} {wasm : Option (BytesN 32)}
    (stored : authority.admin = some admins)
    (required : authority.threshold = some threshold)
    (recoverable : authority.recoveryAddress = some recovery)
    (absent : authority.pendingRecovery = none) :
    (opening admins threshold recovery wasm).Tells authority false wasm where
  admins := stored
  threshold := by
    intro known same
    cases same
    exact required
  recoveryAddress := recoverable
  pendingRecovery := absent
  paused := rfl
  wasm := rfl

/-! What each transition publishes can follow, and keeps the book true. -/

section Posting

variable {book : ControlBook} {authority : Authority} {paused : Bool}
  {wasm : Option (BytesN 32)} (tells : book.Tells authority paused wasm)

include tells

theorem Tells.rotated {recovery : Address}
    (nonzero : recovery ≠ zeroAddress) :
    ∃ next, book.post (.recoveryAddressUpdated recovery) = some next ∧
      next.Tells { authority with recoveryAddress := some recovery } paused
        wasm :=
  ⟨_, follow_eq_some.mpr ⟨nonzero, rfl⟩,
    { tells with recoveryAddress := rfl }⟩

theorem Tells.initiated {recovery newAdmin : Address}
    {executeAfter : UInt64}
    (stored : authority.recoveryAddress = some recovery)
    (nonzero : newAdmin ≠ zeroAddress)
    (absent : authority.pendingRecovery = none) :
    ∃ next, book.post (.recoveryInitiated recovery newAdmin executeAfter) =
        some next ∧
      next.Tells
        { authority with
          pendingRecovery := some ⟨newAdmin, executeAfter, recovery⟩ }
        paused wasm := by
  have known : recovery = book.recoveryAddress :=
    Option.some.inj (stored.symm.trans tells.recoveryAddress)
  have idle : book.pendingRecovery = none :=
    tells.pendingRecovery.symm.trans absent
  exact ⟨_, follow_eq_some.mpr ⟨⟨known, nonzero, idle⟩, rfl⟩,
    { tells with pendingRecovery := rfl }⟩

theorem Tells.cancelled {pending : PendingRecovery}
    (stored : authority.pendingRecovery = some pending) :
    ∃ next, book.post .recoveryCancelled = some next ∧
      next.Tells { authority with pendingRecovery := none } paused wasm := by
  have waiting : book.pendingRecovery ≠ none := by
    rw [← tells.pendingRecovery, stored]
    simp
  exact ⟨_, follow_eq_some.mpr ⟨waiting, rfl⟩,
    { tells with pendingRecovery := rfl }⟩

theorem Tells.recovered {pending : PendingRecovery}
    (stored : authority.pendingRecovery = some pending) :
    ∃ next, book.post (.recoveryExecuted
        ⟨authority.admin.getD [], [pending.newAdmin]⟩) = some next ∧
      next.Tells
        { authority with
          admin := some [pending.newAdmin]
          threshold := some 1
          pendingRecovery := none }
        paused wasm := by
  have replaced : authority.admin.getD [] = book.admins := by
    rw [tells.admins]
    rfl
  have waiting : book.pendingRecovery.map
      (fun pending => [pending.newAdmin]) = some [pending.newAdmin] := by
    rw [← tells.pendingRecovery, stored]
    rfl
  exact ⟨_, follow_eq_some.mpr ⟨⟨replaced, waiting⟩, rfl⟩,
    { tells with
      admins := rfl
      threshold := fun known same => same
      pendingRecovery := rfl }⟩

theorem Tells.transferred {oldAdmins newAdmins : List Address}
    {threshold : UInt32} (stored : authority.admin = some oldAdmins)
    (valid : ValidAdmins newAdmins threshold) :
    ∃ next, book.post (.adminTransferred ⟨oldAdmins, newAdmins⟩) =
        some next ∧
      next.Tells
        { authority with
          admin := some newAdmins
          threshold := some threshold }
        paused wasm := by
  have replaced : oldAdmins = book.admins :=
    Option.some.inj (stored.symm.trans tells.admins)
  exact ⟨_, follow_eq_some.mpr ⟨⟨replaced, valid.nonempty, valid.distinct,
      valid.nonzero⟩, rfl⟩,
    { tells with
      admins := rfl
      threshold := fun known same => by cases same }⟩

theorem Tells.adjusted {admins : List Address} {current new : UInt32}
    (stored : authority.admin = some admins)
    (required : authority.threshold = some current)
    (positive : 1 ≤ new.toNat) (attainable : new.toNat ≤ admins.length) :
    ∃ next, book.post (.thresholdChanged current new) = some next ∧
      next.Tells { authority with threshold := some new } paused wasm := by
  have listed : admins = book.admins :=
    Option.some.inj (stored.symm.trans tells.admins)
  have agrees : book.threshold = none ∨ book.threshold = some current := by
    cases held : book.threshold with
    | none => exact .inl rfl
    | some known =>
        have same := tells.threshold known held
        exact .inr (same.symm.trans required)
  refine ⟨_, follow_eq_some.mpr ⟨⟨agrees, positive, ?_⟩, rfl⟩,
    { tells with threshold := fun known same => same }⟩
  rw [← listed]
  exact attainable

theorem Tells.upgraded (wasmHash : BytesN 32) :
    ∃ next, book.post (.contractUpgraded wasmHash) = some next ∧
      next.Tells authority paused (some wasmHash) :=
  ⟨_, rfl, { tells with wasm := rfl }⟩

theorem Tells.stopped (unpaused : paused = false) :
    ∃ next, book.post .paused = some next ∧
      next.Tells authority true wasm :=
  ⟨_, follow_eq_some.mpr ⟨tells.paused.symm.trans unpaused, rfl⟩,
    { tells with paused := rfl }⟩

theorem Tells.resumed (stopped : paused = true) :
    ∃ next, book.post .unpaused = some next ∧
      next.Tells authority false wasm :=
  ⟨_, follow_eq_some.mpr ⟨tells.paused.symm.trans stopped, rfl⟩,
    { tells with paused := rfl }⟩

theorem Tells.migrated (unpaused : paused = false) :
    ∃ next, book.post .migrated = some next ∧
      next.Tells authority paused wasm :=
  ⟨_, follow_eq_some.mpr ⟨tells.paused.symm.trans unpaused, rfl⟩, tells⟩

end Posting

end ControlBook

end BettaPay.Common
