import BettaPay.Common.Multisig
import BettaPay.Host.Loops

namespace BettaPay.Common

open BettaPay.Host

/-! The loops of `verify_admin_auth` with their indices. -/

variable {σ ε : Type}

/-- Whether `signer` is one of the admins, as the inner loop finds it. -/
def searchAdmin (admins : List Address) (signer : Address) :
    Tx σ (Failure ε) Bool := do
  let mut isAdmin := false
  for j in between 0 admins.length do
    let admin ← Tx.expect admins[j]? .unwrapNone
    if signer = admin then
      isAdmin := true
      break
  return isAdmin

def rejectRepeated (signers : List Address) (i : Nat) (signer : Address)
    (unauthorized : ε) : Tx σ (Failure ε) Unit := do
  for j in between (i + 1) signers.length do
    let later ← Tx.expect signers[j]? .unwrapNone
    rejectIf (signer = later) unauthorized

def signerLoop (ledger : Ledger) (admins signers : List Address)
    (unauthorized : ε) : Tx σ (Failure ε) Unit := do
  for i in between 0 signers.length do
    let signer ← Tx.expect signers[i]? .unwrapNone
    let isAdmin ← searchAdmin admins signer
    rejectIf (isAdmin = false) unauthorized
    rejectRepeated signers i signer unauthorized
    requireAuth ledger signer

/-! What each loop finds on the items it has still to visit. -/

theorem search_visits {signer : Address} {admins : List Address}
    {start : Nat} :
    forIn (admins.zipIdx start) false (fun visited isAdmin =>
        if signer = visited.1 then pure (.done true)
        else pure (.yield isAdmin)) =
      (pure (decide (signer ∈ admins)) : Tx σ (Failure ε) Bool) := by
  induction admins generalizing start with
  | nil => rfl
  | cons admin rest induction =>
      rw [List.zipIdx_cons, List.forIn_cons]
      by_cases same : signer = admin
      · rw [if_pos same, pure_bind, decide_eq_true]
        exact same ▸ List.mem_cons_self
      · rw [if_neg same, pure_bind]
        simp only [induction, List.mem_cons, same, false_or]

theorem rejection_visits {signer : Address} {unauthorized : ε}
    {later : List Address} {start : Nat} :
    forIn (later.zipIdx start) PUnit.unit (fun visited _ => do
        rejectIf (signer = visited.1) unauthorized
        pure (.yield PUnit.unit)) =
      (rejectIf (signer ∈ later) unauthorized :
        Tx σ (Failure ε) Unit) := by
  induction later generalizing start with
  | nil => rfl
  | cons other rest induction =>
      rw [List.zipIdx_cons, List.forIn_cons]
      by_cases same : signer = other
      · simp only [rejectIf, Tx.panicIf, same, if_true, List.mem_cons,
          true_or]
        rfl
      · simp only [rejectIf, Tx.panicIf, same, if_false, List.mem_cons,
          false_or, pure_bind] at induction ⊢
        exact induction

theorem searchAdmin_eq {admins : List Address} {signer : Address} :
    (searchAdmin admins signer : Tx σ (Failure ε) Bool) =
      pure (decide (signer ∈ admins)) := by
  have searched := @Tx.forIn_between σ (Failure ε) Address Bool admins 0
    false .unwrapNone fun _ admin isAdmin =>
      if signer = admin then pure (.done true) else pure (.yield isAdmin)
  exact (congrArg (· >>= pure) (searched.trans search_visits)).trans
    (bind_pure _)

theorem rejectRepeated_eq {signers : List Address} {i : Nat}
    {signer : Address} {unauthorized : ε} :
    (rejectRepeated signers i signer unauthorized :
        Tx σ (Failure ε) Unit) =
      rejectIf (signer ∈ signers.drop (i + 1)) unauthorized := by
  have searched := @Tx.forIn_between σ (Failure ε) Address PUnit signers
    (i + 1) PUnit.unit .unwrapNone fun _ later _ => do
      rejectIf (signer = later) unauthorized
      pure (.yield PUnit.unit)
  exact (congrArg (· >>= pure) (searched.trans rejection_visits)).trans
    (bind_pure _)

/-- Positions still to visit are counted from the signers already checked. -/
theorem check_visits {ledger : Ledger} {admins signers front rest :
    List Address} {unauthorized : ε} (whole : signers = front ++ rest) :
    forIn (rest.zipIdx front.length) PUnit.unit (fun visited _ => do
        let isAdmin ← searchAdmin admins visited.1
        rejectIf (isAdmin = false) unauthorized
        rejectRepeated signers visited.2 visited.1 unauthorized
        requireAuth ledger visited.1
        pure (.yield PUnit.unit)) =
      (checkSigners ledger admins unauthorized rest :
        Tx σ (Failure ε) Unit) := by
  induction rest generalizing front with
  | nil => rfl
  | cons signer rest induction =>
      have later : signers.drop (front.length + 1) = rest := by
        rw [whole, ← List.drop_drop, List.drop_left, List.drop_one,
          List.tail_cons]
      have next := @induction (front ++ [signer])
        (by rw [whole, List.append_assoc, List.singleton_append])
      rw [List.length_append, List.length_singleton] at next
      have listed : (rejectIf (decide (signer ∈ admins) = false)
          unauthorized : Tx σ (Failure ε) Unit) =
            rejectIf (signer ∉ admins) unauthorized :=
        Tx.panicIf_congr decide_eq_false_iff_not
      rw [List.zipIdx_cons, List.forIn_cons, searchAdmin_eq, pure_bind,
        rejectRepeated_eq, later, listed, checkSigners, ← next]
      simp only [bind_assoc, pure_bind]

/-- The indices do what the recursion over the list does. -/
theorem signerLoop_eq {ledger : Ledger} {admins signers : List Address}
    {unauthorized : ε} :
    (signerLoop ledger admins signers unauthorized :
        Tx σ (Failure ε) Unit) =
      checkSigners ledger admins unauthorized signers := by
  have looped := @Tx.forIn_between σ (Failure ε) Address PUnit signers 0
    PUnit.unit .unwrapNone fun i signer _ => do
      let isAdmin ← searchAdmin admins signer
      rejectIf (isAdmin = false) unauthorized
      rejectRepeated signers i signer unauthorized
      requireAuth ledger signer
      pure (.yield PUnit.unit)
  have checked := @check_visits σ ε ledger admins signers [] signers
    unauthorized rfl
  exact (congrArg (· >>= pure) (looped.trans checked)).trans (bind_pure _)

end BettaPay.Common
