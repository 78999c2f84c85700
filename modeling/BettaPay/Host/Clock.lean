namespace BettaPay.Host

/-! The times at which ledgers close. -/

/-- Consecutive ledgers are at least `pace` apart. -/
def Paced (pace : Nat) (closed : Nat → Nat) : Prop :=
  ∀ ledger, closed ledger + pace ≤ closed (ledger + 1)

/-- Ledgers close exactly every `pace`. -/
def Steady (pace : Nat) (closed : Nat → Nat) : Prop :=
  ∀ ledger, closed (ledger + 1) = closed ledger + pace

/-- The first ledger that does not close before `moment`. -/
structure FirstReaching (closed : Nat → Nat) (moment ledger : Nat) :
    Prop where
  reached : moment ≤ closed ledger
  first : ∀ earlier, earlier < ledger → closed earlier < moment

variable {pace : Nat} {closed : Nat → Nat}

theorem Paced.elapsed (paced : Paced pace closed) (ledger count : Nat) :
    closed ledger + pace * count ≤ closed (ledger + count) := by
  induction count with
  | zero => exact Nat.le_refl _
  | succ count induction =>
      have next := paced (ledger + count)
      rw [Nat.mul_succ, ← Nat.add_assoc]
      exact Nat.le_trans (Nat.add_le_add_right induction pace) next

theorem Steady.elapsed (steady : Steady pace closed) (ledger count : Nat) :
    closed (ledger + count) = closed ledger + pace * count := by
  induction count with
  | zero => rfl
  | succ count induction =>
      rw [← Nat.add_assoc, steady, induction, Nat.mul_succ, Nat.add_assoc]

theorem Steady.closed_of_le (steady : Steady pace closed)
    {ledger latest : Nat} (since : ledger ≤ latest) :
    closed latest = closed ledger + pace * (latest - ledger) := by
  rw [← steady.elapsed, Nat.add_sub_cancel' since]

/-- As many paces on, the moment has come. -/
theorem FirstReaching.le_of_paced {moment ledger first count : Nat}
    (reaching : FirstReaching closed moment ledger)
    (paced : Paced pace closed)
    (soon : moment ≤ closed first + pace * count) :
    ledger ≤ first + count := by
  apply Nat.le_of_not_lt
  intro later
  have early := reaching.first (first + count) later
  exact Nat.lt_irrefl _
    (Nat.lt_of_lt_of_le early
      (Nat.le_trans soon (paced.elapsed first count)))

end BettaPay.Host
