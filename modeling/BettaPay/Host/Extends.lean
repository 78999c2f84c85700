import BettaPay.Host.Consumption

namespace BettaPay.Host.Tx

/-! Actions that differ only where the shorter one gives up. -/

variable {σ ε α β : Type}

class Extends (gap : ε → Prop) (action longer : Tx σ ε α) : Prop where
  agrees : ∀ state, longer state = action state ∨
    ∃ failure, action state = .error failure ∧ gap failure

namespace Extends

variable {gap : ε → Prop} {action longer : Tx σ ε α}

instance same : Extends gap action action where
  agrees := fun _ => .inl rfl

instance bind {next next' : α → Tx σ ε β}
    [first : Extends gap action longer]
    [continues : ∀ value, Extends gap (next value) (next' value)] :
    Extends gap (action >>= next) (longer >>= next') where
  agrees := by
    intro state
    rcases first.agrees state with agrees | ⟨failure, failed, given⟩
    · cases ran : action state with
      | error failure =>
          left
          rw [ran] at agrees
          exact (bind_error.mpr (.inl agrees)).trans
            (bind_error.mpr (.inl ran)).symm
      | ok outcome =>
          obtain ⟨value, middle⟩ := outcome
          rw [ran] at agrees
          rw [bind_of_ok ran, bind_of_ok agrees]
          exact (continues value).agrees middle
    · exact .inr ⟨failure, bind_error.mpr (.inl failed), given⟩

instance ite {condition : Prop} [Decidable condition]
    {action' longer' : Tx σ ε α} [yes : Extends gap action longer]
    [no : Extends gap action' longer'] :
    Extends gap (if condition then action else action')
      (if condition then longer else longer') := by
  split
  · exact yes
  · exact no

instance times {count : Nat} [each : Extends gap action longer] :
    Extends gap (times action count) (times longer count) := by
  induction count with
  | zero => exact same
  | succ count induction =>
      unfold Tx.times
      infer_instance

/-- Where the shorter action does not give up, both are the same. -/
theorem settles (agreeing : Extends gap action longer) {state : σ}
    (settled : ∀ failure, action state = .error failure → ¬gap failure) :
    longer state = action state := by
  rcases agreeing.agrees state with agrees | ⟨failure, failed, given⟩
  · exact agrees
  · exact absurd given (settled failure failed)

end Extends

end BettaPay.Host.Tx
