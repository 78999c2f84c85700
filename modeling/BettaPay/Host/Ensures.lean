import BettaPay.Host.Consumption

namespace BettaPay.Host.Tx

/-! What an action ensures however it ends: a condition on the state where it
succeeds, a condition on the failure where it does not. -/

variable {σ ε α β : Type}

class Ensures (given ensured : σ → Prop) (allowed : ε → Prop)
    (action : Tx σ ε α) : Prop where
  ok : ∀ (state after : σ) (value : α), given state →
    action state = .ok (value, after) → ensured after
  error : ∀ (state : σ) (failure : ε), given state →
    action state = .error failure → allowed failure

namespace Ensures

variable {given between ensured weaker : σ → Prop} {allowed : ε → Prop}

theorem andThen {first : Tx σ ε α} {next : α → Tx σ ε β}
    (ensures : Ensures given between allowed first)
    (continues : ∀ value, Ensures between ensured allowed (next value)) :
    Ensures given ensured allowed (first >>= next) where
  ok := by
    intro state after value holds succeeded
    obtain ⟨found, middle, ran, continued⟩ := bind_ok.mp succeeded
    have held := ensures.ok state middle found holds ran
    exact (continues found).ok middle after value held continued
  error := by
    intro state failure holds failed
    rcases bind_error.mp failed with stopped |
      ⟨found, middle, ran, stopped⟩
    · exact ensures.error state failure holds stopped
    · have held := ensures.ok state middle found holds ran
      exact (continues found).error middle failure held stopped

theorem writing {write : σ → σ}
    (written : ∀ state, given state → ensured (write state)) :
    Ensures given ensured allowed (writeState write : Tx σ ε Unit) where
  ok := by
    intro state after value holds succeeded
    cases writeState_ok.mp succeeded
    exact written state holds
  error := by
    intro state failure _ failed
    cases failed

theorem weaken {action : Tx σ ε α}
    (ensures : Ensures given ensured allowed action)
    (weakens : ∀ state, ensured state → weaker state) :
    Ensures given weaker allowed action where
  ok := fun state after value holds succeeded =>
    weakens after (ensures.ok state after value holds succeeded)
  error := ensures.error

/-- The symbols ahead are read first. -/
theorem afterReading {τ : Type} {ahead : List τ → σ → Prop}
    {first : Tx σ ε α} {next : α → Tx σ ε β} {symbols rest : List τ}
    {value : α} (consumes : Consumes ahead first symbols value)
    (continues : Ensures (ahead rest) ensured allowed (next value)) :
    Ensures (ahead (symbols ++ rest)) ensured allowed (first >>= next) where
  ok := by
    intro state after result here succeeded
    obtain ⟨middle, ran, behind⟩ := consumes rest state here
    rw [bind_of_ok ran] at succeeded
    exact continues.ok middle after result behind succeeded
  error := by
    intro state failure here failed
    obtain ⟨middle, ran, behind⟩ := consumes rest state here
    rw [bind_of_ok ran] at failed
    exact continues.error middle failure behind failed

/-! Invariants, which every part of an action keeps. -/

instance pure {value : α} :
    Ensures given given allowed (pure value : Tx σ ε α) where
  ok := by
    intro state after result holds succeeded
    obtain ⟨_, rfl⟩ := pure_ok.mp succeeded
    exact holds
  error := by
    intro state failure _ failed
    cases failed

instance readState : Ensures given given allowed (Tx.readState : Tx σ ε σ)
    where
  ok := by
    intro state after value holds succeeded
    obtain ⟨_, rfl⟩ := readState_ok.mp succeeded
    exact holds
  error := by
    intro state failure _ failed
    cases failed

instance bind {first : Tx σ ε α} {next : α → Tx σ ε β}
    [ensures : Ensures given given allowed first]
    [continues : ∀ value, Ensures given given allowed (next value)] :
    Ensures given given allowed (first >>= next) :=
  andThen ensures continues

instance ite {condition : Prop} [Decidable condition] {yes no : Tx σ ε α}
    [ensuresYes : Ensures given given allowed yes]
    [ensuresNo : Ensures given given allowed no] :
    Ensures given given allowed (if condition then yes else no) := by
  split
  · exact ensuresYes
  · exact ensuresNo

instance times {action : Tx σ ε α} {count : Nat}
    [ensures : Ensures given given allowed action] :
    Ensures given given allowed (times action count) := by
  induction count with
  | zero => exact pure
  | succ count induction =>
      unfold Tx.times
      infer_instance

end Ensures

end BettaPay.Host.Tx
