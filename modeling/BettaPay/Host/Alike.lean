import BettaPay.Host.Transaction

namespace BettaPay.Host

namespace Tx

variable {σ ε α β : Type}

/-- Two outcomes that a caller cannot tell apart: one value and related
states, or one failure. -/
inductive Alike (related : σ → σ → Prop) :
    Except ε (α × σ) → Except ε (α × σ) → Prop
  | ok {value : α} {after after' : σ} (same : related after after') :
      Alike related (.ok (value, after)) (.ok (value, after'))
  | error {failure : ε} : Alike related (.error failure) (.error failure)

namespace Alike

variable {related : σ → σ → Prop}

/-- What comes after a shared beginning decides. -/
theorem after {first : Tx σ ε α} {next next' : α → Tx σ ε β} {state : σ}
    (continues : ∀ value middle, first state = .ok (value, middle) →
      Alike related (next value middle) (next' value middle)) :
    Alike related ((first >>= next) state) ((first >>= next') state) := by
  cases ran : first state with
  | ok outcome =>
      obtain ⟨value, middle⟩ := outcome
      rw [bind_of_ok ran, bind_of_ok ran]
      exact continues value middle ran
  | error failure =>
      have stopped : (first >>= next) state = .error failure :=
        bind_error.mpr (.inl ran)
      have stopped' : (first >>= next') state = .error failure :=
        bind_error.mpr (.inl ran)
      rw [stopped, stopped']
      exact error

theorem andThen {first first' : Tx σ ε α} {next next' : α → Tx σ ε β}
    {state state' : σ}
    (alike : Alike related (first state) (first' state'))
    (continues : ∀ value {middle middle'}, related middle middle' →
      Alike related (next value middle) (next' value middle')) :
    Alike related ((first >>= next) state) ((first' >>= next') state') := by
  cases ran : first state with
  | ok outcome =>
      cases ran' : first' state' with
      | ok outcome' =>
          rw [ran, ran'] at alike
          cases alike with
          | ok same =>
              rw [bind_of_ok ran, bind_of_ok ran']
              exact continues _ same
      | error failure =>
          rw [ran, ran'] at alike
          cases alike
  | error failure =>
      cases ran' : first' state' with
      | ok outcome' =>
          rw [ran, ran'] at alike
          cases alike
      | error failure' =>
          rw [ran, ran'] at alike
          cases alike
          have stopped : (first >>= next) state = .error failure :=
            bind_error.mpr (.inl ran)
          have stopped' : (first' >>= next') state' = .error failure :=
            bind_error.mpr (.inl ran')
          rw [stopped, stopped']
          exact error

/-- The other outcome of an outcome that is known. -/
theorem error_iff {left right : Except ε (α × σ)} {failure : ε}
    (alike : Alike related left right) :
    left = .error failure ↔ right = .error failure := by
  cases alike with
  | ok same => simp
  | error => rfl

theorem of_ok {left right : Except ε (α × σ)} {value : α} {after : σ}
    (alike : Alike related left right) (succeeded : left = .ok (value, after)) :
    ∃ after', right = .ok (value, after') ∧ related after after' := by
  cases alike with
  | ok same =>
      cases succeeded
      exact ⟨_, rfl, same⟩
  | error => cases succeeded

end Alike

end Tx

end BettaPay.Host
