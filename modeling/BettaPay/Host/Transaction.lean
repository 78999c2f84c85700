namespace BettaPay.Host

/-- A transaction either fails and leaves nothing behind, or yields a result
together with the state to be committed. -/
def Tx (σ ε α : Type) := σ → Except ε (α × σ)

namespace Tx

variable {σ ε α β : Type}

instance : Monad (Tx σ ε) where
  pure value := fun state => .ok (value, state)
  bind first next := fun state =>
    match first state with
    | .ok (value, middle) => next value middle
    | .error failure => .error failure

def readState : Tx σ ε σ := fun state => .ok (state, state)

def writeState (write : σ → σ) : Tx σ ε Unit :=
  fun state => .ok ((), write state)

def panic (failure : ε) : Tx σ ε α := fun _ => .error failure

def panicIf (condition : Prop) [Decidable condition] (failure : ε) :
    Tx σ ε Unit :=
  if condition then panic failure else pure ()

/-- The value of an option, or a panic when there is none. -/
def expect (value : Option α) (failure : ε) : Tx σ ε α :=
  match value with
  | some found => pure found
  | none => panic failure

/-! Inversion of successful transactions. Every rule reads a success back as
the facts that made it possible. -/

@[simp] theorem pure_ok {value result : α} {before after : σ} :
    (pure value : Tx σ ε α) before = .ok (result, after) ↔
      value = result ∧ before = after := by
  change Except.ok (value, before) = Except.ok (result, after) ↔ _
  simp

@[simp] theorem bind_ok {first : Tx σ ε α} {next : α → Tx σ ε β}
    {before : σ} {outcome : β × σ} :
    (first >>= next) before = .ok outcome ↔
      ∃ value middle, first before = .ok (value, middle) ∧
        next value middle = .ok outcome := by
  change (match first before with
    | .ok (value, middle) => next value middle
    | .error failure => .error failure) = _ ↔ _
  cases first before with
  | ok pair =>
      rcases pair with ⟨value, middle⟩
      constructor
      · intro continued
        exact ⟨value, middle, rfl, continued⟩
      · intro given
        obtain ⟨_, _, same, continued⟩ := given
        cases same
        exact continued
  | error failure => simp

@[simp] theorem readState_ok {before result after : σ} :
    (readState : Tx σ ε σ) before = .ok (result, after) ↔
      before = result ∧ before = after := by
  simp [readState]

@[simp] theorem writeState_ok {write : σ → σ} {before after : σ}
    {result : Unit} :
    (writeState write : Tx σ ε Unit) before = .ok (result, after) ↔
      write before = after := by
  simp [writeState]

@[simp] theorem panic_ok {failure : ε} {before : σ} {outcome : α × σ} :
    (panic failure : Tx σ ε α) before = .ok outcome ↔ False := by
  simp [panic]

@[simp] theorem ite_ok {condition : Prop} [Decidable condition]
    {yes no : Tx σ ε α} {before : σ} {outcome : α × σ} :
    (if condition then yes else no) before = .ok outcome ↔
      (condition ∧ yes before = .ok outcome) ∨
        (¬ condition ∧ no before = .ok outcome) := by
  by_cases holds : condition <;> simp [holds]

@[simp] theorem panicIf_ok {condition : Prop} [Decidable condition]
    {failure : ε} {before after : σ} {result : Unit} :
    (panicIf condition failure : Tx σ ε Unit) before = .ok (result, after) ↔
      ¬ condition ∧ before = after := by
  simp [panicIf]

@[simp] theorem expect_ok {value : Option α} {failure : ε}
    {before after : σ} {result : α} :
    (expect value failure : Tx σ ε α) before = .ok (result, after) ↔
      value = some result ∧ before = after := by
  cases value <;> simp [expect]

theorem bind_of_ok {first : Tx σ ε α} {next : α → Tx σ ε β}
    {before middle : σ} {value : α}
    (succeeded : first before = .ok (value, middle)) :
    (first >>= next) before = next value middle := by
  change (match first before with
    | .ok (value, middle) => next value middle
    | .error failure => .error failure) = _
  rw [succeeded]

/-- Where the continuation cannot fail. -/
theorem bind_isOk {first : Tx σ ε α} {next : α → Tx σ ε β} {before : σ}
    (accepts : ∀ value middle, (next value middle).isOk = true) :
    ((first >>= next) before).isOk = (first before).isOk := by
  change Except.isOk (match first before with
    | .ok (value, middle) => next value middle
    | .error failure => .error failure) = _
  cases attempt : first before with
  | error failure => rfl
  | ok outcome => exact accepts outcome.1 outcome.2

/-- Continuations that agree on what the first action yields. -/
theorem bind_congr_ok {first : Tx σ ε α} {next next' : α → Tx σ ε β}
    {before : σ}
    (agree : ∀ value middle, first before = .ok (value, middle) →
      next value middle = next' value middle) :
    (first >>= next) before = (first >>= next') before := by
  change (match first before with
    | .ok (value, middle) => next value middle
    | .error failure => .error failure) =
    (match first before with
    | .ok (value, middle) => next' value middle
    | .error failure => .error failure)
  cases attempt : first before with
  | ok outcome =>
      rcases outcome with ⟨value, middle⟩
      exact agree value middle attempt
  | error failure => rfl

@[simp] theorem readState_bind {next : σ → Tx σ ε α} {before : σ} :
    (readState >>= next) before = next before before := rfl

/-! Failures, read back the same way. -/

@[simp] theorem pure_error {value : α} {before : σ} {failure : ε} :
    (pure value : Tx σ ε α) before = .error failure ↔ False := by
  change Except.ok (value, before) = Except.error failure ↔ _
  simp

@[simp] theorem bind_error {first : Tx σ ε α} {next : α → Tx σ ε β}
    {before : σ} {failure : ε} :
    (first >>= next) before = .error failure ↔
      first before = .error failure ∨
        ∃ value middle, first before = .ok (value, middle) ∧
          next value middle = .error failure := by
  change (match first before with
    | .ok (value, middle) => next value middle
    | .error failure => .error failure) = _ ↔ _
  cases first before with
  | ok pair =>
      rcases pair with ⟨value, middle⟩
      constructor
      · intro continued
        exact .inr ⟨value, middle, rfl, continued⟩
      · rintro (failed | ⟨_, _, same, continued⟩)
        · cases failed
        · cases same
          exact continued
  | error failed => simp

instance : LawfulMonad (Tx σ ε) := by
  refine LawfulMonad.mk' _ ?_ (fun _ _ => rfl) ?_
  · intro α action
    funext state
    change (action >>= pure) state = action state
    cases ran : action state with
    | ok outcome => exact bind_of_ok ran
    | error failure => exact bind_error.mpr (.inl ran)
  · intro α β γ first second third
    funext state
    cases ran : first state with
    | ok outcome =>
        have begun : (first >>= second) state = second outcome.1 outcome.2 :=
          bind_of_ok ran
        refine Eq.trans ?_ (bind_of_ok ran).symm
        cases continued : second outcome.1 outcome.2 with
        | ok result =>
            rw [bind_of_ok (begun.trans continued), bind_of_ok continued]
        | error failure =>
            rw [bind_error.mpr (.inl (begun.trans continued)),
              bind_error.mpr (.inl continued)]
    | error failure =>
        have failed : (first >>= second) state = .error failure :=
          bind_error.mpr (.inl ran)
        rw [bind_error.mpr (.inl failed), bind_error.mpr (.inl ran)]

@[simp] theorem map_ok {reply : α → β} {action : Tx σ ε α}
    {before after : σ} {result : β} :
    (reply <$> action) before = .ok (result, after) ↔
      ∃ value, action before = .ok (value, after) ∧ reply value = result := by
  rw [← bind_pure_comp, bind_ok]
  simp only [pure_ok]
  constructor
  · intro given
    obtain ⟨value, _, done, same, rfl⟩ := given
    exact ⟨value, done, same⟩
  · intro given
    obtain ⟨value, done, same⟩ := given
    exact ⟨value, after, done, same, rfl⟩

@[simp] theorem map_error {reply : α → β} {action : Tx σ ε α} {before : σ}
    {failure : ε} :
    (reply <$> action) before = .error failure ↔
      action before = .error failure := by
  rw [← bind_pure_comp, bind_error, or_iff_left_iff_imp]
  intro given
  obtain ⟨_, _, _, impossible⟩ := given
  cases impossible

@[simp] theorem readState_error {before : σ} {failure : ε} :
    (readState : Tx σ ε σ) before = .error failure ↔ False := by
  simp [readState]

@[simp] theorem writeState_error {write : σ → σ} {before : σ} {failure : ε} :
    (writeState write : Tx σ ε Unit) before = .error failure ↔ False := by
  simp [writeState]

@[simp] theorem panic_error {failed failure : ε} {before : σ} :
    (panic failed : Tx σ ε α) before = .error failure ↔
      failed = failure := by
  simp [panic]

@[simp] theorem ite_error {condition : Prop} [Decidable condition]
    {yes no : Tx σ ε α} {before : σ} {failure : ε} :
    (if condition then yes else no) before = .error failure ↔
      (condition ∧ yes before = .error failure) ∨
        (¬ condition ∧ no before = .error failure) := by
  by_cases holds : condition <;> simp [holds]

@[simp] theorem panicIf_error {condition : Prop} [Decidable condition]
    {failed failure : ε} {before : σ} :
    (panicIf condition failed : Tx σ ε Unit) before = .error failure ↔
      condition ∧ failed = failure := by
  simp [panicIf]

@[simp] theorem expect_error {value : Option α} {failed failure : ε}
    {before : σ} :
    (expect value failed : Tx σ ε α) before = .error failure ↔
      value = none ∧ failed = failure := by
  cases value <;> simp [expect]

/-! Failures that a transaction cannot end in. -/

def Avoids (failure : ε) (action : Tx σ ε α) (state : σ) : Prop :=
  action state ≠ .error failure

section Avoids

variable {failure : ε} {state : σ}

@[simp] theorem avoids_pure {value : α} :
    Avoids failure (pure value : Tx σ ε α) state := by
  simp [Avoids]

@[simp] theorem avoids_bind {first : Tx σ ε α} {next : α → Tx σ ε β} :
    Avoids failure (first >>= next) state ↔
      Avoids failure first state ∧
        ∀ value middle, first state = .ok (value, middle) →
          Avoids failure (next value) middle := by
  simp only [Avoids, ne_eq, bind_error, not_or, not_exists, not_and]

@[simp] theorem avoids_map {reply : α → β} {action : Tx σ ε α} :
    Avoids failure (reply <$> action) state ↔
      Avoids failure action state := by
  simp [Avoids]

@[simp] theorem avoids_readState :
    Avoids failure (readState : Tx σ ε σ) state := by
  simp [Avoids]

@[simp] theorem avoids_writeState {write : σ → σ} :
    Avoids failure (writeState write : Tx σ ε Unit) state := by
  simp [Avoids]

@[simp] theorem avoids_panic {failed : ε} :
    Avoids failure (panic failed : Tx σ ε α) state ↔ failed ≠ failure := by
  simp [Avoids]

@[simp] theorem avoids_ite {condition : Prop} [Decidable condition]
    {yes no : Tx σ ε α} :
    Avoids failure (if condition then yes else no) state ↔
      (condition → Avoids failure yes state) ∧
        (¬ condition → Avoids failure no state) := by
  by_cases holds : condition <;> simp [holds]

@[simp] theorem avoids_panicIf {condition : Prop} [Decidable condition]
    {failed : ε} :
    Avoids failure (panicIf condition failed : Tx σ ε Unit) state ↔
      (condition → failed ≠ failure) := by
  simp [Avoids]

@[simp] theorem avoids_expect {value : Option α} {failed : ε} :
    Avoids failure (expect value failed : Tx σ ε α) state ↔
      (value = none → failed ≠ failure) := by
  simp [Avoids]

end Avoids

end Tx

theorem isOk_iff_exists {ε α β : Type} {attempt : Except ε (α × β)} :
    attempt.isOk = true ↔ ∃ value after, attempt = .ok (value, after) := by
  cases attempt with
  | ok outcome =>
      rcases outcome with ⟨value, after⟩
      simp [Except.isOk, Except.toBool]
  | error failure => simp [Except.isOk, Except.toBool]

theorem except_bind_ok {ε α β : Type} {first : Except ε α}
    {next : α → Except ε β} {result : β} :
    (first >>= next) = .ok result ↔
      ∃ value, first = .ok value ∧ next value = .ok result := by
  cases first <;> simp [bind, Except.bind]

/-- Run an action and return its value in another form. -/
def replying {σ ε α ρ : Type} (reply : α → ρ) (action : Tx σ ε α) :
    Tx σ ε ρ := do
  let value ← action
  pure (reply value)

@[simp] theorem replying_ok {σ ε α ρ : Type} {reply : α → ρ}
    {action : Tx σ ε α} {before after : σ} {result : ρ} :
    replying reply action before = .ok (result, after) ↔
      ∃ value, action before = .ok (value, after) ∧ reply value = result := by
  simp [replying]

@[simp] theorem replying_error {σ ε α ρ : Type} {reply : α → ρ}
    {action : Tx σ ε α} {before : σ} {failure : ε} :
    replying reply action before = .error failure ↔
      action before = .error failure := by
  simp [replying]

theorem replying_isOk {σ ε α ρ : Type} {reply : α → ρ}
    {action : Tx σ ε α} {before : σ} :
    (replying reply action before).isOk = (action before).isOk :=
  Tx.bind_isOk fun _ _ => rfl

@[simp] theorem avoids_replying {σ ε α ρ : Type} {reply : α → ρ}
    {action : Tx σ ε α} {state : σ} {failure : ε} :
    Tx.Avoids failure (replying reply action) state ↔
      Tx.Avoids failure action state := by
  simp [Tx.Avoids]

end BettaPay.Host
