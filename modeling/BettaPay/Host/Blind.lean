import BettaPay.Host.Value

namespace BettaPay.Host

namespace Tx

variable {σ ε α β κ : Type}

/-! Transactions that neither depend on a hidden part of the state nor reveal
it. `blur` replaces the hidden part. -/

class Blind (blur : κ → σ → σ) (action : Tx σ ε α) : Prop where
  ok : ∀ (hidden : κ) {state after : σ} {value : α},
    action state = .ok (value, after) →
    ∃ hidden', action (blur hidden state) = .ok (value, blur hidden' after)
  error : ∀ (hidden : κ) {state : σ} {failure : ε},
    action state = .error failure →
    action (blur hidden state) = .error failure

namespace Blind

variable {blur : κ → σ → σ}

instance pure {value : α} : Blind blur (pure value : Tx σ ε α) where
  ok := by
    intro hidden state after result succeeded
    obtain ⟨rfl, rfl⟩ := pure_ok.mp succeeded
    exact ⟨hidden, rfl⟩
  error := by
    intro hidden state failure failed
    cases failed

instance panic {failure : ε} : Blind blur (panic failure : Tx σ ε α) where
  ok := by
    intro hidden state after value succeeded
    cases succeeded
  error := fun _ _ _ failed => failed

theorem andThen {first : Tx σ ε α} {next : α → Tx σ ε β}
    (blindFirst : Blind blur first)
    (blindNext : ∀ value, Blind blur (next value)) :
    Blind blur (first >>= next) where
  ok := by
    intro hidden state after value succeeded
    obtain ⟨found, middle, ran, continued⟩ := bind_ok.mp succeeded
    obtain ⟨hidden', ran'⟩ := blindFirst.ok hidden ran
    obtain ⟨hidden'', continued'⟩ := (blindNext found).ok hidden' continued
    exact ⟨hidden'', bind_ok.mpr ⟨found, _, ran', continued'⟩⟩
  error := by
    intro hidden state failure failed
    rcases bind_error.mp failed with stopped |
      ⟨found, middle, ran, stopped⟩
    · exact bind_error.mpr (.inl (blindFirst.error hidden stopped))
    · obtain ⟨hidden', ran'⟩ := blindFirst.ok hidden ran
      exact bind_error.mpr
        (.inr ⟨found, _, ran', (blindNext found).error hidden' stopped⟩)

instance bind {first : Tx σ ε α} {next : α → Tx σ ε β}
    [blindFirst : Blind blur first]
    [blindNext : ∀ value, Blind blur (next value)] :
    Blind blur (first >>= next) :=
  andThen blindFirst blindNext

instance ite {condition : Prop} [Decidable condition] {yes no : Tx σ ε α}
    [blindYes : Blind blur yes] [blindNo : Blind blur no] :
    Blind blur (if condition then yes else no) := by
  split
  · exact blindYes
  · exact blindNo

instance panicIf {condition : Prop} [Decidable condition] {failure : ε} :
    Blind blur (panicIf condition failure) := by
  unfold Tx.panicIf
  infer_instance

instance expect {value : Option α} {failure : ε} :
    Blind blur (expect value failure : Tx σ ε α) := by
  cases value with
  | none => exact Blind.panic
  | some found => exact Blind.pure

/-- A read whose use does not show the hidden part. -/
theorem read {next : σ → Tx σ ε α} (blind : ∀ state, Blind blur (next state))
    (steady : ∀ hidden state, next (blur hidden state) = next state) :
    Blind blur (readState >>= next) where
  ok := by
    intro hidden state after value succeeded
    rw [readState_bind] at succeeded ⊢
    rw [steady]
    exact (blind state).ok hidden succeeded
  error := by
    intro hidden state failure failed
    rw [readState_bind] at failed ⊢
    rw [steady]
    exact (blind state).error hidden failed

/-- A write that keeps the hidden part hidden. -/
theorem write {update : σ → σ}
    (carries : ∀ hidden state, ∃ hidden',
      update (blur hidden state) = blur hidden' (update state)) :
    Blind blur (writeState update : Tx σ ε Unit) where
  ok := by
    intro hidden state after value succeeded
    obtain rfl := writeState_ok.mp succeeded
    obtain ⟨hidden', carried⟩ := carries hidden state
    exact ⟨hidden', writeState_ok.mpr carried⟩
  error := by
    intro hidden state failure failed
    cases failed

end Blind

end Tx

section Primitives

variable {σ ε α β κ : Type} {blur : κ → σ → σ}

instance blind_requireAuth {ledger : Ledger} {address : Address} :
    Tx.Blind blur (requireAuth ledger address : Tx σ (Failure ε) Unit) := by
  unfold requireAuth
  infer_instance

instance blind_reject {error : ε} :
    Tx.Blind blur (reject error : Tx σ (Failure ε) α) :=
  Tx.Blind.panic

instance blind_rejectIf {condition : Prop} [Decidable condition]
    {error : ε} :
    Tx.Blind blur (rejectIf condition error : Tx σ (Failure ε) Unit) :=
  Tx.Blind.panicIf

instance blind_orReject {value : Option α} {error : ε} :
    Tx.Blind blur (orReject value error : Tx σ (Failure ε) α) :=
  Tx.Blind.expect

instance blind_orTrap {value : Option α} :
    Tx.Blind blur (orTrap value : Tx σ (Failure ε) α) :=
  Tx.Blind.expect

instance blind_orRaise {attempt : Except ε α} :
    Tx.Blind blur (orRaise attempt : Tx σ (Failure ε) α) := by
  cases attempt with
  | ok value => exact Tx.Blind.pure
  | error error => exact blind_reject

instance blind_unwrapFirst {items : List α} :
    Tx.Blind blur (unwrapFirst items : Tx σ (Failure ε) α) :=
  Tx.Blind.expect

instance blind_replying {action : Tx σ ε α} {reply : α → β}
    [blind : Tx.Blind blur action] :
    Tx.Blind blur (replying reply action) := by
  unfold replying
  infer_instance

end Primitives

end BettaPay.Host
