import BettaPay.Host.Transaction

namespace BettaPay.Host.Tx

/-! Actions that read what is ahead of a cursor. Which states have which
symbols ahead is left to the cursor. -/

variable {σ ε α β γ τ : Type} {ahead : List τ → σ → Prop}

/-- Where the symbols are ahead, whatever follows them, the action yields the
value and leaves just what follows. -/
def Consumes (ahead : List τ → σ → Prop) (action : Tx σ ε α)
    (symbols : List τ) (value : α) : Prop :=
  ∀ rest state, ahead (symbols ++ rest) state →
    ∃ after, action state = .ok (value, after) ∧ ahead rest after

/-- The values of `count` runs in a row. -/
def times (action : Tx σ ε α) : Nat → Tx σ ε (List α)
  | 0 => pure []
  | count + 1 => do
      let first ← action
      let others ← times action count
      pure (first :: others)

namespace Consumes

variable {action : Tx σ ε α} {symbols symbols' : List τ} {value : α}

theorem pure : Consumes ahead (pure value : Tx σ ε α) [] value := by
  intro rest state here
  exact ⟨state, rfl, here⟩

theorem andThen {next : α → Tx σ ε β} {result : β}
    (first : Consumes ahead action symbols value)
    (second : Consumes ahead (next value) symbols' result) :
    Consumes ahead (action >>= next) (symbols ++ symbols') result := by
  intro rest state here
  rw [List.append_assoc] at here
  obtain ⟨middle, ran, between⟩ := first _ _ here
  obtain ⟨after, continued, behind⟩ := second _ _ between
  exact ⟨after, (bind_of_ok ran).trans continued, behind⟩

theorem yielding {reply : α → β}
    (consumes : Consumes ahead action symbols value) :
    Consumes ahead (action >>= fun found => Pure.pure (reply found)) symbols
      (reply value) := by
  intro rest state here
  obtain ⟨after, ran, behind⟩ := consumes rest state here
  exact ⟨after, bind_of_ok ran, behind⟩

/-- A counted run of items reads them back when it reads each of them. -/
theorem times {items : List γ} {encode : γ → List τ} {render : γ → α}
    (each : ∀ item ∈ items, Consumes ahead action (encode item)
      (render item)) :
    Consumes ahead (times action items.length) (items.flatMap encode)
      (items.map render) := by
  induction items with
  | nil => exact pure
  | cons item rest induction =>
      have first := each item List.mem_cons_self
      have others := induction fun other member =>
        each other (List.mem_cons_of_mem item member)
      exact first.andThen others.yielding

end Consumes

end BettaPay.Host.Tx
