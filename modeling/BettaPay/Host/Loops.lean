import BettaPay.Host.Transaction

namespace BettaPay.Host

/-! Loops over the positions of a list. -/

/-- The positions `first..last`. -/
def between (first last : Nat) : List Nat := List.range' first (last - first)

namespace Tx

variable {σ ε α β : Type}

theorem expect_some_bind {value : α} {failure : ε} {next : α → Tx σ ε β} :
    (expect (some value) failure >>= next) = next value := rfl

theorem panicIf_congr {condition condition' : Prop} [Decidable condition]
    [Decidable condition'] {failure : ε} (same : condition ↔ condition') :
    (panicIf condition failure : Tx σ ε Unit) =
      panicIf condition' failure := by
  by_cases holds : condition
  · rw [panicIf, panicIf, if_pos holds, if_pos (same.mp holds)]
  · rw [panicIf, panicIf, if_neg holds, if_neg (mt same.mpr holds)]

/-- A loop over positions that gets the item at each of them visits the rest
of the list. -/
theorem forIn_between {items : List α} {start : Nat} {initial : β} {failure : ε}
    {body : Nat → α → β → Tx σ ε (ForInStep β)} :
    forIn (between start items.length) initial (fun index accumulated => do
      let item ← expect items[index]? failure
      body index item accumulated) =
    forIn ((items.drop start).zipIdx start) initial
      fun visited accumulated => body visited.2 visited.1 accumulated := by
  generalize left : items.drop start = rest
  induction rest generalizing start initial with
  | nil =>
      have past : items.length ≤ start := List.drop_eq_nil_iff.mp left
      rw [between, Nat.sub_eq_zero_of_le past]
      rfl
  | cons item rest induction =>
      have inside : start < items.length := by
        apply Nat.lt_of_not_le
        intro past
        rw [List.drop_eq_nil_of_le past] at left
        cases left
      have here : items[start]? = some item := by
        rw [← List.head?_drop, left, List.head?_cons]
      have later : items.drop (start + 1) = rest := by
        rw [← List.tail_drop, left, List.tail_cons]
      have positions : between start items.length =
          start :: between (start + 1) items.length := by
        rw [between, between, ← List.range'_succ]
        congr 1
        omega
      rw [positions, List.zipIdx_cons, List.forIn_cons, List.forIn_cons,
        here, expect_some_bind]
      congr 1
      funext turn
      cases turn with
      | done result => rfl
      | yield accumulated => exact induction later

end Tx

end BettaPay.Host
