import Mathlib.Data.Set.Card
import Mathlib.Data.Finite.Prod
import Mathlib.Data.List.Dedup

namespace BettaPay.Host

/-! The number of entries of a finite key-value table. -/

variable {κ α : Type}

instance instFiniteBitVec (width : Nat) : Finite (BitVec width) :=
  Finite.of_injective BitVec.toFin fun _ _ => BitVec.eq_of_toFin_eq

noncomputable def size (table : κ → Option α) : Nat :=
  {key | (table key).isSome}.ncard

theorem size_empty : size (fun _ : κ => (none : Option α)) = 0 := by
  simp [size]

/-- The table without the entries that `erased` selects. -/
def eraseIf (erased : κ → α → Bool) (table : κ → Option α) :
    κ → Option α :=
  fun key => (table key).filter fun value => !erased key value

theorem eraseIf_eq_some {erased : κ → α → Bool} {table : κ → Option α}
    {key : κ} {value : α} :
    eraseIf erased table key = some value ↔
      table key = some value ∧ erased key value = false := by
  simp [eraseIf, Option.filter_eq_some_iff]

theorem eraseIf_never (table : κ → Option α) :
    eraseIf (fun _ _ => false) table = table := by
  funext key
  cases found : table key <;> simp [eraseIf, found]

theorem eraseIf_idem (erased : κ → α → Bool) (table : κ → Option α) :
    eraseIf erased (eraseIf erased table) = eraseIf erased table := by
  funext key
  apply Option.ext
  intro value
  simp only [eraseIf_eq_some, and_assoc, and_self]

variable [DecidableEq κ]

theorem erase_absent {table : κ → Option α} {key : κ}
    (absent : table key = none) : Function.update table key none = table := by
  rw [← absent]
  exact Function.update_eq_self key table

theorem update_none_eq_some {table : κ → Option α} {erased key : κ}
    {value : α}
    (stored : Function.update table erased none key = some value) :
    table key = some value := by
  by_cases same : key = erased
  · simp [same] at stored
  · simpa [Function.update_of_ne same] using stored

variable [Finite κ]

theorem size_insert {table : κ → Option α} {key : κ} (value : α)
    (absent : table key = none) :
    size (Function.update table key (some value)) = size table + 1 := by
  have grown : {other | (Function.update table key (some value) other).isSome} =
      insert key {other | (table other).isSome} := by
    ext other
    by_cases same : other = key <;> simp [Function.update_apply, same]
  rw [size, grown, Set.ncard_insert_of_notMem (by simp [absent])
    (Set.toFinite _)]
  rfl

theorem size_erase {table : κ → Option α} {key : κ}
    (present : (table key).isSome) :
    size (Function.update table key none) + 1 = size table := by
  have shrunk : {other | (Function.update table key none other).isSome} =
      {other | (table other).isSome} \ {key} := by
    ext other
    by_cases same : other = key <;> simp [Function.update_apply, same]
  rw [size, shrunk]
  exact Set.ncard_sdiff_singleton_add_one present (Set.toFinite _)

omit [DecidableEq κ] in
theorem size_eraseIf (erased : κ → α → Bool) (table : κ → Option α) :
    size (eraseIf erased table) +
        {key | (table key).any (erased key) = true}.ncard =
      size table := by
  have shrunk : {key | (eraseIf erased table key).isSome} =
      {key | (table key).isSome} \
        {key | (table key).any (erased key) = true} := by
    ext key
    cases found : table key <;> simp [eraseIf, found]
  rw [size, shrunk]
  apply Set.ncard_sdiff_add_ncard_of_subset _ (Set.toFinite _)
  intro key hit
  obtain ⟨value, found, _⟩ := (Option.any_eq_true _ _).mp hit
  exact Option.isSome_iff_exists.mpr ⟨value, found⟩

/-- The distinct listed values that a test accepts, counted. -/
theorem ncard_listed [DecidableEq α] (items : List α) (accepts : α → Bool) :
    {item | item ∈ items ∧ accepts item = true}.ncard =
      (items.dedup.filter accepts).length := by
  have listed : {item | item ∈ items ∧ accepts item = true} =
      ((items.dedup.filter accepts).toFinset : Set α) := by
    ext item
    simp
  rw [listed, Set.ncard_coe_finset,
    List.toFinset_card_of_nodup (items.nodup_dedup.filter accepts)]

end BettaPay.Host
