import Mathlib.Data.List.Nodup

namespace BettaPay.Host

/-! Dictionaries that remember the order in which their keys were first
set. -/

variable {κ ν : Type}

abbrev Dict (κ ν : Type) := List (κ × ν)

namespace Dict

def keys (dict : Dict κ ν) : List κ := dict.map Prod.fst

variable [DecidableEq κ]

/-- A key that is there keeps its place and gets the new value. -/
def set (dict : Dict κ ν) (key : κ) (value : ν) : Dict κ ν :=
  match dict with
  | [] => [(key, value)]
  | (found, old) :: rest =>
      if found = key then (key, value) :: rest
      else (found, old) :: set rest key value

theorem mem_keys_set {dict : Dict κ ν} {key other : κ} {value : ν} :
    other ∈ (dict.set key value).keys ↔ other = key ∨ other ∈ dict.keys := by
  induction dict with
  | nil => simp [set, keys]
  | cons pair rest induction =>
      rcases pair with ⟨found, old⟩
      simp only [keys, set] at induction ⊢
      split
      · rename_i same
        simp [same]
      · simp only [List.map_cons, List.mem_cons, induction]
        tauto

theorem mem_set {dict : Dict κ ν} {key : κ} {value : ν} {pair : κ × ν}
    (member : pair ∈ dict.set key value) :
    pair = (key, value) ∨ pair ∈ dict := by
  induction dict with
  | nil => exact .inl (by simpa [set] using member)
  | cons first rest induction =>
      rcases first with ⟨found, old⟩
      simp only [set] at member
      split at member
      · rcases List.mem_cons.mp member with here | later
        · exact .inl here
        · exact .inr (List.mem_cons_of_mem _ later)
      · rcases List.mem_cons.mp member with here | later
        · exact .inr (here ▸ List.mem_cons_self)
        · rcases induction later with here | there
          · exact .inl here
          · exact .inr (List.mem_cons_of_mem _ there)

theorem nodup_set {dict : Dict κ ν} {key : κ} {value : ν}
    (distinct : dict.keys.Nodup) : (dict.set key value).keys.Nodup := by
  induction dict with
  | nil => simp [set, keys]
  | cons first rest induction =>
      rcases first with ⟨found, old⟩
      obtain ⟨fresh, others⟩ := List.nodup_cons.mp distinct
      simp only [set]
      split
      · rename_i same
        rw [← same]
        exact distinct
      · rename_i different
        refine List.nodup_cons.mpr ⟨?_, induction others⟩
        intro member
        rcases mem_keys_set.mp member with same | there
        · exact different same
        · exact fresh there

end Dict

end BettaPay.Host
