import BettaPay.Host.Run

namespace BettaPay.Host

/-! Machines that have to be set up before they do anything, and only
once. -/

/-- `founder` is whom a call that sets the machine up names, `signs` whether
a party signed the call, and `recorded` whom the state holds. -/
structure Foundable (σ ε ι ο δ : Type) where
  step : ι → Tx σ ε ο
  start : σ
  founder : ι → Option δ
  signs : ι → δ → Bool
  reads : ι → Bool
  Blank : σ → Prop
  Alive : σ → Prop
  recorded : σ → Option δ
  blank : Blank start
  founding : ∀ {input before after reply who}, founder input = some who →
    step input before = .ok (reply, after) →
    signs input who = true ∧ ¬ Alive before ∧ Alive after ∧
      recorded after = some who
  waiting : ∀ {input before after reply}, founder input = none →
    Blank before → step input before = .ok (reply, after) →
    reads input = true ∧ Blank after
  lasting : ∀ {input before after reply}, Alive before →
    step input before = .ok (reply, after) →
    Alive after ∧ recorded after = recorded before

namespace Foundable

variable {σ ε ι ο δ : Type} (machine : Foundable σ ε ι ο δ)
  (inputs : List ι)

/-- The state just before the call at `index`. -/
abbrev before (index : Nat) : σ :=
  stateAt machine.step machine.start inputs index

/-- The call at `index` sets the machine up for `who`. -/
def Founds (index : Nat) (who : δ) : Prop :=
  ∃ input reply, machine.founder input = some who ∧
    Succeeds machine.step machine.start inputs index input reply

/-- Everything that commits at `index` only reads. -/
def OnlyReads (index : Nat) : Prop :=
  ∀ input reply,
    Succeeds machine.step machine.start inputs index input reply →
    machine.reads input = true

/-- At most one call sets the machine up: until then it stays blank, and
from then on it is alive and records who set it up. -/
inductive SetUpOnce : Prop where
  | never (blank : ∀ index, machine.Blank (machine.before inputs index))
      (idle : ∀ index, machine.OnlyReads inputs index)
  | once (first : Nat) (who : δ) (founds : machine.Founds inputs first who)
      (signed : ∃ input, inputs[first]? = some input ∧
        machine.signs input who = true)
      (blank : ∀ index, index ≤ first →
        machine.Blank (machine.before inputs index))
      (idle : ∀ index, index < first → machine.OnlyReads inputs index)
      (alive : ∀ index, first < index →
        machine.Alive (machine.before inputs index) ∧
        machine.recorded (machine.before inputs index) = some who)
      (alone : ∀ index who', machine.Founds inputs index who' →
        index = first)

variable {machine inputs}

/-- A call on a blank machine that does not set it up leaves it blank. -/
theorem blank_succ {index : Nat}
    (blank : machine.Blank (machine.before inputs index))
    (unfounded : ∀ who, ¬ machine.Founds inputs index who) :
    machine.OnlyReads inputs index ∧
      machine.Blank (machine.before inputs (index + 1)) := by
  have waits : ∀ input reply,
      Succeeds machine.step machine.start inputs index input reply →
      machine.reads input = true ∧
        machine.Blank (machine.before inputs (index + 1)) := by
    intro input reply succeeded
    have idle : machine.founder input = none := by
      cases named : machine.founder input with
      | none => rfl
      | some who =>
          exact absurd ⟨input, reply, named, succeeded⟩ (unfounded who)
    exact machine.waiting idle blank succeeded.2
  refine ⟨fun input reply succeeded => (waits input reply succeeded).1, ?_⟩
  rcases @stateAt_succ_eq_or_succeeds _ _ _ _ machine.step machine.start
    inputs index with unchanged | ⟨input, reply, succeeded⟩
  · rw [before, unchanged]
    exact blank
  · exact (waits input reply succeeded).2

theorem blank_until {index : Nat}
    (unfounded : ∀ earlier, earlier < index → ∀ who,
      ¬ machine.Founds inputs earlier who) :
    machine.Blank (machine.before inputs index) := by
  induction index with
  | zero => exact machine.blank
  | succ index induction =>
      exact (blank_succ
        (induction fun earlier bound => unfounded earlier (by omega))
        (unfounded index (by omega))).2

theorem alive_after {first index : Nat} {who : δ}
    (founds : machine.Founds inputs first who) (later : first < index) :
    machine.Alive (machine.before inputs index) ∧
      machine.recorded (machine.before inputs index) = some who := by
  obtain ⟨input, reply, named, succeeded⟩ := founds
  obtain ⟨_, _, alive, recorded⟩ := machine.founding named succeeded.2
  refine @stateAt_kept _ _ _ _ machine.step machine.start inputs
    (first + 1) index
    (fun state => machine.Alive state ∧ machine.recorded state = some who)
    later ?_ ⟨alive, recorded⟩
  intro position input reply _ _ succeeded holds
  obtain ⟨alive, kept⟩ := machine.lasting holds.1 succeeded.2
  exact ⟨alive, kept.trans holds.2⟩

theorem founds_unique {first second : Nat} {who who' : δ}
    (founds : machine.Founds inputs first who)
    (founds' : machine.Founds inputs second who') : first ≤ second := by
  apply Nat.le_of_not_lt
  intro earlier
  obtain ⟨input, reply, named, succeeded⟩ := founds
  exact (machine.founding named succeeded.2).2.1
    (alive_after founds' earlier).1

variable (machine inputs)

theorem setUpOnce : machine.SetUpOnce inputs := by
  by_cases ever : ∃ first who, machine.Founds inputs first who
  · obtain ⟨first, who, founds⟩ := ever
    have unfounded : ∀ earlier, earlier < first → ∀ who,
        ¬ machine.Founds inputs earlier who := by
      intro earlier bound who founds'
      have ordered := founds_unique founds founds'
      omega
    have blank : ∀ index, index ≤ first →
        machine.Blank (machine.before inputs index) := by
      intro index bound
      exact blank_until fun earlier below =>
        unfounded earlier (by omega)
    refine .once first who founds ?_ blank ?_
      (fun index later => alive_after founds later) ?_
    · obtain ⟨input, reply, named, succeeded⟩ := founds
      exact ⟨input, succeeded.1,
        (machine.founding named succeeded.2).1⟩
    · intro index bound
      exact (blank_succ (blank index (by omega)) (unfounded index bound)).1
    · intro index who' founds'
      exact Nat.le_antisymm (founds_unique founds' founds)
        (founds_unique founds founds')
  · have unfounded : ∀ index who, ¬ machine.Founds inputs index who :=
      fun index who founds => ever ⟨index, who, founds⟩
    have blank : ∀ index, machine.Blank (machine.before inputs index) :=
      fun index => blank_until fun earlier _ => unfounded earlier
    exact .never blank fun index =>
      (blank_succ (blank index) (unfounded index)).1

end Foundable

end BettaPay.Host
