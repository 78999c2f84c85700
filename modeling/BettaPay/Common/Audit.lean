import BettaPay.Common.Recovery
import Mathlib.Data.List.Induction

namespace BettaPay.Common

open BettaPay.Host

/-! What the log of a contract says about its authority. -/

/-- A log entry about the authority: a transfer and a recovery name the new
admins, a threshold change the new threshold. -/
inductive Mark where
  | transferred (newAdmins : List Address)
  | recovered (newAdmins : List Address)
  | adjusted (newThreshold : UInt32)

/-- An authority as a reader of the log sees it. The threshold is unknown from
a transfer to the next recovery or threshold change. -/
structure Observed where
  admins : List Address
  threshold : Option UInt32

def Observed.read (observed : Observed) : Mark → Observed
  | .transferred newAdmins => ⟨newAdmins, none⟩
  | .recovered newAdmins => ⟨newAdmins, some 1⟩
  | .adjusted newThreshold => { observed with threshold := some newThreshold }

/-- What a call moves, what it adds to the log, and what it leaves unsaid:
`some (some threshold)` installs a threshold the log does not name, `some none`
ends the reign of such a threshold. -/
inductive Audited (before : Authority) :
    Option (Option UInt32) → List Mark → Authority → Prop where
  | idle {after : Authority} (admin : after.admin = before.admin)
      (threshold : after.threshold = before.threshold) :
      Audited before none [] after
  | transfer {after : Authority} {newAdmins : List Address}
      {newThreshold : UInt32} (admin : after.admin = some newAdmins)
      (threshold : after.threshold = some newThreshold) :
      Audited before (some (some newThreshold)) [.transferred newAdmins]
        after
  | recover {after : Authority} {newAdmins : List Address}
      (admin : after.admin = some newAdmins)
      (threshold : after.threshold = some 1) :
      Audited before (some none) [.recovered newAdmins] after
  | adjust {after : Authority} {newThreshold : UInt32}
      (admin : after.admin = before.admin)
      (threshold : after.threshold = some newThreshold) :
      Audited before (some none) [.adjusted newThreshold] after

/-- The log tells the admins, and together with the last unnamed threshold it
tells the threshold. -/
inductive Explained (authority : Authority) :
    Observed → Option UInt32 → Prop where
  | announced {admins : List Address} {threshold : UInt32}
      (admin : authority.admin = some admins)
      (stored : authority.threshold = some threshold) :
      Explained authority ⟨admins, some threshold⟩ none
  | unnamed {admins : List Address} {threshold : UInt32}
      (admin : authority.admin = some admins)
      (stored : authority.threshold = some threshold) :
      Explained authority ⟨admins, none⟩ (some threshold)

theorem Explained.known {authority : Authority} {observed : Observed}
    {unnamed : Option UInt32}
    (explained : Explained authority observed unnamed) :
    authority.admin = some observed.admins := by
  cases explained with
  | announced admin => exact admin
  | unnamed admin => exact admin

theorem Audited.explained {before after : Authority} {observed : Observed}
    {unnamed : Option UInt32} {unsaid : Option (Option UInt32)}
    {marks : List Mark} (audited : Audited before unsaid marks after)
    (explained : Explained before observed unnamed) :
    Explained after (marks.foldl .read observed) (unsaid.getD unnamed) := by
  cases audited with
  | idle admin threshold =>
      cases explained with
      | announced known stored =>
          exact .announced (admin.trans known) (threshold.trans stored)
      | unnamed known stored =>
          exact .unnamed (admin.trans known) (threshold.trans stored)
  | transfer admin threshold => exact .unnamed admin threshold
  | recover admin threshold => exact .announced admin threshold
  | adjust admin threshold =>
      cases explained with
      | announced known stored =>
          exact .announced (admin.trans known) threshold
      | unnamed known stored =>
          exact .announced (admin.trans known) threshold

/-- Two authorities with one log differ only by their unnamed thresholds. -/
theorem Explained.eq_iff {left right : Authority} {observed : Observed}
    {unnamed unnamed' : Option UInt32}
    (explained : Explained left observed unnamed)
    (explained' : Explained right observed unnamed') :
    left.admin = right.admin ∧ left.threshold = right.threshold ↔
      unnamed = unnamed' := by
  cases explained with
  | announced admin stored =>
      cases explained' with
      | announced admin' stored' => simp [admin, stored, admin', stored']
  | unnamed admin stored =>
      cases explained' with
      | unnamed admin' stored' => simp [admin, stored, admin', stored']

/-- A contract whose log is read for its authority. -/
structure Auditable (σ ε ι ο η : Type) extends Controlled σ ε ι ο where
  events : σ → List η
  mark : η → Option Mark
  unsaid : ι → Option (Option UInt32)
  audits : ∀ {input before reply after},
    step input before = .ok (reply, after) →
      (authority before).admin.isSome →
      ∃ published, events after = events before ++ published ∧
        Audited (authority before) (unsaid input)
          (published.filterMap mark) (authority after)

namespace Auditable

variable {σ ε ι ο η : Type} (contract : Auditable σ ε ι ο η)

/-- The reading of a log by someone who knows the admins and the threshold the
contract started with. -/
def observe (origin : Observed) (log : List η) : Observed :=
  (log.filterMap contract.mark).foldl .read origin

/-- The threshold the last transfer of a run installed, unless the threshold
was changed or the admins recovered since. -/
def unnamed (start : σ) (inputs : List ι) : Option UInt32 :=
  (trace contract.step start inputs).foldl
    (fun unnamed call => (contract.unsaid call.input).getD unnamed) none

variable {contract}

theorem unnamed_cons {first : ι} {reply : ο} {start opened : σ}
    (opens : contract.step first start = .ok (reply, opened))
    (plain : contract.unsaid first = none) (rest : List ι) :
    contract.unnamed start (first :: rest) =
      contract.unnamed opened rest := by
  simp [unnamed, trace, committed, opens, commit_of_ok opens, plain]

theorem explained_run {start : σ} {origin : Observed}
    (initially : Explained (contract.authority start)
      (contract.observe origin (contract.events start)) none)
    (inputs : List ι) :
    Explained (contract.authority (run contract.step start inputs))
      (contract.observe origin
        (contract.events (run contract.step start inputs)))
      (contract.unnamed start inputs) := by
  induction inputs using List.reverseRecOn with
  | nil => exact initially
  | append_singleton inputs input induction =>
      rw [run_append, unnamed, trace_snoc, List.foldl_append]
      cases attempt : contract.step input
          (run contract.step start inputs) with
      | error failure =>
          simp only [run_cons, run_nil, commit_of_error attempt, committed,
            attempt, List.foldl_nil]
          exact induction
      | ok outcome =>
          rcases outcome with ⟨reply, after⟩
          have initialized : (contract.authority
              (run contract.step start inputs)).admin.isSome := by
            simp [induction.known]
          obtain ⟨published, events, audited⟩ :=
            contract.audits attempt initialized
          have explained := audited.explained induction
          simp only [run_cons, run_nil, commit_of_ok attempt, committed,
            attempt, List.foldl_cons, List.foldl_nil, observe, events,
            List.filterMap_append, List.foldl_append]
          exact explained

/-- Opened alike and with one log, two runs end with one authority exactly when
they have the same unnamed threshold. -/
theorem reconstructs_iff {first first' : ι} {reply reply' : ο}
    {opened opened' : σ} {origin : Observed}
    (opens : contract.step first contract.start = .ok (reply, opened))
    (opens' : contract.step first' contract.start = .ok (reply', opened'))
    (plain : contract.unsaid first = none)
    (plain' : contract.unsaid first' = none)
    (initially : Explained (contract.authority opened)
      (contract.observe origin (contract.events opened)) none)
    (initially' : Explained (contract.authority opened')
      (contract.observe origin (contract.events opened')) none)
    (left right : List ι)
    (alike : contract.events
        (run contract.step contract.start (first :: left)) =
      contract.events
        (run contract.step contract.start (first' :: right))) :
    (contract.authority
          (run contract.step contract.start (first :: left))).admin =
        (contract.authority
          (run contract.step contract.start (first' :: right))).admin ∧
      (contract.authority
          (run contract.step contract.start (first :: left))).threshold =
        (contract.authority
          (run contract.step contract.start (first' :: right))).threshold ↔
      contract.unnamed contract.start (first :: left) =
        contract.unnamed contract.start (first' :: right) := by
  have explained := explained_run initially left
  have explained' := explained_run initially' right
  simp only [run_cons, commit_of_ok opens, commit_of_ok opens'] at alike ⊢
  rw [unnamed_cons opens plain, unnamed_cons opens' plain']
  rw [alike] at explained
  exact explained.eq_iff explained'

end Auditable

end BettaPay.Common
