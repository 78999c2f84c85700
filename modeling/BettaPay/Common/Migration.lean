import BettaPay.Common.Multisig

namespace BettaPay.Common

open BettaPay.Host
open BettaPay.Host.Tx (readState writeState)

/-! Schema migrations at an arbitrary current version and with arbitrary
steps. -/

variable {σ ε ι : Type}

/-- Where a contract keeps the version of its schema. -/
structure SchemaMarker (σ : Type) where
  version : σ → Option UInt32
  advance : UInt32 → σ → σ
  advanced : ∀ number state, version (advance number state) = some number

namespace SchemaMarker

variable (marker : SchemaMarker σ)

/-- The version of the entries. Those written before the marker existed are
at version 1. -/
def standing (state : σ) : UInt32 := (marker.version state).getD 1

def readSchemaVersion (current : UInt32) : Tx σ (Failure ε) UInt32 := do
  let state ← readState
  pure ((marker.version state).getD current)

def runMigrations (current : UInt32)
    (migrateStep : UInt32 → Tx σ (Failure ε) Unit) :
    Tx σ (Failure ε) Unit := do
  let version ← marker.readSchemaVersion current
  migrateRounds migrateStep
    (fun version => writeState (marker.advance version))
    (current.toNat - version.toNat) version

/-- One step from each of the versions, in their order. -/
inductive Applies (migrateStep : UInt32 → Tx σ (Failure ε) Unit) :
    List UInt32 → σ → σ → Prop
  | done {state : σ} : Applies migrateStep [] state state
  | step {version : UInt32} {rest : List UInt32} {before middle after : σ}
      (converted : migrateStep version before = .ok ((), middle))
      (later : Applies migrateStep rest
        (marker.advance (version + 1) middle) after) :
      Applies migrateStep (version :: rest) before after

end SchemaMarker

/-- The versions from the first up to the last, without the last. -/
def versionsBetween (first last : UInt32) : List UInt32 :=
  (List.range' first.toNat (last.toNat - first.toNat)).map UInt32.ofNat

theorem versionsBetween_of_le {first last : UInt32} (reached : last ≤ first) :
    versionsBetween first last = [] := by
  have none : last.toNat - first.toNat = 0 :=
    Nat.sub_eq_zero_of_le reached
  rw [versionsBetween, none]
  rfl

theorem versionsBetween_of_lt {first last : UInt32} (below : first < last) :
    versionsBetween first last =
      first :: versionsBetween (first + 1) last ∧
      (first + 1).toNat = first.toNat + 1 := by
  have below' : first.toNat < last.toNat := below
  have bound := last.toNat_lt
  have next : (first + 1).toNat = first.toNat + 1 := by
    rw [UInt32.toNat_add]
    exact Nat.mod_eq_of_lt (by simp; omega)
  have count : last.toNat - first.toNat =
      last.toNat - (first + 1).toNat + 1 := by
    omega
  refine ⟨?_, next⟩
  rw [versionsBetween, count, List.range'_succ, List.map_cons,
    UInt32.ofNat_toNat, versionsBetween, next]

namespace SchemaMarker

variable {marker : SchemaMarker σ}
  {migrateStep : UInt32 → Tx σ (Failure ε) Unit}

/-- The loop applies the steps of the versions it crosses. -/
theorem migrateRounds_ok_iff {rounds : Nat} {version current : UInt32}
    {before after : σ} {result : Unit}
    (crossed : rounds = current.toNat - version.toNat) :
    migrateRounds migrateStep
        (fun version => writeState (marker.advance version)) rounds version
        before = .ok (result, after) ↔
      marker.Applies migrateStep (versionsBetween version current) before
        after := by
  induction rounds generalizing version before with
  | zero =>
      have reached : current ≤ version :=
        Nat.sub_eq_zero_iff_le.mp crossed.symm
      rw [versionsBetween_of_le reached]
      simp only [migrateRounds, Tx.pure_ok]
      constructor
      · intro given
        obtain ⟨_, rfl⟩ := given
        exact .done
      · intro applied
        cases applied
        exact ⟨trivial, rfl⟩
  | succ rounds induction =>
      have below : version < current := by
        change version.toNat < current.toNat
        omega
      obtain ⟨versions, next⟩ := versionsBetween_of_lt below
      rw [versions]
      simp only [migrateRounds, Tx.bind_ok, Tx.writeState_ok]
      have later : rounds = current.toNat - (version + 1).toNat := by
        omega
      constructor
      · intro given
        obtain ⟨_, _, converted, _, _, rfl, rest⟩ := given
        exact .step converted ((induction later).mp rest)
      · intro applied
        cases applied with
        | step converted rest =>
            exact ⟨_, _, converted, (), _, rfl, (induction later).mpr rest⟩

theorem runMigrations_ok {current : UInt32} {before after : σ}
    {result : Unit} :
    marker.runMigrations current migrateStep before = .ok (result, after) ↔
      marker.Applies migrateStep
        (versionsBetween ((marker.version before).getD current) current)
        before after := by
  rw [← migrateRounds_ok_iff rfl]
  rfl

/-- What the marker shows once the steps are applied. -/
theorem Applies.version {first last : UInt32} {before after : σ}
    (applied : marker.Applies migrateStep (versionsBetween first last) before
      after) :
    marker.version after =
      if first < last then some last else marker.version before := by
  have crossing : ∀ rounds, ∀ first : UInt32, ∀ before : σ,
      rounds = last.toNat - first.toNat →
      marker.Applies migrateStep (versionsBetween first last) before after →
      marker.version after =
        if first < last then some last else marker.version before := by
    intro rounds
    induction rounds with
    | zero =>
        intro first before crossed applied
        have reached : last ≤ first :=
          Nat.sub_eq_zero_iff_le.mp crossed.symm
        rw [versionsBetween_of_le reached] at applied
        cases applied
        rw [if_neg (UInt32.not_lt.mpr reached)]
    | succ rounds induction =>
        intro first before crossed applied
        have below : first < last := by
          change first.toNat < last.toNat
          omega
        obtain ⟨versions, next⟩ := versionsBetween_of_lt below
        rw [versions] at applied
        cases applied with
        | step converted later =>
            rw [if_pos below, induction _ _ (by omega) later,
              marker.advanced]
            split
            · rfl
            · rename_i reached
              have last_le : last.toNat ≤ (first + 1).toNat :=
                UInt32.not_lt.mp reached
              exact congrArg some (UInt32.toNat_inj.mp (by omega))
  exact crossing _ _ _ rfl applied

end SchemaMarker

/-- The migration of a contract: who may call it, and what it reports once
the steps are applied. -/
structure Migration (σ ε ι : Type) where
  marker : SchemaMarker σ
  migrate : UInt32 → (UInt32 → Tx σ (Failure ε) Unit) → ι →
    Tx σ (Failure ε) Unit
  admits : ι → σ → Address → Prop
  report : UInt32 → Address → σ → σ
  migrate_ok : ∀ {current migrateStep call before result after},
    migrate current migrateStep call before = .ok (result, after) ↔
      ∃ admin middle, admits call before admin ∧
        marker.runMigrations current migrateStep before =
          .ok ((), middle) ∧
        report current admin middle = after
  reported : ∀ current admin state,
    marker.version (report current admin state) = marker.version state

namespace Migration

variable (migration : Migration σ ε ι) (current : UInt32)
  (migrateStep : UInt32 → Tx σ (Failure ε) Unit)

/-- Whenever this call of `migrate` succeeds, it applies the steps from the
standing version up to the current one and moves the marker there, and another
call then only reports. -/
structure Completes (call : ι) (before : σ) : Prop where
  applied : ∀ {after}, migration.migrate current migrateStep call before =
      .ok ((), after) → ∃ admin middle,
    migration.marker.Applies migrateStep
      (versionsBetween (migration.marker.standing before) current) before
      middle ∧
    after = migration.report current admin middle
  marked : ∀ {after}, migration.migrate current migrateStep call before =
      .ok ((), after) →
    (migration.marker.standing after).toNat =
      max (migration.marker.standing before).toNat current.toNat
  idle : current ≤ migration.marker.standing before → ∀ {after},
    migration.migrate current migrateStep call before = .ok ((), after) →
      ∃ admin, after = migration.report current admin before
  raised : ∀ {after}, migration.migrate current migrateStep call before =
      .ok ((), after) →
    migration.marker.standing before ≤ migration.marker.standing after
  settled : ∀ {after again call'},
    migration.migrate current migrateStep call before = .ok ((), after) →
    migration.migrate current migrateStep call' after = .ok ((), again) →
      ∃ admin, again = migration.report current admin after

section

variable {migration : Migration σ ε ι} {current : UInt32}
  {migrateStep : UInt32 → Tx σ (Failure ε) Unit} {call : ι} {before : σ}

/-- The loop starts at the standing version if the marker is stored, or if
the current version is the one an absent marker stands for. -/
theorem start_eq_standing
    (known : (migration.marker.version before).isSome ∨ current = 1) :
    (migration.marker.version before).getD current =
      migration.marker.standing before := by
  rw [SchemaMarker.standing]
  rcases known with stored | rfl
  · obtain ⟨version, stored⟩ := Option.isSome_iff_exists.mp stored
    simp [stored]
  · rfl

theorem migrate_applies
    (known : (migration.marker.version before).isSome ∨ current = 1)
    {after : σ} {result : Unit}
    (succeeded : migration.migrate current migrateStep call before =
      .ok (result, after)) :
    ∃ admin middle,
      migration.marker.Applies migrateStep
        (versionsBetween (migration.marker.standing before) current) before
        middle ∧
      after = migration.report current admin middle := by
  obtain ⟨admin, middle, _, ran, reported⟩ :=
    migration.migrate_ok.mp succeeded
  rw [SchemaMarker.runMigrations_ok, start_eq_standing known] at ran
  exact ⟨admin, middle, ran, reported.symm⟩

/-- From the current version on, a migration only reports. -/
theorem migrate_idle
    (known : (migration.marker.version before).isSome ∨ current = 1)
    (reached : current ≤ migration.marker.standing before)
    {after : σ} {result : Unit}
    (succeeded : migration.migrate current migrateStep call before =
      .ok (result, after)) :
    ∃ admin, after = migration.report current admin before := by
  obtain ⟨admin, middle, applied, rfl⟩ := migrate_applies known succeeded
  rw [versionsBetween_of_le reached] at applied
  cases applied
  exact ⟨admin, rfl⟩

/-- The marker after a migration, and that its absence still means the
current version. -/
theorem migrate_marks
    (known : (migration.marker.version before).isSome ∨ current = 1)
    {after : σ} {result : Unit}
    (succeeded : migration.migrate current migrateStep call before =
      .ok (result, after)) :
    ((migration.marker.version after).isSome ∨ current = 1) ∧
      (migration.marker.standing after).toNat =
        max (migration.marker.standing before).toNat current.toNat := by
  obtain ⟨admin, middle, applied, rfl⟩ := migrate_applies known succeeded
  have marked := applied.version
  rcases UInt32.lt_or_le (migration.marker.standing before) current with
    below | reached
  · rw [if_pos below, ← migration.reported current admin middle] at marked
    have standing : migration.marker.standing
        (migration.report current admin middle) = current := by
      rw [SchemaMarker.standing, marked, Option.getD_some]
    have below' : (migration.marker.standing before).toNat <
      current.toNat := below
    rw [standing, marked]
    exact ⟨.inl rfl, by omega⟩
  · rw [if_neg (UInt32.not_lt.mpr reached),
      ← migration.reported current admin middle] at marked
    have standing : migration.marker.standing
        (migration.report current admin middle) =
          migration.marker.standing before := by
      rw [SchemaMarker.standing, marked, SchemaMarker.standing]
    have reached' : current.toNat ≤
      (migration.marker.standing before).toNat := reached
    rw [standing, marked]
    exact ⟨known, by omega⟩

theorem completes_of_known
    (known : (migration.marker.version before).isSome ∨ current = 1) :
    migration.Completes current migrateStep call before := by
  refine ⟨migrate_applies known, fun ran => (migrate_marks known ran).2,
    fun reached _ ran => migrate_idle known reached ran, ?_, ?_⟩
  · intro after ran
    have marked := (migrate_marks known ran).2
    change (migration.marker.standing before).toNat ≤
      (migration.marker.standing after).toNat
    omega
  · intro after again call' ran rerun
    obtain ⟨known', marked⟩ := migrate_marks known ran
    refine migrate_idle known' ?_ rerun
    change current.toNat ≤ (migration.marker.standing after).toNat
    omega

/-- Over an absent marker the loop starts at its end. -/
theorem migrate_of_absent
    (absent : migration.marker.version before = none) {admin : Address}
    (admitted : migration.admits call before admin) :
    migration.migrate current migrateStep call before =
      .ok ((), migration.report current admin before) := by
  refine migration.migrate_ok.mpr ⟨admin, before, admitted, ?_, rfl⟩
  rw [SchemaMarker.runMigrations_ok, absent, Option.getD_none,
    versionsBetween_of_le (UInt32.le_refl _)]
  exact .done

theorem completes_iff (positive : 1 ≤ current) {admin : Address}
    (admitted : migration.admits call before admin) :
    migration.Completes current migrateStep call before ↔
      (migration.marker.version before).isSome ∨ current = 1 := by
  refine ⟨?_, completes_of_known⟩
  intro completes
  cases stored : migration.marker.version before with
  | some version => exact .inl rfl
  | none =>
      right
      have marked := completes.marked (migrate_of_absent stored admitted)
      rw [SchemaMarker.standing, SchemaMarker.standing,
        migration.reported, stored, Option.getD_none] at marked
      have least : (1 : UInt32).toNat ≤ current.toNat := positive
      exact UInt32.toNat_inj.mp (by omega)

end

end Migration

end BettaPay.Common
