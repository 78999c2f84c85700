import BettaPay.Common.Migration
import BettaPay.Settlement.Inversion
import BettaPay.Settlement.Xdr
import BettaPay.Governance.Effect

namespace BettaPay.Protocol

open BettaPay.Host
open BettaPay.Common

/-! Both contracts migrate their entries by the same loop, which over an
absent marker starts at the current version. -/

def settlementMarker : SchemaMarker Settlement.State where
  version := fun state => state.schemaVersion
  advance := fun version state => { state with schemaVersion := some version }
  advanced := fun _ _ => rfl

def governanceMarker : SchemaMarker Governance.State where
  version := fun state => state.schemaVersion
  advance := fun version state => { state with schemaVersion := some version }
  advanced := fun _ _ => rfl

/-- `migrate` of the settlement contract, at any current version and with any
step. -/
def settlementMigrate (current : UInt32)
    (migrateStep : UInt32 → Settlement.Contract Unit)
    (call : Settlement.Env × List Address) : Settlement.Contract Unit := do
  Settlement.verifyThresholdAuth call.1 call.2
  Settlement.assertNotPaused
  let admin ← unwrapFirst call.2
  settlementMarker.runMigrations current migrateStep
  Settlement.emit (.migrated admin current)

def governanceMigrate (current : UInt32)
    (migrateStep : UInt32 → Governance.Contract Unit)
    (call : Ledger × List Address) : Governance.Contract Unit := do
  Governance.assertNotPaused
  Governance.verifyThresholdAuth call.1 call.2
  let admin ← unwrapFirst call.2
  governanceMarker.runMigrations current migrateStep
  Governance.emit (.migrated admin current)

/-- The entry points as they are deployed. -/
theorem settlementMigrate_deployed (env : Settlement.Env)
    (signers : List Address) :
    settlementMigrate Settlement.currentSchemaVersion Settlement.migrateStep
        (env, signers) =
      Settlement.migrate env signers := rfl

theorem governanceMigrate_deployed (env : Ledger) (signers : List Address) :
    governanceMigrate Governance.currentSchemaVersion Governance.migrateStep
        (env, signers) =
      Governance.migrate env signers := rfl

def settlementMigration : Migration Settlement.State
    Settlement.SettlementError (Settlement.Env × List Address) where
  marker := settlementMarker
  migrate := settlementMigrate
  admits := fun call state admin =>
    state.authority.Quorum call.1.toLedger call.2 ∧
      state.isPaused = false ∧ call.2.head? = some admin
  report := fun current admin state =>
    state.soft state.cachedGovRule state.liveUntil [.migrated admin current]
  migrate_ok := by
    intro current migrateStep call before result after
    simp only [settlementMigrate, Tx.bind_ok,
      Settlement.verifyThresholdAuth_ok, Settlement.assertNotPaused_ok,
      unwrapFirst_ok, Settlement.emit_ok]
    constructor
    · intro given
      obtain ⟨_, _, ⟨quorum, rfl⟩, _, _, ⟨unpaused, rfl⟩, admin, _,
        ⟨leads, rfl⟩, _, middle, ran, reported⟩ := given
      exact ⟨admin, middle, ⟨quorum, unpaused, leads⟩, ran, reported⟩
    · intro given
      obtain ⟨admin, middle, ⟨quorum, unpaused, leads⟩, ran, reported⟩ :=
        given
      exact ⟨(), _, ⟨quorum, rfl⟩, (), _, ⟨unpaused, rfl⟩, admin, _,
        ⟨leads, rfl⟩, (), middle, ran, reported⟩
  reported := fun _ _ _ => rfl

def governanceMigration : Migration Governance.State
    Governance.GovernanceError (Ledger × List Address) where
  marker := governanceMarker
  migrate := governanceMigrate
  admits := fun call state admin =>
    state.authority.Quorum call.1 call.2 ∧
      state.isPaused = false ∧ call.2.head? = some admin
  report := fun current admin state =>
    state.publish (.migrated admin current)
  migrate_ok := by
    intro current migrateStep call before result after
    simp only [governanceMigrate, Tx.bind_ok,
      Governance.verifyThresholdAuth_ok, Governance.assertNotPaused_ok,
      unwrapFirst_ok, Governance.emit_ok]
    constructor
    · intro given
      obtain ⟨_, _, ⟨unpaused, rfl⟩, _, _, ⟨quorum, rfl⟩, admin, _,
        ⟨leads, rfl⟩, _, middle, ran, reported⟩ := given
      exact ⟨admin, middle, ⟨quorum, unpaused, leads⟩, ran, reported⟩
    · intro given
      obtain ⟨admin, middle, ⟨quorum, unpaused, leads⟩, ran, reported⟩ :=
        given
      exact ⟨(), _, ⟨unpaused, rfl⟩, (), _, ⟨quorum, rfl⟩, admin, _,
        ⟨leads, rfl⟩, (), middle, ran, reported⟩
  reported := fun _ _ _ => rfl

/-- At every current version and for every step, a migration that the admins
may call is complete exactly if the marker is stored or the current version is
the first one, which an absent marker stands for. -/
theorem migrations_complete_iff (current : UInt32) (positive : 1 ≤ current) :
    (∀ migrateStep env signers admin (state : Settlement.State),
      state.authority.Quorum env.toLedger signers →
      state.isPaused = false → signers.head? = some admin →
      (settlementMigration.Completes current migrateStep (env, signers)
          state ↔
        state.schemaVersion.isSome ∨ current = 1)) ∧
    ∀ migrateStep ledger signers admin (state : Governance.State),
      state.authority.Quorum ledger signers →
      state.isPaused = false → signers.head? = some admin →
      (governanceMigration.Completes current migrateStep (ledger, signers)
          state ↔
        state.schemaVersion.isSome ∨ current = 1) := by
  constructor
  · intro migrateStep env signers admin state quorum unpaused leads
    exact settlementMigration.completes_iff positive
      ⟨quorum, unpaused, leads⟩
  · intro migrateStep ledger signers admin state quorum unpaused leads
    exact governanceMigration.completes_iff positive
      ⟨quorum, unpaused, leads⟩

/-- The entries of a settlement contract at the version of its marker. -/
def sampleEntries (marker : Option UInt32) : Settlement.State :=
  { run (Settlement.step Settlement.sampleCodec) Settlement.State.initial
      [⟨.granting 0, .init (.account 9) [.account 1] 1 (.contract 5)
        (.account 2)⟩] with
    schemaVersion := marker }

def sampleParameters (marker : Option UInt32) : Governance.State :=
  { run Governance.step Governance.State.initial
      [⟨.granting 0, .init (.account 9) [.account 1] 1 (.account 2)⟩] with
    schemaVersion := marker }

theorem migrations_complete_iff_two_steps :
    settlementMigration.Completes 3 (fun _ => pure ())
        (.granting 100, [.account 1]) (sampleEntries (some 1)) ∧
      governanceMigration.Completes 3 (fun _ => pure ())
        (.granting 100, [.account 1]) (sampleParameters (some 1)) :=
  ⟨((migrations_complete_iff 3 (by decide)).1 _ _ _ (.account 1) _
      (Authority.quorum_of_sole rfl rfl rfl) rfl rfl).mpr (.inl rfl),
    ((migrations_complete_iff 3 (by decide)).2 _ _ _ (.account 1) _
      (Authority.quorum_of_sole rfl rfl rfl) rfl rfl).mpr (.inl rfl)⟩

/-- A step that converts what it finds once. -/
def Idempotent {σ ε : Type} (migrateStep : UInt32 → Tx σ ε Unit) : Prop :=
  ∀ version before middle, migrateStep version before = .ok ((), middle) →
    migrateStep version middle = .ok ((), middle)

theorem absent_marker_skips_step :
    (¬ ∀ current migrateStep call state admin, 1 ≤ current →
      Idempotent migrateStep →
      settlementMigration.admits call state admin →
      settlementMigration.Completes current migrateStep call state) ∧
    ¬ ∀ current migrateStep call state admin, 1 ≤ current →
      Idempotent migrateStep →
      governanceMigration.admits call state admin →
      governanceMigration.Completes current migrateStep call state := by
  constructor
  · intro complete
    have completes := complete 2 (fun _ => pure ())
      (.granting 100, [.account 1]) (sampleEntries none) (.account 1)
      (by decide) (fun _ _ _ _ => rfl)
      ⟨Authority.quorum_of_sole rfl rfl rfl, rfl, rfl⟩
    have marked := completes.marked rfl
    cases marked
  · intro complete
    have completes := complete 2 (fun _ => pure ())
      (.granting 100, [.account 1]) (sampleParameters none) (.account 1)
      (by decide) (fun _ _ _ _ => rfl)
      ⟨Authority.quorum_of_sole rfl rfl rfl, rfl, rfl⟩
    have marked := completes.marked rfl
    cases marked

end BettaPay.Protocol
