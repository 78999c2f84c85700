import BettaPay.Governance.Effect
import BettaPay.Protocol.Conservation
import BettaPay.Settlement.Degradation

namespace BettaPay.Protocol

open BettaPay.Host

/-! The fee configuration as it crosses from governance to settlement. -/

/-- The entries of a host map, which holds a key once: the two field names are
its keys, with these values under them. -/
structure FeeConfigMap (entries : List (Val × Val))
    (platformFeeBps networkFeeBps : UInt32) : Prop where
  distinct : (entries.map Prod.fst).Nodup
  keys : ∀ key, key ∈ entries.map Prod.fst ↔
    key = .symbol "platform_fee_bps" ∨ key = .symbol "network_fee_bps"
  platform : (.symbol "platform_fee_bps", .u32 platformFeeBps) ∈ entries
  network : (.symbol "network_fee_bps", .u32 networkFeeBps) ∈ entries

section Shape

variable {entries : List (Val × Val)} {platformFeeBps networkFeeBps : UInt32}

/-- There is room for two keys. -/
theorem FeeConfigMap.length
    (shaped : FeeConfigMap entries platformFeeBps networkFeeBps) :
    entries.length = 2 := by
  have fields : [Val.symbol "platform_fee_bps",
      .symbol "network_fee_bps"].Nodup := by
    simp
  have same : (entries.map Prod.fst).Perm
      [.symbol "platform_fee_bps", .symbol "network_fee_bps"] := by
    rw [List.perm_ext_iff_of_nodup shaped.distinct fields]
    intro key
    rw [shaped.keys, List.mem_cons, List.mem_singleton]
  rw [← List.length_map Prod.fst, same.length_eq]
  rfl

theorem feeConfigMap_iff :
    FeeConfigMap entries platformFeeBps networkFeeBps ↔
      entries.length = 2 ∧
        (.symbol "platform_fee_bps", .u32 platformFeeBps) ∈ entries ∧
        (.symbol "network_fee_bps", .u32 networkFeeBps) ∈ entries := by
  constructor
  · intro shaped
    exact ⟨shaped.length, shaped.platform, shaped.network⟩
  · intro given
    obtain ⟨length, platform, network⟩ := given
    have fields := Settlement.twoFields_of_mem length platform network
    refine ⟨?_, ?_, platform, network⟩
    · obtain ⟨_, _, rfl | rfl⟩ := fields <;> simp
    · intro key
      obtain ⟨_, _, rfl | rfl⟩ := fields
      · simp
      · simp [or_comm]

theorem classify_some_iff :
    Settlement.classifyGovernanceFeeConfig (.map entries) =
        .ok (some ⟨platformFeeBps, networkFeeBps⟩) ↔
      FeeConfigMap entries platformFeeBps networkFeeBps := by
  rw [feeConfigMap_iff]
  constructor
  · intro classified
    simp only [Settlement.classifyGovernanceFeeConfig] at classified
    split at classified
    · cases classified
    · rename_i length
      simp only [except_bind_ok] at classified
      obtain ⟨platformFound, platform, networkFound, network, same⟩ :=
        classified
      cases same
      exact ⟨Decidable.not_not.mp length,
        Settlement.requiredU32_mem platform,
        Settlement.requiredU32_mem network⟩
  · intro given
    obtain ⟨length, platform, network⟩ := given
    obtain ⟨storedPlatform, storedNetwork, rfl | rfl⟩ :=
      Settlement.twoFields_of_mem length platform network
    · have samePlatform : platformFeeBps = storedPlatform := by
        simpa using platform
      have sameNetwork : networkFeeBps = storedNetwork := by
        simpa using network
      rw [samePlatform, sameNetwork]
      rfl
    · have samePlatform : platformFeeBps = storedPlatform := by
        simpa using platform
      have sameNetwork : networkFeeBps = storedNetwork := by
        simpa using network
      rw [samePlatform, sameNetwork]
      rfl

/-- A map is accepted as a configuration or refused. -/
theorem classify_error_iff {error : Settlement.SettlementError} :
    Settlement.classifyGovernanceFeeConfig (.map entries) = .error error ↔
      error = .governanceCallFailed ∧
        ∀ platformFeeBps networkFeeBps,
          ¬ FeeConfigMap entries platformFeeBps networkFeeBps := by
  constructor
  · intro failed
    refine ⟨Settlement.classifyGovernanceFeeConfig_error failed, ?_⟩
    intro platformFeeBps networkFeeBps shaped
    rw [classify_some_iff.mpr shaped] at failed
    cases failed
  · intro given
    obtain ⟨rfl, misshaped⟩ := given
    refine Settlement.classifyGovernanceFeeConfig_fails.mpr
      ⟨entries, rfl, ?_⟩
    intro fields
    obtain ⟨platformFeeBps, networkFeeBps, rfl | rfl⟩ := fields
    · exact misshaped _ _ (classify_some_iff.mp rfl)
    · exact misshaped _ _ (classify_some_iff.mp rfl)

end Shape

theorem classify_none_iff {rawVal : Val} :
    Settlement.classifyGovernanceFeeConfig rawVal = .ok none ↔
      ∀ entries, rawVal ≠ .map entries := by
  cases rawVal with
  | map entries =>
      have accepted : Settlement.classifyGovernanceFeeConfig (.map entries) ≠
          .ok none := by
        simp only [Settlement.classifyGovernanceFeeConfig]
        split
        · simp
        · intro classified
          simp only [except_bind_ok] at classified
          obtain ⟨_, _, _, _, same⟩ := classified
          cases same
      simp [accepted]
  | _ => simp [Settlement.classifyGovernanceFeeConfig]

def asGovFeeConfig (config : Governance.FeeConfig) :
    Settlement.GovFeeConfig where
  platformFeeBps := config.platformFeeBps
  networkFeeBps := config.networkFeeBps

/-- Settlement reads the stored configuration, or that there is none. -/
def ReadsStored (state : Governance.State) : Prop :=
  ∃ rawVal, (deployedView state).getFeeConfig = .value rawVal ∧
    Settlement.classifyGovernanceFeeConfig rawVal =
      .ok (state.feeConfig.map asGovFeeConfig) ∧
    ∀ settlement, Settlement.tryReadGovernanceFeeConfig rawVal settlement =
      .ok (state.feeConfig.map asGovFeeConfig, settlement)

theorem readsStored (state : Governance.State) : ReadsStored state := by
  have classified := classify_encodeFeeConfig state.feeConfig
  refine ⟨encodeFeeConfig state.feeConfig, rfl, classified, ?_⟩
  intro settlement
  rw [Settlement.tryReadGovernanceFeeConfig, classified]
  rfl

theorem setFeeConfig_stores {ledger : Ledger} {signers : List Address}
    {config : Governance.FeeConfig} {before after : Governance.State}
    (succeeded : Governance.setFeeConfig ledger signers config before =
      .ok ((), after)) :
    after.feeConfig = some config := by
  cases Governance.setFeeConfig_effect succeeded with
  | setFeeConfig => rfl
  | query reads => cases reads

/-- Settlement reads what governance holds, which is what was last set. -/
structure ReadsGovernance : Prop where
  stored : ∀ state, ReadsStored state
  set : ∀ ledger signers config before after,
    Governance.setFeeConfig ledger signers config before = .ok ((), after) →
      after.feeConfig = some config

/-- Of all host values exactly the maps of the two fields are a configuration
and exactly those that are no map mean that there is none; every other map is
refused. What governance holds is read as it was stored. -/
theorem fee_config_shape_exact :
    (∀ rawVal,
      Settlement.classifyGovernanceFeeConfig rawVal = .ok none ↔
        ∀ entries, rawVal ≠ .map entries) ∧
    (∀ rawVal platformFeeBps networkFeeBps,
      Settlement.classifyGovernanceFeeConfig rawVal =
          .ok (some ⟨platformFeeBps, networkFeeBps⟩) ↔
        ∃ entries, rawVal = .map entries ∧
          FeeConfigMap entries platformFeeBps networkFeeBps) ∧
    (∀ rawVal error,
      Settlement.classifyGovernanceFeeConfig rawVal = .error error ↔
        error = .governanceCallFailed ∧ ∃ entries, rawVal = .map entries ∧
          ∀ platformFeeBps networkFeeBps,
            ¬ FeeConfigMap entries platformFeeBps networkFeeBps) ∧
    ReadsGovernance := by
  refine ⟨fun _ => classify_none_iff, ?_, ?_, readsStored,
    fun _ _ _ _ _ => setFeeConfig_stores⟩
  · intro rawVal platformFeeBps networkFeeBps
    cases rawVal with
    | map entries => simp [classify_some_iff]
    | _ => simp [Settlement.classifyGovernanceFeeConfig]
  · intro rawVal error
    cases rawVal with
    | map entries => simp [classify_error_iff]
    | _ => simp [Settlement.classifyGovernanceFeeConfig]

end BettaPay.Protocol
