import Encointer.Runtime.Steps

/-!
# The participant registry of every reachable state

Each elementary change keeps the registry invariant, and a claim of rewards does
not touch the registries.
-/

namespace Encointer

variable {AccountId : Type} [DecidableEq AccountId] {config : Config AccountId}

namespace RegistryInvariant

theorem genesis (genesis : GenesisConfig) (nativeBalances : StorageMap AccountId Nat)
    (assetBalances : StorageMap (AccountId × AssetKind) Nat) :
    RegistryInvariant (genesis.build nativeBalances assetBalances).ceremonies.registry where
  bijective := by
    intro t cc
    cases t <;> exact ParticipantRegistry.bijective_empty cc
  exclusive := by
    intro k t t' ht
    cases t <;> exact absurd ht (by simp [StorageMap.contains, GenesisConfig.build,
      CeremoniesStorage.registry, ParticipantRegistry.empty])

theorem change {s s' : Runtime AccountId} {effects : List (Effect AccountId)}
    (hinv : RegistryInvariant s.ceremonies.registry)
    (h : Change config s effects s') : RegistryInvariant s'.ceremonies.registry := by
  cases h with
  | parameters ceremonies same =>
      have hsame : ceremonies.registry = s.ceremonies.registry := same.registry
      exact hsame.symm ▸ hinv
  | attest sender cid vote attestations ceremonies attested =>
      obtain ⟨same, -⟩ := Ceremonies.attestAttendees_spec attested
      have hsame : ceremonies.registry = s.ceremonies.registry := same.registry
      exact hsame.symm ▸ hinv
  | add participantType cc participant r opened free added => exact hinv.add free added
  | remove participantType cc participant opened registered => exact hinv.remove registered
  | link cid cindex sender p ceremonies opened linked =>
      obtain ⟨-, -, rfl⟩ := Ceremonies.linkReputation_spec linked
      exact hinv
  | unlink cid cindex sender cc ceremonies opened unlinked =>
      obtain ⟨-, rfl⟩ := Ceremonies.unlinkReputation_spec unlinked
      exact hinv
  | purge cc =>
      apply hinv.purge
      intro t
      cases t <;> rfl
  | assign cid ceremonies random random' assigning registered assigned =>
      have hregistry := Ceremonies.generateMeetupAssignmentParams_registry assigned
      exact hregistry.symm ▸ hinv
  | _ => exact hinv

theorem changes {s s' : Runtime AccountId} {effects : List (Effect AccountId)}
    (hinv : RegistryInvariant s.ceremonies.registry)
    (h : Changes config s effects s') : RegistryInvariant s'.ceremonies.registry := by
  induction h with
  | refl => exact hinv
  | tail _ hstep ih => exact ih.change hstep

theorem step {chain : Chain AccountId} (action : Action AccountId)
    (hinv : RegistryInvariant chain.runtime.ceremonies.registry) :
    RegistryInvariant (chain.step config action).runtime.ceremonies.registry := by
  obtain ⟨observations, -, hcases⟩ := Chain.step_claims_or_changes config action hinv
  rcases hcases with ⟨claim, participants, hclaims⟩ | ⟨⟨effects, hchanges⟩, -⟩
  · rw [hclaims.runtime]
    exact hclaims.effect.registry.symm ▸ hinv
  · exact hinv.changes hchanges

theorem run {chain : Chain AccountId} (actions : List (Action AccountId))
    (hinv : RegistryInvariant chain.runtime.ceremonies.registry) :
    RegistryInvariant (chain.run config actions).runtime.ceremonies.registry :=
  Machine.run_invariant_of_step
    (fun chain : Chain AccountId => RegistryInvariant chain.runtime.ceremonies.registry)
    (fun _ action h => h.step action) hinv actions

end RegistryInvariant

/-- Every action keeps the registries bijective and disjoint, so every reachable state has them so. -/
theorem Ceremonies.registry_bijection (config : Config AccountId) :
    (∀ (chain : Chain AccountId) (action : Action AccountId),
        RegistryInvariant chain.runtime.ceremonies.registry →
          RegistryInvariant (chain.step config action).runtime.ceremonies.registry) ∧
      ∀ (genesis : GenesisConfig) (nativeBalances : StorageMap AccountId Nat)
        (assetBalances : StorageMap (AccountId × AssetKind) Nat)
        (actions : List (Action AccountId)),
        RegistryInvariant
          ((Chain.genesis genesis nativeBalances assetBalances).run config
            actions).runtime.ceremonies.registry := by
  constructor
  · intro chain action hinv
    exact hinv.step action
  · intro genesis nativeBalances assetBalances actions
    exact RegistryInvariant.run actions
      (RegistryInvariant.genesis genesis nativeBalances assetBalances)

end Encointer
