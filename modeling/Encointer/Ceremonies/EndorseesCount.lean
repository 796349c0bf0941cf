import Encointer.Ceremonies.Ledger
import Encointer.Ceremonies.CounterSums

/-!
# The count of endorsements

An endorsement writes the number of registered endorsees plus one as the count of
endorsements. The count is right as long as each endorsed newcomer registers
as an endorsee before the next one is endorsed.
-/

namespace Encointer

open Ceremonies

variable {AccountId : Type} [DecidableEq AccountId] {config : Config AccountId}
  {s s' : Runtime AccountId} {cc : CommunityCeremony}

def Observation.endorses (cc : CommunityCeremony) : Observation AccountId → Bool
  | .endorsed cc' _ _ => cc' = cc
  | _ => false

def endorsements (trace : List (Observation AccountId)) (cc : CommunityCeremony) : Nat :=
  trace.countP (Observation.endorses cc)

section

omit [DecidableEq AccountId]

@[simp] theorem endorsements_append (trace observations : List (Observation AccountId))
    (cc : CommunityCeremony) :
    endorsements (trace ++ observations) cc =
      endorsements trace cc + endorsements observations cc := by
  simp [endorsements]

theorem endorsements_eq_zero {observations : List (Observation AccountId)}
    (h : ∀ sender newbie, .endorsed cc sender newbie ∉ observations) :
    endorsements observations cc = 0 := by
  rw [endorsements, List.countP_eq_zero]
  intro observation hmem hendorses
  cases observation with
  | endorsed cc' sender newbie =>
      rw [Observation.endorses, decide_eq_true_eq] at hendorses
      rw [hendorses] at hmem
      exact h sender newbie hmem
  | _ => simp [Observation.endorses] at hendorses

theorem endorsements_of_endorsed (cc' : CommunityCeremony) (sender newbie : AccountId)
    (t : Option ParticipantType) (r : Option (CommunityCeremony × AccountId)) :
    endorsements (.endorsed cc' sender newbie :: t.toList.map fun t =>
      .registered cc' newbie t r) cc = if cc' = cc then 1 else 0 := by
  cases t <;> by_cases hcc : cc' = cc <;> simp [endorsements, Observation.endorses, hcc]

end

/-! ## Steps -/

/-- Endorsements and purges for a ceremony are the only ones to touch its count. -/
theorem Change.endorseesCount {effects : List (Effect AccountId)}
    (h : Change config s effects s') (hpurged : .purge cc ∉ effects)
    (hendorsed : ∀ newbie, .endorse cc newbie ∉ effects) :
    s'.ceremonies.endorseesCount.lookup cc = s.ceremonies.endorseesCount.lookup cc := by
  cases h with
  | endorse cc' newbie count registered free counted =>
      have hcc : cc ≠ cc' := by
        rintro rfl
        exact hendorsed newbie List.mem_cons_self
      simp [StorageMap.lookup_insert_eq, hcc]
  | purge cc' =>
      have hcc : cc ≠ cc' := by
        rintro rfl
        exact hpurged List.mem_cons_self
      simp [purgeCommunityCeremonyInternal, StorageMap.lookup_erase_eq, hcc]
  | parameters ceremonies same => rw [same.endorseesCount]
  | attest sender cid vote attestations ceremonies attested =>
      rw [(attestAttendees_ledger attested).1.endorseesCount]
  | add t cc' participant r => rw [(s.ceremonies.setRegistry_ledger t r).endorseesCount]
  | remove t cc' participant => rw [(s.ceremonies.setRegistry_ledger t _).endorseesCount]
  | link cid cindex sender p ceremonies opened linked =>
      obtain ⟨-, -, rfl⟩ := linkReputation_spec linked
      rfl
  | unlink cid cindex sender source ceremonies opened unlinked =>
      obtain ⟨-, rfl⟩ := unlinkReputation_spec unlinked
      rfl
  | assign cid ceremonies random random' assigning registered assigned =>
      rcases generateMeetupAssignmentParams_spec assigned with rfl | ⟨_, _, _, -, -, -, rfl⟩
      · rfl
      · rfl
  | _ => rfl

theorem Changes.endorseesCount {effects : List (Effect AccountId)}
    (h : Changes config s effects s') (hpurged : .purge cc ∉ effects)
    (hendorsed : ∀ newbie, .endorse cc newbie ∉ effects) :
    s'.ceremonies.endorseesCount.lookup cc = s.ceremonies.endorseesCount.lookup cc := by
  induction h with
  | refl => rfl
  | tail hbefore hchange ih =>
      rw [hchange.endorseesCount]
      · apply ih
        · exact fun hmem => hpurged (List.mem_append_left _ hmem)
        · exact fun newbie hmem => hendorsed newbie (List.mem_append_left _ hmem)
      · exact fun hmem => hpurged (List.mem_append_right _ hmem)
      · exact fun newbie hmem => hendorsed newbie (List.mem_append_right _ hmem)

namespace Dispatch

theorem QuietEffects.actionEffects {action : Action AccountId} {effects : List (Effect AccountId)}
    (haction : MayChangePhase action) (h : QuietEffects config s action effects) :
    ActionEffects config s action [] effects := by
  cases action with
  | beginBlock now random => exact ⟨h, rfl⟩
  | nextPhase random => exact ⟨h, rfl⟩
  | _ => cases haction

/-- The history of the ceremony is not purged. -/
def KeepsHistory (config : Config AccountId) (cc : CommunityCeremony) (s : Runtime AccountId)
    (action : Action AccountId) : Prop :=
  (dispatch config s action).isOk = true → .purge cc ∉ historyEffects config s action

instance (config : Config AccountId) (cc : CommunityCeremony) (s : Runtime AccountId)
    (action : Action AccountId) : Decidable (KeepsHistory config cc s action) :=
  inferInstanceAs (Decidable (_ → _))

def endorsedCeremony (s : Runtime AccountId) : Action AccountId → Option CommunityCeremony
  | .endorseNewcomer _ cid _ => some (cid, endorsementCindex s)
  | _ => none

theorem endorsements_of_endorsedCeremony {action : Action AccountId}
    {observations : List (Observation AccountId)}
    (h : dispatch config s action = .ok (s', observations))
    (hcc : endorsedCeremony s action = some cc) : endorsements observations cc = 1 := by
  cases action with
  | endorseNewcomer sender cid newbie =>
      simp only [dispatch, bind_eq_ok, ok_inj, Prod.mk.injEq] at h
      obtain ⟨⟨c, t⟩, -, -, rfl⟩ := h
      rw [endorsedCeremony, Option.some.injEq] at hcc
      rw [endorsements_of_endorsed, if_pos hcc]
  | _ => cases hcc

/-- An endorsement counts from the number of registered endorsees; nothing else counts. -/
theorem LedgerStep.endorseesCount {action : Action AccountId}
    {observations : List (Observation AccountId)}
    (h : LedgerStep config s action s' observations)
    (hkept : .purge cc ∉ historyEffects config s action) :
    endorsedCeremony s action = some cc ∧ endorsements observations cc = 1 ∧
        s'.ceremonies.endorseesCount.get cc 0 = s.ceremonies.endorseeRegistry.count.get cc 0 + 1 ∨
      endorsements observations cc = 0 ∧
        s'.ceremonies.endorseesCount.get cc 0 = s.ceremonies.endorseesCount.get cc 0 := by
  cases h with
  | same phase ledger kept old silent =>
      right
      rw [ledger.endorseesCount]
      exact ⟨endorsements_eq_zero (silent cc), rfl⟩
  | endorse cid sender newbie t haction hendorses hscheduler hobs =>
      rw [hobs, endorsements_of_endorsed, hendorses.counted, StorageMap.get_insert, haction]
      by_cases hcc : (cid, endorsementCindex s) = cc
      · left
        simp [hcc, endorsedCeremony]
      · right
        simp [hcc, Ne.symm hcc]
  | purge cc' haction hs hobs =>
      right
      have hcc : cc ≠ cc' := by
        rintro rfl
        rw [haction] at hkept
        exact hkept List.mem_cons_self
      rw [hobs, hs]
      refine ⟨rfl, ?_⟩
      simp [purgeCommunityCeremonyInternal, StorageMap.get_erase, hcc]
  | phase newPhase haction hcall henters hobs =>
      right
      obtain ⟨effects, hquiet, hchanges⟩ := dispatchQuiet_changes hcall
      have heffects := hquiet.actionEffects haction
      have hpurged : .purge cc ∉ effects := by
        intro hmem
        have hhistory : Effect.purge cc ∈ effects.filter Effect.history :=
          List.mem_filter.2 ⟨hmem, rfl⟩
        rcases heffects.history with hnone | hall
        · rw [hnone] at hhistory
          cases hhistory
        · rw [hall] at hhistory
          exact hkept hhistory
      have hendorsed (newbie : AccountId) : .endorse cc newbie ∉ effects := by
        intro hmem
        have hcause := hquiet.mayCause hmem
        cases action with
        | endorseNewcomer sender cid newbie => cases haction
        | _ => simp [MayCause] at hcause
      rw [hobs, StorageMap.get, hchanges.endorseesCount hpurged hendorsed]
      exact ⟨rfl, rfl⟩

end Dispatch

/-! ## Runs -/

namespace Ceremonies

/-- The count of the ceremony is the number of endorsements for it. -/
def EndorsementsCounted (chain : Chain AccountId) (cc : CommunityCeremony) : Prop :=
  chain.runtime.ceremonies.endorseesCount.get cc 0 = endorsements chain.trace cc

instance (chain : Chain AccountId) (cc : CommunityCeremony) :
    Decidable (EndorsementsCounted chain cc) :=
  inferInstanceAs (Decidable (_ = _))

/-- When a newcomer is endorsed, all those endorsed before have registered as endorsees. -/
def EndorseesRegistered (config : Config AccountId) (cc : CommunityCeremony)
    (chain : Chain AccountId) (action : Action AccountId) : Prop :=
  (Dispatch.dispatch config chain.runtime action).isOk = true →
    Dispatch.endorsedCeremony chain.runtime action = some cc →
      chain.runtime.ceremonies.endorseeRegistry.count.get cc 0 =
        chain.runtime.ceremonies.endorseesCount.get cc 0

/-- One step keeps the count right, just if it finds all endorsees registered. -/
theorem endorsementsCounted_step {chain : Chain AccountId} {action : Action AccountId}
    (hcounted : EndorsementsCounted chain cc)
    (hkept : Dispatch.KeepsHistory config cc chain.runtime action) :
    EndorsementsCounted (chain.step config action) cc ↔
      EndorseesRegistered config cc chain action := by
  unfold EndorsementsCounted at hcounted ⊢
  unfold Chain.step EndorseesRegistered
  cases hdispatch : Dispatch.dispatch config chain.runtime action with
  | error e =>
      constructor
      · intro _ hok
        cases hok
      · intro _
        exact hcounted
  | ok result =>
      obtain ⟨s', observations⟩ := result
      have hnot := hkept (by rw [hdispatch]; rfl)
      simp only [endorsements_append, ← hcounted]
      rcases (Dispatch.dispatch_outcome hdispatch).ledger.endorseesCount hnot with
        ⟨hendorses, hone, hcount⟩ | ⟨hzero, hcount⟩
      · rw [hone, hcount]
        constructor
        · intro heq _ _
          omega
        · intro hregistered
          rw [hregistered rfl hendorses]
      · rw [hzero, hcount]
        constructor
        · intro _ _ hendorses
          have hone := Dispatch.endorsements_of_endorsedCeremony hdispatch hendorses
          omega
        · intro _
          rfl

/-- The count is the number of endorsements, just if it finds all endorsees registered each time. -/
theorem endorsees_count_exact (config : Config AccountId) (genesis : GenesisConfig)
    (nativeBalances : StorageMap AccountId Nat)
    (assetBalances : StorageMap (AccountId × AssetKind) Nat) (actions : List (Action AccountId))
    (cc : CommunityCeremony)
    (hkept : Machine.Along (Chain.step config)
      (fun chain action => Dispatch.KeepsHistory config cc chain.runtime action)
      (Chain.genesis genesis nativeBalances assetBalances) actions) :
    (∀ seen, seen <+: actions → EndorsementsCounted
      ((Chain.genesis genesis nativeBalances assetBalances).run config seen) cc) ↔
    Machine.Along (Chain.step config) (EndorseesRegistered config cc)
      (Chain.genesis genesis nativeBalances assetBalances) actions := by
  have hgenesis : EndorsementsCounted (Chain.genesis genesis nativeBalances assetBalances) cc := rfl
  exact Machine.Along.iff_prefixes (fun chain => EndorsementsCounted chain cc)
    (fun _ _ hcounted hkept => endorsementsCounted_step hcounted hkept) hgenesis hkept

end Ceremonies

/-! ## Two endorsements -/

namespace Demo

def endorse (sender : Nat) (cid : CommunityIdentifier) (newbie : Nat) : Action Nat :=
  .endorseNewcomer sender cid newbie

/-- A bootstrapper endorses a newcomer for the second ceremony. -/
def endorsedOnce : List (Action Nat) := firstCeremony ++ [newDay 4, endorse 1 islanders 50]

/-- Another bootstrapper endorses before the first newcomer registers. -/
def endorsedTwice : List (Action Nat) := endorsedOnce ++ [endorse 2 islanders 51]

end Demo

theorem Ceremonies.endorsees_count_exact_endorsedOnce :
    (∀ seen, seen <+: Demo.endorsedOnce → EndorsementsCounted
      (Demo.start.run Demo.runtimeConfig seen) (Demo.islanders, 2)) ↔
    Machine.Along (Chain.step Demo.runtimeConfig)
      (EndorseesRegistered Demo.runtimeConfig (Demo.islanders, 2)) Demo.start Demo.endorsedOnce :=
  Ceremonies.endorsees_count_exact Demo.runtimeConfig Demo.genesis ∅ ∅ Demo.endorsedOnce
    (Demo.islanders, 2) (by decide +kernel)

/-- The second endorsement is not counted. -/
theorem Ceremonies.endorsees_count_misses :
    Machine.Along (Chain.step Demo.runtimeConfig)
        (fun chain action =>
          Dispatch.KeepsHistory Demo.runtimeConfig (Demo.islanders, 2) chain.runtime action)
        Demo.start Demo.endorsedTwice ∧
      endorsements (Demo.start.run Demo.runtimeConfig Demo.endorsedTwice).trace
        (Demo.islanders, 2) = 2 ∧
      (Demo.start.run Demo.runtimeConfig Demo.endorsedTwice).runtime.ceremonies.endorseesCount.get
        (Demo.islanders, 2) 0 = 1 ∧
      ¬ EndorsementsCounted (Demo.start.run Demo.runtimeConfig Demo.endorsedTwice)
        (Demo.islanders, 2) := by
  refine ⟨by decide +kernel, by decide +kernel, by decide +kernel, by decide +kernel⟩

end Encointer
