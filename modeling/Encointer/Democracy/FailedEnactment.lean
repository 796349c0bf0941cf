import Encointer.Ceremonies.RewardOnce
import Encointer.Communities.GeohashIndex

/-!
# Failing enactments

The hook that enacts proposals does not roll a failing one back. Nearly all
actions check before they write. The exception is an added location: it is
stored before its bucket turns out to be full of other communities.
-/

namespace Encointer

open Checked

variable {AccountId : Type} [DecidableEq AccountId] {config : Config AccountId}

namespace Communities

variable {communities communities' : CommunitiesStorage AccountId} {cid : CommunityIdentifier}
  {location : Location} {geoHash : GeoHash}

/-- The location is new, and its bucket has room for it but not for its community. -/
def AdditionOverfills (config : Config AccountId) (communities : CommunitiesStorage AccountId)
    (cid : CommunityIdentifier) (location : Location) : Prop :=
  ∃ geoHash, BucketFull config communities cid geoHash location ∧
    location ∉ locations communities cid geoHash

section

omit [DecidableEq AccountId]

theorem locations_of_addLocationToBucket
    (h : addLocationToBucket config communities cid geoHash location = .ok communities') :
    location ∈ locations communities' cid geoHash ∧
      cidsByGeohash communities' geoHash = cidsByGeohash communities geoHash := by
  rcases addLocationToBucket_cases h with ⟨hmem, rfl⟩ | ⟨-, -, rfl⟩
  · exact ⟨hmem, rfl⟩
  · refine ⟨?_, rfl⟩
    rw [locations_insert, if_pos rfl]
    exact (List.mem_insertIdx List.countP_le_length).2 (.inl rfl)

private theorem addCidToBucket_of_full (hunknown : cid ∉ cidsByGeohash communities geoHash)
    (hfull : config.maxCommunityIdentifiersPerGeohash ≤
      (cidsByGeohash communities geoHash).length) :
    addCidToBucket config communities geoHash cid =
      (communities, .error .tooManyCommunityIdentifiersPerGeohash) := by
  unfold addCidToBucket
  simp only
  rcases binarySearch_cases CommunityIdentifier.lt (cidsByGeohash communities geoHash) cid with
    ⟨index, -, hknown, -⟩ | ⟨hsearch, -⟩
  · exact absurd hknown hunknown
  · unfold cidsByGeohash at hsearch hfull
    rw [hsearch]
    exact if_pos hfull

private theorem doAddLocation_of_full (h : BucketFull config communities cid geoHash location) :
    (doAddLocation config communities cid location).2 =
        .error .tooManyCommunityIdentifiersPerGeohash ∧
      location ∈ locations (doAddLocation config communities cid location).1 cid geoHash := by
  obtain ⟨added, hadd⟩ := addLocationToBucket_of_room h.room
  obtain ⟨hmem, hcids⟩ := locations_of_addLocationToBucket hadd
  have hunknown := h.unknown
  have hfull := h.full
  rw [← hcids] at hunknown hfull
  have hadded : doAddLocation config communities cid location =
      addCidToBucket config added geoHash cid := by
    simp [doAddLocation, ensureCidExists, ensure, h.registered, h.valid, h.place, okOr, hadd, bind,
      Except.bind]
  rw [hadded, addCidToBucket_of_full hunknown hfull]
  exact ⟨rfl, hmem⟩

theorem doAddLocation_failed_cases {e : DispatchError}
    (h : (doAddLocation config communities cid location).2 = .error e) :
    (doAddLocation config communities cid location).1 = communities ∨
      AdditionOverfills config communities cid location := by
  unfold doAddLocation at h ⊢
  simp only at h ⊢
  split
  · exact .inl rfl
  · rename_i geoHash added hadded
    simp only [hadded] at h
    simp only [bind_eq_ok, ensure_eq_ok, ensureCidExists, okOr_eq_ok, ok_inj, Prod.mk.injEq]
      at hadded
    obtain ⟨-, hcid, ⟨⟩, hvalid, geoHash', hplace, added', hadd, rfl, rfl⟩ := hadded
    rcases addCidToBucket_cases config added' geoHash' cid with
      ⟨-, hjoined⟩ | ⟨hunknown, hfull, hleft⟩ | ⟨-, hjoined⟩
    · rw [hjoined] at h
      cases h
    · rw [(locations_of_addLocationToBucket hadd).2] at hunknown hfull
      rcases addLocationToBucket_cases hadd with ⟨-, rfl⟩ | ⟨hnew, hroom, rfl⟩
      · rw [hleft]
        exact .inl rfl
      · exact .inr ⟨geoHash', ⟨hcid, hvalid, hplace, .inr hroom, hunknown, hfull⟩, hnew⟩
    · rw [hjoined] at h
      cases h

/-- What was not there before an addition that overfills the bucket is there after it. -/
theorem AdditionOverfills.changes (h : AdditionOverfills config communities cid location) :
    (doAddLocation config communities cid location).2 =
        .error .tooManyCommunityIdentifiersPerGeohash ∧
      (doAddLocation config communities cid location).1 ≠ communities := by
  obtain ⟨geoHash, hfull, hnew⟩ := h
  obtain ⟨herror, hmem⟩ := doAddLocation_of_full hfull
  refine ⟨herror, ?_⟩
  intro hsame
  rw [hsame] at hmem
  exact hnew hmem

end

end Communities

/-! ## Enactments -/

namespace Democracy

open Communities

variable {s : Runtime AccountId}

structure SamePallets (s s' : Runtime AccountId) : Prop where
  communities : s'.communities = s.communities
  balances : s'.balances = s.balances
  ceremonies : s'.ceremonies = s.ceremonies
  treasuries : s'.treasuries = s.treasuries
  democracy : s'.democracy = s.democracy

omit [DecidableEq AccountId] in
theorem SamePallets.of_eq {s' : Runtime AccountId} (h : s' = s) : SamePallets s s' := by
  rw [h]
  exact ⟨rfl, rfl, rfl, rfl, rfl⟩

def EnactmentFailsClean (config : Config AccountId) (s : Runtime AccountId) (proposalId : Nat) :
    Prop :=
  ∀ e, (enactProposal config s proposalId).2 = .error e →
    SamePallets s (enactProposal config s proposalId).1

def ProposalOverfills (config : Config AccountId) (s : Runtime AccountId) (proposalId : Nat) :
    Prop :=
  ∃ proposal cid location, s.democracy.proposals.lookup proposalId = some proposal ∧
    proposal.action = .addLocation cid location ∧
    AdditionOverfills config s.communities cid location

/-- All other actions check before they write. -/
theorem enactAction_failed {action : ProposalAction AccountId} {e : DispatchError}
    (h : (enactAction config s action).2 = .error e) :
    (enactAction config s action).1 = s ∨
      ∃ cid location, action = .addLocation cid location ∧
        AdditionOverfills config s.communities cid location := by
  cases action with
  | addLocation cid location =>
      rcases doAddLocation_failed_cases h with hsame | hoverfills
      · left
        simp only [enactAction, hsame]
      · exact .inr ⟨cid, location, rfl, hoverfills⟩
  | setInactivityTimeout inactivityTimeout => cases h
  | petition maybeCid petition => cases h
  | issueSwapNativeOption cid owner swapOption => cases h
  | issueSwapAssetOption cid owner swapOption => cases h
  | _ =>
      left
      simp only [enactAction] at h ⊢
      split at h
      · rfl
      · cases h

/-- A failing enactment leaves the storage just if it adds no location that overfills its bucket. -/
theorem enactProposal_failsClean_iff (config : Config AccountId) (s : Runtime AccountId)
    (proposalId : Nat) :
    EnactmentFailsClean config s proposalId ↔ ¬ ProposalOverfills config s proposalId := by
  unfold EnactmentFailsClean
  constructor
  · rintro hclean ⟨proposal, cid, location, hproposal, haction, hoverfills⟩
    obtain ⟨herror, hchanged⟩ := hoverfills.changes
    have henacted : enactProposal config s proposalId =
        ({ s with communities := (doAddLocation config s.communities cid location).1 },
          .error .tooManyCommunityIdentifiersPerGeohash) := by
      simp only [enactProposal, hproposal, haction, enactAction, herror]
    rw [henacted] at hclean
    exact hchanged (hclean _ rfl).communities
  · intro hfits e herror
    unfold enactProposal at herror ⊢
    split
    · exact .of_eq rfl
    · rename_i proposal hproposal
      simp only [hproposal] at herror
      split
      · rename_i enacted e' henact
        have hfailed : (enactAction config s proposal.action).2 = .error e' := by rw [henact]
        rcases enactAction_failed hfailed with hsame | ⟨cid, location, haction, hoverfills⟩
        · rw [henact] at hsame
          exact .of_eq hsame
        · exact absurd ⟨proposal, cid, location, hproposal, haction, hoverfills⟩ hfits
      · rename_i enacted henact
        rw [henact] at herror
        cases herror

end Democracy

/-! ## A full bucket -/

namespace Demo

/-- One community in each geohash bucket. -/
def lonelyConfig : Config Nat := { runtimeConfig with maxCommunityIdentifiersPerGeohash := 1 }

/-- In the bucket of the mainland, five degrees to the north. -/
def highland : Location := ⟨50 * 2 ^ 64, 45 * 2 ^ 53⟩

def settled : List (Action Nat) :=
  [newDay 1, newCommunity island [1, 2, 3], newCommunity mainland [4, 5, 6],
    .submitProposal (.addLocation islanders highland)]

end Demo

namespace Democracy

/-- The islanders get a location on the mainland, and the bucket does not get to know them. -/
theorem failed_enactment_leaves_location :
    let s := (Demo.start.run Demo.lonelyConfig Demo.settled).runtime
    let enacted := enactProposal Demo.lonelyConfig s 1
    enacted.2 = .error .tooManyCommunityIdentifiersPerGeohash ∧
      Communities.getLocations s.communities Demo.islanders = [Demo.island] ∧
      Communities.getLocations enacted.1.communities Demo.islanders =
        [Demo.highland, Demo.island] ∧
      ¬ EnactmentFailsClean Demo.lonelyConfig s 1 := by
  refine ⟨by decide +kernel, by decide +kernel, by decide +kernel, ?_⟩
  intro hclean
  have hsame := (hclean .tooManyCommunityIdentifiersPerGeohash (by decide +kernel)).communities
  have hlocations := congrArg (Communities.getLocations · Demo.islanders) hsame
  exact absurd hlocations (by decide +kernel)

end Democracy

end Encointer
