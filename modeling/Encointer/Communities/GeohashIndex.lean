import Encointer.Library.SortedList
import Encointer.Runtime.PhaseChanges

/-!
# The geohash index of communities

The locations of a community are kept by geohash bucket, and every bucket lists
the communities with locations in it. All lists are sorted, locations are in the
bucket of their geohash, and a bucket lists no community without locations in it.
-/

namespace Encointer

/-! ## Orders -/

theorem Location.strictOrder : StrictOrder Location.lt where
  irrefl := by
    intro x
    simp [lt]
  trans := by
    intro x y z hxy hyz
    simp only [lt, Bool.decide_or] at hxy hyz ⊢
    grind
  connected := by
    intro x y hxy
    cases x
    cases y
    simp only [ne_eq, mk.injEq] at hxy
    simp only [lt, Bool.decide_or]
    grind

theorem CommunityIdentifier.strictOrder : StrictOrder CommunityIdentifier.lt where
  irrefl := by
    intro x
    simp [lt, List.lt_irrefl]
  trans := by
    intro x y z
    simp only [lt, decide_eq_true_eq]
    exact List.lt_trans
  connected := by
    intro x y hxy
    cases x with | mk geohash digest =>
    cases y with | mk geohash' digest' =>
    simp only [lt, decide_eq_true_eq]
    by_contra hnone
    rw [not_or, List.not_lt, List.not_lt] at hnone
    have hbytes := List.append_inj (List.le_antisymm hnone.1 hnone.2) (by simp)
    simp only [Vector.toList_inj] at hbytes
    exact hxy (by rw [hbytes.1, hbytes.2])

/-- A search finds the element, or the place of a new one. -/
theorem binarySearch_cases {α : Type} [DecidableEq α] (lt : α → α → Bool) (xs : List α) (x : α) :
    (∃ index, binarySearch lt xs x = .ok index ∧ x ∈ xs ∧ xs.eraseIdx index = xs.erase x) ∨
      binarySearch lt xs x = .error (xs.countP fun y => lt y x) ∧ x ∉ xs := by
  unfold binarySearch
  cases hfind : xs.findIdx? fun y => y = x with
  | none =>
      refine Or.inr ⟨rfl, ?_⟩
      intro hx
      have hnot := List.findIdx?_eq_none_iff.1 hfind x hx
      simp at hnot
  | some index =>
      refine Or.inl ⟨index, rfl, ?_, eraseIdx_of_findIdx? hfind⟩
      rw [List.findIdx?_eq_some_iff_getElem] at hfind
      obtain ⟨hindex, hx, -⟩ := hfind
      rw [← of_decide_eq_true hx]
      exact List.getElem_mem hindex

variable {AccountId : Type} [DecidableEq AccountId] {config : Config AccountId}

namespace Communities

def cidsByGeohash (communities : CommunitiesStorage AccountId) (geoHash : GeoHash) :
    List CommunityIdentifier :=
  communities.cidsByGeohash.get geoHash []

/-! ## Adding to buckets -/

section

variable {communities communities' : CommunitiesStorage AccountId} {cid : CommunityIdentifier}
  {geoHash : GeoHash} {location : Location}

section

omit [DecidableEq AccountId]

theorem locations_addCidToBucket (cid' : CommunityIdentifier) (geoHash' : GeoHash) :
    locations (addCidToBucket config communities geoHash cid).1 cid' geoHash' =
      locations communities cid' geoHash' := by
  unfold addCidToBucket
  simp only
  split
  · rfl
  · split <;> rfl

/-- A community joins the bucket, unless the bucket is full. -/
theorem addCidToBucket_cases (config : Config AccountId)
    (communities : CommunitiesStorage AccountId) (geoHash : GeoHash) (cid : CommunityIdentifier) :
    (cid ∈ cidsByGeohash communities geoHash ∧
        addCidToBucket config communities geoHash cid = (communities, .ok ())) ∨
      (cid ∉ cidsByGeohash communities geoHash ∧
        config.maxCommunityIdentifiersPerGeohash ≤ (cidsByGeohash communities geoHash).length ∧
        addCidToBucket config communities geoHash cid =
          (communities, .error .tooManyCommunityIdentifiersPerGeohash)) ∨
      cid ∉ cidsByGeohash communities geoHash ∧
        addCidToBucket config communities geoHash cid = ({ communities with
          cidsByGeohash := communities.cidsByGeohash.insert geoHash
            ((cidsByGeohash communities geoHash).insertIdx
              ((cidsByGeohash communities geoHash).countP fun y => y.lt cid) cid) }, .ok ()) := by
  have hsearch := binarySearch_cases CommunityIdentifier.lt (cidsByGeohash communities geoHash) cid
  unfold cidsByGeohash at hsearch ⊢
  unfold addCidToBucket
  simp only
  rcases hsearch with ⟨index, hfound, hmem, -⟩ | ⟨hfound, hmem⟩
  · rw [hfound]
    exact Or.inl ⟨hmem, rfl⟩
  · rw [hfound]
    by_cases hfull : config.maxCommunityIdentifiersPerGeohash ≤
        (communities.cidsByGeohash.get geoHash []).length
    · exact Or.inr (Or.inl ⟨hmem, hfull, if_pos hfull⟩)
    · exact Or.inr (Or.inr ⟨hmem, if_neg hfull⟩)

theorem cidsByGeohash_insert (cids : List CommunityIdentifier) (geoHash' : GeoHash) :
    cidsByGeohash { communities with
        cidsByGeohash := communities.cidsByGeohash.insert geoHash cids } geoHash' =
      if geoHash' = geoHash then cids else cidsByGeohash communities geoHash' :=
  StorageMap.get_insert communities.cidsByGeohash geoHash cids geoHash' []

theorem locations_insert (bucket : List Location) (cid' : CommunityIdentifier)
    (geoHash' : GeoHash) :
    locations { communities with
        locations := communities.locations.insert (cid, geoHash) bucket } cid' geoHash' =
      if (cid', geoHash') = (cid, geoHash) then bucket else locations communities cid' geoHash' :=
  StorageMap.get_insert communities.locations (cid, geoHash) bucket (cid', geoHash') []

end

/-! ## Removing a location -/

section

omit [DecidableEq AccountId]

/-- The bucket loses the community, and itself with its last one. -/
theorem cidsByGeohash_removeCidFromBucket (geoHash' : GeoHash) :
    cidsByGeohash (removeCidFromBucket communities geoHash cid) geoHash' =
      if geoHash' = geoHash then (cidsByGeohash communities geoHash).erase cid
      else cidsByGeohash communities geoHash' := by
  have hsearch := binarySearch_cases CommunityIdentifier.lt (cidsByGeohash communities geoHash) cid
  unfold cidsByGeohash at hsearch ⊢
  unfold removeCidFromBucket
  simp only
  rcases hsearch with ⟨index, hfound, -, herase⟩ | ⟨hfound, hmem⟩
  · rw [hfound]
    simp only [herase]
    split
    · rename_i hempty
      rw [StorageMap.get_erase, List.isEmpty_iff.1 hempty]
    · rw [StorageMap.get_insert]
  · simp only [hfound]
    split
    · rename_i hsame
      rw [hsame, List.erase_of_not_mem hmem]
    · rfl

theorem locations_removeCidFromBucket (cid' : CommunityIdentifier) (geoHash' : GeoHash) :
    locations (removeCidFromBucket communities geoHash cid) cid' geoHash' =
      locations communities cid' geoHash' := by
  unfold removeCidFromBucket
  simp only
  split <;> rfl

theorem locations_removeLocationIntern (cid' : CommunityIdentifier) (geoHash' : GeoHash) :
    locations (removeLocationIntern communities cid location geoHash) cid' geoHash' =
      if (cid', geoHash') = (cid, geoHash) then (locations communities cid geoHash).erase location
      else locations communities cid' geoHash' := by
  unfold removeLocationIntern
  simp only
  rcases binarySearch_cases Location.lt (locations communities cid geoHash) location with
    ⟨index, hfound, -, herase⟩ | ⟨hfound, hmem⟩
  · rw [hfound]
    simp only [herase]
    split
    · rw [locations_removeCidFromBucket, locations_insert]
    · rw [locations_insert]
  · rw [hfound]
    simp only [locations_removeCidFromBucket]
    split
    · rename_i hsame
      rw [Prod.mk.injEq] at hsame
      rw [hsame.1, hsame.2, List.erase_of_not_mem hmem]
    · rfl

/-- The community leaves the bucket with its last location, and with one it does not have. -/
theorem cidsByGeohash_removeLocationIntern (geoHash' : GeoHash) :
    cidsByGeohash (removeLocationIntern communities cid location geoHash) geoHash' =
      if geoHash' = geoHash ∧ (location ∈ locations communities cid geoHash →
        (locations communities cid geoHash).erase location = []) then
        (cidsByGeohash communities geoHash).erase cid
      else cidsByGeohash communities geoHash' := by
  unfold removeLocationIntern
  simp only
  rcases binarySearch_cases Location.lt (locations communities cid geoHash) location with
    ⟨index, hfound, hmem, herase⟩ | ⟨hfound, hmem⟩
  · rw [hfound]
    simp only [herase, hmem, forall_const, List.length_eq_zero_iff]
    split
    · rename_i hlast
      rw [cidsByGeohash_removeCidFromBucket]
      simp only [hlast, and_true]
      rfl
    · rename_i hmore
      simp only [hmore, and_false, if_false]
      rfl
  · rw [hfound]
    simp only [cidsByGeohash_removeCidFromBucket, hmem, false_imp_iff, and_true]

end

end

/-! ## The index -/

structure SortedIndex (config : Config AccountId) (communities : CommunitiesStorage AccountId) :
    Prop where
  cidsSorted : ∀ geoHash,
    StrictlySorted CommunityIdentifier.lt (cidsByGeohash communities geoHash)
  locationsSorted : ∀ cid geoHash,
    StrictlySorted Location.lt (locations communities cid geoHash)
  places : ∀ cid geoHash location, location ∈ locations communities cid geoHash →
    config.tryFromParams location = some geoHash
  inhabited : ∀ cid geoHash, cid ∈ cidsByGeohash communities geoHash →
    locations communities cid geoHash ≠ []

/-- The buckets list every community that has locations in them. -/
def BucketsComplete (communities : CommunitiesStorage AccountId) : Prop :=
  ∀ cid geoHash, locations communities cid geoHash ≠ [] → cid ∈ cidsByGeohash communities geoHash

namespace SortedIndex

variable {communities communities' : CommunitiesStorage AccountId}

omit [DecidableEq AccountId] in
theorem congr (h : SortedIndex config communities)
    (hcids : communities'.cidsByGeohash = communities.cidsByGeohash)
    (hlocations : communities'.locations = communities.locations) :
    SortedIndex config communities' := by
  have hcids' : cidsByGeohash communities' = cidsByGeohash communities := by
    funext geoHash
    rw [cidsByGeohash, cidsByGeohash, hcids]
  have hlocations' : locations communities' = locations communities := by
    funext cid geoHash
    rw [locations, locations, hlocations]
  constructor
  · rw [hcids']
    exact h.cidsSorted
  · rw [hlocations']
    exact h.locationsSorted
  · rw [hlocations']
    exact h.places
  · rw [hcids', hlocations']
    exact h.inhabited

omit [DecidableEq AccountId] in
theorem removeLocationIntern (h : SortedIndex config communities) (cid : CommunityIdentifier)
    (location : Location) (geoHash : GeoHash) :
    SortedIndex config (removeLocationIntern communities cid location geoHash) where
  cidsSorted := by
    intro geoHash'
    rw [cidsByGeohash_removeLocationIntern]
    split
    · exact (h.cidsSorted geoHash).sublist List.erase_sublist
    · exact h.cidsSorted geoHash'
  locationsSorted := by
    intro cid' geoHash'
    rw [locations_removeLocationIntern]
    split
    · exact (h.locationsSorted cid geoHash).sublist List.erase_sublist
    · exact h.locationsSorted cid' geoHash'
  places := by
    intro cid' geoHash' location' hmem
    rw [locations_removeLocationIntern] at hmem
    split at hmem
    · rename_i hsame
      rw [Prod.mk.injEq] at hsame
      rw [hsame.2]
      exact h.places cid geoHash location' (List.mem_of_mem_erase hmem)
    · exact h.places cid' geoHash' location' hmem
  inhabited := by
    intro cid' geoHash' hmem
    rw [cidsByGeohash_removeLocationIntern] at hmem
    rw [locations_removeLocationIntern]
    have hnodup := (h.cidsSorted geoHash).nodup CommunityIdentifier.strictOrder
    split at hmem
    · rename_i hleft
      rw [hnodup.mem_erase_iff] at hmem
      rw [if_neg (by simp [hmem.1]), hleft.1]
      exact h.inhabited cid' geoHash hmem.2
    · rename_i hstays
      split
      · rename_i hsame
        rw [Prod.mk.injEq] at hsame
        intro hempty
        exact hstays ⟨hsame.2, fun _ => hempty⟩
      · exact h.inhabited cid' geoHash' hmem

end SortedIndex

omit [DecidableEq AccountId] in
/-- The meetup places of a community are all different. -/
theorem SortedIndex.getLocations_nodup {communities : CommunitiesStorage AccountId}
    (h : SortedIndex config communities) (cid : CommunityIdentifier) :
    (getLocations communities cid).Nodup := by
  have hstored {key : CommunityIdentifier × GeoHash} {bucket : List Location}
      (hentry : (key, bucket) ∈ communities.locations.entries) :
      bucket = locations communities key.1 key.2 :=
    (StorageMap.get_of_lookup (StorageMap.lookup_eq_some_iff.2 hentry)).symm
  have hkeys := communities.locations.nodupKeys
  rw [List.Nodup, List.pairwise_map] at hkeys
  rw [getLocations, List.nodup_flatMap]
  constructor
  · intro e hentry
    split
    · rw [hstored hentry]
      exact (h.locationsSorted e.1.1 e.1.2).nodup Location.strictOrder
    · exact List.nodup_nil
  · refine hkeys.imp_of_mem ?_
    intro e e' hentry hentry' hdifferent location hmem hmem'
    simp only at hmem hmem'
    split at hmem
    · rename_i hcid
      split at hmem'
      · rename_i hcid'
        rw [hstored hentry] at hmem
        rw [hstored hentry'] at hmem'
        have hplace := h.places _ _ _ hmem
        rw [h.places _ _ _ hmem', Option.some.injEq] at hplace
        exact hdifferent (Prod.ext (hcid.trans hcid'.symm) hplace.symm)
      · cases hmem'
    · cases hmem

/-! ## Adding a location -/

/-- The community gets a bucket of locations, and the bucket its communities. -/
structure LocationAdded (config : Config AccountId)
    (communities communities' : CommunitiesStorage AccountId) (cid : CommunityIdentifier)
    (geoHash : GeoHash) (cids : List CommunityIdentifier) (bucket : List Location) : Prop where
  cidsOf : ∀ geoHash', cidsByGeohash communities' geoHash' =
    if geoHash' = geoHash then cids else cidsByGeohash communities geoHash'
  locationsOf : ∀ cid' geoHash', locations communities' cid' geoHash' =
    if (cid', geoHash') = (cid, geoHash) then bucket else locations communities cid' geoHash'
  cidsSorted : StrictlySorted CommunityIdentifier.lt cids
  bucketSorted : StrictlySorted Location.lt bucket
  places : ∀ location ∈ bucket, config.tryFromParams location = some geoHash
  nonempty : bucket ≠ []
  known : ∀ x ∈ cids, x = cid ∨ x ∈ cidsByGeohash communities geoHash
  kept : ∀ x ∈ cidsByGeohash communities geoHash, x ∈ cids

section

variable {communities communities' : CommunitiesStorage AccountId} {cid : CommunityIdentifier}
  {geoHash : GeoHash} {location : Location} {cids : List CommunityIdentifier}
  {bucket : List Location}

section

omit [DecidableEq AccountId]

theorem LocationAdded.sortedIndex
    (hadded : LocationAdded config communities communities' cid geoHash cids bucket)
    (h : SortedIndex config communities) : SortedIndex config communities' where
  cidsSorted := by
    intro geoHash'
    rw [hadded.cidsOf]
    split
    · exact hadded.cidsSorted
    · exact h.cidsSorted geoHash'
  locationsSorted := by
    intro cid' geoHash'
    rw [hadded.locationsOf]
    split
    · exact hadded.bucketSorted
    · exact h.locationsSorted cid' geoHash'
  places := by
    intro cid' geoHash' location' hmem
    rw [hadded.locationsOf] at hmem
    split at hmem
    · rename_i hsame
      rw [Prod.mk.injEq] at hsame
      rw [hsame.2]
      exact hadded.places location' hmem
    · exact h.places cid' geoHash' location' hmem
  inhabited := by
    intro cid' geoHash' hmem
    rw [hadded.locationsOf]
    split
    · exact hadded.nonempty
    · rename_i hother
      rw [hadded.cidsOf] at hmem
      split at hmem
      · rename_i hsame
        rw [hsame] at hother ⊢
        rcases hadded.known cid' hmem with hcid | hknown
        · exact absurd (by rw [hcid]) hother
        · exact h.inhabited cid' geoHash hknown
      · exact h.inhabited cid' geoHash' hmem

theorem LocationAdded.bucketsComplete
    (hadded : LocationAdded config communities communities' cid geoHash cids bucket)
    (hcid : cid ∈ cids) (h : BucketsComplete communities) : BucketsComplete communities' := by
  intro cid' geoHash' hlocations
  rw [hadded.locationsOf] at hlocations
  rw [hadded.cidsOf]
  split at hlocations
  · rename_i hsame
    rw [Prod.mk.injEq] at hsame
    rw [if_pos hsame.2, hsame.1]
    exact hcid
  · have hmem := h cid' geoHash' hlocations
    split
    · rename_i hsame
      rw [hsame] at hmem
      exact hadded.kept cid' hmem
    · exact hmem

theorem cidsByGeohash_addCidToBucket
    (hsorted : StrictlySorted CommunityIdentifier.lt (cidsByGeohash communities geoHash))
    (hok : (addCidToBucket config communities geoHash cid).2 = .ok ()) :
    ∃ cids, StrictlySorted CommunityIdentifier.lt cids ∧
      (∀ x, x ∈ cids ↔ x = cid ∨ x ∈ cidsByGeohash communities geoHash) ∧
      ∀ geoHash', cidsByGeohash (addCidToBucket config communities geoHash cid).1 geoHash' =
        if geoHash' = geoHash then cids else cidsByGeohash communities geoHash' := by
  rcases addCidToBucket_cases config communities geoHash cid with
    ⟨hmem, hsame⟩ | ⟨-, -, hfull⟩ | ⟨hnew, hinsert⟩
  · refine ⟨cidsByGeohash communities geoHash, hsorted, ?_, ?_⟩
    · intro x
      constructor
      · exact Or.inr
      · rintro (rfl | hx)
        · exact hmem
        · exact hx
    · intro geoHash'
      rw [hsame]
      split
      · rename_i heq
        rw [heq]
      · rfl
  · rw [hfull] at hok
    cases hok
  · refine ⟨_, hsorted.insertIdx CommunityIdentifier.strictOrder hnew, ?_, ?_⟩
    · intro x
      exact List.mem_insertIdx List.countP_le_length
    · intro geoHash'
      rw [hinsert]
      exact cidsByGeohash_insert _ geoHash'

theorem addLocationToBucket_spec (h : SortedIndex config communities)
    (hplace : config.tryFromParams location = some geoHash)
    (hadd : addLocationToBucket config communities cid geoHash location = .ok communities') :
    cidsByGeohash communities' = cidsByGeohash communities ∧
      (location ∈ locations communities cid geoHash ∨
        (locations communities cid geoHash).length < config.maxLocationsPerGeohash) ∧
      ∃ bucket, StrictlySorted Location.lt bucket ∧ bucket ≠ [] ∧
        (∀ x ∈ bucket, config.tryFromParams x = some geoHash) ∧
        ∀ cid' geoHash', locations communities' cid' geoHash' =
          if (cid', geoHash') = (cid, geoHash) then bucket
          else locations communities cid' geoHash' := by
  unfold addLocationToBucket at hadd
  simp only at hadd
  rcases binarySearch_cases Location.lt (locations communities cid geoHash) location with
    ⟨index, hfound, hmem, -⟩ | ⟨hfound, hnew⟩
  · rw [hfound, ok_inj] at hadd
    rw [← hadd]
    refine ⟨rfl, Or.inl hmem, locations communities cid geoHash, h.locationsSorted cid geoHash,
      List.ne_nil_of_mem hmem, h.places cid geoHash, ?_⟩
    intro cid' geoHash'
    split
    · rename_i hsame
      rw [Prod.mk.injEq] at hsame
      rw [hsame.1, hsame.2]
    · rfl
  · simp only [hfound, ite_eq_ok, error_ne_ok, and_false, false_or, ok_inj] at hadd
    obtain ⟨hroom, rfl⟩ := hadd
    refine ⟨rfl, Or.inr (by omega), _,
      (h.locationsSorted cid geoHash).insertIdx Location.strictOrder hnew, ?_, ?_, ?_⟩
    · exact List.ne_nil_of_mem ((List.mem_insertIdx List.countP_le_length).2 (Or.inl rfl))
    · intro x hx
      rcases (List.mem_insertIdx List.countP_le_length).1 hx with rfl | hx
      · exact hplace
      · exact h.places cid geoHash x hx
    · intro cid' geoHash'
      exact locations_insert _ cid' geoHash'

theorem addLocationToBucket_cases {geoHash : GeoHash}
    (h : addLocationToBucket config communities cid geoHash location = .ok communities') :
    location ∈ locations communities cid geoHash ∧ communities' = communities ∨
      location ∉ locations communities cid geoHash ∧
        (locations communities cid geoHash).length < config.maxLocationsPerGeohash ∧
        communities' = { communities with
          locations := communities.locations.insert (cid, geoHash)
            ((locations communities cid geoHash).insertIdx
              ((locations communities cid geoHash).countP fun y => y.lt location) location) } := by
  unfold addLocationToBucket at h
  simp only at h
  rcases binarySearch_cases Location.lt (locations communities cid geoHash) location with
    ⟨index, hfound, hmem, -⟩ | ⟨hfound, hnew⟩
  · rw [hfound, ok_inj] at h
    exact Or.inl ⟨hmem, h.symm⟩
  · simp only [hfound, ite_eq_ok, error_ne_ok, and_false, false_or, ok_inj] at h
    exact Or.inr ⟨hnew, by omega, h.2.symm⟩

theorem addLocationToBucket_of_room {geoHash : GeoHash}
    (h : location ∈ locations communities cid geoHash ∨
      (locations communities cid geoHash).length < config.maxLocationsPerGeohash) :
    ∃ added, addLocationToBucket config communities cid geoHash location = .ok added := by
  unfold addLocationToBucket
  simp only
  rcases binarySearch_cases Location.lt (locations communities cid geoHash) location with
    ⟨index, hfound, -, -⟩ | ⟨hfound, hnew⟩
  · rw [hfound]
    exact ⟨_, rfl⟩
  · rw [hfound]
    have hroom := h.resolve_left hnew
    exact ⟨_, if_neg (by omega)⟩

end

/-- Why a location stays in a bucket that does not get to know its community. -/
structure BucketFull (config : Config AccountId) (communities : CommunitiesStorage AccountId)
    (cid : CommunityIdentifier) (geoHash : GeoHash) (location : Location) : Prop where
  registered : cid ∈ communities.communityIdentifiers
  valid : validateLocation config communities location = .ok ()
  place : config.tryFromParams location = some geoHash
  room : location ∈ locations communities cid geoHash ∨
    (locations communities cid geoHash).length < config.maxLocationsPerGeohash
  unknown : cid ∉ cidsByGeohash communities geoHash
  full : config.maxCommunityIdentifiersPerGeohash ≤ (cidsByGeohash communities geoHash).length

omit [DecidableEq AccountId] in
/-- An addition that fails at a full bucket leaves the location behind. -/
theorem doAddLocation_cases (h : SortedIndex config communities) (cid : CommunityIdentifier)
    (location : Location) :
    (doAddLocation config communities cid location).1 = communities ∨
      ∃ geoHash cids bucket,
        LocationAdded config communities (doAddLocation config communities cid location).1 cid
          geoHash cids bucket ∧
        (cid ∈ cids ∨ BucketFull config communities cid geoHash location ∧
          (doAddLocation config communities cid location).2 =
            .error .tooManyCommunityIdentifiersPerGeohash) := by
  unfold doAddLocation
  simp only
  split
  · exact Or.inl rfl
  · rename_i geoHash added hadded
    simp only [bind_eq_ok, ensure_eq_ok, ensureCidExists, okOr_eq_ok, ok_inj, Prod.mk.injEq]
      at hadded
    obtain ⟨-, hcid, ⟨⟩, hvalid, geoHash', hplace, added', hadd, rfl, rfl⟩ := hadded
    obtain ⟨hsame, hroom, bucket, hsorted, hne, hplaces, hlocations⟩ :=
      addLocationToBucket_spec h hplace hadd
    have hcidsSorted := h.cidsSorted geoHash'
    rw [← hsame] at hcidsSorted
    rcases addCidToBucket_cases config added' geoHash' cid with
      ⟨-, hjoined⟩ | ⟨hunknown, hfull, hsecond⟩ | ⟨-, hjoined⟩
    case inr.inl =>
      rw [hsame] at hunknown hfull
      rw [hsecond]
      refine Or.inr ⟨geoHash', cidsByGeohash communities geoHash', bucket,
        ⟨?_, hlocations, h.cidsSorted geoHash', hsorted, hplaces, hne, fun _ => Or.inr,
          fun _ => id⟩, Or.inr ⟨⟨hcid, hvalid, hplace, hroom, hunknown, hfull⟩, rfl⟩⟩
      intro geoHash''
      rw [hsame]
      split
      · rename_i heq
        rw [heq]
      · rfl
    all_goals
      have hok : (addCidToBucket config added' geoHash' cid).2 = .ok () := by rw [hjoined]
      obtain ⟨cids, hcids, hmem, hbuckets⟩ := cidsByGeohash_addCidToBucket hcidsSorted hok
      rw [hsame] at hmem
      refine Or.inr ⟨geoHash', cids, bucket,
        ⟨?_, ?_, hcids, hsorted, hplaces, hne, fun x => (hmem x).1, fun x hx =>
          (hmem x).2 (Or.inr hx)⟩, Or.inl ((hmem cid).2 (Or.inl rfl))⟩
      · rw [← hsame]
        exact hbuckets
      · intro cid' geoHash''
        rw [locations_addCidToBucket]
        exact hlocations cid' geoHash''

omit [DecidableEq AccountId] in
theorem newCommunity_added {s : Runtime AccountId} {bootstrappers : List AccountId}
    {metadata : CommunityMetadata} {demurrage : Option Demurrage} {nominalIncome : Option Nat}
    {balances : BalancesStorage AccountId} (h : SortedIndex config s.communities)
    (hnew : newCommunity config s location bootstrappers metadata demurrage nominalIncome =
      .ok (communities', balances)) :
    ∃ cid geoHash cids, cid ∈ cids ∧
      LocationAdded config s.communities communities' cid geoHash cids [location] := by
  simp only [newCommunity, bind_eq_ok, okOr_eq_ok, ok_inj, Prod.mk.injEq] at hnew
  obtain ⟨-, -, -, -, cid, -, -, -, -, -, geoHash, hplace, -, -, joined, hjoin, -, -, -, -, rfl, -⟩ :=
    hnew
  obtain ⟨⟨⟨⟩, hok⟩, rfl⟩ := transactional_eq_ok.1 hjoin
  obtain ⟨cids, hcids, hmem, hbuckets⟩ := cidsByGeohash_addCidToBucket (h.cidsSorted geoHash) hok
  refine ⟨cid, geoHash, cids, (hmem cid).2 (Or.inl rfl), hbuckets, ?_, hcids, .singleton location,
    ?_, List.cons_ne_nil location [], fun x => (hmem x).1, fun x hx => (hmem x).2 (Or.inr hx)⟩
  · intro cid' geoHash'
    have hjoined : locations (addCidToBucket config s.communities geoHash cid).1 cid' geoHash' =
        locations s.communities cid' geoHash' := locations_addCidToBucket cid' geoHash'
    rw [← hjoined]
    exact locations_insert [location] cid' geoHash'
  · intro x hx
    rw [List.mem_singleton.1 hx]
    exact hplace

/-! ## Removing a community -/

section

omit [DecidableEq AccountId]

theorem removeLocationsIntern_frame {removed : List (GeoHash × Location)}
    {cid' : CommunityIdentifier} (hother : cid' ≠ cid) (geoHash' : GeoHash) :
    locations (removeLocationsIntern cid removed communities) cid' geoHash' =
        locations communities cid' geoHash' ∧
      (cid' ∈ cidsByGeohash (removeLocationsIntern cid removed communities) geoHash' ↔
        cid' ∈ cidsByGeohash communities geoHash') := by
  induction removed generalizing communities with
  | nil => exact ⟨rfl, Iff.rfl⟩
  | cons entry removed ih =>
      unfold removeLocationsIntern
      rw [ih.1, ih.2, locations_removeLocationIntern, if_neg (by simp [hother]),
        cidsByGeohash_removeLocationIntern]
      refine ⟨rfl, ?_⟩
      split
      · rename_i hleft
        rw [List.mem_erase_of_ne hother, hleft.1]
      · rfl

theorem removeLocationsIntern_spec {removed : List (GeoHash × Location)}
    (h : SortedIndex config communities) :
    SortedIndex config (removeLocationsIntern cid removed communities) ∧
      ∀ geoHash' location',
        location' ∈ locations (removeLocationsIntern cid removed communities) cid geoHash' →
        location' ∈ locations communities cid geoHash' ∧ (geoHash', location') ∉ removed := by
  induction removed generalizing communities with
  | nil =>
      refine ⟨h, ?_⟩
      intro geoHash' location' hmem
      exact ⟨hmem, List.not_mem_nil⟩
  | cons entry removed ih =>
      unfold removeLocationsIntern
      refine ⟨(ih (h.removeLocationIntern cid entry.2 entry.1)).1, ?_⟩
      intro geoHash' location' hmem
      have hkept := (ih (h.removeLocationIntern cid entry.2 entry.1)).2 geoHash' location' hmem
      have hbefore := hkept.1
      rw [locations_removeLocationIntern] at hbefore
      rw [List.mem_cons, not_or]
      split at hbefore
      · rename_i hsame
        rw [Prod.mk.injEq] at hsame
        have hnodup := (h.locationsSorted cid entry.1).nodup Location.strictOrder
        rw [hnodup.mem_erase_iff] at hbefore
        rw [hsame.2]
        refine ⟨hbefore.2, ?_, hsame.2 ▸ hkept.2⟩
        intro hentry
        exact hbefore.1 (congrArg Prod.snd hentry)
      · rename_i hother
        refine ⟨hbefore, ?_, hkept.2⟩
        intro hentry
        exact hother (by rw [← hentry])

theorem mem_locationsOf : (geoHash, location) ∈ locationsOf communities cid ↔
    location ∈ locations communities cid geoHash := by
  rw [locationsOf, List.mem_flatMap]
  constructor
  · intro hmem
    obtain ⟨⟨⟨cid', geoHash'⟩, bucket⟩, hentry, hmem⟩ := hmem
    split at hmem
    · rename_i hcid
      obtain ⟨location', hlocation, heq⟩ := List.mem_map.1 hmem
      cases heq
      cases hcid
      rw [locations, StorageMap.get_of_lookup (StorageMap.lookup_eq_some_iff.2 hentry)]
      exact hlocation
    · cases hmem
  · intro hmem
    have hstored := StorageMap.lookup_of_get_ne (List.ne_nil_of_mem hmem)
    refine ⟨((cid, geoHash), locations communities cid geoHash),
      StorageMap.lookup_eq_some_iff.1 hstored, ?_⟩
    rw [if_pos rfl]
    exact List.mem_map_of_mem hmem

theorem locations_removeCommunity (cid' : CommunityIdentifier) (geoHash' : GeoHash) :
    locations (removeCommunity communities cid) cid' geoHash' =
      if cid' = cid then []
      else locations (removeLocationsIntern cid (locationsOf communities cid) communities) cid'
        geoHash' :=
  StorageMap.get_removePrefix _ cid (cid', geoHash') []

/-- A removed community is in no bucket. -/
theorem SortedIndex.removeCommunity (h : SortedIndex config communities)
    (cid : CommunityIdentifier) : SortedIndex config (removeCommunity communities cid) := by
  have hloop : SortedIndex config
        (removeLocationsIntern cid (locationsOf communities cid) communities) ∧ _ :=
    removeLocationsIntern_spec h
  constructor
  · exact hloop.1.cidsSorted
  · intro cid' geoHash'
    rw [locations_removeCommunity]
    split
    · exact .nil
    · exact hloop.1.locationsSorted cid' geoHash'
  · intro cid' geoHash' location' hmem
    rw [locations_removeCommunity] at hmem
    split at hmem
    · cases hmem
    · exact hloop.1.places cid' geoHash' location' hmem
  · intro cid' geoHash' hmem
    have hne := hloop.1.inhabited cid' geoHash' hmem
    rw [locations_removeCommunity]
    split
    · rename_i hcid
      rw [hcid] at hne
      obtain ⟨location', hlocation⟩ := List.exists_mem_of_ne_nil _ hne
      obtain ⟨hbefore, hnot⟩ := hloop.2 geoHash' location' hlocation
      exact absurd (mem_locationsOf.2 hbefore) hnot
    · exact hne

theorem BucketsComplete.removeCommunity (h : BucketsComplete communities)
    (cid : CommunityIdentifier) : BucketsComplete (removeCommunity communities cid) := by
  intro cid' geoHash' hlocations
  rw [locations_removeCommunity] at hlocations
  split at hlocations
  · exact absurd rfl hlocations
  · rename_i hother
    have hframe : locations (removeLocationsIntern cid (locationsOf communities cid) communities)
          cid' geoHash' = locations communities cid' geoHash' ∧
        (cid' ∈ cidsByGeohash (removeLocationsIntern cid (locationsOf communities cid) communities)
          geoHash' ↔ cid' ∈ cidsByGeohash communities geoHash') :=
      removeLocationsIntern_frame hother geoHash'
    rw [hframe.1] at hlocations
    exact hframe.2.2 (h cid' geoHash' hlocations)

end

end

/-! ## Elementary changes -/

omit [DecidableEq AccountId] in
theorem SortedIndex.communityChange {communities communities' : CommunitiesStorage AccountId}
    (h : SortedIndex config communities)
    (hchange : CommunityChange config communities communities') :
    SortedIndex config communities' := by
  cases hchange with
  | addLocation cid location =>
      rcases doAddLocation_cases h cid location with hsame | ⟨geoHash, cids, bucket, hadded, -⟩
      · rw [hsame]
        exact h
      · exact hadded.sortedIndex h
  | removeLocation cid location _ removed =>
      simp only [doRemoveLocation, bind_eq_ok, ok_inj] at removed
      obtain ⟨-, -, geoHash, -, rfl⟩ := removed
      exact h.removeLocationIntern cid location geoHash
  | records _ communityIdentifiers hcids hlocations => exact h.congr hcids hlocations

end Communities

open Communities

/-- No change disturbs the order of the buckets. -/
theorem Change.sortedIndex {s s' : Runtime AccountId} {effects : List (Effect AccountId)}
    (h : Change config s effects s') (hinv : SortedIndex config s.communities) :
    SortedIndex config s'.communities := by
  cases h with
  | communities communities changed => exact hinv.communityChange changed
  | newCommunity location bootstrappers metadata demurrage nominalIncome communities balances cid
      identifier created =>
      obtain ⟨cid, geoHash, cids, -, hadded⟩ := newCommunity_added hinv created
      exact hadded.sortedIndex hinv
  | removeCommunity cid => exact hinv.removeCommunity cid
  | _ => exact hinv

theorem Changes.sortedIndex {s s' : Runtime AccountId} {effects : List (Effect AccountId)}
    (h : Changes config s effects s') (hinv : SortedIndex config s.communities) :
    SortedIndex config s'.communities := by
  induction h with
  | refl => exact hinv
  | tail _ hchange ih => exact hchange.sortedIndex ih

end Encointer
