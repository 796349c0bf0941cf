import Encointer.Pallets.Balances

/-!
# Communities and their locations

Locations are kept per community and geohash bucket, and a bucket knows its
communities. The functions that a proposal enacts may fail after they have
written, so they return the storage beside their result.
-/

namespace Encointer.Communities

open Checked

variable {AccountId : Type} [DecidableEq AccountId] (config : Config AccountId)

section

variable (communities : CommunitiesStorage AccountId)

def ensureCidExists (cid : CommunityIdentifier) : Except DispatchError Unit :=
  ensure (cid ∈ communities.communityIdentifiers) .communityInexistent

def bootstrappers (cid : CommunityIdentifier) : List AccountId :=
  communities.bootstrappers.get cid []

def locations (cid : CommunityIdentifier) (geoHash : GeoHash) : List Location :=
  communities.locations.get (cid, geoHash) []

def getLocations (cid : CommunityIdentifier) : List Location :=
  communities.locations.entries.flatMap fun e => if e.1.1 = cid then e.2 else []

def nominalIncome (cid : CommunityIdentifier) : Option Nat :=
  communities.nominalIncome.lookup cid

/-! ## Where a location may be -/

/-- In seconds; the division by a maximal speed of zero panics. -/
def solarTripTime (source dest : Location) : Except DispatchError Nat :=
  let d := config.haversineDistance source dest
  let dt := (source.lon - dest.lon) * 240
  if communities.maxSpeedMps = 0 then
    .error .panicked
  else
    .ok (d / communities.maxSpeedMps - saturateU32 (|dt| / degree).toNat)

def isValidLocation (loc : Location) : Bool :=
  loc.lat < maxAbsLatitude && -maxAbsLatitude < loc.lat && loc.lon < datelineLon &&
    -datelineLon < loc.lon

/-- The buckets whose nearest point is less than the minimal trip time away. -/
def relevantBuckets (location : Location) :
    List (Location × GeoHash) → Except DispatchError (List GeoHash)
  | [] => .ok []
  | (nearest, bucket) :: rest => do
      let time ← solarTripTime config communities nearest location
      let buckets ← relevantBuckets location rest
      .ok (if time < communities.minSolarTripTimeS then bucket :: buckets else buckets)

def getRelevantNeighborBuckets (geoHash : GeoHash) (location : Location) :
    Except DispatchError (List GeoHash) := do
  let neighbors ← okOr (config.neighbors geoHash) .invalidGeohash
  let (centerLon, centerLat, lonError, latError) ←
    okOr (config.tryAsCoordinates geoHash) .invalidGeohash
  let minLat := centerLat - latError
  let maxLat := centerLat + latError
  let minLon := centerLon - lonError
  let maxLon := centerLon + lonError
  relevantBuckets config communities location
    [(⟨maxLat, location.lon⟩, neighbors[0]), (⟨minLat, location.lon⟩, neighbors[4]),
      (⟨maxLat, maxLon⟩, neighbors[1]), (⟨location.lat, maxLon⟩, neighbors[2]),
      (⟨minLat, maxLon⟩, neighbors[3]), (⟨maxLat, minLon⟩, neighbors[7]),
      (⟨location.lat, minLon⟩, neighbors[6]), (⟨minLat, minLon⟩, neighbors[5])]

def getNearbyLocations (location : Location) : Except DispatchError (List Location) := do
  let geoHash ← okOr (config.tryFromParams location) .invalidLocationForGeohash
  let buckets ← getRelevantNeighborBuckets config communities geoHash location
  .ok ((buckets ++ [geoHash]).flatMap fun bucket =>
    (communities.cidsByGeohash.get bucket []).flatMap fun cid =>
      locations communities cid bucket)

def ensureFarFrom (location : Location) : List Location → Except DispatchError Unit
  | [] => .ok ()
  | nearby :: rest => do
      let time ← solarTripTime config communities location nearby
      ensure (communities.minSolarTripTimeS ≤ time) .minimumDistanceViolationToOtherLocation
      ensureFarFrom location rest

def validateLocation (location : Location) : Except DispatchError Unit := do
  ensure (isValidLocation location = true) .invalidLocation
  let datelineProxy : Location := ⟨location.lat, datelineLon⟩
  ensure (datelineDistanceM ≤ config.haversineDistance location datelineProxy)
    .minimumDistanceViolationToDateLine
  let nearbyLocations ← getNearbyLocations config communities location
  ensureFarFrom config communities location nearbyLocations

/-! ## Adding and removing locations -/

/-- Adds `cid` to the bucket unless it is there. -/
def addCidToBucket (geoHash : GeoHash) (cid : CommunityIdentifier) :
    CommunitiesStorage AccountId × Except DispatchError Unit :=
  let cids := communities.cidsByGeohash.get geoHash []
  match binarySearch CommunityIdentifier.lt cids cid with
  | .ok _ => (communities, .ok ())
  | .error index =>
      if config.maxCommunityIdentifiersPerGeohash ≤ cids.length then
        (communities, .error .tooManyCommunityIdentifiersPerGeohash)
      else
        ({ communities with
            cidsByGeohash := communities.cidsByGeohash.insert geoHash (cids.insertIdx index cid) },
          .ok ())

/-- Adds `location` to its bucket unless it is there. -/
def addLocationToBucket (cid : CommunityIdentifier) (geoHash : GeoHash) (location : Location) :
    Except DispatchError (CommunitiesStorage AccountId) :=
  let bucket := locations communities cid geoHash
  match binarySearch Location.lt bucket location with
  | .ok _ => .ok communities
  | .error index =>
      if config.maxLocationsPerGeohash ≤ bucket.length then
        .error .tooManyLocationsPerGeohash
      else
        .ok { communities with
          locations := communities.locations.insert (cid, geoHash)
            (bucket.insertIdx index location) }

/-- The location stays when its bucket has too many communities. -/
def doAddLocation (cid : CommunityIdentifier) (location : Location) :
    CommunitiesStorage AccountId × Except DispatchError Unit :=
  let added : Except DispatchError (GeoHash × CommunitiesStorage AccountId) := do
    ensureCidExists communities cid
    validateLocation config communities location
    let geoHash ← okOr (config.tryFromParams location) .invalidLocationForGeohash
    let added ← addLocationToBucket config communities cid geoHash location
    .ok (geoHash, added)
  match added with
  | .error e => (communities, .error e)
  | .ok (geoHash, added) => addCidToBucket config added geoHash cid

/-- Removes `cid` from the bucket, and the bucket with its last community. -/
def removeCidFromBucket (geoHash : GeoHash) (cid : CommunityIdentifier) :
    CommunitiesStorage AccountId :=
  let cids := communities.cidsByGeohash.get geoHash []
  match binarySearch CommunityIdentifier.lt cids cid with
  | .error _ => communities
  | .ok index =>
      { communities with
        cidsByGeohash :=
          if (cids.eraseIdx index).isEmpty then
            communities.cidsByGeohash.erase geoHash
          else
            communities.cidsByGeohash.insert geoHash (cids.eraseIdx index) }

/-- A location that is not in the bucket counts as zero locations left. -/
def removeLocationIntern (cid : CommunityIdentifier) (location : Location) (geoHash : GeoHash) :
    CommunitiesStorage AccountId :=
  let bucket := locations communities cid geoHash
  match binarySearch Location.lt bucket location with
  | .error _ => removeCidFromBucket communities geoHash cid
  | .ok index =>
      let removed := { communities with
        locations := communities.locations.insert (cid, geoHash) (bucket.eraseIdx index) }
      if (bucket.eraseIdx index).length = 0 then
        removeCidFromBucket removed geoHash cid
      else
        removed

def doRemoveLocation (cid : CommunityIdentifier) (location : Location) :
    Except DispatchError (CommunitiesStorage AccountId) := do
  ensureCidExists communities cid
  let geoHash ← okOr (config.tryFromParams location) .invalidLocationForGeohash
  .ok (removeLocationIntern communities cid location geoHash)

/-! ## Parameters of a community -/

def doUpdateCommunityMetadata (cid : CommunityIdentifier) (metadata : CommunityMetadata) :
    Except DispatchError (CommunitiesStorage AccountId) := do
  ensureCidExists communities cid
  ensure (metadata.validate = true) .invalidCommunityMetadata
  .ok { communities with communityMetadata := communities.communityMetadata.insert cid metadata }

def doUpdateDemurrage (balances : BalancesStorage AccountId) (cid : CommunityIdentifier)
    (demurrage : Demurrage) : Except DispatchError (BalancesStorage AccountId) := do
  ensureCidExists communities cid
  okOr (Balances.setDemurrage balances cid demurrage) .invalidDemurrage

def doUpdateNominalIncome (cid : CommunityIdentifier) (nominalIncome : Nat) :
    Except DispatchError (CommunitiesStorage AccountId) := do
  ensureCidExists communities cid
  .ok { communities with nominalIncome := communities.nominalIncome.insert cid nominalIncome }

/-! ## Removing a community -/

/-- Every location that the community had is removed from its bucket. -/
def removeLocationsIntern (cid : CommunityIdentifier) :
    List (GeoHash × Location) → CommunitiesStorage AccountId → CommunitiesStorage AccountId
  | [], communities => communities
  | (geoHash, location) :: rest, communities =>
      removeLocationsIntern cid rest (removeLocationIntern communities cid location geoHash)

def locationsOf (cid : CommunityIdentifier) : List (GeoHash × Location) :=
  communities.locations.entries.flatMap fun e =>
    if e.1.1 = cid then e.2.map fun location => (e.1.2, location) else []

def removeCommunity (cid : CommunityIdentifier) : CommunitiesStorage AccountId :=
  let removed := removeLocationsIntern cid (locationsOf communities cid) communities
  { removed with
    locations := removed.locations.removePrefix cid
    bootstrappers := removed.bootstrappers.erase cid
    communityIdentifiers := removed.communityIdentifiers.filter fun x => x ≠ cid
    communityMetadata := removed.communityMetadata.erase cid
    nominalIncome := removed.nominalIncome.erase cid }

/-! ## New communities -/

def validateBootstrappers (bootstrappers : List AccountId) : Except DispatchError Unit := do
  ensure (bootstrappers.length ≤ config.maxBootstrappers) .invalidAmountBootstrappers
  ensure (3 ≤ bootstrappers.length) .invalidAmountBootstrappers

def setOptionalDemurrage (balances : BalancesStorage AccountId) (cid : CommunityIdentifier) :
    Option Demurrage → Except DispatchError (BalancesStorage AccountId)
  | some d => okOr (Balances.setDemurrage balances cid d) .invalidDemurrage
  | none => .ok balances

def newCommunityIdentifier (location : Location) (bootstrappers : List AccountId) :
    Option CommunityIdentifier := do
  some ⟨← config.tryFromParams location, config.bootstrappersDigest bootstrappers⟩

end

variable (s : Runtime AccountId)

def newCommunity (location : Location) (bootstrappers : List AccountId)
    (metadata : CommunityMetadata) (demurrage : Option Demurrage)
    (nominalIncome : Option Nat) :
    Except DispatchError (CommunitiesStorage AccountId × BalancesStorage AccountId) := do
  let communities := s.communities
  validateBootstrappers config bootstrappers
  ensure (metadata.validate = true) .invalidCommunityMetadata
  let cid ← okOr (newCommunityIdentifier config location bootstrappers) .invalidLocation
  ensure (cid ∉ communities.communityIdentifiers) .communityAlreadyRegistered
  validateLocation config communities location
  let geoHash ← okOr (config.tryFromParams location) .invalidLocationForGeohash
  ensure (1 ≤ config.maxLocationsPerGeohash) .tooManyLocationsPerGeohash
  let communities ← transactional (addCidToBucket config communities geoHash cid)
  ensure (communities.communityIdentifiers.length < config.maxCommunityIdentifiers)
    .tooManyCommunityIdentifiers
  let balances ← setOptionalDemurrage s.balances cid demurrage
  .ok ({ communities with
      locations := communities.locations.insert (cid, geoHash) [location]
      communityIdentifiers := communities.communityIdentifiers ++ [cid]
      bootstrappers := communities.bootstrappers.insert cid bootstrappers
      communityMetadata := communities.communityMetadata.insert cid metadata
      nominalIncome :=
        match nominalIncome with
        | some i => communities.nominalIncome.insert cid i
        | none => communities.nominalIncome },
    balances)

/-! ## Further calls -/

def addLocation (cid : CommunityIdentifier) (location : Location) :
    Except DispatchError (CommunitiesStorage AccountId) := do
  ensure (s.scheduler.currentPhase = .registering) .registrationPhaseRequired
  transactional (doAddLocation config s.communities cid location)

def removeLocation (cid : CommunityIdentifier) (location : Location) :
    Except DispatchError (CommunitiesStorage AccountId) := do
  ensure (s.scheduler.currentPhase = .registering) .registrationPhaseRequired
  doRemoveLocation config s.communities cid location

def setMinSolarTripTimeS (minSolarTripTimeS : Nat) : CommunitiesStorage AccountId :=
  { s.communities with minSolarTripTimeS := minSolarTripTimeS }

def setMaxSpeedMps (maxSpeedMps : Nat) : CommunitiesStorage AccountId :=
  { s.communities with maxSpeedMps := maxSpeedMps }

/-- The ceremony history of the community stays. -/
def purgeCommunity (cid : CommunityIdentifier) :
    CommunitiesStorage AccountId × BalancesStorage AccountId :=
  (removeCommunity s.communities cid, Balances.purgeBalances s.balances cid)

end Encointer.Communities
