import Encointer.Ceremonies.AssignedMeetups
import Encointer.Ceremonies.RegistryBijection

/-!
# Rewards are issued at most once

A credit is recorded by the result of its meetup, as long as the ceremony has
meetups. Index and participants agree, so that an account belongs to one meetup,
and a meetup with a result cannot be claimed again. A purged ceremony gets no
new meetups once its assigning phase is over.
-/

namespace Encointer

variable {AccountId : Type} [DecidableEq AccountId] {config : Config AccountId}

/-! ## The ceremonies of every reachable state -/

structure CeremoniesInvariant (s : Runtime AccountId) : Prop where
  registry : RegistryInvariant s.ceremonies.registry
  assignment : AssignmentInvariant s

namespace CeremoniesInvariant

variable {s s' : Runtime AccountId}

theorem genesis (genesis : GenesisConfig) (nativeBalances : StorageMap AccountId Nat)
    (assetBalances : StorageMap (AccountId × AssetKind) Nat) :
    CeremoniesInvariant (genesis.build nativeBalances assetBalances) where
  registry := .genesis genesis nativeBalances assetBalances
  assignment := .genesis genesis nativeBalances assetBalances

theorem change {effects : List (Effect AccountId)} (hinv : CeremoniesInvariant s)
    (h : Change config s effects s') :
    CeremoniesInvariant s' where
  registry := hinv.registry.change h
  assignment := hinv.assignment.change hinv.registry h

theorem claim {claim : Ceremonies.Claim AccountId} {participants : List AccountId}
    (hinv : CeremoniesInvariant s) (heffect : Ceremonies.ClaimEffect s claim participants)
    (hs : s' = { s with ceremonies := claim.ceremonies, balances := claim.balances }) :
    CeremoniesInvariant s' where
  registry := by
    rw [hs]
    exact heffect.registry.symm ▸ hinv.registry
  assignment := hinv.assignment.claim heffect hs

/-- Meetups with valid parameters have agreeing indices and participants. -/
theorem meetupsAgree (hinv : CeremoniesInvariant s) {cc : CommunityCeremony}
    (hbelow : Ceremonies.RegisteredCountsBelow s.ceremonies cc) :
    Ceremonies.MeetupsAgree s.ceremonies cc := by
  by_cases hpos : 0 < s.ceremonies.meetupCount.get cc 0
  · exact Ceremonies.meetupsAgree hinv.registry ((hinv.assignment cc hpos).valid hbelow)
  · have hzero : Ceremonies.meetupCount s.ceremonies cc = 0 := Nat.eq_zero_of_not_pos hpos
    have hfails (k : Nat) (participants : List AccountId) :
        Ceremonies.getMeetupParticipants s.ceremonies cc k ≠ .ok participants := by
      intro h
      have hk := (Ceremonies.getMeetupParticipants_eq_ok.1 h).1
      omega
    constructor
    · intro k hk hk'
      omega
    · intro a k h
      exact Ceremonies.getMeetupIndex_bounds hinv.registry h
    · intro k participants h
      exact absurd h (hfails k participants)
    · intro k participants h
      exact absurd h (hfails k participants)

end CeremoniesInvariant

/-! ## Credits -/

def Observation.credit : Observation AccountId → Option (CommunityCeremony × AccountId)
  | .credited cc _ account => some (cc, account)
  | .registered .. | .endorsed .. | .purposeRegistered _ | .committed .. | .submitted ..
  | .counted .. => none

def credits (trace : List (Observation AccountId)) : List (CommunityCeremony × AccountId) :=
  trace.filterMap Observation.credit

section

omit [DecidableEq AccountId]

theorem mem_credits {trace : List (Observation AccountId)} {cc : CommunityCeremony}
    {a : AccountId} : (cc, a) ∈ credits trace ↔ ∃ k, Observation.credited cc k a ∈ trace := by
  simp only [credits, List.mem_filterMap]
  constructor
  · intro h
    obtain ⟨observation, hmem, hcredit⟩ := h
    cases observation with
    | credited cc' k a' =>
        cases hcredit
        exact ⟨k, hmem⟩
    | _ => cases hcredit
  · intro h
    obtain ⟨k, hmem⟩ := h
    exact ⟨_, hmem, rfl⟩

theorem credits_append (trace observations : List (Observation AccountId)) :
    credits (trace ++ observations) = credits trace ++ credits observations :=
  List.filterMap_append

theorem credits_of_credited (cc : CommunityCeremony) (k : Nat) (accounts : List AccountId) :
    credits (accounts.map fun account => Observation.credited cc k account) =
      accounts.map fun account => (cc, account) := by
  induction accounts with
  | nil => rfl
  | cons account accounts ih => exact congrArg ((cc, account) :: ·) ih

theorem credits_eq_nil {observations : List (Observation AccountId)}
    (h : ∀ cc k a, Observation.credited cc k a ∉ observations) : credits observations = [] := by
  apply List.eq_nil_iff_forall_not_mem.2
  intro ⟨cc, a⟩ hmem
  obtain ⟨k, hk⟩ := mem_credits.1 hmem
  exact h cc k a hk

end

/-- The ceremony of a credit is attested, and its meetup has a result unless it was purged. -/
structure CreditRecorded (s : Runtime AccountId) (cc : CommunityCeremony) (k : Nat)
    (a : AccountId) : Prop where
  attested : 3 * cc.2 + 2 ≤ s.scheduler.time
  issued : 0 < s.ceremonies.meetupCount.get cc 0 →
    s.ceremonies.issuedRewards.lookup (cc, k) ≠ none
  index : 0 < s.ceremonies.meetupCount.get cc 0 →
    Ceremonies.getMeetupIndex s.ceremonies cc a = some k

namespace CreditRecorded

variable {s s' : Runtime AccountId} {cc : CommunityCeremony} {k : Nat} {a : AccountId}

theorem change {effects : List (Effect AccountId)} (hinv : CeremoniesInvariant s)
    (hcredit : CreditRecorded s cc k a) (h : Change config s effects s') :
    CreditRecorded s' cc k a := by
  have htime := h.time_le
  have hattested := hcredit.attested
  have hsame (hpos : 0 < s'.ceremonies.meetupCount.get cc 0) :
      SameMeetups s.ceremonies s'.ceremonies cc := by
    cases h.meetupsChange hinv.registry cc with
    | same hsame => exact hsame
    | registration opened hmeetupCount =>
        have hopen := opened.time_le
        omega
    | purged hmeetupCount => omega
    | assigned hnow hvalid => omega
  constructor
  · omega
  · intro hpos
    rcases h.issuedRewards cc with hissued | ⟨-, hzero⟩
    · rw [hissued]
      exact hcredit.issued ((hsame hpos).meetupCount ▸ hpos)
    · omega
  · intro hpos
    rw [(hsame hpos).getMeetupIndex hinv.registry (hinv.registry.change h)]
    exact hcredit.index ((hsame hpos).meetupCount ▸ hpos)

/-- A claim writes the result of a meetup that had none. -/
theorem claim {claim : Ceremonies.Claim AccountId} {participants : List AccountId}
    (hinv : CeremoniesInvariant s) (hcredit : CreditRecorded s cc k a)
    (heffect : Ceremonies.ClaimEffect s claim participants)
    (hs : s' = { s with ceremonies := claim.ceremonies, balances := claim.balances }) :
    CreditRecorded s' cc k a := by
  have hregistry := (hinv.claim heffect hs).registry
  subst hs
  have hsame : SameMeetups s.ceremonies claim.ceremonies cc :=
    .of_eq heffect.registry heffect.meetupCount heffect.assignmentCounts heffect.assignments
  constructor
  · exact hcredit.attested
  · intro hpos
    obtain ⟨result, hresult⟩ := heffect.issuedRewards
    have hissued := hcredit.issued (hsame.meetupCount ▸ hpos)
    rw [hresult, StorageMap.lookup_insert_eq]
    split
    · simp
    · exact hissued
  · intro hpos
    rw [hsame.getMeetupIndex hinv.registry hregistry]
    exact hcredit.index (hsame.meetupCount ▸ hpos)

end CreditRecorded

/-! ## Claims -/

namespace Ceremonies.ClaimEffect

variable {s : Runtime AccountId} {claim : Claim AccountId} {participants : List AccountId}

theorem meetupCount_pos (h : ClaimEffect s claim participants) :
    0 < s.ceremonies.meetupCount.get claim.cc 0 := by
  have hk := (getMeetupParticipants_eq_ok.1 h.members).1
  simp only [Ceremonies.meetupCount] at hk
  omega

/-- Rewards are claimed in the attesting phase of the ceremony, or in the phase after it. -/
theorem attested (hinv : CeremoniesInvariant s) (h : ClaimEffect s claim participants) :
    3 * claim.cc.2 + 2 ≤ s.scheduler.time ∧ s.scheduler.time ≤ 3 * claim.cc.2 + 3 := by
  have hstarted := (hinv.assignment claim.cc h.meetupCount_pos).started
  have hcindex := h.cindex
  unfold claimCindex at hcindex
  cases hphase : s.scheduler.currentPhase with
  | registering =>
      simp only [hphase, ok_inj] at hcindex
      simp only [SchedulerStorage.time, hphase, CeremonyPhaseType.rank] at hstarted ⊢
      omega
  | assigning =>
      rw [hphase] at hcindex
      cases hcindex
  | attesting =>
      simp only [hphase, ok_inj] at hcindex
      simp only [SchedulerStorage.time, hphase, CeremonyPhaseType.rank]
      omega

theorem credited_new (h : ClaimEffect s claim participants)
    (hagree : MeetupsAgree s.ceremonies claim.cc) :
    claim.credited.Nodup ∧ ∀ a ∈ claim.credited, ∀ k, ¬ CreditRecorded s claim.cc k a := by
  constructor
  · exact h.credited.nodup (hagree.nodup _ _ h.members)
  · intro a ha k hrecorded
    have hindex := (hagree.mem_iff _ _ h.members a).1 (h.credited.mem ha)
    have hk := hrecorded.index h.meetupCount_pos
    rw [hindex, Option.some.injEq] at hk
    exact hrecorded.issued h.meetupCount_pos (hk ▸ h.fresh)

theorem creditRecorded (hinv : CeremoniesInvariant s) (h : ClaimEffect s claim participants)
    (hagree : MeetupsAgree s.ceremonies claim.cc) {s' : Runtime AccountId}
    (hs : s' = { s with ceremonies := claim.ceremonies, balances := claim.balances })
    {a : AccountId} (ha : a ∈ claim.credited) :
    CreditRecorded s' claim.cc claim.meetupIndex a := by
  have hregistry := (hinv.claim h hs).registry
  subst hs
  have hsame : SameMeetups s.ceremonies claim.ceremonies claim.cc :=
    .of_eq h.registry h.meetupCount h.assignmentCounts h.assignments
  constructor
  · exact (h.attested hinv).1
  · intro hpos
    obtain ⟨result, hresult⟩ := h.issuedRewards
    rw [hresult, StorageMap.lookup_insert_eq, if_pos rfl]
    simp
  · intro hpos
    rw [hsame.getMeetupIndex hinv.registry hregistry]
    exact (hagree.mem_iff _ _ h.members a).1 (h.credited.mem ha)

end Ceremonies.ClaimEffect

/-! ## Runs -/

def claimedCeremony (s : Runtime AccountId) : Action AccountId → Option CommunityCeremony
  | .claimRewards _ cid _ =>
      (Ceremonies.claimCindex s).toOption.map fun cindex => (cid, cindex)
  | _ => none

/-- The registered counts of a ceremony that rewards are claimed for are below `2 ^ 31`. -/
def ClaimCountsBelow (chain : Chain AccountId) (action : Action AccountId) : Prop :=
  ∀ cc ∈ claimedCeremony chain.runtime action,
    Ceremonies.RegisteredCountsBelow chain.runtime.ceremonies cc

instance (chain : Chain AccountId) (action : Action AccountId) :
    Decidable (ClaimCountsBelow chain action) :=
  inferInstanceAs (Decidable (∀ _ ∈ claimedCeremony chain.runtime action, _))

structure RewardInvariant (chain : Chain AccountId) : Prop where
  ceremonies : CeremoniesInvariant chain.runtime
  once : (credits chain.trace).Nodup
  recorded : ∀ cc k a, Observation.credited cc k a ∈ chain.trace →
    CreditRecorded chain.runtime cc k a

theorem ClaimCountsBelow.registeredCountsBelow {chain : Chain AccountId}
    {action : Action AccountId} {s' : Runtime AccountId}
    {observations : List (Observation AccountId)} {claim : Ceremonies.Claim AccountId}
    {participants : List AccountId} (h : ClaimCountsBelow chain action)
    (hclaims : Dispatch.Claims chain.runtime s' action observations claim participants) :
    Ceremonies.RegisteredCountsBelow chain.runtime.ceremonies claim.cc := by
  obtain ⟨sender, maybeMeetupIndex, haction⟩ := hclaims.call
  apply h
  rw [haction, claimedCeremony, hclaims.effect.cindex]
  rfl

namespace RewardInvariant

theorem genesis (genesis : GenesisConfig) (nativeBalances : StorageMap AccountId Nat)
    (assetBalances : StorageMap (AccountId × AssetKind) Nat) :
    RewardInvariant (Chain.genesis genesis nativeBalances assetBalances) where
  ceremonies := .genesis genesis nativeBalances assetBalances
  once := List.nodup_nil
  recorded := by
    intro cc k a h
    cases h

theorem changes {s s' : Runtime AccountId} {effects : List (Effect AccountId)}
    (hinv : CeremoniesInvariant s) (h : Changes config s effects s') :
    CeremoniesInvariant s' ∧ ∀ cc k a, CreditRecorded s cc k a → CreditRecorded s' cc k a := by
  induction h with
  | refl => exact ⟨hinv, fun _ _ _ hcredit => hcredit⟩
  | tail _ hchange ih =>
      constructor
      · exact ih.1.change hchange
      · intro cc k a hcredit
        exact (ih.2 cc k a hcredit).change ih.1 hchange

theorem step {chain : Chain AccountId} {action : Action AccountId} (hinv : RewardInvariant chain)
    (hbelow : ClaimCountsBelow chain action) : RewardInvariant (chain.step config action) := by
  obtain ⟨observations, htrace, hcases⟩ :=
    Chain.step_claims_or_changes config action hinv.ceremonies.registry
  rcases hcases with ⟨claim, participants, hclaims⟩ | ⟨⟨effects, hchanges⟩, hquiet⟩
  · have heffect := hclaims.effect
    have hcounts := hbelow.registeredCountsBelow hclaims
    have hagree := hinv.ceremonies.meetupsAgree hcounts
    obtain ⟨hnodup, hnew⟩ := heffect.credited_new hagree
    constructor
    · exact hinv.ceremonies.claim heffect hclaims.runtime
    · rw [htrace, hclaims.observations, credits_append, credits_of_credited, List.nodup_append]
      refine ⟨hinv.once, ?_, ?_⟩
      · exact hnodup.map fun a b h => (Prod.mk.inj h).2
      · intro credit hold credit' hcredit' heq
        obtain ⟨a, ha, rfl⟩ := List.mem_map.1 hcredit'
        rw [heq] at hold
        obtain ⟨k, hk⟩ := mem_credits.1 hold
        exact hnew a ha k (hinv.recorded _ k a hk)
    · intro cc k a hmem
      rw [htrace] at hmem
      rcases List.mem_append.1 hmem with hold | hcredit
      · exact (hinv.recorded cc k a hold).claim hinv.ceremonies heffect hclaims.runtime
      · rw [hclaims.observations] at hcredit
        obtain ⟨a', ha', heq⟩ := List.mem_map.1 hcredit
        cases heq
        exact heffect.creditRecorded hinv.ceremonies hagree hclaims.runtime ha'
  · obtain ⟨hceremonies, hrecorded⟩ := changes hinv.ceremonies hchanges
    constructor
    · exact hceremonies
    · rw [htrace, credits_append, credits_eq_nil hquiet, List.append_nil]
      exact hinv.once
    · intro cc k a hmem
      rw [htrace] at hmem
      rcases List.mem_append.1 hmem with hold | hcredit
      · exact hrecorded cc k a (hinv.recorded cc k a hold)
      · exact absurd hcredit (hquiet cc k a)

theorem run {chain : Chain AccountId} (hinv : RewardInvariant chain)
    {actions : List (Action AccountId)}
    (hbelow : Machine.Along (Chain.step config) ClaimCountsBelow chain actions) :
    RewardInvariant (chain.run config actions) :=
  Machine.run_invariant ClaimCountsBelow RewardInvariant (fun _ _ h hok => h.step hok) hinv hbelow

end RewardInvariant

/-! ## Results -/

theorem Changes.issuedRewards {s s' : Runtime AccountId} {effects : List (Effect AccountId)}
    (h : Changes config s effects s')
    (cc : CommunityCeremony) :
    (∀ k, s'.ceremonies.issuedRewards.lookup (cc, k) = s.ceremonies.issuedRewards.lookup (cc, k)) ∨
      ∀ k, s'.ceremonies.issuedRewards.lookup (cc, k) = none := by
  induction h with
  | refl => exact Or.inl fun _ => rfl
  | tail _ hchange ih =>
      rcases hchange.issuedRewards cc with hsame | ⟨hnone, -⟩
      · simp only [hsame]
        exact ih
      · exact Or.inr hnone

namespace Demo

def day : Nat := 86400000

/-- Close to zero degrees of latitude and longitude, in the middle of its geohash bucket. -/
def island : Location := ⟨45 * 2 ^ 53, 45 * 2 ^ 53⟩

/-- 45 degrees to the north of the first location. -/
def mainland : Location := ⟨45 * 2 ^ 64 + 45 * 2 ^ 53, 45 * 2 ^ 53⟩

/-- "s0000" to the south of 45 degrees, and "u0000" to the north. -/
def geohash (location : Location) : GeoHash :=
  #v[if location.lat < 45 * degree then 115 else 117, 48, 48, 48, 48]

/-- Without demurrage, and with a distance that is good enough far from other locations. -/
def runtimeConfig : Config Nat where
  momentsPerDay := day
  meetupSizeTarget := 10
  meetupMinSize := 3
  meetupNewbieLimitDivider := 2
  maxAttestations := 100
  maxCommunityIdentifiers := 10
  maxCommunityIdentifiersPerGeohash := 10
  maxLocationsPerGeohash := 10
  maxBootstrappers := 10
  defaultDemurrage := 0
  existentialDeposit := 0
  maxReputationCount := 10
  confirmationPeriod := day
  proposalLifetime := 3 * day
  minTurnout := 20
  exp := fun x => if x = 0 then some (2 ^ 64) else none
  sqrt := fun x => some (Nat.sqrt (x * 2 ^ 64))
  tryFromParams := fun location => some (geohash location)
  neighbors := fun bucket => some (Vector.replicate 8 bucket)
  tryAsCoordinates := fun bucket =>
    some (45 * 2 ^ 53, if bucket[0] = 115 then 45 * 2 ^ 53 else 45 * 2 ^ 64 + 45 * 2 ^ 53,
      45 * 2 ^ 53, 45 * 2 ^ 53)
  haversineDistance := fun a b =>
    ((|a.lat - b.lat| + |a.lon - b.lon|) * 111195 / degree).toNat
  bootstrappersDigest := fun bootstrappers => Vector.replicate 4 (UInt8.ofNat bootstrappers.sum)
  verifyProof := fun _ => true
  treasuryAccount := fun _ => 1000
  minimumBalance := 1
  currencyTransfer := fun _ _ _ _ => none
  currencyTransferAllowDeath := fun _ _ _ _ => none
  currencyReserveNamed := fun _ _ _ _ _ => none
  currencyUnreserveAllNamed := fun balances reserves _ _ => (balances, reserves)
  faucetPalletId := Vector.replicate 8 102
  faucetAccount := fun identifier => 2000 + (identifier.map UInt8.toNat).sum
  accountPrefix := fun account => Vector.replicate 8 (UInt8.ofNat account)
  catchBasinAccount := 2000
  paymasterTransfer := fun _ _ _ _ _ => none

def genesis : GenesisConfig where
  currentCeremonyIndex := 1
  currentPhase := .registering
  phaseDurations :=
    (((∅ : StorageMap CeremonyPhaseType Nat).insert .registering day).insert .assigning
      day).insert .attesting day
  minSolarTripTimeS := 1
  maxSpeedMps := 83
  ceremonyReward := 2 ^ 64
  locationTolerance := 1000
  timeTolerance := 600000
  inactivityTimeout := 5
  endorsementTicketsPerBootstrapper := 10
  endorsementTicketsPerReputable := 5
  reputationLifetime := 6
  meetupTimeOffset := 0
  proposalCount := 0
  reserveAmount := 0

def start : Chain Nat := Chain.genesis genesis ∅ ∅

/-- A block shortly after the midnight that starts the day. -/
def newDay (n : Nat) : Action Nat := .beginBlock (n * day + 1) ⟨[]⟩

def metadata : CommunityMetadata where
  name := [65]
  symbol := [65, 66, 67]
  assets := List.replicate 46 81
  theme := none
  url := none
  announcementSigner := none
  rules := .loCo

def newCommunity (location : Location) (bootstrappers : List Nat) : Action Nat :=
  .newCommunity location bootstrappers metadata none none

def register (cid : CommunityIdentifier) (accounts : List Nat) : List (Action Nat) :=
  accounts.map fun account => .registerParticipant account cid none

/-- All participants vote for all, and attest each other. -/
def meet (cid : CommunityIdentifier) (accounts : List Nat) : List (Action Nat) :=
  accounts.map fun account =>
    .attestAttendees account cid accounts.length (accounts.filter fun other => other ≠ account)

/-- The community of the bootstrappers 1, 2 and 3. -/
def islanders : CommunityIdentifier := ⟨geohash island, Vector.replicate 4 6⟩

/-- The bootstrappers meet at the first ceremony, and one of them claims the rewards. -/
def firstCeremony : List (Action Nat) :=
  [newDay 1, newCommunity island [1, 2, 3]] ++ register islanders [1, 2, 3] ++
    [newDay 2, newDay 3] ++ meet islanders [1, 2, 3] ++ [.claimRewards 1 islanders none]

/-- The attendance of `attendee` at a first ceremony, handed to `prover`. -/
def attended (prover : Nat) (cid : CommunityIdentifier) (attendee : Nat) :
    ProofOfAttendance Nat where
  proverPublic := prover
  ceremonyIndex := 1
  communityIdentifier := cid
  attendeePublic := attendee
  attendeeSignature := []

/-- The community of the bootstrappers 11, 12 and 13. -/
def mainlanders : CommunityIdentifier := ⟨geohash mainland, Vector.replicate 4 36⟩

/-- Both communities hold their first ceremony, and the second one starts. -/
def secondCeremony : List (Action Nat) :=
  [newDay 1, newCommunity island [1, 2, 3], newCommunity mainland [11, 12, 13]] ++
    register islanders [1, 2, 3] ++ register mainlanders [11, 12, 13] ++ [newDay 2, newDay 3] ++
    meet islanders [1, 2, 3] ++ meet mainlanders [11, 12, 13] ++
    [.claimRewards 1 islanders none, .claimRewards 11 mainlanders none, newDay 4]

end Demo

end Encointer
