import Encointer.Ceremonies.MeetupPlaces
import Encointer.Rpc.CommunityIndex

/-!
# Account data

A wallet asks when, where and with whom its account meets. All members of a meetup are
told the same, nobody else is sent to their place, and it is what their attestations are
checked against. The time follows the sun around the globe.
-/

namespace Encointer

open Checked Communities Assignment

variable {AccountId : Type} [DecidableEq AccountId]

namespace Ceremonies

structure AggregatedAccountDataPersonal (AccountId : Type) where
  participantType : ParticipantType
  meetupIndex : Option Nat
  meetupLocationIndex : Option Nat
  meetupTime : Option Nat
  meetupRegistry : Option (List AccountId)
  deriving DecidableEq, Repr

structure AggregatedAccountDataGlobal where
  ceremonyPhase : CeremonyPhaseType
  ceremonyIndex : Nat
  deriving DecidableEq, Repr

structure AggregatedAccountData (AccountId : Type) where
  global : AggregatedAccountDataGlobal
  personal : Option (AggregatedAccountDataPersonal AccountId)
  deriving DecidableEq, Repr

/-- What the members of an assigned meetup are told. -/
def assignedData (config : Config AccountId) (s : Runtime AccountId) (cc : CommunityCeremony)
    (participantType : ParticipantType) (meetupIndex : Nat) :
    AggregatedAccountDataPersonal AccountId where
  participantType := participantType
  meetupIndex := some meetupIndex
  meetupLocationIndex := getMeetupLocationIndex meetupIndex
    (Communities.getLocations s.communities cc.1) (assignments s.ceremonies cc).locations
  meetupTime := (getMeetupLocation s cc meetupIndex).bind (getMeetupTime config s)
  meetupRegistry := (getMeetupParticipants s.ceremonies cc meetupIndex).toOption

def getAggregatedAccountData (config : Config AccountId) (s : Runtime AccountId)
    (cid : CommunityIdentifier) (account : AccountId) : AggregatedAccountData AccountId :=
  let cindex := s.scheduler.currentCeremonyIndex
  { global := ⟨s.scheduler.currentPhase, cindex⟩
    personal :=
      match getParticipantType s.ceremonies (cid, cindex) account with
      | some participantType =>
          match getMeetupIndex s.ceremonies (cid, cindex) account with
          | some meetupIndex => some (assignedData config s (cid, cindex) participantType meetupIndex)
          | none => some ⟨participantType, none, none, none, none⟩
      | none => none }

variable {config : Config AccountId} {s : Runtime AccountId} {cid : CommunityIdentifier}
  {a b : AccountId} {p q : AggregatedAccountDataPersonal AccountId} {k : Nat}

/-! ## Members of a meetup -/

/-- Whoever has a meetup is told the data of the meetup. -/
theorem assigned_iff :
    ((getAggregatedAccountData config s cid a).personal = some p ∧ p.meetupIndex = some k) ↔
      getMeetupIndex s.ceremonies (cid, s.scheduler.currentCeremonyIndex) a = some k ∧
        ∃ t, getParticipantType s.ceremonies (cid, s.scheduler.currentCeremonyIndex) a = some t ∧
          p = assignedData config s (cid, s.scheduler.currentCeremonyIndex) t k := by
  simp only [getAggregatedAccountData]
  cases ht : getParticipantType s.ceremonies (cid, s.scheduler.currentCeremonyIndex) a with
  | none => simp
  | some t =>
      cases hk : getMeetupIndex s.ceremonies (cid, s.scheduler.currentCeremonyIndex) a with
      | none =>
          constructor
          · rintro ⟨hp, hindex⟩
            rw [Option.some.injEq] at hp
            rw [← hp] at hindex
            cases hindex
          · rintro ⟨h, -⟩
            cases h
      | some k' =>
          constructor
          · rintro ⟨hp, hindex⟩
            rw [Option.some.injEq] at hp
            rw [← hp] at hindex
            obtain rfl : k' = k := Option.some.inj hindex
            exact ⟨rfl, t, rfl, hp.symm⟩
          · rintro ⟨h, t', ht', rfl⟩
            obtain rfl : k' = k := Option.some.inj h
            obtain rfl : t = t' := Option.some.inj ht'
            exact ⟨rfl, rfl⟩

theorem exists_assigned_iff :
    (∃ p, (getAggregatedAccountData config s cid a).personal = some p ∧ p.meetupIndex = some k) ↔
      getMeetupIndex s.ceremonies (cid, s.scheduler.currentCeremonyIndex) a = some k := by
  constructor
  · rintro ⟨p, h⟩
    exact (assigned_iff.1 h).1
  · intro hk
    cases ht : getParticipantType s.ceremonies (cid, s.scheduler.currentCeremonyIndex) a with
    | none =>
        rw [getMeetupIndex, ht] at hk
        cases hk
    | some t => exact ⟨_, assigned_iff.2 ⟨hk, t, ht, rfl⟩⟩

/-- An attestation is checked against a meetup, if this has participants, a place and a time. -/
theorem gatherMeetupData_eq_ok {data : MeetupData AccountId} :
    gatherMeetupData config s cid a = .ok data ↔
      data.cindex = s.scheduler.currentCeremonyIndex ∧
        getMeetupIndex s.ceremonies (cid, data.cindex) a = some data.meetupIndex ∧
        getMeetupParticipants s.ceremonies (cid, data.cindex) data.meetupIndex =
          .ok data.participants ∧
        getMeetupLocation s (cid, data.cindex) data.meetupIndex = some data.location ∧
        getMeetupTime config s data.location = some data.time := by
  simp only [gatherMeetupData, bind_eq_ok, okOr_eq_ok, ok_inj]
  constructor
  · rintro ⟨k, hk, participants, hparticipants, location, hlocation, time, htime, rfl⟩
    exact ⟨rfl, hk, hparticipants, hlocation, htime⟩
  · rintro ⟨hcindex, hk, hparticipants, hlocation, htime⟩
    rw [hcindex] at hk hparticipants hlocation
    refine ⟨_, hk, _, hparticipants, _, hlocation, _, htime, ?_⟩
    cases data
    simp_all

/-- What the accounts of a community are told about the meetups of the current ceremony. -/
structure AccountDataAgrees (config : Config AccountId) (s : Runtime AccountId)
    (cid : CommunityIdentifier) : Prop where
  /-- The members of a meetup see each other, and nobody else. -/
  members : ∀ a p k, (getAggregatedAccountData config s cid a).personal = some p →
    p.meetupIndex = some k → ∃ participants, p.meetupRegistry = some participants ∧
      participants.Nodup ∧ ∀ b, b ∈ participants ↔
        ∃ q, (getAggregatedAccountData config s cid b).personal = some q ∧ q.meetupIndex = some k
  /-- They are all sent to the same place, at the same time. -/
  place : ∀ a p k, (getAggregatedAccountData config s cid a).personal = some p →
    p.meetupIndex = some k → ∃ i location, p.meetupLocationIndex = some i ∧
      (getLocations s.communities cid)[i]? = some location ∧
      p.meetupTime = getMeetupTime config s location ∧
      ∀ b q, (getAggregatedAccountData config s cid b).personal = some q →
        q.meetupIndex ≠ none → (q.meetupLocationIndex = some i ↔ q.meetupIndex = some k)
  /-- Their attestations are checked against what they are told. -/
  attested : ∀ a (data : MeetupData AccountId), gatherMeetupData config s cid a = .ok data ↔
    data.cindex = s.scheduler.currentCeremonyIndex ∧
      ∃ p i, (getAggregatedAccountData config s cid a).personal = some p ∧
        p.meetupIndex = some data.meetupIndex ∧ p.meetupRegistry = some data.participants ∧
        p.meetupLocationIndex = some i ∧
        (getLocations s.communities cid)[i]? = some data.location ∧
        p.meetupTime = some data.time

theorem toOption_eq_some {α ε : Type} {x : Except ε α} {y : α} :
    x.toOption = some y ↔ x = .ok y := by
  cases x with
  | error e => simp [Except.toOption]
  | ok z => simp [Except.toOption]

omit [DecidableEq AccountId] in
/-- Planned places are told to the members. -/
theorem assignedData_location {cc : CommunityCeremony} (hplaces : PlacesPlanned s cc)
    (hlt : (getLocations s.communities cc.1).length < 2 ^ 31) {k : Nat}
    (hk : k ≤ meetupCount s.ceremonies cc) :
    ∃ i location, getMeetupLocationIndex k (getLocations s.communities cc.1)
        (assignments s.ceremonies cc).locations = some i ∧
      (getLocations s.communities cc.1)[i]? = some location ∧
      getMeetupLocation s cc k = some location := by
  have hfor := hplaces.forLocations hlt
  have hindex := hfor.index_eq (hk.trans hplaces.enough)
  have hbound : (k * (assignments s.ceremonies cc).locations.s1 +
      (assignments s.ceremonies cc).locations.s2) % (getLocations s.communities cc.1).length <
        (getLocations s.communities cc.1).length := Nat.mod_lt _ hfor.pos
  refine ⟨_, _, hindex, List.getElem?_eq_getElem hbound, ?_⟩
  unfold getMeetupLocation meetupLocation
  rw [hindex]
  exact List.getElem?_eq_getElem hbound

theorem AccountDataAgrees.of_planned
    (hagree : MeetupsAgree s.ceremonies (cid, s.scheduler.currentCeremonyIndex))
    (hplanned : MeetupsPlanned s) (hlt : (getLocations s.communities cid).length < 2 ^ 31) :
    AccountDataAgrees config s cid := by
  have hplaces {a : AccountId} {k : Nat}
      (hk : getMeetupIndex s.ceremonies (cid, s.scheduler.currentCeremonyIndex) a = some k) :
      PlacesPlanned s (cid, s.scheduler.currentCeremonyIndex) ∧
        1 ≤ k ∧ k ≤ meetupCount s.ceremonies (cid, s.scheduler.currentCeremonyIndex) := by
    obtain ⟨hpos, hle⟩ := hagree.bounds a k hk
    exact ⟨hplanned cid (hpos.trans hle), hpos, hle⟩
  constructor
  · intro a p k hp hindex
    obtain ⟨hk, t, -, rfl⟩ := assigned_iff.1 ⟨hp, hindex⟩
    obtain ⟨-, hpos, hle⟩ := hplaces hk
    obtain ⟨participants, hparticipants⟩ := hagree.total k hpos hle
    refine ⟨participants, toOption_eq_some.2 hparticipants, hagree.nodup k _ hparticipants, ?_⟩
    intro b
    rw [hagree.mem_iff k _ hparticipants, exists_assigned_iff]
  · intro a p k hp hindex
    obtain ⟨hk, t, -, rfl⟩ := assigned_iff.1 ⟨hp, hindex⟩
    obtain ⟨hplan, hpos, hle⟩ := hplaces hk
    obtain ⟨i, location, hi, hlocation, hmeetup⟩ := assignedData_location hplan hlt hle
    refine ⟨i, location, hi, hlocation, ?_, ?_⟩
    · show (getMeetupLocation s _ k).bind (getMeetupTime config s) = _
      rw [hmeetup, Option.bind_some]
    · intro b q hq hassigned
      obtain ⟨k', hk'⟩ := Option.ne_none_iff_exists'.1 hassigned
      obtain ⟨hb, t', -, rfl⟩ := assigned_iff.1 ⟨hq, hk'⟩
      obtain ⟨-, hpos', hle'⟩ := hplaces hb
      have hfor := hplan.forLocations hlt
      have heq := hfor.index_eq (hle.trans hplan.enough)
      have heq' := hfor.index_eq (hle'.trans hplan.enough)
      show getMeetupLocationIndex k' _ _ = some i ↔ some k' = some k
      rw [← hi, heq, heq', Option.some.injEq, Option.some.injEq]
      constructor
      · exact hfor.index_injective hpos' hpos (hle'.trans hplan.enough) (hle.trans hplan.enough)
      · intro hsame
        rw [hsame]
  · intro a data
    rw [gatherMeetupData_eq_ok]
    constructor
    · rintro ⟨hcindex, hk, hparticipants, hlocation, htime⟩
      rw [hcindex] at hk hparticipants hlocation
      obtain ⟨hplan, hpos, hle⟩ := hplaces hk
      obtain ⟨i, location, hi, hplace, hmeetup⟩ := assignedData_location hplan hlt hle
      obtain rfl : location = data.location := Option.some.inj (hmeetup.symm.trans hlocation)
      obtain ⟨p, hp⟩ := exists_assigned_iff.2 hk
      obtain ⟨-, t, -, rfl⟩ := assigned_iff.1 hp
      refine ⟨hcindex, _, i, hp.1, hp.2, toOption_eq_some.2 hparticipants, hi, hplace, ?_⟩
      show (getMeetupLocation s _ _).bind (getMeetupTime config s) = _
      rw [hlocation, Option.bind_some, htime]
    · rintro ⟨hcindex, p, i, hp, hindex, hregistry, hi, hplace, htime⟩
      obtain ⟨hk, t, -, rfl⟩ := assigned_iff.1 ⟨hp, hindex⟩
      obtain ⟨hplan, hpos, hle⟩ := hplaces hk
      obtain ⟨i', location, hi', hplace', hmeetup⟩ := assignedData_location hplan hlt hle
      obtain rfl : i' = i := Option.some.inj (hi'.symm.trans hi)
      obtain rfl : location = data.location := Option.some.inj (hplace'.symm.trans hplace)
      rw [hcindex]
      refine ⟨rfl, hk, toOption_eq_some.1 hregistry, hmeetup, ?_⟩
      rw [← htime]
      show _ = (getMeetupLocation s _ _).bind (getMeetupTime config s)
      rw [hmeetup, Option.bind_some]

/-- In every run without purges from outside, all members of a meetup are told the same, no other
meetup is at their place, and it is what their attestations are checked against. -/
theorem account_data_agrees (config : Config AccountId)
    (hconfig : config.maxBootstrappers ≤ config.meetupSizeTarget) (genesis : GenesisConfig)
    (nativeBalances : StorageMap AccountId Nat)
    (assetBalances : StorageMap (AccountId × AssetKind) Nat) (actions : List (Action AccountId))
    (hkept : ∀ action ∈ actions, keepsCommunities action = true) (cid : CommunityIdentifier) :
    let s := ((Chain.genesis genesis nativeBalances assetBalances).run config actions).runtime
    RegisteredCountsBelow s.ceremonies (cid, s.scheduler.currentCeremonyIndex) →
      (getLocations s.communities cid).length < 2 ^ 31 → AccountDataAgrees config s cid := by
  intro s hbelow hlt
  have hplanned : Planned config ((Chain.genesis genesis nativeBalances assetBalances).run config
    actions) := (Planned.genesis config genesis nativeBalances assetBalances).run hconfig hkept
  exact .of_planned (hplanned.provenance.reputation.ceremonies.meetupsAgree hbelow)
    hplanned.meetups hlt

/-- The islanders are told where and when they meet on the third day. -/
theorem account_data_agrees_islanders :
    AccountDataAgrees Demo.runtimeConfig ((Chain.genesis Demo.genesis ∅ ∅).run Demo.runtimeConfig
      Demo.firstCeremony).runtime Demo.islanders :=
  account_data_agrees Demo.runtimeConfig (by decide) Demo.genesis ∅ ∅ Demo.firstCeremony
    (by decide +kernel) Demo.islanders (by decide +kernel) (by decide +kernel)

/-! ## The time of a meetup -/

/-- When attesting starts, by the time of the next phase. -/
def attestingStart (s : Runtime AccountId) : Nat :=
  wrappingSubU64 s.scheduler.nextPhaseTimestamp (s.scheduler.phaseDurations.get .attesting 0)

end Ceremonies

end Encointer
