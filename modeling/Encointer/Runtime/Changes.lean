import Encointer.Runtime.Dispatch
import Encointer.Ceremonies.Bijection

/-!
# What a step can do

Every action other than a claim of rewards is a sequence of elementary changes.
An invariant that the elementary changes keep is kept by all these actions, and
only claims are left to look at. The effects tell what an action did to the
clock, communities, registrations, links, histories and ballots.
-/

namespace Encointer

open Assignment Checked

variable {AccountId : Type} [DecidableEq AccountId] (config : Config AccountId)

/-! ## Time -/

def CeremonyPhaseType.rank : CeremonyPhaseType → Nat
  | .registering => 0
  | .assigning => 1
  | .attesting => 2

/-- The number of phases before the current one, when none was skipped. -/
def SchedulerStorage.time (scheduler : SchedulerStorage) : Nat :=
  3 * scheduler.currentCeremonyIndex + scheduler.currentPhase.rank

/-- Participants can register for, and unregister from, ceremony `cindex`. -/
def SchedulerStorage.RegistrationOpen (scheduler : SchedulerStorage)
    (cindex : Nat) : Prop :=
  (scheduler.currentPhase = .registering ∧ cindex = scheduler.currentCeremonyIndex) ∨
    (scheduler.currentPhase = .attesting ∧ cindex = scheduler.currentCeremonyIndex + 1)

theorem SchedulerStorage.RegistrationOpen.time_le {scheduler : SchedulerStorage}
    {cindex : Nat} (h : scheduler.RegistrationOpen cindex) :
    scheduler.time ≤ 3 * cindex := by
  rcases h with ⟨hphase, rfl⟩ | ⟨hphase, rfl⟩
  · simp only [time, hphase, CeremonyPhaseType.rank]
    omega
  · simp only [time, hphase, CeremonyPhaseType.rank]
    omega

/-! ## Elementary changes -/

/-- The parts of the storage that registration, assignment, rewards and purges write. -/
structure SameRecords (c c' : CeremoniesStorage AccountId) : Prop where
  registry : c'.registry = c.registry
  assignmentCounts : c'.assignmentCounts = c.assignmentCounts
  assignments : c'.assignments = c.assignments
  meetupCount : c'.meetupCount = c.meetupCount
  participantReputation : c'.participantReputation = c.participantReputation
  reputationCount : c'.reputationCount = c.reputationCount
  globalReputationCount : c'.globalReputationCount = c.globalReputationCount
  issuedRewards : c'.issuedRewards = c.issuedRewards

omit [DecidableEq AccountId] in
theorem SameRecords.refl (c : CeremoniesStorage AccountId) : SameRecords c c :=
  ⟨rfl, rfl, rfl, rfl, rfl, rfl, rfl, rfl⟩

omit [DecidableEq AccountId] in
theorem SameRecords.trans {c c' c'' : CeremoniesStorage AccountId} (h : SameRecords c c')
    (h' : SameRecords c' c'') : SameRecords c c'' where
  registry := h'.registry.trans h.registry
  assignmentCounts := h'.assignmentCounts.trans h.assignmentCounts
  assignments := h'.assignments.trans h.assignments
  meetupCount := h'.meetupCount.trans h.meetupCount
  participantReputation := h'.participantReputation.trans h.participantReputation
  reputationCount := h'.reputationCount.trans h.reputationCount
  globalReputationCount := h'.globalReputationCount.trans h.globalReputationCount
  issuedRewards := h'.issuedRewards.trans h.issuedRewards

/-- Only parameters differ, such as tolerances and timeouts. -/
structure SameStorage (c c' : CeremoniesStorage AccountId) : Prop extends SameRecords c c' where
  burnedBootstrapperNewbieTickets :
    c'.burnedBootstrapperNewbieTickets = c.burnedBootstrapperNewbieTickets
  burnedReputableNewbieTickets : c'.burnedReputableNewbieTickets = c.burnedReputableNewbieTickets
  endorsees : c'.endorsees = c.endorsees
  endorseesCount : c'.endorseesCount = c.endorseesCount
  attestationRegistry : c'.attestationRegistry = c.attestationRegistry
  attestationIndex : c'.attestationIndex = c.attestationIndex
  attestationCount : c'.attestationCount = c.attestationCount
  meetupParticipantCountVote : c'.meetupParticipantCountVote = c.meetupParticipantCountVote
  inactivityCounters : c'.inactivityCounters = c.inactivityCounters
  reputationLifetime : c'.reputationLifetime = c.reputationLifetime

/-- What calls and proposals change about communities that exist. -/
inductive CommunityChange (communities : CommunitiesStorage AccountId) :
    CommunitiesStorage AccountId → Prop where
  | addLocation (cid : CommunityIdentifier) (location : Location) :
      CommunityChange communities (Communities.doAddLocation config communities cid location).1
  | removeLocation (cid : CommunityIdentifier) (location : Location)
      (communities' : CommunitiesStorage AccountId)
      (removed : Communities.doRemoveLocation config communities cid location = .ok communities') :
      CommunityChange communities communities'
  | records (communities' : CommunitiesStorage AccountId)
      (communityIdentifiers : communities'.communityIdentifiers = communities.communityIdentifiers)
      (cidsByGeohash : communities'.cidsByGeohash = communities.cidsByGeohash)
      (locations : communities'.locations = communities.locations)
      (bootstrappers : communities'.bootstrappers = communities.bootstrappers) :
      CommunityChange communities communities'

/-- A proposal apart from its state. -/
def Proposal.terms (proposal : Proposal AccountId) : Proposal AccountId :=
  { proposal with state := .ongoing }

/-- Proposals may change their state, and nothing that votes depend on. -/
structure SameBallots (d d' : DemocracyStorage AccountId) : Prop where
  purposeIds : d'.purposeIds = d.purposeIds
  proposalCount : d'.proposalCount = d.proposalCount
  tallies : d'.tallies = d.tallies
  terms : ∀ id, (d'.proposals.lookup id).map Proposal.terms =
    (d.proposals.lookup id).map Proposal.terms

omit [DecidableEq AccountId] in
theorem SameBallots.refl (d : DemocracyStorage AccountId) : SameBallots d d :=
  ⟨rfl, rfl, rfl, fun _ => rfl⟩

omit [DecidableEq AccountId] in
theorem SameBallots.trans {d d' d'' : DemocracyStorage AccountId} (h : SameBallots d d')
    (h' : SameBallots d' d'') : SameBallots d d'' where
  purposeIds := h'.purposeIds.trans h.purposeIds
  proposalCount := h'.proposalCount.trans h.proposalCount
  tallies := h'.tallies.trans h.tallies
  terms := fun id => (h'.terms id).trans (h.terms id)

/-- The ceremony is over, and nothing is left of its meetups and reputations. -/
structure HistoryGone (s : Runtime AccountId) (cc : CommunityCeremony) : Prop where
  past : 3 * cc.2 + 3 ≤ s.scheduler.time
  meetupCount : s.ceremonies.meetupCount.get cc 0 = 0
  participantReputation : ∀ a, s.ceremonies.participantReputation.lookup (cc, a) = none

/-- What an elementary change does to the clock, the records of ceremonies and the ballots. -/
inductive Effect (AccountId : Type) where
  | clock
  | newCommunity (cid : CommunityIdentifier)
  | removeCommunity (cid : CommunityIdentifier)
  | setReputationLifetime (reputationLifetime : Nat)
  | add (participantType : ParticipantType) (cc : CommunityCeremony) (participant : AccountId)
  | remove (cc : CommunityCeremony) (participant : AccountId)
  | link (cc : CommunityCeremony) (sender : AccountId)
      (reputation : CommunityCeremony × AccountId)
  | unlink (cc : CommunityCeremony) (sender : AccountId) (source : CommunityCeremony)
  | purge (cc : CommunityCeremony)
  | assign (cc : CommunityCeremony)
  | burnReputableTicket (cc : CommunityCeremony) (sender : AccountId)
  | burnBootstrapperTicket (cid : CommunityIdentifier) (sender : AccountId)
  | endorse (cc : CommunityCeremony) (newbie : AccountId)
  | registerPurpose (purpose : Nat)
  | commit (cc : CommunityCeremony) (purpose : Nat) (account : AccountId)
  | submit (proposalId : Nat)
  | vote (proposalId : Nat) (sender : AccountId) (counted : List CommunityCeremony)
  | update (proposalId : Nat)
  | attempt (proposalId : Nat) (enacted : Bool)
  | drain
  deriving DecidableEq, Repr

/-- An elementary change and its effect; some have none. -/
inductive Change (s : Runtime AccountId) : List (Effect AccountId) → Runtime AccountId → Prop where
  | clock (now : Nat) (blockNumber : Nat) (scheduler : SchedulerStorage)
      (advances : s.scheduler.time ≤ scheduler.time) :
      Change s [.clock] { s with now := now, blockNumber := blockNumber, scheduler := scheduler }
  | balances (balances : BalancesStorage AccountId) : Change s [] { s with balances := balances }
  | faucet (faucet : FaucetStorage AccountId) : Change s [] { s with faucet := faucet }
  | registerPurpose (descriptor : PalletString) (commitments : CommitmentsStorage AccountId)
      (purpose : Nat)
      (registered : Commitments.doRegisterPurpose s.commitments descriptor =
        .ok (commitments, purpose)) :
      Change s [.registerPurpose purpose] { s with commitments := commitments }
  | commit (account : AccountId) (cid : CommunityIdentifier) (cindex purpose : Nat)
      (commitmentHash : Option (Vector UInt8 32)) (commitments : CommitmentsStorage AccountId)
      (committed : Commitments.doCommitReputation s account cid cindex purpose commitmentHash =
        .ok commitments) :
      Change s [.commit (cid, cindex) purpose account] { s with commitments := commitments }
  | forgetCommitments (cindex : Nat)
      (gone : ∀ cid ∈ s.communities.communityIdentifiers, HistoryGone s (cid, cindex)) :
      Change s [] { s with commitments := Commitments.purgeRegistry s cindex }
  | treasuries (treasuries : TreasuriesStorage AccountId) :
      Change s [] { s with treasuries := treasuries }
  | update (proposalId : Nat) (democracy : DemocracyStorage AccountId)
      (updated : Democracy.doUpdateProposalState config s proposalId = .ok democracy) :
      Change s [.update proposalId] { s with democracy := democracy }
  | enact (proposalId : Nat) (proposal : Proposal AccountId)
      (found : s.democracy.proposals.lookup proposalId = some proposal) :
      Change s [.attempt proposalId true] { s with
        democracy := Democracy.setProposalState s proposalId proposal .enacted
        events := s.events ++ [.proposalEnacted proposalId] }
  | enactmentFailed (proposalId : Nat) (reason : DispatchError) :
      Change s [.attempt proposalId false]
        { s with events := s.events ++ [.enactmentFailed proposalId reason] }
  | drain : Change s [.drain] { s with democracy := { s.democracy with enactmentQueue := ∅ } }
  | submit (action : ProposalAction AccountId) (commitments : CommitmentsStorage AccountId)
      (democracy : DemocracyStorage AccountId)
      (submitted : Democracy.submitProposal config s action = .ok (commitments, democracy)) :
      Change s [.submit democracy.proposalCount]
        { s with commitments := commitments, democracy := democracy }
  | vote (sender : AccountId) (proposalId : Nat) (vote : Vote)
      (reputations : List CommunityCeremony) (commitments : CommitmentsStorage AccountId)
      (democracy : DemocracyStorage AccountId) (counted : List CommunityCeremony)
      (voted : Democracy.vote config s sender proposalId vote reputations =
        .ok (commitments, democracy, counted)) :
      Change s [.vote proposalId sender counted]
        { s with commitments := commitments, democracy := democracy }
  | communities (communities : CommunitiesStorage AccountId)
      (changed : CommunityChange config s.communities communities) :
      Change s [] { s with communities := communities }
  | newCommunity (location : Location) (bootstrappers : List AccountId)
      (metadata : CommunityMetadata) (demurrage : Option Demurrage) (nominalIncome : Option Nat)
      (communities : CommunitiesStorage AccountId) (balances : BalancesStorage AccountId)
      (cid : CommunityIdentifier)
      (identifier : Communities.newCommunityIdentifier config location bootstrappers = some cid)
      (created : Communities.newCommunity config s location bootstrappers metadata demurrage
        nominalIncome = .ok (communities, balances)) :
      Change s [.newCommunity cid] { s with communities := communities, balances := balances }
  | removeCommunity (cid : CommunityIdentifier) :
      Change s [.removeCommunity cid]
        { s with communities := Communities.removeCommunity s.communities cid }
  | parameters (ceremonies : CeremoniesStorage AccountId)
      (same : SameStorage s.ceremonies ceremonies) :
      Change s [] { s with ceremonies := ceremonies }
  | attest (sender : AccountId) (cid : CommunityIdentifier) (numberOfParticipantsVote : Nat)
      (attestations : List AccountId) (ceremonies : CeremoniesStorage AccountId)
      (attested : Ceremonies.attestAttendees config s sender cid numberOfParticipantsVote
        attestations = .ok ceremonies) :
      Change s [] { s with ceremonies := ceremonies }
  | consumeEndorsement (cc : CommunityCeremony) (participant : AccountId) :
      Change s [] { s with ceremonies := { s.ceremonies with
        endorsees := s.ceremonies.endorsees.erase (cc, participant) } }
  | burnReputableTicket (cc : CommunityCeremony) (sender : AccountId)
      (reputation : Ceremonies.hasReputation s sender cc.1 = true)
      (left : s.ceremonies.burnedReputableNewbieTickets.get (cc, sender) 0 <
        s.ceremonies.endorsementTicketsPerReputable) :
      Change s [.burnReputableTicket cc sender] { s with ceremonies := { s.ceremonies with
        burnedReputableNewbieTickets := s.ceremonies.burnedReputableNewbieTickets.insert (cc, sender)
          (s.ceremonies.burnedReputableNewbieTickets.get (cc, sender) 0 + 1) } }
  | burnBootstrapperTicket (cid : CommunityIdentifier) (sender : AccountId)
      (bootstrapper : sender ∈ Communities.bootstrappers s.communities cid)
      (left : s.ceremonies.burnedBootstrapperNewbieTickets.get (cid, sender) 0 <
        s.ceremonies.endorsementTicketsPerBootstrapper) :
      Change s [.burnBootstrapperTicket cid sender] { s with ceremonies := { s.ceremonies with
        burnedBootstrapperNewbieTickets :=
          s.ceremonies.burnedBootstrapperNewbieTickets.insert (cid, sender)
            (s.ceremonies.burnedBootstrapperNewbieTickets.get (cid, sender) 0 + 1) } }
  | endorse (cc : CommunityCeremony) (newbie : AccountId) (count : Nat)
      (registered : cc.1 ∈ s.communities.communityIdentifiers)
      (free : Ceremonies.isEndorsed s.ceremonies newbie cc = none)
      (counted : addU64 (s.ceremonies.endorseeRegistry.count.get cc 0) 1 = some count) :
      Change s [.endorse cc newbie] { s with ceremonies := { s.ceremonies with
        endorsees := s.ceremonies.endorsees.insert (cc, newbie) ()
        endorseesCount := s.ceremonies.endorseesCount.insert cc count } }
  | inactivityCounters (assigning : s.scheduler.currentPhase = .assigning) :
      Change s [] { s with ceremonies := { s.ceremonies with
        inactivityCounters := (Ceremonies.updateInactivityCounters s.ceremonies
          (s.scheduler.currentCeremonyIndex - 1) s.ceremonies.inactivityTimeout
          s.communities.communityIdentifiers s.ceremonies.inactivityCounters).1 } }
  | forget (cid : CommunityIdentifier) :
      Change s [] { s with ceremonies := { s.ceremonies with
        inactivityCounters := s.ceremonies.inactivityCounters.erase cid
        burnedBootstrapperNewbieTickets :=
          s.ceremonies.burnedBootstrapperNewbieTickets.removePrefix cid } }
  | setReputationLifetime (reputationLifetime : Nat) :
      Change s [.setReputationLifetime reputationLifetime]
        { s with ceremonies := Ceremonies.setReputationLifetime s reputationLifetime }
  | add (participantType : ParticipantType) (cc : CommunityCeremony) (participant : AccountId)
      (r : ParticipantRegistry AccountId) (opened : s.scheduler.RegistrationOpen cc.2)
      (free : ∀ t, (s.ceremonies.registry t).index.lookup (cc, participant) = none)
      (added : (s.ceremonies.registry participantType).register cc participant = some r) :
      Change s [.add participantType cc participant]
        { s with ceremonies := s.ceremonies.setRegistry participantType r }
  | remove (participantType : ParticipantType) (cc : CommunityCeremony) (participant : AccountId)
      (opened : s.scheduler.RegistrationOpen cc.2)
      (registered :
        (s.ceremonies.registry participantType).index.contains (cc, participant) = true) :
      Change s [.remove cc participant] { s with
        ceremonies := s.ceremonies.setRegistry participantType
          ((s.ceremonies.registry participantType).removeParticipantFromRegistry cc
            participant) }
  | link (cid : CommunityIdentifier) (cindex : Nat) (sender : AccountId)
      (p : ProofOfAttendance AccountId) (ceremonies : CeremoniesStorage AccountId)
      (opened : s.scheduler.RegistrationOpen cindex)
      (linked : Ceremonies.linkReputation config s cid cindex sender p = .ok ceremonies) :
      Change s [.link (cid, cindex) sender (Dispatch.provenReputation p)]
        { s with ceremonies := ceremonies }
  | unlink (cid : CommunityIdentifier) (cindex : Nat) (sender : AccountId)
      (cc : CommunityCeremony) (ceremonies : CeremoniesStorage AccountId)
      (opened : s.scheduler.RegistrationOpen cindex)
      (unlinked : Ceremonies.unlinkReputation s cid cindex sender cc = .ok ceremonies) :
      Change s [.unlink (cid, cindex) sender cc] { s with ceremonies := ceremonies }
  | purge (cc : CommunityCeremony) :
      Change s [.purge cc] { s with
        ceremonies := Ceremonies.purgeCommunityCeremonyInternal s.ceremonies cc }
  | assign (cid : CommunityIdentifier) (ceremonies : CeremoniesStorage AccountId)
      (random random' : RandomNumberGenerator)
      (assigning : s.scheduler.currentPhase = .assigning)
      (registered : cid ∈ s.communities.communityIdentifiers)
      (assigned : Ceremonies.generateMeetupAssignmentParams config s
        (cid, s.scheduler.currentCeremonyIndex) random = .ok (ceremonies, random')) :
      Change s [.assign (cid, s.scheduler.currentCeremonyIndex)] { s with ceremonies := ceremonies }

/-- A sequence of elementary changes, with their effects in order. -/
inductive Changes (s : Runtime AccountId) : List (Effect AccountId) → Runtime AccountId → Prop where
  | refl : Changes s [] s
  | tail {effects new : List (Effect AccountId)} {s' s'' : Runtime AccountId}
      (h : Changes s effects s') (h' : Change config s' new s'') : Changes s (effects ++ new) s''

variable {config}

section

variable {s s' s'' : Runtime AccountId} {effects effects' : List (Effect AccountId)}

theorem Change.changes (h : Change config s effects s') : Changes config s effects s' := by
  have hsingle := Changes.refl.tail h
  rw [List.nil_append] at hsingle
  exact hsingle

theorem Changes.silent (h : Changes config s effects s') (h' : Change config s' [] s'') :
    Changes config s effects s'' := by
  have htail := h.tail h'
  rw [List.append_nil] at htail
  exact htail

theorem Changes.trans (h : Changes config s effects s') (h' : Changes config s' effects' s'') :
    Changes config s (effects ++ effects') s'' := by
  induction h' with
  | refl =>
      rw [List.append_nil]
      exact h
  | tail _ hchange ih =>
      rw [← List.append_assoc]
      exact ih.tail hchange

theorem Change.length_le (h : Change config s effects s') : effects.length ≤ 1 := by
  cases h <;> simp

theorem Change.time_le (h : Change config s effects s') : s.scheduler.time ≤ s'.scheduler.time := by
  cases h with
  | clock now blockNumber scheduler advances => exact advances
  | _ => exact le_rfl

theorem Changes.time_le (h : Changes config s effects s') :
    s.scheduler.time ≤ s'.scheduler.time := by
  induction h with
  | refl => exact le_rfl
  | tail _ hchange ih => exact ih.trans hchange.time_le

/-- The first effect, and the changes before and after it. -/
theorem Changes.cons_cases {e : Effect AccountId} (h : Changes config s (e :: effects) s'') :
    ∃ s₁ s₂, Changes config s [] s₁ ∧ Change config s₁ [e] s₂ ∧ Changes config s₂ effects s'' := by
  generalize hall : e :: effects = all at h
  induction h generalizing effects with
  | refl => cases hall
  | @tail before new s₁ s₂ hbefore hchange ih =>
      cases before with
      | nil =>
          rw [List.nil_append] at hall
          have hlength := hchange.length_le
          rw [← hall, List.length_cons] at hlength
          have hnil : effects = [] := List.eq_nil_of_length_eq_zero (by omega)
          rw [← hall, hnil] at hchange
          exact ⟨s₁, s₂, hbefore, hchange, hnil ▸ .refl⟩
      | cons e' rest =>
          rw [List.cons_append, List.cons.injEq] at hall
          obtain ⟨rfl, rfl⟩ := hall
          obtain ⟨t₁, t₂, hfirst, he, hrest⟩ := ih rfl
          exact ⟨t₁, t₂, hfirst, he, hrest.tail hchange⟩

/-- A sequence of effects splits where its list does. -/
theorem Changes.append_cases (h : Changes config s (effects ++ effects') s'') :
    ∃ s₁, Changes config s effects s₁ ∧ Changes config s₁ effects' s'' := by
  induction effects generalizing s with
  | nil => exact ⟨s, .refl, h⟩
  | cons e effects ih =>
      obtain ⟨s₁, s₂, hbefore, hchange, hrest⟩ := h.cons_cases
      obtain ⟨s₃, hfirst, hsecond⟩ := ih hrest
      exact ⟨s₃, (hbefore.tail hchange).trans hfirst, hsecond⟩

theorem changes_of_sameStorage {c : CeremoniesStorage AccountId}
    (h : SameStorage s.ceremonies c) : Changes config s [] { s with ceremonies := c } :=
  (Change.parameters c h).changes

end

end Encointer
