import Encointer.Commitments.CommitOnce
import Encointer.Ceremonies.CounterSums

/-!
# Turnout and electorate

The votes on a proposal are different reputations that were verified when it was
submitted. So its turnout stays below its electorate, as long as the global
counts cover the reputations at each submission and the voting range does not
grow.
-/

namespace Encointer

open Ceremonies

variable {AccountId : Type} [DecidableEq AccountId] {config : Config AccountId}
  {s s' : Runtime AccountId}

/-! ## Votes and ranges in a trace -/

def Observation.countedFor (id : Nat) :
    Observation AccountId → Option (CommunityCeremony × AccountId)
  | .counted id' account cc => if id' = id then some (cc, account) else none
  | _ => none

def Observation.rangeFor (id : Nat) : Observation AccountId → Option (List Nat)
  | .submitted id' cindexes => if id' = id then some cindexes else none
  | _ => none

def countedFor (id : Nat) (trace : List (Observation AccountId)) :
    List (CommunityCeremony × AccountId) :=
  trace.filterMap (Observation.countedFor id)

def rangesFor (id : Nat) (trace : List (Observation AccountId)) : List (List Nat) :=
  trace.filterMap (Observation.rangeFor id)

section

omit [DecidableEq AccountId]

theorem countedFor_append (id : Nat) (trace observations : List (Observation AccountId)) :
    countedFor id (trace ++ observations) = countedFor id trace ++ countedFor id observations :=
  List.filterMap_append

theorem rangesFor_append (id : Nat) (trace observations : List (Observation AccountId)) :
    rangesFor id (trace ++ observations) = rangesFor id trace ++ rangesFor id observations :=
  List.filterMap_append

theorem countedFor_vote (id proposalId purposeId : Nat) (sender : AccountId)
    (counted : List CommunityCeremony) :
    countedFor id ((counted.map fun cc => .counted proposalId sender cc) ++
      counted.map fun cc => .committed cc purposeId sender) =
        if id = proposalId then counted.map fun cc => (cc, sender) else [] := by
  have hcommitted : countedFor id (counted.map fun cc =>
      Observation.committed cc purposeId sender) = [] := by
    apply List.filterMap_eq_nil_iff.2
    intro observation hmem
    obtain ⟨cc, -, rfl⟩ := List.mem_map.1 hmem
    rfl
  rw [countedFor_append, hcommitted, List.append_nil, countedFor, List.filterMap_map]
  split
  · rename_i hid
    rw [hid]
    clear hcommitted
    induction counted with
    | nil => rfl
    | cons cc counted ih =>
        have hcc : (Observation.countedFor proposalId ∘ fun cc =>
            Observation.counted proposalId sender cc) cc = some (cc, sender) := if_pos rfl
        rw [List.filterMap_cons_some hcc, ih, List.map_cons]
  · rename_i hid
    apply List.filterMap_eq_nil_iff.2
    intro cc _
    exact if_neg fun h => hid h.symm

theorem rangesFor_vote (id proposalId purposeId : Nat) (sender : AccountId)
    (counted : List CommunityCeremony) :
    rangesFor id ((counted.map fun cc => Observation.counted proposalId sender cc) ++
      counted.map fun cc => .committed cc purposeId sender) = [] := by
  apply List.filterMap_eq_nil_iff.2
  intro observation hmem
  rcases List.mem_append.1 hmem with hmem | hmem
  · obtain ⟨cc, -, rfl⟩ := List.mem_map.1 hmem
    rfl
  · obtain ⟨cc, -, rfl⟩ := List.mem_map.1 hmem
    rfl

end

def Observation.ballot : Observation AccountId → Bool
  | .counted .. | .submitted .. => true
  | _ => false

omit [DecidableEq AccountId] in
theorem countedFor_of_ballot {observations : List (Observation AccountId)}
    (h : ∀ observation ∈ observations, observation.ballot = false) (id : Nat) :
    countedFor id observations = [] := by
  apply List.filterMap_eq_nil_iff.2
  intro observation hmem
  have hother := h observation hmem
  cases observation with
  | counted => cases hother
  | _ => rfl

omit [DecidableEq AccountId] in
theorem rangesFor_of_ballot {observations : List (Observation AccountId)}
    (h : ∀ observation ∈ observations, observation.ballot = false) (id : Nat) :
    rangesFor id observations = [] := by
  apply List.filterMap_eq_nil_iff.2
  intro observation hmem
  have hother := h observation hmem
  cases observation with
  | submitted => cases hother
  | _ => rfl

/-! ## Every action -/

/-- Time goes on, and no reputation appears two ceremonies later. -/
structure ReputationsSettle (s s' : Runtime AccountId) : Prop where
  time : s.scheduler.time ≤ s'.scheduler.time
  verified : ∀ cc, 3 * cc.2 + 6 ≤ s.scheduler.time →
    verifiedAccounts s'.ceremonies cc ⊆ verifiedAccounts s.ceremonies cc

theorem Chain.reputationsSettle (config : Config AccountId) {chain : Chain AccountId}
    (hinv : ReputationInvariant chain.runtime) (action : Action AccountId) :
    ReputationsSettle chain.runtime (chain.step config action).runtime := by
  obtain ⟨observations, -, hcases⟩ := Chain.step_cases config action hinv.ceremonies.registry
  rcases hcases with ⟨claim, participants, hclaims⟩ | ⟨effects, -, hchanges⟩ | ⟨hsame, -⟩
  · have hattested := hclaims.effect.attested hinv.ceremonies
    rw [hclaims.runtime]
    constructor
    · exact le_rfl
    · intro cc hold
      rw [hclaims.effect.verifiedAccounts, if_neg]
      intro hcc
      rw [hcc] at hold
      omega
  · have hcounts := hchanges.counts hinv.attested
    constructor
    · exact hcounts.time
    · intro cc _
      rw [hcounts.verified]
      split
      · exact Finset.empty_subset _
      · exact Finset.Subset.refl _
  · rw [hsame]
    exact ⟨le_rfl, fun _ _ => Finset.Subset.refl _⟩

def Action.other : Action AccountId → Bool
  | .submitProposal .. | .vote .. => false
  | _ => true

theorem Dispatch.Outcome.other {action : Action AccountId}
    {observations : List (Observation AccountId)}
    (hinv : RegistryInvariant s.ceremonies.registry) (hother : action.other = true)
    (h : Outcome config s action s' observations) :
    SameBallots s.democracy s'.democracy ∧
      ∀ observation ∈ observations, observation.ballot = false := by
  rcases h.claims_or_changes hinv with ⟨claim, participants, hclaims⟩ | ⟨effects, heffects, hchanges⟩
  · rw [hclaims.runtime, hclaims.observations]
    constructor
    · exact SameBallots.refl s.democracy
    · intro observation hmem
      obtain ⟨a, -, rfl⟩ := List.mem_map.1 hmem
      rfl
  · constructor
    · apply hchanges.sameBallots
      intro e he
      have hmay := heffects.mayCause he
      cases e with
      | submit proposalId =>
          obtain ⟨proposalAction, rfl⟩ := hmay
          cases hother
      | vote proposalId sender counted =>
          obtain ⟨v, reputations, rfl⟩ := hmay
          cases hother
      | _ => rfl
    · intro observation hmem
      unfold ActionEffects at heffects
      split at heffects
      · obtain ⟨t, -, -, rfl⟩ := heffects
        rw [List.mem_singleton.1 hmem]
        rfl
      · obtain ⟨t, -, rfl⟩ := heffects
        rw [List.mem_singleton.1 hmem]
        rfl
      · obtain ⟨ticket, t, -, -, -, rfl⟩ := heffects
        rcases List.mem_cons.1 hmem with rfl | hmem
        · rfl
        · obtain ⟨t, -, rfl⟩ := List.mem_map.1 hmem
          rfl
      · cases hother
      · cases hother
      · rw [heffects.2] at hmem
        unfold commitmentObservations at hmem
        split at hmem
        · rw [List.mem_singleton.1 hmem]
          rfl
        · rw [List.mem_singleton.1 hmem]
          rfl
        · rw [List.mem_singleton.1 hmem]
          rfl
        · obtain ⟨faucet, -, rfl⟩ := List.mem_map.1 hmem
          rfl
        · cases hmem

theorem Dispatch.Outcome.submit_inv {proposalAction : ProposalAction AccountId}
    {observations : List (Observation AccountId)}
    (h : Outcome config s (.submitProposal proposalAction) s' observations) :
    ∃ commitments democracy cindexes,
      Democracy.submitProposal config s proposalAction = .ok (commitments, democracy) ∧
      Democracy.votingCindexes config s s.scheduler.currentCeremonyIndex = .ok cindexes ∧
      s' = { s with commitments := commitments, democracy := democracy } ∧
      observations = [.purposeRegistered s.commitments.currentPurposeId,
        .submitted democracy.proposalCount cindexes] := by
  cases h with
  | submit proposalAction' commitments democracy cindexes haction hcall hcindexes hs hobs =>
      cases haction
      exact ⟨commitments, democracy, cindexes, hcall, hcindexes, hs, hobs⟩
  | quiet hcall hobs heffects =>
      obtain ⟨proposalId, cindexes, hsubmit, -⟩ := heffects [] rfl
      cases hsubmit
  | register sender cid proof c t haction => cases haction
  | upgrade sender cid proof c t haction => cases haction
  | endorse sender cid newbie c t haction => cases haction
  | claim sender cid maybeMeetupIndex claim haction => cases haction
  | vote sender proposalId v reputations commitments democracy counted purpose haction =>
      cases haction

/-! ## The electorate of a proposal -/

/-- A finite electorate, of the size that is stored, contains whoever voted or still can. -/
structure ElectorateHolds (s : Runtime AccountId) (proposal : Proposal AccountId)
    (cindexes : List Nat) (counted : List (CommunityCeremony × AccountId))
    (electorate : Finset (CommunityCeremony × AccountId)) : Prop where
  size : electorate.card ≤ proposal.electorateSize
  settled : ∀ cindex ∈ cindexes, 3 * cindex + 6 ≤ s.scheduler.time
  eligible : Democracy.eligibleReputations s.ceremonies cindexes proposal.action.getAccessPolicy ⊆
    electorate
  counted : ∀ k ∈ counted, k ∈ electorate ∧
    Democracy.isEligible cindexes proposal.action.getAccessPolicy k.1 = true

theorem Democracy.cindex_mem_of_isEligible {cindexes : List Nat} {policy : ProposalAccessPolicy}
    {cc : CommunityCeremony} (h : isEligible cindexes policy cc = true) : cc.2 ∈ cindexes :=
  of_decide_eq_true (Bool.and_eq_true_iff.1 h).1

omit [DecidableEq AccountId] in
theorem Proposal.electorateSize_of_terms {proposal proposal' : Proposal AccountId}
    (h : proposal'.terms = proposal.terms) : proposal'.electorateSize = proposal.electorateSize :=
  show proposal'.terms.electorateSize = proposal.terms.electorateSize by rw [h]

omit [DecidableEq AccountId] in
theorem Proposal.action_of_terms {proposal proposal' : Proposal AccountId}
    (h : proposal'.terms = proposal.terms) : proposal'.action = proposal.action :=
  show proposal'.terms.action = proposal.terms.action by rw [h]

namespace ElectorateHolds

variable {proposal proposal' : Proposal AccountId} {cindexes : List Nat}
  {counted new : List (CommunityCeremony × AccountId)}
  {electorate : Finset (CommunityCeremony × AccountId)}

theorem step (h : ElectorateHolds s proposal cindexes counted electorate)
    (hsettle : ReputationsSettle s s') (hterms : proposal'.terms = proposal.terms)
    (hnew : ∀ k ∈ new,
      k ∈ Democracy.eligibleReputations s.ceremonies cindexes proposal.action.getAccessPolicy) :
    ElectorateHolds s' proposal' cindexes (counted ++ new) electorate where
  size := by
    rw [Proposal.electorateSize_of_terms hterms]
    exact h.size
  settled := by
    intro cindex hcindex
    exact (h.settled cindex hcindex).trans hsettle.time
  eligible := by
    intro k hk
    obtain ⟨cc, a⟩ := k
    rw [Proposal.action_of_terms hterms, Democracy.mem_eligibleReputations] at hk
    apply h.eligible
    rw [Democracy.mem_eligibleReputations]
    have hold := h.settled cc.2 (Democracy.cindex_mem_of_isEligible hk.1)
    exact ⟨hk.1, hsettle.verified cc hold hk.2⟩
  counted := by
    intro k hk
    rw [Proposal.action_of_terms hterms]
    rcases List.mem_append.1 hk with hold | hmem
    · exact h.counted k hold
    · obtain ⟨cc, a⟩ := k
      exact ⟨h.eligible (hnew _ hmem), (Democracy.mem_eligibleReputations.1 (hnew _ hmem)).1⟩

end ElectorateHolds

/-! ## The condition on submissions and votes -/

def Action.proposed : Action AccountId → Option (ProposalAction AccountId)
  | .submitProposal action => some action
  | _ => none

def Action.voted : Action AccountId → Option (AccountId × (Nat × List CommunityCeremony))
  | .vote sender proposalId _ reputations => some (sender, (proposalId, reputations))
  | _ => none

/-- The range is two ceremonies old, and the global counts cover the reputations. -/
def ElectorateCovered (config : Config AccountId) (s : Runtime AccountId)
    (action : ProposalAction AccountId) : Prop :=
  ∀ cindexes ∈ (Democracy.votingCindexes config s s.scheduler.currentCeremonyIndex).toOption,
    ∀ cindex ∈ cindexes, cindex + 2 ≤ s.scheduler.currentCeremonyIndex ∧
      (action.getAccessPolicy = .global →
        (Democracy.eligibleReputations s.ceremonies [cindex] .global).card ≤
          s.ceremonies.globalReputationCount.get cindex 0)

/-- The range now contains no reputation that was not in the range of the submission. -/
def RangeKept (config : Config AccountId) (chain : Chain AccountId) (sender : AccountId)
    (proposalId : Nat) (reputations : List CommunityCeremony) : Prop :=
  ∀ proposal ∈ chain.runtime.democracy.proposals.lookup proposalId,
    ∀ now ∈ (Democracy.votingCindexes config chain.runtime proposal.startCindex).toOption,
      ∀ cindexes ∈ rangesFor proposalId chain.trace, ∀ cc ∈ reputations,
        sender ∈ verifiedAccounts chain.runtime.ceremonies cc → cc.2 ∈ now → cc.2 ∈ cindexes

/-- Submissions are for a covered electorate, and votes within its range. -/
def KeepsElectorate (config : Config AccountId) (chain : Chain AccountId)
    (action : Action AccountId) : Prop :=
  (∀ proposalAction ∈ action.proposed, ElectorateCovered config chain.runtime proposalAction) ∧
    ∀ vote ∈ action.voted, RangeKept config chain vote.1 vote.2.1 vote.2.2

instance (config : Config AccountId) (s : Runtime AccountId) (action : ProposalAction AccountId) :
    Decidable (ElectorateCovered config s action) :=
  inferInstanceAs (Decidable (∀ cindexes ∈ Except.toOption _, ∀ cindex ∈ cindexes,
    _ ∧ (action.getAccessPolicy = .global → _)))

instance (config : Config AccountId) (chain : Chain AccountId) (sender : AccountId)
    (proposalId : Nat) (reputations : List CommunityCeremony) :
    Decidable (RangeKept config chain sender proposalId reputations) :=
  inferInstanceAs (Decidable (∀ proposal ∈ chain.runtime.democracy.proposals.lookup proposalId,
    ∀ now ∈ (Democracy.votingCindexes config chain.runtime proposal.startCindex).toOption,
      ∀ cindexes ∈ rangesFor proposalId chain.trace, ∀ cc ∈ reputations,
        sender ∈ verifiedAccounts chain.runtime.ceremonies cc → cc.2 ∈ now → cc.2 ∈ cindexes))

instance (config : Config AccountId) (chain : Chain AccountId) (action : Action AccountId) :
    Decidable (KeepsElectorate config chain action) :=
  inferInstanceAs (Decidable ((∀ proposalAction ∈ action.proposed, _) ∧ ∀ vote ∈ action.voted, _))

/-- The counts of a covered range add up to an electorate of eligible reputations. -/
theorem ElectorateCovered.electorateHolds (hinv : ReputationInvariant s)
    {action : ProposalAction AccountId} (h : ElectorateCovered config s action)
    {cindexes : List Nat}
    (hrange : Democracy.votingCindexes config s s.scheduler.currentCeremonyIndex = .ok cindexes) :
    ElectorateHolds s ⟨s.now, s.scheduler.currentCeremonyIndex, action, .ongoing,
      Democracy.electorateOf s action.getAccessPolicy cindexes⟩ cindexes []
      (Democracy.eligibleReputations s.ceremonies cindexes action.getAccessPolicy) where
  size := by
    have hcovered := h cindexes (by rw [hrange]; rfl)
    cases hpolicy : action.getAccessPolicy with
    | global =>
        apply Democracy.card_eligibleReputations_le
        intro cindex hcindex
        exact (hcovered cindex hcindex).2 hpolicy
    | community cid =>
        apply Democracy.card_eligibleReputations_le
        intro cindex hcindex
        exact (Democracy.card_eligibleReputations_community s.ceremonies cid cindex).trans
          (hinv.covered (cid, cindex))
  settled := by
    intro cindex hcindex
    have hold := (h cindexes (by rw [hrange]; rfl) cindex hcindex).1
    unfold SchedulerStorage.time
    omega
  eligible := Finset.Subset.refl _
  counted := by
    intro k hk
    cases hk

/-! ## The invariant -/

def TallyCounts (chain : Chain AccountId) (id : Nat) : Prop :=
  ∃ tally, chain.runtime.democracy.tallies.lookup id = some tally ∧ tally.ayes ≤ tally.turnout ∧
    tally.turnout = (countedFor id chain.trace).length

structure BallotInvariant (chain : Chain AccountId) : Prop where
  commitments : CommitmentInvariant chain
  fresh : ∀ id, chain.runtime.democracy.proposalCount < id →
    chain.runtime.democracy.proposals.lookup id = none ∧ countedFor id chain.trace = [] ∧
      rangesFor id chain.trace = []
  tallied : ∀ id proposal, chain.runtime.democracy.proposals.lookup id = some proposal →
    TallyCounts chain id
  once : ∀ id, (countedFor id chain.trace).Nodup
  /-- Votes are commitments to the purpose of the proposal. -/
  committed : ∀ id, ∀ k ∈ countedFor id chain.trace, ∃ purpose,
    chain.runtime.democracy.purposeIds.lookup id = some purpose ∧
      (k.1, (purpose, k.2)) ∈ commitmentsOf chain.trace
  electorates : ∀ id proposal, chain.runtime.democracy.proposals.lookup id = some proposal →
    ∃ cindexes electorate, rangesFor id chain.trace = [cindexes] ∧
      ElectorateHolds chain.runtime proposal cindexes (countedFor id chain.trace) electorate

namespace BallotInvariant

variable {chain next : Chain AccountId}

theorem genesis (genesis : GenesisConfig) (nativeBalances : StorageMap AccountId Nat)
    (assetBalances : StorageMap (AccountId × AssetKind) Nat) :
    BallotInvariant (Chain.genesis genesis nativeBalances assetBalances) where
  commitments := CommitmentInvariant.genesis genesis nativeBalances assetBalances
  fresh := by
    intro id _
    exact ⟨rfl, rfl, rfl⟩
  tallied := by
    intro id proposal hproposal
    cases hproposal
  once := by
    intro id
    exact List.nodup_nil
  committed := by
    intro id k hk
    cases hk
  electorates := by
    intro id proposal hproposal
    cases hproposal

end BallotInvariant

omit [DecidableEq AccountId] in
/-- Proposals come from before, apart from their state. -/
theorem SameBallots.lookup {d d' : DemocracyStorage AccountId} (h : SameBallots d d') {id : Nat}
    {proposal' : Proposal AccountId} (hproposal' : d'.proposals.lookup id = some proposal') :
    ∃ proposal, d.proposals.lookup id = some proposal ∧ proposal'.terms = proposal.terms := by
  have hterms := h.terms id
  rw [hproposal', Option.map_some] at hterms
  obtain ⟨proposal, hproposal, hsame⟩ := Option.map_eq_some_iff.1 hterms.symm
  exact ⟨proposal, hproposal, hsame.symm⟩

omit [DecidableEq AccountId] in
theorem SameBallots.lookup_none {d d' : DemocracyStorage AccountId} (h : SameBallots d d')
    {id : Nat} (hnone : d.proposals.lookup id = none) : d'.proposals.lookup id = none := by
  have hterms := h.terms id
  rw [hnone, Option.map_none] at hterms
  exact Option.map_eq_none_iff.1 hterms

namespace BallotInvariant

variable {chain next : Chain AccountId}

theorem other (hinv : BallotInvariant chain) (hcommitments : CommitmentInvariant next)
    (hsettle : ReputationsSettle chain.runtime next.runtime)
    {observations : List (Observation AccountId)}
    (htrace : next.trace = chain.trace ++ observations)
    (hballots : SameBallots chain.runtime.democracy next.runtime.democracy)
    (hquiet : ∀ observation ∈ observations, observation.ballot = false) :
    BallotInvariant next := by
  have hcounted (id : Nat) : countedFor id next.trace = countedFor id chain.trace := by
    rw [htrace, countedFor_append, countedFor_of_ballot hquiet, List.append_nil]
  have hranges (id : Nat) : rangesFor id next.trace = rangesFor id chain.trace := by
    rw [htrace, rangesFor_append, rangesFor_of_ballot hquiet, List.append_nil]
  constructor
  · exact hcommitments
  · intro id hid
    rw [hballots.proposalCount] at hid
    obtain ⟨hnone, hvotes, hrange⟩ := hinv.fresh id hid
    rw [hcounted, hranges]
    exact ⟨hballots.lookup_none hnone, hvotes, hrange⟩
  · intro id proposal' hproposal'
    obtain ⟨proposal, hproposal, -⟩ := hballots.lookup hproposal'
    unfold TallyCounts
    rw [hballots.tallies, hcounted]
    exact hinv.tallied id proposal hproposal
  · intro id
    rw [hcounted]
    exact hinv.once id
  · intro id k hk
    rw [hcounted] at hk
    obtain ⟨purpose, hpurpose, hmem⟩ := hinv.committed id k hk
    rw [hballots.purposeIds, htrace]
    refine ⟨purpose, hpurpose, ?_⟩
    rw [commitmentsOf, List.filterMap_append]
    exact List.mem_append_left _ hmem
  · intro id proposal' hproposal'
    obtain ⟨proposal, hproposal, hterms⟩ := hballots.lookup hproposal'
    obtain ⟨cindexes, electorate, hrange, hholds⟩ := hinv.electorates id proposal hproposal
    rw [hcounted, hranges]
    refine ⟨cindexes, electorate, hrange, ?_⟩
    have hstep := hholds.step hsettle hterms fun k (hk : k ∈ []) => by cases hk
    rw [List.append_nil] at hstep
    exact hstep

theorem submit (hinv : BallotInvariant chain) (hcommitments : CommitmentInvariant next)
    (hsettle : ReputationsSettle chain.runtime next.runtime)
    {proposalAction : ProposalAction AccountId} {observations : List (Observation AccountId)}
    (htrace : next.trace = chain.trace ++ observations)
    (h : Dispatch.Outcome config chain.runtime (.submitProposal proposalAction) next.runtime
      observations)
    (hcovered : ElectorateCovered config chain.runtime proposalAction) : BallotInvariant next := by
  obtain ⟨commitments, democracy, cindexes, hsubmit, hrange, hs, rfl⟩ := h.submit_inv
  obtain ⟨cindexes', purposeId, heffect⟩ := Democracy.submitProposal_spec hsubmit
  obtain rfl : cindexes' = cindexes := by
    have hsame := heffect.range
    rw [hrange] at hsame
    exact (ok_inj.1 hsame).symm
  have hstored := heffect.stored
  let id := chain.runtime.democracy.proposalCount + 1
  have hdemocracy : next.runtime.democracy = democracy := by rw [hs]
  have hcount : democracy.proposalCount = id := by rw [hstored]
  obtain ⟨hnone, hvotes, hranges⟩ := hinv.fresh id (Nat.lt_succ_self _)
  have hcounted (id' : Nat) : countedFor id' next.trace = countedFor id' chain.trace := by
    rw [htrace, countedFor_append]
    exact List.append_nil _
  have hrangesFor (id' : Nat) : rangesFor id' next.trace =
      rangesFor id' chain.trace ++ if id = id' then [cindexes'] else [] := by
    rw [htrace, rangesFor_append, hcount]
    congr 1
    by_cases hid : id = id'
    · rw [if_pos hid]
      show (Observation.rangeFor id' (.submitted id cindexes')).toList = [cindexes']
      rw [Observation.rangeFor, if_pos hid]
      rfl
    · rw [if_neg hid]
      show (Observation.rangeFor id' (.submitted id cindexes')).toList = []
      rw [Observation.rangeFor, if_neg hid]
      rfl
  have hother {id' : Nat} (hne : id' ≠ id) : rangesFor id' next.trace = rangesFor id' chain.trace := by
    rw [hrangesFor, if_neg hne.symm, List.append_nil]
  have hcommitted (k : Commitment AccountId) (hk : k ∈ commitmentsOf chain.trace) :
      k ∈ commitmentsOf next.trace := by
    rw [htrace, commitmentsOf, List.filterMap_append]
    exact List.mem_append_left _ hk
  constructor
  · exact hcommitments
  · intro id' hid'
    rw [hdemocracy, hcount] at hid'
    have hne : id' ≠ id := by omega
    obtain ⟨hnone', hvotes', hranges'⟩ := hinv.fresh id' (by omega)
    rw [hcounted, hother hne, hdemocracy, hstored, StorageMap.lookup_insert_eq, if_neg hne]
    exact ⟨hnone', hvotes', hranges'⟩
  · intro id' proposal hproposal
    rw [hdemocracy, hstored, StorageMap.lookup_insert_eq] at hproposal
    unfold TallyCounts
    rw [hcounted, hdemocracy, hstored, StorageMap.lookup_insert_eq]
    split at hproposal
    · rename_i hid
      rw [if_pos hid, hid, hvotes]
      exact ⟨⟨0, 0⟩, rfl, le_rfl, rfl⟩
    · rename_i hne
      rw [if_neg hne]
      exact hinv.tallied id' proposal hproposal
  · intro id'
    rw [hcounted]
    exact hinv.once id'
  · intro id' k hk
    rw [hcounted] at hk
    obtain ⟨purpose, hpurpose, hmem⟩ := hinv.committed id' k hk
    have hne : id' ≠ id := by
      intro hid
      rw [hid, hvotes] at hk
      cases hk
    rw [hdemocracy, hstored, StorageMap.lookup_insert_eq, if_neg hne]
    exact ⟨purpose, hpurpose, hcommitted _ hmem⟩
  · intro id' proposal hproposal
    rw [hdemocracy, hstored, StorageMap.lookup_insert_eq] at hproposal
    split at hproposal
    · rename_i hid
      rw [← Option.some.inj hproposal, hcounted, hrangesFor, hid, hranges, hvotes, if_pos rfl]
      have hholds := hcovered.electorateHolds hinv.commitments.reputations hrange
      exact ⟨cindexes', _, rfl, hholds.step hsettle rfl fun k (hk : k ∈ []) => by cases hk⟩
    · rename_i hne
      obtain ⟨cindexes, electorate, hrange', hholds⟩ := hinv.electorates id' proposal hproposal
      rw [hcounted, hother hne]
      have hstep := hholds.step hsettle rfl fun k (hk : k ∈ []) => by cases hk
      rw [List.append_nil] at hstep
      exact ⟨cindexes, electorate, hrange', hstep⟩

theorem vote (hinv : BallotInvariant chain) (hcommitments : CommitmentInvariant next)
    (hsettle : ReputationsSettle chain.runtime next.runtime)
    {sender : AccountId} {proposalId : Nat} {v : Vote} {reputations : List CommunityCeremony}
    {observations : List (Observation AccountId)}
    (htrace : next.trace = chain.trace ++ observations)
    (h : Dispatch.Outcome config chain.runtime (.vote sender proposalId v reputations) next.runtime
      observations)
    (hkept : RangeKept config chain sender proposalId reputations) : BallotInvariant next := by
  obtain ⟨commitments, democracy, counted, purposeId, hvote, hpurpose, hs, rfl⟩ := h.vote_inv
  obtain ⟨proposal, tally, purposeId', heffect⟩ := Democracy.vote_spec hvote
  obtain rfl : purposeId' = purposeId :=
    Option.some.inj (heffect.hasPurpose.symm.trans hpurpose)
  have hdemocracy : next.runtime.democracy = democracy := by rw [hs]
  have hcounted (id : Nat) : countedFor id next.trace = countedFor id chain.trace ++
      if id = proposalId then counted.map fun cc => (cc, sender) else [] := by
    rw [htrace, countedFor_append, countedFor_vote]
  have hranges (id : Nat) : rangesFor id next.trace = rangesFor id chain.trace := by
    rw [htrace, rangesFor_append, rangesFor_vote, List.append_nil]
  have hnew (cc : CommunityCeremony) (hcc : cc ∈ counted) :
      (cc, (purposeId', sender)) ∈ commitmentsOf next.trace := by
    rw [htrace, commitmentsOf, List.filterMap_append]
    apply List.mem_append_right
    have hvotes := commitmentsOf_vote proposalId purposeId' sender counted
    rw [commitmentsOf] at hvotes
    rw [hvotes]
    exact List.mem_map_of_mem hcc
  obtain ⟨ayes, hayes, htallies⟩ := heffect.tallies
  have hballots := heffect.ballots
  constructor
  · exact hcommitments
  · intro id hid
    rw [hdemocracy, hballots.proposalCount] at hid
    obtain ⟨hnone, hvotes, hrange⟩ := hinv.fresh id hid
    have hne : id ≠ proposalId := by
      intro hid'
      rw [hid', heffect.hasProposal] at hnone
      cases hnone
    rw [hcounted, hranges, if_neg hne, List.append_nil, hdemocracy]
    exact ⟨hballots.lookup_none hnone, hvotes, hrange⟩
  · intro id proposal' hproposal'
    rw [hdemocracy] at hproposal'
    obtain ⟨before, hbefore, -⟩ := hballots.lookup hproposal'
    obtain ⟨tally', htally', hle, hturnout⟩ := hinv.tallied id before hbefore
    unfold TallyCounts
    rw [hcounted, hdemocracy, htallies, StorageMap.lookup_insert_eq]
    split
    · rename_i hid
      rw [hid] at htally' hturnout ⊢
      obtain rfl : tally = tally' := Option.some.inj (heffect.hasTally.symm.trans htally')
      refine ⟨_, rfl, ?_, ?_⟩
      · show tally.ayes + ayes ≤ tally.turnout + counted.length
        omega
      · show tally.turnout + counted.length = _
        rw [List.length_append, List.length_map, hturnout]
    · rw [List.append_nil]
      exact ⟨tally', htally', hle, hturnout⟩
  · intro id
    rw [hcounted]
    split
    · rename_i hid
      apply List.Nodup.append (hinv.once id)
      · exact heffect.nodup.map fun cc cc' hcc => congrArg Prod.fst hcc
      · intro k hold hmem
        obtain ⟨cc, hcc, rfl⟩ := List.mem_map.1 hmem
        obtain ⟨purpose, hpurpose', hcommitted⟩ := hinv.committed id _ hold
        rw [hid, hpurpose] at hpurpose'
        rw [← Option.some.inj hpurpose'] at hcommitted
        exact heffect.spendsOnce.fresh _ (List.mem_map_of_mem hcc)
          (hinv.commitments.spent _ hcommitted)
    · rw [List.append_nil]
      exact hinv.once id
  · intro id k hk
    rw [hdemocracy, hballots.purposeIds]
    rw [hcounted] at hk
    rcases List.mem_append.1 hk with hold | hmem
    · obtain ⟨purpose, hpurpose', hcommitted⟩ := hinv.committed id k hold
      refine ⟨purpose, hpurpose', ?_⟩
      rw [htrace, commitmentsOf, List.filterMap_append]
      exact List.mem_append_left _ hcommitted
    · split at hmem
      · rename_i hid
        obtain ⟨cc, hcc, rfl⟩ := List.mem_map.1 hmem
        rw [hid]
        exact ⟨purposeId', hpurpose, hnew cc hcc⟩
      · cases hmem
  · intro id proposal' hproposal'
    rw [hdemocracy] at hproposal'
    obtain ⟨before, hbefore, hterms⟩ := hballots.lookup hproposal'
    obtain ⟨cindexes, electorate, hrange, hholds⟩ := hinv.electorates id before hbefore
    rw [hcounted, hranges]
    refine ⟨cindexes, electorate, hrange, hholds.step hsettle hterms ?_⟩
    intro k hk
    split at hk
    · rename_i hid
      obtain ⟨cc, hcc, rfl⟩ := List.mem_map.1 hk
      rw [hid] at hbefore hrange
      obtain rfl : proposal = before := Option.some.inj (heffect.hasProposal.symm.trans hbefore)
      obtain ⟨now, hnow, hcommitted⟩ := heffect.committed cc hcc
      have hcindex : cc.2 ∈ cindexes := by
        apply hkept proposal hbefore now (by rw [hnow]; rfl) cindexes (by rw [hrange]; simp) cc
          (heffect.sublist.subset hcc) hcommitted.verified
        exact Democracy.cindex_mem_of_isEligible hcommitted.eligible
      rw [Democracy.mem_eligibleReputations]
      refine ⟨?_, hcommitted.verified⟩
      have heligible := hcommitted.eligible
      unfold Democracy.isEligible at heligible ⊢
      rw [Bool.and_eq_true] at heligible ⊢
      exact ⟨decide_eq_true hcindex, heligible.2⟩
    · cases hk

theorem step {action : Action AccountId} (hinv : BallotInvariant chain)
    (hkeeps : KeepsElectorate config chain action) : BallotInvariant (chain.step config action) := by
  have hreputations := hinv.commitments.reputations
  have hcommitments : CommitmentInvariant (chain.step config action) :=
    hinv.commitments.step action
  have hsettle := Chain.reputationsSettle config hreputations action
  rcases Chain.step_outcome config chain action with ⟨observations, htrace, houtcome⟩ | hsame
  · cases hother : action.other with
    | true =>
        obtain ⟨hballots, hquiet⟩ := houtcome.other hreputations.ceremonies.registry hother
        exact hinv.other hcommitments hsettle htrace hballots hquiet
    | false =>
        cases action with
        | submitProposal proposalAction =>
            exact hinv.submit hcommitments hsettle htrace houtcome (hkeeps.1 proposalAction rfl)
        | vote sender proposalId v reputations =>
            exact hinv.vote hcommitments hsettle htrace houtcome
              (hkeeps.2 (sender, (proposalId, reputations)) rfl)
        | _ => cases hother
  · rw [hsame]
    exact hinv

theorem run (hinv : BallotInvariant chain) {actions : List (Action AccountId)}
    (hkeeps : Machine.Along (Chain.step config) (KeepsElectorate config) chain actions) :
    BallotInvariant (chain.run config actions) :=
  Machine.run_invariant (KeepsElectorate config) BallotInvariant (fun _ _ h hok => h.step hok) hinv
    hkeeps

end BallotInvariant

/-! ## Results -/

/-- Votes are different eligible reputations, and no more than the electorate. -/
structure TurnoutBounded (chain : Chain AccountId) (id : Nat) (proposal : Proposal AccountId)
    (tally : Tally) (cindexes : List Nat) : Prop where
  stored : chain.runtime.democracy.tallies.lookup id = some tally
  submitted : rangesFor id chain.trace = [cindexes]
  ayes : tally.ayes ≤ tally.turnout
  turnout : tally.turnout = (countedFor id chain.trace).length
  once : (countedFor id chain.trace).Nodup
  eligible : ∀ k ∈ countedFor id chain.trace,
    Democracy.isEligible cindexes proposal.action.getAccessPolicy k.1 = true
  electorate : tally.turnout ≤ proposal.electorateSize

def TurnoutsBounded (chain : Chain AccountId) : Prop :=
  ∀ id proposal, chain.runtime.democracy.proposals.lookup id = some proposal →
    ∃ tally cindexes, TurnoutBounded chain id proposal tally cindexes

/-- Turnouts are bounded in every run that submits and votes within covered electorates. -/
theorem Democracy.turnout_le_electorate (config : Config AccountId) (genesis : GenesisConfig)
    (nativeBalances : StorageMap AccountId Nat)
    (assetBalances : StorageMap (AccountId × AssetKind) Nat) (actions : List (Action AccountId))
    (hkeeps : Machine.Along (Chain.step config) (KeepsElectorate config)
      (Chain.genesis genesis nativeBalances assetBalances) actions) :
    TurnoutsBounded ((Chain.genesis genesis nativeBalances assetBalances).run config actions) := by
  have hinv := (BallotInvariant.genesis genesis nativeBalances assetBalances).run hkeeps
  generalize (Chain.genesis genesis nativeBalances assetBalances).run config actions = chain at hinv ⊢
  intro id proposal hproposal
  obtain ⟨tally, htally, hayes, hturnout⟩ := hinv.tallied id proposal hproposal
  obtain ⟨cindexes, electorate, hrange, hholds⟩ := hinv.electorates id proposal hproposal
  refine ⟨tally, cindexes, htally, hrange, hayes, hturnout, hinv.once id, ?_, ?_⟩
  · intro k hk
    exact (hholds.counted k hk).2
  · have hsubset : (countedFor id chain.trace).toFinset ⊆ electorate := by
      intro k hk
      exact (hholds.counted k (List.mem_toFinset.1 hk)).1
    have hcard := (Finset.card_le_card hsubset).trans hholds.size
    rw [List.toFinset_card_of_nodup (hinv.once id)] at hcard
    exact hturnout.trans_le hcard

/-- The first ceremony again, and later a vote of the three participants on a petition. -/
def Demo.petitionVote : List (Action Nat) :=
  firstCeremony ++ [newDay 4, newDay 5, newDay 6, newDay 7, .submitProposal (.petition none [])] ++
    [1, 2, 3].map fun account => .vote account 1 .aye [(islanders, 1), (islanders, 1)]

theorem Democracy.turnout_le_electorate_petitionVote :
    let chain := Demo.start.run Demo.runtimeConfig Demo.petitionVote
    chain.runtime.democracy.tallies.lookup 1 = some ⟨3, 3⟩ ∧ TurnoutsBounded chain :=
  ⟨by decide +kernel,
    Democracy.turnout_le_electorate Demo.runtimeConfig Demo.genesis ∅ ∅ Demo.petitionVote
      (by decide +kernel)⟩

/-- A second community is purged before the same vote, and the global count with it. -/
def Demo.petitionWithoutElectorate : List (Action Nat) :=
  oneInactive ++ [newDay 6, newDay 7, .submitProposal (.petition none [])] ++
    [1, 2, 3].map fun account => .vote account 1 .aye [(islanders, 1)]

theorem Democracy.turnout_exceeds_electorate :
    ¬ TurnoutsBounded (Demo.start.run Demo.runtimeConfig Demo.petitionWithoutElectorate) := by
  have hsize : ((Demo.start.run Demo.runtimeConfig
      Demo.petitionWithoutElectorate).runtime.democracy.proposals.lookup 1).map
        Proposal.electorateSize = some 0 := by
    decide +kernel
  have htally : (Demo.start.run Demo.runtimeConfig
      Demo.petitionWithoutElectorate).runtime.democracy.tallies.lookup 1 = some ⟨3, 3⟩ := by
    decide +kernel
  intro h
  obtain ⟨proposal, hproposal, hzero⟩ := Option.map_eq_some_iff.1 hsize
  obtain ⟨tally, cindexes, hbounded⟩ := h 1 proposal hproposal
  have hstored := hbounded.stored
  rw [htally, Option.some.injEq] at hstored
  have helectorate := hbounded.electorate
  rw [← hstored, hzero] at helectorate
  exact absurd helectorate (by decide)

end Encointer
