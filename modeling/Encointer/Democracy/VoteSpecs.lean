import Encointer.Ceremonies.ReputationCounts

/-!
# Submissions and votes

What the submission of a proposal and a vote write, and that everything else
keeps proposals, up to their states, and tallies.
-/

namespace Encointer

open Ceremonies

variable {AccountId : Type} [DecidableEq AccountId] {config : Config AccountId}
  {s s' s'' : Runtime AccountId}

namespace Democracy

/-! ## The electorate -/

def eligibleReputations (c : CeremoniesStorage AccountId) (cindexes : List Nat)
    (policy : ProposalAccessPolicy) : Finset (CommunityCeremony × AccountId) :=
  c.participantReputation.support.filter fun k =>
    isEligible cindexes policy k.1 = true ∧ (participantReputation c k.1 k.2).isVerified = true

theorem mem_eligibleReputations {c : CeremoniesStorage AccountId} {cindexes : List Nat}
    {policy : ProposalAccessPolicy} {cc : CommunityCeremony} {a : AccountId} :
    (cc, a) ∈ eligibleReputations c cindexes policy ↔
      isEligible cindexes policy cc = true ∧ a ∈ verifiedAccounts c cc := by
  rw [eligibleReputations, Finset.mem_filter, mem_verifiedAccounts]
  constructor
  · intro h
    exact h.2
  · intro h
    refine ⟨?_, h⟩
    rw [StorageMap.mem_support]
    cases hlookup : c.participantReputation.lookup (cc, a) with
    | some reputation => exact ⟨reputation, rfl⟩
    | none =>
        have hverified := h.2
        rw [participantReputation, StorageMap.get_of_lookup_none hlookup] at hverified
        cases hverified

private theorem isEligible_cons {cindex : Nat} {cindexes : List Nat} {policy : ProposalAccessPolicy}
    {cc : CommunityCeremony} : isEligible (cindex :: cindexes) policy cc = true ↔
      isEligible [cindex] policy cc = true ∨ isEligible cindexes policy cc = true := by
  simp only [isEligible, Bool.and_eq_true, decide_eq_true_eq, List.mem_cons, List.not_mem_nil,
    or_false, or_and_right]

/-- The reputations of an index of one community are counted by its reputation count. -/
theorem card_eligibleReputations_community (c : CeremoniesStorage AccountId)
    (cid : CommunityIdentifier) (cindex : Nat) :
    (eligibleReputations c [cindex] (.community cid)).card ≤
      (verifiedAccounts c (cid, cindex)).card := by
  have hsubset : eligibleReputations c [cindex] (.community cid) ⊆
      (verifiedAccounts c (cid, cindex)).image fun a => ((cid, cindex), a) := by
    intro key hkey
    obtain ⟨cc, a⟩ := key
    obtain ⟨heligible, hverified⟩ := mem_eligibleReputations.1 hkey
    simp only [isEligible, Bool.and_eq_true, decide_eq_true_eq, List.mem_singleton] at heligible
    have hcc : cc = (cid, cindex) := Prod.ext heligible.2 heligible.1
    rw [hcc] at hverified ⊢
    exact Finset.mem_image.2 ⟨a, hverified, rfl⟩
  exact (Finset.card_le_card hsubset).trans Finset.card_image_le

/-- The electorate covers the eligible reputations when the counts do, index by index. -/
theorem card_eligibleReputations_le {c : CeremoniesStorage AccountId} {cindexes : List Nat}
    {policy : ProposalAccessPolicy} {count : Nat → Nat}
    (h : ∀ cindex ∈ cindexes, (eligibleReputations c [cindex] policy).card ≤ count cindex) :
    (eligibleReputations c cindexes policy).card ≤ (cindexes.map count).sum := by
  induction cindexes with
  | nil =>
      rw [List.map_nil, List.sum_nil, Nat.le_zero, Finset.card_eq_zero]
      apply Finset.eq_empty_of_forall_notMem
      intro key hkey
      obtain ⟨cc, a⟩ := key
      have heligible := (mem_eligibleReputations.1 hkey).1
      simp [isEligible] at heligible
  | cons cindex cindexes ih =>
      have hsubset : eligibleReputations c (cindex :: cindexes) policy ⊆
          eligibleReputations c [cindex] policy ∪ eligibleReputations c cindexes policy := by
        intro key hkey
        obtain ⟨cc, a⟩ := key
        obtain ⟨heligible, hverified⟩ := mem_eligibleReputations.1 hkey
        rw [Finset.mem_union, mem_eligibleReputations, mem_eligibleReputations]
        rcases isEligible_cons.1 heligible with hfirst | hrest
        · exact Or.inl ⟨hfirst, hverified⟩
        · exact Or.inr ⟨hrest, hverified⟩
      have hfirst := h cindex List.mem_cons_self
      have hrest := ih fun i hi => h i (List.mem_cons_of_mem cindex hi)
      have hcard := (Finset.card_le_card hsubset).trans (Finset.card_union_le _ _)
      rw [List.map_cons, List.sum_cons]
      omega

/-! ## Submission -/

structure SubmitEffect (config : Config AccountId) (s : Runtime AccountId)
    (action : ProposalAction AccountId) (commitments : CommitmentsStorage AccountId)
    (democracy : DemocracyStorage AccountId) (cindexes : List Nat) (purposeId : Nat) : Prop where
  range : votingCindexes config s s.scheduler.currentCeremonyIndex = .ok cindexes
  purpose : Commitments.doRegisterPurpose s.commitments
    (proposalIdentifier (s.democracy.proposalCount + 1)) = .ok (commitments, purposeId)
  stored : democracy = { s.democracy with
    proposals := s.democracy.proposals.insert (s.democracy.proposalCount + 1)
      ⟨s.now, s.scheduler.currentCeremonyIndex, action, .ongoing,
        electorateOf s action.getAccessPolicy cindexes⟩
    purposeIds := s.democracy.purposeIds.insert (s.democracy.proposalCount + 1) purposeId
    proposalCount := s.democracy.proposalCount + 1
    tallies := s.democracy.tallies.insert (s.democracy.proposalCount + 1) ⟨0, 0⟩ }

omit [DecidableEq AccountId] in
theorem submitProposal_spec {action : ProposalAction AccountId}
    {commitments : CommitmentsStorage AccountId} {democracy : DemocracyStorage AccountId}
    (h : submitProposal config s action = .ok (commitments, democracy)) :
    ∃ cindexes purposeId,
      SubmitEffect config s action commitments democracy cindexes purposeId := by
  simp only [submitProposal, getElectorate, bind_eq_ok, ensure_eq_ok, exists_const, ok_inj,
    Prod.mk.injEq] at h
  obtain ⟨-, -, electorateSize, ⟨cindexes, hcindexes, rfl⟩, ⟨commitments', purposeId⟩, hpurpose,
    rfl, rfl⟩ := h
  exact ⟨cindexes, purposeId, hcindexes, hpurpose, rfl⟩

/-! ## Voting -/

/-- Why a reputation is counted: it is eligible, verified and not yet committed. -/
structure Committed (s : Runtime AccountId) (cindexes : List Nat) (policy : ProposalAccessPolicy)
    (purposeId : Nat) (account : AccountId) (before after : CommitmentsStorage AccountId)
    (cc : CommunityCeremony) : Prop where
  eligible : isEligible cindexes policy cc = true
  verified : account ∈ verifiedAccounts s.ceremonies cc
  unused : before.commitments.contains (cc, (purposeId, account)) = false
  used : after.commitments.contains (cc, (purposeId, account)) = true

theorem commitReputations_spec {cindexes : List Nat} {policy : ProposalAccessPolicy}
    {purposeId : Nat} {account : AccountId} {reputations counted : List CommunityCeremony}
    {commitments commitments' : CommitmentsStorage AccountId}
    (h : commitReputations s cindexes policy purposeId account reputations commitments =
      (commitments', counted)) :
    commitments'.purposes = commitments.purposes ∧
      commitments'.currentPurposeId = commitments.currentPurposeId ∧
      (∀ k, commitments.commitments.contains k = true →
        commitments'.commitments.contains k = true) ∧
      counted.Sublist reputations ∧ counted.Nodup ∧
      ∀ cc ∈ counted, Committed s cindexes policy purposeId account commitments commitments' cc := by
  induction reputations generalizing commitments counted with
  | nil =>
      cases h
      refine ⟨rfl, rfl, fun _ hk => hk, List.Sublist.refl [], List.nodup_nil, ?_⟩
      intro cc hcc
      cases hcc
  | cons cc reputations ih =>
      have hskip (h : commitReputations s cindexes policy purposeId account reputations commitments =
          (commitments', counted)) : commitments'.purposes = commitments.purposes ∧
            commitments'.currentPurposeId = commitments.currentPurposeId ∧
            (∀ k, commitments.commitments.contains k = true →
              commitments'.commitments.contains k = true) ∧
            counted.Sublist (cc :: reputations) ∧ counted.Nodup ∧
            ∀ cc ∈ counted,
              Committed s cindexes policy purposeId account commitments commitments' cc := by
        obtain ⟨hpurposes, hcurrent, hgrows, hsublist, hrest⟩ := ih h
        exact ⟨hpurposes, hcurrent, hgrows, hsublist.cons cc, hrest⟩
      unfold commitReputations at h
      split at h
      · rename_i heligible
        split at h
        · exact hskip h
        · rename_i next hcommit
          simp only at h
          generalize hgen : commitReputations s cindexes policy purposeId account reputations next =
            result at h
          obtain ⟨after, rest⟩ := result
          cases h
          obtain ⟨hpurposes, hcurrent, hgrows, hsublist, hnodup, hcommitted⟩ := ih hgen
          simp only [Commitments.doCommitReputation, bind_eq_ok, ensure_eq_ok, exists_const,
            ok_inj] at hcommit
          obtain ⟨-, hverified, hunused, rfl⟩ := hcommit
          have hinsert (k : CommunityCeremony × (Nat × AccountId))
              (hk : commitments.commitments.contains k = true) :
              StorageMap.contains (commitments.commitments.insert
                ((cc.1, cc.2), (purposeId, account)) none) k = true := by
            simp only [StorageMap.contains, StorageMap.lookup_insert_eq] at hk ⊢
            split
            · rfl
            · exact hk
          have hnew : StorageMap.contains (commitments.commitments.insert
              ((cc.1, cc.2), (purposeId, account)) none) (cc, (purposeId, account)) = true := by
            simp [StorageMap.contains, StorageMap.lookup_insert_eq]
          refine ⟨hpurposes, hcurrent, fun k hk => hgrows k (hinsert k hk), hsublist.cons_cons cc, ?_,
            ?_⟩
          · rw [List.nodup_cons]
            refine ⟨?_, hnodup⟩
            intro hmem
            have hagain := (hcommitted cc hmem).unused
            rw [hnew] at hagain
            cases hagain
          · intro cc' hmem
            rcases List.mem_cons.1 hmem with rfl | hmem
            · exact ⟨heligible, mem_verifiedAccounts.2 hverified, hunused, hgrows _ hnew⟩
            · have hlater := hcommitted cc' hmem
              refine ⟨hlater.eligible, hlater.verified, ?_, hlater.used⟩
              by_contra hused
              have hstill := hinsert _ (Bool.not_eq_false _ ▸ hused)
              exact absurd (hstill.symm.trans hlater.unused) (by simp)
      · exact hskip h

/-- What a vote writes, and which reputations it counts. -/
structure VoteEffect (config : Config AccountId) (s : Runtime AccountId) (proposalId : Nat)
    (sender : AccountId) (reputations counted : List CommunityCeremony)
    (commitments : CommitmentsStorage AccountId) (democracy : DemocracyStorage AccountId)
    (proposal : Proposal AccountId) (tally : Tally) (purposeId : Nat) : Prop where
  hasProposal : s.democracy.proposals.lookup proposalId = some proposal
  hasPurpose : s.democracy.purposeIds.lookup proposalId = some purposeId
  hasTally : s.democracy.tallies.lookup proposalId = some tally
  ballots : SameBallots { s.democracy with tallies := democracy.tallies } democracy
  tallies : ∃ ayes ≤ counted.length, democracy.tallies = s.democracy.tallies.insert proposalId
    ⟨tally.turnout + counted.length, tally.ayes + ayes⟩
  purposes : commitments.purposes = s.commitments.purposes
  currentPurposeId : commitments.currentPurposeId = s.commitments.currentPurposeId
  grows : ∀ k, s.commitments.commitments.contains k = true →
    commitments.commitments.contains k = true
  sublist : counted.Sublist reputations
  nodup : counted.Nodup
  committed : ∀ cc ∈ counted, ∃ cindexes,
    votingCindexes config s proposal.startCindex = .ok cindexes ∧
      Committed s cindexes proposal.action.getAccessPolicy purposeId sender s.commitments
        commitments cc

theorem vote_spec {sender : AccountId} {proposalId : Nat} {v : Vote}
    {reputations counted : List CommunityCeremony} {commitments : CommitmentsStorage AccountId}
    {democracy : DemocracyStorage AccountId}
    (h : vote config s sender proposalId v reputations = .ok (commitments, democracy, counted)) :
    ∃ proposal tally purposeId, VoteEffect config s proposalId sender reputations counted
      commitments democracy proposal tally purposeId := by
  simp only [vote, validateAndCommitReputations, bind_eq_ok, okOr_eq_ok, ensure_eq_ok,
    exists_const, ok_inj, Prod.mk.injEq] at h
  obtain ⟨-, tally, htally, updated, hupdate, ⟨commitments', counted'⟩,
    ⟨proposal', hproposal', purposeId, hpurposeId, hcommit⟩, -, democracy', hupdate', rfl, rfl,
    rfl⟩ := h
  have hupdated := doUpdateProposalState_sameBallots hupdate
  have hafter := doUpdateProposalState_sameBallots hupdate'
  -- the update of the state kept the terms of the proposal
  have hterms := hupdated.terms proposalId
  rw [hproposal'] at hterms
  obtain ⟨proposal, hproposal, hsame⟩ := Option.map_eq_some_iff.1 hterms.symm
  have hstart : proposal'.startCindex = proposal.startCindex :=
    (congrArg Proposal.startCindex hsame).symm
  have haction : proposal'.action = proposal.action := (congrArg Proposal.action hsame).symm
  rw [hupdated.purposeIds] at hpurposeId
  have hballots : SameBallots { s.democracy with tallies := democracy'.tallies } democracy' := by
    constructor
    · exact hafter.purposeIds.trans hupdated.purposeIds
    · exact hafter.proposalCount.trans hupdated.proposalCount
    · rfl
    · intro id
      exact (hafter.terms id).trans (hupdated.terms id)
  have htallies : ∃ ayes ≤ counted'.length, democracy'.tallies =
      s.democracy.tallies.insert proposalId
        ⟨tally.turnout + counted'.length, tally.ayes + ayes⟩ := by
    refine ⟨_, ?_, hafter.tallies.trans (by rw [hupdated.tallies])⟩
    cases v
    · exact le_rfl
    · exact Nat.zero_le _
  refine ⟨proposal, tally, purposeId, ?_⟩
  split at hcommit
  · rw [ok_inj] at hcommit
    cases hcommit
    exact ⟨hproposal, hpurposeId, htally, hballots, htallies, rfl, rfl, fun _ hk => hk,
      List.nil_sublist reputations, List.nodup_nil, by simp⟩
  · simp only [bind_eq_ok, ok_inj] at hcommit
    obtain ⟨cindexes, hcindexes, hcommit⟩ := hcommit
    obtain ⟨hpurposes, hcurrent, hgrows, hsublist, hnodup, hcommitted⟩ :=
      commitReputations_spec hcommit
    refine ⟨hproposal, hpurposeId, htally, hballots, htallies, hpurposes, hcurrent, hgrows, hsublist,
      hnodup, ?_⟩
    intro cc hmem
    have hcc := hcommitted cc hmem
    rw [haction] at hcc
    rw [hstart] at hcindexes
    exact ⟨cindexes, hcindexes, hcc.eligible, hcc.verified, hcc.unused, hcc.used⟩

end Democracy

/-! ## Everything else -/

def Effect.ballot : Effect AccountId → Bool
  | .submit .. | .vote .. => true
  | _ => false

theorem Change.sameBallots {effects : List (Effect AccountId)} (h : Change config s effects s')
    (hother : ∀ e ∈ effects, e.ballot = false) : SameBallots s.democracy s'.democracy := by
  cases h with
  | update proposalId democracy updated => exact Democracy.doUpdateProposalState_sameBallots updated
  | enact proposalId proposal found => exact Democracy.setProposalState_sameBallots found .enacted
  | drain => exact ⟨rfl, rfl, rfl, fun _ => rfl⟩
  | submit => exact absurd (hother _ List.mem_cons_self) (by simp [Effect.ballot])
  | vote => exact absurd (hother _ List.mem_cons_self) (by simp [Effect.ballot])
  | _ => exact SameBallots.refl s.democracy

theorem Changes.sameBallots {effects : List (Effect AccountId)} (h : Changes config s effects s')
    (hother : ∀ e ∈ effects, e.ballot = false) : SameBallots s.democracy s'.democracy := by
  induction h with
  | refl => exact SameBallots.refl s.democracy
  | tail hbefore hchange ih =>
      have hsame := ih fun e he => hother e (List.mem_append_left _ he)
      exact hsame.trans (hchange.sameBallots fun e he => hother e (List.mem_append_right _ he))

end Encointer
