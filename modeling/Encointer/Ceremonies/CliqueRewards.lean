import Encointer.Balances.Specs
import Encointer.Ceremonies.Ballots
import Encointer.MeetupValidation.CliqueJudgement

/-!
# The rewards of a majority clique

A majority of a meetup that attest each other get their rewards and their reputation, and
nobody else of the meetup does. This holds of what they submitted at last, whatever was
called in between and by whom, and whoever claims the rewards.
-/

namespace Encointer

open Ceremonies Dispatch MeetupValidation

variable {AccountId : Type} [DecidableEq AccountId] {config : Config AccountId}
  {s : Runtime AccountId} {cid : CommunityIdentifier} {cc : CommunityCeremony}
  {members : List AccountId} {clique : Finset AccountId}

/-! ## Paying the income -/

namespace Balances

variable {blockNumber reward : Nat} {b b' b'' : BalancesStorage AccountId} {paid : List AccountId}

structure Paid (config : Config AccountId) (blockNumber : Nat) (cid : CommunityIdentifier)
    (reward : Nat) (b b' : BalancesStorage AccountId) (paid : List AccountId) : Prop where
  totalIssuance : ∀ cid', totalIssuance config blockNumber b' cid' =
    totalIssuance config blockNumber b cid' + if cid' = cid then paid.length * reward else 0
  balance : ∀ a, balance config blockNumber b' cid a =
    if a ∈ paid then (balance config blockNumber b cid a + reward) % 2 ^ 128
    else balance config blockNumber b cid a
  other : ∀ cid' a, cid' ≠ cid →
    Balances.balance config blockNumber b' cid' a = Balances.balance config blockNumber b cid' a

theorem Paid.nobody : Paid config blockNumber cid reward b b [] where
  totalIssuance := by simp
  balance := by simp
  other := fun _ _ _ => rfl

theorem Paid.cons {a : AccountId} (h : Paid config blockNumber cid reward b b' [a])
    (h' : Paid config blockNumber cid reward b' b'' paid) (ha : a ∉ paid) :
    Paid config blockNumber cid reward b b'' (a :: paid) where
  totalIssuance := by
    intro cid'
    rw [h'.totalIssuance, h.totalIssuance, List.length_singleton, List.length_cons]
    by_cases hcid : cid' = cid
    · rw [if_pos hcid, if_pos hcid, if_pos hcid]
      ring
    · rw [if_neg hcid, if_neg hcid, if_neg hcid]
  balance := by
    intro x
    rw [h'.balance, h.balance]
    by_cases hx : x = a
    · simp [hx, ha]
    · simp [hx]
  other := fun cid' x hcid => (h'.other cid' x hcid).trans (h.other cid' x hcid)

private theorem issue_pays {a : AccountId}
    (hfits : totalIssuance config blockNumber b cid + reward < 2 ^ 128) :
    ∃ b', issue config blockNumber b cid a reward = (b', .ok ()) ∧
      Paid config blockNumber cid reward b b' [a] := by
  rw [issue_eq, if_neg (Nat.not_le_of_lt hfits)]
  refine ⟨_, rfl, ?_, ?_, ?_⟩
  · intro cid'
    by_cases hcid : cid' = cid
    · rw [if_pos hcid, hcid, List.length_singleton, Nat.one_mul]
      exact totalIssuance_of_lookup (by simp [StorageMap.lookup_insert_eq])
    · rw [if_neg hcid]
      exact totalIssuance_congr (by simp) (by simp [StorageMap.lookup_insert_eq, hcid])
  · intro x
    by_cases hx : x = a
    · rw [if_pos (List.mem_singleton.2 hx), hx]
      exact balance_of_lookup (by simp [StorageMap.lookup_insert_eq])
    · rw [if_neg (fun hmem => hx (List.mem_singleton.1 hmem))]
      exact balance_congr (by simp) (by simp [StorageMap.lookup_insert_eq, hx])
  · intro cid' x hcid
    exact balance_congr (by simp) (by simp [StorageMap.lookup_insert_eq, hcid])

end Balances

namespace Ceremonies

/-- The loop over the rewards credits everybody that it names. -/
theorem rewardLoop_pays (config : Config AccountId) (s : Runtime AccountId)
    (cc : CommunityCeremony) {reward : Nat} {indices : List Nat} (payout : Payout AccountId)
    (hlt : ∀ i ∈ indices, i < members.length)
    (hnodup : (indices.filterMap fun i => members[i]?).Nodup)
    (hfits : Balances.totalIssuance config s.blockNumber payout.balances cc.1 +
      indices.length * reward < 2 ^ 128) :
    ∃ payout', indices.foldlM (rewardParticipant config s cc reward members) payout =
        .ok payout' ∧
      payout'.credited = payout.credited ++ indices.filterMap (fun i => members[i]?) ∧
      Balances.Paid config s.blockNumber cc.1 reward payout.balances payout'.balances
        (indices.filterMap fun i => members[i]?) := by
  induction indices generalizing payout with
  | nil => exact ⟨payout, rfl, by simp, .nobody⟩
  | cons i indices ih =>
      obtain ⟨a, ha⟩ : ∃ a, members[i]? = some a :=
        ⟨_, List.getElem?_eq_getElem (hlt i List.mem_cons_self)⟩
      have hcons : (i :: indices).filterMap (fun i => members[i]?) =
          a :: indices.filterMap fun i => members[i]? := by
        rw [List.filterMap_cons, ha]
      rw [hcons, List.nodup_cons] at hnodup
      rw [List.length_cons, Nat.succ_mul] at hfits
      have hnow : Balances.totalIssuance config s.blockNumber payout.balances cc.1 + reward <
          2 ^ 128 := by omega
      obtain ⟨balances, hissue, hpaid⟩ := Balances.issue_pays (a := a) hnow
      have htotal := hpaid.totalIssuance cc.1
      rw [if_pos rfl, List.length_singleton, Nat.one_mul] at htotal
      let next : Payout AccountId :=
        ⟨balances, payout.participantReputation.insert (cc, a) .verifiedUnlinked,
          payout.credited ++ [a]⟩
      have hstep : rewardParticipant config s cc reward members payout i = .ok next := by
        simp only [rewardParticipant, ha, okOr, bind, Except.bind, hissue]
        rfl
      have hrestFits : Balances.totalIssuance config s.blockNumber next.balances cc.1 +
          indices.length * reward < 2 ^ 128 := by
        show Balances.totalIssuance config s.blockNumber balances cc.1 + _ < _
        omega
      obtain ⟨payout', hloop, hcredited, hrest⟩ :=
        ih next (fun j hj => hlt j (List.mem_cons_of_mem i hj)) hnodup.2 hrestFits
      refine ⟨payout', ?_, ?_, ?_⟩
      · rw [List.foldlM_cons, hstep]
        exact hloop
      · rw [hcredited, hcons, List.append_assoc, List.singleton_append]
      · rw [hcons]
        exact hpaid.cons hrest hnodup.1

/-! ## What the clique submitted -/

/-- More than half of the members, at least three, submitted their number and named each other;
the others submitted whatever they wanted. -/
structure AttestEachOther (members : List AccountId) (clique : Finset AccountId)
    (submissions : AccountId → Option (Submission AccountId)) : Prop where
  subset : ∀ a ∈ clique, a ∈ members
  three_le : 3 ≤ clique.card
  majority : members.length < 2 * clique.card
  vote_eq : ∀ a ∈ clique, voteOf (submissions a) = clique.card
  nodup : ∀ a ∈ clique, (membersNamed members a (submissions a)).Nodup
  mem_iff : ∀ a ∈ clique, ∀ b, b ∈ membersNamed members a (submissions a) ↔ b ∈ clique ∧ b ≠ a

def cliqueIndices (members : List AccountId) (clique : Finset AccountId) : Finset Nat :=
  (Finset.range members.length).filter fun i => ∃ a ∈ clique, members[i]? = some a

theorem mem_cliqueIndices {i : Nat} :
    i ∈ cliqueIndices members clique ↔ ∃ a ∈ clique, members[i]? = some a := by
  rw [cliqueIndices, Finset.mem_filter, Finset.mem_range]
  constructor
  · exact And.right
  · rintro ⟨a, ha, hi⟩
    exact ⟨(List.getElem?_eq_some_iff.1 hi).1, a, ha, hi⟩

theorem card_cliqueIndices (hnodup : members.Nodup) (hsub : ∀ a ∈ clique, a ∈ members) :
    (cliqueIndices members clique).card = clique.card := by
  have hlt (i : Nat) (hi : i ∈ cliqueIndices members clique) : i < members.length := by
    obtain ⟨a, -, ha⟩ := mem_cliqueIndices.1 hi
    exact (List.getElem?_eq_some_iff.1 ha).1
  apply Finset.card_bij fun i hi => members.get ⟨i, hlt i hi⟩
  · intro i hi
    obtain ⟨a, ha, hget⟩ := mem_cliqueIndices.1 hi
    obtain ⟨hi', heq⟩ := List.getElem?_eq_some_iff.1 hget
    rw [List.get_eq_getElem, heq]
    exact ha
  · intro i hi j hj heq
    exact (hnodup.getElem_inj_iff).1 heq
  · intro a ha
    obtain ⟨i, hi, rfl⟩ := List.mem_iff_getElem.1 (hsub a ha)
    exact ⟨i, mem_cliqueIndices.2 ⟨_, ha, List.getElem?_eq_getElem hi⟩, rfl⟩

/-- Their ballots make them a majority clique. -/
theorem AttestEachOther.majorityClique {c : CeremoniesStorage AccountId}
    {submissions : AccountId → Option (Submission AccountId)}
    (h : AttestEachOther members clique submissions) (hnodup : members.Nodup) {ballots : Ballots}
    (hvotes : ballots.votes = (gatherMeetupValidationData c cc members).1)
    (hattestations : ballots.attestations = (gatherMeetupValidationData c cc members).2)
    (hlength : ballots.numParticipants = members.length)
    (hgathers : ∀ i a, members[i]? = some a →
      GathersSubmission c cc members i a (submissions a)) :
    MajorityClique ballots (cliqueIndices members clique) := by
  have hcard := card_cliqueIndices hnodup h.subset
  have hlt : ∀ i ∈ cliqueIndices members clique, i < ballots.attestations.length := by
    intro i hi
    obtain ⟨a, -, ha⟩ := mem_cliqueIndices.1 hi
    have hi' := (List.getElem?_eq_some_iff.1 ha).1
    rw [← hlength] at hi'
    rw [ballots.length_eq]
    exact hi'
  -- the row of a member of the clique, as positions
  have hrow : ∀ i ∈ cliqueIndices members clique, ∃ a row, a ∈ clique ∧ members[i]? = some a ∧
      ballots.attestations.getD i [] = row ∧
      (row.map fun j => members[j]?).Perm
        ((membersNamed members a (submissions a)).map some) := by
    intro i hi
    obtain ⟨a, ha, hget⟩ := mem_cliqueIndices.1 hi
    obtain ⟨row, -, hrow, hperm⟩ := hgathers i a hget
    refine ⟨a, row, ha, hget, ?_, hperm⟩
    rw [List.getD_eq_getElem?_getD, hattestations, hrow]
    rfl
  refine ⟨hcard ▸ h.three_le, ?_, ?_, hlt, ?_, ?_⟩
  · rw [hcard, hlength]
    exact h.majority
  · intro i hi
    obtain ⟨a, ha, hget⟩ := mem_cliqueIndices.1 hi
    obtain ⟨row, hvote, -, -⟩ := hgathers i a hget
    rw [hvotes, hvote, h.vote_eq a ha, hcard]
  · intro i hi
    obtain ⟨a, row, ha, -, hget, hperm⟩ := hrow i hi
    rw [hget]
    have hmap : ((membersNamed members a (submissions a)).map some).Nodup :=
      (h.nodup a ha).map (Option.some_injective _)
    exact List.Nodup.of_map _ (hperm.nodup_iff.2 hmap)
  · intro i hi j
    obtain ⟨a, row, ha, hi', hget, hperm⟩ := hrow i hi
    rw [hget, mem_cliqueIndices]
    constructor
    · intro hj
      have hmem := hperm.mem_iff.1 (List.mem_map_of_mem hj)
      obtain ⟨b, hb, hbj⟩ := List.mem_map.1 hmem
      obtain ⟨hclique, hne⟩ := (h.mem_iff a ha b).1 hb
      refine ⟨⟨b, hclique, hbj.symm⟩, ?_⟩
      intro hij
      rw [hij, hi', Option.some.injEq] at hbj
      exact hne hbj
    · rintro ⟨⟨b, hb, hbj⟩, hne⟩
      have hba : b ≠ a := by
        intro heq
        rw [heq, ← hi'] at hbj
        have hj := (List.getElem?_eq_some_iff.1 (hbj.trans hi')).1
        exact hne ((List.getElem?_inj hj hnodup).1 hbj)
      have hmem := hperm.mem_iff.2 (List.mem_map_of_mem ((h.mem_iff a ha b).2 ⟨hb, hba⟩))
      obtain ⟨j', hj', hjb⟩ := List.mem_map.1 hmem
      have hlt' := (List.getElem?_eq_some_iff.1 hbj).1
      have hsame : j = j' := (List.getElem?_inj hlt' hnodup).1 (hbj.trans hjb.symm)
      exact hsame ▸ hj'

theorem lastSubmissions_vote_lt (config : Config AccountId) (chain : Chain AccountId)
    (actions : List (Action AccountId)) :
    ∀ cc a submission, lastSubmissions config chain actions cc a = some submission →
      submission.vote < 2 ^ 32 := by
  apply Machine.note_invariant_of_step (recordSubmission config)
    fun _ submissions => ∀ cc a (submission : Submission AccountId),
      submissions cc a = some submission → submission.vote < 2 ^ 32
  · intro chain action submissions h
    cases action with
    | attestAttendees sender cid vote attestations =>
        cases hcall : attestAttendees config chain.runtime sender cid vote attestations with
        | error e =>
            rw [(step_attestAttendees_failed submissions hcall).2]
            exact h
        | ok c =>
            rw [(step_attestAttendees submissions hcall).2]
            have hvote : vote < 2 ^ 32 := by
              simp only [attestAttendees, bind_eq_ok, ensure_eq_ok, exists_const] at hcall
              exact hcall.1.1
            intro cc a submission hsubmission
            by_cases hcc : cc = (cid, chain.runtime.scheduler.currentCeremonyIndex)
            · rw [hcc, Function.update_self] at hsubmission
              by_cases ha : a = sender
              · rw [ha, Function.update_self, Option.some.injEq] at hsubmission
                rw [← hsubmission]
                exact hvote
              · rw [Function.update_of_ne ha] at hsubmission
                exact h _ a submission hsubmission
            · rw [Function.update_of_ne hcc] at hsubmission
              exact h cc a submission hsubmission
    | _ => exact h
  · intro cc a submission h
    cases h

/-! ## The claim -/

/-- A claim that finds judgements pays the legit participants. -/
theorem claimRewards_pays (config : Config AccountId) (sender : AccountId) {cindex k : Nat}
    {judgements : ParticipantJudgements} (hcindex : claimCindex s = .ok cindex)
    (hopen : s.ceremonies.issuedRewards.contains ((cid, cindex), k) = false)
    (hmembers : getMeetupParticipants s.ceremonies (cid, cindex) k = .ok members)
    (hjudge : judgeMeetup s (cid, cindex) members = .ok judgements)
    (hearly : s.scheduler.currentPhase = .attesting → judgements.earlyRewardsPossible = true)
    (hexcluded : ∀ p ∈ judgements.excluded, p.index < members.length)
    (hlegit : ∀ i ∈ judgements.legit, i < members.length)
    (hnodup : (judgements.legit.filterMap fun i => members[i]?).Nodup)
    (hfits : Balances.totalIssuance config s.blockNumber s.balances cid +
      judgements.legit.length * nominalIncome s cid < 2 ^ 128) :
    ∃ claim, claimRewards config s sender cid (some k) = .ok claim ∧
      claim.cc = (cid, cindex) ∧ claim.meetupIndex = k ∧
      claim.credited = judgements.legit.filterMap (fun i => members[i]?) ∧
      Balances.Paid config s.blockNumber cid (nominalIncome s cid) s.balances claim.balances
        claim.credited := by
  obtain ⟨payout, hloop, hcredited, hpaid⟩ := rewardLoop_pays config s (cid, cindex)
    ⟨s.balances, s.ceremonies.participantReputation, []⟩ hlegit hnodup hfits
  rw [List.nil_append] at hcredited
  have hclaim : ∃ c, claimRewards config s sender cid (some k) =
      .ok ⟨c, payout.balances, (cid, cindex), k, payout.credited⟩ := by
    unfold claimRewards
    simp only [hcindex, meetupIndexOrOwn, hopen, hmembers, hjudge, issueRewards, hloop, ensure,
      if_pos hexcluded, if_pos hearly, bind, Except.bind]
    exact ⟨_, rfl⟩
  obtain ⟨c, hclaim⟩ := hclaim
  refine ⟨_, hclaim, rfl, rfl, hcredited, ?_⟩
  rw [← hcredited] at hpaid
  exact hpaid

theorem length_filter_cliqueIndices (members : List AccountId) (clique : Finset AccountId) :
    ((List.range members.length).filter (· ∈ cliqueIndices members clique)).length =
      (cliqueIndices members clique).card := by
  rw [← List.toFinset_card_of_nodup (List.nodup_range.filter _)]
  congr 1
  ext i
  rw [List.mem_toFinset, List.mem_filter, decide_eq_true_iff, List.mem_range]
  constructor
  · exact And.right
  · intro hi
    obtain ⟨a, -, ha⟩ := mem_cliqueIndices.1 hi
    exact ⟨(List.getElem?_eq_some_iff.1 ha).1, hi⟩

theorem mem_credited_iff {a : AccountId} :
    a ∈ ((List.range members.length).filter (· ∈ cliqueIndices members clique)).filterMap
        (fun i => members[i]?) ↔ a ∈ clique ∧ a ∈ members := by
  rw [List.mem_filterMap]
  constructor
  · rintro ⟨i, hi, ha⟩
    obtain ⟨b, hb, hget⟩ := mem_cliqueIndices.1 (of_decide_eq_true (List.mem_filter.1 hi).2)
    rw [hget, Option.some.injEq] at ha
    rw [← ha]
    exact ⟨hb, List.mem_of_getElem? hget⟩
  · rintro ⟨ha, hmem⟩
    obtain ⟨i, hi, rfl⟩ := List.mem_iff_getElem.1 hmem
    have hget := List.getElem?_eq_getElem hi
    exact ⟨i, List.mem_filter.2 ⟨List.mem_range.2 hi,
      decide_eq_true (mem_cliqueIndices.2 ⟨_, ha, hget⟩)⟩, hget⟩

/-- The clique has its income and its reputation, and nothing has changed for all others, in other
ceremonies and in other communities. -/
structure CliqueRewarded (config : Config AccountId) (s s' : Runtime AccountId)
    (cc : CommunityCeremony) (k : Nat) (clique : Finset AccountId) : Prop where
  reputation : ∀ cc' a, s'.ceremonies.participantReputation.lookup (cc', a) =
    if cc' = cc ∧ a ∈ clique then some .verifiedUnlinked
    else s.ceremonies.participantReputation.lookup (cc', a)
  income : ∀ cid a, Balances.balance config s.blockNumber s'.balances cid a =
    Balances.balance config s.blockNumber s.balances cid a +
      if cid = cc.1 ∧ a ∈ clique then nominalIncome s cc.1 else 0
  totalIssuance : ∀ cid, Balances.totalIssuance config s.blockNumber s'.balances cid =
    Balances.totalIssuance config s.blockNumber s.balances cid +
      if cid = cc.1 then clique.card * nominalIncome s cc.1 else 0
  counted : ∀ cc', s'.ceremonies.reputationCount.get cc' 0 =
    s.ceremonies.reputationCount.get cc' 0 + if cc' = cc then clique.card else 0
  issued : s'.ceremonies.issuedRewards.contains (cc, k) = true

theorem AttestEachOther.rewarded {submissions : AccountId → Option (Submission AccountId)}
    {chain : Chain AccountId} {sender : AccountId} {k cindex : Nat}
    (h : AttestEachOther members clique submissions) (hnodup : members.Nodup)
    (hlength : members.length < 2 ^ 31)
    (hvotes : ∀ a submission, submissions a = some submission → submission.vote < 2 ^ 32)
    (hgathers : ∀ i a, members[i]? = some a →
      GathersSubmission chain.runtime.ceremonies (cid, cindex) members i a (submissions a))
    (hcindex : claimCindex chain.runtime = .ok cindex)
    (hopen : chain.runtime.ceremonies.issuedRewards.contains ((cid, cindex), k) = false)
    (hmembers : getMeetupParticipants chain.runtime.ceremonies (cid, cindex) k = .ok members)
    (hall : chain.runtime.scheduler.currentPhase = .attesting → ∀ a ∈ members, a ∈ clique)
    (hfits : Balances.totalIssuance config chain.runtime.blockNumber chain.runtime.balances cid +
      clique.card * nominalIncome chain.runtime cid < 2 ^ 128)
    (hbalances : ∀ a ∈ clique,
      Balances.balance config chain.runtime.blockNumber chain.runtime.balances cid a +
        nominalIncome chain.runtime cid < 2 ^ 128) :
    CliqueRewarded config chain.runtime
      (chain.step config (.claimRewards sender cid (some k))).runtime (cid, cindex) k clique := by
  let gathered := gatherMeetupValidationData chain.runtime.ceremonies (cid, cindex) members
  have hvoted : gathered.1.length = members.length := List.length_map _
  have hrows : gathered.2.length = members.length := List.length_map _
  let ballots : Ballots := {
    votes := gathered.1
    attestations := gathered.2
    length_eq := hrows.trans hvoted.symm
    votes_lt := by
      intro vote hvote
      obtain ⟨i, hi, rfl⟩ := List.mem_iff_getElem.1 hvote
      have hi' : i < members.length := hvoted ▸ hi
      obtain ⟨row, hget, -, -⟩ := hgathers i _ (List.getElem?_eq_getElem hi')
      rw [List.getElem?_eq_getElem hi, Option.some.injEq] at hget
      rw [hget, voteOf]
      cases hsubmission : submissions members[i] with
      | none => exact Nat.two_pow_pos 32
      | some submission => exact hvotes _ submission hsubmission
    length_lt := hvoted ▸ hlength }
  have hclique : MajorityClique ballots (cliqueIndices members clique) :=
    h.majorityClique hnodup rfl rfl hvoted hgathers
  obtain ⟨judgements, hok, hlegit⟩ := hclique.judgements_ok
  have hnum : ballots.numParticipants = members.length := hvoted
  rw [hnum] at hlegit
  have hjudge : judgeMeetup chain.runtime (cid, cindex) members = .ok judgements := by
    rw [← hok, Ballots.judgements, hnum]
    rfl
  have hlt : ∀ i ∈ judgements.legit, i < members.length := by
    intro i hi
    rw [hlegit] at hi
    exact List.mem_range.1 (List.mem_of_mem_filter hi)
  have hcard : judgements.legit.length = clique.card := by
    rw [hlegit, length_filter_cliqueIndices, card_cliqueIndices hnodup h.subset]
  have hsublist : (judgements.legit.filterMap fun i => members[i]?).Sublist members := by
    rw [hlegit]
    exact Loop.filterMap_getElem_sublist List.filter_sublist
  have hcreditedNodup := hnodup.sublist hsublist
  have hearly (hphase : chain.runtime.scheduler.currentPhase = .attesting) :
      judgements.earlyRewardsPossible = true := by
    apply hclique.early_of_all ?_ hok
    intro i hi
    have hi' : i < members.length := hnum ▸ hi
    exact mem_cliqueIndices.2 ⟨_, hall hphase _ (List.getElem_mem hi'),
      List.getElem?_eq_getElem hi'⟩
  obtain ⟨claim, hclaim, hcc, hk, hcredited, hpaid⟩ := claimRewards_pays config sender
    hcindex hopen hmembers hjudge hearly
    (fun p hp => hnum ▸ Ballots.excluded_lt hok p hp) hlt hcreditedNodup (by rw [hcard]; exact hfits)
  have hmem (a : AccountId) : a ∈ claim.credited ↔ a ∈ clique := by
    rw [hcredited, hlegit, mem_credited_iff]
    exact ⟨And.left, fun ha => ⟨ha, h.subset a ha⟩⟩
  have hlengthCredited : claim.credited.length = clique.card := by
    rw [← List.toFinset_card_of_nodup (hcredited ▸ hcreditedNodup)]
    congr 1
    ext a
    rw [List.mem_toFinset, hmem]
  obtain ⟨-, participants, heffect⟩ := claimRewards_spec hclaim
  have hstep : (chain.step config (.claimRewards sender cid (some k))).runtime =
      { chain.runtime with ceremonies := claim.ceremonies, balances := claim.balances } := by
    simp only [Chain.step, dispatch, hclaim, bind, Except.bind]
  rw [hstep]
  constructor
  · intro cc' a
    have hlookup := heffect.participantReputation (cc', a)
    simp only [hcc, hmem] at hlookup
    exact hlookup
  · intro cid' a
    by_cases hcid : cid' = cid
    · subst hcid
      have hbalance := hpaid.balance a
      by_cases ha : a ∈ clique
      · rw [if_pos ((hmem a).2 ha), Nat.mod_eq_of_lt (hbalances a ha)] at hbalance
        rw [if_pos ⟨rfl, ha⟩]
        exact hbalance
      · rw [if_neg (fun hcredit => ha ((hmem a).1 hcredit))] at hbalance
        rw [if_neg (fun hand => ha hand.2)]
        exact hbalance
    · rw [if_neg (fun hand => hcid hand.1)]
      exact hpaid.other cid' a hcid
  · rw [← hlengthCredited]
    exact hpaid.totalIssuance
  · intro cc'
    have hcount := heffect.reputationCount cc'
    rw [hcc, hlengthCredited] at hcount
    exact hcount
  · obtain ⟨result, hissued⟩ := heffect.issuedRewards
    rw [hcc, hk] at hissued
    show claim.ceremonies.issuedRewards.contains ((cid, cindex), k) = true
    rw [hissued]
    exact StorageMap.contains_eq_true.2 ⟨result, by simp [StorageMap.lookup_insert_eq]⟩

/-- In every run, a majority of a meetup that submitted their number and named each other at last
is rewarded by the claim, whoever makes it, and nobody else is. -/
theorem majority_clique_rewarded (config : Config AccountId) (genesis : GenesisConfig)
    (nativeBalances : StorageMap AccountId Nat)
    (assetBalances : StorageMap (AccountId × AssetKind) Nat) (actions : List (Action AccountId))
    (cid : CommunityIdentifier) (k cindex : Nat) (members : List AccountId)
    (clique : Finset AccountId) (sender : AccountId) :
    let start := Chain.genesis genesis nativeBalances assetBalances
    let chain := start.run config actions
    let s := chain.runtime
    claimCindex s = .ok cindex → RegisteredCountsBelow s.ceremonies (cid, cindex) →
    getMeetupParticipants s.ceremonies (cid, cindex) k = .ok members → members.length < 2 ^ 31 →
    s.ceremonies.issuedRewards.contains ((cid, cindex), k) = false →
    AttestEachOther members clique (lastSubmissions config start actions (cid, cindex)) →
    (s.scheduler.currentPhase = .attesting → ∀ a ∈ members, a ∈ clique) →
    Balances.totalIssuance config s.blockNumber s.balances cid +
      clique.card * nominalIncome s cid < 2 ^ 128 →
    (∀ a ∈ clique, Balances.balance config s.blockNumber s.balances cid a + nominalIncome s cid <
      2 ^ 128) →
    CliqueRewarded config s (chain.step config (.claimRewards sender cid (some k))).runtime
      (cid, cindex) k clique := by
  intro start chain s hcindex hbelow hmembers hlength hopen hclique hall hfits hbalances
  obtain ⟨hceremonies, hrecorded⟩ := ballots_run config genesis nativeBalances assetBalances actions
  have hagree := hceremonies.meetupsAgree hbelow
  have hnodup := hagree.nodup k members hmembers
  apply hclique.rewarded hnodup hlength (lastSubmissions_vote_lt config start actions (cid, cindex))
    ?_ hcindex hopen hmembers hall hfits hbalances
  intro i a hi
  have hk := (hagree.mem_iff k members hmembers a).1 (List.mem_of_getElem? hi)
  obtain ⟨ballots, hholds, hballots⟩ := (hrecorded (cid, cindex)).held
  rcases hballots with rfl | ⟨-, hzero⟩
  · exact BallotsRecorded.gathered hholds hmembers hi hk
  · obtain ⟨hpos, hle⟩ := hagree.bounds a k hk
    exact absurd hzero (Nat.ne_of_gt (hpos.trans hle))

/-- The three islanders met and attested each other: the claim pays them during the meetup. -/
theorem majority_clique_rewarded_islanders :
    let start := Chain.genesis Demo.genesis ∅ ∅
    let chain := start.run Demo.runtimeConfig Demo.firstCeremony.dropLast
    CliqueRewarded Demo.runtimeConfig chain.runtime
      (chain.step Demo.runtimeConfig (.claimRewards 9 Demo.islanders (some 1))).runtime
      (Demo.islanders, 1) 1 {1, 2, 3} := by
  apply majority_clique_rewarded Demo.runtimeConfig Demo.genesis ∅ ∅ Demo.firstCeremony.dropLast
    Demo.islanders 1 1 [3, 1, 2] {1, 2, 3} 9 (by decide +kernel) (by decide +kernel)
    (by decide +kernel) (by decide) (by decide +kernel) ?_ (fun _ => by decide) (by decide +kernel)
    (by decide +kernel)
  have hone : lastSubmissions Demo.runtimeConfig (Chain.genesis Demo.genesis ∅ ∅)
      Demo.firstCeremony.dropLast (Demo.islanders, 1) 1 = some ⟨3, [2, 3]⟩ := by decide +kernel
  have htwo : lastSubmissions Demo.runtimeConfig (Chain.genesis Demo.genesis ∅ ∅)
      Demo.firstCeremony.dropLast (Demo.islanders, 1) 2 = some ⟨3, [1, 3]⟩ := by decide +kernel
  have hthree : lastSubmissions Demo.runtimeConfig (Chain.genesis Demo.genesis ∅ ∅)
      Demo.firstCeremony.dropLast (Demo.islanders, 1) 3 = some ⟨3, [1, 2]⟩ := by decide +kernel
  constructor
  · decide
  · decide
  · decide
  · simp [hone, htwo, hthree, voteOf]
  · simp [hone, htwo, hthree, membersNamed]
  · simp only [Finset.mem_insert, Finset.mem_singleton]
    rintro a (rfl | rfl | rfl) b
    · simp [hone, membersNamed]
      omega
    · simp [htwo, membersNamed]
      omega
    · simp [hthree, membersNamed]
      omega

end Ceremonies

end Encointer
