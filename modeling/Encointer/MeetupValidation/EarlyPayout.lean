import Encointer.MeetupValidation.MajorityClique

/-!
# Early payout agrees with late payout

When the early condition holds, the participants that voted so far are a
majority clique. Later ballots of the others cannot change the judgement.
-/

namespace Encointer.MeetupValidation

open Checked

theorem earlyRewardsPossible_spec {legit : Participants} {attestations : Attestations}
    {numTotal nConfirmed : Nat} {unanimous : Bool}
    (h : earlyRewardsPossible legit attestations numTotal nConfirmed unanimous = true) :
    unanimous = true ∧ numTotal < 2 * nConfirmed ∧
      ∀ i ∈ legit, ∀ v, attestations[i]? = some v →
        v.length = wrappingSubU32 nConfirmed 1 ∧ v.Perm (legit.filter fun p => p ≠ i) := by
  simp only [earlyRewardsPossible, Bool.and_eq_true] at h
  obtain ⟨⟨⟨hunanimous, hmajority⟩, hlengths⟩, hconnected⟩ := h
  refine ⟨hunanimous, ?_, fun i hi v hv => ?_⟩
  · have := of_decide_eq_true hmajority
    unfold saturateU32 at this
    omega
  · have hmem : (v, i) ∈ attestations.zipIdx := List.mem_zipIdx_iff_getElem?.mpr hv
    have hlen := of_decide_eq_true (List.all_eq_true.mp hlengths _ hmem)
    have hsorted := of_decide_eq_true (List.all_eq_true.mp hconnected _ hmem)
    have heq := hsorted.resolve_left fun hnot => hnot hi
    exact ⟨hlen.resolve_left fun hnot => hnot hi, (insertionSort_eq_iff_perm _ _).1 heq⟩

theorem count_eq_length_of_unanimous {votes : List Nat} {v : Nat} (h : ∀ w ∈ votes, w = v) :
    votes.count v = votes.length :=
  List.count_eq_length.mpr fun w hw => (h w hw).symm

theorem length_filter_ne {ps : Participants} (hnodup : ps.Nodup) {i : ParticipantIndex}
    (hi : i ∈ ps) : (ps.filter fun p => p ≠ i).length = ps.length - 1 := by
  have hsame : (ps.filter fun p => p ≠ i) = ps.filter (· != i) :=
    List.filter_congr fun p _ => by by_cases hp : p = i <;> simp [hp]
  rw [hsame, ← hnodup.erase_eq_filter i, List.length_erase_of_mem hi]

/-- Voters that agree on a winner and attest exactly each other are a majority clique. -/
theorem majorityClique_of_unanimous {ballots : Ballots} {nConfirmed voteCount : Nat}
    (hwinner : MajorityVote (ballots.voters.map (valueOf ballots.votes)) nConfirmed voteCount true)
    (hmajority : ballots.numParticipants < 2 * nConfirmed)
    (hattests : ∀ i ∈ ballots.voters, ∀ v, ballots.attestations[i]? = some v →
      v.length = wrappingSubU32 nConfirmed 1 ∧ v.Perm (ballots.voters.filter fun p => p ≠ i)) :
    MajorityClique ballots ballots.voters.toFinset := by
  have hnodup : ballots.voters.Nodup := List.nodup_range.filter _
  have hlt : ∀ i ∈ ballots.voters, i < ballots.votes.length :=
    fun i hi => Ballots.lt_of_mem_voters hi
  have hcard : ballots.voters.toFinset.card = ballots.voters.length :=
    List.toFinset_card_of_nodup hnodup
  have hunanimous := hwinner.unanimous_iff.mp rfl
  have hall : ∀ i ∈ ballots.voters, ballots.votes[i]? = some nConfirmed := fun i hi => by
    have heq := hunanimous _ (List.mem_map.mpr ⟨i, hi, rfl⟩)
    simpa [valueOf, List.getElem?_eq_getElem (hlt i hi)] using heq
  have hlist : ∀ i ∈ ballots.voters, ∃ v, ballots.attestations[i]? = some v ∧
      ballots.attestations.getD i [] = v := fun i hi => by
    have hi' : i < ballots.attestations.length := by
      rw [ballots.length_eq]
      exact hlt i hi
    exact ⟨_, List.getElem?_eq_getElem hi', by simp [List.getElem?_eq_getElem hi']⟩
  have hdependable := hwinner.dependable
  rw [hwinner.count_eq, count_eq_length_of_unanimous hunanimous, List.length_map] at hdependable
  -- the attestation list of one voter has the length of the vote, less one
  have hconfirmed : ballots.voters.length = nConfirmed := by
    obtain ⟨i, hi⟩ := List.exists_mem_of_length_pos (show 0 < ballots.voters.length by omega)
    obtain ⟨v, hv, -⟩ := hlist i hi
    obtain ⟨hlen, hperm⟩ := hattests i hi v hv
    have hmem : nConfirmed ∈ ballots.votes := List.mem_of_getElem? (hall i hi)
    have hpos : ¬ valueOf ballots.votes i = 0 := of_decide_eq_true (List.mem_filter.mp hi).2
    have hvalue : valueOf ballots.votes i = nConfirmed :=
      hunanimous _ (List.mem_map.mpr ⟨i, hi, rfl⟩)
    rw [wrappingSubU32_of_le (by omega) (ballots.votes_lt _ hmem)] at hlen
    have heq := hperm.length_eq
    rw [length_filter_ne hnodup hi] at heq
    omega
  refine ⟨by omega, by omega, fun i hi => ?_, fun i hi => ?_, fun i hi => ?_, fun i hi j => ?_⟩
  · rw [hcard, hconfirmed]
    exact hall i (List.mem_toFinset.mp hi)
  · rw [ballots.length_eq]
    exact hlt i (List.mem_toFinset.mp hi)
  · obtain ⟨v, hv, hget⟩ := hlist i (List.mem_toFinset.mp hi)
    rw [hget, (hattests i (List.mem_toFinset.mp hi) v hv).2.nodup_iff]
    exact hnodup.filter _
  · obtain ⟨v, hv, hget⟩ := hlist i (List.mem_toFinset.mp hi)
    rw [hget, (hattests i (List.mem_toFinset.mp hi) v hv).2.mem_iff, List.mem_filter,
      decide_eq_true_iff, List.mem_toFinset]

theorem majorityClique_of_early {ballots : Ballots} {judgements : ParticipantJudgements}
    (hok : ballots.judgements = .ok judgements) (hearly : judgements.earlyRewardsPossible = true) :
    MajorityClique ballots ballots.voters.toFinset := by
  have hlt : ∀ i ∈ ballots.voters, i < ballots.votes.length :=
    fun i hi => Ballots.lt_of_mem_voters hi
  rw [ballots.judgements_eq] at hok
  cases hvote : findMajorityVote ballots.voters ballots.votes with
  | error err => simp [hvote, bind, Except.bind] at hok
  | ok winner =>
      obtain ⟨nConfirmed, voteCount, unanimous⟩ := winner
      simp only [hvote, bind, Except.bind] at hok
      cases hnum : getExcludedParticipantsNumAttestations (ballots.legitVoters nConfirmed)
          ballots.attestations attestationThresholdFn with
      | error err => simp [hnum] at hok
      | ok excluded =>
          simp only [hnum, Except.ok.injEq] at hok
          subst hok
          obtain ⟨rfl, hmajority, hattests⟩ := earlyRewardsPossible_spec hearly
          have hwinner := (findMajorityVote_spec hlt).1 nConfirmed voteCount true hvote
          have hlegit : ballots.legitVoters nConfirmed = ballots.voters :=
            List.filter_eq_self.mpr fun i hi => decide_eq_true (not_not.mpr
              (hwinner.unanimous_iff.mp rfl _ (List.mem_map.mpr ⟨i, hi, rfl⟩)))
          rw [hlegit] at hattests
          exact majorityClique_of_unanimous hwinner hmajority hattests

/-- The other participants may vote and attest again, those that voted do not. -/
structure LaterBallots (ballots later : Ballots) : Prop where
  numParticipants_eq : later.numParticipants = ballots.numParticipants
  kept : ∀ i < ballots.numParticipants, ballots.votes[i]? ≠ some 0 →
    later.votes[i]? = ballots.votes[i]? ∧ later.attestations[i]? = ballots.attestations[i]?

theorem MajorityClique.later {ballots later : Ballots} {clique : Finset Nat}
    (h : MajorityClique ballots clique) (hlater : LaterBallots ballots later) :
    MajorityClique later clique := by
  have hthree := h.three_le
  have hkept : ∀ i ∈ clique, later.votes[i]? = ballots.votes[i]? ∧
      later.attestations[i]? = ballots.attestations[i]? := fun i hi => by
    refine hlater.kept i (h.lt_length hi) ?_
    rw [h.vote_eq i hi, ne_eq, Option.some.injEq]
    omega
  have hget : ∀ i ∈ clique, later.attestations.getD i [] = ballots.attestations.getD i [] :=
    fun i hi => by rw [List.getD_eq_getElem?_getD, (hkept i hi).2, List.getD_eq_getElem?_getD]
  refine ⟨hthree, ?_, fun i hi => ?_, fun i hi => ?_, fun i hi => ?_, fun i hi => ?_⟩
  · rw [hlater.numParticipants_eq]
    exact h.majority
  · rw [(hkept i hi).1]
    exact h.vote_eq i hi
  · rw [later.length_eq]
    change i < later.numParticipants
    rw [hlater.numParticipants_eq]
    exact h.lt_length hi
  · rw [hget i hi]
    exact h.attests.nodup i hi
  · rw [hget i hi]
    exact h.attests.mem_iff i hi

/-- A payout that is possible early rewards the set that the final ballots reward. -/
theorem early_payout_agrees (ballots later : Ballots) (judgements : ParticipantJudgements)
    (hok : ballots.judgements = .ok judgements) (hearly : judgements.earlyRewardsPossible = true)
    (hlater : LaterBallots ballots later) :
    ∃ final, later.judgements = .ok final ∧ final.legit = judgements.legit := by
  have hclique := majorityClique_of_early hok hearly
  obtain ⟨now, hnow, hnowLegit⟩ := hclique.judgements_ok
  obtain ⟨final, hfinal, hfinalLegit⟩ := (hclique.later hlater).judgements_ok
  obtain rfl : now = judgements := by simpa [hok] using hnow.symm
  exact ⟨final, hfinal, by rw [hfinalLegit, hnowLegit, hlater.numParticipants_eq]⟩

/-- The fourth participant has not voted yet. -/
def threeOfFourBallots : Ballots where
  votes := [3, 3, 3, 0]
  attestations := [[1, 2], [0, 2], [0, 1], []]
  length_eq := rfl
  votes_lt := by decide
  length_lt := by decide

theorem early_payout_agrees_four :
    ∃ final, fourBallots.judgements = .ok final ∧ final.legit = [0, 1, 2] :=
  early_payout_agrees threeOfFourBallots fourBallots ⟨[0, 1, 2], [⟨3, .noVote⟩], true⟩ rfl rfl {
    numParticipants_eq := rfl
    kept := by decide }

end Encointer.MeetupValidation
