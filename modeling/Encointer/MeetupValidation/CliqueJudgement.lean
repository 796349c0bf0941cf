import Encointer.MeetupValidation.EarlyPayout
import Encointer.MeetupValidation.Relabeling

/-!
# Judging a majority clique

Whoever is excluded is one of the participants, so a claim finds an account for everybody.
If the clique is the whole meetup, its rewards can be paid out early.
-/

namespace Encointer.MeetupValidation

open Checked

/-! ## Excluded participants -/

theorem mem_of_mem_least {indices : Participants} {values : List Nat}
    {groups : List ParticipantGroup}
    {least : ParticipantGroup} (hne : indices ≠ []) (hlt : ∀ i ∈ indices, i < values.length)
    (hgroups : groupIndicesByValue indices values = .ok groups)
    (hleast : getOrErr groups 0 = .ok least) : ∀ p ∈ least.2, p ∈ indices := by
  obtain ⟨groups', least', hgroups', hleast', -, hmem, -⟩ :=
    groupIndicesByValue_spec values hne hlt
  rw [hgroups, ok_inj] at hgroups'
  rw [← hgroups', hleast, ok_inj] at hleast'
  intro p hp
  rw [hleast'] at hp
  exact (hmem p hp).1

theorem exclusionLoop_mem {thresholdFn : Nat → Nat} {iterations : Nat} {toProcess : Participants}
    {relevant : Attestations} {excluded result : List (ParticipantIndex × ExclusionReason)}
    (hlt : ∀ i ∈ toProcess, i < relevant.length)
    (h : exclusionLoop thresholdFn iterations toProcess relevant excluded = .ok result) :
    ∀ p ∈ result, p ∈ excluded ∨ p.1 ∈ toProcess := by
  induction iterations generalizing toProcess relevant excluded with
  | zero =>
      rw [exclusionLoop, ok_inj] at h
      rw [← h]
      exact fun p hp => Or.inl hp
  | succ iterations ih =>
      unfold exclusionLoop at h
      split at h
      · rw [ok_inj] at h
        rw [← h]
        exact fun p hp => Or.inl hp
      · rename_i hprocess
        have hne : toProcess ≠ [] := fun hnil => hprocess (List.isEmpty_iff.2 hnil)
        simp only [bind_eq_ok] at h
        obtain ⟨byOutgoing, hbyOutgoing, byIncoming, hbyIncoming, leastOutgoing, hleastOutgoing,
          leastIncoming, hleastIncoming, h⟩ := h
        have hlength : (relevant.map List.length).length = relevant.length := List.length_map _
        have hlength' : ((List.range relevant.length).map
            (numIncomingAttestations relevant)).length = relevant.length := by
          rw [List.length_map, List.length_range]
        have houtgoing := mem_of_mem_least hne (by rw [hlength]; exact hlt) hbyOutgoing
          hleastOutgoing
        have hincoming := mem_of_mem_least hne (by rw [hlength']; exact hlt) hbyIncoming
          hleastIncoming
        split at h
        · rename_i exclude reason hexclude
          have hsub : ∀ p ∈ exclude, p ∈ toProcess := by
            unfold participantsToExclude at hexclude
            split at hexclude
            · split at hexclude
              · cases hexclude
                exact hincoming
              · cases hexclude
            · split at hexclude
              · cases hexclude
                exact houtgoing
              · cases hexclude
          have hrest : ∀ i ∈ toProcess.filter fun k => k ∉ exclude,
              i < (filterAttestations (toProcess.filter fun k => k ∉ exclude) relevant).length := by
            intro i hi
            rw [filterAttestations, List.length_map]
            exact hlt i (List.mem_of_mem_filter hi)
          intro p hp
          rcases ih hrest h p hp with hbefore | hlater
          · rcases List.mem_append.1 hbefore with hbefore | hnow
            · exact Or.inl hbefore
            · obtain ⟨q, hq, rfl⟩ := List.mem_map.1 hnow
              exact Or.inr (hsub q hq)
          · exact Or.inr (List.mem_of_mem_filter hlater)
        · rw [ok_inj] at h
          rw [← h]
          exact fun p hp => Or.inl hp

theorem Ballots.excluded_lt {ballots : Ballots} {judgements : ParticipantJudgements}
    (h : ballots.judgements = .ok judgements) :
    ∀ p ∈ judgements.excluded, p.index < ballots.numParticipants := by
  rw [ballots.judgements_eq] at h
  simp only [bind_eq_ok, ok_inj] at h
  obtain ⟨⟨nConfirmed, voteCount, unanimous⟩, -, excluded, hexcluded, rfl⟩ := h
  have hvoters : ∀ i ∈ ballots.legitVoters nConfirmed, i < ballots.numParticipants := by
    intro i hi
    exact Ballots.lt_of_mem_voters (List.mem_of_mem_filter hi)
  have hlength : (filterAttestations (ballots.legitVoters nConfirmed)
      ballots.attestations).length = ballots.numParticipants := by
    rw [filterAttestations, List.length_map, ballots.length_eq, Ballots.numParticipants]
  intro p hp
  rcases List.mem_append.1 hp with hp | hp
  · rcases List.mem_append.1 hp with hp | hp
    · obtain ⟨i, hi, rfl⟩ := List.mem_map.1 hp
      exact List.mem_range.1 (List.mem_of_mem_filter hi)
    · obtain ⟨i, hi, rfl⟩ := List.mem_map.1 hp
      exact Ballots.lt_of_mem_voters (List.mem_of_mem_filter hi)
  · obtain ⟨q, hq, rfl⟩ := List.mem_map.1 hp
    rcases exclusionLoop_mem (by rw [hlength]; exact hvoters) hexcluded q hq with hnone | hmem
    · cases hnone
    · exact hvoters q.1 hmem

/-! ## Early rewards -/

/-- If all participants are in the clique, nobody has to wait for the others. -/
theorem MajorityClique.early_of_all {ballots : Ballots} {clique : Finset Nat}
    (h : MajorityClique ballots clique) (hall : ∀ i < ballots.numParticipants, i ∈ clique)
    {judgements : ParticipantJudgements} (hok : ballots.judgements = .ok judgements) :
    judgements.earlyRewardsPossible = true := by
  have hthree := h.three_le
  have hcard : clique.card = ballots.numParticipants := by
    have hrange : clique = Finset.range ballots.numParticipants := by
      ext i
      rw [Finset.mem_range]
      exact ⟨h.lt_length, hall i⟩
    rw [hrange, Finset.card_range]
  have hpositive : ∀ i ∈ clique, ¬ valueOf ballots.votes i = 0 := by
    intro i hi
    rw [h.valueOf_eq hi]
    omega
  have hvoters : ballots.voters = List.range ballots.numParticipants := by
    apply List.filter_eq_self.2
    intro i hi
    exact decide_eq_true (hpositive i (hall i (List.mem_range.1 hi)))
  have hlegit : ballots.legitVoters clique.card = List.range ballots.numParticipants := by
    rw [Ballots.legitVoters, hvoters]
    apply List.filter_eq_self.2
    intro i hi
    exact decide_eq_true (not_not.2 (h.valueOf_eq (hall i (List.mem_range.1 hi))))
  have hlt : ∀ i ∈ ballots.voters, i < ballots.votes.length :=
    fun i hi => Ballots.lt_of_mem_voters hi
  have hnodup : ballots.voters.Nodup := List.nodup_range.filter _
  obtain ⟨voteCount, unanimous, hvote⟩ := h.findMajorityVote hnodup hlt
    (fun i hi => by rw [hvoters]; exact List.mem_range.2 (h.lt_length hi))
  have hunanimous : unanimous = true := by
    rw [((findMajorityVote_spec hlt).1 _ _ _ hvote).unanimous_iff]
    intro v hv
    obtain ⟨i, hi, rfl⟩ := List.mem_map.1 hv
    exact h.valueOf_eq (hall i (Ballots.lt_of_mem_voters hi))
  rw [ballots.judgements_eq, hvote] at hok
  simp only [bind_eq_ok, ok_inj] at hok
  obtain ⟨_, rfl, excluded, -, rfl⟩ := hok
  simp only
  have hbound : ∀ i ∈ List.range ballots.numParticipants, i < ballots.attestations.length := by
    intro i hi
    rw [ballots.length_eq]
    exact List.mem_range.1 hi
  rw [hlegit, earlyRewardsPossible_iff hbound]
  have hperm : ∀ i ∈ List.range ballots.numParticipants, (rowOf ballots.attestations i).Perm
      ((List.range ballots.numParticipants).filter fun p => p ≠ i) := by
    intro i hi
    have hmem := hall i (List.mem_range.1 hi)
    unfold rowOf
    rw [List.perm_ext_iff_of_nodup (h.attests.nodup i hmem) (List.nodup_range.filter _)]
    intro j
    rw [h.attests.mem_iff i hmem, List.mem_filter, decide_eq_true_iff, List.mem_range]
    exact and_congr_left' ⟨h.lt_length, hall j⟩
  have hlength := ballots.length_lt
  refine ⟨hunanimous, ?_, ?_, hperm⟩
  · simp only [voteYieldsMajority, saturateU32, u32Max, decide_eq_true_eq, hcard]
    simp only [Ballots.numParticipants] at hcard ⊢
    omega
  · intro i hi
    rw [(hperm i hi).length_eq, length_filter_ne List.nodup_range hi, List.length_range, hcard,
      wrappingSubU32_of_le (by omega)]
    simp only [Ballots.numParticipants]
    omega

end Encointer.MeetupValidation
