import Encointer.MeetupValidation.Rounds

/-!
# Where the exclusion stops

The judged participants fall into the legit and the excluded ones. Each legit
participant reaches the threshold, with the attestations of all others and with
its own attestations of legit ones.
-/

namespace Encointer.MeetupValidation

def attestersAmong (attestations : Attestations) (ps : Participants) (i : ParticipantIndex) :
    Participants :=
  ps.filter fun q => q ≠ i ∧ i ∈ rowOf attestations q

def attestedAmong (attestations : Attestations) (ps : Participants) (i : ParticipantIndex) :
    Participants :=
  ps.filter fun q => q ≠ i ∧ q ∈ rowOf attestations i

variable {participants : Participants} {votes : List Nat} {attestations : Attestations}
  {thresholdFn : Nat → Nat} {judgements : ParticipantJudgements}

theorem numIncomingAttestations_eq_length (i : ParticipantIndex) :
    numIncomingAttestations attestations i =
      (attestersAmong attestations (List.range attestations.length) i).length := by
  unfold numIncomingAttestations attestersAmong rowOf
  rw [zipIdx_eq_map_range, List.countP_map, List.countP_eq_length_filter]
  congr 1
  apply List.filter_congr
  intro q _
  simp [ne_comm]

/-- Without repetitions, each attestation is of another participant. -/
theorem numOutgoingAttestations_eq_length {ps : Participants} {i : ParticipantIndex}
    (hps : ps.Nodup) (hrow : (rowOf attestations i).Nodup) (hself : i ∉ rowOf attestations i) :
    numOutgoingAttestations attestations ps i = (attestedAmong attestations ps i).length := by
  apply List.Perm.length_eq
  unfold attestedAmong
  rw [List.perm_ext_iff_of_nodup (hrow.filter _) (hps.filter _)]
  intro q
  simp only [List.mem_filter, decide_eq_true_iff]
  constructor
  · rintro ⟨hq, hmem⟩
    exact ⟨hmem, fun heq => hself (heq ▸ hq), hq⟩
  · rintro ⟨hmem, -, hq⟩
    exact ⟨hq, hmem⟩

/-! ## Partitions -/

private theorem filter_notMem_append_perm {ps removed : Participants} (hps : ps.Nodup)
    (hremoved : removed.Nodup) (hsub : removed ⊆ ps) :
    ((ps.filter fun k => k ∉ removed) ++ removed).Perm ps := by
  have hfilter : removed.Perm (ps.filter fun k => k ∈ removed) := by
    rw [List.perm_ext_iff_of_nodup hremoved (hps.filter _)]
    intro k
    rw [List.mem_filter, decide_eq_true_iff]
    exact ⟨fun hk => ⟨hsub hk, hk⟩, fun hk => hk.2⟩
  have hparts := List.filter_append_perm (fun k => decide (k ∈ removed)) ps
  have hnot : (ps.filter fun k => k ∉ removed) = ps.filter fun k => !decide (k ∈ removed) := by
    apply List.filter_congr
    intro k _
    simp
  rw [hnot]
  exact (List.perm_append_comm.trans (hfilter.append_right _)).trans hparts

/-- Everybody is judged once: legit, without a vote, with a wrong vote, or badly attested. -/
theorem judged_perm (hnodup : participants.Nodup) {nConfirmed : Nat}
    {more : List (ParticipantIndex × ExclusionReason)} (hmore : (more.map Prod.fst).Nodup)
    (hsub : more.map Prod.fst ⊆ votersFor participants votes nConfirmed) :
    (((votersFor participants votes nConfirmed).filter fun i => i ∉ more.map Prod.fst) ++
      ((participants.filter fun i => valueOf votes i = 0) ++
        ((votersAmong participants votes).filter fun i => valueOf votes i ≠ nConfirmed) ++
        more.map Prod.fst)).Perm participants := by
  have hvoters : ((participants.filter fun i => valueOf votes i = 0) ++
      votersAmong participants votes).Perm participants := by
    have hparts := List.filter_append_perm (fun i => decide (valueOf votes i = 0)) participants
    simp only [votersAmong, decide_not]
    exact hparts
  have hfor : (((votersAmong participants votes).filter fun i => valueOf votes i ≠ nConfirmed) ++
      votersFor participants votes nConfirmed).Perm (votersAmong participants votes) := by
    have hparts := List.filter_append_perm (fun i => decide (valueOf votes i ≠ nConfirmed))
      (votersAmong participants votes)
    simp only [votersFor, decide_not] at hparts ⊢
    exact hparts
  have hnodupFor : (votersFor participants votes nConfirmed).Nodup :=
    List.Nodup.filter _ (List.Nodup.filter _ hnodup)
  have hkept := filter_notMem_append_perm hnodupFor hmore hsub
  rw [List.perm_iff_count] at hvoters hfor hkept ⊢
  intro i
  have h1 := hvoters i
  have h2 := hfor i
  have h3 := hkept i
  simp only [List.count_append] at h1 h2 h3 ⊢
  omega

/-! ## Results -/

/-- The participants are judged once each, and the legit ones in the given order. -/
structure Partitions (participants : Participants) (judgements : ParticipantJudgements) :
    Prop where
  perm : (judgements.legit ++ judgements.excluded.map ExcludedParticipant.index).Perm participants
  sublist : judgements.legit.Sublist participants

/-- What the loop finds, in terms of the judgements. -/
structure ReachesThreshold (thresholdFn : Nat → Nat) (attestations : Attestations)
    (legit : Participants) : Prop where
  incoming : ∀ i ∈ legit, thresholdFn legit.length ≤
    (attestersAmong attestations (List.range attestations.length) i).length
  outgoing : ∀ i ∈ legit, (rowOf attestations i).Nodup → i ∉ rowOf attestations i →
    thresholdFn legit.length ≤ (attestedAmong attestations legit i).length

private theorem getExcludedParticipantsNumAttestations_spec {ps : Participants}
    (hfits : Fits attestations) (hnodup : ps.Nodup) (hlt : ∀ i ∈ ps, i < attestations.length)
    (thresholdFn : Nat → Nat) :
    ∃ more, getExcludedParticipantsNumAttestations ps attestations thresholdFn = .ok more ∧
      LoopEnds thresholdFn attestations ps more := by
  obtain ⟨more, hmore, hends⟩ :=
    exclusionLoop_ends hfits thresholdFn ps.length hnodup hlt le_rfl []
  exact ⟨more, hmore, hends⟩

theorem LoopEnds.reachesThreshold {ps : Participants}
    {more : List (ParticipantIndex × ExclusionReason)} (hnodup : ps.Nodup)
    (h : LoopEnds thresholdFn attestations ps more) :
    ReachesThreshold thresholdFn attestations (ps.filter fun i => i ∉ more.map Prod.fst) where
  incoming := by
    intro i hi
    rw [← numIncomingAttestations_eq_length]
    exact h.incoming i hi
  outgoing := by
    intro i hi hrow hself
    rw [← numOutgoingAttestations_eq_length (hnodup.filter _) hrow hself]
    exact h.outgoing i hi

/--
The judgement does not run out of bounds. Everybody is judged once, and each legit participant is
attested by as many others as the threshold asks for, and attests as many other legit ones if it
names nobody twice.
-/
theorem judgements_reach_threshold (participants : Participants) (votes : List Nat)
    (attestations : Attestations) (hnodup : participants.Nodup)
    (hvotes : ∀ i ∈ participants, i < votes.length)
    (hattestations : ∀ i ∈ participants, i < attestations.length) (hfits : Fits attestations) :
    getParticipantJudgements participants votes attestations attestationThresholdFn ≠
        .error .indexOutOfBounds ∧
      ∀ judgements,
        getParticipantJudgements participants votes attestations attestationThresholdFn =
            .ok judgements →
          Partitions participants judgements ∧
            ReachesThreshold attestationThresholdFn attestations judgements.legit := by
  rw [getParticipantJudgements_eq hvotes]
  have hvoters : ∀ i ∈ votersAmong participants votes, i < votes.length :=
    fun i hi => hvotes i (List.mem_of_mem_filter hi)
  cases hwinner : findMajorityVote (votersAmong participants votes) votes with
  | error e =>
      constructor
      · intro heq
        cases heq
        rcases findMajorityVote_error hvoters hwinner with ⟨he, -⟩ | ⟨he, -⟩ <;> cases he
      · intro judgements heq
        cases heq
  | ok winner =>
      obtain ⟨nConfirmed, voteCount, unanimous⟩ := winner
      have hfor : (votersFor participants votes nConfirmed).Nodup :=
        List.Nodup.filter _ (List.Nodup.filter _ hnodup)
      have hlt : ∀ i ∈ votersFor participants votes nConfirmed, i < attestations.length :=
        fun i hi => hattestations i (List.mem_of_mem_filter (List.mem_of_mem_filter hi))
      obtain ⟨more, hmore, hends⟩ := getExcludedParticipantsNumAttestations_spec hfits hfor hlt
        attestationThresholdFn
      simp only [bind, Except.bind, hmore]
      refine ⟨by simp, ?_⟩
      rintro judgements ⟨⟩
      refine ⟨⟨?_, ?_⟩, hends.reachesThreshold hfor⟩
      · simp only [List.map_append, List.map_map]
        have hperm := judged_perm hnodup hends.nodup hends.subset
        have hfst (ps : Participants) (reason : ExclusionReason) :
            ps.map (ExcludedParticipant.index ∘ fun i => ⟨i, reason⟩) = ps := List.map_id ps
        rw [hfst, hfst]
        exact hperm
      · exact List.filter_sublist.trans (List.filter_sublist.trans List.filter_sublist)

theorem judgements_reach_threshold_three :
    getParticipantJudgements [2, 0, 1] [3, 3, 3] [[1, 2], [0, 2], [1, 0]]
        attestationThresholdFn ≠ .error .indexOutOfBounds ∧
      ∀ judgements,
        getParticipantJudgements [2, 0, 1] [3, 3, 3] [[1, 2], [0, 2], [1, 0]]
            attestationThresholdFn = .ok judgements →
          Partitions [2, 0, 1] judgements ∧
            ReachesThreshold attestationThresholdFn [[1, 2], [0, 2], [1, 0]] judgements.legit :=
  judgements_reach_threshold [2, 0, 1] [3, 3, 3] [[1, 2], [0, 2], [1, 0]] (by decide) (by decide)
    (by decide) ⟨by decide, by decide⟩

/-- Three attestations of one participant, and the attestations of a participant that voted
wrongly, pass for three attestations. -/
theorem judgements_below_threshold :
    ∃ judgements, getParticipantJudgements [0, 1, 2, 3, 4] [4, 4, 4, 4, 5]
        [[1, 1, 1], [0, 2, 3], [0, 1, 3], [0, 1, 2], [1, 2, 3]] attestationThresholdFn =
          .ok judgements ∧
      judgements.legit = [0, 1, 2, 3] ∧ attestationThresholdFn judgements.legit.length = 3 ∧
      attestersAmong [[1, 1, 1], [0, 2, 3], [0, 1, 3], [0, 1, 2], [1, 2, 3]] judgements.legit 2 =
        [1, 3] ∧
      attestedAmong [[1, 1, 1], [0, 2, 3], [0, 1, 3], [0, 1, 2], [1, 2, 3]] judgements.legit 0 =
        [1] := by
  refine ⟨⟨[0, 1, 2, 3], [⟨4, .wrongVote⟩], false⟩, ?_⟩
  decide +kernel

end Encointer.MeetupValidation
