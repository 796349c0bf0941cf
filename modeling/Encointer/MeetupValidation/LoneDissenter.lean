import Encointer.MeetupValidation.Fixpoint
import Encointer.MeetupValidation.EarlyPayout

/-!
# One participant against all others

All participants vote their number, and all but one attest all others. The one can
leave others out, and name some of them more than once instead.
-/

namespace Encointer.MeetupValidation

/-- Everybody but `x` attests all others; the list of `x` is as long as that, or shorter. -/
structure LoneDissenter (ballots : Ballots) (x : ParticipantIndex) : Prop where
  four_le : 4 ≤ ballots.numParticipants
  lt : x < ballots.numParticipants
  vote_eq : ∀ i < ballots.numParticipants, ballots.votes[i]? = some ballots.numParticipants
  nodup : ∀ i < ballots.numParticipants, i ≠ x → (rowOf ballots.attestations i).Nodup
  mem_iff : ∀ i < ballots.numParticipants, i ≠ x →
    ∀ j, j ∈ rowOf ballots.attestations i ↔ j < ballots.numParticipants ∧ j ≠ i
  length_le : (rowOf ballots.attestations x).length ≤ ballots.numParticipants - 1
  members : ∀ j ∈ rowOf ballots.attestations x, j < ballots.numParticipants ∧ j ≠ x

variable {ballots : Ballots} {x i : ParticipantIndex}

namespace LoneDissenter

/-! ## Counts -/

theorem length_attestations (ballots : Ballots) :
    ballots.attestations.length = ballots.numParticipants := ballots.length_eq

theorem row_mem_lt (h : LoneDissenter ballots x) (hi : i < ballots.numParticipants) :
    ∀ j ∈ rowOf ballots.attestations i, j < ballots.numParticipants := by
  intro j hj
  by_cases hix : i = x
  · subst hix
    exact (h.members j hj).1
  · exact ((h.mem_iff i hi hix j).1 hj).1

theorem outgoing_eq (h : LoneDissenter ballots x) (hi : i < ballots.numParticipants)
    (hix : i ≠ x) :
    numOutgoingAttestations ballots.attestations (List.range ballots.numParticipants) i =
      ballots.numParticipants - 1 := by
  have hcard : ((Finset.range ballots.numParticipants).erase i).card =
      ballots.numParticipants - 1 := by
    rw [Finset.card_erase_of_mem (Finset.mem_range.2 hi), Finset.card_range]
  unfold numOutgoingAttestations
  rw [← List.toFinset_card_of_nodup ((h.nodup i hi hix).filter _), ← hcard]
  congr 1
  ext j
  rw [List.mem_toFinset, List.mem_filter, h.mem_iff i hi hix, Finset.mem_erase, Finset.mem_range,
    decide_eq_true_iff, List.mem_range]
  tauto

theorem outgoing_dissenter (h : LoneDissenter ballots x) :
    numOutgoingAttestations ballots.attestations (List.range ballots.numParticipants) x =
      (rowOf ballots.attestations x).length := by
  unfold numOutgoingAttestations
  congr 1
  rw [List.filter_eq_self]
  intro j hj
  simpa using (h.members j hj).1

theorem card_others (h : LoneDissenter ballots x) (hi : i < ballots.numParticipants)
    (hix : i ≠ x) : (((Finset.range ballots.numParticipants).erase i).erase x).card =
      ballots.numParticipants - 2 := by
  have hmem : x ∈ (Finset.range ballots.numParticipants).erase i :=
    Finset.mem_erase.2 ⟨Ne.symm hix, Finset.mem_range.2 h.lt⟩
  rw [Finset.card_erase_of_mem hmem, Finset.card_erase_of_mem (Finset.mem_range.2 hi),
    Finset.card_range]
  omega

/-- Without the dissenter, everybody else still attests all others. -/
theorem outgoing_others (h : LoneDissenter ballots x) (hi : i < ballots.numParticipants)
    (hix : i ≠ x) :
    numOutgoingAttestations ballots.attestations
        ((List.range ballots.numParticipants).filter fun k => k ∉ [x]) i =
      ballots.numParticipants - 2 := by
  unfold numOutgoingAttestations
  rw [← List.toFinset_card_of_nodup ((h.nodup i hi hix).filter _), ← h.card_others hi hix]
  congr 1
  ext j
  simp only [List.mem_toFinset, List.mem_filter, h.mem_iff i hi hix, Finset.mem_erase,
    Finset.mem_range, decide_eq_true_iff, List.mem_range, List.mem_singleton]
  tauto

theorem incoming_eq_card (ballots : Ballots) (i : ParticipantIndex) :
    numIncomingAttestations ballots.attestations i =
      ((Finset.range ballots.numParticipants).filter fun q =>
        i ≠ q ∧ i ∈ rowOf ballots.attestations q).card := by
  rw [numIncomingAttestations_eq_card, length_attestations]
  rfl

/-- All others attest `x`, and those that `x` attests. -/
theorem le_incoming_of_attested (h : LoneDissenter ballots x) (hi : i < ballots.numParticipants)
    (hattested : i = x ∨ i ∈ rowOf ballots.attestations x) :
    ballots.numParticipants - 1 ≤ numIncomingAttestations ballots.attestations i := by
  have hcard : ((Finset.range ballots.numParticipants).erase i).card =
      ballots.numParticipants - 1 := by
    rw [Finset.card_erase_of_mem (Finset.mem_range.2 hi), Finset.card_range]
  rw [incoming_eq_card, ← hcard]
  apply Finset.card_le_card
  intro q hq
  obtain ⟨hqi, hqn⟩ := Finset.mem_erase.1 hq
  rw [Finset.mem_filter]
  refine ⟨hqn, Ne.symm hqi, ?_⟩
  by_cases hqx : q = x
  · subst hqx
    exact hattested.resolve_left (Ne.symm hqi)
  · exact (h.mem_iff q (Finset.mem_range.1 hqn) hqx i).2 ⟨hi, Ne.symm hqi⟩

/-- Those that `x` leaves out are attested by everybody else. -/
theorem incoming_of_omitted (h : LoneDissenter ballots x) (hi : i < ballots.numParticipants)
    (hix : i ≠ x) (homitted : i ∉ rowOf ballots.attestations x) :
    numIncomingAttestations ballots.attestations i = ballots.numParticipants - 2 := by
  rw [incoming_eq_card, ← h.card_others hi hix]
  congr 1
  ext q
  simp only [Finset.mem_filter, Finset.mem_range, Finset.mem_erase]
  constructor
  · rintro ⟨hqn, hiq, hmem⟩
    refine ⟨?_, Ne.symm hiq, hqn⟩
    rintro rfl
    exact homitted hmem
  · rintro ⟨hqx, hqi, hqn⟩
    exact ⟨hqn, Ne.symm hqi, (h.mem_iff q hqn hqx i).2 ⟨hi, Ne.symm hqi⟩⟩

theorem le_incoming (h : LoneDissenter ballots x) (hi : i < ballots.numParticipants) :
    ballots.numParticipants - 2 ≤ numIncomingAttestations ballots.attestations i := by
  by_cases hattested : i = x ∨ i ∈ rowOf ballots.attestations x
  · have hle := h.le_incoming_of_attested hi hattested
    omega
  · rw [not_or] at hattested
    rw [h.incoming_of_omitted hi hattested.1 hattested.2]

/-- Who names fewer others than there are leaves somebody out. -/
theorem exists_omitted (h : LoneDissenter ballots x)
    (hlist : ¬ ((rowOf ballots.attestations x).length = ballots.numParticipants - 1 ∧
      (rowOf ballots.attestations x).Nodup)) :
    ∃ i < ballots.numParticipants, i ≠ x ∧ i ∉ rowOf ballots.attestations x := by
  by_contra hnone
  have hall : ((List.range ballots.numParticipants).filter fun i => i ≠ x) ⊆
      rowOf ballots.attestations x := by
    intro i hi
    rw [List.mem_filter, List.mem_range, decide_eq_true_iff] at hi
    by_contra hmem
    exact hnone ⟨i, hi.1, hi.2, hmem⟩
  have hothers : ((List.range ballots.numParticipants).filter fun i => i ≠ x).Nodup :=
    List.nodup_range.filter _
  have hlength := length_filter_ne List.nodup_range (List.mem_range.2 h.lt)
  rw [List.length_range] at hlength
  have hperm := (List.subperm_of_subset hothers hall).perm_of_length_le
    (hlength ▸ h.length_le)
  exact hlist ⟨hperm.length_eq ▸ hlength, hperm.nodup_iff.1 hothers⟩

/-! ## Rounds -/

theorem fits (h : LoneDissenter ballots x) : Fits ballots.attestations where
  length := by
    rw [ballots.length_eq]
    exact ballots.length_lt
  rows := by
    intro row hrow
    obtain ⟨i, hi, rfl⟩ := List.getElem_of_mem hrow
    have hlt := ballots.length_lt
    have hn : i < ballots.numParticipants := by
      rw [← length_attestations]
      exact hi
    have hrowOf : ballots.attestations[i] = rowOf ballots.attestations i := by simp [rowOf, hi]
    rw [hrowOf]
    by_cases hix : i = x
    · subst hix
      exact lt_of_le_of_lt h.length_le (by unfold Ballots.numParticipants; omega)
    · have hsub : rowOf ballots.attestations i ⊆ List.range ballots.numParticipants := by
        intro j hj
        exact List.mem_range.2 (h.row_mem_lt hn j hj)
      have hle := (List.subperm_of_subset (h.nodup i hn hix) hsub).length_le
      rw [List.length_range] at hle
      exact lt_of_le_of_lt hle hlt

/-- Once `x` is excluded, the others stay. -/
theorem second_round (h : LoneDissenter ballots x) (iterations : Nat)
    (excluded : List (ParticipantIndex × ExclusionReason)) :
    exclusionLoop attestationThresholdFn iterations
        ((List.range ballots.numParticipants).filter fun k => k ∉ [x])
        (filterAttestations ((List.range ballots.numParticipants).filter fun k => k ∉ [x])
          ballots.attestations) excluded = .ok excluded := by
  have hfour := h.four_le
  have hlength : ((List.range ballots.numParticipants).filter fun k => k ∉ [x]).length =
      ballots.numParticipants - 1 := by
    have hne := length_filter_ne List.nodup_range (List.mem_range.2 h.lt)
    rw [List.length_range] at hne
    rw [← hne]
    congr 2
    funext k
    simp
  have hthreshold := attestationThresholdFn_card_le (n := ballots.numParticipants - 1) (by omega)
  apply exclusionLoop_of_reached h.fits
  · intro i hi
    rw [length_attestations]
    exact List.mem_range.1 (List.mem_of_mem_filter hi)
  · intro i hi
    rw [List.mem_filter, List.mem_range, decide_eq_true_iff, List.mem_singleton] at hi
    have hincoming := h.le_incoming hi.1
    rw [hlength, h.outgoing_others hi.1 hi.2]
    exact ⟨by omega, by omega⟩

/-- Too short a list excludes its author, and nobody else. -/
theorem loop_of_short (h : LoneDissenter ballots x)
    (hshort : (rowOf ballots.attestations x).length <
      attestationThresholdFn ballots.numParticipants) :
    exclusionLoop attestationThresholdFn ballots.numParticipants
        (List.range ballots.numParticipants)
        (filterAttestations (List.range ballots.numParticipants) ballots.attestations) [] =
      .ok [(x, .tooFewOutgoingAttestations)] := by
  have hfour := h.four_le
  have hthreshold := attestationThresholdFn_card_le (n := ballots.numParticipants) (by omega)
  have hps : List.range ballots.numParticipants ≠ [] := by
    rw [Ne, List.range_eq_nil]
    omega
  have hlt : ∀ i ∈ List.range ballots.numParticipants, i < ballots.attestations.length := by
    intro i hi
    rw [length_attestations]
    exact List.mem_range.1 hi
  obtain ⟨leastOutgoing, leastIncoming, hout, hin, hround⟩ :=
    exclusionLoop_succ h.fits hps hlt attestationThresholdFn
  have hleast : leastOutgoing.1 ≤ (rowOf ballots.attestations x).length := by
    rw [← h.outgoing_dissenter]
    exact hout.le x (List.mem_range.2 h.lt)
  have hgroup : ∀ p, p ∈ leastOutgoing.2 ↔ p ∈ [x] := by
    have honly : ∀ p ∈ leastOutgoing.2, p = x := by
      intro p hp
      obtain ⟨hpn, hvalue⟩ := (hout.mem_iff p).1 hp
      by_contra hpx
      rw [h.outgoing_eq (List.mem_range.1 hpn) hpx] at hvalue
      omega
    intro p
    rw [List.mem_singleton]
    constructor
    · exact honly p
    · rintro rfl
      obtain ⟨q, hq⟩ := List.exists_mem_of_ne_nil _ hout.nonempty
      exact honly q hq ▸ hq
  have hsingle : leastOutgoing.2 = [x] := by
    apply List.perm_singleton.1
    rw [List.perm_ext_iff_of_nodup (hout.nodup List.nodup_range) (List.nodup_singleton x)]
    exact hgroup
  have hincoming : ballots.numParticipants - 2 ≤ leastIncoming.1 := by
    obtain ⟨q, hq⟩ := List.exists_mem_of_ne_nil _ hin.nonempty
    obtain ⟨hqn, hvalue⟩ := (hin.mem_iff q).1 hq
    rw [← hvalue]
    exact h.le_incoming (List.mem_range.1 hqn)
  have hexclude : participantsToExclude attestationThresholdFn
      (List.range ballots.numParticipants).length leastOutgoing leastIncoming =
        some ([x], .tooFewOutgoingAttestations) := by
    unfold participantsToExclude
    rw [if_neg (by omega), List.length_range, if_pos (by omega), hsingle]
  obtain ⟨iterations, hiterations⟩ : ∃ m, ballots.numParticipants = m + 1 :=
    ⟨ballots.numParticipants - 1, by omega⟩
  have hfirst := hround iterations []
  rw [← hiterations, hexclude] at hfirst
  rw [hfirst]
  simp only
  rw [h.second_round]
  rfl

/-- A list that is long enough, but leaves somebody out, excludes them in a small meetup. -/
theorem loop_of_repeated (h : LoneDissenter ballots x) (hsmall : ballots.numParticipants ≤ 5)
    (hlength : (rowOf ballots.attestations x).length = ballots.numParticipants - 1)
    (hrepeated : ¬ (rowOf ballots.attestations x).Nodup) :
    ∃ excluded, exclusionLoop attestationThresholdFn ballots.numParticipants
        (List.range ballots.numParticipants)
        (filterAttestations (List.range ballots.numParticipants) ballots.attestations) [] =
          .ok excluded ∧
      ∃ i < ballots.numParticipants, i ≠ x ∧ i ∈ excluded.map Prod.fst := by
  have hfour := h.four_le
  have hps : List.range ballots.numParticipants ≠ [] := by
    rw [Ne, List.range_eq_nil]
    omega
  have hlt : ∀ i ∈ List.range ballots.numParticipants, i < ballots.attestations.length := by
    intro i hi
    rw [length_attestations]
    exact List.mem_range.1 hi
  obtain ⟨y, hy, hyx, homitted⟩ := h.exists_omitted fun hlist => hrepeated hlist.2
  obtain ⟨leastOutgoing, leastIncoming, hout, hin, hround⟩ :=
    exclusionLoop_succ h.fits hps hlt attestationThresholdFn
  have houtgoing : leastOutgoing.1 = ballots.numParticipants - 1 := by
    obtain ⟨p, hp⟩ := List.exists_mem_of_ne_nil _ hout.nonempty
    obtain ⟨hpn, hvalue⟩ := (hout.mem_iff p).1 hp
    rw [← hvalue]
    by_cases hpx : p = x
    · rw [hpx, h.outgoing_dissenter, hlength]
    · exact h.outgoing_eq (List.mem_range.1 hpn) hpx
  have hvictim := h.incoming_of_omitted hy hyx homitted
  have hleast := hin.le y (List.mem_range.2 hy)
  have hmem : y ∈ leastIncoming.2 := by
    obtain ⟨q, hq⟩ := List.exists_mem_of_ne_nil _ hin.nonempty
    obtain ⟨hqn, hvalue⟩ := (hin.mem_iff q).1 hq
    have hle := h.le_incoming (List.mem_range.1 hqn)
    exact (hin.mem_iff y).2 ⟨List.mem_range.2 hy, by omega⟩
  have hthreshold : attestationThresholdFn ballots.numParticipants =
      ballots.numParticipants - 1 := by
    unfold attestationThresholdFn
    rw [if_neg (by omega)]
    omega
  have hexclude : participantsToExclude attestationThresholdFn
      (List.range ballots.numParticipants).length leastOutgoing leastIncoming =
        some (leastIncoming.2, .tooFewIncomingAttestations) := by
    unfold participantsToExclude
    rw [if_pos (by omega), List.length_range, if_pos (by omega)]
  obtain ⟨iterations, hiterations⟩ : ∃ m, ballots.numParticipants = m + 1 :=
    ⟨ballots.numParticipants - 1, by omega⟩
  have hfirst := hround iterations []
  rw [← hiterations, hexclude] at hfirst
  have hrest : ((List.range ballots.numParticipants).filter fun k =>
      k ∉ leastIncoming.2).Nodup := List.nodup_range.filter _
  have hshrinks := length_filter_notMem_lt hin.nonempty
    fun p hp => ((hin.mem_iff p).1 hp).1
  rw [List.length_range] at hshrinks
  obtain ⟨more, hmore, -⟩ := exclusionLoop_ends h.fits attestationThresholdFn iterations hrest
    (fun i hi => hlt i (List.mem_of_mem_filter hi)) (by omega)
    ([] ++ leastIncoming.2.map fun p => (p, .tooFewIncomingAttestations))
  refine ⟨_, hfirst.trans hmore, y, hy, hyx, ?_⟩
  rw [List.map_append, List.mem_append]
  left
  simpa using hmem

/-- Otherwise all reach the threshold at once. -/
theorem loop_of_reached (h : LoneDissenter ballots x)
    (hlong : attestationThresholdFn ballots.numParticipants ≤
      (rowOf ballots.attestations x).length)
    (hlist : ¬ (ballots.numParticipants ≤ 5 ∧
      (rowOf ballots.attestations x).length = ballots.numParticipants - 1 ∧
      ¬ (rowOf ballots.attestations x).Nodup)) :
    exclusionLoop attestationThresholdFn ballots.numParticipants
        (List.range ballots.numParticipants)
        (filterAttestations (List.range ballots.numParticipants) ballots.attestations) [] =
      .ok [] := by
  have hfour := h.four_le
  have hthreshold := attestationThresholdFn_card_le (n := ballots.numParticipants) (by omega)
  apply exclusionLoop_of_reached h.fits
  · intro i hi
    rw [length_attestations]
    exact List.mem_range.1 hi
  · intro i hi
    rw [List.mem_range] at hi
    rw [List.length_range]
    constructor
    · by_cases hix : i = x
      · rw [hix, h.outgoing_dissenter]
        exact hlong
      · rw [h.outgoing_eq hi hix]
        exact hthreshold
    · by_cases hattested : i = x ∨ i ∈ rowOf ballots.attestations x
      · exact hthreshold.trans (h.le_incoming_of_attested hi hattested)
      · -- a left out participant lacks one attestation, which only large meetups allow
        rw [not_or] at hattested
        rw [h.incoming_of_omitted hi hattested.1 hattested.2]
        by_contra hbelow
        have hsmall : ballots.numParticipants ≤ 5 := by
          unfold attestationThresholdFn at hbelow
          by_contra hlarge
          rw [if_pos (by omega)] at hbelow
          omega
        have hlength : (rowOf ballots.attestations x).length = ballots.numParticipants - 1 := by
          have hle := h.length_le
          omega
        apply hlist
        refine ⟨hsmall, hlength, ?_⟩
        intro hnodup
        have hsub : rowOf ballots.attestations x ⊆
            (List.range ballots.numParticipants).filter fun j => j ≠ x := by
          intro j hj
          have hj := h.members j hj
          simpa using hj
        have hothers := length_filter_ne List.nodup_range (List.mem_range.2 h.lt)
        rw [List.length_range] at hothers
        have hperm := (List.subperm_of_subset hnodup hsub).perm_of_length_le (by omega)
        apply hattested.2
        rw [hperm.mem_iff]
        simpa using ⟨hi, hattested.1⟩

/-! ## Votes -/

theorem valueOf_eq (h : LoneDissenter ballots x) (hi : i < ballots.numParticipants) :
    valueOf ballots.votes i = ballots.numParticipants := by
  unfold valueOf
  rw [List.getD_eq_getElem?_getD, h.vote_eq i hi]
  rfl

theorem voters_eq (h : LoneDissenter ballots x) :
    ballots.voters = List.range ballots.numParticipants := by
  unfold Ballots.voters
  rw [List.filter_eq_self]
  intro i hi
  have hfour := h.four_le
  rw [decide_eq_true_iff, h.valueOf_eq (List.mem_range.1 hi)]
  omega

private theorem legitVoters_eq (h : LoneDissenter ballots x) :
    ballots.legitVoters ballots.numParticipants = List.range ballots.numParticipants := by
  unfold Ballots.legitVoters
  rw [h.voters_eq, List.filter_eq_self]
  intro i hi
  rw [decide_eq_true_iff, h.valueOf_eq (List.mem_range.1 hi)]
  simp

theorem findMajorityVote_eq (h : LoneDissenter ballots x) :
    ∃ voteCount unanimous, findMajorityVote (List.range ballots.numParticipants) ballots.votes =
      .ok (ballots.numParticipants, voteCount, unanimous) := by
  have hfour := h.four_le
  have hvotes : (List.range ballots.numParticipants).map (valueOf ballots.votes) =
      List.replicate ballots.numParticipants ballots.numParticipants := by
    rw [List.eq_replicate_iff]
    refine ⟨by rw [List.length_map, List.length_range], ?_⟩
    intro v hv
    obtain ⟨i, hi, rfl⟩ := List.mem_map.1 hv
    exact h.valueOf_eq (List.mem_range.1 hi)
  have hrange : ∀ i ∈ List.range ballots.numParticipants, i < ballots.votes.length :=
    fun i hi => List.mem_range.1 hi
  obtain ⟨hwinner, hexists⟩ := findMajorityVote_spec hrange
  obtain ⟨⟨nConfirmed, voteCount, unanimous⟩, heq⟩ := hexists
    ⟨ballots.numParticipants, by rw [hvotes, List.count_replicate_self]; omega⟩
  have hmem := (hwinner nConfirmed voteCount unanimous heq).mem
  rw [hvotes] at hmem
  rw [List.eq_of_mem_replicate hmem] at heq
  exact ⟨voteCount, unanimous, heq⟩

theorem judgements_eq (h : LoneDissenter ballots x)
    {excluded : List (ParticipantIndex × ExclusionReason)}
    (hexcluded : exclusionLoop attestationThresholdFn ballots.numParticipants
      (List.range ballots.numParticipants)
      (filterAttestations (List.range ballots.numParticipants) ballots.attestations) [] =
        .ok excluded) :
    ∃ judgements, ballots.judgements = .ok judgements ∧
      judgements.legit =
        (List.range ballots.numParticipants).filter fun i => i ∉ excluded.map Prod.fst := by
  obtain ⟨voteCount, unanimous, hvote⟩ := h.findMajorityVote_eq
  have hnum : getExcludedParticipantsNumAttestations (List.range ballots.numParticipants)
      ballots.attestations attestationThresholdFn = .ok excluded := by
    unfold getExcludedParticipantsNumAttestations
    rw [List.length_range]
    exact hexcluded
  rw [ballots.judgements_eq, h.voters_eq, hvote]
  simp only [bind, Except.bind, h.legitVoters_eq, hnum]
  exact ⟨_, rfl, rfl⟩

end LoneDissenter

/-- Everybody but `x` is judged legit. -/
def OthersLegit (ballots : Ballots) (x : ParticipantIndex) : Prop :=
  ∃ judgements, ballots.judgements = .ok judgements ∧
    ∀ i < ballots.numParticipants, i ≠ x → i ∈ judgements.legit

/--
One participant cannot get others excluded, unless it names somebody repeatedly in a list as long
as that of the others, in a meetup of at most five.
-/
theorem lone_dissenter_harmless_iff (ballots : Ballots) (x : ParticipantIndex)
    (h : LoneDissenter ballots x) :
    OthersLegit ballots x ↔
      ¬ (ballots.numParticipants ≤ 5 ∧
        (rowOf ballots.attestations x).length = ballots.numParticipants - 1 ∧
        ¬ (rowOf ballots.attestations x).Nodup) := by
  have hfour := h.four_le
  constructor
  · rintro ⟨judgements, hok, hlegit⟩ ⟨hsmall, hlength, hrepeated⟩
    obtain ⟨excluded, hexcluded, i, hi, hix, hmem⟩ := h.loop_of_repeated hsmall hlength hrepeated
    obtain ⟨judgements', hok', hlegit'⟩ := h.judgements_eq hexcluded
    rw [hok, ok_inj] at hok'
    subst hok'
    have hkept := hlegit i hi hix
    rw [hlegit', List.mem_filter, decide_eq_true_iff] at hkept
    exact hkept.2 hmem
  · intro hlist
    by_cases hshort : (rowOf ballots.attestations x).length <
        attestationThresholdFn ballots.numParticipants
    · obtain ⟨judgements, hok, hlegit⟩ := h.judgements_eq (h.loop_of_short hshort)
      refine ⟨judgements, hok, ?_⟩
      intro i hi hix
      rw [hlegit]
      simpa using ⟨hi, hix⟩
    · obtain ⟨judgements, hok, hlegit⟩ :=
        h.judgements_eq (h.loop_of_reached (Nat.le_of_not_lt hshort) hlist)
      refine ⟨judgements, hok, ?_⟩
      intro i hi _
      rw [hlegit]
      simpa using hi

/-- Four participants, the first of which names only the second, three times. -/
def repeatedBallots : Ballots where
  votes := [4, 4, 4, 4]
  attestations := [[1, 1, 1], [0, 2, 3], [0, 1, 3], [0, 1, 2]]
  length_eq := rfl
  votes_lt := by decide
  length_lt := by decide

theorem repeatedBallots_loneDissenter : LoneDissenter repeatedBallots 0 where
  four_le := by decide
  lt := by decide
  vote_eq := by decide
  nodup := by decide
  mem_iff := by
    intro i hi hi0 j
    have hn : repeatedBallots.numParticipants = 4 := rfl
    rw [hn] at hi ⊢
    have hcases : i = 1 ∨ i = 2 ∨ i = 3 := by omega
    rcases hcases with rfl | rfl | rfl <;> simp [repeatedBallots, rowOf] <;> grind
  length_le := by decide
  members := by decide

theorem lone_dissenter_harmless_four :
    OthersLegit repeatedBallots 0 ↔
      ¬ (repeatedBallots.numParticipants ≤ 5 ∧
        (rowOf repeatedBallots.attestations 0).length = repeatedBallots.numParticipants - 1 ∧
        ¬ (rowOf repeatedBallots.attestations 0).Nodup) :=
  lone_dissenter_harmless_iff repeatedBallots 0 repeatedBallots_loneDissenter

/-- The two participants that the first leaves out are excluded. -/
theorem lone_dissenter_harms :
    LoneDissenter repeatedBallots 0 ∧
      (repeatedBallots.judgements.toOption.map fun judgements =>
        (judgements.legit, judgements.excluded)) =
          some ([0, 1], [⟨2, .tooFewIncomingAttestations⟩, ⟨3, .tooFewIncomingAttestations⟩]) ∧
      ¬ OthersLegit repeatedBallots 0 := by
  have hjudged : repeatedBallots.judgements =
      .ok ⟨[0, 1], [⟨2, .tooFewIncomingAttestations⟩, ⟨3, .tooFewIncomingAttestations⟩], false⟩ := by
    decide +kernel
  refine ⟨repeatedBallots_loneDissenter, by rw [hjudged]; rfl, ?_⟩
  rintro ⟨judgements, hok, hlegit⟩
  rw [hjudged, ok_inj] at hok
  subst hok
  exact absurd (hlegit 2 (by decide) (by decide)) (by decide)

end Encointer.MeetupValidation
