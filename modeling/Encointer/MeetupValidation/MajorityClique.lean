import Mathlib.Data.Finset.Card
import Mathlib.Data.Finset.Range
import Encointer.MeetupValidation.Specs

/-!
# Sybil safety of majority cliques

More than half of a meetup attest exactly each other and vote their number.
Whatever the others vote and attest, exactly this clique is judged legit: each
round of the exclusion loop removes outsiders only, and it stops at the clique.
-/

namespace Encointer.MeetupValidation

open Checked

/-- The ballots of a meetup: a vote and a list of attestations for each participant. -/
structure Ballots where
  votes : List Nat
  attestations : Attestations
  length_eq : attestations.length = votes.length
  /-- A vote is a `u32`. -/
  votes_lt : ∀ vote ∈ votes, vote < 2 ^ 32
  /-- A `Vec` of the 32-bit runtime holds at most `isize::MAX` bytes. -/
  length_lt : votes.length < 2 ^ 31

namespace Ballots

def numParticipants (ballots : Ballots) : Nat := ballots.votes.length

/-- The judgements that `claim_rewards` asks for. -/
def judgements (ballots : Ballots) : Except MeetupValidationError ParticipantJudgements :=
  getParticipantJudgements (List.range ballots.numParticipants) ballots.votes
    ballots.attestations attestationThresholdFn

end Ballots

/-- The members of `clique` attest exactly the other members, each once. -/
structure AttestsExactly (clique : Finset Nat) (attestations : Attestations) : Prop where
  lt_length : ∀ i ∈ clique, i < attestations.length
  nodup : ∀ i ∈ clique, (attestations.getD i []).Nodup
  mem_iff : ∀ i ∈ clique, ∀ j, j ∈ attestations.getD i [] ↔ j ∈ clique ∧ j ≠ i

/-- At least three participants, more than half of all, vote their number and attest each other. -/
structure MajorityClique (ballots : Ballots) (clique : Finset Nat) : Prop where
  three_le : 3 ≤ clique.card
  majority : ballots.numParticipants < 2 * clique.card
  vote_eq : ∀ i ∈ clique, ballots.votes[i]? = some clique.card
  attests : AttestsExactly clique ballots.attestations

/-! ## Counting attestations -/

theorem numIncomingAttestations_eq_card (attestations : Attestations) (p : Nat) :
    numIncomingAttestations attestations p =
      ((Finset.range attestations.length).filter fun i =>
        p ≠ i ∧ p ∈ attestations.getD i []).card := by
  unfold numIncomingAttestations
  rw [zipIdx_eq_map_range, List.countP_map, List.countP_eq_length_filter]
  rfl

section Clique

variable {clique : Finset Nat} {attestations : Attestations}

theorem AttestsExactly.filter (h : AttestsExactly clique attestations) {ps : Participants}
    (hps : ∀ i ∈ clique, i ∈ ps) : AttestsExactly clique (filterAttestations ps attestations) := by
  have hget : ∀ i ∈ clique, (filterAttestations ps attestations).getD i [] =
      (attestations.getD i []).filter fun j => j ∈ ps := fun i hi => by
    simp [filterAttestations, List.getElem?_eq_getElem (h.lt_length i hi)]
  refine ⟨fun i hi => ?_, fun i hi => ?_, fun i hi j => ?_⟩
  · simpa [filterAttestations] using h.lt_length i hi
  · rw [hget i hi]
    exact (h.nodup i hi).filter _
  · rw [hget i hi, List.mem_filter, h.mem_iff i hi, decide_eq_true_iff]
    exact ⟨And.left, fun hj => ⟨hj, hps j hj.1⟩⟩

theorem AttestsExactly.length_eq (h : AttestsExactly clique attestations) {i : Nat}
    (hi : i ∈ clique) : (attestations.getD i []).length = clique.card - 1 := by
  rw [← List.toFinset_card_of_nodup (h.nodup i hi), ← Finset.card_erase_of_mem hi]
  congr 1
  ext j
  rw [List.mem_toFinset, h.mem_iff i hi, Finset.mem_erase, and_comm]

theorem AttestsExactly.outgoing_eq (h : AttestsExactly clique attestations) {i : Nat}
    (hi : i ∈ clique) : valueOf (attestations.map List.length) i = clique.card - 1 := by
  rw [← h.length_eq hi]
  simp [valueOf, List.getElem?_eq_getElem (h.lt_length i hi)]

theorem AttestsExactly.le_incoming (h : AttestsExactly clique attestations) {i : Nat}
    (hi : i ∈ clique) : clique.card - 1 ≤ numIncomingAttestations attestations i := by
  rw [numIncomingAttestations_eq_card, ← Finset.card_erase_of_mem hi]
  refine Finset.card_le_card fun j hj => ?_
  obtain ⟨hne, hmem⟩ := Finset.mem_erase.mp hj
  rw [Finset.mem_filter, Finset.mem_range]
  exact ⟨h.lt_length j hmem, Ne.symm hne, (h.mem_iff j hmem i).mpr ⟨hi, Ne.symm hne⟩⟩

theorem AttestsExactly.incoming_le (h : AttestsExactly clique attestations) {i : Nat}
    (hi : i ∉ clique) (hlt : i < attestations.length) :
    numIncomingAttestations attestations i + clique.card + 1 ≤ attestations.length := by
  rw [numIncomingAttestations_eq_card]
  have hsub : (Finset.range attestations.length).filter
      (fun j => i ≠ j ∧ i ∈ attestations.getD j []) ⊆
      Finset.range attestations.length \ insert i clique := fun j hj => by
    rw [Finset.mem_filter] at hj
    rw [Finset.mem_sdiff, Finset.mem_insert]
    refine ⟨hj.1, ?_⟩
    rintro (rfl | hmem)
    · exact hj.2.1 rfl
    · exact hi ((h.mem_iff j hmem i).mp hj.2.2).1
  have hinsert : insert i clique ⊆ Finset.range attestations.length := fun j hj => by
    rw [Finset.mem_range]
    rcases Finset.mem_insert.mp hj with rfl | hmem
    · exact hlt
    · exact h.lt_length j hmem
  have hcard := Finset.card_le_card hsub
  have hle := Finset.card_le_card hinsert
  rw [Finset.card_sdiff_of_subset hinsert] at hcard
  rw [Finset.card_insert_of_notMem hi, Finset.card_range] at hcard hle
  omega

theorem valueOf_incoming {i : Nat} (hi : i < attestations.length) :
    valueOf ((List.range attestations.length).map (numIncomingAttestations attestations)) i =
      numIncomingAttestations attestations i := by
  simp [valueOf, hi]

theorem numIncomingAttestations_le (attestations : Attestations) (i : Nat) :
    numIncomingAttestations attestations i ≤ attestations.length := by
  unfold numIncomingAttestations
  exact (List.countP_le_length).trans (by simp)

/-! ## One round -/

theorem attestationThresholdFn_card_le {n : Nat} (h : 3 ≤ n) :
    attestationThresholdFn n ≤ n - 1 := by
  unfold attestationThresholdFn
  split <;> omega

theorem le_attestationThresholdFn {n m : Nat} (h : n < m) : n - 1 ≤ attestationThresholdFn m := by
  unfold attestationThresholdFn
  split <;> omega

/-- The participants still processed in a round of the loop. -/
structure Processing (clique : Finset Nat) (attestations : Attestations) (ps : Participants) :
    Prop where
  attests : AttestsExactly clique attestations
  three_le : 3 ≤ clique.card
  majority : attestations.length < 2 * clique.card
  length_lt : attestations.length < 2 ^ 31
  nodup : ps.Nodup
  lt_length : ∀ i ∈ ps, i < attestations.length
  subset : ∀ i ∈ clique, i ∈ ps

variable {ps : Participants}

theorem Processing.card_le (h : Processing clique attestations ps) :
    clique.card ≤ ps.length := by
  rw [← List.toFinset_card_of_nodup h.nodup]
  exact Finset.card_le_card fun i hi => List.mem_toFinset.mpr (h.subset i hi)

theorem Processing.eq_clique (h : Processing clique attestations ps)
    (hle : ps.length ≤ clique.card) {i : Nat} (hi : i ∈ ps) : i ∈ clique := by
  have hsub : clique ⊆ ps.toFinset := fun i hi => List.mem_toFinset.mpr (h.subset i hi)
  have hcard : ps.toFinset.card ≤ clique.card := by
    rwa [List.toFinset_card_of_nodup h.nodup]
  rw [Finset.eq_of_subset_of_card_le hsub hcard]
  exact List.mem_toFinset.mpr hi

theorem Processing.ne_nil (h : Processing clique attestations ps) : ps ≠ [] := by
  rintro rfl
  have hcard := h.card_le
  have hthree := h.three_le
  simp only [List.length_nil] at hcard
  omega

theorem Processing.groups (h : Processing clique attestations ps) :
    ∃ byOutgoing byIncoming leastOutgoing leastIncoming,
      groupParticipantsByNumOutgoingAttestations ps attestations = .ok byOutgoing ∧
      groupParticipantsByNumIncomingAttestations ps attestations = .ok byIncoming ∧
      getOrErr byOutgoing 0 = .ok leastOutgoing ∧ getOrErr byIncoming 0 = .ok leastIncoming ∧
      leastOutgoing.2 ≠ [] ∧ leastIncoming.2 ≠ [] ∧
      (∀ p ∈ leastOutgoing.2, p ∈ ps ∧
        valueOf (attestations.map List.length) p = leastOutgoing.1) ∧
      (∀ p ∈ leastIncoming.2, p ∈ ps ∧ numIncomingAttestations attestations p = leastIncoming.1) ∧
      ∀ i ∈ ps, leastIncoming.1 ≤ numIncomingAttestations attestations i := by
  obtain ⟨byOutgoing, leastOutgoing, hout, hout0, houtne, houtmem, -⟩ :=
    groupIndicesByValue_spec (attestations.map List.length) h.ne_nil
      fun i hi => by simpa using h.lt_length i hi
  obtain ⟨byIncoming, leastIncoming, hin, hin0, hinne, hinmem, hinle⟩ :=
    groupIndicesByValue_spec
      ((List.range attestations.length).map (numIncomingAttestations attestations))
      h.ne_nil fun i hi => by simpa using h.lt_length i hi
  have hinmem' : ∀ p ∈ leastIncoming.2, p ∈ ps ∧
      numIncomingAttestations attestations p = leastIncoming.1 := fun p hp => by
    obtain ⟨hps, hval⟩ := hinmem p hp
    rw [valueOf_incoming (h.lt_length p hps)] at hval
    exact ⟨hps, hval⟩
  refine ⟨byOutgoing, byIncoming, leastOutgoing, leastIncoming, hout, hin, hout0, hin0, houtne,
    hinne, houtmem, hinmem', fun i hi => ?_⟩
  -- incoming counts are below the number of lists, so the cast keeps their order
  obtain ⟨p, hp⟩ := List.exists_mem_of_ne_nil _ hinne
  have hleast := numIncomingAttestations_le attestations p
  have hother := numIncomingAttestations_le attestations i
  have hlt := h.length_lt
  have hle := hinle i hi
  rw [← (hinmem' p hp).2] at hle ⊢
  rw [valueOf_incoming (h.lt_length i hi), asI32_of_lt (by omega), asI32_of_lt (by omega)] at hle
  exact_mod_cast hle

/-- A round removes some outsiders and no member, or only members are left. -/
theorem Processing.participantsToExclude (h : Processing clique attestations ps)
    {leastOutgoing leastIncoming : ParticipantGroup} (houtne : leastOutgoing.2 ≠ [])
    (hinne : leastIncoming.2 ≠ [])
    (hout : ∀ p ∈ leastOutgoing.2, p ∈ ps ∧
      valueOf (attestations.map List.length) p = leastOutgoing.1)
    (hin : ∀ p ∈ leastIncoming.2, p ∈ ps ∧
      numIncomingAttestations attestations p = leastIncoming.1)
    (hle : ∀ i ∈ ps, leastIncoming.1 ≤ numIncomingAttestations attestations i) :
    (ps.length ≤ clique.card ∧ participantsToExclude attestationThresholdFn ps.length leastOutgoing
        leastIncoming = none) ∨
      ∃ exclude reason, participantsToExclude attestationThresholdFn ps.length leastOutgoing
          leastIncoming = some (exclude, reason) ∧ exclude ≠ [] ∧
        ∀ p ∈ exclude, p ∈ ps ∧ p ∉ clique := by
  have hthree := h.three_le
  unfold MeetupValidation.participantsToExclude
  by_cases hall : ∀ i ∈ ps, i ∈ clique
  · -- every value is that of a member
    have hlen : ps.length ≤ clique.card := by
      rw [← List.toFinset_card_of_nodup h.nodup]
      exact Finset.card_le_card fun i hi => hall i (List.mem_toFinset.mp hi)
    obtain ⟨p, hp⟩ := List.exists_mem_of_ne_nil _ houtne
    obtain ⟨q, hq⟩ := List.exists_mem_of_ne_nil _ hinne
    have hvalOut := h.attests.outgoing_eq (hall p (hout p hp).1)
    have hvalIn := h.attests.le_incoming (hall q (hin q hq).1)
    rw [(hout p hp).2] at hvalOut
    rw [(hin q hq).2] at hvalIn
    have hthreshold := attestationThresholdFn_card_le hthree
    rw [show ps.length = clique.card from Nat.le_antisymm hlen h.card_le]
    refine Or.inl ⟨Nat.le_refl _, ?_⟩
    rw [if_neg (by omega), if_neg (by omega)]
  · -- an outsider has too few incoming attestations, so the least value is too small
    obtain ⟨x, hx, hxc⟩ : ∃ x ∈ ps, x ∉ clique := by simpa using hall
    have hlt : clique.card < ps.length := by
      by_contra hnot
      exact hxc (h.eq_clique (by omega) hx)
    have hincoming := h.attests.incoming_le hxc (h.lt_length x hx)
    have hmajority := h.majority
    have hleast := hle x hx
    have hthreshold := le_attestationThresholdFn hlt
    refine Or.inr ?_
    by_cases hcmp : leastIncoming.1 < leastOutgoing.1
    · rw [if_pos hcmp, if_pos (by omega)]
      refine ⟨_, _, rfl, hinne, fun p hp => ⟨(hin p hp).1, fun hpc => ?_⟩⟩
      have hval := h.attests.le_incoming hpc
      rw [(hin p hp).2] at hval
      omega
    · rw [if_neg hcmp, if_pos (by omega)]
      refine ⟨_, _, rfl, houtne, fun p hp => ⟨(hout p hp).1, fun hpc => ?_⟩⟩
      have hval := h.attests.outgoing_eq hpc
      rw [(hout p hp).2] at hval
      omega

theorem Processing.remove (h : Processing clique attestations ps) {exclude : Participants}
    (hexclude : ∀ p ∈ exclude, p ∉ clique) :
    Processing clique
      (filterAttestations (ps.filter fun k => k ∉ exclude) attestations)
      (ps.filter fun k => k ∉ exclude) := by
  have hkeep : ∀ i ∈ clique, i ∈ ps.filter fun k => k ∉ exclude := fun i hi => by
    rw [List.mem_filter, decide_eq_true_iff]
    exact ⟨h.subset i hi, fun hmem => hexclude i hmem hi⟩
  have hlength : ∀ qs, (filterAttestations qs attestations).length = attestations.length :=
    fun qs => List.length_map _
  refine ⟨h.attests.filter hkeep, h.three_le, ?_, ?_, h.nodup.filter _, fun i hi => ?_, hkeep⟩
  · rw [hlength]
    exact h.majority
  · rw [hlength]
    exact h.length_lt
  · rw [hlength]
    exact h.lt_length i (List.mem_of_mem_filter hi)

/-- The loop removes exactly the outsiders. -/
theorem Processing.exclusionLoop (h : Processing clique attestations ps) (iterations : Nat)
    (hiter : ps.length ≤ iterations + clique.card)
    (excluded : List (ParticipantIndex × ExclusionReason)) :
    ∃ more, exclusionLoop attestationThresholdFn iterations ps attestations excluded =
        .ok (excluded ++ more) ∧ ∀ i ∈ ps, i ∈ more.map Prod.fst ↔ i ∉ clique := by
  induction iterations generalizing attestations ps excluded with
  | zero =>
      refine ⟨[], by simp [MeetupValidation.exclusionLoop], fun i hi => ?_⟩
      simpa using h.eq_clique (by omega) hi
  | succ iterations ih =>
      obtain ⟨byOut, byIn, leastOut, leastIn, hout, hin, hout0, hin0, houtne, hinne, houtmem,
        hinmem, hle⟩ := h.groups
      have hne : ps.isEmpty = false := by
        rw [List.isEmpty_eq_false_iff]
        exact h.ne_nil
      unfold MeetupValidation.exclusionLoop
      simp only [hne, Bool.false_eq_true, if_false, hout, hin, hout0, hin0, bind, Except.bind]
      rcases h.participantsToExclude houtne hinne houtmem hinmem hle with
        ⟨hlen, hnone⟩ | ⟨exclude, reason, hsome, hexne, hexclude⟩
      · rw [hnone]
        refine ⟨[], by simp, fun i hi => ?_⟩
        simpa using h.eq_clique hlen hi
      · rw [hsome]
        obtain ⟨p, hp⟩ := List.exists_mem_of_ne_nil _ hexne
        have hshrink : (ps.filter fun k => k ∉ exclude).length < ps.length := by
          rw [List.length_filter_lt_length_iff_exists]
          exact ⟨p, (hexclude p hp).1, by simpa using hp⟩
        obtain ⟨more, hmore, hiff⟩ := ih (h.remove fun q hq => (hexclude q hq).2)
          (by omega) (excluded ++ exclude.map fun p => (p, reason))
        refine ⟨(exclude.map fun p => (p, reason)) ++ more, ?_, fun i hi => ?_⟩
        · rw [← List.append_assoc]
          exact hmore
        · rw [List.map_append, List.mem_append, List.map_map]
          by_cases hex : i ∈ exclude
          · simp [hex, (hexclude i hex).2]
          · have := hiff i (by simpa [hi] using hex)
            simp [hex, this]

end Clique

/-! ## All steps -/

theorem MajorityClique.lt_length {ballots : Ballots} {clique : Finset Nat}
    (h : MajorityClique ballots clique) {i : Nat} (hi : i ∈ clique) :
    i < ballots.numParticipants := by
  have := h.attests.lt_length i hi
  rwa [ballots.length_eq] at this

theorem MajorityClique.valueOf_eq {ballots : Ballots} {clique : Finset Nat}
    (h : MajorityClique ballots clique) {i : Nat} (hi : i ∈ clique) :
    valueOf ballots.votes i = clique.card := by
  simp [valueOf, h.vote_eq i hi]

/-- Two different votes have at most as many voters as there are participants. -/
theorem count_add_count_le {v w : Nat} (h : v ≠ w) (votes : List Nat) :
    votes.count v + votes.count w ≤ votes.length := by
  induction votes with
  | nil => simp
  | cons x votes ih =>
      simp only [List.count_cons, List.length_cons, beq_iff_eq]
      split <;> split <;> omega

theorem MajorityClique.findMajorityVote {ballots : Ballots} {clique : Finset Nat}
    (h : MajorityClique ballots clique) {participants : Participants}
    (hnodup : participants.Nodup) (hlt : ∀ i ∈ participants, i < ballots.numParticipants)
    (hsub : ∀ i ∈ clique, i ∈ participants) :
    ∃ voteCount unanimous, findMajorityVote participants ballots.votes =
      .ok (clique.card, voteCount, unanimous) := by
  have hcount : clique.card ≤ (participants.map (valueOf ballots.votes)).count clique.card := by
    rw [List.count_eq_countP, List.countP_map, List.countP_eq_length_filter,
      ← List.toFinset_card_of_nodup (hnodup.filter _)]
    refine Finset.card_le_card fun i hi => ?_
    rw [List.mem_toFinset, List.mem_filter]
    exact ⟨hsub i hi, by simpa using h.valueOf_eq hi⟩
  have hlength : participants.length ≤ ballots.numParticipants := by
    have := (List.subperm_of_subset hnodup fun i hi => List.mem_range.mpr (hlt i hi)).length_le
    rwa [List.length_range] at this
  obtain ⟨hspec, hexists⟩ := findMajorityVote_spec hlt
  obtain ⟨⟨nConfirmed, voteCount, unanimous⟩, heq⟩ :=
    hexists ⟨clique.card, h.three_le.trans hcount⟩
  have hwinner := hspec nConfirmed voteCount unanimous heq
  have hmax := hwinner.count_le clique.card
  have hconfirmed : nConfirmed = clique.card := by
    by_contra hne
    have hsum := count_add_count_le hne (participants.map (valueOf ballots.votes))
    rw [← hwinner.count_eq, List.length_map] at hsum
    have hmajority := h.majority
    omega
  rw [← hconfirmed]
  exact ⟨voteCount, unanimous, heq⟩

def Ballots.voters (ballots : Ballots) : Participants :=
  (List.range ballots.numParticipants).filter fun i => ¬ valueOf ballots.votes i = 0

def Ballots.legitVoters (ballots : Ballots) (nConfirmed : Nat) : Participants :=
  ballots.voters.filter fun i => ¬ valueOf ballots.votes i ≠ nConfirmed

theorem Ballots.lt_of_mem_voters {ballots : Ballots} {i : Nat} (h : i ∈ ballots.voters) :
    i < ballots.numParticipants := List.mem_range.mp (List.mem_of_mem_filter h)

theorem Ballots.judgements_eq (ballots : Ballots) :
    ballots.judgements = (do
      let (nConfirmed, _, voteIsUnanimous) ← findMajorityVote ballots.voters ballots.votes
      let excluded ← getExcludedParticipantsNumAttestations (ballots.legitVoters nConfirmed)
        ballots.attestations attestationThresholdFn
      .ok {
        legit := (ballots.legitVoters nConfirmed).filter fun i => i ∉ excluded.map Prod.fst
        excluded :=
          (((List.range ballots.numParticipants).filter fun i => valueOf ballots.votes i = 0).map
              fun i => ⟨i, .noVote⟩) ++
            ((ballots.voters.filter fun i => valueOf ballots.votes i ≠ nConfirmed).map
              fun i => ⟨i, .wrongVote⟩) ++
            excluded.map fun p => ⟨p.1, p.2⟩
        earlyRewardsPossible := MeetupValidation.earlyRewardsPossible
          (ballots.legitVoters nConfirmed) ballots.attestations ballots.numParticipants nConfirmed
          voteIsUnanimous }) := by
  have hrange : ∀ i ∈ List.range ballots.numParticipants, i < ballots.votes.length :=
    fun i hi => List.mem_range.mp hi
  have hall := getParticipantJudgements_eq hrange ballots.attestations attestationThresholdFn
  rw [List.length_range] at hall
  exact hall

theorem MajorityClique.judgements_ok {ballots : Ballots} {clique : Finset Nat}
    (h : MajorityClique ballots clique) :
    ∃ judgements, ballots.judgements = .ok judgements ∧
      judgements.legit = (List.range ballots.numParticipants).filter (· ∈ clique) := by
  have hvoters : ∀ i ∈ clique, i ∈ ballots.voters := fun i hi => by
    have hthree := h.three_le
    rw [Ballots.voters, List.mem_filter, decide_eq_true_iff, h.valueOf_eq hi]
    exact ⟨List.mem_range.mpr (h.lt_length hi), by omega⟩
  have hnodup : ballots.voters.Nodup := List.nodup_range.filter _
  obtain ⟨voteCount, unanimous, hvote⟩ :=
    h.findMajorityVote hnodup (fun i hi => Ballots.lt_of_mem_voters hi) hvoters
  have hlegit : ∀ i ∈ clique, i ∈ ballots.legitVoters clique.card := fun i hi => by
    rw [Ballots.legitVoters, List.mem_filter]
    exact ⟨hvoters i hi, by simpa using h.valueOf_eq hi⟩
  have hprocessing : Processing clique
      (filterAttestations (ballots.legitVoters clique.card) ballots.attestations)
      (ballots.legitVoters clique.card) := by
    have hlength : (filterAttestations (ballots.legitVoters clique.card)
        ballots.attestations).length = ballots.numParticipants := by
      rw [filterAttestations, List.length_map, ballots.length_eq, Ballots.numParticipants]
    refine ⟨h.attests.filter hlegit, h.three_le, ?_, ?_, hnodup.filter _, fun i hi => ?_, hlegit⟩
    · rw [hlength]
      exact h.majority
    · rw [hlength]
      exact ballots.length_lt
    · rw [hlength]
      exact Ballots.lt_of_mem_voters (List.mem_of_mem_filter hi)
  obtain ⟨excluded, hexcluded, hiff⟩ := hprocessing.exclusionLoop
    (ballots.legitVoters clique.card).length (by omega) []
  have hnum : getExcludedParticipantsNumAttestations (ballots.legitVoters clique.card)
      ballots.attestations attestationThresholdFn = .ok excluded := hexcluded
  rw [ballots.judgements_eq, hvote]
  simp only [bind, Except.bind, hnum]
  refine ⟨_, rfl, ?_⟩
  -- outside the voters for the clique's number nobody is left to exclude
  simp only [Ballots.legitVoters, Ballots.voters, List.filter_filter]
  refine List.filter_congr fun i hi => ?_
  rw [← Bool.decide_and, ← Bool.decide_and, decide_eq_decide]
  constructor
  · rintro ⟨hkept, hwinner, hvoted⟩
    have hvoter : i ∈ ballots.voters := List.mem_filter.mpr ⟨hi, decide_eq_true hvoted⟩
    by_contra hout
    exact hkept ((hiff i (List.mem_filter.mpr ⟨hvoter, decide_eq_true hwinner⟩)).mpr hout)
  · intro hmem
    exact ⟨fun hex => (hiff i (hlegit i hmem)).mp hex hmem, by simpa using h.valueOf_eq hmem,
      by have := h.three_le; rw [h.valueOf_eq hmem]; omega⟩

/-- A majority clique is judged legit, and nobody else, whatever the others submit. -/
theorem majority_clique_legit (ballots : Ballots) (clique : Finset Nat)
    (h : MajorityClique ballots clique) :
    ∃ judgements, ballots.judgements = .ok judgements ∧ judgements.legit.Nodup ∧
      ∀ i, i ∈ judgements.legit ↔ i ∈ clique := by
  obtain ⟨judgements, hok, hlegit⟩ := h.judgements_ok
  refine ⟨judgements, hok, ?_, fun i => ?_⟩
  · rw [hlegit]
    exact List.nodup_range.filter _
  · rw [hlegit, List.mem_filter, decide_eq_true_iff, List.mem_range]
    exact ⟨And.right, fun hi => ⟨h.lt_length hi, hi⟩⟩

/-- Three honest participants and one that attests them twice and votes alone. -/
def fourBallots : Ballots where
  votes := [3, 3, 3, 1]
  attestations := [[1, 2], [0, 2], [0, 1], [0, 0, 1, 2]]
  length_eq := rfl
  votes_lt := by decide
  length_lt := by decide

private theorem fourBallots_majorityClique : MajorityClique fourBallots {0, 1, 2} where
  three_le := by decide
  majority := by decide
  vote_eq := by decide
  attests := {
    lt_length := by decide
    nodup := by decide
    mem_iff := by
      intro i hi j
      simp only [Finset.mem_insert, Finset.mem_singleton] at hi
      rcases hi with rfl | rfl | rfl <;> simp [fourBallots] <;> grind }

theorem majority_clique_legit_four :
    ∃ judgements, fourBallots.judgements = .ok judgements ∧ judgements.legit.Nodup ∧
      ∀ i, i ∈ judgements.legit ↔ i ∈ ({0, 1, 2} : Finset Nat) :=
  majority_clique_legit fourBallots {0, 1, 2} fourBallots_majorityClique

end Encointer.MeetupValidation
