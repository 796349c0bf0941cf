import Encointer.MeetupValidation.Fixpoint
import Encointer.MeetupValidation.MajorityClique
import Mathlib.Data.Fin.Tuple.Sort
import Mathlib.Logic.Equiv.Basic

/-!
# Other numbers for the participants

A judgement looks at participants by their votes and by who attests whom. Their
numbers only matter where two votes have the most voters: then the order in which
the votes are counted decides.
-/

namespace Encointer.MeetupValidation

/-- Ballots whose lists are `Vec`s of the 32-bit runtime. -/
structure MeetupInput extends Ballots where
  rows_lt : ∀ row ∈ attestations, row.length < 2 ^ 31

/-! ## Relabelled lists -/

/-- The participants of the first list under their new numbers, in any order. -/
def Renames (π : Equiv.Perm Nat) (ps ps' : Participants) : Prop := ps'.Perm (ps.map π)

namespace Renames

variable {π : Equiv.Perm Nat} {ps ps' : Participants}

theorem mem_iff (h : Renames π ps ps') (i : Nat) : π i ∈ ps' ↔ i ∈ ps := by
  rw [List.Perm.mem_iff h, List.mem_map]
  constructor
  · rintro ⟨j, hj, heq⟩
    rw [← π.injective heq]
    exact hj
  · intro hi
    exact ⟨i, hi, rfl⟩

theorem mem_symm_iff (h : Renames π ps ps') (i : Nat) : i ∈ ps' ↔ π.symm i ∈ ps := by
  rw [← h.mem_iff, Equiv.apply_symm_apply]

theorem length_eq (h : Renames π ps ps') : ps'.length = ps.length := by
  rw [List.Perm.length_eq h, List.length_map]

theorem nodup (h : Renames π ps ps') (hps : ps.Nodup) : ps'.Nodup :=
  (List.Perm.nodup_iff h).2 (hps.map π.injective)

theorem of_mem_iff (hps : ps.Nodup) (hps' : ps'.Nodup) (h : ∀ i, π i ∈ ps' ↔ i ∈ ps) :
    Renames π ps ps' := by
  unfold Renames
  rw [List.perm_ext_iff_of_nodup hps' (hps.map π.injective)]
  intro i
  rw [List.mem_map]
  constructor
  · intro hi
    refine ⟨π.symm i, (h _).1 ?_, π.apply_symm_apply i⟩
    rw [Equiv.apply_symm_apply]
    exact hi
  · rintro ⟨j, hj, rfl⟩
    exact (h j).2 hj

theorem filter (h : Renames π ps ps') {p p' : Nat → Prop} [DecidablePred p] [DecidablePred p']
    (heq : ∀ i ∈ ps, p' (π i) ↔ p i) :
    Renames π (ps.filter fun i => p i) (ps'.filter fun i => p' i) := by
  have hmap : (ps.map π).filter (fun i => p' i) = (ps.filter fun i => p i).map π := by
    rw [List.filter_map]
    congr 1
    apply List.filter_congr
    intro i hi
    exact decide_eq_decide.2 (heq i hi)
  have hfilter := List.Perm.filter (fun i => decide (p' i)) h
  rw [hmap] at hfilter
  exact hfilter

theorem map_perm (h : Renames π ps ps') {α : Type} {f f' : Nat → α}
    (heq : ∀ i ∈ ps, f' (π i) = f i) : (ps'.map f').Perm (ps.map f) := by
  have hmap : (ps.map π).map f' = ps.map f := by
    rw [List.map_map]
    exact List.map_congr_left heq
  have hperm := List.Perm.map f' h
  rw [hmap] at hperm
  exact hperm

end Renames

/-- The second input is the first with other numbers for its participants. -/
structure Relabels (π : Equiv.Perm Nat) (input input' : MeetupInput) : Prop where
  length_eq : input'.numParticipants = input.numParticipants
  lt_iff : ∀ i, π i < input.numParticipants ↔ i < input.numParticipants
  vote : ∀ i < input.numParticipants, valueOf input'.votes (π i) = valueOf input.votes i
  row : ∀ i < input.numParticipants,
    rowOf input'.attestations (π i) = (rowOf input.attestations i).map π

/-! ## Rounds -/

section Rounds

variable {π : Equiv.Perm Nat} {input input' : MeetupInput} {ps ps' : Participants}

theorem MeetupInput.fits (input : MeetupInput) : Fits input.attestations where
  length := by
    rw [input.length_eq]
    exact input.length_lt
  rows := input.rows_lt

theorem Relabels.range (h : Relabels π input input') :
    Renames π (List.range input.numParticipants) (List.range input'.numParticipants) := by
  apply Renames.of_mem_iff List.nodup_range List.nodup_range
  intro i
  rw [List.mem_range, List.mem_range, h.length_eq, h.lt_iff]

theorem Relabels.numOutgoingAttestations (h : Relabels π input input') (hps : Renames π ps ps')
    {i : Nat} (hi : i < input.numParticipants) :
    numOutgoingAttestations input'.attestations ps' (π i) =
      numOutgoingAttestations input.attestations ps i := by
  unfold MeetupValidation.numOutgoingAttestations
  rw [h.row i hi, List.filter_map, List.length_map]
  congr 1
  apply List.filter_congr
  intro j _
  exact decide_eq_decide.2 (hps.mem_iff j)

theorem Relabels.numIncomingAttestations (h : Relabels π input input') (i : Nat) :
    numIncomingAttestations input'.attestations (π i) =
      numIncomingAttestations input.attestations i := by
  rw [numIncomingAttestations_eq_length, numIncomingAttestations_eq_length]
  have hlength : input.attestations.length = input.numParticipants := input.length_eq
  have hlength' : input'.attestations.length = input'.numParticipants := input'.length_eq
  rw [hlength, hlength']
  apply Renames.length_eq
  apply h.range.filter
  intro q hq
  rw [h.row q (List.mem_range.1 hq)]
  simp

/-- The least groups have the same value, and the same participants under their new numbers. -/
theorem Least.renames {value value' : Nat → Nat} {least least' : ParticipantGroup}
    (h : Least value ps least) (h' : Least value' ps' least') (hps : Renames π ps ps')
    (hnodup : ps.Nodup) (hvalue : ∀ i ∈ ps, value' (π i) = value i) :
    least'.1 = least.1 ∧ Renames π least.2 least'.2 := by
  have heq : least'.1 = least.1 := by
    obtain ⟨p, hp⟩ := List.exists_mem_of_ne_nil _ h.nonempty
    obtain ⟨hpps, hpvalue⟩ := (h.mem_iff p).1 hp
    obtain ⟨q, hq⟩ := List.exists_mem_of_ne_nil _ h'.nonempty
    obtain ⟨hqps, hqvalue⟩ := (h'.mem_iff q).1 hq
    have hle' := h'.le (π p) ((hps.mem_iff p).2 hpps)
    have hqps' := (hps.mem_symm_iff q).1 hqps
    have hle := h.le _ hqps'
    have hqeq := hvalue _ hqps'
    rw [Equiv.apply_symm_apply] at hqeq
    rw [hvalue p hpps] at hle'
    omega
  refine ⟨heq, Renames.of_mem_iff (h.nodup hnodup) (h'.nodup (hps.nodup hnodup)) ?_⟩
  intro i
  rw [h'.mem_iff, h.mem_iff, hps.mem_iff, heq]
  constructor
  · rintro ⟨hi, hv⟩
    exact ⟨hi, (hvalue i hi).symm.trans hv⟩
  · rintro ⟨hi, hv⟩
    exact ⟨hi, (hvalue i hi).trans hv⟩

/-- What is excluded, under the new numbers, in any order. -/
def RenamesExcluded (π : Equiv.Perm Nat)
    (excluded excluded' : List (ParticipantIndex × ExclusionReason)) : Prop :=
  excluded'.Perm (excluded.map fun entry => (π entry.1, entry.2))

theorem RenamesExcluded.append {excluded excluded' : List (ParticipantIndex × ExclusionReason)}
    (h : RenamesExcluded π excluded excluded') (hps : Renames π ps ps')
    (reason : ExclusionReason) :
    RenamesExcluded π (excluded ++ ps.map fun p => (p, reason))
      (excluded' ++ ps'.map fun p => (p, reason)) := by
  unfold RenamesExcluded
  rw [List.map_append, List.map_map]
  apply List.Perm.append h
  have hmap := List.Perm.map (fun p => (p, reason)) hps
  rw [List.map_map] at hmap
  exact hmap

/-- Round by round, the loop excludes the same participants. -/
theorem Relabels.exclusionLoop (h : Relabels π input input') (thresholdFn : Nat → Nat)
    (iterations : Nat) (hps : Renames π ps ps') (hnodup : ps.Nodup)
    (hlt : ∀ i ∈ ps, i < input.numParticipants)
    {excluded excluded' result result' : List (ParticipantIndex × ExclusionReason)}
    (hexcluded : RenamesExcluded π excluded excluded')
    (hresult : exclusionLoop thresholdFn iterations ps
      (filterAttestations ps input.attestations) excluded = .ok result)
    (hresult' : exclusionLoop thresholdFn iterations ps'
      (filterAttestations ps' input'.attestations) excluded' = .ok result') :
    RenamesExcluded π result result' := by
  induction iterations generalizing ps ps' excluded excluded' with
  | zero =>
      cases hresult
      cases hresult'
      exact hexcluded
  | succ iterations ih =>
      by_cases hne : ps = []
      · subst hne
        have hne' : ps' = [] := List.length_eq_zero_iff.1 hps.length_eq
        subst hne'
        cases hresult
        cases hresult'
        exact hexcluded
      · have hne' : ps' ≠ [] := by
          intro hnil
          have hlength := hps.length_eq
          rw [hnil] at hlength
          exact hne (List.length_eq_zero_iff.1 hlength.symm)
        have hrange : ∀ i ∈ ps, i < input.attestations.length := by
          intro i hi
          rw [input.length_eq]
          exact hlt i hi
        have hrange' : ∀ i ∈ ps', i < input'.attestations.length := by
          intro i hi
          have hlt := (h.lt_iff _).2 (hlt _ ((hps.mem_symm_iff i).1 hi))
          rw [Equiv.apply_symm_apply, ← h.length_eq] at hlt
          rw [input'.length_eq]
          exact hlt
        obtain ⟨leastOutgoing, leastIncoming, hout, hin, hround⟩ :=
          exclusionLoop_succ input.fits hne hrange thresholdFn
        obtain ⟨leastOutgoing', leastIncoming', hout', hin', hround'⟩ :=
          exclusionLoop_succ input'.fits hne' hrange' thresholdFn
        obtain ⟨houtValue, houtGroup⟩ := hout.renames hout' hps hnodup
          fun i hi => h.numOutgoingAttestations hps (hlt i hi)
        obtain ⟨hinValue, hinGroup⟩ := hin.renames hin' hps hnodup
          fun i _ => h.numIncomingAttestations i
        rw [hround] at hresult
        rw [hround'] at hresult'
        unfold participantsToExclude at hresult hresult'
        rw [houtValue, hinValue, hps.length_eq] at hresult'
        have hremoves {exclude exclude' : Participants} (hexclude : Renames π exclude exclude')
            (reason : ExclusionReason)
            (hrest : MeetupValidation.exclusionLoop thresholdFn iterations
              (ps.filter fun k => k ∉ exclude)
              (filterAttestations (ps.filter fun k => k ∉ exclude) input.attestations)
              (excluded ++ exclude.map fun p => (p, reason)) = .ok result)
            (hrest' : MeetupValidation.exclusionLoop thresholdFn iterations
              (ps'.filter fun k => k ∉ exclude')
              (filterAttestations (ps'.filter fun k => k ∉ exclude') input'.attestations)
              (excluded' ++ exclude'.map fun p => (p, reason)) = .ok result') :
            RenamesExcluded π result result' := by
          have hkept : Renames π (ps.filter fun k => k ∉ exclude)
              (ps'.filter fun k => k ∉ exclude') :=
            hps.filter fun i _ => not_congr (hexclude.mem_iff i)
          exact ih hkept (hnodup.filter _) (fun i hi => hlt i (List.mem_of_mem_filter hi))
            (hexcluded.append hexclude reason) hrest hrest'
        split_ifs at hresult hresult'
        · exact hremoves hinGroup _ hresult hresult'
        · cases hresult
          cases hresult'
          exact hexcluded
        · exact hremoves houtGroup _ hresult hresult'
        · cases hresult
          cases hresult'
          exact hexcluded

end Rounds

/-! ## Votes -/

/-- Two votes have the most voters, and no fewer than three. -/
def TiedMajority (votes : List Nat) : Prop :=
  ∃ v w, 0 < v ∧ 0 < w ∧ v ≠ w ∧ 3 ≤ votes.count v ∧ votes.count w = votes.count v ∧
    ∀ u, 0 < u → votes.count u ≤ votes.count v

/-- The votes of those that voted. -/
theorem map_votersAmong_range (votes : List Nat) :
    (votersAmong (List.range votes.length) votes).map (valueOf votes) =
      votes.filter fun v => ¬ v = 0 := by
  have hall : (List.range votes.length).map (valueOf votes) = votes := by
    apply List.ext_getElem (by simp)
    intro i hi hi'
    simp [valueOf, hi']
  unfold votersAmong
  rw [← hall, List.filter_map, hall]
  rfl

theorem count_votersAmong (input : MeetupInput) {v : Nat} (hv : 0 < v) :
    ((votersAmong (List.range input.numParticipants) input.votes).map
      (valueOf input.votes)).count v = input.votes.count v := by
  rw [Ballots.numParticipants, map_votersAmong_range, List.count_filter]
  simpa using Nat.ne_of_gt hv

theorem pos_of_mem_votes {input : MeetupInput} {v : Nat}
    (hv : v ∈ (votersAmong (List.range input.numParticipants) input.votes).map
      (valueOf input.votes)) : 0 < v := by
  rw [Ballots.numParticipants, map_votersAmong_range, List.mem_filter, decide_eq_true_iff] at hv
  exact Nat.pos_of_ne_zero hv.2

theorem MajorityVote.of_perm {votes votes' : List Nat} {v c : Nat} {u : Bool}
    (h : MajorityVote votes' v c u) (hperm : votes'.Perm votes) : MajorityVote votes v c u where
  mem := hperm.mem_iff.1 h.mem
  count_eq := by rw [h.count_eq, hperm.count_eq]
  dependable := h.dependable
  count_le := by
    intro w
    rw [← hperm.count_eq]
    exact h.count_le w
  unanimous_iff := by
    rw [h.unanimous_iff]
    constructor
    · intro hall w hw
      exact hall w (hperm.mem_iff.2 hw)
    · intro hall w hw
      exact hall w (hperm.mem_iff.1 hw)

/-- The same votes in another order have the same winner, if only one vote has the most voters. -/
theorem findMajorityVote_of_perm {participants participants' : Participants}
    {votes votes' : List Nat} (h : ∀ i ∈ participants, i < votes.length)
    (h' : ∀ i ∈ participants', i < votes'.length)
    (hperm : (participants'.map (valueOf votes')).Perm (participants.map (valueOf votes)))
    (hunique : ∀ v c u w c' u',
      MajorityVote (participants.map (valueOf votes)) v c u →
        MajorityVote (participants.map (valueOf votes)) w c' u' → v = w) :
    findMajorityVote participants' votes' = findMajorityVote participants votes := by
  have hwinner := (findMajorityVote_spec h).1
  have hwinner' := (findMajorityVote_spec h').1
  have hlength : participants'.length = participants.length := by
    have hlength := hperm.length_eq
    rw [List.length_map, List.length_map] at hlength
    exact hlength
  cases hresult : findMajorityVote participants votes with
  | ok winner =>
      obtain ⟨v, c, u⟩ := winner
      have hv := hwinner v c u hresult
      cases hresult' : findMajorityVote participants' votes' with
      | ok winner' =>
          obtain ⟨w, c', u'⟩ := winner'
          have hw := (hwinner' w c' u' hresult').of_perm hperm
          obtain rfl := hunique v c u w c' u' hv hw
          have hcount : c' = c := hw.count_eq.trans hv.count_eq.symm
          have hunanimous : u' = u := by
            rw [Bool.eq_iff_iff, hw.unanimous_iff, hv.unanimous_iff]
          rw [hcount, hunanimous]
      | error e =>
          have hdependable := hv.dependable
          rw [hv.count_eq, ← hperm.count_eq] at hdependable
          rcases findMajorityVote_error h' hresult' with ⟨-, hnil⟩ | ⟨-, -, hfew⟩
          · rw [hnil] at hdependable
            cases hdependable
          · have hfew := hfew v
            omega
  | error e =>
      cases hresult' : findMajorityVote participants' votes' with
      | ok winner' =>
          obtain ⟨w, c', u'⟩ := winner'
          have hw := (hwinner' w c' u' hresult').of_perm hperm
          have hdependable := hw.dependable
          rw [hw.count_eq] at hdependable
          rcases findMajorityVote_error h hresult with ⟨-, hnil⟩ | ⟨-, -, hfew⟩
          · rw [hnil] at hdependable
            cases hdependable
          · have hfew := hfew w
            omega
      | error e' =>
          have hnil : participants' = [] ↔ participants = [] := by
            rw [← List.length_eq_zero_iff, ← List.length_eq_zero_iff, hlength]
          rcases findMajorityVote_error h hresult with ⟨he, hempty⟩ | ⟨he, hne, -⟩
          · rcases findMajorityVote_error h' hresult' with ⟨he', -⟩ | ⟨-, hne', -⟩
            · rw [he, he']
            · exact absurd (hnil.2 hempty) hne'
          · rcases findMajorityVote_error h' hresult' with ⟨-, hempty'⟩ | ⟨he', -⟩
            · exact absurd (hnil.1 hempty') hne
            · rw [he, he']

/-! ## Early rewards -/

theorem all_zipIdx_iff {attestations : Attestations} {legit : Participants}
    (hlt : ∀ i ∈ legit, i < attestations.length) (p : List ParticipantIndex → Nat → Prop)
    [∀ row i, Decidable (p row i)] :
    (attestations.zipIdx.all fun (row, i) => i ∉ legit ∨ p row i) = true ↔
      ∀ i ∈ legit, p (rowOf attestations i) i := by
  rw [List.all_eq_true]
  constructor
  · intro hall i hi
    have hrow : (rowOf attestations i, i) ∈ attestations.zipIdx := by
      rw [List.mem_zipIdx_iff_getElem?]
      simp [rowOf, hlt i hi]
    exact (of_decide_eq_true (hall _ hrow)).resolve_left fun hnot => hnot hi
  · rintro hall ⟨row, i⟩ hmem
    rw [List.mem_zipIdx_iff_getElem?] at hmem
    have hrow : rowOf attestations i = row := by
      unfold rowOf
      rw [List.getD_eq_getElem?_getD, hmem]
      rfl
    rw [decide_eq_true_iff]
    by_cases hi : i ∈ legit
    · right
      rw [← hrow]
      exact hall i hi
    · exact .inl hi

theorem earlyRewardsPossible_iff {legit : Participants} {attestations : Attestations}
    (hlt : ∀ i ∈ legit, i < attestations.length) (numTotal nConfirmed : Nat) (unanimous : Bool) :
    earlyRewardsPossible legit attestations numTotal nConfirmed unanimous = true ↔
      unanimous = true ∧ voteYieldsMajority numTotal nConfirmed = true ∧
        (∀ i ∈ legit, (rowOf attestations i).length = Checked.wrappingSubU32 nConfirmed 1) ∧
        ∀ i ∈ legit, (rowOf attestations i).Perm (legit.filter fun p => p ≠ i) := by
  have hlengths := all_zipIdx_iff hlt fun row _ =>
    row.length = Checked.wrappingSubU32 nConfirmed 1
  have hconnected := all_zipIdx_iff hlt fun row i =>
    row.insertionSort (· ≤ ·) = (legit.filter fun p => p ≠ i).insertionSort (· ≤ ·)
  unfold earlyRewardsPossible
  rw [Bool.and_eq_true, Bool.and_eq_true, Bool.and_eq_true, and_assoc, and_assoc]
  unfold numAttestationsMatchesVote attestationGraphIsFullyConnected
  rw [hlengths, hconnected]
  simp only [insertionSort_eq_iff_perm]

/-! ## Judgements -/

namespace MeetupInput

def judge (input : MeetupInput) (thresholdFn : Nat → Nat) :
    Except MeetupValidationError ParticipantJudgements :=
  getParticipantJudgements (List.range input.numParticipants) input.votes input.attestations
    thresholdFn

def winningVoters (input : MeetupInput) (nConfirmed : Nat) : Participants :=
  MeetupValidation.votersFor (List.range input.numParticipants) input.votes nConfirmed

theorem lt_of_mem_winningVoters {input : MeetupInput} {nConfirmed i : Nat}
    (hi : i ∈ input.winningVoters nConfirmed) : i < input.numParticipants :=
  List.mem_range.1 (List.mem_of_mem_filter (List.mem_of_mem_filter hi))

theorem nodup_winningVoters (input : MeetupInput) (nConfirmed : Nat) :
    (input.winningVoters nConfirmed).Nodup :=
  List.Nodup.filter _ (List.Nodup.filter _ List.nodup_range)

def judged (input : MeetupInput) (nConfirmed : Nat) (unanimous : Bool)
    (excluded : List (ParticipantIndex × ExclusionReason)) : ParticipantJudgements where
  legit := (input.winningVoters nConfirmed).filter fun i => i ∉ excluded.map Prod.fst
  excluded :=
    (((List.range input.numParticipants).filter fun i => valueOf input.votes i = 0).map
        fun i => ⟨i, .noVote⟩) ++
      (((votersAmong (List.range input.numParticipants) input.votes).filter
        fun i => valueOf input.votes i ≠ nConfirmed).map fun i => ⟨i, .wrongVote⟩) ++
      excluded.map fun p => ⟨p.1, p.2⟩
  earlyRewardsPossible := earlyRewardsPossible (input.winningVoters nConfirmed) input.attestations
    input.numParticipants nConfirmed unanimous

theorem judge_cases (input : MeetupInput) (thresholdFn : Nat → Nat) :
    (∃ e, findMajorityVote (votersAmong (List.range input.numParticipants) input.votes)
        input.votes = .error e ∧ input.judge thresholdFn = .error e) ∨
      ∃ nConfirmed voteCount unanimous excluded,
        findMajorityVote (votersAmong (List.range input.numParticipants) input.votes)
          input.votes = .ok (nConfirmed, voteCount, unanimous) ∧
        exclusionLoop thresholdFn (input.winningVoters nConfirmed).length
          (input.winningVoters nConfirmed)
          (filterAttestations (input.winningVoters nConfirmed) input.attestations) [] =
            .ok excluded ∧
        LoopEnds thresholdFn input.attestations (input.winningVoters nConfirmed) excluded ∧
        input.judge thresholdFn = .ok (input.judged nConfirmed unanimous excluded) := by
  have hrange : ∀ i ∈ List.range input.numParticipants, i < input.votes.length :=
    fun i hi => List.mem_range.1 hi
  have hjudge := getParticipantJudgements_eq hrange input.attestations thresholdFn
  rw [List.length_range] at hjudge
  cases hwinner : findMajorityVote (votersAmong (List.range input.numParticipants) input.votes)
    input.votes with
  | error e =>
      rw [hwinner] at hjudge
      exact .inl ⟨e, rfl, hjudge⟩
  | ok winner =>
      obtain ⟨nConfirmed, voteCount, unanimous⟩ := winner
      have hlt : ∀ i ∈ input.winningVoters nConfirmed, i < input.attestations.length := by
        intro i hi
        rw [input.length_eq]
        exact lt_of_mem_winningVoters hi
      obtain ⟨excluded, hexcluded, hends⟩ := exclusionLoop_ends input.fits thresholdFn
        (input.winningVoters nConfirmed).length (input.nodup_winningVoters nConfirmed) hlt le_rfl []
      have hnum : getExcludedParticipantsNumAttestations
          (MeetupValidation.votersFor (List.range input.numParticipants) input.votes nConfirmed)
          input.attestations thresholdFn = .ok excluded := hexcluded
      rw [hwinner] at hjudge
      simp only [bind, Except.bind, hnum] at hjudge
      exact .inr ⟨nConfirmed, voteCount, unanimous, excluded, rfl, hexcluded, hends, hjudge⟩

end MeetupInput

/-- The same error, or the same judgement of every participant under its new number. -/
def Relabelled (π : Equiv.Perm Nat) :
    Except MeetupValidationError ParticipantJudgements →
      Except MeetupValidationError ParticipantJudgements → Prop
  | .error e, .error e' => e = e'
  | .ok judgements, .ok judgements' =>
      (∀ i, π i ∈ judgements'.legit ↔ i ∈ judgements.legit) ∧
        (∀ i reason, ⟨π i, reason⟩ ∈ judgements'.excluded ↔ ⟨i, reason⟩ ∈ judgements.excluded) ∧
        judgements'.earlyRewardsPossible = judgements.earlyRewardsPossible
  | _, _ => False

section Judgements

variable {π : Equiv.Perm Nat} {input input' : MeetupInput}

theorem Renames.forall_iff {ps ps' : Participants} (h : Renames π ps ps') {p q : Nat → Prop}
    (heq : ∀ i ∈ ps, q (π i) ↔ p i) : (∀ i ∈ ps', q i) ↔ ∀ i ∈ ps, p i := by
  constructor
  · intro hall i hi
    exact (heq i hi).1 (hall (π i) ((h.mem_iff i).2 hi))
  · intro hall i hi
    have hi := (h.mem_symm_iff i).1 hi
    have hp := (heq _ hi).2 (hall _ hi)
    rw [Equiv.apply_symm_apply] at hp
    exact hp

theorem RenamesExcluded.mem_iff {excluded excluded' : List (ParticipantIndex × ExclusionReason)}
    (h : RenamesExcluded π excluded excluded') (i : Nat) (reason : ExclusionReason) :
    (π i, reason) ∈ excluded' ↔ (i, reason) ∈ excluded := by
  rw [List.Perm.mem_iff h, List.mem_map]
  constructor
  · rintro ⟨⟨j, reason'⟩, hmem, heq⟩
    obtain ⟨hj, rfl⟩ := Prod.mk.inj heq
    rw [← π.injective hj]
    exact hmem
  · intro hmem
    exact ⟨(i, reason), hmem, rfl⟩

theorem RenamesExcluded.mem_fst_iff
    {excluded excluded' : List (ParticipantIndex × ExclusionReason)}
    (h : RenamesExcluded π excluded excluded') (i : Nat) :
    π i ∈ excluded'.map Prod.fst ↔ i ∈ excluded.map Prod.fst := by
  simp only [List.mem_map, Prod.exists, exists_and_right, exists_eq_right, h.mem_iff]

theorem Relabels.votersAmong (h : Relabels π input input') :
    Renames π (votersAmong (List.range input.numParticipants) input.votes)
      (votersAmong (List.range input'.numParticipants) input'.votes) := by
  apply h.range.filter
  intro i hi
  rw [h.vote i (List.mem_range.1 hi)]

theorem Relabels.winningVoters (h : Relabels π input input') (nConfirmed : Nat) :
    Renames π (input.winningVoters nConfirmed) (input'.winningVoters nConfirmed) := by
  apply h.votersAmong.filter
  intro i hi
  rw [h.vote i (List.mem_range.1 (List.mem_of_mem_filter hi))]

theorem Relabels.earlyRewardsPossible (h : Relabels π input input') (nConfirmed : Nat)
    (unanimous : Bool) :
    earlyRewardsPossible (input'.winningVoters nConfirmed) input'.attestations
        input'.numParticipants nConfirmed unanimous =
      earlyRewardsPossible (input.winningVoters nConfirmed) input.attestations
        input.numParticipants nConfirmed unanimous := by
  have hlt : ∀ i ∈ input.winningVoters nConfirmed, i < input.attestations.length := by
    intro i hi
    rw [input.length_eq]
    exact MeetupInput.lt_of_mem_winningVoters hi
  have hlt' : ∀ i ∈ input'.winningVoters nConfirmed, i < input'.attestations.length := by
    intro i hi
    rw [input'.length_eq]
    exact MeetupInput.lt_of_mem_winningVoters hi
  have hvoters := h.winningVoters nConfirmed
  rw [Bool.eq_iff_iff, earlyRewardsPossible_iff hlt, earlyRewardsPossible_iff hlt', h.length_eq]
  have hrow : ∀ i ∈ input.winningVoters nConfirmed,
      rowOf input'.attestations (π i) = (rowOf input.attestations i).map π :=
    fun i hi => h.row i (MeetupInput.lt_of_mem_winningVoters hi)
  have hlengths (length : Nat) : (∀ i ∈ input'.winningVoters nConfirmed,
        (rowOf input'.attestations i).length = length) ↔
      ∀ i ∈ input.winningVoters nConfirmed, (rowOf input.attestations i).length = length := by
    apply hvoters.forall_iff
    intro i hi
    rw [hrow i hi, List.length_map]
  have hconnected : (∀ i ∈ input'.winningVoters nConfirmed, (rowOf input'.attestations i).Perm
        ((input'.winningVoters nConfirmed).filter fun p => p ≠ i)) ↔
      ∀ i ∈ input.winningVoters nConfirmed, (rowOf input.attestations i).Perm
        ((input.winningVoters nConfirmed).filter fun p => p ≠ i) := by
    apply hvoters.forall_iff
    intro i hi
    have hothers : Renames π ((input.winningVoters nConfirmed).filter fun p => p ≠ i)
        ((input'.winningVoters nConfirmed).filter fun p => p ≠ π i) :=
      hvoters.filter fun p _ => not_congr π.injective.eq_iff
    rw [hrow i hi]
    constructor
    · intro hperm
      exact (List.map_perm_map_iff π.injective).1 (hperm.trans hothers)
    · intro hperm
      exact (hperm.map π).trans (List.Perm.symm hothers)
  rw [hlengths, hconnected]

/-- With only one vote that has the most voters, the winner is the same. -/
theorem Relabels.findMajorityVote (h : Relabels π input input')
    (htied : ¬ TiedMajority input.votes) :
    findMajorityVote (MeetupValidation.votersAmong (List.range input'.numParticipants)
        input'.votes) input'.votes =
      findMajorityVote (MeetupValidation.votersAmong (List.range input.numParticipants)
        input.votes) input.votes := by
  have hlt (input : MeetupInput) : ∀ i ∈ MeetupValidation.votersAmong
      (List.range input.numParticipants) input.votes, i < input.votes.length :=
    fun i hi => List.mem_range.1 (List.mem_of_mem_filter hi)
  apply findMajorityVote_of_perm (hlt input) (hlt input')
  · apply h.votersAmong.map_perm
    intro i hi
    exact h.vote i (hlt input i hi)
  · intro v c u w c' u' hv hw
    by_contra hne
    have hvpos := pos_of_mem_votes hv.mem
    have hwpos := pos_of_mem_votes hw.mem
    have hvcount := hv.count_eq
    have hwcount := hw.count_eq
    have hvle := hw.count_le v
    have hwle := hv.count_le w
    have hdependable := hv.dependable
    rw [count_votersAmong input hvpos] at hvcount hvle
    rw [count_votersAmong input hwpos] at hwcount hwle
    refine htied ⟨v, w, hvpos, hwpos, hne, by omega, by omega, ?_⟩
    intro x hx
    have hle := hv.count_le x
    rw [count_votersAmong input hx] at hle
    omega

theorem mem_map_excluded {ps : Participants} {i : Nat} {reason reason' : ExclusionReason} :
    (⟨i, reason⟩ : ExcludedParticipant) ∈ ps.map (fun p => ⟨p, reason'⟩) ↔
      i ∈ ps ∧ reason' = reason := by
  simp

theorem mem_map_excluded_entries {excluded : List (ParticipantIndex × ExclusionReason)} {i : Nat}
    {reason : ExclusionReason} :
    (⟨i, reason⟩ : ExcludedParticipant) ∈ excluded.map (fun p => ⟨p.1, p.2⟩) ↔
      (i, reason) ∈ excluded := by
  simp

/-- Without a tie, the numbers of the participants do not matter. -/
theorem Relabels.judge (h : Relabels π input input') (htied : ¬ TiedMajority input.votes)
    (thresholdFn : Nat → Nat) :
    Relabelled π (input.judge thresholdFn) (input'.judge thresholdFn) := by
  have hsame := h.findMajorityVote htied
  rcases input.judge_cases thresholdFn with ⟨e, hwinner, hjudge⟩ |
    ⟨nConfirmed, voteCount, unanimous, excluded, hwinner, hloop, -, hjudge⟩
  · rcases input'.judge_cases thresholdFn with ⟨e', hwinner', hjudge'⟩ |
      ⟨nConfirmed', voteCount', unanimous', excluded', hwinner', -⟩
    · rw [hsame, hwinner] at hwinner'
      cases hwinner'
      rw [hjudge, hjudge']
      rfl
    · rw [hsame, hwinner] at hwinner'
      cases hwinner'
  · rcases input'.judge_cases thresholdFn with ⟨e', hwinner', hjudge'⟩ |
      ⟨nConfirmed', voteCount', unanimous', excluded', hwinner', hloop', -, hjudge'⟩
    · rw [hsame, hwinner] at hwinner'
      cases hwinner'
    · rw [hsame, hwinner] at hwinner'
      cases hwinner'
      have hvoters := h.winningVoters nConfirmed
      rw [hvoters.length_eq] at hloop'
      have hnil : RenamesExcluded π [] [] := List.Perm.refl []
      have hexcluded := h.exclusionLoop thresholdFn _ hvoters (input.nodup_winningVoters nConfirmed)
        (fun i hi => MeetupInput.lt_of_mem_winningVoters hi) hnil hloop hloop'
      rw [hjudge, hjudge']
      refine ⟨?_, ?_, h.earlyRewardsPossible nConfirmed unanimous⟩
      · intro i
        simp only [MeetupInput.judged, List.mem_filter, decide_eq_true_iff, hvoters.mem_iff,
          hexcluded.mem_fst_iff]
      · intro i reason
        simp only [MeetupInput.judged, List.mem_append, mem_map_excluded,
          mem_map_excluded_entries, hexcluded.mem_iff, List.mem_filter, decide_eq_true_iff,
          h.votersAmong.mem_iff, h.range.mem_iff]
        by_cases hi : i < input.numParticipants
        · rw [h.vote i hi]
        · have hrange : i ∉ List.range input.numParticipants := by
            rw [List.mem_range]
            exact hi
          have hvoted : i ∉ MeetupValidation.votersAmong (List.range input.numParticipants)
              input.votes := fun hmem => hrange (List.mem_of_mem_filter hmem)
          simp only [hrange, hvoted, false_and]

end Judgements

/-! ## Permutations of the numbers -/

def relabelIndex {n : Nat} (σ : Equiv.Perm (Fin n)) : Equiv.Perm Nat :=
  σ.extendDomain Fin.equivSubtype

section Permutations

variable {n : Nat} (σ : Equiv.Perm (Fin n))

theorem relabelIndex_of_lt {i : Nat} (hi : i < n) : relabelIndex σ i = σ ⟨i, hi⟩ :=
  Equiv.Perm.extendDomain_apply_subtype σ Fin.equivSubtype hi

theorem relabelIndex_lt_iff (i : Nat) : relabelIndex σ i < n ↔ i < n := by
  by_cases hi : i < n
  · rw [relabelIndex_of_lt σ hi]
    simp [hi]
  · have hkept : relabelIndex σ i = i :=
      Equiv.Perm.extendDomain_apply_not_subtype σ Fin.equivSubtype hi
    rw [hkept]

theorem relabelIndex_symm : (relabelIndex σ).symm = relabelIndex σ.symm :=
  Equiv.Perm.extendDomain_symm σ Fin.equivSubtype

end Permutations

namespace MeetupInput

variable (input : MeetupInput)

private theorem valueOf_lt (i : Nat) : valueOf input.votes i < 2 ^ 32 := by
  unfold valueOf
  by_cases hi : i < input.votes.length
  · have hvote : input.votes.getD i 0 = input.votes[i] := by simp [hi]
    rw [hvote]
    exact input.votes_lt _ (List.getElem_mem hi)
  · simp [Nat.le_of_not_lt hi]

private theorem length_rowOf_lt (i : Nat) : (rowOf input.attestations i).length < 2 ^ 31 := by
  unfold rowOf
  by_cases hi : i < input.attestations.length
  · have hrow : input.attestations.getD i [] = input.attestations[i] := by simp [hi]
    rw [hrow]
    exact input.rows_lt _ (List.getElem_mem hi)
  · simp [Nat.le_of_not_lt hi]

def relabel (σ : Equiv.Perm (Fin input.numParticipants)) : MeetupInput where
  votes := (List.range input.numParticipants).map fun i =>
    valueOf input.votes ((relabelIndex σ).symm i)
  attestations := (List.range input.numParticipants).map fun i =>
    (rowOf input.attestations ((relabelIndex σ).symm i)).map (relabelIndex σ)
  length_eq := by rw [List.length_map, List.length_map]
  votes_lt := by
    intro vote hvote
    obtain ⟨i, -, rfl⟩ := List.mem_map.1 hvote
    exact input.valueOf_lt _
  length_lt := by
    rw [List.length_map, List.length_range]
    exact input.length_lt
  rows_lt := by
    intro row hrow
    obtain ⟨i, -, rfl⟩ := List.mem_map.1 hrow
    rw [List.length_map]
    exact input.length_rowOf_lt _

variable {input} (σ : Equiv.Perm (Fin input.numParticipants))

theorem valueOf_relabel {i : Nat} (hi : i < input.numParticipants) :
    valueOf (input.relabel σ).votes i = valueOf input.votes ((relabelIndex σ).symm i) := by
  unfold relabel
  rw [valueOf, List.getD_eq_getElem?_getD]
  simp [hi]

private theorem rowOf_relabel {i : Nat} (hi : i < input.numParticipants) :
    rowOf (input.relabel σ).attestations i =
      (rowOf input.attestations ((relabelIndex σ).symm i)).map (relabelIndex σ) := by
  unfold relabel
  rw [rowOf, List.getD_eq_getElem?_getD]
  simp [hi]

theorem relabels : Relabels (relabelIndex σ) input (input.relabel σ) where
  length_eq := by
    unfold relabel Ballots.numParticipants
    rw [List.length_map, List.length_range]
  lt_iff := relabelIndex_lt_iff σ
  vote := by
    intro i hi
    rw [valueOf_relabel σ ((relabelIndex_lt_iff σ i).2 hi), Equiv.symm_apply_apply]
  row := by
    intro i hi
    rw [rowOf_relabel σ ((relabelIndex_lt_iff σ i).2 hi), Equiv.symm_apply_apply]

end MeetupInput

/-! ## Ties -/

private theorem countVote_cons_self (w count : Nat) (rest : List (Nat × Nat)) :
    countVote ((w, count) :: rest) w = (w, count + 1) :: rest := by
  simp [countVote, List.findIdx?_cons]

private theorem foldl_countVote_replicate {value : Nat → Nat} {w : Nat} (ps : List Nat)
    (hps : ∀ i ∈ ps, value i = w) (count : Nat) (rest : List (Nat × Nat)) :
    ps.foldl (fun candidates i => countVote candidates (value i)) ((w, count) :: rest) =
      (w, count + ps.length) :: rest := by
  induction ps generalizing count with
  | nil => rfl
  | cons p ps ih =>
      rw [List.foldl_cons, hps p List.mem_cons_self, countVote_cons_self,
        ih (fun i hi => hps i (List.mem_cons_of_mem p hi)), List.length_cons]
      congr 2
      omega

theorem candidatesOf_append {votes : List Nat} {w : Nat} (before : List Nat) {after : List Nat}
    (hne : after ≠ []) (hbefore : ∀ i ∈ before, valueOf votes i ≠ w)
    (hafter : ∀ i ∈ after, valueOf votes i = w) :
    candidatesOf (before ++ after) votes = (w, after.length) :: candidatesOf before votes := by
  cases after with
  | nil => exact absurd rfl hne
  | cons i rest =>
      have hnew : countVote (candidatesOf before votes) w =
          (w, 1) :: candidatesOf before votes := by
        rcases countVote_cases (candidatesOf before votes) w with ⟨-, heq⟩ |
          ⟨front, count, back, hsplit, -⟩
        · exact heq
        · have hmem : (w, count) ∈ candidatesOf before votes := by
            rw [hsplit]
            simp
          have hvote := (((tally_candidatesOf before votes).mem_iff w count).1 hmem).1
          obtain ⟨j, hj, hvalue⟩ := List.mem_map.1 hvote
          exact absurd hvalue (hbefore j hj)
      unfold candidatesOf at hnew ⊢
      rw [List.foldl_append, List.foldl_cons, hafter i List.mem_cons_self, hnew,
        foldl_countVote_replicate rest (fun j hj => hafter j (List.mem_cons_of_mem i hj)),
        List.length_cons, Nat.add_comm]

theorem winnerOf_cons {w count : Nat} {rest : List (Nat × Nat)}
    (hmax : ∀ candidate ∈ rest, candidate.2 ≤ count) (hdependable : 3 ≤ count) :
    ∃ unanimous, winnerOf ((w, count) :: rest) = .ok (w, count, unanimous) := by
  have hsorted : getOrErr (((w, count) :: rest).insertionSort fun a b => b.2 ≤ a.2) 0 =
      .ok (w, count) := by
    rw [List.insertionSort_cons]
    cases hrest : rest.insertionSort fun a b => b.2 ≤ a.2 with
    | nil => rfl
    | cons first others =>
        have hmem : first ∈ rest := by
          rw [← List.mem_insertionSort fun a b : Nat × Nat => b.2 ≤ a.2, hrest]
          exact List.mem_cons_self
        rw [List.orderedInsert_cons, if_pos (hmax first hmem)]
        rfl
  refine ⟨decide (((w, count) :: rest).length = 1), ?_⟩
  unfold winnerOf
  rw [hsorted]
  simp only [List.isEmpty_cons, Bool.false_eq_true, if_false, bind, Except.bind]
  rw [if_neg (by omega)]

private theorem eq_filter_append_filter {l : List Nat} {p : Nat → Prop} [DecidablePred p]
    (h : l.Pairwise fun a b => p a → p b) :
    l = (l.filter fun i => ¬ p i) ++ l.filter fun i => p i := by
  induction l with
  | nil => rfl
  | cons x l ih =>
      obtain ⟨hhead, htail⟩ := List.pairwise_cons.1 h
      by_cases hx : p x
      · have hall : ∀ i ∈ x :: l, p i := by
          intro i hi
          rcases List.mem_cons.1 hi with rfl | hi
          · exact hx
          · exact hhead i hi hx
        have hnone : (x :: l).filter (fun i => ¬ p i) = [] := by
          rw [List.filter_eq_nil_iff]
          intro i hi
          simpa using hall i hi
        have hself : (x :: l).filter (fun i => p i) = x :: l := by
          rw [List.filter_eq_self]
          intro i hi
          exact decide_eq_true (hall i hi)
        rw [hnone, hself, List.nil_append]
      · rw [List.filter_cons_of_pos (by simpa using hx), List.filter_cons_of_neg (by simpa using hx),
          List.cons_append, ← ih htail]

/-- A vote that has the most voters wins when they are counted last. -/
theorem MeetupInput.winner_of_last (input : MeetupInput) {w : Nat} (hw : 0 < w)
    (hdependable : 3 ≤ input.votes.count w)
    (hmax : ∀ v, 0 < v → input.votes.count v ≤ input.votes.count w)
    (hlast : ∀ i j, i < j → j < input.numParticipants → valueOf input.votes i = w →
      valueOf input.votes j = w) :
    ∃ voteCount unanimous,
      findMajorityVote (votersAmong (List.range input.numParticipants) input.votes)
        input.votes = .ok (w, voteCount, unanimous) := by
  have hlt : ∀ i ∈ votersAmong (List.range input.numParticipants) input.votes,
      i < input.votes.length := fun i hi => List.mem_range.1 (List.mem_of_mem_filter hi)
  have hcount (v : Nat) (hv : 0 < v) := count_votersAmong input hv
  have hpos (v : Nat) (hv : v ∈ (votersAmong (List.range input.numParticipants)
      input.votes).map (valueOf input.votes)) := pos_of_mem_votes hv
  have hpairwise : (votersAmong (List.range input.numParticipants) input.votes).Pairwise
      fun i j => valueOf input.votes i = w → valueOf input.votes j = w := by
    apply (List.pairwise_lt_range.filter _).imp_of_mem
    intro i j _ hj hij hi
    exact hlast i j hij (hlt j hj) hi
  have hsplit := eq_filter_append_filter hpairwise
  revert hlt hcount hpos hsplit
  generalize votersAmong (List.range input.numParticipants) input.votes = voters
  intro hlt hcount hpos hsplit
  have hlength : (voters.filter fun i => valueOf input.votes i = w).length =
      input.votes.count w := by
    rw [← hcount w hw, List.count, List.countP_map, List.countP_eq_length_filter]
    rfl
  have hne : (voters.filter fun i => valueOf input.votes i = w) ≠ [] := by
    intro hnil
    rw [hnil, List.length_nil] at hlength
    omega
  have hcandidates := candidatesOf_append (voters.filter fun i => ¬ valueOf input.votes i = w)
    hne (fun i hi => of_decide_eq_true (List.mem_filter.1 hi).2)
    (fun i hi => of_decide_eq_true (List.mem_filter.1 hi).2)
  rw [← hsplit, hlength] at hcandidates
  have hbelow : ∀ candidate ∈
      candidatesOf (voters.filter fun i => ¬ valueOf input.votes i = w) input.votes,
      candidate.2 ≤ input.votes.count w := by
    rintro ⟨v, c⟩ hmem
    obtain ⟨hv, rfl⟩ := ((tally_candidatesOf _ _).mem_iff v c).1 hmem
    have hsub : ((voters.filter fun i => ¬ valueOf input.votes i = w).map
        (valueOf input.votes)).Sublist (voters.map (valueOf input.votes)) :=
      List.filter_sublist.map _
    have hvpos := hpos v (hsub.subset hv)
    have hle := hsub.count_le v
    rw [hcount v hvpos] at hle
    exact hle.trans (hmax v hvpos)
  obtain ⟨unanimous, hwinner⟩ := winnerOf_cons hbelow hdependable
  refine ⟨input.votes.count w, unanimous, ?_⟩
  rw [findMajorityVote_eq hlt, hcandidates, hwinner]

/-- Each vote that has the most voters wins under some numbers. -/
theorem MeetupInput.exists_winner (input : MeetupInput) {w : Nat} (hw : 0 < w)
    (hdependable : 3 ≤ input.votes.count w)
    (hmax : ∀ v, 0 < v → input.votes.count v ≤ input.votes.count w) :
    ∃ (σ : Equiv.Perm (Fin input.numParticipants)) (voteCount : Nat) (unanimous : Bool),
      findMajorityVote (votersAmong (List.range (input.relabel σ).numParticipants)
        (input.relabel σ).votes) (input.relabel σ).votes = .ok (w, voteCount, unanimous) := by
  let isLast : Fin input.numParticipants → Nat := fun i =>
    if valueOf input.votes i = w then 1 else 0
  let σ : Equiv.Perm (Fin input.numParticipants) := (Tuple.sort isLast).symm
  have hrelabels := MeetupInput.relabels σ
  have hvalue (i : Nat) (hi : i < input.numParticipants) :
      valueOf (input.relabel σ).votes i = valueOf input.votes (Tuple.sort isLast ⟨i, hi⟩) := by
    rw [MeetupInput.valueOf_relabel σ hi, relabelIndex_symm, relabelIndex_of_lt σ.symm hi]
    rfl
  have hlast (i j : Nat) (hij : i < j) (hj : j < input.numParticipants)
      (hi : valueOf (input.relabel σ).votes i = w) : valueOf (input.relabel σ).votes j = w := by
    have hle : (⟨i, hij.trans hj⟩ : Fin input.numParticipants) ≤ ⟨j, hj⟩ := Nat.le_of_lt hij
    have hmono := Tuple.monotone_sort isLast hle
    rw [hvalue i (hij.trans hj)] at hi
    rw [hvalue j hj]
    by_contra hne
    simp only [Function.comp_apply, isLast, if_pos hi, if_neg hne] at hmono
    omega
  have hcount (v : Nat) (hv : 0 < v) :
      (input.relabel σ).votes.count v = input.votes.count v := by
    have hperm := hrelabels.votersAmong.map_perm
      fun i hi => hrelabels.vote i (List.mem_range.1 (List.mem_of_mem_filter hi))
    rw [← count_votersAmong (input.relabel σ) hv, hperm.count_eq, count_votersAmong input hv]
  refine ⟨σ, MeetupInput.winner_of_last (input.relabel σ) hw ?_ ?_ ?_⟩
  · rw [hcount w hw]
    exact hdependable
  · intro v hv
    rw [hcount v hv, hcount w hw]
    exact hmax v hv
  · intro i j hij hj
    exact hlast i j hij (hrelabels.length_eq ▸ hj)

theorem TiedMajority.other {votes : List Nat} (h : TiedMajority votes) (v : Nat) :
    ∃ w, 0 < w ∧ w ≠ v ∧ 3 ≤ votes.count w ∧ ∀ u, 0 < u → votes.count u ≤ votes.count w := by
  obtain ⟨a, b, ha, hb, hne, hdependable, hcount, hmax⟩ := h
  by_cases hav : a = v
  · refine ⟨b, hb, fun hbv => hne (hav.trans hbv.symm), by omega, ?_⟩
    rw [hcount]
    exact hmax
  · exact ⟨a, ha, hav, hdependable, hmax⟩

/-- In a judgement, no voter for the winner has a wrong vote, and all other voters have. -/
theorem MeetupInput.wrongVote_mem_judged (input : MeetupInput) {thresholdFn : Nat → Nat}
    {nConfirmed : Nat} {unanimous : Bool}
    {excluded : List (ParticipantIndex × ExclusionReason)}
    (hends : LoopEnds thresholdFn input.attestations (input.winningVoters nConfirmed) excluded)
    (i : Nat) :
    ⟨i, .wrongVote⟩ ∈ (input.judged nConfirmed unanimous excluded).excluded ↔
      i ∈ votersAmong (List.range input.numParticipants) input.votes ∧
        valueOf input.votes i ≠ nConfirmed := by
  have hnot : (i, ExclusionReason.wrongVote) ∉ excluded := by
    intro hmem
    rcases hends.reasons _ hmem with heq | heq <;> cases heq
  simp only [judged, List.mem_append, mem_map_excluded, mem_map_excluded_entries, hnot,
    List.mem_filter, decide_eq_true_iff, or_false]
  simp

/--
The judgement does not depend on the numbers of the participants, unless two votes have the most
voters.
-/
theorem judgements_relabelled_iff (input : MeetupInput) (thresholdFn : Nat → Nat) :
    (∀ σ : Equiv.Perm (Fin input.numParticipants),
      Relabelled (relabelIndex σ) (input.judge thresholdFn)
        ((input.relabel σ).judge thresholdFn)) ↔
      ¬ TiedMajority input.votes := by
  constructor
  · intro hall htied
    rcases input.judge_cases thresholdFn with ⟨e, hwinner, -⟩ |
      ⟨nConfirmed, voteCount, unanimous, excluded, hwinner, -, hends, hjudge⟩
    · -- there is a winner, as three participants agree
      have hlt : ∀ i ∈ votersAmong (List.range input.numParticipants) input.votes,
          i < input.votes.length := fun i hi => List.mem_range.1 (List.mem_of_mem_filter hi)
      obtain ⟨w, hw, -, hdependable, -⟩ := htied.other 0
      rw [← count_votersAmong input hw] at hdependable
      obtain ⟨winner, hok⟩ := (findMajorityVote_spec hlt).2 ⟨w, hdependable⟩
      rw [hwinner] at hok
      cases hok
    · -- a tied vote that does not win here wins under other numbers
      obtain ⟨w, hw, hne, hdependable, hmax⟩ := htied.other nConfirmed
      obtain ⟨σ, voteCount', unanimous', hwinner'⟩ := input.exists_winner hw hdependable hmax
      have hrelabels := MeetupInput.relabels σ
      have hsame := hall σ
      have hvoter : w ∈ (votersAmong (List.range input.numParticipants) input.votes).map
          (valueOf input.votes) := by
        rw [← List.count_pos_iff, count_votersAmong input hw]
        omega
      obtain ⟨i, hi, hvote⟩ := List.mem_map.1 hvoter
      have hlt : i < input.numParticipants := List.mem_range.1 (List.mem_of_mem_filter hi)
      rcases (input.relabel σ).judge_cases thresholdFn with ⟨e, herror, -⟩ |
        ⟨nConfirmed', _, unanimous'', excluded', hwinner'', -, hends', hjudge'⟩
      · rw [hwinner'] at herror
        cases herror
      · rw [hwinner'] at hwinner''
        cases hwinner''
        rw [hjudge, hjudge'] at hsame
        obtain ⟨-, hexcluded, -⟩ := hsame
        have hwrong := hexcluded i .wrongVote
        rw [input.wrongVote_mem_judged hends, (input.relabel σ).wrongVote_mem_judged hends',
          hrelabels.vote i hlt] at hwrong
        exact (hwrong.2 ⟨hi, fun heq => hne (hvote.symm.trans heq)⟩).2 hvote
  · intro htied σ
    exact (MeetupInput.relabels σ).judge htied thresholdFn

/-- Two groups of three, each of which votes for another number and attests its own members. -/
def tiedInput : MeetupInput where
  votes := [3, 3, 3, 4, 4, 4]
  attestations := [[1, 2], [0, 2], [0, 1], [4, 5], [3, 5], [3, 4]]
  length_eq := rfl
  votes_lt := by decide
  length_lt := by decide
  rows_lt := by decide

def backwards : Equiv.Perm (Fin tiedInput.numParticipants) := Fin.revPerm

/-- The group that is counted last is legit: the second one, and the first in backward order. -/
theorem judgements_depend_on_numbers :
    (tiedInput.judge attestationThresholdFn).toOption.map (·.legit) = some [3, 4, 5] ∧
      ((tiedInput.relabel backwards).judge attestationThresholdFn).toOption.map (·.legit) =
        some [3, 4, 5] ∧
      ¬ Relabelled (relabelIndex backwards) (tiedInput.judge attestationThresholdFn)
        ((tiedInput.relabel backwards).judge attestationThresholdFn) := by
  have hjudge : tiedInput.judge attestationThresholdFn =
      .ok ⟨[3, 4, 5], [⟨0, .wrongVote⟩, ⟨1, .wrongVote⟩, ⟨2, .wrongVote⟩], false⟩ := by
    decide +kernel
  have hjudge' : (tiedInput.relabel backwards).judge attestationThresholdFn =
      .ok ⟨[3, 4, 5], [⟨0, .wrongVote⟩, ⟨1, .wrongVote⟩, ⟨2, .wrongVote⟩], false⟩ := by
    decide +kernel
  have hindex : relabelIndex backwards 3 = 2 := by decide +kernel
  rw [hjudge, hjudge']
  refine ⟨rfl, rfl, ?_⟩
  rintro ⟨hlegit, -⟩
  have hthree := (hlegit 3).2 (by decide)
  rw [hindex] at hthree
  exact absurd hthree (by decide)

end Encointer.MeetupValidation
