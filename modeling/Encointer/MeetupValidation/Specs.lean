import Encointer.Library.Machine
import Mathlib.Data.List.Sort
import Mathlib.Data.List.Induction
import Encointer.MeetupValidation.Judgements

/-!
# What each validation step computes

One lemma for each function of the meetup validation; the safety arguments
cite these and unfold no function again.
-/

namespace Encointer.MeetupValidation

open Checked

/-! ## Lookups -/

/-- The vote, count or number stored for `i`; callers know that `i` is in range. -/
def valueOf (values : List Nat) (i : Nat) : Nat := values.getD i 0

theorem zipIdx_eq_map_range (attestations : Attestations) :
    attestations.zipIdx =
      (List.range attestations.length).map fun i => (attestations.getD i [], i) := by
  refine List.ext_getElem (by simp) fun i h _ => ?_
  have hi : i < attestations.length := by simpa using h
  simp [hi]

/-- Sorting forgets the order only. -/
theorem insertionSort_eq_iff_perm (xs ys : List Nat) :
    xs.insertionSort (· ≤ ·) = ys.insertionSort (· ≤ ·) ↔ xs.Perm ys := by
  have hxs := List.perm_insertionSort (· ≤ ·) xs
  have hys := List.perm_insertionSort (· ≤ ·) ys
  constructor
  · intro heq
    rw [heq] at hxs
    exact hxs.symm.trans hys
  · intro hperm
    exact ((hxs.trans hperm).trans hys.symm).eq_of_pairwise' (List.pairwise_insertionSort _ xs)
      (List.pairwise_insertionSort _ ys)

private theorem getOrErr_of_lt {values : List Nat} {i : Nat} (h : i < values.length) :
    getOrErr values i = .ok (valueOf values i) := by
  simp [getOrErr, valueOf, List.getElem?_eq_getElem h]

/-- A fold that looks up its elements does not fail on indices in range. -/
theorem foldlM_getOrErr {β : Type} (g : β → Nat → Nat → β) (xs values : List Nat) (acc : β)
    (h : ∀ i ∈ xs, i < values.length) :
    xs.foldlM (fun acc i => do
        let value ← getOrErr values i
        Except.ok (g acc i value)) acc =
      .ok (xs.foldl (fun acc i => g acc i (valueOf values i)) acc) := by
  induction xs generalizing acc with
  | nil => rfl
  | cons x xs ih =>
      rw [List.foldlM_cons, getOrErr_of_lt (h x List.mem_cons_self)]
      exact ih _ fun i hi => h i (List.mem_cons_of_mem x hi)

theorem foldl_append_if {α β : Type} (p : α → Prop) [DecidablePred p] (f : α → β) (xs : List α)
    (acc : List β) :
    xs.foldl (fun acc x => if p x then acc ++ [f x] else acc) acc =
      acc ++ (xs.filter p).map f := by
  induction xs generalizing acc with
  | nil => simp
  | cons x xs ih =>
      by_cases hp : p x
      · simp [ih, hp]
      · simp [ih, hp]

theorem getExcludedParticipantsNoVote_eq {participants : Participants} {votes : List Nat}
    (h : ∀ i ∈ participants, i < votes.length) :
    getExcludedParticipantsNoVote participants votes =
      .ok ((participants.filter fun i => valueOf votes i = 0).map fun i => (i, .noVote)) := by
  unfold getExcludedParticipantsNoVote
  rw [foldlM_getOrErr (fun excluded i vote =>
    if 0 < vote then excluded else excluded ++ [(i, ExclusionReason.noVote)]) _ _ _ h]
  have hswap : (fun (excluded : List (ParticipantIndex × ExclusionReason)) i =>
      if 0 < valueOf votes i then excluded else excluded ++ [(i, ExclusionReason.noVote)]) =
      fun excluded i => if valueOf votes i = 0 then excluded ++ [(i, .noVote)] else excluded := by
    funext excluded i
    by_cases hv : valueOf votes i = 0
    · simp [hv]
    · simp [hv, Nat.pos_of_ne_zero hv]
  rw [hswap, foldl_append_if, List.nil_append]

theorem getExcludedParticipantsWrongVote_eq {participants : Participants} {votes : List Nat}
    {nConfirmed : Nat} (h : ∀ i ∈ participants, i < votes.length) :
    getExcludedParticipantsWrongVote participants votes nConfirmed =
      .ok ((participants.filter fun i => valueOf votes i ≠ nConfirmed).map
        fun i => (i, .wrongVote)) := by
  unfold getExcludedParticipantsWrongVote
  rw [foldlM_getOrErr (fun excluded i vote =>
    if vote ≠ nConfirmed then excluded ++ [(i, ExclusionReason.wrongVote)] else excluded) _ _ _ h,
    foldl_append_if, List.nil_append]

theorem excludeParticipants_eq (judgements : ParticipantJudgements) (p : Nat → Prop)
    [DecidablePred p] (reason : ExclusionReason) :
    judgements.excludeParticipants ((judgements.legit.filter p).map fun i => (i, reason)) =
      { judgements with
        legit := judgements.legit.filter fun i => ¬ p i
        excluded := judgements.excluded ++ (judgements.legit.filter p).map fun i => ⟨i, reason⟩ } := by
  simp only [ParticipantJudgements.excludeParticipants, List.map_map]
  congr 1
  refine List.filter_congr fun i hi => ?_
  simp [hi]

/-! ## The majority vote -/

/-- `candidates` counts the votes. -/
structure Tally (votes : List Nat) (candidates : List (Nat × Nat)) : Prop where
  nodup : (candidates.map Prod.fst).Nodup
  mem_iff : ∀ v c, (v, c) ∈ candidates ↔ v ∈ votes ∧ c = votes.count v

theorem countVote_cases (candidates : List (Nat × Nat)) (vote : Nat) :
    (vote ∉ candidates.map Prod.fst ∧ countVote candidates vote = (vote, 1) :: candidates) ∨
      ∃ before count after, candidates = before ++ (vote, count) :: after ∧
        countVote candidates vote = before ++ (vote, count + 1) :: after := by
  unfold countVote
  cases hidx : candidates.findIdx? fun candidate => candidate.1 = vote with
  | none =>
      refine Or.inl ⟨fun hmem => ?_, rfl⟩
      obtain ⟨candidate, hcand, heq⟩ := List.mem_map.mp hmem
      have := List.findIdx?_eq_none_iff.mp hidx candidate hcand
      simp [heq] at this
  | some idx =>
      obtain ⟨hlt, hvote, -⟩ := List.findIdx?_eq_some_iff_getElem.mp hidx
      obtain ⟨before, candidate, after, hsplit, hlen, hmodify⟩ :=
        List.exists_of_modify (fun c : Nat × Nat => (c.1, c.2 + 1)) hlt
      obtain ⟨v, count⟩ := candidate
      have hv : v = vote := by
        subst hsplit
        simpa [← hlen] using hvote
      subst hv
      exact Or.inr ⟨before, count, after, hsplit, hmodify⟩

theorem Tally.countVote {votes : List Nat} {candidates : List (Nat × Nat)}
    (h : Tally votes candidates) (vote : Nat) :
    Tally (votes ++ [vote]) (countVote candidates vote) := by
  rcases countVote_cases candidates vote with ⟨hnew, heq⟩ | ⟨before, count, after, hsplit, heq⟩
  · have hvote : vote ∉ votes := fun hmem =>
      hnew (List.mem_map.mpr ⟨_, (h.mem_iff vote _).mpr ⟨hmem, rfl⟩, rfl⟩)
    rw [heq]
    refine ⟨List.nodup_cons.mpr ⟨hnew, h.nodup⟩, fun v c => ?_⟩
    rw [List.mem_cons, h.mem_iff, Prod.mk.injEq, List.mem_append, List.mem_singleton,
      List.count_append, List.count_singleton]
    by_cases hv : v = vote
    · subst hv
      simp [hvote, List.count_eq_zero.mpr hvote]
    · simp [hv, Ne.symm hv]
  · subst hsplit
    have hnodup := h.nodup
    rw [heq]
    refine ⟨by simpa using hnodup, fun v c => ?_⟩
    have hcount := (h.mem_iff vote count).mp (by simp)
    rw [List.count_append, List.count_singleton]
    by_cases hv : v = vote
    · subst hv
      have hfst : ∀ c, (v, c) ∉ before ∧ (v, c) ∉ after := by
        intro c
        simp only [List.map_append, List.map_cons, List.nodup_append, List.nodup_cons] at hnodup
        refine ⟨fun hmem => ?_, fun hmem => ?_⟩
        · exact hnodup.2.2 v (List.mem_map.mpr ⟨_, hmem, rfl⟩) v List.mem_cons_self rfl
        · exact hnodup.2.1.1 (List.mem_map.mpr ⟨_, hmem, rfl⟩)
      simp [(hfst c).1, (hfst c).2, hcount.2]
    · have := h.mem_iff v c
      simp only [List.mem_append, List.mem_cons, Prod.mk.injEq, hv, false_and, false_or] at this ⊢
      simp [this, Ne.symm hv]

theorem Tally.foldl {votes : List Nat} {candidates : List (Nat × Nat)}
    (h : Tally votes candidates) (xs : List Nat) (vote : Nat → Nat) :
    Tally (votes ++ xs.map vote)
      (xs.foldl (fun candidates i => MeetupValidation.countVote candidates (vote i)) candidates) := by
  induction xs generalizing votes candidates with
  | nil => simpa using h
  | cons x xs ih => simpa using ih (h.countVote (vote x))

theorem Tally.nil : Tally [] [] := ⟨List.nodup_nil, by simp⟩

theorem head_sorted_candidates (candidates : List (Nat × Nat)) (h : candidates ≠ []) :
    ∃ v c, getOrErr (candidates.insertionSort fun a b => b.2 ≤ a.2) 0 = .ok (v, c) ∧
      (v, c) ∈ candidates ∧ ∀ candidate ∈ candidates, candidate.2 ≤ c := by
  have hpairwise := List.pairwise_insertionSort (fun a b : Nat × Nat => b.2 ≤ a.2) candidates
  cases hsorted : candidates.insertionSort fun a b => b.2 ≤ a.2 with
  | nil =>
      have := List.length_insertionSort (fun a b : Nat × Nat => b.2 ≤ a.2) candidates
      rw [hsorted] at this
      exact absurd (List.length_eq_zero_iff.mp this.symm) h
  | cons head rest =>
      have hmem : ∀ candidate, candidate ∈ head :: rest ↔ candidate ∈ candidates :=
        fun candidate => by rw [← hsorted, List.mem_insertionSort]
      rw [hsorted, List.pairwise_cons] at hpairwise
      refine ⟨head.1, head.2, rfl, (hmem head).mp List.mem_cons_self, fun candidate hc => ?_⟩
      rcases List.mem_cons.mp ((hmem candidate).mpr hc) with rfl | hrest
      · exact Nat.le_refl _
      · exact hpairwise.1 candidate hrest

/-- The winner has at least three votes and no candidate has more. -/
structure MajorityVote (votes : List Nat) (nConfirmed voteCount : Nat) (unanimous : Bool) :
    Prop where
  mem : nConfirmed ∈ votes
  count_eq : voteCount = votes.count nConfirmed
  dependable : 3 ≤ voteCount
  count_le : ∀ v, votes.count v ≤ voteCount
  unanimous_iff : unanimous = true ↔ ∀ v ∈ votes, v = nConfirmed

theorem Tally.unanimous_iff {votes : List Nat} {candidates : List (Nat × Nat)}
    (h : Tally votes candidates) {v : Nat} (hv : v ∈ votes) :
    candidates.length = 1 ↔ ∀ w ∈ votes, w = v := by
  have hmem := (h.mem_iff v _).mpr ⟨hv, rfl⟩
  constructor
  · intro hlen w hw
    obtain ⟨candidate, rfl⟩ := List.length_eq_one_iff.mp hlen
    have hw' := (h.mem_iff w _).mpr ⟨hw, rfl⟩
    rw [List.mem_singleton] at hmem hw'
    exact congrArg Prod.fst (hw'.trans hmem.symm)
  · intro hall
    have hkeys : candidates.map Prod.fst ⊆ [v] := fun w hw => by
      obtain ⟨⟨w', c⟩, hc, rfl⟩ := List.mem_map.mp hw
      exact List.mem_singleton.mpr (hall w' ((h.mem_iff w' c).mp hc).1)
    have hle : (candidates.map Prod.fst).length ≤ 1 :=
      (List.subperm_of_subset h.nodup hkeys).length_le
    have hpos := List.length_pos_of_mem hmem
    rw [List.length_map] at hle
    omega

def winnerOf (candidates : List (Nat × Nat)) :
    Except MeetupValidationError (Nat × Nat × Bool) :=
  if candidates.isEmpty then
    .error .ballotEmpty
  else do
    let (nConfirmed, voteCount) ← getOrErr (candidates.insertionSort fun a b => b.2 ≤ a.2) 0
    if voteCount < 3 then
      .error .noDependableVote
    else
      .ok (nConfirmed, voteCount, decide (candidates.length = 1))

def candidatesOf (participants : Participants) (votes : List Nat) : List (Nat × Nat) :=
  participants.foldl (fun candidates i => countVote candidates (valueOf votes i)) []

theorem findMajorityVote_eq {participants : Participants} {votes : List Nat}
    (h : ∀ i ∈ participants, i < votes.length) :
    findMajorityVote participants votes = winnerOf (candidatesOf participants votes) := by
  unfold findMajorityVote
  rw [foldlM_getOrErr (fun candidates _ vote => countVote candidates vote) _ _ _ h]
  rfl

theorem tally_candidatesOf (participants : Participants) (votes : List Nat) :
    Tally (participants.map (valueOf votes)) (candidatesOf participants votes) := by
  have htally := Tally.nil.foldl participants (valueOf votes)
  rw [List.nil_append] at htally
  exact htally

theorem winnerOf_of_ne_nil {candidates : List (Nat × Nat)} (hne : candidates ≠ []) :
    ∃ v c, getOrErr (candidates.insertionSort fun a b => b.2 ≤ a.2) 0 = .ok (v, c) ∧
      (v, c) ∈ candidates ∧ (∀ candidate ∈ candidates, candidate.2 ≤ c) ∧
      winnerOf candidates =
        if c < 3 then .error .noDependableVote
        else .ok (v, c, decide (candidates.length = 1)) := by
  obtain ⟨v, c, hhead, hmem, hmax⟩ := head_sorted_candidates candidates hne
  have hempty : candidates.isEmpty = false := List.isEmpty_eq_false_iff.2 hne
  refine ⟨v, c, hhead, hmem, hmax, ?_⟩
  unfold winnerOf
  simp only [hempty, hhead, Bool.false_eq_true, if_false, bind, Except.bind]

theorem Tally.count_le {votes : List Nat} {candidates : List (Nat × Nat)}
    (h : Tally votes candidates) {c : Nat} (hmax : ∀ candidate ∈ candidates, candidate.2 ≤ c)
    (v : Nat) : votes.count v ≤ c := by
  by_cases hv : v ∈ votes
  · exact hmax _ ((h.mem_iff v _).2 ⟨hv, rfl⟩)
  · rw [List.count_eq_zero.2 hv]
    exact Nat.zero_le c

theorem Tally.eq_nil_iff {votes : List Nat} {candidates : List (Nat × Nat)}
    (h : Tally votes candidates) : candidates = [] ↔ votes = [] := by
  constructor
  · intro hnil
    rw [List.eq_nil_iff_forall_not_mem]
    intro v hv
    have hmem := (h.mem_iff v _).2 ⟨hv, rfl⟩
    rw [hnil] at hmem
    cases hmem
  · intro hnil
    rw [List.eq_nil_iff_forall_not_mem]
    intro candidate hmem
    have hv := ((h.mem_iff candidate.1 candidate.2).1 hmem).1
    rw [hnil] at hv
    cases hv

/-- The winner of the participants' votes; there is one when some vote has three voters. -/
theorem findMajorityVote_spec {participants : Participants} {votes : List Nat}
    (h : ∀ i ∈ participants, i < votes.length) :
    (∀ nConfirmed voteCount unanimous,
      findMajorityVote participants votes = .ok (nConfirmed, voteCount, unanimous) →
        MajorityVote (participants.map (valueOf votes)) nConfirmed voteCount unanimous) ∧
      ((∃ v, 3 ≤ (participants.map (valueOf votes)).count v) →
        ∃ winner, findMajorityVote participants votes = .ok winner) := by
  have htally := tally_candidatesOf participants votes
  rw [findMajorityVote_eq h]
  by_cases hcands : candidatesOf participants votes = []
  · have hvotes := htally.eq_nil_iff.1 hcands
    rw [hcands, hvotes]
    exact ⟨by simp [winnerOf], by simp⟩
  · obtain ⟨v, c, -, hmem, hmax, hwinner⟩ := winnerOf_of_ne_nil hcands
    obtain ⟨hv, hc⟩ := (htally.mem_iff v c).1 hmem
    have hle := htally.count_le hmax
    rw [hwinner]
    by_cases hdep : c < 3
    · rw [if_pos hdep]
      refine ⟨by simp, ?_⟩
      rintro ⟨w, hw⟩
      have hle := hle w
      omega
    · rw [if_neg hdep]
      refine ⟨?_, fun _ => ⟨_, rfl⟩⟩
      intro nConfirmed voteCount unanimous heq
      obtain ⟨rfl, rfl, rfl⟩ : v = nConfirmed ∧ c = voteCount ∧
          decide ((candidatesOf participants votes).length = 1) = unanimous := by
        simpa using heq
      exact ⟨hv, hc, by omega, hle, by rw [decide_eq_true_iff]; exact htally.unanimous_iff hv⟩

/-- There is no winner without votes, or without a vote that three cast. -/
theorem findMajorityVote_error {participants : Participants} {votes : List Nat}
    (h : ∀ i ∈ participants, i < votes.length) {e : MeetupValidationError}
    (he : findMajorityVote participants votes = .error e) :
    (e = .ballotEmpty ∧ participants = []) ∨
      (e = .noDependableVote ∧ participants ≠ [] ∧
        ∀ v, (participants.map (valueOf votes)).count v < 3) := by
  have htally := tally_candidatesOf participants votes
  rw [findMajorityVote_eq h] at he
  by_cases hcands : candidatesOf participants votes = []
  · have hvotes := htally.eq_nil_iff.1 hcands
    rw [hcands] at he
    cases he
    exact .inl ⟨rfl, List.map_eq_nil_iff.1 hvotes⟩
  · obtain ⟨v, c, -, -, hmax, hwinner⟩ := winnerOf_of_ne_nil hcands
    have hle := htally.count_le hmax
    rw [hwinner] at he
    by_cases hdep : c < 3
    · rw [if_pos hdep] at he
      cases he
      refine .inr ⟨rfl, ?_, fun w => (hle w).trans_lt hdep⟩
      rintro rfl
      exact hcands rfl
    · rw [if_neg hdep] at he
      cases he

/-! ## Groups -/

/-- The first group of `grouped` holds elements of `xs` that have its value. -/
def Leads (value : Nat → Nat) (xs : List Nat) (first : Nat) (grouped : List ParticipantGroup) :
    Prop :=
  ∃ group rest, grouped = (first, group) :: rest ∧ group ≠ [] ∧
    ∀ p ∈ group, p ∈ xs ∧ value p = first

theorem Leads.pushIntoGroup {value : Nat → Nat} {xs : List Nat} {first : Nat}
    {grouped : List ParticipantGroup} (h : Leads value xs first grouped) {p : Nat} (hp : p ∈ xs) :
    Leads value xs first (pushIntoGroup grouped (value p) p) := by
  obtain ⟨group, rest, rfl, hne, hgroup⟩ := h
  cases rest using List.reverseRecOn with
  | nil =>
      by_cases hv : first = value p
      · refine ⟨group ++ [p], [], by simp [MeetupValidation.pushIntoGroup, hv], by simp, ?_⟩
        intro q hq
        rcases List.mem_append.mp hq with hq | hq
        · exact hgroup q hq
        · obtain rfl := List.mem_singleton.mp hq
          exact ⟨hp, hv.symm⟩
      · exact ⟨group, [(value p, [p])], by simp [MeetupValidation.pushIntoGroup, hv], hne, hgroup⟩
  | append_singleton rest last =>
      have hlast : ((first, group) :: (rest ++ [last])).getLast? = some last := by
        rw [← List.cons_append, List.getLast?_concat]
      have hdrop : ((first, group) :: (rest ++ [last])).dropLast = (first, group) :: rest := by
        rw [← List.cons_append, List.dropLast_concat]
      unfold MeetupValidation.pushIntoGroup
      rw [hlast]
      by_cases hv : last.1 = value p
      · simp only [if_pos hv, hdrop]
        exact ⟨group, _, rfl, hne, hgroup⟩
      · simp only [if_neg hv]
        exact ⟨group, _, rfl, hne, hgroup⟩

theorem Leads.foldl {value : Nat → Nat} {xs : List Nat} {first : Nat}
    {grouped : List ParticipantGroup} (h : Leads value xs first grouped) (ps : List Nat)
    (hps : ps ⊆ xs) :
    Leads value xs first
      (ps.foldl (fun grouped p => MeetupValidation.pushIntoGroup grouped (value p) p) grouped) := by
  induction ps generalizing grouped with
  | nil => exact h
  | cons p ps ih =>
      have hp : p ∈ xs := hps List.mem_cons_self
      exact ih (h.pushIntoGroup hp) fun q hq => hps (List.mem_cons_of_mem p hq)

/-- The first group: some of the indices with the value that is least as `i32`. -/
theorem groupIndicesByValue_spec {indices : Participants} (values : List Nat)
    (hne : indices ≠ []) (h : ∀ i ∈ indices, i < values.length) :
    ∃ groups least, groupIndicesByValue indices values = .ok groups ∧
      getOrErr groups 0 = .ok least ∧ least.2 ≠ [] ∧
      (∀ p ∈ least.2, p ∈ indices ∧ valueOf values p = least.1) ∧
      ∀ i ∈ indices, asI32 least.1 ≤ asI32 (valueOf values i) := by
  let r : Nat → Nat → Prop := fun a b => asI32 (values.getD a 0) ≤ asI32 (values.getD b 0)
  have hbounds : (indices.any fun i => values.length ≤ i) = false := by
    rw [List.any_eq_false]
    intro i hi
    simpa using h i hi
  have htotal : Std.Total r := ⟨fun a b => le_total _ _⟩
  have htrans : IsTrans Nat r := ⟨fun a b c hab hbc => le_trans hab hbc⟩
  have hmem : ∀ i, i ∈ indices.insertionSort r ↔ i ∈ indices := fun i => List.mem_insertionSort r
  have hpairwise := List.pairwise_insertionSort r indices
  unfold groupIndicesByValue
  rw [hbounds]
  simp only [Bool.false_eq_true, if_false]
  rw [foldlM_getOrErr (fun grouped p value => pushIntoGroup grouped value p) _ _ _
    fun i hi => h i ((hmem i).mp hi)]
  change ∃ groups least, Except.ok ((indices.insertionSort r).foldl _ []) = Except.ok groups ∧ _
  cases hsorted : indices.insertionSort r with
  | nil =>
      have := List.length_insertionSort r indices
      rw [hsorted] at this
      exact absurd (List.length_eq_zero_iff.mp this.symm) hne
  | cons head rest =>
      rw [hsorted] at hmem hpairwise
      have hstart : Leads (valueOf values) indices (valueOf values head)
          (pushIntoGroup [] (valueOf values head) head) := by
        refine ⟨[head], [], rfl, by simp, fun p hp => ?_⟩
        obtain rfl := List.mem_singleton.mp hp
        exact ⟨(hmem p).mp List.mem_cons_self, rfl⟩
      obtain ⟨group, groups, hgroups, hgne, hgroup⟩ := hstart.foldl rest fun p hp =>
        (hmem p).mp (List.mem_cons_of_mem head hp)
      refine ⟨_, (valueOf values head, group), rfl, ?_, hgne, hgroup, fun i hi => ?_⟩
      · rw [List.foldl_cons, hgroups]
        rfl
      · rcases List.mem_cons.mp ((hmem i).mpr hi) with rfl | hrest
        · exact le_refl _
        · exact (List.pairwise_cons.mp hpairwise).1 i hrest

/-! ## All steps -/

def votersAmong (participants : Participants) (votes : List Nat) : Participants :=
  participants.filter fun i => ¬ valueOf votes i = 0

def votersFor (participants : Participants) (votes : List Nat) (nConfirmed : Nat) :
    Participants :=
  (votersAmong participants votes).filter fun i => ¬ valueOf votes i ≠ nConfirmed

theorem getParticipantJudgements_eq {participants : Participants} {votes : List Nat}
    (h : ∀ i ∈ participants, i < votes.length) (attestations : Attestations)
    (thresholdFn : Nat → Nat) :
    getParticipantJudgements participants votes attestations thresholdFn = (do
      let (nConfirmed, _, voteIsUnanimous) ←
        findMajorityVote (votersAmong participants votes) votes
      let excluded ← getExcludedParticipantsNumAttestations
        (votersFor participants votes nConfirmed) attestations thresholdFn
      .ok {
        legit := (votersFor participants votes nConfirmed).filter fun i =>
          i ∉ excluded.map Prod.fst
        excluded :=
          ((participants.filter fun i => valueOf votes i = 0).map fun i => ⟨i, .noVote⟩) ++
            (((votersAmong participants votes).filter fun i => valueOf votes i ≠ nConfirmed).map
              fun i => ⟨i, .wrongVote⟩) ++
            excluded.map fun p => ⟨p.1, p.2⟩
        earlyRewardsPossible := earlyRewardsPossible (votersFor participants votes nConfirmed)
          attestations participants.length nConfirmed voteIsUnanimous }) := by
  have hvoters : ∀ i ∈ votersAmong participants votes, i < votes.length :=
    fun i hi => h i (List.mem_of_mem_filter hi)
  unfold getParticipantJudgements
  simp only [getExcludedParticipantsNoVote_eq h, bind, Except.bind]
  rw [excludeParticipants_eq ⟨participants, [], false⟩ (fun i => valueOf votes i = 0)]
  have hfold : participants.filter (fun i => ¬ valueOf votes i = 0) =
      votersAmong participants votes := rfl
  have hfoldLegit : ∀ n, (votersAmong participants votes).filter
      (fun i => ¬ valueOf votes i ≠ n) = votersFor participants votes n := fun n => rfl
  simp only [hfold]
  cases hvote : findMajorityVote (votersAmong participants votes) votes with
  | error err => rfl
  | ok winner =>
      simp only [getExcludedParticipantsWrongVote_eq hvoters]
      rw [excludeParticipants_eq ⟨votersAmong participants votes, _, false⟩
        (fun i => valueOf votes i ≠ winner.1)]
      simp only [hfoldLegit, ParticipantJudgements.excludeParticipants, List.nil_append]

/-! ## Legit participants -/

theorem legit_sublist {participants : Participants} {votes : List Nat}
    {attestations : Attestations} {thresholdFn : Nat → Nat} {judgements : ParticipantJudgements}
    (h : getParticipantJudgements participants votes attestations thresholdFn = .ok judgements) :
    judgements.legit.Sublist participants := by
  simp only [getParticipantJudgements, bind_eq_ok, ok_inj] at h
  obtain ⟨noVote, -, ⟨nConfirmed, _, voteIsUnanimous⟩, -, wrongVote, -, numAttestations, -, rfl⟩ := h
  exact List.filter_sublist.trans (List.filter_sublist.trans List.filter_sublist)

end Encointer.MeetupValidation
