import Encointer.MeetupValidation.Specs

/-!
# Rounds of the exclusion loop

A round removes all participants with the least number of incoming or outgoing
attestations, if it is below the threshold. The loop ends in a set of participants
that all reach the threshold.
-/

namespace Encointer.MeetupValidation

open Checked

/-! ## The least group -/

/-- All participants with the least value, and this value. -/
structure Least (value : Nat → Nat) (ps : Participants) (least : ParticipantGroup) : Prop where
  nonempty : least.2 ≠ []
  mem_iff : ∀ p, p ∈ least.2 ↔ p ∈ ps ∧ value p = least.1
  le : ∀ p ∈ ps, least.1 ≤ value p
  nodup : ps.Nodup → least.2.Nodup

theorem Least.congr {value value' : Nat → Nat} {ps : Participants} {least : ParticipantGroup}
    (h : Least value ps least) (heq : ∀ p ∈ ps, value p = value' p) : Least value' ps least where
  nonempty := h.nonempty
  mem_iff := by
    intro p
    rw [h.mem_iff]
    constructor
    · rintro ⟨hp, hv⟩
      exact ⟨hp, (heq p hp).symm.trans hv⟩
    · rintro ⟨hp, hv⟩
      exact ⟨hp, (heq p hp).trans hv⟩
  le := by
    intro p hp
    rw [← heq p hp]
    exact h.le p hp
  nodup := h.nodup

private theorem foldl_pushIntoGroup_of_two (value : Nat → Nat) (ps : List Nat)
    (first : ParticipantGroup)
    {rest : List ParticipantGroup} (hrest : rest ≠ []) :
    ∃ rest', ps.foldl (fun grouped p => pushIntoGroup grouped (value p) p) (first :: rest) =
      first :: rest' := by
  induction ps generalizing rest with
  | nil => exact ⟨rest, rfl⟩
  | cons p ps ih =>
      obtain ⟨before, last, rfl⟩ := (List.eq_nil_or_concat' rest).resolve_left hrest
      have hlast : (first :: (before ++ [last])).getLast? = some last := by
        rw [← List.cons_append, List.getLast?_concat]
      have hdrop : (first :: (before ++ [last])).dropLast = first :: before := by
        rw [← List.cons_append, List.dropLast_concat]
      rw [List.foldl_cons]
      unfold pushIntoGroup
      simp only [hlast, hdrop]
      split
      · exact ih (by simp)
      · exact ih (by simp)

/-- Of sorted participants, the first group gets all those with the first value. -/
theorem foldl_pushIntoGroup_first (value : Nat → Nat) (v : Nat) (ps group : List Nat)
    (hsorted : ps.Pairwise fun a b => value a ≤ value b) (hle : ∀ p ∈ ps, v ≤ value p) :
    ∃ rest, ps.foldl (fun grouped p => pushIntoGroup grouped (value p) p) [(v, group)] =
      (v, group ++ ps.filter fun p => value p = v) :: rest := by
  induction ps generalizing group with
  | nil => exact ⟨[], by simp⟩
  | cons p ps ih =>
      obtain ⟨hhead, htail⟩ := List.pairwise_cons.1 hsorted
      rw [List.foldl_cons]
      by_cases hv : value p = v
      · have hpush : pushIntoGroup [(v, group)] (value p) p = [(v, group ++ [p])] := by
          simp [pushIntoGroup, hv]
        obtain ⟨rest, hrest⟩ :=
          ih (group ++ [p]) htail fun q hq => hle q (List.mem_cons_of_mem p hq)
        rw [hpush, hrest]
        exact ⟨rest, by simp [hv]⟩
      · have hpush : pushIntoGroup [(v, group)] (value p) p =
            (v, group) :: [(value p, [p])] := by
          simp [pushIntoGroup, Ne.symm hv]
        have hnone : (p :: ps).filter (fun q => value q = v) = [] := by
          rw [List.filter_eq_nil_iff]
          intro q hq
          have hp : v ≤ value p := hle p List.mem_cons_self
          have hpq : value p ≤ value q := by
            rcases List.mem_cons.1 hq with rfl | hq
            · exact le_rfl
            · exact hhead q hq
          rw [decide_eq_true_iff]
          omega
        rw [hpush, hnone, List.append_nil]
        exact foldl_pushIntoGroup_of_two value ps (v, group) (by simp)

/-- The first group is the least one; the cast to `i32` keeps the order of the values. -/
theorem groupIndicesByValue_least {indices : Participants} {values : List Nat}
    (hne : indices ≠ []) (h : ∀ i ∈ indices, i < values.length)
    (hfit : ∀ i ∈ indices, valueOf values i < 2 ^ 31) :
    ∃ groups least, groupIndicesByValue indices values = .ok groups ∧
      getOrErr groups 0 = .ok least ∧ Least (valueOf values) indices least := by
  let r : Nat → Nat → Prop := fun a b => asI32 (values.getD a 0) ≤ asI32 (values.getD b 0)
  have hbounds : (indices.any fun i => values.length ≤ i) = false := by
    rw [List.any_eq_false]
    intro i hi
    simpa using h i hi
  have htotal : Std.Total r := ⟨fun a b => le_total _ _⟩
  have htrans : IsTrans Nat r := ⟨fun a b c hab hbc => le_trans hab hbc⟩
  have hperm : (indices.insertionSort r).Perm indices := List.perm_insertionSort r indices
  have hpairwise : (indices.insertionSort r).Pairwise fun a b =>
      valueOf values a ≤ valueOf values b := by
    apply (List.pairwise_insertionSort r indices).imp_of_mem
    intro a b ha hb hab
    have hcast : asI32 (valueOf values a) ≤ asI32 (valueOf values b) := hab
    rw [asI32_of_lt (hfit a (hperm.mem_iff.1 ha)), asI32_of_lt (hfit b (hperm.mem_iff.1 hb))] at hcast
    exact_mod_cast hcast
  have hgroups : groupIndicesByValue indices values =
      .ok ((indices.insertionSort r).foldl
        (fun grouped p => pushIntoGroup grouped (valueOf values p) p) []) := by
    unfold groupIndicesByValue
    rw [hbounds]
    simp only [Bool.false_eq_true, if_false]
    exact foldlM_getOrErr (fun grouped p value => pushIntoGroup grouped value p) _ _ _
      fun i hi => h i (hperm.mem_iff.1 hi)
  rw [hgroups]
  cases hsorted : indices.insertionSort r with
  | nil =>
      rw [hsorted] at hperm
      exact absurd hperm.symm.eq_nil hne
  | cons head rest =>
      rw [hsorted] at hperm hpairwise
      obtain ⟨hhead, htail⟩ := List.pairwise_cons.1 hpairwise
      obtain ⟨groups, hfirst⟩ := foldl_pushIntoGroup_first (valueOf values) (valueOf values head)
        rest [head] htail hhead
      have hgroup : [head] ++ rest.filter (fun p => valueOf values p = valueOf values head) =
          (head :: rest).filter fun p => valueOf values p = valueOf values head := by
        simp
      rw [hgroup] at hfirst
      refine ⟨_, (valueOf values head,
        (head :: rest).filter fun p => valueOf values p = valueOf values head), rfl, ?_, ?_⟩
      · have hstart : pushIntoGroup [] (valueOf values head) head =
            [(valueOf values head, [head])] := rfl
        rw [List.foldl_cons, hstart, hfirst]
        rfl
      · constructor
        · exact List.ne_nil_of_mem (List.mem_filter.2 ⟨List.mem_cons_self, by simp⟩)
        · intro p
          rw [List.mem_filter, hperm.mem_iff, decide_eq_true_iff]
        · intro p hp
          rcases List.mem_cons.1 (hperm.mem_iff.2 hp) with rfl | hp
          · exact le_rfl
          · exact hhead p hp
        · intro hnodup
          have hall : (head :: rest).Nodup := hperm.nodup_iff.2 hnodup
          exact List.Nodup.filter (fun p => decide (valueOf values p = valueOf values head)) hall

/-! ## Attestations of those still processed -/

def rowOf (attestations : Attestations) (i : ParticipantIndex) : List ParticipantIndex :=
  attestations.getD i []

def numOutgoingAttestations (attestations : Attestations) (ps : Participants)
    (i : ParticipantIndex) : Nat :=
  ((rowOf attestations i).filter fun j => j ∈ ps).length

variable {attestations : Attestations} {ps qs : Participants} {thresholdFn : Nat → Nat}

theorem length_filterAttestations (ps : Participants) (attestations : Attestations) :
    (filterAttestations ps attestations).length = attestations.length := List.length_map _

theorem filterAttestations_filterAttestations (hsub : qs ⊆ ps) :
    filterAttestations qs (filterAttestations ps attestations) =
      filterAttestations qs attestations := by
  unfold filterAttestations
  rw [List.map_map]
  apply List.map_congr_left
  intro row _
  simp only [Function.comp_apply, List.filter_filter]
  apply List.filter_congr
  intro j _
  by_cases hj : j ∈ qs
  · simp [hj, hsub hj]
  · simp [hj]

private theorem rowOf_filterAttestations (ps : Participants) (i : ParticipantIndex) :
    rowOf (filterAttestations ps attestations) i =
      (rowOf attestations i).filter fun j => j ∈ ps := by
  unfold rowOf filterAttestations
  by_cases hi : i < attestations.length
  · simp [hi]
  · simp [Nat.le_of_not_lt hi]

theorem valueOf_outgoing (ps : Participants) (i : ParticipantIndex) :
    valueOf ((filterAttestations ps attestations).map List.length) i =
      numOutgoingAttestations attestations ps i := by
  unfold numOutgoingAttestations
  rw [← rowOf_filterAttestations]
  unfold rowOf valueOf
  by_cases hi : i < (filterAttestations ps attestations).length
  · simp [hi]
  · simp [Nat.le_of_not_lt hi]

/-- Removing the names of others does not change who names `i`. -/
theorem numIncomingAttestations_filterAttestations {i : ParticipantIndex} (hi : i ∈ ps) :
    numIncomingAttestations (filterAttestations ps attestations) i =
      numIncomingAttestations attestations i := by
  unfold numIncomingAttestations filterAttestations
  rw [List.zipIdx_map, List.countP_map]
  apply List.countP_congr
  intro entry _
  simp [hi]

theorem valueOf_numIncoming {i : ParticipantIndex} (hi : i < attestations.length) :
    valueOf ((List.range attestations.length).map (numIncomingAttestations attestations)) i =
      numIncomingAttestations attestations i := by
  simp [valueOf, hi]

theorem numIncomingAttestations_le_length (i : ParticipantIndex) :
    numIncomingAttestations attestations i ≤ attestations.length := by
  have hle := List.countP_le_length (l := attestations.zipIdx)
    (p := fun entry => decide (i ≠ entry.2 ∧ i ∈ entry.1))
  rw [List.length_zipIdx] at hle
  exact hle

/-- A `Vec` of the 32-bit runtime holds at most `isize::MAX` bytes. -/
structure Fits (attestations : Attestations) : Prop where
  length : attestations.length < 2 ^ 31
  rows : ∀ row ∈ attestations, row.length < 2 ^ 31

theorem Fits.numOutgoingAttestations_lt (h : Fits attestations) (i : ParticipantIndex) :
    numOutgoingAttestations attestations ps i < 2 ^ 31 := by
  apply lt_of_le_of_lt (List.length_filter_le _ _)
  unfold rowOf
  by_cases hi : i < attestations.length
  · have hrow : attestations.getD i [] = attestations[i] := by simp [hi]
    rw [hrow]
    exact h.rows _ (List.getElem_mem hi)
  · simp [Nat.le_of_not_lt hi]

/-! ## One round -/

theorem outgoing_least (hfits : Fits attestations) (hne : ps ≠ [])
    (hlt : ∀ i ∈ ps, i < attestations.length) :
    ∃ groups least,
      groupParticipantsByNumOutgoingAttestations ps (filterAttestations ps attestations) =
          .ok groups ∧
        getOrErr groups 0 = .ok least ∧
        Least (numOutgoingAttestations attestations ps) ps least := by
  have hrange : ∀ i ∈ ps,
      i < ((filterAttestations ps attestations).map List.length).length := by
    intro i hi
    rw [List.length_map, length_filterAttestations]
    exact hlt i hi
  have hsmall : ∀ i ∈ ps,
      valueOf ((filterAttestations ps attestations).map List.length) i < 2 ^ 31 := by
    intro i _
    rw [valueOf_outgoing]
    exact hfits.numOutgoingAttestations_lt i
  obtain ⟨groups, least, hgroups, hfirst, hleast⟩ := groupIndicesByValue_least hne hrange hsmall
  exact ⟨groups, least, hgroups, hfirst, hleast.congr fun p _ => valueOf_outgoing ps p⟩

private theorem incoming_least (hfits : Fits attestations) (hne : ps ≠ [])
    (hlt : ∀ i ∈ ps, i < attestations.length) :
    ∃ groups least,
      groupParticipantsByNumIncomingAttestations ps (filterAttestations ps attestations) =
          .ok groups ∧
        getOrErr groups 0 = .ok least ∧
        Least (numIncomingAttestations attestations) ps least := by
  have hlength := length_filterAttestations ps attestations
  have hvalue : ∀ i ∈ ps,
      valueOf ((List.range (filterAttestations ps attestations).length).map
        (numIncomingAttestations (filterAttestations ps attestations))) i =
      numIncomingAttestations attestations i := by
    intro i hi
    rw [valueOf_numIncoming (hlength ▸ hlt i hi), numIncomingAttestations_filterAttestations hi]
  have hrange : ∀ i ∈ ps,
      i < ((List.range (filterAttestations ps attestations).length).map
        (numIncomingAttestations (filterAttestations ps attestations))).length := by
    intro i hi
    rw [List.length_map, List.length_range, hlength]
    exact hlt i hi
  have hsmall : ∀ i ∈ ps,
      valueOf ((List.range (filterAttestations ps attestations).length).map
        (numIncomingAttestations (filterAttestations ps attestations))) i < 2 ^ 31 := by
    intro i hi
    rw [hvalue i hi]
    exact (numIncomingAttestations_le_length i).trans_lt hfits.length
  obtain ⟨groups, least, hgroups, hfirst, hleast⟩ := groupIndicesByValue_least hne hrange hsmall
  exact ⟨groups, least, hgroups, hfirst, hleast.congr hvalue⟩

theorem exclusionLoop_succ (hfits : Fits attestations) (hne : ps ≠ [])
    (hlt : ∀ i ∈ ps, i < attestations.length) (thresholdFn : Nat → Nat) :
    ∃ leastOutgoing leastIncoming,
      Least (numOutgoingAttestations attestations ps) ps leastOutgoing ∧
      Least (numIncomingAttestations attestations) ps leastIncoming ∧
      ∀ iterations excluded,
        exclusionLoop thresholdFn (iterations + 1) ps (filterAttestations ps attestations)
            excluded =
          match participantsToExclude thresholdFn ps.length leastOutgoing leastIncoming with
          | some (exclude, reason) =>
              exclusionLoop thresholdFn iterations (ps.filter fun k => k ∉ exclude)
                (filterAttestations (ps.filter fun k => k ∉ exclude) attestations)
                (excluded ++ exclude.map fun p => (p, reason))
          | none => .ok excluded := by
  obtain ⟨byOutgoing, leastOutgoing, hout, hout0, hleastOut⟩ := outgoing_least hfits hne hlt
  obtain ⟨byIncoming, leastIncoming, hin, hin0, hleastIn⟩ := incoming_least hfits hne hlt
  refine ⟨leastOutgoing, leastIncoming, hleastOut, hleastIn, ?_⟩
  intro iterations excluded
  have hempty : ps.isEmpty = false := List.isEmpty_eq_false_iff.2 hne
  rw [exclusionLoop]
  simp only [hempty, Bool.false_eq_true, if_false, hout, hin, hout0, hin0, bind, Except.bind]
  cases participantsToExclude thresholdFn ps.length leastOutgoing leastIncoming with
  | none => rfl
  | some result =>
      obtain ⟨exclude, reason⟩ := result
      have hsub : (ps.filter fun k => k ∉ exclude) ⊆ ps := fun k hk => List.mem_of_mem_filter hk
      simp only [filterAttestations_filterAttestations hsub]

/-- A round removes one of the two least groups, or all participants reach the threshold. -/
theorem participantsToExclude_cases {leastOutgoing leastIncoming : ParticipantGroup}
    (hout : Least (numOutgoingAttestations attestations ps) ps leastOutgoing)
    (hin : Least (numIncomingAttestations attestations) ps leastIncoming)
    (thresholdFn : Nat → Nat) :
    (∃ exclude reason,
      participantsToExclude thresholdFn ps.length leastOutgoing leastIncoming =
          some (exclude, reason) ∧
        exclude ≠ [] ∧ exclude ⊆ ps ∧ (ps.Nodup → exclude.Nodup) ∧
        (reason = .tooFewIncomingAttestations ∨ reason = .tooFewOutgoingAttestations)) ∨
    (participantsToExclude thresholdFn ps.length leastOutgoing leastIncoming = none ∧
      ∀ i ∈ ps, thresholdFn ps.length ≤ numOutgoingAttestations attestations ps i ∧
        thresholdFn ps.length ≤ numIncomingAttestations attestations i) := by
  have hsubset {value : Nat → Nat} {least : ParticipantGroup} (h : Least value ps least) :
      least.2 ⊆ ps := fun p hp => ((h.mem_iff p).1 hp).1
  have hreached (hle : thresholdFn ps.length ≤ leastOutgoing.1)
      (hle' : thresholdFn ps.length ≤ leastIncoming.1) :
      ∀ i ∈ ps, thresholdFn ps.length ≤ numOutgoingAttestations attestations ps i ∧
        thresholdFn ps.length ≤ numIncomingAttestations attestations i :=
    fun i hi => ⟨hle.trans (hout.le i hi), hle'.trans (hin.le i hi)⟩
  unfold participantsToExclude
  by_cases hcmp : leastIncoming.1 < leastOutgoing.1
  · rw [if_pos hcmp]
    by_cases hbelow : leastIncoming.1 < thresholdFn ps.length
    · rw [if_pos hbelow]
      exact .inl ⟨_, _, rfl, hin.nonempty, hsubset hin, hin.nodup, .inl rfl⟩
    · rw [if_neg hbelow]
      exact .inr ⟨rfl, hreached (by omega) (by omega)⟩
  · rw [if_neg hcmp]
    by_cases hbelow : leastOutgoing.1 < thresholdFn ps.length
    · rw [if_pos hbelow]
      exact .inl ⟨_, _, rfl, hout.nonempty, hsubset hout, hout.nodup, .inr rfl⟩
    · rw [if_neg hbelow]
      exact .inr ⟨rfl, hreached (by omega) (by omega)⟩

private theorem participantsToExclude_eq_none {leastOutgoing leastIncoming : ParticipantGroup}
    (hout : Least (numOutgoingAttestations attestations ps) ps leastOutgoing)
    (hin : Least (numIncomingAttestations attestations) ps leastIncoming)
    (hreached : ∀ i ∈ ps, thresholdFn ps.length ≤ numOutgoingAttestations attestations ps i ∧
      thresholdFn ps.length ≤ numIncomingAttestations attestations i) :
    participantsToExclude thresholdFn ps.length leastOutgoing leastIncoming = none := by
  obtain ⟨p, hp⟩ := List.exists_mem_of_ne_nil _ hout.nonempty
  obtain ⟨q, hq⟩ := List.exists_mem_of_ne_nil _ hin.nonempty
  obtain ⟨hpps, hpvalue⟩ := (hout.mem_iff p).1 hp
  obtain ⟨hqps, hqvalue⟩ := (hin.mem_iff q).1 hq
  have houtgoing := (hreached p hpps).1
  have hincoming := (hreached q hqps).2
  unfold participantsToExclude
  split
  · rw [if_neg (by omega)]
  · rw [if_neg (by omega)]

/-- Where all participants reach the threshold, the loop ends. -/
theorem exclusionLoop_of_reached (hfits : Fits attestations)
    (hlt : ∀ i ∈ ps, i < attestations.length)
    (hreached : ∀ i ∈ ps, thresholdFn ps.length ≤ numOutgoingAttestations attestations ps i ∧
      thresholdFn ps.length ≤ numIncomingAttestations attestations i) (iterations : Nat)
    (excluded : List (ParticipantIndex × ExclusionReason)) :
    exclusionLoop thresholdFn iterations ps (filterAttestations ps attestations) excluded =
      .ok excluded := by
  cases iterations with
  | zero => rfl
  | succ iterations =>
      by_cases hps : ps = []
      · subst hps
        rfl
      · obtain ⟨leastOutgoing, leastIncoming, hout, hin, hround⟩ :=
          exclusionLoop_succ hfits hps hlt thresholdFn
        rw [hround, participantsToExclude_eq_none hout hin hreached]

/-! ## The whole loop -/

/-- The outcome of the loop: others than `excluded` are excluded until the rest are stable. -/
structure LoopEnds (thresholdFn : Nat → Nat) (attestations : Attestations) (ps : Participants)
    (more : List (ParticipantIndex × ExclusionReason)) : Prop where
  nodup : (more.map Prod.fst).Nodup
  subset : more.map Prod.fst ⊆ ps
  reasons : ∀ entry ∈ more,
    entry.2 = .tooFewIncomingAttestations ∨ entry.2 = .tooFewOutgoingAttestations
  outgoing : ∀ i ∈ ps.filter fun k => k ∉ more.map Prod.fst,
    thresholdFn (ps.filter fun k => k ∉ more.map Prod.fst).length ≤
      numOutgoingAttestations attestations (ps.filter fun k => k ∉ more.map Prod.fst) i
  incoming : ∀ i ∈ ps.filter fun k => k ∉ more.map Prod.fst,
    thresholdFn (ps.filter fun k => k ∉ more.map Prod.fst).length ≤
      numIncomingAttestations attestations i

theorem length_filter_notMem_lt {ps exclude : Participants} (hne : exclude ≠ [])
    (hsub : exclude ⊆ ps) : (ps.filter fun k => k ∉ exclude).length < ps.length := by
  obtain ⟨p, hp⟩ := List.exists_mem_of_ne_nil exclude hne
  rw [List.length_filter_lt_length_iff_exists]
  exact ⟨p, hsub hp, by simpa using hp⟩

/-- Every round removes somebody, so as many rounds as participants are enough. -/
theorem exclusionLoop_ends (hfits : Fits attestations) (thresholdFn : Nat → Nat)
    (iterations : Nat) (hnodup : ps.Nodup) (hlt : ∀ i ∈ ps, i < attestations.length)
    (hiterations : ps.length ≤ iterations)
    (excluded : List (ParticipantIndex × ExclusionReason)) :
    ∃ more, exclusionLoop thresholdFn iterations ps (filterAttestations ps attestations)
        excluded = .ok (excluded ++ more) ∧ LoopEnds thresholdFn attestations ps more := by
  induction iterations generalizing ps excluded with
  | zero =>
      have hps : ps = [] := List.length_eq_zero_iff.1 (by omega)
      subst hps
      exact ⟨[], by simp [exclusionLoop], List.nodup_nil, List.nil_subset _, by simp, by simp,
        by simp⟩
  | succ iterations ih =>
      by_cases hps : ps = []
      · subst hps
        exact ⟨[], by simp [exclusionLoop], List.nodup_nil, List.nil_subset _, by simp, by simp,
          by simp⟩
      · obtain ⟨leastOutgoing, leastIncoming, hout, hin, hround⟩ :=
          exclusionLoop_succ hfits hps hlt thresholdFn
        rw [hround]
        rcases participantsToExclude_cases hout hin thresholdFn with
          ⟨exclude, reason, hsome, hne, hsub, hexclude, hreason⟩ | ⟨hnone, hreached⟩
        · have hshrinks := length_filter_notMem_lt hne hsub
          have hrest : (ps.filter fun k => k ∉ exclude).Nodup := hnodup.filter _
          obtain ⟨more, hmore, hends⟩ := ih hrest
            (fun i hi => hlt i (List.mem_of_mem_filter hi)) (by omega)
            (excluded ++ exclude.map fun p => (p, reason))
          have hfst : ((exclude.map fun p => (p, reason)) ++ more).map Prod.fst =
              exclude ++ more.map Prod.fst := by
            rw [List.map_append, List.map_map]
            congr 1
            exact List.map_id exclude
          have hfilter : (ps.filter fun k => k ∉ exclude ++ more.map Prod.fst) =
              (ps.filter fun k => k ∉ exclude).filter fun k => k ∉ more.map Prod.fst := by
            rw [List.filter_filter]
            apply List.filter_congr
            intro k _
            rw [← Bool.decide_and, decide_eq_decide, List.mem_append, not_or, and_comm]
          refine ⟨(exclude.map fun p => (p, reason)) ++ more, ?_, ?_, ?_, ?_, ?_, ?_⟩
          · rw [hsome]
            simp only [hmore, List.append_assoc]
          · rw [hfst, List.nodup_append]
            refine ⟨hexclude hnodup, hends.nodup, ?_⟩
            rintro p hp q hq rfl
            have hkept := (List.mem_filter.1 (hends.subset hq)).2
            exact (of_decide_eq_true hkept) hp
          · rw [hfst]
            exact List.append_subset.2 ⟨hsub,
              fun p hp => List.mem_of_mem_filter (hends.subset hp)⟩
          · intro entry hentry
            rcases List.mem_append.1 hentry with hentry | hentry
            · obtain ⟨p, -, rfl⟩ := List.mem_map.1 hentry
              exact hreason
            · exact hends.reasons entry hentry
          · rw [hfst, hfilter]
            exact hends.outgoing
          · rw [hfst, hfilter]
            exact hends.incoming
        · have hall : (ps.filter fun k => k ∉ ([] : Participants)) = ps := by simp
          refine ⟨[], by rw [hnone, List.append_nil], List.nodup_nil, List.nil_subset _, by simp,
            ?_, ?_⟩
          · simp only [List.map_nil, hall]
            exact fun i hi => (hreached i hi).1
          · simp only [List.map_nil, hall]
            exact fun i hi => (hreached i hi).2

end Encointer.MeetupValidation
