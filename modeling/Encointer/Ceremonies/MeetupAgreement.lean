import Encointer.Assignment.Partition
import Encointer.Ceremonies.Bijection
import Encointer.Pallets.Meetups

/-!
# Meetup index and meetup participants agree

Both functions go through the seats of the registry: an assigned participant of
a type has a seat, and its group sends the position of the seat to a meetup.
-/

namespace Encointer

open Assignment

variable {AccountId : Type} [DecidableEq AccountId]

/-! ## The three groups -/

def AssignmentCount.assigned (count : AssignmentCount) : ParticipantType → Nat
  | .bootstrapper => count.bootstrappers
  | .reputable => count.reputables
  | .endorsee => count.endorsees
  | .newbie => count.newbies

def AssignmentCount.first (count : AssignmentCount) : ParticipantType → Nat
  | .reputable => count.bootstrappers
  | .bootstrapper | .endorsee | .newbie => 0

def AssignmentCount.groupSize (count : AssignmentCount) : ParticipantType → Nat
  | .bootstrapper | .reputable => count.bootstrappers + count.reputables
  | .endorsee => count.endorsees
  | .newbie => count.newbies

def CeremonyAssignment.params (assignment : CeremonyAssignment) :
    ParticipantType → AssignmentParams
  | .bootstrapper | .reputable => assignment.bootstrappersReputables
  | .endorsee => assignment.endorsees
  | .newbie => assignment.newbies

theorem AssignmentCount.first_add_assigned_le (count : AssignmentCount) (t : ParticipantType) :
    count.first t + count.assigned t ≤ count.groupSize t := by
  cases t <;> simp [first, assigned, groupSize]

namespace Ceremonies

variable {c : CeremoniesStorage AccountId} {cc : CommunityCeremony} {a : AccountId}

/-! ## Seats -/

theorem registeredAt_eq_some_iff (hinv : RegistryInvariant c.registry) {t : ParticipantType}
    {assigned p : Nat} :
    registeredAt c cc t assigned p = some a ↔
      p < assigned ∧ (c.registry t).index.lookup (cc, a) = some (p + 1) := by
  unfold registeredAt
  rw [← (hinv.bijective t cc).inverse]
  by_cases hp : p < assigned
  · simp [hp]
  · simp [hp]

theorem getParticipantType_of_registeredAt (hinv : RegistryInvariant c.registry)
    {t : ParticipantType} {assigned p : Nat} (h : registeredAt c cc t assigned p = some a) :
    getParticipantType c cc a = some t := by
  have hindex := ((registeredAt_eq_some_iff hinv).1 h).2
  exact (getParticipantType_eq_some_iff hinv).2 (StorageMap.contains_eq_true.2 ⟨_, hindex⟩)

theorem assignedIndex_eq_some_iff (hinv : RegistryInvariant c.registry) {t : ParticipantType}
    (ht : getParticipantType c cc a = some t) {assigned p : Nat} :
    assignedIndex c cc a t assigned = some p ↔ registeredAt c cc t assigned p = some a := by
  rw [registeredAt_eq_some_iff hinv]
  obtain ⟨i, hi⟩ := StorageMap.contains_eq_true.1 (contains_of_getParticipantType ht)
  have hbounds := (hinv.bijective t cc).index_bounds hi
  simp only [assignedIndex, StorageMap.get_of_lookup hi, hi, Option.some.injEq]
  split
  · rw [Option.some.injEq]
    omega
  · constructor
    · intro h
      cases h
    · intro h
      omega

omit [DecidableEq AccountId] in
/-- Bootstrappers sit before the reputables of their group. -/
theorem bootstrapperOrReputable_eq_some_iff {count : AssignmentCount} {q : Nat} :
    bootstrapperOrReputable c cc count q = some a ↔
      ∃ t p, (t = .bootstrapper ∨ t = .reputable) ∧ q = p + count.first t ∧
        registeredAt c cc t (count.assigned t) p = some a := by
  constructor
  · intro h
    unfold bootstrapperOrReputable at h
    split at h
    · rename_i hlt
      refine ⟨.bootstrapper, q, Or.inl rfl, rfl, ?_⟩
      exact (if_pos hlt).trans h
    · rename_i hge
      split at h
      · refine ⟨.reputable, q - count.bootstrappers, Or.inr rfl, ?_, ?_⟩
        · simp only [AssignmentCount.first]
          omega
        · exact (if_pos (by simp only [AssignmentCount.assigned]; omega)).trans h
      · cases h
  · intro h
    obtain ⟨t, p, ht, rfl, hp⟩ := h
    unfold registeredAt at hp
    split at hp
    · rename_i hlt
      rcases ht with rfl | rfl
      · show bootstrapperOrReputable c cc count p = some a
        exact (if_pos hlt).trans hp
      · show bootstrapperOrReputable c cc count (p + count.bootstrappers) = some a
        have hlt' : p < count.reputables := hlt
        rw [bootstrapperOrReputable, if_neg (by omega), if_pos (by omega), Nat.add_sub_cancel]
        exact hp
    · cases hp

/-! ## The meetup of a participant -/

theorem getMeetupIndex_of_getParticipantType {t : ParticipantType}
    (ht : getParticipantType c cc a = some t) :
    getMeetupIndex c cc a =
      (assignedIndex c cc a t ((assignmentCounts c cc).assigned t)).bind fun p =>
        meetupIndex (p + (assignmentCounts c cc).first t) ((assignments c cc).params t)
          (meetupCount c cc) := by
  cases t <;>
    simp [getMeetupIndex, ht, AssignmentCount.assigned, AssignmentCount.first,
      CeremonyAssignment.params]

/-- An account goes to meetup `k` when its seat does. -/
theorem getMeetupIndex_eq_some_iff (hinv : RegistryInvariant c.registry) {k : Nat} :
    getMeetupIndex c cc a = some k ↔
      ∃ t p, registeredAt c cc t ((assignmentCounts c cc).assigned t) p = some a ∧
        meetupIndex (p + (assignmentCounts c cc).first t) ((assignments c cc).params t)
          (meetupCount c cc) = some k := by
  constructor
  · intro h
    cases ht : getParticipantType c cc a with
    | none =>
        rw [getMeetupIndex, ht] at h
        cases h
    | some t =>
        rw [getMeetupIndex_of_getParticipantType ht, Option.bind_eq_some_iff] at h
        obtain ⟨p, hp, hk⟩ := h
        exact ⟨t, p, (assignedIndex_eq_some_iff hinv ht).1 hp, hk⟩
  · intro h
    obtain ⟨t, p, hp, hk⟩ := h
    have ht := getParticipantType_of_registeredAt hinv hp
    rw [getMeetupIndex_of_getParticipantType ht, (assignedIndex_eq_some_iff hinv ht).2 hp]
    exact hk

/-! ## The participants of a meetup -/

omit [DecidableEq AccountId] in
theorem getMeetupParticipants_eq_ok {k : Nat} {participants : List AccountId} :
    getMeetupParticipants c cc k = .ok participants ↔
      (1 ≤ k ∧ k ≤ meetupCount c cc) ∧ ∃ first second third,
        assignmentFnInverse (k - 1) (assignments c cc).bootstrappersReputables (meetupCount c cc)
          ((assignmentCounts c cc).bootstrappers + (assignmentCounts c cc).reputables) =
            some first ∧
        assignmentFnInverse (k - 1) (assignments c cc).endorsees (meetupCount c cc)
          (assignmentCounts c cc).endorsees = some second ∧
        assignmentFnInverse (k - 1) (assignments c cc).newbies (meetupCount c cc)
          (assignmentCounts c cc).newbies = some third ∧
        participants =
          first.filterMap (bootstrapperOrReputable c cc (assignmentCounts c cc)) ++
            second.filterMap (registeredAt c cc .endorsee (assignmentCounts c cc).endorsees) ++
            third.filterMap (registeredAt c cc .newbie (assignmentCounts c cc).newbies) := by
  simp only [getMeetupParticipants, bind_eq_ok, ensure_eq_ok, okOr_eq_ok, ok_inj, exists_const]
  constructor
  · rintro ⟨hk, first, hfirst, second, hsecond, third, hthird, rfl⟩
    exact ⟨hk, first, second, third, hfirst, hsecond, hthird, rfl⟩
  · rintro ⟨hk, first, second, third, hfirst, hsecond, hthird, rfl⟩
    exact ⟨hk, first, hfirst, second, hsecond, third, hthird, rfl⟩

def ParamsValid (c : CeremoniesStorage AccountId) (cc : CommunityCeremony) : Prop :=
  ∀ t, ((assignments c cc).params t).Valid ((assignmentCounts c cc).groupSize t)
    (meetupCount c cc)

omit [DecidableEq AccountId] in
theorem mem_filterMap_seat {params : AssignmentParams} {n k j : Nat} (h : params.Valid n k)
    (hj : 1 ≤ j ∧ j ≤ k) {list : List Nat}
    (hlist : assignmentFnInverse (j - 1) params k n = some list) {seat : Nat → Option AccountId}
    (hseat : ∀ p b, seat p = some b → p < n) :
    a ∈ list.filterMap seat ↔ ∃ p, seat p = some a ∧ meetupIndex p params k = some j := by
  have hmem := mem_assignmentFnInverse_iff h (show j - 1 < k by omega) hlist
  have hindex (p : Nat) : meetupIndex p params k = some j ↔
      assignmentFn p params k = some (j - 1) := by
    simp only [meetupIndex, Option.bind_eq_bind, Option.bind_eq_some_iff, Option.some.injEq]
    constructor
    · intro hp
      obtain ⟨i, hi, rfl⟩ := hp
      exact hi
    · intro hp
      exact ⟨j - 1, hp, by omega⟩
  rw [List.mem_filterMap]
  constructor
  · intro ha
    obtain ⟨p, hp, hpa⟩ := ha
    exact ⟨p, hpa, (hindex p).2 ((hmem p).1 hp).2⟩
  · intro ha
    obtain ⟨p, hpa, hp⟩ := ha
    exact ⟨p, (hmem p).2 ⟨hseat p a hpa, (hindex p).1 hp⟩, hpa⟩

/-! ## Agreement -/

/-- A seat determines its account, and an account has one seat in its group. -/
theorem bootstrapperOrReputable_injective (hinv : RegistryInvariant c.registry)
    {count : AssignmentCount} {p q : Nat} (hp : bootstrapperOrReputable c cc count p = some a)
    (hq : bootstrapperOrReputable c cc count q = some a) : p = q := by
  obtain ⟨t, i, -, rfl, hi⟩ := bootstrapperOrReputable_eq_some_iff.1 hp
  obtain ⟨t', j, -, rfl, hj⟩ := bootstrapperOrReputable_eq_some_iff.1 hq
  have ht := getParticipantType_of_registeredAt hinv hi
  rw [getParticipantType_of_registeredAt hinv hj, Option.some.injEq] at ht
  subst ht
  rw [registeredAt_eq_some_iff hinv] at hi hj
  have hij := hi.2.symm.trans hj.2
  rw [Option.some.injEq] at hij
  omega

theorem registeredAt_injective (hinv : RegistryInvariant c.registry) {t : ParticipantType}
    {assigned p q : Nat} (hp : registeredAt c cc t assigned p = some a)
    (hq : registeredAt c cc t assigned q = some a) : p = q := by
  rw [registeredAt_eq_some_iff hinv] at hp hq
  have hpq := hp.2.symm.trans hq.2
  rw [Option.some.injEq] at hpq
  omega

theorem getParticipantType_of_bootstrapperOrReputable (hinv : RegistryInvariant c.registry)
    {count : AssignmentCount} {p : Nat} (h : bootstrapperOrReputable c cc count p = some a) :
    getParticipantType c cc a = some .bootstrapper ∨ getParticipantType c cc a = some .reputable := by
  obtain ⟨t, i, ht, -, hi⟩ := bootstrapperOrReputable_eq_some_iff.1 h
  have htype := getParticipantType_of_registeredAt hinv hi
  rcases ht with rfl | rfl
  · exact Or.inl htype
  · exact Or.inr htype

/-- The index and the lists of participants of a ceremony agree. -/
structure MeetupsAgree (c : CeremoniesStorage AccountId) (cc : CommunityCeremony) : Prop where
  total : ∀ k, 1 ≤ k → k ≤ meetupCount c cc →
    ∃ participants, getMeetupParticipants c cc k = .ok participants
  bounds : ∀ a k, getMeetupIndex c cc a = some k → 1 ≤ k ∧ k ≤ meetupCount c cc
  mem_iff : ∀ k participants, getMeetupParticipants c cc k = .ok participants →
    ∀ a, a ∈ participants ↔ getMeetupIndex c cc a = some k
  nodup : ∀ k participants, getMeetupParticipants c cc k = .ok participants → participants.Nodup

omit [DecidableEq AccountId] in
theorem getMeetupParticipants_total (hvalid : ParamsValid c cc) {k : Nat}
    (hk : 1 ≤ k ∧ k ≤ meetupCount c cc) :
    ∃ participants, getMeetupParticipants c cc k = .ok participants := by
  have hj : k - 1 < meetupCount c cc := by omega
  obtain ⟨first, hfirst, -⟩ := assignmentFnInverse_spec (hvalid .bootstrapper) hj
  obtain ⟨second, hsecond, -⟩ := assignmentFnInverse_spec (hvalid .endorsee) hj
  obtain ⟨third, hthird, -⟩ := assignmentFnInverse_spec (hvalid .newbie) hj
  exact ⟨_, getMeetupParticipants_eq_ok.2
    ⟨hk, first, second, third, hfirst, hsecond, hthird, rfl⟩⟩

theorem getMeetupIndex_bounds {k : Nat} (hinv : RegistryInvariant c.registry)
    (h : getMeetupIndex c cc a = some k) : 1 ≤ k ∧ k ≤ meetupCount c cc := by
  obtain ⟨t, p, -, hk⟩ := (getMeetupIndex_eq_some_iff hinv).1 h
  simp only [meetupIndex, assignmentFn, Option.bind_eq_bind, Option.bind_eq_some_iff,
    Option.some.injEq] at hk
  obtain ⟨i, ⟨-, -, -, -, div, -, hmod⟩, rfl⟩ := hk
  unfold checkedModulo at hmod
  split at hmod
  · cases hmod
  · rw [Option.some.injEq] at hmod
    have hlt := Nat.mod_lt div (show 0 < meetupCount c cc by omega)
    omega

theorem mem_getMeetupParticipants_iff (hinv : RegistryInvariant c.registry)
    (hvalid : ParamsValid c cc) {k : Nat} {participants : List AccountId}
    (h : getMeetupParticipants c cc k = .ok participants) (a : AccountId) :
    a ∈ participants ↔ getMeetupIndex c cc a = some k := by
  obtain ⟨hk, first, second, third, hfirst, hsecond, hthird, rfl⟩ :=
    getMeetupParticipants_eq_ok.1 h
  have hreputables : ∀ p b,
      bootstrapperOrReputable c cc (assignmentCounts c cc) p = some b →
        p < (assignmentCounts c cc).groupSize .bootstrapper := by
    intro p b hp
    obtain ⟨t, i, ht, rfl, hi⟩ := bootstrapperOrReputable_eq_some_iff.1 hp
    have hlt := ((registeredAt_eq_some_iff hinv).1 hi).1
    have hle := (assignmentCounts c cc).first_add_assigned_le t
    rcases ht with rfl | rfl
    · simp only [AssignmentCount.groupSize] at hle ⊢
      omega
    · simp only [AssignmentCount.groupSize] at hle ⊢
      omega
  have hseats (t : ParticipantType) (assigned : Nat) : ∀ p b,
      registeredAt c cc t assigned p = some b → p < assigned := by
    intro p b hp
    exact ((registeredAt_eq_some_iff hinv).1 hp).1
  rw [List.mem_append, List.mem_append,
    mem_filterMap_seat (hvalid .bootstrapper) hk hfirst hreputables,
    mem_filterMap_seat (hvalid .endorsee) hk hsecond
      (hseats .endorsee (assignmentCounts c cc).endorsees),
    mem_filterMap_seat (hvalid .newbie) hk hthird (hseats .newbie (assignmentCounts c cc).newbies),
    getMeetupIndex_eq_some_iff hinv]
  constructor
  · intro ha
    rcases ha with (⟨q, hq, hqk⟩ | ⟨p, hp, hpk⟩) | ⟨p, hp, hpk⟩
    · obtain ⟨t, p, ht, rfl, hp⟩ := bootstrapperOrReputable_eq_some_iff.1 hq
      rcases ht with rfl | rfl
      · exact ⟨.bootstrapper, p, hp, hqk⟩
      · exact ⟨.reputable, p, hp, hqk⟩
    · exact ⟨.endorsee, p, hp, hpk⟩
    · exact ⟨.newbie, p, hp, hpk⟩
  · intro ha
    obtain ⟨t, p, hp, hpk⟩ := ha
    cases t with
    | bootstrapper =>
        exact Or.inl (Or.inl ⟨_, bootstrapperOrReputable_eq_some_iff.2
          ⟨.bootstrapper, p, Or.inl rfl, rfl, hp⟩, hpk⟩)
    | reputable =>
        exact Or.inl (Or.inl ⟨_, bootstrapperOrReputable_eq_some_iff.2
          ⟨.reputable, p, Or.inr rfl, rfl, hp⟩, hpk⟩)
    | endorsee => exact Or.inl (Or.inr ⟨p, hp, hpk⟩)
    | newbie => exact Or.inr ⟨p, hp, hpk⟩

theorem nodup_getMeetupParticipants (hinv : RegistryInvariant c.registry)
    (hvalid : ParamsValid c cc) {k : Nat} {participants : List AccountId}
    (h : getMeetupParticipants c cc k = .ok participants) : participants.Nodup := by
  obtain ⟨hk, first, second, third, hfirst, hsecond, hthird, rfl⟩ :=
    getMeetupParticipants_eq_ok.1 h
  have hnodup {t : ParticipantType} {n : Nat} {list : List Nat}
      (hsize : n = (assignmentCounts c cc).groupSize t)
      (hlist : assignmentFnInverse (k - 1) ((assignments c cc).params t) (meetupCount c cc) n =
        some list) : list.Nodup := by
    subst hsize
    obtain ⟨list', hlist', hnodup, -⟩ :=
      assignmentFnInverse_spec (hvalid t) (show k - 1 < meetupCount c cc by omega)
    rw [hlist, Option.some.injEq] at hlist'
    exact hlist' ▸ hnodup
  have hone : (first.filterMap (bootstrapperOrReputable c cc (assignmentCounts c cc))).Nodup := by
    apply (hnodup (t := .bootstrapper) rfl hfirst).filterMap
    intro p q b hp hq
    exact bootstrapperOrReputable_injective hinv hp hq
  have hgroup (t : ParticipantType) (assigned : Nat) {list : List Nat} (hlist : list.Nodup) :
      (list.filterMap (registeredAt c cc t assigned)).Nodup := by
    apply hlist.filterMap
    intro p q b hp hq
    exact registeredAt_injective hinv hp hq
  have htype (t : ParticipantType) {assigned : Nat} {list : List Nat} {b : AccountId}
      (hb : b ∈ list.filterMap (registeredAt c cc t assigned)) :
      getParticipantType c cc b = some t := by
    obtain ⟨p, -, hp⟩ := List.mem_filterMap.1 hb
    exact getParticipantType_of_registeredAt hinv hp
  have hreputable {b : AccountId}
      (hb : b ∈ first.filterMap (bootstrapperOrReputable c cc (assignmentCounts c cc))) :
      getParticipantType c cc b = some .bootstrapper ∨
        getParticipantType c cc b = some .reputable := by
    obtain ⟨p, -, hp⟩ := List.mem_filterMap.1 hb
    exact getParticipantType_of_bootstrapperOrReputable hinv hp
  rw [List.nodup_append, List.nodup_append]
  refine ⟨⟨hone, hgroup .endorsee _ (hnodup (t := .endorsee) rfl hsecond), ?_⟩,
    hgroup .newbie _ (hnodup (t := .newbie) rfl hthird), ?_⟩
  · intro b hb b' hb' heq
    subst heq
    have hendorsee := htype .endorsee hb'
    rcases hreputable hb with hb | hb
    · rw [hb] at hendorsee
      cases hendorsee
    · rw [hb] at hendorsee
      cases hendorsee
  · intro b hb b' hb' heq
    subst heq
    have hnewbie := htype .newbie hb'
    rcases List.mem_append.1 hb with hb | hb
    · rcases hreputable hb with hb | hb
      · rw [hb] at hnewbie
        cases hnewbie
      · rw [hb] at hnewbie
        cases hnewbie
    · rw [htype .endorsee hb] at hnewbie
      cases hnewbie

theorem meetupsAgree (hinv : RegistryInvariant c.registry) (hvalid : ParamsValid c cc) :
    MeetupsAgree c cc where
  total := by
    intro k hk hk'
    exact getMeetupParticipants_total hvalid ⟨hk, hk'⟩
  bounds := by
    intro a k h
    exact getMeetupIndex_bounds hinv h
  mem_iff := by
    intro k participants h a
    exact mem_getMeetupParticipants_iff hinv hvalid h a
  nodup := by
    intro k participants h
    exact nodup_getMeetupParticipants hinv hvalid h

end Ceremonies

end Encointer
