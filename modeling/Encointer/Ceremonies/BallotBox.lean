import Encointer.Ceremonies.Removal

/-!
# Ballot boxes

The votes of a ceremony are kept by account. The attestations lie under numbers, and
an index gives the number of every account: the first submission of an account takes
the next number, and later ones use it again. Number zero is never given out, so an
account without a submission finds no attestations there.
-/

namespace Encointer

open Ceremonies

variable {AccountId : Type} [DecidableEq AccountId]

/-- What is recorded of one participant. -/
structure Ballot (AccountId : Type) where
  vote : Nat
  attestees : List AccountId
  deriving DecidableEq, Repr

@[ext]
structure BallotBox (AccountId : Type) where
  vote : AccountId → Option Nat
  index : AccountId → Option Nat
  registry : Nat → Option (List AccountId)
  count : Option Nat

namespace BallotBox

def empty : BallotBox AccountId where
  vote := fun _ => none
  index := fun _ => none
  registry := fun _ => none
  count := none

def numberOf (box : BallotBox AccountId) (sender : AccountId) : Nat :=
  (box.index sender).getD (box.count.getD 0 + 1)

def submit (box : BallotBox AccountId) (sender : AccountId) (ballot : Ballot AccountId) :
    BallotBox AccountId where
  vote := Function.update box.vote sender (some ballot.vote)
  index := Function.update box.index sender (some (box.numberOf sender))
  registry := Function.update box.registry (box.numberOf sender) (some ballot.attestees)
  count := if (box.index sender).isSome then box.count else some (box.count.getD 0 + 1)

def read (box : BallotBox AccountId) (participant : AccountId) : Ballot AccountId where
  vote := (box.vote participant).getD 0
  attestees := (box.registry ((box.index participant).getD 0)).getD []

/-- The box holds the ballots, each under a number of its own. -/
structure Holds (box : BallotBox AccountId) (ballots : AccountId → Option (Ballot AccountId)) :
    Prop where
  absent : ∀ a, ballots a = none → box.vote a = none ∧ box.index a = none
  present : ∀ a ballot, ballots a = some ballot → box.vote a = some ballot.vote ∧
    ∃ number, box.index a = some number ∧ box.registry number = some ballot.attestees
  bounds : ∀ a number, box.index a = some number → 1 ≤ number ∧ number ≤ box.count.getD 0
  injective : ∀ a b number, box.index a = some number → box.index b = some number → a = b
  zero : box.registry 0 = none
  counted : ∃ voters : List AccountId, voters.Nodup ∧ (∀ a, a ∈ voters ↔ ballots a ≠ none) ∧
    box.count.getD 0 = voters.length

variable {box : BallotBox AccountId} {ballots : AccountId → Option (Ballot AccountId)}

section

omit [DecidableEq AccountId]

theorem holds_empty : (empty : BallotBox AccountId).Holds fun _ => none where
  absent := fun _ _ => ⟨rfl, rfl⟩
  present := by
    intro a ballot h
    cases h
  bounds := by
    intro a number h
    cases h
  injective := by
    intro a b number h
    cases h
  zero := rfl
  counted := ⟨[], List.nodup_nil, by simp, rfl⟩

theorem Holds.read_eq (h : box.Holds ballots) (participant : AccountId) :
    box.read participant = (ballots participant).getD ⟨0, []⟩ := by
  unfold read
  cases hballot : ballots participant with
  | none =>
      obtain ⟨hvote, hindex⟩ := h.absent participant hballot
      rw [hvote, hindex, Option.getD_none, h.zero]
      rfl
  | some ballot =>
      obtain ⟨hvote, number, hindex, hregistry⟩ := h.present participant ballot hballot
      rw [hvote, hindex, Option.getD_some, Option.getD_some, hregistry]
      rfl

theorem Holds.index_isSome_iff (h : box.Holds ballots) (a : AccountId) :
    (box.index a).isSome ↔ ballots a ≠ none := by
  cases hballot : ballots a with
  | none =>
      obtain ⟨-, hindex⟩ := h.absent a hballot
      simp [hindex]
  | some ballot =>
      obtain ⟨-, number, hindex, -⟩ := h.present a ballot hballot
      simp [hindex]

end

theorem Holds.numberOf_spec (h : box.Holds ballots) (sender : AccountId)
    (ballot : Ballot AccountId) :
    1 ≤ box.numberOf sender ∧ box.numberOf sender ≤ (box.submit sender ballot).count.getD 0 ∧
      box.count.getD 0 ≤ (box.submit sender ballot).count.getD 0 ∧
      ∀ a, a ≠ sender → box.index a ≠ some (box.numberOf sender) := by
  unfold numberOf submit
  cases hindex : box.index sender with
  | none =>
      simp only [Option.getD_none, Option.isSome_none, Bool.false_eq_true, if_false,
        Option.getD_some]
      refine ⟨by omega, le_rfl, by omega, ?_⟩
      intro a _ hnumber
      obtain ⟨-, hle⟩ := h.bounds a _ hnumber
      omega
  | some number =>
      simp only [Option.getD_some, Option.isSome_some, if_true]
      obtain ⟨hpos, hle⟩ := h.bounds sender number hindex
      refine ⟨hpos, hle, le_rfl, ?_⟩
      intro a hne hnumber
      exact hne (h.injective a sender number hnumber hindex)

/-- A submission replaces the ballot of its sender, and keeps all others. -/
theorem Holds.submit (h : box.Holds ballots) (sender : AccountId) (ballot : Ballot AccountId) :
    (box.submit sender ballot).Holds (Function.update ballots sender (some ballot)) := by
  obtain ⟨hpos, hle, hcount, hfresh⟩ := h.numberOf_spec sender ballot
  constructor
  · intro a ha
    by_cases heq : a = sender
    · rw [heq, Function.update_self] at ha
      cases ha
    · rw [Function.update_of_ne heq] at ha
      obtain ⟨hvote, hindex⟩ := h.absent a ha
      simp only [BallotBox.submit, Function.update_of_ne heq]
      exact ⟨hvote, hindex⟩
  · intro a ballot' ha
    by_cases heq : a = sender
    · rw [heq, Function.update_self, Option.some.injEq] at ha
      rw [heq, ← ha]
      exact ⟨Function.update_self .., box.numberOf sender, Function.update_self ..,
        Function.update_self ..⟩
    · rw [Function.update_of_ne heq] at ha
      obtain ⟨hvote, number, hindex, hregistry⟩ := h.present a ballot' ha
      have hne : number ≠ box.numberOf sender := by
        intro hnumber
        exact hfresh a heq (hnumber ▸ hindex)
      simp only [BallotBox.submit, Function.update_of_ne heq]
      refine ⟨hvote, number, hindex, ?_⟩
      rw [Function.update_of_ne hne]
      exact hregistry
  · intro a number ha
    by_cases heq : a = sender
    · simp only [BallotBox.submit, heq, Function.update_self, Option.some.injEq] at ha
      rw [← ha]
      exact ⟨hpos, hle⟩
    · simp only [BallotBox.submit, Function.update_of_ne heq] at ha
      obtain ⟨hpos', hle'⟩ := h.bounds a number ha
      exact ⟨hpos', hle'.trans hcount⟩
  · intro a b number ha hb
    simp only [BallotBox.submit] at ha hb
    by_cases hsender : a = sender
    · by_cases hsender' : b = sender
      · rw [hsender, hsender']
      · rw [hsender, Function.update_self] at ha
        rw [Function.update_of_ne hsender', ← ha] at hb
        exact absurd hb (hfresh b hsender')
    · rw [Function.update_of_ne hsender] at ha
      by_cases hsender' : b = sender
      · rw [hsender', Function.update_self] at hb
        rw [← hb] at ha
        exact absurd ha (hfresh a hsender)
      · rw [Function.update_of_ne hsender'] at hb
        exact h.injective a b number ha hb
  · have hne : (0 : Nat) ≠ box.numberOf sender := by omega
    simp only [BallotBox.submit, Function.update_of_ne hne]
    exact h.zero
  · obtain ⟨voters, hnodup, hmem, hlength⟩ := h.counted
    by_cases hvoted : ballots sender = none
    · have hnew : (box.index sender).isSome = false := by
        rw [Bool.eq_false_iff, Ne, h.index_isSome_iff]
        exact fun hsome => hsome hvoted
      have hsender : sender ∉ voters := by
        rw [hmem]
        exact fun hsome => hsome hvoted
      refine ⟨sender :: voters, List.nodup_cons.2 ⟨hsender, hnodup⟩, ?_, ?_⟩
      · intro a
        rw [List.mem_cons, hmem]
        by_cases heq : a = sender
        · simp [heq]
        · simp [heq, Function.update_of_ne]
      · simp only [BallotBox.submit, hnew, Bool.false_eq_true, if_false, Option.getD_some,
          List.length_cons, hlength]
    · have hold : (box.index sender).isSome = true := (h.index_isSome_iff sender).2 hvoted
      refine ⟨voters, hnodup, ?_, ?_⟩
      · intro a
        rw [hmem]
        by_cases heq : a = sender
        · simp [heq, hvoted]
        · simp [heq, Function.update_of_ne]
      · simp only [BallotBox.submit, hold, if_true, hlength]

end BallotBox

/-! ## The boxes of the storage -/

def CeremonyHistory.ballots (history : CeremonyHistory AccountId) : BallotBox AccountId where
  vote := history.meetupParticipantCountVote
  index := history.attestationIndex
  registry := history.attestationRegistry
  count := history.attestationCount

def CeremoniesStorage.ballotBox (c : CeremoniesStorage AccountId) (cc : CommunityCeremony) :
    BallotBox AccountId :=
  (c.historyAt cc).ballots

theorem gatherMeetupValidationData_eq (c : CeremoniesStorage AccountId) (cc : CommunityCeremony)
    (members : List AccountId) :
    gatherMeetupValidationData c cc members =
      (members.map fun a => ((c.ballotBox cc).read a).vote,
        members.map fun a => attestationIndices members ((c.ballotBox cc).read a).attestees) := rfl

theorem lookup_insert_row {κ ν π : Type} [DecidableEq κ] [DecidableEq π]
    (m : StorageMap (π × κ) ν) (pre : π) (k : κ) (v : ν) :
    (fun k' => (m.insert (pre, k) v).lookup (pre, k')) =
      Function.update (fun k' => m.lookup (pre, k')) k (some v) := by
  funext k'
  rw [StorageMap.lookup_insert_eq, Function.update_apply]
  simp only [Prod.mk.injEq, true_and]

theorem lookup_insert_other_row {κ ν π : Type} [DecidableEq κ] [DecidableEq π]
    (m : StorageMap (π × κ) ν) {pre pre' : π} (hne : pre' ≠ pre) (k : κ) (v : ν) :
    (fun k' => (m.insert (pre, k) v).lookup (pre', k')) = fun k' => m.lookup (pre', k') := by
  funext k'
  rw [StorageMap.lookup_insert_eq, if_neg (by simp [hne])]

/-- What a successful call does to the ballot boxes. -/
structure Submits (config : Config AccountId) (s : Runtime AccountId)
    (c : CeremoniesStorage AccountId) (sender : AccountId) (cid : CommunityIdentifier)
    (vote : Nat) (attestations : List AccountId) : Prop where
  attesting : s.scheduler.currentPhase = .attesting
  ballotBox : ∃ k members,
    getMeetupIndex s.ceremonies (cid, s.scheduler.currentCeremonyIndex) sender = some k ∧
      getMeetupParticipants s.ceremonies (cid, s.scheduler.currentCeremonyIndex) k = .ok members ∧
      ∀ cc, c.ballotBox cc =
        if cc = (cid, s.scheduler.currentCeremonyIndex) then
          (s.ceremonies.ballotBox cc).submit sender
            ⟨vote, verifiedAttestees sender members attestations⟩
        else
          s.ceremonies.ballotBox cc

theorem attestAttendees_submits {config : Config AccountId} {s : Runtime AccountId}
    {c : CeremoniesStorage AccountId} {sender : AccountId} {cid : CommunityIdentifier}
    {vote : Nat} {attestations : List AccountId}
    (h : attestAttendees config s sender cid vote attestations = .ok c) :
    Submits config s c sender cid vote attestations := by
  simp only [attestAttendees, gatherMeetupData, addAttestationsToRegistry, bind_eq_ok, ensure_eq_ok,
    okOr_eq_ok, ok_inj, exists_const] at h
  obtain ⟨-, hattesting, -, data, ⟨k, hk, members, hmembers, _, -, _, -, rfl⟩, -, -, idx, hidx, -,
    rfl⟩ := h
  refine ⟨hattesting, k, members, hk, hmembers, ?_⟩
  intro cc
  obtain ⟨-, rfl⟩ := Checked.toU64_eq_some.1 hidx
  unfold CeremoniesStorage.ballotBox
  rw [historyAt_attestations]
  by_cases hcc : cc = (cid, s.scheduler.currentCeremonyIndex)
  · subst hcc
    rw [if_pos rfl]
    have hnumber : (if s.ceremonies.attestationIndex.contains
          ((cid, s.scheduler.currentCeremonyIndex), sender) = true then
        s.ceremonies.attestationIndex.get ((cid, s.scheduler.currentCeremonyIndex), sender) 0
      else s.ceremonies.attestationCount.get (cid, s.scheduler.currentCeremonyIndex) 0 + 1) =
        (s.ceremonies.historyAt (cid, s.scheduler.currentCeremonyIndex)).ballots.numberOf
          sender := by
      unfold StorageMap.contains StorageMap.get BallotBox.numberOf
      simp only [CeremonyHistory.ballots, CeremoniesStorage.historyAt]
      cases s.ceremonies.attestationIndex.lookup
        ((cid, s.scheduler.currentCeremonyIndex), sender) with
      | none => rfl
      | some number => rfl
    rw [hnumber]
    apply BallotBox.ext
    · exact lookup_insert_row _ _ _ _
    · exact lookup_insert_row _ _ _ _
    · exact lookup_insert_row _ _ _ _
    · simp only [CeremonyHistory.ballots, BallotBox.submit, CeremoniesStorage.historyAt,
        StorageMap.contains, StorageMap.get]
      by_cases hnumbered : (s.ceremonies.attestationIndex.lookup
          ((cid, s.scheduler.currentCeremonyIndex), sender)).isSome = true
      · simp [hnumbered]
      · simp [hnumbered, StorageMap.lookup_insert_eq]
  · rw [if_neg hcc]
    apply BallotBox.ext
    · exact lookup_insert_other_row _ hcc _ _
    · exact lookup_insert_other_row _ hcc _ _
    · exact lookup_insert_other_row _ hcc _ _
    · simp only [CeremonyHistory.ballots, CeremoniesStorage.historyAt]
      by_cases hnumbered : s.ceremonies.attestationIndex.contains
          ((cid, s.scheduler.currentCeremonyIndex), sender) = true
      · simp [hnumbered]
      · simp [hnumbered, StorageMap.lookup_insert_eq, hcc]

end Encointer
