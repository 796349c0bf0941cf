import Encointer.Democracy.EnactmentQueue
import Encointer.Pallets.DemocracyMigrations

/-!
# Migrating the enactment queue

The queue of an identifier after the migration: the proposal that was queued, and
then the approved proposals that were lost, as far as they fit. Nothing is lost
if and only if all of them fit.
-/

namespace Encointer

variable {AccountId : Type} [DecidableEq AccountId] {s : Democracy.UpgradeStorage AccountId}

namespace Democracy

/-! ## What the upgrade finds -/

def oldQueue (s : UpgradeStorage AccountId) (identifier : ProposalActionIdentifier) : List Nat :=
  ((s.queueValues.lookup identifier).bind QueueValue.asV1).toList

/-- The entry is an approved proposal with the identifier that is not queued. -/
def IsLost (queuedIds : List Nat) (identifier : ProposalActionIdentifier)
    (entry : Nat × Proposal AccountId) : Prop :=
  (entry.2.state = .approved ∧ entry.1 ∉ queuedIds) ∧
    entry.2.action.getIdentifier = identifier

instance (queuedIds : List Nat) (identifier : ProposalActionIdentifier)
    (entry : Nat × Proposal AccountId) : Decidable (IsLost queuedIds identifier entry) :=
  inferInstanceAs (Decidable ((_ = _ ∧ _ ∉ _) ∧ _ = _))

def lostAmong (queuedIds : List Nat) (identifier : ProposalActionIdentifier)
    (entries : List (Nat × Proposal AccountId)) : List Nat :=
  (entries.filter fun entry => IsLost queuedIds identifier entry).map Prod.fst

def queuedIds (s : UpgradeStorage AccountId) : List Nat :=
  (oldEntries s.queueValues).map Prod.snd

def waitingFor (s : UpgradeStorage AccountId) (identifier : ProposalActionIdentifier) :
    List Nat :=
  oldQueue s identifier ++
    lostAmong (queuedIds s) identifier s.runtime.democracy.proposals.entries

/-- The queue of every identifier takes all proposals that should wait under it. -/
def QueuesFit (s : UpgradeStorage AccountId) : Prop :=
  ∀ identifier, (waitingFor s identifier).length ≤ enactmentQueueMaxPerType

/-- A state of version 1 in which every proposal is queued under its own identifier. -/
structure IsVersion1 (s : UpgradeStorage AccountId) : Prop where
  version : s.storageVersion = 1
  layout : ∀ identifier value, s.queueValues.lookup identifier = some value →
    ∃ id, value = .v1 id
  placed : ∀ identifier id, s.queueValues.lookup identifier = some (.v1 id) →
    ∃ proposal, s.runtime.democracy.proposals.lookup id = some proposal ∧
      proposal.action.getIdentifier = identifier

/-! ## The queues after the migration -/

omit [DecidableEq AccountId] in
theorem queueOf_current (s : UpgradeStorage AccountId) (identifier : ProposalActionIdentifier) :
    queueOf s.current.democracy identifier = queueOrDefault s.queueValues identifier := by
  unfold queueOf queueOrDefault StorageMap.get UpgradeStorage.current
  simp only
  rw [StorageMap.lookup_decodeValues]

theorem queueOrDefault_insert (values : QueueValues) (identifier : ProposalActionIdentifier)
    (queue : List Nat) (identifier' : ProposalActionIdentifier) :
    queueOrDefault (values.insert identifier (.v2 queue)) identifier' =
      if identifier' = identifier then queue else queueOrDefault values identifier' := by
  unfold queueOrDefault
  rw [StorageMap.lookup_insert_eq]
  split <;> rfl

private theorem writeEntry_eq (values : QueueValues) (entry : ProposalActionIdentifier × Nat) :
    writeEntry values entry = values.insert entry.1 (.v2 [entry.2]) := rfl

/-- Each entry of the old queue becomes a queue with one proposal. -/
theorem queueOrDefault_writeEntries {entries : List (ProposalActionIdentifier × Nat)}
    (hnodup : (entries.map Prod.fst).Nodup) (values : QueueValues)
    (identifier : ProposalActionIdentifier) :
    queueOrDefault (entries.foldl writeEntry values) identifier =
      ((entries.lookup identifier).map fun id => [id]).getD
        (queueOrDefault values identifier) := by
  induction entries generalizing values with
  | nil => rfl
  | cons entry entries ih =>
      obtain ⟨identifier', id⟩ := entry
      rw [List.map_cons, List.nodup_cons] at hnodup
      rw [List.foldl_cons, ih hnodup.2, writeEntry_eq, queueOrDefault_insert, List.lookup_cons]
      by_cases hidentifier : identifier = identifier'
      · rw [hidentifier, StorageMap.lookup_of_not_mem hnodup.1]
        simp
      · have hbeq : (identifier == identifier') = false := by simpa using hidentifier
        simp [hbeq, hidentifier]

omit [DecidableEq AccountId] in
private theorem queueOrDefault_reinsertLost (queuedIds : List Nat) (values : QueueValues)
    (entry : Nat × Proposal AccountId) (identifier : ProposalActionIdentifier) :
    queueOrDefault (reinsertLost queuedIds values entry) identifier =
      if IsLost queuedIds identifier entry then
        BoundedVec.pushOrDrop enactmentQueueMaxPerType (queueOrDefault values identifier) entry.1
      else
        queueOrDefault values identifier := by
  unfold reinsertLost
  by_cases hlost : entry.2.state = .approved ∧ entry.1 ∉ queuedIds
  · rw [if_pos hlost, reinsert, queueOrDefault_insert]
    by_cases hidentifier : identifier = entry.2.action.getIdentifier
    · have hmine : IsLost queuedIds identifier entry := ⟨hlost, hidentifier.symm⟩
      rw [if_pos hidentifier, if_pos hmine, hidentifier]
    · have hother : ¬ IsLost queuedIds identifier entry := fun h => hidentifier h.2.symm
      rw [if_neg hidentifier, if_neg hother]
  · have hnot : ¬ IsLost queuedIds identifier entry := fun h => hlost h.1
    rw [if_neg hlost, if_neg hnot]

omit [DecidableEq AccountId] in
private theorem queueOrDefault_reinsertAll (queuedIds : List Nat)
    (entries : List (Nat × Proposal AccountId)) (values : QueueValues)
    (identifier : ProposalActionIdentifier) :
    queueOrDefault (entries.foldl (reinsertLost queuedIds) values) identifier =
      (lostAmong queuedIds identifier entries).foldl
        (BoundedVec.pushOrDrop enactmentQueueMaxPerType) (queueOrDefault values identifier) := by
  induction entries generalizing values with
  | nil => rfl
  | cons entry entries ih =>
      rw [List.foldl_cons, ih, queueOrDefault_reinsertLost, lostAmong, lostAmong,
        List.filter_cons]
      by_cases hlost : IsLost queuedIds identifier entry
      · simp only [hlost, decide_true, if_true, List.map_cons, List.foldl_cons]
      · simp only [hlost, decide_false, if_false, Bool.false_eq_true]

private theorem oldEntries_nodup (values : QueueValues) :
    ((oldEntries values).map Prod.fst).Nodup :=
  (values.decodeValues QueueValue.asV1).nodupKeys

private theorem lookup_oldEntries (values : QueueValues) (identifier : ProposalActionIdentifier) :
    (oldEntries values).lookup identifier =
      (values.lookup identifier).bind QueueValue.asV1 :=
  StorageMap.lookup_decodeValues values QueueValue.asV1 identifier

section

omit [DecidableEq AccountId]

private theorem queueOrDefault_old (s : UpgradeStorage AccountId)
    (identifier : ProposalActionIdentifier) :
    queueOrDefault ((oldEntries s.queueValues).foldl writeEntry ∅) identifier =
      oldQueue s identifier := by
  rw [queueOrDefault_writeEntries (oldEntries_nodup s.queueValues), lookup_oldEntries, oldQueue]
  cases (s.queueValues.lookup identifier).bind QueueValue.asV1 with
  | none => rfl
  | some id => rfl

private theorem length_oldQueue_le (s : UpgradeStorage AccountId)
    (identifier : ProposalActionIdentifier) :
    (oldQueue s identifier).length ≤ 1 := by
  unfold oldQueue
  cases (s.queueValues.lookup identifier).bind QueueValue.asV1 with
  | none => exact Nat.zero_le 1
  | some id => exact Nat.le_refl 1

/-- The queue keeps the first of the proposals that should wait. -/
theorem queueOf_upgraded (hversion : s.storageVersion = 1)
    (identifier : ProposalActionIdentifier) :
    queueOf (onRuntimeUpgrade s).current.democracy identifier =
      (waitingFor s identifier).take enactmentQueueMaxPerType := by
  have hroom : (oldQueue s identifier).length ≤ enactmentQueueMaxPerType :=
    (length_oldQueue_le s identifier).trans (by decide)
  rw [queueOf_current, onRuntimeUpgrade, if_neg (not_not.2 hversion)]
  simp only
  unfold migrateQueue
  simp only
  rw [queueOrDefault_reinsertAll, queueOrDefault_old, BoundedVec.foldl_pushOrDrop _ hroom]
  rfl

end

/-! ## The proposals that should wait -/

private theorem asV1_eq_some {value : QueueValue} {id : Nat} :
    value.asV1 = some id ↔ value = .v1 id := by
  cases value with
  | v1 id' => simp [QueueValue.asV1]
  | v2 ids => simp [QueueValue.asV1]

section

omit [DecidableEq AccountId]

theorem mem_oldQueue {identifier : ProposalActionIdentifier} {id : Nat} :
    id ∈ oldQueue s identifier ↔ s.queueValues.lookup identifier = some (.v1 id) := by
  unfold oldQueue
  rw [Option.mem_toList, Option.bind_eq_some_iff]
  simp only [asV1_eq_some, exists_eq_right]

theorem mem_queuedIds {id : Nat} :
    id ∈ queuedIds s ↔ ∃ identifier, id ∈ oldQueue s identifier := by
  have hentry (identifier : ProposalActionIdentifier) :
      (identifier, id) ∈ oldEntries s.queueValues ↔ id ∈ oldQueue s identifier := by
    rw [oldEntries, ← StorageMap.lookup_eq_some_iff, StorageMap.lookup_decodeValues, oldQueue,
      Option.mem_toList]
  unfold queuedIds
  rw [List.mem_map]
  constructor
  · intro h
    obtain ⟨entry, hmem, rfl⟩ := h
    exact ⟨entry.1, (hentry entry.1).1 hmem⟩
  · intro h
    obtain ⟨identifier, hmem⟩ := h
    exact ⟨(identifier, id), (hentry identifier).2 hmem, rfl⟩

theorem mem_lostAmong {d : DemocracyStorage AccountId} {queued : List Nat}
    {identifier : ProposalActionIdentifier} {id : Nat} :
    id ∈ lostAmong queued identifier d.proposals.entries ↔
      IsApproved d identifier id ∧ id ∉ queued := by
  unfold lostAmong
  rw [List.mem_map]
  constructor
  · intro h
    obtain ⟨⟨id', proposal⟩, hmem, rfl⟩ := h
    obtain ⟨hmem, hlost⟩ := List.mem_filter.1 hmem
    obtain ⟨⟨hstate, hqueued⟩, hidentifier⟩ := of_decide_eq_true hlost
    exact ⟨⟨proposal, StorageMap.lookup_eq_some_iff.2 hmem, hstate, hidentifier⟩, hqueued⟩
  · intro h
    obtain ⟨⟨proposal, hproposal, hstate, hidentifier⟩, hqueued⟩ := h
    have hlost : IsLost queued identifier (id, proposal) := ⟨⟨hstate, hqueued⟩, hidentifier⟩
    exact ⟨(id, proposal), List.mem_filter.2
      ⟨StorageMap.lookup_eq_some_iff.1 hproposal, decide_eq_true hlost⟩, rfl⟩

theorem mem_waitingFor {identifier : ProposalActionIdentifier} {id : Nat} :
    id ∈ waitingFor s identifier ↔ id ∈ oldQueue s identifier ∨
      IsApproved s.runtime.democracy identifier id ∧ id ∉ queuedIds s := by
  rw [waitingFor, List.mem_append, mem_lostAmong]

theorem waitingFor_nodup (s : UpgradeStorage AccountId)
    (identifier : ProposalActionIdentifier) : (waitingFor s identifier).Nodup := by
  have hold : (oldQueue s identifier).Nodup := by
    unfold oldQueue
    cases (s.queueValues.lookup identifier).bind QueueValue.asV1 with
    | none => exact List.nodup_nil
    | some id => exact List.nodup_singleton id
  have hlost : (lostAmong (queuedIds s) identifier
      s.runtime.democracy.proposals.entries).Nodup :=
    s.runtime.democracy.proposals.nodupKeys.sublist (List.filter_sublist.map Prod.fst)
  apply List.Nodup.append hold hlost
  intro id hid hid'
  exact (mem_lostAmong.1 hid').2 (mem_queuedIds.2 ⟨identifier, hid⟩)

/-- An approved proposal is queued under its identifier, or it is lost. -/
theorem IsVersion1.mem_waitingFor (h : IsVersion1 s) {identifier : ProposalActionIdentifier}
    {id : Nat} (happroved : IsApproved s.runtime.democracy identifier id) :
    id ∈ waitingFor s identifier := by
  rw [Democracy.mem_waitingFor]
  by_cases hqueued : id ∈ queuedIds s
  · left
    obtain ⟨identifier', hold⟩ := mem_queuedIds.1 hqueued
    obtain ⟨proposal, hproposal, hplaced⟩ := h.placed identifier' id (mem_oldQueue.1 hold)
    obtain ⟨proposal', hproposal', -, hidentifier⟩ := happroved
    rw [hproposal, Option.some.injEq] at hproposal'
    rw [← hidentifier, ← hproposal', hplaced]
    exact hold
  · right
    exact ⟨happroved, hqueued⟩

end

/-! ## What the migration keeps -/

/-- The storage after an upgrade that loses no proposal and adds none but the approved. -/
structure LosesNothing (s s' : UpgradeStorage AccountId) : Prop where
  approved : ∀ identifier id, IsApproved s.runtime.democracy identifier id →
    (queueOf s'.current.democracy identifier).count id = 1
  kept : ∀ identifier id, s.queueValues.lookup identifier = some (.v1 id) →
    id ∈ queueOf s'.current.democracy identifier
  added : ∀ identifier, ∀ id ∈ queueOf s'.current.democracy identifier,
    s.queueValues.lookup identifier = some (.v1 id) ∨
      IsApproved s.runtime.democracy identifier id
  unchanged : s' = { s with storageVersion := 2, queueValues := s'.queueValues }
  again : onRuntimeUpgrade s' = s'

section

omit [DecidableEq AccountId]

private theorem storageVersion_upgraded (hversion : s.storageVersion = 1) :
    (onRuntimeUpgrade s).storageVersion = 2 := by
  rw [onRuntimeUpgrade, if_neg (not_not.2 hversion)]

private theorem onRuntimeUpgrade_again (s : UpgradeStorage AccountId) :
    onRuntimeUpgrade (onRuntimeUpgrade s) = onRuntimeUpgrade s := by
  by_cases hversion : s.storageVersion = 1
  · have hnew := storageVersion_upgraded hversion
    rw [onRuntimeUpgrade, if_pos (by omega)]
  · have hskipped : onRuntimeUpgrade s = s := by rw [onRuntimeUpgrade, if_pos hversion]
    rw [hskipped, hskipped]

private theorem losesNothing_of_fit (h : IsVersion1 s) (hfit : QueuesFit s) :
    LosesNothing s (onRuntimeUpgrade s) := by
  have hqueue (identifier : ProposalActionIdentifier) :
      queueOf (onRuntimeUpgrade s).current.democracy identifier = waitingFor s identifier := by
    rw [queueOf_upgraded h.version, List.take_of_length_le (hfit identifier)]
  constructor
  · intro identifier id happroved
    rw [hqueue]
    exact List.count_eq_one_of_mem (waitingFor_nodup s identifier) (h.mem_waitingFor happroved)
  · intro identifier id hold
    rw [hqueue, mem_waitingFor]
    exact Or.inl (mem_oldQueue.2 hold)
  · intro identifier id hid
    rw [hqueue, mem_waitingFor, mem_oldQueue] at hid
    exact hid.imp_right And.left
  · rw [onRuntimeUpgrade, if_neg (not_not.2 h.version)]
  · exact onRuntimeUpgrade_again s

/-- The first proposal that does not fit is approved and in no queue. -/
theorem fit_of_losesNothing (h : IsVersion1 s)
    (hnothing : LosesNothing s (onRuntimeUpgrade s)) : QueuesFit s := by
  intro identifier
  by_contra hoverflow
  have hbound : enactmentQueueMaxPerType < (waitingFor s identifier).length := by omega
  let id := (waitingFor s identifier)[enactmentQueueMaxPerType]
  have hdropped : id ∉ (waitingFor s identifier).take enactmentQueueMaxPerType := by
    intro hmem
    obtain ⟨i, hi, heq⟩ := List.mem_take_iff_getElem.1 hmem
    have hsame := (waitingFor_nodup s identifier).getElem_inj_iff.1 heq
    omega
  have hold : id ∉ oldQueue s identifier := by
    intro hold
    have hkept := hnothing.kept identifier id (mem_oldQueue.1 hold)
    rw [queueOf_upgraded h.version] at hkept
    exact hdropped hkept
  have happroved : IsApproved s.runtime.democracy identifier id :=
    ((mem_waitingFor.1 (List.getElem_mem hbound)).resolve_left hold).1
  have honce := hnothing.approved identifier id happroved
  rw [queueOf_upgraded h.version, List.count_eq_zero_of_not_mem hdropped] at honce
  cases honce

/-- The migration loses nothing if and only if the queues take all that should wait. -/
theorem losesNothing_iff_queuesFit (h : IsVersion1 s) :
    LosesNothing s (onRuntimeUpgrade s) ↔ QueuesFit s :=
  ⟨fit_of_losesNothing h, losesNothing_of_fit h⟩

end

end Democracy

/-! ## A full queue -/

namespace Demo

/-- A petition of all communities. -/
def approvedPetition : Proposal Nat := ⟨0, 0, .petition none [], .approved, 0⟩

def approvedPetitions (n : Nat) : StorageMap Nat (Proposal Nat) where
  entries := (List.range n).map fun i => (i + 1, approvedPetition)
  nodupKeys := by
    rw [List.map_map]
    exact List.nodup_range.map fun i j hij => Nat.succ.inj hij

/-- Approved petitions, of which only the last is queued. -/
def beforeUpgrade (n : Nat) : Democracy.UpgradeStorage Nat where
  storageVersion := 1
  queueValues := StorageMap.insert ∅ (.petition none) (.v1 n)
  runtime := { start.runtime with democracy := { start.runtime.democracy with
    proposals := approvedPetitions n
    proposalCount := n } }
  queueMoved := rfl

private theorem lookup_approvedPetitions {n : Nat} (hn : 0 < n) :
    (approvedPetitions n).lookup n = some approvedPetition := by
  rw [StorageMap.lookup_eq_some_iff]
  exact List.mem_map.2 ⟨n - 1, List.mem_range.2 (by omega), by rw [Nat.sub_add_cancel hn]⟩

theorem beforeUpgrade_isVersion1 {n : Nat} (hn : 0 < n) :
    Democracy.IsVersion1 (beforeUpgrade n) := by
  have hlookup (identifier : ProposalActionIdentifier) :
      (beforeUpgrade n).queueValues.lookup identifier =
        if identifier = .petition none then some (.v1 n) else none :=
    StorageMap.lookup_insert_eq ∅ _ (Democracy.QueueValue.v1 n) identifier
  constructor
  · rfl
  · intro identifier value hvalue
    rw [hlookup] at hvalue
    split at hvalue
    · cases hvalue
      exact ⟨n, rfl⟩
    · cases hvalue
  · intro identifier id hid
    rw [hlookup] at hid
    split at hid
    · rename_i hidentifier
      cases hid
      exact ⟨approvedPetition, lookup_approvedPetitions hn, hidentifier.symm⟩
    · cases hid

end Demo

namespace Democracy

theorem two_petitions_migrated :
    LosesNothing (Demo.beforeUpgrade 2) (onRuntimeUpgrade (Demo.beforeUpgrade 2)) ↔
      QueuesFit (Demo.beforeUpgrade 2) :=
  losesNothing_iff_queuesFit (Demo.beforeUpgrade_isVersion1 (by decide))

/--
Of 129 approved petitions, one is in no queue afterwards. Which one depends on the order in which
the proposals are visited: here it is that of their numbers.
-/
theorem last_petition_lost :
    let s := Demo.beforeUpgrade 129
    let upgraded := onRuntimeUpgrade s
    IsVersion1 s ∧
      s.runtime.democracy.proposals.lookup 128 = some Demo.approvedPetition ∧
      (queueOf upgraded.current.democracy (.petition none)).length = 128 ∧
      128 ∉ queueOf upgraded.current.democracy (.petition none) ∧
      ¬ LosesNothing s upgraded := by
  have hversion := Demo.beforeUpgrade_isVersion1 (n := 129) (by decide)
  refine ⟨hversion, by decide +kernel, by decide +kernel, by decide +kernel, ?_⟩
  intro hnothing
  have hfit := fit_of_losesNothing hversion hnothing (.petition none)
  exact absurd hfit (by decide +kernel)

end Democracy

end Encointer
