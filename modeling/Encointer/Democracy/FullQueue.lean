import Encointer.Democracy.EnactmentQueue

/-!
# The full queue

Updates queue the proposals that they approve until the queue of the identifier
is full. The others are approved, but in no queue, and are never attempted.
-/

namespace Encointer

variable {AccountId : Type} [DecidableEq AccountId] {config : Config AccountId}
  {s s' : Runtime AccountId}

/-! ## A queue that fills up -/

section

omit [DecidableEq AccountId]

theorem Democracy.doUpdateProposalState_of_passing {id : Nat} {proposal : Proposal AccountId}
    {passing : Bool} (hfound : s.democracy.proposals.lookup id = some proposal)
    (hcanUpdate : proposal.state.canUpdate = true) (hcurrent : supersededBy s proposal = none)
    (hpassing : isPassing config s id = .ok passing) :
    doUpdateProposalState config s id =
      .ok (if updatedState config s proposal passing = .approved then
        approve (setProposalState s id proposal .approved) s.now id proposal.action.getIdentifier
      else
        setProposalState s id proposal (updatedState config s proposal passing)) := by
  simp only [doUpdateProposalState, hfound, okOr, ensure, hcanUpdate, if_true, hcurrent, hpassing,
    bind, Except.bind]
  split
  · rename_i happroved
    rw [happroved]
  · rfl

theorem Democracy.supersededBy_eq_none {proposal : Proposal AccountId}
    (h : proposal.action.supersedesSameAction = false) : supersededBy s proposal = none := by
  unfold supersededBy
  split
  · rfl
  · rw [if_neg]
    intro hsupersedes
    rw [h] at hsupersedes
    cases hsupersedes.1

theorem Democracy.UpdateApproves.doUpdateProposalState {id : Nat} {proposal : Proposal AccountId}
    (h : UpdateApproves config s id proposal)
    (hfound : s.democracy.proposals.lookup id = some proposal) :
    Democracy.doUpdateProposalState config s id =
      .ok (approve (setProposalState s id proposal .approved) s.now id
        proposal.action.getIdentifier) := by
  obtain ⟨⟨since, hsince, hconfirmed⟩, hcurrent, hpassing⟩ := h
  have hstate : proposal.state = .confirming since := by
    cases hcase : proposal.state with
    | confirming since' =>
        rw [hcase] at hsince
        rw [Option.some.inj hsince]
    | _ =>
        rw [hcase] at hsince
        cases hsince
  have happroved : updatedState config s proposal true = .approved := by
    simp only [updatedState, hstate, if_pos hconfirmed]
  rw [doUpdateProposalState_of_passing hfound (by rw [hstate]; rfl) hcurrent hpassing,
    if_pos happroved]

/-- The next update approves the proposal, whatever else is approved before. -/
def Democracy.IsReady (config : Config AccountId) (s : Runtime AccountId)
    (identifier : ProposalActionIdentifier) (id : Nat) : Prop :=
  ∃ proposal, s.democracy.proposals.lookup id = some proposal ∧
    proposal.action.getIdentifier = identifier ∧ proposal.action.supersedesSameAction = false ∧
      UpdateApproves config s id proposal

theorem Democracy.IsReady.of_lookup {identifier : ProposalActionIdentifier} {id : Nat}
    (h : IsReady config s identifier id) (hnow : s'.now = s.now)
    (hproposal : s'.democracy.proposals.lookup id = s.democracy.proposals.lookup id)
    (htally : s'.democracy.tallies.lookup id = s.democracy.tallies.lookup id) :
    IsReady config s' identifier id := by
  obtain ⟨proposal, hfound, hidentifier, hkeeps, hsince, -, hpassing⟩ := h
  refine ⟨proposal, hproposal.trans hfound, hidentifier, hkeeps, ?_, supersededBy_eq_none hkeeps,
    ?_⟩
  · rw [hnow]
    exact hsince
  · rw [isPassing_of_lookup htally (by rw [hproposal])]
    exact hpassing

end

/-- Of the approved proposals, as many are queued as there is room for. -/
structure Democracy.Fills (identifier : ProposalActionIdentifier) (ids : List Nat)
    (s s' : Runtime AccountId) : Prop where
  events : s'.events = s.events
  queue : queueOf s'.democracy identifier = queueOf s.democracy identifier ++
    ids.take (enactmentQueueMaxPerType - (queueOf s.democracy identifier).length)
  approved : ∀ id, id ∈ ids ∨ IsApproved s.democracy identifier id →
    IsApproved s'.democracy identifier id

section

variable {identifier : ProposalActionIdentifier}

omit [DecidableEq AccountId] in
theorem Democracy.Fills.refl : Fills identifier [] s s where
  events := rfl
  queue := by rw [List.take_nil, List.append_nil]
  approved := by
    intro id h
    exact h.resolve_left List.not_mem_nil

omit [DecidableEq AccountId] in
theorem Democracy.Fills.trans {s'' : Runtime AccountId} {id : Nat} {ids : List Nat}
    (h : Fills identifier [id] s s') (h' : Fills identifier ids s' s'') :
    Fills identifier (id :: ids) s s'' where
  events := h'.events.trans h.events
  queue := by
    rw [h'.queue, h.queue, List.append_assoc, List.append_cancel_left_eq, List.length_append]
    cases hroom : enactmentQueueMaxPerType - (queueOf s.democracy identifier).length with
    | zero =>
        rw [List.take_zero, List.take_zero, List.nil_append, List.length_nil, Nat.add_zero, hroom,
          List.take_zero]
    | succ room =>
        rw [List.take_succ_cons, List.take_succ_cons, List.take_nil, List.singleton_append,
          List.length_singleton, Nat.sub_add_eq, hroom, Nat.add_sub_cancel]
  approved := by
    intro id' happroved
    apply h'.approved
    rcases happroved with hmem | happroved
    · rcases List.mem_cons.1 hmem with rfl | hmem
      · exact Or.inr (h.approved _ (Or.inl List.mem_cons_self))
      · exact Or.inl hmem
    · exact Or.inr (h.approved _ (Or.inr happroved))

/-- One update queues its proposal if there is room, and the others stay ready. -/
theorem Democracy.IsReady.step {chain : Chain AccountId} {id : Nat}
    (h : IsReady config chain.runtime identifier id) :
    Fills identifier [id] chain.runtime (chain.step config (.updateProposalState id)).runtime ∧
      ∀ id', id' ≠ id → IsReady config chain.runtime identifier id' →
        IsReady config (chain.step config (.updateProposalState id)).runtime identifier id' := by
  obtain ⟨proposal, hfound, hidentifier, -, happroves⟩ := h
  have hupdate := happroves.doUpdateProposalState hfound
  have hstep : (chain.step config (.updateProposalState id)).runtime =
      { chain.runtime with
        democracy := approve (setProposalState chain.runtime id proposal .approved)
          chain.runtime.now id proposal.action.getIdentifier } := by
    have hdispatch : Dispatch.dispatch config chain.runtime (.updateProposalState id) =
        (Democracy.doUpdateProposalState config chain.runtime id >>= fun democracy =>
          .ok { chain.runtime with democracy := democracy }) >>= fun s => .ok (s, []) := rfl
    rw [Chain.step, hdispatch, hupdate]
    rfl
  rw [hstep]
  constructor
  · constructor
    · rfl
    · rw [queueOf_approve, hidentifier]
      change (if identifier = identifier ∧ (queueOf chain.runtime.democracy identifier).length <
        enactmentQueueMaxPerType then _ else queueOf chain.runtime.democracy identifier) = _
      split
      · rename_i hroom
        have hlength := Nat.sub_pos_of_lt hroom.2
        rw [List.take_of_length_le hlength]
        rfl
      · rename_i hfull
        have hlength := Nat.le_of_not_lt fun hlt => hfull ⟨rfl, hlt⟩
        rw [Nat.sub_eq_zero_of_le hlength, List.take_zero, List.append_nil]
    · intro id' happroved
      unfold IsApproved
      rw [lookup_approve]
      split
      · exact ⟨_, rfl, rfl, hidentifier⟩
      · rename_i hne
        rcases happroved with hmem | happroved
        · exact absurd (List.mem_singleton.1 hmem) hne
        · exact happroved
  · intro id' hne hready
    refine hready.of_lookup rfl ?_ rfl
    exact (lookup_approve id').trans (if_neg hne)

theorem Democracy.fills_run {ids : List Nat} {chain : Chain AccountId} (hnodup : ids.Nodup)
    (hready : ∀ id ∈ ids, IsReady config chain.runtime identifier id) :
    Fills identifier ids chain.runtime
      (chain.run config (ids.map .updateProposalState)).runtime := by
  induction ids generalizing chain with
  | nil => exact .refl
  | cons id ids ih =>
      obtain ⟨hfills, hothers⟩ := (hready id List.mem_cons_self).step
      have hnodup := List.nodup_cons.1 hnodup
      refine hfills.trans (ih hnodup.2 ?_)
      intro id' hmem
      apply hothers
      · intro hid
        exact hnodup.1 (hid ▸ hmem)
      · exact hready id' (List.mem_cons_of_mem id hmem)

/-- The approved proposals beyond the room in the queue are lost. -/
theorem Democracy.Fills.not_enactmentHolds {chain : Chain AccountId} {ids : List Nat}
    (h : Fills identifier ids s chain.runtime) (hnodup : ids.Nodup)
    (hfresh : ∀ id ∈ ids, id ∉ queueOf s.democracy identifier ∧ id ∉ attemptedIds s.events)
    (hfull : enactmentQueueMaxPerType < (queueOf s.democracy identifier).length + ids.length)
    (hroom : (queueOf s.democracy identifier).length ≤ enactmentQueueMaxPerType) :
    ¬ EnactmentHolds config chain := by
  intro hholds
  have hqueued : ids ⊆
      ids.take (enactmentQueueMaxPerType - (queueOf s.democracy identifier).length) := by
    intro id hid
    obtain ⟨hnew, hattempted⟩ := hfresh id hid
    rw [← h.events] at hattempted
    have hcount := (hholds.waiting identifier id (h.approved id (Or.inl hid)) hattempted).1
    have hmem := List.count_pos_iff.1 (hcount ▸ Nat.one_pos)
    rw [h.queue, List.mem_append] at hmem
    exact hmem.resolve_left hnew
  have hlength := (hnodup.subperm hqueued).length_le
  rw [List.length_take] at hlength
  omega

end

/-! ## More petitions than the queue holds -/

/-- A block before the next phase change only sets the time. -/
theorem Dispatch.beginBlock_of_le (now : Nat) (random : RandomNumberGenerator) (hnow : s.now ≤ now)
    (hstarted : s.scheduler.nextPhaseTimestamp ≠ 0)
    (hearly : now ≤ s.scheduler.nextPhaseTimestamp) :
    beginBlock config s now random =
      .ok { s with now := now, blockNumber := s.blockNumber + 1 } := by
  rw [beginBlock, ensure, if_pos hnow]
  change Scheduler.onTimestampSet config _
    { s with now := now, blockNumber := s.blockNumber + 1 } = _
  rw [Scheduler.onTimestampSet, if_neg hstarted, if_neg (Nat.not_lt_of_le hearly)]

namespace Demo

/-- The state after the polls on `n` petitions. -/
structure Polled (n : Nat) (s : Runtime Nat) : Prop where
  now : s.now = 7 * day + 1
  scheduler : s.scheduler = thirdCycle.runtime.scheduler
  ceremonies : s.ceremonies = thirdCycle.runtime.ceremonies
  events : s.events = []
  free : s.democracy.enactmentQueue.contains petition.getIdentifier = false
  proposalCount : s.democracy.proposalCount = n
  currentPurposeId : s.commitments.currentPurposeId = n
  unused : ∀ purpose, n ≤ purpose →
    s.commitments.commitments.contains ((islanders, 1), (purpose, 1)) = false
  proposals : ∀ id, 0 < id → id ≤ n → s.democracy.proposals.lookup id =
    some ⟨7 * day + 1, 3, petition, .confirming (7 * day + 1), 3⟩
  tallies : ∀ id, 0 < id → id ≤ n → s.democracy.tallies.lookup id = some ⟨1, 1⟩

/-- The proposal as it is submitted. -/
def submitted : Proposal Nat := ⟨7 * day + 1, 3, petition, .ongoing, 3⟩

def afterSubmission (n : Nat) (s : Runtime Nat) : Runtime Nat :=
  { s with
    commitments := { s.commitments with
      currentPurposeId := n + 1
      purposes := s.commitments.purposes.insert n (Democracy.proposalIdentifier (n + 1)) }
    democracy := { s.democracy with
      proposals := s.democracy.proposals.insert (n + 1) submitted
      purposeIds := s.democracy.purposeIds.insert (n + 1) n
      proposalCount := n + 1
      tallies := s.democracy.tallies.insert (n + 1) ⟨0, 0⟩ } }

/-- The first update of the vote leaves the proposal ongoing. -/
def afterFirstUpdate (n : Nat) (s : Runtime Nat) : Runtime Nat :=
  { afterSubmission n s with
    democracy := Democracy.setProposalState (afterSubmission n s) (n + 1) submitted .ongoing }

/-- The reputation is committed and counted. -/
def afterTally (n : Nat) (s : Runtime Nat) : Runtime Nat :=
  let updated := afterFirstUpdate n s
  { updated with
    commitments := { updated.commitments with
      commitments := updated.commitments.commitments.insert ((islanders, 1), (n, 1)) none }
    democracy := { updated.democracy with
      tallies := updated.democracy.tallies.insert (n + 1) ⟨1, 1⟩ } }

/-- The second update finds the proposal passing. -/
def afterVote (n : Nat) (s : Runtime Nat) : Runtime Nat :=
  { afterTally n s with
    democracy := Democracy.setProposalState (afterTally n s) (n + 1) submitted
      (.confirming (7 * day + 1)) }

/-- One aye is enough for an electorate of three. -/
theorem isPassing_of_tally {s : Runtime Nat} {id ayes : Nat} {proposal : Proposal Nat}
    (hproposal : s.democracy.proposals.lookup id = some proposal)
    (helectorate : proposal.electorateSize = 3)
    (htally : s.democracy.tallies.lookup id = some ⟨ayes, ayes⟩) (hayes : ayes ≤ 1) :
    Democracy.isPassing pollConfig s id = .ok (decide (ayes = 1)) := by
  simp only [Democracy.isPassing, htally, hproposal, helectorate, okOr, bind, Except.bind]
  interval_cases ayes
  · rfl
  · decide +kernel

theorem doUpdateProposalState_of_tally {s : Runtime Nat} {id ayes : Nat}
    (hnow : s.now = 7 * day + 1) (hproposal : s.democracy.proposals.lookup id = some submitted)
    (htally : s.democracy.tallies.lookup id = some ⟨ayes, ayes⟩) (hayes : ayes ≤ 1) :
    Democracy.doUpdateProposalState pollConfig s id =
      .ok (Democracy.setProposalState s id submitted
        (if ayes = 1 then .confirming (7 * day + 1) else .ongoing)) := by
  rw [Democracy.doUpdateProposalState_of_passing hproposal rfl
    (Democracy.supersededBy_eq_none rfl) (isPassing_of_tally hproposal rfl htally hayes)]
  simp only [Democracy.updatedState, submitted, hnow]
  interval_cases ayes
  · rfl
  · rfl

namespace Polled

variable {n : Nat} {s : Runtime Nat}

theorem zero : Polled 0 thirdCycle.runtime where
  now := by decide +kernel
  scheduler := rfl
  ceremonies := rfl
  events := by decide +kernel
  free := by decide +kernel
  proposalCount := by decide +kernel
  currentPurposeId := by decide +kernel
  unused := by
    have hempty : thirdCycle.runtime.commitments.commitments.entries = [] := by decide +kernel
    intro purpose _
    rw [StorageMap.contains, StorageMap.lookup, hempty]
    rfl
  proposals := by
    intro id hpos hle
    exact absurd hpos (Nat.not_lt_of_le hle)
  tallies := by
    intro id hpos hle
    exact absurd hpos (Nat.not_lt_of_le hle)

/-! ### The submission -/

theorem currentCeremonyIndex (h : Polled n s) : s.scheduler.currentCeremonyIndex = 3 := by
  rw [h.scheduler]
  decide +kernel

theorem votingCindexes (h : Polled n s) :
    Democracy.votingCindexes pollConfig s 3 = .ok [1] := by
  have hsame : Democracy.votingCindexes pollConfig s 3 =
      Democracy.votingCindexes pollConfig thirdCycle.runtime 3 := by
    unfold Democracy.votingCindexes Democracy.proposalLifetimeCycles
    rw [h.scheduler, h.ceremonies]
  rw [hsame]
  decide +kernel

theorem submitProposal (h : Polled n s) (hn : n + 1 < 2 ^ 64) :
    Democracy.submitProposal pollConfig s petition =
      .ok ((afterSubmission n s).commitments, (afterSubmission n s).democracy) := by
  have helectorate : Democracy.electorateOf s petition.getAccessPolicy [1] = 3 := by
    have hglobal : Democracy.globalElectorate thirdCycle.runtime [1] = 3 := by decide +kernel
    rw [Democracy.globalElectorate, ← h.ceremonies] at hglobal
    exact hglobal
  have hcount : n + 1 < 2 ^ 128 := by omega
  simp only [Democracy.submitProposal, Democracy.getElectorate, Commitments.doRegisterPurpose,
    ensure, h.free, h.proposalCount, hcount, h.currentPurposeId, h.currentCeremonyIndex,
    h.votingCindexes, helectorate, h.now, Checked.addU64_of_lt hn, okOr, if_true, bind, Except.bind]
  rfl

theorem step_submitProposal {chain : Chain Nat} (h : Polled n chain.runtime)
    (hn : n + 1 < 2 ^ 64) : (chain.step pollConfig (.submitProposal petition)).runtime =
      afterSubmission n chain.runtime := by
  have hdispatch : Dispatch.dispatch pollConfig chain.runtime (.submitProposal petition) =
      Democracy.submitProposal pollConfig chain.runtime petition >>= fun result =>
        Democracy.votingCindexes pollConfig chain.runtime
            chain.runtime.scheduler.currentCeremonyIndex >>= fun cindexes =>
          .ok ({ chain.runtime with commitments := result.1, democracy := result.2 },
            [.purposeRegistered chain.runtime.commitments.currentPurposeId,
              .submitted result.2.proposalCount cindexes]) := rfl
  rw [Chain.step, hdispatch, h.submitProposal hn, h.currentCeremonyIndex]
  simp only [bind, Except.bind, h.votingCindexes]
  rfl

/-! ### The vote -/

theorem firstUpdate (h : Polled n s) :
    Democracy.doUpdateProposalState pollConfig (afterSubmission n s) (n + 1) =
      .ok (afterFirstUpdate n s).democracy := by
  have hnow : (afterSubmission n s).now = 7 * day + 1 := h.now
  have hproposal : (afterSubmission n s).democracy.proposals.lookup (n + 1) = some submitted :=
    (StorageMap.lookup_insert_eq _ _ _ _).trans (if_pos rfl)
  have htally : (afterSubmission n s).democracy.tallies.lookup (n + 1) = some ⟨0, 0⟩ :=
    (StorageMap.lookup_insert_eq _ _ _ _).trans (if_pos rfl)
  exact doUpdateProposalState_of_tally hnow hproposal htally (Nat.zero_le 1)

theorem secondUpdate (h : Polled n s) :
    Democracy.doUpdateProposalState pollConfig (afterTally n s) (n + 1) =
      .ok (afterVote n s).democracy := by
  have hnow : (afterTally n s).now = 7 * day + 1 := h.now
  have hproposal : (afterTally n s).democracy.proposals.lookup (n + 1) = some submitted :=
    (StorageMap.lookup_insert_eq _ _ _ _).trans (if_pos rfl)
  have htally : (afterTally n s).democracy.tallies.lookup (n + 1) = some ⟨1, 1⟩ :=
    (StorageMap.lookup_insert_eq _ _ _ _).trans (if_pos rfl)
  exact doUpdateProposalState_of_tally hnow hproposal htally le_rfl

theorem validateAndCommitReputations (h : Polled n s) :
    Democracy.validateAndCommitReputations pollConfig (afterFirstUpdate n s) (n + 1) 1
      [(islanders, 1)] = .ok ((afterTally n s).commitments, [(islanders, 1)]) := by
  have hproposal : (afterFirstUpdate n s).democracy.proposals.lookup (n + 1) = some submitted :=
    (StorageMap.lookup_insert_eq _ _ _ _).trans (if_pos rfl)
  have hpurposeId : (afterFirstUpdate n s).democracy.purposeIds.lookup (n + 1) = some n :=
    (StorageMap.lookup_insert_eq _ _ _ _).trans (if_pos rfl)
  have hcindexes : Democracy.votingCindexes pollConfig (afterFirstUpdate n s)
      submitted.startCindex = .ok [1] := h.votingCindexes
  have heligible :
      Democracy.isEligible [1] submitted.action.getAccessPolicy (islanders, 1) = true := rfl
  have hpurpose : (afterFirstUpdate n s).commitments.purposes.contains n = true := by
    refine (StorageMap.contains_insert _ _ _ _).trans ?_
    rw [decide_eq_true rfl, Bool.true_or]
  have hverified : ((afterFirstUpdate n s).ceremonies.participantReputation.get
      ((islanders, 1), 1) .unverified).isVerified = true := by
    rw [show (afterFirstUpdate n s).ceremonies = thirdCycle.runtime.ceremonies from h.ceremonies]
    decide +kernel
  have hunused : (afterFirstUpdate n s).commitments.commitments.contains
      ((islanders, 1), (n, 1)) = false := h.unused n le_rfl
  simp only [Democracy.validateAndCommitReputations, hproposal, hpurposeId, hcindexes, okOr,
    bind, Except.bind, List.isEmpty_cons, Bool.false_eq_true, if_false,
    Democracy.commitReputations, heligible, if_true, Commitments.doCommitReputation, ensure,
    hpurpose, hverified, hunused]
  rfl

theorem vote (h : Polled n s) :
    Democracy.vote pollConfig (afterSubmission n s) 1 (n + 1) .aye [(islanders, 1)] =
      .ok ((afterVote n s).commitments, (afterVote n s).democracy, [(islanders, 1)]) := by
  have hlength : [(islanders, 1)].length ≤ pollConfig.maxReputationCount := by decide
  have htally : (afterSubmission n s).democracy.tallies.lookup (n + 1) = some ⟨0, 0⟩ :=
    (StorageMap.lookup_insert_eq _ _ _ _).trans (if_pos rfl)
  have hcommit : Democracy.validateAndCommitReputations pollConfig
      { afterSubmission n s with democracy := (afterFirstUpdate n s).democracy } (n + 1) 1
        [(islanders, 1)] = .ok ((afterTally n s).commitments, [(islanders, 1)]) :=
    h.validateAndCommitReputations
  have hcounts : 0 + [(islanders, 1)].length < 2 ^ 128 ∧ 0 + [(islanders, 1)].length < 2 ^ 128 := by
    decide
  simp only [Democracy.vote, ensure, hlength, htally, h.firstUpdate, hcommit, hcounts, and_self,
    okOr, if_true, bind, Except.bind]
  change (Democracy.doUpdateProposalState pollConfig (afterTally n s) (n + 1) >>= fun d =>
    .ok ((afterVote n s).commitments, d, [(islanders, 1)])) = _
  rw [h.secondUpdate]
  rfl

theorem step_vote {chain : Chain Nat} (h : Polled n s)
    (hchain : chain.runtime = afterSubmission n s) :
    (chain.step pollConfig (.vote 1 (n + 1) .aye [(islanders, 1)])).runtime = afterVote n s := by
  have hdispatch : Dispatch.dispatch pollConfig chain.runtime
      (.vote 1 (n + 1) .aye [(islanders, 1)]) =
      Democracy.vote pollConfig chain.runtime 1 (n + 1) .aye [(islanders, 1)] >>= fun result =>
        okOr (chain.runtime.democracy.purposeIds.lookup (n + 1)) .inexistentProposal >>=
          fun purpose => .ok
            ({ chain.runtime with commitments := result.1, democracy := result.2.1 },
              (result.2.2.map fun cc => .counted (n + 1) 1 cc) ++
                result.2.2.map fun cc => .committed cc purpose 1) := rfl
  have hpurposeId : (afterSubmission n s).democracy.purposeIds.lookup (n + 1) = some n :=
    (StorageMap.lookup_insert_eq _ _ _ _).trans (if_pos rfl)
  rw [Chain.step, hdispatch, hchain, h.vote]
  simp only [bind, Except.bind, hpurposeId, okOr]
  rfl

/-! ### The polls -/

theorem afterVote (h : Polled n s) : Polled (n + 1) (Demo.afterVote n s) where
  now := h.now
  scheduler := h.scheduler
  ceremonies := h.ceremonies
  events := h.events
  free := h.free
  proposalCount := rfl
  currentPurposeId := rfl
  unused := by
    intro purpose hpurpose
    have hunused : (afterFirstUpdate n s).commitments.commitments.contains
        ((islanders, 1), (purpose, 1)) = false := h.unused purpose (by omega)
    refine (StorageMap.contains_insert _ _ _ _).trans ?_
    rw [hunused, Bool.or_false, decide_eq_false_iff_not]
    intro hkey
    cases hkey
    omega
  proposals := by
    intro id hpos hle
    refine (StorageMap.lookup_insert_eq _ _ _ id).trans ?_
    split
    · rfl
    · rename_i hne
      refine (StorageMap.lookup_insert_eq _ _ _ id).trans ((if_neg hne).trans ?_)
      refine (StorageMap.lookup_insert_eq _ _ _ id).trans ((if_neg hne).trans ?_)
      exact h.proposals id hpos (by omega)
  tallies := by
    intro id hpos hle
    refine (StorageMap.lookup_insert_eq _ _ _ id).trans ?_
    split
    · rfl
    · rename_i hne
      refine (StorageMap.lookup_insert_eq _ _ _ id).trans ((if_neg hne).trans ?_)
      exact h.tallies id hpos (by omega)

theorem run (hn : n < 2 ^ 64) :
    Polled n (thirdCycle.run pollConfig ((List.range' 1 n).flatMap poll)).runtime := by
  induction n with
  | zero =>
      rw [List.range'_zero, List.flatMap_nil, Chain.run, Machine.run_nil]
      exact zero
  | succ n ih =>
      have hpolled := ih (by omega)
      have hstep := hpolled.step_vote (hpolled.step_submitProposal hn)
      rw [List.range'_concat, List.flatMap_append, Chain.run, Machine.run_append, Nat.one_mul,
        Nat.add_comm 1 n, List.flatMap_singleton]
      change Polled (n + 1) ((Chain.step pollConfig _ _).step pollConfig _).runtime
      rw [Chain.run] at hstep
      rw [hstep]
      exact hpolled.afterVote

/-! ### The confirmation -/

theorem confirmation {chain : Chain Nat} (h : Polled n chain.runtime) :
    (chain.step pollConfig Demo.confirmation).runtime = { chain.runtime with
      now := 7 * day + 120001
      blockNumber := chain.runtime.blockNumber + 1 } := by
  have hdispatch : Dispatch.dispatch pollConfig chain.runtime Demo.confirmation =
      Dispatch.beginBlock pollConfig chain.runtime (7 * day + 120001) ⟨[]⟩ >>= fun s =>
        .ok (s, []) := rfl
  have hnow : chain.runtime.now ≤ 7 * day + 120001 := by
    rw [h.now]
    decide
  have hnext : chain.runtime.scheduler.nextPhaseTimestamp = 8 * day := by
    rw [h.scheduler]
    decide +kernel
  rw [Chain.step, hdispatch, Dispatch.beginBlock_of_le _ _ hnow (by rw [hnext]; decide)
    (by rw [hnext]; decide)]
  rfl

theorem queueOf_confirmation {chain : Chain Nat} (h : Polled n chain.runtime) :
    Democracy.queueOf (chain.step pollConfig Demo.confirmation).runtime.democracy
      petition.getIdentifier = [] := by
  rw [h.confirmation]
  exact StorageMap.get_of_lookup_none (StorageMap.contains_eq_false.1 h.free)

theorem events_confirmation {chain : Chain Nat} (h : Polled n chain.runtime) :
    (chain.step pollConfig Demo.confirmation).runtime.events = [] := by
  rw [h.confirmation]
  exact h.events

theorem isReady {chain : Chain Nat} (h : Polled n chain.runtime) {id : Nat}
    (hid : id ∈ List.range' 1 n) :
    Democracy.IsReady pollConfig (chain.step pollConfig Demo.confirmation).runtime
      petition.getIdentifier id := by
  rw [List.mem_range'_1] at hid
  have hproposal := h.proposals id (by omega) (by omega)
  have htally := h.tallies id (by omega) (by omega)
  rw [h.confirmation]
  refine ⟨_, hproposal, rfl, rfl, ⟨7 * day + 1, rfl, ?_⟩, Democracy.supersededBy_eq_none rfl, ?_⟩
  · exact Nat.lt_of_sub_pos (show 0 < 7 * day + 120001 - (7 * day + 1) - 60000 by decide)
  · exact isPassing_of_tally hproposal rfl htally le_rfl

end Polled

/-- Whatever the number of petitions, those that the queue cannot hold are lost. -/
theorem petitions_lost {n : Nat} (hn : n < 2 ^ 64)
    (hfull : Democracy.enactmentQueueMaxPerType < n) :
    ¬ EnactmentHolds pollConfig (start.run pollConfig (petitions n)) := by
  have hpolled := Polled.run hn
  have hrun : start.run pollConfig (petitions n) =
      ((thirdCycle.run pollConfig ((List.range' 1 n).flatMap poll)).step pollConfig
        confirmation).run pollConfig ((List.range' 1 n).map .updateProposalState) := by
    rw [petitions, Chain.run, Machine.run_append, Machine.run_append, Machine.run_append]
    rfl
  have hfills := Democracy.fills_run List.nodup_range' fun id hid => hpolled.isReady hid
  rw [← hrun] at hfills
  apply hfills.not_enactmentHolds List.nodup_range'
  · intro id _
    rw [hpolled.queueOf_confirmation, hpolled.events_confirmation]
    exact ⟨List.not_mem_nil, List.not_mem_nil⟩
  · rw [hpolled.queueOf_confirmation, List.length_nil, List.length_range', Nat.zero_add]
    exact hfull
  · rw [hpolled.queueOf_confirmation]
    exact Nat.zero_le _

end Demo

/-- The last of 129 petitions is approved, but not queued. -/
theorem Democracy.approved_lost :
    ¬ EnactmentHolds Demo.pollConfig
      (Demo.start.run Demo.pollConfig (Demo.petitions 129)) :=
  Demo.petitions_lost (by decide) (by decide)

end Encointer
