import Encointer.Democracy.Lifecycle
import Encointer.Ceremonies.RewardOnce

/-!
# The enactment queue

The queues hold approved proposals, each once and under its own identifier, until
the next assigning phase attempts to enact them. A proposal that is approved
while its queue is full is not queued, and is never enacted.
-/

namespace Encointer

variable {AccountId : Type} [DecidableEq AccountId] {config : Config AccountId}
  {s s' : Runtime AccountId}

namespace Democracy

def queueOf (d : DemocracyStorage AccountId) (identifier : ProposalActionIdentifier) : List Nat :=
  d.enactmentQueue.get identifier []

section

omit [DecidableEq AccountId]

theorem mem_queueOf {d : DemocracyStorage AccountId} {identifier : ProposalActionIdentifier}
    {id : Nat} : id ∈ queueOf d identifier ↔
      ∃ waiting, (identifier, waiting) ∈ d.enactmentQueue.entries ∧ id ∈ waiting := by
  unfold queueOf
  cases hqueue : d.enactmentQueue.lookup identifier with
  | none =>
      rw [StorageMap.get_of_lookup_none hqueue]
      constructor
      · intro hmem
        cases hmem
      · intro hmem
        obtain ⟨waiting, hentry, -⟩ := hmem
        rw [← StorageMap.lookup_eq_some_iff, hqueue] at hentry
        cases hentry
  | some waiting =>
      rw [StorageMap.get_of_lookup hqueue]
      constructor
      · intro hmem
        exact ⟨waiting, StorageMap.lookup_eq_some_iff.1 hqueue, hmem⟩
      · intro hmem
        obtain ⟨waiting', hentry, hmem⟩ := hmem
        rw [← StorageMap.lookup_eq_some_iff, hqueue, Option.some.injEq] at hentry
        rw [hentry]
        exact hmem

theorem mem_queued {d : DemocracyStorage AccountId} {id : Nat} :
    id ∈ queued d ↔ ∃ identifier, id ∈ queueOf d identifier := by
  rw [queued, List.mem_flatMap]
  constructor
  · intro hmem
    obtain ⟨⟨identifier, waiting⟩, hentry, hmem⟩ := hmem
    exact ⟨identifier, mem_queueOf.2 ⟨waiting, hentry, hmem⟩⟩
  · intro hmem
    obtain ⟨identifier, hmem⟩ := hmem
    obtain ⟨waiting, hentry, hmem⟩ := mem_queueOf.1 hmem
    exact ⟨(identifier, waiting), hentry, hmem⟩

theorem queued_nodup {d : DemocracyStorage AccountId} (hnodup : ∀ identifier,
      (queueOf d identifier).Nodup)
    (hdisjoint : ∀ identifier identifier' id, id ∈ queueOf d identifier →
      id ∈ queueOf d identifier' → identifier = identifier') : (queued d).Nodup := by
  rw [queued, List.nodup_flatMap]
  constructor
  · intro e he
    have hlookup := StorageMap.lookup_eq_some_iff.2 he
    have hqueue := hnodup e.1
    rw [queueOf, StorageMap.get_of_lookup hlookup] at hqueue
    exact hqueue
  · have hkeys := List.pairwise_map.1 d.enactmentQueue.nodupKeys
    refine hkeys.imp_of_mem ?_
    intro e e' he he' hne id hid hid'
    exact hne (hdisjoint e.1 e'.1 id (mem_queueOf.2 ⟨e.2, he, hid⟩)
      (mem_queueOf.2 ⟨e'.2, he', hid'⟩))

end

/-! ## Queueing an approved proposal -/

omit [DecidableEq AccountId] in
theorem queueOf_approve {d : DemocracyStorage AccountId} {now id : Nat}
    {identifier : ProposalActionIdentifier} (identifier' : ProposalActionIdentifier) :
    queueOf (approve d now id identifier) identifier' =
      if identifier' = identifier ∧ (queueOf d identifier).length < enactmentQueueMaxPerType then
        queueOf d identifier ++ [id]
      else
        queueOf d identifier' := by
  unfold queueOf approve enqueue
  simp only
  split
  · rename_i hroom
    rw [StorageMap.get_insert]
    simp only [hroom, and_true]
  · rename_i hfull
    rw [if_neg fun h => hfull h.2]

end Democracy

/-! ## The queues hold approved proposals -/

def attemptedIds (events : List Event) : List Nat := events.map Event.proposalId

def IsApproved (d : DemocracyStorage AccountId) (identifier : ProposalActionIdentifier)
    (id : Nat) : Prop :=
  ∃ proposal, d.proposals.lookup id = some proposal ∧ proposal.state = .approved ∧
    proposal.action.getIdentifier = identifier

/-- The proposal was approved once: its state can only be written by its enactment. -/
def IsClosed (d : DemocracyStorage AccountId) (id : Nat) : Prop :=
  ∃ proposal, d.proposals.lookup id = some proposal ∧ proposal.state.canUpdate = false

structure QueueInvariant (s : Runtime AccountId) : Prop where
  fresh : ∀ id, s.democracy.proposalCount < id → s.democracy.proposals.lookup id = none
  approved : ∀ identifier, ∀ id ∈ Democracy.queueOf s.democracy identifier,
    IsApproved s.democracy identifier id
  nodup : ∀ identifier, (Democracy.queueOf s.democracy identifier).Nodup
  waiting : ∀ identifier, ∀ id ∈ Democracy.queueOf s.democracy identifier,
    id ∉ attemptedIds s.events
  closed : ∀ id ∈ attemptedIds s.events, IsClosed s.democracy id
  once : (attemptedIds s.events).Nodup

/-- No approved proposal with the identifier was lost. -/
def NoneLost (identifier : ProposalActionIdentifier) (s : Runtime AccountId) : Prop :=
  ∀ id, IsApproved s.democracy identifier id →
    id ∈ attemptedIds s.events ∨ id ∈ Democracy.queueOf s.democracy identifier

omit [DecidableEq AccountId] in
theorem IsApproved.isClosed {d : DemocracyStorage AccountId}
    {identifier : ProposalActionIdentifier} {id : Nat} (h : IsApproved d identifier id) :
    IsClosed d id := by
  obtain ⟨proposal, hproposal, hstate, -⟩ := h
  refine ⟨proposal, hproposal, ?_⟩
  rw [hstate]
  rfl

omit [DecidableEq AccountId] in
theorem IsApproved.unique {d : DemocracyStorage AccountId}
    {identifier identifier' : ProposalActionIdentifier} {id : Nat}
    (h : IsApproved d identifier id) (h' : IsApproved d identifier' id) :
    identifier = identifier' := by
  obtain ⟨proposal, hproposal, -, rfl⟩ := h
  obtain ⟨proposal', hproposal', -, rfl⟩ := h'
  rw [hproposal, Option.some.injEq] at hproposal'
  rw [hproposal']

namespace QueueInvariant

section

omit [DecidableEq AccountId]

theorem genesis (genesis : GenesisConfig) (nativeBalances : StorageMap AccountId Nat)
    (assetBalances : StorageMap (AccountId × AssetKind) Nat) :
    QueueInvariant (Chain.genesis genesis nativeBalances assetBalances).runtime where
  fresh := by
    intro id _
    rfl
  approved := by
    intro identifier id hid
    cases hid
  nodup := by
    intro identifier
    exact List.nodup_nil
  waiting := by
    intro identifier id hid
    cases hid
  closed := by
    intro id hid
    cases hid
  once := List.nodup_nil

theorem queued_nodup (hinv : QueueInvariant s) : (Democracy.queued s.democracy).Nodup := by
  apply Democracy.queued_nodup hinv.nodup
  intro identifier identifier' id hid hid'
  exact (hinv.approved identifier id hid).unique (hinv.approved identifier' id hid')

theorem of_kept (hinv : QueueInvariant s)
    (hkept : ∀ id proposal, s.democracy.proposals.lookup id = some proposal →
      proposal.state.canUpdate = false → s'.democracy.proposals.lookup id = some proposal)
    (hfresh : ∀ id, s'.democracy.proposalCount < id → s'.democracy.proposals.lookup id = none)
    (hqueue : s'.democracy.enactmentQueue = s.democracy.enactmentQueue)
    (hevents : s'.events = s.events) : QueueInvariant s' := by
  have hqueueOf (identifier : ProposalActionIdentifier) :
      Democracy.queueOf s'.democracy identifier = Democracy.queueOf s.democracy identifier := by
    rw [Democracy.queueOf, hqueue, Democracy.queueOf]
  constructor
  · exact hfresh
  · intro identifier id hid
    rw [hqueueOf] at hid
    obtain ⟨proposal, hproposal, hstate, hidentifier⟩ := hinv.approved identifier id hid
    exact ⟨proposal, hkept id proposal hproposal (by rw [hstate]; rfl), hstate, hidentifier⟩
  · intro identifier
    rw [hqueueOf]
    exact hinv.nodup identifier
  · intro identifier id hid
    rw [hqueueOf] at hid
    rw [hevents]
    exact hinv.waiting identifier id hid
  · intro id hid
    rw [hevents] at hid
    obtain ⟨proposal, hproposal, hclosed⟩ := hinv.closed id hid
    exact ⟨proposal, hkept id proposal hproposal hclosed, hclosed⟩
  · rw [hevents]
    exact hinv.once

theorem submit (hinv : QueueInvariant s) {proposal : Proposal AccountId}
    (h : Democracy.Submits s s' proposal) : QueueInvariant s' := by
  refine hinv.of_kept ?_ ?_ h.enactmentQueue h.events
  · intro id proposal' hproposal' _
    rw [h.proposals, if_neg]
    · exact hproposal'
    · intro hid
      rw [hid, hinv.fresh _ (Nat.lt_succ_self _)] at hproposal'
      cases hproposal'
  · intro id hid
    rw [h.proposalCount] at hid
    rw [h.proposals, if_neg (by omega)]
    exact hinv.fresh id (by omega)

theorem advance (hinv : QueueInvariant s) {id : Nat} {proposal : Proposal AccountId}
    {state : ProposalState} (h : Democracy.Advances config s s' id proposal state) :
    QueueInvariant s' := by
  refine hinv.of_kept ?_ ?_ h.enactmentQueue h.events
  · intro id' proposal' hproposal' hclosed
    rw [h.proposals, if_neg]
    · exact hproposal'
    · intro hid
      rw [hid, h.found, Option.some.injEq] at hproposal'
      rw [← hproposal', h.canUpdate] at hclosed
      cases hclosed
  · intro id' hid'
    rw [h.proposalCount] at hid'
    rw [h.proposals, if_neg]
    · exact hinv.fresh id' hid'
    · intro hid
      rw [hid] at hid'
      have hnone := hinv.fresh id hid'
      rw [h.found] at hnone
      cases hnone

end

end QueueInvariant

section

omit [DecidableEq AccountId]

theorem Democracy.lookup_approve {id now : Nat} {proposal : Proposal AccountId}
    {identifier : ProposalActionIdentifier} (id' : Nat) :
    (approve (setProposalState s id proposal .approved) now id identifier).proposals.lookup id' =
      if id' = id then some { proposal with state := .approved }
      else s.democracy.proposals.lookup id' :=
  StorageMap.lookup_insert_eq _ _ _ id'

/-- The proposal to approve is neither queued nor attempted. -/
theorem QueueInvariant.not_closed {id : Nat} {proposal : Proposal AccountId} {since : Nat}
    (h : Democracy.Approves config s id proposal since) : ¬ IsClosed s.democracy id := by
  intro hclosed
  obtain ⟨proposal', hproposal', hclosed⟩ := hclosed
  rw [h.found, Option.some.injEq] at hproposal'
  rw [← hproposal', h.confirming] at hclosed
  cases hclosed

theorem QueueInvariant.approve (hinv : QueueInvariant s) {id : Nat} {proposal : Proposal AccountId}
    {since : Nat} (h : Democracy.Approves config s id proposal since)
    (hs : s' = { s with
      democracy := Democracy.approve (Democracy.setProposalState s id proposal .approved) s.now id
        proposal.action.getIdentifier }) : QueueInvariant s' := by
  have hopen := QueueInvariant.not_closed h
  have hkept {id' : Nat} (hclosed : IsClosed s.democracy id') :
      s'.democracy.proposals.lookup id' = s.democracy.proposals.lookup id' := by
    rw [hs, Democracy.lookup_approve, if_neg]
    intro hid
    rw [hid] at hclosed
    exact hopen hclosed
  have hqueueOf (identifier : ProposalActionIdentifier) :
      Democracy.queueOf s'.democracy identifier = Democracy.queueOf s.democracy identifier ∨
        identifier = proposal.action.getIdentifier ∧
          Democracy.queueOf s'.democracy identifier =
            Democracy.queueOf s.democracy identifier ++ [id] := by
    rw [hs, Democracy.queueOf_approve]
    split
    · rename_i hroom
      rw [hroom.1]
      exact Or.inr ⟨rfl, rfl⟩
    · exact Or.inl rfl
  have hevents : s'.events = s.events := by rw [hs]
  constructor
  · intro id' hid'
    rw [hs] at hid'
    rw [hs, Democracy.lookup_approve, if_neg]
    · exact hinv.fresh id' hid'
    · intro hid
      have hnone := hinv.fresh id' hid'
      rw [hid, h.found] at hnone
      cases hnone
  · intro identifier id' hid'
    have hold (hid' : id' ∈ Democracy.queueOf s.democracy identifier) :
        IsApproved s'.democracy identifier id' := by
      have happroved := hinv.approved identifier id' hid'
      unfold IsApproved
      rw [hkept happroved.isClosed]
      exact happroved
    rcases hqueueOf identifier with hsame | ⟨hidentifier, happended⟩
    · rw [hsame] at hid'
      exact hold hid'
    · rw [happended, List.mem_append, List.mem_singleton] at hid'
      rcases hid' with hid' | rfl
      · exact hold hid'
      · refine ⟨{ proposal with state := .approved }, ?_, rfl, hidentifier.symm⟩
        rw [hs, Democracy.lookup_approve, if_pos rfl]
  · intro identifier
    rcases hqueueOf identifier with hsame | ⟨-, happended⟩
    · rw [hsame]
      exact hinv.nodup identifier
    · rw [happended, List.nodup_append_comm, List.singleton_append, List.nodup_cons]
      exact ⟨fun hmem => hopen (hinv.approved identifier id hmem).isClosed, hinv.nodup identifier⟩
  · intro identifier id' hid'
    rw [hevents]
    rcases hqueueOf identifier with hsame | ⟨-, happended⟩
    · rw [hsame] at hid'
      exact hinv.waiting identifier id' hid'
    · rw [happended, List.mem_append, List.mem_singleton] at hid'
      rcases hid' with hid' | rfl
      · exact hinv.waiting identifier id' hid'
      · exact fun hmem => hopen (hinv.closed id' hmem)
  · intro id' hid'
    rw [hevents] at hid'
    unfold IsClosed
    rw [hkept (hinv.closed id' hid')]
    exact hinv.closed id' hid'
  · rw [hevents]
    exact hinv.once

/-- After the attempts, what was closed is closed. -/
theorem Democracy.Attempted.isClosed {d d' : DemocracyStorage AccountId} {new : List Event}
    (h : Attempted d d' new) {id : Nat} (hclosed : IsClosed d id) : IsClosed d' id := by
  obtain ⟨proposal, hproposal, hclosed⟩ := hclosed
  refine ⟨_, by rw [h.proposals, hproposal, Option.map_some], ?_⟩
  split
  · rfl
  · exact hclosed

theorem Democracy.queueOf_drained {d : DemocracyStorage AccountId}
    (h : d.enactmentQueue = ∅) (identifier : ProposalActionIdentifier) :
    queueOf d identifier = [] := by
  rw [queueOf, h, StorageMap.get_empty]

theorem QueueInvariant.drain (hinv : QueueInvariant s) {new : List Event}
    (hids : new.map Event.proposalId = Democracy.queued s.democracy)
    (hevents : s'.events = s.events ++ new)
    (hattempted : Democracy.Attempted s.democracy s'.democracy new)
    (hdrained : s'.democracy.enactmentQueue = ∅) : QueueInvariant s' := by
  have hattemptedIds : attemptedIds s'.events =
      attemptedIds s.events ++ Democracy.queued s.democracy := by
    rw [hevents, attemptedIds, List.map_append, hids, attemptedIds]
  have hempty := Democracy.queueOf_drained hdrained
  constructor
  · intro id hid
    rw [hattempted.proposalCount] at hid
    rw [hattempted.proposals, hinv.fresh id hid, Option.map_none]
  · intro identifier id hid
    rw [hempty] at hid
    cases hid
  · intro identifier
    rw [hempty]
    exact List.nodup_nil
  · intro identifier id hid
    rw [hempty] at hid
    cases hid
  · intro id hid
    apply hattempted.isClosed
    rw [hattemptedIds, List.mem_append, Democracy.mem_queued] at hid
    rcases hid with hid | ⟨identifier, hid⟩
    · exact hinv.closed id hid
    · exact (hinv.approved identifier id hid).isClosed
  · rw [hattemptedIds]
    apply List.Nodup.append hinv.once hinv.queued_nodup
    intro id hid hqueued
    obtain ⟨identifier, hqueued⟩ := Democracy.mem_queued.1 hqueued
    exact hinv.waiting identifier id hqueued hid

theorem QueueInvariant.step {action : Action AccountId} (hinv : QueueInvariant s)
    (h : Democracy.Step config s action s') : QueueInvariant s' := by
  cases h with
  | same democracy events =>
      refine hinv.of_kept ?_ ?_ ?_ events
      · rw [democracy]
        intro id proposal hproposal _
        exact hproposal
      · rw [democracy]
        exact hinv.fresh
      · rw [democracy]
  | submit proposal submits => exact hinv.submit submits
  | advance id proposal state advances => exact hinv.advance advances
  | approve id proposal since updated approves runtime => exact hinv.approve approves runtime
  | drain new ids events attempted drained => exact hinv.drain ids events attempted drained

end

/-! ## No approved proposal is lost -/

def Action.updated : Action AccountId → Option Nat
  | .updateProposalState id => some id
  | _ => none

def ProposalState.confirmingSince : ProposalState → Option Nat
  | .confirming since => some since
  | _ => none

/-- The next update of the proposal approves it. -/
def Democracy.UpdateApproves (config : Config AccountId) (s : Runtime AccountId) (id : Nat)
    (proposal : Proposal AccountId) : Prop :=
  (∃ since ∈ proposal.state.confirmingSince, config.confirmationPeriod < s.now - since) ∧
    supersededBy s proposal = none ∧ isPassing config s id = .ok true

instance (config : Config AccountId) (s : Runtime AccountId) (id : Nat)
    (proposal : Proposal AccountId) : Decidable (Democracy.UpdateApproves config s id proposal) :=
  inferInstanceAs (Decidable ((∃ since ∈ proposal.state.confirmingSince, _ < _) ∧ _ = _ ∧ _ = _))

omit [DecidableEq AccountId] in
theorem Democracy.Approves.updateApproves {id : Nat} {proposal : Proposal AccountId} {since : Nat}
    (h : Approves config s id proposal since) : UpdateApproves config s id proposal := by
  refine ⟨⟨since, ?_, h.confirmed⟩, h.current, h.passing⟩
  rw [h.confirming]
  rfl

/-- The queue is not full when an update approves a proposal. -/
def QueueHasRoom (config : Config AccountId) (chain : Chain AccountId)
    (action : Action AccountId) : Prop :=
  ∀ id ∈ action.updated, ∀ proposal ∈ chain.runtime.democracy.proposals.lookup id,
    Democracy.UpdateApproves config chain.runtime id proposal →
      (Democracy.queueOf chain.runtime.democracy proposal.action.getIdentifier).length <
        Democracy.enactmentQueueMaxPerType

instance (config : Config AccountId) (chain : Chain AccountId) (action : Action AccountId) :
    Decidable (QueueHasRoom config chain action) :=
  inferInstanceAs (Decidable (∀ id ∈ action.updated,
    ∀ proposal ∈ chain.runtime.democracy.proposals.lookup id,
      Democracy.UpdateApproves config chain.runtime id proposal → _ < _))

namespace NoneLost

variable {identifier : ProposalActionIdentifier}

section

omit [DecidableEq AccountId]

theorem genesis (identifier : ProposalActionIdentifier) (genesis : GenesisConfig)
    (nativeBalances : StorageMap AccountId Nat)
    (assetBalances : StorageMap (AccountId × AssetKind) Nat) :
    NoneLost identifier (Chain.genesis genesis nativeBalances assetBalances).runtime := by
  intro id happroved
  obtain ⟨proposal, hproposal, -⟩ := happroved
  cases hproposal

theorem of_kept (h : NoneLost identifier s)
    (hkept : ∀ id, IsApproved s'.democracy identifier id → IsApproved s.democracy identifier id)
    (hqueue : s'.democracy.enactmentQueue = s.democracy.enactmentQueue)
    (hevents : s'.events = s.events) : NoneLost identifier s' := by
  intro id happroved
  rw [hevents, Democracy.queueOf, hqueue]
  exact h id (hkept id happroved)

/-- Nothing is lost if the queue has room for a proposal that is approved. -/
theorem step {action : Action AccountId} (h : NoneLost identifier s)
    (hstep : Democracy.Step config s action s')
    (hroom : ∀ id proposal since, action = .updateProposalState id →
      Democracy.Approves config s id proposal since →
        proposal.action.getIdentifier = identifier →
          (Democracy.queueOf s.democracy identifier).length <
            Democracy.enactmentQueueMaxPerType) : NoneLost identifier s' := by
  cases hstep with
  | same democracy events =>
      rw [NoneLost, democracy, events]
      exact h
  | submit proposal submits =>
      refine h.of_kept ?_ submits.enactmentQueue submits.events
      intro id happroved
      obtain ⟨proposal', hproposal', hstate, hidentifier⟩ := happroved
      rw [submits.proposals] at hproposal'
      split at hproposal'
      · rw [← Option.some.inj hproposal', submits.state] at hstate
        cases hstate
      · exact ⟨proposal', hproposal', hstate, hidentifier⟩
  | advance id proposal state advances =>
      refine h.of_kept ?_ advances.enactmentQueue advances.events
      intro id' happroved
      obtain ⟨proposal', hproposal', hstate, hidentifier⟩ := happroved
      rw [advances.proposals] at hproposal'
      split at hproposal'
      · have hadvances := advances.advances
        rw [← Option.some.inj hproposal'] at hstate
        rw [show state = .approved from hstate] at hadvances
        cases hadvances
      · exact ⟨proposal', hproposal', hstate, hidentifier⟩
  | approve id proposal since updated approves runtime =>
      intro id' happroved
      obtain ⟨proposal', hproposal', hstate, hidentifier⟩ := happroved
      rw [runtime, Democracy.lookup_approve] at hproposal'
      rw [runtime, Democracy.queueOf_approve]
      split at hproposal'
      · rename_i hid
        rw [← Option.some.inj hproposal'] at hidentifier
        have hlength := hroom id proposal since updated approves hidentifier
        rw [show proposal.action.getIdentifier = identifier from hidentifier, if_pos ⟨rfl, hlength⟩,
          hid]
        exact Or.inr (List.mem_append_right _ List.mem_cons_self)
      · rcases h id' ⟨proposal', hproposal', hstate, hidentifier⟩ with hattempted | hqueued
        · exact Or.inl hattempted
        · right
          split
          · rename_i hroom'
            rw [← hroom'.1]
            exact List.mem_append_left _ hqueued
          · exact hqueued
  | drain new ids events attempted drained =>
      intro id happroved
      obtain ⟨proposal', hproposal', hstate, hidentifier⟩ := happroved
      rw [attempted.proposals] at hproposal'
      obtain ⟨proposal, hproposal, rfl⟩ := Option.map_eq_some_iff.1 hproposal'
      left
      rw [events, attemptedIds, List.map_append, ids, List.mem_append, Democracy.mem_queued]
      split at hstate
      · cases hstate
      · rename_i hnot
        rw [if_neg hnot] at hidentifier
        rcases h id ⟨proposal, hproposal, hstate, hidentifier⟩ with hattempted | hqueued
        · exact Or.inl hattempted
        · exact Or.inr ⟨identifier, hqueued⟩

end

end NoneLost

/-! ## Results -/

structure Drained (s s' : Runtime AccountId) : Prop where
  empty : ∀ identifier, Democracy.queueOf s'.democracy identifier = []
  attempted : ∃ new, s'.events = s.events ++ new ∧
    (∀ id ∈ attemptedIds new, ∃ identifier, id ∈ Democracy.queueOf s.democracy identifier) ∧
    ∀ identifier, ∀ id ∈ Democracy.queueOf s.democracy identifier,
      (attemptedIds new).count id = 1 ∧
        ((∃ proposal, s'.democracy.proposals.lookup id = some proposal ∧ proposal.state = .enacted) ∨
          ∃ reason, Event.enactmentFailed id reason ∈ new)

/-- Approved proposals wait under their identifier, until they are attempted once. -/
structure EnactmentHolds (config : Config AccountId) (chain : Chain AccountId) : Prop where
  waiting : ∀ identifier id, IsApproved chain.runtime.democracy identifier id →
    id ∉ attemptedIds chain.runtime.events →
      (Democracy.queueOf chain.runtime.democracy identifier).count id = 1 ∧
        ∀ identifier', identifier' ≠ identifier →
          id ∉ Democracy.queueOf chain.runtime.democracy identifier'
  approved : ∀ identifier, ∀ id ∈ Democracy.queueOf chain.runtime.democracy identifier,
    IsApproved chain.runtime.democracy identifier id
  once : (attemptedIds chain.runtime.events).Nodup
  drained : ∀ action, chain.runtime.scheduler.currentPhase ≠ .assigning →
    (chain.step config action).runtime.scheduler.currentPhase = .assigning →
      Drained chain.runtime (chain.step config action).runtime

omit [DecidableEq AccountId] in
theorem QueueInvariant.drained (hinv : QueueInvariant s) {new : List Event}
    (hids : new.map Event.proposalId = Democracy.queued s.democracy)
    (hevents : s'.events = s.events ++ new)
    (hattempted : Democracy.Attempted s.democracy s'.democracy new)
    (hdrained : s'.democracy.enactmentQueue = ∅) : Drained s s' where
  empty := Democracy.queueOf_drained hdrained
  attempted := by
    refine ⟨new, hevents, ?_, ?_⟩
    · intro id hid
      rw [attemptedIds, hids] at hid
      exact Democracy.mem_queued.1 hid
    · intro identifier id hid
      have hmem : id ∈ Democracy.queued s.democracy := Democracy.mem_queued.2 ⟨identifier, hid⟩
      constructor
      · rw [attemptedIds, hids]
        exact List.count_eq_one_of_mem hinv.queued_nodup hmem
      · rw [← hids] at hmem
        obtain ⟨event, hevent, rfl⟩ := List.mem_map.1 hmem
        cases event with
        | proposalEnacted id =>
            obtain ⟨proposal, hproposal, -⟩ := hinv.approved identifier _ hid
            left
            refine ⟨{ proposal with state := .enacted }, ?_, rfl⟩
            rw [hattempted.proposals, Event.proposalId] at *
            rw [hproposal, Option.map_some, if_pos hevent]
        | enactmentFailed id reason => exact Or.inr ⟨reason, hevent⟩

omit [DecidableEq AccountId] in
/-- The queues are drained when the assigning phase starts. -/
theorem QueueInvariant.drained_of_phase {action : Action AccountId} (hinv : QueueInvariant s)
    (h : Democracy.Step config s action s') (hbefore : s.scheduler.currentPhase ≠ .assigning)
    (hafter : s'.scheduler.currentPhase = .assigning) : Drained s s' := by
  cases h with
  | same democracy events now phase => exact absurd (phase hafter) hbefore
  | submit proposal submits scheduler =>
      rw [scheduler] at hafter
      exact absurd hafter hbefore
  | advance id proposal state advances scheduler =>
      rw [scheduler] at hafter
      exact absurd hafter hbefore
  | approve id proposal since updated approves runtime =>
      rw [runtime] at hafter
      exact absurd hafter hbefore
  | drain new ids events attempted drained => exact hinv.drained ids events attempted drained

/-- Approved proposals are enacted exactly once in every run in which the queues have room. -/
theorem Democracy.approved_attempted_once (config : Config AccountId) (genesis : GenesisConfig)
    (nativeBalances : StorageMap AccountId Nat)
    (assetBalances : StorageMap (AccountId × AssetKind) Nat) (actions : List (Action AccountId))
    (hroom : Machine.Along (Chain.step config) (QueueHasRoom config)
      (Chain.genesis genesis nativeBalances assetBalances) actions) :
    EnactmentHolds config
      ((Chain.genesis genesis nativeBalances assetBalances).run config actions) := by
  have hrun := Machine.run_invariant (QueueHasRoom config)
    (fun chain => QueueInvariant chain.runtime ∧ ∀ identifier, NoneLost identifier chain.runtime)
    ?_ ⟨QueueInvariant.genesis genesis nativeBalances assetBalances, fun identifier =>
      NoneLost.genesis identifier genesis nativeBalances assetBalances⟩ hroom
  · obtain ⟨hinv, hlost⟩ := hrun
    constructor
    · intro identifier id happroved hattempted
      have hqueued := (hlost identifier id happroved).resolve_left hattempted
      refine ⟨List.count_eq_one_of_mem (hinv.nodup identifier) hqueued, ?_⟩
      intro identifier' hne hqueued'
      exact hne ((hinv.approved identifier' id hqueued').unique happroved)
    · exact hinv.approved
    · exact hinv.once
    · intro action hbefore hafter
      exact hinv.drained_of_phase (Chain.democracyStep config _ action) hbefore hafter
  · intro chain action hinv hok
    have hstep := Chain.democracyStep config chain action
    refine ⟨hinv.1.step hstep, fun identifier => (hinv.2 identifier).step hstep ?_⟩
    intro id proposal since hupdated happroves hidentifier
    rw [← hidentifier]
    exact hok id (by rw [hupdated]; rfl) proposal (by rw [happroves.found]; rfl)
      happroves.updateApproves

namespace Demo

/-- With a confirmation period of one minute. -/
def pollConfig : Config Nat := { runtimeConfig with confirmationPeriod := 60000 }

def thirdCycle : Chain Nat :=
  start.run pollConfig (firstCeremony ++ [newDay 4, newDay 5, newDay 6, newDay 7])

def petition : ProposalAction Nat := .petition none []

/-- A petition, and a vote of the first participant on it. -/
def poll (id : Nat) : List (Action Nat) :=
  [.submitProposal petition, .vote 1 id .aye [(islanders, 1)]]

/-- A block two minutes after the votes. -/
def confirmation : Action Nat := .beginBlock (7 * day + 120001) ⟨[]⟩

/-- All petitions are submitted and voted on in one block, and updated in another. -/
def petitions (n : Nat) : List (Action Nat) :=
  firstCeremony ++ [newDay 4, newDay 5, newDay 6, newDay 7] ++ (List.range' 1 n).flatMap poll ++
    [confirmation] ++ (List.range' 1 n).map .updateProposalState

end Demo

theorem Democracy.approved_attempted_once_petitions :
    let chain := Demo.start.run Demo.pollConfig (Demo.petitions 2)
    Democracy.queueOf chain.runtime.democracy (.petition none) = [1, 2] ∧
      EnactmentHolds Demo.pollConfig chain :=
  ⟨by decide +kernel,
    Democracy.approved_attempted_once Demo.pollConfig Demo.genesis ∅ ∅ (Demo.petitions 2)
      (by decide +kernel)⟩

end Encointer
