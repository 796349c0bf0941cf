import Encointer.Democracy.EnactmentQueue

/-!
# Confirmation

A proposal is approved after it has passed without interruption for longer than
the confirmation period. Approved proposals can only be enacted, and proposals
that are over keep their state and their votes.
-/

namespace Encointer

variable {AccountId : Type} [DecidableEq AccountId] {config : Config AccountId}
  {s s' : Runtime AccountId}

/-! ## One proposal -/

/-- What an action does to a proposal that exists. -/
inductive ProposalStep (config : Config AccountId) (s : Runtime AccountId)
    (action : Action AccountId) (s' : Runtime AccountId) (id : Nat)
    (proposal : Proposal AccountId) : Prop where
  | kept (found : s'.democracy.proposals.lookup id = some proposal)
      (tally : s'.democracy.tallies.lookup id = s.democracy.tallies.lookup id)
  | advanced (state : ProposalState)
      (advances : Democracy.Advances config s s' id proposal state)
  | approved (since : Nat) (updated : action = .updateProposalState id)
      (approves : Democracy.Approves config s id proposal since)
      (runtime : s' = { s with
        democracy := Democracy.approve (Democracy.setProposalState s id proposal .approved) s.now id
          proposal.action.getIdentifier })
      (found : s'.democracy.proposals.lookup id = some { proposal with state := .approved })
      (tally : s'.democracy.tallies.lookup id = s.democracy.tallies.lookup id)
      (now : s'.now = s.now)
  | enacted (queued : id ∈ Democracy.queueOf s.democracy proposal.action.getIdentifier)
      (found : s'.democracy.proposals.lookup id = some { proposal with state := .enacted })
      (tally : s'.democracy.tallies.lookup id = s.democracy.tallies.lookup id)

section

omit [DecidableEq AccountId]

/-- Only the state of a proposal changes. -/
theorem ProposalStep.found {action : Action AccountId} {id : Nat} {proposal : Proposal AccountId}
    (h : ProposalStep config s action s' id proposal) :
    ∃ state, s'.democracy.proposals.lookup id = some { proposal with state := state } := by
  cases h with
  | kept found => exact ⟨proposal.state, found⟩
  | advanced state advances => exact ⟨state, (advances.proposals id).trans (if_pos rfl)⟩
  | approved since updated approves runtime found => exact ⟨.approved, found⟩
  | enacted queued found => exact ⟨.enacted, found⟩

theorem QueueInvariant.proposalStep {action : Action AccountId} (hinv : QueueInvariant s)
    (h : Democracy.Step config s action s') {id : Nat} {proposal : Proposal AccountId}
    (hproposal : s.democracy.proposals.lookup id = some proposal) :
    ProposalStep config s action s' id proposal := by
  cases h with
  | same democracy =>
      rw [← democracy] at hproposal
      exact .kept hproposal (by rw [democracy])
  | submit submitted submits =>
      have hne : id ≠ s.democracy.proposalCount + 1 := by
        intro hid
        rw [hid, hinv.fresh _ (Nat.lt_succ_self _)] at hproposal
        cases hproposal
      refine .kept ?_ (submits.tallies id hne)
      rw [submits.proposals, if_neg hne]
      exact hproposal
  | advance id' proposal' state advances =>
      by_cases hid : id = id'
      · subst hid
        rw [advances.found, Option.some.injEq] at hproposal
        subst hproposal
        exact .advanced state advances
      · refine .kept ?_ (advances.tallies id hid)
        rw [advances.proposals, if_neg hid]
        exact hproposal
  | approve id' proposal' since updated approves runtime =>
      have htally : s'.democracy.tallies.lookup id = s.democracy.tallies.lookup id := by
        rw [runtime]
        rfl
      by_cases hid : id = id'
      · subst hid
        rw [approves.found, Option.some.injEq] at hproposal
        subst hproposal
        refine .approved since updated approves runtime ?_ htally (by rw [runtime])
        rw [runtime, Democracy.lookup_approve, if_pos rfl]
      · refine .kept ?_ htally
        rw [runtime, Democracy.lookup_approve, if_neg hid]
        exact hproposal
  | drain new ids events attempted drained =>
      have htally : s'.democracy.tallies.lookup id = s.democracy.tallies.lookup id := by
        rw [attempted.tallies]
      have hfound := attempted.proposals id
      rw [hproposal, Option.map_some] at hfound
      split at hfound
      · rename_i hevent
        refine .enacted ?_ hfound htally
        have hmem : id ∈ new.map Event.proposalId := List.mem_map.2 ⟨_, hevent, rfl⟩
        rw [ids, Democracy.mem_queued] at hmem
        obtain ⟨identifier, hqueued⟩ := hmem
        obtain ⟨proposal', hproposal', -, rfl⟩ := hinv.approved identifier id hqueued
        rw [hproposal, Option.some.injEq] at hproposal'
        rw [hproposal']
        exact hqueued
      · exact .kept hfound htally

theorem Democracy.Step.appeared {action : Action AccountId} (h : Democracy.Step config s action s')
    {id : Nat} {proposal : Proposal AccountId}
    (hnone : s.democracy.proposals.lookup id = none)
    (hproposal : s'.democracy.proposals.lookup id = some proposal) :
    Submits s s' proposal := by
  cases h with
  | same democracy =>
      rw [democracy, hnone] at hproposal
      cases hproposal
  | submit submitted submits =>
      have hfound := hproposal
      rw [submits.proposals] at hfound
      split at hfound
      · rw [← Option.some.inj hfound]
        exact submits
      · rw [hnone] at hfound
        cases hfound
  | advance id' proposal' state advances =>
      rw [advances.proposals] at hproposal
      split at hproposal
      · rename_i hid
        rw [hid, advances.found] at hnone
        cases hnone
      · rw [hnone] at hproposal
        cases hproposal
  | approve id' proposal' since updated approves runtime =>
      rw [runtime, Democracy.lookup_approve] at hproposal
      split at hproposal
      · rename_i hid
        rw [hid, approves.found] at hnone
        cases hnone
      · rw [hnone] at hproposal
        cases hproposal
  | drain new ids events attempted drained =>
      rw [attempted.proposals, hnone] at hproposal
      cases hproposal

theorem Democracy.Step.now_le {action : Action AccountId}
    (h : Democracy.Step config s action s') : s.now ≤ s'.now := by
  cases h with
  | same democracy events now => exact now
  | submit proposal submits => exact submits.now.ge
  | advance id proposal state advances => exact advances.now.ge
  | approve id proposal since updated approves runtime => exact (by rw [runtime])
  | drain new ids events attempted drained now => exact now

/-- The last approval changes by an approval only. -/
theorem Democracy.Step.lastApproved {action : Action AccountId}
    (h : Democracy.Step config s action s') (identifier : ProposalActionIdentifier) :
    s'.democracy.lastApprovedProposalForAction.lookup identifier =
        s.democracy.lastApprovedProposalForAction.lookup identifier ∨
      ∃ id, s'.democracy.lastApprovedProposalForAction.lookup identifier = some (s.now, id) := by
  cases h with
  | same democracy =>
      rw [democracy]
      exact Or.inl rfl
  | submit proposal submits =>
      rw [submits.lastApproved]
      exact Or.inl rfl
  | advance id proposal state advances =>
      rw [advances.lastApproved]
      exact Or.inl rfl
  | approve id proposal since updated approves runtime =>
      rw [runtime]
      simp only [Democracy.approve, setProposalState, StorageMap.lookup_insert_eq]
      split
      · exact Or.inr ⟨id, rfl⟩
      · exact Or.inl rfl
  | drain new ids events attempted =>
      rw [attempted.lastApproved]
      exact Or.inl rfl

end

/-! ## The past -/

/-- Approvals and submissions are not in the future. -/
structure PastInvariant (s : Runtime AccountId) : Prop where
  queue : QueueInvariant s
  started : ∀ id proposal, s.democracy.proposals.lookup id = some proposal → proposal.start ≤ s.now
  approved : ∀ identifier approvedAt id,
    s.democracy.lastApprovedProposalForAction.lookup identifier = some (approvedAt, id) →
      approvedAt ≤ s.now

namespace PastInvariant

omit [DecidableEq AccountId] in
theorem genesis (genesis : GenesisConfig) (nativeBalances : StorageMap AccountId Nat)
    (assetBalances : StorageMap (AccountId × AssetKind) Nat) :
    PastInvariant (Chain.genesis genesis nativeBalances assetBalances).runtime where
  queue := QueueInvariant.genesis genesis nativeBalances assetBalances
  started := by
    intro id proposal hproposal
    cases hproposal
  approved := by
    intro identifier approvedAt id hlast
    cases hlast

omit [DecidableEq AccountId] in
theorem step {action : Action AccountId} (hinv : PastInvariant s)
    (h : Democracy.Step config s action s') : PastInvariant s' where
  queue := hinv.queue.step h
  started := by
    intro id proposal' hproposal'
    cases hproposal : s.democracy.proposals.lookup id with
    | none =>
        rw [(h.appeared hproposal hproposal').start]
        exact h.now_le
    | some proposal =>
        obtain ⟨state, hfound⟩ := (hinv.queue.proposalStep h hproposal).found
        rw [hfound, Option.some.injEq] at hproposal'
        rw [← hproposal']
        exact (hinv.started id proposal hproposal).trans h.now_le
  approved := by
    intro identifier approvedAt id hlast
    rcases h.lastApproved identifier with hsame | ⟨id', hnew⟩
    · rw [hsame] at hlast
      exact (hinv.approved identifier approvedAt id hlast).trans h.now_le
    · rw [hnew, Option.some.injEq, Prod.mk.injEq] at hlast
      rw [← hlast.1]
      exact h.now_le

end PastInvariant

/-! ## Uninterrupted passing -/

/-- The proposal has passed since some time during its lifetime. -/
def PassedSince (config : Config AccountId) (start : Chain AccountId)
    (actions : List (Action AccountId)) (id : Nat) (proposal : Proposal AccountId)
    (began : Nat → Prop) : Prop :=
  Machine.HeldSince (Chain.step config) start actions
    (fun chain => proposal.start ≤ chain.runtime.now ∧
      chain.runtime.now - proposal.start ≤ config.proposalLifetime ∧ began chain.runtime.now)
    (fun chain => Democracy.isPassing config chain.runtime id = .ok true)

structure ConfirmationInvariant (config : Config AccountId) (start : Chain AccountId)
    (actions : List (Action AccountId)) : Prop where
  past : PastInvariant (start.run config actions).runtime
  confirming : ∀ id proposal since,
    (start.run config actions).runtime.democracy.proposals.lookup id = some proposal →
      proposal.state = .confirming since →
        PassedSince config start actions id proposal fun began => began = since

namespace ConfirmationInvariant

variable {start : Chain AccountId} {actions : List (Action AccountId)}

theorem genesis (config : Config AccountId) (genesis : GenesisConfig)
    (nativeBalances : StorageMap AccountId Nat)
    (assetBalances : StorageMap (AccountId × AssetKind) Nat) :
    ConfirmationInvariant config (Chain.genesis genesis nativeBalances assetBalances) [] where
  past := PastInvariant.genesis genesis nativeBalances assetBalances
  confirming := by
    intro id proposal since hproposal
    cases hproposal

theorem step (hinv : ConfirmationInvariant config start actions) (action : Action AccountId) :
    ConfirmationInvariant config start (actions ++ [action]) := by
  have hrun : start.run config (actions ++ [action]) =
      (start.run config actions).step config action := Machine.run_concat start actions action
  have hstep := Chain.democracyStep config (start.run config actions) action
  rw [← hrun] at hstep
  constructor
  · exact hinv.past.step hstep
  · intro id proposal' since hproposal' hstate
    cases hproposal : (start.run config actions).runtime.democracy.proposals.lookup id with
    | none =>
        have hsubmits := hstep.appeared hproposal hproposal'
        rw [hsubmits.state] at hstate
        cases hstate
    | some proposal =>
        cases hinv.past.queue.proposalStep hstep hproposal with
        | kept found tally =>
            rw [found, Option.some.injEq] at hproposal'
            rw [← hproposal'] at hstate ⊢
            have hpassed := hinv.confirming id proposal since hproposal hstate
            apply hpassed.extend
            rw [← hpassed.last]
            exact Democracy.isPassing_of_lookup tally
              (congrArg (Option.map Proposal.terms) (found.trans hproposal.symm))
        | advanced state advances =>
            have hfound := advances.proposals id
            rw [if_pos rfl, hproposal', Option.some.injEq] at hfound
            have hadvances := advances.advances
            rw [hfound] at hstate ⊢
            rw [show state = .confirming since from hstate] at hadvances
            obtain ⟨hpassing, -, hconfirming | ⟨rfl, hlifetime⟩⟩ := hadvances
            · exact (hinv.confirming id proposal since hproposal hconfirming).extend hpassing
            · apply Machine.HeldSince.begin_last
              · have hnow := advances.now
                show proposal.start ≤ (start.run config (actions ++ [action])).runtime.now ∧
                  (start.run config (actions ++ [action])).runtime.now - proposal.start ≤ _ ∧
                  (start.run config (actions ++ [action])).runtime.now = _
                rw [hnow]
                exact ⟨hinv.past.started id proposal hproposal, hlifetime, rfl⟩
              · exact hpassing
        | approved since updated approves runtime found =>
            rw [found, Option.some.injEq] at hproposal'
            rw [← hproposal'] at hstate
            cases hstate
        | enacted queued found =>
            rw [found, Option.some.injEq] at hproposal'
            rw [← hproposal'] at hstate
            cases hstate

theorem run (hinv : ConfirmationInvariant config start []) (actions : List (Action AccountId)) :
    ConfirmationInvariant config start actions := by
  induction actions using List.reverseRecOn with
  | nil => exact hinv
  | append_singleton actions action ih => exact ih.step action

end ConfirmationInvariant

/-! ## Results -/

def Democracy.stateOf (d : DemocracyStorage AccountId) (id : Nat) : Option ProposalState :=
  (d.proposals.lookup id).map Proposal.state

/-- The states that a proposal never leaves. -/
def ProposalState.finished : ProposalState → Bool
  | .supersededBy _ | .rejected | .enacted => true
  | _ => false

/-- What the next action of a run may do to a proposal. -/
structure LifecycleHolds (config : Config AccountId) (start : Chain AccountId)
    (actions : List (Action AccountId)) (action : Action AccountId) (id : Nat) : Prop where
  confirmed : ∀ proposal,
    (start.run config (actions ++ [action])).runtime.democracy.proposals.lookup id = some proposal →
      proposal.state = .approved →
        Democracy.stateOf (start.run config actions).runtime.democracy id ≠ some .approved →
          PassedSince config start (actions ++ [action]) id proposal fun began =>
            config.confirmationPeriod < (start.run config (actions ++ [action])).runtime.now - began
  approved : Democracy.stateOf (start.run config actions).runtime.democracy id = some .approved →
    Democracy.stateOf (start.run config (actions ++ [action])).runtime.democracy id =
        some .approved ∨
      Democracy.stateOf (start.run config (actions ++ [action])).runtime.democracy id =
        some .enacted
  finished : ∀ state,
    Democracy.stateOf (start.run config actions).runtime.democracy id = some state →
      state.finished = true →
        Democracy.stateOf (start.run config (actions ++ [action])).runtime.democracy id = some state
  tally : ∀ state,
    Democracy.stateOf (start.run config actions).runtime.democracy id = some state →
      state.canUpdate = false →
        (start.run config (actions ++ [action])).runtime.democracy.tallies.lookup id =
          (start.run config actions).runtime.democracy.tallies.lookup id

omit [DecidableEq AccountId] in
theorem Democracy.stateOf_eq_some {d : DemocracyStorage AccountId} {id : Nat}
    {state : ProposalState} : stateOf d id = some state ↔
      ∃ proposal, d.proposals.lookup id = some proposal ∧ proposal.state = state :=
  Option.map_eq_some_iff

/-- Proposals are approved after uninterrupted passing, and frozen when they are over. -/
theorem Democracy.lifecycle_holds (config : Config AccountId) (genesis : GenesisConfig)
    (nativeBalances : StorageMap AccountId Nat)
    (assetBalances : StorageMap (AccountId × AssetKind) Nat) (actions : List (Action AccountId))
    (action : Action AccountId) (id : Nat) :
    LifecycleHolds config (Chain.genesis genesis nativeBalances assetBalances) actions action
      id := by
  have hinv := (ConfirmationInvariant.genesis config genesis nativeBalances assetBalances).run
    actions
  generalize Chain.genesis genesis nativeBalances assetBalances = start at hinv ⊢
  have hrun : start.run config (actions ++ [action]) =
      (start.run config actions).step config action := Machine.run_concat start actions action
  have hstep := Chain.democracyStep config (start.run config actions) action
  rw [← hrun] at hstep
  constructor
  · intro proposal' hproposal' hstate hnew
    cases hproposal : (start.run config actions).runtime.democracy.proposals.lookup id with
    | none =>
        have hsubmits := hstep.appeared hproposal hproposal'
        rw [hsubmits.state] at hstate
        cases hstate
    | some proposal =>
        rw [ne_eq, stateOf_eq_some] at hnew
        cases hinv.past.queue.proposalStep hstep hproposal with
        | kept found =>
            rw [found, Option.some.injEq] at hproposal'
            rw [← hproposal'] at hstate
            exact absurd ⟨proposal, hproposal, hstate⟩ hnew
        | advanced state advances =>
            have hadvances := advances.advances
            rw [advances.proposals, if_pos rfl, Option.some.injEq] at hproposal'
            rw [← hproposal'] at hstate
            rw [show state = .approved from hstate] at hadvances
            cases hadvances
        | approved since updated approves runtime found tally now =>
            rw [found, Option.some.injEq] at hproposal'
            rw [← hproposal', now]
            have hpassed := hinv.confirming id proposal since hproposal approves.confirming
            apply Machine.HeldSince.extend
            · apply hpassed.mono
              intro chain hbegan
              refine ⟨hbegan.1, hbegan.2.1, ?_⟩
              rw [hbegan.2.2]
              exact approves.confirmed
            · rw [← hpassed.last]
              refine isPassing_of_lookup tally ?_
              exact (congrArg (Option.map Proposal.terms) found).trans
                (congrArg (Option.map Proposal.terms) hproposal).symm
        | enacted queued found =>
            rw [found, Option.some.injEq] at hproposal'
            rw [← hproposal'] at hstate
            cases hstate
  · intro happroved
    obtain ⟨proposal, hproposal, hstate⟩ := stateOf_eq_some.1 happroved
    cases hinv.past.queue.proposalStep hstep hproposal with
    | kept found => exact Or.inl (stateOf_eq_some.2 ⟨proposal, found, hstate⟩)
    | advanced state advances =>
        have hcanUpdate := advances.canUpdate
        rw [hstate] at hcanUpdate
        cases hcanUpdate
    | approved since updated approves runtime found =>
        exact Or.inl (stateOf_eq_some.2 ⟨_, found, rfl⟩)
    | enacted queued found => exact Or.inr (stateOf_eq_some.2 ⟨_, found, rfl⟩)
  · intro state hstateOf hfinished
    obtain ⟨proposal, hproposal, hstate⟩ := stateOf_eq_some.1 hstateOf
    cases hinv.past.queue.proposalStep hstep hproposal with
    | kept found => exact stateOf_eq_some.2 ⟨proposal, found, hstate⟩
    | advanced state' advances =>
        have hcanUpdate := advances.canUpdate
        rw [hstate] at hcanUpdate
        cases state <;> cases hcanUpdate <;> cases hfinished
    | approved since updated approves runtime found =>
        rw [← hstate, approves.confirming] at hfinished
        cases hfinished
    | enacted queued found =>
        obtain ⟨proposal', hproposal', happroved, -⟩ := hinv.past.queue.approved _ id queued
        rw [hproposal, Option.some.injEq] at hproposal'
        rw [← hstate, hproposal', happroved] at hfinished
        cases hfinished
  · intro state hstateOf hclosed
    obtain ⟨proposal, hproposal, hstate⟩ := stateOf_eq_some.1 hstateOf
    cases hinv.past.queue.proposalStep hstep hproposal with
    | kept found tally => exact tally
    | advanced state' advances =>
        have hcanUpdate := advances.canUpdate
        rw [hstate, hclosed] at hcanUpdate
        cases hcanUpdate
    | approved since updated approves runtime found tally => exact tally
    | enacted queued found tally => exact tally

end Encointer
