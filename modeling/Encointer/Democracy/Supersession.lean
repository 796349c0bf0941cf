import Encointer.Democracy.Confirmation

/-!
# Supersession

Only one proposal of a superseding kind waits for its enactment, and an approval
bars the rivals that were submitted before. The moment of submission has to
differ from the moment of the approval for that.
-/

namespace Encointer

variable {AccountId : Type} [DecidableEq AccountId] {config : Config AccountId}
  {s s' : Runtime AccountId}

/-! ## Identifiers of superseding actions -/

def ProposalActionIdentifier.supersedes : ProposalActionIdentifier → Bool
  | .addLocation _ | .removeLocation _ | .updateCommunityMetadata _ | .updateDemurrage _ |
    .updateNominalIncome _ | .setInactivityTimeout => true
  | _ => false

omit [DecidableEq AccountId] in
theorem supersedes_getIdentifier (action : ProposalAction AccountId) :
    action.getIdentifier.supersedes = action.supersedesSameAction := by
  cases action with
  | _ => rfl

/-! ## Barred proposals -/

/-- The proposal has the identifier. -/
def IsRival (d : DemocracyStorage AccountId) (identifier : ProposalActionIdentifier)
    (id : Nat) : Prop :=
  ∃ proposal, d.proposals.lookup id = some proposal ∧ proposal.action.getIdentifier = identifier

/-- The proposal is over, or it started before the last approval with its identifier. -/
def IsBarred (d : DemocracyStorage AccountId) (identifier : ProposalActionIdentifier)
    (id : Nat) : Prop :=
  IsClosed d id ∨ ∃ proposal approvedAt other, d.proposals.lookup id = some proposal ∧
    proposal.action.getIdentifier = identifier ∧
    d.lastApprovedProposalForAction.lookup identifier = some (approvedAt, other) ∧
    proposal.start < approvedAt

section

omit [DecidableEq AccountId]

theorem IsBarred.not_approves {identifier : ProposalActionIdentifier} {id : Nat}
    (hbarred : IsBarred s.democracy identifier id) (hsupersedes : identifier.supersedes = true)
    {proposal : Proposal AccountId} {since : Nat} :
    ¬ Democracy.Approves config s id proposal since := by
  intro happroves
  rcases hbarred with hclosed | ⟨proposal', approvedAt, other, hproposal', hidentifier, hlast, hbefore⟩
  · exact QueueInvariant.not_closed happroves hclosed
  · rw [happroves.found, Option.some.injEq] at hproposal'
    subst hproposal'
    have hcurrent := happroves.current
    rw [← hidentifier, supersedes_getIdentifier] at hsupersedes
    unfold Democracy.supersededBy at hcurrent
    rw [hidentifier, hlast] at hcurrent
    simp only [hsupersedes, hbefore, and_self, if_true] at hcurrent
    cases hcurrent

theorem ProposalStep.isClosed {action : Action AccountId} {id : Nat} {proposal : Proposal AccountId}
    (h : ProposalStep config s action s' id proposal) (hclosed : proposal.state.canUpdate = false) :
    IsClosed s'.democracy id := by
  cases h with
  | kept found => exact ⟨proposal, found, hclosed⟩
  | advanced state advances =>
      rw [advances.canUpdate] at hclosed
      cases hclosed
  | approved since updated approves runtime found => exact ⟨_, found, rfl⟩
  | enacted queued found => exact ⟨_, found, rfl⟩

theorem IsBarred.step {action : Action AccountId} {identifier : ProposalActionIdentifier} {id : Nat}
    (hbarred : IsBarred s.democracy identifier id) (hinv : PastInvariant s)
    (h : Democracy.Step config s action s') : IsBarred s'.democracy identifier id := by
  rcases hbarred with ⟨proposal, hproposal, hclosed⟩ |
    ⟨proposal, approvedAt, other, hproposal, hidentifier, hlast, hbefore⟩
  · exact Or.inl ((hinv.queue.proposalStep h hproposal).isClosed hclosed)
  · obtain ⟨state, hfound⟩ := (hinv.queue.proposalStep h hproposal).found
    rcases h.lastApproved identifier with hsame | ⟨id', hnew⟩
    · rw [hlast] at hsame
      exact Or.inr ⟨_, approvedAt, other, hfound, hidentifier, hsame, hbefore⟩
    · have hpast := hinv.approved identifier approvedAt other hlast
      exact Or.inr ⟨_, s.now, id', hfound, hidentifier, hnew, hbefore.trans_le hpast⟩

/-- Rivals were rivals before, or their queue is empty. -/
theorem IsRival.before {action : Action AccountId} {identifier : ProposalActionIdentifier}
    {id : Nat}
    (hrival : IsRival s'.democracy identifier id) (hinv : QueueInvariant s)
    (h : Democracy.Step config s action s') :
    IsRival s.democracy identifier id ∨ Democracy.queueOf s'.democracy identifier = [] := by
  obtain ⟨proposal', hproposal', hidentifier⟩ := hrival
  cases hproposal : s.democracy.proposals.lookup id with
  | none =>
      have hsubmits := h.appeared hproposal hproposal'
      have hfree := StorageMap.contains_eq_false.1 hsubmits.free
      rw [hidentifier] at hfree
      rw [Democracy.queueOf, hsubmits.enactmentQueue, StorageMap.get_of_lookup_none hfree]
      exact Or.inr rfl
  | some proposal =>
      obtain ⟨state, hfound⟩ := (hinv.proposalStep h hproposal).found
      rw [hfound, Option.some.injEq] at hproposal'
      rw [← hproposal'] at hidentifier
      exact Or.inl ⟨proposal, hproposal, hidentifier⟩

end

/-! ## The condition on approvals -/

/-- No rival that can still be approved was submitted at the moment of the approval. -/
def NoSimultaneousRival (config : Config AccountId) (chain : Chain AccountId)
    (action : Action AccountId) : Prop :=
  ∀ id ∈ action.updated, ∀ proposal ∈ chain.runtime.democracy.proposals.lookup id,
    proposal.action.supersedesSameAction = true →
      Democracy.UpdateApproves config chain.runtime id proposal →
        ∀ rival ∈ chain.runtime.democracy.proposals.entries, rival.1 ≠ id →
          rival.2.action.getIdentifier = proposal.action.getIdentifier →
            rival.2.state.canUpdate = true → rival.2.start ≠ chain.runtime.now

instance (config : Config AccountId) (chain : Chain AccountId) (action : Action AccountId) :
    Decidable (NoSimultaneousRival config chain action) :=
  inferInstanceAs (Decidable (∀ id ∈ action.updated,
    ∀ proposal ∈ chain.runtime.democracy.proposals.lookup id,
      proposal.action.supersedesSameAction = true →
        Democracy.UpdateApproves config chain.runtime id proposal →
          ∀ rival ∈ chain.runtime.democracy.proposals.entries, rival.1 ≠ id → _ → _ → _))

omit [DecidableEq AccountId] in
/-- An approval bars all rivals that were submitted before. -/
theorem NoSimultaneousRival.barred {chain : Chain AccountId} {action : Action AccountId}
    (hinv : PastInvariant chain.runtime) (hok : NoSimultaneousRival config chain action)
    {id : Nat} {proposal : Proposal AccountId} {since : Nat}
    (hupdated : action = .updateProposalState id)
    (happroves : Democracy.Approves config chain.runtime id proposal since)
    (hsupersedes : proposal.action.getIdentifier.supersedes = true)
    (hs : s' = { chain.runtime with
      democracy := Democracy.approve
        (Democracy.setProposalState chain.runtime id proposal .approved) chain.runtime.now id
        proposal.action.getIdentifier })
    {rival : Nat}
    (hrival : IsRival chain.runtime.democracy proposal.action.getIdentifier rival) :
    IsBarred s'.democracy proposal.action.getIdentifier rival := by
  obtain ⟨proposal', hproposal', hidentifier⟩ := hrival
  by_cases hid : rival = id
  · refine Or.inl ⟨{ proposal with state := .approved }, ?_, rfl⟩
    rw [hs, Democracy.lookup_approve, if_pos hid]
  · have hlookup : s'.democracy.proposals.lookup rival = some proposal' := by
      rw [hs, Democracy.lookup_approve, if_neg hid]
      exact hproposal'
    cases hcanUpdate : proposal'.state.canUpdate with
    | false => exact Or.inl ⟨proposal', hlookup, hcanUpdate⟩
    | true =>
        have hne := hok id (by rw [hupdated]; rfl) proposal (by rw [happroves.found]; rfl)
          (by rw [← supersedes_getIdentifier]; exact hsupersedes) happroves.updateApproves
          (rival, proposal') (StorageMap.lookup_eq_some_iff.1 hproposal') hid hidentifier hcanUpdate
        have hpast := hinv.started rival proposal' hproposal'
        refine Or.inr ⟨proposal', chain.runtime.now, id, hlookup, hidentifier, ?_,
          Nat.lt_of_le_of_ne hpast hne⟩
        rw [hs]
        exact (StorageMap.lookup_insert_eq _ _ _ _).trans (if_pos rfl)

/-! ## The invariant -/

structure SupersessionInvariant (identifier : ProposalActionIdentifier) (s : Runtime AccountId) :
    Prop where
  past : PastInvariant s
  lost : NoneLost identifier s
  single : (Democracy.queueOf s.democracy identifier).length ≤ 1
  barred : Democracy.queueOf s.democracy identifier ≠ [] →
    ∀ id, IsRival s.democracy identifier id → IsBarred s.democracy identifier id

omit [DecidableEq AccountId] in
/-- A queue stays or is drained, or a proposal is approved. -/
theorem Democracy.Step.queueOf {action : Action AccountId}
    (h : Democracy.Step config s action s') (identifier : ProposalActionIdentifier) :
    Democracy.queueOf s'.democracy identifier = [] ∨
      Democracy.queueOf s'.democracy identifier = Democracy.queueOf s.democracy identifier ∨
      ∃ id proposal since, action = .updateProposalState id ∧
        Approves config s id proposal since ∧ proposal.action.getIdentifier = identifier ∧
        s' = { s with
          democracy := Democracy.approve (setProposalState s id proposal .approved) s.now id
            proposal.action.getIdentifier } := by
  cases h with
  | same democracy =>
      rw [democracy]
      exact Or.inr (Or.inl rfl)
  | submit proposal submits =>
      rw [Democracy.queueOf, submits.enactmentQueue]
      exact Or.inr (Or.inl rfl)
  | advance id proposal state advances =>
      rw [Democracy.queueOf, advances.enactmentQueue]
      exact Or.inr (Or.inl rfl)
  | approve id proposal since updated approves runtime =>
      by_cases hidentifier : proposal.action.getIdentifier = identifier
      · exact Or.inr (Or.inr ⟨id, proposal, since, updated, approves, hidentifier, runtime⟩)
      · refine Or.inr (Or.inl ?_)
        rw [runtime, queueOf_approve, if_neg]
        · rfl
        · intro hroom
          exact hidentifier hroom.1.symm
  | drain new ids events attempted drained => exact Or.inl (queueOf_drained drained identifier)

namespace SupersessionInvariant

variable {identifier : ProposalActionIdentifier}

omit [DecidableEq AccountId] in
theorem genesis (identifier : ProposalActionIdentifier) (genesis : GenesisConfig)
    (nativeBalances : StorageMap AccountId Nat)
    (assetBalances : StorageMap (AccountId × AssetKind) Nat) :
    SupersessionInvariant identifier
      (Chain.genesis genesis nativeBalances assetBalances).runtime where
  past := PastInvariant.genesis genesis nativeBalances assetBalances
  lost := NoneLost.genesis identifier genesis nativeBalances assetBalances
  single := Nat.zero_le 1
  barred := by
    intro hqueue
    exact absurd rfl hqueue

omit [DecidableEq AccountId] in
/-- While a proposal waits, no rival can be approved. -/
theorem queueOf_eq_nil (hinv : SupersessionInvariant identifier s)
    (hsupersedes : identifier.supersedes = true) {id : Nat} {proposal : Proposal AccountId}
    {since : Nat} (happroves : Democracy.Approves config s id proposal since)
    (hidentifier : proposal.action.getIdentifier = identifier) :
    Democracy.queueOf s.democracy identifier = [] := by
  by_contra hqueue
  have hbarred := hinv.barred hqueue id ⟨proposal, happroves.found, hidentifier⟩
  exact hbarred.not_approves hsupersedes happroves

theorem step {chain : Chain AccountId} {action : Action AccountId}
    (hinv : SupersessionInvariant identifier chain.runtime)
    (hsupersedes : identifier.supersedes = true)
    (hok : NoSimultaneousRival config chain action) :
    SupersessionInvariant identifier (chain.step config action).runtime := by
  have hstep := Chain.democracyStep config chain action
  generalize (chain.step config action).runtime = s' at hstep ⊢
  constructor
  · exact hinv.past.step hstep
  · refine hinv.lost.step hstep ?_
    intro id proposal since _ happroves hidentifier
    rw [hinv.queueOf_eq_nil hsupersedes happroves hidentifier]
    decide
  · rcases hstep.queueOf identifier with hempty | hsame |
      ⟨id, proposal, since, -, happroves, hidentifier, hs⟩
    · rw [hempty]
      exact Nat.zero_le 1
    · rw [hsame]
      exact hinv.single
    · have hempty := hinv.queueOf_eq_nil hsupersedes happroves hidentifier
      rw [← hidentifier] at hempty ⊢
      rw [hs, Democracy.queueOf_approve]
      have hbefore (state : ProposalState) : Democracy.queueOf
          (Democracy.setProposalState chain.runtime id proposal state)
          proposal.action.getIdentifier = [] := hempty
      rw [hbefore]
      split
      · exact le_rfl
      · exact Nat.zero_le 1
  · intro hqueue rival hrival
    have hbefore := (hrival.before hinv.past.queue hstep).resolve_right hqueue
    rcases hstep.queueOf identifier with hempty | hsame |
      ⟨id, proposal, since, hupdated, happroves, rfl, hs⟩
    · exact absurd hempty hqueue
    · rw [hsame] at hqueue
      exact (hinv.barred hqueue rival hbefore).step hinv.past hstep
    · exact hok.barred hinv.past hupdated happroves hsupersedes hs hbefore

end SupersessionInvariant

/-! ## Results -/

def IsWaiting (s : Runtime AccountId) (identifier : ProposalActionIdentifier) (id : Nat) : Prop :=
  IsApproved s.democracy identifier id ∧ id ∉ attemptedIds s.events

def ApprovedBy (config : Config AccountId) (start : Chain AccountId)
    (actions : List (Action AccountId)) (action : Action AccountId) (id : Nat) : Prop :=
  Democracy.stateOf (start.run config actions).runtime.democracy id ≠ some .approved ∧
    Democracy.stateOf (start.run config (actions ++ [action])).runtime.democracy id =
      some .approved

structure SupersessionHolds (config : Config AccountId) (start : Chain AccountId)
    (actions : List (Action AccountId)) (identifier : ProposalActionIdentifier) : Prop where
  one : ∀ id id', IsWaiting (start.run config actions).runtime identifier id →
    IsWaiting (start.run config actions).runtime identifier id' → id = id'
  closed : ∀ id, IsWaiting (start.run config actions).runtime identifier id →
    ∀ proposalAction, proposalAction.getIdentifier = identifier →
      Democracy.submitProposal config (start.run config actions).runtime proposalAction =
        .error .proposalWaitingForEnactment
  /-- Rivals that were submitted before an approval are not approved by later actions. -/
  superseded : ∀ before action since next id rival, actions = before ++ action :: since →
    ApprovedBy config start before action id →
      IsRival (start.run config before).runtime.democracy identifier id →
        IsRival (start.run config before).runtime.democracy identifier rival → rival ≠ id →
          ¬ ApprovedBy config start actions next rival

theorem ApprovedBy.approves {start : Chain AccountId} {actions : List (Action AccountId)}
    {action : Action AccountId} {id : Nat} (h : ApprovedBy config start actions action id)
    (hinv : PastInvariant (start.run config actions).runtime) :
    ∃ proposal since, action = .updateProposalState id ∧
      Democracy.Approves config (start.run config actions).runtime id proposal since ∧
      (start.run config (actions ++ [action])).runtime = { (start.run config actions).runtime with
        democracy := Democracy.approve
          (Democracy.setProposalState (start.run config actions).runtime id proposal .approved)
          (start.run config actions).runtime.now id proposal.action.getIdentifier } := by
  have hrun : start.run config (actions ++ [action]) =
      (start.run config actions).step config action := Machine.run_concat start actions action
  have hstep := Chain.democracyStep config (start.run config actions) action
  rw [← hrun] at hstep
  obtain ⟨hnew, happroved⟩ := h
  obtain ⟨proposal', hproposal', hstate⟩ := Democracy.stateOf_eq_some.1 happroved
  cases hproposal : (start.run config actions).runtime.democracy.proposals.lookup id with
  | none =>
      rw [(hstep.appeared hproposal hproposal').state] at hstate
      cases hstate
  | some proposal =>
      cases hinv.queue.proposalStep hstep hproposal with
      | kept found =>
          rw [found, Option.some.injEq] at hproposal'
          rw [← hproposal'] at hstate
          exact absurd (Democracy.stateOf_eq_some.2 ⟨proposal, hproposal, hstate⟩) hnew
      | advanced state advances =>
          have hadvances := advances.advances
          rw [advances.proposals, if_pos rfl, Option.some.injEq] at hproposal'
          rw [← hproposal'] at hstate
          rw [show state = .approved from hstate] at hadvances
          cases hadvances
      | approved since updated approves runtime =>
          exact ⟨proposal, since, updated, approves, runtime⟩
      | enacted queued found =>
          rw [found, Option.some.injEq] at hproposal'
          rw [← hproposal'] at hstate
          cases hstate

theorem IsBarred.run {chain : Chain AccountId} {identifier : ProposalActionIdentifier} {id : Nat}
    (hbarred : IsBarred chain.runtime.democracy identifier id) (hinv : PastInvariant chain.runtime)
    (actions : List (Action AccountId)) :
    IsBarred (chain.run config actions).runtime.democracy identifier id := by
  have hrun := Machine.run_invariant_of_step
    (fun chain : Chain AccountId =>
      PastInvariant chain.runtime ∧ IsBarred chain.runtime.democracy identifier id)
    (fun chain action h =>
      have hstep := Chain.democracyStep config chain action
      ⟨h.1.step hstep, h.2.step h.1 hstep⟩) ⟨hinv, hbarred⟩ actions
  exact hrun.2

omit [DecidableEq AccountId] in
theorem IsRival.unique {d : DemocracyStorage AccountId}
    {identifier : ProposalActionIdentifier} {id : Nat} {proposal : Proposal AccountId}
    (h : IsRival d identifier id) (hproposal : d.proposals.lookup id = some proposal) :
    proposal.action.getIdentifier = identifier := by
  obtain ⟨proposal', hproposal', rfl⟩ := h
  rw [hproposal, Option.some.injEq] at hproposal'
  rw [hproposal']

/-- Rivals supersede each other in every run that never approves one at the moment of another. -/
theorem Democracy.rivals_superseded (config : Config AccountId) (genesis : GenesisConfig)
    (nativeBalances : StorageMap AccountId Nat)
    (assetBalances : StorageMap (AccountId × AssetKind) Nat) (actions : List (Action AccountId))
    (hok : Machine.Along (Chain.step config) (NoSimultaneousRival config)
      (Chain.genesis genesis nativeBalances assetBalances) actions)
    (identifier : ProposalActionIdentifier) (hsupersedes : identifier.supersedes = true) :
    SupersessionHolds config (Chain.genesis genesis nativeBalances assetBalances) actions
      identifier := by
  have hgenesis := SupersessionInvariant.genesis identifier genesis nativeBalances assetBalances
  generalize Chain.genesis genesis nativeBalances assetBalances = start at hok hgenesis ⊢
  have hrun {actions : List (Action AccountId)}
      (hok : Machine.Along (Chain.step config) (NoSimultaneousRival config) start actions) :
      SupersessionInvariant identifier (start.run config actions).runtime :=
    Machine.run_invariant (NoSimultaneousRival config)
      (fun chain => SupersessionInvariant identifier chain.runtime)
      (fun _ _ h hok => h.step hsupersedes hok) hgenesis hok
  have hinv := hrun hok
  have hqueued {id : Nat} (hwaiting : IsWaiting (start.run config actions).runtime identifier id) :
      id ∈ queueOf (start.run config actions).runtime.democracy identifier :=
    (hinv.lost id hwaiting.1).resolve_left hwaiting.2
  constructor
  · intro id id' hwaiting hwaiting'
    obtain ⟨first, hqueue⟩ : ∃ first,
        queueOf (start.run config actions).runtime.democracy identifier = [first] := by
      apply List.length_eq_one_iff.1
      have hpos := List.length_pos_of_mem (hqueued hwaiting)
      have hsingle := hinv.single
      omega
    have hid := hqueued hwaiting
    have hid' := hqueued hwaiting'
    rw [hqueue, List.mem_singleton] at hid hid'
    rw [hid, hid']
  · intro id hwaiting proposalAction hidentifier
    have hcontains : (start.run config actions).runtime.democracy.enactmentQueue.contains
        proposalAction.getIdentifier = true := by
      obtain ⟨waiting, hentry, -⟩ := mem_queueOf.1 (hqueued hwaiting)
      rw [hidentifier]
      exact StorageMap.contains_eq_true.2 ⟨waiting, StorageMap.lookup_eq_some_iff.2 hentry⟩
    unfold submitProposal
    simp only [hcontains, ensure, Bool.true_eq_false, if_false]
    rfl
  · intro before action since next id rival hactions happroved hrival hrival' hne hnext
    subst hactions
    obtain ⟨hbefore, hok', -⟩ := Machine.Along.append.1 hok
    have hpast := (hrun hbefore).past
    obtain ⟨proposal, began, hupdated, happroves, hs⟩ := happroved.approves hpast
    have hidentifier := hrival.unique happroves.found
    rw [← hidentifier] at hrival' hsupersedes
    have hbarred := NoSimultaneousRival.barred hpast hok' hupdated happroves hsupersedes hs hrival'
    have hafter : start.run config (before ++ action :: since) =
        (start.run config (before ++ [action])).run config since := by
      rw [List.append_cons]
      exact Machine.run_append start (before ++ [action]) since
    have hpast' := hpast.step (Chain.democracyStep config (start.run config before) action)
    rw [← show start.run config (before ++ [action]) =
      (start.run config before).step config action from Machine.run_concat start before action]
      at hpast'
    have hlater : IsBarred
        ((start.run config (before ++ [action])).run config since).runtime.democracy _ rival :=
      hbarred.run hpast' since
    rw [← hafter] at hlater
    obtain ⟨proposal', began', -, happroves', -⟩ := hnext.approves hinv.past
    exact hlater.not_approves hsupersedes happroves'

namespace Demo

/-- Two rivals on the same day, and an update of each after the confirmation period. -/
def rivals : List (Action Nat) :=
  firstCeremony ++ [newDay 4, newDay 5, newDay 6, newDay 7,
    .submitProposal (.setInactivityTimeout 3), .submitProposal (.setInactivityTimeout 4),
    .vote 1 1 .aye [(islanders, 1)], .vote 1 2 .aye [(islanders, 1)], newDay 8, newDay 9,
    .updateProposalState 1, .updateProposalState 2]

/-- The second rival is submitted in the block in which the first one is approved. -/
def simultaneousRivals : List (Action Nat) :=
  firstCeremony ++ [newDay 4, newDay 5, newDay 6, newDay 7,
    .submitProposal (.setInactivityTimeout 3), .vote 1 1 .aye [(islanders, 1)], newDay 8, newDay 9,
    .submitProposal (.setInactivityTimeout 4), .vote 1 2 .aye [(islanders, 1)],
    .updateProposalState 1, .beginBlock (10 * day + 2) ⟨[]⟩, .updateProposalState 2]

end Demo

theorem Democracy.rivals_superseded_rivals :
    stateOf (Demo.start.run Demo.runtimeConfig Demo.rivals).runtime.democracy 2 =
        some (.supersededBy 1) ∧
      SupersessionHolds Demo.runtimeConfig Demo.start Demo.rivals .setInactivityTimeout :=
  ⟨by decide +kernel,
    Democracy.rivals_superseded Demo.runtimeConfig Demo.genesis ∅ ∅ Demo.rivals
      (by decide +kernel) .setInactivityTimeout rfl⟩

/-- Both rivals are approved, and wait for their enactment together. -/
theorem Democracy.simultaneous_rivals_approved :
    ¬ SupersessionHolds Demo.runtimeConfig Demo.start Demo.simultaneousRivals
      .setInactivityTimeout := by
  have hboth : let s := (Demo.start.run Demo.runtimeConfig Demo.simultaneousRivals).runtime
      attemptedIds s.events = [] ∧ ∀ id ∈ [1, 2], (s.democracy.proposals.lookup id).map (fun proposal =>
        (proposal.state, proposal.action.getIdentifier)) = some (.approved, .setInactivityTimeout) := by
    decide +kernel
  obtain ⟨hattempted, hboth⟩ := hboth
  have hwaiting (id : Nat) (hid : id ∈ [1, 2]) :
      IsWaiting (Demo.start.run Demo.runtimeConfig Demo.simultaneousRivals).runtime
        .setInactivityTimeout id := by
    obtain ⟨proposal, hproposal, hstate⟩ := Option.map_eq_some_iff.1 (hboth id hid)
    rw [Prod.mk.injEq] at hstate
    refine ⟨⟨proposal, hproposal, hstate⟩, ?_⟩
    rw [hattempted]
    exact List.not_mem_nil
  intro h
  have hsame := h.one 1 2 (hwaiting 1 (by simp)) (hwaiting 2 (by simp))
  cases hsame

end Encointer
