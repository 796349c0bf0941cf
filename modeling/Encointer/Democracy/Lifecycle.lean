import Encointer.Runtime.PhaseChanges

/-!
# The lifecycle of proposals

What an action does to proposals, tallies and the queue: a submission, an update
or a vote that does not approve, an approval, or the enactment of the whole
queue.
-/

namespace Encointer

variable {AccountId : Type} [DecidableEq AccountId] {config : Config AccountId}
  {s s' : Runtime AccountId}

def Event.proposalId : Event → Nat
  | .proposalEnacted proposalId | .enactmentFailed proposalId _ => proposalId

namespace Democracy

/-! ## Submissions -/

structure Submits (s s' : Runtime AccountId) (proposal : Proposal AccountId) : Prop where
  free : s.democracy.enactmentQueue.contains proposal.action.getIdentifier = false
  state : proposal.state = .ongoing
  start : proposal.start = s.now
  proposals : ∀ id, s'.democracy.proposals.lookup id =
    if id = s.democracy.proposalCount + 1 then some proposal else s.democracy.proposals.lookup id
  proposalCount : s'.democracy.proposalCount = s.democracy.proposalCount + 1
  tallies : ∀ id, id ≠ s.democracy.proposalCount + 1 →
    s'.democracy.tallies.lookup id = s.democracy.tallies.lookup id
  lastApproved : s'.democracy.lastApprovedProposalForAction =
    s.democracy.lastApprovedProposalForAction
  enactmentQueue : s'.democracy.enactmentQueue = s.democracy.enactmentQueue
  events : s'.events = s.events
  now : s'.now = s.now

omit [DecidableEq AccountId] in
theorem submitProposal_submits {action : ProposalAction AccountId}
    {commitments : CommitmentsStorage AccountId} {democracy : DemocracyStorage AccountId}
    (h : submitProposal config s action = .ok (commitments, democracy)) :
    ∃ electorateSize, Submits s { s with commitments := commitments, democracy := democracy }
      ⟨s.now, s.scheduler.currentCeremonyIndex, action, .ongoing, electorateSize⟩ := by
  simp only [submitProposal, bind_eq_ok, ensure_eq_ok, exists_const, ok_inj, Prod.mk.injEq] at h
  obtain ⟨hfree, -, electorateSize, -, ⟨commitments', purposeId⟩, -, rfl, rfl⟩ := h
  refine ⟨electorateSize, hfree, rfl, rfl, ?_, rfl, ?_, rfl, rfl, rfl, rfl⟩
  · intro id
    exact StorageMap.lookup_insert_eq _ _ _ id
  · intro id hne
    exact (StorageMap.lookup_insert_eq _ _ _ id).trans (if_neg hne)

/-! ## Updates -/

omit [DecidableEq AccountId] in
theorem isPassing_of_lookup {id : Nat}
    (htally : s'.democracy.tallies.lookup id = s.democracy.tallies.lookup id)
    (hterms : (s'.democracy.proposals.lookup id).map Proposal.terms =
      (s.democracy.proposals.lookup id).map Proposal.terms) :
    isPassing config s' id = isPassing config s id := by
  unfold isPassing
  rw [htally]
  cases hproposal : s.democracy.proposals.lookup id with
  | none =>
      rw [hproposal, Option.map_none, Option.map_eq_none_iff] at hterms
      rw [hterms]
  | some proposal =>
      rw [hproposal, Option.map_some] at hterms
      obtain ⟨proposal', hproposal', hsame⟩ := Option.map_eq_some_iff.1 hterms
      have helectorate : proposal'.electorateSize = proposal.electorateSize :=
        show proposal'.terms.electorateSize = proposal.terms.electorateSize by rw [hsame]
      rw [hproposal']
      simp only [okOr, bind, Except.bind, helectorate]

omit [DecidableEq AccountId] in
theorem isPassing_congr (h : SameBallots s.democracy s'.democracy) (id : Nat) :
    isPassing config s' id = isPassing config s id :=
  isPassing_of_lookup (by rw [h.tallies]) (h.terms id)

/-- The proposal has been confirming for longer than the confirmation period. -/
structure Approves (config : Config AccountId) (s : Runtime AccountId) (id : Nat)
    (proposal : Proposal AccountId) (since : Nat) : Prop where
  found : s.democracy.proposals.lookup id = some proposal
  confirming : proposal.state = .confirming since
  current : supersededBy s proposal = none
  passing : isPassing config s id = .ok true
  confirmed : config.confirmationPeriod < s.now - since

/-- The states that an update may set, apart from an approval. -/
def MayAdvance (config : Config AccountId) (s s' : Runtime AccountId) (id : Nat)
    (proposal : Proposal AccountId) : ProposalState → Prop
  | .confirming since => isPassing config s' id = .ok true ∧
      s.now - since ≤ config.confirmationPeriod ∧
      (proposal.state = .confirming since ∨
        since = s.now ∧ s.now - proposal.start ≤ config.proposalLifetime)
  | .ongoing | .supersededBy _ | .rejected => True
  | .approved | .enacted => False

structure Advances (config : Config AccountId) (s s' : Runtime AccountId) (id : Nat)
    (proposal : Proposal AccountId) (state : ProposalState) : Prop where
  found : s.democracy.proposals.lookup id = some proposal
  canUpdate : proposal.state.canUpdate = true
  proposals : ∀ id', s'.democracy.proposals.lookup id' =
    if id' = id then some { proposal with state := state } else s.democracy.proposals.lookup id'
  proposalCount : s'.democracy.proposalCount = s.democracy.proposalCount
  tallies : ∀ id', id' ≠ id → s'.democracy.tallies.lookup id' = s.democracy.tallies.lookup id'
  lastApproved : s'.democracy.lastApprovedProposalForAction =
    s.democracy.lastApprovedProposalForAction
  enactmentQueue : s'.democracy.enactmentQueue = s.democracy.enactmentQueue
  events : s'.events = s.events
  now : s'.now = s.now
  advances : MayAdvance config s s' id proposal state

section

omit [DecidableEq AccountId]

/-- Only a confirming proposal that passes is approved, after the confirmation period. -/
theorem updatedState_eq_approved {proposal : Proposal AccountId} {passing : Bool}
    (hcanUpdate : proposal.state.canUpdate = true)
    (h : updatedState config s proposal passing = .approved) :
    passing = true ∧ ∃ since, proposal.state = .confirming since ∧
      config.confirmationPeriod < s.now - since := by
  unfold updatedState at h
  simp only at h
  split at h
  · rename_i since hstate
    split at h
    · rename_i hconfirmed
      exact ⟨rfl, since, hstate, hconfirmed⟩
    · rw [h] at hcanUpdate
      cases hcanUpdate
  · split at h
    · cases h
    · cases h
  · split at h
    · cases h
    · cases h
  · split at h
    · cases h
    · rw [h] at hcanUpdate
      cases hcanUpdate

theorem updatedState_advances {proposal : Proposal AccountId} {passing : Bool} {id : Nat}
    (hcanUpdate : proposal.state.canUpdate = true)
    (hpassing : isPassing config s' id = .ok passing)
    (happroved : updatedState config s proposal passing ≠ .approved) :
    MayAdvance config s s' id proposal (updatedState config s proposal passing) := by
  unfold updatedState at happroved ⊢
  simp only at happroved ⊢
  split
  · rename_i since hstate
    split
    · rename_i hconfirmed
      simp only [hstate, if_pos hconfirmed, ne_eq, not_true] at happroved
    · rename_i hconfirmed
      rw [hstate]
      exact ⟨hpassing, Nat.le_of_not_lt hconfirmed, Or.inl hstate⟩
  · split
    · trivial
    · rename_i hold
      refine ⟨hpassing, ?_, Or.inr ⟨rfl, Nat.le_of_not_lt hold⟩⟩
      rw [Nat.sub_self]
      exact Nat.zero_le _
  · split
    · trivial
    · trivial
  · rename_i hconfirming
    split
    · trivial
    · cases hstate : proposal.state with
      | ongoing => trivial
      | confirming since => exact absurd hstate (hconfirming since)
      | _ =>
          rw [hstate] at hcanUpdate
          cases hcanUpdate

/-- An update approves the proposal, or it advances it in another way. -/
theorem doUpdateProposalState_spec {id : Nat} {d : DemocracyStorage AccountId}
    (h : doUpdateProposalState config s id = .ok d) :
    (∃ proposal since, Approves config s id proposal since ∧
      d = approve (setProposalState s id proposal .approved) s.now id
        proposal.action.getIdentifier) ∨
      ∃ proposal state, Advances config s { s with democracy := d } id proposal state ∧
        d.tallies = s.democracy.tallies := by
  have hsame := doUpdateProposalState_sameBallots h
  simp only [doUpdateProposalState, bind_eq_ok, okOr_eq_ok, ensure_eq_ok, exists_const] at h
  obtain ⟨proposal, hproposal, hcanUpdate, h⟩ := h
  have hadvances (state : ProposalState) (hd : d = setProposalState s id proposal state)
      (hstate : MayAdvance config s { s with democracy := d } id proposal state) :
      ∃ proposal state, Advances config s { s with democracy := d } id proposal state ∧
        d.tallies = s.democracy.tallies := by
    refine ⟨proposal, state, ?_, hsame.tallies⟩
    subst hd
    exact ⟨hproposal, hcanUpdate, fun id' => StorageMap.lookup_insert_eq _ _ _ id', rfl,
      fun _ _ => rfl, rfl, rfl, rfl, rfl, hstate⟩
  split at h
  · rename_i other hother
    rw [ok_inj] at h
    exact Or.inr (hadvances _ h.symm trivial)
  · rename_i hcurrent
    simp only [bind_eq_ok, ok_inj] at h
    obtain ⟨passing, hpassing, hd⟩ := h
    split at hd
    · rename_i happroved
      obtain ⟨rfl, since, hstate, hconfirmed⟩ := updatedState_eq_approved hcanUpdate happroved
      rw [happroved] at hd
      exact Or.inl ⟨proposal, since, ⟨hproposal, hstate, hcurrent, hpassing, hconfirmed⟩, hd.symm⟩
    · rename_i happroved
      have hpassing' : isPassing config { s with democracy := d } id = .ok passing := by
        rw [isPassing_congr hsame]
        exact hpassing
      exact Or.inr (hadvances _ hd.symm (updatedState_advances hcanUpdate hpassing' happroved))

end

/-- A vote never approves: its second update would find an approved proposal. -/
theorem vote_advances {sender : AccountId} {id : Nat} {v : Vote}
    {reputations counted : List CommunityCeremony} {commitments : CommitmentsStorage AccountId}
    {d : DemocracyStorage AccountId}
    (h : vote config s sender id v reputations = .ok (commitments, d, counted)) :
    ∃ proposal state,
      Advances config s { s with commitments := commitments, democracy := d } id proposal state := by
  simp only [vote, bind_eq_ok, okOr_eq_ok, ensure_eq_ok, exists_const, ok_inj,
    Prod.mk.injEq] at h
  obtain ⟨-, tally, htally, updated, hupdate, ⟨commitments', counted'⟩, -, -, d', hupdate', rfl,
    rfl, rfl⟩ := h
  rcases doUpdateProposalState_spec hupdate with ⟨proposal, since, happroves, rfl⟩ |
    ⟨proposal, state, hfirst, hsame⟩
  · -- the second update fails
    rcases doUpdateProposalState_spec hupdate' with ⟨proposal', since', happroves', -⟩ |
      ⟨proposal', state', hsecond, -⟩
    · have hfound := happroves'.found
      simp only [approve, setProposalState, StorageMap.lookup_insert_eq, if_true,
        Option.some.injEq] at hfound
      have hconfirming := happroves'.confirming
      rw [← hfound] at hconfirming
      cases hconfirming
    · have hfound := hsecond.found
      simp only [approve, setProposalState, StorageMap.lookup_insert_eq, if_true,
        Option.some.injEq] at hfound
      have hcanUpdate := hsecond.canUpdate
      rw [← hfound] at hcanUpdate
      cases hcanUpdate
  · have hupdated := hfirst.proposals id
    rw [if_pos rfl] at hupdated
    rcases doUpdateProposalState_spec hupdate' with ⟨proposal', since, happroves, -⟩ |
      ⟨proposal', state', hsecond, -⟩
    · -- the first update would have approved already
      obtain rfl := Option.some.inj (hupdated.symm.trans happroves.found)
      have hadvances := hfirst.advances
      rw [show state = .confirming since from happroves.confirming] at hadvances
      exact absurd happroves.confirmed (Nat.not_lt_of_le hadvances.2.1)
    · obtain rfl := Option.some.inj (hupdated.symm.trans hsecond.found)
      refine ⟨proposal, state', ?_⟩
      constructor
      · exact hfirst.found
      · exact hfirst.canUpdate
      · intro id'
        rw [hsecond.proposals]
        split
        · rfl
        · rename_i hne
          exact (hfirst.proposals id').trans (if_neg hne)
      · exact hsecond.proposalCount.trans hfirst.proposalCount
      · intro id' hne
        rw [hsecond.tallies id' hne, StorageMap.lookup_insert_eq, if_neg hne, hsame]
      · exact hsecond.lastApproved.trans hfirst.lastApproved
      · exact hsecond.enactmentQueue.trans hfirst.enactmentQueue
      · rfl
      · rfl
      · have hadvances := hsecond.advances
        cases state' with
        | confirming since =>
            obtain ⟨hpassing, hperiod, hsince⟩ := hadvances
            refine ⟨hpassing, hperiod, ?_⟩
            rcases hsince with hstate | hnew
            · have hbefore := hfirst.advances
              rw [show state = .confirming since from hstate] at hbefore
              exact hbefore.2.2
            · exact Or.inr hnew
        | approved => cases hadvances
        | enacted => cases hadvances
        | _ => trivial

/-! ## Enactment -/

structure Attempted (d d' : DemocracyStorage AccountId) (new : List Event) : Prop where
  proposals : ∀ id, d'.proposals.lookup id = (d.proposals.lookup id).map fun proposal =>
    if Event.proposalEnacted id ∈ new then { proposal with state := .enacted } else proposal
  proposalCount : d'.proposalCount = d.proposalCount
  tallies : d'.tallies = d.tallies
  lastApproved : d'.lastApprovedProposalForAction = d.lastApprovedProposalForAction

section

omit [DecidableEq AccountId]

theorem Attempted.refl (d : DemocracyStorage AccountId) {new : List Event}
    (h : ∀ id, Event.proposalEnacted id ∉ new) : Attempted d d new where
  proposals := by
    intro id
    simp only [if_neg (h id), Option.map_id']
  proposalCount := rfl
  tallies := rfl
  lastApproved := rfl

theorem Attempted.trans {d d' d'' : DemocracyStorage AccountId} {new new' : List Event}
    (h : Attempted d d' new) (h' : Attempted d' d'' new') : Attempted d d'' (new ++ new') where
  proposals := by
    intro id
    rw [h'.proposals, h.proposals, Option.map_map]
    congr 1
    funext proposal
    simp only [Function.comp_apply, List.mem_append]
    by_cases hfirst : Event.proposalEnacted id ∈ new
    · simp [hfirst]
    · simp [hfirst]
  proposalCount := h'.proposalCount.trans h.proposalCount
  tallies := h'.tallies.trans h.tallies
  lastApproved := h'.lastApproved.trans h.lastApproved

private theorem attempted_setProposalState {id : Nat} {proposal : Proposal AccountId}
    (h : s.democracy.proposals.lookup id = some proposal) :
    Attempted s.democracy (setProposalState s id proposal .enacted) [.proposalEnacted id] where
  proposals := by
    intro id'
    rw [setProposalState, StorageMap.lookup_insert_eq]
    split
    · rename_i hid
      rw [hid, h]
      simp
    · rename_i hne
      simp [hne]
  proposalCount := rfl
  tallies := rfl
  lastApproved := rfl

end

theorem enactProposals_attempted {proposalIds : List Nat}
    (h : enactProposals config proposalIds s = .ok s') :
    ∃ new, new.map Event.proposalId = proposalIds ∧ s'.events = s.events ++ new ∧
      Attempted s.democracy s'.democracy new := by
  induction proposalIds generalizing s with
  | nil =>
      simp only [enactProposals, ok_inj] at h
      rw [h]
      exact ⟨[], rfl, (List.append_nil _).symm, .refl _ (by simp)⟩
  | cons proposalId rest ih =>
      unfold enactProposals at h
      split at h
      · cases h
      · rename_i enacted e _ henact
        rcases enactProposal_spec henact with ⟨e', he, haction⟩ | ⟨_, _, hok, -⟩
        · obtain ⟨new, hids, hevents, hattempted⟩ := ih h
          refine ⟨.enactmentFailed proposalId e :: new, ?_, ?_, ?_⟩
          · rw [List.map_cons, hids]
            rfl
          · rw [hevents, haction.events, List.append_assoc]
            rfl
          · have hfailed : Attempted s.democracy s.democracy [.enactmentFailed proposalId e] :=
              .refl _ (by simp)
            rw [haction.democracy] at hattempted
            exact hfailed.trans hattempted
        · cases hok
      · rename_i enacted henact
        rcases enactProposal_spec henact with ⟨_, hok, -⟩ |
          ⟨proposal, acted, -, haction, hfound, rfl⟩
        · cases hok
        · obtain ⟨new, hids, hevents, hattempted⟩ := ih h
          refine ⟨.proposalEnacted proposalId :: new, ?_, ?_, ?_⟩
          · rw [List.map_cons, hids]
            rfl
          · rw [hevents, haction.events, List.append_assoc]
            rfl
          · have henacted := (attempted_setProposalState hfound).trans hattempted
            rw [haction.democracy] at henacted
            exact henacted

/-! ## Steps -/

/-- What an action does to proposals, their tallies, the queue and the events. -/
inductive Step (config : Config AccountId) (s : Runtime AccountId) (action : Action AccountId)
    (s' : Runtime AccountId) : Prop where
  | same (democracy : s'.democracy = s.democracy) (events : s'.events = s.events)
      (now : s.now ≤ s'.now)
      (phase : s'.scheduler.currentPhase = .assigning → s.scheduler.currentPhase = .assigning)
  | submit (proposal : Proposal AccountId) (submits : Submits s s' proposal)
      (scheduler : s'.scheduler = s.scheduler)
  | advance (id : Nat) (proposal : Proposal AccountId) (state : ProposalState)
      (advances : Advances config s s' id proposal state) (scheduler : s'.scheduler = s.scheduler)
  | approve (id : Nat) (proposal : Proposal AccountId) (since : Nat)
      (updated : action = .updateProposalState id) (approves : Approves config s id proposal since)
      (runtime : s' = { s with
        democracy := Democracy.approve (setProposalState s id proposal .approved) s.now id
          proposal.action.getIdentifier })
  | drain (new : List Event) (ids : new.map Event.proposalId = queued s.democracy)
      (events : s'.events = s.events ++ new)
      (attempted : Attempted s.democracy s'.democracy new)
      (drained : s'.democracy.enactmentQueue = ∅) (now : s.now ≤ s'.now)

end Democracy

/-! ## The democracy of other effects -/

def Effect.democratic : Effect AccountId → Bool
  | .submit .. | .vote .. | .update .. | .attempt .. | .drain => true
  | _ => false

theorem Change.democracy {effects : List (Effect AccountId)} (h : Change config s effects s')
    (hother : ∀ e ∈ effects, e.democratic = false) :
    s'.democracy = s.democracy ∧ s'.events = s.events := by
  cases h with
  | update => cases hother _ List.mem_cons_self
  | enact => cases hother _ List.mem_cons_self
  | enactmentFailed => cases hother _ List.mem_cons_self
  | drain => cases hother _ List.mem_cons_self
  | submit => cases hother _ List.mem_cons_self
  | vote => cases hother _ List.mem_cons_self
  | _ => exact ⟨rfl, rfl⟩

theorem Changes.democracy {effects : List (Effect AccountId)} (h : Changes config s effects s')
    (hother : ∀ e ∈ effects, e.democratic = false) :
    s'.democracy = s.democracy ∧ s'.events = s.events := by
  induction h with
  | refl => exact ⟨rfl, rfl⟩
  | tail hbefore hchange ih =>
      have hfirst := ih fun e he => hother e (List.mem_append_left _ he)
      have hlast := hchange.democracy fun e he => hother e (List.mem_append_right _ he)
      exact ⟨hlast.1.trans hfirst.1, hlast.2.trans hfirst.2⟩

namespace Dispatch

/-- Quiet actions write proposals by an update or at a phase change. -/
theorem QuietEffects.democratic {action : Action AccountId} {effects : List (Effect AccountId)}
    (h : QuietEffects config s action effects) {e : Effect AccountId} (he : e ∈ effects)
    (hdemocratic : e.democratic = true) :
    MayChangePhase action ∨ ∃ id, action = .updateProposalState id := by
  have hmay := h.mayCause he
  cases e with
  | update id => exact Or.inr ⟨id, hmay⟩
  | attempt id enacted => exact Or.inl hmay
  | drain => exact Or.inl hmay
  | submit id =>
      obtain ⟨proposalAction, rfl⟩ := hmay
      rw [show effects = [] from h] at he
      cases he
  | vote id sender counted =>
      obtain ⟨v, reputations, rfl⟩ := hmay
      rw [show effects = [] from h] at he
      cases he
  | _ => cases hdemocratic

/-- A phase change drains the queue when the assigning phase starts. -/
theorem Enters.democracyStep {newPhase : CeremonyPhaseType} {action : Action AccountId}
    (h : Enters config s s' newPhase) : Democracy.Step config s action s' := by
  have hnow := h.scheduler.1
  have hphase := h.phase
  obtain ⟨now, blockNumber, t, random, hlater, hnext, hreacted⟩ := h
  obtain ⟨enacted, henact, hceremonies⟩ := onCeremonyPhaseChange_spec hreacted
  have hscheduler := (Democracy.onCeremonyPhaseChange_changes henact).1.scheduler
  obtain ⟨assigned, hchanges⟩ := Ceremonies.onCeremonyPhaseChange_changes
    (by rw [hscheduler]; exact hnext.symm) hceremonies
  have hsame : s'.democracy = enacted.democracy ∧ s'.events = enacted.events := by
    apply hchanges.democracy
    intro e he
    rcases List.mem_append.1 he with hphase | hassign
    · rcases Ceremonies.mem_phaseEffects hphase with ⟨cc, rfl⟩ | ⟨cid, rfl⟩
      · rfl
      · rfl
    · obtain ⟨cid, -, rfl⟩ := List.mem_map.1 hassign
      rfl
  cases newPhase with
  | assigning =>
      simp only [Democracy.onCeremonyPhaseChange, bind_eq_ok, ok_inj] at henact
      obtain ⟨attempted, hattempts, rfl⟩ := henact
      obtain ⟨new, hids, hevents, hattempted⟩ := Democracy.enactProposals_attempted hattempts
      refine .drain new hids (hsame.2.trans hevents) ?_ ?_ hnow
      · rw [hsame.1]
        exact ⟨hattempted.proposals, hattempted.proposalCount, hattempted.tallies,
          hattempted.lastApproved⟩
      · rw [hsame.1]
  | attesting =>
      simp only [Democracy.onCeremonyPhaseChange, ok_inj] at henact
      rw [← henact] at hsame
      refine .same hsame.1 hsame.2 hnow ?_
      rw [hphase]
      intro h
      cases h
  | registering =>
      simp only [Democracy.onCeremonyPhaseChange, ok_inj] at henact
      rw [← henact] at hsame
      refine .same hsame.1 hsame.2 hnow ?_
      rw [hphase]
      intro h
      cases h

theorem Outcome.democracyStep {action : Action AccountId}
    {observations : List (Observation AccountId)}
    (h : Outcome config s action s' observations) : Democracy.Step config s action s' := by
  cases h with
  | register sender cid proof c t haction hcall hs =>
      rw [hs]
      exact .same rfl rfl le_rfl id
  | upgrade sender cid proof c t haction hcall hs =>
      rw [hs]
      exact .same rfl rfl le_rfl id
  | endorse sender cid newbie c t haction hcall hs =>
      rw [hs]
      exact .same rfl rfl le_rfl id
  | claim sender cid maybeMeetupIndex claim haction hcall hs =>
      rw [hs]
      exact .same rfl rfl le_rfl id
  | submit proposalAction commitments democracy cindexes haction hcall hcindexes hs =>
      obtain ⟨electorateSize, hsubmits⟩ := Democracy.submitProposal_submits hcall
      rw [hs]
      exact .submit _ hsubmits rfl
  | vote sender proposalId v reputations commitments democracy counted purpose haction hcall
      hpurpose hs =>
      obtain ⟨proposal, state, hadvances⟩ := Democracy.vote_advances hcall
      rw [← hs] at hadvances
      exact .advance proposalId proposal state hadvances (by rw [hs])
  | quiet hcall =>
      by_cases hupdate : ∃ id, action = .updateProposalState id
      · obtain ⟨id, rfl⟩ := hupdate
        simp only [dispatchQuiet, bind_eq_ok, ok_inj] at hcall
        obtain ⟨democracy, hupdated, rfl⟩ := hcall
        rcases Democracy.doUpdateProposalState_spec hupdated with
          ⟨proposal, since, happroves, rfl⟩ | ⟨proposal, state, hadvances, -⟩
        · exact .approve id proposal since rfl happroves rfl
        · exact .advance id proposal state hadvances rfl
      · rcases dispatchQuiet_enters_or_keeps hcall with ⟨-, newPhase, henters⟩ |
          ⟨effects, hphase, hnow, hquiet, hchanges, hclock⟩
        · exact henters.democracyStep
        · have hsame := hchanges.democracy ?_
          · exact .same hsame.1 hsame.2 hnow (by rw [hphase]; exact id)
          · intro e he
            cases hdemocratic : e.democratic with
            | false => rfl
            | true =>
                rcases hquiet.democratic he hdemocratic with hmay | hupdate'
                · rw [hclock hmay e he] at hdemocratic
                  cases hdemocratic
                · exact absurd hupdate' hupdate

end Dispatch

theorem Chain.democracyStep (config : Config AccountId) (chain : Chain AccountId)
    (action : Action AccountId) :
    Democracy.Step config chain.runtime action (chain.step config action).runtime := by
  rcases Chain.step_outcome config chain action with ⟨observations, -, houtcome⟩ | hsame
  · exact houtcome.democracyStep
  · rw [hsame]
    exact .same rfl rfl le_rfl id

end Encointer
