import Encointer.Ceremonies.EndorseesCount
import Encointer.Ceremonies.Histories
import Mathlib.Algebra.Order.BigOperators.Group.Finset

/-!
# Tickets bound endorsements

Each endorsement burns a ticket. The burned tickets of a ceremony are forgotten
when nobody can be endorsed for it any more, and those of a bootstrapper when the
community is gone, so that no ticket is used twice.
-/

namespace Encointer

open Ceremonies

variable {AccountId : Type} [DecidableEq AccountId] {config : Config AccountId}
  {s s' : Runtime AccountId}

/-! ## The ceremony that newcomers are endorsed for -/

section

omit [DecidableEq AccountId]

theorem endorsementCindex_eq (s : Runtime AccountId) :
    endorsementCindex s = (s.scheduler.time + 2) / 3 := by
  unfold endorsementCindex SchedulerStorage.time
  cases s.scheduler.currentPhase with
  | registering =>
      simp only [if_true, CeremonyPhaseType.rank]
      omega
  | assigning =>
      simp only [reduceCtorEq, if_false, CeremonyPhaseType.rank]
      omega
  | attesting =>
      simp only [reduceCtorEq, if_false, CeremonyPhaseType.rank]
      omega

theorem endorsementCindex_le (h : s.scheduler.time ≤ s'.scheduler.time) :
    endorsementCindex s ≤ endorsementCindex s' := by
  rw [endorsementCindex_eq, endorsementCindex_eq]
  omega

theorem endorsementCindex_of_phase :
    s.scheduler.currentCeremonyIndex ≤ endorsementCindex s ∧
      (s.scheduler.currentPhase ≠ .registering →
        endorsementCindex s = s.scheduler.currentCeremonyIndex + 1) := by
  unfold endorsementCindex
  split
  · rename_i hphase
    exact ⟨le_rfl, fun hnot => absurd hphase hnot⟩
  · exact ⟨by omega, fun _ => rfl⟩

end

namespace Dispatch

/-! ## One action -/

def endorsement (config : Config AccountId) (s : Runtime AccountId) (action : Action AccountId) :
    Option (AccountId × CommunityCeremony) :=
  match action with
  | .endorseNewcomer sender cid _ =>
      if (dispatch config s action).isOk then some (sender, (cid, endorsementCindex s)) else none
  | _ => none

def observed (config : Config AccountId) (s : Runtime AccountId) (action : Action AccountId) :
    List (Observation AccountId) :=
  match dispatch config s action with
  | .ok (_, observations) => observations
  | .error _ => []

/-- Why an endorsement is no longer pending. -/
def PendingEnds (s' : Runtime AccountId) (action : Action AccountId)
    (observations : List (Observation AccountId)) (cc : CommunityCeremony)
    (newbie : AccountId) : Prop :=
  (∃ c reputation, .registered (cc.1, c) newbie .endorsee reputation ∈ observations) ∨
    cc.1 ∉ s'.communities.communityIdentifiers ∨
    cc.2 + s'.ceremonies.reputationLifetime < s'.scheduler.currentCeremonyIndex ∨
    action = .purgeCommunityCeremony cc

/-- An endorsement burns a ticket; other actions may forget tickets. -/
inductive TicketStep (config : Config AccountId) (s : Runtime AccountId)
    (action : Action AccountId) (s' : Runtime AccountId) : Prop where
  | endorsed (cc : CommunityCeremony) (sender newbie : AccountId) (t : Option ParticipantType)
      (haction : action = .endorseNewcomer sender cc.1 newbie)
      (hendorsement : endorsement config s action = some (sender, cc))
      (h : Endorses s s'.ceremonies cc sender newbie t) (hscheduler : s'.scheduler = s.scheduler)
      (hobs : t = some .endorsee → .registered cc newbie .endorsee none ∈ observed config s action)
  | silent (hendorsement : endorsement config s action = none)
      (reputable : ∀ cc a, s'.ceremonies.burnedReputableNewbieTickets.get (cc, a) 0 =
          s.ceremonies.burnedReputableNewbieTickets.get (cc, a) 0 ∨
        s'.ceremonies.burnedReputableNewbieTickets.get (cc, a) 0 = 0 ∧
          (cc.2 < endorsementCindex s' ∨ action = .purgeCommunityCeremony cc))
      (bootstrapper : ∀ cid a, s'.ceremonies.burnedBootstrapperNewbieTickets.get (cid, a) 0 =
          s.ceremonies.burnedBootstrapperNewbieTickets.get (cid, a) 0 ∨
        s'.ceremonies.burnedBootstrapperNewbieTickets.get (cid, a) 0 = 0 ∧
          cid ∉ s'.communities.communityIdentifiers)
      (kept : ∀ cc newbie, IsPending s.ceremonies cc newbie →
        IsPending s'.ceremonies cc newbie ∨
          PendingEnds s' action (observed config s action) cc newbie)
      (old : ∀ cc newbie, IsPending s'.ceremonies cc newbie → IsPending s.ceremonies cc newbie)

theorem TicketStep.of_historyAt {c c' : CeremoniesStorage AccountId} {cc : CommunityCeremony}
    (hburned : (c'.historyAt cc).burnedReputableNewbieTickets =
      (c.historyAt cc).burnedReputableNewbieTickets)
    (hendorsees : (c'.historyAt cc).endorsees = (c.historyAt cc).endorsees) :
    (∀ a, c'.burnedReputableNewbieTickets.get (cc, a) 0 =
        c.burnedReputableNewbieTickets.get (cc, a) 0) ∧
      ∀ newbie, IsPending c' cc newbie ↔ IsPending c cc newbie := by
  constructor
  · intro a
    have hlookup : c'.burnedReputableNewbieTickets.lookup (cc, a) =
        c.burnedReputableNewbieTickets.lookup (cc, a) := congrFun hburned a
    rw [StorageMap.get, hlookup, StorageMap.get]
  · intro newbie
    have hlookup : c'.endorsees.lookup (cc, newbie) = c.endorsees.lookup (cc, newbie) :=
      congrFun hendorsees newbie
    rw [IsPending, StorageMap.contains, hlookup, IsPending, StorageMap.contains]

theorem historyAt_forgets {c : CeremoniesStorage AccountId} {cc : CommunityCeremony}
    (h : c.historyAt cc = .empty) :
    (∀ a, c.burnedReputableNewbieTickets.get (cc, a) 0 = 0) ∧
      ∀ newbie, ¬ IsPending c cc newbie := by
  constructor
  · intro a
    have hlookup : c.burnedReputableNewbieTickets.lookup (cc, a) = none :=
      congrFun (congrArg CeremonyHistory.burnedReputableNewbieTickets h) a
    simp [StorageMap.get, hlookup]
  · intro newbie
    have hlookup : c.endorsees.lookup (cc, newbie) = none :=
      congrFun (congrArg CeremonyHistory.endorsees h) newbie
    simp [IsPending, StorageMap.contains, hlookup]

/-- A phase change keeps the tickets and endorsements of a ceremony, or it forgets them all. -/
theorem phaseStarts_tickets {newPhase : CeremonyPhaseType} (h : PhaseStarts s s' newPhase)
    (hphase : s'.scheduler.currentPhase = newPhase) (cc : CommunityCeremony) :
    s'.ceremonies.historyAt cc = .empty ∧ cc.2 < endorsementCindex s' ∧
        (cc.1 ∉ s'.communities.communityIdentifiers ∨
          cc.2 + s'.ceremonies.reputationLifetime < s'.scheduler.currentCeremonyIndex) ∨
      (s'.ceremonies.historyAt cc).burnedReputableNewbieTickets =
          (s.ceremonies.historyAt cc).burnedReputableNewbieTickets ∧
        (s'.ceremonies.historyAt cc).endorsees = (s.ceremonies.historyAt cc).endorsees := by
  have hcindex := endorsementCindex_of_phase (s := s')
  cases h with
  | registering h =>
      have hhistory := h.historyAt cc
      split at hhistory
      · rename_i hold
        exact Or.inl ⟨hhistory, by omega, Or.inr (by omega)⟩
      · exact Or.inr ⟨by rw [hhistory], by rw [hhistory]⟩
  | assigning counters removed h =>
      by_cases hremoved : cc.1 ∈ removed ∧ cc.2 ∈ cindexesWithinLifetime s'
      · have hnext := hcindex.2 (by simp [hphase])
        have hwithin := hremoved.2
        simp only [cindexesWithinLifetime, List.mem_range'_1] at hwithin
        refine Or.inl ⟨h.purged cc hremoved.1 hremoved.2, by omega, Or.inl ?_⟩
        intro hmem
        exact ((h.communityIdentifiers cc.1).1 hmem).2 hremoved.1
      · right
        rcases h.kept cc hremoved with hsame | ⟨-, -, _, _, _, hassigned⟩
        · exact ⟨by rw [hsame], by rw [hsame]⟩
        · exact ⟨by rw [hassigned], by rw [hassigned]⟩
  | attesting hceremonies hcommunities =>
      right
      rw [hceremonies]
      exact ⟨rfl, rfl⟩

theorem phaseStarts_bootstrapper {newPhase : CeremonyPhaseType} (h : PhaseStarts s s' newPhase)
    (cid : CommunityIdentifier) (a : AccountId) :
    s'.ceremonies.burnedBootstrapperNewbieTickets.get (cid, a) 0 =
        s.ceremonies.burnedBootstrapperNewbieTickets.get (cid, a) 0 ∨
      s'.ceremonies.burnedBootstrapperNewbieTickets.get (cid, a) 0 = 0 ∧
        cid ∉ s'.communities.communityIdentifiers := by
  cases h with
  | registering h =>
      left
      rw [h.burnedBootstrapperNewbieTickets]
  | assigning counters removed h =>
      have hburned := h.burnedBootstrapperNewbieTickets cid a
      split at hburned
      · rename_i hremoved
        right
        refine ⟨by simp [StorageMap.get, hburned], ?_⟩
        intro hmem
        exact ((h.communityIdentifiers cid).1 hmem).2 hremoved
      · left
        rw [StorageMap.get, hburned, StorageMap.get]
  | attesting hceremonies hcommunities =>
      left
      rw [hceremonies]

private theorem endorsement_eq_none {action : Action AccountId}
    {observations : List (Observation AccountId)}
    (h : dispatch config s action = .ok (s', observations))
    (hsilent : ∀ cc sender newbie, .endorsed cc sender newbie ∉ observations) :
    endorsement config s action = none := by
  cases action with
  | endorseNewcomer sender cid newbie =>
      simp only [dispatch, bind_eq_ok, ok_inj, Prod.mk.injEq] at h
      obtain ⟨⟨c, t⟩, -, -, rfl⟩ := h
      exact absurd List.mem_cons_self (hsilent _ sender newbie)
  | _ => rfl

theorem dispatch_ticketStep {action : Action AccountId}
    {observations : List (Observation AccountId)}
    (h : dispatch config s action = .ok (s', observations)) :
    TicketStep config s action s' := by
  have hobserved : observed config s action = observations := by rw [observed, h]
  cases (dispatch_outcome h).ledger with
  | same phase ledger kept old silent =>
      refine .silent (endorsement_eq_none h silent) ?_ ?_ ?_ old
      · intro cc a
        rw [ledger.burnedReputableNewbieTickets]
        exact Or.inl rfl
      · intro cid a
        rw [ledger.burnedBootstrapperNewbieTickets]
        exact Or.inl rfl
      · intro cc newbie hpending
        rw [hobserved]
        rcases kept cc newbie hpending with hkept | hused
        · exact Or.inl hkept
        · exact Or.inr (Or.inl hused)
  | endorse cid sender newbie t haction hendorses hscheduler hobs =>
      refine .endorsed (cid, endorsementCindex s) sender newbie t haction ?_ hendorses hscheduler ?_
      · rw [haction] at h ⊢
        simp [endorsement, h, Except.isOk, Except.toBool]
      · rintro rfl
        simp [hobserved, hobs]
  | purge cc haction hs hobs =>
      have hhistory (cc' : CommunityCeremony) : s'.ceremonies.historyAt cc' =
          if cc' = cc then .empty else s.ceremonies.historyAt cc' := by
        rw [hs]
        exact historyAt_purge s.ceremonies cc cc'
      refine .silent (by rw [haction]; rfl) ?_ ?_ ?_ ?_
      · intro cc' a
        have hcase := hhistory cc'
        split at hcase
        · rename_i hcc
          exact Or.inr ⟨(historyAt_forgets hcase).1 a, Or.inr (by rw [haction, hcc])⟩
        · exact Or.inl ((TicketStep.of_historyAt (by rw [hcase]) (by rw [hcase])).1 a)
      · intro cid a
        rw [hs]
        exact Or.inl rfl
      · intro cc' newbie hpending
        have hcase := hhistory cc'
        split at hcase
        · rename_i hcc
          exact Or.inr (Or.inr (Or.inr (Or.inr (by rw [haction, hcc]))))
        · exact Or.inl (((TicketStep.of_historyAt (by rw [hcase]) (by rw [hcase])).2 newbie).2
            hpending)
      · intro cc' newbie hpending
        have hcase := hhistory cc'
        split at hcase
        · exact absurd hpending ((historyAt_forgets hcase).2 newbie)
        · exact ((TicketStep.of_historyAt (by rw [hcase]) (by rw [hcase])).2 newbie).1 hpending
  | phase newPhase haction hcall henters hobs =>
      have hstarts := henters.starts
      have hphase := henters.phase
      refine .silent ?_ ?_ (phaseStarts_bootstrapper hstarts) ?_ ?_
      · cases action with
        | beginBlock now random => rfl
        | nextPhase random => rfl
        | _ => cases haction
      · intro cc a
        rcases phaseStarts_tickets hstarts hphase cc with ⟨hgone, hpast, -⟩ | ⟨hburned, hendorsees⟩
        · exact Or.inr ⟨(historyAt_forgets hgone).1 a, Or.inl hpast⟩
        · exact Or.inl ((TicketStep.of_historyAt hburned hendorsees).1 a)
      · intro cc newbie hpending
        rcases phaseStarts_tickets hstarts hphase cc with ⟨-, -, hwhy⟩ | ⟨hburned, hendorsees⟩
        · rcases hwhy with hremoved | hold
          · exact Or.inr (Or.inr (Or.inl hremoved))
          · exact Or.inr (Or.inr (Or.inr (Or.inl hold)))
        · exact Or.inl (((TicketStep.of_historyAt hburned hendorsees).2 newbie).2 hpending)
      · intro cc newbie hpending
        rcases phaseStarts_tickets hstarts hphase cc with ⟨hgone, -⟩ | ⟨hburned, hendorsees⟩
        · exact absurd hpending ((historyAt_forgets hgone).2 newbie)
        · exact ((TicketStep.of_historyAt hburned hendorsees).2 newbie).1 hpending

end Dispatch

/-! ## Steps -/

open Dispatch

theorem Chain.ticketStep (config : Config AccountId) (chain : Chain AccountId)
    (action : Action AccountId) :
    TicketStep config chain.runtime action (chain.step config action).runtime := by
  unfold Chain.step
  cases hdispatch : dispatch config chain.runtime action with
  | ok result => exact dispatch_ticketStep hdispatch
  | error e =>
      refine .silent ?_ (fun _ _ => Or.inl rfl) (fun _ _ => Or.inl rfl)
        (fun _ _ hpending => Or.inl hpending) (fun _ _ hpending => hpending)
      unfold endorsement
      split
      · rw [hdispatch]
        rfl
      · rfl

namespace Ceremonies

def purgedCeremony : Action AccountId → Option CommunityCeremony
  | .purgeCommunityCeremony cc => some cc
  | _ => none

/--
The settings stay, and a ceremony is purged by call only when no newcomer can be
endorsed for it any more.
-/
def KeepsTickets (ticketsPerReputable ticketsPerBootstrapper : Nat) (chain : Chain AccountId)
    (action : Action AccountId) : Prop :=
  chain.runtime.ceremonies.endorsementTicketsPerReputable = ticketsPerReputable ∧
    chain.runtime.ceremonies.endorsementTicketsPerBootstrapper = ticketsPerBootstrapper ∧
    ∀ cc ∈ purgedCeremony action, cc.2 < endorsementCindex chain.runtime

instance (ticketsPerReputable ticketsPerBootstrapper : Nat) (chain : Chain AccountId)
    (action : Action AccountId) :
    Decidable (KeepsTickets ticketsPerReputable ticketsPerBootstrapper chain action) :=
  inferInstanceAs (Decidable (_ ∧ _ ∧ ∀ cc ∈ purgedCeremony action, _))

def TicketLeft (s : Runtime AccountId) (cc : CommunityCeremony) (sender : AccountId) : Prop :=
  hasReputation s sender cc.1 = true ∧
    s.ceremonies.burnedReputableNewbieTickets.get (cc, sender) 0 <
      s.ceremonies.endorsementTicketsPerReputable

instance (s : Runtime AccountId) (cc : CommunityCeremony) (sender : AccountId) :
    Decidable (TicketLeft s cc sender) :=
  inferInstanceAs (Decidable (_ ∧ _))

variable (config)

def reputableTickets (sender : AccountId) (cc : CommunityCeremony) (chain : Chain AccountId)
    (action : Action AccountId) : Nat :=
  if endorsement config chain.runtime action = some (sender, cc) ∧
      TicketLeft chain.runtime cc sender then 1 else 0

def communityEndorsements (sender : AccountId) (cid : CommunityIdentifier)
    (chain : Chain AccountId) (action : Action AccountId) : Nat :=
  if endorsement config chain.runtime action =
      some (sender, (cid, endorsementCindex chain.runtime)) then 1 else 0

def bootstrapperTickets (sender : AccountId) (cid : CommunityIdentifier)
    (chain : Chain AccountId) (action : Action AccountId) : Nat :=
  if endorsement config chain.runtime action =
      some (sender, (cid, endorsementCindex chain.runtime)) ∧
      ¬ TicketLeft chain.runtime (cid, endorsementCindex chain.runtime) sender then 1 else 0

def reputableEndorsements (sender : AccountId) (cc : CommunityCeremony) (chain : Chain AccountId)
    (action : Action AccountId) : Nat :=
  if endorsement config chain.runtime action = some (sender, cc) ∧
      sender ∉ Communities.bootstrappers chain.runtime.communities cc.1 then 1 else 0

variable {config}

variable {ticketsPerReputable ticketsPerBootstrapper : Nat} {chain : Chain AccountId}
  {action : Action AccountId} {sender : AccountId} {cc : CommunityCeremony}
  {cid : CommunityIdentifier}

theorem endorsement_cindex (h : endorsement config s action = some (sender, cc)) :
    cc.2 = endorsementCindex s := by
  cases action with
  | endorseNewcomer sender' cid newbie =>
      simp only [endorsement, Option.ite_none_right_eq_some, Option.some.injEq,
        Prod.mk.injEq] at h
      rw [← h.2.2]
  | _ => cases h

/-- The step lemma: used tickets are burned, as long as newcomers can be endorsed. -/
theorem reputableTickets_step {n : Nat} (hn : n ≤ ticketsPerReputable ∧
      (n ≤ chain.runtime.ceremonies.burnedReputableNewbieTickets.get (cc, sender) 0 ∨
        cc.2 < endorsementCindex chain.runtime))
    (hok : KeepsTickets ticketsPerReputable ticketsPerBootstrapper chain action) :
    n + reputableTickets config sender cc chain action ≤ ticketsPerReputable ∧
      (n + reputableTickets config sender cc chain action ≤
          (chain.step config action).runtime.ceremonies.burnedReputableNewbieTickets.get
            (cc, sender) 0 ∨
        cc.2 < endorsementCindex (chain.step config action).runtime) := by
  obtain ⟨hsettings, -, hpurge⟩ := hok
  obtain ⟨hle, hburned⟩ := hn
  have hcindex := endorsementCindex_le (chain.step_time_le config action)
  cases chain.ticketStep config action with
  | silent hendorsement reputable bootstrapper kept old =>
      simp only [reputableTickets, hendorsement, reduceCtorEq, false_and, if_false, Nat.add_zero]
      refine ⟨hle, ?_⟩
      rcases hburned with hburned | hpast
      · rcases reputable cc sender with hsame | ⟨-, hpast | haction⟩
        · rw [hsame]
          exact Or.inl hburned
        · exact Or.inr hpast
        · have hpast := hpurge cc (by rw [haction]; rfl)
          exact Or.inr (by omega)
      · exact Or.inr (by omega)
  | endorsed cc' sender' newbie t haction hendorsement h hscheduler hobs =>
      by_cases hsame : sender' = sender ∧ cc' = cc
      · obtain ⟨rfl, rfl⟩ := hsame
        have htarget := endorsement_cindex hendorsement
        have hcurrent : n ≤ chain.runtime.ceremonies.burnedReputableNewbieTickets.get
            (cc', sender') 0 := by
          rcases hburned with hburned | hpast
          · exact hburned
          · omega
        rcases h.burns with hburns | hburns
        · have hleft := hburns.left
          rw [reputableTickets, if_pos ⟨hendorsement, hburns.reputation, hleft⟩,
            hburns.reputable, StorageMap.get_insert, if_pos rfl]
          exact ⟨by omega, Or.inl (by omega)⟩
        · rw [reputableTickets, if_neg fun hleft => hburns.none_left hleft.2, hburns.reputable]
          exact ⟨hle, Or.inl hcurrent⟩
      · have hother : ¬ endorsement config chain.runtime action = some (sender, cc) := by
          rw [hendorsement, Option.some.injEq, Prod.mk.injEq]
          exact hsame
        rw [reputableTickets, if_neg fun hboth => hother hboth.1]
        refine ⟨hle, ?_⟩
        rcases hburned with hburned | hpast
        · left
          rcases h.burns with hburns | hburns
          · have hkey : ¬ (cc, sender) = (cc', sender') := by
              rw [Prod.mk.injEq]
              rintro ⟨rfl, rfl⟩
              exact hsame ⟨rfl, rfl⟩
            rw [hburns.reputable, StorageMap.get_insert, if_neg hkey]
            exact hburned
          · rw [hburns.reputable]
            exact hburned
        · exact Or.inr (by omega)

theorem reputableTickets_le {actions : List (Action AccountId)}
    (hok : Machine.Along (Chain.step config)
      (KeepsTickets ticketsPerReputable ticketsPerBootstrapper) chain actions) :
    Machine.tally (Chain.step config) (reputableTickets config sender cc) chain actions ≤
      ticketsPerReputable := by
  have hbound := Machine.tally_invariant _ (reputableTickets config sender cc)
    (fun chain n => n ≤ ticketsPerReputable ∧
      (n ≤ chain.runtime.ceremonies.burnedReputableNewbieTickets.get (cc, sender) 0 ∨
        cc.2 < endorsementCindex chain.runtime))
    (fun _ _ _ hn hok => reputableTickets_step hn hok)
    ⟨Nat.zero_le _, Or.inl (Nat.zero_le _)⟩ hok
  rw [Nat.zero_add] at hbound
  exact hbound.1

/-- The step lemma: as long as the community is there, its burned tickets are counted. -/
theorem bootstrapperTickets_step {n : Nat}
    (hn : n ≤ ticketsPerBootstrapper ∧
      n ≤ chain.runtime.ceremonies.burnedBootstrapperNewbieTickets.get (cid, sender) 0)
    (hok : KeepsTickets ticketsPerReputable ticketsPerBootstrapper chain action)
    (hregistered : cid ∈ (chain.step config action).runtime.communities.communityIdentifiers) :
    n + bootstrapperTickets config sender cid chain action ≤ ticketsPerBootstrapper ∧
      n + bootstrapperTickets config sender cid chain action ≤
        (chain.step config action).runtime.ceremonies.burnedBootstrapperNewbieTickets.get
          (cid, sender) 0 := by
  obtain ⟨-, hsettings, -⟩ := hok
  obtain ⟨hle, hburned⟩ := hn
  cases chain.ticketStep config action with
  | silent hendorsement reputable bootstrapper kept old =>
      simp only [bootstrapperTickets, hendorsement, reduceCtorEq, false_and, if_false,
        Nat.add_zero]
      rcases bootstrapper cid sender with hsame | ⟨-, hremoved⟩
      · rw [hsame]
        exact ⟨hle, hburned⟩
      · exact absurd hregistered hremoved
  | endorsed cc sender' newbie t haction hendorsement h hscheduler hobs =>
      have htarget := endorsement_cindex hendorsement
      by_cases hsame : sender' = sender ∧ cc.1 = cid
      · obtain ⟨rfl, rfl⟩ := hsame
        have hcc : cc = (cc.1, endorsementCindex chain.runtime) := Prod.ext rfl htarget
        rw [hcc] at hendorsement
        rcases h.burns with hburns | hburns
        · have hleft : TicketLeft chain.runtime (cc.1, endorsementCindex chain.runtime) sender' := by
            rw [← hcc]
            exact ⟨hburns.reputation, hburns.left⟩
          rw [bootstrapperTickets, if_neg fun hnone => hnone.2 hleft, hburns.bootstrapper]
          exact ⟨hle, hburned⟩
        · have hnone : ¬ TicketLeft chain.runtime (cc.1, endorsementCindex chain.runtime) sender' := by
            rw [← hcc]
            exact hburns.none_left
          have hleft := hburns.left
          rw [bootstrapperTickets, if_pos ⟨hendorsement, hnone⟩, hburns.bootstrapper,
            StorageMap.get_insert, if_pos rfl]
          exact ⟨by omega, by omega⟩
      · have hother : ¬ endorsement config chain.runtime action =
            some (sender, (cid, endorsementCindex chain.runtime)) := by
          rw [hendorsement, Option.some.injEq, Prod.mk.injEq]
          rintro ⟨rfl, rfl⟩
          exact hsame ⟨rfl, rfl⟩
        rw [bootstrapperTickets, if_neg fun hboth => hother hboth.1]
        refine ⟨hle, ?_⟩
        rcases h.burns with hburns | hburns
        · rw [hburns.bootstrapper]
          exact hburned
        · have hkey : ¬ (cid, sender) = (cc.1, sender') := by
            rw [Prod.mk.injEq]
            rintro ⟨rfl, rfl⟩
            exact hsame ⟨rfl, rfl⟩
          rw [hburns.bootstrapper, StorageMap.get_insert, if_neg hkey]
          exact hburned

theorem bootstrapperTickets_le {actions : List (Action AccountId)}
    (hok : Machine.Along (Chain.step config)
      (KeepsTickets ticketsPerReputable ticketsPerBootstrapper) chain actions)
    (hregistered : ∀ seen, seen <+: actions →
      cid ∈ (chain.run config seen).runtime.communities.communityIdentifiers) :
    Machine.tally (Chain.step config) (bootstrapperTickets config sender cid) chain actions ≤
      ticketsPerBootstrapper := by
  have hstays : Machine.Along (Chain.step config)
      (fun chain action =>
        cid ∈ (chain.step config action).runtime.communities.communityIdentifiers)
      chain actions :=
    Machine.Along.of_prefixes (fun chain : Chain AccountId =>
      cid ∈ chain.runtime.communities.communityIdentifiers) (fun _ _ _ hnext => hnext) hregistered
  have hbound := Machine.tally_invariant _ (bootstrapperTickets config sender cid)
    (fun chain n => n ≤ ticketsPerBootstrapper ∧
      n ≤ chain.runtime.ceremonies.burnedBootstrapperNewbieTickets.get (cid, sender) 0)
    (fun _ _ _ hn hok => bootstrapperTickets_step hn hok.1 hok.2)
    ⟨Nat.zero_le _, Nat.zero_le _⟩ (hok.and hstays)
  rw [Nat.zero_add] at hbound
  exact hbound.1

/-- Who is not a bootstrapper burns a ticket of a reputable. -/
theorem reputableEndorsements_le (config : Config AccountId) (sender : AccountId)
    (cc : CommunityCeremony) (chain : Chain AccountId) (action : Action AccountId) :
    reputableEndorsements config sender cc chain action ≤
      reputableTickets config sender cc chain action := by
  unfold reputableEndorsements
  split
  · rename_i hendorses
    obtain ⟨hendorsement, hnot⟩ := hendorses
    cases chain.ticketStep config action with
    | silent hnone => simp [hnone] at hendorsement
    | endorsed cc' sender' newbie t haction hsome h hscheduler hobs =>
        rw [hsome, Option.some.injEq, Prod.mk.injEq] at hendorsement
        obtain ⟨rfl, rfl⟩ := hendorsement
        rcases h.burns with hburns | hburns
        · rw [reputableTickets, if_pos ⟨hsome, hburns.reputation, hburns.left⟩]
        · exact absurd hburns.bootstrapped hnot
  · exact Nat.zero_le _

def cindexesWithReputation (config : Config AccountId) (sender : AccountId)
    (cid : CommunityIdentifier) (chain : Chain AccountId) (actions : List (Action AccountId)) :
    Finset Nat :=
  Machine.visited (Chain.step config)
    (fun chain => if hasReputation chain.runtime sender cid = true then
      {endorsementCindex chain.runtime} else ∅) chain actions

/-- An endorsement burns a ticket of a bootstrapper, or one for a ceremony with reputation. -/
theorem communityEndorsements_split {cindexes : Finset Nat}
    (hcindexes : (if hasReputation chain.runtime sender cid = true then
      {endorsementCindex chain.runtime} else ∅) ⊆ cindexes) :
    communityEndorsements config sender cid chain action ≤
      bootstrapperTickets config sender cid chain action +
        ∑ c ∈ cindexes, reputableTickets config sender (cid, c) chain action := by
  unfold communityEndorsements
  split
  · rename_i hendorsement
    by_cases hleft : TicketLeft chain.runtime (cid, endorsementCindex chain.runtime) sender
    · have hmem : endorsementCindex chain.runtime ∈ cindexes := by
        apply hcindexes
        rw [if_pos hleft.1]
        exact Finset.mem_singleton_self _
      have hone : reputableTickets config sender (cid, endorsementCindex chain.runtime) chain
          action = 1 := if_pos ⟨hendorsement, hleft⟩
      have hsum := Finset.single_le_sum
        (f := fun c => reputableTickets config sender (cid, c) chain action)
        (fun _ _ => Nat.zero_le _) hmem
      simp only [hone] at hsum
      omega
    · rw [bootstrapperTickets, if_pos ⟨hendorsement, hleft⟩]
      omega
  · exact Nat.zero_le _

private theorem communityEndorsements_le_of_subset {actions : List (Action AccountId)}
    {cindexes : Finset Nat}
    (hok : Machine.Along (Chain.step config)
      (KeepsTickets ticketsPerReputable ticketsPerBootstrapper) chain actions)
    (hregistered : ∀ seen, seen <+: actions →
      cid ∈ (chain.run config seen).runtime.communities.communityIdentifiers)
    (hcindexes : Machine.Along (Chain.step config)
      (fun chain _ => (if hasReputation chain.runtime sender cid = true then
        {endorsementCindex chain.runtime} else ∅) ⊆ cindexes) chain actions) :
    Machine.tally (Chain.step config) (communityEndorsements config sender cid) chain actions ≤
      ticketsPerBootstrapper + ticketsPerReputable * cindexes.card := by
  calc Machine.tally (Chain.step config) (communityEndorsements config sender cid) chain actions
      ≤ Machine.tally (Chain.step config)
          (fun chain action => bootstrapperTickets config sender cid chain action +
            ∑ c ∈ cindexes, reputableTickets config sender (cid, c) chain action) chain actions :=
        Machine.tally_mono (fun _ _ hsubset => communityEndorsements_split hsubset) hcindexes
    _ = Machine.tally (Chain.step config) (bootstrapperTickets config sender cid) chain actions +
          ∑ c ∈ cindexes, Machine.tally (Chain.step config)
            (reputableTickets config sender (cid, c)) chain actions := by
        rw [Machine.tally_add, Machine.tally_sum]
    _ ≤ ticketsPerBootstrapper + ∑ _c ∈ cindexes, ticketsPerReputable :=
        Nat.add_le_add (bootstrapperTickets_le hok hregistered)
          (Finset.sum_le_sum fun _ _ => reputableTickets_le hok)
    _ = ticketsPerBootstrapper + ticketsPerReputable * cindexes.card := by
        rw [Finset.sum_const_nat fun _ _ => rfl, Nat.mul_comm]

theorem communityEndorsements_le {actions : List (Action AccountId)}
    (hok : Machine.Along (Chain.step config)
      (KeepsTickets ticketsPerReputable ticketsPerBootstrapper) chain actions)
    (hregistered : ∀ seen, seen <+: actions →
      cid ∈ (chain.run config seen).runtime.communities.communityIdentifiers) :
    Machine.tally (Chain.step config) (communityEndorsements config sender cid) chain actions ≤
      ticketsPerBootstrapper +
        ticketsPerReputable * (cindexesWithReputation config sender cid chain actions).card :=
  communityEndorsements_le_of_subset hok hregistered
    (Machine.Along.visited_subset (fun chain : Chain AccountId =>
      if hasReputation chain.runtime sender cid = true then
        {endorsementCindex chain.runtime} else ∅) chain actions)

/-! ## Counters and pending endorsements -/

def CountersBounded (ticketsPerReputable ticketsPerBootstrapper : Nat) (s : Runtime AccountId) :
    Prop :=
  ∀ cc a, s.ceremonies.burnedReputableNewbieTickets.get (cc, a) 0 ≤ ticketsPerReputable ∧
    s.ceremonies.burnedBootstrapperNewbieTickets.get (cc.1, a) 0 ≤ ticketsPerBootstrapper

theorem countersBounded_step
    (h : CountersBounded ticketsPerReputable ticketsPerBootstrapper chain.runtime)
    (hok : KeepsTickets ticketsPerReputable ticketsPerBootstrapper chain action) :
    CountersBounded ticketsPerReputable ticketsPerBootstrapper
      (chain.step config action).runtime := by
  obtain ⟨hreputable, hbootstrapper, -⟩ := hok
  intro cc a
  obtain ⟨hcc, hcid⟩ := h cc a
  cases chain.ticketStep config action with
  | silent hendorsement reputable bootstrapper kept old =>
      constructor
      · rcases reputable cc a with hsame | ⟨hzero, -⟩
        · exact hsame.trans_le hcc
        · exact hzero.trans_le (Nat.zero_le _)
      · rcases bootstrapper cc.1 a with hsame | ⟨hzero, -⟩
        · exact hsame.trans_le hcid
        · exact hzero.trans_le (Nat.zero_le _)
  | endorsed cc' sender newbie t haction hendorsement h hscheduler hobs =>
      rcases h.burns with hburns | hburns
      · have hleft := hburns.left
        rw [hburns.reputable, hburns.bootstrapper, StorageMap.get_insert]
        refine ⟨?_, hcid⟩
        split
        · omega
        · exact hcc
      · have hleft := hburns.left
        rw [hburns.reputable, hburns.bootstrapper, StorageMap.get_insert]
        refine ⟨hcc, ?_⟩
        split
        · omega
        · exact hcid

/-- Endorsements are for no ceremony later than newcomers can be endorsed for now. -/
def PendingInTime (s : Runtime AccountId) : Prop :=
  ∀ cc newbie, IsPending s.ceremonies cc newbie → cc.2 ≤ endorsementCindex s

theorem pendingInTime_step (h : PendingInTime chain.runtime) :
    PendingInTime (chain.step config action).runtime := by
  have hcindex := endorsementCindex_le (chain.step_time_le config action)
  intro cc newbie hpending
  cases chain.ticketStep config action with
  | silent hendorsement reputable bootstrapper kept old =>
      exact (h cc newbie (old cc newbie hpending)).trans hcindex
  | endorsed cc' sender newbie' t haction hendorsement hendorses hscheduler hobs =>
      rcases hendorses.old cc newbie hpending with hold | rfl
      · exact (h cc newbie hold).trans hcindex
      · exact hendorses.cindex.trans_le hcindex

/--
Nobody is endorsed who has a pending endorsement within the reputation lifetime;
an endorsement is pending until its end, unless it is used at once.
-/
structure EndorsesOnce (config : Config AccountId) (chain : Chain AccountId)
    (action : Action AccountId) : Prop where
  fresh : ∀ sender cid newbie, action = .endorseNewcomer sender cid newbie →
    endorsement config chain.runtime action ≠ none →
      ∀ c, endorsementCindex chain.runtime ≤ c + chain.runtime.ceremonies.reputationLifetime →
        ¬ IsPending chain.runtime.ceremonies (cid, c) newbie
  recorded : ∀ sender cid newbie, action = .endorseNewcomer sender cid newbie →
    endorsement config chain.runtime action ≠ none →
      IsPending (chain.step config action).runtime.ceremonies
          (cid, endorsementCindex chain.runtime) newbie ∨
        .registered (cid, endorsementCindex chain.runtime) newbie .endorsee none ∈
          observed config chain.runtime action
  kept : ∀ cc newbie, IsPending chain.runtime.ceremonies cc newbie →
    IsPending (chain.step config action).runtime.ceremonies cc newbie ∨
      PendingEnds (chain.step config action).runtime action
        (observed config chain.runtime action) cc newbie

private theorem isEndorsed_eq_none {c : CeremoniesStorage AccountId} {newbie : AccountId}
    (h : isEndorsed c newbie cc = none) {cindex : Nat} (hle : cindex ≤ cc.2)
    (hlifetime : cc.2 ≤ cindex + c.reputationLifetime) : ¬ IsPending c (cc.1, cindex) newbie := by
  rw [isEndorsed, List.find?_eq_none] at h
  apply h
  rw [List.mem_map]
  exact ⟨cc.2 - cindex, List.mem_range.2 (by omega), by omega⟩

theorem endorsesOnce_step (h : PendingInTime chain.runtime) : EndorsesOnce config chain action := by
  cases chain.ticketStep config action with
  | silent hendorsement reputable bootstrapper kept old =>
      constructor
      · intro sender cid newbie haction hsome
        exact absurd hendorsement hsome
      · intro sender cid newbie haction hsome
        exact absurd hendorsement hsome
      · exact kept
  | endorsed cc sender newbie t haction hendorsement hendorses hscheduler hobs =>
      have htarget := endorsement_cindex hendorsement
      constructor
      · intro sender' cid newbie' haction' _ c hlifetime hpending
        rw [haction] at haction'
        cases haction'
        have hle := h _ _ hpending
        rw [← htarget] at hle hlifetime
        exact isEndorsed_eq_none hendorses.free hle hlifetime hpending
      · intro sender' cid newbie' haction' _
        rw [haction] at haction'
        cases haction'
        have hcc : (cc.1, endorsementCindex chain.runtime) = cc := Prod.ext rfl htarget.symm
        rw [hcc]
        rcases hendorses.pending with hpending | ht
        · exact Or.inl hpending
        · exact Or.inr (hobs ht)
      · intro cc' newbie' hpending
        rcases hendorses.kept cc' newbie' hpending with hkept | ⟨ht, hcid, rfl⟩
        · exact Or.inl hkept
        · have hregistered := hobs ht
          exact Or.inr (Or.inl ⟨cc.2, none, hcid ▸ hregistered⟩)

/-! ## Runs -/

/-- The tickets bound the endorsements of a run, and of the life of a community in it. -/
structure TicketsBound (config : Config AccountId) (chain : Chain AccountId)
    (actions : List (Action AccountId)) (ticketsPerReputable ticketsPerBootstrapper : Nat) :
    Prop where
  reputable : ∀ sender cc, Machine.tally (Chain.step config)
    (reputableEndorsements config sender cc) chain actions ≤ ticketsPerReputable
  reputation : Machine.Along (Chain.step config)
    (fun chain action => ∀ sender cc, endorsement config chain.runtime action = some (sender, cc) →
      sender ∉ Communities.bootstrappers chain.runtime.communities cc.1 →
        hasReputation chain.runtime sender cc.1 = true) chain actions
  community : ∀ sender cid before life, before ++ life <+: actions →
    (∀ seen, seen <+: life →
      cid ∈ (chain.run config (before ++ seen)).runtime.communities.communityIdentifiers) →
    Machine.tally (Chain.step config) (communityEndorsements config sender cid)
        (chain.run config before) life ≤
      ticketsPerBootstrapper + ticketsPerReputable *
        (cindexesWithReputation config sender cid (chain.run config before) life).card
  counters : ∀ seen, seen <+: actions →
    CountersBounded ticketsPerReputable ticketsPerBootstrapper (chain.run config seen).runtime
  pending : Machine.Along (Chain.step config) (EndorsesOnce config) chain actions

private theorem endorsement_reputation (hendorsement : endorsement config chain.runtime action =
      some (sender, cc))
    (hnot : sender ∉ Communities.bootstrappers chain.runtime.communities cc.1) :
    hasReputation chain.runtime sender cc.1 = true := by
  cases chain.ticketStep config action with
  | silent hnone => simp [hnone] at hendorsement
  | endorsed cc' sender' newbie t haction hsome h hscheduler hobs =>
      rw [hsome, Option.some.injEq, Prod.mk.injEq] at hendorsement
      obtain ⟨rfl, rfl⟩ := hendorsement
      rcases h.burns with hburns | hburns
      · exact hburns.reputation
      · exact absurd hburns.bootstrapped hnot

private theorem ticketsBound_of_run {actions : List (Action AccountId)}
    (hcounters : CountersBounded ticketsPerReputable ticketsPerBootstrapper chain.runtime)
    (hpending : PendingInTime chain.runtime)
    (hok : Machine.Along (Chain.step config)
      (KeepsTickets ticketsPerReputable ticketsPerBootstrapper) chain actions) :
    TicketsBound config chain actions ticketsPerReputable ticketsPerBootstrapper := by
  have hinitial {seen : List (Action AccountId)} (hseen : seen <+: actions) :
      Machine.Along (Chain.step config)
        (KeepsTickets ticketsPerReputable ticketsPerBootstrapper) chain seen := by
    obtain ⟨rest, rfl⟩ := hseen
    exact (Machine.Along.append.1 hok).1
  constructor
  · intro sender cc
    exact (Machine.tally_mono (fun chain action _ =>
      reputableEndorsements_le config sender cc chain action) hok).trans (reputableTickets_le hok)
  · exact hok.mono fun _ _ _ _ _ hendorsement hnot => endorsement_reputation hendorsement hnot
  · intro sender cid before life hlife hregistered
    have hlast := (Machine.Along.append.1 (hinitial hlife)).2
    apply communityEndorsements_le hlast
    intro seen hseen
    have hstate := hregistered seen hseen
    rw [Chain.run, Machine.run_append] at hstate
    exact hstate
  · intro seen hseen
    exact Machine.run_invariant _ (fun chain =>
      CountersBounded ticketsPerReputable ticketsPerBootstrapper chain.runtime)
      (fun _ _ h hok => countersBounded_step h hok) hcounters (hinitial hseen)
  · exact hok.with_invariant (fun chain => PendingInTime chain.runtime)
      (fun _ _ h _ => ⟨pendingInTime_step h, endorsesOnce_step h⟩) hpending

/-- Endorsements are bounded by tickets in every run that keeps the settings and the tickets. -/
theorem endorsements_within_tickets (config : Config AccountId) (genesis : GenesisConfig)
    (nativeBalances : StorageMap AccountId Nat)
    (assetBalances : StorageMap (AccountId × AssetKind) Nat) (actions : List (Action AccountId))
    (ticketsPerReputable ticketsPerBootstrapper : Nat)
    (hok : Machine.Along (Chain.step config)
      (KeepsTickets ticketsPerReputable ticketsPerBootstrapper)
      (Chain.genesis genesis nativeBalances assetBalances) actions) :
    TicketsBound config (Chain.genesis genesis nativeBalances assetBalances) actions
      ticketsPerReputable ticketsPerBootstrapper := by
  apply ticketsBound_of_run ?_ ?_ hok
  · intro cc a
    exact ⟨Nat.zero_le _, Nat.zero_le _⟩
  · intro cc newbie hpending
    cases hpending

end Ceremonies

/-! ## A purge that gives tickets back -/

namespace Demo

/-- Bootstrappers have one ticket for each ceremony, as reputables, and no other. -/
def oneTicket : Chain Nat := Chain.genesis { genesis with
  endorsementTicketsPerBootstrapper := 0
  endorsementTicketsPerReputable := 1 } ∅ ∅

/-- The ceremony is purged while newcomers can be endorsed for it. -/
def refilled : List (Action Nat) :=
  endorsedOnce ++ [.purgeCommunityCeremony (islanders, 2), endorse 1 islanders 51]

end Demo

theorem Ceremonies.endorsements_within_tickets_endorsedTwice :
    TicketsBound Demo.runtimeConfig Demo.start Demo.endorsedTwice 5 10 :=
  Ceremonies.endorsements_within_tickets Demo.runtimeConfig Demo.genesis ∅ ∅ Demo.endorsedTwice 5 10
    (by decide +kernel)

/-- With one ticket for one ceremony, the bootstrapper endorses twice. -/
theorem Ceremonies.endorsements_beyond_tickets :
    Machine.Along (Chain.step Demo.runtimeConfig)
        (fun chain _ => chain.runtime.ceremonies.endorsementTicketsPerReputable = 1 ∧
          chain.runtime.ceremonies.endorsementTicketsPerBootstrapper = 0 ∧
          chain.runtime.ceremonies.reputationLifetime = 6) Demo.oneTicket Demo.refilled ∧
      ¬ TicketsBound Demo.runtimeConfig Demo.oneTicket Demo.refilled 1 0 := by
  refine ⟨by decide +kernel, ?_⟩
  intro h
  have hregistered : ∀ seen ∈ (Demo.refilled.drop 2).inits,
      Demo.islanders ∈ (Demo.oneTicket.run Demo.runtimeConfig
        (Demo.refilled.take 2 ++ seen)).runtime.communities.communityIdentifiers := by
    decide +kernel
  -- the second action founds the community
  have hlife := h.community 1 Demo.islanders (Demo.refilled.take 2) (Demo.refilled.drop 2)
    (by rw [List.take_append_drop]) fun seen hseen => hregistered seen ((List.mem_inits _ _).2 hseen)
  exact absurd hlife (by decide +kernel)

end Encointer
