import Encointer.Ceremonies.LinkInvariant
import Encointer.Ceremonies.RegistryBijection
import Encointer.Ceremonies.RewardOnce
import Encointer.Rpc.Ceremonies
import Encointer.Runtime.PhaseChanges

/-!
# The cache of reputations

The runtime marks the cache of everybody whose reputations a call changes, but
for the attendee whose reputation somebody else registers with. A phase change
makes all caches invalid by itself.
-/

namespace Encointer

open Ceremonies Dispatch

variable {AccountId : Type} [DecidableEq AccountId] {config : Config AccountId}
  {s s' : Runtime AccountId} {account : AccountId}

/-! ## The reputations of an account -/

namespace Ceremonies

theorem mem_getReputations {cindex : Nat} {r : CommunityReputation} :
    (cindex, r) ∈ getReputations s account ↔
      s.ceremonies.participantReputation.lookup ((r.communityIdentifier, cindex), account) =
        some r.reputation := by
  rw [getReputations, List.mem_toFinset, List.mem_map, StorageMap.lookup_eq_some_iff]
  constructor
  · rintro ⟨⟨⟨⟨cid, c⟩, a⟩, reputation⟩, hmem, hentry⟩
    obtain ⟨hmem, ha⟩ := List.mem_filter.1 hmem
    cases hentry
    rw [← of_decide_eq_true ha]
    exact hmem
  · intro hmem
    exact ⟨_, List.mem_filter.2 ⟨hmem, decide_eq_true rfl⟩, rfl⟩

/-- The reputations of an account are its entries in storage. -/
theorem getReputations_eq_iff :
    getReputations s' account = getReputations s account ↔
      ∀ cc, s'.ceremonies.participantReputation.lookup (cc, account) =
        s.ceremonies.participantReputation.lookup (cc, account) := by
  constructor
  · intro h cc
    apply Option.ext
    intro reputation
    have hmem := Finset.ext_iff.1 h (cc.2, ⟨cc.1, reputation⟩)
    rw [mem_getReputations, mem_getReputations] at hmem
    exact hmem
  · intro h
    ext ⟨cindex, r⟩
    rw [mem_getReputations, mem_getReputations, h]

end Ceremonies

/-! ## Who is touched by a step -/

/-- The effect may change reputations of the account. -/
def Effect.Touches (account : AccountId) : Effect AccountId → Prop
  | .link _ sender reputation => sender = account ∨ reputation.2 = account
  | .unlink _ sender _ => sender = account
  | .purge _ => True
  | _ => False

def entriesOf (s : Runtime AccountId) (account : AccountId) (cc : CommunityCeremony) :
    Option Reputation :=
  s.ceremonies.participantReputation.lookup (cc, account)

theorem Change.entries_kept {effects : List (Effect AccountId)} (h : Change config s effects s')
    (huntouched : ∀ e ∈ effects, ¬ e.Touches account) :
    entriesOf s' account = entriesOf s account := by
  cases h with
  | parameters ceremonies same =>
      funext cc
      show ceremonies.participantReputation.lookup (cc, account) = _
      rw [same.participantReputation]
      rfl
  | attest sender cid vote attestations ceremonies attested =>
      obtain ⟨same, -⟩ := attestAttendees_spec attested
      funext cc
      show ceremonies.participantReputation.lookup (cc, account) = _
      rw [same.participantReputation]
      rfl
  | add t cc participant r opened free added => cases t <;> rfl
  | remove t cc participant opened registered => cases t <;> rfl
  | link cid cindex sender p ceremonies opened linked =>
      obtain ⟨-, -, rfl⟩ := linkReputation_spec linked
      have hother := huntouched _ List.mem_cons_self
      simp only [Effect.Touches, provenReputation, not_or] at hother
      funext cc
      simp [entriesOf, StorageMap.lookup_insert_eq, Ne.symm hother.1, Ne.symm hother.2]
  | unlink cid cindex sender cc ceremonies opened unlinked =>
      obtain ⟨-, rfl⟩ := unlinkReputation_spec unlinked
      have hother := huntouched _ List.mem_cons_self
      simp only [Effect.Touches] at hother
      funext cc
      simp [entriesOf, StorageMap.lookup_insert_eq, StorageMap.lookup_erase_eq, Ne.symm hother]
  | purge cc => exact absurd trivial (huntouched _ List.mem_cons_self)
  | assign cid ceremonies random random' assigning registered assigned =>
      rcases generateMeetupAssignmentParams_spec assigned with rfl | ⟨_, _, _, -, -, -, rfl⟩
      · rfl
      · rfl
  | _ => rfl

theorem Changes.entries_kept {effects : List (Effect AccountId)} (h : Changes config s effects s')
    (huntouched : ∀ e ∈ effects, ¬ e.Touches account) :
    entriesOf s' account = entriesOf s account := by
  induction h with
  | refl => rfl
  | tail hbefore hchange ih =>
      rw [hchange.entries_kept fun e he => huntouched e (List.mem_append_right _ he)]
      exact ih fun e he => huntouched e (List.mem_append_left _ he)

/-- A registration on the attendance of another account links its reputation. -/
theorem Changes.linked_changes (before : List (Effect AccountId))
    {after : List (Effect AccountId)} {cc : CommunityCeremony} {sender : AccountId}
    {reputation : CommunityCeremony × AccountId}
    (h : Changes config s (before ++ .link cc sender reputation :: after) s')
    (hbefore : ∀ e ∈ before, ¬ e.Touches reputation.2)
    (hafter : ∀ e ∈ after, ¬ e.Touches reputation.2) (hne : reputation.2 ≠ sender) :
    entriesOf s' reputation.2 ≠ entriesOf s reputation.2 := by
  obtain ⟨s₁, hfirst, hrest⟩ := h.append_cases
  obtain ⟨s₂, s₃, hsilent, hlink, hlast⟩ := hrest.cons_cases
  have hold : entriesOf s₂ reputation.2 = entriesOf s reputation.2 := by
    rw [hsilent.entries_kept (by simp), hfirst.entries_kept hbefore]
  obtain ⟨-, hunlinked, hs₃⟩ := hlink.link_inv
  have hnew : entriesOf s' reputation.2 reputation.1 = some (.verifiedLinked cc.2) := by
    rw [hlast.entries_kept hafter, hs₃]
    have hkey : (reputation.1, reputation.2) ≠ (cc, sender) := by
      intro hkey
      exact hne (Prod.mk.inj hkey).2
    simp [entriesOf, StorageMap.lookup_insert_eq, hkey]
  intro hsame
  have hentry : s₂.ceremonies.participantReputation.lookup reputation =
      some (.verifiedLinked cc.2) := by
    show entriesOf s₂ reputation.2 reputation.1 = _
    rw [hold, ← hsame, hnew]
  rw [participantReputation, StorageMap.get_of_lookup hentry] at hunlinked
  simp [Reputation.isVerifiedAndUnlinkedForCindex] at hunlinked

/-! ## What a successful action leaves unmarked -/

/-- The action changes reputations of the account and does not mark its cache. -/
def Unmarked (s : Runtime AccountId) : Action AccountId → AccountId → Prop
  | .registerParticipant sender _ (some p), account => account = p.attendeePublic ∧ account ≠ sender
  | .upgradeRegistration sender _ p, account => account = p.attendeePublic ∧ account ≠ sender
  | .purgeCommunityCeremony cc, account =>
      s.ceremonies.participantReputation.contains (cc, account) = true
  | _, _ => False

/-- The credited participants are among those that the loop visits. -/
theorem Ceremonies.claimRewards_marked {sender : AccountId} {cid : CommunityIdentifier}
    {maybeMeetupIndex : Option Nat} {claim : Claim AccountId}
    (h : claimRewards config s sender cid maybeMeetupIndex = .ok claim)
    (hcredited : account ∈ claim.credited) :
    account ∈ markedDirty s (.claimRewards sender cid maybeMeetupIndex) := by
  simp only [claimRewards, bind_eq_ok, ensure_eq_ok, exists_const] at h
  obtain ⟨cindex, hcindex, meetupIndex, hindex, -, participants, hparticipants, h⟩ := h
  cases hjudge : judgeMeetup s (cid, cindex) participants with
  | error err =>
      simp only [hjudge, bind_eq_ok, ok_inj] at h
      obtain ⟨-, -, rfl⟩ := h
      cases hcredited
  | ok judgements =>
      simp only [hjudge, bind_eq_ok, ok_inj] at h
      obtain ⟨-, -, -, -, ⟨c, balances, credited⟩, hissue, rfl⟩ := h
      obtain ⟨hsub, -⟩ := issueRewards_spec hissue
      have hlegit : legitParticipants s sender cid maybeMeetupIndex =
          .ok (judgements.legit.filterMap fun i => participants[i]?) := by
        simp only [legitParticipants, bind_eq_ok]
        exact ⟨cindex, hcindex, meetupIndex, hindex, participants, hparticipants, by simp [hjudge]⟩
      simp only [markedDirty, hlegit]
      exact hsub.subset hcredited

theorem Dispatch.claimRewards_entries_kept {sender : AccountId} {cid : CommunityIdentifier}
    {maybeMeetupIndex : Option Nat} {observations : List (Observation AccountId)}
    (h : dispatch config s (.claimRewards sender cid maybeMeetupIndex) = .ok (s', observations))
    (hmarked : account ∉ markedDirty s (.claimRewards sender cid maybeMeetupIndex)) :
    entriesOf s' account = entriesOf s account := by
  simp only [dispatch, bind_eq_ok, ok_inj, Prod.mk.injEq] at h
  obtain ⟨claim, hcall, rfl, -⟩ := h
  obtain ⟨-, participants, heffect⟩ := claimRewards_spec hcall
  funext cc
  show claim.ceremonies.participantReputation.lookup (cc, account) = _
  rw [heffect.participantReputation, if_neg]
  · rfl
  · rintro ⟨-, hcredited⟩
    exact hmarked (claimRewards_marked hcall hcredited)

theorem Dispatch.purgeCommunityCeremony_entriesOf {cc : CommunityCeremony}
    {observations : List (Observation AccountId)}
    (h : dispatch config s (.purgeCommunityCeremony cc) = .ok (s', observations))
    (cc' : CommunityCeremony) :
    entriesOf s' account cc' = if cc' = cc then none else entriesOf s account cc' := by
  simp only [dispatch, dispatchQuiet, bind_eq_ok, ok_inj, Prod.mk.injEq] at h
  obtain ⟨_, rfl, rfl, -⟩ := h
  exact StorageMap.lookup_removePrefix s.ceremonies.participantReputation cc (cc', account)

/-! ## Actions within a phase -/

omit [DecidableEq AccountId] in
theorem Ceremonies.getCeremonyInfo_eq_iff :
    getCeremonyInfo s' = getCeremonyInfo s ↔ s'.scheduler.time = s.scheduler.time := by
  simp only [getCeremonyInfo, CeremonyInfo.mk.injEq, SchedulerStorage.time]
  constructor
  · rintro ⟨hphase, hindex⟩
    rw [hphase, hindex]
  · intro h
    cases hphase : s.scheduler.currentPhase <;> cases hphase' : s'.scheduler.currentPhase <;>
      simp only [hphase, hphase', CeremonyPhaseType.rank] at h <;> simp <;> omega

omit [DecidableEq AccountId] in
theorem Scheduler.time_lt_entered (s : Runtime AccountId) (nextPhaseTimestamp : Nat) :
    s.scheduler.time < (entered s nextPhaseTimestamp).time := by
  unfold entered startNextCeremony SchedulerStorage.time
  cases hphase : s.scheduler.currentPhase with
  | registering => simp [nextPhaseOf, CeremonyPhaseType.rank]
  | assigning => simp [nextPhaseOf, CeremonyPhaseType.rank]
  | attesting =>
      simp only [↓reduceIte, nextPhaseOf, CeremonyPhaseType.rank]
      omega

/-- A reputation is linked by a call with a proof of it. -/
theorem Dispatch.ActionEffects.link_inv {action : Action AccountId}
    {observations : List (Observation AccountId)} {effects : List (Effect AccountId)}
    (h : ActionEffects config s action observations effects) {cc : CommunityCeremony}
    {sender : AccountId} {reputation : CommunityCeremony × AccountId}
    (he : Effect.link cc sender reputation ∈ effects) :
    ∃ p, reputation = provenReputation p ∧
      (action = .registerParticipant sender cc.1 (some p) ∨
        action = .upgradeRegistration sender cc.1 p) := by
  have hcause : MayRegister sender action := h.mayCause he
  cases action with
  | registerParticipant sender' cid proof =>
      obtain ⟨t, -, rfl, -⟩ := h
      cases proof with
      | none =>
          rw [linkEffects, List.mem_append] at he
          rcases he with he | he
          · cases he
          · cases List.mem_singleton.1 he
      | some p =>
          rw [linkEffects, List.mem_append] at he
          rcases he with he | he
          · cases List.mem_singleton.1 he
            exact ⟨p, rfl, Or.inl rfl⟩
          · cases List.mem_singleton.1 he
  | upgradeRegistration sender' cid p =>
      obtain ⟨t, rfl, -⟩ := h
      simp only [List.mem_cons, reduceCtorEq, Effect.link.injEq, List.not_mem_nil, or_false,
        false_or] at he
      obtain ⟨rfl, rfl, rfl⟩ := he
      exact ⟨p, rfl, Or.inr rfl⟩
  | endorseNewcomer sender' cid newbie =>
      obtain ⟨ticket, t, -, hticket, rfl, -⟩ := h
      cases hticket <;> cases t <;> simp [reregisterEffects] at he
  | _ => cases hcause

/-- A reputation is given back by a bootstrapper or a reputable who names it. -/
theorem Dispatch.ActionEffects.unlink_inv {action : Action AccountId}
    {observations : List (Observation AccountId)} {effects : List (Effect AccountId)}
    (h : ActionEffects config s action observations effects) {cc source : CommunityCeremony}
    {sender : AccountId} (he : Effect.unlink cc sender source ∈ effects) :
    action = .unregisterParticipant sender cc.1 (some source) ∧
      (getParticipantType s.ceremonies (cc.1, registrationCindex s) sender = some .bootstrapper ∨
        getParticipantType s.ceremonies (cc.1, registrationCindex s) sender =
          some .reputable) := by
  obtain ⟨maybe, rfl⟩ : ∃ maybe, action = .unregisterParticipant sender cc.1 maybe := h.mayCause he
  obtain ⟨⟨refund, hrefund, rfl⟩, -⟩ := h
  rcases List.mem_append.1 he with he | he
  · rcases hrefund with rfl | ⟨-, htype, source', rfl, rfl⟩
    · cases he
    · obtain ⟨-, -, rfl⟩ := Effect.unlink.inj (List.mem_singleton.1 he)
      exact ⟨rfl, htype⟩
  · cases List.mem_singleton.1 he

/-- The effects of an action that stays within a phase touch marked accounts only. -/
theorem Dispatch.ActionEffects.untouched {action : Action AccountId}
    {observations : List (Observation AccountId)} {effects : List (Effect AccountId)}
    (h : ActionEffects config s action observations effects)
    (hclock : MayChangePhase action → ∀ e ∈ effects, e = Effect.clock)
    (hpurge : ∀ cc, action ≠ .purgeCommunityCeremony cc)
    (hmarked : account ∉ markedDirty s action) (hunmarked : ¬ Unmarked s action account)
    {e : Effect AccountId} (he : e ∈ effects) : ¬ e.Touches account := by
  by_cases hphase : MayChangePhase action
  · rw [hclock hphase e he]
    exact id
  cases e with
  | link cc sender reputation =>
      rintro htouched
      obtain ⟨p, rfl, rfl | rfl⟩ := h.link_inv he
      · have hne : account ≠ sender := fun heq => hmarked (List.mem_singleton.2 heq)
        exact hunmarked ⟨(htouched.resolve_left (Ne.symm hne)).symm, hne⟩
      · have hne : account ≠ sender := fun heq => hmarked (List.mem_singleton.2 heq)
        exact hunmarked ⟨(htouched.resolve_left (Ne.symm hne)).symm, hne⟩
  | unlink cc sender source =>
      rintro rfl
      obtain ⟨rfl, htype⟩ := h.unlink_inv he
      apply hmarked
      rcases htype with htype | htype
      · simp [markedDirty, htype]
      · simp [markedDirty, htype]
  | purge cc =>
      rcases h.mayCause he with haction | haction
      · exact absurd haction (hpurge cc)
      · exact absurd haction hphase
  | _ => exact id

/-- What a successful action leaves of the reputations, if it does not mark the account. -/
theorem Dispatch.entries_kept {action : Action AccountId}
    {observations : List (Observation AccountId)}
    (hinv : RegistryInvariant s.ceremonies.registry)
    (h : dispatch config s action = .ok (s', observations))
    (hphase : getCeremonyInfo s' = getCeremonyInfo s) (hmarked : account ∉ markedDirty s action)
    (hunmarked : ¬ Unmarked s action account) : entriesOf s' account = entriesOf s account := by
  rcases (dispatch_outcome h).enters_or_keeps hinv with ⟨-, -, newPhase, henters⟩ |
    ⟨claim, participants, hclaims⟩ | ⟨effects, hkeeps⟩
  · obtain ⟨-, -, t, hscheduler⟩ := henters.scheduler
    have hlater := Scheduler.time_lt_entered s t
    rw [getCeremonyInfo_eq_iff, hscheduler] at hphase
    omega
  · obtain ⟨sender, maybeMeetupIndex, rfl⟩ := hclaims.call
    exact claimRewards_entries_kept h hmarked
  · by_cases hpurge : ∃ cc, action = .purgeCommunityCeremony cc
    · obtain ⟨cc, rfl⟩ := hpurge
      funext cc'
      rw [purgeCommunityCeremony_entriesOf h]
      split
      · rename_i hcc
        rw [hcc]
        exact (StorageMap.contains_eq_false.1 (eq_false_of_ne_true hunmarked)).symm
      · rfl
    · rw [not_exists] at hpurge
      apply hkeeps.changes.entries_kept
      intro e he
      exact hkeeps.caused.untouched hkeeps.clock hpurge hmarked hunmarked he

theorem Unmarked.changes {action : Action AccountId} {observations : List (Observation AccountId)}
    (hunmarked : Unmarked s action account)
    (h : dispatch config s action = .ok (s', observations)) :
    getCeremonyInfo s' = getCeremonyInfo s ∧ account ∉ markedDirty s action ∧
      entriesOf s' account ≠ entriesOf s account := by
  cases action with
  | registerParticipant sender cid proof =>
      cases proof with
      | none => cases hunmarked
      | some p =>
          obtain ⟨rfl, hne⟩ := hunmarked
          simp only [dispatch, bind_eq_ok, ok_inj, Prod.mk.injEq] at h
          obtain ⟨⟨c, t⟩, hcall, rfl, -⟩ := h
          have hchanges := registerParticipant_changes hcall
          refine ⟨rfl, by simpa [markedDirty] using hne, ?_⟩
          exact hchanges.linked_changes [] (by simp) (by simp [Effect.Touches]) hne
  | upgradeRegistration sender cid p =>
      obtain ⟨rfl, hne⟩ := hunmarked
      simp only [dispatch, bind_eq_ok, ok_inj, Prod.mk.injEq] at h
      obtain ⟨⟨c, t⟩, hcall, rfl, -⟩ := h
      have hchanges := upgradeRegistration_changes hcall
      refine ⟨rfl, by simpa [markedDirty] using hne, ?_⟩
      exact hchanges.linked_changes [_] (by simp [Effect.Touches])
        (by simp [Effect.Touches]) hne
  | purgeCommunityCeremony cc =>
      have hpurged : entriesOf s' account cc = _ := purgeCommunityCeremony_entriesOf h cc
      simp only [dispatch, dispatchQuiet, bind_eq_ok, ok_inj, Prod.mk.injEq] at h
      obtain ⟨_, rfl, rfl, -⟩ := h
      refine ⟨rfl, by simp [markedDirty], ?_⟩
      intro hsame
      rw [hsame, if_pos rfl] at hpurged
      have hcontains : s.ceremonies.participantReputation.contains (cc, account) = true := hunmarked
      rw [StorageMap.contains, show s.ceremonies.participantReputation.lookup (cc, account) = none
        from hpurged] at hcontains
      cases hcontains
  | _ => cases hunmarked

/-! ## What a query looks at -/

namespace CeremoniesRpc

variable {storage : OffchainStorage AccountId} {value : ReputationCacheValue}
  {node : Node AccountId}

/-- The value that a query answers with, when the cache is clean and of the current phase. -/
structure Cached (storage : OffchainStorage AccountId) (s : Runtime AccountId)
    (account : AccountId) (value : ReputationCacheValue) : Prop where
  clean : cacheDirty storage account = false
  stored : storage.reputationCache.lookup account = some value
  current : value.ceremonyInfo = getCeremonyInfo s

theorem getReputations_of_cached (h : Cached storage s account value) :
    getReputations storage s account true = (.ok value.reputation, storage) := by
  simp [getReputations, h.clean, h.stored, h.current]

/-- Without such a value, the cache is refreshed. -/
theorem getReputations_of_not_cached (h : ∀ value, ¬ Cached storage s account value) :
    getReputations storage s account true = (.ok (Ceremonies.getReputations s account),
      (refreshReputationCache storage s account (getCeremonyInfo s)).2) := by
  simp only [getReputations, Bool.true_eq_false, if_false]
  split
  · rfl
  · rename_i hclean
    split
    · rename_i value hstored
      split
      · rename_i hcurrent
        exact absurd ⟨eq_false_of_ne_true hclean, hstored, hcurrent.symm⟩ (h value)
      · rfl
    · rfl

theorem getReputations_storage (storage : OffchainStorage AccountId) (s : Runtime AccountId)
    (account : AccountId) :
    (getReputations storage s account true).2 = storage ∨
      (getReputations storage s account true).2 =
        (refreshReputationCache storage s account (getCeremonyInfo s)).2 := by
  by_cases hcached : ∃ value, Cached storage s account value
  · obtain ⟨value, hcached⟩ := hcached
    rw [getReputations_of_cached hcached]
    exact Or.inl rfl
  · rw [not_exists] at hcached
    rw [getReputations_of_not_cached hcached]
    exact Or.inr rfl

/-- Every query answers what the runtime has. -/
def Node.Coherent (node : Node AccountId) : Prop :=
  ∀ account, node.answer account = .ok (Ceremonies.getReputations node.chain.runtime account)

theorem Node.coherent_iff :
    node.Coherent ↔ ∀ account value, Cached node.offchain node.chain.runtime account value →
      value.reputation = Ceremonies.getReputations node.chain.runtime account := by
  constructor
  · intro h account value hcached
    have hanswer := h account
    rw [answer, getReputations_of_cached hcached] at hanswer
    exact (ok_inj.1 hanswer)
  · intro h account
    by_cases hcached : ∃ value, Cached node.offchain node.chain.runtime account value
    · obtain ⟨value, hcached⟩ := hcached
      rw [answer, getReputations_of_cached hcached, h account value hcached]
    · rw [not_exists] at hcached
      rw [answer, getReputations_of_not_cached hcached]

/-! ## How the events move the caches -/

theorem cacheDirty_setDirty (accounts : List AccountId) :
    cacheDirty (storage.setDirty accounts) account =
      (decide (account ∈ accounts) || cacheDirty storage account) := by
  have hlookup := StorageMap.lookup_foldl_insert (fun _ : AccountId => true) accounts
    storage.reputationCacheDirty account
  rw [cacheDirty, OffchainStorage.setDirty, StorageMap.get, hlookup]
  split
  · rename_i hmem
    simp [hmem]
  · rename_i hmem
    simp [hmem, cacheDirty, StorageMap.get]

/-- A mark takes the value away, and a phase change does. -/
theorem cached_setDirty_iff {accounts : List AccountId} :
    Cached (storage.setDirty accounts) s account value ↔
      account ∉ accounts ∧ Cached storage s account value := by
  constructor
  · rintro ⟨hclean, hstored, hcurrent⟩
    rw [cacheDirty_setDirty, Bool.or_eq_false_iff, decide_eq_false_iff_not] at hclean
    exact ⟨hclean.1, hclean.2, hstored, hcurrent⟩
  · rintro ⟨hmarked, hclean, hstored, hcurrent⟩
    refine ⟨?_, hstored, hcurrent⟩
    rw [cacheDirty_setDirty, hclean, decide_eq_false hmarked]
    rfl

theorem cached_refresh_iff {account' : AccountId} :
    Cached (refreshReputationCache storage s account (getCeremonyInfo s)).2 s account' value ↔
      if account' = account then value = ⟨getCeremonyInfo s, Ceremonies.getReputations s account⟩
      else Cached storage s account' value := by
  have hclean : cacheDirty (refreshReputationCache storage s account (getCeremonyInfo s)).2
      account' = if account' = account then false else cacheDirty storage account' :=
    StorageMap.get_insert _ _ _ _ _
  have hstored : (refreshReputationCache storage s account
      (getCeremonyInfo s)).2.reputationCache.lookup account' =
        if account' = account then some ⟨getCeremonyInfo s, Ceremonies.getReputations s account⟩
        else storage.reputationCache.lookup account' :=
    StorageMap.lookup_insert_eq _ _ _ _
  split
  · rename_i haccount
    rw [if_pos haccount] at hclean hstored
    constructor
    · intro h
      have hvalue := h.stored
      rw [hstored] at hvalue
      exact (Option.some.inj hvalue).symm
    · rintro rfl
      exact ⟨hclean, hstored, rfl⟩
  · rename_i haccount
    rw [if_neg haccount] at hclean hstored
    constructor
    · rintro ⟨hclean', hstored', hcurrent⟩
      exact ⟨hclean ▸ hclean', hstored ▸ hstored', hcurrent⟩
    · rintro ⟨hclean', hstored', hcurrent⟩
      exact ⟨hclean.trans hclean', hstored.trans hstored', hcurrent⟩

/-! ## Runs of the node -/

variable (config) in
theorem Node.step_ok {action : Action AccountId} {observations : List (Observation AccountId)}
    (h : dispatch config node.chain.runtime action = .ok (s', observations)) :
    node.step config (.action action) =
      ⟨⟨s', node.chain.trace ++ observations⟩,
        node.offchain.setDirty (markedDirty node.chain.runtime action)⟩ := by
  simp only [step, Chain.step, h]

variable (config) in
theorem Node.step_error {action : Action AccountId} {e : DispatchError}
    (h : dispatch config node.chain.runtime action = .error e) :
    node.step config (.action action) = node := by
  simp only [step, h]

def CeremonyInfo.time (ceremonyInfo : CeremonyInfo) : Nat :=
  3 * ceremonyInfo.ceremonyIndex + ceremonyInfo.ceremonyPhase.rank

/-- No cache is of a later phase than the runtime. -/
structure Node.Invariant (node : Node AccountId) : Prop where
  registry : RegistryInvariant node.chain.runtime.ceremonies.registry
  notAhead : ∀ account value, node.offchain.reputationCache.lookup account = some value →
    CeremonyInfo.time value.ceremonyInfo ≤ node.chain.runtime.scheduler.time

theorem Node.Invariant.step (h : node.Invariant) (event : NodeEvent AccountId) :
    (node.step config event).Invariant := by
  cases event with
  | action action =>
      cases hdispatch : dispatch config node.chain.runtime action with
      | error e =>
          rw [node.step_error config hdispatch]
          exact h
      | ok result =>
          obtain ⟨s', observations⟩ := result
          have hregistry :
              RegistryInvariant (node.chain.step config action).runtime.ceremonies.registry :=
            h.registry.step action
          simp only [Chain.step, hdispatch] at hregistry
          rw [node.step_ok config hdispatch]
          refine ⟨hregistry, ?_⟩
          intro account value hstored
          exact (h.notAhead account value hstored).trans (dispatch_outcome hdispatch).time_le
  | getReputations account =>
      refine ⟨h.registry, ?_⟩
      intro account' value hstored
      simp only [Node.step] at hstored
      rcases getReputations_storage node.offchain node.chain.runtime account with hsame | hrefreshed
      · rw [hsame] at hstored
        exact h.notAhead account' value hstored
      · rw [hrefreshed, refreshReputationCache, StorageMap.lookup_insert_eq] at hstored
        split at hstored
        · cases hstored
          exact le_rfl
        · exact h.notAhead account' value hstored

/-- The step does not change reputations behind the back of a cache that is in use. -/
def KeepsMarks (config : Config AccountId) (node : Node AccountId) : NodeEvent AccountId → Prop
  | .action action =>
      (dispatch config node.chain.runtime action).isOk = true → ∀ account,
        Unmarked node.chain.runtime action account →
          ∀ value, ¬ Cached node.offchain node.chain.runtime account value
  | .getReputations _ => True

/-- After a call within the phase, the caches are those that it has not marked. -/
theorem cached_step_iff {marked : List AccountId}
    (hphase : getCeremonyInfo s' = getCeremonyInfo s) :
    Cached (storage.setDirty marked) s' account value ↔
      account ∉ marked ∧ Cached storage s account value := by
  rw [cached_setDirty_iff]
  constructor
  · rintro ⟨hmarked, hclean, hstored, hcurrent⟩
    exact ⟨hmarked, hclean, hstored, hcurrent.trans hphase⟩
  · rintro ⟨hmarked, hclean, hstored, hcurrent⟩
    exact ⟨hmarked, hclean, hstored, hcurrent.trans hphase.symm⟩

/-- No cache from before a phase change is in use after it. -/
theorem Node.Invariant.not_cached (h : node.Invariant) {marked : List AccountId}
    (htime : node.chain.runtime.scheduler.time ≤ s'.scheduler.time)
    (hphase : getCeremonyInfo s' ≠ getCeremonyInfo node.chain.runtime) :
    ¬ Cached (node.offchain.setDirty marked) s' account value := by
  intro hcached
  obtain ⟨-, -, hstored, hcurrent⟩ := cached_setDirty_iff.1 hcached
  have hbefore := h.notAhead account value hstored
  have hnow : CeremonyInfo.time value.ceremonyInfo = s'.scheduler.time := by
    rw [hcurrent]
    rfl
  rw [Ne, getCeremonyInfo_eq_iff] at hphase
  omega

theorem Node.Invariant.action_coherent_iff (h : node.Invariant) (hcoherent : node.Coherent)
    {action : Action AccountId} {observations : List (Observation AccountId)}
    (hdispatch : dispatch config node.chain.runtime action = .ok (s', observations)) :
    (node.step config (.action action)).Coherent ↔ ∀ account,
      Unmarked node.chain.runtime action account →
        ∀ value, ¬ Cached node.offchain node.chain.runtime account value := by
  rw [Node.coherent_iff] at hcoherent
  rw [node.step_ok config hdispatch, Node.coherent_iff]
  constructor
  · intro hnext account hunmarked value hcached
    obtain ⟨hphase, hmarked, hchanged⟩ := hunmarked.changes hdispatch
    have hbefore := hcoherent account value hcached
    have hafter := hnext account value ((cached_step_iff hphase).2 ⟨hmarked, hcached⟩)
    apply hchanged
    funext cc
    exact getReputations_eq_iff.1 (hafter.symm.trans hbefore) cc
  · intro hkeeps account value hcached
    by_cases hphase : getCeremonyInfo s' = getCeremonyInfo node.chain.runtime
    · obtain ⟨hmarked, hbefore⟩ := (cached_step_iff hphase).1 hcached
      have hkept := entries_kept h.registry hdispatch hphase hmarked
        fun hunmarked => hkeeps account hunmarked value hbefore
      rw [hcoherent account value hbefore]
      exact (getReputations_eq_iff.2 (congrFun hkept)).symm
    · exact absurd hcached (h.not_cached (dispatch_outcome hdispatch).time_le hphase)

theorem Node.Coherent.query (hcoherent : node.Coherent) (account : AccountId) :
    (node.step config (.getReputations account)).Coherent := by
  rw [Node.coherent_iff] at hcoherent ⊢
  intro account' value hcached
  simp only [Node.step] at hcached ⊢
  rcases getReputations_storage node.offchain node.chain.runtime account with hsame | hrefreshed
  · rw [hsame] at hcached
    exact hcoherent account' value hcached
  · rw [hrefreshed, cached_refresh_iff] at hcached
    split at hcached
    · rename_i haccount
      rw [hcached, haccount]
    · exact hcoherent account' value hcached

theorem Node.Invariant.step_coherent_iff (h : node.Invariant) (hcoherent : node.Coherent)
    (event : NodeEvent AccountId) :
    (node.step config event).Coherent ↔ KeepsMarks config node event := by
  cases event with
  | action action =>
      cases hdispatch : dispatch config node.chain.runtime action with
      | error e =>
          rw [node.step_error config hdispatch]
          constructor
          · intro _ hok
            rw [hdispatch] at hok
            cases hok
          · intro _
            exact hcoherent
      | ok result =>
          obtain ⟨s', observations⟩ := result
          rw [h.action_coherent_iff hcoherent hdispatch]
          constructor
          · intro hkeeps _
            exact hkeeps
          · intro hkeeps
            apply hkeeps
            rw [hdispatch]
            rfl
  | getReputations account =>
      constructor
      · intro _
        trivial
      · intro _
        exact hcoherent.query account

def Node.genesis (genesis : GenesisConfig) (nativeBalances : StorageMap AccountId Nat)
    (assetBalances : StorageMap (AccountId × AssetKind) Nat) : Node AccountId :=
  ⟨Chain.genesis genesis nativeBalances assetBalances, ⟨∅, ∅⟩⟩

theorem Node.genesis_invariant (genesis : GenesisConfig) (nativeBalances : StorageMap AccountId Nat)
    (assetBalances : StorageMap (AccountId × AssetKind) Nat) :
    (Node.genesis genesis nativeBalances assetBalances).Invariant where
  registry := RegistryInvariant.genesis genesis nativeBalances assetBalances
  notAhead := by
    intro account value hstored
    cases hstored

theorem Node.genesis_coherent (genesis : GenesisConfig) (nativeBalances : StorageMap AccountId Nat)
    (assetBalances : StorageMap (AccountId × AssetKind) Nat) :
    (Node.genesis genesis nativeBalances assetBalances).Coherent := by
  rw [Node.coherent_iff]
  rintro account value ⟨-, hstored, -⟩
  cases hstored

/-- The answers to all queries of a run are right, at any time, just if no call that leaves a
cache unmarked meets one that is in use. -/
theorem reputation_cache_coherent_iff (config : Config AccountId) (genesis : GenesisConfig)
    (nativeBalances : StorageMap AccountId Nat)
    (assetBalances : StorageMap (AccountId × AssetKind) Nat)
    (events : List (NodeEvent AccountId)) :
    (∀ seen, seen <+: events →
        ((Node.genesis genesis nativeBalances assetBalances).run config seen).Coherent) ↔
      Machine.Along (Node.step config) (KeepsMarks config)
        (Node.genesis genesis nativeBalances assetBalances) events := by
  exact Machine.Along.iff_prefixes_of_held Node.Coherent
    (fun node event hinv => hinv.step event)
    (fun node event hcoherent hinv => hinv.step_coherent_iff hcoherent event)
    (Node.genesis_coherent genesis nativeBalances assetBalances)
    (Node.genesis_invariant genesis nativeBalances assetBalances) events

end CeremoniesRpc

/-! ## A reputation that somebody else registers with -/

namespace Demo

/-- The runtime acts, and the node has an empty offchain storage at first. -/
def startNode : CeremoniesRpc.Node Nat := CeremoniesRpc.Node.genesis genesis ∅ ∅

/-- Somebody asks for account 1, and account 9 registers on its attendance. -/
def borrowedAttendance : List (CeremoniesRpc.NodeEvent Nat) :=
  secondCeremony.map .action ++ [.getReputations 1,
    .action (.registerParticipant 9 mainlanders (some (attended 9 islanders 1)))]

end Demo

/-- The answer is still that the reputation is unlinked. -/
theorem CeremoniesRpc.reputation_cache_stale :
    let node := Demo.startNode.run Demo.runtimeConfig Demo.borrowedAttendance
    node.answer 1 = .ok {(1, ⟨Demo.islanders, .verifiedUnlinked⟩)} ∧
      Ceremonies.getReputations node.chain.runtime 1 =
        {(1, ⟨Demo.islanders, .verifiedLinked 2⟩)} := by
  decide +kernel

end Encointer
