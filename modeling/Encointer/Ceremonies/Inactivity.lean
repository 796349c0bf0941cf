import Encointer.Ceremonies.Ledger
import Encointer.Ceremonies.Histories
import Encointer.Communities.ExactIndex

/-!
# Inactivity purges

The counter of a community is the number of assigning phases in a row that found
no rewards for the previous ceremony. A community is purged when the counter
would exceed the timeout.
-/

namespace Encointer

open Ceremonies Dispatch

variable {AccountId : Type} [DecidableEq AccountId] {config : Config AccountId}
  {s s' : Runtime AccountId} {cid : CommunityIdentifier}

/-! ## The counters of one phase -/

structure CounterUpdate (found : Bool) (timeout : Nat) (counter counter' : Option Nat)
    (inactive : Prop) : Prop where
  active : found = true → counter' = some 0 ∧ ¬ inactive
  expired : found = false → timeout ≤ counter.getD 0 → counter' = counter ∧ inactive
  idle : found = false → counter.getD 0 < timeout →
    counter' = some (counter.getD 0 + 1) ∧ ¬ inactive

omit [DecidableEq AccountId] in
theorem updateInactivityCounters_of_not_mem (c : CeremoniesStorage AccountId)
    (cindex timeout : Nat) {cids : List CommunityIdentifier}
    (counters : StorageMap CommunityIdentifier Nat) (h : cid ∉ cids) :
    (updateInactivityCounters c cindex timeout cids counters).1.lookup cid = counters.lookup cid ∧
      cid ∉ (updateInactivityCounters c cindex timeout cids counters).2 := by
  induction cids generalizing counters with
  | nil => exact ⟨rfl, List.not_mem_nil⟩
  | cons cid' cids ih =>
      rw [List.mem_cons, not_or] at h
      unfold updateInactivityCounters
      simp only
      split
      · have hrest := ih (counters.insert cid' 0) h.2
        rw [StorageMap.lookup_insert_eq, if_neg h.1] at hrest
        exact hrest
      · split
        · have hrest := ih counters h.2
          simp [hrest.1, hrest.2, h.1]
        · have hrest := ih (counters.insert cid' (counters.get cid' 0 + 1)) h.2
          rw [StorageMap.lookup_insert_eq, if_neg h.1] at hrest
          exact hrest

omit [DecidableEq AccountId] in
theorem updateInactivityCounters_of_mem (c : CeremoniesStorage AccountId)
    (cindex timeout : Nat) {cids : List CommunityIdentifier}
    (counters : StorageMap CommunityIdentifier Nat) (hnodup : cids.Nodup) (h : cid ∈ cids) :
    CounterUpdate (hasIssuedRewards c (cid, cindex)) timeout (counters.lookup cid)
      ((updateInactivityCounters c cindex timeout cids counters).1.lookup cid)
      (cid ∈ (updateInactivityCounters c cindex timeout cids counters).2) := by
  induction cids generalizing counters with
  | nil => cases h
  | cons cid' cids ih =>
      obtain ⟨hnot, hnodup⟩ := List.nodup_cons.1 hnodup
      rcases List.mem_cons.1 h with rfl | hmem
      · -- the later communities leave the counter as it is
        unfold updateInactivityCounters
        simp only
        split
        · rename_i hfound
          have hrest := updateInactivityCounters_of_not_mem c cindex timeout (counters.insert cid 0)
            hnot
          rw [StorageMap.lookup_insert_eq, if_pos rfl] at hrest
          exact ⟨fun _ => hrest, by simp [hfound], by simp [hfound]⟩
        · rename_i hfound
          have hgone : hasIssuedRewards c (cid, cindex) = false := by simpa using hfound
          split
          · rename_i htimeout
            have hrest := updateInactivityCounters_of_not_mem c cindex timeout counters hnot
            refine ⟨by simp [hgone], fun _ _ => ⟨hrest.1, List.mem_cons_self⟩, ?_⟩
            intro _ hlt
            exact absurd htimeout (Nat.not_le_of_lt hlt)
          · rename_i htimeout
            have hrest := updateInactivityCounters_of_not_mem c cindex timeout
              (counters.insert cid (counters.get cid 0 + 1)) hnot
            rw [StorageMap.lookup_insert_eq, if_pos rfl] at hrest
            refine ⟨by simp [hgone], ?_, fun _ _ => hrest⟩
            intro _ hle
            exact absurd hle htimeout
      · have hne : cid ≠ cid' := by
          rintro rfl
          exact hnot hmem
        unfold updateInactivityCounters
        simp only
        split
        · have hrest := ih (counters.insert cid' 0) hnodup hmem
          rw [StorageMap.lookup_insert_eq, if_neg hne] at hrest
          exact hrest
        · split
          · have hrest := ih counters hnodup hmem
            simp only [List.mem_cons, hne, false_or]
            exact hrest
          · have hrest := ih (counters.insert cid' (counters.get cid' 0 + 1)) hnodup
              hmem
            rw [StorageMap.lookup_insert_eq, if_neg hne] at hrest
            exact hrest

/-! ## Registered communities -/

theorem Change.nodup_communityIdentifiers {effects : List (Effect AccountId)}
    (h : Change config s effects s') (hnodup : s.communities.communityIdentifiers.Nodup) :
    s'.communities.communityIdentifiers.Nodup := by
  cases h with
  | communities communities changed =>
      simp only [changed.communityIdentifiers]
      exact hnodup
  | newCommunity location bootstrappers metadata demurrage nominalIncome communities balances cid'
      identifier created =>
      obtain ⟨cid, -, hnew, hcids⟩ := Communities.newCommunity_spec created
      simp only [hcids]
      rw [List.nodup_append]
      refine ⟨hnodup, List.nodup_singleton cid, ?_⟩
      intro a ha b hb
      rw [List.mem_singleton.1 hb]
      rintro rfl
      exact hnew ha
  | removeCommunity cid =>
      simp only [Communities.removeCommunity_communityIdentifiers]
      exact hnodup.filter _
  | _ => exact hnodup

theorem Changes.nodup_communityIdentifiers {effects : List (Effect AccountId)}
    (h : Changes config s effects s') (hnodup : s.communities.communityIdentifiers.Nodup) :
    s'.communities.communityIdentifiers.Nodup := by
  induction h with
  | refl => exact hnodup
  | tail _ hchange ih => exact hchange.nodup_communityIdentifiers ih

theorem Chain.step_nodup_communityIdentifiers (config : Config AccountId)
    {chain : Chain AccountId} (action : Action AccountId)
    (hnodup : chain.runtime.communities.communityIdentifiers.Nodup) :
    (chain.step config action).runtime.communities.communityIdentifiers.Nodup := by
  rcases chain.step_outcome config action with ⟨observations, -, houtcome⟩ | hsame
  · rcases houtcome.communities_or_quiet with hcommunities | hquiet
    · rw [hcommunities]
      exact hnodup
    · obtain ⟨effects, -, hchanges⟩ := dispatchQuiet_changes hquiet
      exact hchanges.nodup_communityIdentifiers hnodup
  · rw [hsame]
    exact hnodup

/-! ## Steps -/

namespace Ceremonies

def StartsAssigning (config : Config AccountId) (chain : Chain AccountId)
    (action : Action AccountId) : Prop :=
  chain.runtime.scheduler.currentPhase ≠ .assigning ∧
    (chain.step config action).runtime.scheduler.currentPhase = .assigning

instance (config : Config AccountId) (chain : Chain AccountId) (action : Action AccountId) :
    Decidable (StartsAssigning config chain action) :=
  inferInstanceAs (Decidable (_ ∧ _))

def Registers (config : Config AccountId) (cid : CommunityIdentifier) (chain : Chain AccountId)
    (action : Action AccountId) : Prop :=
  cid ∉ chain.runtime.communities.communityIdentifiers ∧
    cid ∈ (chain.step config action).runtime.communities.communityIdentifiers

instance (config : Config AccountId) (cid : CommunityIdentifier) (chain : Chain AccountId)
    (action : Action AccountId) : Decidable (Registers config cid chain action) :=
  inferInstanceAs (Decidable (_ ∧ _))

/-- The previous ceremony, when the action starts an assigning phase, has no rewards. -/
def isIdle (config : Config AccountId) (cid : CommunityIdentifier) (chain : Chain AccountId)
    (action : Action AccountId) : Bool :=
  !hasIssuedRewards chain.runtime.ceremonies
    (cid, (chain.step config action).runtime.scheduler.currentCeremonyIndex - 1)

/-- One entry for each assigning phase since the latest registration, the latest first. -/
def noteIdle (config : Config AccountId) (cid : CommunityIdentifier) (chain : Chain AccountId)
    (action : Action AccountId) (log : List Bool) : List Bool :=
  if Registers config cid chain action then
    []
  else if StartsAssigning config chain action then
    isIdle config cid chain action :: log
  else
    log

variable {chain : Chain AccountId} {action : Action AccountId}

/-- Counters move at the start of an assigning phase only. -/
theorem inactivity_step (config : Config AccountId) (chain : Chain AccountId)
    (action : Action AccountId) :
    ¬ StartsAssigning config chain action ∧
        (chain.step config action).runtime.ceremonies.inactivityCounters =
          chain.runtime.ceremonies.inactivityCounters ∨
      StartsAssigning config chain action ∧ ∃ counters removed,
        AssigningStarts chain.runtime (chain.step config action).runtime counters removed := by
  rcases chain.step_outcome config action with ⟨observations, -, houtcome⟩ | hsame
  · cases houtcome.ledger with
    | same phase ledger kept old silent =>
        refine Or.inl ⟨?_, ledger.inactivityCounters⟩
        rintro ⟨hbefore, hafter⟩
        exact hbefore (phase.symm.trans hafter)
    | endorse cid sender newbie t haction h hscheduler hobs =>
        refine Or.inl ⟨?_, h.inactivityCounters⟩
        rintro ⟨hbefore, hafter⟩
        rw [hscheduler] at hafter
        exact hbefore hafter
    | purge cc haction hs hobs =>
        rw [StartsAssigning, hs]
        exact Or.inl ⟨fun h => h.1 h.2, rfl⟩
    | phase newPhase haction hcall h hobs =>
        have hstarts := h.starts
        have hphase := h.phase
        cases hstarts with
        | registering hstarts =>
            refine Or.inl ⟨?_, hstarts.inactivityCounters⟩
            rintro ⟨-, hafter⟩
            rw [hphase] at hafter
            cases hafter
        | assigning counters removed hstarts =>
            refine Or.inr ⟨⟨?_, hphase⟩, counters, removed, hstarts⟩
            intro hbefore
            have hnext := h.scheduler.2.1
            rw [hbefore] at hnext
            cases hnext
        | attesting hceremonies hcommunities =>
            rw [hceremonies]
            refine Or.inl ⟨?_, rfl⟩
            rintro ⟨-, hafter⟩
            rw [hphase] at hafter
            cases hafter
  · rw [StartsAssigning, hsame]
    exact Or.inl ⟨fun h => h.1 h.2, rfl⟩

def idleCount (log : List Bool) : Nat := (log.takeWhile id).length

theorem take_eq_replicate_iff (log : List Bool) (n : Nat) :
    log.take n = List.replicate n true ↔ n ≤ idleCount log := by
  induction n generalizing log with
  | zero => simp
  | succ n ih =>
      cases log with
      | nil => simp [idleCount]
      | cons b log => cases b <;> simp [idleCount, List.replicate_succ, ih]

/-- The counter of a registered community tells how many ceremonies in a row were idle. -/
structure IdleCounted (timeout : Nat) (cid : CommunityIdentifier) (chain : Chain AccountId)
    (log : List Bool) : Prop where
  nodup : chain.runtime.communities.communityIdentifiers.Nodup
  counted : cid ∈ chain.runtime.communities.communityIdentifiers →
    chain.runtime.ceremonies.inactivityCounters.get cid 0 = idleCount log
  within : cid ∈ chain.runtime.communities.communityIdentifiers → idleCount log ≤ timeout

/-- The timeout stays, and the community is registered without a counter from a former one. -/
def KeepsSchedule (config : Config AccountId) (timeout : Nat) (cid : CommunityIdentifier)
    (chain : Chain AccountId) (action : Action AccountId) : Prop :=
  chain.runtime.ceremonies.inactivityTimeout = timeout ∧
    (chain.step config action).runtime.ceremonies.inactivityTimeout = timeout ∧
    (Registers config cid chain action →
      chain.runtime.ceremonies.inactivityCounters.get cid 0 = 0)

instance (config : Config AccountId) (timeout : Nat) (cid : CommunityIdentifier)
    (chain : Chain AccountId) (action : Action AccountId) :
    Decidable (KeepsSchedule config timeout cid chain action) :=
  inferInstanceAs (Decidable (_ ∧ _ ∧ (_ → _)))

variable {timeout : Nat} {log : List Bool}

/-- What the start of an assigning phase does to a registered community. -/
theorem IdleCounted.assigning (h : IdleCounted timeout cid chain log)
    (htimeout : (chain.step config action).runtime.ceremonies.inactivityTimeout = timeout)
    (hregistered : cid ∈ chain.runtime.communities.communityIdentifiers)
    {counters : StorageMap CommunityIdentifier Nat} {removed : List CommunityIdentifier}
    (hstarts : AssigningStarts chain.runtime (chain.step config action).runtime counters removed) :
    (cid ∉ (chain.step config action).runtime.communities.communityIdentifiers ↔
      timeout < idleCount (isIdle config cid chain action :: log)) ∧
    (cid ∈ (chain.step config action).runtime.communities.communityIdentifiers →
      (chain.step config action).runtime.ceremonies.inactivityCounters.get cid 0 =
        idleCount (isIdle config cid chain action :: log)) := by
  have hupdate := updateInactivityCounters_of_mem chain.runtime.ceremonies
    ((chain.step config action).runtime.scheduler.currentCeremonyIndex - 1)
    (chain.step config action).runtime.ceremonies.inactivityTimeout
    chain.runtime.ceremonies.inactivityCounters h.nodup hregistered
  rw [hstarts.inactive, htimeout] at hupdate
  have hcounted := h.counted hregistered
  have hwithin := h.within hregistered
  have hmem : cid ∉ (chain.step config action).runtime.communities.communityIdentifiers ↔
      cid ∈ removed := by
    rw [hstarts.communityIdentifiers]
    simp [hregistered]
  have hlookup := hstarts.inactivityCounters cid
  rw [StorageMap.get] at hcounted
  rw [hmem, StorageMap.get, hlookup]
  cases hfound : hasIssuedRewards chain.runtime.ceremonies
      (cid, (chain.step config action).runtime.scheduler.currentCeremonyIndex - 1) with
  | true =>
      obtain ⟨hzero, hkept⟩ := hupdate.active hfound
      simp [isIdle, hfound, idleCount, hzero, hkept]
  | false =>
      have hidle : idleCount (isIdle config cid chain action :: log) = idleCount log + 1 := by
        simp [isIdle, hfound, idleCount]
      rw [hidle]
      by_cases hexpired : timeout ≤ (chain.runtime.ceremonies.inactivityCounters.lookup cid).getD 0
      · obtain ⟨-, hgone⟩ := hupdate.expired hfound hexpired
        have hlt : timeout < idleCount log + 1 := by omega
        simp only [hgone, hlt, true_and]
        intro hstays
        exact absurd hgone (mt hmem.2 (not_not_intro hstays))
      · obtain ⟨hnext, hkept⟩ := hupdate.idle hfound (by omega)
        have hle : ¬ timeout < idleCount log + 1 := by omega
        simp only [hkept, hle, if_false, hnext, Option.getD_some,
          true_and]
        intro _
        omega

theorem IdleCounted.step (h : IdleCounted timeout cid chain log)
    (hok : KeepsSchedule config timeout cid chain action) :
    IdleCounted timeout cid (chain.step config action) (noteIdle config cid chain action log) := by
  obtain ⟨-, htimeout, hfresh⟩ := hok
  have hnodup := chain.step_nodup_communityIdentifiers config action h.nodup
  by_cases hregisters : Registers config cid chain action
  · have hzero := hfresh hregisters
    have hlog : noteIdle config cid chain action log = [] := if_pos hregisters
    rw [hlog]
    refine ⟨hnodup, ?_, fun _ => Nat.zero_le _⟩
    intro _
    rcases inactivity_step config chain action with ⟨-, hsame⟩ | ⟨-, counters, removed, hstarts⟩
    · rw [hsame, hzero]
      rfl
    · exact absurd ((hstarts.communityIdentifiers cid).1 hregisters.2).1 hregisters.1
  · have hbefore (hmem : cid ∈ (chain.step config action).runtime.communities.communityIdentifiers) :
        cid ∈ chain.runtime.communities.communityIdentifiers := by
      by_contra hnot
      exact hregisters ⟨hnot, hmem⟩
    rcases inactivity_step config chain action with
      ⟨hnot, hsame⟩ | ⟨hassigning, counters, removed, hstarts⟩
    · have hlog : noteIdle config cid chain action log = log := by
        rw [noteIdle, if_neg hregisters, if_neg hnot]
      rw [hlog]
      refine ⟨hnodup, ?_, fun hmem => h.within (hbefore hmem)⟩
      intro hmem
      rw [hsame]
      exact h.counted (hbefore hmem)
    · have hlog : noteIdle config cid chain action log = isIdle config cid chain action :: log := by
        rw [noteIdle, if_neg hregisters, if_pos hassigning]
      rw [hlog]
      refine ⟨hnodup, ?_, ?_⟩
      · intro hmem
        exact (h.assigning htimeout (hbefore hmem) hstarts).2 hmem
      · intro hmem
        have hiff := (h.assigning htimeout (hbefore hmem) hstarts).1
        by_contra hlt
        exact hiff.2 (Nat.lt_of_not_le hlt) hmem

/-! ## Runs -/

/-- The assigning phases since the latest registration of the community. -/
def idleLog (config : Config AccountId) (cid : CommunityIdentifier) (chain : Chain AccountId)
    (actions : List (Action AccountId)) : List Bool :=
  Machine.note (Chain.step config) (noteIdle config cid) chain [] actions

/--
At the start of an assigning phase, a community is purged just if this and the
`timeout` phases before were idle; a ceremony with rewards resets the counter.
-/
structure PurgedOnSchedule (config : Config AccountId) (timeout : Nat) (cid : CommunityIdentifier)
    (chain : Chain AccountId) (action : Action AccountId) (log : List Bool) : Prop where
  purged : cid ∉ (chain.step config action).runtime.communities.communityIdentifiers ↔
    log.take (timeout + 1) = List.replicate (timeout + 1) true
  reset : isIdle config cid chain action = false →
    (chain.step config action).runtime.ceremonies.inactivityCounters.get cid 0 = 0

theorem purged_on_schedule (config : Config AccountId) (genesis : GenesisConfig)
    (nativeBalances : StorageMap AccountId Nat)
    (assetBalances : StorageMap (AccountId × AssetKind) Nat) (actions : List (Action AccountId))
    (action : Action AccountId) (timeout : Nat) (cid : CommunityIdentifier)
    (hok : Machine.Along (Chain.step config) (KeepsSchedule config timeout cid)
      (Chain.genesis genesis nativeBalances assetBalances) (actions ++ [action]))
    (hregistered : cid ∈ ((Chain.genesis genesis nativeBalances assetBalances).run config
      actions).runtime.communities.communityIdentifiers)
    (hassigning : StartsAssigning config
      ((Chain.genesis genesis nativeBalances assetBalances).run config actions) action) :
    PurgedOnSchedule config timeout cid
      ((Chain.genesis genesis nativeBalances assetBalances).run config actions) action
      (idleLog config cid (Chain.genesis genesis nativeBalances assetBalances)
        (actions ++ [action])) := by
  obtain ⟨hbefore, hlast, -⟩ := Machine.Along.append.1 hok
  have hgenesis : IdleCounted timeout cid
      (Chain.genesis genesis nativeBalances assetBalances) [] :=
    ⟨List.nodup_nil, fun hmem => absurd hmem List.not_mem_nil, fun _ => Nat.zero_le _⟩
  have hcounted : IdleCounted timeout cid
      ((Chain.genesis genesis nativeBalances assetBalances).run config actions)
      (idleLog config cid (Chain.genesis genesis nativeBalances assetBalances) actions) :=
    Machine.note_invariant _ (noteIdle config cid) (IdleCounted timeout cid)
      (fun _ _ _ h hok => h.step hok) hgenesis hbefore
  rcases inactivity_step config
      ((Chain.genesis genesis nativeBalances assetBalances).run config actions) action with
    ⟨hnot, -⟩ | ⟨-, counters, removed, hstarts⟩
  · exact absurd hassigning hnot
  · have hlog : idleLog config cid (Chain.genesis genesis nativeBalances assetBalances)
        (actions ++ [action]) = isIdle config cid
          ((Chain.genesis genesis nativeBalances assetBalances).run config actions) action ::
            idleLog config cid (Chain.genesis genesis nativeBalances assetBalances) actions := by
      have hnew : ¬ Registers config cid
          ((Chain.genesis genesis nativeBalances assetBalances).run config actions) action :=
        fun hregisters => hregisters.1 hregistered
      exact (Machine.note_concat _ _ _ _ _).trans ((if_neg hnew).trans (if_pos hassigning))
    obtain ⟨hpurged, hcounter⟩ := hcounted.assigning hlast.2.1 hregistered hstarts
    rw [hlog]
    constructor
    · rw [take_eq_replicate_iff]
      exact hpurged
    · intro hactive
      have hzero : idleCount (isIdle config cid
          ((Chain.genesis genesis nativeBalances assetBalances).run config actions) action ::
            idleLog config cid (Chain.genesis genesis nativeBalances assetBalances) actions) =
          0 := by
        simp [hactive, idleCount]
      rw [hzero] at hpurged hcounter
      apply hcounter
      by_contra hgone
      exact absurd (hpurged.1 hgone) (Nat.not_lt_zero timeout)

end Ceremonies

/-! ## A counter that outlives its community -/

namespace Demo

/-- Communities are purged after the second idle ceremony in a row. -/
def impatient : Chain Nat := Chain.genesis { genesis with inactivityTimeout := 1 } ∅ ∅

/-- The community has been idle in one assigning phase. -/
def idleOnce : List (Action Nat) :=
  [newDay 1, newCommunity island [1, 2, 3], newDay 2, newDay 3, newDay 4]

/-- After an idle ceremony the community is removed by call, and founded again. -/
def foundedAgain : List (Action Nat) :=
  [newDay 1, newCommunity island [1, 2, 3], newDay 2, .purgeCommunity islanders,
    newCommunity island [1, 2, 3], newDay 3, newDay 4]

end Demo

theorem Ceremonies.purged_on_schedule_idleOnce :
    PurgedOnSchedule Demo.runtimeConfig 1 Demo.islanders
      (Demo.impatient.run Demo.runtimeConfig Demo.idleOnce) (Demo.newDay 5)
      (idleLog Demo.runtimeConfig Demo.islanders Demo.impatient
        (Demo.idleOnce ++ [Demo.newDay 5])) :=
  Ceremonies.purged_on_schedule Demo.runtimeConfig
    { Demo.genesis with inactivityTimeout := 1 } ∅ ∅ Demo.idleOnce (Demo.newDay 5) 1 Demo.islanders
    (by decide +kernel) (by decide +kernel) (by decide +kernel)

/-- The community is purged in its first assigning phase. -/
theorem Ceremonies.purged_too_early :
    Machine.Along (Chain.step Demo.runtimeConfig)
        (fun chain action => chain.runtime.ceremonies.inactivityTimeout = 1 ∧
          (chain.step Demo.runtimeConfig action).runtime.ceremonies.inactivityTimeout = 1)
        Demo.impatient (Demo.foundedAgain ++ [Demo.newDay 5]) ∧
      Demo.islanders ∈ (Demo.impatient.run Demo.runtimeConfig
        Demo.foundedAgain).runtime.communities.communityIdentifiers ∧
      StartsAssigning Demo.runtimeConfig
        (Demo.impatient.run Demo.runtimeConfig Demo.foundedAgain) (Demo.newDay 5) ∧
      ¬ PurgedOnSchedule Demo.runtimeConfig 1 Demo.islanders
        (Demo.impatient.run Demo.runtimeConfig Demo.foundedAgain) (Demo.newDay 5)
        (idleLog Demo.runtimeConfig Demo.islanders Demo.impatient
          (Demo.foundedAgain ++ [Demo.newDay 5])) := by
  refine ⟨by decide +kernel, by decide +kernel, by decide +kernel, ?_⟩
  intro h
  exact absurd (h.purged.1 (by decide +kernel)) (by decide +kernel)

end Encointer
