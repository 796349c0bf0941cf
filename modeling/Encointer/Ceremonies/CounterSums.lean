import Encointer.Ceremonies.ReputationCounts
import Mathlib.Algebra.BigOperators.Group.Finset.Basic

/-!
# Counters are sums

The reputation count of a ceremony is the number of its verified reputations. The
global count of a ceremony index is the sum over the registered communities as
long as no history goes while other communities keep theirs: purging the history
of one community removes the global count.
-/

namespace Encointer

open Ceremonies

variable {AccountId : Type} [DecidableEq AccountId] {config : Config AccountId}

/-! ## The effects on histories -/

def Effect.history : Effect AccountId → Bool
  | .newCommunity _ | .removeCommunity _ | .purge _ => true
  | _ => false

namespace Dispatch

def phaseChangeEffects (config : Config AccountId) (s : Runtime AccountId) :
    List (Effect AccountId) :=
  let nextPhase := Scheduler.nextPhaseOf s.scheduler.currentPhase
  match Scheduler.resync (Scheduler.getCycleDuration s.scheduler) s.now
      (s.scheduler.nextPhaseTimestamp + s.scheduler.phaseDurations.get nextPhase 0) with
  | .error _ => []
  | .ok t =>
      match Democracy.onCeremonyPhaseChange config
          { s with scheduler := Scheduler.entered s t } nextPhase with
      | .error _ => []
      | .ok enacted => Ceremonies.phaseEffects nextPhase enacted

/-- The communities and histories that come and go with a successful action. -/
def historyEffects (config : Config AccountId) (s : Runtime AccountId) :
    Action AccountId → List (Effect AccountId)
  | .beginBlock now _ =>
      let s := { s with now := now, blockNumber := s.blockNumber + 1 }
      if phaseDue s then phaseChangeEffects config s else []
  | .nextPhase _ => phaseChangeEffects config s
  | .newCommunity location bootstrappers _ _ _ =>
      ((Communities.newCommunityIdentifier config location bootstrappers).map
        Effect.newCommunity).toList
  | .purgeCommunity cid => [.removeCommunity cid]
  | .purgeCommunityCeremony cc => [.purge cc]
  | _ => []

variable {s : Runtime AccountId} {effects : List (Effect AccountId)}

omit [DecidableEq AccountId] in
private theorem phaseEffects_history (newPhase : CeremonyPhaseType) (s : Runtime AccountId) :
    (Ceremonies.phaseEffects newPhase s).filter Effect.history =
      Ceremonies.phaseEffects newPhase s := by
  rw [List.filter_eq_self]
  intro e he
  rcases Ceremonies.mem_phaseEffects he with ⟨cc, rfl⟩ | ⟨cid, rfl⟩
  · rfl
  · rfl

theorem PhaseEffects.history (h : PhaseEffects config s effects) :
    effects.filter Effect.history = [] ∨
      effects.filter Effect.history = phaseChangeEffects config s := by
  cases h with
  | none => exact Or.inl rfl
  | clock => exact Or.inl rfl
  | changed nextPhaseTimestamp enacted outcomes assigned synced henact =>
      right
      have hattempts : (Democracy.enactmentEffects (Scheduler.nextPhaseOf s.scheduler.currentPhase)
          s.democracy outcomes).filter Effect.history = [] := by
        rw [List.filter_eq_nil_iff]
        intro e he
        rcases Democracy.mem_enactmentEffects he with ⟨proposalId, enacted, rfl⟩ | rfl
        · simp [Effect.history]
        · simp [Effect.history]
      have hassign : (Ceremonies.assignEffects enacted assigned).filter Effect.history = [] := by
        rw [List.filter_eq_nil_iff]
        intro e he
        obtain ⟨cid, -, rfl⟩ := List.mem_map.1 he
        simp [Effect.history]
      rw [List.filter_cons_of_neg (by simp [Effect.history]), List.filter_append,
        List.filter_append, hattempts, hassign, List.nil_append, List.append_nil,
        phaseEffects_history]
      simp only [phaseChangeEffects, synced, henact]

theorem TimestampEffects.history (h : TimestampEffects config s effects) :
    effects.filter Effect.history = [] ∨
      phaseDue s ∧ effects.filter Effect.history = phaseChangeEffects config s := by
  rcases h with rfl | rfl | ⟨hdue, hphase⟩
  · exact Or.inl rfl
  · exact Or.inl rfl
  · rcases hphase.history with hnone | hall
    · exact Or.inl hnone
    · exact Or.inr ⟨hdue, hall⟩

theorem ActionEffects.history {action : Action AccountId}
    {observations : List (Observation AccountId)}
    (h : ActionEffects config s action observations effects) :
    effects.filter Effect.history = [] ∨
      effects.filter Effect.history = historyEffects config s action := by
  unfold ActionEffects at h
  split at h
  · obtain ⟨t, -, rfl, -⟩ := h
    rename_i proof
    cases proof <;> exact Or.inl rfl
  · obtain ⟨t, rfl, -⟩ := h
    exact Or.inl rfl
  · obtain ⟨ticket, t, -, hticket, rfl, -⟩ := h
    left
    cases hticket <;> cases t <;> rfl
  · obtain ⟨proposalId, cindexes, rfl, -⟩ := h
    exact Or.inl rfl
  · obtain ⟨counted, purpose, rfl, -⟩ := h
    exact Or.inl rfl
  · obtain ⟨hquiet, -⟩ := h
    unfold QuietEffects at hquiet
    split at hquiet
    · obtain ⟨timestampEffects, rfl, htimestamp⟩ := hquiet
      rw [List.filter_cons_of_neg (by simp [Effect.history])]
      rcases htimestamp.history with hnone | ⟨hdue, hall⟩
      · exact Or.inl hnone
      · right
        rw [hall]
        exact (if_pos hdue).symm
    · exact Or.inl (by rw [hquiet]; rfl)
    · exact Or.inl (by rw [hquiet]; rfl)
    · exact Or.inl (by rw [hquiet]; rfl)
    · exact hquiet.history
    · obtain ⟨cid, hcid, rfl⟩ := hquiet
      right
      simp only [historyEffects, hcid]
      rfl
    · exact Or.inr (by rw [hquiet]; rfl)
    · exact Or.inr (by rw [hquiet]; rfl)
    · exact Or.inl (by rw [hquiet]; rfl)
    · obtain ⟨refund, hrefund, rfl⟩ := hquiet
      rcases hrefund with rfl | ⟨-, -, source, rfl, rfl⟩
      · exact Or.inl rfl
      · exact Or.inl rfl
    · exact Or.inl (by rw [hquiet]; rfl)
    · exact Or.inl (by rw [hquiet]; rfl)
    · exact Or.inl (by rw [hquiet]; rfl)
    · exact Or.inl (by rw [hquiet]; rfl)
    · obtain ⟨faucet, -, rfl⟩ := hquiet
      exact Or.inl rfl
    · exact Or.inl (by rw [hquiet]; rfl)

end Dispatch

/-! ## The sums -/

variable {s s' : Runtime AccountId} {effects : List (Effect AccountId)} {c : Nat}

def registeredReputations (s : Runtime AccountId) (c : Nat) : Nat :=
  ∑ cid ∈ s.communities.communityIdentifiers.toFinset, s.ceremonies.reputationCount.get (cid, c) 0

def GlobalCountIsSum (s : Runtime AccountId) (c : Nat) : Prop :=
  s.ceremonies.globalReputationCount.get c 0 = registeredReputations s c

instance (s : Runtime AccountId) (c : Nat) : Decidable (GlobalCountIsSum s c) :=
  inferInstanceAs (Decidable (_ = _))

/--
Histories at the index are purged for all registered communities with reputations
or for none, and communities without reputations come and go.
-/
def KeepsSum (s : Runtime AccountId) (effects : List (Effect AccountId)) (c : Nat) : Prop :=
  (∀ cid ∈ effects.filterMap Effect.founded, cid ∉ s.communities.communityIdentifiers →
    s.ceremonies.reputationCount.get (cid, c) 0 = 0) ∧
  ∀ cid ∈ s.communities.communityIdentifiers, s.ceremonies.reputationCount.get (cid, c) 0 ≠ 0 →
    if c ∈ (effects.filterMap Effect.purged).map Prod.snd then
      (cid, c) ∈ effects.filterMap Effect.purged
    else
      cid ∉ effects.filterMap Effect.removed

instance (s : Runtime AccountId) (effects : List (Effect AccountId)) (c : Nat) :
    Decidable (KeepsSum s effects c) :=
  inferInstanceAs (Decidable (_ ∧ _))

section

omit [DecidableEq AccountId]

theorem keepsSum_of_zero (h : ∀ cid, s.ceremonies.reputationCount.get (cid, c) 0 = 0)
    (effects : List (Effect AccountId)) : KeepsSum s effects c := by
  constructor
  · intro cid hfounded hnew
    exact h cid
  · intro cid hmem hne
    exact absurd (h cid) hne

theorem keepsSum_nil (s : Runtime AccountId) (c : Nat) : KeepsSum s [] c := by
  constructor
  · intro cid hmem
    cases hmem
  · intro cid hmem hne
    exact List.not_mem_nil

theorem keepsSum_filter : KeepsSum s (effects.filter Effect.history) c ↔ KeepsSum s effects c := by
  have hfilter {α : Type} (f : Effect AccountId → Option α)
      (hf : ∀ e, e.history = false → f e = none) :
      (effects.filter Effect.history).filterMap f = effects.filterMap f := by
    rw [List.filterMap_filter]
    apply List.filterMap_congr
    intro e he
    split
    · rfl
    · rename_i hfalse
      exact (hf e (Bool.not_eq_true _ ▸ hfalse)).symm
  unfold KeepsSum
  rw [hfilter Effect.founded (by intro e he; cases e <;> first | rfl | cases he),
    hfilter Effect.purged (by intro e he; cases e <;> first | rfl | cases he),
    hfilter Effect.removed (by intro e he; cases e <;> first | rfl | cases he)]

end

theorem CountsAfter.globalCountIsSum (h : CountsAfter s s' effects) (hkeeps : KeepsSum s effects c)
    (hsum : GlobalCountIsSum s c) : GlobalCountIsSum s' c := by
  obtain ⟨hfounded, hregistered⟩ := hkeeps
  unfold GlobalCountIsSum registeredReputations at hsum ⊢
  rw [h.globalReputationCount]
  split
  · rename_i hpurged
    symm
    apply Finset.sum_eq_zero
    intro cid hcid
    rw [List.mem_toFinset] at hcid
    rw [h.reputationCount]
    by_contra hne
    have hzero : s.ceremonies.reputationCount.get (cid, c) 0 ≠ 0 := by
      intro hzero
      rw [hzero, ite_self] at hne
      exact hne rfl
    by_cases hmem : cid ∈ s.communities.communityIdentifiers
    · have hgone := hregistered cid hmem hzero
      rw [if_pos hpurged] at hgone
      rw [if_pos hgone] at hne
      exact hne rfl
    · rcases h.founded cid hcid with hold | hnew
      · exact hmem hold
      · exact hzero (hfounded cid hnew hmem)
  · rename_i hkept
    have hcount (cid : CommunityIdentifier) : s'.ceremonies.reputationCount.get (cid, c) 0 =
        s.ceremonies.reputationCount.get (cid, c) 0 := by
      rw [h.reputationCount, if_neg]
      intro hmem
      exact hkept (List.mem_map.2 ⟨(cid, c), hmem, rfl⟩)
    rw [hsum]
    symm
    apply Finset.sum_congr_of_eq_on_inter
    · intro cid hcid hnot
      rw [List.mem_toFinset] at hcid hnot
      rw [hcount]
      rcases h.founded cid hcid with hold | hnew
      · exact absurd hold hnot
      · exact hfounded cid hnew hnot
    · intro cid hcid hnot
      rw [List.mem_toFinset] at hcid hnot
      by_contra hne
      have hstays := hregistered cid hcid hne
      rw [if_neg hkept] at hstays
      rcases h.removed cid hcid with hafter | hgone
      · exact hnot hafter
      · exact hstays hgone
    · intro cid hcid hcid'
      exact hcount cid

/-- A claim for a registered community adds the same number on both sides. -/
theorem Ceremonies.ClaimEffect.globalCountIsSum {claim : Claim AccountId}
    {participants : List AccountId} (h : ClaimEffect s claim participants)
    (hs : s' = { s with ceremonies := claim.ceremonies, balances := claim.balances })
    (hregistered : claim.cc.1 ∈ s.communities.communityIdentifiers)
    (hsum : GlobalCountIsSum s c) : GlobalCountIsSum s' c := by
  subst hs
  unfold GlobalCountIsSum registeredReputations at hsum ⊢
  simp only [h.globalReputationCount, h.reputationCount]
  rw [Finset.sum_add_distrib, hsum]
  congr 1
  rw [Finset.sum_eq_single_of_mem claim.cc.1 (List.mem_toFinset.2 hregistered)]
  · by_cases hc : c = claim.cc.2
    · rw [if_pos hc, if_pos (by rw [hc])]
    · rw [if_neg hc, if_neg fun hcc => hc (congrArg Prod.snd hcc)]
  · intro cid hcid hne
    rw [if_neg fun hcc => hne (congrArg Prod.fst hcc)]

/-! ## Steps -/

/--
At the index, histories come and go for all registered communities together, and
rewards are claimed for registered communities.
-/
def KeepsCounters (config : Config AccountId) (c : Nat) (chain : Chain AccountId)
    (action : Action AccountId) : Prop :=
  (Dispatch.dispatch config chain.runtime action).isOk = true →
    ClaimCountsBelow chain action ∧
    (c ≤ chain.runtime.scheduler.currentCeremonyIndex →
      KeepsSum chain.runtime (Dispatch.historyEffects config chain.runtime action) c) ∧
    ∀ cc ∈ claimedCeremony chain.runtime action,
      cc.1 ∈ chain.runtime.communities.communityIdentifiers

instance (config : Config AccountId) (c : Nat) (chain : Chain AccountId)
    (action : Action AccountId) : Decidable (KeepsCounters config c chain action) :=
  inferInstanceAs (Decidable (_ → _ ∧ (_ → _) ∧ ∀ cc ∈ claimedCeremony chain.runtime action, _))

omit [DecidableEq AccountId] in
theorem mem_cindexesWithinLifetime : c ∈ cindexesWithinLifetime s ↔
    s.scheduler.currentCeremonyIndex ≤ c + s.ceremonies.reputationLifetime ∧
      c ≤ s.scheduler.currentCeremonyIndex := by
  simp only [cindexesWithinLifetime, List.mem_range'_1]
  omega

theorem SchedulerStorage.index_le_of_time_le {scheduler scheduler' : SchedulerStorage}
    (h : scheduler.time ≤ scheduler'.time) :
    scheduler.currentCeremonyIndex ≤ scheduler'.currentCeremonyIndex := by
  unfold time at h
  have hrank : scheduler'.currentPhase.rank ≤ 2 := by
    cases scheduler'.currentPhase <;> decide
  omega

/-! ## Runs -/

structure CounterInvariant (c : Nat) (chain : Chain AccountId) : Prop where
  reward : RewardInvariant chain
  attested : ReputationsAttested chain.runtime
  earned : ∀ cc, ∀ a ∈ verifiedAccounts chain.runtime.ceremonies cc, (cc, a) ∈ credits chain.trace
  counted : ∀ cc, chain.runtime.ceremonies.reputationCount.get cc 0 =
    (verifiedAccounts chain.runtime.ceremonies cc).card
  sum : GlobalCountIsSum chain.runtime c

namespace CounterInvariant

variable {chain : Chain AccountId} {action : Action AccountId}

theorem genesis (c : Nat) (genesis : GenesisConfig) (nativeBalances : StorageMap AccountId Nat)
    (assetBalances : StorageMap (AccountId × AssetKind) Nat) :
    CounterInvariant c (Chain.genesis genesis nativeBalances assetBalances) := by
  have hinv := ReputationInvariant.genesis genesis nativeBalances assetBalances
  have hempty (cc : CommunityCeremony) :
      verifiedAccounts (genesis.build nativeBalances assetBalances).ceremonies cc = ∅ :=
    verifiedAccounts_eq_empty fun _ => StorageMap.lookup_empty _
  constructor
  · exact RewardInvariant.genesis genesis nativeBalances assetBalances
  · exact hinv.attested
  · intro cc a hmem
    rw [Chain.genesis, hempty] at hmem
    exact absurd hmem (Finset.notMem_empty a)
  · intro cc
    rw [Chain.genesis, hempty]
    rfl
  · rfl

/-- No reputations come from a ceremony that lies in the future. -/
theorem reputationCount_eq_zero (hinv : CounterInvariant c chain)
    (hfuture : chain.runtime.scheduler.currentCeremonyIndex < c) (cid : CommunityIdentifier) :
    chain.runtime.ceremonies.reputationCount.get (cid, c) 0 = 0 := by
  rw [hinv.counted, Finset.card_eq_zero]
  apply Finset.eq_empty_of_forall_notMem
  intro a hmem
  have hattested := hinv.attested (cid, c) a hmem
  have hrank : chain.runtime.scheduler.currentPhase.rank ≤ 2 := by
    cases chain.runtime.scheduler.currentPhase <;> decide
  unfold SchedulerStorage.time at hattested
  omega

theorem claim {observations : List (Observation AccountId)} {claim : Claim AccountId}
    {participants : List AccountId} {next : Chain AccountId} (hinv : CounterInvariant c chain)
    (hreward : RewardInvariant next) (htrace : next.trace = chain.trace ++ observations)
    (hbelow : ClaimCountsBelow chain action)
    (hregistered : ∀ cc ∈ claimedCeremony chain.runtime action,
      cc.1 ∈ chain.runtime.communities.communityIdentifiers)
    (h : Dispatch.Claims chain.runtime next.runtime action observations claim participants) :
    CounterInvariant c next := by
  have heffect := h.effect
  have hagree := hinv.reward.ceremonies.meetupsAgree (hbelow.registeredCountsBelow h)
  obtain ⟨hnodup, hnew⟩ := heffect.credited_new hagree
  have hverified := heffect.verifiedAccounts
  constructor
  · exact hreward
  · exact heffect.attestedReputations hinv.reward.ceremonies hinv.attested h.runtime
  · intro cc a hmem
    rw [htrace, credits_append, h.observations, credits_of_credited, List.mem_append]
    simp only [h.runtime, hverified] at hmem
    split at hmem
    · rename_i hcc
      rcases Finset.mem_union.1 hmem with hold | hcredited
      · exact Or.inl (hinv.earned cc a hold)
      · rw [hcc]
        exact Or.inr (List.mem_map.2 ⟨a, List.mem_toFinset.1 hcredited, rfl⟩)
    · exact Or.inl (hinv.earned cc a hmem)
  · intro cc
    simp only [h.runtime, heffect.reputationCount, hverified, hinv.counted]
    split
    · rename_i hcc
      have hdisjoint : Disjoint (verifiedAccounts chain.runtime.ceremonies cc)
          claim.credited.toFinset := by
        rw [Finset.disjoint_right]
        intro a ha hold
        obtain ⟨k, hk⟩ := mem_credits.1 (hinv.earned cc a hold)
        rw [hcc] at hk
        exact hnew a (List.mem_toFinset.1 ha) k (hinv.reward.recorded _ k a hk)
      rw [Finset.card_union_of_disjoint hdisjoint, List.toFinset_card_of_nodup hnodup]
    · rfl
  · have hcommunity : claim.cc.1 ∈ chain.runtime.communities.communityIdentifiers := by
      obtain ⟨sender, maybeMeetupIndex, haction⟩ := h.call
      apply hregistered
      rw [haction, claimedCeremony, heffect.cindex]
      rfl
    exact heffect.globalCountIsSum h.runtime hcommunity hinv.sum

theorem step (hinv : CounterInvariant c chain) (hkeeps : KeepsCounters config c chain action) :
    CounterInvariant c (chain.step config action) := by
  by_cases hok : (Dispatch.dispatch config chain.runtime action).isOk = true
  · obtain ⟨hbelow, hsum, hregistered⟩ := hkeeps hok
    have hreward : RewardInvariant (chain.step config action) := hinv.reward.step hbelow
    obtain ⟨observations, htrace, hcases⟩ :=
      Chain.step_cases config action hinv.reward.ceremonies.registry
    rcases hcases with ⟨claim, participants, hclaims⟩ | ⟨effects, heffects, hchanges⟩ | ⟨hs, hobs⟩
    · exact hinv.claim hreward htrace hbelow hregistered hclaims
    · have hcounts := hchanges.counts hinv.attested
      constructor
      · exact hreward
      · exact hcounts.attested hinv.attested
      · intro cc a hmem
        rw [htrace, credits_append]
        rw [hcounts.verified] at hmem
        split at hmem
        · exact absurd hmem (Finset.notMem_empty a)
        · exact List.mem_append_left _ (hinv.earned cc a hmem)
      · intro cc
        rw [hcounts.verified, hcounts.reputationCount]
        split
        · rfl
        · exact hinv.counted cc
      · apply hcounts.globalCountIsSum ?_ hinv.sum
        rw [← keepsSum_filter]
        rcases heffects.history with hnone | hall
        · rw [hnone]
          exact keepsSum_nil _ c
        · rw [hall]
          by_cases hcurrent : c ≤ chain.runtime.scheduler.currentCeremonyIndex
          · exact hsum hcurrent
          · exact keepsSum_of_zero (hinv.reputationCount_eq_zero (by omega)) _
    · constructor
      · exact hreward
      · exact hs ▸ hinv.attested
      · rw [hs, htrace, hobs, List.append_nil]
        exact hinv.earned
      · exact hs ▸ hinv.counted
      · exact hs ▸ hinv.sum
  · have hsame : chain.step config action = chain := by
      unfold Chain.step
      split
      · rename_i hdispatch
        rw [hdispatch] at hok
        exact absurd rfl hok
      · rfl
    rw [hsame]
    exact hinv

theorem run (hinv : CounterInvariant c chain) {actions : List (Action AccountId)}
    (hkeeps : Machine.Along (Chain.step config) (KeepsCounters config c) chain actions) :
    CounterInvariant c (chain.run config actions) :=
  Machine.run_invariant (KeepsCounters config c) (CounterInvariant c)
    (fun _ _ h hok => h.step hok) hinv hkeeps

end CounterInvariant

/-! ## Results -/

/-- At the index, counts are numbers of reputations, and the global count is their sum. -/
structure CountersAreSums (s : Runtime AccountId) (c : Nat) : Prop where
  reputationCount : ∀ cid,
    s.ceremonies.reputationCount.get (cid, c) 0 = (verifiedAccounts s.ceremonies (cid, c)).card
  globalReputationCount : GlobalCountIsSum s c

/--
Counters are sums at every index where a run purges no history while others keep theirs. This
includes all indices within the reputation lifetime, and those that a longer lifetime brings back.
-/
theorem Ceremonies.counters_are_sums (config : Config AccountId) (genesis : GenesisConfig)
    (nativeBalances : StorageMap AccountId Nat)
    (assetBalances : StorageMap (AccountId × AssetKind) Nat) (actions : List (Action AccountId))
    (c : Nat) (hkeeps : Machine.Along (Chain.step config) (KeepsCounters config c)
      (Chain.genesis genesis nativeBalances assetBalances) actions) :
    CountersAreSums ((Chain.genesis genesis nativeBalances assetBalances).run config
      actions).runtime c := by
  have hinv : CounterInvariant c
      ((Chain.genesis genesis nativeBalances assetBalances).run config actions) :=
    (CounterInvariant.genesis c genesis nativeBalances assetBalances).run hkeeps
  constructor
  · intro cid
    exact hinv.counted (cid, c)
  · exact hinv.sum

theorem Ceremonies.counters_are_sums_secondCeremony :
    CountersAreSums (Demo.start.run Demo.runtimeConfig Demo.secondCeremony).runtime 1 ∧
      CountersAreSums (Demo.start.run Demo.runtimeConfig Demo.secondCeremony).runtime 2 :=
  ⟨Ceremonies.counters_are_sums Demo.runtimeConfig Demo.genesis ∅ ∅ Demo.secondCeremony 1
      (by decide +kernel),
    Ceremonies.counters_are_sums Demo.runtimeConfig Demo.genesis ∅ ∅ Demo.secondCeremony 2
      (by decide +kernel)⟩

/-- A second community that is inactive goes when the assigning phase starts. -/
def Demo.oneInactive : List (Action Nat) :=
  firstCeremony ++ [newDay 4, newCommunity mainland [11, 12, 13], .setInactivityTimeout 0, newDay 5]

theorem Ceremonies.global_count_is_not_sum :
    ¬ ∀ c ∈ cindexesWithinLifetime (Demo.start.run Demo.runtimeConfig Demo.oneInactive).runtime,
      CountersAreSums (Demo.start.run Demo.runtimeConfig Demo.oneInactive).runtime c := by
  have hcindex : 1 ∈ cindexesWithinLifetime
      (Demo.start.run Demo.runtimeConfig Demo.oneInactive).runtime := by
    decide +kernel
  have hsum : ¬ GlobalCountIsSum (Demo.start.run Demo.runtimeConfig Demo.oneInactive).runtime 1 := by
    decide +kernel
  intro h
  exact hsum (h 1 hcindex).globalReputationCount

end Encointer
