import Encointer.Democracy.VoteSpecs
import Encointer.Library.SpendOnce

/-!
# Commitments are made once

A commitment is purged only together with the reputation that it is about, after
which nobody can earn that reputation any more. So no commitment is made twice,
by a user, a faucet or a vote. Purpose identifiers are handed out in order.
-/

namespace Encointer

open Ceremonies

variable {AccountId : Type} [DecidableEq AccountId] {config : Config AccountId}
  {s s' s'' : Runtime AccountId}

/-! ## Histories that are over -/

structure HistoryOver (s : Runtime AccountId) (cc : CommunityCeremony) : Prop where
  past : 3 * cc.2 + 3 ≤ s.scheduler.time
  meetupCount : s.ceremonies.meetupCount.get cc 0 = 0
  verified : verifiedAccounts s.ceremonies cc = ∅

theorem HistoryGone.over {cc : CommunityCeremony} (h : HistoryGone s cc) : HistoryOver s cc :=
  ⟨h.past, h.meetupCount, verifiedAccounts_eq_empty h.participantReputation⟩

theorem HistoryOver.change {effects : List (Effect AccountId)} {cc : CommunityCeremony}
    (hinv : ReputationInvariant s) (hover : HistoryOver s cc) (h : Change config s effects s') :
    HistoryOver s' cc := by
  have hcounts := h.counts hinv.attested
  have hpast := hover.past
  constructor
  · exact hpast.trans hcounts.time
  · cases h.meetupsChange hinv.ceremonies.registry cc with
    | same hsame => exact hsame.meetupCount.trans hover.meetupCount
    | registration opened hmeetupCount =>
        rw [hmeetupCount]
        exact hover.meetupCount
    | purged hzero => exact hzero
    | assigned htime hvalid => omega
  · rw [hcounts.verified, hover.verified, ite_self]

theorem HistoryOver.claim {cc : CommunityCeremony} (hover : HistoryOver s cc)
    {claim : Claim AccountId}
    {participants : List AccountId} (heffect : ClaimEffect s claim participants)
    (hs : s' = { s with ceremonies := claim.ceremonies, balances := claim.balances }) :
    HistoryOver s' cc := by
  subst hs
  have hne : cc ≠ claim.cc := by
    intro hcc
    have hpos := heffect.meetupCount_pos
    rw [← hcc, hover.meetupCount] at hpos
    omega
  constructor
  · exact hover.past
  · rw [heffect.meetupCount]
    exact hover.meetupCount
  · rw [heffect.verifiedAccounts, if_neg hne]
    exact hover.verified

/-! ## Commitments that were made -/

/-- A commitment: the ceremony of a reputation, the purpose and the account. -/
abbrev Commitment (AccountId : Type) := CommunityCeremony × (Nat × AccountId)

def Spent (s : Runtime AccountId) (k : Commitment AccountId) : Prop :=
  s.commitments.commitments.contains k = true ∨ HistoryOver s k.1

theorem Spent.of_contains {k : Commitment AccountId} (h : Spent s k)
    (hkept : s.commitments.commitments.contains k = true →
      s'.commitments.commitments.contains k = true)
    (hover : HistoryOver s k.1 → HistoryOver s' k.1) : Spent s' k := by
  rcases h with hmade | hgone
  · exact Or.inl (hkept hmade)
  · exact Or.inr (hover hgone)

theorem not_spent {k : Commitment AccountId}
    (hunused : s.commitments.commitments.contains k = false)
    (hverified : k.2.2 ∈ verifiedAccounts s.ceremonies k.1) : ¬ Spent s k := by
  intro hspent
  rcases hspent with hmade | hgone
  · rw [hunused] at hmade
    cases hmade
  · rw [hgone.verified] at hverified
    exact Finset.notMem_empty _ hverified

def Effect.commitment : Effect AccountId → Option (Commitment AccountId)
  | .commit cc purpose account => some (cc, (purpose, account))
  | _ => none

def Effect.isVote : Effect AccountId → Bool
  | .vote .. => true
  | _ => false

theorem Change.spendsOnce {effects : List (Effect AccountId)} (hinv : ReputationInvariant s)
    (h : Change config s effects s') (hother : ∀ e ∈ effects, e.isVote = false) :
    SpendsOnce (Spent s) (Spent s') (effects.filterMap Effect.commitment) := by
  have hover (cc : CommunityCeremony) (hcc : HistoryOver s cc) : HistoryOver s' cc :=
    hcc.change hinv h
  have hsame (hcommitments : s'.commitments.commitments = s.commitments.commitments)
      (k : Commitment AccountId) (hk : Spent s k) : Spent s' k := by
    apply hk.of_contains ?_ (hover k.1)
    intro hmade
    rw [hcommitments]
    exact hmade
  cases h with
  | registerPurpose descriptor commitments purpose registered =>
      exact .of_nil (hsame (Commitments.doRegisterPurpose_spec registered).2.2)
  | commit account cid cindex purpose commitmentHash commitments committed =>
      obtain ⟨hverified, hunused, rfl⟩ := Commitments.doCommitReputation_spec committed
      apply SpendsOnce.singleton
      · exact not_spent hunused (mem_verifiedAccounts.2 hverified)
      · intro k hk
        apply hk.of_contains ?_ (hover k.1)
        intro hmade
        rw [StorageMap.contains_insert, hmade, Bool.or_true]
      · left
        rw [StorageMap.contains_insert, decide_eq_true rfl, Bool.true_or]
  | forgetCommitments cindex gone =>
      apply SpendsOnce.of_nil
      intro k hk
      rcases hk with hmade | hgone
      · rcases Commitments.contains_purgeRegistry hmade with hkept | hmem
        · exact Or.inl hkept
        · right
          obtain ⟨cid, hcid, hcc⟩ := List.mem_map.1 hmem
          rw [← hcc]
          exact hover _ (gone cid hcid).over
      · exact Or.inr (hover k.1 hgone)
  | submit action commitments democracy submitted =>
      obtain ⟨cindexes, purposeId, heffect⟩ := Democracy.submitProposal_spec submitted
      exact .of_nil (hsame (Commitments.doRegisterPurpose_spec heffect.purpose).2.2)
  | vote => exact absurd (hother _ List.mem_cons_self) (by simp [Effect.isVote])
  | _ => exact .of_nil (hsame rfl)

theorem Changes.spendsOnce {effects : List (Effect AccountId)} (hinv : ReputationInvariant s)
    (h : Changes config s effects s') (hother : ∀ e ∈ effects, e.isVote = false) :
    SpendsOnce (Spent s) (Spent s') (effects.filterMap Effect.commitment) := by
  induction h with
  | refl => exact SpendsOnce.refl _
  | tail hbefore hchange ih =>
      rw [List.filterMap_append]
      have hspends := ih fun e he => hother e (List.mem_append_left _ he)
      exact hspends.trans (hchange.spendsOnce (hinv.changes hbefore) fun e he =>
        hother e (List.mem_append_right _ he))

/-- A vote commits the reputations that it counts. -/
theorem Democracy.VoteEffect.spendsOnce {proposalId : Nat} {sender : AccountId}
    {reputations counted : List CommunityCeremony} {commitments : CommitmentsStorage AccountId}
    {democracy : DemocracyStorage AccountId} {proposal : Proposal AccountId} {tally : Tally}
    {purposeId : Nat}
    (h : VoteEffect config s proposalId sender reputations counted commitments democracy proposal
      tally purposeId) :
    SpendsOnce (Spent s) (Spent { s with commitments := commitments, democracy := democracy })
      (counted.map fun cc => (cc, (purposeId, sender))) := by
  constructor
  · exact h.nodup.map fun cc cc' hcc => congrArg Prod.fst hcc
  · intro k hk
    obtain ⟨cc, hmem, rfl⟩ := List.mem_map.1 hk
    obtain ⟨cindexes, -, hcommitted⟩ := h.committed cc hmem
    exact not_spent hcommitted.unused hcommitted.verified
  · intro k hk
    exact hk.of_contains (h.grows k) fun hover => ⟨hover.past, hover.meetupCount, hover.verified⟩
  · intro k hk
    obtain ⟨cc, hmem, rfl⟩ := List.mem_map.1 hk
    obtain ⟨cindexes, -, hcommitted⟩ := h.committed cc hmem
    exact Or.inl hcommitted.used

/-! ## Purposes -/

def Effect.isPurpose : Effect AccountId → Bool
  | .registerPurpose _ | .submit _ => true
  | _ => false

/-- Purposes are counted by the next identifier. -/
theorem Change.currentPurposeId {effects : List (Effect AccountId)}
    (h : Change config s effects s') :
    s'.commitments.currentPurposeId =
      s.commitments.currentPurposeId + effects.countP Effect.isPurpose := by
  cases h with
  | registerPurpose descriptor commitments purpose registered =>
      exact (Commitments.doRegisterPurpose_spec registered).2.1
  | commit account cid cindex purpose commitmentHash commitments committed =>
      obtain ⟨-, -, rfl⟩ := Commitments.doCommitReputation_spec committed
      rfl
  | submit action commitments democracy submitted =>
      obtain ⟨cindexes, purposeId, heffect⟩ := Democracy.submitProposal_spec submitted
      exact (Commitments.doRegisterPurpose_spec heffect.purpose).2.1
  | vote sender proposalId vote reputations commitments democracy counted voted =>
      obtain ⟨proposal, tally, purposeId, heffect⟩ := Democracy.vote_spec voted
      exact heffect.currentPurposeId
  | _ => rfl

theorem Changes.currentPurposeId {effects : List (Effect AccountId)}
    (h : Changes config s effects s') :
    s'.commitments.currentPurposeId =
      s.commitments.currentPurposeId + effects.countP Effect.isPurpose := by
  induction h with
  | refl => rfl
  | tail hbefore hchange ih => rw [hchange.currentPurposeId, ih, List.countP_append, Nat.add_assoc]

theorem spendsOnce_range (start n : Nat) :
    SpendsOnce (fun purpose => purpose < start) (fun purpose => purpose < start + n)
      (List.range' start n) := by
  constructor
  · exact List.nodup_range'
  · intro purpose hmem hlt
    rw [List.mem_range'_1] at hmem
    omega
  · intro purpose hlt
    omega
  · intro purpose hmem
    exact (List.mem_range'_1.1 hmem).2

/-! ## Traces -/

def Observation.commitment : Observation AccountId → Option (Commitment AccountId)
  | .committed cc purpose account => some (cc, (purpose, account))
  | _ => none

def Observation.purpose : Observation AccountId → Option Nat
  | .purposeRegistered purpose => some purpose
  | _ => none

def commitmentsOf (trace : List (Observation AccountId)) : List (Commitment AccountId) :=
  trace.filterMap Observation.commitment

def purposesOf (trace : List (Observation AccountId)) : List Nat :=
  trace.filterMap Observation.purpose

/-- What the trace tells about commitments and purposes, unless the action is a vote. -/
theorem Dispatch.ActionEffects.commitments {action : Action AccountId}
    {observations : List (Observation AccountId)} {effects : List (Effect AccountId)}
    (h : ActionEffects config s action observations effects)
    (hvote : ∀ sender proposalId v reputations, action ≠ .vote sender proposalId v reputations) :
    commitmentsOf observations = effects.filterMap Effect.commitment ∧
      purposesOf observations =
        List.range' s.commitments.currentPurposeId (effects.countP Effect.isPurpose) := by
  unfold ActionEffects at h
  split at h
  · rename_i proof
    obtain ⟨t, -, rfl, rfl⟩ := h
    cases proof <;> exact ⟨rfl, rfl⟩
  · obtain ⟨t, rfl, rfl⟩ := h
    exact ⟨rfl, rfl⟩
  · obtain ⟨ticket, t, -, hticket, rfl, rfl⟩ := h
    cases hticket <;> cases t <;> exact ⟨rfl, rfl⟩
  · obtain ⟨proposalId, cindexes, rfl, -, rfl⟩ := h
    exact ⟨rfl, rfl⟩
  · exact absurd rfl (hvote _ _ _ _)
  · rename_i hsubmit _
    obtain ⟨hquiet, hobs⟩ := h
    have hkept := hobs
    unfold commitmentObservations at hobs
    split at hobs
    · obtain rfl := hquiet
      rw [hobs]
      exact ⟨rfl, rfl⟩
    · obtain rfl := hquiet
      rw [hobs]
      exact ⟨rfl, rfl⟩
    · obtain rfl := hquiet
      rw [hobs]
      exact ⟨rfl, rfl⟩
    · obtain ⟨faucet, hfaucet, rfl⟩ := hquiet
      rw [hobs, hfaucet]
      exact ⟨rfl, rfl⟩
    · rw [hobs] at hkept ⊢
      have hnone (e : Effect AccountId) (he : e ∈ effects) :
          e.commitment = none ∧ e.isPurpose = false := by
        have hmay := hquiet.mayCause he
        cases e with
        | commit cc purpose account =>
            rw [MayCause, ← hkept] at hmay
            cases hmay
        | registerPurpose purpose =>
            rw [MayCause, ← hkept] at hmay
            cases hmay
        | submit proposalId =>
            obtain ⟨proposalAction, haction⟩ := hmay
            exact absurd haction (hsubmit proposalAction)
        | _ => exact ⟨rfl, rfl⟩
      constructor
      · exact (List.filterMap_eq_nil_iff.2 fun e he => (hnone e he).1).symm
      · have hcount : effects.countP Effect.isPurpose = 0 := by
          rw [List.countP_eq_zero]
          intro e he
          rw [(hnone e he).2]
          exact Bool.false_ne_true
        rw [hcount]
        rfl

/-! ## Steps -/

/-- What a step commits and registers; histories that are over stay so. -/
structure StepSpends (chain next : Chain AccountId) (observations : List (Observation AccountId)) :
    Prop where
  trace : next.trace = chain.trace ++ observations
  commitments : SpendsOnce (Spent chain.runtime) (Spent next.runtime) (commitmentsOf observations)
  purposes : SpendsOnce (fun purpose => purpose < chain.runtime.commitments.currentPurposeId)
    (fun purpose => purpose < next.runtime.commitments.currentPurposeId) (purposesOf observations)
  histories : ∀ cc, HistoryOver chain.runtime cc → HistoryOver next.runtime cc

theorem HistoryOver.changes {effects : List (Effect AccountId)} {cc : CommunityCeremony}
    (hinv : ReputationInvariant s) (hover : HistoryOver s cc) (h : Changes config s effects s') :
    HistoryOver s' cc := by
  induction h with
  | refl => exact hover
  | tail hbefore hchange ih => exact ih.change (hinv.changes hbefore) hchange

section

omit [DecidableEq AccountId]

theorem commitmentsOf_eq_nil {observations : List (Observation AccountId)}
    (h : ∀ observation ∈ observations, observation.commitment = none) :
    commitmentsOf observations = [] := List.filterMap_eq_nil_iff.2 h

theorem purposesOf_eq_nil {observations : List (Observation AccountId)}
    (h : ∀ observation ∈ observations, observation.purpose = none) :
    purposesOf observations = [] := List.filterMap_eq_nil_iff.2 h

theorem commitmentsOf_vote (proposalId purposeId : Nat) (sender : AccountId)
    (counted : List CommunityCeremony) :
    commitmentsOf ((counted.map fun cc => .counted proposalId sender cc) ++
      counted.map fun cc => .committed cc purposeId sender) =
        counted.map fun cc => (cc, (purposeId, sender)) := by
  have hcounted : commitmentsOf (counted.map fun cc =>
      Observation.counted proposalId sender cc) = [] := by
    apply commitmentsOf_eq_nil
    intro observation hmem
    obtain ⟨cc, -, rfl⟩ := List.mem_map.1 hmem
    rfl
  unfold commitmentsOf at hcounted ⊢
  rw [List.filterMap_append, hcounted, List.nil_append, List.filterMap_map]
  clear hcounted
  induction counted with
  | nil => rfl
  | cons cc counted ih => exact congrArg ((cc, (purposeId, sender)) :: ·) ih

private theorem purposesOf_vote (proposalId purposeId : Nat) (sender : AccountId)
    (counted : List CommunityCeremony) :
    purposesOf ((counted.map fun cc => Observation.counted proposalId sender cc) ++
      counted.map fun cc => .committed cc purposeId sender) = [] := by
  apply purposesOf_eq_nil
  intro observation hmem
  rcases List.mem_append.1 hmem with hmem | hmem
  · obtain ⟨cc, -, rfl⟩ := List.mem_map.1 hmem
    rfl
  · obtain ⟨cc, -, rfl⟩ := List.mem_map.1 hmem
    rfl

end

theorem StepSpends.vote {chain : Chain AccountId} (hinv : ReputationInvariant chain.runtime)
    {sender : AccountId} {proposalId : Nat} {v : Vote} {reputations : List CommunityCeremony}
    {next : Chain AccountId} {observations : List (Observation AccountId)}
    (htrace : next.trace = chain.trace ++ observations)
    (h : Dispatch.Outcome config chain.runtime (.vote sender proposalId v reputations) next.runtime
      observations) : StepSpends chain next observations := by
  obtain ⟨commitments, democracy, counted, purposeId, hvote, hpurpose, hs, rfl⟩ := h.vote_inv
  obtain ⟨proposal, tally, purposeId', heffect⟩ := Democracy.vote_spec hvote
  obtain rfl : purposeId' = purposeId :=
    Option.some.inj (heffect.hasPurpose.symm.trans hpurpose)
  have hchange : Change config chain.runtime _ _ :=
    .vote sender proposalId v reputations commitments democracy counted hvote
  constructor
  · exact htrace
  · rw [commitmentsOf_vote, hs]
    exact heffect.spendsOnce
  · rw [purposesOf_vote, hs]
    show SpendsOnce _ (fun purpose => purpose < commitments.currentPurposeId) []
    rw [heffect.currentPurposeId]
    exact SpendsOnce.refl _
  · intro cc hover
    rw [hs]
    exact hover.change hinv hchange

/-- No step commits a reputation, or registers a purpose, for a second time. -/
theorem Chain.stepSpends (config : Config AccountId) {chain : Chain AccountId}
    (action : Action AccountId) (hinv : ReputationInvariant chain.runtime) :
    ∃ observations, StepSpends chain (chain.step config action) observations := by
  rcases Chain.step_outcome config chain action with ⟨observations, htrace, houtcome⟩ | hsame
  · refine ⟨observations, ?_⟩
    by_cases hvote : ∃ sender proposalId v reputations,
        action = .vote sender proposalId v reputations
    · obtain ⟨sender, proposalId, v, reputations, rfl⟩ := hvote
      exact StepSpends.vote hinv htrace houtcome
    · rcases houtcome.claims_or_changes hinv.ceremonies.registry with
        ⟨claim, participants, hclaims⟩ | ⟨effects, heffects, hchanges⟩
      · have hover (cc : CommunityCeremony) (hcc : HistoryOver chain.runtime cc) :
            HistoryOver (chain.step config action).runtime cc :=
          hcc.claim hclaims.effect hclaims.runtime
        have hcommitments : (chain.step config action).runtime.commitments =
            chain.runtime.commitments := by
          rw [hclaims.runtime]
        constructor
        · exact htrace
        · rw [commitmentsOf_eq_nil (by
            intro observation hmem
            rw [hclaims.observations] at hmem
            obtain ⟨a, -, rfl⟩ := List.mem_map.1 hmem
            rfl)]
          apply SpendsOnce.of_nil
          intro k hk
          apply hk.of_contains ?_ (hover k.1)
          intro hmade
          rw [hcommitments]
          exact hmade
        · rw [hcommitments, purposesOf_eq_nil (by
            intro observation hmem
            rw [hclaims.observations] at hmem
            obtain ⟨a, -, rfl⟩ := List.mem_map.1 hmem
            rfl)]
          exact SpendsOnce.refl _
        · exact hover
      · have hother : ∀ sender proposalId v reputations,
            action ≠ .vote sender proposalId v reputations := by
          intro sender proposalId v reputations haction
          exact hvote ⟨sender, proposalId, v, reputations, haction⟩
        obtain ⟨hcommitments, hpurposes⟩ := heffects.commitments hother
        constructor
        · exact htrace
        · rw [hcommitments]
          apply hchanges.spendsOnce hinv
          intro e he
          have hmay := heffects.mayCause he
          cases e with
          | vote proposalId sender counted =>
              obtain ⟨v, reputations, haction⟩ := hmay
              exact absurd haction (hother _ _ _ _)
          | _ => rfl
        · rw [hpurposes, hchanges.currentPurposeId]
          exact spendsOnce_range _ _
        · intro cc hover
          exact hover.changes hinv hchanges
  · refine ⟨[], ?_⟩
    rw [hsame]
    constructor
    · exact (List.append_nil _).symm
    · exact SpendsOnce.refl _
    · exact SpendsOnce.refl _
    · intro cc hover
      exact hover

/-! ## Runs -/

structure CommitmentInvariant (chain : Chain AccountId) : Prop where
  reputations : ReputationInvariant chain.runtime
  once : (commitmentsOf chain.trace).Nodup
  spent : ∀ k ∈ commitmentsOf chain.trace, Spent chain.runtime k
  purposes : (purposesOf chain.trace).Nodup
  handedOut : ∀ purpose ∈ purposesOf chain.trace,
    purpose < chain.runtime.commitments.currentPurposeId

namespace CommitmentInvariant

variable {chain : Chain AccountId}

theorem genesis (genesis : GenesisConfig) (nativeBalances : StorageMap AccountId Nat)
    (assetBalances : StorageMap (AccountId × AssetKind) Nat) :
    CommitmentInvariant (Chain.genesis genesis nativeBalances assetBalances) where
  reputations := ReputationInvariant.genesis genesis nativeBalances assetBalances
  once := List.nodup_nil
  spent := by
    intro k hk
    cases hk
  purposes := List.nodup_nil
  handedOut := by
    intro purpose hpurpose
    cases hpurpose

theorem step (action : Action AccountId) (hinv : CommitmentInvariant chain) :
    CommitmentInvariant (chain.step config action) := by
  obtain ⟨observations, hstep⟩ := Chain.stepSpends config action hinv.reputations
  have hcommitments : commitmentsOf (chain.step config action).trace =
      commitmentsOf chain.trace ++ commitmentsOf observations := by
    rw [hstep.trace]
    exact List.filterMap_append
  have hpurposes : purposesOf (chain.step config action).trace =
      purposesOf chain.trace ++ purposesOf observations := by
    rw [hstep.trace]
    exact List.filterMap_append
  constructor
  · exact hinv.reputations.step action
  · rw [hcommitments]
    exact hstep.commitments.nodup_append hinv.once hinv.spent
  · rw [hcommitments]
    exact hstep.commitments.spent_append hinv.spent
  · rw [hpurposes]
    exact hstep.purposes.nodup_append hinv.purposes hinv.handedOut
  · rw [hpurposes]
    exact hstep.purposes.spent_append hinv.handedOut

theorem run (hinv : CommitmentInvariant chain) (actions : List (Action AccountId)) :
    CommitmentInvariant (chain.run config actions) :=
  Machine.run_invariant_of_step CommitmentInvariant (fun _ action h => h.step action) hinv actions

end CommitmentInvariant

/-- Over a whole run, spent commitments stay spent, and histories that are over stay so. -/
theorem Chain.run_spends {chain : Chain AccountId} (hinv : ReputationInvariant chain.runtime)
    (actions : List (Action AccountId)) :
    (∀ k, Spent chain.runtime k → Spent (chain.run config actions).runtime k) ∧
      ∀ cc, HistoryOver chain.runtime cc → HistoryOver (chain.run config actions).runtime cc := by
  induction actions generalizing chain with
  | nil => exact ⟨fun _ h => h, fun _ h => h⟩
  | cons action rest ih =>
      obtain ⟨observations, hstep⟩ := Chain.stepSpends config action hinv
      obtain ⟨hspent, hover⟩ := ih (hinv.step action)
      constructor
      · intro k hk
        exact hspent k (hstep.commitments.grows k hk)
      · intro cc hcc
        exact hover cc (hstep.histories cc hcc)

/--
No run commits a reputation to a purpose twice, or hands out a purpose twice.
When a commitment was purged, the reputations of its ceremony are gone for good.
-/
theorem Commitments.commit_at_most_once (config : Config AccountId) (genesis : GenesisConfig)
    (nativeBalances : StorageMap AccountId Nat)
    (assetBalances : StorageMap (AccountId × AssetKind) Nat) (actions : List (Action AccountId)) :
    let start := Chain.genesis genesis nativeBalances assetBalances
    let chain := start.run config actions
    (commitmentsOf chain.trace).Nodup ∧ (purposesOf chain.trace).Nodup ∧
      ∀ before between after, actions = before ++ between ++ after → ∀ k : Commitment AccountId,
        (start.run config before).runtime.commitments.commitments.contains k = true →
        (start.run config
          (before ++ between)).runtime.commitments.commitments.contains k = false →
        ∀ a, (participantReputation chain.runtime.ceremonies k.1 a).isVerified = false := by
  intro start chain
  have hgenesis := CommitmentInvariant.genesis genesis nativeBalances assetBalances
  have hinv : CommitmentInvariant chain := hgenesis.run actions
  refine ⟨hinv.once, hinv.purposes, ?_⟩
  intro before between after hactions k hmade hpurged a
  have hbefore : ReputationInvariant (start.run config before).runtime :=
    (hgenesis.run before).reputations
  have hbetween : ReputationInvariant (start.run config (before ++ between)).runtime :=
    (hgenesis.run (before ++ between)).reputations
  have hspent : Spent (start.run config (before ++ between)).runtime k := by
    unfold Chain.run at hbefore ⊢
    rw [Machine.run_append]
    exact (Chain.run_spends hbefore between).1 k (Or.inl hmade)
  rcases hspent with hstill | hover
  · rw [hpurged] at hstill
    cases hstill
  · have hend : HistoryOver chain.runtime k.1 := by
      show HistoryOver (start.run config actions).runtime k.1
      rw [hactions]
      unfold Chain.run at hbetween hover ⊢
      rw [Machine.run_append]
      exact (Chain.run_spends hbetween after).2 k.1 hover
    have hempty := hend.verified
    by_contra hverified
    have hmem : a ∈ verifiedAccounts chain.runtime.ceremonies k.1 :=
      mem_verifiedAccounts.2 (Bool.not_eq_false _ ▸ hverified)
    rw [hempty] at hmem
    exact Finset.notMem_empty a hmem

end Encointer
