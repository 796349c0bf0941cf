import Encointer.Ceremonies.Inactivity

/-!
# Who writes swap options

Only the swaps of their owners and the enactment of a proposal write swap
options. All other actions leave them as they are.
-/

namespace Encointer

open Dispatch

variable {AccountId : Type} [DecidableEq AccountId] {config : Config AccountId}
  {s s' : Runtime AccountId}

structure SameOptions (t t' : TreasuriesStorage AccountId) : Prop where
  native : t'.swapNativeOptions = t.swapNativeOptions
  asset : t'.swapAssetOptions = t.swapAssetOptions

omit [DecidableEq AccountId] in
theorem SameOptions.refl (t : TreasuriesStorage AccountId) : SameOptions t t := ⟨rfl, rfl⟩

omit [DecidableEq AccountId] in
theorem SameOptions.of_eq {t t' : TreasuriesStorage AccountId} (h : t' = t) : SameOptions t t' := by
  rw [h]
  exact .refl t

namespace Faucet

private theorem createFaucet_options {sender : AccountId} {name : PalletString} {amount : Nat}
    {whitelist : Option (List CommunityIdentifier)} {dripAmount : Nat}
    {commitments : CommitmentsStorage AccountId} {treasuries : TreasuriesStorage AccountId}
    {faucet : FaucetStorage AccountId}
    (h : createFaucet config s sender name amount whitelist dripAmount =
      .ok (commitments, treasuries, faucet)) : SameOptions s.treasuries treasuries := by
  simp only [createFaucet, bind_eq_ok, okOr_eq_ok, ensure_eq_ok, ok_inj, Prod.mk.injEq,
    exists_const] at h
  obtain ⟨-, -, -, -, -, _, -, _, -, -, _, -, -, rfl, -⟩ := h
  exact ⟨rfl, rfl⟩

private theorem drip_options {sender faucetAccount : AccountId} {cid : CommunityIdentifier}
    {cindex : Nat}
    {commitments : CommitmentsStorage AccountId} {treasuries : TreasuriesStorage AccountId}
    (h : drip config s sender faucetAccount cid cindex = .ok (commitments, treasuries)) :
    SameOptions s.treasuries treasuries := by
  simp only [drip, bind_eq_ok, okOr_eq_ok, ensure_eq_ok, ok_inj, Prod.mk.injEq] at h
  obtain ⟨_, -, _, -, _, -, _, -, -, rfl⟩ := h
  exact ⟨rfl, rfl⟩

theorem removeFaucet_options {faucet : Faucet AccountId} {faucetAccount beneficiary : AccountId}
    {treasuries : TreasuriesStorage AccountId} {storage : FaucetStorage AccountId}
    (h : removeFaucet config s faucet faucetAccount beneficiary = .ok (treasuries, storage)) :
    SameOptions s.treasuries treasuries := by
  simp only [removeFaucet, bind_eq_ok, okOr_eq_ok, ok_inj, Prod.mk.injEq] at h
  obtain ⟨_, -, rfl, -⟩ := h
  exact ⟨rfl, rfl⟩

end Faucet

def IsSwap : Action AccountId → Prop
  | .swapNative .. | .swapAsset .. => True
  | _ => False

theorem dispatchQuiet_options {action : Action AccountId} (hphase : ¬ MayChangePhase action)
    (hswap : ¬ IsSwap action) (h : dispatchQuiet config s action = .ok s') :
    SameOptions s.treasuries s'.treasuries := by
  cases action with
  | beginBlock now random => exact absurd trivial hphase
  | nextPhase random => exact absurd trivial hphase
  | swapNative sender cid amount => exact absurd trivial hswap
  | swapAsset sender cid amount => exact absurd trivial hswap
  | createFaucet sender name amount whitelist dripAmount =>
      simp only [dispatchQuiet, bind_eq_ok, ok_inj] at h
      obtain ⟨⟨commitments, treasuries, faucet⟩, hcreate, rfl⟩ := h
      exact Faucet.createFaucet_options hcreate
  | drip sender faucetAccount cid cindex =>
      simp only [dispatchQuiet, bind_eq_ok, ok_inj] at h
      obtain ⟨⟨commitments, treasuries⟩, hdrip, rfl⟩ := h
      exact Faucet.drip_options hdrip
  | dissolveFaucet faucetAccount beneficiary =>
      simp only [dispatchQuiet, Faucet.dissolveFaucet, bind_eq_ok, ok_inj] at h
      obtain ⟨⟨treasuries, faucet⟩, ⟨_, -, hremove⟩, rfl⟩ := h
      exact Faucet.removeFaucet_options hremove
  | closeFaucet sender faucetAccount =>
      simp only [dispatchQuiet, Faucet.closeFaucet, bind_eq_ok, ok_inj] at h
      obtain ⟨⟨treasuries, faucet⟩, ⟨_, -, _, -, _, -, hremove⟩, rfl⟩ := h
      exact Faucet.removeFaucet_options hremove
  | _ =>
      apply SameOptions.of_eq
      simp only [dispatchQuiet, bind_eq_ok, ok_inj] at h
      grind

/-! ## Enactment -/

namespace Democracy

def issuesNativeOption (cid : CommunityIdentifier) (owner : AccountId) :
    ProposalAction AccountId → Bool
  | .issueSwapNativeOption cid' owner' _ => cid' = cid ∧ owner' = owner
  | _ => false

def issuesAssetOption (cid : CommunityIdentifier) (owner : AccountId) :
    ProposalAction AccountId → Bool
  | .issueSwapAssetOption cid' owner' _ => cid' = cid ∧ owner' = owner
  | _ => false

def Queues (democracy : DemocracyStorage AccountId) (issues : ProposalAction AccountId → Bool) :
    Prop :=
  ∃ proposalId ∈ queued democracy,
    (democracy.proposals.lookup proposalId).any (fun proposal => issues proposal.action) = true

instance (democracy : DemocracyStorage AccountId) (issues : ProposalAction AccountId → Bool) :
    Decidable (Queues democracy issues) :=
  inferInstanceAs (Decidable (∃ proposalId ∈ queued democracy, _))

theorem enactAction_options (cid : CommunityIdentifier) (owner : AccountId)
    (s : Runtime AccountId) (action : ProposalAction AccountId) :
    (issuesNativeOption cid owner action = false →
      (enactAction config s action).1.treasuries.swapNativeOptions.lookup (cid, owner) =
        s.treasuries.swapNativeOptions.lookup (cid, owner)) ∧
    (issuesAssetOption cid owner action = false →
      (enactAction config s action).1.treasuries.swapAssetOptions.lookup (cid, owner) =
        s.treasuries.swapAssetOptions.lookup (cid, owner)) := by
  cases action with
  | issueSwapNativeOption cid' owner' option =>
      refine ⟨fun h => ?_, fun _ => rfl⟩
      have hne : (cid, owner) ≠ (cid', owner') := by
        rintro ⟨⟩
        simp [issuesNativeOption] at h
      exact (StorageMap.lookup_insert_eq _ _ _ _).trans (if_neg hne)
  | issueSwapAssetOption cid' owner' option =>
      refine ⟨fun _ => rfl, fun h => ?_⟩
      have hne : (cid, owner) ≠ (cid', owner') := by
        rintro ⟨⟩
        simp [issuesAssetOption] at h
      exact (StorageMap.lookup_insert_eq _ _ _ _).trans (if_neg hne)
  | spendNative maybeCid beneficiary amount =>
      simp only [enactAction]
      split
      · exact ⟨fun _ => rfl, fun _ => rfl⟩
      · rename_i treasuries hspend
        simp only [Treasuries.doSpendNative, bind_eq_ok, ok_inj] at hspend
        obtain ⟨_, -, rfl⟩ := hspend
        exact ⟨fun _ => rfl, fun _ => rfl⟩
  | spendAsset maybeCid beneficiary amount assetId =>
      simp only [enactAction]
      split
      · exact ⟨fun _ => rfl, fun _ => rfl⟩
      · rename_i treasuries hspend
        simp only [Treasuries.doSpendAsset, bind_eq_ok, ok_inj] at hspend
        obtain ⟨_, -, rfl⟩ := hspend
        exact ⟨fun _ => rfl, fun _ => rfl⟩
  | addLocation cid' location => exact ⟨fun _ => rfl, fun _ => rfl⟩
  | setInactivityTimeout inactivityTimeout => exact ⟨fun _ => rfl, fun _ => rfl⟩
  | petition maybeCid petition => exact ⟨fun _ => rfl, fun _ => rfl⟩
  | _ =>
      simp only [enactAction]
      split <;> exact ⟨fun _ => rfl, fun _ => rfl⟩

private theorem enactProposal_any (config : Config AccountId) (s : Runtime AccountId)
    (proposalId id : Nat)
    (issues : ProposalAction AccountId → Bool) :
    ((enactProposal config s proposalId).1.democracy.proposals.lookup id).any
        (fun p => issues p.action) =
      (s.democracy.proposals.lookup id).any fun p => issues p.action := by
  generalize hresult : enactProposal config s proposalId = result
  obtain ⟨s', result⟩ := result
  rcases enactProposal_spec hresult with
    ⟨e, -, haction⟩ | ⟨proposal, enacted, -, haction, hfound, hs⟩
  · simp only [haction.democracy]
  · rw [hs]
    simp only [setProposalState, StorageMap.lookup_insert_eq]
    rw [haction.democracy] at hfound ⊢
    split
    · rename_i hid
      rw [hid, hfound]
      rfl
    · rfl

section

variable {β : Type} {view : TreasuriesStorage AccountId → β}
  {issues : ProposalAction AccountId → Bool}
  (hview : ∀ (s : Runtime AccountId) action, issues action = false →
    view (enactAction config s action).1.treasuries = view s.treasuries)

include hview

private theorem enactProposal_view {proposalId : Nat}
    (hnot : (s.democracy.proposals.lookup proposalId).any (fun p => issues p.action) = false) :
    view (enactProposal config s proposalId).1.treasuries = view s.treasuries := by
  unfold enactProposal
  split
  · rfl
  · rename_i proposal hproposal
    rw [hproposal, Option.any_some] at hnot
    have hkept := hview s proposal.action hnot
    split
    · rename_i enacted e henact
      rw [henact] at hkept
      exact hkept
    · rename_i enacted henact
      rw [henact] at hkept
      exact hkept

private theorem enactProposals_view {proposalIds : List Nat}
    (hnot : ∀ id ∈ proposalIds,
      (s.democracy.proposals.lookup id).any (fun p => issues p.action) = false)
    (h : enactProposals config proposalIds s = .ok s') : view s'.treasuries = view s.treasuries := by
  induction proposalIds generalizing s with
  | nil =>
      simp only [enactProposals, ok_inj] at h
      rw [h]
  | cons proposalId rest ih =>
      have hfirst := enactProposal_view hview (hnot proposalId List.mem_cons_self)
      have hrest (id : Nat) (hid : id ∈ rest) :
          ((enactProposal config s proposalId).1.democracy.proposals.lookup id).any
            (fun p => issues p.action) = false := by
        rw [enactProposal_any]
        exact hnot id (List.mem_cons_of_mem _ hid)
      unfold enactProposals at h
      split at h
      · cases h
      · rename_i enacted e _ henact
        rw [henact] at hfirst hrest
        refine (ih ?_ h).trans hfirst
        exact hrest
      · rename_i enacted henact
        rw [henact] at hfirst hrest
        exact (ih hrest h).trans hfirst

theorem onCeremonyPhaseChange_view {newPhase : CeremonyPhaseType}
    (hnot : newPhase = .assigning → ¬ Queues s.democracy issues)
    (h : onCeremonyPhaseChange config s newPhase = .ok s') :
    view s'.treasuries = view s.treasuries := by
  cases newPhase with
  | registering =>
      simp only [onCeremonyPhaseChange, ok_inj] at h
      rw [h]
  | assigning =>
      simp only [onCeremonyPhaseChange, bind_eq_ok, ok_inj] at h
      obtain ⟨enacted, henact, rfl⟩ := h
      have hkept : view enacted.treasuries = view s.treasuries := by
        refine enactProposals_view hview ?_ henact
        intro id hid
        by_contra hissues
        exact hnot rfl ⟨id, hid, Bool.eq_true_of_not_eq_false hissues⟩
      exact hkept
  | attesting =>
      simp only [onCeremonyPhaseChange, ok_inj] at h
      rw [h]

end

end Democracy

/-! ## Steps -/

namespace Ceremonies

omit [DecidableEq AccountId] in
private theorem purgeCommunities_funds (cids : List CommunityIdentifier) (s : Runtime AccountId) :
    (cids.foldl purgeCommunity s).treasuries = s.treasuries ∧
      (cids.foldl purgeCommunity s).faucet = s.faucet := by
  induction cids generalizing s with
  | nil => exact ⟨rfl, rfl⟩
  | cons cid cids ih => exact ih (purgeCommunity s cid)

theorem onCeremonyPhaseChange_funds {random : RandomNumberGenerator}
    {newPhase : CeremonyPhaseType} (h : onCeremonyPhaseChange config random newPhase s = .ok s') :
    s'.treasuries = s.treasuries ∧ s'.faucet = s.faucet := by
  cases newPhase with
  | registering =>
      simp only [onCeremonyPhaseChange, ite_eq_ok, ok_inj] at h
      rcases h with ⟨-, rfl⟩ | ⟨-, rfl⟩ <;> exact ⟨rfl, rfl⟩
  | assigning =>
      have hassigned := generateMeetupAssignmentParamsOf_assigned h
      obtain ⟨assignments, assignmentCounts, meetupCount, rfl⟩ := hassigned.runtime
      exact purgeCommunities_funds _ _
  | attesting =>
      simp only [onCeremonyPhaseChange, ok_inj] at h
      rw [h]
      exact ⟨rfl, rfl⟩

end Ceremonies

namespace Dispatch

theorem Enters.view {β : Type} {view : TreasuriesStorage AccountId → β}
    {issues : ProposalAction AccountId → Bool} {newPhase : CeremonyPhaseType}
    (hview : ∀ (s : Runtime AccountId) action, issues action = false →
      view (Democracy.enactAction config s action).1.treasuries = view s.treasuries)
    (hnot : newPhase = .assigning → ¬ Democracy.Queues s.democracy issues)
    (h : Enters config s s' newPhase) : view s'.treasuries = view s.treasuries := by
  obtain ⟨now, blockNumber, t, random, -, -, hreacted⟩ := h
  obtain ⟨enacted, henact, hceremonies⟩ := onCeremonyPhaseChange_spec hreacted
  have hkept : view enacted.treasuries = view s.treasuries :=
    Democracy.onCeremonyPhaseChange_view (s := { s with
      now := now
      blockNumber := blockNumber
      scheduler := Scheduler.entered s t }) hview hnot henact
  rw [(Ceremonies.onCeremonyPhaseChange_funds hceremonies).1]
  exact hkept

/-- An action is a swap, or starts a phase, or leaves all swap options. -/
theorem Outcome.options {action : Action AccountId} {observations : List (Observation AccountId)}
    (h : Outcome config s action s' observations) :
    (IsSwap action ∧ dispatchQuiet config s action = .ok s') ∨
      (∃ newPhase, Enters config s s' newPhase) ∨ SameOptions s.treasuries s'.treasuries := by
  cases h with
  | quiet hcall hobs heffects =>
      by_cases hswap : IsSwap action
      · exact Or.inl ⟨hswap, hcall⟩
      · by_cases hphase : MayChangePhase action
        · rcases mayChangePhase_enters_or_ticks hphase hcall with henters | hticks
          · exact Or.inr (Or.inl henters)
          · obtain ⟨now, blockNumber, scheduler, rfl⟩ := hticks.runtime
            exact Or.inr (Or.inr (.refl _))
        · exact Or.inr (Or.inr (dispatchQuiet_options hphase hswap hcall))
  | register sender cid proof c t haction hcall hs hobs =>
      rw [hs]
      exact Or.inr (Or.inr (.refl _))
  | upgrade sender cid proof c t haction hcall hs hobs =>
      rw [hs]
      exact Or.inr (Or.inr (.refl _))
  | endorse sender cid newbie c t haction hcall hs hobs =>
      rw [hs]
      exact Or.inr (Or.inr (.refl _))
  | claim sender cid maybeMeetupIndex claim haction hcall hs hobs =>
      rw [hs]
      exact Or.inr (Or.inr (.refl _))
  | submit proposalAction commitments democracy cindexes haction hcall hcindexes hs hobs =>
      rw [hs]
      exact Or.inr (Or.inr (.refl _))
  | vote sender proposalId vote reputations commitments democracy counted purpose haction hcall
      hpurpose hs hobs =>
      rw [hs]
      exact Or.inr (Or.inr (.refl _))

end Dispatch

end Encointer
