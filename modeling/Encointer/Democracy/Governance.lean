import Encointer.Communities.Records
import Encointer.Democracy.EnactmentQueue
import Encointer.Treasuries.SwapAccounting

/-!
# What is decided

The settings of communities and the swap options are registers that only commands
write: privileged calls, enacted proposals, swaps of the owners of an option, and the
foundation and the removal of communities. The runtime follows an abstract machine
that knows nothing but these registers and commands.
-/

namespace Encointer

open Dispatch

/-! ## The abstract machine -/

structure Settings where
  communityMetadata : Option CommunityMetadata
  nominalIncome : Option Nat
  demurragePerBlock : Option Demurrage

/-- What is decided about communities and their treasuries. -/
@[ext] structure Governed (AccountId : Type) where
  settings : CommunityIdentifier → Option Settings
  swapNativeOptions : CommunityIdentifier × AccountId → Option SwapNativeOption
  swapAssetOptions : CommunityIdentifier × AccountId → Option SwapAssetOption

inductive Command (AccountId : Type) where
  | found (cid : CommunityIdentifier) (settings : Settings)
  | remove (cid : CommunityIdentifier)
  | decide (action : ProposalAction AccountId)
  | swapNative (cid : CommunityIdentifier) (owner : AccountId) (amount : Nat)
  | swapAsset (cid : CommunityIdentifier) (owner : AccountId) (amount : Nat)

variable {AccountId : Type} [DecidableEq AccountId] {config : Config AccountId}
  {s s' s'' : Runtime AccountId}

namespace Governed

def nothing : Governed AccountId := ⟨fun _ => none, fun _ => none, fun _ => none⟩

def adjust (g : Governed AccountId) (cid : CommunityIdentifier) (f : Settings → Settings) :
    Governed AccountId :=
  { g with settings := fun cid' =>
      if cid' = cid then (g.settings cid').map f else g.settings cid' }

/-- Locations, the timeout, petitions and spends are not kept in a register. -/
def decide (g : Governed AccountId) : ProposalAction AccountId → Governed AccountId
  | .updateCommunityMetadata cid metadata =>
      g.adjust cid fun settings => { settings with communityMetadata := some metadata }
  | .updateDemurrage cid demurrage =>
      g.adjust cid fun settings => { settings with demurragePerBlock := some demurrage }
  | .updateNominalIncome cid nominalIncome =>
      g.adjust cid fun settings => { settings with nominalIncome := some nominalIncome }
  | .issueSwapNativeOption cid owner swapOption =>
      { g with swapNativeOptions := fun k =>
          if k = (cid, owner) then some swapOption else g.swapNativeOptions k }
  | .issueSwapAssetOption cid owner swapOption =>
      { g with swapAssetOptions := fun k =>
          if k = (cid, owner) then some swapOption else g.swapAssetOptions k }
  | .addLocation .. | .removeLocation .. | .setInactivityTimeout _ | .petition ..
  | .spendNative .. | .spendAsset .. => g

/--
A removed community loses its settings. Its swap options stay, also for a community that is founded
under the same identifier later.
-/
def obey (g : Governed AccountId) : Command AccountId → Governed AccountId
  | .found cid settings =>
      { g with settings := fun cid' => if cid' = cid then some settings else g.settings cid' }
  | .remove cid =>
      { g with settings := fun cid' => if cid' = cid then none else g.settings cid' }
  | .decide action => g.decide action
  | .swapNative cid owner amount =>
      { g with swapNativeOptions := fun k =>
          if k = (cid, owner) then (g.swapNativeOptions k).map fun o =>
            { o with nativeAllowance := o.nativeAllowance - amount }
          else g.swapNativeOptions k }
  | .swapAsset cid owner amount =>
      { g with swapAssetOptions := fun k =>
          if k = (cid, owner) then (g.swapAssetOptions k).map fun o =>
            { o with assetAllowance := o.assetAllowance - amount }
          else g.swapAssetOptions k }

theorem foldl_remove (g : Governed AccountId) (cids : List CommunityIdentifier) :
    (cids.map Command.remove).foldl obey g =
      { g with settings := fun cid => if cid ∈ cids then none else g.settings cid } := by
  induction cids generalizing g with
  | nil => rfl
  | cons cid cids ih =>
      rw [List.map_cons, List.foldl_cons, ih]
      ext1
      · funext cid'
        by_cases hcid : cid' = cid <;> by_cases hmem : cid' ∈ cids <;> simp [obey, hcid, hmem]
      · rfl
      · rfl

end Governed

def storedSettings (s : Runtime AccountId) (cid : CommunityIdentifier) : Settings :=
  ⟨s.communities.communityMetadata.lookup cid, s.communities.nominalIncome.lookup cid,
    s.balances.demurragePerBlock.lookup cid⟩

def governed (s : Runtime AccountId) : Governed AccountId where
  settings := fun cid =>
    if cid ∈ s.communities.communityIdentifiers then some (storedSettings s cid) else none
  swapNativeOptions := s.treasuries.swapNativeOptions.lookup
  swapAssetOptions := s.treasuries.swapAssetOptions.lookup

/-- Income and demurrage are set for registered communities only. -/
def NothingPreset (s : Runtime AccountId) : Prop :=
  ∀ cid, cid ∉ s.communities.communityIdentifiers →
    s.communities.nominalIncome.lookup cid = none ∧ s.balances.demurragePerBlock.lookup cid = none

/-- The commands explain the change of the registers. -/
structure Obeys (s s' : Runtime AccountId) (commands : List (Command AccountId)) : Prop where
  governed : governed s' = commands.foldl Governed.obey (governed s)
  preset : NothingPreset s → NothingPreset s'

namespace Obeys

variable {commands commands' : List (Command AccountId)}

theorem trans (h : Obeys s s' commands) (h' : Obeys s' s'' commands') :
    Obeys s s'' (commands ++ commands') where
  governed := by rw [h'.governed, h.governed, List.foldl_append]
  preset := fun hpreset => h'.preset (h.preset hpreset)

theorem trans_nil (h : Obeys s s' commands) (h' : Obeys s' s'' []) : Obeys s s'' commands := by
  have hall := h.trans h'
  rw [List.append_nil] at hall
  exact hall

theorem of_same (hmetadata : s'.communities.communityMetadata = s.communities.communityMetadata)
    (hincome : s'.communities.nominalIncome = s.communities.nominalIncome)
    (hidentifiers : s'.communities.communityIdentifiers = s.communities.communityIdentifiers)
    (hdemurrage : s'.balances.demurragePerBlock = s.balances.demurragePerBlock)
    (hoptions : SameOptions s.treasuries s'.treasuries) : Obeys s s' [] where
  governed := by
    simp only [Encointer.governed, storedSettings, hmetadata, hincome, hidentifiers, hdemurrage,
      hoptions.native, hoptions.asset, List.foldl_nil]
  preset := by
    intro hpreset cid hcid
    rw [hincome, hdemurrage]
    exact hpreset cid (hidentifiers ▸ hcid)

theorem refl (s : Runtime AccountId) : Obeys s s [] :=
  of_same rfl rfl rfl rfl (.refl _)

theorem of_places {communities : CommunitiesStorage AccountId}
    (h : OnlyPlaces s.communities communities) :
    Obeys s { s with communities := communities } [] :=
  of_same h.communityMetadata h.nominalIncome h.communityIdentifiers rfl (.refl _)

theorem of_balances {balances : BalancesStorage AccountId}
    (h : balances.demurragePerBlock = s.balances.demurragePerBlock) :
    Obeys s { s with balances := balances } [] :=
  of_same rfl rfl rfl h (.refl _)

theorem of_options {treasuries : TreasuriesStorage AccountId}
    (h : SameOptions s.treasuries treasuries) :
    Obeys s { s with treasuries := treasuries } [] :=
  of_same rfl rfl rfl rfl h

theorem decide_idle {action : ProposalAction AccountId} (h : Obeys s s' [])
    (hidle : ∀ g : Governed AccountId, g.decide action = g) (succeeded : Bool) :
    Obeys s s' (if succeeded then [.decide action] else []) where
  governed := by
    rw [h.governed]
    split
    · exact (hidle _).symm
    · rfl
  preset := h.preset

end Obeys

/-! ## Updates -/

theorem Obeys.of_update {action : ProposalAction AccountId} {cid : CommunityIdentifier}
    {f : Settings → Settings} (hcid : cid ∈ s.communities.communityIdentifiers)
    (haction : (Encointer.governed s).decide action = (Encointer.governed s).adjust cid f)
    (hidentifiers : s'.communities.communityIdentifiers = s.communities.communityIdentifiers)
    (htreasuries : s'.treasuries = s.treasuries)
    (hwritten : ∀ cid', storedSettings s' cid' =
      if cid' = cid then f (storedSettings s cid') else storedSettings s cid') :
    Obeys s s' [.decide action] where
  governed := by
    rw [List.foldl_cons, List.foldl_nil, Governed.obey, haction]
    ext1
    · funext cid'
      simp only [Encointer.governed, Governed.adjust, hidentifiers, hwritten]
      by_cases heq : cid' = cid
      · rw [heq, if_pos hcid, if_pos rfl, if_pos rfl, if_pos hcid]
        rfl
      · simp only [if_neg heq]
    · simp only [Encointer.governed, Governed.adjust, htreasuries]
    · simp only [Encointer.governed, Governed.adjust, htreasuries]
  preset := by
    intro hpreset cid' hcid'
    rw [hidentifiers] at hcid'
    have hne : cid' ≠ cid := fun heq => hcid' (heq ▸ hcid)
    have hsame := hwritten cid'
    rw [if_neg hne, storedSettings, storedSettings, Settings.mk.injEq] at hsame
    rw [hsame.2.1, hsame.2.2]
    exact hpreset cid' hcid'

theorem doUpdateCommunityMetadata_obeys {cid : CommunityIdentifier} {metadata : CommunityMetadata}
    {communities : CommunitiesStorage AccountId}
    (h : Communities.doUpdateCommunityMetadata s.communities cid metadata =
      .ok communities) :
    Obeys s { s with communities := communities }
      [.decide (.updateCommunityMetadata cid metadata)] := by
  simp only [Communities.doUpdateCommunityMetadata, Communities.ensureCidExists, bind_eq_ok,
    ensure_eq_ok, exists_const, ok_inj] at h
  obtain ⟨hcid, -, rfl⟩ := h
  refine .of_update hcid rfl rfl rfl ?_
  intro cid'
  simp only [storedSettings, StorageMap.lookup_insert_eq]
  split <;> rfl

theorem doUpdateNominalIncome_obeys {cid : CommunityIdentifier} {nominalIncome : Nat}
    {communities : CommunitiesStorage AccountId}
    (h : Communities.doUpdateNominalIncome s.communities cid nominalIncome = .ok communities) :
    Obeys s { s with communities := communities }
      [.decide (.updateNominalIncome cid nominalIncome)] := by
  simp only [Communities.doUpdateNominalIncome, Communities.ensureCidExists, bind_eq_ok,
    ensure_eq_ok, exists_const, ok_inj] at h
  obtain ⟨hcid, rfl⟩ := h
  refine .of_update hcid rfl rfl rfl ?_
  intro cid'
  simp only [storedSettings, StorageMap.lookup_insert_eq]
  split <;> rfl

theorem doUpdateDemurrage_obeys {cid : CommunityIdentifier} {demurrage : Demurrage}
    {balances : BalancesStorage AccountId}
    (h : Communities.doUpdateDemurrage s.communities s.balances cid demurrage = .ok balances) :
    Obeys s { s with balances := balances } [.decide (.updateDemurrage cid demurrage)] := by
  simp only [Communities.doUpdateDemurrage, Communities.ensureCidExists, Balances.setDemurrage,
    bind_eq_ok, ensure_eq_ok, okOr_eq_ok, exists_const] at h
  obtain ⟨hcid, hset⟩ := h
  split at hset
  · cases hset
    refine .of_update hcid rfl rfl rfl ?_
    intro cid'
    simp only [storedSettings, StorageMap.lookup_insert_eq]
    split <;> rfl
  · cases hset

theorem issueNativeOption_obeys (cid : CommunityIdentifier) (owner : AccountId)
    (swapOption : SwapNativeOption) :
    Obeys s { s with
        treasuries := Treasuries.doIssueSwapNativeOption s.treasuries cid owner swapOption }
      [.decide (.issueSwapNativeOption cid owner swapOption)] where
  governed := by
    ext1
    · rfl
    · funext k
      exact StorageMap.lookup_insert_eq _ _ _ k
    · rfl
  preset := id

theorem issueAssetOption_obeys (cid : CommunityIdentifier) (owner : AccountId)
    (swapOption : SwapAssetOption) :
    Obeys s { s with
        treasuries := Treasuries.doIssueSwapAssetOption s.treasuries cid owner swapOption }
      [.decide (.issueSwapAssetOption cid owner swapOption)] where
  governed := by
    ext1
    · rfl
    · rfl
    · funext k
      exact StorageMap.lookup_insert_eq _ _ _ k
  preset := id

/-! ## Enactments -/

namespace Democracy

/-- An action that succeeds is a decision, and one that fails changes no register. -/
theorem enactAction_obeys {action : ProposalAction AccountId} {result : Except DispatchError Unit}
    (h : enactAction config s action = (s', result)) :
    Obeys s s' (if result.isOk then [.decide action] else []) := by
  cases action with
  | addLocation cid location =>
      simp only [enactAction, Prod.mk.injEq] at h
      obtain ⟨rfl, rfl⟩ := h
      exact Obeys.decide_idle (.of_places (.doAddLocation cid location)) (fun _ => rfl) _
  | removeLocation cid location =>
      simp only [enactAction] at h
      split at h
      · cases h
        exact .refl s
      · rename_i communities hremove
        cases h
        exact Obeys.decide_idle (.of_places (.doRemoveLocation hremove)) (fun _ => rfl) _
  | updateCommunityMetadata cid metadata =>
      simp only [enactAction] at h
      split at h
      · cases h
        exact .refl s
      · rename_i communities hupdate
        cases h
        exact doUpdateCommunityMetadata_obeys hupdate
  | updateDemurrage cid demurrage =>
      simp only [enactAction] at h
      split at h
      · cases h
        exact .refl s
      · rename_i balances hupdate
        cases h
        exact doUpdateDemurrage_obeys hupdate
  | updateNominalIncome cid nominalIncome =>
      simp only [enactAction] at h
      split at h
      · cases h
        exact .refl s
      · rename_i communities hupdate
        cases h
        exact doUpdateNominalIncome_obeys hupdate
  | setInactivityTimeout inactivityTimeout =>
      cases h
      have hsame : Obeys s { s with
          ceremonies := Ceremonies.setInactivityTimeout s inactivityTimeout } [] :=
        .of_same rfl rfl rfl rfl (.refl _)
      exact hsame.decide_idle (fun _ => rfl) _
  | petition maybeCid petition =>
      cases h
      exact (Obeys.refl s).decide_idle (fun _ => rfl) _
  | spendNative maybeCid beneficiary amount =>
      simp only [enactAction] at h
      split at h
      · cases h
        exact .refl s
      · rename_i treasuries hspend
        cases h
        have hoptions : SameOptions s.treasuries treasuries := by
          simp only [Treasuries.doSpendNative, bind_eq_ok, ok_inj] at hspend
          obtain ⟨_, -, rfl⟩ := hspend
          exact ⟨rfl, rfl⟩
        exact (Obeys.of_options hoptions).decide_idle (fun _ => rfl) _
  | issueSwapNativeOption cid owner swapOption =>
      cases h
      exact issueNativeOption_obeys cid owner swapOption
  | spendAsset maybeCid beneficiary amount assetId =>
      simp only [enactAction] at h
      split at h
      · cases h
        exact .refl s
      · rename_i treasuries hspend
        cases h
        have hoptions : SameOptions s.treasuries treasuries := by
          simp only [Treasuries.doSpendAsset, bind_eq_ok, ok_inj] at hspend
          obtain ⟨_, -, rfl⟩ := hspend
          exact ⟨rfl, rfl⟩
        exact (Obeys.of_options hoptions).decide_idle (fun _ => rfl) _
  | issueSwapAssetOption cid owner swapOption =>
      cases h
      exact issueAssetOption_obeys cid owner swapOption

def decisionOf (democracy : DemocracyStorage AccountId) : Event → Option (ProposalAction AccountId)
  | .proposalEnacted proposalId =>
      (democracy.proposals.lookup proposalId).map fun proposal => proposal.action
  | .enactmentFailed _ _ => none

def decisions (democracy : DemocracyStorage AccountId) (events : List Event) :
    List (Command AccountId) :=
  (events.filterMap (decisionOf democracy)).map .decide

omit [DecidableEq AccountId] in
theorem decisions_append (democracy : DemocracyStorage AccountId) (events events' : List Event) :
    decisions democracy (events ++ events') =
      decisions democracy events ++ decisions democracy events' := by
  rw [decisions, List.filterMap_append, List.map_append, decisions, decisions]

omit [DecidableEq AccountId] in
theorem decisions_congr {democracy democracy' : DemocracyStorage AccountId}
    (h : ∀ id, (democracy'.proposals.lookup id).map (fun p => p.action) =
      (democracy.proposals.lookup id).map fun p => p.action) (events : List Event) :
    decisions democracy' events = decisions democracy events := by
  have hsame : decisionOf democracy' = decisionOf democracy := by
    funext event
    cases event with
    | proposalEnacted id => exact h id
    | enactmentFailed id reason => rfl
  rw [decisions, hsame, decisions]

theorem enactProposal_obeys {proposalId : Nat} {result : Except DispatchError Unit}
    (h : enactProposal config s proposalId = (s', result)) :
    ∃ new, s'.events = s.events ++ new ∧ Obeys s s' (decisions s.democracy new) := by
  unfold enactProposal at h
  split at h
  · cases h
    exact ⟨[], (List.append_nil _).symm, .refl s⟩
  · rename_i proposal hproposal
    have haction : ActionEnacted config s (enactAction config s proposal.action).1 :=
      enactAction_enacted proposal.action
    have hevents := haction.events
    split at h
    · rename_i enacted e henact
      cases h
      rw [henact] at hevents
      exact ⟨[], hevents.trans (List.append_nil _).symm, enactAction_obeys henact⟩
    · rename_i enacted henact
      cases h
      rw [henact] at hevents
      have hobeys : Obeys s enacted [.decide proposal.action] := enactAction_obeys henact
      refine ⟨[.proposalEnacted proposalId], congrArg (· ++ [_]) hevents, ?_⟩
      have hdecision : decisions s.democracy [.proposalEnacted proposalId] =
          [.decide proposal.action] := by
        simp [decisions, decisionOf, hproposal]
      rw [hdecision]
      exact hobeys.trans (.of_same rfl rfl rfl rfl (.refl _))

/-- The events of the enactments report what was decided. -/
theorem enactProposals_obeys {proposalIds : List Nat}
    (h : enactProposals config proposalIds s = .ok s') :
    ∃ new, s'.events = s.events ++ new ∧ Obeys s s' (decisions s.democracy new) := by
  induction proposalIds generalizing s with
  | nil =>
      simp only [enactProposals, ok_inj] at h
      rw [← h]
      exact ⟨[], (List.append_nil _).symm, .refl s⟩
  | cons proposalId rest ih =>
      have hspec : (enactProposal config s proposalId).1.communities = _ ∧ _ :=
        enactProposal_communities proposalId
      have hactions := hspec.2
      unfold enactProposals at h
      split at h
      · cases h
      · rename_i attempted e _ hresult
        obtain ⟨new, hevents, hobeys⟩ := enactProposal_obeys hresult
        rw [hresult] at hactions
        obtain ⟨new', hevents', hobeys'⟩ := ih h
        have hreported : Obeys attempted { attempted with
            events := attempted.events ++ [.enactmentFailed proposalId e] } [] :=
          .of_same rfl rfl rfl rfl (.refl _)
        refine ⟨new ++ .enactmentFailed proposalId e :: new', ?_, ?_⟩
        · rw [hevents']
          simp only [hevents, List.append_assoc, List.singleton_append]
        · have hall := (hobeys.trans hreported).trans hobeys'
          rw [decisions_append]
          simp only [decisions_congr hactions] at hall
          rw [List.append_nil] at hall
          exact hall
      · rename_i attempted hresult
        obtain ⟨new, hevents, hobeys⟩ := enactProposal_obeys hresult
        rw [hresult] at hactions
        obtain ⟨new', hevents', hobeys'⟩ := ih h
        refine ⟨new ++ new', ?_, ?_⟩
        · rw [hevents', hevents, List.append_assoc]
        · rw [decisions_append, ← decisions_congr hactions new']
          exact hobeys.trans hobeys'

theorem onCeremonyPhaseChange_obeys {newPhase : CeremonyPhaseType}
    (h : onCeremonyPhaseChange config s newPhase = .ok s') :
    ∃ new, s'.events = s.events ++ new ∧ Obeys s s' (decisions s.democracy new) := by
  cases newPhase with
  | assigning =>
      simp only [onCeremonyPhaseChange, bind_eq_ok, ok_inj] at h
      obtain ⟨enacted, henact, rfl⟩ := h
      obtain ⟨new, hevents, hobeys⟩ := enactProposals_obeys henact
      exact ⟨new, hevents, hobeys.trans_nil (.of_same rfl rfl rfl rfl (.refl _))⟩
  | registering =>
      simp only [onCeremonyPhaseChange, ok_inj] at h
      rw [← h]
      exact ⟨[], (List.append_nil _).symm, .refl s⟩
  | attesting =>
      simp only [onCeremonyPhaseChange, ok_inj] at h
      rw [← h]
      exact ⟨[], (List.append_nil _).symm, .refl s⟩

end Democracy

/-! ## Foundation and removal -/

theorem Obeys.of_foundation {cid : CommunityIdentifier} {settings : Settings}
    (hpreset : NothingPreset s)
    (hidentifiers : s'.communities.communityIdentifiers =
      s.communities.communityIdentifiers ++ [cid])
    (htreasuries : s'.treasuries = s.treasuries)
    (hwritten : ∀ cid', storedSettings s' cid' =
      if cid' = cid then settings else storedSettings s cid') :
    Obeys s s' [.found cid settings] where
  governed := by
    rw [List.foldl_cons, List.foldl_nil]
    ext1
    · funext cid'
      simp only [Encointer.governed, Governed.obey, hidentifiers, hwritten, List.mem_append,
        List.mem_singleton]
      by_cases heq : cid' = cid
      · simp [heq]
      · simp [heq]
    · simp only [Encointer.governed, Governed.obey, htreasuries]
    · simp only [Encointer.governed, Governed.obey, htreasuries]
  preset := by
    intro _ cid' hcid'
    rw [hidentifiers, List.mem_append, List.mem_singleton, not_or] at hcid'
    have hsame := hwritten cid'
    rw [if_neg hcid'.2, storedSettings, storedSettings, Settings.mk.injEq] at hsame
    rw [hsame.2.1, hsame.2.2]
    exact hpreset cid' hcid'.1

namespace Communities

/-- A new community starts with the given settings, since nothing was set before. -/
theorem newCommunity_obeys {location : Location} {bootstrappers : List AccountId}
    {metadata : CommunityMetadata} {demurrage : Option Demurrage} {nominalIncome : Option Nat}
    {communities : CommunitiesStorage AccountId} {balances : BalancesStorage AccountId}
    (hpreset : NothingPreset s)
    (h : newCommunity config s location bootstrappers metadata demurrage nominalIncome =
      .ok (communities, balances)) :
    ∃ cid, newCommunityIdentifier config location bootstrappers = some cid ∧
      Obeys s { s with communities := communities, balances := balances }
        [.found cid ⟨some metadata, nominalIncome, demurrage⟩] := by
  simp only [newCommunity, bind_eq_ok, okOr_eq_ok, ensure_eq_ok, exists_const, ok_inj,
    Prod.mk.injEq] at h
  obtain ⟨-, -, -, cid, hcid, hfresh, -, -, geoHash, -, -, joined, hjoin, -, balances, hdemurrage,
    rfl, rfl⟩ := h
  obtain ⟨-, rfl⟩ := transactional_eq_ok.1 hjoin
  have hsame : OnlyPlaces s.communities
      (addCidToBucket config s.communities geoHash cid).1 := .addCidToBucket geoHash
  obtain ⟨hnoIncome, hnoDemurrage⟩ := hpreset cid hfresh
  have hset (cid' : CommunityIdentifier) : balances.demurragePerBlock.lookup cid' =
      if cid' = cid then demurrage else s.balances.demurragePerBlock.lookup cid' := by
    cases demurrage with
    | none =>
        rw [setOptionalDemurrage, ok_inj] at hdemurrage
        rw [← hdemurrage]
        split
        · rename_i heq
          rw [heq, hnoDemurrage]
        · rfl
    | some rate =>
        rw [setOptionalDemurrage, okOr_eq_ok, Balances.setDemurrage] at hdemurrage
        split at hdemurrage
        · cases hdemurrage
          exact StorageMap.lookup_insert_eq _ _ _ cid'
        · cases hdemurrage
  refine ⟨cid, hcid, .of_foundation hpreset ?_ rfl ?_⟩
  · exact congrArg (· ++ [cid]) hsame.communityIdentifiers
  · intro cid'
    cases nominalIncome with
    | none =>
        simp only [storedSettings, hset, hsame.communityMetadata, hsame.nominalIncome,
          StorageMap.lookup_insert_eq]
        split
        · rename_i heq
          rw [heq, hnoIncome]
        · rfl
    | some i =>
        simp only [storedSettings, hset, hsame.communityMetadata, hsame.nominalIncome,
          StorageMap.lookup_insert_eq]
        split <;> rfl

end Communities

/-- Communities are removed together with their settings. -/
theorem Obeys.of_removal (cid : CommunityIdentifier)
    (hcommunities : s'.communities = Communities.removeCommunity s.communities cid)
    (hbalances : s'.balances = Balances.purgeBalances s.balances cid)
    (htreasuries : s'.treasuries = s.treasuries) : Obeys s s' [.remove cid] := by
  have hplaces : OnlyPlaces s.communities (Communities.removeLocationsIntern cid
      (Communities.locationsOf s.communities cid) s.communities) := .removeLocationsIntern _
  have hidentifiers : s'.communities.communityIdentifiers =
      s.communities.communityIdentifiers.filter fun x => x ≠ cid := by
    rw [hcommunities, Communities.removeCommunity_communityIdentifiers]
  have hincome (cid' : CommunityIdentifier) : s'.communities.nominalIncome.lookup cid' =
      if cid' = cid then none else s.communities.nominalIncome.lookup cid' := by
    rw [hcommunities]
    exact (StorageMap.lookup_erase_eq _ _ _).trans (by rw [hplaces.nominalIncome])
  have hmetadata (cid' : CommunityIdentifier) : s'.communities.communityMetadata.lookup cid' =
      if cid' = cid then none else s.communities.communityMetadata.lookup cid' := by
    rw [hcommunities]
    exact (StorageMap.lookup_erase_eq _ _ _).trans (by rw [hplaces.communityMetadata])
  have hdemurrage (cid' : CommunityIdentifier) : s'.balances.demurragePerBlock.lookup cid' =
      if cid' = cid then none else s.balances.demurragePerBlock.lookup cid' := by
    rw [hbalances]
    exact StorageMap.lookup_erase_eq _ _ _
  constructor
  · ext1
    · funext cid'
      simp only [Encointer.governed, storedSettings, hidentifiers, hincome, hmetadata, hdemurrage,
        List.foldl_cons, List.foldl_nil, Governed.obey, List.mem_filter]
      by_cases heq : cid' = cid
      · simp [heq]
      · simp [heq]
    · simp only [Encointer.governed, htreasuries, List.foldl_cons, List.foldl_nil, Governed.obey]
    · simp only [Encointer.governed, htreasuries, List.foldl_cons, List.foldl_nil, Governed.obey]
  · intro hpreset cid' hcid'
    rw [hidentifiers, List.mem_filter, not_and, decide_eq_true_eq, not_not] at hcid'
    rw [hincome, hdemurrage]
    by_cases heq : cid' = cid
    · rw [if_pos heq, if_pos heq]
      exact ⟨rfl, rfl⟩
    · rw [if_neg heq, if_neg heq]
      exact hpreset cid' fun hmem => heq (hcid' hmem)

/-- Only the removal of registered communities matters. -/
theorem Governed.remove_congr {removed removed' : List CommunityIdentifier}
    (h : ∀ cid ∈ s.communities.communityIdentifiers, cid ∈ removed ↔ cid ∈ removed') :
    (removed.map Command.remove).foldl obey (governed s) =
      (removed'.map Command.remove).foldl obey (governed s) := by
  rw [foldl_remove, foldl_remove]
  ext1
  · funext cid
    by_cases hcid : cid ∈ s.communities.communityIdentifiers
    · simp only [h cid hcid]
    · simp only [Encointer.governed, if_neg hcid, ite_self]
  · rfl
  · rfl

namespace Ceremonies

private theorem purgeCommunity_obeys (s : Runtime AccountId) (cid : CommunityIdentifier) :
    Obeys s (purgeCommunity s cid) [.remove cid] :=
  .of_removal cid rfl rfl rfl

private theorem purgeCommunities_obey (removed : List CommunityIdentifier) (s : Runtime AccountId) :
    (removed.foldl purgeCommunity s).events = s.events ∧
      (∀ cid, cid ∈ (removed.foldl purgeCommunity s).communities.communityIdentifiers ↔
        cid ∈ s.communities.communityIdentifiers ∧ cid ∉ removed) ∧
      Obeys s (removed.foldl purgeCommunity s) (removed.map .remove) := by
  induction removed generalizing s with
  | nil => exact ⟨rfl, fun cid => by simp, .refl s⟩
  | cons cid removed ih =>
      obtain ⟨hevents, hleft, hobeys⟩ := ih (purgeCommunity s cid)
      refine ⟨hevents, ?_, (purgeCommunity_obeys s cid).trans hobeys⟩
      intro cid'
      rw [List.foldl_cons, hleft, purgeCommunity,
        Communities.removeCommunity_communityIdentifiers, List.mem_filter, decide_eq_true_eq,
        List.mem_cons, not_or, and_assoc]

theorem onCeremonyPhaseChange_obeys {random : RandomNumberGenerator} {newPhase : CeremonyPhaseType}
    (h : onCeremonyPhaseChange config random newPhase s = .ok s') :
    ∃ removed : List CommunityIdentifier, s'.events = s.events ∧
      (∀ cid, cid ∈ s'.communities.communityIdentifiers ↔
        cid ∈ s.communities.communityIdentifiers ∧ cid ∉ removed) ∧
      Obeys s s' (removed.map .remove) := by
  have hkept (c : CeremoniesStorage AccountId) : Obeys s { s with ceremonies := c } [] :=
    .of_same rfl rfl rfl rfl (.refl _)
  cases newPhase with
  | registering =>
      simp only [onCeremonyPhaseChange] at h
      split at h
      · rw [ok_inj] at h
        rw [← h]
        exact ⟨[], rfl, fun cid => by simp, hkept _⟩
      · rw [ok_inj] at h
        rw [← h]
        exact ⟨[], rfl, fun cid => by simp, .refl s⟩
  | assigning =>
      simp only [onCeremonyPhaseChange, generateAllMeetupAssignmentParams,
        purgeInactiveCommunities] at h
      have hassigned := generateMeetupAssignmentParamsOf_runtime h
      obtain ⟨hevents, hleft, hobeys⟩ := purgeCommunities_obey
        (updateInactivityCounters s.ceremonies (s.scheduler.currentCeremonyIndex - 1)
          s.ceremonies.inactivityTimeout s.communities.communityIdentifiers
          s.ceremonies.inactivityCounters).2
        { s with ceremonies := { s.ceremonies with
          inactivityCounters := (updateInactivityCounters s.ceremonies
            (s.scheduler.currentCeremonyIndex - 1) s.ceremonies.inactivityTimeout
            s.communities.communityIdentifiers s.ceremonies.inactivityCounters).1 } }
      rw [hassigned]
      refine ⟨_, hevents, hleft, ?_⟩
      have hpurged := (hkept _).trans hobeys
      exact hpurged.trans_nil (.of_same rfl rfl rfl rfl (.refl _))
  | attesting =>
      simp only [onCeremonyPhaseChange, ok_inj] at h
      rw [← h]
      exact ⟨[], rfl, fun cid => by simp, .refl s⟩

end Ceremonies

/-! ## Actions -/

def phaseCommands (s s' : Runtime AccountId) : List (Command AccountId) :=
  Democracy.decisions s.democracy (s'.events.drop s.events.length) ++
    (s.communities.communityIdentifiers.filter fun cid =>
      cid ∉ s'.communities.communityIdentifiers).map .remove

/-- What a successful action commands. -/
def commandsOf (config : Config AccountId) (s s' : Runtime AccountId) :
    Action AccountId → List (Command AccountId)
  | .beginBlock _ _ | .nextPhase _ => phaseCommands s s'
  | .newCommunity location bootstrappers metadata demurrage nominalIncome =>
      (Communities.newCommunityIdentifier config location bootstrappers).toList.map fun cid =>
        .found cid ⟨some metadata, nominalIncome, demurrage⟩
  | .updateCommunityMetadata cid metadata => [.decide (.updateCommunityMetadata cid metadata)]
  | .updateDemurrage cid demurrage => [.decide (.updateDemurrage cid demurrage)]
  | .updateNominalIncome cid nominalIncome => [.decide (.updateNominalIncome cid nominalIncome)]
  | .purgeCommunity cid => [.remove cid]
  | .swapNative sender cid amount => [.swapNative cid sender amount]
  | .swapAsset sender cid amount => [.swapAsset cid sender amount]
  | _ => []

omit [DecidableEq AccountId] in
theorem commandsOf_of_mayChangePhase {action : Action AccountId} (h : MayChangePhase action) :
    commandsOf config s s' action = phaseCommands s s' := by
  cases action with
  | beginBlock now random => rfl
  | nextPhase random => rfl
  | _ => cases h

omit [DecidableEq AccountId] in
theorem phaseCommands_of_same (hevents : s'.events = s.events)
    (hcommunities : s'.communities = s.communities) : phaseCommands s s' = [] := by
  simp [phaseCommands, Democracy.decisions, hevents, hcommunities]

namespace Dispatch

theorem onCeremonyPhaseChange_obeys {random : RandomNumberGenerator} {newPhase : CeremonyPhaseType}
    (h : onCeremonyPhaseChange config random newPhase s = .ok s') :
    Obeys s s' (phaseCommands s s') := by
  obtain ⟨enacted, henact, hceremonies⟩ := onCeremonyPhaseChange_spec h
  have hids := (Democracy.onCeremonyPhaseChange_changes henact).1.communityIdentifiers
  obtain ⟨new, hnew, hdecided⟩ := Democracy.onCeremonyPhaseChange_obeys henact
  obtain ⟨removed, hevents, hleft, hremoved⟩ := Ceremonies.onCeremonyPhaseChange_obeys hceremonies
  have hdrop : s'.events.drop s.events.length = new := by
    rw [hevents]
    exact (congrArg (List.drop _) hnew).trans List.drop_left
  have hforgotten : Obeys enacted { enacted with
      commitments := Commitments.onCeremonyPhaseChange enacted newPhase } [] :=
    .of_same rfl rfl rfl rfl (.refl _)
  have hgone : Obeys enacted s' (removed.map .remove) := hforgotten.trans hremoved
  have hregistered : Obeys enacted s' ((s.communities.communityIdentifiers.filter fun cid =>
      cid ∉ s'.communities.communityIdentifiers).map .remove) := by
    refine ⟨hgone.governed.trans (Governed.remove_congr ?_), hgone.preset⟩
    intro cid hcid
    have hleft' : cid ∈ s'.communities.communityIdentifiers ↔
        cid ∈ enacted.communities.communityIdentifiers ∧ cid ∉ removed := hleft cid
    rw [List.mem_filter, decide_eq_true_eq, hleft', ← hids]
    simp [hcid]
  rw [phaseCommands, hdrop]
  exact hdecided.trans hregistered

end Dispatch

/-! ## Balances -/

namespace Balances

variable {blockNumber : Nat} {b : BalancesStorage AccountId} {cid : CommunityIdentifier}
  {source dest who : AccountId} {amount : Nat}

theorem doTransfer_demurragePerBlock :
    (doTransfer config blockNumber b cid source dest amount).1.demurragePerBlock =
      b.demurragePerBlock := by
  unfold doTransfer moveBalance newAccount removeAccount
  grind

private theorem issue_demurragePerBlock (config : Config AccountId) (blockNumber : Nat)
    (b : BalancesStorage AccountId) (cid : CommunityIdentifier) (who : AccountId) (amount : Nat) :
    (issue config blockNumber b cid who amount).1.demurragePerBlock = b.demurragePerBlock := by
  unfold issue newAccount
  grind

private theorem burn_demurragePerBlock :
    (burn config blockNumber b cid who amount).1.demurragePerBlock = b.demurragePerBlock := by
  unfold burn
  grind

end Balances

theorem Treasuries.payCommunityCurrency_demurragePerBlock {cid : CommunityIdentifier}
    {sender : AccountId} {ccAmount : Nat} {doBurn : Bool} {balances : BalancesStorage AccountId}
    (h : payCommunityCurrency config s cid sender ccAmount doBurn = .ok balances) :
    balances.demurragePerBlock = s.balances.demurragePerBlock := by
  unfold payCommunityCurrency at h
  split at h
  · rw [← (transactional_eq_ok.1 h).2]
    exact Balances.burn_demurragePerBlock
  · rw [← (transactional_eq_ok.1 h).2]
    exact Balances.doTransfer_demurragePerBlock

namespace Ceremonies

private theorem rewardLoop_demurragePerBlock {cc : CommunityCeremony} {reward : Nat}
    {participants : List AccountId} {indices : List Nat} {payout payout' : Payout AccountId}
    (h : indices.foldlM (rewardParticipant config s cc reward participants) payout = .ok payout') :
    payout'.balances.demurragePerBlock = payout.balances.demurragePerBlock := by
  induction indices generalizing payout with
  | nil =>
      simp only [List.foldlM_nil, pure_eq_ok] at h
      rw [h]
  | cons i indices ih =>
      simp only [List.foldlM_cons, bind_eq_ok] at h
      obtain ⟨next, hstep, hrest⟩ := h
      rw [ih hrest]
      simp only [rewardParticipant, bind_eq_ok, okOr_eq_ok] at hstep
      obtain ⟨participant, -, hstep⟩ := hstep
      have hissue := Balances.issue_demurragePerBlock config s.blockNumber payout.balances cc.1
        participant reward
      split at hstep
      · rename_i balances hpaid
        rw [ok_inj] at hstep
        rw [hpaid] at hissue
        rw [← hstep]
        exact hissue
      · rename_i balances e hfailed
        rw [ok_inj] at hstep
        rw [hfailed] at hissue
        rw [← hstep]
        exact hissue

theorem claimRewards_demurragePerBlock {sender : AccountId} {cid : CommunityIdentifier}
    {maybeMeetupIndex : Option Nat} {claim : Claim AccountId}
    (h : claimRewards config s sender cid maybeMeetupIndex = .ok claim) :
    claim.balances.demurragePerBlock = s.balances.demurragePerBlock := by
  simp only [claimRewards, bind_eq_ok, ensure_eq_ok, exists_const] at h
  obtain ⟨cindex, -, meetupIndex, -, -, participants, -, h⟩ := h
  cases hjudge : judgeMeetup s (cid, cindex) participants with
  | error err =>
      simp only [hjudge, bind_eq_ok, ok_inj] at h
      obtain ⟨-, -, rfl⟩ := h
      rfl
  | ok judgements =>
      simp only [hjudge, bind_eq_ok, ok_inj, issueRewards] at h
      obtain ⟨-, -, -, -, ⟨c, balances, credited⟩, ⟨payout, hloop, hresult⟩, rfl⟩ := h
      cases hresult
      exact rewardLoop_demurragePerBlock hloop

end Ceremonies

/-! ## Calls -/

namespace Dispatch

theorem swapNative_obeys {sender : AccountId} {cid : CommunityIdentifier} {amount : Nat}
    {treasuries : TreasuriesStorage AccountId} {balances : BalancesStorage AccountId}
    (h : Treasuries.swapNative config s sender cid amount = .ok (treasuries, balances)) :
    Obeys s { s with treasuries := treasuries, balances := balances }
      [.swapNative cid sender amount] := by
  obtain ⟨swapOption, rate, native, hoption, -, -, -, -, -, hpay, -, rfl⟩ :=
    Treasuries.swapNative_spec h
  have hrates := Treasuries.payCommunityCurrency_demurragePerBlock hpay
  constructor
  · ext1
    · simp only [Encointer.governed, storedSettings, hrates, List.foldl_cons, List.foldl_nil,
        Governed.obey]
    · funext k
      simp only [Encointer.governed, List.foldl_cons, List.foldl_nil, Governed.obey,
        StorageMap.lookup_insert_eq]
      split
      · rename_i hk
        rw [hk, hoption, Option.map_some]
      · rfl
    · rfl
  · intro hpreset cid' hcid'
    rw [hrates]
    exact hpreset cid' hcid'

theorem swapAsset_obeys {sender : AccountId} {cid : CommunityIdentifier} {amount : Nat}
    {treasuries : TreasuriesStorage AccountId} {balances : BalancesStorage AccountId}
    (h : Treasuries.swapAsset config s sender cid amount = .ok (treasuries, balances)) :
    Obeys s { s with treasuries := treasuries, balances := balances }
      [.swapAsset cid sender amount] := by
  obtain ⟨swapOption, rate, assets, hoption, -, -, -, -, hpay, -, rfl⟩ :=
    Treasuries.swapAsset_spec h
  have hrates := Treasuries.payCommunityCurrency_demurragePerBlock hpay
  constructor
  · ext1
    · simp only [Encointer.governed, storedSettings, hrates, List.foldl_cons, List.foldl_nil,
        Governed.obey]
    · rfl
    · funext k
      simp only [Encointer.governed, List.foldl_cons, List.foldl_nil, Governed.obey,
        StorageMap.lookup_insert_eq]
      split
      · rename_i hk
        rw [hk, hoption, Option.map_some]
      · rfl
  · intro hpreset cid' hcid'
    rw [hrates]
    exact hpreset cid' hcid'

theorem dispatchQuiet_obeys {action : Action AccountId} (hpreset : NothingPreset s)
    (h : dispatchQuiet config s action = .ok s') : Obeys s s' (commandsOf config s s' action) := by
  by_cases hphase : MayChangePhase action
  · rw [commandsOf_of_mayChangePhase hphase]
    rcases mayChangePhase_enters_or_ticks hphase h with ⟨newPhase, henters⟩ | hticks
    · obtain ⟨now, blockNumber, t, random, -, -, hreacted⟩ := henters
      have hclock : Obeys s { s with
          now := now, blockNumber := blockNumber, scheduler := Scheduler.entered s t } [] :=
        .of_same rfl rfl rfl rfl (.refl _)
      exact hclock.trans (onCeremonyPhaseChange_obeys hreacted)
    · obtain ⟨now, blockNumber, scheduler, rfl⟩ := hticks.runtime
      have hnone : phaseCommands s { s with
          now := now, blockNumber := blockNumber, scheduler := scheduler } = [] :=
        phaseCommands_of_same rfl rfl
      rw [hnone]
      exact .of_same rfl rfl rfl rfl (.refl _)
  · cases action with
    | beginBlock now random => exact absurd trivial hphase
    | nextPhase random => exact absurd trivial hphase
    | transfer sender dest cid amount =>
        simp only [dispatchQuiet, Balances.transfer, bind_eq_ok, transactional_eq_ok, ok_inj] at h
        obtain ⟨balances, ⟨-, rfl⟩, rfl⟩ := h
        exact .of_balances Balances.doTransfer_demurragePerBlock
    | transferAll sender dest cid =>
        simp only [dispatchQuiet, Balances.transferAll, bind_eq_ok, transactional_eq_ok, ok_inj]
          at h
        obtain ⟨balances, ⟨-, rfl⟩, rfl⟩ := h
        exact .of_balances Balances.doTransfer_demurragePerBlock
    | newCommunity location bootstrappers metadata demurrage nominalIncome =>
        simp only [dispatchQuiet, bind_eq_ok, ok_inj] at h
        obtain ⟨⟨communities, balances⟩, hnew, rfl⟩ := h
        obtain ⟨cid, hcid, hobeys⟩ := Communities.newCommunity_obeys hpreset hnew
        rw [commandsOf, hcid]
        exact hobeys
    | addLocation cid location =>
        simp only [dispatchQuiet, Communities.addLocation, bind_eq_ok, ok_inj] at h
        obtain ⟨communities, ⟨-, -, hadd⟩, rfl⟩ := h
        obtain ⟨-, rfl⟩ := transactional_eq_ok.1 hadd
        exact .of_places (.doAddLocation cid location)
    | removeLocation cid location =>
        simp only [dispatchQuiet, Communities.removeLocation, bind_eq_ok, ok_inj] at h
        obtain ⟨communities, ⟨-, -, hremove⟩, rfl⟩ := h
        exact .of_places (.doRemoveLocation hremove)
    | updateCommunityMetadata cid metadata =>
        simp only [dispatchQuiet, bind_eq_ok, ok_inj] at h
        obtain ⟨communities, hupdate, rfl⟩ := h
        exact doUpdateCommunityMetadata_obeys hupdate
    | updateDemurrage cid demurrage =>
        simp only [dispatchQuiet, bind_eq_ok, ok_inj] at h
        obtain ⟨balances, hupdate, rfl⟩ := h
        exact doUpdateDemurrage_obeys hupdate
    | updateNominalIncome cid nominalIncome =>
        simp only [dispatchQuiet, bind_eq_ok, ok_inj] at h
        obtain ⟨communities, hupdate, rfl⟩ := h
        exact doUpdateNominalIncome_obeys hupdate
    | purgeCommunity cid =>
        simp only [dispatchQuiet, Communities.purgeCommunity, ok_inj] at h
        rw [← h]
        exact .of_removal cid rfl rfl rfl
    | swapNative sender cid amount =>
        simp only [dispatchQuiet, bind_eq_ok, ok_inj] at h
        obtain ⟨⟨treasuries, balances⟩, hswap, rfl⟩ := h
        exact swapNative_obeys hswap
    | swapAsset sender cid amount =>
        simp only [dispatchQuiet, bind_eq_ok, ok_inj] at h
        obtain ⟨⟨treasuries, balances⟩, hswap, rfl⟩ := h
        exact swapAsset_obeys hswap
    | _ =>
        have hoptions : SameOptions s.treasuries s'.treasuries :=
          dispatchQuiet_options hphase (fun hswap => False.elim hswap) h
        simp only [dispatchQuiet, bind_eq_ok, ok_inj, Communities.setMinSolarTripTimeS,
          Communities.setMaxSpeedMps] at h
        exact .of_same (by grind) (by grind) (by grind) (by grind) hoptions

theorem Outcome.obeys {action : Action AccountId} {observations : List (Observation AccountId)}
    (hpreset : NothingPreset s) (h : Outcome config s action s' observations) :
    Obeys s s' (commandsOf config s s' action) := by
  cases h with
  | quiet hquiet => exact dispatchQuiet_obeys hpreset hquiet
  | claim sender cid maybeMeetupIndex claim haction hcall hs =>
      subst haction hs
      exact .of_same rfl rfl rfl (Ceremonies.claimRewards_demurragePerBlock hcall) (.refl _)
  | register sender cid proof c t haction hcall hs =>
      subst haction hs
      exact .of_same rfl rfl rfl rfl (.refl _)
  | upgrade sender cid proof c t haction hcall hs =>
      subst haction hs
      exact .of_same rfl rfl rfl rfl (.refl _)
  | endorse sender cid newbie c t haction hcall hs =>
      subst haction hs
      exact .of_same rfl rfl rfl rfl (.refl _)
  | submit proposalAction commitments democracy cindexes haction hcall hcindexes hs =>
      subst haction hs
      exact .of_same rfl rfl rfl rfl (.refl _)
  | vote sender proposalId vote reputations commitments democracy counted purpose haction hcall
      hpurpose hs =>
      subst haction hs
      exact .of_same rfl rfl rfl rfl (.refl _)

end Dispatch

/-! ## Who decides -/

/-- What a privileged call decides. -/
def Action.decision : Action AccountId → Option (ProposalAction AccountId)
  | .updateCommunityMetadata cid metadata => some (.updateCommunityMetadata cid metadata)
  | .updateDemurrage cid demurrage => some (.updateDemurrage cid demurrage)
  | .updateNominalIncome cid nominalIncome => some (.updateNominalIncome cid nominalIncome)
  | _ => none

/-- A proposal with the action was approved and waits for its enactment. -/
def Democracy.Waits (democracy : DemocracyStorage AccountId) (action : ProposalAction AccountId) :
    Prop :=
  ∃ id ∈ queued democracy, ∃ proposal, democracy.proposals.lookup id = some proposal ∧
    proposal.state = .approved ∧ proposal.action = action

omit [DecidableEq AccountId] in
/-- New events are about queued proposals. -/
theorem Democracy.Step.new_queued {action : Action AccountId} (h : Step config s action s') :
    ∃ new, s'.events = s.events ++ new ∧ ∀ event ∈ new, event.proposalId ∈ queued s.democracy := by
  cases h with
  | same democracy events => exact ⟨[], events.trans (List.append_nil _).symm, by simp⟩
  | submit proposal submits => exact ⟨[], submits.events.trans (List.append_nil _).symm, by simp⟩
  | advance id proposal state advances =>
      exact ⟨[], advances.events.trans (List.append_nil _).symm, by simp⟩
  | approve id proposal since updated approves runtime =>
      rw [runtime]
      exact ⟨[], (List.append_nil _).symm, by simp⟩
  | drain new ids events =>
      refine ⟨new, events, ?_⟩
      intro event hevent
      rw [← ids]
      exact List.mem_map_of_mem hevent

omit [DecidableEq AccountId] in
theorem QueueInvariant.decide_waits {action : Action AccountId}
    {decided : ProposalAction AccountId} (hinv : QueueInvariant s)
    (hstep : Democracy.Step config s action s') (h : .decide decided ∈ phaseCommands s s') :
    Democracy.Waits s.democracy decided := by
  obtain ⟨new, hevents, hqueued⟩ := hstep.new_queued
  rw [phaseCommands, hevents, List.drop_left, List.mem_append] at h
  rcases h with hdecided | hremoved
  · obtain ⟨reported, hreported, heq⟩ := List.mem_map.1 hdecided
    cases heq
    obtain ⟨event, hevent, hof⟩ := List.mem_filterMap.1 hreported
    cases event with
    | enactmentFailed id reason => cases hof
    | proposalEnacted id =>
        obtain ⟨proposal, hproposal, hdecision⟩ := Option.map_eq_some_iff.1 hof
        have hid : id ∈ Democracy.queued s.democracy := hqueued _ hevent
        obtain ⟨identifier, hwaiting⟩ := Democracy.mem_queued.1 hid
        obtain ⟨approved, happroved, hstate, -⟩ := hinv.approved identifier id hwaiting
        rw [hproposal, Option.some.injEq] at happroved
        subst happroved
        exact ⟨id, hid, proposal, hproposal, hstate, hdecision⟩
  · obtain ⟨cid, -, heq⟩ := List.mem_map.1 hremoved
    cases heq

/-! ## Runs -/

namespace Chain

/-- What the next action commands; a failing action commands nothing. -/
def commands (config : Config AccountId) (chain : Chain AccountId)
    (action : Action AccountId) : List (Command AccountId) :=
  match dispatch config chain.runtime action with
  | .ok (runtime, _) => commandsOf config chain.runtime runtime action
  | .error _ => []

/-- Every decision is that of a privileged call, or of a proposal that was approved. -/
def Legitimate (config : Config AccountId) (chain : Chain AccountId)
    (action : Action AccountId) : Prop :=
  ∀ decided, .decide decided ∈ chain.commands config action →
    action.decision = some decided ∨ Democracy.Waits chain.runtime.democracy decided

private theorem step_obeys (config : Config AccountId) (chain : Chain AccountId)
    (action : Action AccountId) (hpreset : NothingPreset chain.runtime) :
    Obeys chain.runtime (chain.step config action).runtime (chain.commands config action) := by
  unfold step commands
  cases hdispatch : dispatch config chain.runtime action with
  | error e => exact .refl chain.runtime
  | ok result =>
      obtain ⟨runtime, observations⟩ := result
      exact (dispatch_outcome hdispatch).obeys hpreset

private theorem step_legitimate (config : Config AccountId) (chain : Chain AccountId)
    (action : Action AccountId) (hinv : QueueInvariant chain.runtime) :
    Legitimate config chain action := by
  intro decided hmem
  unfold commands at hmem
  cases hdispatch : dispatch config chain.runtime action with
  | error e =>
      rw [hdispatch] at hmem
      cases hmem
  | ok result =>
      obtain ⟨runtime, observations⟩ := result
      rw [hdispatch] at hmem
      have hcommand : .decide decided ∈ commandsOf config chain.runtime runtime action := hmem
      by_cases hphase : MayChangePhase action
      · rw [commandsOf_of_mayChangePhase hphase] at hcommand
        exact Or.inr (hinv.decide_waits (dispatch_outcome hdispatch).democracyStep hcommand)
      · left
        cases action with
        | beginBlock now random => exact absurd trivial hphase
        | nextPhase random => exact absurd trivial hphase
        | _ => simp_all [commandsOf, Action.decision]

end Chain

namespace Democracy

/-- In every run, the settings of the communities and the swap options are what the commands so
far make of nothing, and every decision among them was legitimate when it was taken. -/
theorem settings_follow_commands (config : Config AccountId) (genesis : GenesisConfig)
    (nativeBalances : StorageMap AccountId Nat)
    (assetBalances : StorageMap (AccountId × AssetKind) Nat) (actions : List (Action AccountId)) :
    let start := Chain.genesis genesis nativeBalances assetBalances
    governed (start.run config actions).runtime =
        (Machine.log (Chain.step config) (Chain.commands config) start actions).foldl
          Governed.obey Governed.nothing ∧
      Machine.Along (Chain.step config) (Chain.Legitimate config) start actions := by
  intro start
  constructor
  · have hstep (chain : Chain AccountId) (action : Action AccountId)
        (logged : List (Command AccountId)) (h : NothingPreset chain.runtime ∧
          governed chain.runtime = logged.foldl Governed.obey Governed.nothing) :
        NothingPreset (chain.step config action).runtime ∧
          governed (chain.step config action).runtime =
            (logged ++ chain.commands config action).foldl Governed.obey Governed.nothing := by
      have hobeys := chain.step_obeys config action h.1
      exact ⟨hobeys.preset h.1, by rw [hobeys.governed, h.2, List.foldl_append]⟩
    have hstart : NothingPreset start.runtime ∧
        governed start.runtime = [].foldl Governed.obey Governed.nothing :=
      ⟨fun _ _ => ⟨rfl, rfl⟩, rfl⟩
    exact (Machine.log_invariant (Chain.commands config)
      (fun (chain : Chain AccountId) logged => NothingPreset chain.runtime ∧
        governed chain.runtime = logged.foldl Governed.obey Governed.nothing)
      hstep hstart actions).2
  · apply Machine.Along.with_invariant (fun chain => QueueInvariant chain.runtime)
    · intro chain action hinv _
      exact ⟨hinv.step (Chain.democracyStep config chain action),
        chain.step_legitimate config action hinv⟩
    · exact QueueInvariant.genesis genesis nativeBalances assetBalances
    · exact Machine.Along.of_prefixes (fun _ => True) (fun _ _ _ _ => trivial) fun _ _ => trivial

end Democracy

end Encointer
