import Encointer.Commitments.CommitOnce
import Encointer.Treasuries.SwapAccounting

/-!
# Payouts of faucets

Each faucet has a purpose of its own, and pays once for a reputation that is
committed to it. The reserve of its creator is released when it goes.
-/

namespace Encointer

open Dispatch

variable {AccountId : Type} [DecidableEq AccountId] {config : Config AccountId}
  {s s' : Runtime AccountId}

/-! ## The reserves of the currency -/

/--
What the currency promises of its named reserves. A reserve moves the amount from the free balance
of the account under the identifier; `unreserve_all_named` moves all that is there back.
-/
structure NamedReservable (config : Config AccountId) : Prop where
  reserve_free : ∀ {free free' : StorageMap AccountId Nat}
    {reserves reserves' : StorageMap (Vector UInt8 8 × AccountId) Nat} {id : Vector UInt8 8}
    {who : AccountId} {amount : Nat},
    config.currencyReserveNamed free reserves id who amount = some (free', reserves') →
      ∀ a, free'.get a 0 + (if a = who then amount else 0) = free.get a 0
  reserve_reserved : ∀ {free free' : StorageMap AccountId Nat}
    {reserves reserves' : StorageMap (Vector UInt8 8 × AccountId) Nat} {id : Vector UInt8 8}
    {who : AccountId} {amount : Nat},
    config.currencyReserveNamed free reserves id who amount = some (free', reserves') →
      ∀ k, reserves'.get k 0 = reserves.get k 0 + if k = (id, who) then amount else 0
  unreserve_free : ∀ (free : StorageMap AccountId Nat)
    (reserves : StorageMap (Vector UInt8 8 × AccountId) Nat) (id : Vector UInt8 8)
    (who a : AccountId),
    (config.currencyUnreserveAllNamed free reserves id who).1.get a 0 =
      free.get a 0 + if a = who then reserves.get (id, who) 0 else 0
  unreserve_reserved : ∀ (free : StorageMap AccountId Nat)
    (reserves : StorageMap (Vector UInt8 8 × AccountId) Nat) (id : Vector UInt8 8)
    (who : AccountId) (k : Vector UInt8 8 × AccountId),
    (config.currencyUnreserveAllNamed free reserves id who).2.get k 0 =
      if k = (id, who) then 0 else reserves.get k 0

/-! ## What the calls write -/

namespace Faucet

def accountOf (config : Config AccountId) (name : PalletString) : AccountId :=
  config.faucetAccount (config.faucetPalletId.toList ++ name)

theorem createFaucet_spec {sender : AccountId} {name : PalletString} {amount : Nat}
    {whitelist : Option (List CommunityIdentifier)} {dripAmount : Nat}
    {commitments : CommitmentsStorage AccountId} {treasuries : TreasuriesStorage AccountId}
    {faucet : FaucetStorage AccountId}
    (h : createFaucet config s sender name amount whitelist dripAmount =
      .ok (commitments, treasuries, faucet)) :
    s.faucet.faucets.contains (accountOf config name) = false ∧
      ∃ created : Faucet AccountId, created.purposeId = s.commitments.currentPurposeId ∧
        faucet.faucets = s.faucet.faucets.insert (accountOf config name) created ∧
        ∃ nativeBalances,
          config.currencyReserveNamed s.treasuries.nativeBalances s.treasuries.namedReserves
            (getReserveId config (accountOf config name)) created.creator s.faucet.reserveAmount =
              some (nativeBalances, treasuries.namedReserves) ∧
          config.currencyTransfer nativeBalances created.creator (accountOf config name) amount =
            some treasuries.nativeBalances := by
  simp only [createFaucet, bind_eq_ok, okOr_eq_ok, ensure_eq_ok, ok_inj, Prod.mk.injEq,
    exists_const] at h
  obtain ⟨-, -, -, -, hnew, ⟨nativeBalances, namedReserves⟩, hreserve, _, htransfer, -,
    ⟨_, purposeId⟩, hpurpose, -, rfl, rfl⟩ := h
  exact ⟨hnew, ⟨name, purposeId, whitelist, dripAmount, sender⟩,
    (Commitments.doRegisterPurpose_spec hpurpose).1, rfl, nativeBalances, hreserve, htransfer⟩

theorem drip_spec {sender faucetAccount : AccountId} {cid : CommunityIdentifier} {cindex : Nat}
    {commitments : CommitmentsStorage AccountId} {treasuries : TreasuriesStorage AccountId}
    (h : drip config s sender faucetAccount cid cindex = .ok (commitments, treasuries)) :
    ∃ faucet, s.faucet.faucets.lookup faucetAccount = some faucet ∧
      (∀ cids ∈ faucet.whitelist, cid ∈ cids) ∧
      config.currencyTransfer s.treasuries.nativeBalances faucetAccount sender faucet.dripAmount =
        some treasuries.nativeBalances ∧
      treasuries.namedReserves = s.treasuries.namedReserves := by
  simp only [drip, bind_eq_ok, okOr_eq_ok, ensure_eq_ok, exists_const, ok_inj, Prod.mk.injEq] at h
  obtain ⟨faucet, hfaucet, hwhitelist, _, -, _, htransfer, -, rfl⟩ := h
  exact ⟨faucet, hfaucet, hwhitelist, htransfer, rfl⟩

theorem removeFaucet_spec {faucet : Faucet AccountId} {faucetAccount beneficiary : AccountId}
    {treasuries : TreasuriesStorage AccountId} {storage : FaucetStorage AccountId}
    (h : removeFaucet config s faucet faucetAccount beneficiary = .ok (treasuries, storage)) :
    storage = { s.faucet with faucets := s.faucet.faucets.erase faucetAccount } ∧
    let unreserved := config.currencyUnreserveAllNamed s.treasuries.nativeBalances
      s.treasuries.namedReserves (getReserveId config faucetAccount) faucet.creator
    treasuries.namedReserves = unreserved.2 ∧
      config.currencyTransferAllowDeath unreserved.1 faucetAccount beneficiary
        (unreserved.1.get faucetAccount 0) = some treasuries.nativeBalances := by
  simp only [removeFaucet, bind_eq_ok, okOr_eq_ok, ok_inj, Prod.mk.injEq] at h
  obtain ⟨_, htransfer, rfl, rfl⟩ := h
  exact ⟨rfl, rfl, htransfer⟩

end Faucet

/-! ## What other actions leave -/

/-- The action writes the storage of faucets. -/
def WritesFaucets : Action AccountId → Prop
  | .createFaucet .. | .dissolveFaucet .. | .closeFaucet .. => True
  | _ => False

/-- The same faucets and reserves. -/
structure SameFaucets (s s' : Runtime AccountId) : Prop where
  faucets : s'.faucet.faucets = s.faucet.faucets
  reserves : s'.treasuries.namedReserves = s.treasuries.namedReserves

omit [DecidableEq AccountId] in
theorem SameFaucets.of_eq (hfaucet : s'.faucet = s.faucet)
    (htreasuries : s'.treasuries = s.treasuries) : SameFaucets s s' := by
  constructor
  · rw [hfaucet]
  · rw [htreasuries]

theorem Democracy.enactAction_reserves (s : Runtime AccountId) (action : ProposalAction AccountId) :
    (enactAction config s action).1.treasuries.namedReserves = s.treasuries.namedReserves := by
  cases action with
  | spendNative maybeCid beneficiary amount =>
      simp only [enactAction, Treasuries.doSpendNative]
      cases config.currencyTransfer s.treasuries.nativeBalances (config.treasuryAccount maybeCid)
        beneficiary amount <;> rfl
  | spendAsset maybeCid beneficiary amount assetId =>
      simp only [enactAction, Treasuries.doSpendAsset]
      cases config.paymasterTransfer s.treasuries.assetBalances (config.treasuryAccount maybeCid)
        beneficiary assetId amount <;> rfl
  | issueSwapNativeOption => rfl
  | issueSwapAssetOption => rfl
  | _ =>
      simp only [enactAction]
      try split
      all_goals rfl

theorem Dispatch.Enters.sameFaucets {newPhase : CeremonyPhaseType}
    (h : Enters config s s' newPhase) : SameFaucets s s' := by
  constructor
  · obtain ⟨now, blockNumber, t, random, -, -, hreacted⟩ := h
    obtain ⟨enacted, henact, hceremonies⟩ := onCeremonyPhaseChange_spec hreacted
    obtain ⟨henacted, -⟩ := Democracy.onCeremonyPhaseChange_changes henact
    rw [(Ceremonies.onCeremonyPhaseChange_funds hceremonies).2, henacted.faucet]
  · have hview (s : Runtime AccountId) (action : ProposalAction AccountId)
        (_ : (fun _ : ProposalAction AccountId => false) action = false) :
        TreasuriesStorage.namedReserves (Democracy.enactAction config s action).1.treasuries =
          TreasuriesStorage.namedReserves s.treasuries := Democracy.enactAction_reserves s action
    refine Enters.view hview ?_ h
    rintro - ⟨proposalId, -, hissues⟩
    simp at hissues

theorem Dispatch.dispatchQuiet_faucets {action : Action AccountId}
    (hwrites : ¬ WritesFaucets action)
    (h : dispatchQuiet config s action = .ok s') : SameFaucets s s' := by
  by_cases hphase : MayChangePhase action
  · rcases mayChangePhase_enters_or_ticks hphase h with ⟨newPhase, henters⟩ | hticks
    · exact henters.sameFaucets
    · obtain ⟨now, blockNumber, scheduler, rfl⟩ := hticks.runtime
      exact .of_eq rfl rfl
  · cases action with
    | beginBlock now random => exact absurd trivial hphase
    | nextPhase random => exact absurd trivial hphase
    | createFaucet => exact absurd trivial hwrites
    | dissolveFaucet => exact absurd trivial hwrites
    | closeFaucet => exact absurd trivial hwrites
    | setReserveAmount reserveAmount =>
        simp only [dispatchQuiet, ok_inj] at h
        rw [← h]
        exact ⟨rfl, rfl⟩
    | drip sender faucetAccount cid cindex =>
        simp only [dispatchQuiet, bind_eq_ok, ok_inj] at h
        obtain ⟨⟨commitments, treasuries⟩, hdrip, rfl⟩ := h
        obtain ⟨faucet, -, -, -, hreserves⟩ := Faucet.drip_spec hdrip
        exact ⟨rfl, hreserves⟩
    | swapNative sender cid amount =>
        simp only [dispatchQuiet, bind_eq_ok, ok_inj] at h
        obtain ⟨⟨treasuries, balances⟩, hswap, rfl⟩ := h
        obtain ⟨option, rate, nativeBalances, -, -, -, -, -, -, -, -, rfl⟩ :=
          Treasuries.swapNative_spec hswap
        exact ⟨rfl, rfl⟩
    | swapAsset sender cid amount =>
        simp only [dispatchQuiet, bind_eq_ok, ok_inj] at h
        obtain ⟨⟨treasuries, balances⟩, hswap, rfl⟩ := h
        obtain ⟨option, rate, assetBalances, -, -, -, -, -, -, -, rfl⟩ :=
          Treasuries.swapAsset_spec hswap
        exact ⟨rfl, rfl⟩
    | _ =>
        simp only [dispatchQuiet, bind_eq_ok, ok_inj] at h
        constructor <;> grind

theorem Dispatch.Outcome.faucets {action : Action AccountId}
    {observations : List (Observation AccountId)} (hwrites : ¬ WritesFaucets action)
    (h : Outcome config s action s' observations) : SameFaucets s s' := by
  cases h with
  | quiet hcall hobs heffects => exact dispatchQuiet_faucets hwrites hcall
  | register sender cid proof c t haction hcall hs hobs => subst hs; exact .of_eq rfl rfl
  | upgrade sender cid proof c t haction hcall hs hobs => subst hs; exact .of_eq rfl rfl
  | endorse sender cid newbie c t haction hcall hs hobs => subst hs; exact .of_eq rfl rfl
  | claim sender cid maybeMeetupIndex claim haction hcall hs hobs => subst hs; exact .of_eq rfl rfl
  | submit proposalAction commitments democracy cindexes haction hcall hcindexes hs hobs =>
      subst hs
      exact .of_eq rfl rfl
  | vote sender proposalId vote reputations commitments democracy counted purpose haction hcall
      hpurpose hs hobs =>
      subst hs
      exact .of_eq rfl rfl

/-! ## The log of a run -/

/-- What happens to faucets, and which purposes proposals get. -/
inductive FaucetEvent (AccountId : Type) where
  | created (faucetAccount : AccountId) (faucet : Faucet AccountId) (reserve : Nat)
  | dripped (faucetAccount : AccountId) (faucet : Faucet AccountId) (cc : CommunityCeremony)
      (account : AccountId)
  | removed (faucetAccount : AccountId) (faucet : Faucet AccountId) (released : Nat)
  | proposed (purposeId : Nat)

namespace Faucet

def reserveOf (config : Config AccountId) (s : Runtime AccountId) (faucetAccount : AccountId)
    (faucet : Faucet AccountId) : Nat :=
  s.treasuries.namedReserves.get (getReserveId config faucetAccount, faucet.creator) 0

/-- The events of an action that led from one state to the next. -/
def eventsBetween (config : Config AccountId) (s s' : Runtime AccountId) :
    Action AccountId → List (FaucetEvent AccountId)
  | .createFaucet _ name _ _ _ =>
      (s'.faucet.faucets.lookup (accountOf config name)).toList.map fun faucet =>
        .created (accountOf config name) faucet
          (reserveOf config s' (accountOf config name) faucet -
            reserveOf config s (accountOf config name) faucet)
  | .drip sender faucetAccount cid cindex =>
      (s.faucet.faucets.lookup faucetAccount).toList.map fun faucet =>
        .dripped faucetAccount faucet (cid, cindex) sender
  | .dissolveFaucet faucetAccount _ | .closeFaucet _ faucetAccount =>
      (s.faucet.faucets.lookup faucetAccount).toList.map fun faucet =>
        .removed faucetAccount faucet
          (reserveOf config s faucetAccount faucet - reserveOf config s' faucetAccount faucet)
  | .submitProposal _ =>
      (s'.democracy.purposeIds.lookup s'.democracy.proposalCount).toList.map .proposed
  | _ => []

def events (config : Config AccountId) (chain : Chain AccountId) (action : Action AccountId) :
    List (FaucetEvent AccountId) :=
  match dispatch config chain.runtime action with
  | .ok (s', _) => eventsBetween config chain.runtime s' action
  | .error _ => []

end Faucet

namespace FaucetEvent

def purpose : FaucetEvent AccountId → Option Nat
  | .created _ faucet _ => some faucet.purposeId
  | .proposed purposeId => some purposeId
  | _ => none

def commitment : FaucetEvent AccountId → Option (Commitment AccountId)
  | .dripped _ faucet cc account => some (cc, (faucet.purposeId, account))
  | _ => none

def payout (purposeId : Nat) : FaucetEvent AccountId → Nat
  | .dripped _ faucet _ _ => if faucet.purposeId = purposeId then faucet.dripAmount else 0
  | _ => 0

end FaucetEvent

def FaucetEvent.createdAccount : FaucetEvent AccountId → Option AccountId
  | .created faucetAccount _ _ => some faucetAccount
  | _ => none

/-- The accounts of the faucets that were created are told apart by their reserve identifiers. -/
def DistinctReserveIds (config : Config AccountId) (log : List (FaucetEvent AccountId)) : Prop :=
  ∀ account ∈ log.filterMap FaucetEvent.createdAccount,
    ∀ account' ∈ log.filterMap FaucetEvent.createdAccount,
      Faucet.getReserveId config account = Faucet.getReserveId config account' → account = account'

instance (config : Config AccountId) (log : List (FaucetEvent AccountId)) :
    Decidable (DistinctReserveIds config log) :=
  inferInstanceAs (Decidable (∀ account ∈ log.filterMap FaucetEvent.createdAccount, _))

namespace DistinctReserveIds

variable {log new : List (FaucetEvent AccountId)}

omit [DecidableEq AccountId] in
theorem eq_of_created (h : DistinctReserveIds config log) {account account' : AccountId}
    {faucet faucet' : Faucet AccountId} {reserve reserve' : Nat}
    (hcreated : .created account faucet reserve ∈ log)
    (hcreated' : .created account' faucet' reserve' ∈ log)
    (hid : Faucet.getReserveId config account = Faucet.getReserveId config account') :
    account = account' :=
  h account (List.mem_filterMap.2 ⟨_, hcreated, rfl⟩) account'
    (List.mem_filterMap.2 ⟨_, hcreated', rfl⟩) hid

omit [DecidableEq AccountId] in
theorem of_append (h : DistinctReserveIds config (log ++ new)) : DistinctReserveIds config log := by
  unfold DistinctReserveIds at h
  rw [List.filterMap_append] at h
  intro account hmem account' hmem'
  exact h account (List.mem_append_left _ hmem) account' (List.mem_append_left _ hmem')

end DistinctReserveIds

/-! ## The invariant -/

/-- What the log of a run tells about the faucets of its last state. -/
structure FaucetInvariant (config : Config AccountId) (chain : Chain AccountId)
    (log : List (FaucetEvent AccountId)) : Prop where
  instances : ∀ account faucet, chain.runtime.faucet.faucets.lookup account = some faucet →
    .created account faucet (Faucet.reserveOf config chain.runtime account faucet) ∈ log
  reserves : ∀ id who, chain.runtime.treasuries.namedReserves.get (id, who) 0 ≠ 0 →
    ∃ account faucet, chain.runtime.faucet.faucets.lookup account = some faucet ∧
      Faucet.getReserveId config account = id ∧ faucet.creator = who
  purposes : (log.filterMap FaucetEvent.purpose).Sublist (purposesOf chain.trace)
  commitments : (log.filterMap FaucetEvent.commitment).Sublist (commitmentsOf chain.trace)
  dripped : ∀ account faucet cc a, .dripped account faucet cc a ∈ log →
    (∃ reserve, .created account faucet reserve ∈ log) ∧ ∀ cids ∈ faucet.whitelist, cc.1 ∈ cids
  removed : ∀ account faucet released, .removed account faucet released ∈ log →
    .created account faucet released ∈ log

namespace FaucetInvariant

variable {chain : Chain AccountId} {log new : List (FaucetEvent AccountId)}
  {observations : List (Observation AccountId)}

theorem genesis (config : Config AccountId) (genesis : GenesisConfig)
    (nativeBalances : StorageMap AccountId Nat)
    (assetBalances : StorageMap (AccountId × AssetKind) Nat) :
    FaucetInvariant config (Chain.genesis genesis nativeBalances assetBalances) [] where
  instances := by
    intro account faucet h
    cases h
  reserves := by
    intro id who h
    exact absurd rfl h
  purposes := List.nil_sublist _
  commitments := List.nil_sublist _
  dripped := by
    intro account faucet cc a h
    cases h
  removed := by
    intro account faucet released h
    cases h

/-- A step keeps what the log tells about itself, if that holds of the new events. -/
theorem append (h : FaucetInvariant config chain log)
    (instances : ∀ account faucet, s'.faucet.faucets.lookup account = some faucet →
      .created account faucet (Faucet.reserveOf config s' account faucet) ∈ log ++ new)
    (reserves : ∀ id who, s'.treasuries.namedReserves.get (id, who) 0 ≠ 0 →
      ∃ account faucet, s'.faucet.faucets.lookup account = some faucet ∧
        Faucet.getReserveId config account = id ∧ faucet.creator = who)
    (purposes : (new.filterMap FaucetEvent.purpose).Sublist (purposesOf observations))
    (commitments : (new.filterMap FaucetEvent.commitment).Sublist (commitmentsOf observations))
    (dripped : ∀ account faucet cc a, .dripped account faucet cc a ∈ new →
      (∃ reserve, .created account faucet reserve ∈ log) ∧ ∀ cids ∈ faucet.whitelist, cc.1 ∈ cids)
    (removed : ∀ account faucet released, .removed account faucet released ∈ new →
      .created account faucet released ∈ log) :
    FaucetInvariant config ⟨s', chain.trace ++ observations⟩ (log ++ new) where
  instances := instances
  reserves := reserves
  purposes := by
    unfold purposesOf at *
    rw [List.filterMap_append, List.filterMap_append]
    exact h.purposes.append purposes
  commitments := by
    unfold commitmentsOf at *
    rw [List.filterMap_append, List.filterMap_append]
    exact h.commitments.append commitments
  dripped := by
    intro account faucet cc a hmem
    have hcreated : (∃ reserve, .created account faucet reserve ∈ log) ∧
        ∀ cids ∈ faucet.whitelist, cc.1 ∈ cids := by
      rcases List.mem_append.1 hmem with hold | hevent
      · exact h.dripped account faucet cc a hold
      · exact dripped account faucet cc a hevent
    obtain ⟨⟨reserve, hreserve⟩, hwhitelist⟩ := hcreated
    exact ⟨⟨reserve, List.mem_append_left _ hreserve⟩, hwhitelist⟩
  removed := by
    intro account faucet released hmem
    apply List.mem_append_left
    rcases List.mem_append.1 hmem with hold | hevent
    · exact h.removed account faucet released hold
    · exact removed account faucet released hevent

theorem same (h : FaucetInvariant config chain log)
    (hsame : SameFaucets chain.runtime s')
    (hnew : ∀ event ∈ new, ∃ purposeId, event = .proposed purposeId)
    (hpurposes : (new.filterMap FaucetEvent.purpose).Sublist (purposesOf observations)) :
    FaucetInvariant config ⟨s', chain.trace ++ observations⟩ (log ++ new) := by
  apply h.append
  · intro account faucet hlookup
    simp only [hsame.faucets] at hlookup
    simp only [Faucet.reserveOf, hsame.reserves]
    exact List.mem_append_left _ (h.instances account faucet hlookup)
  · intro id who hreserve
    simp only [hsame.reserves] at hreserve
    simp only [hsame.faucets]
    exact h.reserves id who hreserve
  · exact hpurposes
  · rw [List.filterMap_eq_nil_iff.2]
    · exact List.nil_sublist _
    · intro event hevent
      obtain ⟨purposeId, rfl⟩ := hnew event hevent
      rfl
  · intro account faucet cc a hevent
    obtain ⟨purposeId, heq⟩ := hnew _ hevent
    cases heq
  · intro account faucet released hevent
    obtain ⟨purposeId, heq⟩ := hnew _ hevent
    cases heq

theorem create (h : FaucetInvariant config chain log) {account : AccountId}
    {faucet : Faucet AccountId} {reserve : Nat}
    (hnew : chain.runtime.faucet.faucets.contains account = false)
    (hfaucets : s'.faucet.faucets = chain.runtime.faucet.faucets.insert account faucet)
    (hreserves : ∀ k, s'.treasuries.namedReserves.get k 0 =
      chain.runtime.treasuries.namedReserves.get k 0 +
        if k = (Faucet.getReserveId config account, faucet.creator) then reserve else 0)
    (hids : DistinctReserveIds config (log ++ [.created account faucet
      (Faucet.reserveOf config s' account faucet -
        Faucet.reserveOf config chain.runtime account faucet)])) :
    FaucetInvariant config ⟨s', chain.trace ++ [.purposeRegistered faucet.purposeId]⟩
      (log ++ [.created account faucet (Faucet.reserveOf config s' account faucet -
        Faucet.reserveOf config chain.runtime account faucet)]) := by
  have hfresh : chain.runtime.faucet.faucets.lookup account = none :=
    StorageMap.contains_eq_false.1 hnew
  have hother {account' : AccountId} {faucet' : Faucet AccountId}
      (hlookup : chain.runtime.faucet.faucets.lookup account' = some faucet') :
      Faucet.getReserveId config account' ≠ Faucet.getReserveId config account := by
    intro hid
    have hsame := hids.eq_of_created (List.mem_append_left _ (h.instances account' faucet' hlookup))
      (List.mem_append_right _ (List.mem_singleton_self _)) hid
    rw [hsame, hfresh] at hlookup
    cases hlookup
  have hfree : Faucet.reserveOf config chain.runtime account faucet = 0 := by
    by_contra hreserved
    obtain ⟨account', faucet', hlookup, hid, -⟩ := h.reserves _ _ hreserved
    exact hother hlookup hid
  rw [hfree, Nat.sub_zero] at hids ⊢
  apply h.append
  · intro account' faucet' hlookup
    simp only [hfaucets, StorageMap.lookup_insert_eq] at hlookup
    split at hlookup
    · rename_i haccount
      rw [Option.some.injEq] at hlookup
      rw [haccount, ← hlookup]
      exact List.mem_append_right _ (List.mem_singleton_self _)
    · have hkept : Faucet.reserveOf config s' account' faucet' =
          Faucet.reserveOf config chain.runtime account' faucet' := by
        rw [Faucet.reserveOf, hreserves, if_neg, Nat.add_zero, Faucet.reserveOf]
        intro hkey
        exact hother hlookup (Prod.mk.inj hkey).1
      rw [hkept]
      exact List.mem_append_left _ (h.instances account' faucet' hlookup)
  · intro id who hreserved
    rw [hreserves] at hreserved
    simp only [hfaucets, StorageMap.lookup_insert_eq]
    by_cases hkey : (id, who) = (Faucet.getReserveId config account, faucet.creator)
    · obtain ⟨rfl, rfl⟩ := Prod.mk.inj hkey
      exact ⟨account, faucet, if_pos rfl, rfl, rfl⟩
    · rw [if_neg hkey, Nat.add_zero] at hreserved
      obtain ⟨account', faucet', hlookup, hid, hcreator⟩ := h.reserves id who hreserved
      refine ⟨account', faucet', ?_, hid, hcreator⟩
      rw [if_neg]
      · exact hlookup
      · rintro rfl
        exact absurd (hlookup.symm.trans hfresh) (by simp)
  · exact List.Sublist.refl _
  · exact List.Sublist.refl _
  · intro account faucet' cc a hevent
    cases List.mem_singleton.1 hevent
  · intro account faucet' released hevent
    cases List.mem_singleton.1 hevent

theorem drip (h : FaucetInvariant config chain log) {faucetAccount sender : AccountId}
    {faucet : Faucet AccountId} {cc : CommunityCeremony}
    (hlookup : chain.runtime.faucet.faucets.lookup faucetAccount = some faucet)
    (hwhitelist : ∀ cids ∈ faucet.whitelist, cc.1 ∈ cids) (hsame : SameFaucets chain.runtime s') :
    FaucetInvariant config
      ⟨s', chain.trace ++ [.committed cc faucet.purposeId sender]⟩
      (log ++ [.dripped faucetAccount faucet cc sender]) := by
  apply h.append
  · intro account faucet' hlookup'
    simp only [hsame.faucets] at hlookup'
    simp only [Faucet.reserveOf, hsame.reserves]
    exact List.mem_append_left _ (h.instances account faucet' hlookup')
  · simp only [hsame.faucets, hsame.reserves]
    exact h.reserves
  · exact List.Sublist.refl _
  · exact List.Sublist.refl _
  · intro account faucet' cc' a hevent
    cases List.mem_singleton.1 hevent
    exact ⟨⟨_, h.instances faucetAccount faucet hlookup⟩, hwhitelist⟩
  · intro account faucet' released hevent
    cases List.mem_singleton.1 hevent

theorem remove (hids : DistinctReserveIds config log) (h : FaucetInvariant config chain log)
    {faucetAccount : AccountId} {faucet : Faucet AccountId}
    (hlookup : chain.runtime.faucet.faucets.lookup faucetAccount = some faucet)
    (hfaucets : s'.faucet.faucets = chain.runtime.faucet.faucets.erase faucetAccount)
    (hreserves : ∀ k, s'.treasuries.namedReserves.get k 0 =
      if k = (Faucet.getReserveId config faucetAccount, faucet.creator) then 0
      else chain.runtime.treasuries.namedReserves.get k 0) :
    FaucetInvariant config ⟨s', chain.trace ++ []⟩
      (log ++ [.removed faucetAccount faucet
        (Faucet.reserveOf config chain.runtime faucetAccount faucet -
          Faucet.reserveOf config s' faucetAccount faucet)]) := by
  have hcreated := h.instances faucetAccount faucet hlookup
  have hnone : Faucet.reserveOf config s' faucetAccount faucet = 0 := by
    rw [Faucet.reserveOf, hreserves, if_pos rfl]
  rw [hnone, Nat.sub_zero]
  apply h.append
  · intro account faucet' hlookup'
    simp only [hfaucets, StorageMap.lookup_erase_eq] at hlookup'
    split at hlookup'
    · cases hlookup'
    · rename_i haccount
      have hmem := h.instances account faucet' hlookup'
      have hkept : Faucet.reserveOf config s' account faucet' =
          Faucet.reserveOf config chain.runtime account faucet' := by
        rw [Faucet.reserveOf, hreserves, if_neg, Faucet.reserveOf]
        intro hkey
        exact haccount (hids.eq_of_created hmem hcreated (Prod.mk.inj hkey).1)
      rw [hkept]
      exact List.mem_append_left _ hmem
  · intro id who hreserved
    rw [hreserves] at hreserved
    simp only [hfaucets, StorageMap.lookup_erase_eq]
    by_cases hkey : (id, who) = (Faucet.getReserveId config faucetAccount, faucet.creator)
    · rw [if_pos hkey] at hreserved
      exact absurd rfl hreserved
    · rw [if_neg hkey] at hreserved
      obtain ⟨account, faucet', hlookup', hid, hcreator⟩ := h.reserves id who hreserved
      refine ⟨account, faucet', ?_, hid, hcreator⟩
      rw [if_neg]
      · exact hlookup'
      · rintro rfl
        rw [hlookup, Option.some.injEq] at hlookup'
        subst hlookup'
        exact hkey (Prod.ext hid.symm hcreator.symm)
  · exact List.Sublist.refl _
  · exact List.Sublist.refl _
  · intro account faucet' cc a hevent
    cases List.mem_singleton.1 hevent
  · intro account faucet' released hevent
    cases List.mem_singleton.1 hevent
    exact hcreated

theorem removed_step (hcurrency : NamedReservable config) (hids : DistinctReserveIds config log)
    (h : FaucetInvariant config chain log)
    {faucetAccount beneficiary : AccountId} {faucet : Faucet AccountId}
    {treasuries : TreasuriesStorage AccountId} {storage : FaucetStorage AccountId}
    (hlookup : chain.runtime.faucet.faucets.lookup faucetAccount = some faucet)
    (hremove : Faucet.removeFaucet config chain.runtime faucet faucetAccount beneficiary =
      .ok (treasuries, storage))
    (hs : s' = { chain.runtime with treasuries := treasuries, faucet := storage }) :
    FaucetInvariant config ⟨s', chain.trace ++ []⟩
      (log ++ (chain.runtime.faucet.faucets.lookup faucetAccount).toList.map fun faucet =>
        .removed faucetAccount faucet
          (Faucet.reserveOf config chain.runtime faucetAccount faucet -
            Faucet.reserveOf config s' faucetAccount faucet)) := by
  obtain ⟨hstorage, hreserves, -⟩ := Faucet.removeFaucet_spec hremove
  rw [hlookup]
  apply h.remove hids hlookup
  · rw [hs, hstorage]
  · intro k
    rw [hs]
    show treasuries.namedReserves.get k 0 = _
    rw [hreserves, hcurrency.unreserve_reserved]

/-- What a successful action does to the invariant. -/
theorem outcome (hcurrency : NamedReservable config) (h : FaucetInvariant config chain log)
    {action : Action AccountId} (hdispatch : dispatch config chain.runtime action =
      .ok (s', observations))
    (hids : DistinctReserveIds config
      (log ++ Faucet.eventsBetween config chain.runtime s' action)) :
    FaucetInvariant config ⟨s', chain.trace ++ observations⟩
      (log ++ Faucet.eventsBetween config chain.runtime s' action) := by
  cases action with
  | createFaucet sender name amount whitelist dripAmount =>
      simp only [dispatch, dispatchQuiet, bind_eq_ok, ok_inj, Prod.mk.injEq] at hdispatch
      obtain ⟨_, ⟨⟨commitments, treasuries, faucet⟩, hcreate, rfl⟩, rfl, rfl⟩ := hdispatch
      obtain ⟨hnew, created, hpurpose, hfaucets, nativeBalances, hreserve, -⟩ :=
        Faucet.createFaucet_spec hcreate
      have hlookup : faucet.faucets.lookup (Faucet.accountOf config name) = some created := by
        rw [hfaucets, StorageMap.lookup_insert_eq, if_pos rfl]
      simp only [Faucet.eventsBetween, hlookup] at hids
      simp only [Faucet.eventsBetween, commitmentObservations, hlookup, ← hpurpose]
      exact h.create hnew hfaucets (hcurrency.reserve_reserved hreserve) hids
  | drip sender faucetAccount cid cindex =>
      simp only [dispatch, dispatchQuiet, bind_eq_ok, ok_inj, Prod.mk.injEq] at hdispatch
      obtain ⟨_, ⟨⟨commitments, treasuries⟩, hdrip, rfl⟩, rfl, rfl⟩ := hdispatch
      obtain ⟨faucet, hlookup, hwhitelist, -, hreserves⟩ := Faucet.drip_spec hdrip
      simp only [Faucet.eventsBetween, commitmentObservations, hlookup]
      exact h.drip hlookup hwhitelist ⟨rfl, hreserves⟩
  | dissolveFaucet faucetAccount beneficiary =>
      simp only [dispatch, dispatchQuiet, Faucet.dissolveFaucet, bind_eq_ok, okOr_eq_ok, ok_inj,
        Prod.mk.injEq] at hdispatch
      obtain ⟨_, ⟨⟨treasuries, storage⟩, ⟨faucet, hlookup, hremove⟩, rfl⟩, rfl, rfl⟩ := hdispatch
      exact h.removed_step hcurrency hids.of_append hlookup hremove rfl
  | closeFaucet sender faucetAccount =>
      simp only [dispatch, dispatchQuiet, Faucet.closeFaucet, bind_eq_ok, okOr_eq_ok, ensure_eq_ok,
        exists_const, ok_inj, Prod.mk.injEq] at hdispatch
      obtain ⟨_, ⟨⟨treasuries, storage⟩, ⟨faucet, hlookup, -, -, hremove⟩, rfl⟩, rfl, rfl⟩ := hdispatch
      exact h.removed_step hcurrency hids.of_append hlookup hremove rfl
  | submitProposal proposalAction =>
      simp only [dispatch, bind_eq_ok, ok_inj, Prod.mk.injEq] at hdispatch
      obtain ⟨⟨commitments, democracy⟩, hsubmit, cindexes, -, rfl, rfl⟩ := hdispatch
      obtain ⟨cindexes', purposeId, heffect⟩ := Democracy.submitProposal_spec hsubmit
      obtain ⟨rfl, -, -⟩ := Commitments.doRegisterPurpose_spec heffect.purpose
      have hevents : Faucet.eventsBetween config chain.runtime
          { chain.runtime with commitments := commitments, democracy := democracy }
          (.submitProposal proposalAction) =
            [.proposed chain.runtime.commitments.currentPurposeId] := by
        simp [Faucet.eventsBetween, heffect.stored, StorageMap.lookup_insert_eq]
      rw [hevents]
      apply h.same
      · exact ⟨rfl, rfl⟩
      · intro event hevent
        exact ⟨_, List.mem_singleton.1 hevent⟩
      · exact List.Sublist.refl _
  | _ =>
      apply h.same
      · exact (dispatch_outcome hdispatch).faucets (by simp [WritesFaucets])
      · intro event hevent
        cases hevent
      · exact List.nil_sublist _

theorem step (hcurrency : NamedReservable config) (h : FaucetInvariant config chain log)
    (action : Action AccountId)
    (hids : DistinctReserveIds config (log ++ Faucet.events config chain action)) :
    FaucetInvariant config (chain.step config action)
      (log ++ Faucet.events config chain action) := by
  unfold Faucet.events at hids ⊢
  unfold Chain.step
  cases hdispatch : dispatch config chain.runtime action with
  | error e =>
      rw [List.append_nil]
      exact h
  | ok result =>
      rw [hdispatch] at hids
      exact h.outcome hcurrency hdispatch hids

end FaucetInvariant

def Faucet.log (config : Config AccountId) (chain : Chain AccountId)
    (actions : List (Action AccountId)) : List (FaucetEvent AccountId) :=
  Machine.log (Chain.step config) (Faucet.events config) chain actions

/-- Only the faucets of the run have to be told apart. -/
theorem FaucetInvariant.run {chain : Chain AccountId} {log : List (FaucetEvent AccountId)}
    (hcurrency : NamedReservable config) (h : FaucetInvariant config chain log)
    (actions : List (Action AccountId))
    (hids : DistinctReserveIds config (log ++ Faucet.log config chain actions)) :
    FaucetInvariant config (chain.run config actions) (log ++ Faucet.log config chain actions) :=
  Machine.log_invariant (Faucet.events config)
    (fun chain log => DistinctReserveIds config log → FaucetInvariant config chain log)
    (fun _ action _ h hids => (h hids.of_append).step hcurrency action hids) (fun _ => h) actions
    hids

/-! ## Payouts -/

def commitmentsTo (trace : List (Observation AccountId)) (purposeId : Nat) :
    Finset (Commitment AccountId) :=
  (commitmentsOf trace).toFinset.filter fun k => k.2.1 = purposeId

omit [DecidableEq AccountId] in
/-- Drips of one amount pay it once for each commitment. -/
theorem sum_payout_eq {log : List (FaucetEvent AccountId)} {purposeId amount : Nat}
    (h : ∀ account faucet cc a, .dripped account faucet cc a ∈ log →
      faucet.purposeId = purposeId → faucet.dripAmount = amount) :
    (log.map (FaucetEvent.payout purposeId)).sum =
      amount * ((log.filterMap FaucetEvent.commitment).filter fun k => k.2.1 = purposeId).length := by
  induction log with
  | nil => rfl
  | cons event log ih =>
      have hlog := ih fun account faucet cc a hmem =>
        h account faucet cc a (List.mem_cons_of_mem _ hmem)
      rw [List.map_cons, List.sum_cons, hlog]
      cases event with
      | dripped account faucet cc a =>
          rw [List.filterMap_cons_some (show FaucetEvent.commitment _ = some _ from rfl)]
          by_cases hpurpose : faucet.purposeId = purposeId
          · have hamount := h account faucet cc a List.mem_cons_self hpurpose
            simp [FaucetEvent.payout, hpurpose, hamount]
            ring
          · simp [FaucetEvent.payout, hpurpose]
      | _ =>
          rw [List.filterMap_cons_none (show FaucetEvent.commitment _ = none from rfl)]
          exact Nat.zero_add _

private theorem card_commitmentsTo {trace : List (Observation AccountId)}
    (hnodup : (commitmentsOf trace).Nodup) (purposeId : Nat) :
    (commitmentsTo trace purposeId).card =
      ((commitmentsOf trace).filter fun k => k.2.1 = purposeId).length := by
  rw [← List.toFinset_card_of_nodup (hnodup.filter _)]
  congr 1
  ext k
  simp [commitmentsTo]

/-- Instances with one purpose are the same, so an instance pays its own amount. -/
theorem FaucetInvariant.sum_payout_le {chain : Chain AccountId} {log : List (FaucetEvent AccountId)}
    (h : FaucetInvariant config chain log) (hcommitments : CommitmentInvariant chain)
    {account : AccountId} {faucet : Faucet AccountId} {reserve : Nat}
    (hcreated : .created account faucet reserve ∈ log) :
    (log.map (FaucetEvent.payout faucet.purposeId)).sum ≤
      faucet.dripAmount * (commitmentsTo chain.trace faucet.purposeId).card := by
  have hpurposes : (log.filterMap FaucetEvent.purpose).Nodup :=
    List.Nodup.sublist h.purposes hcommitments.purposes
  have hamount : ∀ account' faucet' cc a, .dripped account' faucet' cc a ∈ log →
      faucet'.purposeId = faucet.purposeId → faucet'.dripAmount = faucet.dripAmount := by
    intro account' faucet' cc a hmem hpurpose
    obtain ⟨⟨reserve', hcreated'⟩, -⟩ := h.dripped account' faucet' cc a hmem
    have hsame := eq_of_nodup_filterMap hpurposes hcreated' hcreated (congrArg some hpurpose) rfl
    cases hsame
    rfl
  rw [sum_payout_eq hamount, card_commitmentsTo hcommitments.once]
  apply Nat.mul_le_mul_left
  exact (h.commitments.filter _).length_le

/-! ## What moves the funds -/

/--
The native currency moves as the event says: the reserve out of the free balance of the creator
and back into it, and the funds and the drips by transfers.
-/
def FaucetEvent.Moves (config : Config AccountId) (s s' : Runtime AccountId) :
    FaucetEvent AccountId → Prop
  | .created faucetAccount faucet reserve =>
      ∃ (nativeBalances : StorageMap AccountId Nat) (amount : Nat),
      (∀ a, nativeBalances.get a 0 + (if a = faucet.creator then reserve else 0) =
        s.treasuries.nativeBalances.get a 0) ∧
      config.currencyTransfer nativeBalances faucet.creator faucetAccount amount =
        some s'.treasuries.nativeBalances
  | .dripped faucetAccount faucet _ account =>
      config.currencyTransfer s.treasuries.nativeBalances faucetAccount account
        faucet.dripAmount = some s'.treasuries.nativeBalances
  | .removed faucetAccount faucet released =>
      ∃ (nativeBalances : StorageMap AccountId Nat) (beneficiary : AccountId),
        (∀ a, nativeBalances.get a 0 = s.treasuries.nativeBalances.get a 0 +
          if a = faucet.creator then released else 0) ∧
        config.currencyTransferAllowDeath nativeBalances faucetAccount beneficiary
          (nativeBalances.get faucetAccount 0) = some s'.treasuries.nativeBalances
  | .proposed _ => s'.treasuries = s.treasuries

namespace Faucet

theorem removed_moves (hcurrency : NamedReservable config) {faucet : Faucet AccountId}
    {faucetAccount beneficiary : AccountId} {treasuries : TreasuriesStorage AccountId}
    {storage : FaucetStorage AccountId}
    (hlookup : s.faucet.faucets.lookup faucetAccount = some faucet)
    (hremove : removeFaucet config s faucet faucetAccount beneficiary = .ok (treasuries, storage))
    (hs : s' = { s with treasuries := treasuries, faucet := storage }) {event : FaucetEvent AccountId}
    (hevent : event ∈ (s.faucet.faucets.lookup faucetAccount).toList.map fun faucet =>
      FaucetEvent.removed faucetAccount faucet (reserveOf config s faucetAccount faucet -
        reserveOf config s' faucetAccount faucet)) : event.Moves config s s' := by
  obtain ⟨-, hreserves, htransfer⟩ := removeFaucet_spec hremove
  have hnone : reserveOf config s' faucetAccount faucet = 0 := by
    rw [hs]
    show treasuries.namedReserves.get _ 0 = 0
    rw [hreserves, hcurrency.unreserve_reserved, if_pos rfl]
  rw [hlookup] at hevent
  simp only [Option.toList_some, List.map_cons, List.map_nil, hnone, Nat.sub_zero] at hevent
  rw [List.mem_singleton.1 hevent, hs]
  exact ⟨_, beneficiary, fun a => hcurrency.unreserve_free _ _ _ _ a, htransfer⟩

private theorem eventsBetween_move (hcurrency : NamedReservable config) {action : Action AccountId}
    {observations : List (Observation AccountId)}
    (hdispatch : dispatch config s action = .ok (s', observations)) {event : FaucetEvent AccountId}
    (hevent : event ∈ eventsBetween config s s' action) : event.Moves config s s' := by
  cases action with
  | createFaucet sender name amount whitelist dripAmount =>
      simp only [dispatch, dispatchQuiet, bind_eq_ok, ok_inj, Prod.mk.injEq] at hdispatch
      obtain ⟨_, ⟨⟨commitments, treasuries, faucet⟩, hcreate, rfl⟩, rfl, rfl⟩ := hdispatch
      obtain ⟨-, created, -, hfaucets, nativeBalances, hreserve, htransfer⟩ :=
        createFaucet_spec hcreate
      have hlookup : faucet.faucets.lookup (accountOf config name) = some created := by
        rw [hfaucets, StorageMap.lookup_insert_eq, if_pos rfl]
      simp only [eventsBetween, hlookup, Option.toList_some, List.map_cons, List.map_nil, reserveOf,
        hcurrency.reserve_reserved hreserve, if_true, Nat.add_sub_cancel_left] at hevent
      rw [List.mem_singleton.1 hevent]
      exact ⟨nativeBalances, amount, hcurrency.reserve_free hreserve, htransfer⟩
  | drip sender faucetAccount cid cindex =>
      simp only [dispatch, dispatchQuiet, bind_eq_ok, ok_inj, Prod.mk.injEq] at hdispatch
      obtain ⟨_, ⟨⟨commitments, treasuries⟩, hdrip, rfl⟩, rfl, rfl⟩ := hdispatch
      obtain ⟨faucet, hlookup, -, htransfer, -⟩ := drip_spec hdrip
      simp only [eventsBetween, hlookup] at hevent
      rw [List.mem_singleton.1 hevent]
      exact htransfer
  | dissolveFaucet faucetAccount beneficiary =>
      simp only [dispatch, dispatchQuiet, dissolveFaucet, bind_eq_ok, okOr_eq_ok, ok_inj,
        Prod.mk.injEq] at hdispatch
      obtain ⟨_, ⟨⟨treasuries, storage⟩, ⟨faucet, hlookup, hremove⟩, rfl⟩, rfl, rfl⟩ := hdispatch
      exact removed_moves hcurrency hlookup hremove rfl hevent
  | closeFaucet sender faucetAccount =>
      simp only [dispatch, dispatchQuiet, closeFaucet, bind_eq_ok, okOr_eq_ok, ensure_eq_ok,
        exists_const, ok_inj, Prod.mk.injEq] at hdispatch
      obtain ⟨_, ⟨⟨treasuries, storage⟩, ⟨faucet, hlookup, -, -, hremove⟩, rfl⟩, rfl, rfl⟩ := hdispatch
      exact removed_moves hcurrency hlookup hremove rfl hevent
  | submitProposal proposalAction =>
      simp only [dispatch, bind_eq_ok, ok_inj, Prod.mk.injEq] at hdispatch
      obtain ⟨⟨commitments, democracy⟩, -, cindexes, -, rfl, rfl⟩ := hdispatch
      obtain ⟨purposeId, -, rfl⟩ := List.mem_map.1 hevent
      rfl
  | _ => cases hevent

theorem events_move (hcurrency : NamedReservable config) (chain : Chain AccountId)
    (action : Action AccountId) {event : FaucetEvent AccountId}
    (hevent : event ∈ events config chain action) :
    event.Moves config chain.runtime (chain.step config action).runtime := by
  unfold events at hevent
  unfold Chain.step
  cases hdispatch : dispatch config chain.runtime action with
  | error e =>
      rw [hdispatch] at hevent
      cases hevent
  | ok result =>
      rw [hdispatch] at hevent
      exact eventsBetween_move hcurrency hdispatch hevent

end Faucet

/-! ## Independent purposes -/

/-- A commitment to one purpose neither blocks nor allows one to another. -/
theorem Commitments.doCommitReputation_isOk_of_ne {account account' : AccountId}
    {cid cid' : CommunityIdentifier} {cindex cindex' purpose purpose' : Nat}
    {commitmentHash commitmentHash' : Option (Vector UInt8 32)}
    {commitments : CommitmentsStorage AccountId} (hne : purpose ≠ purpose')
    (h : doCommitReputation s account cid cindex purpose commitmentHash = .ok commitments) :
    (doCommitReputation { s with commitments := commitments } account' cid' cindex' purpose'
      commitmentHash').isOk =
        (doCommitReputation s account' cid' cindex' purpose' commitmentHash').isOk := by
  obtain ⟨-, -, rfl⟩ := doCommitReputation_spec h
  have hother : ((cid', cindex'), (purpose', account')) ≠ ((cid, cindex), (purpose, account)) := by
    intro hkey
    exact hne (Prod.mk.inj (Prod.mk.inj hkey).2).1.symm
  simp only [doCommitReputation, isOk_ensure_bind, StorageMap.contains_insert, hother, decide_false,
    Bool.false_or]
  rfl

/-! ## Whole runs -/

/-- What a run has paid out of faucets, and what it has released. -/
structure NeverOverpay (config : Config AccountId) (chain : Chain AccountId)
    (log : List (FaucetEvent AccountId)) : Prop where
  /-- An instance pays once for a reputation. -/
  once : (log.filterMap FaucetEvent.commitment).Nodup
  whitelisted : ∀ account faucet cc a, .dripped account faucet cc a ∈ log →
    (∃ reserve, .created account faucet reserve ∈ log) ∧ ∀ cids ∈ faucet.whitelist, cc.1 ∈ cids
  bounded : ∀ account faucet reserve, .created account faucet reserve ∈ log →
    (log.map (FaucetEvent.payout faucet.purposeId)).sum ≤
      faucet.dripAmount * (commitmentsTo chain.trace faucet.purposeId).card
  purposes : (log.filterMap FaucetEvent.purpose).Nodup
  independent : ∀ account account' cid cid' cindex cindex' purpose purpose' hash hash' commitments,
    purpose ≠ purpose' →
      Commitments.doCommitReputation chain.runtime account cid cindex purpose hash =
        .ok commitments →
      (Commitments.doCommitReputation { chain.runtime with commitments := commitments }
        account' cid' cindex' purpose' hash').isOk =
          (Commitments.doCommitReputation chain.runtime account' cid' cindex' purpose' hash').isOk
  /-- What is released is all that was put in reserve. -/
  released : ∀ account faucet released, .removed account faucet released ∈ log →
    .created account faucet released ∈ log
  reserved : ∀ id who, chain.runtime.treasuries.namedReserves.get (id, who) 0 ≠ 0 →
    ∃ account faucet, chain.runtime.faucet.faucets.lookup account = some faucet ∧
      Faucet.getReserveId config account = id ∧ faucet.creator = who

/--
Over a whole run, each faucet pays its drip at most once for a reputation, out of its own account,
and gives its creator the whole reserve back when it goes.
-/
theorem Faucet.faucets_never_overpay (config : Config AccountId)
    (hcurrency : NamedReservable config) (genesis : GenesisConfig)
    (nativeBalances : StorageMap AccountId Nat)
    (assetBalances : StorageMap (AccountId × AssetKind) Nat) (actions : List (Action AccountId)) :
    let start := Chain.genesis genesis nativeBalances assetBalances
    DistinctReserveIds config (Faucet.log config start actions) →
    NeverOverpay config (start.run config actions) (Faucet.log config start actions) ∧
      Machine.Along (Chain.step config)
        (fun chain action => ∀ event ∈ Faucet.events config chain action,
          event.Moves config chain.runtime (chain.step config action).runtime)
        start actions := by
  intro start hids
  have hcommitments : CommitmentInvariant (start.run config actions) :=
    (CommitmentInvariant.genesis genesis nativeBalances assetBalances).run actions
  have hfaucets : FaucetInvariant config (start.run config actions)
      (Faucet.log config start actions) :=
    (FaucetInvariant.genesis config genesis nativeBalances assetBalances).run hcurrency actions hids
  constructor
  · constructor
    · exact List.Nodup.sublist hfaucets.commitments hcommitments.once
    · exact hfaucets.dripped
    · intro account faucet reserve hcreated
      exact hfaucets.sum_payout_le hcommitments hcreated
    · exact List.Nodup.sublist hfaucets.purposes hcommitments.purposes
    · intro account account' cid cid' cindex cindex' purpose purpose' hash hash' commitments hne h
      exact Commitments.doCommitReputation_isOk_of_ne hne h
    · exact hfaucets.removed
    · exact hfaucets.reserves
  · apply Machine.Along.of_prefixes (fun _ => True)
    · intro chain action _ _ event hevent
      exact Faucet.events_move hcurrency chain action hevent
    · intro seen hseen
      trivial

/-! ## A faucet and its successor -/

namespace Demo

def faucetNumber (identifier : PalletString) : UInt8 := identifier.foldl (· + ·) 0

/-- Reserves are exact, and the account of a faucet is told by its first bytes. -/
def faucetConfig : Config Nat := { runtimeConfig with
  currencyTransfer := payExactly
  currencyTransferAllowDeath := payExactly
  currencyReserveNamed := fun free reserves id who amount =>
    if amount ≤ free.get who 0 then
      some (free.insert who (free.get who 0 - amount),
        reserves.insert (id, who) (reserves.get (id, who) 0 + amount))
    else none
  currencyUnreserveAllNamed := fun free reserves id who =>
    (free.insert who (free.get who 0 + reserves.get (id, who) 0), reserves.erase (id, who))
  faucetAccount := fun identifier => 2000 + (faucetNumber identifier).toNat
  accountPrefix := fun account => Vector.replicate 8 (UInt8.ofNat (account - 2000))
  catchBasinAccount := 1999 }

private theorem faucetConfig_reservable : NamedReservable faucetConfig where
  reserve_free := by
    intro free free' reserves reserves' id who amount h a
    simp only [faucetConfig, Option.ite_none_right_eq_some, Option.some.injEq, Prod.mk.injEq] at h
    obtain ⟨hcovered, rfl, -⟩ := h
    rw [StorageMap.get_insert]
    by_cases ha : a = who
    · rw [if_pos ha, if_pos ha, ha, Nat.sub_add_cancel hcovered]
    · rw [if_neg ha, if_neg ha, Nat.add_zero]
  reserve_reserved := by
    intro free free' reserves reserves' id who amount h k
    simp only [faucetConfig, Option.ite_none_right_eq_some, Option.some.injEq, Prod.mk.injEq] at h
    obtain ⟨-, -, rfl⟩ := h
    rw [StorageMap.get_insert]
    by_cases hk : k = (id, who)
    · rw [if_pos hk, if_pos hk, hk]
    · rw [if_neg hk, if_neg hk, Nat.add_zero]
  unreserve_free := by
    intro free reserves id who a
    simp only [faucetConfig, StorageMap.get_insert]
    by_cases ha : a = who
    · rw [if_pos ha, if_pos ha, ha]
    · rw [if_neg ha, if_neg ha, Nat.add_zero]
  unreserve_reserved := by
    intro free reserves id who k
    simp only [faucetConfig, StorageMap.get_erase]

/-- The account of the faucet that is named "A". -/
def faucetA : Nat := Faucet.accountOf faucetConfig [65]

/--
Two faucets are open; the first is closed, and opened again under its name. One reputation is used
twice at each.
-/
def payouts : List (Action Nat) :=
  firstCeremony ++
    [.setReserveAmount 7, .createFaucet 1 [65] 30 (some [islanders]) 10,
      .createFaucet 1 [66] 20 none 15, .drip 2 faucetA islanders 1, .drip 2 faucetA islanders 1,
      .drip 3 faucetA islanders 1, .closeFaucet 1 faucetA,
      .submitProposal (.setInactivityTimeout 8), .createFaucet 1 [65] 30 none 20,
      .drip 2 faucetA islanders 1, .drip 2 faucetA islanders 1, .dissolveFaucet faucetA 9]

end Demo

theorem Faucet.faucets_never_overpay_reopened :
    let start := Chain.genesis Demo.genesis ((∅ : StorageMap _ _).insert 1 100) ∅
    let log := Faucet.log Demo.faucetConfig start Demo.payouts
    (log.map (FaucetEvent.payout 0)).sum = 20 ∧ (log.map (FaucetEvent.payout 3)).sum = 20 ∧
      log.filterMap FaucetEvent.purpose = [0, 1, 2, 3] ∧
      NeverOverpay Demo.faucetConfig (start.run Demo.faucetConfig Demo.payouts) log :=
  ⟨by decide +kernel, by decide +kernel, by decide +kernel,
    (Faucet.faucets_never_overpay Demo.faucetConfig Demo.faucetConfig_reservable Demo.genesis
      ((∅ : StorageMap _ _).insert 1 100) ∅ Demo.payouts (by decide +kernel)).1⟩

end Encointer
