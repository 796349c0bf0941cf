import Encointer.Bazaar.Shops

/-!
# Offerings and their numbers

A business numbers its offerings 1, 2, 3 and so on, also when some are deleted in
between. No offering outlives its business, so the queries by community are complete.
-/

namespace Encointer

namespace Bazaar

variable {AccountId : Type} [DecidableEq AccountId]

def numbers (n : Nat) : List UInt32 := (List.range n).map fun k => UInt32.ofNat (k + 1)

@[simp] theorem length_numbers (n : Nat) : (numbers n).length = n := by
  rw [numbers, List.length_map, List.length_range]

theorem numbers_succ (n : Nat) : numbers (n + 1) = numbers n ++ [UInt32.ofNat (n + 1)] := by
  rw [numbers, List.range_succ, List.map_append, List.map_singleton, ← numbers]

theorem ofNat_succ_not_mem_numbers {n : Nat} (hn : n < 2 ^ 32) :
    UInt32.ofNat (n + 1) ∉ numbers n := by
  intro hmem
  obtain ⟨k, hk, heq⟩ := List.mem_map.1 hmem
  have hlt : k < n := List.mem_range.1 hk
  have hnat := congrArg UInt32.toNat heq
  rw [UInt32.toNat_ofNat', UInt32.toNat_ofNat'] at hnat
  omega

/-- The offerings that have been created for the business since it was. -/
def noteCreated (bid : BusinessIdentifier AccountId) : List UInt32 → Event AccountId → List UInt32
  | oids, .businessCreated cid who => if bid = ⟨cid, who⟩ then [] else oids
  | oids, .offeringCreated cid who oid => if bid = ⟨cid, who⟩ then oids ++ [oid] else oids
  | oids, _ => oids

/-- The shop has handed out the numbers `oids`, in this order. -/
structure Shop.InOrder (shop : Shop) (oids : List UInt32) : Prop where
  numbered : oids = numbers oids.length
  next : ∀ business, shop.business = some business →
    business.lastOid = UInt32.ofNat (oids.length + 1)
  offered : ∀ oid offering, shop.offerings oid = some offering → oid ∈ oids
  closed : shop.business = none → ∀ oid, shop.offerings oid = none

/-- The numbers that the business has handed out after a call. -/
def Shop.created (registered : Bool) (shop : Shop) (oids : List UInt32) : Call → List UInt32
  | .createBusiness _ _ => if registered = true ∧ shop.business = none then [] else oids
  | .createOffering _ _ => oids ++ (shop.business.map (·.lastOid)).toList
  | _ => oids

theorem Shop.InOrder.call {shop : Shop} {oids : List UInt32} (h : shop.InOrder oids)
    (registered : Bool) (call : Call) :
    (shop.call registered call).InOrder (shop.created registered oids call) := by
  cases call with
  | createBusiness cid url =>
      by_cases hcreates : registered = true ∧ shop.business = none
      · simp only [Shop.call, Shop.created, hcreates, and_self, if_true]
        refine ⟨rfl, ?_, ?_, ?_⟩
        · intro business hbusiness
          cases hbusiness
          rfl
        · intro oid offering hoffering
          rw [h.closed hcreates.2 oid] at hoffering
          cases hoffering
        · intro hbusiness
          cases hbusiness
      · simp only [Shop.call, Shop.created, hcreates, if_false]
        exact h
  | updateBusiness cid url =>
      refine ⟨h.numbered, ?_, h.offered, ?_⟩
      · intro business hbusiness
        obtain ⟨business', hbusiness', rfl⟩ := Option.map_eq_some_iff.1 hbusiness
        exact h.next business' hbusiness'
      · intro hbusiness
        exact h.closed (Option.map_eq_none_iff.1 hbusiness)
  | deleteBusiness cid =>
      cases hbusiness : shop.business with
      | none =>
          simp only [Shop.call, hbusiness]
          exact h
      | some business =>
          simp only [Shop.call, hbusiness]
          refine ⟨h.numbered, ?_, ?_, fun _ _ => rfl⟩
          · intro business hbusiness
            cases hbusiness
          · intro oid offering hoffering
            cases hoffering
  | createOffering cid url =>
      cases hbusiness : shop.business with
      | none =>
          simp only [Shop.call, Shop.created, hbusiness, Option.map_none, Option.toList_none,
            List.append_nil]
          exact h
      | some business =>
          have hnext := h.next business hbusiness
          have hcreated : shop.created registered oids (.createOffering cid url) =
              oids ++ [business.lastOid] := by
            simp [Shop.created, hbusiness]
          have hlength : (oids ++ [business.lastOid]).length = oids.length + 1 := by simp
          rw [hcreated]
          simp only [Shop.call, hbusiness]
          refine ⟨?_, ?_, ?_, ?_⟩
          · rw [hlength, numbers_succ, ← h.numbered, hnext]
          · intro business' hbusiness'
            cases hbusiness'
            rw [hlength, hnext, UInt32.ofNat_add (oids.length + 1) 1]
            rfl
          · intro oid offering hoffering
            simp only [Function.update_apply] at hoffering
            split at hoffering
            · next heq => simp [heq]
            · exact List.mem_append_left _ (h.offered oid offering hoffering)
          · intro hnone
            cases hnone
  | updateOffering cid oid url =>
      refine ⟨h.numbered, h.next, ?_, ?_⟩
      · intro oid' offering hoffering
        simp only [Shop.call, Function.update_apply] at hoffering
        split at hoffering
        · next heq =>
            obtain ⟨offering', hoffering', -⟩ := Option.map_eq_some_iff.1 hoffering
            rw [heq]
            exact h.offered oid offering' hoffering'
        · exact h.offered oid' offering hoffering
      · intro hnone oid'
        have hclosed := h.closed hnone
        simp only [Shop.call, Function.update_apply, hclosed, Option.map_none, ite_self]
  | deleteOffering cid oid =>
      refine ⟨h.numbered, h.next, ?_, ?_⟩
      · intro oid' offering hoffering
        simp only [Shop.call, Function.update_apply] at hoffering
        split at hoffering
        · cases hoffering
        · exact h.offered oid' offering hoffering
      · intro hnone oid'
        have hclosed := h.closed hnone
        simp only [Shop.call, Function.update_apply, hclosed, ite_self]

section

variable {communityIdentifiers : List CommunityIdentifier} {storage storage' : Storage AccountId}
  {sender : AccountId} {call : Call} {event : Event AccountId} {shop : Shop} {oids : List UInt32}

/-! ## Calls that succeed -/

private theorem createBusiness_eq_ok {cid : CommunityIdentifier} {url : PalletString}
    (h : createBusiness communityIdentifiers storage sender cid url = .ok (storage', event)) :
    cid ∈ communityIdentifiers ∧ (storage.shop ⟨cid, sender⟩).business = none ∧
      event = .businessCreated cid sender := by
  simp only [createBusiness, bind_eq_ok, ensure_eq_ok, StorageMap.contains_eq_false, ok_inj,
    Prod.mk.injEq, exists_const] at h
  exact ⟨h.1, h.2.1, h.2.2.2.symm⟩

private theorem createOffering_eq_ok {cid : CommunityIdentifier} {url : PalletString}
    (h : createOffering storage sender cid url = .ok (storage', event)) :
    ∃ business, (storage.shop ⟨cid, sender⟩).business = some business ∧
      event = .offeringCreated cid sender business.lastOid := by
  simp only [createOffering, bind_eq_ok, ensure_eq_ok, StorageMap.contains_eq_true, ok_inj,
    Prod.mk.injEq, exists_const] at h
  obtain ⟨⟨business, hbusiness⟩, -, hevent⟩ := h
  refine ⟨business, hbusiness, ?_⟩
  rw [← hevent, StorageMap.get_of_lookup hbusiness]

private theorem noteCreated_dispatch (h : dispatch communityIdentifiers storage sender call =
    .ok (storage', event)) (bid : BusinessIdentifier AccountId) :
    noteCreated bid oids event =
      if bid = ⟨call.cid, sender⟩ then
        (storage.shop bid).created (decide (call.cid ∈ communityIdentifiers)) oids call
      else oids := by
  unfold dispatch at h
  simp only [bind_eq_ok, ensure_eq_ok, exists_const] at h
  obtain ⟨-, h⟩ := h
  cases call with
  | createBusiness cid url =>
      obtain ⟨hcid, hnone, rfl⟩ := createBusiness_eq_ok h
      rw [noteCreated]
      split
      · next hbid =>
          subst hbid
          simp [Shop.created, Call.cid, hcid, hnone]
      · next hbid => simp [Call.cid, hbid]
  | createOffering cid url =>
      obtain ⟨business, hbusiness, rfl⟩ := createOffering_eq_ok h
      rw [noteCreated]
      split
      · next hbid =>
          subst hbid
          simp [Shop.created, Call.cid, hbusiness]
      · next hbid => simp [Call.cid, hbid]
  | updateBusiness cid url =>
      simp only [updateBusiness, bind_eq_ok, ok_inj, Prod.mk.injEq] at h
      obtain ⟨-, -, -, rfl⟩ := h
      simp [noteCreated, Shop.created]
  | deleteBusiness cid =>
      simp only [deleteBusiness, bind_eq_ok, ok_inj, Prod.mk.injEq] at h
      obtain ⟨-, -, -, rfl⟩ := h
      simp [noteCreated, Shop.created]
  | updateOffering cid oid url =>
      simp only [updateOffering, bind_eq_ok, ok_inj, Prod.mk.injEq] at h
      obtain ⟨-, -, -, rfl⟩ := h
      simp [noteCreated, Shop.created]
  | deleteOffering cid oid =>
      simp only [deleteOffering, bind_eq_ok, ok_inj, Prod.mk.injEq] at h
      obtain ⟨-, -, -, rfl⟩ := h
      simp [noteCreated, Shop.created]

/-- A call keeps the numbers of every shop in order, if its event is noted. -/
theorem inOrder_dispatch {bid : BusinessIdentifier AccountId}
    (h : (storage.shop bid).InOrder oids)
    (hok : dispatch communityIdentifiers storage sender call = .ok (storage', event)) :
    (storage'.shop bid).InOrder (noteCreated bid oids event) := by
  have hshop : (outcome storage (dispatch communityIdentifiers storage sender call)).shop bid = _ :=
    shop_dispatch call bid
  rw [hok, outcome] at hshop
  have hdecodes : call.decodes = true := by
    unfold dispatch at hok
    simp only [bind_eq_ok, ensure_eq_ok, exists_const] at hok
    exact hok.1
  simp only [hdecodes, and_true] at hshop
  rw [hshop, noteCreated_dispatch hok bid]
  split
  · exact h.call _ call
  · exact h

/-! ## Queries by community -/

private theorem filterMap_or_perm {κ β γ : Type} [DecidableEq κ] {keys : List κ} {k : κ}
    (hk : k ∉ keys)
    (key : β → κ) (f : β → γ) (xs : List β) :
    ((xs.filterMap fun x => if key x = k then some (f x) else none) ++
        xs.filterMap fun x => if key x ∈ keys then some (f x) else none).Perm
      (xs.filterMap fun x => if key x ∈ k :: keys then some (f x) else none) := by
  induction xs with
  | nil => exact List.Perm.refl []
  | cons x xs ih =>
      by_cases hx : key x = k
      · have hkeys : key x ∉ keys := by rwa [hx]
        simp only [List.filterMap_cons, hx, hk, List.mem_cons_self, if_true, if_false,
          List.cons_append]
        exact ih.cons (f x)
      · by_cases hkeys : key x ∈ keys
        · have hmem : key x ∈ k :: keys := List.mem_cons_of_mem k hkeys
          simp only [List.filterMap_cons, hx, hkeys, hmem, if_true, if_false]
          exact List.perm_middle.trans (ih.cons (f x))
        · have hmem : key x ∉ k :: keys := by simp [hx, hkeys]
          simp only [List.filterMap_cons, hx, hkeys, hmem, if_false]
          exact ih

theorem flatMap_filterMap_perm {κ β γ : Type} [DecidableEq κ] {keys : List κ} (hkeys : keys.Nodup)
    (key : β → κ) (f : β → γ) (xs : List β) :
    (keys.flatMap fun k => xs.filterMap fun x => if key x = k then some (f x) else none).Perm
      (xs.filterMap fun x => if key x ∈ keys then some (f x) else none) := by
  induction keys with
  | nil =>
      have hnone : (xs.filterMap fun x => if key x ∈ ([] : List κ) then some (f x) else none) =
          [] := by
        simp
      rw [hnone, List.flatMap_nil]
  | cons k keys ih =>
      rw [List.nodup_cons] at hkeys
      rw [List.flatMap_cons]
      exact ((ih hkeys.2).append_left _).trans (filterMap_or_perm hkeys.1 key f xs)

def businessesIn (storage : Storage AccountId) (cid : CommunityIdentifier) :
    List (BusinessIdentifier AccountId) :=
  (getBusinesses storage cid).map fun e => ⟨cid, e.1⟩

omit [DecidableEq AccountId] in
theorem nodup_businessesIn (storage : Storage AccountId) (cid : CommunityIdentifier) :
    (businessesIn storage cid).Nodup := by
  have hkeys : businessesIn storage cid =
      (storage.businessRegistry.entries.map Prod.fst).filterMap fun k =>
        if k.1 = cid then some ⟨cid, k.2⟩ else none := by
    rw [businessesIn, getBusinesses, List.map_filterMap, List.filterMap_map]
    congr 1
    funext e
    simp only [Function.comp_apply]
    split <;> rfl
  rw [hkeys]
  apply List.Nodup.filterMap ?_ storage.businessRegistry.nodupKeys
  rintro ⟨cid', controller⟩ ⟨cid'', controller'⟩ bid hbid hbid'
  simp only [Option.mem_def, Option.ite_none_right_eq_some, Option.some.injEq] at hbid hbid'
  obtain ⟨rfl, rfl⟩ := hbid
  obtain ⟨rfl, heq⟩ := hbid'
  cases heq
  rfl

private theorem mem_businessesIn {storage : Storage AccountId} {cid : CommunityIdentifier}
    {bid : BusinessIdentifier AccountId} :
    bid ∈ businessesIn storage cid ↔
      bid.communityIdentifier = cid ∧ (storage.shop bid).business ≠ none := by
  obtain ⟨cid', controller⟩ := bid
  simp only [businessesIn, getBusinesses, List.mem_map, List.mem_filterMap, Storage.shop,
    Option.ite_none_right_eq_some, Option.some.injEq, ne_eq, Option.eq_none_iff_forall_not_mem,
    not_forall, not_not, Option.mem_def, StorageMap.lookup_eq_some_iff]
  constructor
  · rintro ⟨e, ⟨⟨⟨cid'', who⟩, business⟩, hmem, rfl, rfl⟩, heq⟩
    cases heq
    exact ⟨rfl, business, hmem⟩
  · rintro ⟨rfl, business, hmem⟩
    exact ⟨(controller, business), ⟨_, hmem, rfl, rfl⟩, rfl⟩

/-- If every offering has its business, the query finds each offering of the community once. -/
theorem getOfferings_perm {storage : Storage AccountId} (cid : CommunityIdentifier)
    (h : ∀ bid, (storage.shop bid).business = none → ∀ oid, (storage.shop bid).offerings oid = none) :
    (Rpc.Bazaar.getOfferings storage cid).Perm
      (storage.offeringRegistry.entries.filterMap fun e =>
        if e.1.1.communityIdentifier = cid then some e.2 else none) := by
  have hquery : Rpc.Bazaar.getOfferings storage cid =
      (businessesIn storage cid).flatMap fun bid =>
        storage.offeringRegistry.entries.filterMap fun e =>
          if e.1.1 = bid then some e.2 else none := by
    rw [businessesIn, List.flatMap_map]
    rfl
  have hmem : ∀ e ∈ storage.offeringRegistry.entries,
      (e.1.1 ∈ businessesIn storage cid ↔ e.1.1.communityIdentifier = cid) := by
    rintro ⟨⟨bid, oid⟩, offering⟩ he
    rw [mem_businessesIn, and_iff_left_iff_imp]
    intro _ hnone
    have hoffering : (storage.shop bid).offerings oid = some offering :=
      StorageMap.lookup_eq_some_iff.2 he
    rw [h bid hnone oid] at hoffering
    cases hoffering
  have hcongr : (storage.offeringRegistry.entries.filterMap fun e =>
        if e.1.1 ∈ businessesIn storage cid then some e.2 else none) =
      storage.offeringRegistry.entries.filterMap fun e =>
        if e.1.1.communityIdentifier = cid then some e.2 else none := by
    apply List.filterMap_congr
    intro e he
    simp only [hmem e he]
  rw [hquery, ← hcongr]
  exact flatMap_filterMap_perm (nodup_businessesIn storage cid)
    (fun e : (BusinessIdentifier AccountId × UInt32) × OfferingData => e.1.1) (fun e => e.2) _

end

end Bazaar

/-! ## Runs -/

namespace BazaarChain

open Bazaar Machine

variable {AccountId : Type} [DecidableEq AccountId] (config : Config AccountId)

/-- The numbers handed out for each business are in order, if the events are noted. -/
theorem step_inOrder (s : BazaarChain AccountId) (action : BazaarAction AccountId)
    (logged : List (Bazaar.Event AccountId)) (bid : BusinessIdentifier AccountId)
    (h : (s.bazaar.shop bid).InOrder (logged.foldl (noteCreated bid) [])) :
    ((s.step config action).bazaar.shop bid).InOrder
      ((logged ++ s.events action).foldl (noteCreated bid) []) := by
  cases action with
  | other action =>
      rw [events, List.append_nil]
      exact h
  | bazaar sender call =>
      cases hdispatch : dispatch s.communityIdentifiers s.bazaar sender call with
      | error e =>
          simp only [step, events, hdispatch, List.append_nil]
          exact h
      | ok result =>
          obtain ⟨storage, event⟩ := result
          simp only [step, events, hdispatch, List.foldl_append, List.foldl_cons, List.foldl_nil]
          exact inOrder_dispatch h hdispatch

/-- The numbers that the business has handed out in a run, since it was created. -/
def handedOut (chain : Chain AccountId) (actions : List (BazaarAction AccountId))
    (bid : BusinessIdentifier AccountId) : List UInt32 :=
  (log (step config) events (genesis chain) actions).foldl (noteCreated bid) []

theorem run_inOrder (chain : Chain AccountId) (actions : List (BazaarAction AccountId))
    (bid : BusinessIdentifier AccountId) :
    ((run (step config) (genesis chain) actions).bazaar.shop bid).InOrder
      (handedOut config chain actions bid) := by
  have hgenesis : ((genesis chain).bazaar.shop bid).InOrder
      (([] : List (Bazaar.Event AccountId)).foldl (noteCreated bid) []) := by
    refine ⟨rfl, ?_, ?_, fun _ _ => rfl⟩
    · intro business hbusiness
      cases hbusiness
    · intro oid offering hoffering
      cases hoffering
  exact log_invariant events
    (fun s logged => (s.bazaar.shop bid).InOrder (logged.foldl (noteCreated bid) []))
    (fun s action logged h => step_inOrder config s action logged bid h) hgenesis actions

/-- In every run a business numbers its offerings 1, 2, 3 and so on, whatever is deleted in
between, and what is on offer has one of these numbers. So the next offering replaces no other,
until the counter has gone through all of its values. -/
theorem offerings_numbered_in_order (chain : Chain AccountId)
    (actions : List (BazaarAction AccountId)) (bid : BusinessIdentifier AccountId) :
    let shop := (run (step config) (genesis chain) actions).bazaar.shop bid
    let oids := handedOut config chain actions bid
    oids = numbers oids.length ∧
      (∀ oid offering, shop.offerings oid = some offering → oid ∈ oids) ∧
      ∀ business, shop.business = some business →
        business.lastOid = UInt32.ofNat (oids.length + 1) ∧
          (oids.length < 2 ^ 32 → shop.offerings business.lastOid = none) := by
  intro shop oids
  have h : shop.InOrder oids := run_inOrder config chain actions bid
  refine ⟨h.numbered, h.offered, ?_⟩
  intro business hbusiness
  have hnext := h.next business hbusiness
  refine ⟨hnext, ?_⟩
  intro hlength
  rw [Option.eq_none_iff_forall_not_mem]
  intro offering hoffering
  have hmem := h.offered business.lastOid offering hoffering
  rw [hnext, h.numbered, length_numbers] at hmem
  exact ofNat_succ_not_mem_numbers hlength hmem

/-- In every run the offerings of a community that a query returns are all that there are. -/
theorem offerings_of_community_complete (chain : Chain AccountId)
    (actions : List (BazaarAction AccountId)) (cid : CommunityIdentifier) :
    let storage := (run (step config) (genesis chain) actions).bazaar
    (Rpc.Bazaar.getOfferings storage cid).Perm
      (storage.offeringRegistry.entries.filterMap fun e =>
        if e.1.1.communityIdentifier = cid then some e.2 else none) :=
  getOfferings_perm cid fun bid => (run_inOrder config chain actions bid).closed

end BazaarChain

end Encointer
