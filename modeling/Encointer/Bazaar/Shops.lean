import Encointer.Library.Projection
import Encointer.Pallets.Bazaar
import Mathlib.Logic.Function.Basic

/-!
# Shops

What the bazaar is to the controller of one business: a shop of its own. The two
registries are such shops side by side, and nobody else reaches into them.
-/

namespace Encointer

namespace Bazaar

structure Shop where
  business : Option BusinessData
  offerings : UInt32 → Option OfferingData

namespace Shop

/-- What a call is meant to do to the shop of its sender. -/
def call (registered : Bool) (shop : Shop) : Call → Shop
  | .createBusiness _ url =>
      if registered = true ∧ shop.business = none then { shop with business := some ⟨url, 1⟩ }
      else shop
  | .updateBusiness _ url =>
      { shop with business := shop.business.map fun business => { business with url := url } }
  | .deleteBusiness _ =>
      match shop.business with
      | some _ => ⟨none, fun _ => none⟩
      | none => shop
  | .createOffering _ url =>
      match shop.business with
      | some business => ⟨some { business with lastOid := business.lastOid + 1 },
          Function.update shop.offerings business.lastOid (some ⟨url⟩)⟩
      | none => shop
  | .updateOffering _ oid url =>
      { shop with
        offerings := Function.update shop.offerings oid
          ((shop.offerings oid).map fun offering => { offering with url := url }) }
  | .deleteOffering _ oid => { shop with offerings := Function.update shop.offerings oid none }

/-- The machine of one shop. The chain decides which communities there are. -/
def step {AccountId : Type} [DecidableEq AccountId] (config : Config AccountId)
    (s : Chain AccountId × Shop) : BazaarAction AccountId → Chain AccountId × Shop
  | .other action => (s.1.step config action, s.2)
  | .bazaar _ call =>
      (s.1, if call.decodes = true then
          s.2.call (decide (call.cid ∈ s.1.runtime.communities.communityIdentifiers)) call
        else s.2)

end Shop

variable {AccountId : Type} [DecidableEq AccountId]

def Storage.shop (storage : Storage AccountId) (bid : BusinessIdentifier AccountId) : Shop where
  business := storage.businessRegistry.lookup (bid.communityIdentifier, bid.controller)
  offerings := fun oid => storage.offeringRegistry.lookup (bid, oid)

section

variable {communityIdentifiers : List CommunityIdentifier} {storage storage' : Storage AccountId}
  {sender : AccountId} {cid : CommunityIdentifier} {url : PalletString} {oid : UInt32}
  {event : Event AccountId}

/-! ## Writes -/

section

variable (storage : Storage AccountId) (sender : AccountId) (cid : CommunityIdentifier)

theorem shop_insert_business (business : BusinessData) (bid : BusinessIdentifier AccountId) :
    Storage.shop { storage with
        businessRegistry := storage.businessRegistry.insert (cid, sender) business } bid =
      if bid = ⟨cid, sender⟩ then { storage.shop bid with business := some business }
      else storage.shop bid := by
  obtain ⟨cid', controller⟩ := bid
  simp only [Storage.shop, StorageMap.lookup_insert_eq, Prod.mk.injEq, BusinessIdentifier.mk.injEq]
  split <;> rfl

theorem shop_insert_offering (oid : UInt32) (offering : OfferingData)
    (bid : BusinessIdentifier AccountId) :
    Storage.shop { storage with
        offeringRegistry := storage.offeringRegistry.insert (⟨cid, sender⟩, oid) offering } bid =
      if bid = ⟨cid, sender⟩ then
        { storage.shop bid with
          offerings := Function.update (storage.shop bid).offerings oid (some offering) }
      else storage.shop bid := by
  simp only [Storage.shop, StorageMap.lookup_insert_eq, Prod.mk.injEq]
  by_cases h : bid = ⟨cid, sender⟩
  · simp only [h, true_and, if_true]
    congr 1
    funext oid'
    rw [Function.update_apply]
  · simp only [h, false_and, if_false]

theorem shop_erase_offering (oid : UInt32) (bid : BusinessIdentifier AccountId) :
    Storage.shop { storage with
        offeringRegistry := storage.offeringRegistry.erase (⟨cid, sender⟩, oid) } bid =
      if bid = ⟨cid, sender⟩ then
        { storage.shop bid with
          offerings := Function.update (storage.shop bid).offerings oid none }
      else storage.shop bid := by
  simp only [Storage.shop, StorageMap.lookup_erase_eq, Prod.mk.injEq]
  by_cases h : bid = ⟨cid, sender⟩
  · simp only [h, true_and, if_true]
    congr 1
    funext oid'
    rw [Function.update_apply]
  · simp only [h, false_and, if_false]

theorem shop_delete (bid : BusinessIdentifier AccountId) :
    Storage.shop ⟨storage.businessRegistry.erase (cid, sender),
        storage.offeringRegistry.removePrefix ⟨cid, sender⟩⟩ bid =
      if bid = ⟨cid, sender⟩ then ⟨none, fun _ => none⟩ else storage.shop bid := by
  obtain ⟨cid', controller⟩ := bid
  simp only [Storage.shop, StorageMap.lookup_erase_eq, StorageMap.lookup_removePrefix,
    Prod.mk.injEq, BusinessIdentifier.mk.injEq]
  split <;> rfl

end

/-! ## Calls -/

/-- The storage after a call, which stays as it was if the call fails. -/
def outcome (storage : Storage AccountId) :
    Except Error (Storage AccountId × Event AccountId) → Storage AccountId
  | .ok (storage', _) => storage'
  | .error _ => storage

theorem shop_business : (storage.shop ⟨cid, sender⟩).business =
    storage.businessRegistry.lookup (cid, sender) := rfl

theorem shop_createBusiness (bid : BusinessIdentifier AccountId) :
    (outcome storage (createBusiness communityIdentifiers storage sender cid url)).shop bid =
      if bid = ⟨cid, sender⟩ then
        (storage.shop bid).call (decide (cid ∈ communityIdentifiers)) (.createBusiness cid url)
      else storage.shop bid := by
  by_cases hcid : cid ∈ communityIdentifiers
  · cases hlookup : storage.businessRegistry.lookup (cid, sender) with
    | none =>
        have hcreated : createBusiness communityIdentifiers storage sender cid url =
            .ok ({ storage with
              businessRegistry := storage.businessRegistry.insert (cid, sender) ⟨url, 1⟩ },
              .businessCreated cid sender) := by
          simp [createBusiness, ensure, StorageMap.contains, hcid, hlookup, bind, Except.bind]
        rw [hcreated, outcome, shop_insert_business]
        split
        · subst bid
          simp [Shop.call, shop_business, hlookup, hcid]
        · rfl
    | some business =>
        have hfailed : createBusiness communityIdentifiers storage sender cid url =
            .error .existingBusiness := by
          simp [createBusiness, ensure, StorageMap.contains, hcid, hlookup, bind, Except.bind]
        rw [hfailed, outcome]
        split
        · subst bid
          simp [Shop.call, shop_business, hlookup]
        · rfl
  · have hfailed : createBusiness communityIdentifiers storage sender cid url =
        .error .nonexistentCommunity := by
      simp [createBusiness, ensure, hcid, bind, Except.bind]
    rw [hfailed, outcome]
    split
    · simp [Shop.call, hcid]
    · rfl

theorem shop_updateBusiness (registered : Bool) (bid : BusinessIdentifier AccountId) :
    (outcome storage (updateBusiness storage sender cid url)).shop bid =
      if bid = ⟨cid, sender⟩ then (storage.shop bid).call registered (.updateBusiness cid url)
      else storage.shop bid := by
  cases hlookup : storage.businessRegistry.lookup (cid, sender) with
  | none =>
      have hfailed : updateBusiness storage sender cid url = .error .nonexistentBusiness := by
        simp [updateBusiness, ensure, StorageMap.contains, hlookup, bind, Except.bind]
      rw [hfailed, outcome]
      split
      · subst bid
        rw [Shop.call, shop_business, hlookup, Option.map_none, ← hlookup]
        rfl
      · rfl
  | some business =>
      have hupdated : updateBusiness storage sender cid url =
          .ok ({ storage with
            businessRegistry := storage.businessRegistry.insert (cid, sender)
              { business with url := url } }, .businessUpdated cid sender) := by
        simp [updateBusiness, ensure, StorageMap.contains, StorageMap.get, hlookup, bind,
          Except.bind]
      rw [hupdated, outcome, shop_insert_business]
      split
      · subst bid
        rw [Shop.call, shop_business, hlookup, Option.map_some]
      · rfl

theorem shop_deleteBusiness (registered : Bool) (bid : BusinessIdentifier AccountId) :
    (outcome storage (deleteBusiness storage sender cid)).shop bid =
      if bid = ⟨cid, sender⟩ then (storage.shop bid).call registered (.deleteBusiness cid)
      else storage.shop bid := by
  cases hlookup : storage.businessRegistry.lookup (cid, sender) with
  | none =>
      have hfailed : deleteBusiness storage sender cid = .error .nonexistentBusiness := by
        simp [deleteBusiness, ensure, StorageMap.contains, hlookup, bind, Except.bind]
      rw [hfailed, outcome]
      split
      · subst bid
        simp only [Shop.call, shop_business, hlookup]
      · rfl
  | some business =>
      have hdeleted : deleteBusiness storage sender cid =
          .ok (⟨storage.businessRegistry.erase (cid, sender),
            storage.offeringRegistry.removePrefix ⟨cid, sender⟩⟩, .businessDeleted cid sender) := by
        simp [deleteBusiness, ensure, StorageMap.contains, hlookup, bind, Except.bind]
      rw [hdeleted, outcome, shop_delete]
      split
      · subst bid
        simp only [Shop.call, shop_business, hlookup]
      · rfl

theorem shop_createOffering (registered : Bool) (bid : BusinessIdentifier AccountId) :
    (outcome storage (createOffering storage sender cid url)).shop bid =
      if bid = ⟨cid, sender⟩ then (storage.shop bid).call registered (.createOffering cid url)
      else storage.shop bid := by
  cases hlookup : storage.businessRegistry.lookup (cid, sender) with
  | none =>
      have hfailed : createOffering storage sender cid url = .error .nonexistentBusiness := by
        simp [createOffering, ensure, StorageMap.contains, hlookup, bind, Except.bind]
      rw [hfailed, outcome]
      split
      · subst bid
        simp only [Shop.call, shop_business, hlookup]
      · rfl
  | some business =>
      have hcreated : createOffering storage sender cid url =
          .ok (⟨storage.businessRegistry.insert (cid, sender)
              { business with lastOid := business.lastOid + 1 },
            storage.offeringRegistry.insert (⟨cid, sender⟩, business.lastOid) ⟨url⟩⟩,
            .offeringCreated cid sender business.lastOid) := by
        simp [createOffering, ensure, StorageMap.contains, StorageMap.get, hlookup, bind,
          Except.bind]
      rw [hcreated, outcome]
      have hoffering := shop_insert_offering { storage with
        businessRegistry := storage.businessRegistry.insert (cid, sender)
          { business with lastOid := business.lastOid + 1 } } sender cid business.lastOid ⟨url⟩ bid
      rw [hoffering, shop_insert_business]
      split
      · subst bid
        simp only [Shop.call, shop_business, hlookup]
      · rfl

theorem shop_updateOffering (registered : Bool) (bid : BusinessIdentifier AccountId) :
    (outcome storage (updateOffering storage sender cid oid url)).shop bid =
      if bid = ⟨cid, sender⟩ then (storage.shop bid).call registered (.updateOffering cid oid url)
      else storage.shop bid := by
  cases hlookup : storage.offeringRegistry.lookup (⟨cid, sender⟩, oid) with
  | none =>
      have hfailed : updateOffering storage sender cid oid url = .error .nonexistentOffering := by
        simp [updateOffering, ensure, StorageMap.contains, hlookup, bind, Except.bind]
      have hoffering : (storage.shop ⟨cid, sender⟩).offerings oid = none := hlookup
      rw [hfailed, outcome]
      split
      · subst bid
        rw [Shop.call, hoffering, Option.map_none, ← hoffering, Function.update_eq_self]
      · rfl
  | some offering =>
      have hupdated : updateOffering storage sender cid oid url =
          .ok ({ storage with
            offeringRegistry := storage.offeringRegistry.insert (⟨cid, sender⟩, oid)
              { offering with url := url } }, .offeringUpdated cid sender oid) := by
        simp [updateOffering, ensure, StorageMap.contains, hlookup, bind, Except.bind]
      have hoffering : (storage.shop ⟨cid, sender⟩).offerings oid = some offering := hlookup
      rw [hupdated, outcome, shop_insert_offering]
      split
      · subst bid
        rw [Shop.call, hoffering, Option.map_some]
      · rfl

private theorem shop_deleteOffering (registered : Bool) (bid : BusinessIdentifier AccountId) :
    (outcome storage (deleteOffering storage sender cid oid)).shop bid =
      if bid = ⟨cid, sender⟩ then (storage.shop bid).call registered (.deleteOffering cid oid)
      else storage.shop bid := by
  cases hlookup : storage.offeringRegistry.lookup (⟨cid, sender⟩, oid) with
  | none =>
      have hfailed : deleteOffering storage sender cid oid = .error .nonexistentOffering := by
        simp [deleteOffering, ensure, StorageMap.contains, hlookup, bind, Except.bind]
      have hoffering : (storage.shop ⟨cid, sender⟩).offerings oid = none := hlookup
      rw [hfailed, outcome]
      split
      · subst bid
        rw [Shop.call, ← hoffering, Function.update_eq_self]
      · rfl
  | some offering =>
      have hdeleted : deleteOffering storage sender cid oid =
          .ok ({ storage with
            offeringRegistry := storage.offeringRegistry.erase (⟨cid, sender⟩, oid) },
            .offeringDeleted cid sender oid) := by
        simp [deleteOffering, ensure, StorageMap.contains, hlookup, bind, Except.bind]
      rw [hdeleted, outcome, shop_erase_offering]
      split <;> rfl

/-- A call acts on the shop of its sender, as it is meant to, and on no other. -/
theorem shop_dispatch (call : Call) (bid : BusinessIdentifier AccountId) :
    (outcome storage (dispatch communityIdentifiers storage sender call)).shop bid =
      if bid = ⟨call.cid, sender⟩ ∧ call.decodes = true then
        (storage.shop bid).call (decide (call.cid ∈ communityIdentifiers)) call
      else storage.shop bid := by
  by_cases hdecodes : call.decodes = true
  · have hdispatch : ∀ x : Except Error (Storage AccountId × Event AccountId),
        (ensure (call.decodes = true) .undecodable >>= fun _ => x) = x := by
      intro x
      simp [ensure, hdecodes, bind, Except.bind]
    simp only [hdecodes, and_true]
    unfold dispatch
    rw [hdispatch]
    cases call with
    | createBusiness cid url => exact shop_createBusiness bid
    | updateBusiness cid url => exact shop_updateBusiness _ bid
    | deleteBusiness cid => exact shop_deleteBusiness _ bid
    | createOffering cid url => exact shop_createOffering _ bid
    | updateOffering cid oid url => exact shop_updateOffering _ bid
    | deleteOffering cid oid => exact shop_deleteOffering _ bid
  · have hfailed : dispatch communityIdentifiers storage sender call = .error .undecodable := by
      simp [dispatch, ensure, hdecodes, bind, Except.bind]
    rw [hfailed, outcome]
    simp [hdecodes]

end

end Bazaar

/-! ## Runs -/

namespace BazaarChain

open Bazaar Machine

variable {AccountId : Type} [DecidableEq AccountId] (config : Config AccountId)

theorem step_bazaar (s : BazaarChain AccountId) (sender : AccountId) (call : Call) :
    s.step config (.bazaar sender call) =
      { s with bazaar := outcome s.bazaar (dispatch s.communityIdentifiers s.bazaar sender call) } := by
  unfold step
  simp only
  cases dispatch s.communityIdentifiers s.bazaar sender call <;> rfl

/-- The chain without its bazaar, and one shop of the bazaar. -/
def shopView (bid : BusinessIdentifier AccountId) (s : BazaarChain AccountId) :
    Chain AccountId × Shop :=
  (s.chain, s.bazaar.shop bid)

def concerns (bid : BusinessIdentifier AccountId) : BazaarAction AccountId → Bool
  | .other _ => true
  | .bazaar sender call => decide (bid = ⟨call.cid, sender⟩)

private theorem shopView_projects (bid : BusinessIdentifier AccountId) :
    Projects (step config) (Shop.step config) (shopView bid) (concerns bid) where
  own := by
    intro s action hconcerns
    cases action with
    | other action => rfl
    | bazaar sender call =>
        have hbid : bid = ⟨call.cid, sender⟩ := of_decide_eq_true hconcerns
        rw [step_bazaar, shopView, shop_dispatch, shopView, Shop.step]
        simp only [hbid, true_and]
        rfl
  others := by
    intro s action hconcerns
    cases action with
    | other action => cases hconcerns
    | bazaar sender call =>
        have hbid : ¬ bid = ⟨call.cid, sender⟩ := of_decide_eq_false hconcerns
        rw [step_bazaar, shopView, shop_dispatch, if_neg (fun h => hbid h.1), shopView]

/-- The bazaar is one shop for each controller and community: in every run, what is stored for
a business is what its machine makes of the controller's calls alone. -/
theorem bazaar_refines_shops (s : BazaarChain AccountId) (actions : List (BazaarAction AccountId))
    (bid : BusinessIdentifier AccountId) :
    shopView bid (run (step config) s actions) =
      run (Shop.step config) (shopView bid s) (actions.filter (concerns bid)) :=
  (shopView_projects config bid).run s actions

end BazaarChain

end Encointer
