import Encointer.Pallets.Commitments

/-!
# Faucets

A faucet pays a drip of native currency once for each reputation that is
committed to its purpose. Its creator holds a reserve until it is closed.
-/

namespace Encointer.Faucet

open Checked

variable {AccountId : Type} [DecidableEq AccountId] (config : Config AccountId)
  (s : Runtime AccountId)

/-- The named reserve of the creator. -/
def getReserveId (faucetAccount : AccountId) : Vector UInt8 8 := config.accountPrefix faucetAccount

/-! ## Calls -/

def createFaucet (sender : AccountId) (name : PalletString) (amount : Nat)
    (whitelist : Option (List CommunityIdentifier)) (dripAmount : Nat) :
    Except DispatchError
      (CommitmentsStorage AccountId × TreasuriesStorage AccountId × FaucetStorage AccountId) := do
  ensure (name.length ≤ 64) .undecodable
  ensure (∀ cids ∈ whitelist, cids.length ≤ 1024) .undecodable
  ensure (∀ cids ∈ whitelist, ∀ cid ∈ cids, cid ∈ s.communities.communityIdentifiers)
    .invalidCommunityIdentifierInWhitelist
  ensure (config.minimumBalance < dripAmount) .dripAmountTooSmall
  let faucetIdentifier := config.faucetPalletId.toList ++ name
  let faucetAccount := config.faucetAccount faucetIdentifier
  ensure (s.faucet.faucets.contains faucetAccount = false) .faucetAlreadyExists
  let (nativeBalances, namedReserves) ← okOr
    (config.currencyReserveNamed s.treasuries.nativeBalances s.treasuries.namedReserves
      (getReserveId config faucetAccount) sender s.faucet.reserveAmount)
    .nativeReserveFailed
  let nativeBalances ← okOr (config.currencyTransfer nativeBalances sender faucetAccount amount)
    .insufficientBalance
  ensure (faucetIdentifier.length ≤ 128) .purposeIdCreationFailed
  let (commitments, purposeId) ← Commitments.doRegisterPurpose s.commitments faucetIdentifier
  .ok (commitments,
    { s.treasuries with nativeBalances := nativeBalances, namedReserves := namedReserves },
    { s.faucet with
      faucets := s.faucet.faucets.insert faucetAccount
        ⟨name, purposeId, whitelist, dripAmount, sender⟩ })

def drip (sender faucetAccount : AccountId) (cid : CommunityIdentifier) (cindex : Nat) :
    Except DispatchError (CommitmentsStorage AccountId × TreasuriesStorage AccountId) := do
  let faucet ← okOr (s.faucet.faucets.lookup faucetAccount) .inexistentFaucet
  ensure (∀ cids ∈ faucet.whitelist, cid ∈ cids) .communityNotInWhitelist
  let commitments ← Commitments.doCommitReputation s sender cid cindex faucet.purposeId none
  let nativeBalances ← okOr
    (config.currencyTransfer s.treasuries.nativeBalances faucetAccount sender faucet.dripAmount)
    .faucetEmpty
  .ok (commitments, { s.treasuries with nativeBalances := nativeBalances })

/-- Releases the reserve, and moves the remaining funds to the beneficiary. -/
def removeFaucet (faucet : Faucet AccountId) (faucetAccount beneficiary : AccountId) :
    Except DispatchError (TreasuriesStorage AccountId × FaucetStorage AccountId) := do
  let (nativeBalances, namedReserves) := config.currencyUnreserveAllNamed
    s.treasuries.nativeBalances s.treasuries.namedReserves (getReserveId config faucetAccount)
    faucet.creator
  let nativeBalances ← okOr
    (config.currencyTransferAllowDeath nativeBalances faucetAccount beneficiary
      (nativeBalances.get faucetAccount 0))
    .nativeTransferFailed
  .ok ({ s.treasuries with nativeBalances := nativeBalances, namedReserves := namedReserves },
    { s.faucet with faucets := s.faucet.faucets.erase faucetAccount })

def dissolveFaucet (faucetAccount beneficiary : AccountId) :
    Except DispatchError (TreasuriesStorage AccountId × FaucetStorage AccountId) := do
  let faucet ← okOr (s.faucet.faucets.lookup faucetAccount) .inexistentFaucet
  removeFaucet config s faucet faucetAccount beneficiary

def closeFaucet (sender faucetAccount : AccountId) :
    Except DispatchError (TreasuriesStorage AccountId × FaucetStorage AccountId) := do
  let faucet ← okOr (s.faucet.faucets.lookup faucetAccount) .inexistentFaucet
  ensure (sender = faucet.creator) .notCreator
  ensure (s.treasuries.nativeBalances.get faucetAccount 0 < min (faucet.dripAmount * 2) (2 ^ 128 - 1))
    .faucetNotEmpty
  removeFaucet config s faucet faucetAccount config.catchBasinAccount

def setReserveAmount (reserveAmount : Nat) : FaucetStorage AccountId :=
  { s.faucet with reserveAmount := reserveAmount }

end Encointer.Faucet
