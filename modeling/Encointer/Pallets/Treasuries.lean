import Encointer.Pallets.Balances

/-!
# Community treasuries

Swap options and spends. The native currency and the paymaster for other assets
are outside the repository; a failed payout changes nothing.
-/

namespace Encointer.Treasuries

open Checked

variable {AccountId : Type} [DecidableEq AccountId] (config : Config AccountId)

/-- The amount must fit an `u64`, and the product the balance type. -/
def ccAmount (desiredNativeAmount : Nat) (rate : Nat) :
    Except DispatchError Nat := do
  let nativeU64 ← okOr (toU64 desiredNativeAmount) .swapOverflow
  ensure (nativeU64 * rate < 2 ^ 128) .swapOverflow
  .ok (nativeU64 * rate)

section

variable (treasuries : TreasuriesStorage AccountId)

def doSpendNative (maybeCid : Option CommunityIdentifier) (beneficiary : AccountId)
    (amount : Nat) : Except DispatchError (TreasuriesStorage AccountId) := do
  let nativeBalances ← okOr (config.currencyTransfer treasuries.nativeBalances
    (config.treasuryAccount maybeCid) beneficiary amount) .nativeTransferFailed
  .ok { treasuries with nativeBalances := nativeBalances }

def doSpendAsset (maybeCid : Option CommunityIdentifier) (beneficiary : AccountId)
    (assetId : AssetKind) (amount : Nat) :
    Except DispatchError (TreasuriesStorage AccountId) := do
  let assetBalances ← okOr (config.paymasterTransfer treasuries.assetBalances
    (config.treasuryAccount maybeCid) beneficiary assetId amount) .payoutError
  .ok { treasuries with assetBalances := assetBalances }

/-- Stores a swap option, possibly replacing any previously existing option. -/
def doIssueSwapNativeOption (cid : CommunityIdentifier) (who : AccountId)
    (option : SwapNativeOption) : TreasuriesStorage AccountId :=
  { treasuries with
    swapNativeOptions := treasuries.swapNativeOptions.insert (cid, who) option }

def doIssueSwapAssetOption (cid : CommunityIdentifier) (who : AccountId)
    (option : SwapAssetOption) : TreasuriesStorage AccountId :=
  { treasuries with
    swapAssetOptions := treasuries.swapAssetOptions.insert (cid, who) option }

end

/-! ## Calls -/

variable (s : Runtime AccountId)

/-- Burns the community currency, or moves it to the treasury. -/
def payCommunityCurrency (cid : CommunityIdentifier) (sender : AccountId)
    (ccAmount : Nat) (doBurn : Bool) :
    Except DispatchError (BalancesStorage AccountId) :=
  if doBurn then
    transactional (Balances.burn config s.blockNumber s.balances cid sender ccAmount)
  else
    transactional (Balances.doTransfer config s.blockNumber s.balances cid sender
      (config.treasuryAccount (some cid)) ccAmount)

def swapNative (sender : AccountId) (cid : CommunityIdentifier) (desiredNativeAmount : Nat) :
    Except DispatchError (TreasuriesStorage AccountId × BalancesStorage AccountId) := do
  let treasuries := s.treasuries
  let swapOption ← okOr (treasuries.swapNativeOptions.lookup (cid, sender)) .noValidSwapOption
  ensure (desiredNativeAmount ≤ swapOption.nativeAllowance) .insufficientAllowance
  let treasuryAccount := config.treasuryAccount (some cid)
  ensure (desiredNativeAmount ≤
    treasuries.nativeBalances.get treasuryAccount 0 - config.minimumBalance)
    .insufficientNativeFunds
  let rate ← okOr swapOption.rate .swapRateNotDefined
  let ccAmount ← ccAmount desiredNativeAmount rate
  let balances ← payCommunityCurrency config s cid sender ccAmount swapOption.doBurn
  let treasuries := doIssueSwapNativeOption treasuries cid sender
    { swapOption with nativeAllowance := swapOption.nativeAllowance - desiredNativeAmount }
  let treasuries ← doSpendNative config treasuries (some cid) sender desiredNativeAmount
  .ok (treasuries, balances)

def swapAsset (sender : AccountId) (cid : CommunityIdentifier) (desiredAssetAmount : Nat) :
    Except DispatchError (TreasuriesStorage AccountId × BalancesStorage AccountId) := do
  let treasuries := s.treasuries
  let swapOption ← okOr (treasuries.swapAssetOptions.lookup (cid, sender)) .noValidSwapOption
  ensure (desiredAssetAmount ≤ swapOption.assetAllowance) .insufficientAllowance
  let rate ← okOr swapOption.rate .swapRateNotDefined
  let ccAmount ← ccAmount desiredAssetAmount rate
  let balances ← payCommunityCurrency config s cid sender ccAmount swapOption.doBurn
  let treasuries := doIssueSwapAssetOption treasuries cid sender
    { swapOption with assetAllowance := swapOption.assetAllowance - desiredAssetAmount }
  let treasuries ← doSpendAsset config treasuries (some cid) sender swapOption.assetId
    desiredAssetAmount
  .ok (treasuries, balances)

end Encointer.Treasuries
