import Encointer.Balances.Specs

/-!
# Runs of the balances pallet

The calls of the pallet, what other pallets call of it, and the writes of the
fungibles interface, in any order. Failing extrinsics leave the state as it was;
an issuance or a burning is a part of another call, which may go on.
-/

namespace Encointer.Balances

variable {AccountId : Type} [DecidableEq AccountId]

inductive Call (AccountId : Type) where
  | nextBlock
  | transfer (sender dest : AccountId) (cid : CommunityIdentifier) (amount : Nat)
  | transferAll (sender dest : AccountId) (cid : CommunityIdentifier)
  | issue (cid : CommunityIdentifier) (who : AccountId) (amount : Nat)
  | burn (cid : CommunityIdentifier) (who : AccountId) (amount : Nat)

inductive Write (AccountId : Type) where
  | call (call : Call AccountId)
  | purgeBalances (cid : CommunityIdentifier)
  | writeBalance (asset : CommunityIdentifier) (who : AccountId) (amount : Nat)

variable (config : Config AccountId)

/-- A failing extrinsic changes nothing. -/
def extrinsic (s : Runtime AccountId) (result : Except DispatchError (BalancesStorage AccountId)) :
    Runtime AccountId :=
  match result with
  | .ok balances => { s with balances := balances }
  | .error _ => s

def callStep (s : Runtime AccountId) : Call AccountId → Runtime AccountId
  | .nextBlock => { s with blockNumber := s.blockNumber + 1 }
  | .transfer sender dest cid amount => extrinsic s (transfer config s sender dest cid amount)
  | .transferAll sender dest cid => extrinsic s (transferAll config s sender dest cid)
  | .issue cid who amount =>
      { s with balances := (issue config s.blockNumber s.balances cid who amount).1 }
  | .burn cid who amount =>
      { s with balances := (burn config s.blockNumber s.balances cid who amount).1 }

def writeStep (s : Runtime AccountId) : Write AccountId → Runtime AccountId
  | .call call => callStep config s call
  | .purgeBalances cid => { s with balances := purgeBalances s.balances cid }
  | .writeBalance asset who amount =>
      { s with balances := writeBalance s.blockNumber s.balances asset who amount }

variable {config} {s : Runtime AccountId} {cid : CommunityIdentifier} {sender dest : AccountId}

theorem extrinsic_doTransfer (s : Runtime AccountId) (cid : CommunityIdentifier)
    (sender dest : AccountId) (amount : Nat) :
    extrinsic s (transactional (doTransfer config s.blockNumber s.balances cid sender dest amount)) =
      { s with
        balances := (doTransfer config s.blockNumber s.balances cid sender dest amount).1 } := by
  have htransfers := doTransfer_transfers config s.blockNumber s.balances cid sender dest amount
  generalize doTransfer config s.blockNumber s.balances cid sender dest amount = result at htransfers ⊢
  obtain ⟨b, r⟩ := result
  cases htransfers with
  | fails e => rfl
  | nothing zero => rfl
  | self same exists_source => rfl
  | other different exists_source covered => rfl

theorem callStep_transfer (amount : Nat) :
    callStep config s (.transfer sender dest cid amount) =
      { s with
        balances := (doTransfer config s.blockNumber s.balances cid sender dest amount).1 } :=
  extrinsic_doTransfer s cid sender dest amount

theorem callStep_transferAll :
    callStep config s (.transferAll sender dest cid) =
      { s with
        balances := (doTransfer config s.blockNumber s.balances cid sender dest
          (balance config s.blockNumber s.balances cid sender)).1 } :=
  extrinsic_doTransfer s cid sender dest _

end Encointer.Balances
