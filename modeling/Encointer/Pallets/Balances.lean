import Encointer.Runtime.Storage

/-!
# Balances of community currencies

A balance is stored with the block of its last adjustment; demurrage is applied
when it is read. The functions that other pallets call may fail after they have
written, so they return the storage beside their result.
-/

namespace Encointer.Balances

variable {AccountId : Type} [DecidableEq AccountId] (config : Config AccountId)

/-! ## Demurrage -/

/-- One, as the bits of a `U64F64`. -/
def one : Nat := 2 ^ 64

/-- `e^(-demurragePerBlock * elapsedBlocks)`; zero where a step overflows. -/
def demurrageFactor (demurragePerBlock : Demurrage) (elapsedBlocks : Nat) : Nat :=
  let exponent := -|demurragePerBlock| * elapsedBlocks
  if exponent < -2 ^ 127 then
    0
  else
    match (config.exp exponent).getD 0 with
    | .ofNat f => f
    | .negSucc _ => one

/-- The factor is at most one, so the product fits the balance type. -/
def applyDemurrage (entry : BalanceEntry) (demurragePerBlock : Demurrage)
    (currentBlockNumber : Nat) : BalanceEntry :=
  if entry.lastUpdate = currentBlockNumber then
    entry
  else if entry.principal = 0 then
    ⟨entry.principal, currentBlockNumber⟩
  else
    let elapsedBlocks := min (currentBlockNumber - entry.lastUpdate) Checked.u32Max
    ⟨entry.principal * demurrageFactor config demurragePerBlock elapsedBlocks / one,
      currentBlockNumber⟩

section

variable (blockNumber : Nat) (balances : BalancesStorage AccountId)

def demurrage (cid : CommunityIdentifier) : Demurrage :=
  balances.demurragePerBlock.get cid config.defaultDemurrage

def balanceEntryUpdated (cid : CommunityIdentifier) (who : AccountId) : BalanceEntry :=
  applyDemurrage config (balances.balance.get (cid, who) ⟨0, 0⟩) (demurrage config balances cid)
    blockNumber

def balance (cid : CommunityIdentifier) (who : AccountId) : Nat :=
  (balanceEntryUpdated config blockNumber balances cid who).principal

def totalIssuanceEntryUpdated (cid : CommunityIdentifier) : BalanceEntry :=
  applyDemurrage config (balances.totalIssuance.get cid ⟨0, 0⟩) (demurrage config balances cid)
    blockNumber

def totalIssuance (cid : CommunityIdentifier) : Nat :=
  (totalIssuanceEntryUpdated config blockNumber balances cid).principal

/-! ## Accounts -/

/-- Creates a new account on-chain if it does not exist. -/
def newAccount (who : AccountId) : BalancesStorage AccountId :=
  { balances with
    sufficients := balances.sufficients.insert who (balances.sufficients.get who 0 + 1) }

def removeAccount (cid : CommunityIdentifier) (who : AccountId) :
    BalancesStorage AccountId × Except DispatchError Unit :=
  if balances.balance.contains (cid, who) = false then
    (balances, .error .noAccount)
  else if config.existentialDeposit ≤ balance config blockNumber balances cid who then
    (balances, .error .existentialDeposit)
  else
    ({ balances with
        balance := balances.balance.erase (cid, who)
        sufficients := balances.sufficients.insert who (balances.sufficients.get who 0 - 1) },
      .ok ())

/-! ## Transfers, issuance and burning -/

/-- Moves `amount` between two different accounts and reaps the emptied source. -/
def moveBalance (cid : CommunityIdentifier) (source dest : AccountId) (amount : Nat)
    (entryFrom : BalanceEntry) : BalancesStorage AccountId × Except DispatchError Unit :=
  let entryTo := balanceEntryUpdated config blockNumber balances cid dest
  let balances := { balances with
    balance := (balances.balance.insert (cid, source)
        ⟨entryFrom.principal - amount, entryFrom.lastUpdate⟩).insert (cid, dest)
        ⟨min (entryTo.principal + amount) (2 ^ 128 - 1), entryTo.lastUpdate⟩ }
  if balance config blockNumber balances cid source < config.existentialDeposit then
    removeAccount config blockNumber balances cid source
  else
    (balances, .ok ())

def doTransfer (cid : CommunityIdentifier) (source dest : AccountId) (amount : Nat) :
    BalancesStorage AccountId × Except DispatchError Unit :=
  let entryFrom := balanceEntryUpdated config blockNumber balances cid source
  if amount = 0 then
    (balances, .ok ())
  else if balances.balance.contains (cid, source) = false then
    (balances, .error .noAccount)
  else if entryFrom.principal < amount then
    (balances, .error .balanceTooLow)
  else if source = dest then
    ({ balances with balance := balances.balance.insert (cid, source) entryFrom }, .ok ())
  else if balances.balance.contains (cid, dest) then
    moveBalance config blockNumber balances cid source dest amount entryFrom
  else if amount ≤ config.existentialDeposit then
    (balances, .error .existentialDeposit)
  else
    moveBalance config blockNumber (newAccount balances dest) cid source dest amount entryFrom

/-- A new account keeps its reference when the total issuance would overflow. -/
def issue (cid : CommunityIdentifier) (who : AccountId) (amount : Nat) :
    BalancesStorage AccountId × Except DispatchError Unit :=
  let balances :=
    if balances.balance.contains (cid, who) then balances else newAccount balances who
  let entryWho := balanceEntryUpdated config blockNumber balances cid who
  let entryTot := totalIssuanceEntryUpdated config blockNumber balances cid
  if 2 ^ 128 ≤ entryTot.principal + amount then
    (balances, .error .totalIssuanceOverflow)
  else
    ({ balances with
        totalIssuance := balances.totalIssuance.insert cid
          ⟨entryTot.principal + amount, entryTot.lastUpdate⟩
        balance := balances.balance.insert (cid, who)
          ⟨(entryWho.principal + amount) % 2 ^ 128, entryWho.lastUpdate⟩ },
      .ok ())

def burn (cid : CommunityIdentifier) (who : AccountId) (amount : Nat) :
    BalancesStorage AccountId × Except DispatchError Unit :=
  let entryWho := balanceEntryUpdated config blockNumber balances cid who
  let entryTot := totalIssuanceEntryUpdated config blockNumber balances cid
  if entryWho.principal < amount then
    (balances, .error .balanceTooLow)
  else
    ({ balances with
        totalIssuance := balances.totalIssuance.insert cid
          ⟨entryTot.principal - amount, entryTot.lastUpdate⟩
        balance := balances.balance.insert (cid, who)
          ⟨entryWho.principal - amount, entryWho.lastUpdate⟩ },
      .ok ())

def setDemurrage (cid : CommunityIdentifier) (demurrage : Demurrage) :
    Option (BalancesStorage AccountId) :=
  if validateDemurrage demurrage then
    some { balances with demurragePerBlock := balances.demurragePerBlock.insert cid demurrage }
  else
    none

def purgeBalances (cid : CommunityIdentifier) : BalancesStorage AccountId :=
  { balances with
    balance := balances.balance.removePrefix cid
    totalIssuance := balances.totalIssuance.erase cid
    demurragePerBlock := balances.demurragePerBlock.erase cid }

end

/-! ## Calls -/

variable (s : Runtime AccountId)

def transfer (sender dest : AccountId) (cid : CommunityIdentifier) (amount : Nat) :
    Except DispatchError (BalancesStorage AccountId) :=
  transactional (doTransfer config s.blockNumber s.balances cid sender dest amount)

def transferAll (sender dest : AccountId) (cid : CommunityIdentifier) :
    Except DispatchError (BalancesStorage AccountId) :=
  transactional (doTransfer config s.blockNumber s.balances cid sender dest
    (balance config s.blockNumber s.balances cid sender))

end Encointer.Balances
