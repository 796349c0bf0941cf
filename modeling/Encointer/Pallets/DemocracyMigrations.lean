import Encointer.Library.BoundedVec
import Encointer.Pallets.Democracy

/-!
# Migrations of the democracy pallet

Version 1 of the storage queues one proposal for each action identifier, version
2 a bounded vector. Both layouts live under the same storage prefix.
-/

namespace Encointer.Democracy

variable {AccountId : Type}

/-- A value under the prefix of the enactment queue, in the layout of one version. -/
inductive QueueValue where
  | v1 (proposalId : Nat)
  | v2 (proposalIds : List Nat)
  deriving DecidableEq, Repr

namespace QueueValue

def asV1 : QueueValue → Option Nat
  | .v1 proposalId => some proposalId
  | .v2 _ => none

def asV2 : QueueValue → Option (List Nat)
  | .v1 _ => none
  | .v2 proposalIds => some proposalIds

end QueueValue

abbrev QueueValues := StorageMap ProposalActionIdentifier QueueValue

/--
The storage during an upgrade. The values of the enactment queue are kept as they
are stored, so that the queue of `runtime`, which is all other storage, is empty.
-/
structure UpgradeStorage (AccountId : Type) where
  storageVersion : Nat
  queueValues : QueueValues
  runtime : Runtime AccountId
  queueMoved : runtime.democracy.enactmentQueue = ∅

def UpgradeStorage.current (s : UpgradeStorage AccountId) : Runtime AccountId :=
  { s.runtime with democracy := { s.runtime.democracy with
      enactmentQueue := s.queueValues.decodeValues QueueValue.asV2 } }

/-! ## From version 1 to version 2 -/

def oldEntries (values : QueueValues) : List (ProposalActionIdentifier × Nat) :=
  (values.decodeValues QueueValue.asV1).entries

def writeEntry (values : QueueValues) (entry : ProposalActionIdentifier × Nat) : QueueValues :=
  match BoundedVec.tryPush enactmentQueueMaxPerType [] entry.2 with
  | some queue => values.insert entry.1 (.v2 queue)
  | none => values

def queueOrDefault (values : QueueValues) (identifier : ProposalActionIdentifier) : List Nat :=
  ((values.lookup identifier).bind QueueValue.asV2).getD []

/-- An overflow is logged; the queue is stored in any case. -/
def reinsert (values : QueueValues) (identifier : ProposalActionIdentifier)
    (proposalId : Nat) : QueueValues :=
  values.insert identifier (.v2 (BoundedVec.pushOrDrop enactmentQueueMaxPerType
    (queueOrDefault values identifier) proposalId))

/-- Approved proposals that are not queued were lost by an overwrite. -/
def reinsertLost (queuedIds : List Nat) (values : QueueValues)
    (entry : Nat × Proposal AccountId) : QueueValues :=
  if entry.2.state = .approved ∧ entry.1 ∉ queuedIds then
    reinsert values entry.2.action.getIdentifier entry.1
  else
    values

/-- The new values under the prefix, which is cleared before they are written. -/
def migrateQueue (values : QueueValues) (proposals : StorageMap Nat (Proposal AccountId)) :
    QueueValues :=
  let oldEntries := oldEntries values
  let queuedIds := oldEntries.map Prod.snd
  proposals.entries.foldl (reinsertLost queuedIds) (oldEntries.foldl writeEntry ∅)

/-- `MigrateV1toV2`; the weight is left out. -/
def onRuntimeUpgrade (s : UpgradeStorage AccountId) : UpgradeStorage AccountId :=
  if s.storageVersion ≠ 1 then
    s
  else
    { s with
      storageVersion := 2
      queueValues := migrateQueue s.queueValues s.runtime.democracy.proposals }

end Encointer.Democracy
