import Encointer.Runtime.Storage

/-!
# The ceremony scheduler

Phases advance when the time stamp of a block passes the next phase change, or
by a privileged call. Other pallets react to a phase change through a callback,
which is a parameter here and may panic.
-/

namespace Encointer.Scheduler

variable {AccountId : Type} (config : Config AccountId)
  (onCeremonyPhaseChange :
    CeremonyPhaseType → Runtime AccountId → Except DispatchError (Runtime AccountId))

def getCycleDuration (scheduler : SchedulerStorage) : Nat :=
  scheduler.phaseDurations.get .registering 0 + scheduler.phaseDurations.get .assigning 0 +
    scheduler.phaseDurations.get .attesting 0

/-- `tnext` moved by whole cycles, to less than a cycle after `now`. -/
def resync (cycleDuration now tnext : Nat) : Except DispatchError Nat :=
  if cycleDuration = 0 then
    .error .divisionByZero
  else if tnext < now then
    .ok (tnext + cycleDuration * ((now - tnext) / cycleDuration + 1))
  else
    .ok (tnext - cycleDuration * ((tnext - now) / cycleDuration))

def resyncAndSetNextPhaseTimestamp (s : Runtime AccountId) (tnext : Nat) :
    Except DispatchError (Runtime AccountId) := do
  let tnext ← resync (getCycleDuration s.scheduler) s.now tnext
  .ok { s with scheduler := { s.scheduler with nextPhaseTimestamp := tnext } }

def nextPhaseOf : CeremonyPhaseType → CeremonyPhaseType
  | .registering => .assigning
  | .assigning => .attesting
  | .attesting => .registering

/-- A new ceremony index starts with the registering phase. -/
def startNextCeremony (s : Runtime AccountId) : Runtime AccountId :=
  if s.scheduler.currentPhase = .attesting then
    { s with scheduler := { s.scheduler with
        currentCeremonyIndex := s.scheduler.currentCeremonyIndex + 1 } }
  else
    s

/-- The new ceremony index is written before the next time stamp can fail. -/
def progressPhase (s : Runtime AccountId) : Runtime AccountId × Except DispatchError Unit :=
  let nextPhase := nextPhaseOf s.scheduler.currentPhase
  let next := s.scheduler.nextPhaseTimestamp + s.scheduler.phaseDurations.get nextPhase 0
  let started := startNextCeremony s
  match resyncAndSetNextPhaseTimestamp started next with
  | .error e => (started, .error e)
  | .ok synced =>
      let entered :=
        { synced with scheduler := { synced.scheduler with currentPhase := nextPhase } }
      match onCeremonyPhaseChange nextPhase entered with
      | .error e => (entered, .error e)
      | .ok changed => (changed, .ok ())

/-- In the first block after genesis, the cycles start on the day of genesis. -/
def startFirstCycle (s : Runtime AccountId) : Runtime AccountId :=
  let started :=
    if s.scheduler.currentCeremonyIndex = 0 then
      { s with scheduler := { s.scheduler with currentCeremonyIndex := 1 } }
    else
      s
  let next := (s.now - s.now % config.momentsPerDay) +
    s.scheduler.phaseDurations.get .registering 0
  match resyncAndSetNextPhaseTimestamp started next with
  | .ok synced => synced
  | .error _ => started

/-- Failures are logged; a panic drops the block. -/
def onTimestampSet (s : Runtime AccountId) : Except DispatchError (Runtime AccountId) :=
  if s.scheduler.nextPhaseTimestamp = 0 then
    if config.momentsPerDay = 0 then .error .panicked else .ok (startFirstCycle config s)
  else if s.scheduler.nextPhaseTimestamp < s.now then
    match progressPhase onCeremonyPhaseChange s with
    | (_, .error .panicked) => .error .panicked
    | (progressed, _) => .ok progressed
  else
    .ok s

/-! ## Calls -/

variable (s : Runtime AccountId)

def nextPhase : Except DispatchError (Runtime AccountId) :=
  transactional (progressPhase onCeremonyPhaseChange s)

def pushByOneDay : SchedulerStorage :=
  { s.scheduler with
    nextPhaseTimestamp := s.scheduler.nextPhaseTimestamp + config.momentsPerDay }

def setPhaseDuration (ceremonyPhase : CeremonyPhaseType) (duration : Nat) : SchedulerStorage :=
  { s.scheduler with
    phaseDurations := s.scheduler.phaseDurations.insert ceremonyPhase duration }

def setNextPhaseTimestamp (timestamp : Nat) : SchedulerStorage :=
  { s.scheduler with nextPhaseTimestamp := timestamp }

end Encointer.Scheduler
