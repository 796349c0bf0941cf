import Encointer.Ceremonies.RewardOnce
import Encointer.Runtime.CeremonyTimes
import Mathlib.Data.Nat.ModEq

/-!
# The timing of phases

A progression moves one phase on, runs the callback of the new phase once, and
keeps the next time stamp in step with the cycles, however late or early it is.
All else that blocks and calls of the scheduler do leaves the phase.
-/

namespace Encointer

variable {AccountId : Type} [DecidableEq AccountId] {config : Config AccountId}
  {s s' : Runtime AccountId}

def SchedulerStorage.position (scheduler : SchedulerStorage) : Nat × CeremonyPhaseType :=
  (scheduler.currentCeremonyIndex, scheduler.currentPhase)

namespace Scheduler

/-! ## One progression -/

/-- One phase on. A new ceremony begins after attesting. -/
def advance : Nat × CeremonyPhaseType → Nat × CeremonyPhaseType
  | (cindex, .registering) => (cindex, .assigning)
  | (cindex, .assigning) => (cindex, .attesting)
  | (cindex, .attesting) => (cindex + 1, .registering)

/-- At most a cycle away, and whole cycles from where it would be due. -/
structure InStep (cycleDuration now tnext t : Nat) : Prop where
  later : now ≤ t
  within : t ≤ now + cycleDuration
  aligned : t ≡ tnext [MOD cycleDuration]

theorem resync_inStep {cycleDuration now tnext t : Nat}
    (h : resync cycleDuration now tnext = .ok t) : InStep cycleDuration now tnext t := by
  refine ⟨(resync_bounds h).1, ?_, ?_⟩
  · unfold resync at h
    split at h
    · cases h
    · rename_i hcycle
      split at h
      · rename_i hlate
        rw [ok_inj] at h
        have hwhole := Nat.mul_div_le (now - tnext) cycleDuration
        rw [Nat.mul_succ] at h
        omega
      · rename_i hearly
        rw [ok_inj] at h
        have hgap := Nat.lt_mul_div_succ (tnext - now) (Nat.pos_of_ne_zero hcycle)
        rw [Nat.mul_succ] at hgap
        omega
  · unfold resync at h
    split at h
    · cases h
    · split at h
      · rw [ok_inj] at h
        rw [← h]
        exact Nat.add_mul_mod_self_left ..
      · rw [ok_inj] at h
        have hwhole := Nat.mul_div_le (tnext - now) cycleDuration
        have hback : t + cycleDuration * ((tnext - now) / cycleDuration) = tnext := by omega
        rw [← hback]
        exact (Nat.add_mul_mod_self_left ..).symm

/-- The scheduler enters the next phase in time, and the pallets react to it once. -/
structure Progresses (config : Config AccountId) (random : RandomNumberGenerator)
    (s s' : Runtime AccountId) : Prop where
  timed : InStep (getCycleDuration s.scheduler) s.now
    (s.scheduler.nextPhaseTimestamp +
      s.scheduler.phaseDurations.get (nextPhaseOf s.scheduler.currentPhase) 0)
    s'.scheduler.nextPhaseTimestamp
  position : s'.scheduler.position = advance s.scheduler.position
  reacted : Dispatch.onCeremonyPhaseChange config random (nextPhaseOf s.scheduler.currentPhase)
    { s with scheduler := entered s s'.scheduler.nextPhaseTimestamp } = .ok s'
  durations : s'.scheduler.phaseDurations = s.scheduler.phaseDurations

omit [DecidableEq AccountId] in
private theorem entered_position (s : Runtime AccountId) (nextPhaseTimestamp : Nat) :
    (entered s nextPhaseTimestamp).position = advance s.scheduler.position := by
  unfold entered startNextCeremony SchedulerStorage.position
  cases hphase : s.scheduler.currentPhase with
  | registering => rfl
  | assigning => rfl
  | attesting => rfl

theorem progressPhase_progresses {random : RandomNumberGenerator}
    (h : progressPhase (Dispatch.onCeremonyPhaseChange config random) s = (s', .ok ())) :
    Progresses config random s s' := by
  rcases progressPhase_spec h with ⟨-, ⟨e, he⟩, -⟩ | ⟨t, ht, ⟨e, -, -, he⟩ | ⟨hok, -⟩⟩
  · cases he
  · cases he
  · have hscheduler : s'.scheduler = entered s t :=
      (Dispatch.onCeremonyPhaseChange_scheduler rfl hok).1
    have hnext : s'.scheduler.nextPhaseTimestamp = t := by
      rw [hscheduler]
      rfl
    refine ⟨?_, ?_, ?_, ?_⟩
    · rw [hnext]
      exact resync_inStep ht
    · rw [hscheduler]
      exact entered_position s t
    · rw [hnext]
      exact hok
    · rw [hscheduler]
      exact entered_phaseDurations s t

/-! ## Actions -/

/-- The state in which the action looks at the time. -/
def atTime (s : Runtime AccountId) : Action AccountId → Runtime AccountId
  | .beginBlock now _ => { s with now := now, blockNumber := s.blockNumber + 1 }
  | _ => s

/-- Nothing but the clock has changed. -/
def OnlyClock (s s' : Runtime AccountId) : Prop :=
  ∃ now blockNumber scheduler,
    s' = { s with now := now, blockNumber := blockNumber, scheduler := scheduler }

/-- What an action does to the phase, and the phases that it enters. -/
inductive TimerStep (config : Config AccountId) (s : Runtime AccountId) (action : Action AccountId)
    (s' : Runtime AccountId) : List CeremonyPhaseType → Prop where
  | progresses (random : RandomNumberGenerator)
      (due : action = .nextPhase random ∨
        ∃ now, action = .beginBlock now random ∧ s.scheduler.nextPhaseTimestamp < now)
      (h : Progresses config random (atTime s action) s') :
      TimerStep config s action s' [s'.scheduler.currentPhase]
  | waits (position : s'.scheduler.position = s.scheduler.position)
      (durations : s'.scheduler.phaseDurations = s.scheduler.phaseDurations)
      (quiet : Dispatch.MayMoveClock action → OnlyClock s s') : TimerStep config s action s' []
  | begins (first : s.scheduler.nextPhaseTimestamp = 0 ∧ s.scheduler.currentCeremonyIndex = 0)
      (position : s'.scheduler.position = (1, s.scheduler.currentPhase))
      (durations : s'.scheduler.phaseDurations = s.scheduler.phaseDurations)
      (quiet : OnlyClock s s') : TimerStep config s action s' []

/-- The action is no change of a phase duration. -/
def keepsDurations : Action AccountId → Bool
  | .setPhaseDuration .. => false
  | _ => true

omit [DecidableEq AccountId] in
/-- The first block makes the first ceremony the current one. -/
theorem startFirstCycle_position (config : Config AccountId) (s : Runtime AccountId) :
    (startFirstCycle config s).scheduler.position =
        (max s.scheduler.currentCeremonyIndex 1, s.scheduler.currentPhase) ∧
      (startFirstCycle config s).scheduler.phaseDurations = s.scheduler.phaseDurations := by
  have hstarted : (if s.scheduler.currentCeremonyIndex = 0 then
      { s with scheduler := { s.scheduler with currentCeremonyIndex := 1 } } else s) =
        { s with scheduler := { s.scheduler with
          currentCeremonyIndex := max s.scheduler.currentCeremonyIndex 1 } } := by
    split
    · rename_i hzero
      rw [hzero]
      rfl
    · rename_i hpos
      rw [Nat.max_eq_left (by omega)]
  unfold startFirstCycle
  rw [hstarted]
  simp only
  split
  · rename_i synced hsync
    obtain ⟨t, -, rfl⟩ := resyncAndSetNextPhaseTimestamp_spec hsync
    exact ⟨rfl, rfl⟩
  · exact ⟨rfl, rfl⟩

private theorem startFirstCycle_timerStep {action : Action AccountId} {now blockNumber : Nat}
    (hfirst : s.scheduler.nextPhaseTimestamp = 0) :
    TimerStep config s action
      (startFirstCycle config { s with now := now, blockNumber := blockNumber }) [] := by
  obtain ⟨hposition, hdurations⟩ := startFirstCycle_position config
    { s with now := now, blockNumber := blockNumber }
  have honly : OnlyClock s
      (startFirstCycle config { s with now := now, blockNumber := blockNumber }) := by
    have hkept : KeepsPhase { s with now := now, blockNumber := blockNumber }
        (startFirstCycle config { s with now := now, blockNumber := blockNumber }) :=
      startFirstCycle_keepsPhase _
    obtain ⟨scheduler, hs⟩ := hkept.runtime
    rw [hs]
    exact ⟨now, blockNumber, scheduler, rfl⟩
  by_cases hzero : s.scheduler.currentCeremonyIndex = 0
  · refine .begins ⟨hfirst, hzero⟩ ?_ hdurations honly
    rw [hposition]
    simp only [hzero]
    rfl
  · refine .waits ?_ hdurations fun _ => honly
    rw [hposition]
    simp only [SchedulerStorage.position]
    rw [Nat.max_eq_left (by omega)]

end Scheduler

open Scheduler

namespace Dispatch

private theorem beginBlock_timerStep {now : Nat} {random : RandomNumberGenerator}
    (hcycle : getCycleDuration s.scheduler ≠ 0) (h : beginBlock config s now random = .ok s') :
    ∃ phases, TimerStep config s (.beginBlock now random) s' phases := by
  obtain ⟨-, hset⟩ := beginBlock_spec h
  unfold onTimestampSet at hset
  split at hset
  · rename_i hfirst
    simp only [ite_eq_ok, error_ne_ok, and_false, false_or, ok_inj] at hset
    rw [← hset.2]
    exact ⟨[], startFirstCycle_timerStep hfirst⟩
  · split at hset
    · rename_i hdue
      split at hset
      · cases hset
      · rename_i progressed result hresult hprogress
        rw [ok_inj] at hset
        subst hset
        rcases progressPhase_spec hprogress with ⟨-, -, hzero⟩ | ⟨t, -, ⟨e, he, -, rfl⟩ | ⟨-, rfl⟩⟩
        · exact absurd hzero hcycle
        · rw [onCeremonyPhaseChange_panics he] at hresult
          exact absurd rfl hresult
        · exact ⟨_, .progresses random (.inr ⟨now, rfl, hdue⟩) (progressPhase_progresses hprogress)⟩
    · rw [ok_inj] at hset
      rw [← hset]
      exact ⟨[], .waits rfl rfl fun _ => ⟨now, _, _, rfl⟩⟩

theorem Outcome.timerStep {action : Action AccountId} {observations : List (Observation AccountId)}
    (hcycle : getCycleDuration s.scheduler ≠ 0) (haction : keepsDurations action = true)
    (h : Outcome config s action s' observations) :
    ∃ phases, TimerStep config s action s' phases := by
  by_cases hclock : MayMoveClock action
  · have hcall := h.quiet_of_moveClock hclock
    cases action with
    | beginBlock now random => exact beginBlock_timerStep hcycle hcall
    | nextPhase random =>
        obtain ⟨⟨⟨⟩, hresult⟩, hstate⟩ := transactional_eq_ok.1 hcall
        exact ⟨_, .progresses random (.inl rfl) (progressPhase_progresses (Prod.ext hstate hresult))⟩
    | pushByOneDay =>
        simp only [dispatchQuiet, ok_inj] at hcall
        rw [← hcall]
        exact ⟨[], .waits rfl rfl fun _ => ⟨_, _, _, rfl⟩⟩
    | setPhaseDuration ceremonyPhase duration => cases haction
    | setNextPhaseTimestamp timestamp =>
        simp only [dispatchQuiet, ok_inj] at hcall
        rw [← hcall]
        exact ⟨[], .waits rfl rfl fun _ => ⟨_, _, _, rfl⟩⟩
    | _ => cases hclock
  · obtain ⟨hscheduler, -⟩ := h.same_clock hclock
    exact ⟨[], .waits (by rw [hscheduler]) (by rw [hscheduler]) fun h => absurd h hclock⟩

end Dispatch

theorem Chain.timerStep (config : Config AccountId) {chain : Chain AccountId}
    {action : Action AccountId} (hcycle : getCycleDuration chain.runtime.scheduler ≠ 0)
    (haction : keepsDurations action = true) :
    ∃ phases, TimerStep config chain.runtime action (chain.step config action).runtime phases := by
  rcases Chain.step_outcome config chain action with ⟨observations, -, houtcome⟩ | hsame
  · exact houtcome.timerStep hcycle haction
  · rw [hsame]
    exact ⟨[], .waits rfl rfl fun _ => ⟨_, _, _, rfl⟩⟩

/-! ## Runs -/

namespace Scheduler

def phasesEntered (config : Config AccountId) (chain : Chain AccountId)
    (action : Action AccountId) : List CeremonyPhaseType :=
  if (chain.step config action).runtime.scheduler.currentPhase =
      chain.runtime.scheduler.currentPhase then
    []
  else
    [(chain.step config action).runtime.scheduler.currentPhase]

omit [DecidableEq AccountId] in
private theorem atTime_scheduler (s : Runtime AccountId) (action : Action AccountId) :
    (atTime s action).scheduler = s.scheduler := by
  cases action <;> rfl

private theorem advance_ne (position : Nat × CeremonyPhaseType) :
    (advance position).2 ≠ position.2 := by
  obtain ⟨cindex, phase⟩ := position
  cases phase <;> simp [advance]

theorem advance_snd (position : Nat × CeremonyPhaseType) :
    (advance position).2 = nextPhaseOf position.2 := by
  obtain ⟨cindex, phase⟩ := position
  cases phase <;> rfl

theorem Progresses.advanced {random : RandomNumberGenerator} {action : Action AccountId}
    (h : Progresses config random (atTime s action) s') :
    s'.scheduler.position = advance s.scheduler.position ∧
      s'.scheduler.phaseDurations = s.scheduler.phaseDurations := by
  have hposition := h.position
  have hdurations := h.durations
  rw [atTime_scheduler] at hposition hdurations
  exact ⟨hposition, hdurations⟩

theorem TimerStep.durations {action : Action AccountId} {phases : List CeremonyPhaseType}
    (h : TimerStep config s action s' phases) :
    s'.scheduler.phaseDurations = s.scheduler.phaseDurations := by
  cases h with
  | progresses random due h => exact h.advanced.2
  | waits position durations quiet => exact durations
  | begins first position durations quiet => exact durations

theorem TimerStep.phases_eq {chain : Chain AccountId} {action : Action AccountId}
    {phases : List CeremonyPhaseType}
    (h : TimerStep config chain.runtime action (chain.step config action).runtime phases) :
    phases = phasesEntered config chain action := by
  unfold phasesEntered
  cases h with
  | progresses random due h =>
      have hphase := congrArg Prod.snd h.advanced.1
      rw [if_neg]
      intro hsame
      exact advance_ne chain.runtime.scheduler.position (hphase.symm.trans hsame)
  | waits position durations quiet => exact (if_pos (congrArg Prod.snd position)).symm
  | begins first position durations quiet => exact (if_pos (congrArg Prod.snd position)).symm

/-- From a position on, or from the first ceremony in the place of none. -/
structure Advanced (position position' : Nat × CeremonyPhaseType)
    (phases : List CeremonyPhaseType) : Prop where
  reached : ∃ cindex, (cindex = position.1 ∨ position.1 = 0 ∧ cindex = 1) ∧
    position' = advance^[phases.length] (cindex, position.2)
  sequence : phases = (List.range phases.length).map fun n => nextPhaseOf^[n + 1] position.2

theorem Advanced.refl (position : Nat × CeremonyPhaseType) : Advanced position position [] where
  reached := ⟨position.1, .inl rfl, rfl⟩
  sequence := rfl

theorem Advanced.begins {phase : CeremonyPhaseType} {position' : Nat × CeremonyPhaseType}
    {phases : List CeremonyPhaseType} (h : Advanced (1, phase) position' phases) :
    Advanced (0, phase) position' phases := by
  obtain ⟨cindex, hcindex, hposition⟩ := h.reached
  have hfirst : cindex = 1 := by simpa using hcindex
  exact ⟨⟨cindex, .inr ⟨rfl, hfirst⟩, hposition⟩, h.sequence⟩

theorem Advanced.progresses {position position' : Nat × CeremonyPhaseType}
    {phases : List CeremonyPhaseType} (h : Advanced (advance position) position' phases) :
    Advanced position position' ((advance position).2 :: phases) := by
  obtain ⟨cindex, phase⟩ := position
  obtain ⟨cindex', hcindex, hposition⟩ := h.reached
  constructor
  · rcases hcindex with rfl | ⟨hzero, rfl⟩
    · exact ⟨cindex, .inl rfl, hposition⟩
    · -- a ceremony with index zero is not over yet
      refine ⟨1, .inr ⟨?_, rfl⟩, ?_⟩
      · cases phase with
        | registering => exact hzero
        | assigning => exact hzero
        | attesting => cases hzero
      · rw [hposition]
        cases phase with
        | registering => rfl
        | assigning => rfl
        | attesting => cases hzero
  · rw [List.length_cons, List.range_succ_eq_map, List.map_cons, List.map_map]
    have hrest := h.sequence
    rw [advance_snd] at hrest ⊢
    exact congrArg _ hrest

private theorem run_advanced (config : Config AccountId) (chain : Chain AccountId)
    (actions : List (Action AccountId))
    (hcycle : getCycleDuration chain.runtime.scheduler ≠ 0)
    (hactions : ∀ action ∈ actions, keepsDurations action = true) :
    Advanced chain.runtime.scheduler.position (chain.run config actions).runtime.scheduler.position
      (Machine.log (Chain.step config) (phasesEntered config) chain actions) := by
  induction actions generalizing chain with
  | nil => exact .refl _
  | cons action rest ih =>
      obtain ⟨phases, hstep⟩ := Chain.timerStep config hcycle (hactions action List.mem_cons_self)
      have hcycle' : getCycleDuration (chain.step config action).runtime.scheduler ≠ 0 := by
        unfold getCycleDuration at hcycle ⊢
        rw [hstep.durations]
        exact hcycle
      have hrest := ih (chain.step config action) hcycle'
        fun action' hmem => hactions action' (List.mem_cons_of_mem _ hmem)
      rw [Machine.log, ← hstep.phases_eq]
      cases hstep with
      | progresses random due h =>
          have hadvanced := h.advanced.1
          rw [hadvanced] at hrest
          have hphase : (chain.step config action).runtime.scheduler.currentPhase =
              (advance chain.runtime.scheduler.position).2 := congrArg Prod.snd hadvanced
          rw [hphase]
          exact hrest.progresses
      | waits position durations quiet =>
          rw [position] at hrest
          exact hrest
      | begins first position durations quiet =>
          rw [position] at hrest
          have hposition : chain.runtime.scheduler.position =
              (0, chain.runtime.scheduler.currentPhase) := Prod.ext first.2 rfl
          rw [hposition]
          exact hrest.begins

/--
After a successful progression, the next time stamp is at most a cycle away and in step with the
last one, the next phase has begun, and the pallets have reacted to it once. In a run, each action
makes at most one progression; together they lead through the phases in order.
-/
theorem phase_timing (config : Config AccountId) :
    (∀ random s s', progressPhase (Dispatch.onCeremonyPhaseChange config random) s = (s', .ok ()) →
      Progresses config random s s') ∧
    ∀ (chain : Chain AccountId) (actions : List (Action AccountId)),
      getCycleDuration chain.runtime.scheduler ≠ 0 →
      (∀ action ∈ actions, keepsDurations action = true) →
      Machine.Along (Chain.step config)
        (fun chain action => TimerStep config chain.runtime action
          (chain.step config action).runtime (phasesEntered config chain action))
        chain actions ∧
      Advanced chain.runtime.scheduler.position
        (chain.run config actions).runtime.scheduler.position
        (Machine.log (Chain.step config) (phasesEntered config) chain actions) := by
  refine ⟨fun _ _ _ => progressPhase_progresses, ?_⟩
  intro chain actions hcycle hactions
  refine ⟨?_, run_advanced config chain actions hcycle hactions⟩
  induction actions generalizing chain with
  | nil => trivial
  | cons action rest ih =>
      obtain ⟨phases, hstep⟩ := Chain.timerStep config hcycle (hactions action List.mem_cons_self)
      have hentered := hstep.phases_eq
      subst hentered
      refine ⟨hstep, ih (chain.step config action) ?_ ?_⟩
      · unfold getCycleDuration at hcycle ⊢
        rw [hstep.durations]
        exact hcycle
      · intro action' hmem
        exact hactions action' (List.mem_cons_of_mem _ hmem)

/-- A phase is cut short and the next one is put off; then blocks are missing. -/
theorem phase_timing_first_ceremony :
    let actions : List (Action Nat) := [Demo.newDay 1, .nextPhase ⟨[]⟩, .pushByOneDay,
      Demo.newDay 3, Demo.newDay 8, Demo.newDay 12]
    let phases := Machine.log (Chain.step Demo.runtimeConfig) (phasesEntered Demo.runtimeConfig)
      Demo.start actions
    phases = [.assigning, .attesting, .registering] ∧
      Advanced Demo.start.runtime.scheduler.position
        (Demo.start.run Demo.runtimeConfig actions).runtime.scheduler.position phases :=
  ⟨by decide +kernel,
    ((phase_timing Demo.runtimeConfig).2 Demo.start _ (by decide) (by decide)).2⟩

end Scheduler

end Encointer
