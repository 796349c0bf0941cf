import Encointer.Runtime.PhaseChanges

/-!
# Ceremonies in time

Without calls of the scheduler, the phases follow the time stamps of the blocks,
and a ceremony takes at least a whole cycle. Gaps between blocks make it longer,
never shorter.
-/

namespace Encointer

variable {AccountId : Type} [DecidableEq AccountId] {config : Config AccountId}
  {start s s' : Runtime AccountId}

/-! ## Steps of the clock -/

/-- The action is no call of the scheduler. -/
def Action.leavesScheduler : Action AccountId → Bool
  | .nextPhase _ | .pushByOneDay | .setPhaseDuration .. | .setNextPhaseTimestamp _ => false
  | _ => true

namespace Scheduler

theorem resync_bounds {cycleDuration now tnext t : Nat}
    (h : resync cycleDuration now tnext = .ok t) :
    now ≤ t ∧ (tnext < now + cycleDuration → tnext ≤ t) := by
  unfold resync at h
  split at h
  · cases h
  · rename_i hcycle
    split at h
    · rename_i hlate
      rw [ok_inj] at h
      have hgap := Nat.lt_mul_div_succ (now - tnext) (Nat.pos_of_ne_zero hcycle)
      omega
    · rename_i hearly
      rw [ok_inj] at h
      have hgap := Nat.mul_div_le (tnext - now) cycleDuration
      constructor
      · omega
      · intro hsoon
        have hnone : (tnext - now) / cycleDuration = 0 := Nat.div_eq_of_lt (by omega)
        rw [hnone] at h
        omega

/-- What the time and the scheduler do in an action that is no call of the scheduler. -/
inductive ClockStep (s s' : Runtime AccountId) : Prop where
  | waits (scheduler : s'.scheduler = s.scheduler) (later : s.now ≤ s'.now)
      (due : s'.now = s.now ∨ s'.now ≤ s.scheduler.nextPhaseTimestamp)
  | begins (cindex nextPhaseTimestamp : Nat) (first : s.scheduler.nextPhaseTimestamp = 0)
      (later : s.now ≤ s'.now)
      (scheduler : s'.scheduler = { s.scheduler with
        currentCeremonyIndex := cindex, nextPhaseTimestamp := nextPhaseTimestamp })
      (started : s.scheduler.currentCeremonyIndex ≤ cindex ∧ 1 ≤ cindex)
      (due : nextPhaseTimestamp ≠ 0 → s'.now ≤ nextPhaseTimestamp)
  | enters (nextPhaseTimestamp : Nat) (began : s.scheduler.nextPhaseTimestamp ≠ 0)
      (later : s.now ≤ s'.now) (due : s.scheduler.nextPhaseTimestamp < s'.now)
      (synced : resync (getCycleDuration s.scheduler) s'.now
        (s.scheduler.nextPhaseTimestamp +
          s.scheduler.phaseDurations.get (nextPhaseOf s.scheduler.currentPhase) 0) =
        .ok nextPhaseTimestamp)
      (scheduler : s'.scheduler = entered s nextPhaseTimestamp)

section

omit [DecidableEq AccountId]

theorem ClockStep.of_same (hscheduler : s'.scheduler = s.scheduler) (hnow : s'.now = s.now) :
    ClockStep s s' :=
  .waits hscheduler hnow.ge (Or.inl hnow)

theorem ClockStep.later (h : ClockStep s s') : s.now ≤ s'.now := by
  cases h with
  | waits scheduler later due => exact later
  | begins cindex t first later scheduler started due => exact later
  | enters t began later due synced scheduler => exact later

private theorem startFirstCycle_eq (config : Config AccountId)
    (hfirst : s.scheduler.nextPhaseTimestamp = 0) :
    ∃ cindex nextPhaseTimestamp, startFirstCycle config s = { s with
        scheduler := { s.scheduler with
          currentCeremonyIndex := cindex, nextPhaseTimestamp := nextPhaseTimestamp } } ∧
      (s.scheduler.currentCeremonyIndex ≤ cindex ∧ 1 ≤ cindex) ∧
      (nextPhaseTimestamp ≠ 0 → s.now ≤ nextPhaseTimestamp) := by
  have hstarted : ∃ cindex, (if s.scheduler.currentCeremonyIndex = 0 then
      { s with scheduler := { s.scheduler with currentCeremonyIndex := 1 } } else s) =
        { s with scheduler := { s.scheduler with currentCeremonyIndex := cindex } } ∧
      s.scheduler.currentCeremonyIndex ≤ cindex ∧ 1 ≤ cindex := by
    split
    · rename_i hzero
      exact ⟨1, rfl, by omega, le_rfl⟩
    · rename_i hpos
      exact ⟨s.scheduler.currentCeremonyIndex, rfl, le_rfl, by omega⟩
  obtain ⟨cindex, hstarted, hcindex⟩ := hstarted
  unfold startFirstCycle
  rw [hstarted]
  simp only
  split
  · rename_i synced hsync
    obtain ⟨t, ht, rfl⟩ := resyncAndSetNextPhaseTimestamp_spec hsync
    exact ⟨cindex, t, rfl, hcindex, fun _ => (resync_bounds ht).1⟩
  · refine ⟨cindex, 0, ?_, hcindex, fun h => absurd rfl h⟩
    rw [← hfirst]

end

end Scheduler

open Scheduler

namespace Dispatch

private theorem beginBlock_clockStep {now : Nat} {random : RandomNumberGenerator}
    (hcycle : getCycleDuration s.scheduler ≠ 0) (h : beginBlock config s now random = .ok s') :
    ClockStep s s' := by
  obtain ⟨hlater, hset⟩ := beginBlock_spec h
  unfold onTimestampSet at hset
  split at hset
  · rename_i hfirst
    simp only [ite_eq_ok, error_ne_ok, and_false, false_or, ok_inj] at hset
    obtain ⟨cindex, t, hstarted, hcindex, hdue⟩ := startFirstCycle_eq config hfirst
    rw [← hset.2, hstarted]
    exact .begins cindex t hfirst hlater rfl hcindex hdue
  · rename_i hbegan
    split at hset
    · rename_i hdue
      split at hset
      · cases hset
      · rename_i progressed result hresult hprogress
        rw [ok_inj] at hset
        subst hset
        rcases progressPhase_spec hprogress with ⟨-, -, hzero⟩ | ⟨t, ht, ⟨e, he, -, rfl⟩ | ⟨hok, -⟩⟩
        · exact absurd hzero hcycle
        · rw [onCeremonyPhaseChange_panics he] at hresult
          exact absurd rfl hresult
        · obtain ⟨hscheduler, hnow⟩ := onCeremonyPhaseChange_scheduler rfl hok
          refine .enters t hbegan (hnow ▸ hlater) (hnow ▸ hdue) (hnow ▸ ht) ?_
          have hblock : ({ s with now := now, blockNumber := s.blockNumber + 1 } :
              Runtime AccountId).scheduler = s.scheduler := rfl
          rw [hscheduler]
          exact entered_congr hblock t
    · rename_i hearly
      rw [ok_inj] at hset
      rw [← hset]
      exact .waits rfl hlater (Or.inr (Nat.le_of_not_lt hearly))

theorem Outcome.clockStep {action : Action AccountId} {observations : List (Observation AccountId)}
    (hcycle : getCycleDuration s.scheduler ≠ 0) (haction : action.leavesScheduler = true)
    (h : Outcome config s action s' observations) : ClockStep s s' := by
  by_cases hclock : MayMoveClock action
  · have hcall := h.quiet_of_moveClock hclock
    cases action with
    | beginBlock now random => exact beginBlock_clockStep hcycle hcall
    | nextPhase random => cases haction
    | pushByOneDay => cases haction
    | setPhaseDuration ceremonyPhase duration => cases haction
    | setNextPhaseTimestamp timestamp => cases haction
    | _ => cases hclock
  · have hsame := h.same_clock hclock
    exact .of_same hsame.1 hsame.2

end Dispatch

theorem Chain.clockStep (config : Config AccountId) {chain : Chain AccountId}
    {action : Action AccountId} (hcycle : getCycleDuration chain.runtime.scheduler ≠ 0)
    (haction : action.leavesScheduler = true) :
    ClockStep chain.runtime (chain.step config action).runtime := by
  rcases Chain.step_outcome config chain action with ⟨observations, -, houtcome⟩ | hsame
  · exact houtcome.clockStep hcycle haction
  · rw [hsame]
    exact .of_same rfl rfl

/-! ## Invariants of the clock -/

/-- Once the cycles have begun, the next phase change is due in the future. -/
structure ClockInvariant (durations : StorageMap CeremonyPhaseType Nat) (s : Runtime AccountId) :
    Prop where
  durations : s.scheduler.phaseDurations = durations
  due : s.scheduler.nextPhaseTimestamp ≠ 0 → s.now ≤ s.scheduler.nextPhaseTimestamp
  started : s.scheduler.nextPhaseTimestamp ≠ 0 → 1 ≤ s.scheduler.currentCeremonyIndex

namespace Scheduler

section

omit [DecidableEq AccountId]

theorem entered_phaseDurations (s : Runtime AccountId) (nextPhaseTimestamp : Nat) :
    (entered s nextPhaseTimestamp).phaseDurations = s.scheduler.phaseDurations := by
  unfold entered startNextCeremony
  split <;> rfl

theorem ClockStep.phaseDurations (h : ClockStep s s') :
    s'.scheduler.phaseDurations = s.scheduler.phaseDurations := by
  cases h with
  | waits scheduler later due => rw [scheduler]
  | begins cindex t first later scheduler started due => rw [scheduler]
  | enters t began later due synced scheduler =>
      rw [scheduler]
      exact entered_phaseDurations s t

private theorem le_entered_cindex (s : Runtime AccountId) (nextPhaseTimestamp : Nat) :
    s.scheduler.currentCeremonyIndex ≤ (entered s nextPhaseTimestamp).currentCeremonyIndex := by
  unfold entered startNextCeremony
  split
  · exact Nat.le_succ _
  · exact le_rfl

end

end Scheduler

namespace ClockInvariant

variable {durations : StorageMap CeremonyPhaseType Nat}

omit [DecidableEq AccountId] in
theorem genesis (genesis : GenesisConfig) (nativeBalances : StorageMap AccountId Nat)
    (assetBalances : StorageMap (AccountId × AssetKind) Nat) :
    ClockInvariant genesis.phaseDurations (genesis.build nativeBalances assetBalances) where
  durations := rfl
  due := fun h => absurd rfl h
  started := fun h => absurd rfl h

omit [DecidableEq AccountId] in
theorem step (hinv : ClockInvariant durations s) (h : ClockStep s s') :
    ClockInvariant durations s' := by
  have hdurations := h.phaseDurations.trans hinv.durations
  cases h with
  | waits scheduler later due =>
      refine ⟨hdurations, ?_, ?_⟩
      · intro hbegan
        rw [scheduler] at hbegan ⊢
        have hdue := hinv.due hbegan
        omega
      · intro hbegan
        rw [scheduler] at hbegan ⊢
        exact hinv.started hbegan
  | begins cindex t first later scheduler started due =>
      refine ⟨hdurations, ?_, ?_⟩
      · intro hbegan
        rw [scheduler] at hbegan ⊢
        exact due hbegan
      · intro hbegan
        rw [scheduler]
        exact started.2
  | enters t began later due synced scheduler =>
      refine ⟨hdurations, ?_, ?_⟩
      · intro hbegan
        rw [scheduler]
        exact (resync_bounds synced).1
      · intro hbegan
        rw [scheduler]
        exact (hinv.started began).trans (le_entered_cindex s t)

end ClockInvariant

/-! ## Ceremonies since a state -/

/-- When the ceremony ends, if all blocks come in time. -/
def SchedulerStorage.endOfCeremony (scheduler : SchedulerStorage) : Nat :=
  scheduler.nextPhaseTimestamp +
    match scheduler.currentPhase with
    | .registering => scheduler.phaseDurations.get .assigning 0 +
        scheduler.phaseDurations.get .attesting 0
    | .assigning => scheduler.phaseDurations.get .attesting 0
    | .attesting => 0

/-- That many ceremonies have ended since `start`, and each took a whole cycle. -/
structure Elapsed (start s : Runtime AccountId) (ceremonies : Nat) : Prop where
  durations : s.scheduler.phaseDurations = start.scheduler.phaseDurations
  began : s.scheduler.nextPhaseTimestamp ≠ 0
  later : start.now ≤ s.now
  cindex : s.scheduler.currentCeremonyIndex = start.scheduler.currentCeremonyIndex + ceremonies
  ends : start.scheduler.endOfCeremony + ceremonies * getCycleDuration start.scheduler ≤
    s.scheduler.endOfCeremony
  passed : ∀ n < ceremonies,
    start.scheduler.endOfCeremony + n * getCycleDuration start.scheduler < s.now

namespace Scheduler

omit [DecidableEq AccountId] in
/-- A new phase starts with its whole duration, and with a new ceremony after attesting. -/
theorem entered_endOfCeremony {nextPhaseTimestamp : Nat}
    (h : s.scheduler.nextPhaseTimestamp +
      s.scheduler.phaseDurations.get (nextPhaseOf s.scheduler.currentPhase) 0 ≤
        nextPhaseTimestamp) :
    ((entered s nextPhaseTimestamp).currentCeremonyIndex = s.scheduler.currentCeremonyIndex ∧
        s.scheduler.endOfCeremony ≤ (entered s nextPhaseTimestamp).endOfCeremony) ∨
      ((entered s nextPhaseTimestamp).currentCeremonyIndex =
          s.scheduler.currentCeremonyIndex + 1 ∧
        s.scheduler.endOfCeremony = s.scheduler.nextPhaseTimestamp ∧
        s.scheduler.endOfCeremony + getCycleDuration s.scheduler ≤
          (entered s nextPhaseTimestamp).endOfCeremony) := by
  unfold SchedulerStorage.endOfCeremony
  rw [entered_phaseDurations]
  unfold entered startNextCeremony getCycleDuration
  cases hphase : s.scheduler.currentPhase with
  | registering =>
      rw [hphase] at h
      simp only [nextPhaseOf] at h ⊢
      left
      constructor
      · rfl
      · omega
  | assigning =>
      rw [hphase] at h
      simp only [nextPhaseOf] at h ⊢
      left
      constructor
      · rfl
      · omega
  | attesting =>
      rw [hphase] at h
      simp only [nextPhaseOf, if_true] at h ⊢
      right
      refine ⟨trivial, rfl, ?_⟩
      omega

private theorem get_le_getCycleDuration (scheduler : SchedulerStorage) (phase : CeremonyPhaseType) :
    scheduler.phaseDurations.get phase 0 ≤ getCycleDuration scheduler := by
  unfold getCycleDuration
  cases phase with
  | registering => omega
  | assigning => omega
  | attesting => omega

end Scheduler

namespace Elapsed

section

omit [DecidableEq AccountId]

theorem refl (hbegan : s.scheduler.nextPhaseTimestamp ≠ 0) : Elapsed s s 0 where
  durations := rfl
  began := hbegan
  later := le_rfl
  cindex := rfl
  ends := by rw [Nat.zero_mul, Nat.add_zero]
  passed := by
    intro n hn
    cases hn

theorem step {ceremonies : Nat} (h : Elapsed start s ceremonies) (hstep : ClockStep s s') :
    ∃ ceremonies', Elapsed start s' ceremonies' := by
  have hdurations := hstep.phaseDurations.trans h.durations
  have hlater := h.later.trans hstep.later
  have hpassed : ∀ n < ceremonies,
      start.scheduler.endOfCeremony + n * getCycleDuration start.scheduler < s'.now := by
    intro n hn
    exact (h.passed n hn).trans_le hstep.later
  cases hstep with
  | waits scheduler later due =>
      refine ⟨ceremonies, hdurations, ?_, hlater, ?_, ?_, hpassed⟩
      · rw [scheduler]
        exact h.began
      · rw [scheduler]
        exact h.cindex
      · rw [scheduler]
        exact h.ends
  | begins cindex t first later scheduler started due => exact absurd first h.began
  | enters t began later due synced scheduler =>
      have hbounds := resync_bounds synced
      have hphase := get_le_getCycleDuration s.scheduler (nextPhaseOf s.scheduler.currentPhase)
      have hnext := hbounds.2 (by omega)
      have hbegan : s'.scheduler.nextPhaseTimestamp ≠ 0 := by
        rw [scheduler]
        show t ≠ 0
        have hnow := hbounds.1
        omega
      have hcycle : getCycleDuration s.scheduler = getCycleDuration start.scheduler := by
        unfold getCycleDuration
        rw [h.durations]
      have hends := h.ends
      rcases entered_endOfCeremony hnext with ⟨hcindex, hend⟩ | ⟨hcindex, hlast, hend⟩
      · refine ⟨ceremonies, hdurations, hbegan, hlater, ?_, ?_, hpassed⟩
        · rw [scheduler, hcindex]
          exact h.cindex
        · rw [scheduler]
          exact hends.trans hend
      · refine ⟨ceremonies + 1, hdurations, hbegan, hlater, ?_, ?_, ?_⟩
        · rw [scheduler, hcindex, h.cindex, Nat.add_assoc]
        · rw [scheduler, Nat.succ_mul]
          omega
        · intro n hn
          rcases Nat.lt_succ_iff_lt_or_eq.1 hn with hbefore | rfl
          · exact hpassed n hbefore
          · omega

/-- No more ceremonies have ended than cycles fit in the time, rounded up. -/
theorem ceremonies_le {ceremonies lifetime : Nat} (h : Elapsed start s ceremonies)
    (hcycle : getCycleDuration start.scheduler ≠ 0)
    (hdue : start.now ≤ start.scheduler.nextPhaseTimestamp) (hnow : s.now ≤ start.now + lifetime) :
    ceremonies ≤ (lifetime + getCycleDuration start.scheduler - 1) /
      getCycleDuration start.scheduler := by
  cases ceremonies with
  | zero => exact Nat.zero_le _
  | succ n =>
      have hpassed := h.passed n (Nat.lt_succ_self n)
      have hend : start.scheduler.nextPhaseTimestamp ≤ start.scheduler.endOfCeremony :=
        Nat.le_add_right _ _
      rw [Nat.le_div_iff_mul_le (Nat.pos_of_ne_zero hcycle), Nat.succ_mul]
      omega

end

end Elapsed

end Encointer
