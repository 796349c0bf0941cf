import Encointer.Ceremonies.RewardOnce
import Encointer.Runtime.PhaseChanges

/-!
# Failing phase progressions

Moments are `u64` and ceremony indices `u32`. The sum of the durations wraps, all
other operations saturate. A progression fails when that sum is zero, and it has
written the next ceremony index by then.
-/

namespace Encointer.Scheduler

open Checked

variable {AccountId : Type} [DecidableEq AccountId]
  {callback : CeremonyPhaseType → Runtime AccountId → Except DispatchError (Runtime AccountId)}
  {s s' : Runtime AccountId}

/-! ## The scheduler on machine words -/

def getCycleDurationU64 (scheduler : SchedulerStorage) : Nat :=
  wrappingAddU64
    (wrappingAddU64 (scheduler.phaseDurations.get .registering 0)
      (scheduler.phaseDurations.get .assigning 0))
    (scheduler.phaseDurations.get .attesting 0)

def resyncU64 (cycleDuration now tnext : Nat) : Except DispatchError Nat :=
  if cycleDuration = 0 then
    .error .divisionByZero
  else if tnext < now then
    .ok (saturatingAddU64 tnext
      (saturatingMulU64 cycleDuration (wrappingAddU64 ((now - tnext) / cycleDuration) 1)))
  else
    .ok (tnext - saturatingMulU64 cycleDuration ((tnext - now) / cycleDuration))

def resyncAndSetNextPhaseTimestampU64 (s : Runtime AccountId) (tnext : Nat) :
    Except DispatchError (Runtime AccountId) := do
  let tnext ← resyncU64 (getCycleDurationU64 s.scheduler) s.now tnext
  .ok { s with scheduler := { s.scheduler with nextPhaseTimestamp := tnext } }

def startNextCeremonyU32 (s : Runtime AccountId) : Runtime AccountId :=
  if s.scheduler.currentPhase = .attesting then
    { s with scheduler := { s.scheduler with
        currentCeremonyIndex := saturateU32 (s.scheduler.currentCeremonyIndex + 1) } }
  else
    s

def progressPhaseU64
    (callback : CeremonyPhaseType → Runtime AccountId → Except DispatchError (Runtime AccountId))
    (s : Runtime AccountId) : Runtime AccountId × Except DispatchError Unit :=
  let nextPhase := nextPhaseOf s.scheduler.currentPhase
  let next := saturatingAddU64 s.scheduler.nextPhaseTimestamp
    (s.scheduler.phaseDurations.get nextPhase 0)
  let started := startNextCeremonyU32 s
  match resyncAndSetNextPhaseTimestampU64 started next with
  | .error e => (started, .error e)
  | .ok synced =>
      let entered :=
        { synced with scheduler := { synced.scheduler with currentPhase := nextPhase } }
      match callback nextPhase entered with
      | .error e => (entered, .error e)
      | .ok changed => (changed, .ok ())

/-! ## Without overflow -/

/-- Nothing that a progression computes leaves its type. -/
structure FitsWords (s : Runtime AccountId) : Prop where
  cindex : s.scheduler.currentCeremonyIndex < u32Max
  next : s.scheduler.nextPhaseTimestamp +
    s.scheduler.phaseDurations.get (nextPhaseOf s.scheduler.currentPhase) 0 < 2 ^ 64
  cycle : s.now + getCycleDuration s.scheduler < 2 ^ 64

private theorem getCycleDurationU64_eq {scheduler : SchedulerStorage}
    (h : getCycleDuration scheduler < 2 ^ 64) :
    getCycleDurationU64 scheduler = getCycleDuration scheduler := by
  unfold getCycleDuration at h ⊢
  have hfirst : wrappingAddU64 (scheduler.phaseDurations.get .registering 0)
      (scheduler.phaseDurations.get .assigning 0) =
        scheduler.phaseDurations.get .registering 0 + scheduler.phaseDurations.get .assigning 0 :=
    wrappingAddU64_of_lt (by omega)
  rw [getCycleDurationU64, hfirst, wrappingAddU64_of_lt h]

private theorem resyncU64_eq {cycleDuration now tnext : Nat} (hcycle : now + cycleDuration < 2 ^ 64)
    (hnext : tnext < 2 ^ 64) : resyncU64 cycleDuration now tnext = resync cycleDuration now tnext := by
  unfold resyncU64 resync
  split
  · rfl
  · rename_i hpos
    split
    · rename_i hlate
      have hquotient : (now - tnext) / cycleDuration ≤ now - tnext := Nat.div_le_self _ _
      have hproduct : cycleDuration * ((now - tnext) / cycleDuration) ≤ now - tnext :=
        Nat.mul_div_le _ _
      have hnext : cycleDuration * ((now - tnext) / cycleDuration + 1) ≤
          now - tnext + cycleDuration := by
        rw [Nat.mul_succ]
        omega
      rw [wrappingAddU64_of_lt (by omega), saturatingMulU64_of_lt (by omega),
        saturatingAddU64_of_lt (by omega)]
    · have hproduct : cycleDuration * ((tnext - now) / cycleDuration) ≤ tnext - now :=
        Nat.mul_div_le _ _
      rw [saturatingMulU64_of_lt (by omega)]

omit [DecidableEq AccountId] in
private theorem startNextCeremonyU32_eq (h : s.scheduler.currentCeremonyIndex < u32Max) :
    startNextCeremonyU32 s = startNextCeremony s := by
  unfold startNextCeremonyU32 startNextCeremony
  rw [saturateU32, Nat.min_eq_left (by omega)]

omit [DecidableEq AccountId] in
theorem progressPhaseU64_eq (h : FitsWords s) :
    progressPhaseU64 callback s = progressPhase callback s := by
  have hcycle : getCycleDuration s.scheduler < 2 ^ 64 := by
    have hfits := h.cycle
    omega
  have hdurations : getCycleDuration (startNextCeremony s).scheduler =
      getCycleDuration s.scheduler := by
    unfold startNextCeremony
    split <;> rfl
  have hnow : (startNextCeremony s).now = s.now := by
    unfold startNextCeremony
    split <;> rfl
  have hsynced : resyncAndSetNextPhaseTimestampU64 (startNextCeremony s)
      (saturatingAddU64 s.scheduler.nextPhaseTimestamp
        (s.scheduler.phaseDurations.get (nextPhaseOf s.scheduler.currentPhase) 0)) =
      resyncAndSetNextPhaseTimestamp (startNextCeremony s) (s.scheduler.nextPhaseTimestamp +
        s.scheduler.phaseDurations.get (nextPhaseOf s.scheduler.currentPhase) 0) := by
    unfold resyncAndSetNextPhaseTimestampU64 resyncAndSetNextPhaseTimestamp
    rw [hdurations, hnow, saturatingAddU64_of_lt h.next]
    rw [getCycleDurationU64_eq (by rw [hdurations]; exact hcycle), hdurations,
      resyncU64_eq h.cycle h.next]
  unfold progressPhaseU64 progressPhase
  simp only [startNextCeremonyU32_eq h.cindex]
  generalize resyncAndSetNextPhaseTimestampU64 _ _ = synced at hsynced ⊢
  subst hsynced
  rfl

/-! ## Failures -/

/-- An error leaves the scheduler, and no callback has run: none would make a difference. -/
def FailsClean
    (callback : CeremonyPhaseType → Runtime AccountId → Except DispatchError (Runtime AccountId))
    (s : Runtime AccountId) : Prop :=
  ∀ s' e, progressPhaseU64 callback s = (s', .error e) → e ≠ .panicked →
    s'.scheduler.currentPhase = s.scheduler.currentPhase ∧
    s'.scheduler.currentCeremonyIndex = s.scheduler.currentCeremonyIndex ∧
    s'.scheduler.nextPhaseTimestamp = s.scheduler.nextPhaseTimestamp ∧
    ∀ callback', progressPhaseU64 callback' s = (s', .error e)

/-- A ceremony ends, and the durations are such that no next one can be timed. -/
def EndsWithoutCycle (scheduler : SchedulerStorage) : Prop :=
  scheduler.currentPhase = .attesting ∧ getCycleDurationU64 scheduler = 0 ∧
    scheduler.currentCeremonyIndex ≠ u32Max

section

omit [DecidableEq AccountId]

theorem startNextCeremonyU32_durations (s : Runtime AccountId) :
    (startNextCeremonyU32 s).scheduler.phaseDurations = s.scheduler.phaseDurations := by
  unfold startNextCeremonyU32
  split <;> rfl

/-- Without a cycle, the progression fails after it has started the next ceremony. -/
theorem progressPhaseU64_without_cycle
    (callback : CeremonyPhaseType → Runtime AccountId → Except DispatchError (Runtime AccountId))
    (h : getCycleDurationU64 s.scheduler = 0) :
    progressPhaseU64 callback s = (startNextCeremonyU32 s, .error .divisionByZero) := by
  have hcycle : getCycleDurationU64 (startNextCeremonyU32 s).scheduler = 0 := by
    unfold getCycleDurationU64 at h ⊢
    rw [startNextCeremonyU32_durations]
    exact h
  have hfailed (tnext : Nat) : resyncAndSetNextPhaseTimestampU64 (startNextCeremonyU32 s) tnext =
      .error .divisionByZero := by
    unfold resyncAndSetNextPhaseTimestampU64 resyncU64
    rw [hcycle, if_pos rfl]
    rfl
  simp only [progressPhaseU64, hfailed]

private theorem progressPhaseU64_error {e : DispatchError}
    (hcycle : getCycleDurationU64 s.scheduler ≠ 0)
    (h : progressPhaseU64 callback s = (s', .error e)) :
    ∃ newPhase entered, callback newPhase entered = .error e := by
  have hcycle' : getCycleDurationU64 (startNextCeremonyU32 s).scheduler ≠ 0 := by
    unfold getCycleDurationU64 at hcycle ⊢
    rw [startNextCeremonyU32_durations]
    exact hcycle
  have hsynced (tnext : Nat) : ∃ synced,
      resyncAndSetNextPhaseTimestampU64 (startNextCeremonyU32 s) tnext = .ok synced := by
    unfold resyncAndSetNextPhaseTimestampU64 resyncU64
    rw [if_neg hcycle']
    split
    · exact ⟨_, rfl⟩
    · exact ⟨_, rfl⟩
  obtain ⟨synced, hsynced⟩ := hsynced (saturatingAddU64 s.scheduler.nextPhaseTimestamp
    (s.scheduler.phaseDurations.get (nextPhaseOf s.scheduler.currentPhase) 0))
  simp only [progressPhaseU64, hsynced] at h
  split at h
  · rename_i e' hcallback
    cases h
    exact ⟨_, _, hcallback⟩
  · cases h

/--
A failing progression leaves the scheduler and runs no callback, just if it is not at the end of a
ceremony without a cycle duration: there, the ceremony index goes up with each attempt.
-/
theorem progressPhase_failsClean_iff
    (callback : CeremonyPhaseType → Runtime AccountId → Except DispatchError (Runtime AccountId))
    (hpanics : ∀ newPhase s e, callback newPhase s = .error e → e = .panicked)
    (s : Runtime AccountId) : FailsClean callback s ↔ ¬ EndsWithoutCycle s.scheduler := by
  constructor
  · rintro hclean ⟨hphase, hcycle, hcindex⟩
    have hkept := (hclean _ _ (progressPhaseU64_without_cycle callback hcycle) (by simp)).2.1
    rw [startNextCeremonyU32, if_pos hphase] at hkept
    simp only [saturateU32] at hkept
    omega
  · intro hends s' e h he
    by_cases hcycle : getCycleDurationU64 s.scheduler = 0
    · rw [progressPhaseU64_without_cycle callback hcycle, Prod.mk.injEq] at h
      obtain ⟨rfl, herror⟩ := h
      refine ⟨?_, ?_, ?_, ?_⟩
      · unfold startNextCeremonyU32
        split <;> rfl
      · unfold startNextCeremonyU32
        split
        · rename_i hphase
          by_contra hchanged
          refine hends ⟨hphase, hcycle, ?_⟩
          intro hlast
          rw [hlast] at hchanged
          exact hchanged rfl
        · rfl
      · unfold startNextCeremonyU32
        split <;> rfl
      · intro callback'
        rw [progressPhaseU64_without_cycle callback' hcycle, herror]
    · obtain ⟨newPhase, entered, hcallback⟩ := progressPhaseU64_error hcycle h
      exact absurd (hpanics _ _ _ hcallback) he

end

end Encointer.Scheduler

/-! ## A ceremony without a next one -/

namespace Encointer

namespace Demo

/-- In the attesting phase, all durations are set to zero. -/
def untimed : Chain Nat := start.run runtimeConfig
  [newDay 1, .nextPhase ⟨[]⟩, .nextPhase ⟨[]⟩, .setPhaseDuration .registering 0,
    .setPhaseDuration .assigning 0, .setPhaseDuration .attesting 0, .setNextPhaseTimestamp day]

end Demo

namespace Scheduler

/-- Each of two blocks fails to end the first ceremony, and starts the next one all the same. -/
theorem failed_progress_counts :
    let failed := progressPhaseU64 (Dispatch.onCeremonyPhaseChange Demo.runtimeConfig ⟨[]⟩)
      Demo.untimed.runtime
    let later := (Demo.untimed.run Demo.runtimeConfig [Demo.newDay 2, Demo.newDay 3]).runtime
    failed.2 = .error .divisionByZero ∧
      Demo.untimed.runtime.scheduler.currentCeremonyIndex = 1 ∧
      failed.1.scheduler.currentCeremonyIndex = 2 ∧
      later.scheduler.currentCeremonyIndex = 3 ∧ later.scheduler.currentPhase = .attesting ∧
      ¬ FailsClean (Dispatch.onCeremonyPhaseChange Demo.runtimeConfig ⟨[]⟩)
        Demo.untimed.runtime := by
  refine ⟨by decide +kernel, by decide +kernel, by decide +kernel, by decide +kernel,
    by decide +kernel, ?_⟩
  intro hclean
  have hkept := (hclean _ _ (progressPhaseU64_without_cycle _ (by decide +kernel)) (by simp)).2.1
  exact absurd hkept (by decide +kernel)

/-- Before the first block, the durations are positive. -/
theorem progressPhase_failsClean_iff_genesis :
    FailsClean (Dispatch.onCeremonyPhaseChange Demo.runtimeConfig ⟨[]⟩) Demo.start.runtime :=
  (progressPhase_failsClean_iff _ (fun _ _ _ => Dispatch.onCeremonyPhaseChange_panics) _).2
    fun hends => absurd hends.1 (by decide)

end Scheduler

end Encointer
