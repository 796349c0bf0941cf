import Encointer.Runtime.Steps

/-!
# Phase changes

An action enters a new phase, and then all pallets have reacted to it, or it
keeps the phase and has the effects of its own call only. The pallets cannot fail
in another way than by a panic, which drops the block.
-/

namespace Encointer

variable {AccountId : Type} [DecidableEq AccountId] {config : Config AccountId}
  {s s' : Runtime AccountId}

/-! ## Failures of the pallets -/

theorem Democracy.enactProposals_panics {proposalIds : List Nat} {e : DispatchError}
    (h : enactProposals config proposalIds s = .error e) : e = .panicked := by
  induction proposalIds generalizing s with
  | nil => cases h
  | cons proposalId rest ih =>
      unfold enactProposals at h
      split at h
      · cases h
        rfl
      · exact ih h
      · exact ih h

theorem Democracy.onCeremonyPhaseChange_panics {newPhase : CeremonyPhaseType} {e : DispatchError}
    (h : onCeremonyPhaseChange config s newPhase = .error e) : e = .panicked := by
  cases newPhase with
  | registering => cases h
  | assigning =>
      unfold onCeremonyPhaseChange at h
      cases henact : enactProposals config
          (s.democracy.enactmentQueue.entries.flatMap fun e => e.2) s with
      | error e' =>
          simp only [henact] at h
          cases h
          exact enactProposals_panics henact
      | ok enacted =>
          simp only [henact] at h
          cases h
  | attesting => cases h

omit [DecidableEq AccountId] in
theorem Ceremonies.generateMeetupAssignmentParamsOf_panics {cindex : Nat}
    {cids : List CommunityIdentifier} {random : RandomNumberGenerator} {e : DispatchError}
    (h : generateMeetupAssignmentParamsOf config cindex cids s random = .error e) :
    e = .panicked := by
  induction cids generalizing s random with
  | nil => cases h
  | cons cid cids ih =>
      unfold generateMeetupAssignmentParamsOf at h
      split at h
      · cases h
        rfl
      · exact ih h
      · exact ih h

omit [DecidableEq AccountId] in
theorem Ceremonies.onCeremonyPhaseChange_panics {random : RandomNumberGenerator}
    {newPhase : CeremonyPhaseType} {e : DispatchError}
    (h : onCeremonyPhaseChange config random newPhase s = .error e) : e = .panicked := by
  cases newPhase with
  | registering =>
      simp only [onCeremonyPhaseChange] at h
      split at h
      · cases h
      · cases h
  | assigning => exact generateMeetupAssignmentParamsOf_panics h
  | attesting => cases h

theorem Dispatch.onCeremonyPhaseChange_panics {random : RandomNumberGenerator}
    {newPhase : CeremonyPhaseType} {e : DispatchError}
    (h : onCeremonyPhaseChange config random newPhase s = .error e) : e = .panicked := by
  unfold onCeremonyPhaseChange at h
  cases henact : Democracy.onCeremonyPhaseChange config s newPhase with
  | error e' =>
      simp only [henact] at h
      cases h
      exact Democracy.onCeremonyPhaseChange_panics henact
  | ok enacted =>
      simp only [henact] at h
      exact Ceremonies.onCeremonyPhaseChange_panics h

/-! ## The scheduler -/

namespace Scheduler

variable {callback : CeremonyPhaseType → Runtime AccountId → Except DispatchError (Runtime AccountId)}

/-- The scheduler goes on within a phase. -/
structure KeepsPhase (s s' : Runtime AccountId) : Prop where
  runtime : ∃ scheduler, s' = { s with scheduler := scheduler }
  phase : s'.scheduler.currentPhase = s.scheduler.currentPhase
  time : s.scheduler.time ≤ s'.scheduler.time

section

omit [DecidableEq AccountId]

theorem KeepsPhase.refl (s : Runtime AccountId) : KeepsPhase s s :=
  ⟨⟨s.scheduler, rfl⟩, rfl, le_rfl⟩

theorem KeepsPhase.now (h : KeepsPhase s s') : s'.now = s.now := by
  obtain ⟨scheduler, hs⟩ := h.runtime
  rw [hs]

private theorem startNextCeremony_keepsPhase (s : Runtime AccountId) :
    KeepsPhase s (startNextCeremony s) :=
  ⟨⟨_, startNextCeremony_eq s⟩, startNextCeremony_phase s, startNextCeremony_time_le s⟩

theorem startFirstCycle_keepsPhase (s : Runtime AccountId) :
    KeepsPhase s (startFirstCycle config s) := by
  unfold startFirstCycle
  have hstarted : KeepsPhase s (if s.scheduler.currentCeremonyIndex = 0 then
      { s with scheduler := { s.scheduler with currentCeremonyIndex := 1 } } else s) := by
    split
    · refine ⟨⟨_, rfl⟩, rfl, ?_⟩
      simp only [SchedulerStorage.time]
      omega
    · exact .refl s
  simp only
  split
  · rename_i synced hsync
    obtain ⟨t, -, rfl⟩ := resyncAndSetNextPhaseTimestamp_spec hsync
    obtain ⟨scheduler, hs⟩ := hstarted.runtime
    have hphase := hstarted.phase
    have htime := hstarted.time
    rw [hs] at hphase htime ⊢
    exact ⟨⟨_, rfl⟩, hphase, htime⟩
  · exact hstarted

/-- The scheduler keeps the phase, or the callback has succeeded. -/
theorem progressPhase_cases {result : Except DispatchError Unit}
    (hpanics : ∀ newPhase s e, callback newPhase s = .error e → e = .panicked)
    (h : progressPhase callback s = (s', result)) (hresult : result ≠ .error .panicked) :
    KeepsPhase s s' ∨ ∃ nextPhaseTimestamp, callback (nextPhaseOf s.scheduler.currentPhase)
      { s with scheduler := entered s nextPhaseTimestamp } = .ok s' := by
  rcases progressPhase_spec h with ⟨rfl, -⟩ | ⟨t, -, ⟨e, he, -, rfl⟩ | ⟨hok, -⟩⟩
  · exact Or.inl (startNextCeremony_keepsPhase s)
  · rw [hpanics _ _ e he] at hresult
    exact absurd rfl hresult
  · exact Or.inr ⟨t, hok⟩

theorem onTimestampSet_cases
    (hpanics : ∀ newPhase s e, callback newPhase s = .error e → e = .panicked)
    (h : onTimestampSet config callback s = .ok s') :
    KeepsPhase s s' ∨ ∃ nextPhaseTimestamp, callback (nextPhaseOf s.scheduler.currentPhase)
      { s with scheduler := entered s nextPhaseTimestamp } = .ok s' := by
  unfold onTimestampSet at h
  split at h
  · simp only [ite_eq_ok, error_ne_ok, and_false, false_or, ok_inj] at h
    rw [← h.2]
    exact Or.inl (startFirstCycle_keepsPhase s)
  · split at h
    · split at h
      · cases h
      · rename_i progressed result hresult hprogress
        rw [ok_inj] at h
        rw [← h]
        exact progressPhase_cases hpanics hprogress hresult
    · rw [ok_inj] at h
      rw [← h]
      exact Or.inl (.refl s)

theorem entered_congr {s₁ : Runtime AccountId} (h : s₁.scheduler = s.scheduler)
    (nextPhaseTimestamp : Nat) : entered s₁ nextPhaseTimestamp = entered s nextPhaseTimestamp := by
  have hstarted : (startNextCeremony s₁).scheduler = (startNextCeremony s).scheduler := by
    unfold startNextCeremony
    rw [h]
    split
    · rfl
    · exact h
  unfold entered
  rw [hstarted, h]

end

end Scheduler

/-! ## The phase of an action -/

theorem Change.scheduler {effects : List (Effect AccountId)} (h : Change config s effects s')
    (hclock : Effect.clock ∉ effects) : s'.scheduler = s.scheduler ∧ s'.now = s.now := by
  cases h with
  | clock => exact absurd List.mem_cons_self hclock
  | _ => exact ⟨rfl, rfl⟩

theorem Changes.scheduler {effects : List (Effect AccountId)} (h : Changes config s effects s')
    (hclock : Effect.clock ∉ effects) : s'.scheduler = s.scheduler ∧ s'.now = s.now := by
  induction h with
  | refl => exact ⟨rfl, rfl⟩
  | tail hbefore hchange ih =>
      have hfirst := ih fun hmem => hclock (List.mem_append_left _ hmem)
      have hlast := hchange.scheduler fun hmem => hclock (List.mem_append_right _ hmem)
      exact ⟨hlast.1.trans hfirst.1, hlast.2.trans hfirst.2⟩

namespace Dispatch

theorem Outcome.quiet_of_moveClock {action : Action AccountId}
    {observations : List (Observation AccountId)} (h : Outcome config s action s' observations)
    (hclock : MayMoveClock action) : dispatchQuiet config s action = .ok s' := by
  cases h with
  | register sender cid proof c t haction => exact absurd hclock (by rw [haction]; exact id)
  | upgrade sender cid proof c t haction => exact absurd hclock (by rw [haction]; exact id)
  | endorse sender cid newbie c t haction => exact absurd hclock (by rw [haction]; exact id)
  | claim sender cid maybeMeetupIndex claim haction =>
      exact absurd hclock (by rw [haction]; exact id)
  | submit proposalAction commitments democracy cindexes haction =>
      exact absurd hclock (by rw [haction]; exact id)
  | vote sender proposalId vote reputations commitments democracy counted purpose haction =>
      exact absurd hclock (by rw [haction]; exact id)
  | quiet hcall => exact hcall

theorem Outcome.same_clock {action : Action AccountId}
    {observations : List (Observation AccountId)} (h : Outcome config s action s' observations)
    (hclock : ¬ MayMoveClock action) : s'.scheduler = s.scheduler ∧ s'.now = s.now := by
  cases h with
  | quiet hcall =>
      obtain ⟨effects, heffects, hchanges⟩ := dispatchQuiet_changes hcall
      exact hchanges.scheduler fun hmem => hclock (heffects.mayCause hmem)
  | register sender cid proof c t haction hcall hs =>
      rw [hs]
      exact ⟨rfl, rfl⟩
  | upgrade sender cid proof c t haction hcall hs =>
      rw [hs]
      exact ⟨rfl, rfl⟩
  | endorse sender cid newbie c t haction hcall hs =>
      rw [hs]
      exact ⟨rfl, rfl⟩
  | claim sender cid maybeMeetupIndex claim haction hcall hs =>
      rw [hs]
      exact ⟨rfl, rfl⟩
  | submit proposalAction commitments democracy cindexes haction hcall hcindexes hs =>
      rw [hs]
      exact ⟨rfl, rfl⟩
  | vote sender proposalId vote reputations commitments democracy counted purpose haction hcall
      hpurpose hs =>
      rw [hs]
      exact ⟨rfl, rfl⟩

/-- The action announces a new phase, after it has written the time and the scheduler. -/
inductive Enters (config : Config AccountId) (s s' : Runtime AccountId)
    (newPhase : CeremonyPhaseType) : Prop where
  | reacted (now blockNumber nextPhaseTimestamp : Nat) (random : RandomNumberGenerator)
      (later : s.now ≤ now) (next : newPhase = Scheduler.nextPhaseOf s.scheduler.currentPhase)
      (h : onCeremonyPhaseChange config random newPhase { s with
        now := now
        blockNumber := blockNumber
        scheduler := Scheduler.entered s nextPhaseTimestamp } = .ok s')

/-- What an action does that keeps the phase, apart from claims. -/
structure KeepsPhase (config : Config AccountId) (s s' : Runtime AccountId)
    (action : Action AccountId) (observations : List (Observation AccountId))
    (effects : List (Effect AccountId)) : Prop where
  phase : s'.scheduler.currentPhase = s.scheduler.currentPhase
  now : s.now ≤ s'.now
  caused : ActionEffects config s action observations effects
  changes : Changes config s effects s'
  clock : MayChangePhase action → ∀ e ∈ effects, e = Effect.clock

/-- Only the clock goes on, within a phase. -/
structure Ticks (s s' : Runtime AccountId) : Prop where
  runtime : ∃ now blockNumber scheduler,
    s' = { s with now := now, blockNumber := blockNumber, scheduler := scheduler }
  phase : s'.scheduler.currentPhase = s.scheduler.currentPhase
  now : s.now ≤ s'.now
  time : s.scheduler.time ≤ s'.scheduler.time

theorem Ticks.changes (h : Ticks s s') : Changes config s [.clock] s' := by
  obtain ⟨now, blockNumber, scheduler, hs⟩ := h.runtime
  have htime := h.time
  rw [hs] at htime ⊢
  exact (Change.clock now blockNumber scheduler htime).changes

/-- A block starts a phase, or nothing happens but that the clock goes on. -/
theorem beginBlock_enters_or_ticks {now : Nat} {random : RandomNumberGenerator}
    (h : beginBlock config s now random = .ok s') :
    (∃ newPhase, Enters config s s' newPhase) ∨ Ticks s s' := by
  obtain ⟨hlater, hset⟩ := beginBlock_spec h
  rcases Scheduler.onTimestampSet_cases (fun _ _ _ => onCeremonyPhaseChange_panics) hset with
    hkept | ⟨t, hreacted⟩
  · obtain ⟨scheduler, hs⟩ := hkept.runtime
    have hnow := hkept.now
    exact Or.inr ⟨⟨now, _, scheduler, hs⟩, hkept.phase, hnow ▸ hlater, hkept.time⟩
  · have hscheduler :
        ({ s with now := now, blockNumber := s.blockNumber + 1 } : Runtime AccountId).scheduler =
          s.scheduler := rfl
    rw [Scheduler.entered_congr hscheduler] at hreacted
    exact Or.inl ⟨_, .reacted now (s.blockNumber + 1) t random hlater rfl hreacted⟩

theorem nextPhase_enters_or_ticks {random : RandomNumberGenerator}
    (h : Scheduler.nextPhase (onCeremonyPhaseChange config random) s = .ok s') :
    (∃ newPhase, Enters config s s' newPhase) ∨ Ticks s s' := by
  obtain ⟨⟨⟨⟩, hresult⟩, hstate⟩ := transactional_eq_ok.1 h
  have hprogress : Scheduler.progressPhase (onCeremonyPhaseChange config random) s = (s', .ok ()) :=
    Prod.ext hstate hresult
  rcases Scheduler.progressPhase_cases (fun _ _ _ => onCeremonyPhaseChange_panics) hprogress
    (by simp) with hkept | ⟨t, hreacted⟩
  · obtain ⟨scheduler, hs⟩ := hkept.runtime
    exact Or.inr ⟨⟨_, _, scheduler, hs⟩, hkept.phase, hkept.now.ge, hkept.time⟩
  · exact Or.inl ⟨_, .reacted s.now s.blockNumber t random le_rfl rfl hreacted⟩

theorem mayChangePhase_enters_or_ticks {action : Action AccountId}
    (haction : MayChangePhase action) (h : dispatchQuiet config s action = .ok s') :
    (∃ newPhase, Enters config s s' newPhase) ∨ Ticks s s' := by
  cases action with
  | beginBlock now random => exact beginBlock_enters_or_ticks h
  | nextPhase random => exact nextPhase_enters_or_ticks h
  | _ => cases haction

theorem dispatchQuiet_enters_or_keeps {action : Action AccountId}
    (h : dispatchQuiet config s action = .ok s') :
    (MayChangePhase action ∧ ∃ newPhase, Enters config s s' newPhase) ∨
      ∃ effects, s'.scheduler.currentPhase = s.scheduler.currentPhase ∧ s.now ≤ s'.now ∧
        QuietEffects config s action effects ∧ Changes config s effects s' ∧
        (MayChangePhase action → ∀ e ∈ effects, e = Effect.clock) := by
  by_cases hclock : MayMoveClock action
  · cases action with
    | beginBlock now random =>
        rcases beginBlock_enters_or_ticks h with henters | hticks
        · exact Or.inl ⟨trivial, henters⟩
        · exact Or.inr ⟨_, hticks.phase, hticks.now, ⟨[], rfl, Or.inl rfl⟩, hticks.changes,
            by simp⟩
    | nextPhase random =>
        rcases nextPhase_enters_or_ticks h with henters | hticks
        · exact Or.inl ⟨trivial, henters⟩
        · exact Or.inr ⟨_, hticks.phase, hticks.now, .clock, hticks.changes, by simp⟩
    | pushByOneDay =>
        obtain ⟨effects, heffects, hchanges⟩ := dispatchQuiet_changes h
        simp only [dispatchQuiet, ok_inj] at h
        rw [← h] at hchanges ⊢
        exact Or.inr ⟨effects, rfl, le_rfl, heffects, hchanges, False.elim⟩
    | setPhaseDuration ceremonyPhase duration =>
        obtain ⟨effects, heffects, hchanges⟩ := dispatchQuiet_changes h
        simp only [dispatchQuiet, ok_inj] at h
        rw [← h] at hchanges ⊢
        exact Or.inr ⟨effects, rfl, le_rfl, heffects, hchanges, False.elim⟩
    | setNextPhaseTimestamp timestamp =>
        obtain ⟨effects, heffects, hchanges⟩ := dispatchQuiet_changes h
        simp only [dispatchQuiet, ok_inj] at h
        rw [← h] at hchanges ⊢
        exact Or.inr ⟨effects, rfl, le_rfl, heffects, hchanges, False.elim⟩
    | _ => cases hclock
  · obtain ⟨effects, heffects, hchanges⟩ := dispatchQuiet_changes h
    have hsame := hchanges.scheduler fun hmem => hclock (heffects.mayCause hmem)
    refine Or.inr ⟨effects, by rw [hsame.1], hsame.2.ge, heffects, hchanges, ?_⟩
    intro hphase
    exact absurd hphase.moveClock hclock

theorem onCeremonyPhaseChange_scheduler {random : RandomNumberGenerator}
    {newPhase : CeremonyPhaseType} (hphase : s.scheduler.currentPhase = newPhase)
    (h : onCeremonyPhaseChange config random newPhase s = .ok s') :
    s'.scheduler = s.scheduler ∧ s'.now = s.now := by
  obtain ⟨enacted, outcomes, assigned, -, -, hchanges⟩ := onCeremonyPhaseChange_changes hphase h
  apply hchanges.scheduler
  intro hmem
  rcases List.mem_append.1 hmem with henact | hmem
  · rcases Democracy.mem_enactmentEffects henact with ⟨proposalId, enacted, h⟩ | h
    · cases h
    · cases h
  · rcases List.mem_append.1 hmem with hphase | hassign
    · rcases Ceremonies.mem_phaseEffects hphase with ⟨cc, h⟩ | ⟨cid, h⟩
      · cases h
      · cases h
    · obtain ⟨cid, -, h⟩ := List.mem_map.1 hassign
      cases h

theorem Enters.scheduler {newPhase : CeremonyPhaseType} (h : Enters config s s' newPhase) :
    s.now ≤ s'.now ∧ newPhase = Scheduler.nextPhaseOf s.scheduler.currentPhase ∧
      ∃ nextPhaseTimestamp, s'.scheduler = Scheduler.entered s nextPhaseTimestamp := by
  obtain ⟨now, blockNumber, t, random, hlater, hnext, hreacted⟩ := h
  have hsame := onCeremonyPhaseChange_scheduler hnext.symm hreacted
  exact ⟨hsame.2 ▸ hlater, hnext, t, hsame.1⟩

theorem Enters.phase {newPhase : CeremonyPhaseType} (h : Enters config s s' newPhase) :
    s'.scheduler.currentPhase = newPhase := by
  obtain ⟨-, hnext, t, hscheduler⟩ := h.scheduler
  rw [hscheduler, hnext]
  rfl

/-- An action enters a phase, or it is a claim, or its effects keep the phase. -/
theorem Outcome.enters_or_keeps {action : Action AccountId}
    {observations : List (Observation AccountId)}
    (hinv : RegistryInvariant s.ceremonies.registry)
    (h : Outcome config s action s' observations) :
    (MayChangePhase action ∧ observations = [] ∧ ∃ newPhase, Enters config s s' newPhase) ∨
      (∃ claim participants, Claims s s' action observations claim participants) ∨
      ∃ effects, KeepsPhase config s s' action observations effects := by
  have hrest (hphase : s'.scheduler.currentPhase = s.scheduler.currentPhase) (hnow : s'.now = s.now)
      (haction : ¬ MayChangePhase action) :
      (∃ claim participants, Claims s s' action observations claim participants) ∨
        ∃ effects, KeepsPhase config s s' action observations effects := by
    rcases h.claims_or_changes hinv with hclaims | ⟨effects, hcaused, hchanges⟩
    · exact Or.inl hclaims
    · exact Or.inr ⟨effects, hphase, hnow.ge, hcaused, hchanges, fun h => absurd h haction⟩
  cases h with
  | register sender cid proof c t haction hcall hs =>
      exact Or.inr (hrest (by rw [hs]) (by rw [hs]) (by rw [haction]; exact id))
  | upgrade sender cid proof c t haction hcall hs =>
      exact Or.inr (hrest (by rw [hs]) (by rw [hs]) (by rw [haction]; exact id))
  | endorse sender cid newbie c t haction hcall hs =>
      exact Or.inr (hrest (by rw [hs]) (by rw [hs]) (by rw [haction]; exact id))
  | claim sender cid maybeMeetupIndex claim haction hcall hs =>
      exact Or.inr (hrest (by rw [hs]) (by rw [hs]) (by rw [haction]; exact id))
  | submit proposalAction commitments democracy cindexes haction hcall hcindexes hs =>
      exact Or.inr (hrest (by rw [hs]) (by rw [hs]) (by rw [haction]; exact id))
  | vote sender proposalId vote reputations commitments democracy counted purpose haction hcall
      hpurpose hs =>
      exact Or.inr (hrest (by rw [hs]) (by rw [hs]) (by rw [haction]; exact id))
  | quiet hcall hobs heffects =>
      rcases dispatchQuiet_enters_or_keeps hcall with ⟨hphase, henters⟩ |
        ⟨effects, hphase, hnow, hquiet, hchanges, hclock⟩
      · refine Or.inl ⟨hphase, ?_, henters⟩
        rw [hobs]
        cases action with
        | beginBlock now random => rfl
        | nextPhase random => rfl
        | _ => cases hphase
      · exact Or.inr (Or.inr ⟨effects, hphase, hnow, heffects effects hquiet, hchanges, hclock⟩)

end Dispatch

end Encointer
