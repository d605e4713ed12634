import Ecco9.V4.Load

/-! # Rest and dream cycles of the iteration-4 scheduler

`Rest` is the only step that puts the scheduler to sleep, and each call that does launches one
`dreamCycle` goroutine, which ends by calling `Wake`. `Rest` itself checks neither for an active
discussion nor for a dream already in progress: the discussion guard lives in
`shouldInitiateRest`, a step apart from the call, and only `awake` stands between two dreams.

So the discussion guard holds when `Rest` comes only from the trigger loop and no discussion
opens between the loop's check and its call; and at most one dream cycle runs when no `Wake`
other than a dream cycle's own lands during a dream. An exported `Rest` during a discussion, or
an exported `Wake` during a dream followed by a `Rest`, breaks each. -/

namespace Ecco9.V4

open AutonomousConsciousnessV4

/-! ## What a step does to `awake` and the dream cycles -/

/-- A step keeps `awake` and the number of dream cycles, or wakes through an exported or initial
`Wake`, or falls asleep and launches one dream cycle, or ends one dream cycle and wakes. -/
theorem step_awake_dreams {ac ac' : AutonomousConsciousnessV4} {e : Event}
    (hs : step ac e = some ac') :
    (ac'.awake = ac.awake ∧ ac'.dreams.length = ac.dreams.length) ∨
      ((e = .wake ∨ ∃ c, e = .startWake c) ∧ ac'.awake = true ∧ ac'.dreams = ac.dreams) ∨
      (ac.awake = true ∧ ac'.awake = false ∧ ac'.dreams.length = ac.dreams.length + 1) ∨
      (ac.dreams ≠ [] ∧ ac'.awake = true ∧ ac'.dreams.length + 1 = ac.dreams.length) := by
  cases e <;> simp only [step, Option.some.injEq] at hs
  all_goals repeat' (split at hs <;> try simp only [Option.some.injEq, reduceCtorEq] at hs)
  all_goals subst hs
  case dreamWake.h_1 hi =>
    exact .inr (.inr (.inr ⟨List.ne_nil_of_mem (List.getElem?_mem hi), by simp,
      by simpa using length_eraseIdx_of_getElem? hi⟩))
  all_goals cases ha : ac.awake <;> simp [ha, rest_dreams, cognitiveLoadMonitoringTick]

/-! ## At most one dream cycle -/

theorem step_dreamWake {ac ac' : AutonomousConsciousnessV4} {i : Nat} :
    step ac (.dreamWake i) = some ac' ↔
      ∃ d, ac.dreams[i]? = some ⟨d, .recovered⟩ ∧
        { ac with dreams := ac.dreams.eraseIdx i }.wake = ac' := by
  simp only [step]
  split <;> simp_all

/-- A run in which a `Wake` that is not a dream cycle's own, an exported one or the initial one of
`Start`, comes only when no dream cycle is in progress. -/
def WakeBetweenDreams (ac : AutonomousConsciousnessV4) (e : Event) : Prop :=
  (e = .wake ∨ ∃ c, e = .startWake c) → ac.dreams = []

/-- The dream cycles in progress and the awake scheduler are at most one between them. -/
def DreamExclusive (ac : AutonomousConsciousnessV4) : Prop :=
  ac.dreams.length + ac.awake.toNat ≤ 1

instance : DecidablePred DreamExclusive := fun _ => inferInstanceAs (Decidable (_ ≤ _))

theorem dreamExclusive_step {ac ac' : AutonomousConsciousnessV4} {e : Event}
    (he : WakeBetweenDreams ac e) (h : DreamExclusive ac) (hs : step ac e = some ac') :
    DreamExclusive ac' := by
  unfold DreamExclusive at h ⊢
  rcases step_awake_dreams hs with ⟨ha, hd⟩ | ⟨hw, ha, hd⟩ | ⟨ha₀, ha, hd⟩ | ⟨hne, ha, hd⟩
  · rwa [ha, hd]
  · simp [ha, hd, he hw]
  · rw [ha₀] at h; rw [ha, hd]; simpa using h
  · have hpos := List.length_pos.mpr hne
    cases hb : ac.awake <;> simp only [hb, ha, Bool.toNat_true, Bool.toNat_false] at h ⊢ <;> omega

/-- As long as no `Wake` from outside a dream cycle lands during one, at most one dream cycle is
in progress, and the closing `Wake` of a dream cycle leaves none running. -/
theorem dream_cycles_exclusive {ac : AutonomousConsciousnessV4}
    (hr : Ecco9.Reachable step WakeBetweenDreams newAutonomousConsciousnessV4 ac) :
    ac.dreams.length ≤ 1 ∧ ∀ i ac', step ac (.dreamWake i) = some ac' → ac'.dreams = [] := by
  have h : DreamExclusive ac := hr.inv DreamExclusive (by decide)
    fun _ _ _ he h hs => dreamExclusive_step he h hs
  refine ⟨by unfold DreamExclusive at h; omega, fun i ac' hs => ?_⟩
  have h' := dreamExclusive_step (by simp [WakeBetweenDreams]) h hs
  obtain ⟨d, -, rfl⟩ := step_dreamWake.mp hs
  simpa [DreamExclusive] using h'

theorem dream_cycles_exclusive_after_rest :
    ∃ ac, Ecco9.Reachable step WakeBetweenDreams newAutonomousConsciousnessV4 ac ∧
      ac.dreams.length = 1 ∧ ac.dreams.length ≤ 1 ∧
      ∀ i ac', step ac (.dreamWake i) = some ac' → ac'.dreams = [] := by
  obtain ⟨ac, hrun, hlen⟩ : ∃ ac, exec step newAutonomousConsciousnessV4
      (startCall 0 ++ [Event.rest]) = some ac ∧ ac.dreams.length = 1 := ⟨_, rfl, by
    simp [startCall, step, newAutonomousConsciousnessV4, components, startBegin, wake, rest]⟩
  have hadm : Admitted step WakeBetweenDreams newAutonomousConsciousnessV4
      (startCall 0 ++ [Event.rest]) := by
    simp only [startCall, components, List.length, List.replicate, List.cons_append, List.nil_append]
    repeat refine admitted_cons ⟨_, rfl, fun _ => rfl, ?_⟩
    trivial
  have hr := reachable_of_exec_admitted hadm hrun
  exact ⟨ac, hr, hlen, dream_cycles_exclusive hr⟩

/-- An exported `Wake` during the first dream cycle lets the next `Rest` launch a second. -/
def overlappingDreamsRun : List Event := startCall 0 ++ [.rest, .wake, .rest]

theorem dream_cycles_overlap : ¬ ∀ ac, Reachable ac → ac.dreams.length ≤ 1 := by
  intro h
  obtain ⟨ac, hrun, hlen⟩ : ∃ ac, exec step newAutonomousConsciousnessV4 overlappingDreamsRun =
      some ac ∧ ac.dreams.length = 2 := ⟨_, rfl, by
    simp [overlappingDreamsRun, startCall, step, newAutonomousConsciousnessV4, components,
      startBegin, wake, rest]⟩
  have := h ac (reachable_of_exec hrun)
  omega

/-! ## The discussion guard -/

/-- A dream-trigger loop has passed its check and not yet called `Rest`. -/
def RestPending (ac : AutonomousConsciousnessV4) : Prop :=
  Loop.automaticDreamTrigger true ∈ ac.loops

theorem shouldInitiateRest_discussions {ac : AutonomousConsciousnessV4}
    (h : ac.shouldInitiateRest = true) : ac.discussionsActive = false := by
  cases hd : ac.discussionsActive
  · rfl
  · simp [shouldInitiateRest, hd] at h

/-- What a step can do to the loops: keep them, let one return, launch five more, mark a trigger
loop's passed check, or clear it when the loop calls `Rest`. -/
theorem step_loops {ac ac' : AutonomousConsciousnessV4} {e : Event} (hs : step ac e = some ac') :
    ac'.loops = ac.loops ∨ (∃ i, ac'.loops = ac.loops.eraseIdx i) ∨
      ac'.loops = ac.loops ++ launchedLoops ∨
      (∃ i, ac.shouldInitiateRest = true ∧ ac'.loops = ac.loops.set i (.automaticDreamTrigger true)) ∨
      (∃ i, ac'.loops = ac.loops.set i (.automaticDreamTrigger false)) := by
  cases e <;> simp only [step, Option.some.injEq] at hs
  all_goals repeat' (split at hs <;> try simp only [Option.some.injEq, reduceCtorEq] at hs)
  all_goals subst hs
  case triggerCheck.isTrue.isFalse.isTrue hc => exact .inr (.inr (.inr (.inl ⟨_, hc, rfl⟩)))
  case triggerRest.isTrue => exact .inr (.inr (.inr (.inr ⟨_, rfl⟩)))
  all_goals simp_all [cognitiveLoadMonitoringTick]

/-- Only `setDiscussions` changes the discussion flag, and it leaves the loops as they are. -/
theorem step_discussionsActive {ac ac' : AutonomousConsciousnessV4} {e : Event}
    (hs : step ac e = some ac') :
    (∃ b, e = .setDiscussions b ∧ ac'.loops = ac.loops ∧ ac'.discussionsActive = b) ∨
      ac'.discussionsActive = ac.discussionsActive := by
  cases e <;> simp only [step, Option.some.injEq] at hs
  all_goals repeat' (split at hs <;> try simp only [Option.some.injEq, reduceCtorEq] at hs)
  all_goals subst hs
  all_goals simp [cognitiveLoadMonitoringTick]

/-- A pending `Rest` after a step was pending before it, or the step was a check that passed. -/
theorem restPending_step {ac ac' : AutonomousConsciousnessV4} {e : Event}
    (hs : step ac e = some ac') (hp : RestPending ac') :
    RestPending ac ∨ ac.shouldInitiateRest = true := by
  unfold RestPending at hp ⊢
  rcases step_loops hs with h | ⟨i, h⟩ | h | ⟨i, hc, -⟩ | ⟨i, h⟩
  · exact .inl (h ▸ hp)
  · exact .inl (List.mem_of_mem_eraseIdx (h ▸ hp))
  · rw [h, List.mem_append] at hp
    exact hp.imp_right fun hp => by simp [launchedLoops] at hp
  · exact .inr hc
  · rw [h] at hp
    exact (List.mem_or_eq_of_mem_set hp).imp_right fun hp => by cases hp
theorem step_triggerRest {ac : AutonomousConsciousnessV4} {i : Nat}
    (h : ac.loops[i]? = some (.automaticDreamTrigger true)) :
    step ac (.triggerRest i) = some { ac.rest with loops := ac.loops.set i (.automaticDreamTrigger false) } := by
  simp [step, h]

/-- A step that puts the scheduler to sleep is a call of `Rest`: an exported one, or one by a
trigger loop whose check passed. -/
theorem step_falls_asleep {ac ac' : AutonomousConsciousnessV4} {e : Event}
    (hs : step ac e = some ac') (ha : ac.awake = true) (ha' : ac'.awake = false) :
    e = .rest ∨ ∃ i, e = .triggerRest i ∧ ac.loops[i]? = some (.automaticDreamTrigger true) := by
  cases e <;> simp only [step, Option.some.injEq] at hs
  all_goals repeat' (split at hs <;> try simp only [Option.some.injEq, reduceCtorEq] at hs)
  all_goals subst hs
  all_goals simp_all [cognitiveLoadMonitoringTick]

/-- A run in which `Rest` comes only from the dream-trigger loop, and no discussion opens while a
trigger loop is between its check and its call of `Rest`. -/
def RestOnlyAutomatic (ac : AutonomousConsciousnessV4) (e : Event) : Prop :=
  e ≠ .rest ∧ (e = .setDiscussions true → ¬ RestPending ac)

/-- A pending `Rest` was checked against the discussions, and none has opened since. -/
def PendingRestChecked (ac : AutonomousConsciousnessV4) : Prop :=
  RestPending ac → ac.discussionsActive = false

theorem pendingRestChecked_step {ac ac' : AutonomousConsciousnessV4} {e : Event}
    (he : RestOnlyAutomatic ac e) (h : PendingRestChecked ac) (hs : step ac e = some ac') :
    PendingRestChecked ac' := by
  intro hp
  rcases step_discussionsActive hs with ⟨b, rfl, hl, hd⟩ | hd
  · cases b
    · exact hd
    · exact absurd (show RestPending ac by rwa [RestPending, ← hl]) (he.2 rfl)
  · rw [hd]
    rcases restPending_step hs hp with hp | hc
    · exact h hp
    · exact shouldInitiateRest_discussions hc

/-- When `Rest` comes only from the trigger loop and no discussion opens between the loop's check
and its call, the scheduler never falls asleep during an active discussion. -/
theorem rest_waits_for_discussions {ac ac' : AutonomousConsciousnessV4} {e : Event}
    (hr : Ecco9.Reachable step RestOnlyAutomatic newAutonomousConsciousnessV4 ac)
    (he : RestOnlyAutomatic ac e) (hs : step ac e = some ac') (ha : ac.awake = true)
    (ha' : ac'.awake = false) : ac.discussionsActive = false := by
  have h := hr.inv PendingRestChecked (by simp [PendingRestChecked, RestPending,
    newAutonomousConsciousnessV4]) fun _ _ _ he h hs => pendingRestChecked_step he h hs
  rcases step_falls_asleep hs ha ha' with rfl | ⟨i, rfl, hi⟩
  · exact absurd rfl he.1
  · exact h (List.getElem?_mem hi)

/-- An exported `Rest` during a discussion puts the scheduler to sleep. -/
theorem rest_during_discussion :
    ¬ ∀ ac e ac', Reachable ac → step ac e = some ac' → ac.awake = true → ac'.awake = false →
      ac.discussionsActive = false := by
  intro h
  obtain ⟨ac, hrun, ha, hd⟩ : ∃ ac, exec step newAutonomousConsciousnessV4
      (startCall 0 ++ [Event.setDiscussions true]) = some ac ∧ ac.awake = true ∧
      ac.discussionsActive = true := ⟨_, rfl, by
    simp [startCall, step, newAutonomousConsciousnessV4, components, startBegin, wake]⟩
  have := h ac .rest ac.rest (reachable_of_exec hrun) rfl ha (rest_awake ac)
  rw [hd] at this
  cases this

/-- Start, practise a skill so that the load is 0.4, accumulate fatigue 0.752 over 188 monitoring
ticks, and let 30 minutes pass; the trigger loop's check then passes. -/
def automaticRestRun : List Event :=
  startCall 0 ++ [.setPracticing true, .integrationTick 0 none] ++
    List.replicate 188 (.monitoringTick 1) ++ [.elapse (30 * 60 * 1000000000), .triggerCheck 2]

theorem rest_waits_for_discussions_automatic :
    ∃ ac ac', Ecco9.Reachable step RestOnlyAutomatic newAutonomousConsciousnessV4 ac ∧
      RestOnlyAutomatic ac (.triggerRest 2) ∧ step ac (.triggerRest 2) = some ac' ∧
      ac.awake = true ∧ ac'.awake = false ∧ ac.discussionsActive = false := by
  obtain ⟨ac₁, h₁, hi, hi₂, ha, ht, hd, hs, hn, hf⟩ : ∃ ac₁, exec step newAutonomousConsciousnessV4
      (startCall 0 ++ [Event.setPracticing true, .integrationTick 0 none]) = some ac₁ ∧
      ac₁.loops[1]? = some .cognitiveLoadMonitoring ∧
      ac₁.loops[2]? = some (.automaticDreamTrigger false) ∧ ac₁.awake = true ∧
      ac₁.dreamTrigger = ⟨true, 3 / 4, 30 * minute⟩ ∧ ac₁.discussionsActive = false ∧
      ac₁.startTime = 0 ∧ ac₁.now = 0 ∧ ac₁.loadManager.fatigueLevel +
        188 * (ac₁.loadManager.currentLoad * ac₁.loadManager.fatigueRate) = 94 / 125 := ⟨_, rfl, by
    simp [startCall, step, newAutonomousConsciousnessV4, components, launchedLoops, startBegin,
      wake, consciousnessIntegrationTick, calculateCurrentLoad, CognitiveLoadManager.updateLoad]
    norm_num⟩
  obtain ⟨lm, h₂, -, -, hlm⟩ := exec_monitoringTicks 188 hi ha
  push_cast at hlm
  rw [hf] at hlm
  have hrun : exec step newAutonomousConsciousnessV4 automaticRestRun = some { ac₁ with
      loadManager := lm
      now := ac₁.now + 30 * 60 * 1000000000
      loops := ac₁.loops.set 2 (.automaticDreamTrigger true) } := by
    rw [automaticRestRun, exec_append, exec_append, h₁, Option.some_bind, h₂, Option.some_bind]
    simp [step, hi₂, ha, ht, shouldInitiateRest, hd, hs, hn, hlm, minute, second]
    norm_num
  have h₂len : 2 < ac₁.loops.length := (List.getElem?_eq_some_iff.mp hi₂).1
  have hall : ∀ s, ∀ e ∈ automaticRestRun, RestOnlyAutomatic s e := by
    intro _ e he
    simp only [automaticRestRun, startCall, List.mem_append, List.mem_replicate, List.mem_cons,
      List.mem_singleton, List.not_mem_nil, or_false] at he
    constructor <;> rintro rfl <;> simp at he
  obtain ⟨ac, hrun, hl, hA⟩ : ∃ ac, exec step newAutonomousConsciousnessV4 automaticRestRun = some ac ∧
      ac.loops[2]? = some (.automaticDreamTrigger true) ∧ ac.awake = true :=
    ⟨_, hrun, by simp [h₂len], ha⟩
  have hr : Ecco9.Reachable step RestOnlyAutomatic newAutonomousConsciousnessV4 ac :=
    reachable_of_exec_of_forall hall hrun
  have he : RestOnlyAutomatic ac (.triggerRest 2) := ⟨by simp, by simp⟩
  have hs := step_triggerRest hl
  exact ⟨ac, _, hr, he, hs, hA, rest_awake ac,
    rest_waits_for_discussions hr he hs hA (rest_awake ac)⟩

end Ecco9.V4
