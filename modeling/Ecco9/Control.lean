import Ecco9.V4.State
import Ecco9.Echoself.State

/-! # Starting and stopping the two schedulers

Both schedulers make their context once, in the constructor, and `Stop` cancels it without
waiting for anything: a loop leaves at its next look at the context, and a dream goroutine never
looks at it. So after `Stop` returns, the shared state still changes until the loops have
returned and the dream goroutines (and, in the echoself, the handlers EchoBeats has already
dispatched) have finished; from then on only a new `Start` changes it. That `Start` launches its
loops into the cancelled context. An error from a component makes `Start` return without undoing
its first lock section, and in the echoself two calls may both pass that section. -/

namespace Ecco9

/-! ## The iteration-4 scheduler -/

namespace V4

open AutonomousConsciousnessV4

/-- A call of `Start` or `Stop` that has returned. -/
def Call.returned : Call → Bool
  | .start (.returned _) | .stop (.returned _) => true
  | _ => false

/-- The state the scheduler shares with its callers: `awake`, `startTime` and the fatigue. -/
def AutonomousConsciousnessV4.shared (ac : AutonomousConsciousnessV4) : Bool × Int × ℚ :=
  (ac.awake, ac.startTime, ac.loadManager.fatigueLevel)

/-- Stopped and drained: the context is cancelled, `running` is down, no call is under way, every
loop has returned and no dream goroutine is left. -/
structure Quiescent (ac : AutonomousConsciousnessV4) : Prop where
  ctxDone : ac.ctxDone = true
  not_running : ac.running = false
  loops_nil : ac.loops = []
  dreams_nil : ac.dreams = []
  calls_returned : ∀ c ∈ ac.calls, c.returned

/-- Every step but a new `Start` and the exported `Wake` and `Rest`. -/
def Event.IsQuiet (e : Event) : Prop := e ≠ .startBegin ∧ e ≠ .wake ∧ e ≠ .rest

/-- The steps of the loops, of the dream goroutines and of the environment. -/
def Event.IsBackground : Event → Prop
  | .elapse _ | .setDiscussions _ | .setPracticing _ | .loopExit _ | .integrationTick _ _
  | .monitoringTick _ | .triggerCheck _ | .triggerRest _ | .dreamEnter _ | .dreamRecover _
  | .dreamWake _ => True
  | _ => False

theorem quiescent_step {ac ac' : AutonomousConsciousnessV4} {e : Event} (hq : Quiescent ac)
    (he : e.IsQuiet) (hs : step ac e = some ac') : Quiescent ac' ∧ ac'.shared = ac.shared := by
  obtain ⟨hc, hr, hl, hd, hcalls⟩ := hq
  have hpc : ∀ {c : Nat} {x : Call}, ac.calls[c]? = some x → x.returned := fun h =>
    hcalls _ (List.getElem?_mem h)
  cases e <;> simp only [Event.IsQuiet, ne_eq, not_true_eq_false, false_and, and_false] at he
  case elapse | setDiscussions | setPracticing =>
    simp only [step, Option.some.injEq] at hs
    subst hs
    exact ⟨⟨hc, hr, hl, hd, hcalls⟩, rfl⟩
  case stopBegin =>
    simp only [step, stopBegin, hr, Bool.not_false, ite_true, Option.some.injEq] at hs
    subst hs
    refine ⟨⟨hc, rfl, hl, hd, ?_⟩, rfl⟩
    simp only [List.mem_append, List.mem_singleton]
    rintro c (h | rfl)
    exacts [hcalls c h, rfl]
  all_goals simp only [step, hl, hd, List.getElem?_nil, List.length_nil, Nat.not_lt_zero,
    and_false, if_false, reduceCtorEq] at hs
  all_goals
    split at hs <;> first
      | exact absurd (hpc ‹_›) (by simp [Call.returned])
      | cases hs

/-- From a stopped and drained state, every run of steps other than `Start`, `Wake` and `Rest`
leaves it stopped and drained, with the shared state as it was. -/
theorem quiescent_exec {ac ac' : AutonomousConsciousnessV4} {es : List Event} (hq : Quiescent ac)
    (hes : ∀ e ∈ es, e.IsQuiet) (h : exec step ac es = some ac') :
    Quiescent ac' ∧ ac'.shared = ac.shared :=
  exec_inv (fun s => Quiescent s ∧ s.shared = ac.shared) Event.IsQuiet
    (fun _ _ _ he h hs => (quiescent_step h.1 he hs).imp_right (·.trans h.2)) ⟨hq, rfl⟩ hes h

/-- The context is made once: nothing uncancels it. -/
theorem ctxDone_step {ac ac' : AutonomousConsciousnessV4} {e : Event} (hs : step ac e = some ac')
    (hc : ac.ctxDone = true) : ac'.ctxDone = true := by
  cases e <;> simp only [step, Option.some.injEq] at hs
  all_goals repeat' (split at hs <;> try simp only [Option.some.injEq, reduceCtorEq] at hs)
  all_goals subst hs; simp [hc, cognitiveLoadMonitoringTick]

theorem ctxDone_exec {ac ac' : AutonomousConsciousnessV4} {es : List Event}
    (h : exec step ac es = some ac') (hc : ac.ctxDone = true) : ac'.ctxDone = true :=
  exec_inv (fun s => s.ctxDone = true) (fun _ => True) (fun _ _ _ _ hc hs => ctxDone_step hs hc)
    hc (fun _ _ => trivial) h

/-- The last call made is a `Stop` that has returned nil: no `Start` has come since. -/
def Stopped (ac : AutonomousConsciousnessV4) : Prop :=
  ac.calls.getLast? = some (.stop (.returned none))

/-- Start, rest, and stop while the dream goroutine has yet to enter its dream; two hours later,
the longest `Rest` sleeps, its sleep is over. -/
def lateDreamRun : List Event :=
  startCall 0 ++ [.rest, .stopBegin, .stopCancel 1, .dreamEnter 0, .elapse (2 * 60 * 60 * 1000000000)]

/-- Start, stop, and let the five loops return. -/
def drainRun : List Event :=
  startCall 0 ++ [.stopBegin, .stopCancel 1] ++ List.replicate launchedLoops.length (.loopExit 0)

end V4

/-! ## The autonomous echoself -/

namespace Echoself

open AutonomousEchoself

/-- A call of `Start` or `Stop` that has returned. -/
def Call.returned : Call → Bool
  | .start (.returned _) | .stop _ => true
  | _ => false

/-- The state the echoself shares with its callers. -/
def AutonomousEchoself.shared (ae : AutonomousEchoself) : EchoselfState × Bool × Nat × Nat × Nat :=
  (ae.currentState, ae.isAwake, ae.cyclesCompleted, ae.wisdomCultivated, ae.autonomousActions)

/-- Stopped and drained: the context is cancelled, the echoself is not awake, EchoBeats is stopped
with no handler call dispatched, no call is under way, every loop has returned and no dream-end
goroutine is left. -/
structure Quiescent (ae : AutonomousEchoself) : Prop where
  ctxDone : ae.ctxDone = true
  not_awake : ae.isAwake = false
  echoBeats_stopped : ae.echoBeats.running = false
  inflight_nil : ae.echoBeats.inflight = []
  loops_nil : ae.loops = []
  dreamEnds_nil : ae.dreamEnds = []
  calls_returned : ∀ c ∈ ae.calls, c.returned

/-- The steps of the loops, of EchoBeats and its handlers, of the dream-end goroutines and of
the dream component. -/
def Event.IsBackground : Event → Prop
  | .elapse _ | .loopExit _ | .lifeCycleInit _ | .lifeCycleRead _ | .lifeCycleAct _ _ | .fire _
  | .emit _ | .handle _ | .dreamEnd _ | .dreamCount _ | .wisdomExtracted => True
  | _ => False

theorem quiescent_step {ae ae' : AutonomousEchoself} {e : Event} (hq : Quiescent ae)
    (he : e ≠ .startBegin) (hs : step ae e = some ae') : Quiescent ae' ∧ ae'.shared = ae.shared := by
  obtain ⟨hc, ha, hb, hi, hl, hd, hcalls⟩ := hq
  have hpc : ∀ {c : Nat} {x : Call}, ae.calls[c]? = some x → x.returned := fun h =>
    hcalls _ (List.getElem?_mem h)
  cases e <;> simp only [ne_eq, not_true_eq_false] at he
  case elapse =>
    simp only [step, Option.some.injEq] at hs
    subst hs
    exact ⟨⟨hc, ha, hb, hi, hl, hd, hcalls⟩, rfl⟩
  case stop =>
    rw [step, AutonomousEchoself.stop, if_pos (by simp [ha]), Option.some.injEq] at hs
    subst hs
    refine ⟨⟨hc, ha, hb, hi, hl, hd, ?_⟩, rfl⟩
    simp only [List.mem_append, List.mem_singleton]
    rintro c (h | rfl)
    exacts [hcalls c h, rfl]
  all_goals simp only [step, hl, hd, hi, hb, List.getElem?_nil, List.length_nil, Nat.not_lt_zero,
    and_false, false_and, if_false, List.any_nil, Bool.false_eq_true, reduceCtorEq] at hs
  all_goals
    split at hs <;> first
      | exact absurd (hpc ‹_›) (by simp [Call.returned])
      | cases hs

/-- From a stopped and drained state, every run of steps other than `Start` leaves it stopped and
drained, with the shared state as it was. -/
theorem quiescent_exec {ae ae' : AutonomousEchoself} {es : List Event} (hq : Quiescent ae)
    (hes : ∀ e ∈ es, e ≠ .startBegin) (h : exec step ae es = some ae') :
    Quiescent ae' ∧ ae'.shared = ae.shared :=
  exec_inv (fun s => Quiescent s ∧ s.shared = ae.shared) (· ≠ .startBegin)
    (fun _ _ _ he h hs => (quiescent_step h.1 he hs).imp_right (·.trans h.2)) ⟨hq, rfl⟩ hes h

/-- The context is made once: nothing uncancels it. -/
theorem ctxDone_step {ae ae' : AutonomousEchoself} {e : Event} (hs : step ae e = some ae')
    (hc : ae.ctxDone = true) : ae'.ctxDone = true := by
  cases e <;> simp only [step, Option.some.injEq] at hs
  all_goals repeat' (split at hs <;> try simp only [Option.some.injEq, reduceCtorEq] at hs)
  all_goals subst hs
  case stop => unfold AutonomousEchoself.stop; split <;> simp [hc]
  all_goals simp [hc]

theorem ctxDone_exec {ae ae' : AutonomousEchoself} {es : List Event}
    (h : exec step ae es = some ae') (hc : ae.ctxDone = true) : ae'.ctxDone = true :=
  exec_inv (fun s => s.ctxDone = true) (fun _ => True) (fun _ _ _ _ hc hs => ctxDone_step hs hc)
    hc (fun _ _ => trivial) h

/-- The last call made is a `Stop` that has returned nil: no `Start` has come since. -/
def Stopped (ae : AutonomousEchoself) : Prop :=
  ae.calls.getLast? = some (.stop none)

/-- Start, let EchoBeats dispatch a dream, and stop while the dream cycle runs; fifteen minutes
later `EndDreamCycle` runs. -/
def lateDreamCountRun : List Event :=
  startCall 0 ++ [Event.emit .dream, .handle 0, .stop, .elapse (15 * 60 * 1000000000), .dreamEnd 0]

/-- Start, stop, and let the three loops return. -/
def drainRun : List Event :=
  startCall 0 ++ [.stop] ++ List.replicate launchedLoops.length (.loopExit 0)

/-- Two calls of `Start` both pass the first lock section before either sets `isAwake`. -/
def concurrentStartsRun : List Event :=
  [.startBegin, .startBegin, .startEchoBeats 0 none, .startEchoBeats 1 none, .startStream 0 none,
    .startStream 1 none, .startLaunch 0, .startLaunch 1, .startFinish 0, .startFinish 1]

/-- Both calls return nil, and each launches the three loops. -/
theorem concurrent_starts_both_succeed :
    ∃ ae, exec step (newAutonomousEchoself none) concurrentStartsRun = some ae ∧
      ae.calls = [.start (.returned none), .start (.returned none)] ∧
      ae.loops = launchedLoops ++ launchedLoops :=
  ⟨_, rfl, rfl, rfl⟩

end Echoself

/-! ## Both schedulers -/

/-- After `Stop` has returned, and before any new `Start`, a loop of either scheduler, a dream
goroutine or (in the echoself) a dispatched handler still changes the shared state: in the
iteration-4 scheduler the dream goroutine wakes it, in the echoself it counts a completed cycle. -/
theorem writes_after_stop :
    (¬ ∀ ac e ac', V4.Reachable ac → V4.Stopped ac → e.IsBackground → V4.step ac e = some ac' →
      ac'.shared = ac.shared) ∧
    (¬ ∀ ae e ae', Echoself.Reachable none ae → Echoself.Stopped ae → e.IsBackground →
      Echoself.step ae e = some ae' → ae'.shared = ae.shared) := by
  constructor
  · intro h
    obtain ⟨ac₀, h₀, hstop, ha, hn, f, hd⟩ : ∃ ac₀,
        exec V4.step V4.newAutonomousConsciousnessV4 V4.lateDreamRun = some ac₀ ∧ V4.Stopped ac₀ ∧
        ac₀.awake = false ∧ ac₀.now = 2 * V4.hour ∧
        ∃ f, ac₀.dreams = [⟨V4.restDuration f, .sleeping (0 + V4.restDuration f)⟩] :=
      ⟨_, rfl, rfl, rfl, rfl, _, rfl⟩
    -- the dream goroutine recovers, then wakes the stopped scheduler
    have hrec : V4.step ac₀ (.dreamRecover 0) = some { ac₀ with
        loadManager := ac₀.loadManager.recover (V4.restDuration f)
        dreams := [⟨V4.restDuration f, .recovered⟩] } := by
      have := V4.restDuration_le f
      simp only [V4.step, hd, hn, List.getElem?_cons_zero, List.set_cons_zero]
      rw [if_pos (by omega)]
    have hr := reachable_of_exec (show exec V4.step _ (V4.lateDreamRun ++ [.dreamRecover 0]) = _ by
      rw [exec_append, h₀, Option.some_bind, exec_cons, hrec]; rfl)
    have := congrArg Prod.fst (h _ (.dreamWake 0) _ hr hstop trivial rfl)
    simp [V4.AutonomousConsciousnessV4.shared, ha] at this
  · intro h
    obtain ⟨ae, ae', hrun, hs, hstop, hc, hc'⟩ : ∃ ae ae',
        exec Echoself.step (Echoself.newAutonomousEchoself none) Echoself.lateDreamCountRun = some ae ∧
        Echoself.step ae (.dreamCount 0) = some ae' ∧ Echoself.Stopped ae ∧
        ae.cyclesCompleted = 0 ∧ ae'.cyclesCompleted = 1 := ⟨_, _, rfl, rfl, rfl, rfl, rfl⟩
    have := congrArg (·.2.2.1) (h ae (.dreamCount 0) ae' (reachable_of_exec hrun) hstop trivial hs)
    simp only [Echoself.AutonomousEchoself.shared, hc, hc'] at this
    cases this

/-- Once `Stop` has returned and every loop, dream goroutine and dispatched handler has finished,
nothing but a new `Start` (and, in the iteration-4 scheduler, an exported `Wake` or `Rest`) changes
the shared state, and the scheduler stays stopped and drained. -/
theorem drained_schedulers_stay_stopped :
    (∀ {ac ac' : V4.AutonomousConsciousnessV4} {es : List V4.Event}, V4.Quiescent ac →
      (∀ e ∈ es, e.IsQuiet) → exec V4.step ac es = some ac' →
      V4.Quiescent ac' ∧ ac'.shared = ac.shared) ∧
    (∀ {ae ae' : Echoself.AutonomousEchoself} {es : List Echoself.Event}, Echoself.Quiescent ae →
      (∀ e ∈ es, e ≠ .startBegin) → exec Echoself.step ae es = some ae' →
      Echoself.Quiescent ae' ∧ ae'.shared = ae.shared) :=
  ⟨V4.quiescent_exec, Echoself.quiescent_exec⟩

theorem drained_schedulers_stay_stopped_after_stop :
    ∃ ac ac' ae ae', exec V4.step V4.newAutonomousConsciousnessV4 V4.drainRun = some ac ∧
      V4.Quiescent ac ∧ exec V4.step ac [.elapse 1, .stopBegin] = some ac' ∧
      (V4.Quiescent ac' ∧ ac'.shared = ac.shared) ∧
      exec Echoself.step (Echoself.newAutonomousEchoself none) Echoself.drainRun = some ae ∧
      Echoself.Quiescent ae ∧ exec Echoself.step ae [.elapse 1, .stop] = some ae' ∧
      (Echoself.Quiescent ae' ∧ ae'.shared = ae.shared) := by
  obtain ⟨ac, hac, hq⟩ : ∃ ac, exec V4.step V4.newAutonomousConsciousnessV4 V4.drainRun = some ac ∧
      V4.Quiescent ac := ⟨_, rfl, rfl, rfl, rfl, rfl, by decide⟩
  obtain ⟨ae, hae, hq'⟩ : ∃ ae, exec Echoself.step (Echoself.newAutonomousEchoself none)
      Echoself.drainRun = some ae ∧ Echoself.Quiescent ae :=
    ⟨_, rfl, rfl, rfl, rfl, rfl, rfl, rfl, by decide⟩
  exact ⟨ac, _, ae, _, hac, hq, rfl,
    drained_schedulers_stay_stopped.1 hq (by simp [V4.Event.IsQuiet])
      (show exec V4.step ac [.elapse 1, .stopBegin] = _ from rfl), hae, hq', rfl,
    drained_schedulers_stay_stopped.2 hq' (by simp)
      (show exec Echoself.step ae [.elapse 1, .stop] = _ from rfl)⟩

/-- A component's error makes `Start` return it without undoing the first lock section: the
iteration-4 scheduler stays `running` and refuses the next `Start`, and the echoself is left
Waking. -/
theorem failed_start_keeps_state :
    (∃ ac, exec V4.step V4.newAutonomousConsciousnessV4
        [.startBegin, .startComponent 0 (some "boom"), .startBegin] = some ac ∧
      ac.calls = [.start (.returned (some "failed to start AAR core: boom")),
        .start (.returned (some "autonomous consciousness already running"))] ∧
      V4.newAutonomousConsciousnessV4.running = false ∧ ac.running = true ∧ ac.loops = []) ∧
    (∃ ae, exec Echoself.step (Echoself.newAutonomousEchoself none)
        [.startBegin, .startEchoBeats 0 (some "boom")] = some ae ∧
      ae.calls = [.start (.returned (some "failed to start echobeats: boom"))] ∧
      (Echoself.newAutonomousEchoself none).currentState = .initializing ∧
      ae.currentState = .waking ∧ ae.loops = []) :=
  ⟨⟨_, rfl, rfl, rfl, rfl, rfl⟩, ⟨_, rfl, rfl, rfl, rfl, rfl⟩⟩

/-- After a `Stop`, a new `Start` returns nil with its loops launched into the context `Stop`
cancelled, and no later step uncancels it. -/
theorem restart_runs_cancelled :
    (∃ ac, exec V4.step V4.newAutonomousConsciousnessV4
        (V4.startCall 0 ++ [.stopBegin, .stopCancel 1] ++ V4.startCall 2) = some ac ∧
      ac.calls[2]? = some (.start (.returned none)) ∧ ac.running = true ∧
      ac.loops.length = V4.launchedLoops.length * 2 ∧ ac.ctxDone = true ∧
      ∀ es ac', exec V4.step ac es = some ac' → ac'.ctxDone = true) ∧
    (∃ ae, exec Echoself.step (Echoself.newAutonomousEchoself none)
        (Echoself.startCall 0 ++ [.stop] ++ Echoself.startCall 2) = some ae ∧
      ae.calls[2]? = some (.start (.returned none)) ∧ ae.isAwake = true ∧
      ae.loops.length = Echoself.launchedLoops.length * 2 ∧ ae.ctxDone = true ∧
      ∀ es ae', exec Echoself.step ae es = some ae' → ae'.ctxDone = true) :=
  ⟨⟨_, rfl, rfl, rfl, rfl, rfl, fun _ _ h => V4.ctxDone_exec h rfl⟩,
    ⟨_, rfl, rfl, rfl, rfl, rfl, fun _ _ h => Echoself.ctxDone_exec h rfl⟩⟩

end Ecco9
