import Ecco9.Echoself.State

/-! # The life cycle of the autonomous echoself

The spec's lifecycle table allows Awake/Thinking → Resting, Resting → Dreaming, Dreaming → Awake
and Resting → Awake. In the code only `autonomousLifeCycle` looks at the state before it writes,
and it looks at a copy read earlier in the tick; the EchoBeats handlers write their target
whatever the state. So a write follows the table only relative to what the loop read, and
`handleWakeEvent` may end a dream before `EndDreamCycle` has run.

The loop's own clock `wakeTime` restarts when it initiates a rest, not when the echoself wakes,
so the next automatic rest comes one wake period after the last rest began.

No statement assigns Asleep or Thinking, so no run enters either, and the loop's case for
Thinking never runs. -/

namespace Ecco9.Echoself

open AutonomousEchoself

/-! ## Writes of `currentState` -/

/-- The edges of the spec's lifecycle table, Thinking counted as Awake. -/
inductive LifecycleEdge : EchoselfState → EchoselfState → Prop
  | awake_resting : LifecycleEdge .awake .resting
  | thinking_resting : LifecycleEdge .thinking .resting
  | resting_dreaming : LifecycleEdge .resting .dreaming
  | dreaming_awake : LifecycleEdge .dreaming .awake
  | resting_awake : LifecycleEdge .resting .awake

/-- The state a handler writes, whatever the state it finds. -/
def handlerTarget : EventType → Option EchoselfState
  | .wake => some .awake
  | .rest => some .resting
  | .dream => some .dreaming
  | _ => none

/-- The steps of `Start` and `Stop`, which the lifecycle table does not govern. -/
def Event.IsStartStop : Event → Prop
  | .startBegin | .startEchoBeats _ _ | .startStream _ _ | .startLaunch _ | .startFinish _
  | .stop => True
  | _ => False

@[simp] theorem handle_currentState (ae : AutonomousEchoself) (t : EventType) :
    (ae.handle t).currentState = (handlerTarget t).getD ae.currentState := by
  cases t with
  | thought b => cases b <;> rfl
  | _ => simp [handle, handlerTarget, handleWakeEvent]

theorem lifeCycleAct_currentState (ae : AutonomousEchoself) (w : Int) (st : EchoselfState)
    (d : Bool) : (ae.lifeCycleAct w st d).1.currentState = ae.currentState ∨
      LifecycleEdge st (ae.lifeCycleAct w st d).1.currentState := by
  unfold lifeCycleAct
  cases st <;> simp only <;> (try split_ifs) <;> simp [LifecycleEdge.awake_resting,
    LifecycleEdge.thinking_resting, LifecycleEdge.resting_dreaming]

/-- Outside `Start` and `Stop`, a step that changes `currentState` is a handler, which writes its
target whatever the state it finds, or a life-cycle tick, which writes along an edge of the table
from the state it read earlier in the tick. -/
theorem state_writes {ae ae' : AutonomousEchoself} {e : Event} (hs : step ae e = some ae')
    (he : ¬ e.IsStartStop) :
    ae'.currentState = ae.currentState ∨
      (∃ k t, e = .handle k ∧ ae.echoBeats.inflight[k]? = some t ∧
        handlerTarget t = some ae'.currentState) ∨
      (∃ i d w st, e = .lifeCycleAct i d ∧ ae.loops[i]? = some (.autonomousLifeCycle (.read w st)) ∧
        LifecycleEdge st ae'.currentState) := by
  cases e <;> simp only [Event.IsStartStop, not_true_eq_false] at he <;>
    simp only [step, Option.some.injEq] at hs
  all_goals repeat' (split at hs <;> try simp only [Option.some.injEq, reduceCtorEq] at hs)
  all_goals subst hs
  case handle.h_1 k _ t ht =>
    cases hT : handlerTarget t with
    | none => exact .inl (by simp [hT])
    | some x => exact .inr (.inl ⟨k, t, rfl, ht, by simp [hT]⟩)
  case lifeCycleAct.h_1 i d _ w st hi =>
    rcases lifeCycleAct_currentState ae w st d with h | h
    · exact .inl h
    · exact .inr (.inr ⟨i, d, w, st, rfl, hi, h⟩)
  all_goals exact .inl rfl

theorem state_writes_dream_handler :
    ∃ ae ae', exec step (newAutonomousEchoself none) (startCall 0 ++ [Event.emit .dream]) = some ae ∧
      step ae (.handle 0) = some ae' ∧ ¬ (Event.handle 0).IsStartStop ∧
      (ae'.currentState = ae.currentState ∨
        (∃ k t, Event.handle 0 = .handle k ∧ ae.echoBeats.inflight[k]? = some t ∧
          handlerTarget t = some ae'.currentState) ∨
        (∃ i d w st, Event.handle 0 = .lifeCycleAct i d ∧
          ae.loops[i]? = some (.autonomousLifeCycle (.read w st)) ∧
          LifecycleEdge st ae'.currentState)) := by
  refine ⟨_, _, rfl, rfl, by simp [Event.IsStartStop], ?_⟩
  exact state_writes rfl (by simp [Event.IsStartStop])

/-- EchoBeats dispatches a dream event while the echoself is awake: the handler writes Dreaming,
which no edge of the table allows from Awake. -/
theorem dream_handler_leaves_table :
    ¬ ∀ ae e ae', Reachable none ae → ¬ e.IsStartStop → step ae e = some ae' →
      ae'.currentState ≠ ae.currentState → LifecycleEdge ae.currentState ae'.currentState := by
  intro h
  obtain ⟨ae, hrun, hs⟩ : ∃ ae, exec step (newAutonomousEchoself none)
      (startCall 0 ++ [Event.emit .dream]) = some ae ∧ ae.currentState = .awake ∧
      ((step ae (.handle 0)).map (·.currentState)) = some .dreaming := ⟨_, rfl, by
    simp [startCall, step, newAutonomousEchoself, AutonomousEchoself.startBegin, handle]⟩
  obtain ⟨ae', hstep, hd⟩ := Option.map_eq_some'.mp hs.2
  have hedge := h ae (.handle 0) ae' (reachable_of_exec hrun) (by simp [Event.IsStartStop]) hstep
    (by rw [hd, hs.1]; decide)
  rw [hd, hs.1] at hedge
  cases hedge

/-! ## The loop's wake clock -/

/-- Start with the default configuration and let the life cycle run: at 241 minutes it rests and
schedules the wake for 271 minutes, at 242 minutes it dreams. -/
def restThenDreamRun : List Event :=
  startCall 0 ++ [.lifeCycleInit 0, .elapse (241 * 60 * 1000000000), .lifeCycleRead 0,
    .lifeCycleAct 0 false, .elapse (60 * 1000000000), .lifeCycleRead 0, .lifeCycleAct 0 false]

/-- The scheduled wake event fires at 271 minutes and the echoself wakes; the loop next looks at
482 minutes. -/
def wakeThenReadRun : List Event :=
  [.elapse (29 * 60 * 1000000000), .fire 0, .handle 0, .elapse (211 * 60 * 1000000000),
    .lifeCycleRead 0]

/-- The life cycle rests again at 482 minutes, four hours after its previous rest began but only
3.5 hours after the echoself woke: it was dreaming at 242 minutes, inside the last wake period. -/
theorem rest_after_short_wake :
    ∃ ae₁ ae₂ ae₃, exec step (newAutonomousEchoself none) restThenDreamRun = some ae₁ ∧
      exec step ae₁ wakeThenReadRun = some ae₂ ∧ step ae₂ (.lifeCycleAct 0 false) = some ae₃ ∧
      ae₁.currentState = .dreaming ∧ ae₂.currentState = .awake ∧
      ae₃.currentState = .resting ∧ ae₃.now - ae₃.config.wakeCycleDuration ≤ ae₁.now := by
  refine ⟨_, _, _, rfl, rfl, rfl, ?_⟩
  simp [restThenDreamRun, wakeThenReadRun, startCall, step, newAutonomousEchoself,
    AutonomousEchoself.startBegin, lifeCycleAct, initiateRest, initiateDream, handle, handleWakeEvent,
    defaultEchoselfConfig,
    hour, minute, launchedLoops]

/-! ## States no run enters -/

/-- The states the code writes: all but Asleep and Thinking, which no statement assigns. -/
def EchoselfState.Written : EchoselfState → Prop
  | .asleep | .thinking => False
  | _ => True

theorem EchoselfState.written_iff {st : EchoselfState} :
    st.Written ↔ st ≠ .asleep ∧ st ≠ .thinking := by
  cases st <;> simp [EchoselfState.Written]

theorem handle_loops (ae : AutonomousEchoself) (t : EventType) : (ae.handle t).loops = ae.loops := by
  cases t with
  | dream => simp only [handle, initiateDream]; split <;> rfl
  | thought b => cases b <;> rfl
  | _ => rfl

/-- A step writes only states the code names in an assignment. -/
theorem step_currentState_written {ae ae' : AutonomousEchoself} {e : Event}
    (hs : step ae e = some ae') (h : ae.currentState.Written) : ae'.currentState.Written := by
  cases e <;> simp only [step, Option.some.injEq] at hs
  all_goals repeat' (split at hs <;> try simp only [Option.some.injEq, reduceCtorEq] at hs)
  all_goals subst hs
  case startBegin => unfold startBegin; split <;> first | exact h | trivial
  case stop => unfold stop; split <;> first | exact h | trivial
  case lifeCycleAct.h_1 d _ w st _ =>
    show (ae.lifeCycleAct w st d).1.currentState.Written
    rcases lifeCycleAct_currentState ae w st d with h' | h'
    · exact h' ▸ h
    · generalize (ae.lifeCycleAct w st d).1.currentState = x at h' ⊢
      cases h' <;> trivial
  case handle.h_1 t _ =>
    rw [handle_currentState]
    cases t <;> first | exact h | trivial
  all_goals first | exact h | trivial

/-- After a step the life-cycle loops that have read a state hold a state read before, or the
current state, which a read takes now. -/
theorem step_reads {ae ae' : AutonomousEchoself} {e : Event} (hs : step ae e = some ae')
    {w : Int} {st : EchoselfState} (hl : .autonomousLifeCycle (.read w st) ∈ ae'.loops) :
    .autonomousLifeCycle (.read w st) ∈ ae.loops ∨ st = ae.currentState := by
  cases e <;> simp only [step, Option.some.injEq] at hs
  all_goals repeat' (split at hs <;> try simp only [Option.some.injEq, reduceCtorEq] at hs)
  all_goals subst hs
  case startBegin => unfold startBegin at hl; split at hl <;> exact .inl hl
  case stop => unfold stop at hl; split at hl <;> exact .inl hl
  case startLaunch.isTrue =>
    rcases List.mem_append.mp hl with hl | hl
    · exact .inl hl
    · simp [launchedLoops] at hl
  case loopExit.isTrue => exact .inl (List.mem_of_mem_eraseIdx hl)
  case lifeCycleInit.isTrue | lifeCycleAct.h_1 =>
    rcases List.mem_or_eq_of_mem_set hl with hl | hl
    · exact .inl hl
    · cases hl
  case lifeCycleRead.h_1 =>
    rcases List.mem_or_eq_of_mem_set hl with hl | hl
    · exact .inl hl
    · cases hl; exact .inr rfl
  case handle.h_1 => rw [handle_loops] at hl; exact .inl hl
  all_goals exact .inl hl

/-- The state and every copy of it that a life-cycle loop holds are states the code writes. -/
structure StatesWritten (ae : AutonomousEchoself) : Prop where
  current : ae.currentState.Written
  reads : ∀ w st, .autonomousLifeCycle (.read w st) ∈ ae.loops → st.Written

theorem statesWritten_step {ae ae' : AutonomousEchoself} {e : Event} (h : StatesWritten ae)
    (hs : step ae e = some ae') : StatesWritten ae' where
  current := step_currentState_written hs h.current
  reads w st hl := (step_reads hs hl).elim (h.reads w st) fun he => he ▸ h.current

/-- No run enters Asleep or Thinking: no statement assigns either, so in every reachable state,
whatever the configuration, neither the state nor the copy a life-cycle loop has read is one of
them, and the loop's Thinking case never runs. -/
theorem asleep_thinking_never_entered {config : Option EchoselfConfig} {ae : AutonomousEchoself}
    (hr : Reachable config ae) :
    (ae.currentState ≠ .asleep ∧ ae.currentState ≠ .thinking) ∧
      ∀ w st, .autonomousLifeCycle (.read w st) ∈ ae.loops → st ≠ .asleep ∧ st ≠ .thinking := by
  have h : StatesWritten ae := hr.inv StatesWritten
    (show StatesWritten (newAutonomousEchoself config) from
      ⟨trivial, fun _ _ h => (List.not_mem_nil _ h).elim⟩)
    fun _ _ _ _ h hs => statesWritten_step h hs
  exact ⟨EchoselfState.written_iff.mp h.current, fun w st hl => EchoselfState.written_iff.mp
    (h.reads w st hl)⟩

theorem asleep_thinking_never_entered_after_read :
    ∃ ae, exec step (newAutonomousEchoself none)
        (startCall 0 ++ [Event.lifeCycleInit 0, .lifeCycleRead 0]) = some ae ∧ Reachable none ae ∧
      (ae.currentState ≠ .asleep ∧ ae.currentState ≠ .thinking) ∧
      ∀ w st, .autonomousLifeCycle (.read w st) ∈ ae.loops → st ≠ .asleep ∧ st ≠ .thinking := by
  obtain ⟨ae, hae⟩ : ∃ ae, exec step (newAutonomousEchoself none)
      (startCall 0 ++ [Event.lifeCycleInit 0, .lifeCycleRead 0]) = some ae := ⟨_, rfl⟩
  exact ⟨ae, hae, reachable_of_exec hae, asleep_thinking_never_entered (reachable_of_exec hae)⟩

end Ecco9.Echoself
