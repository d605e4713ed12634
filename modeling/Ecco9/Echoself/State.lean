import Ecco9.Run
import Mathlib.Data.List.Basic

/-! # The autonomous echoself as a transition system

`AutonomousEchoself` (src/core/autonomous_echoself.go). Instants and durations are nanoseconds on
one clock `now`. `EchoBeats` is not in the source: it appears as a queue of scheduled events, a
flag for whether it runs, and the handler calls it has dispatched and not yet run. It may
dispatch any event of its own while it runs, so the handlers can be called in any order. The
dream-cycle component is seen through `IsDreaming`, whose answer is a parameter of the step that
reads it, and through the wisdom callback, which it may call while a dream cycle is in progress. -/

namespace Ecco9.Echoself

/-! ## Data -/

def minute : Int := 60 * 1000000000

def hour : Int := 60 * minute

inductive EchoselfState where
  | initializing
  | asleep
  | waking
  | awake
  | thinking
  | resting
  | dreaming
  deriving DecidableEq, Repr

/-- The fields of `EchoselfConfig` that the scheduler reads. -/
structure EchoselfConfig where
  wakeCycleDuration : Int
  restCycleDuration : Int
  dreamCycleDuration : Int
  enableStreamOfConsciousness : Bool
  enableDreamCycles : Bool
  deriving DecidableEq

/-- `DefaultEchoselfConfig`. -/
def defaultEchoselfConfig : EchoselfConfig where
  wakeCycleDuration := 4 * hour
  restCycleDuration := 30 * minute
  dreamCycleDuration := 15 * minute
  enableStreamOfConsciousness := true
  enableDreamCycles := true

/-- The EchoBeats event types the echoself registers handlers for; a thought event counts as an
autonomous action when its payload is a string. -/
inductive EventType where
  | wake
  | rest
  | dream
  | thought (stringPayload : Bool)
  | learning
  deriving DecidableEq

structure CognitiveEvent where
  type : EventType
  scheduledAt : Int
  deriving DecidableEq

structure EchoBeats where
  running : Bool
  scheduled : List CognitiveEvent
  /-- Handler calls dispatched and not yet run. -/
  inflight : List EventType
  deriving DecidableEq

/-- Where the `autonomousLifeCycle` goroutine is: before it reads the clock into `wakeTime`,
between ticks, or between its read of `currentState` and the action it takes on it. -/
inductive LifeCyclePc where
  | starting
  | idle (wakeTime : Int)
  | read (wakeTime : Int) (state : EchoselfState)
  deriving DecidableEq

/-- The three loops `Start` launches; only the life cycle touches the echoself's state. -/
inductive Loop where
  | autonomousLifeCycle (pc : LifeCyclePc)
  | interestDecay
  | consciousnessMonitoring
  deriving DecidableEq

/-- The goroutine `initiateDream` launches: asleep until `endAt`, then past `EndDreamCycle` and
about to count the cycle. -/
inductive DreamEnd where
  | sleeping (endAt : Int)
  | ended
  deriving DecidableEq

/-- The dream cycle has begun and `EndDreamCycle` has not yet run. -/
def DreamEnd.isSleeping : DreamEnd → Bool
  | .sleeping _ => true
  | .ended => false

/-- A call of `Start`, between its critical sections. -/
inductive StartPc where
  | begun
  | echoBeatsStarted
  | streamStarted
  | launched
  | returned (err : Option String)
  deriving DecidableEq

/-- A call of `Start` or `Stop`; `Stop` holds the lock throughout, so it returns in one step. -/
inductive Call where
  | start (pc : StartPc)
  | stop (err : Option String)
  deriving DecidableEq

structure AutonomousEchoself where
  /-- `ae.ctx` has been cancelled; the context is made once, by the constructor. -/
  ctxDone : Bool
  config : EchoselfConfig
  /-- `streamOfConsciousness != nil`. -/
  hasStream : Bool
  /-- `dreamCycle != nil`. -/
  hasDreamCycle : Bool
  echoBeats : EchoBeats
  isAwake : Bool
  currentState : EchoselfState
  cyclesCompleted : Nat
  wisdomCultivated : Nat
  autonomousActions : Nat
  now : Int
  loops : List Loop
  dreamEnds : List DreamEnd
  calls : List Call
  deriving DecidableEq

/-- `NewAutonomousEchoself`; a nil configuration means the default one. -/
def newAutonomousEchoself (config : Option EchoselfConfig) : AutonomousEchoself :=
  let config := config.getD defaultEchoselfConfig
  { ctxDone := false
    config := config
    hasStream := config.enableStreamOfConsciousness
    hasDreamCycle := config.enableDreamCycles
    echoBeats := { running := false, scheduled := [], inflight := [] }
    isAwake := false
    currentState := .initializing
    cyclesCompleted := 0
    wisdomCultivated := 0
    autonomousActions := 0
    now := 0
    loops := []
    dreamEnds := []
    calls := [] }

/-! ## Operations -/

namespace AutonomousEchoself

variable (ae : AutonomousEchoself)

/-- `initiateRest`: rest, and schedule the wake event a rest period later. -/
def initiateRest : AutonomousEchoself :=
  { ae with
    currentState := .resting
    echoBeats := { ae.echoBeats with
      scheduled := ae.echoBeats.scheduled ++ [⟨.wake, ae.now + ae.config.restCycleDuration⟩] } }

/-- `initiateDream`: dream, and when the dream component exists, begin its cycle and launch the
goroutine that ends it a dream period later. -/
def initiateDream : AutonomousEchoself :=
  let ae := { ae with currentState := .dreaming }
  if ae.hasDreamCycle then
    { ae with dreamEnds := ae.dreamEnds ++ [.sleeping (ae.now + ae.config.dreamCycleDuration)] }
  else ae

/-- `handleWakeEvent`. -/
def handleWakeEvent : AutonomousEchoself := { ae with currentState := .awake }

/-- The handler registered for an event type. -/
def handle : EventType → AutonomousEchoself
  | .wake => ae.handleWakeEvent
  | .rest => ae.initiateRest
  | .dream => ae.initiateDream
  | .thought stringPayload =>
    if stringPayload then { ae with autonomousActions := ae.autonomousActions + 1 } else ae
  | .learning => ae

/-- The action of an `autonomousLifeCycle` tick on the state it read; `dreaming` is what
`dreamCycle.IsDreaming()` answered. Returns the new state and the loop's `wakeTime`. -/
def lifeCycleAct (wakeTime : Int) (state : EchoselfState) (dreaming : Bool) :
    AutonomousEchoself × Int :=
  match state with
  | .awake | .thinking =>
    if ae.now - wakeTime > ae.config.wakeCycleDuration then (ae.initiateRest, ae.now)
    else (ae, wakeTime)
  | .resting =>
    if ae.config.enableDreamCycles && ae.hasDreamCycle && !dreaming then (ae.initiateDream, wakeTime)
    else (ae, wakeTime)
  | _ => (ae, wakeTime)

/-- The first critical section of `Start`. -/
def startBegin : AutonomousEchoself :=
  if ae.isAwake then { ae with calls := ae.calls ++ [.start (.returned (some "echoself already awake"))] }
  else { ae with currentState := .waking, calls := ae.calls ++ [.start .begun] }

/-- `Stop`, under the lock from start to end. -/
def stop : AutonomousEchoself :=
  if !ae.isAwake then { ae with calls := ae.calls ++ [.stop (some "echoself not awake")] }
  else
    { ae with
      currentState := .resting
      isAwake := false
      echoBeats := { ae.echoBeats with running := false }
      ctxDone := true
      calls := ae.calls ++ [.stop none] }

/-! ### What each operation touches -/

@[simp] theorem initiateRest_currentState : ae.initiateRest.currentState = .resting := rfl

@[simp] theorem initiateDream_currentState : ae.initiateDream.currentState = .dreaming := by
  unfold initiateDream; dsimp only; split <;> rfl

theorem initiateDream_dreamEnds : ae.initiateDream.dreamEnds = if ae.hasDreamCycle then
    ae.dreamEnds ++ [.sleeping (ae.now + ae.config.dreamCycleDuration)] else ae.dreamEnds := by
  unfold initiateDream; dsimp only; split <;> rfl

@[simp] theorem initiateDream_ctxDone : ae.initiateDream.ctxDone = ae.ctxDone := by
  unfold initiateDream; dsimp only; split <;> rfl

@[simp] theorem handle_ctxDone (t : EventType) : (ae.handle t).ctxDone = ae.ctxDone := by
  cases t <;> simp only [handle, handleWakeEvent, initiateRest, initiateDream_ctxDone]
  split <;> rfl

@[simp] theorem lifeCycleAct_ctxDone (w : Int) (st : EchoselfState) (d : Bool) :
    (ae.lifeCycleAct w st d).1.ctxDone = ae.ctxDone := by
  unfold lifeCycleAct
  split <;> (try split) <;> simp [initiateRest]

@[simp] theorem startBegin_ctxDone : ae.startBegin.ctxDone = ae.ctxDone := by
  unfold startBegin; split <;> rfl

end AutonomousEchoself

/-- The loops `Start` launches. -/
def launchedLoops : List Loop :=
  [.autonomousLifeCycle .starting, .interestDecay, .consciousnessMonitoring]

/-! ## Steps -/

/-- What can happen next: time passes, a step of a `Start` call, a `Stop` call, a step of a loop,
EchoBeats firing a due scheduled event or dispatching one of its own, a dispatched handler
running, a step of a dream-end goroutine, or the dream component's wisdom callback. -/
inductive Event where
  | elapse (d : Nat)
  | startBegin
  | startEchoBeats (call : Nat) (err : Option String)
  | startStream (call : Nat) (err : Option String)
  | startLaunch (call : Nat)
  | startFinish (call : Nat)
  | stop
  | loopExit (loop : Nat)
  | lifeCycleInit (loop : Nat)
  | lifeCycleRead (loop : Nat)
  | lifeCycleAct (loop : Nat) (dreaming : Bool)
  | fire (event : Nat)
  | emit (type : EventType)
  | handle (event : Nat)
  | dreamEnd (dream : Nat)
  | dreamCount (dream : Nat)
  | wisdomExtracted

open AutonomousEchoself in
/-- One atomic step. -/
def step (ae : AutonomousEchoself) : Event → Option AutonomousEchoself
  | .elapse d => some { ae with now := ae.now + d }
  | .startBegin => some ae.startBegin
  | .startEchoBeats c err =>
    if ae.calls[c]? = some (.start .begun) then
      match err with
      | some e => some { ae with
          calls := ae.calls.set c (.start (.returned (some ("failed to start echobeats: " ++ e)))) }
      | none => some { ae with
          echoBeats := { ae.echoBeats with running := true }
          calls := ae.calls.set c (.start .echoBeatsStarted) }
    else none
  | .startStream c err =>
    if ae.calls[c]? = some (.start .echoBeatsStarted) then
      match ae.hasStream, err with
      | true, some e => some { ae with
          calls := ae.calls.set c
            (.start (.returned (some ("failed to start stream of consciousness: " ++ e)))) }
      | _, _ => some { ae with calls := ae.calls.set c (.start .streamStarted) }
    else none
  | .startLaunch c =>
    if ae.calls[c]? = some (.start .streamStarted) then
      some { ae with loops := ae.loops ++ launchedLoops, calls := ae.calls.set c (.start .launched) }
    else none
  | .startFinish c =>
    if ae.calls[c]? = some (.start .launched) then
      some { ae with
        isAwake := true
        currentState := .awake
        calls := ae.calls.set c (.start (.returned none)) }
    else none
  | .stop => some ae.stop
  | .loopExit i =>
    if ae.ctxDone ∧ i < ae.loops.length then some { ae with loops := ae.loops.eraseIdx i }
    else none
  | .lifeCycleInit i =>
    if ae.loops[i]? = some (.autonomousLifeCycle .starting) then
      some { ae with loops := ae.loops.set i (.autonomousLifeCycle (.idle ae.now)) }
    else none
  | .lifeCycleRead i =>
    match ae.loops[i]? with
    | some (.autonomousLifeCycle (.idle w)) =>
      some { ae with loops := ae.loops.set i (.autonomousLifeCycle (.read w ae.currentState)) }
    | _ => none
  | .lifeCycleAct i dreaming =>
    match ae.loops[i]? with
    | some (.autonomousLifeCycle (.read w state)) =>
      let (ae', w') := ae.lifeCycleAct w state dreaming
      some { ae' with loops := ae.loops.set i (.autonomousLifeCycle (.idle w')) }
    | _ => none
  | .fire j =>
    match ae.echoBeats.scheduled[j]? with
    | some ev =>
      if ae.echoBeats.running ∧ ev.scheduledAt ≤ ae.now then
        some { ae with echoBeats := { ae.echoBeats with
          scheduled := ae.echoBeats.scheduled.eraseIdx j
          inflight := ae.echoBeats.inflight ++ [ev.type] } }
      else none
    | none => none
  | .emit t =>
    if ae.echoBeats.running then
      some { ae with echoBeats := { ae.echoBeats with inflight := ae.echoBeats.inflight ++ [t] } }
    else none
  | .handle k =>
    match ae.echoBeats.inflight[k]? with
    | some t =>
      some ({ ae with echoBeats := { ae.echoBeats with
        inflight := ae.echoBeats.inflight.eraseIdx k } }.handle t)
    | none => none
  | .dreamEnd j =>
    match ae.dreamEnds[j]? with
    | some (.sleeping endAt) =>
      if endAt ≤ ae.now then some { ae with dreamEnds := ae.dreamEnds.set j .ended } else none
    | _ => none
  | .dreamCount j =>
    if ae.dreamEnds[j]? = some .ended then
      some { ae with
        cyclesCompleted := ae.cyclesCompleted + 1
        dreamEnds := ae.dreamEnds.eraseIdx j }
    else none
  | .wisdomExtracted =>
    if ae.dreamEnds.any DreamEnd.isSleeping then
      some { ae with wisdomCultivated := ae.wisdomCultivated + 1 }
    else none

/-- Every state reached from the constructor with configuration `config`, by any interleaving. -/
def Reachable (config : Option EchoselfConfig) : AutonomousEchoself → Prop :=
  Ecco9.Reachable step (fun _ _ => True) (newAutonomousEchoself config)

/-- A call of `Start`, the `c`-th call of the run, in which EchoBeats and the stream start. -/
def startCall (c : Nat) : List Event :=
  [.startBegin, .startEchoBeats c none, .startStream c none, .startLaunch c, .startFinish c]

end Ecco9.Echoself
