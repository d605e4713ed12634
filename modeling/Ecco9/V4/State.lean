import Ecco9.Run
import Ecco9.GoInt64

/-! # The iteration-4 scheduler as a transition system

`AutonomousConsciousnessV4` (src/unnamed/part_001). Floats are read as exact rationals, and
instants and durations as nanoseconds (`time.Duration`) on one clock `now`. Collaborators that
are not in the source appear only through what the scheduler reads from them: whether a
discussion is active, whether a skill is being practised, and what each component's `Start`
returns. Goroutines and callers are records in lists, and an event names the one that moves. -/

namespace Ecco9.V4

/-! ## Data -/

def second : Int := 1000000000

def minute : Int := 60 * second

def hour : Int := 60 * minute

/-- A thought of the consciousness stream; the scheduler reads only its importance. -/
structure Thought where
  content : String
  importance : ℚ
  deriving DecidableEq

structure LoadSnapshot where
  timestamp : Int
  load : ℚ
  fatigue : ℚ
  deriving DecidableEq

structure CognitiveLoadManager where
  currentLoad : ℚ
  loadHistory : List LoadSnapshot
  fatigueLevel : ℚ
  fatigueRate : ℚ
  recoveryRate : ℚ
  deriving DecidableEq

structure AutomaticDreamTrigger where
  enabled : Bool
  fatigueThreshold : ℚ
  minWakeDuration : Int
  deriving DecidableEq

structure WorkingMemory where
  buffer : List Thought
  capacity : Nat
  deriving DecidableEq

/-- The five loops `Start` launches. A tick of the dream-trigger loop is two steps: a passed
`shouldInitiateRest` check, remembered in `restPending`, and then the call of `Rest`. -/
inductive Loop where
  | consciousnessIntegration
  | cognitiveLoadMonitoring
  | automaticDreamTrigger (restPending : Bool)
  | skillPractice
  | periodicPersistence
  deriving DecidableEq

/-- A `dreamCycle` goroutine: before `EnterDream`, asleep until `wakeAt`, or recovered and about
to call `Wake`. -/
inductive DreamPc where
  | entering
  | sleeping (wakeAt : Int)
  | recovered
  deriving DecidableEq

structure DreamCycle where
  duration : Int
  pc : DreamPc
  deriving DecidableEq

/-- A call of `Start`: the components started so far, then the loops launched and the initial
`Wake` pending, then returned with its error (`none` for nil). -/
inductive StartPc where
  | components (started : Nat)
  | launched
  | returned (err : Option String)
  deriving DecidableEq

/-- A call of `Stop`: the cancellation of the context pending, then returned. -/
inductive StopPc where
  | cancelling
  | returned (err : Option String)
  deriving DecidableEq

inductive Call where
  | start (pc : StartPc)
  | stop (pc : StopPc)
  deriving DecidableEq

structure AutonomousConsciousnessV4 where
  /-- `ac.ctx` has been cancelled; the context is made once, by the constructor. -/
  ctxDone : Bool
  workingMemory : WorkingMemory
  dreamTrigger : AutomaticDreamTrigger
  loadManager : CognitiveLoadManager
  /-- `discussionMgr.HasActiveDiscussions()`. -/
  discussionsActive : Bool
  /-- `skills.IsCurrentlyPracticing()`. -/
  practicing : Bool
  awake : Bool
  running : Bool
  startTime : Int
  now : Int
  loops : List Loop
  dreams : List DreamCycle
  calls : List Call
  deriving DecidableEq

/-- `NewAutonomousConsciousnessV4`; the clock reads 0 at construction. -/
def newAutonomousConsciousnessV4 : AutonomousConsciousnessV4 where
  ctxDone := false
  workingMemory := { buffer := [], capacity := 7 }
  dreamTrigger := { enabled := true, fatigueThreshold := 3 / 4, minWakeDuration := 30 * minute }
  loadManager :=
    { currentLoad := 0, loadHistory := [], fatigueLevel := 0, fatigueRate := 1 / 100,
      recoveryRate := 1 / 20 }
  discussionsActive := false
  practicing := false
  awake := false
  running := false
  startTime := 0
  now := 0
  loops := []
  dreams := []
  calls := []

/-! ## Operations -/

namespace CognitiveLoadManager

/-- Modelled from the spec: `CognitiveLoadManager.UpdateLoad` is not in the source; the spec's
load tick recomputes the cognitive load and stores it, so the argument becomes the current load. -/
def updateLoad (lm : CognitiveLoadManager) (load : ℚ) : CognitiveLoadManager :=
  { lm with currentLoad := load }

/-- Append a snapshot to the history and keep the last 1000 (`cognitiveLoadMonitoring`). -/
def recordSnapshot (lm : CognitiveLoadManager) (snapshot : LoadSnapshot) :
    CognitiveLoadManager :=
  let history := lm.loadHistory ++ [snapshot]
  { lm with loadHistory := if history.length > 1000 then history.tail else history }

/-- `duration.Minutes()`. -/
def minutes (duration : Int) : ℚ := (duration : ℚ) / minute

/-- The recovery at the end of a dream's sleep (`dreamCycle`), floored at zero. -/
def recover (lm : CognitiveLoadManager) (duration : Int) : CognitiveLoadManager :=
  let fatigue := lm.fatigueLevel * (1 - lm.recoveryRate * minutes duration)
  { lm with fatigueLevel := if fatigue < 0 then 0 else fatigue }

end CognitiveLoadManager

/-- Append a thought and drop the oldest beyond capacity (`processEmergedThought`). -/
def WorkingMemory.add (wm : WorkingMemory) (thought : Thought) : WorkingMemory :=
  let buffer := wm.buffer ++ [thought]
  { wm with buffer := if buffer.length > wm.capacity then buffer.tail else buffer }

/-- The rest duration `Rest` computes from the fatigue, `time.Duration(fatigue*60) * time.Minute`
in `int64`, held to between 5 minutes and 2 hours. -/
def restDuration (fatigue : ℚ) : Int :=
  let d := wrapInt64 (floatToInt64 (fatigue * 60) * minute)
  let d := if d < 5 * minute then 5 * minute else d
  if d > 2 * hour then 2 * hour else d

/-- `Rest` sleeps at most two hours. -/
theorem restDuration_le (fatigue : ℚ) : restDuration fatigue ≤ 2 * hour := by
  simp only [restDuration]
  split_ifs <;> omega

/-- The collaborators `Start` starts, in order, named as in its error messages. -/
def components : List String :=
  ["AAR core", "concurrent inference engines", "12-step scheduler", "consciousness stream",
    "dream system", "metamodel"]

/-- The loops `Start` launches. -/
def launchedLoops : List Loop :=
  [.consciousnessIntegration, .cognitiveLoadMonitoring, .automaticDreamTrigger false,
    .skillPractice, .periodicPersistence]

namespace AutonomousConsciousnessV4

variable (ac : AutonomousConsciousnessV4)

/-- `Wake`: nothing when awake; otherwise wake, restart the wake clock and keep 30% of the
fatigue. -/
def wake : AutonomousConsciousnessV4 :=
  if ac.awake then ac
  else
    { ac with
      awake := true
      startTime := ac.now
      loadManager := { ac.loadManager with fatigueLevel := ac.loadManager.fatigueLevel * (3 / 10) } }

/-- `Rest`: nothing unless awake; otherwise fall asleep and launch a `dreamCycle` goroutine. -/
def rest : AutonomousConsciousnessV4 :=
  if !ac.awake then ac
  else
    { ac with
      awake := false
      dreams := ac.dreams ++ [⟨restDuration ac.loadManager.fatigueLevel, .entering⟩] }

/-- `shouldInitiateRest`. The discussion manager is never nil: the constructor sets it. -/
def shouldInitiateRest : Bool :=
  let fatigue := ac.loadManager.fatigueLevel
  if fatigue < ac.dreamTrigger.fatigueThreshold then false
  else if ac.now - ac.startTime < ac.dreamTrigger.minWakeDuration then false
  else if ac.discussionsActive then false
  else true

/-- `calculateCurrentLoad`. -/
def calculateCurrentLoad : ℚ :=
  let baseLoad : ℚ := 1 / 10
  let memoryLoad : ℚ :=
    (ac.workingMemory.buffer.length : ℚ) / (ac.workingMemory.capacity : ℚ) * (3 / 10)
  let discussionLoad : ℚ := if ac.discussionsActive then 4 / 10 else 0
  let practiceLoad : ℚ := if ac.practicing then 3 / 10 else 0
  let totalLoad := baseLoad + memoryLoad + discussionLoad + practiceLoad
  if totalLoad > 1 then 1 else totalLoad

/-- `processEmergedThought`; the hypergraph store is a stub and the wisdom metrics are not part
of the scheduler's state. -/
def processEmergedThought (thought : Thought) : AutonomousConsciousnessV4 :=
  { ac with workingMemory := ac.workingMemory.add thought }

/-- One tick of `consciousnessIntegrationLoop`; `thought` is what the stream's channel held. -/
def consciousnessIntegrationTick (thought : Option Thought) : AutonomousConsciousnessV4 :=
  if !ac.awake then ac
  else
    let ac := match thought with
      | some t => ac.processEmergedThought t
      | none => ac
    { ac with loadManager := ac.loadManager.updateLoad ac.calculateCurrentLoad }

/-- One tick of `cognitiveLoadMonitoring`. -/
def cognitiveLoadMonitoringTick : AutonomousConsciousnessV4 :=
  let lm := ac.loadManager
  let lm := if ac.awake then { lm with fatigueLevel := lm.fatigueLevel + lm.currentLoad * lm.fatigueRate }
    else lm
  { ac with loadManager := lm.recordSnapshot ⟨ac.now, lm.currentLoad, lm.fatigueLevel⟩ }

/-- The first lock section of `Start`. -/
def startBegin : AutonomousConsciousnessV4 :=
  if ac.running then
    { ac with calls := ac.calls ++ [.start (.returned (some "autonomous consciousness already running"))] }
  else { ac with running := true, startTime := ac.now, calls := ac.calls ++ [.start (.components 0)] }

/-- The lock section of `Stop`; the cancellation follows as a step of its own. -/
def stopBegin : AutonomousConsciousnessV4 :=
  if !ac.running then
    { ac with calls := ac.calls ++ [.stop (.returned (some "autonomous consciousness not running"))] }
  else { ac with running := false, calls := ac.calls ++ [.stop .cancelling] }

/-! ### What each operation touches -/

@[simp] theorem wake_awake : ac.wake.awake = true := by unfold wake; split <;> simp_all

theorem wake_loadManager : ac.wake.loadManager = if ac.awake then ac.loadManager
    else { ac.loadManager with fatigueLevel := ac.loadManager.fatigueLevel * (3 / 10) } := by
  unfold wake; split <;> rfl

@[simp] theorem wake_dreams : ac.wake.dreams = ac.dreams := by unfold wake; split <;> rfl

@[simp] theorem wake_loops : ac.wake.loops = ac.loops := by unfold wake; split <;> rfl

@[simp] theorem wake_calls : ac.wake.calls = ac.calls := by unfold wake; split <;> rfl

@[simp] theorem wake_ctxDone : ac.wake.ctxDone = ac.ctxDone := by unfold wake; split <;> rfl

@[simp] theorem wake_running : ac.wake.running = ac.running := by unfold wake; split <;> rfl

@[simp] theorem wake_discussionsActive : ac.wake.discussionsActive = ac.discussionsActive := by
  unfold wake; split <;> rfl

@[simp] theorem wake_now : ac.wake.now = ac.now := by unfold wake; split <;> rfl

@[simp] theorem rest_awake : ac.rest.awake = false := by unfold rest; split <;> simp_all

theorem rest_dreams : ac.rest.dreams = if ac.awake then
    ac.dreams ++ [⟨restDuration ac.loadManager.fatigueLevel, .entering⟩] else ac.dreams := by
  unfold rest; cases ac.awake <;> rfl

theorem rest_of_awake (h : ac.awake = true) : ac.rest = { ac with
    awake := false, dreams := ac.dreams ++ [⟨restDuration ac.loadManager.fatigueLevel, .entering⟩] } := by
  simp [rest, h]

theorem rest_of_not_awake (h : ac.awake = false) : ac.rest = ac := by simp [rest, h]

@[simp] theorem rest_loadManager : ac.rest.loadManager = ac.loadManager := by
  unfold rest; split <;> rfl

@[simp] theorem rest_loops : ac.rest.loops = ac.loops := by unfold rest; split <;> rfl

@[simp] theorem rest_calls : ac.rest.calls = ac.calls := by unfold rest; split <;> rfl

@[simp] theorem rest_ctxDone : ac.rest.ctxDone = ac.ctxDone := by unfold rest; split <;> rfl

@[simp] theorem rest_running : ac.rest.running = ac.running := by unfold rest; split <;> rfl

@[simp] theorem rest_startTime : ac.rest.startTime = ac.startTime := by unfold rest; split <;> rfl

@[simp] theorem rest_discussionsActive : ac.rest.discussionsActive = ac.discussionsActive := by
  unfold rest; split <;> rfl

@[simp] theorem rest_now : ac.rest.now = ac.now := by unfold rest; split <;> rfl

@[simp] theorem consciousnessIntegrationTick_awake (thought : Option Thought) :
    (ac.consciousnessIntegrationTick thought).awake = ac.awake := by
  unfold consciousnessIntegrationTick; split <;> (try cases thought) <;> rfl

@[simp] theorem consciousnessIntegrationTick_dreams (thought : Option Thought) :
    (ac.consciousnessIntegrationTick thought).dreams = ac.dreams := by
  unfold consciousnessIntegrationTick; split <;> (try cases thought) <;> rfl

@[simp] theorem consciousnessIntegrationTick_loops (thought : Option Thought) :
    (ac.consciousnessIntegrationTick thought).loops = ac.loops := by
  unfold consciousnessIntegrationTick; split <;> (try cases thought) <;> rfl

@[simp] theorem consciousnessIntegrationTick_calls (thought : Option Thought) :
    (ac.consciousnessIntegrationTick thought).calls = ac.calls := by
  unfold consciousnessIntegrationTick; split <;> (try cases thought) <;> rfl

@[simp] theorem consciousnessIntegrationTick_ctxDone (thought : Option Thought) :
    (ac.consciousnessIntegrationTick thought).ctxDone = ac.ctxDone := by
  unfold consciousnessIntegrationTick; split <;> (try cases thought) <;> rfl

@[simp] theorem consciousnessIntegrationTick_discussionsActive (thought : Option Thought) :
    (ac.consciousnessIntegrationTick thought).discussionsActive = ac.discussionsActive := by
  unfold consciousnessIntegrationTick; split <;> (try cases thought) <;> rfl

@[simp] theorem consciousnessIntegrationTick_running (thought : Option Thought) :
    (ac.consciousnessIntegrationTick thought).running = ac.running := by
  unfold consciousnessIntegrationTick; split <;> (try cases thought) <;> rfl

@[simp] theorem consciousnessIntegrationTick_startTime (thought : Option Thought) :
    (ac.consciousnessIntegrationTick thought).startTime = ac.startTime := by
  unfold consciousnessIntegrationTick; split <;> (try cases thought) <;> rfl

@[simp] theorem consciousnessIntegrationTick_now (thought : Option Thought) :
    (ac.consciousnessIntegrationTick thought).now = ac.now := by
  unfold consciousnessIntegrationTick; split <;> (try cases thought) <;> rfl

@[simp] theorem startBegin_awake : ac.startBegin.awake = ac.awake := by
  unfold startBegin; split <;> rfl

@[simp] theorem startBegin_loadManager : ac.startBegin.loadManager = ac.loadManager := by
  unfold startBegin; split <;> rfl

@[simp] theorem startBegin_dreams : ac.startBegin.dreams = ac.dreams := by
  unfold startBegin; split <;> rfl

@[simp] theorem startBegin_loops : ac.startBegin.loops = ac.loops := by
  unfold startBegin; split <;> rfl

@[simp] theorem startBegin_ctxDone : ac.startBegin.ctxDone = ac.ctxDone := by
  unfold startBegin; split <;> rfl

@[simp] theorem startBegin_discussionsActive : ac.startBegin.discussionsActive = ac.discussionsActive := by
  unfold startBegin; split <;> rfl

@[simp] theorem startBegin_now : ac.startBegin.now = ac.now := by unfold startBegin; split <;> rfl

@[simp] theorem stopBegin_awake : ac.stopBegin.awake = ac.awake := by
  unfold stopBegin; split <;> rfl

@[simp] theorem stopBegin_loadManager : ac.stopBegin.loadManager = ac.loadManager := by
  unfold stopBegin; split <;> rfl

@[simp] theorem stopBegin_dreams : ac.stopBegin.dreams = ac.dreams := by
  unfold stopBegin; split <;> rfl

@[simp] theorem stopBegin_loops : ac.stopBegin.loops = ac.loops := by
  unfold stopBegin; split <;> rfl

@[simp] theorem stopBegin_ctxDone : ac.stopBegin.ctxDone = ac.ctxDone := by
  unfold stopBegin; split <;> rfl

@[simp] theorem stopBegin_discussionsActive : ac.stopBegin.discussionsActive = ac.discussionsActive := by
  unfold stopBegin; split <;> rfl

@[simp] theorem stopBegin_now : ac.stopBegin.now = ac.now := by unfold stopBegin; split <;> rfl

@[simp] theorem stopBegin_startTime : ac.stopBegin.startTime = ac.startTime := by
  unfold stopBegin; split <;> rfl

end AutonomousConsciousnessV4

/-! ## Steps -/

/-- What can happen next: the environment (time, discussions, practice), an exported call
(`Wake`, `Rest`), a step of a `Start` or `Stop` call, of a loop or of a dream goroutine. -/
inductive Event where
  | elapse (d : Nat)
  | setDiscussions (active : Bool)
  | setPracticing (active : Bool)
  | wake
  | rest
  | startBegin
  | startComponent (call : Nat) (err : Option String)
  | startLaunch (call : Nat)
  | startWake (call : Nat)
  | stopBegin
  | stopCancel (call : Nat)
  | loopExit (loop : Nat)
  | integrationTick (loop : Nat) (thought : Option Thought)
  | monitoringTick (loop : Nat)
  | triggerCheck (loop : Nat)
  | triggerRest (loop : Nat)
  | dreamEnter (dream : Nat)
  | dreamRecover (dream : Nat)
  | dreamWake (dream : Nat)

open AutonomousConsciousnessV4 in
/-- One atomic step. A loop may tick even after the context is cancelled, since `select` picks
among ready cases at random; it leaves only through `loopExit`. -/
def step (ac : AutonomousConsciousnessV4) : Event → Option AutonomousConsciousnessV4
  | .elapse d => some { ac with now := ac.now + d }
  | .setDiscussions b => some { ac with discussionsActive := b }
  | .setPracticing b => some { ac with practicing := b }
  | .wake => some ac.wake
  | .rest => some ac.rest
  | .startBegin => some ac.startBegin
  | .startComponent c err =>
    match ac.calls[c]? with
    | some (.start (.components k)) =>
      if h : k < components.length then
        let pc : StartPc := match err with
          | some e => .returned (some ("failed to start " ++ components[k] ++ ": " ++ e))
          | none => .components (k + 1)
        some { ac with calls := ac.calls.set c (.start pc) }
      else none
    | _ => none
  | .startLaunch c =>
    if ac.calls[c]? = some (.start (.components components.length)) then
      some { ac with loops := ac.loops ++ launchedLoops, calls := ac.calls.set c (.start .launched) }
    else none
  | .startWake c =>
    if ac.calls[c]? = some (.start .launched) then
      some { ac.wake with calls := ac.calls.set c (.start (.returned none)) }
    else none
  | .stopBegin => some ac.stopBegin
  | .stopCancel c =>
    if ac.calls[c]? = some (.stop .cancelling) then
      some { ac with ctxDone := true, calls := ac.calls.set c (.stop (.returned none)) }
    else none
  | .loopExit i =>
    if ac.ctxDone ∧ i < ac.loops.length then some { ac with loops := ac.loops.eraseIdx i }
    else none
  | .integrationTick i thought =>
    if ac.loops[i]? = some .consciousnessIntegration then
      some (ac.consciousnessIntegrationTick thought)
    else none
  | .monitoringTick i =>
    if ac.loops[i]? = some .cognitiveLoadMonitoring then some ac.cognitiveLoadMonitoringTick
    else none
  | .triggerCheck i =>
    if ac.loops[i]? = some (.automaticDreamTrigger false) then
      if !ac.dreamTrigger.enabled || !ac.awake then some ac
      else if ac.shouldInitiateRest then
        some { ac with loops := ac.loops.set i (.automaticDreamTrigger true) }
      else some ac
    else none
  | .triggerRest i =>
    if ac.loops[i]? = some (.automaticDreamTrigger true) then
      some { ac.rest with loops := ac.loops.set i (.automaticDreamTrigger false) }
    else none
  | .dreamEnter i =>
    match ac.dreams[i]? with
    | some ⟨d, .entering⟩ => some { ac with dreams := ac.dreams.set i ⟨d, .sleeping (ac.now + d)⟩ }
    | _ => none
  | .dreamRecover i =>
    match ac.dreams[i]? with
    | some ⟨d, .sleeping wakeAt⟩ =>
      if wakeAt ≤ ac.now then
        some { ac with
          loadManager := ac.loadManager.recover d
          dreams := ac.dreams.set i ⟨d, .recovered⟩ }
      else none
    | _ => none
  | .dreamWake i =>
    match ac.dreams[i]? with
    | some ⟨_, .recovered⟩ => some { ac with dreams := ac.dreams.eraseIdx i }.wake
    | _ => none

/-- A call of `Start`, the `c`-th call of the run, in which every component starts. -/
def startCall (c : Nat) : List Event :=
  .startBegin :: List.replicate components.length (.startComponent c none) ++
    [.startLaunch c, .startWake c]

/-- Every state reached from the constructor, by any interleaving. -/
def Reachable : AutonomousConsciousnessV4 → Prop :=
  Ecco9.Reachable step (fun _ _ => True) newAutonomousConsciousnessV4

end Ecco9.V4
