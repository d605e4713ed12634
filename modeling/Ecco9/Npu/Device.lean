import Ecco9.Npu.Hardware
import Ecco9.Run

/-! # The NPU device as a state machine

`NPUDevice` (src/core/ecco9/drivers/npu_driver.go). Each exported method holds `d.mu` from its
start to its end, so it is one step; `mu` records whether the lock is held, and a method that
takes a held lock never returns (`none`). That happens exactly when `IoCtl`, holding the lock,
calls `Reset`. The SRAM region always has `NPU_SRAM_SIZE` bytes: the constructor and `Reset`
allocate that many and `copy` keeps a slice's length, so the device carries the length as a field.
The clock `now` is moved by the environment.

The status register is written whole: `startInference` stores BUSY alone, dropping MODEL_READY,
and `SOFT_STOP`, `Initialize` and `Shutdown` store IDLE or 0 whatever the flags say. So each status
bit implies its flag, but not the other way round. -/

namespace Ecco9.Npu

/-! ## Data -/

/-- Modelled from the spec: `ecco9.DeviceStatus` is not in the source; these are the values the
driver uses. -/
inductive DeviceStatus where
  | offline
  | ready
  | error
  deriving DecidableEq

/-- Modelled from the spec: `ecco9.PowerState` is not in the source. -/
inductive PowerState where
  | off
  | active
  deriving DecidableEq

/-- Modelled from the spec: `ecco9.HealthStatus` is not in the source. -/
inductive HealthStatus where
  | healthy
  | failed
  deriving DecidableEq

/-- Modelled from the spec: `ecco9.DeviceState` is not in the source; these are the fields the
driver reads and writes. -/
structure DeviceState where
  id : String
  name : String
  status : DeviceStatus
  power : PowerState
  health : HealthStatus
  lastUpdate : Int
  uptime : Int
  deriving DecidableEq

/-- A Go byte slice: its length and its bytes; those at or past the length are never read. -/
structure ByteSlice where
  length : Nat
  get : Nat → UInt8

/-- `make([]byte, n)`. -/
def ByteSlice.make (n : Nat) : ByteSlice := ⟨n, fun _ => 0⟩

/-- `copy(s[off:], src)` for `off ≤ len(s)`: the bytes of `src` from `off` on, as many as fit.
Returns the slice and the count. -/
def ByteSlice.copyAt (s : ByteSlice) (off : Nat) (src : List UInt8) : ByteSlice × Nat :=
  let n := min src.length (s.length - off)
  (⟨s.length, fun i => if off ≤ i ∧ i < off + n then src.getD (i - off) 0 else s.get i⟩, n)

/-- `%x`: lower-case hexadecimal. -/
def hexString (n : Nat) : String := String.mk (Nat.toDigits 16 n)

/-- What `IoCtl` finds behind its `interface{}` argument. -/
inductive IoCtlArg where
  | modelConfig (config : NPUModelConfig)
  | sequenceConfig (config : NPUSequenceConfig)
  | other

/-- `NPUDevice`, with the fields its methods use. -/
structure NPUDevice where
  id : String
  name : String
  state : DeviceState
  registers : NPURegisters
  /-- `sramRegion.Data`. -/
  sram : ByteSlice
  sram_length : sram.length = npuSramSize.toNat
  modelConfig : NPUModelConfig
  sequenceConfig : NPUSequenceConfig
  telemetry : NPUTelemetry
  currentModel : String
  initialized : Bool
  modelLoaded : Bool
  inferenceActive : Bool
  /-- `d.mu` is held. -/
  mu : Bool
  now : Int

/-- `NewNPUDevice`; the clock reads 0 at construction. -/
def newNPUDevice (id : String) : NPUDevice where
  id := id
  name := "NPU-" ++ id
  state := ⟨id, "NPU-" ++ id, .offline, .off, .healthy, 0, 0⟩
  registers := newNPURegisters
  sram := ByteSlice.make npuSramSize.toNat
  sram_length := rfl
  modelConfig := defaultNPUModelConfig
  sequenceConfig := defaultNPUSequenceConfig
  telemetry := newNPUTelemetry
  currentModel := ""
  initialized := false
  modelLoaded := false
  inferenceActive := false
  mu := false
  now := 0

/-! ## Methods -/

namespace NPUDevice

variable (d : NPUDevice)

/-- `d.mu.Lock()` and `defer d.mu.Unlock()`: the body runs on the locked device. A held lock is
waited on forever (`none`), and so is a body that never returns. -/
def locked {α : Type} (body : NPUDevice → Option (α × NPUDevice)) : Option (α × NPUDevice) :=
  if d.mu then none else (body { d with mu := true }).map fun r => (r.1, { r.2 with mu := false })

/-- `d.mu.RLock()` and `defer d.mu.RUnlock()`: waits forever while the lock is held. -/
def readLocked {α : Type} (body : NPUDevice → α × NPUDevice) : Option (α × NPUDevice) :=
  if d.mu then none else some (body d)

/-- `performSelfTest`, with its error text. -/
def performSelfTest : Option String × NPUDevice :=
  let testVal : UInt32 := 0xDEADBEEF
  let d := { d with registers := d.registers.writeReg32 npuRegModelId testVal }
  if d.registers.readReg32 npuRegModelId ≠ testVal then (some "register test failed", d)
  else
    let testData := "NPU-SELF-TEST".toUTF8.data.toList
    let d := { d with sram := (d.sram.copyAt 0 testData).1, sram_length := d.sram_length }
    if (List.range testData.length).any fun i => d.sram.get i != testData.getD i 0 then
      (some "SRAM test failed", d)
    else (none, d)

/-- `Initialize`, which Lean's keyword keeps from its own name. -/
def initializeDevice : Option (Except String Unit × NPUDevice) :=
  d.locked fun d => some <|
    if d.initialized then (.error ("NPU device " ++ d.id ++ " already initialized"), d)
    else
      match d.performSelfTest with
      | (some err, d) =>
        (.error ("NPU self-test failed: " ++ err),
          { d with
            state := { d.state with status := .error, health := .failed }
            registers := (d.registers.writeReg32 npuRegErrorCode npuErrInvalidCmd).writeReg32
              npuRegStatus npuStatusError })
      | (none, d) =>
        (.ok (),
          { d with
            registers := (d.registers.writeReg32 npuRegStatus npuStatusIdle).writeReg32
              npuRegErrorCode npuErrNone
            state := { d.state with status := .ready, power := .active, lastUpdate := d.now }
            initialized := true })

/-- `Shutdown`. -/
def shutdown : Option (Except String Unit × NPUDevice) :=
  d.locked fun d => some <|
    if !d.initialized then (.ok (), d)
    else
      let d := if d.inferenceActive then
          { d with registers := d.registers.writeReg32 npuRegCmd npuCmdSoftStop, inferenceActive := false }
        else d
      (.ok (),
        { d with
          state := { d.state with status := .offline, power := .off, lastUpdate := d.now }
          initialized := false
          registers := d.registers.writeReg32 npuRegStatus 0 })

/-- `Reset`. -/
def reset : Option (Except String Unit × NPUDevice) :=
  d.locked fun d =>
    let d := { d with registers := d.registers.writeReg32 npuRegCmd npuCmdReset }
    some (.ok (),
      { d with
        registers := newNPURegisters
        telemetry := newNPUTelemetry
        inferenceActive := false
        modelLoaded := false
        sram := ByteSlice.make npuSramSize.toNat
        sram_length := rfl
        state := { d.state with status := .ready, lastUpdate := d.now } })

/-- `GetState`: it writes the uptime, under the read lock. -/
def getState : Option (Except String DeviceState × NPUDevice) :=
  d.readLocked fun d =>
    let d := if d.initialized then
        { d with state := { d.state with uptime := d.now - d.state.lastUpdate } }
      else d
    (.ok d.state, d)

/-- `SetState`. -/
def setState (state : DeviceState) : Option (Except String Unit × NPUDevice) :=
  d.locked fun d => some (.ok (), { d with state := { state with lastUpdate := d.now } })

/-- `Read` into a buffer of `bufferLength` bytes: the count and the bytes copied. It clears
TOKEN_READY under the read lock. -/
def read (bufferLength : Nat) : Option (Except String (Nat × List UInt8) × NPUDevice) :=
  d.readLocked fun d =>
    if d.registers.tokenReady > 0 then
      let formatted := (toString d.registers.tokenOut.toInt ++ "\n").toUTF8.data.toList
      let n := min bufferLength formatted.length
      (.ok (n, formatted.take n), { d with registers := { d.registers with tokenReady := 0 } })
    else (.ok (0, []), d)

/-- `Write`: the prompt goes to SRAM at PROMPT_ADDR, cut to what fits. -/
def write (buffer : List UInt8) : Option (Except String Nat × NPUDevice) :=
  d.locked fun d => some <|
    let promptAddr := d.registers.promptAddr
    if promptAddr ≥ npuSramBase ∧ promptAddr < npuSramBase + npuSramSize then
      let offset := promptAddr - npuSramBase
      let maxLen := npuSramSize - offset
      let buffer := if buffer.length > maxLen.toNat then buffer.take maxLen.toNat else buffer
      (.ok buffer.length,
        { d with
          sram := (d.sram.copyAt offset.toNat buffer).1
          sram_length := d.sram_length
          registers := d.registers.writeReg32 npuRegPromptLen (UInt32.ofNat buffer.length) })
    else (.error ("invalid prompt address: 0x" ++ hexString promptAddr.toNat), d)

/-- `loadModel`. -/
def loadModel (config : NPUModelConfig) : NPUDevice :=
  { d with
    modelConfig := config
    modelLoaded := true
    currentModel := config.modelName
    registers := (d.registers.writeReg32 npuRegStatus (npuStatusIdle ||| npuStatusModelReady)).writeReg32
      npuRegModelId 1 }

/-- `startInference`. -/
def startInference (config : NPUSequenceConfig) : Except String Unit × NPUDevice :=
  if !d.modelLoaded then
    (.error "no model loaded",
      { d with registers := d.registers.writeReg32 npuRegErrorCode npuErrModelLoad })
  else
    let registers := (d.registers.writeReg32 npuRegStatus npuStatusBusy).writeReg32
      npuRegNPredict ⟨config.nPredict⟩
    (.ok (),
      { d with
        registers := registers
        inferenceActive := true
        telemetry := d.telemetry.updatePrompt registers.promptLen.toUInt64 d.now
        sequenceConfig := config })

/-- `IoCtl`. It holds the lock while it calls `Reset`, which takes it again. -/
def ioCtl (command : UInt32) (arg : IoCtlArg) : Option (Except String Unit × NPUDevice) :=
  d.locked fun d =>
    if command = npuCmdReset then d.reset
    else if command = npuCmdLoadModel then
      match arg with
      | .modelConfig config => some (.ok (), d.loadModel config)
      | _ => some (.error "invalid model config", d)
    else if command = npuCmdStartInf then
      match arg with
      | .sequenceConfig config => some (d.startInference config)
      | _ => some (.error "invalid sequence config", d)
    else if command = npuCmdSoftStop then
      some (.ok (),
        { d with
          inferenceActive := false
          registers := d.registers.writeReg32 npuRegStatus npuStatusIdle })
    else
      some (.error ("invalid command: 0x" ++ hexString command.toNat),
        { d with registers := d.registers.writeReg32 npuRegErrorCode npuErrInvalidCmd })

end NPUDevice

/-! ## Steps -/

/-- A call of an exported method, or time passing. -/
inductive Op where
  | elapse (d : Nat)
  | initializeDevice
  | shutdown
  | reset
  | getState
  | setState (state : DeviceState)
  | read (bufferLength : Nat)
  | write (buffer : List UInt8)
  | ioCtl (command : UInt32) (arg : IoCtlArg)

open NPUDevice in
/-- One call, to its return; `none` when it never returns. Calls are made one after another: a
call that blocks forever holding `d.mu` (`IoCtl` RESET) leaves no next state. -/
def step (d : NPUDevice) : Op → Option NPUDevice
  | .elapse t => some { d with now := d.now + t }
  | .initializeDevice => d.initializeDevice.map (·.2)
  | .shutdown => d.shutdown.map (·.2)
  | .reset => d.reset.map (·.2)
  | .getState => d.getState.map (·.2)
  | .setState s => (d.setState s).map (·.2)
  | .read n => (d.read n).map (·.2)
  | .write b => (d.write b).map (·.2)
  | .ioCtl c a => (d.ioCtl c a).map (·.2)

/-- Every state reached from `NewNPUDevice(id)` by any sequence of calls. -/
def Reachable (id : String) : NPUDevice → Prop :=
  Ecco9.Reachable step (fun _ _ => True) (newNPUDevice id)

/-! ## The status register

A call either leaves the status word and both flags as they were, or writes a word with neither
bit (0, IDLE, ERROR), or loads a model and writes IDLE|MODEL_READY, or starts an inference and
writes BUSY alone. -/

/-- The status word with the two flags it reports on. -/
def NPUDevice.statusView (d : NPUDevice) : UInt32 × Bool × Bool :=
  (d.registers.status, d.inferenceActive, d.modelLoaded)

/-- What one call can do to the status word and the two flags. -/
inductive StatusWrite : UInt32 × Bool × Bool → UInt32 × Bool × Bool → Prop
  | keep {v} : StatusWrite v v
  | clear {v s a m} : s = 0 ∨ s = npuStatusIdle ∨ s = npuStatusError → StatusWrite v (s, a, m)
  | loadModel {v a} : StatusWrite v (npuStatusIdle ||| npuStatusModelReady, a, true)
  | startInference {v m} : StatusWrite v (npuStatusBusy, true, m)

namespace NPUDevice

variable {d d' : NPUDevice}

theorem locked_some {α : Type} {body : NPUDevice → Option (α × NPUDevice)} {r : α}
    (h : d.locked body = some (r, d')) :
    ∃ d₁, body { d with mu := true } = some (r, d₁) ∧ d'.statusView = d₁.statusView := by
  unfold locked at h
  split at h
  · cases h
  · obtain ⟨⟨r₁, d₁⟩, h₁, h⟩ := Option.map_eq_some'.mp h
    cases h
    exact ⟨d₁, h₁, rfl⟩

theorem initializeDevice_status {r} (h : d.initializeDevice = some (r, d')) :
    StatusWrite d.statusView d'.statusView := by
  obtain ⟨d₁, h₁, hv⟩ := locked_some h
  rw [hv]
  simp only [Option.some.injEq] at h₁
  split at h₁
  · cases h₁; exact .keep
  · split at h₁ <;> cases h₁ <;> exact .clear (by simp [statusView])

theorem readLocked_some {α : Type} {body : NPUDevice → α × NPUDevice} {r : α}
    (h : d.readLocked body = some (r, d')) : body d = (r, d') := by
  unfold readLocked at h
  split at h
  · cases h
  · exact Option.some.inj h

theorem shutdown_status {r} (h : d.shutdown = some (r, d')) :
    StatusWrite d.statusView d'.statusView := by
  obtain ⟨d₁, h₁, hv⟩ := locked_some h
  rw [hv]
  simp only [Option.some.injEq] at h₁
  split at h₁
  · cases h₁; exact .keep
  · cases h₁; exact .clear (by simp [statusView])

theorem reset_status {r} (h : d.reset = some (r, d')) :
    StatusWrite d.statusView d'.statusView := by
  obtain ⟨d₁, h₁, hv⟩ := locked_some h
  rw [hv]
  cases h₁
  exact .clear (by simp [statusView, newNPURegisters])

theorem getState_status {r} (h : d.getState = some (r, d')) :
    StatusWrite d.statusView d'.statusView := by
  have h₁ := readLocked_some h
  dsimp only at h₁
  split at h₁ <;> cases h₁ <;> exact .keep

theorem setState_status {r} {s : DeviceState} (h : d.setState s = some (r, d')) :
    StatusWrite d.statusView d'.statusView := by
  obtain ⟨d₁, h₁, hv⟩ := locked_some h
  rw [hv]
  cases h₁
  exact .keep

theorem read_status {r} {n : Nat} (h : d.read n = some (r, d')) :
    StatusWrite d.statusView d'.statusView := by
  have h₁ := readLocked_some h
  dsimp only at h₁
  split at h₁ <;> cases h₁ <;> exact .keep

theorem write_status {r} {b : List UInt8} (h : d.write b = some (r, d')) :
    StatusWrite d.statusView d'.statusView := by
  obtain ⟨d₁, h₁, hv⟩ := locked_some h
  rw [hv]
  simp only [Option.some.injEq] at h₁
  split at h₁ <;> cases h₁
  · rw [show statusView _ = d.statusView by simp [statusView]]; exact .keep
  · exact .keep

theorem startInference_status (c : NPUSequenceConfig) :
    StatusWrite d.statusView (d.startInference c).2.statusView := by
  unfold startInference
  split
  · rw [show statusView _ = d.statusView by simp [statusView]]; exact .keep
  · exact .startInference

/-- Everything a returning `IoCtl` can do. The lock was free; `RESET` never returns (it takes
the held lock again); each other command acts on the locked device, which is then unlocked. -/
theorem ioCtl_cases {r : Except String Unit} {c : UInt32} {a : IoCtlArg}
    (h : d.ioCtl c a = some (r, d')) :
    ∃ d₂, d.mu = false ∧ d' = { d₂ with mu := false } ∧
      ((∃ config, r = .ok () ∧ d₂ = ({ d with mu := true } : NPUDevice).loadModel config) ∨
       (∃ config, (r, d₂) = ({ d with mu := true } : NPUDevice).startInference config) ∨
       (r = .ok () ∧ d₂ = { d with
          mu := true
          inferenceActive := false
          registers := d.registers.writeReg32 npuRegStatus npuStatusIdle }) ∨
       ∃ e, r = .error e ∧ (d₂ = { d with mu := true } ∨ d₂ = { d with
          mu := true
          registers := d.registers.writeReg32 npuRegErrorCode npuErrInvalidCmd })) := by
  unfold ioCtl locked at h
  split at h
  · cases h
  obtain ⟨⟨r₁, d₂⟩, h₁, h₂⟩ := Option.map_eq_some'.mp h
  cases h₂
  refine ⟨d₂, by simpa using ‹¬d.mu = true›, rfl, ?_⟩
  split at h₁
  · simp [reset, locked] at h₁
  split at h₁
  · split at h₁ <;> cases h₁
    · exact .inl ⟨_, rfl, rfl⟩
    · exact .inr (.inr (.inr ⟨_, rfl, .inl rfl⟩))
  split at h₁
  · split at h₁
    · exact .inr (.inl ⟨_, (Option.some.inj h₁).symm⟩)
    · cases h₁
      exact .inr (.inr (.inr ⟨_, rfl, .inl rfl⟩))
  split at h₁ <;> cases h₁
  · exact .inr (.inr (.inl ⟨rfl, rfl⟩))
  · exact .inr (.inr (.inr ⟨_, rfl, .inr rfl⟩))

theorem ioCtl_status {r} {c : UInt32} {a : IoCtlArg} (h : d.ioCtl c a = some (r, d')) :
    StatusWrite d.statusView d'.statusView := by
  obtain ⟨d₂, -, rfl, hc⟩ := ioCtl_cases h
  rcases hc with ⟨_, -, rfl⟩ | ⟨_, hs⟩ | ⟨-, rfl⟩ | ⟨_, -, rfl | rfl⟩
  · exact .loadModel
  · obtain rfl : d₂ = _ := congrArg Prod.snd hs
    exact @startInference_status { d with mu := true } _
  · exact .clear (by simp [statusView])
  · exact .keep
  · simpa only [statusView, NPURegisters.writeReg32_errorCode_status] using
      StatusWrite.keep (v := d.statusView)

end NPUDevice

open NPUDevice in
theorem step_statusWrite {d d' : NPUDevice} {op : Op} (h : step d op = some d') :
    StatusWrite d.statusView d'.statusView := by
  cases op <;> simp only [step, Option.map_eq_some', Prod.exists, exists_and_right,
    exists_eq_right, Option.some.injEq] at h
  case elapse => cases h; exact .keep
  all_goals obtain ⟨r, h⟩ := h
  exacts [initializeDevice_status h, shutdown_status h, reset_status h, getState_status h,
    setState_status h, read_status h, write_status h, ioCtl_status h]

/-- Each of BUSY and MODEL_READY, when set, has its flag set. -/
structure StatusBitsSound (v : UInt32 × Bool × Bool) : Prop where
  busy : v.1 &&& npuStatusBusy ≠ 0 → v.2.1 = true
  modelReady : v.1 &&& npuStatusModelReady ≠ 0 → v.2.2 = true

theorem StatusBitsSound.of_clear {s : UInt32} (hb : s &&& npuStatusBusy = 0)
    (hm : s &&& npuStatusModelReady = 0) (a m : Bool) : StatusBitsSound (s, a, m) :=
  ⟨fun h => (h hb).elim, fun h => (h hm).elim⟩

theorem StatusWrite.sound {v v' : UInt32 × Bool × Bool} (hw : StatusWrite v v')
    (h : StatusBitsSound v) : StatusBitsSound v' := by
  cases hw with
  | keep => exact h
  | clear hs => rcases hs with rfl | rfl | rfl <;> exact .of_clear (by decide) (by decide) _ _
  | loadModel =>
    exact ⟨fun h => (h (by decide : (npuStatusIdle ||| npuStatusModelReady) &&& npuStatusBusy = 0)).elim,
      fun _ => rfl⟩
  | startInference =>
    exact ⟨fun _ => rfl, fun h => (h (by decide : npuStatusBusy &&& npuStatusModelReady = 0)).elim⟩

/-- In every reachable state BUSY is set only during an inference and MODEL_READY only with a
model loaded. -/
theorem statusBitsSound_reachable {id : String} {d : NPUDevice} (h : Reachable id d) :
    StatusBitsSound d.statusView :=
  h.inv (fun d => StatusBitsSound d.statusView)
    (show StatusBitsSound (npuStatusIdle, false, false) from .of_clear (by decide) (by decide) _ _)
    fun _ _ _ _ hs hst => (step_statusWrite hst).sound hs

theorem statusBitsSound_after_load_and_start :
    ∃ d, exec step (newNPUDevice "npu0")
        [.ioCtl npuCmdLoadModel (.modelConfig defaultNPUModelConfig),
          .ioCtl npuCmdStartInf (.sequenceConfig defaultNPUSequenceConfig)] = some d ∧
      Reachable "npu0" d ∧ StatusBitsSound d.statusView := by
  obtain ⟨d, hd⟩ : ∃ d, exec step (newNPUDevice "npu0")
      [.ioCtl npuCmdLoadModel (.modelConfig defaultNPUModelConfig),
        .ioCtl npuCmdStartInf (.sequenceConfig defaultNPUSequenceConfig)] = some d := ⟨_, rfl⟩
  exact ⟨d, hd, reachable_of_exec hd, statusBitsSound_reachable (reachable_of_exec hd)⟩

/-- Load a model, then start an inference. -/
def loadThenInferCalls : List Op :=
  [.ioCtl npuCmdLoadModel (.modelConfig defaultNPUModelConfig),
    .ioCtl npuCmdStartInf (.sequenceConfig defaultNPUSequenceConfig)]

/-- After a model is loaded and an inference started, STATUS holds BUSY alone: MODEL_READY is
clear while a model is loaded. -/
theorem inference_clears_model_ready :
    ∃ d, exec step (newNPUDevice "0") loadThenInferCalls = some d ∧
      d.registers.status = npuStatusBusy ∧ d.modelLoaded = true ∧ d.inferenceActive = true ∧
      d.registers.status &&& npuStatusModelReady = 0 :=
  ⟨_, rfl, rfl, rfl, rfl, rfl⟩

end Ecco9.Npu
