import Ecco9.Npu.Calls

/-! # Code paths no run reaches

Several branches of the device's methods are dead in every state its own calls reach.

## The data path

`Write` copies a prompt to the SRAM at PROMPT_ADDR, and `Read` formats the token in TOKEN_OUT
when TOKEN_READY is set. No method of the device sets either register: PROMPT_ADDR is written
only by `WriteReg64`, which no method calls, every `WriteReg32` a method makes names another
register, and `NewNPURegisters` (also used by `Reset`) starts both at 0. So through the device's
own calls PROMPT_ADDR stays 0, below the SRAM window, and TOKEN_READY stays 0: every `Write`
fails and every `Read` returns no bytes. PROMPT_LEN, which only a successful `Write` sets, stays
0 as well, and the device never calls `UpdateTokenGeneration`: the telemetry counts prompts of
length 0 and nothing else.

## The self-test

`performSelfTest` writes a value to MODEL_ID and a string to SRAM and reads both back; the
register file and the SRAM hold what is written, so the test always passes and `Initialize`
never takes its failure branch. -/

namespace Ecco9.Npu

namespace NPURegisters

variable (r : NPURegisters)

@[simp] theorem writeReg32_promptAddr (a : UInt64) (v : UInt32) :
    (r.writeReg32 a v).promptAddr = r.promptAddr := by
  rw [writeReg32_eq]
  cases Reg32.ofAddr a <;> simp

theorem writeReg32_promptLen_of_ne {a : UInt64} (h : a ≠ npuRegPromptLen) (v : UInt32) :
    (r.writeReg32 a v).promptLen = r.promptLen := by
  simp only [writeReg32, apply_ite NPURegisters.promptLen, h, if_false, ite_self]

theorem writeReg32_tokenReady_of_ne {a : UInt64} (h : a ≠ npuRegTokenReady) (v : UInt32) :
    (r.writeReg32 a v).tokenReady = r.tokenReady := by
  simp only [writeReg32, apply_ite NPURegisters.tokenReady, h, if_false, ite_self]

end NPURegisters

/-- PROMPT_ADDR, PROMPT_LEN and TOKEN_READY, the registers of the data path, all hold 0. -/
structure RegistersIdle (r : NPURegisters) : Prop where
  promptAddr_zero : r.promptAddr = 0
  promptLen_zero : r.promptLen = 0
  tokenReady_zero : r.tokenReady = 0

namespace RegistersIdle

theorem newNPURegisters : RegistersIdle newNPURegisters := ⟨rfl, rfl, rfl⟩

/-- A 32-bit write to any register but PROMPT_LEN and TOKEN_READY keeps them idle. -/
theorem writeReg32 {r : NPURegisters} (h : RegistersIdle r) {a : UInt64}
    (hl : a ≠ npuRegPromptLen) (ht : a ≠ npuRegTokenReady) (v : UInt32) :
    RegistersIdle (r.writeReg32 a v) where
  promptAddr_zero := by rw [NPURegisters.writeReg32_promptAddr, h.promptAddr_zero]
  promptLen_zero := by rw [NPURegisters.writeReg32_promptLen_of_ne r hl, h.promptLen_zero]
  tokenReady_zero := by rw [NPURegisters.writeReg32_tokenReady_of_ne r ht, h.tokenReady_zero]

end RegistersIdle

/-- The telemetry has counted prompts and nothing else: every field but `TotalPrompts` and
`LastInferenceStart` holds the 0 `NewNPUTelemetry` put there. -/
def TelemetryCountsPrompts (t : NPUTelemetry) : Prop :=
  t = { newNPUTelemetry with totalPrompts := t.totalPrompts, lastInferenceStart := t.lastInferenceStart }

/-- `UpdatePrompt` of an empty prompt counts it and nothing else. -/
theorem TelemetryCountsPrompts.updatePrompt {t : NPUTelemetry} (h : TelemetryCountsPrompts t)
    (now : Int) : TelemetryCountsPrompts (t.updatePrompt 0 now) := by
  unfold TelemetryCountsPrompts at h ⊢
  rw [h]
  rfl

/-- The data path is idle: its registers hold 0 and the telemetry has counted prompts only. -/
structure DataPathIdle (d : NPUDevice) : Prop where
  registers : RegistersIdle d.registers
  telemetry : TelemetryCountsPrompts d.telemetry

/-! ## Each call keeps the data path idle -/

namespace NPUDevice

variable {d d' : NPUDevice}

theorem initializeDevice_dataPathIdle {r} (h : d.initializeDevice = some (r, d'))
    (hi : DataPathIdle d) : DataPathIdle d' := by
  obtain ⟨d₁, h₁, rfl⟩ := locked_eq_some h
  simp only [Option.some.injEq, performSelfTest_eq] at h₁
  split at h₁
  · cases h₁; exact ⟨hi.registers, hi.telemetry⟩
  · cases h₁
    refine ⟨?_, hi.telemetry⟩
    dsimp only
    exact ((hi.registers.writeReg32 (by decide) (by decide) _).writeReg32 (by decide) (by decide)
      _).writeReg32 (by decide) (by decide) _

theorem shutdown_dataPathIdle {r} (h : d.shutdown = some (r, d')) (hi : DataPathIdle d) :
    DataPathIdle d' := by
  obtain ⟨d₁, h₁, rfl⟩ := locked_eq_some h
  simp only [Option.some.injEq] at h₁
  split at h₁ <;> cases h₁
  · exact ⟨hi.registers, hi.telemetry⟩
  · dsimp only
    split_ifs
    · refine ⟨?_, hi.telemetry⟩
      dsimp only
      exact (hi.registers.writeReg32 (by decide) (by decide) _).writeReg32 (by decide)
        (by decide) _
    · refine ⟨?_, hi.telemetry⟩
      dsimp only
      exact hi.registers.writeReg32 (by decide) (by decide) _

theorem reset_dataPathIdle {r} (h : d.reset = some (r, d')) : DataPathIdle d' := by
  obtain ⟨d₁, h₁, rfl⟩ := locked_eq_some h
  cases h₁
  exact ⟨.newNPURegisters, rfl⟩

theorem getState_dataPathIdle {r} (h : d.getState = some (r, d')) (hi : DataPathIdle d) :
    DataPathIdle d' := by
  have h₁ := readLocked_some h
  dsimp only at h₁
  split at h₁ <;> cases h₁ <;> exact ⟨hi.registers, hi.telemetry⟩

theorem setState_dataPathIdle {r} {s : DeviceState} (h : d.setState s = some (r, d'))
    (hi : DataPathIdle d) : DataPathIdle d' := by
  obtain ⟨d₁, h₁, rfl⟩ := locked_eq_some h
  cases h₁
  exact ⟨hi.registers, hi.telemetry⟩

theorem read_dataPathIdle {r} {n : Nat} (h : d.read n = some (r, d')) (hi : DataPathIdle d) :
    DataPathIdle d' := by
  have h₁ := readLocked_some h
  dsimp only at h₁
  split at h₁ <;> cases h₁
  · exact ⟨⟨hi.registers.promptAddr_zero, hi.registers.promptLen_zero, rfl⟩, hi.telemetry⟩
  · exact ⟨hi.registers, hi.telemetry⟩

/-- With PROMPT_ADDR at 0, below the SRAM window, `Write` takes only its error branch. -/
theorem write_dataPathIdle {r} {b : List UInt8} (h : d.write b = some (r, d'))
    (hi : DataPathIdle d) : DataPathIdle d' := by
  obtain ⟨d₁, h₁, rfl⟩ := locked_eq_some h
  simp only [Option.some.injEq] at h₁
  split at h₁ <;> cases h₁
  · rename_i hw
    rw [hi.registers.promptAddr_zero] at hw
    exact absurd hw.1 (by decide)
  · exact ⟨hi.registers, hi.telemetry⟩

theorem startInference_dataPathIdle (c : NPUSequenceConfig) (hi : DataPathIdle d) :
    DataPathIdle (d.startInference c).2 := by
  unfold startInference
  split
  · refine ⟨?_, hi.telemetry⟩
    dsimp only
    exact hi.registers.writeReg32 (by decide) (by decide) _
  · have hr : RegistersIdle ((d.registers.writeReg32 npuRegStatus npuStatusBusy).writeReg32
        npuRegNPredict ⟨c.nPredict⟩) :=
      (hi.registers.writeReg32 (by decide) (by decide) _).writeReg32 (by decide) (by decide) _
    refine ⟨hr, ?_⟩
    dsimp only
    rw [hr.promptLen_zero]
    exact hi.telemetry.updatePrompt d.now

theorem ioCtl_dataPathIdle {r} {c : UInt32} {a : IoCtlArg} (h : d.ioCtl c a = some (r, d'))
    (hi : DataPathIdle d) : DataPathIdle d' := by
  obtain ⟨d₂, -, rfl, hc⟩ := ioCtl_cases h
  rcases hc with ⟨_, -, rfl⟩ | ⟨config, hs⟩ | ⟨-, rfl⟩ | ⟨_, -, rfl | rfl⟩
  · refine ⟨?_, hi.telemetry⟩
    dsimp only [loadModel]
    exact (hi.registers.writeReg32 (by decide) (by decide) _).writeReg32 (by decide)
      (by decide) _
  · obtain rfl : d₂ = _ := congrArg Prod.snd hs
    have hs := startInference_dataPathIdle (d := { d with mu := true }) config
      ⟨hi.registers, hi.telemetry⟩
    exact ⟨hs.registers, hs.telemetry⟩
  · refine ⟨?_, hi.telemetry⟩
    dsimp only
    exact hi.registers.writeReg32 (by decide) (by decide) _
  · exact ⟨hi.registers, hi.telemetry⟩
  · refine ⟨?_, hi.telemetry⟩
    dsimp only
    exact hi.registers.writeReg32 (by decide) (by decide) _

end NPUDevice

open NPUDevice in
theorem step_dataPathIdle {d d' : NPUDevice} {op : Op} (h : step d op = some d')
    (hi : DataPathIdle d) : DataPathIdle d' := by
  cases op <;> simp only [step, Option.map_eq_some', Prod.exists, exists_and_right,
    exists_eq_right, Option.some.injEq] at h
  case elapse => cases h; exact ⟨hi.registers, hi.telemetry⟩
  all_goals obtain ⟨r, h⟩ := h
  case reset => exact reset_dataPathIdle h
  exacts [initializeDevice_dataPathIdle h hi, shutdown_dataPathIdle h hi,
    getState_dataPathIdle h hi, setState_dataPathIdle h hi, read_dataPathIdle h hi,
    write_dataPathIdle h hi, ioCtl_dataPathIdle h hi]

theorem dataPathIdle_reachable {id : String} {d : NPUDevice} (h : Reachable id d) :
    DataPathIdle d :=
  h.inv (fun d => DataPathIdle d) (show DataPathIdle (newNPUDevice id) from ⟨.newNPURegisters, rfl⟩)
    fun _ _ _ _ hi hst => step_dataPathIdle hst hi

/-! ## `Write` and `Read` on a reachable device -/

/-- Through the device's own calls PROMPT_ADDR and TOKEN_READY stay 0. So in every reachable
state `Write` fails with "invalid prompt address: 0x0" and changes nothing, whatever the buffer,
and `Read` returns no bytes and no error and changes nothing, whatever the buffer's size. -/
theorem write_fails_read_empty_reachable {id : String} {d : NPUDevice} (h : Reachable id d) :
    d.registers.promptAddr = 0 ∧ d.registers.tokenReady = 0 ∧
      (∀ buffer, d.write buffer = some (.error "invalid prompt address: 0x0", d)) ∧
      ∀ n, d.read n = some (.ok (0, []), d) := by
  have hi := dataPathIdle_reachable h
  have hmu := mu_reachable h
  have ha := hi.registers.promptAddr_zero
  refine ⟨ha, hi.registers.tokenReady_zero, fun buffer => ?_, fun n => ?_⟩
  · rw [NPUDevice.write_outside hmu (by rw [ha]; decide), ha]
    rfl
  · simp [NPUDevice.read, NPUDevice.readLocked, hmu, hi.registers.tokenReady_zero]

theorem write_fails_read_empty_after_load_and_start :
    ∃ d, exec step (newNPUDevice "npu0") loadThenInferCalls = some d ∧ Reachable "npu0" d ∧
      d.registers.promptAddr = 0 ∧ d.registers.tokenReady = 0 ∧
      (∀ buffer, d.write buffer = some (.error "invalid prompt address: 0x0", d)) ∧
      ∀ n, d.read n = some (.ok (0, []), d) := by
  obtain ⟨d, hd⟩ : ∃ d, exec step (newNPUDevice "npu0") loadThenInferCalls = some d := ⟨_, rfl⟩
  exact ⟨d, hd, reachable_of_exec hd, write_fails_read_empty_reachable (reachable_of_exec hd)⟩

/-! ## The telemetry on a reachable device -/

/-- The device never calls `UpdateTokenGeneration`, and the prompt length `UpdatePrompt` records
is PROMPT_LEN, which only a successful `Write` sets. So in every reachable state the telemetry has
counted prompts and nothing else: every field but `TotalPrompts` and `LastInferenceStart` holds
the 0 of `NewNPUTelemetry`, the token counts, rates, average and peak included. -/
theorem telemetry_counts_only_prompts_reachable {id : String} {d : NPUDevice}
    (h : Reachable id d) :
    d.telemetry = { newNPUTelemetry with
      totalPrompts := d.telemetry.totalPrompts
      lastInferenceStart := d.telemetry.lastInferenceStart } :=
  (dataPathIdle_reachable h).telemetry

theorem telemetry_counts_only_prompts_after_load_and_start :
    ∃ d, exec step (newNPUDevice "npu0") loadThenInferCalls = some d ∧ Reachable "npu0" d ∧
      d.telemetry = { newNPUTelemetry with
        totalPrompts := d.telemetry.totalPrompts
        lastInferenceStart := d.telemetry.lastInferenceStart } := by
  obtain ⟨d, hd⟩ : ∃ d, exec step (newNPUDevice "npu0") loadThenInferCalls = some d := ⟨_, rfl⟩
  exact ⟨d, hd, reachable_of_exec hd,
    telemetry_counts_only_prompts_reachable (reachable_of_exec hd)⟩

/-! ## `Initialize` on a reachable device -/

/-- The self-test never fails, so on a reachable device `Initialize` fails only when the device
is already initialized, and then changes nothing. Otherwise it returns nil with the device
initialized, ready and active since now, STATUS idle, no error code, and the self-test's value
0xDEADBEEF left in MODEL_ID. -/
theorem initializeDevice_reachable {id : String} {d : NPUDevice} (h : Reachable id d) :
    (d.initialized = true →
      d.initializeDevice = some (.error ("NPU device " ++ d.id ++ " already initialized"), d)) ∧
    (d.initialized = false → ∃ d', d.initializeDevice = some (.ok (), d') ∧
      d'.initialized = true ∧ d'.state.status = .ready ∧ d'.state.power = .active ∧
      d'.state.lastUpdate = d.now ∧ d'.registers.status = npuStatusIdle ∧
      d'.registers.errorCode = npuErrNone ∧ d'.registers.modelId = 0xDEADBEEF) := by
  have hmu := mu_reachable h
  refine ⟨fun hi => ?_, fun hi => ?_⟩
  · simp only [NPUDevice.initializeDevice, NPUDevice.locked_of_free hmu, hi, if_true,
      Option.map_some']
    cases d; cases hi; cases hmu; rfl
  · simp only [NPUDevice.initializeDevice, NPUDevice.locked_of_free hmu,
      NPUDevice.performSelfTest_eq, hi]
    refine ⟨_, rfl, rfl, rfl, rfl, rfl, by simp, by simp [NPUDevice.writeReg32_errorCode], ?_⟩
    simp only [NPUDevice.writeReg32_errorCode]
    rfl

theorem initializeDevice_after_load_and_start :
    ∃ d, exec step (newNPUDevice "npu0") loadThenInferCalls = some d ∧ Reachable "npu0" d ∧
      (d.initialized = true →
        d.initializeDevice = some (.error ("NPU device " ++ d.id ++ " already initialized"), d)) ∧
      (d.initialized = false → ∃ d', d.initializeDevice = some (.ok (), d') ∧
        d'.initialized = true ∧ d'.state.status = .ready ∧ d'.state.power = .active ∧
        d'.state.lastUpdate = d.now ∧ d'.registers.status = npuStatusIdle ∧
        d'.registers.errorCode = npuErrNone ∧ d'.registers.modelId = 0xDEADBEEF) := by
  obtain ⟨d, hd⟩ : ∃ d, exec step (newNPUDevice "npu0") loadThenInferCalls = some d := ⟨_, rfl⟩
  exact ⟨d, hd, reachable_of_exec hd, initializeDevice_reachable (reachable_of_exec hd)⟩

end Ecco9.Npu
