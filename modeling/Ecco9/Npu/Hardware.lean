import Mathlib.Data.Rat.Defs

/-! # The NPU's hardware description

The register file, its addresses and bits, the two configurations and the telemetry of the NPU
coprocessor (src/unnamed/part_002). Registers keep their Go widths: `uint32` and `uint64` are
`UInt32` and `UInt64`, and an `int32` is its 32 bits, `BitVec 32`, which Go's conversions to and
from `uint32` keep as they are. Floats are exact rationals, durations and instants nanoseconds. -/

namespace Ecco9.Npu

/-! ## Addresses, commands and status bits -/

def npuRegBase : UInt64 := 0x40001000

def npuRegCmd : UInt64 := npuRegBase + 0x00
def npuRegStatus : UInt64 := npuRegBase + 0x04
def npuRegPromptAddr : UInt64 := npuRegBase + 0x08
def npuRegPromptLen : UInt64 := npuRegBase + 0x0C
def npuRegNPredict : UInt64 := npuRegBase + 0x10
def npuRegTokenOut : UInt64 := npuRegBase + 0x14
def npuRegTokenReady : UInt64 := npuRegBase + 0x18
def npuRegModelId : UInt64 := npuRegBase + 0x1C
def npuRegCtxUsed : UInt64 := npuRegBase + 0x20
def npuRegErrorCode : UInt64 := npuRegBase + 0x24
def npuRegPerfTokensSec : UInt64 := npuRegBase + 0x28

def npuSramBase : UInt64 := 0x20000000
def npuSramSize : UInt64 := 0x10000000

def npuCmdReset : UInt32 := (1 : UInt32) <<< 0
def npuCmdLoadModel : UInt32 := (1 : UInt32) <<< 1
def npuCmdStartInf : UInt32 := (1 : UInt32) <<< 2
def npuCmdSoftStop : UInt32 := (1 : UInt32) <<< 3

def npuStatusIdle : UInt32 := (1 : UInt32) <<< 0
def npuStatusBusy : UInt32 := (1 : UInt32) <<< 1
def npuStatusEog : UInt32 := (1 : UInt32) <<< 2
def npuStatusError : UInt32 := (1 : UInt32) <<< 3
def npuStatusModelReady : UInt32 := (1 : UInt32) <<< 4
def npuStatusTokenReady : UInt32 := (1 : UInt32) <<< 5

def npuErrNone : UInt32 := 0
def npuErrModelLoad : UInt32 := 1
def npuErrInvalidCmd : UInt32 := 2

/-! ## Configurations -/

/-- `NPUModelConfig`; its float32 fields are read as rationals. -/
structure NPUModelConfig where
  modelPath : String
  modelName : String
  nCtx : BitVec 32
  nThreads : BitVec 32
  nGPULayers : BitVec 32
  batchSize : BitVec 32
  offloadKVCache : Bool
  lowVRAMMode : Bool
  temperature : ℚ
  topP : ℚ
  topK : BitVec 32
  repeatPenalty : ℚ
  deriving DecidableEq

/-- `NPUSequenceConfig`. -/
structure NPUSequenceConfig where
  nPredict : BitVec 32
  maxCtx : BitVec 32
  echoPrompt : Bool
  streamTokens : Bool
  systemPrompt : String
  stopSequences : List String
  deriving DecidableEq

/-- `DefaultNPUModelConfig`. -/
def defaultNPUModelConfig : NPUModelConfig where
  modelPath := ""
  modelName := "default"
  nCtx := 4096
  nThreads := 4
  nGPULayers := 0
  batchSize := 1
  offloadKVCache := false
  lowVRAMMode := false
  temperature := 7 / 10
  topP := 9 / 10
  topK := 40
  repeatPenalty := 11 / 10

/-- `DefaultNPUSequenceConfig`. -/
def defaultNPUSequenceConfig : NPUSequenceConfig where
  nPredict := 128
  maxCtx := 4096
  echoPrompt := false
  streamTokens := true
  systemPrompt := ""
  stopSequences := []

/-! ## Telemetry -/

/-- `NPUTelemetry`. Instants are nanoseconds on the device's clock, with Go's zero time as 0. -/
structure NPUTelemetry where
  tokensPerSecond : ℚ
  totalTokensGenerated : UInt64
  totalPrompts : UInt64
  lastPromptTokens : UInt64
  lastCompletionTokens : UInt64
  lastInferenceStart : Int
  lastInferenceEnd : Int
  lastInferenceDuration : Int
  averageTokensPerSecond : ℚ
  peakTokensPerSecond : ℚ
  deriving DecidableEq

/-- `NewNPUTelemetry`: every field zero. -/
def newNPUTelemetry : NPUTelemetry :=
  ⟨0, 0, 0, 0, 0, 0, 0, 0, 0, 0⟩

namespace NPUTelemetry

/-- `duration.Seconds()`. -/
def seconds (duration : Int) : ℚ := (duration : ℚ) / 1000000000

/-- `UpdateTokenGeneration`: the rate of a generation, folded into the running average with
`TotalPrompts` as the count, and into the peak. -/
def updateTokenGeneration (t : NPUTelemetry) (tokensGenerated : UInt64) (duration : Int) :
    NPUTelemetry :=
  let t := { t with
    totalTokensGenerated := t.totalTokensGenerated + tokensGenerated
    lastCompletionTokens := tokensGenerated
    lastInferenceDuration := duration }
  if seconds duration > 0 then
    let tps : ℚ := (tokensGenerated.toNat : ℚ) / seconds duration
    let avg : ℚ := if t.totalPrompts > 0 then
        (t.averageTokensPerSecond * ((t.totalPrompts - 1).toNat : ℚ) + tps) / (t.totalPrompts.toNat : ℚ)
      else tps
    { t with
      tokensPerSecond := tps
      averageTokensPerSecond := avg
      peakTokensPerSecond := if tps > t.peakTokensPerSecond then tps else t.peakTokensPerSecond }
  else t

/-- `UpdatePrompt`, at instant `now`. -/
def updatePrompt (t : NPUTelemetry) (promptTokens : UInt64) (now : Int) : NPUTelemetry :=
  { t with
    totalPrompts := t.totalPrompts + 1
    lastPromptTokens := promptTokens
    lastInferenceStart := now }

end NPUTelemetry

/-! ## Registers -/

/-- `NPURegisters`. -/
structure NPURegisters where
  command : UInt32
  status : UInt32
  promptAddr : UInt64
  promptLen : UInt32
  nPredict : UInt32
  tokenOut : BitVec 32
  tokenReady : UInt32
  modelId : UInt32
  ctxUsed : UInt32
  errorCode : UInt32
  perfTokensSec : UInt32
  deriving DecidableEq

/-- `NewNPURegisters`: idle, every other register zero. -/
def newNPURegisters : NPURegisters :=
  { command := 0, status := npuStatusIdle, promptAddr := 0, promptLen := 0, nPredict := 0,
    tokenOut := 0, tokenReady := 0, modelId := 0, ctxUsed := 0, errorCode := 0,
    perfTokensSec := 0 }

namespace NPURegisters

variable (r : NPURegisters)

/-- `ReadReg32`; `uint32(r.TokenOut)` keeps the bits. -/
def readReg32 (addr : UInt64) : UInt32 :=
  if addr = npuRegCmd then r.command
  else if addr = npuRegStatus then r.status
  else if addr = npuRegPromptLen then r.promptLen
  else if addr = npuRegNPredict then r.nPredict
  else if addr = npuRegTokenOut then ⟨r.tokenOut⟩
  else if addr = npuRegTokenReady then r.tokenReady
  else if addr = npuRegModelId then r.modelId
  else if addr = npuRegCtxUsed then r.ctxUsed
  else if addr = npuRegErrorCode then r.errorCode
  else if addr = npuRegPerfTokensSec then r.perfTokensSec
  else 0

/-- `WriteReg32`; `int32(value)` keeps the bits. -/
def writeReg32 (addr : UInt64) (value : UInt32) : NPURegisters :=
  if addr = npuRegCmd then { r with command := value }
  else if addr = npuRegStatus then { r with status := value }
  else if addr = npuRegPromptLen then { r with promptLen := value }
  else if addr = npuRegNPredict then { r with nPredict := value }
  else if addr = npuRegTokenOut then { r with tokenOut := value.toBitVec }
  else if addr = npuRegTokenReady then { r with tokenReady := value }
  else if addr = npuRegModelId then { r with modelId := value }
  else if addr = npuRegCtxUsed then { r with ctxUsed := value }
  else if addr = npuRegErrorCode then { r with errorCode := value }
  else if addr = npuRegPerfTokensSec then { r with perfTokensSec := value }
  else r

/-- `ReadReg64`. -/
def readReg64 (addr : UInt64) : UInt64 :=
  if addr = npuRegPromptAddr then r.promptAddr else 0

/-- `WriteReg64`. -/
def writeReg64 (addr : UInt64) (value : UInt64) : NPURegisters :=
  if addr = npuRegPromptAddr then { r with promptAddr := value } else r

/-! ### The status register under a write -/

@[simp] theorem writeReg32_status_status (v : UInt32) :
    (r.writeReg32 npuRegStatus v).status = v := by
  rw [writeReg32, if_neg (by decide), if_pos rfl]

/-- A write to another address leaves STATUS as it is. -/
theorem writeReg32_status_of_ne {addr : UInt64} (h : addr ≠ npuRegStatus) (v : UInt32) :
    (r.writeReg32 addr v).status = r.status := by
  simp only [writeReg32, apply_ite NPURegisters.status, h, if_false, ite_self]

@[simp] theorem writeReg32_cmd_status (v : UInt32) : (r.writeReg32 npuRegCmd v).status = r.status :=
  r.writeReg32_status_of_ne (by decide) v

@[simp] theorem writeReg32_promptLen_status (v : UInt32) :
    (r.writeReg32 npuRegPromptLen v).status = r.status :=
  r.writeReg32_status_of_ne (by decide) v

@[simp] theorem writeReg32_nPredict_status (v : UInt32) :
    (r.writeReg32 npuRegNPredict v).status = r.status :=
  r.writeReg32_status_of_ne (by decide) v

@[simp] theorem writeReg32_modelId_status (v : UInt32) :
    (r.writeReg32 npuRegModelId v).status = r.status :=
  r.writeReg32_status_of_ne (by decide) v

@[simp] theorem writeReg32_errorCode_status (v : UInt32) :
    (r.writeReg32 npuRegErrorCode v).status = r.status :=
  r.writeReg32_status_of_ne (by decide) v

end NPURegisters

/-! ## The register file's laws

The ten 32-bit registers are named by an enumeration with their addresses; `ReadReg32` and
`WriteReg32` decode an address to one of them, or to none. Every law of the register file is then
a law of one field. -/

/-- The ten registers `ReadReg32` and `WriteReg32` switch on, in the switch's order. -/
inductive Reg32 where
  | cmd
  | status
  | promptLen
  | nPredict
  | tokenOut
  | tokenReady
  | modelId
  | ctxUsed
  | errorCode
  | perfTokensSec
  deriving DecidableEq

namespace Reg32

/-- The register's address. -/
def addr : Reg32 → UInt64
  | cmd => npuRegCmd
  | status => npuRegStatus
  | promptLen => npuRegPromptLen
  | nPredict => npuRegNPredict
  | tokenOut => npuRegTokenOut
  | tokenReady => npuRegTokenReady
  | modelId => npuRegModelId
  | ctxUsed => npuRegCtxUsed
  | errorCode => npuRegErrorCode
  | perfTokensSec => npuRegPerfTokensSec

/-- The register the switch selects for an address, if any. -/
def ofAddr (a : UInt64) : Option Reg32 :=
  if a = npuRegCmd then some cmd
  else if a = npuRegStatus then some status
  else if a = npuRegPromptLen then some promptLen
  else if a = npuRegNPredict then some nPredict
  else if a = npuRegTokenOut then some tokenOut
  else if a = npuRegTokenReady then some tokenReady
  else if a = npuRegModelId then some modelId
  else if a = npuRegCtxUsed then some ctxUsed
  else if a = npuRegErrorCode then some errorCode
  else if a = npuRegPerfTokensSec then some perfTokensSec
  else none

@[simp] theorem ofAddr_addr (x : Reg32) : ofAddr x.addr = some x := by
  cases x <;> rfl

private theorem eq_addr_of_ite {c : Prop} [Decidable c] {a : UInt64} {y x : Reg32}
    {o : Option Reg32} (hy : c → a = y.addr) (ho : o = some x → a = x.addr) :
    (if c then some y else o) = some x → a = x.addr := by
  split
  · rintro ⟨⟩; exact hy ‹_›
  · exact ho

theorem eq_addr_of_ofAddr {a : UInt64} {x : Reg32} : ofAddr a = some x → a = x.addr := by
  unfold ofAddr
  repeat refine eq_addr_of_ite (fun h => by exact h) ?_
  exact fun h => Option.noConfusion h

theorem addr_inj {x y : Reg32} (h : x.addr = y.addr) : x = y :=
  Option.some.inj ((ofAddr_addr x).symm.trans (h ▸ ofAddr_addr y))

/-- An address that names none of the ten registers decodes to none. -/
theorem ofAddr_eq_none {a : UInt64} (h : ∀ x : Reg32, a ≠ x.addr) : ofAddr a = none :=
  Option.eq_none_iff_forall_not_mem.mpr fun x hx => h x (eq_addr_of_ofAddr hx)

end Reg32

namespace NPURegisters

variable (r : NPURegisters)

/-- The value `ReadReg32` returns for a register. -/
def get : Reg32 → UInt32
  | .cmd => r.command
  | .status => r.status
  | .promptLen => r.promptLen
  | .nPredict => r.nPredict
  | .tokenOut => ⟨r.tokenOut⟩
  | .tokenReady => r.tokenReady
  | .modelId => r.modelId
  | .ctxUsed => r.ctxUsed
  | .errorCode => r.errorCode
  | .perfTokensSec => r.perfTokensSec

/-- The register file after `WriteReg32` stores a value in a register. -/
def set : Reg32 → UInt32 → NPURegisters
  | .cmd, v => { r with command := v }
  | .status, v => { r with status := v }
  | .promptLen, v => { r with promptLen := v }
  | .nPredict, v => { r with nPredict := v }
  | .tokenOut, v => { r with tokenOut := v.toBitVec }
  | .tokenReady, v => { r with tokenReady := v }
  | .modelId, v => { r with modelId := v }
  | .ctxUsed, v => { r with ctxUsed := v }
  | .errorCode, v => { r with errorCode := v }
  | .perfTokensSec, v => { r with perfTokensSec := v }

theorem readReg32_eq (a : UInt64) : r.readReg32 a = (Reg32.ofAddr a).elim 0 r.get := by
  simp only [readReg32, Reg32.ofAddr, apply_ite (fun o : Option Reg32 => o.elim 0 r.get)]
  rfl

theorem writeReg32_eq (a : UInt64) (v : UInt32) :
    r.writeReg32 a v = (Reg32.ofAddr a).elim r (r.set · v) := by
  simp only [writeReg32, Reg32.ofAddr, apply_ite (fun o : Option Reg32 => o.elim r (r.set · v))]
  rfl

/-- Each register holds what was last stored in it; `int32(v)` and back keeps `v`. -/
theorem get_set (x y : Reg32) (v : UInt32) :
    (r.set x v).get y = if x = y then v else r.get y := by
  cases x <;> cases y <;> rfl

@[simp] theorem set_promptAddr (x : Reg32) (v : UInt32) : (r.set x v).promptAddr = r.promptAddr := by
  cases x <;> rfl

theorem writeReg64_promptAddr (w : UInt64) :
    r.writeReg64 npuRegPromptAddr w = { r with promptAddr := w } := if_pos rfl

/-- PROMPT_ADDR is none of the ten. -/
theorem get_writeReg64 (w : UInt64) : (r.writeReg64 npuRegPromptAddr w).get = r.get := by
  rw [writeReg64_promptAddr]
  funext y
  cases y <;> rfl

/-- A 32-bit read after a 32-bit write to a register: the value written at its address, and the
old value everywhere else. -/
theorem readReg32_writeReg32 (x : Reg32) (v : UInt32) (b : UInt64) :
    (r.writeReg32 x.addr v).readReg32 b = if b = x.addr then v else r.readReg32 b := by
  rw [writeReg32_eq, Reg32.ofAddr_addr, Option.elim_some, readReg32_eq, readReg32_eq]
  cases hb : Reg32.ofAddr b with
  | none =>
    have : b ≠ x.addr := fun h => by simp [h] at hb
    simp [this]
  | some y =>
    have hy := Reg32.eq_addr_of_ofAddr hb
    simp only [Option.elim_some, get_set, hy]
    by_cases h : x = y
    · simp [h]
    · have : y.addr ≠ x.addr := fun e => h (Reg32.addr_inj e).symm
      simp [h, this]

end NPURegisters

open NPURegisters in
/-- The register file's laws, for every state of it: a 32-bit read returns what the last 32-bit
write to its address stored (TOKEN_OUT through `int32` and back), and a write to one register
changes no other 32-bit read and not PROMPT_ADDR; the 64-bit PROMPT_ADDR likewise. Writes to an
address of no register change nothing, and reads of it return 0. -/
theorem register_file_laws (r : NPURegisters) :
    (∀ (x : Reg32) (v : UInt32), (r.writeReg32 x.addr v).readReg32 x.addr = v) ∧
    (∀ (x : Reg32) (v : UInt32) (b : UInt64), b ≠ x.addr →
      (r.writeReg32 x.addr v).readReg32 b = r.readReg32 b) ∧
    (∀ (x : Reg32) (v : UInt32),
      (r.writeReg32 x.addr v).readReg64 npuRegPromptAddr = r.readReg64 npuRegPromptAddr) ∧
    (∀ w : UInt64, (r.writeReg64 npuRegPromptAddr w).readReg64 npuRegPromptAddr = w) ∧
    (∀ (w : UInt64) (b : UInt64), (r.writeReg64 npuRegPromptAddr w).readReg32 b = r.readReg32 b) ∧
    (∀ (a : UInt64) (v : UInt32), (∀ x : Reg32, a ≠ x.addr) → r.writeReg32 a v = r) ∧
    (∀ (a w : UInt64), a ≠ npuRegPromptAddr → r.writeReg64 a w = r) ∧
    (∀ a : UInt64, (∀ x : Reg32, a ≠ x.addr) → r.readReg32 a = 0) ∧
    (∀ a : UInt64, a ≠ npuRegPromptAddr → r.readReg64 a = 0) := by
  refine ⟨fun x v => ?_, fun x v b hb => ?_, fun x v => ?_, fun w => ?_, fun w b => ?_,
    fun a v ha => ?_, fun a w ha => if_neg ha, fun a ha => ?_, fun a ha => if_neg ha⟩
  · simp [readReg32_writeReg32]
  · simp [readReg32_writeReg32, hb]
  · simp [readReg64, writeReg32_eq]
  · simp [readReg64, writeReg64_promptAddr]
  · rw [readReg32_eq, readReg32_eq, get_writeReg64]
  · simp [writeReg32_eq, Reg32.ofAddr_eq_none ha]
  · simp [readReg32_eq, Reg32.ofAddr_eq_none ha]

end Ecco9.Npu
