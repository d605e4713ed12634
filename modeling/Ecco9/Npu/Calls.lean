import Ecco9.Npu.Device

/-! # What the NPU device's calls do

Between calls the device's lock is free, so each exported call returns unless it takes the lock a
second time. `Write` copies a prompt into the SRAM window at PROMPT_ADDR; `IoCtl` takes the lock
again through `Reset`; `GetState` measures the uptime from the last write of `LastUpdate`. -/

namespace Ecco9.Npu

namespace NPUDevice

variable {d d' : NPUDevice}

/-! ## The lock -/

@[simp] theorem unlock_lock (h : d.mu = false) : { { d with mu := true } with mu := false } = d := by
  cases d
  cases h
  rfl

theorem locked_of_free {α : Type} (h : d.mu = false) (body : NPUDevice → Option (α × NPUDevice)) :
    d.locked body = (body { d with mu := true }).map fun r => (r.1, { r.2 with mu := false }) := by
  simp [locked, h]

theorem locked_eq_some {α : Type} {body : NPUDevice → Option (α × NPUDevice)} {r : α}
    (h : d.locked body = some (r, d')) :
    ∃ d₁, body { d with mu := true } = some (r, d₁) ∧ d' = { d₁ with mu := false } := by
  unfold locked at h
  split at h
  · cases h
  · obtain ⟨_, h₁, ⟨⟩⟩ := Option.map_eq_some'.mp h
    exact ⟨_, h₁, rfl⟩

theorem locked_mu {α : Type} {body : NPUDevice → Option (α × NPUDevice)} {r : α}
    (h : d.locked body = some (r, d')) : d'.mu = false := by
  unfold locked at h
  split at h
  · cases h
  · obtain ⟨_, -, ⟨⟩⟩ := Option.map_eq_some'.mp h
    rfl

end NPUDevice

open NPUDevice in
theorem step_mu {d d' : NPUDevice} {op : Op} (hmu : d.mu = false) (h : step d op = some d') :
    d'.mu = false := by
  cases op <;> simp only [step, Option.map_eq_some', Prod.exists, exists_and_right,
    exists_eq_right] at h
  case elapse => cases h; exact hmu
  case getState | read =>
    obtain ⟨r, h⟩ := h
    have h₁ := readLocked_some h
    dsimp only at h₁
    split at h₁ <;> cases h₁ <;> exact hmu
  all_goals obtain ⟨r, h⟩ := h; exact locked_mu h

/-- Between calls the lock is free. -/
theorem mu_reachable {id : String} {d : NPUDevice} (h : Reachable id d) : d.mu = false :=
  h.inv (fun d => d.mu = false) rfl fun _ _ _ _ => step_mu

/-! ## `Write` -/

/-- `Write`'s test that PROMPT_ADDR lies in the SRAM window. -/
def InSramWindow (p : UInt64) : Prop := p ≥ npuSramBase ∧ p < npuSramBase + npuSramSize

instance (p : UInt64) : Decidable (InSramWindow p) := inferInstanceAs (Decidable (_ ∧ _))

/-- The window does not wrap around: its end is `NPU_SRAM_BASE + NPU_SRAM_SIZE` as a number. -/
theorem inSramWindow_iff (p : UInt64) :
    InSramWindow p ↔ npuSramBase.toNat ≤ p.toNat ∧ p.toNat < npuSramBase.toNat + npuSramSize.toNat :=
  Iff.rfl

namespace NPUDevice

variable {d : NPUDevice}

/-- Outside the window `Write` fails with the address in its message and changes nothing. -/
theorem write_outside (hmu : d.mu = false) (h : ¬InSramWindow d.registers.promptAddr)
    (buffer : List UInt8) :
    d.write buffer =
      some (.error ("invalid prompt address: 0x" ++ hexString d.registers.promptAddr.toNat), d) := by
  unfold InSramWindow at h
  simp only [write, locked_of_free hmu]
  rw [if_neg h, Option.map_some']
  cases d
  cases hmu
  rfl

/-- Inside the window `Write` copies the first `n` bytes of the buffer to the offset, where `n`
is what fits, and stores `n` in PROMPT_LEN. -/
theorem write_inside (hmu : d.mu = false) (h : InSramWindow d.registers.promptAddr)
    (buffer : List UInt8) :
    let off := (d.registers.promptAddr - npuSramBase).toNat
    let n := min buffer.length (npuSramSize.toNat - off)
    d.write buffer = some (.ok n,
      { d with
        sram := (d.sram.copyAt off (buffer.take n)).1
        sram_length := d.sram_length
        registers := d.registers.writeReg32 npuRegPromptLen (UInt32.ofNat n) }) := by
  dsimp only
  have hw := (inSramWindow_iff _).mp h
  have hoff : (d.registers.promptAddr - npuSramBase).toNat =
      d.registers.promptAddr.toNat - npuSramBase.toNat := UInt64.toNat_sub_of_le _ _ h.1
  have hsub : (npuSramSize - (d.registers.promptAddr - npuSramBase)).toNat =
      npuSramSize.toNat - (d.registers.promptAddr - npuSramBase).toNat :=
    UInt64.toNat_sub_of_le _ _
      (show (d.registers.promptAddr - npuSramBase).toNat ≤ npuSramSize.toNat by omega)
  have htake : (if buffer.length > (npuSramSize - (d.registers.promptAddr - npuSramBase)).toNat then
      buffer.take (npuSramSize - (d.registers.promptAddr - npuSramBase)).toNat else buffer) =
      buffer.take (min buffer.length (npuSramSize.toNat - (d.registers.promptAddr - npuSramBase).toNat)) := by
    rw [hsub]
    split_ifs with hl
    · rw [min_eq_right hl.le]
    · rw [min_eq_left (not_lt.mp hl), List.take_length]
  unfold InSramWindow at h
  simp only [write, locked_of_free hmu]
  rw [if_pos h]
  simp only [htake, List.length_take, min_eq_left (Nat.min_le_left _ _), Option.map_some']
  cases d
  cases hmu
  rfl

end NPUDevice

theorem ByteSlice.copyAt_get (s : ByteSlice) (off : Nat) (src : List UInt8) (i : Nat) :
    (s.copyAt off src).1.get i =
      if off ≤ i ∧ i < off + min src.length (s.length - off) then src.getD (i - off) 0 else s.get i :=
  rfl

/-- The bytes `copy` writes are the first ones of `src`, as many as fit from `off`. -/
theorem ByteSlice.copyAt_copied (s : ByteSlice) (off : Nat) (src : List UInt8) :
    (List.range (min src.length (s.length - off))).map (fun i => (s.copyAt off src).1.get (off + i)) =
      src.take (min src.length (s.length - off)) := by
  apply List.ext_getElem
  · simp
  · intro i h₁ _
    simp only [List.length_map, List.length_range] at h₁
    simp only [List.getElem_map, List.getElem_range, copyAt_get, List.getElem_take,
      Nat.add_sub_cancel_left, List.getD_eq_getElem?_getD,
      List.getElem?_eq_getElem (by omega : i < src.length), Option.getD_some]
    rw [if_pos ⟨Nat.le_add_right off i, by omega⟩]

/-- `copy` leaves every byte outside the range it writes. -/
theorem ByteSlice.copyAt_get_of_outside (s : ByteSlice) (off : Nat) (src : List UInt8) {i : Nat}
    (h : i < off ∨ off + min src.length (s.length - off) ≤ i) : (s.copyAt off src).1.get i = s.get i := by
  rw [copyAt_get, if_neg (by omega)]

theorem writeReg32_promptLen_promptLen (r : NPURegisters) (v : UInt32) :
    (r.writeReg32 npuRegPromptLen v).promptLen = v := by
  show (r.writeReg32 Reg32.promptLen.addr v).promptLen = v
  rw [NPURegisters.writeReg32_eq, Reg32.ofAddr_addr]
  rfl

/-- What `Write` does with a buffer on a device whose PROMPT_ADDR is `p`: it fails, changing
nothing, exactly when `p` is outside the SRAM window. Inside, with `off` the offset and `n` what
fits, it writes the first `n` bytes of the buffer at `off` and no other byte, stays within the
SRAM, stores `n` itself in PROMPT_LEN, returns `n` and changes no other field. -/
def WriteSpec (d : NPUDevice) (p : UInt64) (buffer : List UInt8) : Prop :=
  ((∃ e, d.write buffer = some (.error e, d)) ↔ ¬InSramWindow p) ∧
  (InSramWindow p →
    let off := (p - npuSramBase).toNat
    let n := min buffer.length (npuSramSize.toNat - off)
    ∃ d', d.write buffer = some (.ok n, d') ∧
      off + n ≤ d.sram.length ∧
      (List.range n).map (fun i => d'.sram.get (off + i)) = buffer.take n ∧
      (∀ i, i < off ∨ off + n ≤ i → d'.sram.get i = d.sram.get i) ∧
      d'.registers = d.registers.writeReg32 npuRegPromptLen (UInt32.ofNat n) ∧
      d'.registers.promptLen.toNat = n ∧
      d' = { d with sram := d'.sram, sram_length := d'.sram_length, registers := d'.registers })

/-- `Write` meets its specification on every reachable device, whatever PROMPT_ADDR holds. -/
theorem write_prompt_to_sram {id : String} {d : NPUDevice} (hd : Reachable id d) (p : UInt64)
    (buffer : List UInt8) :
    WriteSpec { d with registers := d.registers.writeReg64 npuRegPromptAddr p } p buffer := by
  set d₀ : NPUDevice := { d with registers := d.registers.writeReg64 npuRegPromptAddr p }
  have hmu : d₀.mu = false := mu_reachable (d := d) hd
  have hp : d₀.registers.promptAddr = p := by
    simp only [d₀, NPURegisters.writeReg64_promptAddr]
  constructor
  · constructor
    · rintro ⟨e, he⟩ hw
      rw [NPUDevice.write_inside hmu (hp ▸ hw)] at he
      cases he
    · intro hw
      exact ⟨_, NPUDevice.write_outside hmu (hp ▸ hw) buffer⟩
  · intro hw
    dsimp only
    have hw' := (inSramWindow_iff p).mp hw
    have hoff : (p - npuSramBase).toNat = p.toNat - npuSramBase.toNat :=
      UInt64.toNat_sub_of_le _ _ hw.1
    have hlen : d.sram.length = npuSramSize.toNat := d.sram_length
    have hn : min (buffer.take (min buffer.length (npuSramSize.toNat - (p - npuSramBase).toNat))).length
        (d.sram.length - (p - npuSramBase).toNat) =
        min buffer.length (npuSramSize.toNat - (p - npuSramBase).toNat) := by
      simp only [List.length_take]
      omega
    refine ⟨_, hp ▸ NPUDevice.write_inside hmu (hp ▸ hw) buffer, ?_, ?_, fun i hi => ?_, rfl, ?_, rfl⟩
    · show _ ≤ d.sram.length
      omega
    · have h := ByteSlice.copyAt_copied d.sram (p - npuSramBase).toNat
        (buffer.take (min buffer.length (npuSramSize.toNat - (p - npuSramBase).toNat)))
      rwa [hn, List.take_take, min_self] at h
    · exact ByteSlice.copyAt_get_of_outside _ _ _ (by rw [hn]; exact hi)
    · simp only [writeReg32_promptLen_promptLen]
      have : npuSramSize.toNat = 268435456 := rfl
      exact UInt32.toNat_ofNat_of_lt (show _ < 4294967296 by omega)

theorem write_prompt_to_sram_at_base :
    Reachable "npu0" (newNPUDevice "npu0") ∧
      WriteSpec { newNPUDevice "npu0" with
          registers := (newNPUDevice "npu0").registers.writeReg64 npuRegPromptAddr npuSramBase }
        npuSramBase [1, 2, 3] :=
  ⟨Ecco9.Reachable.start, write_prompt_to_sram Ecco9.Reachable.start _ _⟩

/-! ## `IoCtl`

`IoCtl` holds the lock for its whole body, and its RESET case calls `Reset`, which takes the lock
again: `sync.RWMutex` is not reentrant, so that call never returns. Every error it does return
leaves the device as it was except, possibly, ERROR_CODE. -/

namespace NPUDevice

/-- `IoCtl(NPU_CMD_RESET, arg)` blocks forever on its own lock, on every device and argument. -/
theorem ioCtl_reset_never_returns (d : NPUDevice) (arg : IoCtlArg) : d.ioCtl npuCmdReset arg = none := by
  unfold ioCtl locked
  split
  · rfl
  · simp [reset, locked]

theorem writeReg32_errorCode (r : NPURegisters) (v : UInt32) :
    r.writeReg32 npuRegErrorCode v = { r with errorCode := v } := by
  show r.writeReg32 Reg32.errorCode.addr v = _
  rw [NPURegisters.writeReg32_eq, Reg32.ofAddr_addr]
  rfl

end NPUDevice

/-! ## `GetState`'s uptime

`GetState` reports the time since `LastUpdate`, whatever its comment says, and `Reset` and
`SetState` write `LastUpdate` without initializing the device again. So the uptime counts from
initialization only while neither of them (nor `Shutdown`) runs. -/

/-- The calls that leave `LastUpdate` and the initialized flag alone on an initialized device:
all but `Reset`, `SetState` and `Shutdown`. -/
def Op.KeepsLastUpdate : Op → Prop
  | .reset | .setState _ | .shutdown => False
  | _ => True

open NPUDevice in
theorem step_lastUpdate {d d' : NPUDevice} {op : Op} (hi : d.initialized = true)
    (hk : op.KeepsLastUpdate) (h : step d op = some d') :
    d'.initialized = true ∧ d'.state.lastUpdate = d.state.lastUpdate := by
  cases op <;> simp only [step, Option.map_eq_some', Prod.exists, exists_and_right,
    exists_eq_right] at h
  case elapse => cases h; exact ⟨hi, rfl⟩
  case initializeDevice =>
    obtain ⟨r, h⟩ := h
    obtain ⟨d₁, h₁, rfl⟩ := locked_eq_some h
    simp only [hi, if_true, Option.some.injEq] at h₁
    cases h₁
    exact ⟨rfl, rfl⟩
  case getState | read =>
    obtain ⟨r, h⟩ := h
    have h₁ := readLocked_some h
    dsimp only at h₁
    split at h₁ <;> cases h₁ <;> exact ⟨hi, rfl⟩
  case write =>
    obtain ⟨r, h⟩ := h
    obtain ⟨d₁, h₁, rfl⟩ := locked_eq_some h
    simp only [write, Option.some.injEq] at h₁
    split at h₁ <;> cases h₁ <;> exact ⟨hi, rfl⟩
  case ioCtl =>
    obtain ⟨r, h⟩ := h
    obtain ⟨d₂, -, rfl, hc⟩ := ioCtl_cases h
    rcases hc with ⟨_, -, rfl⟩ | ⟨_, hs⟩ | ⟨-, rfl⟩ | ⟨_, -, rfl | rfl⟩
    · exact ⟨hi, rfl⟩
    · simp only [startInference] at hs
      split at hs <;> cases hs <;> exact ⟨hi, rfl⟩
    all_goals exact ⟨hi, rfl⟩
  all_goals exact hk.elim

namespace NPUDevice

/-- The self-test always passes: the register file and the SRAM hold what is written to them. -/
theorem performSelfTest_passes (d : NPUDevice) : d.performSelfTest.1 = none := by
  have hreg : (d.registers.writeReg32 npuRegModelId 0xDEADBEEF).readReg32 npuRegModelId =
      0xDEADBEEF := by
    show (d.registers.writeReg32 Reg32.modelId.addr _).readReg32 Reg32.modelId.addr = _
    rw [NPURegisters.readReg32_writeReg32, if_pos rfl]
  have hlen : d.sram.length = npuSramSize.toNat := d.sram_length
  simp only [performSelfTest, hreg, ne_eq, not_true_eq_false, if_false]
  rw [if_neg]
  simp only [List.any_eq_true, List.mem_range, bne_iff_ne, ne_eq, not_exists, not_and, not_not]
  intro i hi
  have : npuSramSize.toNat = 268435456 := rfl
  have : "NPU-SELF-TEST".toUTF8.data.toList.length = 13 := rfl
  rw [ByteSlice.copyAt_get, if_pos (by omega), Nat.sub_zero]

/-- The self-test always passes, leaving its test value in MODEL_ID and its test string at the
start of the SRAM. -/
theorem performSelfTest_eq (d : NPUDevice) : d.performSelfTest = (none, { d with
    registers := d.registers.writeReg32 npuRegModelId 0xDEADBEEF
    sram := (d.sram.copyAt 0 "NPU-SELF-TEST".toUTF8.data.toList).1
    sram_length := d.sram_length }) := by
  have hp := performSelfTest_passes d
  unfold performSelfTest at hp ⊢
  dsimp only at hp ⊢
  split_ifs at hp ⊢
  rfl

/-- `GetState` on an initialized device with its lock free: the uptime is the time since
`LastUpdate`. -/
theorem getState_of_initialized {d : NPUDevice} (hmu : d.mu = false) (hi : d.initialized = true) :
    d.getState = some (.ok { d.state with uptime := d.now - d.state.lastUpdate },
      { d with state := { d.state with uptime := d.now - d.state.lastUpdate } }) := by
  simp [getState, readLocked, hmu, hi]

end NPUDevice

/-- On an initialized device whose lock is free, a run of calls other than `Reset`, `SetState`
and `Shutdown` ends in a state whose `GetState` reports the time since `LastUpdate` as it was at
the start of the run. -/
theorem getState_uptime_of_run {d d' : NPUDevice} {es : List Op} (hmu : d.mu = false)
    (hi : d.initialized = true) (hk : ∀ op ∈ es, op.KeepsLastUpdate) (h : exec step d es = some d') :
    d'.getState = some (.ok { d'.state with uptime := d'.now - d.state.lastUpdate },
      { d' with state := { d'.state with uptime := d'.now - d.state.lastUpdate } }) := by
  have inv := exec_inv (fun x : NPUDevice => x.mu = false ∧ x.initialized = true ∧
      x.state.lastUpdate = d.state.lastUpdate) Op.KeepsLastUpdate
    (fun _ _ _ hk' ⟨hm, hi', hl⟩ hs =>
      ⟨step_mu hm hs, (step_lastUpdate hi' hk' hs).1, (step_lastUpdate hi' hk' hs).2.trans hl⟩)
    ⟨hmu, hi, rfl⟩ hk h
  rw [NPUDevice.getState_of_initialized inv.1 inv.2.1, inv.2.2]

/-- `Reset` writes `LastUpdate` and leaves the device initialized. -/
theorem NPUDevice.reset_lastUpdate {d d₁ : NPUDevice} {r : Except String Unit}
    (h : d.reset = some (r, d₁)) :
    d₁.mu = false ∧ d₁.initialized = d.initialized ∧ d₁.state.lastUpdate = d.now := by
  obtain ⟨d₂, h₂, rfl⟩ := NPUDevice.locked_eq_some h
  cases h₂
  exact ⟨rfl, rfl, rfl⟩

/-- After a `Reset` of an initialized device at time `r`, `GetState` reports the time since `r`,
not since initialization. -/
theorem getState_uptime_since_reset {d d₁ d' : NPUDevice} {r : Except String Unit} {es : List Op}
    (hi : d.initialized = true) (hreset : d.reset = some (r, d₁))
    (hk : ∀ op ∈ es, op.KeepsLastUpdate) (h : exec step d₁ es = some d') :
    d'.getState = some (.ok { d'.state with uptime := d'.now - d.now },
      { d' with state := { d'.state with uptime := d'.now - d.now } }) := by
  obtain ⟨hmu, hi₁, hlu⟩ := NPUDevice.reset_lastUpdate hreset
  rw [getState_uptime_of_run hmu (hi₁.trans hi) hk h, hlu]

/-- `Initialize` at time 0, 5 ns, `Reset`, 3 ns more: `GetState` reports an uptime of 3 ns where 8
have passed since initialization. -/
theorem uptime_counts_from_reset :
    ∃ d₁ d, (newNPUDevice "npu0").initializeDevice = some (.ok (), d₁) ∧
      exec step d₁ [.elapse 5, .reset, .elapse 3] = some d ∧ d.now = 8 ∧ d.initialized = true ∧
      d.getState = some (.ok { d.state with uptime := 3 }, { d with state := { d.state with uptime := 3 } }) := by
  obtain ⟨d₁, d₂, d₃, d, h₁, h₂, h₃, h₄, hi₂, hnow₂, hnow, hi⟩ : ∃ d₁ d₂ d₃ d,
      (newNPUDevice "npu0").initializeDevice = some (.ok (), d₁) ∧ step d₁ (.elapse 5) = some d₂ ∧
      d₂.reset = some (.ok (), d₃) ∧ exec step d₃ [.elapse 3] = some d ∧ d₂.initialized = true ∧
      d₂.now = 5 ∧ d.now = 8 ∧ d.initialized = true :=
    ⟨_, _, _, _, rfl, rfl, rfl, rfl, rfl, rfl, rfl, rfl⟩
  refine ⟨d₁, d, h₁, ?_, hnow, hi, ?_⟩
  · rw [exec_cons, h₂, Option.some_bind, exec_cons, step, h₃]
    exact h₄
  · rw [getState_uptime_since_reset hi₂ h₃ (by simp [Op.KeepsLastUpdate]) h₄, hnow, hnow₂]
    rfl

end Ecco9.Npu
