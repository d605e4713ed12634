import Ecco9.Npu.Calls

/-! # The loaded model

`loadModel` sets the model flag, the current model's name and the configuration together;
`startInference` refuses to start without a model and counts each start in the telemetry;
`Reset` clears both flags and the telemetry, and `Shutdown` and `SOFT_STOP` only stop an
inference. So in every reachable state an inference runs only on a loaded model, prompts have
been counted only with a model loaded since the last reset, and the current model is the one
configured. -/

namespace Ecco9.Npu

/-- Which model the device holds and what it has run: whether a model is loaded, whether an
inference is active, the telemetry's prompt count, the current model's name and the configured
model's name. -/
def NPUDevice.modelView (d : NPUDevice) : Bool × Bool × UInt64 × String × String :=
  (d.modelLoaded, d.inferenceActive, d.telemetry.totalPrompts, d.currentModel,
    d.modelConfig.modelName)

/-- What one call can do to the model view. -/
inductive ModelWrite :
    Bool × Bool × UInt64 × String × String → Bool × Bool × UInt64 × String × String → Prop
  | keep {v} : ModelWrite v v
  | stop {l a p c n} : ModelWrite (l, a, p, c, n) (l, false, p, c, n)
  | reset {l a p c n} : ModelWrite (l, a, p, c, n) (false, false, 0, c, n)
  | loadModel {l a p c n} (name : String) : ModelWrite (l, a, p, c, n) (true, a, p, name, name)
  | startInference {a p c n} : ModelWrite (true, a, p, c, n) (true, true, p + 1, c, n)

namespace NPUDevice

variable {d d' : NPUDevice}

theorem initializeDevice_modelView {r} (h : d.initializeDevice = some (r, d')) :
    d'.modelView = d.modelView := by
  obtain ⟨d₁, h₁, rfl⟩ := locked_eq_some h
  simp only [Option.some.injEq, performSelfTest_eq] at h₁
  split at h₁ <;> cases h₁ <;> rfl

theorem shutdown_model {r} (h : d.shutdown = some (r, d')) : ModelWrite d.modelView d'.modelView := by
  obtain ⟨d₁, h₁, rfl⟩ := locked_eq_some h
  simp only [Option.some.injEq] at h₁
  split at h₁ <;> cases h₁
  · exact .keep
  · dsimp only
    split_ifs
    · exact .stop
    · exact .keep

theorem reset_model {r} (h : d.reset = some (r, d')) : ModelWrite d.modelView d'.modelView := by
  obtain ⟨d₁, h₁, rfl⟩ := locked_eq_some h
  cases h₁
  exact .reset

theorem getState_modelView {r} (h : d.getState = some (r, d')) : d'.modelView = d.modelView := by
  have h₁ := readLocked_some h
  dsimp only at h₁
  split at h₁ <;> cases h₁ <;> rfl

theorem setState_modelView {r} {s : DeviceState} (h : d.setState s = some (r, d')) :
    d'.modelView = d.modelView := by
  obtain ⟨d₁, h₁, rfl⟩ := locked_eq_some h
  cases h₁
  rfl

theorem read_modelView {r} {n : Nat} (h : d.read n = some (r, d')) : d'.modelView = d.modelView := by
  have h₁ := readLocked_some h
  dsimp only at h₁
  split at h₁ <;> cases h₁ <;> rfl

theorem write_modelView {r} {b : List UInt8} (h : d.write b = some (r, d')) :
    d'.modelView = d.modelView := by
  obtain ⟨d₁, h₁, rfl⟩ := locked_eq_some h
  simp only [Option.some.injEq] at h₁
  split at h₁ <;> cases h₁ <;> rfl

/-- `startInference` counts a start only with a model loaded, and otherwise changes no part of
the view. -/
theorem startInference_model (c : NPUSequenceConfig) :
    ModelWrite d.modelView (d.startInference c).2.modelView := by
  unfold startInference
  split
  · exact .keep
  · rename_i hl
    obtain ⟨_, _, _, _, _, _, _, _, _, _, _, _, _, _, _⟩ := d
    simp only [Bool.not_eq_true', Bool.not_eq_false] at hl
    subst hl
    exact .startInference

theorem ioCtl_model {r} {c : UInt32} {a : IoCtlArg} (h : d.ioCtl c a = some (r, d')) :
    ModelWrite d.modelView d'.modelView := by
  obtain ⟨d₂, -, rfl, hc⟩ := ioCtl_cases h
  rcases hc with ⟨config, -, rfl⟩ | ⟨_, hs⟩ | ⟨-, rfl⟩ | ⟨_, -, rfl | rfl⟩
  · exact .loadModel config.modelName
  · obtain rfl : d₂ = _ := congrArg Prod.snd hs
    exact startInference_model (d := { d with mu := true }) _
  · exact .stop
  · exact .keep
  · exact .keep

end NPUDevice

open NPUDevice in
theorem step_modelWrite {d d' : NPUDevice} {op : Op} (h : step d op = some d') :
    ModelWrite d.modelView d'.modelView := by
  cases op <;> simp only [step, Option.map_eq_some', Prod.exists, exists_and_right,
    exists_eq_right, Option.some.injEq] at h
  case elapse => cases h; exact .keep
  all_goals obtain ⟨r, h⟩ := h
  case shutdown => exact shutdown_model h
  case reset => exact reset_model h
  case ioCtl => exact ioCtl_model h
  all_goals first
    | rw [initializeDevice_modelView h] | rw [getState_modelView h] | rw [setState_modelView h]
    | rw [read_modelView h] | rw [write_modelView h]
  all_goals exact .keep

/-- An inference runs only on a loaded model, prompts are counted only with a model loaded, and
a loaded model is the configured one. -/
structure ModelSound (v : Bool × Bool × UInt64 × String × String) : Prop where
  inference_loaded : v.2.1 = true → v.1 = true
  prompts_loaded : v.2.2.1 ≠ 0 → v.1 = true
  current_configured : v.1 = true → v.2.2.2.1 = v.2.2.2.2

theorem ModelWrite.sound {v v' : Bool × Bool × UInt64 × String × String} (hw : ModelWrite v v')
    (h : ModelSound v) : ModelSound v' := by
  cases hw with
  | keep => exact h
  | stop => exact ⟨(fun h' => nomatch h'), h.prompts_loaded, h.current_configured⟩
  | reset => exact ⟨(fun h' => nomatch h'), fun h' => (h' rfl).elim, (fun h' => nomatch h')⟩
  | loadModel => exact ⟨fun _ => rfl, fun _ => rfl, fun _ => rfl⟩
  | startInference => exact ⟨fun _ => rfl, fun _ => rfl, h.current_configured⟩

/-- In every state reachable from `NewNPUDevice`, an inference is active only with a model
loaded, the telemetry has counted prompts only with a model loaded, and the current model is
the configured model. -/
theorem modelSound_reachable {id : String} {d : NPUDevice} (h : Reachable id d) :
    (d.inferenceActive = true → d.modelLoaded = true) ∧
      (d.telemetry.totalPrompts ≠ 0 → d.modelLoaded = true) ∧
      (d.modelLoaded = true → d.currentModel = d.modelConfig.modelName) := by
  have hs : ModelSound d.modelView :=
    h.inv (fun d => ModelSound d.modelView)
      (show ModelSound (false, false, 0, "", defaultNPUModelConfig.modelName) from
        ⟨(fun h' => nomatch h'), fun h' => (h' rfl).elim, (fun h' => nomatch h')⟩)
      fun _ _ _ _ hs hst => (step_modelWrite hst).sound hs
  exact ⟨hs.inference_loaded, hs.prompts_loaded, hs.current_configured⟩

theorem modelSound_after_load_and_start :
    ∃ d, exec step (newNPUDevice "npu0")
        [.ioCtl npuCmdLoadModel (.modelConfig defaultNPUModelConfig),
          .ioCtl npuCmdStartInf (.sequenceConfig defaultNPUSequenceConfig)] = some d ∧
      Reachable "npu0" d ∧ (d.inferenceActive = true → d.modelLoaded = true) ∧
      (d.telemetry.totalPrompts ≠ 0 → d.modelLoaded = true) ∧
      (d.modelLoaded = true → d.currentModel = d.modelConfig.modelName) := by
  obtain ⟨d, hd⟩ : ∃ d, exec step (newNPUDevice "npu0")
      [.ioCtl npuCmdLoadModel (.modelConfig defaultNPUModelConfig),
        .ioCtl npuCmdStartInf (.sequenceConfig defaultNPUSequenceConfig)] = some d := ⟨_, rfl⟩
  exact ⟨d, hd, reachable_of_exec hd, modelSound_reachable (reachable_of_exec hd)⟩

end Ecco9.Npu
