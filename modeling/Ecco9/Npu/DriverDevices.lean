import Ecco9.Npu.Calls
import Mathlib.Data.List.AList

/-! # The driver's devices

`Load`, `Unload`, `GetDevice` and `ListDevices` of `NPUDriver` over its map of devices. A device is
a pointer, so a caller goes on calling the device it got whether or not the map still holds it. -/

namespace Ecco9.Npu

/-- The devices of `NPUDriver`: those it has created, in order, and its map
`devices map[string]*NPUDevice`, whose pointers are positions in `heap`. Each device keeps its own
clock, started at its creation. The driver's entelechy fields are `NPUDriver`. -/
structure NPUDriverDevices where
  heap : List NPUDevice
  devices : AList fun _ : String => Nat

namespace NPUDriverDevices

/-- The empty map of `NewNPUDriver`. -/
def newNPUDriverDevices : NPUDriverDevices := ⟨[], ∅⟩

variable (nd : NPUDriverDevices)

/-- `Load`: create `npu0` and store it in the map. Its update of the ontological dimension is
not part of the devices. -/
def load : NPUDriverDevices :=
  { heap := nd.heap ++ [newNPUDevice "npu0"], devices := nd.devices.insert "npu0" nd.heap.length }

/-- The loop of `Unload`: `Shutdown` each device of the map in turn and return the first error.
`none` when a `Shutdown` never returns, or for a pointer outside the heap, which no run makes. -/
def shutdownAll : List NPUDevice → List (Σ _ : String, Nat) →
    Option (Except String Unit × List NPUDevice)
  | heap, [] => some (.ok (), heap)
  | heap, ⟨_, p⟩ :: rest =>
    match heap[p]? with
    | none => none
    | some d =>
      match d.shutdown with
      | none => none
      | some (.error e, d) => some (.error e, heap.set p d)
      | some (.ok (), d) => shutdownAll (heap.set p d) rest

/-- `Unload`: shut down the devices of the map, then empty it. -/
def unload : Option (Except String Unit × NPUDriverDevices) :=
  (shutdownAll nd.heap nd.devices.entries).map fun
    | (.error e, heap) => (.error e, { nd with heap })
    | (.ok (), heap) => (.ok (), { heap, devices := ∅ })

/-- `GetDevice`. -/
def getDevice (id : String) : Except String Nat :=
  match nd.devices.lookup id with
  | some p => .ok p
  | none => .error ("NPU device " ++ id ++ " not found")

/-- `ListDevices`, in the map's order where Go's is random. -/
def listDevices : List Nat := nd.devices.entries.map (·.2)

end NPUDriverDevices

/-- What can happen to the driver's devices: `Load`, `Unload`, or a call of a device that a
caller got from `GetDevice` or `ListDevices`. -/
inductive DriverOp where
  | load
  | unload
  | call (device : Nat) (op : Op)

open NPUDriverDevices in
def driverStep (nd : NPUDriverDevices) : DriverOp → Option NPUDriverDevices
  | .load => some nd.load
  | .unload => nd.unload.map (·.2)
  | .call p op =>
    match nd.heap[p]? with
    | some d => (step d op).map fun d => { nd with heap := nd.heap.set p d }
    | none => none

/-- Every state of the driver's devices reached from `NewNPUDriver` by any sequence. -/
def DriverReachable : NPUDriverDevices → Prop :=
  Ecco9.Reachable driverStep (fun _ _ => True) NPUDriverDevices.newNPUDriverDevices

/-! ## `Shutdown` -/

/-- On a free device `Shutdown` returns nil. It leaves a device that was never initialized as it
is; it takes an initialized one offline and powers it off, stopping its inference. -/
theorem NPUDevice.shutdown_of_free {d : NPUDevice} (hmu : d.mu = false) :
    ∃ d', d.shutdown = some (.ok (), d') ∧ d'.initialized = false ∧
      (d.initialized = false → d' = d) ∧
      (d.initialized = true → d'.inferenceActive = false ∧ d'.state.status = .offline ∧
        d'.state.power = .off) := by
  cases hi : d.initialized
  · simp only [NPUDevice.shutdown, NPUDevice.locked_of_free hmu, hi, Bool.not_false, if_true,
      Option.map_some']
    refine ⟨d, ?_, hi, fun _ => rfl, fun h => nomatch h⟩
    cases d; cases hi; cases hmu; rfl
  · simp only [NPUDevice.shutdown, NPUDevice.locked_of_free hmu, hi, Bool.not_true,
      Bool.false_eq_true, if_false, Option.map_some']
    refine ⟨_, rfl, rfl, ?_, fun _ => ?_⟩
    · intro h
      cases h
    · refine ⟨?_, rfl, rfl⟩
      dsimp only
      split_ifs with ha
      · rfl
      · simpa using ha

/-! ## The map -/

namespace NPUDriverDevices

/-- What every reachable state keeps: each device the driver created is reachable by its own
calls, and the map is empty or holds `npu0`, the newest device. -/
structure Sound (nd : NPUDriverDevices) : Prop where
  reachable : ∀ d ∈ nd.heap, Reachable "npu0" d
  devices : nd.devices = ∅ ∨
    0 < nd.heap.length ∧ nd.devices = AList.singleton "npu0" (nd.heap.length - 1)

variable {nd : NPUDriverDevices}

theorem load_sound (h : Sound nd) : Sound nd.load where
  reachable d hd := (List.mem_append.mp hd).elim (h.reachable d) fun hd =>
    List.mem_singleton.mp hd ▸ .start
  devices := .inr ⟨by simp [load], by
    rcases h.devices with h | ⟨-, h⟩ <;> simp [load, h, AList.insert_empty, AList.insert_singleton_eq]⟩

/-- In a sound state `GetDevice` finds `npu0` alone, and finds it at the newest device. -/
theorem getDevice_of_sound (h : Sound nd) (id : String) :
    (id ≠ "npu0" → nd.getDevice id = .error ("NPU device " ++ id ++ " not found")) ∧
      ∀ p, nd.getDevice id = .ok p → id = "npu0" ∧ p + 1 = nd.heap.length := by
  rcases h.devices with h0 | ⟨hpos, h1⟩
  · simp [getDevice, h0]
  · by_cases hid : id = "npu0"
    · subst hid
      refine ⟨fun h => absurd rfl h, fun p hp => ⟨rfl, ?_⟩⟩
      simp only [getDevice, h1, AList.lookup, AList.singleton_entries, List.dlookup_cons_eq] at hp
      cases hp
      omega
    · simp [getDevice, h1, AList.lookup, AList.singleton_entries, List.dlookup_cons_ne, hid]

theorem listDevices_of_sound (h : Sound nd) : nd.listDevices.length ≤ 1 := by
  rcases h.devices with h0 | ⟨-, h0⟩ <;> simp [listDevices, h0, AList.singleton_entries]

theorem Sound.reachable_set {p : Nat} {op : Op} {d d' : NPUDevice} (h : Sound nd) (hd : nd.heap[p]? = some d)
    (hs : step d op = some d') : ∀ x ∈ nd.heap.set p d', Reachable "npu0" x := fun x hx =>
  (List.mem_or_eq_of_mem_set hx).elim (h.reachable x) fun hx =>
    hx ▸ .next (h.reachable d (List.getElem?_mem hd)) trivial hs

/-- In a sound state `Unload` returns nil: with an empty map it changes nothing, and with `npu0`
it shuts down that device. -/
theorem unload_of_sound (h : Sound nd) :
    (nd.devices = ∅ ∧ nd.unload = some (.ok (), ⟨nd.heap, ∅⟩)) ∨
      ∃ d d', nd.devices = AList.singleton "npu0" (nd.heap.length - 1) ∧
        nd.heap[nd.heap.length - 1]? = some d ∧ d.shutdown = some (.ok (), d') ∧
        nd.unload = some (.ok (), ⟨nd.heap.set (nd.heap.length - 1) d', ∅⟩) := by
  rcases h.devices with h0 | ⟨hpos, h1⟩
  · exact .inl ⟨h0, by simp [unload, h0, AList.empty_entries, shutdownAll]⟩
  · obtain ⟨d, hd⟩ : ∃ d, nd.heap[nd.heap.length - 1]? = some d :=
      ⟨_, List.getElem?_eq_getElem (by omega)⟩
    obtain ⟨d', hs, -⟩ := NPUDevice.shutdown_of_free
      (mu_reachable (h.reachable d (List.getElem?_mem hd)))
    exact .inr ⟨d, d', h1, hd, hs, by simp [unload, h1, AList.singleton_entries, shutdownAll, hd, hs]⟩

theorem unload_sound {nd' : NPUDriverDevices} {r} (h : Sound nd) (hu : nd.unload = some (r, nd')) :
    Sound nd' := by
  rcases unload_of_sound h with ⟨-, hu'⟩ | ⟨d, d', -, hd, hs, hu'⟩ <;> rw [hu'] at hu <;> cases hu
  · exact ⟨h.reachable, .inl rfl⟩
  · exact ⟨h.reachable_set hd (show step d .shutdown = some d' by simp [step, hs]), .inl rfl⟩

end NPUDriverDevices

open NPUDriverDevices in
theorem driverStep_sound {nd nd' : NPUDriverDevices} {op : DriverOp} (h : Sound nd)
    (hs : driverStep nd op = some nd') : Sound nd' := by
  cases op with
  | load => cases hs; exact load_sound h
  | unload =>
    obtain ⟨⟨r, _⟩, hu, rfl⟩ := Option.map_eq_some'.mp hs
    exact unload_sound h hu
  | call p op =>
    simp only [driverStep] at hs
    split at hs
    · next d hd =>
      obtain ⟨d', hst, rfl⟩ := Option.map_eq_some'.mp hs
      exact ⟨h.reachable_set hd hst, by simpa using h.devices⟩
    · cases hs

theorem sound_reachable {nd : NPUDriverDevices} (hr : DriverReachable nd) :
    NPUDriverDevices.Sound nd :=
  hr.inv NPUDriverDevices.Sound ⟨fun _ h => (List.not_mem_nil _ h).elim, .inl rfl⟩
    fun _ _ _ _ h hs => driverStep_sound h hs

/-- Every device the driver has created, whether its map still holds it or a later `Load`
replaced it, is in a state its own calls reach from `NewNPUDevice("npu0")`; so what holds of every
run of a device holds of each. `GetDevice` finds no id but `npu0`, and `npu0` is the newest
device; `ListDevices` returns at most one device. -/
theorem driver_devices_reachable {nd : NPUDriverDevices} (hr : DriverReachable nd) :
    (∀ d ∈ nd.heap, Reachable "npu0" d) ∧
      (∀ id, id ≠ "npu0" → nd.getDevice id = .error ("NPU device " ++ id ++ " not found")) ∧
      (∀ p, nd.getDevice "npu0" = .ok p → p + 1 = nd.heap.length) ∧
      nd.listDevices.length ≤ 1 :=
  let h := sound_reachable hr
  ⟨h.reachable, fun id hid => (NPUDriverDevices.getDevice_of_sound h id).1 hid,
    fun p hp => ((NPUDriverDevices.getDevice_of_sound h _).2 p hp).2,
    NPUDriverDevices.listDevices_of_sound h⟩

/-- `Load`, a model loaded and an inference started on `npu0` without `Initialize`, and `Load`
again. -/
def reloadRun : List DriverOp :=
  .load :: loadThenInferCalls.map (.call 0) ++ [.load]

theorem driver_devices_after_reload :
    ∃ nd, exec driverStep NPUDriverDevices.newNPUDriverDevices reloadRun = some nd ∧
      DriverReachable nd ∧ (∀ d ∈ nd.heap, Reachable "npu0" d) ∧
      (∀ id, id ≠ "npu0" → nd.getDevice id = .error ("NPU device " ++ id ++ " not found")) ∧
      (∀ p, nd.getDevice "npu0" = .ok p → p + 1 = nd.heap.length) ∧
      nd.listDevices.length ≤ 1 := by
  obtain ⟨nd, hnd⟩ : ∃ nd, exec driverStep NPUDriverDevices.newNPUDriverDevices reloadRun =
    some nd := ⟨_, rfl⟩
  exact ⟨nd, hnd, reachable_of_exec hnd, driver_devices_reachable (reachable_of_exec hnd)⟩

/-- In every reachable state `Unload` returns nil, empties the map and touches no device but the
one the map holds as `npu0`. `Shutdown` takes that device offline and powers it off if it was
initialized, and leaves it exactly as it was otherwise, an inference running on it included; a
device that a later `Load` replaced stays as it was, initialized or running. -/
theorem unload_reachable {nd : NPUDriverDevices} (hr : DriverReachable nd) :
    ∃ nd', nd.unload = some (.ok (), nd') ∧ nd'.devices = ∅ ∧ nd'.heap.length = nd.heap.length ∧
      ∀ p d, nd.heap[p]? = some d → ∃ d', nd'.heap[p]? = some d' ∧
        (nd.getDevice "npu0" = .ok p → d'.initialized = false ∧ (d.initialized = false → d' = d) ∧
          (d.initialized = true → d'.inferenceActive = false ∧ d'.state.status = .offline ∧
            d'.state.power = .off)) ∧
        (nd.getDevice "npu0" ≠ .ok p → d' = d) := by
  have h := sound_reachable hr
  rcases NPUDriverDevices.unload_of_sound h with ⟨h0, hu⟩ | ⟨d₀, d₀', h1, hd₀, hs₀, hu⟩
  · refine ⟨_, hu, rfl, rfl, fun p d hd => ⟨d, hd, fun hp => ?_, fun _ => rfl⟩⟩
    simp [NPUDriverDevices.getDevice, h0] at hp
  · refine ⟨_, hu, rfl, List.length_set .., fun p d hd => ?_⟩
    have hget : nd.getDevice "npu0" = .ok (nd.heap.length - 1) := by
      simp [NPUDriverDevices.getDevice, h1, AList.lookup, AList.singleton_entries]
    rw [hget]
    by_cases hp : nd.heap.length - 1 = p
    · subst hp
      obtain rfl : d₀ = d := Option.some.inj (hd₀.symm.trans hd)
      obtain ⟨d₁, hs₁, hoff⟩ := NPUDevice.shutdown_of_free
        (mu_reachable (h.reachable d₀ (List.getElem?_mem hd₀)))
      obtain rfl : d₀' = d₁ := congrArg Prod.snd (Option.some.inj (hs₀.symm.trans hs₁))
      exact ⟨d₀', by simp [List.getElem?_set, List.getElem?_eq_some_iff.mp hd₀ |>.1], fun _ => hoff,
        fun hne => absurd rfl hne⟩
    · refine ⟨d, by rw [List.getElem?_set_ne hp, hd], fun he => absurd (Except.ok.inj he) hp,
        fun _ => rfl⟩

theorem unload_after_reload :
    ∃ nd nd', exec driverStep NPUDriverDevices.newNPUDriverDevices reloadRun = some nd ∧
      DriverReachable nd ∧ nd.unload = some (.ok (), nd') ∧ nd'.devices = ∅ ∧
      nd'.heap.length = nd.heap.length ∧
      ∀ p d, nd.heap[p]? = some d → ∃ d', nd'.heap[p]? = some d' ∧
        (nd.getDevice "npu0" = .ok p → d'.initialized = false ∧ (d.initialized = false → d' = d) ∧
          (d.initialized = true → d'.inferenceActive = false ∧ d'.state.status = .offline ∧
            d'.state.power = .off)) ∧
        (nd.getDevice "npu0" ≠ .ok p → d' = d) := by
  obtain ⟨nd, hnd⟩ : ∃ nd, exec driverStep NPUDriverDevices.newNPUDriverDevices reloadRun =
    some nd := ⟨_, rfl⟩
  obtain ⟨nd', h⟩ := unload_reachable (reachable_of_exec hnd)
  exact ⟨nd, nd', hnd, reachable_of_exec hnd, h⟩

end Ecco9.Npu
