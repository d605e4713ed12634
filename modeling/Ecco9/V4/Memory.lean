import Ecco9.V4.Load
import Mathlib.Data.List.DropRight

/-! # The scheduler's bounded buffers

`processEmergedThought` appends a thought to the working memory and drops the oldest once the
buffer passes its capacity; `cognitiveLoadMonitoring` does the same to the load history with a
bound of 1000. Both are one operation, `boundedAppend`, whose runs keep exactly the last `bound`
elements. So the buffer never passes its capacity, and the memory term of `calculateCurrentLoad`
never passes 0.3. -/

namespace Ecco9.V4

/-- Append, then drop the oldest element once there are more than `bound`. -/
def boundedAppend {α : Type} (bound : Nat) (l : List α) (x : α) : List α :=
  let l := l ++ [x]
  if l.length > bound then l.tail else l

@[simp] theorem WorkingMemory.add_buffer (wm : WorkingMemory) (t : Thought) :
    (wm.add t).buffer = boundedAppend wm.capacity wm.buffer t := rfl

@[simp] theorem WorkingMemory.add_capacity (wm : WorkingMemory) (t : Thought) :
    (wm.add t).capacity = wm.capacity := rfl

@[simp] theorem CognitiveLoadManager.recordSnapshot_loadHistory (lm : CognitiveLoadManager)
    (s : LoadSnapshot) : (lm.recordSnapshot s).loadHistory = boundedAppend 1000 lm.loadHistory s :=
  rfl

section Window

variable {α : Type}

theorem rtake_of_length_le {l : List α} {n : Nat} (h : l.length ≤ n) : l.rtake n = l := by
  rw [List.rtake, Nat.sub_eq_zero_of_le h, List.drop_zero]

/-- Appending to the last `bound` elements keeps the last `bound` of the longer list. -/
theorem boundedAppend_rtake (bound : Nat) (l : List α) (x : α) :
    boundedAppend bound (l.rtake bound) x = (l ++ [x]).rtake bound := by
  cases bound with
  | zero => simp [boundedAppend]
  | succ n =>
    rw [List.rtake_concat_succ]
    simp only [boundedAppend]
    split_ifs with h
    · have hn : n + 1 ≤ l.length := by simp [List.rtake] at h; omega
      rw [List.tail_append_of_ne_nil (by simp [List.rtake]; omega), List.rtake, List.rtake,
        List.tail_drop, show l.length - (n + 1) + 1 = l.length - n by omega]
    · have hn : l.length ≤ n := by simp [List.rtake] at h; omega
      rw [rtake_of_length_le hn, rtake_of_length_le (by omega)]

/-- From at most `bound` elements, a run of `boundedAppend` keeps the last `bound` elements of
everything appended. -/
theorem foldl_boundedAppend (bound : Nat) {l : List α} (hl : l.length ≤ bound) (xs : List α) :
    xs.foldl (boundedAppend bound) l = (l ++ xs).rtake bound := by
  induction xs using List.reverseRecOn with
  | nil => rw [List.foldl_nil, List.append_nil, rtake_of_length_le hl]
  | append_singleton xs x ih =>
    rw [List.foldl_append, ih, List.foldl_cons, List.foldl_nil, boundedAppend_rtake,
      List.append_assoc]

theorem length_boundedAppend_le {bound : Nat} {l : List α} (hl : l.length ≤ bound) (x : α) :
    (boundedAppend bound l x).length ≤ bound := by
  simp only [boundedAppend]
  split_ifs with h <;> simp at h ⊢ <;> omega

end Window

namespace AutonomousConsciousnessV4

/-- The memory term of `calculateCurrentLoad`. -/
def memoryLoad (ac : AutonomousConsciousnessV4) : ℚ :=
  (ac.workingMemory.buffer.length : ℚ) / (ac.workingMemory.capacity : ℚ) * (3 / 10)

theorem calculateCurrentLoad_eq (ac : AutonomousConsciousnessV4) :
    ac.calculateCurrentLoad =
      let totalLoad := 1 / 10 + ac.memoryLoad + (if ac.discussionsActive then 4 / 10 else 0) +
        (if ac.practicing then 3 / 10 else 0)
      if totalLoad > 1 then 1 else totalLoad := rfl

theorem memoryLoad_le {ac : AutonomousConsciousnessV4}
    (h : ac.workingMemory.buffer.length ≤ ac.workingMemory.capacity) : ac.memoryLoad ≤ 3 / 10 := by
  unfold memoryLoad
  rcases Nat.eq_zero_or_pos ac.workingMemory.capacity with hc | hc
  · norm_num [hc]
  · have : (ac.workingMemory.buffer.length : ℚ) / ac.workingMemory.capacity ≤ 1 :=
      (div_le_one (by exact_mod_cast hc)).mpr (by exact_mod_cast h)
    linarith

/-- The snapshot a monitoring tick records: the time, the load and the fatigue after the tick. -/
def monitoringSnapshot (ac : AutonomousConsciousnessV4) : LoadSnapshot :=
  ⟨ac.now, ac.loadManager.currentLoad, ac.cognitiveLoadMonitoringTick.loadManager.fatigueLevel⟩

theorem cognitiveLoadMonitoringTick_loadHistory (ac : AutonomousConsciousnessV4) :
    ac.cognitiveLoadMonitoringTick.loadManager.loadHistory =
      boundedAppend 1000 ac.loadManager.loadHistory ac.monitoringSnapshot := by
  simp only [cognitiveLoadMonitoringTick, monitoringSnapshot]
  split_ifs <;> rfl

/-- The snapshots of `n` monitoring ticks, in order. -/
def monitoringSnapshots (ac : AutonomousConsciousnessV4) (n : Nat) : List LoadSnapshot :=
  (List.range n).map fun k => (cognitiveLoadMonitoringTick^[k] ac).monitoringSnapshot

theorem processEmergedThought_foldl_buffer (thoughts : List Thought) (ac : AutonomousConsciousnessV4) :
    (thoughts.foldl processEmergedThought ac).workingMemory.buffer =
      thoughts.foldl (boundedAppend ac.workingMemory.capacity) ac.workingMemory.buffer := by
  induction thoughts generalizing ac with
  | nil => rfl
  | cons t thoughts ih => exact ih (ac.processEmergedThought t)

theorem monitoringTicks_loadHistory (ac : AutonomousConsciousnessV4)
    (h : ac.loadManager.loadHistory.length ≤ 1000) (n : Nat) :
    (cognitiveLoadMonitoringTick^[n] ac).loadManager.loadHistory =
      (ac.loadManager.loadHistory ++ ac.monitoringSnapshots n).rtake 1000 := by
  induction n with
  | zero => simp [monitoringSnapshots, rtake_of_length_le h]
  | succ n ih =>
    rw [Function.iterate_succ_apply', cognitiveLoadMonitoringTick_loadHistory, ih,
      boundedAppend_rtake]
    simp only [monitoringSnapshots, List.range_succ, List.map_append, List.map_singleton,
      List.append_assoc]

@[simp] theorem wake_workingMemory (ac : AutonomousConsciousnessV4) :
    ac.wake.workingMemory = ac.workingMemory := by unfold wake; split <;> rfl

@[simp] theorem rest_workingMemory (ac : AutonomousConsciousnessV4) :
    ac.rest.workingMemory = ac.workingMemory := by unfold rest; split <;> rfl

@[simp] theorem startBegin_workingMemory (ac : AutonomousConsciousnessV4) :
    ac.startBegin.workingMemory = ac.workingMemory := by unfold startBegin; split <;> rfl

@[simp] theorem stopBegin_workingMemory (ac : AutonomousConsciousnessV4) :
    ac.stopBegin.workingMemory = ac.workingMemory := by unfold stopBegin; split <;> rfl

@[simp] theorem cognitiveLoadMonitoringTick_workingMemory (ac : AutonomousConsciousnessV4) :
    ac.cognitiveLoadMonitoringTick.workingMemory = ac.workingMemory := rfl

theorem consciousnessIntegrationTick_workingMemory (ac : AutonomousConsciousnessV4)
    (thought : Option Thought) :
    (ac.consciousnessIntegrationTick thought).workingMemory = ac.workingMemory ∨
      ∃ t, (ac.consciousnessIntegrationTick thought).workingMemory = ac.workingMemory.add t := by
  unfold consciousnessIntegrationTick
  split
  · exact .inl rfl
  · cases thought with
    | none => exact .inl rfl
    | some t => exact .inr ⟨t, rfl⟩

end AutonomousConsciousnessV4

open AutonomousConsciousnessV4 in
/-- Only an integration tick writes the working memory, by adding one thought. -/
theorem step_workingMemory {ac ac' : AutonomousConsciousnessV4} {e : Event}
    (hs : step ac e = some ac') :
    ac'.workingMemory = ac.workingMemory ∨ ∃ t, ac'.workingMemory = ac.workingMemory.add t := by
  cases e <;> simp only [step, Option.some.injEq] at hs
  case integrationTick i thought =>
    split at hs
    · cases hs
      exact consciousnessIntegrationTick_workingMemory ac thought
    · cases hs
  all_goals repeat' (split at hs <;> try simp only [Option.some.injEq, reduceCtorEq] at hs)
  all_goals subst hs; simp

open AutonomousConsciousnessV4 in
/-- Only a monitoring tick lengthens the load history, and never past 1000. -/
theorem step_loadHistory_length {ac ac' : AutonomousConsciousnessV4} {e : Event}
    (h : ac.loadManager.loadHistory.length ≤ 1000) (hs : step ac e = some ac') :
    ac'.loadManager.loadHistory.length ≤ 1000 := by
  rcases step_loadManager hs with h' | h' | h' | ⟨t, h'⟩ | ⟨d, h'⟩ <;> rw [h']
  · exact h
  · rw [wake_loadManager]
    split <;> exact h
  · rw [cognitiveLoadMonitoringTick_loadHistory]
    exact length_boundedAppend_le h _
  · unfold consciousnessIntegrationTick
    split
    · exact h
    · cases t <;> exact h
  · exact h

/-- In every reachable state the working memory holds at most its capacity and the load history
at most 1000 snapshots. -/
theorem buffers_bounded_reachable {ac : AutonomousConsciousnessV4} (hr : Reachable ac) :
    ac.workingMemory.buffer.length ≤ ac.workingMemory.capacity ∧
      ac.loadManager.loadHistory.length ≤ 1000 :=
  hr.inv (fun ac => ac.workingMemory.buffer.length ≤ ac.workingMemory.capacity ∧
      ac.loadManager.loadHistory.length ≤ 1000)
    ⟨by simp [newAutonomousConsciousnessV4], by simp [newAutonomousConsciousnessV4]⟩
    fun _ _ _ _ ⟨hb, hl⟩ hs => ⟨by
      rcases step_workingMemory hs with h | ⟨t, h⟩ <;> rw [h]
      exacts [hb, length_boundedAppend_le hb t], step_loadHistory_length hl hs⟩

open AutonomousConsciousnessV4 in
/-- From an empty working memory, the thoughts passed to `processEmergedThought` leave in it the
last `capacity` of them in order; from an empty history, `n` monitoring ticks leave in it the last
1000 of their snapshots in order. In every reachable state both stay within their bounds, so the
memory term of `calculateCurrentLoad` is at most 0.3. -/
theorem bounded_windows :
    (∀ (ac : AutonomousConsciousnessV4) (thoughts : List Thought), ac.workingMemory.buffer = [] →
      (thoughts.foldl processEmergedThought ac).workingMemory.buffer =
        thoughts.rtake ac.workingMemory.capacity) ∧
    (∀ (ac : AutonomousConsciousnessV4) (n : Nat), ac.loadManager.loadHistory = [] →
      (cognitiveLoadMonitoringTick^[n] ac).loadManager.loadHistory =
        (ac.monitoringSnapshots n).rtake 1000) ∧
    (∀ ac : AutonomousConsciousnessV4, Reachable ac →
      ac.workingMemory.buffer.length ≤ ac.workingMemory.capacity ∧
        ac.loadManager.loadHistory.length ≤ 1000 ∧ ac.memoryLoad ≤ 3 / 10) := by
  refine ⟨fun ac thoughts h => ?_, fun ac n h => ?_, fun ac hr => ?_⟩
  · rw [processEmergedThought_foldl_buffer, h,
      foldl_boundedAppend _ (Nat.zero_le _) thoughts, List.nil_append]
  · rw [monitoringTicks_loadHistory ac (by simp [h]) n, h, List.nil_append]
  · obtain ⟨hb, hl⟩ := buffers_bounded_reachable hr
    exact ⟨hb, hl, memoryLoad_le hb⟩

open AutonomousConsciousnessV4 in
theorem bounded_windows_of_new :
    newAutonomousConsciousnessV4.workingMemory.buffer = [] ∧
      newAutonomousConsciousnessV4.loadManager.loadHistory = [] ∧
      (∀ thoughts : List Thought,
        (thoughts.foldl processEmergedThought newAutonomousConsciousnessV4).workingMemory.buffer =
          thoughts.rtake newAutonomousConsciousnessV4.workingMemory.capacity) ∧
      (∀ n : Nat, (cognitiveLoadMonitoringTick^[n] newAutonomousConsciousnessV4).loadManager.loadHistory =
        (newAutonomousConsciousnessV4.monitoringSnapshots n).rtake 1000) ∧
      ∃ ac, exec step newAutonomousConsciousnessV4 fatigueRun = some ac ∧ Reachable ac ∧
        ac.workingMemory.buffer.length ≤ ac.workingMemory.capacity ∧
        ac.loadManager.loadHistory.length ≤ 1000 ∧ ac.memoryLoad ≤ 3 / 10 :=
  let ⟨ac, h, _⟩ := exec_fatigueRun
  ⟨rfl, rfl, fun thoughts => bounded_windows.1 _ thoughts rfl,
    fun n => bounded_windows.2.1 _ n rfl,
    ac, h, reachable_of_exec h, bounded_windows.2.2 ac (reachable_of_exec h)⟩

end Ecco9.V4
