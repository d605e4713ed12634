import Ecco9.V4.State
import Mathlib.Tactic.Positivity
import Mathlib.Algebra.Order.Field.Basic
import Mathlib.Tactic.NormNum
import Mathlib.Tactic.Linarith
import Mathlib.Tactic.Ring

/-! # The load and fatigue model of the iteration-4 scheduler

`calculateCurrentLoad` clamps the load to at most 1, and the recovery at the end of a dream
floors the fatigue at 0, but the monitoring tick adds to the fatigue with no ceiling. So every
reachable state has its load in [0, 1] and its fatigue nonnegative, and nothing bounds the
fatigue above: while a discussion keeps `shouldInitiateRest` false, it grows without limit. -/

namespace Ecco9.V4

open AutonomousConsciousnessV4

/-! ## The load -/

theorem calculateCurrentLoad_nonneg (ac : AutonomousConsciousnessV4) :
    0 ≤ ac.calculateCurrentLoad := by
  simp only [calculateCurrentLoad]
  split_ifs <;> positivity

theorem calculateCurrentLoad_le_one (ac : AutonomousConsciousnessV4) :
    ac.calculateCurrentLoad ≤ 1 := by
  simp only [calculateCurrentLoad]
  split_ifs <;> linarith

/-! ## What a step does to the load manager -/

/-- The load manager changes only by `Wake`, a monitoring tick, an integration tick or a dream's
recovery; every other step leaves it as it is. -/
theorem step_loadManager {ac ac' : AutonomousConsciousnessV4} {e : Event}
    (hs : step ac e = some ac') :
    ac'.loadManager = ac.loadManager ∨ ac'.loadManager = ac.wake.loadManager ∨
      ac'.loadManager = ac.cognitiveLoadMonitoringTick.loadManager ∨
      (∃ t, ac'.loadManager = (ac.consciousnessIntegrationTick t).loadManager) ∨
      ∃ d, ac'.loadManager = ac.loadManager.recover d := by
  cases e <;> simp only [step, Option.some.injEq] at hs
  all_goals repeat' (split at hs <;> try simp only [Option.some.injEq, reduceCtorEq] at hs)
  all_goals subst hs; simp [wake_loadManager]
  exact .inr (.inr (.inr (.inl ⟨_, rfl⟩)))

/-! ## The bounds every reachable state keeps -/

/-- What the load model keeps: the load in [0, 1], the fatigue and its rate nonnegative. -/
structure LoadBounds (lm : CognitiveLoadManager) : Prop where
  load_nonneg : 0 ≤ lm.currentLoad
  load_le_one : lm.currentLoad ≤ 1
  fatigue_nonneg : 0 ≤ lm.fatigueLevel
  rate_nonneg : 0 ≤ lm.fatigueRate

namespace LoadBounds

variable {ac : AutonomousConsciousnessV4} (h : LoadBounds ac.loadManager)
include h

theorem recover (d : Int) : LoadBounds (ac.loadManager.recover d) := by
  refine ⟨h.1, h.2, ?_, h.4⟩
  simp only [CognitiveLoadManager.recover]
  split_ifs with hneg
  · exact le_rfl
  · exact le_of_not_lt hneg

theorem wake : LoadBounds ac.wake.loadManager := by
  rw [wake_loadManager]
  split_ifs
  · exact h
  · exact ⟨h.1, h.2, mul_nonneg h.3 (by norm_num), h.4⟩

theorem monitoring : LoadBounds ac.cognitiveLoadMonitoringTick.loadManager := by
  have hf := add_nonneg h.3 (mul_nonneg h.1 h.4)
  simp only [cognitiveLoadMonitoringTick, CognitiveLoadManager.recordSnapshot]
  split_ifs <;> first | exact ⟨h.1, h.2, hf, h.4⟩ | exact ⟨h.1, h.2, h.3, h.4⟩

theorem integration (thought : Option Thought) :
    LoadBounds (ac.consciousnessIntegrationTick thought).loadManager := by
  simp only [consciousnessIntegrationTick]
  split_ifs
  · exact h
  · cases thought <;>
      exact ⟨calculateCurrentLoad_nonneg _, calculateCurrentLoad_le_one _, h.3, h.4⟩

end LoadBounds

theorem loadBounds_step {ac ac' : AutonomousConsciousnessV4} {e : Event}
    (h : LoadBounds ac.loadManager) (hs : step ac e = some ac') : LoadBounds ac'.loadManager := by
  rcases step_loadManager hs with h' | h' | h' | ⟨t, h'⟩ | ⟨d, h'⟩ <;> rw [h']
  exacts [h, h.wake, h.monitoring, h.integration t, h.recover d]

theorem loadBounds_reachable {ac : AutonomousConsciousnessV4} (hr : Reachable ac) :
    LoadBounds ac.loadManager :=
  hr.inv (fun ac => LoadBounds ac.loadManager)
    ⟨le_rfl, by norm_num [newAutonomousConsciousnessV4], le_rfl, by
      norm_num [newAutonomousConsciousnessV4]⟩
    fun _ _ _ _ h hs => loadBounds_step h hs

/-! ## A run of monitoring ticks -/

/-- `n` ticks of a monitoring loop while awake touch only the load manager, and add `n` times the
load times the rate to the fatigue. -/
theorem exec_monitoringTicks {i : Nat} (n : Nat) {ac : AutonomousConsciousnessV4}
    (hi : ac.loops[i]? = some .cognitiveLoadMonitoring) (ha : ac.awake = true) :
    ∃ lm : CognitiveLoadManager,
      exec step ac (List.replicate n (.monitoringTick i)) = some { ac with loadManager := lm } ∧
      lm.currentLoad = ac.loadManager.currentLoad ∧ lm.fatigueRate = ac.loadManager.fatigueRate ∧
      lm.fatigueLevel = ac.loadManager.fatigueLevel +
        n * (ac.loadManager.currentLoad * ac.loadManager.fatigueRate) := by
  induction n generalizing ac with
  | zero => exact ⟨ac.loadManager, rfl, rfl, rfl, by simp⟩
  | succ n ih =>
      obtain ⟨lm, h, hl, hr, hf⟩ := @ih ac.cognitiveLoadMonitoringTick
        (by simpa [cognitiveLoadMonitoringTick] using hi)
        (by simpa [cognitiveLoadMonitoringTick] using ha)
      refine ⟨lm, by simpa [List.replicate_succ, step, hi, cognitiveLoadMonitoringTick] using h,
        by simp [hl, cognitiveLoadMonitoringTick, CognitiveLoadManager.recordSnapshot, ha],
        by simp [hr, cognitiveLoadMonitoringTick, CognitiveLoadManager.recordSnapshot, ha], ?_⟩
      rw [hf]
      simp only [cognitiveLoadMonitoringTick, ha, CognitiveLoadManager.recordSnapshot, ite_true]
      push_cast
      ring

/-- Start with every component succeeding, open a discussion and a practice session, and let
the integration loop set the load to 0.8; then 126 monitoring ticks follow. -/
def fatigueRun : List Event :=
  startCall 0 ++ [.setDiscussions true, .setPracticing true, .integrationTick 0 none] ++
    List.replicate 126 (.monitoringTick 1)

/-- The run ends with a fatigue of 126/125. -/
theorem exec_fatigueRun : ∃ ac, exec step newAutonomousConsciousnessV4 fatigueRun = some ac ∧
    ac.loadManager.fatigueLevel = 126 / 125 := by
  obtain ⟨ac₁, h₁, hi, ha, hf⟩ : ∃ ac₁, exec step newAutonomousConsciousnessV4
      (startCall 0 ++ [.setDiscussions true, .setPracticing true, .integrationTick 0 none]) =
        some ac₁ ∧ ac₁.loops[1]? = some .cognitiveLoadMonitoring ∧ ac₁.awake = true ∧
      ac₁.loadManager.fatigueLevel + 126 * (ac₁.loadManager.currentLoad *
        ac₁.loadManager.fatigueRate) = 126 / 125 := by
    refine ⟨_, rfl, ?_⟩
    simp [startCall, step, newAutonomousConsciousnessV4, components, launchedLoops, startBegin,
      wake, consciousnessIntegrationTick, calculateCurrentLoad, CognitiveLoadManager.updateLoad]
    norm_num
  obtain ⟨lm, h₂, -, -, hf₂⟩ := exec_monitoringTicks 126 hi ha
  refine ⟨_, by rw [fatigueRun, exec_append, h₁, Option.some_bind, h₂], ?_⟩
  rw [hf₂, ← hf]
  push_cast
  rfl

/-! ## Bounds on the load and the fatigue -/

/-- In every reachable state the cognitive load lies in [0, 1] and the fatigue is nonnegative. -/
theorem load_bounded_fatigue_nonneg {ac : AutonomousConsciousnessV4} (hr : Reachable ac) :
    0 ≤ ac.loadManager.currentLoad ∧ ac.loadManager.currentLoad ≤ 1 ∧
      0 ≤ ac.loadManager.fatigueLevel :=
  let h := loadBounds_reachable hr
  ⟨h.load_nonneg, h.load_le_one, h.fatigue_nonneg⟩

theorem load_bounded_fatigue_nonneg_after_ticks :
    ∃ ac, exec step newAutonomousConsciousnessV4 fatigueRun = some ac ∧ Reachable ac ∧
      0 ≤ ac.loadManager.currentLoad ∧ ac.loadManager.currentLoad ≤ 1 ∧
      0 ≤ ac.loadManager.fatigueLevel :=
  let ⟨ac, h, _⟩ := exec_fatigueRun
  ⟨ac, h, reachable_of_exec h, load_bounded_fatigue_nonneg (reachable_of_exec h)⟩

/-! ## The fatigue has no ceiling -/

theorem fatigue_exceeds_one :
    ¬ ∀ ac, Reachable ac → 0 ≤ ac.loadManager.currentLoad ∧ ac.loadManager.currentLoad ≤ 1 ∧
      0 ≤ ac.loadManager.fatigueLevel ∧ ac.loadManager.fatigueLevel ≤ 1 := by
  intro hall
  obtain ⟨ac, h, hf⟩ := exec_fatigueRun
  have hle := (hall ac (reachable_of_exec h)).2.2.2
  rw [hf] at hle
  norm_num at hle

end Ecco9.V4
