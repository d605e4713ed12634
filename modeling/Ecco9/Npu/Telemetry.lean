import Ecco9.Npu.Hardware
import Mathlib.Algebra.Order.Field.Rat
import Mathlib.Algebra.BigOperators.Group.List
import Mathlib.Tactic.Linarith
import Mathlib.Tactic.Ring

/-! # The NPU telemetry over a sequence of calls

`UpdateTokenGeneration` keeps the peak rate as a running maximum, which is exact over any sequence
of calls. It keeps the average as a running mean whose count is `TotalPrompts`, the number of
`UpdatePrompt` calls, not the number of generations it has averaged. So the average is the mean
of the rates only while prompts and generations come in pairs. -/

namespace Ecco9.Npu

/-- A call on the telemetry: `UpdatePrompt` at an instant, or `UpdateTokenGeneration`. -/
inductive TelemetryCall where
  | updatePrompt (promptTokens : UInt64) (now : Int)
  | updateTokenGeneration (tokensGenerated : UInt64) (duration : Int)

namespace TelemetryCall

/-- The call's effect. -/
def apply (t : NPUTelemetry) : TelemetryCall → NPUTelemetry
  | updatePrompt p now => t.updatePrompt p now
  | updateTokenGeneration g d => t.updateTokenGeneration g d

/-- The rate a generation of positive duration reports; other calls report none. -/
def rate : TelemetryCall → Option ℚ
  | updatePrompt _ _ => none
  | updateTokenGeneration g d =>
    if NPUTelemetry.seconds d > 0 then some ((g.toNat : ℚ) / NPUTelemetry.seconds d) else none

end TelemetryCall

/-- The telemetry after the calls, from a fresh one. -/
def runTelemetry (calls : List TelemetryCall) : NPUTelemetry :=
  calls.foldl TelemetryCall.apply newNPUTelemetry

/-- The rates of the calls' generations of positive duration, in order. -/
def rates (calls : List TelemetryCall) : List ℚ :=
  calls.filterMap TelemetryCall.rate

namespace NPUTelemetry

variable (t : NPUTelemetry)

@[simp] theorem updatePrompt_peakTokensPerSecond (p : UInt64) (now : Int) :
    (t.updatePrompt p now).peakTokensPerSecond = t.peakTokensPerSecond := rfl

@[simp] theorem updatePrompt_averageTokensPerSecond (p : UInt64) (now : Int) :
    (t.updatePrompt p now).averageTokensPerSecond = t.averageTokensPerSecond := rfl

@[simp] theorem updatePrompt_totalPrompts (p : UInt64) (now : Int) :
    (t.updatePrompt p now).totalPrompts = t.totalPrompts + 1 := rfl

theorem updateTokenGeneration_peakTokensPerSecond (g : UInt64) (d : Int) :
    (t.updateTokenGeneration g d).peakTokensPerSecond =
      if seconds d > 0 then max t.peakTokensPerSecond ((g.toNat : ℚ) / seconds d)
      else t.peakTokensPerSecond := by
  unfold updateTokenGeneration
  by_cases h : seconds d > 0
  · simp only [h, if_true, apply_ite NPUTelemetry.peakTokensPerSecond, max_def]
    split_ifs <;> first | rfl | linarith
  · simp only [h, if_false]

theorem updateTokenGeneration_averageTokensPerSecond (g : UInt64) (d : Int) :
    (t.updateTokenGeneration g d).averageTokensPerSecond =
      if seconds d > 0 then
        if t.totalPrompts > 0 then
          (t.averageTokensPerSecond * ((t.totalPrompts - 1).toNat : ℚ) + (g.toNat : ℚ) / seconds d) /
            (t.totalPrompts.toNat : ℚ)
        else (g.toNat : ℚ) / seconds d
      else t.averageTokensPerSecond := by
  unfold updateTokenGeneration
  dsimp only
  split_ifs <;> rfl

@[simp] theorem updateTokenGeneration_totalPrompts (g : UInt64) (d : Int) :
    (t.updateTokenGeneration g d).totalPrompts = t.totalPrompts := by
  unfold updateTokenGeneration
  dsimp only
  split_ifs <;> rfl

end NPUTelemetry

/-- Over any calls, the peak is the running maximum of the rates. -/
theorem foldl_peakTokensPerSecond (calls : List TelemetryCall) (t : NPUTelemetry) :
    (calls.foldl TelemetryCall.apply t).peakTokensPerSecond =
      (rates calls).foldl max t.peakTokensPerSecond := by
  induction calls generalizing t with
  | nil => rfl
  | cons c calls ih =>
    rw [List.foldl_cons, ih]
    cases c with
    | updatePrompt p now => rfl
    | updateTokenGeneration g d =>
      simp only [rates, List.filterMap_cons, TelemetryCall.rate, TelemetryCall.apply,
        NPUTelemetry.updateTokenGeneration_peakTokensPerSecond]
      split_ifs <;> rfl

/-! ## The average -/

/-- An inference as the telemetry sees it: its prompt, then its generation. -/
structure Inference where
  promptTokens : UInt64
  start : Int
  tokensGenerated : UInt64
  duration : Int

/-- The inference's two calls. -/
def Inference.calls (i : Inference) : List TelemetryCall :=
  [.updatePrompt i.promptTokens i.start, .updateTokenGeneration i.tokensGenerated i.duration]

/-- One inference of positive duration adds a prompt and moves the running mean by its rate. -/
theorem inference_mean_step (t : NPUTelemetry) (i : Inference)
    (hpos : NPUTelemetry.seconds i.duration > 0) (hP : t.totalPrompts.toNat + 1 < 2 ^ 64) :
    (i.calls.foldl TelemetryCall.apply t).totalPrompts.toNat = t.totalPrompts.toNat + 1 ∧
      (i.calls.foldl TelemetryCall.apply t).averageTokensPerSecond * (t.totalPrompts.toNat + 1) =
        t.averageTokensPerSecond * t.totalPrompts.toNat +
          (i.tokensGenerated.toNat : ℚ) / NPUTelemetry.seconds i.duration := by
  have hP₁ : (t.totalPrompts + 1).toNat = t.totalPrompts.toNat + 1 := by
    rw [UInt64.toNat, UInt64.add_def, BitVec.toNat_add, show (UInt64.toBitVec 1).toNat = 1 from rfl]
    exact Nat.mod_eq_of_lt hP
  have hpos₁ : t.totalPrompts + 1 > 0 := show 0 < (t.totalPrompts + 1).toNat by omega
  have hsub : (t.totalPrompts + 1 - 1).toNat = t.totalPrompts.toNat := by
    rw [UInt64.toNat_sub_of_le _ _ (show 1 ≤ (t.totalPrompts + 1).toNat by omega), hP₁]
    rfl
  simp only [Inference.calls, List.foldl_cons, List.foldl_nil, TelemetryCall.apply,
    NPUTelemetry.updateTokenGeneration_totalPrompts, NPUTelemetry.updatePrompt_totalPrompts,
    NPUTelemetry.updateTokenGeneration_averageTokensPerSecond,
    NPUTelemetry.updatePrompt_averageTokensPerSecond, hpos, hpos₁, if_true, hP₁, hsub]
  refine ⟨trivial, ?_⟩
  push_cast
  exact div_mul_cancel₀ _ (by positivity)

/-- The rate of an inference's generation. -/
def Inference.rate (i : Inference) : ℚ := (i.tokensGenerated.toNat : ℚ) / NPUTelemetry.seconds i.duration

theorem rates_inference_calls (i : Inference) (hpos : NPUTelemetry.seconds i.duration > 0) :
    rates i.calls = [i.rate] := by
  simp [rates, Inference.calls, TelemetryCall.rate, Inference.rate, hpos]

/-- The rates of inferences of positive duration are theirs, one each. -/
theorem rates_inferences (infs : List Inference)
    (hpos : ∀ i ∈ infs, NPUTelemetry.seconds i.duration > 0) :
    rates (infs.flatMap Inference.calls) = infs.map Inference.rate := by
  induction infs with
  | nil => rfl
  | cons i infs ih =>
    rw [List.flatMap_cons, rates, List.filterMap_append, ← rates, ← rates,
      rates_inference_calls i (hpos i (List.mem_cons_self i infs)),
      ih (fun j hj => hpos j (List.mem_cons_of_mem i hj)), List.map_cons, List.singleton_append]

/-- Over inferences of positive duration, `TotalPrompts` counts them and the running mean times
the count is the sum of their rates. -/
theorem inferences_mean (infs : List Inference) (t : NPUTelemetry)
    (hpos : ∀ i ∈ infs, NPUTelemetry.seconds i.duration > 0)
    (hP : t.totalPrompts.toNat + infs.length < 2 ^ 64) :
    ((infs.flatMap Inference.calls).foldl TelemetryCall.apply t).totalPrompts.toNat =
        t.totalPrompts.toNat + infs.length ∧
      ((infs.flatMap Inference.calls).foldl TelemetryCall.apply t).averageTokensPerSecond *
          (t.totalPrompts.toNat + infs.length) =
        t.averageTokensPerSecond * t.totalPrompts.toNat + (infs.map Inference.rate).sum := by
  induction infs generalizing t with
  | nil => simp [rates]
  | cons i infs ih =>
    have hi := hpos i (List.mem_cons_self i infs)
    rw [List.length_cons] at hP ⊢
    obtain ⟨hP₁, havg₁⟩ := inference_mean_step t i hi (by omega)
    obtain ⟨hP₂, havg₂⟩ := ih (i.calls.foldl TelemetryCall.apply t)
      (fun j hj => hpos j (List.mem_cons_of_mem i hj)) (by omega)
    rw [hP₁] at hP₂ havg₂
    rw [List.flatMap_cons, List.foldl_append, List.map_cons, List.sum_cons]
    refine ⟨by omega, ?_⟩
    push_cast at havg₂ ⊢
    rw [show (t.totalPrompts.toNat : ℚ) + (infs.length + 1) = t.totalPrompts.toNat + 1 + infs.length
      by ring, havg₂, havg₁, Inference.rate]
    ring

/-- On a fresh telemetry the peak is the largest rate of a generation of positive duration (0 if
there is none), over any sequence of calls. The average is the mean of those rates when the calls
come as prompt-and-generation pairs of positive duration, fewer than `2^64` of them. -/
theorem telemetry_peak_and_paired_mean :
    (∀ calls : List TelemetryCall,
      (runTelemetry calls).peakTokensPerSecond = (rates calls).foldl max 0) ∧
    (∀ infs : List Inference, (∀ i ∈ infs, NPUTelemetry.seconds i.duration > 0) →
      infs.length < 2 ^ 64 →
      (runTelemetry (infs.flatMap Inference.calls)).averageTokensPerSecond =
        (rates (infs.flatMap Inference.calls)).sum / (rates (infs.flatMap Inference.calls)).length) := by
  refine ⟨fun calls => foldl_peakTokensPerSecond calls newNPUTelemetry, fun infs hpos hlen => ?_⟩
  obtain ⟨-, havg⟩ := inferences_mean infs newNPUTelemetry hpos
    (show 0 + infs.length < 2 ^ 64 by omega)
  rw [show newNPUTelemetry.totalPrompts.toNat = 0 from rfl,
    show newNPUTelemetry.averageTokensPerSecond = 0 from rfl] at havg
  simp only [Nat.cast_zero, zero_add, zero_mul] at havg
  rw [rates_inferences infs hpos, List.length_map]
  rcases Nat.eq_zero_or_pos infs.length with h | h
  · simp [List.length_eq_zero.mp h, runTelemetry, newNPUTelemetry]
  · rw [← havg, mul_div_cancel_right₀ _ (by positivity)]
    rfl

theorem telemetry_peak_and_paired_mean_of_two :
    let infs : List Inference := [⟨50, 0, 100, 1000000000⟩, ⟨20, 0, 300, 2000000000⟩]
    (runTelemetry (infs.flatMap Inference.calls)).peakTokensPerSecond =
        (rates (infs.flatMap Inference.calls)).foldl max 0 ∧
      (∀ i ∈ infs, NPUTelemetry.seconds i.duration > 0) ∧ infs.length < 2 ^ 64 ∧
      (runTelemetry (infs.flatMap Inference.calls)).averageTokensPerSecond =
        (rates (infs.flatMap Inference.calls)).sum / (rates (infs.flatMap Inference.calls)).length := by
  intro infs
  have hpos : ∀ i ∈ infs, NPUTelemetry.seconds i.duration > 0 := by
    norm_num [infs, NPUTelemetry.seconds]
  exact ⟨telemetry_peak_and_paired_mean.1 _, hpos, by decide,
    telemetry_peak_and_paired_mean.2 infs hpos (by decide)⟩

/-- One prompt followed by two generations of one second each, of 100 and 300 tokens. -/
def promptThenTwoGenerations : List TelemetryCall :=
  [.updatePrompt 50 0, .updateTokenGeneration 100 1000000000, .updateTokenGeneration 300 1000000000]

/-- The rates are 100 and 300, but the average is 300, not their mean 200: both generations are
averaged with `TotalPrompts = 1`, so the second replaces the first. -/
theorem average_counts_prompts :
    rates promptThenTwoGenerations = [100, 300] ∧
      (runTelemetry promptThenTwoGenerations).averageTokensPerSecond = 300 ∧
      (runTelemetry promptThenTwoGenerations).averageTokensPerSecond ≠
        (rates promptThenTwoGenerations).sum / (rates promptThenTwoGenerations).length := by
  have h₁ : (0 + 1 : UInt64) = 1 := rfl
  have h₂ : (1 - 1 : UInt64).toNat = 0 := rfl
  have h₃ : (0 : UInt64) < 1 := by decide
  have h₄ : (1 : UInt64).toNat = 1 := rfl
  have h₅ : (100 : UInt64).toNat = 100 := rfl
  have h₆ : (300 : UInt64).toNat = 300 := rfl
  have hr : rates promptThenTwoGenerations = [100, 300] := by
    norm_num [rates, promptThenTwoGenerations, TelemetryCall.rate, NPUTelemetry.seconds, h₅, h₆,
      List.filterMap_cons]
  have havg : (runTelemetry promptThenTwoGenerations).averageTokensPerSecond = 300 := by
    norm_num [promptThenTwoGenerations, runTelemetry, TelemetryCall.apply, newNPUTelemetry,
      NPUTelemetry.updateTokenGeneration_averageTokensPerSecond, NPUTelemetry.seconds,
      h₁, h₂, h₃, h₄, h₆]
  refine ⟨hr, havg, ?_⟩
  rw [hr, havg]
  norm_num

end Ecco9.Npu
