import Ecco9.Npu.Device
import Mathlib.Data.Fin.VecNotation
import Mathlib.Data.List.FinRange

/-! # `NPUDevice.AssessSelf`

`AssessSelf` (src/core/ecco9/drivers/npu_entelechy.go) scores the device in five dimensions,
combines the scores into an actualization level, names a stage, and lists improvements, critical
issues and strengths. Floats are exact rationals here, so a score may differ from Go's `float64`
in its last bits. -/

namespace Ecco9.Npu

/-! ## The report -/

/-- `OntologicalHealth`. -/
structure OntologicalHealth where
  foundationIntegrity : ℚ
  coreCompleteness : ℚ
  specializedFeatures : ℚ
  architecturalCoherence : ℚ

/-- `TeleologicalAlignment`; `PhaseCompletion` is a `[5]float64`. -/
structure TeleologicalAlignment where
  phaseCompletion : Fin 5 → ℚ
  roadmapAlignment : ℚ
  actualizationTrajectory : ℚ
  purposeClarity : ℚ

/-- `CognitiveCompleteness`. -/
structure CognitiveCompleteness where
  inferenceQuality : ℚ
  performanceIntelligence : ℚ
  metaCognitiveDepth : ℚ
  overallCognition : ℚ

/-- `IntegrativeHealth`. -/
structure IntegrativeHealth where
  hardwareIntegration : ℚ
  softwareCoherence : ℚ
  systemUnity : ℚ
  overallIntegration : ℚ

/-- `EvolutionaryPotential`. -/
structure EvolutionaryPotential where
  todoCount : Int
  fixmeCount : Int
  implementationDepth : ℚ
  selfImprovementCapacity : ℚ
  evolutionaryFitness : ℚ

/-- `NPUSelfAssessment`, without its mutex. -/
structure NPUSelfAssessment where
  ontologicalHealth : OntologicalHealth
  teleologicalAlignment : TeleologicalAlignment
  cognitiveCompleteness : CognitiveCompleteness
  integrativeHealth : IntegrativeHealth
  evolutionaryPotential : EvolutionaryPotential
  overallActualization : ℚ
  fitnessScore : ℚ
  actualizationStage : String
  improvementRecommendations : List String
  criticalIssues : List String
  strengths : List String

/-! ## The assessment -/

namespace NPUDevice

variable (d : NPUDevice)

/-- `GetType`: `deviceType`, which `NewNPUDevice` sets to `"npu"` and nothing writes. -/
def getType : String := "npu"

/-- `assessOntologicalDimension`; `hasLlmManager` is `d.llmManager != nil`. The register file
and the SRAM region are never nil, nor is the telemetry block. -/
def assessOntologicalDimension (hasLlmManager : Bool) : OntologicalHealth :=
  let foundationIntegrity : ℚ := 0.9
  let coreCompleteness : ℚ := if d.initialized && hasLlmManager then 0.8 else 0.4
  let features : ℚ := 0.0 + 0.2
  let features := if d.modelLoaded then features + 0.2 else features
  ⟨foundationIntegrity, coreCompleteness, features,
    (foundationIntegrity + coreCompleteness + features) / 3.0⟩

/-- `assessTeleologicalDimension`. -/
def assessTeleologicalDimension : TeleologicalAlignment :=
  let phaseCompletion : Fin 5 → ℚ := ![1.0, 0.8, 0.4, 0.6, 0.2]
  let totalProgress := (List.finRange 5).foldl (fun total i => total + phaseCompletion i) 0.0
  ⟨phaseCompletion, totalProgress / 5.0, 0.7, 0.9⟩

/-- `assessCognitiveDimension`; `GetStats` returns a copy of the telemetry. -/
def assessCognitiveDimension (hasLlmManager : Bool) : CognitiveCompleteness :=
  let inferenceQuality : ℚ := if hasLlmManager && d.modelLoaded then 0.7 else 0.3
  let stats := d.telemetry
  let performanceIntelligence : ℚ := if stats.totalPrompts > 0 then 0.8 else 0.5
  let metaCognitiveDepth : ℚ := 0.8
  ⟨inferenceQuality, performanceIntelligence, metaCognitiveDepth,
    (inferenceQuality + performanceIntelligence + metaCognitiveDepth) / 3.0⟩

/-- `assessIntegrativeDimension`; a score its test does not set stays 0. -/
def assessIntegrativeDimension : IntegrativeHealth :=
  let hardwareIntegration : ℚ := 0.9
  let softwareCoherence : ℚ := if getType = "npu" then 0.9 else 0
  let systemUnity : ℚ := 0.8
  ⟨hardwareIntegration, softwareCoherence, systemUnity,
    (hardwareIntegration + softwareCoherence + systemUnity) / 3.0⟩

/-- `assessEvolutionaryDimension`. -/
def assessEvolutionaryDimension : EvolutionaryPotential :=
  let todoCount : Int := 8
  let fixmeCount : Int := 2
  let implementationDepth : ℚ := 0.6
  let selfImprovementCapacity : ℚ := 0.9
  ⟨todoCount, fixmeCount, implementationDepth, selfImprovementCapacity,
    (implementationDepth + selfImprovementCapacity - ((todoCount + fixmeCount : Int) : ℚ) * 0.02) / 2.0⟩

/-- `calculateActualization`. -/
def calculateActualization (assessment : NPUSelfAssessment) : ℚ :=
  assessment.ontologicalHealth.architecturalCoherence * 0.20 +
    assessment.teleologicalAlignment.roadmapAlignment * 0.25 +
    assessment.cognitiveCompleteness.overallCognition * 0.25 +
    assessment.integrativeHealth.overallIntegration * 0.15 +
    assessment.evolutionaryPotential.evolutionaryFitness * 0.15

/-- `calculateFitness`. -/
def calculateFitness (assessment : NPUSelfAssessment) : ℚ := assessment.overallActualization

/-- `determineActualizationStage`. -/
def determineActualizationStage (actualization : ℚ) : String :=
  if actualization < 0.3 then "Embryonic"
  else if actualization < 0.6 then "Juvenile"
  else if actualization < 0.8 then "Mature"
  else "Transcendent"

/-- `generateImprovements`. -/
def generateImprovements (assessment : NPUSelfAssessment) : List String :=
  let recommendations : List String := []
  let recommendations :=
    if assessment.ontologicalHealth.specializedFeatures < 0.7 then
      recommendations ++ ["Implement token streaming system", "Add KV-cache management",
        "Integrate GPU offload control", "Add batch inference support"]
    else recommendations
  let recommendations :=
    if assessment.cognitiveCompleteness.inferenceQuality < 0.8 then
      recommendations ++ ["Replace stub inference with actual GGUF runtime",
        "Add tokenization/detokenization", "Implement proper token streaming"]
    else recommendations
  let recommendations :=
    if assessment.evolutionaryPotential.implementationDepth < 0.8 then
      recommendations ++ ["Reduce TODO/FIXME count", "Replace stubs with real implementations",
        "Add comprehensive tests"]
    else recommendations
  if assessment.teleologicalAlignment.phaseCompletion 4 < 0.5 then
    recommendations ++ ["Enable meta-cognitive capabilities", "Implement autonomous goal-setting",
      "Add recursive self-improvement"]
  else recommendations

/-- `identifyCriticalIssues`. -/
def identifyCriticalIssues (assessment : NPUSelfAssessment) : List String :=
  let issues : List String := []
  let issues := if assessment.ontologicalHealth.architecturalCoherence < 0.5 then
      issues ++ ["Critical: Structural integrity compromised"] else issues
  let issues := if assessment.cognitiveCompleteness.overallCognition < 0.4 then
      issues ++ ["Critical: Cognitive capabilities insufficient"] else issues
  let issues := if assessment.integrativeHealth.overallIntegration < 0.5 then
      issues ++ ["Critical: Integration problems detected"] else issues
  if assessment.evolutionaryPotential.todoCount > 15 then
    issues ++ ["Warning: High fragmentation (many TODOs)"] else issues

/-- `identifyStrengths`. -/
def identifyStrengths (assessment : NPUSelfAssessment) : List String :=
  let strengths : List String := []
  let strengths := if assessment.ontologicalHealth.foundationIntegrity > 0.8 then
      strengths ++ ["Strong: Solid hardware foundation"] else strengths
  let strengths := if assessment.integrativeHealth.overallIntegration > 0.8 then
      strengths ++ ["Strong: Excellent system integration"] else strengths
  let strengths := if assessment.evolutionaryPotential.selfImprovementCapacity > 0.8 then
      strengths ++ ["Strong: High capacity for self-improvement"] else strengths
  if assessment.teleologicalAlignment.purposeClarity > 0.8 then
    strengths ++ ["Strong: Clear sense of purpose"] else strengths

/-- `AssessSelf`: the fields of a zero assessment filled in the code's order, without the lock;
then `d.mu.Lock()` to store the level and the score, fields that nothing reads, and
`d.mu.Unlock()`. -/
def assessSelf (hasLlmManager : Bool) : Option (NPUSelfAssessment × NPUDevice) :=
  let assessment : NPUSelfAssessment :=
    { ontologicalHealth := d.assessOntologicalDimension hasLlmManager
      teleologicalAlignment := assessTeleologicalDimension
      cognitiveCompleteness := d.assessCognitiveDimension hasLlmManager
      integrativeHealth := assessIntegrativeDimension
      evolutionaryPotential := assessEvolutionaryDimension
      overallActualization := 0
      fitnessScore := 0
      actualizationStage := ""
      improvementRecommendations := []
      criticalIssues := []
      strengths := [] }
  let assessment := { assessment with overallActualization := calculateActualization assessment }
  let assessment := { assessment with fitnessScore := calculateFitness assessment }
  let assessment := { assessment with
    actualizationStage := determineActualizationStage assessment.overallActualization }
  let assessment := { assessment with improvementRecommendations := generateImprovements assessment }
  let assessment := { assessment with criticalIssues := identifyCriticalIssues assessment }
  d.locked fun d => some ({ assessment with strengths := identifyStrengths assessment }, d)

end NPUDevice

end Ecco9.Npu
