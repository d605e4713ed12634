import Mathlib.Algebra.Order.Field.Rat
import Mathlib.Data.Fin.VecNotation
import Mathlib.Data.List.FinRange
import Mathlib.GroupTheory.Perm.Basic
import Mathlib.Tactic.FinCases
import Mathlib.Tactic.NormNum

/-! # The NPU driver's entelechy loop

`NPUDriver` keeps five entelechy dimensions and a genome whose genes are the dimensions'
scores. `AssessEntelechy` re-assesses the dimensions, copies their scores into the genes and
recomputes the fitness; `SelfOptimize` repeats: assess, raise the health of the weakest
dimension, assess again, and "keep" the new genome when its fitness rose.

The genome that `AssessEntelechy` returns is the driver's own genome pointer, so the final
assignment `nd.entelechyGenome = newGenome` stores the genome back into itself: whatever the
comparison decides, the improvement stays (`selfOptimizeStep_eq`).

The dimensions and the genome come from the `core/entelechy` package, which is not part of the
repository: their constructors, each dimension's `Assess` and the genome's `CalculateFitness`
are the fields of `Entelechy`, and every definition here takes them as a parameter, so that
each result holds for every behaviour of that package. Floating-point values are rationals. -/

namespace Ecco9.Npu

/-! ## State -/

/-- The fields of `entelechy.OntologicalDimension` that the driver reads or writes. -/
structure OntologicalDimension where
  coreHealth : ℚ
  specializedHealth : ℚ
  architecturalCompleteness : ℚ
deriving DecidableEq

/-- The fields of `entelechy.TeleologicalDimension` that the driver reads or writes. -/
structure TeleologicalDimension where
  purposeClarity : ℚ
  roadmapAlignment : ℚ
  actualizationTrajectory : ℚ
deriving DecidableEq

/-- The fields of `entelechy.CognitiveDimension` that the driver reads or writes. -/
structure CognitiveDimension where
  loopCoherence : ℚ
  learningCapacity : ℚ
  cognitiveCompleteness : ℚ
deriving DecidableEq

/-- The fields of `entelechy.IntegrativeDimension` that the driver reads or writes. -/
structure IntegrativeDimension where
  buildHealth : ℚ
  testHealth : ℚ
  integrationHealth : ℚ
deriving DecidableEq

/-- The fields of `entelechy.EvolutionaryDimension` that the driver reads or writes. -/
structure EvolutionaryDimension where
  codeHealth : ℚ
  implementationDepth : ℚ
  selfImprovementCapacity : ℚ
  evolutionaryPotential : ℚ
deriving DecidableEq

/-- `NPUDimensions`. -/
structure NPUDimensions where
  ontological : OntologicalDimension
  teleological : TeleologicalDimension
  cognitive : CognitiveDimension
  integrative : IntegrativeDimension
  evolutionary : EvolutionaryDimension
deriving DecidableEq

/-- The genes of `entelechy.EntelechyGenome`. -/
structure Genes where
  ontological : ℚ
  teleological : ℚ
  cognitive : ℚ
  integrative : ℚ
  evolutionary : ℚ
deriving DecidableEq

/-- The fields of `entelechy.EntelechyGenome` that the driver reads or writes. -/
structure EntelechyGenome where
  id : String
  generation : Int
  genes : Genes
  fitness : ℚ
deriving DecidableEq

/-- What the driver calls in `core/entelechy`, a package outside the repository: the
dimensions' and the genome's constructors, each dimension's `Assess` (which updates the
dimension in place), and `CalculateFitness` (which sets the genome's fitness). -/
structure Entelechy where
  newOntologicalDimension : OntologicalDimension
  newTeleologicalDimension : TeleologicalDimension
  newCognitiveDimension : CognitiveDimension
  newIntegrativeDimension : IntegrativeDimension
  newEvolutionaryDimension : EvolutionaryDimension
  assessOntological : OntologicalDimension → OntologicalDimension
  assessTeleological : TeleologicalDimension → TeleologicalDimension
  assessCognitive : CognitiveDimension → CognitiveDimension
  assessIntegrative : IntegrativeDimension → IntegrativeDimension
  assessEvolutionary : EvolutionaryDimension → EvolutionaryDimension
  newEntelechyGenome : String → Int → EntelechyGenome
  calculateFitness : EntelechyGenome → ℚ

/-- The fields of `NPUDriver` that its entelechy and ontogenesis methods read or write. -/
structure NPUDriver where
  entelechyGenome : EntelechyGenome
  dimensions : NPUDimensions
  generation : Int
  lineage : List String
deriving DecidableEq

variable (E : Entelechy)

/-- `genome.CalculateFitness()`. -/
def EntelechyGenome.calculateFitness (g : EntelechyGenome) : EntelechyGenome :=
  { g with fitness := E.calculateFitness g }

/-- `NewNPUDriver`. -/
def newNPUDriver : NPUDriver where
  dimensions := ⟨E.newOntologicalDimension, E.newTeleologicalDimension, E.newCognitiveDimension,
    E.newIntegrativeDimension, E.newEvolutionaryDimension⟩
  entelechyGenome :=
    { E.newEntelechyGenome "npu-gen0" 0 with genes := ⟨0.7, 0.6, 0.5, 0.8, 0.7⟩ }.calculateFitness E
  generation := 0
  lineage := []

/-- `SelfGenerate`: a new driver one generation on, whose genome is a clone of the parent's
with two genes raised. -/
def NPUDriver.selfGenerate (nd : NPUDriver) : NPUDriver :=
  let generation := nd.generation + 1
  let genes := nd.entelechyGenome.genes
  { newNPUDriver E with
    generation := generation
    lineage := nd.entelechyGenome.id :: nd.lineage
    entelechyGenome := { nd.entelechyGenome with
      id := "npu-gen" ++ toString generation
      generation := generation
      genes := { genes with
        cognitive := genes.cognitive + 0.05
        evolutionary := genes.evolutionary + 0.03 } }.calculateFitness E }

/-! ## `AssessEntelechy` -/

/-- The five `Assess` calls of `AssessEntelechy`. -/
def NPUDimensions.assess (d : NPUDimensions) : NPUDimensions :=
  ⟨E.assessOntological d.ontological, E.assessTeleological d.teleological,
    E.assessCognitive d.cognitive, E.assessIntegrative d.integrative,
    E.assessEvolutionary d.evolutionary⟩

/-- The scores that `AssessEntelechy` copies into the genes. -/
def NPUDimensions.genes (d : NPUDimensions) : Genes :=
  ⟨d.ontological.architecturalCompleteness, d.teleological.actualizationTrajectory,
    d.cognitive.cognitiveCompleteness, d.integrative.integrationHealth,
    d.evolutionary.evolutionaryPotential⟩

/-- `AssessEntelechy`: the driver, with its dimensions and genome updated in place, and the
genome pointer it returns, which is the driver's own. -/
def NPUDriver.assessEntelechy (nd : NPUDriver) : NPUDriver × EntelechyGenome :=
  let dimensions := nd.dimensions.assess E
  let genome := { nd.entelechyGenome with genes := dimensions.genes }.calculateFitness E
  ({ nd with dimensions := dimensions, entelechyGenome := genome }, genome)

@[simp] theorem assessEntelechy_snd (nd : NPUDriver) :
    (nd.assessEntelechy E).2 = (nd.assessEntelechy E).1.entelechyGenome := rfl

@[simp] theorem assessEntelechy_dimensions (nd : NPUDriver) :
    (nd.assessEntelechy E).1.dimensions = nd.dimensions.assess E := rfl

@[simp] theorem assessEntelechy_fitness (nd : NPUDriver) :
    (nd.assessEntelechy E).1.entelechyGenome.fitness =
      E.calculateFitness { nd.entelechyGenome with genes := (nd.dimensions.assess E).genes } := rfl

/-! ## The weakest dimension -/

/-- The keys of `scores`, in the order of its map literal. -/
def dimensionNames : List String :=
  ["ontological", "teleological", "cognitive", "integrative", "evolutionary"]

/-- `scores` in `identifyWeakestDimension`, by position in its map literal. -/
def NPUDimensions.scores (d : NPUDimensions) : Fin 5 → String × ℚ :=
  ![("ontological", d.ontological.architecturalCompleteness),
    ("teleological", d.teleological.actualizationTrajectory),
    ("cognitive", d.cognitive.cognitiveCompleteness),
    ("integrative", d.integrative.integrationHealth),
    ("evolutionary", d.evolutionary.evolutionaryPotential)]

/-- The entries of `scores` in the order `for dimension, score := range scores` visits them:
Go leaves the order unspecified, so it is any permutation `σ` of the literal's order. -/
def rangeOrder (σ : Equiv.Perm (Fin 5)) (d : NPUDimensions) : List (String × ℚ) :=
  (List.finRange 5).map (d.scores ∘ σ)

/-- One turn of `identifyWeakestDimension`'s loop on `(weakest, lowestScore)`. -/
def weakestStep (weakest entry : String × ℚ) : String × ℚ :=
  if entry.2 < weakest.2 then entry else weakest

/-- `identifyWeakestDimension`, over the entries of `scores` in visiting order. -/
def identifyWeakestDimension (entries : List (String × ℚ)) : String :=
  (entries.foldl weakestStep ("cognitive", 1)).1

/-- `improveDimension`. -/
def improveDimension (d : NPUDimensions) (dimension : String) : NPUDimensions :=
  match dimension with
  | "ontological" => { d with ontological := { d.ontological with
      coreHealth := d.ontological.coreHealth + 0.05
      specializedHealth := d.ontological.specializedHealth + 0.03 } }
  | "teleological" => { d with teleological := { d.teleological with
      purposeClarity := d.teleological.purposeClarity + 0.05
      roadmapAlignment := d.teleological.roadmapAlignment + 0.03 } }
  | "cognitive" => { d with cognitive := { d.cognitive with
      loopCoherence := d.cognitive.loopCoherence + 0.05
      learningCapacity := d.cognitive.learningCapacity + 0.03 } }
  | "integrative" => { d with integrative := { d.integrative with
      buildHealth := d.integrative.buildHealth + 0.05
      testHealth := d.integrative.testHealth + 0.03 } }
  | "evolutionary" => { d with evolutionary := { d.evolutionary with
      codeHealth := d.evolutionary.codeHealth + 0.05
      implementationDepth := d.evolutionary.implementationDepth + 0.03 } }
  | _ => d

theorem weakestStep_le (weakest entry : String × ℚ) :
    (weakestStep weakest entry).2 ≤ weakest.2 ∧ (weakestStep weakest entry).2 ≤ entry.2 := by
  unfold weakestStep
  split_ifs with h
  · exact ⟨h.le, le_rfl⟩
  · exact ⟨le_rfl, not_lt.mp h⟩

/-- The loop either keeps its start, which is then no larger than any entry, or ends on an
entry below its start that is no larger than any entry. -/
theorem foldl_weakestStep (entries : List (String × ℚ)) (w : String × ℚ) :
    (entries.foldl weakestStep w = w ∧ ∀ e ∈ entries, w.2 ≤ e.2) ∨
    (entries.foldl weakestStep w ∈ entries ∧ (entries.foldl weakestStep w).2 < w.2 ∧
      ∀ e ∈ entries, (entries.foldl weakestStep w).2 ≤ e.2) := by
  induction entries generalizing w with
  | nil => exact .inl ⟨rfl, by simp⟩
  | cons e es ih =>
    rw [List.foldl_cons]
    obtain ⟨hw, he⟩ := weakestStep_le w e
    rcases ih (weakestStep w e) with ⟨hr, hall⟩ | ⟨hmem, hlt, hall⟩
    · rw [hr]
      by_cases h : e.2 < w.2
      · have hs : weakestStep w e = e := if_pos h
        rw [hs] at hall ⊢
        exact .inr ⟨List.mem_cons_self e es, h, List.forall_mem_cons.mpr ⟨le_rfl, hall⟩⟩
      · have hs : weakestStep w e = w := if_neg h
        rw [hs] at hall ⊢
        exact .inl ⟨rfl, List.forall_mem_cons.mpr ⟨not_lt.mp h, hall⟩⟩
    · exact .inr ⟨List.mem_cons_of_mem e hmem, hlt.trans_le hw,
        List.forall_mem_cons.mpr ⟨(hlt.trans_le he).le, hall⟩⟩

/-- `identifyWeakestDimension` names an entry of lowest score when some score is below 1, and
`"cognitive"` when none is. -/
theorem identifyWeakestDimension_spec (entries : List (String × ℚ)) :
    (identifyWeakestDimension entries = "cognitive" ∧ ∀ e ∈ entries, 1 ≤ e.2) ∨
    ∃ e ∈ entries, e.1 = identifyWeakestDimension entries ∧ e.2 < 1 ∧
      ∀ e' ∈ entries, e.2 ≤ e'.2 := by
  rcases foldl_weakestStep entries ("cognitive", 1) with ⟨hr, hall⟩ | ⟨hmem, hlt, hall⟩
  · exact .inl ⟨by rw [identifyWeakestDimension, hr], hall⟩
  · exact .inr ⟨_, hmem, rfl, hlt, hall⟩

theorem mem_rangeOrder {σ : Equiv.Perm (Fin 5)} {d : NPUDimensions} {e : String × ℚ} :
    e ∈ rangeOrder σ d ↔ ∃ i, d.scores i = e := by
  simp only [rangeOrder, List.mem_map, List.mem_finRange, true_and, Function.comp_apply]
  exact ⟨fun ⟨i, h⟩ => ⟨σ i, h⟩, fun ⟨i, h⟩ => ⟨σ.symm i, by rw [σ.apply_symm_apply, h]⟩⟩

/-- Whatever the visiting order, the weakest dimension is one of the five. -/
theorem identifyWeakestDimension_mem (σ : Equiv.Perm (Fin 5)) (d : NPUDimensions) :
    identifyWeakestDimension (rangeOrder σ d) ∈ dimensionNames := by
  rcases identifyWeakestDimension_spec (rangeOrder σ d) with ⟨h, -⟩ | ⟨e, he, h, -⟩
  · rw [h]; simp [dimensionNames]
  · obtain ⟨i, rfl⟩ := mem_rangeOrder.mp he
    rw [← h]
    fin_cases i <;> simp [NPUDimensions.scores, dimensionNames]

/-- A score below 1 and below every other is the weakest, whatever the visiting order. -/
theorem identifyWeakestDimension_of_lt (σ : Equiv.Perm (Fin 5)) (d : NPUDimensions) (i : Fin 5)
    (h1 : (d.scores i).2 < 1) (hlt : ∀ j, j ≠ i → (d.scores i).2 < (d.scores j).2) :
    identifyWeakestDimension (rangeOrder σ d) = (d.scores i).1 := by
  have hi : d.scores i ∈ rangeOrder σ d := mem_rangeOrder.mpr ⟨i, rfl⟩
  rcases identifyWeakestDimension_spec (rangeOrder σ d) with ⟨-, hall⟩ | ⟨e, he, h, -, hmin⟩
  · exact absurd (hall _ hi) (not_le.mpr h1)
  · obtain ⟨j, rfl⟩ := mem_rangeOrder.mp he
    obtain rfl : j = i := by
      by_contra hji
      exact absurd (hmin _ hi) (not_le.mpr (hlt j hji))
    exact h.symm

/-- `improveDimension` only raises health fields: the scores, hence the genes, stay. -/
@[simp] theorem improveDimension_genes (d : NPUDimensions) (dimension : String) :
    (improveDimension d dimension).genes = d.genes := by
  unfold improveDimension
  split <;> rfl

/-- `improveDimension` of any of the five dimensions changes the dimensions. -/
theorem improveDimension_ne (d : NPUDimensions) {dimension : String}
    (h : dimension ∈ dimensionNames) : improveDimension d dimension ≠ d := by
  simp only [dimensionNames, List.mem_cons, List.mem_singleton, List.not_mem_nil, or_false] at h
  rcases d with ⟨⟨_, _, _⟩, ⟨_, _, _⟩, ⟨_, _, _⟩, ⟨_, _, _⟩, ⟨_, _, _, _⟩⟩
  rcases h with rfl | rfl | rfl | rfl | rfl <;> norm_num [improveDimension]

/-! ## `SelfOptimize` -/

/-- One iteration of `SelfOptimize`'s loop, `σ` being the order in which
`identifyWeakestDimension` visits `scores`. -/
def NPUDriver.selfOptimizeStep (σ : Equiv.Perm (Fin 5)) (nd : NPUDriver) : NPUDriver :=
  let assessed := nd.assessEntelechy E
  let currentFitness := assessed.2.fitness
  let weakest := identifyWeakestDimension (rangeOrder σ assessed.1.dimensions)
  let improved := { assessed.1 with
    dimensions := improveDimension assessed.1.dimensions weakest }
  let reassessed := improved.assessEntelechy E
  if reassessed.2.fitness > currentFitness then
    { reassessed.1 with entelechyGenome := reassessed.2 }
  else reassessed.1

/-- `SelfOptimize(iterations)`, `orders i` being the visiting order of iteration `i`. -/
def NPUDriver.selfOptimize (orders : Nat → Equiv.Perm (Fin 5)) (iterations : Int)
    (nd : NPUDriver) : NPUDriver :=
  (List.range iterations.toNat).foldl (fun nd i => nd.selfOptimizeStep E (orders i)) nd

/-- The genome `SelfOptimize` would keep is the one the driver already holds, so both branches
of the comparison leave the same driver: the weakest dimension stays improved and re-assessed
whatever the fitness did. -/
theorem selfOptimizeStep_eq (σ : Equiv.Perm (Fin 5)) (nd : NPUDriver) :
    nd.selfOptimizeStep E σ =
      ({ (nd.assessEntelechy E).1 with
          dimensions := improveDimension (nd.dimensions.assess E)
            (identifyWeakestDimension (rangeOrder σ (nd.dimensions.assess E))) }.assessEntelechy E).1 := by
  unfold NPUDriver.selfOptimizeStep
  dsimp only
  split_ifs <;> rfl

/-! ## Rejected improvements are kept -/

/-- An entelechy package whose `Assess` leaves every dimension as it is and whose
`CalculateFitness` is the mean of the genes; its constructors give fully actualized dimensions. -/
def steadyEntelechy : Entelechy where
  newOntologicalDimension := ⟨1, 1, 1⟩
  newTeleologicalDimension := ⟨1, 1, 1⟩
  newCognitiveDimension := ⟨1, 1, 1⟩
  newIntegrativeDimension := ⟨1, 1, 1⟩
  newEvolutionaryDimension := ⟨1, 1, 1, 1⟩
  assessOntological := id
  assessTeleological := id
  assessCognitive := id
  assessIntegrative := id
  assessEvolutionary := id
  newEntelechyGenome id generation := ⟨id, generation, ⟨0, 0, 0, 0, 0⟩, 0⟩
  calculateFitness g :=
    (g.genes.ontological + g.genes.teleological + g.genes.cognitive + g.genes.integrative +
      g.genes.evolutionary) / 5

/-- As `steadyEntelechy`, but the cognitive `Assess` scores the balance of coherence and
learning, `1 - |LoopCoherence - LearningCapacity|`, and the new cognitive dimension is
unbalanced. -/
def balanceEntelechy : Entelechy :=
  { steadyEntelechy with
    newCognitiveDimension := ⟨0.6, 0.5, 0.9⟩
    assessCognitive := fun c =>
      { c with cognitiveCompleteness := 1 - |c.loopCoherence - c.learningCapacity| } }

theorem self_optimize_keeps_rejected_improvement :
    (∀ (nd : NPUDriver) (σ : Equiv.Perm (Fin 5)),
      (nd.selfOptimizeStep steadyEntelechy σ).entelechyGenome.fitness ≤
          (nd.assessEntelechy steadyEntelechy).2.fitness ∧
        (nd.selfOptimizeStep steadyEntelechy σ).dimensions ≠ nd.dimensions) ∧
    ∀ orders : Nat → Equiv.Perm (Fin 5),
      (((newNPUDriver balanceEntelechy).selfOptimize balanceEntelechy orders 1).assessEntelechy
          balanceEntelechy).2.fitness <
        ((newNPUDriver balanceEntelechy).assessEntelechy balanceEntelechy).2.fitness := by
  have hd : ∀ d : NPUDimensions, d.assess steadyEntelechy = d := fun _ => rfl
  refine ⟨fun nd σ => ⟨?_, ?_⟩, fun orders => ?_⟩
  · simp only [selfOptimizeStep_eq, hd, assessEntelechy_snd, assessEntelechy_fitness,
      improveDimension_genes]
    exact le_rfl
  · rw [selfOptimizeStep_eq, assessEntelechy_dimensions, hd, hd]
    exact improveDimension_ne _ (identifyWeakestDimension_mem σ _)
  · have hw : identifyWeakestDimension
        (rangeOrder (orders 0) ((newNPUDriver balanceEntelechy).dimensions.assess balanceEntelechy)) =
        "cognitive" :=
      identifyWeakestDimension_of_lt _ _ 2 (by norm_num [NPUDimensions.scores, NPUDimensions.assess,
        newNPUDriver, balanceEntelechy, steadyEntelechy]) (by
          intro j hj
          fin_cases j
          all_goals first | exact (hj rfl).elim | norm_num [NPUDimensions.scores,
            NPUDimensions.assess, newNPUDriver, balanceEntelechy, steadyEntelechy])
    simp only [NPUDriver.selfOptimize, Int.toNat_one, List.range_succ, List.range_zero,
      List.nil_append, List.foldl_cons,
      List.foldl_nil, selfOptimizeStep_eq, hw]
    norm_num [NPUDriver.assessEntelechy, EntelechyGenome.calculateFitness, NPUDimensions.assess,
      NPUDimensions.genes, improveDimension, newNPUDriver, balanceEntelechy, steadyEntelechy,
      abs_of_pos]

end Ecco9.Npu
