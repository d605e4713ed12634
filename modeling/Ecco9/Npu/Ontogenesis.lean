import Ecco9.Npu.Driver
import Ecco9.Npu.Elite
import Ecco9.GoInt64

/-! # `NPUOntogenesis.EvolvePopulation`

Run-time panics are `Except` errors with Go's panic text, and the global `math/rand` source is a
stream of raw outputs (`Rand`), so that a statement over every stream is one over every outcome of
the draws. Drivers are values: a seed list holding one driver pointer twice is not modelled. -/

namespace Ecco9.Npu

/-! ## The random source -/

/-- The global `math/rand` source: the stream of its raw outputs and the position of the next
one. -/
structure Rand where
  outputs : Nat → Nat
  next : Nat

/-- The next raw output. -/
def Rand.draw (r : Rand) : Nat × Rand := (r.outputs r.next, { r with next := r.next + 1 })

/-- `rand.Float64()`: a multiple of `2⁻⁵³` in `[0, 1)`. -/
def Rand.float64 (r : Rand) : ℚ × Rand :=
  (((r.draw.1 % 2 ^ 53 : Nat) : ℚ) / 2 ^ 53, r.draw.2)

/-- `rand.Int()`: a non-negative 63-bit integer. -/
def Rand.int (r : Rand) : Nat × Rand := (r.draw.1 % 2 ^ 63, r.draw.2)

/-- `rand.Intn(n)`, which panics unless `n > 0`. -/
def Rand.intn (r : Rand) (n : Int) : Except String (Nat × Rand) :=
  if n ≤ 0 then .error "invalid argument to Intn" else .ok (r.draw.1 % n.toNat, r.draw.2)

/-- `s[i]`, which panics out of range. -/
def index {α : Type} (s : List α) (i : Nat) : Except String α :=
  match s[i]? with
  | some x => .ok x
  | none => .error ("runtime error: index out of range [" ++ toString i ++ "] with length " ++
      toString s.length)

/-! ## Configuration and helpers -/

/-- `NPUOntogenesis`. -/
structure NPUOntogenesis where
  mutationRate : ℚ
  crossoverRate : ℚ
  elitismRate : ℚ
  populationSize : Int
  maxGenerations : Int
  fitnessThreshold : ℚ

/-- `DefaultNPUOntogenesis`. -/
def defaultNPUOntogenesis : NPUOntogenesis where
  mutationRate := 0.15
  crossoverRate := 0.8
  elitismRate := 0.1
  populationSize := 20
  maxGenerations := 100
  fitnessThreshold := 0.9

/-- `GenerationStats`, without `Diversity` (a mean of square roots, which nothing reads back)
and `Timestamp` (never set). -/
structure GenerationStats where
  generation : Nat
  bestFitness : ℚ
  avgFitness : ℚ
  populationSize : Nat

/-- `clamp`. -/
def clamp (value min max : ℚ) : ℚ :=
  if value < min then min else if value > max then max else value

/-- `maxInt`. -/
def maxInt (a b : Int) : Int := if a > b then a else b

/-- `maxFloat64`. -/
def maxFloat64 : List ℚ → ℚ
  | [] => 0
  | v :: values => values.foldl (fun max v => if v > max then v else max) v

/-- `avgFloat64`. -/
def avgFloat64 (values : List ℚ) : ℚ :=
  if values.length = 0 then 0 else values.foldl (· + ·) 0 / values.length

variable (E : Entelechy) (no : NPUOntogenesis)

/-! ## Mutation and crossover -/

/-- One block of `applyMutations`: with probability `MutationRate`, move the field by a draw in
`[-0.05, 0.05)` and clamp it to `[0, 1]`. -/
def NPUOntogenesis.mutateField (x : ℚ) (r : Rand) : ℚ × Rand :=
  if r.float64.1 < no.mutationRate then
    (clamp (x + (r.float64.2.float64.1 - 0.5) * 0.1) 0 1, r.float64.2.float64.2)
  else (x, r.float64.2)

/-- `applyMutations`. -/
def NPUOntogenesis.applyMutations (npu : NPUDriver) (r : Rand) : NPUDriver × Rand :=
  let d := npu.dimensions
  let (coreHealth, r) := no.mutateField d.ontological.coreHealth r
  let (learningCapacity, r) := no.mutateField d.cognitive.learningCapacity r
  let (selfImprovementCapacity, r) := no.mutateField d.evolutionary.selfImprovementCapacity r
  ({ npu with dimensions := { d with
      ontological := { d.ontological with coreHealth := coreHealth }
      cognitive := { d.cognitive with learningCapacity := learningCapacity }
      evolutionary := { d.evolutionary with
        selfImprovementCapacity := selfImprovementCapacity } } }, r)

/-- One gene of `crossoverGenomes`: `genome1`'s when the draw is below 0.5. -/
def crossoverGene (gene1 gene2 : ℚ) (r : Rand) : ℚ × Rand :=
  (if r.float64.1 < 0.5 then gene1 else gene2, r.float64.2)

/-- `crossoverGenomes`. -/
def crossoverGenomes (genome1 genome2 : EntelechyGenome) (r : Rand) : EntelechyGenome × Rand :=
  let (n, r) := r.int
  let offspring := E.newEntelechyGenome
    ("npu-gen" ++ toString (genome1.generation + 1) ++ "-" ++ toString n)
    (maxInt genome1.generation genome2.generation + 1)
  let g1 := genome1.genes
  let g2 := genome2.genes
  let (ontological, r) := crossoverGene g1.ontological g2.ontological r
  let (teleological, r) := crossoverGene g1.teleological g2.teleological r
  let (cognitive, r) := crossoverGene g1.cognitive g2.cognitive r
  let (integrative, r) := crossoverGene g1.integrative g2.integrative r
  let (evolutionary, r) := crossoverGene g1.evolutionary g2.evolutionary r
  ({ offspring with
      genes := ⟨ontological, teleological, cognitive, integrative, evolutionary⟩ }.calculateFitness E,
    r)

/-- `SelfReproduce`. -/
def NPUOntogenesis.selfReproduce (parent1 parent2 : NPUDriver) (r : Rand) : NPUDriver × Rand :=
  let (genome, r) := crossoverGenomes E parent1.entelechyGenome parent2.entelechyGenome r
  let offspring := { newNPUDriver E with
    entelechyGenome := genome
    generation := maxInt parent1.generation parent2.generation + 1
    lineage := [parent1.entelechyGenome.id, parent2.entelechyGenome.id] }
  let (offspring, r) := no.applyMutations offspring r
  ((offspring.assessEntelechy E).1, r)

/-- `SelfGenerate` of the ontogenesis: the parent's own `SelfGenerate`, then the ontogenetic
mutations, then an assessment. -/
def NPUOntogenesis.selfGenerate (parent : NPUDriver) (r : Rand) : NPUDriver × Rand :=
  let (offspring, r) := no.applyMutations (parent.selfGenerate E) r
  ((offspring.assessEntelechy E).1, r)

/-- One iteration of `SelfOptimize` of the ontogenesis: assess the current driver in place,
assess a `SelfGenerate` child of it, and move to the child when its fitness is strictly higher.
The method reads nothing of its receiver, and its learning rate is decayed but never read. -/
def NPUOntogenesis.selfOptimizeStep (optimized : NPUDriver) : NPUDriver :=
  let current := optimized.assessEntelechy E
  let candidate := (current.1.selfGenerate E).assessEntelechy E
  if candidate.2.fitness > current.2.fitness then candidate.1 else current.1

/-- `SelfOptimize(npu, iterations)` of the ontogenesis. While no child has been kept, the
driver it works on is the argument itself, assessed in place. -/
def NPUOntogenesis.selfOptimize (npu : NPUDriver) (iterations : Int) : NPUDriver :=
  (List.range iterations.toNat).foldl (fun optimized _ => NPUOntogenesis.selfOptimizeStep E optimized)
    npu

/-! ## Selection and one generation -/

/-- One round of `tournamentSelection`'s loop on `(bestIdx, bestFitness)`. -/
def tournamentRound (fitnesses : List ℚ) (best : (Nat × ℚ) × Rand) (_ : Nat) :
    Except String ((Nat × ℚ) × Rand) := do
  let (idx, r) ← best.2.intn fitnesses.length
  let fitness ← index fitnesses idx
  if fitness > best.1.2 then pure ((idx, fitness), r) else pure (best.1, r)

/-- `tournamentSelection`. -/
def tournamentSelection (fitnesses : List ℚ) (r : Rand) : Except String (Nat × Rand) := do
  let tournamentSize := 3
  let (bestIdx, r) ← r.intn fitnesses.length
  let bestFitness ← index fitnesses bestIdx
  let (best, r) ← (List.range' 1 (tournamentSize - 1)).foldlM (tournamentRound fitnesses)
    ((bestIdx, bestFitness), r)
  pure (best.1, r)

/-- `eliteCount` in `evolveGeneration`. -/
def NPUOntogenesis.eliteCount (n : Nat) : Int := floatToInt64 (n * no.elitismRate)

/-- The offspring loop of `evolveGeneration`, `for len(newPopulation) < no.PopulationSize`.
Each turn appends one individual, so `PopulationSize` turns of fuel are enough
(`offspringLoop_length`). -/
def NPUOntogenesis.offspringLoop (population : List NPUDriver) (fitnesses : List ℚ) :
    Nat → List NPUDriver → Rand → Except String (List NPUDriver × Rand)
  | 0, newPopulation, r => .ok (newPopulation, r)
  | fuel + 1, newPopulation, r =>
    if (newPopulation.length : Int) < no.populationSize then do
      let (i, r) ← tournamentSelection fitnesses r
      let parent1 ← index population i
      let (i, r) ← tournamentSelection fitnesses r
      let parent2 ← index population i
      let (offspring, r) :=
        if r.float64.1 < no.crossoverRate then no.selfReproduce E parent1 parent2 r.float64.2
        else (parent1.selfGenerate E, r.float64.2)
      NPUOntogenesis.offspringLoop population fitnesses fuel (newPopulation ++ [offspring]) r
    else .ok (newPopulation, r)

/-- `evolveGeneration`. -/
def NPUOntogenesis.evolveGeneration (population : List NPUDriver) (fitnesses : List ℚ)
    (r : Rand) : Except String (List NPUDriver × Rand) := do
  let eliteIndices ← selectElite fitnesses (no.eliteCount population.length)
  let newPopulation ← eliteIndices.mapM (index population)
  no.offspringLoop E population fitnesses no.populationSize.toNat newPopulation r

/-! ## `EvolvePopulation` -/

/-- The drivers after `calculateDiversity`, which calls `AssessEntelechy` on both drivers of
every pair `i < j`. -/
def calculateDiversity (population : List NPUDriver) : List NPUDriver :=
  let n := population.length
  if n < 2 then population
  else
    (List.range (n - 1)).foldl (fun pop i =>
      (List.range' (i + 1) (n - (i + 1))).foldl (fun pop j =>
        (pop.modify (fun npu => (npu.assessEntelechy E).1) i).modify
          (fun npu => (npu.assessEntelechy E).1) j) pop) population

/-- The loop of `EvolvePopulation` over the generations `gens` still to run. -/
def NPUOntogenesis.evolveLoop : List Nat → List NPUDriver → List GenerationStats → Rand →
    Except String (List NPUDriver × List GenerationStats × Rand)
  | [], population, history, r => .ok (population, history, r)
  | gen :: gens, population, history, r =>
    let population := population.map fun npu => (npu.assessEntelechy E).1
    let fitnesses := population.map fun npu => npu.entelechyGenome.fitness
    let stats : GenerationStats :=
      ⟨gen, maxFloat64 fitnesses, avgFloat64 fitnesses, population.length⟩
    let population := calculateDiversity E population
    let history := history ++ [stats]
    if stats.bestFitness ≥ no.fitnessThreshold then .ok (population, history, r)
    else do
      let (population, r) ← no.evolveGeneration E population fitnesses r
      NPUOntogenesis.evolveLoop gens population history r

/-- `EvolvePopulation`. -/
def NPUOntogenesis.evolvePopulation (seeds : List NPUDriver) (r : Rand) :
    Except String (List NPUDriver × List GenerationStats × Rand) :=
  no.evolveLoop E (List.range no.maxGenerations.toNat) seeds [] r

/-! ## Which draws and indexings panic -/

@[simp] theorem ok_bind {ε α β : Type} (a : α) (f : α → Except ε β) :
    (Except.ok a >>= f) = f a := rfl

@[simp] theorem error_bind {ε α β : Type} (e : ε) (f : α → Except ε β) :
    (Except.error e >>= f) = .error e := rfl

theorem bind_eq_ok {ε α β : Type} {x : Except ε α} {f : α → Except ε β} {b : β} :
    (x >>= f) = .ok b ↔ ∃ a, x = .ok a ∧ f a = .ok b := by
  cases x <;> simp

theorem Rand.intn_of_pos (r : Rand) {n : Int} (h : 0 < n) :
    ∃ i r', r.intn n = .ok (i, r') ∧ i < n.toNat :=
  ⟨_, _, if_neg (not_le.mpr h), Nat.mod_lt _ (by omega)⟩

theorem index_of_lt {α : Type} (s : List α) {i : Nat} (h : i < s.length) :
    index s i = .ok (s.get ⟨i, h⟩) := by
  simp [index, List.getElem?_eq_getElem h]

theorem mapM_index {α : Type} (s : List α) (idx : List Nat) (h : ∀ i ∈ idx, i < s.length) :
    ∃ l, idx.mapM (index s) = .ok l ∧ l.length = idx.length := by
  induction idx with
  | nil => exact ⟨[], rfl, rfl⟩
  | cons i idx ih =>
    obtain ⟨l, hl, hlen⟩ := ih fun j hj => h j (List.mem_cons_of_mem i hj)
    refine ⟨s.get ⟨i, h i (List.mem_cons_self i idx)⟩ :: l, ?_, by simp [hlen]⟩
    simp only [List.mapM_cons, index_of_lt s (h i (List.mem_cons_self i idx)), hl, ok_bind]
    rfl

theorem tournamentRound_lt {fitnesses : List ℚ} {best : (Nat × ℚ) × Rand}
    (hb : best.1.1 < fitnesses.length) (k : Nat) :
    ∃ best', tournamentRound fitnesses best k = .ok best' ∧ best'.1.1 < fitnesses.length := by
  obtain ⟨i, r', hi, hlt⟩ := best.2.intn_of_pos (n := fitnesses.length) (by omega)
  simp only [Int.toNat_ofNat] at hlt
  simp only [tournamentRound, hi, index_of_lt fitnesses hlt, ok_bind]
  split_ifs
  · exact ⟨_, rfl, hlt⟩
  · exact ⟨_, rfl, hb⟩

theorem tournamentSelection_lt {fitnesses : List ℚ} (h : fitnesses ≠ []) (r : Rand) :
    ∃ i r', tournamentSelection fitnesses r = .ok (i, r') ∧ i < fitnesses.length := by
  have hpos : 0 < fitnesses.length := List.length_pos.mpr h
  obtain ⟨i, r₁, hi, hlt⟩ := r.intn_of_pos (n := fitnesses.length) (by omega)
  simp only [Int.toNat_ofNat] at hlt
  have hfold : ∀ (ks : List Nat) best, best.1.1 < fitnesses.length →
      ∃ best', ks.foldlM (tournamentRound fitnesses) best = .ok best' ∧
        best'.1.1 < fitnesses.length := by
    intro ks
    induction ks with
    | nil => exact fun best hb => ⟨best, rfl, hb⟩
    | cons k ks ih =>
      intro best hb
      obtain ⟨b, hb', hlt'⟩ := tournamentRound_lt hb k
      simp only [List.foldlM_cons, hb']
      exact ih b hlt'
  obtain ⟨best, hbest, hlt'⟩ := hfold (List.range' 1 2) ((i, fitnesses.get ⟨i, hlt⟩), r₁) hlt
  refine ⟨best.1.1, best.2, ?_, hlt'⟩
  simp only [tournamentSelection, hi, index_of_lt fitnesses hlt, ok_bind, Nat.reduceSub, hbest]
  rfl

theorem tournamentSelection_nil (r : Rand) :
    tournamentSelection [] r = .error "invalid argument to Intn" := rfl

/-! ## One generation -/

section Generation

variable {population : List NPUDriver} {fitnesses : List ℚ}

/-- On a non-empty population with a fitness for each driver, the offspring loop never panics
and fills the new population up to `PopulationSize`; it never removes anyone. -/
theorem offspringLoop_length (hlen : population.length = fitnesses.length)
    (hne : population ≠ []) (fuel : Nat) (newPopulation : List NPUDriver) (r : Rand)
    (hfuel : (no.populationSize - newPopulation.length).toNat ≤ fuel) :
    ∃ pop r', no.offspringLoop E population fitnesses fuel newPopulation r = .ok (pop, r') ∧
      pop.length = max no.populationSize.toNat newPopulation.length := by
  have hfne : fitnesses ≠ [] := by
    rw [← List.length_pos, ← hlen]; exact List.length_pos.mpr hne
  induction fuel generalizing newPopulation r with
  | zero => exact ⟨_, _, rfl, by omega⟩
  | succ fuel ih =>
    unfold NPUOntogenesis.offspringLoop
    split_ifs with hlt
    · obtain ⟨i₁, r₁, h₁, hi₁⟩ := tournamentSelection_lt hfne r
      obtain ⟨i₂, r₂, h₂, hi₂⟩ := tournamentSelection_lt hfne r₁
      simp only [h₁, h₂, ok_bind, index_of_lt population (hlen ▸ hi₁),
        index_of_lt population (hlen ▸ hi₂)]
      generalize (if r₂.float64.1 < no.crossoverRate then _ else _) = step
      obtain ⟨offspring, r₃⟩ := step
      obtain ⟨pop, r', hpop, hl⟩ := ih (newPopulation ++ [offspring]) r₃ (by simp; omega)
      exact ⟨pop, r', hpop, by simp only [List.length_append, List.length_singleton] at hl; omega⟩
    · exact ⟨_, _, rfl, by omega⟩

/-- On an empty population the offspring loop's first tournament draws `rand.Intn(0)`. -/
theorem offspringLoop_nil (fuel : Nat) (newPopulation : List NPUDriver) (r : Rand)
    (hlt : (newPopulation.length : Int) < no.populationSize) :
    no.offspringLoop E [] [] (fuel + 1) newPopulation r = .error "invalid argument to Intn" := by
  simp only [NPUOntogenesis.offspringLoop, if_pos hlt, tournamentSelection_nil]
  rfl

/-- With `0 ≤ ElitismRate ≤ 1`, the elite of a population of a Go slice's length is none, all
or some of it. -/
theorem eliteCount_bounds (hrate : 0 ≤ no.elitismRate) (hrate1 : no.elitismRate ≤ 1) {n : Nat}
    (hn : n < 2 ^ 63) : 0 ≤ no.eliteCount n ∧ no.eliteCount n ≤ n := by
  have h₀ : (0 : ℚ) ≤ n * no.elitismRate := mul_nonneg (Nat.cast_nonneg n) hrate
  have h₁ : (n : ℚ) * no.elitismRate ≤ n := mul_le_of_le_one_right (Nat.cast_nonneg n) hrate1
  rw [NPUOntogenesis.eliteCount, floatToInt64_of_nonneg h₀ (h₁.trans_lt (by exact_mod_cast hn))]
  exact ⟨Int.floor_nonneg.mpr h₀, (Int.floor_mono h₁).trans_eq (Int.floor_natCast n)⟩

/-- `evolveGeneration` on a non-empty population, with a fitness for each driver and an elite
count that is not negative, never panics, and returns `max(PopulationSize, eliteCount)`
individuals: the elite, then offspring up to `PopulationSize`. -/
theorem evolveGeneration_length (hlen : population.length = fitnesses.length)
    (hne : population ≠ []) (helite : 0 ≤ no.eliteCount population.length) (r : Rand) :
    ∃ pop r', no.evolveGeneration E population fitnesses r = .ok (pop, r') ∧
      pop.length = max no.populationSize.toNat
        (min (no.eliteCount population.length).toNat population.length) := by
  obtain ⟨idx, hidx, hidxlen, hvalid⟩ :=
    selectElite_ok fitnesses helite
  obtain ⟨elite, helite, hlen'⟩ := mapM_index population idx fun i hi => hlen ▸ hvalid i hi
  obtain ⟨pop, r', hpop, hpoplen⟩ :=
    offspringLoop_length E no hlen hne no.populationSize.toNat elite r (by omega)
  refine ⟨pop, r', ?_, by rw [hpoplen, hlen', hidxlen, hlen]⟩
  simp only [NPUOntogenesis.evolveGeneration, hidx, helite, ok_bind, hpop]

/-- On an empty population, `evolveGeneration` panics as soon as it must add anyone. -/
theorem evolveGeneration_nil (hsize : 1 ≤ no.populationSize) (r : Rand) :
    no.evolveGeneration E [] [] r = .error "invalid argument to Intn" := by
  obtain ⟨fuel, hfuel⟩ : ∃ fuel, no.populationSize.toNat = fuel + 1 := ⟨_, (Nat.succ_pred_eq_of_pos (by omega)).symm⟩
  have hidx : selectElite ([] : List ℚ) (no.eliteCount 0) = .ok [] := by
    simp [selectElite, NPUOntogenesis.eliteCount, floatToInt64, minInt]
  simp only [NPUOntogenesis.evolveGeneration, List.length_nil, hidx, ok_bind, List.mapM_nil, hfuel]
  exact offspringLoop_nil E no fuel [] r (by simp; omega)

end Generation

/-! ## Whole runs -/

theorem map_modify_of_eq {α β : Type} {f : α → β} {g : α → α} (hg : ∀ x, f (g x) = f x)
    (n : Nat) (l : List α) : (l.modify g n).map f = l.map f := by
  induction l generalizing n with
  | nil => simp
  | cons x l ih => cases n <;> simp [hg, ih]

/-- What assessing leaves unchanged, `calculateDiversity` leaves unchanged. -/
theorem calculateDiversity_map {β : Type} (f : NPUDriver → β)
    (hf : ∀ nd, f (nd.assessEntelechy E).1 = f nd) (population : List NPUDriver) :
    (calculateDiversity E population).map f = population.map f := by
  have hfold : ∀ (ks : List Nat) (g : List NPUDriver → Nat → List NPUDriver),
      (∀ p k, (g p k).map f = p.map f) → ∀ p, (ks.foldl g p).map f = p.map f := by
    intro ks g hg
    induction ks with
    | nil => exact fun _ => rfl
    | cons k ks ih => exact fun p => (ih (g p k)).trans (hg p k)
  unfold calculateDiversity
  dsimp only
  split_ifs
  · rfl
  · exact hfold _ _ (fun p _ => hfold _ _
      (fun _ _ => by rw [map_modify_of_eq hf, map_modify_of_eq hf]) p) _

theorem calculateDiversity_length (population : List NPUDriver) :
    (calculateDiversity E population).length = population.length := by
  simpa using congrArg List.length (calculateDiversity_map E (fun _ => ()) (fun _ => rfl) population)

theorem maxFloat64_le {values : List ℚ} {c : ℚ} (h : ∀ v ∈ values, v ≤ c) (hc : 0 ≤ c) :
    maxFloat64 values ≤ c := by
  cases values with
  | nil => exact hc
  | cons v values =>
    have hfold : ∀ (vs : List ℚ) m, m ≤ c → (∀ v ∈ vs, v ≤ c) →
        vs.foldl (fun max v => if v > max then v else max) m ≤ c := by
      intro vs
      induction vs with
      | nil => exact fun _ hm _ => hm
      | cons w vs ih =>
        intro m hm hvs
        rw [List.foldl_cons]
        refine ih _ ?_ fun v hv => hvs v (List.mem_cons_of_mem w hv)
        split_ifs
        · exact hvs w (List.mem_cons_self w vs)
        · exact hm
    exact hfold values v (h v (List.mem_cons_self v values))
      fun w hw => h w (List.mem_cons_of_mem v hw)

/-- Every run of the generation loop that returns has added at most one statistics entry per
generation. -/
theorem evolveLoop_history (gens : List Nat) (population : List NPUDriver)
    (history : List GenerationStats) (r : Rand)
    (res : List NPUDriver × List GenerationStats × Rand)
    (h : no.evolveLoop E gens population history r = .ok res) :
    res.2.1.length ≤ history.length + gens.length := by
  induction gens generalizing population history r with
  | nil =>
    cases h
    simp
  | cons gen gens ih =>
    simp only [NPUOntogenesis.evolveLoop] at h
    split_ifs at h
    · cases h
      simp
    · obtain ⟨⟨pop, r'⟩, -, h⟩ := bind_eq_ok.mp h
      have := ih _ _ _ h
      simp only [List.length_append, List.length_cons, List.length_nil] at this ⊢
      omega

/-- From a non-empty population of a Go slice's length, with `1 ≤ PopulationSize < 2^63` and
`0 ≤ ElitismRate ≤ 1`, the generation loop never panics: each generation keeps at least
`PopulationSize` drivers. -/
theorem evolveLoop_ok (hsize : 1 ≤ no.populationSize) (hsize' : no.populationSize < 2 ^ 63)
    (hrate : 0 ≤ no.elitismRate) (hrate1 : no.elitismRate ≤ 1)
    (gens : List Nat) (population : List NPUDriver) (history : List GenerationStats) (r : Rand)
    (hne : population ≠ []) (hn : population.length < 2 ^ 63) :
    ∃ res, no.evolveLoop E gens population history r = .ok res := by
  induction gens generalizing population history r with
  | nil => exact ⟨_, rfl⟩
  | cons gen gens ih =>
    simp only [NPUOntogenesis.evolveLoop]
    split_ifs
    · exact ⟨_, rfl⟩
    · set assessed := population.map fun npu => (npu.assessEntelechy E).1
      have hlen₀ : (calculateDiversity E assessed).length = population.length := by
        rw [calculateDiversity_length, List.length_map]
      have hlen : (calculateDiversity E assessed).length =
          (assessed.map fun npu => npu.entelechyGenome.fitness).length := by
        rw [hlen₀, List.length_map, List.length_map]
      have hne' : calculateDiversity E assessed ≠ [] := by
        rw [← List.length_pos, hlen₀]
        exact List.length_pos.mpr hne
      have hn' : (calculateDiversity E assessed).length < 2 ^ 63 := hlen₀ ▸ hn
      obtain ⟨pop, r', hpop, hpoplen⟩ :=
        evolveGeneration_length E no hlen hne' (eliteCount_bounds no hrate hrate1 hn').1 r
      have hpopne : pop ≠ [] := by
        rw [← List.length_pos, hpoplen]; omega
      simp only [hpop, ok_bind]
      exact ih pop _ r' hpopne (by rw [hpoplen]; omega)

/-- With a non-empty seed list of a Go slice's length, `1 ≤ PopulationSize < 2^63` and
`0 ≤ ElitismRate ≤ 1`, `EvolvePopulation` returns for every outcome of the draws, with at most
`MaxGenerations` statistics entries. -/
theorem evolvePopulation_of_ne_nil (hsize : 1 ≤ no.populationSize)
    (hsize' : no.populationSize < 2 ^ 63) (hrate : 0 ≤ no.elitismRate)
    (hrate1 : no.elitismRate ≤ 1) (seeds : List NPUDriver) (hseeds : seeds ≠ [])
    (hseeds' : seeds.length < 2 ^ 63) (r : Rand) :
    ∃ pop hist r', no.evolvePopulation E seeds r = .ok (pop, hist, r') ∧
      hist.length ≤ no.maxGenerations.toNat := by
  obtain ⟨⟨pop, hist, r'⟩, h⟩ := evolveLoop_ok E no hsize hsize' hrate hrate1
    (List.range no.maxGenerations.toNat) seeds [] r hseeds hseeds'
  exact ⟨pop, hist, r', h, by simpa using evolveLoop_history E no _ _ _ _ _ h⟩

theorem evolvePopulation_of_ne_nil_of_one_seed :
    1 ≤ defaultNPUOntogenesis.populationSize ∧ defaultNPUOntogenesis.populationSize < 2 ^ 63 ∧
      0 ≤ defaultNPUOntogenesis.elitismRate ∧ defaultNPUOntogenesis.elitismRate ≤ 1 ∧
      [newNPUDriver steadyEntelechy] ≠ [] ∧ [newNPUDriver steadyEntelechy].length < 2 ^ 63 ∧
      ∃ pop hist r', defaultNPUOntogenesis.evolvePopulation steadyEntelechy
          [newNPUDriver steadyEntelechy] ⟨fun _ => 0, 0⟩ = .ok (pop, hist, r') ∧
        hist.length ≤ defaultNPUOntogenesis.maxGenerations.toNat := by
  have hrate : 0 ≤ defaultNPUOntogenesis.elitismRate := by norm_num [defaultNPUOntogenesis]
  have hrate1 : defaultNPUOntogenesis.elitismRate ≤ 1 := by norm_num [defaultNPUOntogenesis]
  exact ⟨by decide, by decide, hrate, hrate1, List.cons_ne_nil _ _, by decide,
    evolvePopulation_of_ne_nil steadyEntelechy defaultNPUOntogenesis (by decide) (by decide) hrate
      hrate1 _ (List.cons_ne_nil _ _) (by decide) _⟩

/-- With no seeds the first generation's best fitness is 0: below a positive threshold,
`evolveGeneration` runs on the empty population and its first tournament panics. -/
theorem evolvePopulation_nil (hgen : 1 ≤ no.maxGenerations) (hthr : 0 < no.fitnessThreshold)
    (hsize : 1 ≤ no.populationSize) (r : Rand) :
    no.evolvePopulation E [] r = .error "invalid argument to Intn" := by
  obtain ⟨k, hk⟩ : ∃ k, no.maxGenerations.toNat = k + 1 :=
    ⟨_, (Nat.succ_pred_eq_of_pos (by omega)).symm⟩
  have hbest : ¬(maxFloat64 [] ≥ no.fitnessThreshold) := not_le.mpr hthr
  simp only [NPUOntogenesis.evolvePopulation, hk, List.range_succ_eq_map, NPUOntogenesis.evolveLoop,
    List.map_nil, if_neg hbest]
  rw [show calculateDiversity E [] = [] from rfl, evolveGeneration_nil E no hsize]
  rfl

/-! ## Panics and oversized generations -/

/-- As `steadyEntelechy`, but new dimensions score 0, so that a new driver's fitness is 0. -/
def dormantEntelechy : Entelechy :=
  { steadyEntelechy with
    newOntologicalDimension := ⟨0, 0, 0⟩
    newTeleologicalDimension := ⟨0, 0, 0⟩
    newCognitiveDimension := ⟨0, 0, 0⟩
    newIntegrativeDimension := ⟨0, 0, 0⟩
    newEvolutionaryDimension := ⟨0, 0, 0, 0⟩ }

theorem evolve_population_panics_or_overfills :
    (∀ (E : Entelechy) (r : Rand),
      defaultNPUOntogenesis.evolvePopulation E [] r = .error "invalid argument to Intn") ∧
    ∀ r : Rand, ∃ pop hist r',
      { defaultNPUOntogenesis with elitismRate := 1, maxGenerations := 1 }.evolvePopulation
          dormantEntelechy (List.replicate 30 (newNPUDriver dormantEntelechy)) r =
        .ok (pop, hist, r') ∧ pop.length = 30 := by
  refine ⟨fun E r => evolvePopulation_nil E _ (by decide) (by norm_num [defaultNPUOntogenesis])
    (by decide) r, fun r => ?_⟩
  obtain ⟨d, hd⟩ : ∃ d, ((newNPUDriver dormantEntelechy).assessEntelechy dormantEntelechy).1 = d :=
    ⟨_, rfl⟩
  have hfit : d.entelechyGenome.fitness = 0 := by
    rw [← hd]
    norm_num [NPUDriver.assessEntelechy, dormantEntelechy, steadyEntelechy, newNPUDriver,
      EntelechyGenome.calculateFitness, NPUDimensions.genes, NPUDimensions.assess]
  have hbest : ¬(maxFloat64 (List.replicate 30 (0 : ℚ)) ≥ defaultNPUOntogenesis.fitnessThreshold) :=
    not_le.mpr (lt_of_le_of_lt (maxFloat64_le (fun v hv => (List.eq_of_mem_replicate hv).le)
      le_rfl) (by norm_num [defaultNPUOntogenesis]))
  have hlen : (calculateDiversity dormantEntelechy (List.replicate 30 d)).length =
      (List.replicate 30 (0 : ℚ)).length := by
    simp only [calculateDiversity_length, List.length_replicate]
  have hne : calculateDiversity dormantEntelechy (List.replicate 30 d) ≠ [] := by
    rw [← List.length_pos, calculateDiversity_length, List.length_replicate]; omega
  have h30 : { defaultNPUOntogenesis with elitismRate := 1, maxGenerations := 1 }.eliteCount 30 = 30 := by
    rw [NPUOntogenesis.eliteCount, floatToInt64_of_nonneg (by norm_num) (by norm_num)]
    norm_num
  obtain ⟨pop, r', hpop, hpoplen⟩ := evolveGeneration_length dormantEntelechy
    { defaultNPUOntogenesis with elitismRate := 1, maxGenerations := 1 } hlen hne
    (by rw [calculateDiversity_length, List.length_replicate, h30]; decide) r
  refine ⟨pop, [⟨0, maxFloat64 (List.replicate 30 0), avgFloat64 (List.replicate 30 0), 30⟩], r',
    ?_, ?_⟩
  · rw [NPUOntogenesis.evolvePopulation, show List.range (1 : Int).toNat = [0] from rfl,
      NPUOntogenesis.evolveLoop, List.map_replicate, List.map_replicate, hd, hfit]
    split_ifs with hb
    · simp only at hb
      exact absurd hb hbest
    · rw [hpop]
      rfl
  · rw [hpoplen, calculateDiversity_length, List.length_replicate, h30]
    rfl

end Ecco9.Npu
