import Ecco9.Npu.Heredity
import Mathlib.Data.List.Sort

/-! # The ontogenesis keeps its best

`SelfOptimize` and `evolveGeneration` keep their fittest drivers, so, when assessing again changes
nothing (`Entelechy.Stable`), neither the hill climber's fitness nor the best fitness
`EvolvePopulation` records ever falls. -/

namespace Ecco9.Npu

variable (E : Entelechy) (no : NPUOntogenesis)

/-- The fitness `AssessEntelechy` reports for a driver. -/
def NPUDriver.assessedFitness (nd : NPUDriver) : ℚ := (nd.assessEntelechy E).2.fitness

/-- What the loops need of `core/entelechy`: assessing assessed dimensions again changes
nothing, and `CalculateFitness` reads only the genes. -/
structure Entelechy.Stable : Prop where
  assess_assess : ∀ d : NPUDimensions, (d.assess E).assess E = d.assess E
  calculateFitness_congr : ∀ g g' : EntelechyGenome, g.genes = g'.genes →
    E.calculateFitness g = E.calculateFitness g'

/-- What the generation loop of `EvolvePopulation` keeps: the best fitnesses recorded so far
never fall, and the current population still attains each of them. -/
structure EliteRecord (population : List NPUDriver) (history : List GenerationStats) : Prop where
  sorted : (history.map (·.bestFitness)).Sorted (· ≤ ·)
  attained : ∀ s ∈ history, s.bestFitness ≤ maxFloat64 (population.map (·.assessedFitness E))

variable {E}

/-- Under a stable assessment, a driver assessed again reports the fitness it reported. -/
theorem Entelechy.Stable.assessedFitness_assess (hs : E.Stable) (nd : NPUDriver) :
    (nd.assessEntelechy E).1.assessedFitness E = nd.assessedFitness E := by
  simp only [NPUDriver.assessedFitness, assessEntelechy_snd, assessEntelechy_fitness,
    assessEntelechy_dimensions, hs.assess_assess]
  exact hs.calculateFitness_congr _ _ rfl

theorem steadyEntelechy_stable : steadyEntelechy.Stable :=
  ⟨fun _ => rfl, fun g g' h => by simp only [steadyEntelechy, h]⟩

/-! ## The hill climber -/

/-- One iteration never lowers the reported fitness: it moves to a child that reported a higher
one, or stays on the driver it has just assessed. -/
theorem selfOptimizeStep_assessedFitness (hs : E.Stable) (nd : NPUDriver) :
    nd.assessedFitness E ≤ (NPUOntogenesis.selfOptimizeStep E nd).assessedFitness E := by
  unfold NPUOntogenesis.selfOptimizeStep
  dsimp only
  split_ifs with h
  · rw [hs.assessedFitness_assess]
    exact h.le
  · rw [hs.assessedFitness_assess]

/-- Under a stable assessment, more iterations of `SelfOptimize` never give a less fit driver;
in particular it never returns a driver less fit than its argument. -/
theorem selfOptimize_assessedFitness_mono (hs : E.Stable) (npu : NPUDriver) {k m : Int}
    (hkm : k ≤ m) :
    (NPUOntogenesis.selfOptimize E npu k).assessedFitness E ≤
      (NPUOntogenesis.selfOptimize E npu m).assessedFitness E := by
  rw [selfOptimize_eq_iterate, selfOptimize_eq_iterate]
  obtain ⟨j, hj⟩ : ∃ j, m.toNat = j + k.toNat := ⟨m.toNat - k.toNat, by omega⟩
  rw [hj, Function.iterate_add_apply]
  clear hj
  induction j with
  | zero => exact le_rfl
  | succ j ih =>
    rw [Function.iterate_succ_apply']
    exact ih.trans (selfOptimizeStep_assessedFitness hs _)

theorem selfOptimize_assessedFitness_mono_of_steady :
    steadyEntelechy.Stable ∧ (0 : Int) ≤ 5 ∧
      (NPUOntogenesis.selfOptimize steadyEntelechy (newNPUDriver steadyEntelechy) 0).assessedFitness
          steadyEntelechy ≤
        (NPUOntogenesis.selfOptimize steadyEntelechy (newNPUDriver steadyEntelechy) 5).assessedFitness
          steadyEntelechy :=
  ⟨steadyEntelechy_stable, by decide,
    selfOptimize_assessedFitness_mono steadyEntelechy_stable _ (by decide)⟩

/-! ## The driver's own loop

`SelfOptimize` of the driver compares fitnesses too, but the genome it would keep is the one it
holds already (`selfOptimizeStep_eq`): it is blind to the fitness. -/

/-- One iteration of the driver's `SelfOptimize` leaves dimensions and genes that depend only on
the dimensions it starts from. -/
theorem selfOptimizeStep_blind (E : Entelechy) (calculateFitness : EntelechyGenome → ℚ)
    (σ : Equiv.Perm (Fin 5)) {nd nd' : NPUDriver} (h : nd.dimensions = nd'.dimensions) :
    (nd.selfOptimizeStep { E with calculateFitness := calculateFitness } σ).dimensions =
        (nd'.selfOptimizeStep E σ).dimensions ∧
      (nd.selfOptimizeStep { E with calculateFitness := calculateFitness } σ).entelechyGenome.genes =
        (nd'.selfOptimizeStep E σ).entelechyGenome.genes := by
  rw [selfOptimizeStep_eq, selfOptimizeStep_eq, assessEntelechy_dimensions,
    assessEntelechy_dimensions, h]
  exact ⟨rfl, rfl⟩

/-- Whatever `CalculateFitness` computes, the driver's `SelfOptimize` leaves the same dimensions
and genes, for every number of iterations, every visiting order and every driver: the fitness
comparison never changes what the loop does. -/
theorem selfOptimize_fitness_blind (E : Entelechy) (calculateFitness : EntelechyGenome → ℚ)
    (orders : Nat → Equiv.Perm (Fin 5)) (iterations : Int) (nd : NPUDriver) :
    (nd.selfOptimize { E with calculateFitness := calculateFitness } orders iterations).dimensions =
        (nd.selfOptimize E orders iterations).dimensions ∧
      (nd.selfOptimize { E with calculateFitness := calculateFitness } orders
          iterations).entelechyGenome.genes =
        (nd.selfOptimize E orders iterations).entelechyGenome.genes := by
  unfold NPUDriver.selfOptimize
  suffices ∀ (is : List Nat) (nd nd' : NPUDriver), nd.dimensions = nd'.dimensions →
      nd.entelechyGenome.genes = nd'.entelechyGenome.genes →
      (is.foldl (fun nd i => nd.selfOptimizeStep { E with calculateFitness := calculateFitness }
          (orders i)) nd).dimensions = (is.foldl (fun nd i => nd.selfOptimizeStep E (orders i)) nd').dimensions ∧
        (is.foldl (fun nd i => nd.selfOptimizeStep { E with calculateFitness := calculateFitness }
          (orders i)) nd).entelechyGenome.genes =
          (is.foldl (fun nd i => nd.selfOptimizeStep E (orders i)) nd').entelechyGenome.genes from
    this _ nd nd rfl rfl
  intro is
  induction is with
  | nil => exact fun _ _ hd hg => ⟨hd, hg⟩
  | cons i is ih =>
    intro nd nd' hd _
    obtain ⟨hd', hg'⟩ := selfOptimizeStep_blind E calculateFitness (orders i) hd
    exact ih _ _ hd' hg'

/-! ## The best fitness of `EvolvePopulation` -/

/-- The loop of `maxFloat64` from `m` ends on an upper bound of `m` and of every value, which is
`m` or one of the values. -/
theorem foldl_maxStep (values : List ℚ) (m : ℚ) :
    m ≤ values.foldl (fun max v => if v > max then v else max) m ∧
      (∀ v ∈ values, v ≤ values.foldl (fun max v => if v > max then v else max) m) ∧
      (values.foldl (fun max v => if v > max then v else max) m = m ∨
        values.foldl (fun max v => if v > max then v else max) m ∈ values) := by
  induction values generalizing m with
  | nil => exact ⟨le_rfl, by simp, .inl rfl⟩
  | cons w vs ih =>
    rw [List.foldl_cons]
    obtain ⟨h₁, h₂, h₃⟩ := ih (if w > m then w else m)
    have hw : w ≤ (if w > m then w else m) ∧ m ≤ (if w > m then w else m) := by
      split_ifs with h
      · exact ⟨le_rfl, h.le⟩
      · exact ⟨not_lt.mp h, le_rfl⟩
    refine ⟨hw.2.trans h₁, List.forall_mem_cons.mpr ⟨hw.1.trans h₁, h₂⟩, ?_⟩
    rcases h₃ with h | h
    · rw [h]
      split_ifs
      · exact .inr (List.mem_cons_self w vs)
      · exact .inl rfl
    · exact .inr (List.mem_cons_of_mem w h)

theorem le_maxFloat64 {values : List ℚ} {v : ℚ} (h : v ∈ values) : v ≤ maxFloat64 values := by
  cases values with
  | nil => cases h
  | cons w vs =>
    obtain ⟨h₁, h₂, -⟩ := foldl_maxStep vs w
    rcases List.mem_cons.mp h with rfl | h
    · exact h₁
    · exact h₂ v h

theorem maxFloat64_mem {values : List ℚ} (h : values ≠ []) : maxFloat64 values ∈ values := by
  cases values with
  | nil => exact absurd rfl h
  | cons w vs =>
    rcases (foldl_maxStep vs w).2.2 with h | h
    · show vs.foldl _ w ∈ w :: vs
      rw [h]
      exact List.mem_cons_self w vs
    · exact List.mem_cons_of_mem w h

theorem mem_of_mapM_index_of_getElem? {α : Type} {s : List α} {idx : List Nat} {l : List α}
    (h : idx.mapM (index s) = .ok l) {i : Nat} (hi : i ∈ idx) {x : α} (hx : s[i]? = some x) :
    x ∈ l := by
  induction idx generalizing l with
  | nil => cases hi
  | cons j idx ih =>
    rw [List.mapM_cons] at h
    obtain ⟨y, hy, h⟩ := bind_eq_ok.mp h
    obtain ⟨ys, hys, h⟩ := bind_eq_ok.mp h
    cases h
    rcases List.mem_cons.mp hi with rfl | hi
    · simp only [index, hx] at hy
      cases hy
      exact List.mem_cons_self _ _
    · exact List.mem_cons_of_mem _ (ih hys hi)

/-- With an elite of at least one, `evolveGeneration` carries a fittest driver of its population
into the new one. -/
theorem evolveGeneration_keeps_fittest {population : List NPUDriver} {fitnesses : List ℚ}
    {r : Rand} {res : List NPUDriver × Rand} (hlen : population.length = fitnesses.length)
    (hne : fitnesses ≠ []) (helite : 0 < no.eliteCount population.length)
    (h : no.evolveGeneration E population fitnesses r = .ok res) :
    ∃ (i : Nat) (nd : NPUDriver) (f : ℚ), population[i]? = some nd ∧ fitnesses[i]? = some f ∧ nd ∈ res.1 ∧
      ∀ f' ∈ fitnesses, f' ≤ f := by
  obtain ⟨idx, hidx, i, hmem, f, hf, hmax⟩ := selectElite_max fitnesses helite hne
  obtain ⟨idx', hidx', h⟩ := bind_eq_ok.mp h
  obtain rfl : idx' = idx := Except.ok.inj (hidx'.symm.trans hidx)
  obtain ⟨elite, helite', h⟩ := bind_eq_ok.mp h
  obtain ⟨offspring, hpop, -⟩ := offspringLoop_eq_append E no h
  have hi : i < population.length := hlen ▸ (List.getElem?_eq_some_iff.mp hf).1
  exact ⟨i, _, f, List.getElem?_eq_getElem hi, hf,
    hpop ▸ List.mem_append_left _ (mem_of_mapM_index_of_getElem? helite' hmem
      (List.getElem?_eq_getElem hi)), hmax⟩

theorem eliteCount_pos (hrate1 : no.elitismRate ≤ 1) {n : Nat} (hn : n < 2 ^ 63)
    (h : 1 ≤ (n : ℚ) * no.elitismRate) : 0 < no.eliteCount n := by
  have h₁ : (n : ℚ) * no.elitismRate ≤ n := mul_le_of_le_one_right (Nat.cast_nonneg n) hrate1
  rw [NPUOntogenesis.eliteCount,
    floatToInt64_of_nonneg (zero_le_one.trans h) (h₁.trans_lt (by exact_mod_cast hn))]
  exact Int.floor_pos.mpr h

/-- Recording a generation whose best fitness is the population's keeps the record, for any
next population at least as fit. -/
theorem EliteRecord.snoc {population population' : List NPUDriver}
    {history : List GenerationStats} (hrec : EliteRecord E population history)
    (stats : GenerationStats)
    (hbest : stats.bestFitness = maxFloat64 (population.map (·.assessedFitness E)))
    (hle : maxFloat64 (population.map (·.assessedFitness E)) ≤
      maxFloat64 (population'.map (·.assessedFitness E))) :
    EliteRecord E population' (history ++ [stats]) := by
  refine ⟨?_, fun s hs => ?_⟩
  · rw [List.Sorted, List.map_append, List.pairwise_append]
    refine ⟨hrec.sorted, List.sorted_singleton _, ?_⟩
    simp only [List.map_cons, List.map_nil, List.mem_map, List.mem_singleton]
    rintro _ ⟨s, hs, rfl⟩ _ rfl
    exact hbest ▸ hrec.attained s hs
  · rcases List.mem_append.mp hs with hs | hs
    · exact (hrec.attained s hs).trans hle
    · rw [List.mem_singleton.mp hs, hbest]
      exact hle

section Run

variable (hs : E.Stable) (hrate : 0 ≤ no.elitismRate) (hrate1 : no.elitismRate ≤ 1)
  (hsize : 1 ≤ (no.populationSize : ℚ) * no.elitismRate) (hsize' : no.populationSize < 2 ^ 63)
include hs hrate hrate1 hsize hsize'

/-- From a population whose elite has at least one driver, every run of the generation loop
returns and keeps the record. -/
theorem evolveLoop_eliteRecord (gens : List Nat) (population : List NPUDriver)
    (history : List GenerationStats) (r : Rand)
    (hpop : 1 ≤ (population.length : ℚ) * no.elitismRate) (hn : population.length < 2 ^ 63)
    (hrec : EliteRecord E population history) :
    ∃ pop hist r', no.evolveLoop E gens population history r = .ok (pop, hist, r') ∧
      EliteRecord E pop hist := by
  induction gens generalizing population history r with
  | nil => exact ⟨_, _, _, rfl, hrec⟩
  | cons gen gens ih =>
    simp only [NPUOntogenesis.evolveLoop]
    set assessed := population.map fun npu => (npu.assessEntelechy E).1
    have hF : assessed.map (fun npu => npu.entelechyGenome.fitness) =
        population.map (·.assessedFitness E) := by
      rw [List.map_map]; rfl
    have hD : (calculateDiversity E assessed).map (·.assessedFitness E) =
        population.map (·.assessedFitness E) := by
      rw [calculateDiversity_map E (·.assessedFitness E) hs.assessedFitness_assess, List.map_map]
      exact List.map_congr_left fun nd _ => hs.assessedFitness_assess nd
    have hlen : (calculateDiversity E assessed).length = population.length := by
      rw [calculateDiversity_length, List.length_map]
    have hpos : 0 < population.length := by
      by_contra h0
      rw [Nat.eq_zero_of_not_pos h0, Nat.cast_zero, zero_mul] at hpop
      exact absurd hpop (by norm_num)
    split_ifs
    · exact ⟨_, _, _, rfl, hrec.snoc _ (congrArg maxFloat64 hF) (by rw [hD])⟩
    · have hne : calculateDiversity E assessed ≠ [] := by
        rw [← List.length_pos, hlen]; exact hpos
      have hlen' : (calculateDiversity E assessed).length =
          (assessed.map fun npu => npu.entelechyGenome.fitness).length := by
        rw [hlen, List.length_map, List.length_map]
      have hFne : population.map (·.assessedFitness E) ≠ [] := by
        rw [← List.length_pos, List.length_map]; exact hpos
      obtain ⟨pop, r', hgen, hpoplen⟩ := evolveGeneration_length E no hlen' hne
        (by rw [hlen]; exact (eliteCount_bounds no hrate hrate1 hn).1) r
      obtain ⟨i, nd, f, hnd, hf, hmem, hmax⟩ := evolveGeneration_keeps_fittest no hlen'
        (hF ▸ hFne) (by rw [hlen]; exact eliteCount_pos no hrate1 hn hpop) hgen
      rw [hF] at hf hmax
      have hfnd : f = nd.assessedFitness E := by
        rw [← hD, List.getElem?_map, hnd] at hf
        exact (Option.some.inj hf).symm
      have hle : maxFloat64 (population.map (·.assessedFitness E)) ≤
          maxFloat64 (pop.map (·.assessedFitness E)) :=
        calc maxFloat64 (population.map (·.assessedFitness E))
            ≤ f := hmax _ (maxFloat64_mem hFne)
          _ = nd.assessedFitness E := hfnd
          _ ≤ maxFloat64 (pop.map (·.assessedFitness E)) := le_maxFloat64 (List.mem_map_of_mem _ hmem)
      have hpop' : 1 ≤ (pop.length : ℚ) * no.elitismRate := by
        have h : (no.populationSize : ℚ) ≤ pop.length := by
          exact_mod_cast (show no.populationSize ≤ (pop.length : Int) by rw [hpoplen]; omega)
        exact hsize.trans (mul_le_mul_of_nonneg_right h hrate)
      have hn' : pop.length < 2 ^ 63 := by rw [hpoplen, hlen]; omega
      simp only [hgen, ok_bind]
      exact ih pop _ r' hpop' hn' (hrec.snoc _ (congrArg maxFloat64 hF) hle)

/-- Under a stable assessment, with `ElitismRate ≤ 1` and large enough that the seeds, and every
generation of `PopulationSize` drivers, have an elite of at least one (the seeds' number and
`PopulationSize` being Go `int`s, below 2^63), `EvolvePopulation` returns for every outcome of the
draws; the best fitnesses it records never fall from one generation to the next, and the
population it returns attains every one of them. -/
theorem evolvePopulation_best_never_falls (seeds : List NPUDriver)
    (hseeds : 1 ≤ (seeds.length : ℚ) * no.elitismRate) (hseeds' : seeds.length < 2 ^ 63)
    (r : Rand) :
    ∃ pop hist r', no.evolvePopulation E seeds r = .ok (pop, hist, r') ∧
      (hist.map (·.bestFitness)).Sorted (· ≤ ·) ∧
      ∀ s ∈ hist, s.bestFitness ≤ maxFloat64 (pop.map (·.assessedFitness E)) := by
  obtain ⟨pop, hist, r', h, hrec⟩ := evolveLoop_eliteRecord no hs hrate hrate1 hsize hsize' _
    seeds [] r hseeds hseeds' ⟨List.sorted_nil, fun _ h => (List.not_mem_nil _ h).elim⟩
  exact ⟨pop, hist, r', h, hrec.sorted, hrec.attained⟩

end Run

theorem evolvePopulation_best_never_falls_of_ten_seeds :
    steadyEntelechy.Stable ∧ 0 ≤ defaultNPUOntogenesis.elitismRate ∧
      defaultNPUOntogenesis.elitismRate ≤ 1 ∧
      1 ≤ (defaultNPUOntogenesis.populationSize : ℚ) * defaultNPUOntogenesis.elitismRate ∧
      defaultNPUOntogenesis.populationSize < 2 ^ 63 ∧
      1 ≤ ((List.replicate 10 (newNPUDriver steadyEntelechy)).length : ℚ) *
        defaultNPUOntogenesis.elitismRate ∧
      (List.replicate 10 (newNPUDriver steadyEntelechy)).length < 2 ^ 63 ∧
      ∃ pop hist r', defaultNPUOntogenesis.evolvePopulation steadyEntelechy
          (List.replicate 10 (newNPUDriver steadyEntelechy)) ⟨fun _ => 0, 0⟩ = .ok (pop, hist, r') ∧
        (hist.map (·.bestFitness)).Sorted (· ≤ ·) ∧
        ∀ s ∈ hist, s.bestFitness ≤ maxFloat64 (pop.map (·.assessedFitness steadyEntelechy)) := by
  have hrate : 0 ≤ defaultNPUOntogenesis.elitismRate := by norm_num [defaultNPUOntogenesis]
  have hrate1 : defaultNPUOntogenesis.elitismRate ≤ 1 := by norm_num [defaultNPUOntogenesis]
  have hsize : 1 ≤ (defaultNPUOntogenesis.populationSize : ℚ) * defaultNPUOntogenesis.elitismRate := by
    norm_num [defaultNPUOntogenesis]
  have hseeds : 1 ≤ ((List.replicate 10 (newNPUDriver steadyEntelechy)).length : ℚ) *
      defaultNPUOntogenesis.elitismRate := by
    norm_num [defaultNPUOntogenesis]
  exact ⟨steadyEntelechy_stable, hrate, hrate1, hsize, by decide, hseeds, by decide,
    evolvePopulation_best_never_falls defaultNPUOntogenesis steadyEntelechy_stable hrate hrate1
      hsize (by decide) _ hseeds (by decide) _⟩

/-! ## Where the run stops -/

/-- From generation `start`, the number of entries already recorded, the loop keeps its history
numbered in order and below the threshold but for its last entry, and it stops before running
out of generations only on an entry that reaches the threshold. -/
theorem evolveLoop_history_shape (start m : Nat) (population : List NPUDriver)
    (history : List GenerationStats) (r : Rand) {res : List NPUDriver × List GenerationStats × Rand}
    (hstart : start = history.length)
    (hgen : history.map (·.generation) = List.range history.length)
    (hbelow : ∀ s ∈ history, s.bestFitness < no.fitnessThreshold)
    (h : no.evolveLoop E (List.range' start m) population history r = .ok res) :
    res.2.1.map (·.generation) = List.range res.2.1.length ∧
      (∀ s ∈ res.2.1.dropLast, s.bestFitness < no.fitnessThreshold) ∧
      (res.2.1.length < start + m →
        ∃ s ∈ res.2.1.getLast?, no.fitnessThreshold ≤ s.bestFitness) := by
  induction m generalizing start population history r with
  | zero =>
    cases h
    exact ⟨hgen, fun s hs => hbelow s (List.mem_of_mem_dropLast hs),
      fun hlt => by simp [hstart] at hlt⟩
  | succ m ih =>
    subst hstart
    simp only [List.range'_succ, NPUOntogenesis.evolveLoop] at h
    split_ifs at h with hthr
    · cases h
      refine ⟨by simp [hgen, List.range_succ], by simpa using hbelow, fun _ => ?_⟩
      simpa using hthr
    · obtain ⟨⟨pop, r'⟩, -, h⟩ := bind_eq_ok.mp h
      have key := ih _ pop _ r' (by simp) (by simp [hgen, List.range_succ]) ?_ h
      · exact ⟨key.1, key.2.1, fun hlt => key.2.2 (by omega)⟩
      · intro s hs
        rcases List.mem_append.mp hs with hs | hs
        · exact hbelow s hs
        · rw [List.mem_singleton.mp hs]; exact lt_of_not_le hthr

/-- Whenever `EvolvePopulation` returns, its history numbers the generations 0, 1, … in order,
every generation but the last had a best fitness below `FitnessThreshold`, and a history shorter
than `MaxGenerations` ends with a generation that reached it: the loop stops exactly at the first
generation whose best fitness reaches the threshold. -/
theorem evolvePopulation_stops_at_threshold {seeds : List NPUDriver} {r : Rand}
    {res : List NPUDriver × List GenerationStats × Rand}
    (h : no.evolvePopulation E seeds r = .ok res) :
    res.2.1.map (·.generation) = List.range res.2.1.length ∧
      (∀ s ∈ res.2.1.dropLast, s.bestFitness < no.fitnessThreshold) ∧
      (res.2.1.length < no.maxGenerations.toNat →
        ∃ s ∈ res.2.1.getLast?, no.fitnessThreshold ≤ s.bestFitness) := by
  rw [NPUOntogenesis.evolvePopulation, List.range_eq_range'] at h
  simpa using evolveLoop_history_shape no 0 _ seeds [] r rfl rfl (by simp) h

theorem evolvePopulation_stops_at_threshold_of_one_seed :
    ∃ res, defaultNPUOntogenesis.evolvePopulation steadyEntelechy [newNPUDriver steadyEntelechy]
        ⟨fun _ => 0, 0⟩ = .ok res ∧
      res.2.1.map (·.generation) = List.range res.2.1.length ∧
      (∀ s ∈ res.2.1.dropLast, s.bestFitness < defaultNPUOntogenesis.fitnessThreshold) ∧
      (res.2.1.length < defaultNPUOntogenesis.maxGenerations.toNat →
        ∃ s ∈ res.2.1.getLast?, defaultNPUOntogenesis.fitnessThreshold ≤ s.bestFitness) := by
  obtain ⟨res, h⟩ := evolveLoop_ok steadyEntelechy defaultNPUOntogenesis (by decide) (by decide)
    (by norm_num [defaultNPUOntogenesis]) (by norm_num [defaultNPUOntogenesis])
    (List.range defaultNPUOntogenesis.maxGenerations.toNat) [newNPUDriver steadyEntelechy] []
    ⟨fun _ => 0, 0⟩ (List.cons_ne_nil _ _) (by decide)
  exact ⟨res, h, evolvePopulation_stops_at_threshold defaultNPUOntogenesis h⟩

end Ecco9.Npu
