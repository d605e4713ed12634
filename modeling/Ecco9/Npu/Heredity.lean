import Ecco9.Npu.Ontogenesis
import Mathlib.Tactic.IntervalCases

/-! # What offspring inherit

Every offspring has a new driver's dimensions, mutated at most once, whoever its parents are:
selection and crossover decide only a genome that the next assessment replaces. What passes from
parent to child is the line of descent. -/

namespace Ecco9.Npu

variable (E : Entelechy) (no : NPUOntogenesis)

/-! ## The operators -/

@[simp] theorem selfGenerate_dimensions (nd : NPUDriver) :
    (nd.selfGenerate E).dimensions = (newNPUDriver E).dimensions := rfl

@[simp] theorem selfGenerate_generation (nd : NPUDriver) :
    (nd.selfGenerate E).generation = nd.generation + 1 := rfl

@[simp] theorem selfGenerate_lineage (nd : NPUDriver) :
    (nd.selfGenerate E).lineage = nd.entelechyGenome.id :: nd.lineage := rfl

@[simp] theorem assessEntelechy_generation (nd : NPUDriver) :
    (nd.assessEntelechy E).1.generation = nd.generation := rfl

@[simp] theorem assessEntelechy_lineage (nd : NPUDriver) :
    (nd.assessEntelechy E).1.lineage = nd.lineage := rfl

/-- `applyMutations` reads nothing of the driver but its dimensions. -/
theorem applyMutations_dimensions {npu npu' : NPUDriver} (h : npu.dimensions = npu'.dimensions)
    (r : Rand) :
    (no.applyMutations npu r).1.dimensions = (no.applyMutations npu' r).1.dimensions := by
  unfold NPUOntogenesis.applyMutations
  rw [h]

/-- The dimensions of a `SelfReproduce` offspring are a new driver's after `applyMutations`,
assessed, whoever the parents are. -/
theorem selfReproduce_dimensions (parent1 parent2 : NPUDriver) (r : Rand) :
    ∃ m : Rand, (no.selfReproduce E parent1 parent2 r).1.dimensions =
      (no.applyMutations (newNPUDriver E) m).1.dimensions.assess E := by
  unfold NPUOntogenesis.selfReproduce
  split
  next _ r₁ _ =>
  exact ⟨r₁, congrArg (NPUDimensions.assess E) (applyMutations_dimensions no rfl r₁)⟩

/-! ## Tournaments -/

theorem Rand.intn_length {fitnesses : List ℚ} (hpos : 0 < fitnesses.length) (r : Rand) :
    r.intn fitnesses.length =
      .ok (r.outputs r.next % fitnesses.length, { r with next := r.next + 1 }) :=
  if_neg (by omega)

theorem index_mod {fitnesses : List ℚ} (hpos : 0 < fitnesses.length) (m : Nat) :
    index fitnesses (m % fitnesses.length) = .ok (fitnesses.getD (m % fitnesses.length) 0) := by
  simp [index, List.getD_eq_getElem?_getD, List.getElem?_eq_getElem (Nat.mod_lt _ hpos)]

/-- A round draws the next contestant and keeps it only if strictly fitter. -/
theorem tournamentRound_eq {fitnesses : List ℚ} (hpos : 0 < fitnesses.length)
    (best : (Nat × ℚ) × Rand) (k : Nat) :
    tournamentRound fitnesses best k =
      let i := best.2.outputs best.2.next % fitnesses.length
      .ok (if fitnesses.getD i 0 > best.1.2 then (i, fitnesses.getD i 0) else best.1,
        { best.2 with next := best.2.next + 1 }) := by
  simp only [tournamentRound, Rand.intn_length hpos, ok_bind, index_mod hpos]
  split_ifs <;> rfl

/-- On a non-empty list, `tournamentSelection` takes three draws and returns the first of the
three contestants with the highest fitness. -/
theorem tournamentSelection_first_best {fitnesses : List ℚ} (h : fitnesses ≠ []) (r : Rand) :
    let draw := fun k => r.outputs (r.next + k) % fitnesses.length
    let f := fun i => fitnesses.getD i 0
    ∃ k < 3, tournamentSelection fitnesses r = .ok (draw k, { r with next := r.next + 3 }) ∧
      (∀ l < k, f (draw l) < f (draw k)) ∧ ∀ l < 3, f (draw l) ≤ f (draw k) := by
  intro draw f
  have hpos : 0 < fitnesses.length := List.length_pos.mpr h
  simp only [tournamentSelection, Rand.intn_length hpos, ok_bind, index_mod hpos,
    show List.range' 1 (3 - 1) = [1, 2] from rfl, List.foldlM_cons, List.foldlM_nil,
    tournamentRound_eq hpos, pure_bind, Nat.add_assoc]
  simp only [draw, Nat.add_zero, Nat.reduceAdd]
  split_ifs with h₁ h₂ h₂ <;> dsimp only at h₂
  · refine ⟨2, by norm_num, rfl, fun l hl => ?_, fun l hl => ?_⟩ <;>
      interval_cases l <;> (try simp only [add_zero] at *) <;> linarith only [h₁, h₂]
  · refine ⟨1, by norm_num, rfl, fun l hl => ?_, fun l hl => ?_⟩ <;>
      interval_cases l <;> (try simp only [add_zero] at *) <;> linarith only [h₁, h₂]
  · refine ⟨2, by norm_num, rfl, fun l hl => ?_, fun l hl => ?_⟩ <;>
      interval_cases l <;> (try simp only [add_zero] at *) <;> linarith only [h₁, h₂]
  · refine ⟨0, by norm_num, rfl, fun l hl => ?_, fun l hl => ?_⟩ <;>
      interval_cases l <;> (try simp only [add_zero] at *) <;> linarith only [h₁, h₂]

theorem tournamentSelection_first_best_of_three : [(1 : ℚ), 3, 2] ≠ [] ∧
    ∃ k < 3, tournamentSelection [(1 : ℚ), 3, 2] ⟨id, 0⟩ = .ok ((0 + k) % 3, ⟨id, 0 + 3⟩) ∧
      (∀ l < k, [(1 : ℚ), 3, 2].getD ((0 + l) % 3) 0 < [(1 : ℚ), 3, 2].getD ((0 + k) % 3) 0) ∧
      ∀ l < 3, [(1 : ℚ), 3, 2].getD ((0 + l) % 3) 0 ≤ [(1 : ℚ), 3, 2].getD ((0 + k) % 3) 0 :=
  ⟨List.cons_ne_nil _ _, tournamentSelection_first_best (List.cons_ne_nil _ _) ⟨id, 0⟩⟩

/-! ## A generation -/

/-- The dimensions an offspring of `evolveGeneration` can have: a new driver's (`SelfGenerate`),
or a new driver's after `applyMutations`, assessed (`SelfReproduce`). -/
def NPUOntogenesis.FreshDimensions (d : NPUDimensions) : Prop :=
  d = (newNPUDriver E).dimensions ∨
    ∃ r : Rand, d = (no.applyMutations (newNPUDriver E) r).1.dimensions.assess E

/-- Each turn of the offspring loop appends one offspring with fresh dimensions. -/
theorem offspringLoop_eq_append {population : List NPUDriver} {fitnesses : List ℚ} {fuel : Nat}
    {newPopulation : List NPUDriver} {r : Rand} {res : List NPUDriver × Rand}
    (h : no.offspringLoop E population fitnesses fuel newPopulation r = .ok res) :
    ∃ offspring, res.1 = newPopulation ++ offspring ∧
      ∀ nd ∈ offspring, no.FreshDimensions E nd.dimensions := by
  induction fuel generalizing newPopulation r with
  | zero => cases h; exact ⟨[], by simp, by simp⟩
  | succ fuel ih =>
    unfold NPUOntogenesis.offspringLoop at h
    split_ifs at h
    · obtain ⟨⟨_, r₁⟩, -, h⟩ := bind_eq_ok.mp h
      obtain ⟨parent1, -, h⟩ := bind_eq_ok.mp h
      obtain ⟨⟨_, r₂⟩, -, h⟩ := bind_eq_ok.mp h
      obtain ⟨parent2, -, h⟩ := bind_eq_ok.mp h
      have hfresh : no.FreshDimensions E (if r₂.float64.1 < no.crossoverRate then
          no.selfReproduce E parent1 parent2 r₂.float64.2
        else (parent1.selfGenerate E, r₂.float64.2)).1.dimensions := by
        split_ifs
        · exact .inr (selfReproduce_dimensions E no _ _ _)
        · exact .inl rfl
      generalize (if r₂.float64.1 < no.crossoverRate then _ else _) = step at h hfresh
      obtain ⟨offspring, hres, hall⟩ := ih h
      exact ⟨step.1 :: offspring, by simp [hres], List.forall_mem_cons.mpr ⟨hfresh, hall⟩⟩
    · cases h; exact ⟨[], by simp, by simp⟩

theorem mem_of_mapM_index {α : Type} {s : List α} {idx : List Nat} {l : List α}
    (h : idx.mapM (index s) = .ok l) {x : α} (hx : x ∈ l) : x ∈ s := by
  induction idx generalizing l with
  | nil => cases h; cases hx
  | cons i idx ih =>
    rw [List.mapM_cons] at h
    obtain ⟨y, hy, h⟩ := bind_eq_ok.mp h
    obtain ⟨ys, hys, h⟩ := bind_eq_ok.mp h
    cases h
    rcases List.mem_cons.mp hx with rfl | hx
    · unfold index at hy
      split at hy <;> cases hy
      exact List.getElem?_mem ‹_›
    · exact ih hys hx

/-- On a non-empty population of a Go slice's length, with a fitness for each driver and
`0 ≤ ElitismRate ≤ 1`, `evolveGeneration` returns its elite, drawn from the population, followed by
offspring, none of which carries a parent's dimensions. -/
theorem evolveGeneration_offspring_fresh {population : List NPUDriver} {fitnesses : List ℚ}
    (hlen : population.length = fitnesses.length) (hne : population ≠ [])
    (hn : population.length < 2 ^ 63) (hrate : 0 ≤ no.elitismRate) (hrate1 : no.elitismRate ≤ 1)
    (r : Rand) :
    ∃ pop r', no.evolveGeneration E population fitnesses r = .ok (pop, r') ∧
      ∃ elite offspring, pop = elite ++ offspring ∧ (∀ nd ∈ elite, nd ∈ population) ∧
        ∀ nd ∈ offspring, no.FreshDimensions E nd.dimensions := by
  obtain ⟨pop, r', h, -⟩ :=
    evolveGeneration_length E no hlen hne (eliteCount_bounds no hrate hrate1 hn).1 r
  refine ⟨pop, r', h, ?_⟩
  obtain ⟨idx, -, h⟩ := bind_eq_ok.mp h
  obtain ⟨elite, helite, h⟩ := bind_eq_ok.mp h
  obtain ⟨offspring, hpop, hfresh⟩ := offspringLoop_eq_append E no h
  exact ⟨elite, offspring, hpop, fun _ hx => mem_of_mapM_index helite hx, hfresh⟩

theorem evolveGeneration_offspring_fresh_of_one_driver :
    [newNPUDriver steadyEntelechy].length = [(0 : ℚ)].length ∧
      [newNPUDriver steadyEntelechy] ≠ [] ∧ [newNPUDriver steadyEntelechy].length < 2 ^ 63 ∧
      0 ≤ defaultNPUOntogenesis.elitismRate ∧ defaultNPUOntogenesis.elitismRate ≤ 1 ∧
      ∃ pop r', defaultNPUOntogenesis.evolveGeneration steadyEntelechy
          [newNPUDriver steadyEntelechy] [0] ⟨fun _ => 0, 0⟩ = .ok (pop, r') ∧
        ∃ elite offspring, pop = elite ++ offspring ∧
          (∀ nd ∈ elite, nd ∈ [newNPUDriver steadyEntelechy]) ∧
          ∀ nd ∈ offspring, defaultNPUOntogenesis.FreshDimensions steadyEntelechy nd.dimensions := by
  have hrate : 0 ≤ defaultNPUOntogenesis.elitismRate := by norm_num [defaultNPUOntogenesis]
  have hrate1 : defaultNPUOntogenesis.elitismRate ≤ 1 := by norm_num [defaultNPUOntogenesis]
  exact ⟨rfl, List.cons_ne_nil _ _, by decide, hrate, hrate1, evolveGeneration_offspring_fresh
    steadyEntelechy defaultNPUOntogenesis rfl (List.cons_ne_nil _ _) (by decide) hrate hrate1 _⟩

/-! ## A whole run -/

/-- The dimensions a driver of a run from `seeds` can have: a seed's, or fresh ones, after some
number of assessments. -/
def NPUOntogenesis.SeedOrFresh (seeds : List NPUDriver) (d : NPUDimensions) : Prop :=
  ∃ d₀ k, (d₀ ∈ seeds.map (·.dimensions) ∨ no.FreshDimensions E d₀) ∧
    d = (NPUDimensions.assess E)^[k] d₀

theorem NPUOntogenesis.SeedOrFresh.assess {seeds : List NPUDriver} {d : NPUDimensions}
    (h : no.SeedOrFresh E seeds d) : no.SeedOrFresh E seeds (d.assess E) := by
  obtain ⟨d₀, k, h₀, rfl⟩ := h
  exact ⟨d₀, k + 1, h₀, (Function.iterate_succ_apply' _ _ _).symm⟩

theorem forall_mem_modify {α : Type} {P : α → Prop} {g : α → α} (hg : ∀ x, P x → P (g x))
    (n : Nat) {l : List α} (h : ∀ x ∈ l, P x) : ∀ x ∈ l.modify g n, P x := by
  induction l generalizing n with
  | nil => simp
  | cons y l ih =>
    obtain ⟨hy, hl⟩ := List.forall_mem_cons.mp h
    cases n with
    | zero => exact List.modify_zero_cons g y l ▸ List.forall_mem_cons.mpr ⟨hg y hy, hl⟩
    | succ n => exact List.modify_succ_cons g y l n ▸ List.forall_mem_cons.mpr ⟨hy, ih n hl⟩

/-- What assessing preserves, `calculateDiversity` preserves. -/
theorem forall_mem_calculateDiversity {P : NPUDriver → Prop}
    (hP : ∀ nd, P nd → P (nd.assessEntelechy E).1) {population : List NPUDriver}
    (h : ∀ nd ∈ population, P nd) : ∀ nd ∈ calculateDiversity E population, P nd := by
  have hfold : ∀ (ks : List Nat) (g : List NPUDriver → Nat → List NPUDriver),
      (∀ p k, (∀ nd ∈ p, P nd) → ∀ nd ∈ g p k, P nd) →
        ∀ p, (∀ nd ∈ p, P nd) → ∀ nd ∈ ks.foldl g p, P nd := by
    intro ks g hg
    induction ks with
    | nil => exact fun _ hp => hp
    | cons k ks ih => exact fun p hp => ih (g p k) (hg p k hp)
  unfold calculateDiversity
  dsimp only
  split_ifs
  · exact h
  · exact hfold _ _ (fun p _ hp => hfold _ _
      (fun _ _ hq => forall_mem_modify hP _ (forall_mem_modify hP _ hq)) p hp) _ h

theorem evolveGeneration_seedOrFresh {seeds population : List NPUDriver} {fitnesses : List ℚ}
    {r : Rand} {res : List NPUDriver × Rand}
    (hpop : ∀ nd ∈ population, no.SeedOrFresh E seeds nd.dimensions)
    (h : no.evolveGeneration E population fitnesses r = .ok res) :
    ∀ nd ∈ res.1, no.SeedOrFresh E seeds nd.dimensions := by
  obtain ⟨idx, -, h⟩ := bind_eq_ok.mp h
  obtain ⟨elite, helite, h⟩ := bind_eq_ok.mp h
  obtain ⟨offspring, hres, hfresh⟩ := offspringLoop_eq_append E no h
  intro nd hnd
  rcases List.mem_append.mp (hres ▸ hnd) with hnd | hnd
  · exact hpop nd (mem_of_mapM_index helite hnd)
  · exact ⟨nd.dimensions, 0, .inr (hfresh nd hnd), rfl⟩

theorem evolveLoop_seedOrFresh {seeds : List NPUDriver} (gens : List Nat)
    (population : List NPUDriver) (history : List GenerationStats) (r : Rand)
    {res : List NPUDriver × List GenerationStats × Rand}
    (hpop : ∀ nd ∈ population, no.SeedOrFresh E seeds nd.dimensions)
    (h : no.evolveLoop E gens population history r = .ok res) :
    ∀ nd ∈ res.1, no.SeedOrFresh E seeds nd.dimensions := by
  induction gens generalizing population history r with
  | nil => cases h; exact hpop
  | cons gen gens ih =>
    simp only [NPUOntogenesis.evolveLoop] at h
    have hdiv : ∀ nd ∈ calculateDiversity E (population.map fun npu => (npu.assessEntelechy E).1),
        no.SeedOrFresh E seeds nd.dimensions :=
      forall_mem_calculateDiversity E (fun _ hnd => hnd.assess)
        (List.forall_mem_map.mpr fun nd hnd => (hpop nd hnd).assess)
    split_ifs at h
    · cases h; exact hdiv
    · obtain ⟨⟨pop, r'⟩, hgen, h⟩ := bind_eq_ok.mp h
      exact ih pop _ r' (evolveGeneration_seedOrFresh E no hdiv hgen) h

/-- Whenever `EvolvePopulation` returns, every driver it returns has a seed's dimensions, or a
new driver's mutated at most once, assessed some number of times: no generation builds on the
mutations of an earlier one, whatever the draws. -/
theorem evolvePopulation_seedOrFresh {seeds : List NPUDriver} {r : Rand}
    {res : List NPUDriver × List GenerationStats × Rand}
    (h : no.evolvePopulation E seeds r = .ok res) :
    ∀ nd ∈ res.1, no.SeedOrFresh E seeds nd.dimensions :=
  evolveLoop_seedOrFresh E no _ _ _ _
    (fun nd hnd => ⟨nd.dimensions, 0, .inl (List.mem_map_of_mem _ hnd), rfl⟩) h

theorem evolvePopulation_seedOrFresh_of_one_seed :
    ∃ res, defaultNPUOntogenesis.evolvePopulation steadyEntelechy [newNPUDriver steadyEntelechy]
        ⟨fun _ => 0, 0⟩ = .ok res ∧
      ∀ nd ∈ res.1, defaultNPUOntogenesis.SeedOrFresh steadyEntelechy
        [newNPUDriver steadyEntelechy] nd.dimensions := by
  obtain ⟨res, h⟩ := evolveLoop_ok steadyEntelechy defaultNPUOntogenesis (by decide) (by decide)
    (by norm_num [defaultNPUOntogenesis]) (by norm_num [defaultNPUOntogenesis])
    (List.range defaultNPUOntogenesis.maxGenerations.toNat) [newNPUDriver steadyEntelechy] []
    ⟨fun _ => 0, 0⟩ (List.cons_ne_nil _ _) (by decide)
  exact ⟨res, h, evolvePopulation_seedOrFresh steadyEntelechy defaultNPUOntogenesis h⟩

/-! ## The line of descent -/

theorem selfOptimize_eq_iterate (npu : NPUDriver) (iterations : Int) :
    NPUOntogenesis.selfOptimize E npu iterations =
      (NPUOntogenesis.selfOptimizeStep E)^[iterations.toNat] npu := by
  unfold NPUOntogenesis.selfOptimize
  induction iterations.toNat with
  | zero => rfl
  | succ n ih => rw [List.range_succ, List.foldl_append, ih, Function.iterate_succ_apply']; rfl

/-- One iteration stays on the driver or moves to its child, one generation on, whose lineage
starts with the driver's genome ID. -/
theorem selfOptimizeStep_descends (nd : NPUDriver) :
    ((NPUOntogenesis.selfOptimizeStep E nd).lineage = nd.lineage ∧
      (NPUOntogenesis.selfOptimizeStep E nd).generation = nd.generation) ∨
    ((NPUOntogenesis.selfOptimizeStep E nd).lineage =
        (nd.assessEntelechy E).1.entelechyGenome.id :: nd.lineage ∧
      (NPUOntogenesis.selfOptimizeStep E nd).generation = nd.generation + 1) := by
  unfold NPUOntogenesis.selfOptimizeStep
  dsimp only
  split_ifs
  · exact .inr ⟨rfl, rfl⟩
  · exact .inl ⟨rfl, rfl⟩

/-- `SelfOptimize` of the ontogenesis returns its argument or a descendant of it: the lineage is
the argument's with one genome ID put in front per child kept, at most one per iteration, and
the generation is higher by the number of children kept. -/
theorem selfOptimize_descends (npu : NPUDriver) (iterations : Int) :
    ∃ ancestors : List String,
      (NPUOntogenesis.selfOptimize E npu iterations).lineage = ancestors ++ npu.lineage ∧
      (NPUOntogenesis.selfOptimize E npu iterations).generation = npu.generation + ancestors.length ∧
      ancestors.length ≤ iterations.toNat := by
  rw [selfOptimize_eq_iterate]
  induction iterations.toNat with
  | zero => exact ⟨[], rfl, by simp, le_rfl⟩
  | succ n ih =>
    obtain ⟨ancestors, hl, hg, hn⟩ := ih
    rw [Function.iterate_succ_apply']
    rcases selfOptimizeStep_descends E ((NPUOntogenesis.selfOptimizeStep E)^[n] npu) with
      ⟨hl', hg'⟩ | ⟨hl', hg'⟩
    · exact ⟨ancestors, by rw [hl', hl], by rw [hg', hg], by omega⟩
    · refine ⟨_ :: ancestors, by rw [hl', hl, List.cons_append], ?_, by simp; omega⟩
      rw [hg', hg, List.length_cons]
      push_cast
      ring

end Ecco9.Npu
