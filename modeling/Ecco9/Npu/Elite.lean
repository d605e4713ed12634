import Mathlib.Logic.Equiv.Basic
import Mathlib.GroupTheory.Perm.Basic
import Mathlib.Data.List.FinRange
import Mathlib.Order.Fin.Basic

/-! # `selectElite`: an exchange sort and its first `count` indices

`selectElite` pairs each fitness with its index, sorts the pairs in place by fitness, largest
first, with the nested exchange loop (for each `i`, swap in any later `j` that is strictly
larger), and returns the indices of the first `count`. The sort is correct: after the pass at
`i`, position `i` holds the largest of positions `i` onwards, and the earlier positions are left
alone. Fitnesses are taken from any linear order: a float without NaN is one. -/

namespace Ecco9.Npu

/-- `indexedFitness`. -/
structure IndexedFitness (α : Type) where
  index : Nat
  fitness : α

variable {α : Type} [LinearOrder α] {n : Nat}

/-- One step of the inner loop: `indexed[i], indexed[j] = indexed[j], indexed[i]` when
`indexed[j].fitness > indexed[i].fitness`. -/
def exchangeStep (i : Fin n) (a : Fin n → IndexedFitness α) (j : Fin n) :
    Fin n → IndexedFitness α :=
  if (a i).fitness < (a j).fitness then a ∘ Equiv.swap i j else a

/-- The inner loop's body at the loop index `j`. -/
def exchangeAt (i : Fin n) (a : Fin n → IndexedFitness α) (j : Nat) : Fin n → IndexedFitness α :=
  if h : j < n then exchangeStep i a ⟨j, h⟩ else a

/-- The inner loop at `i`: `j` from `i + 1` to `len - 1`. -/
def exchangePass (a : Fin n → IndexedFitness α) (i : Fin n) : Fin n → IndexedFitness α :=
  (List.range' (i.val + 1) (n - (i.val + 1))).foldl (exchangeAt i) a

/-- The outer loop's body at the loop index `i`. -/
def passAt (a : Fin n → IndexedFitness α) (i : Nat) : Fin n → IndexedFitness α :=
  if h : i < n then exchangePass a ⟨i, h⟩ else a

/-- The outer loop: `i` from `0` to `len - 2`. -/
def exchangeSort (a : Fin n → IndexedFitness α) : Fin n → IndexedFitness α :=
  (List.range (n - 1)).foldl passAt a

/-- `minInt`. -/
def minInt (a b : Int) : Int := if a < b then a else b

/-- `indexed[i] = indexedFitness{i, f}` for each fitness. -/
def indexedFitnesses (fitnesses : List α) : Fin fitnesses.length → IndexedFitness α :=
  fun i => ⟨i, fitnesses.get i⟩

/-- `selectElite`. A negative length for `make` panics. -/
def selectElite (fitnesses : List α) (count : Int) : Except String (List Nat) :=
  let sorted := exchangeSort (indexedFitnesses fitnesses)
  let m := minInt count fitnesses.length
  if m < 0 then .error "runtime error: makeslice: len out of range"
  else .ok (((List.finRange fitnesses.length).take m.toNat).map fun i => (sorted i).index)

/-! ## One exchange -/

section Exchange

variable (i : Fin n) (a : Fin n → IndexedFitness α) (j : Fin n)

theorem exchangeStep_of_ne {k : Fin n} (hi : k ≠ i) (hj : k ≠ j) : exchangeStep i a j k = a k := by
  unfold exchangeStep
  split_ifs
  · simp [Equiv.swap_apply_of_ne_of_ne hi hj]
  · rfl

/-- After the exchange, position `i` holds the larger of the two. -/
theorem exchangeStep_i : (exchangeStep i a j i).fitness = max (a i).fitness (a j).fitness := by
  unfold exchangeStep
  split_ifs with h
  · simp [max_eq_right h.le]
  · simp [max_eq_left (not_lt.mp h)]

theorem exchangeStep_j_le : (exchangeStep i a j j).fitness ≤ (exchangeStep i a j i).fitness := by
  rw [exchangeStep_i]
  unfold exchangeStep
  split_ifs with h
  · simp
  · simp

/-- An exchange permutes the array by a swap of `i` and `j`, or not at all. -/
theorem exchangeStep_perm :
    ∃ σ : Equiv.Perm (Fin n), (∀ k, k ≠ i → k ≠ j → σ k = k) ∧ exchangeStep i a j = a ∘ σ := by
  unfold exchangeStep
  split_ifs
  · exact ⟨Equiv.swap i j, fun k hi hj => Equiv.swap_apply_of_ne_of_ne hi hj, rfl⟩
  · exact ⟨1, fun _ _ _ => rfl, rfl⟩

end Exchange

/-! ## The inner loop

The pass at `i` only ever swaps `i` with a later position, so it permutes the array and leaves
every position before `i` alone; and after it, no later position is larger than position `i`. -/

section Pass

variable (i : Fin n)

theorem foldl_exchangeAt_perm (a : Fin n → IndexedFitness α) (js : List Nat)
    (hgt : ∀ j ∈ js, i.val < j) :
    ∃ τ : Equiv.Perm (Fin n), (∀ k : Fin n, k.val < i.val → τ k = k) ∧
      js.foldl (exchangeAt i) a = a ∘ τ := by
  induction js generalizing a with
  | nil => exact ⟨1, fun _ _ => rfl, rfl⟩
  | cons j js ih =>
    have hstep : ∃ σ : Equiv.Perm (Fin n), (∀ k : Fin n, k.val < i.val → σ k = k) ∧
        exchangeAt i a j = a ∘ σ := by
      unfold exchangeAt
      split_ifs with h
      · obtain ⟨σ, hσ, he⟩ := exchangeStep_perm i a ⟨j, h⟩
        have hij := hgt j (List.mem_cons_self j js)
        exact ⟨σ, fun k hk => hσ k (Fin.ne_of_val_ne (by omega))
          (Fin.ne_of_val_ne (show k.val ≠ j by omega)), he⟩
      · exact ⟨1, fun _ _ => rfl, rfl⟩
    obtain ⟨σ, hσ, he⟩ := hstep
    obtain ⟨τ, hτ, he'⟩ := ih (exchangeAt i a j) fun j hj => hgt j (List.mem_cons_of_mem _ hj)
    refine ⟨σ * τ, fun k hk => ?_, ?_⟩
    · rw [Equiv.Perm.mul_apply, hτ k hk, hσ k hk]
    · rw [List.foldl_cons, he', he]
      rfl

theorem exchangePass_perm (a : Fin n → IndexedFitness α) :
    ∃ τ : Equiv.Perm (Fin n), (∀ k : Fin n, k.val < i.val → τ k = k) ∧
      exchangePass a i = a ∘ τ :=
  foldl_exchangeAt_perm i a _ fun _ hj => by rw [List.mem_range'_1] at hj; omega

/-- After the inner loop has run up to (not including) `i + 1 + m`, no position it has visited
holds a larger fitness than position `i`. -/
theorem foldl_exchangeAt_le (a : Fin n → IndexedFitness α) (m : Nat) (k : Fin n) (hik : i < k)
    (hk : k.val < i.val + 1 + m) :
    ((List.range' (i.val + 1) m).foldl (exchangeAt i) a k).fitness ≤
      ((List.range' (i.val + 1) m).foldl (exchangeAt i) a i).fitness := by
  induction m generalizing k with
  | zero => omega
  | succ m ih =>
    rw [List.range'_concat, List.foldl_append, List.foldl_cons, List.foldl_nil]
    set b := (List.range' (i.val + 1) m).foldl (exchangeAt i) a
    unfold exchangeAt
    split_ifs with h
    · rcases Nat.lt_or_ge k.val (i.val + 1 + m) with hlt | hge
      · have hne : k ≠ ⟨i.val + 1 + 1 * m, h⟩ := Fin.ne_of_val_ne (show k.val ≠ i.val + 1 + 1 * m by omega)
        calc (exchangeStep i b _ k).fitness = (b k).fitness := by
                rw [exchangeStep_of_ne i b _ (ne_of_gt hik) hne]
          _ ≤ (b i).fitness := ih k hik hlt
          _ ≤ (exchangeStep i b _ i).fitness := by rw [exchangeStep_i]; exact le_max_left _ _
      · have he : k = ⟨i.val + 1 + 1 * m, h⟩ := by ext; simp; omega
        subst he
        exact exchangeStep_j_le i b _
    · exact ih k hik (by omega)

theorem exchangePass_le (a : Fin n → IndexedFitness α) (k : Fin n) (hik : i < k) :
    (exchangePass a i k).fitness ≤ (exchangePass a i i).fitness :=
  foldl_exchangeAt_le i a _ k hik (by omega)

end Pass

/-! ## The outer loop -/

/-- Positions before `p` are in place: each is at least as large as every later position. -/
def SortedUpTo (a : Fin n → IndexedFitness α) (p : Nat) : Prop :=
  ∀ k l : Fin n, k.val < p → k < l → (a l).fitness ≤ (a k).fitness

/-- The pass at `i` puts position `i` in place and keeps the earlier ones there: it fixes them,
and what it moves into a later position came from a later position. -/
theorem exchangePass_sortedUpTo (a : Fin n → IndexedFitness α) (i : Fin n)
    (hs : SortedUpTo a i.val) : SortedUpTo (exchangePass a i) (i.val + 1) := by
  obtain ⟨τ, hτ, he⟩ := exchangePass_perm i a
  intro k l hk hkl
  rcases Nat.lt_or_ge k.val i.val with hki | hki
  · have hτl : k < τ l := by
      by_contra hle
      have hle' : (τ l).val ≤ k.val := not_lt.mp hle
      have hl : τ l = l := τ.injective (hτ _ (by omega))
      exact hle (by rw [hl]; exact hkl)
    rw [he, Function.comp_apply, Function.comp_apply, hτ k hki]
    exact hs k (τ l) hki hτl
  · obtain rfl : k = i := Fin.ext (by omega)
    exact exchangePass_le k a l hkl

theorem foldl_passAt (a : Fin n → IndexedFitness α) (p : Nat) (hp : p ≤ n - 1) :
    SortedUpTo ((List.range p).foldl passAt a) p ∧
      ∃ σ : Equiv.Perm (Fin n), (List.range p).foldl passAt a = a ∘ σ := by
  induction p with
  | zero => exact ⟨fun _ _ hk => absurd hk (Nat.not_lt_zero _), 1, rfl⟩
  | succ p ih =>
    obtain ⟨hs, σ, he⟩ := ih (by omega)
    have hpn : p < n := by omega
    rw [List.range_succ, List.foldl_append, List.foldl_cons, List.foldl_nil, passAt, dif_pos hpn]
    obtain ⟨τ, -, hτ⟩ := exchangePass_perm ⟨p, hpn⟩ ((List.range p).foldl passAt a)
    exact ⟨exchangePass_sortedUpTo _ ⟨p, hpn⟩ hs, σ * τ, by rw [hτ, he]; rfl⟩

/-- The exchange sort permutes the array into non-increasing order of fitness. -/
theorem exchangeSort_spec (a : Fin n → IndexedFitness α) :
    (∃ σ : Equiv.Perm (Fin n), exchangeSort a = a ∘ σ) ∧
      ∀ k l : Fin n, k ≤ l → (exchangeSort a l).fitness ≤ (exchangeSort a k).fitness := by
  obtain ⟨hs, hperm⟩ := foldl_passAt a (n - 1) le_rfl
  refine ⟨hperm, fun k l hkl => ?_⟩
  rcases eq_or_lt_of_le hkl with rfl | hlt
  · exact le_rfl
  · have : k.val < l.val := hlt
    exact hs k l (by omega) hlt

/-! ## `selectElite` -/

theorem mem_take_finRange {m : Nat} {k : Fin n} : k ∈ (List.finRange n).take m ↔ k.val < m := by
  constructor
  · intro hk
    obtain ⟨i, hi, rfl⟩ := List.mem_take_iff_getElem.mp hk
    simp only [List.getElem_finRange, Fin.coe_cast]
    omega
  · intro hk
    exact List.mem_take_iff_getElem.mpr ⟨k.val, by simp; omega, by simp⟩

/-- With `count ≥ 0` the `make` succeeds, with length `min(count, len)`. -/
theorem selectElite_eq (fitnesses : List α) {count : Int} (hcount : 0 ≤ count) :
    selectElite fitnesses count =
      .ok (((List.finRange fitnesses.length).take (min count.toNat fitnesses.length)).map
        fun i => (exchangeSort (indexedFitnesses fitnesses) i).index) := by
  have hm : minInt count fitnesses.length = ((min count.toNat fitnesses.length : Nat) : Int) := by
    unfold minInt; split_ifs <;> omega
  unfold selectElite
  dsimp only
  rw [hm, if_neg (by omega), Int.toNat_ofNat]

/-- With `count ≥ 0`, `selectElite` returns `min(count, len)` valid indices. -/
theorem selectElite_ok (fitnesses : List α) {count : Int} (hcount : 0 ≤ count) :
    ∃ idx, selectElite fitnesses count = .ok idx ∧
      idx.length = min count.toNat fitnesses.length ∧ ∀ i ∈ idx, i < fitnesses.length := by
  obtain ⟨⟨σ, hσ⟩, -⟩ := exchangeSort_spec (indexedFitnesses fitnesses)
  refine ⟨_, selectElite_eq fitnesses hcount, by simp, ?_⟩
  simp only [List.mem_map, hσ]
  rintro _ ⟨k, -, rfl⟩
  exact (σ k).isLt

/-- With `count ≥ 1` on a non-empty list, the first returned index holds a largest fitness. -/
theorem selectElite_max (fitnesses : List α) {count : Int} (hcount : 0 < count)
    (hne : fitnesses ≠ []) :
    ∃ idx, selectElite fitnesses count = .ok idx ∧
      ∃ i ∈ idx, ∃ f, fitnesses[i]? = some f ∧ ∀ f' ∈ fitnesses, f' ≤ f := by
  obtain ⟨⟨σ, hσ⟩, hsorted⟩ := exchangeSort_spec (indexedFitnesses fitnesses)
  have hpos : 0 < fitnesses.length := List.length_pos.mpr hne
  let top : Fin fitnesses.length := ⟨0, hpos⟩
  have hfit : ∀ k, (exchangeSort (indexedFitnesses fitnesses) k).fitness = fitnesses.get (σ k) :=
    fun k => by rw [hσ]; rfl
  refine ⟨_, selectElite_eq fitnesses hcount.le, (σ top).val,
    List.mem_map.mpr ⟨top, mem_take_finRange.mpr (by simp [top]; omega), by rw [hσ]; rfl⟩,
    _, List.getElem?_eq_getElem (σ top).isLt, fun f' hf' => ?_⟩
  obtain ⟨j, rfl⟩ := List.mem_iff_get.mp hf'
  have h := hsorted top (σ.symm j) (Nat.zero_le _)
  rwa [hfit, hfit, σ.apply_symm_apply] at h

theorem select_elite_returns_top_count (fitnesses : List α) (count : Int) (hcount : 0 ≤ count) :
    (∃ σ : Equiv.Perm (Fin fitnesses.length),
        exchangeSort (indexedFitnesses fitnesses) = indexedFitnesses fitnesses ∘ σ) ∧
    (∀ k l : Fin fitnesses.length, k ≤ l →
        (exchangeSort (indexedFitnesses fitnesses) l).fitness ≤
          (exchangeSort (indexedFitnesses fitnesses) k).fitness) ∧
    ∃ idx, selectElite fitnesses count = .ok idx ∧
      idx.length = min count.toNat fitnesses.length ∧ idx.Nodup ∧
      (∀ i ∈ idx, i < fitnesses.length) ∧
      idx.Pairwise (fun i j => ∀ (hi : i < fitnesses.length) (hj : j < fitnesses.length),
        fitnesses.get ⟨j, hj⟩ ≤ fitnesses.get ⟨i, hi⟩) ∧
      ∀ i (hi : i < fitnesses.length) j (hj : j < fitnesses.length), i ∈ idx → j ∉ idx →
        fitnesses.get ⟨j, hj⟩ ≤ fitnesses.get ⟨i, hi⟩ := by
  obtain ⟨⟨σ, hσ⟩, hsorted⟩ := exchangeSort_spec (indexedFitnesses fitnesses)
  have hidx : ∀ k, (exchangeSort (indexedFitnesses fitnesses) k).index = (σ k).val :=
    fun k => by rw [hσ]; rfl
  have hfit : ∀ k, (exchangeSort (indexedFitnesses fitnesses) k).fitness = fitnesses.get (σ k) :=
    fun k => by rw [hσ]; rfl
  have htake := List.take_sublist (min count.toNat fitnesses.length)
    (List.finRange fitnesses.length)
  refine ⟨⟨σ, hσ⟩, hsorted, _, selectElite_eq fitnesses hcount, ?_, ?_, ?_, ?_, ?_⟩
  · simp
  · exact ((List.nodup_finRange _).sublist htake).map fun k l h => by
      rw [hidx, hidx] at h; exact σ.injective (Fin.ext h)
  · simp only [List.mem_map, hidx]
    rintro _ ⟨k, -, rfl⟩
    exact (σ k).isLt
  · refine ((List.pairwise_lt_finRange _).sublist htake).map _ fun k l hkl _ _ => ?_
    simpa only [hidx, hfit] using hsorted k l hkl.le
  · simp only [List.mem_map, hidx, mem_take_finRange]
    rintro _ _ j hj ⟨k, hk, rfl⟩ hnot
    have hl : σ (σ.symm ⟨j, hj⟩) = ⟨j, hj⟩ := σ.apply_symm_apply _
    have hlk : k < σ.symm ⟨j, hj⟩ := by
      by_contra hle
      exact hnot ⟨σ.symm ⟨j, hj⟩, by have : (σ.symm ⟨j, hj⟩).val ≤ k.val := not_lt.mp hle; omega,
        by rw [hl]⟩
    simpa only [hfit, hl] using hsorted k _ hlk.le

theorem select_elite_returns_top_count_of_five :
    (0 : Int) ≤ 3 ∧ ∃ idx, selectElite [3, 1, 4, 1, 5] 3 = .ok idx ∧ idx.length = 3 ∧ idx.Nodup :=
  ⟨by decide,
    let ⟨_, _, idx, h, hl, hnd, _⟩ := select_elite_returns_top_count [3, 1, 4, 1, 5] 3 (by decide)
    ⟨idx, h, hl.trans (by decide), hnd⟩⟩

example : selectElite [3, 1, 4, 1, 5] 3 = .ok [4, 2, 0] := rfl

end Ecco9.Npu
