import Nefi.Server.Metrics.Entry
import Mathlib.Data.List.Sort
import Mathlib.Algebra.Order.Floor
import Mathlib.Data.Rat.Floor

/-!
# Where `histogramPercentile` lands

`flush` estimates the P50, P95 and P99 of a service's latencies from its histogram alone:
`histogramPercentile` walks the buckets, adding their counts, to the first bucket whose running
count reaches `quantile * total`, and interpolates linearly between the bucket's two bounds.  The
samples themselves are gone by then, so the best such an estimate can promise is the bucket of
the sample it stands for.  This file proves that it keeps that promise, exactly, and what follows.

## What is modelled

`histogram buckets xs` is the count vector `observeLatency` builds from the samples `xs`, starting
from the zero counts `getOrCreate` allocates.  Arithmetic on the `float64` side is exact, as in
the rest of the project; the counts are `uint64` and wrap, so the results assume fewer than
`2^64` samples.  The boundaries are any list that increases from 0, as `defaultBucketBoundaries`
does.  Samples are any rationals: the proofs do not need them positive.

## Results

* `percentileLoop_spec`: the walk stops at the first bucket whose running count reaches the
  target, and returns the interpolation there.
* `le_countP_iff`: in a sorted list, the `k`-th element satisfies a property closed downwards
  exactly when at least `k` elements do.  With the counts of the histogram (`prefixSum_histogram`)
  this makes the first bucket that reaches `⌈q·n⌉` samples the bucket of the `⌈q·n⌉`-th smallest
  sample.
* `histogramPercentile_mem_bucket` and `histogramPercentile_mono`: the estimate lies between the
  bounds of the bucket of the `⌈q·n⌉`-th smallest sample, and grows with `q`.
* `histogramPercentile_mem_range`: it therefore lies between the lower bound of the bucket of the
  smallest sample and the upper bound of the bucket of the largest, which is all a histogram can
  say: the estimate is not bounded by the samples themselves (`percentile_above_twice_max`).
* `percentile_outside_bucket`: with `2^64 + 1` samples the counts wrap and the bound fails.
* `flushPoints_latency_sorted`: the counts of a service are the histogram of its positive
  latencies (`latencyCounts_of_lookup_observeAll`), so the P50, P95 and P99 points that `flush`
  writes for it are in this order.
-/

namespace Nefi
namespace Metrics

/-- The counts `observeLatency` builds from the samples `xs`, from the zero counts that
`getOrCreate` allocates for each bucket and for `+Inf`. -/
def histogram (buckets xs : List ℚ) : List UInt64 :=
  xs.foldl (insertLatency buckets) (List.replicate (buckets.length + 1) 0)

/-- The running count `histogramPercentile` has accumulated before bucket `j`. -/
def prefixSum (counts : List UInt64) (j : Nat) : ℚ :=
  ((counts.take j).map fun c => (c.toNat : ℚ)).sum

/-- The value `histogramPercentile` returns from bucket `i` with count `count`, when the count
before it is `prev`. -/
def interpolate (buckets : List ℚ) (i : Nat) (count : UInt64) (prev target : ℚ) : ℚ :=
  (bucketBounds buckets i).1 +
    (target - prev) / count.toNat * ((bucketBounds buckets i).2 - (bucketBounds buckets i).1)

/-- The `k`-th smallest of the samples, counting from 1. -/
def kthSmallest (xs : List ℚ) (k : Nat) : ℚ := (xs.insertionSort (· ≤ ·)).getD (k - 1) 0

/-- The bucket of the `⌈q·n⌉`-th smallest of the `n` samples: the sample the estimate at quantile
`q` stands for. -/
def quantileBucket (buckets xs : List ℚ) (q : ℚ) : Nat :=
  bucketIndex (kthSmallest xs ⌈q * xs.length⌉.toNat) buckets

/-! ## The walk -/

@[simp] theorem prefixSum_zero (counts : List UInt64) : prefixSum counts 0 = 0 := by
  simp [prefixSum]

@[simp] theorem prefixSum_cons_succ (c : UInt64) (counts : List UInt64) (j : Nat) :
    prefixSum (c :: counts) (j + 1) = c.toNat + prefixSum counts j := by
  simp [prefixSum]

theorem prefixSum_succ {counts : List UInt64} {j : Nat} (hj : j < counts.length) :
    prefixSum counts (j + 1) = prefixSum counts j + (counts.getD j 0).toNat := by
  rw [prefixSum, prefixSum, List.take_succ, List.getElem?_eq_getElem hj, List.map_append,
    List.sum_append, List.getD_eq_getElem _ _ hj]
  simp

/-- **The walk of `histogramPercentile`.**  From bucket `i` with running count `cum` below the
target, when the remaining counts reach it, the walk stops at the first bucket `j` whose running
count reaches the target, and returns the interpolation in that bucket. -/
theorem percentileLoop_spec (buckets : List ℚ) (target : ℚ) (counts : List UInt64) (i : Nat)
    (cum : ℚ) (h₁ : cum < target) (h₂ : target ≤ cum + prefixSum counts counts.length) :
    ∃ j < counts.length, cum + prefixSum counts j < target ∧
      target ≤ cum + prefixSum counts (j + 1) ∧
      percentileLoop buckets target i cum counts =
        some (interpolate buckets (i + j) (counts.getD j 0) (cum + prefixSum counts j) target) := by
  induction counts generalizing i cum with
  | nil => simp [prefixSum] at h₂; linarith
  | cons c counts ih =>
    by_cases hc : target ≤ cum + c.toNat
    · have hc0 : c ≠ 0 := by rintro rfl; simp at hc; linarith
      refine ⟨0, Nat.succ_pos _, by rwa [prefixSum_zero, add_zero],
        by rwa [prefixSum_cons_succ, prefixSum_zero, add_zero], ?_⟩
      simp [percentileLoop, hc, hc0, interpolate]
    · obtain ⟨j, hj, h₃, h₄, h₅⟩ :=
        ih (i + 1) (cum + c.toNat) (not_le.mp hc) (by simpa [add_assoc] using h₂)
      refine ⟨j + 1, by simpa using hj, by simpa [add_assoc] using h₃,
        by simpa [add_assoc] using h₄, ?_⟩
      simp only [percentileLoop, if_neg hc, h₅, List.getD_cons_succ, prefixSum_cons_succ,
        add_assoc, Nat.add_comm 1 j]

/-- Inside its bucket the interpolation stays between the bucket's bounds. -/
theorem interpolate_mem {buckets : List ℚ} {i : Nat} {count : UInt64} {prev target : ℚ}
    (h₁ : prev < target) (h₂ : target ≤ prev + count.toNat)
    (hb : (bucketBounds buckets i).1 ≤ (bucketBounds buckets i).2) :
    (bucketBounds buckets i).1 ≤ interpolate buckets i count prev target ∧
      interpolate buckets i count prev target ≤ (bucketBounds buckets i).2 := by
  have hf₀ : 0 ≤ (target - prev) / count.toNat :=
    div_nonneg (sub_nonneg.mpr h₁.le) (Nat.cast_nonneg _)
  have hf₁ : (target - prev) / count.toNat ≤ 1 :=
    div_le_one_of_le₀ (sub_le_iff_le_add'.mpr h₂) (Nat.cast_nonneg _)
  have hd : 0 ≤ (bucketBounds buckets i).2 - (bucketBounds buckets i).1 := sub_nonneg.mpr hb
  exact ⟨le_add_of_nonneg_right (mul_nonneg hf₀ hd),
    le_sub_iff_add_le'.mp (mul_le_of_le_one_left hd hf₁)⟩

/-- Inside its bucket the interpolation grows with the target. -/
theorem interpolate_mono {buckets : List ℚ} {i : Nat} {count : UInt64} {prev t t' : ℚ}
    (ht : t ≤ t') (hb : (bucketBounds buckets i).1 ≤ (bucketBounds buckets i).2) :
    interpolate buckets i count prev t ≤ interpolate buckets i count prev t' := by
  unfold interpolate
  exact add_le_add_left (mul_le_mul_of_nonneg_right
    (div_le_div_of_nonneg_right (sub_le_sub_right ht prev) (Nat.cast_nonneg _))
    (sub_nonneg.mpr hb)) _

/-! ## The bounds of the buckets -/

section Bounds

variable {buckets : List ℚ} (hb : (0 :: buckets).Sorted (· ≤ ·))
include hb

theorem getD_nonneg (k : Nat) : 0 ≤ buckets.getD k 0 := by
  rcases Nat.lt_or_ge k buckets.length with hk | hk
  · rw [List.getD_eq_getElem _ _ hk]
    exact (List.sorted_cons.mp hb).1 _ (List.getElem_mem hk)
  · rw [List.getD_eq_default _ _ hk]

theorem getD_le_getD {k k' : Nat} (hk : k ≤ k') (hk' : k' < buckets.length) :
    buckets.getD k 0 ≤ buckets.getD k' 0 := by
  rw [List.getD_eq_getElem _ _ (by omega), List.getD_eq_getElem _ _ hk']
  exact (List.sorted_cons.mp hb).2.rel_get_of_le (a := ⟨k, by omega⟩) (b := ⟨k', hk'⟩) hk

/-- Each bucket's lower bound is below its upper bound. -/
theorem bucketBounds_le {i : Nat} (hi : i ≤ buckets.length) :
    (bucketBounds buckets i).1 ≤ (bucketBounds buckets i).2 := by
  have h0 := getD_nonneg hb
  -- the `+Inf` bucket's upper bound doubles the last boundary
  have hdouble := le_mul_of_one_le_right (h0 (buckets.length - 1)) one_le_two
  rcases Nat.eq_zero_or_pos i with rfl | hi0
  · simp only [bucketBounds, if_true]
    split_ifs
    · exact h0 0
    · exact le_rfl
  · simp only [bucketBounds, if_neg (Nat.pos_iff_ne_zero.mp hi0), if_pos hi]
    split_ifs with hlt
    · exact getD_le_getD hb (by omega) hlt
    · rw [show i = buckets.length by omega]
      exact hdouble
    · omega

/-- A later bucket starts where an earlier one ends, or above. -/
theorem bucketBounds_le_of_lt {i j : Nat} (hij : i < j) (hj : j ≤ buckets.length) :
    (bucketBounds buckets i).2 ≤ (bucketBounds buckets j).1 := by
  simp only [bucketBounds, if_pos (show i < buckets.length by omega), if_neg (show j ≠ 0 by omega),
    if_pos hj]
  exact getD_le_getD hb (by omega) (by omega)

theorem bucketBounds_fst_mono {i j : Nat} (hij : i ≤ j) (hj : j ≤ buckets.length) :
    (bucketBounds buckets i).1 ≤ (bucketBounds buckets j).1 := by
  rcases Nat.lt_or_eq_of_le hij with hlt | rfl
  · exact (bucketBounds_le hb (by omega)).trans (bucketBounds_le_of_lt hb hlt hj)
  · exact le_rfl

theorem bucketBounds_snd_mono {i j : Nat} (hij : i ≤ j) (hj : j ≤ buckets.length) :
    (bucketBounds buckets i).2 ≤ (bucketBounds buckets j).2 := by
  rcases Nat.lt_or_eq_of_le hij with hlt | rfl
  · exact (bucketBounds_le_of_lt hb hlt hj).trans (bucketBounds_le hb hj)
  · exact le_rfl

end Bounds

/-! ## The counts of the histogram -/

theorem toNat_getD_foldl_insertLatency (buckets xs : List ℚ) {counts : List UInt64}
    (hl : buckets.length < counts.length) (j : Nat) :
    ((xs.foldl (insertLatency buckets) counts).getD j 0).toNat =
      ((counts.getD j 0).toNat + xs.countP (bucketIndex · buckets = j)) % 2 ^ 64 := by
  induction xs generalizing counts with
  | nil => exact (toNat_mod_uint64 _).symm
  | cons x xs ih =>
    rw [List.foldl_cons, ih (by rwa [length_insertLatency]), insertLatency_eq,
      toNat_getD_modify_succ ((bucketIndex_le_length x buckets).trans_lt hl), List.countP_cons,
      Nat.mod_add_mod]
    simp only [decide_eq_true_eq]
    split_ifs <;> omega

/-- **The histogram counts the samples of each bucket**, when there are fewer than `2^64`. -/
theorem toNat_getD_histogram (buckets : List ℚ) {xs : List ℚ} (hn : xs.length < 2 ^ 64)
    (j : Nat) :
    ((histogram buckets xs).getD j 0).toNat = xs.countP (bucketIndex · buckets = j) := by
  have h0 : ((List.replicate (buckets.length + 1) (0 : UInt64)).getD j 0).toNat = 0 := by
    rw [List.getD_eq_getElem?_getD, List.getElem?_replicate]
    split <;> rfl
  rw [histogram, toNat_getD_foldl_insertLatency _ _ (by simp), h0, Nat.zero_add,
    Nat.mod_eq_of_lt ((List.countP_le_length _).trans_lt hn)]

theorem length_foldl_insertLatency (buckets xs : List ℚ) (counts : List UInt64) :
    (xs.foldl (insertLatency buckets) counts).length = counts.length := by
  induction xs generalizing counts with
  | nil => rfl
  | cons x xs ih => rw [List.foldl_cons, ih, length_insertLatency]

@[simp] theorem length_histogram (buckets xs : List ℚ) :
    (histogram buckets xs).length = buckets.length + 1 := by
  rw [histogram, length_foldl_insertLatency, List.length_replicate]

theorem sum_foldl_insertLatency (buckets xs : List ℚ) {counts : List UInt64}
    (hl : buckets.length < counts.length) :
    (xs.foldl (insertLatency buckets) counts).sum = counts.sum + xs.length.toUInt64 := by
  induction xs generalizing counts with
  | nil => simp
  | cons x xs ih =>
    rw [List.foldl_cons, ih (by rwa [length_insertLatency]), insertLatency_eq,
      sum_modify_succ ((bucketIndex_le_length x buckets).trans_lt hl), List.length_cons,
      ← toUInt64_add_toUInt64, add_assoc, add_comm (1 : UInt64)]
    rfl

/-- The total `flush` passes to `histogramPercentile` is the number of samples, as a `uint64`. -/
theorem totalHistogramCount_histogram (buckets xs : List ℚ) :
    totalHistogramCount (histogram buckets xs) = xs.length.toUInt64 := by
  rw [totalHistogramCount_eq, histogram, sum_foldl_insertLatency _ _ (by simp),
    List.sum_eq_zero fun _ h => List.eq_of_mem_replicate h, zero_add]

/-- Samples all of one value add their number, modulo `2^64`, to the count of their bucket. -/
theorem foldl_insertLatency_replicate (buckets : List ℚ) (counts : List UInt64) (x : ℚ) (m : Nat) :
    (List.replicate m x).foldl (insertLatency buckets) counts =
      counts.modify (· + m.toUInt64) (bucketIndex x buckets) := by
  induction m generalizing counts with
  | zero =>
    simp only [List.replicate_zero, List.foldl_nil, toUInt64_zero, add_zero]
    exact (List.modify_id _ _).symm
  | succ m ih =>
    rw [List.replicate_succ, List.foldl_cons, ih, insertLatency_eq, List.modify_modify_eq]
    congr 1
    funext c
    rw [Function.comp_apply, ← toUInt64_add_toUInt64, add_assoc, add_comm (1 : UInt64)]
    rfl

theorem countP_lt_succ (f : ℚ → Nat) (xs : List ℚ) (j : Nat) :
    xs.countP (f · < j + 1) = xs.countP (f · < j) + xs.countP (f · = j) := by
  induction xs with
  | nil => rfl
  | cons x xs ih =>
    simp only [List.countP_cons, ih, decide_eq_true_eq]
    split_ifs <;> omega

/-- The running count before bucket `j` is the number of samples in the buckets before it. -/
theorem prefixSum_histogram (buckets : List ℚ) {xs : List ℚ} (hn : xs.length < 2 ^ 64) :
    ∀ j ≤ buckets.length + 1,
      prefixSum (histogram buckets xs) j = (xs.countP (bucketIndex · buckets < j) : ℚ)
  | 0, _ => by simp
  | j + 1, hj => by
    rw [prefixSum_succ (by simp; omega), prefixSum_histogram buckets hn j (by omega),
      toNat_getD_histogram buckets hn, countP_lt_succ, Nat.cast_add]

/-! ## The `k`-th smallest sample -/

/-- **Order statistics.**  In a sorted list, the `k`-th element has a property closed downwards
exactly when at least `k` elements have it. -/
theorem le_countP_iff {p : ℚ → Bool} (hp : ∀ x y, x ≤ y → p y → p x) {ys : List ℚ}
    (hs : ys.Sorted (· ≤ ·)) {k : Nat} (hk : 0 < k) (hkl : k ≤ ys.length) :
    k ≤ ys.countP p ↔ p (ys.getD (k - 1) 0) = true := by
  induction ys generalizing k with
  | nil => simp at hkl; omega
  | cons y ys ih =>
    obtain ⟨hy, hs⟩ := List.sorted_cons.mp hs
    rw [List.countP_cons]
    by_cases hpy : p y
    · rw [if_pos hpy]
      rcases Nat.eq_or_lt_of_le hk with rfl | hk1
      · simp [hpy]
      · obtain ⟨k, rfl⟩ : ∃ k', k = k' + 2 := ⟨k - 2, by omega⟩
        have := ih hs (k := k + 1) (by omega) (by rw [List.length_cons] at hkl; omega)
        rw [Nat.add_sub_cancel] at this
        rw [show k + 2 - 1 = k + 1 by omega, List.getD_cons_succ, ← this]
        omega
    · have hz : ∀ z ∈ ys, p z = false := fun z hz =>
        Bool.eq_false_iff.mpr fun h => hpy (hp y z (hy z hz) h)
      have hmem : (y :: ys).getD (k - 1) 0 ∈ y :: ys := by
        rw [List.getD_eq_getElem _ _ (by omega)]
        exact List.getElem_mem _
      rw [if_neg hpy, List.countP_eq_zero.mpr fun z hz' => by simp [hz z hz']]
      constructor
      · omega
      · intro h
        rcases List.mem_cons.mp hmem with he | he
        · exact absurd (he ▸ h) hpy
        · rw [hz _ he] at h
          cases h

/-- At least `k` samples lie in the buckets before `j` exactly when the `k`-th smallest does. -/
theorem le_countP_bucketIndex_iff (buckets : List ℚ) {xs : List ℚ} {k : Nat} (hk : 0 < k)
    (hkl : k ≤ xs.length) (j : Nat) :
    k ≤ xs.countP (bucketIndex · buckets < j) ↔ bucketIndex (kthSmallest xs k) buckets < j := by
  rw [← (List.perm_insertionSort (· ≤ ·) xs).countP_eq, kthSmallest]
  simpa using le_countP_iff (p := fun x => decide (bucketIndex x buckets < j))
    (fun x y hxy h => by simpa using (bucketIndex_mono hxy buckets).trans_lt (by simpa using h))
    (List.sorted_insertionSort _ xs) hk (by simpa using hkl)

theorem kthSmallest_mem {xs : List ℚ} {k : Nat} (hk : 0 < k) (hkl : k ≤ xs.length) :
    kthSmallest xs k ∈ xs := by
  have hperm := List.perm_insertionSort (· ≤ ·) xs
  rw [kthSmallest, List.getD_eq_getElem _ _ (by rw [hperm.length_eq]; omega)]
  exact hperm.subset (List.getElem_mem _)

/-! ## Where the estimate lands -/

/-- The target `q·n` of the walk is positive and at most the number of samples. -/
theorem target_mem {xs : List ℚ} (hn : 0 < xs.length) {q : ℚ} (hq : 0 < q) (hq1 : q ≤ 1) :
    0 < q * xs.length ∧ q * xs.length ≤ xs.length :=
  ⟨mul_pos hq (by exact_mod_cast hn), mul_le_of_le_one_left (Nat.cast_nonneg _) hq1⟩

section Histogram

variable (buckets : List ℚ) {xs : List ℚ} (hn : 0 < xs.length) (hn' : xs.length < 2 ^ 64)
include hn hn'

/-- The rank `⌈q·n⌉` of the sample the estimate stands for is between 1 and `n`. -/
theorem ceil_rank_mem {q : ℚ} (hq : 0 < q) (hq1 : q ≤ 1) :
    0 < ⌈q * xs.length⌉.toNat ∧ ⌈q * xs.length⌉.toNat ≤ xs.length := by
  obtain ⟨hpos, hle⟩ := target_mem hn hq hq1
  constructor
  · have := Int.ceil_pos.mpr hpos
    omega
  · have := Int.ceil_le.mpr (show q * xs.length ≤ ((xs.length : Int) : ℚ) by exact_mod_cast hle)
    omega

/-- **The walk ends in the bucket of the `⌈q·n⌉`-th smallest sample**, where the running count
before the bucket is below the target `q·n` and the count after it reaches the target. -/
theorem histogramPercentile_spec {q : ℚ} (hq : 0 < q) (hq1 : q ≤ 1) :
    let j := quantileBucket buckets xs q
    prefixSum (histogram buckets xs) j < q * xs.length ∧
      q * xs.length ≤ prefixSum (histogram buckets xs) j + ((histogram buckets xs).getD j 0).toNat ∧
      histogramPercentile buckets (histogram buckets xs) xs.length.toUInt64 q =
        interpolate buckets j ((histogram buckets xs).getD j 0) (prefixSum (histogram buckets xs) j)
          (q * xs.length) := by
  intro j
  obtain ⟨hk, hkl⟩ := ceil_rank_mem hn hn' hq hq1
  obtain ⟨hpos, hle⟩ := target_mem hn hq hq1
  have htotal : prefixSum (histogram buckets xs) (histogram buckets xs).length = xs.length := by
    rw [length_histogram, prefixSum_histogram buckets hn' _ le_rfl,
      List.countP_eq_length.mpr fun x _ => by
        simpa [Nat.lt_succ_iff] using bucketIndex_le_length x buckets]
  obtain ⟨j₀, hj₀, h₁, h₂, h₃⟩ := percentileLoop_spec buckets (q * xs.length)
    (histogram buckets xs) 0 0 hpos (by rw [htotal, zero_add]; exact hle)
  simp only [zero_add, Nat.zero_add] at h₁ h₂ h₃
  rw [length_histogram] at hj₀
  -- the walk stops in bucket `j₀`: fewer than `⌈q·n⌉` samples lie before it, and at least as
  -- many up to it, so it is the bucket of the `⌈q·n⌉`-th smallest
  have hc₁ : ((xs.countP (bucketIndex · buckets < j₀) : Int) : ℚ) < q * xs.length := by
    rw [Int.cast_natCast, ← prefixSum_histogram buckets hn' _ (by omega)]
    exact h₁
  have hc₂ : q * xs.length ≤ ((xs.countP (bucketIndex · buckets < j₀ + 1) : Int) : ℚ) := by
    rw [Int.cast_natCast, ← prefixSum_histogram buckets hn' _ (by omega)]
    exact h₂
  have hlo := mt (le_countP_bucketIndex_iff buckets hk hkl j₀).mpr
    (by have := Int.lt_ceil.mpr hc₁; omega)
  have hhi := (le_countP_bucketIndex_iff buckets hk hkl (j₀ + 1)).mp
    (by have := Int.ceil_le.mpr hc₂; omega)
  have hj : j = j₀ := by simp only [j, quantileBucket]; omega
  rw [hj]
  refine ⟨h₁, by rw [← prefixSum_succ (by simp; omega)]; exact h₂, ?_⟩
  rw [histogramPercentile, toNat_toUInt64, Nat.mod_eq_of_lt hn', h₃, Option.getD_some]

/-- **The estimate lies in the bucket of the sample it stands for**: between the bounds of the
bucket of the `⌈q·n⌉`-th smallest sample. -/
theorem histogramPercentile_mem_bucket (hb : (0 :: buckets).Sorted (· ≤ ·)) {q : ℚ} (hq : 0 < q)
    (hq1 : q ≤ 1) :
    (bucketBounds buckets (quantileBucket buckets xs q)).1 ≤
        histogramPercentile buckets (histogram buckets xs) xs.length.toUInt64 q ∧
      histogramPercentile buckets (histogram buckets xs) xs.length.toUInt64 q ≤
        (bucketBounds buckets (quantileBucket buckets xs q)).2 := by
  obtain ⟨h₁, h₂, h₃⟩ := histogramPercentile_spec buckets hn hn' hq hq1
  rw [h₃]
  exact interpolate_mem h₁ h₂ (bucketBounds_le hb (bucketIndex_le_length _ _))

/-- A larger quantile stands for a sample in the same bucket or a later one. -/
theorem quantileBucket_mono {q q' : ℚ} (hq : 0 < q) (hqq : q ≤ q') (hq1 : q' ≤ 1) :
    quantileBucket buckets xs q ≤ quantileBucket buckets xs q' := by
  obtain ⟨hk, hkl⟩ := ceil_rank_mem hn hn' hq (hqq.trans hq1)
  obtain ⟨hk', hkl'⟩ := ceil_rank_mem hn hn' (hq.trans_le hqq) hq1
  have hkk : ⌈q * xs.length⌉.toNat ≤ ⌈q' * xs.length⌉.toNat :=
    Int.toNat_le_toNat (Int.ceil_mono (mul_le_mul_of_nonneg_right hqq (by positivity)))
  have h := (le_countP_bucketIndex_iff buckets hk' hkl' _).mpr (Nat.lt_succ_self _)
  exact Nat.lt_succ_iff.mp ((le_countP_bucketIndex_iff buckets hk hkl _).mp (hkk.trans h))

/-- **The estimate grows with the quantile**, so the P50, P95 and P99 that `flush` emits are in
this order. -/
theorem histogramPercentile_mono (hb : (0 :: buckets).Sorted (· ≤ ·)) {q q' : ℚ} (hq : 0 < q)
    (hqq : q ≤ q') (hq1 : q' ≤ 1) :
    histogramPercentile buckets (histogram buckets xs) xs.length.toUInt64 q ≤
      histogramPercentile buckets (histogram buckets xs) xs.length.toUInt64 q' := by
  rcases Nat.lt_or_eq_of_le (quantileBucket_mono buckets hn hn' hq hqq hq1)
    with hlt | heq
  · calc _ ≤ (bucketBounds buckets (quantileBucket buckets xs q)).2 :=
          (histogramPercentile_mem_bucket buckets hn hn' hb hq (hqq.trans hq1)).2
      _ ≤ (bucketBounds buckets (quantileBucket buckets xs q')).1 :=
          bucketBounds_le_of_lt hb hlt (bucketIndex_le_length _ _)
      _ ≤ _ := (histogramPercentile_mem_bucket buckets hn hn' hb (hq.trans_le hqq) hq1).1
  · obtain ⟨-, -, h₃⟩ := histogramPercentile_spec buckets hn hn' hq (hqq.trans hq1)
    obtain ⟨-, -, h₃'⟩ := histogramPercentile_spec buckets hn hn' (hq.trans_le hqq) hq1
    rw [h₃, h₃', heq]
    exact interpolate_mono (mul_le_mul_of_nonneg_right hqq (by positivity))
      (bucketBounds_le hb (bucketIndex_le_length _ _))

/-- **The estimate lies between the buckets of the smallest and the largest sample**: above the
lower bound of the bucket of any lower bound of the samples, below the upper bound of the bucket of
any upper bound. -/
theorem histogramPercentile_mem_range (hb : (0 :: buckets).Sorted (· ≤ ·)) {lo hi : ℚ}
    (hlo : ∀ x ∈ xs, lo ≤ x) (hhi : ∀ x ∈ xs, x ≤ hi) {q : ℚ} (hq : 0 < q) (hq1 : q ≤ 1) :
    (bucketBounds buckets (bucketIndex lo buckets)).1 ≤
        histogramPercentile buckets (histogram buckets xs) xs.length.toUInt64 q ∧
      histogramPercentile buckets (histogram buckets xs) xs.length.toUInt64 q ≤
        (bucketBounds buckets (bucketIndex hi buckets)).2 := by
  obtain ⟨hk, hkl⟩ := ceil_rank_mem hn hn' hq hq1
  have hmem := kthSmallest_mem hk hkl
  obtain ⟨h₁, h₂⟩ := histogramPercentile_mem_bucket buckets hn hn' hb hq hq1
  exact ⟨(bucketBounds_fst_mono hb (bucketIndex_mono (hlo _ hmem) _)
      (bucketIndex_le_length _ _)).trans h₁,
    h₂.trans (bucketBounds_snd_mono hb (bucketIndex_mono (hhi _ hmem) _)
      (bucketIndex_le_length _ _))⟩

/-- **At every quantile the estimate lies in the bucket of the sample it stands for, and it grows
with the quantile**, for fewer than `2^64` samples and boundaries that increase from 0. -/
theorem histogramPercentile_in_bucket (hb : (0 :: buckets).Sorted (· ≤ ·)) :
    (∀ q : ℚ, 0 < q → q ≤ 1 →
      (bucketBounds buckets (quantileBucket buckets xs q)).1 ≤
          histogramPercentile buckets (histogram buckets xs) xs.length.toUInt64 q ∧
        histogramPercentile buckets (histogram buckets xs) xs.length.toUInt64 q ≤
          (bucketBounds buckets (quantileBucket buckets xs q)).2) ∧
      ∀ q q' : ℚ, 0 < q → q ≤ q' → q' ≤ 1 →
        histogramPercentile buckets (histogram buckets xs) xs.length.toUInt64 q ≤
          histogramPercentile buckets (histogram buckets xs) xs.length.toUInt64 q' :=
  ⟨fun _ hq hq1 => histogramPercentile_mem_bucket buckets hn hn' hb hq hq1,
    fun _ _ hq hqq hq1 => histogramPercentile_mono buckets hn hn' hb hq hqq hq1⟩

end Histogram

/-! ## The percentiles `flush` emits -/

/-- The latencies observations add to a histogram: the positive ones, in order, as `float64`. -/
def latencySamples (evs : List Event) : List ℚ :=
  (evs.filter fun ev => 0 < ev.latencyNs).map fun ev => (ev.latencyNs.toNat : ℚ)

theorem latencyCounts_foldl_record (buckets : List ℚ) (l : List Event) (sm : ServiceMetrics) :
    (l.foldl (record buckets) sm).latencyCounts =
      (latencySamples l).foldl (insertLatency buckets) sm.latencyCounts := by
  induction l generalizing sm with
  | nil => rfl
  | cons ev l ih =>
    rw [List.foldl_cons, ih, record_latencyCounts]
    by_cases h : 0 < ev.latencyNs <;> simp [latencySamples, List.filter_cons, h]

/-- **The counts of a service are the histogram of its positive latencies**, in a map built from
an empty one. -/
theorem latencyCounts_of_lookup_observeAll {buckets : List ℚ} (evs : List Event) {S : GoString}
    {sm : ServiceMetrics} (h : (Aggregator.observeAll ⟨buckets, ∅⟩ evs).services.lookup S = some sm) :
    sm.latencyCounts = histogram buckets (latencySamples (evs.filter (BoundTo S ·))) := by
  rw [lookup_observeAll, AList.lookup_empty] at h
  cases hl : evs.filter (BoundTo S ·) with
  | nil => simp [hl] at h
  | cons ev l =>
    rw [hl, foldl_observeEntry_none, Option.some_inj] at h
    rw [← h, latencyCounts_foldl_record, histogram]
    rfl

/-- **An entry's latency points are in order, P50 ≤ P95 ≤ P99**, when its counts are the histogram
of fewer than `2^64` samples and the boundaries increase from 0. -/
theorem latencyPoints_sorted {buckets : List ℚ} (hb : (0 :: buckets).Sorted (· ≤ ·))
    {sm : ServiceMetrics} {xs : List ℚ} (hsm : sm.latencyCounts = histogram buckets xs)
    (hn : xs.length < 2 ^ 64) (now : Time) (svc : GoString) :
    ((addServicePoints buckets now {} svc sm).latencyPoints.map (·.value)).Sorted (· ≤ ·) := by
  have htotal : totalHistogramCount sm.latencyCounts = xs.length.toUInt64 := by
    rw [hsm, totalHistogramCount_histogram]
  simp only [addServicePoints, htotal]
  split_ifs with h
  · have hpos : 0 < xs.length := by
      have : 0 < xs.length.toUInt64.toNat := h
      rw [toNat_toUInt64, Nat.mod_eq_of_lt hn] at this
      exact this
    rw [hsm]
    simp only [List.nil_append, List.map_cons, List.map_nil, List.sorted_cons, List.mem_cons,
      List.mem_singleton, forall_eq_or_imp, forall_eq, List.not_mem_nil, false_implies,
      implies_true, List.sorted_nil, and_true]
    refine ⟨⟨?_, ?_⟩, ?_⟩ <;>
      exact histogramPercentile_mono buckets hpos hn hb (by norm_num) (by norm_num) (by norm_num)
  · exact List.sorted_nil

theorem latencyPoints_addServicePoints (buckets : List ℚ) (now : Time) (acc : FlushPoints)
    (svc : GoString) (sm : ServiceMetrics) :
    (addServicePoints buckets now acc svc sm).latencyPoints =
      acc.latencyPoints ++ (addServicePoints buckets now {} svc sm).latencyPoints := by
  simp only [addServicePoints]
  split_ifs <;> simp

/-- The loop of `flush` writes the latency points of the entries one after another. -/
theorem latencyPoints_foldl_addServicePoints (buckets : List ℚ) (now : Time)
    (l : List (Σ _ : GoString, ServiceMetrics)) (acc : FlushPoints) :
    (l.foldl (fun acc e => addServicePoints buckets now acc e.1 e.2) acc).latencyPoints =
      acc.latencyPoints ++
        l.flatMap fun e => (addServicePoints buckets now {} e.1 e.2).latencyPoints := by
  induction l generalizing acc with
  | nil => simp
  | cons e l ih =>
    rw [List.foldl_cons, ih, latencyPoints_addServicePoints, List.flatMap_cons, List.append_assoc]

theorem service_of_mem_latencyPoints {buckets : List ℚ} {now : Time} {svc : GoString}
    {sm : ServiceMetrics} {p : TimeSeriesPoint}
    (hp : p ∈ (addServicePoints buckets now {} svc sm).latencyPoints) :
    p.labels.lookup ("service" : GoString) = some svc :=
  (labels_of_mem_servicePoints ("latency", p)
    (by simp only [servicePoints, FlushPoints.tagged, tagWith, List.mem_append, List.mem_map]
        exact .inl (.inl (.inl ⟨p, hp, rfl⟩)))).1

/-- The latency points of an entry labelled with the service `S`: all of them or none. -/
theorem filter_latencyPoints (buckets : List ℚ) (now : Time) (svc : GoString)
    (sm : ServiceMetrics) (S : GoString) :
    (addServicePoints buckets now {} svc sm).latencyPoints.filter
        (fun p => p.labels.lookup ("service" : GoString) = some S) =
      if svc = S then (addServicePoints buckets now {} svc sm).latencyPoints else [] := by
  split_ifs with h
  · exact List.filter_eq_self.mpr fun p hp => by simp [service_of_mem_latencyPoints hp, h]
  · exact List.filter_eq_nil_iff.mpr fun p hp => by simp [service_of_mem_latencyPoints hp, h]

/-- In a list with one entry per key, the blocks of the entries of one key are one block. -/
theorem sorted_flatMap_of_nodupKeys {l : List (Σ _ : GoString, ServiceMetrics)}
    (hl : l.NodupKeys) (S : GoString) (g : (Σ _ : GoString, ServiceMetrics) → List ℚ)
    (hg : ∀ e ∈ l, e.1 = S → (g e).Sorted (· ≤ ·)) :
    (l.flatMap fun e => if e.1 = S then g e else []).Sorted (· ≤ ·) := by
  induction l with
  | nil => exact List.sorted_nil
  | cons e l ih =>
    obtain ⟨he, hl⟩ := List.nodupKeys_cons.mp hl
    rw [List.flatMap_cons]
    split_ifs with h
    · rw [List.flatMap_eq_nil_iff.mpr fun e' he' =>
        if_neg fun h' => he (by rw [h, ← h']; exact List.mem_keys_of_mem he'), List.append_nil]
      exact hg e (List.mem_cons_self _ _) h
    · exact ih hl fun e' he' => hg e' (List.mem_cons_of_mem _ he')

/-- **The percentiles `flush` writes for a service are in order, P50 ≤ P95 ≤ P99.**  After any
observations from an empty map with boundaries that increase from 0, the latency points of a
service with fewer than `2^64` positive latencies, in the order `flush` writes them, have
nondecreasing values. -/
theorem flushPoints_latency_sorted {buckets : List ℚ} (hb : (0 :: buckets).Sorted (· ≤ ·))
    (evs : List Event) (now : Time) (S : GoString)
    (hn : (latencySamples (evs.filter (BoundTo S ·))).length < 2 ^ 64) :
    (((flushPoints buckets now (Aggregator.observeAll ⟨buckets, ∅⟩ evs).services).latencyPoints.filter
        fun p => p.labels.lookup ("service" : GoString) = some S).map (·.value)).Sorted (· ≤ ·) := by
  rw [flushPoints, latencyPoints_foldl_addServicePoints, List.filter_append, List.filter_flatMap,
    List.map_append, List.map_flatMap]
  simp only [filter_latencyPoints, apply_ite (List.map _), List.map_nil, List.filter_nil,
    List.nil_append]
  refine sorted_flatMap_of_nodupKeys (AList.nodupKeys _) S _ fun e he h => ?_
  exact latencyPoints_sorted hb (latencyCounts_of_lookup_observeAll evs (AList.mem_lookup_iff.mpr he))
    (by rw [h]; exact hn) now e.1

/-! ## One sample, and `2^64 + 1` samples -/

/-- One request of 500 ns. -/
def singleSample : List ℚ := [500]

theorem histogramPercentile_in_bucket_single :
    (0 :: defaultBucketBoundaries).Sorted (· ≤ ·) ∧ 0 < singleSample.length ∧
      singleSample.length < 2 ^ 64 ∧
      ((∀ q : ℚ, 0 < q → q ≤ 1 →
        (bucketBounds defaultBucketBoundaries (quantileBucket defaultBucketBoundaries singleSample q)).1 ≤
            histogramPercentile defaultBucketBoundaries
              (histogram defaultBucketBoundaries singleSample) singleSample.length.toUInt64 q ∧
          histogramPercentile defaultBucketBoundaries
              (histogram defaultBucketBoundaries singleSample) singleSample.length.toUInt64 q ≤
            (bucketBounds defaultBucketBoundaries
              (quantileBucket defaultBucketBoundaries singleSample q)).2) ∧
        ∀ q q' : ℚ, 0 < q → q ≤ q' → q' ≤ 1 →
          histogramPercentile defaultBucketBoundaries
              (histogram defaultBucketBoundaries singleSample) singleSample.length.toUInt64 q ≤
            histogramPercentile defaultBucketBoundaries
              (histogram defaultBucketBoundaries singleSample) singleSample.length.toUInt64 q') :=
  ⟨by decide, by decide, by decide, histogramPercentile_in_bucket _ (by decide) (by decide) (by decide)⟩

theorem histogramPercentile_mem_range_single :
    (0 :: defaultBucketBoundaries).Sorted (· ≤ ·) ∧ 0 < singleSample.length ∧
      singleSample.length < 2 ^ 64 ∧ (∀ x ∈ singleSample, 500 ≤ x) ∧ (∀ x ∈ singleSample, x ≤ 500) ∧
      (bucketBounds defaultBucketBoundaries (bucketIndex 500 defaultBucketBoundaries)).1 ≤
          histogramPercentile defaultBucketBoundaries
            (histogram defaultBucketBoundaries singleSample) singleSample.length.toUInt64 1 ∧
        histogramPercentile defaultBucketBoundaries
            (histogram defaultBucketBoundaries singleSample) singleSample.length.toUInt64 1 ≤
          (bucketBounds defaultBucketBoundaries (bucketIndex 500 defaultBucketBoundaries)).2 :=
  ⟨by decide, by decide, by decide, by decide, by decide,
    histogramPercentile_mem_range _ (by decide) (by decide) (by decide) (by decide) (by decide)
      one_pos le_rfl⟩

/-- One count in the first bucket, with total 1: at the quantile 1 the estimate is the top of the
bucket. -/
theorem histogramPercentile_first_bucket :
    histogramPercentile defaultBucketBoundaries [1, 0, 0, 0, 0, 0, 0, 0, 0, 0, 0, 0, 0] 1 1 =
      1000000 := by
  have h₀ : (1 : UInt64) ≠ 0 := by decide
  have h₁ : (1 : UInt64).toNat = 1 := rfl
  have hb : bucketBounds defaultBucketBoundaries 0 = (0, 1000000) := by decide
  simp only [histogramPercentile, percentileLoop, hb, h₀, h₁, if_false, Option.getD_some,
    Nat.cast_one, one_mul, zero_add, le_refl, if_true, sub_self, sub_zero, div_one]

theorem histogram_singleSample :
    histogram defaultBucketBoundaries singleSample = [1, 0, 0, 0, 0, 0, 0, 0, 0, 0, 0, 0, 0] := by
  decide

/-- **A single sample of 500 ns is estimated at 1 ms** at the quantile 1, the top of its bucket:
the estimate is bounded by the bucket of the largest sample, not by twice the sample. -/
theorem percentile_above_twice_max :
    (∀ x ∈ singleSample, 0 < x ∧ x ≤ 500) ∧
      2 * 500 < histogramPercentile defaultBucketBoundaries
        (histogram defaultBucketBoundaries singleSample) singleSample.length.toUInt64 1 := by
  refine ⟨by decide, ?_⟩
  rw [histogram_singleSample, show singleSample.length.toUInt64 = 1 from rfl,
    histogramPercentile_first_bucket]
  norm_num

/-- One sample of 1 ns and `2^64` of 100 ms: the count of the 100 ms bucket wraps to 0. -/
def wrappingSamples : List ℚ := 1 :: List.replicate (2 ^ 64) 100000000

theorem length_wrappingSamples : wrappingSamples.length = 2 ^ 64 + 1 := by
  rw [wrappingSamples, List.length_cons, List.length_replicate]

theorem histogram_wrappingSamples :
    histogram defaultBucketBoundaries wrappingSamples = [1, 0, 0, 0, 0, 0, 0, 0, 0, 0, 0, 0, 0] := by
  rw [histogram, wrappingSamples, List.foldl_cons, foldl_insertLatency_replicate]
  decide

/-- The largest of the wrapping samples, 100 ms, is in the bucket from 50 ms to 100 ms. -/
theorem quantileBucket_wrappingSamples :
    quantileBucket defaultBucketBoundaries wrappingSamples 1 = 5 := by
  have hs : wrappingSamples.Sorted (· ≤ ·) :=
    List.sorted_cons.mpr ⟨fun b hb => by rw [List.eq_of_mem_replicate hb]; norm_num,
      List.pairwise_replicate.mpr (Or.inr le_rfl)⟩
  rw [quantileBucket, kthSmallest, hs.insertionSort_eq, length_wrappingSamples, one_mul,
    show ⌈((2 ^ 64 + 1 : Nat) : ℚ)⌉.toNat = 2 ^ 64 + 1 by rw [Int.ceil_natCast]; rfl,
    show 2 ^ 64 + 1 - 1 = 2 ^ 64 - 1 + 1 from rfl, wrappingSamples, List.getD_cons_succ,
    List.getD_eq_getElem _ _ (by rw [List.length_replicate]; decide), List.getElem_replicate]
  decide

/-- **With `2^64 + 1` samples the estimate leaves the bucket of the sample it stands for**: the
largest sample is in the bucket from 50 ms to 100 ms, and the estimate at the quantile 1 is 1 ms. -/
theorem percentile_outside_bucket :
    (∀ x ∈ wrappingSamples, 0 < x) ∧
      histogramPercentile defaultBucketBoundaries (histogram defaultBucketBoundaries wrappingSamples)
          wrappingSamples.length.toUInt64 1 <
        (bucketBounds defaultBucketBoundaries
          (quantileBucket defaultBucketBoundaries wrappingSamples 1)).1 := by
  refine ⟨fun x hx => ?_, ?_⟩
  · rcases List.mem_cons.mp hx with rfl | hx
    · norm_num
    · rw [List.eq_of_mem_replicate hx]; norm_num
  · rw [histogram_wrappingSamples, quantileBucket_wrappingSamples, length_wrappingSamples,
      show (2 ^ 64 + 1 : Nat).toUInt64 = 1 from rfl, histogramPercentile_first_bucket]
    decide

end Metrics
end Nefi
