import Nefi.Model.Event
import Mathlib.Algebra.BigOperators.Group.List
import Mathlib.Algebra.Order.Field.Rat

/-!
# The latency histogram of `internal/server/metrics/aggregator.go`

Each service keeps one count per latency bucket: `len(buckets)` bounded buckets and a last,
unbounded one.  Three helpers of the aggregator work on these counts.

* `observeLatency` walks the boundaries and increments the first bucket whose boundary is not
  below the sample, or the `+Inf` bucket when there is none.  `insertLoop` is that loop, and
  `insertLoop_eq` says what it computes: an increment at `bucketIndex`, the first boundary not
  below the sample (`getElem_lt_of_lt_bucketIndex`, `le_of_getElem?_bucketIndex`), which moves
  right as the sample grows (`bucketIndex_mono`).
* `totalHistogramCount` sums the counts, in `uint64` arithmetic.
* `histogramPercentile` walks the cumulative counts to the first bucket that reaches
  `quantile * total` and interpolates linearly inside it.

Boundaries and latencies are `float64` in the source and rationals here.  Every boundary of
`defaultBucketBoundaries` is an integer below `2^53`, so it is exact as a `float64`, and a latency
converted from `uint64` is rounded monotonically: comparing the rounded latency with such a
boundary gives the same answer as comparing the exact latency, and the bucket chosen is the same.
-/

namespace Nefi
namespace Metrics

/-- `defaultBucketBoundaries`, in nanoseconds: 1ms ... 10s. -/
def defaultBucketBoundaries : List ℚ :=
  [1000000, 5000000, 10000000, 25000000, 50000000, 100000000, 250000000, 500000000, 1000000000,
    2500000000, 5000000000, 10000000000]

/-! ## Inserting a sample -/

/-- The index of the first boundary not below `x`, or the number of boundaries when every
boundary is below `x`. -/
def bucketIndex (x : ℚ) : List ℚ → Nat
  | [] => 0
  | b :: bs => if x ≤ b then 0 else bucketIndex x bs + 1

theorem bucketIndex_le_length (x : ℚ) (bs : List ℚ) : bucketIndex x bs ≤ bs.length := by
  induction bs with
  | nil => exact le_rfl
  | cons b bs ih =>
    simp only [bucketIndex, List.length_cons]
    split <;> omega

/-- Every boundary before `bucketIndex x bs` is below `x`. -/
theorem getElem_lt_of_lt_bucketIndex {x : ℚ} {bs : List ℚ} {k : Nat} (hk : k < bs.length)
    (h : k < bucketIndex x bs) : bs[k] < x := by
  induction bs generalizing k with
  | nil => exact absurd hk (Nat.not_lt_zero k)
  | cons b bs ih =>
    unfold bucketIndex at h
    split_ifs at h with hb
    · exact absurd h (Nat.not_lt_zero k)
    · cases k with
      | zero => exact not_le.mp hb
      | succ k => exact ih (Nat.lt_of_succ_lt_succ hk) (Nat.lt_of_succ_lt_succ h)

/-- The boundary at `bucketIndex x bs`, when there is one, is not below `x`. -/
theorem le_of_getElem?_bucketIndex {x b : ℚ} {bs : List ℚ} (h : bs[bucketIndex x bs]? = some b) :
    x ≤ b := by
  induction bs with
  | nil => exact absurd h (by simp [bucketIndex])
  | cons c bs ih =>
    by_cases hc : x ≤ c
    · simp only [bucketIndex, if_pos hc, List.getElem?_cons_zero, Option.some.injEq] at h
      exact h ▸ hc
    · simp only [bucketIndex, if_neg hc, List.getElem?_cons_succ] at h
      exact ih h

/-- A larger sample never goes to an earlier bucket. -/
theorem bucketIndex_mono {x y : ℚ} (h : x ≤ y) (buckets : List ℚ) :
    bucketIndex x buckets ≤ bucketIndex y buckets := by
  induction buckets with
  | nil => exact le_rfl
  | cons b bs ih =>
    simp only [bucketIndex]
    split_ifs with hx hy hy
    · exact le_rfl
    · exact Nat.zero_le _
    · exact absurd (h.trans hy) hx
    · exact Nat.succ_le_succ ih

/-- The `for` loop of `observeLatency`, from index `i`: the first boundary not below `x` gets the
increment and the loop breaks; `none` when the loop ends without inserting. -/
def insertLoop (x : ℚ) (counts : List UInt64) : Nat → List ℚ → Option (List UInt64)
  | _, [] => none
  | i, b :: bs => if x ≤ b then some (counts.modify (· + 1) i) else insertLoop x counts (i + 1) bs

/-- The counts after `observeLatency`: the loop's result, or an increment of the `+Inf` bucket
at index `len(buckets)`. -/
def insertLatency (buckets : List ℚ) (counts : List UInt64) (x : ℚ) : List UInt64 :=
  match insertLoop x counts 0 buckets with
  | some counts' => counts'
  | none => counts.modify (· + 1) buckets.length

theorem insertLoop_eq (x : ℚ) (counts : List UInt64) (i : Nat) (bs : List ℚ) :
    insertLoop x counts i bs =
      if bucketIndex x bs < bs.length then some (counts.modify (· + 1) (i + bucketIndex x bs))
      else none := by
  induction bs generalizing i with
  | nil => rfl
  | cons b bs ih =>
    simp only [insertLoop, bucketIndex, List.length_cons, ih]
    split
    · simp
    · split <;> split <;> first | (congr 2; omega) | omega | rfl

/-- **`observeLatency` increments exactly the bucket `bucketIndex x buckets`.** -/
theorem insertLatency_eq (buckets : List ℚ) (counts : List UInt64) (x : ℚ) :
    insertLatency buckets counts x = counts.modify (· + 1) (bucketIndex x buckets) := by
  unfold insertLatency
  rw [insertLoop_eq]
  by_cases h : bucketIndex x buckets < buckets.length
  · simp only [h, if_true, Nat.zero_add]
  · simp only [Nat.le_antisymm (bucketIndex_le_length x buckets) (Nat.not_lt.mp h),
      Nat.lt_irrefl, if_false]

@[simp] theorem length_insertLatency (buckets : List ℚ) (counts : List UInt64) (x : ℚ) :
    (insertLatency buckets counts x).length = counts.length := by
  rw [insertLatency_eq, List.length_modify]

/-- An increment inside the list adds one to the sum. -/
theorem sum_modify_succ {counts : List UInt64} {i : Nat} (h : i < counts.length) :
    (counts.modify (· + 1) i).sum = counts.sum + 1 := by
  induction counts generalizing i with
  | nil => simp at h
  | cons c cs ih =>
    cases i with
    | zero => simp [List.modify, List.modifyTailIdx, add_right_comm]
    | succ i =>
      simp only [List.length_cons, Nat.add_lt_add_iff_right] at h
      simp [List.modify_succ_cons, ih h, add_assoc]

/-- Two samples commute: the counts do not depend on the order they were inserted in. -/
theorem insertLatency_comm (buckets : List ℚ) (counts : List UInt64) (x y : ℚ) :
    insertLatency buckets (insertLatency buckets counts x) y =
      insertLatency buckets (insertLatency buckets counts y) x := by
  simp only [insertLatency_eq]
  by_cases h : bucketIndex x buckets = bucketIndex y buckets
  · rw [h]
  · exact List.modify_modify_ne _ _ _ h

/-! ## Reading the histogram -/

/-- `totalHistogramCount`: the sum of the counts, in `uint64`. -/
def totalHistogramCount (counts : List UInt64) : UInt64 := counts.foldl (· + ·) 0

theorem totalHistogramCount_eq (counts : List UInt64) : totalHistogramCount counts = counts.sum := by
  rw [totalHistogramCount, List.sum_eq_foldl]

/-- The bounds of bucket `i`: the previous boundary (0 for the first bucket) and its own
boundary, or twice the last boundary for the `+Inf` bucket. -/
def bucketBounds (buckets : List ℚ) (i : Nat) : ℚ × ℚ :=
  let lower := if i = 0 then 0 else if i ≤ buckets.length then buckets.getD (i - 1) 0 else 0
  let upper :=
    if i < buckets.length then buckets.getD i 0
    else if 0 < buckets.length then buckets.getD (buckets.length - 1) 0 * 2 else 0
  (lower, upper)

/-- The loop of `histogramPercentile` from bucket `i`, with the cumulative count so far: the first
bucket whose cumulative count reaches `target` gives the interpolated value. -/
def percentileLoop (buckets : List ℚ) (target : ℚ) : Nat → ℚ → List UInt64 → Option ℚ
  | _, _, [] => none
  | i, cumulative, count :: rest =>
    let cumulative := cumulative + count.toNat
    if target ≤ cumulative then
      let (lower, upper) := bucketBounds buckets i
      let prevCumulative := cumulative - count.toNat
      if count = 0 then some lower
      else some (lower + (target - prevCumulative) / count.toNat * (upper - lower))
    else percentileLoop buckets target (i + 1) cumulative rest

/-- `histogramPercentile`.  When the loop finds no bucket, the last boundary (or 0). -/
def histogramPercentile (buckets : List ℚ) (counts : List UInt64) (total : UInt64)
    (quantile : ℚ) : ℚ :=
  (percentileLoop buckets (quantile * total.toNat) 0 0 counts).getD
    (if 0 < buckets.length then buckets.getD (buckets.length - 1) 0 else 0)

end Metrics
end Nefi
