import Mathlib.Algebra.Order.BigOperators.Group.List
import Mathlib.Algebra.Order.Field.Basic
import Mathlib.Algebra.BigOperators.Group.List.Basic

/-!
# Sample variances

The variance of a sample sums the squared deviations from its mean and divides
by the number of its degrees of freedom.  A sample of at least two values has
variance zero exactly if all of them are equal (`sampleVariance_eq_zero_iff`).
-/

namespace KVOrchestrator.Verified

variable {K : Type*} [Field K]

/-- The mean of a sample. -/
def sampleMean (xs : List K) : K := xs.sum / xs.length

/-- The variance of a sample, with `length - ddof` degrees of freedom. -/
def sampleVariance (ddof : Nat) (xs : List K) : K :=
  (xs.map (fun x => (x - sampleMean xs) ^ 2)).sum / (xs.length - ddof)

/-- All values of a sample are equal. -/
def Constant (xs : List K) : Prop := ∀ x ∈ xs, ∀ y ∈ xs, x = y

instance [DecidableEq K] (xs : List K) : Decidable (Constant xs) :=
  inferInstanceAs (Decidable (∀ x ∈ xs, ∀ y ∈ xs, x = y))

section Ordered

variable [LinearOrder K] [IsStrictOrderedRing K]

/-- The mean of equal values is one of them. -/
theorem sampleMean_of_constant {xs : List K} (h : Constant xs) {x : K} (hx : x ∈ xs) :
    sampleMean xs = x := by
  have hlen : (xs.length : K) ≠ 0 := by
    exact_mod_cast (List.length_pos_of_mem hx).ne'
  have hsum : xs.sum = xs.length * x := by
    rw [List.sum_eq_card_nsmul xs x (fun y hy => h y hy x hx), nsmul_eq_mul]
  rw [sampleMean, hsum, mul_div_cancel_left₀ x hlen]

theorem sum_squares_nonneg (f : K → K) (xs : List K) : 0 ≤ (xs.map (fun x => f x ^ 2)).sum := by
  apply List.sum_nonneg
  intro y hy
  obtain ⟨x, _, rfl⟩ := List.mem_map.mp hy
  exact sq_nonneg (f x)

/-- Squares sum to zero only if all of them are. -/
theorem sum_squares_eq_zero_iff (f : K → K) (xs : List K) :
    (xs.map (fun x => f x ^ 2)).sum = 0 ↔ ∀ x ∈ xs, f x = 0 := by
  induction xs with
  | nil => simp
  | cons x xs ih =>
      rw [List.map_cons, List.sum_cons, List.forall_mem_cons, ← ih, ← sq_eq_zero_iff (a := f x)]
      exact add_eq_zero_iff_of_nonneg (sq_nonneg (f x)) (sum_squares_nonneg f xs)

theorem sampleVariance_nonneg {ddof : Nat} {xs : List K} (hlen : ddof < xs.length) :
    0 ≤ sampleVariance ddof xs := by
  have hpos : (0 : K) < xs.length - ddof := by
    rw [sub_pos]
    exact_mod_cast hlen
  exact div_nonneg (sum_squares_nonneg _ xs) hpos.le

/-- Only equal values do not vary. -/
theorem sampleVariance_eq_zero_iff {ddof : Nat} {xs : List K} (hlen : ddof < xs.length) :
    sampleVariance ddof xs = 0 ↔ Constant xs := by
  have hpos : (0 : K) < xs.length - ddof := by
    rw [sub_pos]
    exact_mod_cast hlen
  rw [sampleVariance, div_eq_zero_iff, or_iff_left hpos.ne', sum_squares_eq_zero_iff]
  constructor
  · intro h x hx y hy
    rw [sub_eq_zero.mp (h x hx), sub_eq_zero.mp (h y hy)]
  · intro h x hx
    rw [sampleMean_of_constant h hx, sub_self]

end Ordered

end KVOrchestrator.Verified
