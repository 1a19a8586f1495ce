import KVOrchestrator.Verified.Builtins
import Mathlib.Algebra.Order.BigOperators.Group.List
import Mathlib.Algebra.Order.Field.Basic
import Mathlib.Tactic.Ring

/-!
# Means and exponential moving averages

The mean of a list is at most its maximum (`mean_le_maxD`).
`movingAverage α seed xs` starts at `seed` and moves by the fraction `α` towards
each sample.  What it started from fades by `1 - α` a sample but never vanishes,
so the seed can be told from the result (`movingAverage_injective`).
-/

namespace KVOrchestrator.Verified

variable {K : Type*} [Field K]

theorem mean_le_maxD [LinearOrder K] [IsStrictOrderedRing K] {xs : List K} (hne : xs ≠ [])
    (d : K) : xs.sum / xs.length ≤ maxD xs d := by
  have hlen : (0 : K) < xs.length := by
    exact_mod_cast List.length_pos_iff.mpr hne
  rw [div_le_iff₀ hlen]
  have hsum := List.sum_le_card_nsmul xs (maxD xs d) (fun x hx => le_maxD hx d)
  rw [nsmul_eq_mul, mul_comm] at hsum
  exact hsum

/-- The exponential moving average of the samples, from a seed. -/
def movingAverage (α seed : K) (xs : List K) : K :=
  xs.foldl (fun e x => α * x + (1 - α) * e) seed

@[simp] theorem movingAverage_nil (α seed : K) : movingAverage α seed [] = seed := rfl

@[simp] theorem movingAverage_cons (α seed x : K) (xs : List K) :
    movingAverage α seed (x :: xs) = movingAverage α (α * x + (1 - α) * seed) xs := rfl

theorem movingAverage_append (α seed : K) (xs ys : List K) :
    movingAverage α seed (xs ++ ys) = movingAverage α (movingAverage α seed xs) ys :=
  List.foldl_append

/-- A difference between seeds fades geometrically. -/
theorem movingAverage_sub (α : K) (xs : List K) :
    ∀ s s' : K, movingAverage α s xs - movingAverage α s' xs = (1 - α) ^ xs.length * (s - s') := by
  induction xs with
  | nil =>
      intro s s'
      simp
  | cons x xs ih =>
      intro s s'
      rw [movingAverage_cons, movingAverage_cons, ih, List.length_cons, pow_succ]
      ring

/-- Short of jumping to each sample, the average remembers its seed. -/
theorem movingAverage_injective {α : K} (hα : α ≠ 1) (xs : List K) :
    Function.Injective (fun s => movingAverage α s xs) := by
  intro s s' heq
  have hdiff : (1 - α) ^ xs.length * (s - s') = 0 := by
    rw [← movingAverage_sub]
    exact sub_eq_zero.mpr heq
  have hpow : (1 - α) ^ xs.length ≠ 0 := pow_ne_zero _ (sub_ne_zero.mpr hα.symm)
  exact sub_eq_zero.mp ((mul_eq_zero.mp hdiff).resolve_left hpow)

end KVOrchestrator.Verified
