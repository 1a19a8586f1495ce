import KVOrchestrator.Verified.Builtins
import KVOrchestrator.Verified.SampleVariance
import Mathlib.Algebra.BigOperators.Ring.List
import Mathlib.Tactic.Linarith
import Mathlib.Tactic.Ring

/-!
# Means of rounded numbers

Rounding moves a number by at most half a unit of the last place
(`abs_pyRound_sub_le`), so a mean moves by no more when the numbers are rounded
first, and the two rounded means are the same or neighbours
(`abs_pyRound_mean_sub_le`).  The same holds of a mean that is put together from
the rounded means of groups, each with its size as weight
(`abs_weighted_sub_le`).
-/

namespace KVOrchestrator.Verified

/-! ## Rounding -/

theorem abs_roundHalfEven_sub_le (q : ℚ) : |(roundHalfEven q : ℚ) - q| ≤ 1 / 2 := by
  have hfloor := Int.floor_le q
  have hnext := Int.lt_floor_add_one q
  rw [abs_le]
  rcases roundHalfEven_cases q with ⟨hlow, hq⟩ | ⟨hhigh, hq⟩ | ⟨htie, hq⟩
  · rw [hq]
    constructor <;> linarith
  · rw [hq]
    push_cast
    constructor <;> linarith
  · rw [hq]
    split_ifs
    · constructor <;> linarith
    · push_cast
      constructor <;> linarith

/-- **Rounding** is off by half a unit at most. -/
theorem abs_pyRound_sub_le (q : ℚ) (digits : Nat) :
    |pyRound q digits - q| ≤ 1 / 2 / 10 ^ digits := by
  have hpow : (0 : ℚ) < 10 ^ digits := pow_pos (by norm_num) digits
  have hscaled : pyRound q digits - q =
      ((roundHalfEven (q * 10 ^ digits) : ℚ) - q * 10 ^ digits) / 10 ^ digits := by
    rw [pyRound, sub_div, mul_div_cancel_right₀ _ hpow.ne']
  rw [hscaled, abs_div, abs_of_pos hpow]
  exact div_le_div_of_nonneg_right (abs_roundHalfEven_sub_le _) hpow.le

/-- Numbers that are half a unit apart are rounded to neighbours. -/
theorem abs_pyRound_sub_pyRound_le {q r : ℚ} {digits : Nat}
    (h : |q - r| ≤ 1 / 2 / 10 ^ digits) :
    |pyRound q digits - pyRound r digits| ≤ 1 / 10 ^ digits := by
  have hpow : (0 : ℚ) < 10 ^ digits := pow_pos (by norm_num) digits
  have hclose : |q * 10 ^ digits - r * 10 ^ digits| ≤ 1 / 2 := by
    rw [← sub_mul, abs_mul, abs_of_pos hpow]
    exact (le_div_iff₀ hpow).mp h
  have hq := abs_le.mp (abs_roundHalfEven_sub_le (q * 10 ^ digits))
  have hr := abs_le.mp (abs_roundHalfEven_sub_le (r * 10 ^ digits))
  have hqr := abs_le.mp hclose
  -- the difference of two integers is below two, so it is at most one
  have hupper : (roundHalfEven (q * 10 ^ digits) : ℚ) - roundHalfEven (r * 10 ^ digits) < 2 := by
    linarith
  have hlower : -2 < (roundHalfEven (q * 10 ^ digits) : ℚ) - roundHalfEven (r * 10 ^ digits) := by
    linarith
  have hint : |roundHalfEven (q * 10 ^ digits) - roundHalfEven (r * 10 ^ digits)| ≤ 1 := by
    rw [abs_le]
    have hupper' : roundHalfEven (q * 10 ^ digits) - roundHalfEven (r * 10 ^ digits) < 2 := by
      exact_mod_cast hupper
    have hlower' : -2 < roundHalfEven (q * 10 ^ digits) - roundHalfEven (r * 10 ^ digits) := by
      exact_mod_cast hlower
    omega
  rw [pyRound, pyRound, ← sub_div, abs_div, abs_of_pos hpow]
  apply div_le_div_of_nonneg_right _ hpow.le
  exact_mod_cast hint

/-! ## Means -/

section Means

variable {α : Type*} {f g : α → ℚ}

theorem abs_sum_sub_sum_le {e : α → ℚ} (l : List α) (h : ∀ a ∈ l, |f a - g a| ≤ e a) :
    |(l.map f).sum - (l.map g).sum| ≤ (l.map e).sum := by
  induction l with
  | nil => simp
  | cons a l ih =>
      have hhead := h a List.mem_cons_self
      have htail := ih (fun b hb => h b (List.mem_cons_of_mem a hb))
      rw [List.map_cons, List.map_cons, List.map_cons, List.sum_cons, List.sum_cons, List.sum_cons]
      have hsplit : f a + (l.map f).sum - (g a + (l.map g).sum) =
          (f a - g a) + ((l.map f).sum - (l.map g).sum) := by ring
      rw [hsplit]
      linarith [abs_add_le (f a - g a) ((l.map f).sum - (l.map g).sum)]

/-- Means of numbers that are close are as close. -/
theorem abs_sampleMean_sub_le {l : List α} (hne : l ≠ []) {e : ℚ}
    (h : ∀ a ∈ l, |f a - g a| ≤ e) : |sampleMean (l.map f) - sampleMean (l.map g)| ≤ e := by
  have hlen : (0 : ℚ) < l.length := by exact_mod_cast List.length_pos_iff.mpr hne
  have hsum := abs_sum_sub_sum_le l h
  rw [List.map_const', List.sum_replicate, nsmul_eq_mul] at hsum
  rw [sampleMean, sampleMean, List.length_map, List.length_map, ← sub_div, abs_div,
    abs_of_pos hlen, div_le_iff₀ hlen, mul_comm]
  exact hsum

/-- **The mean of rounded numbers**, rounded, is the rounded mean or a neighbour of
it. -/
theorem abs_pyRound_mean_sub_le {l : List α} (hne : l ≠ []) (f : α → ℚ) (digits : Nat) :
    |pyRound (sampleMean (l.map (fun a => pyRound (f a) digits))) digits -
      pyRound (sampleMean (l.map f)) digits| ≤ 1 / 10 ^ digits :=
  abs_pyRound_sub_pyRound_le
    (abs_sampleMean_sub_le hne (fun a _ => abs_pyRound_sub_le (f a) digits))

end Means

/-! ## Groups -/

section Groups

variable {α κ : Type*} [DecidableEq κ] (key : α → κ)

theorem sum_map_ite_of_nodup {keys : List κ} (hnodup : keys.Nodup) {k : κ} (hk : k ∈ keys)
    (c : ℚ) : (keys.map (fun k' => if k = k' then c else 0)).sum = c := by
  induction keys with
  | nil => cases hk
  | cons k' keys ih =>
      rw [List.nodup_cons] at hnodup
      rw [List.map_cons, List.sum_cons]
      by_cases heq : k = k'
      · have hzero : keys.map (fun k' => if k = k' then c else 0) = keys.map (fun _ => 0) := by
          apply List.map_congr_left
          intro k'' hk''
          rw [if_neg]
          intro hsame
          exact hnodup.1 (heq ▸ hsame ▸ hk'')
        rw [if_pos heq, hzero]
        simp
      · rw [if_neg heq, zero_add]
        exact ih hnodup.2 (by simpa [heq] using hk)

/-- The sums of the groups add up. -/
theorem sum_sum_groups {keys : List κ} (hnodup : keys.Nodup) (f : α → ℚ) {l : List α}
    (hkeys : ∀ a ∈ l, key a ∈ keys) :
    (keys.map (fun k => ((l.filter (fun a => decide (key a = k))).map f).sum)).sum =
      (l.map f).sum := by
  induction l with
  | nil => simp
  | cons a l ih =>
      have hsplit : keys.map (fun k => (((a :: l).filter
            (fun b => decide (key b = k))).map f).sum) =
          keys.map (fun k => (if key a = k then f a else 0) +
            ((l.filter (fun b => decide (key b = k))).map f).sum) := by
        apply List.map_congr_left
        intro k _
        by_cases hk : key a = k
        · rw [List.filter_cons_of_pos (by simpa using hk), List.map_cons, List.sum_cons, if_pos hk]
        · rw [List.filter_cons_of_neg (by simpa using hk), if_neg hk, zero_add]
      rw [hsplit, List.sum_map_add, ih (fun b hb => hkeys b (List.mem_cons_of_mem a hb)),
        sum_map_ite_of_nodup hnodup (hkeys a List.mem_cons_self), List.map_cons, List.sum_cons]

theorem sum_countP_groups {keys : List κ} (hnodup : keys.Nodup) {l : List α}
    (hkeys : ∀ a ∈ l, key a ∈ keys) :
    (keys.map (fun k => (l.countP (fun a => decide (key a = k)) : ℚ))).sum = l.length := by
  have hsum := sum_sum_groups key hnodup (fun _ => (1 : ℚ)) hkeys
  simp only [List.map_const', List.sum_replicate, nsmul_eq_mul, mul_one] at hsum
  rw [← hsum]
  congr 1
  apply List.map_congr_left
  intro k _
  rw [List.countP_eq_length_filter]

/-- The size of a group times its rounded mean is its sum up to half a unit for
each member. -/
theorem abs_count_mul_sub_sum_le (f : α → ℚ) (l : List α) (digits : Nat) :
    |(l.length : ℚ) * pyRound (sampleMean (l.map f)) digits - (l.map f).sum| ≤
      l.length * (1 / 2 / 10 ^ digits) := by
  by_cases hne : l = []
  · simp [hne]
  · have hlen : (0 : ℚ) < l.length := by exact_mod_cast List.length_pos_iff.mpr hne
    have hsum : (l.map f).sum = l.length * sampleMean (l.map f) := by
      rw [sampleMean, List.length_map, mul_div_cancel₀ _ hlen.ne']
    rw [hsum, ← mul_sub, abs_mul, abs_of_pos hlen]
    exact mul_le_mul_of_nonneg_left (abs_pyRound_sub_le _ digits) hlen.le

/-- **The rounded means of groups**, weighted, are the rounded mean up to a unit of
the last place. -/
theorem abs_weighted_sub_le {keys : List κ} (hnodup : keys.Nodup) (f : α → ℚ) {l : List α}
    (hne : l ≠ []) (hkeys : ∀ a ∈ l, key a ∈ keys) (digits : Nat) :
    |(keys.map (fun k => (l.countP (fun a => decide (key a = k)) : ℚ) *
          pyRound (sampleMean ((l.filter (fun a => decide (key a = k))).map f)) digits)).sum /
        l.length -
      pyRound (sampleMean (l.map f)) digits| ≤ 1 / 10 ^ digits := by
  have hlen : (0 : ℚ) < l.length := by exact_mod_cast List.length_pos_iff.mpr hne
  have hgroups : |(keys.map (fun k => (l.countP (fun a => decide (key a = k)) : ℚ) *
        pyRound (sampleMean ((l.filter (fun a => decide (key a = k))).map f)) digits)).sum -
      (l.map f).sum| ≤ l.length * (1 / 2 / 10 ^ digits) := by
    have hsize : (keys.map (fun k => (l.countP (fun a => decide (key a = k)) : ℚ) *
        (1 / 2 / 10 ^ digits))).sum = l.length * (1 / 2 / 10 ^ digits) := by
      rw [List.sum_map_mul_right, sum_countP_groups key hnodup hkeys]
    rw [← sum_sum_groups key hnodup f hkeys, ← hsize]
    apply abs_sum_sub_sum_le
    intro k _
    rw [List.countP_eq_length_filter]
    exact abs_count_mul_sub_sum_le f _ digits
  have hmean : |(keys.map (fun k => (l.countP (fun a => decide (key a = k)) : ℚ) *
        pyRound (sampleMean ((l.filter (fun a => decide (key a = k))).map f)) digits)).sum /
        l.length - sampleMean (l.map f)| ≤ 1 / 2 / 10 ^ digits := by
    rw [sampleMean, List.length_map, ← sub_div, abs_div, abs_of_pos hlen, div_le_iff₀ hlen,
      mul_comm]
    exact hgroups
  have hround := abs_pyRound_sub_le (sampleMean (l.map f)) digits
  have hhalves : (1 / 2 / 10 ^ digits : ℚ) + 1 / 2 / 10 ^ digits = 1 / 10 ^ digits := by
    rw [← add_div]
    norm_num
  rw [abs_le] at hmean hround ⊢
  constructor <;> linarith

end Groups

end KVOrchestrator.Verified
