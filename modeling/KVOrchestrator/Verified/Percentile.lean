import KVOrchestrator.Verified.Ranking
import Mathlib.Algebra.Order.Floor.Semiring
import Mathlib.Algebra.Order.BigOperators.Group.List
import Mathlib.Data.List.GetD
import Mathlib.Tactic.Linarith
import Mathlib.Tactic.FieldSimp

/-!
# Linearly interpolated percentiles

`np.percentile(xs, q)` sorts `xs` and interpolates between the two order
statistics around the position `(n - 1) * q / 100`.  The interpolated value
need not occur in `xs`, but as a threshold on the members of `xs` it admits
exactly what the upper of the two order statistics admits
(`interpolate_le_iff`).  Two thresholds that are members admit the same
members only if they are equal (`forall_mem_le_iff`), so that comparing
percentile thresholds comes down to comparing order statistics.
-/

namespace KVOrchestrator.Verified

variable {α : Type*}

section Sorted

variable [LinearOrder α] {s : List α}

/-- Entries of an ascending list ascend with their positions. -/
theorem getD_le_getD (hs : s.Pairwise (· ≤ ·)) (d : α) {i j : Nat} (hij : i ≤ j)
    (hj : j < s.length) : s.getD i d ≤ s.getD j d := by
  have hi : i < s.length := by omega
  rw [List.getD_eq_getElem _ _ hi, List.getD_eq_getElem _ _ hj]
  rcases Nat.lt_or_eq_of_le hij with hlt | rfl
  · exact List.pairwise_iff_getElem.mp hs i j hi hj hlt
  · exact le_refl _

omit [LinearOrder α] in
theorem getD_mem {d : α} {i : Nat} (hi : i < s.length) : s.getD i d ∈ s := by
  rw [List.getD_eq_getElem _ _ hi]
  exact List.getElem_mem hi

/-- Thresholds that are members are told apart by the members they admit. -/
theorem forall_mem_le_iff {t u : α} (ht : t ∈ s) (hu : u ∈ s) :
    (∀ x ∈ s, (t ≤ x ↔ u ≤ x)) ↔ t = u := by
  constructor
  · intro h
    have hut : u ≤ t := (h t ht).mp le_rfl
    have htu : t ≤ u := (h u hu).mpr le_rfl
    exact le_antisymm htu hut
  · rintro rfl x _
    exact Iff.rfl

end Sorted

section Interpolation

variable [Field α] [LinearOrder α] [IsStrictOrderedRing α] [FloorSemiring α]

/-- The value at the fractional position `v` of an ascending list. -/
def interpolate (s : List α) (v : α) : α :=
  let lower := s.getD ⌊v⌋₊ 0
  let upper := s.getD (min (⌊v⌋₊ + 1) (s.length - 1)) 0
  lower + (upper - lower) * (v - ⌊v⌋₊)

/-- `np.percentile(xs, q)`. -/
def percentile (xs : List α) (q : α) : α :=
  interpolate (sortBy id xs) (((xs.length : α) - 1) * (q / 100))

/-- At a whole position there is nothing to interpolate. -/
theorem interpolate_natCast (s : List α) (k : Nat) : interpolate s (k : α) = s.getD k 0 := by
  simp [interpolate]

omit [IsStrictOrderedRing α] in
/-- Between two positions the value is a proper mean of the two entries. -/
theorem interpolate_of_floor_lt {s : List α} {v : α} (hfrac : (⌊v⌋₊ : α) < v)
    (hv : ⌈v⌉₊ < s.length) :
    interpolate s v = s.getD ⌊v⌋₊ 0 + (s.getD ⌈v⌉₊ 0 - s.getD ⌊v⌋₊ 0) * (v - ⌊v⌋₊) := by
  have hlt : ⌊v⌋₊ < ⌈v⌉₊ := Nat.lt_ceil.mpr hfrac
  have hle : ⌈v⌉₊ ≤ ⌊v⌋₊ + 1 := Nat.ceil_le_floor_add_one v
  have hupper : min (⌊v⌋₊ + 1) (s.length - 1) = ⌈v⌉₊ := by omega
  rw [interpolate, hupper]

/-- **An interpolated threshold admits what its upper neighbour admits.** -/
theorem interpolate_le_iff {s : List α} (hs : s.Pairwise (· ≤ ·)) {v : α} (hv0 : 0 ≤ v)
    (hv : ⌈v⌉₊ < s.length) {x : α} (hx : x ∈ s) :
    interpolate s v ≤ x ↔ s.getD ⌈v⌉₊ 0 ≤ x := by
  rcases (Nat.floor_le hv0).eq_or_lt with hwhole | hfrac
  · have hceil : ⌈v⌉₊ = ⌊v⌋₊ := by
      conv_lhs => rw [← hwhole, Nat.ceil_natCast]
    rw [hceil, ← interpolate_natCast s ⌊v⌋₊, hwhole]
  have hlt : ⌊v⌋₊ < ⌈v⌉₊ := Nat.lt_ceil.mpr hfrac
  have hle : ⌈v⌉₊ ≤ ⌊v⌋₊ + 1 := Nat.ceil_le_floor_add_one v
  have hfloor : v < ⌊v⌋₊ + 1 := Nat.lt_floor_add_one v
  have hstep : s.getD ⌊v⌋₊ 0 ≤ s.getD ⌈v⌉₊ 0 := getD_le_getD hs 0 hlt.le hv
  rw [interpolate_of_floor_lt hfrac hv]
  generalize hlo : s.getD ⌊v⌋₊ 0 = lower at hstep ⊢
  generalize hup : s.getD ⌈v⌉₊ 0 = upper at hstep ⊢
  constructor
  · intro h
    -- `x` sits at some position; below the upper neighbour it is at most the
    -- lower one, and then the mean can only reach it if the two coincide
    obtain ⟨i, hi, rfl⟩ := List.getElem_of_mem hx
    rw [← List.getD_eq_getElem s 0 hi] at h ⊢
    rcases Nat.lt_or_ge i ⌈v⌉₊ with hbelow | habove
    · have hxlo : s.getD i 0 ≤ lower := by
        rw [← hlo]
        exact getD_le_getD hs 0 (by omega) (by omega)
      have hzero : (upper - lower) * (v - ⌊v⌋₊) ≤ 0 := by linarith
      have hgap : upper - lower ≤ 0 := by
        by_contra hpos
        have hprod : 0 < (upper - lower) * (v - ⌊v⌋₊) :=
          mul_pos (not_le.mp hpos) (sub_pos.mpr hfrac)
        linarith
      have hmean : 0 ≤ (upper - lower) * (v - ⌊v⌋₊) :=
        mul_nonneg (sub_nonneg.mpr hstep) (sub_nonneg.mpr hfrac.le)
      linarith
    · rw [← hup]
      exact getD_le_getD hs 0 habove hi
  · intro h
    have hmean : (upper - lower) * (v - ⌊v⌋₊) ≤ (upper - lower) * 1 :=
      mul_le_mul_of_nonneg_left (by linarith) (sub_nonneg.mpr hstep)
    linarith

/-- The members a percentile admits: those at or above the order statistic
next to its position. -/
theorem percentile_le_iff {xs : List α} {q : α} (hq0 : 0 ≤ q) (hq : q ≤ 100) {x : α}
    (hx : x ∈ xs) :
    percentile xs q ≤ x ↔
      (sortBy id xs).getD ⌈((xs.length : α) - 1) * (q / 100)⌉₊ 0 ≤ x := by
  have hpos : 0 < xs.length := List.length_pos_of_mem hx
  have hcount : (0 : α) ≤ (xs.length : α) - 1 := by
    have hone : (1 : α) ≤ (xs.length : α) := by exact_mod_cast hpos
    linarith
  have hfrac : q / 100 ≤ 1 := by linarith [div_le_one_of_le₀ hq (by norm_num)]
  have hfrac0 : 0 ≤ q / 100 := div_nonneg hq0 (by norm_num)
  have hend : ⌈((xs.length : α) - 1) * (q / 100)⌉₊ ≤ xs.length - 1 := by
    rw [Nat.ceil_le, Nat.cast_sub hpos, Nat.cast_one]
    exact mul_le_of_le_one_right hcount hfrac
  refine interpolate_le_iff (pairwise_sortBy id xs) (mul_nonneg hcount hfrac0) ?_ ?_
  · rw [length_sortBy]
    omega
  · exact (mem_sortBy id xs x).mpr hx

/-! ### Means -/

omit [FloorSemiring α] in
/-- A lower bound of the values bounds their mean. -/
theorem le_mean {xs : List α} (hxs : xs ≠ []) {lo : α} (hlo : ∀ x ∈ xs, lo ≤ x) :
    lo ≤ xs.sum / xs.length := by
  have hpos : (0 : α) < xs.length := by exact_mod_cast List.length_pos_iff.mpr hxs
  rw [le_div_iff₀ hpos, mul_comm, ← nsmul_eq_mul]
  exact List.card_nsmul_le_sum xs lo hlo

omit [FloorSemiring α] in
/-- An upper bound of the values bounds their mean. -/
theorem mean_le {xs : List α} (hxs : xs ≠ []) {hi : α} (hhi : ∀ x ∈ xs, x ≤ hi) :
    xs.sum / xs.length ≤ hi := by
  have hpos : (0 : α) < xs.length := by exact_mod_cast List.length_pos_iff.mpr hxs
  rw [div_le_iff₀ hpos, mul_comm, ← nsmul_eq_mul]
  exact List.sum_le_card_nsmul xs hi hhi

/-! ### Order of the percentiles -/

/-- The value is at least the lower of the two entries. -/
theorem getD_floor_le_interpolate {s : List α} (hs : s.Pairwise (· ≤ ·)) {v : α} (hv0 : 0 ≤ v)
    (hv : ⌊v⌋₊ < s.length) : s.getD ⌊v⌋₊ 0 ≤ interpolate s v := by
  have hstep : s.getD ⌊v⌋₊ 0 ≤ s.getD (min (⌊v⌋₊ + 1) (s.length - 1)) 0 :=
    getD_le_getD hs 0 (by omega) (by omega)
  have hmean : 0 ≤ (s.getD (min (⌊v⌋₊ + 1) (s.length - 1)) 0 - s.getD ⌊v⌋₊ 0) * (v - ⌊v⌋₊) :=
    mul_nonneg (sub_nonneg.mpr hstep) (sub_nonneg.mpr (Nat.floor_le hv0))
  unfold interpolate
  linarith

/-- The value is at most the upper of the two entries. -/
theorem interpolate_le_getD {s : List α} (hs : s.Pairwise (· ≤ ·)) {v : α}
    (hv : ⌊v⌋₊ < s.length) :
    interpolate s v ≤ s.getD (min (⌊v⌋₊ + 1) (s.length - 1)) 0 := by
  have hstep : s.getD ⌊v⌋₊ 0 ≤ s.getD (min (⌊v⌋₊ + 1) (s.length - 1)) 0 :=
    getD_le_getD hs 0 (by omega) (by omega)
  have hfloor : v < ⌊v⌋₊ + 1 := Nat.lt_floor_add_one v
  have hmean : (s.getD (min (⌊v⌋₊ + 1) (s.length - 1)) 0 - s.getD ⌊v⌋₊ 0) * (v - ⌊v⌋₊) ≤
      (s.getD (min (⌊v⌋₊ + 1) (s.length - 1)) 0 - s.getD ⌊v⌋₊ 0) * 1 :=
    mul_le_mul_of_nonneg_left (by linarith) (sub_nonneg.mpr hstep)
  unfold interpolate
  linarith

/-- Between the same two entries the value grows with the position; from one
pair of entries to a later one it passes an entry. -/
theorem interpolate_mono {s : List α} (hs : s.Pairwise (· ≤ ·)) {v w : α} (hv0 : 0 ≤ v)
    (hvw : v ≤ w) (hw : ⌊w⌋₊ < s.length) : interpolate s v ≤ interpolate s w := by
  rcases (Nat.floor_mono hvw).lt_or_eq with hlt | heq
  · have hpass : s.getD (min (⌊v⌋₊ + 1) (s.length - 1)) 0 ≤ s.getD ⌊w⌋₊ 0 :=
      getD_le_getD hs 0 (by omega) hw
    calc interpolate s v ≤ s.getD (min (⌊v⌋₊ + 1) (s.length - 1)) 0 :=
          interpolate_le_getD hs (by omega)
      _ ≤ s.getD ⌊w⌋₊ 0 := hpass
      _ ≤ interpolate s w := getD_floor_le_interpolate hs (hv0.trans hvw) hw
  · have hstep : s.getD ⌊w⌋₊ 0 ≤ s.getD (min (⌊w⌋₊ + 1) (s.length - 1)) 0 :=
      getD_le_getD hs 0 (by omega) (by omega)
    have hmean := mul_le_mul_of_nonneg_left (sub_le_sub_right hvw (⌊w⌋₊ : α))
      (sub_nonneg.mpr hstep)
    unfold interpolate
    rw [heq]
    linarith

/-- The position of a percentile is a position. -/
theorem floor_position_lt {xs : List α} (hxs : xs ≠ []) {q : α} (hq : q ≤ 100) :
    ⌊((xs.length : α) - 1) * (q / 100)⌋₊ < (sortBy id xs).length := by
  have hpos : 0 < xs.length := List.length_pos_iff.mpr hxs
  have hone : (1 : α) ≤ (xs.length : α) := by exact_mod_cast hpos
  have hfrac : q / 100 ≤ 1 := by linarith [div_le_one_of_le₀ hq (by norm_num : (0 : α) ≤ 100)]
  have hle : ((xs.length : α) - 1) * (q / 100) ≤ ((xs.length - 1 : Nat) : α) := by
    rw [Nat.cast_sub hpos, Nat.cast_one]
    exact mul_le_of_le_one_right (by linarith) hfrac
  have hfloor : ⌊((xs.length : α) - 1) * (q / 100)⌋₊ ≤ xs.length - 1 :=
    Nat.floor_le_of_le hle
  rw [length_sortBy]
  omega

theorem position_nonneg {xs : List α} (hxs : xs ≠ []) {q : α} (hq : 0 ≤ q) :
    0 ≤ ((xs.length : α) - 1) * (q / 100) := by
  have hpos : 0 < xs.length := List.length_pos_iff.mpr hxs
  have hone : (1 : α) ≤ (xs.length : α) := by exact_mod_cast hpos
  exact mul_nonneg (by linarith) (div_nonneg hq (by norm_num))

/-- **Percentiles are ordered.** -/
theorem percentile_mono {xs : List α} (hxs : xs ≠ []) {q r : α} (hq : 0 ≤ q) (hqr : q ≤ r)
    (hr : r ≤ 100) : percentile xs q ≤ percentile xs r := by
  have hpos : 0 < xs.length := List.length_pos_iff.mpr hxs
  have hone : (1 : α) ≤ (xs.length : α) := by exact_mod_cast hpos
  apply interpolate_mono (pairwise_sortBy id xs) (position_nonneg hxs hq)
  · exact mul_le_mul_of_nonneg_left (div_le_div_of_nonneg_right hqr (by norm_num)) (by linarith)
  · exact floor_position_lt hxs hr

/-- A lower bound of the values bounds every percentile. -/
theorem le_percentile {xs : List α} (hxs : xs ≠ []) {q lo : α} (hq0 : 0 ≤ q) (hq : q ≤ 100)
    (hlo : ∀ x ∈ xs, lo ≤ x) : lo ≤ percentile xs q := by
  have hlt := floor_position_lt hxs hq
  have hmem : (sortBy id xs).getD ⌊((xs.length : α) - 1) * (q / 100)⌋₊ 0 ∈ xs :=
    (mem_sortBy id xs _).mp (getD_mem hlt)
  exact (hlo _ hmem).trans
    (getD_floor_le_interpolate (pairwise_sortBy id xs) (position_nonneg hxs hq0) hlt)

/-- An upper bound of the values bounds every percentile. -/
theorem percentile_le {xs : List α} (hxs : xs ≠ []) {q hi : α} (hq : q ≤ 100)
    (hhi : ∀ x ∈ xs, x ≤ hi) : percentile xs q ≤ hi := by
  have hlt := floor_position_lt hxs hq
  have hmem : (sortBy id xs).getD (min (⌊((xs.length : α) - 1) * (q / 100)⌋₊ + 1)
      ((sortBy id xs).length - 1)) 0 ∈ xs :=
    (mem_sortBy id xs _).mp (getD_mem (by omega))
  exact (interpolate_le_getD (pairwise_sortBy id xs) hlt).trans (hhi _ hmem)

omit [IsStrictOrderedRing α] in
/-- A percentile does not see the order of the values. -/
theorem percentile_perm {xs ys : List α} (h : xs.Perm ys) (q : α) :
    percentile xs q = percentile ys q := by
  have hsorted : sortBy id xs = sortBy id ys := by
    have hperm : (sortBy id xs).Perm (sortBy id ys) :=
      ((sortBy_perm id xs).trans h).trans (sortBy_perm id ys).symm
    have hanti : ∀ a b : α, a ∈ sortBy id xs → b ∈ sortBy id ys → a ≤ b → b ≤ a → a = b :=
      fun _ _ _ _ => le_antisymm
    exact hperm.eq_of_pairwise hanti (pairwise_sortBy id xs) (pairwise_sortBy id ys)
  rw [percentile, percentile, hsorted, h.length_eq]

end Interpolation

end KVOrchestrator.Verified
