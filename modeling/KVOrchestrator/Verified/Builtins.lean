import Mathlib.Data.Rat.Floor
import Mathlib.Order.Lattice
import Mathlib.Algebra.Order.Field.Rat

/-!
# The Python built-ins the code computes with

Numbers are exact: a Python `float` is modelled by the rational it denotes.
What remains of the built-ins is their behaviour at the edges: `int()`
truncates towards zero, a slice bound may be negative, `max` takes a default
for the empty sequence, and a division by zero raises.
-/

namespace KVOrchestrator.Verified

/-- The exceptions the modelled code can raise or catch. -/
inductive PyError where
  | zeroDivisionError
  | valueError (message : String)
  | attributeError (message : String)
  | other (message : String)
  deriving DecidableEq, Repr

/-- `a / b` on Python floats. -/
def pyDiv (a b : ℚ) : Except PyError ℚ :=
  if b = 0 then .error .zeroDivisionError else .ok (a / b)

theorem pyDiv_of_ne_zero (a : ℚ) {b : ℚ} (hb : b ≠ 0) : pyDiv a b = .ok (a / b) :=
  if_neg hb

/-- A comprehension whose calls do not raise. -/
theorem mapM_ok {α β ε : Type*} {f : α → Except ε β} {g : α → β} {l : List α}
    (h : ∀ a ∈ l, f a = .ok (g a)) : l.mapM f = .ok (l.map g) := by
  induction l with
  | nil => rfl
  | cons a rest ih =>
      have hrest := ih (fun b hb => h b (List.mem_cons_of_mem a hb))
      rw [List.mapM_cons, h a List.mem_cons_self, hrest]
      rfl

/-- A comprehension that undoes another one, item by item. -/
theorem mapM_map_ok {α β ε : Type*} {enc : α → β} {dec : β → Except ε α} {l : List α}
    (h : ∀ a ∈ l, dec (enc a) = .ok a) : (l.map enc).mapM dec = .ok l := by
  have hundone : l.mapM (dec ∘ enc) = .ok (l.map id) := mapM_ok h
  rw [List.mapM_map, hundone, List.map_id]

/-- `int(q)`: truncation towards zero. -/
def pyInt (q : ℚ) : Int := if 0 ≤ q then ⌊q⌋ else ⌈q⌉

theorem pyInt_of_nonneg {q : ℚ} (hq : 0 ≤ q) : pyInt q = ⌊q⌋ := if_pos hq

/-- The nearest integer, ties to the even one. -/
def roundHalfEven (q : ℚ) : Int :=
  let rest := q - ⌊q⌋
  if rest < 1 / 2 then ⌊q⌋
  else if 1 / 2 < rest then ⌊q⌋ + 1
  else if ⌊q⌋ % 2 = 0 then ⌊q⌋ else ⌊q⌋ + 1

/-- `round(q, digits)` -/
def pyRound (q : ℚ) (digits : Nat) : ℚ :=
  (roundHalfEven (q * 10 ^ digits) : ℚ) / 10 ^ digits

theorem roundHalfEven_cases (q : ℚ) :
    (q - ⌊q⌋ < 1 / 2 ∧ roundHalfEven q = ⌊q⌋) ∨
    (1 / 2 < q - ⌊q⌋ ∧ roundHalfEven q = ⌊q⌋ + 1) ∨
    (q - ⌊q⌋ = 1 / 2 ∧ roundHalfEven q = if ⌊q⌋ % 2 = 0 then ⌊q⌋ else ⌊q⌋ + 1) := by
  rcases lt_trichotomy (q - ⌊q⌋) (1 / 2) with hlow | htie | hhigh
  · exact .inl ⟨hlow, by simp only [roundHalfEven, if_pos hlow]⟩
  · have hlow : ¬q - ⌊q⌋ < 1 / 2 := by rw [htie]; exact lt_irrefl _
    have hhigh : ¬1 / 2 < q - ⌊q⌋ := by rw [htie]; exact lt_irrefl _
    exact .inr (.inr ⟨htie, by simp only [roundHalfEven, if_neg hlow, if_neg hhigh]⟩)
  · have hlow : ¬q - ⌊q⌋ < 1 / 2 := not_lt_of_gt hhigh
    exact .inr (.inl ⟨hhigh, by simp only [roundHalfEven, if_neg hlow, if_pos hhigh]⟩)

/-- Within one unit only the rest decides, and a larger rest does not round
down where a smaller one rounds up. -/
theorem roundHalfEven_mono {q r : ℚ} (h : q ≤ r) : roundHalfEven q ≤ roundHalfEven r := by
  have hq := roundHalfEven_cases q
  have hr := roundHalfEven_cases r
  rcases (Int.floor_mono h).lt_or_eq with hlt | heq
  · have hupper : roundHalfEven q ≤ ⌊q⌋ + 1 := by
      rcases hq with ⟨_, hq⟩ | ⟨_, hq⟩ | ⟨_, hq⟩ <;> grind
    have hlower : ⌊r⌋ ≤ roundHalfEven r := by
      rcases hr with ⟨_, hr⟩ | ⟨_, hr⟩ | ⟨_, hr⟩ <;> grind
    omega
  · have hrest : q - ⌊q⌋ ≤ r - ⌊r⌋ := by
      rw [heq]
      exact sub_le_sub_right h _
    rcases hq with ⟨_, hq⟩ | ⟨hhigh, hq⟩ | ⟨htie, hq⟩
    · rcases hr with ⟨_, hr⟩ | ⟨_, hr⟩ | ⟨_, hr⟩ <;> grind
    · rcases hr with ⟨hlow, _⟩ | ⟨_, hr⟩ | ⟨htie, _⟩
      · exact absurd (hhigh.trans_le hrest) (not_lt_of_gt hlow)
      · omega
      · exact absurd (hhigh.trans_le hrest) (by rw [htie]; exact lt_irrefl _)
    · rcases hr with ⟨hlow, _⟩ | ⟨_, hr⟩ | ⟨_, hr⟩
      · exact absurd (htie ▸ hrest) (not_le_of_gt hlow)
      · rw [hq, hr]
        split_ifs <;> omega
      · rw [hq, hr, heq]

theorem pyRound_mono {q r : ℚ} (h : q ≤ r) (digits : Nat) : pyRound q digits ≤ pyRound r digits := by
  have hpow : (0 : ℚ) < 10 ^ digits := pow_pos (by norm_num) digits
  unfold pyRound
  rw [div_le_div_iff_of_pos_right hpow]
  exact_mod_cast roundHalfEven_mono (mul_le_mul_of_nonneg_right h hpow.le)

/-- Whole numbers are as they are. -/
theorem pyRound_intCast (n : Int) (digits : Nat) : pyRound (n : ℚ) digits = n := by
  have hpow : (10 ^ digits : ℚ) ≠ 0 := pow_ne_zero _ (by norm_num)
  have hwhole : (n : ℚ) * 10 ^ digits = ((n * 10 ^ digits : Int) : ℚ) := by
    push_cast
    rfl
  have hround : roundHalfEven ((n * 10 ^ digits : Int) : ℚ) = n * 10 ^ digits := by
    unfold roundHalfEven
    rw [Int.floor_intCast, sub_self, if_pos (by norm_num)]
  unfold pyRound
  rw [hwhole, hround]
  push_cast
  exact mul_div_cancel_right₀ _ hpow

theorem pyRound_nonneg {q : ℚ} (h : 0 ≤ q) (digits : Nat) : 0 ≤ pyRound q digits := by
  have hzero := pyRound_intCast 0 digits
  rw [Int.cast_zero] at hzero
  rw [← hzero]
  exact pyRound_mono h digits

/-- `l[:k]`; a negative bound counts from the end. -/
def sliceTo {α : Type*} (l : List α) (k : Int) : List α :=
  l.take (if 0 ≤ k then k.toNat else l.length - (-k).toNat)

/-- `l[k:]`; a negative bound counts from the end. -/
def sliceFrom {α : Type*} (l : List α) (k : Int) : List α :=
  l.drop (if 0 ≤ k then k.toNat else l.length - (-k).toNat)

/-- `l[a:b]`; negative bounds count from the end. -/
def sliceBetween {α : Type*} (l : List α) (a b : Int) : List α :=
  (sliceTo l b).drop (if 0 ≤ a then a.toNat else l.length - (-a).toNat)

/-- Three slices at ascending bounds are the whole list. -/
theorem slices_append {α : Type*} (l : List α) {a b : Int} (ha : 0 ≤ a) (hab : a ≤ b) :
    sliceTo l a ++ (sliceBetween l a b ++ sliceFrom l b) = l := by
  have hb : 0 ≤ b := ha.trans hab
  have hmin : min a.toNat b.toNat = a.toNat := by omega
  rw [sliceBetween, sliceTo, sliceTo, sliceFrom, if_pos ha, if_pos hb, ← List.append_assoc]
  have hhead : l.take a.toNat = (l.take b.toNat).take a.toNat := by
    rw [List.take_take, hmin]
  rw [hhead, List.take_append_drop, List.take_append_drop]

/-- The result is the end of the list, `n` items of it or all it has. -/
def IsTail {α : Type*} (n : Nat) (result l : List α) : Prop :=
  result <:+ l ∧ result.length = min n l.length

/-- `l[-n:]` is the tail unless `n` is zero: then it is the whole list. -/
theorem isTail_sliceFrom_neg_iff {α : Type*} (l : List α) (n : Nat) :
    IsTail n (sliceFrom l (-(n : Int))) l ↔ 0 < n ∨ l = [] := by
  rcases Nat.eq_zero_or_pos n with rfl | hn
  · have hall : sliceFrom l (-((0 : Nat) : Int)) = l := rfl
    rw [hall, IsTail, Nat.zero_min, List.length_eq_zero_iff, and_iff_right (List.suffix_refl l)]
    exact (or_iff_right (Nat.lt_irrefl 0)).symm
  · have hneg : ¬0 ≤ -(n : Int) := by omega
    have hcount : (-(-(n : Int))).toNat = n := by omega
    rw [sliceFrom, if_neg hneg, hcount, iff_true_right (.inl hn)]
    refine ⟨List.drop_suffix _ l, ?_⟩
    rw [List.length_drop]
    omega

theorem sliceTo_of_nonneg {α : Type*} (l : List α) {k : Int} (hk : 0 ≤ k) :
    sliceTo l k = l.take k.toNat := by
  simp [sliceTo, hk]

theorem map_sliceTo {α β : Type*} (f : α → β) (l : List α) (k : Int) :
    (sliceTo l k).map f = sliceTo (l.map f) k := by
  simp [sliceTo, List.map_take]

/-- `max(xs, default=d)`. -/
def maxD {α : Type*} [Max α] (xs : List α) (d : α) : α := xs.max?.getD d

/-- `min(xs, default=d)`. -/
def minD {α : Type*} [Min α] (xs : List α) (d : α) : α := xs.min?.getD d

section LinearOrder

variable {α : Type*} [LinearOrder α]

theorem maxD_mem {xs : List α} (hxs : xs ≠ []) (d : α) : maxD xs d ∈ xs := by
  cases hmax : xs.max? with
  | none => exact absurd (List.max?_eq_none_iff.mp hmax) hxs
  | some m =>
      rw [maxD, hmax]
      exact List.max?_mem hmax

theorem le_maxD {xs : List α} {x : α} (hx : x ∈ xs) (d : α) : x ≤ maxD xs d := by
  cases hmax : xs.max? with
  | none => simp [List.max?_eq_none_iff.mp hmax] at hx
  | some m =>
      rw [maxD, hmax]
      exact (List.max?_eq_some_iff.mp hmax).2 x hx

theorem minD_mem {xs : List α} (hxs : xs ≠ []) (d : α) : minD xs d ∈ xs := by
  cases hmin : xs.min? with
  | none => exact absurd (List.min?_eq_none_iff.mp hmin) hxs
  | some m =>
      rw [minD, hmin]
      exact List.min?_mem hmin

theorem minD_le {xs : List α} {x : α} (hx : x ∈ xs) (d : α) : minD xs d ≤ x := by
  cases hmin : xs.min? with
  | none => simp [List.min?_eq_none_iff.mp hmin] at hx
  | some m =>
      rw [minD, hmin]
      exact (List.min?_eq_some_iff.mp hmin).2 x hx

/-- The minimum does not depend on the order of the items. -/
theorem minD_eq_of_perm {xs ys : List α} (hperm : xs.Perm ys) (d : α) : minD xs d = minD ys d := by
  by_cases hxs : xs = []
  · subst hxs
    rw [List.nil_perm.mp hperm]
  · have hys : ys ≠ [] := by
      rintro rfl
      exact hxs (List.perm_nil.mp hperm)
    apply le_antisymm
    · exact minD_le (hperm.mem_iff.mpr (minD_mem hys d)) d
    · exact minD_le (hperm.mem_iff.mp (minD_mem hxs d)) d

/-- The maximum does not depend on the order of the items. -/
theorem maxD_eq_of_perm {xs ys : List α} (hperm : xs.Perm ys) (d : α) : maxD xs d = maxD ys d := by
  by_cases hxs : xs = []
  · subst hxs
    rw [List.nil_perm.mp hperm]
  · have hys : ys ≠ [] := by
      rintro rfl
      exact hxs (List.perm_nil.mp hperm)
    apply le_antisymm
    · exact le_maxD (hperm.mem_iff.mp (maxD_mem hxs d)) d
    · exact le_maxD (hperm.mem_iff.mpr (maxD_mem hys d)) d

/-- A part of a list has the same maximum if it dominates the whole. -/
theorem maxD_eq_of_subset_iff {xs ys : List α} (hxs : xs ≠ []) (hsub : ∀ x ∈ xs, x ∈ ys) (d : α) :
    maxD xs d = maxD ys d ↔ ∀ y ∈ ys, ∃ x ∈ xs, y ≤ x := by
  constructor
  · intro heq y hy
    refine ⟨maxD xs d, maxD_mem hxs d, ?_⟩
    rw [heq]
    exact le_maxD hy d
  · intro hdom
    have hys : ys ≠ [] := List.ne_nil_of_mem (hsub _ (maxD_mem hxs d))
    apply le_antisymm
    · exact le_maxD (hsub _ (maxD_mem hxs d)) d
    · obtain ⟨x, hx, hle⟩ := hdom _ (maxD_mem hys d)
      exact hle.trans (le_maxD hx d)

/-- `max` commutes with a monotone conversion of the items. -/
theorem maxD_map {β : Type*} [LinearOrder β] {f : α → β} (hf : Monotone f) {xs : List α}
    (hxs : xs ≠ []) (d : α) (e : β) : maxD (xs.map f) e = f (maxD xs d) := by
  refine le_antisymm ?_ ?_
  · have hmap : xs.map f ≠ [] := fun h => hxs (List.map_eq_nil_iff.mp h)
    obtain ⟨x, hx, hfx⟩ := List.mem_map.mp (maxD_mem hmap e)
    rw [← hfx]
    exact hf (le_maxD hx d)
  · exact le_maxD (List.mem_map_of_mem (maxD_mem hxs d)) e

end LinearOrder

end KVOrchestrator.Verified
