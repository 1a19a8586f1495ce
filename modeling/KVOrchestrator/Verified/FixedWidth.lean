import Mathlib.Data.String.Basic
import Mathlib.Data.List.Basic
import Mathlib.Tactic.IntervalCases

/-!
# Numerals of a fixed width

Strings are compared from the left, so numbers written with leading zeros to one
width compare like the numbers (`decimal_lt`).  Fields written one after the other compare field
by field: what follows a first difference does not count
(`append_lt_append_of_length`).
-/

namespace KVOrchestrator.Verified

theorem digitChar_lt {d e : Nat} (hlt : d < e) (he : e < 10) :
    Nat.digitChar d < Nat.digitChar e := by
  interval_cases e <;> interval_cases d <;> decide

/-- The last `width` decimal digits of a number. -/
def decimal : Nat → Nat → List Char
  | 0, _ => []
  | width + 1, n => Nat.digitChar (n / 10 ^ width) :: decimal width (n % 10 ^ width)

@[simp] theorem length_decimal (width n : Nat) : (decimal width n).length = width := by
  induction width generalizing n with
  | zero => rfl
  | succ width ih => rw [decimal, List.length_cons, ih]

theorem decimal_lt {width n m : Nat} (hlt : n < m) (hm : m < 10 ^ width) :
    decimal width n < decimal width m := by
  induction width generalizing n m with
  | zero =>
      rw [pow_zero] at hm
      omega
  | succ width ih =>
      have hpos : 0 < 10 ^ width := Nat.pow_pos (by omega)
      have hdigit : m / 10 ^ width < 10 := by
        rw [Nat.div_lt_iff_lt_mul hpos, Nat.mul_comm, ← Nat.pow_succ]
        exact hm
      have hle : n / 10 ^ width ≤ m / 10 ^ width := Nat.div_le_div_right hlt.le
      rw [decimal, decimal, List.cons_lt_cons_iff]
      rcases Nat.lt_or_eq_of_le hle with hfirst | hsame
      · exact .inl (digitChar_lt hfirst hdigit)
      · right
        refine ⟨by rw [hsame], ih ?_ (Nat.mod_lt _ hpos)⟩
        have hn := Nat.div_add_mod n (10 ^ width)
        have hm' := Nat.div_add_mod m (10 ^ width)
        rw [hsame] at hn
        omega

section Lexicographic

variable {α : Type*} [LinearOrder α]

/-- Behind a difference between parts of equal length nothing counts. -/
theorem append_lt_append_of_length {a b : List α} (hlen : a.length = b.length) (hlt : a < b)
    (c d : List α) : a ++ c < b ++ d := by
  induction a generalizing b with
  | nil =>
      rw [List.length_nil] at hlen
      rw [List.length_eq_zero_iff.mp hlen.symm] at hlt
      exact absurd hlt (List.not_lt_nil _)
  | cons x a ih =>
      cases b with
      | nil => exact absurd hlt (List.not_lt_nil _)
      | cons y b =>
          rw [List.cons_lt_cons_iff] at hlt
          rw [List.cons_append, List.cons_append, List.cons_lt_cons_iff]
          rcases hlt with hhead | ⟨hsame, htail⟩
          · exact .inl hhead
          · exact .inr ⟨hsame, ih (Nat.succ.inj hlen) htail⟩

end Lexicographic

end KVOrchestrator.Verified
