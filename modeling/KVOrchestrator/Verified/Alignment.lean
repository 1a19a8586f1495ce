import Mathlib.Data.List.Basic
import Mathlib.Order.Bounds.Basic
import Mathlib.Order.Lattice.Nat

/-!
# Alignments of two lists

The length of a longest common subsequence and the edit distance are given by
recursions on the heads of the lists, and proved to be the optima they stand
for (`isGreatest_commonLength`, `isLeast_editDistance`).

A program tabulates such a recursion over the prefixes of its lists, row by row,
and keeps one row at a time.  Read from their ends, prefixes grow at the head:
`scanRow_eq` says that the scan of a row turns the row of one prefix into the row
of the next, for every table with the recurrence (`TableOf`).
-/

namespace KVOrchestrator.Verified

/-! ## Tables over prefixes -/

section Tables

variable {α β γ : Type*}

/-- One row of a table, from the entry after `left` on.  `diagonal` is the entry
above `left`, and `above` the rest of the row above. -/
def scanRow (entry : α → β → γ → γ → γ → γ) (x : α) : List β → γ → γ → List γ → List γ
  | y :: ys, diagonal, left, up :: above =>
      let next := entry x y diagonal left up
      next :: scanRow entry x ys up next above
  | _, _, _, _ => []

/-- `table` has the recurrence: `diagonal`, `left` and `up` are the entries
without the heads of both lists, of the second and of the first. -/
def TableOf (entry : α → β → γ → γ → γ → γ) (table : List α → List β → γ) : Prop :=
  ∀ x y a b, table (x :: a) (y :: b) =
    entry x y (table a b) (table (x :: a) b) (table a (y :: b))

/-- The entries for the prefixes of a list that continue `read`, which is
reversed. -/
def tableRow (table : List α → List β → γ) (a : List α) : (read : List β) → List β → List γ
  | read, [] => [table a read]
  | read, y :: ys => table a read :: tableRow table a (y :: read) ys

theorem tableRow_eq_cons (table : List α → List β → γ) (a : List α) (read ys : List β) :
    tableRow table a read ys = table a read :: (tableRow table a read ys).tail := by
  cases ys <;> rfl

/-- The last entry of a row is the one for the whole list. -/
theorem getD_tableRow (table : List α → List β → γ) (a : List α) (read ys : List β) (d : γ) :
    (tableRow table a read ys).getD ys.length d = table a (ys.reverse ++ read) := by
  induction ys generalizing read with
  | nil => rfl
  | cons y ys ih =>
      rw [tableRow, List.length_cons, List.getD_cons_succ, ih, List.reverse_cons,
        List.append_assoc, List.singleton_append]

/-- **The scan of a row** turns the row of a prefix into the row of the prefix
with one more item. -/
theorem scanRow_eq {entry : α → β → γ → γ → γ → γ} {table : List α → List β → γ}
    (htable : TableOf entry table) (x : α) (a : List α) (read ys : List β) :
    scanRow entry x ys (table a read) (table (x :: a) read) (tableRow table a read ys).tail =
      (tableRow table (x :: a) read ys).tail := by
  induction ys generalizing read with
  | nil => rfl
  | cons y ys ih =>
      show scanRow entry x (y :: ys) (table a read) (table (x :: a) read)
        (tableRow table a (y :: read) ys) = tableRow table (x :: a) (y :: read) ys
      rw [tableRow_eq_cons table a (y :: read) ys, scanRow,
        tableRow_eq_cons table (x :: a) (y :: read) ys, ← htable x y a read]
      exact congrArg _ (ih (y :: read))

end Tables

variable {α : Type*} [DecidableEq α]

/-! ## Longest common subsequences -/

/-- The length of a longest common subsequence. -/
def commonLength : List α → List α → Nat
  | [], _ => 0
  | _ :: _, [] => 0
  | x :: a, y :: b =>
      if x = y then commonLength a b + 1
      else max (commonLength (x :: a) b) (commonLength a (y :: b))
  termination_by a b => a.length + b.length

section Common

theorem commonLength_nil_left (b : List α) : commonLength [] b = 0 := by rw [commonLength]

theorem commonLength_nil_right (a : List α) : commonLength a [] = 0 := by
  cases a with
  | nil => rw [commonLength]
  | cons x a => rw [commonLength]

/-- The entry of the table of common lengths. -/
def commonEntry (x y : α) (diagonal left up : Nat) : Nat :=
  if x = y then diagonal + 1 else max left up

theorem tableOf_commonLength : TableOf commonEntry (commonLength (α := α)) := by
  intro x y a b
  rw [commonLength, commonEntry]

/-- There is a common subsequence of the length. -/
theorem exists_common_sublist (a b : List α) :
    ∃ l : List α, l.Sublist a ∧ l.Sublist b ∧ l.length = commonLength a b := by
  induction a, b using commonLength.induct with
  | case1 b => exact ⟨[], List.nil_sublist _, List.nil_sublist _, (commonLength_nil_left b).symm⟩
  | case2 x a =>
      exact ⟨[], List.nil_sublist _, List.nil_sublist _, (commonLength_nil_right _).symm⟩
  | case3 a y b ih =>
      obtain ⟨l, ha, hb, hlength⟩ := ih
      refine ⟨y :: l, ha.cons_cons y, hb.cons_cons y, ?_⟩
      rw [commonLength, if_pos rfl, List.length_cons, hlength]
  | case4 x a y b hne ihleft ihup =>
      rw [commonLength, if_neg hne]
      rcases max_choice (commonLength (x :: a) b) (commonLength a (y :: b)) with hmax | hmax
      · obtain ⟨l, ha, hb, hlength⟩ := ihleft
        exact ⟨l, ha, hb.cons y, hlength.trans hmax.symm⟩
      · obtain ⟨l, ha, hb, hlength⟩ := ihup
        exact ⟨l, ha.cons x, hb, hlength.trans hmax.symm⟩

/-- No common subsequence is longer. -/
theorem length_le_commonLength {l a b : List α} (ha : l.Sublist a) (hb : l.Sublist b) :
    l.length ≤ commonLength a b := by
  induction a, b using commonLength.induct generalizing l with
  | case1 b =>
      rw [List.sublist_nil.mp ha]
      exact Nat.zero_le _
  | case2 x a =>
      rw [List.sublist_nil.mp hb]
      exact Nat.zero_le _
  | case3 a y b ih =>
      rw [commonLength, if_pos rfl]
      have htail := ih ha.tail hb.tail
      rw [List.length_tail] at htail
      omega
  | case4 x a y b hne ihleft ihup =>
      rw [commonLength, if_neg hne]
      rcases List.sublist_cons_iff.mp ha with hrest | ⟨l', hl, _⟩
      · exact (ihup hrest hb).trans (le_max_right _ _)
      · rcases List.sublist_cons_iff.mp hb with hrest | ⟨l'', hl', _⟩
        · exact (ihleft ha hrest).trans (le_max_left _ _)
        · rw [hl] at hl'
          exact absurd (List.cons.inj hl').1 hne

/-- **The length is optimal.** -/
theorem isGreatest_commonLength (a b : List α) :
    IsGreatest {n | ∃ l : List α, l.Sublist a ∧ l.Sublist b ∧ l.length = n}
      (commonLength a b) := by
  constructor
  · exact exists_common_sublist a b
  · rintro n ⟨l, ha, hb, rfl⟩
    exact length_le_commonLength ha hb

theorem commonLength_comm (a b : List α) : commonLength a b = commonLength b a := by
  have hset : {n | ∃ l : List α, l.Sublist a ∧ l.Sublist b ∧ l.length = n} =
      {n | ∃ l : List α, l.Sublist b ∧ l.Sublist a ∧ l.length = n} := by
    ext n
    exact ⟨fun ⟨l, ha, hb, hn⟩ => ⟨l, hb, ha, hn⟩, fun ⟨l, hb, ha, hn⟩ => ⟨l, ha, hb, hn⟩⟩
  have hleft := isGreatest_commonLength a b
  rw [hset] at hleft
  exact hleft.unique (isGreatest_commonLength b a)

/-- Read from their ends, two lists have as much in common. -/
theorem commonLength_reverse (a b : List α) :
    commonLength a.reverse b.reverse = commonLength a b := by
  have hle : ∀ a b : List α, commonLength a b ≤ commonLength a.reverse b.reverse := by
    intro a b
    obtain ⟨l, ha, hb, hlength⟩ := exists_common_sublist a b
    rw [← hlength, ← List.length_reverse]
    exact length_le_commonLength ha.reverse hb.reverse
  apply le_antisymm
  · have hback := hle a.reverse b.reverse
    rwa [List.reverse_reverse, List.reverse_reverse] at hback
  · exact hle a b

theorem commonLength_le_left (a b : List α) : commonLength a b ≤ a.length := by
  obtain ⟨l, ha, _, hlength⟩ := exists_common_sublist a b
  rw [← hlength]
  exact ha.length_le

/-- Two lists that have the whole of both in common are the same. -/
theorem commonLength_eq_iff {a b : List α} :
    commonLength a b = a.length ∧ commonLength a b = b.length ↔ a = b := by
  constructor
  · rintro ⟨hleft, hright⟩
    obtain ⟨l, ha, hb, hlength⟩ := exists_common_sublist a b
    rw [← ha.eq_of_length (hlength.trans hleft), hb.eq_of_length (hlength.trans hright)]
  · rintro rfl
    have hself := length_le_commonLength (List.Sublist.refl a) (List.Sublist.refl a)
    have hle := commonLength_le_left a a
    omega

end Common

/-! ## Edits -/

section Edits

omit [DecidableEq α]

/-- One insertion, deletion or substitution of an item. -/
inductive Edit : List α → List α → Prop
  | insert (front : List α) (x : α) (rest : List α) : Edit (front ++ rest) (front ++ x :: rest)
  | delete (front : List α) (x : α) (rest : List α) : Edit (front ++ x :: rest) (front ++ rest)
  | substitute (front : List α) (x y : α) (rest : List α) :
      Edit (front ++ x :: rest) (front ++ y :: rest)

/-- So many edits, one after the other, turn the first list into the second. -/
inductive Edits : Nat → List α → List α → Prop
  | refl (a : List α) : Edits 0 a a
  | step {n : Nat} {a b c : List α} : Edit a b → Edits n b c → Edits (n + 1) a c

theorem Edit.cons (x : α) {a b : List α} (h : Edit a b) : Edit (x :: a) (x :: b) := by
  cases h with
  | insert front y rest => exact .insert (x :: front) y rest
  | delete front y rest => exact .delete (x :: front) y rest
  | substitute front y z rest => exact .substitute (x :: front) y z rest

theorem Edit.reverse {a b : List α} (h : Edit a b) : Edit a.reverse b.reverse := by
  cases h with
  | insert front x rest =>
      have hedit := Edit.insert rest.reverse x front.reverse
      simpa using hedit
  | delete front x rest =>
      have hedit := Edit.delete rest.reverse x front.reverse
      simpa using hedit
  | substitute front x y rest =>
      have hedit := Edit.substitute rest.reverse x y front.reverse
      simpa using hedit

namespace Edits

variable {m n : Nat} {a b c : List α}

theorem cons (x : α) (h : Edits n a b) : Edits n (x :: a) (x :: b) := by
  induction h with
  | refl a => exact .refl _
  | step hedit _ ih => exact .step (hedit.cons x) ih

theorem reverse (h : Edits n a b) : Edits n a.reverse b.reverse := by
  induction h with
  | refl a => exact .refl _
  | step hedit _ ih => exact .step hedit.reverse ih

theorem trans (h : Edits m a b) (h' : Edits n b c) : Edits (m + n) a c := by
  induction h with
  | refl a =>
      rw [Nat.zero_add]
      exact h'
  | step hedit _ ih =>
      rw [Nat.add_right_comm]
      exact .step hedit (ih h')

theorem inserts (b : List α) : Edits b.length [] b := by
  induction b with
  | nil => exact .refl []
  | cons y b ih => exact .step (.insert [] y []) (ih.cons y)

theorem deletes (a : List α) : Edits a.length a [] := by
  induction a with
  | nil => exact .refl []
  | cons x a ih => exact .step (.delete [] x a) ih

theorem eq_of_zero (h : Edits 0 a b) : a = b := by
  cases h
  rfl

end Edits

end Edits

/-! ## The edit distance -/

/-- The edit distance, by the heads of the lists. -/
def editDistance : List α → List α → Nat
  | [], b => b.length
  | x :: a, [] => (x :: a).length
  | x :: a, y :: b =>
      if x = y then editDistance a b
      else 1 + min (editDistance a b) (min (editDistance a (y :: b)) (editDistance (x :: a) b))
  termination_by a b => a.length + b.length

section Distance

theorem editDistance_nil_left (b : List α) : editDistance [] b = b.length := by rw [editDistance]

theorem editDistance_nil_right (a : List α) : editDistance a [] = a.length := by
  cases a with
  | nil => rw [editDistance]
  | cons x a => rw [editDistance]

/-- The entry of the table of edit distances. -/
def editEntry (x y : α) (diagonal left up : Nat) : Nat :=
  if x = y then diagonal else 1 + min diagonal (min up left)

theorem tableOf_editDistance : TableOf editEntry (editDistance (α := α)) := by
  intro x y a b
  rw [editDistance, editEntry]

/-- The distance can be covered. -/
theorem edits_editDistance (a b : List α) : Edits (editDistance a b) a b := by
  induction a, b using editDistance.induct with
  | case1 b =>
      rw [editDistance_nil_left]
      exact .inserts b
  | case2 x a =>
      rw [editDistance_nil_right]
      exact .deletes _
  | case3 a y b ih =>
      rw [editDistance, if_pos rfl]
      exact ih.cons y
  | case4 x a y b hne ihdiagonal ihup ihleft =>
      rw [editDistance, if_neg hne, Nat.add_comm]
      rcases min_choice (editDistance a b)
        (min (editDistance a (y :: b)) (editDistance (x :: a) b)) with hmin | hmin
      · rw [hmin]
        exact .step (.substitute [] x y a) (ihdiagonal.cons y)
      · rw [hmin]
        rcases min_choice (editDistance a (y :: b)) (editDistance (x :: a) b) with hmin | hmin
        · rw [hmin]
          exact .step (.delete [] x a) ihup
        · rw [hmin]
          exact .step (.insert [] y (x :: a)) (ihleft.cons y)

/-- With one item more at the head of either list, the distance changes by at
most one. -/
theorem editDistance_cons (a b : List α) :
    (∀ x, editDistance (x :: a) b ≤ editDistance a b + 1 ∧
      editDistance a b ≤ editDistance (x :: a) b + 1) ∧
    (∀ y, editDistance a (y :: b) ≤ editDistance a b + 1 ∧
      editDistance a b ≤ editDistance a (y :: b) + 1) := by
  have hnil : ∀ b : List α, ∀ y, editDistance [] (y :: b) ≤ editDistance [] b + 1 ∧
      editDistance [] b ≤ editDistance [] (y :: b) + 1 := by
    intro b y
    rw [editDistance_nil_left, editDistance_nil_left, List.length_cons]
    omega
  -- an item more at the head of the first list, by induction on the second one
  have hfirst : ∀ a : List α,
      (∀ b y, editDistance a (y :: b) ≤ editDistance a b + 1 ∧
        editDistance a b ≤ editDistance a (y :: b) + 1) →
      ∀ b x, editDistance (x :: a) b ≤ editDistance a b + 1 ∧
        editDistance a b ≤ editDistance (x :: a) b + 1 := by
    intro a hsecond b x
    induction b with
    | nil =>
        rw [editDistance_nil_right, editDistance_nil_right, List.length_cons]
        omega
    | cons y b ih =>
        have hy := hsecond b y
        rw [editDistance]
        split <;> omega
  induction a generalizing b with
  | nil => exact ⟨hfirst [] hnil b, hnil b⟩
  | cons x a ih =>
      have hrest : ∀ b y, editDistance (x :: a) (y :: b) ≤ editDistance (x :: a) b + 1 ∧
          editDistance (x :: a) b ≤ editDistance (x :: a) (y :: b) + 1 := by
        intro b y
        have hx := (ih b).1 x
        have hy := (ih b).2 y
        rw [editDistance]
        split <;> omega
      exact ⟨hfirst (x :: a) hrest b, hrest b⟩

/-- A change that costs one costs one behind the same head, too. -/
theorem editDistance_cons_le {a a' : List α}
    (h : ∀ c, editDistance a c ≤ editDistance a' c + 1) (x : α) (c : List α) :
    editDistance (x :: a) c ≤ editDistance (x :: a') c + 1 := by
  induction c with
  | nil =>
      have hnil := h []
      rw [editDistance_nil_right, editDistance_nil_right] at hnil ⊢
      rw [List.length_cons, List.length_cons]
      omega
  | cons z c ih =>
      have hdiagonal := h c
      have hup := h (z :: c)
      rw [editDistance, editDistance]
      split <;> omega

theorem editDistance_substitute (x y : α) (a c : List α) :
    editDistance (x :: a) c ≤ editDistance (y :: a) c + 1 := by
  cases c with
  | nil =>
      rw [editDistance_nil_right, editDistance_nil_right, List.length_cons, List.length_cons]
      omega
  | cons z c =>
      have hup := (editDistance_cons a c).2 z
      have hleft := (editDistance_cons a c).1 y
      rw [editDistance, editDistance]
      split <;> split <;> omega

/-- **One edit** changes the distance to any list by at most one. -/
theorem editDistance_le_of_edit {a b : List α} (h : Edit a b) (c : List α) :
    editDistance a c ≤ editDistance b c + 1 := by
  cases h with
  | insert front x rest =>
      induction front generalizing c with
      | nil => exact ((editDistance_cons rest c).1 x).2
      | cons z front ih => exact editDistance_cons_le ih z c
  | delete front x rest =>
      induction front generalizing c with
      | nil => exact ((editDistance_cons rest c).1 x).1
      | cons z front ih => exact editDistance_cons_le ih z c
  | substitute front x y rest =>
      induction front generalizing c with
      | nil => exact editDistance_substitute x y rest c
      | cons z front ih => exact editDistance_cons_le ih z c

theorem editDistance_self (a : List α) : editDistance a a = 0 := by
  induction a with
  | nil => rw [editDistance_nil_left, List.length_nil]
  | cons x a ih => rw [editDistance, if_pos rfl, ih]

/-- Fewer edits do not do. -/
theorem editDistance_le_of_edits {n : Nat} {a b : List α} (h : Edits n a b) :
    editDistance a b ≤ n := by
  induction h with
  | refl a => exact (editDistance_self a).le
  | step hedit _ ih => exact (editDistance_le_of_edit hedit _).trans (Nat.succ_le_succ ih)

/-- **The distance is optimal.** -/
theorem isLeast_editDistance (a b : List α) : IsLeast {n | Edits n a b} (editDistance a b) :=
  ⟨edits_editDistance a b, fun _ h => editDistance_le_of_edits h⟩

/-! ## The distance is a metric -/

theorem editDistance_comm (a b : List α) : editDistance a b = editDistance b a := by
  induction a, b using editDistance.induct with
  | case1 b => rw [editDistance_nil_left, editDistance_nil_right]
  | case2 x a => rw [editDistance_nil_left, editDistance_nil_right]
  | case3 a y b ih => rw [editDistance, if_pos rfl, editDistance, if_pos rfl, ih]
  | case4 x a y b hne ihdiagonal ihup ihleft =>
      rw [editDistance, if_neg hne, editDistance, if_neg (Ne.symm hne), ihdiagonal, ihup, ihleft,
        min_comm (editDistance (y :: b) a)]

theorem editDistance_eq_zero_iff {a b : List α} : editDistance a b = 0 ↔ a = b := by
  constructor
  · intro hzero
    have hedits := edits_editDistance a b
    rw [hzero] at hedits
    exact hedits.eq_of_zero
  · rintro rfl
    exact editDistance_self a

theorem editDistance_triangle (a b c : List α) :
    editDistance a c ≤ editDistance a b + editDistance b c :=
  editDistance_le_of_edits ((edits_editDistance a b).trans (edits_editDistance b c))

theorem editDistance_le_max (a b : List α) : editDistance a b ≤ max a.length b.length := by
  induction a, b using editDistance.induct with
  | case1 b =>
      rw [editDistance_nil_left]
      exact le_max_right _ _
  | case2 x a =>
      rw [editDistance_nil_right]
      exact le_max_left _ _
  | case3 a y b ih =>
      rw [editDistance, if_pos rfl, List.length_cons, List.length_cons]
      omega
  | case4 x a y b hne ihdiagonal ihup ihleft =>
      rw [editDistance, if_neg hne, List.length_cons, List.length_cons]
      omega

/-- Read from their ends, two lists are as far apart. -/
theorem editDistance_reverse (a b : List α) :
    editDistance a.reverse b.reverse = editDistance a b := by
  apply le_antisymm
  · exact editDistance_le_of_edits (edits_editDistance a b).reverse
  · have hback := editDistance_le_of_edits (edits_editDistance a.reverse b.reverse).reverse
    rwa [List.reverse_reverse, List.reverse_reverse] at hback

end Distance

end KVOrchestrator.Verified
