import Mathlib.Order.Lattice
import Mathlib.Order.Monotone.Basic

/-!
# Threshold ladders

A chain `if s >= t₁ and e₁: L₁ elif s >= t₂ and e₂: L₂ … else: bottom` grades
a score `s` by the first rung it reaches; a rung that is switched off is
skipped.  Nothing is assumed about the order of the thresholds: as long as the
*labels* descend along the chain, the grade is monotone in the score, because
every rung, once reached, stays reached (`monotone_ladder`).

`le_ladder_iff` describes the grade level by level, which is what is needed to
compare the grades of two scores on one ladder (`ladder_eq_iff`).
-/

namespace KVOrchestrator.Verified

/-- One rung: the threshold, whether the rung is in place, and its grade. -/
structure Rung (α δ : Type*) where
  cut : α
  enabled : Bool
  label : δ

variable {α δ : Type*} [LinearOrder α]

/-- The score reaches the rung. -/
def Rung.reached (r : Rung α δ) (s : α) : Prop := r.enabled = true ∧ r.cut ≤ s

instance (r : Rung α δ) (s : α) : Decidable (r.reached s) := by
  unfold Rung.reached
  infer_instance

/-- The grade of the first rung reached, or `bottom`. -/
def ladder (bottom : δ) (s : α) : List (Rung α δ) → δ
  | [] => bottom
  | r :: rest => if r.reached s then r.label else ladder bottom s rest

theorem Rung.reached_mono (r : Rung α δ) {s t : α} (hst : s ≤ t) (hs : r.reached s) :
    r.reached t :=
  ⟨hs.1, le_trans hs.2 hst⟩

variable [LinearOrder δ]

/-- Labels descend strictly from rung to rung and stay above `bottom`. -/
def Descending (bottom : δ) (rungs : List (Rung α δ)) : Prop :=
  rungs.Pairwise (fun r r' => r'.label < r.label) ∧ ∀ r ∈ rungs, bottom < r.label

omit [LinearOrder α] in
theorem Descending.tail {bottom : δ} {r : Rung α δ} {rest : List (Rung α δ)}
    (h : Descending bottom (r :: rest)) : Descending bottom rest :=
  ⟨(List.pairwise_cons.mp h.1).2, fun r' hr' => h.2 r' (List.mem_cons_of_mem r hr')⟩

/-- Some rung of grade at least `d` is reached. -/
def Reaches (rungs : List (Rung α δ)) (d : δ) (s : α) : Prop :=
  ∃ r ∈ rungs, d ≤ r.label ∧ r.reached s

/-- A grade above `bottom` is attained exactly when a rung of that grade or a
better one is reached. -/
theorem le_ladder_iff {bottom d : δ} (hd : bottom < d) (s : α) :
    ∀ {rungs : List (Rung α δ)}, Descending bottom rungs →
      (d ≤ ladder bottom s rungs ↔ Reaches rungs d s) := by
  intro rungs
  induction rungs with
  | nil =>
      intro _
      simp [ladder, Reaches, not_le_of_gt hd]
  | cons r rest ih =>
      intro hdesc
      by_cases hr : r.reached s
      · rw [ladder, if_pos hr]
        constructor
        · intro hle
          exact ⟨r, List.mem_cons_self, hle, hr⟩
        · -- every later rung carries a smaller label
          rintro ⟨r', hmem, hle, _⟩
          rcases List.mem_cons.mp hmem with rfl | hrest
          · exact hle
          · exact le_trans hle (le_of_lt ((List.pairwise_cons.mp hdesc.1).1 r' hrest))
      · rw [ladder, if_neg hr, ih hdesc.tail]
        constructor
        · rintro ⟨r', hmem, hle, hr'⟩
          exact ⟨r', List.mem_cons_of_mem r hmem, hle, hr'⟩
        · rintro ⟨r', hmem, hle, hr'⟩
          rcases List.mem_cons.mp hmem with rfl | hrest
          · exact absurd hr' hr
          · exact ⟨r', hrest, hle, hr'⟩

theorem bottom_le_ladder {bottom : δ} (s : α) :
    ∀ {rungs : List (Rung α δ)}, Descending bottom rungs →
      bottom ≤ ladder bottom s rungs := by
  intro rungs
  induction rungs with
  | nil => intro _; exact le_refl bottom
  | cons r rest ih =>
      intro hdesc
      rw [ladder]
      split
      · exact le_of_lt (hdesc.2 r List.mem_cons_self)
      · exact ih hdesc.tail

/-- **Ladders are monotone**, whatever the thresholds and the rungs in place. -/
theorem monotone_ladder {bottom : δ} {rungs : List (Rung α δ)}
    (hdesc : Descending bottom rungs) : Monotone (fun s => ladder bottom s rungs) := by
  intro s t hst
  show ladder bottom s rungs ≤ ladder bottom t rungs
  rcases eq_or_lt_of_le (bottom_le_ladder s hdesc) with hbot | hbot
  · rw [← hbot]
    exact bottom_le_ladder t hdesc
  · obtain ⟨r, hmem, hle, hr⟩ := (le_ladder_iff hbot s hdesc).mp (le_refl _)
    exact (le_ladder_iff hbot t hdesc).mpr ⟨r, hmem, hle, r.reached_mono hst hr⟩

/-- Two scores get one grade exactly when they reach the same levels. -/
theorem ladder_eq_iff {bottom : δ} {rungs : List (Rung α δ)}
    (hdesc : Descending bottom rungs) (s t : α) :
    ladder bottom s rungs = ladder bottom t rungs ↔
      ∀ d, bottom < d → (Reaches rungs d s ↔ Reaches rungs d t) := by
  constructor
  · intro heq d hd
    rw [← le_ladder_iff hd s hdesc, ← le_ladder_iff hd t hdesc, heq]
  · intro h
    apply le_antisymm
    · rcases eq_or_lt_of_le (bottom_le_ladder s hdesc) with hbot | hbot
      · rw [← hbot]
        exact bottom_le_ladder t hdesc
      · exact (le_ladder_iff hbot t hdesc).mpr
          ((h _ hbot).mp ((le_ladder_iff hbot s hdesc).mp (le_refl _)))
    · rcases eq_or_lt_of_le (bottom_le_ladder t hdesc) with hbot | hbot
      · rw [← hbot]
        exact bottom_le_ladder s hdesc
      · exact (le_ladder_iff hbot s hdesc).mpr
          ((h _ hbot).mpr ((le_ladder_iff hbot t hdesc).mp (le_refl _)))

end KVOrchestrator.Verified
