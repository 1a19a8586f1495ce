import Mathlib.Data.List.Count
import Mathlib.Data.List.Infix

/-!
# Runs over a grid

A sweep visits the cells of one grid, in the same order, for each key of a list.
The runs of a key are then copies of the grid, one for each time the key is
listed (`cells_runsOf`), so that two keys paired by the positions of their runs
are paired cell by cell (`cell_eq_of_mem_pairs`), for as many copies as both
have (`length_pairs`).
-/

namespace KVOrchestrator.Verified

variable {κ γ ρ : Type*}

/-- The key and the cell of each run. -/
def gridRuns (keys : List κ) (grid : List γ) : List (κ × γ) :=
  keys.flatMap (fun key => grid.map (fun cell => (key, cell)))

theorem gridRuns_cons (key : κ) (keys : List κ) (grid : List γ) :
    gridRuns (key :: keys) grid = grid.map (fun cell => (key, cell)) ++ gridRuns keys grid := rfl

/-- Lists with a common extension agree wherever both go. -/
theorem eq_of_mem_zip_prefixes {a b c : List γ} (ha : a <+: c) (hb : b <+: c) {p : γ × γ}
    (hp : p ∈ a.zip b) : p.1 = p.2 := by
  induction c generalizing a b with
  | nil =>
      rw [List.prefix_nil.mp ha] at hp
      cases hp
  | cons x c ih =>
      cases a with
      | nil => cases hp
      | cons y a =>
          cases b with
          | nil => cases hp
          | cons z b =>
              rw [List.cons_prefix_cons] at ha hb
              rw [List.zip_cons_cons, List.mem_cons] at hp
              cases hp with
              | inl hhead => rw [hhead, ha.1, hb.1]
              | inr htail => exact ih ha.2 hb.2 htail

/-- Fewer copies of a list are a prefix of more. -/
theorem prefix_flatten_replicate (l : List γ) {m n : Nat} (h : m ≤ n) :
    (List.replicate m l).flatten <+: (List.replicate n l).flatten := by
  have hsplit : List.replicate n l = List.replicate m l ++ List.replicate (n - m) l := by
    rw [← List.replicate_add]
    congr 1
    omega
  rw [hsplit, List.flatten_append]
  exact List.prefix_append _ _

theorem length_flatten_replicate (l : List γ) (n : Nat) :
    (List.replicate n l).flatten.length = n * l.length := by
  induction n with
  | zero => simp
  | succ n ih =>
      rw [List.replicate_succ, List.flatten_cons, List.length_append, ih, Nat.succ_mul]
      omega

variable [DecidableEq κ]

/-- The runs of a key, in their order. -/
def runsOf (runs : List ((κ × γ) × ρ)) (key : κ) : List ((κ × γ) × ρ) :=
  runs.filter (fun run => decide (run.1.1 = key))

/-- The runs of two keys, by their positions. -/
def pairedRuns (runs : List ((κ × γ) × ρ)) (key key' : κ) :
    List (((κ × γ) × ρ) × ((κ × γ) × ρ)) :=
  (runsOf runs key).zip (runsOf runs key')

/-- The cells of one key are copies of the grid. -/
theorem cells_filter_gridRuns (keys : List κ) (grid : List γ) (key : κ) :
    ((gridRuns keys grid).filter (fun run => decide (run.1 = key))).map Prod.snd =
      (List.replicate (keys.count key) grid).flatten := by
  induction keys with
  | nil => rfl
  | cons k keys ih =>
      rw [gridRuns_cons, List.filter_append, List.map_append, ih]
      by_cases hk : k = key
      · have hall : (grid.map (fun cell => (k, cell))).filter
            (fun run => decide (run.1 = key)) = grid.map (fun cell => (k, cell)) := by
          simp [hk]
        rw [hall, List.map_map, hk, List.count_cons_self, List.replicate_succ, List.flatten_cons]
        congr 1
        exact List.map_id _
      · have hnone : (grid.map (fun cell => (k, cell))).filter
            (fun run => decide (run.1 = key)) = [] := by
          simp [hk]
        rw [hnone, List.count_cons_of_ne hk]
        rfl

/-! ## Paired runs -/

/-- A zip keeps of each list what the shorter one covers. -/
theorem map_fst_zip_eq_take {α β : Type*} (a : List α) (b : List β) :
    (a.zip b).map Prod.fst = a.take (min a.length b.length) := by
  rw [List.zip_eq_zip_take_min, List.map_fst_zip]
  simp

theorem map_snd_zip_eq_take {α β : Type*} (a : List α) (b : List β) :
    (a.zip b).map Prod.snd = b.take (min a.length b.length) := by
  rw [List.zip_eq_zip_take_min, List.map_snd_zip]
  simp

section Columns

variable {α : Type*} (f : ρ → α) (runs : List ((κ × γ) × ρ)) (key key' : κ)

/-- A column of the pairs is the column of the key, cut at the shorter one. -/
theorem map_fst_pairedRuns :
    (pairedRuns runs key key').map (fun pair => f pair.1.2) =
      ((runsOf runs key).map (fun run => f run.2)).take
        (min ((runsOf runs key).map (fun run => f run.2)).length
          ((runsOf runs key').map (fun run => f run.2)).length) := by
  rw [List.length_map, List.length_map, ← List.map_take, ← map_fst_zip_eq_take, List.map_map]
  rfl

theorem map_snd_pairedRuns :
    (pairedRuns runs key key').map (fun pair => f pair.2.2) =
      ((runsOf runs key').map (fun run => f run.2)).take
        (min ((runsOf runs key).map (fun run => f run.2)).length
          ((runsOf runs key').map (fun run => f run.2)).length) := by
  rw [List.length_map, List.length_map, ← List.map_take, ← map_snd_zip_eq_take, List.map_map]
  rfl

end Columns

section Pairs

variable {runs : List ((κ × γ) × ρ)} {keys : List κ} {grid : List γ}
  (hruns : runs.map Prod.fst = gridRuns keys grid)

include hruns

/-- **The runs of a key are copies of the grid.** -/
theorem cells_runsOf (key : κ) :
    (runsOf runs key).map (fun run => run.1.2) =
      (List.replicate (keys.count key) grid).flatten := by
  rw [← cells_filter_gridRuns, ← hruns, List.filter_map, List.map_map]
  rfl

theorem length_runsOf (key : κ) :
    (runsOf runs key).length = keys.count key * grid.length := by
  rw [← length_flatten_replicate, ← cells_runsOf hruns, List.length_map]

/-- **Paired runs have one cell.** -/
theorem cell_eq_of_mem_pairs {key key' : κ} {pair : ((κ × γ) × ρ) × ((κ × γ) × ρ)}
    (hpair : pair ∈ pairedRuns runs key key') : pair.1.1.2 = pair.2.1.2 := by
  have hcells : (pair.1.1.2, pair.2.1.2) ∈
      ((runsOf runs key).map (fun run => run.1.2)).zip
        ((runsOf runs key').map (fun run => run.1.2)) := by
    rw [List.zip_map]
    exact List.mem_map_of_mem hpair
  rw [cells_runsOf hruns, cells_runsOf hruns] at hcells
  exact eq_of_mem_zip_prefixes (prefix_flatten_replicate grid (le_max_left _ _))
    (prefix_flatten_replicate grid (le_max_right _ _)) hcells

omit hruns in
/-- Paired runs are runs of their keys. -/
theorem keys_of_mem_pairs {key key' : κ} {pair : ((κ × γ) × ρ) × ((κ × γ) × ρ)}
    (hpair : pair ∈ pairedRuns runs key key') :
    (pair.1 ∈ runs ∧ pair.1.1.1 = key) ∧ (pair.2 ∈ runs ∧ pair.2.1.1 = key') := by
  obtain ⟨hleft, hright⟩ := List.of_mem_zip hpair
  have hl := List.mem_filter.mp hleft
  have hr := List.mem_filter.mp hright
  exact ⟨⟨hl.1, of_decide_eq_true hl.2⟩, ⟨hr.1, of_decide_eq_true hr.2⟩⟩

theorem length_pairs (key key' : κ) :
    (pairedRuns runs key key').length = min (keys.count key) (keys.count key') * grid.length := by
  rw [pairedRuns, List.length_zip, length_runsOf hruns, length_runsOf hruns, Nat.mul_min_mul_right]

end Pairs

end KVOrchestrator.Verified
