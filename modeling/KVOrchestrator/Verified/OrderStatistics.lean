import KVOrchestrator.Verified.Percentile
import KVOrchestrator.Verified.SortedEnds

/-!
# Order statistics as thresholds

`kthGreatest k xs` is the value at position `k` of `xs` in descending order.  As
a threshold it is the highest that `k` of the values still reach
(`le_countP_iff`), a monotone conversion commutes with it (`kthGreatest_map`),
and among distinct keys the ones that reach it are the top `k` of the ranking
(`mem_take_sortByDesc_iff`).
-/

namespace KVOrchestrator.Verified

variable {α β : Type*} [LinearOrder β]

/-- The `k`-th greatest of a list, counting from one; the default where there
are fewer. -/
def kthGreatest (k : Nat) (xs : List β) (d : β) : β := (sortBy id xs).getD (xs.length - k) d

section Threshold

variable {k : Nat} {xs : List β} (hk : 1 ≤ k) (hlen : k ≤ xs.length) (d : β)

include hk hlen

theorem kthGreatest_mem : kthGreatest k xs d ∈ xs := by
  rw [← mem_sortBy id xs]
  apply getD_mem
  rw [length_sortBy]
  omega

/-- A threshold is reached by `k` values exactly up to the `k`-th greatest. -/
theorem le_countP_iff (t : β) :
    k ≤ xs.countP (fun x => decide (t ≤ x)) ↔ t ≤ kthGreatest k xs d := by
  have hsorted := pairwise_sortBy_id xs
  have hlength : (sortBy id xs).length = xs.length := length_sortBy id xs
  rw [← (sortBy_perm id xs).countP_eq, kthGreatest]
  generalize sortBy id xs = s at hsorted hlength ⊢
  constructor
  · intro hcount
    by_contra hbelow
    have hbelow := not_le.mp hbelow
    -- up to the `k`-th greatest, no value reaches the threshold
    have hnone : (s.take (xs.length - k + 1)).countP (fun x => decide (t ≤ x)) = 0 := by
      rw [List.countP_eq_zero]
      intro x hx
      obtain ⟨i, hi, rfl⟩ := List.getElem_of_mem hx
      rw [List.length_take] at hi
      rw [List.getElem_take, ← List.getD_eq_getElem s d (by omega)]
      have hle := getD_le_getD hsorted d (show i ≤ xs.length - k by omega) (by omega)
      simpa using hle.trans_lt hbelow
    have hrest : (s.drop (xs.length - k + 1)).countP (fun x => decide (t ≤ x)) ≤
        (s.drop (xs.length - k + 1)).length := List.countP_le_length
    rw [← List.take_append_drop (xs.length - k + 1) s, List.countP_append, hnone] at hcount
    rw [List.length_drop] at hrest
    omega
  · intro hreached
    have hall : (s.drop (xs.length - k)).countP (fun x => decide (t ≤ x)) =
        (s.drop (xs.length - k)).length := by
      rw [List.countP_eq_length]
      intro x hx
      obtain ⟨i, hi, rfl⟩ := List.getElem_of_mem hx
      rw [List.length_drop] at hi
      rw [List.getElem_drop, ← List.getD_eq_getElem s d (by omega)]
      have hle := getD_le_getD hsorted d (show xs.length - k ≤ xs.length - k + i by omega)
        (by omega)
      exact decide_eq_true (hreached.trans hle)
    rw [← List.take_append_drop (xs.length - k) s, List.countP_append, hall, List.length_drop]
    omega

/-- A monotone conversion keeps the order of the values. -/
theorem kthGreatest_map {γ : Type*} [LinearOrder γ] {r : β → γ} (hr : Monotone r) (e : γ) :
    kthGreatest k (xs.map r) e = r (kthGreatest k xs d) := by
  have hsorted : sortBy id (xs.map r) = (sortBy id xs).map r := by
    apply sortBy_id_eq_of_perm
    · exact ((sortBy_perm id xs).map r).symm
    · exact (pairwise_sortBy_id xs).map r (fun _ _ hab => hr hab)
  have hpos : xs.length - k < (sortBy id xs).length := by
    rw [length_sortBy]
    omega
  have hposMap : xs.length - k < ((sortBy id xs).map r).length := by
    rwa [List.length_map]
  rw [kthGreatest, kthGreatest, hsorted, List.length_map, List.getD_eq_getElem _ _ hposMap,
    List.getElem_map, List.getD_eq_getElem _ _ hpos]

end Threshold

/-- Ranking values downwards is ranking them upwards, reversed. -/
theorem sortByDesc_id_eq_reverse (xs : List β) : sortByDesc id xs = (sortBy id xs).reverse := by
  have hperm : (sortByDesc id xs).Perm (sortBy id xs).reverse :=
    (List.perm_insertionSort _ xs).trans
      ((sortBy_perm id xs).symm.trans (List.reverse_perm _).symm)
  have hdesc : (sortBy id xs).reverse.Pairwise (fun a b => b ≤ a) :=
    List.pairwise_reverse.mpr (pairwise_sortBy_id xs)
  exact hperm.eq_of_pairwise (fun a b _ _ hba hab => le_antisymm hab hba)
    (pairwise_sortByDesc id xs) hdesc

/-- Among distinct keys the top `k` are those that reach the `k`-th greatest. -/
theorem mem_take_sortByDesc_iff {key : α → β} {l : List α} (hkeys : (l.map key).Nodup) {k : Nat}
    (hk : 1 ≤ k) (hlen : k ≤ l.length) (d : β) {a : α} (ha : a ∈ l) :
    a ∈ (sortByDesc key l).take k ↔ kthGreatest k (l.map key) d ≤ key a := by
  have hdescKeys : ((sortByDesc key l).map key).Nodup :=
    ((List.perm_insertionSort _ l).map key).nodup_iff.mpr hkeys
  have hname := name_mem_map_iff hdescKeys
    (fun x (hx : x ∈ (sortByDesc key l).take k) => List.mem_of_mem_take hx)
    ((mem_sortByDesc key l a).mpr ha)
  have htop : ((sortByDesc key l).take k).map key =
      ((sortBy id (l.map key)).drop (l.length - k)).reverse := by
    rw [List.map_take, map_sortByDesc key key id (fun _ => rfl), sortByDesc_id_eq_reverse,
      List.take_reverse, length_sortBy, List.length_map]
  rw [← hname, htop, List.mem_reverse, kthGreatest, List.length_map]
  have hsorted := pairwise_sortBy_id (l.map key)
  have hnodup : (sortBy id (l.map key)).Nodup := (sortBy_perm id _).nodup_iff.mpr hkeys
  have hmem : key a ∈ sortBy id (l.map key) :=
    (mem_sortBy id _ _).mpr (List.mem_map_of_mem ha)
  have hlength : (sortBy id (l.map key)).length = l.length := by
    rw [length_sortBy, List.length_map]
  generalize sortBy id (l.map key) = s at hsorted hnodup hmem hlength ⊢
  constructor
  · intro hdrop
    obtain ⟨i, hi, hai⟩ := List.getElem_of_mem hdrop
    rw [List.length_drop] at hi
    rw [List.getElem_drop, ← List.getD_eq_getElem s d (by omega)] at hai
    rw [← hai]
    exact getD_le_getD hsorted d (by omega) (by omega)
  · intro hreached
    obtain ⟨i, hi, hai⟩ := List.getElem_of_mem hmem
    by_cases hbefore : i < l.length - k
    · -- an earlier entry is smaller, as no key occurs twice
      have hpos : l.length - k < s.length := by
        omega
      have hle : s[i] ≤ s[l.length - k] :=
        List.pairwise_iff_getElem.mp hsorted i (l.length - k) hi hpos hbefore
      rw [List.getD_eq_getElem s d (by omega), ← hai] at hreached
      have hsame := (hnodup.getElem_inj_iff).mp (le_antisymm hle hreached)
      omega
    · rw [← hai, List.mem_iff_getElem]
      refine ⟨i - (l.length - k), by rw [List.length_drop]; omega, ?_⟩
      rw [List.getElem_drop]
      congr 1
      omega

end KVOrchestrator.Verified
