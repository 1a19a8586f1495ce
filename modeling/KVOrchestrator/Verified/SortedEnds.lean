import KVOrchestrator.Verified.Ranking
import Mathlib.Data.Finset.Card

/-!
# Both ends of an ordered list

`sortBy id` puts a list into ascending order.  Appending an item beyond all
others, and dropping items anywhere, is the same before and after ordering
(`sortBy_id_append`, `sortBy_id_filter`), so the first `k` items stay the first
`k` as long as none of them is dropped (`take_filter_of_forall`).  `ends s w`
are the first `s` and the last `w` items; where they overlap they are all
there is.  A predicate that ascends with the order singles out one end exactly
if it holds often enough (`forall_iff_mem_iff_countP`).  What repeated removals
from the lower end leave is an upper part (`UpperPart.trans`).
-/

namespace KVOrchestrator.Verified

variable {α : Type*}

section Order

variable [LinearOrder α]

theorem pairwise_sortBy_id (l : List α) : (sortBy id l).Pairwise (· ≤ ·) :=
  pairwise_sortBy id l

/-- Only one arrangement is ascending. -/
theorem sortBy_id_eq_of_perm {l l' : List α} (hperm : l.Perm l') (hl' : l'.Pairwise (· ≤ ·)) :
    sortBy id l = l' :=
  ((sortBy_perm id l).trans hperm).eq_of_pairwise' (pairwise_sortBy_id l) hl'

theorem sortBy_id_append {l : List α} {a : α} (ha : ∀ b ∈ l, b ≤ a) :
    sortBy id (l ++ [a]) = sortBy id l ++ [a] := by
  apply sortBy_id_eq_of_perm
  · exact (sortBy_perm id l).symm.append_right [a]
  · rw [List.pairwise_append]
    refine ⟨pairwise_sortBy_id l, List.pairwise_singleton _ a, ?_⟩
    intro b hb a' ha'
    rw [List.mem_singleton] at ha'
    rw [ha']
    exact ha b ((mem_sortBy id l b).mp hb)

theorem sortBy_id_filter (p : α → Bool) (l : List α) :
    sortBy id (l.filter p) = (sortBy id l).filter p := by
  apply sortBy_id_eq_of_perm
  · exact (sortBy_perm id l).symm.filter p
  · exact (pairwise_sortBy_id l).filter p

end Order

/-- Where a predicate stays once it holds, the last `m` items count it up to
`m`. -/
theorem countP_drop_of_pairwise {p : α → Bool} {l : List α}
    (hl : l.Pairwise (fun a b => p a = true → p b = true)) (m : Nat) :
    (l.drop (l.length - m)).countP p = min (l.countP p) m := by
  have hsplit : l.countP p =
      (l.take (l.length - m)).countP p + (l.drop (l.length - m)).countP p := by
    rw [← List.countP_append, List.take_append_drop]
  have hlen : (l.drop (l.length - m)).length = min l.length m := by
    rw [List.length_drop]
    omega
  by_cases hnone : (l.take (l.length - m)).countP p = 0
  · have hle := List.countP_le_length (p := p) (l := l.drop (l.length - m))
    omega
  · obtain ⟨a, ha, hpa⟩ := List.countP_pos_iff.mp (Nat.pos_of_ne_zero hnone)
    rw [← List.take_append_drop (l.length - m) l] at hl
    have hall : (l.drop (l.length - m)).countP p = (l.drop (l.length - m)).length :=
      List.countP_eq_length.mpr (fun b hb => (List.pairwise_append.mp hl).2.2 a ha b hb hpa)
    have hpos : 0 < l.length - m := by
      have hne := List.length_pos_of_mem ha
      rw [List.length_take] at hne
      omega
    omega

/-- Dropping items elsewhere leaves the first `k` as they are. -/
theorem take_filter_of_forall {p : α → Bool} {l : List α} {k : Nat}
    (hp : ∀ a ∈ l.take k, p a = true) : (l.filter p).take k = l.take k := by
  rcases le_total k l.length with hk | hk
  · have hsplit : l.filter p = l.take k ++ (l.drop k).filter p := by
      calc l.filter p
          = (l.take k ++ l.drop k).filter p := by rw [List.take_append_drop]
        _ = (l.take k).filter p ++ (l.drop k).filter p := List.filter_append _ _
        _ = l.take k ++ (l.drop k).filter p := by rw [List.filter_eq_self.mpr hp]
    have hlen : (l.take k).length = k := by
      rw [List.length_take]
      omega
    rw [hsplit, List.take_append_of_le_length (Nat.le_of_eq hlen.symm), List.take_of_length_le]
    exact Nat.le_of_eq hlen
  · -- all items are among the first `k`
    rw [List.take_of_length_le hk] at hp
    rw [List.filter_eq_self.mpr hp]

/-- Keep the first `k` items and those of `s`: what is kept beyond position `k'`
is in `s` exactly if what the first `k` have beyond it is. -/
theorem forall_mem_drop_filter_iff [DecidableEq α] {l : List α} (hl : l.Nodup) (s : List α)
    (k k' : Nat) :
    (∀ a ∈ (l.filter (fun a => decide (a ∈ s ++ l.take k))).drop k', a ∈ s) ↔
      ∀ a ∈ (l.take k).drop k', a ∈ s := by
  have hsplit : l.filter (fun a => decide (a ∈ s ++ l.take k)) =
      l.take k ++ (l.drop k).filter (fun a => decide (a ∈ s ++ l.take k)) := by
    have hfirst : (l.take k).filter (fun a => decide (a ∈ s ++ l.take k)) = l.take k := by
      rw [List.filter_eq_self]
      intro a ha
      exact decide_eq_true (List.mem_append_right s ha)
    calc l.filter (fun a => decide (a ∈ s ++ l.take k))
        = (l.take k ++ l.drop k).filter (fun a => decide (a ∈ s ++ l.take k)) := by
          rw [List.take_append_drop]
      _ = l.take k ++ (l.drop k).filter (fun a => decide (a ∈ s ++ l.take k)) := by
          rw [List.filter_append, hfirst]
  have hrest : ∀ a ∈ (l.drop k).filter (fun a => decide (a ∈ s ++ l.take k)), a ∈ s := by
    intro a ha
    rw [List.mem_filter, decide_eq_true_iff, List.mem_append] at ha
    rcases ha.2 with hs | hfirst
    · exact hs
    · exact absurd ha.1 (List.disjoint_take_drop hl le_rfl hfirst)
  rw [hsplit, List.drop_append]
  constructor
  · intro h a ha
    exact h a (List.mem_append_left _ ha)
  · intro h a ha
    rcases List.mem_append.mp ha with hfirst | hlater
    · exact h a hfirst
    · exact hrest a (List.mem_of_mem_drop hlater)

/-! ## The first and the last items -/

/-- The first `s` and the last `w` items. -/
def ends (s w : Nat) (l : List α) : List α := l.take s ++ l.drop (l.length - w)

/-- In a short list every item is at one of the ends. -/
theorem mem_ends_of_length_le {s w : Nat} {l : List α} (hl : l.length ≤ s + w) {a : α}
    (ha : a ∈ l) : a ∈ ends s w l := by
  rw [← List.take_append_drop s l, List.mem_append] at ha
  rw [ends, List.mem_append]
  rcases ha with hfirst | hlast
  · exact .inl hfirst
  · apply Or.inr
    apply List.mem_of_mem_drop (i := s - (l.length - w))
    rw [List.drop_drop]
    have hs : l.length - w + (s - (l.length - w)) = s := by omega
    rwa [hs]

theorem mem_of_mem_ends {s w : Nat} {l : List α} {a : α} (ha : a ∈ ends s w l) : a ∈ l := by
  rw [ends, List.mem_append] at ha
  rcases ha with hfirst | hlast
  · exact List.mem_of_mem_take hfirst
  · exact List.mem_of_mem_drop hlast

/-- The number of items at the ends, counting those at both once. -/
theorem length_filter_mem_ends [DecidableEq α] {s w : Nat} {l : List α} (hl : l.Nodup) :
    (l.filter (fun a => decide (a ∈ ends s w l))).length = min l.length (s + w) := by
  by_cases hshort : l.length ≤ s + w
  · have hall : l.filter (fun a => decide (a ∈ ends s w l)) = l := by
      rw [List.filter_eq_self]
      intro a ha
      exact decide_eq_true (mem_ends_of_length_le hshort ha)
    rw [hall]
    omega
  · -- the two ends do not meet
    have hnodup : (ends s w l).Nodup := by
      have hsub : (ends s w l).Sublist (l.take (l.length - w) ++ l.drop (l.length - w)) := by
        apply List.Sublist.append_right
        apply List.take_sublist_take_left
        omega
      rw [List.take_append_drop] at hsub
      exact hl.sublist hsub
    have hperm : (l.filter (fun a => decide (a ∈ ends s w l))).Perm (ends s w l) := by
      rw [List.perm_ext_iff_of_nodup (hl.filter _) hnodup]
      intro a
      rw [List.mem_filter, decide_eq_true_iff]
      exact ⟨fun h => h.2, fun h => ⟨mem_of_mem_ends h, h⟩⟩
    rw [hperm.length_eq, ends, List.length_append, List.length_take, List.length_drop]
    omega

/-! ## A predicate against a part -/

/-- Where a predicate on `first ++ last` holds of `last` before it holds of
`first`, it singles out `last` exactly if it holds as often as `last` is long. -/
theorem forall_iff_mem_iff_countP [DecidableEq α] {p : α → Prop} [DecidablePred p]
    {first last : List α} (hnodup : (first ++ last).Nodup)
    (hmono : ∀ a ∈ first, ∀ b ∈ last, p a → p b) :
    (∀ a ∈ first ++ last, p a ↔ a ∈ last) ↔
      (first ++ last).countP (fun a => decide (p a)) = last.length := by
  rw [List.countP_append]
  constructor
  · intro h
    have hfirst : first.countP (fun a => decide (p a)) = 0 := by
      rw [List.countP_eq_zero]
      intro a ha hpa
      have hlast := (h a (List.mem_append_left _ ha)).mp (of_decide_eq_true hpa)
      exact List.disjoint_of_nodup_append hnodup ha hlast
    have hlast : last.countP (fun a => decide (p a)) = last.length := by
      rw [List.countP_eq_length]
      intro a ha
      exact decide_eq_true ((h a (List.mem_append_right _ ha)).mpr ha)
    omega
  · intro hcount
    -- were one of `last` missed, all of `first` would be missed too
    have hall : ∀ b ∈ last, p b := by
      intro b hb
      by_contra hmiss
      have hfirst : first.countP (fun a => decide (p a)) = 0 := by
        rw [List.countP_eq_zero]
        intro a ha hpa
        exact hmiss (hmono a ha b hb (of_decide_eq_true hpa))
      have hlast : last.countP (fun a => decide (p a)) = last.length := by omega
      rw [List.countP_eq_length] at hlast
      exact hmiss (of_decide_eq_true (hlast b hb))
    have hlast : last.countP (fun a => decide (p a)) = last.length := by
      rw [List.countP_eq_length]
      exact fun b hb => decide_eq_true (hall b hb)
    have hfirst : first.countP (fun a => decide (p a)) = 0 := by omega
    rw [List.countP_eq_zero] at hfirst
    intro a ha
    rcases List.mem_append.mp ha with hin | hin
    · constructor
      · intro hpa
        exact absurd (decide_eq_true hpa) (hfirst a hin)
      · intro hlastMem
        exact absurd hlastMem (fun h => List.disjoint_of_nodup_append hnodup hin h)
    · exact iff_of_true (hall a hin) hin

/-- Items of a list that lie in a finite set, counted in the set. -/
theorem countP_eq_card_filter [DecidableEq α] {l : List α} (hl : l.Nodup)
    (s : Finset α) {p : α → Prop} [DecidablePred p] (hp : ∀ a ∈ l, p a ↔ a ∈ s) :
    l.countP (fun a => decide (p a)) = (s.filter (fun a => a ∈ l)).card := by
  have hset : s.filter (fun a => a ∈ l) = (l.filter (fun a => decide (p a))).toFinset := by
    ext a
    rw [Finset.mem_filter, List.mem_toFinset, List.mem_filter, decide_eq_true_iff]
    constructor
    · intro h
      exact ⟨h.2, (hp a h.2).mpr h.1⟩
    · intro h
      exact ⟨(hp a h.1).mp h.2, h.1⟩
  rw [hset, List.toFinset_card_of_nodup (hl.filter _), List.countP_eq_length_filter]

/-! ## Upper parts -/

section UpperPart

variable {β : Type*} [LinearOrder β] {key : α → β}

/-- A part of a list such that no item left out has a larger key than one in it. -/
structure UpperPart (key : α → β) (part l : List α) : Prop where
  sublist : part.Sublist l
  le : ∀ a ∈ l, a ∉ part → ∀ b ∈ part, key a ≤ key b

theorem UpperPart.refl (key : α → β) (l : List α) : UpperPart key l l :=
  ⟨List.Sublist.refl l, fun _ ha hout => absurd ha hout⟩

/-- What is left after two removals has the larger keys of what there was. -/
theorem UpperPart.trans {l₁ l₂ l₃ : List α} (h : UpperPart key l₁ l₂)
    (h' : UpperPart key l₂ l₃) : UpperPart key l₁ l₃ := by
  refine ⟨h.sublist.trans h'.sublist, ?_⟩
  intro a ha hout b hb
  by_cases hmem : a ∈ l₂
  · exact h.le a hmem hout b hb
  · exact h'.le a ha hmem b (h.sublist.subset hb)

end UpperPart

end KVOrchestrator.Verified
