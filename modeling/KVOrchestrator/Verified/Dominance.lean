import Mathlib.Order.Preorder.Finite
import Mathlib.Data.Set.Finite.List
import Mathlib.Data.List.Basic

/-!
# Undominated members

The items of a list are compared by a key in a preorder; `undominated` keeps the
items whose key no other key exceeds.  The list is finite, so every item lies
below an undominated one (`exists_undominated_ge`), and whatever is below some
item is below an undominated one (`exists_undominated_gt_iff`).  Hence the
undominated items of a list cut into parts are those of the undominated items of
the parts (`undominated_flatMap`), and one more item either is dominated or joins
the ones it does not dominate (`undominated_concat_of_gt`,
`undominated_concat_of_not_gt`).  Whether an item is compared with itself or not
makes no difference (`exists_other_gt_iff`).
-/

namespace KVOrchestrator.Verified

variable {α β : Type*} [Preorder β] [DecidableLT β]

/-- The items whose key no key of the list exceeds. -/
def undominated (key : α → β) (l : List α) : List α :=
  l.filter (fun a => decide (∀ b ∈ l, ¬key a < key b))

theorem mem_undominated_iff {key : α → β} {l : List α} {a : α} :
    a ∈ undominated key l ↔ a ∈ l ∧ ∀ b ∈ l, ¬key a < key b := by
  rw [undominated, List.mem_filter, decide_eq_true_iff]

theorem undominated_map {γ : Type*} (f : γ → α) (key : α → β) (l : List γ) :
    undominated key (l.map f) = (undominated (key ∘ f) l).map f := by
  rw [undominated, undominated, List.filter_map]
  congr 1
  apply List.filter_congr
  intro c _
  rw [Function.comp_apply, decide_eq_decide, List.forall_mem_map]
  rfl

theorem undominated_congr {key key' : α → β} {l : List α} (h : ∀ a ∈ l, key a = key' a) :
    undominated key l = undominated key' l := by
  apply List.filter_congr
  intro a ha
  rw [decide_eq_decide]
  apply forall₂_congr
  intro b hb
  rw [h a ha, h b hb]

/-- Every item lies below an undominated one. -/
theorem exists_undominated_ge (key : α → β) {l : List α} {a : α} (ha : a ∈ l) :
    ∃ m ∈ undominated key l, key a ≤ key m := by
  have hfinite : (Set.image key {b | b ∈ l}).Finite := (List.finite_toSet l).image key
  obtain ⟨v, hle, hmax⟩ := hfinite.exists_le_maximal (Set.mem_image_of_mem key ha)
  obtain ⟨m, hm, rfl⟩ := hmax.prop
  refine ⟨m, mem_undominated_iff.mpr ⟨hm, ?_⟩, hle⟩
  intro b hb hlt
  exact hmax.not_gt (Set.mem_image_of_mem key hb) hlt

/-- What lies below some item lies below an undominated one. -/
theorem exists_undominated_gt_iff (key : α → β) (l : List α) (v : β) :
    (∃ m ∈ undominated key l, v < key m) ↔ ∃ b ∈ l, v < key b := by
  constructor
  · rintro ⟨m, hm, hlt⟩
    exact ⟨m, (mem_undominated_iff.mp hm).1, hlt⟩
  · rintro ⟨b, hb, hlt⟩
    obtain ⟨m, hm, hle⟩ := exists_undominated_ge key hb
    exact ⟨m, hm, hlt.trans_le hle⟩

/-- A rearranged list has the same undominated items. -/
theorem undominated_perm {key : α → β} {l l' : List α} (h : l.Perm l') :
    (undominated key l).Perm (undominated key l') := by
  have hsame : undominated key l' =
      l'.filter (fun a => decide (∀ b ∈ l, ¬key a < key b)) := by
    apply List.filter_congr
    intro a _
    simp only [h.mem_iff]
  rw [hsame]
  exact h.filter _

/-- What is undominated in a list of parts is undominated in its part, and among
what is undominated in the parts. -/
theorem undominated_flatMap (key : α → β) (parts : List (List α)) :
    undominated key (parts.flatMap (undominated key)) = undominated key parts.flatten := by
  have hexceeded : ∀ a, (∀ b ∈ parts.flatMap (undominated key), ¬key a < key b) ↔
      ∀ b ∈ parts.flatten, ¬key a < key b := by
    intro a
    constructor
    · intro h b hb hlt
      obtain ⟨part, hpart, hbpart⟩ := List.mem_flatten.mp hb
      obtain ⟨m, hm, hlt'⟩ := (exists_undominated_gt_iff key part _).mpr ⟨b, hbpart, hlt⟩
      exact h m (List.mem_flatMap.mpr ⟨part, hpart, hm⟩) hlt'
    · intro h b hb
      obtain ⟨part, hpart, hbpart⟩ := List.mem_flatMap.mp hb
      exact h b (List.mem_flatten.mpr ⟨part, hpart, (mem_undominated_iff.mp hbpart).1⟩)
  have hpart : ∀ part ∈ parts,
      (undominated key part).filter (fun a => decide (∀ b ∈ parts.flatten, ¬key a < key b)) =
        part.filter (fun a => decide (∀ b ∈ parts.flatten, ¬key a < key b)) := by
    intro part hpart
    rw [undominated, List.filter_filter]
    apply List.filter_congr
    intro a _
    rw [← Bool.decide_and, decide_eq_decide]
    constructor
    · exact fun h => h.1
    · exact fun h => ⟨h, fun b hb => h b (List.mem_flatten.mpr ⟨part, hpart, hb⟩)⟩
  calc undominated key (parts.flatMap (undominated key))
      = (parts.flatMap (undominated key)).filter
          (fun a => decide (∀ b ∈ parts.flatten, ¬key a < key b)) := by
        apply List.filter_congr
        intro a _
        rw [decide_eq_decide, hexceeded]
    _ = parts.flatMap (fun part =>
          part.filter (fun a => decide (∀ b ∈ parts.flatten, ¬key a < key b))) := by
        rw [List.filter_flatMap]
        exact List.flatMap_congr hpart
    _ = undominated key parts.flatten := by
        rw [undominated, List.filter_flatten, List.flatMap_def]

/-- A dominated item changes nothing. -/
theorem undominated_concat_of_gt {key : α → β} {l : List α} {a : α}
    (h : ∃ b ∈ l, key a < key b) : undominated key (l ++ [a]) = undominated key l := by
  obtain ⟨b, hb, hab⟩ := h
  rw [undominated, List.filter_append]
  have hself : ¬∀ c ∈ l ++ [a], ¬key a < key c :=
    fun hnone => hnone b (List.mem_append_left _ hb) hab
  rw [List.filter_cons_of_neg (by simpa using hself), List.filter_nil, List.append_nil]
  apply List.filter_congr
  intro c _
  rw [decide_eq_decide]
  constructor
  · exact fun hall d hd => hall d (List.mem_append_left _ hd)
  · intro hall d hd hlt
    rcases List.mem_append.mp hd with hd | hd
    · exact hall d hd hlt
    · rw [List.mem_singleton.mp hd] at hlt
      exact hall b hb (hlt.trans hab)

/-- An item that is not dominated joins the undominated ones it does not
dominate. -/
theorem undominated_concat_of_not_gt {key : α → β} {l : List α} {a : α}
    (h : ¬∃ b ∈ l, key a < key b) :
    undominated key (l ++ [a]) =
      (undominated key l).filter (fun c => decide (¬key c < key a)) ++ [a] := by
  rw [undominated, List.filter_append]
  have hself : ∀ c ∈ l ++ [a], ¬key a < key c := by
    intro c hc hlt
    rcases List.mem_append.mp hc with hc | hc
    · exact h ⟨c, hc, hlt⟩
    · rw [List.mem_singleton.mp hc] at hlt
      exact lt_irrefl _ hlt
  rw [List.filter_cons_of_pos (by simpa using hself), List.filter_nil, undominated,
    List.filter_filter]
  congr 1
  apply List.filter_congr
  intro c _
  rw [← Bool.decide_and, decide_eq_decide, List.forall_mem_append, List.forall_mem_singleton]
  exact and_comm

/-- Where one objective is the same for all items, the other decides. -/
theorem undominated_of_const_fst {γ δ : Type*} [Preorder γ] [LinearOrder δ] [DecidableLT (γ × δ)]
    {key : α → γ × δ} {l : List α} {c : γ} (hconst : ∀ a ∈ l, (key a).1 = c) :
    undominated key l = l.filter (fun a => decide (∀ b ∈ l, (key b).2 ≤ (key a).2)) := by
  apply List.filter_congr
  intro a ha
  rw [decide_eq_decide]
  apply forall₂_congr
  intro b hb
  have hlt : key a < key b ↔ (key a).2 < (key b).2 := by
    rw [Prod.lt_iff, hconst a ha, hconst b hb]
    constructor
    · intro hless
      rcases hless with ⟨hfirst, -⟩ | ⟨-, hsecond⟩
      · exact absurd hfirst (lt_irrefl c)
      · exact hsecond
    · exact fun hsecond => .inr ⟨le_refl c, hsecond⟩
  rw [hlt, not_lt]

omit [DecidableLT β] in
/-- An item is no exception to its being exceeded. -/
theorem exists_other_gt_iff (key : α → β) {l : List α} {a : α} {i : Nat}
    (ha : (a, i) ∈ l.zipIdx) :
    (∃ q ∈ l.zipIdx, q.2 ≠ i ∧ key a < key q.1) ↔ ∃ b ∈ l, key a < key b := by
  rw [List.mem_zipIdx_iff_getElem?] at ha
  constructor
  · rintro ⟨⟨b, j⟩, hq, -, hlt⟩
    rw [List.mem_zipIdx_iff_getElem?] at hq
    exact ⟨b, List.mem_of_getElem? hq, hlt⟩
  · rintro ⟨b, hb, hlt⟩
    obtain ⟨j, hj⟩ := List.mem_iff_getElem?.mp hb
    refine ⟨(b, j), List.mem_zipIdx_iff_getElem?.mpr hj, ?_, hlt⟩
    intro (hji : j = i)
    rw [hji, ha] at hj
    have hsame : a = b := Option.some.inj hj
    rw [hsame] at hlt
    exact lt_irrefl _ hlt

end KVOrchestrator.Verified
