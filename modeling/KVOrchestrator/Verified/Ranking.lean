import Mathlib.Data.List.Sort
import Mathlib.Data.List.Nodup
import Mathlib.Order.Basic

/-!
# Stable ranking and selection by key

`sorted(l, key=key)` and `sorted(l, key=key, reverse=True)` are stable: equal
keys keep the order of the input in both directions.  Insertion sort by the
preorder the key induces has the same property, and unlike merge sort it
reduces in the kernel.

The results below are about *selections*, the first `n` items of a ranking:
a selection is closed upwards (`mem_take_sortByDesc_of_lt`), and the names a
ranking selects depend on the `(name, key)` pairs of the input only
(`map_sortByDesc`).
-/

namespace KVOrchestrator.Verified

variable {α β γ : Type*}

section Ranking

variable [LinearOrder β]

/-- `sorted(l, key=key)`. -/
def sortBy (key : α → β) (l : List α) : List α :=
  l.insertionSort (fun a b => key a ≤ key b)

/-- `sorted(l, key=key, reverse=True)`. -/
def sortByDesc (key : α → β) (l : List α) : List α :=
  l.insertionSort (fun a b => key b ≤ key a)

@[simp] theorem mem_sortBy (key : α → β) (l : List α) (a : α) :
    a ∈ sortBy key l ↔ a ∈ l :=
  List.mem_insertionSort _

@[simp] theorem mem_sortByDesc (key : α → β) (l : List α) (a : α) :
    a ∈ sortByDesc key l ↔ a ∈ l :=
  List.mem_insertionSort _

@[simp] theorem length_sortBy (key : α → β) (l : List α) :
    (sortBy key l).length = l.length :=
  List.length_insertionSort _ l

@[simp] theorem length_sortByDesc (key : α → β) (l : List α) :
    (sortByDesc key l).length = l.length :=
  List.length_insertionSort _ l

theorem sortBy_perm (key : α → β) (l : List α) : (sortBy key l).Perm l :=
  List.perm_insertionSort _ l

/-- Keys ascend along `sortBy`. -/
theorem pairwise_sortBy (key : α → β) (l : List α) :
    (sortBy key l).Pairwise (fun a b => key a ≤ key b) := by
  have : Std.Total (fun a b : α => key a ≤ key b) :=
    ⟨fun a b => le_total (key a) (key b)⟩
  have : IsTrans α (fun a b : α => key a ≤ key b) :=
    ⟨fun _ _ _ hab hbc => le_trans hab hbc⟩
  exact List.pairwise_insertionSort _ l

/-- Keys descend along `sortByDesc`. -/
theorem pairwise_sortByDesc (key : α → β) (l : List α) :
    (sortByDesc key l).Pairwise (fun a b => key b ≤ key a) := by
  have : Std.Total (fun a b : α => key b ≤ key a) :=
    ⟨fun a b => le_total (key b) (key a)⟩
  have : IsTrans α (fun a b : α => key b ≤ key a) :=
    ⟨fun _ _ _ hab hbc => le_trans hbc hab⟩
  exact List.pairwise_insertionSort _ l

/-- Ranking by a key that factors through `f` commutes with `f`. -/
theorem map_sortByDesc (f : α → γ) (key : α → β) (key' : γ → β)
    (h : ∀ a, key' (f a) = key a) (l : List α) :
    (sortByDesc key l).map f = sortByDesc key' (l.map f) := by
  refine List.map_insertionSort _ _ f l ?_
  intro a _ b _
  rw [h, h]

theorem map_sortBy (f : α → γ) (key : α → β) (key' : γ → β)
    (h : ∀ a, key' (f a) = key a) (l : List α) :
    (sortBy key l).map f = sortBy key' (l.map f) := by
  refine List.map_insertionSort _ _ f l ?_
  intro a _ b _
  rw [h, h]

/-- Keys that compare alike rank alike. -/
theorem sortBy_congr {key key' : α → β} (h : ∀ a b, key a ≤ key b ↔ key' a ≤ key' b)
    (l : List α) : sortBy key l = sortBy key' l := by
  have hmap := List.map_insertionSort (fun a b => key a ≤ key b) (fun a b => key' a ≤ key' b) id l
    (fun a _ b _ => h a b)
  rwa [List.map_id, List.map_id] at hmap

/-- With distinct keys a ranking does not depend on the order of its input. -/
theorem sortBy_eq_of_perm {key : α → β} {l l' : List α} (hperm : l.Perm l')
    (hkeys : (l.map key).Nodup) : sortBy key l = sortBy key l' := by
  have hsame : (sortBy key l).Perm (sortBy key l') :=
    ((sortBy_perm key l).trans hperm).trans (sortBy_perm key l').symm
  apply hsame.eq_of_pairwise _ (pairwise_sortBy key l) (pairwise_sortBy key l')
  intro a b ha hb hab hba
  have hbl : b ∈ l := hperm.mem_iff.mpr ((mem_sortBy key l' b).mp hb)
  exact List.inj_on_of_nodup_map hkeys ((mem_sortBy key l a).mp ha) hbl (le_antisymm hab hba)

theorem sortByDesc_eq_of_perm {key : α → β} {l l' : List α} (hperm : l.Perm l')
    (hkeys : (l.map key).Nodup) : sortByDesc key l = sortByDesc key l' := by
  have hsame : (sortByDesc key l).Perm (sortByDesc key l') :=
    ((List.perm_insertionSort _ l).trans hperm).trans (List.perm_insertionSort _ l').symm
  apply hsame.eq_of_pairwise _ (pairwise_sortByDesc key l) (pairwise_sortByDesc key l')
  intro a b ha hb hab hba
  have hbl : b ∈ l := hperm.mem_iff.mpr ((mem_sortByDesc key l' b).mp hb)
  exact List.inj_on_of_nodup_map hkeys ((mem_sortByDesc key l a).mp ha) hbl
    (le_antisymm hba hab)

/-- Inserting into an ordered list commutes with dropping items. -/
private theorem filter_orderedInsert {r : α → α → Prop} [DecidableRel r] [IsTrans α r]
    (p : α → Bool) (a : α) {s : List α} (hs : s.Pairwise r) :
    (s.orderedInsert r a).filter p =
      if p a then (s.filter p).orderedInsert r a else s.filter p := by
  induction s with
  | nil =>
      rw [List.orderedInsert_nil]
      cases hp : p a with
      | true => rw [List.filter_cons_of_pos hp]; rfl
      | false => rw [List.filter_cons_of_neg (by simp [hp])]; rfl
  | cons b rest ih =>
      rw [List.pairwise_cons] at hs
      have hrest := ih hs.2
      by_cases hab : r a b
      · rw [List.orderedInsert_cons_of_le r rest hab]
        cases hp : p a with
        | true =>
            have hall : ∀ c ∈ (b :: rest).filter p, r a c := by
              intro c hc
              rcases List.mem_cons.mp (List.mem_of_mem_filter hc) with rfl | hc
              · exact hab
              · exact IsTrans.trans a b c hab (hs.1 c hc)
            rw [List.filter_cons_of_pos hp]
            cases hkept : (b :: rest).filter p with
            | nil => rfl
            | cons c kept =>
                rw [hkept] at hall
                exact (List.orderedInsert_cons_of_le r kept (hall c List.mem_cons_self)).symm
        | false => rw [List.filter_cons_of_neg (by simp [hp])]; rfl
      · rw [List.orderedInsert_of_not_le r rest hab]
        cases hpb : p b with
        | true =>
            rw [List.filter_cons_of_pos hpb, List.filter_cons_of_pos hpb, hrest,
              List.orderedInsert_of_not_le r (rest.filter p) hab]
            split <;> rfl
        | false =>
            rw [List.filter_cons_of_neg (by simp [hpb]), List.filter_cons_of_neg (by simp [hpb]),
              hrest]

/-- Dropping items leaves the ranking of the others. -/
theorem sortByDesc_filter (key : α → β) (p : α → Bool) (l : List α) :
    sortByDesc key (l.filter p) = (sortByDesc key l).filter p := by
  have : IsTrans α (fun a b : α => key b ≤ key a) :=
    ⟨fun _ _ _ hab hbc => le_trans hbc hab⟩
  induction l with
  | nil => rfl
  | cons a rest ih =>
      have hinsert : (sortByDesc key (a :: rest)).filter p =
          if p a then (sortByDesc key (rest.filter p)).orderedInsert (fun a b => key b ≤ key a) a
          else sortByDesc key (rest.filter p) := by
        rw [ih]
        exact filter_orderedInsert p a (pairwise_sortByDesc key rest)
      rw [hinsert]
      cases hp : p a with
      | true =>
          rw [List.filter_cons_of_pos hp]
          rfl
      | false =>
          rw [List.filter_cons_of_neg (by simp [hp])]
          rfl

/-- A list in the order of its keys is ranked already. -/
theorem sortBy_eq_self {key : α → β} {l : List α}
    (hl : l.Pairwise (fun a b => key a ≤ key b)) : sortBy key l = l :=
  hl.insertionSort_eq

/-- An item goes in front of its equals when it is inserted. -/
private theorem pairwise_orderedInsert_ties {key : α → β} {P : α → α → Prop} {a : α} :
    ∀ {s : List α}, s.Pairwise (fun b c => key b < key c ∨ key b = key c ∧ P b c) →
      (∀ b ∈ s, P a b) →
      (s.orderedInsert (fun b c => key b ≤ key c) a).Pairwise
        (fun b c => key b < key c ∨ key b = key c ∧ P b c) := by
  intro s
  induction s with
  | nil => exact fun _ _ => List.pairwise_singleton _ a
  | cons b s ih =>
      intro hs ha
      obtain ⟨hb, hrest⟩ := List.pairwise_cons.mp hs
      by_cases hab : key a ≤ key b
      · rw [List.orderedInsert_cons_of_le _ s hab, List.pairwise_cons]
        refine ⟨?_, hs⟩
        intro c hc
        have hac : key a ≤ key c := by
          rcases List.mem_cons.mp hc with rfl | hc
          · exact hab
          · rcases hb c hc with hlt | ⟨heq, _⟩
            · exact hab.trans hlt.le
            · exact hab.trans heq.le
        exact hac.lt_or_eq.imp_right (fun heq => ⟨heq, ha c hc⟩)
      · rw [List.orderedInsert_of_not_le _ s hab, List.pairwise_cons]
        refine ⟨?_, ih hrest (fun c hc => ha c (List.mem_cons_of_mem b hc))⟩
        intro c hc
        rcases (List.mem_orderedInsert _).mp hc with rfl | hc
        · exact .inl (not_le.mp hab)
        · exact hb c hc

/-- Items of equal keys stay in the order of the list, so that what relates
earlier items to later ones still does. -/
theorem pairwise_sortBy_ties {key : α → β} {P : α → α → Prop} {l : List α}
    (hl : l.Pairwise P) :
    (sortBy key l).Pairwise (fun a b => key a < key b ∨ key a = key b ∧ P a b) := by
  induction l with
  | nil => exact List.Pairwise.nil
  | cons a rest ih =>
      obtain ⟨ha, hrest⟩ := List.pairwise_cons.mp hl
      apply pairwise_orderedInsert_ties (ih hrest)
      intro b hb
      exact ha b ((mem_sortBy key rest b).mp hb)

end Ranking

/-! ## Selections -/

/-- In a list ordered by `R`, an item that does not come after a selected one
is selected too. -/
theorem mem_take_of_pairwise {R : α → α → Prop} {l : List α} (hl : l.Pairwise R)
    {n : Nat} {a b : α} (ha : a ∈ l) (hb : b ∈ l.take n) (hba : ¬R b a) :
    a ∈ l.take n := by
  rw [← List.take_append_drop n l, List.mem_append] at ha
  rcases ha with ha | ha
  · exact ha
  · rw [← List.take_append_drop n l] at hl
    exact absurd ((List.pairwise_append.mp hl).2.2 b hb a ha) hba

/-- The top `n` of a ranking is closed upwards: with `b` it contains every
item of strictly larger key. -/
theorem mem_take_sortByDesc_of_lt [LinearOrder β] {key : α → β} {l : List α}
    {n : Nat} {a b : α} (ha : a ∈ l) (hb : b ∈ (sortByDesc key l).take n)
    (hlt : key b < key a) : a ∈ (sortByDesc key l).take n :=
  mem_take_of_pairwise (pairwise_sortByDesc key l) ((mem_sortByDesc key l a).mpr ha) hb
    (not_le_of_gt hlt)

/-! ## Lookup by a name that is unique -/

/-- Names identify items of a list without repeated names. -/
theorem eq_of_name_eq {f : α → γ} {l : List α} (hl : (l.map f).Nodup) {a b : α}
    (ha : a ∈ l) (hb : b ∈ l) (hab : f a = f b) : a = b :=
  List.inj_on_of_nodup_map hl ha hb hab

/-- An item is selected exactly when its name is among the selected names. -/
theorem name_mem_map_iff {f : α → γ} {l s : List α} (hl : (l.map f).Nodup)
    (hs : ∀ x ∈ s, x ∈ l) {a : α} (ha : a ∈ l) : f a ∈ s.map f ↔ a ∈ s := by
  constructor
  · intro h
    obtain ⟨b, hb, hab⟩ := List.mem_map.mp h
    exact eq_of_name_eq hl (hs b hb) ha hab ▸ hb
  · exact List.mem_map_of_mem

/-- By name, too, the top `n` of a ranking is closed upwards. -/
theorem name_mem_top_of_lt [LinearOrder β] {name : α → γ} {key : α → β} {l : List α}
    (hl : (l.map name).Nodup) {n : Nat} {a b : α} (ha : a ∈ l) (hb : b ∈ l)
    (hlt : key b < key a) (htop : name b ∈ ((sortByDesc key l).take n).map name) :
    name a ∈ ((sortByDesc key l).take n).map name := by
  have hsub : ∀ x ∈ (sortByDesc key l).take n, x ∈ l := fun x hx =>
    (mem_sortByDesc key l x).mp (List.mem_of_mem_take hx)
  have htake := (name_mem_map_iff hl hsub hb).mp htop
  exact (name_mem_map_iff hl hsub ha).mpr (mem_take_sortByDesc_of_lt ha htake hlt)

/-- Where items have names of their own, ranking leaves the names in place
exactly if the keys ascend. -/
theorem names_sortBy_eq_iff [LinearOrder β] {name : α → γ} {l : List α} (hl : (l.map name).Nodup)
    (key : α → β) :
    (sortBy key l).map name = l.map name ↔ l.Pairwise (fun a b => key a ≤ key b) := by
  constructor
  · intro hnames
    have hself : sortBy key l = l := by
      apply List.ext_getElem
      · exact length_sortBy key l
      · intro i hi hi'
        apply eq_of_name_eq hl
        · exact (mem_sortBy key l _).mp (List.getElem_mem hi)
        · exact List.getElem_mem hi'
        · have hat := congrArg (fun names => names[i]?) hnames
          simpa [hi, hi'] using hat
    rw [← hself]
    exact pairwise_sortBy key l
  · intro hascend
    rw [sortBy_eq_self hascend]

/-- Looking a unique name up in the image of a list finds that item's image. -/
theorem find?_map_of_name [DecidableEq γ] {δ : Type*} {f : α → γ} {l : List α}
    (hl : (l.map f).Nodup) (g : α → δ) (name : δ → γ) (hg : ∀ a ∈ l, name (g a) = f a)
    {a : α} (ha : a ∈ l) :
    (l.map g).find? (fun d => decide (name d = f a)) = some (g a) := by
  cases hfind : (l.map g).find? (fun d => decide (name d = f a)) with
  | none =>
      rw [List.find?_eq_none] at hfind
      have h := hfind (g a) (List.mem_map_of_mem ha)
      simp [hg a ha] at h
  | some d =>
      obtain ⟨b, hb, rfl⟩ := List.mem_map.mp (List.mem_of_find?_eq_some hfind)
      have hname : name (g b) = f a := by simpa using List.find?_some hfind
      rw [hg b hb] at hname
      rw [eq_of_name_eq hl hb ha hname]

/-- A unique name finds the same item in every arrangement. -/
theorem find?_name_eq_of_perm [DecidableEq γ] {f : α → γ} {l l' : List α} (hperm : l.Perm l')
    (hl : (l.map f).Nodup) (name : γ) :
    l.find? (fun a => decide (f a = name)) = l'.find? (fun a => decide (f a = name)) := by
  have hl' : (l'.map f).Nodup := (hperm.map f).nodup_iff.mp hl
  by_cases hname : ∃ a ∈ l, f a = name
  · obtain ⟨a, ha, rfl⟩ := hname
    have hfind := find?_map_of_name hl id f (fun _ _ => rfl) ha
    have hfind' := find?_map_of_name hl' id f (fun _ _ => rfl) (hperm.mem_iff.mp ha)
    rw [List.map_id] at hfind hfind'
    rw [hfind, hfind']
  · have hnone : l.find? (fun a => decide (f a = name)) = none := by
      rw [List.find?_eq_none]
      intro a ha hfa
      exact hname ⟨a, ha, of_decide_eq_true hfa⟩
    have hnone' : l'.find? (fun a => decide (f a = name)) = none := by
      rw [List.find?_eq_none]
      intro a ha hfa
      exact hname ⟨a, hperm.mem_iff.mpr ha, of_decide_eq_true hfa⟩
    rw [hnone, hnone']

/-- As many items carry a selected name as were selected. -/
theorem countP_name_mem [DecidableEq γ] {f : α → γ} {l s : List α} (hl : (l.map f).Nodup)
    (hs : s.Sublist l) : l.countP (fun a => decide (f a ∈ s.map f)) = s.length := by
  have hnodup : l.Nodup := hl.of_map f
  have hperm : (l.filter (fun a => decide (f a ∈ s.map f))).Perm s := by
    rw [List.perm_ext_iff_of_nodup (hnodup.filter _) (hnodup.sublist hs)]
    intro a
    rw [List.mem_filter, decide_eq_true_iff]
    constructor
    · rintro ⟨ha, hname⟩
      exact (name_mem_map_iff hl (fun x hx => hs.subset hx) ha).mp hname
    · intro ha
      exact ⟨hs.subset ha, List.mem_map_of_mem ha⟩
  rw [List.countP_eq_length_filter, hperm.length_eq]

private theorem map_fst_zip_sublist :
    ∀ (l : List α) (s : List β), ((l.zip s).map Prod.fst).Sublist l
  | [], _ => by simp
  | a :: l, [] => by simp
  | a :: l, b :: s => by
      simpa using map_fst_zip_sublist l s

/-- Pairing a list with a second one keeps the names of an initial part. -/
theorem names_zip_sublist (f : α → γ) (l : List α) (s : List β) :
    ((l.zip s).map (fun x => f x.1)).Sublist (l.map f) := by
  have hmap : (l.zip s).map (fun x => f x.1) = ((l.zip s).map Prod.fst).map f := by
    simp
  rw [hmap]
  exact (map_fst_zip_sublist l s).map f

/-- Pairing a list with one of the same length keeps all names. -/
theorem names_zip_of_length (f : α → γ) {l : List α} {s : List β} (hlen : s.length = l.length) :
    (l.zip s).map (fun x => f x.1) = l.map f := by
  have hfst : (l.zip s).map Prod.fst = l := List.map_fst_zip (Nat.le_of_eq hlen.symm)
  calc (l.zip s).map (fun x => f x.1)
      = ((l.zip s).map Prod.fst).map f := by rw [List.map_map]; rfl
    _ = l.map f := by rw [hfst]

/-- Pairing a list with a second one keeps names unique. -/
theorem nodup_zip_map_fst {f : α → γ} {l : List α} (hl : (l.map f).Nodup) (s : List β) :
    ((l.zip s).map (fun x => f x.1)).Nodup :=
  hl.sublist (names_zip_sublist f l s)

end KVOrchestrator.Verified
