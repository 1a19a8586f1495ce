import KVOrchestrator.Verified.Ranking
import Mathlib.Data.List.Nodup
import Mathlib.Data.List.Basic
import Mathlib.Data.List.Dedup
import Mathlib.Data.List.Induction

/-!
# Insertion-ordered dictionaries

A Python `dict` enumerates its keys in the order of their first insertion:
overwriting a key keeps its place, deleting a key closes the gap.  `OrdDict`
is the association list with that order, carrying the proof that no key
occurs twice.

Every operation that does not insert is an instance of `update`, which maps
or drops each entry where it stands.  `update_update` composes two of them,
so a loop of deletions and in-place edits is one `update` by a composed
function, and `get?_update` reads any key through it.  Where the order of the
entries does not matter, `entries_set_perm` and `entries_perm_cons_erase`
separate the entry of one key from the others.  A dictionary of lists that groups
rows by key is read by `getD_get?_groups`.
-/

namespace KVOrchestrator.Verified

/-- An association list in insertion order without repeated keys. -/
@[ext]
structure OrdDict (κ ν : Type*) where
  entries : List (κ × ν)
  nodup : (entries.map Prod.fst).Nodup
  deriving DecidableEq

namespace OrdDict

variable {κ ν : Type*}

/-- The dictionary without entries. -/
def empty : OrdDict κ ν := ⟨[], List.nodup_nil⟩

/-- Keys in insertion order. -/
def keys (d : OrdDict κ ν) : List κ := d.entries.map Prod.fst

/-- Values in insertion order. -/
def values (d : OrdDict κ ν) : List ν := d.entries.map Prod.snd

theorem nodup_keys (d : OrdDict κ ν) : d.keys.Nodup := d.nodup

/-- One value per key. -/
theorem val_eq_of_mem (d : OrdDict κ ν) {k : κ} {v w : ν}
    (hv : (k, v) ∈ d.entries) (hw : (k, w) ∈ d.entries) : v = w := by
  have h := List.inj_on_of_nodup_map d.nodup hv hw rfl
  exact congrArg Prod.snd h

/-! ## In-place updates -/

/-- Keys that survive an entrywise map occur in their old order. -/
private theorem keys_filterMap_sublist (f : κ → ν → Option ν) :
    ∀ l : List (κ × ν),
      ((l.filterMap (fun e => (f e.1 e.2).map (Prod.mk e.1))).map Prod.fst).Sublist
        (l.map Prod.fst) := by
  intro l
  induction l with
  | nil => simp
  | cons e rest ih =>
      cases hf : f e.1 e.2 with
      | none => simpa [List.filterMap_cons, hf] using ih.cons e.1
      | some v => simpa [List.filterMap_cons, hf] using ih

/-- Rewrite every entry in place; an entry sent to `none` is deleted. -/
def update (f : κ → ν → Option ν) (d : OrdDict κ ν) : OrdDict κ ν where
  entries := d.entries.filterMap (fun e => (f e.1 e.2).map (Prod.mk e.1))
  nodup := d.nodup.sublist (keys_filterMap_sublist f d.entries)

theorem mem_entries_update (f : κ → ν → Option ν) (d : OrdDict κ ν) (k : κ) (w : ν) :
    (k, w) ∈ (d.update f).entries ↔ ∃ v, (k, v) ∈ d.entries ∧ f k v = some w := by
  simp only [update, List.mem_filterMap, Option.map_eq_some_iff, Prod.mk.injEq]
  constructor
  · rintro ⟨⟨k', v⟩, hmem, w', hf, rfl, rfl⟩
    exact ⟨v, hmem, hf⟩
  · rintro ⟨v, hmem, hf⟩
    exact ⟨(k, v), hmem, w, hf, rfl, rfl⟩

/-- Two passes over the entries are one pass with the composed function. -/
theorem update_update (f g : κ → ν → Option ν) (d : OrdDict κ ν) :
    (d.update f).update g = d.update (fun k v => (f k v).bind (g k)) := by
  apply OrdDict.ext
  simp only [update, List.filterMap_filterMap]
  congr 1
  funext e
  cases f e.1 e.2 <;> rfl

theorem update_congr {f g : κ → ν → Option ν} {d : OrdDict κ ν}
    (h : ∀ k v, (k, v) ∈ d.entries → f k v = g k v) : d.update f = d.update g := by
  apply OrdDict.ext
  refine List.filterMap_congr ?_
  intro e he
  rw [h e.1 e.2 he]

/-- The update that returns every value is the identity. -/
theorem update_some (d : OrdDict κ ν) : d.update (fun _ v => some v) = d := by
  apply OrdDict.ext
  simp [update]

theorem values_update (f : κ → ν → Option ν) (d : OrdDict κ ν) :
    (d.update f).values = d.entries.filterMap (fun e => f e.1 e.2) := by
  simp only [values, update, List.map_filterMap]
  congr 1
  funext e
  cases f e.1 e.2 <;> rfl

/-- The dictionary with every value converted. -/
def mapValues {μ : Type*} (f : ν → μ) (d : OrdDict κ ν) : OrdDict κ μ where
  entries := d.entries.map (fun e => (e.1, f e.2))
  nodup := by
    rw [List.map_map]
    exact d.nodup

section Decidable

variable [DecidableEq κ]

/-- `d.get(k)`. -/
def get? (d : OrdDict κ ν) (k : κ) : Option ν :=
  (d.entries.find? (fun e => decide (e.1 = k))).map Prod.snd

/-- Replace the value at `k`, if there is one. -/
def modify (d : OrdDict κ ν) (k : κ) (f : ν → ν) : OrdDict κ ν :=
  d.update (fun k' v => some (if k' = k then f v else v))

/-- `d[k] = v`: an existing key keeps its place, a new one goes last. -/
def set (d : OrdDict κ ν) (k : κ) (v : ν) : OrdDict κ ν :=
  if h : k ∈ d.keys then d.modify k (fun _ => v)
  else
    { entries := d.entries ++ [(k, v)]
      nodup := by
        rw [List.map_append]
        refine List.Nodup.append d.nodup (List.nodup_singleton k) ?_
        simpa [keys] using h }

theorem get?_eq_some_iff (d : OrdDict κ ν) (k : κ) (v : ν) :
    d.get? k = some v ↔ (k, v) ∈ d.entries := by
  unfold get?
  rw [Option.map_eq_some_iff]
  constructor
  · rintro ⟨⟨k', v'⟩, hfind, rfl⟩
    have hk : k' = k := by simpa using List.find?_some hfind
    subst hk
    exact List.mem_of_find?_eq_some hfind
  · intro hmem
    cases hfind : d.entries.find? (fun e => decide (e.1 = k)) with
    | none =>
        rw [List.find?_eq_none] at hfind
        simpa using hfind (k, v) hmem
    | some e =>
        have hk : e.1 = k := by simpa using List.find?_some hfind
        have he : (k, e.2) ∈ d.entries := by
          rw [← hk]
          exact List.mem_of_find?_eq_some hfind
        exact ⟨e, rfl, d.val_eq_of_mem he hmem⟩

theorem get?_eq_none_iff (d : OrdDict κ ν) (k : κ) : d.get? k = none ↔ k ∉ d.keys := by
  rw [Option.eq_none_iff_forall_ne_some]
  constructor
  · intro h hk
    obtain ⟨e, he, rfl⟩ := List.mem_map.mp hk
    exact h e.2 ((d.get?_eq_some_iff _ _).mpr he)
  · intro h v hv
    exact h (List.mem_map.mpr ⟨(k, v), (d.get?_eq_some_iff k v).mp hv, rfl⟩)

theorem get?_update (f : κ → ν → Option ν) (d : OrdDict κ ν) (k : κ) :
    (d.update f).get? k = (d.get? k).bind (f k) := by
  apply Option.ext
  intro w
  rw [get?_eq_some_iff, mem_entries_update, Option.bind_eq_some_iff]
  simp only [get?_eq_some_iff]

theorem get?_mapValues {μ : Type*} (f : ν → μ) (d : OrdDict κ ν) (k : κ) :
    (d.mapValues f).get? k = (d.get? k).map f := by
  rw [get?, get?, mapValues, List.find?_map, Option.map_map, Option.map_map]
  rfl

theorem get?_modify_self (d : OrdDict κ ν) (k : κ) (f : ν → ν) :
    (d.modify k f).get? k = (d.get? k).map f := by
  rw [modify, get?_update]
  cases d.get? k <;> simp

theorem get?_modify_of_ne (d : OrdDict κ ν) {k k' : κ} (h : k' ≠ k) (f : ν → ν) :
    (d.modify k f).get? k' = d.get? k' := by
  rw [modify, get?_update]
  cases d.get? k' <;> simp [h]

theorem modify_of_none {d : OrdDict κ ν} {k : κ} (h : d.get? k = none) (f : ν → ν) :
    d.modify k f = d := by
  have hsame : d.modify k f = d.update (fun _ v => some v) := by
    refine update_congr (fun k' v hmem => ?_)
    have hk : k' ≠ k := by
      rintro rfl
      rw [(d.get?_eq_some_iff _ _).mpr hmem] at h
      cases h
    rw [if_neg hk]
  rw [hsame, update_some]

theorem mem_entries_set (d : OrdDict κ ν) (k k' : κ) (v w : ν) :
    (k', w) ∈ (d.set k v).entries → (k' = k ∧ w = v) ∨ (k', w) ∈ d.entries := by
  unfold set
  split
  · rw [modify, mem_entries_update]
    rintro ⟨v', hmem, hw⟩
    by_cases hk : k' = k
    · exact .inl ⟨hk, by simpa [hk] using hw.symm⟩
    · have : v' = w := by simpa [hk] using hw
      exact .inr (this ▸ hmem)
  · simp only [List.mem_append, List.mem_singleton, Prod.mk.injEq]
    exact Or.symm

/-- A new key goes last. -/
theorem keys_set_of_not_mem {d : OrdDict κ ν} {k : κ} (h : k ∉ d.keys) (v : ν) :
    (d.set k v).keys = d.keys ++ [k] := by
  rw [set, dif_neg h]
  exact List.map_append

/-- A new key's entry goes last. -/
theorem entries_set_of_not_mem {d : OrdDict κ ν} {k : κ} (h : k ∉ d.keys) (v : ν) :
    (d.set k v).entries = d.entries ++ [(k, v)] := by
  rw [set, dif_neg h]

/-- Overwriting the last entry leaves the ones before it. -/
theorem entries_set_of_last {d : OrdDict κ ν} {k : κ} {w : ν} {init : List (κ × ν)}
    (h : d.entries = init ++ [(k, w)]) (v : ν) : (d.set k v).entries = init ++ [(k, v)] := by
  have hk : k ∈ d.keys := by
    rw [keys, h, List.map_append]
    exact List.mem_append_right _ List.mem_cons_self
  have hinit : ∀ e ∈ init, e.1 ≠ k := by
    intro e he hek
    have hnodup := d.nodup
    rw [h, List.map_append, List.nodup_append] at hnodup
    exact hnodup.2.2 e.1 (List.mem_map_of_mem he) k List.mem_cons_self hek
  have hset : (d.set k v).entries = d.entries.filterMap
      (fun e => some (e.1, if e.1 = k then v else e.2)) := by
    rw [set, dif_pos hk]
    rfl
  have hkept : init.filterMap (fun e => some (e.1, if e.1 = k then v else e.2)) = init := by
    rw [List.filterMap_eq_map', List.map_congr_left (g := id), List.map_id]
    intro e he
    rw [if_neg (hinit e he)]
    rfl
  rw [hset, h, List.filterMap_append, hkept]
  simp

/-- `del d[k]`, or nothing if the key is absent. -/
def erase (d : OrdDict κ ν) (k : κ) : OrdDict κ ν :=
  d.update (fun k' v => if k' = k then none else some v)

@[simp] theorem get?_erase_self (d : OrdDict κ ν) (k : κ) : (d.erase k).get? k = none := by
  rw [erase, get?_update]
  simp

theorem get?_erase_of_ne (d : OrdDict κ ν) {k k' : κ} (h : k' ≠ k) :
    (d.erase k).get? k' = d.get? k' := by
  rw [erase, get?_update]
  simp [h]

theorem mem_entries_erase (d : OrdDict κ ν) (k k' : κ) (v : ν) :
    (k', v) ∈ (d.erase k).entries ↔ k' ≠ k ∧ (k', v) ∈ d.entries := by
  simp only [← get?_eq_some_iff]
  by_cases h : k' = k
  · simp [h]
  · rw [d.get?_erase_of_ne h]
    simp [h]

@[simp] theorem get?_set_self (d : OrdDict κ ν) (k : κ) (v : ν) :
    (d.set k v).get? k = some v := by
  unfold set
  split
  · rename_i hk
    obtain ⟨e, he, rfl⟩ := List.mem_map.mp hk
    rw [modify, get?_update, (d.get?_eq_some_iff _ _).mpr he]
    simp
  · rw [get?_eq_some_iff]
    simp

theorem get?_set_of_ne (d : OrdDict κ ν) {k k' : κ} (h : k' ≠ k) (v : ν) :
    (d.set k v).get? k' = d.get? k' := by
  unfold set
  split
  · rw [modify, get?_update]
    simp [h]
  · apply Option.ext
    intro w
    rw [get?_eq_some_iff, get?_eq_some_iff]
    simp [h]

/-- The keys of an in-place edit are the old ones. -/
theorem keys_modify (d : OrdDict κ ν) (k : κ) (f : ν → ν) : (d.modify k f).keys = d.keys := by
  simp only [keys, modify, update, Option.map_some, List.filterMap_eq_map', List.map_map]
  rfl

/-- A key that is there keeps its place. -/
theorem keys_set_of_mem {d : OrdDict κ ν} {k : κ} (h : k ∈ d.keys) (v : ν) :
    (d.set k v).keys = d.keys := by
  rw [set, dif_pos h, keys_modify]

/-- Two dictionaries with the same lookups hold the same entries, in some
order. -/
theorem entries_perm_of_get? {d e : OrdDict κ ν} (h : ∀ k, d.get? k = e.get? k) :
    d.entries.Perm e.entries := by
  rw [List.perm_ext_iff_of_nodup (d.nodup.of_map _) (e.nodup.of_map _)]
  rintro ⟨k, v⟩
  rw [← get?_eq_some_iff, ← get?_eq_some_iff, h]

/-- A key's entry, and the entries of the other keys. -/
theorem entries_perm_cons_erase {d : OrdDict κ ν} {k : κ} {v : ν} (h : d.get? k = some v) :
    d.entries.Perm ((k, v) :: (d.erase k).entries) := by
  have hnodup : ((k, v) :: (d.erase k).entries).Nodup := by
    rw [List.nodup_cons, mem_entries_erase]
    exact ⟨fun hmem => hmem.1 rfl, (d.erase k).nodup.of_map _⟩
  rw [List.perm_ext_iff_of_nodup (d.nodup.of_map _) hnodup]
  rintro ⟨k', v'⟩
  rw [List.mem_cons, mem_entries_erase]
  by_cases hk : k' = k
  · subst hk
    constructor
    · intro hmem
      exact .inl (by rw [d.val_eq_of_mem hmem ((d.get?_eq_some_iff _ _).mp h)])
    · rintro (heq | ⟨hne, _⟩)
      · rw [heq]
        exact (d.get?_eq_some_iff _ _).mp h
      · exact absurd rfl hne
  · simp [hk]

/-- Erasing a key that is absent changes nothing. -/
theorem entries_perm_erase_of_none {d : OrdDict κ ν} {k : κ} (h : d.get? k = none) :
    d.entries.Perm (d.erase k).entries := by
  refine entries_perm_of_get? (fun k' => ?_)
  by_cases hk : k' = k
  · rw [hk, h, get?_erase_self]
  · rw [d.get?_erase_of_ne hk]

/-- Writing a key replaces its entry. -/
theorem entries_set_perm (d : OrdDict κ ν) (k : κ) (v : ν) :
    (d.set k v).entries.Perm ((k, v) :: (d.erase k).entries) := by
  have herase : ((d.set k v).erase k).entries.Perm (d.erase k).entries := by
    refine entries_perm_of_get? (fun k' => ?_)
    by_cases hk : k' = k
    · rw [hk, get?_erase_self, get?_erase_self]
    · rw [get?_erase_of_ne _ hk, get?_erase_of_ne _ hk, get?_set_of_ne _ hk]
  exact (entries_perm_cons_erase (d.get?_set_self k v)).trans (herase.cons _)

theorem keys_perm_cons_erase {d : OrdDict κ ν} {k : κ} (h : k ∈ d.keys) :
    d.keys.Perm (k :: (d.erase k).keys) := by
  obtain ⟨e, he, rfl⟩ := List.mem_map.mp h
  exact (entries_perm_cons_erase ((d.get?_eq_some_iff e.1 e.2).mpr he)).map Prod.fst

theorem keys_set_perm (d : OrdDict κ ν) (k : κ) (v : ν) :
    (d.set k v).keys.Perm (k :: (d.erase k).keys) :=
  (d.entries_set_perm k v).map Prod.fst

theorem keys_perm_erase_of_not_mem {d : OrdDict κ ν} {k : κ} (h : k ∉ d.keys) :
    d.keys.Perm (d.erase k).keys :=
  (entries_perm_erase_of_none ((d.get?_eq_none_iff k).mpr h)).map Prod.fst

/-- The dictionary that a sequence of entries writes: a later entry overwrites
an earlier one with its key. -/
def ofEntries (l : List (κ × ν)) : OrdDict κ ν :=
  l.foldl (fun d e => d.set e.1 e.2) empty

theorem entries_ofEntries {l : List (κ × ν)} (h : (l.map Prod.fst).Nodup) :
    (ofEntries l).entries = l := by
  induction l using List.reverseRecOn with
  | nil => rfl
  | append_singleton init e ih =>
      rw [List.map_append, List.nodup_append] at h
      have hinit := ih h.1
      have hkey : e.1 ∉ (ofEntries init).keys := by
        intro hmem
        rw [keys, hinit] at hmem
        exact h.2.2 e.1 hmem e.1 (by simp) rfl
      have hstep : ofEntries (init ++ [e]) = (ofEntries init).set e.1 e.2 := by
        simp [ofEntries]
      rw [hstep, entries_set_of_not_mem hkey, hinit]

theorem ofEntries_concat (l : List (κ × ν)) (e : κ × ν) :
    ofEntries (l ++ [e]) = (ofEntries l).set e.1 e.2 := by
  simp [ofEntries]

/-- Entries that are the same each time their key is written. -/
theorem get?_ofEntries_map (f : κ → ν) (ks : List κ) (k : κ) :
    (ofEntries (ks.map (fun k' => (k', f k')))).get? k = if k ∈ ks then some (f k) else none := by
  induction ks using List.reverseRecOn with
  | nil => rfl
  | append_singleton init k' ih =>
      rw [List.map_append, List.map_singleton, ofEntries_concat]
      by_cases hk : k = k'
      · rw [hk, get?_set_self, if_pos (by simp)]
      · rw [get?_set_of_ne _ hk, ih]
        simp [hk]

/-- The keys are in the order in which they are first written. -/
theorem keys_ofEntries_map (f : κ → ν) (ks : List κ) :
    (ofEntries (ks.map (fun k => (k, f k)))).keys = ks.eraseDups := by
  induction ks using List.reverseRecOn with
  | nil => rfl
  | append_singleton init k ih =>
      rw [List.map_append, List.map_singleton, ofEntries_concat, List.eraseDups_append, ← ih]
      have hkey : k ∈ (ofEntries (init.map (fun k => (k, f k)))).keys ↔ k ∈ init := by
        rw [ih, List.mem_eraseDups]
      by_cases hk : k ∈ init
      · rw [keys_set_of_mem (hkey.mpr hk)]
        simp [List.removeAll, hk]
      · rw [keys_set_of_not_mem (mt hkey.mp hk)]
        simp [List.removeAll, List.eraseDups_cons, hk]

/-- Keys without duplicates are first written in the order in which they come. -/
theorem eraseDups_of_nodup {ks : List κ} (h : ks.Nodup) : ks.eraseDups = ks := by
  have hid : (ks.map (fun k => (k, ()))).map Prod.fst = ks := by
    rw [List.map_map]
    exact List.map_id ks
  rw [← keys_ofEntries_map (fun _ => ()), keys, entries_ofEntries (hid.symm ▸ h), hid]

theorem nodup_eraseDups (ks : List κ) : ks.eraseDups.Nodup := by
  rw [← keys_ofEntries_map (fun _ => ())]
  exact nodup_keys _

/-- A dictionary is rebuilt from its entries. -/
theorem ofEntries_entries (d : OrdDict κ ν) : ofEntries d.entries = d :=
  OrdDict.ext (entries_ofEntries d.nodup)

end Decidable

/-! ## Grouping -/

section Groups

variable [LinearOrder κ] {α : Type*} (key : α → κ) (value : α → ν) (rows : List α)

/-- The values of each key, in the order of their rows; keys ascend. -/
def groups : OrdDict κ (List ν) where
  entries := (sortBy id (rows.map key).dedup).map (fun k =>
    (k, (rows.filter (fun r => decide (key r = k))).map value))
  nodup := by
    rw [List.map_map]
    show ((sortBy id (rows.map key).dedup).map id).Nodup
    rw [List.map_id]
    exact (sortBy_perm id _).nodup_iff.mpr (List.nodup_dedup _)

theorem keys_groups : (groups key value rows).keys = sortBy id (rows.map key).dedup := by
  rw [keys, groups, List.map_map]
  exact List.map_id _

/-- A lookup is a filter; a key without rows has no values. -/
theorem getD_get?_groups (k : κ) :
    ((groups key value rows).get? k).getD [] =
      (rows.filter (fun r => decide (key r = k))).map value := by
  by_cases hk : k ∈ rows.map key
  · have hentry : (k, (rows.filter (fun r => decide (key r = k))).map value) ∈
        (groups key value rows).entries := by
      apply List.mem_map.mpr
      exact ⟨k, (mem_sortBy id _ k).mpr (List.mem_dedup.mpr hk), rfl⟩
    rw [(get?_eq_some_iff _ _ _).mpr hentry, Option.getD_some]
  · have hnone : k ∉ (groups key value rows).keys := by
      rw [keys_groups, mem_sortBy, List.mem_dedup]
      exact hk
    have hempty : rows.filter (fun r => decide (key r = k)) = [] := by
      rw [List.filter_eq_nil_iff]
      intro r hr hkey
      exact hk (List.mem_map.mpr ⟨r, hr, of_decide_eq_true hkey⟩)
    rw [(get?_eq_none_iff _ _).mpr hnone, hempty]
    rfl

end Groups

end OrdDict

end KVOrchestrator.Verified
