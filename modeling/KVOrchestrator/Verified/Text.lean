import Mathlib.Data.List.DropRight
import Mathlib.Data.List.Dedup
import Mathlib.Data.Multiset.UnionInter
import Mathlib.Algebra.BigOperators.Group.Finset.Basic
import Mathlib.Algebra.Order.BigOperators.Group.List
import Mathlib.Algebra.GroupWithZero.Nat
import Mathlib.Algebra.Order.Group.Nat

/-!
# Texts as lists of characters

Stripping, splitting and joining over any alphabet with a set of blanks, and the
overlap of two bags of tokens.  Fields that are joined with a padded separator
are read back by splitting at the separator and stripping, as long as none of
them holds the separator (`fields_join`); a field never does (`not_mem_of_mem_fields`).
-/

namespace KVOrchestrator.Verified

variable {α : Type*}

/-! ## Stripping -/

section Strip

variable (isSpace : α → Bool)

/-- Drop the blanks at both ends. -/
def stripBlanks (l : List α) : List α := (l.dropWhile isSpace).rdropWhile isSpace

/-- The maximal parts without blanks. -/
def splitBlanks (l : List α) : List (List α) :=
  (l.splitOnP isSpace).filter (fun word => !word.isEmpty)

variable {isSpace}

theorem stripBlanks_cons {pad : α} (hpad : isSpace pad = true) (l : List α) :
    stripBlanks isSpace (pad :: l) = stripBlanks isSpace l := by
  rw [stripBlanks, List.dropWhile_cons_of_pos hpad, stripBlanks]

theorem stripBlanks_concat {pad : α} (hpad : isSpace pad = true) (l : List α) :
    stripBlanks isSpace (l ++ [pad]) = stripBlanks isSpace l := by
  rw [stripBlanks, stripBlanks, List.dropWhile_append]
  split
  · rename_i hempty
    rw [List.isEmpty_iff] at hempty
    rw [hempty, List.dropWhile_cons_of_pos hpad]
    rfl
  · exact List.rdropWhile_concat_pos isSpace _ pad hpad

end Strip

/-! ## Fields -/

section Fields

variable [DecidableEq α] (isSpace : α → Bool) (sep : α)

/-- The stripped parts between the separators, without the blank ones. -/
def fields (l : List α) : List (List α) :=
  ((l.splitOn sep).map (stripBlanks isSpace)).filter (fun field => !field.isEmpty)

variable {isSpace sep}

theorem not_mem_of_mem_splitOn {l part : List α} (hpart : part ∈ l.splitOn sep) : sep ∉ part := by
  induction l generalizing part with
  | nil =>
      rw [List.splitOn_nil, List.mem_singleton] at hpart
      rw [hpart]
      exact List.not_mem_nil
  | cons x l ih =>
      rw [List.splitOn_cons_eq_if_modifyHead] at hpart
      split at hpart
      · rcases List.mem_cons.mp hpart with rfl | hrest
        · exact List.not_mem_nil
        · exact ih hrest
      · rename_i hne
        cases hparts : l.splitOn sep with
        | nil => exact absurd hparts (List.splitOn_ne_nil sep l)
        | cons first rest =>
            rw [hparts, List.modifyHead_cons] at hpart
            rcases List.mem_cons.mp hpart with rfl | hrest
            · rw [List.mem_cons]
              rintro (heq | hmem)
              · apply hne
                rw [heq]
                exact beq_self_eq_true x
              · exact ih (hparts ▸ List.mem_cons_self) hmem
            · exact ih (hparts ▸ List.mem_cons_of_mem _ hrest)

omit [DecidableEq α] in
/-- Stripping only drops characters. -/
theorem mem_of_mem_stripBlanks {l : List α} {x : α} (hx : x ∈ stripBlanks isSpace l) : x ∈ l :=
  (List.dropWhile_sublist isSpace).subset ((List.rdropWhile_prefix isSpace _).subset hx)

/-- No field holds the separator. -/
theorem not_mem_of_mem_fields {l field : List α} (hfield : field ∈ fields isSpace sep l) :
    sep ∉ field := by
  obtain ⟨part, hpart, rfl⟩ := List.mem_map.mp (List.mem_of_mem_filter hfield)
  intro hmem
  exact not_mem_of_mem_splitOn hpart (mem_of_mem_stripBlanks hmem)

variable {pad : α}

/-- Splitting a text of padded fields: each part is one of the fields with
blanks around it. -/
theorem map_stripBlanks_splitOn (hpad : isSpace pad = true) (hne : pad ≠ sep)
    {rest : List (List α)} (hsep : ∀ field ∈ rest, sep ∉ field)
    (hstrip : ∀ field ∈ rest, stripBlanks isSpace field = field) {first : List α}
    (hfirst : sep ∉ first) :
    (List.splitOn sep (first ++ rest.flatMap (fun field => pad :: sep :: pad :: field))).map
      (stripBlanks isSpace) = stripBlanks isSpace first :: rest := by
  induction rest generalizing first with
  | nil => rw [List.flatMap_nil, List.append_nil, List.splitOn_eq_singleton hfirst]; rfl
  | cons field rest ih =>
      have hsplit : first ++ (field :: rest).flatMap (fun field => pad :: sep :: pad :: field) =
          (first ++ [pad]) ++ sep :: ((pad :: field) ++
            rest.flatMap (fun field => pad :: sep :: pad :: field)) := by
        simp
      have hfirst' : sep ∉ first ++ [pad] := by
        rw [List.mem_append, List.mem_singleton]
        rintro (hmem | heq)
        · exact hfirst hmem
        · exact hne heq.symm
      have hfield : sep ∉ pad :: field := by
        rw [List.mem_cons]
        rintro (heq | hmem)
        · exact hne heq.symm
        · exact hsep field List.mem_cons_self hmem
      rw [hsplit, List.splitOn_append_cons_self_of_not_mem hfirst', List.map_cons,
        ih (fun f hf => hsep f (List.mem_cons_of_mem _ hf))
          (fun f hf => hstrip f (List.mem_cons_of_mem _ hf)) hfield,
        stripBlanks_concat hpad, stripBlanks_cons hpad, hstrip field List.mem_cons_self]

omit [DecidableEq α] in
theorem join_eq (pad sep : α) (first : List α) (rest : List (List α)) :
    [pad, sep, pad].intercalate (first :: rest) =
      first ++ rest.flatMap (fun field => pad :: sep :: pad :: field) := by
  induction rest generalizing first with
  | nil => simp
  | cons field rest ih => rw [List.intercalate_cons_cons, ih]; simp

/-- **Fields that do not hold the separator are read back.** -/
theorem fields_join (hpad : isSpace pad = true) (hne : pad ≠ sep) {l : List (List α)}
    (hl : l ≠ []) (hsep : ∀ field ∈ l, sep ∉ field)
    (hstrip : ∀ field ∈ l, stripBlanks isSpace field = field ∧ field ≠ []) :
    fields isSpace sep ([pad, sep, pad].intercalate l) = l := by
  cases l with
  | nil => exact absurd rfl hl
  | cons first rest =>
      rw [fields, join_eq, map_stripBlanks_splitOn hpad hne
        (fun field hf => hsep field (List.mem_cons_of_mem _ hf))
        (fun field hf => (hstrip field (List.mem_cons_of_mem _ hf)).1)
        (hsep first List.mem_cons_self), (hstrip first List.mem_cons_self).1, List.filter_eq_self]
      intro field hf
      simpa using (hstrip field hf).2

end Fields

/-! ## Words -/

section Words

variable {isSpace : α → Bool}

theorem splitBlanks_nil : splitBlanks isSpace [] = [] := by
  rw [splitBlanks, List.splitOnP_nil]
  rfl

/-- A blank separates what is before it from what is after it. -/
theorem splitBlanks_append_cons (l rest : List α) {pad : α} (hpad : isSpace pad = true) :
    splitBlanks isSpace (l ++ pad :: rest) = splitBlanks isSpace l ++ splitBlanks isSpace rest := by
  rw [splitBlanks, List.splitOnP_append_cons l rest hpad, List.filter_append, splitBlanks,
    splitBlanks]

/-- A text without blanks is one word, or none. -/
theorem splitBlanks_of_forall {l : List α} (hl : ∀ x ∈ l, isSpace x = false) :
    splitBlanks isSpace l = if l = [] then [] else [l] := by
  rw [splitBlanks, List.splitOnP_eq_singleton hl]
  cases l <;> rfl

/-- A word is not empty and has no blanks. -/
def IsWord (isSpace : α → Bool) (word : List α) : Prop := word ≠ [] ∧ ∀ x ∈ word, isSpace x = false

theorem IsWord.splitBlanks {word : List α} (h : IsWord isSpace word) :
    splitBlanks isSpace word = [word] := by
  rw [splitBlanks_of_forall h.2, if_neg h.1]

/-- Splitting at the first blank. -/
theorem eq_or_exists_blank (isSpace : α → Bool) (l : List α) :
    (∀ x ∈ l, isSpace x = false) ∨
      ∃ first pad rest, l = first ++ pad :: rest ∧ isSpace pad = true ∧
        ∀ x ∈ first, isSpace x = false := by
  induction l with
  | nil => exact .inl (fun _ hx => absurd hx List.not_mem_nil)
  | cons x l ih =>
      cases hx : isSpace x with
      | true => exact .inr ⟨[], x, l, rfl, hx, fun _ h => absurd h List.not_mem_nil⟩
      | false =>
          rcases ih with hall | ⟨first, pad, rest, rfl, hpad, hfirst⟩
          · refine .inl ?_
            intro y hy
            rcases List.mem_cons.mp hy with rfl | hmem
            · exact hx
            · exact hall y hmem
          · refine .inr ⟨x :: first, pad, rest, rfl, hpad, ?_⟩
            intro y hy
            rcases List.mem_cons.mp hy with rfl | hmem
            · exact hx
            · exact hfirst y hmem

/-- **Texts, word by word**: what holds of texts without blanks and is kept when
one is put before a blank and a text holds of all texts. -/
theorem words_induction {motive : List α → Prop} (isSpace : α → Bool)
    (hlast : ∀ word, (∀ x ∈ word, isSpace x = false) → motive word)
    (hblank : ∀ first pad rest, (∀ x ∈ first, isSpace x = false) → isSpace pad = true →
      motive rest → motive (first ++ pad :: rest)) (l : List α) : motive l := by
  induction hn : l.length using Nat.strong_induction_on generalizing l with
  | _ n ih =>
      rcases eq_or_exists_blank isSpace l with hall | ⟨first, pad, rest, rfl, hpad, hfirst⟩
      · exact hlast l hall
      · rw [List.length_append, List.length_cons] at hn
        exact hblank first pad rest hfirst hpad (ih rest.length (by omega) rest rfl)

/-- The only word of a text without blanks is the text. -/
theorem eq_of_mem_splitBlanks {part word : List α} (hpart : ∀ x ∈ part, isSpace x = false)
    (hword : word ∈ splitBlanks isSpace part) : word = part ∧ part ≠ [] := by
  rw [splitBlanks_of_forall hpart] at hword
  split at hword
  · cases hword
  · rename_i hne
    exact ⟨List.mem_singleton.mp hword, hne⟩

theorem isWord_of_mem_splitBlanks {l word : List α} (hword : word ∈ splitBlanks isSpace l) :
    IsWord isSpace word := by
  induction l using words_induction isSpace with
  | hlast part hpart =>
      obtain ⟨rfl, hne⟩ := eq_of_mem_splitBlanks hpart hword
      exact ⟨hne, hpart⟩
  | hblank first pad rest hfirst hpad ih =>
      rw [splitBlanks_append_cons first rest hpad, List.mem_append] at hword
      rcases hword with hmem | hmem
      · obtain ⟨rfl, hne⟩ := eq_of_mem_splitBlanks hfirst hmem
        exact ⟨hne, hfirst⟩
      · exact ih hmem

/-- A word stands in the text before a blank or at the end. -/
theorem exists_of_mem_splitBlanks {l word : List α} (hword : word ∈ splitBlanks isSpace l) :
    ∃ before after, l = before ++ word ++ after ∧
      ∀ x, after.head? = some x → isSpace x = true := by
  induction l using words_induction isSpace with
  | hlast part hpart =>
      refine ⟨[], [], ?_, fun x hx => nomatch hx⟩
      rw [List.nil_append, List.append_nil]
      exact (eq_of_mem_splitBlanks hpart hword).1.symm
  | hblank first pad rest hfirst hpad ih =>
      rw [splitBlanks_append_cons first rest hpad, List.mem_append] at hword
      rcases hword with hmem | hmem
      · refine ⟨[], pad :: rest, ?_, ?_⟩
        · rw [List.nil_append, (eq_of_mem_splitBlanks hfirst hmem).1]
        · intro x hx
          rw [List.head?_cons, Option.some.injEq] at hx
          rw [← hx]
          exact hpad
      · obtain ⟨before, after, hrest, hafter⟩ := ih hmem
        refine ⟨first ++ pad :: before, after, ?_, hafter⟩
        rw [hrest]
        simp

/-- A word is a part of the text. -/
theorem infix_of_mem_splitBlanks {l word : List α} (hword : word ∈ splitBlanks isSpace l) :
    word <:+: l := by
  obtain ⟨before, after, hl, _⟩ := exists_of_mem_splitBlanks hword
  exact ⟨before, after, hl.symm⟩

/-- What is done to the parts between blanks one by one is done to the text. -/
theorem eq_flatMap_splitBlanks {β : Type*} {f : List α → List β} {l : List α} (hnil : f [] = [])
    (happend : ∀ first pad rest, pad ∈ l → isSpace pad = true →
      f (first ++ pad :: rest) = f first ++ f rest) : f l = (splitBlanks isSpace l).flatMap f := by
  have hlast : ∀ part : List α, (∀ x ∈ part, isSpace x = false) →
      f part = (splitBlanks isSpace part).flatMap f := by
    intro part hpart
    rw [splitBlanks_of_forall hpart]
    split
    · rename_i hempty
      rw [hempty, hnil]
      rfl
    · exact (List.flatMap_singleton _ _).symm
  induction l using words_induction isSpace with
  | hlast part hpart => exact hlast part hpart
  | hblank first pad rest hfirst hpad ih =>
      have hrest := ih (fun a x b hx => happend a x b (by simp [hx]))
      rw [splitBlanks_append_cons first rest hpad, happend first pad rest (by simp) hpad,
        List.flatMap_append, hlast first hfirst, hrest]

/-- **Joined words are read back.** -/
theorem splitBlanks_join {pad : α} (hpad : isSpace pad = true) {words : List (List α)}
    (hwords : ∀ word ∈ words, IsWord isSpace word) :
    splitBlanks isSpace ([pad].intercalate words) = words := by
  induction words with
  | nil => exact splitBlanks_nil
  | cons word words ih =>
      have hword := hwords word List.mem_cons_self
      cases words with
      | nil =>
          rw [List.intercalate_singleton]
          exact hword.splitBlanks
      | cons next words =>
          have hrest := ih (fun w hw => hwords w (List.mem_cons_of_mem _ hw))
          rw [List.intercalate_cons_cons, List.append_assoc, List.singleton_append,
            splitBlanks_append_cons _ _ hpad, hword.splitBlanks, hrest]
          rfl

/-- The characters of the words are those that are no blanks. -/
theorem flatten_splitBlanks (isSpace : α → Bool) (l : List α) :
    (splitBlanks isSpace l).flatten = l.filter (fun x => !isSpace x) := by
  have hlast : ∀ part : List α, (∀ x ∈ part, isSpace x = false) →
      (splitBlanks isSpace part).flatten = part.filter (fun x => !isSpace x) := by
    intro part hpart
    have hall : part.filter (fun x => !isSpace x) = part := by
      rw [List.filter_eq_self]
      intro x hx
      rw [hpart x hx]
      rfl
    rw [splitBlanks_of_forall hpart, hall]
    split
    · rename_i hnil
      rw [hnil]
      rfl
    · exact List.flatten_singleton
  induction l using words_induction isSpace with
  | hlast part hpart => exact hlast part hpart
  | hblank first pad rest hfirst hpad ih =>
      have hcons : (pad :: rest).filter (fun x => !isSpace x) =
          rest.filter (fun x => !isSpace x) := by
        rw [List.filter_cons, hpad]
        rfl
      rw [splitBlanks_append_cons first rest hpad, List.flatten_append, hlast first hfirst, ih,
        List.filter_append, hcons]

end Words

/-! ## Sums over parts -/

theorem countP_flatten_flatMap {β : Type*} {p : β → Bool} (parts : List α)
    (f : α → List (List β)) :
    (parts.flatMap f).flatten.countP p =
      (parts.map (fun part => (f part).flatten.countP p)).sum := by
  induction parts with
  | nil => rfl
  | cons part parts ih =>
      rw [List.flatMap_cons, List.flatten_append, List.countP_append, ih, List.map_cons,
        List.sum_cons]

/-- Sums of smaller terms are equal only if all terms are. -/
theorem eq_of_sum_map_eq {parts : List α} {f g : α → Nat} (hle : ∀ part ∈ parts, f part ≤ g part)
    (hsum : (parts.map f).sum = (parts.map g).sum) : ∀ part ∈ parts, f part = g part := by
  intro part hmem
  by_contra hne
  have hlt := List.sum_lt_sum f g hle ⟨part, hmem, lt_of_le_of_ne (hle part hmem) hne⟩
  exact absurd hsum (ne_of_lt hlt)

/-! ## Bags of tokens -/

section Overlap

variable [DecidableEq α]

/-- How many tokens two bags share, each as often as in both. -/
def overlap (xs ys : List α) : Nat := (xs.dedup.map (fun x => min (xs.count x) (ys.count x))).sum

/-- The shared tokens are the intersection of the two multisets. -/
theorem overlap_eq_card (xs ys : List α) :
    overlap xs ys = Multiset.card (↑xs ∩ ↑ys : Multiset α) := by
  have hmem : ∀ x ∈ (↑xs ∩ ↑ys : Multiset α), x ∈ xs.dedup.toFinset := by
    intro x hx
    rw [List.mem_toFinset, List.mem_dedup]
    exact (Multiset.mem_inter.mp hx).1
  rw [overlap, ← List.sum_toFinset _ (List.nodup_dedup xs), ← Multiset.sum_count_eq_card hmem]
  apply Finset.sum_congr rfl
  intro x _
  rw [Multiset.count_inter, Multiset.coe_count, Multiset.coe_count]

theorem overlap_comm (xs ys : List α) : overlap xs ys = overlap ys xs := by
  rw [overlap_eq_card, overlap_eq_card, Multiset.inter_comm]

theorem overlap_self (xs : List α) : overlap xs xs = xs.length := by
  rw [overlap_eq_card, ← Multiset.inf_eq_inter, inf_idem, Multiset.coe_card]

theorem overlap_le_left (xs ys : List α) : overlap xs ys ≤ xs.length := by
  rw [overlap_eq_card, ← Multiset.coe_card]
  exact Multiset.card_le_card Multiset.inter_le_left

theorem overlap_le_right (xs ys : List α) : overlap xs ys ≤ ys.length := by
  rw [overlap_comm]
  exact overlap_le_left ys xs

/-- **A common subsequence** is among the shared tokens. -/
theorem length_le_overlap {l xs ys : List α} (hxs : l.Sublist xs) (hys : l.Sublist ys) :
    l.length ≤ overlap xs ys := by
  rw [overlap_eq_card, ← Multiset.coe_card]
  exact Multiset.card_le_card (Multiset.le_inter hxs.subperm hys.subperm)

/-- Two bags that share the whole of both are the same. -/
theorem overlap_eq_iff {xs ys : List α} :
    overlap xs ys = xs.length ∧ overlap xs ys = ys.length ↔ xs.Perm ys := by
  constructor
  · rintro ⟨hleft, hright⟩
    rw [overlap_eq_card, ← Multiset.coe_card] at hleft hright
    have hxs : (↑xs ∩ ↑ys : Multiset α) = ↑xs :=
      Multiset.eq_of_le_of_card_le Multiset.inter_le_left hleft.ge
    have hys : (↑xs ∩ ↑ys : Multiset α) = ↑ys :=
      Multiset.eq_of_le_of_card_le Multiset.inter_le_right hright.ge
    rw [← Multiset.coe_eq_coe]
    exact hxs.symm.trans hys
  · intro hperm
    have hsame : (↑xs : Multiset α) = ↑ys := Multiset.coe_eq_coe.mpr hperm
    rw [overlap_eq_card, hsame, ← Multiset.inf_eq_inter, inf_idem, Multiset.coe_card]
    exact ⟨hperm.length_eq.symm, rfl⟩

end Overlap

end KVOrchestrator.Verified
