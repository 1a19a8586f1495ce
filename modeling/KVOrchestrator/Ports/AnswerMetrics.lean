import KVOrchestrator.Ports.ReferenceAnswers

/-!
# Answer metrics (`src/evaluators/quality_metrics.py`)

`_levenshtein` is the edit distance and `_lcs_length` the length of a longest
common subsequence.  Over the tokens of two texts, F1 and ROUGE-L are the same
mean of what the texts share, once as bags and once as sequences, so ROUGE-L is
the smaller one.

Two texts without tokens have F1 and edit similarity one and ROUGE-L zero, which
is the only case in which an exact match is not a full score.
-/

namespace KVOrchestrator.Ports

open KVOrchestrator.Verified

/-! ## Tokens -/

theorem isSpace_blank : isSpace ' ' = true := by decide

/-- Words joined with blanks are read back. -/
theorem split_intercalate {words : List String}
    (hwords : ∀ word ∈ words, IsWord isSpace word.toList) :
    split (" ".intercalate words) = words := by
  have hblank : " ".toList = [' '] := by decide +kernel
  have hread : splitBlanks isSpace ([' '].intercalate (words.map String.toList)) =
      words.map String.toList := by
    apply splitBlanks_join isSpace_blank
    intro word hword
    obtain ⟨text, htext, rfl⟩ := List.mem_map.mp hword
    exact hwords text htext
  rw [split, String.toList_intercalate, hblank, hread, List.map_map]
  simp

theorem isWord_of_mem_split {text word : String} (hword : word ∈ split text) :
    IsWord isSpace word.toList := by
  obtain ⟨part, hpart, rfl⟩ := List.mem_map.mp hword
  rw [String.toList_ofList]
  exact isWord_of_mem_splitBlanks hpart

section Tokens

variable [UnicodeTables]

/-- The words that `normalize_answer` joins. -/
def answerTokens (text : String) : List String := split (normalizeAnswer text)

/-- A normal form is its tokens with a blank between them. -/
theorem normalizeAnswer_eq (text : String) :
    normalizeAnswer text = " ".intercalate (answerTokens text) := by
  rw [answerTokens, normalizeAnswer,
    split_intercalate (fun word hword => isWord_of_mem_split hword)]

theorem normalizeAnswer_eq_iff {p r : String} :
    normalizeAnswer p = normalizeAnswer r ↔ answerTokens p = answerTokens r := by
  constructor
  · intro h
    rw [answerTokens, h, answerTokens]
  · intro h
    rw [normalizeAnswer_eq, h, normalizeAnswer_eq r]

theorem answerTokens_eq_nil_iff {text : String} :
    answerTokens text = [] ↔ normalizeAnswer text = "" := by
  constructor
  · intro h
    rw [normalizeAnswer_eq, h]
    decide +kernel
  · intro h
    rw [answerTokens, h]
    decide +kernel

end Tokens

/-! ## Shares of two wholes -/

/-- The mean of one count as a share of two wholes. -/
theorem harmonicMean_share {common m n : Nat} (hm : 0 < m) (hn : 0 < n) :
    harmonicMean (common / m) (common / n) = 2 * common / (m + n) := by
  have hm' : (0 : ℚ) < m := by exact_mod_cast hm
  have hn' : (0 : ℚ) < n := by exact_mod_cast hn
  rw [harmonicMean]
  rcases Nat.eq_zero_or_pos common with rfl | hcommon
  · simp
  · have hcommon' : (0 : ℚ) < common := by exact_mod_cast hcommon
    rw [if_neg (by positivity)]
    field_simp
    ring

/-- The mean is full exactly if the shared part is the whole of both. -/
theorem share_eq_one_iff {common m n : Nat} (hm : common ≤ m) (hn : common ≤ n)
    (hpos : 0 < m + n) : 2 * (common : ℚ) / (m + n) = 1 ↔ common = m ∧ common = n := by
  have hpos' : (0 : ℚ) < (m : ℚ) + n := by exact_mod_cast hpos
  have hcount : 2 * (common : ℚ) = m + n ↔ 2 * common = m + n := by norm_cast
  rw [div_eq_one_iff_eq (ne_of_gt hpos'), hcount]
  omega

/-- A larger part is a larger share. -/
theorem share_le_share {part common m n : Nat} (h : part ≤ common) :
    2 * (part : ℚ) / (m + n) ≤ 2 * common / (m + n) := by
  have h' : (part : ℚ) ≤ common := by exact_mod_cast h
  gcongr

/-! ## F1 and ROUGE-L -/

/-- A longest common subsequence is among the shared tokens. -/
theorem commonLength_le_overlap (xs ys : List String) : commonLength xs ys ≤ overlap xs ys := by
  obtain ⟨l, hxs, hys, hlength⟩ := exists_common_sublist xs ys
  rw [← hlength]
  exact length_le_overlap hxs hys

section Shares

variable [UnicodeTables]

theorem tokenF1_eq (p r : String) :
    tokenF1 p r =
      if answerTokens p = [] ∧ answerTokens r = [] then 1
      else 2 * (overlap (answerTokens p) (answerTokens r) : ℚ) /
        ((answerTokens p).length + (answerTokens r).length) := by
  rw [tokenF1]
  dsimp only
  rw [← answerTokens, ← answerTokens]
  generalize answerTokens p = xs
  generalize answerTokens r = ys
  cases xs with
  | nil =>
      cases ys with
      | nil => rfl
      | cons y ys =>
          have hzero : overlap [] (y :: ys) = 0 := rfl
          simp [hzero]
  | cons x xs =>
      cases ys with
      | nil =>
          have hzero : overlap (x :: xs) [] = 0 := Nat.le_zero.mp (overlap_le_right _ _)
          simp [hzero]
      | cons y ys =>
          have hne : ¬(x :: xs = [] ∧ y :: ys = []) := fun h => List.cons_ne_nil x xs h.1
          rw [if_neg hne]
          exact harmonicMean_share (Nat.succ_pos _) (Nat.succ_pos _)

theorem rougeL_eq (p r : String) :
    rougeL p r = 2 * (commonLength (answerTokens p) (answerTokens r) : ℚ) /
      ((answerTokens p).length + (answerTokens r).length) := by
  rw [rougeL]
  dsimp only
  rw [← answerTokens, ← answerTokens, lcsLength_eq]
  generalize answerTokens p = xs
  generalize answerTokens r = ys
  cases xs with
  | nil =>
      rw [commonLength_nil_left]
      simp
  | cons x xs =>
      cases ys with
      | nil =>
          rw [commonLength_nil_right]
          simp
      | cons y ys => exact harmonicMean_share (Nat.succ_pos _) (Nat.succ_pos _)

theorem rougeL_nonneg (p r : String) : 0 ≤ rougeL p r := by
  rw [rougeL_eq]
  positivity

theorem rougeL_le_tokenF1 (p r : String) : rougeL p r ≤ tokenF1 p r := by
  rw [rougeL_eq, tokenF1_eq]
  split
  · rename_i hnil
    rw [hnil.1, hnil.2, commonLength_nil_left]
    norm_num
  · exact share_le_share (commonLength_le_overlap _ _)

theorem tokenF1_comm (p r : String) : tokenF1 p r = tokenF1 r p := by
  rw [tokenF1_eq, tokenF1_eq, overlap_comm, add_comm]
  simp only [and_comm]

theorem rougeL_comm (p r : String) : rougeL p r = rougeL r p := by
  rw [rougeL_eq, rougeL_eq, commonLength_comm, add_comm]

/-- F1 is full exactly for the same bag of tokens. -/
theorem tokenF1_eq_one_iff (p r : String) :
    tokenF1 p r = 1 ↔ (answerTokens p).Perm (answerTokens r) := by
  rw [tokenF1_eq]
  split
  · rename_i hnil
    rw [hnil.1, hnil.2]
    exact ⟨fun _ => List.Perm.refl _, fun _ => rfl⟩
  · rename_i hne
    have hpos : 0 < (answerTokens p).length + (answerTokens r).length := by
      by_contra hzero
      exact hne ⟨List.eq_nil_of_length_eq_zero (by omega), List.eq_nil_of_length_eq_zero (by omega)⟩
    rw [share_eq_one_iff (overlap_le_left _ _) (overlap_le_right _ _) hpos]
    exact overlap_eq_iff

/-- ROUGE-L is full exactly for the same tokens in the same order, at least one. -/
theorem rougeL_eq_one_iff (p r : String) :
    rougeL p r = 1 ↔ answerTokens p = answerTokens r ∧ answerTokens p ≠ [] := by
  rw [rougeL_eq]
  rcases Nat.eq_zero_or_pos ((answerTokens p).length + (answerTokens r).length) with hzero | hpos
  · have hp : answerTokens p = [] := List.eq_nil_of_length_eq_zero (by omega)
    rw [hp, commonLength_nil_left, Nat.cast_zero, mul_zero, zero_div]
    exact ⟨fun h => absurd h zero_ne_one, fun h => absurd rfl h.2⟩
  · have hright : commonLength (answerTokens p) (answerTokens r) ≤ (answerTokens r).length := by
      rw [commonLength_comm]
      exact commonLength_le_left _ _
    rw [share_eq_one_iff (commonLength_le_left _ _) hright hpos, commonLength_eq_iff]
    constructor
    · intro heq
      refine ⟨heq, ?_⟩
      intro hnil
      rw [← heq, hnil, List.length_nil] at hpos
      omega
    · exact And.left

end Shares

/-! ## Edit similarity -/

section Edits

variable [UnicodeTables]

theorem editSimilarity_eq (p r : String) :
    editSimilarity p r =
      1 - (levenshtein (normalizeAnswer p).toList (normalizeAnswer r).toList : ℚ) /
        max (normalizeAnswer p).toList.length (normalizeAnswer r).toList.length := by
  rw [editSimilarity]
  generalize (normalizeAnswer p).toList = a
  generalize (normalizeAnswer r).toList = b
  cases a with
  | nil =>
      cases b with
      | nil =>
          rw [levenshtein_self, Nat.cast_zero, zero_div]
          exact (sub_zero 1).symm
      | cons y b =>
          have hmax : max ([] : List Char).length (y :: b).length = (y :: b).length :=
            Nat.zero_max _
          have hne : ((y :: b).length : ℚ) ≠ 0 := Nat.cast_ne_zero.mpr (Nat.succ_ne_zero _)
          rw [levenshtein_eq, editDistance_nil_left, hmax, div_self hne]
          exact (sub_self 1).symm
  | cons x a =>
      cases b with
      | nil =>
          have hmax : max (x :: a).length ([] : List Char).length = (x :: a).length :=
            Nat.max_zero _
          have hne : ((x :: a).length : ℚ) ≠ 0 := Nat.cast_ne_zero.mpr (Nat.succ_ne_zero _)
          rw [levenshtein_eq, editDistance_nil_right, hmax, div_self hne]
          exact (sub_self 1).symm
      | cons y b => rfl

theorem editSimilarity_nonneg (p r : String) : 0 ≤ editSimilarity p r := by
  have hle := editDistance_le_max (normalizeAnswer p).toList (normalizeAnswer r).toList
  rw [editSimilarity_eq, levenshtein_eq, sub_nonneg]
  exact (share_mem_unit hle).2

theorem editSimilarity_comm (p r : String) : editSimilarity p r = editSimilarity r p := by
  rw [editSimilarity_eq, editSimilarity_eq, levenshtein_eq, levenshtein_eq, editDistance_comm,
    max_comm]

/-- Edit similarity is full exactly for the same normal form. -/
theorem editSimilarity_eq_one_iff (p r : String) :
    editSimilarity p r = 1 ↔ normalizeAnswer p = normalizeAnswer r := by
  rw [editSimilarity_eq, levenshtein_eq, sub_eq_self, div_eq_zero_iff, Nat.cast_eq_zero,
    Nat.cast_eq_zero, editDistance_eq_zero_iff, String.toList_inj]
  constructor
  · rintro (heq | hzero)
    · exact heq
    · have hp : (normalizeAnswer p).toList = [] := List.eq_nil_of_length_eq_zero (by omega)
      have hr : (normalizeAnswer r).toList = [] := List.eq_nil_of_length_eq_zero (by omega)
      rw [← String.toList_inj, hp, hr]
  · exact Or.inl

end Edits

/-! ## The distance of two texts -/

/-- **`_levenshtein` is the edit distance.**

It is the least number of insertions, deletions and substitutions of one
character that turn the first text into the second, and so a metric below the
length of the longer text.  The edit similarity is between zero and one,
symmetric, and one exactly for texts with the same normal form. -/
theorem levenshtein_edit_distance [UnicodeTables] :
    (∀ a b : List Char, IsLeast {n | Edits n a b} (levenshtein a b)) ∧
      (∀ a b : List Char, levenshtein a b = levenshtein b a ∧
        (levenshtein a b = 0 ↔ a = b) ∧ levenshtein a b ≤ max a.length b.length) ∧
      (∀ a b c : List Char, levenshtein a c ≤ levenshtein a b + levenshtein b c) ∧
      ∀ p r : String, 0 ≤ editSimilarity p r ∧ editSimilarity p r ≤ 1 ∧
        editSimilarity p r = editSimilarity r p ∧
        (editSimilarity p r = 1 ↔ normalizeAnswer p = normalizeAnswer r) := by
  simp only [levenshtein_eq]
  refine ⟨isLeast_editDistance, ?_, editDistance_triangle, ?_⟩
  · intro a b
    exact ⟨editDistance_comm a b, editDistance_eq_zero_iff, editDistance_le_max a b⟩
  · intro p r
    exact ⟨editSimilarity_nonneg p r, editSimilarity_le_one p r, editSimilarity_comm p r,
      editSimilarity_eq_one_iff p r⟩

/-! ## What two answers share -/

/-- **`_lcs_length` is the length of a longest common subsequence** of the two
token lists. -/
theorem lcsLength_longest_common (a b : List String) :
    IsGreatest {n | ∃ l : List String, l.Sublist a ∧ l.Sublist b ∧ l.length = n}
      (lcsLength a b) := by
  rw [lcsLength_eq]
  exact isGreatest_commonLength a b

/-- **ROUGE-L is at most F1.**

Both are between zero and one and symmetric.  For texts that are not empty in
normal form F1 is one exactly for the same tokens, each as often, and ROUGE-L for
the same tokens in the same order. -/
theorem rouge_l_at_most_token_f1 [UnicodeTables] (p r : String) :
    (0 ≤ rougeL p r ∧ rougeL p r ≤ tokenF1 p r ∧ tokenF1 p r ≤ 1) ∧
      (tokenF1 p r = tokenF1 r p ∧ rougeL p r = rougeL r p) ∧
      (normalizeAnswer p ≠ "" → normalizeAnswer r ≠ "" →
        (tokenF1 p r = 1 ↔
          (↑(split (normalizeAnswer p)) : Multiset String) = ↑(split (normalizeAnswer r))) ∧
        (rougeL p r = 1 ↔ split (normalizeAnswer p) = split (normalizeAnswer r))) := by
  refine ⟨⟨rougeL_nonneg p r, rougeL_le_tokenF1 p r, tokenF1_le_one p r⟩,
    ⟨tokenF1_comm p r, rougeL_comm p r⟩, ?_⟩
  intro hp _
  constructor
  · rw [Multiset.coe_eq_coe]
    exact tokenF1_eq_one_iff p r
  · have hne : answerTokens p ≠ [] := fun h => hp (answerTokens_eq_nil_iff.mp h)
    rw [rougeL_eq_one_iff, and_iff_left hne]
    exact Iff.rfl

/-- The same tokens in another order: F1 is one, ROUGE-L is not. -/
theorem rouge_l_at_most_token_f1_reordered :
    @tokenF1 asciiTables "The cat sat." "sat, cat" = 1 ∧
      @rougeL asciiTables "The cat sat." "sat, cat" ≠ 1 := by
  let _ : UnicodeTables := asciiTables
  have h := (rouge_l_at_most_token_f1 "The cat sat." "sat, cat").2.2 (by decide +kernel)
    (by decide +kernel)
  constructor
  · exact h.1.mpr (by decide +kernel)
  · rw [Ne, h.2]
    decide +kernel

/-! ## Exact matches -/

/-- **An exact match has the full score of every metric exactly if the normal
forms are not empty.**

Two texts without tokens match exactly and have F1 and edit similarity one, but
ROUGE-L zero. -/
theorem exact_match_full_scores_iff [UnicodeTables] (p r : String) :
    (exactMatch p r = 1 → tokenF1 p r = 1 ∧ rougeL p r = 1 ∧ editSimilarity p r = 1) ↔
      ¬(normalizeAnswer p = "" ∧ normalizeAnswer r = "") := by
  constructor
  · rintro hfull ⟨hp, hr⟩
    have hmatch : exactMatch p r = 1 := by rw [exactMatch, if_pos (hp.trans hr.symm)]
    have hrouge := (rougeL_eq_one_iff p r).mp (hfull hmatch).2.1
    exact hrouge.2 (answerTokens_eq_nil_iff.mpr hp)
  · intro hne hmatch
    have heq : normalizeAnswer p = normalizeAnswer r := by
      by_contra hdiff
      rw [exactMatch, if_neg hdiff] at hmatch
      exact zero_ne_one hmatch
    have htokens := normalizeAnswer_eq_iff.mp heq
    refine ⟨?_, ?_, (editSimilarity_eq_one_iff p r).mpr heq⟩
    · rw [tokenF1_eq_one_iff, htokens]
    · rw [rougeL_eq_one_iff]
      refine ⟨htokens, ?_⟩
      intro hnil
      rw [answerTokens_eq_nil_iff] at hnil
      exact hne ⟨hnil, heq ▸ hnil⟩

/-- "the" is matched by "the", but its ROUGE-L is zero. -/
theorem exact_match_without_tokens :
    @exactMatch asciiTables "the" "the" = 1 ∧
      ¬(@exactMatch asciiTables "the" "the" = 1 →
        @tokenF1 asciiTables "the" "the" = 1 ∧ @rougeL asciiTables "the" "the" = 1 ∧
          @editSimilarity asciiTables "the" "the" = 1) := by
  decide +kernel

end KVOrchestrator.Ports
