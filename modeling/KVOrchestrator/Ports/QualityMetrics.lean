import KVOrchestrator.Verified.Alignment
import KVOrchestrator.Verified.Builtins
import KVOrchestrator.Verified.OrdDict
import KVOrchestrator.Verified.Text

/-!
# Answer quality (`src/evaluators/quality_metrics.py`)

A prediction is compared with each of its reference answers, and the best score
counts.  The references of a sample come as one string and are read back from it
by splitting at `|`.

A text compared with itself has the full score of every metric but ROUGE-L,
which gives nothing to a text without tokens; no score is above it.
-/

namespace KVOrchestrator.Ports

open KVOrchestrator.Verified

/-- The Unicode tables behind `str.lower` and `\w`. -/
class UnicodeTables where
  lower : String → String
  isWord : Char → Bool

/-- `str.isspace` of one character. -/
def isSpace (c : Char) : Bool :=
  let n := c.toNat
  (0x09 ≤ n && n ≤ 0x0d) || (0x1c ≤ n && n ≤ 0x20) || n = 0x85 || n = 0xa0 || n = 0x1680 ||
    (0x2000 ≤ n && n ≤ 0x200a) || n = 0x2028 || n = 0x2029 || n = 0x202f || n = 0x205f ||
    n = 0x3000

/-- `s.strip()` -/
def strip (s : String) : String := String.ofList (stripBlanks isSpace s.toList)

/-- `s.split()` -/
def split (s : String) : List String := (splitBlanks isSpace s.toList).map String.ofList

/-! ## Normalisation -/

/-- `string.punctuation` -/
def punctuation : String := "!\"#$%&'()*+,-./:;<=>?@[\\]^_`\x7b|\x7d~"

section Normalise

variable [UnicodeTables]

/-- The first character is one of a word. -/
def startsWord : List Char → Bool
  | [] => false
  | c :: _ => UnicodeTables.isWord c

/-- The length of the match of `\b(a|an|the)\b` at a position, if there is one.
`before` tells whether the character before it is one of a word. -/
def articleAt (before : Bool) (text : List Char) : Option Nat :=
  ["a", "an", "the"].findSome? (fun article =>
    if article.toList.isPrefixOf text && (before != startsWord text) &&
        (startsWord article.toList.reverse != startsWord (text.drop article.length)) then
      some article.length
    else none)

/-- `re.sub` with a blank for each article; `skip` characters belong to the last
match. -/
def subArticles : (before : Bool) → (skip : Nat) → List Char → List Char
  | _, _, [] => []
  | _, skip + 1, c :: text => subArticles (UnicodeTables.isWord c) skip text
  | before, 0, c :: text =>
      match articleAt before (c :: text) with
      | some n => ' ' :: subArticles (UnicodeTables.isWord c) (n - 1) text
      | none => c :: subArticles (UnicodeTables.isWord c) 0 text

/-- Lower-case, strip punctuation, articles, and extra whitespace. -/
def normalizeAnswer (text : String) : String :=
  let text := UnicodeTables.lower text
  let text := subArticles false 0 text.toList
  let text := text.filter (fun c => !punctuation.toList.contains c)
  " ".intercalate (split (String.ofList text))

end Normalise

/-! ## Metrics -/

/-- The harmonic mean of precision and recall. -/
def harmonicMean (precision recalled : ℚ) : ℚ :=
  if precision + recalled = 0 then 0 else 2 * precision * recalled / (precision + recalled)

/-- One row of the table of `_lcs_length`, from the column after `left` on:
`diagonal` is the entry above the one before it. -/
def lcsScan (x : String) : List String → (diagonal left : Nat) → (above : List Nat) → List Nat
  | y :: ys, diagonal, left, up :: above =>
      let entry := if x = y then diagonal + 1 else max left up
      entry :: lcsScan x ys up entry above
  | _, _, _, _ => []

/-- Dynamic-programming LCS length. -/
def lcsLength (a b : List String) : Nat :=
  let last := a.foldl (fun row x => 0 :: lcsScan x b (row.headD 0) 0 row.tail)
    (List.replicate (b.length + 1) 0)
  last.getD b.length 0

/-- One row of the table of `_levenshtein`, from the column after `left` on. -/
def editScan (x : Char) : List Char → (prev left : Nat) → (dp : List Nat) → List Nat
  | y :: ys, prev, left, temp :: dp =>
      let entry := if x = y then prev else 1 + min prev (min temp left)
      entry :: editScan x ys temp entry dp
  | _, _, _, _ => []

/-- The rows of the table, one for each character. -/
def editRows (b : List Char) : List Char → (i : Nat) → (dp : List Nat) → List Nat
  | [], _, dp => dp
  | x :: a, i, dp => editRows b a (i + 1) (i :: editScan x b (dp.headD 0) i dp.tail)

/-- Standard Levenshtein edit distance (character level). -/
def levenshtein (a b : List Char) : Nat :=
  (editRows b a 1 (List.range (b.length + 1))).getD b.length 0

section Metrics

variable [UnicodeTables]

/-- Token-level F1 score (SQuAD style). -/
def tokenF1 (prediction reference : String) : ℚ :=
  let predTokens := split (normalizeAnswer prediction)
  let refTokens := split (normalizeAnswer reference)
  if predTokens.isEmpty && refTokens.isEmpty then 1
  else if predTokens.isEmpty || refTokens.isEmpty then 0
  else
    let common := overlap predTokens refTokens
    harmonicMean (common / predTokens.length) (common / refTokens.length)

/-- 1.0 if normalised strings are identical, else 0.0. -/
def exactMatch (prediction reference : String) : ℚ :=
  if normalizeAnswer prediction = normalizeAnswer reference then 1 else 0

/-- ROUGE-L F1 using the LCS algorithm. -/
def rougeL (prediction reference : String) : ℚ :=
  let predTokens := split (normalizeAnswer prediction)
  let refTokens := split (normalizeAnswer reference)
  if predTokens.isEmpty || refTokens.isEmpty then 0
  else
    let lcsLen := lcsLength predTokens refTokens
    harmonicMean (lcsLen / predTokens.length) (lcsLen / refTokens.length)

/-- Character-level edit similarity. -/
def editSimilarity (prediction reference : String) : ℚ :=
  let a := (normalizeAnswer prediction).toList
  let b := (normalizeAnswer reference).toList
  if a.isEmpty && b.isEmpty then 1
  else if a.isEmpty || b.isEmpty then 0
  else 1 - (levenshtein a b : ℚ) / max a.length b.length

end Metrics

/-! ## The evaluator -/

/-- The reference answers in a reference string. -/
def references (ref : String) : List String :=
  let refs := (fields isSpace '|' ref.toList).map String.ofList
  if refs.isEmpty then [""] else refs

structure QualityEvaluator where
  metrics : List String := ["f1", "em", "rouge_l", "edit_sim"]

namespace QualityEvaluator

variable [UnicodeTables]

/-- The metrics `evaluate` knows. -/
def metric? : String → Option (String → String → ℚ)
  | "f1" => some tokenF1
  | "em" => some exactMatch
  | "rouge_l" => some rougeL
  | "edit_sim" => some editSimilarity
  | _ => none

/-- The score of a prediction: the best one over its references. -/
def bestScore (metric : String → String → ℚ) (pred ref : String) : ℚ :=
  maxD ((references ref).map (metric pred)) 0

/-- Add the mean score of a metric; a metric without scores is left out. -/
def addMean (predictions refs : List String) (result : OrdDict String ℚ) (name : String) :
    OrdDict String ℚ :=
  match metric? name with
  | none => result
  | some metric =>
      let v := (predictions.zip refs).map (fun p => bestScore metric p.1 p.2)
      if v.isEmpty then result else result.set name (pyRound (v.sum / v.length) 4)

/-- Evaluate a list of predictions against references. -/
def evaluate (ev : QualityEvaluator) (predictions refs : List String) :
    Except PyError (OrdDict String ℚ) :=
  if predictions.length ≠ refs.length then .error (.other "AssertionError: Length mismatch.")
  else .ok (ev.metrics.foldl (addMean predictions refs) OrdDict.empty)

end QualityEvaluator

/-! ## What the tables compute -/

theorem lcsScan_eq (x : String) (ys : List String) (diagonal left : Nat) (above : List Nat) :
    lcsScan x ys diagonal left above = scanRow commonEntry x ys diagonal left above := by
  induction ys generalizing diagonal left above with
  | nil => rfl
  | cons y ys ih =>
      cases above with
      | nil => rfl
      | cons up above => exact congrArg _ (ih up _ above)

theorem editScan_eq (x : Char) (ys : List Char) (prev left : Nat) (dp : List Nat) :
    editScan x ys prev left dp = scanRow editEntry x ys prev left dp := by
  induction ys generalizing prev left dp with
  | nil => rfl
  | cons y ys ih =>
      cases dp with
      | nil => rfl
      | cons temp dp => exact congrArg _ (ih temp _ dp)

/-- The rows after some tokens are those of the table of common lengths. -/
theorem foldl_lcsScan (b a read : List String) :
    a.foldl (fun row x => 0 :: lcsScan x b (row.headD 0) 0 row.tail)
        (tableRow commonLength read [] b) =
      tableRow commonLength (a.reverse ++ read) [] b := by
  induction a generalizing read with
  | nil => rfl
  | cons x a ih =>
      have hrow : 0 :: lcsScan x b ((tableRow commonLength read [] b).headD 0) 0
          (tableRow commonLength read [] b).tail = tableRow commonLength (x :: read) [] b := by
        have hhead : (tableRow commonLength read [] b).headD 0 = commonLength read [] := by
          rw [tableRow_eq_cons]
          rfl
        have hcons := tableRow_eq_cons commonLength (x :: read) [] b
        have hscan := scanRow_eq tableOf_commonLength x read [] b
        rw [commonLength_nil_right (x :: read)] at hcons hscan
        rw [lcsScan_eq, hhead, hscan]
        exact hcons.symm
      rw [List.foldl_cons, hrow, ih (x :: read), List.reverse_cons, List.append_assoc,
        List.singleton_append]

/-- The first row of the table of common lengths. -/
theorem tableRow_commonLength_nil (b read : List String) :
    tableRow commonLength [] read b = List.replicate (b.length + 1) 0 := by
  induction b generalizing read with
  | nil => rw [tableRow, commonLength_nil_left]; rfl
  | cons y b ih => rw [tableRow, commonLength_nil_left, ih]; rfl

/-- **The last entry** is the length of a longest common subsequence. -/
theorem lcsLength_eq (a b : List String) : lcsLength a b = commonLength a b := by
  rw [lcsLength, ← tableRow_commonLength_nil b [], foldl_lcsScan]
  show (tableRow commonLength _ [] b).getD b.length 0 = _
  rw [getD_tableRow, List.append_nil, List.append_nil, commonLength_reverse]

/-- The rows after some characters are those of the table of edit distances. -/
theorem editRows_eq (b a read : List Char) :
    editRows b a (read.length + 1) (tableRow editDistance read [] b) =
      tableRow editDistance (a.reverse ++ read) [] b := by
  induction a generalizing read with
  | nil => rfl
  | cons x a ih =>
      have hrow : (read.length + 1) ::
          editScan x b ((tableRow editDistance read [] b).headD 0) (read.length + 1)
            (tableRow editDistance read [] b).tail =
          tableRow editDistance (x :: read) [] b := by
        have hhead : (tableRow editDistance read [] b).headD 0 = editDistance read [] := by
          rw [tableRow_eq_cons]
          rfl
        have hcons := tableRow_eq_cons editDistance (x :: read) [] b
        have hscan := scanRow_eq tableOf_editDistance x read [] b
        rw [editDistance_nil_right (x :: read), List.length_cons] at hcons hscan
        rw [editScan_eq, hhead, hscan]
        exact hcons.symm
      rw [editRows, hrow]
      have hrest := ih (x :: read)
      rw [List.length_cons] at hrest
      rw [hrest, List.reverse_cons, List.append_assoc, List.singleton_append]

/-- The first row of the table of edit distances. -/
theorem tableRow_editDistance_nil (b read : List Char) :
    tableRow editDistance [] read b = List.range' read.length (b.length + 1) := by
  induction b generalizing read with
  | nil => rw [tableRow, editDistance_nil_left]; rfl
  | cons y b ih =>
      rw [tableRow, editDistance_nil_left, ih, List.length_cons, List.length_cons]
      rfl

/-- **The last entry** is the edit distance. -/
theorem levenshtein_eq (a b : List Char) : levenshtein a b = editDistance a b := by
  have hrow : List.range (b.length + 1) = tableRow editDistance [] [] b := by
    rw [tableRow_editDistance_nil, List.range_eq_range']
    rfl
  have hrows := editRows_eq b a []
  rw [List.length_nil, Nat.zero_add] at hrows
  rw [levenshtein, hrow, hrows, getD_tableRow, List.append_nil, List.append_nil,
    editDistance_reverse]

theorem levenshtein_self (a : List Char) : levenshtein a a = 0 := by
  rw [levenshtein_eq, editDistance_self]

/-! ## Scores are at most one -/

theorem harmonicMean_one : harmonicMean 1 1 = 1 := by
  rw [harmonicMean]
  norm_num

theorem harmonicMean_le_one {p r : ℚ} (hp : 0 ≤ p) (hp1 : p ≤ 1) (hr : 0 ≤ r) (hr1 : r ≤ 1) :
    harmonicMean p r ≤ 1 := by
  rw [harmonicMean]
  split
  · exact zero_le_one
  · rename_i hne
    have hpos : 0 < p + r := lt_of_le_of_ne (add_nonneg hp hr) (Ne.symm hne)
    rw [div_le_one hpos]
    nlinarith [mul_nonneg hp (sub_nonneg.mpr hr1), mul_nonneg hr (sub_nonneg.mpr hp1)]

/-- A share of a nonempty whole. -/
theorem share_mem_unit {common n : Nat} (h : common ≤ n) :
    0 ≤ (common : ℚ) / n ∧ (common : ℚ) / n ≤ 1 := by
  constructor
  · positivity
  · apply div_le_one_of_le₀
    · exact_mod_cast h
    · positivity

section Scores

variable [UnicodeTables]

theorem exactMatch_self (text : String) : exactMatch text text = 1 := if_pos rfl

theorem exactMatch_le_one (prediction reference : String) :
    exactMatch prediction reference ≤ 1 := by
  rw [exactMatch]
  split
  · exact le_refl 1
  · exact zero_le_one

theorem tokenF1_self (text : String) : tokenF1 text text = 1 := by
  rw [tokenF1]
  dsimp only
  cases htokens : split (normalizeAnswer text) with
  | nil => rfl
  | cons token tokens =>
      have hne : ((token :: tokens).length : ℚ) ≠ 0 := by
        rw [List.length_cons]
        positivity
      rw [overlap_self, div_self hne]
      exact harmonicMean_one

theorem tokenF1_le_one (prediction reference : String) : tokenF1 prediction reference ≤ 1 := by
  rw [tokenF1]
  dsimp only
  split
  · exact le_refl 1
  · split
    · exact zero_le_one
    · have hpred := share_mem_unit (overlap_le_left (split (normalizeAnswer prediction))
        (split (normalizeAnswer reference)))
      have href := share_mem_unit (overlap_le_right (split (normalizeAnswer prediction))
        (split (normalizeAnswer reference)))
      exact harmonicMean_le_one hpred.1 hpred.2 href.1 href.2

theorem editSimilarity_self (text : String) : editSimilarity text text = 1 := by
  rw [editSimilarity]
  cases hchars : (normalizeAnswer text).toList with
  | nil => rfl
  | cons c chars =>
      rw [levenshtein_self]
      simp

theorem editSimilarity_le_one (prediction reference : String) :
    editSimilarity prediction reference ≤ 1 := by
  rw [editSimilarity]
  split
  · exact le_refl 1
  · split
    · exact zero_le_one
    · apply sub_le_self
      positivity

end Scores

/-! ## The best score -/

theorem references_ne_nil (ref : String) : references ref ≠ [] := by
  rw [references]
  split
  · exact List.cons_ne_nil _ _
  · rename_i hne
    rwa [List.isEmpty_iff] at hne

namespace QualityEvaluator

/-- A prediction that is among its references has the best score a metric gives. -/
theorem bestScore_of_mem {metric : String → String → ℚ} {pred ref : String}
    (hself : metric pred pred = 1) (hle : ∀ r, metric pred r ≤ 1) (hmem : pred ∈ references ref) :
    bestScore metric pred ref = 1 := by
  apply le_antisymm
  · have hne : (references ref).map (metric pred) ≠ [] := by
      rw [Ne, List.map_eq_nil_iff]
      exact references_ne_nil ref
    obtain ⟨r, _, hr⟩ := List.mem_map.mp (maxD_mem hne 0)
    rw [bestScore, ← hr]
    exact hle r
  · rw [← hself]
    exact le_maxD (List.mem_map_of_mem hmem) 0

end QualityEvaluator

end KVOrchestrator.Ports
