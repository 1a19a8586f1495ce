import KVOrchestrator.Ports.QualityMetrics
import KVOrchestrator.Ports.Schema

/-!
# Reference answers (`src/benchmarks/longbench.py`)

`_preprocess_sample` joins the answers of a sample with `" | "`, and `evaluate`
splits them again.  Answers are not escaped, so the references are the answers,
in order, exactly if there is one and none holds a `|` (`references_join_iff`).
A sample without answers is compared with the empty string.
-/

namespace KVOrchestrator.Ports

open KVOrchestrator.Verified

/-! ## Samples -/

def taskToWorkload : List (String × WorkloadType) :=
  [("narrativeqa", .singleDocQa), ("qasper", .singleDocQa), ("multifieldqa_en", .multiDocQa),
   ("hotpotqa", .multiDocQa), ("2wikimqa", .multiDocQa), ("musique", .multiDocQa),
   ("gov_report", .summarization), ("qmsum", .summarization), ("multi_news", .summarization),
   ("trec", .structuredData), ("triviaqa", .singleDocQa), ("samsum", .dialogue),
   ("passage_count", .structuredData), ("passage_retrieval_en", .structuredData),
   ("lcc", .code), ("repobench-p", .code)]

/-- The prompt templates, filled in. -/
def formatPrompt (workload : WorkloadType) (context input : String) : String :=
  match workload with
  | .summarization =>
      "Summarise the following text in a few sentences.\n\nText: " ++ context ++ "\n\nSummary:"
  | .code => "Complete the following code:\n\n" ++ context ++ "\n\n" ++ input
  | .dialogue =>
      "The following is a conversation. Answer the question based on it.\n\n" ++ context ++
        "\n\nQuestion: " ++ input ++ "\n\nAnswer:"
  | _ =>
      "Read the following text and answer the question.\n\nText: " ++ context ++
        "\n\nQuestion: " ++ input ++ "\n\nAnswer:"

/-- The answers of a raw sample: a list of them or one text. -/
inductive RawAnswers where
  | list (answers : List String)
  | text (answer : String)
  deriving DecidableEq, Repr

/-- A raw sample; a missing key is `none`. -/
structure RawSample where
  context : Option String := none
  input : Option String := none
  answers : Option RawAnswers := none
  answer : Option RawAnswers := none

structure Sample where
  prompt : String
  reference : String
  taskName : String
  workloadType : String
  deriving DecidableEq, Repr

/-- `sample.get("answers", sample.get("answer", ""))` -/
def RawSample.rawAnswers (sample : RawSample) : RawAnswers :=
  sample.answers.getD (sample.answer.getD (.text ""))

structure LongBenchRunner where
  maxInputTokens : Int := 31500

/-- Normalise a raw sample into a prompt and a reference. -/
def LongBenchRunner.preprocessSample (runner : LongBenchRunner) (sample : RawSample)
    (taskName : String) : Sample :=
  let ctx := sample.context.getD (sample.input.getD "")
  let question := sample.input.getD ""
  let reference :=
    match sample.rawAnswers with
    | .list answers => " | ".intercalate answers
    | .text answer => answer
  let maxChars := runner.maxInputTokens * 4
  let ctx :=
    if (ctx.length : Int) > maxChars then String.ofList (sliceTo ctx.toList maxChars) else ctx
  let workload := (taskToWorkload.lookup taskName).getD .unknown
  { prompt := formatPrompt workload ctx question
    reference := reference
    taskName := taskName
    workloadType := workload.value }

/-! ## Answers are read back -/

/-- A text that is not blank and has no blanks around it. -/
def IsAnswer (s : String) : Prop := strip s = s ∧ s ≠ ""

instance (s : String) : Decidable (IsAnswer s) := by
  unfold IsAnswer
  infer_instance

/-- The text can stand between separators. -/
def NoSeparator (s : String) : Prop := '|' ∉ s.toList

instance (s : String) : Decidable (NoSeparator s) := by
  unfold NoSeparator
  infer_instance

/-- A reference never holds the separator. -/
theorem noSeparator_of_mem_references {ref r : String} (hr : r ∈ references ref) :
    NoSeparator r := by
  rw [references] at hr
  split at hr
  · rw [List.mem_singleton] at hr
    rw [hr]
    exact List.not_mem_nil
  · obtain ⟨field, hfield, rfl⟩ := List.mem_map.mp hr
    rw [NoSeparator, String.toList_ofList]
    exact not_mem_of_mem_fields hfield

theorem references_empty : references "" = [""] := by decide +kernel

/-- Answers without a separator are the references, in order. -/
theorem references_join {answers : List String} (hne : answers ≠ [])
    (hanswer : ∀ a ∈ answers, IsAnswer a) (hsep : ∀ a ∈ answers, NoSeparator a) :
    references (" | ".intercalate answers) = answers := by
  have hfields : fields isSpace '|' (" | ".intercalate answers).toList =
      answers.map String.toList := by
    have hdelimiter : " | ".toList = [' ', '|', ' '] := by decide +kernel
    rw [String.toList_intercalate, hdelimiter]
    apply fields_join
    · decide
    · decide
    · rwa [Ne, List.map_eq_nil_iff]
    · intro field hfield
      obtain ⟨a, ha, rfl⟩ := List.mem_map.mp hfield
      exact hsep a ha
    · intro field hfield
      obtain ⟨a, ha, rfl⟩ := List.mem_map.mp hfield
      obtain ⟨hstrip, hblank⟩ := hanswer a ha
      constructor
      · rw [← String.ofList_inj, String.ofList_toList]
        exact hstrip
      · intro hnil
        apply hblank
        rw [← String.toList_inj, hnil]
        rfl
  have hmap : (answers.map String.toList).map String.ofList = answers := by simp
  have hempty : answers.isEmpty = false := by simpa using hne
  rw [references, hfields, hmap, hempty]
  rfl

/-- The references are the answers exactly if there is one and none holds the
separator. -/
theorem references_join_iff {answers : List String} (hanswer : ∀ a ∈ answers, IsAnswer a) :
    references (" | ".intercalate answers) = answers ↔
      answers ≠ [] ∧ ∀ a ∈ answers, NoSeparator a := by
  constructor
  · intro hrefs
    constructor
    · intro hnil
      exact references_ne_nil _ (hrefs.trans hnil)
    · intro a ha
      rw [← hrefs] at ha
      exact noSeparator_of_mem_references ha
  · rintro ⟨hne, hsep⟩
    exact references_join hne hanswer hsep

/-! ## Evaluation -/

namespace QualityEvaluator

variable [UnicodeTables]

/-- The metrics that give a full score to a text compared with itself. -/
theorem bestScore_self {metric : String → String → ℚ}
    (hmetric : metric ∈ [exactMatch, tokenF1, editSimilarity]) {pred ref : String}
    (hmem : pred ∈ references ref) : bestScore metric pred ref = 1 := by
  simp only [List.mem_cons, List.not_mem_nil, or_false] at hmetric
  rcases hmetric with rfl | rfl | rfl
  · exact bestScore_of_mem (exactMatch_self pred) (exactMatch_le_one pred) hmem
  · exact bestScore_of_mem (tokenF1_self pred) (tokenF1_le_one pred) hmem
  · exact bestScore_of_mem (editSimilarity_self pred) (editSimilarity_le_one pred) hmem

omit [UnicodeTables] in
/-- A mean of full scores is a full score. -/
theorem pyRound_mean_one {v : List ℚ} (hne : v ≠ []) (hv : ∀ q ∈ v, q = 1) :
    pyRound (v.sum / v.length) 4 = 1 := by
  have hsum : v.sum = v.length := by
    rw [List.eq_replicate_of_mem hv, List.sum_replicate, List.length_replicate]
    simp
  have hlength : (v.length : ℚ) ≠ 0 := by
    rw [Nat.cast_ne_zero, Ne, List.length_eq_zero_iff]
    exact hne
  rw [hsum, div_self hlength]
  decide +kernel

section Evaluate

variable {predictions refs : List String} {name : String} {metric : String → String → ℚ}
  (hmetric : metric? name = some metric) (hne : predictions.zip refs ≠ [])
  (hscores : ∀ p ∈ predictions.zip refs, bestScore metric p.1 p.2 = 1)

include hmetric hne hscores

theorem get?_addMean_self (result : OrdDict String ℚ) :
    (addMean predictions refs result name).get? name = some 1 := by
  have hv : ((predictions.zip refs).map (fun p => bestScore metric p.1 p.2)) ≠ [] := by
    rwa [Ne, List.map_eq_nil_iff]
  have hempty : ((predictions.zip refs).map
      (fun p => bestScore metric p.1 p.2)).isEmpty = false := by
    simpa using hv
  rw [addMean, hmetric]
  dsimp only
  rw [hempty, pyRound_mean_one hv]
  · exact OrdDict.get?_set_self _ _ _
  · intro q hq
    obtain ⟨p, hp, rfl⟩ := List.mem_map.mp hq
    exact hscores p hp

theorem get?_addMean_of_one {result : OrdDict String ℚ} (hone : result.get? name = some 1)
    (other : String) : (addMean predictions refs result other).get? name = some 1 := by
  by_cases hsame : other = name
  · rw [hsame]
    exact get?_addMean_self hmetric hne hscores result
  · rw [addMean]
    split
    · exact hone
    · dsimp only
      split
      · exact hone
      · rw [OrdDict.get?_set_of_ne _ (Ne.symm hsame)]
        exact hone

/-- The metrics added one after the other: one with full scores has mean one. -/
theorem get?_foldl_addMean (names : List String) (result : OrdDict String ℚ)
    (h : name ∈ names ∨ result.get? name = some 1) :
    (names.foldl (addMean predictions refs) result).get? name = some 1 := by
  induction names generalizing result with
  | nil =>
      rcases h with hmem | hone
      · cases hmem
      · exact hone
  | cons other names ih =>
      rw [List.foldl_cons]
      apply ih
      rcases h with hmem | hone
      · rcases List.mem_cons.mp hmem with rfl | hrest
        · exact .inr (get?_addMean_self hmetric hne hscores result)
        · exact .inl hrest
      · exact .inr (get?_addMean_of_one hmetric hne hscores hone other)

end Evaluate

/-- The metrics that give a full score to a text compared with itself, by name. -/
theorem metric?_of_mem {name : String} (hname : name ∈ ["em", "f1", "edit_sim"]) :
    ∃ metric ∈ [exactMatch, tokenF1, editSimilarity], metric? name = some metric := by
  simp only [List.mem_cons, List.not_mem_nil, or_false] at hname
  rcases hname with rfl | rfl | rfl
  · exact ⟨exactMatch, by simp, rfl⟩
  · exact ⟨tokenF1, by simp, rfl⟩
  · exact ⟨editSimilarity, by simp, rfl⟩

/-- A prediction that is among its references is evaluated with a full score. -/
theorem evaluate_self (ev : QualityEvaluator) {pred ref : String} (hmem : pred ∈ references ref)
    {name : String} (hname : name ∈ ["em", "f1", "edit_sim"]) (hwanted : name ∈ ev.metrics) :
    ∃ result, ev.evaluate [pred] [ref] = .ok result ∧ result.get? name = some 1 := by
  obtain ⟨metric, hmetric, hfind⟩ := metric?_of_mem hname
  refine ⟨_, rfl, ?_⟩
  apply get?_foldl_addMean hfind
  · exact List.cons_ne_nil _ _
  · intro p hp
    rw [List.zip_cons_cons, List.zip_nil_left, List.mem_singleton] at hp
    rw [hp]
    exact bestScore_self hmetric hmem
  · exact .inl hwanted

end QualityEvaluator

/-! ## Answers without a separator -/

/-- **Answers without a separator round-trip, and score in full.**

For every list of answers that are not blank, have no blanks around them and
hold no `|`: the references are the answers in order, or the empty string if
there are none.  A prediction equal to one of them has exact match, F1 and edit
similarity one, whatever the Unicode tables. -/
theorem reference_answers_round_trip [UnicodeTables] (runner : LongBenchRunner)
    (sample : RawSample) (taskName : String) {answers : List String}
    (hsample : sample.rawAnswers = .list answers) (hanswer : ∀ a ∈ answers, IsAnswer a)
    (hsep : ∀ a ∈ answers, NoSeparator a) :
    let reference := (runner.preprocessSample sample taskName).reference
    references reference = (if answers = [] then [""] else answers) ∧
      ∀ answer ∈ answers,
        (∀ metric ∈ [exactMatch, tokenF1, editSimilarity],
          QualityEvaluator.bestScore metric answer reference = 1) ∧
        ∀ ev : QualityEvaluator, ∀ name ∈ ["em", "f1", "edit_sim"], name ∈ ev.metrics →
          ∃ result, ev.evaluate [answer] [reference] = .ok result ∧
            result.get? name = some 1 := by
  have hreference : (runner.preprocessSample sample taskName).reference =
      " | ".intercalate answers := by
    rw [LongBenchRunner.preprocessSample, hsample]
  intro reference
  have hrefs : references reference = (if answers = [] then [""] else answers) := by
    show references (runner.preprocessSample sample taskName).reference = _
    rw [hreference]
    split
    · rename_i hnil
      rw [hnil]
      exact references_empty
    · rename_i hne
      exact references_join hne hanswer hsep
  refine ⟨hrefs, ?_⟩
  intro answer hmem
  have hne : answers ≠ [] := List.ne_nil_of_mem hmem
  have hmem' : answer ∈ references reference := by
    rw [hrefs, if_neg hne]
    exact hmem
  constructor
  · intro metric hmetric
    exact QualityEvaluator.bestScore_self hmetric hmem'
  · intro ev name hname hwanted
    exact ev.evaluate_self hmem' hname hwanted

/-- Tables for ASCII texts. -/
@[reducible] def asciiTables : UnicodeTables where
  lower s := String.ofList (s.toList.map Char.toLower)
  isWord c := c.isAlphanum || c = '_'

/-- Three answers, of which the second is predicted. -/
theorem reference_answers_round_trip_three :
    let reference := (LongBenchRunner.preprocessSample {}
      { answers := some (.list ["cat", "kitty", "feline"]) } "triviaqa").reference
    references reference = ["cat", "kitty", "feline"] ∧
      @QualityEvaluator.bestScore (@tokenF1 asciiTables) "kitty" reference = 1 := by
  let _ : UnicodeTables := asciiTables
  have h := reference_answers_round_trip {}
    { answers := some (.list ["cat", "kitty", "feline"]) } "triviaqa" rfl
    (by decide +kernel) (by decide +kernel)
  exact ⟨h.1, (h.2 "kitty" (by simp)).1 tokenF1 (by simp)⟩

/-- A code answer with a `|` comes back in two parts, and a sample without
answers has the empty string for a reference. -/
theorem reference_answers_not_restored :
    (IsAnswer "return a | b" ∧
      references (LongBenchRunner.preprocessSample {}
        { answers := some (.list ["return a | b"]) } "lcc").reference ≠ ["return a | b"]) ∧
      references (LongBenchRunner.preprocessSample {}
        { answers := some (.list []) } "lcc").reference ≠ [] := by
  decide +kernel

end KVOrchestrator.Ports
