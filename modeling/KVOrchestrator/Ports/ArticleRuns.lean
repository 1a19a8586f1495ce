import KVOrchestrator.Ports.AnswerMetrics

/-!
# Article runs (`src/evaluators/quality_metrics.py`)

`normalize_answer` substitutes `\b(a|an|the)\b`.  Read from left to right, a match
starts where a run of word characters starts and ends where it ends: the
substitution puts a blank for every maximal run that is an article and keeps all
other characters (`subArticles_append_cons`, `subArticles_run`).
-/

namespace KVOrchestrator.Ports

open KVOrchestrator.Verified

/-! ## Runs of word characters -/

/-- All characters are ASCII. -/
def IsAscii (text : List Char) : Prop := ∀ c ∈ text, c.toNat < 128

instance (text : List Char) : Decidable (IsAscii text) := List.decidableBAll _ _

/-- Tables that are those of Python on ASCII characters. -/
class AsciiTables extends UnicodeTables where
  lower_ascii : ∀ text : String, IsAscii text.toList →
    lower text = String.ofList (text.toList.map Char.toLower)
  isWord_ascii : ∀ c : Char, c.toNat < 128 → isWord c = (c.isAlphanum || c = '_')

def articles : List (List Char) := [['a'], ['a', 'n'], ['t', 'h', 'e']]

/-- The text without its punctuation. -/
def removePunctuation (text : List Char) : List Char :=
  text.filter (fun c => !punctuation.toList.contains c)

section Definitions

variable [UnicodeTables]

/-- The maximal runs of word characters. -/
def wordRuns (text : List Char) : List (List Char) :=
  splitBlanks (fun c => !UnicodeTables.isWord c) text

/-- The runs that are articles. -/
def articleRuns (text : List Char) : List (List Char) :=
  (wordRuns text).filter (fun run => articles.contains run)

end Definitions

/-! ## Characters -/

section Characters

theorem toList_punctuation : punctuation.toList =
    (List.range' 33 15 ++ List.range' 58 7 ++ List.range' 91 6 ++ List.range' 123 4).map
      Char.ofNat := by
  decide +kernel

/-- The punctuation characters, by their codes. -/
theorem contains_punctuation (c : Char) :
    punctuation.toList.contains c =
      ((33 ≤ c.toNat && c.toNat ≤ 47) || (58 ≤ c.toNat && c.toNat ≤ 64) ||
        (91 ≤ c.toNat && c.toNat ≤ 96) || (123 ≤ c.toNat && c.toNat ≤ 126)) := by
  have hrange : ∀ start length, start + length < 128 →
      (c ∈ (List.range' start length).map Char.ofNat ↔
        start ≤ c.toNat ∧ c.toNat < start + length) := by
    intro start length hlt
    rw [List.mem_map]
    constructor
    · rintro ⟨n, hn, rfl⟩
      have hcode : ∀ n < 128, (Char.ofNat n).toNat = n := by decide
      rw [List.mem_range'_1] at hn
      rwa [hcode n (by omega)]
    · intro hc
      exact ⟨c.toNat, List.mem_range'_1.mpr hc, Char.ofNat_toNat c⟩
  rw [Bool.eq_iff_iff, List.contains_iff_mem, toList_punctuation, List.map_append, List.map_append,
    List.map_append, List.mem_append, List.mem_append, List.mem_append, hrange 33 15 (by decide),
    hrange 58 7 (by decide), hrange 91 6 (by decide), hrange 123 4 (by decide)]
  simp only [Bool.or_eq_true, Bool.and_eq_true, decide_eq_true_eq]
  omega

/-- What is needed of the ASCII characters. -/
structure AsciiChar (c : Char) : Prop where
  not_word_of_isSpace : isSpace c = true → (c.isAlphanum || c = '_') = false
  contains_toLower : punctuation.toList.contains c.toLower = punctuation.toList.contains c
  toLower_lt : c.toLower.toNat < 128
  toLower_toLower : c.toLower.toLower = c.toLower

theorem asciiChar {c : Char} (hc : c.toNat < 128) : AsciiChar c := by
  have hall : ∀ n < 128,
      (isSpace (Char.ofNat n) = true →
        ((Char.ofNat n).isAlphanum || Char.ofNat n = '_') = false) ∧
      punctuation.toList.contains (Char.ofNat n).toLower =
        punctuation.toList.contains (Char.ofNat n) ∧
      (Char.ofNat n).toLower.toNat < 128 ∧
      (Char.ofNat n).toLower.toLower = (Char.ofNat n).toLower := by
    simp only [contains_punctuation]
    decide +kernel
  have h := hall c.toNat hc
  rw [Char.ofNat_toNat] at h
  exact ⟨h.1, h.2.1, h.2.2.1, h.2.2.2⟩

/-- No blank is a punctuation character. -/
theorem contains_punctuation_of_isSpace {c : Char} (hc : isSpace c = true) :
    punctuation.toList.contains c = false := by
  rw [contains_punctuation]
  simp only [isSpace, Bool.or_eq_true, Bool.and_eq_true, decide_eq_true_eq] at hc
  simp only [Bool.or_eq_false_iff, Bool.and_eq_false_iff, decide_eq_false_iff_not]
  omega

/-- The characters of words: no blanks and no punctuation. -/
def isLetter (c : Char) : Bool := !isSpace c && !punctuation.toList.contains c

/-- The first letters of the articles. -/
def isOpener (c : Char) : Bool := c = 'a' || c = 't'

theorem isLetter_of_isOpener {c : Char} (hc : isOpener c = true) : isLetter c = true := by
  rw [isOpener, Bool.or_eq_true, decide_eq_true_eq, decide_eq_true_eq] at hc
  rw [isLetter, contains_punctuation]
  rcases hc with rfl | rfl <;> rfl

/-- An article is made of letters, of which one is an opener. -/
structure IsArticle (article : List Char) : Prop where
  ne_nil : article ≠ []
  ascii_word : ∀ c ∈ article, c.toNat < 128 ∧ (c.isAlphanum || c = '_') = true
  not_mark : ∀ c ∈ article, c ≠ '_'
  countP_isLetter : article.countP isLetter = article.length
  countP_isOpener : article.countP isOpener = 1
  removePunctuation_self : removePunctuation article = article

theorem isArticle {article : List Char} (harticle : article ∈ articles) : IsArticle article := by
  have hall : ∀ article ∈ articles, article ≠ [] ∧
      article.all (fun c => c.toNat < 128 && (c.isAlphanum || c = '_') && c ≠ '_') = true ∧
      article.countP isLetter = article.length ∧ article.countP isOpener = 1 ∧
      removePunctuation article = article := by
    simp only [removePunctuation, contains_punctuation]
    decide +kernel
  obtain ⟨hne, hchars, hletters, hopeners, hself⟩ := hall article harticle
  simp only [List.all_eq_true, Bool.and_eq_true, decide_eq_true_eq] at hchars
  exact ⟨hne, fun c hc => (hchars c hc).1, fun c hc => (hchars c hc).2, hletters, hopeners, hself⟩

end Characters

/-! ## Articles -/

section Articles

variable [AsciiTables]

/-- Articles are made of letters. -/
theorem isWord_of_mem_article {article : List Char} (harticle : article ∈ articles) {c : Char}
    (hc : c ∈ article) : UnicodeTables.isWord c = true := by
  obtain ⟨hascii, hword⟩ := (isArticle harticle).ascii_word c hc
  rw [AsciiTables.isWord_ascii c hascii, hword]

theorem startsWord_of_forall {run : List Char} (hrun : ∀ c ∈ run, UnicodeTables.isWord c = true)
    (hne : run ≠ []) (text : List Char) : startsWord (run ++ text) = true := by
  cases run with
  | nil => exact absurd rfl hne
  | cons c run => exact hrun c List.mem_cons_self

omit [AsciiTables] in
theorem articles_eq : articles = ["a", "an", "the"].map String.toList := by decide +kernel

/-- At the start of a run of word characters, an article is found exactly if it
is the run. -/
theorem article_at_run_iff {article run tail : List Char} (harticle : article ∈ articles)
    (hrun : ∀ c ∈ run, UnicodeTables.isWord c = true) (htail : startsWord tail = false) :
    article.isPrefixOf (run ++ tail) = true ∧
        startsWord ((run ++ tail).drop article.length) = false ↔ article = run := by
  rw [List.isPrefixOf_iff_prefix]
  constructor
  · rintro ⟨hhead, hend⟩
    rcases Nat.le_total article.length run.length with hle | hle
    · obtain ⟨rest, rfl⟩ := List.prefix_of_prefix_length_le hhead (List.prefix_append _ _) hle
      cases rest with
      | nil => exact (List.append_nil article).symm
      | cons c rest =>
          rw [List.append_assoc, List.drop_left, List.cons_append] at hend
          have hc := hrun c (by simp)
          rw [startsWord, hc] at hend
          cases hend
    · obtain ⟨rest, rfl⟩ := List.prefix_of_prefix_length_le (List.prefix_append _ _) hhead hle
      cases rest with
      | nil => exact List.append_nil run
      | cons c rest =>
          obtain ⟨after, hafter⟩ := hhead
          rw [List.append_assoc, List.append_cancel_left_eq] at hafter
          have hc := isWord_of_mem_article harticle (c := c) (by simp)
          rw [← hafter, List.cons_append, startsWord, hc] at htail
          cases htail
  · rintro rfl
    refine ⟨List.prefix_append _ _, ?_⟩
    rw [List.drop_left]
    exact htail

/-- The match at the start of a run. -/
theorem articleAt_run {run tail : List Char} (hrun : ∀ c ∈ run, UnicodeTables.isWord c = true)
    (hne : run ≠ []) (htail : startsWord tail = false) :
    articleAt false (run ++ tail) = if articles.contains run then some run.length else none := by
  have hstart := startsWord_of_forall hrun hne tail
  have hcond : ∀ article ∈ ["a", "an", "the"],
      ((article.toList.isPrefixOf (run ++ tail) && (false != startsWord (run ++ tail)) &&
        (startsWord article.toList.reverse !=
          startsWord ((run ++ tail).drop article.length))) = true ↔ article.toList = run) := by
    intro article hmem
    have harticle : article.toList ∈ articles := by
      rw [articles_eq]
      exact List.mem_map_of_mem hmem
    have hlast : startsWord article.toList.reverse = true := by
      rw [← List.append_nil article.toList.reverse]
      apply startsWord_of_forall
      · intro c hc
        exact isWord_of_mem_article harticle (List.mem_reverse.mp hc)
      · rw [Ne, List.reverse_eq_nil_iff]
        exact (isArticle harticle).ne_nil
    rw [← article_at_run_iff harticle hrun htail, hstart, hlast, ← String.length_toList]
    simp
  have ha := hcond "a" (by simp)
  have han := hcond "an" (by simp)
  have hthe := hcond "the" (by simp)
  rw [articleAt, List.findSome?_cons, List.findSome?_cons, List.findSome?_cons,
    List.findSome?_nil]
  simp only [ha, han, hthe]
  by_cases h1 : "a".toList = run
  · rw [articles_eq, ← h1]
    rfl
  · by_cases h2 : "an".toList = run
    · rw [articles_eq, ← h2]
      rfl
    · by_cases h3 : "the".toList = run
      · rw [articles_eq, ← h3]
        rfl
      · have hnone : articles.contains run = false := by
          rw [← Bool.not_eq_true, List.contains_iff_mem, articles_eq]
          simp only [List.map_cons, List.map_nil, List.mem_cons, List.not_mem_nil, or_false]
          rintro (h | h | h)
          · exact h1 h.symm
          · exact h2 h.symm
          · exact h3 h.symm
        rw [if_neg h1, if_neg h2, if_neg h3, hnone]
        rfl

/-- No article starts inside a run or at a character that is not of a word. -/
theorem articleAt_eq_none {before : Bool} {c : Char}
    (h : before = UnicodeTables.isWord c ∨ UnicodeTables.isWord c = false) (text : List Char) :
    articleAt before (c :: text) = none := by
  rw [articleAt, List.findSome?_eq_none_iff]
  intro article harticle
  apply if_neg
  intro hcond
  rw [Bool.and_eq_true, Bool.and_eq_true] at hcond
  obtain ⟨⟨hhead, hstart⟩, _⟩ := hcond
  rcases h with heq | hc
  · rw [heq, startsWord, bne_self_eq_false] at hstart
    cases hstart
  · have hmem : article.toList ∈ articles := by
      rw [articles_eq]
      exact List.mem_map_of_mem harticle
    cases hletters : article.toList with
    | nil => exact (isArticle hmem).ne_nil hletters
    | cons first letters =>
        rw [hletters, List.isPrefixOf_cons_cons, Bool.and_eq_true, beq_iff_eq] at hhead
        have hfirst := isWord_of_mem_article hmem (c := first) (by simp [hletters])
        rw [hhead.1, hc] at hfirst
        cases hfirst

/-! ## Substitution, run by run -/

/-- A run of word characters, with a blank for an article. -/
def flushRun (run : List Char) : List Char := if articles.contains run then [' '] else run

theorem subArticles_inside {run : List Char} (hrun : ∀ c ∈ run, UnicodeTables.isWord c = true)
    (tail : List Char) : subArticles true 0 (run ++ tail) = run ++ subArticles true 0 tail := by
  induction run with
  | nil => rfl
  | cons c run ih =>
      have hc := hrun c List.mem_cons_self
      rw [List.cons_append, subArticles, articleAt_eq_none (.inl hc.symm), hc]
      exact congrArg (c :: ·) (ih (fun x hx => hrun x (List.mem_cons_of_mem _ hx)))

/-- The rest of a match is skipped. -/
theorem subArticles_skip {run : List Char} (hrun : ∀ c ∈ run, UnicodeTables.isWord c = true)
    (tail : List Char) : subArticles true run.length (run ++ tail) = subArticles true 0 tail := by
  induction run with
  | nil => rfl
  | cons c run ih =>
      rw [List.length_cons, List.cons_append, subArticles, hrun c List.mem_cons_self]
      exact ih (fun x hx => hrun x (List.mem_cons_of_mem _ hx))

/-- The run at the start of a text. -/
theorem subArticles_flush {run tail : List Char}
    (hrun : ∀ c ∈ run, UnicodeTables.isWord c = true) (hne : run ≠ [])
    (htail : startsWord tail = false) :
    subArticles false 0 (run ++ tail) = flushRun run ++ subArticles true 0 tail := by
  have hmatch := articleAt_run hrun hne htail
  cases run with
  | nil => exact absurd rfl hne
  | cons c run =>
      have hc := hrun c List.mem_cons_self
      have hrest : ∀ x ∈ run, UnicodeTables.isWord x = true :=
        fun x hx => hrun x (List.mem_cons_of_mem _ hx)
      rw [List.cons_append] at hmatch ⊢
      rw [subArticles, hmatch, hc, flushRun]
      cases articles.contains (c :: run) with
      | true => exact congrArg (' ' :: ·) (subArticles_skip hrest tail)
      | false => exact congrArg (c :: ·) (subArticles_inside hrest tail)

omit [AsciiTables] in
theorem flushRun_nil : flushRun [] = [] := by decide

/-- A text that is one run. -/
theorem subArticles_run {run : List Char} (hrun : ∀ c ∈ run, UnicodeTables.isWord c = true) :
    subArticles false 0 run = flushRun run := by
  by_cases hne : run = []
  · rw [hne, flushRun_nil, subArticles]
  · have htail : startsWord ([] : List Char) = false := rfl
    have hflush := subArticles_flush hrun hne htail
    rwa [List.append_nil, subArticles, List.append_nil] at hflush

/-- A character that is not of a word ends the run before it. -/
theorem subArticles_run_append {run : List Char}
    (hrun : ∀ c ∈ run, UnicodeTables.isWord c = true) {pad : Char}
    (hpad : UnicodeTables.isWord pad = false) (rest : List Char) :
    subArticles false 0 (run ++ pad :: rest) = flushRun run ++ pad :: subArticles false 0 rest := by
  have htail : ∀ before, subArticles before 0 (pad :: rest) = pad :: subArticles false 0 rest := by
    intro before
    rw [subArticles, articleAt_eq_none (.inr hpad), hpad]
  by_cases hne : run = []
  · rw [hne, flushRun_nil, List.nil_append, List.nil_append, htail]
  · have hstop : startsWord (pad :: rest) = false := hpad
    rw [subArticles_flush hrun hne hstop, htail]

/-- **The substitution splits** at every character that is not of a word. -/
theorem subArticles_append_cons (l : List Char) {pad : Char}
    (hpad : UnicodeTables.isWord pad = false) (rest : List Char) :
    subArticles false 0 (l ++ pad :: rest) =
      subArticles false 0 l ++ pad :: subArticles false 0 rest := by
  induction l using words_induction (fun c => !UnicodeTables.isWord c) with
  | hlast run hrun =>
      have hrun' : ∀ c ∈ run, UnicodeTables.isWord c = true := by simpa using hrun
      rw [subArticles_run_append hrun' hpad, subArticles_run hrun']
  | hblank run pad' rest' hrun hpad' ih =>
      have hrun' : ∀ c ∈ run, UnicodeTables.isWord c = true := by simpa using hrun
      have hpad'' : UnicodeTables.isWord pad' = false := by simpa using hpad'
      rw [List.append_assoc, List.cons_append, subArticles_run_append hrun' hpad'', ih,
        subArticles_run_append hrun' hpad'', List.append_assoc, List.cons_append]

theorem articleRuns_append_cons (l : List Char) {pad : Char}
    (hpad : UnicodeTables.isWord pad = false) (rest : List Char) :
    articleRuns (l ++ pad :: rest) = articleRuns l ++ articleRuns rest := by
  have hbreak : (!UnicodeTables.isWord pad) = true := by rw [hpad]; rfl
  rw [articleRuns, wordRuns, splitBlanks_append_cons l rest hbreak, List.filter_append]
  rfl

theorem articleRuns_run {run : List Char} (hrun : ∀ c ∈ run, UnicodeTables.isWord c = true) :
    articleRuns run = if articles.contains run then [run] else [] := by
  have hrun' : ∀ c ∈ run, (!UnicodeTables.isWord c) = false := by simpa using hrun
  rw [articleRuns, wordRuns, splitBlanks_of_forall hrun']
  split
  · rename_i hnil
    rw [hnil]
    rfl
  · rw [List.filter_singleton]
    cases articles.contains run <;> rfl

/-- Without an article among its runs a text stays as it is. -/
theorem subArticles_eq_self {l : List Char} (h : articleRuns l = []) :
    subArticles false 0 l = l := by
  have hlast : ∀ run : List Char, (∀ c ∈ run, UnicodeTables.isWord c = true) →
      articleRuns run = [] → subArticles false 0 run = run := by
    intro run hrun hnone
    rw [articleRuns_run hrun] at hnone
    rw [subArticles_run hrun, flushRun]
    split
    · rename_i harticle
      rw [if_pos harticle] at hnone
      cases hnone
    · rfl
  induction l using words_induction (fun c => !UnicodeTables.isWord c) with
  | hlast run hrun => exact hlast run (by simpa using hrun) h
  | hblank run pad rest hrun hpad ih =>
      have hpad' : UnicodeTables.isWord pad = false := by simpa using hpad
      rw [articleRuns_append_cons run hpad', List.append_eq_nil_iff] at h
      rw [subArticles_append_cons run hpad', hlast run (by simpa using hrun) h.1, ih h.2]

/-- **What the substitution takes away**: of every kind of character but blanks,
those of the article runs. -/
theorem countP_subArticles {p : Char → Bool} (hp : p ' ' = false) (l : List Char) :
    (subArticles false 0 l).countP p + (articleRuns l).flatten.countP p = l.countP p := by
  have hlast : ∀ run : List Char, (∀ c ∈ run, UnicodeTables.isWord c = true) →
      (subArticles false 0 run).countP p + (articleRuns run).flatten.countP p = run.countP p := by
    intro run hrun
    rw [subArticles_run hrun, articleRuns_run hrun, flushRun]
    split
    · rw [List.flatten_singleton, List.countP_singleton, hp]
      exact Nat.zero_add _
    · rfl
  induction l using words_induction (fun c => !UnicodeTables.isWord c) with
  | hlast run hrun => exact hlast run (by simpa using hrun)
  | hblank run pad rest hrun hpad ih =>
      have hpad' : UnicodeTables.isWord pad = false := by simpa using hpad
      have hfirst := hlast run (by simpa using hrun)
      rw [articleRuns_append_cons run hpad', subArticles_append_cons run hpad',
        List.flatten_append, List.countP_append, List.countP_append, List.countP_append,
        List.countP_cons, List.countP_cons]
      omega

end Articles

end KVOrchestrator.Ports
