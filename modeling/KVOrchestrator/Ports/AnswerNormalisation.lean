import KVOrchestrator.Ports.ArticleRuns

/-!
# Answer normalisation (`src/evaluators/quality_metrics.py`)

`normalize_answer` mirrors the normal form of SQuAD (`squadAnswer`), with two steps
the other way round: it deletes the articles first and the punctuation after
them.  An article is then a run of word characters, so one between two
punctuation marks is deleted and one with a mark in it is not.

The two are compared part by part, between blanks.  Each article has exactly one of
the letters `a` and `t`: counted in equal lists of words, they show that only
the parts that are articles lose a run (`normalWords_eq_squadWords_iff`).
-/

namespace KVOrchestrator.Ports

open KVOrchestrator.Verified

/-! ## The normal form of SQuAD -/

section Definitions

variable [UnicodeTables]

/-- Lower-case, strip punctuation, then drop the articles among the words. -/
def squadAnswer (text : String) : String :=
  let text := removePunctuation (UnicodeTables.lower text).toList
  let words := split (String.ofList text)
  " ".intercalate (words.filter (fun word => !articles.contains word.toList))

end Definitions

/-! ## Words of the two normal forms -/

section Words

theorem removePunctuation_append (l rest : List Char) :
    removePunctuation (l ++ rest) = removePunctuation l ++ removePunctuation rest :=
  List.filter_append _ _

theorem removePunctuation_cons {pad : Char} (hpad : isSpace pad = true) (rest : List Char) :
    removePunctuation (pad :: rest) = pad :: removePunctuation rest := by
  rw [removePunctuation, List.filter_cons, contains_punctuation_of_isSpace hpad]
  rfl

theorem filter_removePunctuation (l : List Char) :
    (removePunctuation l).filter (fun c => !isSpace c) = l.filter isLetter := by
  rw [removePunctuation, List.filter_filter]
  rfl

/-- The words of SQuAD's normal form. -/
def squadWords (text : List Char) : List (List Char) :=
  (splitBlanks isSpace (removePunctuation text)).filter (fun word => !articles.contains word)

theorem squadWords_eq_flatMap (text : List Char) :
    squadWords text = (splitBlanks isSpace text).flatMap squadWords := by
  apply eq_flatMap_splitBlanks
  · rfl
  · intro first pad rest _ hpad
    rw [squadWords, removePunctuation_append, removePunctuation_cons hpad,
      splitBlanks_append_cons _ _ hpad, List.filter_append]
    rfl

variable {part : List Char} (hpart : ∀ c ∈ part, isSpace c = false)

include hpart in
theorem isSpace_of_mem_removePunctuation : ∀ c ∈ removePunctuation part, isSpace c = false :=
  fun c hc => hpart c (List.mem_of_mem_filter hc)

include hpart in
/-- A part between blanks is one word for SQuAD, unless it is an article or
punctuation only. -/
theorem squadWords_part :
    squadWords part =
      if removePunctuation part = [] ∨ removePunctuation part ∈ articles then []
      else [removePunctuation part] := by
  rw [squadWords, splitBlanks_of_forall (isSpace_of_mem_removePunctuation hpart)]
  by_cases hnil : removePunctuation part = []
  · rw [if_pos hnil, if_pos (.inl hnil)]
    rfl
  · rw [if_neg hnil, List.filter_singleton]
    by_cases harticle : removePunctuation part ∈ articles
    · rw [if_pos (.inr harticle), List.contains_iff_mem.mpr harticle]
      rfl
    · have hcontains : articles.contains (removePunctuation part) = false := by
        rw [← Bool.not_eq_true, List.contains_iff_mem]
        exact harticle
      rw [if_neg (fun h => h.elim hnil harticle), hcontains]
      rfl

include hpart in
theorem countP_isLetter_part : part.countP isLetter = (removePunctuation part).length := by
  rw [List.countP_eq_length_filter, ← filter_removePunctuation, List.filter_eq_self.mpr]
  intro c hc
  rw [isSpace_of_mem_removePunctuation hpart c hc]
  rfl

theorem countP_isOpener_removePunctuation (text : List Char) :
    (removePunctuation text).countP isOpener = text.countP isOpener := by
  rw [removePunctuation, List.countP_filter]
  apply List.countP_congr
  intro c _
  rw [Bool.and_eq_true, and_iff_left_iff_imp]
  intro hc
  have hletter := isLetter_of_isOpener hc
  rw [isLetter, Bool.and_eq_true] at hletter
  exact hletter.2

include hpart in
/-- The openers of SQuAD's words: those of the part, unless it is an article. -/
theorem countP_squadWords_part :
    (squadWords part).flatten.countP isOpener =
      if removePunctuation part ∈ articles then 0 else part.countP isOpener := by
  rw [squadWords_part hpart]
  by_cases harticle : removePunctuation part ∈ articles
  · rw [if_pos (.inr harticle), if_pos harticle]
    rfl
  · rw [if_neg harticle, ← countP_isOpener_removePunctuation part]
    split
    · rename_i h
      rw [h.resolve_right harticle]
      rfl
    · rw [List.flatten_singleton]

variable [AsciiTables]

theorem isWord_of_isSpace {c : Char} (hascii : c.toNat < 128) (hc : isSpace c = true) :
    UnicodeTables.isWord c = false := by
  rw [AsciiTables.isWord_ascii c hascii]
  exact (asciiChar hascii).not_word_of_isSpace hc

/-- The words of the normal form. -/
def normalWords (text : List Char) : List (List Char) :=
  splitBlanks isSpace (removePunctuation (subArticles false 0 text))

theorem normalWords_eq_flatMap {text : List Char} (hascii : IsAscii text) :
    normalWords text = (splitBlanks isSpace text).flatMap normalWords := by
  apply eq_flatMap_splitBlanks
  · rw [normalWords, subArticles]
    exact splitBlanks_nil
  · intro first pad rest hmem hpad
    have hstop := isWord_of_isSpace (hascii pad hmem) hpad
    rw [normalWords, subArticles_append_cons first hstop, removePunctuation_append,
      removePunctuation_cons hpad, splitBlanks_append_cons _ _ hpad]
    rfl

theorem articleRuns_eq_flatMap {text : List Char} (hascii : IsAscii text) :
    articleRuns text = (splitBlanks isSpace text).flatMap articleRuns := by
  apply eq_flatMap_splitBlanks
  · rw [articleRuns, wordRuns, splitBlanks_nil]
    rfl
  · intro first pad rest hmem hpad
    exact articleRuns_append_cons first (isWord_of_isSpace (hascii pad hmem) hpad) rest

theorem flatten_normalWords (text : List Char) :
    (normalWords text).flatten = (subArticles false 0 text).filter isLetter := by
  rw [normalWords, flatten_splitBlanks, filter_removePunctuation]

theorem mem_articleRuns {text run : List Char} :
    run ∈ articleRuns text ↔ run ∈ wordRuns text ∧ run ∈ articles := by
  rw [articleRuns, List.mem_filter, List.contains_iff_mem]

/-- **The letters** of a text are those of the normal form and of its article
runs. -/
theorem countP_isLetter (text : List Char) :
    (normalWords text).flatten.length + (articleRuns text).flatten.length =
      text.countP isLetter := by
  have hruns : (articleRuns text).flatten.countP isLetter = (articleRuns text).flatten.length := by
    rw [List.countP_eq_length]
    intro c hc
    obtain ⟨run, hrun, hmem⟩ := List.mem_flatten.mp hc
    have harticle := (isArticle (mem_articleRuns.mp hrun).2).countP_isLetter
    rw [List.countP_eq_length] at harticle
    exact harticle c hmem
  have hblank : isLetter ' ' = false := rfl
  have hcount := countP_subArticles hblank text
  rwa [hruns, List.countP_eq_length_filter, ← flatten_normalWords] at hcount

/-- **The openers** of a text are those of the normal form and one for each of
its article runs. -/
theorem countP_isOpener (text : List Char) :
    (normalWords text).flatten.countP isOpener + (articleRuns text).length =
      text.countP isOpener := by
  have hruns : (articleRuns text).flatten.countP isOpener = (articleRuns text).length := by
    have hone : (articleRuns text).map (List.countP isOpener) =
        (articleRuns text).map (fun _ => 1) :=
      List.map_congr_left (fun run hrun => (isArticle (mem_articleRuns.mp hrun).2).countP_isOpener)
    rw [List.countP_flatten, hone]
    simp
  have hblank : isOpener ' ' = false := by decide
  have hcount := countP_subArticles hblank text
  have hsame : ((subArticles false 0 text).filter isLetter).countP isOpener =
      (subArticles false 0 text).countP isOpener := by
    rw [List.countP_filter]
    apply List.countP_congr
    intro c _
    rw [Bool.and_eq_true, and_iff_left_iff_imp]
    exact isLetter_of_isOpener
  rwa [hruns, ← hsame, ← flatten_normalWords] at hcount

/-! ## Parts between blanks -/

/-- An article is a run of word characters of the part exactly if it is all of
the part but punctuation. -/
def ArticlesStandAlone (part : List Char) : Prop :=
  ∀ article ∈ articles, article ∈ wordRuns part ↔ removePunctuation part = article

instance (part : List Char) : Decidable (ArticlesStandAlone part) := by
  unfold ArticlesStandAlone
  infer_instance

theorem eq_nil_of_flatten_normalWords {text : List Char} (h : (normalWords text).flatten = []) :
    normalWords text = [] := by
  rw [List.flatten_eq_nil_iff] at h
  rw [List.eq_nil_iff_forall_not_mem]
  intro word hword
  exact (isWord_of_mem_splitBlanks hword).1 (h word hword)

/-- Without an article run a part is one word, or none. -/
theorem normalWords_of_articleRuns (hruns : articleRuns part = []) :
    normalWords part = splitBlanks isSpace (removePunctuation part) := by
  rw [normalWords, subArticles_eq_self hruns]

include hpart in
/-- **Where articles stand alone** the part has the same words. -/
theorem normalWords_of_articlesStandAlone (h : ArticlesStandAlone part) :
    normalWords part = squadWords part := by
  rw [squadWords_part hpart]
  by_cases harticle : removePunctuation part ∈ articles
  · have hrun : removePunctuation part ∈ articleRuns part :=
      mem_articleRuns.mpr ⟨(h _ harticle).mpr rfl, harticle⟩
    have hlength : (removePunctuation part).length ≤ (articleRuns part).flatten.length :=
      (List.sublist_flatten_of_mem hrun).length_le
    have hcount := countP_isLetter part
    rw [countP_isLetter_part hpart] at hcount
    rw [if_pos (.inr harticle)]
    exact eq_nil_of_flatten_normalWords (List.eq_nil_of_length_eq_zero (by omega))
  · have hruns : articleRuns part = [] := by
      rw [List.eq_nil_iff_forall_not_mem]
      intro run hrun
      obtain ⟨hmem, hrunArticle⟩ := mem_articleRuns.mp hrun
      apply harticle
      rw [(h run hrunArticle).mp hmem]
      exact hrunArticle
    rw [normalWords_of_articleRuns hruns,
      splitBlanks_of_forall (isSpace_of_mem_removePunctuation hpart)]
    simp only [harticle, or_false]

include hpart in
/-- What is left of an article between blanks has no opener, if no article is
among the words. -/
theorem countP_isOpener_article (harticle : removePunctuation part ∈ articles)
    (hwords : ∀ word ∈ normalWords part, word ∉ articles) :
    (normalWords part).flatten.countP isOpener = 0 ∧ (articleRuns part).length = 1 := by
  have hruns : articleRuns part ≠ [] := by
    intro hnone
    have hone := normalWords_of_articleRuns hnone
    rw [splitBlanks_of_forall (isSpace_of_mem_removePunctuation hpart),
      if_neg ((isArticle harticle).ne_nil)] at hone
    apply hwords (removePunctuation part)
    · rw [hone]
      exact List.mem_singleton_self _
    · exact harticle
  have hpos := List.length_pos_iff.mpr hruns
  have hcount := countP_isOpener part
  rw [← countP_isOpener_removePunctuation part, (isArticle harticle).countP_isOpener] at hcount
  omega

include hpart in
/-- An article between blanks of which nothing is left stands alone. -/
theorem articlesStandAlone_of_nil (harticle : removePunctuation part ∈ articles)
    (hnil : normalWords part = []) (hone : (articleRuns part).length = 1) :
    ArticlesStandAlone part := by
  obtain ⟨run, hrun⟩ := List.length_eq_one_iff.mp hone
  have hmem : run ∈ articleRuns part := by rw [hrun]; exact List.mem_singleton_self run
  have hcount := countP_isLetter part
  rw [hnil, hrun, countP_isLetter_part hpart, List.flatten_singleton, List.flatten_nil,
    List.length_nil, Nat.zero_add] at hcount
  have hlengths : ∀ x ∈ articles, ∀ y ∈ articles, x.length = y.length → x = y := by decide
  have heq : run = removePunctuation part :=
    hlengths run (mem_articleRuns.mp hmem).2 _ harticle hcount
  intro article hmember
  constructor
  · intro hword
    have hin : article ∈ articleRuns part := mem_articleRuns.mpr ⟨hword, hmember⟩
    rw [hrun, List.mem_singleton] at hin
    rw [hin, heq]
  · intro hall
    rw [← hall, ← heq]
    exact (mem_articleRuns.mp hmem).1

/-- Without an article run, and not an article itself, a part has none alone. -/
theorem articlesStandAlone_of_articleRuns (harticle : removePunctuation part ∉ articles)
    (hnone : articleRuns part = []) : ArticlesStandAlone part := by
  intro article hmem
  constructor
  · intro hword
    have hin : article ∈ articleRuns part := mem_articleRuns.mpr ⟨hword, hmem⟩
    rw [hnone] at hin
    cases hin
  · intro hall
    rw [hall] at harticle
    exact absurd hmem harticle

/-! ## Equal words -/

section EqualWords

variable {parts : List (List Char)}
  (heq : parts.flatMap normalWords = parts.flatMap squadWords)

include heq

/-- No word of the normal form is an article then. -/
theorem not_mem_articles_of_eq :
    ∀ part ∈ parts, ∀ word ∈ normalWords part, word ∉ articles := by
  intro part hpart word hword
  have hmem : word ∈ parts.flatMap squadWords := by
    rw [← heq]
    exact List.mem_flatMap.mpr ⟨part, hpart, hword⟩
  obtain ⟨other, _, hother⟩ := List.mem_flatMap.mp hmem
  have hkept := (List.mem_filter.mp hother).2
  rwa [Bool.not_eq_true', ← Bool.not_eq_true, List.contains_iff_mem] at hkept

variable (hparts : ∀ part ∈ parts, ∀ c ∈ part, isSpace c = false)

include hparts

/-- An article between blanks has lost its opener, so the openers agree part by
part. -/
theorem countP_isOpener_eq : ∀ part ∈ parts,
    (normalWords part).flatten.countP isOpener = (squadWords part).flatten.countP isOpener := by
  have hle : ∀ part ∈ parts, (normalWords part).flatten.countP isOpener ≤
      (squadWords part).flatten.countP isOpener := by
    intro part hpart
    rw [countP_squadWords_part (hparts part hpart)]
    split
    · rename_i harticle
      exact (countP_isOpener_article (hparts part hpart) harticle
        (not_mem_articles_of_eq heq part hpart)).1.le
    · rw [← countP_isOpener part]
      exact Nat.le_add_right _ _
  apply eq_of_sum_map_eq hle
  rw [← countP_flatten_flatMap, ← countP_flatten_flatMap, heq]

/-- No other part has an article run. -/
theorem articleRuns_eq_nil_of_eq {part : List Char} (hpart : part ∈ parts)
    (harticle : removePunctuation part ∉ articles) : articleRuns part = [] := by
  have hcount := countP_isOpener part
  have hsame := countP_isOpener_eq heq hparts part hpart
  rw [countP_squadWords_part (hparts part hpart), if_neg harticle] at hsame
  exact List.eq_nil_of_length_eq_zero (by omega)

/-- An article between blanks leaves no word, so the words agree in number part
by part. -/
theorem length_normalWords_eq :
    ∀ part ∈ parts, (squadWords part).length = (normalWords part).length := by
  have hge : ∀ part ∈ parts, (squadWords part).length ≤ (normalWords part).length := by
    intro part hpart
    by_cases harticle : removePunctuation part ∈ articles
    · rw [squadWords_part (hparts part hpart), if_pos (.inr harticle)]
      exact Nat.zero_le _
    · have halone := articlesStandAlone_of_articleRuns harticle
        (articleRuns_eq_nil_of_eq heq hparts hpart harticle)
      rw [normalWords_of_articlesStandAlone (hparts part hpart) halone]
  apply eq_of_sum_map_eq hge
  rw [← List.length_flatMap, ← List.length_flatMap, heq]

theorem articlesStandAlone_of_eq {part : List Char} (hpart : part ∈ parts) :
    ArticlesStandAlone part := by
  by_cases harticle : removePunctuation part ∈ articles
  · have hlength := length_normalWords_eq heq hparts part hpart
    rw [squadWords_part (hparts part hpart), if_pos (.inr harticle)] at hlength
    exact articlesStandAlone_of_nil (hparts part hpart) harticle
      (List.eq_nil_of_length_eq_zero hlength.symm)
      (countP_isOpener_article (hparts part hpart) harticle
        (not_mem_articles_of_eq heq part hpart)).2
  · exact articlesStandAlone_of_articleRuns harticle
      (articleRuns_eq_nil_of_eq heq hparts hpart harticle)

end EqualWords

/-- **The words are SQuAD's exactly where articles stand alone.** -/
theorem normalWords_eq_squadWords_iff {text : List Char} (hascii : IsAscii text) :
    normalWords text = squadWords text ↔
      ∀ part ∈ splitBlanks isSpace text, ArticlesStandAlone part := by
  rw [normalWords_eq_flatMap hascii, squadWords_eq_flatMap]
  have hparts : ∀ part ∈ splitBlanks isSpace text, ∀ c ∈ part, isSpace c = false :=
    fun part hpart => (isWord_of_mem_splitBlanks hpart).2
  constructor
  · intro heq part hpart
    exact articlesStandAlone_of_eq heq hparts hpart
  · intro halone
    exact List.flatMap_congr (fun part hpart =>
      normalWords_of_articlesStandAlone (hparts part hpart) (halone part hpart))

end Words

/-! ## Texts and their normal forms -/

section Texts

theorem removePunctuation_map_toLower {l : List Char} (hascii : IsAscii l) :
    removePunctuation (l.map Char.toLower) = (removePunctuation l).map Char.toLower := by
  rw [removePunctuation, List.filter_map]
  congr 1
  apply List.filter_congr
  intro c hc
  exact congrArg (!·) (asciiChar (hascii c hc)).contains_toLower

theorem isAscii_map_toLower {l : List Char} (hascii : IsAscii l) :
    IsAscii (l.map Char.toLower) := by
  intro c hc
  obtain ⟨x, hx, rfl⟩ := List.mem_map.mp hc
  exact (asciiChar (hascii x hx)).toLower_lt

/-- A text with the same characters but punctuation is ASCII, too. -/
theorem isAscii_of_removePunctuation {l l' : List Char} (hascii : IsAscii l)
    (hsame : removePunctuation l' = removePunctuation l) : IsAscii l' := by
  intro c hc
  cases hmark : punctuation.toList.contains c with
  | true =>
      rw [contains_punctuation] at hmark
      simp only [Bool.or_eq_true, Bool.and_eq_true, decide_eq_true_eq] at hmark
      omega
  | false =>
      have hmem : c ∈ removePunctuation l' := List.mem_filter.mpr ⟨hc, by rw [hmark]; rfl⟩
      rw [hsame] at hmem
      exact hascii c (List.mem_of_mem_filter hmem)

theorem removePunctuation_eq_self {l : List Char}
    (h : ∀ c ∈ l, punctuation.toList.contains c = false) : removePunctuation l = l := by
  rw [removePunctuation, List.filter_eq_self]
  intro c hc
  rw [h c hc]
  rfl

theorem contains_of_mem_removePunctuation {l : List Char} {c : Char}
    (hc : c ∈ removePunctuation l) : punctuation.toList.contains c = false := by
  have hkept := (List.mem_filter.mp hc).2
  rwa [Bool.not_eq_true'] at hkept

/-- Texts that joined words stand for are the same only for the same words. -/
theorem intercalate_inj {words words' : List (List Char)}
    (h : ∀ word ∈ words, IsWord isSpace word) (h' : ∀ word ∈ words', IsWord isSpace word) :
    " ".intercalate (words.map String.ofList) = " ".intercalate (words'.map String.ofList) ↔
      words = words' := by
  have hread : ∀ words : List (List Char), (∀ word ∈ words, IsWord isSpace word) →
      split (" ".intercalate (words.map String.ofList)) = words.map String.ofList := by
    intro words hwords
    apply split_intercalate
    intro word hword
    obtain ⟨part, hpart, rfl⟩ := List.mem_map.mp hword
    rw [String.toList_ofList]
    exact hwords part hpart
  constructor
  · intro heq
    have hmaps := congrArg split heq
    rw [hread words h, hread words' h'] at hmaps
    exact List.map_injective_iff.mpr (fun _ _ hof => String.ofList_inj.mp hof) hmaps
  · intro heq
    rw [heq]

/-- No article is a part of the text without its punctuation. -/
def NoArticle (text : List Char) : Prop :=
  ∀ article ∈ articles, ¬article <:+: removePunctuation text

variable [AsciiTables]

theorem toList_lower {text : String} (hascii : IsAscii text.toList) :
    (UnicodeTables.lower text).toList = text.toList.map Char.toLower := by
  rw [AsciiTables.lower_ascii text hascii, String.toList_ofList]

theorem normalizeAnswer_eq_join (text : String) :
    normalizeAnswer text =
      " ".intercalate ((normalWords (UnicodeTables.lower text).toList).map String.ofList) := by
  rw [normalizeAnswer, split, String.toList_ofList]
  rfl

theorem squadAnswer_eq_join (text : String) :
    squadAnswer text =
      " ".intercalate ((squadWords (UnicodeTables.lower text).toList).map String.ofList) := by
  have hfilter : ∀ words : List (List Char),
      (words.map String.ofList).filter (fun word => !articles.contains word.toList) =
        (words.filter (fun word => !articles.contains word)).map String.ofList := by
    intro words
    rw [List.filter_map]
    simp only [Function.comp_def, String.toList_ofList]
  rw [squadAnswer, split, String.toList_ofList, hfilter]
  rfl

theorem isWord_of_mem_normalWords {text word : List Char} (hword : word ∈ normalWords text) :
    IsWord isSpace word := isWord_of_mem_splitBlanks hword

omit [AsciiTables] in
theorem isWord_of_mem_squadWords {text word : List Char} (hword : word ∈ squadWords text) :
    IsWord isSpace word := isWord_of_mem_splitBlanks (List.mem_of_mem_filter hword)

/-- **The normal forms are the same exactly where articles stand alone**: in
each part between blanks an article is a run of word characters only if the rest
of the part is punctuation. -/
theorem normalizeAnswer_eq_squadAnswer_iff {text : String} (hascii : IsAscii text.toList) :
    normalizeAnswer text = squadAnswer text ↔
      ∀ part ∈ splitBlanks isSpace (UnicodeTables.lower text).toList, ArticlesStandAlone part := by
  rw [normalizeAnswer_eq_join, squadAnswer_eq_join,
    intercalate_inj (fun _ h => isWord_of_mem_normalWords h)
      (fun _ h => isWord_of_mem_squadWords h)]
  apply normalWords_eq_squadWords_iff
  rw [toList_lower hascii]
  exact isAscii_map_toLower hascii

/-! ## Other punctuation -/

omit [AsciiTables] in
theorem removePunctuation_within {l l' : List Char} (h : l <:+: l') :
    removePunctuation l <:+: removePunctuation l' := h.filter _

/-- A run that is an article is a part of the text without its punctuation. -/
theorem articleRuns_eq_nil {text : List Char} (hno : NoArticle text) : articleRuns text = [] := by
  rw [List.eq_nil_iff_forall_not_mem]
  intro run hrun
  obtain ⟨hmem, harticle⟩ := mem_articleRuns.mp hrun
  have hwithin := removePunctuation_within (infix_of_mem_splitBlanks hmem)
  rw [(isArticle harticle).removePunctuation_self] at hwithin
  exact hno run harticle hwithin

/-- Without an article the words are those of the text without its punctuation. -/
theorem normalWords_of_noArticle {text : List Char} (hno : NoArticle text) :
    normalWords text = splitBlanks isSpace (removePunctuation text) :=
  normalWords_of_articleRuns (articleRuns_eq_nil hno)

omit [AsciiTables] in
theorem squadWords_of_noArticle {text : List Char} (hno : NoArticle text) :
    squadWords text = splitBlanks isSpace (removePunctuation text) := by
  rw [squadWords, List.filter_eq_self]
  intro word hword
  rw [Bool.not_eq_true', ← Bool.not_eq_true, List.contains_iff_mem]
  intro harticle
  exact hno word harticle (infix_of_mem_splitBlanks hword)

omit [AsciiTables] in
/-- The joined words of a lower-case text without its punctuation. -/
theorem toList_join (words : List (List Char)) :
    (" ".intercalate (words.map String.ofList)).toList = [' '].intercalate words := by
  have hblank : " ".toList = [' '] := by decide
  rw [String.toList_intercalate, hblank, List.map_map]
  simp [Function.comp_def]

omit [AsciiTables] in
theorem mem_intercalate {words : List (List Char)} {c : Char} (hc : c ∈ [' '].intercalate words) :
    c = ' ' ∨ ∃ word ∈ words, c ∈ word := by
  induction words with
  | nil => cases hc
  | cons word words ih =>
      cases words with
      | nil =>
          rw [List.intercalate_singleton] at hc
          exact .inr ⟨word, List.mem_singleton_self word, hc⟩
      | cons next words =>
          rw [List.intercalate_cons_cons, List.mem_append, List.mem_append,
            List.mem_singleton] at hc
          rcases hc with (hword | hblank) | hrest
          · exact .inr ⟨word, List.mem_cons_self, hword⟩
          · exact .inl hblank
          · rcases ih hrest with hblank | ⟨other, hother, hmem⟩
            · exact .inl hblank
            · exact .inr ⟨other, List.mem_cons_of_mem _ hother, hmem⟩

omit [AsciiTables] in
/-- The words of a text without articles have none. -/
theorem noArticle_of_mem {text word : List Char} (hno : NoArticle text)
    (hword : word ∈ splitBlanks isSpace (removePunctuation text)) : NoArticle word := by
  intro article harticle hwithin
  have hself : removePunctuation word = word := by
    apply removePunctuation_eq_self
    intro c hc
    exact contains_of_mem_removePunctuation ((infix_of_mem_splitBlanks hword).subset hc)
  rw [hself] at hwithin
  exact hno article harticle (hwithin.trans (infix_of_mem_splitBlanks hword))

/-- **A normal form without articles stays as it is.** -/
theorem normalizeAnswer_idempotent {text : String} (hascii : IsAscii text.toList)
    (hno : NoArticle (UnicodeTables.lower text).toList) :
    normalizeAnswer (normalizeAnswer text) = normalizeAnswer text := by
  have hwords := normalWords_of_noArticle hno
  have hjoin : (normalizeAnswer text).toList =
      [' '].intercalate (normalWords (UnicodeTables.lower text).toList) := by
    rw [normalizeAnswer_eq_join, toList_join]
  have hread : splitBlanks isSpace (normalizeAnswer text).toList =
      normalWords (UnicodeTables.lower text).toList := by
    rw [hjoin]
    exact splitBlanks_join isSpace_blank (fun word hword => isWord_of_mem_normalWords hword)
  -- its characters are blanks and lower-case letters
  have hchars : ∀ c ∈ (normalizeAnswer text).toList,
      c.toNat < 128 ∧ c.toLower = c ∧ punctuation.toList.contains c = false := by
    intro c hc
    rw [hjoin] at hc
    rcases mem_intercalate hc with rfl | ⟨word, hword, hmem⟩
    · refine ⟨by decide, by decide, contains_punctuation_of_isSpace isSpace_blank⟩
    · rw [hwords] at hword
      have hkept := (infix_of_mem_splitBlanks hword).subset hmem
      have hlower := List.mem_of_mem_filter hkept
      rw [toList_lower hascii] at hlower
      obtain ⟨x, hx, rfl⟩ := List.mem_map.mp hlower
      have hx' := asciiChar (hascii x hx)
      exact ⟨hx'.toLower_lt, hx'.toLower_toLower, contains_of_mem_removePunctuation hkept⟩
  have hascii' : IsAscii (normalizeAnswer text).toList := fun c hc => (hchars c hc).1
  have hlower : (UnicodeTables.lower (normalizeAnswer text)).toList =
      (normalizeAnswer text).toList := by
    rw [toList_lower hascii']
    exact (List.map_congr_left (fun c hc => (hchars c hc).2.1)).trans (List.map_id' _)
  have hruns : articleRuns (normalizeAnswer text).toList = [] := by
    rw [articleRuns_eq_flatMap hascii', hread, List.flatMap_eq_nil_iff]
    intro word hword
    rw [hwords] at hword
    exact articleRuns_eq_nil (noArticle_of_mem hno hword)
  rw [normalizeAnswer_eq_join (normalizeAnswer text), hlower, normalWords_of_articleRuns hruns,
    removePunctuation_eq_self (fun c hc => (hchars c hc).2.2), hread, ← normalizeAnswer_eq_join]

/-- The letters of a text do not depend on its punctuation. -/
theorem flatten_length_eq {text other : List Char}
    (hsame : removePunctuation other = removePunctuation text) :
    (normalWords other).flatten.length + (articleRuns other).flatten.length =
      (normalWords text).flatten.length + (articleRuns text).flatten.length := by
  rw [countP_isLetter, countP_isLetter, List.countP_eq_length_filter,
    List.countP_eq_length_filter, ← filter_removePunctuation, hsame, filter_removePunctuation]

omit [AsciiTables] in
/-- A mark after every character: what is no mark has one after it. -/
theorem head_eq_of_marked {q before after : List Char} {y : Char}
    (h : q.flatMap (fun c => [c, '_']) = before ++ y :: after) (hy : y ≠ '_') :
    after.head? = some '_' := by
  induction q generalizing before with
  | nil =>
      rw [List.flatMap_nil] at h
      exact absurd h.symm (List.append_ne_nil_of_right_ne_nil _ (List.cons_ne_nil _ _))
  | cons c q ih =>
      rw [List.flatMap_cons, List.cons_append, List.cons_append, List.nil_append] at h
      match before with
      | [] =>
          rw [List.nil_append] at h
          rw [← (List.cons.inj h).2]
          rfl
      | [_] => exact absurd (List.cons.inj (List.cons.inj h).2).1.symm hy
      | _ :: _ :: before => exact ih (List.cons.inj (List.cons.inj h).2).2

/-- With a mark after every character no run is an article. -/
theorem articleRuns_marked (q : List Char) : articleRuns (q.flatMap (fun c => [c, '_'])) = [] := by
  rw [List.eq_nil_iff_forall_not_mem]
  intro run hrun
  obtain ⟨hmem, harticle⟩ := mem_articleRuns.mp hrun
  obtain ⟨before, after, heq, hafter⟩ := exists_of_mem_splitBlanks hmem
  obtain ⟨front, y, rfl⟩ := (List.eq_nil_or_concat run).resolve_left (isArticle harticle).ne_nil
  have hy : y ≠ '_' := (isArticle harticle).not_mark y (by simp)
  rw [List.concat_eq_append, List.append_assoc, List.append_assoc, List.singleton_append,
    ← List.append_assoc] at heq
  have hstop := hafter '_' (head_eq_of_marked heq hy)
  rw [AsciiTables.isWord_ascii '_' (by decide)] at hstop
  cases hstop

/-- Between two points an article is a run. -/
theorem mem_articleRuns_pointed {article : List Char} (harticle : article ∈ articles)
    (before after : List Char) :
    article ∈ articleRuns (before ++ '.' :: (article ++ '.' :: after)) := by
  have hpoint : UnicodeTables.isWord '.' = false := by
    rw [AsciiTables.isWord_ascii '.' (by decide)]
    rfl
  have hword : ∀ c ∈ article, UnicodeTables.isWord c = true :=
    fun c hc => isWord_of_mem_article harticle hc
  rw [articleRuns_append_cons before hpoint, articleRuns_append_cons article hpoint,
    articleRuns_run hword, if_pos (List.contains_iff_mem.mpr harticle)]
  simp

omit [AsciiTables] in
theorem removePunctuation_marked {q : List Char} (hq : removePunctuation q = q) :
    removePunctuation (q.flatMap (fun c => [c, '_'])) = q := by
  induction q with
  | nil => rfl
  | cons c q ih =>
      have hkept : ∀ x ∈ c :: q, punctuation.toList.contains x = false := by
        rw [← hq]
        exact fun x hx => contains_of_mem_removePunctuation hx
      have hmark : punctuation.toList.contains '_' = true := by
        rw [contains_punctuation]
        rfl
      have hrest := ih (removePunctuation_eq_self (fun x hx => hkept x (List.mem_cons_of_mem _ hx)))
      rw [List.flatMap_cons, removePunctuation_append, hrest, removePunctuation, List.filter_cons,
        List.filter_cons, hkept c List.mem_cons_self, hmark]
      rfl

omit [AsciiTables] in
theorem removePunctuation_point (l rest : List Char) :
    removePunctuation (l ++ '.' :: rest) = removePunctuation l ++ removePunctuation rest := by
  have hpoint : punctuation.toList.contains '.' = true := by
    rw [contains_punctuation]
    rfl
  rw [removePunctuation_append, removePunctuation, removePunctuation, List.filter_cons, hpoint]
  rfl

/-- Texts with the same letters and the same normal form have article runs of
the same length. -/
theorem articleRuns_length_eq {p r : String} (hp : IsAscii p.toList)
    (hsame : removePunctuation r.toList = removePunctuation p.toList)
    (heq : normalizeAnswer r = normalizeAnswer p) :
    (articleRuns (UnicodeTables.lower r).toList).flatten.length =
      (articleRuns (UnicodeTables.lower p).toList).flatten.length := by
  have hr := isAscii_of_removePunctuation hp hsame
  have hlower : removePunctuation (UnicodeTables.lower r).toList =
      removePunctuation (UnicodeTables.lower p).toList := by
    rw [toList_lower hp, toList_lower hr, removePunctuation_map_toLower hp,
      removePunctuation_map_toLower hr, hsame]
  have hlength := flatten_length_eq hlower
  rw [normalizeAnswer_eq_join, normalizeAnswer_eq_join, intercalate_inj
    (fun _ h => isWord_of_mem_normalWords h) (fun _ h => isWord_of_mem_normalWords h)] at heq
  rw [heq] at hlength
  omega

/-- **With other punctuation** a text that has an article as a part of it has
another normal form. -/
theorem noArticle_of_forall {text : String} (hascii : IsAscii text.toList)
    (hall : ∀ other : String, removePunctuation other.toList = removePunctuation text.toList →
      normalizeAnswer other = normalizeAnswer text) :
    NoArticle (UnicodeTables.lower text).toList := by
  intro article harticle hwithin
  obtain ⟨before, after, hsplit⟩ := hwithin
  rw [toList_lower hascii, removePunctuation_map_toLower hascii] at hsplit
  obtain ⟨front, qafter, hq, hfront, hafter⟩ := List.map_eq_append_iff.mp hsplit.symm
  obtain ⟨qbefore, qarticle, rfl, hbefore, hmiddle⟩ := List.map_eq_append_iff.mp hfront
  have hclean : ∀ l, l <:+: removePunctuation text.toList → removePunctuation l = l := by
    intro l hl
    apply removePunctuation_eq_self
    exact fun c hc => contains_of_mem_removePunctuation (hl.subset hc)
  -- once with points around the article, once with a mark after every character
  let pointed := String.ofList (qbefore ++ '.' :: (qarticle ++ '.' :: qafter))
  let marked := String.ofList ((removePunctuation text.toList).flatMap (fun c => [c, '_']))
  have hpointed : removePunctuation pointed.toList = removePunctuation text.toList := by
    rw [String.toList_ofList, removePunctuation_point, removePunctuation_point, hq,
      List.append_assoc, hclean qbefore ⟨[], qarticle ++ qafter, by simp [hq]⟩,
      hclean qarticle ⟨qbefore, qafter, by simp [hq]⟩,
      hclean qafter ⟨qbefore ++ qarticle, [], by simp [hq]⟩]
  have hmarked : removePunctuation marked.toList = removePunctuation text.toList := by
    rw [String.toList_ofList, removePunctuation_marked (hclean _ (List.infix_refl _))]
  have hlowerPointed : (UnicodeTables.lower pointed).toList =
      before ++ '.' :: (article ++ '.' :: after) := by
    rw [toList_lower (isAscii_of_removePunctuation hascii hpointed), String.toList_ofList,
      List.map_append, List.map_cons, List.map_append, List.map_cons, hbefore, hmiddle, hafter]
    rfl
  have hlowerMarked : (UnicodeTables.lower marked).toList =
      ((removePunctuation text.toList).map Char.toLower).flatMap (fun c => [c, '_']) := by
    rw [toList_lower (isAscii_of_removePunctuation hascii hmarked), String.toList_ofList,
      List.map_flatMap, List.flatMap_map]
    rfl
  have hlength := (articleRuns_length_eq hascii hpointed (hall pointed hpointed)).trans
    (articleRuns_length_eq hascii hmarked (hall marked hmarked)).symm
  rw [hlowerPointed, hlowerMarked, articleRuns_marked] at hlength
  have hle :=
    (List.sublist_flatten_of_mem (mem_articleRuns_pointed harticle before after)).length_le
  rw [hlength] at hle
  exact (isArticle harticle).ne_nil (List.eq_nil_of_length_eq_zero (Nat.le_zero.mp hle))

/-! ## When the normal form is SQuAD's -/

/-- **Normal forms and articles.**

For an ASCII text, the normal form is SQuAD's exactly if in each part between
blanks an article is a run of word characters only where the rest of the part is
punctuation, and is such a run there.  It is SQuAD's, stays as it is when it is
normalised again and does not depend on the punctuation exactly if the
lower-case text without its punctuation has no article as a part, not even of a
longer word. -/
theorem answer_normalisation_iff {text : String} (hascii : IsAscii text.toList) :
    (normalizeAnswer text = squadAnswer text ↔
        ∀ part ∈ splitBlanks isSpace (UnicodeTables.lower text).toList,
          ArticlesStandAlone part) ∧
      ((normalizeAnswer text = squadAnswer text ∧
          normalizeAnswer (normalizeAnswer text) = normalizeAnswer text ∧
          ∀ other : String, removePunctuation other.toList = removePunctuation text.toList →
            normalizeAnswer other = normalizeAnswer text) ↔
        NoArticle (UnicodeTables.lower text).toList) := by
  refine ⟨normalizeAnswer_eq_squadAnswer_iff hascii, ?_⟩
  constructor
  · rintro ⟨_, _, hall⟩
    exact noArticle_of_forall hascii hall
  · intro hno
    refine ⟨?_, normalizeAnswer_idempotent hascii hno, ?_⟩
    · rw [normalizeAnswer_eq_join, squadAnswer_eq_join, normalWords_of_noArticle hno,
        squadWords_of_noArticle hno]
    · intro other hsame
      have hother := isAscii_of_removePunctuation hascii hsame
      have hlower : removePunctuation (UnicodeTables.lower other).toList =
          removePunctuation (UnicodeTables.lower text).toList := by
        rw [toList_lower hascii, toList_lower hother, removePunctuation_map_toLower hascii,
          removePunctuation_map_toLower hother, hsame]
      have hno' : NoArticle (UnicodeTables.lower other).toList := by
        intro article harticle
        rw [hlower]
        exact hno article harticle
      rw [normalizeAnswer_eq_join, normalizeAnswer_eq_join text, normalWords_of_noArticle hno',
        normalWords_of_noArticle hno, hlower]

end Texts

instance (text : List Char) : Decidable (NoArticle text) := by
  unfold NoArticle
  infer_instance

/-- The tables for ASCII texts are such tables. -/
@[reducible] def asciiLaws : AsciiTables :=
  { asciiTables with
    lower_ascii := fun _ _ => rfl
    isWord_ascii := fun _ _ => rfl }

/-- A text with an article and a point, and one without an article. -/
theorem answer_normalisation_iff_sentence :
    @normalizeAnswer asciiTables "The dog." = @squadAnswer asciiTables "The dog." ∧
      ∀ other : String, removePunctuation other.toList = removePunctuation "Good, dog".toList →
        @normalizeAnswer asciiTables other = @normalizeAnswer asciiTables "Good, dog" := by
  have hsentence : IsAscii "The dog.".toList := by decide +kernel
  have hword : IsAscii "Good, dog".toList := by decide +kernel
  have hparts : ∀ part ∈ splitBlanks isSpace (asciiTables.lower "The dog.").toList,
      @ArticlesStandAlone asciiLaws part := by decide +kernel
  have hno : NoArticle (asciiTables.lower "Good, dog").toList := by decide +kernel
  exact ⟨(@answer_normalisation_iff asciiLaws _ hsentence).1.mpr hparts,
    ((@answer_normalisation_iff asciiLaws _ hword).2.mpr hno).2.2⟩

/-- An abbreviation loses its `a`, which SQuAD keeps, and a spelled article is
gone only when it is normalised again. -/
theorem answer_normalisation_abbreviation :
    IsAscii "U.S.A.".toList ∧
      @normalizeAnswer asciiTables "U.S.A." ≠ @squadAnswer asciiTables "U.S.A." ∧
      @normalizeAnswer asciiTables "t.h.e" = "the" ∧ @normalizeAnswer asciiTables "the" = "" := by
  decide +kernel

end KVOrchestrator.Ports
