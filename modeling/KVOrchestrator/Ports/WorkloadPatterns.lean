import KVOrchestrator.Ports.AnswerNormalisation
import KVOrchestrator.Ports.RequestHandler
import KVOrchestrator.Verified.Regex

/-!
# Workload classification (`src/serving/request_handler.py`,
`src/feature_engineering/workload_classifier.py`)

Both classifiers take an explicit type from the task metadata, if it names one,
and otherwise search the first characters of the prompt for keyword patterns in
the order of their precision.  The patterns differ from one classifier to the
other, and so does the length from which a prompt without keywords counts as a
document; `WorkloadClassifier` asks a trained model before its patterns, if it
has one.
-/

namespace KVOrchestrator.Ports

open KVOrchestrator.Verified

/-- The Unicode tables behind `re`: besides those of `str` the characters a
letter of a pattern stands for under `re.IGNORECASE`, and the digits. -/
class PatternTables extends AsciiTables where
  sameLetter : Char → Char → Bool
  isDigit : Char → Bool
  /-- Letters of any case are characters of words, other characters stand for
  themselves. -/
  isWord_sameLetter : ∀ c letter : Char, sameLetter c letter = true → isWord c = isWord letter

/-- ASCII letters in both cases. -/
@[reducible] def asciiPatterns : PatternTables :=
  { asciiLaws with
    sameLetter := fun c letter =>
      c == letter || (c.isAlpha && letter.isAlpha && c.toLower == letter.toLower)
    isDigit := Char.isDigit
    isWord_sameLetter := by
      intro c letter h
      rw [Bool.or_eq_true, beq_iff_eq, Bool.and_eq_true, Bool.and_eq_true] at h
      rcases h with rfl | ⟨⟨hc, hletter⟩, _⟩
      · rfl
      · show (c.isAlphanum || decide (c = '_')) = (letter.isAlphanum || decide (letter = '_'))
        rw [Char.isAlphanum, Char.isAlphanum, hc, hletter]
        rfl }

/-- The patterns of a classifier, and the number of words above which a prompt
without keywords counts as a document. -/
structure KeywordPatterns where
  code : Regex Char
  multiDoc : Regex Char
  summarization : Regex Char
  dialogue : Regex Char
  structured : Regex Char
  qa : Regex Char
  longPrompt : Nat

section Patterns

variable [PatternTables]

/-- A text of a pattern, ignoring case. -/
def ignoringCase (text : String) : Regex Char :=
  Regex.literal PatternTables.sameLetter text.toList

/-- A text of a pattern as it is. -/
def exactCase (text : String) : Regex Char :=
  Regex.literal (fun c letter => c == letter) text.toList

/-- `\b(text)\b` -/
def wholeWord (text : String) : Regex Char := Regex.wholeWords [ignoringCase text]

/-- Any of the texts, ignoring case. -/
def anyOf (texts : List String) : Regex Char := Regex.alts (texts.map ignoringCase)

/-- `re.search` -/
def found (pattern : Regex Char) (text : List Char) : Bool :=
  pattern.search UnicodeTables.isWord text

/-- `\|\s*[-]+` -/
def tableRule : Regex Char :=
  Regex.seqs [ignoringCase "|", Regex.many isSpace, Regex.some (fun c => c == '-')]

namespace WorkloadRouter

def qaPatterns : Regex Char :=
  Regex.wholeWords
    [ ignoringCase "answer the question", ignoringCase "what is", ignoringCase "who is",
      ignoringCase "when did", ignoringCase "where is", ignoringCase "how many",
      Regex.seqs [ignoringCase "based on the ", anyOf ["passage", "document", "context"]],
      ignoringCase "according to" ]

def multiDocPatterns : Regex Char :=
  Regex.wholeWords
    [ Regex.seqs [ignoringCase "multiple ", anyOf ["documents", "sources", "passages"]],
      Regex.seqs [ignoringCase "across ", anyOf ["documents", "sources"]],
      ignoringCase "compare", ignoringCase "contrast", ignoringCase "both documents",
      Regex.seqs [ignoringCase "all ", anyOf ["three", "four", "five"],
        ignoringCase " documents"] ]

def summarizationPatterns : Regex Char :=
  Regex.wholeWords (["summarize", "summary", "tldr", "brief overview", "key points", "main ideas",
    "in a few sentences", "condense"].map ignoringCase)

def codePatterns : Regex Char :=
  Regex.alts
    [ ignoringCase "def ", ignoringCase "class ", ignoringCase "import ",
      Regex.seqs [ignoringCase "from ", Regex.some UnicodeTables.isWord, ignoringCase " import"],
      ignoringCase "```python", ignoringCase "```javascript", ignoringCase "function ",
      ignoringCase "public static", ignoringCase "#include", ignoringCase "package main" ]

def dialoguePatterns : Regex Char :=
  Regex.wholeWords (["conversation", "dialogue", "chat", "discussion", "said", "replied",
    "user:", "assistant:", "human:", "bot:"].map ignoringCase)

def structuredPatterns : Regex Char :=
  Regex.alts
    [ tableRule,
      Regex.seqs [Regex.start, Regex.many isSpace, Regex.some PatternTables.isDigit,
        Regex.item (fun c => c == '.' || c == ')'), Regex.item isSpace],
      wholeWord "count", wholeWord "list", wholeWord "table",
      Regex.seqs [Regex.boundary, ignoringCase "classif"],
      Regex.seqs [Regex.boundary, ignoringCase "categor"] ]

def patterns : KeywordPatterns where
  code := codePatterns
  multiDoc := multiDocPatterns
  summarization := summarizationPatterns
  dialogue := dialoguePatterns
  structured := structuredPatterns
  qa := qaPatterns
  longPrompt := 200

end WorkloadRouter

namespace WorkloadClassifier

def qaRe : Regex Char :=
  Regex.wholeWords (["answer", "what is", "who is", "when did", "where", "how many", "based on",
    "according to", "the question is", "please answer"].map ignoringCase)

def multiDocRe : Regex Char :=
  Regex.wholeWords
    [ Regex.seqs [ignoringCase "multiple ", anyOf ["documents", "sources", "passages", "texts"]],
      ignoringCase "compare", ignoringCase "contrast", ignoringCase "across documents",
      Regex.seqs [ignoringCase "all ", anyOf ["three", "four", "five"], ignoringCase " ",
        anyOf ["documents", "passages"]] ]

def sumRe : Regex Char :=
  Regex.wholeWords (["summarize", "summary", "summarise", "tldr", "tl;dr", "key points",
    "brief overview", "main ideas", "condense", "in a few sentences"].map ignoringCase)

/-- The one pattern that is case-sensitive. -/
def codeRe : Regex Char :=
  Regex.alts
    [ exactCase "def ", exactCase "class ", exactCase "import ",
      Regex.seqs [exactCase "from ", Regex.some UnicodeTables.isWord, exactCase " import "],
      Regex.seqs [exactCase "```", Regex.alts (["python", "javascript", "java", "go", "cpp", "c++",
        "rust", "ruby", "ts"].map exactCase)],
      exactCase "function ", exactCase "public static", exactCase "#include",
      exactCase "package main", Regex.wholeWords [exactCase "pip"] ]

def dialogueRe : Regex Char :=
  Regex.wholeWords (["conversation", "dialogue", "chat history", "user:", "assistant:", "human:",
    "bot:", "said", "replied", "asked"].map ignoringCase)

def structRe : Regex Char :=
  Regex.alts
    [ tableRule, wholeWord "count",
      Regex.seqs [Regex.boundary, ignoringCase "classif"],
      Regex.seqs [Regex.boundary, ignoringCase "categor"],
      Regex.seqs [Regex.boundary, ignoringCase "list ", anyOf ["all", "the"]],
      ignoringCase "tabular", wholeWord "rank",
      Regex.seqs [wholeWord "order", Regex.many (fun c => c != '\n'), wholeWord "by"] ]

def patterns : KeywordPatterns where
  code := codeRe
  multiDoc := multiDocRe
  summarization := sumRe
  dialogue := dialogueRe
  structured := structRe
  qa := qaRe
  longPrompt := 150

end WorkloadClassifier

end Patterns

/-! ## Classification -/

/-- The first 2048 characters of a prompt. -/
def excerpt (prompt : String) : List Char := prompt.toList.take 2048

/-- The type that the metadata names, under `workload_type` or another key. -/
def explicitType (key : String) (taskMetadata : Option (OrdDict String String)) :
    Option WorkloadType :=
  match taskMetadata with
  | none => none
  | some metadata =>
      let explicit :=
        if errorTruthy (metadata.get? "workload_type") then metadata.get? "workload_type"
        else metadata.get? key
      if errorTruthy explicit then explicit.bind WorkloadType.ofValue? else none

section Classify

variable [PatternTables]

/-- The keyword chain, highest precision first. -/
def KeywordPatterns.classify (p : KeywordPatterns) (excerpt : List Char) : WorkloadType :=
  if found p.code excerpt then .code
  else if found p.multiDoc excerpt then .multiDocQa
  else if found p.summarization excerpt then .summarization
  else if found p.dialogue excerpt then .dialogue
  else if found p.structured excerpt then .structuredData
  else if found p.qa excerpt then .singleDocQa
  -- very long prompts without clear signal are taken for single-document QA
  else if p.longPrompt < (splitBlanks isSpace excerpt).length then .singleDocQa
  else .unknown

/-- The router of the serving side. -/
def keywordRouter : WorkloadRouter where
  classify prompt taskMetadata :=
    match explicitType "task" taskMetadata with
    | some workload => workload
    | none => WorkloadRouter.patterns.classify (excerpt prompt)

/-- A classifier with the model it may have: what it predicts for a text, `none`
where it raises. -/
structure WorkloadClassifier where
  sklearnModel : Option (List Char → Option String) := none

/-- The most likely workload type for a prompt. -/
def WorkloadClassifier.classifyFromPrompt (classifier : WorkloadClassifier) (prompt : String)
    (taskMetadata : Option (OrdDict String String)) : WorkloadType :=
  match explicitType "task_type" taskMetadata with
  | some workload => workload
  | none =>
      let predicted := classifier.sklearnModel.bind (fun predict =>
        (predict (excerpt prompt)).bind WorkloadType.ofValue?)
      match predicted with
      | some workload => workload
      | none => WorkloadClassifier.patterns.classify (excerpt prompt)

end Classify

end KVOrchestrator.Ports
