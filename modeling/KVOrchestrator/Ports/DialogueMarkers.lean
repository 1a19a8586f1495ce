import KVOrchestrator.Ports.WorkloadPatterns

/-!
# Role markers at word boundaries

The dialogue patterns of both classifiers put their words between word
boundaries, and four of these words are role markers that end in a colon.  A
colon is no character of a word, so behind a marker there is a boundary only if
the next character is one: `user:hello` matches and `User: hello` does not.
Such a prompt falls through to the later patterns, unless another word of the
dialogue pattern is in it (`dialogue_search_iff`).
-/

namespace KVOrchestrator.Ports

open KVOrchestrator.Verified

def roleMarkers : List String := ["user:", "assistant:", "human:", "bot:"]

section Definitions

variable [PatternTables]

/-- The text holds one of the words, in any letter case: `Around` is said of
what is before and after it. -/
def HoldsOneOf (words : List String) (Around : List Char → List Char → Prop)
    (text : List Char) : Prop :=
  ∃ word ∈ words, ∃ before run after, text = before ++ run ++ after ∧
    List.Forall₂ (fun c letter => PatternTables.sameLetter c letter = true) run word.toList ∧
    Around before after

/-- No character of a word is right before the place. -/
def OpensWord (before : List Char) : Prop :=
  Regex.endsWithWord UnicodeTables.isWord before = false

/-- A character of a word is right behind the place. -/
def BeforeWord (after : List Char) : Prop :=
  Regex.startsWithWord UnicodeTables.isWord after = true

/-- A role marker starts at a word boundary. -/
def HoldsMarker (text : List Char) : Prop :=
  HoldsOneOf roleMarkers (fun before _ => OpensWord before) text

/-- A role marker starts at a word boundary, and a character of a word follows
it. -/
def HoldsMarkerBeforeWord (text : List Char) : Prop :=
  HoldsOneOf roleMarkers (fun before after => OpensWord before ∧ BeforeWord after) text

/-- One of the words stands on its own. -/
def HoldsWord (words : List String) (text : List Char) : Prop :=
  HoldsOneOf words (fun before after => OpensWord before ∧ ¬BeforeWord after) text

/-- A prompt with a role marker that none of the patterns of higher precision
matches. -/
structure RolePrompt (p : KeywordPatterns) (text : List Char) : Prop where
  marker : HoldsMarker text
  code : found p.code text = false
  multiDoc : found p.multiDoc text = false
  summarization : found p.summarization text = false

end Definitions

/-- The other words of the router's dialogue pattern. -/
def WorkloadRouter.dialogueWords : List String :=
  ["conversation", "dialogue", "chat", "discussion", "said", "replied"]

/-- The other words of the classifier's dialogue pattern. -/
def WorkloadClassifier.dialogueWords : List String :=
  ["conversation", "dialogue", "chat history", "said", "replied", "asked"]

/-! ## Words and their ends -/

/-- `\w` on ASCII characters. -/
def asciiWord (c : Char) : Bool := c.isAlphanum || c = '_'

/-- An ASCII word that starts with a character of a word, and ends with one or
not. -/
def WordWithEnd (last : Bool) (word : List Char) : Prop :=
  word ≠ [] ∧ (∀ c ∈ word, c.toNat < 128) ∧ Regex.startsWithWord asciiWord word = true ∧
    Regex.endsWithWord asciiWord word = last

instance (last : Bool) (word : List Char) : Decidable (WordWithEnd last word) :=
  have : Decidable (∀ c ∈ word, c.toNat < 128) := List.decidableBAll _ _
  inferInstanceAs (Decidable (_ ∧ _ ∧ _ ∧ _))

theorem wordWithEnd_roleMarkers : ∀ word ∈ roleMarkers, WordWithEnd false word.toList := by
  decide +kernel

theorem wordWithEnd_dialogueWords :
    (∀ word ∈ WorkloadRouter.dialogueWords, WordWithEnd true word.toList) ∧
      ∀ word ∈ WorkloadClassifier.dialogueWords, WordWithEnd true word.toList := by
  decide +kernel

section Search

variable [PatternTables]

/-- What stands for a word in a text starts and ends as the word does. -/
theorem WordWithEnd.run {last : Bool} {word : List Char} (hword : WordWithEnd last word)
    {run : List Char}
    (hrun : List.Forall₂ (fun c letter => PatternTables.sameLetter c letter = true) run word) :
    run ≠ [] ∧ Regex.startsWithWord UnicodeTables.isWord run = true ∧
      Regex.endsWithWord UnicodeTables.isWord run = last := by
  obtain ⟨hne, hascii, hstart, hend⟩ := hword
  have hsame := Regex.map_isWord_of_same PatternTables.isWord_sameLetter hrun
  have htables : word.map UnicodeTables.isWord = word.map asciiWord :=
    List.map_congr_left (fun c hc => AsciiTables.isWord_ascii c (hascii c hc))
  refine ⟨?_, ?_, ?_⟩
  · rintro rfl
    exact hne (List.forall₂_nil_left_iff.mp hrun)
  · rw [Regex.startsWithWord_eq_of_map (hsame.trans htables), hstart]
  · rw [Regex.endsWithWord_eq_of_map (hsame.trans htables), hend]

/-- The boundaries around a word that ends in a character of a word. -/
theorem boundaries_iff {last : Bool} {word : List Char} (hword : WordWithEnd last word)
    {before run after : List Char}
    (hrun : List.Forall₂ (fun c letter => PatternTables.sameLetter c letter = true) run word) :
    (Regex.endsWithWord UnicodeTables.isWord before ≠
        Regex.startsWithWord UnicodeTables.isWord (run ++ after) ∧
      Regex.endsWithWord UnicodeTables.isWord (before ++ run) ≠
        Regex.startsWithWord UnicodeTables.isWord after) ↔
      OpensWord before ∧ (BeforeWord after ↔ last = false) := by
  obtain ⟨hne, hstart, hend⟩ := hword.run hrun
  rw [Regex.startsWithWord_append hne, Regex.endsWithWord_append before hne, hstart, hend,
    OpensWord, BeforeWord, ne_eq, Bool.not_eq_true]
  apply and_congr_right
  intro _
  cases last <;> cases Regex.startsWithWord UnicodeTables.isWord after <;> decide

/-- A word between boundaries, and what is around it. -/
theorem found_wholeWords_iff (texts : List String) (text : List Char) :
    found (Regex.wholeWords (texts.map ignoringCase)) text = true ↔
      ∃ word ∈ texts, ∃ before run after, text = before ++ run ++ after ∧
        List.Forall₂ (fun c letter => PatternTables.sameLetter c letter = true) run word.toList ∧
        Regex.endsWithWord UnicodeTables.isWord before ≠
          Regex.startsWithWord UnicodeTables.isWord (run ++ after) ∧
        Regex.endsWithWord UnicodeTables.isWord (before ++ run) ≠
          Regex.startsWithWord UnicodeTables.isWord after := by
  have hmap : texts.map ignoringCase =
      (texts.map String.toList).map (Regex.literal PatternTables.sameLetter) := by
    rw [List.map_map]
    rfl
  rw [found, hmap, Regex.search_wholeWords_iff]
  constructor
  · rintro ⟨_, hword, hmatch⟩
    obtain ⟨word, hmem, rfl⟩ := List.mem_map.mp hword
    exact ⟨word, hmem, hmatch⟩
  · rintro ⟨word, hmem, hmatch⟩
    exact ⟨word.toList, List.mem_map_of_mem hmem, hmatch⟩

/-- A dialogue pattern of role markers and other words, in any order. -/
theorem dialogue_search_iff {texts words : List String} (text : List Char)
    (htexts : texts.Perm (roleMarkers ++ words))
    (hwords : ∀ word ∈ words, WordWithEnd true word.toList) :
    found (Regex.wholeWords (texts.map ignoringCase)) text = true ↔
      HoldsMarkerBeforeWord text ∨ HoldsWord words text := by
  have hmem (word : String) : word ∈ texts ↔ word ∈ roleMarkers ∨ word ∈ words := by
    rw [htexts.mem_iff, List.mem_append]
  rw [found_wholeWords_iff]
  constructor
  · rintro ⟨word, hword, before, run, after, htext, hrun, hbounds⟩
    rcases (hmem word).mp hword with hmarker | hother
    · have hends := wordWithEnd_roleMarkers word hmarker
      obtain ⟨hopens, hafter⟩ := (boundaries_iff hends hrun).mp hbounds
      exact .inl ⟨word, hmarker, before, run, after, htext, hrun, hopens, hafter.mpr rfl⟩
    · obtain ⟨hopens, hafter⟩ := (boundaries_iff (hwords word hother) hrun).mp hbounds
      have hnot : ¬BeforeWord after := fun h => absurd (hafter.mp h) (by decide)
      exact .inr ⟨word, hother, before, run, after, htext, hrun, hopens, hnot⟩
  · rintro (⟨word, hmarker, before, run, after, htext, hrun, hopens, hafter⟩ |
      ⟨word, hother, before, run, after, htext, hrun, hopens, hafter⟩)
    · refine ⟨word, (hmem word).mpr (.inl hmarker), before, run, after, htext, hrun, ?_⟩
      apply (boundaries_iff (wordWithEnd_roleMarkers word hmarker) hrun).mpr
      exact ⟨hopens, iff_of_true hafter rfl⟩
    · refine ⟨word, (hmem word).mpr (.inr hother), before, run, after, htext, hrun, ?_⟩
      apply (boundaries_iff (hwords word hother) hrun).mpr
      exact ⟨hopens, iff_of_false hafter (by decide)⟩

/-- Behind the patterns of higher precision only the dialogue pattern means
dialogue. -/
theorem KeywordPatterns.classify_eq_dialogue_iff {p : KeywordPatterns} {text : List Char}
    (h : RolePrompt p text) : p.classify text = .dialogue ↔ found p.dialogue text = true := by
  rw [KeywordPatterns.classify, h.code, h.multiDoc, h.summarization, if_neg Bool.false_ne_true,
    if_neg Bool.false_ne_true, if_neg Bool.false_ne_true]
  cases found p.dialogue text with
  | true => exact iff_of_true rfl rfl
  | false =>
      refine iff_of_false ?_ Bool.false_ne_true
      rw [if_neg Bool.false_ne_true]
      split
      · decide
      · split
        · decide
        · split <;> decide

end Search

/-! ## The two classifiers -/

/-- There is no metadata, or it is empty. -/
def NoMetadata (taskMetadata : Option (OrdDict String String)) : Prop :=
  taskMetadata = none ∨ taskMetadata = some OrdDict.empty

theorem explicitType_of_noMetadata {taskMetadata : Option (OrdDict String String)}
    (h : NoMetadata taskMetadata) (key : String) : explicitType key taskMetadata = none := by
  rcases h with rfl | rfl
  · rfl
  · rfl

/-- **Role markers and dialogues.**

A prompt without metadata that has a role marker at a word boundary and none of
the patterns of higher precision is a dialogue for the router, and for the
classifier without a model, exactly if the next character after such a marker is
one of a word, or another word of the dialogue pattern stands in the prompt. -/
theorem role_markers_iff [PatternTables] (prompt : String)
    {taskMetadata : Option (OrdDict String String)} (hmetadata : NoMetadata taskMetadata) :
    (RolePrompt WorkloadRouter.patterns (excerpt prompt) →
      (keywordRouter.classify prompt taskMetadata = .dialogue ↔
        HoldsMarkerBeforeWord (excerpt prompt) ∨
          HoldsWord WorkloadRouter.dialogueWords (excerpt prompt))) ∧
    (RolePrompt WorkloadClassifier.patterns (excerpt prompt) →
      (WorkloadClassifier.classifyFromPrompt {} prompt taskMetadata = .dialogue ↔
        HoldsMarkerBeforeWord (excerpt prompt) ∨
          HoldsWord WorkloadClassifier.dialogueWords (excerpt prompt))) := by
  obtain ⟨hrouter, hclassifier⟩ := wordWithEnd_dialogueWords
  constructor
  · intro h
    have hsearch : found WorkloadRouter.dialoguePatterns (excerpt prompt) = true ↔
        HoldsMarkerBeforeWord (excerpt prompt) ∨
          HoldsWord WorkloadRouter.dialogueWords (excerpt prompt) :=
      dialogue_search_iff _ (by decide) hrouter
    simp only [keywordRouter, explicitType_of_noMetadata hmetadata]
    exact (KeywordPatterns.classify_eq_dialogue_iff h).trans hsearch
  · intro h
    have hsearch : found WorkloadClassifier.dialogueRe (excerpt prompt) = true ↔
        HoldsMarkerBeforeWord (excerpt prompt) ∨
          HoldsWord WorkloadClassifier.dialogueWords (excerpt prompt) :=
      dialogue_search_iff _ (by decide) hclassifier
    rw [WorkloadClassifier.classifyFromPrompt, explicitType_of_noMetadata hmetadata]
    exact (KeywordPatterns.classify_eq_dialogue_iff h).trans hsearch

/-! ## A marker before a blank -/

/-- A text that starts with a marker. -/
theorem holdsOneOf_user {Around : List Char → List Char → Prop} {rest : List Char}
    (haround : Around [] rest) :
    @HoldsOneOf asciiPatterns roleMarkers Around ('U' :: 's' :: 'e' :: 'r' :: ':' :: rest) := by
  let _ : PatternTables := asciiPatterns
  have hmarker : "user:".toList = ['u', 's', 'e', 'r', ':'] := by decide
  refine ⟨"user:", List.mem_cons_self, [], ['U', 's', 'e', 'r', ':'], rest, rfl, ?_, haround⟩
  rw [hmarker]
  exact .cons rfl (.cons rfl (.cons rfl (.cons rfl (.cons rfl .nil))))

theorem rolePrompt_user {text : List Char} {rest : List Char}
    (htext : text = 'U' :: 's' :: 'e' :: 'r' :: ':' :: rest) {p : KeywordPatterns}
    (hother : (@found asciiPatterns p.code text || @found asciiPatterns p.multiDoc text ||
      @found asciiPatterns p.summarization text) = false) : @RolePrompt asciiPatterns p text := by
  let _ : PatternTables := asciiPatterns
  rw [Bool.or_eq_false_iff, Bool.or_eq_false_iff] at hother
  exact
    { marker := htext ▸ holdsOneOf_user rfl
      code := hother.1.1
      multiDoc := hother.1.2
      summarization := hother.2 }

/-- A prompt of a user that both classifiers take for no dialogue. -/
theorem marker_before_blank :
    @RolePrompt asciiPatterns (@WorkloadRouter.patterns asciiPatterns) (excerpt "User: hi") ∧
    @RolePrompt asciiPatterns (@WorkloadClassifier.patterns asciiPatterns) (excerpt "User: hi") ∧
    (@keywordRouter asciiPatterns).classify "User: hi" none ≠ .dialogue ∧
    @WorkloadClassifier.classifyFromPrompt asciiPatterns {} "User: hi" none ≠ .dialogue := by
  refine ⟨rolePrompt_user rfl ?_, rolePrompt_user rfl ?_, ?_, ?_⟩
  · decide +kernel
  · decide +kernel
  · decide +kernel
  · decide +kernel

theorem role_markers_before_word :
    (@keywordRouter asciiPatterns).classify "User:hi" none = .dialogue ∧
      @WorkloadClassifier.classifyFromPrompt asciiPatterns {} "User:hi" none = .dialogue := by
  let _ : PatternTables := asciiPatterns
  have hmarker : HoldsMarkerBeforeWord (excerpt "User:hi") := holdsOneOf_user ⟨rfl, rfl⟩
  have hrouter : RolePrompt WorkloadRouter.patterns (excerpt "User:hi") :=
    rolePrompt_user rfl (by decide +kernel)
  have hclassifier : RolePrompt WorkloadClassifier.patterns (excerpt "User:hi") :=
    rolePrompt_user rfl (by decide +kernel)
  obtain ⟨hrouted, hclassified⟩ := role_markers_iff "User:hi" (.inl rfl)
  exact ⟨(hrouted hrouter).mpr (.inl hmarker), (hclassified hclassifier).mpr (.inl hmarker)⟩

end KVOrchestrator.Ports
