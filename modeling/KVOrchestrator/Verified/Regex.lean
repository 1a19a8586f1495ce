import Mathlib.Data.List.Basic
import Mathlib.Data.List.Forall2

/-!
# Searching for patterns

Patterns over any alphabet with a set of word items: single items, repeated
items, sequences, alternatives, the start of the text and word boundaries.  A
word boundary is a place between a word item and one that is none, where the
ends of the text count as none; it looks at the text around a match, so a match
is a part `run` of a text together with what is `before` and `after` it
(`Spans`).

`search` tries every place of the text and follows all matches from there; it
succeeds exactly if some part of the text matches (`search_iff`).  What an
alternative of words between word boundaries matches can be read off the words
(`search_wholeWords_iff`).
-/

namespace KVOrchestrator.Verified

/-- Patterns.  Only single items are repeated. -/
inductive Regex (α : Type*) where
  /-- No text. -/
  | fail
  /-- The empty text. -/
  | empty
  | item (p : α → Bool)
  | many (p : α → Bool)
  /-- `^` -/
  | start
  /-- `\b` -/
  | boundary
  | seq (r s : Regex α)
  | alt (r s : Regex α)

namespace Regex

variable {α : Type*}

/-- One pattern after the other. -/
def seqs (patterns : List (Regex α)) : Regex α := patterns.foldr seq empty

/-- Any of the patterns. -/
def alts (patterns : List (Regex α)) : Regex α := patterns.foldr alt fail

/-- `p+` -/
def some (p : α → Bool) : Regex α := seq (item p) (many p)

/-- A word, item by item, up to `same`. -/
def literal (same : α → α → Bool) (word : List α) : Regex α :=
  seqs (word.map (fun l => item (fun c => same c l)))

/-- Any of the words, between word boundaries. -/
def wholeWords (patterns : List (Regex α)) : Regex α :=
  seqs [boundary, alts patterns, boundary]

section Words

variable (isWord : α → Bool)

/-- The text starts with a word item. -/
def startsWithWord : List α → Bool
  | [] => false
  | c :: _ => isWord c

/-- The text ends with a word item. -/
def endsWithWord (text : List α) : Bool := startsWithWord isWord text.reverse

/-! ## Matches -/

/-- The pattern matches `run` where it stands between `before` and `after`. -/
def Spans : Regex α → (before run after : List α) → Prop
  | fail, _, _, _ => False
  | empty, _, run, _ => run = []
  | item p, _, run, _ => ∃ c, run = [c] ∧ p c = true
  | many p, _, run, _ => ∀ c ∈ run, p c = true
  | start, before, run, _ => run = [] ∧ before = []
  | boundary, before, run, after =>
      run = [] ∧ endsWithWord isWord before ≠ startsWithWord isWord after
  | seq r s, before, run, after => ∃ first second, run = first ++ second ∧
      r.Spans before first (second ++ after) ∧ s.Spans (before ++ first) second after
  | alt r s, before, run, after => r.Spans before run after ∨ s.Spans before run after

/-- All places where a repetition can stop; `rev` is what was read, the latest
item first. -/
def manyEnds (p : α → Bool) : (rev rest : List α) → List (List α × List α)
  | rev, [] => [(rev, [])]
  | rev, c :: rest =>
      if p c then (rev, c :: rest) :: manyEnds p (c :: rev) rest else [(rev, c :: rest)]

/-- All places where a match from here can end. -/
def ends : Regex α → (rev rest : List α) → List (List α × List α)
  | fail, _, _ => []
  | empty, rev, rest => [(rev, rest)]
  | item _, _, [] => []
  | item p, rev, c :: rest => if p c then [(c :: rev, rest)] else []
  | many p, rev, rest => manyEnds p rev rest
  | start, rev, rest => if rev.isEmpty then [(rev, rest)] else []
  | boundary, rev, rest =>
      if startsWithWord isWord rev != startsWithWord isWord rest then [(rev, rest)] else []
  | seq r s, rev, rest => (r.ends rev rest).flatMap (fun place => s.ends place.1 place.2)
  | alt r s, rev, rest => r.ends rev rest ++ s.ends rev rest

/-- A match starts at one of the places from here on. -/
def searchFrom (r : Regex α) : (rev rest : List α) → Bool
  | rev, [] => !(r.ends isWord rev []).isEmpty
  | rev, c :: rest => !(r.ends isWord rev (c :: rest)).isEmpty || searchFrom r (c :: rev) rest

/-- `re.search` -/
def search (r : Regex α) (text : List α) : Bool := r.searchFrom isWord [] text

variable {isWord}

/-! ## Searching finds matches -/

theorem mem_manyEnds_iff {p : α → Bool} {rev' rest' : List α} :
    ∀ {rest rev : List α}, (rev', rest') ∈ manyEnds p rev rest ↔
      ∃ run, (∀ c ∈ run, p c = true) ∧ rest = run ++ rest' ∧ rev' = run.reverse ++ rev := by
  intro rest
  induction rest with
  | nil =>
      intro rev
      rw [manyEnds, List.mem_singleton, Prod.mk.injEq]
      constructor
      · rintro ⟨rfl, rfl⟩
        exact ⟨[], by simp, rfl, rfl⟩
      · rintro ⟨run, _, hrest, rfl⟩
        obtain ⟨rfl, rfl⟩ := List.append_eq_nil_iff.mp hrest.symm
        exact ⟨rfl, rfl⟩
  | cons c rest ih =>
      intro rev
      have hstop : (rev', rest') = (rev, c :: rest) →
          ∃ run, (∀ c ∈ run, p c = true) ∧ c :: rest = run ++ rest' ∧
            rev' = run.reverse ++ rev := by
        rintro heq
        obtain ⟨rfl, rfl⟩ := Prod.mk.inj heq
        exact ⟨[], by simp, rfl, rfl⟩
      rw [manyEnds]
      split
      · next hc =>
          rw [List.mem_cons, ih]
          constructor
          · rintro (heq | ⟨run, hrun, rfl, rfl⟩)
            · exact hstop heq
            · refine ⟨c :: run, ?_, rfl, ?_⟩
              · exact List.forall_mem_cons.mpr ⟨hc, hrun⟩
              · simp
          · rintro ⟨run, hrun, hrest, rfl⟩
            cases run with
            | nil => exact .inl (Prod.ext rfl hrest.symm)
            | cons d run =>
                obtain ⟨rfl, rfl⟩ := List.cons.inj hrest
                right
                exact ⟨run, fun d hd => hrun d (List.mem_cons_of_mem _ hd), rfl, by simp⟩
      · next hc =>
          rw [List.mem_singleton]
          constructor
          · exact hstop
          · rintro ⟨run, hrun, hrest, rfl⟩
            cases run with
            | nil => exact Prod.ext rfl hrest.symm
            | cons d run =>
                obtain ⟨rfl, rfl⟩ := List.cons.inj hrest
                exact absurd (hrun c List.mem_cons_self) hc

/-- A pattern that reads nothing stops where it is, if it matches there. -/
private theorem mem_ite_self_iff {P : Prop} [Decidable P] {rev rest rev' rest' : List α} :
    (rev', rest') ∈ (if P then [(rev, rest)] else []) ↔
      ∃ run, rest = run ++ rest' ∧ rev' = run.reverse ++ rev ∧ run = [] ∧ P := by
  split
  · next hP =>
      rw [List.mem_singleton, Prod.mk.injEq]
      constructor
      · rintro ⟨rfl, rfl⟩
        exact ⟨[], rfl, rfl, rfl, hP⟩
      · rintro ⟨run, hrest, hrev, rfl, _⟩
        exact ⟨hrev, hrest.symm⟩
  · next hP =>
      constructor
      · intro h
        cases h
      · rintro ⟨_, _, _, _, h⟩
        exact absurd h hP

private theorem mem_ends_item_iff {p : α → Bool} {rev rest rev' rest' : List α} :
    (rev', rest') ∈ (item p).ends isWord rev rest ↔
      ∃ run, rest = run ++ rest' ∧ rev' = run.reverse ++ rev ∧
        (item p).Spans isWord rev.reverse run rest' := by
  cases rest with
  | nil =>
      constructor
      · intro h
        cases h
      · rintro ⟨run, hrest, _, c, rfl, _⟩
        cases hrest
  | cons c rest =>
      rw [ends]
      constructor
      · intro h
        split at h
        · next hc =>
            obtain ⟨rfl, rfl⟩ := Prod.mk.inj (List.mem_singleton.mp h)
            exact ⟨[c], rfl, rfl, c, rfl, hc⟩
        · cases h
      · rintro ⟨run, hrest, rfl, d, rfl, hd⟩
        obtain ⟨rfl, rfl⟩ := List.cons.inj hrest
        rw [if_pos hd]
        exact List.mem_singleton.mpr rfl

/-- The boundary, with the text before it as `ends` has it. -/
private theorem boundary_iff {rev rest : List α} :
    (startsWithWord isWord rev != startsWithWord isWord rest) = true ↔
      endsWithWord isWord rev.reverse ≠ startsWithWord isWord rest := by
  rw [endsWithWord, List.reverse_reverse]
  exact bne_iff_ne

/-- The ends are those of the matches from here. -/
theorem mem_ends_iff (r : Regex α) : ∀ {rev rest rev' rest' : List α},
    (rev', rest') ∈ r.ends isWord rev rest ↔
      ∃ run, rest = run ++ rest' ∧ rev' = run.reverse ++ rev ∧
        r.Spans isWord rev.reverse run rest' := by
  induction r with
  | fail =>
      intro rev rest rev' rest'
      constructor
      · intro h
        cases h
      · rintro ⟨_, _, _, h⟩
        exact h.elim
  | empty =>
      intro rev rest rev' rest'
      rw [ends, List.mem_singleton, Prod.mk.injEq]
      constructor
      · rintro ⟨rfl, rfl⟩
        exact ⟨[], rfl, rfl, rfl⟩
      · rintro ⟨run, hrest, hrev, rfl⟩
        exact ⟨hrev, hrest.symm⟩
  | item p =>
      intro rev rest rev' rest'
      exact mem_ends_item_iff
  | many p =>
      intro rev rest rev' rest'
      rw [ends, mem_manyEnds_iff]
      constructor
      · rintro ⟨run, hrun, hrest, hrev⟩
        exact ⟨run, hrest, hrev, hrun⟩
      · rintro ⟨run, hrest, hrev, hrun⟩
        exact ⟨run, hrun, hrest, hrev⟩
  | start =>
      intro rev rest rev' rest'
      rw [ends, mem_ite_self_iff]
      simp only [Spans, List.isEmpty_iff, List.reverse_eq_nil_iff]
  | boundary =>
      intro rev rest rev' rest'
      rw [ends, mem_ite_self_iff]
      constructor
      · rintro ⟨run, hrest, hrev, rfl, hne⟩
        obtain rfl : rest = rest' := hrest
        exact ⟨[], rfl, hrev, rfl, boundary_iff.mp hne⟩
      · rintro ⟨run, hrest, hrev, rfl, hne⟩
        obtain rfl : rest = rest' := hrest
        exact ⟨[], rfl, hrev, rfl, boundary_iff.mpr hne⟩
  | seq r s ihr ihs =>
      intro rev rest rev' rest'
      rw [ends, List.mem_flatMap]
      constructor
      · rintro ⟨⟨midRev, mid⟩, hfirst, hsecond⟩
        obtain ⟨first, rfl, rfl, hr⟩ := ihr.mp hfirst
        obtain ⟨second, rfl, rfl, hs⟩ := ihs.mp hsecond
        rw [List.reverse_append, List.reverse_reverse] at hs
        exact ⟨first ++ second, by simp, by simp, first, second, rfl, hr, hs⟩
      · rintro ⟨run, rfl, rfl, first, second, rfl, hr, hs⟩
        refine ⟨(first.reverse ++ rev, second ++ rest'), ?_, ?_⟩
        · exact ihr.mpr ⟨first, List.append_assoc _ _ _, rfl, hr⟩
        · refine ihs.mpr ⟨second, rfl, by simp, ?_⟩
          rw [List.reverse_append, List.reverse_reverse]
          exact hs
  | alt r s ihr ihs =>
      intro rev rest rev' rest'
      rw [ends, List.mem_append, ihr, ihs]
      constructor
      · rintro (⟨run, hrest, hrev, h⟩ | ⟨run, hrest, hrev, h⟩)
        · exact ⟨run, hrest, hrev, .inl h⟩
        · exact ⟨run, hrest, hrev, .inr h⟩
      · rintro ⟨run, hrest, hrev, h | h⟩
        · exact .inl ⟨run, hrest, hrev, h⟩
        · exact .inr ⟨run, hrest, hrev, h⟩

theorem ends_ne_nil_iff (r : Regex α) (rev rest : List α) :
    (!(r.ends isWord rev rest).isEmpty) = true ↔
      ∃ run after, rest = run ++ after ∧ r.Spans isWord rev.reverse run after := by
  rw [Bool.not_eq_true', List.isEmpty_eq_false_iff_exists_mem]
  constructor
  · rintro ⟨⟨rev', rest'⟩, hmem⟩
    obtain ⟨run, hrest, _, h⟩ := r.mem_ends_iff.mp hmem
    exact ⟨run, rest', hrest, h⟩
  · rintro ⟨run, after, hrest, h⟩
    exact ⟨(run.reverse ++ rev, after), r.mem_ends_iff.mpr ⟨run, hrest, rfl, h⟩⟩

theorem searchFrom_iff (r : Regex α) : ∀ (rest rev : List α),
    r.searchFrom isWord rev rest = true ↔
      ∃ skipped run after, rest = skipped ++ run ++ after ∧
        r.Spans isWord (rev.reverse ++ skipped) run after := by
  intro rest
  induction rest with
  | nil =>
      intro rev
      rw [searchFrom, ends_ne_nil_iff]
      constructor
      · rintro ⟨run, after, hrest, h⟩
        refine ⟨[], run, after, hrest, ?_⟩
        rw [List.append_nil]
        exact h
      · rintro ⟨skipped, run, after, hrest, h⟩
        obtain ⟨rfl, hempty⟩ : skipped = [] ∧ run ++ after = [] := by
          rw [List.append_assoc] at hrest
          exact List.append_eq_nil_iff.mp hrest.symm
        rw [List.append_nil] at h
        exact ⟨run, after, hempty.symm, h⟩
  | cons c rest ih =>
      intro rev
      rw [searchFrom, Bool.or_eq_true, ends_ne_nil_iff, ih, List.reverse_cons]
      constructor
      · rintro (⟨run, after, hrest, h⟩ | ⟨skipped, run, after, rfl, h⟩)
        · refine ⟨[], run, after, hrest, ?_⟩
          rw [List.append_nil]
          exact h
        · refine ⟨c :: skipped, run, after, rfl, ?_⟩
          rw [List.append_assoc] at h
          exact h
      · rintro ⟨skipped, run, after, hrest, h⟩
        cases skipped with
        | nil =>
            rw [List.append_nil] at h
            exact .inl ⟨run, after, hrest, h⟩
        | cons d skipped =>
            obtain ⟨rfl, rfl⟩ := List.cons.inj hrest
            right
            refine ⟨skipped, run, after, rfl, ?_⟩
            rw [List.append_assoc]
            exact h

/-- A search succeeds exactly if the pattern matches some part of the text. -/
theorem search_iff (r : Regex α) (text : List α) :
    r.search isWord text = true ↔
      ∃ before run after, text = before ++ run ++ after ∧ r.Spans isWord before run after :=
  r.searchFrom_iff text []

/-! ## Words between boundaries -/

theorem spans_alts_iff (patterns : List (Regex α)) (before run after : List α) :
    (alts patterns).Spans isWord before run after ↔
      ∃ r ∈ patterns, r.Spans isWord before run after := by
  induction patterns with
  | nil =>
      constructor
      · exact False.elim
      · rintro ⟨_, h, _⟩
        cases h
  | cons r patterns ih =>
      show (r.Spans isWord before run after ∨ (alts patterns).Spans isWord before run after) ↔ _
      rw [ih, List.exists_mem_cons_iff]

theorem spans_literal_iff (same : α → α → Bool) (word : List α) : ∀ (before run after : List α),
    (literal same word).Spans isWord before run after ↔
      List.Forall₂ (fun c l => same c l = true) run word := by
  induction word with
  | nil =>
      intro before run after
      rw [List.forall₂_nil_right_iff]
      exact Iff.rfl
  | cons l word ih =>
      intro before run after
      rw [List.forall₂_cons_right_iff]
      constructor
      · rintro ⟨_, second, rfl, ⟨c, rfl, hc⟩, hword⟩
        exact ⟨c, second, hc, (ih _ _ _).mp hword, rfl⟩
      · rintro ⟨c, second, hc, hword, rfl⟩
        exact ⟨[c], second, rfl, ⟨c, rfl, hc⟩, (ih _ _ _).mpr hword⟩

/-- Words between boundaries, at a part of a text. -/
theorem spans_wholeWords_iff (patterns : List (Regex α)) (before run after : List α) :
    (wholeWords patterns).Spans isWord before run after ↔
      endsWithWord isWord before ≠ startsWithWord isWord (run ++ after) ∧
        (∃ r ∈ patterns, r.Spans isWord before run after) ∧
        endsWithWord isWord (before ++ run) ≠ startsWithWord isWord after := by
  constructor
  · rintro ⟨_, _, rfl, ⟨rfl, hfirst⟩, word, _, rfl, hword, _, _, rfl, ⟨rfl, hlast⟩, rfl⟩
    simp only [List.append_nil, List.nil_append] at hfirst hword hlast ⊢
    exact ⟨hfirst, (spans_alts_iff patterns _ _ _).mp hword, hlast⟩
  · rintro ⟨hfirst, hword, hlast⟩
    have hplace : before ++ [] = before := List.append_nil before
    refine ⟨[], run, rfl, ⟨rfl, hfirst⟩, run, [], (List.append_nil run).symm, ?_, [], [], rfl,
      ⟨rfl, ?_⟩, rfl⟩
    · rw [hplace]
      exact (spans_alts_iff patterns _ _ _).mpr hword
    · rw [hplace]
      exact hlast

/-- A text holds one of the words between boundaries. -/
theorem search_wholeWords_iff (same : α → α → Bool) (words : List (List α)) (text : List α) :
    (wholeWords (words.map (literal same))).search isWord text = true ↔
      ∃ word ∈ words, ∃ before run after, text = before ++ run ++ after ∧
        List.Forall₂ (fun c l => same c l = true) run word ∧
        endsWithWord isWord before ≠ startsWithWord isWord (run ++ after) ∧
        endsWithWord isWord (before ++ run) ≠ startsWithWord isWord after := by
  rw [search_iff]
  simp only [spans_wholeWords_iff]
  constructor
  · rintro ⟨before, run, after, htext, hfirst, ⟨r, hr, hrun⟩, hlast⟩
    obtain ⟨word, hword, rfl⟩ := List.mem_map.mp hr
    have hsame := (spans_literal_iff same word before run after).mp hrun
    exact ⟨word, hword, before, run, after, htext, hsame, hfirst, hlast⟩
  · rintro ⟨word, hword, before, run, after, htext, hsame, hfirst, hlast⟩
    have hrun : (literal same word).Spans isWord before run after :=
      (spans_literal_iff same word before run after).mpr hsame
    exact ⟨before, run, after, htext, hfirst, ⟨_, List.mem_map_of_mem hword, hrun⟩, hlast⟩

/-! ## Where words meet the text around them -/

theorem startsWithWord_append {run : List α} (hrun : run ≠ []) (after : List α) :
    startsWithWord isWord (run ++ after) = startsWithWord isWord run := by
  cases run with
  | nil => exact absurd rfl hrun
  | cons c run => rfl

theorem endsWithWord_append (before : List α) {run : List α} (hrun : run ≠ []) :
    endsWithWord isWord (before ++ run) = endsWithWord isWord run := by
  rw [endsWithWord, List.reverse_append]
  exact startsWithWord_append (fun h => hrun (List.reverse_eq_nil_iff.mp h)) _

/-- Only which items are of a word matters. -/
theorem startsWithWord_eq_of_map {isWord' : α → Bool} {l l' : List α}
    (h : l.map isWord = l'.map isWord') :
    startsWithWord isWord l = startsWithWord isWord' l' := by
  cases l with
  | nil =>
      rw [List.map_nil] at h
      rw [List.map_eq_nil_iff.mp h.symm]
      rfl
  | cons c l =>
      cases l' with
      | nil => cases h
      | cons c' l' => exact (List.cons.inj h).1

theorem endsWithWord_eq_of_map {isWord' : α → Bool} {l l' : List α}
    (h : l.map isWord = l'.map isWord') :
    endsWithWord isWord l = endsWithWord isWord' l' := by
  apply startsWithWord_eq_of_map
  rw [List.map_reverse, List.map_reverse, h]

/-- What is the same as a word has word items where the word has them. -/
theorem map_isWord_of_same {same : α → α → Bool}
    (hsame : ∀ c l, same c l = true → isWord c = isWord l) {run word : List α}
    (h : List.Forall₂ (fun c l => same c l = true) run word) :
    run.map isWord = word.map isWord := by
  induction h with
  | nil => rfl
  | cons hc _ ih => rw [List.map_cons, List.map_cons, hsame _ _ hc, ih]

end Words

end Regex

end KVOrchestrator.Verified
