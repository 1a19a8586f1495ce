import KVOrchestrator.Ports.InFlight
import Mathlib.Tactic.Linarith

/-!
# What the engine returns (`src/serving/vllm_engine.py`)

Calls of `generate` take turns.  What holds of the variables of each call and
passes on from one of its steps to the next (`CallFacts.Kept`) holds of all
calls along a whole run (`Holds.step`), and so of the results they return.

Three consequences: with a clock that never goes back the times of a result add
up (`results_timed`), a mock answer is the answer to a prompt of its own request
(`mock_answers_own_prompt`), and policy checks are at least an interval apart
(`policy_checks_apart`).
-/

namespace KVOrchestrator.Ports

open KVOrchestrator.Verified

/-! ## Facts about calls -/

/-- What is to hold of a call that sleeps in `_mock_generate`, of the variables of
one that waits for outputs, and of a result. -/
structure CallFacts where
  sleeping : (rid prompt : String) → (start : ℚ) → Prop
  generating : (rid : String) → GenerateVars → Prop
  result : (rid : String) → GenerationResult → Prop

namespace CallFacts

/-- What holds of how a call ends. -/
def ending (F : CallFacts) (rid : String) : EngineCallEnd → Prop
  | .returned r => F.result rid r
  | _ => True

/-- What holds of a call at a point. -/
def point (F : CallFacts) (rid : String) : CallPoint → Prop
  | .mockSleep prompt start => F.sleeping rid prompt start
  | .generating vars => F.generating rid vars
  | .policyCheck e => F.ending rid e
  | _ => True

/-- The facts `F` before a step give the facts `F'` after it; only a real engine
begins to generate. -/
structure Kept (real : Prop) (F F' : CallFacts) (a : EngineStep) : Prop where
  sleeping : ∀ rid prompt start, F.sleeping rid prompt start → F'.sleeping rid prompt start
  generating : ∀ rid vars, F.generating rid vars → F'.generating rid vars
  result : ∀ rid r, F.result rid r → F'.result rid r
  sleeps : ∀ prompt requestId uuid now initError paramsError,
    a = .start (.generate prompt) requestId uuid now initError paramsError →
      F'.sleeping a.rid prompt now
  begins : real → ∀ prompt requestId uuid now initError paramsError,
    a = .start (.generate prompt) requestId uuid now initError paramsError →
      F'.generating a.rid { start := now }
  receives : ∀ rid output now vars vars', a = .output rid output now →
    F.generating rid vars → vars.receive output now = .ok vars' → F'.generating rid vars'
  returns : ∀ rid now vars, a = .outputsEnd rid now → F.generating rid vars →
    F'.result rid (vars.result rid now)
  answers : ∀ rid now prompt start, a = .resume rid now → F.sleeping rid prompt start →
    F'.result rid (mockResult rid prompt start now)

variable {real : Prop} {F F' : CallFacts} {a : EngineStep}

theorem Kept.ending (h : Kept real F F' a) {rid : String} {e : EngineCallEnd}
    (he : F.ending rid e) : F'.ending rid e := by
  cases e with
  | returned r => exact h.result rid r he
  | exhausted | raised | closed | cancelled => exact trivial

theorem Kept.point (h : Kept real F F' a) {rid : String} {point : CallPoint}
    (hp : F.point rid point) : F'.point rid point := by
  cases point with
  | mockSleep prompt start => exact h.sleeping rid prompt start hp
  | generating vars => exact h.generating rid vars hp
  | policyCheck e => exact h.ending hp
  | mockYield | mockPause | streaming | yielding => exact trivial

end CallFacts

namespace InstrumentedVLLMEngine

/-- The facts hold of every call, in progress or ended. -/
structure Holds (F : CallFacts) (s : InstrumentedVLLMEngine) : Prop where
  calls : ∀ rid point, s.calls.get? rid = some point → F.point rid point
  ended : ∀ e ∈ s.ended, F.ending e.1 e.2

section Holds

variable {F F' : CallFacts} {s : InstrumentedVLLMEngine} {rid : String}

theorem Holds.suspend (h : s.Holds F) {point : CallPoint} (hp : F.point rid point) :
    (s.suspend rid point).Holds F where
  calls := by
    intro rid' point' hget
    have hset : (s.calls.set rid point).get? rid' = some point' := hget
    by_cases hsame : rid' = rid
    · rw [hsame, OrdDict.get?_set_self] at hset
      cases hset
      rw [hsame]
      exact hp
    · rw [OrdDict.get?_set_of_ne _ hsame] at hset
      exact h.calls rid' point' hset
  ended := h.ended

theorem Holds.finish (h : s.Holds F) {e : EngineCallEnd} (he : F.ending rid e) :
    (s.finish rid e).Holds F where
  calls := by
    intro rid' point' hget
    have herase : (s.calls.erase rid).get? rid' = some point' := hget
    by_cases hsame : rid' = rid
    · rw [hsame, OrdDict.get?_erase_self] at herase
      cases herase
    · rw [OrdDict.get?_erase_of_ne _ hsame] at herase
      exact h.calls rid' point' herase
  ended := by
    intro e' he'
    rcases List.mem_append.mp he' with hold | hnew
    · exact h.ended e' hold
    · rw [List.mem_singleton.mp hnew]
      exact he

theorem Holds.release (h : s.Holds F) : (s.release rid).Holds F := ⟨h.calls, h.ended⟩

theorem Holds.register (h : s.Holds F) (start : ℚ) : (s.register rid start).Holds F :=
  ⟨h.calls, h.ended⟩

theorem Holds.mockStream (h : s.Holds F) (tokens : List String) :
    (s.mockStream rid tokens).Holds F := by
  cases tokens with
  | nil => exact h.finish trivial
  | cons token rest => exact h.suspend trivial

theorem Holds.maybeTriggerPolicy (h : s.Holds F) {e : EngineCallEnd} (he : F.ending rid e)
    (now : ℚ) : (s.maybeTriggerPolicy rid e now).Holds F := by
  have hchecked : Holds F { s with lastPolicyCheck := now * 1000 } := ⟨h.calls, h.ended⟩
  rw [InstrumentedVLLMEngine.maybeTriggerPolicy]
  split
  · dsimp only
    split
    · exact hchecked.suspend he
    · exact hchecked.finish he
  · exact h.finish he

theorem Holds.begin (h : s.Holds F) {kind : EngineCallKind} {now : ℚ}
    (hsleeps : ∀ prompt, kind = .generate prompt → F.sleeping rid prompt now)
    (hbegins : s.vllmAvailable = true → ∀ prompt, kind = .generate prompt →
      F.generating rid { start := now })
    (paramsError : Option String) : (s.begin kind rid now paramsError).Holds F := by
  have hregister : (s.register rid now).Holds F := h.register now
  unfold InstrumentedVLLMEngine.begin
  dsimp only
  split
  · cases kind with
    | generate prompt => exact hregister.suspend (hsleeps prompt rfl)
    | stream => exact hregister.mockStream _
  · rename_i hreal
    have havailable : s.vllmAvailable = true := by
      cases hmode : s.vllmAvailable with
      | true => rfl
      | false =>
          have hmock : (s.register rid now).mock = true := by
            show (!s.vllmAvailable || !s.engineBuilt) = true
            rw [hmode]
            rfl
          exact absurd hmock hreal
    cases paramsError with
    | some message => exact hregister.finish trivial
    | none =>
        cases kind with
        | generate prompt => exact hregister.suspend (hbegins havailable prompt rfl)
        | stream => exact hregister.suspend trivial

/-- Building the engine ends no call and leaves the mode as it is. -/
theorem ended_of_initialized {s s' : InstrumentedVLLMEngine} {error : Option String}
    (h : s.initializeEngine error = .ok s') :
    s'.ended = s.ended ∧ s'.vllmAvailable = s.vllmAvailable := by
  unfold initializeEngine at h
  split at h
  · cases h
    exact ⟨rfl, rfl⟩
  · split at h
    · cases h
      exact ⟨rfl, rfl⟩
    · cases error with
      | some message => cases h
      | none =>
          cases h
          exact ⟨rfl, rfl⟩

/-- A step of a call at a point of which the facts hold. -/
theorem Holds.stepAt {real : Prop} {a : EngineStep} (hkept : CallFacts.Kept real F F' a)
    (h : s.Holds F') {point : CallPoint} (hp : F.point a.rid point) :
    (s.stepAt point a).Holds F' := by
  cases a with
  | start kind requestId uuid now initError paramsError => exact h
  | output rid output now =>
      cases point with
      | generating vars =>
          simp only [InstrumentedVLLMEngine.stepAt, receive]
          split
          · rename_i vars' hvars
            exact h.suspend (hkept.receives rid output now vars vars' rfl hp hvars)
          · exact h.finish trivial
      | streaming prevLen =>
          simp only [InstrumentedVLLMEngine.stepAt, receive]
          split
          · exact h
          · split
            · exact h.suspend trivial
            · exact h.suspend trivial
      | mockSleep | mockYield | mockPause | yielding | policyCheck => exact h
  | outputsEnd rid now =>
      cases point with
      | generating vars =>
          exact h.release.maybeTriggerPolicy (e := .returned (vars.result rid now))
            (hkept.returns rid now vars rfl hp) now
      | streaming prevLen => exact h.release.maybeTriggerPolicy (e := .exhausted) trivial now
      | mockSleep | mockYield | mockPause | yielding | policyCheck => exact h
  | engineRaise rid message =>
      rw [InstrumentedVLLMEngine.stepAt]
      split
      · exact h.finish trivial
      · exact h
  | resume rid now =>
      cases point with
      | mockSleep prompt start =>
          exact h.release.finish (e := .returned (mockResult rid prompt start now))
            (hkept.answers rid now prompt start rfl hp)
      | mockYield token rest => exact h.suspend trivial
      | mockPause rest => exact h.mockStream rest
      | yielding delta textLen => exact h.suspend trivial
      | generating | streaming | policyCheck => exact h
  | policyDone rid error =>
      cases point with
      | policyCheck e => exact h.finish (hkept.ending hp)
      | mockSleep | mockYield | mockPause | generating | streaming | yielding => exact h
  | close rid =>
      rw [InstrumentedVLLMEngine.stepAt]
      split
      · exact h.finish trivial
      · exact h
  | cancel rid =>
      rw [InstrumentedVLLMEngine.stepAt]
      split
      · exact h
      · exact h.finish trivial

/-- A step that starts no call is one of the call of its request, if there is one. -/
theorem step_stays_or_call {a : EngineStep} (hstarts : a.starts? = none) :
    s.step a = s ∨ ∃ point, s.calls.get? a.rid = some point ∧ s.step a = s.stepAt point a := by
  rw [step_eq hstarts]
  cases s.calls.get? a.rid with
  | none => exact .inl rfl
  | some point => exact .inr ⟨point, rfl, rfl⟩

/-- **Facts that pass on from step to step hold of every call.** -/
theorem Holds.step {real : Prop} {a : EngineStep} (h : s.Holds F)
    (hkept : CallFacts.Kept real F F' a) (hmode : s.vllmAvailable = true → real) :
    (s.step a).Holds F' := by
  have hafter : s.Holds F' :=
    ⟨fun rid point hget => hkept.point (h.calls rid point hget),
      fun e he => hkept.ending (h.ended e he)⟩
  have hcall : a.starts? = none → (s.step a).Holds F' := by
    intro hstarts
    rcases step_stays_or_call hstarts with hstays | ⟨point, hpoint, hstep⟩
    · rwa [hstays]
    · rw [hstep]
      exact hafter.stepAt hkept (h.calls a.rid point hpoint)
  cases a with
  | start kind requestId uuid now initError paramsError =>
      rw [InstrumentedVLLMEngine.step]
      split
      · refine ⟨hafter.calls, ?_⟩
        intro e he
        rcases List.mem_append.mp he with hold | hnew
        · exact hafter.ended e hold
        · rw [List.mem_singleton.mp hnew]
          exact trivial
      · rename_i s' hs'
        obtain ⟨-, hcalls⟩ := sameElsewhere_of_initialized hs'
        obtain ⟨hended, havailable⟩ := ended_of_initialized hs'
        have hinit : s'.Holds F' :=
          ⟨by rw [hcalls]; exact hafter.calls, by rw [hended]; exact hafter.ended⟩
        apply hinit.begin
        · intro prompt hkind
          exact hkept.sleeps prompt requestId uuid now initError paramsError (by rw [hkind])
        · intro hreal prompt hkind
          rw [havailable] at hreal
          exact hkept.begins (hmode hreal) prompt requestId uuid now initError paramsError
            (by rw [hkind])
  | output | outputsEnd | engineRaise | resume | policyDone | close | cancel => exact hcall rfl

end Holds

end InstrumentedVLLMEngine

/-! ## Times of results -/

/-- The clock reading of a step, if it takes one. -/
def EngineStep.now? : EngineStep → Option ℚ
  | .start _ _ _ now _ _ => some now
  | .output _ _ now => some now
  | .outputsEnd _ now => some now
  | .engineRaise _ _ => none
  | .resume _ now => some now
  | .policyDone _ _ => none
  | .close _ => none
  | .cancel _ => none

/-- From the time `t` on the clock never goes back. -/
def ClockAscends : ℚ → List EngineStep → Prop
  | _, [] => True
  | t, a :: steps => t ≤ a.now?.getD t ∧ ClockAscends (a.now?.getD t) steps

/-- The first token comes within the total time, and the remaining time is spread
over the generated tokens. -/
structure GenerationResult.Timed (r : GenerationResult) : Prop where
  ttft_nonneg : 0 ≤ r.ttftMs
  ttft_le : r.ttftMs ≤ r.totalLatencyMs
  tpot_nonneg : 0 ≤ r.tpotMs
  adds_up : 0 < r.generatedTokens → r.ttftMs + r.tpotMs * r.generatedTokens = r.totalLatencyMs

/-- The variables of a call at time `t`: there is a first token, not before the
start, once there are tokens at all. -/
structure GenerateVars.Timed (t : ℚ) (vars : GenerateVars) : Prop where
  start_le : vars.start ≤ t
  ttft : (vars.ttftMs = -1 ∧ vars.generatedTokens = 0) ∨
    (0 ≤ vars.ttftMs ∧ vars.ttftMs ≤ (t - vars.start) * 1000)

theorem GenerateVars.Timed.mono {t t' : ℚ} {vars : GenerateVars} (h : vars.Timed t)
    (hle : t ≤ t') : vars.Timed t' where
  start_le := h.start_le.trans hle
  ttft := by
    rcases h.ttft with hnone | ⟨hnonneg, hsome⟩
    · exact .inl hnone
    · exact .inr ⟨hnonneg, by linarith⟩

/-- An output is received at time `now`. -/
theorem GenerateVars.Timed.receive {now : ℚ} {vars vars' : GenerateVars} {output : RequestOutput}
    (h : vars.Timed now) (hvars : vars.receive output now = .ok vars') : vars'.Timed now := by
  have hstart : 0 ≤ (now - vars.start) * 1000 := by
    have := h.start_le
    linarith
  unfold GenerateVars.receive at hvars
  dsimp only at hvars
  cases hfinished : output.finished with
  | false =>
      rw [hfinished] at hvars
      simp only [Bool.false_eq_true, if_false, Except.ok.injEq] at hvars
      rw [← hvars]
      split
      · exact ⟨h.start_le, .inr ⟨hstart, le_refl _⟩⟩
      · exact h
  | true =>
      cases houtputs : output.outputs with
      | nil =>
          rw [hfinished, houtputs] at hvars
          simp at hvars
      | cons best rest =>
          rw [hfinished, houtputs] at hvars
          simp only [if_true, Except.ok.injEq] at hvars
          rw [← hvars]
          by_cases hfirst : vars.ttftMs < 0
          · have hset : vars.ttftMs < 0 ∧ best :: rest ≠ [] := ⟨hfirst, List.cons_ne_nil _ _⟩
            simp only [if_pos hset]
            exact ⟨h.start_le, .inr ⟨hstart, le_refl _⟩⟩
          · have hkeep : ¬(vars.ttftMs < 0 ∧ best :: rest ≠ []) := fun hset => hfirst hset.1
            simp only [if_neg hkeep]
            refine ⟨h.start_le, .inr ?_⟩
            rcases h.ttft with ⟨hnone, -⟩ | hsome
            · rw [hnone] at hfirst
              norm_num at hfirst
            · exact hsome

theorem GenerateVars.Timed.result {now : ℚ} {vars : GenerateVars} (h : vars.Timed now)
    (rid : String) : (vars.result rid now).Timed := by
  have hstart : 0 ≤ (now - vars.start) * 1000 := by
    have := h.start_le
    linarith
  rcases h.ttft with ⟨hnone, hzero⟩ | ⟨hnonneg, hle⟩
  · have hmax : max vars.ttftMs 0 = 0 := by
      rw [hnone]
      norm_num
    refine ⟨le_max_right _ _, ?_, ?_, ?_⟩
    · show max vars.ttftMs 0 ≤ (now - vars.start) * 1000
      rw [hmax]
      exact hstart
    · show 0 ≤ if vars.generatedTokens > 0 then _ else (0 : ℚ)
      rw [hzero]
      exact le_refl _
    · intro hpos
      have hcast : (0 : Int) < (vars.generatedTokens : Int) := hpos
      omega
  · have hmax : max vars.ttftMs 0 = vars.ttftMs := max_eq_left hnonneg
    have hrest : 0 ≤ (now - vars.start) * 1000 - vars.ttftMs := by linarith
    refine ⟨le_max_right _ _, ?_, ?_, ?_⟩
    · show max vars.ttftMs 0 ≤ (now - vars.start) * 1000
      rw [hmax]
      exact hle
    · show 0 ≤ if vars.generatedTokens > 0 then _ else (0 : ℚ)
      split
      · exact div_nonneg hrest (by positivity)
      · exact le_refl _
    · intro hpos
      have hcast : (0 : Int) < (vars.generatedTokens : Int) := hpos
      have htokens : vars.generatedTokens > 0 := by omega
      have hone : (1 : ℚ) ≤ vars.generatedTokens := by exact_mod_cast htokens
      have hcount : max vars.generatedTokens 1 = vars.generatedTokens := by omega
      have hne : (vars.generatedTokens : ℚ) ≠ 0 := by linarith
      show max vars.ttftMs 0 + (if vars.generatedTokens > 0 then _ else (0 : ℚ)) *
        ((vars.generatedTokens : Int) : ℚ) = (now - vars.start) * 1000
      rw [if_pos htokens, hmax, hcount, Int.cast_natCast, div_mul_cancel₀ _ hne]
      ring

theorem timed_mockResult {start now : ℚ} (h : start ≤ now) (rid prompt : String) :
    (mockResult rid prompt start now).Timed := by
  have htotal : 0 ≤ (now - start) * 1000 := by linarith
  refine ⟨?_, ?_, ?_, ?_⟩
  · show 0 ≤ (now - start) * 1000 * (1 / 5)
    linarith
  · show (now - start) * 1000 * (1 / 5) ≤ (now - start) * 1000
    linarith
  · show 0 ≤ (now - start) * 1000 * (4 / 5) / 8
    linarith
  · intro _
    show (now - start) * 1000 * (1 / 5) + (now - start) * 1000 * (4 / 5) / 8 * ((8 : Int) : ℚ) =
      (now - start) * 1000
    push_cast
    ring

namespace InstrumentedVLLMEngine

/-- The times of every call at time `t`. -/
def timeFacts (t : ℚ) : CallFacts where
  sleeping _ _ start := start ≤ t
  generating _ vars := vars.Timed t
  result _ r := r.Timed

theorem kept_timeFacts {t : ℚ} {a : EngineStep} (hle : t ≤ a.now?.getD t) :
    CallFacts.Kept True (timeFacts t) (timeFacts (a.now?.getD t)) a where
  sleeping _ _ _ h := h.trans hle
  generating _ _ h := h.mono hle
  result _ _ h := h
  sleeps := by
    intro prompt requestId uuid now initError paramsError ha
    rw [ha]
    exact le_refl now
  begins := by
    intro _ prompt requestId uuid now initError paramsError ha
    rw [ha]
    exact ⟨le_refl now, .inl ⟨rfl, rfl⟩⟩
  receives := by
    intro rid output now vars vars' ha hvars hreceive
    rw [ha] at hle ⊢
    exact (hvars.mono hle).receive hreceive
  returns := by
    intro rid now vars ha hvars
    rw [ha] at hle
    exact (hvars.mono hle).result rid
  answers := by
    intro rid now prompt start ha hstart
    rw [ha] at hle
    exact timed_mockResult (hstart.trans hle) rid prompt

theorem holds_timeFacts_run (steps : List EngineStep) :
    ∀ (t : ℚ) (s : InstrumentedVLLMEngine), ClockAscends t steps → s.Holds (timeFacts t) →
      ∃ t', (run step s steps).Holds (timeFacts t') := by
  induction steps with
  | nil => intro t s _ h; exact ⟨t, h⟩
  | cons a steps ih =>
      intro t s hclock h
      exact ih _ (s.step a) hclock.2 
        (h.step (kept_timeFacts hclock.1) (fun _ => trivial))

/-- No call has been made yet. -/
def Untouched (s : InstrumentedVLLMEngine) : Prop := s.calls = OrdDict.empty ∧ s.ended = []

theorem Untouched.holds {s : InstrumentedVLLMEngine} (h : s.Untouched) (F : CallFacts) :
    s.Holds F where
  calls := by
    intro rid point hget
    rw [h.1] at hget
    cases hget
  ended := by
    intro e he
    rw [h.2] at he
    cases he

/-- **The times of every result add up.**

For every interleaving of calls, with the real engine or the mock one, and a
clock that never goes back: the time to the first token lies between zero and
the total latency, the time per output token is not negative, and where there
are tokens, the first token and all of them together take the total latency. -/
theorem results_timed (s : InstrumentedVLLMEngine) (hs : s.Untouched) (t : ℚ)
    (steps : List EngineStep) (hclock : ClockAscends t steps) :
    ∀ rid r, (rid, EngineCallEnd.returned r) ∈ (run step s steps).ended →
      0 ≤ r.ttftMs ∧ r.ttftMs ≤ r.totalLatencyMs ∧ 0 ≤ r.tpotMs ∧
        (0 < r.generatedTokens →
          r.ttftMs + r.tpotMs * r.generatedTokens = r.totalLatencyMs) := by
  intro rid r hr
  obtain ⟨t', hholds⟩ := holds_timeFacts_run steps t s hclock (hs.holds _)
  have htimed : r.Timed := hholds.ended _ hr
  exact ⟨htimed.ttft_nonneg, htimed.ttft_le, htimed.tpot_nonneg, htimed.adds_up⟩

/-- Two overlapping calls of the mock engine. -/
def overlappingMockSteps : List EngineStep :=
  [.start (.generate "hello") (some "r1") "u1" 0 none none,
    .start (.generate "world") (some "r2") "u2" (1 / 200) none none,
    .resume "r2" (1 / 50), .resume "r1" (1 / 40)]

theorem exists_overlapping_result :
    ∃ r, ("r1", EngineCallEnd.returned r) ∈
      (run step { vllmAvailable := false } overlappingMockSteps).ended :=
  ⟨_, List.mem_cons_of_mem _ List.mem_cons_self⟩

theorem results_timed_overlapping :
    ∃ r, ("r1", EngineCallEnd.returned r) ∈
        (run step { vllmAvailable := false } overlappingMockSteps).ended ∧
      0 ≤ r.ttftMs ∧ r.ttftMs ≤ r.totalLatencyMs ∧ 0 ≤ r.tpotMs ∧
        (0 < r.generatedTokens →
          r.ttftMs + r.tpotMs * r.generatedTokens = r.totalLatencyMs) := by
  obtain ⟨r, hr⟩ := exists_overlapping_result
  have hclock : ClockAscends 0 overlappingMockSteps := by
    norm_num [overlappingMockSteps, ClockAscends, EngineStep.now?]
  exact ⟨r, hr,
    results_timed { vllmAvailable := false } ⟨rfl, rfl⟩ 0 overlappingMockSteps hclock "r1" r hr⟩

/-! ## Mock answers -/

/-- The request starts with the prompt somewhere in the run. -/
def StartsWith (steps : List EngineStep) (rid prompt : String) : Prop :=
  ∃ a ∈ steps, a.rid = rid ∧ ∃ requestId uuid now initError paramsError,
    a = .start (.generate prompt) requestId uuid now initError paramsError

/-- A result is the mock answer to a prompt its request has started with. -/
def promptFacts (steps : List EngineStep) : CallFacts where
  sleeping rid prompt _ := StartsWith steps rid prompt
  generating _ _ := False
  result rid r := ∃ prompt start now, StartsWith steps rid prompt ∧
    r = mockResult rid prompt start now

theorem kept_promptFacts {steps : List EngineStep} {a : EngineStep} (ha : a ∈ steps) :
    CallFacts.Kept False (promptFacts steps) (promptFacts steps) a where
  sleeping _ _ _ h := h
  generating _ _ h := h
  result _ _ h := h
  sleeps := by
    intro prompt requestId uuid now initError paramsError hstart
    exact ⟨a, ha, rfl, requestId, uuid, now, initError, paramsError, hstart⟩
  begins := fun h => h.elim
  receives _ _ _ _ _ _ h _ := h
  returns _ _ _ _ h := h.elim
  answers := by
    intro rid now prompt start _ hstart
    exact ⟨prompt, start, now, hstart, rfl⟩

/-- No step changes the mode. -/
theorem vllmAvailable_step (s : InstrumentedVLLMEngine) (a : EngineStep) :
    (s.step a).vllmAvailable = s.vllmAvailable := by
  have htrigger : ∀ (s : InstrumentedVLLMEngine) rid ending now,
      (s.maybeTriggerPolicy rid ending now).vllmAvailable = s.vllmAvailable := by
    intro s rid ending now
    rw [maybeTriggerPolicy]
    split
    · dsimp only
      split <;> rfl
    · rfl
  have hcall : a.starts? = none → (s.step a).vllmAvailable = s.vllmAvailable := by
    intro hstarts
    rcases step_stays_or_call hstarts with hstays | ⟨point, -, hstep⟩
    · rw [hstays]
    · rw [hstep]
      have hform := stepForm_stepAt s point a
      generalize s.stepAt point a = s' at hform
      cases hform with
      | stays => rfl
      | goesOn h => rfl
      | ends ending => rfl
      | releases ending => rfl
      | checks ending now => exact htrigger _ _ _ _
  cases a with
  | start kind requestId uuid now initError paramsError =>
      rw [step]
      split
      · rfl
      · rename_i s' hs'
        rw [← (ended_of_initialized hs').2]
        unfold begin
        dsimp only
        split
        · cases kind with
          | generate prompt => rfl
          | stream =>
              cases split ("[mock response for request " ++
                (EngineStep.start .stream requestId uuid now initError paramsError).rid ++ "]") <;>
                rfl
        · cases paramsError with
          | some message => rfl
          | none => cases kind <;> rfl
  | output | outputsEnd | engineRaise | resume | policyDone | close | cancel => exact hcall rfl

theorem holds_promptFacts_run {s : InstrumentedVLLMEngine} (hs : s.Untouched)
    (hmock : s.vllmAvailable = false) (steps : List EngineStep) :
    (run step s steps).Holds (promptFacts steps) := by
  have hstep : ∀ (s : InstrumentedVLLMEngine) (a : EngineStep), a ∈ steps →
      (s.Holds (promptFacts steps) ∧ s.vllmAvailable = false) →
        (s.step a).Holds (promptFacts steps) ∧ (s.step a).vllmAvailable = false := by
    intro s a ha hinv
    refine ⟨hinv.1.step (kept_promptFacts ha) (fun hreal => ?_), ?_⟩
    · rw [hinv.2] at hreal
      cases hreal
    · rw [vllmAvailable_step, hinv.2]
  have hinit : s.Holds (promptFacts steps) ∧ s.vllmAvailable = false := ⟨hs.holds _, hmock⟩
  exact (run_invariant_of_forall hstep steps s (fun _ ha => ha) hinit).1

/-- **A mock answer is the answer to a prompt of its own request.**

However calls of the mock engine interleave, a call that returns carries its own
request id, and its text is made from a prompt its request has started with. -/
theorem mock_answers_own_prompt (s : InstrumentedVLLMEngine) (hs : s.Untouched)
    (hmock : s.vllmAvailable = false) (steps : List EngineStep) :
    ∀ rid r, (rid, EngineCallEnd.returned r) ∈ (run step s steps).ended →
      r.requestId = rid ∧ ∃ prompt, StartsWith steps rid prompt ∧
        r.text = "[MOCK] Response to: " ++ String.ofList (prompt.toList.take 80) ∧
        r.promptTokens = (split prompt).length := by
  intro rid r hr
  have hresult : (promptFacts steps).result rid r :=
    (holds_promptFacts_run hs hmock steps).ended _ hr
  obtain ⟨prompt, start, now, hstarts, rfl⟩ := hresult
  exact ⟨rfl, prompt, hstarts, rfl, rfl⟩

theorem mock_answers_own_prompt_overlapping :
    ∃ r, ("r1", EngineCallEnd.returned r) ∈
        (run step { vllmAvailable := false } overlappingMockSteps).ended ∧
      r.requestId = "r1" ∧ ∃ prompt, StartsWith overlappingMockSteps "r1" prompt ∧
        r.text = "[MOCK] Response to: " ++ String.ofList (prompt.toList.take 80) ∧
        r.promptTokens = (split prompt).length := by
  obtain ⟨r, hr⟩ := exists_overlapping_result
  exact ⟨r, hr, mock_answers_own_prompt { vllmAvailable := false } ⟨rfl, rfl⟩ rfl
    overlappingMockSteps "r1" r hr⟩

/-! ## Policy checks -/

/-- The time in milliseconds at which a step checks the policy, if it does. -/
def policyCheck? (s : InstrumentedVLLMEngine) : EngineStep → Option ℚ
  | .outputsEnd rid now =>
      let due := now * 1000 - s.lastPolicyCheck ≥ s.policyIntervalMs
      match s.calls.get? rid with
      | some (.generating _) => if due then some (now * 1000) else none
      | some (.streaming _) => if due then some (now * 1000) else none
      | _ => none
  | _ => none

/-- The times of the policy checks of a run. -/
def policyChecks (s : InstrumentedVLLMEngine) : List EngineStep → List ℚ
  | [] => []
  | a :: steps => (s.policyCheck? a).toList ++ (s.step a).policyChecks steps

section Checks

variable {s s' : InstrumentedVLLMEngine}

/-- The last check and the interval are as before. -/
def PolicyKept (s s' : InstrumentedVLLMEngine) : Prop :=
  s'.lastPolicyCheck = s.lastPolicyCheck ∧ s'.policyIntervalMs = s.policyIntervalMs

theorem policyKept_mockStream (s : InstrumentedVLLMEngine) (rid : String)
    (tokens : List String) : PolicyKept s (s.mockStream rid tokens) := by
  cases tokens <;> exact ⟨rfl, rfl⟩

theorem policyKept_begin (s : InstrumentedVLLMEngine) (kind : EngineCallKind) (rid : String)
    (now : ℚ) (paramsError : Option String) :
    PolicyKept s (s.begin kind rid now paramsError) := by
  unfold begin
  dsimp only
  split
  · cases kind with
    | generate prompt => exact ⟨rfl, rfl⟩
    | stream => exact policyKept_mockStream (s.register rid now) rid _
  · cases paramsError with
    | some message => exact ⟨rfl, rfl⟩
    | none => cases kind <;> exact ⟨rfl, rfl⟩

theorem policyKept_of_initialized {error : Option String}
    (h : s.initializeEngine error = .ok s') : PolicyKept s s' := by
  unfold initializeEngine at h
  split at h
  · cases h
    exact ⟨rfl, rfl⟩
  · split at h
    · cases h
      exact ⟨rfl, rfl⟩
    · cases error with
      | some message => cases h
      | none =>
          cases h
          exact ⟨rfl, rfl⟩

/-- The policy is checked at the end of the outputs, if the interval has
passed. -/
theorem maybeTriggerPolicy_checks (s : InstrumentedVLLMEngine) (rid : String)
    (ending : EngineCallEnd) (now : ℚ) :
    (s.maybeTriggerPolicy rid ending now).lastPolicyCheck =
        (if now * 1000 - s.lastPolicyCheck ≥ s.policyIntervalMs then some (now * 1000)
          else none).getD s.lastPolicyCheck ∧
      (s.maybeTriggerPolicy rid ending now).policyIntervalMs = s.policyIntervalMs := by
  rw [maybeTriggerPolicy]
  split
  · dsimp only
    split <;> exact ⟨rfl, rfl⟩
  · exact ⟨rfl, rfl⟩

/-- Only the end of the outputs checks the policy. -/
theorem policyKept_stepAt (s : InstrumentedVLLMEngine) (point : CallPoint) {a : EngineStep}
    (ha : ∀ rid now, a ≠ .outputsEnd rid now) : PolicyKept s (s.stepAt point a) := by
  cases a with
  | start kind requestId uuid now initError paramsError => exact ⟨rfl, rfl⟩
  | outputsEnd rid now => exact absurd rfl (ha rid now)
  | output rid output now =>
      cases point with
      | generating vars =>
          simp only [stepAt, receive]
          split <;> exact ⟨rfl, rfl⟩
      | streaming prevLen =>
          simp only [stepAt, receive]
          split
          · exact ⟨rfl, rfl⟩
          · split <;> exact ⟨rfl, rfl⟩
      | mockSleep | mockYield | mockPause | yielding | policyCheck => exact ⟨rfl, rfl⟩
  | resume rid now =>
      cases point with
      | mockPause rest => exact policyKept_mockStream s rid rest
      | mockSleep | mockYield | generating | streaming | yielding | policyCheck =>
          exact ⟨rfl, rfl⟩
  | policyDone rid error => cases point <;> exact ⟨rfl, rfl⟩
  | engineRaise rid message =>
      simp only [stepAt]
      split <;> exact ⟨rfl, rfl⟩
  | close rid =>
      simp only [stepAt]
      split <;> exact ⟨rfl, rfl⟩
  | cancel rid =>
      simp only [stepAt]
      split <;> exact ⟨rfl, rfl⟩

/-- A step notes the check it makes, and no other. -/
theorem lastPolicyCheck_step (s : InstrumentedVLLMEngine) (a : EngineStep) :
    (s.step a).lastPolicyCheck = (s.policyCheck? a).getD s.lastPolicyCheck ∧
      (s.step a).policyIntervalMs = s.policyIntervalMs := by
  have hcall : a.starts? = none → (∀ rid now, a ≠ .outputsEnd rid now) →
      PolicyKept s (s.step a) := by
    intro hstarts hother
    rcases step_stays_or_call hstarts with hstays | ⟨point, -, hstep⟩
    · rw [hstays]
      exact ⟨rfl, rfl⟩
    · rw [hstep]
      exact policyKept_stepAt s point hother
  cases a with
  | start kind requestId uuid now initError paramsError =>
      rw [step]
      split
      · exact ⟨rfl, rfl⟩
      · rename_i s' hs'
        have hinit := policyKept_of_initialized hs'
        have hbegin := policyKept_begin s'
          kind (EngineStep.start kind requestId uuid now initError paramsError).rid now paramsError
        exact ⟨hbegin.1.trans hinit.1, hbegin.2.trans hinit.2⟩
  | outputsEnd rid now =>
      rw [policyCheck?, step_eq rfl]
      dsimp only [EngineStep.rid]
      cases hpoint : s.calls.get? rid with
      | none => exact ⟨rfl, rfl⟩
      | some point =>
          cases point with
          | generating vars => exact maybeTriggerPolicy_checks (s.release rid) rid _ now
          | streaming prevLen => exact maybeTriggerPolicy_checks (s.release rid) rid _ now
          | mockSleep | mockYield | mockPause | yielding | policyCheck => exact ⟨rfl, rfl⟩
  | output | engineRaise | resume | policyDone | close | cancel =>
      exact hcall rfl (by intro _ _ h; cases h)

/-- A check comes an interval after the last one, at the time of its step. -/
theorem policyCheck?_spec {a : EngineStep} {c : ℚ} (h : s.policyCheck? a = some c) :
    s.policyIntervalMs ≤ c - s.lastPolicyCheck ∧ ∃ now, a.now? = some now ∧ c = now * 1000 := by
  cases a with
  | outputsEnd rid now =>
      have hdue : (if now * 1000 - s.lastPolicyCheck ≥ s.policyIntervalMs then some (now * 1000)
          else none) = some c := by
        rw [policyCheck?] at h
        split at h
        · exact h
        · exact h
        · cases h
      split at hdue
      · rename_i hle
        cases hdue
        exact ⟨hle, now, rfl, rfl⟩
      · cases hdue
  | start | output | engineRaise | resume | policyDone | close | cancel => cases h

end Checks

/-- The last clock reading of a run. -/
def lastReading : ℚ → List EngineStep → ℚ
  | t, [] => t
  | t, a :: steps => lastReading (a.now?.getD t) steps

/-- The checks of a run follow each other, and the last one before it, at
intervals. -/
theorem isChain_policyChecks (steps : List EngineStep) :
    ∀ s : InstrumentedVLLMEngine, List.IsChain (fun c c' => s.policyIntervalMs ≤ c' - c)
      (s.lastPolicyCheck :: s.policyChecks steps) := by
  induction steps with
  | nil => exact fun s => List.isChain_singleton _
  | cons a steps ih =>
      intro s
      obtain ⟨hlast, hinterval⟩ := lastPolicyCheck_step s a
      have hrest := ih (s.step a)
      rw [hlast, hinterval] at hrest
      rw [policyChecks]
      cases hcheck : s.policyCheck? a with
      | none =>
          rw [hcheck] at hrest
          exact hrest
      | some c =>
          rw [hcheck] at hrest
          exact List.isChain_cons_cons.mpr ⟨(policyCheck?_spec hcheck).1, hrest⟩

/-- The checks of a run fit into its time. -/
theorem length_policyChecks_mul_le (steps : List EngineStep) :
    ∀ (t : ℚ) (s : InstrumentedVLLMEngine), ClockAscends t steps →
      s.lastPolicyCheck ≤ t * 1000 →
        (s.policyChecks steps).length * s.policyIntervalMs ≤
          lastReading t steps * 1000 - s.lastPolicyCheck := by
  induction steps with
  | nil =>
      intro t s _ hlast
      show ((0 : Nat) : ℚ) * s.policyIntervalMs ≤ t * 1000 - s.lastPolicyCheck
      rw [Nat.cast_zero, zero_mul]
      linarith
  | cons a steps ih =>
      intro t s hclock hlast
      obtain ⟨hnext, hinterval⟩ := lastPolicyCheck_step s a
      cases hcheck : s.policyCheck? a with
      | none =>
          rw [hcheck] at hnext
          have hrest := ih (a.now?.getD t) (s.step a) hclock.2 (by
            rw [hnext]
            show s.lastPolicyCheck ≤ _
            have := hclock.1
            linarith)
          rw [hnext, hinterval] at hrest
          rw [policyChecks, hcheck]
          exact hrest
      | some c =>
          rw [hcheck] at hnext
          obtain ⟨hdue, now, hnow, rfl⟩ := policyCheck?_spec hcheck
          have hrest := ih (a.now?.getD t) (s.step a) hclock.2 (by rw [hnext, hnow]; rfl)
          rw [hnext, hinterval] at hrest
          rw [policyChecks, hcheck]
          show (((s.step a).policyChecks steps).length + 1 : ℕ) * s.policyIntervalMs ≤
            lastReading (a.now?.getD t) steps * 1000 - s.lastPolicyCheck
          push_cast
          have hsame : (some (now * 1000)).getD s.lastPolicyCheck = now * 1000 := rfl
          rw [hsame] at hrest
          linarith

/-- **Policy checks are at least an interval apart.**

Whatever calls run and however they interleave, each check comes at least the
scheduling interval after the one before it; with a clock that never goes back,
a run therefore makes at most one check for each interval of its time. -/
theorem policy_checks_apart (s : InstrumentedVLLMEngine) (t : ℚ) (steps : List EngineStep)
    (hclock : ClockAscends t steps) (hlast : s.lastPolicyCheck ≤ t * 1000) :
    List.IsChain (fun c c' => s.policyIntervalMs ≤ c' - c)
        (s.lastPolicyCheck :: s.policyChecks steps) ∧
      (s.policyChecks steps).length * s.policyIntervalMs ≤
        lastReading t steps * 1000 - s.lastPolicyCheck :=
  ⟨isChain_policyChecks steps s, length_policyChecks_mul_le steps t s hclock hlast⟩

/-- Two calls of a real engine that end ten milliseconds apart: one check. -/
def closeEnds : List EngineStep :=
  [.start (.generate "hello") (some "r1") "u1" 0 none none,
    .start .stream (some "r2") "u2" 0 none none,
    .outputsEnd "r1" (1 / 10), .outputsEnd "r2" (11 / 100)]

theorem policy_checks_apart_close_ends :
    List.IsChain (fun c c' => (50 : ℚ) ≤ c' - c)
        (0 :: policyChecks { vllmAvailable := true } closeEnds) ∧
      (policyChecks { vllmAvailable := true } closeEnds).length * (50 : ℚ) ≤
        lastReading 0 closeEnds * 1000 - 0 :=
  policy_checks_apart { vllmAvailable := true } 0 closeEnds
    (by norm_num [closeEnds, ClockAscends, EngineStep.now?]) (by norm_num)

end InstrumentedVLLMEngine

end KVOrchestrator.Ports
