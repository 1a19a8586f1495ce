import KVOrchestrator.Verified.Builtins
import KVOrchestrator.Verified.OrdDict
import KVOrchestrator.Verified.Percentile

/-!
# Stress tests (`src/benchmarks/stress_tests.py`)

Five runners fire requests at the serving API and count how they end.  Four of
them gather single calls and count each one, so their counts always add up.  A
session of `run_long_chat_session` makes a call for each turn, and an exception
at any turn ends it: the session is then counted as one failed request, with
none of its answered turns, while the total grows by all its turns
(`stress_accounting_iff`).

How each call ends is a parameter, and so are the clock and the random picks.
-/

namespace KVOrchestrator.Ports

open KVOrchestrator.Verified

/-- How `_call` ends: with its latency in milliseconds, or by raising. -/
abbrev CallOutcome := Except PyError ℚ

/-- How a coroutine ends, if it has ended. -/
abbrev Ending (α : Type) := Option (Except PyError α)

/-- How many of the outcomes are no exception. -/
def succeeded {α : Type} : List (Except PyError α) → Nat
  | [] => 0
  | .ok _ :: outcomes => succeeded outcomes + 1
  | .error _ :: outcomes => succeeded outcomes

section Succeeded

variable {α : Type}

@[simp] theorem succeeded_nil : succeeded ([] : List (Except PyError α)) = 0 := rfl

@[simp] theorem succeeded_ok (a : α) (outcomes : List (Except PyError α)) :
    succeeded (.ok a :: outcomes) = succeeded outcomes + 1 := rfl

@[simp] theorem succeeded_error (e : PyError) (outcomes : List (Except PyError α)) :
    succeeded (.error e :: outcomes) = succeeded outcomes := rfl

@[simp] theorem succeeded_append (before after : List (Except PyError α)) :
    succeeded (before ++ after) = succeeded before + succeeded after := by
  induction before with
  | nil => simp
  | cons outcome before ih =>
      cases outcome with
      | error e => exact ih
      | ok a =>
          rw [List.cons_append, succeeded_ok, succeeded_ok, ih]
          omega

end Succeeded

/-! ## Results -/

/-- A value of the `config` of a result. -/
inductive ConfigValue where
  | number (value : ℚ)
  | numbers (values : List Int)
  deriving DecidableEq, Repr

structure StressTestResult where
  testName : String
  policyName : String
  config : List (String × ConfigValue)
  durationS : ℚ := 0
  totalRequests : Int := 0
  successfulRequests : Nat := 0
  failedRequests : Nat := 0
  throughputRps : ℚ := 0
  latenciesMs : List ℚ := []
  p50Ms : ℚ := 0
  p95Ms : ℚ := 0
  p99Ms : ℚ := 0
  peakGpuMemMb : ℚ := 0
  blocksEvicted : Int := 0
  blocksQuantized : Int := 0
  blocksOffloaded : Int := 0
  errorRate : ℚ := 0
  deriving DecidableEq

/-- The fields `_fetch_cache_stats` reads of the API's answer. -/
structure CacheStatus where
  blocksPerTier : OrdDict String Int := OrdDict.empty
  gpuMemUsedMb : Option ℚ := none

namespace StressTestResult

/-- Compute derived statistics from raw data. -/
def finalise (result : StressTestResult) : StressTestResult :=
  let result :=
    if result.latenciesMs.isEmpty then result
    else
      { result with
        p50Ms := percentile result.latenciesMs 50
        p95Ms := percentile result.latenciesMs 95
        p99Ms := percentile result.latenciesMs 99 }
  let total := result.totalRequests
  let result :=
    if total > 0 then
      { result with errorRate := pyRound ((result.failedRequests : ℚ) / total) 4 }
    else result
  if result.durationS > 0 then
    { result with throughputRps := pyRound (result.successfulRequests / result.durationS) 2 }
  else result

/-- `_fetch_cache_stats`: no answer, or none that can be read, leaves the result
as it is. -/
def fetchCacheStats (status : Option CacheStatus) (result : StressTestResult) :
    StressTestResult :=
  match status with
  | none => result
  | some data =>
      let bpt := data.blocksPerTier
      { result with
        blocksEvicted := (bpt.get? "evicted").getD 0
        blocksQuantized := (bpt.get? "gpu_quantized").getD 0
        blocksOffloaded := (bpt.get? "cpu_offloaded").getD 0
        peakGpuMemMb := data.gpuMemUsedMb.getD 0 }

/-- Count one gathered response. -/
def countResponse (result : StressTestResult) : CallOutcome → StressTestResult
  | .error _ => { result with failedRequests := result.failedRequests + 1 }
  | .ok latency =>
      { result with
        successfulRequests := result.successfulRequests + 1
        latenciesMs := result.latenciesMs ++ [latency] }

/-- Count the responses `gather` returns. -/
def countResponses (result : StressTestResult) (responses : List CallOutcome) :
    StressTestResult :=
  responses.foldl countResponse { result with totalRequests := responses.length }

/-- Count one session: the latencies of its turns, or the exception that ended
it. -/
def countSession (numTurns : Int) (result : StressTestResult)
    (sl : Except PyError (List ℚ)) : StressTestResult :=
  let result :=
    match sl with
    | .error _ => { result with failedRequests := result.failedRequests + 1 }
    | .ok lats =>
        { result with
          latenciesMs := result.latenciesMs ++ lats
          successfulRequests := result.successfulRequests + lats.length }
  { result with totalRequests := result.totalRequests + numTurns }

end StressTestResult

/-! ## The runners -/

/-- What a test meets besides the calls. -/
structure TestConditions where
  /-- Time passed in the load phase at the head of each pass of its loop. -/
  elapsed : List ℚ
  /-- Time passed when the last response is in. -/
  durationS : ℚ
  /-- The picks of the generator seeded with 42. -/
  seeded : Nat → Nat
  /-- The picks of the shared generator. -/
  pick : Nat → Nat
  status : Option CacheStatus := none

/-- `random.choice(xs)` at a pick. -/
def choose {α : Type*} (xs : List α) (d : α) (pick : Nat) : α := xs.getD (pick % xs.length) d

def promptWords : List String :=
  ["the", "quick", "brown", "fox", "jumps", "over", "lazy", "dog",
   "artificial", "intelligence", "machine", "learning", "language",
   "model", "inference", "context", "window", "attention", "token",
   "embedding", "transformer", "neural", "network", "performance"]

/-- The loop of `_random_prompt`; each word adds at least two characters, so as
many passes as characters are enough. -/
def promptLoop (seeded : Nat → Nat) (targetChars : Int) : Nat → List String → List String
  | 0, result => result
  | fuel + 1, result =>
      if ((result.map (fun w => (w.length : Int) + 1)).sum) < targetChars then
        promptLoop seeded targetChars fuel
          (result ++ [choose promptWords "" (seeded result.length)])
      else result

/-- Generate a plausible-length prompt string. -/
def randomPrompt (seeded : Nat → Nat) (targetChars : Int) : String :=
  " ".intercalate (promptLoop seeded targetChars targetChars.toNat [])

structure StressTestRunner where
  policyName : String := "unknown"

/-- A result, with the calls made for it. -/
abbrev TestRun := StressTestResult × List CallOutcome

/-- The end of a test that has gathered its responses. -/
def countGathered (c : TestConditions) (result : StressTestResult)
    (responses : List CallOutcome) : TestRun :=
  let result := { result with durationS := c.durationS }
  (((result.countResponses responses).finalise).fetchCacheStats c.status, responses)

/-- The calls behind a semaphore: none of them starts if it has no place. -/
def gatherGuarded (concurrency : Int) (responses : List CallOutcome) :
    Ending (List CallOutcome) :=
  if concurrency < 0 then some (.error (.valueError "Semaphore initial value must be >= 0"))
  else if concurrency = 0 ∧ responses ≠ [] then none
  else some (.ok responses)

namespace StressTestRunner

/-- The loop that fires the bursts, and the number of calls it makes. -/
def burstLoop (arrivalRate : ℚ) (burstSize : Int) (durationS : ℚ) : List ℚ → Nat → Ending Nat
  | [], _ => none
  | elapsed :: rest, fired =>
      if elapsed < durationS then
        -- `random.expovariate(arrival_rate)`
        if arrivalRate = 0 then some (.error .zeroDivisionError)
        else burstLoop arrivalRate burstSize durationS rest (fired + burstSize.toNat)
      else some (.ok fired)

/-- Simulate Poisson-distributed bursts of requests. -/
def runBurstyArrivals (runner : StressTestRunner) (c : TestConditions)
    (call : Nat → String → Int → CallOutcome) (arrivalRate : ℚ := 2) (burstSize : Int := 4)
    (durationS : ℚ := 120) (contextLength : Int := 8192) (maxTokens : Int := 64) :
    Ending TestRun :=
  let result : StressTestResult :=
    { testName := "bursty_arrivals"
      policyName := runner.policyName
      config := [("arrival_rate", .number arrivalRate), ("burst_size", .number burstSize),
        ("context_length", .number contextLength)] }
  let prompt := randomPrompt c.seeded contextLength
  match burstLoop arrivalRate burstSize durationS c.elapsed 0 with
  | none => none
  | some (.error e) => some (.error e)
  | some (.ok fired) =>
      let responses := (List.range fired).map (fun k => call k prompt maxTokens)
      some (.ok (countGathered c result responses))

/-- Test prefix-caching effectiveness under heavy reuse. -/
def runRepeatedPrefixReuse (runner : StressTestRunner) (c : TestConditions)
    (call : Nat → String → Int → CallOutcome) (sharedPrefixChars : Int := 4096)
    (numVariations : Int := 50) (concurrency : Int := 8) (maxTokens : Int := 64) :
    Ending TestRun :=
  let result : StressTestResult :=
    { testName := "repeated_prefix_reuse"
      policyName := runner.policyName
      config := [("shared_prefix_chars", .number sharedPrefixChars),
        ("num_variations", .number numVariations)] }
  let head := randomPrompt c.seeded sharedPrefixChars
  let prompts := (List.range numVariations.toNat).map (fun i =>
    head ++ "\n\nVariation " ++ toString i ++ ": What is the key idea?  Answer:")
  match gatherGuarded concurrency (prompts.mapIdx (fun k p => call k p maxTokens)) with
  | none => none
  | some (.error e) => some (.error e)
  | some (.ok responses) => some (.ok (countGathered c result responses))

/-- Mixed batch of short and long context requests. -/
def runMixedContextBatch (runner : StressTestRunner) (c : TestConditions)
    (call : Nat → String → Int → CallOutcome) (contextLengths : Option (List Int) := none)
    (concurrency : Int := 16) (nRequests : Int := 100) (maxTokens : Int := 64) :
    Ending TestRun :=
  let lengths :=
    match contextLengths with
    | some (length :: lengths) => length :: lengths
    | _ => [512, 2048, 8192, 16384, 32768]
  let result : StressTestResult :=
    { testName := "mixed_context_batch"
      policyName := runner.policyName
      config := [("context_lengths", .numbers lengths), ("n_requests", .number nRequests)] }
  let prompts := (List.range nRequests.toNat).map (fun k =>
    randomPrompt c.seeded (choose lengths 0 (c.pick k)))
  match gatherGuarded concurrency (prompts.mapIdx (fun k p => call k p maxTokens)) with
  | none => none
  | some (.error e) => some (.error e)
  | some (.ok responses) => some (.ok (countGathered c result responses))

/-- The number of calls of the peak phase. -/
def peakLoop (peakConcurrency : Int) (peakDurationS : ℚ) : List ℚ → Nat → Option Nat
  | [], _ => none
  | elapsed :: rest, fired =>
      if elapsed < peakDurationS then
        peakLoop peakConcurrency peakDurationS rest (fired + peakConcurrency.toNat)
      else some fired

/-- The number of calls of the ramp phase. -/
def rampCalls (rampUpS : ℚ) (peakConcurrency : Int) : Nat :=
  let steps : Int := max 1 (pyInt rampUpS)
  ((List.range steps.toNat).map (fun step =>
    (max 1 (pyInt (peakConcurrency * (step : ℚ) / steps))).toNat)).sum

/-- Rapidly ramp to peak concurrency to stress memory management. -/
def runMemorySpike (runner : StressTestRunner) (c : TestConditions)
    (call : Nat → String → Int → CallOutcome) (rampUpS : ℚ := 30) (peakConcurrency : Int := 32)
    (peakDurationS : ℚ := 60) (contextLength : Int := 16384) (maxTokens : Int := 64) :
    Ending TestRun :=
  let result : StressTestResult :=
    { testName := "memory_spike"
      policyName := runner.policyName
      config := [("ramp_up_s", .number rampUpS), ("peak_concurrency", .number peakConcurrency),
        ("context_length", .number contextLength)] }
  let prompt := randomPrompt c.seeded contextLength
  match peakLoop peakConcurrency peakDurationS c.elapsed (rampCalls rampUpS peakConcurrency) with
  | none => none
  | some fired =>
      let responses := (List.range fired).map (fun k => call k prompt maxTokens)
      some (.ok (countGathered c result responses))

/-- The turns of a session from `turn` on: what it returns or raises, and the
calls it made. -/
def sessionLoop (call : Nat → String → Int → CallOutcome) (maxTokens : Int) :
    (todo : Nat) → (turn : Nat) → (history : String) → (lats : List ℚ) →
      (calls : List CallOutcome) → Except PyError (List ℚ) × List CallOutcome
  | 0, _, _, lats, calls => (.ok lats, calls)
  | todo + 1, turn, history, lats, calls =>
      let history :=
        history ++ "\nUser: Tell me more about topic " ++ toString turn ++ ".\nAssistant:"
      match call turn history maxTokens with
      | .error e => (.error e, calls ++ [.error e])
      | .ok lat =>
          sessionLoop call maxTokens todo (turn + 1)
            (history ++ " [response " ++ toString turn ++ "]") (lats ++ [lat])
            (calls ++ [.ok lat])

/-- `_session` -/
def session (call : Nat → String → Int → CallOutcome) (numTurns maxTokens : Int) :
    Except PyError (List ℚ) × List CallOutcome :=
  sessionLoop call maxTokens numTurns.toNat 0 "" [] []

/-- Simulate concurrent long multi-turn dialogues.  The calls of session `s` end
as `call s` says. -/
def runLongChatSession (runner : StressTestRunner) (c : TestConditions)
    (call : Nat → Nat → String → Int → CallOutcome) (numTurns : Int := 20)
    (concurrency : Int := 4) (maxTokens : Int := 128) : Ending TestRun :=
  let result : StressTestResult :=
    { testName := "long_chat_session"
      policyName := runner.policyName
      config := [("num_turns", .number numTurns), ("concurrency", .number concurrency)] }
  let allLats := (List.range concurrency.toNat).map (fun s => session (call s) numTurns maxTokens)
  let result := { result with durationS := c.durationS }
  let result := (allLats.map Prod.fst).foldl (StressTestResult.countSession numTurns) result
  some (.ok (result.finalise.fetchCacheStats c.status, allLats.flatMap Prod.snd))

end StressTestRunner

/-! ## What a result has to account for -/

/-- The counts of a result add up, over the calls made for it: each call that
succeeded is counted and has its latency. -/
structure Accounted (result : StressTestResult) (calls : List CallOutcome) : Prop where
  total : (result.successfulRequests : Int) + result.failedRequests = result.totalRequests
  latencies : result.latenciesMs.length = result.successfulRequests
  successes : result.successfulRequests = succeeded calls
  errorRate : result.errorRate =
    if result.totalRequests = 0 then 0
    else pyRound ((result.failedRequests : ℚ) / result.totalRequests) 4

/-- If the test returns a result, the result accounts for its calls. -/
def Accounts (test : Ending TestRun) : Prop :=
  ∀ result calls, test = some (.ok (result, calls)) → Accounted result calls

namespace StressTestResult

section Finish

variable (status : Option CacheStatus) (result : StressTestResult)

@[simp] theorem successfulRequests_finish :
    (result.finalise.fetchCacheStats status).successfulRequests = result.successfulRequests := by
  cases status <;> simp only [fetchCacheStats, finalise] <;> split_ifs <;> rfl

@[simp] theorem failedRequests_finish :
    (result.finalise.fetchCacheStats status).failedRequests = result.failedRequests := by
  cases status <;> simp only [fetchCacheStats, finalise] <;> split_ifs <;> rfl

@[simp] theorem totalRequests_finish :
    (result.finalise.fetchCacheStats status).totalRequests = result.totalRequests := by
  cases status <;> simp only [fetchCacheStats, finalise] <;> split_ifs <;> rfl

@[simp] theorem latenciesMs_finish :
    (result.finalise.fetchCacheStats status).latenciesMs = result.latenciesMs := by
  cases status <;> simp only [fetchCacheStats, finalise] <;> split_ifs <;> rfl

theorem errorRate_finish :
    (result.finalise.fetchCacheStats status).errorRate =
      if 0 < result.totalRequests then
        pyRound ((result.failedRequests : ℚ) / result.totalRequests) 4
      else result.errorRate := by
  cases status <;> simp only [fetchCacheStats, finalise] <;> split_ifs <;> rfl

end Finish

/-- What the responses counted so far come to. -/
theorem foldl_countResponse (responses : List CallOutcome) (result : StressTestResult) :
    let counted := responses.foldl countResponse result
    counted.successfulRequests = result.successfulRequests + succeeded responses ∧
      counted.failedRequests + succeeded responses =
        result.failedRequests + responses.length ∧
      counted.latenciesMs.length =
        result.latenciesMs.length + succeeded responses ∧
      counted.totalRequests = result.totalRequests ∧ counted.errorRate = result.errorRate := by
  induction responses generalizing result with
  | nil => exact ⟨rfl, rfl, rfl, rfl, rfl⟩
  | cons r responses ih =>
      obtain ⟨hsuccess, hfailed, hlatencies, hrest⟩ := ih (result.countResponse r)
      dsimp only
      rw [List.foldl_cons]
      cases r with
      | error e =>
          simp only [countResponse, succeeded_error, List.length_cons]
            at hsuccess hfailed hlatencies hrest ⊢
          refine ⟨hsuccess, ?_, hlatencies, hrest⟩
          omega
      | ok latency =>
          simp only [countResponse, succeeded_ok, List.length_cons, List.length_append,
            List.length_nil] at hsuccess hfailed hlatencies hrest ⊢
          refine ⟨?_, ?_, ?_, hrest⟩
          · omega
          · omega
          · omega

/-- What the sessions counted so far come to, if each finished one has a latency
for each of its turns. -/
theorem foldl_countSession {numTurns : Int} {sessions : List (Except PyError (List ℚ))}
    (hturns : ∀ lats, .ok lats ∈ sessions → lats.length = numTurns.toNat)
    (result : StressTestResult) :
    let counted := sessions.foldl (countSession numTurns) result
    counted.successfulRequests =
        result.successfulRequests + numTurns.toNat * succeeded sessions ∧
      counted.failedRequests + succeeded sessions =
        result.failedRequests + sessions.length ∧
      counted.latenciesMs.length =
        result.latenciesMs.length + numTurns.toNat * succeeded sessions ∧
      counted.totalRequests = result.totalRequests + numTurns * sessions.length ∧
      counted.errorRate = result.errorRate := by
  induction sessions generalizing result with
  | nil => simp
  | cons sl sessions ih =>
      obtain ⟨hsuccess, hfailed, hlatencies, htotal, herror⟩ :=
        ih (fun lats hlats => hturns lats (List.mem_cons_of_mem _ hlats))
          (countSession numTurns result sl)
      have hmore : numTurns * ((sessions.length + 1 : Nat) : Int) =
          numTurns * sessions.length + numTurns := by
        push_cast
        ring
      dsimp only
      rw [List.foldl_cons]
      cases sl with
      | error e =>
          simp only [countSession, succeeded_error, List.length_cons]
            at hsuccess hfailed hlatencies htotal herror ⊢
          refine ⟨hsuccess, ?_, hlatencies, ?_, herror⟩
          · omega
          · omega
      | ok lats =>
          have hlats := hturns lats List.mem_cons_self
          simp only [countSession, succeeded_ok, List.length_cons, List.length_append,
            hlats, Nat.mul_succ] at hsuccess hfailed hlatencies htotal herror ⊢
          refine ⟨?_, ?_, ?_, ?_, herror⟩
          · omega
          · omega
          · omega
          · omega

end StressTestResult

/-! ## The tests return

A semaphore with a place lets every call through, and the loops end once the
clock has reached their limit. -/

theorem gatherGuarded_returns {concurrency : Int} (h : 0 < concurrency)
    (responses : List CallOutcome) :
    gatherGuarded concurrency responses = some (.ok responses) := by
  have hneg : ¬concurrency < 0 := by omega
  have hzero : ¬(concurrency = 0 ∧ responses ≠ []) := by
    rintro ⟨h0, _⟩
    omega
  rw [gatherGuarded, if_neg hneg, if_neg hzero]

/-- A reading at the limit or later is still to come after an earlier one. -/
theorem reading_of_lt {t limit : ℚ} {elapsed : List ℚ} (hend : ∃ t' ∈ t :: elapsed, limit ≤ t')
    (hlt : t < limit) : ∃ t' ∈ elapsed, limit ≤ t' := by
  obtain ⟨t', ht', hle⟩ := hend
  rcases List.mem_cons.mp ht' with rfl | hmem
  · exact absurd hle (not_le.mpr hlt)
  · exact ⟨t', hmem, hle⟩

theorem burstLoop_returns {arrivalRate : ℚ} (hrate : arrivalRate ≠ 0) (burstSize : Int)
    {durationS : ℚ} {elapsed : List ℚ} (hend : ∃ t ∈ elapsed, durationS ≤ t) (fired : Nat) :
    ∃ n, StressTestRunner.burstLoop arrivalRate burstSize durationS elapsed fired =
      some (.ok n) := by
  induction elapsed generalizing fired with
  | nil =>
      obtain ⟨t, ht, _⟩ := hend
      cases ht
  | cons t elapsed ih =>
      rw [StressTestRunner.burstLoop]
      by_cases hlt : t < durationS
      · rw [if_pos hlt, if_neg hrate]
        exact ih (reading_of_lt hend hlt) _
      · exact ⟨fired, if_neg hlt⟩

theorem peakLoop_returns (peakConcurrency : Int) {peakDurationS : ℚ} {elapsed : List ℚ}
    (hend : ∃ t ∈ elapsed, peakDurationS ≤ t) (fired : Nat) :
    ∃ n, StressTestRunner.peakLoop peakConcurrency peakDurationS elapsed fired = some n := by
  induction elapsed generalizing fired with
  | nil =>
      obtain ⟨t, ht, _⟩ := hend
      cases ht
  | cons t elapsed ih =>
      rw [StressTestRunner.peakLoop]
      by_cases hlt : t < peakDurationS
      · rw [if_pos hlt]
        exact ih (reading_of_lt hend hlt) _
      · exact ⟨fired, if_neg hlt⟩

/-! ## The four runners that gather calls -/

/-- Gathered responses are accounted for, whatever they are. -/
theorem accounted_countGathered (c : TestConditions) (name policy : String)
    (config : List (String × ConfigValue)) (responses : List CallOutcome) :
    Accounted (countGathered c
      { testName := name, policyName := policy, config := config } responses).1 responses := by
  have hcount := StressTestResult.foldl_countResponse responses
    { testName := name
      policyName := policy
      config := config
      durationS := c.durationS
      totalRequests := responses.length }
  dsimp only at hcount
  obtain ⟨hsuccess, hfailed, hlatencies, htotal, herror⟩ := hcount
  constructor
  · simp only [countGathered, StressTestResult.countResponses,
      StressTestResult.successfulRequests_finish, StressTestResult.failedRequests_finish,
      StressTestResult.totalRequests_finish]
    omega
  · simp only [countGathered, StressTestResult.countResponses,
      StressTestResult.successfulRequests_finish, StressTestResult.latenciesMs_finish]
    rw [hlatencies, hsuccess]
    rfl
  · simp only [countGathered, StressTestResult.countResponses,
      StressTestResult.successfulRequests_finish]
    rw [hsuccess, Nat.zero_add]
  · simp only [countGathered, StressTestResult.countResponses,
      StressTestResult.totalRequests_finish, StressTestResult.failedRequests_finish,
      StressTestResult.errorRate_finish]
    rw [herror, htotal]
    split_ifs <;> first | rfl | omega

namespace StressTestRunner

variable (runner : StressTestRunner) (c : TestConditions)
  (call : Nat → String → Int → CallOutcome)

theorem accounts_runBurstyArrivals (arrivalRate : ℚ) (burstSize : Int) (durationS : ℚ)
    (contextLength maxTokens : Int) :
    Accounts (runner.runBurstyArrivals c call arrivalRate burstSize durationS contextLength
      maxTokens) := by
  intro result calls hreturn
  rw [runBurstyArrivals] at hreturn
  split at hreturn
  · cases hreturn
  · cases hreturn
  · cases hreturn
    exact accounted_countGathered c _ _ _ _

theorem accounts_runRepeatedPrefixReuse
    (sharedPrefixChars numVariations concurrency maxTokens : Int) :
    Accounts (runner.runRepeatedPrefixReuse c call sharedPrefixChars numVariations concurrency
      maxTokens) := by
  intro result calls hreturn
  rw [runRepeatedPrefixReuse] at hreturn
  split at hreturn
  · cases hreturn
  · cases hreturn
  · cases hreturn
    exact accounted_countGathered c _ _ _ _

theorem accounts_runMixedContextBatch (contextLengths : Option (List Int))
    (concurrency nRequests maxTokens : Int) :
    Accounts (runner.runMixedContextBatch c call contextLengths concurrency nRequests
      maxTokens) := by
  intro result calls hreturn
  unfold runMixedContextBatch at hreturn
  dsimp only at hreturn
  split at hreturn
  · cases hreturn
  · cases hreturn
  · cases hreturn
    exact accounted_countGathered c _ _ _ _

theorem accounts_runMemorySpike (rampUpS : ℚ) (peakConcurrency : Int) (peakDurationS : ℚ)
    (contextLength maxTokens : Int) :
    Accounts (runner.runMemorySpike c call rampUpS peakConcurrency peakDurationS contextLength
      maxTokens) := by
  intro result calls hreturn
  rw [runMemorySpike] at hreturn
  split at hreturn
  · cases hreturn
  · cases hreturn
    exact accounted_countGathered c _ _ _ _

end StressTestRunner

/-! ## Chat sessions -/

/-- What a session holds before a turn, if all turns before it were answered. -/
def chatHistory : Nat → String
  | 0 => ""
  | turn + 1 =>
      chatHistory turn ++ "\nUser: Tell me more about topic " ++ toString turn ++
        ".\nAssistant:" ++ " [response " ++ toString turn ++ "]"

/-- What a session sends at a turn. -/
def chatPrompt (turn : Nat) : String :=
  chatHistory turn ++ "\nUser: Tell me more about topic " ++ toString turn ++ ".\nAssistant:"

/-- Every turn of the session is answered. -/
def Answered (call : Nat → String → Int → CallOutcome) (numTurns maxTokens : Int) : Prop :=
  ∀ turn < numTurns.toNat, ∃ lat, call turn (chatPrompt turn) maxTokens = .ok lat

namespace StressTestRunner

section Session

variable (call : Nat → String → Int → CallOutcome) (maxTokens : Int)

/-- The turns of a session that are all answered. -/
theorem sessionLoop_of_answered (todo turn : Nat) (lats : List ℚ) (calls : List CallOutcome)
    (h : ∀ t, turn ≤ t → t < turn + todo → ∃ lat, call t (chatPrompt t) maxTokens = .ok lat) :
    ∃ lats' calls',
      sessionLoop call maxTokens todo turn (chatHistory turn) lats calls = (.ok lats', calls') ∧
        lats'.length = lats.length + todo ∧ succeeded calls' = succeeded calls + todo := by
  induction todo generalizing turn lats calls with
  | zero => exact ⟨lats, calls, rfl, rfl, rfl⟩
  | succ todo ih =>
      obtain ⟨lat, hlat⟩ := h turn (le_refl _) (by omega)
      rw [chatPrompt] at hlat
      rw [sessionLoop, hlat]
      obtain ⟨lats', calls', hloop, hlats, hcalls⟩ :=
        ih (turn + 1) (lats ++ [lat]) (calls ++ [.ok lat])
          (fun t hle hlt => h t (by omega) (by omega))
      refine ⟨lats', calls', hloop, ?_, ?_⟩
      · rw [hlats, List.length_append, List.length_singleton]
        omega
      · rw [hcalls, succeeded_append, succeeded_ok, succeeded_nil]
        omega

/-- The turns of a session one of which raises. -/
theorem sessionLoop_of_raise (todo turn : Nat) (lats : List ℚ) (calls : List CallOutcome)
    (h : ∃ t, turn ≤ t ∧ t < turn + todo ∧ ∃ e, call t (chatPrompt t) maxTokens = .error e) :
    ∃ e calls',
      sessionLoop call maxTokens todo turn (chatHistory turn) lats calls = (.error e, calls') ∧
        succeeded calls' < succeeded calls + todo := by
  induction todo generalizing turn lats calls with
  | zero =>
      obtain ⟨t, hle, hlt, _⟩ := h
      omega
  | succ todo ih =>
      rw [sessionLoop]
      cases hcall : call turn (chatPrompt turn) maxTokens with
      | error e =>
          rw [chatPrompt] at hcall
          rw [hcall]
          refine ⟨e, _, rfl, ?_⟩
          rw [succeeded_append, succeeded_error, succeeded_nil]
          omega
      | ok lat =>
          obtain ⟨t, hle, hlt, e, he⟩ := h
          have hne : t ≠ turn := by
            intro heq
            rw [heq, hcall] at he
            cases he
          rw [chatPrompt] at hcall
          rw [hcall]
          obtain ⟨e', calls', hloop, hcalls⟩ :=
            ih (turn + 1) (lats ++ [lat]) (calls ++ [.ok lat])
              ⟨t, by omega, by omega, e, he⟩
          refine ⟨e', calls', hloop, ?_⟩
          rw [succeeded_append, succeeded_ok, succeeded_nil] at hcalls
          omega

variable (numTurns : Int)

theorem session_of_answered (h : Answered call numTurns maxTokens) :
    ∃ lats calls, session call numTurns maxTokens = (.ok lats, calls) ∧
      lats.length = numTurns.toNat ∧ succeeded calls = numTurns.toNat := by
  obtain ⟨lats, calls, hloop, hlats, hcalls⟩ :=
    sessionLoop_of_answered call maxTokens numTurns.toNat 0 [] []
      (fun t _ hlt => h t (by omega))
  refine ⟨lats, calls, hloop, ?_, ?_⟩
  · simpa using hlats
  · simpa using hcalls

theorem session_of_not_answered (h : ¬Answered call numTurns maxTokens) :
    ∃ e calls, session call numTurns maxTokens = (.error e, calls) ∧
      succeeded calls < numTurns.toNat := by
  rw [Answered] at h
  push Not at h
  obtain ⟨t, hlt, hraise⟩ := h
  have he : ∃ e, call t (chatPrompt t) maxTokens = .error e := by
    cases hcall : call t (chatPrompt t) maxTokens with
    | error e => exact ⟨e, rfl⟩
    | ok lat => exact absurd hcall (hraise lat)
  obtain ⟨e, calls, hloop, hcalls⟩ :=
    sessionLoop_of_raise call maxTokens numTurns.toNat 0 [] []
      ⟨t, Nat.zero_le t, by omega, he⟩
  refine ⟨e, calls, hloop, ?_⟩
  simpa using hcalls

end Session

/-! ## All sessions of a test -/

section Sessions

variable (call : Nat → Nat → String → Int → CallOutcome) (numTurns maxTokens : Int)
  (sessions : List Nat)

/-- How the sessions end. -/
def sessionEnds : List (Except PyError (List ℚ)) :=
  sessions.map (fun s => (session (call s) numTurns maxTokens).1)

/-- The calls the sessions make. -/
def sessionCalls : List CallOutcome :=
  sessions.flatMap (fun s => (session (call s) numTurns maxTokens).2)

/-- A session that returns has a latency for each of its turns. -/
theorem length_of_mem_sessionEnds {lats : List ℚ}
    (hmem : .ok lats ∈ sessionEnds call numTurns maxTokens sessions) :
    lats.length = numTurns.toNat := by
  obtain ⟨s, _, hs⟩ := List.mem_map.mp hmem
  by_cases hanswered : Answered (call s) numTurns maxTokens
  · obtain ⟨lats', calls, hsession, hlats, _⟩ :=
      session_of_answered (call s) maxTokens numTurns hanswered
    rw [hsession] at hs
    cases hs
    exact hlats
  · obtain ⟨e, calls, hsession, _⟩ :=
      session_of_not_answered (call s) maxTokens numTurns hanswered
    rw [hsession] at hs
    cases hs

/-- If every turn of every session is answered, nothing is missing. -/
theorem succeeded_of_answered (h : ∀ s ∈ sessions, Answered (call s) numTurns maxTokens) :
    succeeded (sessionEnds call numTurns maxTokens sessions) = sessions.length ∧
      succeeded (sessionCalls call numTurns maxTokens sessions) =
        numTurns.toNat * sessions.length := by
  induction sessions with
  | nil => exact ⟨rfl, rfl⟩
  | cons s sessions ih =>
      obtain ⟨hends, hcalls⟩ := ih (fun s' hs' => h s' (List.mem_cons_of_mem _ hs'))
      obtain ⟨lats, calls, hsession, _, hs⟩ :=
        session_of_answered (call s) maxTokens numTurns (h s List.mem_cons_self)
      rw [sessionEnds] at hends ⊢
      rw [sessionCalls] at hcalls ⊢
      rw [List.map_cons, List.flatMap_cons, hsession, succeeded_ok, succeeded_append, hends,
        hcalls, hs, List.length_cons, Nat.mul_succ]
      constructor
      · omega
      · omega

/-- Sessions that return are at most all of them. -/
theorem succeeded_sessionEnds_le :
    succeeded (sessionEnds call numTurns maxTokens sessions) ≤ sessions.length := by
  induction sessions with
  | nil => exact le_refl 0
  | cons s sessions ih =>
      rw [sessionEnds] at ih ⊢
      rw [List.map_cons, List.length_cons]
      cases (session (call s) numTurns maxTokens).1 with
      | error e =>
          rw [succeeded_error]
          omega
      | ok lats =>
          rw [succeeded_ok]
          omega

/-- A session with a turn that raises is not among those that return. -/
theorem succeeded_sessionEnds_lt
    (h : ∃ s ∈ sessions, ¬Answered (call s) numTurns maxTokens) :
    succeeded (sessionEnds call numTurns maxTokens sessions) < sessions.length := by
  obtain ⟨s, hs, hraise⟩ := h
  obtain ⟨before, after, rfl⟩ := List.append_of_mem hs
  obtain ⟨e, calls, hsession, _⟩ := session_of_not_answered (call s) maxTokens numTurns hraise
  have hbefore := succeeded_sessionEnds_le call numTurns maxTokens before
  have hafter := succeeded_sessionEnds_le call numTurns maxTokens after
  rw [sessionEnds] at hbefore hafter ⊢
  rw [List.map_append, List.map_cons, hsession, succeeded_append, succeeded_error,
    List.length_append, List.length_cons]
  omega

theorem succeeded_sessionEnds_eq_iff :
    succeeded (sessionEnds call numTurns maxTokens sessions) = sessions.length ↔
      ∀ s ∈ sessions, Answered (call s) numTurns maxTokens := by
  constructor
  · intro hall
    by_contra hraise
    push Not at hraise
    exact (succeeded_sessionEnds_lt call numTurns maxTokens sessions hraise).ne hall
  · intro hanswered
    exact (succeeded_of_answered call numTurns maxTokens sessions hanswered).1

/-- A session of one turn returns exactly if its call does. -/
theorem succeeded_sessionCalls_of_one :
    succeeded (sessionCalls call 1 maxTokens sessions) =
      succeeded (sessionEnds call 1 maxTokens sessions) := by
  induction sessions with
  | nil => rfl
  | cons s sessions ih =>
      rw [sessionEnds, sessionCalls] at ih ⊢
      rw [List.map_cons, List.flatMap_cons, succeeded_append, ih]
      by_cases hanswered : Answered (call s) 1 maxTokens
      · obtain ⟨lats, calls, hsession, _, hcalls⟩ :=
          session_of_answered (call s) maxTokens 1 hanswered
        rw [hsession, succeeded_ok, hcalls]
        exact Nat.add_comm _ _
      · obtain ⟨e, calls, hsession, hcalls⟩ :=
          session_of_not_answered (call s) maxTokens 1 hanswered
        rw [hsession, succeeded_error]
        have hone : (1 : Int).toNat = 1 := rfl
        rw [hone] at hcalls
        dsimp only
        omega

end Sessions

/-- What the long chat test returns. -/
theorem runLongChatSession_eq (runner : StressTestRunner) (c : TestConditions)
    (call : Nat → Nat → String → Int → CallOutcome) (numTurns concurrency maxTokens : Int) :
    runner.runLongChatSession c call numTurns concurrency maxTokens =
      let counted := (sessionEnds call numTurns maxTokens (List.range concurrency.toNat)).foldl
        (StressTestResult.countSession numTurns)
        { testName := "long_chat_session"
          policyName := runner.policyName
          config := [("num_turns", .number numTurns), ("concurrency", .number concurrency)]
          durationS := c.durationS }
      some (.ok (counted.finalise.fetchCacheStats c.status,
        sessionCalls call numTurns maxTokens (List.range concurrency.toNat))) := by
  rw [runLongChatSession, List.map_map, List.flatMap_map]
  rfl

/-- The long chat test, counted. -/
theorem runLongChatSession_spec (runner : StressTestRunner) (c : TestConditions)
    (call : Nat → Nat → String → Int → CallOutcome) (numTurns concurrency maxTokens : Int) :
    let ends := sessionEnds call numTurns maxTokens (List.range concurrency.toNat)
    ∃ result, runner.runLongChatSession c call numTurns concurrency maxTokens =
        some (.ok (result, sessionCalls call numTurns maxTokens (List.range concurrency.toNat))) ∧
      result.successfulRequests = numTurns.toNat * succeeded ends ∧
      result.failedRequests + succeeded ends = concurrency.toNat ∧
      result.latenciesMs.length = result.successfulRequests ∧
      result.totalRequests = numTurns * concurrency.toNat ∧
      result.errorRate = if 0 < result.totalRequests then
        pyRound ((result.failedRequests : ℚ) / result.totalRequests) 4 else 0 := by
  intro ends
  have hcount := StressTestResult.foldl_countSession
    (fun _ => length_of_mem_sessionEnds call numTurns maxTokens (List.range concurrency.toNat))
    { testName := "long_chat_session"
      policyName := runner.policyName
      config := [("num_turns", .number numTurns), ("concurrency", .number concurrency)]
      durationS := c.durationS }
  dsimp only at hcount
  obtain ⟨hsuccess, hfailed, hlatencies, htotal, herror⟩ := hcount
  have hlength : (sessionEnds call numTurns maxTokens (List.range concurrency.toNat)).length =
      concurrency.toNat := by
    rw [sessionEnds, List.length_map, List.length_range]
  rw [hlength] at hfailed htotal
  rw [runLongChatSession_eq]
  refine ⟨_, rfl, ?_, ?_, ?_, ?_, ?_⟩
  · rw [StressTestResult.successfulRequests_finish, hsuccess]
    exact Nat.zero_add _
  · rw [StressTestResult.failedRequests_finish, hfailed]
    exact Nat.zero_add _
  · rw [StressTestResult.latenciesMs_finish, StressTestResult.successfulRequests_finish,
      hlatencies, hsuccess]
    rfl
  · rw [StressTestResult.totalRequests_finish, htotal]
    exact Int.zero_add _
  · rw [StressTestResult.errorRate_finish, StressTestResult.totalRequests_finish,
      StressTestResult.failedRequests_finish, herror]

/-- Of `m` sessions of `n` turns, `k` return: turns answered and sessions failed
make up all turns in no other case. -/
theorem sum_eq_turns_iff {n : Int} {k m : Nat} (hk : k ≤ m) :
    ((n.toNat * k : Nat) : Int) + (m - k) = n * m ↔ (0 ≤ n ∨ m = 0) ∧ (n = 1 ∨ k = m) := by
  constructor
  · intro hsum
    push_cast at hsum
    have hnonneg : 0 ≤ n ∨ m = 0 := by
      by_contra hneg
      push Not at hneg
      have hturns : n.toNat = 0 := by omega
      have hlt := mul_neg_of_neg_of_pos hneg.1 (Int.natCast_pos.mpr (Nat.pos_of_ne_zero hneg.2))
      rw [hturns] at hsum
      omega
    refine ⟨hnonneg, ?_⟩
    rcases hnonneg with hpos | hzero
    · rw [Int.toNat_of_nonneg hpos] at hsum
      have hmissed : (n - 1) * (m - k : Int) = 0 := by linarith
      rcases mul_eq_zero.mp hmissed with hone | hnone
      · exact .inl (by omega)
      · exact .inr (by omega)
    · exact .inr (by omega)
  · rintro ⟨hpos | hzero, hturns⟩
    · push_cast
      rw [Int.toNat_of_nonneg hpos]
      rcases hturns with hone | hall
      · rw [hone]
        ring
      · rw [hall]
        ring
    · have hnone : k = 0 := by omega
      rw [hzero, hnone]
      simp

/-- The long chat test adds up exactly if each session has one turn, or every
turn of every session is answered. -/
theorem accounts_runLongChatSession_iff (runner : StressTestRunner) (c : TestConditions)
    (call : Nat → Nat → String → Int → CallOutcome) (numTurns concurrency maxTokens : Int) :
    Accounts (runner.runLongChatSession c call numTurns concurrency maxTokens) ↔
      (0 ≤ numTurns ∨ concurrency ≤ 0) ∧
        (numTurns = 1 ∨ ∀ s < concurrency.toNat, Answered (call s) numTurns maxTokens) := by
  obtain ⟨result, hreturn, hsuccess, hfailed, hlatencies, htotal, herror⟩ :=
    runLongChatSession_spec runner c call numTurns concurrency maxTokens
  have hle := succeeded_sessionEnds_le call numTurns maxTokens (List.range concurrency.toNat)
  have hall := succeeded_sessionEnds_eq_iff call numTurns maxTokens
    (List.range concurrency.toNat)
  rw [List.length_range] at hle hall
  simp only [List.mem_range] at hall
  have hsum : (result.successfulRequests : Int) + result.failedRequests = result.totalRequests ↔
      (0 ≤ numTurns ∨ concurrency ≤ 0) ∧
        (numTurns = 1 ∨ ∀ s < concurrency.toNat, Answered (call s) numTurns maxTokens) := by
    have hfailed' : (result.failedRequests : Int) = concurrency.toNat -
        succeeded (sessionEnds call numTurns maxTokens (List.range concurrency.toNat)) := by
      omega
    rw [hsuccess, hfailed', htotal, sum_eq_turns_iff hle, hall, Int.toNat_eq_zero]
  constructor
  · intro haccounts
    exact hsum.mp (haccounts result _ hreturn).total
  · intro hturns result' calls hreturn'
    rw [hreturn] at hreturn'
    cases hreturn'
    have htotal' := hsum.mpr hturns
    refine ⟨htotal', hlatencies, ?_, ?_⟩
    · rw [hsuccess]
      rcases hturns.2 with hone | hanswered
      · rw [hone]
        exact (Nat.one_mul _).trans
          (succeeded_sessionCalls_of_one call maxTokens (List.range concurrency.toNat)).symm
      · rw [hall.mpr hanswered, (succeeded_of_answered call numTurns maxTokens
          (List.range concurrency.toNat) (fun s hs => hanswered s (List.mem_range.mp hs))).2,
          List.length_range]
    · rw [herror]
      split_ifs <;> first | rfl | omega

/-- **The stress tests account for their requests, sessions only if answered.**

However the calls end: a result of the bursty, prefix, mixed or spike test
counts each call once, has a latency for each that succeeded and their failed
share as error rate.  The long chat test does so exactly if the number of turns
is not negative (or there is no session), and sessions have one turn or every
turn of every session is answered. -/
theorem stress_accounting_iff (runner : StressTestRunner) (c : TestConditions) (maxTokens : Int) :
    (∀ call arrivalRate burstSize durationS contextLength,
      Accounts (runner.runBurstyArrivals c call arrivalRate burstSize durationS contextLength
        maxTokens)) ∧
    (∀ call sharedPrefixChars numVariations concurrency,
      Accounts (runner.runRepeatedPrefixReuse c call sharedPrefixChars numVariations concurrency
        maxTokens)) ∧
    (∀ call contextLengths concurrency nRequests,
      Accounts (runner.runMixedContextBatch c call contextLengths concurrency nRequests
        maxTokens)) ∧
    (∀ call rampUpS peakConcurrency peakDurationS contextLength,
      Accounts (runner.runMemorySpike c call rampUpS peakConcurrency peakDurationS contextLength
        maxTokens)) ∧
    (∀ call numTurns concurrency,
      Accounts (runner.runLongChatSession c call numTurns concurrency maxTokens) ↔
        (0 ≤ numTurns ∨ concurrency ≤ 0) ∧
          (numTurns = 1 ∨ ∀ s < concurrency.toNat, Answered (call s) numTurns maxTokens)) := by
  constructor
  · intro call arrivalRate burstSize durationS contextLength
    exact accounts_runBurstyArrivals runner c call arrivalRate burstSize durationS contextLength
      maxTokens
  constructor
  · intro call sharedPrefixChars numVariations concurrency
    exact accounts_runRepeatedPrefixReuse runner c call sharedPrefixChars numVariations
      concurrency maxTokens
  constructor
  · intro call contextLengths concurrency nRequests
    exact accounts_runMixedContextBatch runner c call contextLengths concurrency nRequests
      maxTokens
  constructor
  · intro call rampUpS peakConcurrency peakDurationS contextLength
    exact accounts_runMemorySpike runner c call rampUpS peakConcurrency peakDurationS
      contextLength maxTokens
  · intro call numTurns concurrency
    exact accounts_runLongChatSession_iff runner c call numTurns concurrency maxTokens

/-- One session of two turns, the second of which raises: one answered request
and one failed one are counted as one failed of two. -/
theorem interrupted_session_not_accounted :
    ¬Accounts (runLongChatSession {} { elapsed := [], durationS := 1, seeded := id, pick := id }
      (fun _ turn _ _ => if turn = 0 then .ok 12 else .error (.other "500 Internal Server Error"))
      2 1 128) := by
  intro h
  have htotal := (h _ _ rfl).total
  revert htotal
  decide +kernel

end StressTestRunner

end KVOrchestrator.Ports
