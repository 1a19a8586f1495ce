import KVOrchestrator.Ports.GenerateCall
import KVOrchestrator.Ports.QualityMetrics
import KVOrchestrator.Verified.Dynamics

/-!
# The in-flight registry (`src/serving/vllm_engine.py`)

`generate` and `stream_generate` register their request when they start and
take it out again at the end of their body.  Each is a coroutine that is
suspended at one of a few points; what resumes it there, and how, is the
environment's step.  There is no `finally`: an exception of the engine, a
cancellation and a consumer that stops its stream leave the body before the
entry is taken out, and the mock stream has no line that takes it out.

A call is *holding* while it is at a point from which its body still takes the
entry out.  A step is clean if it does not lead a call past that line
(`Clean`); when no call is active, the registry is empty exactly if all steps
were clean (`in_flight_empty_iff`).
-/

namespace KVOrchestrator.Ports

open KVOrchestrator.Verified

/-! ## Outputs of the underlying engine -/

structure CompletionOutput where
  text : String
  tokenIds : List Nat := []
  finishReason : Option String := none

structure RequestOutput where
  outputs : List CompletionOutput
  promptTokenIds : List Nat := []
  finished : Bool := false

/-- The variables of `generate` while it consumes outputs. -/
structure GenerateVars where
  start : ℚ
  ttftMs : ℚ := -1
  outputText : String := ""
  finishReason : String := "stop"
  promptTokens : Nat := 0
  generatedTokens : Nat := 0

namespace GenerateVars

/-- One pass of the loop of `generate`. -/
def receive (vars : GenerateVars) (output : RequestOutput) (now : ℚ) :
    Except String GenerateVars :=
  let vars :=
    if vars.ttftMs < 0 ∧ output.outputs ≠ [] then
      { vars with ttftMs := (now - vars.start) * 1000 }
    else vars
  if output.finished then
    match output.outputs with
    | [] => .error "IndexError: list index out of range"
    | best :: _ =>
        .ok
          { vars with
            outputText := best.text
            finishReason :=
              match best.finishReason with
              | some reason => if reason = "" then "stop" else reason
              | none => "stop"
            promptTokens := output.promptTokenIds.length
            generatedTokens := best.tokenIds.length }
  else .ok vars

/-- The result once the outputs have ended. -/
def result (vars : GenerateVars) (rid : String) (now : ℚ) : GenerationResult :=
  let totalMs := (now - vars.start) * 1000
  { requestId := rid
    text := vars.outputText
    promptTokens := vars.promptTokens
    generatedTokens := vars.generatedTokens
    ttftMs := max vars.ttftMs 0
    tpotMs :=
      if vars.generatedTokens > 0 then
        (totalMs - vars.ttftMs) / max vars.generatedTokens 1
      else 0
    totalLatencyMs := totalMs
    finishReason := vars.finishReason }

end GenerateVars

/-- The placeholder result of `_mock_generate`. -/
def mockResult (rid prompt : String) (start now : ℚ) : GenerationResult :=
  let totalMs := (now - start) * 1000
  { requestId := rid
    text := "[MOCK] Response to: " ++ String.ofList (prompt.toList.take 80)
    promptTokens := (split prompt).length
    generatedTokens := 8
    ttftMs := totalMs * (1 / 5)
    tpotMs := totalMs * (4 / 5) / 8
    totalLatencyMs := totalMs
    finishReason := "stop" }

/-! ## Calls -/

inductive EngineCallKind where
  | generate (prompt : String)
  | stream
  deriving DecidableEq, Repr

def EngineCallKind.isGenerate : EngineCallKind → Bool
  | .generate _ => true
  | .stream => false

/-- How a call ends. -/
inductive EngineCallEnd where
  | returned (result : GenerationResult)
  /-- The stream has no more text. -/
  | exhausted
  | raised (message : String)
  /-- The consumer closed the stream. -/
  | closed
  | cancelled

/-- Where a call is suspended. -/
inductive CallPoint where
  /-- `_mock_generate`, asleep. -/
  | mockSleep (prompt : String) (start : ℚ)
  /-- The mock stream, at its `yield`. -/
  | mockYield (token : String) (rest : List String)
  /-- The mock stream, asleep after a `yield`. -/
  | mockPause (rest : List String)
  /-- `generate`, waiting for the engine. -/
  | generating (vars : GenerateVars)
  /-- `stream_generate`, waiting for the engine. -/
  | streaming (prevLen : Nat)
  /-- `stream_generate`, at its `yield`; `textLen` is `len(text)`. -/
  | yielding (delta : String) (textLen : Nat)
  /-- Waiting for the policy cycle, with what is returned after it. -/
  | policyCheck (ending : EngineCallEnd)

namespace CallPoint

/-- The rest of the body takes the entry out. -/
def holds : CallPoint → Bool
  | .mockSleep _ _ => true
  | .mockYield _ _ => false
  | .mockPause _ => false
  | .generating _ => true
  | .streaming _ => true
  | .yielding _ _ => true
  | .policyCheck _ => false

def awaitsEngine : CallPoint → Bool
  | .mockSleep _ _ => false
  | .mockYield _ _ => false
  | .mockPause _ => false
  | .generating _ => true
  | .streaming _ => true
  | .yielding _ _ => false
  | .policyCheck _ => false

/-- The consumer has the control. -/
def atYield : CallPoint → Bool
  | .mockSleep _ _ => false
  | .mockYield _ _ => true
  | .mockPause _ => false
  | .generating _ => false
  | .streaming _ => false
  | .yielding _ _ => true
  | .policyCheck _ => false

end CallPoint

/-! ## The engine -/

/-- `InstrumentedVLLMEngine`, with the calls in progress and how the others
ended. -/
structure InstrumentedVLLMEngine where
  vllmAvailable : Bool
  hasPolicyEngine : Bool := false
  policyIntervalMs : ℚ := 50
  lastPolicyCheck : ℚ := 0
  initialized : Bool := false
  /-- `self._engine is not None` -/
  engineBuilt : Bool := false
  inFlight : OrdDict String ℚ := OrdDict.empty
  calls : OrdDict String CallPoint := OrdDict.empty
  ended : List (String × EngineCallEnd) := []

/-- What can happen: a call starts, the engine or the event loop resumes it, or
it is interrupted at the point where it is suspended. -/
inductive EngineStep where
  /-- A call starts; `initError` and `paramsError` are the exceptions of building
  the engine and the sampling parameters, where they are built and raise. -/
  | start (kind : EngineCallKind) (requestId : Option String) (uuid : String) (now : ℚ)
      (initError paramsError : Option String)
  | output (rid : String) (output : RequestOutput) (now : ℚ)
  | outputsEnd (rid : String) (now : ℚ)
  | engineRaise (rid : String) (message : String)
  /-- A sleep is over, or the consumer asks for more text. -/
  | resume (rid : String) (now : ℚ)
  /-- The policy cycle is over; an exception in it is logged. -/
  | policyDone (rid : String) (error : Option String)
  | close (rid : String)
  | cancel (rid : String)

/-- The request a step is about. -/
def EngineStep.rid : EngineStep → String
  | .start _ requestId uuid _ _ _ => RequestHandler.chooseId requestId uuid
  | .output rid _ _ => rid
  | .outputsEnd rid _ => rid
  | .engineRaise rid _ => rid
  | .resume rid _ => rid
  | .policyDone rid _ => rid
  | .close rid => rid
  | .cancel rid => rid

/-- The request that starts with a step. -/
def EngineStep.starts? : EngineStep → Option String
  | .start _ requestId uuid _ _ _ => some (RequestHandler.chooseId requestId uuid)
  | _ => none

/-- The requests that start in a run. -/
def startIds (steps : List EngineStep) : List String := steps.filterMap EngineStep.starts?

namespace InstrumentedVLLMEngine

/-- The call waits at a point. -/
def suspend (s : InstrumentedVLLMEngine) (rid : String) (point : CallPoint) :
    InstrumentedVLLMEngine :=
  { s with calls := s.calls.set rid point }

/-- The call is over. -/
def finish (s : InstrumentedVLLMEngine) (rid : String) (ending : EngineCallEnd) :
    InstrumentedVLLMEngine :=
  { s with
    calls := s.calls.erase rid
    ended := s.ended ++ [(rid, ending)] }

/-- `self._in_flight[rid] = start` -/
def register (s : InstrumentedVLLMEngine) (rid : String) (start : ℚ) : InstrumentedVLLMEngine :=
  { s with inFlight := s.inFlight.set rid start }

/-- `self._in_flight.pop(rid, None)` -/
def release (s : InstrumentedVLLMEngine) (rid : String) : InstrumentedVLLMEngine :=
  { s with inFlight := s.inFlight.erase rid }

/-- `initialize()`: build the vLLM engine, unless that has been done. -/
def initializeEngine (s : InstrumentedVLLMEngine) (error : Option String) :
    Except String InstrumentedVLLMEngine :=
  if s.initialized then .ok s
  else if !s.vllmAvailable then .ok { s with initialized := true }
  else
    match error with
    | some message => .error message
    | none => .ok { s with engineBuilt := true, initialized := true }

/-- Whether the calls are mock calls. -/
def mock (s : InstrumentedVLLMEngine) : Bool := !s.vllmAvailable || !s.engineBuilt

/-- The mock stream up to its next suspension. -/
def mockStream (s : InstrumentedVLLMEngine) (rid : String) : List String → InstrumentedVLLMEngine
  | [] => s.finish rid .exhausted
  | token :: rest => s.suspend rid (.mockYield (token ++ " ") rest)

/-- Trigger a policy check if the interval has elapsed, and end the call. -/
def maybeTriggerPolicy (s : InstrumentedVLLMEngine) (rid : String) (ending : EngineCallEnd)
    (now : ℚ) : InstrumentedVLLMEngine :=
  if now * 1000 - s.lastPolicyCheck ≥ s.policyIntervalMs then
    let s := { s with lastPolicyCheck := now * 1000 }
    if s.hasPolicyEngine then s.suspend rid (.policyCheck ending) else s.finish rid ending
  else s.finish rid ending

/-- The body of a call from its registration to its first suspension. -/
def begin (s : InstrumentedVLLMEngine) (kind : EngineCallKind) (rid : String) (now : ℚ)
    (paramsError : Option String) : InstrumentedVLLMEngine :=
  let s := s.register rid now
  if s.mock then
    match kind with
    | .generate prompt => s.suspend rid (.mockSleep prompt now)
    | .stream => s.mockStream rid (split ("[mock response for request " ++ rid ++ "]"))
  else
    match paramsError with
    | some message => s.finish rid (.raised message)
    | none =>
        match kind with
        | .generate _ => s.suspend rid (.generating { start := now })
        | .stream => s.suspend rid (.streaming 0)

/-- An output of the engine arrives. -/
def receive (s : InstrumentedVLLMEngine) (rid : String) (output : RequestOutput) (now : ℚ) :
    CallPoint → InstrumentedVLLMEngine
  | .generating vars =>
      match vars.receive output now with
      | .ok vars => s.suspend rid (.generating vars)
      | .error message => s.finish rid (.raised message)
  | .streaming prevLen =>
      match output.outputs with
      | [] => s
      | best :: _ =>
          let delta := sliceFrom best.text.toList prevLen
          if delta.isEmpty then s.suspend rid (.streaming best.text.length)
          else s.suspend rid (.yielding (String.ofList delta) best.text.length)
  | _ => s

/-- The outputs of the engine are at their end. -/
def outputsEnd (s : InstrumentedVLLMEngine) (rid : String) (now : ℚ) :
    CallPoint → InstrumentedVLLMEngine
  | .generating vars =>
      (s.release rid).maybeTriggerPolicy rid (.returned (vars.result rid now)) now
  | .streaming _ => (s.release rid).maybeTriggerPolicy rid .exhausted now
  | _ => s

/-- The call goes on after a sleep or a `yield`. -/
def resume (s : InstrumentedVLLMEngine) (rid : String) (now : ℚ) :
    CallPoint → InstrumentedVLLMEngine
  | .mockSleep prompt start =>
      (s.release rid).finish rid (.returned (mockResult rid prompt start now))
  | .mockYield _ rest => s.suspend rid (.mockPause rest)
  | .mockPause rest => s.mockStream rid rest
  | .yielding _ textLen => s.suspend rid (.streaming textLen)
  | _ => s

/-- One step on a call that is suspended at a point. -/
def stepAt (s : InstrumentedVLLMEngine) (point : CallPoint) : EngineStep → InstrumentedVLLMEngine
  | .start _ _ _ _ _ _ => s
  | .output rid output now => s.receive rid output now point
  | .outputsEnd rid now => s.outputsEnd rid now point
  | .engineRaise rid message =>
      if point.awaitsEngine then s.finish rid (.raised message) else s
  | .resume rid now => s.resume rid now point
  | .policyDone rid _ =>
      match point with
      | .policyCheck ending => s.finish rid ending
      | _ => s
  | .close rid => if point.atYield then s.finish rid .closed else s
  | .cancel rid => if point.atYield then s else s.finish rid .cancelled

/-- One step; one about a call that is not in progress does nothing. -/
def step (s : InstrumentedVLLMEngine) (a : EngineStep) : InstrumentedVLLMEngine :=
  match a with
  | .start kind _ _ now initError paramsError =>
      match s.initializeEngine initError with
      | .error message => { s with ended := s.ended ++ [(a.rid, .raised message)] }
      | .ok s => s.begin kind a.rid now paramsError
  | _ =>
      match s.calls.get? a.rid with
      | none => s
      | some point => s.stepAt point a

/-! ## What a step does to the entry of its request -/

/-- The request has an entry. -/
def registered (s : InstrumentedVLLMEngine) (rid : String) : Bool := (s.inFlight.get? rid).isSome

/-- The request has a call that still takes the entry out. -/
def holding (s : InstrumentedVLLMEngine) (rid : String) : Bool := (s.calls.get? rid).any (·.holds)

section Updates

variable (s : InstrumentedVLLMEngine) (rid : String)

@[simp] theorem registered_register_self (start : ℚ) :
    (s.register rid start).registered rid = true := by
  simp [registered, register]

@[simp] theorem registered_release_self : (s.release rid).registered rid = false := by
  simp [registered, release]

@[simp] theorem get?_calls_suspend_self (point : CallPoint) :
    (s.suspend rid point).calls.get? rid = some point :=
  OrdDict.get?_set_self _ _ _

@[simp] theorem get?_calls_finish_self (ending : EngineCallEnd) :
    (s.finish rid ending).calls.get? rid = none :=
  OrdDict.get?_erase_self _ _

@[simp] theorem holding_suspend_self (point : CallPoint) :
    (s.suspend rid point).holding rid = point.holds := by
  simp [holding]

@[simp] theorem holding_finish_self (ending : EngineCallEnd) :
    (s.finish rid ending).holding rid = false := by
  simp [holding]

/-- The steps of a request touch its own entries only. -/
structure SameElsewhere (s s' : InstrumentedVLLMEngine) (rid : String) : Prop where
  inFlight : ∀ rid', rid' ≠ rid → s'.inFlight.get? rid' = s.inFlight.get? rid'
  calls : ∀ rid', rid' ≠ rid → s'.calls.get? rid' = s.calls.get? rid'

variable {s rid}

theorem SameElsewhere.refl : SameElsewhere s s rid := ⟨fun _ _ => rfl, fun _ _ => rfl⟩

theorem SameElsewhere.suspend {s' : InstrumentedVLLMEngine} (h : SameElsewhere s s' rid)
    (point : CallPoint) : SameElsewhere s (s'.suspend rid point) rid where
  inFlight := h.inFlight
  calls rid' hne := (OrdDict.get?_set_of_ne _ hne _).trans (h.calls rid' hne)

theorem SameElsewhere.finish {s' : InstrumentedVLLMEngine} (h : SameElsewhere s s' rid)
    (ending : EngineCallEnd) : SameElsewhere s (s'.finish rid ending) rid where
  inFlight := h.inFlight
  calls rid' hne := (OrdDict.get?_erase_of_ne _ hne).trans (h.calls rid' hne)

theorem SameElsewhere.register {s' : InstrumentedVLLMEngine} (h : SameElsewhere s s' rid)
    (start : ℚ) : SameElsewhere s (s'.register rid start) rid where
  inFlight rid' hne := (OrdDict.get?_set_of_ne _ hne _).trans (h.inFlight rid' hne)
  calls := h.calls

theorem SameElsewhere.release {s' : InstrumentedVLLMEngine} (h : SameElsewhere s s' rid) :
    SameElsewhere s (s'.release rid) rid where
  inFlight rid' hne := (OrdDict.get?_erase_of_ne _ hne).trans (h.inFlight rid' hne)
  calls := h.calls

theorem SameElsewhere.mockStream {s' : InstrumentedVLLMEngine} (h : SameElsewhere s s' rid)
    (tokens : List String) : SameElsewhere s (s'.mockStream rid tokens) rid := by
  cases tokens with
  | nil => exact h.finish _
  | cons token rest => exact h.suspend _

theorem SameElsewhere.maybeTriggerPolicy {s' : InstrumentedVLLMEngine}
    (h : SameElsewhere s s' rid) (ending : EngineCallEnd) (now : ℚ) :
    SameElsewhere s (s'.maybeTriggerPolicy rid ending now) rid := by
  rw [InstrumentedVLLMEngine.maybeTriggerPolicy]
  split
  · dsimp only
    split
    · exact ⟨h.inFlight, (h.suspend _).calls⟩
    · exact ⟨h.inFlight, (h.finish ending).calls⟩
  · exact h.finish ending

theorem SameElsewhere.begin {s' : InstrumentedVLLMEngine} (h : SameElsewhere s s' rid)
    (kind : EngineCallKind) (now : ℚ) (paramsError : Option String) :
    SameElsewhere s (s'.begin kind rid now paramsError) rid := by
  have hregister := h.register now
  unfold InstrumentedVLLMEngine.begin
  dsimp only
  split
  · cases kind with
    | generate prompt => exact hregister.suspend _
    | stream => exact hregister.mockStream _
  · cases paramsError with
    | some message => exact hregister.finish _
    | none =>
        cases kind with
        | generate prompt => exact hregister.suspend _
        | stream => exact hregister.suspend _

/-- Building the engine leaves the requests alone. -/
theorem sameElsewhere_of_initialized {s s' : InstrumentedVLLMEngine} {error : Option String}
    (h : s.initializeEngine error = .ok s') : s'.inFlight = s.inFlight ∧ s'.calls = s.calls := by
  unfold initializeEngine at h
  split at h
  · cases h
    exact ⟨rfl, rfl⟩
  · split at h
    · cases h
      exact ⟨rfl, rfl⟩
    · cases error with
      | some message => cases h
      | none =>
          cases h
          exact ⟨rfl, rfl⟩

/-- Where a call can go on after a step. -/
inductive NextPoint : CallPoint → EngineStep → CallPoint → Prop where
  | generate (rid : String) (output : RequestOutput) (now : ℚ) (vars vars' : GenerateVars) :
      NextPoint (.generating vars) (.output rid output now) (.generating vars')
  | streamPast (rid : String) (output : RequestOutput) (now : ℚ) (prevLen textLen : Nat) :
      NextPoint (.streaming prevLen) (.output rid output now) (.streaming textLen)
  | streamText (rid : String) (output : RequestOutput) (now : ℚ) (prevLen : Nat) (delta : String)
      (textLen : Nat) :
      NextPoint (.streaming prevLen) (.output rid output now) (.yielding delta textLen)
  | mockPause (rid : String) (now : ℚ) (token : String) (rest : List String) :
      NextPoint (.mockYield token rest) (.resume rid now) (.mockPause rest)
  | mockYield (rid : String) (now : ℚ) (token : String) (rest : List String) :
      NextPoint (.mockPause (token :: rest)) (.resume rid now) (.mockYield (token ++ " ") rest)
  | streamOn (rid : String) (now : ℚ) (delta : String) (textLen : Nat) :
      NextPoint (.yielding delta textLen) (.resume rid now) (.streaming textLen)

/-- What a step makes of the engine: its call stays, goes on at another point,
ends, or takes the entry out and ends, with a policy check or without. -/
inductive StepForm (s : InstrumentedVLLMEngine) (point : CallPoint) (a : EngineStep) :
    InstrumentedVLLMEngine → Prop where
  | stays : StepForm s point a s
  | goesOn {point' : CallPoint} (h : NextPoint point a point') :
      StepForm s point a (s.suspend a.rid point')
  | ends (ending : EngineCallEnd) : StepForm s point a (s.finish a.rid ending)
  | releases (ending : EngineCallEnd) :
      StepForm s point a ((s.release a.rid).finish a.rid ending)
  | checks (ending : EngineCallEnd) (now : ℚ) :
      StepForm s point a ((s.release a.rid).maybeTriggerPolicy a.rid ending now)

/-- All forms of a step. -/
theorem stepForm_stepAt (s : InstrumentedVLLMEngine) (point : CallPoint) (a : EngineStep) :
    StepForm s point a (s.stepAt point a) := by
  cases a with
  | start kind requestId uuid now initError paramsError => exact .stays
  | output rid output now =>
      cases point with
      | generating vars =>
          simp only [InstrumentedVLLMEngine.stepAt, receive]
          split
          · exact .goesOn (.generate _ _ _ _ _)
          · exact .ends _
      | streaming prevLen =>
          simp only [InstrumentedVLLMEngine.stepAt, receive]
          split
          · exact .stays
          · split
            · exact .goesOn (.streamPast _ _ _ _ _)
            · exact .goesOn (.streamText _ _ _ _ _ _)
      | _ => exact .stays
  | outputsEnd rid now =>
      cases point with
      | generating vars => exact .checks _ _
      | streaming prevLen => exact .checks _ _
      | _ => exact .stays
  | engineRaise rid message =>
      rw [InstrumentedVLLMEngine.stepAt]
      split
      · exact .ends _
      · exact .stays
  | resume rid now =>
      cases point with
      | mockSleep prompt start => exact .releases _
      | mockYield token rest => exact .goesOn (.mockPause _ _ _ _)
      | mockPause rest =>
          cases rest with
          | nil => exact .ends _
          | cons token rest => exact .goesOn (.mockYield _ _ _ _)
      | yielding delta textLen => exact .goesOn (.streamOn _ _ _ _)
      | _ => exact .stays
  | policyDone rid error =>
      cases point with
      | policyCheck ending => exact .ends _
      | _ => exact .stays
  | close rid =>
      rw [InstrumentedVLLMEngine.stepAt]
      split
      · exact .ends _
      · exact .stays
  | cancel rid =>
      rw [InstrumentedVLLMEngine.stepAt]
      split
      · exact .stays
      · exact .ends _

theorem SameElsewhere.of_stepForm {point : CallPoint} {a : EngineStep}
    {s' : InstrumentedVLLMEngine} (h : StepForm s point a s') : SameElsewhere s s' a.rid := by
  have hrefl : SameElsewhere s s a.rid := .refl
  cases h with
  | stays => exact hrefl
  | goesOn h => exact hrefl.suspend _
  | ends ending => exact hrefl.finish ending
  | releases ending => exact hrefl.release.finish ending
  | checks ending now => exact hrefl.release.maybeTriggerPolicy ending now

/-- A step touches the entries of its own request only. -/
theorem SameElsewhere.step (a : EngineStep) : SameElsewhere s (s.step a) a.rid := by
  have hcall : SameElsewhere s
      (match s.calls.get? a.rid with
      | none => s
      | some point => s.stepAt point a) a.rid := by
    split
    · exact .refl
    · exact .of_stepForm (stepForm_stepAt s _ a)
  cases a with
  | start kind requestId uuid now initError paramsError =>
      rw [InstrumentedVLLMEngine.step]
      split
      · exact ⟨fun _ _ => rfl, fun _ _ => rfl⟩
      · rename_i s' hs'
        obtain ⟨hinFlight, hcalls⟩ := sameElsewhere_of_initialized hs'
        have hsame : SameElsewhere s s' (EngineStep.start kind requestId uuid now initError
            paramsError).rid :=
          ⟨fun rid' _ => congrArg (·.get? rid') hinFlight,
            fun rid' _ => congrArg (·.get? rid') hcalls⟩
        exact hsame.begin kind now paramsError
  | _ => exact hcall

end Updates

/-! ## Clean steps -/

/-- The step does not lead a call at the point past the line that takes its
entry out. -/
def CleanAt (point : CallPoint) : EngineStep → Prop
  | .start _ _ _ _ _ _ => True
  -- a finished output without completions is an `IndexError` in `generate`
  | .output _ output _ =>
      match point with
      | .generating _ => ¬(output.finished = true ∧ output.outputs = [])
      | _ => True
  | .outputsEnd _ _ => True
  | .engineRaise _ _ => point.awaitsEngine = false
  | .resume _ _ => True
  | .policyDone _ _ => True
  | .close _ => point.atYield = true → point.holds = false
  | .cancel _ => point.atYield = false → point.holds = false

/-- A call that starts is no mock stream, and in real mode its sampling parameters
are valid; another step is clean at the point its call is at. -/
def Clean (s : InstrumentedVLLMEngine) (a : EngineStep) : Prop :=
  match a with
  | .start kind _ _ _ initError paramsError =>
      ∀ s', s.initializeEngine initError = .ok s' →
        if s'.mock then kind.isGenerate = true else paramsError = none
  | _ => ∀ point, s.calls.get? a.rid = some point → CleanAt point a

/-! ## What a step does to its request

One lemma says it all: a step keeps the standing of its request, takes the entry
out, or registers the request, and an unclean one leaves an entry that no call
holds. -/

section Effects

variable (s s' : InstrumentedVLLMEngine) (rid : String)

/-- The entry and whether a call holds it are as before. -/
def Kept : Prop := s'.registered rid = s.registered rid ∧ s'.holding rid = s.holding rid

/-- A held entry is taken out. -/
def Released : Prop :=
  s.holding rid = true ∧ s'.registered rid = false ∧ s'.holding rid = false

/-- A held entry stays, and its call is gone. -/
def Dropped : Prop :=
  s.holding rid = true ∧ s'.registered rid = s.registered rid ∧ s'.holding rid = false

/-- The request is registered, and a call holds the entry or not. -/
def Entered (held : Bool) : Prop := s'.registered rid = true ∧ s'.holding rid = held

end Effects

section Points

variable {s : InstrumentedVLLMEngine} {point : CallPoint}

theorem holding_of_get? {rid : String} (h : s.calls.get? rid = some point) :
    s.holding rid = point.holds := by
  rw [holding, h]
  rfl

theorem released_of_maybeTriggerPolicy {rid : String} (hholding : s.holding rid = true)
    (ending : EngineCallEnd) (now : ℚ) :
    Released s ((s.release rid).maybeTriggerPolicy rid ending now) rid := by
  refine ⟨hholding, ?_⟩
  rw [maybeTriggerPolicy]
  split
  · dsimp only
    split
    · exact ⟨registered_release_self s rid, holding_suspend_self _ rid _⟩
    · exact ⟨registered_release_self s rid, holding_finish_self _ rid _⟩
  · exact ⟨registered_release_self s rid, holding_finish_self _ rid _⟩

theorem holding_mockStream (s : InstrumentedVLLMEngine) (rid : String) (tokens : List String) :
    (s.mockStream rid tokens).holding rid = false := by
  cases tokens with
  | nil => exact holding_finish_self s rid _
  | cons token rest => exact holding_suspend_self s rid _

theorem registered_mockStream (s : InstrumentedVLLMEngine) (rid rid' : String)
    (tokens : List String) : (s.mockStream rid tokens).registered rid' = s.registered rid' := by
  cases tokens with
  | nil => rfl
  | cons token rest => rfl

/-- An output is received, unless it is finished and has no completion. -/
theorem receive_error_iff (vars : GenerateVars) (output : RequestOutput) (now : ℚ) :
    (∃ message, vars.receive output now = .error message) ↔
      output.finished = true ∧ output.outputs = [] := by
  unfold GenerateVars.receive
  dsimp only
  cases hfinished : output.finished with
  | false => simp
  | true =>
      cases houtputs : output.outputs with
      | nil => simp
      | cons best rest => simp

section AtPoint

variable {rid : String} (hpoint : s.calls.get? rid = some point)

include hpoint

/-- A call that goes on at a point that holds as much. -/
theorem kept_suspend {point' : CallPoint} (hsame : point'.holds = point.holds) :
    Kept s (s.suspend rid point') rid := by
  refine ⟨rfl, ?_⟩
  rw [holding_suspend_self, holding_of_get? hpoint, hsame]

/-- A call that ends where it no longer holds the entry. -/
theorem kept_finish (hfalse : point.holds = false) (ending : EngineCallEnd) :
    Kept s (s.finish rid ending) rid := by
  refine ⟨rfl, ?_⟩
  rw [holding_finish_self, holding_of_get? hpoint, hfalse]

/-- A call that ends while it still holds the entry. -/
theorem dropped_finish (htrue : point.holds = true) (ending : EngineCallEnd) :
    Dropped s (s.finish rid ending) rid :=
  ⟨(holding_of_get? hpoint).trans htrue, rfl, holding_finish_self s rid ending⟩

theorem receive_cases (output : RequestOutput) (now : ℚ) :
    (CleanAt point (.output rid output now) ∧ Kept s (s.receive rid output now point) rid) ∨
      (¬CleanAt point (.output rid output now) ∧
        Dropped s (s.receive rid output now point) rid) := by
  cases point with
  | generating vars =>
      rw [CleanAt, ← receive_error_iff vars output now]
      simp only [receive]
      cases hreceive : vars.receive output now with
      | ok vars' =>
          refine .inl ⟨?_, kept_suspend hpoint rfl⟩
          rintro ⟨message, hmessage⟩
          cases hmessage
      | error message =>
          exact .inr ⟨fun hclean => hclean ⟨message, rfl⟩, dropped_finish hpoint rfl _⟩
  | streaming prevLen =>
      refine .inl ⟨trivial, ?_⟩
      simp only [receive]
      split
      · exact ⟨rfl, rfl⟩
      · split
        · exact kept_suspend hpoint rfl
        · exact kept_suspend hpoint rfl
  | _ => exact .inl ⟨trivial, rfl, rfl⟩

theorem outputsEnd_cases (now : ℚ) :
    Kept s (s.outputsEnd rid now point) rid ∨ Released s (s.outputsEnd rid now point) rid := by
  have hholding := holding_of_get? hpoint
  cases point with
  | generating vars => exact .inr (released_of_maybeTriggerPolicy hholding _ now)
  | streaming prevLen => exact .inr (released_of_maybeTriggerPolicy hholding _ now)
  | _ => exact .inl ⟨rfl, rfl⟩

theorem resume_cases (now : ℚ) :
    Kept s (s.resume rid now point) rid ∨ Released s (s.resume rid now point) rid := by
  have hholding := holding_of_get? hpoint
  cases point with
  | mockSleep prompt start =>
      exact .inr ⟨hholding, registered_release_self s rid, holding_finish_self _ rid _⟩
  | mockYield token rest => exact .inl (kept_suspend hpoint rfl)
  | mockPause rest =>
      exact .inl ⟨registered_mockStream s rid rid rest,
        (holding_mockStream s rid rest).trans hholding.symm⟩
  | yielding delta textLen => exact .inl (kept_suspend hpoint rfl)
  | _ => exact .inl ⟨rfl, rfl⟩

end AtPoint

/-- What a step does to a call at a point. -/
theorem stepAt_cases {a : EngineStep} (hpoint : s.calls.get? a.rid = some point) :
    (CleanAt point a ∧ (Kept s (s.stepAt point a) a.rid ∨ Released s (s.stepAt point a) a.rid)) ∨
      (¬CleanAt point a ∧ Dropped s (s.stepAt point a) a.rid) := by
  have hkept : Kept s s a.rid := ⟨rfl, rfl⟩
  cases a with
  | start kind requestId uuid now initError paramsError => exact .inl ⟨trivial, .inl hkept⟩
  | output rid output now =>
      rcases receive_cases hpoint output now with ⟨hclean, hkept⟩ | hunclean
      · exact .inl ⟨hclean, .inl hkept⟩
      · exact .inr hunclean
  | outputsEnd rid now => exact .inl ⟨trivial, outputsEnd_cases hpoint now⟩
  | engineRaise rid message =>
      rw [CleanAt, stepAt]
      cases point with
      | generating vars => exact .inr ⟨Bool.noConfusion, dropped_finish hpoint rfl _⟩
      | streaming prevLen => exact .inr ⟨Bool.noConfusion, dropped_finish hpoint rfl _⟩
      | _ => exact .inl ⟨rfl, .inl hkept⟩
  | resume rid now => exact .inl ⟨trivial, resume_cases hpoint now⟩
  | policyDone rid error =>
      refine .inl ⟨trivial, .inl ?_⟩
      cases point with
      | policyCheck ending => exact kept_finish hpoint rfl ending
      | _ => exact hkept
  | close rid =>
      rw [CleanAt, stepAt]
      cases point with
      | mockYield token rest => exact .inl ⟨fun _ => rfl, .inl (kept_finish hpoint rfl _)⟩
      | yielding delta textLen =>
          exact .inr ⟨fun h => Bool.noConfusion (h rfl), dropped_finish hpoint rfl _⟩
      | _ => exact .inl ⟨Bool.noConfusion, .inl hkept⟩
  | cancel rid =>
      rw [CleanAt, stepAt]
      cases point with
      | mockYield token rest => exact .inl ⟨Bool.noConfusion, .inl hkept⟩
      | yielding delta textLen => exact .inl ⟨Bool.noConfusion, .inl hkept⟩
      | mockPause rest => exact .inl ⟨fun _ => rfl, .inl (kept_finish hpoint rfl _)⟩
      | policyCheck ending => exact .inl ⟨fun _ => rfl, .inl (kept_finish hpoint rfl _)⟩
      | _ => exact .inr ⟨fun h => Bool.noConfusion (h rfl), dropped_finish hpoint rfl _⟩

theorem clean_iff {a : EngineStep} (hstarts : a.starts? = none) :
    Clean s a ↔ ∀ point, s.calls.get? a.rid = some point → CleanAt point a := by
  cases a with
  | start kind requestId uuid now initError paramsError => cases hstarts
  | _ => rfl

theorem step_eq {a : EngineStep} (hstarts : a.starts? = none) :
    s.step a = match s.calls.get? a.rid with
      | none => s
      | some point => s.stepAt point a := by
  cases a with
  | start kind requestId uuid now initError paramsError => cases hstarts
  | _ => rfl

/-- A call that starts is registered, and holds its entry if it is no mock stream
and its parameters are valid. -/
theorem entered_begin (s : InstrumentedVLLMEngine) (kind : EngineCallKind) (rid : String)
    (now : ℚ) (paramsError : Option String) :
    ((if s.mock then kind.isGenerate = true else paramsError = none) ∧
        Entered (s.begin kind rid now paramsError) rid true) ∨
      (¬(if s.mock then kind.isGenerate = true else paramsError = none) ∧
        Entered (s.begin kind rid now paramsError) rid false) := by
  have hregistered := registered_register_self s rid now
  have hsame : (s.register rid now).mock = s.mock := rfl
  unfold begin
  dsimp only
  rw [hsame]
  cases s.mock with
  | true =>
      rw [if_pos rfl, if_pos rfl]
      cases kind with
      | generate prompt => exact .inl ⟨rfl, hregistered, holding_suspend_self _ rid _⟩
      | stream =>
          refine .inr ⟨Bool.noConfusion, ?_, holding_mockStream _ rid _⟩
          exact (registered_mockStream _ rid rid _).trans hregistered
  | false =>
      simp only [Bool.false_eq_true, if_false]
      cases paramsError with
      | some message =>
          refine .inr ⟨?_, hregistered, holding_finish_self _ rid _⟩
          intro hnone
          cases hnone
      | none =>
          refine .inl ⟨rfl, ?_⟩
          cases kind with
          | generate prompt => exact ⟨hregistered, holding_suspend_self _ rid _⟩
          | stream => exact ⟨hregistered, holding_suspend_self _ rid _⟩

/-- What a step does to its request. -/
theorem step_cases (s : InstrumentedVLLMEngine) (a : EngineStep) :
    (Clean s a ∧ (Kept s (s.step a) a.rid ∨ Released s (s.step a) a.rid ∨
        (a.starts? = some a.rid ∧ Entered (s.step a) a.rid true))) ∨
      (¬Clean s a ∧ (Dropped s (s.step a) a.rid ∨
        (a.starts? = some a.rid ∧ Entered (s.step a) a.rid false))) := by
  cases hstarts : a.starts? with
  | none =>
      rw [clean_iff hstarts, step_eq hstarts]
      cases hpoint : s.calls.get? a.rid with
      | none =>
          refine .inl ⟨?_, .inl ⟨rfl, rfl⟩⟩
          intro point hsome
          cases hsome
      | some point =>
          rcases stepAt_cases hpoint with ⟨hclean, hkept | hreleased⟩ | ⟨hunclean, hdropped⟩
          · refine .inl ⟨?_, .inl hkept⟩
            rintro _ ⟨rfl⟩
            exact hclean
          · refine .inl ⟨?_, .inr (.inl hreleased)⟩
            rintro _ ⟨rfl⟩
            exact hclean
          · exact .inr ⟨fun h => hunclean (h point rfl), .inl hdropped⟩
  | some rid =>
      cases a with
      | start kind requestId uuid now initError paramsError =>
          cases hstarts
          rw [Clean, step]
          cases hinit : s.initializeEngine initError with
          | error message =>
              refine .inl ⟨?_, .inl ⟨rfl, rfl⟩⟩
              intro s' hs'
              cases hs'
          | ok s' =>
              rcases entered_begin s' kind (RequestHandler.chooseId requestId uuid) now
                paramsError with ⟨hclean, hentered⟩ | ⟨hunclean, hentered⟩
              · refine .inl ⟨?_, .inr (.inr ⟨rfl, hentered⟩)⟩
                rintro _ ⟨rfl⟩
                exact hclean
              · exact .inr ⟨fun h => hunclean (h s' rfl), .inr ⟨rfl, hentered⟩⟩
      | _ => cases hstarts

end Points

/-! ## Runs -/

/-- Every entry is held by a call. -/
def NoStray (s : InstrumentedVLLMEngine) : Prop :=
  ∀ rid, s.registered rid = true → s.holding rid = true

/-- The entries are the held ones. -/
def Matched (s : InstrumentedVLLMEngine) : Prop := ∀ rid, s.registered rid = s.holding rid

/-- A request that starts has no entry yet. -/
def Fresh (s : InstrumentedVLLMEngine) (a : EngineStep) : Prop :=
  ∀ rid, a.starts? = some rid → s.registered rid = false

section Steps

variable (s : InstrumentedVLLMEngine) (a : EngineStep)

theorem registered_step_of_ne {rid : String} (hne : rid ≠ a.rid) :
    (s.step a).registered rid = s.registered rid :=
  congrArg Option.isSome ((SameElsewhere.step a).inFlight rid hne)

theorem holding_step_of_ne {rid : String} (hne : rid ≠ a.rid) :
    (s.step a).holding rid = s.holding rid :=
  congrArg (Option.any _) ((SameElsewhere.step a).calls rid hne)

variable {s a}

/-- A clean step keeps the entries matched. -/
theorem matched_step (hclean : Clean s a) (h : s.Matched) : (s.step a).Matched := by
  intro rid
  by_cases hrid : rid = a.rid
  · rw [hrid]
    rcases step_cases s a with ⟨_, hkept | hreleased | hentered⟩ | ⟨hunclean, _⟩
    · rw [hkept.1, hkept.2]
      exact h a.rid
    · rw [hreleased.2.1, hreleased.2.2]
    · rw [hentered.2.1, hentered.2.2]
    · exact absurd hclean hunclean
  · rw [registered_step_of_ne s a hrid, holding_step_of_ne s a hrid]
    exact h rid

/-- An unclean step leaves an entry that no call holds. -/
theorem stray_of_not_clean (hunclean : ¬Clean s a) (h : s.Matched) : ¬(s.step a).NoStray := by
  intro hnone
  have hstray := hnone a.rid
  rcases step_cases s a with ⟨hclean, _⟩ | ⟨_, hdropped | hentered⟩
  · exact hunclean hclean
  · rw [hdropped.2.1, h, hdropped.1, hdropped.2.2] at hstray
    exact Bool.noConfusion (hstray rfl)
  · rw [hentered.2.1, hentered.2.2] at hstray
    exact Bool.noConfusion (hstray rfl)

/-- No step takes out an entry that no call holds. -/
theorem noStray_of_step (hfresh : Fresh s a) (h : (s.step a).NoStray) : s.NoStray := by
  intro rid hregistered
  have hstep := h rid
  by_cases hrid : rid = a.rid
  · rw [hrid] at hstep hregistered ⊢
    rcases step_cases s a with ⟨_, hkept | hreleased | hentered⟩ | ⟨_, hdropped | hentered⟩
    · rw [hkept.1, hkept.2] at hstep
      exact hstep hregistered
    · exact hreleased.1
    · rw [hfresh a.rid hentered.1] at hregistered
      cases hregistered
    · exact hdropped.1
    · rw [hfresh a.rid hentered.1] at hregistered
      cases hregistered
  · rw [registered_step_of_ne s a hrid, holding_step_of_ne s a hrid] at hstep
    exact hstep hregistered

/-- Only a start registers a request. -/
theorem registered_of_registered_step {rid : String} (h : (s.step a).registered rid = true) :
    s.registered rid = true ∨ a.starts? = some rid := by
  by_cases hrid : rid = a.rid
  · rw [hrid] at h ⊢
    rcases step_cases s a with ⟨_, hkept | hreleased | hentered⟩ | ⟨_, hdropped | hentered⟩
    · exact .inl (hkept.1.symm.trans h)
    · rw [hreleased.2.1] at h
      cases h
    · exact .inr hentered.1
    · exact .inl (hdropped.2.1.symm.trans h)
    · exact .inr hentered.1
  · rw [registered_step_of_ne s a hrid] at h
    exact .inl h

end Steps

/-- Distinct requests are fresh when they start. -/
theorem stepsMeet_fresh (steps : List EngineStep) :
    ∀ s : InstrumentedVLLMEngine, (startIds steps).Nodup →
      (∀ rid, s.registered rid = true → rid ∉ startIds steps) → StepsMeet step Fresh s steps := by
  induction steps with
  | nil => exact fun _ _ _ => trivial
  | cons a steps ih =>
      intro s hdistinct hnew
      have hids : startIds (a :: steps) = a.starts?.toList ++ startIds steps := by
        rw [startIds, List.filterMap_cons, startIds]
        cases a.starts? <;> rfl
      rw [hids] at hdistinct hnew
      obtain ⟨_, hrest, hdisjoint⟩ := List.nodup_append.mp hdistinct
      refine ⟨?_, ih (s.step a) hrest ?_⟩
      · intro rid hstarts
        rw [Bool.eq_false_iff]
        intro hregistered
        apply hnew rid hregistered
        rw [hstarts]
        exact List.mem_append_left _ (List.mem_singleton_self rid)
      · intro rid hregistered hlater
        rcases registered_of_registered_step hregistered with hold | hstarts
        · exact hnew rid hold (List.mem_append_right _ hlater)
        · rw [hstarts] at hdisjoint
          exact hdisjoint rid (List.mem_singleton_self rid) rid hlater rfl

/-- No call is active. -/
def Quiet (s : InstrumentedVLLMEngine) : Prop := s.calls.entries = []

/-- The registry is empty. -/
def Drained (s : InstrumentedVLLMEngine) : Prop := s.inFlight.entries = []

theorem holding_of_quiet {s : InstrumentedVLLMEngine} (h : s.Quiet) (rid : String) :
    s.holding rid = false := by
  rw [holding, OrdDict.get?, h]
  rfl

theorem registered_of_drained {s : InstrumentedVLLMEngine} (h : s.Drained) (rid : String) :
    s.registered rid = false := by
  rw [registered, OrdDict.get?, h]
  rfl

/-- With no call active, the registry is empty exactly if no entry is stray. -/
theorem drained_iff_noStray {s : InstrumentedVLLMEngine} (hquiet : s.Quiet) :
    s.Drained ↔ s.NoStray := by
  constructor
  · intro hdrained rid hregistered
    rw [registered_of_drained hdrained] at hregistered
    cases hregistered
  · intro hnone
    rw [Drained, List.eq_nil_iff_forall_not_mem]
    rintro ⟨rid, start⟩ hmem
    have hregistered : s.registered rid = true := by
      rw [registered, (OrdDict.get?_eq_some_iff _ _ _).mpr hmem]
      rfl
    have hholding := hnone rid hregistered
    rw [holding_of_quiet hquiet] at hholding
    cases hholding

/-- **The registry is emptied exactly by clean runs.**

For every sequence of `generate` and `stream_generate` calls with distinct
request ids, in either mode, and every way their steps interleave and end: if
every step is clean, the registry is empty whenever no call is active.  If no
call is active in the end, the registry is empty exactly if every step was
clean. -/
theorem in_flight_empty_iff {s : InstrumentedVLLMEngine} (hquiet : s.Quiet) (hdrained : s.Drained)
    {steps : List EngineStep} (hdistinct : (startIds steps).Nodup) :
    (StepsMeet step Clean s steps →
      ∀ done, done <+: steps → (run step s done).Quiet → (run step s done).Drained) ∧
    ((run step s steps).Quiet → ((run step s steps).Drained ↔ StepsMeet step Clean s steps)) := by
  have hmatched : s.Matched := by
    intro rid
    rw [registered_of_drained hdrained, holding_of_quiet hquiet]
  have hfresh : StepsMeet step Fresh s steps := by
    apply stepsMeet_fresh steps s hdistinct
    intro rid hregistered
    rw [registered_of_drained hdrained] at hregistered
    cases hregistered
  have hstep : ∀ (s : InstrumentedVLLMEngine) (a : EngineStep), Fresh s a → Clean s a →
      s.Matched → (s.step a).Matched :=
    fun _ _ _ hclean h => matched_step hclean h
  have hnone : ∀ s : InstrumentedVLLMEngine, s.Matched → s.NoStray :=
    fun s h rid hregistered => (h rid).symm.trans hregistered
  have hbreak : ∀ (s : InstrumentedVLLMEngine) (a : EngineStep), Fresh s a → s.Matched →
      ¬Clean s a → ¬(s.step a).NoStray :=
    fun _ _ _ h hunclean => stray_of_not_clean hunclean h
  have hclean : Throughout step NoStray s steps ↔ StepsMeet step Clean s steps :=
    throughout_iff_stepsMeet_of_stepsMeet hstep hnone hbreak steps s hfresh hmatched
  constructor
  · intro hsteps done hdone hquiet'
    exact (drained_iff_noStray hquiet').mpr (hclean.mpr hsteps done hdone)
  · intro hquiet'
    rw [drained_iff_noStray hquiet', ← hclean]
    exact (throughout_iff_run_of_stepsMeet (fun _ _ => noStray_of_step) steps s hfresh).symm

/-- A `generate` call of the mock engine, from its start to its end. -/
def mockGenerateSteps : List EngineStep :=
  [.start (.generate "hello") (some "r1") "u1" 0 none none, .resume "r1" (1 / 100)]

/-- A `stream_generate` call of the mock engine: five tokens, a pause after each. -/
def mockStreamSteps : List EngineStep :=
  .start .stream (some "r1") "u1" 0 none none :: List.replicate 10 (.resume "r1" 1)

theorem in_flight_empty_iff_mock_generate :
    (run step { vllmAvailable := false } mockGenerateSteps).Quiet ∧
      ((run step { vllmAvailable := false } mockGenerateSteps).Drained ↔
        StepsMeet step Clean { vllmAvailable := false } mockGenerateSteps) := by
  have hquiet : (run step { vllmAvailable := false } mockGenerateSteps).Quiet := rfl
  exact ⟨hquiet, (in_flight_empty_iff (s := { vllmAvailable := false }) rfl rfl
    (by decide)).2 hquiet⟩

/-- A mock stream that is read to its end leaves its entry behind. -/
theorem mock_stream_leaks :
    (startIds mockStreamSteps).Nodup ∧
      (run step { vllmAvailable := false } mockStreamSteps).Quiet ∧
      ¬(run step { vllmAvailable := false } mockStreamSteps).Drained := by
  refine ⟨by decide, ?_, ?_⟩
  · show (run step { vllmAvailable := false } mockStreamSteps).calls.entries = []
    decide +kernel
  · show ¬(run step { vllmAvailable := false } mockStreamSteps).inFlight.entries = []
    decide +kernel

end InstrumentedVLLMEngine

end KVOrchestrator.Ports
