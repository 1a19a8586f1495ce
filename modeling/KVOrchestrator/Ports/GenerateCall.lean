import KVOrchestrator.Ports.RequestHandler

/-!
# The generate endpoint (`src/serving/api_server.py`)

`generate` submits the request, marks it started, awaits the engine, and then
reports the outcome to the handler and to the client.  What it reports is
decided in three places: after a normal return the request is marked completed
before the response is built; an `except Exception` clause marks it completed
with the error text; and a cancelled task passes both by.

Everything in the `try` body that can raise before the first `mark_completed`,
the engine, the sampling configuration, the Prometheus counters, counts as the
engine raising.  `outcome_faithful_iff` says for which outcomes the status that
is archived is the one the client sees.
-/

namespace KVOrchestrator.Ports

open KVOrchestrator.Verified

/-- What the handler reads of a request body. -/
structure GenerateRequest where
  prompt : String
  workloadType : Option String := none
  requestId : Option String := none
  deriving DecidableEq

/-- The metadata for the router: an empty workload type is none. -/
def GenerateRequest.taskMetadata (req : GenerateRequest) : Option (OrdDict String String) :=
  match req.workloadType with
  | none => none
  | some workloadType =>
      if workloadType = "" then none
      else some (OrdDict.empty.set "workload_type" workloadType)

/-- The result of the engine. -/
structure GenerationResult where
  requestId : String
  text : String
  promptTokens : Int
  generatedTokens : Int
  ttftMs : ℚ
  tpotMs : ℚ
  totalLatencyMs : ℚ
  finishReason : String := "stop"
  deriving DecidableEq, Repr

structure GenerateResponse where
  requestId : String
  text : String
  promptTokens : Int
  generatedTokens : Int
  ttftMs : ℚ
  tpotMs : ℚ
  latencyMs : ℚ
  finishReason : String
  deriving DecidableEq, Repr

/-- The response of a result, times rounded. -/
def GenerationResult.response (result : GenerationResult) : GenerateResponse where
  requestId := result.requestId
  text := result.text
  promptTokens := result.promptTokens
  generatedTokens := result.generatedTokens
  ttftMs := pyRound result.ttftMs 2
  tpotMs := pyRound result.tpotMs 2
  latencyMs := pyRound result.totalLatencyMs 2
  finishReason := result.finishReason

/-- What the client gets. -/
inductive ClientResult where
  | success (response : GenerateResponse)
  | httpError (statusCode : Nat) (detail : String)
  /-- The task was cancelled; there is no response. -/
  | aborted
  deriving DecidableEq, Repr

def ClientResult.isSuccess : ClientResult → Bool
  | .success _ => true
  | .httpError _ _ => false
  | .aborted => false

/-- How the wait for the engine ends. -/
inductive EngineOutcome where
  /-- Normal return; `buildError` is the text of the exception with which the
  response cannot be built from the result, if there is one. -/
  | returned (result : GenerationResult) (buildError : Option String)
  /-- An `Exception` with this text. -/
  | raised (message : String)
  /-- `CancelledError`, which is no `Exception`. -/
  | cancelled
  deriving DecidableEq, Repr

/-- The end of a call: the client's result, the records its `mark_completed`
calls archived, and the handler. -/
structure CallEnd where
  client : ClientResult
  archived : List RequestRecord
  handler : RequestHandler

namespace RequestHandler

/-- The `try` body after a normal return, up to the response. -/
def finishReturned (h : RequestHandler) (rid : String) (result : GenerationResult)
    (buildError : Option String) (now later : ℚ) : CallEnd :=
  let first := h.markCompleted rid none now
  match buildError with
  | none =>
      { client := .success result.response
        archived := first.1.toList
        handler := first.2 }
  | some message =>
      let second := first.2.markCompleted rid (some message) later
      { client := .httpError 500 message
        archived := first.1.toList ++ second.1.toList
        handler := second.2 }

/-- The handling of an outcome. -/
def finishGenerate (h : RequestHandler) (rid : String) (outcome : EngineOutcome)
    (now later : ℚ) : CallEnd :=
  match outcome with
  | .returned result buildError => h.finishReturned rid result buildError now later
  | .raised message =>
      let first := h.markCompleted rid (some message) now
      { client := .httpError 500 message
        archived := first.1.toList
        handler := first.2 }
  | .cancelled =>
      { client := .aborted
        archived := []
        handler := h }

/-- Submit a request and mark it started. -/
def begin (h : RequestHandler) (req : GenerateRequest) (uuid : String) (submittedAt startedAt : ℚ) :
    String × RequestHandler :=
  let submitted := h.submit req.prompt req.taskMetadata req.requestId uuid submittedAt
  (submitted.1, submitted.2.markStarted submitted.1 startedAt)

/-- A whole call that no other call interleaves with. -/
def generate (h : RequestHandler) (req : GenerateRequest) (uuid : String)
    (submittedAt startedAt : ℚ) (outcome : EngineOutcome) (now later : ℚ) : CallEnd :=
  let begun := h.begin req uuid submittedAt startedAt
  begun.2.finishGenerate begun.1 outcome now later

end RequestHandler

/-- The record of a request has left the registry and was archived once, as
completed if the client has a response and as failed otherwise. -/
structure OutcomeFaithful (h : RequestHandler) (rid : String) (callEnd : CallEnd) : Prop where
  left : rid ∉ callEnd.handler.records.keys
  archivedOnce : ∃ r, callEnd.archived = [r] ∧ r.requestId = rid ∧
    callEnd.handler.completed = RequestHandler.pushCompleted h.completed r ∧
    r.status = if callEnd.client.isSuccess then .completed else .failed

section Outcome

variable {h : RequestHandler} {rid : String}

/-- The first `mark_completed` of a registered request. -/
theorem keys_markCompleted {r : RequestRecord} (hr : h.records.get? rid = some r)
    (error : Option String) (now : ℚ) :
    rid ∉ (h.markCompleted rid error now).2.records.keys := by
  obtain ⟨_, hrecords, _, _, _⟩ := RequestHandler.markCompleted_of_some hr error now
  rw [← OrdDict.get?_eq_none_iff, hrecords, OrdDict.get?_erase_self]

/-- A single `mark_completed` is faithful exactly when the status it derives
from the error text is the one the client sees. -/
theorem outcomeFaithful_markCompleted_iff {r : RequestRecord}
    (hr : h.records.get? rid = some r) (client : ClientResult) (error : Option String)
    (now : ℚ) :
    OutcomeFaithful h rid
        { client := client
          archived := (h.markCompleted rid error now).1.toList
          handler := (h.markCompleted rid error now).2 } ↔
      (errorTruthy error = true ↔ client.isSuccess = false) := by
  obtain ⟨hout, _, hcompleted, _, _⟩ := RequestHandler.markCompleted_of_some hr error now
  have hstatus : (r.finished error now).status =
      if errorTruthy error then .failed else .completed := rfl
  constructor
  · intro hfaithful
    obtain ⟨_, r', harchived, _, _, hr'⟩ := hfaithful
    rw [hout, Option.toList_some, List.singleton_inj] at harchived
    rw [← harchived, hstatus] at hr'
    cases herror : errorTruthy error <;> cases hclient : client.isSuccess <;>
      simp_all
  · intro hiff
    refine ⟨keys_markCompleted hr error now, r.finished error now, ?_, ?_, hcompleted, ?_⟩
    · rw [hout, Option.toList_some]
    · show r.requestId = rid
      exact h.requestId_of_get? hr
    · rw [hstatus]
      cases herror : errorTruthy error <;> cases hclient : client.isSuccess <;>
        simp_all

/-- Nothing is archived of a request that is not registered. -/
theorem not_outcomeFaithful_of_none (hnone : h.records.get? rid = none)
    (outcome : EngineOutcome) (now later : ℚ) :
    ¬OutcomeFaithful h rid (h.finishGenerate rid outcome now later) := by
  have harchived : (h.finishGenerate rid outcome now later).archived = [] := by
    cases outcome with
    | returned result buildError =>
        cases buildError <;>
          simp [RequestHandler.finishGenerate, RequestHandler.finishReturned,
            RequestHandler.markCompleted_of_none hnone]
    | raised message =>
        simp [RequestHandler.finishGenerate, RequestHandler.markCompleted_of_none hnone]
    | cancelled => rfl
  intro hfaithful
  obtain ⟨_, r, hr, _⟩ := hfaithful
  rw [harchived] at hr
  cases hr

/-- After a response that could not be built the second `mark_completed` finds
nothing, and the first one has archived the request as completed. -/
theorem not_outcomeFaithful_of_buildError {r : RequestRecord}
    (hr : h.records.get? rid = some r) (result : GenerationResult) (message : String)
    (now later : ℚ) :
    ¬OutcomeFaithful h rid
      (h.finishGenerate rid (.returned result (some message)) now later) := by
  obtain ⟨hout, hrecords, _, _, _⟩ := RequestHandler.markCompleted_of_some hr none now
  have hgone : (h.markCompleted rid none now).2.records.get? rid = none := by
    rw [hrecords, OrdDict.get?_erase_self]
  have hsecond := RequestHandler.markCompleted_of_none hgone (some message) later
  intro hfaithful
  obtain ⟨_, r', harchived, _, _, hstatus⟩ := hfaithful
  simp only [RequestHandler.finishGenerate, RequestHandler.finishReturned, hsecond, hout,
    Option.toList_some, Option.toList_none, List.append_nil, List.singleton_inj] at harchived
  rw [← harchived] at hstatus
  have hcompleted : (r.finished none now).status = .completed := rfl
  rw [hcompleted] at hstatus
  exact absurd hstatus (by simp [RequestHandler.finishGenerate, RequestHandler.finishReturned,
    ClientResult.isSuccess])

/-- **For a registered request** the outcome decides. -/
theorem outcomeFaithful_iff_of_registered {r : RequestRecord}
    (hr : h.records.get? rid = some r) (outcome : EngineOutcome) (now later : ℚ) :
    OutcomeFaithful h rid (h.finishGenerate rid outcome now later) ↔
      (∃ result, outcome = .returned result none) ∨
        ∃ message, outcome = .raised message ∧ message ≠ "" := by
  cases outcome with
  | returned result buildError =>
      cases buildError with
      | none =>
          refine (outcomeFaithful_markCompleted_iff hr (.success result.response) none
            now).trans ?_
          simp [errorTruthy, ClientResult.isSuccess]
      | some message =>
          constructor
          · intro hfaithful
            exact absurd hfaithful
              (not_outcomeFaithful_of_buildError hr result message now later)
          · intro hcond
            rcases hcond with ⟨_, heq⟩ | ⟨_, heq, _⟩
            · cases heq
            · cases heq
  | raised message =>
      refine (outcomeFaithful_markCompleted_iff hr (.httpError 500 message) (some message)
        now).trans ?_
      simp [errorTruthy, ClientResult.isSuccess]
  | cancelled =>
      constructor
      · intro hfaithful
        obtain ⟨_, r', harchived, _⟩ := hfaithful
        cases harchived
      · intro hcond
        rcases hcond with ⟨_, heq⟩ | ⟨_, heq, _⟩
        · cases heq
        · cases heq

end Outcome

/-- A call that has begun is registered. -/
theorem begin_registered (h : RequestHandler) (req : GenerateRequest) (uuid : String)
    (submittedAt startedAt : ℚ) :
    ∃ r, (h.begin req uuid submittedAt startedAt).2.records.get?
      (h.begin req uuid submittedAt startedAt).1 = some r := by
  have hset : (h.submit req.prompt req.taskMetadata req.requestId uuid submittedAt).2.records.get?
      (h.begin req uuid submittedAt startedAt).1 = some _ := OrdDict.get?_set_self _ _ _
  have hstarted : (h.begin req uuid submittedAt startedAt).2.records.get?
      (h.begin req uuid submittedAt startedAt).1 = _ := OrdDict.get?_modify_self _ _ _
  rw [hset, Option.map_some] at hstarted
  exact ⟨_, hstarted⟩

/-- For a call that is not interleaved with another one the outcome decides. -/
theorem generate_faithful_iff (h : RequestHandler) (req : GenerateRequest) (uuid : String)
    (submittedAt startedAt : ℚ) (outcome : EngineOutcome) (now later : ℚ) :
    OutcomeFaithful (h.begin req uuid submittedAt startedAt).2
        (h.begin req uuid submittedAt startedAt).1
        (h.generate req uuid submittedAt startedAt outcome now later) ↔
      (∃ result, outcome = .returned result none) ∨
        ∃ message, outcome = .raised message ∧ message ≠ "" := by
  obtain ⟨r, hr⟩ := begin_registered h req uuid submittedAt startedAt
  exact outcomeFaithful_iff_of_registered hr outcome now later

/-- **When the archived outcome is the client's.**

Whatever the handler holds and however the wait for the engine ends: the
request's record leaves the registry and is archived exactly once, as completed
if the client gets a response and as failed otherwise, exactly when the record
is still registered and the engine returned a result the response can be built
from, or raised an exception with a text that is not empty. -/
theorem outcome_faithful_iff (h : RequestHandler) (rid : String) (outcome : EngineOutcome)
    (now later : ℚ) :
    OutcomeFaithful h rid (h.finishGenerate rid outcome now later) ↔
      rid ∈ h.records.keys ∧
        ((∃ result, outcome = .returned result none) ∨
          ∃ message, outcome = .raised message ∧ message ≠ "") := by
  cases hr : h.records.get? rid with
  | none =>
      have hkeys : rid ∉ h.records.keys := (h.records.get?_eq_none_iff rid).mp hr
      constructor
      · intro hfaithful
        exact absurd hfaithful (not_outcomeFaithful_of_none hr outcome now later)
      · intro hcond
        exact absurd hcond.1 hkeys
  | some r =>
      have hkeys : rid ∈ h.records.keys := by
        by_contra habsent
        rw [(h.records.get?_eq_none_iff rid).mpr habsent] at hr
        cases hr
      rw [and_iff_right hkeys]
      exact outcomeFaithful_iff_of_registered hr outcome now later

/-- A call of a new handler in which the engine raises without a text. -/
def silentFailure : CallEnd :=
  (RequestHandler.init 1 plainRouter).generate { prompt := "p" } "u" 0 0 (.raised "") 1 1

/-- A call of a new handler that is cancelled. -/
def cancelledCall : CallEnd :=
  (RequestHandler.init 1 plainRouter).generate { prompt := "p" } "u" 0 0 .cancelled 1 1

/-- The first is archived as completed although the client gets an error, and
the second stays registered as in progress and is never archived. -/
theorem outcome_unfaithful :
    (silentFailure.client.isSuccess = false ∧
      silentFailure.archived.map (·.status) = [.completed] ∧
      ∀ h rid, ¬OutcomeFaithful h rid silentFailure) ∧
    (cancelledCall.client.isSuccess = false ∧ cancelledCall.archived = [] ∧
      cancelledCall.handler.records.values.map (·.status) = [.inProgress] ∧
      ∀ h rid, ¬OutcomeFaithful h rid cancelledCall) := by
  have hclient : silentFailure.client.isSuccess = false := by decide +kernel
  have hstatus : silentFailure.archived.map (·.status) = [.completed] := by decide +kernel
  have hnothing : cancelledCall.archived = [] := by decide +kernel
  refine ⟨⟨hclient, hstatus, ?_⟩, by decide +kernel, hnothing, by decide +kernel, ?_⟩
  · intro h rid hfaithful
    obtain ⟨_, r, harchived, _, _, hr⟩ := hfaithful
    rw [harchived, List.map_singleton, List.singleton_inj] at hstatus
    rw [hclient, hstatus] at hr
    exact absurd hr (by decide)
  · intro h rid hfaithful
    obtain ⟨_, r, harchived, _⟩ := hfaithful
    rw [hnothing] at harchived
    cases harchived

end KVOrchestrator.Ports
