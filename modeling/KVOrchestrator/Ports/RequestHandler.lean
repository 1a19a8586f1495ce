import KVOrchestrator.Ports.Schema
import KVOrchestrator.Verified.OrdDict
import KVOrchestrator.Verified.Builtins
import KVOrchestrator.Verified.Dynamics

/-!
# The request handler (`src/serving/request_handler.py`)

The handler keeps a registry of the requests in flight, keyed by request id,
and an archive of the completed ones, cut to the last ten thousand.  Each
method is one atomic step under the handler's lock.  The semaphore the
constructor makes from `max_concurrent` is left out: no method acquires it.

The router is any function from prompts to workload types, and the clock
readings and the fresh uuid of a call are given to it.
-/

namespace KVOrchestrator.Ports

open KVOrchestrator.Verified

inductive RequestStatus where
  | queued
  | inProgress
  | completed
  | failed
  | cancelled
  deriving DecidableEq, Repr

/-- `RequestStatus.value`. -/
def RequestStatus.value : RequestStatus → String
  | .queued => "queued"
  | .inProgress => "in_progress"
  | .completed => "completed"
  | .failed => "failed"
  | .cancelled => "cancelled"

/-- Tracking object of a single serving request. -/
structure RequestRecord where
  requestId : String
  prompt : String
  workloadType : WorkloadType
  submittedAt : ℚ
  startedAt : Option ℚ := none
  completedAt : Option ℚ := none
  status : RequestStatus := .queued
  error : Option String := none
  deriving DecidableEq, Repr

/-- Time from submission to the start, or up to `now` while there is none. -/
def RequestRecord.queueWaitMs (r : RequestRecord) (now : ℚ) : ℚ :=
  match r.startedAt with
  | none => (now - r.submittedAt) * 1000
  | some startedAt => (startedAt - r.submittedAt) * 1000

def RequestRecord.latencyMs (r : RequestRecord) : ℚ :=
  match r.completedAt, r.startedAt with
  | some completedAt, some startedAt => (completedAt - startedAt) * 1000
  | _, _ => 0

/-- Anything that classifies a prompt, given the task metadata. -/
structure WorkloadRouter where
  classify : String → Option (OrdDict String String) → WorkloadType

/-- A router that knows one workload. -/
def plainRouter : WorkloadRouter where
  classify _ _ := .unknown

structure RequestHandler where
  maxConcurrent : Nat := 32
  router : WorkloadRouter
  /-- request id → record -/
  records : OrdDict String RequestRecord := OrdDict.empty
  /-- The last completed requests, oldest first. -/
  completed : List RequestRecord := []
  keyed : ∀ k r, (k, r) ∈ records.entries → r.requestId = k := by
    intro k r h
    cases h

/-- `_max_completed` -/
def maxCompleted : Nat := 10000

/-- The truth value of an error text: `None` and the empty text are false. -/
def errorTruthy : Option String → Bool
  | none => false
  | some error => error ≠ ""

/-- A record that is being worked on. -/
def RequestRecord.started (r : RequestRecord) (now : ℚ) : RequestRecord :=
  { r with
    startedAt := some now
    status := .inProgress }

/-- A record that is done, with or without an error. -/
def RequestRecord.finished (r : RequestRecord) (error : Option String) (now : ℚ) :
    RequestRecord :=
  { r with
    completedAt := some now
    status := if errorTruthy error then .failed else .completed
    error := error }

namespace RequestHandler

/-- A new handler. -/
def init (maxConcurrent : Nat) (router : WorkloadRouter) : RequestHandler where
  maxConcurrent := maxConcurrent
  router := router

/-- The id a request gets: its own, unless that is missing or empty. -/
def chooseId (requestId : Option String) (uuid : String) : String :=
  match requestId with
  | some rid => if rid = "" then uuid else rid
  | none => uuid

/-- The record of a new request. -/
def newRecord (h : RequestHandler) (prompt : String)
    (taskMetadata : Option (OrdDict String String)) (rid : String) (now : ℚ) : RequestRecord where
  requestId := rid
  prompt := prompt
  workloadType := h.router.classify prompt taskMetadata
  submittedAt := now

/-- Register a new request and return its id; a record of that id is
overwritten. -/
def submit (h : RequestHandler) (prompt : String)
    (taskMetadata : Option (OrdDict String String)) (requestId : Option String) (uuid : String)
    (now : ℚ) : String × RequestHandler :=
  let rid := chooseId requestId uuid
  let record := h.newRecord prompt taskMetadata rid now
  ( rid,
    { h with
      records := h.records.set rid record
      keyed := by
        intro k r hmem
        rcases OrdDict.mem_entries_set _ _ _ _ _ hmem with ⟨rfl, rfl⟩ | hold
        · rfl
        · exact h.keyed k r hold } )

/-- Mark a request as `IN_PROGRESS`, if it is registered. -/
def markStarted (h : RequestHandler) (requestId : String) (now : ℚ) : RequestHandler :=
  { h with
    records := h.records.modify requestId (·.started now)
    keyed := by
      intro k r hmem
      rw [OrdDict.modify, OrdDict.mem_entries_update] at hmem
      obtain ⟨r', hr', heq⟩ := hmem
      rw [Option.some.injEq] at heq
      rw [← heq, ← h.keyed k r' hr']
      split <;> rfl }

/-- Append to the archive and keep its last `maxCompleted` records. -/
def pushCompleted (completed : List RequestRecord) (record : RequestRecord) :
    List RequestRecord :=
  let all := completed ++ [record]
  if all.length > maxCompleted then sliceFrom all (-(maxCompleted : Int)) else all

/-- Mark a request as `COMPLETED` or `FAILED` and archive it; the archived
record is returned. -/
def markCompleted (h : RequestHandler) (requestId : String) (error : Option String)
    (now : ℚ) : Option RequestRecord × RequestHandler :=
  match h.records.get? requestId with
  | none => (none, h)
  | some record =>
      let finished := record.finished error now
      ( some finished,
        { h with
          records := h.records.erase requestId
          completed := pushCompleted h.completed finished
          keyed := fun k r hmem =>
            h.keyed k r ((OrdDict.mem_entries_erase _ _ _ _).mp hmem).2 } )

/-- The record of an id: the registered one, or the latest archived one. -/
def recordOf (h : RequestHandler) (requestId : String) : Option RequestRecord :=
  match h.records.get? requestId with
  | some record => some record
  | none => h.completed.reverse.find? (fun r => decide (r.requestId = requestId))

/-- What `get_status` reports of a record. -/
structure StatusReport where
  requestId : String
  status : RequestStatus
  workloadType : WorkloadType
  queueWaitMs : ℚ
  latencyMs : ℚ
  deriving DecidableEq, Repr

/-- A status snapshot, `none` for `not_found`. -/
def getStatus (h : RequestHandler) (requestId : String) (now : ℚ) : Option StatusReport :=
  (h.recordOf requestId).map (fun r =>
    { requestId := r.requestId
      status := r.status
      workloadType := r.workloadType
      queueWaitMs := pyRound (r.queueWaitMs now) 2
      latencyMs := pyRound r.latencyMs 2 })

/-- Number of requests waiting or in progress. -/
def getQueueDepth (h : RequestHandler) : Nat := h.records.values.length

/-- Number of requests in progress. -/
def getActiveCount (h : RequestHandler) : Nat :=
  h.records.values.countP (fun r => decide (r.status = .inProgress))

theorem getQueueDepth_eq (h : RequestHandler) : h.getQueueDepth = h.records.keys.length := by
  rw [getQueueDepth, OrdDict.values, OrdDict.keys, List.length_map, List.length_map]

/-! ## What the methods do to the registry and the archive -/

theorem requestId_of_get? (h : RequestHandler) {rid : String} {r : RequestRecord}
    (hr : h.records.get? rid = some r) : r.requestId = rid :=
  h.keyed rid r ((h.records.get?_eq_some_iff rid r).mp hr)

/-- Two handlers that agree in all they hold are one. -/
theorem ext_records {h h' : RequestHandler} (hmax : h.maxConcurrent = h'.maxConcurrent)
    (hrouter : h.router = h'.router) (hrecords : h.records = h'.records)
    (hcompleted : h.completed = h'.completed) : h = h' := by
  cases h
  cases h'
  cases hmax
  cases hrouter
  cases hrecords
  cases hcompleted
  rfl

/-- Starting a request that is not registered changes nothing. -/
theorem markStarted_of_none {h : RequestHandler} {rid : String}
    (hnone : h.records.get? rid = none) (now : ℚ) : h.markStarted rid now = h := by
  have hrecords : h.records.modify rid (·.started now) = h.records :=
    OrdDict.modify_of_none hnone _
  exact ext_records rfl rfl hrecords rfl

/-- Completing a request that is not registered changes nothing. -/
theorem markCompleted_of_none {h : RequestHandler} {rid : String}
    (hnone : h.records.get? rid = none) (error : Option String) (now : ℚ) :
    h.markCompleted rid error now = (none, h) := by
  unfold markCompleted
  split
  · rfl
  · rename_i r hr
    rw [hnone] at hr
    cases hr

/-- Completing a registered request takes it from the registry to the
archive. -/
theorem markCompleted_of_some {h : RequestHandler} {rid : String} {r : RequestRecord}
    (hr : h.records.get? rid = some r) (error : Option String) (now : ℚ) :
    (h.markCompleted rid error now).1 = some (r.finished error now) ∧
      (h.markCompleted rid error now).2.records = h.records.erase rid ∧
      (h.markCompleted rid error now).2.completed =
        pushCompleted h.completed (r.finished error now) ∧
      (h.markCompleted rid error now).2.router = h.router ∧
      (h.markCompleted rid error now).2.maxConcurrent = h.maxConcurrent := by
  unfold markCompleted
  split
  · rename_i hnone
    rw [hr] at hnone
    cases hnone
  · rename_i r' hr'
    rw [hr, Option.some.injEq] at hr'
    subst hr'
    exact ⟨rfl, rfl, rfl, rfl, rfl⟩

/-- What is registered after a completion: the other ids, as before. -/
theorem get?_markCompleted (h : RequestHandler) (rid : String) (error : Option String) (now : ℚ)
    (rid' : String) (r : RequestRecord) :
    (h.markCompleted rid error now).2.records.get? rid' = some r ↔
      rid' ≠ rid ∧ h.records.get? rid' = some r := by
  cases hr : h.records.get? rid with
  | none =>
      rw [markCompleted_of_none hr]
      constructor
      · intro hr'
        refine ⟨?_, hr'⟩
        rintro rfl
        rw [hr] at hr'
        cases hr'
      · exact And.right
  | some r₀ =>
      obtain ⟨_, hrecords, _, _, _⟩ := markCompleted_of_some hr error now
      rw [hrecords]
      by_cases hsame : rid' = rid
      · simp [hsame]
      · rw [OrdDict.get?_erase_of_ne _ hsame]
        simp [hsame]

/-- The archive is the end of the list of all completions. -/
theorem pushCompleted_eq (completed : List RequestRecord) (record : RequestRecord) :
    pushCompleted completed record =
      (completed ++ [record]).drop ((completed ++ [record]).length - maxCompleted) := by
  unfold pushCompleted
  simp only []
  split
  · have hneg : ¬(0 : Int) ≤ -(maxCompleted : Int) := by decide
    rw [sliceFrom, if_neg hneg, neg_neg, Int.toNat_natCast]
  · have hzero : (completed ++ [record]).length - maxCompleted = 0 := by omega
    rw [hzero, List.drop_zero]

end RequestHandler

end KVOrchestrator.Ports
