import KVOrchestrator.Ports.GenerateCall

/-!
# Interleaved calls of the serving endpoints (`src/serving/api_server.py`)

Any number of generate calls, on their own or as members of batches, run as
tasks of one event loop.  A call takes its steps one at a time: it submits,
marks its request started, waits for the engine, and marks it completed; a call
whose response cannot be built marks it completed once more.  Between any two
steps of a call the others may take theirs.  A batch has a semaphore of its own
and lets a member submit only while fewer than `max_concurrency` of its members
are in their handlers.

The handler sees ids only.  `openIds` are the ids of the calls that have
submitted and not completed, `occupyingIds` those of the calls that have
started and not completed; the two results below compare the registry with
them.
-/

namespace KVOrchestrator.Ports

open KVOrchestrator.Verified

/-- Where a call is. -/
inductive CallPhase where
  | submitted
  | generating
  /-- Marked completed, but the response could not be built. -/
  | responseFailed (message : String)
  | left (client : ClientResult)
  /-- Cancelled before it was marked completed, after its start or not. -/
  | cancelled (started : Bool)
  deriving DecidableEq, Repr

/-- The call has submitted and was not marked completed. -/
def CallPhase.isOpen : CallPhase → Bool
  | .submitted => true
  | .generating => true
  | .responseFailed _ => false
  | .left _ => false
  | .cancelled _ => true

/-- The call has been marked started and not completed. -/
def CallPhase.isOccupying : CallPhase → Bool
  | .submitted => false
  | .generating => true
  | .responseFailed _ => false
  | .left _ => false
  | .cancelled started => started

theorem CallPhase.isOpen_of_isOccupying {phase : CallPhase} (h : phase.isOccupying = true) :
    phase.isOpen = true := by
  cases phase with
  | submitted => cases h
  | generating => rfl
  | responseFailed => cases h
  | left => cases h
  | cancelled => rfl

/-- The call is in its handler. -/
def CallPhase.inHandler : CallPhase → Bool
  | .submitted => true
  | .generating => true
  | .responseFailed _ => true
  | .left _ => false
  | .cancelled _ => false

structure Call where
  request : GenerateRequest
  /-- The batch the call belongs to. -/
  batch : Option Nat
  /-- What `submit` returned. -/
  rid : String
  phase : CallPhase
  deriving DecidableEq

/-- The handler, the calls made so far, and the `max_concurrency` of each
batch. -/
structure Serving (κ : Type) where
  handler : RequestHandler
  calls : OrdDict κ Call := OrdDict.empty
  maxConcurrency : Nat → Nat := fun _ => 8

/-- One step of a call. -/
inductive ServingOp (κ : Type) where
  | submit (call : κ) (request : GenerateRequest) (batch : Option Nat) (uuid : String) (now : ℚ)
  | start (call : κ) (now : ℚ)
  /-- The engine has returned: `mark_completed(rid)`. -/
  | complete (call : κ) (result : GenerationResult) (buildError : Option String) (now : ℚ)
  /-- The engine has raised: `mark_completed(rid, error)`. -/
  | fail (call : κ) (message : String) (now : ℚ)
  /-- The second `mark_completed`, after the response could not be built. -/
  | failResponse (call : κ) (now : ℚ)
  /-- The task is cancelled. -/
  | cancel (call : κ)

namespace Serving

variable {κ : Type}

/-- No call has been made yet. -/
def init (maxConcurrent : Nat) (router : WorkloadRouter) (maxConcurrency : Nat → Nat) :
    Serving κ where
  handler := RequestHandler.init maxConcurrent router
  maxConcurrency := maxConcurrency

/-- Members of a batch that hold its semaphore. -/
def batchHolders (s : Serving κ) (batch : Nat) : Nat :=
  s.calls.values.countP (fun c => decide (c.batch = some batch) && c.phase.inHandler)

/-- A member of a batch submits only under the batch's semaphore. -/
def admits (s : Serving κ) : Option Nat → Bool
  | none => true
  | some batch => decide (s.batchHolders batch < s.maxConcurrency batch)

/-- The state with another handler and one call made or moved on. -/
def withCall [DecidableEq κ] (s : Serving κ) (handler : RequestHandler) (call : κ) (c : Call) :
    Serving κ :=
  { s with
    handler := handler
    calls := s.calls.set call c }

/-- A step that ends in `mark_completed`. -/
def markCall [DecidableEq κ] (s : Serving κ) (call : κ) (c : Call) (error : Option String)
    (next : CallPhase) (now : ℚ) : List RequestRecord × Serving κ :=
  let marked := s.handler.markCompleted c.rid error now
  (marked.1.toList, s.withCall marked.2 call { c with phase := next })

/-- The phase after a normal return of the engine. -/
def phaseAfterReturn (result : GenerationResult) (buildError : Option String) : CallPhase :=
  match buildError with
  | none => .left (.success result.response)
  | some message => .responseFailed message

/-- The phase after a cancellation; a call that has left stays as it is. -/
def phaseAfterCancel : CallPhase → CallPhase
  | .submitted => .cancelled false
  | .generating => .cancelled true
  | .responseFailed _ => .left .aborted
  | .left client => .left client
  | .cancelled started => .cancelled started

/-- Take a step; the records it archives are returned.  A step that is not the
call's next one does nothing. -/
def step [DecidableEq κ] (s : Serving κ) : ServingOp κ → List RequestRecord × Serving κ
  | .submit call request batch uuid now =>
      if call ∈ s.calls.keys ∨ s.admits batch = false then ([], s)
      else
        let submitted :=
          s.handler.submit request.prompt request.taskMetadata request.requestId uuid now
        ( [],
          s.withCall submitted.2 call
            { request := request
              batch := batch
              rid := submitted.1
              phase := .submitted } )
  | .start call now =>
      match s.calls.get? call with
      | none => ([], s)
      | some c =>
          match c.phase with
          | .submitted =>
              ([], s.withCall (s.handler.markStarted c.rid now) call { c with phase := .generating })
          | _ => ([], s)
  | .complete call result buildError now =>
      match s.calls.get? call with
      | none => ([], s)
      | some c =>
          match c.phase with
          | .generating => s.markCall call c none (phaseAfterReturn result buildError) now
          | _ => ([], s)
  | .fail call message now =>
      match s.calls.get? call with
      | none => ([], s)
      | some c =>
          match c.phase with
          | .generating => s.markCall call c (some message) (.left (.httpError 500 message)) now
          | _ => ([], s)
  | .failResponse call now =>
      match s.calls.get? call with
      | none => ([], s)
      | some c =>
          match c.phase with
          | .responseFailed message =>
              s.markCall call c (some message) (.left (.httpError 500 message)) now
          | _ => ([], s)
  | .cancel call =>
      match s.calls.get? call with
      | none => ([], s)
      | some c => ([], s.withCall s.handler call { c with phase := phaseAfterCancel c.phase })

/-- The state after a step. -/
def perform [DecidableEq κ] (s : Serving κ) (op : ServingOp κ) : Serving κ := (s.step op).2

/-- The records a step archives. -/
def archivedBy [DecidableEq κ] (s : Serving κ) (op : ServingOp κ) : List RequestRecord :=
  (s.step op).1

/-- The call a step completes: one that waits for the engine, and is marked
completed for the first time. -/
def completes [DecidableEq κ] (s : Serving κ) : ServingOp κ → Option Call
  | .complete call _ _ _ => (s.calls.get? call).filter (fun c => decide (c.phase = .generating))
  | .fail call _ _ => (s.calls.get? call).filter (fun c => decide (c.phase = .generating))
  | .submit _ _ _ _ _ => none
  | .start _ _ => none
  | .failResponse _ _ => none
  | .cancel _ => none

/-- Ids of the calls in a phase of some kind. -/
def idsWhere (s : Serving κ) (p : CallPhase → Bool) : List String :=
  (s.calls.entries.filter (fun e => p e.2.phase)).map (fun e => e.2.rid)

/-- Ids of the calls that have submitted and not completed. -/
def openIds (s : Serving κ) : List String := s.idsWhere CallPhase.isOpen

/-- Ids of the calls that have started and not completed. -/
def occupyingIds (s : Serving κ) : List String := s.idsWhere CallPhase.isOccupying

/-! ## One call and the others -/

/-- The id of a call in a phase of some kind, or none. -/
def idIf (p : CallPhase → Bool) (c : Call) : List String := if p c.phase then [c.rid] else []

private theorem ids_cons (p : CallPhase → Bool) (call : κ) (c : Call)
    (entries : List (κ × Call)) :
    (((call, c) :: entries).filter (fun e => p e.2.phase)).map (fun e => e.2.rid) =
      idIf p c ++ (entries.filter (fun e => p e.2.phase)).map (fun e => e.2.rid) := by
  unfold idIf
  cases hp : p c.phase <;> simp [hp]

section Ids

variable [DecidableEq κ] {s : Serving κ} {call call' : κ} {c : Call} {p : CallPhase → Bool}

/-- Ids of the other calls in a phase of some kind. -/
def otherIds (s : Serving κ) (call : κ) (p : CallPhase → Bool) : List String :=
  ((s.calls.erase call).entries.filter (fun e => p e.2.phase)).map (fun e => e.2.rid)

theorem mem_idsWhere_iff {rid : String} :
    rid ∈ s.idsWhere p ↔
      ∃ call c, s.calls.get? call = some c ∧ p c.phase = true ∧ c.rid = rid := by
  rw [idsWhere, List.mem_map]
  constructor
  · intro hex
    obtain ⟨⟨call, c⟩, hmem, rfl⟩ := hex
    rw [List.mem_filter] at hmem
    exact ⟨call, c, (s.calls.get?_eq_some_iff _ _).mpr hmem.1, hmem.2, rfl⟩
  · intro hex
    obtain ⟨call, c, hc, hp, rfl⟩ := hex
    exact ⟨(call, c), List.mem_filter.mpr ⟨(s.calls.get?_eq_some_iff _ _).mp hc, hp⟩, rfl⟩

theorem idsWhere_perm (hc : s.calls.get? call = some c) (p : CallPhase → Bool) :
    (s.idsWhere p).Perm (idIf p c ++ s.otherIds call p) := by
  have hperm := ((OrdDict.entries_perm_cons_erase hc).filter (fun e => p e.2.phase)).map
    (fun e => e.2.rid)
  rwa [ids_cons] at hperm

theorem idsWhere_perm_of_none (hc : s.calls.get? call = none) (p : CallPhase → Bool) :
    (s.idsWhere p).Perm (s.otherIds call p) :=
  ((OrdDict.entries_perm_erase_of_none hc).filter _).map _

theorem idsWhere_withCall_perm (s : Serving κ) (handler : RequestHandler) (call : κ) (c : Call)
    (p : CallPhase → Bool) :
    ((s.withCall handler call c).idsWhere p).Perm (idIf p c ++ s.otherIds call p) := by
  have hperm := ((s.calls.entries_set_perm call c).filter (fun e => p e.2.phase)).map
    (fun e => e.2.rid)
  rwa [ids_cons] at hperm

/-- A call that stays of the kind, or stays out of it, changes no ids. -/
theorem idsWhere_withCall_perm_self (hc : s.calls.get? call = some c)
    (handler : RequestHandler) {next : CallPhase} (hp : p next = p c.phase) :
    ((s.withCall handler call { c with phase := next }).idsWhere p).Perm (s.idsWhere p) := by
  have hid : idIf p { c with phase := next } = idIf p c := by
    rw [idIf, idIf, hp]
  have hset := s.idsWhere_withCall_perm handler call { c with phase := next } p
  rw [hid] at hset
  exact hset.trans (idsWhere_perm hc p).symm

/-- The ids of a call that leaves the kind and of the others. -/
theorem idsWhere_perm_cons_withCall (hc : s.calls.get? call = some c)
    (handler : RequestHandler) {next : CallPhase} (hp : p c.phase = true)
    (hnext : p next = false) :
    (s.idsWhere p).Perm
      (c.rid :: (s.withCall handler call { c with phase := next }).idsWhere p) := by
  have hset := s.idsWhere_withCall_perm handler call { c with phase := next } p
  have hbefore := idsWhere_perm hc p
  have hgone : idIf p { c with phase := next } = [] := by
    rw [idIf, if_neg (by simp [hnext])]
  have hhere : idIf p c = [c.rid] := by
    rw [idIf, if_pos hp]
  rw [hgone, List.nil_append] at hset
  rw [hhere] at hbefore
  exact hbefore.trans (hset.symm.cons _)

/-- The ids when a call joins the kind. -/
theorem idsWhere_withCall_perm_cons (hout : ∀ c, s.calls.get? call = some c → p c.phase = false)
    (handler : RequestHandler) (hp : p c.phase = true) :
    ((s.withCall handler call c).idsWhere p).Perm (c.rid :: s.idsWhere p) := by
  have hset := s.idsWhere_withCall_perm handler call c p
  have hhere : idIf p c = [c.rid] := by
    rw [idIf, if_pos hp]
  rw [hhere] at hset
  cases hc : s.calls.get? call with
  | none => exact hset.trans ((idsWhere_perm_of_none hc p).symm.cons _)
  | some old =>
      have hbefore := idsWhere_perm hc p
      have hgone : idIf p old = [] := by
        rw [idIf, if_neg (by simp [hout old hc])]
      rw [hgone, List.nil_append] at hbefore
      exact hset.trans (hbefore.symm.cons _)

theorem openIds_withCall_perm_cons (hc : s.calls.get? call = none) (handler : RequestHandler)
    (hopen : c.phase.isOpen = true) :
    ((s.withCall handler call c).openIds).Perm (c.rid :: s.openIds) := by
  apply idsWhere_withCall_perm_cons
  · intro c' hc'
    rw [hc] at hc'
    cases hc'
  · exact hopen

/-- The call that was moved, or another one as before. -/
theorem get?_withCall {handler : RequestHandler} {c' : Call}
    (hget : (s.withCall handler call c).calls.get? call' = some c') :
    (call' = call ∧ c' = c) ∨ (call' ≠ call ∧ s.calls.get? call' = some c') := by
  have hget' : (s.calls.set call c).get? call' = some c' := hget
  by_cases hsame : call' = call
  · rw [hsame, OrdDict.get?_set_self] at hget'
    exact .inl ⟨hsame, (Option.some.inj hget').symm⟩
  · rw [OrdDict.get?_set_of_ne _ hsame] at hget'
    exact .inr ⟨hsame, hget'⟩

end Ids

/-! ## What a step can do -/

section Step

variable [DecidableEq κ] {s : Serving κ} {call : κ} {c : Call}

theorem step_submit (hnew : s.calls.get? call = none) {request : GenerateRequest}
    {batch : Option Nat} (hadmits : s.admits batch = true) (uuid : String) (now : ℚ) :
    s.step (.submit call request batch uuid now) =
      ( [],
        s.withCall
          (s.handler.submit request.prompt request.taskMetadata request.requestId uuid now).2 call
          { request := request
            batch := batch
            rid := RequestHandler.chooseId request.requestId uuid
            phase := .submitted } ) := by
  have hidle : ¬(call ∈ s.calls.keys ∨ s.admits batch = false) := by
    rw [not_or, Bool.not_eq_false, ← OrdDict.get?_eq_none_iff]
    exact ⟨hnew, hadmits⟩
  simp only [step, if_neg hidle]
  rfl

theorem step_start (hc : s.calls.get? call = some c) (hphase : c.phase = .submitted) (now : ℚ) :
    s.step (.start call now) =
      ([], s.withCall (s.handler.markStarted c.rid now) call { c with phase := .generating }) := by
  simp only [step, hc, hphase]

theorem step_failResponse (hc : s.calls.get? call = some c) {message : String}
    (hphase : c.phase = .responseFailed message) (now : ℚ) :
    s.step (.failResponse call now) =
      s.markCall call c (some message) (.left (.httpError 500 message)) now := by
  simp only [step, hc, hphase]

theorem step_cancel (hc : s.calls.get? call = some c) :
    s.step (.cancel call) =
      ([], s.withCall s.handler call { c with phase := phaseAfterCancel c.phase }) := by
  simp only [step, hc]

end Step

/-- The effect of a step, case by case. -/
inductive StepEffect [DecidableEq κ] (s : Serving κ) : ServingOp κ → Prop where
  /-- The step is not the call's next one, or has to wait. -/
  | idle (op : ServingOp κ) (hnone : s.completes op = none) (hstep : s.step op = ([], s)) :
      StepEffect s op
  | submit (call : κ) (request : GenerateRequest) (batch : Option Nat) (uuid : String) (now : ℚ)
      (hnew : s.calls.get? call = none) (hadmits : s.admits batch = true) :
      StepEffect s (.submit call request batch uuid now)
  | start (call : κ) (now : ℚ) (c : Call) (hc : s.calls.get? call = some c)
      (hphase : c.phase = .submitted) : StepEffect s (.start call now)
  /-- The first `mark_completed` of a call, with or without an error. -/
  | mark (op : ServingOp κ) (call : κ) (c : Call) (error : Option String) (next : CallPhase)
      (now : ℚ) (hc : s.calls.get? call = some c) (hphase : c.phase = .generating)
      (hopen : next.isOpen = false) (hoccupying : next.isOccupying = false)
      (hsome : s.completes op = some c)
      (hstep : s.step op = s.markCall call c error next now) : StepEffect s op
  /-- The second one. -/
  | markAgain (call : κ) (now : ℚ) (c : Call) (message : String)
      (hc : s.calls.get? call = some c) (hphase : c.phase = .responseFailed message) :
      StepEffect s (.failResponse call now)
  | cancel (call : κ) (c : Call) (hc : s.calls.get? call = some c) :
      StepEffect s (.cancel call)

theorem stepEffect [DecidableEq κ] (s : Serving κ) (op : ServingOp κ) : StepEffect s op := by
  cases op with
  | submit call request batch uuid now =>
      by_cases hidle : call ∈ s.calls.keys ∨ s.admits batch = false
      · exact .idle _ rfl (by simp only [step, if_pos hidle])
      · rw [not_or, Bool.not_eq_false, ← OrdDict.get?_eq_none_iff] at hidle
        exact .submit call request batch uuid now hidle.1 hidle.2
  | start call now =>
      cases hc : s.calls.get? call with
      | none => exact .idle _ rfl (by simp only [step, hc])
      | some c =>
          cases hphase : c.phase with
          | submitted => exact .start call now c hc hphase
          | generating | responseFailed | left | cancelled =>
              exact .idle _ rfl (by simp only [step, hc, hphase])
  | complete call result buildError now =>
      cases hc : s.calls.get? call with
      | none => exact .idle _ (by simp [completes, hc]) (by simp only [step, hc])
      | some c =>
          cases hphase : c.phase with
          | generating =>
              refine .mark _ call c none (phaseAfterReturn result buildError) now hc hphase
                ?_ ?_ (by simp [completes, hc, hphase]) (by simp only [step, hc, hphase])
              · cases buildError <;> rfl
              · cases buildError <;> rfl
          | submitted | responseFailed | left | cancelled =>
              exact .idle _ (by simp [completes, hc, hphase]) (by simp only [step, hc, hphase])
  | fail call message now =>
      cases hc : s.calls.get? call with
      | none => exact .idle _ (by simp [completes, hc]) (by simp only [step, hc])
      | some c =>
          cases hphase : c.phase with
          | generating =>
              exact .mark _ call c (some message) (.left (.httpError 500 message)) now hc hphase
                rfl rfl (by simp [completes, hc, hphase]) (by simp only [step, hc, hphase])
          | submitted | responseFailed | left | cancelled =>
              exact .idle _ (by simp [completes, hc, hphase]) (by simp only [step, hc, hphase])
  | failResponse call now =>
      cases hc : s.calls.get? call with
      | none => exact .idle _ rfl (by simp only [step, hc])
      | some c =>
          cases hphase : c.phase with
          | responseFailed message => exact .markAgain call now c message hc hphase
          | submitted | generating | left | cancelled =>
              exact .idle _ rfl (by simp only [step, hc, hphase])
  | cancel call =>
      cases hc : s.calls.get? call with
      | none => exact .idle _ rfl (by simp only [step, hc])
      | some c => exact .cancel call c hc

end Serving

end KVOrchestrator.Ports
