import KVOrchestrator.Ports.ServingMetrics

/-!
# The batch endpoint (`src/serving/api_server.py`)

`batch_generate` runs one task for each request of the batch, each of them under
the batch's semaphore, gathers what they return, exceptions included, and lists
it in the order of the requests.

A call changes no other call: where a step is let through, what it does to its
own call is `advance`, and a run leaves a call where its own steps alone lead
(`get?_run`).  So the body is decided by how the requests of the batch end, one
by one, whatever else the server does meanwhile, and at no time are more of them
in their handlers than the semaphore has places (`batch_results_in_order`).
-/

namespace KVOrchestrator.Ports

open KVOrchestrator.Verified

/-- The call a step is one of. -/
def ServingOp.call {κ : Type} : ServingOp κ → κ
  | .submit call _ _ _ _ => call
  | .start call _ => call
  | .complete call _ _ _ => call
  | .fail call _ _ => call
  | .failResponse call _ => call
  | .cancel call => call

namespace Serving

variable {κ : Type}

/-! ## A step of a call, for the call itself -/

/-- The phase after a step of the call. -/
def nextPhase (op : ServingOp κ) (phase : CallPhase) : CallPhase :=
  match op, phase with
  | .start _ _, .submitted => .generating
  | .complete _ result buildError _, .generating => phaseAfterReturn result buildError
  | .fail _ message _, .generating => .left (.httpError 500 message)
  | .failResponse _ _, .responseFailed message => .left (.httpError 500 message)
  | .cancel _, phase => phaseAfterCancel phase
  | _, phase => phase

/-- The call after a step of it, which may be the one that makes it. -/
def advance (c : Option Call) (op : ServingOp κ) : Option Call :=
  match c, op with
  | some c, op => some { c with phase := nextPhase op c.phase }
  | none, .submit _ request batch uuid _ =>
      some
        { request := request
          batch := batch
          rid := RequestHandler.chooseId request.requestId uuid
          phase := .submitted }
  | none, _ => none

variable [DecidableEq κ]

/-- The semaphore lets the step through. -/
def LetsThrough (s : Serving κ) : ServingOp κ → Prop
  | .submit call _ batch _ _ => call ∉ s.calls.keys → s.admits batch = true
  | .start _ _ => True
  | .complete _ _ _ _ => True
  | .fail _ _ _ => True
  | .failResponse _ _ => True
  | .cancel _ => True

instance (s : Serving κ) : ∀ op, Decidable (s.LetsThrough op)
  | .submit call _ batch _ _ =>
      inferInstanceAs (Decidable (call ∉ s.calls.keys → s.admits batch = true))
  | .start _ _ => .isTrue trivial
  | .complete _ _ _ _ => .isTrue trivial
  | .fail _ _ _ => .isTrue trivial
  | .failResponse _ _ => .isTrue trivial
  | .cancel _ => .isTrue trivial

section Advance

variable {s : Serving κ} {op : ServingOp κ} {c : Call}

/-- A step that does nothing. -/
private theorem advance_of_same (hstep : s.step op = ([], s))
    (hadvance : advance (s.calls.get? op.call) op = s.calls.get? op.call) (call : κ) :
    (s.perform op).calls.get? call =
      if call = op.call then advance (s.calls.get? call) op else s.calls.get? call := by
  rw [perform, hstep]
  by_cases hcall : call = op.call
  · rw [if_pos hcall, hcall, hadvance]
  · rw [if_neg hcall]

/-- A step that makes its call or moves it on. -/
private theorem advance_of_withCall {handler : RequestHandler}
    (hstep : s.perform op = s.withCall handler op.call c)
    (hadvance : advance (s.calls.get? op.call) op = some c) (call : κ) :
    (s.perform op).calls.get? call =
      if call = op.call then advance (s.calls.get? call) op else s.calls.get? call := by
  have hcalls : (s.perform op).calls = s.calls.set op.call c := by
    rw [hstep]
    rfl
  rw [hcalls]
  by_cases hcall : call = op.call
  · rw [if_pos hcall, hcall, hadvance, OrdDict.get?_set_self]
  · rw [if_neg hcall, OrdDict.get?_set_of_ne _ hcall]

/-- The step is not the next one of its call. -/
private theorem advance_of_idle (hc : s.calls.get? op.call = some c) (hstep : s.step op = ([], s))
    (hnext : nextPhase op c.phase = c.phase) (call : κ) :
    (s.perform op).calls.get? call =
      if call = op.call then advance (s.calls.get? call) op else s.calls.get? call := by
  apply advance_of_same hstep
  simp only [hc, advance, hnext]

/-- The step is the next one of its call. -/
private theorem advance_of_move (hc : s.calls.get? op.call = some c) {next : CallPhase}
    {handler : RequestHandler}
    (hstep : s.perform op = s.withCall handler op.call { c with phase := next })
    (hnext : nextPhase op c.phase = next) (call : κ) :
    (s.perform op).calls.get? call =
      if call = op.call then advance (s.calls.get? call) op else s.calls.get? call := by
  apply advance_of_withCall hstep
  simp only [hc, advance, hnext]

end Advance

/-- **A step** moves its own call on, and no other. -/
theorem get?_perform {s : Serving κ} {op : ServingOp κ} (hop : s.LetsThrough op) (call : κ) :
    (s.perform op).calls.get? call =
      if call = op.call then advance (s.calls.get? call) op else s.calls.get? call := by
  cases op with
  | submit call' request batch uuid now =>
      cases hc : s.calls.get? call' with
      | none =>
          have hadmits := hop ((s.calls.get?_eq_none_iff call').mp hc)
          have hstep : s.step (.submit call' request batch uuid now) = _ :=
            step_submit hc hadmits uuid now
          refine advance_of_withCall (congrArg Prod.snd hstep) ?_ call
          simp only [ServingOp.call, hc, advance]
      | some c =>
          have hkey : call' ∈ s.calls.keys := by
            by_contra habsent
            rw [(s.calls.get?_eq_none_iff call').mpr habsent] at hc
            cases hc
          exact advance_of_idle hc (by simp only [step, if_pos (Or.inl hkey)]) rfl call
  | start call' now =>
      cases hc : s.calls.get? call' with
      | none =>
          refine advance_of_same (by simp only [step, hc]) ?_ call
          simp only [ServingOp.call, hc, advance]
      | some c =>
          cases hphase : c.phase with
          | submitted =>
              exact advance_of_move hc (congrArg Prod.snd (step_start hc hphase now))
                (by rw [hphase]; rfl) call
          | generating | responseFailed | left | cancelled =>
              exact advance_of_idle hc (by simp only [step, hc, hphase]) (by rw [hphase]; rfl) call
  | complete call' result buildError now =>
      cases hc : s.calls.get? call' with
      | none =>
          refine advance_of_same (by simp only [step, hc]) ?_ call
          simp only [ServingOp.call, hc, advance]
      | some c =>
          cases hphase : c.phase with
          | generating =>
              have hstep : s.perform (.complete call' result buildError now) =
                  s.withCall (s.handler.markCompleted c.rid none now).2 call'
                    { c with phase := phaseAfterReturn result buildError } := by
                simp only [perform, step, hc, hphase, markCall]
              exact advance_of_move hc hstep (by rw [hphase]; rfl) call
          | submitted | responseFailed | left | cancelled =>
              exact advance_of_idle hc (by simp only [step, hc, hphase]) (by rw [hphase]; rfl) call
  | fail call' message now =>
      cases hc : s.calls.get? call' with
      | none =>
          refine advance_of_same (by simp only [step, hc]) ?_ call
          simp only [ServingOp.call, hc, advance]
      | some c =>
          cases hphase : c.phase with
          | generating =>
              have hstep : s.perform (.fail call' message now) =
                  s.withCall (s.handler.markCompleted c.rid (some message) now).2 call'
                    { c with phase := .left (.httpError 500 message) } := by
                simp only [perform, step, hc, hphase, markCall]
              exact advance_of_move hc hstep (by rw [hphase]; rfl) call
          | submitted | responseFailed | left | cancelled =>
              exact advance_of_idle hc (by simp only [step, hc, hphase]) (by rw [hphase]; rfl) call
  | failResponse call' now =>
      cases hc : s.calls.get? call' with
      | none =>
          refine advance_of_same (by simp only [step, hc]) ?_ call
          simp only [ServingOp.call, hc, advance]
      | some c =>
          cases hphase : c.phase with
          | responseFailed message =>
              exact advance_of_move hc (congrArg Prod.snd (step_failResponse hc hphase now))
                (by rw [hphase]; rfl) call
          | submitted | generating | left | cancelled =>
              exact advance_of_idle hc (by simp only [step, hc, hphase]) (by rw [hphase]; rfl) call
  | cancel call' =>
      cases hc : s.calls.get? call' with
      | none =>
          refine advance_of_same (by simp only [step, hc]) ?_ call
          simp only [ServingOp.call, hc, advance]
      | some c => exact advance_of_move hc (congrArg Prod.snd (step_cancel hc)) rfl call

/-- **A run** leaves a call where its own steps lead. -/
theorem get?_run (ops : List (ServingOp κ)) (call : κ) :
    ∀ s : Serving κ, StepsMeet perform LetsThrough s ops →
      (run perform s ops).calls.get? call =
        (ops.filter (fun op => decide (op.call = call))).foldl advance (s.calls.get? call) := by
  induction ops with
  | nil => exact fun _ _ => rfl
  | cons op ops ih =>
      intro s hmeet
      have hstep := get?_perform hmeet.1 call
      show (run perform (s.perform op) ops).calls.get? call = _
      rw [ih (s.perform op) hmeet.2, hstep]
      by_cases hcall : op.call = call
      · rw [if_pos hcall.symm, List.filter_cons_of_pos (by simpa using hcall), List.foldl_cons]
      · rw [if_neg (fun h => hcall h.symm), List.filter_cons_of_neg (by simpa using hcall)]

/-! ## The semaphore of a batch -/

/-- No batch has more members in their handlers than its semaphore has
places. -/
def WithinPlaces (s : Serving κ) : Prop := ∀ batch, s.batchHolders batch ≤ s.maxConcurrency batch

omit [DecidableEq κ] in
theorem batchHolders_eq (s : Serving κ) (batch : Nat) :
    s.batchHolders batch =
      s.countWhere (fun c => decide (c.batch = some batch) && c.phase.inHandler) := rfl

/-- A call that moves on holds no place it did not hold. -/
private theorem batchHolders_move {s : Serving κ} {call : κ} {c : Call}
    (hc : s.calls.get? call = some c) (handler : RequestHandler) {next : CallPhase}
    (hnext : next.inHandler = true → c.phase.inHandler = true) (batch : Nat) :
    (s.withCall handler call { c with phase := next }).batchHolders batch ≤
      s.batchHolders batch := by
  have hcount := countWhere_withCall hc handler { c with phase := next }
    (fun c => decide (c.batch = some batch) && c.phase.inHandler)
  have hle : (decide (c.batch = some batch) && next.inHandler).toNat ≤
      (decide (c.batch = some batch) && c.phase.inHandler).toNat := by
    cases hin : next.inHandler with
    | true => rw [hnext hin]
    | false => simp
  rw [batchHolders_eq, batchHolders_eq]
  simp only at hcount
  omega

theorem WithinPlaces.perform {s : Serving κ} (h : s.WithinPlaces) (op : ServingOp κ) :
    (s.perform op).WithinPlaces ∧ (s.perform op).maxConcurrency = s.maxConcurrency := by
  have hmove : ∀ {handler call c next}, s.calls.get? call = some c →
      (CallPhase.inHandler next = true → c.phase.inHandler = true) →
      (s.withCall handler call { c with phase := next }).WithinPlaces := by
    intro handler call c next hc hnext batch
    exact (batchHolders_move hc handler hnext batch).trans (h batch)
  cases stepEffect s op with
  | idle _ _ hstep =>
      rw [Serving.perform, hstep]
      exact ⟨h, rfl⟩
  | submit call request batch uuid now hnew hadmits =>
      rw [Serving.perform, step_submit hnew hadmits]
      refine ⟨fun batch' => ?_, rfl⟩
      have hcount := countWhere_withCall_new hnew
        (s.handler.submit request.prompt request.taskMetadata request.requestId uuid now).2
        ⟨request, batch, RequestHandler.chooseId request.requestId uuid, .submitted⟩
        (fun c => decide (c.batch = some batch') && c.phase.inHandler)
      have hbefore := h batch'
      rw [batchHolders_eq] at hbefore ⊢
      show _ ≤ s.maxConcurrency batch'
      rw [hcount]
      by_cases hbatch : batch = some batch'
      · subst hbatch
        have hroom : s.batchHolders batch' < s.maxConcurrency batch' := by
          simpa [admits] using hadmits
        rw [batchHolders_eq] at hroom
        simp only [CallPhase.inHandler, Bool.and_true, decide_true, Bool.toNat_true]
        exact hroom
      · simp only [hbatch, decide_false, Bool.false_and, Bool.toNat_false, Nat.add_zero]
        exact hbefore
  | start call now c hc hphase =>
      rw [Serving.perform, step_start hc hphase]
      exact ⟨hmove hc (fun _ => by rw [hphase]; rfl), rfl⟩
  | mark _ call c error next now hc hphase _ _ _ hstep =>
      rw [Serving.perform, hstep]
      exact ⟨hmove hc (fun _ => by rw [hphase]; rfl), rfl⟩
  | markAgain call now c message hc hphase =>
      rw [Serving.perform, step_failResponse hc hphase]
      exact ⟨hmove hc (fun _ => by rw [hphase]; rfl), rfl⟩
  | cancel call c hc =>
      rw [Serving.perform, step_cancel hc]
      refine ⟨hmove hc ?_, rfl⟩
      intro hin
      exfalso
      cases hphase : c.phase <;> simp [hphase, phaseAfterCancel, CallPhase.inHandler] at hin

/-! ## The body of the response -/

/-- What the endpoint lists for one request. -/
inductive BatchEntry where
  | response (response : GenerateResponse)
  /-- `{"error": str(r), "index": i}` -/
  | error (text : String) (index : Nat)
  /-- `CancelledError` is no `Exception`: the object itself is listed. -/
  | cancelled
  deriving DecidableEq, Repr

/-- The entry at an index; `str` is how an `HTTPException` prints. -/
def BatchEntry.of (str : Nat → String → String) (index : Nat) : ClientResult → BatchEntry
  | .success result => .response result
  | .httpError statusCode detail => .error (str statusCode detail) index
  | .aborted => .cancelled

/-- How the task of a call has ended, if it has. -/
def gathered : CallPhase → Option ClientResult
  | .left client => some client
  | .cancelled _ => some .aborted
  | .submitted => none
  | .generating => none
  | .responseFailed _ => none

structure BatchBody where
  results : List BatchEntry
  total : Nat
  deriving DecidableEq, Repr

/-- The loop over what was gathered. -/
def batchEntries (str : Nat → String → String) : Nat → List ClientResult → List BatchEntry
  | _, [] => []
  | i, r :: rest => BatchEntry.of str i r :: batchEntries str (i + 1) rest

def batchBody (str : Nat → String → String) (results : List ClientResult) : BatchBody :=
  let out := batchEntries str 0 results
  { results := out
    total := out.length }

theorem length_batchEntries (str : Nat → String → String) (results : List ClientResult) :
    ∀ i, (batchEntries str i results).length = results.length := by
  induction results with
  | nil => exact fun _ => rfl
  | cons r results ih => exact fun i => congrArg (· + 1) (ih (i + 1))

/-- The response of a batch whose members are these calls; none while one of
them is still in its handler. -/
def batchGenerate (str : Nat → String → String) (s : Serving κ) (members : List κ) :
    Option BatchBody :=
  (members.mapM fun call => (s.calls.get? call).bind fun c => gathered c.phase).map
    (batchBody str)

/-- A request of a batch: its call, and how the wait for the engine ends. -/
structure BatchMember (κ : Type) where
  call : κ
  request : GenerateRequest
  uuid : String
  outcome : EngineOutcome
  submittedAt : ℚ
  startedAt : ℚ
  now : ℚ
  later : ℚ

namespace BatchMember

/-- The steps of the call. -/
def steps (m : BatchMember κ) (batch : Nat) : List (ServingOp κ) :=
  .submit m.call m.request (some batch) m.uuid m.submittedAt :: .start m.call m.startedAt ::
    match m.outcome with
    | .returned result none => [.complete m.call result none m.now]
    | .returned result (some message) =>
        [.complete m.call result (some message) m.now, .failResponse m.call m.later]
    | .raised message => [.fail m.call message m.now]
    | .cancelled => [.cancel m.call]

/-- What the client of the request gets from a call that nothing interleaves
with. -/
def aloneWith (m : BatchMember κ) (h : RequestHandler) : ClientResult :=
  (h.generate m.request m.uuid m.submittedAt m.startedAt m.outcome m.now m.later).client

omit [DecidableEq κ] in
/-- The steps of a call end its task as the call alone ends. -/
theorem gathered_steps (m : BatchMember κ) (batch : Nat) (h : RequestHandler) :
    ∃ c, (m.steps batch).foldl advance none = some c ∧ gathered c.phase = some (m.aloneWith h) := by
  unfold steps aloneWith RequestHandler.generate
  cases m.outcome with
  | returned result buildError =>
      cases buildError with
      | none => exact ⟨_, rfl, rfl⟩
      | some message => exact ⟨_, rfl, rfl⟩
  | raised message => exact ⟨_, rfl, rfl⟩
  | cancelled => exact ⟨_, rfl, rfl⟩

end BatchMember

/-- **The results of a batch.**

Take any run of calls on a server, on their own or in batches, in which the
semaphores let every submission through that is made.  If the steps of the
requests of a batch are those of whole calls, the endpoint lists, in the order
of the requests and one entry each, what every request would have got alone, on
any handler, however the calls interleave and whatever the rest of the server
does.  In every state of any run no batch has more members in their handlers
than its `max_concurrency`. -/
theorem batch_results_in_order (str : Nat → String → String) (maxConcurrent : Nat)
    (router : WorkloadRouter) (maxConcurrency : Nat → Nat) (ops : List (ServingOp κ)) :
    (Throughout perform WithinPlaces (init maxConcurrent router maxConcurrency) ops) ∧
    (StepsMeet perform LetsThrough (init maxConcurrent router maxConcurrency) ops →
      ∀ (batch : Nat) (members : List (BatchMember κ)),
        (∀ m ∈ members,
          ops.filter (fun op => decide (op.call = m.call)) = m.steps batch) →
        ∀ h : RequestHandler,
          batchGenerate str (run perform (init maxConcurrent router maxConcurrency) ops)
              (members.map (·.call)) =
            some (batchBody str (members.map (·.aloneWith h))) ∧
          (batchBody str (members.map (·.aloneWith h))).total = members.length) := by
  constructor
  · intro done _
    have hstep : ∀ (s : Serving κ) op, s.WithinPlaces → (s.perform op).WithinPlaces :=
      fun _ op h => (h.perform op).1
    apply run_invariant hstep
    intro batch
    show ([] : List Call).countP _ ≤ _
    exact Nat.zero_le _
  · intro hmeet batch members hown h
    have hgathered : (members.map (·.call)).mapM (fun call =>
        ((run perform (init maxConcurrent router maxConcurrency) ops).calls.get? call).bind
          fun c => gathered c.phase) = some (members.map (·.aloneWith h)) := by
      induction members with
      | nil => rfl
      | cons m members ih =>
          obtain ⟨c, hc, hresult⟩ := m.gathered_steps batch h
          have hget := get?_run ops m.call (init maxConcurrent router maxConcurrency) hmeet
          rw [hown m List.mem_cons_self] at hget
          have hstart : (init maxConcurrent router maxConcurrency : Serving κ).calls.get? m.call =
              none := rfl
          rw [hstart, hc] at hget
          have hrest := ih (fun m' hm' => hown m' (List.mem_cons_of_mem m hm'))
          rw [List.map_cons, List.mapM_cons, hget, hrest]
          show (gathered c.phase).bind _ = _
          rw [hresult]
          rfl
    refine ⟨by rw [batchGenerate, hgathered]; rfl, ?_⟩
    show (batchEntries str 0 _).length = _
    rw [length_batchEntries, List.length_map]

/-- Two requests of one batch, one place in its semaphore; the second is let
through when the first has left, and its engine raises. -/
def twoMembers : List (BatchMember Nat) :=
  [ { call := 0
      request := { prompt := "p" }
      uuid := "u"
      outcome := .returned emptyResult none
      submittedAt := 0, startedAt := 0, now := 2, later := 2 },
    { call := 1
      request := { prompt := "q" }
      uuid := "v"
      outcome := .raised "boom"
      submittedAt := 3, startedAt := 3, now := 4, later := 4 } ]

/-- The run of the batch, a call of its own in between. -/
def batchRun : List (ServingOp Nat) :=
  [ .submit 0 { prompt := "p" } (some 7) "u" 0, .start 0 0,
    .submit 2 { prompt := "other" } none "w" 1, .complete 0 emptyResult none 2,
    .submit 1 { prompt := "q" } (some 7) "v" 3, .start 2 3, .start 1 3, .fail 1 "boom" 4 ]

theorem batch_results_in_order_two_members :
    batchGenerate (fun code detail => toString code ++ ": " ++ detail)
        (run perform (init 32 plainRouter (fun _ => 1)) batchRun) [0, 1] =
      some
        { results := [.response emptyResult.response, .error "500: boom" 1]
          total := 2 } := by
  have hresults := (batch_results_in_order (fun code detail => toString code ++ ": " ++ detail)
    32 plainRouter (fun _ => 1) batchRun).2 (by decide +kernel) 7 twoMembers
    (by
      intro m hm
      rcases List.mem_cons.mp hm with rfl | hm
      · rfl
      · rw [List.mem_singleton.mp hm]
        rfl)
    (RequestHandler.init 32 plainRouter)
  refine hresults.1.trans ?_
  decide +kernel

end Serving

end KVOrchestrator.Ports
