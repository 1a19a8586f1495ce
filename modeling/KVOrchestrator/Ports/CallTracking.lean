import KVOrchestrator.Ports.ServingCalls

/-!
# Are the calls in flight tracked

The registry is keyed by the request id, and a client may supply it.  As long
as no call submits an id that an open call has, and no call whose response
failed shares its id with an open one, the registry mirrors the open calls
(`Tracked`): its keys are their ids, and the record of each is its own.  The
first step that breaks this makes the queue depth wrong, so the condition is
exact (`in_flight_tracked_iff`).
-/

namespace KVOrchestrator.Ports

open KVOrchestrator.Verified

/-- The call will be marked completed a second time. -/
def CallPhase.hasFailedResponse : CallPhase → Bool
  | .responseFailed _ => true
  | .submitted => false
  | .generating => false
  | .left _ => false
  | .cancelled _ => false

namespace Serving

variable {κ : Type} [DecidableEq κ]

/-- Nobody else has the id: a new call's id is not one of an open call, and
neither is the id of a call that is marked completed for the second time. -/
def NoCollision (s : Serving κ) : ServingOp κ → Prop
  | .submit call request batch uuid _ =>
      call ∉ s.calls.keys → s.admits batch = true →
        RequestHandler.chooseId request.requestId uuid ∉ s.openIds
  | .failResponse call _ =>
      ∀ c ∈ s.calls.get? call, c.phase.hasFailedResponse = true → c.rid ∉ s.openIds
  | .start _ _ => True
  | .complete _ _ _ _ => True
  | .fail _ _ _ => True
  | .cancel _ => True

instance (s : Serving κ) : ∀ op, Decidable (s.NoCollision op)
  | .submit call request batch uuid _ =>
      inferInstanceAs (Decidable (call ∉ s.calls.keys → s.admits batch = true →
        RequestHandler.chooseId request.requestId uuid ∉ s.openIds))
  | .failResponse call _ =>
      inferInstanceAs (Decidable (∀ c ∈ s.calls.get? call,
        c.phase.hasFailedResponse = true → c.rid ∉ s.openIds))
  | .start _ _ => .isTrue trivial
  | .complete _ _ _ _ => .isTrue trivial
  | .fail _ _ _ => .isTrue trivial
  | .cancel _ => .isTrue trivial

/-- The queue depth is the number of calls that have submitted and not
completed. -/
def DepthExact (s : Serving κ) : Prop := s.handler.getQueueDepth = s.openIds.length

/-- A completing step archives one record, with the prompt and the workload
type of its call; the other steps archive none. -/
def ArchivesOwn (router : WorkloadRouter) (s : Serving κ) (op : ServingOp κ) : Prop :=
  match s.completes op with
  | none => s.archivedBy op = []
  | some c =>
      ∃ r, s.archivedBy op = [r] ∧ r.prompt = c.request.prompt ∧
        r.workloadType = router.classify c.request.prompt c.request.taskMetadata

/-! ## The registry mirrors the open calls -/

/-- The record of a call in flight. -/
structure Tracks (router : WorkloadRouter) (c : Call) (r : RequestRecord) : Prop where
  prompt : r.prompt = c.request.prompt
  workloadType : r.workloadType = router.classify c.request.prompt c.request.taskMetadata
  status : r.status = if c.phase.isOccupying then .inProgress else .queued

/-- The registered ids are those of the open calls, and each open call finds
its own record under its id. -/
structure Tracked (router : WorkloadRouter) (s : Serving κ) : Prop where
  routed : s.handler.router = router
  keys : s.handler.records.keys.Perm s.openIds
  record : ∀ call c, s.calls.get? call = some c → c.phase.isOpen = true →
    ∃ r, s.handler.records.get? c.rid = some r ∧ Tracks router c r

section Tracked

variable {router : WorkloadRouter} {s : Serving κ}

theorem tracked_init (maxConcurrent : Nat) (router : WorkloadRouter)
    (maxConcurrency : Nat → Nat) :
    (init maxConcurrent router maxConcurrency : Serving κ).Tracked router where
  routed := rfl
  keys := .nil
  record := by
    intro call c hc
    cases hc

theorem Tracked.depthExact (h : s.Tracked router) : s.DepthExact := by
  have hlen := h.keys.length_eq
  rwa [OrdDict.keys, List.length_map, ← List.length_map Prod.snd] at hlen

theorem Tracked.nodup (h : s.Tracked router) : s.openIds.Nodup :=
  h.keys.nodup_iff.mp s.handler.records.nodup_keys

/-- An id that no open call has is not registered. -/
theorem Tracked.get?_eq_none (h : s.Tracked router) {rid : String} (hrid : rid ∉ s.openIds) :
    s.handler.records.get? rid = none := by
  rw [OrdDict.get?_eq_none_iff, h.keys.mem_iff]
  exact hrid

theorem mem_openIds {call : κ} {c : Call} (hc : s.calls.get? call = some c)
    (hopen : c.phase.isOpen = true) : c.rid ∈ s.openIds :=
  mem_idsWhere_iff.mpr ⟨call, c, hc, hopen, rfl⟩

/-- Two open calls have different ids. -/
theorem Tracked.rid_ne (h : s.Tracked router) {call call' : κ} {c c' : Call}
    (hc : s.calls.get? call = some c) (hopen : c.phase.isOpen = true)
    (hc' : s.calls.get? call' = some c') (hopen' : c'.phase.isOpen = true)
    (hne : call' ≠ call) : c'.rid ≠ c.rid := by
  have hperm : s.openIds.Perm (idIf CallPhase.isOpen c ++ s.otherIds call CallPhase.isOpen) :=
    idsWhere_perm hc CallPhase.isOpen
  rw [idIf, if_pos hopen, List.singleton_append] at hperm
  have hnodup := hperm.nodup_iff.mp h.nodup
  have hother : c'.rid ∈ s.otherIds call CallPhase.isOpen := by
    apply List.mem_map.mpr
    refine ⟨(call', c'), List.mem_filter.mpr ⟨?_, hopen'⟩, rfl⟩
    exact (OrdDict.mem_entries_erase _ _ _ _).mpr
      ⟨hne, (s.calls.get?_eq_some_iff call' c').mp hc'⟩
  intro heq
  exact (List.nodup_cons.mp hnodup).1 (heq ▸ hother)

/-! ## One step -/

/-- A call that keeps being open, or keeps being closed, while the handler
stays as it is. -/
theorem Tracked.withCall_same (h : s.Tracked router) {call : κ} {c : Call}
    (hc : s.calls.get? call = some c) {next : CallPhase} (hopen : next.isOpen = c.phase.isOpen)
    (hoccupying : next.isOccupying = c.phase.isOccupying) :
    (s.withCall s.handler call { c with phase := next }).Tracked router where
  routed := h.routed
  keys := h.keys.trans (idsWhere_withCall_perm_self hc s.handler hopen).symm
  record := by
    intro call' c' hc' hopen'
    rcases get?_withCall hc' with ⟨_, rfl⟩ | ⟨_, hold⟩
    · obtain ⟨r, hr, hown⟩ := h.record call c hc (hopen ▸ hopen')
      exact ⟨r, hr, hown.prompt, hown.workloadType, by rw [hown.status, ← hoccupying]⟩
    · exact h.record call' c' hold hopen'

/-- A new call, with an id no open call has. -/
theorem Tracked.submit (h : s.Tracked router) {call : κ} (hnew : s.calls.get? call = none)
    {request : GenerateRequest} {batch : Option Nat} {uuid : String} {now : ℚ}
    (hfresh : RequestHandler.chooseId request.requestId uuid ∉ s.openIds) :
    (s.withCall
        (s.handler.submit request.prompt request.taskMetadata request.requestId uuid now).2 call
        { request := request
          batch := batch
          rid := RequestHandler.chooseId request.requestId uuid
          phase := .submitted }).Tracked router where
  routed := h.routed
  keys := by
    have hset := s.handler.records.keys_set_perm (RequestHandler.chooseId request.requestId uuid)
      (s.handler.newRecord request.prompt request.taskMetadata
        (RequestHandler.chooseId request.requestId uuid) now)
    have habsent : RequestHandler.chooseId request.requestId uuid ∉ s.handler.records.keys := by
      rw [h.keys.mem_iff]
      exact hfresh
    have hrest := (OrdDict.keys_perm_erase_of_not_mem habsent).symm.trans h.keys
    apply (hset.trans (hrest.cons _)).trans
    apply List.Perm.symm
    apply openIds_withCall_perm_cons hnew
    rfl
  record := by
    intro call' c' hc' hopen'
    rcases get?_withCall hc' with ⟨_, rfl⟩ | ⟨_, hold⟩
    · refine ⟨_, OrdDict.get?_set_self _ _ _, rfl, ?_, rfl⟩
      rw [← h.routed]
      rfl
    · obtain ⟨r, hr, hown⟩ := h.record call' c' hold hopen'
      have hne : c'.rid ≠ RequestHandler.chooseId request.requestId uuid := by
        intro heq
        exact hfresh (heq ▸ mem_openIds hold hopen')
      exact ⟨r, (OrdDict.get?_set_of_ne _ hne _).trans hr, hown⟩

/-- A call is marked started. -/
theorem Tracked.start (h : s.Tracked router) {call : κ} {c : Call}
    (hc : s.calls.get? call = some c) (hphase : c.phase = .submitted) (now : ℚ) :
    (s.withCall (s.handler.markStarted c.rid now) call
      { c with phase := .generating }).Tracked router where
  routed := h.routed
  keys := by
    have hkeys : (s.handler.markStarted c.rid now).records.keys = s.handler.records.keys :=
      OrdDict.keys_modify _ _ _
    show (s.handler.markStarted c.rid now).records.keys.Perm _
    rw [hkeys]
    apply h.keys.trans
    apply List.Perm.symm
    apply idsWhere_withCall_perm_self hc
    rw [hphase]
    rfl
  record := by
    intro call' c' hc' hopen'
    have hopen : c.phase.isOpen = true := by
      rw [hphase]
      rfl
    rcases get?_withCall hc' with ⟨_, rfl⟩ | ⟨hne, hold⟩
    · obtain ⟨r, hr, hown⟩ := h.record call c hc hopen
      refine ⟨r.started now, ?_, hown.prompt, hown.workloadType, rfl⟩
      show (s.handler.records.modify c.rid (·.started now)).get? c.rid = some (r.started now)
      rw [OrdDict.get?_modify_self, hr]
      rfl
    · obtain ⟨r, hr, hown⟩ := h.record call' c' hold hopen'
      have hrid := h.rid_ne hc hopen hold hopen' hne
      exact ⟨r, (OrdDict.get?_modify_of_ne _ hrid _).trans hr, hown⟩

/-- A call is marked completed for the first time. -/
theorem Tracked.mark (h : s.Tracked router) {call : κ} {c : Call}
    (hc : s.calls.get? call = some c) (hopen : c.phase.isOpen = true) {next : CallPhase}
    (hnext : next.isOpen = false) (error : Option String) (now : ℚ) :
    (s.withCall (s.handler.markCompleted c.rid error now).2 call
      { c with phase := next }).Tracked router := by
  obtain ⟨r, hr, hown⟩ := h.record call c hc hopen
  obtain ⟨_, hrecords, _, hrouter, _⟩ := RequestHandler.markCompleted_of_some hr error now
  constructor
  · show (s.handler.markCompleted c.rid error now).2.router = router
    rw [hrouter, h.routed]
  · show (s.handler.markCompleted c.rid error now).2.records.keys.Perm _
    rw [hrecords]
    have hmem : c.rid ∈ s.handler.records.keys := h.keys.mem_iff.mpr (mem_openIds hc hopen)
    have hbefore := (OrdDict.keys_perm_cons_erase hmem).symm.trans h.keys
    have hafter := idsWhere_perm_cons_withCall hc
      (s.handler.markCompleted c.rid error now).2 hopen hnext
    exact (hbefore.trans hafter).cons_inv
  · intro call' c' hc' hopen'
    rcases get?_withCall hc' with ⟨_, rfl⟩ | ⟨hne, hold⟩
    · have hclosed : next.isOpen = true := hopen'
      rw [hnext] at hclosed
      cases hclosed
    · obtain ⟨r', hr', hown'⟩ := h.record call' c' hold hopen'
      have hrid := h.rid_ne hc hopen hold hopen' hne
      exact ⟨r', (RequestHandler.get?_markCompleted _ _ _ _ _ _).mpr ⟨hrid, hr'⟩, hown'⟩

theorem Tracked.perform (h : s.Tracked router) {op : ServingOp κ} (hop : s.NoCollision op) :
    (s.perform op).Tracked router := by
  cases stepEffect s op with
  | idle _ _ hstep =>
      show (s.step op).2.Tracked router
      rw [hstep]
      exact h
  | submit call request batch uuid now hnew hadmits =>
      have habsent := (s.calls.get?_eq_none_iff call).mp hnew
      rw [Serving.perform, step_submit hnew hadmits]
      exact h.submit hnew (hop habsent hadmits)
  | start call now c hc hphase =>
      rw [Serving.perform, step_start hc hphase]
      exact h.start hc hphase now
  | mark _ call c error next now hc hphase hopen _ _ hstep =>
      rw [Serving.perform, hstep]
      exact h.mark hc (by rw [hphase]; rfl) hopen error now
  | markAgain call now c message hc hphase =>
      have hfailed : c.phase.hasFailedResponse = true := by
        rw [hphase]
        rfl
      have hnone := h.get?_eq_none (hop c hc hfailed)
      rw [Serving.perform, step_failResponse hc hphase, markCall,
        RequestHandler.markCompleted_of_none hnone]
      exact h.withCall_same hc (by rw [hphase]; rfl) (by rw [hphase]; rfl)
  | cancel call c hc =>
      rw [Serving.perform, step_cancel hc]
      exact h.withCall_same hc (by cases c.phase <;> rfl) (by cases c.phase <;> rfl)

/-- Where the registry mirrors the open calls, a step archives the record of
the call it completes. -/
theorem Tracked.archivesOwn (h : s.Tracked router) {op : ServingOp κ} (hop : s.NoCollision op) :
    s.ArchivesOwn router op := by
  unfold ArchivesOwn archivedBy
  cases stepEffect s op with
  | idle _ hnone hstep => rw [hnone, hstep]
  | submit call request batch uuid now hnew hadmits => rw [step_submit hnew hadmits]; rfl
  | start call now c hc hphase => rw [step_start hc hphase]; rfl
  | mark _ call c error next now hc hphase _ _ hsome hstep =>
      obtain ⟨r, hr, hown⟩ := h.record call c hc (by rw [hphase]; rfl)
      obtain ⟨hout, _⟩ := RequestHandler.markCompleted_of_some hr error now
      rw [hsome, hstep]
      refine ⟨r.finished error now, ?_, hown.prompt, hown.workloadType⟩
      rw [markCall, hout, Option.toList_some]
  | markAgain call now c message hc hphase =>
      have hfailed : c.phase.hasFailedResponse = true := by
        rw [hphase]
        rfl
      have hnone := h.get?_eq_none (hop c hc hfailed)
      rw [step_failResponse hc hphase, markCall, RequestHandler.markCompleted_of_none hnone]
      rfl
  | cancel call c hc => rw [step_cancel hc]; rfl

/-- Submitting an id that an open call has overwrites its record: there is one
call more, and no record more. -/
theorem Tracked.not_depthExact_submit (h : s.Tracked router) {call : κ}
    {request : GenerateRequest} {batch : Option Nat} {uuid : String} {now : ℚ}
    (hnew : s.calls.get? call = none) (hadmits : s.admits batch = true)
    (htaken : RequestHandler.chooseId request.requestId uuid ∈ s.openIds) :
    ¬(s.perform (.submit call request batch uuid now)).DepthExact := by
  rw [Serving.perform, step_submit hnew hadmits, DepthExact, RequestHandler.getQueueDepth_eq]
  have hset := s.handler.records.keys_set_perm (RequestHandler.chooseId request.requestId uuid)
    (s.handler.newRecord request.prompt request.taskMetadata
      (RequestHandler.chooseId request.requestId uuid) now)
  have hsame := (OrdDict.keys_perm_cons_erase (h.keys.mem_iff.mpr htaken)).symm.trans h.keys
  have hdepth := (hset.trans hsame).length_eq
  have hcalls := (openIds_withCall_perm_cons hnew
    (s.handler.submit request.prompt request.taskMetadata request.requestId uuid now).2
    (c := ⟨request, batch, RequestHandler.chooseId request.requestId uuid, .submitted⟩)
    rfl).length_eq
  rw [List.length_cons] at hcalls
  intro heq
  have heq' := hdepth.symm.trans (heq.trans hcalls)
  omega

/-- The second `mark_completed` takes away the record of an open call that has
the same id. -/
theorem Tracked.not_depthExact_failResponse (h : s.Tracked router) {call : κ} {c : Call}
    (hc : s.calls.get? call = some c) (hfailed : c.phase.hasFailedResponse = true)
    (htaken : c.rid ∈ s.openIds) (now : ℚ) :
    ¬(s.perform (.failResponse call now)).DepthExact := by
  obtain ⟨message, hphase⟩ : ∃ message, c.phase = .responseFailed message := by
    cases hphase : c.phase with
    | responseFailed message => exact ⟨message, rfl⟩
    | submitted | generating | left | cancelled =>
        rw [hphase] at hfailed
        cases hfailed
  have hmem : c.rid ∈ s.handler.records.keys := h.keys.mem_iff.mpr htaken
  obtain ⟨e, he, hrid⟩ := List.mem_map.mp hmem
  have hr : s.handler.records.get? c.rid = some e.2 :=
    (s.handler.records.get?_eq_some_iff _ _).mpr (hrid ▸ he)
  obtain ⟨_, hrecords, _⟩ := RequestHandler.markCompleted_of_some hr (some message) now
  rw [Serving.perform, step_failResponse hc hphase, markCall, DepthExact,
    RequestHandler.getQueueDepth_eq]
  have hcalls : (openIds (s.withCall (s.handler.markCompleted c.rid (some message) now).2 call
      { c with phase := .left (.httpError 500 message) })).length = s.openIds.length :=
    (idsWhere_withCall_perm_self hc _ (by rw [hphase]; rfl)).length_eq
  have hdepth := ((OrdDict.keys_perm_cons_erase hmem).symm.trans h.keys).length_eq
  rw [List.length_cons] at hdepth
  intro heq
  have heq' : (s.handler.records.erase c.rid).keys.length = s.openIds.length := by
    rw [← hrecords, ← hcalls]
    exact heq
  omega

/-- A step that collides makes the queue depth wrong. -/
theorem Tracked.not_depthExact (h : s.Tracked router) {op : ServingOp κ}
    (hop : ¬s.NoCollision op) : ¬(s.perform op).DepthExact := by
  cases op with
  | submit call request batch uuid now =>
      simp only [NoCollision, Classical.not_imp, not_not] at hop
      obtain ⟨habsent, hadmits, htaken⟩ := hop
      exact h.not_depthExact_submit ((s.calls.get?_eq_none_iff call).mpr habsent) hadmits htaken
  | failResponse call now =>
      simp only [NoCollision, Classical.not_forall, not_not] at hop
      obtain ⟨c, hc, hfailed, htaken⟩ := hop
      exact h.not_depthExact_failResponse hc hfailed htaken now
  | start | complete | fail | cancel => exact absurd trivial hop

end Tracked

/-- **When the calls in flight are tracked.**

Take any run of calls, with any request ids.  The queue depth is the number of
calls that have submitted and not completed in every state of the run, and
every completion archives exactly one record, with the prompt and the workload
type of its call, exactly when no call submits an id that an open call has, and
no call whose response failed shares its id with an open one when it is marked
completed again. -/
theorem in_flight_tracked_iff (maxConcurrent : Nat) (router : WorkloadRouter)
    (maxConcurrency : Nat → Nat) (ops : List (ServingOp κ)) :
    (Throughout perform DepthExact (init maxConcurrent router maxConcurrency) ops ∧
        StepsMeet perform (ArchivesOwn router) (init maxConcurrent router maxConcurrency) ops) ↔
      StepsMeet perform NoCollision (init maxConcurrent router maxConcurrency) ops := by
  have hinit := tracked_init (κ := κ) maxConcurrent router maxConcurrency
  have hdepth : Throughout perform DepthExact (init maxConcurrent router maxConcurrency) ops ↔
      StepsMeet perform NoCollision (init maxConcurrent router maxConcurrency) ops :=
    throughout_iff_stepsMeet (fun _ _ hop h => h.perform hop) (fun _ h => h.depthExact)
      (fun _ _ h hop => h.not_depthExact hop) ops _ hinit
  constructor
  · intro hrun
    exact hdepth.mp hrun.1
  · intro hmeet
    refine ⟨hdepth.mpr hmeet, ?_⟩
    exact stepsMeet_of_stepsMeet (fun _ _ hop h => h.perform hop)
      (fun _ _ hop h => h.archivesOwn hop) ops _ hmeet hinit

/-- A result without text. -/
def emptyResult : GenerationResult where
  requestId := "x"
  text := ""
  promptTokens := 0
  generatedTokens := 0
  ttftMs := 0
  tpotMs := 0
  totalLatencyMs := 0

/-- Two calls with the same id, made at the same time. -/
def sameIdCalls : List (ServingOp Nat) :=
  [ .submit 0 { prompt := "p", requestId := some "x" } none "u" 0,
    .start 0 0,
    .submit 1 { prompt := "q", requestId := some "x" } none "v" 1,
    .start 1 1 ]

/-- The first of them returns, then the second. -/
def sameIdReturns : List (ServingOp Nat) :=
  [ .complete 0 emptyResult none 2,
    .complete 1 emptyResult none 3 ]

/-- The registry holds one record for two open calls, the completion of the
first call archives the record of the second, and the completion of the second
archives none. -/
theorem same_id_not_tracked :
    let start : Serving Nat := init 32 plainRouter (fun _ => 8)
    let both := run perform start sameIdCalls
    let one := both.perform (.complete 0 emptyResult none 2)
    both.openIds = ["x", "x"] ∧ both.handler.getQueueDepth = 1 ∧
      ¬Throughout perform DepthExact start (sameIdCalls ++ sameIdReturns) ∧
      one.handler.completed.map (·.prompt) = ["q"] ∧ one.openIds = ["x"] ∧
      one.handler.getQueueDepth = 0 ∧
      ¬StepsMeet perform (ArchivesOwn plainRouter) start (sameIdCalls ++ sameIdReturns) := by
  intro start both one
  refine ⟨by decide +kernel, by decide +kernel, ?_, by decide +kernel, by decide +kernel,
    by decide +kernel, ?_⟩
  · intro hrun
    have hboth : both.DepthExact := hrun sameIdCalls (List.prefix_append _ _)
    exact absurd hboth (by unfold DepthExact; decide +kernel)
  · intro hmeet
    have hreturns := ((stepsMeet_append _ _ _).mp hmeet).2
    have hfirst : both.ArchivesOwn plainRouter
        (.complete 0 emptyResult none 2) := hreturns.1
    have hcall : both.completes (.complete 0 emptyResult none 2) =
        some ⟨{ prompt := "p", requestId := some "x" }, none, "x", .generating⟩ := by
      decide +kernel
    have harchived : (both.archivedBy
        (.complete 0 emptyResult none 2)).map (·.prompt) = ["q"] := by
      decide +kernel
    unfold ArchivesOwn at hfirst
    rw [hcall] at hfirst
    obtain ⟨r, hr, hprompt, _⟩ := hfirst
    rw [hr, List.map_singleton, hprompt] at harchived
    exact absurd harchived (by decide)

end Serving

end KVOrchestrator.Ports
