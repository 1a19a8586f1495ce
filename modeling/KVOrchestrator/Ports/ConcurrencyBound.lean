import KVOrchestrator.Ports.CallTracking

/-!
# Is the number of active requests bounded

`max_concurrent` is meant to bound the requests in progress, and the handler
makes a semaphore for it, but neither the handler nor the endpoints acquire it:
`generate` marks its request started right after submitting it, however many
others are in progress, and the semaphore of a batch counts its own members
only.

The bound holds in the runs in which a call is started only while fewer than
`max_concurrent` calls occupy a place (`Admitted`), which is what acquiring the
semaphore would ensure.  Where no two calls share an id the condition is exact.
-/

namespace KVOrchestrator.Ports

open KVOrchestrator.Verified

namespace RequestHandler

/-- Ids of the requests in progress. -/
def activeIds (h : RequestHandler) : List String :=
  (h.records.entries.filter (fun e => decide (e.2.status = .inProgress))).map Prod.fst

theorem getActiveCount_eq (h : RequestHandler) : h.getActiveCount = h.activeIds.length := by
  rw [getActiveCount, OrdDict.values, List.countP_map, activeIds, List.length_map,
    List.countP_eq_length_filter]
  rfl

theorem nodup_activeIds (h : RequestHandler) : h.activeIds.Nodup :=
  h.records.nodup.sublist (List.filter_sublist.map Prod.fst)

theorem mem_activeIds_iff (h : RequestHandler) {rid : String} :
    rid ∈ h.activeIds ↔ ∃ r, h.records.get? rid = some r ∧ r.status = .inProgress := by
  rw [activeIds, List.mem_map]
  constructor
  · intro hmem
    obtain ⟨⟨_, r⟩, hr, rfl⟩ := hmem
    rw [List.mem_filter, decide_eq_true_eq] at hr
    exact ⟨r, (h.records.get?_eq_some_iff _ _).mpr hr.1, hr.2⟩
  · intro hex
    obtain ⟨r, hr, hstatus⟩ := hex
    refine ⟨(rid, r), List.mem_filter.mpr ⟨(h.records.get?_eq_some_iff _ _).mp hr, ?_⟩, rfl⟩
    exact decide_eq_true hstatus

/-- What is in progress after a start. -/
theorem mem_activeIds_markStarted {h : RequestHandler} {rid rid' : String} {now : ℚ}
    (hmem : rid' ∈ (h.markStarted rid now).activeIds) : rid' = rid ∨ rid' ∈ h.activeIds := by
  by_cases hsame : rid' = rid
  · exact .inl hsame
  · rw [mem_activeIds_iff] at hmem ⊢
    obtain ⟨r, hr, hstatus⟩ := hmem
    have hold : (h.records.modify rid (·.started now)).get? rid' = some r := hr
    rw [OrdDict.get?_modify_of_ne _ hsame] at hold
    exact .inr ⟨r, hold, hstatus⟩

/-- What is in progress after a submission was so before. -/
theorem mem_activeIds_submit {h : RequestHandler} {prompt : String}
    {taskMetadata : Option (OrdDict String String)} {requestId : Option String} {uuid : String}
    {now : ℚ} {rid : String}
    (hmem : rid ∈ (h.submit prompt taskMetadata requestId uuid now).2.activeIds) :
    rid ∈ h.activeIds := by
  rw [mem_activeIds_iff] at hmem ⊢
  obtain ⟨r, hr, hstatus⟩ := hmem
  have hset : (h.records.set (chooseId requestId uuid)
      (h.newRecord prompt taskMetadata (chooseId requestId uuid) now)).get? rid = some r := hr
  by_cases hsame : rid = chooseId requestId uuid
  · rw [hsame, OrdDict.get?_set_self, Option.some.injEq] at hset
    rw [← hset] at hstatus
    cases hstatus
  · rw [OrdDict.get?_set_of_ne _ hsame] at hset
    exact ⟨r, hset, hstatus⟩

theorem mem_activeIds_markCompleted {h : RequestHandler} {rid rid' : String}
    {error : Option String} {now : ℚ}
    (hmem : rid' ∈ (h.markCompleted rid error now).2.activeIds) :
    rid' ≠ rid ∧ rid' ∈ h.activeIds := by
  rw [mem_activeIds_iff] at hmem ⊢
  obtain ⟨r, hr, hstatus⟩ := hmem
  obtain ⟨hne, hold⟩ := (get?_markCompleted _ _ _ _ _ _).mp hr
  exact ⟨hne, r, hold, hstatus⟩

theorem maxConcurrent_markCompleted (h : RequestHandler) (rid : String) (error : Option String)
    (now : ℚ) : (h.markCompleted rid error now).2.maxConcurrent = h.maxConcurrent := by
  cases hr : h.records.get? rid with
  | none => rw [markCompleted_of_none hr]
  | some r => exact (markCompleted_of_some hr error now).2.2.2.2

end RequestHandler

namespace Serving

variable {κ : Type}

/-- A call is marked started only while fewer than `max_concurrent` calls have
been marked started and not completed. -/
def Admitted [DecidableEq κ] (s : Serving κ) : ServingOp κ → Prop
  | .start call _ =>
      ∀ c ∈ s.calls.get? call, c.phase = .submitted →
        s.occupyingIds.length < s.handler.maxConcurrent
  | .submit _ _ _ _ _ => True
  | .complete _ _ _ _ => True
  | .fail _ _ _ => True
  | .failResponse _ _ => True
  | .cancel _ => True

instance [DecidableEq κ] (s : Serving κ) : ∀ op, Decidable (s.Admitted op)
  | .start call _ =>
      inferInstanceAs (Decidable (∀ c ∈ s.calls.get? call, c.phase = .submitted →
        s.occupyingIds.length < s.handler.maxConcurrent))
  | .submit _ _ _ _ _ => .isTrue trivial
  | .complete _ _ _ _ => .isTrue trivial
  | .fail _ _ _ => .isTrue trivial
  | .failResponse _ _ => .isTrue trivial
  | .cancel _ => .isTrue trivial

/-- The number of requests in progress is within the bound. -/
def Bounded (maxConcurrent : Nat) (s : Serving κ) : Prop :=
  s.handler.getActiveCount ≤ maxConcurrent

/-! ## Started calls hold a place -/

/-- Every request in progress belongs to a call that occupies a place, and
there are no more such calls than places. -/
structure Occupied (maxConcurrent : Nat) (s : Serving κ) : Prop where
  bound : s.handler.maxConcurrent = maxConcurrent
  active : ∀ rid ∈ s.handler.activeIds, rid ∈ s.occupyingIds
  places : s.occupyingIds.length ≤ maxConcurrent

section Occupied

variable {maxConcurrent : Nat} {s : Serving κ}

theorem occupied_init (maxConcurrent : Nat) (router : WorkloadRouter)
    (maxConcurrency : Nat → Nat) :
    (init maxConcurrent router maxConcurrency : Serving κ).Occupied maxConcurrent where
  bound := rfl
  active := by
    intro rid hrid
    cases hrid
  places := Nat.zero_le _

theorem Occupied.bounded (h : s.Occupied maxConcurrent) : s.Bounded maxConcurrent := by
  rw [Bounded, RequestHandler.getActiveCount_eq]
  have hsub := List.subperm_of_subset s.handler.nodup_activeIds h.active
  exact hsub.length_le.trans h.places

/-- A step after which the occupying calls are the same ones, and nothing is in
progress that was not before. -/
theorem Occupied.of_perm (h : s.Occupied maxConcurrent) {t : Serving κ}
    (hbound : t.handler.maxConcurrent = s.handler.maxConcurrent)
    (hactive : ∀ rid ∈ t.handler.activeIds, rid ∈ s.handler.activeIds)
    (hperm : t.occupyingIds.Perm s.occupyingIds) : t.Occupied maxConcurrent where
  bound := hbound.trans h.bound
  active := by
    intro rid hrid
    exact hperm.mem_iff.mpr (h.active rid (hactive rid hrid))
  places := by
    rw [hperm.length_eq]
    exact h.places

variable [DecidableEq κ]

/-- A start takes a place. -/
theorem occupyingIds_start {call : κ} {c : Call} (hc : s.calls.get? call = some c)
    (hphase : c.phase = .submitted) (handler : RequestHandler) :
    ((s.withCall handler call { c with phase := .generating }).occupyingIds).Perm
      (c.rid :: s.occupyingIds) := by
  apply idsWhere_withCall_perm_cons
  · intro c' hc'
    rw [hc, Option.some.injEq] at hc'
    rw [← hc', hphase]
    rfl
  · rfl

/-- A call that is admitted takes no place yet. -/
theorem Occupied.submit (h : s.Occupied maxConcurrent) {call : κ}
    (hnew : s.calls.get? call = none) (request : GenerateRequest) (batch : Option Nat)
    (uuid : String) (now : ℚ) :
    (s.withCall
        (s.handler.submit request.prompt request.taskMetadata request.requestId uuid now).2 call
        { request := request
          batch := batch
          rid := RequestHandler.chooseId request.requestId uuid
          phase := .submitted }).Occupied maxConcurrent := by
  apply h.of_perm
  · rfl
  · intro rid hrid
    exact RequestHandler.mem_activeIds_submit hrid
  · have hset := s.idsWhere_withCall_perm
      (s.handler.submit request.prompt request.taskMetadata request.requestId uuid now).2 call
      ⟨request, batch, RequestHandler.chooseId request.requestId uuid, .submitted⟩
      CallPhase.isOccupying
    exact hset.trans (idsWhere_perm_of_none hnew CallPhase.isOccupying).symm

/-- A call starts while there is room. -/
theorem Occupied.start (h : s.Occupied maxConcurrent) {call : κ} {c : Call}
    (hc : s.calls.get? call = some c) (hphase : c.phase = .submitted)
    (hroom : s.occupyingIds.length < s.handler.maxConcurrent) (now : ℚ) :
    (s.withCall (s.handler.markStarted c.rid now) call
      { c with phase := .generating }).Occupied maxConcurrent := by
  have hperm := occupyingIds_start hc hphase (s.handler.markStarted c.rid now)
  constructor
  · exact h.bound
  · intro rid hrid
    rw [hperm.mem_iff, List.mem_cons]
    rcases RequestHandler.mem_activeIds_markStarted hrid with hsame | hold
    · exact .inl hsame
    · exact .inr (h.active rid hold)
  · rw [hperm.length_eq, List.length_cons]
    rw [h.bound] at hroom
    omega

/-- A generating call gives its place back. -/
theorem Occupied.mark (h : s.Occupied maxConcurrent) {call : κ} {c : Call}
    (hc : s.calls.get? call = some c) (hphase : c.phase = .generating) {next : CallPhase}
    (hnext : next.isOccupying = false) (error : Option String) (now : ℚ) :
    (s.withCall (s.handler.markCompleted c.rid error now).2 call
      { c with phase := next }).Occupied maxConcurrent := by
  have hperm := idsWhere_perm_cons_withCall hc
    (s.handler.markCompleted c.rid error now).2 (p := CallPhase.isOccupying)
    (by rw [hphase]; rfl) hnext
  constructor
  · exact (s.handler.maxConcurrent_markCompleted c.rid error now).trans h.bound
  · intro rid hrid
    obtain ⟨hne, hold⟩ := RequestHandler.mem_activeIds_markCompleted hrid
    have hplace := hperm.mem_iff.mp (h.active rid hold)
    rw [List.mem_cons] at hplace
    exact hplace.resolve_left hne
  · have hlen := hperm.length_eq
    rw [List.length_cons] at hlen
    have hplaces : (s.idsWhere CallPhase.isOccupying).length ≤ maxConcurrent := h.places
    show (idsWhere _ CallPhase.isOccupying).length ≤ maxConcurrent
    omega

theorem Occupied.perform (h : s.Occupied maxConcurrent) {op : ServingOp κ}
    (hop : s.Admitted op) : (s.perform op).Occupied maxConcurrent := by
  cases stepEffect s op with
  | idle _ _ hstep =>
      show (s.step op).2.Occupied maxConcurrent
      rw [hstep]
      exact h
  | submit call request batch uuid now hnew hadmits =>
      rw [Serving.perform, step_submit hnew hadmits]
      exact h.submit hnew request batch uuid now
  | start call now c hc hphase =>
      rw [Serving.perform, step_start hc hphase]
      exact h.start hc hphase (hop c hc hphase) now
  | mark _ call c error next now hc hphase _ hoccupying _ hstep =>
      rw [Serving.perform, hstep]
      exact h.mark hc hphase hoccupying error now
  | markAgain call now c message hc hphase =>
      rw [Serving.perform, step_failResponse hc hphase]
      apply h.of_perm
      · exact s.handler.maxConcurrent_markCompleted _ _ _
      · intro rid hrid
        exact (RequestHandler.mem_activeIds_markCompleted hrid).2
      · exact idsWhere_withCall_perm_self hc _ (by rw [hphase]; rfl)
  | cancel call c hc =>
      rw [Serving.perform, step_cancel hc]
      apply h.of_perm
      · rfl
      · intro rid hrid
        exact hrid
      · exact idsWhere_withCall_perm_self hc _ (by cases c.phase <;> rfl)

end Occupied

/-! ## Without shared ids the places are the requests in progress -/

section Tracked

variable [DecidableEq κ] {router : WorkloadRouter} {s : Serving κ}

theorem Tracked.activeIds_perm (h : s.Tracked router) :
    s.handler.activeIds.Perm s.occupyingIds := by
  have hoccupyingNodup : s.occupyingIds.Nodup := by
    apply List.Nodup.sublist _ h.nodup
    apply List.Sublist.map
    apply List.monotone_filter_right
    intro e hoccupying
    exact CallPhase.isOpen_of_isOccupying hoccupying
  rw [List.perm_ext_iff_of_nodup s.handler.nodup_activeIds hoccupyingNodup]
  intro rid
  rw [RequestHandler.mem_activeIds_iff, occupyingIds, mem_idsWhere_iff]
  constructor
  · intro hex
    obtain ⟨r, hr, hstatus⟩ := hex
    have hkey : rid ∈ s.openIds := by
      rw [← h.keys.mem_iff]
      by_contra habsent
      rw [(s.handler.records.get?_eq_none_iff rid).mpr habsent] at hr
      cases hr
    obtain ⟨call, c, hc, hopen, rfl⟩ := mem_idsWhere_iff.mp hkey
    obtain ⟨r', hr', hown⟩ := h.record call c hc hopen
    rw [hr, Option.some.injEq] at hr'
    refine ⟨call, c, hc, ?_, rfl⟩
    by_contra hfree
    have hqueued := hown.status
    rw [← hr', if_neg hfree, hstatus] at hqueued
    cases hqueued
  · intro hex
    obtain ⟨call, c, hc, hoccupying, rfl⟩ := hex
    obtain ⟨r, hr, hown⟩ := h.record call c hc (CallPhase.isOpen_of_isOccupying hoccupying)
    exact ⟨r, hr, by rw [hown.status, if_pos hoccupying]⟩

/-- A start that is not admitted takes one place too many. -/
theorem Tracked.not_bounded (h : s.Tracked router) {maxConcurrent : Nat}
    (hbound : s.handler.maxConcurrent = maxConcurrent) {op : ServingOp κ}
    (hcollision : s.NoCollision op) (hop : ¬s.Admitted op) :
    ¬(s.perform op).Bounded maxConcurrent := by
  cases op with
  | start call now =>
      simp only [Admitted, Classical.not_forall] at hop
      obtain ⟨c, hc, hphase, hfull⟩ := hop
      have hnext := (h.perform hcollision).activeIds_perm.length_eq
      rw [Serving.perform, step_start hc hphase] at hnext ⊢
      have hplaces := (occupyingIds_start hc hphase (s.handler.markStarted c.rid now)).length_eq
      rw [List.length_cons] at hplaces
      rw [Bounded, RequestHandler.getActiveCount_eq, hnext, hplaces]
      omega
  | submit | complete | fail | failResponse | cancel => exact absurd trivial hop

end Tracked

variable [DecidableEq κ]

/-- **When the number of active requests is bounded.**

Take any run of calls, on their own or in batches.  If a call is marked started
only while fewer than `max_concurrent` calls have been marked started and not
completed, then `get_active_count` never exceeds `max_concurrent`; and in the
runs in which no two calls in flight share an id, it does so only then. -/
theorem active_count_bounded_iff (maxConcurrent : Nat) (router : WorkloadRouter)
    (maxConcurrency : Nat → Nat) (ops : List (ServingOp κ)) :
    (StepsMeet perform Admitted (init maxConcurrent router maxConcurrency) ops →
      Throughout perform (Bounded maxConcurrent) (init maxConcurrent router maxConcurrency) ops) ∧
    (StepsMeet perform NoCollision (init maxConcurrent router maxConcurrency) ops →
      (Throughout perform (Bounded maxConcurrent) (init maxConcurrent router maxConcurrency) ops ↔
        StepsMeet perform Admitted (init maxConcurrent router maxConcurrency) ops)) := by
  have hplaces := occupied_init (κ := κ) maxConcurrent router maxConcurrency
  have htracked := tracked_init (κ := κ) maxConcurrent router maxConcurrency
  constructor
  · intro hmeet done hdone
    exact (throughout_of_stepsMeet (fun _ _ hop h => Occupied.perform h hop) ops _ hmeet hplaces
      done hdone).bounded
  · intro hmeet
    have hstep : ∀ (s : Serving κ) op, s.NoCollision op → s.Admitted op →
        s.Occupied maxConcurrent ∧ s.Tracked router →
          (s.perform op).Occupied maxConcurrent ∧ (s.perform op).Tracked router := by
      intro s op hcollision hop h
      exact ⟨h.1.perform hop, h.2.perform hcollision⟩
    apply throughout_iff_stepsMeet_of_stepsMeet hstep
    · intro s h
      exact h.1.bounded
    · intro s op hcollision h hop
      exact h.2.not_bounded h.1.bound hcollision hop
    · exact hmeet
    · exact ⟨hplaces, htracked⟩

/-- Two calls, the second one started while the first waits for the engine. -/
def twoStarts : List (ServingOp Nat) :=
  [ .submit 0 { prompt := "p" } none "u" 0,
    .start 0 0,
    .submit 1 { prompt := "q" } none "v" 1,
    .start 1 1 ]

/-- A handler for one request has two in progress. -/
theorem active_count_exceeds :
    let start : Serving Nat := init 1 plainRouter (fun _ => 8)
    (run perform start twoStarts).handler.getActiveCount = 2 ∧
      ¬Throughout perform (Bounded 1) start twoStarts := by
  intro start
  have hcount : (run perform start twoStarts).handler.getActiveCount = 2 := by decide +kernel
  refine ⟨hcount, ?_⟩
  intro hrun
  have hend : (run perform start twoStarts).handler.getActiveCount ≤ 1 :=
    hrun twoStarts (List.prefix_refl _)
  omega

/-- A handler for two keeps its bound in the same run, and its starts are
admitted. -/
theorem active_count_bounded_iff_two_starts :
    let start : Serving Nat := init 2 plainRouter (fun _ => 8)
    StepsMeet perform Admitted start twoStarts ∧
      StepsMeet perform NoCollision start twoStarts ∧
      Throughout perform (Bounded 2) start twoStarts := by
  intro start
  have hadmitted : StepsMeet perform Admitted start twoStarts := by decide +kernel
  have hcollision : StepsMeet perform NoCollision start twoStarts := by decide +kernel
  obtain ⟨hbounded, hiff⟩ :=
    active_count_bounded_iff 2 plainRouter (fun _ => 8) twoStarts
  exact ⟨(hiff hcollision).mp (hbounded hadmitted), hcollision, (hiff hcollision).mpr hadmitted⟩

end Serving

end KVOrchestrator.Ports
