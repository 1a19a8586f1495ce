import KVOrchestrator.Ports.RequestHandler
import KVOrchestrator.Verified.Ranking

/-!
# The life of a request

A run of the handler is any sequence of its methods; the only thing asked of it
is that no id is submitted twice.  The invariant (`Lifecycle`) compares the
handler with the list of all completions so far: the archive is the end of that
list, no id occurs in it twice, and none of its ids is in the registry.

The archive forgets, so the status of a request is followed through the
registry and *all* completions (`knownStatus`), where it only moves forward
(`Lifecycle.knownStatus_perform`); what `get_status` reports is that status as
long as the record has not been dropped.
-/

namespace KVOrchestrator.Ports

open KVOrchestrator.Verified

/-- One call of a method that writes. -/
inductive HandlerOp where
  | submit (prompt : String) (taskMetadata : Option (OrdDict String String))
      (requestId : Option String) (uuid : String) (now : ℚ)
  | markStarted (requestId : String) (now : ℚ)
  | markCompleted (requestId : String) (error : Option String) (now : ℚ)

/-- The id a call registers. -/
def HandlerOp.submittedId : HandlerOp → List String
  | .submit _ _ requestId uuid _ => [RequestHandler.chooseId requestId uuid]
  | .markStarted _ _ => []
  | .markCompleted _ _ _ => []

/-- The ids a run registers. -/
def submittedIds (ops : List HandlerOp) : List String := ops.flatMap (·.submittedId)

namespace RequestHandler

/-- Perform one call. -/
def perform (h : RequestHandler) : HandlerOp → RequestHandler
  | .submit prompt taskMetadata requestId uuid now =>
      (h.submit prompt taskMetadata requestId uuid now).2
  | .markStarted requestId now => h.markStarted requestId now
  | .markCompleted requestId error now => (h.markCompleted requestId error now).2

/-- The record a call completes, which is what it returns. -/
def completedBy (h : RequestHandler) : HandlerOp → List RequestRecord
  | .markCompleted requestId error now => (h.markCompleted requestId error now).1.toList
  | _ => []

/-- The records a run completes, in completion order. -/
def completions (h : RequestHandler) : List HandlerOp → List RequestRecord
  | [] => []
  | op :: ops => h.completedBy op ++ (h.perform op).completions ops

end RequestHandler

/-- A status without successor. -/
def RequestStatus.Terminal (s : RequestStatus) : Prop := s = .completed ∨ s = .failed

instance (s : RequestStatus) : Decidable s.Terminal := by
  unfold RequestStatus.Terminal
  infer_instance

/-- Place of a status in the life of a request. -/
def RequestStatus.stage : RequestStatus → Nat
  | .queued => 0
  | .inProgress => 1
  | .completed => 2
  | .failed => 2
  | .cancelled => 2

theorem RequestStatus.Terminal.stage_eq {s : RequestStatus} (h : s.Terminal) : s.stage = 2 := by
  rcases h with h | h
  · rw [h]
    rfl
  · rw [h]
    rfl

/-- A request that is finished has completed or failed. -/
theorem RequestRecord.terminal_finished (r : RequestRecord) (error : Option String) (now : ℚ) :
    (r.finished error now).status.Terminal := by
  show (if errorTruthy error then RequestStatus.failed else RequestStatus.completed).Terminal
  split
  · exact .inr rfl
  · exact .inl rfl

/-- The same status, or one of a later stage. -/
def RequestStatus.Forward (s s' : RequestStatus) : Prop := s = s' ∨ s.stage < s'.stage

theorem RequestStatus.Forward.trans {s s' s'' : RequestStatus} (h : s.Forward s')
    (h' : s'.Forward s'') : s.Forward s'' := by
  rcases h with rfl | hlt
  · exact h'
  · rcases h' with rfl | hlt'
    · exact .inr hlt
    · exact .inr (by omega)

/-! ## The invariant -/

/-- A handler after the completions `done`, of the ids `used`. -/
structure Lifecycle (h : RequestHandler) (done : List RequestRecord) (used : List String) :
    Prop where
  inFlight : ∀ rid r, h.records.get? rid = some r →
    (r.status = .queued ∨ r.status = .inProgress) ∧ r.completedAt = none
  terminal : ∀ r ∈ done, r.status.Terminal
  archive : h.completed = done.drop (done.length - maxCompleted)
  registered : ∀ rid r, h.records.get? rid = some r → rid ∈ used
  finished : ∀ r ∈ done, r.requestId ∈ used
  nodup : (done.map (·.requestId)).Nodup
  disjoint : ∀ r ∈ done, h.records.get? r.requestId = none

theorem lifecycle_init (maxConcurrent : Nat) (router : WorkloadRouter) :
    Lifecycle (RequestHandler.init maxConcurrent router) [] [] where
  inFlight := by
    intro rid r hr
    cases hr
  terminal := by
    intro r hr
    cases hr
  archive := rfl
  registered := by
    intro rid r hr
    cases hr
  finished := by
    intro r hr
    cases hr
  nodup := List.nodup_nil
  disjoint := by
    intro r hr
    cases hr

section Step

variable {h : RequestHandler} {done : List RequestRecord} {used : List String}

/-- Registering a new id. -/
theorem Lifecycle.submit (hl : Lifecycle h done used) {prompt : String}
    {taskMetadata : Option (OrdDict String String)} {requestId : Option String}
    {uuid : String} {now : ℚ} (hfresh : RequestHandler.chooseId requestId uuid ∉ used) :
    Lifecycle (h.submit prompt taskMetadata requestId uuid now).2 done
      (used ++ [RequestHandler.chooseId requestId uuid]) := by
  generalize hrid : RequestHandler.chooseId requestId uuid = rid at hfresh
  have hget : ∀ rid' r, (h.submit prompt taskMetadata requestId uuid now).2.records.get? rid' =
      some r → (rid' = rid ∧ r = h.newRecord prompt taskMetadata rid now) ∨
        h.records.get? rid' = some r := by
    intro rid' r hr
    have hr' : (h.records.set rid (h.newRecord prompt taskMetadata rid now)).get? rid' =
        some r := by
      rw [← hrid]
      exact hr
    by_cases hsame : rid' = rid
    · rw [hsame, OrdDict.get?_set_self] at hr'
      exact .inl ⟨hsame, (Option.some.inj hr').symm⟩
    · rw [OrdDict.get?_set_of_ne _ hsame] at hr'
      exact .inr hr'
  exact
    { inFlight := by
        intro rid' r hr
        rcases hget rid' r hr with ⟨_, rfl⟩ | hold
        · exact ⟨.inl rfl, rfl⟩
        · exact hl.inFlight rid' r hold
      terminal := hl.terminal
      archive := hl.archive
      registered := by
        intro rid' r hr
        rw [List.mem_append]
        rcases hget rid' r hr with ⟨rfl, _⟩ | hold
        · exact .inr (List.mem_singleton_self _)
        · exact .inl (hl.registered rid' r hold)
      finished := fun r hr => List.mem_append_left _ (hl.finished r hr)
      nodup := hl.nodup
      disjoint := by
        intro r hr
        rw [Option.eq_none_iff_forall_ne_some]
        intro r' hr'
        rcases hget _ r' hr' with ⟨hsame, _⟩ | hold
        · exact hfresh (hsame ▸ hl.finished r hr)
        · rw [hl.disjoint r hr] at hold
          cases hold }

/-- Starting a registered request. -/
theorem Lifecycle.markStarted (hl : Lifecycle h done used) (rid : String) (now : ℚ) :
    Lifecycle (h.markStarted rid now) done used := by
  have hget : ∀ rid' r, (h.markStarted rid now).records.get? rid' = some r →
      ∃ r', h.records.get? rid' = some r' ∧ (r = r'.started now ∨ r = r') := by
    intro rid' r hr
    have hr' : (h.records.modify rid (·.started now)).get? rid' = some r := hr
    by_cases hsame : rid' = rid
    · rw [hsame, OrdDict.get?_modify_self, Option.map_eq_some_iff] at hr'
      obtain ⟨r', hr', heq⟩ := hr'
      exact ⟨r', hsame ▸ hr', .inl heq.symm⟩
    · rw [OrdDict.get?_modify_of_ne _ hsame] at hr'
      exact ⟨r, hr', .inr rfl⟩
  exact
    { inFlight := by
        intro rid' r hr
        obtain ⟨r', hr', hcase⟩ := hget rid' r hr
        obtain ⟨hstatus, hopen⟩ := hl.inFlight rid' r' hr'
        rcases hcase with rfl | rfl
        · exact ⟨.inr rfl, hopen⟩
        · exact ⟨hstatus, hopen⟩
      terminal := hl.terminal
      archive := hl.archive
      registered := by
        intro rid' r hr
        obtain ⟨r', hr', _⟩ := hget rid' r hr
        exact hl.registered rid' r' hr'
      finished := hl.finished
      nodup := hl.nodup
      disjoint := by
        intro r hr
        rw [Option.eq_none_iff_forall_ne_some]
        intro r' hr'
        obtain ⟨r'', hr'', _⟩ := hget _ r' hr'
        rw [hl.disjoint r hr] at hr''
        cases hr'' }

/-- Cutting an archive that was cut before is cutting the whole list. -/
theorem pushCompleted_drop (done : List RequestRecord) (record : RequestRecord) :
    RequestHandler.pushCompleted (done.drop (done.length - maxCompleted)) record =
      (done ++ [record]).drop ((done ++ [record]).length - maxCompleted) := by
  have hsplit : done.drop (done.length - maxCompleted) ++ [record] =
      (done ++ [record]).drop (done.length - maxCompleted) := by
    rw [List.drop_append_of_le_length (Nat.sub_le _ _)]
  have hcut : done.length - maxCompleted +
      (((done ++ [record]).drop (done.length - maxCompleted)).length - maxCompleted) =
        (done ++ [record]).length - maxCompleted := by
    simp only [List.length_drop, List.length_append, List.length_singleton]
    generalize maxCompleted = cap
    omega
  rw [RequestHandler.pushCompleted_eq, hsplit, List.drop_drop, hcut]

/-- Completing a request. -/
theorem Lifecycle.markCompleted (hl : Lifecycle h done used) (rid : String)
    (error : Option String) (now : ℚ) :
    Lifecycle (h.markCompleted rid error now).2
      (done ++ (h.markCompleted rid error now).1.toList) used := by
  cases hr : h.records.get? rid with
  | none =>
      rw [RequestHandler.markCompleted_of_none hr]
      simpa using hl
  | some r =>
      obtain ⟨hout, hrecords, hcompleted, _, _⟩ :=
        RequestHandler.markCompleted_of_some hr error now
      have hrid : r.requestId = rid := h.requestId_of_get? hr
      have hget := fun rid' r' => (h.get?_markCompleted rid error now rid' r').mp
      -- the id was registered, so that it is new among the completions
      have hnew : ∀ r' ∈ done, r'.requestId ≠ rid := by
        rintro r' hr' rfl
        rw [hl.disjoint r' hr'] at hr
        cases hr
      rw [hout, Option.toList_some]
      exact
        { inFlight := fun rid' r' hr' => hl.inFlight rid' r' (hget rid' r' hr').2
          terminal := by
            intro r' hr'
            rcases List.mem_append.mp hr' with hold | hlast
            · exact hl.terminal r' hold
            · rw [List.mem_singleton.mp hlast]
              exact r.terminal_finished error now
          archive := by
            rw [hcompleted, hl.archive]
            exact pushCompleted_drop done _
          registered := fun rid' r' hr' => hl.registered rid' r' (hget rid' r' hr').2
          finished := by
            intro r' hr'
            rcases List.mem_append.mp hr' with hold | hlast
            · exact hl.finished r' hold
            · rw [List.mem_singleton.mp hlast]
              exact hrid ▸ hl.registered rid r hr
          nodup := by
            rw [List.map_append]
            refine List.Nodup.append hl.nodup (List.nodup_singleton _) ?_
            intro rid' hold hlast
            obtain ⟨r', hr', rfl⟩ := List.mem_map.mp hold
            rw [List.map_singleton, List.mem_singleton] at hlast
            exact hnew r' hr' (hlast.trans hrid)
          disjoint := by
            intro r' hr'
            rw [Option.eq_none_iff_forall_ne_some]
            intro r'' hr''
            obtain ⟨hne, hold⟩ := hget _ r'' hr''
            rcases List.mem_append.mp hr' with hin | hlast
            · rw [hl.disjoint r' hin] at hold
              cases hold
            · rw [List.mem_singleton.mp hlast] at hne
              exact hne hrid }

/-- **One call** keeps the invariant if it does not register a used id. -/
theorem Lifecycle.perform (hl : Lifecycle h done used) {op : HandlerOp}
    (hfresh : ∀ rid ∈ op.submittedId, rid ∉ used) :
    Lifecycle (h.perform op) (done ++ h.completedBy op) (used ++ op.submittedId) := by
  cases op with
  | submit prompt taskMetadata requestId uuid now =>
      show Lifecycle _ (done ++ []) _
      rw [List.append_nil]
      exact hl.submit (hfresh _ (List.mem_singleton_self _))
  | markStarted rid now =>
      show Lifecycle _ (done ++ []) (used ++ [])
      rw [List.append_nil, List.append_nil]
      exact hl.markStarted rid now
  | markCompleted rid error now =>
      show Lifecycle _ _ (used ++ [])
      rw [List.append_nil]
      exact hl.markCompleted rid error now

/-- **A run** keeps the invariant if it registers no id twice. -/
theorem lifecycle_run {ops : List HandlerOp} :
    ∀ {h : RequestHandler} {done : List RequestRecord} {used : List String},
      Lifecycle h done used → (used ++ submittedIds ops).Nodup →
      Lifecycle (run RequestHandler.perform h ops) (done ++ h.completions ops)
        (used ++ submittedIds ops) := by
  induction ops with
  | nil =>
      intro h done used hl _
      simpa [submittedIds, RequestHandler.completions, Verified.run] using hl
  | cons op ops ih =>
      intro h done used hl hnodup
      have hids : submittedIds (op :: ops) = op.submittedId ++ submittedIds ops :=
        List.flatMap_cons
      rw [hids, ← List.append_assoc] at hnodup ⊢
      have hfresh : ∀ rid ∈ op.submittedId, rid ∉ used := by
        intro rid hrid hused
        exact (List.nodup_append.mp (List.nodup_append.mp hnodup).1).2.2 rid hused rid hrid rfl
      have hrest := ih (hl.perform hfresh) hnodup
      rw [List.append_assoc] at hrest
      exact hrest

end Step

/-! ## The status of a request -/

/-- The status of an id, from the registry and all completions. -/
def knownStatus (h : RequestHandler) (done : List RequestRecord) (rid : String) :
    Option RequestStatus :=
  match h.records.get? rid with
  | some r => some r.status
  | none => (done.find? (fun r => decide (r.requestId = rid))).map (·.status)

section Status

variable {h : RequestHandler} {done : List RequestRecord} {used : List String}

theorem knownStatus_of_registered {rid : String} {r : RequestRecord}
    (hr : h.records.get? rid = some r) : knownStatus h done rid = some r.status := by
  rw [knownStatus, hr]

theorem knownStatus_of_none {rid : String} (hr : h.records.get? rid = none) :
    knownStatus h done rid =
      (done.find? (fun r => decide (r.requestId = rid))).map (·.status) := by
  rw [knownStatus, hr]

/-- An id with a status has been used. -/
theorem Lifecycle.used_of_knownStatus (hl : Lifecycle h done used) {rid : String}
    {s : RequestStatus} (hs : knownStatus h done rid = some s) : rid ∈ used := by
  cases hr : h.records.get? rid with
  | some r => exact hl.registered rid r hr
  | none =>
      rw [knownStatus_of_none hr, Option.map_eq_some_iff] at hs
      obtain ⟨r, hfind, _⟩ := hs
      have hid : r.requestId = rid := by simpa using List.find?_some hfind
      exact hid ▸ hl.finished r (List.mem_of_find?_eq_some hfind)

/-- A completion that is found stays found. -/
theorem find?_append_of_some {rid : String} {s : RequestStatus} (more : List RequestRecord)
    (hs : (done.find? (fun r => decide (r.requestId = rid))).map (·.status) = some s) :
    ((done ++ more).find? (fun r => decide (r.requestId = rid))).map (·.status) = some s := by
  rw [Option.map_eq_some_iff] at hs ⊢
  obtain ⟨r, hfind, hr⟩ := hs
  exact ⟨r, by rw [List.find?_append, hfind]; rfl, hr⟩

/-- A submission under a fresh id leaves the status of every other. -/
theorem Lifecycle.knownStatus_submit (hl : Lifecycle h done used)
    {prompt taskMetadata requestId uuid now}
    (hfresh : RequestHandler.chooseId requestId uuid ∉ used) {rid : String}
    {s : RequestStatus} (hs : knownStatus h done rid = some s) :
    ∃ s', knownStatus (h.perform (.submit prompt taskMetadata requestId uuid now))
        (done ++ h.completedBy (.submit prompt taskMetadata requestId uuid now)) rid = some s' ∧
      s.Forward s' := by
  have hne : rid ≠ RequestHandler.chooseId requestId uuid := by
    rintro rfl
    exact hfresh (hl.used_of_knownStatus hs)
  have hget : (h.perform (.submit prompt taskMetadata requestId uuid now)).records.get? rid =
      h.records.get? rid := OrdDict.get?_set_of_ne _ hne _
  refine ⟨s, ?_, .inl rfl⟩
  show knownStatus _ (done ++ []) rid = some s
  rw [List.append_nil, knownStatus, hget]
  exact hs

/-- A start moves a queued request forward. -/
theorem Lifecycle.knownStatus_markStarted (hl : Lifecycle h done used) (rid' : String) {now}
    {rid : String} {s : RequestStatus} (hs : knownStatus h done rid = some s) :
    ∃ s', knownStatus (h.perform (.markStarted rid' now))
        (done ++ h.completedBy (.markStarted rid' now)) rid = some s' ∧ s.Forward s' := by
  show ∃ s', knownStatus _ (done ++ []) rid = some s' ∧ _
  rw [List.append_nil]
  cases hr : h.records.get? rid' with
  | none =>
      rw [RequestHandler.perform, RequestHandler.markStarted_of_none hr]
      exact ⟨s, hs, .inl rfl⟩
  | some r =>
      by_cases hsame : rid = rid'
      · subst hsame
        have hget : (h.perform (.markStarted rid now)).records.get? rid =
            some (r.started now) := by
          have hmod := OrdDict.get?_modify_self h.records rid (·.started now)
          rw [hr] at hmod
          exact hmod
        rw [knownStatus_of_registered hr, Option.some.injEq] at hs
        refine ⟨.inProgress, knownStatus_of_registered hget, ?_⟩
        rcases (hl.inFlight rid r hr).1 with hq | hp
        · exact .inr (by rw [← hs, hq]; decide)
        · exact .inl (by rw [← hs, hp])
      · have hget : (h.perform (.markStarted rid' now)).records.get? rid =
            h.records.get? rid := OrdDict.get?_modify_of_ne _ hsame _
        refine ⟨s, ?_, .inl rfl⟩
        rw [knownStatus, hget]
        exact hs

section Completion

variable {rid : String} {r : RequestRecord} (error : Option String) (now : ℚ)

/-- The request that is completed was in flight, and has come to its end. -/
theorem Lifecycle.knownStatus_completed_self (hl : Lifecycle h done used)
    (hr : h.records.get? rid = some r) {s : RequestStatus}
    (hs : knownStatus h done rid = some s) {h' : RequestHandler}
    (hgone : h'.records.get? rid = none) :
    ∃ s', knownStatus h' (done ++ [r.finished error now]) rid = some s' ∧ s.Forward s' := by
  have hnew : done.find? (fun r => decide (r.requestId = rid)) = none := by
    rw [List.find?_eq_none]
    intro r' hr' hid
    have habsent := hl.disjoint r' hr'
    rw [of_decide_eq_true hid, hr] at habsent
    cases habsent
  have hid : r.requestId = rid := h.requestId_of_get? hr
  have hlast : [r.finished error now].find? (fun r => decide (r.requestId = rid)) =
      some (r.finished error now) :=
    List.find?_cons_of_pos (decide_eq_true hid)
  have hlate := (r.terminal_finished error now).stage_eq
  rw [knownStatus_of_registered hr, Option.some.injEq] at hs
  refine ⟨(r.finished error now).status, ?_, .inr ?_⟩
  · rw [knownStatus_of_none hgone, List.find?_append, hnew, hlast]
    rfl
  · rw [hlate, ← hs]
    rcases (hl.inFlight rid r hr).1 with hq | hp
    · rw [hq]
      decide
    · rw [hp]
      decide

/-- The completion of another request leaves the status. -/
theorem knownStatus_completed_of_ne {s : RequestStatus} (hs : knownStatus h done rid = some s)
    {h' : RequestHandler} (hget : h'.records.get? rid = h.records.get? rid)
    (completed : List RequestRecord) :
    knownStatus h' (done ++ completed) rid = some s := by
  cases hreg : h.records.get? rid with
  | some r' =>
      rw [knownStatus_of_registered hreg] at hs
      rw [knownStatus_of_registered (hget.trans hreg), hs]
  | none =>
      rw [knownStatus_of_none hreg] at hs
      rw [knownStatus_of_none (hget.trans hreg)]
      exact find?_append_of_some _ hs

end Completion

/-- A completion moves a request in flight forward. -/
theorem Lifecycle.knownStatus_markCompleted (hl : Lifecycle h done used) (rid' : String)
    {error now} {rid : String} {s : RequestStatus} (hs : knownStatus h done rid = some s) :
    ∃ s', knownStatus (h.perform (.markCompleted rid' error now))
        (done ++ h.completedBy (.markCompleted rid' error now)) rid = some s' ∧ s.Forward s' := by
  cases hr : h.records.get? rid' with
  | none =>
      rw [RequestHandler.perform, RequestHandler.completedBy,
        RequestHandler.markCompleted_of_none hr]
      exact ⟨s, by simpa using hs, .inl rfl⟩
  | some r =>
      obtain ⟨hout, hrecords, _, _, _⟩ := RequestHandler.markCompleted_of_some hr error now
      have hafter : ∀ rid, (h.perform (.markCompleted rid' error now)).records.get? rid =
          (h.records.erase rid').get? rid := by
        intro rid
        rw [← hrecords]
        rfl
      have hdone : h.completedBy (.markCompleted rid' error now) = [r.finished error now] := by
        rw [RequestHandler.completedBy, hout, Option.toList_some]
      rw [hdone]
      by_cases hsame : rid = rid'
      · subst hsame
        apply hl.knownStatus_completed_self error now hr hs
        rw [hafter, OrdDict.get?_erase_self]
      · refine ⟨s, ?_, .inl rfl⟩
        apply knownStatus_completed_of_ne hs
        rw [hafter, OrdDict.get?_erase_of_ne _ hsame]

/-- **One call** moves the status of a request forward or leaves it. -/
theorem Lifecycle.knownStatus_perform (hl : Lifecycle h done used) {op : HandlerOp}
    (hfresh : ∀ rid ∈ op.submittedId, rid ∉ used) {rid : String} {s : RequestStatus}
    (hs : knownStatus h done rid = some s) :
    ∃ s', knownStatus (h.perform op) (done ++ h.completedBy op) rid = some s' ∧
      s.Forward s' := by
  cases op with
  | submit prompt taskMetadata requestId uuid now =>
      exact hl.knownStatus_submit (hfresh _ (List.mem_singleton_self _)) hs
  | markStarted rid' now => exact hl.knownStatus_markStarted rid' hs
  | markCompleted rid' error now => exact hl.knownStatus_markCompleted rid' hs

/-- **A run** moves the status of a request forward or leaves it. -/
theorem Lifecycle.knownStatus_run {rid : String} {ops : List HandlerOp} :
    ∀ {h : RequestHandler} {done : List RequestRecord} {used : List String} {s : RequestStatus},
      Lifecycle h done used → (used ++ submittedIds ops).Nodup →
      knownStatus h done rid = some s →
      ∃ s', knownStatus (run RequestHandler.perform h ops) (done ++ h.completions ops) rid =
        some s' ∧ s.Forward s' := by
  induction ops with
  | nil =>
      intro h done used s _ _ hs
      exact ⟨s, by simpa [RequestHandler.completions, Verified.run] using hs, .inl rfl⟩
  | cons op ops ih =>
      intro h done used s hl hnodup hs
      have hids : submittedIds (op :: ops) = op.submittedId ++ submittedIds ops :=
        List.flatMap_cons
      rw [hids, ← List.append_assoc] at hnodup
      have hfresh : ∀ rid ∈ op.submittedId, rid ∉ used := by
        intro rid hrid hused
        exact (List.nodup_append.mp (List.nodup_append.mp hnodup).1).2.2 rid hused rid hrid rfl
      obtain ⟨s₁, hs₁, hstep⟩ := hl.knownStatus_perform hfresh hs
      obtain ⟨s₂, hs₂, hrest⟩ := ih (hl.perform hfresh) hnodup hs₁
      rw [List.append_assoc] at hs₂
      exact ⟨s₂, hs₂, hstep.trans hrest⟩

/-- What is reported of an id is its status. -/
theorem Lifecycle.knownStatus_of_recordOf (hl : Lifecycle h done used) {rid : String}
    {r : RequestRecord} (hr : h.recordOf rid = some r) :
    knownStatus h done rid = some r.status := by
  unfold RequestHandler.recordOf at hr
  cases hreg : h.records.get? rid with
  | some r' =>
      rw [hreg] at hr
      rw [knownStatus_of_registered hreg, ← Option.some.inj hr]
  | none =>
      rw [hreg] at hr
      have hid : r.requestId = rid := by simpa using List.find?_some hr
      have hmem : r ∈ done := by
        have harchived := List.mem_reverse.mp (List.mem_of_find?_eq_some hr)
        rw [hl.archive] at harchived
        exact List.mem_of_mem_drop harchived
      have hfind := find?_map_of_name (f := (·.requestId)) hl.nodup id (·.requestId)
        (fun _ _ => rfl) hmem
      rw [List.map_id, hid] at hfind
      rw [knownStatus_of_none hreg, hfind]
      rfl

/-- An id with a status of which nothing is reported was dropped from the
archive. -/
theorem Lifecycle.dropped_of_recordOf_none (hl : Lifecycle h done used) {rid : String}
    {s : RequestStatus} (hr : h.recordOf rid = none) (hs : knownStatus h done rid = some s) :
    ∃ r ∈ done.take (done.length - maxCompleted), r.requestId = rid := by
  unfold RequestHandler.recordOf at hr
  cases hreg : h.records.get? rid with
  | some r' =>
      rw [hreg] at hr
      cases hr
  | none =>
      rw [hreg] at hr
      simp only [List.find?_eq_none, List.mem_reverse] at hr
      rw [knownStatus_of_none hreg, Option.map_eq_some_iff] at hs
      obtain ⟨r, hfind, _⟩ := hs
      have hid : r.requestId = rid := by simpa using List.find?_some hfind
      have hmem := List.mem_of_find?_eq_some hfind
      rw [← List.take_append_drop (done.length - maxCompleted) done, List.mem_append] at hmem
      rcases hmem with htake | hdrop
      · exact ⟨r, htake, hid⟩
      · rw [← hl.archive] at hdrop
        exact absurd (decide_eq_true hid) (hr r hdrop)

end Status

theorem RequestHandler.completions_append (first second : List HandlerOp) :
    ∀ h : RequestHandler, h.completions (first ++ second) =
      h.completions first ++ (run RequestHandler.perform h first).completions second := by
  induction first with
  | nil =>
      intro h
      rfl
  | cons op first ih =>
      intro h
      show h.completedBy op ++ (h.perform op).completions (first ++ second) =
        h.completedBy op ++ (h.perform op).completions first ++ _
      rw [ih, List.append_assoc]
      rfl

/-- One request completed twice, and a second one completed before it is
started. -/
def twoRequests : List HandlerOp :=
  [ .submit "p" none (some "a") "u" 0,
    .markStarted "a" 1,
    .submit "q" none (some "b") "u" 1,
    .markCompleted "a" none 2,
    .markCompleted "a" (some "late") 3,
    .markCompleted "b" (some "early") 3,
    .markStarted "b" 4 ]

end KVOrchestrator.Ports
