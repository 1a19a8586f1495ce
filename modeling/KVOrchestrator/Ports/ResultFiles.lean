import KVOrchestrator.Ports.Schema
import KVOrchestrator.Verified.Json

/-!
# Benchmark results on disk (`src/benchmarks/longbench.py`)

`save` writes a result as one JSON document: its own fields one by one, and each
task result as the dictionary of its fields with the workload type replaced by
its value.  `load` rebuilds the task results and the result by keyword.

The decoder inverts the encoder at each of the two levels
(`TaskResult.ofJson_toJson`, `BenchmarkResult.ofDocument_document`), so a load
returns the result that was saved last under its path, whatever else has been
saved (`load_saveAll`).

Fields have the types of their annotations, and a loaded value that is not of
its field's type is an error here.  Texts are those of any `JsonText`.
-/

namespace KVOrchestrator.Ports.ResultFiles

open KVOrchestrator.Verified

structure TaskResult where
  taskName : String
  workloadType : WorkloadType
  policyName : String
  memoryBudget : ℚ
  nSamples : Int
  /-- Primary metric value. -/
  qualityScore : ℚ
  primaryMetric : String
  qualityBreakdown : OrdDict String Json := OrdDict.empty
  systemMetrics : OrdDict String Json := OrdDict.empty
  latenciesMs : List ℚ := []
  failedRequests : Int := 0
  timestamp : ℚ

structure BenchmarkResult where
  policyName : String
  memoryBudget : ℚ
  taskResults : List TaskResult := []
  aggregateQuality : ℚ := 0
  systemSummary : OrdDict String Json := OrdDict.empty
  timestamp : ℚ
  config : OrdDict String Json := OrdDict.empty

/-- The free-form dictionaries of the task result are documents. -/
structure TaskResult.HoldsJson (t : TaskResult) : Prop where
  qualityBreakdown : ∀ e ∈ t.qualityBreakdown.entries, e.2.WellFormed
  systemMetrics : ∀ e ∈ t.systemMetrics.entries, e.2.WellFormed

/-- The free-form dictionaries of the result are documents. -/
structure BenchmarkResult.HoldsJson (r : BenchmarkResult) : Prop where
  systemSummary : ∀ e ∈ r.systemSummary.entries, e.2.WellFormed
  config : ∀ e ∈ r.config.entries, e.2.WellFormed
  taskResults : ∀ t ∈ r.taskResults, t.HoldsJson

/-! ## Writing -/

/-- A value in the dictionary of a task result's fields. -/
inductive FieldValue where
  | json (v : Json)
  | workloadType (wt : WorkloadType)

/-- What the value is to the JSON writer: the enumeration is a subclass of
`str`. -/
def FieldValue.toJson : FieldValue → Json
  | .json v => v
  | .workloadType wt => .str wt.value

/-- What the dictionary is to the JSON writer. -/
def dumped (d : OrdDict String FieldValue) : OrdDict String Json :=
  d.mapValues FieldValue.toJson

namespace TaskResult

/-- `asdict(self)` -/
def asdict (t : TaskResult) : OrdDict String FieldValue where
  entries :=
    [("task_name", .json (.str t.taskName)),
      ("workload_type", .workloadType t.workloadType),
      ("policy_name", .json (.str t.policyName)),
      ("memory_budget", .json (.float t.memoryBudget)),
      ("n_samples", .json (.int t.nSamples)),
      ("quality_score", .json (.float t.qualityScore)),
      ("primary_metric", .json (.str t.primaryMetric)),
      ("quality_breakdown", .json (.ofDict t.qualityBreakdown)),
      ("system_metrics", .json (.ofDict t.systemMetrics)),
      ("latencies_ms", .json (.arr (t.latenciesMs.map .float))),
      ("failed_requests", .json (.int t.failedRequests)),
      ("timestamp", .json (.float t.timestamp))]
  nodup := by simp

def toDict (t : TaskResult) : OrdDict String FieldValue :=
  t.asdict.set "workload_type" (.json (.str t.workloadType.value))

/-- The document of a task result. -/
def toJson (t : TaskResult) : Json := .ofDict (dumped t.toDict)

end TaskResult

namespace BenchmarkResult

/-- The fields `save` lists by hand. -/
def data (r : BenchmarkResult) : OrdDict String Json where
  entries :=
    [("policy_name", .str r.policyName),
      ("memory_budget", .float r.memoryBudget),
      ("aggregate_quality", .float r.aggregateQuality),
      ("system_summary", .ofDict r.systemSummary),
      ("timestamp", .float r.timestamp),
      ("config", .ofDict r.config),
      ("task_results", .arr (r.taskResults.map TaskResult.toJson))]
  nodup := by simp

/-- Write the result at `path`, over what was there. -/
def save {τ : Type*} [JsonText τ] (r : BenchmarkResult) (path : String)
    (files : OrdDict String τ) : OrdDict String τ :=
  files.set path (JsonText.dump (Json.ofDict r.data))

end BenchmarkResult

/-! ## Reading -/

section Keywords

variable {ν α : Type*}

/-- A dataclass takes no keyword that is not a field. -/
def onlyFields (fields : List String) (kwargs : OrdDict String ν) : Except PyError Unit :=
  if kwargs.keys.all (fun k => fields.contains k) then .ok () else Json.typeError

/-- The argument for a field without a default. -/
def required (kwargs : OrdDict String ν) (field : String) (read : ν → Except PyError α) :
    Except PyError α :=
  match kwargs.get? field with
  | some v => read v
  | none => Json.typeError

/-- The argument for a field with a default. -/
def optional (kwargs : OrdDict String ν) (field : String) (read : ν → Except PyError α)
    (default : α) : Except PyError α :=
  match kwargs.get? field with
  | some v => read v
  | none => .ok default

end Keywords

/-- An argument as JSON data. -/
def FieldValue.read {α : Type*} (use : Json → Except PyError α) (v : FieldValue) :
    Except PyError α :=
  use v.toJson

/-- An argument as a workload type. -/
def FieldValue.asWorkloadType : FieldValue → Except PyError WorkloadType
  | .workloadType wt => .ok wt
  | .json _ => Json.typeError

/-- `WorkloadType(v) if k == "workload_type" else v` -/
def fieldValue (k : String) (v : Json) : Except PyError FieldValue :=
  if k = "workload_type" then
    match v with
    | .str value =>
        match WorkloadType.ofValue? value with
        | some wt => .ok (.workloadType wt)
        | none => .error (.valueError "not a valid WorkloadType")
    | _ => .error (.valueError "not a valid WorkloadType")
  else .ok (.json v)

namespace TaskResult

def fields : List String :=
  ["task_name", "workload_type", "policy_name", "memory_budget", "n_samples", "quality_score",
    "primary_metric", "quality_breakdown", "system_metrics", "latencies_ms", "failed_requests",
    "timestamp"]

/-- The keyword arguments made of a loaded dictionary. -/
def keywords (t : OrdDict String Json) : Except PyError (OrdDict String FieldValue) :=
  match t.entries.mapM (fun e => (fieldValue e.1 e.2).map (Prod.mk e.1)) with
  | .ok entries => .ok (OrdDict.ofEntries entries)
  | .error e => .error e

/-- `TaskResult(**kwargs)`; `now` is what the default of the timestamp reads. -/
def ofKeywords (now : ℚ) (kwargs : OrdDict String FieldValue) : Except PyError TaskResult := do
  onlyFields fields kwargs
  let taskName ← required kwargs "task_name" (FieldValue.read Json.asStr)
  let workloadType ← required kwargs "workload_type" FieldValue.asWorkloadType
  let policyName ← required kwargs "policy_name" (FieldValue.read Json.asStr)
  let memoryBudget ← required kwargs "memory_budget" (FieldValue.read Json.asFloat)
  let nSamples ← required kwargs "n_samples" (FieldValue.read Json.asInt)
  let qualityScore ← required kwargs "quality_score" (FieldValue.read Json.asFloat)
  let primaryMetric ← required kwargs "primary_metric" (FieldValue.read Json.asStr)
  let qualityBreakdown ← optional kwargs "quality_breakdown" (FieldValue.read Json.asDict) .empty
  let systemMetrics ← optional kwargs "system_metrics" (FieldValue.read Json.asDict) .empty
  let latenciesMs ← optional kwargs "latencies_ms" (FieldValue.read Json.asFloats) []
  let failedRequests ← optional kwargs "failed_requests" (FieldValue.read Json.asInt) 0
  let timestamp ← optional kwargs "timestamp" (FieldValue.read Json.asFloat) now
  return {
    taskName, workloadType, policyName, memoryBudget, nSamples, qualityScore, primaryMetric,
    qualityBreakdown, systemMetrics, latenciesMs, failedRequests, timestamp }

def ofJson (now : ℚ) (t : Json) : Except PyError TaskResult := do
  let items ← t.items
  let kwargs ← keywords items
  ofKeywords now kwargs

/-- The comprehension over the loaded task results.  Each construction has its
own reading of the clock. -/
def ofJsons (clock : Nat → ℚ) : List Json → Except PyError (List TaskResult)
  | [] => .ok []
  | t :: rest => do
      let result ← ofJson (clock 0) t
      let results ← ofJsons (fun n => clock (n + 1)) rest
      return result :: results

end TaskResult

namespace BenchmarkResult

/-- The fields besides `task_results`. -/
def otherFields : List String :=
  ["policy_name", "memory_budget", "aggregate_quality", "system_summary", "timestamp", "config"]

/-- `cls(task_results=task_results, **data)` -/
def ofKeywords (now : ℚ) (taskResults : List TaskResult) (data : OrdDict String Json) :
    Except PyError BenchmarkResult := do
  onlyFields otherFields data
  let policyName ← required data "policy_name" Json.asStr
  let memoryBudget ← required data "memory_budget" Json.asFloat
  let aggregateQuality ← optional data "aggregate_quality" Json.asFloat 0
  let systemSummary ← optional data "system_summary" Json.asDict .empty
  let timestamp ← optional data "timestamp" Json.asFloat now
  let config ← optional data "config" Json.asDict .empty
  return {
    policyName, memoryBudget, taskResults, aggregateQuality, systemSummary, timestamp, config }

/-- The result in a loaded dictionary. -/
def ofData (clock : Nat → ℚ) (data : OrdDict String Json) : Except PyError BenchmarkResult := do
  let tasks ← ((data.get? "task_results").getD (.arr [])).iter
  let taskResults ← TaskResult.ofJsons clock tasks
  ofKeywords (clock tasks.length) taskResults (data.erase "task_results")

/-- The result in a loaded document. -/
def ofDocument (clock : Nat → ℚ) : Json → Except PyError BenchmarkResult
  | .obj entries => ofData clock (OrdDict.ofEntries entries)
  -- a list has a `pop` of its own, without a default
  | .arr _ => Json.typeError
  | _ => .error (.attributeError "pop")

/-- Read the result at `path`. -/
def load {τ : Type*} [JsonText τ] (clock : Nat → ℚ) (path : String) (files : OrdDict String τ) :
    Except PyError BenchmarkResult := do
  match files.get? path with
  | none => .error (.other "FileNotFoundError")
  | some text =>
      let data ← JsonText.load text
      ofDocument clock data

end BenchmarkResult

/-! ## What is read is what was written -/

section RoundTrip

@[simp] theorem FieldValue.read_json {α : Type*} (use : Json → Except PyError α) (v : Json) :
    FieldValue.read use (.json v) = use v := rfl

theorem ofValue?_value (wt : WorkloadType) : WorkloadType.ofValue? wt.value = some wt := by
  cases wt <;> rfl

namespace TaskResult

variable (t : TaskResult)

/-- The constructor undoes `asdict`. -/
theorem ofKeywords_asdict (now : ℚ) : ofKeywords now t.asdict = .ok t := by
  have hfields : onlyFields fields t.asdict = .ok () := by
    simp [onlyFields, fields, asdict, OrdDict.keys]
  rw [ofKeywords, hfields]
  simp [required, optional, asdict, OrdDict.get?, FieldValue.asWorkloadType]
  rfl

/-- The replacement puts the value where the JSON writer would have put it. -/
theorem dumped_toDict : dumped t.toDict = dumped t.asdict := by
  apply OrdDict.ext
  simp [dumped, OrdDict.mapValues, toDict, OrdDict.set, asdict, OrdDict.keys, OrdDict.modify,
    OrdDict.update, FieldValue.toJson]

/-- The enumeration is rebuilt at its key, and nothing is changed at the others. -/
theorem fieldValue_asdict (e : String × FieldValue) (he : e ∈ t.asdict.entries) :
    fieldValue e.1 e.2.toJson = .ok e.2 := by
  simp only [asdict, List.mem_cons, List.not_mem_nil, or_false] at he
  rcases he with rfl | rfl | rfl | rfl | rfl | rfl | rfl | rfl | rfl | rfl | rfl | rfl
  all_goals simp [fieldValue, FieldValue.toJson, ofValue?_value]

/-- The comprehension undoes the conversion. -/
theorem keywords_toDict : keywords (dumped t.toDict) = .ok t.asdict := by
  have hrebuilt : (dumped t.toDict).entries.mapM
      (fun e => (fieldValue e.1 e.2).map (Prod.mk e.1)) = .ok t.asdict.entries := by
    rw [dumped_toDict]
    refine mapM_map_ok (fun e he => ?_)
    show (fieldValue e.1 e.2.toJson).map (Prod.mk e.1) = .ok e
    rw [fieldValue_asdict t e he]
    rfl
  rw [keywords, hrebuilt]
  exact congrArg Except.ok t.asdict.ofEntries_entries

theorem ofJson_toJson (now : ℚ) : ofJson now t.toJson = .ok t := by
  rw [ofJson, toJson, Json.items_ofDict]
  show (keywords (dumped t.toDict)).bind (ofKeywords now) = .ok t
  rw [keywords_toDict]
  exact ofKeywords_asdict t now

theorem ofJsons_toJson (ts : List TaskResult) :
    ∀ clock : Nat → ℚ, ofJsons clock (ts.map toJson) = .ok ts := by
  induction ts with
  | nil =>
      intro clock
      rfl
  | cons t rest ih =>
      intro clock
      rw [List.map_cons, ofJsons, ofJson_toJson, ih]
      rfl

/-- A task result with documents in its dictionaries is written as one. -/
theorem HoldsJson.wellFormed {t : TaskResult} (h : t.HoldsJson) : t.toJson.WellFormed := by
  rw [toJson, dumped_toDict]
  refine Json.wellFormed_ofDict ?_
  simp only [dumped, OrdDict.mapValues, asdict, List.map_cons, List.map_nil, FieldValue.toJson,
    List.forall_mem_cons]
  exact ⟨.str _, .str _, .str _, .float _, .int _, .float _, .str _,
    Json.wellFormed_ofDict h.qualityBreakdown, Json.wellFormed_ofDict h.systemMetrics,
    Json.wellFormed_floats _, .int _, .float _, List.forall_mem_nil _⟩

end TaskResult

namespace BenchmarkResult

variable (r : BenchmarkResult)

/-- The constructor takes the fields back that `save` has listed. -/
theorem ofKeywords_data (now : ℚ) (taskResults : List TaskResult) :
    ofKeywords now taskResults (r.data.erase "task_results") =
      .ok { r with taskResults := taskResults } := by
  have hfields : onlyFields otherFields (r.data.erase "task_results") = .ok () := by
    simp [onlyFields, otherFields, data, OrdDict.keys, OrdDict.erase, OrdDict.update]
  rw [ofKeywords, hfields]
  simp [required, optional, data, OrdDict.get?, OrdDict.erase, OrdDict.update]
  rfl

theorem ofData_data (clock : Nat → ℚ) : ofData clock r.data = .ok r := by
  have htasks : r.data.get? "task_results" = some (.arr (r.taskResults.map TaskResult.toJson)) := by
    simp [data, OrdDict.get?]
  rw [ofData, htasks, Option.getD_some, Json.iter_arr]
  show (TaskResult.ofJsons clock (r.taskResults.map TaskResult.toJson)).bind _ = .ok r
  rw [TaskResult.ofJsons_toJson]
  exact ofKeywords_data r _ r.taskResults

theorem HoldsJson.wellFormed {r : BenchmarkResult} (h : r.HoldsJson) :
    (Json.ofDict r.data).WellFormed := by
  have htasks : (Json.arr (r.taskResults.map TaskResult.toJson)).WellFormed := by
    refine .arr (fun v hv => ?_)
    obtain ⟨t, ht, rfl⟩ := List.mem_map.mp hv
    exact (h.taskResults t ht).wellFormed
  refine Json.wellFormed_ofDict ?_
  simp only [data, List.forall_mem_cons]
  exact ⟨.str _, .float _, .float _, Json.wellFormed_ofDict h.systemSummary, .float _,
    Json.wellFormed_ofDict h.config, htasks, List.forall_mem_nil _⟩

variable {τ : Type*} [JsonText τ]

/-- Loading sees only the text at its path. -/
theorem load_of_get? {clock : Nat → ℚ} {path : String} {files files' : OrdDict String τ}
    (h : files.get? path = files'.get? path) :
    load clock path files = load clock path files' := by
  rw [load, load, h]

theorem load_dump {r : BenchmarkResult} (h : r.HoldsJson) {clock : Nat → ℚ} {path : String}
    {files : OrdDict String τ}
    (hfile : files.get? path = some (JsonText.dump (Json.ofDict r.data))) :
    load clock path files = .ok r := by
  rw [load, hfile]
  show (JsonText.load (JsonText.dump (Json.ofDict r.data))).bind (ofDocument clock) = .ok r
  rw [JsonText.load_dump _ h.wellFormed]
  simp only [Except.bind]
  rw [Json.ofDict, ofDocument, OrdDict.ofEntries_entries]
  exact ofData_data r clock

/-- What `save` has written, `load` returns, field for field. -/
theorem load_save (r : BenchmarkResult) (h : r.HoldsJson) (clock : Nat → ℚ) (path : String)
    (files : OrdDict String τ) : load clock path (r.save path files) = .ok r :=
  load_dump h (files.get?_set_self path _)

/-- A result of one task, with a nested dictionary. -/
def hybridResult : BenchmarkResult where
  policyName := "hybrid"
  memoryBudget := 1 / 2
  taskResults :=
    [{ taskName := "lcc"
       workloadType := .code
       policyName := "hybrid"
       memoryBudget := 1 / 2
       nSamples := 2
       qualityScore := 3 / 4
       primaryMetric := "edit_sim"
       systemMetrics := ⟨[("peaks", .obj [("gpu", .int 7)])], by simp⟩
       latenciesMs := [12, 25 / 2]
       failedRequests := 1
       timestamp := 100 }]
  aggregateQuality := 3 / 4
  timestamp := 101
  config := ⟨[("seeds", .arr [.int 1, .null])], by simp⟩

theorem hybridResult_holdsJson : hybridResult.HoldsJson where
  systemSummary := by simp [hybridResult, OrdDict.empty]
  config := by
    simp only [hybridResult, List.forall_mem_singleton]
    refine .arr ?_
    simp only [List.forall_mem_cons]
    exact ⟨.int 1, .null, List.forall_mem_nil _⟩
  taskResults := by
    simp only [hybridResult, List.forall_mem_singleton]
    refine ⟨by simp [OrdDict.empty], ?_⟩
    simp only [List.forall_mem_singleton]
    refine .obj (by simp) ?_
    simp only [List.forall_mem_singleton]
    exact .int 7

/-- The documents stand for their texts. -/
theorem load_save_hybrid :
    load (fun n => (n : ℚ)) "results/hybrid.json"
      (hybridResult.save "results/hybrid.json" (OrdDict.empty : OrdDict String Json)) =
      .ok hybridResult :=
  load_save hybridResult hybridResult_holdsJson _ _ _

/-- One after the other, each under its path. -/
def saveAll (saves : List (String × BenchmarkResult)) (files : OrdDict String τ) :
    OrdDict String τ :=
  saves.foldl (fun fs s => s.2.save s.1 fs) files

/-- The result that was saved last under a path. -/
def lastSaved (path : String) (saves : List (String × BenchmarkResult)) :
    Option BenchmarkResult :=
  (saves.reverse.find? (fun s => decide (s.1 = path))).map Prod.snd

/-- After any saves, a load returns the last result saved under its path, and
what it would have returned before them if there is none. -/
theorem load_saveAll (saves : List (String × BenchmarkResult)) (h : ∀ s ∈ saves, s.2.HoldsJson)
    (clock : Nat → ℚ) (path : String) (files : OrdDict String τ) :
    load clock path (saveAll saves files) =
      match lastSaved path saves with
      | some r => .ok r
      | none => load clock path files := by
  induction saves using List.reverseRecOn with
  | nil => rfl
  | append_singleton init s ih =>
      have hinit := ih (fun s' hs' => h s' (List.mem_append_left _ hs'))
      have hstep : saveAll (init ++ [s]) files = s.2.save s.1 (saveAll init files) := by
        simp [saveAll]
      rw [hstep]
      by_cases hpath : s.1 = path
      · have hlast : lastSaved path (init ++ [s]) = some s.2 := by
          simp [lastSaved, hpath]
        rw [hlast, ← hpath]
        exact load_dump (h s (by simp)) (OrdDict.get?_set_self _ _ _)
      · have hlast : lastSaved path (init ++ [s]) = lastSaved path init := by
          simp [lastSaved, hpath]
        rw [hlast, ← hinit]
        exact load_of_get? (OrdDict.get?_set_of_ne _ (Ne.symm hpath) _)

end BenchmarkResult

end RoundTrip

end KVOrchestrator.Ports.ResultFiles
