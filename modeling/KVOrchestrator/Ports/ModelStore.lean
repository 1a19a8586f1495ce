import KVOrchestrator.Ports.Learned
import KVOrchestrator.Ports.EngineRun

/-!
# Model files (`trainers/importance_model.py`, `cache_policies/learned.py`)

A trainer pickles its ranker with the feature names and the model type, and a
`LearnedPolicy` built with the path of that file serves from it.  Both ends are
modelled with the files between them: `save` makes the missing directories first
and `save_model` does not, `open(path, "wb")` truncates before anything is
pickled, and `load_model` turns whatever goes wrong into a policy without model.

A completed save is served unchanged as long as nothing else is saved to its path
(`saved_ranker_is_served`).  A save that breaks off takes the earlier model with
it, and an engine started on that path runs as one with `H2OPolicy` would, its
history apart, which stays empty (`interrupted_save_runs_as_h2o`).

Paths are lists of components; the empty list is the working directory.
-/

namespace KVOrchestrator.Ports

open KVOrchestrator.Verified

/-! ## Files -/

/-- An unpickled object: a dictionary, with its keys `model`, `feature_names` and
`model_type` where they are present, or anything else.  A `None` in the place of
the ranker is `none`. -/
inductive Payload where
  | entries (model : Option (Option Model)) (featureNames : Option (List String))
      (modelType : Option String)
  | object (model : Option Model)

inductive ModelFile where
  | pickled (payload : Payload)
  /-- The file of a pickle that broke off. -/
  | damaged

structure ModelStore where
  files : OrdDict (List String) ModelFile := OrdDict.empty
  dirs : List (List String) := [[]]

namespace ModelStore

/-- `os.makedirs(dir, exist_ok=True)`. -/
def makedirs (s : ModelStore) (dir : List String) : Except PyError Unit × ModelStore :=
  if dir ∈ s.files.keys then (.error (.other "FileExistsError"), s)
  else if dir.inits.any (fun d => decide (d ∈ s.files.keys)) then
    (.error (.other "NotADirectoryError"), s)
  else
    (.ok (), { s with dirs := s.dirs ++ dir.inits.filter (fun d => decide (d ∉ s.dirs)) })

/-- `with open(path, "wb") as f: pickle.dump(payload, f)`; `fault` is what
`pickle.dump` raises, if it does. -/
def dump (s : ModelStore) (path : List String) (payload : Payload) (fault : Option PyError) :
    Except PyError Unit × ModelStore :=
  if path.dropLast ∉ s.dirs then (.error (.other "FileNotFoundError"), s)
  else if path ∈ s.dirs then (.error (.other "IsADirectoryError"), s)
  else
    match fault with
    | some e => (.error e, { s with files := s.files.set path .damaged })
    | none => (.ok (), { s with files := s.files.set path (.pickled payload) })

/-- `with open(path, "rb") as f: pickle.load(f)`. -/
def read (s : ModelStore) (path : List String) : Except PyError Payload :=
  if path ∈ s.dirs then .error (.other "IsADirectoryError")
  else
    match s.files.get? path with
    | none => .error (.other "FileNotFoundError")
    | some .damaged => .error (.other "UnpicklingError")
    | some (.pickled payload) => .ok payload

end ModelStore

/-! ## The trainer -/

structure ImportanceModelTrainer where
  modelType : String := "xgboost"
  model : Option Model := none
  featureNames : List String := []

namespace ImportanceModelTrainer

/-- Importance scores for a feature matrix. -/
def predict [Numerics] (t : ImportanceModelTrainer) (x : List (List ℚ)) :
    Except PyError (List ℚ) :=
  match t.model with
  | none => .error (.other "Model not trained — call train() or load() first.")
  | some model => do
      let raw ← model.predict x
      match raw.min?, raw.max? with
      | some lo, some hi =>
          if hi > lo then
            return raw.map (fun r => Numerics.toFloat32 ((r - lo) / (hi - lo)))
          else return List.replicate raw.length (Numerics.toFloat32 (5 / 10))
      | _, _ =>
          .error (.valueError
            "zero-size array to reduction operation minimum which has no identity")

/-- Save model, feature names and model type. -/
def save (t : ImportanceModelTrainer) (s : ModelStore) (path : List String)
    (fault : Option PyError) : Except PyError Unit × ModelStore :=
  match t.model with
  | none => (.error (.other "No model to save."), s)
  | some model =>
      let made := s.makedirs path.dropLast
      match made.1 with
      | .error e => (.error e, made.2)
      | .ok _ =>
          made.2.dump path (.entries (some (some model)) (some t.featureNames) (some t.modelType))
            fault

/-- Load a previously saved model. -/
def load (t : ImportanceModelTrainer) (s : ModelStore) (path : List String) :
    Except PyError ImportanceModelTrainer := do
  match ← s.read path with
  | .entries none _ _ => .error (.other "KeyError: 'model'")
  | .entries (some model) featureNames modelType =>
      return { modelType := modelType.getD t.modelType
               model := model
               featureNames := featureNames.getD [] }
  | .object model => return { t with model := model }

end ImportanceModelTrainer

/-! ## The policy -/

namespace LearnedPolicy

/-- Load a pickled model; a failure leaves the policy without one. -/
def loadModel (p : LearnedPolicy) (s : ModelStore) (path : List String) : LearnedPolicy :=
  { p with
    model :=
      match s.read path with
      | .ok (.entries (some model) _ _) => model
      | .ok (.object model) => model
      | .ok (.entries none _ _) => none
      | .error _ => none
    fallback_config := p.fallback_config }

/-- Save a model and its feature names; no directory is made. -/
def saveModel (s : ModelStore) (path : List String) (model : Option Model)
    (featureNames : List String) (fault : Option PyError) : Except PyError Unit × ModelStore :=
  s.dump path (.entries (some model) (some featureNames) none) fault

/-- A new policy, with the model of `config.model_path` if that is set. -/
def init (config : PolicyConfig) (modelPath : Option (List String)) (s : ModelStore) :
    LearnedPolicy :=
  let p : LearnedPolicy :=
    { config := config
      fallback_config := @rfl _ config }
  match modelPath with
  | none => p
  | some path => p.loadModel s path

end LearnedPolicy

/-! ## Runs of saves -/

/-- A save, by a trainer or by a policy. -/
inductive StoreOp where
  | save (trainer : ImportanceModelTrainer) (path : List String) (fault : Option PyError)
  | saveModel (path : List String) (model : Option Model) (featureNames : List String)
      (fault : Option PyError)

def StoreOp.path : StoreOp → List String
  | .save _ path _ => path
  | .saveModel path _ _ _ => path

namespace ModelStore

def perform (s : ModelStore) : StoreOp → ModelStore
  | .save trainer path fault => (trainer.save s path fault).2
  | .saveModel path model featureNames fault =>
      (LearnedPolicy.saveModel s path model featureNames fault).2

/-- There is a file at `path`, and it is `file`. -/
structure Holds (s : ModelStore) (path : List String) (file : ModelFile) : Prop where
  file : s.files.get? path = some file
  not_dir : path ∉ s.dirs

variable {s : ModelStore} {path : List String} {file : ModelFile}

/-- No directory is made where a file stands. -/
theorem Holds.makedirs (h : s.Holds path file) (dir : List String) :
    (s.makedirs dir).2.Holds path file := by
  rw [ModelStore.makedirs]
  split
  · exact h
  · split
    · exact h
    · rename_i hfree
      refine ⟨h.file, ?_⟩
      intro hmem
      rcases List.mem_append.mp hmem with hold | hnew
      · exact h.not_dir hold
      · apply hfree
        rw [List.any_eq_true]
        refine ⟨path, List.mem_of_mem_filter hnew, ?_⟩
        rw [decide_eq_true_eq]
        by_contra hkey
        rw [← OrdDict.get?_eq_none_iff, h.file] at hkey
        cases hkey

/-- A write to another path leaves the file. -/
theorem Holds.dump (h : s.Holds path file) {path' : List String} (hne : path' ≠ path)
    (payload : Payload) (fault : Option PyError) :
    (s.dump path' payload fault).2.Holds path file := by
  have hset : ∀ file', { s with files := s.files.set path' file' }.Holds path file :=
    fun file' => ⟨(OrdDict.get?_set_of_ne _ hne.symm _).trans h.file, h.not_dir⟩
  unfold ModelStore.dump
  split
  · exact h
  · split
    · exact h
    · cases fault with
      | none => exact hset _
      | some e => exact hset _

theorem Holds.perform (h : s.Holds path file) {op : StoreOp} (hop : op.path ≠ path) :
    (s.perform op).Holds path file := by
  cases op with
  | save trainer path' fault =>
      show (trainer.save s path' fault).2.Holds path file
      rw [ImportanceModelTrainer.save]
      split
      · exact h
      · dsimp only
        split
        · exact h.makedirs _
        · exact (h.makedirs _).dump hop _ _
  | saveModel path' model featureNames fault => exact h.dump hop _ _

theorem Holds.run (h : s.Holds path file) {later : List StoreOp}
    (hlater : ∀ op ∈ later, op.path ≠ path) :
    (Verified.run ModelStore.perform s later).Holds path file := by
  have hstep : ∀ (u : ModelStore) (op : StoreOp), op.path ≠ path →
      u.Holds path file → (u.perform op).Holds path file := fun _ _ hop hu => hu.perform hop
  exact run_invariant_of_forall hstep later s hlater h

theorem Holds.read_pickled {payload : Payload} (h : s.Holds path (.pickled payload)) :
    s.read path = .ok payload := by
  rw [ModelStore.read, if_neg h.not_dir, h.file]

theorem Holds.read_damaged (h : s.Holds path .damaged) :
    s.read path = .error (.other "UnpicklingError") := by
  rw [ModelStore.read, if_neg h.not_dir, h.file]

/-- What a dump leaves that went through: the payload, and the wreck of it had it
broken off. -/
theorem dump_ok {payload : Payload} (h : (s.dump path payload none).1 = .ok ()) :
    (s.dump path payload none).2.Holds path (.pickled payload) ∧
      ∀ e, (s.dump path payload (some e)).1 = .error e ∧
        (s.dump path payload (some e)).2.Holds path .damaged := by
  by_cases hparent : path.dropLast ∉ s.dirs
  · simp [ModelStore.dump, hparent] at h
  · by_cases hdir : path ∈ s.dirs
    · simp [ModelStore.dump, hparent, hdir] at h
    · have hset : ∀ file, { s with files := s.files.set path file }.Holds path file :=
        fun file => ⟨OrdDict.get?_set_self _ _ _, hdir⟩
      simp only [ModelStore.dump, if_neg hparent, if_neg hdir, true_and]
      exact ⟨hset _, fun _ => hset _⟩

end ModelStore

/-- A completed save leaves the trainer's payload, one that breaks off a damaged
file. -/
theorem ImportanceModelTrainer.save_ok {trainer : ImportanceModelTrainer} {model : Model}
    (htrained : trainer.model = some model) {s : ModelStore} {path : List String}
    (hsaved : (trainer.save s path none).1 = .ok ()) :
    (trainer.save s path none).2.Holds path
        (.pickled (.entries (some (some model)) (some trainer.featureNames)
          (some trainer.modelType))) ∧
      ∀ e, (trainer.save s path (some e)).1 = .error e ∧
        (trainer.save s path (some e)).2.Holds path .damaged := by
  simp only [ImportanceModelTrainer.save, htrained] at hsaved ⊢
  cases hmade : (s.makedirs path.dropLast).1 with
  | error e =>
      rw [hmade] at hsaved
      cases hsaved
  | ok _ =>
      simp only [hmade] at hsaved ⊢
      exact ModelStore.dump_ok hsaved

/-! ## What is served -/

section Serving

variable [Numerics]

/-- The policy's scores and the trainer's predictions come from one formula; only
the trainer rounds. -/
theorem ImportanceModelTrainer.predict_eq {trainer : ImportanceModelTrainer} {model : Model}
    (htrained : trainer.model = some model) {p : LearnedPolicy} (hserved : p.model = some model)
    {blocks : List BlockState} (hblocks : blocks ≠ []) {m : SystemMetrics}
    {x : List (List ℚ)}
    (hx : ({} : FeatureExtractor).extractBatch blocks m
      (FeatureExtractor.computeBatchStats blocks) = .ok x)
    {raw : List ℚ} (hraw : model.predict x = .ok raw) (hlen : raw.length = blocks.length) :
    trainer.predict x = .ok ((p.scoreBlocks blocks m).map Numerics.toFloat32) := by
  have hne : raw ≠ [] := by
    intro hnil
    rw [hnil] at hlen
    exact hblocks (List.length_eq_zero_iff.mp hlen.symm)
  obtain ⟨lo, hlo⟩ := Option.isSome_iff_exists.mp (List.isSome_min?_of_ne_nil hne)
  obtain ⟨hi, hhi⟩ := Option.isSome_iff_exists.mp (List.isSome_max?_of_ne_nil hne)
  have hpredicted : p.rawPredictions blocks m = .ok raw := by
    rw [LearnedPolicy.rawPredictions]
    simp only [hx, hserved, bind, Except.bind]
    exact hraw
  rw [LearnedPolicy.scoreBlocks_of_raw hpredicted hlo hhi, LearnedPolicy.normalise]
  simp only [ImportanceModelTrainer.predict, htrained, hraw, bind, Except.bind, hlo, hhi]
  by_cases hlt : hi > lo
  · rw [if_pos hlt, if_pos hlt, List.map_map]
    rfl
  · rw [if_neg hlt, if_neg hlt, List.map_replicate, hlen]
    rfl

/-- A completed save stays readable: whatever is saved to other paths later, a
policy built with its path is ready, any trainer loads the saved one back, and
where the ranker answers one number per row the policy scores a batch as the
trainer predicts it, up to the trainer's rounding.  Where the ranker raises, so
does the trainer, and the policy falls back to attention. -/
theorem saved_ranker_is_served {trainer : ImportanceModelTrainer} {model : Model}
    (htrained : trainer.model = some model) {s : ModelStore} {path : List String}
    (hsaved : (trainer.save s path none).1 = .ok ()) {later : List StoreOp}
    (hlater : ∀ op ∈ later, op.path ≠ path) (config : PolicyConfig) :
    let store := run ModelStore.perform (trainer.save s path none).2 later
    let policy := LearnedPolicy.init config (some path) store
    policy.isReady = true ∧ (∀ other : ImportanceModelTrainer,
      other.load store path = .ok trainer) ∧
    ∀ blocks m x, blocks ≠ [] →
      ({} : FeatureExtractor).extractBatch blocks m
        (FeatureExtractor.computeBatchStats blocks) = .ok x →
      (∀ raw, model.predict x = .ok raw → raw.length = blocks.length →
        trainer.predict x = .ok ((policy.scoreBlocks blocks m).map Numerics.toFloat32)) ∧
      ∀ e, model.predict x = .error e →
        trainer.predict x = .error e ∧
          policy.scoreBlocks blocks m = LearnedPolicy.attentionFallback blocks := by
  intro store policy
  have hread := ((trainer.save_ok htrained hsaved).1.run hlater).read_pickled
  have hmodel : policy.model = some model := by
    simp only [policy, LearnedPolicy.init, LearnedPolicy.loadModel, store, hread]
  refine ⟨?_, ?_, ?_⟩
  · rw [LearnedPolicy.isReady, hmodel]
    rfl
  · intro other
    simp only [ImportanceModelTrainer.load, store, hread, bind, Except.bind, Option.getD_some,
      ← htrained]
    rfl
  · intro blocks m x hblocks hx
    constructor
    · intro raw hraw hlen
      exact ImportanceModelTrainer.predict_eq htrained hmodel hblocks hx hraw hlen
    · intro e herror
      constructor
      · simp only [ImportanceModelTrainer.predict, htrained, herror, bind, Except.bind]
      · have hfailed : policy.modelScores blocks m = .error e := by
          simp only [LearnedPolicy.modelScores, LearnedPolicy.rawPredictions, hx, hmodel, bind,
            Except.bind, herror]
        rw [LearnedPolicy.scoreBlocks, hfailed]

end Serving

/-- A ranker that answers with the first feature of each row. -/
private def firstFeature : Model where
  predict x := .ok (x.map (·.headD 0))

private def rankerTrainer : ImportanceModelTrainer where
  model := some firstFeature
  featureNames := ["block_age_normalized"]

private def rankerPath : List String := ["results", "models", "ranker.pkl"]

private theorem rankerTrainer_saves : (rankerTrainer.save {} rankerPath none).1 = .ok () := rfl

/-- Saves to another file of the same directory. -/
private def otherSaves : List StoreOp :=
  [.saveModel ["results", "models", "other.pkl"] none [] none,
    .save rankerTrainer ["results", "other.pkl"] (some (.other "PicklingError"))]

private theorem otherSaves_elsewhere : ∀ op ∈ otherSaves, op.path ≠ rankerPath := by
  simp [otherSaves, StoreOp.path, rankerPath]

theorem saved_ranker_is_served_elsewhere :
    (LearnedPolicy.init {} (some rankerPath)
      (run ModelStore.perform (rankerTrainer.save {} rankerPath none).2 otherSaves)).isReady =
        true ∧
    ImportanceModelTrainer.load { modelType := "lightgbm" }
      (run ModelStore.perform (rankerTrainer.save {} rankerPath none).2 otherSaves)
        rankerPath = .ok rankerTrainer := by
  have hserved := @saved_ranker_is_served lineNumerics.toNumerics rankerTrainer firstFeature rfl
    {} rankerPath rankerTrainer_saves otherSaves otherSaves_elsewhere {}
  exact ⟨hserved.1, hserved.2.1 _⟩

/-! ## A model that is lost -/

section Lost

variable [Numerics]

/-- The step with its policy converted. -/
def EngineOp.mapPolicy {π ρ : Type} (f : π → ρ) : EngineOp π → EngineOp ρ
  | .registerBlock blockId layerId headGroup requestId =>
      .registerBlock blockId layerId headGroup requestId
  | .evictBlock blockId => .evictBlock blockId
  | .releaseRequestBlocks requestId => .releaseRequestBlocks requestId
  | .updateAttention blockId attentionScores => .updateAttention blockId attentionScores
  | .markAccessed blockId step => .markAccessed blockId step
  | .updateMemorySnapshot blockId gpuMemUsedMb gpuMemFreeMb =>
      .updateMemorySnapshot blockId gpuMemUsedMb gpuMemFreeMb
  | .markPrefixReuse blockId reused => .markPrefixReuse blockId reused
  | .incrementAge step => .incrementAge step
  | .runPolicyCycle => .runPolicyCycle
  | .overridePolicy newPolicy => .overridePolicy (f newPolicy)

/-- A policy without model that has not evaluated anything itself. -/
def LearnedPolicy.Unloaded (p : LearnedPolicy) : Prop := p.isReady = false ∧ p.lastStats = none

/-- No policy with a model is swapped in. -/
def EngineOp.Unloaded : EngineOp LearnedPolicy → Prop
  | .overridePolicy newPolicy => newPolicy.Unloaded
  | _ => True

/-- A policy without model hands the batch to its fallback and records nothing. -/
theorem LearnedPolicy.Unloaded.decide_eq {p : LearnedPolicy} (h : p.Unloaded)
    (blocks : List BlockState) (m : SystemMetrics) :
    (PolicyInterface.decide p blocks m).1 = (PolicyInterface.decide p.fallback blocks m).1 ∧
      (PolicyInterface.decide p blocks m).2.fallback =
        (PolicyInterface.decide p.fallback blocks m).2 ∧
      (PolicyInterface.decide p blocks m).2.Unloaded := by
  have hready := h.1
  simp only [PolicyInterface.decide, hready, if_true, true_and]
  exact h

/-- An engine without model beside an engine with the fallback as its policy. -/
structure Shadows (e : PolicyEngine LearnedPolicy) (e' : PolicyEngine H2OPolicy) : Prop where
  unloaded : e.policy.Unloaded
  fallback : e.policy.fallback = e'.policy
  blockTracker : e.blockTracker = e'.blockTracker
  telemetryCollector : e.telemetryCollector = e'.telemetryCollector
  cycleCount : e.cycleCount = e'.cycleCount
  history : e.history = []

theorem Shadows.cycle {e : PolicyEngine LearnedPolicy} {e' : PolicyEngine H2OPolicy}
    (h : Shadows e e') : Shadows e.cycle e'.cycle := by
  by_cases hblocks : e.blockTracker.getAllBlocks = []
  · rw [PolicyEngine.cycle_of_empty hblocks,
      PolicyEngine.cycle_of_empty (h.blockTracker ▸ hblocks)]
    exact h
  · have hblocks' : e'.blockTracker.getAllBlocks ≠ [] := h.blockTracker ▸ hblocks
    have hdecide := h.unloaded.decide_eq e.blockTracker.getAllBlocks (systemMetrics e.blockTracker)
    have hdecisions : e.cycleDecisions = e'.cycleDecisions := by
      rw [PolicyEngine.cycleDecisions_of_ne_nil hblocks,
        PolicyEngine.cycleDecisions_of_ne_nil hblocks', hdecide.1, h.fallback, h.blockTracker]
    have htracker : e.cycle.blockTracker = e'.cycle.blockTracker := by
      rw [PolicyEngine.blockTracker_cycle, PolicyEngine.blockTracker_cycle, hdecisions,
        h.blockTracker]
    have hempty : e.blockTracker.getAllBlocks.isEmpty = false := by simpa using hblocks
    have hempty' : e'.blockTracker.getAllBlocks.isEmpty = false := by simpa using hblocks'
    exact
      { unloaded := by
          rw [e.policy_cycle hblocks]
          exact hdecide.2.2
        fallback := by
          rw [e.policy_cycle hblocks, e'.policy_cycle hblocks', hdecide.2.1, h.fallback,
            h.blockTracker]
        blockTracker := htracker
        telemetryCollector := by
          rw [PolicyEngine.telemetryCollector_cycle, PolicyEngine.telemetryCollector_cycle,
            htracker, hdecisions, h.telemetryCollector]
        cycleCount := by
          simp [PolicyEngine.cycle, PolicyEngine.runPolicyCycle, hempty, hempty', h.cycleCount]
        history := by
          have hnone : PolicyInterface.getLastStats (PolicyInterface.decide e.policy
              e.blockTracker.getAllBlocks (systemMetrics e.blockTracker)).2 = none :=
            hdecide.2.2.2
          simp [PolicyEngine.cycle, PolicyEngine.runPolicyCycle, hempty, hnone, h.history] }

theorem Shadows.perform {e : PolicyEngine LearnedPolicy} {e' : PolicyEngine H2OPolicy}
    (h : Shadows e e') {op : EngineOp LearnedPolicy} (hop : op.Unloaded) :
    Shadows (e.perform op) (e'.perform (op.mapPolicy (·.fallback))) := by
  cases op with
  | runPolicyCycle => exact h.cycle
  | overridePolicy newPolicy => exact { h with unloaded := hop, fallback := rfl }
  | _ =>
      exact
        { h with
          blockTracker := by
            simp only [PolicyEngine.perform, EngineOp.mapPolicy, EngineOp.onTracker,
              h.blockTracker] }

/-- A save that breaks off loses the model saved before it: no trainer can load
the file, and an engine started with a policy built on its path, as long as no
policy with a model is swapped in, has throughout the tracker, telemetry and
cycle count of one started with `H2OPolicy`, but never a statistic in its
history. -/
theorem interrupted_save_runs_as_h2o {trainer : ImportanceModelTrainer} {model : Model}
    (htrained : trainer.model = some model) {s : ModelStore} {path : List String}
    (hsaved : (trainer.save s path none).1 = .ok ()) (e : PyError) {later : List StoreOp}
    (hlater : ∀ op ∈ later, op.path ≠ path) (config : PolicyConfig)
    (numLayers numHeads blockSize headDim : Nat) (collector : Option TelemetryCollector)
    {ops : List (EngineOp LearnedPolicy)} (hops : ∀ op ∈ ops, op.Unloaded) :
    let store := run ModelStore.perform (trainer.save s path (some e)).2 later
    let learned := run PolicyEngine.perform
      (PolicyEngine.init (LearnedPolicy.init config (some path) store) numLayers numHeads
        blockSize headDim collector) ops
    let h2o := run PolicyEngine.perform
      (PolicyEngine.init (⟨{ config := config }⟩ : H2OPolicy) numLayers numHeads blockSize
        headDim collector) (ops.map (·.mapPolicy (·.fallback)))
    (trainer.save s path (some e)).1 = .error e ∧
      (∀ other : ImportanceModelTrainer,
        other.load store path = .error (.other "UnpicklingError")) ∧
      learned.blockTracker = h2o.blockTracker ∧
      learned.telemetryCollector = h2o.telemetryCollector ∧
      learned.cycleCount = h2o.cycleCount ∧ learned.history = [] := by
  intro store learned h2o
  have hbroken := (trainer.save_ok htrained hsaved).2 e
  have hread := (hbroken.2.run hlater).read_damaged
  have hunloaded : (LearnedPolicy.init config (some path) store).Unloaded := by
    constructor
    · simp only [LearnedPolicy.isReady, LearnedPolicy.init, LearnedPolicy.loadModel, store, hread]
      rfl
    · rfl
  have hinit : Shadows
      (PolicyEngine.init (LearnedPolicy.init config (some path) store) numLayers numHeads
        blockSize headDim collector)
      (PolicyEngine.init (⟨{ config := config }⟩ : H2OPolicy) numLayers numHeads blockSize
        headDim collector) :=
    { unloaded := hunloaded
      fallback := rfl
      blockTracker := rfl
      telemetryCollector := rfl
      cycleCount := rfl
      history := rfl }
  have hrun : Shadows learned h2o :=
    run_simulation (·.mapPolicy (·.fallback)) (fun _ _ _ hop hs => hs.perform hop) ops _ _
      hops hinit
  refine ⟨hbroken.1, ?_, hrun.blockTracker, hrun.telemetryCollector, hrun.cycleCount,
    hrun.history⟩
  intro other
  simp only [ImportanceModelTrainer.load, store, hread, bind, Except.bind]

end Lost

theorem interrupted_save_runs_as_h2o_once :
    let ops : List (EngineOp LearnedPolicy) :=
      [.registerBlock 1 0 0 "a", .markAccessed 1 1, .runPolicyCycle, .incrementAge 2,
        .runPolicyCycle]
    letI : Numerics := lineNumerics.toNumerics
    (run PolicyEngine.perform
      (PolicyEngine.init (LearnedPolicy.init {} (some rankerPath)
        (run ModelStore.perform
          (rankerTrainer.save (rankerTrainer.save {} rankerPath none).2 rankerPath
            (some (.other "PicklingError"))).2 otherSaves)) 1 1 16 128) ops).history = [] := by
  intro ops
  have hops : ∀ op ∈ ops, op.Unloaded := by
    simp [ops, EngineOp.Unloaded]
  have hlost := @interrupted_save_runs_as_h2o lineNumerics.toNumerics rankerTrainer firstFeature
    rfl (rankerTrainer.save {} rankerPath none).2 rankerPath rfl (.other "PicklingError")
    otherSaves otherSaves_elsewhere {} 1 1 16 128 none ops hops
  exact hlost.2.2.2.2.2

end KVOrchestrator.Ports
