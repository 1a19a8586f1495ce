import KVOrchestrator.Ports.BuiltinPolicy
import KVOrchestrator.Ports.EngineRun
import KVOrchestrator.Verified.Dynamics

/-!
# Statistics against decisions

Every policy writes its statistics as a side effect of deciding, and the engine
reads them back after the call.  `LearnedPolicy` without a model delegates the
decision to an `H2OPolicy` of its own, whose statistics nobody reads: the
policy's own stay what they were (`decide_learned_keeps`).  So the statistics of
a sequence of calls describe its decisions exactly as long as no call finds the
learned policy without a model (`stats_describe_iff`).
-/

namespace KVOrchestrator.Ports

open KVOrchestrator.Verified

/-! ## Counting labels -/

/-- How many decisions carry a label. -/
def labelCount (decisions : List PolicyDecision) (label : String) : Nat :=
  decisions.countP (fun d => decide (d.decision.value = label))

private theorem get?_foldl_count (label : String) :
    ∀ (decisions : List PolicyDecision) (counts : OrdDict String Nat),
      (decisions.foldl
          (fun counts d =>
            counts.set d.decision.value ((counts.get? d.decision.value).getD 0 + 1))
          counts).get? label =
        if labelCount decisions label = 0 then counts.get? label
        else some ((counts.get? label).getD 0 + labelCount decisions label) := by
  intro decisions
  induction decisions with
  | nil =>
      intro counts
      rfl
  | cons d rest ih =>
      intro counts
      rw [List.foldl_cons, ih]
      by_cases hlabel : d.decision.value = label
      · have hcount : labelCount (d :: rest) label = labelCount rest label + 1 := by
          simp [labelCount, hlabel]
        have hpos : labelCount rest label + 1 ≠ 0 := Nat.succ_ne_zero _
        rw [hcount, hlabel, OrdDict.get?_set_self, if_neg hpos]
        by_cases hzero : labelCount rest label = 0
        · rw [if_pos hzero, hzero]
        · rw [if_neg hzero]
          show some (_ + 1 + _) = some _
          congr 1
          omega
      · have hcount : labelCount (d :: rest) label = labelCount rest label := by
          simp [labelCount, hlabel]
        rw [hcount, OrdDict.get?_set_of_ne _ (fun h => hlabel h.symm)]

/-- The counted labels are those that occur, each with its number. -/
theorem get?_countDecisions (decisions : List PolicyDecision) (label : String) :
    (countDecisions decisions).get? label =
      if labelCount decisions label = 0 then none else some (labelCount decisions label) := by
  rw [countDecisions, get?_foldl_count]
  split
  · rfl
  · show some (0 + _) = some _
    rw [Nat.zero_add]

/-- Statistics that describe a decision list. -/
structure StatsMatch (stats : PolicyStats) (decisions : List PolicyDecision) : Prop where
  numBlocksEvaluated : stats.numBlocksEvaluated = decisions.length
  labels : ∀ label, stats.decisions.get? label =
    if labelCount decisions label = 0 then none else some (labelCount decisions label)

/-! ## One call -/

namespace BuiltinPolicy

/-- `_eval_count` of the policy. -/
def evalCount : BuiltinPolicy → Nat
  | .fullCache p => p.evalCount
  | .slidingWindow p => p.evalCount
  | .h2o p => p.evalCount
  | .prefixCaching p => p.evalCount
  | .quantizeOnly p => p.evalCount
  | .offloadOnly p => p.evalCount
  | .hybrid p => p.evalCount
  | .learned p => p.evalCount

/-- `load_model`, with the model it ends up with; policies without a ranker
have none to load. -/
def loadModel (p : BuiltinPolicy) (model : Option Model) : BuiltinPolicy :=
  match p with
  | .learned p => .learned { p with
      model := model
      fallback_config := p.fallback_config }
  | .hybrid p => .hybrid { p with
      learnedPolicy := p.learnedPolicy.map (fun lp =>
        { lp with
          model := model
          fallback_config := lp.fallback_config }) }
  | p => p

/-- The policy decides itself, and does not delegate. -/
def DecidesItself : BuiltinPolicy → Prop
  | .learned p => p.isReady = true
  | .fullCache _ => True
  | .slidingWindow _ => True
  | .h2o _ => True
  | .prefixCaching _ => True
  | .quantizeOnly _ => True
  | .offloadOnly _ => True
  | .hybrid _ => True

variable [Numerics]

/-- Loading a model leaves the statistics alone. -/
theorem loadModel_stats (p : BuiltinPolicy) (model : Option Model) :
    PolicyInterface.getLastStats (p.loadModel model) = PolicyInterface.getLastStats p ∧
      (p.loadModel model).evalCount = p.evalCount := by
  cases p <;> exact ⟨rfl, rfl⟩

/-- The statistics after a call, if the call wrote any. -/
def Recorded (decisions : List PolicyDecision) (p p' : BuiltinPolicy) : Prop :=
  (∃ stats, PolicyInterface.getLastStats p' = some stats ∧ StatsMatch stats decisions) ∧
    p'.evalCount = p.evalCount + 1

/-- A policy that decides itself records its decisions. -/
theorem DecidesItself.recorded {p : BuiltinPolicy} (hp : p.DecidesItself)
    (blocks : List BlockState) (m : SystemMetrics) :
    Recorded (PolicyInterface.decide p blocks m).1 p (PolicyInterface.decide p blocks m).2 := by
  cases p with
  | learned p =>
      have hready : p.isReady = true := hp
      have hcall : PolicyInterface.decide (BuiltinPolicy.learned p) blocks m =
          (p.decisions blocks m, .learned { p with
            toBasePolicy := p.toBasePolicy.makeStats "learned" (p.decisions blocks m) m.pressure
            fallback_config := p.fallback_config }) := by
        show BuiltinPolicy.wrap .learned p blocks m = _
        simp only [wrap, PolicyInterface.decide, hready]
        rfl
      rw [hcall]
      exact ⟨⟨_, rfl, rfl, get?_countDecisions _⟩, rfl⟩
  | fullCache | slidingWindow | h2o | prefixCaching | quantizeOnly | offloadOnly | hybrid =>
      exact ⟨⟨_, rfl, rfl, get?_countDecisions _⟩, rfl⟩

/-- A policy that delegates keeps its own statistics as they were. -/
theorem decide_of_not_decidesItself {p : BuiltinPolicy} (hp : ¬p.DecidesItself)
    (blocks : List BlockState) (m : SystemMetrics) :
    PolicyInterface.getLastStats (PolicyInterface.decide p blocks m).2 =
        PolicyInterface.getLastStats p ∧
      (PolicyInterface.decide p blocks m).2.evalCount = p.evalCount := by
  cases p with
  | learned p =>
      have hready : p.isReady = false := by
        cases hr : p.isReady with
        | false => rfl
        | true => exact absurd hr hp
      show PolicyInterface.getLastStats (wrap .learned p blocks m).2 = _ ∧
        (wrap .learned p blocks m).2.evalCount = _
      simp only [wrap, PolicyInterface.decide, hready]
      exact ⟨rfl, rfl⟩
  | fullCache | slidingWindow | h2o | prefixCaching | quantizeOnly | offloadOnly | hybrid =>
      exact absurd trivial hp

end BuiltinPolicy

/-! ## Sequences of calls -/

/-- What happens to a policy: it is asked, or its model changes. -/
inductive PolicyCall where
  | decide (blocks : List BlockState) (m : SystemMetrics)
  | loadModel (model : Option Model)

/-- A policy, the number of `decide` calls so far, and what the last one
returned. -/
structure PolicyTrace where
  policy : BuiltinPolicy
  calls : Nat := 0
  lastDecisions : Option (List PolicyDecision) := none

namespace PolicyTrace

variable [Numerics]

def perform (s : PolicyTrace) (call : PolicyCall) : PolicyTrace :=
  match call with
  | .decide blocks m =>
      let r := PolicyInterface.decide s.policy blocks m
      { policy := r.2
        calls := s.calls + 1
        lastDecisions := some r.1 }
  | .loadModel model => { s with policy := s.policy.loadModel model }

/-- The statistics describe the last decisions, and the evaluations counted
are the calls made. -/
def Described (s : PolicyTrace) : Prop :=
  ∀ decisions, s.lastDecisions = some decisions →
    (∃ stats, PolicyInterface.getLastStats s.policy = some stats ∧ StatsMatch stats decisions) ∧
      s.policy.evalCount = s.calls

/-- The call does not find a learned policy without a model. -/
def AsksDecider (s : PolicyTrace) (call : PolicyCall) : Prop :=
  match call with
  | .decide _ _ => s.policy.DecidesItself
  | .loadModel _ => True

/-- What holds before the first call that finds no model. -/
structure UpToDate (s : PolicyTrace) : Prop where
  described : s.Described
  evalCount : s.policy.evalCount = s.calls

theorem UpToDate.perform {s : PolicyTrace} {call : PolicyCall} (h : s.UpToDate)
    (hcall : s.AsksDecider call) : (s.perform call).UpToDate := by
  cases call with
  | decide blocks m =>
      have hself : s.policy.DecidesItself := hcall
      obtain ⟨hstats, hcount⟩ := hself.recorded blocks m
      have hcalls : (PolicyInterface.decide s.policy blocks m).2.evalCount = s.calls + 1 := by
        rw [hcount, h.evalCount]
      refine ⟨?_, hcalls⟩
      intro decisions hlast
      cases hlast
      exact ⟨hstats, hcalls⟩
  | loadModel model =>
      obtain ⟨hstats, hcount⟩ := s.policy.loadModel_stats model
      have hcalls : (s.policy.loadModel model).evalCount = s.calls := by
        rw [hcount, h.evalCount]
      refine ⟨?_, hcalls⟩
      intro decisions hlast
      show (∃ stats, PolicyInterface.getLastStats (s.policy.loadModel model) = some stats ∧
        StatsMatch stats decisions) ∧ _
      rw [hstats]
      exact ⟨(h.described decisions hlast).1, hcalls⟩

/-- A call that finds no model is not counted. -/
theorem not_described_perform {s : PolicyTrace} {call : PolicyCall} (h : s.UpToDate)
    (hcall : ¬s.AsksDecider call) : ¬(s.perform call).Described := by
  cases call with
  | decide blocks m =>
      intro hdescribed
      have hkept := (BuiltinPolicy.decide_of_not_decidesItself hcall blocks m).2
      have hcalls := (hdescribed _ rfl).2
      have hcount : (PolicyInterface.decide s.policy blocks m).2.evalCount = s.calls + 1 := hcalls
      rw [hkept, h.evalCount] at hcount
      omega
  | loadModel model => exact absurd trivial hcall

end PolicyTrace

/-! ## The history of the engine -/

/-- The engine's history after a cycle ends with an entry for the decisions
just applied. -/
def HistoryMatches [Numerics] (e : PolicyEngine BuiltinPolicy) : Prop :=
  ∃ stats, StatsMatch stats e.cycleDecisions ∧
    e.cycle.history = dequeAppend e.statsBufferSize e.history stats

/-- A cycle appends the statistics its policy has afterwards. -/
theorem history_cycle [Numerics] {e : PolicyEngine BuiltinPolicy}
    (hblocks : e.blockTracker.getAllBlocks ≠ []) :
    e.cycle.history =
      match PolicyInterface.getLastStats (PolicyInterface.decide e.policy
        e.blockTracker.getAllBlocks (systemMetrics e.blockTracker)).2 with
      | some stats => dequeAppend e.statsBufferSize e.history stats
      | none => e.history := by
  have hempty : e.blockTracker.getAllBlocks.isEmpty = false := by simpa using hblocks
  simp only [PolicyEngine.cycle, PolicyEngine.runPolicyCycle, hempty]
  rfl

/-- **Statistics describe the decisions, as long as the policy decides itself.**

Take a fresh policy and any sequence of `decide` calls, with models loaded and
lost in between.  The statistics match the last decisions, and the evaluations
counted are the calls made, in every state of the sequence exactly if no call
finds a learned policy without a model.  A nonempty engine cycle under a policy
that decides itself appends an entry for the decisions it applied; otherwise it
appends what statistics there were before, if any. -/
theorem stats_describe_iff [Numerics] (policy : BuiltinPolicy) (hfresh : policy.evalCount = 0)
    (calls : List PolicyCall) :
    (Throughout PolicyTrace.perform PolicyTrace.Described { policy := policy } calls ↔
      StepsMeet PolicyTrace.perform PolicyTrace.AsksDecider { policy := policy } calls) ∧
    ∀ e : PolicyEngine BuiltinPolicy, e.blockTracker.getAllBlocks ≠ [] →
      (e.policy.DecidesItself → HistoryMatches e) ∧
      (¬e.policy.DecidesItself →
        e.cycle.history =
          match PolicyInterface.getLastStats e.policy with
          | some stats => dequeAppend e.statsBufferSize e.history stats
          | none => e.history) := by
  constructor
  · have hstep : ∀ (s : PolicyTrace) (call : PolicyCall), s.AsksDecider call → s.UpToDate →
        (s.perform call).UpToDate := fun s call hcall h => h.perform hcall
    have hbreak : ∀ (s : PolicyTrace) (call : PolicyCall), s.UpToDate → ¬s.AsksDecider call →
        ¬(s.perform call).Described :=
      fun s call h hcall => PolicyTrace.not_described_perform h hcall
    apply throughout_iff_stepsMeet hstep (fun s h => h.described) hbreak
    constructor
    · intro decisions hlast
      cases hlast
    · exact hfresh
  · intro e hblocks
    constructor
    · intro hself
      obtain ⟨⟨stats, hstats, hmatch⟩, _⟩ := hself.recorded e.blockTracker.getAllBlocks
        (systemMetrics e.blockTracker)
      refine ⟨stats, ?_, ?_⟩
      · rw [PolicyEngine.cycleDecisions_of_ne_nil hblocks]
        exact hmatch
      · rw [history_cycle hblocks, hstats]
    · intro hdelegates
      have hkept := (BuiltinPolicy.decide_of_not_decidesItself hdelegates
        e.blockTracker.getAllBlocks (systemMetrics e.blockTracker)).1
      rw [history_cycle hblocks, hkept]

/-- A learned policy as it is constructed without a model path. -/
def modelless : BuiltinPolicy := .learned { config := {} }

/-- A ranker that scores every row alike. -/
def constantModel : Model where
  predict x := .ok (x.map (fun _ => 1))

theorem stats_describe_iff_constant_model :
    letI : Numerics := lineNumerics.toNumerics
    Throughout PolicyTrace.perform PolicyTrace.Described { policy := modelless }
      [.loadModel (some constantModel), .decide twoBlocks.getAllBlocks {}] :=
  (@stats_describe_iff lineNumerics.toNumerics modelless rfl _).1.mpr ⟨trivial, rfl, trivial⟩

/-- The first call is delegated: no statistics and no evaluation. -/
theorem stats_describe_fails :
    letI : Numerics := lineNumerics.toNumerics
    let s := run PolicyTrace.perform { policy := modelless } [.decide twoBlocks.getAllBlocks {}]
    s.calls = 1 ∧ s.policy.evalCount = 0 ∧ PolicyInterface.getLastStats s.policy = none ∧
      ¬s.Described := by
  intro s
  have hcount : s.policy.evalCount = 0 := rfl
  refine ⟨rfl, hcount, rfl, ?_⟩
  intro hdescribed
  have hcalls : s.policy.evalCount = 1 := (hdescribed _ rfl).2
  omega

end KVOrchestrator.Ports
