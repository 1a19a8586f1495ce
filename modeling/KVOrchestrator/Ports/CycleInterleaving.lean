import KVOrchestrator.Ports.EngineRun
import KVOrchestrator.Ports.Heuristic

/-!
# A policy cycle among serving calls

The tracker's lock makes each of its methods atomic, but not the cycle: it takes
its snapshot, asks for the memory statistics, lets the policy decide and applies
the decisions, and between any two of these the serving side may evict, release
and register blocks.  A decision carries an id only, so it falls on whatever
block has that id when it is applied.

Each registration of an id has a number, and a call of the cycle that changes a
block is recorded together with the block its decision was made for.  A call
strays exactly if it finds the id with another request
(`decisions_hit_their_block_iff`), and none does as long as no other request
registers an id that the cycle has in hand.
-/

namespace KVOrchestrator.Ports

open KVOrchestrator.Verified

/-! ## The calls of a decision -/

/-- A tracker call of `apply_decisions`. -/
inductive TrackerCall where
  | evictBlock (blockId : Int)
  | updateTier (blockId : Int) (tier : BlockTier)
  | setImportanceScore (blockId : Int) (score : ℚ)

namespace TrackerCall

def blockId : TrackerCall → Int
  | .evictBlock blockId => blockId
  | .updateTier blockId _ => blockId
  | .setImportanceScore blockId _ => blockId

def perform (t : BlockTracker) : TrackerCall → BlockTracker
  | .evictBlock blockId => (t.evictBlock blockId).1
  | .updateTier blockId tier => t.updateTier blockId tier
  | .setImportanceScore blockId score => t.setImportanceScore blockId score

end TrackerCall

/-- The tracker calls with which a decision is applied. -/
def PolicyDecision.calls (d : PolicyDecision) : List TrackerCall :=
  if d.decision = .evict then [.evictBlock d.blockId]
  else [.updateTier d.blockId d.decision.tier, .setImportanceScore d.blockId d.score]

theorem PolicyDecision.blockId_of_mem_calls {d : PolicyDecision} {c : TrackerCall}
    (hc : c ∈ d.calls) : c.blockId = d.blockId := by
  rw [calls] at hc
  split at hc
  · rw [List.mem_singleton] at hc
    rw [hc]
    rfl
  · rcases List.mem_cons.mp hc with rfl | hc
    · rfl
    · rw [List.mem_singleton] at hc
      rw [hc]
      rfl

/-- One after the other, the calls apply the decision. -/
theorem PolicyDecision.foldl_calls (t : BlockTracker) (d : PolicyDecision) :
    d.calls.foldl TrackerCall.perform t = applyDecision t d := by
  rw [calls, applyDecision]
  split <;> rfl

/-! ## The cycle in progress -/

/-- A block of the snapshot, with the number of its registration. -/
structure Source where
  block : BlockState
  generation : Nat

/-- A call still to be made, with the block its decision was computed from. -/
structure PendingCall where
  call : TrackerCall
  source : Option Source

inductive CyclePhase where
  /-- No cycle is running. -/
  | idle
  | snapshot (sources : List Source)
  | measured (sources : List Source) (stats : BlockTracker.MemoryStats)
  | applying (pending : List PendingCall)

/-- The calls still to be made. -/
def CyclePhase.pending : CyclePhase → List PendingCall
  | .applying pending => pending
  | _ => []

/-- The blocks the cycle still has in hand. -/
def CyclePhase.sources : CyclePhase → List Source
  | .idle => []
  | .snapshot sources => sources
  | .measured sources _ => sources
  | .applying pending => pending.filterMap (·.source)

/-- The next call is pending, and what it was decided on is in hand. -/
theorem CyclePhase.mem_of_applying {phase : CyclePhase} {p : PendingCall}
    {rest : List PendingCall} (hphase : phase = .applying (p :: rest)) {source : Source}
    (hsource : p.source = some source) : p ∈ phase.pending ∧ source ∈ phase.sources := by
  rw [hphase]
  exact ⟨List.mem_cons_self, List.mem_filterMap.mpr ⟨p, List.mem_cons_self, hsource⟩⟩

/-- A call has changed a block. -/
structure Hit where
  source : Source
  target : BlockState
  /-- The number of the target's registration. -/
  generation : Nat

/-- The decision was made for an earlier registration, by another request. -/
def Hit.Stray (hit : Hit) : Prop :=
  hit.source.generation < hit.generation ∧ hit.source.block.requestId ≠ hit.target.requestId

instance (hit : Hit) : Decidable hit.Stray := by
  unfold Hit.Stray
  infer_instance

/-- The tracker the engine and the serving side share. -/
structure SharedTracker (π : Type) where
  policy : π
  tracker : BlockTracker
  phase : CyclePhase := .idle
  /-- How often each id has been registered. -/
  generation : Int → Nat := fun _ => 0
  hits : List Hit := []

/-- A step of the cycle or a call of the serving side. -/
inductive SharedStep where
  | getAllBlocks
  | getMemoryStats
  | decide
  | nextCall
  | evictBlock (blockId : Int)
  | releaseRequestBlocks (requestId : String)
  | registerBlock (blockId layerId headGroup : Int) (requestId : String)

/-- The metrics a cycle computes from its snapshot and the statistics. -/
def cycleMetrics (t : BlockTracker) (blocks : List BlockState)
    (stats : BlockTracker.MemoryStats) : SystemMetrics where
  gpuMemUsedMb := some stats.estimatedGpuMb
  gpuMemFreeMb := some (max 0 ((t.ids.length : ℚ) * 0))
  globalStep := some (maxD (blocks.map (·.lastAccessStep)) 0)
  attnMax := some (maxD (blocks.map (·.maxAttentionScore)) 1)

/-- The calls of the decisions, each with the snapshot's block of its id. -/
def pendingCalls (sources : List Source) (decisions : List PolicyDecision) : List PendingCall :=
  decisions.flatMap (fun d =>
    d.calls.map (fun c =>
      { call := c
        source := sources.find? (fun source => decide (source.block.blockId = d.blockId)) }))

/-- `evict_block` marks the state it pops, which the snapshot shares. -/
def markEvicted (blockId : Int) (generation : Nat) (source : Source) : Source :=
  if source.block.blockId = blockId ∧ source.generation = generation then
    { source with block := { source.block with currentTier := .evicted } }
  else source

def CyclePhase.markEvicted (blockId : Int) (generation : Nat) : CyclePhase → CyclePhase
  | .snapshot sources => .snapshot (sources.map (Ports.markEvicted blockId generation))
  | .measured sources stats => .measured (sources.map (Ports.markEvicted blockId generation)) stats
  | phase => phase

namespace SharedTracker

variable {π : Type} [PolicyInterface π]

/-- What a pending call changes. -/
def hitOf (s : SharedTracker π) (p : PendingCall) : List Hit :=
  match p.source, s.tracker.getBlock p.call.blockId with
  | some source, some block => [⟨source, block, s.generation p.call.blockId⟩]
  | _, _ => []

/-- The first tracker call of a cycle; without blocks there is no cycle. -/
def snapshot (s : SharedTracker π) : SharedTracker π :=
  let blocks := s.tracker.getAllBlocks
  if blocks.isEmpty then s
  else { s with phase := .snapshot (blocks.map (fun b => ⟨b, s.generation b.blockId⟩)) }

/-- The policy decides on the snapshot. -/
def decideOn (s : SharedTracker π) (sources : List Source) (stats : BlockTracker.MemoryStats) :
    SharedTracker π :=
  let blocks := sources.map (·.block)
  let r := PolicyInterface.decide s.policy blocks (cycleMetrics s.tracker blocks stats)
  { s with
    policy := r.2
    phase := .applying (pendingCalls sources r.1) }

/-- The next call of `apply_decisions`. -/
def apply (s : SharedTracker π) (p : PendingCall) (rest : List PendingCall) : SharedTracker π :=
  { s with
    tracker := p.call.perform s.tracker
    phase := .applying rest
    hits := s.hits ++ s.hitOf p }

def step (s : SharedTracker π) : SharedStep → SharedTracker π
  | .getAllBlocks =>
      match s.phase with
      | .idle => s.snapshot
      | _ => s
  | .getMemoryStats =>
      match s.phase with
      | .snapshot sources => { s with phase := .measured sources s.tracker.getMemoryStats }
      | _ => s
  | .decide =>
      match s.phase with
      | .measured sources stats => s.decideOn sources stats
      | _ => s
  | .nextCall =>
      match s.phase with
      | .applying [] => { s with phase := .idle }
      | .applying (p :: rest) => s.apply p rest
      | _ => s
  | .evictBlock blockId =>
      { s with
        tracker := (s.tracker.evictBlock blockId).1
        phase :=
          if (s.tracker.getBlock blockId).isSome then
            s.phase.markEvicted blockId (s.generation blockId)
          else s.phase }
  | .releaseRequestBlocks requestId =>
      { s with tracker := (s.tracker.releaseRequestBlocks requestId).1 }
  | .registerBlock blockId layerId headGroup requestId =>
      { s with
        tracker := s.tracker.registerBlock blockId layerId headGroup requestId
        generation := Function.update s.generation blockId (s.generation blockId + 1) }

/-- A tracker with no cycle running. -/
def start (policy : π) (t : BlockTracker) : SharedTracker π where
  policy := policy
  tracker := t

/-- No call has changed a later registration by another request. -/
def NoStrayCall (s : SharedTracker π) : Prop := ∀ hit ∈ s.hits, ¬hit.Stray

instance (s : SharedTracker π) : Decidable s.NoStrayCall := by
  unfold NoStrayCall
  infer_instance

/-- A call of the cycle finds its id unregistered, or with the request its
decision was made for. -/
def CallFindsOwner (s : SharedTracker π) : SharedStep → Prop
  | .nextCall =>
      ∀ p rest, s.phase = .applying (p :: rest) → ∀ source, p.source = some source →
        ∀ block, s.tracker.getBlock p.call.blockId = some block →
          block.requestId = source.block.requestId
  | _ => True

/-- A request does not register an id that the cycle has in hand for another. -/
def NoTakeover (s : SharedTracker π) : SharedStep → Prop
  | .registerBlock blockId _ _ requestId =>
      ∀ source ∈ s.phase.sources, source.block.blockId = blockId →
        source.block.requestId = requestId
  | _ => True

end SharedTracker

/-! ## Calls that register nothing -/

/-- Every block that is tracked afterwards was tracked before, by the same
request. -/
def KeepsOwners (t t' : BlockTracker) : Prop :=
  ∀ i b', t'.getBlock i = some b' → ∃ b, t.getBlock i = some b ∧ b'.requestId = b.requestId

namespace KeepsOwners

variable (t : BlockTracker)

theorem refl : KeepsOwners t t := fun _ b' hb' => ⟨b', hb', rfl⟩

theorem of_bind {t' : BlockTracker} {f : BlockState → Option BlockState}
    (h : ∀ i, t'.getBlock i = (t.getBlock i).bind f)
    (howner : ∀ b b', f b = some b' → b'.requestId = b.requestId) : KeepsOwners t t' := by
  intro i b' hb'
  rw [h i] at hb'
  obtain ⟨b, hb, hfb⟩ := Option.bind_eq_some_iff.mp hb'
  exact ⟨b, hb, howner b b' hfb⟩

theorem of_rewrite {t' : BlockTracker} {i : Int} {f : BlockState → BlockState}
    (h : ∀ j, t'.getBlock j =
      (t.getBlock j).bind (fun b => some (if b.blockId = i then f b else b)))
    (howner : ∀ b, (f b).requestId = b.requestId) : KeepsOwners t t' := by
  apply of_bind t h
  intro b b' hb'
  rw [Option.some.injEq] at hb'
  rw [← hb']
  split
  · exact howner b
  · rfl

theorem evictBlock (i : Int) : KeepsOwners t (t.evictBlock i).1 := by
  have h : ∀ j, (t.evictBlock i).1.getBlock j =
      (t.getBlock j).bind (fun b => if b.blockId = i then none else some b) :=
    fun _ => OrdDict.get?_update _ _ _
  apply of_bind t h
  intro b b' hb'
  split at hb'
  · cases hb'
  · cases hb'
    rfl

theorem updateTier (i : Int) (tier : BlockTier) : KeepsOwners t (t.updateTier i tier) := by
  have h : ∀ j, (t.updateTier i tier).getBlock j = (t.getBlock j).bind
      (fun b => some (if b.blockId = i then { b with currentTier := tier } else b)) :=
    fun _ => OrdDict.get?_update _ _ _
  exact of_rewrite t h (fun _ => rfl)

theorem setImportanceScore (i : Int) (score : ℚ) :
    KeepsOwners t (t.setImportanceScore i score) := by
  have h : ∀ j, (t.setImportanceScore i score).getBlock j = (t.getBlock j).bind
      (fun b => some (if b.blockId = i then { b with importanceScore := score } else b)) :=
    fun _ => OrdDict.get?_update _ _ _
  exact of_rewrite t h (fun _ => rfl)

theorem perform (c : TrackerCall) : KeepsOwners t (c.perform t) := by
  cases c with
  | evictBlock i => exact evictBlock t i
  | updateTier i tier => exact updateTier t i tier
  | setImportanceScore i score => exact setImportanceScore t i score

variable {t}

theorem trans {t' t'' : BlockTracker} (h : KeepsOwners t t') (h' : KeepsOwners t' t'') :
    KeepsOwners t t'' := by
  intro i b'' hb''
  obtain ⟨b', hb', hsame'⟩ := h' i b'' hb''
  obtain ⟨b, hb, hsame⟩ := h i b' hb'
  exact ⟨b, hb, hsame'.trans hsame⟩

theorem foldl_evictBlock (ids : List Int) :
    ∀ t : BlockTracker, KeepsOwners t (ids.foldl (fun t i => (t.evictBlock i).1) t) := by
  induction ids with
  | nil => exact refl
  | cons i ids ih => exact fun t => (evictBlock t i).trans (ih (t.evictBlock i).1)

theorem releaseRequestBlocks (t : BlockTracker) (requestId : String) :
    KeepsOwners t (t.releaseRequestBlocks requestId).1 := foldl_evictBlock _ t

end KeepsOwners

/-- After a registration: the new block, or an old one of another id. -/
theorem getBlock_registerBlock {t : BlockTracker} {blockId layerId headGroup : Int}
    {requestId : String} {i : Int} {b : BlockState}
    (h : (t.registerBlock blockId layerId headGroup requestId).getBlock i = some b) :
    (i = blockId ∧ b.requestId = requestId) ∨ (i ≠ blockId ∧ t.getBlock i = some b) := by
  rw [BlockTracker.getBlock, BlockTracker.registerBlock, BlockTracker.blocks_withBlocks] at h
  by_cases hi : i = blockId
  · rw [hi, OrdDict.get?_set_self] at h
    cases h
    exact .inl ⟨hi, rfl⟩
  · rw [OrdDict.get?_set_of_ne _ hi] at h
    exact .inr ⟨hi, h⟩

/-! ## What the cycle has in hand -/

/-- The two are the same registration. -/
def Source.Same (source source' : Source) : Prop :=
  source.block.blockId = source'.block.blockId ∧ source.generation = source'.generation ∧
    source.block.requestId = source'.block.requestId

theorem Source.Same.refl (source : Source) : source.Same source := ⟨rfl, rfl, rfl⟩

theorem same_markEvicted (blockId : Int) (generation : Nat) (source : Source) :
    (markEvicted blockId generation source).Same source := by
  rw [markEvicted]
  split <;> exact .refl _

theorem CyclePhase.sources_markEvicted {phase : CyclePhase} {blockId : Int} {generation : Nat}
    {source : Source} (h : source ∈ (phase.markEvicted blockId generation).sources) :
    ∃ source' ∈ phase.sources, source.Same source' := by
  cases phase with
  | idle => cases h
  | snapshot sources =>
      obtain ⟨source', hsource', rfl⟩ := List.mem_map.mp h
      exact ⟨source', hsource', same_markEvicted blockId generation source'⟩
  | measured sources stats =>
      obtain ⟨source', hsource', rfl⟩ := List.mem_map.mp h
      exact ⟨source', hsource', same_markEvicted blockId generation source'⟩
  | applying pending => exact ⟨source, h, .refl source⟩

theorem CyclePhase.pending_markEvicted (phase : CyclePhase) (blockId : Int) (generation : Nat) :
    (phase.markEvicted blockId generation).pending = phase.pending := by
  cases phase <;> rfl

/-- A pending call has its source from the snapshot, under the call's id. -/
theorem mem_pendingCalls {sources : List Source} {decisions : List PolicyDecision}
    {p : PendingCall} (hp : p ∈ pendingCalls sources decisions) {source : Source}
    (hsource : p.source = some source) :
    source ∈ sources ∧ p.call.blockId = source.block.blockId := by
  obtain ⟨d, _, hd⟩ := List.mem_flatMap.mp hp
  obtain ⟨c, hc, rfl⟩ := List.mem_map.mp hd
  have hfind : sources.find? (fun source => decide (source.block.blockId = d.blockId)) =
      some source := hsource
  refine ⟨List.mem_of_find?_eq_some hfind, ?_⟩
  have hid : source.block.blockId = d.blockId := by
    simpa using List.find?_some hfind
  exact (PolicyDecision.blockId_of_mem_calls hc).trans hid.symm

/-! ## A cycle on its own

With no serving call in between, the calls of a cycle apply its decisions to the
tracker of the snapshot. -/

theorem foldl_pendingCalls (sources : List Source) (decisions : List PolicyDecision)
    (t : BlockTracker) :
    (pendingCalls sources decisions).foldl (fun t p => p.call.perform t) t =
      applyDecisions t decisions := by
  rw [pendingCalls, List.foldl_flatMap, applyDecisions]
  congr
  funext t d
  rw [List.foldl_map, ← PolicyDecision.foldl_calls]

theorem length_pendingCalls (sources : List Source) (decisions : List PolicyDecision) :
    (pendingCalls sources decisions).length = (decisions.flatMap PolicyDecision.calls).length := by
  rw [pendingCalls, List.length_flatMap, List.length_flatMap]
  simp only [List.length_map]

namespace SharedTracker

variable {π : Type}

section Alone

variable [PolicyInterface π]

theorem tracker_run_nextCall (pending : List PendingCall) :
    ∀ s : SharedTracker π, s.phase = .applying pending →
      (run step s (List.replicate pending.length .nextCall)).tracker =
        pending.foldl (fun t p => p.call.perform t) s.tracker := by
  induction pending with
  | nil => exact fun _ _ => rfl
  | cons p rest ih =>
      intro s hphase
      have hstep : s.step .nextCall = s.apply p rest := by
        rw [step, hphase]
      show (run step (s.step .nextCall) (List.replicate rest.length .nextCall)).tracker = _
      rw [hstep]
      exact ih (s.apply p rest) rfl

/-- A cycle that is not interrupted does what the atomic one does. -/
theorem tracker_cycle_alone (policy : π) {t : BlockTracker} (hne : t.getAllBlocks ≠ []) :
    let decisions := (PolicyInterface.decide policy t.getAllBlocks (systemMetrics t)).1
    (run step (start policy t) ([.getAllBlocks, .getMemoryStats, .decide] ++
      List.replicate (decisions.flatMap PolicyDecision.calls).length .nextCall)).tracker =
        applyDecisions t decisions := by
  intro decisions
  have hblocks : t.getAllBlocks.isEmpty = false := by simpa using hne
  have hsnapshot : (start policy t).step .getAllBlocks =
      { start policy t with phase := .snapshot (t.getAllBlocks.map (fun b => ⟨b, 0⟩)) } := by
    show (start policy t).snapshot = _
    rw [snapshot]
    show (if t.getAllBlocks.isEmpty = true then _ else _) = _
    rw [hblocks]
    rfl
  have hsources : (t.getAllBlocks.map (fun b => (⟨b, 0⟩ : Source))).map (·.block) =
      t.getAllBlocks := by
    rw [List.map_map]
    exact List.map_id _
  have hdecide : ((start policy t).step .getAllBlocks |>.step .getMemoryStats |>.step .decide) =
      { start policy t with
        policy := (PolicyInterface.decide policy t.getAllBlocks (systemMetrics t)).2
        phase := .applying
          (pendingCalls (t.getAllBlocks.map (fun b => ⟨b, 0⟩)) decisions) } := by
    rw [hsnapshot]
    show decideOn _ (t.getAllBlocks.map (fun b => ⟨b, 0⟩)) t.getMemoryStats = _
    rw [decideOn, hsources]
    rfl
  rw [← length_pendingCalls (t.getAllBlocks.map (fun b => ⟨b, 0⟩)), run, List.foldl_append]
  show (run step ((start policy t).step .getAllBlocks |>.step .getMemoryStats |>.step .decide)
    _).tracker = _
  rw [hdecide, tracker_run_nextCall _ _ rfl, foldl_pendingCalls]
  rfl

end Alone

/-! ## What every step keeps -/

/-- Each pending call is on the id of its source. -/
def Named (s : SharedTracker π) : Prop :=
  ∀ p ∈ s.phase.pending, ∀ source, p.source = some source →
    p.call.blockId = source.block.blockId

/-- A block under the id of a source, of the same registration, is of the same
request. -/
structure Known (s : SharedTracker π) : Prop where
  named : s.Named
  older : ∀ source ∈ s.phase.sources,
    source.generation ≤ s.generation source.block.blockId
  owner : ∀ source ∈ s.phase.sources,
    s.generation source.block.blockId = source.generation →
    ∀ b, s.tracker.getBlock source.block.blockId = some b →
      b.requestId = source.block.requestId
  noStray : s.NoStrayCall

/-- Every block under the id of a source is of the same request. -/
def Held (s : SharedTracker π) : Prop :=
  ∀ source ∈ s.phase.sources, ∀ b, s.tracker.getBlock source.block.blockId = some b →
    b.requestId = source.block.requestId

/-- A step that registers nothing and takes nothing in hand. -/
structure Shrinks (s s' : SharedTracker π) : Prop where
  generation : s'.generation = s.generation
  owners : KeepsOwners s.tracker s'.tracker
  sources : ∀ source ∈ s'.phase.sources, ∃ source' ∈ s.phase.sources, source.Same source'

section Shrinks

variable {s s' : SharedTracker π} (h : Shrinks s s')

include h

theorem Shrinks.older (hs : ∀ source ∈ s.phase.sources,
    source.generation ≤ s.generation source.block.blockId) :
    ∀ source ∈ s'.phase.sources, source.generation ≤ s'.generation source.block.blockId := by
  intro source hsource
  obtain ⟨source', hsource', hid, hgeneration, _⟩ := h.sources source hsource
  rw [h.generation, hid, hgeneration]
  exact hs source' hsource'

theorem Shrinks.owner (hs : ∀ source ∈ s.phase.sources,
    s.generation source.block.blockId = source.generation →
    ∀ b, s.tracker.getBlock source.block.blockId = some b →
      b.requestId = source.block.requestId) :
    ∀ source ∈ s'.phase.sources, s'.generation source.block.blockId = source.generation →
      ∀ b, s'.tracker.getBlock source.block.blockId = some b →
        b.requestId = source.block.requestId := by
  intro source hsource hsame b hb
  obtain ⟨source', hsource', hid, hgeneration, hrequest⟩ := h.sources source hsource
  obtain ⟨b', hb', howner⟩ := h.owners _ b hb
  rw [h.generation, hid, hgeneration] at hsame
  rw [hid] at hb'
  rw [howner, hrequest]
  exact hs source' hsource' hsame b' hb'

theorem Shrinks.held (hs : s.Held) : s'.Held := by
  intro source hsource b hb
  obtain ⟨source', hsource', hid, _, hrequest⟩ := h.sources source hsource
  obtain ⟨b', hb', howner⟩ := h.owners _ b hb
  rw [hid] at hb'
  rw [howner, hrequest]
  exact hs source' hsource' b' hb'

end Shrinks

/-- The steps of the cycle but the snapshot, and the serving calls that remove
blocks. -/
def Removes : SharedStep → Prop
  | .getAllBlocks => False
  | .registerBlock _ _ _ _ => False
  | _ => True

theorem Shrinks.refl (s : SharedTracker π) : Shrinks s s :=
  ⟨rfl, .refl _, fun source hsource => ⟨source, hsource, .refl source⟩⟩

/-- A step that changes the phase only, and takes nothing in hand. -/
theorem shrinks_phase {s : SharedTracker π} {phase : CyclePhase} {policy : π}
    (h : ∀ source ∈ phase.sources, source ∈ s.phase.sources) :
    Shrinks s { s with policy := policy, phase := phase } :=
  ⟨rfl, .refl _, fun source hsource => ⟨source, h source hsource, .refl source⟩⟩

variable [PolicyInterface π]

theorem shrinks_step {s : SharedTracker π} {op : SharedStep} (hop : Removes op) :
    Shrinks s (s.step op) := by
  cases op with
  | getAllBlocks => cases hop
  | getMemoryStats =>
      rw [step]
      split
      · rename_i sources hphase
        apply shrinks_phase
        rw [hphase]
        exact fun _ hsource => hsource
      · exact .refl s
  | decide =>
      rw [step]
      split
      · rename_i sources stats hphase
        apply shrinks_phase
        intro source hsource
        rw [hphase]
        obtain ⟨p, hp, hpsource⟩ := List.mem_filterMap.mp hsource
        exact (mem_pendingCalls hp hpsource).1
      · exact .refl s
  | nextCall =>
      rw [step]
      split
      · apply shrinks_phase
        intro source hsource
        cases hsource
      · rename_i p rest hphase
        refine ⟨rfl, KeepsOwners.perform s.tracker p.call, ?_⟩
        intro source hsource
        refine ⟨source, ?_, .refl source⟩
        rw [hphase]
        obtain ⟨p', hp', hsource'⟩ := List.mem_filterMap.mp hsource
        exact List.mem_filterMap.mpr ⟨p', List.mem_cons_of_mem p hp', hsource'⟩
      · exact .refl s
  | evictBlock blockId =>
      refine ⟨rfl, KeepsOwners.evictBlock s.tracker blockId, ?_⟩
      intro source hsource
      rw [step] at hsource
      dsimp only at hsource
      split at hsource
      · exact CyclePhase.sources_markEvicted hsource
      · exact ⟨source, hsource, .refl source⟩
  | releaseRequestBlocks requestId =>
      exact ⟨rfl, KeepsOwners.releaseRequestBlocks s.tracker requestId,
        fun source hsource => ⟨source, hsource, .refl source⟩⟩
  | registerBlock blockId layerId headGroup requestId => cases hop

/-- Calls become pending under the ids of their sources, and stay so. -/
theorem named_step {s : SharedTracker π} (h : s.Named) (op : SharedStep) : (s.step op).Named := by
  cases op with
  | getAllBlocks =>
      rw [step]
      split
      · rw [snapshot]
        split
        · exact h
        · intro p hp
          cases hp
      · exact h
  | getMemoryStats =>
      rw [step]
      split
      · intro p hp
        cases hp
      · exact h
  | decide =>
      rw [step]
      split
      · exact fun p hp source hsource => (mem_pendingCalls hp hsource).2
      · exact h
  | nextCall =>
      rw [step]
      split
      · intro p hp
        cases hp
      · rename_i p rest hphase
        intro p' hp'
        apply h p'
        rw [hphase]
        exact List.mem_cons_of_mem p hp'
      · exact h
  | evictBlock blockId =>
      intro p hp
      apply h p
      rw [step] at hp
      dsimp only at hp
      split at hp
      · rwa [CyclePhase.pending_markEvicted] at hp
      · exact hp
  | releaseRequestBlocks requestId => exact h
  | registerBlock blockId layerId headGroup requestId => exact h

/-- The blocks of a snapshot are tracked under their own registration. -/
theorem sources_getAllBlocks {s : SharedTracker π} {source : Source}
    (h : source ∈ (s.step .getAllBlocks).phase.sources) :
    source ∈ s.phase.sources ∨
      source.generation = s.generation source.block.blockId ∧
        s.tracker.getBlock source.block.blockId = some source.block := by
  rw [step] at h
  split at h
  · rw [snapshot] at h
    split at h
    · exact .inl h
    · obtain ⟨b, hb, rfl⟩ := List.mem_map.mp h
      exact .inr ⟨rfl, s.tracker.getBlock_of_mem hb⟩
  · exact .inl h

theorem step_getAllBlocks (s : SharedTracker π) :
    (s.step .getAllBlocks).tracker = s.tracker ∧
      (s.step .getAllBlocks).generation = s.generation ∧
      (s.step .getAllBlocks).hits = s.hits := by
  rw [step]
  split
  · rw [snapshot]
    split <;> exact ⟨rfl, rfl, rfl⟩
  · exact ⟨rfl, rfl, rfl⟩

/-- Only a call of the cycle changes a block for a decision. -/
theorem hits_step (s : SharedTracker π) (op : SharedStep) :
    (s.step op).hits = s.hits ∨
      op = .nextCall ∧ ∃ p rest, s.phase = .applying (p :: rest) ∧
        (s.step op).hits = s.hits ++ s.hitOf p := by
  cases op with
  | getAllBlocks => exact .inl (step_getAllBlocks s).2.2
  | getMemoryStats =>
      rw [step]
      split <;> exact .inl rfl
  | decide =>
      rw [step]
      split <;> exact .inl rfl
  | nextCall =>
      rw [step]
      split
      · exact .inl rfl
      · rename_i p rest hphase
        exact .inr ⟨rfl, p, rest, hphase, rfl⟩
      · exact .inl rfl
  | evictBlock blockId => exact .inl rfl
  | releaseRequestBlocks requestId => exact .inl rfl
  | registerBlock blockId layerId headGroup requestId => exact .inl rfl

omit [PolicyInterface π] in
theorem mem_hitOf {s : SharedTracker π} {p : PendingCall} {hit : Hit} (h : hit ∈ s.hitOf p) :
    p.source = some hit.source ∧ s.tracker.getBlock p.call.blockId = some hit.target ∧
      hit.generation = s.generation p.call.blockId := by
  rw [hitOf] at h
  split at h
  · rename_i source block hsource hblock
    rw [List.mem_singleton] at h
    rw [h]
    exact ⟨hsource, hblock, rfl⟩
  · cases h

/-- A call that finds the request of its decision does not stray. -/
theorem noStrayCall_step {s : SharedTracker π} {op : SharedStep} (h : s.NoStrayCall)
    (hfinds : s.CallFindsOwner op) : (s.step op).NoStrayCall := by
  intro hit hhit hstray
  rcases hits_step s op with hsame | ⟨rfl, p, rest, hphase, hits⟩
  · rw [hsame] at hhit
    exact h hit hhit hstray
  · rw [hits] at hhit
    rcases List.mem_append.mp hhit with hold | hnew
    · exact h hit hold hstray
    · obtain ⟨hsource, htarget, _⟩ := mem_hitOf hnew
      exact hstray.2 (hfinds p rest hphase hit.source hsource hit.target htarget).symm

/-- What is known of the ids in hand stays known, whatever the serving side
does. -/
theorem known_step {s : SharedTracker π} {op : SharedStep} (hfinds : s.CallFindsOwner op)
    (h : s.Known) : (s.step op).Known := by
  have hnamed := named_step h.named op
  have hnoStray := noStrayCall_step h.noStray hfinds
  by_cases hop : Removes op
  · have hshrinks := shrinks_step (s := s) hop
    exact ⟨hnamed, hshrinks.older h.older, hshrinks.owner h.owner, hnoStray⟩
  · cases op with
    | getAllBlocks =>
        obtain ⟨htracker, hgeneration, _⟩ := step_getAllBlocks s
        refine ⟨hnamed, ?_, ?_, hnoStray⟩
        · intro source hsource
          rw [hgeneration]
          rcases sources_getAllBlocks hsource with hold | ⟨hnew, _⟩
          · exact h.older source hold
          · exact hnew.le
        · intro source hsource hsame b hb
          rw [hgeneration] at hsame
          rw [htracker] at hb
          rcases sources_getAllBlocks hsource with hold | ⟨_, hblock⟩
          · exact h.owner source hold hsame b hb
          · rw [hblock] at hb
            cases hb
            rfl
    | registerBlock blockId layerId headGroup requestId =>
        refine ⟨hnamed, ?_, ?_, hnoStray⟩
        · intro source hsource
          have hold := h.older source hsource
          show source.generation ≤ Function.update s.generation blockId _ source.block.blockId
          by_cases hid : source.block.blockId = blockId
          · rw [hid] at hold ⊢
            rw [Function.update_self]
            omega
          · rwa [Function.update_of_ne hid]
        · intro source hsource hsame b hb
          have hold := h.older source hsource
          have hgeneration : Function.update s.generation blockId (s.generation blockId + 1)
              source.block.blockId = source.generation := hsame
          rcases getBlock_registerBlock hb with ⟨hid, _⟩ | ⟨hid, hblock⟩
          · rw [hid] at hold hgeneration
            rw [Function.update_self] at hgeneration
            omega
          · rw [Function.update_of_ne hid] at hgeneration
            exact h.owner source hsource hgeneration b hblock
    | _ => exact absurd trivial hop

/-- A call that finds another request changes a later registration. -/
theorem stray_of_not_finds {s : SharedTracker π} {op : SharedStep} (h : s.Known)
    (hfinds : ¬s.CallFindsOwner op) : ¬(s.step op).NoStrayCall := by
  cases op with
  | nextCall =>
      rw [CallFindsOwner] at hfinds
      push Not at hfinds
      obtain ⟨p, rest, hphase, source, hsource, block, hblock, hother⟩ := hfinds
      obtain ⟨hpending, hmem⟩ := CyclePhase.mem_of_applying hphase hsource
      have hid := h.named p hpending source hsource
      have hold := h.older source hmem
      have hlater : source.generation < s.generation p.call.blockId := by
        rw [hid]
        apply lt_of_le_of_ne hold
        intro hsame
        rw [hid] at hblock
        exact hother (h.owner source hmem hsame.symm block hblock)
      have hhit : s.hitOf p = [⟨source, block, s.generation p.call.blockId⟩] := by
        rw [hitOf, hsource, hblock]
      intro hnone
      apply hnone ⟨source, block, s.generation p.call.blockId⟩
      · rw [step, hphase]
        show _ ∈ s.hits ++ s.hitOf p
        rw [hhit]
        exact List.mem_append_right _ (List.mem_singleton_self _)
      · exact ⟨hlater, fun hsame => hother hsame.symm⟩
  | _ => exact absurd trivial hfinds

/-- As long as nobody takes over an id in hand, its block stays with its
request. -/
theorem held_step {s : SharedTracker π} {op : SharedStep} (hop : s.NoTakeover op) (h : s.Held) :
    (s.step op).Held := by
  by_cases hremoves : Removes op
  · exact (shrinks_step hremoves).held h
  · cases op with
    | getAllBlocks =>
        intro source hsource b hb
        rw [(step_getAllBlocks s).1] at hb
        rcases sources_getAllBlocks hsource with hold | ⟨_, hblock⟩
        · exact h source hold b hb
        · rw [hblock] at hb
          cases hb
          rfl
    | registerBlock blockId layerId headGroup requestId =>
        intro source hsource b hb
        rcases getBlock_registerBlock hb with ⟨hid, hrequest⟩ | ⟨_, hblock⟩
        · rw [hrequest]
          exact (hop source hsource hid).symm
        · exact h source hsource b hblock
    | _ => exact absurd trivial hremoves

omit [PolicyInterface π] in
theorem callFindsOwner_of_held {s : SharedTracker π} (h : s.Held) (hnamed : s.Named)
    (op : SharedStep) : s.CallFindsOwner op := by
  cases op with
  | nextCall =>
      intro p rest hphase source hsource block hblock
      obtain ⟨hpending, hmem⟩ := CyclePhase.mem_of_applying hphase hsource
      rw [hnamed p hpending source hsource] at hblock
      exact h source hmem block hblock
  | _ => trivial

/-! ## Runs -/

omit [PolicyInterface π] in
theorem known_start (policy : π) (t : BlockTracker) : (start policy t).Known where
  named := by
    intro p hp
    cases hp
  older := by
    intro source hsource
    cases hsource
  owner := by
    intro source hsource
    cases hsource
  noStray := by
    intro hit hhit
    cases hhit

/-- **Decisions hit the block they were made for, if nobody takes over its id.**

For every policy, tracker and interleaving of cycles with `evict_block`,
`release_request_blocks` and `register_block`: no decision changes a later
registration of its id by another request exactly if each call of a cycle finds
its id unregistered or with the request the decision was made for.  It does
whenever no other request registers an id that a running cycle has in hand. -/
theorem decisions_hit_their_block_iff (policy : π) (t : BlockTracker) (ops : List SharedStep) :
    (Throughout step NoStrayCall (start policy t) ops ↔
      StepsMeet step CallFindsOwner (start policy t) ops) ∧
    (StepsMeet step NoTakeover (start policy t) ops →
      Throughout step NoStrayCall (start policy t) ops) := by
  have hiff : Throughout step NoStrayCall (start policy t) ops ↔
      StepsMeet step CallFindsOwner (start policy t) ops :=
    throughout_iff_stepsMeet (fun _ _ => known_step) (fun _ h => h.noStray)
      (fun _ _ => stray_of_not_finds) ops _ (known_start policy t)
  refine ⟨hiff, ?_⟩
  intro hsteps
  rw [hiff]
  have hstep : ∀ (s : SharedTracker π) (op : SharedStep), s.NoTakeover op →
      s.Held ∧ s.Named → (s.step op).Held ∧ (s.step op).Named :=
    fun s op hop h => ⟨held_step hop h.1, named_step h.2 op⟩
  have himp : ∀ (s : SharedTracker π) (op : SharedStep), s.NoTakeover op →
      s.Held ∧ s.Named → s.CallFindsOwner op :=
    fun s op _ h => callFindsOwner_of_held h.1 h.2 op
  apply stepsMeet_of_stepsMeet hstep himp ops _ hsteps
  constructor
  · intro source hsource
    cases hsource
  · exact (known_start policy t).named

/-- A policy that keeps the newest block only. -/
def newestBlockPolicy : SlidingWindowPolicy :=
  { config := { slidingWindowBlocks := 1, sinkTokenBlocks := 0 } }

/-- The request of two blocks ends while a cycle is about to evict the first of
them, and another request registers its id. -/
def takeoverSteps : List SharedStep :=
  [.getAllBlocks, .getMemoryStats, .decide, .releaseRequestBlocks "r",
    .registerBlock 1 0 0 "s", .nextCall]

/-- The fresh block of the other request is evicted. -/
theorem takeover_evicts_fresh_block :
    ¬Throughout step NoStrayCall (start newestBlockPolicy twoBlocks) takeoverSteps ∧
      (run step (start newestBlockPolicy twoBlocks) takeoverSteps).tracker.getBlock 1 = none := by
  constructor
  · intro h
    have hend := h takeoverSteps (List.prefix_refl _)
    revert hend
    decide +kernel
  · decide +kernel

end SharedTracker

end KVOrchestrator.Ports
