import KVOrchestrator.Ports.EngineRun
import KVOrchestrator.Ports.Heuristic

/-!
# The pressure the engine feeds back

The engine passes the tracker's estimate as used memory and a constant zero as
free memory, so the fraction every policy computes from the two is one as long
as anything is on the GPU and zero otherwise (`pressure_eq_zero_or_one`).  The
selective regime of a policy is thereby out of reach, and freeing part of the
memory never lowers the pressure (`pressure_feedback_never`).
-/

namespace KVOrchestrator.Ports

/-- A cycle sees full pressure or none. -/
theorem pressure_eq_zero_or_one (t : BlockTracker) :
    (systemMetrics t).pressure = 0 ∨ (systemMetrics t).pressure = 1 := by
  rcases lt_or_eq_of_le t.estimatedGpuMb_nonneg with hpos | hzero
  · exact .inr (pressure_systemMetrics_of_pos hpos)
  · exact .inl (pressure_systemMetrics_of_zero hzero.symm)

/-- Which of the two it is depends on whether anything is on the GPU. -/
theorem pressure_eq_one_iff (t : BlockTracker) :
    (systemMetrics t).pressure = 1 ↔ 0 < t.getMemoryStats.estimatedGpuMb := by
  constructor
  · intro hone
    rcases lt_or_eq_of_le t.estimatedGpuMb_nonneg with hpos | hzero
    · exact hpos
    · rw [pressure_systemMetrics_of_zero hzero.symm] at hone
      exact absurd hone (by decide)
  · exact pressure_systemMetrics_of_pos

/-- Blocks of no size take no memory. -/
theorem pressure_of_bytes_zero {t : BlockTracker} (hbytes : t.blockBytesInt8 = 0) :
    (systemMetrics t).pressure = 0 := by
  rcases pressure_eq_zero_or_one t with hzero | hone
  · exact hzero
  · have hpos := (t.estimatedGpuMb_pos_iff).mp ((pressure_eq_one_iff t).mp hone)
    omega

/-- With a block on the GPU the pressure is one. -/
theorem pressure_of_mem {t : BlockTracker} {b : BlockState} (hb : b ∈ t.getAllBlocks)
    (hgpu : 0 < b.currentTier.gpuWeight) (hbytes : 0 < t.blockBytesInt8) :
    (systemMetrics t).pressure = 1 :=
  (pressure_eq_one_iff t).mpr
    ((t.estimatedGpuMb_pos_iff).mpr ⟨BlockTracker.gpuUnits_pos_of_mem hb hgpu, hbytes⟩)

/-- With every block on the GPU the pressure is one, unless blocks have no
size. -/
theorem pressure_of_onGpu {t : BlockTracker}
    (hgpu : ∀ b ∈ t.getAllBlocks, 0 < b.currentTier.gpuWeight) {b : BlockState}
    (hb : b ∈ t.getAllBlocks) :
    (systemMetrics t).pressure = if t.blockBytesInt8 = 0 then 0 else 1 := by
  split
  · rename_i hbytes
    exact pressure_of_bytes_zero hbytes
  · rename_i hbytes
    exact pressure_of_mem hb (hgpu b hb) (Nat.pos_of_ne_zero hbytes)

/-- **Relief is never fed back**: whenever a cycle leaves strictly less GPU
memory in use, but some, both this cycle and the next one compute pressure
one. -/
theorem pressure_feedback_never {π : Type} [PolicyInterface π] (e : PolicyEngine π)
    (hless : e.cycle.blockTracker.getMemoryStats.estimatedGpuMb <
      e.blockTracker.getMemoryStats.estimatedGpuMb)
    (hpos : 0 < e.cycle.blockTracker.getMemoryStats.estimatedGpuMb) :
    ¬(systemMetrics e.cycle.blockTracker).pressure < (systemMetrics e.blockTracker).pressure ∧
      (systemMetrics e.blockTracker).pressure = 1 ∧
      (systemMetrics e.cycle.blockTracker).pressure = 1 := by
  have hthis : (systemMetrics e.blockTracker).pressure = 1 :=
    (pressure_eq_one_iff _).mpr (lt_trans hpos hless)
  have hnext : (systemMetrics e.cycle.blockTracker).pressure = 1 :=
    (pressure_eq_one_iff _).mpr hpos
  refine ⟨?_, hthis, hnext⟩
  rw [hthis, hnext]
  exact lt_irrefl 1

/-- The full-cache baseline over two FP16 blocks. -/
def fullCacheEngine : PolicyEngine FullCachePolicy where
  policy := ⟨{ config := {} }⟩
  blockTracker := twoBlocks

/-- The cycle evicts one of the two blocks, which halves the used memory. -/
theorem pressure_feedback_never_full_cache :
    ¬(systemMetrics fullCacheEngine.cycle.blockTracker).pressure <
      (systemMetrics fullCacheEngine.blockTracker).pressure :=
  (pressure_feedback_never fullCacheEngine (by decide +kernel) (by decide +kernel)).1

theorem pressure_feedback_fails :
    (fullCacheEngine.cycle.blockTracker.getMemoryStats.estimatedGpuMb <
        fullCacheEngine.blockTracker.getMemoryStats.estimatedGpuMb ∧
      0 < fullCacheEngine.cycle.blockTracker.getMemoryStats.estimatedGpuMb) ∧
    ¬(systemMetrics fullCacheEngine.cycle.blockTracker).pressure <
      (systemMetrics fullCacheEngine.blockTracker).pressure := by
  decide +kernel

end KVOrchestrator.Ports
