import Ziggo.TimeSync.SyncLoop.Frames

/-!
# Calls of the clock slave

What a call of the clock slave records, which functions it calls, and when it
fails to return.
-/

namespace Ziggo
namespace TimeSync

open Foundation TsnDrivers

namespace ClockSlaveSyncSM

open ClockSlaveSyncSMState SyncLoop

/-- The machine waits for a call. -/
structure Rests (sm : ClockSlaveSyncSM) : Prop where
  control : exists s, s ≠ init ∧ sm.control = .rest s
  owned : sm.rcvdPSSyncPtrCSS ≠ .released

/-- What a call does to the variables, apart from the control. -/
def indicate (pss : PortSyncSync) (l : SyncLoop) : SyncLoop :=
  (updateSlavePeriod (updateSlaveTime (recordSync pss (storePSSync pss l)))).thenDo
    clearFlags

theorem settled_clearFlags (l : SyncLoop) :
    machine.program.Settled sendSyncIndication (l.thenDo clearFlags) := by
  unfold SyncLoop.thenDo
  split
  case isTrue hstop => exact Or.inl hstop
  case isFalse => exact Or.inr rfl

variable {l : SyncLoop} {pss : PortSyncSync}

theorem recvPSSync_eq (hoperating : l.resetting = false)
    (hrunning : l.stop = none) (hrest : l.clockSlaveSyncSm.Rests) :
    recvPSSync pss l =
      machine.store (.rest sendSyncIndication) (indicate pss l) := by
  have haction : machine.program.action sendSyncIndication
      (storePSSync pss l) = indicate pss l := rfl
  have hsettled : machine.program.Settled sendSyncIndication
      (machine.program.action sendSyncIndication (storePSSync pss l)) :=
    settled_clearFlags _
  have hready : forall s, machine.ready (storePSSync pss l) s = s := by
    intro s
    change (if l.resetting = true then _ else _) = _
    rw [hoperating]
    rfl
  obtain ⟨s, hs, hcontrol⟩ := hrest.control
  have hcontrol' : machine.control (storePSSync pss l) = .rest s := hcontrol
  unfold recvPSSync
  rw [freeThen_owned hrest.owned, ← haction]
  unfold run
  cases s with
  | init => exact absurd rfl hs
  | initializing =>
      exact Embedded.run_goto 14 hcontrol' (hready _) hrunning rfl
        (by simp) hsettled
  | sendSyncIndication =>
      exact Embedded.run_reenter 14 hcontrol' (hready _) hrunning rfl hsettled

/-!
## What a call records
-/

/-- The instance globals once a structure has been recorded. -/
def recorded (pss : PortSyncSync) (l : SyncLoop) : PerPTPInstanceGlobal :=
  (recordSync pss l).perPTPInstanceGlobal

/-- The samples once a structure has been recorded. -/
def sampled (pss : PortSyncSync) (l : SyncLoop) : ClockSlaveSyncSM :=
  (recordSync pss l).clockSlaveSyncSm

/-- The division that follows a structure, if the samples show an interval. -/
def divisions (pss : PortSyncSync) (l : SyncLoop) : List Call :=
  if (sampled pss l).noInterval then
    []
  else
    [.uscalednsDiv (sampled pss l).elapsedTime (sampled pss l).elapsedLocalTime]

/-- The division that follows a structure does not return. -/
def Stuck (pss : PortSyncSync) (l : SyncLoop) : Prop :=
  (sampled pss l).noInterval = false ∧
    exists f, uscalednsDiv (sampled pss l).elapsedTime
      (sampled pss l).elapsedLocalTime = .error f

theorem instance_adjustPeriod (r : Rat) (l : SyncLoop) :
    (adjustPeriod r l).perPTPInstanceGlobal = l.perPTPInstanceGlobal ∧
      (adjustPeriod r l).calls = l.calls ∧
      (adjustPeriod r l).stop = l.stop := by
  unfold adjustPeriod
  dsimp only
  split
  · exact ⟨rfl, rfl, rfl⟩
  · split
    · exact ⟨rfl, rfl, rfl⟩
    · exact ⟨rfl, rfl, rfl⟩

theorem instance_updateSlavePeriod (l : SyncLoop) :
    (updateSlavePeriod l).perPTPInstanceGlobal = l.perPTPInstanceGlobal := by
  unfold updateSlavePeriod
  dsimp only
  split
  · rfl
  · cases uscalednsDiv _ _ with
    | error f => rfl
    | ok r => exact (instance_adjustPeriod r _).left

theorem calls_updateSlavePeriod (l : SyncLoop) :
    (updateSlavePeriod l).calls =
      l.calls ++
        (if l.clockSlaveSyncSm.noInterval then
          []
        else
          [.uscalednsDiv l.clockSlaveSyncSm.elapsedTime
            l.clockSlaveSyncSm.elapsedLocalTime]) := by
  unfold updateSlavePeriod
  dsimp only
  split
  · exact (List.append_nil _).symm
  · cases uscalednsDiv _ _ with
    | error f => rfl
    | ok r => exact (instance_adjustPeriod r _).right.left

theorem stop_updateSlavePeriod (l : SyncLoop) (hrunning : l.stop = none) :
    (updateSlavePeriod l).stop = none <->
      ¬ (l.clockSlaveSyncSm.noInterval = false ∧
        exists f, uscalednsDiv l.clockSlaveSyncSm.elapsedTime
          l.clockSlaveSyncSm.elapsedLocalTime = .error f) := by
  unfold updateSlavePeriod
  dsimp only
  by_cases hinterval : l.clockSlaveSyncSm.noInterval = true
  · simp [hinterval, hrunning]
  · rw [if_neg hinterval]
    cases hdiv : uscalednsDiv _ _ with
    | error f => simpa [SyncLoop.halt] using hinterval
    | ok r =>
        simp only [(instance_adjustPeriod r _).right.right, SyncLoop.call,
          hrunning, reduceCtorEq, exists_false, and_false, not_false_iff]

theorem rcvdPtr_updateSlavePeriod (l : SyncLoop) :
    (updateSlavePeriod l).clockSlaveSyncSm.rcvdPSSyncPtrCSS =
      l.clockSlaveSyncSm.rcvdPSSyncPtrCSS := by
  have hadjust : forall r l, (adjustPeriod r l).clockSlaveSyncSm.rcvdPSSyncPtrCSS =
      l.clockSlaveSyncSm.rcvdPSSyncPtrCSS := by
    intro r l
    unfold adjustPeriod
    dsimp only
    split
    · rfl
    · split
      · rfl
      · rfl
  unfold updateSlavePeriod
  dsimp only
  split
  · rfl
  · cases uscalednsDiv _ _ with
    | error f => rfl
    | ok r => exact hadjust r _

section Results

variable (hoperating : l.resetting = false) (hrunning : l.stop = none)
  (hrest : l.clockSlaveSyncSm.Rests)

include hoperating hrunning hrest

theorem instance_recvPSSync :
    (recvPSSync pss l).perPTPInstanceGlobal = recorded pss l := by
  have hkeeps : Keeps SyncLoop.perPTPInstanceGlobal clearFlags := fun _ => rfl
  rw [recvPSSync_eq hoperating hrunning hrest]
  change (indicate pss l).perPTPInstanceGlobal = _
  unfold indicate
  rw [hkeeps.thenDo, instance_updateSlavePeriod]
  rfl

theorem calls_recvPSSync :
    (recvPSSync pss l).calls =
      l.calls ++
        (.setRtcSyncOffset (syncOffset (recorded pss l)).1
          (syncOffset (recorded pss l)).2 :: divisions pss l) := by
  have hkeeps : Keeps SyncLoop.calls clearFlags := fun _ => rfl
  rw [recvPSSync_eq hoperating hrunning hrest]
  change (indicate pss l).calls = _
  unfold indicate
  rw [hkeeps.thenDo, calls_updateSlavePeriod]
  exact List.append_assoc _ _ _

theorem stop_recvPSSync :
    (recvPSSync pss l).stop = none <-> ¬ Stuck pss l := by
  have hkeeps : Keeps SyncLoop.stop clearFlags := fun _ => rfl
  rw [recvPSSync_eq hoperating hrunning hrest]
  change (indicate pss l).stop = none <-> _
  unfold indicate
  rw [hkeeps.thenDo]
  exact stop_updateSlavePeriod
    (updateSlaveTime (recordSync pss (storePSSync pss l))) hrunning

theorem rests_recvPSSync : (recvPSSync pss l).clockSlaveSyncSm.Rests := by
  have hkeeps : Keeps (fun l => l.clockSlaveSyncSm.rcvdPSSyncPtrCSS)
      clearFlags := fun _ => rfl
  rw [recvPSSync_eq hoperating hrunning hrest]
  refine ⟨⟨sendSyncIndication, by simp, rfl⟩, ?_⟩
  change (indicate pss l).clockSlaveSyncSm.rcvdPSSyncPtrCSS ≠ .released
  unfold indicate
  rw [hkeeps.thenDo, rcvdPtr_updateSlavePeriod]
  exact Ptr.live_ne_released pss

end Results

end ClockSlaveSyncSM

end TimeSync
end Ziggo
