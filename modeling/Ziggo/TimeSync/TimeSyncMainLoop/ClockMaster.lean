import Ziggo.TimeSync.ClockMasterLoop
import Ziggo.TimeSync.TimeSyncMainLoop.Synchronization

/-!
# What the clock master sees

The clock master works on the same globals as the machines for synchronization,
and it does not notice what lies beside them either.
-/

namespace Ziggo
namespace TimeSync

open Foundation TsnDrivers

variable {x : PerPTPInstanceGlobal} {ps : PerPortGlobalArray}
  {es : PortIndex -> MDEntityGlobal} {ts : UScaledNs}

/-!
## The messages of the clock master
-/

namespace ClockMasterSyncSendSM

open ClockMasterSyncSendSMState

def Beside (x : PerPTPInstanceGlobal) (ps : PerPortGlobalArray)
    (es : PortIndex -> MDEntityGlobal) (w w' : ClockMaster) : Prop :=
  exists l, w.syncLoop.Beside x ps es l ∧ w' = { w with syncLoop := l }

theorem Beside.refine {w w' : ClockMaster} (h : Beside x ps es w w')
    {statement : SyncLoop -> SyncLoop}
    (hstatement : Preserves (SyncLoop.Beside x ps es) statement) :
    Beside x ps es { w with syncLoop := statement w.syncLoop }
      { w' with syncLoop := statement w'.syncLoop } := by
  obtain ⟨l, hl, rfl⟩ := h
  exact ⟨_, hstatement _ _ hl, rfl⟩

theorem beside_schedule : Preserves (Beside x ps es) (schedule ts) := by
  rintro w _ ⟨l, hl, rfl⟩
  exact ⟨l, hl, rfl⟩

theorem beside_halt (f : Fault) : Preserves (Beside x ps es) (halt f) :=
  fun _ _ h => h.refine (SyncLoop.beside_halt f)

theorem beside_storePSSync (pss : PortSyncSync) :
    Preserves (Beside x ps es) (storePSSync pss) := by
  rintro w _ ⟨l, hl, rfl⟩
  exact ⟨l, hl, rfl⟩

theorem beside_txPSSyncCMSS (pss : PortSyncSync) :
    Preserves (Beside x ps es) (txPSSyncCMSS ts pss) :=
  fun _ _ h => h.refine (SiteSyncSyncSM.beside_recvPSSync pss)

/-- The end of the action, once its structure has been built. -/
theorem beside_transmit (pss : PortSyncSync) :
    Preserves (Beside x ps es) fun w =>
      if (txPSSyncCMSS ts pss (storePSSync pss w)).syncLoop.stop ≠ none then
        txPSSyncCMSS ts pss (storePSSync pss w)
      else
        schedule ts (txPSSyncCMSS ts pss (storePSSync pss w)) := by
  intro w w' h
  have hpassed : Beside x ps es (txPSSyncCMSS ts pss (storePSSync pss w))
      (txPSSyncCMSS ts pss (storePSSync pss w')) :=
    beside_txPSSyncCMSS pss _ _ (beside_storePSSync pss w w' h)
  refine ite_related ?_ hpassed (beside_schedule _ _ hpassed)
  obtain ⟨l, hl, heq⟩ := hpassed
  rw [heq, hl.stop]

theorem beside_sendSyncIndicationAction :
    Preserves (Beside x ps es) (sendSyncIndicationAction ts) := by
  intro w w' h
  have hsame : w'.clockMasterSyncSendSm = w.clockMasterSyncSendSm ∧
      w'.clockMasterGlobal = w.clockMasterGlobal ∧
      w'.currentTimestamp = w.currentTimestamp ∧
      w'.syncLoop.perPTPInstanceGlobal.thisClock =
        w.syncLoop.perPTPInstanceGlobal.thisClock := by
    obtain ⟨l, ⟨s, rfl⟩, rfl⟩ := h
    exact ⟨rfl, rfl, rfl, rfl⟩
  obtain ⟨hsm, hglobal, hreadings, hclock⟩ := hsame
  unfold sendSyncIndicationAction
  rw [hsm, hglobal, hreadings, hclock]
  split
  · exact beside_halt _ w w' h
  · exact beside_transmit _ w w' h

theorem simulates_beside :
    Program.Simulates (Beside x ps es) (machine ts).program
      (machine ts).program where
  action s w w' h := by
    cases s with
    | init => exact h
    | initializing => exact beside_schedule w w' h
    | sendSyncIndication => exact beside_sendSyncIndicationAction w w' h
  transition := by
    rintro s w _ ⟨l, hl, rfl⟩
    cases s <;> rfl
  fault := by
    rintro w _ ⟨l, hl, rfl⟩
    exact hl.stop
  halt f w w' h := beside_halt f w w' h

theorem beside_run : Preserves (Beside x ps es) (run ts) := by
  refine Embedded.preserves_run simulates_beside ?_ ?_ ?_ passes
  · rintro w _ ⟨l, hl, rfl⟩
    rfl
  · rintro c w _ ⟨l, hl, rfl⟩
    exact ⟨l, hl, rfl⟩
  · rintro s w _ ⟨_, ⟨slack, rfl⟩, rfl⟩
    rfl

theorem beside_init : Preserves (Beside x ps es) initClockMasterSyncSendSm := by
  refine beside_run.comp ?_
  rintro w _ ⟨l, hl, rfl⟩
  exact ⟨l, hl, rfl⟩

end ClockMasterSyncSendSM

/-!
## The time of the clock source
-/

namespace ClockMasterSyncReceiveSM

open ClockMasterSyncReceiveSMState

/-- The variables with other values of what lies beside the machine. -/
def beside (x : PerPTPInstanceGlobal) (sm : ClockMasterSyncReceiveSM) :
    ClockMasterSyncReceiveSM :=
  { sm with perPTPInstanceGlobal := besideSync x sm.perPTPInstanceGlobal }

def Beside (x : PerPTPInstanceGlobal) (v w : ClockMasterSyncReceiveSM) : Prop :=
  w = v.beside x

theorem beside_action (s : ClockMasterSyncReceiveSMState)
    (sm : ClockMasterSyncReceiveSM) :
    Outcomes (Beside x) (action s sm) (action s (sm.beside x)) := by
  cases s with
  | init => exact .ok rfl
  | initializing => exact .ok rfl
  | receiveSourceTime => exact .bind_same fun _ => .ok rfl

theorem simulates_beside : Program.Simulates (Beside x) program program where
  action := by
    rintro s v _ rfl
    exact attempt_related (beside_action s v) fun f => rfl
  transition := by
    rintro s v _ rfl
    cases s <;> rfl
  fault := by
    rintro v _ rfl
    rfl
  halt := by
    rintro f v _ rfl
    rfl

end ClockMasterSyncReceiveSM

namespace ClockMasterSyncReceiveMachine

open ClockMasterSyncReceiveSM

variable {m n : ClockMasterSyncReceiveMachine}

theorem beside_run (h : m.Related (Beside x) n) :
    m.run.Related (Beside x) n.run := by
  apply simulates_beside.run
  obtain ⟨hstate, hlast, hvars⟩ := h
  refine ⟨?_, hlast, hvars⟩
  unfold ready
  rw [hstate, hvars]
  rfl

theorem beside_init {v w : ClockMasterSyncReceiveSM} (h : Beside x v w) :
    (initClockMasterSyncReceiveSm v).Related (Beside x)
      (initClockMasterSyncReceiveSm w) := by
  obtain rfl := h
  exact beside_run ⟨rfl, rfl, rfl⟩

theorem beside_recvSourceTime (h : m.Related (Beside x) n)
    (invoke : ClockSourceTimeInvoke) :
    (m.recvSourceTime invoke).Related (Beside x) (n.recvSourceTime invoke) := by
  have hstore : Outcomes (Beside x) (m.vars.storeSourceTime invoke)
      (n.vars.storeSourceTime invoke) := by
    rw [h.vars]
    exact .bind_same fun _ => .ok rfl
  unfold recvSourceTime
  cases hv : m.vars.storeSourceTime invoke with
  | error f =>
      rw [hv] at hstore
      rw [hstore.error_right]
      exact ⟨h.state, h.lastState, congrArg (halt f) h.vars⟩
  | ok v =>
      rw [hv] at hstore
      obtain ⟨w, hw, hR⟩ := hstore.ok_right
      rw [hw]
      exact beside_run ⟨h.state, h.lastState, hR⟩

end ClockMasterSyncReceiveMachine

/-!
## The loop
-/

/-- The variables differ in the globals only, which a call hands over anew. -/
def ClockMasterSyncReceiveSM.SameOwn (v w : ClockMasterSyncReceiveSM) : Prop :=
  exists g, w = { v with perPTPInstanceGlobal := g }

namespace ClockMasterLoop

/-- The loops differ in what lies beside their machines. -/
structure Beside (x : PerPTPInstanceGlobal) (ps : PerPortGlobalArray)
    (es : PortIndex -> MDEntityGlobal) (w w' : ClockMasterLoop) : Prop where
  clockMasterSyncReceiveSm : w.clockMasterSyncReceiveSm.Related
    ClockMasterSyncReceiveSM.SameOwn w'.clockMasterSyncReceiveSm
  clockMaster :
    ClockMasterSyncSendSM.Beside x ps es w.clockMaster w'.clockMaster

section Rules

variable {w w' : ClockMasterLoop}

theorem Beside.syncLoop (h : w.Beside x ps es w') :
    w.syncLoop.Beside x ps es w'.syncLoop := by
  obtain ⟨l, hl, heq⟩ := h.clockMaster
  unfold ClockMasterLoop.syncLoop
  rw [heq]
  exact hl

theorem Beside.thenDo (h : w.Beside x ps es w')
    {statement : ClockMasterLoop -> ClockMasterLoop}
    (hstatement : Preserves (Beside x ps es) statement) :
    (w.thenDo statement).Beside x ps es (w'.thenDo statement) := by
  unfold ClockMasterLoop.thenDo
  rw [h.syncLoop.stop]
  split
  · exact h
  · exact hstatement w w' h

theorem beside_withSyncLoop {statement : SyncLoop -> SyncLoop}
    (hstatement : Preserves (SyncLoop.Beside x ps es) statement) :
    Preserves (Beside x ps es)
      fun w => w.withSyncLoop (statement w.syncLoop) := fun _ _ h =>
  ⟨h.clockMasterSyncReceiveSm, h.clockMaster.refine hstatement⟩

theorem Beside.loadSyncReceive (h : w.Beside x ps es w') :
    w.loadSyncReceive.Related (ClockMasterSyncReceiveSM.Beside x)
      w'.loadSyncReceive := by
  obtain ⟨hstate, hlast, g, hvars⟩ := h.clockMasterSyncReceiveSm
  obtain ⟨s, hs⟩ := h.syncLoop
  obtain ⟨l, _, heq⟩ := h.clockMaster
  refine ⟨hstate, hlast, ?_⟩
  unfold ClockMasterLoop.loadSyncReceive
  rw [hvars, hs, heq]
  rfl

theorem Beside.storeSyncReceive (h : w.Beside x ps es w')
    {m n : ClockMasterSyncReceiveMachine}
    (hm : m.Related (ClockMasterSyncReceiveSM.Beside x) n) :
    (storeSyncReceive m w).Beside x ps es (storeSyncReceive n w') := by
  obtain ⟨hstate, hlast, hvars⟩ := hm
  obtain ⟨l, ⟨s, hs⟩, heq⟩ := h.clockMaster
  refine ⟨⟨hstate, hlast, _, hvars⟩, ?_⟩
  unfold ClockMasterLoop.storeSyncReceive ClockMasterLoop.syncLoop
  rw [hvars, heq, hs]
  exact ⟨_, ⟨s, rfl⟩, rfl⟩

end Rules

theorem beside_initSyncReceive : Preserves (Beside x ps es) initSyncReceive :=
  fun _ _ h => h.storeSyncReceive
    (ClockMasterSyncReceiveMachine.beside_init h.loadSyncReceive.vars)

theorem beside_initSyncSend : Preserves (Beside x ps es) initSyncSend :=
  fun _ _ h => ⟨h.clockMasterSyncReceiveSm,
    ClockMasterSyncSendSM.beside_init _ _ h.clockMaster⟩

theorem beside_step (e : Event) : Preserves (Beside x ps es) (step · e) := by
  refine fun w w' h => Beside.thenDo h fun w w' h => ?_
  cases e with
  | tick reading =>
      have hreceived : (w.recvSourceTime reading.timestamp).Beside x ps es
          (w'.recvSourceTime reading.timestamp) :=
        h.storeSyncReceive
          (ClockMasterSyncReceiveMachine.beside_recvSourceTime
            h.loadSyncReceive _)
      exact hreceived.thenDo fun w w' h => ⟨h.clockMasterSyncReceiveSm,
        ClockMasterSyncSendSM.beside_run _ _ h.clockMaster⟩
  | sync e he => exact beside_withSyncLoop (SyncLoop.beside_step e) w w' h

end ClockMasterLoop

end TimeSync
end Ziggo
