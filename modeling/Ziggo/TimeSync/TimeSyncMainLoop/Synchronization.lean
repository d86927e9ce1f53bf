import Ziggo.Foundation.Simulation
import Ziggo.TimeSync.SyncLoop

/-!
# What the machines for synchronization see

The machines that handle `Sync` and `Follow_Up` messages read and write a part of
the globals.  Other values of the rest make no difference to their runs.  This
includes `syncReceiptTimeoutTimeInterval`, which the machines for `Announce`
messages write as well: it is read only where it has just been set.
-/

namespace Ziggo
namespace TimeSync

open Foundation TsnDrivers

/-- The globals `x` of an instance with those from `g` that the machines see. -/
def besideSync (x g : PerPTPInstanceGlobal) : PerPTPInstanceGlobal :=
  { x with
    BEGIN := g.BEGIN
    syncReceiptTime := g.syncReceiptTime
    syncReceiptLocalTime := g.syncReceiptLocalTime
    instanceEnable := g.instanceEnable
    gmPresent := g.gmPresent
    gmTimeBaseIndicator := g.gmTimeBaseIndicator
    lastGmPhaseChange := g.lastGmPhaseChange
    lastGmFreqChange := g.lastGmFreqChange
    selectedState := g.selectedState
    thisClock := g.thisClock
    parentLogSyncInterval := g.parentLogSyncInterval
    syncReceiptTimeoutTime := g.syncReceiptTimeoutTime }

/-- The globals `x` of a port with those from `port` that the machines see. -/
def besideSyncPort (x : PerPortGlobal) (interval : UScaledNs)
    (port : PerPortGlobal) : PerPortGlobal :=
  { x with
    syncReceiptTimeoutTimeInterval := interval
    asCapable := port.asCapable
    asymmetryMeasurementMode := port.asymmetryMeasurementMode
    currentLogSyncInterval := port.currentLogSyncInterval
    syncInterval := port.syncInterval
    meanLinkDelay := port.meanLinkDelay
    portOper := port.portOper
    ptpPortEnabled := port.ptpPortEnabled
    thisPort := port.thisPort
    syncLocked := port.syncLocked
    syncSlowDown := port.syncSlowDown
    oldSyncInterval := port.oldSyncInterval
    syncReceiptTimeout := port.syncReceiptTimeout }

/-- The globals `x` of an entity with the sequence number of its machine. -/
def besideSyncEntity (x g : MDEntityGlobal) : MDEntityGlobal :=
  { x with syncSequenceId := g.syncSequenceId }

/-!
## The sender of synchronization messages
-/

namespace MDSyncSendSM

open MDSyncSendSMState

variable {x : PerPTPInstanceGlobal} {p : PerPortGlobal} {interval : UScaledNs}
  {e : MDEntityGlobal}

/-- The variables with other values of what lies beside the machine. -/
def beside (x : PerPTPInstanceGlobal) (p : PerPortGlobal) (interval : UScaledNs)
    (e : MDEntityGlobal) (sm : MDSyncSendSM) : MDSyncSendSM :=
  { sm with
    perPTPInstanceGlobal := besideSync x sm.perPTPInstanceGlobal
    perPortGlobal := besideSyncPort p interval sm.perPortGlobal
    mdEntityGlobal := besideSyncEntity e sm.mdEntityGlobal }

def Beside (x : PerPTPInstanceGlobal) (p : PerPortGlobal) (interval : UScaledNs)
    (e : MDEntityGlobal) (v w : MDSyncSendSM) : Prop :=
  w = v.beside x p interval e

theorem beside_txSync (sm : MDSyncSendSM) :
    Outcomes (Beside x p interval e) sm.txSync (sm.beside x p interval e).txSync :=
  .bind_same fun _ => .ok rfl

theorem beside_setFollowUp (sm : MDSyncSendSM) :
    Outcomes (fun followUp followUp' => followUp' = followUp) sm.setFollowUp
      (sm.beside x p interval e).setFollowUp :=
  .bind_same fun _ => .bind_same fun _ => .ok rfl

theorem beside_txFollowUp (sm : MDSyncSendSM) :
    Outcomes (Beside x p interval e) sm.txFollowUp
      (sm.beside x p interval e).txFollowUp :=
  .bind_same fun _ => .ok rfl

theorem beside_action (s : MDSyncSendSMState) (sm : MDSyncSendSM) :
    Outcomes (Beside x p interval e) (action s sm)
      (action s (sm.beside x p interval e)) := by
  cases s with
  | init => exact .ok rfl
  | initializing => exact .ok rfl
  | sendSync =>
      refine .bind_same fun _ => .bind_same fun _ => .bind (beside_txSync _) ?_
      rintro v _ rfl
      exact .ok rfl
  | sendFollowUp =>
      refine .bind_same fun _ => .bind (beside_setFollowUp _) ?_
      rintro followUp _ rfl
      exact beside_txFollowUp _

theorem simulates_beside :
    Program.Simulates (Beside x p interval e) behaviour.program
      behaviour.program := by
  refine Behaviour.simulates ?_ ?_ ?_ ?_
  · rintro s v _ rfl
    exact beside_action s v
  · rintro s v _ rfl
    cases s <;> rfl
  · rintro v _ rfl
    rfl
  · rintro f v _ rfl
    rfl

end MDSyncSendSM

namespace MDSyncSendMachine

open MDSyncSendSM

variable {x : PerPTPInstanceGlobal} {p : PerPortGlobal} {interval : UScaledNs}
  {e : MDEntityGlobal} {m n : MDSyncSendMachine}

theorem beside_run (h : m.Related (Beside x p interval e) n) :
    m.run.Related (Beside x p interval e) n.run := by
  apply simulates_beside.run
  obtain ⟨hstate, hlast, hvars⟩ := h
  refine ⟨?_, hlast, hvars⟩
  unfold ready
  rw [hstate, hvars]
  rfl

theorem beside_init {v w : MDSyncSendSM} (h : Beside x p interval e v w) :
    (initMdSyncSendSm v).Related (Beside x p interval e)
      (initMdSyncSendSm w) := by
  obtain rfl := h
  exact beside_run ⟨rfl, rfl, rfl⟩

theorem beside_runStored (h : m.Related (Beside x p interval e) n)
    {stored stored' : Except Fault MDSyncSendSM}
    (hstored : Outcomes (Beside x p interval e) stored stored') :
    (m.runStored stored).Related (Beside x p interval e)
      (n.runStored stored') := by
  cases stored with
  | error f =>
      rw [hstored.error_right]
      exact ⟨h.state, h.lastState, congrArg (halt f) h.vars⟩
  | ok v =>
      obtain ⟨w, hw, hR⟩ := hstored.ok_right
      rw [hw]
      exact beside_run ⟨h.state, h.lastState, hR⟩

theorem beside_storeMDSync (v : MDSyncSendSM) (mdSync : MDSyncSend) :
    Outcomes (Beside x p interval e) (v.storeMDSync mdSync)
      ((v.beside x p interval e).storeMDSync mdSync) :=
  .bind_same fun _ => .ok rfl

theorem beside_storeTimestamp (v : MDSyncSendSM) (tsuTimestamp : TSUTimestamp) :
    Outcomes (Beside x p interval e) (v.storeTimestamp tsuTimestamp)
      ((v.beside x p interval e).storeTimestamp tsuTimestamp) :=
  .bind_same fun _ => .ok rfl

theorem beside_step (h : m.Related (Beside x p interval e) n) (event : Event) :
    (m.step event).Related (Beside x p interval e) (n.step event) := by
  have hstop : n.vars.process.stop = m.vars.process.stop := by
    rw [h.vars]
    rfl
  unfold step
  rw [hstop]
  split
  · exact h
  · cases event with
    | recvMDSync mdSync =>
        have hstored : Outcomes (Beside x p interval e)
            (m.vars.storeMDSync mdSync)
            ((m.vars.beside x p interval e).storeMDSync mdSync) :=
          beside_storeMDSync m.vars mdSync
        rw [← show n.vars = _ from h.vars] at hstored
        exact beside_runStored h hstored
    | txts tsuTimestamp =>
        have hstored : Outcomes (Beside x p interval e)
            (m.vars.storeTimestamp tsuTimestamp)
            ((m.vars.beside x p interval e).storeTimestamp tsuTimestamp) :=
          beside_storeTimestamp m.vars tsuTimestamp
        rw [← show n.vars = _ from h.vars] at hstored
        have hmatches : n.vars.timestampMatches tsuTimestamp =
            m.vars.timestampMatches tsuTimestamp := by
          rw [h.vars]
          rfl
        change (m.txts tsuTimestamp).Related _ (n.txts tsuTimestamp)
        unfold txts
        rw [h.state, hmatches]
        split
        · exact h
        · split
          · exact h
          · exact beside_runStored h hstored

end MDSyncSendMachine

/-!
## The loop
-/

/-- What the machines write, or keep from a call, and do not read again. -/
structure SyncSlack where
  intervals : PortIndex -> UScaledNs
  perPTPInstanceGlobal : PortIndex -> PerPTPInstanceGlobal
  perPortGlobal : PerPortGlobalArray

namespace SyncLoop

/-- The variables of the sender of port `i` as the loop keeps them. -/
def sendBeside (s : SyncSlack) (es : PortIndex -> MDEntityGlobal)
    (i : PortIndex) (m : MDSyncSendMachine) : MDSyncSendMachine :=
  { m with
    vars :=
      { m.vars with
        perPTPInstanceGlobal := s.perPTPInstanceGlobal i
        perPortGlobal := s.perPortGlobal i
        mdEntityGlobal := besideSyncEntity (es i) m.vars.mdEntityGlobal } }

/-- The variables with other values of what lies beside the machines. -/
def beside (x : PerPTPInstanceGlobal) (ps : PerPortGlobalArray)
    (es : PortIndex -> MDEntityGlobal) (s : SyncSlack) (l : SyncLoop) :
    SyncLoop :=
  { l with
    perPTPInstanceGlobal := besideSync x l.perPTPInstanceGlobal
    perPortGlobal := fun i =>
      besideSyncPort (ps i) (s.intervals i) (l.perPortGlobal i)
    mdSyncSendSms := fun i => sendBeside s es i (l.mdSyncSendSms i) }

/-- The loops differ in what lies beside their machines. -/
def Beside (x : PerPTPInstanceGlobal) (ps : PerPortGlobalArray)
    (es : PortIndex -> MDEntityGlobal) (l l' : SyncLoop) : Prop :=
  exists s, l' = l.beside x ps es s

section Rules

variable {x : PerPTPInstanceGlobal} {ps : PerPortGlobalArray}
  {es : PortIndex -> MDEntityGlobal} {s : SyncSlack} {l l' : SyncLoop}

theorem Beside.stop (h : l.Beside x ps es l') : l'.stop = l.stop := by
  obtain ⟨s, rfl⟩ := h
  rfl

theorem Beside.thenDo (h : l.Beside x ps es l')
    {statement : SyncLoop -> SyncLoop}
    (hstatement : Preserves (Beside x ps es) statement) :
    (l.thenDo statement).Beside x ps es (l'.thenDo statement) := by
  unfold SyncLoop.thenDo
  rw [h.stop]
  split
  · exact h
  · exact hstatement l l' h

theorem beside_halt (f : Fault) : Preserves (Beside x ps es) (halt f) := by
  rintro l _ ⟨s, rfl⟩
  exact ⟨s, rfl⟩

theorem Beside.withObject {Object : Type} (h : l.Beside x ps es l')
    (p : Ptr Object) {statement : Object -> SyncLoop -> SyncLoop}
    (hstatement : forall object, Preserves (Beside x ps es) (statement object)) :
    (l.withObject p statement).Beside x ps es (l'.withObject p statement) := by
  unfold SyncLoop.withObject
  split
  · exact hstatement _ l l' h
  · exact beside_halt _ l l' h

theorem Beside.freeThen {Object : Type} (h : l.Beside x ps es l')
    (p : Ptr Object) {statement : SyncLoop -> SyncLoop}
    (hstatement : Preserves (Beside x ps es) statement) :
    (l.freeThen p statement).Beside x ps es (l'.freeThen p statement) := by
  unfold SyncLoop.freeThen
  split
  · exact hstatement l l' h
  · exact beside_halt _ l l' h

theorem Beside.foldl {α : Type} {statement : α -> SyncLoop -> SyncLoop}
    (hstatement : forall a, Preserves (Beside x ps es) (statement a))
    (as : List α) (h : l.Beside x ps es l') :
    (as.foldl (fun l a => l.thenDo (statement a)) l).Beside x ps es
      (as.foldl (fun l a => l.thenDo (statement a)) l') := by
  induction as generalizing l l' with
  | nil => exact h
  | cons a as ih => exact ih (h.thenDo (hstatement a))

theorem beside_call (c : Call) : Preserves (Beside x ps es) (call c) := by
  rintro l _ ⟨s, rfl⟩
  exact ⟨s, rfl⟩

theorem assignPort_beside (i : PortIndex) (port : PerPortGlobal) :
    PortSyncSyncSendSM.assignPort i
        (besideSyncPort (ps i) (s.intervals i) port) (l.beside x ps es s) =
      (PortSyncSyncSendSM.assignPort i port l).beside x ps es s := by
  unfold PortSyncSyncSendSM.assignPort beside
  dsimp only
  congr 1
  funext j
  exact (Function.apply_update
    (fun j => besideSyncPort (ps j) (s.intervals j)) l.perPortGlobal i port j).symm

end Rules

end SyncLoop

/-!
### The clock slave
-/

namespace ClockSlaveSyncSM

open SyncLoop ClockSlaveSyncSMState

variable {x : PerPTPInstanceGlobal} {ps : PerPortGlobalArray}
  {es : PortIndex -> MDEntityGlobal}

theorem beside_adjustPeriod (r : Rat) :
    Preserves (Beside x ps es) (adjustPeriod r) := by
  rintro l _ ⟨s, rfl⟩
  refine ⟨s, ?_⟩
  unfold adjustPeriod
  dsimp only
  rw [apply_ite (SyncLoop.beside x ps es s),
    apply_ite (SyncLoop.beside x ps es s)]
  rfl

theorem beside_updateSlavePeriod :
    Preserves (Beside x ps es) updateSlavePeriod := by
  intro l l' h
  have hsm : l'.clockSlaveSyncSm = l.clockSlaveSyncSm := by
    obtain ⟨s, rfl⟩ := h
    rfl
  unfold updateSlavePeriod
  rw [hsm]
  dsimp only
  split
  · exact h
  · have hcall := beside_call (.uscalednsDiv l.clockSlaveSyncSm.elapsedTime
      l.clockSlaveSyncSm.elapsedLocalTime) l l' h
    split
    · exact beside_halt _ _ _ hcall
    · exact beside_adjustPeriod _ _ _ hcall

theorem beside_updateSlaveTime : Preserves (Beside x ps es) updateSlaveTime := by
  rintro l _ ⟨s, rfl⟩
  exact ⟨s, rfl⟩

theorem beside_recordSync (pss : PortSyncSync) :
    Preserves (Beside x ps es) (recordSync pss) := by
  rintro l _ ⟨s, rfl⟩
  refine ⟨s, ?_⟩
  have hdelay : meanLinkDelayOf (l.beside x ps es s) pss.localPortNumber =
      meanLinkDelayOf l pss.localPortNumber := by
    unfold meanLinkDelayOf
    rfl
  unfold recordSync
  rw [hdelay]
  rfl

theorem beside_clearFlags : Preserves (Beside x ps es) clearFlags := by
  rintro l _ ⟨s, rfl⟩
  exact ⟨s, rfl⟩

theorem beside_sendSyncIndicationAction :
    Preserves (Beside x ps es) sendSyncIndicationAction := by
  intro l l' h
  have hsm : l'.clockSlaveSyncSm = l.clockSlaveSyncSm := by
    obtain ⟨s, rfl⟩ := h
    rfl
  unfold sendSyncIndicationAction
  rw [hsm]
  refine Beside.thenDo ?_ beside_clearFlags
  split
  · exact h.withObject _ fun pss => beside_updateSlavePeriod.comp
      (beside_updateSlaveTime.comp (beside_recordSync pss))
  · exact h

theorem simulates_beside :
    Program.Simulates (Beside x ps es) machine.program machine.program where
  action s l l' h := by
    cases s with
    | init => exact h
    | initializing => exact beside_clearFlags l l' h
    | sendSyncIndication => exact beside_sendSyncIndicationAction l l' h
  transition := by
    rintro s l _ ⟨slack, rfl⟩
    cases s <;> rfl
  fault _ _ h := h.stop
  halt f l l' h := beside_halt f l l' h

theorem beside_run : Preserves (Beside x ps es) run := by
  refine Embedded.preserves_run simulates_beside ?_ ?_ ?_ passes
  · rintro l _ ⟨s, rfl⟩
    rfl
  · rintro c l _ ⟨s, rfl⟩
    exact ⟨s, rfl⟩
  · rintro s l _ ⟨slack, rfl⟩
    rfl

theorem beside_recvPSSync (pss : PortSyncSync) :
    Preserves (Beside x ps es) (recvPSSync pss) := by
  rintro l _ ⟨s, rfl⟩
  have h : l.Beside x ps es (l.beside x ps es s) := ⟨s, rfl⟩
  refine h.freeThen _ (beside_run.comp ?_)
  rintro l _ ⟨s, rfl⟩
  exact ⟨s, rfl⟩

theorem beside_init : Preserves (Beside x ps es) initClockSlaveSyncSm := by
  refine beside_run.comp ?_
  rintro l _ ⟨s, rfl⟩
  exact ⟨s, rfl⟩

end ClockSlaveSyncSM

/-!
### The senders of the ports
-/

namespace PortSyncSyncSendSM

open SyncLoop PortSyncSyncSendSMState

variable {x : PerPTPInstanceGlobal} {ps : PerPortGlobalArray}
  {es : PortIndex -> MDEntityGlobal} {l l' : SyncLoop} {i : PortIndex}
  {ts : UScaledNs}

theorem portSyncSyncSendSms_beside (h : l.Beside x ps es l') :
    l'.portSyncSyncSendSms = l.portSyncSyncSendSms := by
  obtain ⟨s, rfl⟩ := h
  rfl

theorem beside_assign (sm : PortSyncSyncSendSM) :
    Preserves (Beside x ps es) (assign i sm) := by
  rintro l _ ⟨s, rfl⟩
  exact ⟨s, rfl⟩

theorem beside_lockSync : Preserves (Beside x ps es) (lockSync i) := by
  rintro l _ ⟨s, rfl⟩
  exact ⟨s, assignPort_beside i { l.perPortGlobal i with syncLocked := true }⟩

theorem beside_clearSlowDown : Preserves (Beside x ps es) (clearSlowDown i) := by
  rintro l _ ⟨s, rfl⟩
  exact ⟨s, assignPort_beside i { l.perPortGlobal i with syncSlowDown := false }⟩

theorem beside_setSyncReceiptTimeoutTime (time : UScaledNs) :
    Preserves (Beside x ps es) (setSyncReceiptTimeoutTime time) := by
  rintro l _ ⟨s, rfl⟩
  exact ⟨s, rfl⟩

theorem beside_loadMDSyncSend (s : SyncSlack) (l : SyncLoop) (i : PortIndex) :
    (loadMDSyncSend l i).Related
      (MDSyncSendSM.Beside x (ps i) (s.intervals i) (es i))
      (loadMDSyncSend (l.beside x ps es s) i) :=
  ⟨rfl, rfl, rfl⟩

/-- The globals that the machine has been called with stay in its variables. -/
theorem beside_storeMDSyncSend (h : l.Beside x ps es l') {interval : UScaledNs}
    {m n : MDSyncSendMachine}
    (hm : m.Related (MDSyncSendSM.Beside x (ps i) interval (es i)) n) :
    (storeMDSyncSend i m l).Beside x ps es (storeMDSyncSend i n l') := by
  obtain ⟨s, rfl⟩ := h
  obtain ⟨hstate, hlast, hvars⟩ := hm
  refine ⟨{ s with
    perPTPInstanceGlobal :=
      Function.update s.perPTPInstanceGlobal i n.vars.perPTPInstanceGlobal
    perPortGlobal :=
      Function.update s.perPortGlobal i n.vars.perPortGlobal }, ?_⟩
  have hstop : n.vars.process.stop = m.vars.process.stop := by
    rw [hvars]
    rfl
  have hsms : Function.update (l.beside x ps es s).mdSyncSendSms i n =
      fun j => sendBeside
        { s with
          perPTPInstanceGlobal :=
            Function.update s.perPTPInstanceGlobal i n.vars.perPTPInstanceGlobal
          perPortGlobal :=
            Function.update s.perPortGlobal i n.vars.perPortGlobal } es j
        (Function.update l.mdSyncSendSms i m j) := by
    funext j
    by_cases hj : j = i
    · subst hj
      unfold sendBeside
      simp only [Function.update_self]
      obtain ⟨state, lastState, vars⟩ := n
      obtain rfl : state = m.state := hstate
      obtain rfl : lastState = m.lastState := hlast
      obtain rfl : vars = _ := hvars
      rfl
    · unfold sendBeside
      simp only [Function.update_of_ne hj]
      rfl
  unfold storeMDSyncSend
  rw [hsms, hstop]
  rfl

theorem beside_txMDSync (mdSync : MDSyncSend) :
    Preserves (Beside x ps es) (txMDSync i mdSync) := by
  rintro l _ ⟨s, rfl⟩
  exact beside_storeMDSyncSend (beside_call _ l _ ⟨s, rfl⟩)
    (MDSyncSendMachine.beside_step (beside_loadMDSyncSend s l i) _)

theorem beside_takePSSync (pss : PortSyncSync) :
    Preserves (Beside x ps es) (takePSSync i pss) := by
  intro l l' h
  unfold takePSSync
  rw [portSyncSyncSendSms_beside h]
  exact beside_lockSync _ _
    (beside_assign _ _ _ (beside_setSyncReceiptTimeoutTime _ l l' h))

theorem beside_transmitMDSync : Preserves (Beside x ps es) (transmitMDSync i ts) := by
  intro l l' h
  unfold transmitMDSync
  rw [portSyncSyncSendSms_beside h]
  refine h.freeThen _ ?_
  rintro l _ ⟨s, rfl⟩
  exact beside_txMDSync _ _ _ (beside_assign _ _ _ ⟨s, rfl⟩)

theorem beside_chooseInterval : Preserves (Beside x ps es) (chooseInterval i) := by
  rintro l _ ⟨s, rfl⟩
  have h : l.Beside x ps es (l.beside x ps es s) := ⟨s, rfl⟩
  unfold chooseInterval
  dsimp only
  refine ite_related Iff.rfl (ite_related Iff.rfl ?_ ?_) ?_
  · exact beside_clearSlowDown _ _ (beside_assign _ _ _ h)
  · exact beside_assign _ _ _ h
  · exact beside_assign _ _ _ h

theorem beside_sendMDSyncAction :
    Preserves (Beside x ps es) (sendMDSyncAction i ts) := by
  intro l l' h
  unfold sendMDSyncAction
  dsimp only
  rw [portSyncSyncSendSms_beside h]
  refine Beside.thenDo (Beside.thenDo ?_ beside_transmitMDSync)
    beside_chooseInterval
  split
  · exact h.withObject _ beside_takePSSync
  · exact h

theorem simulates_beside :
    Program.Simulates (Beside x ps es) (machine i ts).program
      (machine i ts).program where
  action s l l' h := by
    cases s with
    | init => exact h
    | transmitInit =>
        obtain ⟨slack, rfl⟩ := h
        exact beside_clearSlowDown _ _ (beside_assign _ _ _ ⟨slack, rfl⟩)
    | syncReceiptTimeout =>
        obtain ⟨slack, rfl⟩ := h
        exact beside_assign _ _ _ ⟨slack, rfl⟩
    | sendMDSync => exact beside_sendMDSyncAction l l' h
  transition := by
    rintro s l _ ⟨slack, rfl⟩
    cases s <;> rfl
  fault _ _ h := h.stop
  halt f l l' h := beside_halt f l l' h

theorem beside_run : Preserves (Beside x ps es) (run i ts) := by
  refine Embedded.preserves_run simulates_beside ?_ ?_ ?_ passes
  · rintro l _ ⟨s, rfl⟩
    rfl
  · rintro c l _ ⟨s, rfl⟩
    exact ⟨s, rfl⟩
  · rintro s l _ ⟨slack, rfl⟩
    rfl

theorem beside_recvPSSync (pss : PortSyncSync) :
    Preserves (Beside x ps es) (recvPSSync i ts pss) := by
  intro l l' h
  unfold recvPSSync
  rw [portSyncSyncSendSms_beside h]
  refine h.freeThen _ (beside_run.comp ?_)
  rintro l _ ⟨s, rfl⟩
  exact ⟨s, rfl⟩

theorem beside_init : Preserves (Beside x ps es) (initPortSyncSyncSendSm i) := by
  refine beside_run.comp ?_
  rintro l _ ⟨s, rfl⟩
  exact ⟨s, rfl⟩

end PortSyncSyncSendSM

/-!
### The site
-/

namespace SiteSyncSyncSM

open SyncLoop SiteSyncSyncSMState

variable {x : PerPTPInstanceGlobal} {ps : PerPortGlobalArray}
  {es : PortIndex -> MDEntityGlobal} {l l' : SyncLoop} {ts : UScaledNs}

theorem siteSyncSyncSm_beside (h : l.Beside x ps es l') :
    l'.siteSyncSyncSm = l.siteSyncSyncSm := by
  obtain ⟨s, rfl⟩ := h
  rfl

theorem beside_txPSSync (pss : PortSyncSync) :
    Preserves (Beside x ps es) (txPSSync ts pss) := fun l l' h =>
  Beside.foldl (fun _ => PortSyncSyncSendSM.beside_recvPSSync pss) _
    (ClockSlaveSyncSM.beside_recvPSSync pss l l' h)

theorem beside_clearFlag : Preserves (Beside x ps es) clearFlag := by
  rintro l _ ⟨s, rfl⟩
  exact ⟨s, rfl⟩

theorem beside_setPSSyncSend (pss : PortSyncSync) :
    Preserves (Beside x ps es) (setPSSyncSend pss) := by
  rintro l _ ⟨s, rfl⟩
  exact ⟨s, rfl⟩

theorem beside_setParentLogSyncInterval (interval : Int8) :
    Preserves (Beside x ps es) (setParentLogSyncInterval interval) := by
  rintro l _ ⟨s, rfl⟩
  exact ⟨s, rfl⟩

theorem beside_receivingSyncAction :
    Preserves (Beside x ps es) (receivingSyncAction ts) := by
  intro l l' h
  unfold receivingSyncAction
  rw [siteSyncSyncSm_beside h]
  refine Beside.freeThen (beside_clearFlag l l' h) _ fun l l' h => ?_
  rw [siteSyncSyncSm_beside h]
  refine h.withObject _ fun pss l l' h => Beside.thenDo ?_
    (beside_setParentLogSyncInterval pss.logMessageInterval)
  exact beside_txPSSync pss _ _ (beside_setPSSyncSend pss l l' h)

theorem simulates_beside :
    Program.Simulates (Beside x ps es) (machine ts).program
      (machine ts).program where
  action s l l' h := by
    cases s with
    | init => exact h
    | initializing => exact beside_clearFlag l l' h
    | receivingSync => exact beside_receivingSyncAction l l' h
  transition := by
    rintro s l _ ⟨slack, rfl⟩
    cases s <;> rfl
  fault _ _ h := h.stop
  halt f l l' h := beside_halt f l l' h

theorem beside_run : Preserves (Beside x ps es) (run ts) := by
  refine Embedded.preserves_run simulates_beside ?_ ?_ ?_ passes
  · rintro l _ ⟨s, rfl⟩
    rfl
  · rintro c l _ ⟨s, rfl⟩
    exact ⟨s, rfl⟩
  · rintro s l _ ⟨slack, rfl⟩
    rfl

theorem beside_recvPSSync (pss : PortSyncSync) :
    Preserves (Beside x ps es) (recvPSSync ts pss) := by
  intro l l' h
  unfold recvPSSync
  rw [siteSyncSyncSm_beside h]
  refine Beside.freeThen (beside_call _ l l' h) _ (beside_run.comp ?_)
  rintro l _ ⟨s, rfl⟩
  exact ⟨s, rfl⟩

theorem beside_init : Preserves (Beside x ps es) initSiteSyncSyncSm := by
  refine beside_run.comp ?_
  rintro l _ ⟨s, rfl⟩
  exact ⟨s, rfl⟩

end SiteSyncSyncSM

/-!
### The receivers of the ports
-/

namespace PortSyncSyncReceiveSM

open SyncLoop

variable {x : PerPTPInstanceGlobal} {ps : PerPortGlobalArray}
  {es : PortIndex -> MDEntityGlobal} {l l' : SyncLoop} {i : PortIndex}
  {ts : UScaledNs}

theorem portSyncSyncReceiveSms_beside (h : l.Beside x ps es l') :
    l'.portSyncSyncReceiveSms = l.portSyncSyncReceiveSms := by
  obtain ⟨s, rfl⟩ := h
  rfl

theorem beside_assign (sm : PortSyncSyncReceiveSM) :
    Preserves (Beside x ps es) (assign i sm) := by
  rintro l _ ⟨s, rfl⟩
  exact ⟨s, rfl⟩

theorem beside_dropBlock : Preserves (Beside x ps es) dropBlock := by
  rintro l _ ⟨s, rfl⟩
  exact ⟨s, rfl⟩

theorem beside_clearFlag : Preserves (Beside x ps es) (clearFlag i) := by
  rintro l _ ⟨s, rfl⟩
  exact ⟨s, rfl⟩

theorem beside_setTimeoutInterval (interval : UScaledNs) :
    Preserves (Beside x ps es) (setTimeoutInterval i interval) := by
  rintro l _ ⟨s, rfl⟩
  refine ⟨{ s with intervals := Function.update s.intervals i interval }, ?_⟩
  unfold setTimeoutInterval PortSyncSyncSendSM.assignPort beside
  dsimp only
  congr 1
  funext j
  by_cases hj : j = i
  · subst hj
    simp only [Function.update_self]
    rfl
  · simp only [Function.update_of_ne hj]

theorem passOn_setTimeoutInterval (mdSync : MDSyncReceive)
    (interval : UScaledNs) (l : SyncLoop) :
    passOn i ts mdSync (setTimeoutInterval i interval l) =
      SiteSyncSyncSM.recvPSSync ts
        (psSyncOf (l.heap 0) mdSync (l.perPortGlobal i).thisPort
          (l.portSyncSyncReceiveSms i).rateRatio (uscalednsAdd ts interval))
        (PortSyncSyncSendSM.setSyncReceiptTimeoutTime (uscalednsAdd ts interval)
          (dropBlock (setTimeoutInterval i interval l))) := by
  have hport : (setTimeoutInterval i interval l).perPortGlobal i =
      { l.perPortGlobal i with syncReceiptTimeoutTimeInterval := interval } :=
    Function.update_self ..
  unfold passOn
  rw [hport]
  rfl

theorem beside_passOn (mdSync : MDSyncReceive) (interval : UScaledNs) :
    Preserves (Beside x ps es)
      fun l => passOn i ts mdSync (setTimeoutInterval i interval l) := by
  intro l l' h
  have hset := beside_setTimeoutInterval (i := i) interval l l' h
  dsimp only
  rw [passOn_setTimeoutInterval, passOn_setTimeoutInterval,
    portSyncSyncReceiveSms_beside h]
  have hsame : l'.heap = l.heap ∧
      (l'.perPortGlobal i).thisPort = (l.perPortGlobal i).thisPort := by
    obtain ⟨s, rfl⟩ := h
    exact ⟨rfl, rfl⟩
  rw [hsame.left, hsame.right]
  exact SiteSyncSyncSM.beside_recvPSSync _ _ _
    (PortSyncSyncSendSM.beside_setSyncReceiptTimeoutTime _ _ _
      (beside_dropBlock _ _ hset))

theorem beside_receivedSyncAction :
    Preserves (Beside x ps es) (receivedSyncAction i ts) := by
  intro l l' h
  have htimeout : (l'.perPortGlobal i).syncReceiptTimeout =
      (l.perPortGlobal i).syncReceiptTimeout := by
    obtain ⟨s, rfl⟩ := h
    rfl
  unfold receivedSyncAction
  dsimp only
  rw [portSyncSyncReceiveSms_beside h, htimeout]
  refine h.withObject _ fun mdSync l l' h => ?_
  split
  · exact beside_halt _ l l' h
  · exact beside_passOn mdSync _ _ _ (beside_assign _ l l' h)

theorem simulates_beside :
    Program.Simulates (Beside x ps es) (machine i ts).program
      (machine i ts).program where
  action s l l' h := by
    cases s with
    | init => exact h
    | discard => exact beside_clearFlag l l' h
    | receivedSync => exact beside_receivedSyncAction l l' h
  transition := by
    rintro s l _ ⟨slack, rfl⟩
    cases s <;> rfl
  fault _ _ h := h.stop
  halt f l l' h := beside_halt f l l' h

theorem beside_run : Preserves (Beside x ps es) (run i ts) := by
  refine Embedded.preserves_run simulates_beside ?_ ?_ ?_ passes
  · rintro l _ ⟨s, rfl⟩
    rfl
  · rintro c l _ ⟨s, rfl⟩
    exact ⟨s, rfl⟩
  · rintro s l _ ⟨slack, rfl⟩
    rfl

theorem beside_recvMDSync (mdSync : MDSyncReceive) :
    Preserves (Beside x ps es) (recvMDSync i ts mdSync) := by
  intro l l' h
  unfold recvMDSync
  rw [portSyncSyncReceiveSms_beside h]
  refine Beside.freeThen (beside_call _ l l' h) _ (beside_run.comp ?_)
  rintro l _ ⟨s, rfl⟩
  exact ⟨s, rfl⟩

theorem beside_init : Preserves (Beside x ps es) (initPortSyncSyncReceiveSm i) := by
  refine beside_run.comp ?_
  rintro l _ ⟨s, rfl⟩
  exact ⟨s, rfl⟩

end PortSyncSyncReceiveSM

/-!
### The receivers of synchronization messages
-/

namespace MDSyncReceiveSM

open SyncLoop

variable {x : PerPTPInstanceGlobal} {ps : PerPortGlobalArray}
  {es : PortIndex -> MDEntityGlobal} {l l' : SyncLoop} {i : PortIndex}
  {ts : UScaledNs}

theorem mdSyncReceiveSms_beside (h : l.Beside x ps es l') :
    l'.mdSyncReceiveSms = l.mdSyncReceiveSms := by
  obtain ⟨s, rfl⟩ := h
  rfl

theorem beside_assign (sm : MDSyncReceiveSM) :
    Preserves (Beside x ps es) (assign i sm) := by
  rintro l _ ⟨s, rfl⟩
  exact ⟨s, rfl⟩

theorem beside_waitingForSyncAction :
    Preserves (Beside x ps es) (waitingForSyncAction i ts) := by
  intro l l' h
  unfold waitingForSyncAction
  dsimp only
  rw [mdSyncReceiveSms_beside h]
  refine h.withObject _ fun sync l l' h =>
    h.withObject _ fun followUp l l' h => ?_
  have hdelay : (l'.perPortGlobal i).meanLinkDelay =
      (l.perPortGlobal i).meanLinkDelay := by
    obtain ⟨s, rfl⟩ := h
    rfl
  rw [hdelay]
  exact PortSyncSyncReceiveSM.beside_recvMDSync _ _ _ (beside_assign _ l l' h)

theorem simulates_beside :
    Program.Simulates (Beside x ps es) (machine i ts).program
      (machine i ts).program where
  action s l l' h := by
    cases s with
    | init => exact h
    | discard =>
        obtain ⟨slack, rfl⟩ := h
        exact beside_assign _ _ _ ⟨slack, rfl⟩
    | waitingForFollowUp =>
        obtain ⟨slack, rfl⟩ := h
        exact beside_assign _ _ _ ⟨slack, rfl⟩
    | waitingForSync => exact beside_waitingForSyncAction l l' h
  transition := by
    rintro s l _ ⟨slack, rfl⟩
    cases s <;> rfl
  fault _ _ h := h.stop
  halt f l l' h := beside_halt f l l' h

theorem beside_run : Preserves (Beside x ps es) (run i ts) := by
  refine Embedded.preserves_run simulates_beside ?_ ?_ ?_ passes
  · rintro l _ ⟨s, rfl⟩
    rfl
  · rintro c l _ ⟨s, rfl⟩
    exact ⟨s, rfl⟩
  · rintro s l _ ⟨slack, rfl⟩
    rfl

theorem beside_recvSync (tsuTimestamp : TSUTimestamp) (sync : PTPMsgSync) :
    Preserves (Beside x ps es) (recvSync i ts tsuTimestamp sync) := by
  intro l l' h
  unfold recvSync
  rw [mdSyncReceiveSms_beside h]
  refine h.freeThen _ (beside_run.comp ?_)
  rintro l _ ⟨s, rfl⟩
  exact ⟨s, rfl⟩

theorem beside_recvFollowUp (followUp : PTPMsgFollowUp) :
    Preserves (Beside x ps es) (recvFollowUp i ts followUp) := by
  intro l l' h
  unfold recvFollowUp
  rw [mdSyncReceiveSms_beside h]
  refine h.freeThen _ (beside_run.comp ?_)
  rintro l _ ⟨s, rfl⟩
  exact ⟨s, rfl⟩

theorem beside_init : Preserves (Beside x ps es) (initMdSyncReceiveSm i) := by
  refine beside_run.comp ?_
  rintro l _ ⟨s, rfl⟩
  exact ⟨s, rfl⟩

end MDSyncReceiveSM

/-!
### The statements
-/

namespace SyncLoop

variable {x : PerPTPInstanceGlobal} {ps : PerPortGlobalArray}
  {es : PortIndex -> MDEntityGlobal}

theorem beside_initMDSyncSend (i : PortIndex) :
    Preserves (Beside x ps es) (initMDSyncSend i) := by
  rintro l _ ⟨s, rfl⟩
  exact PortSyncSyncSendSM.beside_storeMDSyncSend ⟨s, rfl⟩
    (MDSyncSendMachine.beside_init
      (PortSyncSyncSendSM.beside_loadMDSyncSend s l i).vars)

theorem beside_txts (i : PortIndex) (tsuTimestamp : TSUTimestamp) :
    Preserves (Beside x ps es) (txts i tsuTimestamp) := by
  rintro l _ ⟨s, rfl⟩
  exact PortSyncSyncSendSM.beside_storeMDSyncSend ⟨s, rfl⟩
    (MDSyncSendMachine.beside_step
      (PortSyncSyncSendSM.beside_loadMDSyncSend s l i) _)

theorem beside_setMeanLinkDelay (i : PortIndex) (delay : UScaledNs) :
    Preserves (Beside x ps es) (setMeanLinkDelay i delay) := by
  rintro l _ ⟨s, rfl⟩
  exact ⟨s, assignPort_beside i { l.perPortGlobal i with meanLinkDelay := delay }⟩

theorem beside_step (e : Event) : Preserves (Beside x ps es) (step · e) := by
  refine fun l l' h => Beside.thenDo h fun l l' h => ?_
  cases e with
  | sync i ts tsuTimestamp message =>
      exact MDSyncReceiveSM.beside_recvSync _ _ l l' h
  | followUp i ts message => exact MDSyncReceiveSM.beside_recvFollowUp _ l l' h
  | timeout i ts => exact MDSyncReceiveSM.beside_run l l' h
  | clockMaster ts pss => exact SiteSyncSyncSM.beside_recvPSSync pss l l' h
  | txts i tsuTimestamp => exact beside_txts i tsuTimestamp l l' h
  | select selectedState gmPresent =>
      obtain ⟨s, rfl⟩ := h
      exact ⟨s, rfl⟩
  | delay i meanLinkDelay => exact beside_setMeanLinkDelay i meanLinkDelay l l' h
  | announce time =>
      exact PortSyncSyncSendSM.beside_setSyncReceiptTimeoutTime time l l' h

end SyncLoop

end TimeSync
end Ziggo
