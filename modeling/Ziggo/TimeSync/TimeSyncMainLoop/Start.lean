import Ziggo.TimeSync.TimeSyncMainLoop.Composition
import Ziggo.TimeSync.TimeSyncMainLoop.Initialization
import Ziggo.TimeSync.TimeSyncMainLoop.Surroundings

/-!
# The first state of the main loop

The main loop initializes the machines of all groups, one port after the other.
No machine ends the process while it is initialized, and once all of them have
been initialized each group is where its own loop starts.
-/

namespace Ziggo
namespace TimeSync

open Foundation TsnDrivers

namespace AnnounceLoop

/-- The loop while its machines are initialized. -/
structure Begins (config : Config) (memory : LoopMemory) (l : AnnounceLoop) :
    Prop where
  running : l.Runs
  bounded : Assigned config memory l ∧ PathBounded l
  intervals : l.intervals = (initial config memory).intervals

/-- A statement that initializes machines for `Announce` messages. -/
structure Initializes (config : Config) (memory : LoopMemory)
    (statement : AnnounceLoop -> AnnounceLoop) : Prop where
  sees : forall x ps, Preserves (Beside x ps) statement
  configured : forall l, Configured config l -> Configured config (statement l)
  begins : forall l, l.Begins config memory ->
    (statement l).Begins config memory

section Initializes

variable (config : Config) (memory : LoopMemory)

theorem begins_initial : (initial config memory).Begins config memory :=
  ⟨rfl, ⟨assigned_initial config memory, pathBounded_initial config memory⟩, rfl⟩

theorem initializes_selection : Initializes config memory initSelection where
  sees _ _ := beside_initSelection
  configured _ h := (keptInit_configured config).initSelection h
  begins l h := by
    refine ⟨?_, (keptInit_bounded config memory).initSelection h.bounded,
      (intervals_initSelection l).trans h.intervals⟩
    unfold initSelection
    split
    · exact h.running
    · exact PortStateSelectionMachine.running_init h.running

theorem initializes_information (i : PortIndex) :
    Initializes config memory (initInformation i) where
  sees _ _ := beside_initInformation i
  configured _ h := (keptInit_configured config).initInformation h i
  begins l h := by
    refine ⟨?_, (keptInit_bounded config memory).initInformation h.bounded i,
      (intervals_initInformation i l).trans h.intervals⟩
    unfold initInformation
    split
    · exact PortAnnounceInformationExtMachine.running_init h.running
    · exact PortAnnounceInformationMachine.running_init h.running

theorem initializes_transmit (i : PortIndex) :
    Initializes config memory (initTransmit i) where
  sees _ _ := beside_initTransmit i
  configured _ h := (keptInit_configured config).initTransmit h i
  begins l h := by
    have hinterval : (l.perPortGlobal i).announceInterval = oneSecond :=
      congrArg AnnounceIntervals.announceInterval (congrFun h.intervals i)
    refine ⟨?_, (keptInit_bounded config memory).initTransmit h.bounded i,
      (intervals_initTransmit i l).trans h.intervals⟩
    exact PortAnnounceTransmitMachine.running_init h.bounded.right.trace
      hinterval h.running

end Initializes

end AnnounceLoop

namespace SyncLoop

theorem initPort_begins {l : SyncLoop} (h : l.Begins) (i : PortIndex) :
    l.initPort i =
      MDSyncReceiveSM.initMdSyncReceiveSm i
        (initMDSyncSend i
          (PortSyncSyncSendSM.initPortSyncSyncSendSm i
            (PortSyncSyncReceiveSM.initPortSyncSyncReceiveSm i l))) := by
  have hreceiver := (initializes_receiver i).begins l h
  have hsender := (initializes_sender i).begins _ hreceiver
  have hsend := (initializes_mdSyncSend i).begins _ hsender
  unfold initPort
  rw [thenDo_running h.running, thenDo_running hreceiver.running,
    thenDo_running hsender.running, thenDo_running hsend.running]

end SyncLoop

/-!
## Memories

What the variables that are shared hold counts for every group.
-/

namespace MainLoopMemory

def announceMemory (memory : MainLoopMemory) : LoopMemory :=
  { memory.announceLoop with
    perPTPInstanceGlobal := memory.perPTPInstanceGlobal
    perPortGlobal := memory.perPortGlobal }

def clockMasterMemory (memory : MainLoopMemory) : ClockMasterMemory :=
  { memory.clockMasterLoop with
    sync :=
      { memory.clockMasterLoop.sync with
        perPTPInstanceGlobal := memory.perPTPInstanceGlobal
        perPortGlobal := memory.perPortGlobal
        mdSyncSendSms := fun i =>
          { memory.clockMasterLoop.sync.mdSyncSendSms i with
            mdEntityGlobal :=
              TimeSyncMainLoop.initMDEntityGlobal (memory.mdEntityGlobal i) } } }

def pdelayReqMemory (config : Config) (memory : MainLoopMemory)
    (i : PortIndex) : MDPdelayReqSM :=
  { memory.mdPdelayReqSms i with
    perPTPInstanceGlobal :=
      AnnounceLoop.initPerPTPInstanceGlobal config memory.perPTPInstanceGlobal
    perPortGlobal :=
      AnnounceLoop.initPerPortGlobal config i (memory.perPortGlobal i)
    mdEntityGlobal :=
      TimeSyncMainLoop.initMDEntityGlobal (memory.mdEntityGlobal i)
    process := TimeSyncMainLoop.freshProcess (memory.rand i) }

def pdelayRespMemory (config : Config) (memory : MainLoopMemory)
    (i : PortIndex) : MDPdelayRespSM :=
  { memory.mdPdelayRespSms i with
    perPTPInstanceGlobal :=
      AnnounceLoop.initPerPTPInstanceGlobal config memory.perPTPInstanceGlobal
    perPortGlobal :=
      AnnounceLoop.initPerPortGlobal config i (memory.perPortGlobal i)
    process :=
      TimeSyncMainLoop.freshProcess (memory.mdPdelayRespSms i).process.rand }

end MainLoopMemory

namespace TimeSyncMainLoop

open Parts

theorem thenDo_running {m : TimeSyncMainLoop} (h : m.stop = none)
    (statement : TimeSyncMainLoop -> TimeSyncMainLoop) :
    m.thenDo statement = statement m :=
  if_neg (not_not.mpr h)

namespace Parts

/-- The parts before the first call of a state machine. -/
def initial (config : Config) (memory : MainLoopMemory) : Parts where
  announceLoop := .initial config memory.announceMemory
  clockMasterLoop := .initial config memory.clockMasterMemory
  mdPdelayReqSms i :=
    { state := .init
      lastState := none
      vars := memory.pdelayReqMemory config i }
  mdPdelayRespSms i :=
    { state := .init
      lastState := none
      vars := memory.pdelayRespMemory config i }

theorem composes_initial (config : Config) (memory : MainLoopMemory) :
    (initial config memory).Composes config
      (TimeSyncMainLoop.initial config memory) where
  configured := ⟨rfl, fun _ => rfl⟩
  announceLoop :=
    AnnounceLoop.beside_refl (.initial config memory.announceMemory)
  clockMasterLoop := ⟨⟨rfl, rfl, _, rfl⟩, _, SyncLoop.beside_refl _, rfl⟩
  mdPdelayReqSms _ := ⟨rfl, rfl, rfl⟩
  mdPdelayRespSms _ := ⟨rfl, rfl, rfl⟩
  running _ := ⟨rfl, rfl, fun _ => rfl, fun _ => rfl⟩

theorem Composes.sees {config : Config} {c : Parts} {m : TimeSyncMainLoop}
    {l l' : SyncLoop} (h : (c.withSync fun _ => l).Composes config m)
    (hsees : l'.Sees l) : (c.withSync fun _ => l').Composes config m :=
  { h with
    clockMasterLoop := by
      refine @Shared.ShowsClockMaster.withSyncLoop _ _
        (c.withSync fun _ => l).clockMasterLoop _ (fun _ => l')
        h.clockMasterLoop fun hl => ?_
      obtain ⟨slack, hl⟩ := hl
      obtain ⟨slack', hsees⟩ := hsees
      refine ⟨slack, hl.trans ?_⟩
      change l.beside _ _ _ slack = _
      rw [hsees]
      rfl
    running := fun hrunning => by
      have hrest := h.running hrunning
      exact ⟨hrest.announceLoop,
        (SyncLoop.Beside.stop hsees).symm.trans hrest.clockMasterLoop,
        hrest.mdPdelayReqSms, hrest.mdPdelayRespSms⟩ }

end Parts

/-!
## Statements
-/

/-- The loop while it is initialized, in surroundings that change. -/
structure Begins (config : Config) (memory : MainLoopMemory) (c : Parts)
    (m : TimeSyncMainLoop) : Prop where
  composes : exists e,
    (c.withSync (SyncLoop.withSurroundings e)).Composes config m
  running : m.stop = none
  announceLoop : c.announceLoop.Begins config memory.announceMemory
  syncLoop : c.clockMasterLoop.syncLoop.Begins

section Statements

variable {config : Config} {memory : MainLoopMemory} {c : Parts}
  {m : TimeSyncMainLoop}

theorem Begins.of_composes (hcomposes : c.Composes config m)
    (hrunning : m.stop = none)
    (hannounce : c.announceLoop.Begins config memory.announceMemory)
    (hsync : c.clockMasterLoop.syncLoop.Begins) : Begins config memory c m :=
  ⟨⟨c.clockMasterLoop.syncLoop.surroundings, hcomposes⟩, hrunning, hannounce,
    hsync⟩

theorem Begins.callAnnounce (h : Begins config memory c m)
    {statement : AnnounceLoop -> AnnounceLoop}
    (hstatement : AnnounceLoop.Initializes config memory.announceMemory
      statement) :
    Begins config memory
      { c with announceLoop := statement c.announceLoop }
      (m.thenDo (callAnnounce statement)) := by
  obtain ⟨e, hcomposes⟩ := h.composes
  have hcall := composes_callAnnounce hcomposes hstatement.sees
    hstatement.configured
  have hbegins := hstatement.begins _ h.announceLoop
  have hprocess := (hstatement.sees _ _ _ _ hcomposes.announceLoop).process
  rw [thenDo_running h.running]
  refine ⟨⟨{ e with
      selectedState :=
        (statement m.loadAnnounce).perPTPInstanceGlobal.selectedState
      gmPresent := (statement m.loadAnnounce).perPTPInstanceGlobal.gmPresent
      syncReceiptTimeoutTime :=
        (statement m.loadAnnounce).perPTPInstanceGlobal.syncReceiptTimeoutTime },
    hcall⟩, ?_, hbegins, h.syncLoop⟩
  change m.stop.or (statement m.loadAnnounce).process.stop = none
  have hafter : (statement m.loadAnnounce).process.stop = none :=
    (congrArg Process.stop hprocess).trans hbegins.running
  rw [h.running, hafter]
  rfl

/-- A call that leaves `syncReceiptTimeoutTime` concerns the clock master only. -/
theorem composes_leaves {w : ClockMasterLoop} (h : c.Composes config m)
    {m' : TimeSyncMainLoop} {time : UScaledNs}
    (htime : time = m.perPTPInstanceGlobal.syncReceiptTimeoutTime)
    (hcall : Composes config
      { c with
        announceLoop := c.announceLoop.setSyncReceiptTimeoutTime time
        clockMasterLoop := w } m') :
    Composes config { c with clockMasterLoop := w } m' := by
  have hglobal := congrArg PerPTPInstanceGlobal.syncReceiptTimeoutTime
    h.announceLoop.perPTPInstanceGlobal
  rw [htime.trans hglobal] at hcall
  exact hcall

theorem begins_loadSync {e : Surroundings}
    (h : (c.withSync (SyncLoop.withSurroundings e)).Composes config m)
    (hbegins : c.clockMasterLoop.syncLoop.Begins) : m.loadSync.Begins := by
  obtain ⟨slack, hsync⟩ := ClockMasterLoop.Beside.syncLoop h.clockMasterLoop
  have hload : m.loadSync = SyncLoop.beside _ _ _ slack _ := hsync
  rw [hload]
  exact ⟨hbegins.running, hbegins.senders⟩

theorem Begins.callSync (h : Begins config memory c m)
    {statement : SyncLoop -> SyncLoop}
    (hstatement : SyncLoop.Initializes statement) :
    Begins config memory (c.withSync statement)
      (m.thenDo (TimeSyncMainLoop.callSync statement)) := by
  obtain ⟨e, hcomposes⟩ := h.composes
  have hload := begins_loadSync hcomposes h.syncLoop
  have hcall := composes_leaves hcomposes
    (congrArg PerPTPInstanceGlobal.syncReceiptTimeoutTime
      (hstatement.global _ hload))
    (composes_callClockMaster hcomposes
      (fun x ps es =>
        ClockMasterLoop.beside_withSyncLoop (hstatement.sees x ps es))
      (hstatement.environment _ hload))
  have hsees := hstatement.surroundings _ e h.syncLoop
  rw [thenDo_running h.running]
  refine ⟨⟨e, ?_⟩, ?_, h.announceLoop, hstatement.begins _ h.syncLoop⟩
  · exact @Composes.sees _ (c.withSync statement) _ _ _ hcall hsees
  · change m.stop.or (statement m.loadSync).stop = none
    rw [h.running, (hstatement.begins _ hload).running]
    rfl

def Parts.initPdelayReq (i : PortIndex) (c : Parts) : Parts :=
  { c with
    mdPdelayReqSms := Function.update c.mdPdelayReqSms i
      (.initMdPdelayReqSm (c.mdPdelayReqSms i).vars) }

def Parts.initPdelayResp (i : PortIndex) (c : Parts) : Parts :=
  { c with
    mdPdelayRespSms := Function.update c.mdPdelayRespSms i
      (.initMdPdelayRespSm (c.mdPdelayRespSms i).vars) }

theorem Begins.initPdelayReq (h : Begins config memory c m) {i : PortIndex}
    (hmemory : (c.mdPdelayReqSms i).vars = memory.pdelayReqMemory config i) :
    Begins config memory (c.initPdelayReq i)
      (m.thenDo (TimeSyncMainLoop.initPdelayReq i)) := by
  obtain ⟨e, hcomposes⟩ := h.composes
  have hsees : forall x p n (sm sm' : MDPdelayReqMachine),
      sm.Related (MDPdelayReqSM.Beside x p n) sm' ->
        Machine.Related (MDPdelayReqSM.Beside x p n)
          (MDPdelayReqMachine.initMdPdelayReqSm sm.vars)
          (MDPdelayReqMachine.initMdPdelayReqSm sm'.vars) :=
    fun _ _ _ _ _ hsm => MDPdelayReqMachine.beside_init hsm.vars
  have hcall := @composes_callPdelayReq _ _ _ hcomposes i
    (fun sm => .initMdPdelayReqSm sm.vars) hsees
    fun sm => MDPdelayReqMachine.rest_init sm.vars
  have hafter := (hsees _ _ _ _ _ (hcomposes.mdPdelayReqSms i)).vars
  have hinit : (MDPdelayReqMachine.initMdPdelayReqSm
      (c.mdPdelayReqSms i).vars).vars.process.stop = none := by
    rw [hmemory]
    refine MDPdelayReqMachine.running_init ?_ rfl
    change 0 < AnnounceLoop.oneSecond.toNat
    decide
  have hdelay := SyncLoop.setMeanLinkDelay_withSurroundings e
    c.clockMasterLoop.syncLoop i
    (MDPdelayReqMachine.initMdPdelayReqSm
      (m.loadPdelayReq i).vars).vars.perPortGlobal.meanLinkDelay
  rw [thenDo_running h.running]
  refine ⟨⟨_, @Composes.sees _ (c.initPdelayReq i) _ _ _ hcall
    (.of_eq hdelay.symm)⟩, ?_, h.announceLoop, h.syncLoop⟩
  change m.stop.or _ = none
  rw [h.running]
  exact (congrArg (fun sm : MDPdelayReqSM => sm.process.stop) hafter).trans hinit

theorem Begins.initPdelayResp (h : Begins config memory c m) {i : PortIndex}
    (hmemory : (c.mdPdelayRespSms i).vars = memory.pdelayRespMemory config i) :
    Begins config memory (c.initPdelayResp i)
      (m.thenDo (TimeSyncMainLoop.initPdelayResp i)) := by
  obtain ⟨e, hcomposes⟩ := h.composes
  have hsees : forall x p (sm sm' : MDPdelayRespMachine),
      sm.Related (MDPdelayRespSM.Beside x p) sm' ->
        Machine.Related (MDPdelayRespSM.Beside x p)
          (MDPdelayRespMachine.initMdPdelayRespSm sm.vars)
          (MDPdelayRespMachine.initMdPdelayRespSm sm'.vars) :=
    fun _ _ _ _ hsm => MDPdelayRespMachine.beside_init hsm.vars
  have hcall := @composes_callPdelayResp _ _ _ hcomposes i
    (fun sm => .initMdPdelayRespSm sm.vars) hsees
    fun sm => MDPdelayRespMachine.globals_init sm.vars
  have hafter := (hsees _ _ _ _ (hcomposes.mdPdelayRespSms i)).vars
  have hinit : (MDPdelayRespMachine.initMdPdelayRespSm
      (c.mdPdelayRespSms i).vars).vars.process.stop = none := by
    rw [hmemory]
    exact MDPdelayRespMachine.running_init rfl
  rw [thenDo_running h.running]
  refine ⟨⟨e, hcall⟩, ?_, h.announceLoop, h.syncLoop⟩
  change m.stop.or _ = none
  rw [h.running]
  exact (congrArg (fun sm : MDPdelayRespSM => sm.process.stop) hafter).trans
    hinit

end Statements

/-!
## The machines of the instance
-/

section Start

variable (config : Config) (memory : MainLoopMemory)

def Parts.initClockMaster (c : Parts) : Parts :=
  { c with
    clockMasterLoop :=
      c.clockMasterLoop.initSyncReceive.initSyncSend }

theorem syncLoop_initSyncReceive :
    (Parts.initial config memory).clockMasterLoop.initSyncReceive.syncLoop =
      SyncLoop.initial config memory.clockMasterMemory.sync :=
  (ClockMasterLoop.prepared_initSyncReceive config
    memory.clockMasterMemory).sync

theorem syncLoop_initClockMaster :
    (Parts.initial config memory).initClockMaster.clockMasterLoop.syncLoop =
      SyncLoop.initial config memory.clockMasterMemory.sync := by
  have hsource := syncLoop_initSyncReceive config memory
  have hoperating := (SyncLoop.configured_initial config
    memory.clockMasterMemory.sync).operating
  rw [← hsource] at hoperating
  refine (ClockMasterSyncSendSM.initClockMasterSyncSendSm_eq hoperating
    ?_).right.right.trans hsource
  exact congrArg SyncLoop.stop hsource

theorem operating_loadSync {c : Parts} {m : TimeSyncMainLoop}
    (h : c.Composes config m) : m.loadSync.resetting = false := by
  have hsettings := h.configured.global
  have hbegin : m.perPTPInstanceGlobal.BEGIN = false :=
    congrArg InstanceSettings.BEGIN hsettings
  have henable : m.perPTPInstanceGlobal.instanceEnable = true :=
    congrArg InstanceSettings.instanceEnable hsettings
  unfold SyncLoop.resetting
  change decide (m.perPTPInstanceGlobal.BEGIN = true ∨
    m.perPTPInstanceGlobal.instanceEnable = false) = false
  rw [hbegin, henable]
  rfl

theorem begins_initClockMaster :
    Begins config memory (Parts.initial config memory).initClockMaster
      (((initial config memory).thenDo
        (callClockMaster ClockMasterLoop.initSyncReceive)).thenDo
          (callClockMaster ClockMasterLoop.initSyncSend)) := by
  have hfirst := composes_initial config memory
  have hsource := composes_leaves hfirst rfl
    (composes_callClockMaster hfirst
      (fun _ _ _ => ClockMasterLoop.beside_initSyncReceive) rfl)
  generalize hm : (initial config memory).callClockMaster
    ClockMasterLoop.initSyncReceive = m at hsource
  have hload := (ClockMasterLoop.Beside.syncLoop hsource.clockMasterLoop).stop
  have hrunning : m.loadSync.stop = none :=
    hload.trans (congrArg SyncLoop.stop (syncLoop_initSyncReceive config memory))
  have hstop : m.stop = none := by
    rw [← hm] at hrunning ⊢
    exact hrunning
  have hsend := @ClockMasterSyncSendSM.initClockMasterSyncSendSm_eq
    m.loadClockMaster.clockMaster (operating_loadSync config hsource) hrunning
  have hsame : m.loadClockMaster.initSyncSend.syncLoop = m.loadSync :=
    hsend.right.right
  have hcomposes := composes_leaves hsource
    (congrArg (fun l : SyncLoop => l.perPTPInstanceGlobal.syncReceiptTimeoutTime)
      hsame)
    (composes_callClockMaster hsource
      (fun _ _ _ => ClockMasterLoop.beside_initSyncSend)
      (congrArg SyncLoop.environment hsame))
  have hafter : (m.callClockMaster ClockMasterLoop.initSyncSend).stop =
      none := by
    change m.stop.or m.loadClockMaster.initSyncSend.syncLoop.stop = none
    rw [hsame, hstop, hrunning]
    rfl
  rw [@thenDo_running (initial config memory) rfl, hm, thenDo_running hstop]
  refine .of_composes hcomposes hafter
    (AnnounceLoop.begins_initial config memory.announceMemory) ?_
  rw [syncLoop_initClockMaster]
  exact ⟨rfl, fun _ => rfl⟩

def Parts.initInstance (c : Parts) : Parts :=
  { ((c.initClockMaster.withSync SiteSyncSyncSM.initSiteSyncSyncSm).withSync
      ClockSlaveSyncSM.initClockSlaveSyncSm) with
    announceLoop := c.announceLoop.initSelection }

theorem begins_initInstance :
    Begins config memory (Parts.initial config memory).initInstance
      (initial config memory).initInstance :=
  (((begins_initClockMaster config memory).callSync
    SyncLoop.initializes_site).callSync
      SyncLoop.initializes_slave).callAnnounce
        (AnnounceLoop.initializes_selection config memory.announceMemory)

/-!
## The machines of the ports
-/

def Parts.initPort (c : Parts) (i : PortIndex) : Parts where
  announceLoop := c.announceLoop.initPort i
  clockMasterLoop :=
    c.clockMasterLoop.withSyncLoop (c.clockMasterLoop.syncLoop.initPort i)
  mdPdelayReqSms := (c.initPdelayReq i).mdPdelayReqSms
  mdPdelayRespSms := (c.initPdelayResp i).mdPdelayRespSms

/-- The loop while the machines of its ports are initialized. -/
structure Starting (done : PortIndex -> Prop) (c : Parts)
    (m : TimeSyncMainLoop) : Prop where
  begins : Begins config memory c m
  reqStarted : forall i, done i -> c.mdPdelayReqSms i =
    .initMdPdelayReqSm (memory.pdelayReqMemory config i)
  reqFresh : forall i, ¬ done i ->
    (c.mdPdelayReqSms i).vars = memory.pdelayReqMemory config i
  respStarted : forall i, done i -> c.mdPdelayRespSms i =
    .initMdPdelayRespSm (memory.pdelayRespMemory config i)
  respFresh : forall i, ¬ done i ->
    (c.mdPdelayRespSms i).vars = memory.pdelayRespMemory config i

variable {config : Config} {memory : MainLoopMemory} {c : Parts}
  {m : TimeSyncMainLoop}

theorem Begins.initPort (h : Begins config memory c m) {i : PortIndex}
    (hreq : (c.mdPdelayReqSms i).vars = memory.pdelayReqMemory config i)
    (hresp : (c.mdPdelayRespSms i).vars = memory.pdelayRespMemory config i) :
    Begins config memory (c.initPort i) (m.initPort i) := by
  have hinformation := AnnounceLoop.initializes_information config
    memory.announceMemory i
  have hannounce : c.announceLoop.initPort i =
      AnnounceLoop.initTransmit i
        (AnnounceLoop.initInformation i c.announceLoop) := by
    unfold AnnounceLoop.initPort
    rw [AnnounceLoop.thenDo_runs h.announceLoop.running,
      AnnounceLoop.thenDo_runs
        (hinformation.begins _ h.announceLoop).running]
  have hports := (((((((h.callSync (SyncLoop.initializes_receiver i)).callSync
    (SyncLoop.initializes_sender i)).initPdelayReq hreq).initPdelayResp
      hresp).callSync (SyncLoop.initializes_mdSyncSend i)).callSync
        (SyncLoop.initializes_messages i)).callAnnounce
          hinformation).callAnnounce
            (AnnounceLoop.initializes_transmit config memory.announceMemory i)
  have hsame : c.initPort i =
      { announceLoop := AnnounceLoop.initTransmit i
          (AnnounceLoop.initInformation i c.announceLoop)
        clockMasterLoop := c.clockMasterLoop.withSyncLoop
          (MDSyncReceiveSM.initMdSyncReceiveSm i
            (SyncLoop.initMDSyncSend i
              (PortSyncSyncSendSM.initPortSyncSyncSendSm i
                (PortSyncSyncReceiveSM.initPortSyncSyncReceiveSm i
                  c.clockMasterLoop.syncLoop))))
        mdPdelayReqSms := (c.initPdelayReq i).mdPdelayReqSms
        mdPdelayRespSms := (c.initPdelayResp i).mdPdelayRespSms } := by
    unfold Parts.initPort
    rw [hannounce, SyncLoop.initPort_begins h.syncLoop]
  rw [hsame]
  exact hports

theorem Starting.initPort {done : PortIndex -> Prop}
    (h : Starting config memory done c m) {i : PortIndex} (hi : ¬ done i) :
    Starting config memory (fun j => j = i ∨ done j) (c.initPort i)
      (m.initPort i) := by
  have hreq := h.reqFresh i hi
  have hresp := h.respFresh i hi
  refine ⟨h.begins.initPort hreq hresp, fun j hj => ?_, fun j hj => ?_,
    fun j hj => ?_, fun j hj => ?_⟩
  · rcases hj with rfl | hj
    · refine (Function.update_self _ _ _).trans ?_
      rw [hreq]
    · have hne : j ≠ i := fun hji => hi (hji ▸ hj)
      exact (Function.update_of_ne hne _ _).trans (h.reqStarted j hj)
  · rw [not_or] at hj
    exact (congrArg (fun sm : MDPdelayReqMachine => sm.vars)
      (Function.update_of_ne hj.left _ _)).trans (h.reqFresh j hj.right)
  · rcases hj with rfl | hj
    · refine (Function.update_self _ _ _).trans ?_
      rw [hresp]
    · have hne : j ≠ i := fun hji => hi (hji ▸ hj)
      exact (Function.update_of_ne hne _ _).trans (h.respStarted j hj)
  · rw [not_or] at hj
    exact (congrArg (fun sm : MDPdelayRespMachine => sm.vars)
      (Function.update_of_ne hj.left _ _)).trans (h.respFresh j hj.right)

/-- The loop and its parts once the machines of all ports are initialized. -/
theorem Starting.foldl (h : Starting config memory (fun _ => False) c m) :
    Starting config memory (fun i => i ∈ List.finRange nPorts ∨ False)
      ((List.finRange nPorts).foldl Parts.initPort c)
      ((List.finRange nPorts).foldl TimeSyncMainLoop.initPort m) := by
  let pass (s : Parts × TimeSyncMainLoop) (i : PortIndex) :=
    (s.1.initPort i, s.2.initPort i)
  have hports := @foldl_distinct _ _ pass
    (fun done s => Starting config memory done s.1 s.2)
    (fun _ _ _ hi h => h.initPort hi) _ (List.nodup_finRange nPorts)
    (fun _ => False) (fun _ _ h => h) (c, m) h
  have hparts := @List.foldl_hom _ _ _ Prod.fst pass Parts.initPort
    (List.finRange nPorts) (c, m) fun _ _ => rfl
  have hloop := @List.foldl_hom _ _ _ Prod.snd pass TimeSyncMainLoop.initPort
    (List.finRange nPorts) (c, m) fun _ _ => rfl
  rw [← hparts, ← hloop] at hports
  exact hports

variable (config memory)

def Parts.start : Parts where
  announceLoop := .start config memory.announceMemory
  clockMasterLoop := .start config memory.clockMasterMemory
  mdPdelayReqSms i := .initMdPdelayReqSm (memory.pdelayReqMemory config i)
  mdPdelayRespSms i := .initMdPdelayRespSm (memory.pdelayRespMemory config i)

/-- The parts once the machines of some ports have been initialized. -/
def Parts.portsStarted (ports : List PortIndex) : Parts :=
  ports.foldl Parts.initPort (Parts.initial config memory).initInstance

theorem announceLoop_portsStarted :
    (Parts.portsStarted config memory (List.finRange nPorts)).announceLoop =
      AnnounceLoop.start config memory.announceMemory :=
  (List.foldl_hom Parts.announceLoop fun _ _ => rfl).symm

theorem clockMasterLoop_foldl (ports : List PortIndex) (c : Parts) :
    (ports.foldl Parts.initPort c).clockMasterLoop =
      c.clockMasterLoop.withSyncLoop
        (ports.foldl SyncLoop.initPort c.clockMasterLoop.syncLoop) := by
  induction ports generalizing c with
  | nil => rfl
  | cons i ports ih => exact ih (c.initPort i)

theorem syncLoop_initInstance (c : Parts) :
    c.initInstance.clockMasterLoop.syncLoop =
      ClockSlaveSyncSM.initClockSlaveSyncSm
        (SiteSyncSyncSM.initSiteSyncSyncSm
          c.initClockMaster.clockMasterLoop.syncLoop) := by
  unfold Parts.initInstance Parts.withSync ClockMasterLoop.withSyncLoop
  dsimp only [ClockMasterLoop.syncLoop]

theorem withSyncLoop_initInstance (c : Parts) (l : SyncLoop) :
    c.initInstance.clockMasterLoop.withSyncLoop l =
      c.initClockMaster.clockMasterLoop.withSyncLoop l := by
  unfold Parts.initInstance Parts.withSync ClockMasterLoop.withSyncLoop
  dsimp only

theorem clockMasterStarted_eq :
    ClockMasterLoop.clockMasterStarted config memory.clockMasterMemory =
      (Parts.initial config memory).initClockMaster.clockMasterLoop := by
  have hrunning : (ClockMasterLoop.initial config
      memory.clockMasterMemory).syncLoop.stop = none := rfl
  have hsource := congrArg SyncLoop.stop (syncLoop_initSyncReceive config memory)
  unfold ClockMasterLoop.clockMasterStarted
  rw [ClockMasterLoop.thenDo_running hrunning]
  exact ClockMasterLoop.thenDo_running hsource _

theorem syncLoop_start :
    SyncLoop.start config memory.clockMasterMemory.sync =
      (List.finRange nPorts).foldl SyncLoop.initPort
        (Parts.initial config memory).initInstance.clockMasterLoop.syncLoop := by
  have hbegins : (SyncLoop.initial config
      memory.clockMasterMemory.sync).Begins := ⟨rfl, fun _ => rfl⟩
  have hsite := SyncLoop.initializes_site.begins _ hbegins
  unfold SyncLoop.start
  rw [syncLoop_initInstance, syncLoop_initClockMaster,
    SyncLoop.thenDo_running hbegins.running, SyncLoop.thenDo_running hsite.running]

theorem clockMasterLoop_portsStarted :
    (Parts.portsStarted config memory (List.finRange nPorts)).clockMasterLoop =
      ClockMasterLoop.start config memory.clockMasterMemory := by
  have hrunning : (ClockMasterLoop.clockMasterStarted config
      memory.clockMasterMemory).syncLoop.stop = none := by
    rw [clockMasterStarted_eq, syncLoop_initClockMaster]
    rfl
  unfold Parts.portsStarted ClockMasterLoop.start
  rw [clockMasterLoop_foldl, ClockMasterLoop.thenDo_running hrunning,
    syncLoop_start, clockMasterStarted_eq, withSyncLoop_initInstance]

theorem starting_initInstance :
    Starting config memory (fun _ => False)
      (Parts.initial config memory).initInstance
      (initial config memory).initInstance := by
  refine ⟨begins_initInstance config memory, fun _ h => h.elim, fun i _ => ?_,
    fun _ h => h.elim, fun i _ => ?_⟩
  · rfl
  · rfl

theorem starting_start :
    Starting config memory (fun i => i ∈ List.finRange nPorts ∨ False)
      (Parts.portsStarted config memory (List.finRange nPorts))
      (start config memory) :=
  (starting_initInstance config memory).foldl

theorem begins_start :
    Begins config memory (Parts.start config memory) (start config memory) := by
  have hstarting := starting_start config memory
  have hparts : Parts.portsStarted config memory (List.finRange nPorts) =
      Parts.start config memory := by
    have hreq := fun i => hstarting.reqStarted i (Or.inl (List.mem_finRange i))
    have hresp := fun i => hstarting.respStarted i (Or.inl (List.mem_finRange i))
    have hannounce := announceLoop_portsStarted config memory
    have hclock := clockMasterLoop_portsStarted config memory
    generalize Parts.portsStarted config memory (List.finRange nPorts) = c at *
    cases c
    exact congr (congr (congr (congrArg Parts.mk hannounce) hclock)
      (funext hreq)) (funext hresp)
  rw [← hparts]
  exact hstarting.begins

/-- The initialization does not end the process. -/
theorem running_start : (start config memory).stop = none :=
  (begins_start config memory).running

end Start

end TimeSyncMainLoop

end TimeSync
end Ziggo
