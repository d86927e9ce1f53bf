import Ziggo.TimeSync.SyncLoop.ClockSlave
import Ziggo.TimeSync.SyncLoop.Senders

/-!
# Calls of the site

A structure from the slave port is handed to the clock slave and then to the
senders of all ports.  Any other structure is forgotten.
-/

namespace Ziggo
namespace TimeSync

open Foundation TsnDrivers

namespace PortSyncSyncSendSM

open SyncLoop

/-!
## What a sender reads of the globals
-/

section Globals

variable {l l' : SyncLoop} {pss : PortSyncSync}

theorem portSettings_of_settings (h : l'.settings = l.settings)
    (i : PortIndex) :
    portSettings (l'.perPortGlobal i) = portSettings (l.perPortGlobal i) :=
  congrFun (congrArg Settings.portSettings h) i

theorem instanceSettings_of_settings (h : l'.settings = l.settings) :
    instanceSettings l'.perPTPInstanceGlobal =
      instanceSettings l.perPTPInstanceGlobal :=
  congrArg Settings.instanceSettings h

theorem portReady_of_settings (h : l'.settings = l.settings) (i : PortIndex) :
    l'.portReady i = l.portReady i := by
  have hsettings := portSettings_of_settings h i
  have hoper : (l'.perPortGlobal i).portOper = (l.perPortGlobal i).portOper :=
    congrArg PortSettings.portOper hsettings
  have henabled : (l'.perPortGlobal i).ptpPortEnabled =
      (l.perPortGlobal i).ptpPortEnabled :=
    congrArg PortSettings.ptpPortEnabled hsettings
  have hcapable : (l'.perPortGlobal i).asCapable =
      (l.perPortGlobal i).asCapable :=
    congrArg PortSettings.asCapable hsettings
  unfold portReady
  rw [hoper, henabled, hcapable]

theorem thisPort_of_settings (h : l'.settings = l.settings) (i : PortIndex) :
    (l'.perPortGlobal i).thisPort = (l.perPortGlobal i).thisPort :=
  congrArg PortSettings.thisPort (portSettings_of_settings h i)

theorem resetting_of_settings (h : l'.settings = l.settings) :
    l'.resetting = l.resetting := by
  have hsettings := instanceSettings_of_settings h
  have hbegin : l'.perPTPInstanceGlobal.BEGIN = l.perPTPInstanceGlobal.BEGIN :=
    congrArg InstanceSettings.BEGIN hsettings
  have henable : l'.perPTPInstanceGlobal.instanceEnable =
      l.perPTPInstanceGlobal.instanceEnable :=
    congrArg InstanceSettings.instanceEnable hsettings
  unfold resetting
  rw [hbegin, henable]

theorem eligible_of_environment (h : l'.environment = l.environment)
    (i : PortIndex) : Eligible pss l' i <-> Eligible pss l i := by
  have hsettings := settings_of_environment h
  have hstate : l'.perPTPInstanceGlobal.selectedState =
      l.perPTPInstanceGlobal.selectedState :=
    congrArg Environment.selectedState h
  unfold Eligible masterReady
  rw [thisPort_of_settings hsettings i, portReady_of_settings hsettings i,
    hstate]

theorem mdSyncFor_of_settings (h : l'.settings = l.settings) (i : PortIndex) :
    mdSyncFor pss l' i = mdSyncFor pss l i := by
  have hclock : l'.perPTPInstanceGlobal.thisClock =
      l.perPTPInstanceGlobal.thisClock :=
    congrArg InstanceSettings.thisClock (instanceSettings_of_settings h)
  have hlog : (l'.perPortGlobal i).currentLogSyncInterval =
      (l.perPortGlobal i).currentLogSyncInterval :=
    congrFun (congrArg Settings.currentLogSyncInterval h) i
  unfold mdSyncFor setMDSync
  rw [hclock, hlog, thisPort_of_settings h i]
  rfl

theorem environment_of_sendView (h : l'.sendView = l.sendView) :
    l'.environment = l.environment :=
  congrArg
    (fun v => v.outputView.siteView.receiveView.environment) h

/-- The senders of a port rest as long as nothing is written to them. -/
theorem Rests.of_unchanged {i : PortIndex} (hrest : Rests l i)
    (hsettings : l'.settings = l.settings)
    (hlocked : (l'.perPortGlobal i).syncLocked =
      (l.perPortGlobal i).syncLocked)
    (hsms : l'.portSyncSyncSendSms i = l.portSyncSyncSendSms i)
    (hbelow : l'.mdSyncSendSms i = l.mdSyncSendSms i) : Rests l' i := by
  refine ⟨?_, ?_, ?_, ?_⟩
  · rw [hsms, hlocked]
    exact hrest.control
  · rw [hsms]
    exact hrest.received
  · rw [hsms]
    exact hrest.transmitted
  · have hload : loadMDSyncSend l' i =
        (loadMDSyncSend l i).withGlobals l'.perPTPInstanceGlobal
          (l'.perPortGlobal i) := by
      unfold loadMDSyncSend MDSyncSendMachine.withGlobals
      rw [hbelow]
    rw [hload]
    exact hrest.below.withGlobals (instanceSettings_of_settings hsettings)
      (portSettings_of_settings hsettings i)

end Globals

/-!
## The loop over the ports
-/

/-- The calls of the machines below for a structure. -/
def sends (pss : PortSyncSync) (l : SyncLoop) (ports : List PortIndex) :
    List Call :=
  (ports.filter fun i => decide (Eligible pss l i)).map fun i =>
    .mdSyncSend i (mdSyncFor pss l i)

theorem sends_cons (pss : PortSyncSync) (l : SyncLoop) (i : PortIndex)
    (ports : List PortIndex) :
    sends pss l (i :: ports) =
      (if Eligible pss l i then [.mdSyncSend i (mdSyncFor pss l i)] else []) ++
        sends pss l ports := by
  unfold sends
  by_cases h : Eligible pss l i <;> simp [h]

theorem sends_of_environment {l l' : SyncLoop} (pss : PortSyncSync)
    (h : l'.environment = l.environment) (ports : List PortIndex) :
    sends pss l' ports = sends pss l ports := by
  unfold sends
  simp only [eligible_of_environment h,
    mdSyncFor_of_settings (settings_of_environment h)]

/-- What the senders of some ports have done with a structure. -/
structure Distributed (pss : PortSyncSync) (ports : List PortIndex)
    (l l' : SyncLoop) : Prop where
  running : l'.stop = none
  view : l'.sendView = l.sendView
  rests : forall i, Rests l' i
  calls : l'.calls = l.calls ++ sends pss l ports
  instanceGlobal : l'.perPTPInstanceGlobal =
    if exists i, i ∈ ports ∧ Eligible pss l i then
      withSyncReceiptTimeoutTime pss.syncReceiptTimeoutTime
        l.perPTPInstanceGlobal
    else
      l.perPTPInstanceGlobal
  below : forall i, l'.mdSyncSendSms i =
    if i ∈ ports ∧ Eligible pss l i then
      handedOver i pss l
    else
      l.mdSyncSendSms i

/-- The next port finds what the first one would have found. -/
theorem handedOver_of_handled {pss : PortSyncSync} {i j : PortIndex}
    {l l' : SyncLoop} (h : Handled pss i l l') (hj : j ≠ i)
    (henvironment : l'.environment = l.environment) :
    handedOver j pss l' = handedOver j pss l := by
  have hinstance : withSyncReceiptTimeoutTime pss.syncReceiptTimeoutTime
        l'.perPTPInstanceGlobal =
      withSyncReceiptTimeoutTime pss.syncReceiptTimeoutTime
        l.perPTPInstanceGlobal := by
    rw [h.instanceGlobal]
    split
    · rfl
    · rfl
  unfold handedOver offered
  rw [mdSyncFor_of_settings (settings_of_environment henvironment), hinstance,
    (h.others j hj).left]
  unfold loadMDSyncSend MDSyncSendMachine.withGlobals
  rw [(h.others j hj).right.right]

theorem distributed_nil {pss : PortSyncSync} {l : SyncLoop}
    (hrunning : l.stop = none) (hrest : forall i, Rests l i) :
    Distributed pss [] l l where
  running := hrunning
  view := rfl
  rests := hrest
  calls := (List.append_nil _).symm
  instanceGlobal := by simp
  below i := by simp

theorem distributed_cons {pss : PortSyncSync} {i : PortIndex}
    {ports : List PortIndex} {l l' l'' : SyncLoop} (hmem : i ∉ ports)
    (hview : l'.sendView = l.sendView) (hfirst : Handled pss i l l')
    (hrest : Distributed pss ports l' l'') :
    Distributed pss (i :: ports) l l'' := by
  have henvironment := environment_of_sendView hview
  refine ⟨hrest.running, hrest.view.trans hview, hrest.rests, ?_, ?_,
    fun j => ?_⟩
  · rw [hrest.calls, hfirst.calls, sends_cons,
      sends_of_environment pss henvironment, List.append_assoc]
  · rw [hrest.instanceGlobal, hfirst.instanceGlobal]
    simp only [eligible_of_environment henvironment, List.mem_cons,
      or_and_right, exists_or, exists_eq_left]
    by_cases hi : Eligible pss l i
    · simp only [hi, if_true, true_or]
      split
      · rfl
      · rfl
    · simp only [hi, if_false, false_or]
  · rw [hrest.below]
    by_cases hj : j = i
    · subst hj
      rw [if_neg (fun h => hmem h.left), hfirst.below]
      simp
    · rw [handedOver_of_handled hfirst hj henvironment,
        (hfirst.others j hj).right.right]
      simp only [eligible_of_environment henvironment, List.mem_cons, hj,
        false_or]

theorem distributed_foldl (ts : UScaledNs) {pss : PortSyncSync}
    {ports : List PortIndex} (hports : ports.Nodup) {l : SyncLoop}
    (hoperating : l.resetting = false) (hrunning : l.stop = none)
    (hrest : forall i, Rests l i) :
    Distributed pss ports l
      (ports.foldl (fun l i => l.thenDo (recvPSSync i ts pss)) l) := by
  induction ports generalizing l with
  | nil => exact distributed_nil hrunning hrest
  | cons i ports ih =>
      have hview := sendView_recvPSSync i ts pss l
      have henvironment := environment_of_sendView hview
      have hfirst := @handled_recvPSSync l i ts pss hoperating hrunning
        (hrest i)
      rw [List.foldl_cons, thenDo_running hrunning]
      refine distributed_cons (List.nodup_cons.mp hports).left hview hfirst
        (ih (List.nodup_cons.mp hports).right ?_ hfirst.running fun j => ?_)
      · rw [resetting_of_settings (settings_of_environment henvironment)]
        exact hoperating
      · by_cases hj : j = i
        · subst hj
          exact hfirst.rests
        · obtain ⟨hport, hsms, hbelow⟩ := hfirst.others j hj
          exact (hrest j).of_unchanged (settings_of_environment henvironment)
            (congrArg PerPortGlobal.syncLocked hport) hsms hbelow

theorem foldl_stopped {α : Type} (statement : α -> SyncLoop -> SyncLoop)
    (as : List α) {l : SyncLoop} (hstop : l.stop ≠ none) :
    as.foldl (fun l a => l.thenDo (statement a)) l = l := by
  induction as with
  | nil => rfl
  | cons a as ih => rw [List.foldl_cons, thenDo_stopped hstop, ih]

end PortSyncSyncSendSM

namespace SiteSyncSyncSM

open SiteSyncSyncSMState SyncLoop

/-!
## Calls
-/

/-- The site and the machines below it wait for a call. -/
structure Rests (l : SyncLoop) : Prop where
  control : exists s, s ≠ init ∧ l.siteSyncSyncSm.control = .rest s
  received : l.siteSyncSyncSm.rcvdPSSyncPtrSSS ≠ .released
  transmitted : l.siteSyncSyncSm.txPSSyncPtrSSS ≠ .released
  slave : l.clockSlaveSyncSm.Rests
  senders : forall i, PortSyncSyncSendSM.Rests l i

/-- The variables once a structure has been stored. -/
def stored (pss : PortSyncSync) (l : SyncLoop) : SyncLoop :=
  storePSSync pss (l.call (.siteSyncSync pss))

/-- The variables at the calls of the machines below. -/
def forwarding (pss : PortSyncSync) (l : SyncLoop) : SyncLoop :=
  setPSSyncSend pss (clearFlag (stored pss l))

/-- The variables after the action of the site. -/
def forwarded (ts : UScaledNs) (pss : PortSyncSync) (l : SyncLoop) : SyncLoop :=
  (txPSSync ts pss (forwarding pss l)).thenDo
    (setParentLogSyncInterval pss.logMessageInterval)

section Calls

variable {l : SyncLoop} {ts : UScaledNs} {pss : PortSyncSync}

theorem transition_stored {s : SiteSyncSyncSMState} (hs : s ≠ init) :
    (machine ts).program.transition s (stored pss l) =
      .ok (if fromSlavePort l pss then
          (if s = initializing then .goto receivingSync
            else .reenter receivingSync)
        else .goto s) := by
  cases s with
  | init => exact absurd rfl hs
  | initializing =>
      change (if fromSlavePort l pss = true then _ else _) = _
      split
      · rfl
      · rfl
  | receivingSync =>
      change (if true = true ∧ fromSlavePort l pss = true then _ else _) = _
      by_cases hslave : fromSlavePort l pss = true
      · rw [if_pos ⟨rfl, hslave⟩, if_pos hslave]
        rfl
      · rw [if_neg fun h => hslave h.right, if_neg hslave]
        rfl

theorem recvPSSync_eq_run (hrest : Rests l) :
    recvPSSync ts pss l = (machine ts).run passes (stored pss l) :=
  freeThen_owned hrest.received _ _

theorem ready_stored (hoperating : l.resetting = false)
    (s : SiteSyncSyncSMState) : (machine ts).ready (stored pss l) s = s := by
  change (if l.resetting = true then _ else _) = _
  rw [hoperating]
  rfl

theorem recvPSSync_ignored (hoperating : l.resetting = false)
    (hrunning : l.stop = none) (hrest : Rests l)
    (hnot : fromSlavePort l pss = false) :
    recvPSSync ts pss l =
      (machine ts).store l.siteSyncSyncSm.control (stored pss l) := by
  obtain ⟨s, hs, hcontrol⟩ := hrest.control
  have hcontrol' : (machine ts).control (stored pss l) = .rest s := hcontrol
  rw [recvPSSync_eq_run hrest, hcontrol]
  refine Embedded.run_idle 15 hcontrol' (ready_stored hoperating s) hrunning ?_
  rw [transition_stored hs, hnot]
  rfl

theorem action_stored (hrest : Rests l) :
    (machine ts).program.action receivingSync (stored pss l) =
      forwarded ts pss l := by
  have howned : (stored pss l).siteSyncSyncSm.txPSSyncPtrSSS ≠ .released :=
    hrest.transmitted
  change receivingSyncAction ts (stored pss l) = _
  unfold receivingSyncAction
  rw [freeThen_owned howned]
  rfl

theorem settled_forwarded :
    (machine ts).program.Settled receivingSync (forwarded ts pss l) := by
  have hview : (txPSSync ts pss (forwarding pss l)).outputView =
      (forwarding pss l).outputView := outputView_txPSSync ts pss _
  have hsite : (txPSSync ts pss (forwarding pss l)).siteSyncSyncSm =
      (forwarding pss l).siteSyncSyncSm :=
    congrArg OutputView.siteSyncSyncSm hview
  unfold forwarded SyncLoop.thenDo
  split
  case isTrue hstop => exact Or.inl hstop
  case isFalse =>
    refine Or.inr ?_
    change receivingSyncStateTransition _ = _
    unfold receivingSyncStateTransition setParentLogSyncInterval
    dsimp only
    rw [hsite]
    rfl

theorem recvPSSync_forwarded (hoperating : l.resetting = false)
    (hrunning : l.stop = none) (hrest : Rests l)
    (hslave : fromSlavePort l pss = true) :
    recvPSSync ts pss l =
      (machine ts).store (.rest receivingSync) (forwarded ts pss l) := by
  obtain ⟨s, hs, hcontrol⟩ := hrest.control
  have hcontrol' : (machine ts).control (stored pss l) = .rest s := hcontrol
  have hready := @ready_stored l ts pss hoperating s
  have hnext := @transition_stored l ts pss s hs
  have hsettled : (machine ts).program.Settled receivingSync
      ((machine ts).program.action receivingSync (stored pss l)) := by
    rw [action_stored hrest]
    exact settled_forwarded
  rw [if_pos hslave] at hnext
  rw [recvPSSync_eq_run hrest, ← action_stored hrest]
  cases s with
  | init => exact absurd rfl hs
  | initializing =>
      exact Embedded.run_goto 14 hcontrol' hready hrunning hnext (by simp)
        hsettled
  | receivingSync =>
      exact Embedded.run_reenter 14 hcontrol' hready hrunning hnext hsettled

theorem rests_ignored (hrest : Rests l) :
    Rests ((machine ts).store l.siteSyncSyncSm.control (stored pss l)) :=
  ⟨hrest.control, Ptr.live_ne_released pss, hrest.transmitted, hrest.slave,
    fun i => (hrest.senders i).of_unchanged rfl rfl rfl rfl⟩

end Calls

/-!
## What a structure from the slave port leads to
-/

/-- The ports in the order in which the site calls them. -/
abbrev ports : List PortIndex := List.finRange nPorts

/-- What the site and the machines below it have done with a structure. -/
structure Forwarded (pss : PortSyncSync) (l l' : SyncLoop) : Prop where
  rests : Rests l'
  instanceGlobal : l'.perPTPInstanceGlobal =
    { (if exists i, PortSyncSyncSendSM.Eligible pss l i then
          PortSyncSyncSendSM.withSyncReceiptTimeoutTime
            pss.syncReceiptTimeoutTime (ClockSlaveSyncSM.recorded pss l)
        else
          ClockSlaveSyncSM.recorded pss l) with
      parentLogSyncInterval := pss.logMessageInterval }
  below : forall i, PortSyncSyncSendSM.Eligible pss l i ->
    exists m : MDSyncSendMachine, m.AtRest ∧
      (exists g port, instanceSettings g =
          instanceSettings l.perPTPInstanceGlobal ∧
        portSettings port = portSettings (l.perPortGlobal i) ∧
        m = (PortSyncSyncSendSM.loadMDSyncSend l i).withGlobals g port) ∧
      l'.mdSyncSendSms i =
        m.step (.recvMDSync (PortSyncSyncSendSM.mdSyncFor pss l i))
  others : forall i, ¬ PortSyncSyncSendSM.Eligible pss l i ->
    l'.mdSyncSendSms i = l.mdSyncSendSms i

section Forwarding

variable {l : SyncLoop} (ts : UScaledNs) {pss : PortSyncSync}

theorem slaveView_forwarding :
    (ClockSlaveSyncSM.recvPSSync pss (forwarding pss l)).slaveView =
      (forwarding pss l).slaveView :=
  ClockSlaveSyncSM.slaveView_recvPSSync pss _

theorem environment_slaved :
    (ClockSlaveSyncSM.recvPSSync pss (forwarding pss l)).environment =
      l.environment :=
  congrArg (fun v => v.outputView.siteView.receiveView.environment)
    (@slaveView_forwarding l pss)

theorem settings_slaved :
    (ClockSlaveSyncSM.recvPSSync pss (forwarding pss l)).settings =
      l.settings :=
  settings_of_environment environment_slaved

theorem calls_slaved (hoperating : l.resetting = false)
    (hrunning : l.stop = none) (hrest : Rests l) :
    (ClockSlaveSyncSM.recvPSSync pss (forwarding pss l)).calls =
      l.calls ++ .siteSyncSync pss ::
        .setRtcSyncOffset
          (ClockSlaveSyncSM.syncOffset (ClockSlaveSyncSM.recorded pss l)).1
          (ClockSlaveSyncSM.syncOffset (ClockSlaveSyncSM.recorded pss l)).2 ::
        ClockSlaveSyncSM.divisions pss l := by
  have hcalls := @ClockSlaveSyncSM.calls_recvPSSync (forwarding pss l) pss
    hoperating hrunning hrest.slave
  rw [hcalls]
  exact List.append_assoc l.calls [.siteSyncSync pss] _

theorem stop_slaved (hoperating : l.resetting = false)
    (hrunning : l.stop = none) (hrest : Rests l) :
    (ClockSlaveSyncSM.recvPSSync pss (forwarding pss l)).stop = none <->
      ¬ ClockSlaveSyncSM.Stuck pss l :=
  @ClockSlaveSyncSM.stop_recvPSSync (forwarding pss l) pss hoperating hrunning
    hrest.slave

theorem senders_slaved (hrest : Rests l) (i : PortIndex) :
    PortSyncSyncSendSM.Rests
      (ClockSlaveSyncSM.recvPSSync pss (forwarding pss l)) i := by
  have hview := @slaveView_forwarding l pss
  have hport := congrFun (congrArg SlaveView.perPortGlobal hview) i
  exact (hrest.senders i).of_unchanged settings_slaved
    (congrArg PerPortGlobal.syncLocked hport)
    (congrFun (congrArg SlaveView.portSyncSyncSendSms hview) i)
    (congrFun (congrArg SlaveView.mdSyncSendSms hview) i)

theorem load_slaved (i : PortIndex) (g : PerPTPInstanceGlobal)
    (port : PerPortGlobal) :
    (PortSyncSyncSendSM.loadMDSyncSend
        (ClockSlaveSyncSM.recvPSSync pss (forwarding pss l)) i).withGlobals
          g port =
      (PortSyncSyncSendSM.loadMDSyncSend l i).withGlobals g port := by
  have hbelow :
      (ClockSlaveSyncSM.recvPSSync pss (forwarding pss l)).mdSyncSendSms i =
        l.mdSyncSendSms i :=
    congrFun (congrArg SlaveView.mdSyncSendSms (@slaveView_forwarding l pss)) i
  unfold PortSyncSyncSendSM.loadMDSyncSend MDSyncSendMachine.withGlobals
  rw [hbelow]

theorem distributed_slaved (hoperating : l.resetting = false)
    (hrest : Rests l)
    (hstop : (ClockSlaveSyncSM.recvPSSync pss (forwarding pss l)).stop =
      none) :
    PortSyncSyncSendSM.Distributed pss ports
      (ClockSlaveSyncSM.recvPSSync pss (forwarding pss l))
      (txPSSync ts pss (forwarding pss l)) := by
  refine PortSyncSyncSendSM.distributed_foldl ts (List.nodup_finRange nPorts)
    ?_ hstop (senders_slaved hrest)
  rw [PortSyncSyncSendSM.resetting_of_settings settings_slaved]
  exact hoperating

theorem calls_setParent (log : Int8) :
    Keeps SyncLoop.calls (setParentLogSyncInterval log) := fun _ => rfl

theorem stop_setParent (log : Int8) :
    Keeps SyncLoop.stop (setParentLogSyncInterval log) := fun _ => rfl

section Accepted

variable (hoperating : l.resetting = false) (hrunning : l.stop = none)
  (hrest : Rests l) (hslave : fromSlavePort l pss = true)

include hoperating hrunning hrest hslave

theorem stop_recvPSSync :
    (recvPSSync ts pss l).stop = none <->
      ¬ ClockSlaveSyncSM.Stuck pss l := by
  rw [recvPSSync_forwarded hoperating hrunning hrest hslave]
  change (forwarded ts pss l).stop = none <-> _
  unfold forwarded
  rw [(stop_setParent pss.logMessageInterval).thenDo,
    ← stop_slaved hoperating hrunning hrest]
  by_cases hstop : (ClockSlaveSyncSM.recvPSSync pss (forwarding pss l)).stop =
      none
  · simp only [hstop, (distributed_slaved ts hoperating hrest hstop).running]
  · unfold txPSSync
    rw [PortSyncSyncSendSM.foldl_stopped _ _ hstop]

theorem calls_recvPSSync_stuck (hstuck : ClockSlaveSyncSM.Stuck pss l) :
    (recvPSSync ts pss l).calls =
      l.calls ++ .siteSyncSync pss ::
        .setRtcSyncOffset
          (ClockSlaveSyncSM.syncOffset (ClockSlaveSyncSM.recorded pss l)).1
          (ClockSlaveSyncSM.syncOffset (ClockSlaveSyncSM.recorded pss l)).2 ::
        ClockSlaveSyncSM.divisions pss l := by
  have hstop := fun h => (stop_slaved hoperating hrunning hrest).mp h hstuck
  rw [recvPSSync_forwarded hoperating hrunning hrest hslave]
  change (forwarded ts pss l).calls = _
  unfold forwarded txPSSync
  rw [(calls_setParent pss.logMessageInterval).thenDo,
    PortSyncSyncSendSM.foldl_stopped _ _ hstop,
    calls_slaved hoperating hrunning hrest]

theorem calls_recvPSSync (hstuck : ¬ ClockSlaveSyncSM.Stuck pss l) :
    (recvPSSync ts pss l).calls =
      l.calls ++ .siteSyncSync pss ::
        .setRtcSyncOffset
          (ClockSlaveSyncSM.syncOffset (ClockSlaveSyncSM.recorded pss l)).1
          (ClockSlaveSyncSM.syncOffset (ClockSlaveSyncSM.recorded pss l)).2 ::
        (ClockSlaveSyncSM.divisions pss l ++
          PortSyncSyncSendSM.sends pss l ports) := by
  have hstop := (stop_slaved hoperating hrunning hrest).mpr hstuck
  rw [recvPSSync_forwarded hoperating hrunning hrest hslave]
  change (forwarded ts pss l).calls = _
  unfold forwarded
  rw [(calls_setParent pss.logMessageInterval).thenDo,
    (distributed_slaved ts hoperating hrest hstop).calls,
    calls_slaved hoperating hrunning hrest,
    PortSyncSyncSendSM.sends_of_environment pss environment_slaved]
  exact List.append_assoc _ _ _

/-- What is recorded even if the structure goes no further. -/
theorem instance_recvPSSync_stuck (hstuck : ClockSlaveSyncSM.Stuck pss l) :
    (recvPSSync ts pss l).perPTPInstanceGlobal =
      ClockSlaveSyncSM.recorded pss l := by
  have hstop := fun h => (stop_slaved hoperating hrunning hrest).mp h hstuck
  have hinstance := @ClockSlaveSyncSM.instance_recvPSSync (forwarding pss l)
    pss hoperating hrunning hrest.slave
  rw [recvPSSync_forwarded hoperating hrunning hrest hslave]
  change (forwarded ts pss l).perPTPInstanceGlobal = _
  unfold forwarded txPSSync
  rw [PortSyncSyncSendSM.foldl_stopped _ _ hstop, thenDo_stopped hstop,
    hinstance]
  rfl

theorem forwarded_recvPSSync (hstuck : ¬ ClockSlaveSyncSM.Stuck pss l) :
    Forwarded pss l (recvPSSync ts pss l) := by
  have hstop := (stop_slaved hoperating hrunning hrest).mpr hstuck
  have hdist := distributed_slaved ts hoperating hrest hstop
  have hview := @slaveView_forwarding l pss
  have hslaveRests := @ClockSlaveSyncSM.rests_recvPSSync (forwarding pss l) pss
    hoperating hrunning hrest.slave
  have hinstance := @ClockSlaveSyncSM.instance_recvPSSync (forwarding pss l)
    pss hoperating hrunning hrest.slave
  have hsite : (txPSSync ts pss (forwarding pss l)).siteSyncSyncSm =
      (forwarding pss l).siteSyncSyncSm :=
    congrArg OutputView.siteSyncSyncSm (outputView_txPSSync ts pss _)
  have hclock : (txPSSync ts pss (forwarding pss l)).clockSlaveSyncSm =
      (ClockSlaveSyncSM.recvPSSync pss (forwarding pss l)).clockSlaveSyncSm :=
    congrArg SendView.clockSlaveSyncSm hdist.view
  rw [recvPSSync_forwarded hoperating hrunning hrest hslave]
  unfold forwarded
  rw [thenDo_running hdist.running]
  refine ⟨⟨⟨receivingSync, by simp, rfl⟩, ?_, ?_, ?_, fun i => ?_⟩, ?_,
    fun i heligible => ?_, fun i hnot => ?_⟩
  · change (txPSSync ts pss (forwarding pss l)).siteSyncSyncSm.rcvdPSSyncPtrSSS ≠
      .released
    rw [hsite]
    exact Ptr.live_ne_released pss
  · change (txPSSync ts pss (forwarding pss l)).siteSyncSyncSm.txPSSyncPtrSSS ≠
      .released
    rw [hsite]
    exact Ptr.live_ne_released pss
  · change (txPSSync ts pss (forwarding pss l)).clockSlaveSyncSm.Rests
    rw [hclock]
    exact hslaveRests
  · exact (hdist.rests i).of_unchanged rfl rfl rfl rfl
  · change
      { (txPSSync ts pss (forwarding pss l)).perPTPInstanceGlobal with
        parentLogSyncInterval := pss.logMessageInterval } = _
    rw [hdist.instanceGlobal, hinstance]
    simp only [PortSyncSyncSendSM.eligible_of_environment environment_slaved,
      List.mem_finRange, true_and]
    rfl
  · have heligible' :=
      (PortSyncSyncSendSM.eligible_of_environment
        (@environment_slaved l pss) i).mpr heligible
    refine ⟨PortSyncSyncSendSM.offered i pss
        (ClockSlaveSyncSM.recvPSSync pss (forwarding pss l)),
      PortSyncSyncSendSM.atRest_offered (senders_slaved hrest i),
      ⟨_, _, ?_, ?_, load_slaved i _ _⟩, ?_⟩
    · exact PortSyncSyncSendSM.instanceSettings_of_settings
        (@settings_slaved l pss)
    · exact PortSyncSyncSendSM.portSettings_of_settings
        (@settings_slaved l pss) i
    · change (txPSSync ts pss (forwarding pss l)).mdSyncSendSms i = _
      rw [hdist.below, if_pos ⟨List.mem_finRange i, heligible'⟩,
        ← PortSyncSyncSendSM.mdSyncFor_of_settings
          (@settings_slaved l pss) i]
      rfl
  · change (txPSSync ts pss (forwarding pss l)).mdSyncSendSms i = _
    rw [hdist.below, if_neg]
    · exact congrFun (congrArg SlaveView.mdSyncSendSms hview) i
    · rintro ⟨_, h⟩
      exact hnot
        ((PortSyncSyncSendSM.eligible_of_environment environment_slaved i).mp h)

end Accepted

end Forwarding

end SiteSyncSyncSM

end TimeSync
end Ziggo
