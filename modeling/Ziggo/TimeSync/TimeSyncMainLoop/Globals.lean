import Ziggo.TimeSync.AnnounceLoop.Invariant
import Ziggo.TimeSync.ClockMasterLoop.Invariant
import Ziggo.TimeSync.TimeSyncMainLoop.Announces
import Ziggo.TimeSync.TimeSyncMainLoop.ClockMaster
import Ziggo.TimeSync.TimeSyncMainLoop.Delays

/-!
# What the calls leave of the globals

The machines for `Announce` messages, for synchronization and for delays share
globals.  A call of one group changes little of what another group sees: the
selected states, `syncReceiptTimeoutTime`, and the delay of one link.
-/

namespace Ziggo
namespace TimeSync

open Foundation TsnDrivers

/-- The variables that exist once and that the groups of machines share. -/
structure Shared where
  perPTPInstanceGlobal : PerPTPInstanceGlobal
  perPortGlobal : PerPortGlobalArray
  mdEntityGlobal : PortIndex -> MDEntityGlobal

/-!
## Calls for synchronization
-/

theorem SyncLoop.environment_halt (f : Fault) :
    SyncLoop.Keeps SyncLoop.environment (SyncLoop.halt f) :=
  fun _ => rfl

namespace MDSyncReceiveSM

open SyncLoop

theorem environment_waitingForSyncAction (i : PortIndex) (ts : UScaledNs) :
    Keeps environment (waitingForSyncAction i ts) := by
  intro l
  refine keeps_withObject environment_halt (fun sync l => ?_) l _
  refine keeps_withObject environment_halt (fun followUp l => ?_) l _
  exact congrArg ReceiveView.environment
    (PortSyncSyncReceiveSM.receiveView_recvMDSync i ts _ _)

theorem environment_run (i : PortIndex) (ts : UScaledNs) :
    Keeps environment (run i ts) := by
  refine keeps_run (fun s => ?_) (fun _ _ => rfl) (fun _ _ => rfl) passes
  cases s with
  | init => exact fun _ => rfl
  | discard => exact fun _ => rfl
  | waitingForFollowUp => exact fun _ => rfl
  | waitingForSync => exact environment_waitingForSyncAction i ts

end MDSyncReceiveSM

namespace SyncLoop

/-- The event is a call of the loop, and not a change by the other groups. -/
def Event.IsCall : Event -> Prop
  | .select _ _ => False
  | .delay _ _ => False
  | .announce _ => False
  | _ => True

theorem environment_handle {e : Event} (he : e.IsCall) :
    Keeps environment (handle e) := by
  intro l
  cases e with
  | sync i ts tsuTimestamp message =>
      refine keeps_freeThen environment_halt (fun l => ?_) l _
      exact MDSyncReceiveSM.environment_run i ts _
  | followUp i ts message =>
      refine keeps_freeThen environment_halt (fun l => ?_) l _
      exact MDSyncReceiveSM.environment_run i ts _
  | timeout i ts => exact MDSyncReceiveSM.environment_run i ts l
  | clockMaster ts pss =>
      exact congrArg (fun v => v.receiveView.environment)
        (SiteSyncSyncSM.siteView_recvPSSync ts pss l)
  | txts i tsuTimestamp => rfl
  | select | delay | announce => exact he.elim

/-- The calls of the machines do not write what they read from other groups. -/
theorem environment_step (l : SyncLoop) {e : Event} (he : e.IsCall) :
    (l.step e).environment = l.environment :=
  (environment_handle he).thenDo l

end SyncLoop

namespace ClockMasterLoop

open SyncLoop

theorem environment_runSyncSend (ts : UScaledNs) (w : ClockMasterLoop) :
    (w.runSyncSend ts).syncLoop.environment = w.syncLoop.environment := by
  refine Embedded.run_preserves (M := ClockMasterSyncSendSM.machine ts)
    (I := fun w' => w'.syncLoop.environment = w.syncLoop.environment) ?_ ?_ ?_
    _ rfl
  · intro s w' hw'
    cases s with
    | init => exact hw'
    | initializing => exact hw'
    | sendSyncIndication =>
        have hpassed : forall pss, (ClockMasterSyncSendSM.txPSSyncCMSS ts pss
            (ClockMasterSyncSendSM.storePSSync pss w')).syncLoop.environment =
              w.syncLoop.environment := fun pss =>
          (congrArg (fun v => v.receiveView.environment)
            (SiteSyncSyncSM.siteView_recvPSSync ts pss w'.syncLoop)).trans hw'
        change (ClockMasterSyncSendSM.sendSyncIndicationAction ts
          w').syncLoop.environment = _
        unfold ClockMasterSyncSendSM.sendSyncIndicationAction
        split
        · exact hw'
        · dsimp only
          split
          · exact hpassed _
          · exact hpassed _
  · exact fun _ _ hw' => hw'
  · exact fun _ _ hw' => hw'

theorem environment_tick (w : ClockMasterLoop) (r : ClockReading) :
    (w.step (.tick r)).syncLoop.environment = w.syncLoop.environment := by
  unfold step thenDo
  split
  · rfl
  · change (updateMasterTime r.timestamp w).syncLoop.environment = _
    unfold updateMasterTime thenDo
    split
    · rfl
    · exact environment_runSyncSend _ _

end ClockMasterLoop

/-!
## What a group sees
-/

namespace Shared

def select (selectedState : Port -> PortState) (gmPresent : Bool) (s : Shared) :
    Shared :=
  { s with
    perPTPInstanceGlobal :=
      { s.perPTPInstanceGlobal with
        selectedState := selectedState
        gmPresent := gmPresent } }

def setSyncReceiptTimeoutTime (time : UScaledNs) (s : Shared) : Shared :=
  { s with
    perPTPInstanceGlobal :=
      { s.perPTPInstanceGlobal with syncReceiptTimeoutTime := time } }

def setMeanLinkDelay (i : PortIndex) (meanLinkDelay : UScaledNs) (s : Shared) :
    Shared :=
  { s with
    perPortGlobal :=
      Function.update s.perPortGlobal i
        { s.perPortGlobal i with meanLinkDelay := meanLinkDelay } }

/-- The machines for `Announce` messages see no difference. -/
structure SameForAnnounce (s s' : Shared) : Prop where
  perPTPInstanceGlobal : s'.perPTPInstanceGlobal =
    besideAnnounce s'.perPTPInstanceGlobal s.perPTPInstanceGlobal
  perPortGlobal : forall i,
    PortBeside (s'.perPortGlobal i) (s.perPortGlobal i) (s'.perPortGlobal i)

/-- The machines for synchronization see no difference. -/
structure SameForSync (s s' : Shared) : Prop where
  perPTPInstanceGlobal : s'.perPTPInstanceGlobal =
    besideSync s'.perPTPInstanceGlobal s.perPTPInstanceGlobal
  perPortGlobal : forall i, exists interval, s'.perPortGlobal i =
    besideSyncPort (s'.perPortGlobal i) interval (s.perPortGlobal i)
  mdEntityGlobal : forall i, s'.mdEntityGlobal i =
    besideSyncEntity (s'.mdEntityGlobal i) (s.mdEntityGlobal i)

/-- The machines for the delay of link `i` see no difference. -/
structure SameForPdelay (i : PortIndex) (s s' : Shared) : Prop where
  perPTPInstanceGlobal : s'.perPTPInstanceGlobal =
    besidePdelay s'.perPTPInstanceGlobal s.perPTPInstanceGlobal
  perPortGlobal : s'.perPortGlobal i =
    besidePdelayPort (s'.perPortGlobal i) (s.perPortGlobal i)
  mdEntityGlobal : s'.mdEntityGlobal i =
    besidePdelayEntity (s'.mdEntityGlobal i).syncSequenceId (s.mdEntityGlobal i)

/-- The responder of link `i` sees no difference. -/
structure SameForPdelayResp (i : PortIndex) (s s' : Shared) : Prop where
  perPTPInstanceGlobal : s'.perPTPInstanceGlobal =
    besidePdelay s'.perPTPInstanceGlobal s.perPTPInstanceGlobal
  perPortGlobal : s'.perPortGlobal i =
    besidePdelayRespPort (s'.perPortGlobal i) (s.perPortGlobal i)

theorem SameForPdelay.resp {i : PortIndex} {s s' : Shared}
    (h : s.SameForPdelay i s') : s.SameForPdelayResp i s' := by
  refine ⟨h.perPTPInstanceGlobal, ?_⟩
  rw [h.perPortGlobal]
  rfl

end Shared

theorem besidePdelay_of_settings {g g' : PerPTPInstanceGlobal}
    (h : instanceSettings g' = instanceSettings g) :
    g' = besidePdelay g' g := by
  have hbegin : g'.BEGIN = g.BEGIN := congrArg InstanceSettings.BEGIN h
  have hclock : g'.thisClock = g.thisClock :=
    congrArg InstanceSettings.thisClock h
  unfold besidePdelay
  rw [← hbegin, ← hclock]

/-!
## What the calls change
-/

namespace AnnounceLoop

open Shared

theorem beside_refl (l : AnnounceLoop) :
    l.Beside l.perPTPInstanceGlobal l.perPortGlobal l where
  perPTPInstanceGlobal := rfl
  perPortGlobal i :=
    ⟨(l.perPortGlobal i).syncReceiptTimeoutTimeInterval, rfl⟩
  portStateSelectionSm := ⟨rfl, rfl, _, _, rfl⟩
  portAnnounceInformationSms _ := ⟨rfl, rfl, _, _, rfl⟩
  portAnnounceInformationExtSms _ := ⟨rfl, rfl, _, _, rfl⟩
  portAnnounceTransmitSms _ := ⟨rfl, rfl, _, _, rfl⟩
  process := rfl

def shared (l : AnnounceLoop) (es : PortIndex -> MDEntityGlobal) : Shared where
  perPTPInstanceGlobal := l.perPTPInstanceGlobal
  perPortGlobal := l.perPortGlobal
  mdEntityGlobal := es

/-- What a statement leaves of the globals, apart from its own ones. -/
structure Leaves (l l' : AnnounceLoop) : Prop where
  beside : l'.Beside l.perPTPInstanceGlobal l.perPortGlobal l'
  global : instanceSettings l'.perPTPInstanceGlobal =
    instanceSettings l.perPTPInstanceGlobal
  port : forall i,
    portSettings (l'.perPortGlobal i) = portSettings (l.perPortGlobal i)

section Leaves

variable {config : Config} {l l' : AnnounceLoop}

theorem Configured.leaves (h : Configured config l) (h' : Configured config l')
    (hbeside : l'.Beside l.perPTPInstanceGlobal l.perPortGlobal l') :
    l.Leaves l' :=
  ⟨hbeside, h'.global.trans h.global.symm,
    fun i => (h'.port i).trans (h.port i).symm⟩

theorem Leaves.sameForSync (h : l.Leaves l') (es : PortIndex -> MDEntityGlobal) :
    SameForSync
      (((l.shared es).select l'.perPTPInstanceGlobal.selectedState
        l'.perPTPInstanceGlobal.gmPresent).setSyncReceiptTimeoutTime
          l'.perPTPInstanceGlobal.syncReceiptTimeoutTime)
      (l'.shared es) where
  perPTPInstanceGlobal := by
    have hbegin : l'.perPTPInstanceGlobal.BEGIN = l.perPTPInstanceGlobal.BEGIN :=
      congrArg InstanceSettings.BEGIN h.global
    have henable : l'.perPTPInstanceGlobal.instanceEnable =
        l.perPTPInstanceGlobal.instanceEnable :=
      congrArg InstanceSettings.instanceEnable h.global
    have hclock : l'.perPTPInstanceGlobal.thisClock =
        l.perPTPInstanceGlobal.thisClock :=
      congrArg InstanceSettings.thisClock h.global
    refine h.beside.perPTPInstanceGlobal.trans ?_
    unfold besideAnnounce
    rw [hbegin, henable, hclock]
    rfl
  perPortGlobal i := by
    obtain ⟨interval, hport⟩ := h.beside.perPortGlobal i
    have hsettings := h.port i
    have hcapable : (l'.perPortGlobal i).asCapable =
        (l.perPortGlobal i).asCapable :=
      congrArg PortSettings.asCapable hsettings
    have hmode : (l'.perPortGlobal i).asymmetryMeasurementMode =
        (l.perPortGlobal i).asymmetryMeasurementMode :=
      congrArg PortSettings.asymmetryMeasurementMode hsettings
    have hoper : (l'.perPortGlobal i).portOper = (l.perPortGlobal i).portOper :=
      congrArg PortSettings.portOper hsettings
    have henabled : (l'.perPortGlobal i).ptpPortEnabled =
        (l.perPortGlobal i).ptpPortEnabled :=
      congrArg PortSettings.ptpPortEnabled hsettings
    have hthis : (l'.perPortGlobal i).thisPort = (l.perPortGlobal i).thisPort :=
      congrArg PortSettings.thisPort hsettings
    refine ⟨interval, ?_⟩
    change l'.perPortGlobal i =
      besideSyncPort (l'.perPortGlobal i) interval (l.perPortGlobal i)
    rw [hport]
    unfold besideAnnouncePort
    rw [hcapable, hmode, hoper, henabled, hthis]
    rfl
  mdEntityGlobal i := rfl

theorem Leaves.sameForPdelay (h : l.Leaves l')
    (es : PortIndex -> MDEntityGlobal) (i : PortIndex) :
    SameForPdelay i (l.shared es) (l'.shared es) where
  perPTPInstanceGlobal := besidePdelay_of_settings h.global
  perPortGlobal := by
    obtain ⟨interval, hport⟩ := h.beside.perPortGlobal i
    have hsettings := h.port i
    have hmode : (l'.perPortGlobal i).asymmetryMeasurementMode =
        (l.perPortGlobal i).asymmetryMeasurementMode :=
      congrArg PortSettings.asymmetryMeasurementMode hsettings
    have hoper : (l'.perPortGlobal i).portOper = (l.perPortGlobal i).portOper :=
      congrArg PortSettings.portOper hsettings
    have hthis : (l'.perPortGlobal i).thisPort = (l.perPortGlobal i).thisPort :=
      congrArg PortSettings.thisPort hsettings
    refine hport.trans ?_
    change _ = besidePdelayPort (l'.perPortGlobal i) (l.perPortGlobal i)
    rw [hport]
    unfold besideAnnouncePort
    dsimp only
    rw [hmode, hoper, hthis]
    rfl
  mdEntityGlobal := rfl

end Leaves

end AnnounceLoop

namespace SyncLoop

open Shared

/-- The globals of the entities, which the senders of the ports hold. -/
def entities (l : SyncLoop) (i : PortIndex) : MDEntityGlobal :=
  (l.mdSyncSendSms i).vars.mdEntityGlobal

def shared (l : SyncLoop) : Shared where
  perPTPInstanceGlobal := l.perPTPInstanceGlobal
  perPortGlobal := l.perPortGlobal
  mdEntityGlobal := l.entities

theorem beside_refl (l : SyncLoop) :
    l.Beside l.perPTPInstanceGlobal l.perPortGlobal l.entities l :=
  ⟨{ intervals := fun i => (l.perPortGlobal i).syncReceiptTimeoutTimeInterval
     perPTPInstanceGlobal := fun i =>
       (l.mdSyncSendSms i).vars.perPTPInstanceGlobal
     perPortGlobal := fun i => (l.mdSyncSendSms i).vars.perPortGlobal }, rfl⟩

/-- What a statement leaves of the globals, apart from its own ones. -/
structure Leaves (l l' : SyncLoop) : Prop where
  beside : l'.Beside l.perPTPInstanceGlobal l.perPortGlobal l.entities l'
  environment : l'.environment = l.environment

section Leaves

variable {l l' : SyncLoop}

theorem Leaves.portSettings (h : l.Leaves l') (i : PortIndex) :
    portSettings (l'.perPortGlobal i) = portSettings (l.perPortGlobal i) :=
  congrFun (congrArg (fun e => e.settings.portSettings) h.environment) i

theorem Leaves.instanceSettings (h : l.Leaves l') :
    instanceSettings l'.perPTPInstanceGlobal =
      instanceSettings l.perPTPInstanceGlobal :=
  congrArg (fun e => e.settings.instanceSettings) h.environment

theorem Leaves.sameForAnnounce (h : l.Leaves l') :
    SameForAnnounce
      (l.shared.setSyncReceiptTimeoutTime
        l'.perPTPInstanceGlobal.syncReceiptTimeoutTime)
      l'.shared where
  perPTPInstanceGlobal := by
    obtain ⟨s, hloop⟩ := h.beside
    have hglobal : l'.perPTPInstanceGlobal =
        besideSync l.perPTPInstanceGlobal l'.perPTPInstanceGlobal :=
      congrArg SyncLoop.perPTPInstanceGlobal hloop
    have hbegin : l'.perPTPInstanceGlobal.BEGIN = l.perPTPInstanceGlobal.BEGIN :=
      congrArg InstanceSettings.BEGIN h.instanceSettings
    have henable : l'.perPTPInstanceGlobal.instanceEnable =
        l.perPTPInstanceGlobal.instanceEnable :=
      congrArg InstanceSettings.instanceEnable h.instanceSettings
    have hclock : l'.perPTPInstanceGlobal.thisClock =
        l.perPTPInstanceGlobal.thisClock :=
      congrArg InstanceSettings.thisClock h.instanceSettings
    have hstate : l'.perPTPInstanceGlobal.selectedState =
        l.perPTPInstanceGlobal.selectedState :=
      congrArg Environment.selectedState h.environment
    have hpresent : l'.perPTPInstanceGlobal.gmPresent =
        l.perPTPInstanceGlobal.gmPresent :=
      congrArg Environment.gmPresent h.environment
    refine hglobal.trans ?_
    unfold besideSync
    rw [hbegin, henable, hclock, hstate, hpresent]
    rfl
  perPortGlobal i := by
    obtain ⟨s, hloop⟩ := h.beside
    have hport : l'.perPortGlobal i =
        besideSyncPort (l.perPortGlobal i) (s.intervals i) (l'.perPortGlobal i) :=
      congrFun (congrArg SyncLoop.perPortGlobal hloop) i
    have hcapable : (l'.perPortGlobal i).asCapable =
        (l.perPortGlobal i).asCapable :=
      congrArg PortSettings.asCapable (h.portSettings i)
    have hmode : (l'.perPortGlobal i).asymmetryMeasurementMode =
        (l.perPortGlobal i).asymmetryMeasurementMode :=
      congrArg PortSettings.asymmetryMeasurementMode (h.portSettings i)
    have hoper : (l'.perPortGlobal i).portOper = (l.perPortGlobal i).portOper :=
      congrArg PortSettings.portOper (h.portSettings i)
    have henabled : (l'.perPortGlobal i).ptpPortEnabled =
        (l.perPortGlobal i).ptpPortEnabled :=
      congrArg PortSettings.ptpPortEnabled (h.portSettings i)
    have hthis : (l'.perPortGlobal i).thisPort = (l.perPortGlobal i).thisPort :=
      congrArg PortSettings.thisPort (h.portSettings i)
    refine ⟨s.intervals i, ?_⟩
    change l'.perPortGlobal i = besideAnnouncePort (l'.perPortGlobal i)
      (s.intervals i) (l.perPortGlobal i)
    rw [hport]
    unfold besideSyncPort
    rw [hcapable, hmode, hoper, henabled, hthis]
    rfl

theorem Leaves.sameForPdelay (h : l.Leaves l') (i : PortIndex) :
    SameForPdelay i l.shared l'.shared where
  perPTPInstanceGlobal := besidePdelay_of_settings h.instanceSettings
  perPortGlobal := by
    obtain ⟨s, hloop⟩ := h.beside
    have hport : l'.perPortGlobal i =
        besideSyncPort (l.perPortGlobal i) (s.intervals i) (l'.perPortGlobal i) :=
      congrFun (congrArg SyncLoop.perPortGlobal hloop) i
    have hmode : (l'.perPortGlobal i).asymmetryMeasurementMode =
        (l.perPortGlobal i).asymmetryMeasurementMode :=
      congrArg PortSettings.asymmetryMeasurementMode (h.portSettings i)
    have hoper : (l'.perPortGlobal i).portOper = (l.perPortGlobal i).portOper :=
      congrArg PortSettings.portOper (h.portSettings i)
    have hthis : (l'.perPortGlobal i).thisPort = (l.perPortGlobal i).thisPort :=
      congrArg PortSettings.thisPort (h.portSettings i)
    have hdelay : (l'.perPortGlobal i).meanLinkDelay =
        (l.perPortGlobal i).meanLinkDelay :=
      congrFun (congrArg Environment.meanLinkDelay h.environment) i
    change l'.perPortGlobal i =
      besidePdelayPort (l'.perPortGlobal i) (l.perPortGlobal i)
    rw [hport]
    unfold besideSyncPort
    rw [hmode, hoper, hthis, hdelay]
    rfl
  mdEntityGlobal := by
    obtain ⟨s, hloop⟩ := h.beside
    have hentity : l'.entities i = besideSyncEntity (l.entities i)
        (l'.entities i) :=
      congrArg (fun l : SyncLoop => l.entities i) hloop
    change l'.entities i =
      besidePdelayEntity (l'.entities i).syncSequenceId (l.entities i)
    rw [hentity]
    rfl

end Leaves

end SyncLoop

namespace Shared

/-- The variables after a call of the initiator of link `i`. -/
def storePdelay (i : PortIndex) (sm : MDPdelayReqSM) (s : Shared) : Shared :=
  { s with
    perPortGlobal := Function.update s.perPortGlobal i sm.perPortGlobal
    mdEntityGlobal := Function.update s.mdEntityGlobal i sm.mdEntityGlobal }

/-- What the initiator of link `i` finds beside the globals that it writes. -/
def rest (s : Shared) (i : PortIndex) : MDPdelayReqSM.Rest where
  perPTPInstanceGlobal := s.perPTPInstanceGlobal
  perPortGlobal :=
    { s.perPortGlobal i with
      neighborRateRatio := 0
      meanLinkDelay := default }
  syncSequenceId := (s.mdEntityGlobal i).syncSequenceId

section Pdelay

variable {s : Shared} {i : PortIndex} {sm : MDPdelayReqSM}

theorem perPortGlobal_of_rest (h : sm.rest = s.rest i) :
    sm.perPortGlobal =
      { s.perPortGlobal i with
        neighborRateRatio := sm.perPortGlobal.neighborRateRatio
        meanLinkDelay := sm.perPortGlobal.meanLinkDelay } :=
  congrArg (fun r : MDPdelayReqSM.Rest =>
    { r.perPortGlobal with
      neighborRateRatio := sm.perPortGlobal.neighborRateRatio
      meanLinkDelay := sm.perPortGlobal.meanLinkDelay }) h

theorem portSettings_storePdelay (h : sm.rest = s.rest i) (j : PortIndex) :
    portSettings ((s.storePdelay i sm).perPortGlobal j) =
      portSettings (s.perPortGlobal j) := by
  have hport : portSettings sm.perPortGlobal =
      portSettings (s.perPortGlobal i) :=
    congrArg (fun r : MDPdelayReqSM.Rest => portSettings r.perPortGlobal) h
  exact congrFun (SyncLoop.map_update portSettings hport) j

theorem sameForAnnounce_storePdelay (h : sm.rest = s.rest i) :
    SameForAnnounce s (s.storePdelay i sm) where
  perPTPInstanceGlobal := rfl
  perPortGlobal := by
    have hself : forall j, PortBeside (s.perPortGlobal j) (s.perPortGlobal j)
        (s.perPortGlobal j) := fun j =>
      ⟨(s.perPortGlobal j).syncReceiptTimeoutTimeInterval, rfl⟩
    intro j
    by_cases hj : j = i
    · subst hj
      have hport : (s.storePdelay j sm).perPortGlobal j = sm.perPortGlobal :=
        Function.update_self _ _ _
      refine ⟨sm.perPortGlobal.syncReceiptTimeoutTimeInterval, ?_⟩
      rw [hport, perPortGlobal_of_rest h]
      rfl
    · have hport : (s.storePdelay i sm).perPortGlobal j = s.perPortGlobal j :=
        Function.update_of_ne hj _ _
      rw [hport]
      exact hself j

theorem sameForSync_storePdelay (h : sm.rest = s.rest i) :
    SameForSync (s.setMeanLinkDelay i sm.perPortGlobal.meanLinkDelay)
      (s.storePdelay i sm) where
  perPTPInstanceGlobal := rfl
  perPortGlobal j := by
    by_cases hj : j = i
    · subst hj
      have hport : (s.storePdelay j sm).perPortGlobal j = sm.perPortGlobal :=
        Function.update_self _ _ _
      have hdelay : (s.setMeanLinkDelay j
          sm.perPortGlobal.meanLinkDelay).perPortGlobal j =
            { s.perPortGlobal j with
              meanLinkDelay := sm.perPortGlobal.meanLinkDelay } :=
        Function.update_self _ _ _
      refine ⟨sm.perPortGlobal.syncReceiptTimeoutTimeInterval, ?_⟩
      rw [hport, hdelay, perPortGlobal_of_rest h]
      rfl
    · have hport : (s.storePdelay i sm).perPortGlobal j = s.perPortGlobal j :=
        Function.update_of_ne hj _ _
      have hdelay : (s.setMeanLinkDelay i
          sm.perPortGlobal.meanLinkDelay).perPortGlobal j = s.perPortGlobal j :=
        Function.update_of_ne hj _ _
      rw [hport, hdelay]
      exact ⟨(s.perPortGlobal j).syncReceiptTimeoutTimeInterval, rfl⟩
  mdEntityGlobal j := by
    by_cases hj : j = i
    · subst hj
      have hentity : (s.storePdelay j sm).mdEntityGlobal j = sm.mdEntityGlobal :=
        Function.update_self _ _ _
      have hid : sm.mdEntityGlobal.syncSequenceId =
          (s.mdEntityGlobal j).syncSequenceId :=
        congrArg MDPdelayReqSM.Rest.syncSequenceId h
      change (s.storePdelay j sm).mdEntityGlobal j =
        besideSyncEntity ((s.storePdelay j sm).mdEntityGlobal j)
          (s.mdEntityGlobal j)
      rw [hentity]
      unfold besideSyncEntity
      rw [← hid]
    · have hentity : (s.storePdelay i sm).mdEntityGlobal j =
          s.mdEntityGlobal j :=
        Function.update_of_ne hj _ _
      rw [hentity]
      rfl

theorem sameForPdelayResp_storePdelay (h : sm.rest = s.rest i)
    (j : PortIndex) : SameForPdelayResp j s (s.storePdelay i sm) where
  perPTPInstanceGlobal := rfl
  perPortGlobal := by
    by_cases hj : j = i
    · subst hj
      have hport : (s.storePdelay j sm).perPortGlobal j = sm.perPortGlobal :=
        Function.update_self _ _ _
      rw [hport, perPortGlobal_of_rest h]
      rfl
    · have hport : (s.storePdelay i sm).perPortGlobal j = s.perPortGlobal j :=
        Function.update_of_ne hj _ _
      rw [hport]
      rfl

theorem sameForPdelay_storePdelay {j : PortIndex} (hj : j ≠ i) :
    SameForPdelay j s (s.storePdelay i sm) where
  perPTPInstanceGlobal := rfl
  perPortGlobal := by
    have hport : (s.storePdelay i sm).perPortGlobal j = s.perPortGlobal j :=
      Function.update_of_ne hj _ _
    rw [hport]
    rfl
  mdEntityGlobal := by
    have hentity : (s.storePdelay i sm).mdEntityGlobal j = s.mdEntityGlobal j :=
      Function.update_of_ne hj _ _
    rw [hentity]
    rfl

end Pdelay

end Shared

end TimeSync
end Ziggo
