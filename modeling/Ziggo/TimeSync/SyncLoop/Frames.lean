import Ziggo.TimeSync.Settings
import Ziggo.TimeSync.SyncLoop

/-!
# What the machines leave as it is

Each machine writes to its own variables, to a few globals, and to the machines
below it.  A view is a part of the variables that lies above a machine, and the
results are that the calls of the machine keep it.
-/

namespace Ziggo
namespace TimeSync

open Foundation TsnDrivers

namespace SyncLoop

/-- A statement leaves what a view shows as it is. -/
def Keeps {View : Type} (view : SyncLoop -> View)
    (statement : SyncLoop -> SyncLoop) : Prop :=
  forall l, view (statement l) = view l

/-!
## Rules
-/

section Rules

variable {View : Type} {view : SyncLoop -> View}

theorem Keeps.thenDo {statement : SyncLoop -> SyncLoop}
    (h : Keeps view statement) (l : SyncLoop) :
    view (l.thenDo statement) = view l := by
  unfold SyncLoop.thenDo
  split
  · rfl
  · exact h l

theorem keeps_withObject {Object : Type}
    {statement : Object -> SyncLoop -> SyncLoop}
    (hhalt : forall f, Keeps view (halt f))
    (h : forall object, Keeps view (statement object)) (l : SyncLoop)
    (p : Ptr Object) : view (l.withObject p statement) = view l := by
  unfold withObject
  cases p.deref with
  | error f => exact hhalt f l
  | ok object => exact h object l

theorem keeps_freeThen {Object : Type} {statement : SyncLoop -> SyncLoop}
    (hhalt : forall f, Keeps view (halt f)) (h : Keeps view statement)
    (l : SyncLoop) (p : Ptr Object) :
    view (l.freeThen p statement) = view l := by
  unfold freeThen
  cases p.free with
  | error f => exact hhalt f l
  | ok p' => exact h l

theorem keeps_foldl {α : Type} {statement : α -> SyncLoop -> SyncLoop}
    (h : forall a, Keeps view (statement a)) (as : List α) (l : SyncLoop) :
    view (as.foldl (fun l a => l.thenDo (statement a)) l) = view l := by
  induction as generalizing l with
  | nil => rfl
  | cons a as ih =>
      rw [List.foldl_cons, ih, (h a).thenDo]

theorem keeps_run {State : Type} [DecidableEq State]
    {M : Embedded State SyncLoop}
    (haction : forall s, Keeps view (M.program.action s))
    (hhalt : forall f, Keeps view (M.program.halt f))
    (hstore : forall c, Keeps view (M.store c)) (fuel : Nat) :
    Keeps view (M.run fuel) := by
  intro l
  apply Embedded.run_preserves (I := fun l' => view l' = view l)
  · intro s w hw
    rw [haction, hw]
  · intro f w hw
    rw [hhalt, hw]
  · intro c w hw
    rw [hstore, hw]
  · rfl

end Rules

/-!
## Views
-/

/-- The globals that are set once. -/
structure Settings where
  instanceSettings : InstanceSettings
  portSettings : PortIndex -> PortSettings
  currentLogSyncInterval : PortIndex -> Int8
  syncReceiptTimeout : PortIndex -> UInt16

def settings (l : SyncLoop) : Settings where
  instanceSettings := TimeSync.instanceSettings l.perPTPInstanceGlobal
  portSettings i := TimeSync.portSettings (l.perPortGlobal i)
  currentLogSyncInterval i := (l.perPortGlobal i).currentLogSyncInterval
  syncReceiptTimeout i := (l.perPortGlobal i).syncReceiptTimeout

/-- The globals that the machines for synchronization read and do not write. -/
structure Environment where
  settings : Settings
  selectedState : Port -> PortState
  gmPresent : Bool
  meanLinkDelay : PortIndex -> UScaledNs

def environment (l : SyncLoop) : Environment where
  settings := l.settings
  selectedState := l.perPTPInstanceGlobal.selectedState
  gmPresent := l.perPTPInstanceGlobal.gmPresent
  meanLinkDelay i := (l.perPortGlobal i).meanLinkDelay

theorem settings_of_environment {l l' : SyncLoop}
    (h : l'.environment = l.environment) : l'.settings = l.settings :=
  congrArg Environment.settings h

/-- What lies above the receivers of the ports. -/
structure ReceiveView where
  environment : Environment
  mdSyncReceiveSms : PortIndex -> MDSyncReceiveSM

def receiveView (l : SyncLoop) : ReceiveView where
  environment := l.environment
  mdSyncReceiveSms := l.mdSyncReceiveSms

structure SiteView where
  receiveView : ReceiveView
  portSyncSyncReceiveSms : PortIndex -> PortSyncSyncReceiveSM
  syncReceiptTimeoutTimeInterval : PortIndex -> UScaledNs
  heap : Nat -> PortSyncSync

def siteView (l : SyncLoop) : SiteView where
  receiveView := l.receiveView
  portSyncSyncReceiveSms := l.portSyncSyncReceiveSms
  syncReceiptTimeoutTimeInterval i :=
    (l.perPortGlobal i).syncReceiptTimeoutTimeInterval
  heap := l.heap

/-- What lies above the clock slave and the senders of the ports. -/
structure OutputView where
  siteView : SiteView
  siteSyncSyncSm : SiteSyncSyncSM

def outputView (l : SyncLoop) : OutputView where
  siteView := l.siteView
  siteSyncSyncSm := l.siteSyncSyncSm

/-- What lies beside the clock slave. -/
structure SlaveView where
  outputView : OutputView
  perPortGlobal : PerPortGlobalArray
  portSyncSyncSendSms : PortIndex -> PortSyncSyncSendSM
  mdSyncSendSms : PortIndex -> MDSyncSendMachine

def slaveView (l : SyncLoop) : SlaveView where
  outputView := l.outputView
  perPortGlobal := l.perPortGlobal
  portSyncSyncSendSms := l.portSyncSyncSendSms
  mdSyncSendSms := l.mdSyncSendSms

/-- What lies beside the senders of the ports. -/
structure SendView where
  outputView : OutputView
  perPTPInstanceGlobal : PerPTPInstanceGlobal
  clockSlaveSyncSm : ClockSlaveSyncSM
  rtc : Rtc

def sendView (l : SyncLoop) : SendView where
  outputView := l.outputView
  perPTPInstanceGlobal :=
    { l.perPTPInstanceGlobal with
      syncReceiptTimeoutTime := PortSyncSyncSendSM.zeroTime }
  clockSlaveSyncSm := l.clockSlaveSyncSm
  rtc := l.rtc

/-- What an assignment to one port keeps is kept at all ports. -/
theorem map_update {α β : Type} (f : α -> β) {g : PortIndex -> α}
    {i : PortIndex} {a : α} (h : f a = f (g i)) :
    (fun j => f (Function.update g i a j)) = fun j => f (g j) := by
  funext j
  by_cases hj : j = i
  · subst hj
    rw [Function.update_self, h]
  · rw [Function.update_of_ne hj]

theorem receiveView_assignPort {i : PortIndex} {port : PerPortGlobal}
    {l : SyncLoop}
    (hsettings : TimeSync.portSettings port =
      TimeSync.portSettings (l.perPortGlobal i))
    (hlog : port.currentLogSyncInterval =
      (l.perPortGlobal i).currentLogSyncInterval)
    (htimeout : port.syncReceiptTimeout =
      (l.perPortGlobal i).syncReceiptTimeout)
    (hdelay : port.meanLinkDelay = (l.perPortGlobal i).meanLinkDelay) :
    receiveView (PortSyncSyncSendSM.assignPort i port l) = receiveView l := by
  simp only [receiveView, environment, settings,
    PortSyncSyncSendSM.assignPort,
    map_update TimeSync.portSettings hsettings,
    map_update PerPortGlobal.currentLogSyncInterval hlog,
    map_update PerPortGlobal.syncReceiptTimeout htimeout,
    map_update PerPortGlobal.meanLinkDelay hdelay]

theorem siteView_assignPort {i : PortIndex} {port : PerPortGlobal}
    {l : SyncLoop}
    (h : receiveView (PortSyncSyncSendSM.assignPort i port l) = receiveView l)
    (hinterval : port.syncReceiptTimeoutTimeInterval =
      (l.perPortGlobal i).syncReceiptTimeoutTimeInterval) :
    siteView (PortSyncSyncSendSM.assignPort i port l) = siteView l := by
  unfold siteView
  rw [h]
  simp only [PortSyncSyncSendSM.assignPort,
    map_update PerPortGlobal.syncReceiptTimeoutTimeInterval hinterval]

end SyncLoop

namespace ClockSlaveSyncSM

open SyncLoop

/-!
## The clock slave
-/

theorem slaveView_adjustPeriod (r : Rat) :
    Keeps slaveView (adjustPeriod r) := by
  intro l
  unfold adjustPeriod
  dsimp only
  split
  · rfl
  · split
    · rfl
    · rfl

theorem slaveView_updateSlavePeriod : Keeps slaveView updateSlavePeriod := by
  intro l
  unfold updateSlavePeriod
  dsimp only
  split
  · rfl
  · cases uscalednsDiv _ _ with
    | error f => rfl
    | ok r => exact slaveView_adjustPeriod r _

theorem slaveView_sendSyncIndicationAction :
    Keeps slaveView sendSyncIndicationAction := by
  intro l
  unfold sendSyncIndicationAction
  have hclear : Keeps slaveView clearFlags := fun _ => rfl
  refine (Keeps.thenDo hclear _).trans ?_
  split
  · refine keeps_withObject (fun _ _ => rfl) (fun pss l => ?_) l _
    rw [slaveView_updateSlavePeriod]
    rfl
  · rfl

theorem slaveView_run : Keeps slaveView run := by
  refine keeps_run (fun s => ?_) (fun _ _ => rfl) (fun _ _ => rfl) passes
  cases s with
  | init => exact fun _ => rfl
  | initializing => exact fun _ => rfl
  | sendSyncIndication => exact slaveView_sendSyncIndicationAction

theorem slaveView_recvPSSync (pss : PortSyncSync) :
    Keeps slaveView (recvPSSync pss) := by
  intro l
  refine keeps_freeThen (fun _ _ => rfl) (fun l => ?_) l _
  rw [slaveView_run]
  rfl

end ClockSlaveSyncSM

namespace PortSyncSyncSendSM

open SyncLoop

/-!
## The senders of the ports
-/

section Senders

variable (i : PortIndex) (ts : UScaledNs)

theorem sendView_assignPort {port : PerPortGlobal} {l : SyncLoop}
    (h : siteView (assignPort i port l) = siteView l) :
    sendView (assignPort i port l) = sendView l := by
  unfold sendView outputView
  rw [h]
  rfl

theorem sendView_lockSync : Keeps sendView (lockSync i) := fun _ =>
  sendView_assignPort i
    (siteView_assignPort (receiveView_assignPort rfl rfl rfl rfl) rfl)

theorem sendView_clearSlowDown : Keeps sendView (clearSlowDown i) := fun _ =>
  sendView_assignPort i
    (siteView_assignPort (receiveView_assignPort rfl rfl rfl rfl) rfl)

theorem sendView_takePSSync (pss : PortSyncSync) :
    Keeps sendView (takePSSync i pss) := fun _ =>
  sendView_lockSync i _

theorem sendView_halt (f : Fault) : Keeps sendView (halt f) := fun _ => rfl

theorem sendView_transmitMDSync : Keeps sendView (transmitMDSync i ts) := by
  intro l
  refine keeps_freeThen sendView_halt (fun _ => ?_) l _
  rfl

theorem sendView_chooseInterval : Keeps sendView (chooseInterval i) := by
  intro l
  unfold chooseInterval
  dsimp only
  split
  · split
    · exact sendView_clearSlowDown i _
    · rfl
  · rfl

theorem sendView_sendMDSyncAction : Keeps sendView (sendMDSyncAction i ts) := by
  intro l
  unfold sendMDSyncAction
  dsimp only
  rw [(sendView_chooseInterval i).thenDo, (sendView_transmitMDSync i ts).thenDo]
  split
  · exact keeps_withObject (fun _ _ => rfl) (sendView_takePSSync i) l _
  · rfl

theorem sendView_run : Keeps sendView (run i ts) := by
  refine keeps_run (fun s => ?_) (fun _ _ => rfl) (fun _ _ => rfl) passes
  cases s with
  | init => exact fun _ => rfl
  | transmitInit => exact fun _ => sendView_clearSlowDown i _
  | syncReceiptTimeout => exact fun _ => rfl
  | sendMDSync => exact sendView_sendMDSyncAction i ts

theorem sendView_recvPSSync (pss : PortSyncSync) :
    Keeps sendView (recvPSSync i ts pss) := by
  intro l
  refine keeps_freeThen (fun _ _ => rfl) (fun l => ?_) l _
  rw [sendView_run]
  rfl

end Senders

end PortSyncSyncSendSM

namespace SiteSyncSyncSM

open SyncLoop

/-!
## The site
-/

section Site

variable (ts : UScaledNs)

theorem outputView_txPSSync (pss : PortSyncSync) :
    Keeps outputView (txPSSync ts pss) := by
  intro l
  have hslave : Keeps outputView (ClockSlaveSyncSM.recvPSSync pss) := fun l =>
    congrArg SlaveView.outputView (ClockSlaveSyncSM.slaveView_recvPSSync pss l)
  have hsend : forall i,
      Keeps outputView (PortSyncSyncSendSM.recvPSSync i ts pss) := fun i l =>
    congrArg SendView.outputView
      (PortSyncSyncSendSM.sendView_recvPSSync i ts pss l)
  unfold txPSSync
  rw [keeps_foldl hsend, hslave]

theorem siteView_receivingSyncAction :
    Keeps siteView (receivingSyncAction ts) := by
  intro l
  refine (keeps_freeThen (fun _ _ => rfl) (fun l => ?_) _ _).trans
    (rfl : siteView (clearFlag l) = siteView l)
  refine keeps_withObject (fun _ _ => rfl) (fun pss l => ?_) l _
  have hinterval : Keeps siteView
      (setParentLogSyncInterval pss.logMessageInterval) := fun _ => rfl
  rw [hinterval.thenDo]
  exact congrArg OutputView.siteView
    (outputView_txPSSync ts pss (setPSSyncSend pss l))

theorem siteView_run : Keeps siteView (run ts) := by
  refine keeps_run (fun s => ?_) (fun _ _ => rfl) (fun _ _ => rfl) passes
  cases s with
  | init => exact fun _ => rfl
  | initializing => exact fun _ => rfl
  | receivingSync => exact siteView_receivingSyncAction ts

theorem siteView_recvPSSync (pss : PortSyncSync) :
    Keeps siteView (recvPSSync ts pss) := by
  intro l
  refine (keeps_freeThen (fun _ _ => rfl) (fun l => ?_) _ _).trans
    (rfl : siteView (l.call (.siteSyncSync pss)) = siteView l)
  rw [siteView_run]
  rfl

end Site

end SiteSyncSyncSM

namespace PortSyncSyncReceiveSM

open SyncLoop

/-!
## The receivers of the ports
-/

section Receivers

variable (i : PortIndex) (ts : UScaledNs)

theorem receiveView_setTimeoutInterval (interval : UScaledNs) :
    Keeps receiveView (setTimeoutInterval i interval) := fun _ =>
  receiveView_assignPort rfl rfl rfl rfl

theorem receiveView_passOn (mdSync : MDSyncReceive) :
    Keeps receiveView (passOn i ts mdSync) := fun _ =>
  congrArg SiteView.receiveView (SiteSyncSyncSM.siteView_recvPSSync ts _ _)

theorem receiveView_receivedSyncAction :
    Keeps receiveView (receivedSyncAction i ts) := by
  intro l
  unfold receivedSyncAction
  refine keeps_withObject (fun _ _ => rfl) (fun mdSync l' => ?_) l _
  cases PortAnnounceInformationSM.timeoutInterval _ _ with
  | error f => rfl
  | ok interval =>
      dsimp only
      rw [receiveView_passOn, receiveView_setTimeoutInterval]
      rfl

theorem receiveView_run : Keeps receiveView (run i ts) := by
  refine keeps_run (fun s => ?_) (fun _ _ => rfl) (fun _ _ => rfl) passes
  cases s with
  | init => exact fun _ => rfl
  | discard => exact fun _ => rfl
  | receivedSync => exact receiveView_receivedSyncAction i ts

theorem receiveView_recvMDSync (mdSync : MDSyncReceive) :
    Keeps receiveView (recvMDSync i ts mdSync) := by
  intro l
  refine (keeps_freeThen (fun _ _ => rfl) (fun l => ?_) _ _).trans
    (rfl : receiveView (l.call (.portSyncSyncReceive i mdSync)) = _)
  rw [receiveView_run]
  rfl

end Receivers

end PortSyncSyncReceiveSM

end TimeSync
end Ziggo
