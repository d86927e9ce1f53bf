import Ziggo.TimeSync.SiteSyncSyncSM

/-!
# The receiver of synchronization information on a port

The state machine of `port_sync_sync_receive_sm.c`.  It adds the port and the
time of the next timeout to each structure and passes it to the site.
-/

namespace Ziggo
namespace TimeSync

open Foundation TsnDrivers

namespace PortSyncSyncReceiveSM

open PortSyncSyncReceiveSMState

def assign (i : PortIndex) (sm : PortSyncSyncReceiveSM) (l : SyncLoop) :
    SyncLoop :=
  { l with
    portSyncSyncReceiveSms := Function.update l.portSyncSyncReceiveSms i sm }

/-!
## Actions and transitions
-/

/--
What `setPSSyncPSSR` puts into a fresh block.  It leaves the three fields on the
grandmaster as the block has them.
-/
def psSyncOf (block : PortSyncSync) (mdSync : MDSyncReceive) (thisPort : Port)
    (rateRatio : Rat) (syncReceiptTimeoutTime : UScaledNs) : PortSyncSync :=
  { block with
    localPortNumber := thisPort
    domainNumber := mdSync.domainNumber
    followUpCorrectionField := mdSync.followUpCorrectionField
    sourcePortIdentity := mdSync.sourcePortIdentity
    logMessageInterval := mdSync.logMessageInterval
    preciseOriginTimestamp := mdSync.preciseOriginTimestamp
    upstreamTxTime := mdSync.upstreamTxTime
    syncReceiptTimeoutTime := syncReceiptTimeoutTime
    rateRatio := rateRatio }

/-- `malloc` has returned a block. -/
def dropBlock (l : SyncLoop) : SyncLoop :=
  { l with heap := fun n => l.heap (n + 1) }

/-- `setPSSyncPSSR` and `txPSSyncPSSR` -/
def passOn (i : PortIndex) (ts : UScaledNs) (mdSync : MDSyncReceive)
    (l : SyncLoop) : SyncLoop :=
  let port := l.perPortGlobal i
  let syncReceiptTimeoutTime :=
    uscalednsAdd ts port.syncReceiptTimeoutTimeInterval
  SiteSyncSyncSM.recvPSSync ts
    (psSyncOf (l.heap 0) mdSync port.thisPort
      (l.portSyncSyncReceiveSms i).rateRatio syncReceiptTimeoutTime)
    (PortSyncSyncSendSM.setSyncReceiptTimeoutTime syncReceiptTimeoutTime
      (dropBlock l))

def setTimeoutInterval (i : PortIndex) (interval : UScaledNs) (l : SyncLoop) :
    SyncLoop :=
  PortSyncSyncSendSM.assignPort i
    { l.perPortGlobal i with syncReceiptTimeoutTimeInterval := interval } l

def clearFlag (i : PortIndex) (l : SyncLoop) : SyncLoop :=
  assign i { l.portSyncSyncReceiveSms i with rcvdMDSyncPSSR := false } l

def receivedSyncAction (i : PortIndex) (ts : UScaledNs) (l : SyncLoop) :
    SyncLoop :=
  let sm := l.portSyncSyncReceiveSms i
  let port := l.perPortGlobal i
  l.withObject sm.rcvdMDSyncPtrPSSR fun mdSync l =>
    match PortAnnounceInformationSM.timeoutInterval port.syncReceiptTimeout
        mdSync.logMessageInterval with
    | .error f => l.halt f
    | .ok interval =>
        passOn i ts mdSync
          (setTimeoutInterval i interval
            (assign i { sm with rcvdMDSyncPSSR := false, rateRatio := 1 } l))

def discardStateTransition (i : PortIndex) (l : SyncLoop) :
    Next PortSyncSyncReceiveSMState :=
  if (l.portSyncSyncReceiveSms i).rcvdMDSyncPSSR ∧ l.portReady i then
    .goto receivedSync
  else
    .goto .discard

def receivedSyncStateTransition (i : PortIndex) (l : SyncLoop) :
    Next PortSyncSyncReceiveSMState :=
  if (l.portSyncSyncReceiveSms i).rcvdMDSyncPSSR ∧ l.portReady i ∧
      (l.perPortGlobal i).asymmetryMeasurementMode = false then
    .reenter receivedSync
  else
    .goto receivedSync

/-!
## The driver
-/

def action (i : PortIndex) (ts : UScaledNs)
    (state : PortSyncSyncReceiveSMState) (l : SyncLoop) : SyncLoop :=
  match state with
  | .init => l
  | .discard => clearFlag i l
  | .receivedSync => receivedSyncAction i ts l

def transition (i : PortIndex) (state : PortSyncSyncReceiveSMState)
    (l : SyncLoop) : Except Fault (Next PortSyncSyncReceiveSMState) :=
  match state with
  | .init => .ok (.goto .discard)
  | .discard => .ok (discardStateTransition i l)
  | .receivedSync => .ok (receivedSyncStateTransition i l)

def machine (i : PortIndex) (ts : UScaledNs) :
    Embedded PortSyncSyncReceiveSMState SyncLoop where
  program :=
    { action := action i ts
      transition := transition i
      fault := SyncLoop.stop
      halt := SyncLoop.halt
      fault_halt := SyncLoop.stop_halt }
  control l := (l.portSyncSyncReceiveSms i).control
  store control l :=
    assign i { l.portSyncSyncReceiveSms i with control := control } l
  ready l state :=
    if l.resetting ∨
        ((l.portSyncSyncReceiveSms i).rcvdMDSyncPSSR ∧
          l.portReady i = false) then
      .discard
    else
      state

/-- A bound on the number of passes of one run. -/
def passes : Nat := 16

/-- `port_sync_sync_receive_sm_run` -/
def run (i : PortIndex) (ts : UScaledNs) (l : SyncLoop) : SyncLoop :=
  (machine i ts).run passes l

def storeMDSync (i : PortIndex) (mdSync : MDSyncReceive) (l : SyncLoop) :
    SyncLoop :=
  assign i
    { l.portSyncSyncReceiveSms i with
      rcvdMDSyncPSSR := true
      rcvdMDSyncPtrPSSR := .live mdSync } l

/-- `port_sync_sync_receive_sm_recv_md_sync` -/
def recvMDSync (i : PortIndex) (ts : UScaledNs) (mdSync : MDSyncReceive)
    (l : SyncLoop) : SyncLoop :=
  (l.call (.portSyncSyncReceive i mdSync)).freeThen
    (l.portSyncSyncReceiveSms i).rcvdMDSyncPtrPSSR
    fun l => run i ts (storeMDSync i mdSync l)

def initPortSyncSyncReceiveSm (i : PortIndex) (l : SyncLoop) : SyncLoop :=
  run i PortSyncSyncSendSM.zeroTime
    (assign i
      { l.portSyncSyncReceiveSms i with
        control := { state := .init, lastState := none }
        rateRatio := 1
        rcvdMDSyncPtrPSSR := .null } l)

end PortSyncSyncReceiveSM

end TimeSync
end Ziggo
