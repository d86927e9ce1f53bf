import Ziggo.TimeSync.ClockSlaveSyncSM
import Ziggo.TimeSync.PortSyncSyncSendSM

/-!
# The distribution of synchronization information

The state machine of `site_sync_sync_sm.c`.  It passes the structures of the
slave port to the clock slave and to all ports.
-/

namespace Ziggo
namespace TimeSync

open Foundation TsnDrivers

namespace SiteSyncSyncSM

open SiteSyncSyncSMState

/-!
## Actions and transitions
-/

def txPSSync (ts : UScaledNs) (pss : PortSyncSync) (l : SyncLoop) : SyncLoop :=
  (List.finRange nPorts).foldl
    (fun l i => l.thenDo (PortSyncSyncSendSM.recvPSSync i ts pss))
    (ClockSlaveSyncSM.recvPSSync pss l)

def clearFlag (l : SyncLoop) : SyncLoop :=
  { l with siteSyncSyncSm := { l.siteSyncSyncSm with rcvdPSSyncSSS := false } }

/-- The copy of the received structure that is passed on. -/
def setPSSyncSend (pss : PortSyncSync) (l : SyncLoop) : SyncLoop :=
  { l with
    siteSyncSyncSm := { l.siteSyncSyncSm with txPSSyncPtrSSS := .live pss } }

def setParentLogSyncInterval (logMessageInterval : Int8) (l : SyncLoop) :
    SyncLoop :=
  { l with
    perPTPInstanceGlobal :=
      { l.perPTPInstanceGlobal with
        parentLogSyncInterval := logMessageInterval } }

def receivingSyncAction (ts : UScaledNs) (l : SyncLoop) : SyncLoop :=
  (clearFlag l).freeThen l.siteSyncSyncSm.txPSSyncPtrSSS fun l =>
    l.withObject l.siteSyncSyncSm.rcvdPSSyncPtrSSS fun pss l =>
      (txPSSync ts pss (setPSSyncSend pss l)).thenDo
        (setParentLogSyncInterval pss.logMessageInterval)

def fromSlavePort (l : SyncLoop) (pss : PortSyncSync) : Bool :=
  l.perPTPInstanceGlobal.selectedState pss.localPortNumber = .slavePort ∧
    l.perPTPInstanceGlobal.gmPresent

def initializingStateTransition (l : SyncLoop) :
    Except Fault (Next SiteSyncSyncSMState) :=
  if l.siteSyncSyncSm.rcvdPSSyncSSS then do
    let pss <- l.siteSyncSyncSm.rcvdPSSyncPtrSSS.deref
    if fromSlavePort l pss then
      return .goto receivingSync
    else
      return .goto initializing
  else
    .ok (.goto initializing)

/-- `receiving_sync_state_transition`, which always reads the structure. -/
def receivingSyncStateTransition (l : SyncLoop) :
    Except Fault (Next SiteSyncSyncSMState) := do
  let pss <- l.siteSyncSyncSm.rcvdPSSyncPtrSSS.deref
  if l.siteSyncSyncSm.rcvdPSSyncSSS ∧ fromSlavePort l pss then
    return .reenter receivingSync
  else
    return .goto receivingSync

/-!
## The driver
-/

def action (ts : UScaledNs) (state : SiteSyncSyncSMState) (l : SyncLoop) :
    SyncLoop :=
  match state with
  | init => l
  | initializing => clearFlag l
  | receivingSync => receivingSyncAction ts l

def transition (state : SiteSyncSyncSMState) (l : SyncLoop) :
    Except Fault (Next SiteSyncSyncSMState) :=
  match state with
  | init => .ok (.goto initializing)
  | initializing => initializingStateTransition l
  | receivingSync => receivingSyncStateTransition l

def machine (ts : UScaledNs) : Embedded SiteSyncSyncSMState SyncLoop where
  program :=
    { action := action ts
      transition := transition
      fault := SyncLoop.stop
      halt := SyncLoop.halt
      fault_halt := SyncLoop.stop_halt }
  control l := l.siteSyncSyncSm.control
  store control l :=
    { l with siteSyncSyncSm := { l.siteSyncSyncSm with control := control } }
  ready l state := if l.resetting then initializing else state

/-- A bound on the number of passes of one run. -/
def passes : Nat := 16

/-- `site_sync_sync_sm_run` -/
def run (ts : UScaledNs) (l : SyncLoop) : SyncLoop :=
  (machine ts).run passes l

def storePSSync (pss : PortSyncSync) (l : SyncLoop) : SyncLoop :=
  { l with
    siteSyncSyncSm :=
      { l.siteSyncSyncSm with
        rcvdPSSyncSSS := true
        rcvdPSSyncPtrSSS := .live pss } }

/-- `site_sync_sync_sm_recv_pss` -/
def recvPSSync (ts : UScaledNs) (pss : PortSyncSync) (l : SyncLoop) :
    SyncLoop :=
  (l.call (.siteSyncSync pss)).freeThen l.siteSyncSyncSm.rcvdPSSyncPtrSSS
    fun l => run ts (storePSSync pss l)

def initSiteSyncSyncSm (l : SyncLoop) : SyncLoop :=
  run PortSyncSyncSendSM.zeroTime
    { l with
      siteSyncSyncSm :=
        { l.siteSyncSyncSm with
          control := { state := .init, lastState := none }
          rcvdPSSyncPtrSSS := .null
          txPSSyncPtrSSS := .null } }

end SiteSyncSyncSM

end TimeSync
end Ziggo
