import Ziggo.TimeSync.ClockMasterSyncReceiveSM
import Ziggo.TimeSync.SiteSyncSyncSM

/-!
# The messages of the clock master

The state machine of `clock_master_sync_send_sm.c`.  Once a second it passes the
time of the clock master to the site, as if a `Sync` had come by port 0.
-/

namespace Ziggo
namespace TimeSync

open Foundation TsnDrivers

inductive ClockMasterSyncSendSMState where
  | init
  | initializing
  | sendSyncIndication
deriving DecidableEq, Repr, Inhabited

structure ClockMasterSyncSendSM where
  syncSendTime : UScaledNs
  txPSSyncPtrCMSS : Ptr PortSyncSync
  control : Control ClockMasterSyncSendSMState
deriving Inhabited

structure ClockMaster where
  clockMasterSyncSendSm : ClockMasterSyncSendSM
  clockMasterGlobal : ClockMasterGlobal
  syncLoop : SyncLoop
  /-- What `get_current_timestamp` returns, one call after the other. -/
  currentTimestamp : Nat -> UScaledNs

namespace ClockMasterSyncSendSM

open ClockMasterSyncSendSMState

/-!
## Actions and transitions
-/

def allOnesTime : UScaledNs where
  subns := 0xFFFF
  nsec := 0xFFFFFFFFFFFFFFFF
  nsecMsb := 0xFFFF

def setPSSyncCMSS (thisClock : ClockIdentity) (g : ClockMasterGlobal)
    (currentTime : UScaledNs) : PortSyncSync where
  domainNumber := 0
  localPortNumber := 0
  syncReceiptTimeoutTime := allOnesTime
  followUpCorrectionField := uscalednsSubtract currentTime g.localTime
  sourcePortIdentity := { clockIdentity := thisClock, portNumber := 0 }
  logMessageInterval := g.clockMasterLogSyncInterval
  preciseOriginTimestamp := ptpmsgtimestampUscaledns g.masterTime
  upstreamTxTime := currentTime
  rateRatio := g.gmRateRatio
  gmTimeBaseIndicator := g.clockSourceTimeBaseIndicator
  lastGmPhaseChange := g.clockSourcePhaseOffset
  lastGmFreqChange := g.clockSourceFreqOffset

def computeClockMasterSyncInterval : UScaledNs :=
  AnnounceLoop.oneSecond

/-- The next structure is due one interval after the time. -/
def schedule (ts : UScaledNs) (w : ClockMaster) : ClockMaster :=
  { w with
    clockMasterGlobal :=
      { w.clockMasterGlobal with
        clockMasterSyncInterval := computeClockMasterSyncInterval }
    clockMasterSyncSendSm :=
      { w.clockMasterSyncSendSm with
        syncSendTime := uscalednsAdd ts computeClockMasterSyncInterval } }

/-- `txPSSyncCMSS`, with the structure that the pointer designates. -/
def txPSSyncCMSS (ts : UScaledNs) (pss : PortSyncSync) (w : ClockMaster) :
    ClockMaster :=
  { w with syncLoop := SiteSyncSyncSM.recvPSSync ts pss w.syncLoop }

/-- The structure of `setPSSyncCMSS` becomes that of the machine. -/
def storePSSync (pss : PortSyncSync) (w : ClockMaster) : ClockMaster :=
  { w with
    clockMasterSyncSendSm :=
      { w.clockMasterSyncSendSm with txPSSyncPtrCMSS := .live pss }
    currentTimestamp := fun n => w.currentTimestamp (n + 1) }

def halt (f : Fault) (w : ClockMaster) : ClockMaster :=
  { w with syncLoop := w.syncLoop.halt f }

def sendSyncIndicationAction (ts : UScaledNs) (w : ClockMaster) : ClockMaster :=
  match w.clockMasterSyncSendSm.txPSSyncPtrCMSS.free with
  | .error f => halt f w
  | .ok _ =>
      let pss := setPSSyncCMSS w.syncLoop.perPTPInstanceGlobal.thisClock
        w.clockMasterGlobal (w.currentTimestamp 0)
      let w := txPSSyncCMSS ts pss (storePSSync pss w)
      if w.syncLoop.stop ≠ none then w else schedule ts w

/-- The time for the next structure has come. -/
def due (ts : UScaledNs) (w : ClockMaster) : Bool :=
  uscalednsCompare ts w.clockMasterSyncSendSm.syncSendTime ≥ 0

/-!
## The driver
-/

def action (ts : UScaledNs) (state : ClockMasterSyncSendSMState)
    (w : ClockMaster) : ClockMaster :=
  match state with
  | init => w
  | initializing => schedule ts w
  | sendSyncIndication => sendSyncIndicationAction ts w

def transition (ts : UScaledNs) (state : ClockMasterSyncSendSMState)
    (w : ClockMaster) : Except Fault (Next ClockMasterSyncSendSMState) :=
  match state with
  | init => .ok (.goto initializing)
  | initializing =>
      if due ts w then .ok (.goto sendSyncIndication)
      else .ok (.goto initializing)
  | sendSyncIndication =>
      if due ts w then .ok (.reenter sendSyncIndication)
      else .ok (.goto sendSyncIndication)

def machine (ts : UScaledNs) : Embedded ClockMasterSyncSendSMState ClockMaster where
  program :=
    { action := action ts
      transition := transition ts
      fault := fun w => w.syncLoop.stop
      halt := halt
      fault_halt := fun f w => SyncLoop.stop_halt f w.syncLoop }
  control w := w.clockMasterSyncSendSm.control
  store control w :=
    { w with
      clockMasterSyncSendSm :=
        { w.clockMasterSyncSendSm with control := control } }
  ready w state := if w.syncLoop.resetting then initializing else state

/-- A bound on the number of passes of one run. -/
def passes : Nat := 8

/-- `clock_master_sync_send_sm_run` -/
def run (ts : UScaledNs) (w : ClockMaster) : ClockMaster :=
  (machine ts).run passes w

def initClockMasterSyncSendSm (w : ClockMaster) : ClockMaster :=
  run PortSyncSyncSendSM.zeroTime
    { w with
      clockMasterSyncSendSm :=
        { w.clockMasterSyncSendSm with
          control := { state := .init, lastState := none }
          txPSSyncPtrCMSS := .null } }

end ClockMasterSyncSendSM

end TimeSync
end Ziggo
