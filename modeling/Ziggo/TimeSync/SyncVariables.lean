import Ziggo.Foundation.Embedded
import Ziggo.TsnDrivers.Rtc
import Ziggo.TimeSync.AnnounceLoop
import Ziggo.TimeSync.MDSyncSendSM

/-!
# The variables of synchronization

The state machines that handle `Sync` and `Follow_Up` messages call each other
through pointers.  Their variables form one record, on which the functions of
all of them work.
-/

namespace Ziggo
namespace TimeSync

open Foundation TsnDrivers

inductive MDSyncReceiveSMState where
  | init
  | discard
  | waitingForFollowUp
  | waitingForSync
deriving DecidableEq, Repr, Inhabited

structure MDSyncReceiveSM where
  followUpReceiptTimeoutTime : UScaledNs
  rcvdSync : Bool
  rcvdFollowUp : Bool
  rcvdSyncPtr : Ptr PTPMsgSync
  rcvdFollowUpPtr : Ptr PTPMsgFollowUp
  upstreamSyncInterval : UScaledNs
  syncEventIngressTimestamp : UScaledNs
  control : Control MDSyncReceiveSMState
deriving Inhabited

inductive PortSyncSyncReceiveSMState where
  | init
  | discard
  | receivedSync
deriving DecidableEq, Repr, Inhabited

structure PortSyncSyncReceiveSM where
  rcvdMDSyncPSSR : Bool
  rcvdMDSyncPtrPSSR : Ptr MDSyncReceive
  rateRatio : Rat
  control : Control PortSyncSyncReceiveSMState
deriving Inhabited

inductive SiteSyncSyncSMState where
  | init
  | initializing
  | receivingSync
deriving DecidableEq, Repr, Inhabited

structure SiteSyncSyncSM where
  rcvdPSSyncSSS : Bool
  rcvdPSSyncPtrSSS : Ptr PortSyncSync
  txPSSyncPtrSSS : Ptr PortSyncSync
  control : Control SiteSyncSyncSMState
deriving Inhabited

inductive ClockSlaveSyncSMState where
  | init
  | initializing
  | sendSyncIndication
deriving DecidableEq, Repr, Inhabited

/-- The variables of `ClockSlaveSyncSM`, and the static variable `period`. -/
structure ClockSlaveSyncSM where
  rcvdPSSyncCSS : Bool
  rcvdLocalClockTickCSS : Bool
  rcvdPSSyncPtrCSS : Ptr PortSyncSync
  lSyncReceiptTime : Fin maxLength -> UScaledNs
  lSyncReceiptLocalTime : Fin maxLength -> UScaledNs
  listHeadPeriod : Fin maxLength
  listTailPeriod : Fin maxLength
  isEmptyPeriod : Bool
  period : Rat
  control : Control ClockSlaveSyncSMState
deriving Inhabited

inductive PortSyncSyncSendSMState where
  | init
  | transmitInit
  | syncReceiptTimeout
  | sendMDSync
deriving DecidableEq, Repr, Inhabited

structure PortSyncSyncSendSM where
  rcvdPSSyncPSSS : Bool
  rcvdPSSyncPtrPSSS : Ptr PortSyncSync
  lastPreciseOriginTimestamp : PTPMsgTimestamp
  lastFollowUpCorrectionField : ScaledNs
  lastRateRatio : Rat
  lastUpstreamTxTime : UScaledNs
  lastSyncSentTime : UScaledNs
  lastRcvdPortNum : Port
  lastGmTimeBaseIndicator : UInt16
  lastGmPhaseChangePSSS : ScaledNs
  lastGmFreqChangePSSS : Rat
  txMDSyncPtr : Ptr MDSyncSend
  numberSyncTransmissions : UInt8
  interval1 : UScaledNs
  control : Control PortSyncSyncSendSMState
deriving Inhabited

/-- The calls by which the machines pass on what they have received. -/
inductive Call where
  /-- `port_sync_sync_receive_sm_recv_md_sync` -/
  | portSyncSyncReceive (i : PortIndex) (mdSync : MDSyncReceive)
  /-- `site_sync_sync_sm_recv_pss` -/
  | siteSyncSync (pss : PortSyncSync)
  /-- `set_rtc_sync_offset` -/
  | setRtcSyncOffset (sign : RtcOffsetSign) (offset : UScaledNs)
  /-- `uscaledns_div` -/
  | uscalednsDiv (t1 t2 : UScaledNs)
  /-- `md_sync_send_sm_recv_md_sync` -/
  | mdSyncSend (i : PortIndex) (mdSync : MDSyncSend)
deriving DecidableEq

structure SyncLoop where
  perPTPInstanceGlobal : PerPTPInstanceGlobal
  perPortGlobal : PerPortGlobalArray
  siteSyncSyncSm : SiteSyncSyncSM
  clockSlaveSyncSm : ClockSlaveSyncSM
  portSyncSyncReceiveSms : PortIndex -> PortSyncSyncReceiveSM
  portSyncSyncSendSms : PortIndex -> PortSyncSyncSendSM
  mdSyncSendSms : PortIndex -> MDSyncSendMachine
  mdSyncReceiveSms : PortIndex -> MDSyncReceiveSM
  rtc : Rtc
  /-- What the blocks hold that `malloc` has yet to return to `setPSSyncPSSR`. -/
  heap : Nat -> PortSyncSync
  /-- The calls so far, the first one first. -/
  calls : List Call
  /-- Why the process ended, if it has ended. -/
  stop : Option Fault

namespace SyncLoop

def halt (f : Fault) (l : SyncLoop) : SyncLoop :=
  { l with stop := some f }

theorem stop_halt (f : Fault) (l : SyncLoop) : (l.halt f).stop ≠ none := by
  simp [halt]

def call (c : Call) (l : SyncLoop) : SyncLoop :=
  { l with calls := l.calls ++ [c] }

/-- A statement.  A process that has ended executes none. -/
def thenDo (l : SyncLoop) (statement : SyncLoop -> SyncLoop) : SyncLoop :=
  if l.stop ≠ none then l else statement l

/-- A statement that reads an object through a pointer. -/
def withObject {Object : Type} (l : SyncLoop) (p : Ptr Object)
    (statement : Object -> SyncLoop -> SyncLoop) : SyncLoop :=
  match p.deref with
  | .ok object => statement object l
  | .error f => l.halt f

/-- A statement that first releases what a pointer designates. -/
def freeThen {Object : Type} (l : SyncLoop) (p : Ptr Object)
    (statement : SyncLoop -> SyncLoop) : SyncLoop :=
  match p.free with
  | .ok _ => statement l
  | .error f => l.halt f

theorem thenDo_running {l : SyncLoop} (h : l.stop = none)
    (statement : SyncLoop -> SyncLoop) : l.thenDo statement = statement l :=
  if_neg (not_not.mpr h)

theorem thenDo_stopped {l : SyncLoop} (h : l.stop ≠ none)
    (statement : SyncLoop -> SyncLoop) : l.thenDo statement = l :=
  if_pos h

@[simp] theorem withObject_live {Object : Type} (l : SyncLoop)
    (object : Object) (statement : Object -> SyncLoop -> SyncLoop) :
    l.withObject (.live object) statement = statement object l :=
  rfl

theorem withObject_of_live {Object : Type} {p : Ptr Object} {object : Object}
    (h : p = .live object) (l : SyncLoop)
    (statement : Object -> SyncLoop -> SyncLoop) :
    l.withObject p statement = statement object l := by
  rw [h, withObject_live]

theorem freeThen_owned {Object : Type} {p : Ptr Object} (h : p ≠ .released)
    (l : SyncLoop) (statement : SyncLoop -> SyncLoop) :
    l.freeThen p statement = statement l := by
  cases p with
  | null => rfl
  | live object => rfl
  | released => exact absurd rfl h

/-- The port can take part in synchronization. -/
def portReady (l : SyncLoop) (i : PortIndex) : Bool :=
  (l.perPortGlobal i).portOper ∧ (l.perPortGlobal i).ptpPortEnabled ∧
    (l.perPortGlobal i).asCapable

/-- The instance is restarted or disabled. -/
def resetting (l : SyncLoop) : Bool :=
  l.perPTPInstanceGlobal.BEGIN ∨
    l.perPTPInstanceGlobal.instanceEnable = false

end SyncLoop

end TimeSync
end Ziggo
