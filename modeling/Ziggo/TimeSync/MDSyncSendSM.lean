import Ziggo.Foundation.Runs
import Ziggo.TsnDrivers.UScaledNs
import Ziggo.TimeSync.Process

/-!
# The sender of synchronization messages

The state machine of `md_sync_send_sm.c`.  It sends a `Sync` for each structure
that the machine above hands down, waits for the timestamp of its transmission,
and sends that timestamp in a `Follow_Up`.
-/

namespace Ziggo
namespace TimeSync

open Foundation TsnDrivers

inductive MDSyncSendSMState where
  | init
  | initializing
  | sendSync
  | sendFollowUp
deriving DecidableEq, Repr

structure MDSyncSendSM where
  rcvdMDSyncMDSS : Bool
  rcvdMDSyncPtr : Ptr MDSyncSend
  txSyncPtr : Ptr PTPMsgSync
  rcvdMDTimestampReceiveMDSS : Bool
  rcvdMDTimestampReceivePtr : Ptr TSUTimestamp
  txFollowUpPtr : Ptr PTPMsgFollowUp
  syncEventEgressTimestamp : UScaledNs
  perPTPInstanceGlobal : PerPTPInstanceGlobal
  perPortGlobal : PerPortGlobal
  mdEntityGlobal : MDEntityGlobal
  process : Process
deriving Inhabited

namespace MDSyncSendSM

open MDSyncSendSMState

def halt (f : Fault) (sm : MDSyncSendSM) : MDSyncSendSM :=
  { sm with process := sm.process.halt f }

/-!
## Messages
-/

def sizeofPTPFrameSync : UInt16 := 44

def sizeofPTPFrameFollowUp : UInt16 := 76

/-- `setSyncTwoStep`, for the structure behind `rcvdMDSyncPtr`. -/
def setSyncTwoStep (sm : MDSyncSendSM) (mdSync : MDSyncSend) : PTPMsgSync where
  head := ptpMsgHeaderTemplate .sync sizeofPTPFrameSync
    mdSync.sourcePortIdentity sm.mdEntityGlobal.syncSequenceId
    mdSync.logMessageInterval 0

def txSync (sm : MDSyncSendSM) : Except Fault MDSyncSendSM := do
  let sync <- sm.txSyncPtr.deref
  return { sm with
    process := sm.process.sendPtpFrame sm.perPortGlobal.thisPort (.sync sync) }

/--
What `setFollowUp` builds from the structure behind `rcvdMDSyncPtr`, the egress
timestamp, and the sequence number of the message behind `txSyncPtr`.
-/
def followUpOf (mdSync : MDSyncSend) (syncEventEgressTimestamp : UScaledNs)
    (sequenceId : UInt16) : PTPMsgFollowUp :=
  let elapsedTime :=
    uscalednsSubtract syncEventEgressTimestamp mdSync.upstreamTxTime
  let correction := uscalednsAdd mdSync.followUpCorrectionField elapsedTime
  { head := ptpMsgHeaderTemplate .followUp sizeofPTPFrameFollowUp
      mdSync.sourcePortIdentity sequenceId mdSync.logMessageInterval
      (uint64Uscaledns correction).toInt64
    preciseOriginTimestamp := mdSync.preciseOriginTimestamp
    followUpInformationTLV :=
      { tlvType := 0x3
        lengthField := 28
        organizationId := ![0x00, 0x80, 0xC2]
        organizationSubType := ![0x00, 0x00, 0x01]
        cumulativeScaledRateOffset := 0
        gmTimeBaseIndicator := mdSync.gmTimeBaseIndicator
        lastGmPhaseChange := mdSync.lastGmPhaseChange
        scaledLastGmFreqChange := 0 } }

def setFollowUp (sm : MDSyncSendSM) : Except Fault PTPMsgFollowUp := do
  let mdSync <- sm.rcvdMDSyncPtr.deref
  let sync <- sm.txSyncPtr.deref
  return followUpOf mdSync sm.syncEventEgressTimestamp sync.head.sequenceId

def txFollowUp (sm : MDSyncSendSM) : Except Fault MDSyncSendSM := do
  let followUp <- sm.txFollowUpPtr.deref
  return { sm with
    process := sm.process.sendPtpFrame sm.perPortGlobal.thisPort
      (.followUp followUp) }

/-!
## Actions and transitions
-/

/-- The port can take part in synchronization. -/
def portReady (sm : MDSyncSendSM) : Bool :=
  sm.perPortGlobal.portOper ∧ sm.perPortGlobal.ptpPortEnabled ∧
    sm.perPortGlobal.asCapable

def allStateTransition (sm : MDSyncSendSM) (state : MDSyncSendSMState) :
    MDSyncSendSMState :=
  if sm.perPTPInstanceGlobal.BEGIN ∨
      sm.perPTPInstanceGlobal.instanceEnable = false ∨
      (sm.rcvdMDSyncMDSS ∧ sm.portReady = false) then
    initializing
  else
    state

def initializingAction (sm : MDSyncSendSM) : MDSyncSendSM :=
  { sm with
    rcvdMDSyncMDSS := false
    rcvdMDTimestampReceiveMDSS := false
    mdEntityGlobal :=
      { sm.mdEntityGlobal with syncSequenceId := sm.process.nextRand }
    process := sm.process.dropRand }

/-- A structure has come that the port can send a `Sync` for. -/
def syncRequested (sm : MDSyncSendSM) : Bool :=
  sm.rcvdMDSyncMDSS ∧ sm.portReady ∧
    sm.perPortGlobal.asymmetryMeasurementMode = false

def initializingStateTransition (sm : MDSyncSendSM) : MDSyncSendSMState :=
  if sm.syncRequested then sendSync else initializing

def sendSyncAction (sm : MDSyncSendSM) : Except Fault MDSyncSendSM := do
  let sm := { sm with rcvdMDSyncMDSS := false }
  let _ <- sm.txSyncPtr.free
  let mdSync <- sm.rcvdMDSyncPtr.deref
  let sm <- txSync { sm with txSyncPtr := .live (sm.setSyncTwoStep mdSync) }
  return { sm with
    mdEntityGlobal :=
      { sm.mdEntityGlobal with
        syncSequenceId := sm.mdEntityGlobal.syncSequenceId + 1 } }

def sendSyncStateTransition (sm : MDSyncSendSM) : MDSyncSendSMState :=
  if sm.rcvdMDTimestampReceiveMDSS then sendFollowUp else sendSync

def sendFollowUpAction (sm : MDSyncSendSM) : Except Fault MDSyncSendSM := do
  let sm := { sm with rcvdMDTimestampReceiveMDSS := false }
  let _ <- sm.txFollowUpPtr.free
  let followUp <- sm.setFollowUp
  txFollowUp { sm with txFollowUpPtr := .live followUp }

def sendFollowUpStateTransition (sm : MDSyncSendSM) : MDSyncSendSMState :=
  if sm.syncRequested then sendSync else sendFollowUp

/-!
## The driver

The actions and transitions do not depend on the time of the call.
-/

def action (state : MDSyncSendSMState) (sm : MDSyncSendSM) :
    Except Fault MDSyncSendSM :=
  match state with
  | init => .ok sm
  | initializing => .ok sm.initializingAction
  | sendSync => sm.sendSyncAction
  | sendFollowUp => sm.sendFollowUpAction

def transition (state : MDSyncSendSMState) (sm : MDSyncSendSM) :
    Except Fault MDSyncSendSMState :=
  match state with
  | init => .ok initializing
  | initializing => .ok sm.initializingStateTransition
  | sendSync => .ok sm.sendSyncStateTransition
  | sendFollowUp => .ok sm.sendFollowUpStateTransition

def behaviour : Behaviour MDSyncSendSMState MDSyncSendSM where
  action := action
  transition := transition
  fault sm := sm.process.stop
  halt := halt
  fault_halt _ _ := by simp [halt]

/-!
## Inputs
-/

def storeMDSync (sm : MDSyncSendSM) (mdSync : MDSyncSend) :
    Except Fault MDSyncSendSM := do
  let _ <- sm.rcvdMDSyncPtr.free
  return { sm with
    rcvdMDSyncMDSS := true
    rcvdMDSyncPtr := .live mdSync }

def storeTimestamp (sm : MDSyncSendSM) (tsuTimestamp : TSUTimestamp) :
    Except Fault MDSyncSendSM := do
  let _ <- sm.rcvdMDTimestampReceivePtr.free
  return { sm with
    rcvdMDTimestampReceiveMDSS := true
    rcvdMDTimestampReceivePtr := .live tsuTimestamp
    syncEventEgressTimestamp := tsuTimestamp.ts }

/--
The test on the sequence number of a timestamp.  Both sides are promoted to
`int`, and the subtraction is one of `int`.
-/
def timestampMatches (sm : MDSyncSendSM) (tsuTimestamp : TSUTimestamp) : Bool :=
  (tsuTimestamp.sequenceID.toNat : Int) =
    (sm.mdEntityGlobal.syncSequenceId.toNat : Int) - 1

end MDSyncSendSM

abbrev MDSyncSendMachine : Type := Machine MDSyncSendSMState MDSyncSendSM

namespace MDSyncSendMachine

open MDSyncSendSM

/-- A bound on the number of passes of one run. -/
def passes : Nat := 16

/-- The machine as a run starts, after the transitions common to all states. -/
def ready (m : MDSyncSendMachine) : MDSyncSendMachine :=
  { m with state := m.vars.allStateTransition m.state }

/-- `md_sync_send_sm_run` -/
def run (m : MDSyncSendMachine) : MDSyncSendMachine :=
  behaviour.program.run passes m.ready

/-- `init_md_sync_send_sm`, on memory with arbitrary contents. -/
def initMdSyncSendSm (memory : MDSyncSendSM) : MDSyncSendMachine :=
  run
    { state := .init
      lastState := none
      vars :=
        { memory with
          rcvdMDSyncPtr := .null
          rcvdMDTimestampReceivePtr := .null
          txSyncPtr := .null
          txFollowUpPtr := .null } }

def runStored (m : MDSyncSendMachine) (stored : Except Fault MDSyncSendSM) :
    MDSyncSendMachine :=
  match stored with
  | .error f => { m with vars := m.vars.halt f }
  | .ok sm => run { m with vars := sm }

/-- `md_sync_send_sm_recv_md_sync` -/
def recvMDSync (m : MDSyncSendMachine) (mdSync : MDSyncSend) :
    MDSyncSendMachine :=
  m.runStored (m.vars.storeMDSync mdSync)

/-- `md_sync_send_sm_txts` -/
def txts (m : MDSyncSendMachine) (tsuTimestamp : TSUTimestamp) :
    MDSyncSendMachine :=
  if m.state ≠ .sendSync then
    m
  else if m.vars.timestampMatches tsuTimestamp = false then
    m
  else
    m.runStored (m.vars.storeTimestamp tsuTimestamp)

/-- The calls that the rest of the program makes. -/
inductive Event where
  | recvMDSync (mdSync : MDSyncSend)
  | txts (tsuTimestamp : TSUTimestamp)

/-- One call.  A process that has ended makes none. -/
def step (m : MDSyncSendMachine) (e : Event) : MDSyncSendMachine :=
  if m.vars.process.stop ≠ none then
    m
  else
    match e with
    | .recvMDSync mdSync => m.recvMDSync mdSync
    | .txts tsuTimestamp => m.txts tsuTimestamp

/-- The states that the run of `runStored` enters. -/
def storedEntries (m : MDSyncSendMachine)
    (stored : Except Fault MDSyncSendSM) :
    List (MDSyncSendSMState × MDSyncSendSM) :=
  match stored with
  | .error _ => []
  | .ok sm => behaviour.program.entries passes (ready { m with vars := sm })

/-- The states that the run in a call enters. -/
def entered (m : MDSyncSendMachine) (e : Event) :
    List (MDSyncSendSMState × MDSyncSendSM) :=
  if m.vars.process.stop ≠ none then
    []
  else
    match e with
    | .recvMDSync mdSync => m.storedEntries (m.vars.storeMDSync mdSync)
    | .txts tsuTimestamp =>
        if m.state ≠ .sendSync then
          []
        else if m.vars.timestampMatches tsuTimestamp = false then
          []
        else
          m.storedEntries (m.vars.storeTimestamp tsuTimestamp)

end MDSyncSendMachine

end TimeSync
end Ziggo
