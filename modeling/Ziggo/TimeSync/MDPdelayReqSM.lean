import Mathlib.Algebra.Order.Ring.Abs
import Ziggo.Foundation.Runs
import Ziggo.TsnDrivers.UScaledNs
import Ziggo.TimeSync.Process

/-!
# The peer delay initiator

The state machine of `md_pdelay_req_sm.c`.  It sends a `Pdelay_Req`, waits for
the timestamp of its transmission, for the `Pdelay_Resp` and for the
`Pdelay_Resp_Follow_Up` of the peer, and computes the link delay from the four
timestamps of the exchange.
-/

namespace Ziggo
namespace TimeSync

open Foundation TsnDrivers

inductive MDPdelayReqSMState where
  | init
  | notEnabled
  | initialSendPdelayReq
  | waitingForPdelayResp
  | waitingForPdelayRespFollowUp
  | waitingForPdelayIntervalTimer
  | reset
  | sendPdelayReq
deriving DecidableEq, Repr

/--
The variables of the machine together with the globals it points to and the
process it runs in.  The state and the last state belong to the driver.
-/
structure MDPdelayReqSM where
  pdelayIntervalTimer : UScaledNs
  rcvdPdelayResp : Bool
  rcvdPdelayRespPtr : Ptr PTPMsgPdelayResp
  rcvdPdelayRespFollowUp : Bool
  rcvdPdelayRespFollowUpPtr : Ptr PTPMsgPdelayRespFollowUp
  txPdelayReqPtr : Ptr PTPMsgPdelayReq
  rcvdMDTimestampReceiveMDPReq : Bool
  pdelayReqSequenceId : UInt16
  lostResponses : UInt16
  neighborRateRatioValid : Bool
  detectedFaults : UInt16
  portEnabled0 : Bool
  perPortGlobal : PerPortGlobal
  perPTPInstanceGlobal : PerPTPInstanceGlobal
  mdEntityGlobal : MDEntityGlobal
  t1 : UScaledNs
  t2 : UScaledNs
  t3 : UScaledNs
  t4 : UScaledNs
  lPdelayRespEventIngressTimestamp : Fin maxLength -> UScaledNs
  lCorrectedResponderEventTimestamp : Fin maxLength -> UScaledNs
  listHeadPropTime : Fin maxLength
  listTailPropTime : Fin maxLength
  isEmptyPropTime : Bool
  process : Process
deriving Inhabited

namespace MDPdelayReqSM

open MDPdelayReqSMState

def halt (f : Fault) (sm : MDPdelayReqSM) : MDPdelayReqSM :=
  { sm with process := sm.process.halt f }

/-!
## Messages
-/

def sizeofPTPFramePdelayReq : UInt16 := 54

/-- The identity under which the machine sends and expects answers. -/
def portId (sm : MDPdelayReqSM) : PortIdentity where
  clockIdentity := sm.perPTPInstanceGlobal.thisClock
  portNumber := portNumberOf sm.perPortGlobal.thisPort

def setPdelayReq (sm : MDPdelayReqSM) : PTPMsgPdelayReq where
  head := ptpMsgHeaderTemplate .pdelayReq sizeofPTPFramePdelayReq sm.portId
    sm.pdelayReqSequenceId defaultLogMessageInterval 0

def txPdelayReq (sm : MDPdelayReqSM) : MDPdelayReqSM :=
  { sm with
    txPdelayReqPtr := .live sm.setPdelayReq
    process := sm.process.sendPtpFrame sm.perPortGlobal.thisPort
      (.pdelayReq sm.setPdelayReq) }

/-!
## Computations
-/

def mdPdelayAddRespAndRespFollowUpTimestamp (sm : MDPdelayReqSM) :
    MDPdelayReqSM :=
  let next := sm.listTailPropTime + 1
  { sm with
    lPdelayRespEventIngressTimestamp :=
      Function.update sm.lPdelayRespEventIngressTimestamp next sm.t4
    lCorrectedResponderEventTimestamp :=
      Function.update sm.lCorrectedResponderEventTimestamp next sm.t3
    isEmptyPropTime := false
    listHeadPropTime :=
      if sm.isEmptyPropTime = false ∧ sm.listHeadPropTime = next then
        sm.listHeadPropTime + 1
      else
        sm.listHeadPropTime
    listTailPropTime := next }

/-- `computePdelayRateRatio`, which may also move the head of the history. -/
def computePdelayRateRatio (sm : MDPdelayReqSM) :
    Except Fault (Rat × Fin maxLength) := do
  if sm.isEmptyPropTime ∨ sm.listTailPropTime = sm.listHeadPropTime then
    return (1, sm.listHeadPropTime)
  let r <- uscalednsDiv
    (uscalednsSubtract
      (sm.lCorrectedResponderEventTimestamp sm.listTailPropTime)
      (sm.lCorrectedResponderEventTimestamp sm.listHeadPropTime))
    (uscalednsSubtract
      (sm.lPdelayRespEventIngressTimestamp sm.listTailPropTime)
      (sm.lPdelayRespEventIngressTimestamp sm.listHeadPropTime))
  if |r - 1| > 1 / 1000 then
    return (1, sm.listTailPropTime)
  return (r, sm.listHeadPropTime)

def computePropTime (sm : MDPdelayReqSM) : Except Fault UScaledNs := do
  let t4_1 := uscalednsSubtract sm.t4 sm.t1
  let t3_2 := uscalednsSubtract sm.t3 sm.t2
  if uscalednsCompare sm.t4 sm.t1 < 0 then
    throw .exit
  let r_t4_1 := uscalednsMulDouble t4_1 sm.perPortGlobal.neighborRateRatio
  let r_t4_1_3_2 := uscalednsSubtract r_t4_1 t3_2
  if uscalednsCompare r_t4_1 t3_2 < 0 then
    throw .exit
  return uscalednsDivideBy2 r_t4_1_3_2

/-!
## Actions and transitions
-/

/-- `pdelayReqInterval` has passed since the last `Pdelay_Req`. -/
def intervalElapsed (sm : MDPdelayReqSM) (ts : UScaledNs) : Bool :=
  uscalednsCompare (uscalednsSubtract ts sm.pdelayIntervalTimer)
    sm.mdEntityGlobal.pdelayReqInterval ≥ 0

def allStateTransition (sm : MDPdelayReqSM) (state : MDPdelayReqSMState) :
    MDPdelayReqSMState :=
  if sm.perPTPInstanceGlobal.BEGIN ∨ sm.perPortGlobal.portOper = false ∨
      sm.portEnabled0 = false then
    notEnabled
  else
    state

def notEnabledStateTransition (sm : MDPdelayReqSM) : MDPdelayReqSMState :=
  if sm.perPortGlobal.portOper ∧ sm.portEnabled0 then
    initialSendPdelayReq
  else
    notEnabled

def initialSendPdelayReqAction (sm : MDPdelayReqSM) (ts : UScaledNs) :
    MDPdelayReqSM :=
  let sm :=
    { sm with
      rcvdPdelayResp := false
      rcvdPdelayRespFollowUp := false
      perPortGlobal := { sm.perPortGlobal with neighborRateRatio := 1 }
      rcvdMDTimestampReceiveMDPReq := false
      pdelayReqSequenceId := sm.process.nextRand
      process := sm.process.dropRand }
  let sm := sm.txPdelayReq
  { sm with
    pdelayIntervalTimer := ts
    lostResponses := 0
    detectedFaults := 0
    mdEntityGlobal :=
      { sm.mdEntityGlobal with
        isMeasuringDelay := false
        asCapableAcrossDomains := false } }

def initialSendPdelayReqStateTransition (sm : MDPdelayReqSM) :
    MDPdelayReqSMState :=
  if sm.rcvdMDTimestampReceiveMDPReq then
    waitingForPdelayResp
  else
    initialSendPdelayReq

def resetAction (sm : MDPdelayReqSM) : MDPdelayReqSM :=
  let sm := { sm with rcvdPdelayResp := false }
  if sm.lostResponses ≤ sm.mdEntityGlobal.allowedLostResponses.toUInt16 then
    { sm with lostResponses := sm.lostResponses + 1 }
  else
    { sm with
      mdEntityGlobal :=
        { sm.mdEntityGlobal with
          isMeasuringDelay := false
          asCapableAcrossDomains := false } }

def resetStateTransition (sm : MDPdelayReqSM) (ts : UScaledNs) :
    MDPdelayReqSMState :=
  if sm.intervalElapsed ts then sendPdelayReq else reset

def sendPdelayReqAction (sm : MDPdelayReqSM) (ts : UScaledNs) :
    MDPdelayReqSM :=
  let sm := { sm with pdelayReqSequenceId := sm.pdelayReqSequenceId + 1 }
  { sm.txPdelayReq with pdelayIntervalTimer := ts }

def sendPdelayReqStateTransition (sm : MDPdelayReqSM) : MDPdelayReqSMState :=
  if sm.rcvdMDTimestampReceiveMDPReq then waitingForPdelayResp else sendPdelayReq

def waitingForPdelayRespAction (sm : MDPdelayReqSM) : MDPdelayReqSM :=
  { sm with rcvdMDTimestampReceiveMDPReq := false }

def waitingForPdelayRespStateTransition (sm : MDPdelayReqSM) (ts : UScaledNs) :
    Except Fault MDPdelayReqSMState := do
  if sm.intervalElapsed ts then
    return reset
  else if sm.rcvdPdelayResp then
    let resp <- sm.rcvdPdelayRespPtr.deref
    let req <- sm.txPdelayReqPtr.deref
    if resp.head.sequenceId = req.head.sequenceId ∧
        resp.requestingPortIdentity = sm.portId then
      return waitingForPdelayRespFollowUp
    else
      return reset
  else
    return waitingForPdelayResp

def waitingForPdelayRespFollowUpAction (sm : MDPdelayReqSM) : MDPdelayReqSM :=
  { sm with rcvdPdelayResp := false }

/-- A second `Pdelay_Resp` has come for the outstanding `Pdelay_Req`. -/
def duplicateResp (sm : MDPdelayReqSM) : Except Fault Bool := do
  if sm.rcvdPdelayResp then
    let resp <- sm.rcvdPdelayRespPtr.deref
    let req <- sm.txPdelayReqPtr.deref
    return resp.head.sequenceId = req.head.sequenceId
  else
    return false

/-- The `Pdelay_Resp_Follow_Up` at hand completes the exchange. -/
def respFollowUpAccepted (sm : MDPdelayReqSM) : Except Fault Bool := do
  if sm.rcvdPdelayRespFollowUp then
    let followUp <- sm.rcvdPdelayRespFollowUpPtr.deref
    let req <- sm.txPdelayReqPtr.deref
    if followUp.head.sequenceId = req.head.sequenceId then
      let resp <- sm.rcvdPdelayRespPtr.deref
      return portIdentityEqual followUp.head.sourcePortIdentity
        resp.head.sourcePortIdentity ∨ resp.requestingPortIdentity = sm.portId
    else
      return false
  else
    return false

def waitingForPdelayRespFollowUpStateTransition (sm : MDPdelayReqSM)
    (ts : UScaledNs) : Except Fault MDPdelayReqSMState := do
  if sm.intervalElapsed ts then
    return reset
  else if (<- sm.duplicateResp) then
    return reset
  else if (<- sm.respFollowUpAccepted) then
    return waitingForPdelayIntervalTimer
  else
    return waitingForPdelayRespFollowUp

/-- The verdict of a finished exchange on the capability of the link. -/
def updateAsCapable (sm : MDPdelayReqSM) (resp : PTPMsgPdelayResp) :
    MDPdelayReqSM :=
  let foreign :=
    resp.head.sourcePortIdentity.clockIdentity ≠
      sm.perPTPInstanceGlobal.thisClock
  if uscalednsCompare sm.perPortGlobal.meanLinkDelay
      sm.mdEntityGlobal.meanLinkDelayThresh ≤ 0 ∧ foreign ∧
      sm.neighborRateRatioValid then
    { sm with
      mdEntityGlobal := { sm.mdEntityGlobal with asCapableAcrossDomains := true }
      detectedFaults := 0 }
  else if foreign then
    { sm with
      mdEntityGlobal := { sm.mdEntityGlobal with asCapableAcrossDomains := false }
      detectedFaults := 0 }
  else if sm.detectedFaults ≤ sm.mdEntityGlobal.allowedFaults.toUInt16 then
    { sm with detectedFaults := sm.detectedFaults + 1 }
  else
    { sm with
      mdEntityGlobal :=
        { sm.mdEntityGlobal with
          asCapableAcrossDomains := false
          isMeasuringDelay := false }
      detectedFaults := 0 }

def updateNeighborRateRatio (sm : MDPdelayReqSM) :
    Except Fault MDPdelayReqSM :=
  if sm.perPortGlobal.computeNeighborRateRatio then do
    let (r, head) <- sm.computePdelayRateRatio
    return { sm with
      listHeadPropTime := head
      perPortGlobal := { sm.perPortGlobal with neighborRateRatio := r } }
  else
    .ok sm

def updateMeanLinkDelay (sm : MDPdelayReqSM) : Except Fault MDPdelayReqSM :=
  if sm.perPortGlobal.computeMeanLinkDelay then do
    let propTime <- sm.computePropTime
    return { sm with
      perPortGlobal := { sm.perPortGlobal with meanLinkDelay := propTime } }
  else
    .ok sm

/-- The part of the last action that `asymmetryMeasurementMode` switches off. -/
def measureDelay (sm : MDPdelayReqSM) : Except Fault MDPdelayReqSM :=
  if sm.perPortGlobal.asymmetryMeasurementMode then
    .ok sm
  else do
    let sm <- sm.mdPdelayAddRespAndRespFollowUpTimestamp.updateNeighborRateRatio
    let sm <- sm.updateMeanLinkDelay
    let resp <- sm.rcvdPdelayRespPtr.deref
    return updateAsCapable
      { sm with
        mdEntityGlobal := { sm.mdEntityGlobal with isMeasuringDelay := true } }
      resp

/-- The releases at the end of an exchange. -/
def freeMessages (sm : MDPdelayReqSM) : Except Fault MDPdelayReqSM := do
  let req <- sm.txPdelayReqPtr.free
  let resp <- sm.rcvdPdelayRespPtr.free
  let followUp <- sm.rcvdPdelayRespFollowUpPtr.free
  return { sm with
    txPdelayReqPtr := req
    rcvdPdelayRespPtr := resp
    rcvdPdelayRespFollowUpPtr := followUp }

def waitingForPdelayIntervalTimerAction (sm : MDPdelayReqSM) :
    Except Fault MDPdelayReqSM := do
  let sm <- measureDelay
    { sm with rcvdPdelayRespFollowUp := false, lostResponses := 0 }
  sm.freeMessages

def waitingForPdelayIntervalTimerStateTransition (sm : MDPdelayReqSM)
    (ts : UScaledNs) : MDPdelayReqSMState :=
  if sm.intervalElapsed ts then sendPdelayReq else waitingForPdelayIntervalTimer

/-!
## The driver
-/

/-- The action that a state performs when it is entered at time `ts`. -/
def action (ts : UScaledNs) (state : MDPdelayReqSMState)
    (sm : MDPdelayReqSM) : Except Fault MDPdelayReqSM :=
  match state with
  | init => .ok sm
  | notEnabled => .ok sm
  | initialSendPdelayReq => .ok (sm.initialSendPdelayReqAction ts)
  | waitingForPdelayResp => .ok sm.waitingForPdelayRespAction
  | waitingForPdelayRespFollowUp => .ok sm.waitingForPdelayRespFollowUpAction
  | waitingForPdelayIntervalTimer => sm.waitingForPdelayIntervalTimerAction
  | reset => .ok sm.resetAction
  | sendPdelayReq => .ok (sm.sendPdelayReqAction ts)

/-- The state that follows a state at time `ts`. -/
def transition (ts : UScaledNs) (state : MDPdelayReqSMState)
    (sm : MDPdelayReqSM) : Except Fault MDPdelayReqSMState :=
  match state with
  | init => .ok notEnabled
  | notEnabled => .ok sm.notEnabledStateTransition
  | initialSendPdelayReq => .ok sm.initialSendPdelayReqStateTransition
  | waitingForPdelayResp => sm.waitingForPdelayRespStateTransition ts
  | waitingForPdelayRespFollowUp =>
      sm.waitingForPdelayRespFollowUpStateTransition ts
  | waitingForPdelayIntervalTimer =>
      .ok (sm.waitingForPdelayIntervalTimerStateTransition ts)
  | reset => .ok (sm.resetStateTransition ts)
  | sendPdelayReq => .ok sm.sendPdelayReqStateTransition

def behaviour (ts : UScaledNs) : Behaviour MDPdelayReqSMState MDPdelayReqSM where
  action := action ts
  transition := transition ts
  fault sm := sm.process.stop
  halt := halt
  fault_halt _ _ := by simp [halt]

/-!
## Inputs

What the functions that receive a timestamp or a message store before they run
the machine, and the ingress timestamp of a `Pdelay_Resp`, which
`md_pdelay_req_sm_recv_resp` stores after the run.
-/

def storeTimestamp (sm : MDPdelayReqSM) (tsuTimestamp : TSUTimestamp) :
    MDPdelayReqSM :=
  { sm with
    t1 := tsuTimestamp.ts
    rcvdMDTimestampReceiveMDPReq := true }

def storeResp (sm : MDPdelayReqSM) (pdelayResp : PTPMsgPdelayResp) :
    MDPdelayReqSM :=
  { sm with
    rcvdPdelayResp := true
    rcvdPdelayRespPtr := .live pdelayResp
    t2 := uscalednsPtpmsgtimestamp pdelayResp.requestReceiptTimestamp }

def storeRespTimestamp (sm : MDPdelayReqSM) (tsuTimestamp : TSUTimestamp) :
    MDPdelayReqSM :=
  { sm with t4 := tsuTimestamp.ts }

def storeRespFollowUp (sm : MDPdelayReqSM)
    (pdelayRespFollowUp : PTPMsgPdelayRespFollowUp) : MDPdelayReqSM :=
  { sm with
    rcvdPdelayRespFollowUp := true
    rcvdPdelayRespFollowUpPtr := .live pdelayRespFollowUp
    t3 := uscalednsPtpmsgtimestamp pdelayRespFollowUp.responseOriginTimestamp }

end MDPdelayReqSM

abbrev MDPdelayReqMachine : Type := Machine MDPdelayReqSMState MDPdelayReqSM

namespace MDPdelayReqMachine

open MDPdelayReqSM

/-- A bound on the number of passes of one run. -/
def passes : Nat := 16

/-- The machine as a run starts, after the transitions common to all states. -/
def ready (m : MDPdelayReqMachine) : MDPdelayReqMachine :=
  { m with state := m.vars.allStateTransition m.state }

/-- `md_pdelay_req_sm_run` -/
def run (m : MDPdelayReqMachine) (ts : UScaledNs) : MDPdelayReqMachine :=
  (behaviour ts).program.run passes m.ready

/-- `md_pdelay_req_sm_txts` -/
def txts (m : MDPdelayReqMachine) (ts : UScaledNs)
    (tsuTimestamp : TSUTimestamp) : MDPdelayReqMachine :=
  if m.state ≠ .sendPdelayReq ∧ m.state ≠ .initialSendPdelayReq then
    m
  else if tsuTimestamp.sequenceID ≠ m.vars.pdelayReqSequenceId then
    m
  else
    run { m with vars := m.vars.storeTimestamp tsuTimestamp } ts

/-- `md_pdelay_req_sm_recv_resp` -/
def recvResp (m : MDPdelayReqMachine) (ts : UScaledNs)
    (tsuTimestamp : TSUTimestamp) (pdelayResp : PTPMsgPdelayResp) :
    MDPdelayReqMachine :=
  let m := run { m with vars := m.vars.storeResp pdelayResp } ts
  { m with vars := m.vars.storeRespTimestamp tsuTimestamp }

def recvRespFollowUp (m : MDPdelayReqMachine) (ts : UScaledNs)
    (pdelayRespFollowUp : PTPMsgPdelayRespFollowUp) : MDPdelayReqMachine :=
  run { m with vars := m.vars.storeRespFollowUp pdelayRespFollowUp } ts

/-- `init_md_pdelay_req_sm`, on memory with arbitrary contents. -/
def initMdPdelayReqSm (memory : MDPdelayReqSM) : MDPdelayReqMachine :=
  run
    { state := .init
      lastState := none
      vars :=
        { memory with
          portEnabled0 := true
          listHeadPropTime := 0
          listTailPropTime := Fin.last _
          isEmptyPropTime := true } }
    { subns := 0, nsec := 0, nsecMsb := 0 }

/-!
## Events
-/

/-- The calls that `TimeSyncMainLoop` makes. -/
inductive Event where
  | run (ts : UScaledNs)
  | txts (ts : UScaledNs) (tsuTimestamp : TSUTimestamp)
  | recvResp (ts : UScaledNs) (tsuTimestamp : TSUTimestamp)
      (pdelayResp : PTPMsgPdelayResp)
  | recvRespFollowUp (ts : UScaledNs)
      (pdelayRespFollowUp : PTPMsgPdelayRespFollowUp)

/-- One call.  A process that has ended makes none. -/
def step (m : MDPdelayReqMachine) (e : Event) : MDPdelayReqMachine :=
  if m.vars.process.stop ≠ none then
    m
  else
    match e with
    | .run ts => m.run ts
    | .txts ts tsuTimestamp => m.txts ts tsuTimestamp
    | .recvResp ts tsuTimestamp pdelayResp =>
        m.recvResp ts tsuTimestamp pdelayResp
    | .recvRespFollowUp ts pdelayRespFollowUp =>
        m.recvRespFollowUp ts pdelayRespFollowUp

/-- The states that one run enters, with the variables they are entered with. -/
def runEntries (m : MDPdelayReqMachine) (ts : UScaledNs) :
    List (MDPdelayReqSMState × MDPdelayReqSM) :=
  (behaviour ts).program.entries passes m.ready

/-- The states that the run in a call enters. -/
def entered (m : MDPdelayReqMachine) (e : Event) :
    List (MDPdelayReqSMState × MDPdelayReqSM) :=
  if m.vars.process.stop ≠ none then
    []
  else
    match e with
    | .run ts => m.runEntries ts
    | .txts ts tsuTimestamp =>
        if m.state ≠ .sendPdelayReq ∧ m.state ≠ .initialSendPdelayReq then
          []
        else if tsuTimestamp.sequenceID ≠ m.vars.pdelayReqSequenceId then
          []
        else
          runEntries { m with vars := m.vars.storeTimestamp tsuTimestamp } ts
    | .recvResp ts _ pdelayResp =>
        runEntries { m with vars := m.vars.storeResp pdelayResp } ts
    | .recvRespFollowUp ts pdelayRespFollowUp =>
        runEntries
          { m with vars := m.vars.storeRespFollowUp pdelayRespFollowUp } ts

end MDPdelayReqMachine

end TimeSync
end Ziggo
