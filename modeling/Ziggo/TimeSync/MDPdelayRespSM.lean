import Ziggo.Foundation.Runs
import Ziggo.TsnDrivers.UScaledNs
import Ziggo.TimeSync.Process

/-!
# The peer delay responder

The state machine of `md_pdelay_resp_sm.c`.  It answers a `Pdelay_Req` with a
`Pdelay_Resp`, waits for the timestamp of its transmission, and sends that
timestamp in a `Pdelay_Resp_Follow_Up`.
-/

namespace Ziggo
namespace TimeSync

open Foundation TsnDrivers

inductive MDPdelayRespSMState where
  | init
  | notEnabled
  | initialWaitingForPdelayReq
  | sentPdelayRespWaitingForTimestamp
  | waitingForPdelayReq
deriving DecidableEq, Repr

structure MDPdelayRespSM where
  portEnabled1 : Bool
  rcvdPdelayReq : Bool
  rcvdPdelayReqPtr : Ptr PTPMsgPdelayReq
  rcvdMDTimestampReceiveMDPResp : Bool
  txPdelayRespPtr : Ptr PTPMsgPdelayResp
  txPdelayRespFollowUpPtr : Ptr PTPMsgPdelayRespFollowUp
  perPortGlobal : PerPortGlobal
  perPTPInstanceGlobal : PerPTPInstanceGlobal
  t2 : UScaledNs
  t3 : UScaledNs
  process : Process
deriving Inhabited

namespace MDPdelayRespSM

open MDPdelayRespSMState

def halt (f : Fault) (sm : MDPdelayRespSM) : MDPdelayRespSM :=
  { sm with process := sm.process.halt f }

/-!
## Messages
-/

def sizeofPTPFramePdelayResp : UInt16 := 54

def sizeofPTPFramePdelayRespFollowUp : UInt16 := 54

def sourcePortIdentity (sm : MDPdelayRespSM) : PortIdentity where
  clockIdentity := defaultClockIdentity
  portNumber := portNumberOf sm.perPortGlobal.thisPort

/-- `setPdelayResp`, for the request behind `rcvdPdelayReqPtr`. -/
def setPdelayResp (sm : MDPdelayRespSM) (req : PTPMsgPdelayReq) :
    PTPMsgPdelayResp where
  head := ptpMsgHeaderTemplate .pdelayResp sizeofPTPFramePdelayResp
    sm.sourcePortIdentity req.head.sequenceId defaultLogMessageInterval 0
  requestReceiptTimestamp := ptpmsgtimestampUscaledns sm.t2
  requestingPortIdentity := req.head.sourcePortIdentity

def txPdelayResp (sm : MDPdelayRespSM) : Except Fault MDPdelayRespSM := do
  let resp <- sm.txPdelayRespPtr.deref
  return { sm with
    process := sm.process.sendPtpFrame sm.perPortGlobal.thisPort
      (.pdelayResp resp) }

/-- `setPdelayRespFollowUp`, for the request behind `rcvdPdelayReqPtr`. -/
def setPdelayRespFollowUp (sm : MDPdelayRespSM) (req : PTPMsgPdelayReq) :
    PTPMsgPdelayRespFollowUp where
  head := ptpMsgHeaderTemplate .pdelayRespFollowUp
    sizeofPTPFramePdelayRespFollowUp sm.sourcePortIdentity req.head.sequenceId
    defaultLogMessageInterval 0
  responseOriginTimestamp := ptpmsgtimestampUscaledns sm.t3
  requestingPortIdentity := req.head.sourcePortIdentity

def txPdelayRespFollowUp (sm : MDPdelayRespSM) :
    Except Fault MDPdelayRespSM := do
  let followUp <- sm.txPdelayRespFollowUpPtr.deref
  return { sm with
    process := sm.process.sendPtpFrame sm.perPortGlobal.thisPort
      (.pdelayRespFollowUp followUp) }

/-!
## Actions and transitions
-/

def allStateTransition (sm : MDPdelayRespSM) (state : MDPdelayRespSMState) :
    MDPdelayRespSMState :=
  if sm.perPTPInstanceGlobal.BEGIN ∨ sm.perPortGlobal.portOper = false ∨
      sm.portEnabled1 = false then
    notEnabled
  else
    state

def notEnabledStateTransition (sm : MDPdelayRespSM) : MDPdelayRespSMState :=
  if sm.portEnabled1 then initialWaitingForPdelayReq else notEnabled

def initialWaitingForPdelayReqAction (sm : MDPdelayRespSM) : MDPdelayRespSM :=
  { sm with
    rcvdPdelayReq := false
    rcvdMDTimestampReceiveMDPResp := false }

def initialWaitingForPdelayReqStateTransition (sm : MDPdelayRespSM) :
    MDPdelayRespSMState :=
  if sm.rcvdPdelayReq then
    sentPdelayRespWaitingForTimestamp
  else
    initialWaitingForPdelayReq

def sentPdelayRespWaitingForTimestampAction (sm : MDPdelayRespSM) :
    Except Fault MDPdelayRespSM := do
  let sm := { sm with rcvdPdelayReq := false }
  let req <- sm.rcvdPdelayReqPtr.deref
  txPdelayResp { sm with txPdelayRespPtr := .live (sm.setPdelayResp req) }

def sentPdelayRespWaitingForTimestampStateTransition (sm : MDPdelayRespSM) :
    MDPdelayRespSMState :=
  if sm.rcvdMDTimestampReceiveMDPResp then
    waitingForPdelayReq
  else
    sentPdelayRespWaitingForTimestamp

def waitingForPdelayReqAction (sm : MDPdelayRespSM) :
    Except Fault MDPdelayRespSM := do
  let sm := { sm with rcvdMDTimestampReceiveMDPResp := false }
  let req <- sm.rcvdPdelayReqPtr.deref
  let sm <- txPdelayRespFollowUp
    { sm with txPdelayRespFollowUpPtr := .live (sm.setPdelayRespFollowUp req) }
  let _ <- sm.rcvdPdelayReqPtr.free
  let _ <- sm.txPdelayRespPtr.free
  let _ <- sm.txPdelayRespFollowUpPtr.free
  return { sm with
    rcvdPdelayReqPtr := .null
    txPdelayRespPtr := .null
    txPdelayRespFollowUpPtr := .null }

def waitingForPdelayReqStateTransition (sm : MDPdelayRespSM) :
    MDPdelayRespSMState :=
  if sm.rcvdPdelayReq then
    sentPdelayRespWaitingForTimestamp
  else
    waitingForPdelayReq

/-!
## The driver

The actions and transitions do not depend on the time of the call.
-/

def action (state : MDPdelayRespSMState) (sm : MDPdelayRespSM) :
    Except Fault MDPdelayRespSM :=
  match state with
  | init => .ok sm
  | notEnabled => .ok sm
  | initialWaitingForPdelayReq => .ok sm.initialWaitingForPdelayReqAction
  | sentPdelayRespWaitingForTimestamp =>
      sm.sentPdelayRespWaitingForTimestampAction
  | waitingForPdelayReq => sm.waitingForPdelayReqAction

def transition (state : MDPdelayRespSMState) (sm : MDPdelayRespSM) :
    Except Fault MDPdelayRespSMState :=
  match state with
  | init => .ok notEnabled
  | notEnabled => .ok sm.notEnabledStateTransition
  | initialWaitingForPdelayReq =>
      .ok sm.initialWaitingForPdelayReqStateTransition
  | sentPdelayRespWaitingForTimestamp =>
      .ok sm.sentPdelayRespWaitingForTimestampStateTransition
  | waitingForPdelayReq => .ok sm.waitingForPdelayReqStateTransition

def behaviour : Behaviour MDPdelayRespSMState MDPdelayRespSM where
  action := action
  transition := transition
  fault sm := sm.process.stop
  halt := halt
  fault_halt _ _ := by simp [halt]

/-!
## Inputs
-/

def storeTimestamp (sm : MDPdelayRespSM) (tsuTimestamp : TSUTimestamp) :
    MDPdelayRespSM :=
  { sm with
    t3 := tsuTimestamp.ts
    rcvdMDTimestampReceiveMDPResp := true }

def storeReq (sm : MDPdelayRespSM) (tsuTimestamp : TSUTimestamp)
    (pdelayReq : PTPMsgPdelayReq) : MDPdelayRespSM :=
  { sm with
    rcvdPdelayReq := true
    rcvdPdelayReqPtr := .live pdelayReq
    t2 := tsuTimestamp.ts }

end MDPdelayRespSM

abbrev MDPdelayRespMachine : Type := Machine MDPdelayRespSMState MDPdelayRespSM

namespace MDPdelayRespMachine

open MDPdelayRespSM

/-- A bound on the number of passes of one run. -/
def passes : Nat := 16

/-- The machine as a run starts, after the transitions common to all states. -/
def ready (m : MDPdelayRespMachine) : MDPdelayRespMachine :=
  { m with state := m.vars.allStateTransition m.state }

/-- `md_pdelay_resp_sm_run` -/
def run (m : MDPdelayRespMachine) : MDPdelayRespMachine :=
  behaviour.program.run passes m.ready

/-- `md_pdelay_resp_sm_txts` -/
def txts (m : MDPdelayRespMachine) (tsuTimestamp : TSUTimestamp) :
    MDPdelayRespMachine :=
  if m.state ≠ .sentPdelayRespWaitingForTimestamp then
    m
  else
    match m.vars.rcvdPdelayReqPtr.deref with
    | .error f => { m with vars := m.vars.halt f }
    | .ok req =>
        if tsuTimestamp.sequenceID ≠ req.head.sequenceId then
          m
        else
          run { m with vars := m.vars.storeTimestamp tsuTimestamp }

/-- `md_pdelay_resp_sm_recv_req` -/
def recvReq (m : MDPdelayRespMachine) (tsuTimestamp : TSUTimestamp)
    (pdelayReq : PTPMsgPdelayReq) : MDPdelayRespMachine :=
  run { m with vars := m.vars.storeReq tsuTimestamp pdelayReq }

/-- `init_md_pdelay_resp_sm`, on memory with arbitrary contents. -/
def initMdPdelayRespSm (memory : MDPdelayRespSM) : MDPdelayRespMachine :=
  run
    { state := .init
      lastState := none
      vars := { memory with portEnabled1 := true, rcvdPdelayReqPtr := .null } }

/-- The calls that `TimeSyncMainLoop` makes. -/
inductive Event where
  | txts (tsuTimestamp : TSUTimestamp)
  | recvReq (tsuTimestamp : TSUTimestamp) (pdelayReq : PTPMsgPdelayReq)

/-- One call.  A process that has ended makes none. -/
def step (m : MDPdelayRespMachine) (e : Event) : MDPdelayRespMachine :=
  if m.vars.process.stop ≠ none then
    m
  else
    match e with
    | .txts tsuTimestamp => m.txts tsuTimestamp
    | .recvReq tsuTimestamp pdelayReq => m.recvReq tsuTimestamp pdelayReq

end MDPdelayRespMachine

end TimeSync
end Ziggo
