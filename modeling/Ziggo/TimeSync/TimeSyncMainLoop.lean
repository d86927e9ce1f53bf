import Ziggo.TimeSync.EthFrame.Dispatch
import Ziggo.TimeSync.AnnounceLoop
import Ziggo.TimeSync.ClockMasterLoop
import Ziggo.TimeSync.MDPdelayReqSM
import Ziggo.TimeSync.MDPdelayRespSM

/-!
# The main loop

`TimeSyncMainLoop` as a whole: the variables that all state machines share, their
initialization, and one pass of the loop, which updates the time of the clock
master, checks the ports for timeouts, handles one received frame, selects the
port states and reads the timestamps of transmitted frames.

The machines are grouped as in the modules on their parts of the loop.  The
variables that they share exist once: a call hands them to the group that it
concerns and takes them back.
-/

namespace Ziggo
namespace TimeSync

open Foundation TsnDrivers

/-- The contents of the variables before they are set. -/
structure MainLoopMemory where
  perPTPInstanceGlobal : PerPTPInstanceGlobal
  perPortGlobal : PerPortGlobalArray
  mdEntityGlobal : PortIndex -> MDEntityGlobal
  announceLoop : LoopMemory
  clockMasterLoop : ClockMasterMemory
  mdPdelayReqSms : PortIndex -> MDPdelayReqSM
  mdPdelayRespSms : PortIndex -> MDPdelayRespSM
  /-- The random numbers that `MDPdelayReqSM` draws on the ports. -/
  rand : PortIndex -> Nat -> UInt16
  receiver : Receiver

structure TimeSyncMainLoop where
  perPTPInstanceGlobal : PerPTPInstanceGlobal
  perPortGlobal : PerPortGlobalArray
  mdEntityGlobal : PortIndex -> MDEntityGlobal
  announceLoop : AnnounceLoop
  clockMasterLoop : ClockMasterLoop
  mdPdelayReqSms : PortIndex -> MDPdelayReqMachine
  mdPdelayRespSms : PortIndex -> MDPdelayRespMachine
  receiver : Receiver
  /-- Why the process ended, if it has ended. -/
  stop : Option Fault

namespace TimeSyncMainLoop

def halt (f : Fault) (m : TimeSyncMainLoop) : TimeSyncMainLoop :=
  { m with stop := some f }

/-- A statement of the loop.  A process that has ended executes none. -/
def thenDo (m : TimeSyncMainLoop)
    (statement : TimeSyncMainLoop -> TimeSyncMainLoop) : TimeSyncMainLoop :=
  if m.stop ≠ none then m else statement m

/-!
## The machines for `Announce` messages
-/

def loadAnnounce (m : TimeSyncMainLoop) : AnnounceLoop :=
  { m.announceLoop with
    perPTPInstanceGlobal := m.perPTPInstanceGlobal
    perPortGlobal := m.perPortGlobal }

def storeAnnounce (l : AnnounceLoop) (m : TimeSyncMainLoop) : TimeSyncMainLoop :=
  { m with
    perPTPInstanceGlobal := l.perPTPInstanceGlobal
    perPortGlobal := l.perPortGlobal
    announceLoop := l
    stop := m.stop.or l.process.stop }

/-- A statement about the machines for `Announce` messages. -/
def callAnnounce (statement : AnnounceLoop -> AnnounceLoop)
    (m : TimeSyncMainLoop) : TimeSyncMainLoop :=
  storeAnnounce (statement m.loadAnnounce) m

/-!
## The clock master and the machines for synchronization
-/

/-- The machine `i` of the senders with the globals of its entity. -/
def loadMDSyncSend (m : TimeSyncMainLoop) (i : PortIndex) : MDSyncSendMachine :=
  let sm := m.clockMasterLoop.syncLoop.mdSyncSendSms i
  { sm with vars := { sm.vars with mdEntityGlobal := m.mdEntityGlobal i } }

def loadSync (m : TimeSyncMainLoop) : SyncLoop :=
  { m.clockMasterLoop.syncLoop with
    perPTPInstanceGlobal := m.perPTPInstanceGlobal
    perPortGlobal := m.perPortGlobal
    mdSyncSendSms := m.loadMDSyncSend }

def loadClockMaster (m : TimeSyncMainLoop) : ClockMasterLoop :=
  m.clockMasterLoop.withSyncLoop m.loadSync

def storeClockMaster (w : ClockMasterLoop) (m : TimeSyncMainLoop) :
    TimeSyncMainLoop :=
  { m with
    perPTPInstanceGlobal := w.syncLoop.perPTPInstanceGlobal
    perPortGlobal := w.syncLoop.perPortGlobal
    mdEntityGlobal := fun i => (w.syncLoop.mdSyncSendSms i).vars.mdEntityGlobal
    clockMasterLoop := w
    stop := m.stop.or w.syncLoop.stop }

def callClockMaster (statement : ClockMasterLoop -> ClockMasterLoop)
    (m : TimeSyncMainLoop) : TimeSyncMainLoop :=
  storeClockMaster (statement m.loadClockMaster) m

def callSync (statement : SyncLoop -> SyncLoop) (m : TimeSyncMainLoop) :
    TimeSyncMainLoop :=
  m.callClockMaster fun w => w.withSyncLoop (statement w.syncLoop)

/-!
## The machines for the delays of the links

They write to no global of the instance, and the responders to none at all.
-/

def loadPdelayReq (m : TimeSyncMainLoop) (i : PortIndex) : MDPdelayReqMachine :=
  { m.mdPdelayReqSms i with
    vars :=
      { (m.mdPdelayReqSms i).vars with
        perPortGlobal := m.perPortGlobal i
        perPTPInstanceGlobal := m.perPTPInstanceGlobal
        mdEntityGlobal := m.mdEntityGlobal i } }

def storePdelayReq (i : PortIndex) (sm : MDPdelayReqMachine)
    (m : TimeSyncMainLoop) : TimeSyncMainLoop :=
  { m with
    perPortGlobal := Function.update m.perPortGlobal i sm.vars.perPortGlobal
    mdEntityGlobal := Function.update m.mdEntityGlobal i sm.vars.mdEntityGlobal
    mdPdelayReqSms := Function.update m.mdPdelayReqSms i sm
    stop := m.stop.or sm.vars.process.stop }

def callPdelayReq (i : PortIndex)
    (statement : MDPdelayReqMachine -> MDPdelayReqMachine)
    (m : TimeSyncMainLoop) : TimeSyncMainLoop :=
  storePdelayReq i (statement (m.loadPdelayReq i)) m

def loadPdelayResp (m : TimeSyncMainLoop) (i : PortIndex) :
    MDPdelayRespMachine :=
  { m.mdPdelayRespSms i with
    vars :=
      { (m.mdPdelayRespSms i).vars with
        perPortGlobal := m.perPortGlobal i
        perPTPInstanceGlobal := m.perPTPInstanceGlobal } }

def storePdelayResp (i : PortIndex) (sm : MDPdelayRespMachine)
    (m : TimeSyncMainLoop) : TimeSyncMainLoop :=
  { m with
    mdPdelayRespSms := Function.update m.mdPdelayRespSms i sm
    stop := m.stop.or sm.vars.process.stop }

def callPdelayResp (i : PortIndex)
    (statement : MDPdelayRespMachine -> MDPdelayRespMachine)
    (m : TimeSyncMainLoop) : TimeSyncMainLoop :=
  storePdelayResp i (statement (m.loadPdelayResp i)) m

/-!
## Initialization
-/

/-- The assignments of the main loop to the globals of one entity. -/
def initMDEntityGlobal (g : MDEntityGlobal) : MDEntityGlobal :=
  { g with
    allowedFaults := 255
    allowedLostResponses := 255
    asCapableAcrossDomains := false
    isMeasuringDelay := true
    meanLinkDelayThresh := { subns := 0, nsec := 0, nsecMsb := 0xFFFF }
    pdelayReqInterval := AnnounceLoop.oneSecond }

/-- The process of a machine that has not been called yet. -/
def freshProcess (rand : Nat -> UInt16) : Process where
  stop := none
  sent := []
  rand := rand

/-- The loop before the first call of a state machine. -/
def initial (config : Config) (memory : MainLoopMemory) : TimeSyncMainLoop where
  perPTPInstanceGlobal :=
    AnnounceLoop.initPerPTPInstanceGlobal config memory.perPTPInstanceGlobal
  perPortGlobal i :=
    AnnounceLoop.initPerPortGlobal config i (memory.perPortGlobal i)
  mdEntityGlobal i := initMDEntityGlobal (memory.mdEntityGlobal i)
  announceLoop := AnnounceLoop.initial config memory.announceLoop
  clockMasterLoop := ClockMasterLoop.initial config memory.clockMasterLoop
  mdPdelayReqSms i :=
    { state := .init
      lastState := none
      vars :=
        { memory.mdPdelayReqSms i with
          process := freshProcess (memory.rand i) } }
  mdPdelayRespSms i :=
    { state := .init
      lastState := none
      vars :=
        { memory.mdPdelayRespSms i with
          process := freshProcess (memory.mdPdelayRespSms i).process.rand } }
  receiver := memory.receiver
  stop := none

def initPdelayReq (i : PortIndex) (m : TimeSyncMainLoop) : TimeSyncMainLoop :=
  m.callPdelayReq i fun sm => .initMdPdelayReqSm sm.vars

def initPdelayResp (i : PortIndex) (m : TimeSyncMainLoop) : TimeSyncMainLoop :=
  m.callPdelayResp i fun sm => .initMdPdelayRespSm sm.vars

def initInstance (m : TimeSyncMainLoop) : TimeSyncMainLoop :=
  ((((m.thenDo (callClockMaster ClockMasterLoop.initSyncReceive)).thenDo
    (callClockMaster ClockMasterLoop.initSyncSend)).thenDo
    (callSync SiteSyncSyncSM.initSiteSyncSyncSm)).thenDo
    (callSync ClockSlaveSyncSM.initClockSlaveSyncSm)).thenDo
    (callAnnounce AnnounceLoop.initSelection)

def initPort (m : TimeSyncMainLoop) (i : PortIndex) : TimeSyncMainLoop :=
  (((((((m.thenDo
    (callSync (PortSyncSyncReceiveSM.initPortSyncSyncReceiveSm i))).thenDo
    (callSync (PortSyncSyncSendSM.initPortSyncSyncSendSm i))).thenDo
    (initPdelayReq i)).thenDo (initPdelayResp i)).thenDo
    (callSync (SyncLoop.initMDSyncSend i))).thenDo
    (callSync (MDSyncReceiveSM.initMdSyncReceiveSm i))).thenDo
    (callAnnounce (AnnounceLoop.initInformation i))).thenDo
    (callAnnounce (AnnounceLoop.initTransmit i))

/-- The loop once all machines have been initialized. -/
def start (config : Config) (memory : MainLoopMemory) : TimeSyncMainLoop :=
  (List.finRange nPorts).foldl initPort (initial config memory).initInstance

/-!
## Calls

The calls are events of the parts of the loop.
-/

def announce (e : AnnounceLoop.Event) (m : TimeSyncMainLoop) :
    TimeSyncMainLoop :=
  m.callAnnounce fun l => l.step e

def sync (e : SyncLoop.Event) (m : TimeSyncMainLoop) : TimeSyncMainLoop :=
  m.callSync fun l => l.step e

def tick (reading : ClockReading) (m : TimeSyncMainLoop) : TimeSyncMainLoop :=
  m.callClockMaster fun w => w.step (.tick reading)

def pdelayReq (i : PortIndex) (e : MDPdelayReqMachine.Event)
    (m : TimeSyncMainLoop) : TimeSyncMainLoop :=
  m.callPdelayReq i fun sm => sm.step e

def pdelayResp (i : PortIndex) (e : MDPdelayRespMachine.Event)
    (m : TimeSyncMainLoop) : TimeSyncMainLoop :=
  m.callPdelayResp i fun sm => sm.step e

/-!
## One pass
-/

/-- What a pass reads from the hardware and from the thread that receives. -/
structure Inputs where
  reading : ClockReading
  /-- The packets that have been queued since the last pass. -/
  packets : List Packet
  /-- The timestamps of received frames since the last pass. -/
  rxTimestamps : UInt16 -> List TSUTimestamp
  allocated : Allocated
  /-- What `tsu_tx_get_timestamp` finds for the ports. -/
  txTimestamps : PortIndex -> Option TSUTimestamp

namespace Inputs

def currentTs (inputs : Inputs) : UScaledNs :=
  inputs.reading.timestamp

end Inputs

/-- The packets and timestamps that have come are waiting. -/
def arrive (inputs : Inputs) (m : TimeSyncMainLoop) : TimeSyncMainLoop :=
  { m with
    receiver :=
      { m.receiver with
        queue := m.receiver.queue ++ inputs.packets
        rxTimestamps := fun port =>
          m.receiver.rxTimestamps port ++ inputs.rxTimestamps port } }

def checkTimeouts (ts : UScaledNs) (m : TimeSyncMainLoop) (i : PortIndex) :
    TimeSyncMainLoop :=
  ((m.thenDo (pdelayReq i (.run ts))).thenDo (sync (.timeout i ts))).thenDo
    (announce (.timeout i ts))

/-- The message that is printed reads the request of the first port. -/
def printPdelayReq (m : TimeSyncMainLoop) : TimeSyncMainLoop :=
  if (m.mdPdelayRespSms 0).vars.rcvdPdelayReqPtr = .released then
    m.halt .invalidPointer
  else
    m

/-- The call that a received message leads to.  Event messages have timestamps. -/
def handleMessage (ts : UScaledNs) (i : PortIndex) (call : MessageCall)
    (m : TimeSyncMainLoop) : TimeSyncMainLoop :=
  match call with
  | .mdPdelayRespRecvReq (some tsuTs) message =>
      m.pdelayResp i (.recvReq tsuTs message)
  | .mdPdelayReqRecvResp (some tsuTs) message =>
      m.pdelayReq i (.recvResp ts tsuTs message)
  | .mdPdelayReqRecvRespFollowUp message =>
      m.pdelayReq i (.recvRespFollowUp ts message)
  | .mdSyncReceiveRecvSync (some tsuTs) message =>
      m.sync (.sync i ts tsuTs message)
  | .mdSyncReceiveRecvFollowUp message => m.sync (.followUp i ts message)
  | .portAnnounceInformationRecvAnnounce message =>
      m.announce (.announce i ts message)
  | .portAnnounceInformationExtRecvAnnounce message =>
      m.announce (.announce i ts message)
  | _ => m.halt .invalidPointer

def switchReceived (ts : UScaledNs) (received : Received)
    (m : TimeSyncMainLoop) : TimeSyncMainLoop :=
  match dispatch m.perPTPInstanceGlobal.externalPortConfigurationEnabled
      (some received) with
  | .error f => m.halt f
  | .ok none => m
  | .ok (some (i, call)) => handleMessage ts i call m

/-- What the loop does with the result of `recv_ptp_frame`. -/
def handleReceived (ts : UScaledNs) (result : Option Received)
    (m : TimeSyncMainLoop) : TimeSyncMainLoop :=
  match result with
  | none => m
  | some received => m.printPdelayReq.thenDo (switchReceived ts received)

/-- The loop checks for a received frame. -/
def receive (ts : UScaledNs) (allocated : Allocated) (m : TimeSyncMainLoop) :
    TimeSyncMainLoop :=
  match recvPtpFrame allocated m.receiver with
  | .error f => m.halt f
  | .ok (result, receiver) =>
      handleReceived ts result { m with receiver := receiver }

/-- The `switch` over the kind of the message that has been transmitted. -/
def handleTxTimestamp (ts : UScaledNs) (i : PortIndex) (tsuTs : TSUTimestamp)
    (m : TimeSyncMainLoop) : TimeSyncMainLoop :=
  if tsuTs.msgType = PTPMsgType.pdelayReq.code then
    m.pdelayReq i (.txts ts tsuTs)
  else if tsuTs.msgType = PTPMsgType.pdelayResp.code then
    m.pdelayResp i (.txts tsuTs)
  else if tsuTs.msgType = PTPMsgType.sync.code then
    m.sync (.txts i tsuTs)
  else
    m

/-- The loop checks for the timestamp of a transmission on one port. -/
def checkTxTimestamp (inputs : Inputs) (m : TimeSyncMainLoop) (i : PortIndex) :
    TimeSyncMainLoop :=
  match inputs.txTimestamps i with
  | none => m
  | some tsuTs => m.thenDo (handleTxTimestamp inputs.currentTs i tsuTs)

def pass (m : TimeSyncMainLoop) (inputs : Inputs) : TimeSyncMainLoop :=
  let ts := inputs.currentTs
  let m := (m.thenDo (arrive inputs)).thenDo (tick inputs.reading)
  let m := (List.finRange nPorts).foldl (checkTimeouts ts) m
  let m := (m.thenDo (receive ts inputs.allocated)).thenDo (announce .select)
  (List.finRange nPorts).foldl (checkTxTimestamp inputs) m

/-- The loop after a sequence of passes. -/
def after (config : Config) (memory : MainLoopMemory) (passes : List Inputs) :
    TimeSyncMainLoop :=
  runEvents pass (start config memory) passes

end TimeSyncMainLoop

end TimeSync
end Ziggo
