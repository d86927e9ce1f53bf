import Ziggo.TimeSync.SyncVariables

/-!
# The sender of synchronization information on a port

The state machine of `port_sync_sync_send_sm.c`.  On a master port it hands
each structure that it receives to the machine that sends the `Sync`.
-/

namespace Ziggo
namespace TimeSync

open Foundation TsnDrivers

namespace PortSyncSyncSendSM

open PortSyncSyncSendSMState

def assign (i : PortIndex) (sm : PortSyncSyncSendSM) (l : SyncLoop) :
    SyncLoop :=
  { l with
    portSyncSyncSendSms := Function.update l.portSyncSyncSendSms i sm }

def assignPort (i : PortIndex) (port : PerPortGlobal) (l : SyncLoop) :
    SyncLoop :=
  { l with perPortGlobal := Function.update l.perPortGlobal i port }

def lockSync (i : PortIndex) (l : SyncLoop) : SyncLoop :=
  assignPort i { l.perPortGlobal i with syncLocked := true } l

def clearSlowDown (i : PortIndex) (l : SyncLoop) : SyncLoop :=
  assignPort i { l.perPortGlobal i with syncSlowDown := false } l

def withSyncReceiptTimeoutTime (time : UScaledNs) (g : PerPTPInstanceGlobal) :
    PerPTPInstanceGlobal :=
  { g with syncReceiptTimeoutTime := time }

def setSyncReceiptTimeoutTime (time : UScaledNs) (l : SyncLoop) : SyncLoop :=
  { l with
    perPTPInstanceGlobal :=
      withSyncReceiptTimeoutTime time l.perPTPInstanceGlobal }

/-!
## The call of the machine below
-/

/-- The variables of `MDSyncSendSM` with the globals that they point to. -/
def loadMDSyncSend (l : SyncLoop) (i : PortIndex) : MDSyncSendMachine :=
  { l.mdSyncSendSms i with
    vars :=
      { (l.mdSyncSendSms i).vars with
        perPTPInstanceGlobal := l.perPTPInstanceGlobal
        perPortGlobal := l.perPortGlobal i } }

/-- The variables after a call, which ends the process where it fails. -/
def storeMDSyncSend (i : PortIndex) (m : MDSyncSendMachine) (l : SyncLoop) :
    SyncLoop :=
  { l with
    mdSyncSendSms := Function.update l.mdSyncSendSms i m
    stop := l.stop.or m.vars.process.stop }

def setMDSync (sm : PortSyncSyncSendSM) (g : PerPTPInstanceGlobal)
    (port : PerPortGlobal) : MDSyncSend where
  domainNumber := 0
  followUpCorrectionField := sm.lastFollowUpCorrectionField
  sourcePortIdentity :=
    { clockIdentity := g.thisClock
      portNumber := portNumberOf port.thisPort }
  logMessageInterval := port.currentLogSyncInterval
  preciseOriginTimestamp := sm.lastPreciseOriginTimestamp
  upstreamTxTime := sm.lastUpstreamTxTime
  rateRatio := sm.lastRateRatio
  gmTimeBaseIndicator := sm.lastGmTimeBaseIndicator
  lastGmPhaseChange := sm.lastGmPhaseChangePSSS
  lastGmFreqChange := sm.lastGmFreqChangePSSS

def txMDSync (i : PortIndex) (mdSync : MDSyncSend) (l : SyncLoop) : SyncLoop :=
  storeMDSyncSend i
    (MDSyncSendMachine.step (loadMDSyncSend l i) (.recvMDSync mdSync))
    (l.call (.mdSyncSend i mdSync))

/-!
## Actions and transitions
-/

/-- The variables once the received structure has been copied. -/
def copyPSSync (sm : PortSyncSyncSendSM) (pss : PortSyncSync) :
    PortSyncSyncSendSM :=
  { sm with
    lastRcvdPortNum := pss.localPortNumber
    lastPreciseOriginTimestamp := pss.preciseOriginTimestamp
    lastFollowUpCorrectionField := pss.followUpCorrectionField
    lastRateRatio := pss.rateRatio
    lastUpstreamTxTime := pss.upstreamTxTime
    lastGmTimeBaseIndicator := pss.gmTimeBaseIndicator
    lastGmPhaseChangePSSS := pss.lastGmPhaseChange
    lastGmFreqChangePSSS := pss.lastGmFreqChange }

/-- The assignments that depend on a received structure. -/
def takePSSync (i : PortIndex) (pss : PortSyncSync) (l : SyncLoop) : SyncLoop :=
  lockSync i
    (assign i ((l.portSyncSyncSendSms i).copyPSSync pss)
      (setSyncReceiptTimeoutTime pss.syncReceiptTimeoutTime l))

/-- The structure for the machine below is built and handed over. -/
def transmitMDSync (i : PortIndex) (ts : UScaledNs) (l : SyncLoop) : SyncLoop :=
  l.freeThen (l.portSyncSyncSendSms i).txMDSyncPtr fun l =>
    let mdSync := (l.portSyncSyncSendSms i).setMDSync l.perPTPInstanceGlobal
      (l.perPortGlobal i)
    txMDSync i mdSync
      (assign i
        { l.portSyncSyncSendSms i with
          rcvdPSSyncPSSS := false
          lastSyncSentTime := ts
          txMDSyncPtr := .live mdSync } l)

/-- The choice of the interval to the next transmission. -/
def chooseInterval (i : PortIndex) (l : SyncLoop) : SyncLoop :=
  let sm := l.portSyncSyncSendSms i
  let port := l.perPortGlobal i
  if port.syncSlowDown then
    if sm.numberSyncTransmissions.toNat ≥ port.syncReceiptTimeout.toNat then
      clearSlowDown i
        (assign i
          { sm with
            interval1 := port.syncInterval
            numberSyncTransmissions := 0 } l)
    else
      assign i
        { sm with
          interval1 := port.oldSyncInterval
          numberSyncTransmissions := sm.numberSyncTransmissions + 1 } l
  else
    assign i
      { sm with
        numberSyncTransmissions := 0
        interval1 := port.syncInterval } l

def transmitInitAction (i : PortIndex) (l : SyncLoop) : SyncLoop :=
  clearSlowDown i
    (assign i
      { l.portSyncSyncSendSms i with
        rcvdPSSyncPSSS := false
        numberSyncTransmissions := 0 } l)

def syncReceiptTimeoutAction (i : PortIndex) (l : SyncLoop) : SyncLoop :=
  assign i { l.portSyncSyncSendSms i with rcvdPSSyncPSSS := false } l

def sendMDSyncAction (i : PortIndex) (ts : UScaledNs) (l : SyncLoop) :
    SyncLoop :=
  let l :=
    if (l.portSyncSyncSendSms i).rcvdPSSyncPSSS then
      l.withObject (l.portSyncSyncSendSms i).rcvdPSSyncPtrPSSS (takePSSync i)
    else
      l
  (l.thenDo (transmitMDSync i ts)).thenDo (chooseInterval i)

/-- The port can send on behalf of the grandmaster. -/
def masterReady (l : SyncLoop) (i : PortIndex) : Bool :=
  l.portReady i ∧
    l.perPTPInstanceGlobal.selectedState (l.perPortGlobal i).thisPort =
      .masterPort

/-- A structure has come from another port. -/
def syncRequested (l : SyncLoop) (i : PortIndex) : Except Fault Bool :=
  if (l.portSyncSyncSendSms i).rcvdPSSyncPSSS then
    (l.portSyncSyncSendSms i).rcvdPSSyncPtrPSSS.deref.map fun pss =>
      pss.localPortNumber ≠ (l.perPortGlobal i).thisPort
  else
    .ok false

/-- The transition of the states `transmitInit` and `syncReceiptTimeout`. -/
def idleStateTransition (state : PortSyncSyncSendSMState) (i : PortIndex)
    (l : SyncLoop) : Except Fault (Next PortSyncSyncSendSMState) := do
  let requested <- syncRequested l i
  if requested ∧ masterReady l i then
    return .goto sendMDSync
  else
    return .goto state

def sendMDSyncStateTransition (i : PortIndex) (ts : UScaledNs) (l : SyncLoop) :
    Except Fault (Next PortSyncSyncSendSMState) :=
  let sm := l.portSyncSyncSendSms i
  let port := l.perPortGlobal i
  if port.syncLocked then do
    let requested <- syncRequested l i
    if requested ∧ masterReady l i then
      return .reenter sendMDSync
    else
      return .goto sendMDSync
  else if uscalednsCompare (uscalednsSubtract ts sm.lastSyncSentTime)
        sm.interval1 ≥ 0 ∧ sm.lastRcvdPortNum ≠ port.thisPort ∧
      masterReady l i then
    .ok (.reenter sendMDSync)
  else if uscalednsCompare ts
      l.perPTPInstanceGlobal.syncReceiptTimeoutTime ≠ 0 then
    .ok (.goto syncReceiptTimeout)
  else
    .ok (.goto sendMDSync)

/-!
## The driver
-/

def action (i : PortIndex) (ts : UScaledNs) (state : PortSyncSyncSendSMState)
    (l : SyncLoop) : SyncLoop :=
  match state with
  | init => l
  | transmitInit => transmitInitAction i l
  | syncReceiptTimeout => syncReceiptTimeoutAction i l
  | sendMDSync => sendMDSyncAction i ts l

def transition (i : PortIndex) (ts : UScaledNs)
    (state : PortSyncSyncSendSMState) (l : SyncLoop) :
    Except Fault (Next PortSyncSyncSendSMState) :=
  match state with
  | init => .ok (.goto transmitInit)
  | transmitInit => idleStateTransition transmitInit i l
  | syncReceiptTimeout => idleStateTransition syncReceiptTimeout i l
  | sendMDSync => sendMDSyncStateTransition i ts l

def machine (i : PortIndex) (ts : UScaledNs) :
    Embedded PortSyncSyncSendSMState SyncLoop where
  program :=
    { action := action i ts
      transition := transition i ts
      fault := SyncLoop.stop
      halt := SyncLoop.halt
      fault_halt := SyncLoop.stop_halt }
  control l := (l.portSyncSyncSendSms i).control
  store control l := assign i { l.portSyncSyncSendSms i with control := control } l
  ready l state :=
    if l.resetting ∨
        ((l.portSyncSyncSendSms i).rcvdPSSyncPSSS ∧ l.portReady i = false) then
      transmitInit
    else
      state

/-- A bound on the number of passes of one run. -/
def passes : Nat := 16

/-- `port_sync_sync_send_sm_run` -/
def run (i : PortIndex) (ts : UScaledNs) (l : SyncLoop) : SyncLoop :=
  (machine i ts).run passes l

def storePSSync (i : PortIndex) (pss : PortSyncSync) (l : SyncLoop) :
    SyncLoop :=
  assign i
    { l.portSyncSyncSendSms i with
      rcvdPSSyncPSSS := true
      rcvdPSSyncPtrPSSS := .live pss } l

/-- `port_sync_sync_send_sm_recv_pss` -/
def recvPSSync (i : PortIndex) (ts : UScaledNs) (pss : PortSyncSync)
    (l : SyncLoop) : SyncLoop :=
  l.freeThen (l.portSyncSyncSendSms i).rcvdPSSyncPtrPSSS fun l =>
    run i ts (storePSSync i pss l)

def zeroTime : UScaledNs where
  subns := 0
  nsec := 0
  nsecMsb := 0

def initPortSyncSyncSendSm (i : PortIndex) (l : SyncLoop) : SyncLoop :=
  run i zeroTime
    (assign i
      { l.portSyncSyncSendSms i with
        control := { state := .init, lastState := none }
        rcvdPSSyncPtrPSSS := .null
        txMDSyncPtr := .null } l)

end PortSyncSyncSendSM

end TimeSync
end Ziggo
