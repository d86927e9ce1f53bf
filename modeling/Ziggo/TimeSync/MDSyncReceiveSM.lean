import Ziggo.TimeSync.PortSyncSyncReceiveSM

/-!
# The receiver of synchronization messages

The state machine of `md_sync_receive_sm.c`.  It waits for the `Follow_Up` of
each `Sync` and passes the contents of the two on.
-/

namespace Ziggo
namespace TimeSync

open Foundation TsnDrivers

namespace MDSyncReceiveSM

def assign (i : PortIndex) (sm : MDSyncReceiveSM) (l : SyncLoop) : SyncLoop :=
  { l with mdSyncReceiveSms := Function.update l.mdSyncReceiveSms i sm }

/-!
## Actions and transitions
-/

/-- `setMDSyncReceiveMDSR` -/
def mdSyncReceiveOf (sync : PTPMsgSync) (followUp : PTPMsgFollowUp)
    (syncEventIngressTimestamp meanLinkDelay : UScaledNs) : MDSyncReceive where
  domainNumber := sync.head.domainNumber
  followUpCorrectionField :=
    uscalednsAdd (uscalednsUint64 sync.head.correctionField.toUInt64)
      (uscalednsUint64 followUp.head.correctionField.toUInt64)
  sourcePortIdentity := sync.head.sourcePortIdentity
  logMessageInterval := sync.head.logMessageInterval
  preciseOriginTimestamp := followUp.preciseOriginTimestamp
  upstreamTxTime := uscalednsSubtract syncEventIngressTimestamp meanLinkDelay
  rateRatio := 1
  gmTimeBaseIndicator := followUp.followUpInformationTLV.gmTimeBaseIndicator
  lastGmPhaseChange := followUp.followUpInformationTLV.lastGmPhaseChange
  lastGmFreqChange := 0

def discardAction (i : PortIndex) (l : SyncLoop) : SyncLoop :=
  assign i
    { l.mdSyncReceiveSms i with
      rcvdSync := false
      rcvdFollowUp := false } l

def waitingForFollowUpAction (i : PortIndex) (ts : UScaledNs) (l : SyncLoop) :
    SyncLoop :=
  assign i
    { l.mdSyncReceiveSms i with
      rcvdSync := false
      upstreamSyncInterval := AnnounceLoop.oneSecond
      followUpReceiptTimeoutTime := uscalednsAdd ts AnnounceLoop.oneSecond } l

def waitingForSyncAction (i : PortIndex) (ts : UScaledNs) (l : SyncLoop) :
    SyncLoop :=
  let sm := l.mdSyncReceiveSms i
  l.withObject sm.rcvdSyncPtr fun sync l =>
    l.withObject sm.rcvdFollowUpPtr fun followUp l =>
      PortSyncSyncReceiveSM.recvMDSync i ts
        (mdSyncReceiveOf sync followUp sm.syncEventIngressTimestamp
          (l.perPortGlobal i).meanLinkDelay)
        (assign i { sm with rcvdSync := false, rcvdFollowUp := false } l)

/-- A `Sync` has come that the port can use. -/
def syncUsable (l : SyncLoop) (i : PortIndex) : Bool :=
  (l.mdSyncReceiveSms i).rcvdSync ∧ l.portReady i ∧
    (l.perPortGlobal i).asymmetryMeasurementMode = false

def idleStateTransition (state : MDSyncReceiveSMState) (i : PortIndex)
    (l : SyncLoop) : Next MDSyncReceiveSMState :=
  if syncUsable l i then .goto .waitingForFollowUp else .goto state

/-- The `Follow_Up` that has come belongs to the last `Sync`. -/
def followUpMatches (sm : MDSyncReceiveSM) : Except Fault Bool :=
  if sm.rcvdFollowUp then do
    let followUp <- sm.rcvdFollowUpPtr.deref
    let sync <- sm.rcvdSyncPtr.deref
    return followUp.head.sequenceId = sync.head.sequenceId
  else
    .ok false

def waitingForFollowUpStateTransition (i : PortIndex) (ts : UScaledNs)
    (l : SyncLoop) : Except Fault (Next MDSyncReceiveSMState) :=
  let sm := l.mdSyncReceiveSms i
  if sm.rcvdSync ∧ l.portReady i then
    .ok (.reenter .waitingForFollowUp)
  else do
    let matched <- sm.followUpMatches
    if matched then
      return .goto .waitingForSync
    else if uscalednsCompare ts sm.followUpReceiptTimeoutTime ≥ 0 ∧
        (l.perPortGlobal i).asymmetryMeasurementMode = false then
      return .goto .discard
    else
      return .goto .waitingForFollowUp

/-!
## The driver
-/

def action (i : PortIndex) (ts : UScaledNs) (state : MDSyncReceiveSMState)
    (l : SyncLoop) : SyncLoop :=
  match state with
  | .init => l
  | .discard => discardAction i l
  | .waitingForFollowUp => waitingForFollowUpAction i ts l
  | .waitingForSync => waitingForSyncAction i ts l

def transition (i : PortIndex) (ts : UScaledNs) (state : MDSyncReceiveSMState)
    (l : SyncLoop) : Except Fault (Next MDSyncReceiveSMState) :=
  match state with
  | .init => .ok (.goto .discard)
  | .discard => .ok (idleStateTransition .discard i l)
  | .waitingForFollowUp => waitingForFollowUpStateTransition i ts l
  | .waitingForSync => .ok (idleStateTransition .waitingForSync i l)

def machine (i : PortIndex) (ts : UScaledNs) :
    Embedded MDSyncReceiveSMState SyncLoop where
  program :=
    { action := action i ts
      transition := transition i ts
      fault := SyncLoop.stop
      halt := SyncLoop.halt
      fault_halt := SyncLoop.stop_halt }
  control l := (l.mdSyncReceiveSms i).control
  store control l := assign i { l.mdSyncReceiveSms i with control := control } l
  ready l state :=
    if l.resetting ∨
        ((l.mdSyncReceiveSms i).rcvdSync ∧ l.portReady i = false) then
      .discard
    else
      state

/-- A bound on the number of passes of one run. -/
def passes : Nat := 16

/-- `md_sync_receive_sm_run` -/
def run (i : PortIndex) (ts : UScaledNs) (l : SyncLoop) : SyncLoop :=
  (machine i ts).run passes l

def initMdSyncReceiveSm (i : PortIndex) (l : SyncLoop) : SyncLoop :=
  run i PortSyncSyncSendSM.zeroTime
    (assign i
      { l.mdSyncReceiveSms i with
        control := { state := .init, lastState := none }
        rcvdSyncPtr := .null
        rcvdFollowUpPtr := .null } l)

def storeSync (i : PortIndex) (tsuTimestamp : TSUTimestamp) (sync : PTPMsgSync)
    (l : SyncLoop) : SyncLoop :=
  assign i
    { l.mdSyncReceiveSms i with
      rcvdSync := true
      rcvdSyncPtr := .live sync
      syncEventIngressTimestamp := tsuTimestamp.ts } l

/-- `md_sync_receive_sm_recv_sync` -/
def recvSync (i : PortIndex) (ts : UScaledNs) (tsuTimestamp : TSUTimestamp)
    (sync : PTPMsgSync) (l : SyncLoop) : SyncLoop :=
  l.freeThen (l.mdSyncReceiveSms i).rcvdSyncPtr fun l =>
    run i ts (storeSync i tsuTimestamp sync l)

def storeFollowUp (i : PortIndex) (followUp : PTPMsgFollowUp) (l : SyncLoop) :
    SyncLoop :=
  assign i
    { l.mdSyncReceiveSms i with
      rcvdFollowUp := true
      rcvdFollowUpPtr := .live followUp } l

def recvFollowUp (i : PortIndex) (ts : UScaledNs) (followUp : PTPMsgFollowUp)
    (l : SyncLoop) : SyncLoop :=
  l.freeThen (l.mdSyncReceiveSms i).rcvdFollowUpPtr fun l =>
    run i ts (storeFollowUp i followUp l)

end MDSyncReceiveSM

end TimeSync
end Ziggo
