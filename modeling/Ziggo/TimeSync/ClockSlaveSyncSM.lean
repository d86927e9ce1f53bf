import Ziggo.TimeSync.SyncVariables

/-!
# The clock slave

The state machine of `clock_slave_sync_sm.c`.  It sets the clock from the time
in each structure that it receives, and adjusts the period of the clock to the
rate that its last samples show.
-/

namespace Ziggo
namespace TimeSync

open Foundation TsnDrivers

namespace ClockSlaveSyncSM

open ClockSlaveSyncSMState

/-!
## The history of samples
-/

def addNewSyncReceiptTimeSyncReceiptLocalTime (sm : ClockSlaveSyncSM)
    (syncReceiptTime syncReceiptLocalTime : UScaledNs) : ClockSlaveSyncSM :=
  let next := sm.listTailPeriod + 1
  { sm with
    lSyncReceiptTime := Function.update sm.lSyncReceiptTime next syncReceiptTime
    lSyncReceiptLocalTime :=
      Function.update sm.lSyncReceiptLocalTime next syncReceiptLocalTime
    isEmptyPeriod := false
    listHeadPeriod :=
      if sm.isEmptyPeriod = false ∧ sm.listHeadPeriod = next then
        sm.listHeadPeriod + 1
      else
        sm.listHeadPeriod
    listTailPeriod := next }

/-- The time that has passed at the master between the oldest and newest sample. -/
def elapsedTime (sm : ClockSlaveSyncSM) : UScaledNs :=
  uscalednsSubtract (sm.lSyncReceiptTime sm.listTailPeriod)
    (sm.lSyncReceiptTime sm.listHeadPeriod)

/-- The local time that has passed between the oldest and newest sample. -/
def elapsedLocalTime (sm : ClockSlaveSyncSM) : UScaledNs :=
  uscalednsSubtract (sm.lSyncReceiptLocalTime sm.listTailPeriod)
    (sm.lSyncReceiptLocalTime sm.listHeadPeriod)

/-- The history holds no two samples. -/
def noInterval (sm : ClockSlaveSyncSM) : Bool :=
  sm.isEmptyPeriod ∨ sm.listHeadPeriod = sm.listTailPeriod

/--
The loop that turns the fraction of a period into bits, the first of them worth
`t`.
-/
def periodBits : Nat -> Rat -> UInt32 -> UInt32 × Rat
  | 0, t, periodL => (periodL, t)
  | i + 1, t, periodL =>
      if t * 2 > 1 then
        periodBits i (t * 2 - 1) (periodL ||| (1 <<< UInt32.ofNat i))
      else
        periodBits i (t * 2) periodL

/-- The registers for a period, with the fraction rounded to 32 bits. -/
def periodRegisters (period : Rat) : UInt32 × UInt32 :=
  let periodH := UInt32.ofNat period.floor.toNat
  let (periodL, rest) := periodBits 32 (period - period.floor) 0
  if rest * 2 > 1 then
    if periodL = 0xffffffff then (periodH + 1, 0) else (periodH, periodL + 1)
  else
    (periodH, periodL)

/-!
## Actions
-/

/-- The rest of `updateSlavePeriod`, for a rate ratio `r`. -/
def adjustPeriod (r : Rat) (l : SyncLoop) : SyncLoop :=
  let sm := l.clockSlaveSyncSm
  if |r - 1| < 1 / 10 ^ 9 then
    l
  else if |r - 1| > 1 / 10 ^ 3 then
    { l with
      clockSlaveSyncSm := { sm with listHeadPeriod := sm.listTailPeriod } }
  else
    let registers := periodRegisters (sm.period * r)
    { l with
      clockSlaveSyncSm :=
        { sm with
          period := sm.period * r
          listHeadPeriod := sm.listTailPeriod }
      rtc := l.rtc.rtcSetPeriod registers.1 registers.2 }

def updateSlavePeriod (l : SyncLoop) : SyncLoop :=
  let sm := l.clockSlaveSyncSm
  if sm.noInterval then
    l
  else
    let l := l.call (.uscalednsDiv sm.elapsedTime sm.elapsedLocalTime)
    match uscalednsDiv sm.elapsedTime sm.elapsedLocalTime with
    | .error f => l.halt f
    | .ok r => adjustPeriod r l

/-- The sign and the offset that `updateSlaveTime` hands to the clock. -/
def syncOffset (g : PerPTPInstanceGlobal) : RtcOffsetSign × UScaledNs :=
  if uscalednsCompare g.syncReceiptTime g.syncReceiptLocalTime ≥ 0 then
    (.add, uscalednsSubtract g.syncReceiptTime g.syncReceiptLocalTime)
  else
    (.sub, uscalednsSubtract g.syncReceiptLocalTime g.syncReceiptTime)

def updateSlaveTime (l : SyncLoop) : SyncLoop :=
  let offset := syncOffset l.perPTPInstanceGlobal
  { l.call (.setRtcSyncOffset offset.1 offset.2) with
    rtc := l.rtc.setRtcSyncOffset offset.1 offset.2 }

/-- The delay of the link that a structure has come by.  Port 0 has no link. -/
def meanLinkDelayOf (l : SyncLoop) (localPortNumber : Port) : UScaledNs :=
  Fin.cases { subns := 0, nsec := 0, nsecMsb := 0 }
    (fun i => (l.perPortGlobal i).meanLinkDelay) localPortNumber

def syncReceiptTimeOf (pss : PortSyncSync) (meanLinkDelay : UScaledNs) :
    UScaledNs :=
  uscalednsAdd
    (uscalednsAdd (uscalednsPtpmsgtimestamp pss.preciseOriginTimestamp)
      pss.followUpCorrectionField)
    meanLinkDelay

/-- The assignments of `send_sync_indication_action`. -/
def recordSync (pss : PortSyncSync) (l : SyncLoop) : SyncLoop :=
  let meanLinkDelay := meanLinkDelayOf l pss.localPortNumber
  let syncReceiptTime := syncReceiptTimeOf pss meanLinkDelay
  let syncReceiptLocalTime := uscalednsAdd pss.upstreamTxTime meanLinkDelay
  { l with
    perPTPInstanceGlobal :=
      { l.perPTPInstanceGlobal with
        syncReceiptTime := syncReceiptTime
        syncReceiptLocalTime := syncReceiptLocalTime
        gmTimeBaseIndicator := pss.gmTimeBaseIndicator
        lastGmPhaseChange := pss.lastGmPhaseChange
        lastGmFreqChange := pss.lastGmFreqChange }
    clockSlaveSyncSm :=
      l.clockSlaveSyncSm.addNewSyncReceiptTimeSyncReceiptLocalTime
        syncReceiptTime syncReceiptLocalTime }

def clearFlags (l : SyncLoop) : SyncLoop :=
  { l with
    clockSlaveSyncSm :=
      { l.clockSlaveSyncSm with
        rcvdPSSyncCSS := false
        rcvdLocalClockTickCSS := false } }

def sendSyncIndicationAction (l : SyncLoop) : SyncLoop :=
  SyncLoop.thenDo
    (if l.clockSlaveSyncSm.rcvdPSSyncCSS then
      l.withObject l.clockSlaveSyncSm.rcvdPSSyncPtrCSS fun pss l =>
        updateSlavePeriod (updateSlaveTime (recordSync pss l))
    else
      l)
    clearFlags

/-- The machine has something to do. -/
def requested (sm : ClockSlaveSyncSM) : Bool :=
  sm.rcvdPSSyncCSS ∨ sm.rcvdLocalClockTickCSS

/-!
## The driver
-/

def action (state : ClockSlaveSyncSMState) (l : SyncLoop) : SyncLoop :=
  match state with
  | init => l
  | initializing => clearFlags l
  | sendSyncIndication => sendSyncIndicationAction l

def transition (state : ClockSlaveSyncSMState) (l : SyncLoop) :
    Except Fault (Next ClockSlaveSyncSMState) :=
  match state with
  | init => .ok (.goto initializing)
  | initializing =>
      if l.clockSlaveSyncSm.requested then
        .ok (.goto sendSyncIndication)
      else
        .ok (.goto initializing)
  | sendSyncIndication =>
      if l.clockSlaveSyncSm.requested then
        .ok (.reenter sendSyncIndication)
      else
        .ok (.goto sendSyncIndication)

def machine : Embedded ClockSlaveSyncSMState SyncLoop where
  program :=
    { action := action
      transition := transition
      fault := SyncLoop.stop
      halt := SyncLoop.halt
      fault_halt := SyncLoop.stop_halt }
  control l := l.clockSlaveSyncSm.control
  store control l :=
    { l with clockSlaveSyncSm := { l.clockSlaveSyncSm with control := control } }
  ready l state := if l.resetting then initializing else state

/-- A bound on the number of passes of one run. -/
def passes : Nat := 16

/-- `clock_slave_sync_sm_run` -/
def run (l : SyncLoop) : SyncLoop :=
  machine.run passes l

def storePSSync (pss : PortSyncSync) (l : SyncLoop) : SyncLoop :=
  { l with
    clockSlaveSyncSm :=
      { l.clockSlaveSyncSm with
        rcvdPSSyncCSS := true
        rcvdPSSyncPtrCSS := .live pss } }

/-- `clock_slave_sync_sm_recv_pss` -/
def recvPSSync (pss : PortSyncSync) (l : SyncLoop) : SyncLoop :=
  l.freeThen l.clockSlaveSyncSm.rcvdPSSyncPtrCSS fun l =>
    run (storePSSync pss l)

def initClockSlaveSyncSm (l : SyncLoop) : SyncLoop :=
  run
    { l with
      clockSlaveSyncSm :=
        { l.clockSlaveSyncSm with
          control := { state := .init, lastState := none }
          rcvdPSSyncPtrCSS := .null
          isEmptyPeriod := true
          listHeadPeriod := 0
          listTailPeriod := Fin.last _ } }

end ClockSlaveSyncSM

end TimeSync
end Ziggo
