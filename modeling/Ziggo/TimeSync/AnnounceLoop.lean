import Ziggo.Foundation.Runs
import Ziggo.TimeSync.PortAnnounceInformationSM
import Ziggo.TimeSync.PortAnnounceInformationExtSM
import Ziggo.TimeSync.PortAnnounceTransmitSM
import Ziggo.TimeSync.PortStateSelectionSM

/-!
# Announce messages in the main loop

The part of `TimeSyncMainLoop` that concerns `Announce` messages: the variables
that the state machines share, their initialization, and the calls that the
loop makes.
-/

namespace Ziggo
namespace TimeSync

open Foundation TsnDrivers

/-- What the main loop reads from the configuration file. -/
structure Config where
  systemIdentity : SystemIdentity
  ptpPorts : Port -> PortState
  externalPortConfigurationEnabled : Bool

/-- The contents of the variables of the main loop before they are set. -/
structure LoopMemory where
  perPTPInstanceGlobal : PerPTPInstanceGlobal
  perPortGlobal : PerPortGlobalArray
  portStateSelectionSm : PortStateSelectionSM
  portAnnounceInformationSms : PortIndex -> PortAnnounceInformationSM
  portAnnounceInformationExtSms : PortIndex -> PortAnnounceInformationExtSM
  portAnnounceTransmitSms : PortIndex -> PortAnnounceTransmitSM
  rand : Nat -> UInt16
deriving Inhabited

structure AnnounceLoop where
  perPTPInstanceGlobal : PerPTPInstanceGlobal
  perPortGlobal : PerPortGlobalArray
  portStateSelectionSm : PortStateSelectionMachine
  portAnnounceInformationSms : PortIndex -> PortAnnounceInformationMachine
  portAnnounceInformationExtSms :
    PortIndex -> PortAnnounceInformationExtMachine
  portAnnounceTransmitSms : PortIndex -> PortAnnounceTransmitMachine
  process : Process

namespace AnnounceLoop

/-- The ports are configured from outside. -/
def External (l : AnnounceLoop) : Prop :=
  l.perPTPInstanceGlobal.externalPortConfigurationEnabled = true

instance (l : AnnounceLoop) : Decidable l.External :=
  inferInstanceAs (Decidable (_ = true))

/-- A statement of the loop.  A process that has ended executes none. -/
def thenDo (l : AnnounceLoop) (statement : AnnounceLoop -> AnnounceLoop) :
    AnnounceLoop :=
  if l.process.stop ≠ none then l else statement l

/-!
## Calls of the state machines

Each machine works on the shared variables through its pointers.  A call hands
them over and takes them back.
-/

def loadPortStateSelection (l : AnnounceLoop) : PortStateSelectionSM :=
  { l.portStateSelectionSm.vars with
    perPTPInstanceGlobal := l.perPTPInstanceGlobal
    perPortGlobalArray := l.perPortGlobal
    process := l.process }

def storePortStateSelection (l : AnnounceLoop) (m : PortStateSelectionMachine) :
    AnnounceLoop :=
  { l with
    perPTPInstanceGlobal := m.vars.perPTPInstanceGlobal
    perPortGlobal := m.vars.perPortGlobalArray
    process := m.vars.process
    portStateSelectionSm := m }

def loadPortAnnounceInformation (l : AnnounceLoop) (i : PortIndex) :
    PortAnnounceInformationSM :=
  { (l.portAnnounceInformationSms i).vars with
    perPTPInstanceGlobal := l.perPTPInstanceGlobal
    perPortGlobal := l.perPortGlobal i
    process := l.process }

def storePortAnnounceInformation (l : AnnounceLoop) (i : PortIndex)
    (m : PortAnnounceInformationMachine) : AnnounceLoop :=
  { l with
    perPTPInstanceGlobal := m.vars.perPTPInstanceGlobal
    perPortGlobal := Function.update l.perPortGlobal i m.vars.perPortGlobal
    process := m.vars.process
    portAnnounceInformationSms :=
      Function.update l.portAnnounceInformationSms i m }

@[simp] theorem storePortAnnounceInformation_self (l : AnnounceLoop)
    (i : PortIndex) (m : PortAnnounceInformationMachine) :
    (l.storePortAnnounceInformation i m).portAnnounceInformationSms i = m := by
  simp [storePortAnnounceInformation]

theorem storePortAnnounceInformation_of_ne (l : AnnounceLoop)
    {i j : PortIndex} (h : j ≠ i) (m : PortAnnounceInformationMachine) :
    (l.storePortAnnounceInformation i m).portAnnounceInformationSms j =
      l.portAnnounceInformationSms j := by
  simp [storePortAnnounceInformation, h]

def loadPortAnnounceInformationExt (l : AnnounceLoop) (i : PortIndex) :
    PortAnnounceInformationExtSM :=
  { (l.portAnnounceInformationExtSms i).vars with
    perPTPInstanceGlobal := l.perPTPInstanceGlobal
    perPortGlobal := l.perPortGlobal i
    process := l.process }

def storePortAnnounceInformationExt (l : AnnounceLoop) (i : PortIndex)
    (m : PortAnnounceInformationExtMachine) : AnnounceLoop :=
  { l with
    perPTPInstanceGlobal := m.vars.perPTPInstanceGlobal
    perPortGlobal := Function.update l.perPortGlobal i m.vars.perPortGlobal
    process := m.vars.process
    portAnnounceInformationExtSms :=
      Function.update l.portAnnounceInformationExtSms i m }

@[simp] theorem storePortAnnounceInformationExt_self (l : AnnounceLoop)
    (i : PortIndex) (m : PortAnnounceInformationExtMachine) :
    (l.storePortAnnounceInformationExt i m).portAnnounceInformationExtSms i =
      m := by
  simp [storePortAnnounceInformationExt]

theorem storePortAnnounceInformationExt_of_ne (l : AnnounceLoop)
    {i j : PortIndex} (h : j ≠ i) (m : PortAnnounceInformationExtMachine) :
    (l.storePortAnnounceInformationExt i m).portAnnounceInformationExtSms j =
      l.portAnnounceInformationExtSms j := by
  simp [storePortAnnounceInformationExt, h]

def loadPortAnnounceTransmit (l : AnnounceLoop) (i : PortIndex) :
    PortAnnounceTransmitSM :=
  { (l.portAnnounceTransmitSms i).vars with
    perPTPInstanceGlobal := l.perPTPInstanceGlobal
    perPortGlobal := l.perPortGlobal i
    process := l.process }

def storePortAnnounceTransmit (l : AnnounceLoop) (i : PortIndex)
    (m : PortAnnounceTransmitMachine) : AnnounceLoop :=
  { l with
    perPTPInstanceGlobal := m.vars.perPTPInstanceGlobal
    perPortGlobal := Function.update l.perPortGlobal i m.vars.perPortGlobal
    process := m.vars.process
    portAnnounceTransmitSms := Function.update l.portAnnounceTransmitSms i m }

/-!
## Initialization
-/

/-- The assignments of the main loop to the globals of the instance. -/
def initPerPTPInstanceGlobal (config : Config) (g : PerPTPInstanceGlobal) :
    PerPTPInstanceGlobal :=
  let systemPriority : PriorityVector :=
    { rootSystemIdentity := config.systemIdentity
      stepsRemoved := 0
      sourcePortClockIdentity := config.systemIdentity.clockIdentity
      sourcePortNumber := 0
      portNumber := 0 }
  { g with
    BEGIN := false
    instanceEnable := true
    gmPresent := true
    thisClock := config.systemIdentity.clockIdentity
    selectedState := config.ptpPorts
    externalPortConfigurationEnabled := config.externalPortConfigurationEnabled
    leap61 := false
    leap59 := false
    currentUtcOffsetValid := false
    currentUtcOffset := 0
    ptpTimescale := false
    timeTraceable := false
    frequencyTraceable := false
    timeSource := 0xA0
    systemPriority := systemPriority
    gmPriority := systemPriority
    gmStepsRemoved := 0
    nPathTrace := 1
    pathTrace :=
      Function.update g.pathTrace 0 config.systemIdentity.clockIdentity }

def oneSecond : UScaledNs where
  subns := 0
  nsec := oneSecNs
  nsecMsb := 0

def initPerPortGlobal (config : Config) (i : PortIndex)
    (port : PerPortGlobal) : PerPortGlobal :=
  { port with
    asCapable := true
    syncReceiptTimeoutTimeInterval := oneSecond
    syncInterval := oneSecond
    oldSyncInterval := oneSecond
    asymmetryMeasurementMode := false
    computeMeanLinkDelay := true
    computeNeighborRateRatio := true
    meanLinkDelay := { subns := 0, nsec := 0, nsecMsb := 0 }
    neighborRateRatio := 1
    portOper := config.ptpPorts i.succ ≠ .disabledPort
    ptpPortEnabled := config.ptpPorts i.succ ≠ .disabledPort
    thisPort := i.succ
    announceInterval := oneSecond
    currentLogAnnounceInterval := 0
    initialLogAnnounceInterval := 0
    announceReceiptTimeout := 3
    syncReceiptTimeout := 3
    currentLogSyncInterval := 3
    rcvdMsg := false }

/-- The loop before the first call of a state machine. -/
def initial (config : Config) (memory : LoopMemory) : AnnounceLoop where
  perPTPInstanceGlobal :=
    initPerPTPInstanceGlobal config memory.perPTPInstanceGlobal
  perPortGlobal i := initPerPortGlobal config i (memory.perPortGlobal i)
  portStateSelectionSm :=
    { state := .init
      lastState := none
      vars := memory.portStateSelectionSm }
  portAnnounceInformationSms i :=
    { state := .init
      lastState := none
      vars := memory.portAnnounceInformationSms i }
  portAnnounceInformationExtSms i :=
    { state := .init
      lastState := none
      vars := memory.portAnnounceInformationExtSms i }
  portAnnounceTransmitSms i :=
    { state := .init
      lastState := none
      vars := memory.portAnnounceTransmitSms i }
  process := { stop := none, sent := [], rand := memory.rand }

def initSelection (l : AnnounceLoop) : AnnounceLoop :=
  if l.External then
    l
  else
    l.storePortStateSelection
      (.initPortStateSelectionSm l.loadPortStateSelection)

def initInformation (i : PortIndex) (l : AnnounceLoop) : AnnounceLoop :=
  if l.External then
    l.storePortAnnounceInformationExt i
      (.initPortAnnounceInformationExtSm (l.loadPortAnnounceInformationExt i))
  else
    l.storePortAnnounceInformation i
      (.initPortAnnounceInformationSm (l.loadPortAnnounceInformation i))

def initTransmit (i : PortIndex) (l : AnnounceLoop) : AnnounceLoop :=
  l.storePortAnnounceTransmit i
    (.initPortAnnounceTransmitSm (l.loadPortAnnounceTransmit i))

def initPort (l : AnnounceLoop) (i : PortIndex) : AnnounceLoop :=
  (l.thenDo (initInformation i)).thenDo (initTransmit i)

/-- The loop once all machines have been initialized. -/
def start (config : Config) (memory : LoopMemory) : AnnounceLoop :=
  (List.finRange nPorts).foldl initPort (initial config memory).initSelection

/-!
## Calls
-/

/-- `port_state_selection_sm_run`, which the loop calls in BMCA mode only. -/
def runSelection (l : AnnounceLoop) : AnnounceLoop :=
  if l.External then
    l
  else
    l.storePortStateSelection
      (PortStateSelectionMachine.run
        { l.portStateSelectionSm with vars := l.loadPortStateSelection })

/-- `port_announce_information_sm_run`, which BMCA mode calls for timeouts. -/
def runInformation (i : PortIndex) (ts : UScaledNs) (l : AnnounceLoop) :
    AnnounceLoop :=
  if l.External then
    l
  else
    l.storePortAnnounceInformation i
      (PortAnnounceInformationMachine.run
        { l.portAnnounceInformationSms i with
          vars := l.loadPortAnnounceInformation i } ts)

/-- `port_announce_transmit_sm_run` -/
def runTransmit (i : PortIndex) (ts : UScaledNs) (l : AnnounceLoop) :
    AnnounceLoop :=
  l.storePortAnnounceTransmit i
    (PortAnnounceTransmitMachine.run
      { l.portAnnounceTransmitSms i with
        vars := l.loadPortAnnounceTransmit i } ts)

/-- The function of the mode that receives an `Announce`. -/
def recvAnnounce (i : PortIndex) (ts : UScaledNs) (announce : PTPMsgAnnounce)
    (l : AnnounceLoop) : AnnounceLoop :=
  if l.External then
    l.storePortAnnounceInformationExt i
      (PortAnnounceInformationExtMachine.recvAnnounce
        { l.portAnnounceInformationExtSms i with
          vars := l.loadPortAnnounceInformationExt i } announce)
  else
    l.storePortAnnounceInformation i
      (PortAnnounceInformationMachine.recvAnnounce
        { l.portAnnounceInformationSms i with
          vars := l.loadPortAnnounceInformation i } ts announce)

/-- What happens to the variables of the loop. -/
inductive Event where
  /-- The loop checks one port for timeouts. -/
  | timeout (i : PortIndex) (ts : UScaledNs)
  /-- The loop handles an `Announce`, and selects the port states. -/
  | announce (i : PortIndex) (ts : UScaledNs) (message : PTPMsgAnnounce)
  /-- The loop selects the port states. -/
  | select
  /-- The machines for synchronization set `syncReceiptTimeoutTime`. -/
  | syncReceipt (time : UScaledNs)

def setSyncReceiptTimeoutTime (time : UScaledNs) (l : AnnounceLoop) :
    AnnounceLoop :=
  { l with
    perPTPInstanceGlobal :=
      { l.perPTPInstanceGlobal with syncReceiptTimeoutTime := time } }

def step (l : AnnounceLoop) (e : Event) : AnnounceLoop :=
  match e with
  | .timeout i ts => (l.thenDo (runInformation i ts)).thenDo (runTransmit i ts)
  | .announce i ts message =>
      (l.thenDo (recvAnnounce i ts message)).thenDo runSelection
  | .select => l.thenDo runSelection
  | .syncReceipt time => l.thenDo (setSyncReceiptTimeoutTime time)

/-- The loop after a sequence of events. -/
def after (config : Config) (memory : LoopMemory) (es : List Event) :
    AnnounceLoop :=
  runEvents step (start config memory) es

end AnnounceLoop

end TimeSync
end Ziggo
