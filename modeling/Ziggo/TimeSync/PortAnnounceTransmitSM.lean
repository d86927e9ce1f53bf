import Ziggo.TsnDrivers.Announce
import Ziggo.TsnDrivers.UScaledNs
import Ziggo.TimeSync.Process

/-!
# The sender of Announce messages

The state machine of `port_announce_transmit_sm.c`, which sends the information
of the instance on a port at regular intervals.
-/

namespace Ziggo
namespace TimeSync

open Foundation TsnDrivers

inductive PortAnnounceTransmitSMState where
  | init
  | transmitInit
  | transmitPeriodic
  | idle
  | transmitAnnounce
deriving DecidableEq, Repr

structure PortAnnounceTransmitSM where
  announceSendTime : UScaledNs
  numberAnnounceTransmission : UInt8
  interval2 : UScaledNs
  sequenceId : UInt16
  txAnnouncePtr : Ptr PTPMsgAnnounce
  newInfo : Bool
  announceSlowdown : Bool
  perPTPInstanceGlobal : PerPTPInstanceGlobal
  perPortGlobal : PerPortGlobal
  process : Process
deriving Inhabited

namespace PortAnnounceTransmitSM

open PortAnnounceTransmitSMState

def halt (f : Fault) (sm : PortAnnounceTransmitSM) : PortAnnounceTransmitSM :=
  { sm with process := sm.process.halt f }

/-!
## Messages
-/

def sizeofPTPFrameAnnounce : Int := 132

/-- `annMsgLength` -/
def announceLength (nPathTrace : UInt16) : UInt16 :=
  UInt16.ofInt (sizeofPTPFrameAnnounce - 8 * (8 - (nPathTrace.toNat : Int)))

/-- The message of `setAnnounce`, but for the path that it copies last. -/
def announceOf (g : PerPTPInstanceGlobal) (port : PerPortGlobal)
    (sequenceId : UInt16) (pathSequence : PathArray) : PTPMsgAnnounce where
  head := ptpMsgAnnHeaderTemplate .announce (announceLength g.nPathTrace)
    { clockIdentity := g.thisClock, portNumber := portNumberOf port.thisPort }
    sequenceId port.currentLogAnnounceInterval 0 g
  currentUtcOffset := g.currentUtcOffset
  grandmasterPriority1 := port.masterPriority.rootSystemIdentity.priority1
  grandmasterClockQuality :=
    { clockClass := port.masterPriority.rootSystemIdentity.clockClass
      clockAccuracy := port.masterPriority.rootSystemIdentity.clockAccuracy
      offsetScaledLogVariance :=
        port.masterPriority.rootSystemIdentity.offsetScaledLogVariance }
  grandmasterPriority2 := port.masterPriority.rootSystemIdentity.priority2
  grandmasterIdentity := port.masterPriority.rootSystemIdentity.clockIdentity
  stepsRemoved := g.masterStepsRemoved
  timeSource := g.timeSource
  pathTraceTLV :=
    { tlvType := 0x8
      lengthField := g.nPathTrace * 8
      pathSequence := pathSequence }

/--
`setAnnounce`.  The frame of the message is cleared before it is filled, and the
entries behind the copied path are not sent.
-/
def setAnnounce (sm : PortAnnounceTransmitSM) : Except Fault PTPMsgAnnounce := do
  let g := sm.perPTPInstanceGlobal
  let pathSequence <-
    copyOctets (g.nPathTrace.toNat * 8) g.pathTrace (fun _ _ => 0)
  return announceOf g sm.perPortGlobal sm.sequenceId pathSequence

def txAnnounce (sm : PortAnnounceTransmitSM) :
    Except Fault PortAnnounceTransmitSM := do
  let announce <- sm.txAnnouncePtr.deref
  return { sm with
    process := sm.process.sendPtpFrame sm.perPortGlobal.thisPort
      (.announce announce) }

/-!
## Actions and transitions
-/

def allStateTransition (sm : PortAnnounceTransmitSM)
    (state : PortAnnounceTransmitSMState) : PortAnnounceTransmitSMState :=
  if sm.perPTPInstanceGlobal.BEGIN ∨
      sm.perPTPInstanceGlobal.instanceEnable = false then
    transmitInit
  else
    state

def transmitInitAction (sm : PortAnnounceTransmitSM) : PortAnnounceTransmitSM :=
  { sm with
    newInfo := true
    announceSlowdown := false
    numberAnnounceTransmission := 0 }

def isMasterPort (sm : PortAnnounceTransmitSM) : Bool :=
  sm.perPTPInstanceGlobal.selectedState sm.perPortGlobal.thisPort = .masterPort

def transmitPeriodicAction (sm : PortAnnounceTransmitSM) :
    PortAnnounceTransmitSM :=
  { sm with newInfo := true ∨ sm.isMasterPort }

def idleAction (sm : PortAnnounceTransmitSM) (ts : UScaledNs) :
    PortAnnounceTransmitSM :=
  { sm with announceSendTime := uscalednsAdd ts sm.interval2 }

def portSettled (sm : PortAnnounceTransmitSM) : Bool :=
  (sm.perPTPInstanceGlobal.selected sm.perPortGlobal.thisPort ∧
      sm.perPortGlobal.updtInfo = false) ∨
    sm.perPTPInstanceGlobal.externalPortConfigurationEnabled

def idleStateTransition (sm : PortAnnounceTransmitSM) (ts : UScaledNs) :
    PortAnnounceTransmitSMState :=
  if uscalednsCompare ts sm.announceSendTime ≥ 0 ∧ sm.portSettled then
    transmitPeriodic
  else if sm.newInfo ∧ sm.isMasterPort ∧
      uscalednsCompare ts sm.announceSendTime < 0 ∧ sm.portSettled ∧
      sm.perPortGlobal.asymmetryMeasurementMode = false then
    transmitAnnounce
  else
    idle

def transmitAnnounceAction (sm : PortAnnounceTransmitSM) :
    Except Fault PortAnnounceTransmitSM := do
  let sm := { sm with newInfo := false }
  let announce <- sm.setAnnounce
  let sm <- txAnnounce { sm with txAnnouncePtr := .live announce }
  return { sm with interval2 := sm.perPortGlobal.announceInterval }

/-!
## The driver
-/

def action (ts : UScaledNs) (state : PortAnnounceTransmitSMState)
    (sm : PortAnnounceTransmitSM) : Except Fault PortAnnounceTransmitSM :=
  match state with
  | init => .ok sm
  | transmitInit => .ok sm.transmitInitAction
  | transmitPeriodic => .ok sm.transmitPeriodicAction
  | idle => .ok (sm.idleAction ts)
  | transmitAnnounce => sm.transmitAnnounceAction

def transition (ts : UScaledNs) (state : PortAnnounceTransmitSMState)
    (sm : PortAnnounceTransmitSM) : Except Fault PortAnnounceTransmitSMState :=
  match state with
  | init => .ok transmitInit
  | transmitInit => .ok idle
  | transmitPeriodic => .ok idle
  | idle => .ok (sm.idleStateTransition ts)
  | transmitAnnounce => .ok idle

def behaviour (ts : UScaledNs) :
    Behaviour PortAnnounceTransmitSMState PortAnnounceTransmitSM where
  action := action ts
  transition := transition ts
  fault sm := sm.process.stop
  halt := halt
  fault_halt _ _ := by simp [halt]

/-- What leaving the waiting state says about its source. -/
theorem idle_left {ts : UScaledNs} {sm : PortAnnounceTransmitSM}
    {next : PortAnnounceTransmitSMState}
    (h : transition ts idle sm = .ok next) (hne : next ≠ idle) :
    (next = transmitPeriodic ∧
        uscalednsCompare ts sm.announceSendTime ≥ 0 ∧
          sm.portSettled = true) ∨
      (next = transmitAnnounce ∧ sm.newInfo = true ∧ sm.isMasterPort = true ∧
        uscalednsCompare ts sm.announceSendTime < 0 ∧
          sm.portSettled = true) := by
  have hnext : sm.idleStateTransition ts = next := Except.ok.inj h
  unfold idleStateTransition at hnext
  split at hnext
  case isTrue hdue => exact Or.inl ⟨hnext.symm, hdue⟩
  case isFalse =>
    split at hnext
    case isTrue hsend =>
      obtain ⟨hnew, hmaster, hearly, hsettled, _⟩ := hsend
      exact Or.inr ⟨hnext.symm, hnew, hmaster, hearly, hsettled⟩
    case isFalse => exact absurd hnext.symm hne

end PortAnnounceTransmitSM

abbrev PortAnnounceTransmitMachine : Type :=
  Machine PortAnnounceTransmitSMState PortAnnounceTransmitSM

namespace PortAnnounceTransmitMachine

open PortAnnounceTransmitSM

/-- A bound on the number of passes of one run. -/
def passes : Nat := 16

def ready (m : PortAnnounceTransmitMachine) : PortAnnounceTransmitMachine :=
  { m with state := m.vars.allStateTransition m.state }

/-- `port_announce_transmit_sm_run` -/
def run (m : PortAnnounceTransmitMachine) (ts : UScaledNs) :
    PortAnnounceTransmitMachine :=
  (behaviour ts).program.run passes m.ready

/-- `init_port_announce_transmit_sm`, on memory with arbitrary contents. -/
def initPortAnnounceTransmitSm (memory : PortAnnounceTransmitSM) :
    PortAnnounceTransmitMachine :=
  run
    { state := .init
      lastState := none
      vars :=
        { memory with
          interval2 := memory.perPortGlobal.announceInterval
          sequenceId := memory.process.nextRand
          txAnnouncePtr := .null
          newInfo := false
          announceSlowdown := false
          process := memory.process.dropRand } }
    { subns := 0, nsec := 0, nsecMsb := 0 }

end PortAnnounceTransmitMachine

end TimeSync
end Ziggo
