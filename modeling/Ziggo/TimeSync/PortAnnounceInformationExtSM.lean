import Ziggo.TsnDrivers.Announce
import Ziggo.TimeSync.Process

/-!
# Announce information under external port configuration

The state machine of `port_announce_information_ext_sm.c`.  The port states are
given, and an `Announce` matters only if it arrives on the slave port.
-/

namespace Ziggo
namespace TimeSync

open Foundation TsnDrivers

inductive PortAnnounceInformationExtSMState where
  | init
  /-- `PAIE_INITIALIZE` -/
  | initializing
  | receive
deriving DecidableEq, Repr

structure PortAnnounceInformationExtSM where
  rcvdAnnouncePAIE : Bool
  rcvdAnnouncePtr : Ptr PTPMsgAnnounce
  perPTPInstanceGlobal : PerPTPInstanceGlobal
  perPortGlobal : PerPortGlobal
  process : Process
deriving Inhabited

namespace PortAnnounceInformationExtSM

open PortAnnounceInformationExtSMState

def halt (f : Fault) (sm : PortAnnounceInformationExtSM) :
    PortAnnounceInformationExtSM :=
  { sm with process := sm.process.halt f }

def isSlavePort (sm : PortAnnounceInformationExtSM) : Bool :=
  sm.perPTPInstanceGlobal.selectedState sm.perPortGlobal.thisPort = .slavePort

/-- The port can take part in the protocol. -/
def portReady (sm : PortAnnounceInformationExtSM) : Bool :=
  sm.perPortGlobal.portOper ∧ sm.perPortGlobal.ptpPortEnabled ∧
    sm.perPortGlobal.asCapable

/-!
## Received information
-/

/--
The part of `rcvInfoExt` that copies the path of the message and appends the
clock of the instance.
-/
def tracePath (g : PerPTPInstanceGlobal) (announce : PTPMsgAnnounce) :
    Except Fault PerPTPInstanceGlobal :=
  let n := announce.pathCount
  if n < maxPathTraceN then
    .ok
      { g with
        pathTrace := fun i =>
          if i.val < n then announce.pathTraceTLV.pathSequence i
          else if i.val = n then g.thisClock
          else g.pathTrace i
        nPathTrace := UInt16.ofNat (n + 1) }
  else
    .error .outOfBounds

/-- The assignments of `rcvInfoExt` to the priority of the grandmaster. -/
def gmPriorityOf (gmPriority : PriorityVector) (announce : PTPMsgAnnounce) :
    PriorityVector :=
  { gmPriority with
    rootSystemIdentity := announce.systemIdentity
    stepsRemoved := announce.stepsRemoved + 1
    sourcePortClockIdentity := announce.head.sourcePortIdentity.clockIdentity
    portNumber := announce.head.sourcePortIdentity.portNumber }

def rcvInfoExt (g : PerPTPInstanceGlobal) (announce : PTPMsgAnnounce) :
    Except Fault PerPTPInstanceGlobal :=
  tracePath
    { g with
      gmStepsRemoved := announce.stepsRemoved + 1
      gmPriority := gmPriorityOf g.gmPriority announce }
    announce

def recordOtherAnnounceInfo (g : PerPTPInstanceGlobal)
    (announce : PTPMsgAnnounce) : PerPTPInstanceGlobal :=
  { g with
    leap61 := announce.flag 0x1
    leap59 := announce.flag 0x2
    currentUtcOffsetValid := announce.flag 0x4
    ptpTimescale := announce.flag 0x8
    timeTraceable := announce.flag 0x10
    frequencyTraceable := announce.flag 0x20
    currentUtcOffset := announce.currentUtcOffset
    timeSource := announce.timeSource }

/-!
## Actions and transitions
-/

def allStateTransition (sm : PortAnnounceInformationExtSM)
    (state : PortAnnounceInformationExtSMState) :
    PortAnnounceInformationExtSMState :=
  if (sm.portReady = false ∨ sm.perPTPInstanceGlobal.BEGIN ∨
        sm.perPTPInstanceGlobal.instanceEnable = false) ∧
      sm.perPTPInstanceGlobal.externalPortConfigurationEnabled then
    initializing
  else
    state

def initializeAction (sm : PortAnnounceInformationExtSM) :
    PortAnnounceInformationExtSM :=
  { sm with rcvdAnnouncePAIE := false }

def announcePending (sm : PortAnnounceInformationExtSM) : Bool :=
  sm.portReady ∧ sm.rcvdAnnouncePAIE

def initializeStateTransition (sm : PortAnnounceInformationExtSM) :
    PortAnnounceInformationExtSMState :=
  if sm.announcePending then receive else initializing

def receiveAction (sm : PortAnnounceInformationExtSM) :
    Except Fault PortAnnounceInformationExtSM :=
  if sm.isSlavePort then do
    let announce <- sm.rcvdAnnouncePtr.deref
    let g <- rcvInfoExt sm.perPTPInstanceGlobal announce
    return { sm with
      perPTPInstanceGlobal := recordOtherAnnounceInfo g announce
      rcvdAnnouncePAIE := false }
  else
    .ok { sm with rcvdAnnouncePAIE := false }

def receiveStateTransition (sm : PortAnnounceInformationExtSM) :
    Next PortAnnounceInformationExtSMState :=
  if sm.announcePending then .reenter receive else .goto receive

/-!
## The driver
-/

def action (state : PortAnnounceInformationExtSMState)
    (sm : PortAnnounceInformationExtSM) :
    Except Fault PortAnnounceInformationExtSM :=
  match state with
  | init => .ok sm
  | initializing => .ok sm.initializeAction
  | receive => sm.receiveAction

def transition (state : PortAnnounceInformationExtSMState)
    (sm : PortAnnounceInformationExtSM) :
    Except Fault (Next PortAnnounceInformationExtSMState) :=
  match state with
  | init => .ok (.goto initializing)
  | initializing => .ok (.goto sm.initializeStateTransition)
  | receive => .ok sm.receiveStateTransition

def program :
    Program PortAnnounceInformationExtSMState PortAnnounceInformationExtSM where
  action state sm := attempt halt sm (action state sm)
  transition := transition
  fault sm := sm.process.stop
  halt := halt
  fault_halt _ _ := by simp [halt]

def storeAnnounce (sm : PortAnnounceInformationExtSM)
    (announce : PTPMsgAnnounce) : Except Fault PortAnnounceInformationExtSM := do
  let _ <- sm.rcvdAnnouncePtr.free
  return { sm with
    rcvdAnnouncePAIE := true
    rcvdAnnouncePtr := .live announce }

end PortAnnounceInformationExtSM

abbrev PortAnnounceInformationExtMachine : Type :=
  Machine PortAnnounceInformationExtSMState PortAnnounceInformationExtSM

namespace PortAnnounceInformationExtMachine

open PortAnnounceInformationExtSM

/-- A bound on the number of passes of one run. -/
def passes : Nat := 8

def ready (m : PortAnnounceInformationExtMachine) :
    PortAnnounceInformationExtMachine :=
  { m with state := m.vars.allStateTransition m.state }

/-- `port_announce_information_ext_sm_run`, which does not use its time. -/
def run (m : PortAnnounceInformationExtMachine) :
    PortAnnounceInformationExtMachine :=
  program.run passes m.ready

/-- `init_port_announce_information_ext_sm`, on arbitrary memory. -/
def initPortAnnounceInformationExtSm (memory : PortAnnounceInformationExtSM) :
    PortAnnounceInformationExtMachine :=
  run
    { state := .init
      lastState := none
      vars :=
        { memory with
          rcvdAnnouncePAIE := false
          rcvdAnnouncePtr := .null } }

def recvAnnounce (m : PortAnnounceInformationExtMachine)
    (announce : PTPMsgAnnounce) : PortAnnounceInformationExtMachine :=
  match m.vars.storeAnnounce announce with
  | .error f => { m with vars := m.vars.halt f }
  | .ok sm => run { m with vars := sm }

end PortAnnounceInformationExtMachine

end TimeSync
end Ziggo
