import Mathlib.Logic.Function.Basic
import Ziggo.TsnDrivers.Announce
import Ziggo.TsnDrivers.PriorityVector
import Ziggo.TimeSync.Process

/-!
# Selection of the port states

The state machine of `port_state_selection_sm.c`.  It elects the grandmaster
from the information of all ports and assigns each port its state.
-/

namespace Ziggo
namespace TimeSync

open Foundation TsnDrivers

inductive PortStateSelectionSMState where
  | init
  | initBridge
  | stateSelection
deriving DecidableEq, Repr

/-- The ports of the instance, counted from zero as in the source's arrays. -/
abbrev PortIndex : Type := Fin nPorts

abbrev PerPortGlobalArray : Type := PortIndex -> PerPortGlobal

structure PortStateSelectionSM where
  systemIdentityChange : Bool
  asymmetryMeasurementModeChange : Bool
  perPTPInstanceGlobal : PerPTPInstanceGlobal
  perPortGlobalArray : PerPortGlobalArray
  process : Process
deriving Inhabited

/-!
## Election of the grandmaster
-/

def hasPortPriority (pp : PriorityVector) : Bool :=
  pp.rootSystemIdentity.priority1 ≠ 0 ∨ pp.rootSystemIdentity.clockClass ≠ 0 ∨
    pp.rootSystemIdentity.clockAccuracy ≠ 0 ∨
    pp.rootSystemIdentity.offsetScaledLogVariance ≠ 0 ∨
    pp.rootSystemIdentity.priority2 ≠ 0 ∨ pp.stepsRemoved ≠ 0

/-- A vector all of whose octets are the given one. -/
def filledVector (octet : UInt8) : PriorityVector :=
  let word := octet.toUInt16 <<< 8 ||| octet.toUInt16
  { rootSystemIdentity :=
      { priority1 := octet
        clockClass := octet
        clockAccuracy := octet
        offsetScaledLogVariance := word
        priority2 := octet
        clockIdentity := fun _ => octet }
    stepsRemoved := word
    sourcePortClockIdentity := fun _ => octet
    sourcePortNumber := word
    portNumber := word }

example : (filledVector 0xFF).memory = List.replicate 28 0xFF := by decide

/-- `gmPathPriority` of one port. -/
def gmPathPriority (port : PerPortGlobal) : PriorityVector :=
  if hasPortPriority port.portPriority ∧ port.infoIs ≠ .aged then
    { port.portPriority with
      stepsRemoved := port.portPriority.stepsRemoved + 1 }
  else
    filledVector 0xFF

/-- The election starts with the instance itself as the grandmaster. -/
def chooseSystem (g : PerPTPInstanceGlobal) : PerPTPInstanceGlobal :=
  { g with
    lastGmPriority := g.gmPriority
    gmPriority := g.systemPriority
    leap61 := g.sysLeap61
    leap59 := g.sysLeap59
    currentUtcOffsetValid := g.sysCurrentUTCOffsetValid
    ptpTimescale := g.sysPtpTimescale
    timeTraceable := g.sysTimeTraceable
    frequencyTraceable := g.sysFrequencyTraceable
    currentUtcOffset := g.sysCurrentUtcOffset
    timeSource := g.sysTimeSource }

/-- The port may offer another grandmaster. -/
def offersGrandmaster (thisClock : ClockIdentity) (port : PerPortGlobal) :
    Bool :=
  port.infoIs ≠ .disabled ∧
    (gmPathPriority port).sourcePortClockIdentity ≠ thisClock

/-- One pass of the loop that looks for a better grandmaster. -/
def choosePort (g : PerPTPInstanceGlobal) (port : PerPortGlobal) :
    PerPTPInstanceGlobal :=
  if offersGrandmaster g.thisClock port ∧
      comparePriorityVectors (gmPathPriority port) g.gmPriority =
        .superiorPriority then
    { g with
      gmPriority := gmPathPriority port
      leap61 := port.annLeap61
      leap59 := port.annLeap59
      currentUtcOffsetValid := port.annCurrentUtcOffsetValid
      ptpTimescale := port.annPtpTimescale
      timeTraceable := port.annTimeTraceable
      frequencyTraceable := port.annFrequencyTraceable
      currentUtcOffset := port.annCurrentUtcOffset
      timeSource := port.annTimeSource }
  else
    g

def chooseGrandmaster (g : PerPTPInstanceGlobal) (ports : PerPortGlobalArray) :
    PerPTPInstanceGlobal :=
  (List.ofFn ports).foldl choosePort (chooseSystem g)

/-- The `masterPriority` of a port, once the grandmaster has been chosen. -/
def masterPriorityOf (g : PerPTPInstanceGlobal) (port : PerPortGlobal) :
    PriorityVector :=
  { g.gmPriority with
    sourcePortClockIdentity := g.thisClock
    sourcePortNumber := portNumberOf port.thisPort
    portNumber := portNumberOf port.thisPort }

/-!
## Assignment of the port states
-/

/-- The state that `portStateUpdate` assigns to a port, and its `updtInfo`. -/
def assignState (g : PerPTPInstanceGlobal) (port : PerPortGlobal)
    (gmPathPriority : PriorityVector) : PortState × Bool :=
  if port.infoIs = .disabled then
    (.disabledPort, false)
  else if port.asymmetryMeasurementMode then
    (.passivePort, false)
  else if port.infoIs = .aged then
    (.masterPort, true)
  else if port.infoIs = .mine then
    (.masterPort,
      port.updtInfo ∨ port.masterPriority ≠ port.portPriority ∨
        g.masterStepsRemoved ≠ port.portStepsRemoved)
  else if g.gmPriority = gmPathPriority then
    (.slavePort, false)
  else if comparePriorityVectors port.masterPriority port.portPriority ≠
      .superiorPriority then
    (.passivePort, false)
  else
    (.masterPort, true)

/-- The path trace of an instance whose slave port has just been chosen. -/
def tracePath (g : PerPTPInstanceGlobal) (port : PerPortGlobal) :
    PerPTPInstanceGlobal :=
  let n := min port.annPathSequenceCount.toNat maxPathTraceN
  if n + 1 ≤ maxPathTraceN then
    { g with
      pathTrace := fun i =>
        if i.val < n then port.annPathSequence i
        else if i.val = n then g.thisClock
        else g.pathTrace i
      nPathTrace := UInt16.ofNat (n + 1) }
  else
    { g with nPathTrace := 0 }

/-- `portStateUpdate`, for the port with the given index. -/
def portStateUpdate (g : PerPTPInstanceGlobal) (i : PortIndex)
    (port : PerPortGlobal) (gmPathPriority : PriorityVector) :
    PerPTPInstanceGlobal × PerPortGlobal :=
  let oldState := g.selectedState i.succ
  let (state, updtInfo) := assignState g port gmPathPriority
  let g := { g with selectedState := Function.update g.selectedState i.succ state }
  (if state = .slavePort ∧ oldState ≠ .slavePort then tracePath g port else g,
    { port with updtInfo := updtInfo })

/-- Parts d) and e) of `updtStatesTree`. -/
def computeMaster (g : PerPTPInstanceGlobal) (ports : PerPortGlobalArray) :
    PerPTPInstanceGlobal × PerPortGlobalArray :=
  ({ g with masterStepsRemoved := g.gmPriority.stepsRemoved },
    fun i => { ports i with masterPriority := masterPriorityOf g (ports i) })

/-- One pass of the loop in part f) of `updtStatesTree`. -/
def updatePort (paths : PortIndex -> PriorityVector)
    (s : PerPTPInstanceGlobal × PerPortGlobalArray) (i : PortIndex) :
    PerPTPInstanceGlobal × PerPortGlobalArray :=
  let (g, port) := portStateUpdate s.1 i (s.2 i) (paths i)
  (g, Function.update s.2 i port)

def updatePorts (paths : PortIndex -> PriorityVector)
    (s : PerPTPInstanceGlobal × PerPortGlobalArray) :
    PerPTPInstanceGlobal × PerPortGlobalArray :=
  (List.finRange nPorts).foldl (updatePort paths) s

/-- Parts g) to i) of `updtStatesTree`. -/
def concludeSelection (g : PerPTPInstanceGlobal) : PerPTPInstanceGlobal :=
  let slavePortAvail := exists i : PortIndex, g.selectedState i.succ = .slavePort
  let g :=
    { g with
      gmPresent := g.gmPriority.rootSystemIdentity.priority1 < 255
      selectedState := Function.update g.selectedState 0
        (if slavePortAvail then .masterPort else .slavePort) }
  if g.thisClock = g.gmPriority.rootSystemIdentity.clockIdentity then
    { g with
      pathTrace := Function.update g.pathTrace 0 g.thisClock
      nPathTrace := 1 }
  else
    g

def updtStatesTree (g : PerPTPInstanceGlobal) (ports : PerPortGlobalArray) :
    PerPTPInstanceGlobal × PerPortGlobalArray :=
  let s := updatePorts (fun i => gmPathPriority (ports i))
    (computeMaster (chooseGrandmaster g ports) ports)
  (concludeSelection s.1, s.2)

/-!
## Actions and transitions
-/

namespace PortStateSelectionSM

open PortStateSelectionSMState

def halt (f : Fault) (sm : PortStateSelectionSM) : PortStateSelectionSM :=
  { sm with process := sm.process.halt f }

def allStateTransition (sm : PortStateSelectionSM)
    (state : PortStateSelectionSMState) : PortStateSelectionSMState :=
  if (sm.perPTPInstanceGlobal.BEGIN ∨
        sm.perPTPInstanceGlobal.instanceEnable = false) ∧
      sm.perPTPInstanceGlobal.externalPortConfigurationEnabled = false then
    initBridge
  else
    state

/-- `updtStateDisabledTree`, the action of the state `PSSEL_INIT_BRIDGE`. -/
def initBridgeAction (sm : PortStateSelectionSM) : PortStateSelectionSM :=
  let g := sm.perPTPInstanceGlobal
  { sm with
    perPTPInstanceGlobal :=
      { g with
        selectedState := fun p =>
          if p = 0 then g.selectedState 0 else .disabledPort
        lastGmPriority := filledVector 1
        pathTrace := Function.update g.pathTrace 0 g.thisClock
        nPathTrace := 1 } }

def clearReselectTree (g : PerPTPInstanceGlobal) : PerPTPInstanceGlobal :=
  { g with reselect := fun _ => false }

def stateSelectionAction (sm : PortStateSelectionSM) : PortStateSelectionSM :=
  let updated :=
    updtStatesTree (clearReselectTree sm.perPTPInstanceGlobal)
      sm.perPortGlobalArray
  { sm with
    systemIdentityChange := false
    asymmetryMeasurementModeChange := false
    perPTPInstanceGlobal := { updated.1 with selected := fun _ => true }
    perPortGlobalArray := updated.2 }

def stateSelectionStateTransition (sm : PortStateSelectionSM) :
    Next PortStateSelectionSMState :=
  if (exists p, sm.perPTPInstanceGlobal.reselect p = true) ∨
      sm.systemIdentityChange ∨ sm.asymmetryMeasurementModeChange then
    .reenter stateSelection
  else
    .goto stateSelection

def action (state : PortStateSelectionSMState) (sm : PortStateSelectionSM) :
    PortStateSelectionSM :=
  match state with
  | init => sm
  | initBridge => sm.initBridgeAction
  | stateSelection => sm.stateSelectionAction

def transition (state : PortStateSelectionSMState) (sm : PortStateSelectionSM) :
    Except Fault (Next PortStateSelectionSMState) :=
  match state with
  | init => .ok (.goto initBridge)
  | initBridge => .ok (.goto stateSelection)
  | stateSelection => .ok sm.stateSelectionStateTransition

/--
The driver of the source returns early when the grandmaster has changed, with
a pointer to its identity that no caller uses.  The action has then cleared
what its state is entered again for, so the pass is the last one in any case.
-/
def program : Program PortStateSelectionSMState PortStateSelectionSM where
  action := action
  transition := transition
  fault sm := sm.process.stop
  halt := halt
  fault_halt _ _ := by simp [halt]

end PortStateSelectionSM

abbrev PortStateSelectionMachine : Type :=
  Machine PortStateSelectionSMState PortStateSelectionSM

namespace PortStateSelectionMachine

open PortStateSelectionSM

/-- A bound on the number of passes of one run. -/
def passes : Nat := 8

def ready (m : PortStateSelectionMachine) : PortStateSelectionMachine :=
  { m with state := m.vars.allStateTransition m.state }

/-- `port_state_selection_sm_run` -/
def run (m : PortStateSelectionMachine) : PortStateSelectionMachine :=
  program.run passes m.ready

/-- The machine of `init_port_state_selection_sm` before its first run. -/
def initial (memory : PortStateSelectionSM) : PortStateSelectionMachine where
  state := .init
  lastState := none
  vars :=
    { memory with
      systemIdentityChange := false
      asymmetryMeasurementModeChange := false }

/-- `init_port_state_selection_sm`, on memory with arbitrary contents. -/
def initPortStateSelectionSm (memory : PortStateSelectionSM) :
    PortStateSelectionMachine :=
  (initial memory).run

def entered (m : PortStateSelectionMachine) :
    List (PortStateSelectionSMState × PortStateSelectionSM) :=
  program.entries passes m.ready

end PortStateSelectionMachine

end TimeSync
end Ziggo
