import Ziggo.TsnDrivers.UScaledNs
import Ziggo.TimeSync.Process

/-!
# The time of the clock source

The state machine of `clock_master_sync_receive_sm.c`.  It takes over the time
that the main loop has read as the time of the clock master.
-/

namespace Ziggo
namespace TimeSync

open Foundation TsnDrivers

structure ClockSourceTimeInvoke where
  sourceTime : UScaledNs
  timeBaseIndicator : UInt16
  lastGmPhaseChange : ScaledNs
  lastGmFreqChange : Rat
deriving Inhabited

structure ClockMasterGlobal where
  clockMasterSyncInterval : UScaledNs
  clockMasterLogSyncInterval : Int8
  clockSourceFreqOffset : Rat
  clockSourcePhaseOffset : ScaledNs
  clockSourceTimeBaseIndicator : UInt16
  clockSourceTimeBaseIndicatorOld : UInt16
  gmRateRatio : Rat
  localTime : UScaledNs
  masterTime : UScaledNs
deriving Inhabited

inductive ClockMasterSyncReceiveSMState where
  | init
  | initializing
  | receiveSourceTime
deriving DecidableEq, Repr

structure ClockMasterSyncReceiveSM where
  rcvdClockSourceReq : Bool
  rcvdClockSourceReqPtr : Ptr ClockSourceTimeInvoke
  rcvdLocalClockTickCMSR : Bool
  perPTPInstanceGlobal : PerPTPInstanceGlobal
  clockMasterGlobal : ClockMasterGlobal
  process : Process
deriving Inhabited

namespace ClockMasterSyncReceiveSM

open ClockMasterSyncReceiveSMState

def halt (f : Fault) (sm : ClockMasterSyncReceiveSM) :
    ClockMasterSyncReceiveSM :=
  { sm with process := sm.process.halt f }

/-!
## Actions and transitions
-/

def allStateTransition (sm : ClockMasterSyncReceiveSM)
    (state : ClockMasterSyncReceiveSMState) : ClockMasterSyncReceiveSMState :=
  if sm.perPTPInstanceGlobal.BEGIN ∨
      sm.perPTPInstanceGlobal.instanceEnable = false then
    initializing
  else
    state

def zeroTime : UScaledNs where
  subns := 0
  nsec := 0
  nsecMsb := 0

def initializingAction (sm : ClockMasterSyncReceiveSM) :
    ClockMasterSyncReceiveSM :=
  { sm with
    clockMasterGlobal :=
      { sm.clockMasterGlobal with
        masterTime := zeroTime
        localTime := zeroTime
        clockSourceTimeBaseIndicatorOld := 0 }
    rcvdClockSourceReq := false
    rcvdLocalClockTickCMSR := false }

/-- Something has come from the clock source or from the local clock. -/
def requested (sm : ClockMasterSyncReceiveSM) : Bool :=
  sm.rcvdClockSourceReq ∨ sm.rcvdLocalClockTickCMSR

def initializingStateTransition (sm : ClockMasterSyncReceiveSM) :
    ClockMasterSyncReceiveSMState :=
  if sm.requested then receiveSourceTime else initializing

/-- `updateMasterTime`, and the assignment of its result to `localTime`. -/
def updateMasterTime (invoke : ClockSourceTimeInvoke) (g : ClockMasterGlobal) :
    ClockMasterGlobal :=
  { g with
    masterTime := invoke.sourceTime
    localTime := invoke.sourceTime }

/-- What a message of the clock source changes, with `computeGmRateRatio`. -/
def takeClockSource (invoke : ClockSourceTimeInvoke) (g : ClockMasterGlobal) :
    ClockMasterGlobal :=
  { g with
    gmRateRatio := 1
    clockSourceTimeBaseIndicatorOld := g.clockSourceTimeBaseIndicator
    clockSourceTimeBaseIndicator := invoke.timeBaseIndicator }

def receiveSourceTimeAction (sm : ClockMasterSyncReceiveSM) :
    Except Fault ClockMasterSyncReceiveSM := do
  let invoke <- sm.rcvdClockSourceReqPtr.deref
  let g := updateMasterTime invoke sm.clockMasterGlobal
  return { sm with
    clockMasterGlobal :=
      if sm.rcvdClockSourceReq then takeClockSource invoke g else g
    rcvdClockSourceReq := false
    rcvdLocalClockTickCMSR := false }

def receiveSourceTimeStateTransition (sm : ClockMasterSyncReceiveSM) :
    Next ClockMasterSyncReceiveSMState :=
  if sm.requested then .reenter receiveSourceTime else .goto receiveSourceTime

/-!
## The driver
-/

def action (state : ClockMasterSyncReceiveSMState)
    (sm : ClockMasterSyncReceiveSM) : Except Fault ClockMasterSyncReceiveSM :=
  match state with
  | init => .ok sm
  | initializing => .ok sm.initializingAction
  | receiveSourceTime => sm.receiveSourceTimeAction

def transition (state : ClockMasterSyncReceiveSMState)
    (sm : ClockMasterSyncReceiveSM) :
    Except Fault (Next ClockMasterSyncReceiveSMState) :=
  match state with
  | init => .ok (.goto initializing)
  | initializing => .ok (.goto sm.initializingStateTransition)
  | receiveSourceTime => .ok sm.receiveSourceTimeStateTransition

def program : Program ClockMasterSyncReceiveSMState ClockMasterSyncReceiveSM where
  action state sm := attempt halt sm (action state sm)
  transition := transition
  fault sm := sm.process.stop
  halt := halt
  fault_halt _ _ := by simp [halt]

def storeSourceTime (sm : ClockMasterSyncReceiveSM)
    (invoke : ClockSourceTimeInvoke) : Except Fault ClockMasterSyncReceiveSM := do
  let _ <- sm.rcvdClockSourceReqPtr.free
  return { sm with
    rcvdClockSourceReq := true
    rcvdClockSourceReqPtr := .live invoke }

end ClockMasterSyncReceiveSM

abbrev ClockMasterSyncReceiveMachine : Type :=
  Machine ClockMasterSyncReceiveSMState ClockMasterSyncReceiveSM

namespace ClockMasterSyncReceiveMachine

open ClockMasterSyncReceiveSM

/-- A bound on the number of passes of one run. -/
def passes : Nat := 8

def ready (m : ClockMasterSyncReceiveMachine) : ClockMasterSyncReceiveMachine :=
  { m with state := m.vars.allStateTransition m.state }

/-- `clock_master_sync_receive_sm_run`, which does not use its time. -/
def run (m : ClockMasterSyncReceiveMachine) : ClockMasterSyncReceiveMachine :=
  program.run passes m.ready

/-- `init_clock_master_sync_receive_sm`, on memory with arbitrary contents. -/
def initClockMasterSyncReceiveSm (memory : ClockMasterSyncReceiveSM) :
    ClockMasterSyncReceiveMachine :=
  run
    { state := .init
      lastState := none
      vars := { memory with rcvdClockSourceReqPtr := .null } }

def recvSourceTime (m : ClockMasterSyncReceiveMachine)
    (invoke : ClockSourceTimeInvoke) : ClockMasterSyncReceiveMachine :=
  match m.vars.storeSourceTime invoke with
  | .error f => { m with vars := m.vars.halt f }
  | .ok sm => run { m with vars := sm }

end ClockMasterSyncReceiveMachine

end TimeSync
end Ziggo
