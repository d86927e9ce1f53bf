import Mathlib.Logic.Function.Basic
import Ziggo.TsnDrivers.Announce
import Ziggo.TsnDrivers.PriorityVector
import Ziggo.TsnDrivers.UScaledNs
import Ziggo.TimeSync.Process

/-!
# Announce information of a port

The state machine of `port_announce_information_sm.c`.  It compares each
`Announce` that a port receives with the information the port holds, keeps the
better one, and lets it age.
-/

namespace Ziggo
namespace TimeSync

open Foundation TsnDrivers

inductive PortAnnounceInformationSMState where
  | init
  | disabled
  | aged
  | update
  | current
  | receive
  | inferiorMasterOrOtherPort
  | repeatedMasterPort
  | superiorMasterPort
deriving DecidableEq, Repr

structure PortAnnounceInformationSM where
  announceReceiptTimeoutTime : UScaledNs
  messagePriorityPAI : PriorityVector
  rcvdInfo : BmcsRcvdInfo
  rcvdAnnouncePtr : Ptr PTPMsgAnnounce
  perPTPInstanceGlobal : PerPTPInstanceGlobal
  perPortGlobal : PerPortGlobal
  process : Process
deriving Inhabited

namespace PortAnnounceInformationSM

open PortAnnounceInformationSMState

def halt (f : Fault) (sm : PortAnnounceInformationSM) :
    PortAnnounceInformationSM :=
  { sm with process := sm.process.halt f }

/-- `RESELECT[thisPort] = 1` and `SELECTED[thisPort] = 0` -/
def requestSelection (sm : PortAnnounceInformationSM) :
    PortAnnounceInformationSM :=
  { sm with
    perPTPInstanceGlobal :=
      { sm.perPTPInstanceGlobal with
        reselect :=
          Function.update sm.perPTPInstanceGlobal.reselect
            sm.perPortGlobal.thisPort true
        selected :=
          Function.update sm.perPTPInstanceGlobal.selected
            sm.perPortGlobal.thisPort false } }

def isSelected (sm : PortAnnounceInformationSM) : Bool :=
  sm.perPTPInstanceGlobal.selected sm.perPortGlobal.thisPort

/-- The port can take part in the protocol. -/
def portReady (sm : PortAnnounceInformationSM) : Bool :=
  sm.perPortGlobal.portOper ∧ sm.perPortGlobal.ptpPortEnabled ∧
    sm.perPortGlobal.asCapable

/-!
## Received information
-/

/--
The assignments of `rcvInfo` to `messagePriorityPAI`.  The number of the source
port is not among them.
-/
def messagePriorityOf (messagePriority : PriorityVector)
    (announce : PTPMsgAnnounce) : PriorityVector :=
  { messagePriority with
    rootSystemIdentity := announce.systemIdentity
    stepsRemoved := announce.stepsRemoved
    sourcePortClockIdentity := announce.head.sourcePortIdentity.clockIdentity
    portNumber := announce.head.sourcePortIdentity.portNumber }

/-- The comparison of `rcvInfo`, once `messagePriorityPAI` has been set. -/
def classify (sm : PortAnnounceInformationSM) : BmcsRcvdInfo :=
  if sm.perPTPInstanceGlobal.selectedState sm.perPortGlobal.thisPort ≠
      .disabledPort then
    if sm.perPortGlobal.portPriority = sm.messagePriorityPAI then
      .repeatedMasterInfo
    else if comparePriorityVectors sm.messagePriorityPAI
        sm.perPortGlobal.portPriority = .superiorPriority then
      .superiorMasterInfo
    else
      .inferiorMasterInfo
  else
    .otherInfo

/-- `rcvInfo`, with its result in `rcvdInfo`. -/
def rcvInfo (sm : PortAnnounceInformationSM) :
    Except Fault PortAnnounceInformationSM := do
  let announce <- sm.rcvdAnnouncePtr.deref
  let sm :=
    { sm with
      perPTPInstanceGlobal :=
        { sm.perPTPInstanceGlobal with gmStepsRemoved := announce.stepsRemoved }
      messagePriorityPAI := messagePriorityOf sm.messagePriorityPAI announce }
  return { sm with rcvdInfo := sm.classify }

def recordOtherAnnounceInfo (sm : PortAnnounceInformationSM)
    (announce : PTPMsgAnnounce) : Except Fault PortAnnounceInformationSM := do
  let annPathSequence <-
    copyOctets announce.pathTraceTLV.lengthField.toNat
      announce.pathTraceTLV.pathSequence sm.perPortGlobal.annPathSequence
  return { sm with
    perPortGlobal :=
      { sm.perPortGlobal with
        annLeap61 := announce.flag 0x1
        annLeap59 := announce.flag 0x2
        annCurrentUtcOffsetValid := announce.flag 0x4
        annPtpTimescale := announce.flag 0x8
        annTimeTraceable := announce.flag 0x10
        annFrequencyTraceable := announce.flag 0x20
        annCurrentUtcOffset := announce.currentUtcOffset
        annTimeSource := announce.timeSource
        annPathSequenceCount := announce.pathCount.toUInt8
        annPathSequence := annPathSequence }
    perPTPInstanceGlobal :=
      { sm.perPTPInstanceGlobal with
        gmIdentity := announce.grandmasterIdentity } }

/--
The interval of a receipt timeout.  The operand `1` of the shift is an `int`,
which leaves no result for a negative interval or for one above 30.
-/
def timeoutInterval (announceReceiptTimeout : UInt16) (logInterval : Int8) :
    Except Fault UScaledNs :=
  if 0 ≤ logInterval ∧ logInterval ≤ 30 then
    .ok
      { subns := 0
        nsec := announceReceiptTimeout.toUInt64 * oneSecNs *
          UInt64.ofNat (2 ^ logInterval.toInt.toNat)
        nsecMsb := 0 }
  else
    .error .overflow

/-!
## Actions and transitions
-/

def allStateTransition (sm : PortAnnounceInformationSM)
    (state : PortAnnounceInformationSMState) : PortAnnounceInformationSMState :=
  if ((sm.portReady = false ∧ sm.perPortGlobal.infoIs ≠ .disabled) ∨
        sm.perPTPInstanceGlobal.BEGIN ∨
        sm.perPTPInstanceGlobal.instanceEnable = false) ∧
      sm.perPTPInstanceGlobal.externalPortConfigurationEnabled = false then
    disabled
  else
    state

def disabledAction (sm : PortAnnounceInformationSM) (ts : UScaledNs) :
    PortAnnounceInformationSM :=
  requestSelection
    { sm with
      perPortGlobal :=
        { sm.perPortGlobal with
          rcvdMsg := false
          infoIs := .disabled }
      announceReceiptTimeoutTime := ts }

/-- The test of `rcvdMsg` in the source leads to the same state. -/
def disabledStateTransition (sm : PortAnnounceInformationSM) :
    PortAnnounceInformationSMState :=
  if sm.portReady then aged else disabled

def agedAction (sm : PortAnnounceInformationSM) : PortAnnounceInformationSM :=
  let sm := requestSelection
    { sm with perPortGlobal := { sm.perPortGlobal with infoIs := .aged } }
  { sm with
    perPortGlobal := { sm.perPortGlobal with annPathSequenceCount := 0 }
    perPTPInstanceGlobal :=
      { sm.perPTPInstanceGlobal with
        gmIdentity := sm.perPTPInstanceGlobal.thisClock } }

def agedStateTransition (sm : PortAnnounceInformationSM) :
    PortAnnounceInformationSMState :=
  if sm.isSelected ∧ sm.perPortGlobal.updtInfo then update else aged

def updateAction (sm : PortAnnounceInformationSM) : PortAnnounceInformationSM :=
  { sm with
    perPortGlobal :=
      { sm.perPortGlobal with
        portPriority := sm.perPortGlobal.masterPriority
        portStepsRemoved := sm.perPTPInstanceGlobal.masterStepsRemoved
        updtInfo := false
        infoIs := .mine
        newInfo := true } }

/-- The information of the port, or the time of the grandmaster, is too old. -/
def timedOut (sm : PortAnnounceInformationSM) (ts : UScaledNs) : Bool :=
  (sm.perPortGlobal.infoIs = .received ∧
      uscalednsCompare ts sm.announceReceiptTimeoutTime ≥ 0 ∧
      sm.perPortGlobal.updtInfo = false ∧ sm.perPortGlobal.rcvdMsg = false) ∨
    (uscalednsCompare ts sm.perPTPInstanceGlobal.syncReceiptTimeoutTime ≥ 0 ∧
      sm.perPTPInstanceGlobal.gmPresent)

def currentStateTransition (sm : PortAnnounceInformationSM) (ts : UScaledNs) :
    PortAnnounceInformationSMState :=
  if sm.isSelected ∧ sm.perPortGlobal.updtInfo then
    update
  else if sm.timedOut ts then
    aged
  else if sm.perPortGlobal.rcvdMsg ∧ sm.perPortGlobal.updtInfo = false then
    receive
  else
    current

def receiveStateTransition (sm : PortAnnounceInformationSM) :
    PortAnnounceInformationSMState :=
  if sm.perPortGlobal.asymmetryMeasurementMode then
    receive
  else
    match sm.rcvdInfo with
    | .inferiorMasterInfo => inferiorMasterOrOtherPort
    | .otherInfo => inferiorMasterOrOtherPort
    | .repeatedMasterInfo => repeatedMasterPort
    | .superiorMasterInfo => superiorMasterPort

/-- `rcvdMsg = 0` and `RCVD_ANNOUNCE_PTR = NULL` -/
def dropAnnounce (sm : PortAnnounceInformationSM) : PortAnnounceInformationSM :=
  { sm with
    perPortGlobal := { sm.perPortGlobal with rcvdMsg := false }
    rcvdAnnouncePtr := .null }

def repeatedMasterPortAction (sm : PortAnnounceInformationSM) (ts : UScaledNs) :
    Except Fault PortAnnounceInformationSM := do
  let announce <- sm.rcvdAnnouncePtr.deref
  let sm <- recordOtherAnnounceInfo
    { sm with
      announceReceiptTimeoutTime :=
        uscalednsAdd ts sm.perPortGlobal.announceReceiptTimeoutTimeInterval }
    announce
  return sm.dropAnnounce

def superiorMasterPortAction (sm : PortAnnounceInformationSM) (ts : UScaledNs) :
    Except Fault PortAnnounceInformationSM := do
  let announce <- sm.rcvdAnnouncePtr.deref
  let sm <- recordOtherAnnounceInfo
    { sm with
      perPortGlobal :=
        { sm.perPortGlobal with
          portPriority := sm.messagePriorityPAI
          portStepsRemoved := announce.stepsRemoved } }
    announce
  let announceInterval <-
    timeoutInterval sm.perPortGlobal.announceReceiptTimeout
      announce.head.logMessageInterval
  let syncInterval <-
    timeoutInterval sm.perPortGlobal.announceReceiptTimeout
      sm.perPortGlobal.initialLogAnnounceInterval
  let sm :=
    { sm with
      announceReceiptTimeoutTime := uscalednsAdd ts announceInterval
      perPortGlobal :=
        { sm.perPortGlobal with
          announceReceiptTimeoutTimeInterval := announceInterval
          syncReceiptTimeoutTimeInterval := syncInterval
          infoIs := .received }
      perPTPInstanceGlobal :=
        { sm.perPTPInstanceGlobal with
          syncReceiptTimeoutTime := uscalednsAdd ts syncInterval } }
  return sm.requestSelection.dropAnnounce

/-!
## The driver
-/

def action (ts : UScaledNs) (state : PortAnnounceInformationSMState)
    (sm : PortAnnounceInformationSM) : Except Fault PortAnnounceInformationSM :=
  match state with
  | init => .ok sm
  | disabled => .ok (sm.disabledAction ts)
  | aged => .ok sm.agedAction
  | update => .ok sm.updateAction
  | current => .ok sm
  | receive => sm.rcvInfo
  | inferiorMasterOrOtherPort => .ok sm.dropAnnounce
  | repeatedMasterPort => sm.repeatedMasterPortAction ts
  | superiorMasterPort => sm.superiorMasterPortAction ts

def transition (ts : UScaledNs) (state : PortAnnounceInformationSMState)
    (sm : PortAnnounceInformationSM) :
    Except Fault PortAnnounceInformationSMState :=
  match state with
  | init => .ok disabled
  | disabled => .ok sm.disabledStateTransition
  | aged => .ok sm.agedStateTransition
  | update => .ok current
  | current => .ok (sm.currentStateTransition ts)
  | receive => .ok sm.receiveStateTransition
  | inferiorMasterOrOtherPort => .ok current
  | repeatedMasterPort => .ok current
  | superiorMasterPort => .ok current

def behaviour (ts : UScaledNs) :
    Behaviour PortAnnounceInformationSMState PortAnnounceInformationSM where
  action := action ts
  transition := transition ts
  fault sm := sm.process.stop
  halt := halt
  fault_halt _ _ := by simp [halt]

/-!
## Leaving a state

What a change of state says about its source.
-/

section Leaving

variable {ts : UScaledNs} {sm : PortAnnounceInformationSM}
  {next : PortAnnounceInformationSMState}

theorem disabled_left (h : transition ts disabled sm = .ok next)
    (hne : next ≠ disabled) : next = aged ∧ sm.portReady = true := by
  have hnext : sm.disabledStateTransition = next := Except.ok.inj h
  unfold disabledStateTransition at hnext
  split at hnext
  case isTrue hready => exact ⟨hnext.symm, hready⟩
  case isFalse => exact absurd hnext.symm hne

theorem aged_left (h : transition ts aged sm = .ok next) (hne : next ≠ aged) :
    next = update ∧
      (sm.isSelected = true ∧ sm.perPortGlobal.updtInfo = true) := by
  have hnext : sm.agedStateTransition = next := Except.ok.inj h
  unfold agedStateTransition at hnext
  split at hnext
  case isTrue hupdating => exact ⟨hnext.symm, hupdating⟩
  case isFalse => exact absurd hnext.symm hne

theorem current_left (h : transition ts current sm = .ok next)
    (hne : next ≠ current) :
    (next = update ∧
        (sm.isSelected = true ∧ sm.perPortGlobal.updtInfo = true)) ∨
      (next = aged ∧ sm.timedOut ts = true) ∨
        (next = receive ∧ ¬ sm.timedOut ts = true ∧
          sm.perPortGlobal.rcvdMsg = true ∧
            sm.perPortGlobal.updtInfo = false) := by
  have hnext : sm.currentStateTransition ts = next := Except.ok.inj h
  unfold currentStateTransition at hnext
  split at hnext
  case isTrue hupdating => exact Or.inl ⟨hnext.symm, hupdating⟩
  case isFalse =>
    split at hnext
    case isTrue htimedOut => exact Or.inr (Or.inl ⟨hnext.symm, htimedOut⟩)
    case isFalse htimedOut =>
      split at hnext
      case isTrue hmsg => exact Or.inr (Or.inr ⟨hnext.symm, htimedOut, hmsg⟩)
      case isFalse => exact absurd hnext.symm hne

theorem receive_left (h : transition ts receive sm = .ok next)
    (hne : next ≠ receive) :
    next = inferiorMasterOrOtherPort ∨ next = repeatedMasterPort ∨
      (next = superiorMasterPort ∧ sm.rcvdInfo = .superiorMasterInfo) := by
  have hnext : sm.receiveStateTransition = next := Except.ok.inj h
  unfold receiveStateTransition at hnext
  split at hnext
  · exact absurd hnext.symm hne
  · split at hnext
    case h_1 => exact Or.inl hnext.symm
    case h_2 => exact Or.inl hnext.symm
    case h_3 => exact Or.inr (Or.inl hnext.symm)
    case h_4 hinfo => exact Or.inr (Or.inr ⟨hnext.symm, hinfo⟩)

end Leaving

def storeAnnounce (sm : PortAnnounceInformationSM) (announce : PTPMsgAnnounce) :
    Except Fault PortAnnounceInformationSM := do
  let _ <- sm.rcvdAnnouncePtr.free
  return { sm with
    perPortGlobal := { sm.perPortGlobal with rcvdMsg := true }
    rcvdAnnouncePtr := .live announce }

end PortAnnounceInformationSM

abbrev PortAnnounceInformationMachine : Type :=
  Machine PortAnnounceInformationSMState PortAnnounceInformationSM

namespace PortAnnounceInformationMachine

open PortAnnounceInformationSM

/-- A bound on the number of passes of one run. -/
def passes : Nat := 16

def ready (m : PortAnnounceInformationMachine) : PortAnnounceInformationMachine :=
  { m with state := m.vars.allStateTransition m.state }

/-- `port_announce_information_sm_run` -/
def run (m : PortAnnounceInformationMachine) (ts : UScaledNs) :
    PortAnnounceInformationMachine :=
  (behaviour ts).program.run passes m.ready

/-- `init_port_announce_information_sm`, on memory with arbitrary contents. -/
def initPortAnnounceInformationSm (memory : PortAnnounceInformationSM) :
    PortAnnounceInformationMachine :=
  run
    { state := .init
      lastState := none
      vars := { memory with rcvdAnnouncePtr := .null } }
    { subns := 0, nsec := 0, nsecMsb := 0 }

def recvAnnounce (m : PortAnnounceInformationMachine) (ts : UScaledNs)
    (announce : PTPMsgAnnounce) : PortAnnounceInformationMachine :=
  match m.vars.storeAnnounce announce with
  | .error f => { m with vars := m.vars.halt f }
  | .ok sm => run { m with vars := sm } ts

end PortAnnounceInformationMachine

end TimeSync
end Ziggo
