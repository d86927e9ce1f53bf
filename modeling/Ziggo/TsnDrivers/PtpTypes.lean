import Mathlib.Algebra.GroupWithZero.Nat
import Mathlib.Data.Fin.VecNotation
import Mathlib.Data.Fintype.Pi
import Mathlib.Data.Rat.Defs

/-!
# PTP data types

The structures of `ptp_types.h`.  A record has the fields that the modelled
functions read or write, with machine integers of the source's width.  A
`double` is a rational number, an array is a function from its index type, and
`thisPort` ranges over the indices of the per-port arrays.
-/

namespace Ziggo
namespace TsnDrivers

abbrev nPorts : Nat := 4

def oneSecNs : UInt64 := 1000000000

/-- `MAXLENGTH`, the length of the circular lists of timestamps. -/
abbrev maxLength : Nat := 64

abbrev maxPathTraceN : Nat := 8

abbrev clockIdentityLength : Nat := 8

instance neZero_nPorts : NeZero nPorts := ⟨by decide⟩

/-- With port 0.  Sums have instances of their own, which are not named. -/
instance (priority := high) neZero_ports : NeZero (nPorts + 1) := ⟨by decide⟩

instance neZero_maxLength : NeZero maxLength := ⟨by decide⟩

instance neZero_maxPathTraceN : NeZero maxPathTraceN := ⟨by decide⟩

abbrev ClockIdentity : Type := Fin clockIdentityLength -> UInt8

/-- `DEFAULT_CLOCK_IDENTITY_H` and `DEFAULT_CLOCK_IDENTITY_L` -/
def defaultClockIdentity : ClockIdentity := fun _ => 0

/-- A port of the instance.  Port 0 is the local clock. -/
abbrev Port : Type := Fin (nPorts + 1)

def portNumberOf (p : Port) : UInt16 :=
  UInt16.ofNat p.val

inductive PortState where
  | masterPort
  | slavePort
  | passivePort
  | disabledPort
deriving DecidableEq, Repr, Inhabited

structure UScaledNs where
  subns : UInt16
  nsec : UInt64
  nsecMsb : UInt16
deriving DecidableEq, Repr, Inhabited

structure SystemIdentity where
  priority1 : UInt8
  clockClass : UInt8
  clockAccuracy : UInt8
  offsetScaledLogVariance : UInt16
  priority2 : UInt8
  clockIdentity : ClockIdentity
deriving DecidableEq, Inhabited

structure PriorityVector where
  rootSystemIdentity : SystemIdentity
  stepsRemoved : UInt16
  sourcePortClockIdentity : ClockIdentity
  sourcePortNumber : UInt16
  portNumber : UInt16
deriving DecidableEq, Inhabited

structure PortIdentity where
  clockIdentity : ClockIdentity
  portNumber : UInt16
deriving DecidableEq, Inhabited

abbrev ScaledNs : Type := UScaledNs
abbrev ExtendedTimestamp : Type := UScaledNs

inductive BmcsInfoIs where
  | received
  | mine
  | aged
  | disabled
deriving DecidableEq, Repr, Inhabited

inductive BmcsRcvdInfo where
  | repeatedMasterInfo
  | superiorMasterInfo
  | inferiorMasterInfo
  | otherInfo
deriving DecidableEq, Repr, Inhabited

inductive BmcsPriorityComparisonResult where
  | samePriority
  | superiorPriority
  | inferiorPriority
deriving DecidableEq, Repr, Inhabited

/-!
## Global variables
-/

structure PerPortGlobal where
  asCapable : Bool
  asymmetryMeasurementMode : Bool
  syncReceiptTimeoutTimeInterval : UScaledNs
  currentLogSyncInterval : Int8
  syncInterval : UScaledNs
  neighborRateRatio : Rat
  meanLinkDelay : UScaledNs
  computeNeighborRateRatio : Bool
  computeMeanLinkDelay : Bool
  portOper : Bool
  ptpPortEnabled : Bool
  thisPort : Port
  syncLocked : Bool
  syncSlowDown : Bool
  oldSyncInterval : UScaledNs
  syncReceiptTimeout : UInt16
  announceReceiptTimeout : UInt16
  announceReceiptTimeoutTimeInterval : UScaledNs
  infoIs : BmcsInfoIs
  masterPriority : PriorityVector
  currentLogAnnounceInterval : Int8
  initialLogAnnounceInterval : Int8
  announceInterval : UScaledNs
  newInfo : Bool
  portPriority : PriorityVector
  portStepsRemoved : UInt16
  rcvdMsg : Bool
  updtInfo : Bool
  annLeap61 : Bool
  annLeap59 : Bool
  annCurrentUtcOffsetValid : Bool
  annPtpTimescale : Bool
  annTimeTraceable : Bool
  annFrequencyTraceable : Bool
  annCurrentUtcOffset : Int16
  annTimeSource : UInt8
  annPathSequenceCount : UInt8
  annPathSequence : Fin maxPathTraceN -> ClockIdentity
deriving DecidableEq, Inhabited

structure PerPTPInstanceGlobal where
  BEGIN : Bool
  syncReceiptTime : ExtendedTimestamp
  syncReceiptLocalTime : UScaledNs
  instanceEnable : Bool
  gmPresent : Bool
  gmTimeBaseIndicator : UInt16
  lastGmPhaseChange : ScaledNs
  lastGmFreqChange : Rat
  selectedState : Port -> PortState
  thisClock : ClockIdentity
  parentLogSyncInterval : Int8
  syncReceiptTimeoutTime : UScaledNs
  reselect : Port -> Bool
  selected : Port -> Bool
  masterStepsRemoved : UInt16
  leap61 : Bool
  leap59 : Bool
  currentUtcOffsetValid : Bool
  ptpTimescale : Bool
  timeTraceable : Bool
  frequencyTraceable : Bool
  currentUtcOffset : Int16
  timeSource : UInt8
  sysLeap61 : Bool
  sysLeap59 : Bool
  sysCurrentUTCOffsetValid : Bool
  sysPtpTimescale : Bool
  sysTimeTraceable : Bool
  sysFrequencyTraceable : Bool
  sysCurrentUtcOffset : Int16
  sysTimeSource : UInt8
  systemPriority : PriorityVector
  gmPriority : PriorityVector
  lastGmPriority : PriorityVector
  gmStepsRemoved : UInt16
  nPathTrace : UInt16
  pathTrace : Fin maxPathTraceN -> ClockIdentity
  externalPortConfigurationEnabled : Bool
  gmIdentity : ClockIdentity
deriving DecidableEq, Inhabited

structure MDEntityGlobal where
  isMeasuringDelay : Bool
  asCapableAcrossDomains : Bool
  allowedLostResponses : UInt8
  pdelayReqInterval : UScaledNs
  meanLinkDelayThresh : UScaledNs
  allowedFaults : UInt8
  syncSequenceId : UInt16
deriving DecidableEq, Inhabited

/-!
## Messages
-/

/-- `PTPMsgType`, without `NO_FRAME`, which no message carries. -/
inductive PTPMsgType where
  | sync
  | pdelayReq
  | pdelayResp
  | followUp
  | pdelayRespFollowUp
  | announce
deriving DecidableEq, Repr, Inhabited

/-- The value that the enumeration gives a message type. -/
def PTPMsgType.code : PTPMsgType -> UInt8
  | .sync => 0
  | .pdelayReq => 2
  | .pdelayResp => 3
  | .followUp => 8
  | .pdelayRespFollowUp => 10
  | .announce => 11

structure PTPMsgTimestamp where
  secondsMsb : UInt16
  secondsLsb : UInt32
  nanoseconds : UInt32
deriving DecidableEq, Repr, Inhabited

structure PTPMsgHeader where
  majorSdoId : UInt8
  messageType : UInt8
  minorVersionPTP : UInt8
  versionPTP : UInt8
  messageLength : UInt16
  domainNumber : UInt8
  minorSdoId : UInt8
  flags : Fin 2 -> UInt8
  correctionField : Int64
  messageTypeSpecific : Fin 4 -> UInt8
  sourcePortIdentity : PortIdentity
  sequenceId : UInt16
  controlField : UInt8
  logMessageInterval : Int8
deriving DecidableEq, Inhabited

structure PTPMsgPdelayReq where
  head : PTPMsgHeader
deriving DecidableEq, Inhabited

structure PTPMsgPdelayResp where
  head : PTPMsgHeader
  requestReceiptTimestamp : PTPMsgTimestamp
  requestingPortIdentity : PortIdentity
deriving DecidableEq, Inhabited

structure PTPMsgPdelayRespFollowUp where
  head : PTPMsgHeader
  responseOriginTimestamp : PTPMsgTimestamp
  requestingPortIdentity : PortIdentity
deriving DecidableEq, Inhabited

structure PTPMsgSync where
  head : PTPMsgHeader
deriving DecidableEq, Inhabited

structure PTPMsgFollowUpTLV where
  tlvType : UInt16
  lengthField : UInt16
  organizationId : Fin 3 -> UInt8
  organizationSubType : Fin 3 -> UInt8
  cumulativeScaledRateOffset : Int32
  gmTimeBaseIndicator : UInt16
  lastGmPhaseChange : ScaledNs
  scaledLastGmFreqChange : Int32
deriving DecidableEq, Inhabited

structure PTPMsgFollowUp where
  head : PTPMsgHeader
  preciseOriginTimestamp : PTPMsgTimestamp
  followUpInformationTLV : PTPMsgFollowUpTLV
deriving DecidableEq, Inhabited

structure ClockQuality where
  clockClass : UInt8
  clockAccuracy : UInt8
  offsetScaledLogVariance : UInt16
deriving DecidableEq, Repr, Inhabited

structure PTPMsgPathTraceTLV where
  tlvType : UInt16
  lengthField : UInt16
  pathSequence : Fin maxPathTraceN -> ClockIdentity
deriving DecidableEq, Inhabited

structure PTPMsgAnnounce where
  head : PTPMsgHeader
  currentUtcOffset : Int16
  grandmasterPriority1 : UInt8
  grandmasterClockQuality : ClockQuality
  grandmasterPriority2 : UInt8
  grandmasterIdentity : ClockIdentity
  stepsRemoved : UInt16
  timeSource : UInt8
  pathTraceTLV : PTPMsgPathTraceTLV
deriving DecidableEq, Inhabited

structure TSUTimestamp where
  ts : UScaledNs
  sequenceID : UInt16
  msgType : UInt8
deriving DecidableEq, Repr, Inhabited

structure PortSyncSync where
  domainNumber : UInt8
  localPortNumber : Port
  syncReceiptTimeoutTime : UScaledNs
  followUpCorrectionField : ScaledNs
  sourcePortIdentity : PortIdentity
  logMessageInterval : Int8
  preciseOriginTimestamp : PTPMsgTimestamp
  upstreamTxTime : UScaledNs
  rateRatio : Rat
  gmTimeBaseIndicator : UInt16
  lastGmPhaseChange : ScaledNs
  lastGmFreqChange : Rat
deriving DecidableEq, Inhabited

structure MDSyncReceive where
  domainNumber : UInt8
  followUpCorrectionField : ScaledNs
  sourcePortIdentity : PortIdentity
  logMessageInterval : Int8
  preciseOriginTimestamp : PTPMsgTimestamp
  upstreamTxTime : UScaledNs
  rateRatio : Rat
  gmTimeBaseIndicator : UInt16
  lastGmPhaseChange : ScaledNs
  lastGmFreqChange : Rat
deriving DecidableEq, Inhabited

structure MDSyncSend where
  domainNumber : UInt8
  followUpCorrectionField : ScaledNs
  sourcePortIdentity : PortIdentity
  logMessageInterval : Int8
  preciseOriginTimestamp : PTPMsgTimestamp
  upstreamTxTime : UScaledNs
  rateRatio : Rat
  gmTimeBaseIndicator : UInt16
  lastGmPhaseChange : ScaledNs
  lastGmFreqChange : Rat
deriving DecidableEq, Inhabited

/-!
## Message headers
-/

def defaultLogMessageInterval : Int8 := 0

def ptpMsgHeaderTemplate (msgtype : PTPMsgType) (len : UInt16)
    (portId : PortIdentity) (seqid : UInt16) (logMessageInterval : Int8)
    (correction : Int64) : PTPMsgHeader where
  majorSdoId := 1
  messageType := msgtype.code
  minorVersionPTP := 1
  versionPTP := 2
  messageLength := len
  domainNumber := 0
  minorSdoId := 0
  flags := ![0x2, 0x0]
  correctionField := correction
  messageTypeSpecific := fun _ => 0
  sourcePortIdentity := portId
  sequenceId := seqid
  controlField :=
    match msgtype with
    | .sync => 0x0
    | .followUp => 0x2
    | _ => 0x5
  logMessageInterval := logMessageInterval

/-- One bit of the second flag octet. -/
def flagMask (condition : Bool) (mask : UInt8) : UInt8 :=
  if condition then mask else 0

def ptpMsgAnnHeaderTemplate (msgtype : PTPMsgType) (len : UInt16)
    (portId : PortIdentity) (seqid : UInt16) (logMessageInterval : Int8)
    (correction : Int64) (g : PerPTPInstanceGlobal) : PTPMsgHeader where
  majorSdoId := 1
  messageType := msgtype.code
  minorVersionPTP := 1
  versionPTP := 2
  messageLength := len
  domainNumber := 0
  minorSdoId := 0
  flags := ![0x0,
    flagMask g.leap61 0x01 ||| flagMask g.leap59 0x02 |||
      flagMask g.currentUtcOffsetValid 0x04 ||| flagMask g.ptpTimescale 0x08 |||
      flagMask g.timeTraceable 0x10 ||| flagMask g.frequencyTraceable 0x20]
  correctionField := correction
  messageTypeSpecific := fun _ => 0
  sourcePortIdentity := portId
  sequenceId := seqid
  controlField := 0x0
  logMessageInterval := logMessageInterval

@[simp] theorem ptpMsgHeaderTemplate_sequenceId (msgtype : PTPMsgType)
    (len : UInt16) (portId : PortIdentity) (seqid : UInt16) (log : Int8)
    (correction : Int64) :
    (ptpMsgHeaderTemplate msgtype len portId seqid log correction).sequenceId =
      seqid :=
  rfl

@[simp] theorem ptpMsgHeaderTemplate_sourcePortIdentity (msgtype : PTPMsgType)
    (len : UInt16) (portId : PortIdentity) (seqid : UInt16) (log : Int8)
    (correction : Int64) :
    (ptpMsgHeaderTemplate msgtype len portId seqid log
      correction).sourcePortIdentity = portId :=
  rfl

def portIdentityEqual (pi1 pi2 : PortIdentity) : Bool :=
  pi1.clockIdentity = pi2.clockIdentity ∧ pi1.portNumber = pi2.portNumber

@[simp] theorem portIdentityEqual_iff (pi1 pi2 : PortIdentity) :
    portIdentityEqual pi1 pi2 = true <-> pi1 = pi2 := by
  cases pi1
  cases pi2
  simp [portIdentityEqual]

end TsnDrivers
end Ziggo
