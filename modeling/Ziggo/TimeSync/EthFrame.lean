import Ziggo.TimeSync.MsgFrame
import Ziggo.TimeSync.Process
import Ziggo.TsnDrivers.Announce

/-!
# Frames on the wire

The transmit functions of the state machines turn a message into the octets of
a frame, and `recv_ptp_frame` turns a packet back into a message.  In a packet
the frame is preceded by a header for the CPU port, which names the port of
arrival, and by the Ethernet header.
-/

namespace Ziggo
namespace TimeSync

open Foundation TsnDrivers

/-!
## Transmission

Each function has the octets that it hands to `send_ptp_frame` as its result.
-/

def frameTimestamp (t : PTPMsgTimestamp) : PTPFrameTimestamp where
  secondsMsb := htons t.secondsMsb
  secondsLsb := htonl t.secondsLsb
  nanoseconds := htonl t.nanoseconds

def framePortIdentity (i : PortIdentity) : PTPFramePortIdentity where
  clockIdentity := i.clockIdentity
  portNumber := htons i.portNumber

def txPdelayReq (message : PTPMsgPdelayReq) : List UInt8 :=
  PTPFramePdelayReq.layout.store
    { head := setPtpFrameHeader message.head
      res0 := fun _ => 0
      res1 := fun _ => 0 }

def txPdelayResp (message : PTPMsgPdelayResp) : List UInt8 :=
  PTPFramePdelayResp.layout.store
    { head := setPtpFrameHeader message.head
      requestReceiptTimestamp := frameTimestamp message.requestReceiptTimestamp
      requestingPortIdentity :=
        framePortIdentity message.requestingPortIdentity }

def txPdelayRespFollowUp (message : PTPMsgPdelayRespFollowUp) : List UInt8 :=
  PTPFramePdelayRespFollowUp.layout.store
    { head := setPtpFrameHeader message.head
      responseOriginTimestamp := frameTimestamp message.responseOriginTimestamp
      requestingPortIdentity :=
        framePortIdentity message.requestingPortIdentity }

def txSync (message : PTPMsgSync) : List UInt8 :=
  PTPFrameSync.layout.store
    { head := setPtpFrameHeader message.head
      res := fun _ => 0 }

def frameFollowUpTLV (tlv : PTPMsgFollowUpTLV) : PTPFrameFollowUpTLV where
  tlvType := htons tlv.tlvType
  lengthField := htons tlv.lengthField
  organizationId := tlv.organizationId
  organizationSubType := tlv.organizationSubType
  cumulativeScaledRateOffset :=
    (htonl tlv.cumulativeScaledRateOffset.toUInt32).toInt32
  gmTimeBaseIndicator := htons tlv.gmTimeBaseIndicator
  lastGmPhaseChange :=
    { nsecMsb := htons tlv.lastGmPhaseChange.nsecMsb
      nsec := htonll tlv.lastGmPhaseChange.nsec
      subns := htons tlv.lastGmPhaseChange.subns }
  scaledLastGmFreqChange := (htonl tlv.scaledLastGmFreqChange.toUInt32).toInt32

def txFollowUp (message : PTPMsgFollowUp) : List UInt8 :=
  PTPFrameFollowUp.layout.store
    { head := setPtpFrameHeader message.head
      preciseOriginTimestamp := frameTimestamp message.preciseOriginTimestamp
      followUpInformationTLV :=
        frameFollowUpTLV message.followUpInformationTLV }

/-- The frame that `txAnnounce` fills, with `pathSequence` copied into it. -/
def frameAnnounce (message : PTPMsgAnnounce) (path : PathArray) :
    PTPFrameAnnounce where
  head := setPtpFrameHeader message.head
  res0 := fun _ => 0
  currentUtcOffset := (htons message.currentUtcOffset.toUInt16).toInt16
  res1 := 0
  grandmasterPriority1 := message.grandmasterPriority1
  grandmasterClockQuality :=
    { clockClass := message.grandmasterClockQuality.clockClass
      clockAccuracy := message.grandmasterClockQuality.clockAccuracy
      offsetScaledLogVariance :=
        htons message.grandmasterClockQuality.offsetScaledLogVariance }
  grandmasterPriority2 := message.grandmasterPriority2
  grandmasterIdentity := message.grandmasterIdentity
  stepsRemoved := htons message.stepsRemoved
  timeSource := message.timeSource
  pathTraceTLV :=
    { tlvType := htons message.pathTraceTLV.tlvType
      lengthField := htons message.pathTraceTLV.lengthField
      pathSequence := path }

def txAnnounce (message : PTPMsgAnnounce) : Except Fault (List UInt8) := do
  let path <- copyOctets message.pathTraceTLV.lengthField.toNat
    message.pathTraceTLV.pathSequence fun _ _ => 0
  return (PTPFrameAnnounce.layout.store (frameAnnounce message path)).take
    (PTPFrameAnnounce.layout.size - 8 * 8 +
      message.pathTraceTLV.lengthField.toNat)

/-- The octets that the transmit function of its kind sends for a message. -/
def txMsg : PTPMsg -> Except Fault (List UInt8)
  | .pdelayReq message => .ok (txPdelayReq message)
  | .pdelayResp message => .ok (txPdelayResp message)
  | .pdelayRespFollowUp message => .ok (txPdelayRespFollowUp message)
  | .sync message => .ok (txSync message)
  | .followUp message => .ok (txFollowUp message)
  | .announce message => txAnnounce message

/-!
## Reception
-/

def maxPktLen : Nat := 1600

def cpuHeaderLength : Nat := 32

def payLoadOffset : Nat := cpuHeaderLength + 14

def parseSrcPort (packet : List UInt8) : UInt16 :=
  match packet.getD 2 0 with
  | 0x01 => 1
  | 0x04 => 2
  | 0x10 => 3
  | 0x40 => 4
  | _ => 0xFFFF

/-- A packet, whose length `push_queue` has checked. -/
structure Packet where
  octets : List UInt8
  length_le : octets.length ≤ maxPktLen

/--
What `recv_ptp_frame` works on: the queue of packets, `RxBufferPtr`, and for
each port the queue of the timestamping unit, with the timestamps to come.
-/
structure Receiver where
  queue : List Packet
  rxBuffer : List UInt8
  rxTimestamps : UInt16 -> List TSUTimestamp

/-- What `malloc` leaves in the objects that `recv_ptp_frame` allocates. -/
structure Allocated where
  announce : PTPMsgAnnounce
  ts : TSUTimestamp

/-- What `recv_ptp_frame` stores behind its pointers, and its result. -/
structure Received where
  returnType : PTPMsgType
  message : PTPMsg
  ts : Option TSUTimestamp
  portNumber : UInt16

/-- The loop ends at this timestamp. -/
def Answers (msgType : PTPMsgType) (sequenceId : UInt16) (ts : TSUTimestamp) :
    Prop :=
  ts.msgType = msgType.code ∧ ts.sequenceID = sequenceId

instance (msgType : PTPMsgType) (sequenceId : UInt16) :
    DecidablePred (Answers msgType sequenceId) :=
  fun _ => inferInstanceAs (Decidable (_ ∧ _))

def awaitTimestamp (msgType : PTPMsgType) (sequenceId : UInt16) :
    List TSUTimestamp -> Except Fault (TSUTimestamp × List TSUTimestamp)
  | [] => .error .diverges
  | ts :: rest =>
      if Answers msgType sequenceId ts then .ok (ts, rest)
      else awaitTimestamp msgType sequenceId rest

/--
The calls of `tsu_rx_get_timestamp` for one frame.  For an unknown port it
leaves the allocated object as it is.
-/
def rxTimestamp (msgType : PTPMsgType) (sequenceId portNumber : UInt16)
    (allocated : TSUTimestamp) (r : Receiver) :
    Except Fault (TSUTimestamp × Receiver) :=
  if portNumber = 1 ∨ portNumber = 2 ∨ portNumber = 3 ∨ portNumber = 4 then do
    let (ts, rest) <-
      awaitTimestamp msgType sequenceId (r.rxTimestamps portNumber)
    return (ts, { r with
      rxTimestamps := Function.update r.rxTimestamps portNumber rest })
  else if Answers msgType sequenceId allocated then
    .ok (allocated, r)
  else
    .error .diverges

def msgTimestamp (t : PTPFrameTimestamp) : PTPMsgTimestamp where
  secondsMsb := ntohs t.secondsMsb
  secondsLsb := ntohl t.secondsLsb
  nanoseconds := ntohl t.nanoseconds

def recvPdelayResp (header : PTPMsgHeader) (payload : List UInt8) :
    PTPMsgPdelayResp :=
  let frame := PTPFramePdelayResp.layout.load payload
  { head := header
    requestReceiptTimestamp := msgTimestamp frame.requestReceiptTimestamp
    requestingPortIdentity :=
      { clockIdentity := frame.requestingPortIdentity.clockIdentity
        portNumber := ntohs frame.requestingPortIdentity.portNumber } }

/-- The port number of the requesting port is read without `ntohs`. -/
def recvPdelayRespFollowUp (header : PTPMsgHeader) (payload : List UInt8) :
    PTPMsgPdelayRespFollowUp :=
  let frame := PTPFramePdelayRespFollowUp.layout.load payload
  { head := header
    responseOriginTimestamp := msgTimestamp frame.responseOriginTimestamp
    requestingPortIdentity :=
      { clockIdentity := frame.requestingPortIdentity.clockIdentity
        portNumber := frame.requestingPortIdentity.portNumber } }

/-- The part of the case `FOLLOW_UP` for the information TLV. -/
def msgFollowUpTLV (tlv : PTPFrameFollowUpTLV) : PTPMsgFollowUpTLV where
  tlvType := ntohs tlv.tlvType
  lengthField := ntohs tlv.lengthField
  organizationId := tlv.organizationId
  organizationSubType := tlv.organizationSubType
  cumulativeScaledRateOffset :=
    (ntohl tlv.cumulativeScaledRateOffset.toUInt32).toInt32
  gmTimeBaseIndicator := ntohs tlv.gmTimeBaseIndicator
  lastGmPhaseChange :=
    { nsecMsb := ntohs tlv.lastGmPhaseChange.nsecMsb
      nsec := ntohll tlv.lastGmPhaseChange.nsec
      subns := ntohs tlv.lastGmPhaseChange.subns }
  scaledLastGmFreqChange := (ntohl tlv.scaledLastGmFreqChange.toUInt32).toInt32

def recvFollowUp (header : PTPMsgHeader) (payload : List UInt8) :
    PTPMsgFollowUp :=
  let frame := PTPFrameFollowUp.layout.load payload
  { head := header
    preciseOriginTimestamp := msgTimestamp frame.preciseOriginTimestamp
    followUpInformationTLV := msgFollowUpTLV frame.followUpInformationTLV }

def recvAnnounce (header : PTPMsgHeader) (allocated : PTPMsgAnnounce)
    (payload : List UInt8) : Except Fault PTPMsgAnnounce := do
  let frame := PTPFrameAnnounce.layout.load payload
  let lengthField := ntohs frame.pathTraceTLV.lengthField
  let path <- copyOctets lengthField.toNat frame.pathTraceTLV.pathSequence
    allocated.pathTraceTLV.pathSequence
  return {
    head := header
    currentUtcOffset := (ntohs frame.currentUtcOffset.toUInt16).toInt16
    grandmasterPriority1 := frame.grandmasterPriority1
    grandmasterClockQuality :=
      { clockClass := frame.grandmasterClockQuality.clockClass
        clockAccuracy := frame.grandmasterClockQuality.clockAccuracy
        offsetScaledLogVariance :=
          ntohs frame.grandmasterClockQuality.offsetScaledLogVariance }
    grandmasterPriority2 := frame.grandmasterPriority2
    grandmasterIdentity := frame.grandmasterIdentity
    stepsRemoved := ntohs frame.stepsRemoved
    timeSource := frame.timeSource
    pathTraceTLV :=
      { tlvType := ntohs frame.pathTraceTLV.tlvType
        lengthField := lengthField
        pathSequence := path } }

theorem recvAnnounce_ok_iff {header : PTPMsgHeader}
    {allocated : PTPMsgAnnounce} {payload : List UInt8} :
    (exists announce, recvAnnounce header allocated payload = .ok announce) <->
      (ntohs (PTPFrameAnnounce.layout.load payload).pathTraceTLV.lengthField
        ).toNat ≤ 64 := by
  refine Iff.trans ?_ (@exists_copyOctets_iff _
    (PTPFrameAnnounce.layout.load payload).pathTraceTLV.pathSequence
    allocated.pathTraceTLV.pathSequence)
  constructor
  · rintro ⟨_, h⟩
    obtain ⟨path, hcopy, _⟩ := bind_eq_ok.mp h
    exact ⟨path, hcopy⟩
  · rintro ⟨path, hcopy⟩
    exact ⟨_, bind_eq_ok.mpr ⟨path, hcopy, rfl⟩⟩

theorem lengthField_recvAnnounce {header : PTPMsgHeader}
    {allocated announce : PTPMsgAnnounce} {payload : List UInt8}
    (h : recvAnnounce header allocated payload = .ok announce) :
    announce.pathTraceTLV.lengthField =
      ntohs (PTPFrameAnnounce.layout.load payload).pathTraceTLV.lengthField := by
  obtain ⟨_, _, hreturn⟩ := bind_eq_ok.mp h
  cases hreturn
  rfl

/-- A received message has a path trace that fits its array. -/
theorem lengthField_of_recvAnnounce {header : PTPMsgHeader}
    {allocated announce : PTPMsgAnnounce} {payload : List UInt8}
    (h : recvAnnounce header allocated payload = .ok announce) :
    announce.pathTraceTLV.lengthField.toNat ≤ 64 := by
  rw [lengthField_recvAnnounce h]
  exact recvAnnounce_ok_iff.mp ⟨announce, h⟩

def msgTypeOfCode (code : UInt8) : Option PTPMsgType :=
  match code with
  | 0 => some .sync
  | 2 => some .pdelayReq
  | 3 => some .pdelayResp
  | 8 => some .followUp
  | 10 => some .pdelayRespFollowUp
  | 11 => some .announce
  | _ => none

/-- The cases of the `switch`, without the timestamps. -/
def recvMsg (msgType : PTPMsgType) (header : PTPMsgHeader)
    (allocated : Allocated) (payload : List UInt8) : Except Fault PTPMsg :=
  match msgType with
  | .pdelayReq => .ok (.pdelayReq { head := header })
  | .pdelayResp => .ok (.pdelayResp (recvPdelayResp header payload))
  | .pdelayRespFollowUp =>
      .ok (.pdelayRespFollowUp (recvPdelayRespFollowUp header payload))
  | .sync => .ok (.sync { head := header })
  | .followUp => .ok (.followUp (recvFollowUp header payload))
  | .announce => do
      let message <- recvAnnounce header allocated.announce payload
      return .announce message

/-- The kinds of messages that the hardware timestamps. -/
def isEvent : PTPMsgType -> Bool
  | .pdelayReq => true
  | .pdelayResp => true
  | .sync => true
  | _ => false

/-- The timestamp that a case of the `switch` fetches, if it fetches one. -/
def recvTimestamp (msgType : PTPMsgType) (header : PTPMsgHeader)
    (portNumber : UInt16) (allocated : Allocated) (r : Receiver) :
    Except Fault (Option TSUTimestamp × Receiver) :=
  if isEvent msgType then do
    let (ts, r) <-
      rxTimestamp msgType header.sequenceId portNumber allocated.ts r
    return (some ts, r)
  else
    .ok (none, r)

/-- The case of the `switch` for a frame that lies in `RxBufferPtr`. -/
def recvFrame (allocated : Allocated) (r : Receiver) :
    Except Fault (Option Received × Receiver) :=
  let payload := r.rxBuffer.drop payLoadOffset
  let header := getPtpMsgHeader (PTPFrameHeader.layout.load payload)
  let portNumber := parseSrcPort r.rxBuffer
  match msgTypeOfCode header.messageType with
  | none => .ok (none, r)
  | some msgType => do
      let message <- recvMsg msgType header allocated payload
      let (ts, r) <- recvTimestamp msgType header portNumber allocated r
      return (some
        { returnType := msgType
          message := message
          ts := ts
          portNumber := portNumber }, r)

/-- `recv_ptp_frame`, which has no message as result for `NO_FRAME`. -/
def recvPtpFrame (allocated : Allocated) (r : Receiver) :
    Except Fault (Option Received × Receiver) :=
  match r.queue with
  | [] => .ok (none, r)
  | packet :: queue =>
      -- `pop_queue` overwrites the first octets of the buffer.
      recvFrame allocated
        { r with
          queue := queue
          rxBuffer := packet.octets ++ r.rxBuffer.drop packet.octets.length }

end TimeSync
end Ziggo
