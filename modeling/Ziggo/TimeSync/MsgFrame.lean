import Ziggo.Foundation.Layout
import Ziggo.TsnDrivers.PtpTypes

/-!
# PTP frames

The packed structures of `msg_frame.h`, the conversions between host and
network order, and the common header.  The host is little-endian.
-/

namespace Ziggo
namespace TimeSync

open Foundation TsnDrivers

/-!
## Host and network order
-/

def htons (h : UInt16) : UInt16 := Layout.word.swap h
def ntohs (n : UInt16) : UInt16 := Layout.word.swap n
def htonl (h : UInt32) : UInt32 := Layout.dword.swap h
def ntohl (n : UInt32) : UInt32 := Layout.dword.swap n
def htonll (h : UInt64) : UInt64 := Layout.qword.swap h
def ntohll (n : UInt64) : UInt64 := Layout.qword.swap n

@[simp] theorem ntohs_htons (h : UInt16) : ntohs (htons h) = h :=
  Layout.word.swap_swap h

@[simp] theorem ntohl_htonl (h : UInt32) : ntohl (htonl h) = h :=
  Layout.dword.swap_swap h

@[simp] theorem ntohll_htonll (h : UInt64) : ntohll (htonll h) = h :=
  Layout.qword.swap_swap h

@[simp] theorem htons_ntohs (n : UInt16) : htons (ntohs n) = n :=
  Layout.word.swap_swap n

@[simp] theorem htonll_ntohll (n : UInt64) : htonll (ntohll n) = n :=
  Layout.qword.swap_swap n

/-!
## Frames
-/

open Layout

def clockIdentityLayout : Layout ClockIdentity :=
  array clockIdentityLength octet

structure PTPFrameTimestamp where
  secondsMsb : UInt16
  secondsLsb : UInt32
  nanoseconds : UInt32

def PTPFrameTimestamp.layout : Layout PTPFrameTimestamp :=
  (word.pair (dword.pair dword)).iso
    ⟨fun ⟨a, b, c⟩ => ⟨a, b, c⟩,
      fun ⟨a, b, c⟩ => ⟨a, b, c⟩,
      fun _ => rfl, fun _ => rfl⟩

structure PTPFramePortIdentity where
  clockIdentity : ClockIdentity
  portNumber : UInt16

def PTPFramePortIdentity.layout : Layout PTPFramePortIdentity :=
  (clockIdentityLayout.pair word).iso
    ⟨fun ⟨a, b⟩ => ⟨a, b⟩,
      fun ⟨a, b⟩ => ⟨a, b⟩,
      fun _ => rfl, fun _ => rfl⟩

structure PTPFrameHeader where
  majorSdoIdMessageType : UInt8
  minorVersionPTPVersionPTP : UInt8
  messageLength : UInt16
  domainNumber : UInt8
  minorSdoId : UInt8
  flags : Fin 2 -> UInt8
  correctionField : Int64
  messageTypeSpecific : Fin 4 -> UInt8
  sourcePortIdentity : PTPFramePortIdentity
  sequenceId : UInt16
  controlField : UInt8
  logMessageInterval : Int8

def PTPFrameHeader.layout : Layout PTPFrameHeader :=
  (octet.pair (octet.pair (word.pair (octet.pair (octet.pair
    ((array 2 octet).pair (signedQword.pair ((array 4 octet).pair
      (PTPFramePortIdentity.layout.pair
        (word.pair (octet.pair signedOctet))))))))))).iso
    ⟨fun ⟨a, b, c, d, e, f, g, h, i, j, k, l⟩ =>
        ⟨a, b, c, d, e, f, g, h, i, j, k, l⟩,
      fun ⟨a, b, c, d, e, f, g, h, i, j, k, l⟩ =>
        ⟨a, b, c, d, e, f, g, h, i, j, k, l⟩,
      fun _ => rfl, fun _ => rfl⟩

structure PTPFramePdelayReq where
  head : PTPFrameHeader
  res0 : Fin 10 -> UInt8
  res1 : Fin 10 -> UInt8

def PTPFramePdelayReq.layout : Layout PTPFramePdelayReq :=
  (PTPFrameHeader.layout.pair ((array 10 octet).pair (array 10 octet))).iso
    ⟨fun ⟨a, b, c⟩ => ⟨a, b, c⟩,
      fun ⟨a, b, c⟩ => ⟨a, b, c⟩,
      fun _ => rfl, fun _ => rfl⟩

structure PTPFramePdelayResp where
  head : PTPFrameHeader
  requestReceiptTimestamp : PTPFrameTimestamp
  requestingPortIdentity : PTPFramePortIdentity

def PTPFramePdelayResp.layout : Layout PTPFramePdelayResp :=
  (PTPFrameHeader.layout.pair
    (PTPFrameTimestamp.layout.pair PTPFramePortIdentity.layout)).iso
    ⟨fun ⟨a, b, c⟩ => ⟨a, b, c⟩,
      fun ⟨a, b, c⟩ => ⟨a, b, c⟩,
      fun _ => rfl, fun _ => rfl⟩

structure PTPFramePdelayRespFollowUp where
  head : PTPFrameHeader
  responseOriginTimestamp : PTPFrameTimestamp
  requestingPortIdentity : PTPFramePortIdentity

def PTPFramePdelayRespFollowUp.layout : Layout PTPFramePdelayRespFollowUp :=
  (PTPFrameHeader.layout.pair
    (PTPFrameTimestamp.layout.pair PTPFramePortIdentity.layout)).iso
    ⟨fun ⟨a, b, c⟩ => ⟨a, b, c⟩,
      fun ⟨a, b, c⟩ => ⟨a, b, c⟩,
      fun _ => rfl, fun _ => rfl⟩

structure PTPFrameSync where
  head : PTPFrameHeader
  res : Fin 10 -> UInt8

def PTPFrameSync.layout : Layout PTPFrameSync :=
  (PTPFrameHeader.layout.pair (array 10 octet)).iso
    ⟨fun ⟨a, b⟩ => ⟨a, b⟩,
      fun ⟨a, b⟩ => ⟨a, b⟩,
      fun _ => rfl, fun _ => rfl⟩

structure PTPFrameUScaledNs where
  nsecMsb : UInt16
  nsec : UInt64
  subns : UInt16

def PTPFrameUScaledNs.layout : Layout PTPFrameUScaledNs :=
  (word.pair (qword.pair word)).iso
    ⟨fun ⟨a, b, c⟩ => ⟨a, b, c⟩,
      fun ⟨a, b, c⟩ => ⟨a, b, c⟩,
      fun _ => rfl, fun _ => rfl⟩

structure PTPFrameFollowUpTLV where
  tlvType : UInt16
  lengthField : UInt16
  organizationId : Fin 3 -> UInt8
  organizationSubType : Fin 3 -> UInt8
  cumulativeScaledRateOffset : Int32
  gmTimeBaseIndicator : UInt16
  lastGmPhaseChange : PTPFrameUScaledNs
  scaledLastGmFreqChange : Int32

def PTPFrameFollowUpTLV.layout : Layout PTPFrameFollowUpTLV :=
  (word.pair (word.pair ((array 3 octet).pair ((array 3 octet).pair
    (signedDword.pair (word.pair
      (PTPFrameUScaledNs.layout.pair signedDword))))))).iso
    ⟨fun ⟨a, b, c, d, e, f, g, h⟩ => ⟨a, b, c, d, e, f, g, h⟩,
      fun ⟨a, b, c, d, e, f, g, h⟩ => ⟨a, b, c, d, e, f, g, h⟩,
      fun _ => rfl, fun _ => rfl⟩

structure PTPFrameFollowUp where
  head : PTPFrameHeader
  preciseOriginTimestamp : PTPFrameTimestamp
  followUpInformationTLV : PTPFrameFollowUpTLV

def PTPFrameFollowUp.layout : Layout PTPFrameFollowUp :=
  (PTPFrameHeader.layout.pair
    (PTPFrameTimestamp.layout.pair PTPFrameFollowUpTLV.layout)).iso
    ⟨fun ⟨a, b, c⟩ => ⟨a, b, c⟩,
      fun ⟨a, b, c⟩ => ⟨a, b, c⟩,
      fun _ => rfl, fun _ => rfl⟩

structure PTPFrameClockQuality where
  clockClass : UInt8
  clockAccuracy : UInt8
  offsetScaledLogVariance : UInt16

def PTPFrameClockQuality.layout : Layout PTPFrameClockQuality :=
  (octet.pair (octet.pair word)).iso
    ⟨fun ⟨a, b, c⟩ => ⟨a, b, c⟩,
      fun ⟨a, b, c⟩ => ⟨a, b, c⟩,
      fun _ => rfl, fun _ => rfl⟩

structure PTPFramePathTraceTLV where
  tlvType : UInt16
  lengthField : UInt16
  pathSequence : Fin maxPathTraceN -> ClockIdentity

structure PTPFrameAnnounce where
  head : PTPFrameHeader
  res0 : Fin 10 -> UInt8
  currentUtcOffset : Int16
  res1 : UInt8
  grandmasterPriority1 : UInt8
  grandmasterClockQuality : PTPFrameClockQuality
  grandmasterPriority2 : UInt8
  grandmasterIdentity : ClockIdentity
  stepsRemoved : UInt16
  timeSource : UInt8
  pathTraceTLV : PTPFramePathTraceTLV

/-- The fields before the array for the path. -/
def PTPFrameAnnounce.fixedLayout :=
  PTPFrameHeader.layout.pair ((array 10 octet).pair (signedWord.pair
    (octet.pair (octet.pair (PTPFrameClockQuality.layout.pair (octet.pair
      (clockIdentityLayout.pair (word.pair (octet.pair
        (word.pair word))))))))))

def pathSequenceLayout : Layout (Fin maxPathTraceN -> ClockIdentity) :=
  array maxPathTraceN clockIdentityLayout

def PTPFrameAnnounce.layout : Layout PTPFrameAnnounce :=
  (PTPFrameAnnounce.fixedLayout.pair pathSequenceLayout).iso
    ⟨fun ⟨⟨a, b, c, d, e, f, g, h, i, j, k, l⟩, m⟩ =>
        ⟨a, b, c, d, e, f, g, h, i, j, ⟨k, l, m⟩⟩,
      fun ⟨a, b, c, d, e, f, g, h, i, j, ⟨k, l, m⟩⟩ =>
        ⟨⟨a, b, c, d, e, f, g, h, i, j, k, l⟩, m⟩,
      fun _ => rfl, fun _ => rfl⟩

def PTPFrameAnnounce.withPath (frame : PTPFrameAnnounce)
    (path : Fin maxPathTraceN -> ClockIdentity) : PTPFrameAnnounce :=
  { frame with
    pathTraceTLV := { frame.pathTraceTLV with pathSequence := path } }

theorem PTPFrameAnnounce.load_take_store (frame : PTPFrameAnnounce)
    (count : Nat) (rest : List UInt8) :
    PTPFrameAnnounce.layout.load
        ((PTPFrameAnnounce.layout.store frame).take
          (PTPFrameAnnounce.fixedLayout.size + count) ++ rest) =
      frame.withPath (pathSequenceLayout.load
        ((pathSequenceLayout.store frame.pathTraceTLV.pathSequence).take
          count ++ rest)) := by
  unfold PTPFrameAnnounce.layout
  simp only [iso, load_take_store_pair]
  rfl

/-!
## The common header
-/

def setPtpFrameHeader (header : PTPMsgHeader) : PTPFrameHeader where
  majorSdoIdMessageType := header.majorSdoId <<< 4 ||| header.messageType
  minorVersionPTPVersionPTP :=
    header.minorVersionPTP <<< 4 ||| header.versionPTP
  messageLength := htons header.messageLength
  domainNumber := header.domainNumber
  minorSdoId := header.minorSdoId
  flags := header.flags
  correctionField := (htonll header.correctionField.toUInt64).toInt64
  messageTypeSpecific := header.messageTypeSpecific
  sourcePortIdentity :=
    { clockIdentity := header.sourcePortIdentity.clockIdentity
      portNumber := htons header.sourcePortIdentity.portNumber }
  sequenceId := htons header.sequenceId
  controlField := header.controlField
  logMessageInterval := header.logMessageInterval

def getPtpMsgHeader (frameHeader : PTPFrameHeader) : PTPMsgHeader where
  majorSdoId := (frameHeader.majorSdoIdMessageType >>> 4) &&& 0xF
  messageType := frameHeader.majorSdoIdMessageType &&& 0xF
  minorVersionPTP := (frameHeader.minorVersionPTPVersionPTP >>> 4) &&& 0xF
  versionPTP := frameHeader.minorVersionPTPVersionPTP &&& 0xF
  messageLength := ntohs frameHeader.messageLength
  domainNumber := frameHeader.domainNumber
  minorSdoId := frameHeader.minorSdoId
  flags := frameHeader.flags
  correctionField := (ntohll frameHeader.correctionField.toUInt64).toInt64
  messageTypeSpecific := frameHeader.messageTypeSpecific
  sourcePortIdentity :=
    { clockIdentity := frameHeader.sourcePortIdentity.clockIdentity
      portNumber := ntohs frameHeader.sourcePortIdentity.portNumber }
  sequenceId := ntohs frameHeader.sequenceId
  controlField := frameHeader.controlField
  logMessageInterval := frameHeader.logMessageInterval

/-- The fields of type `Nibble` and of the other four-bit types fit. -/
structure Nibbles (header : PTPMsgHeader) : Prop where
  majorSdoId : header.majorSdoId < 16
  messageType : header.messageType < 16
  minorVersionPTP : header.minorVersionPTP < 16
  versionPTP : header.versionPTP < 16

theorem nibbles_all : forall a b : Fin 16,
    ((UInt8.ofNat a <<< 4 ||| UInt8.ofNat b) >>> 4) &&& 0xF = UInt8.ofNat a ∧
      (UInt8.ofNat a <<< 4 ||| UInt8.ofNat b) &&& 0xF = UInt8.ofNat b := by
  decide +kernel

/-- Two nibbles can be read back from the octet that holds them. -/
theorem nibbles {a b : UInt8} (ha : a < 16) (hb : b < 16) :
    ((a <<< 4 ||| b) >>> 4) &&& 0xF = a ∧ (a <<< 4 ||| b) &&& 0xF = b := by
  have h := nibbles_all ⟨a.toNat, UInt8.lt_iff_toNat_lt.mp ha⟩
    ⟨b.toNat, UInt8.lt_iff_toNat_lt.mp hb⟩
  simpa only [UInt8.ofNat_toNat] using h

theorem getPtpMsgHeader_setPtpFrameHeader {header : PTPMsgHeader}
    (h : Nibbles header) :
    getPtpMsgHeader (setPtpFrameHeader header) = header := by
  obtain ⟨hmajor, htype⟩ := nibbles h.majorSdoId h.messageType
  obtain ⟨hminor, hversion⟩ := nibbles h.minorVersionPTP h.versionPTP
  cases header
  simp only [getPtpMsgHeader, setPtpFrameHeader, ntohs_htons,
    UInt64.toUInt64_toInt64, ntohll_htonll, Int64.toInt64_toUInt64,
    hmajor, htype, hminor, hversion]

theorem octet_all : forall a : Fin 256,
    (UInt8.ofNat a >>> 4) &&& 0xF < 16 ∧ UInt8.ofNat a &&& 0xF < 16 ∧
      ((UInt8.ofNat a >>> 4) &&& 0xF) <<< 4 ||| (UInt8.ofNat a &&& 0xF) =
        UInt8.ofNat a := by
  decide +kernel

theorem octet_of_nibbles (a : UInt8) :
    (a >>> 4) &&& 0xF < 16 ∧ a &&& 0xF < 16 ∧
      ((a >>> 4) &&& 0xF) <<< 4 ||| (a &&& 0xF) = a := by
  have h := octet_all ⟨a.toNat, a.toNat_lt⟩
  simpa only [UInt8.ofNat_toNat] using h

theorem nibbles_getPtpMsgHeader (frameHeader : PTPFrameHeader) :
    Nibbles (getPtpMsgHeader frameHeader) where
  majorSdoId := (octet_of_nibbles frameHeader.majorSdoIdMessageType).left
  messageType := (octet_of_nibbles frameHeader.majorSdoIdMessageType).right.left
  minorVersionPTP :=
    (octet_of_nibbles frameHeader.minorVersionPTPVersionPTP).left
  versionPTP :=
    (octet_of_nibbles frameHeader.minorVersionPTPVersionPTP).right.left

theorem setPtpFrameHeader_getPtpMsgHeader (frameHeader : PTPFrameHeader) :
    setPtpFrameHeader (getPtpMsgHeader frameHeader) = frameHeader := by
  obtain ⟨_, _, hmajor⟩ := octet_of_nibbles frameHeader.majorSdoIdMessageType
  obtain ⟨_, _, hminor⟩ :=
    octet_of_nibbles frameHeader.minorVersionPTPVersionPTP
  cases frameHeader
  simp only [getPtpMsgHeader, setPtpFrameHeader, htons_ntohs,
    UInt64.toUInt64_toInt64, htonll_ntohll, Int64.toInt64_toUInt64,
    hmajor, hminor]

/--
The octets of a header and its fields determine each other: what is read is in
the range of the fields, and nothing is lost in either direction.
-/
theorem header_codec_bijective :
    (forall memory : List UInt8, memory.length = 34 ->
      Nibbles (getPtpMsgHeader (PTPFrameHeader.layout.load memory)) ∧
        PTPFrameHeader.layout.store (setPtpFrameHeader
          (getPtpMsgHeader (PTPFrameHeader.layout.load memory))) = memory) ∧
      forall header : PTPMsgHeader, Nibbles header ->
        (PTPFrameHeader.layout.store (setPtpFrameHeader header)).length = 34 ∧
          getPtpMsgHeader (PTPFrameHeader.layout.load
            (PTPFrameHeader.layout.store (setPtpFrameHeader header))) =
              header := by
  constructor
  · intro memory hlength
    rw [setPtpFrameHeader_getPtpMsgHeader]
    exact ⟨nibbles_getPtpMsgHeader _,
      PTPFrameHeader.layout.store_load memory hlength⟩
  · intro header hnibbles
    rw [load_store_self, getPtpMsgHeader_setPtpFrameHeader hnibbles]
    exact ⟨PTPFrameHeader.layout.length_store _, rfl⟩

def followUpHeader : PTPMsgHeader where
  majorSdoId := 1
  messageType := 8
  minorVersionPTP := 3
  versionPTP := 2
  messageLength := 76
  domainNumber := 5
  minorSdoId := 6
  flags := ![0x12, 0x34]
  correctionField := -70000
  messageTypeSpecific := ![0x56, 0x78, 0x9A, 0xBC]
  sourcePortIdentity :=
    { clockIdentity := fun i => UInt8.ofNat (0xD0 + i), portNumber := 4 }
  sequenceId := 0xABCD
  controlField := 7
  logMessageInterval := -3

def ascendingOctets : List UInt8 :=
  (List.range 34).map fun i => UInt8.ofNat (0x40 + i)

theorem header_codec_ascending :
    PTPFrameHeader.layout.store (setPtpFrameHeader (getPtpMsgHeader
        (PTPFrameHeader.layout.load ascendingOctets))) = ascendingOctets ∧
      getPtpMsgHeader (PTPFrameHeader.layout.load (PTPFrameHeader.layout.store
        (setPtpFrameHeader followUpHeader))) = followUpHeader :=
  ⟨(header_codec_bijective.left ascendingOctets (by decide)).right,
    (header_codec_bijective.right followUpHeader
      ⟨by decide, by decide, by decide, by decide⟩).right⟩

end TimeSync
end Ziggo
