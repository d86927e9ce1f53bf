import Ziggo.TimeSync.EthFrame

/-!
# Sent and received messages

A message survives the way over the wire unless it is a
`Pdelay_Resp_Follow_Up`: `txPdelayRespFollowUp` converts the port number of the
requesting port to network order, and `recv_ptp_frame` does not convert it back.
-/

namespace Ziggo
namespace TimeSync

open Foundation TsnDrivers

/-!
## Messages of all kinds
-/

namespace PTPMsg

def kind : PTPMsg -> PTPMsgType
  | pdelayReq _ => .pdelayReq
  | pdelayResp _ => .pdelayResp
  | pdelayRespFollowUp _ => .pdelayRespFollowUp
  | sync _ => .sync
  | followUp _ => .followUp
  | announce _ => .announce

def head : PTPMsg -> PTPMsgHeader
  | pdelayReq message => message.head
  | pdelayResp message => message.head
  | pdelayRespFollowUp message => message.head
  | sync message => message.head
  | followUp message => message.head
  | announce message => message.head

/-- A message of its kind, with a path trace of whole entries. -/
structure WellFormed (message : PTPMsg) : Prop where
  nibbles : Nibbles message.head
  messageType : message.head.messageType = message.kind.code
  path : forall announce, message = .announce announce ->
    exists count, count ≤ maxPathTraceN ∧
      announce.pathTraceTLV.lengthField.toNat = count * clockIdentityLength

/--
Equality in every field.  The array for the path belongs to the message up to
the number of entries that its length field gives.
-/
def Agrees : PTPMsg -> PTPMsg -> Prop
  | .announce a, .announce b =>
      a.path = b.path ∧
        a = { b with
          pathTraceTLV :=
            { b.pathTraceTLV with
              pathSequence := a.pathTraceTLV.pathSequence } }
  | a, b => a = b

/-- The octets of the port number that is not converted back are equal. -/
def Symmetric : PTPMsg -> Prop
  | .pdelayRespFollowUp message =>
      message.requestingPortIdentity.portNumber % 256 =
        message.requestingPortIdentity.portNumber / 256
  | _ => True

end PTPMsg

theorem msgTypeOfCode_code (msgType : PTPMsgType) :
    msgTypeOfCode msgType.code = some msgType := by
  cases msgType <;> rfl

/-!
## One kind of message at a time
-/

section Kinds

variable (rest : List UInt8)

@[simp] theorem msgTimestamp_frameTimestamp (t : PTPMsgTimestamp) :
    msgTimestamp (frameTimestamp t) = t := by
  simp only [msgTimestamp, frameTimestamp, ntohs_htons, ntohl_htonl]

@[simp] theorem msgFollowUpTLV_frameFollowUpTLV (tlv : PTPMsgFollowUpTLV) :
    msgFollowUpTLV (frameFollowUpTLV tlv) = tlv := by
  simp only [msgFollowUpTLV, frameFollowUpTLV, ntohs_htons, ntohl_htonl,
    ntohll_htonll, UInt32.toUInt32_toInt32, Int32.toInt32_toUInt32]

theorem recvPdelayResp_txPdelayResp (message : PTPMsgPdelayResp) :
    recvPdelayResp message.head (txPdelayResp message ++ rest) = message := by
  simp only [recvPdelayResp, txPdelayResp, Layout.load_store,
    msgTimestamp_frameTimestamp, framePortIdentity, ntohs_htons]

theorem recvPdelayRespFollowUp_txPdelayRespFollowUp
    (message : PTPMsgPdelayRespFollowUp) :
    recvPdelayRespFollowUp message.head
        (txPdelayRespFollowUp message ++ rest) =
      { message with
        requestingPortIdentity :=
          { message.requestingPortIdentity with
            portNumber :=
              htons message.requestingPortIdentity.portNumber } } := by
  simp only [recvPdelayRespFollowUp, txPdelayRespFollowUp, Layout.load_store,
    msgTimestamp_frameTimestamp, framePortIdentity]

theorem recvFollowUp_txFollowUp (message : PTPMsgFollowUp) :
    recvFollowUp message.head (txFollowUp message ++ rest) = message := by
  simp only [recvFollowUp, txFollowUp, Layout.load_store,
    msgTimestamp_frameTimestamp, msgFollowUpTLV_frameFollowUpTLV]

theorem recvAnnounce_txAnnounce {message : PTPMsgAnnounce}
    {payload : List UInt8} (h : txAnnounce message = .ok payload)
    (allocated : PTPMsgAnnounce) :
    exists path,
      recvAnnounce message.head allocated (payload ++ rest) =
          .ok { message with
            pathTraceTLV :=
              { message.pathTraceTLV with pathSequence := path } } ∧
        forall count,
          message.pathTraceTLV.lengthField.toNat =
            count * clockIdentityLength ->
          entries path count =
            entries message.pathTraceTLV.pathSequence count := by
  obtain ⟨sent, hsent, hpayload⟩ := bind_eq_ok.mp h
  -- The array as the receiver sees it, with other octets behind the path.
  have hload : exists arrived : PathArray,
      PTPFrameAnnounce.layout.load (payload ++ rest) =
          (frameAnnounce message sent).withPath arrived ∧
        forall i j,
          clockIdentityLength * i.val + j.val <
            message.pathTraceTLV.lengthField.toNat ->
          arrived i j = sent i j := by
    cases hpayload
    exact ⟨_, PTPFrameAnnounce.load_take_store _ _ rest,
      fun i j hij => Layout.load_take_store_array sent rest hij⟩
  obtain ⟨arrived, hframe, harrived⟩ := hload
  obtain ⟨path, hpath⟩ : exists path,
      copyOctets message.pathTraceTLV.lengthField.toNat arrived
        allocated.pathTraceTLV.pathSequence = .ok path :=
    exists_copyOctets_iff.mpr (exists_copyOctets_iff.mp ⟨sent, hsent⟩)
  refine ⟨path, ?_, fun count hcount => ?_⟩
  · unfold recvAnnounce
    simp only [hframe, PTPFrameAnnounce.withPath, frameAnnounce, ntohs_htons,
      UInt16.toUInt16_toInt16, Int16.toInt16_toUInt16]
    rw [hpath]
    rfl
  · rw [hcount] at hpath hsent harrived
    have hcongr : entries arrived count = entries sent count := by
      refine entries_congr fun i hi => funext fun j => harrived i j ?_
      have hj : j.val < 8 := j.isLt
      change 8 * i.val + j.val < count * 8
      omega
    rw [entries_copyOctets hpath, hcongr, entries_copyOctets hsent]

end Kinds

/-!
## All kinds
-/

section Messages

variable {message : PTPMsg} {payload : List UInt8}

theorem load_header (h : txMsg message = .ok payload) (rest : List UInt8) :
    PTPFrameHeader.layout.load (payload ++ rest) =
      setPtpFrameHeader message.head := by
  cases message with
  | pdelayReq m =>
      cases h
      exact congrArg PTPFramePdelayReq.head
        (PTPFramePdelayReq.layout.load_store _ rest)
  | pdelayResp m =>
      cases h
      exact congrArg PTPFramePdelayResp.head
        (PTPFramePdelayResp.layout.load_store _ rest)
  | pdelayRespFollowUp m =>
      cases h
      exact congrArg PTPFramePdelayRespFollowUp.head
        (PTPFramePdelayRespFollowUp.layout.load_store _ rest)
  | sync m =>
      cases h
      exact congrArg PTPFrameSync.head (PTPFrameSync.layout.load_store _ rest)
  | followUp m =>
      cases h
      exact congrArg PTPFrameFollowUp.head (PTPFrameFollowUp.layout.load_store _ rest)
  | announce m =>
      obtain ⟨sent, _, hpayload⟩ := bind_eq_ok.mp h
      cases hpayload
      exact congrArg PTPFrameAnnounce.head
        (PTPFrameAnnounce.load_take_store (frameAnnounce m sent)
          m.pathTraceTLV.lengthField.toNat rest)

theorem htons_eq_self_iff (n : UInt16) : htons n = n <-> n % 256 = n / 256 :=
  Layout.swap_word_eq_self_iff n

/-- What arrives is what was sent, up to the order of two octets. -/
theorem recvMsg_txMsg (hm : message.WellFormed)
    (h : txMsg message = .ok payload) (allocated : Allocated)
    (rest : List UInt8) :
    exists received,
      recvMsg message.kind message.head allocated (payload ++ rest) =
          .ok received ∧
        (received.Agrees message <-> message.Symmetric) := by
  cases message with
  | pdelayReq m => exact ⟨.pdelayReq m, rfl, iff_of_true rfl trivial⟩
  | pdelayResp m =>
      cases h
      refine ⟨.pdelayResp m, ?_, iff_of_true rfl trivial⟩
      exact congrArg (fun r => Except.ok (PTPMsg.pdelayResp r))
        (recvPdelayResp_txPdelayResp rest m)
  | pdelayRespFollowUp m =>
      cases h
      refine ⟨_, congrArg (fun r => Except.ok (PTPMsg.pdelayRespFollowUp r))
        (recvPdelayRespFollowUp_txPdelayRespFollowUp rest m), ?_⟩
      refine Iff.trans ?_
        (htons_eq_self_iff m.requestingPortIdentity.portNumber)
      constructor
      · intro hagrees
        exact congrArg
          (fun r => r.requestingPortIdentity.portNumber)
          (PTPMsg.pdelayRespFollowUp.inj hagrees)
      · intro hport
        simp only [PTPMsg.Agrees, hport]
  | sync m => exact ⟨.sync m, rfl, iff_of_true rfl trivial⟩
  | followUp m =>
      cases h
      refine ⟨.followUp m, ?_, iff_of_true rfl trivial⟩
      exact congrArg (fun r => Except.ok (PTPMsg.followUp r))
        (recvFollowUp_txFollowUp rest m)
  | announce m =>
      obtain ⟨path, hrecv, hentries⟩ :=
        recvAnnounce_txAnnounce rest h allocated.announce
      obtain ⟨count, _, hcount⟩ := hm.path m rfl
      have hpathCount : m.pathCount = count := by
        unfold PTPMsgAnnounce.pathCount
        rw [hcount]
        exact Nat.mul_div_cancel count (by decide)
      refine ⟨.announce { m with
        pathTraceTLV := { m.pathTraceTLV with pathSequence := path } },
        ?_, iff_of_true ⟨?_, rfl⟩ trivial⟩
      · change (recvAnnounce m.head allocated.announce _ >>= _) = _
        rw [hrecv]
        rfl
      · change entries path m.pathCount = entries _ m.pathCount
        rw [hpathCount]
        exact hentries count hcount

end Messages

/-!
## Delivery
-/

/-- A packet that carries a message to a port, and the receiver it reaches. -/
structure Delivery (message : PTPMsg) where
  payload : List UInt8
  sent : txMsg message = .ok payload
  cpuHeader : List UInt8
  length_cpuHeader : cpuHeader.length = cpuHeaderLength
  /-- The header names a port. -/
  srcPort : parseSrcPort cpuHeader ≠ 0xFFFF
  ethHeader : List UInt8
  length_ethHeader : ethHeader.length = 14
  padding : List UInt8
  length_le :
    (cpuHeader ++ ethHeader ++ payload ++ padding).length ≤ maxPktLen
  /-- The receiver before the packet has reached the head of its queue. -/
  receiver : Receiver
  /-- The hardware has a timestamp for the frame if it is an event message. -/
  timestamped : isEvent message.kind = true ->
    exists ts, ts ∈ receiver.rxTimestamps (parseSrcPort cpuHeader) ∧
      Answers message.kind message.head.sequenceId ts

namespace Delivery

variable {message : PTPMsg} (d : Delivery message)

def packet : Packet where
  octets := d.cpuHeader ++ d.ethHeader ++ d.payload ++ d.padding
  length_le := d.length_le

/-- The receiver when the packet is the next one. -/
def arrived : Receiver :=
  { d.receiver with queue := d.packet :: d.receiver.queue }

end Delivery

theorem parseSrcPort_known {packet : List UInt8}
    (h : parseSrcPort packet ≠ 0xFFFF) :
    parseSrcPort packet = 1 ∨ parseSrcPort packet = 2 ∨
      parseSrcPort packet = 3 ∨ parseSrcPort packet = 4 := by
  unfold parseSrcPort at h ⊢
  split at h
  · exact Or.inl rfl
  · exact Or.inr (Or.inl rfl)
  · exact Or.inr (Or.inr (Or.inl rfl))
  · exact Or.inr (Or.inr (Or.inr rfl))
  · exact absurd rfl h

theorem parseSrcPort_append {packet : List UInt8} (h : 2 < packet.length)
    (rest : List UInt8) :
    parseSrcPort (packet ++ rest) = parseSrcPort packet := by
  have hoctet : (packet ++ rest).getD 2 0 = packet.getD 2 0 := by
    rw [List.getD_eq_getElem?_getD, List.getD_eq_getElem?_getD,
      List.getElem?_append_left h]
  unfold parseSrcPort
  rw [hoctet]

theorem awaitTimestamp_eq_ok {msgType : PTPMsgType} {sequenceId : UInt16}
    {fifo : List TSUTimestamp} {ts : TSUTimestamp} (hmem : ts ∈ fifo)
    (h : Answers msgType sequenceId ts) :
    exists first rest,
      awaitTimestamp msgType sequenceId fifo = .ok (first, rest) := by
  induction fifo with
  | nil => cases hmem
  | cons head fifo ih =>
      unfold awaitTimestamp
      split
      · exact ⟨head, fifo, rfl⟩
      case isFalse hnot =>
        cases hmem with
        | head => exact absurd h hnot
        | tail _ htail => exact ih htail

theorem recvTimestamp_eq_ok {message : PTPMsg} (d : Delivery message)
    (allocated : Allocated) (r : Receiver)
    (hr : r.rxTimestamps = d.receiver.rxTimestamps) :
    exists ts r',
      recvTimestamp message.kind message.head (parseSrcPort d.cpuHeader)
        allocated r = .ok (ts, r') := by
  unfold recvTimestamp
  split
  case isTrue hevent =>
    obtain ⟨ts, hmem, hanswers⟩ := d.timestamped hevent
    obtain ⟨first, rest, hawait⟩ := awaitTimestamp_eq_ok hmem hanswers
    refine ⟨some first,
      { r with rxTimestamps :=
          Function.update r.rxTimestamps (parseSrcPort d.cpuHeader) rest },
      ?_⟩
    rw [rxTimestamp, if_pos (parseSrcPort_known d.srcPort), hr, hawait]
    rfl
  case isFalse => exact ⟨none, r, rfl⟩

/-- Every message of every kind, and every way of delivering it. -/
theorem recvPtpFrame_agrees_iff {message : PTPMsg} (hm : message.WellFormed)
    (d : Delivery message) (allocated : Allocated) :
    (exists received r,
      recvPtpFrame allocated d.arrived = .ok (some received, r) ∧
        received.returnType = message.kind ∧
        received.message.Agrees message) <-> message.Symmetric := by
  let r : Receiver :=
    { d.arrived with
      queue := d.receiver.queue
      rxBuffer := d.packet.octets ++
        d.receiver.rxBuffer.drop d.packet.octets.length }
  have hbuffer : exists rest, r.rxBuffer =
      d.cpuHeader ++ (d.ethHeader ++ (d.payload ++ rest)) := by
    refine ⟨d.padding ++ d.receiver.rxBuffer.drop d.packet.octets.length, ?_⟩
    simp only [r, Delivery.packet, List.append_assoc]
  obtain ⟨rest, hrest⟩ := hbuffer
  have hpayload : r.rxBuffer.drop payLoadOffset = d.payload ++ rest := by
    rw [hrest, ← List.append_assoc]
    refine List.drop_left' ?_
    rw [List.length_append, d.length_cpuHeader, d.length_ethHeader]
    rfl
  have hport : parseSrcPort r.rxBuffer = parseSrcPort d.cpuHeader := by
    rw [hrest, parseSrcPort_append (by rw [d.length_cpuHeader]; decide)]
  have hheader : getPtpMsgHeader (PTPFrameHeader.layout.load
      (d.payload ++ rest)) = message.head := by
    rw [load_header d.sent, getPtpMsgHeader_setPtpFrameHeader hm.nibbles]
  have hkind : msgTypeOfCode message.head.messageType = some message.kind := by
    rw [hm.messageType, msgTypeOfCode_code]
  obtain ⟨received, hrecv, hagrees⟩ := recvMsg_txMsg hm d.sent allocated rest
  obtain ⟨ts, r', hts⟩ := recvTimestamp_eq_ok d allocated r rfl
  have hresult : recvPtpFrame allocated d.arrived =
      .ok (some
        { returnType := message.kind
          message := received
          ts := ts
          portNumber := parseSrcPort d.cpuHeader }, r') := by
    change recvFrame allocated r = _
    simp only [recvFrame, hpayload, hport, hheader, hkind, hrecv]
    change (recvTimestamp _ _ _ _ _ >>= _) = _
    rw [hts]
    rfl
  rw [← hagrees]
  constructor
  · rintro ⟨result, s, h, _, hresultAgrees⟩
    rw [hresult] at h
    cases h
    exact hresultAgrees
  · intro hreceived
    exact ⟨_, _, hresult, rfl, hreceived⟩

/-!
## A message from port 1

The port number of the peer that a bridge answers is the number of a port, and
arrives multiplied by 256.
-/

def portOneFollowUp : PTPMsgPdelayRespFollowUp where
  head := ptpMsgHeaderTemplate .pdelayRespFollowUp 54
    { clockIdentity := defaultClockIdentity, portNumber := 2 } 7 0 0
  responseOriginTimestamp := default
  requestingPortIdentity :=
    { clockIdentity := defaultClockIdentity, portNumber := 1 }

theorem portOneFollowUp_wellFormed :
    (PTPMsg.pdelayRespFollowUp portOneFollowUp).WellFormed where
  nibbles := by constructor <;> decide
  messageType := rfl
  path := by
    intro _ h
    cases h

def portOneDelivery : Delivery (.pdelayRespFollowUp portOneFollowUp) where
  payload := txPdelayRespFollowUp portOneFollowUp
  sent := rfl
  cpuHeader := 0 :: 0 :: 1 :: List.replicate 29 0
  length_cpuHeader := rfl
  srcPort := by decide
  ethHeader := List.replicate 14 0
  length_ethHeader := rfl
  padding := []
  length_le := by decide +kernel
  receiver :=
    { queue := []
      rxBuffer := []
      rxTimestamps := fun _ => [] }
  timestamped := by
    intro h
    cases h

/-- What `malloc` returns in the example. -/
def zeroAllocated : Allocated where
  announce := default
  ts := default

/-- The port number of the requesting port in a received message. -/
def receivedPortNumber : PTPMsg -> Option UInt16
  | .pdelayRespFollowUp message =>
      some message.requestingPortIdentity.portNumber
  | _ => none

theorem portOne_received :
    ((recvPtpFrame zeroAllocated portOneDelivery.arrived).toOption.bind
      fun result => result.1.bind fun received =>
        receivedPortNumber received.message) = some 256 := by
  decide +kernel

theorem portOne_not_received :
    ¬ forall (message : PTPMsg), message.WellFormed ->
      forall (d : Delivery message) (allocated : Allocated),
        exists received r,
          recvPtpFrame allocated d.arrived = .ok (some received, r) ∧
            received.returnType = message.kind ∧
            received.message.Agrees message := by
  intro hall
  obtain ⟨received, r, hrecv, _, hagrees⟩ :=
    hall _ portOneFollowUp_wellFormed portOneDelivery zeroAllocated
  have hport := portOne_received
  rw [hrecv] at hport
  have hone : receivedPortNumber received.message = some 1 := by
    cases hmessage : received.message <;> rw [hmessage] at hagrees <;>
      cases hagrees
    rfl
  change receivedPortNumber received.message = some 256 at hport
  rw [hone] at hport
  cases hport

theorem recvPtpFrame_agrees_iff_portOne :
    (exists received r,
      recvPtpFrame zeroAllocated portOneDelivery.arrived =
          .ok (some received, r) ∧
        received.returnType = .pdelayRespFollowUp ∧
        received.message.Agrees (.pdelayRespFollowUp portOneFollowUp)) <->
      (PTPMsg.pdelayRespFollowUp portOneFollowUp).Symmetric :=
  recvPtpFrame_agrees_iff portOneFollowUp_wellFormed portOneDelivery
    zeroAllocated

end TimeSync
end Ziggo
