import Ziggo.TimeSync.EthFrame.RoundTrip
import Ziggo.TimeSync.PortAnnounceInformationExtSM
import Ziggo.TimeSync.PortAnnounceInformationSM
import Ziggo.TimeSync.PortStateSelectionSM

/-!
# From a packet to a state machine

`TimeSyncMainLoop` hands a received message to a state machine of the port that
`recv_ptp_frame` has found.  Neither function checks the port or the length of a
path.  The module determines the packets that are handled without an access
beyond an array.
-/

namespace Ziggo
namespace TimeSync

open Foundation TsnDrivers

/-!
## The switch of the main loop
-/

/-- The calls of the state machines of a port. -/
inductive MessageCall where
  | mdPdelayRespRecvReq (ts : Option TSUTimestamp) (message : PTPMsgPdelayReq)
  | mdPdelayReqRecvResp (ts : Option TSUTimestamp) (message : PTPMsgPdelayResp)
  | mdPdelayReqRecvRespFollowUp (message : PTPMsgPdelayRespFollowUp)
  | mdSyncReceiveRecvSync (ts : Option TSUTimestamp) (message : PTPMsgSync)
  | mdSyncReceiveRecvFollowUp (message : PTPMsgFollowUp)
  | portAnnounceInformationRecvAnnounce (message : PTPMsgAnnounce)
  | portAnnounceInformationExtRecvAnnounce (message : PTPMsgAnnounce)

/-- The element `port_number - 1` of an array of state machines. -/
def smIndex (portNumber : UInt16) : Except Fault PortIndex :=
  if h : portNumber.toNat - 1 < nPorts ∧ portNumber ≠ 0 then
    .ok ⟨portNumber.toNat - 1, h.left⟩
  else
    .error .outOfBounds

/-- The case of the `switch` over `recv_status`. -/
def dispatchMsg (externalPortConfigurationEnabled : Bool)
    (ts : Option TSUTimestamp) : PTPMsg -> MessageCall
  | .pdelayReq message => .mdPdelayRespRecvReq ts message
  | .pdelayResp message => .mdPdelayReqRecvResp ts message
  | .pdelayRespFollowUp message => .mdPdelayReqRecvRespFollowUp message
  | .sync message => .mdSyncReceiveRecvSync ts message
  | .followUp message => .mdSyncReceiveRecvFollowUp message
  | .announce message =>
      if externalPortConfigurationEnabled then
        .portAnnounceInformationExtRecvAnnounce message
      else
        .portAnnounceInformationRecvAnnounce message

/-- A message is handed to a machine of its port, and nothing for `NO_FRAME`. -/
def dispatch (externalPortConfigurationEnabled : Bool) :
    Option Received -> Except Fault (Option (PortIndex × MessageCall))
  | none => .ok none
  | some received => do
      let i <- smIndex received.portNumber
      return some (i, dispatchMsg externalPortConfigurationEnabled received.ts
        received.message)

theorem smIndex_ok_iff {portNumber : UInt16} :
    (exists i, smIndex portNumber = .ok i) <->
      1 ≤ portNumber ∧ portNumber ≤ 4 := by
  have hrange : portNumber.toNat - 1 < nPorts ∧ portNumber ≠ 0 <->
      1 ≤ portNumber ∧ portNumber ≤ 4 := by
    rw [UInt16.le_iff_toNat_le, UInt16.le_iff_toNat_le, ne_eq,
      ← UInt16.toNat_inj]
    change portNumber.toNat - 1 < 4 ∧ ¬ portNumber.toNat = 0 <->
      1 ≤ portNumber.toNat ∧ portNumber.toNat ≤ 4
    omega
  rw [← hrange]
  unfold smIndex
  constructor
  · rintro ⟨i, h⟩
    split at h
    case isTrue hindex => exact hindex
    case isFalse => cases h
  · intro hindex
    exact ⟨_, dif_pos hindex⟩

theorem index_of_smIndex {portNumber : UInt16} {i : PortIndex}
    (h : smIndex portNumber = .ok i) : i.val + 1 = portNumber.toNat := by
  unfold smIndex at h
  split at h
  case isTrue hindex =>
    cases h
    have hpos : portNumber.toNat ≠ 0 := fun hzero =>
      hindex.right (UInt16.toNat_inj.mp hzero)
    exact Nat.sub_add_cancel (Nat.pos_of_ne_zero hpos)
  case isFalse => cases h

/-!
## The copies of a path
-/

/-- The loop of `rcvInfoExt` over the entries of `pathSequence`. -/
def copyPathTrace (pathSequence : PathArray) :
    Nat -> PathArray -> Except Fault PathArray
  | 0, pathTrace => .ok pathTrace
  | count + 1, pathTrace => do
      let pathTrace <- copyPathTrace pathSequence count pathTrace
      if h : count < maxPathTraceN then
        return Function.update pathTrace ⟨count, h⟩ (pathSequence ⟨count, h⟩)
      else
        .error .outOfBounds

theorem copyPathTrace_ok {pathSequence pathTrace : PathArray} {count : Nat}
    (h : count ≤ maxPathTraceN) :
    copyPathTrace pathSequence count pathTrace =
      .ok fun i => if i.val < count then pathSequence i else pathTrace i := by
  induction count with
  | zero => rfl
  | succ count ih =>
      have hlt : count < maxPathTraceN := h
      rw [copyPathTrace, ih (Nat.le_of_succ_le h)]
      change (if h : count < maxPathTraceN then _ else _) = _
      rw [dif_pos hlt]
      refine congrArg Except.ok (funext fun i => ?_)
      by_cases hi : i = ⟨count, hlt⟩
      · subst hi
        rw [Function.update_self, if_pos (Nat.lt_succ_self count)]
      · rw [Function.update_of_ne hi]
        have hne : i.val ≠ count := fun heq => hi (Fin.ext heq)
        have hiff : i.val < count <-> i.val < count + 1 := by omega
        simp only [hiff]

theorem copyPathTrace_ok_iff {pathSequence pathTrace : PathArray} {count : Nat} :
    (exists array, copyPathTrace pathSequence count pathTrace = .ok array) <->
      count ≤ maxPathTraceN := by
  constructor
  · rintro ⟨array, h⟩
    cases count with
    | zero => exact Nat.zero_le _
    | succ count =>
        obtain ⟨_, _, h⟩ := bind_eq_ok.mp h
        split at h
        case isTrue hcount => exact hcount
        case isFalse => cases h
  · intro h
    exact ⟨_, copyPathTrace_ok h⟩

namespace PortAnnounceInformationExtSM

/-- The clock of the instance needs an entry of its own behind the copy. -/
theorem tracePath_ok_iff {announce : PTPMsgAnnounce} :
    (forall g, exists g', tracePath g announce = .ok g') <->
      announce.pathCount < maxPathTraceN := by
  constructor
  · intro h
    by_contra hcount
    obtain ⟨_, hg⟩ := h default
    have hfault : tracePath default announce = .error .outOfBounds :=
      if_neg hcount
    rw [hfault] at hg
    cases hg
  · intro h g
    exact ⟨_, if_pos h⟩

theorem tracePath_copies {g : PerPTPInstanceGlobal} {announce : PTPMsgAnnounce}
    (h : announce.pathCount < maxPathTraceN) :
    exists pathTrace,
      copyPathTrace announce.pathTraceTLV.pathSequence announce.pathCount
          g.pathTrace = .ok pathTrace ∧
        tracePath g announce = .ok
          { g with
            pathTrace := Function.update pathTrace ⟨_, h⟩ g.thisClock
            nPathTrace := UInt16.ofNat (announce.pathCount + 1) } := by
  refine ⟨_, copyPathTrace_ok (Nat.le_of_lt h), ?_⟩
  unfold tracePath
  rw [if_pos h]
  have hpath : (fun i : Fin maxPathTraceN =>
      if i.val < announce.pathCount then announce.pathTraceTLV.pathSequence i
      else if i.val = announce.pathCount then g.thisClock
      else g.pathTrace i) =
        Function.update (fun i : Fin maxPathTraceN =>
          if i.val < announce.pathCount then
            announce.pathTraceTLV.pathSequence i
          else g.pathTrace i) ⟨_, h⟩ g.thisClock := by
    funext i
    by_cases hi : i = ⟨announce.pathCount, h⟩
    · rw [hi, Function.update_self, if_neg (Nat.lt_irrefl _), if_pos rfl]
    · have hne : i.val ≠ announce.pathCount := fun heq => hi (Fin.ext heq)
      rw [Function.update_of_ne hi, if_neg hne]
  rw [hpath]

end PortAnnounceInformationExtSM

/-!
## What a buffer needs

The fields of a buffer from which the port, the length of the path and the
number of the timestamp are read.
-/

/-- `RxBufferPtr` after `pop_queue`. -/
def popped (packet : Packet) (rxBuffer : List UInt8) : List UInt8 :=
  packet.octets ++ rxBuffer.drop packet.octets.length

def bufferHeader (buffer : List UInt8) : PTPMsgHeader :=
  getPtpMsgHeader (PTPFrameHeader.layout.load (buffer.drop payLoadOffset))

theorem recvFrame_unknown {allocated : Allocated} {r : Receiver}
    (h : msgTypeOfCode (bufferHeader r.rxBuffer).messageType = none) :
    recvFrame allocated r = .ok (none, r) := by
  unfold bufferHeader at h
  unfold recvFrame
  dsimp only
  rw [h]

/-- A frame of a known type is received if its message and its timestamp are. -/
theorem recvFrame_ok_iff {allocated : Allocated} {r r' : Receiver}
    {msgType : PTPMsgType} {result : Option Received}
    (h : msgTypeOfCode (bufferHeader r.rxBuffer).messageType = some msgType) :
    recvFrame allocated r = .ok (result, r') <->
      exists message ts,
        recvMsg msgType (bufferHeader r.rxBuffer) allocated
            (r.rxBuffer.drop payLoadOffset) = .ok message ∧
          recvTimestamp msgType (bufferHeader r.rxBuffer)
            (parseSrcPort r.rxBuffer) allocated r = .ok (ts, r') ∧
          result = some
            { returnType := msgType
              message := message
              ts := ts
              portNumber := parseSrcPort r.rxBuffer } := by
  unfold bufferHeader at h ⊢
  unfold recvFrame
  dsimp only
  rw [h]
  constructor
  · intro hreceived
    obtain ⟨message, hmessage, hrest⟩ := bind_eq_ok.mp hreceived
    obtain ⟨⟨ts, s⟩, hts, hreturn⟩ := bind_eq_ok.mp hrest
    cases hreturn
    exact ⟨message, ts, hmessage, hts, rfl⟩
  · rintro ⟨message, ts, hmessage, hts, rfl⟩
    exact bind_eq_ok.mpr ⟨message, hmessage, bind_eq_ok.mpr ⟨_, hts, rfl⟩⟩

def bufferPathLength (buffer : List UInt8) : UInt16 :=
  ntohs (PTPFrameAnnounce.layout.load
    (buffer.drop payLoadOffset)).pathTraceTLV.lengthField

/-- What the fields of a buffer must be for a message of the kind. -/
structure Admissible (buffer : List UInt8)
    (rxTimestamps : UInt16 -> List TSUTimestamp) (msgType : PTPMsgType) :
    Prop where
  port : parseSrcPort buffer ≠ 0xFFFF
  path : msgType = .announce -> bufferPathLength buffer ≤ 64
  timestamp : isEvent msgType = true ->
    exists ts, ts ∈ rxTimestamps (parseSrcPort buffer) ∧
      Answers msgType (bufferHeader buffer).sequenceId ts

/-- The accesses that a delivered message leads to stay within their arrays. -/
structure Safe (externalPortConfigurationEnabled : Bool) (received : Received) :
    Prop where
  port : 1 ≤ received.portNumber ∧ received.portNumber ≤ 4
  dispatched : exists i call,
    dispatch externalPortConfigurationEnabled (some received) =
        .ok (some (i, call)) ∧ i.val + 1 = received.portNumber.toNat
  path : forall announce, received.message = .announce announce ->
    announce.pathTraceTLV.lengthField ≤ 64
  record : forall announce, received.message = .announce announce ->
    forall sm, exists sm',
      PortAnnounceInformationSM.recordOtherAnnounceInfo sm announce = .ok sm'
  copy : forall announce, received.message = .announce announce ->
    forall pathTrace, exists pathTrace',
      copyPathTrace announce.pathTraceTLV.pathSequence announce.pathCount
        pathTrace = .ok pathTrace'

/-- In external mode the clock of the instance fits behind the copied path. -/
def Appends (received : Received) : Prop :=
  forall announce, received.message = .announce announce ->
    forall g, exists g',
      PortAnnounceInformationExtSM.tracePath g announce = .ok g'

/--
The frame is discarded, or it is delivered as a message with the property.  In
particular the reception ends, and it stays within its arrays.
-/
def Handled (P : Received -> Prop) (allocated : Allocated) (r : Receiver)
    (packet : Packet) : Prop :=
  exists result r',
    recvPtpFrame allocated { r with queue := packet :: r.queue } =
        .ok (result, r') ∧
      forall received, result = some received -> P received

/-!
## The reception of a buffer
-/

section Reception

variable {allocated : Allocated} {msgType : PTPMsgType} {header : PTPMsgHeader}
  {payload : List UInt8} {message : PTPMsg}

/-- Only an `Announce` is copied over a length of its own. -/
theorem recvMsg_ok_iff :
    (exists message, recvMsg msgType header allocated payload = .ok message) <->
      (msgType = .announce ->
        ntohs (PTPFrameAnnounce.layout.load payload).pathTraceTLV.lengthField
          ≤ 64) := by
  cases msgType with
  | announce =>
      simp only [forall_const, UInt16.le_iff_toNat_le]
      refine Iff.trans ?_ (@recvAnnounce_ok_iff header allocated.announce _)
      constructor
      · rintro ⟨_, h⟩
        obtain ⟨announce, hrecv, _⟩ := bind_eq_ok.mp h
        exact ⟨announce, hrecv⟩
      · rintro ⟨announce, hrecv⟩
        exact ⟨_, bind_eq_ok.mpr ⟨announce, hrecv, rfl⟩⟩
  | _ =>
      constructor
      · intro _ h
        cases h
      · intro _
        exact ⟨_, rfl⟩

theorem announce_of_recvMsg {announce : PTPMsgAnnounce}
    (h : recvMsg msgType header allocated payload = .ok (.announce announce)) :
    msgType = .announce ∧
      announce.pathTraceTLV.lengthField =
        ntohs (PTPFrameAnnounce.layout.load payload).pathTraceTLV.lengthField := by
  cases msgType with
  | announce =>
      obtain ⟨_, hrecv, hreturn⟩ := bind_eq_ok.mp h
      cases hreturn
      exact ⟨rfl, lengthField_recvAnnounce hrecv⟩
  | _ => cases h

theorem kind_of_recvMsg
    (h : recvMsg msgType header allocated payload = .ok message) :
    message.kind = msgType := by
  cases msgType with
  | announce =>
      obtain ⟨_, _, hreturn⟩ := bind_eq_ok.mp h
      cases hreturn
      rfl
  | _ =>
      cases h
      rfl

theorem awaitTimestamp_ok_iff {sequenceId : UInt16} {fifo : List TSUTimestamp} :
    (exists result, awaitTimestamp msgType sequenceId fifo = .ok result) <->
      exists ts, ts ∈ fifo ∧ Answers msgType sequenceId ts := by
  constructor
  · rintro ⟨result, h⟩
    induction fifo with
    | nil => cases h
    | cons ts fifo ih =>
        by_cases hts : Answers msgType sequenceId ts
        · exact ⟨ts, List.mem_cons_self, hts⟩
        · rw [awaitTimestamp, if_neg hts] at h
          obtain ⟨later, hmem, hanswers⟩ := ih h
          exact ⟨later, List.mem_cons_of_mem _ hmem, hanswers⟩
  · rintro ⟨ts, hmem, hanswers⟩
    obtain ⟨first, rest, h⟩ := awaitTimestamp_eq_ok hmem hanswers
    exact ⟨_, h⟩

theorem recvTimestamp_ok_iff {buffer : List UInt8} {r : Receiver}
    (hport : parseSrcPort buffer ≠ 0xFFFF) :
    (exists result,
      recvTimestamp msgType header (parseSrcPort buffer) allocated r =
        .ok result) <->
      (isEvent msgType = true ->
        exists ts, ts ∈ r.rxTimestamps (parseSrcPort buffer) ∧
          Answers msgType header.sequenceId ts) := by
  unfold recvTimestamp
  by_cases hevent : isEvent msgType = true
  · rw [if_pos hevent, rxTimestamp, if_pos (parseSrcPort_known hport)]
    simp only [hevent, forall_const]
    refine Iff.trans ?_ awaitTimestamp_ok_iff
    constructor
    · rintro ⟨_, h⟩
      obtain ⟨_, hrx, _⟩ := bind_eq_ok.mp h
      obtain ⟨result, hawait, _⟩ := bind_eq_ok.mp hrx
      exact ⟨result, hawait⟩
    · rintro ⟨result, hawait⟩
      exact ⟨_, bind_eq_ok.mpr ⟨_, bind_eq_ok.mpr ⟨result, hawait, rfl⟩, rfl⟩⟩
  · rw [if_neg hevent]
    constructor
    · intro _ h
      exact absurd h hevent
    · intro _
      exact ⟨_, rfl⟩

end Reception

/-!
## Every buffer
-/

/-- A message that was received is safe as soon as its port is known. -/
theorem safe_of_recvMsg {external : Bool} {msgType : PTPMsgType}
    {header : PTPMsgHeader} {allocated : Allocated} {payload : List UInt8}
    {received : Received}
    (h : recvMsg msgType header allocated payload = .ok received.message)
    (hport : 1 ≤ received.portNumber ∧ received.portNumber ≤ 4) :
    Safe external received := by
  have hpath : forall announce, received.message = .announce announce ->
      announce.pathTraceTLV.lengthField ≤ 64 := by
    intro announce hmessage
    rw [hmessage] at h
    obtain ⟨hkind, hlength⟩ := announce_of_recvMsg h
    rw [hlength]
    exact recvMsg_ok_iff.mp ⟨_, h⟩ hkind
  obtain ⟨i, hi⟩ := smIndex_ok_iff.mpr hport
  refine ⟨hport, ⟨i, _, bind_eq_ok.mpr ⟨i, hi, rfl⟩, ?_⟩, hpath, ?_, ?_⟩
  · exact index_of_smIndex hi
  · intro announce hmessage sm
    obtain ⟨annPathSequence, hcopy⟩ := (@exists_copyOctets_iff
      announce.pathTraceTLV.lengthField.toNat
      announce.pathTraceTLV.pathSequence sm.perPortGlobal.annPathSequence).mpr
      (UInt16.le_iff_toNat_le.mp (hpath announce hmessage))
    exact ⟨_, bind_eq_ok.mpr ⟨annPathSequence, hcopy, rfl⟩⟩
  · intro announce hmessage pathTrace
    refine copyPathTrace_ok_iff.mpr ?_
    exact Nat.div_le_div_right
      (UInt16.le_iff_toNat_le.mp (hpath announce hmessage))

theorem appends_iff {msgType : PTPMsgType} {header : PTPMsgHeader}
    {allocated : Allocated} {payload : List UInt8} {received : Received}
    (h : recvMsg msgType header allocated payload = .ok received.message) :
    Appends received <->
      (msgType = .announce ->
        ntohs (PTPFrameAnnounce.layout.load payload).pathTraceTLV.lengthField
          < 64) := by
  have hcount : forall announce : PTPMsgAnnounce,
      announce.pathCount < maxPathTraceN <->
        announce.pathTraceTLV.lengthField < 64 := by
    intro announce
    rw [UInt16.lt_iff_toNat_lt]
    exact Nat.div_lt_iff_lt_mul (by decide)
  constructor
  · rintro happends rfl
    cases hmessage : received.message with
    | announce announce =>
        rw [hmessage] at h
        rw [← (announce_of_recvMsg h).right, ← hcount]
        exact PortAnnounceInformationExtSM.tracePath_ok_iff.mp
          (happends announce hmessage)
    | _ =>
        rw [hmessage] at h
        cases kind_of_recvMsg h
  · intro hlength announce hmessage
    rw [hmessage] at h
    obtain ⟨hkind, hread⟩ := announce_of_recvMsg h
    refine PortAnnounceInformationExtSM.tracePath_ok_iff.mpr ?_
    rw [hcount, hread]
    exact hlength hkind

section Handling

variable (allocated : Allocated) (r : Receiver) (packet : Packet)

/-- The receiver once a packet has been taken from its queue. -/
def afterPop : Receiver :=
  { r with rxBuffer := popped packet r.rxBuffer }

theorem handled_iff_received (P : Received -> Prop) :
    Handled P allocated r packet <->
      forall msgType,
        msgTypeOfCode
            (bufferHeader (popped packet r.rxBuffer)).messageType =
          some msgType ->
        exists message ts r',
          recvMsg msgType (bufferHeader (popped packet r.rxBuffer)) allocated
              ((popped packet r.rxBuffer).drop payLoadOffset) = .ok message ∧
            recvTimestamp msgType (bufferHeader (popped packet r.rxBuffer))
              (parseSrcPort (popped packet r.rxBuffer)) allocated
              (afterPop r packet) = .ok (ts, r') ∧
            P { returnType := msgType
                message := message
                ts := ts
                portNumber := parseSrcPort (popped packet r.rxBuffer) } := by
  have hrecv : recvPtpFrame allocated { r with queue := packet :: r.queue } =
      recvFrame allocated (afterPop r packet) := rfl
  unfold Handled
  rw [hrecv]
  cases hcode : msgTypeOfCode
      (bufferHeader (popped packet r.rxBuffer)).messageType with
  | none =>
      constructor
      · intro _ msgType h
        cases h
      · intro _
        refine ⟨none, _, recvFrame_unknown (r := afterPop r packet) hcode, ?_⟩
        intro received h
        cases h
  | some msgType =>
      constructor
      · rintro ⟨result, r', h, hP⟩ _ hsome
        cases hsome
        obtain ⟨message, ts, hmessage, hts, rfl⟩ :=
          (recvFrame_ok_iff (r := afterPop r packet) hcode).mp h
        exact ⟨message, ts, r', hmessage, hts, hP _ rfl⟩
      · intro h
        obtain ⟨message, ts, r', hmessage, hts, hP⟩ := h msgType rfl
        refine ⟨_, r', (recvFrame_ok_iff (r := afterPop r packet) hcode).mpr
          ⟨message, ts, hmessage, hts, rfl⟩, ?_⟩
        intro received hreceived
        cases hreceived
        exact hP

theorem admissible_iff {external : Bool} {msgType : PTPMsgType} :
    (exists message ts r',
      recvMsg msgType (bufferHeader (popped packet r.rxBuffer)) allocated
          ((popped packet r.rxBuffer).drop payLoadOffset) = .ok message ∧
        recvTimestamp msgType (bufferHeader (popped packet r.rxBuffer))
          (parseSrcPort (popped packet r.rxBuffer)) allocated
          (afterPop r packet) = .ok (ts, r') ∧
        Safe external
          { returnType := msgType
            message := message
            ts := ts
            portNumber := parseSrcPort (popped packet r.rxBuffer) }) <->
      Admissible (popped packet r.rxBuffer) r.rxTimestamps msgType := by
  constructor
  · rintro ⟨message, ts, r', hmessage, hts, hsafe⟩
    have hport : parseSrcPort (popped packet r.rxBuffer) ≠ 0xFFFF := by
      intro hunknown
      have hle := hsafe.port.right
      change parseSrcPort (popped packet r.rxBuffer) ≤ 4 at hle
      rw [hunknown] at hle
      exact absurd hle (by decide)
    exact
      { port := hport
        path := recvMsg_ok_iff.mp ⟨message, hmessage⟩
        timestamp := (@recvTimestamp_ok_iff allocated msgType _ _
          (afterPop r packet) hport).mp ⟨_, hts⟩ }
  · rintro ⟨hport, hpath, htimestamp⟩
    obtain ⟨message, hmessage⟩ := recvMsg_ok_iff.mpr hpath
    obtain ⟨⟨ts, r'⟩, hts⟩ := (@recvTimestamp_ok_iff allocated msgType
      (bufferHeader (popped packet r.rxBuffer)) _ (afterPop r packet)
      hport).mpr htimestamp
    have hrange : 1 ≤ parseSrcPort (popped packet r.rxBuffer) ∧
        parseSrcPort (popped packet r.rxBuffer) ≤ 4 := by
      rcases parseSrcPort_known hport with h | h | h | h <;> rw [h] <;> decide
    exact ⟨message, ts, r', hmessage, hts, safe_of_recvMsg hmessage hrange⟩

/--
A packet is discarded or delivered safely if and only if the fields of the
buffer permit it.  In external mode a full path leaves no entry for the clock of
the instance.
-/
theorem handled_iff (external : Bool) :
    (Handled (Safe external) allocated r packet <->
      forall msgType,
        msgTypeOfCode (bufferHeader (popped packet r.rxBuffer)).messageType =
          some msgType ->
        Admissible (popped packet r.rxBuffer) r.rxTimestamps msgType) ∧
    (Handled (fun received => Safe external received ∧ Appends received)
        allocated r packet <->
      forall msgType,
        msgTypeOfCode (bufferHeader (popped packet r.rxBuffer)).messageType =
          some msgType ->
        Admissible (popped packet r.rxBuffer) r.rxTimestamps msgType ∧
          (msgType = .announce ->
            bufferPathLength (popped packet r.rxBuffer) < 64)) := by
  constructor
  · rw [handled_iff_received]
    exact forall_congr' fun msgType =>
      imp_congr_right fun _ => admissible_iff allocated r packet
  · rw [handled_iff_received]
    refine forall_congr' fun msgType => imp_congr_right fun _ => ?_
    constructor
    · rintro ⟨message, ts, r', hmessage, hts, hsafe, happends⟩
      exact ⟨(admissible_iff allocated r packet).mp
        ⟨message, ts, r', hmessage, hts, hsafe⟩, (appends_iff hmessage).mp happends⟩
    · rintro ⟨hadmissible, hlength⟩
      obtain ⟨message, ts, r', hmessage, hts, hsafe⟩ :=
        (@admissible_iff allocated r packet external msgType).mpr hadmissible
      exact ⟨message, ts, r', hmessage, hts, hsafe,
        (appends_iff hmessage).mpr hlength⟩

end Handling

/-!
## A packet from nowhere
-/

/-- A `FOLLOW_UP` whose header for the CPU port names no port. -/
def strayPacket : Packet where
  octets := List.replicate payLoadOffset 0 ++ [8]
  length_le := by decide

def idleReceiver : Receiver where
  queue := []
  rxBuffer := List.replicate maxPktLen 0
  rxTimestamps := fun _ => []

theorem strayPacket_outOfBounds :
    ((recvPtpFrame zeroAllocated
        { idleReceiver with queue := [strayPacket] }).toOption.map
      fun result => match dispatch false result.1 with
        | .ok _ => none
        | .error f => some f) = some (some .outOfBounds) := by
  decide +kernel

theorem strayPacket_not_handled :
    ¬ forall (external : Bool) (allocated : Allocated) (r : Receiver)
      (packet : Packet), Handled (Safe external) allocated r packet := by
  intro hall
  obtain ⟨result, r', hrecv, hsafe⟩ :=
    hall false zeroAllocated idleReceiver strayPacket
  have hfault := strayPacket_outOfBounds
  change ((recvPtpFrame zeroAllocated { idleReceiver with
    queue := strayPacket :: idleReceiver.queue }).toOption.map _) = _ at hfault
  rw [hrecv] at hfault
  cases result with
  | none => cases hfault
  | some received =>
      obtain ⟨i, call, hdispatch, _⟩ := (hsafe received rfl).dispatched
      change some (match dispatch false (some received) with
        | .ok _ => none
        | .error f => some f) = _ at hfault
      rw [hdispatch] at hfault
      cases hfault

end TimeSync
end Ziggo
