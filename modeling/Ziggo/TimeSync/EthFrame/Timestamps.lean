import Ziggo.Foundation.Matching
import Ziggo.Foundation.Runs
import Ziggo.TimeSync.EthFrame.Dispatch
import Ziggo.TsnDrivers.Tsu

/-!
# Timestamps of received frames

Frames and timestamps reach `recv_ptp_frame` through two queues.  If the DMA
loses a frame, its timestamp stays in the other queue until the loop of a later
frame drops it.  The module shows that every frame still gets its own timestamp.
-/

namespace Ziggo
namespace TimeSync

open Foundation TsnDrivers

/-!
## Frames with their entries
-/

/--
A frame with a whole header that one of the ports has received, and the entry
that describes it.  The unit queues the entry if the frame is an event message.
-/
structure IngressFrame where
  packet : Packet
  entry : TSUEntry
  whole : payLoadOffset + PTPFrameHeader.layout.size ≤ packet.octets.length
  srcPort : parseSrcPort packet.octets ≠ 0xFFFF
  path : msgTypeOfCode (bufferHeader packet.octets).messageType =
      some .announce ->
    forall rest, bufferPathLength (packet.octets ++ rest) ≤ 64
  messageId : entry.messageId.val =
    (bufferHeader packet.octets).messageType.toNat
  sequenceId : entry.sequenceId = (bufferHeader packet.octets).sequenceId

namespace IngressFrame

def header (f : IngressFrame) : PTPMsgHeader :=
  bufferHeader f.packet.octets

def kind (f : IngressFrame) : Option PTPMsgType :=
  msgTypeOfCode f.header.messageType

def port (f : IngressFrame) : UInt16 :=
  parseSrcPort f.packet.octets

/-- The timestamp that the driver reads from the entry. -/
def timestamp (f : IngressFrame) : TSUTimestamp :=
  tsuRxGetTimestamp f.entry

/-- What the loop compares. -/
def key (f : IngressFrame) : Fin 16 × UInt16 :=
  (f.entry.messageId, f.entry.sequenceId)

def isKnown (f : IngressFrame) : Bool :=
  f.kind.isSome

def isEventFrame (f : IngressFrame) : Bool :=
  f.kind.any isEvent

end IngressFrame

/-- The event messages that a port has received. -/
def eventsAt (port : UInt16) (frames : List IngressFrame) :
    List IngressFrame :=
  frames.filter fun f => f.isEventFrame && f.port == port

def tsuPorts : List UInt16 :=
  [1, 2, 3, 4]

/-!
## The receiver over a run
-/

/-- The DMA delivers a frame, or `recv_ptp_frame` is called. -/
inductive ReceiverEvent where
  | push (frame : IngressFrame)
  | recv (allocated : Allocated)

structure ReceiverRun where
  receiver : Receiver
  /-- The messages that were received so far. -/
  results : List Received

def stepReceiver (s : Except Fault ReceiverRun) (e : ReceiverEvent) :
    Except Fault ReceiverRun := do
  let s <- s
  match e with
  | .push frame =>
      return { s with
        receiver :=
          { s.receiver with queue := s.receiver.queue ++ [frame.packet] } }
  | .recv allocated =>
      let (result, r) <- recvPtpFrame allocated s.receiver
      return { receiver := r, results := s.results ++ result.toList }

/-- The frames that the DMA delivers in a run. -/
def deliveries (events : List ReceiverEvent) : List IngressFrame :=
  events.flatMap fun
    | .push frame => [frame]
    | .recv _ => []

/-- The queue of packets as it is meant to be. -/
structure Service where
  taken : List IngressFrame
  waiting : List IngressFrame

/-- A call takes the frame that has waited longest. -/
def stepService (q : Service) : ReceiverEvent -> Service
  | .push frame => { q with waiting := q.waiting ++ [frame] }
  | .recv _ =>
      match q.waiting with
      | [] => q
      | frame :: waiting =>
          { taken := q.taken ++ [frame]
            waiting := waiting }

def service (events : List ReceiverEvent) : Service :=
  runEvents stepService { taken := [], waiting := [] } events

/-- The message is that of the frame, with the timestamp of that frame. -/
structure Own (frame : IngressFrame) (received : Received) : Prop where
  kind : frame.kind = some received.returnType
  portNumber : received.portNumber = frame.port
  head : received.message.head = frame.header
  ts : received.ts =
    if frame.isEventFrame then some frame.timestamp else none
  /-- The time is exact unless its seconds exceed the word that is read. -/
  time : forall ts, received.ts = some ts -> frame.entry.secondsMsb = 0 ->
    ts.ts.toNat = frame.entry.time * 2 ^ 16

theorem deliveries_service (events : List ReceiverEvent) :
    deliveries events = (service events).taken ++ (service events).waiting := by
  induction events using List.reverseRecOn with
  | nil => rfl
  | append_singleton events e ih =>
      have hservice : service (events ++ [e]) = stepService (service events) e :=
        runEvents_concat _ _ _ _
      rw [hservice, deliveries, List.flatMap_append]
      change deliveries events ++ _ = _
      rw [ih]
      cases e with
      | push frame => exact List.append_assoc _ _ _
      | recv allocated =>
          change _ ++ [] = _
          rw [List.append_nil, stepService]
          cases hwaiting : (service events).waiting with
          | nil => simp [hwaiting]
          | cons frame waiting => simp

/-!
## One frame
-/

theorem code_of_msgTypeOfCode {code : UInt8} {msgType : PTPMsgType}
    (h : msgTypeOfCode code = some msgType) : msgType.code = code := by
  unfold msgTypeOfCode at h
  split at h <;> cases h <;> rfl

theorem awaitTimestamp_skips {msgType : PTPMsgType} {sequenceId : UInt16}
    {skipped rest : List TSUTimestamp} {own : TSUTimestamp}
    (hskipped : forall ts, ts ∈ skipped -> ¬ Answers msgType sequenceId ts)
    (hown : Answers msgType sequenceId own) :
    awaitTimestamp msgType sequenceId (skipped ++ own :: rest) =
      .ok (own, rest) := by
  induction skipped with
  | nil => exact if_pos hown
  | cons ts skipped ih =>
      have hts : ¬ Answers msgType sequenceId ts :=
        hskipped ts List.mem_cons_self
      rw [List.cons_append, awaitTimestamp, if_neg hts]
      exact ih fun later hlater =>
        hskipped later (List.mem_cons_of_mem ts hlater)

theorem head_of_recvMsg {msgType : PTPMsgType} {header : PTPMsgHeader}
    {allocated : Allocated} {payload : List UInt8} {message : PTPMsg}
    (h : recvMsg msgType header allocated payload = .ok message) :
    message.head = header := by
  cases msgType with
  | announce =>
      obtain ⟨announce, hrecv, hreturn⟩ := bind_eq_ok.mp h
      obtain ⟨_, _, hannounce⟩ := bind_eq_ok.mp hrecv
      cases hreturn
      cases hannounce
      rfl
  | _ =>
      cases h
      rfl

namespace IngressFrame

variable {f g : IngressFrame} {msgType : PTPMsgType}

theorem port_mem (f : IngressFrame) : f.port ∈ tsuPorts := by
  rcases parseSrcPort_known f.srcPort with h | h | h | h <;>
    simp [tsuPorts, port, h]

/-- The loop ends at the entries with the key of the frame. -/
theorem answers_iff (h : f.kind = some msgType) :
    Answers msgType f.header.sequenceId g.timestamp <-> g.key = f.key := by
  have hcode : msgType.code.toNat = f.entry.messageId.val := by
    rw [code_of_msgTypeOfCode h, f.messageId]
    rfl
  have hid : g.timestamp.msgType = msgType.code <->
      g.entry.messageId = f.entry.messageId := by
    rw [← UInt8.toNat_inj, hcode, Fin.ext_iff, timestamp,
      toNat_msgType_tsuRxGetTimestamp]
  have hsequence : g.timestamp.sequenceID = f.header.sequenceId <->
      g.entry.sequenceId = f.entry.sequenceId := by
    rw [timestamp, sequenceID_tsuRxGetTimestamp, f.sequenceId]
    rfl
  rw [Answers, hid, hsequence, key, key, Prod.mk.injEq]

theorem bufferHeader_popped (f : IngressFrame) (rxBuffer : List UInt8) :
    bufferHeader (popped f.packet rxBuffer) = f.header := by
  have hle := f.whole
  have hdrop : payLoadOffset ≤ f.packet.octets.length := by omega
  have hload : PTPFrameHeader.layout.size ≤
      (f.packet.octets.drop payLoadOffset).length := by
    rw [List.length_drop]
    omega
  unfold bufferHeader popped
  rw [List.drop_append_of_le_length hdrop, Layout.load_append _ hload]
  rfl

theorem parseSrcPort_popped (f : IngressFrame) (rxBuffer : List UInt8) :
    parseSrcPort (popped f.packet rxBuffer) = f.port := by
  have hle := f.whole
  have hlength : 2 < f.packet.octets.length :=
    lt_of_lt_of_le (by decide) (le_trans (Nat.le_add_right _ _) hle)
  exact parseSrcPort_append hlength _

theorem own_of_received {received : Received}
    (hkind : f.kind = some received.returnType)
    (hport : received.portNumber = f.port)
    (hhead : received.message.head = f.header)
    (hts : received.ts = if f.isEventFrame then some f.timestamp else none) :
    Own f received := by
  refine ⟨hkind, hport, hhead, hts, fun ts hsome hmsb => ?_⟩
  rw [hts] at hsome
  split at hsome
  case isTrue =>
    cases hsome
    exact toNat_tsuRxGetTimestamp hmsb
  case isFalse => cases hsome

section Reception

variable {r : Receiver} {queue : List Packet}

/-- The receiver once the packet of the frame has been taken. -/
def taken (f : IngressFrame) (r : Receiver) (queue : List Packet) : Receiver :=
  afterPop { r with queue := queue } f.packet

theorem recvPtpFrame_unknown (hqueue : r.queue = f.packet :: queue)
    (hkind : f.kind = none) (allocated : Allocated) :
    recvPtpFrame allocated r = .ok (none, f.taken r queue) := by
  have hcode : msgTypeOfCode (bufferHeader (popped f.packet
      r.rxBuffer)).messageType = none := by
    rw [f.bufferHeader_popped]
    exact hkind
  unfold recvPtpFrame
  rw [hqueue]
  exact recvFrame_unknown (r := f.taken r queue) hcode

theorem recvPtpFrame_known {allocated : Allocated} {ts : Option TSUTimestamp}
    {r' : Receiver} (hqueue : r.queue = f.packet :: queue)
    (hkind : f.kind = some msgType)
    (hts : recvTimestamp msgType f.header f.port allocated (f.taken r queue) =
      .ok (ts, r')) :
    exists received, recvPtpFrame allocated r = .ok (some received, r') ∧
      received.returnType = msgType ∧ received.portNumber = f.port ∧
      received.message.head = f.header ∧ received.ts = ts := by
  obtain ⟨message, hmessage⟩ := (@recvMsg_ok_iff allocated msgType f.header
    ((popped f.packet r.rxBuffer).drop payLoadOffset)).mpr fun hannounce =>
      f.path (hannounce ▸ hkind) _
  have hhead : message.head = f.header := head_of_recvMsg hmessage
  have hcode : msgTypeOfCode (bufferHeader (popped f.packet
      r.rxBuffer)).messageType = some msgType := by
    rw [f.bufferHeader_popped]
    exact hkind
  rw [← f.bufferHeader_popped r.rxBuffer] at hmessage hts
  rw [← f.parseSrcPort_popped r.rxBuffer] at hts
  have hresult : recvPtpFrame allocated r = .ok (some
      { returnType := msgType
        message := message
        ts := ts
        portNumber := parseSrcPort (popped f.packet r.rxBuffer) }, r') := by
    unfold recvPtpFrame
    rw [hqueue]
    exact (recvFrame_ok_iff (r := f.taken r queue) hcode).mpr
      ⟨message, ts, hmessage, hts, rfl⟩
  exact ⟨_, hresult, rfl, f.parseSrcPort_popped r.rxBuffer, hhead, rfl⟩

theorem recvPtpFrame_general (hqueue : r.queue = f.packet :: queue)
    (hkind : f.kind = some msgType) (hgeneral : f.isEventFrame = false)
    (allocated : Allocated) :
    exists received,
      recvPtpFrame allocated r = .ok (some received, f.taken r queue) ∧
        Own f received := by
  have hevent : ¬ isEvent msgType = true := by
    unfold isEventFrame at hgeneral
    rw [hkind] at hgeneral
    exact Bool.eq_false_iff.mp hgeneral
  have hts : recvTimestamp msgType f.header f.port allocated
      (f.taken r queue) = .ok (none, f.taken r queue) :=
    if_neg hevent
  obtain ⟨received, hrecv, htype, hport, hhead, hnone⟩ :=
    recvPtpFrame_known hqueue hkind hts
  refine ⟨received, hrecv, own_of_received ?_ hport hhead ?_⟩
  · rw [hkind, htype]
  · rw [hnone, hgeneral]
    rfl

theorem recvPtpFrame_event {skipped rest : List IngressFrame}
    (hqueue : r.queue = f.packet :: queue) (hevent : f.isEventFrame = true)
    (hfifo : r.rxTimestamps f.port =
      (skipped ++ f :: rest).map IngressFrame.timestamp)
    (hskipped : forall s, s ∈ skipped -> s.key ≠ f.key)
    (allocated : Allocated) :
    exists received,
      recvPtpFrame allocated r = .ok (some received,
        { f.taken r queue with
          rxTimestamps := Function.update r.rxTimestamps f.port
            (rest.map IngressFrame.timestamp) }) ∧
        Own f received := by
  obtain ⟨msgType, hkind, htype⟩ := (Option.any_eq_true _ _).mp hevent
  have hawait : awaitTimestamp msgType f.header.sequenceId
      (r.rxTimestamps f.port) =
        .ok (f.timestamp, rest.map IngressFrame.timestamp) := by
    rw [hfifo, List.map_append, List.map_cons]
    refine awaitTimestamp_skips ?_ ((answers_iff hkind).mpr rfl)
    intro ts hts hanswers
    obtain ⟨s, hs, rfl⟩ := List.mem_map.mp hts
    exact hskipped s hs ((answers_iff hkind).mp hanswers)
  have hport : f.port = 1 ∨ f.port = 2 ∨ f.port = 3 ∨ f.port = 4 :=
    parseSrcPort_known f.srcPort
  have hts : recvTimestamp msgType f.header f.port allocated
      (f.taken r queue) = .ok (some f.timestamp,
        { f.taken r queue with
          rxTimestamps := Function.update r.rxTimestamps f.port
            (rest.map IngressFrame.timestamp) }) := by
    unfold recvTimestamp rxTimestamp
    rw [if_pos htype, if_pos hport]
    change (awaitTimestamp msgType f.header.sequenceId (r.rxTimestamps f.port)
      >>= _) >>= _ = _
    rw [hawait]
    rfl
  obtain ⟨received, hrecv, hreturn, hnumber, hhead, hsome⟩ :=
    recvPtpFrame_known hqueue hkind hts
  refine ⟨received, hrecv, own_of_received ?_ hnumber hhead ?_⟩
  · rw [hkind, hreturn]
  · rw [hsome, hevent]
    rfl

end Reception

end IngressFrame

/-!
## The queues in step
-/

theorem eventsAt_cons {f : IngressFrame} (h : f.isEventFrame = true)
    (frames : List IngressFrame) :
    eventsAt f.port (f :: frames) = f :: eventsAt f.port frames :=
  List.filter_cons_of_pos (by rw [h, beq_self_eq_true]; rfl)

theorem eventsAt_cons_other {f : IngressFrame} {port : UInt16}
    (h : f.isEventFrame = true -> f.port ≠ port) (frames : List IngressFrame) :
    eventsAt port (f :: frames) = eventsAt port frames := by
  refine List.filter_cons_of_neg ?_
  rw [Bool.and_eq_true, beq_iff_eq]
  rintro ⟨hevent, hport⟩
  exact h hevent hport

theorem eventsAt_append (port : UInt16) (frames later : List IngressFrame) :
    eventsAt port (frames ++ later) =
      eventsAt port frames ++ eventsAt port later :=
  List.filter_append _ _

theorem mem_eventsAt {f : IngressFrame} {port : UInt16}
    {frames : List IngressFrame} :
    f ∈ eventsAt port frames <->
      f ∈ frames ∧ f.isEventFrame = true ∧ f.port = port := by
  rw [eventsAt, List.mem_filter, Bool.and_eq_true, beq_iff_eq]

/--
The receiver is where the service is, and the queues of timestamps are in step
with the frames that are still to be taken.
-/
structure Synced (arrived pending : List IngressFrame) (q : Service)
    (s : ReceiverRun) : Prop where
  queue : s.receiver.queue = q.waiting.map IngressFrame.packet
  results : List.Forall₂ Own (q.taken.filter IngressFrame.isKnown) s.results
  inStep : forall port, port ∈ tsuPorts -> exists rest,
    s.receiver.rxTimestamps port = rest.map IngressFrame.timestamp ∧
      InStep (eventsAt port arrived) (eventsAt port q.taken)
        (eventsAt port pending) rest

section Steps

variable {arrived pending waiting : List IngressFrame} {f : IngressFrame}
  {q : Service} {s : ReceiverRun}

theorem Synced.push (h : Synced arrived pending q s) (f : IngressFrame) :
    exists s', stepReceiver (.ok s) (.push f) = .ok s' ∧
      Synced arrived pending (stepService q (.push f)) s' := by
  refine ⟨_, rfl, ?_, h.results, h.inStep⟩
  change s.receiver.queue ++ [f.packet] = (q.waiting ++ [f]).map _
  rw [h.queue, List.map_append]
  rfl

/-- A frame without a timestamp leaves the queues of timestamps alone. -/
theorem inStep_general (h : Synced arrived (f :: pending) q s)
    (hgeneral : f.isEventFrame = false) (port : UInt16)
    (hport : port ∈ tsuPorts) :
    exists rest, s.receiver.rxTimestamps port =
        rest.map IngressFrame.timestamp ∧
      InStep (eventsAt port arrived) (eventsAt port (q.taken ++ [f]))
        (eventsAt port pending) rest := by
  have hother : f.isEventFrame = true -> f.port ≠ port := by
    intro hevent
    rw [hgeneral] at hevent
    cases hevent
  obtain ⟨rest, hfifo, hstep⟩ := h.inStep port hport
  rw [eventsAt_cons_other hother] at hstep
  rw [eventsAt_append, eventsAt_cons_other hother]
  exact ⟨rest, hfifo, by rwa [show eventsAt port [] = [] from rfl,
    List.append_nil]⟩

/-- The frame that has waited longest is received. -/
theorem Synced.recv (h : Synced arrived (f :: pending) q s)
    (hkeys : forall port, port ∈ tsuPorts ->
      ((eventsAt port arrived).map IngressFrame.key).Nodup)
    (hwaiting : q.waiting = f :: waiting) (allocated : Allocated) :
    exists s', stepReceiver (.ok s) (.recv allocated) = .ok s' ∧
      Synced arrived pending { taken := q.taken ++ [f], waiting := waiting }
        s' := by
  have hqueue : s.receiver.queue =
      f.packet :: waiting.map IngressFrame.packet := by
    rw [h.queue, hwaiting]
    rfl
  have hresults : forall received, f.isKnown = true -> Own f received ->
      List.Forall₂ Own ((q.taken ++ [f]).filter IngressFrame.isKnown)
        (s.results ++ [received]) := by
    intro received hknown hown
    rw [List.filter_append, List.filter_singleton, hknown]
    exact List.rel_append h.results (List.Forall₂.cons hown List.Forall₂.nil)
  by_cases hevent : f.isEventFrame = true
  · obtain ⟨fifo, hfifo, hstep⟩ := h.inStep f.port f.port_mem
    rw [eventsAt_cons hevent] at hstep
    obtain ⟨skipped, rest, rfl, hskipped, hnext⟩ :=
      hstep.next (hkeys f.port f.port_mem)
    obtain ⟨received, hrecv, hown⟩ :=
      f.recvPtpFrame_event hqueue hevent hfifo hskipped allocated
    have hknown : f.isKnown = true := Option.isSome_of_eq_some hown.kind
    refine ⟨_, bind_eq_ok.mpr ⟨s, rfl, bind_eq_ok.mpr ⟨_, hrecv, rfl⟩⟩, rfl,
      hresults received hknown hown, ?_⟩
    intro port hport
    by_cases hsame : port = f.port
    · subst hsame
      refine ⟨rest, Function.update_self _ _ _, ?_⟩
      rw [eventsAt_append, eventsAt_cons hevent]
      exact hnext
    · obtain ⟨other, hother, hkept⟩ := h.inStep port hport
      have hne : f.isEventFrame = true -> f.port ≠ port :=
        fun _ heq => hsame heq.symm
      rw [eventsAt_cons_other hne] at hkept
      refine ⟨other, (Function.update_of_ne hsame _ _).trans hother, ?_⟩
      rw [eventsAt_append, eventsAt_cons_other hne]
      rwa [show eventsAt port [] = [] from rfl, List.append_nil]
  · rw [Bool.not_eq_true] at hevent
    have hstep := inStep_general h hevent
    cases hkind : f.kind with
    | none =>
        have hunknown : f.isKnown = false := by
          rw [IngressFrame.isKnown, hkind]
          rfl
        refine ⟨_, bind_eq_ok.mpr ⟨s, rfl, bind_eq_ok.mpr
          ⟨_, f.recvPtpFrame_unknown hqueue hkind allocated, rfl⟩⟩, rfl, ?_,
          hstep⟩
        change List.Forall₂ Own _ (s.results ++ [])
        rw [List.filter_append, List.filter_singleton, hunknown]
        exact List.rel_append h.results List.Forall₂.nil
    | some msgType =>
        obtain ⟨received, hrecv, hown⟩ :=
          f.recvPtpFrame_general hqueue hkind hevent allocated
        have hknown : f.isKnown = true := Option.isSome_of_eq_some hown.kind
        exact ⟨_, bind_eq_ok.mpr ⟨s, rfl, bind_eq_ok.mpr ⟨_, hrecv, rfl⟩⟩, rfl,
          hresults received hknown hown, hstep⟩

theorem stepReceiver_empty (h : s.receiver.queue = []) (allocated : Allocated) :
    stepReceiver (.ok s) (.recv allocated) = .ok s := by
  have hrecv : recvPtpFrame allocated s.receiver = .ok (none, s.receiver) := by
    unfold recvPtpFrame
    rw [h]
  refine bind_eq_ok.mpr ⟨s, rfl, bind_eq_ok.mpr ⟨_, hrecv, ?_⟩⟩
  change Except.ok { s with results := s.results ++ [] } = _
  rw [List.append_nil]

end Steps

/-!
## Every run
-/

section Runs

variable {arrived delivered : List IngressFrame} {r : Receiver}

theorem service_concat (events : List ReceiverEvent) (e : ReceiverEvent) :
    service (events ++ [e]) = stepService (service events) e :=
  runEvents_concat _ _ _ _

/-- What holds after a run whose frames are the first that are delivered. -/
def InService (arrived delivered : List IngressFrame)
    (events : List ReceiverEvent) (s : Except Fault ReceiverRun) : Prop :=
  deliveries events <+: delivered ->
    exists run pending, s = .ok run ∧
      delivered = (service events).taken ++ pending ∧
      Synced arrived pending (service events) run

theorem inService_step
    (hkeys : forall port, port ∈ tsuPorts ->
      ((eventsAt port arrived).map IngressFrame.key).Nodup)
    {events : List ReceiverEvent} {s : Except Fault ReceiverRun}
    (h : InService arrived delivered events s) (e : ReceiverEvent) :
    InService arrived delivered (events ++ [e]) (stepReceiver s e) := by
  intro hprefix
  have hpushed : deliveries (events ++ [e]) =
      deliveries events ++ deliveries [e] := List.flatMap_append
  obtain ⟨run, pending, rfl, hdelivered, hsynced⟩ :=
    h ((List.prefix_append _ _).trans (hpushed ▸ hprefix))
  rw [service_concat]
  cases e with
  | push frame =>
      obtain ⟨run', hstep, hnext⟩ := hsynced.push frame
      exact ⟨run', pending, hstep, hdelivered, hnext⟩
  | recv allocated =>
      cases hwaiting : (service events).waiting with
      | nil =>
          have hempty : run.receiver.queue = [] := by
            rw [hsynced.queue, hwaiting]
            rfl
          rw [stepService, hwaiting]
          exact ⟨run, pending, stepReceiver_empty hempty allocated, hdelivered,
            hsynced⟩
      | cons frame waiting =>
          have hpending : frame :: waiting <+: pending := by
            rw [deliveries_service, service_concat, stepService, hwaiting,
              hdelivered] at hprefix
            simp only [List.append_assoc, List.singleton_append] at hprefix
            exact (List.prefix_append_right_inj _).mp hprefix
          obtain ⟨later, rfl⟩ := hpending
          obtain ⟨run', hstep, hnext⟩ := hsynced.recv hkeys hwaiting allocated
          rw [stepService, hwaiting]
          refine ⟨run', waiting ++ later, hstep, ?_, hnext⟩
          rw [hdelivered]
          simp

/--
However the deliveries and the calls alternate, and whatever is lost: every call
returns, the messages are those of the frames, in their order and with their own
timestamps, and only the entries of frames that are lost are dropped.
-/
theorem own_timestamps (events : List ReceiverEvent) (hqueue : r.queue = [])
    (hfifo : forall port, port ∈ tsuPorts ->
      r.rxTimestamps port =
        (eventsAt port arrived).map IngressFrame.timestamp)
    (hkeys : forall port, port ∈ tsuPorts ->
      ((eventsAt port arrived).map IngressFrame.key).Nodup)
    (hlost : forall port, port ∈ tsuPorts ->
      (eventsAt port delivered).Sublist (eventsAt port arrived))
    (hdelivered : deliveries events <+: delivered) :
    exists s,
      runEvents stepReceiver (.ok { receiver := r, results := [] }) events =
          .ok s ∧
        s.receiver.queue =
          (service events).waiting.map IngressFrame.packet ∧
        List.Forall₂ Own ((service events).taken.filter IngressFrame.isKnown)
          s.results ∧
        forall port, port ∈ tsuPorts ->
          exists past rest, eventsAt port arrived = past ++ rest ∧
            s.receiver.rxTimestamps port = rest.map IngressFrame.timestamp ∧
            (eventsAt port (service events).taken).Sublist past ∧
            forall f, f ∈ past ->
              f ∈ (service events).taken ∨ f ∉ delivered := by
  have hstart : InService arrived delivered []
      (.ok { receiver := r, results := [] }) := by
    intro _
    refine ⟨_, delivered, rfl, rfl, ?_, List.Forall₂.nil, ?_⟩
    · exact hqueue
    · intro port hport
      exact ⟨_, hfifo port hport, InStep.start (hlost port hport)⟩
  have halways : forall (s : Except Fault ReceiverRun) (e : ReceiverEvent),
      e ∈ events -> (fun _ _ => True) s e := fun _ _ _ => trivial
  obtain ⟨s, pending, hrun, hsplit, hsynced⟩ := history_invariant hstart
    (fun history e h _ => inService_step hkeys h e)
    (along_of_forall halways _) hdelivered
  refine ⟨s, hrun, hsynced.queue, hsynced.results, fun port hport => ?_⟩
  obtain ⟨rest, hrest, past, hpast, htaken, hpending⟩ :=
    hsynced.inStep port hport
  refine ⟨past, rest, hpast, hrest, htaken, fun f hf => ?_⟩
  have hnodup : (eventsAt port arrived).Nodup := (hkeys port hport).of_map _
  have hmem : f ∈ eventsAt port arrived := hpast ▸ List.mem_append_left _ hf
  have hlostOrTaken : f ∈ eventsAt port (service events).taken ∨
      f ∉ eventsAt port (service events).taken ++ eventsAt port pending :=
    InStep.lost hpast hpending hnodup hf
  rcases hlostOrTaken with htaken | hnever
  · exact Or.inl (mem_eventsAt.mp htaken).left
  · refine Or.inr fun hin => hnever ?_
    rw [← eventsAt_append, ← hsplit]
    exact mem_eventsAt.mpr ⟨hin, (mem_eventsAt.mp hmem).right⟩

end Runs

/-!
## A lost frame
-/

def syncOctets (sequenceId : UInt8) : List UInt8 :=
  0 :: 0 :: 1 :: (List.replicate 73 0 ++ [0, sequenceId, 0, 0])

/-- The first `SYNC` on port 1, or the second one. -/
def syncFrame (second : Bool) : IngressFrame where
  packet :=
    { octets := syncOctets (if second then 2 else 1)
      length_le := by cases second <;> decide +kernel }
  entry :=
    { secondsMsb := 0
      secondsLsb := if second then 11 else 10
      nanoseconds := 0
      messageId := 0
      checksum := 0
      sequenceId := if second then 2 else 1 }
  whole := by cases second <;> decide +kernel
  srcPort := by cases second <;> decide +kernel
  path := by
    intro h
    refine absurd h ?_
    cases second <;> decide +kernel
  messageId := by cases second <;> decide +kernel
  sequenceId := by cases second <;> decide +kernel

/-- The queue of port 1 holds the timestamps of both frames. -/
def bothTimestamps : Receiver where
  queue := []
  rxBuffer := List.replicate maxPktLen 0
  rxTimestamps := fun port =>
    (eventsAt port [syncFrame false, syncFrame true]).map
      IngressFrame.timestamp

/-- The first frame is lost, and the second one gets its own timestamp. -/
theorem own_timestamps_lostFrame :
    exists s,
      runEvents stepReceiver (.ok { receiver := bothTimestamps, results := [] })
          [.push (syncFrame true), .recv zeroAllocated] = .ok s ∧
        s.results.map Received.ts = [some (syncFrame true).timestamp] := by
  have hkeys : ([syncFrame false, syncFrame true].map
      IngressFrame.key).Nodup := by decide
  obtain ⟨s, hrun, _, hresults, _⟩ :=
    @own_timestamps [syncFrame false, syncFrame true] [syncFrame true]
      bothTimestamps [.push (syncFrame true), .recv zeroAllocated] rfl
      (fun _ _ => rfl) (fun _ _ => hkeys.sublist (List.filter_sublist.map _))
      (fun _ _ => (List.Sublist.cons _ (List.Sublist.refl _)).filter _)
      (List.prefix_refl _)
  have htaken : (service [.push (syncFrame true),
      .recv zeroAllocated]).taken.filter IngressFrame.isKnown =
        [syncFrame true] := by
    have hknown : (syncFrame true).isKnown = true := by decide +kernel
    exact List.filter_cons_of_pos hknown
  have hevent : (syncFrame true).isEventFrame = true := by decide +kernel
  rw [htaken] at hresults
  obtain ⟨received, rest, hown, hrest, hs⟩ := List.forall₂_cons_left_iff.mp hresults
  cases hrest
  refine ⟨s, hrun, ?_⟩
  rw [hs, List.map_singleton, hown.ts, if_pos hevent]

end TimeSync
end Ziggo
