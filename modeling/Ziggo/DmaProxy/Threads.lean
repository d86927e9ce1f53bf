import Ziggo.DmaProxy.BufferQueue.Refinement
import Ziggo.Foundation.CriticalRegion

/-!
# The two threads of the program

`DMA_rx_thread` of `dma-proxy.c` polls the channel and pushes the PTP frames
that it receives to the queue.  The main loop takes them from the queue in
`recv_ptp_frame`.  Both hold `buf_queue_lock` meanwhile.  The steps of the two
threads and of the DMA engine may come in any order.
-/

namespace Ziggo
namespace DmaProxy

open Foundation

/-!
## The critical regions
-/

inductive Thread where
  | dmaRx
  | timeSync
deriving DecidableEq

inductive RecvStatus where
  | recvFrame
  | recvNothing
deriving DecidableEq

/-- The variables that the threads access in their regions. -/
structure Shared where
  queue : BufferQueue
  /-- `Status` of `recv_ptp_frame` -/
  status : RecvStatus
  /-- `RxBufferPtr` -/
  rxBuffer : List UInt8
  length : Int32

def onQueue (f : BufferQueue -> BufferQueue) (s : Shared) :
    Except Fault Shared :=
  .ok { s with queue := f s.queue }

/-- The statements of `push_queue`. -/
def pushRegion (buf : List UInt8) (len : Int32) : Region Shared :=
  .statement (fun s =>
    if s.queue.size ≥ fifoSize then .error .exit else .ok s) <|
  .statement (fun s => if len > maxPktLen then .error .exit else .ok s) <|
  .statement (fun s => do
    let block <- memcpy (s.queue.bufArray s.queue.rear) buf len
    onQueue (fun queue =>
      { queue with
        bufArray := Function.update queue.bufArray queue.rear block }) s) <|
  .statement (onQueue fun queue =>
    { queue with
      lenArray := Function.update queue.lenArray queue.rear len }) <|
  .statement (onQueue fun queue => { queue with rear := queue.rear + 1 }) <|
  .statement (onQueue fun queue => { queue with size := queue.size + 1 }) .done

/-- The statements of `pop_queue`. -/
def popRegion : Region Shared :=
  .statement (fun s =>
    if s.queue.size = 0 then .error .exit else .ok s) <|
  .statement (fun s => do
    let buf <- memcpy s.rxBuffer (s.queue.bufArray s.queue.front)
      (s.queue.lenArray s.queue.front)
    return { s with rxBuffer := buf }) <|
  .statement (onQueue fun queue => { queue with front := queue.front + 1 }) <|
  .statement (onQueue fun queue => { queue with size := queue.size - 1 }) <|
  .statement (fun s =>
    .ok { s with length := s.queue.lenArray s.queue.front }) .done

/-- The region of `recv_ptp_frame`. -/
def recvRegion : Region Shared :=
  .choice (fun s => decide (0 < s.queue.size))
    (.statement (fun s => .ok { s with status := .recvFrame }) popRegion)
    (.statement (fun s => .ok { s with status := .recvNothing }) .done)

theorem run_pushRegion (buf : List UInt8) (len : Int32) (s : Shared) :
    (pushRegion buf len).run s =
      (pushQueue s.queue buf len).map fun queue =>
        { s with queue := queue } := by
  unfold pushRegion pushQueue
  simp only [Region.run]
  by_cases hroom : s.queue.size ≥ fifoSize
  · rw [if_pos hroom, if_pos hroom]
    rfl
  · rw [if_neg hroom, if_neg hroom]
    by_cases hlen : len > maxPktLen
    · rw [if_pos hlen]
      change (if len > maxPktLen then Except.error Fault.exit else _) >>= _ = _
      rw [if_pos hlen]
      rfl
    · rw [if_neg hlen]
      change (if len > maxPktLen then Except.error Fault.exit else _) >>= _ = _
      rw [if_neg hlen]
      change (memcpy (s.queue.bufArray s.queue.rear) buf len >>= _) >>= _ = _
      cases memcpy (s.queue.bufArray s.queue.rear) buf len with
      | error f => rfl
      | ok block => rfl

theorem run_popRegion (s : Shared) :
    popRegion.run s =
      (popQueue s.queue s.rxBuffer).map fun result =>
        { s with
          queue := result.1
          rxBuffer := result.2.buf
          length := result.2.len } := by
  unfold popRegion popQueue
  simp only [Region.run]
  by_cases hempty : s.queue.size = 0
  · rw [if_pos hempty, if_pos hempty]
    rfl
  · rw [if_neg hempty, if_neg hempty]
    change (memcpy s.rxBuffer (s.queue.bufArray s.queue.front)
      (s.queue.lenArray s.queue.front) >>= _) >>= _ = _
    cases memcpy s.rxBuffer (s.queue.bufArray s.queue.front)
        (s.queue.lenArray s.queue.front) with
    | error f => rfl
    | ok buf => rfl

theorem run_recvRegion (s : Shared) :
    recvRegion.run s =
      if 0 < s.queue.size then
        (popQueue s.queue s.rxBuffer).map fun result =>
          { s with
            queue := result.1
            status := .recvFrame
            rxBuffer := result.2.buf
            length := result.2.len }
      else
        .ok { s with status := .recvNothing } := by
  unfold recvRegion
  rw [Region.run]
  by_cases hsome : 0 < s.queue.size
  · rw [if_pos (decide_eq_true hsome), if_pos hsome]
    exact run_popRegion { s with status := .recvFrame }
  · rw [if_neg (by rw [decide_eq_true_eq]; exact hsome), if_neg hsome]
    rfl

/-!
## The system
-/

def bufferSize : Nat := 128 * 1024

structure ChannelBuffer where
  octets : List UInt8
  length_octets : octets.length = bufferSize

def cpuHeaderLength : Nat := 32

def isPtpFrame (buf : List UInt8) : Bool :=
  (buf.drop cpuHeaderLength).take 6 = [0x01, 0x80, 0xc2, 0x00, 0x00, 0x0e]

/-- The statement of `DMA_rx_thread` that comes next. -/
inductive RxPoint where
  /-- The transfer is polled until it has been completed. -/
  | poll
  /-- `process_packet` -/
  | process
  /-- The thread waits for the lock, or is in its region. -/
  | push
  /-- The next transfer is started. -/
  | restart
deriving DecidableEq

/-- The statement of the main loop that comes next. -/
inductive SyncPoint where
  /-- `recv_ptp_frame` waits for the lock, or is in its region. -/
  | recv
  /-- The loop goes on with what it has received. -/
  | handle
deriving DecidableEq

structure System where
  guarded : Guarded Thread Shared
  buffer : ChannelBuffer
  /-- A transfer into the buffer has been started and not completed. -/
  inFlight : Bool
  rxPoint : RxPoint
  syncPoint : SyncPoint
  /-- The PTP frames that transfers have brought, as far as they are kept. -/
  arrived : List (List UInt8)
  /-- The frames that the main loop has gone on with. -/
  handled : List (List UInt8)

/-- The first octets of the buffer, which are pushed. -/
def ChannelBuffer.frame (b : ChannelBuffer) : List UInt8 :=
  bytes b.octets maxPktLen

def ChannelBuffer.ptpFrames (b : ChannelBuffer) : List (List UInt8) :=
  if isPtpFrame b.octets then [b.frame] else []

/-- The frame that `recv_ptp_frame` has taken from the queue. -/
def Shared.received (s : Shared) : List (List UInt8) :=
  if s.status = .recvFrame then [s.rxBuffer.take maxPktLen.toInt.toNat] else []

theorem keeps_pushRegion (buf : List UInt8) (len : Int32) :
    (pushRegion buf len).Keeps Shared.received := by
  have hqueue : forall (f : BufferQueue -> BufferQueue) s s',
      onQueue f s = .ok s' -> s'.received = s.received := by
    intro f s s' h
    cases h
    rfl
  refine ⟨?_, ?_, ?_, hqueue _, hqueue _, hqueue _, trivial⟩
  · intro s s' h
    dsimp only at h
    split at h
    · cases h
    · cases h
      rfl
  · intro s s' h
    dsimp only at h
    split at h
    · cases h
    · cases h
      rfl
  · intro s s' h
    obtain ⟨_, _, h⟩ := bind_eq_ok.mp h
    exact hqueue _ s s' h

/-- The memory of the program before the threads run. -/
structure Memory where
  blocks : Blocks
  status : RecvStatus
  rxBuffer : List UInt8
  length_rxBuffer : rxBuffer.length = maxPktLen.toInt.toNat
  length : Int32
  buffer : ChannelBuffer

namespace System

/-- The queue is empty, and the first transfer has been started. -/
def initial (memory : Memory) : System where
  guarded :=
    { shared :=
        { queue := initQueue memory.blocks
          status := memory.status
          rxBuffer := memory.rxBuffer
          length := memory.length }
      lock := none
      region _ := none
      stop := none }
  buffer := memory.buffer
  inFlight := true
  rxPoint := .poll
  syncPoint := .recv
  arrived := []
  handled := []

/-- A step of a thread that is about to enter its region, or in it. -/
def locked (t : Thread) (r : Region Shared) (released : System -> System)
    (s : System) : System :=
  match s.guarded.region t with
  | none => { s with guarded := s.guarded.enter t r }
  | some r =>
      if r.isDone then
        released { s with guarded := s.guarded.leave t }
      else
        { s with guarded := s.guarded.advance t r }

def dmaRxThread (s : System) : System :=
  match s.rxPoint with
  | .poll => if s.inFlight then s else { s with rxPoint := .process }
  | .process =>
      { s with
        rxPoint := if isPtpFrame s.buffer.octets then .push else .restart }
  | .push =>
      s.locked .dmaRx (pushRegion s.buffer.octets maxPktLen) fun s =>
        { s with rxPoint := .restart }
  | .restart =>
      { s with
        inFlight := true
        rxPoint := .poll }

def syncStep (s : System) : System :=
  match s.syncPoint with
  | .recv =>
      s.locked .timeSync recvRegion fun s => { s with syncPoint := .handle }
  | .handle =>
      { s with
        syncPoint := .recv
        handled := s.handled ++ s.guarded.shared.received }

section Steps

variable {s : System} {t : Thread} {r entered : Region Shared}
  {released : System -> System}

theorem locked_outside (hregion : s.guarded.region t = none) :
    s.locked t entered released =
      { s with guarded := s.guarded.enter t entered } := by
  unfold locked
  rw [hregion]

theorem locked_inside (hregion : s.guarded.region t = some r)
    (hr : r.isDone = false) :
    s.locked t entered released =
      { s with guarded := s.guarded.advance t r } := by
  unfold locked
  rw [hregion]
  dsimp only
  rw [hr]
  rfl

theorem locked_atEnd (hregion : s.guarded.region t = some .done) :
    s.locked t entered released =
      released { s with guarded := s.guarded.leave t } := by
  unfold locked
  rw [hregion]
  rfl

theorem dmaRxThread_push (hpoint : s.rxPoint = .push) :
    s.dmaRxThread = s.locked .dmaRx (pushRegion s.buffer.octets maxPktLen)
      fun s => { s with rxPoint := .restart } := by
  unfold dmaRxThread
  rw [hpoint]

theorem syncStep_recv (hpoint : s.syncPoint = .recv) :
    s.syncStep = s.locked .timeSync recvRegion
      fun s => { s with syncPoint := .handle } := by
  unfold syncStep
  rw [hpoint]

end Steps

inductive Event where
  /-- The DMA engine completes the transfer. -/
  | transfer (b : ChannelBuffer)
  | dmaRx
  | timeSync

def step (s : System) (e : Event) : System :=
  if s.guarded.stop ≠ none then
    s
  else
    match e with
    | .transfer b =>
        if s.inFlight then
          { s with
            buffer := b
            inFlight := false
            arrived := s.arrived ++ b.ptpFrames }
        else
          s
    | .dmaRx => s.dmaRxThread
    | .timeSync => s.syncStep

/-- The system after steps in any order. -/
def after (memory : Memory) (es : List Event) : System :=
  runEvents step (initial memory) es

end System

end DmaProxy
end Ziggo
