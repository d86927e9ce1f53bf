import Ziggo.DmaProxy.Threads.Delivery
import Ziggo.TimeSync.EthFrame.RoundTrip

/-!
# The queue as the main loop sees it

`recv_ptp_frame` is modelled with a list of packets in the main loop, and with
the cyclic queue and the lock here.  Both are the same in every state that the
threads reach.
-/

namespace Ziggo
namespace DmaProxy

open Foundation

namespace System

/--
The list of packets of a receiver contains what has arrived and has not been
handled, except for the frame on its way to the queue.
-/
structure Represents (s : System) (r : TimeSync.Receiver) : Prop where
  rxBuffer : r.rxBuffer = s.guarded.shared.rxBuffer
  queue : s.arrived =
    s.handled ++ r.queue.map TimeSync.Packet.octets ++ s.inTransit false

section Receive

variable {s : System} {r : TimeSync.Receiver}

theorem Invariant.beforeRecv (h : s.Invariant) (hlock : s.guarded.lock = none)
    (hpoint : s.syncPoint = .recv) (hrepresents : s.Represents r) :
    s.Flow s.guarded.shared false false
      (s.handled ++ r.queue.map TimeSync.Packet.octets) := by
  obtain ⟨written, hflow, _⟩ := h.unlocked hlock
  have hpopping : s.popping = false := by
    unfold popping
    rw [hpoint, h.exclusive.outside hlock]
    rfl
  rw [hpopping] at hflow
  have hwritten := hflow.arrived.symm.trans hrepresents.queue
  rw [← List.append_cancel_right hwritten]
  exact hflow

theorem Flow.size {packets : List (List UInt8)} {v : Shared} {pushed : Bool}
    (h : s.Flow v pushed false (s.handled ++ packets)) :
    v.queue.size = packets.length := by
  have hsize : (s.handled ++ []).length + v.queue.size =
      (s.handled ++ packets).length := h.holds.size
  rw [List.append_nil, List.length_append] at hsize
  omega

theorem Flow.rxBuffer {v : Shared} {pushed : Bool} {packet : List UInt8}
    {packets : List (List UInt8)}
    (h : s.Flow v pushed true (s.handled ++ packet :: packets))
    (hstatus : v.status = .recvFrame) : v.rxBuffer = packet := by
  have horder := h.order
  have htaken : taken v true = [v.rxBuffer] := by
    unfold taken Shared.received
    rw [if_pos rfl, if_pos hstatus,
      List.take_of_length_le (Nat.le_of_eq h.room)]
  rw [htaken, List.prefix_append_right_inj] at horder
  exact (List.cons_prefix_cons.mp horder).left

theorem Invariant.recvPtpFrame (h : s.Invariant)
    (hlock : s.guarded.lock = none) (hpoint : s.syncPoint = .recv)
    (hrepresents : s.Represents r) (allocated : TimeSync.Allocated) :
    exists v, recvRegion.run s.guarded.shared = .ok v ∧
      TimeSync.recvPtpFrame allocated r =
        match v.status with
        | .recvFrame =>
            TimeSync.recvFrame allocated
              { r with
                queue := r.queue.tail
                rxBuffer := v.rxBuffer }
        | .recvNothing => .ok (none, r) := by
  have hflow := h.beforeRecv hlock hpoint hrepresents
  have hsize := hflow.size
  unfold TimeSync.recvPtpFrame
  cases hqueue : r.queue with
  | nil =>
      rw [hqueue] at hsize
      refine ⟨{ s.guarded.shared with status := .recvNothing }, ?_, rfl⟩
      rw [run_recvRegion, if_neg]
      rw [hsize]
      exact Nat.lt_irrefl 0
  | cons packet packets =>
      rw [hqueue] at hflow hsize
      have hsome : 0 < s.guarded.shared.queue.size := by
        rw [hsize]
        exact Nat.succ_pos _
      obtain ⟨v, hrun, hstatus, hpopped⟩ := hflow.pop hsome
      have hbuffer := hpopped.rxBuffer hstatus
      have hlength : packet.octets.length = r.rxBuffer.length := by
        rw [← hbuffer, hpopped.room, hrepresents.rxBuffer, hflow.room]
      refine ⟨v, hrun, ?_⟩
      rw [hstatus, hbuffer]
      dsimp only
      rw [List.drop_of_length_le (Nat.le_of_eq hlength.symm), List.append_nil]
      rfl

end Receive

/--
Whenever the main loop takes the lock, what it takes from the cyclic queue is
what it takes from the list of packets, and `recv_ptp_frame` goes on with it.
-/
theorem recvPtpFrame_after (memory : Memory) (es : List Event)
    (r : TimeSync.Receiver) (allocated : TimeSync.Allocated)
    (hlock : (after memory es).guarded.lock = none)
    (hpoint : (after memory es).syncPoint = .recv)
    (hrepresents : (after memory es).Represents r) :
    exists v, recvRegion.run (after memory es).guarded.shared = .ok v ∧
      TimeSync.recvPtpFrame allocated r =
        match v.status with
        | .recvFrame =>
            TimeSync.recvFrame allocated
              { r with
                queue := r.queue.tail
                rxBuffer := v.rxBuffer }
        | .recvNothing => .ok (none, r) :=
  (invariant_after memory es).recvPtpFrame hlock hpoint hrepresents allocated

def zeroMemory : Memory where
  blocks := zeroBlocks
  status := .recvNothing
  rxBuffer := List.replicate 1600 0
  length_rxBuffer := List.length_replicate
  length := 0
  buffer :=
    { octets := List.replicate bufferSize 0
      length_octets := List.length_replicate }

/-- A PTP frame, with zeros in the header of the switch and in the rest. -/
def ptpBuffer : ChannelBuffer where
  octets := List.replicate cpuHeaderLength 0 ++
    [0x01, 0x80, 0xc2, 0x00, 0x00, 0x0e] ++
    List.replicate (bufferSize - cpuHeaderLength - 6) 0
  length_octets := by
    rw [List.length_append, List.length_append, List.length_replicate,
      List.length_replicate]
    rfl

theorem idle_ptpBuffer :
    (after zeroMemory [.transfer ptpBuffer]).Idle [ptpBuffer.frame] where
  invariant := invariant_after zeroMemory [.transfer ptpBuffer]
  running := rfl
  unlocked := rfl
  arrived := by
    have hptp : isPtpFrame ptpBuffer.octets = true := by decide +kernel
    change [] ++ ptpBuffer.ptpFrames = _
    unfold ChannelBuffer.ptpFrames
    rw [if_pos hptp]
    rfl

theorem recvPtpFrame_ptpBuffer :
    exists es r v, r.queue.map TimeSync.Packet.octets = [ptpBuffer.frame] ∧
      recvRegion.run (after zeroMemory es).guarded.shared = .ok v ∧
      TimeSync.recvPtpFrame TimeSync.zeroAllocated r =
        match v.status with
        | .recvFrame =>
            TimeSync.recvFrame TimeSync.zeroAllocated
              { r with
                queue := r.queue.tail
                rxBuffer := v.rxBuffer }
        | .recvNothing => .ok (none, r) := by
  have hidle := idle_ptpBuffer
  have hfits : (after zeroMemory [.transfer ptpBuffer]).arrived.length ≤
      (after zeroMemory [.transfer ptpBuffer]).handled.length + fifoSize := by
    rw [hidle.arrived]
    decide
  obtain ⟨ts, hresting, hhandled⟩ :=
    (hidle.leads_resting rfl).fits hidle.invariant hfits
  have hafter : after zeroMemory (.transfer ptpBuffer :: ts.map Thread.event) =
      runEvents step (after zeroMemory [.transfer ptpBuffer])
        (ts.map Thread.event) := rfl
  rw [← hafter] at hresting hhandled
  have hlength : ptpBuffer.frame.length ≤ TimeSync.maxPktLen :=
    Nat.le_of_eq (length_frame ptpBuffer)
  have hrepresents : (after zeroMemory
      (.transfer ptpBuffer :: ts.map Thread.event)).Represents
        { queue := [⟨ptpBuffer.frame, hlength⟩]
          rxBuffer := (after zeroMemory (.transfer ptpBuffer ::
            ts.map Thread.event)).guarded.shared.rxBuffer
          rxTimestamps := fun _ => [] } := by
    constructor
    case rxBuffer => rfl
    case queue =>
      rw [hresting.arrived, hresting.inTransit, hhandled]
      rfl
  obtain ⟨v, hrun, hrecv⟩ := recvPtpFrame_after zeroMemory
    (.transfer ptpBuffer :: ts.map Thread.event) _ TimeSync.zeroAllocated
    hresting.unlocked
    hresting.syncPoint hrepresents
  exact ⟨_, _, v, rfl, hrun, hrecv⟩

end System

end DmaProxy
end Ziggo
