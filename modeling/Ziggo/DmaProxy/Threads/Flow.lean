import Ziggo.DmaProxy.Threads

/-!
# The frames on their way

What lies in the queue and on either side of it, and what whole calls of the
functions of the queue do to it.
-/

namespace Ziggo
namespace DmaProxy

open Foundation

namespace System

/-- The frame that is on its way to the queue. -/
def inTransit (s : System) (pushed : Bool) : List (List UInt8) :=
  match s.rxPoint with
  | .poll => if s.inFlight then [] else s.buffer.ptpFrames
  | .process => s.buffer.ptpFrames
  | .push => if pushed then [] else s.buffer.ptpFrames
  | .restart => []

/-- The frame that is on its way from the queue to the main loop. -/
def taken (v : Shared) (popped : Bool) : List (List UInt8) :=
  if popped then v.received else []

/--
The frames `written` to the queue are handled in the order of their arrival, and
those that are not handled lie in the queue.  The flags tell whether the frame
of the buffer has been pushed and whether one has been popped.
-/
structure Flow (s : System) (v : Shared) (pushed popped : Bool)
    (written : List (List UInt8)) : Prop where
  intact : Intact v.queue
  room : v.rxBuffer.length = maxPktLen.toInt.toNat
  lengths : forall frame, frame ∈ written ->
    frame.length = maxPktLen.toInt.toNat
  arrived : s.arrived = written ++ s.inTransit pushed
  order : s.handled ++ taken v popped <+: written
  holds : Ring.Holds (fun _ => []) written (s.handled ++ taken v popped).length
    (ring v.queue)

section Flow

variable {s s' : System} {v : Shared} {pushed pushed' popped : Bool}
  {written : List (List UInt8)}

theorem Flow.of_eq (h : s.Flow v pushed popped written)
    (harrived : s'.arrived = s.arrived) (hhandled : s'.handled = s.handled)
    (htransit : s'.inTransit pushed' = s.inTransit pushed) :
    s'.Flow v pushed' popped written where
  intact := h.intact
  room := h.room
  lengths := h.lengths
  arrived := by
    rw [harrived, htransit]
    exact h.arrived
  order := by
    rw [hhandled]
    exact h.order
  holds := by
    rw [hhandled]
    exact h.holds

theorem length_frame (b : ChannelBuffer) :
    b.frame.length = maxPktLen.toInt.toNat := by
  unfold ChannelBuffer.frame bytes
  rw [List.length_take, b.length_octets]
  decide

theorem Flow.push (h : s.Flow v false popped written)
    (hpoint : s.rxPoint = .push)
    (hptp : isPtpFrame s.buffer.octets = true)
    (hroom : v.queue.size < fifoSize) :
    exists v' written',
      (pushRegion s.buffer.octets maxPktLen).run v = .ok v' ∧
        s.Flow v' true popped written' := by
  have hoctets : maxPktLen.toInt.toNat ≤ s.buffer.octets.length := by
    rw [s.buffer.length_octets]
    decide
  obtain ⟨queue, hpush, hintact, hring⟩ :=
    pushQueue_ok h.intact hroom (by decide) (Int32.le_refl _) hoctets
  have hrun : (pushRegion s.buffer.octets maxPktLen).run v =
      .ok { v with queue := queue } := by
    rw [run_pushRegion, hpush]
    rfl
  have harrived := h.arrived
  refine ⟨_, written ++ [s.buffer.frame], hrun, ?_⟩
  constructor
  case intact => exact hintact
  case room => exact h.room
  case lengths =>
    intro frame hframe
    rcases List.mem_append.mp hframe with hframe | hframe
    · exact h.lengths frame hframe
    · rw [List.mem_singleton.mp hframe]
      exact length_frame s.buffer
  case arrived =>
    rw [harrived]
    unfold inTransit
    rw [hpoint]
    dsimp only
    unfold ChannelBuffer.ptpFrames
    rw [if_pos hptp]
    simp
  case order => exact h.order.trans (List.prefix_append _ _)
  case holds =>
    dsimp only
    rw [hring]
    exact h.holds.push hroom _

/-- The main loop takes the frame that has been written first. -/
theorem Flow.pop (h : s.Flow v pushed false written)
    (hsome : 0 < v.queue.size) :
    exists v', recvRegion.run v = .ok v' ∧ v'.status = .recvFrame ∧
      s.Flow v' pushed true written := by
  obtain ⟨queue, popped, hpop, hintact, hring, hbytes, _⟩ :=
    popQueue_ok h.intact hsome (Nat.le_of_eq h.room.symm)
  have hholds := h.holds
  have horder := h.order
  rw [show s.handled ++ taken v false = s.handled from List.append_nil _]
    at hholds horder
  obtain ⟨hread, hfirst⟩ := hholds.first hsome
  change (ring v.queue).slots v.queue.front = _ at hfirst
  rw [hfirst] at hbytes
  have hlength := h.lengths _ (List.getElem_mem hread)
  have hrun : recvRegion.run v =
      .ok { v with
        queue := queue
        status := .recvFrame
        rxBuffer := popped.buf
        length := popped.len } := by
    rw [run_recvRegion, if_pos hsome, hpop]
    rfl
  have htaken : popped.buf.take maxPktLen.toInt.toNat =
      written[s.handled.length] := by
    rw [hbytes, List.take_left' hlength]
  refine ⟨_, hrun, rfl, ?_⟩
  have hreceived : taken
      { v with
        queue := queue
        status := .recvFrame
        rxBuffer := popped.buf
        length := popped.len } true = [written[s.handled.length]] := by
    rw [← htaken]
    rfl
  constructor
  case intact => exact hintact
  case room =>
    dsimp only
    rw [hbytes, List.length_append, List.length_drop, hlength, h.room]
    exact Nat.add_sub_cancel' (Nat.le_refl _)
  case lengths => exact h.lengths
  case arrived => exact h.arrived
  case order =>
    rw [hreceived]
    have hhandled := List.prefix_iff_eq_take.mp horder
    rw [List.prefix_iff_eq_take, List.length_append, List.length_singleton,
      List.take_add_one, ← hhandled, List.getElem?_eq_getElem hread]
    rfl
  case holds =>
    rw [hreceived, List.length_append, List.length_singleton]
    dsimp only
    rw [hring]
    exact hholds.pop hsome

theorem Flow.recv (h : s.Flow v pushed false written) :
    exists v', recvRegion.run v = .ok v' ∧ s.Flow v' pushed true written := by
  by_cases hsome : 0 < v.queue.size
  · obtain ⟨v', hrun, _, hflow⟩ := h.pop hsome
    exact ⟨v', hrun, hflow⟩
  · refine ⟨{ v with status := .recvNothing }, ?_, ?_⟩
    · rw [run_recvRegion, if_neg hsome]
    · exact
        { intact := h.intact
          room := h.room
          lengths := h.lengths
          arrived := h.arrived
          order := h.order
          holds := h.holds }

/-- The main loop goes on with what it has taken. -/
theorem Flow.handle (h : s.Flow v pushed true written) :
    ({ s with
        syncPoint := .recv
        handled := s.handled ++ v.received } : System).Flow v pushed false
      written where
  intact := h.intact
  room := h.room
  lengths := h.lengths
  arrived := h.arrived
  order := by
    change (s.handled ++ v.received) ++ [] <+: written
    rw [List.append_nil]
    exact h.order
  holds := by
    change Ring.Holds _ _ ((s.handled ++ v.received) ++ []).length _
    rw [List.append_nil]
    exact h.holds

end Flow

end System

end DmaProxy
end Ziggo
