import Ziggo.DmaProxy.Threads.Invariant

/-!
# The order of the received frames
-/

namespace Ziggo
namespace DmaProxy

open Foundation

namespace System

/-- What holds between the steps of the two threads. -/
structure Orderly (s : System) : Prop where
  /-- No frame is lost, doubled, altered or overtaken. -/
  order : s.handled <+: s.arrived
  /-- The frames that wait are those of the queue, and one on either side. -/
  lag : s.arrived.length ≤ s.handled.length + fifoSize + 2
  exclusive : s.guarded.region .dmaRx = none ∨
    s.guarded.region .timeSync = none
  /-- The process ends when a frame arrives and the queue is full. -/
  stop : forall f, s.guarded.stop = some f ->
    f = .exit ∧ s.guarded.shared.queue.size = fifoSize ∧
      s.handled.length + fifoSize < s.arrived.length

theorem Flow.inOrder {s : System} {v : Shared} {pushed popped : Bool}
    {written : List (List UInt8)} (h : s.Flow v pushed popped written) :
    s.handled <+: s.arrived := by
  rw [h.arrived]
  exact ((List.prefix_append _ _).trans h.order).trans (List.prefix_append _ _)

theorem length_ptpFrames (b : ChannelBuffer) : b.ptpFrames.length ≤ 1 := by
  unfold ChannelBuffer.ptpFrames
  split
  · exact Nat.le_refl 1
  · exact Nat.zero_le 1

theorem length_inTransit (s : System) (pushed : Bool) :
    (s.inTransit pushed).length ≤ 1 := by
  have hbuffer := length_ptpFrames s.buffer
  unfold inTransit
  split
  · split
    · exact Nat.zero_le 1
    · exact hbuffer
  · exact hbuffer
  · split
    · exact Nat.zero_le 1
    · exact hbuffer
  · exact Nat.zero_le 1

theorem length_taken (v : Shared) (popped : Bool) :
    (taken v popped).length ≤ 1 := by
  unfold taken Shared.received
  split
  · split
    · exact Nat.le_refl 1
    · exact Nat.zero_le 1
  · exact Nat.zero_le 1

theorem Flow.lag {s : System} {v : Shared} {pushed popped : Bool}
    {written : List (List UInt8)} (h : s.Flow v pushed popped written) :
    s.arrived.length ≤ s.handled.length + fifoSize + 2 := by
  have hsize : (s.handled ++ taken v popped).length + v.queue.size =
      written.length := h.holds.size
  have hfits : v.queue.size ≤ fifoSize := h.holds.fits
  have htransit := length_inTransit s pushed
  have htaken := length_taken v popped
  rw [h.arrived, List.length_append]
  rw [List.length_append] at hsize
  omega

/-- The frame that finds the queue full has arrived, too. -/
theorem Invariant.waiting_of_overflows {s : System} (h : s.Invariant)
    (hoverflows : s.Overflows) :
    s.handled.length + fifoSize < s.arrived.length := by
  have hpoint := h.rxPoint _ hoverflows.region
  have hfull := hoverflows.full
  obtain ⟨written, hflow⟩ := hoverflows.flow
  have hsize : (s.handled ++ taken s.guarded.shared s.popping).length +
      s.guarded.shared.queue.size = written.length := hflow.holds.size
  have htransit : s.inTransit false = [s.buffer.frame] := by
    unfold inTransit ChannelBuffer.ptpFrames
    rw [hpoint, if_pos (h.ptp hpoint)]
    rfl
  rw [hflow.arrived, htransit, List.length_append, List.length_singleton]
  rw [List.length_append] at hsize
  omega

theorem Invariant.orderly {s : System} (h : s.Invariant) : s.Orderly := by
  have hflow : exists v pushed written, s.Flow v pushed s.popping written := by
    rcases h.flows with hflows | hoverflows
    · obtain ⟨v, written, _, hflow⟩ := hflows.flow
      exact ⟨v, s.pushing, written, hflow⟩
    · obtain ⟨written, hflow⟩ := hoverflows.flow
      exact ⟨s.guarded.shared, false, written, hflow⟩
  obtain ⟨v, pushed, written, hflow⟩ := hflow
  constructor
  case order => exact hflow.inOrder
  case lag => exact hflow.lag
  case exclusive =>
    cases hrx : s.guarded.region .dmaRx with
    | none => exact Or.inl rfl
    | some r =>
        cases hsync : s.guarded.region .timeSync with
        | none => exact Or.inr rfl
        | some r' => cases h.exclusive.eq hrx hsync
  case stop =>
    intro f hf
    rcases h.flows with hflows | hoverflows
    · cases hflows.stop.symm.trans hf
    · refine ⟨?_, hoverflows.full, h.waiting_of_overflows hoverflows⟩
      rcases hoverflows.stop with hnone | hexit
      · cases hnone.symm.trans hf
      · exact (Option.some.inj (hexit.symm.trans hf)).symm

/--
Whatever the order is in which the threads and the DMA engine take their steps,
the main loop handles the PTP frames that have been transferred one after the
other, and the process ends only when one of them finds the queue full.
-/
theorem after_orderly (memory : Memory) (es : List Event) :
    (after memory es).Orderly :=
  (invariant_after memory es).orderly

end System

end DmaProxy
end Ziggo
