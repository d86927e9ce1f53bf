import Mathlib.Data.List.Chain
import Ziggo.TimeSync.EthFrame.RoundTrip

/-!
# Transmitted messages

Every message names the port it leaves by as its source, and the messages of a
kind that leave by one port are numbered.
-/

namespace Ziggo
namespace TimeSync

open Foundation TsnDrivers

/-- The message names the given clock and the port it leaves by as its source. -/
def Frame.Names (thisClock : ClockIdentity) (frame : Frame) : Prop :=
  frame.message.head.sourcePortIdentity =
    { clockIdentity := thisClock, portNumber := portNumberOf frame.port }

instance (thisClock : ClockIdentity) (frame : Frame) :
    Decidable (frame.Names thisClock) :=
  inferInstanceAs (Decidable (_ = _))

/--
The messages name the port they leave by, which is the given one, and are of
the given kinds.
-/
def Source (thisClock : ClockIdentity) (port : Port) (kinds : List PTPMsgType)
    (sent : List Frame) : Prop :=
  forall frame, frame ∈ sent ->
    frame.port = port ∧ frame.Names thisClock ∧ frame.message.kind ∈ kinds

section Sources

variable {thisClock : ClockIdentity} {port : Port} {kinds : List PTPMsgType}
  {sent : List Frame}

theorem source_nil : Source thisClock port kinds [] := by
  intro frame h
  cases h

theorem Source.send (h : Source thisClock port kinds sent) {message : PTPMsg}
    (hmessage : message.head.sourcePortIdentity =
      { clockIdentity := thisClock, portNumber := portNumberOf port })
    (hkind : message.kind ∈ kinds) :
    Source thisClock port kinds
      (sent ++ [{ port := port, message := message }]) := by
  intro frame hframe
  rcases List.mem_append.mp hframe with hold | hnew
  · exact h frame hold
  · rw [List.mem_singleton.mp hnew]
    exact ⟨rfl, hmessage, hkind⟩

end Sources

/-!
## Sequence numbers
-/

/-- The numbers of the messages of a kind that leave by a port. -/
def sequenceIds (kind : PTPMsgType) (port : Port) (sent : List Frame) :
    List UInt16 :=
  (sent.filter fun frame =>
    frame.port = port ∧ frame.message.kind = kind).map
      fun frame => frame.message.head.sequenceId

section SequenceIds

variable {kind : PTPMsgType} {port : Port} {sent : List Frame}

theorem sequenceIds_append (later : List Frame) :
    sequenceIds kind port (sent ++ later) =
      sequenceIds kind port sent ++ sequenceIds kind port later := by
  unfold sequenceIds
  rw [List.filter_append, List.map_append]

theorem sequenceIds_send {message : PTPMsg} (h : message.kind = kind) :
    sequenceIds kind port (sent ++ [{ port := port, message := message }]) =
      sequenceIds kind port sent ++ [message.head.sequenceId] := by
  rw [sequenceIds_append]
  unfold sequenceIds
  simp [h]

theorem sequenceIds_other {frame : Frame}
    (h : ¬ (frame.port = port ∧ frame.message.kind = kind)) :
    sequenceIds kind port (sent ++ [frame]) = sequenceIds kind port sent := by
  rw [sequenceIds_append]
  unfold sequenceIds
  rw [List.filter_singleton]
  simp [h]

end SequenceIds

/-- The numbers increase by one, and the given one comes next. -/
def Consecutive (ids : List UInt16) (next : UInt16) : Prop :=
  (ids ++ [next]).IsChain fun a b => b = a + 1

section Numbers

variable {ids : List UInt16} {next : UInt16}

theorem consecutive_nil (next : UInt16) : Consecutive [] next :=
  List.isChain_singleton next

theorem Consecutive.send (h : Consecutive ids next) :
    Consecutive (ids ++ [next]) (next + 1) := by
  unfold Consecutive
  refine List.isChain_append.mpr ⟨h, List.isChain_singleton _, ?_⟩
  intro a ha b hb
  rw [List.getLast?_concat] at ha
  cases ha
  cases hb
  rfl

theorem Consecutive.adjacent (h : Consecutive ids next) {a b : UInt16}
    (hab : [a, b] <:+: ids) : b = a + 1 := by
  have hinfix : [a, b] <:+: ids ++ [next] :=
    hab.trans (List.prefix_append ids [next]).isInfix
  have hpair : [a, b].IsChain fun a b => b = a + 1 :=
    List.IsChain.infix h hinfix
  cases hpair with
  | cons_cons hnext _ => exact hnext

end Numbers

end TimeSync
end Ziggo
