import Mathlib.Algebra.GroupWithZero.Nat
import Mathlib.Logic.Function.Basic
import Ziggo.Foundation.Machine

/-!
# The queue between the receiving thread and the main loop

The cyclic queue of packets of `buffer_queue.c`.  The two threads hold a lock
while they call a function of the queue.
-/

namespace Ziggo
namespace DmaProxy

open Foundation

def fifoSize : Nat := 64

instance : NeZero fifoSize := ⟨by decide⟩

def maxPktLen : Int32 := 1600

structure BufferQueue where
  front : Fin fifoSize
  rear : Fin fifoSize
  size : Nat
  /-- The contents of the blocks that the pointers of the array designate. -/
  bufArray : Fin fifoSize -> List UInt8
  lenArray : Fin fifoSize -> Int32

/-- The blocks that `malloc` returns, with what they contain. -/
structure Blocks where
  octets : Fin fifoSize -> List UInt8
  length_octets : forall i, (octets i).length = maxPktLen.toInt.toNat + 1

def initQueue (blocks : Blocks) : BufferQueue where
  front := 0
  rear := 0
  size := 0
  bufArray := blocks.octets
  lenArray := fun _ => 0

/-- `memcpy`, which takes a negative length for a huge one. -/
def memcpy (dest src : List UInt8) (len : Int32) : Except Fault (List UInt8) :=
  if len < 0 ∨ src.length < len.toInt.toNat ∨
      dest.length < len.toInt.toNat then
    .error .outOfBounds
  else
    .ok (src.take len.toInt.toNat ++ dest.drop len.toInt.toNat)

def pushQueue (queue : BufferQueue) (buf : List UInt8) (len : Int32) :
    Except Fault BufferQueue :=
  if queue.size ≥ fifoSize then
    .error .exit
  else if len > maxPktLen then
    .error .exit
  else do
    let block <- memcpy (queue.bufArray queue.rear) buf len
    return {
      front := queue.front
      rear := queue.rear + 1
      size := queue.size + 1
      bufArray := Function.update queue.bufArray queue.rear block
      lenArray := Function.update queue.lenArray queue.rear len }

/-- What `pop_queue` stores behind its pointers. -/
structure Popped where
  buf : List UInt8
  len : Int32
deriving DecidableEq

/-- `pop_queue`, which reads the length once `front` has been advanced. -/
def popQueue (queue : BufferQueue) (buf : List UInt8) :
    Except Fault (BufferQueue × Popped) :=
  if queue.size = 0 then
    .error .exit
  else do
    let buf <- memcpy buf (queue.bufArray queue.front)
      (queue.lenArray queue.front)
    return (
      { queue with
        front := queue.front + 1
        size := queue.size - 1 },
      { buf := buf
        len := queue.lenArray (queue.front + 1) })

end DmaProxy
end Ziggo
