import Mathlib.Logic.Function.Basic
import Ziggo.Foundation.NetworkOrder
import Ziggo.Foundation.SignedInt
import Ziggo.PlcIo.Config

/-!
# The hardware layer of a packetized PLC

`blank.cpp` replaces the digital inputs and outputs of a PLC by frames.
`updateBuffersIn` waits until all input streams have delivered their packets of
a cycle and the instant of the computation has come, and `updateBuffersOut`
passes the time of the computation and sends a frame for each output stream.
-/

namespace Ziggo
namespace PlcIo

open Foundation

/-!
## Frames
-/

/-- The octets that `sendFrame` gives to the device, addresses first. -/
def sendFrame (seqId : UInt32) (sendTimestamp : UInt64) (sendPktId : UInt32)
    (srcMacAddr dstMacAddr : MacAddr) : List UInt8 :=
  dstMacAddr.toList ++ srcMacAddr.toList ++
    [0x81, 0x00, 0x20, 0x00, 0x00, 0x2A, 0x00, 0x00] ++
    (octets 8 sendTimestamp.toNat).reverse ++
    List.replicate 8 0 ++
    -- Of the four octets of `seq_id` only the lower two are sent.
    ((octets 4 seqId.toNat).take 2).reverse ++
    (octets 4 sendPktId.toNat).reverse ++
    (List.range 18).map fun i => UInt8.ofNat (18 - i)

/-- What a pass of the loop in `updateBuffersIn` gets from its environment. -/
structure Reception where
  /-- `status == PROXY_NO_ERROR` -/
  noError : Bool
  /-- `RxBufferPtr` -/
  buffer : Nat -> UInt8
  /-- The synchronised time in nanoseconds, read after the transfer. -/
  currentTs : UInt64

namespace Reception

def seqId (r : Reception) : UInt16 :=
  ((r.buffer 36).toUInt64 <<< 8 ||| (r.buffer 37).toUInt64 <<< 0).toUInt16

def pktId (r : Reception) : UInt32 :=
  ((r.buffer 38).toUInt64 <<< 24 ||| (r.buffer 39).toUInt64 <<< 16 |||
    (r.buffer 40).toUInt64 <<< 8 ||| (r.buffer 41).toUInt64 <<< 0).toUInt32

def txTimestamp (r : Reception) : UInt64 :=
  (r.buffer 20).toUInt64 <<< 56 ||| (r.buffer 21).toUInt64 <<< 48 |||
    (r.buffer 22).toUInt64 <<< 40 ||| (r.buffer 23).toUInt64 <<< 32 |||
    (r.buffer 24).toUInt64 <<< 24 ||| (r.buffer 25).toUInt64 <<< 16 |||
    (r.buffer 26).toUInt64 <<< 8 ||| (r.buffer 27).toUInt64 <<< 0

end Reception

/-!
## Input streams
-/

/-- The variables that the input streams share. -/
structure Inputs (streams : Nat) where
  inputTimestamp : Fin streams -> UInt64
  inputPktId : Fin streams -> UInt32
  /-- `seqid_index`, an object of type `map<int, int>`. -/
  seqidIndex : Int32 -> Option Nat
  nextComputeTs : UInt64
  dropped : Nat
  sendTimestamp : UInt64
  sendPktId : UInt32

/-- `operator[]` of a map, which inserts a zero for a key that is missing. -/
def mapAt (m : Int32 -> Option Nat) (key : Int32) :
    Nat × (Int32 -> Option Nat) :=
  match m key with
  | some i => (i, m)
  | none => (0, Function.update m key (some 0))

def indexStreams : List UInt32 -> Nat -> (Int32 -> Option Nat) ->
    Int32 -> Option Nat
  | [], _, m => m
  | seqId :: seqIds, i, m =>
      indexStreams seqIds (i + 1) (Function.update m seqId.toInt32 (some i))

/-- The variables after `initializeHardware`.  `malloc` does not clear memory. -/
def initializeHardware (config : Config)
    (memory : Fin config.inputSeqIds.length -> UInt32) :
    Inputs config.inputSeqIds.length where
  inputTimestamp := fun _ => 0
  inputPktId := memory
  seqidIndex := indexStreams config.inputSeqIds 0 fun _ => none
  nextComputeTs := 0
  dropped := 0
  sendTimestamp := 0
  sendPktId := 0

/-- The next instant of the computation, `none` for a packet that is dropped. -/
def nextCompute (config : Config) (txTimestamp currentTs : UInt64) :
    Option UInt64 :=
  let cycleTime := config.cycleTime.toUInt64
  let computeOffset := config.computeOffset.toUInt64
  let pastCycles := txTimestamp / cycleTime
  if pastCycles * cycleTime + computeOffset ≥ currentTs then
    some (pastCycles * cycleTime + computeOffset)
  else if computeOffset ≤ txTimestamp % cycleTime then
    some ((pastCycles + 1) * cycleTime + computeOffset)
  else
    none

/-- The local and global variables of the loop over the input streams. -/
structure Join where
  sendPacket : Bool
  sendTimestamp : UInt64
  sendPktId : UInt32

/-- The loop over the streams, which reads the first of them in each pass. -/
def joinStreams {streams : Nat} (config : Config) (s : Inputs streams)
    (first : Fin streams) : List (Fin streams) -> Join -> Join
  | [], join => join
  | i :: is, join =>
      joinStreams config s first is
        { sendPacket := join.sendPacket &&
            decide (s.inputTimestamp i ≥
              s.nextComputeTs - config.cycleTime.toUInt64) &&
            decide (s.inputTimestamp first ≠ 0)
          sendTimestamp :=
            if join.sendTimestamp > s.inputTimestamp i then
              s.inputTimestamp i
            else
              join.sendTimestamp
          sendPktId :=
            if join.sendPktId < s.inputPktId i then
              s.inputPktId i
            else
              join.sendPktId }

/-- How a pass of the loop in `updateBuffersIn` ends. -/
inductive Verdict where
  | failed
  | dropped
  | stored
  | released
deriving DecidableEq, Repr

/-- The packet of a stream is stored, and the streams are joined. -/
def storeAndJoin {streams : Nat} (config : Config) (r : Reception)
    (s : Inputs streams) (i : Fin streams) : Inputs streams × Verdict :=
  let s := { s with
    inputTimestamp := Function.update s.inputTimestamp i r.txTimestamp
    inputPktId := Function.update s.inputPktId i r.pktId }
  let first : Fin streams := ⟨0, Nat.lt_of_le_of_lt (Nat.zero_le i.val) i.isLt⟩
  let join := joinStreams config s first (List.finRange streams)
    { sendPacket := true
      sendTimestamp := s.inputTimestamp first
      sendPktId := s.inputPktId first }
  ({ s with
      sendTimestamp := join.sendTimestamp
      sendPktId := join.sendPktId },
    if join.sendPacket then .released else .stored)

/-- A pass of the loop in `updateBuffersIn`, up to the wait for the instant. -/
def receive {streams : Nat} (config : Config) (r : Reception)
    (s : Inputs streams) : Except Fault (Inputs streams × Verdict) :=
  if r.noError = false then
    .ok (s, .failed)
  else if config.cycleTime = 0 then
    -- The timestamp is divided by zero.
    .error .overflow
  else
    match nextCompute config r.txTimestamp r.currentTs with
    | none => .ok ({ s with dropped := s.dropped + 1 }, .dropped)
    | some next =>
        let index := mapAt s.seqidIndex r.seqId.toUInt32.toInt32
        if h : index.1 < streams then
          .ok (storeAndJoin config r
            { s with nextComputeTs := next, seqidIndex := index.2 } ⟨index.1, h⟩)
        else
          .error .outOfBounds

/-- The loop that reads the clock until the instant of the computation. -/
def awaitComputeTs (nextComputeTs : UInt64) : List UInt64 -> Except Fault Unit
  | [] => .error .diverges
  | currentTs :: clock =>
      if currentTs ≥ nextComputeTs then
        .ok ()
      else
        awaitComputeTs nextComputeTs clock

/--
The loop in `updateBuffersIn`.  Each reception comes with the values that the
clock has afterwards; the loop waits for ever if the receptions come to an end.
-/
def awaitRelease {streams : Nat} (config : Config) :
    List (Reception × List UInt64) -> Inputs streams ->
      Except Fault (Inputs streams × List (Reception × List UInt64))
  | [], _ => .error .diverges
  | (r, clock) :: receptions, s => do
      let (s, verdict) <- receive config r s
      if verdict = .released then do
        awaitComputeTs s.nextComputeTs clock
        return (s, receptions)
      else
        awaitRelease config receptions s

/-- `updateBuffersIn`, for a pointer `bool_input[0][0]` that may be null. -/
def updateBuffersIn {streams : Nat} (config : Config) (boolInput : Option UInt8)
    (receptions : List (Reception × List UInt64)) (s : Inputs streams) :
    Except Fault
      (Inputs streams × Option UInt8 × List (Reception × List UInt64)) :=
  match boolInput with
  | none => .ok (s, none, receptions)
  | some _ => do
      let (s, receptions) <- awaitRelease config receptions s
      return (s, some 1, receptions)

/-!
## Output streams
-/

/-- The loop that reads the clock `compute_times` times, counted by an `int`. -/
def busyWait (computeTimes : UInt64) : Nat -> Int -> Except Fault Int
  | 0, _ => .error .diverges
  | fuel + 1, k =>
      if UInt64.ofInt k < computeTimes then do
        let next <- checkInt (k + 1)
        busyWait computeTimes fuel next
      else
        .ok k

/-- What a call of `updateBuffersOut` does. -/
structure Outputs where
  iterations : Int
  frames : List (List UInt8)

/-- `updateBuffersOut`, for a pointer `bool_output[0][0]` that may be null. -/
def updateBuffersOut {streams : Nat} (fuel : Nat) (config : Config)
    (boolOutput : Option UInt8) (s : Inputs streams) : Except Fault Outputs :=
  if boolOutput = some 1 then do
    let computeTimes := (config.computeTime - 200000).toUInt64 / 3504
    let iterations <- busyWait computeTimes fuel 0
    return {
      iterations := iterations
      frames := List.zipWith
        (fun seqId dstAddress =>
          sendFrame seqId s.sendTimestamp s.sendPktId config.outputSrcAddress
            dstAddress)
        config.outputSeqIds config.outputDstAddresses }
  else
    .ok { iterations := 0, frames := [] }

end PlcIo
end Ziggo
