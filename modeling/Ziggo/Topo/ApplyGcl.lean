import Mathlib.Logic.Function.Basic
import Ziggo.Foundation.SignedInt
import Ziggo.Foundation.SortUnique
import Ziggo.TsnDrivers.Gcl

/-!
# Programming the gate-control list of a link

`apply_gcl` of `topo.cpp` unfolds the schedule of a link over one period of
2048 slots, cuts the period at every boundary of a window, and writes one
gate-control entry for each part.
-/

namespace Ziggo
namespace Topo

open Foundation TsnDrivers

/-- The members of a schedule item that `apply_gcl` reads. -/
structure ScheduleItem where
  period : Int32
  start : Int32
  endTime : Int32
deriving DecidableEq, Repr

def maxPeriod : Int := 2048

def gclSize : Nat := 16

/-!
## Expansion of the windows
-/

structure TimePoints where
  ttFramesStartTimes : List Int
  timePoints : List Int

/-- `tt_frames_start_times` and `time_points` as they are declared. -/
def initialTimePoints : TimePoints where
  ttFramesStartTimes := []
  timePoints := [0, maxPeriod]

/-- The points of one window.  A window beyond the period wraps around. -/
def pushWindow (first last : Int) (t : TimePoints) : TimePoints :=
  if last > maxPeriod then
    { ttFramesStartTimes := t.ttFramesStartTimes ++ [0, first]
      timePoints := t.timePoints ++ [0, last - maxPeriod, first, maxPeriod] }
  else
    { ttFramesStartTimes := t.ttFramesStartTimes ++ [first]
      timePoints := t.timePoints ++ [first, last] }

/-- The loop over the repetitions of a window, from the offset `x` on. -/
def expand : Nat -> ScheduleItem -> Int -> TimePoints ->
    Except Fault TimePoints
  | 0, _, _, _ => .error .diverges
  | fuel + 1, item, x, t =>
      if x < maxPeriod then do
        let last <- checkInt (x + item.endTime.toInt)
        let first <- checkInt (x + item.start.toInt)
        let next <- checkInt (x + item.period.toInt)
        expand fuel item next (pushWindow first last t)
      else
        .ok t

def addItem (fuel : Nat) (item : ScheduleItem) (t : TimePoints) :
    Except Fault TimePoints :=
  if item.period.toInt = maxPeriod then
    .ok (pushWindow item.start.toInt item.endTime.toInt t)
  else
    expand fuel item 0 t

def addItems (fuel : Nat) : List ScheduleItem -> TimePoints ->
    Except Fault TimePoints
  | [], t => .ok t
  | item :: schedule, t => do
      let t <- addItem fuel item t
      addItems fuel schedule t

/-!
## The entries
-/

/-- `gcl_values` and `gcl_time_intervals` -/
structure Gcl where
  values : Fin gclSize -> Int
  timeIntervals : Fin gclSize -> Int

def initialGcl : Gcl where
  values := fun _ => 1
  timeIntervals := fun _ => 0

/-- The gates that are open in the part of the period that starts at a point. -/
def gclValue (ttFramesStartTimes : List Int) (timePoint : Int) : Int :=
  if timePoint ∈ ttFramesStartTimes then 1 else 0b100000010

/-- The loop over the points, which leaves at the last one. -/
def fillGcl (ttFramesStartTimes : List Int) :
    Nat -> List Int -> Gcl -> Except Fault Gcl
  | gclIndex, timePoint :: next :: timePoints, gcl =>
      if h : gclIndex < gclSize then do
        let length <- checkInt (next - timePoint)
        let interval <- checkInt (length * 8)
        fillGcl ttFramesStartTimes (gclIndex + 1) (next :: timePoints)
          { values := Function.update gcl.values ⟨gclIndex, h⟩
              (gclValue ttFramesStartTimes timePoint)
            timeIntervals :=
              Function.update gcl.timeIntervals ⟨gclIndex, h⟩ interval }
      else
        .error .outOfBounds
  | _, _, gcl => .ok gcl

def writeEntry (portNumber : UInt16) (gcl : Gcl) (i : Fin gclSize) :
    Except Fault (List RegisterWrite) := do
  let value <- setGcl portNumber i.val.toUInt16 (UInt16.ofInt (gcl.values i))
  let interval <-
    setGclTimeInterval portNumber i.val.toUInt16
      (UInt16.ofInt (gcl.timeIntervals i))
  return value ++ interval

def writeEntries (portNumber : UInt16) (gcl : Gcl) :
    List (Fin gclSize) -> Except Fault (List RegisterWrite)
  | [] => .ok []
  | i :: is => do
      let entry <- writeEntry portNumber gcl i
      let entries <- writeEntries portNumber gcl is
      return entry ++ entries

/--
`apply_gcl`, with at most `fuel` tests of each loop condition.  The result
lists the writes to the registers of the interface.
-/
def applyGcl (fuel : Nat) (schedule : List ScheduleItem) (port : Int32) :
    Except Fault (List RegisterWrite) := do
  let t <- addItems fuel schedule initialTimePoints
  let gcl <-
    fillGcl t.ttFramesStartTimes 0 (sortUnique t.timePoints) initialGcl
  let portNumber <- checkInt (port.toInt + 1)
  writeEntries (UInt16.ofInt portNumber) gcl (List.finRange gclSize)

end Topo
end Ziggo
