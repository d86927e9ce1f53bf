import Ziggo.TimeSync.AnnounceLoop.PathTrace
import Ziggo.TimeSync.TimeSyncMainLoop.Polling

/-!
# The paths in the main loop

If the roles of the ports are elected, the frames that are received leave the
paths within their arrays.
-/

namespace Ziggo
namespace TimeSync

open Foundation TsnDrivers

namespace AnnounceLoop

variable {config : Config} {memory : LoopMemory}

theorem Event.At.short {ts : UScaledNs} {e : Event} (h : e.At ts) : e.Short := by
  cases e with
  | announce i ts' message => exact h.right
  | _ => trivial

/-- Where the roles are elected, it is enough that a path fits the array of a port. -/
theorem kept_pathInvariant_short
    (hmode : config.externalPortConfigurationEnabled = false) {e : Event}
    (he : e.Short) : Kept e (PathInvariant config memory) := by
  have hkept : Kept .select (PathInvariant config memory) :=
    kept_pathInvariant trivial trivial
  constructor
  case selection => exact hkept.selection
  case information =>
    exact fun l i m h hruns hmode hframe =>
      h.information hruns hmode he hframe
  case informationExt =>
    intro l i m h _ hexternal _
    have hconfig := h.assigned.configured.external_iff.mp hexternal
    rw [hmode] at hconfig
    cases hconfig
  case transmit => exact hkept.transmit
  case syncReceipt => exact hkept.syncReceipt

end AnnounceLoop

namespace TimeSyncMainLoop

open Parts

section Paths

variable {config : Config} {memory : MainLoopMemory} {passes : List Inputs}
  {c : Parts}

theorem Parts.FollowsRuns.pathInvariant
    (h : c.FollowsRuns config memory passes)
    (hmode : config.externalPortConfigurationEnabled = false) :
    AnnounceLoop.PathInvariant config memory.announceMemory c.announceLoop := by
  have hbegin := AnnounceLoop.pathInvariant_start config memory.announceMemory
  refine h.announceLoop.reaches.invariant
    (I := AnnounceLoop.PathInvariant config memory.announceMemory)
    (fun l e hl he => ?_) hbegin
  obtain ⟨inputs, _, he⟩ := he
  exact (AnnounceLoop.kept_pathInvariant_short hmode he.short).step hl

/--
Without external port configuration, whatever frames are received, the path of
the instance and those of all transmitted messages have at most eight entries,
and no machine for `Announce` messages accesses an array beyond its end.
-/
theorem paths_bounded (hmode : config.externalPortConfigurationEnabled = false)
    (passes : List Inputs) :
    (after config memory passes).perPTPInstanceGlobal.nPathTrace.toNat ≤
        maxPathTraceN ∧
      (after config memory passes).announceLoop.process.stop ≠
        some .outOfBounds ∧
      forall port announce,
        { port := port, message := .announce announce } ∈
            (after config memory passes).announceLoop.process.sent ->
          announce.pathCount ≤ maxPathTraceN := by
  obtain ⟨c, hfollows, hcomposes⟩ := after_composed config memory passes
  obtain ⟨htrace, hbounds, hsent⟩ := (hfollows.pathInvariant hmode).bounded
  have hglobal :=
    congrArg PerPTPInstanceGlobal.nPathTrace hcomposes.announceLoop.perPTPInstanceGlobal
  have hprocess : (after config memory passes).announceLoop.process =
      c.announceLoop.process := hcomposes.announceLoop.process
  rw [hprocess]
  refine ⟨?_, hbounds, hsent⟩
  have hsame : (after config memory passes).perPTPInstanceGlobal.nPathTrace =
      c.announceLoop.perPTPInstanceGlobal.nPathTrace := hglobal
  rw [hsame]
  exact htrace

end Paths

/-!
In the instance an `Announce` with a full path arrives at the first port.
-/

def electionConfig : Config :=
  { ClockMasterLoop.clockConfig with externalPortConfigurationEnabled := false }

/-- The type of the message is 11, and its path is 64 octets long. -/
def announcePacket : Packet where
  octets := [0, 0, 1] ++ List.replicate 43 0 ++ [11] ++ List.replicate 66 0 ++
    [64] ++ List.replicate 100 0
  length_le := by decide +kernel

def announcePass : Inputs :=
  { quietPass ClockMasterLoop.sourceReading with packets := [announcePacket] }

theorem paths_bounded_announce :
    (after electionConfig zeroMemory
        [announcePass]).perPTPInstanceGlobal.nPathTrace.toNat ≤ maxPathTraceN ∧
      (after electionConfig zeroMemory
        [announcePass]).announceLoop.process.stop ≠ some .outOfBounds ∧
      forall port announce,
        { port := port, message := .announce announce } ∈
            (after electionConfig zeroMemory
              [announcePass]).announceLoop.process.sent ->
          announce.pathCount ≤ maxPathTraceN :=
  paths_bounded rfl [announcePass]

end TimeSyncMainLoop

end TimeSync
end Ziggo
