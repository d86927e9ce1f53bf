import Ziggo.TsnDrivers.UScaledNs

/-!
# The real-time clock

The registers of `rtc.c` that hold the offset and the period of the clock.
-/

namespace Ziggo
namespace TsnDrivers

inductive RtcOffsetSign where
  | add
  | sub
deriving DecidableEq, Repr

structure Rtc where
  offsetSH : UInt32
  offsetSL : UInt32
  offsetNs : UInt32
  periodH : UInt32
  periodL : UInt32
deriving DecidableEq, Inhabited

def rtcAccmodH : UInt64 := 0x3B9ACA00

namespace Rtc

def setRtcSyncOffset (rtc : Rtc) (sign : RtcOffsetSign) (offset : UScaledNs) :
    Rtc :=
  { rtc with
    offsetSH := if sign = .add then 0 else 0x8000
    offsetSL := (offset.nsec / rtcAccmodH).toUInt32
    offsetNs := (offset.nsec % rtcAccmodH).toUInt32 }

def rtcSetPeriod (rtc : Rtc) (periodH periodL : UInt32) : Rtc :=
  { rtc with
    periodH := periodH
    periodL := periodL }

end Rtc

/-- The value that an offset adds to the clock. -/
def RtcOffsetSign.apply (sign : RtcOffsetSign) (offset : UScaledNs) : Int :=
  match sign with
  | .add => offset.toNat
  | .sub => -offset.toNat

end TsnDrivers
end Ziggo
