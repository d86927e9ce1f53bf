import Ziggo.TsnDrivers.UScaledNs

/-!
# The timestamping unit

The queue for received frames of `tsu.c`.  An entry has 128 bits, which the
driver reads as four words.
-/

namespace Ziggo
namespace TsnDrivers

/--
An entry of the queue: 80 bits of timestamp, of which 48 are seconds, and 32
bits on the frame.
-/
structure TSUEntry where
  secondsMsb : UInt16
  secondsLsb : UInt32
  nanoseconds : UInt32
  messageId : Fin 16
  checksum : Fin 4096
  sequenceId : UInt16
deriving DecidableEq, Repr, Inhabited

namespace TSUEntry

/-- `TSU_DATA_HL` -/
def tsSecL (e : TSUEntry) : UInt32 :=
  e.secondsLsb

/-- `TSU_DATA_LH` -/
def tsNsc (e : TSUEntry) : UInt32 :=
  e.nanoseconds

/-- `TSU_DATA_LL` -/
def ptpInfor (e : TSUEntry) : UInt32 :=
  UInt32.ofNat
    (e.messageId.val * 2 ^ 28 + e.checksum.val * 2 ^ 16 + e.sequenceId.toNat)

def time (e : TSUEntry) : Nat :=
  (e.secondsMsb.toNat * 2 ^ 32 + e.secondsLsb.toNat) * 10 ^ 9 +
    e.nanoseconds.toNat

end TSUEntry

/--
What `tsu_rx_get_timestamp` stores for the words that it reads.  It does not
use the word `TSU_DATA_HH`.
-/
def tsuTimestamp (tsSecL tsNsc ptpInfor : UInt32) : TSUTimestamp where
  ts :=
    { subns := 0
      nsec := tsSecL.toUInt64 * 1000000000 + tsNsc.toUInt64
      nsecMsb := 0 }
  sequenceID := (ptpInfor &&& 0xFFFF).toUInt16
  msgType := ((ptpInfor >>> 28) &&& 0x0F).toUInt8

/-- `tsu_rx_get_timestamp`, for the entry at the head of the queue. -/
def tsuRxGetTimestamp (e : TSUEntry) : TSUTimestamp :=
  tsuTimestamp e.tsSecL e.tsNsc e.ptpInfor

/-!
## What the driver reads
-/

theorem toNat_ptpInfor (e : TSUEntry) :
    e.ptpInfor.toNat =
      e.messageId.val * 2 ^ 28 + e.checksum.val * 2 ^ 16 +
        e.sequenceId.toNat := by
  have hid := e.messageId.isLt
  have hchecksum := e.checksum.isLt
  have hsequence := e.sequenceId.toNat_lt
  refine (UInt32.toNat_ofNat').trans (Nat.mod_eq_of_lt ?_)
  omega

theorem sequenceID_tsuRxGetTimestamp (e : TSUEntry) :
    (tsuRxGetTimestamp e).sequenceID = e.sequenceId := by
  have hsequence := e.sequenceId.toNat_lt
  have hmask : e.ptpInfor.toNat &&& (2 ^ 16 - 1) = e.ptpInfor.toNat % 2 ^ 16 :=
    Nat.and_two_pow_sub_one_eq_mod _ 16
  apply UInt16.toNat_inj.mp
  change ((e.ptpInfor &&& 0xFFFF).toUInt16).toNat = _
  rw [UInt32.toNat_toUInt16, UInt32.toNat_and]
  change (e.ptpInfor.toNat &&& (2 ^ 16 - 1)) % 2 ^ 16 = _
  rw [hmask, toNat_ptpInfor]
  omega

theorem toNat_msgType_tsuRxGetTimestamp (e : TSUEntry) :
    (tsuRxGetTimestamp e).msgType.toNat = e.messageId.val := by
  have hid := e.messageId.isLt
  have hchecksum := e.checksum.isLt
  have hsequence := e.sequenceId.toNat_lt
  have hmask : e.ptpInfor.toNat / 2 ^ 28 &&& (2 ^ 4 - 1) =
      e.ptpInfor.toNat / 2 ^ 28 % 2 ^ 4 :=
    Nat.and_two_pow_sub_one_eq_mod _ 4
  change (((e.ptpInfor >>> 28) &&& 0x0F).toUInt8).toNat = _
  rw [UInt32.toNat_toUInt8, UInt32.toNat_and, UInt32.toNat_shiftRight]
  change (e.ptpInfor.toNat >>> 28 &&& (2 ^ 4 - 1)) % 2 ^ 8 = _
  rw [Nat.shiftRight_eq_div_pow, hmask, toNat_ptpInfor]
  omega

/-- The time is exact as long as its seconds have 32 bits. -/
theorem toNat_tsuRxGetTimestamp {e : TSUEntry} (h : e.secondsMsb = 0) :
    (tsuRxGetTimestamp e).ts.toNat = e.time * 2 ^ 16 := by
  have hseconds := e.secondsLsb.toNat_lt
  have hnanoseconds := e.nanoseconds.toNat_lt
  have hnsec : (tsuRxGetTimestamp e).ts.nsec.toNat = e.time := by
    change (e.secondsLsb.toUInt64 * 1000000000 + e.nanoseconds.toUInt64).toNat = _
    rw [UInt64.toNat_add, UInt64.toNat_mul, UInt32.toNat_toUInt64,
      UInt32.toNat_toUInt64, TSUEntry.time, h]
    change (e.secondsLsb.toNat * 1000000000 % 2 ^ 64 + _) % 2 ^ 64 =
      (0 * 2 ^ 32 + _) * 10 ^ 9 + _
    omega
  change 0 * 2 ^ 80 + (tsuRxGetTimestamp e).ts.nsec.toNat * 2 ^ 16 + 0 = _
  rw [hnsec]
  omega

end TsnDrivers
end Ziggo
