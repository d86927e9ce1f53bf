import Ziggo.PlcIo.HardwareLayer

/-!
# The identity of a stream

A frame carries sixteen bits of the number that `init_configure` makes of the
two ids of a flow.  The module determines which flows get the same bits, and
which of the values given to `sendFrame` arrive at the receiver.
-/

namespace Ziggo
namespace PlcIo

open Foundation

/-!
## Decoding
-/

/-- The octets of a buffer from a position on. -/
def segment (buffer : Nat -> UInt8) (start count : Nat) : List UInt8 :=
  (List.range count).map fun i => buffer (start + i)

/-- The buffer begins with the octets of the frame. -/
def Holds (buffer : Nat -> UInt8) (frame : List UInt8) : Prop :=
  segment buffer 0 frame.length = frame

theorem segment_add (buffer : Nat -> UInt8) (start count count' : Nat) :
    segment buffer start (count + count') =
      segment buffer start count ++ segment buffer (start + count) count' := by
  unfold segment
  rw [List.range_add, List.map_append, List.map_map]
  congr 2
  funext i
  exact congrArg buffer (Nat.add_assoc start count i).symm

theorem length_segment (buffer : Nat -> UInt8) (start count : Nat) :
    (segment buffer start count).length = count := by
  rw [segment, List.length_map, List.length_range]

/-- A part of the frame lies where the parts before it end. -/
theorem segment_of_append {buffer : Nat -> UInt8} {start : Nat}
    {first rest : List UInt8}
    (h : segment buffer start (first ++ rest).length = first ++ rest) :
    segment buffer start first.length = first ∧
      segment buffer (start + first.length) rest.length = rest := by
  rw [List.length_append, segment_add] at h
  exact List.append_inj h (length_segment _ _ _)

theorem txTimestamp_eq (r : Reception) :
    r.txTimestamp = combine (segment r.buffer 20 8) 0 := by
  simp [Reception.txTimestamp, combine, segment, List.range_succ]

theorem seqId_eq (r : Reception) :
    r.seqId = (combine (segment r.buffer 36 2) 0).toUInt16 := by
  simp [Reception.seqId, combine, segment, List.range_succ]

theorem pktId_eq (r : Reception) :
    r.pktId = (combine (segment r.buffer 38 4) 0).toUInt32 := by
  simp [Reception.pktId, combine, segment, List.range_succ]

/-!
## Sending
-/

theorem octets_take (count rest value : Nat) :
    (octets (count + rest) value).take count = octets count value := by
  induction count generalizing value with
  | zero => rfl
  | succ count ih =>
      rw [Nat.succ_add, octets, List.take_succ_cons, ih, octets]

theorem octets_inj {count m n : Nat} :
    octets count m = octets count n <-> m % 256 ^ count = n % 256 ^ count := by
  constructor
  · intro h
    rw [← networkNumber_reverse, h, networkNumber_reverse]
  · intro h
    induction count generalizing m n with
    | zero => rfl
    | succ count ih =>
        rw [pow_succ', Nat.mod_mul, Nat.mod_mul] at h
        have hm : m % 256 < 256 := Nat.mod_lt m (by decide)
        have hn : n % 256 < 256 := Nat.mod_lt n (by decide)
        have hlow : UInt8.ofNat m = UInt8.ofNat n := by
          apply UInt8.toNat_inj.mp
          change m % 256 = n % 256
          omega
        have hhigh : m / 256 % 256 ^ count = n / 256 % 256 ^ count := by omega
        rw [octets, octets, hlow, ih hhigh]

section Sent

variable {seqId : UInt32} {sendTimestamp : UInt64} {sendPktId : UInt32}
  {srcMacAddr dstMacAddr : MacAddr}

theorem sendFrame_parts : exists addresses payload : List UInt8,
    addresses.length = 20 ∧
      sendFrame seqId sendTimestamp sendPktId srcMacAddr dstMacAddr =
        addresses ++ ((octets 8 sendTimestamp.toNat).reverse ++
          (List.replicate 8 0 ++ ((octets 2 seqId.toNat).reverse ++
            ((octets 4 sendPktId.toNat).reverse ++ payload)))) := by
  have hoctets : (octets 4 seqId.toNat).take 2 = octets 2 seqId.toNat :=
    octets_take 2 2 _
  refine ⟨dstMacAddr.toList ++ srcMacAddr.toList ++ [0x81, 0x00, 0x20, 0x00,
    0x00, 0x2A, 0x00, 0x00], (List.range 18).map fun i => UInt8.ofNat (18 - i),
    by simp, ?_⟩
  unfold sendFrame
  rw [hoctets]
  simp only [List.append_assoc]

theorem received (r : Reception)
    (h : Holds r.buffer
      (sendFrame seqId sendTimestamp sendPktId srcMacAddr dstMacAddr)) :
    r.txTimestamp = sendTimestamp ∧ r.seqId = seqId.toUInt16 ∧
      r.pktId = sendPktId := by
  obtain ⟨addresses, payload, haddresses, hframe⟩ :=
    @sendFrame_parts seqId sendTimestamp sendPktId srcMacAddr dstMacAddr
  unfold Holds at h
  rw [hframe] at h
  have htimestamp := (segment_of_append h).right
  have hunused := (segment_of_append htimestamp).right
  have hseqId := (segment_of_append hunused).right
  have hpktId := (segment_of_append hseqId).right
  replace htimestamp := (segment_of_append htimestamp).left
  replace hseqId := (segment_of_append hseqId).left
  replace hpktId := (segment_of_append hpktId).left
  simp only [haddresses, List.length_reverse, length_octets,
    List.length_replicate, Nat.zero_add, Nat.reduceAdd]
    at htimestamp hseqId hpktId
  rw [txTimestamp_eq, seqId_eq, pktId_eq, htimestamp, hseqId, hpktId]
  refine ⟨?_, ?_, ?_⟩
  · apply UInt64.toNat_inj.mp
    exact toNat_combine_reverse (by decide) (UInt64.toNat_lt _)
  · apply UInt16.toNat_inj.mp
    rw [UInt64.toNat_toUInt16, UInt32.toNat_toUInt16, toNat_combine,
      networkNumber_reverse]
    · change (0 + seqId.toNat % 2 ^ 16) % 2 ^ 16 = seqId.toNat % 2 ^ 16
      rw [Nat.zero_add, Nat.mod_mod]
    · rw [List.length_reverse, length_octets]
      decide
    · exact Nat.dvd_zero _
  · apply UInt32.toNat_inj.mp
    rw [UInt64.toNat_toUInt32,
      toNat_combine_reverse (by decide) (UInt32.toNat_lt _)]
    exact Nat.mod_eq_of_lt (UInt32.toNat_lt _)

def streamOctets (frame : List UInt8) : List UInt8 :=
  (frame.drop 36).take 2

theorem streamOctets_sendFrame :
    streamOctets
        (sendFrame seqId sendTimestamp sendPktId srcMacAddr dstMacAddr) =
      (octets 2 seqId.toNat).reverse := by
  obtain ⟨addresses, payload, haddresses, hframe⟩ :=
    @sendFrame_parts seqId sendTimestamp sendPktId srcMacAddr dstMacAddr
  have hbefore : (addresses ++ (octets 8 sendTimestamp.toNat).reverse ++
      List.replicate 8 0).length = 36 := by
    simp [haddresses, length_octets]
  unfold streamOctets
  rw [hframe, ← List.append_assoc, ← List.append_assoc,
    List.drop_left' hbefore]
  exact List.take_left' (by rw [List.length_reverse, length_octets])

end Sent

/-!
## Identifiers
-/

/-- A link of the schedule carries the flow. -/
def Planned (sche : List Element) (flow : Flow) : Prop :=
  exists source target flows, .link source target flows ∈ sche ∧ flow ∈ flows

/-- The bits of the ids that reach the identifiers of the flows are the same. -/
def Clash (p q : Flow) : Prop :=
  p.flowId.toUInt32 % 256 = q.flowId.toUInt32 % 256 ∧
    (p.jobId.toUInt32 ||| p.flowId.toUInt32 / 256) % 256 =
      (q.jobId.toUInt32 ||| q.flowId.toUInt32 / 256) % 256

instance (p q : Flow) : Decidable (Clash p q) :=
  inferInstanceAs (Decidable (_ ∧ _))

theorem seqId_mod (flow : Flow) :
    (seqId flow).toNat % 256 ^ 2 =
      ((flow.jobId.toUInt32 ||| flow.flowId.toUInt32 / 256) % 256).toNat * 256 +
        (flow.flowId.toUInt32 % 256).toNat := by
  generalize hjob : flow.jobId.toUInt32.toNat = job
  generalize hid : flow.flowId.toUInt32.toNat = id
  have hseqId : (seqId flow).toNat = job * 256 % 2 ^ 32 ||| id := by
    unfold seqId
    rw [UInt32.toNat_or, UInt32.toNat_shiftLeft, hjob, hid]
    change job <<< 8 % 2 ^ 32 ||| id = _
    rw [Nat.shiftLeft_eq]
  have hlow : (seqId flow).toNat % 256 = id % 256 := by
    have hshifted : job * 256 % 2 ^ 32 % 2 ^ 8 = 0 := by omega
    change (seqId flow).toNat % 2 ^ 8 = id % 2 ^ 8
    rw [hseqId, Nat.or_mod_two_pow, hshifted, Nat.zero_or]
  have hhigh : (seqId flow).toNat / 256 % 256 = (job ||| id / 256) % 256 := by
    have hshifted : job * 256 % 2 ^ 32 / 2 ^ 8 % 2 ^ 8 = job % 2 ^ 8 := by omega
    change (seqId flow).toNat / 2 ^ 8 % 2 ^ 8 = (job ||| id / 2 ^ 8) % 2 ^ 8
    rw [hseqId, Nat.or_div_two_pow, Nat.or_mod_two_pow, hshifted,
      ← Nat.or_mod_two_pow]
  have hright : ((flow.jobId.toUInt32 ||| flow.flowId.toUInt32 / 256) %
        256).toNat * 256 + (flow.flowId.toUInt32 % 256).toNat =
      (job ||| id / 256) % 256 * 256 + id % 256 := by
    rw [UInt32.toNat_mod, UInt32.toNat_mod, UInt32.toNat_or, UInt32.toNat_div,
      hjob, hid]
    rfl
  rw [hright, pow_two, Nat.mod_mul, hlow, hhigh]
  omega

/-- The flows whose frames carry the same octets are those that clash. -/
theorem octets_seqId_iff {p q : Flow} :
    octets 2 (seqId p).toNat = octets 2 (seqId q).toNat <-> Clash p q := by
  have hbound : forall x : UInt32, (x % 256).toNat < 256 := by
    intro x
    rw [UInt32.toNat_mod]
    exact Nat.mod_lt _ (by decide)
  have hp := hbound p.flowId.toUInt32
  have hq := hbound q.flowId.toUInt32
  rw [octets_inj, seqId_mod, seqId_mod]
  unfold Clash
  rw [← UInt32.toNat_inj, ← UInt32.toNat_inj]
  omega

/-- The frames of the flows carry different identifiers. -/
def Distinguished (p q : Flow) : Prop :=
  forall (sendTimestamp sendTimestamp' : UInt64) (sendPktId sendPktId' : UInt32)
    (srcMacAddr srcMacAddr' dstMacAddr dstMacAddr' : MacAddr),
    streamOctets
        (sendFrame (seqId p) sendTimestamp sendPktId srcMacAddr dstMacAddr) ≠
      streamOctets
        (sendFrame (seqId q) sendTimestamp' sendPktId' srcMacAddr' dstMacAddr')

theorem distinguished_iff {p q : Flow} : Distinguished p q <-> ¬ Clash p q := by
  unfold Distinguished
  simp only [streamOctets_sendFrame, ne_eq, List.reverse_inj, octets_seqId_iff]
  exact ⟨fun h => h 0 0 0 0 (Vector.replicate 6 0) (Vector.replicate 6 0)
    (Vector.replicate 6 0) (Vector.replicate 6 0), fun h _ _ _ _ _ _ _ _ => h⟩

/-- The values given to `sendFrame` are the ones that the receiver reads. -/
def ReadBack (seqId : UInt32) : Prop :=
  forall (sendTimestamp : UInt64) (sendPktId : UInt32)
    (srcMacAddr dstMacAddr : MacAddr) (r : Reception),
    Holds r.buffer
      (sendFrame seqId sendTimestamp sendPktId srcMacAddr dstMacAddr) ->
    r.seqId.toUInt32 = seqId ∧ r.txTimestamp = sendTimestamp ∧
      r.pktId = sendPktId

/-- A reception of a frame, with nothing behind it. -/
def receptionOf (frame : List UInt8) (currentTs : UInt64) : Reception where
  noError := true
  buffer i := frame.getD i 0
  currentTs := currentTs

theorem holds_receptionOf (frame : List UInt8) (currentTs : UInt64) :
    Holds (receptionOf frame currentTs).buffer frame := by
  refine List.ext_getElem (length_segment _ _ _) fun i hi hframe => ?_
  simp [segment, receptionOf, hframe]

theorem readBack_iff {seqId : UInt32} : ReadBack seqId <-> seqId < 65536 := by
  have hword : seqId.toUInt16.toUInt32 = seqId <-> seqId < 65536 := by
    have hlow : seqId.toUInt16.toUInt32.toNat = seqId.toNat % 65536 := rfl
    rw [← UInt32.toNat_inj, hlow, UInt32.lt_iff_toNat_lt]
    change _ <-> seqId.toNat < 65536
    omega
  rw [← hword]
  constructor
  · intro h
    have hread := (h 0 0 (Vector.replicate 6 0) (Vector.replicate 6 0) _
      (holds_receptionOf _ 0)).left
    rwa [(received _ (holds_receptionOf _ 0)).right.left] at hread
  · intro h sendTimestamp sendPktId srcMacAddr dstMacAddr r hr
    obtain ⟨htimestamp, hseqId, hpktId⟩ := received r hr
    rw [hseqId]
    exact ⟨h, htimestamp, hpktId⟩

/--
The identifiers of a schedule are different if no two flows clash, and the
identifiers that are read back are those of sixteen bits.
-/
theorem streamIds_iff (sche : List Element) (seqId : UInt32) :
    ((forall p q, Planned sche p -> Planned sche q -> p ≠ q ->
        Distinguished p q) <->
      forall p q, Planned sche p -> Planned sche q -> p ≠ q -> ¬ Clash p q) ∧
    (ReadBack seqId <-> seqId < 65536) := by
  refine ⟨?_, readBack_iff⟩
  simp only [distinguished_iff]

/-- The flow 256 of job 0 and the flow 0 of job 1. -/
def clashingSchedule : List Element :=
  [.link 0 1 [⟨0, 256⟩], .link 2 1 [⟨1, 0⟩]]

/-- The streams of that schedule are confused. -/
theorem clashing_not_distinguished :
    ¬ ((forall p q, Planned clashingSchedule p -> Planned clashingSchedule q ->
        p ≠ q -> Distinguished p q) ∧
      forall seqId, ReadBack seqId) := by
  rintro ⟨h, _⟩
  refine distinguished_iff.mp (h ⟨0, 256⟩ ⟨1, 0⟩ ⟨0, 1, _, List.mem_cons_self,
    List.mem_cons_self⟩ ⟨2, 1, _, List.mem_cons_of_mem _ List.mem_cons_self,
    List.mem_cons_self⟩ (by decide)) (by decide)

end PlcIo
end Ziggo
