import Ziggo.PlcIo.HardwareLayer.Streams

/-!
# The cycle of the computation

`updateBuffersIn` derives the instant of the computation from the timestamp of
each packet.  A packet that has been on its way for so long that the instant of
the following cycle is over, too, is not recognised as late.  Apart from such
packets the instant is never in the past, and the computation is released with
packets of one cycle only.
-/

namespace Ziggo
namespace PlcIo

open Foundation

/-!
## The next instant
-/

section Instant

variable (config : Config)

/-- `CYCLE_TIME` -/
def cycle : Nat := config.cycleTime.toNat

/-- `COMPUTE_OFFSET` -/
def offset : Nat := config.computeOffset.toNat

/-- The instant of the computation in the cycle of a timestamp. -/
def instant (txTimestamp : UInt64) : Nat :=
  txTimestamp.toNat / cycle config * cycle config + offset config

/--
The instant of the cycle in which the packet was sent is not over, or that
instant came after the packet was sent, or the following one is not over.
-/
def Timely (r : Reception) : Prop :=
  r.currentTs.toNat ≤ instant config r.txTimestamp ∨
    r.txTimestamp.toNat % cycle config < offset config ∨
    (r.currentTs.toNat ≤ instant config r.txTimestamp + cycle config ∧
      instant config r.txTimestamp + cycle config < 2 ^ 64)

end Instant

section NextCompute

variable {config : Config} (hcycle : 0 < cycle config)
  {txTimestamp currentTs : UInt64} (hsent : txTimestamp ≤ currentTs)

include hcycle hsent

omit hcycle hsent in
theorem toNat_instants :
    (txTimestamp / config.cycleTime.toUInt64 * config.cycleTime.toUInt64 +
        config.computeOffset.toUInt64).toNat =
      instant config txTimestamp % 2 ^ 64 ∧
    ((txTimestamp / config.cycleTime.toUInt64 + 1) * config.cycleTime.toUInt64 +
        config.computeOffset.toUInt64).toNat =
      (instant config txTimestamp + cycle config) % 2 ^ 64 ∧
    (txTimestamp % config.cycleTime.toUInt64).toNat =
      txTimestamp.toNat % cycle config := by
  have hoffset : config.computeOffset.toUInt64.toNat = offset config :=
    UInt32.toNat_toUInt64 _
  have hcycle : config.cycleTime.toUInt64.toNat = cycle config :=
    UInt32.toNat_toUInt64 _
  refine ⟨?_, ?_, ?_⟩
  · rw [UInt64.toNat_add, UInt64.toNat_mul, UInt64.toNat_div, hoffset, hcycle,
      Nat.mod_add_mod]
    rfl
  · have hone : UInt64.toNat 1 = 1 := rfl
    have hwrap := ((Nat.mod_modEq (txTimestamp.toNat / cycle config + 1)
      (2 ^ 64)).mul_right (cycle config)).add_right (offset config)
    rw [UInt64.toNat_add, UInt64.toNat_mul, UInt64.toNat_add, UInt64.toNat_div,
      hoffset, hcycle, hone, Nat.mod_add_mod, hwrap]
    unfold instant
    ring_nf
  · rw [UInt64.toNat_mod, hcycle]

/-- The instant is not over, or the following one is taken if it can be met. -/
theorem nextCompute_cases :
    (exists next, nextCompute config txTimestamp currentTs = some next ∧
      currentTs.toNat ≤ instant config txTimestamp ∧
      next.toNat = instant config txTimestamp) ∨
    (offset config ≤ txTimestamp.toNat % cycle config ∧
      instant config txTimestamp < currentTs.toNat ∧
      exists next, nextCompute config txTimestamp currentTs = some next ∧
        next.toNat = (instant config txTimestamp + cycle config) % 2 ^ 64) ∨
    (txTimestamp.toNat % cycle config < offset config ∧
      nextCompute config txTimestamp currentTs = none) := by
  obtain ⟨hpast, hnext, hmod⟩ := @toNat_instants config txTimestamp
  have hsent' : txTimestamp.toNat ≤ currentTs.toNat :=
    UInt64.le_iff_toNat_le.mp hsent
  have hnow := UInt64.toNat_lt currentTs
  have hsmall : offset config < 2 ^ 32 := UInt32.toNat_lt _
  have hrest : txTimestamp.toNat % cycle config < cycle config :=
    Nat.mod_lt _ hcycle
  have hinstant : instant config txTimestamp +
      txTimestamp.toNat % cycle config = txTimestamp.toNat + offset config := by
    have hdiv := Nat.div_add_mod' txTimestamp.toNat (cycle config)
    unfold instant
    omega
  have hoffset : config.computeOffset.toUInt64.toNat = offset config :=
    UInt32.toNat_toUInt64 _
  unfold nextCompute
  dsimp only
  split
  case isTrue hfirst =>
    have hle := UInt64.le_iff_toNat_le.mp hfirst
    rw [hpast] at hle
    -- The sum does not wrap around: it would be less than the time.
    have hwrap : instant config txTimestamp < 2 ^ 64 := by omega
    rw [Nat.mod_eq_of_lt hwrap] at hle hpast
    exact Or.inl ⟨_, rfl, hle, hpast⟩
  case isFalse hover =>
    have hlt := UInt64.not_le.mp hover
    rw [UInt64.lt_iff_toNat_lt, hpast] at hlt
    split
    case isTrue hoffset' =>
      rw [UInt64.le_iff_toNat_le, hoffset, hmod] at hoffset'
      rw [Nat.mod_eq_of_lt (by omega)] at hlt
      exact Or.inr (Or.inl ⟨hoffset', hlt, _, rfl, hnext⟩)
    case isFalse hoffset' =>
      rw [UInt64.le_iff_toNat_le, hoffset, hmod] at hoffset'
      exact Or.inr (Or.inr ⟨not_le.mp hoffset', rfl⟩)

end NextCompute

/-!
## Receptions
-/

def Accepted (verdict : Verdict) : Prop :=
  verdict = .stored ∨ verdict = .released

theorem noError_of_accepted {streams : Nat} {config : Config} {r : Reception}
    {s s' : Inputs streams} {verdict : Verdict}
    (h : Received config r s s' verdict) (hverdict : Accepted verdict) :
    r.noError = true := by
  cases h with
  | failed _ => rcases hverdict with hverdict | hverdict <;> cases hverdict
  | dropped hnoError _ => exact hnoError
  | stored next hindex hnoError _ => exact hnoError

theorem inCycle_of_received {streams : Nat} {config : Config} {r : Reception}
    {s s' : Inputs streams} {verdict : Verdict}
    (h : Received config r s s' verdict) (hverdict : verdict = .released)
    (i : Fin streams) : InCycle config s' i := by
  cases h with
  | failed _ => cases hverdict
  | dropped _ _ => cases hverdict
  | stored next hindex _ _ => exact inCycle_of_released _ _ _ _ hverdict i

/-- The instant is to come, and it is that of the computation in its cycle. -/
def Ahead {streams : Nat} (config : Config) (r : Reception)
    (s : Inputs streams) : Prop :=
  r.currentTs.toNat ≤ s.nextComputeTs.toNat ∧
    s.nextComputeTs.toNat % cycle config = offset config

theorem instant_mod {config : Config} (hoffset : offset config < cycle config)
    (txTimestamp : UInt64) :
    instant config txTimestamp % cycle config = offset config := by
  unfold instant
  rw [Nat.mul_add_mod_self_right, Nat.mod_eq_of_lt hoffset]

section Receptions

variable {config : Config} (hcycle : 0 < cycle config)
  (hoffset : offset config < cycle config) {streams : Nat} {r : Reception}
  {s s' : Inputs streams} {verdict : Verdict}
  (hsent : r.noError = true -> r.txTimestamp ≤ r.currentTs)
  (h : Received config r s s' verdict)

include hcycle hsent h

theorem timely_of_not_accepted (hnoError : r.noError = true)
    (hverdict : ¬ Accepted verdict) : Timely config r := by
  cases h with
  | failed hfailed =>
      rw [hnoError] at hfailed
      cases hfailed
  | dropped _ hdropped =>
      rcases nextCompute_cases hcycle (hsent hnoError) with
        ⟨next, hnext, _⟩ | ⟨_, _, next, hnext, _⟩ | ⟨hlate, _⟩
      · rw [hdropped] at hnext
        cases hnext
      · rw [hdropped] at hnext
        cases hnext
      · exact Or.inr (Or.inl hlate)
  | stored next hindex _ _ =>
      exact absurd (verdict_storeAndJoin ..).symm hverdict

include hoffset

/-- The instant of an accepted packet is ahead if the packet is timely. -/
theorem ahead_iff (hnoError : r.noError = true) (hverdict : Accepted verdict) :
    Ahead config r s' <-> Timely config r := by
  have hnow := UInt64.toNat_lt r.currentTs
  have hsent' : r.txTimestamp.toNat ≤ r.currentTs.toNat :=
    UInt64.le_iff_toNat_le.mp (hsent hnoError)
  have hmod := instant_mod hoffset r.txTimestamp
  have hsmall : cycle config < 2 ^ 32 := UInt32.toNat_lt _
  cases h with
  | failed hfailed =>
      rw [hnoError] at hfailed
      cases hfailed
  | dropped _ _ => rcases hverdict with hverdict | hverdict <;> cases hverdict
  | stored next hindex _ hsome =>
      unfold Ahead Timely
      rw [nextComputeTs_storeAndJoin]
      dsimp only
      rcases nextCompute_cases hcycle (hsent hnoError) with
        ⟨next', hnext, hle, hvalue⟩ | ⟨hlate, hlt, next', hnext, hvalue⟩ |
        ⟨_, hnext⟩
      · rw [hsome] at hnext
        cases hnext
        rw [hvalue]
        exact iff_of_true ⟨hle, hmod⟩ (Or.inl hle)
      · rw [hsome] at hnext
        cases hnext
        rw [hvalue]
        by_cases hwrap : instant config r.txTimestamp + cycle config < 2 ^ 64
        · rw [Nat.mod_eq_of_lt hwrap, Nat.add_mod_right]
          omega
        · -- The instant that wraps around is not ahead.
          have hinstant : instant config r.txTimestamp +
              r.txTimestamp.toNat % cycle config =
                r.txTimestamp.toNat + offset config := by
            have hdiv :=
              Nat.div_add_mod' r.txTimestamp.toNat (cycle config)
            unfold instant
            omega
          have hrest : r.txTimestamp.toNat % cycle config < cycle config :=
            Nat.mod_lt _ hcycle
          omega
      · rw [hsome] at hnext
        cases hnext

end Receptions

/-!
## Runs
-/

/-- The run performs the reception `r` after the receptions of `history`. -/
structure Performs {streams : Nat} (config : Config) (s₀ : Inputs streams)
    (rs history : List Reception) (r : Reception) (s s' : Inputs streams)
    (verdict : Verdict) : Prop where
  split : exists rest, rs = history ++ r :: rest
  before : receiveAll config history s₀ = .ok s
  receive : receive config r s = .ok (s', verdict)

/-- A run that begins with a packet that is not dropped. -/
theorem performs_first {config : Config} {streams : Nat} {s₀ : Inputs streams}
    {r : Reception} {next : UInt64} (hnoError : r.noError = true)
    (hcycle : config.cycleTime ≠ 0)
    (hnext : nextCompute config r.txTimestamp r.currentTs = some next)
    (hindex : (mapAt s₀.seqidIndex r.seqId.toUInt32.toInt32).1 < streams) :
    exists s' verdict, Performs config s₀ [r] [] r s₀ s' verdict ∧
      Accepted verdict ∧ s'.nextComputeTs = next :=
  ⟨_, _, ⟨⟨[], rfl⟩, rfl, receive_stored hnoError hcycle hnext hindex⟩,
    (verdict_storeAndJoin ..).symm, nextComputeTs_storeAndJoin ..⟩

/-- No packet was sent later than the time that is read when one is received. -/
def Synchronised (rs : List Reception) : Prop :=
  forall history r rest, rs = history ++ r :: rest -> r.noError = true ->
    forall q, q ∈ history ++ [r] -> q.noError = true ->
      q.txTimestamp ≤ r.currentTs

/-- Each timestamp is that of a packet, or no packet has been stored. -/
def Sourced {streams : Nat} (history : List Reception) (s : Inputs streams) :
    Prop :=
  forall i, s.inputTimestamp i = 0 ∨
    exists q, q ∈ history ∧ q.noError = true ∧
      s.inputTimestamp i = q.txTimestamp

theorem sourced_received {streams : Nat} {config : Config}
    {history : List Reception} {r : Reception} {s s' : Inputs streams}
    {verdict : Verdict} (hs : Sourced history s)
    (h : Received config r s s' verdict) : Sourced (history ++ [r]) s' := by
  have hkept : Sourced (history ++ [r]) s := by
    intro i
    rcases hs i with hzero | ⟨q, hq, hsource⟩
    · exact Or.inl hzero
    · exact Or.inr ⟨q, List.mem_append_left _ hq, hsource⟩
  cases h with
  | failed _ => exact hkept
  | dropped _ _ => exact hkept
  | stored next hindex hnoError _ =>
      intro i
      rw [inputTimestamp_storeAndJoin]
      by_cases hi : i = ⟨_, hindex⟩
      · rw [hi, Function.update_self]
        exact Or.inr ⟨r, by simp, hnoError, rfl⟩
      · rw [Function.update_of_ne hi]
        exact hkept i

theorem sourced_receiveAll {streams : Nat} {config : Config}
    {history rs : List Reception} {s s' : Inputs streams}
    (hs : Sourced history s) (h : receiveAll config rs s = .ok s') :
    Sourced (history ++ rs) s' := by
  induction rs generalizing history s with
  | nil =>
      cases h
      rwa [List.append_nil]
  | cons r rs ih =>
      obtain ⟨⟨s₁, verdict⟩, hr, h⟩ := bind_eq_ok.mp h
      have hrest := ih (sourced_received hs (received_of_receive hr)) h
      rwa [List.append_assoc] at hrest

/--
What a reception promises: an accepted packet has an instant ahead, and the
computation is released with packets of one cycle.
-/
structure Joined {streams : Nat} (config : Config) (r : Reception)
    (s : Inputs streams) (verdict : Verdict) : Prop where
  accepted : Accepted verdict -> Ahead config r s
  released : verdict = .released -> forall i,
    s.nextComputeTs.toNat ≤ (s.inputTimestamp i).toNat + cycle config ∧
      s.inputTimestamp i ≤ s.nextComputeTs

/-- The streams belong to the cycle if their packets were sent in time. -/
theorem oneCycle {streams : Nat} {config : Config} {s : Inputs streams}
    {i : Fin streams} (h : InCycle config s i)
    (hle : s.inputTimestamp i ≤ s.nextComputeTs) :
    s.nextComputeTs.toNat ≤ (s.inputTimestamp i).toNat + cycle config := by
  have hnext := UInt64.toNat_lt s.nextComputeTs
  have hsmall : cycle config < 2 ^ 32 := UInt32.toNat_lt _
  have hcycle : config.cycleTime.toUInt64.toNat = cycle config :=
    UInt32.toNat_toUInt64 _
  rw [UInt64.le_iff_toNat_le] at hle
  unfold InCycle at h
  rw [UInt64.le_iff_toNat_le, UInt64.toNat_sub, hcycle] at h
  omega

section Runs

variable {config : Config} {memory : Fin config.inputSeqIds.length -> UInt32}
  {rs history : List Reception} {r : Reception}
  {s s' : Inputs config.inputSeqIds.length} {verdict : Verdict}
  (hsync : Synchronised rs)
  (h : Performs config (initializeHardware config memory) rs history r s s'
    verdict)

include hsync h

theorem sent_of_synchronised (hnoError : r.noError = true) :
    r.txTimestamp ≤ r.currentTs := by
  obtain ⟨rest, hsplit⟩ := h.split
  exact hsync history r rest hsplit hnoError r (by simp) hnoError

theorem inputTimestamp_le (hnoError : r.noError = true)
    (i : Fin config.inputSeqIds.length) :
    s'.inputTimestamp i ≤ r.currentTs := by
  obtain ⟨rest, hsplit⟩ := h.split
  have hinitial : Sourced [] (initializeHardware config memory) :=
    fun i => Or.inl rfl
  have hbefore := sourced_receiveAll hinitial h.before
  rw [List.nil_append] at hbefore
  rcases sourced_received hbefore (received_of_receive h.receive) i with
    hzero | ⟨q, hq, hqError, hsource⟩
  · rw [hzero]
    exact UInt64.zero_le
  · rw [hsource]
    exact hsync history r rest hsplit hnoError q hq hqError

end Runs

/--
In a run whose packets are not sent later than they are received, the instant
is ahead of every packet that is accepted, and all packets of a computation
belong to one cycle, exactly if all packets that are received are timely.
-/
theorem joined_iff {config : Config} {rs : List Reception}
    (memory : Fin config.inputSeqIds.length -> UInt32)
    (hcycle : 0 < cycle config) (hoffset : offset config < cycle config)
    (hsync : Synchronised rs) :
    (forall history r s s' verdict,
      Performs config (initializeHardware config memory) rs history r s s'
        verdict -> Joined config r s' verdict) <->
    forall history r s s' verdict,
      Performs config (initializeHardware config memory) rs history r s s'
        verdict -> r.noError = true -> Timely config r := by
  constructor
  · intro hjoined history r s s' verdict hperforms hnoError
    have hreceived := received_of_receive hperforms.receive
    have hsent : r.noError = true -> r.txTimestamp ≤ r.currentTs :=
      sent_of_synchronised hsync hperforms
    by_cases hverdict : Accepted verdict
    · exact (ahead_iff hcycle hoffset hsent hreceived hnoError hverdict).mp
        ((hjoined _ _ _ _ _ hperforms).accepted hverdict)
    · exact timely_of_not_accepted hcycle hsent hreceived hnoError hverdict
  · intro htimely history r s s' verdict hperforms
    have hreceived := received_of_receive hperforms.receive
    have hsent : r.noError = true -> r.txTimestamp ≤ r.currentTs :=
      sent_of_synchronised hsync hperforms
    have hahead : Accepted verdict -> Ahead config r s' := by
      intro hverdict
      have hnoError : r.noError = true := noError_of_accepted hreceived hverdict
      exact (ahead_iff hcycle hoffset hsent hreceived hnoError hverdict).mpr
        (htimely _ _ _ _ _ hperforms hnoError)
    refine ⟨hahead, fun hreleased i => ?_⟩
    have hverdict : Accepted verdict := Or.inr hreleased
    have hnoError : r.noError = true := noError_of_accepted hreceived hverdict
    have hle : s'.inputTimestamp i ≤ s'.nextComputeTs :=
      UInt64.le_trans (inputTimestamp_le hsync hperforms hnoError i)
        (UInt64.le_iff_toNat_le.mpr (hahead hverdict).left)
    exact ⟨oneCycle (inCycle_of_received hreceived hreleased i) hle, hle⟩

/-- A packet of one stream in cycles of 2^14 nanoseconds, sent at the instant 1. -/
def packetAt (currentTs : UInt64) : Reception :=
  receptionOf (sendFrame 0x203 1 0 (Vector.replicate 6 0)
    (Vector.replicate 6 0)) currentTs

def shortCycle : Config :=
  { initialConfig (Vector.replicate 6 0) with
    inputSeqIds := [0x203]
    cycleTime := 0x4000 }

theorem txTimestamp_packetAt (currentTs : UInt64) :
    (packetAt currentTs).txTimestamp = 1 :=
  (received _ (holds_receptionOf _ currentTs)).left

/-- No packet of the run was sent later than any of its times is read. -/
theorem synchronised_of_forall {rs : List Reception}
    (h : forall q, q ∈ rs -> forall r, r ∈ rs -> q.txTimestamp ≤ r.currentTs) :
    Synchronised rs := by
  intro history r rest hsplit _ q hq _
  have hsubset : history ++ [r] ⊆ rs := by
    rw [hsplit, List.append_cons history r rest]
    exact List.subset_append_left _ _
  exact h q (hsubset hq) r (hsubset List.mem_concat_self)

theorem exists_performs {streams : Nat} {config : Config} {s₀ : Inputs streams}
    {history rest : List Reception} {r : Reception} {verdict : Verdict}
    (h : (do
      let s <- receiveAll config history s₀
      let result <- receive config r s
      return result.2) = .ok verdict) :
    exists s s', Performs config s₀ (history ++ r :: rest) history r s s'
      verdict := by
  obtain ⟨s, hbefore, h⟩ := bind_eq_ok.mp h
  obtain ⟨⟨s', _⟩, hreceive, h⟩ := bind_eq_ok.mp h
  cases h
  exact ⟨s, s', ⟨rest, rfl⟩, hbefore, hreceive⟩

theorem synchronised_packetAt {currentTs : UInt64} (h : 1 ≤ currentTs) :
    Synchronised [packetAt currentTs] := by
  refine synchronised_of_forall fun q hq r hr => ?_
  rw [List.mem_singleton.mp hq, List.mem_singleton.mp hr, txTimestamp_packetAt]
  exact h

/-- Two streams in cycles of the same length. -/
def shortCycles : Config :=
  { shortCycle with inputSeqIds := [0x203, 0x204] }

/-- A packet of the other stream, sent and received in the same cycle. -/
def otherPacket : Reception :=
  receptionOf (sendFrame 0x204 2 0 (Vector.replicate 6 0)
    (Vector.replicate 6 0)) 200

/-- Packets that are received in the cycle in which they were sent are joined. -/
theorem packetAt_joined :
    Synchronised [packetAt 100, otherPacket] ∧
      exists s s', Performs shortCycles
          (initializeHardware shortCycles fun _ => 0)
          [packetAt 100, otherPacket] [packetAt 100] otherPacket s s'
          .released ∧
        Joined shortCycles otherPacket s' .released := by
  have hsync : Synchronised [packetAt 100, otherPacket] :=
    synchronised_of_forall (by decide +kernel)
  have htimely : forall r, r ∈ [packetAt 100, otherPacket] ->
      Timely shortCycles r := by
    unfold Timely
    decide +kernel
  have hjoined := (joined_iff (fun _ => 0) (by decide) (by decide) hsync).mpr
    fun history r s s' verdict (hperforms : Performs shortCycles _ _ _ _ _ _ _)
      _ => by
    obtain ⟨rest, hsplit⟩ := hperforms.split
    exact htimely r (hsplit ▸ List.mem_append_right _ List.mem_cons_self)
  obtain ⟨s, s', hperforms⟩ := @exists_performs _ shortCycles
    (initializeHardware shortCycles fun _ => 0) [packetAt 100] [] otherPacket
    .released (by decide +kernel)
  exact ⟨hsync, s, s', hperforms, hjoined _ _ _ _ _ hperforms⟩

/-- A packet that is two cycles old is accepted for an instant that is over. -/
theorem oldPacket_not_joined :
    Synchronised [packetAt 40000] ∧
      ¬ forall history r s s' verdict,
        Performs shortCycle (initializeHardware shortCycle fun _ => 0)
          [packetAt 40000] history r s s' verdict ->
        Joined shortCycle r s' verdict := by
  have hsync : Synchronised [packetAt 40000] :=
    synchronised_packetAt (by decide)
  refine ⟨hsync, fun hjoined => ?_⟩
  have hnext : nextCompute shortCycle (packetAt 40000).txTimestamp
      (packetAt 40000).currentTs = some 0x4000 := by
    rw [txTimestamp_packetAt]
    decide
  obtain ⟨s', verdict, hperforms, hverdict, hinstant⟩ :=
    @performs_first shortCycle 1 (initializeHardware shortCycle fun _ => 0) _ _
      rfl (by decide) hnext (by decide +kernel)
  have hahead := ((hjoined _ _ _ _ _ hperforms).accepted hverdict).left
  rw [hinstant] at hahead
  exact absurd hahead (by decide)

end PlcIo
end Ziggo
