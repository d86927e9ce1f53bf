import Mathlib.Data.Int.ModEq
import Ziggo.TimeSync.SyncLoop.Forwarding

/-!
# The time of the clock slave

What the clock slave records for a pair of messages on the slave port, and when
it is the time of the master at the reception of the `Sync`.
-/

namespace Ziggo
namespace TimeSync

open Foundation TsnDrivers

namespace ClockSlaveSyncSM

/-!
## The arithmetic of a sample
-/

/-- The time that a timestamp stands for, in units of `2 ^ -16` nanoseconds. -/
def originTime (t : PTPMsgTimestamp) : Int :=
  ((t.secondsMsb.toNat * 2 ^ 32 + t.secondsLsb.toNat) * 1000000000 +
    t.nanoseconds.toNat) * 2 ^ 16

/-- The sum of the corrections as the receiver of messages computes it. -/
def correctionSum (c1 c2 : Int64) : UScaledNs :=
  uscalednsAdd (uscalednsUint64 c1.toUInt64) (uscalednsUint64 c2.toUInt64)

theorem toNat_correctionSum (c1 c2 : Int64) :
    (correctionSum c1 c2).toNat =
      c1.toUInt64.toNat + c2.toUInt64.toNat +
        if (c1.toUInt64.toNat + c2.toUInt64.toNat) % 2 ^ 16 = 0xFFFF then 2 ^ 16
        else 0 := by
  have h1 := c1.toUInt64.toNat_lt
  have h2 := c2.toUInt64.toNat_lt
  unfold correctionSum
  rw [toNat_uscalednsAdd, additionError_eq, toNat_uscalednsUint64,
    toNat_uscalednsUint64]
  split_ifs <;> omega

theorem toNat_origin_add (o : PTPMsgTimestamp) (c : UScaledNs) :
    (uscalednsAdd (uscalednsPtpmsgtimestamp o) c).toNat =
      ((o.secondsLsb.toNat * 1000000000 + o.nanoseconds.toNat) * 2 ^ 16 +
        c.toNat + if c.toNat % 2 ^ 16 = 0xFFFF then 2 ^ 16 else 0) %
        2 ^ 96 := by
  rw [toNat_uscalednsAdd, additionError_eq, toNat_uscalednsPtpmsgtimestamp]
  have hzero : (o.secondsLsb.toNat * 1000000000 + o.nanoseconds.toNat) *
      2 ^ 16 % 2 ^ 16 = 0 := Nat.mul_mod_left _ _
  rw [hzero, Nat.zero_add]

/-- The sums lose nothing if no correction is negative and no fraction is full. -/
theorem syncReceiptTime_iff {o : PTPMsgTimestamp} (c1 c2 : Int64)
    (d : UScaledNs) (hmsb : o.secondsMsb = 0) :
    ((uscalednsAdd (uscalednsAdd (uscalednsPtpmsgtimestamp o)
        (correctionSum c1 c2)) d).toNat : Int) ≡
          originTime o + c1.toInt + c2.toInt + d.toNat [ZMOD 2 ^ 96] <->
      0 ≤ c1.toInt ∧ 0 ≤ c2.toInt ∧
        (c1.toInt + c2.toInt) % 2 ^ 16 ≠ 0xFFFF ∧
        (c1.toInt + c2.toInt) % 2 ^ 16 + d.subns.toNat ≠ 0xFFFF := by
  have h1 := c1.toUInt64.toNat_lt
  have h2 := c2.toUInt64.toNat_lt
  have hd := d.toNat_lt
  have hs1 := toInt_eq_toNat c1
  have hs2 := toInt_eq_toNat c2
  have hseconds := o.secondsLsb.toNat_lt
  have hnanoseconds := o.nanoseconds.toNat_lt
  have horigin : originTime o =
      (o.secondsLsb.toNat * 1000000000 + o.nanoseconds.toNat) * 2 ^ 16 := by
    unfold originTime
    rw [hmsb]
    simp
  rw [toNat_uscalednsAdd, additionError_eq, toNat_origin_add,
    toNat_correctionSum, horigin, ← d.toNat_mod, Int.ModEq]
  generalize c1.toUInt64.toNat = u1 at *
  generalize c2.toUInt64.toNat = u2 at *
  generalize c1.toInt = i1 at *
  generalize c2.toInt = i2 at *
  generalize d.toNat = d at *
  generalize o.secondsLsb.toNat = s at *
  generalize o.nanoseconds.toNat = ns at *
  split_ifs at hs1 hs2 ⊢ <;> omega

theorem syncReceiptLocalTime_iff (ingress d : UScaledNs) :
    uscalednsAdd (uscalednsSubtract ingress d) d = ingress <->
      ingress.subns ≠ 0xFFFF := by
  have hingress := ingress.toNat_lt
  have hd := d.toNat_lt
  have hfull : ingress.subns ≠ 0xFFFF <-> ingress.toNat % 2 ^ 16 ≠ 0xFFFF := by
    rw [ingress.toNat_mod, Ne, Ne, ← UInt16.toNat_inj]
    rfl
  have hsum : (uscalednsAdd (uscalednsSubtract ingress d) d).toNat =
      ingress.toNat <-> ingress.toNat % 2 ^ 16 ≠ 0xFFFF := by
    rw [toNat_uscalednsAdd, additionError_eq, toNat_uscalednsSubtract]
    split_ifs <;> omega
  rw [hfull, ← hsum]
  constructor
  · intro h
    rw [h]
  · exact UScaledNs.toNat_inj

theorem apply_syncOffset (g : PerPTPInstanceGlobal) :
    (syncOffset g).1.apply (syncOffset g).2 =
      (g.syncReceiptTime.toNat : Int) - g.syncReceiptLocalTime.toNat := by
  have hcompare :=
    uscalednsCompare_nonneg g.syncReceiptTime g.syncReceiptLocalTime
  unfold syncOffset
  by_cases hle : g.syncReceiptLocalTime.toNat ≤ g.syncReceiptTime.toNat
  · rw [if_pos (hcompare.mpr hle)]
    simp only [RtcOffsetSign.apply]
    rw [toNat_uscalednsSubtract_of_le hle]
    omega
  · rw [if_neg fun h => hle (hcompare.mp h)]
    simp only [RtcOffsetSign.apply]
    rw [toNat_uscalednsSubtract_of_le (by omega)]
    omega

end ClockSlaveSyncSM

namespace SyncLoop

/-!
## What is recorded
-/

/-- The part of the globals that the clock slave records. -/
structure Recorded where
  syncReceiptTime : UScaledNs
  syncReceiptLocalTime : UScaledNs
  gmTimeBaseIndicator : UInt16
  lastGmPhaseChange : ScaledNs

def recordedOf (g : PerPTPInstanceGlobal) : Recorded where
  syncReceiptTime := g.syncReceiptTime
  syncReceiptLocalTime := g.syncReceiptLocalTime
  gmTimeBaseIndicator := g.gmTimeBaseIndicator
  lastGmPhaseChange := g.lastGmPhaseChange

/-- What the clock slave records for a structure. -/
def recordFor (pss : PortSyncSync) (meanLinkDelay : UScaledNs) : Recorded where
  syncReceiptTime := ClockSlaveSyncSM.syncReceiptTimeOf pss meanLinkDelay
  syncReceiptLocalTime := uscalednsAdd pss.upstreamTxTime meanLinkDelay
  gmTimeBaseIndicator := pss.gmTimeBaseIndicator
  lastGmPhaseChange := pss.lastGmPhaseChange

theorem syncOffset_of_recordedOf {g g' : PerPTPInstanceGlobal}
    (h : recordedOf g = recordedOf g') :
    ClockSlaveSyncSM.syncOffset g = ClockSlaveSyncSM.syncOffset g' := by
  have htime : g.syncReceiptTime = g'.syncReceiptTime :=
    congrArg Recorded.syncReceiptTime h
  have hlocal : g.syncReceiptLocalTime = g'.syncReceiptLocalTime :=
    congrArg Recorded.syncReceiptLocalTime h
  unfold ClockSlaveSyncSM.syncOffset
  rw [htime, hlocal]

/-- A pair of messages has come from the grandmaster on the slave port. -/
structure OnSlavePort (l : SyncLoop) (e : Event) (p : Pair) : Prop where
  accepted : SyncLoop.accepted l e = some p
  slave : l.perPTPInstanceGlobal.selectedState p.port.succ = .slavePort
  grandmaster : l.perPTPInstanceGlobal.gmPresent = true

section Records

variable {l l' l'' : SyncLoop} {e : Event} {p : Pair}

/-- A structure of the slave port is recorded, whether it goes on or not. -/
theorem recordedOf_arrival {ts : UScaledNs} {pss : PortSyncSync}
    {pre : List Call} (h : Arrives ts pss l l' pre l'')
    (hslave : SiteSyncSyncSM.fromSlavePort l pss = true) :
    recordedOf l''.perPTPInstanceGlobal =
      recordFor pss
        (ClockSlaveSyncSM.meanLinkDelayOf l pss.localPortNumber) := by
  have hfrom := (@fromSlavePort_of_environment l l' pss h.environment).trans
    hslave
  have hrecorded : recordedOf (ClockSlaveSyncSM.recorded pss l') =
      recordFor pss
        (ClockSlaveSyncSM.meanLinkDelayOf l pss.localPortNumber) := by
    rw [← ClockSlaveSyncSM.meanLinkDelayOf_of_environment h.environment]
    rfl
  have hresult : l''.perPTPInstanceGlobal =
      (SiteSyncSyncSM.recvPSSync ts pss l').perPTPInstanceGlobal :=
    congrArg Output.perPTPInstanceGlobal h.result
  rw [← hrecorded, hresult]
  by_cases hstuck : ClockSlaveSyncSM.Stuck pss l'
  · rw [SiteSyncSyncSM.instance_recvPSSync_stuck ts h.configured.operating
      h.running h.rests hfrom hstuck]
  · rw [(SiteSyncSyncSM.forwarded_recvPSSync ts h.configured.operating
      h.running h.rests hfrom hstuck).instanceGlobal]
    split
    · rfl
    · rfl

theorem OnSlavePort.arrives (h : l.AtRest) (hon : OnSlavePort l e p)
    {interval : UScaledNs}
    (hinterval : PortSyncSyncReceiveSM.intervalOf l p.port (p.mdSync l) =
      .ok interval) :
    exists l', Arrives p.ts
      (PortSyncSyncReceiveSM.psSyncFor l p.port p.ts (p.mdSync l) interval) l l'
      [.portSyncSyncReceive p.port (p.mdSync l)] (l.step e) := by
  obtain ⟨hport, sms, sms', hready, hhandle⟩ := handle_accepted h hon.accepted
  rw [step_running h.ready.running, hhandle]
  exact ⟨_, arrives_delivered h hready hport hinterval⟩

theorem OnSlavePort.fromSlavePort (h : l.AtRest) (hon : OnSlavePort l e p)
    (interval : UScaledNs) :
    SiteSyncSyncSM.fromSlavePort l
      (PortSyncSyncReceiveSM.psSyncFor l p.port p.ts (p.mdSync l) interval) =
      true := by
  have hthis : (PortSyncSyncReceiveSM.psSyncFor l p.port p.ts (p.mdSync l)
      interval).localPortNumber = p.port.succ :=
    h.ready.configured.thisPort p.port
  unfold SiteSyncSyncSM.fromSlavePort
  rw [hthis]
  exact decide_eq_true ⟨hon.slave, hon.grandmaster⟩

theorem OnSlavePort.meanLinkDelay (h : l.AtRest) (interval : UScaledNs) :
    ClockSlaveSyncSM.meanLinkDelayOf l
        (PortSyncSyncReceiveSM.psSyncFor l p.port p.ts (p.mdSync l)
          interval).localPortNumber =
      (l.perPortGlobal p.port).meanLinkDelay := by
  have hthis : (PortSyncSyncReceiveSM.psSyncFor l p.port p.ts (p.mdSync l)
      interval).localPortNumber = p.port.succ :=
    h.ready.configured.thisPort p.port
  rw [hthis]
  rfl

/-- Nothing is recorded if the interval of a pair cannot be computed. -/
theorem news_error (h : l.AtRest) (haccepted : accepted l e = some p)
    {f : Fault}
    (hinterval : PortSyncSyncReceiveSM.intervalOf l p.port (p.mdSync l) =
      .error f) :
    news l e = [.portSyncSyncReceive p.port (p.mdSync l)] := by
  obtain ⟨hport, sms, sms', hready, hhandle⟩ := handle_accepted h haccepted
  have hcall := @PortSyncSyncReceiveSM.recvMDSync_error (withMessages sms l)
    p.port p.ts (p.mdSync l) hready hport f hinterval
  refine news_of_calls ?_
  rw [step_running h.ready.running, hhandle, hcall]
  rfl

theorem intervalOf_ok_iff :
    (exists interval, PortSyncSyncReceiveSM.intervalOf l p.port (p.mdSync l) =
        .ok interval) <->
      0 ≤ p.sync.head.logMessageInterval ∧
        p.sync.head.logMessageInterval ≤ 30 := by
  unfold PortSyncSyncReceiveSM.intervalOf PortAnnounceInformationSM.timeoutInterval
  change (exists interval, (if 0 ≤ p.sync.head.logMessageInterval ∧
    p.sync.head.logMessageInterval ≤ 30 then _ else _) = _) <-> _
  split
  case isTrue hlog => exact iff_of_true ⟨_, rfl⟩ hlog
  case isFalse hlog => exact iff_of_false (by simp) hlog

end Records

/-!
## The time of the master
-/

/-- The time of the master when the `Sync` of a pair is received. -/
def masterTime (l : SyncLoop) (p : Pair) : Int :=
  ClockSlaveSyncSM.originTime p.followUp.preciseOriginTimestamp +
    p.sync.head.correctionField.toInt + p.followUp.head.correctionField.toInt +
    (l.perPortGlobal p.port).meanLinkDelay.toNat

/-- The clock slave records the time of a pair and sets the clock by it. -/
structure RecordsTime (l : SyncLoop) (e : Event) (p : Pair) : Prop where
  time : ((l.step e).perPTPInstanceGlobal.syncReceiptTime.toNat : Int) ≡
    masterTime l p [ZMOD 2 ^ 96]
  localTime : (l.step e).perPTPInstanceGlobal.syncReceiptLocalTime = p.ingress
  offset : exists sign offset, .setRtcSyncOffset sign offset ∈ news l e ∧
    sign.apply offset ≡ masterTime l p - p.ingress.toNat [ZMOD 2 ^ 96]

/-- No conversion or sum on the way of a pair loses or adds anything. -/
structure ExactSums (l : SyncLoop) (p : Pair) : Prop where
  interval : 0 ≤ p.sync.head.logMessageInterval ∧
    p.sync.head.logMessageInterval ≤ 30
  sync : 0 ≤ p.sync.head.correctionField.toInt
  followUp : 0 ≤ p.followUp.head.correctionField.toInt
  corrections : (p.sync.head.correctionField.toInt +
    p.followUp.head.correctionField.toInt) % 2 ^ 16 ≠ 0xFFFF
  delay : (p.sync.head.correctionField.toInt +
    p.followUp.head.correctionField.toInt) % 2 ^ 16 +
      (l.perPortGlobal p.port).meanLinkDelay.subns.toNat ≠ 0xFFFF
  ingress : p.ingress.subns ≠ 0xFFFF

section Times

variable {l : SyncLoop} {e : Event} {p : Pair}

theorem recordsTime_iff (h : l.AtRest) (hon : OnSlavePort l e p)
    (hmsb : p.followUp.preciseOriginTimestamp.secondsMsb = 0) :
    RecordsTime l e p <-> ExactSums l p := by
  cases hinterval : PortSyncSyncReceiveSM.intervalOf l p.port (p.mdSync l) with
  | error f =>
      refine iff_of_false (fun hrecords => ?_) fun hexact => ?_
      · obtain ⟨_, _, hmem, _⟩ := hrecords.offset
        rw [news_error h hon.accepted hinterval] at hmem
        simp at hmem
      · obtain ⟨interval, hok⟩ := intervalOf_ok_iff.mpr hexact.interval
        rw [hinterval] at hok
        cases hok
  | ok interval =>
      obtain ⟨l', harrives⟩ := hon.arrives h hinterval
      have hslave := hon.fromSlavePort h interval
      have hrecorded := recordedOf_arrival harrives hslave
      rw [OnSlavePort.meanLinkDelay h interval] at hrecorded
      have htime : (l.step e).perPTPInstanceGlobal.syncReceiptTime =
          uscalednsAdd (uscalednsAdd (uscalednsPtpmsgtimestamp
            p.followUp.preciseOriginTimestamp)
            (ClockSlaveSyncSM.correctionSum p.sync.head.correctionField
              p.followUp.head.correctionField))
            (l.perPortGlobal p.port).meanLinkDelay :=
        congrArg Recorded.syncReceiptTime hrecorded
      have hlocal : (l.step e).perPTPInstanceGlobal.syncReceiptLocalTime =
          uscalednsAdd (uscalednsSubtract p.ingress
            (l.perPortGlobal p.port).meanLinkDelay)
            (l.perPortGlobal p.port).meanLinkDelay :=
        congrArg Recorded.syncReceiptLocalTime hrecorded
      have htime_iff := ClockSlaveSyncSM.syncReceiptTime_iff
        p.sync.head.correctionField p.followUp.head.correctionField
        (l.perPortGlobal p.port).meanLinkDelay hmsb
      have hlocal_iff := ClockSlaveSyncSM.syncReceiptLocalTime_iff p.ingress
        (l.perPortGlobal p.port).meanLinkDelay
      constructor
      · intro hrecords
        have hsum := hrecords.time
        have hsame := hrecords.localTime
        rw [htime] at hsum
        rw [hlocal] at hsame
        obtain ⟨hsync, hfollowUp, hcorrections, hdelay⟩ := htime_iff.mp hsum
        exact ⟨intervalOf_ok_iff.mp ⟨interval, hinterval⟩, hsync, hfollowUp,
          hcorrections, hdelay, hlocal_iff.mp hsame⟩
      · intro hexact
        have hsum : ((l.step e).perPTPInstanceGlobal.syncReceiptTime.toNat :
            Int) ≡ masterTime l p [ZMOD 2 ^ 96] := by
          rw [htime]
          exact htime_iff.mpr ⟨hexact.sync, hexact.followUp,
            hexact.corrections, hexact.delay⟩
        have hsame : (l.step e).perPTPInstanceGlobal.syncReceiptLocalTime =
            p.ingress := by
          rw [hlocal]
          exact hlocal_iff.mpr hexact.ingress
        refine ⟨hsum, hsame, ?_⟩
        have hcalls := calls_of_arrival harrives
        rw [if_pos hslave, List.append_assoc] at hcalls
        rw [news_of_calls hcalls]
        refine ⟨_, _, List.mem_append_right _
          (List.mem_cons_of_mem _ List.mem_cons_self), ?_⟩
        have hoffset : ClockSlaveSyncSM.syncOffset (ClockSlaveSyncSM.recorded
              (PortSyncSyncReceiveSM.psSyncFor l p.port p.ts (p.mdSync l)
                interval) l) =
            ClockSlaveSyncSM.syncOffset (l.step e).perPTPInstanceGlobal := by
          refine syncOffset_of_recordedOf ?_
          rw [hrecorded, ← OnSlavePort.meanLinkDelay h interval]
          rfl
        rw [hoffset, ClockSlaveSyncSM.apply_syncOffset, hsame]
        exact hsum.sub_right _

end Times

/--
In a run the clock slave follows each pair exactly if no correction is negative
and no sum meets a full fraction.
-/
theorem slave_time_iff (config : Config) (memory : SyncMemory)
    (es : List Event) :
    Along step (fun l e => forall p, OnSlavePort l e p ->
        p.followUp.preciseOriginTimestamp.secondsMsb = 0 -> RecordsTime l e p)
        (start config memory) es <->
      Along step (fun l e => forall p, OnSlavePort l e p ->
        p.followUp.preciseOriginTimestamp.secondsMsb = 0 -> ExactSums l p)
        (start config memory) es := by
  have hsteady : forall history,
      (runEvents step (start config memory) history).Steady :=
    steady_after config memory
  constructor
  · intro h history e rest hes p hon hmsb
    have hrest := hsteady history (accepted_eq_some hon.accepted).left
    exact (recordsTime_iff hrest hon hmsb).mp (h history e rest hes p hon hmsb)
  · intro h history e rest hes p hon hmsb
    have hrest := hsteady history (accepted_eq_some hon.accepted).left
    exact (recordsTime_iff hrest hon hmsb).mpr (h history e rest hes p hon hmsb)

/-- A `Follow_Up` that takes one nanosecond back. -/
def backwardFollowUp : PTPMsgFollowUp :=
  { (default : PTPMsgFollowUp) with
    head :=
      { (default : PTPMsgFollowUp).head with correctionField := -65536 }
    preciseOriginTimestamp :=
      { secondsMsb := 0, secondsLsb := 1, nanoseconds := 0 } }

/-- The pair that the backward `Follow_Up` completes. -/
def backwardPair : Pair where
  port := 0
  ts := default
  sync := default
  followUp := backwardFollowUp
  ingress := default

/-- A negative correction puts the clock ahead by `2 ^ 48` nanoseconds. -/
theorem backward_correction_misread :
    ¬ Along step (fun l e => forall p, OnSlavePort l e p ->
        p.followUp.preciseOriginTimestamp.secondsMsb = 0 -> RecordsTime l e p)
      (start bridgeConfig default)
      [syncEvent default, .followUp 0 default backwardFollowUp] := by
  intro h
  have hlast : forall p, OnSlavePort
        (after bridgeConfig default [syncEvent default])
        (.followUp 0 default backwardFollowUp) p ->
      p.followUp.preciseOriginTimestamp.secondsMsb = 0 ->
      RecordsTime (after bridgeConfig default [syncEvent default])
        (.followUp 0 default backwardFollowUp) p :=
    @Along.last _ _ step _ _ [syncEvent default] _ h
  have haccepted : (accepted (after bridgeConfig default [syncEvent default])
      (.followUp 0 default backwardFollowUp)).map
        (fun p => (p.port, p.ts, p.sync, p.followUp, p.ingress)) =
      some (0, default, default, backwardFollowUp, default) := by
    decide +kernel
  obtain ⟨p, hp, hfields⟩ := Option.map_eq_some_iff.mp haccepted
  have hsame : p = backwardPair := by
    cases p
    cases hfields
    rfl
  have hrecords := (hlast backwardPair
    ⟨hsame ▸ hp, by decide +kernel, by decide +kernel⟩ rfl).time
  have hwrong : ¬ ((((after bridgeConfig default [syncEvent default]).step
      (.followUp 0 default
        backwardFollowUp)).perPTPInstanceGlobal.syncReceiptTime.toNat : Int) ≡
      masterTime (after bridgeConfig default [syncEvent default]) backwardPair
        [ZMOD 2 ^ 96]) := by
    decide +kernel
  exact hwrong hrecords

end SyncLoop

end TimeSync
end Ziggo
