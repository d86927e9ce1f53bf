import Ziggo.TimeSync.ClockSlaveSyncSM.History
import Ziggo.TimeSync.SyncLoop.Pairing
import Ziggo.TimeSync.SyncLoop.SlaveTime

/-!
# The period of the clock slave

The clock slave compares the rates of two clocks over a history of samples.  A
sample is taken for each structure of the slave port, with the local time at
which its `Sync` was received or, as long as the instance is the grandmaster,
with the local time that its clock master has read.
-/

namespace Ziggo
namespace TimeSync

open Foundation TsnDrivers

namespace ClockSlaveSyncSM

/-!
## The history of local times
-/

def localHistory (sm : ClockSlaveSyncSM) : History UScaledNs maxLength where
  slots := sm.lSyncReceiptLocalTime
  head := sm.listHeadPeriod
  tail := sm.listTailPeriod
  isEmpty := sm.isEmptyPeriod

def sampleTime (pss : PortSyncSync) (l : SyncLoop) : UScaledNs :=
  uscalednsAdd pss.upstreamTxTime (meanLinkDelayOf l pss.localPortNumber)

section Samples

variable {l : SyncLoop} {pss : PortSyncSync}

theorem localHistory_eq (sm : ClockSlaveSyncSM) :
    sm.localHistory = sm.periodHistory.map Prod.snd :=
  rfl

theorem periodHistory_recvPSSync (hoperating : l.resetting = false)
    (hrunning : l.stop = none) (hrest : l.clockSlaveSyncSm.Rests) :
    exists time,
      (recvPSSync pss l).clockSlaveSyncSm.periodHistory =
          l.clockSlaveSyncSm.periodHistory.record (time, sampleTime pss l) ∨
        (recvPSSync pss l).clockSlaveSyncSm.periodHistory =
          (l.clockSlaveSyncSm.periodHistory.record
            (time, sampleTime pss l)).restart := by
  have hkeeps : SyncLoop.Keeps (fun l => l.clockSlaveSyncSm.periodHistory)
      clearFlags := fun _ => rfl
  rw [recvPSSync_eq hoperating hrunning hrest]
  change exists time, (indicate pss l).clockSlaveSyncSm.periodHistory = _ ∨
    (indicate pss l).clockSlaveSyncSm.periodHistory = _
  unfold indicate
  rw [hkeeps.thenDo]
  have hrecorded : (updateSlaveTime
      (recordSync pss (storePSSync pss l))).clockSlaveSyncSm.periodHistory =
      l.clockSlaveSyncSm.periodHistory.record
        (syncReceiptTimeOf pss (meanLinkDelayOf l pss.localPortNumber),
          sampleTime pss l) := periodHistory_add _ _ _
  have hupdated := periodHistory_updateSlavePeriod
    (updateSlaveTime (recordSync pss (storePSSync pss l)))
  rw [hrecorded] at hupdated
  exact ⟨_, hupdated⟩

theorem localHistory_recvPSSync (hoperating : l.resetting = false)
    (hrunning : l.stop = none) (hrest : l.clockSlaveSyncSm.Rests) :
    (recvPSSync pss l).clockSlaveSyncSm.localHistory =
        l.clockSlaveSyncSm.localHistory.record (sampleTime pss l) ∨
      (recvPSSync pss l).clockSlaveSyncSm.localHistory =
        (l.clockSlaveSyncSm.localHistory.record (sampleTime pss l)).restart := by
  obtain ⟨time, hhistory⟩ := @periodHistory_recvPSSync l pss hoperating hrunning
    hrest
  have hrecord := History.map_record Prod.snd (time, sampleTime pss l)
    l.clockSlaveSyncSm.periodHistory
  rw [localHistory_eq, localHistory_eq]
  rcases hhistory with hrecorded | hrestarted
  · rw [hrecorded]
    exact Or.inl hrecord
  · rw [hrestarted]
    exact Or.inr (congrArg History.restart hrecord)

/-- A sample with a new local time shows an interval. -/
theorem divisor_ne_zero (hready : l.clockSlaveSyncSm.localHistory.Ready)
    (hnew : sampleTime pss l ∉ l.clockSlaveSyncSm.localHistory.samples)
    {t1 t2 : UScaledNs} (hdivision : .uscalednsDiv t1 t2 ∈ divisions pss l) :
    t2.toNat ≠ 0 := by
  unfold divisions at hdivision
  split at hdivision
  case isTrue => cases hdivision
  case isFalse hinterval =>
    obtain ⟨_, rfl⟩ := Call.uscalednsDiv.inj (List.mem_singleton.mp hdivision)
    have hne : (l.clockSlaveSyncSm.localHistory.record
        (sampleTime pss l)).head ≠
          (l.clockSlaveSyncSm.localHistory.record (sampleTime pss l)).tail :=
      fun hsame => hinterval (decide_eq_true (Or.inr hsame))
    have holdest := History.oldest_mem hready (sampleTime pss l) hne
    have hnewest : (l.clockSlaveSyncSm.localHistory.record
        (sampleTime pss l)).slots
          (l.clockSlaveSyncSm.localHistory.record (sampleTime pss l)).tail =
        sampleTime pss l := Function.update_self _ _ _
    unfold elapsedLocalTime
    rw [Ne, toNat_uscalednsSubtract_eq_zero]
    intro hzero
    have hsame : (l.clockSlaveSyncSm.localHistory.record
        (sampleTime pss l)).slots
          (l.clockSlaveSyncSm.localHistory.record (sampleTime pss l)).head =
        sampleTime pss l := hzero.trans hnewest
    rw [hsame] at holdest
    exact hnew holdest

/-- The local time of a sample, whatever the delay of the link. -/
def sampleOf (time : UScaledNs) : UScaledNs :=
  uscalednsAdd time { subns := 0, nsec := 0, nsecMsb := 0 }

theorem toNat_sampleOf (time : UScaledNs) :
    (sampleOf time).toNat =
      (time.toNat + if time.toNat % 2 ^ 16 = 0xFFFF then 2 ^ 16 else 0) %
        2 ^ 96 := by
  have hzero : UScaledNs.toNat { subns := 0, nsec := 0, nsecMsb := 0 } = 0 :=
    rfl
  unfold sampleOf
  rw [toNat_uscalednsAdd, additionError_eq, hzero, Nat.zero_mod, Nat.add_zero,
    Nat.add_zero]

theorem sampleOf_ingress (ingress d : UScaledNs) :
    uscalednsAdd (uscalednsSubtract ingress d) d = sampleOf ingress := by
  have hingress := ingress.toNat_lt
  have hd := d.toNat_lt
  refine UScaledNs.toNat_inj ?_
  rw [toNat_sampleOf, toNat_uscalednsAdd, additionError_eq,
    toNat_uscalednsSubtract]
  split_ifs <;> omega

theorem sampleOf_injective {time time' : UScaledNs}
    (h : sampleOf time = sampleOf time') : time = time' := by
  have htime := time.toNat_lt
  have htime' := time'.toNat_lt
  have hvalue := congrArg UScaledNs.toNat h
  rw [toNat_sampleOf, toNat_sampleOf] at hvalue
  refine UScaledNs.toNat_inj ?_
  split_ifs at hvalue <;> omega

end Samples

end ClockSlaveSyncSM

namespace SyncLoop

/-!
## What one event records
-/

/-- The local time of the sample that is taken at an event. -/
def recordedTime (l : SyncLoop) (e : Event) : Option UScaledNs :=
  match delivery l e with
  | none => none
  | some (_, pss) =>
      if SiteSyncSyncSM.fromSlavePort l pss then
        some (ClockSlaveSyncSM.sampleTime pss l)
      else
        none

section Events

variable {l : SyncLoop} {e : Event}

theorem recordedTime_eq_some {t : UScaledNs} (h : recordedTime l e = some t) :
    exists ts pss, delivery l e = some (ts, pss) ∧
      SiteSyncSyncSM.fromSlavePort l pss = true ∧
      t = ClockSlaveSyncSM.sampleTime pss l := by
  unfold recordedTime at h
  split at h
  case h_1 => cases h
  case h_2 ts pss hdelivery =>
    split at h
    case isTrue hslave =>
      cases h
      exact ⟨ts, pss, hdelivery, hslave, rfl⟩
    case isFalse => cases h

theorem recordedTime_eq {ts : UScaledNs} {pss : PortSyncSync}
    (hdelivery : delivery l e = some (ts, pss))
    (hslave : SiteSyncSyncSM.fromSlavePort l pss = true) :
    recordedTime l e = some (ClockSlaveSyncSM.sampleTime pss l) := by
  unfold recordedTime
  rw [hdelivery]
  exact if_pos hslave

theorem slave_of_no_delivery (h : l.AtRest) (hdelivery : delivery l e = none) :
    (l.step e).clockSlaveSyncSm = l.clockSlaveSyncSm := by
  rw [step_running h.ready.running]
  by_cases he : e.Receives
  · cases haccepted : accepted l e with
    | none =>
        obtain ⟨sms, hhandle⟩ := handle_not_accepted h he haccepted
        rw [hhandle]
        rfl
    | some p =>
        obtain ⟨hport, sms, sms', hready, hhandle⟩ := handle_accepted h haccepted
        rw [delivery_receives he, haccepted] at hdelivery
        dsimp only at hdelivery
        split at hdelivery
        case h_2 => cases hdelivery
        case h_1 f hinterval =>
          have hcall := @PortSyncSyncReceiveSM.recvMDSync_error
            (withMessages sms l) p.port p.ts (p.mdSync l) hready hport f
            hinterval
          rw [hhandle, hcall]
          rfl
  · cases e with
    | sync => exact absurd trivial he
    | followUp => exact absurd trivial he
    | timeout => exact absurd trivial he
    | clockMaster ts pss =>
        simp only [delivery, h.ready.running, if_true] at hdelivery
        cases hdelivery
    | txts => rfl
    | select => rfl
    | delay => rfl
    | announce => rfl

theorem slave_recvPSSync {ts : UScaledNs} {pss : PortSyncSync}
    (hoperating : l.resetting = false) (hrunning : l.stop = none)
    (hrest : SiteSyncSyncSM.Rests l)
    (hslave : SiteSyncSyncSM.fromSlavePort l pss = true) :
    (SiteSyncSyncSM.recvPSSync ts pss l).clockSlaveSyncSm =
      (ClockSlaveSyncSM.recvPSSync pss
        (SiteSyncSyncSM.forwarding pss l)).clockSlaveSyncSm := by
  have hkeeps : Keeps SyncLoop.clockSlaveSyncSm
      (SiteSyncSyncSM.setParentLogSyncInterval pss.logMessageInterval) :=
    fun _ => rfl
  rw [SiteSyncSyncSM.recvPSSync_forwarded hoperating hrunning hrest hslave]
  change (SiteSyncSyncSM.forwarded ts pss l).clockSlaveSyncSm = _
  unfold SiteSyncSyncSM.forwarded
  rw [hkeeps.thenDo]
  by_cases hstop : (ClockSlaveSyncSM.recvPSSync pss
      (SiteSyncSyncSM.forwarding pss l)).stop = none
  · exact congrArg SendView.clockSlaveSyncSm
      (SiteSyncSyncSM.distributed_slaved ts hoperating hrest hstop).view
  · unfold SiteSyncSyncSM.txPSSync
    rw [PortSyncSyncSendSM.foldl_stopped _ _ hstop]

theorem sampleTime_of_environment {l' : SyncLoop}
    (h : l'.environment = l.environment) (pss : PortSyncSync) :
    ClockSlaveSyncSM.sampleTime pss l' = ClockSlaveSyncSM.sampleTime pss l := by
  unfold ClockSlaveSyncSM.sampleTime
  rw [ClockSlaveSyncSM.meanLinkDelayOf_of_environment h]

/-- The clock slave is called, with a structure of the slave port. -/
structure Slaved (l : SyncLoop) (e : Event) (pss : PortSyncSync)
    (l' : SyncLoop) : Prop where
  recorded : recordedTime l e = some (ClockSlaveSyncSM.sampleTime pss l')
  operating : l'.resetting = false
  running : l'.stop = none
  rests : l'.clockSlaveSyncSm.Rests
  slave : l'.clockSlaveSyncSm = l.clockSlaveSyncSm
  result : (l.step e).clockSlaveSyncSm =
    (ClockSlaveSyncSM.recvPSSync pss l').clockSlaveSyncSm

theorem slave_step (h : l.AtRest) (e : Event) :
    (recordedTime l e = none ∧
      (l.step e).clockSlaveSyncSm = l.clockSlaveSyncSm) ∨
      exists pss l', Slaved l e pss l' := by
  cases hdelivery : delivery l e with
  | none =>
      left
      unfold recordedTime
      rw [hdelivery]
      exact ⟨rfl, slave_of_no_delivery h hdelivery⟩
  | some arrival =>
      obtain ⟨ts, pss⟩ := arrival
      obtain ⟨l', pre, harrives⟩ := arrives_of_delivery h hdelivery
      have hresult : (l.step e).clockSlaveSyncSm =
          (SiteSyncSyncSM.recvPSSync ts pss l').clockSlaveSyncSm :=
        congrArg Output.clockSlaveSyncSm harrives.result
      have hfrom := @fromSlavePort_of_environment l l' pss harrives.environment
      have hoperating := harrives.configured.operating
      cases hslave : SiteSyncSyncSM.fromSlavePort l pss with
      | false =>
          left
          rw [hresult, SiteSyncSyncSM.recvPSSync_ignored hoperating
            harrives.running harrives.rests (hfrom.trans hslave)]
          unfold recordedTime
          rw [hdelivery]
          exact ⟨if_neg (by rw [hslave]; decide), harrives.slave⟩
      | true =>
          right
          refine ⟨pss, SiteSyncSyncSM.forwarding pss l', ?_, hoperating,
            harrives.running, harrives.rests.slave, harrives.slave, ?_⟩
          · have htime :=
              sampleTime_of_environment harrives.environment pss
            rw [recordedTime_eq hdelivery hslave, ← htime]
            rfl
          · exact hresult.trans (slave_recvPSSync hoperating harrives.running
              harrives.rests (hfrom.trans hslave))

theorem localHistory_step (h : l.AtRest) (e : Event) :
    (recordedTime l e = none ∧
      (l.step e).clockSlaveSyncSm.localHistory =
        l.clockSlaveSyncSm.localHistory) ∨
      exists t, recordedTime l e = some t ∧
        ((l.step e).clockSlaveSyncSm.localHistory =
            l.clockSlaveSyncSm.localHistory.record t ∨
          (l.step e).clockSlaveSyncSm.localHistory =
            (l.clockSlaveSyncSm.localHistory.record t).restart) := by
  rcases slave_step h e with ⟨hnone, hsame⟩ | ⟨pss, l', hslaved⟩
  · rw [hsame]
    exact Or.inl ⟨hnone, rfl⟩
  · have hhistory := @ClockSlaveSyncSM.localHistory_recvPSSync l' pss
      hslaved.operating hslaved.running hslaved.rests
    rw [hslaved.slave, ← hslaved.result] at hhistory
    exact Or.inr ⟨_, hslaved.recorded, hhistory⟩

theorem divisor_of_news (h : l.Steady)
    (hready : l.clockSlaveSyncSm.localHistory.Ready)
    (hnew : forall t, recordedTime l e = some t ->
      t ∉ l.clockSlaveSyncSm.localHistory.samples)
    {t1 t2 : UScaledNs} (hmem : .uscalednsDiv t1 t2 ∈ news l e) :
    t2.toNat ≠ 0 := by
  cases hdelivery : delivery l e with
  | none =>
      obtain ⟨pre, hpre, hcalls⟩ := leading_of_no_delivery h hdelivery
      rw [news_of_calls hcalls] at hmem
      exact absurd hmem (not_mem_leading hpre (by simp))
  | some arrival =>
      obtain ⟨ts, pss⟩ := arrival
      have hrest := h (delivery_eq_some hdelivery).left
      obtain ⟨l', pre, harrives⟩ := arrives_of_delivery hrest hdelivery
      have hcalls := calls_of_arrival harrives
      rw [List.append_assoc] at hcalls
      rw [news_of_calls hcalls] at hmem
      rcases List.mem_append.mp hmem with hmem | hmem
      · exact absurd hmem (not_mem_leading harrives.leading (by simp))
      · cases hslave : SiteSyncSyncSM.fromSlavePort l pss with
        | false =>
            rw [hslave] at hmem
            simp at hmem
        | true =>
            rw [if_pos hslave] at hmem
            have hfresh := hnew _ (recordedTime_eq hdelivery hslave)
            unfold response at hmem
            simp only [List.mem_cons, reduceCtorEq, List.mem_append,
              false_or] at hmem
            rcases hmem with hdivision | hrest
            · exact ClockSlaveSyncSM.divisor_ne_zero hready hfresh hdivision
            · split at hrest
              · cases hrest
              · obtain ⟨_, _, hsend⟩ := sends_calls hrest
                cases hsend

end Events

/-!
## The sources of the samples
-/

/-- The hardware timestamps of the `Sync` messages that have come. -/
def syncTimestamps (es : List Event) : List UScaledNs :=
  es.filterMap fun
    | .sync _ _ tsuTimestamp _ => some tsuTimestamp.ts
    | _ => none

theorem syncTimestamps_differ {es : List Event}
    (hdistinct : (syncTimestamps es).Nodup) {k k' : Nat} {i i' : PortIndex}
    {ts ts' : UScaledNs} {tsuTimestamp tsuTimestamp' : TSUTimestamp}
    {sync sync' : PTPMsgSync}
    (hk : es[k]? = some (.sync i ts tsuTimestamp sync))
    (hk' : es[k']? = some (.sync i' ts' tsuTimestamp' sync')) (hne : k ≠ k') :
    tsuTimestamp.ts ≠ tsuTimestamp'.ts := by
  have hpairs := List.pairwise_iff_getElem.mp
    (List.pairwise_filterMap.mp hdistinct)
  obtain ⟨hlt, hget⟩ := List.getElem?_eq_some_iff.mp hk
  obtain ⟨hlt', hget'⟩ := List.getElem?_eq_some_iff.mp hk'
  rcases Nat.lt_or_gt_of_ne hne with hbefore | hafter
  · have hpair := hpairs k k' hlt hlt' hbefore
    rw [hget, hget'] at hpair
    exact hpair _ rfl _ rfl
  · have hpair := hpairs k' k hlt' hlt hafter
    rw [hget, hget'] at hpair
    exact (hpair _ rfl _ rfl).symm

theorem mem_syncTimestamps {es : List Event} {k : Nat} {i : PortIndex}
    {ts : UScaledNs} {tsuTimestamp : TSUTimestamp} {sync : PTPMsgSync}
    (hk : es[k]? = some (.sync i ts tsuTimestamp sync)) :
    tsuTimestamp.ts ∈ syncTimestamps es :=
  List.mem_filterMap.mpr ⟨_, List.mem_of_getElem? hk, rfl⟩

section Sources

variable (config : Config) (memory : SyncMemory)

/-- A sample with local time `t` is taken at event number `n`. -/
def RecordedAt (es : List Event) (n : Nat) (t : UScaledNs) : Prop :=
  exists e, es[n]? = some e ∧
    recordedTime (after config memory (es.take n)) e = some t

/-- A sample is taken for a structure of the clock master. -/
def MasterAt (es : List Event) (n : Nat) (pss : PortSyncSync) : Prop :=
  exists ts, es[n]? = some (.clockMaster ts pss) ∧
    (after config memory (es.take n)).stop = none ∧
    SiteSyncSyncSM.fromSlavePort (after config memory (es.take n)) pss = true

/--
The structures of the clock master that are sampled come from port 0, and the
local clock has read a time of its own for each of them.
-/
structure MasterApart (es : List Event) : Prop where
  port : forall n pss, MasterAt config memory es n pss ->
    pss.localPortNumber = 0
  receptions : forall n pss, MasterAt config memory es n pss ->
    pss.upstreamTxTime ∉ syncTimestamps es
  readings : forall n n' pss pss', MasterAt config memory es n pss ->
    MasterAt config memory es n' pss' -> n ≠ n' ->
    pss.upstreamTxTime ≠ pss'.upstreamTxTime

/-- A sample is taken for a pair whose `Sync` has come at event number `k`. -/
structure PairAt (es : List Event) (n k : Nat) (i : PortIndex)
    (time : UScaledNs) : Prop where
  sync : exists ts tsuTimestamp message,
    es[k]? = some (.sync i ts tsuTimestamp message) ∧ tsuTimestamp.ts = time
  before : k ≤ n
  used : forall n', n < n' -> UsedAt config memory (es.take n') i n
  later : forall n', UsedAt config memory (es.take n) i n' -> n' < k

variable {config memory} {es : List Event} {n n' k k' : Nat} {i i' : PortIndex}
  {t time time' : UScaledNs}

theorem pairAt_of_accepted {e : Event} {p : Pair} (he : es[n]? = some e)
    (haccepted : accepted (after config memory (es.take n)) e = some p) :
    exists k, PairAt config memory es n k p.port p.ingress := by
  obtain ⟨k, m, ts, tsuTimestamp, ts', hk, hm, hingress, _, hafter⟩ :=
    accepted_provenance haccepted
  rw [take_concat he] at hk
  refine ⟨k, ⟨ts, tsuTimestamp, p.sync, (getElem?_of_take hk).left,
      hingress.symm⟩, (getElem?_of_take hk).right, fun n' hlt => ?_,
    fun n' hused => (hafter n' hused).left⟩
  refine ⟨e, p, ?_, ?_, rfl⟩
  · rw [List.getElem?_take, if_pos hlt, he]
  · rw [List.take_take, min_eq_left hlt.le]
    exact haccepted

/-- A sample shows the time of a `Sync` or a reading of the clock master. -/
theorem RecordedAt.source (h : RecordedAt config memory es n t)
    (hmaster : MasterApart config memory es) :
    (exists pss, MasterAt config memory es n pss ∧
      t = ClockSlaveSyncSM.sampleOf pss.upstreamTxTime) ∨
      exists k i time, PairAt config memory es n k i time ∧
        t = ClockSlaveSyncSM.sampleOf time := by
  obtain ⟨e, he, hrecorded⟩ := h
  obtain ⟨ts, pss, hdelivery, hslave, ht⟩ := recordedTime_eq_some hrecorded
  obtain ⟨hrunning, rfl | ⟨p, interval, haccepted, _, _, rfl⟩⟩ :=
    delivery_eq_some hdelivery
  · left
    have hat : MasterAt config memory es n pss := ⟨ts, he, hrunning, hslave⟩
    refine ⟨pss, hat, ht.trans ?_⟩
    unfold ClockSlaveSyncSM.sampleTime
    rw [hmaster.port n pss hat]
    rfl
  · right
    have hrest := steady_after config memory (es.take n) hrunning
    obtain ⟨k, hpair⟩ := pairAt_of_accepted he haccepted
    refine ⟨k, p.port, p.ingress, hpair, ht.trans ?_⟩
    unfold ClockSlaveSyncSM.sampleTime
    rw [OnSlavePort.meanLinkDelay hrest]
    exact ClockSlaveSyncSM.sampleOf_ingress _ _

theorem PairAt.differ (h : PairAt config memory es n k i time)
    (h' : PairAt config memory es n' k' i' time') (hlt : n < n') : k ≠ k' := by
  obtain ⟨ts, tsuTimestamp, message, hk, _⟩ := h.sync
  obtain ⟨ts', tsuTimestamp', message', hk', _⟩ := h'.sync
  rintro rfl
  rw [hk] at hk'
  cases hk'
  have hbefore := h.before
  have hlater := h'.later n (h.used n' hlt)
  omega

theorem PairAt.times_differ (h : PairAt config memory es n k i time)
    (h' : PairAt config memory es n' k' i' time') (hlt : n < n')
    (hdistinct : (syncTimestamps es).Nodup) : time ≠ time' := by
  have hne := h.differ h' hlt
  obtain ⟨ts, tsuTimestamp, message, hk, rfl⟩ := h.sync
  obtain ⟨ts', tsuTimestamp', message', hk', rfl⟩ := h'.sync
  exact syncTimestamps_differ hdistinct hk hk' hne

theorem PairAt.mem (h : PairAt config memory es n k i time) :
    time ∈ syncTimestamps es := by
  obtain ⟨ts, tsuTimestamp, message, hk, rfl⟩ := h.sync
  exact mem_syncTimestamps hk

theorem recorded_once (hdistinct : (syncTimestamps es).Nodup)
    (hmaster : MasterApart config memory es) (hlt : n < n')
    (h : RecordedAt config memory es n t) :
    ¬ RecordedAt config memory es n' t := by
  intro h'
  rcases h.source hmaster with ⟨pss, hat, ht⟩ | ⟨k, i, time, hpair, ht⟩
  · rcases h'.source hmaster with ⟨pss', hat', ht'⟩ | ⟨k', i', time', hpair', ht'⟩
    · exact hmaster.readings n n' pss pss' hat hat' (Nat.ne_of_lt hlt)
        (ClockSlaveSyncSM.sampleOf_injective (ht.symm.trans ht'))
    · have hsame := ClockSlaveSyncSM.sampleOf_injective (ht.symm.trans ht')
      exact hmaster.receptions n pss hat (hsame ▸ hpair'.mem)
  · rcases h'.source hmaster with ⟨pss', hat', ht'⟩ | ⟨k', i', time', hpair', ht'⟩
    · have hsame := ClockSlaveSyncSM.sampleOf_injective (ht.symm.trans ht')
      exact hmaster.receptions n' pss' hat' (hsame ▸ hpair.mem)
    · exact hpair.times_differ hpair' hlt hdistinct
        (ClockSlaveSyncSM.sampleOf_injective (ht.symm.trans ht'))

end Sources

/-!
## Runs
-/

section Runs

variable {config : Config} {memory : SyncMemory} {es history rest : List Event}
  {e : Event}

theorem slave_start (config : Config) (memory : SyncMemory) :
    (start config memory).clockSlaveSyncSm =
      (slaveStarted (siteStarted (initial config memory))).clockSlaveSyncSm := by
  have hpass : forall (done : Fin nPorts -> Prop) (l : SyncLoop)
      (i : Fin nPorts), ¬ done i ->
      (Starting done l ∧ l.clockSlaveSyncSm =
        (slaveStarted (siteStarted (initial config memory))).clockSlaveSyncSm) ->
      Starting (fun j => j = i ∨ done j) (initPort l i) ∧
        (initPort l i).clockSlaveSyncSm =
          (slaveStarted
            (siteStarted (initial config memory))).clockSlaveSyncSm := by
    intro done l i hi h
    refine ⟨h.left.initPort hi, ?_⟩
    rw [initPort_eq h.left.configured.operating h.left.running
      (h.left.fresh i hi)]
    exact h.right
  have hports := foldl_distinct hpass (List.nodup_finRange nPorts)
    (fun _ _ h => h) ⟨starting_initial config memory, rfl⟩
  unfold start
  rw [instance_started]
  exact hports.right

theorem localHistory_start (config : Config) (memory : SyncMemory) :
    (start config memory).clockSlaveSyncSm.localHistory.Ready ∧
      (start config memory).clockSlaveSyncSm.localHistory.samples = [] := by
  have hround : (0 : Fin maxLength) = Fin.last _ + 1 := by decide
  rw [slave_start]
  exact ⟨fun _ => hround, rfl⟩

theorem samples_after (n : Nat)
    (hrunning : (after config memory (es.take n)).stop = none) :
    (after config memory (es.take n)).clockSlaveSyncSm.localHistory.Ready ∧
      forall t, t ∈ (after config memory
          (es.take n)).clockSlaveSyncSm.localHistory.samples ->
        exists n', n' < n ∧ RecordedAt config memory es n' t := by
  induction n with
  | zero =>
      obtain ⟨hready, hsamples⟩ := localHistory_start config memory
      rw [List.take_zero, after_nil]
      refine ⟨hready, fun t ht => ?_⟩
      rw [hsamples] at ht
      cases ht
  | succ n ih =>
      cases he : es[n]? with
      | none =>
          have hlength := List.getElem?_eq_none_iff.mp he
          have hsame : es.take (n + 1) = es.take n := by
            rw [List.take_of_length_le (by omega), List.take_of_length_le hlength]
          rw [hsame] at hrunning ⊢
          obtain ⟨hready, hsamples⟩ := ih hrunning
          refine ⟨hready, fun t ht => ?_⟩
          obtain ⟨n', hlt, hat⟩ := hsamples t ht
          exact ⟨n', Nat.lt_succ_of_lt hlt, hat⟩
      | some e =>
          rw [← take_concat he, after_concat] at hrunning ⊢
          by_cases hbefore : (after config memory (es.take n)).stop = none
          · obtain ⟨hready, hsamples⟩ := ih hbefore
            have hrest := steady_after config memory (es.take n) hbefore
            have hearlier : forall t, t ∈ (after config memory
                (es.take n)).clockSlaveSyncSm.localHistory.samples ->
                  exists n', n' < n + 1 ∧ RecordedAt config memory es n' t := by
              intro t ht
              obtain ⟨n', hlt, hat⟩ := hsamples t ht
              exact ⟨n', Nat.lt_succ_of_lt hlt, hat⟩
            rcases localHistory_step hrest e with
              ⟨_, hsame⟩ | ⟨t, hrecorded, hnew⟩
            · rw [hsame]
              exact ⟨hready, hearlier⟩
            · have hrecord : forall t', t' ∈ ((after config memory
                  (es.take n)).clockSlaveSyncSm.localHistory.record t).samples ->
                    exists n', n' < n + 1 ∧ RecordedAt config memory es n' t' := by
                intro t' ht'
                rcases History.mem_samples_record hready ht' with rfl | hold
                · exact ⟨n, Nat.lt_succ_self n, e, he, hrecorded⟩
                · exact hearlier t' hold
              rcases hnew with hsame | hsame
              · rw [hsame]
                exact ⟨History.ready_record _ _, hrecord⟩
              · rw [hsame]
                exact ⟨History.ready_restart rfl, fun t' ht' =>
                  hrecord t' (History.mem_samples_restart rfl ht')⟩
          · rw [step_stopped hbefore] at hrunning
            exact absurd hrunning hbefore

/--
If the `Sync` messages have hardware timestamps of their own and the clock
master stays apart from them, the period is never divided by zero.
-/
theorem slavePeriod_divisor (hes : es = history ++ e :: rest)
    (hdistinct : (syncTimestamps es).Nodup)
    (hmaster : MasterApart config memory es) {t1 t2 : UScaledNs}
    (hmem : .uscalednsDiv t1 t2 ∈ news (after config memory history) e) :
    t2.toNat ≠ 0 := by
  have htake : es.take history.length = history := by
    rw [hes, List.take_left]
  have he : es[history.length]? = some e := by
    rw [hes]
    simp
  have hsteady := steady_after config memory history
  by_cases hrunning : (after config memory history).stop = none
  · have hsamples := @samples_after config memory es history.length
    rw [htake] at hsamples
    obtain ⟨hready, hearlier⟩ := hsamples hrunning
    refine divisor_of_news hsteady hready (fun t hrecorded ht => ?_) hmem
    obtain ⟨n, hlt, hat⟩ := hearlier t ht
    refine recorded_once hdistinct hmaster hlt hat ⟨e, he, ?_⟩
    rw [htake]
    exact hrecorded
  · have hnone : news (after config memory history) e = [] := by
      refine news_of_calls ?_
      rw [step_stopped hrunning, List.append_nil]
    rw [hnone] at hmem
    cases hmem

end Runs

end SyncLoop

end TimeSync
end Ziggo
