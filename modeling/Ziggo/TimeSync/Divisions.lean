import Ziggo.TimeSync.MDPdelayReqSM.RateRatio
import Ziggo.TimeSync.SyncLoop.SlavePeriod
import Ziggo.TsnDrivers.Multiplication

/-!
# Divisions of elapsed times

The peer delay initiator and the clock slave divide the times that have elapsed
between two samples.  The division hangs if no local time has elapsed.
-/

namespace Ziggo
namespace TimeSync

open Foundation TsnDrivers

/-- A division by an elapsed time, which returns. -/
def Divides (t1 t2 : UScaledNs) : Prop :=
  t2.toNat ≠ 0 ∧ exists r, uscalednsDiv t1 t2 = .ok r

theorem divides_of_ne_zero {t1 t2 : UScaledNs} (h : t2.toNat ≠ 0) :
    Divides t1 t2 :=
  ⟨h, _, uscalednsDiv_ok (Nat.pos_of_ne_zero h)⟩

open MDPdelayReqMachine in
/--
In every run in which the messages have hardware timestamps of their own, no
division hangs, provided that no exchange records an ingress time a second time
and that the clock master stays apart from the messages.
-/
theorem divisions_return (memory : MDPdelayReqSM)
    (events : List MDPdelayReqMachine.Event) (config : Config)
    (memory' : SyncMemory) (es : List SyncLoop.Event)
    (hresponses : (ingressTimestamps events).Nodup)
    (hfresh : RecordsFresh memory events)
    (hsyncs : (SyncLoop.syncTimestamps es).Nodup)
    (hmaster : SyncLoop.MasterApart config memory' es) :
    Along step (fun m e => forall t1 t2, RatioComputed m e t1 t2 ->
        Divides t1 t2) (initMdPdelayReqSm memory) events ∧
      Along SyncLoop.step (fun l e => forall t1 t2,
        .uscalednsDiv t1 t2 ∈ SyncLoop.news l e -> Divides t1 t2)
        (SyncLoop.start config memory') es := by
  constructor
  · intro history e rest hevents t1 t2 hratio
    exact divides_of_ne_zero
      (rateRatio_divisor hevents hresponses hfresh hratio)
  · intro history e rest hes t1 t2 hmem
    exact divides_of_ne_zero
      (SyncLoop.slavePeriod_divisor hes hsyncs hmaster hmem)

/-!
In the runs below two exchanges are completed, and the clock slave takes two
samples.  In the first run each response comes before its follow-up.  If the
follow-up of the second exchange overtakes its response, the ingress time of the
first one is recorded again.
-/

namespace MDPdelayReqMachine

open MDPdelayReqSM

def ratedMemory : MDPdelayReqSM :=
  { zeroedMemory with
    perPortGlobal :=
      { zeroedMemory.perPortGlobal with
        computeMeanLinkDelay := true
        computeNeighborRateRatio := true } }

/-- The first request has been sent and answered. -/
def answered : MDPdelayReqMachine :=
  runEvents step (initMdPdelayReqSm ratedMemory)
    [.txts (atNs 1) (txTimestamp 0 0),
      .recvResp (atNs 2) (txTimestamp 2 0) (respTo 0)]

/-- The variables with which the first exchange is completed. -/
def completing : MDPdelayReqSM :=
  answered.vars.storeRespFollowUp (respFollowUpTo 0)

def recording : MDPdelayReqSM :=
  mdPdelayAddRespAndRespFollowUpTimestamp
    { completing with rcvdPdelayRespFollowUp := false, lostResponses := 0 }

/-- The first link delay is one nanosecond. -/
def timed : MDPdelayReqSM :=
  { recording with
    perPortGlobal :=
      { recording.perPortGlobal with
        neighborRateRatio := 1
        meanLinkDelay := atNs 1 }
    mdEntityGlobal :=
      { recording.mdEntityGlobal with isMeasuringDelay := true } }

def released : MDPdelayReqSM :=
  { updateAsCapable timed (respTo 0) with
    txPdelayReqPtr := .released
    rcvdPdelayRespPtr := .released
    rcvdPdelayRespFollowUpPtr := .released }

theorem computePropTime_recording :
    computePropTime { recording with
      perPortGlobal :=
        { recording.perPortGlobal with neighborRateRatio := 1 } } =
      .ok (atNs 1) := by
  have hone : uscalednsMulDouble (atNs 2) 1 = atNs 2 :=
    UScaledNs.toNat_inj (toNat_uscalednsMulDouble_one (by decide))
  have helapsed : uscalednsSubtract recording.t4 recording.t1 = atNs 2 := by
    decide +kernel
  unfold computePropTime
  dsimp only
  rw [helapsed, hone]
  rfl

theorem measureDelay_recording :
    measureDelay
        { completing with rcvdPdelayRespFollowUp := false, lostResponses := 0 } =
      .ok (updateAsCapable timed (respTo 0)) := by
  have hmean : updateMeanLinkDelay
      { recording with
        perPortGlobal :=
          { recording.perPortGlobal with neighborRateRatio := 1 } } =
      .ok { recording with
        perPortGlobal :=
          { recording.perPortGlobal with
            neighborRateRatio := 1
            meanLinkDelay := atNs 1 } } :=
    bind_eq_ok.mpr ⟨_, computePropTime_recording, rfl⟩
  exact bind_eq_ok.mpr ⟨_, rfl, bind_eq_ok.mpr ⟨_, hmean,
    bind_eq_ok.mpr ⟨_, rfl, rfl⟩⟩⟩

/-- The machine after the first exchange. -/
def completed : MDPdelayReqMachine where
  state := .waitingForPdelayIntervalTimer
  lastState := some .waitingForPdelayIntervalTimer
  vars := released

theorem step_answered :
    step answered (.recvRespFollowUp (atNs 3) (respFollowUpTo 0)) =
      completed := by
  have hready : ready { answered with vars := completing } =
      { state := .waitingForPdelayRespFollowUp
        lastState := some .waitingForPdelayRespFollowUp
        vars := completing } := rfl
  have hnext :
      completing.waitingForPdelayRespFollowUpStateTransition (atNs 3) =
        .ok .waitingForPdelayIntervalTimer := rfl
  have haction :
      completing.waitingForPdelayIntervalTimerAction = .ok released :=
    bind_eq_ok.mpr ⟨_, measureDelay_recording, rfl⟩
  have hrest : released.waitingForPdelayIntervalTimerStateTransition (atNs 3) =
      .waitingForPdelayIntervalTimer := rfl
  rw [step_running _ (rfl : answered.vars.process.stop = none)]
  change (behaviour (atNs 3)).program.run passes
    (ready { answered with vars := completing }) = _
  rw [hready, passes, Behaviour.run_leave 15 ?_ rfl hnext (by decide),
    Behaviour.run_enter_rest 14 ?_ haction rfl (congrArg Except.ok hrest)]
  · rfl
  · simp [Machine.Quiescent]
  · rfl

def firstRated : List Event :=
  [.txts (atNs 1) (txTimestamp 0 0),
    .recvResp (atNs 2) (txTimestamp 2 0) (respTo 0),
    .recvRespFollowUp (atNs 3) (respFollowUpTo 0),
    .run (atNs oneSecNs),
    .txts (atNs (oneSecNs + 1)) (txTimestamp oneSecNs 1)]

theorem runEvents_firstRated :
    runEvents step (initMdPdelayReqSm ratedMemory) firstRated =
      runEvents step completed
        [.run (atNs oneSecNs),
          .txts (atNs (oneSecNs + 1)) (txTimestamp oneSecNs 1)] := by
  rw [← step_answered]
  rfl

/-- The answer to the second request, which the peer sent after a second. -/
def secondResp : Event :=
  .recvResp (atNs (oneSecNs + 3)) (txTimestamp (oneSecNs + 2) 1) (respTo 1)

def secondRespFollowUp : Event :=
  .recvRespFollowUp (atNs (oneSecNs + 2))
    { respFollowUpTo 1 with
      responseOriginTimestamp :=
        { secondsMsb := 0, secondsLsb := 1, nanoseconds := 0 } }

def orderedRated : List Event :=
  firstRated ++ [secondResp, secondRespFollowUp]

def overtakenRated : List Event :=
  firstRated ++ [secondRespFollowUp, secondResp]

theorem orderedRated_order :
    Along step (fun m e => ¬ Overtaken m e) (initMdPdelayReqSm ratedMemory)
      orderedRated := by
  refine along_cons.mpr ⟨id, along_cons.mpr ⟨?_, along_cons.mpr ⟨id,
    along_cons.mpr ⟨id, along_cons.mpr ⟨id, along_cons.mpr ⟨?_,
      along_cons.mpr ⟨id, along_nil _ _⟩⟩⟩⟩⟩⟩⟩
  · rintro ⟨_, followUp, hhand, _⟩
    have hnone := hhand.left
    revert hnone
    decide +kernel
  · rintro ⟨_, followUp, hhand, _⟩
    have hnone : (runEvents step (initMdPdelayReqSm ratedMemory)
        firstRated).vars.rcvdPdelayRespFollowUp = true := hhand.left
    rw [runEvents_firstRated] at hnone
    revert hnone
    decide +kernel

end MDPdelayReqMachine

open MDPdelayReqMachine in
theorem ordered_divisions_return :
    Along step (fun m e => forall t1 t2, RatioComputed m e t1 t2 ->
        Divides t1 t2) (initMdPdelayReqSm ratedMemory) orderedRated ∧
      Along SyncLoop.step (fun l e => forall t1 t2,
        .uscalednsDiv t1 t2 ∈ SyncLoop.news l e -> Divides t1 t2)
        (SyncLoop.start SyncLoop.bridgeConfig default)
        [SyncLoop.syncEvent (atNs 1), SyncLoop.followUpEvent 1,
          SyncLoop.syncEvent (atNs 2), SyncLoop.followUpEvent 2] := by
  refine divisions_return ratedMemory orderedRated SyncLoop.bridgeConfig default
    [SyncLoop.syncEvent (atNs 1), SyncLoop.followUpEvent 1,
      SyncLoop.syncEvent (atNs 2), SyncLoop.followUpEvent 2]
    (by decide +kernel) (recordsFresh_of_order orderedRated_order)
    (by decide +kernel) ?_
  have hnone : forall n pss, ¬ SyncLoop.MasterAt SyncLoop.bridgeConfig default
      [SyncLoop.syncEvent (atNs 1), SyncLoop.followUpEvent 1,
        SyncLoop.syncEvent (atNs 2), SyncLoop.followUpEvent 2] n pss := by
    rintro n pss ⟨ts, hn, _⟩
    have hmem := List.mem_of_getElem? hn
    simp [SyncLoop.syncEvent, SyncLoop.followUpEvent] at hmem
  exact ⟨fun n pss h => absurd h (hnone n pss),
    fun n pss h => absurd h (hnone n pss),
    fun n n' pss pss' h => absurd h (hnone n pss)⟩

open MDPdelayReqMachine in
/-- The divisor is the time between the first ingress time and itself. -/
theorem overtaken_resp_divides_by_zero :
    ¬ forall (memory : MDPdelayReqSM) (events : List Event),
      (ingressTimestamps events).Nodup ->
      Along step (fun m e => forall t1 t2, RatioComputed m e t1 t2 ->
        Divides t1 t2) (initMdPdelayReqSm memory) events := by
  intro h
  have hlast := h ratedMemory overtakenRated (by decide +kernel)
    (firstRated ++ [secondRespFollowUp]) secondResp [] rfl
  have hentered : (entered (runEvents step (initMdPdelayReqSm ratedMemory)
      (firstRated ++ [secondRespFollowUp])) secondResp)[1]?.map (fun entry =>
        (entry.1, entry.2.perPortGlobal.asymmetryMeasurementMode,
          entry.2.perPortGlobal.computeNeighborRateRatio,
          entry.2.mdPdelayAddRespAndRespFollowUpTimestamp.ratioOperands)) =
      some (.waitingForPdelayIntervalTimer, false, true,
        some (atNs oneSecNs, atNs 0)) := by
    rw [runEvents_append, runEvents_firstRated]
    decide +kernel
  obtain ⟨⟨state, entry⟩, hget, hfields⟩ := Option.map_eq_some_iff.mp hentered
  obtain ⟨rfl, hmode, hcomputes, hoperands⟩ : state =
        .waitingForPdelayIntervalTimer ∧
      entry.perPortGlobal.asymmetryMeasurementMode = false ∧
      entry.perPortGlobal.computeNeighborRateRatio = true ∧
      entry.mdPdelayAddRespAndRespFollowUpTimestamp.ratioOperands =
        some (atNs oneSecNs, atNs 0) := by
    simpa using hfields
  exact (hlast (atNs oneSecNs) (atNs 0) ⟨entry, List.mem_of_getElem? hget, hmode,
    hcomputes, hoperands⟩).left rfl

end TimeSync
end Ziggo
