import Ziggo.TimeSync.MDPdelayReqSM
import Ziggo.TimeSync.PortSyncSyncSendSM

/-!
# Elapsed times

Two state machines wait until an interval has passed.  They subtract the time at
which it began from the current time and compare the difference with it.
-/

namespace Ziggo
namespace TimeSync

open Foundation TsnDrivers

theorem toNat_uscalednsSubtract_emod (t1 t2 : UScaledNs) :
    ((uscalednsSubtract t1 t2).toNat : Int) =
      (t1.toNat - t2.toNat) % 2 ^ 96 := by
  have hlt1 := t1.toNat_lt
  have hlt2 := t2.toNat_lt
  rw [toNat_uscalednsSubtract]
  omega

theorem uscalednsCompare_cases (t1 t2 : UScaledNs) :
    (uscalednsCompare t1 t2 = -1 <-> t1.toNat < t2.toNat) ∧
      (uscalednsCompare t1 t2 = 0 <-> t1.toNat = t2.toNat) ∧
      (uscalednsCompare t1 t2 = 1 <-> t2.toNat < t1.toNat) := by
  rw [uscalednsCompare_eq]
  split_ifs with hgt hlt <;> simp <;> omega

/-- The test is exact as long as the beginning is not in the future. -/
theorem elapsed_iff {ts start : UScaledNs} (interval : UScaledNs)
    (h : start.toNat ≤ ts.toNat) :
    uscalednsCompare (uscalednsSubtract ts start) interval ≥ 0 <->
      interval.toNat ≤ ts.toNat - start.toNat := by
  rw [uscalednsCompare_nonneg, toNat_uscalednsSubtract_of_le h]

theorem MDPdelayReqSM.intervalElapsed_iff {sm : MDPdelayReqSM}
    {ts : UScaledNs} (h : sm.pdelayIntervalTimer.toNat ≤ ts.toNat) :
    sm.intervalElapsed ts = true <->
      sm.mdEntityGlobal.pdelayReqInterval.toNat ≤
        ts.toNat - sm.pdelayIntervalTimer.toNat := by
  unfold intervalElapsed
  rw [decide_eq_true_iff]
  exact elapsed_iff _ h

/-- The interval between two `Sync` messages has passed at a port. -/
def PortSyncSyncSendSM.IntervalElapsed (l : SyncLoop) (i : PortIndex)
    (ts : UScaledNs) : Prop :=
  uscalednsCompare
    (uscalednsSubtract ts (l.portSyncSyncSendSms i).lastSyncSentTime)
    (l.portSyncSyncSendSms i).interval1 ≥ 0

theorem PortSyncSyncSendSM.sendMDSync_of_intervalElapsed {l : SyncLoop}
    {i : PortIndex} {ts : UScaledNs}
    (hlocked : (l.perPortGlobal i).syncLocked = false) :
    sendMDSyncStateTransition i ts l = .ok (.reenter .sendMDSync) <->
      IntervalElapsed l i ts ∧
        (l.portSyncSyncSendSms i).lastRcvdPortNum ≠
          (l.perPortGlobal i).thisPort ∧ masterReady l i = true := by
  unfold sendMDSyncStateTransition IntervalElapsed
  dsimp only
  rw [hlocked]
  simp only [Bool.false_eq_true, if_false]
  split_ifs with helapsed htimeout
  · exact iff_of_true rfl helapsed
  · exact iff_of_false (fun h => (by cases h)) helapsed
  · exact iff_of_false (fun h => (by cases h)) helapsed

/--
Subtraction, comparison and halving are exact, so that the tests for elapsed
times compare the time that has really passed.
-/
theorem elapsed_times_exact :
    (forall t1 t2 : UScaledNs, ((uscalednsSubtract t1 t2).toNat : Int) =
      (t1.toNat - t2.toNat) % 2 ^ 96) ∧
    (forall t1 t2 : UScaledNs,
      (uscalednsCompare t1 t2 = -1 <-> t1.toNat < t2.toNat) ∧
        (uscalednsCompare t1 t2 = 0 <-> t1.toNat = t2.toNat) ∧
        (uscalednsCompare t1 t2 = 1 <-> t2.toNat < t1.toNat)) ∧
    (forall t : UScaledNs, (uscalednsDivideBy2 t).toNat = t.toNat / 2) ∧
    (forall t1 t2 : UScaledNs, t2.toNat ≤ t1.toNat ->
      (uscalednsSubtract t1 t2).toNat = t1.toNat - t2.toNat) ∧
    (forall (sm : MDPdelayReqSM) (ts : UScaledNs),
      sm.pdelayIntervalTimer.toNat ≤ ts.toNat ->
        (sm.intervalElapsed ts = true <->
          sm.mdEntityGlobal.pdelayReqInterval.toNat ≤
            ts.toNat - sm.pdelayIntervalTimer.toNat)) ∧
    (forall (l : SyncLoop) (i : PortIndex) (ts : UScaledNs),
      (l.portSyncSyncSendSms i).lastSyncSentTime.toNat ≤ ts.toNat ->
      (l.perPortGlobal i).syncLocked = false ->
        (PortSyncSyncSendSM.sendMDSyncStateTransition i ts l =
            .ok (.reenter .sendMDSync) <->
          (l.portSyncSyncSendSms i).interval1.toNat ≤
              ts.toNat - (l.portSyncSyncSendSms i).lastSyncSentTime.toNat ∧
            (l.portSyncSyncSendSms i).lastRcvdPortNum ≠
              (l.perPortGlobal i).thisPort ∧
            PortSyncSyncSendSM.masterReady l i = true)) := by
  refine ⟨toNat_uscalednsSubtract_emod, uscalednsCompare_cases,
    toNat_uscalednsDivideBy2, fun _ _ => toNat_uscalednsSubtract_of_le,
    fun _ _ => MDPdelayReqSM.intervalElapsed_iff, ?_⟩
  intro l i ts hstart hlocked
  rw [PortSyncSyncSendSM.sendMDSync_of_intervalElapsed hlocked]
  exact and_congr_left' (elapsed_iff _ hstart)

end TimeSync
end Ziggo
