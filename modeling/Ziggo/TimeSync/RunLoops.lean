import Ziggo.TimeSync.RunLoops.ClockMaster
import Ziggo.TimeSync.RunLoops.Delays
import Ziggo.TimeSync.RunLoops.Nesting
import Ziggo.TimeSync.SyncLoop.Forwarding

/-!
# The run loops end

The run loops of all state machines end: on their own, and where one of them
runs within another.
-/

namespace Ziggo
namespace TimeSync

open Foundation TsnDrivers SyncLoop

/--
The run loops that are called with the time `ts`.  The machines for
synchronization are those of the loop after the events `es`, and the last part
is about the loops that have run within others: if every division returns, none
of them has run for ever.
-/
theorem run_loops_end (config : Config) (memory : SyncMemory)
    (es : List Event) (ts : UScaledNs) :
    (forall m : PortAnnounceInformationMachine,
        (PortAnnounceInformationSM.behaviour ts).program.EndsWithin
          PortAnnounceInformationMachine.passes m.ready) ∧
      (forall interval m, PortAnnounceTransmitMachine.Reachable interval m ->
        0 < interval.toNat -> NoWrap ts interval ->
        (PortAnnounceTransmitSM.behaviour ts).program.EndsWithin
          PortAnnounceTransmitMachine.passes m.ready) ∧
      (forall m : PortStateSelectionMachine,
        PortStateSelectionSM.program.EndsWithin
          PortStateSelectionMachine.passes m.ready) ∧
      (forall m : MDPdelayReqMachine,
        0 < m.vars.mdEntityGlobal.pdelayReqInterval.toNat ->
        (MDPdelayReqSM.behaviour ts).program.EndsWithin
          MDPdelayReqMachine.passes m.ready) ∧
      (forall m : MDPdelayRespMachine,
        MDPdelayRespSM.behaviour.program.EndsWithin
          MDPdelayRespMachine.passes m.ready) ∧
      (forall m : MDSyncSendMachine,
        MDSyncSendSM.behaviour.program.EndsWithin
          MDSyncSendMachine.passes m.ready) ∧
      (forall m : ClockMasterSyncReceiveMachine,
        ClockMasterSyncReceiveSM.program.EndsWithin
          ClockMasterSyncReceiveMachine.passes m.ready) ∧
      (NoWrap ts ClockMasterSyncSendSM.computeClockMasterSyncInterval ->
        forall w, (ClockMasterSyncSendSM.machine ts).EndsWithin
          ClockMasterSyncSendSM.passes w) ∧
      (forall i l,
        (MDSyncReceiveSM.machine i ts).EndsWithin MDSyncReceiveSM.passes l ∧
        (PortSyncSyncReceiveSM.machine i ts).EndsWithin
          PortSyncSyncReceiveSM.passes l ∧
        (SiteSyncSyncSM.machine ts).EndsWithin SiteSyncSyncSM.passes l ∧
        ClockSlaveSyncSM.machine.EndsWithin ClockSlaveSyncSM.passes l) ∧
      ((after config memory es).stop = none ->
        forall i pss,
          (PortSyncSyncSendSM.machine i ts).EndsWithin
            PortSyncSyncSendSM.passes (after config memory es) ∧
          (PortSyncSyncSendSM.machine i ts).EndsWithin
            PortSyncSyncSendSM.passes
            (PortSyncSyncSendSM.storePSSync i pss
              (after config memory es))) ∧
      (¬ (after config memory es).Stalled ->
        (after config memory es).stop ≠ some .diverges) := by
  refine ⟨fun m => m.run_ends ts,
    fun _ _ hm hpositive hwrap => hm.run_ends hpositive hwrap,
    fun m => m.run_ends, fun _ hpositive => MDPdelayReqMachine.run_ends ts hpositive,
    fun m => m.run_ends, fun m => m.run_ends, fun m => m.run_ends,
    fun hwrap w => ClockMasterSyncSendSM.run_ends hwrap w, fun i l => ?_,
    fun hrun i pss => ?_, fun hreturn => ?_⟩
  · exact ⟨MDSyncReceiveSM.run_ends i ts l, PortSyncSyncReceiveSM.run_ends i ts l,
      SiteSyncSyncSM.run_ends ts l, ClockSlaveSyncSM.run_ends l⟩
  · have hconvergent := convergent_after config memory es
    have hstored : (PortSyncSyncSendSM.storePSSync i pss
        (after config memory es)).Convergent :=
      PortSyncSyncSendSM.convergent_assign hconvergent rfl
    exact ⟨PortSyncSyncSendSM.run_ends i ts (hconvergent.locked hrun i),
      PortSyncSyncSendSM.run_ends i ts (hstored.locked hrun i)⟩
  · exact fun hdiverges =>
      hreturn ((convergent_after config memory es).ends hdiverges)

/-- Two `Sync` messages with their `Follow_Up` messages, one second apart. -/
def syncedRun : List Event :=
  [syncEvent default, followUpEvent 1, syncEvent AnnounceLoop.oneSecond,
    followUpEvent 2]

def divisors (l : SyncLoop) : List UScaledNs :=
  l.calls.filterMap fun c =>
    match c with
    | .uscalednsDiv _ t2 => some t2
    | _ => none

/-- One second between two announcements and between two requests. -/
theorem run_loops_end_started :
    let announcing : PortAnnounceTransmitSM :=
      { (default : PortAnnounceTransmitSM) with
        perPortGlobal :=
          { (default : PerPortGlobal) with
            announceInterval := AnnounceLoop.oneSecond } }
    let requesting : MDPdelayReqMachine :=
      { state := .init
        lastState := none
        vars :=
          { (default : MDPdelayReqSM) with
            mdEntityGlobal :=
              { (default : MDEntityGlobal) with
                pdelayReqInterval := AnnounceLoop.oneSecond } } }
    (PortAnnounceTransmitSM.behaviour default).program.EndsWithin
        PortAnnounceTransmitMachine.passes
        (PortAnnounceTransmitMachine.initPortAnnounceTransmitSm
          announcing).ready ∧
      (MDPdelayReqSM.behaviour default).program.EndsWithin
        MDPdelayReqMachine.passes requesting.ready ∧
      (forall w, (ClockMasterSyncSendSM.machine default).EndsWithin
        ClockMasterSyncSendSM.passes w) ∧
      (PortSyncSyncSendSM.machine 0 default).EndsWithin
        PortSyncSyncSendSM.passes (after bridgeConfig default syncedRun) ∧
      divisors (after bridgeConfig default syncedRun) =
        [AnnounceLoop.oneSecond] ∧
      (after bridgeConfig default syncedRun).stop ≠ some .diverges := by
  obtain ⟨_, htransmit, _, hrequest, _, _, _, hmaster, _, hsenders, hreturn⟩ :=
    run_loops_end bridgeConfig default syncedRun default
  have hdivisors : divisors (after bridgeConfig default syncedRun) =
      [AnnounceLoop.oneSecond] := by
    decide +kernel
  refine ⟨htransmit _ _ (.start rfl) (by decide) (by decide),
    hrequest _ (by decide), hmaster (by decide),
    (hsenders (by decide +kernel) 0 default).left, hdivisors, hreturn ?_⟩
  rintro ⟨t1, t2, hcall, hdiverges⟩
  have hmem : t2 ∈ divisors (after bridgeConfig default syncedRun) :=
    List.mem_filterMap.mpr ⟨_, hcall, rfl⟩
  rw [hdivisors] at hmem
  obtain ⟨hzero, _⟩ := (uscalednsDiv_diverges_iff t1 t2).mp ⟨_, hdiverges⟩
  rw [List.mem_singleton.mp hmem] at hzero
  exact absurd hzero (by decide)

end TimeSync
end Ziggo
