import Ziggo.TimeSync.ClockMasterSyncSendSM
import Ziggo.TimeSync.RunLoops.Announces

/-!
# The run loops of the clock master

What the clock source has sent is consumed by the action that it leads to, and
the next structure is not due before a second has passed.
-/

namespace Ziggo
namespace TimeSync

open Foundation TsnDrivers

/-!
## The time of the clock source
-/

namespace ClockMasterSyncReceiveSM

open ClockMasterSyncReceiveSMState

/-- A machine rests in a state that it has entered as long as nothing comes. -/
theorem transition_idle {s : ClockMasterSyncReceiveSMState} (hs : s ≠ init)
    {sm : ClockMasterSyncReceiveSM} (h : sm.requested = false) :
    transition s sm = .ok (.goto s) := by
  cases s with
  | init => exact absurd rfl hs
  | initializing =>
      unfold transition initializingStateTransition
      rw [h]
      rfl
  | receiveSourceTime =>
      unfold transition receiveSourceTimeStateTransition
      rw [h]
      rfl

theorem not_leads_action {s t : ClockMasterSyncReceiveSMState}
    {sm : ClockMasterSyncReceiveSM} (hs : s ≠ init)
    (hrun : program.fault (program.action s sm) = none) :
    ¬ program.Leads s (program.action s sm) t := by
  cases s with
  | init => exact absurd rfl hs
  | initializing =>
      have hcleared : sm.initializingAction.requested = false := rfl
      exact Program.not_leads_of_goto (transition_idle hs hcleared)
  | receiveSourceTime =>
      change (attempt halt sm sm.receiveSourceTimeAction).process.stop = none
        at hrun
      change ¬ program.Leads _ (attempt halt sm sm.receiveSourceTimeAction) _
      cases haction : sm.receiveSourceTimeAction with
      | error f =>
          rw [attempt_error haction] at hrun
          exact absurd hrun (program.fault_halt f sm)
      | ok sm' =>
          obtain ⟨_, _, hreturn⟩ := bind_eq_ok.mp haction
          cases hreturn
          exact Program.not_leads_of_goto (transition_idle hs rfl)

def ranking : Program.Ranking program 2 :=
  Program.settling init initializing (fun _ _ => True) (fun _ => rfl)
    (by decide) (fun _ => trivial) (fun _ _ _ hs _ => not_leads_action hs)

end ClockMasterSyncReceiveSM

theorem ClockMasterSyncReceiveMachine.run_ends
    (m : ClockMasterSyncReceiveMachine) :
    ClockMasterSyncReceiveSM.program.EndsWithin passes m.ready :=
  (ClockMasterSyncReceiveSM.ranking.endsWithin_of_forall
    fun _ => trivial).mono (by decide)

/-!
## The messages of the clock master
-/

namespace ClockMasterSyncSendSM

open ClockMasterSyncSendSMState

variable {ts : UScaledNs} {w : ClockMaster}

theorem due_schedule (hwrap : NoWrap ts AnnounceLoop.oneSecond) :
    due ts (schedule ts w) = false :=
  decide_eq_false (uscalednsCompare_add (by decide) hwrap)

/-- Nothing is due after an action that sets the next time. -/
theorem transition_waiting {s : ClockMasterSyncSendSMState} (hs : s ≠ init)
    (h : due ts w = false) : transition ts s w = .ok (.goto s) := by
  cases s with
  | init => exact absurd rfl hs
  | initializing =>
      unfold transition
      rw [h]
      rfl
  | sendSyncIndication =>
      unfold transition
      rw [h]
      rfl

theorem not_leads_action {s t : ClockMasterSyncSendSMState} (hs : s ≠ init)
    (hwrap : NoWrap ts AnnounceLoop.oneSecond)
    (hrun : (action ts s w).syncLoop.stop = none) :
    ¬ (machine ts).program.Leads s (action ts s w) t := by
  cases s with
  | init => exact absurd rfl hs
  | initializing =>
      exact Program.not_leads_of_goto
        (transition_waiting hs (due_schedule hwrap))
  | sendSyncIndication =>
      change (sendSyncIndicationAction ts w).syncLoop.stop = none at hrun
      change ¬ (machine ts).program.Leads _ (sendSyncIndicationAction ts w) _
      unfold sendSyncIndicationAction at hrun ⊢
      cases hfree : w.clockMasterSyncSendSm.txPSSyncPtrCMSS.free with
      | error f =>
          rw [hfree] at hrun
          exact absurd hrun (SyncLoop.stop_halt f w.syncLoop)
      | ok _ =>
          rw [hfree] at hrun
          dsimp only at hrun ⊢
          generalize txPSSyncCMSS ts _ _ = w' at hrun ⊢
          by_cases hstop : w'.syncLoop.stop = none
          · rw [if_neg (not_not.mpr hstop)]
            exact Program.not_leads_of_goto
              (transition_waiting hs (due_schedule hwrap))
          · rw [if_pos hstop] at hrun
            exact absurd hrun hstop

def ranking (hwrap : NoWrap ts AnnounceLoop.oneSecond) :
    Program.Ranking (machine ts).program 2 :=
  Program.settling init initializing (fun _ _ => True) (fun _ => rfl)
    (by decide) (fun _ => trivial)
    (fun _ _ _ hs _ hrun => not_leads_action hs hwrap hrun)

theorem run_ends (hwrap : NoWrap ts AnnounceLoop.oneSecond) (w : ClockMaster) :
    (machine ts).EndsWithin passes w :=
  ((ranking hwrap).endsWithin_of_forall fun _ => trivial).mono (by decide)

end ClockMasterSyncSendSM

end TimeSync
end Ziggo
