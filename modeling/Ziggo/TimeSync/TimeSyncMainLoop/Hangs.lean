import Ziggo.TimeSync.AnnounceLoop.Pacing
import Ziggo.TimeSync.MDPdelayReqSM.Pacing
import Ziggo.TimeSync.ReceivedMessages
import Ziggo.TimeSync.RunLoops
import Ziggo.TimeSync.TimeSyncMainLoop.Refinement

/-!
# Runs that do not hang

The run loops of all machines end.  In a run of the main loop no call of a group
goes on for ever, but for the divisions of the clock slave.
-/

namespace Ziggo
namespace TimeSync

open Foundation TsnDrivers

/-!
## The machines for `Announce` messages
-/

theorem ptr_deref_ne_diverges {Object : Type} {p : Ptr Object} :
    p.deref ≠ .error .diverges := fun h => by
  cases Ptr.deref_eq_error h

theorem ptr_free_ne_diverges {Object : Type} {p : Ptr Object} :
    p.free ≠ .error .diverges := fun h => by
  cases (Ptr.free_eq_error h).right

theorem copyOctets_ne_diverges {count : Nat} {source destination : PathArray} :
    copyOctets count source destination ≠ .error .diverges := by
  intro h
  unfold copyOctets at h
  split at h
  · cases h
  · cases h

namespace PortStateSelectionMachine

theorem run_ne_diverges {m : PortStateSelectionMachine}
    (hrunning : m.vars.process.stop = none) :
    m.run.vars.process.stop ≠ some .diverges := by
  rw [running_run hrunning]
  exact (Option.some_ne_none _).symm

end PortStateSelectionMachine

namespace PortAnnounceInformationSM

open PortAnnounceInformationSMState

theorem recordOtherAnnounceInfo_ne_diverges (sm : PortAnnounceInformationSM)
    (announce : PTPMsgAnnounce) :
    sm.recordOtherAnnounceInfo announce ≠ .error .diverges := by
  intro h
  rcases bind_eq_error.mp h with hcopy | ⟨_, _, hreturn⟩
  · exact copyOctets_ne_diverges hcopy
  · cases hreturn

theorem action_ne_diverges (ts : UScaledNs) (s : PortAnnounceInformationSMState)
    (sm : PortAnnounceInformationSM) : action ts s sm ≠ .error .diverges := by
  intro h
  have htimeout : forall {timeout : UInt16} {logInterval : Int8},
      timeoutInterval timeout logInterval ≠ .error .diverges := fun h => by
    cases timeoutInterval_eq_error h
  cases s with
  | receive =>
      rcases bind_eq_error.mp h with h | ⟨_, _, hreturn⟩
      · exact ptr_deref_ne_diverges h
      · cases hreturn
  | repeatedMasterPort =>
      rcases bind_eq_error.mp h with h | ⟨_, _, h⟩
      · exact ptr_deref_ne_diverges h
      · rcases bind_eq_error.mp h with h | ⟨_, _, hreturn⟩
        · exact recordOtherAnnounceInfo_ne_diverges _ _ h
        · cases hreturn
  | superiorMasterPort =>
      rcases bind_eq_error.mp h with h | ⟨_, _, h⟩
      · exact ptr_deref_ne_diverges h
      · rcases bind_eq_error.mp h with h | ⟨_, _, h⟩
        · exact recordOtherAnnounceInfo_ne_diverges _ _ h
        · rcases bind_eq_error.mp h with h | ⟨_, _, h⟩
          · exact htimeout h
          · rcases bind_eq_error.mp h with h | ⟨_, _, hreturn⟩
            · exact htimeout h
            · cases hreturn
  | _ => cases h

theorem transition_ne_diverges (ts : UScaledNs)
    (s : PortAnnounceInformationSMState) (sm : PortAnnounceInformationSM) :
    transition ts s sm ≠ .error .diverges := by
  intro h
  cases s <;> cases h

theorem behaviour_records (ts : UScaledNs) : (behaviour ts).Records where
  halt _ _ := rfl
  action _ _ _ h := congrArg Process.stop (frame_action h).process

end PortAnnounceInformationSM

namespace PortAnnounceInformationMachine

open PortAnnounceInformationSM

variable {m : PortAnnounceInformationMachine} {ts : UScaledNs}

theorem run_ne_diverges (hrunning : m.vars.process.stop = none) :
    (m.run ts).vars.process.stop ≠ some .diverges :=
  Behaviour.fault_of_endsWithin (behaviour_records ts) (action_ne_diverges ts)
    (transition_ne_diverges ts) (m.run_ends ts) hrunning

theorem recvAnnounce_ne_diverges (hrunning : m.vars.process.stop = none)
    (announce : PTPMsgAnnounce) :
    (m.recvAnnounce ts announce).vars.process.stop ≠ some .diverges := by
  unfold recvAnnounce
  cases hstore : m.vars.storeAnnounce announce with
  | error f =>
      rcases bind_eq_error.mp hstore with hfree | ⟨_, _, hreturn⟩
      · intro hstop
        cases Option.some.inj hstop
        exact ptr_free_ne_diverges hfree
      · cases hreturn
  | ok sm =>
      obtain ⟨_, _, hreturn⟩ := bind_eq_ok.mp hstore
      cases hreturn
      exact run_ne_diverges hrunning

end PortAnnounceInformationMachine

namespace PortAnnounceInformationExtSM

open PortAnnounceInformationExtSMState

theorem receiveAction_ne_diverges (sm : PortAnnounceInformationExtSM) :
    sm.receiveAction ≠ .error .diverges := by
  intro h
  unfold receiveAction at h
  split at h
  · rcases bind_eq_error.mp h with h | ⟨_, _, h⟩
    · exact ptr_deref_ne_diverges h
    · rcases bind_eq_error.mp h with h | ⟨_, _, hreturn⟩
      · unfold rcvInfoExt tracePath at h
        dsimp only at h
        split at h
        · cases h
        · cases h
      · cases hreturn
  · cases h

theorem receiveAction_ok {sm sm' : PortAnnounceInformationExtSM}
    (h : sm.receiveAction = .ok sm') :
    sm'.process = sm.process ∧ sm'.announcePending = false := by
  unfold receiveAction at h
  split at h
  · obtain ⟨_, _, h⟩ := bind_eq_ok.mp h
    obtain ⟨_, _, hreturn⟩ := bind_eq_ok.mp h
    cases hreturn
    exact ⟨rfl, by simp [announcePending]⟩
  · cases h
    exact ⟨rfl, by simp [announcePending]⟩

/-- The machine rests in each state but the first one. -/
def settled : Program.Ranking program 2 :=
  Program.settling init initializing (fun _ _ => True) (fun _ => rfl)
    (by decide) (fun _ => trivial) (fun s sm t hs _ hrun => by
      cases s with
      | init => exact absurd rfl hs
      | initializing =>
          refine Program.not_leads_of_goto ?_
          have hpending : sm.initializeAction.announcePending = false := by
            simp [announcePending, initializeAction]
          change Except.ok (Next.goto (if sm.initializeAction.announcePending = true
            then receive else initializing)) = _
          rw [hpending]
          rfl
      | receive =>
          change (attempt halt sm sm.receiveAction).process.stop = none at hrun
          change ¬ program.Leads _ (attempt halt sm sm.receiveAction) _
          cases hresult : sm.receiveAction with
          | error f =>
              rw [attempt_error hresult] at hrun
              cases hrun
          | ok sm' =>
              refine Program.not_leads_of_goto ?_
              change Except.ok (if sm'.announcePending = true
                then Next.reenter receive else .goto receive) = _
              rw [(receiveAction_ok hresult).right]
              rfl)

end PortAnnounceInformationExtSM

namespace PortAnnounceInformationExtMachine

open PortAnnounceInformationExtSM

variable {m : PortAnnounceInformationExtMachine}

theorem run_ends (m : PortAnnounceInformationExtMachine) :
    program.EndsWithin passes m.ready :=
  (settled.endsWithin_of_forall fun _ => trivial).mono (by decide)

theorem run_ne_diverges (hrunning : m.vars.process.stop = none) :
    m.run.vars.process.stop ≠ some .diverges := by
  have hstart : m.vars.process.stop ≠ some .diverges := by
    rw [hrunning]
    exact (Option.some_ne_none _).symm
  refine Program.run_of_passes
    (I := fun m => m.vars.process.stop ≠ some .diverges)
    (fun m hrun _ => ?_) m.run_ends hrunning hstart
  refine Program.pass_of_enter program
    (I := fun sm => sm.process.stop ≠ some .diverges) ?_ (fun s sm f _ hf => ?_)
  · have hrunning' : m.vars.process.stop = none := hrun
    have hkeeps : m.vars.process.stop ≠ some .diverges := by
      rw [hrunning']
      exact (Option.some_ne_none _).symm
    by_cases hq : m.Quiescent
    · rw [Program.enter_quiescent _ hq]
      exact hkeeps
    · rw [Program.enter_change _ hq]
      cases hstate : m.state with
      | init => exact hkeeps
      | initializing => exact hkeeps
      | receive =>
          change (attempt halt m.vars m.vars.receiveAction).process.stop ≠ _
          cases hresult : m.vars.receiveAction with
          | error f =>
              intro hstop
              cases Option.some.inj hstop
              exact receiveAction_ne_diverges _ hresult
          | ok sm =>
              rw [attempt_ok rfl, (receiveAction_ok hresult).left]
              exact hkeeps
  · cases s <;> cases hf

theorem recvAnnounce_ne_diverges (hrunning : m.vars.process.stop = none)
    (announce : PTPMsgAnnounce) :
    (m.recvAnnounce announce).vars.process.stop ≠ some .diverges := by
  unfold recvAnnounce
  cases hstore : m.vars.storeAnnounce announce with
  | error f =>
      rcases bind_eq_error.mp hstore with hfree | ⟨_, _, hreturn⟩
      · intro hstop
        cases Option.some.inj hstop
        exact ptr_free_ne_diverges hfree
      · cases hreturn
  | ok sm =>
      obtain ⟨_, _, hreturn⟩ := bind_eq_ok.mp hstore
      cases hreturn
      exact run_ne_diverges hrunning

end PortAnnounceInformationExtMachine

namespace PortAnnounceTransmitSM

open PortAnnounceTransmitSMState

theorem action_ne_diverges (ts : UScaledNs) (s : PortAnnounceTransmitSMState)
    (sm : PortAnnounceTransmitSM) : action ts s sm ≠ .error .diverges := by
  intro h
  cases s with
  | transmitAnnounce =>
      rcases bind_eq_error.mp h with h | ⟨_, _, h⟩
      · rcases bind_eq_error.mp h with h | ⟨_, _, hreturn⟩
        · exact copyOctets_ne_diverges h
        · cases hreturn
      · rcases bind_eq_error.mp h with h | ⟨_, _, hreturn⟩
        · rcases bind_eq_error.mp h with h | ⟨_, _, hsend⟩
          · exact ptr_deref_ne_diverges h
          · cases hsend
        · cases hreturn
  | _ => cases h

theorem transition_ne_diverges (ts : UScaledNs) (s : PortAnnounceTransmitSMState)
    (sm : PortAnnounceTransmitSM) : transition ts s sm ≠ .error .diverges := by
  intro h
  cases s <;> cases h

end PortAnnounceTransmitSM

namespace PortAnnounceTransmitMachine

open PortAnnounceTransmitSM

theorem run_ne_diverges {m : PortAnnounceTransmitMachine} {ts : UScaledNs}
    (hpaced : Paced ts m.vars) (hrunning : m.vars.process.stop = none) :
    (m.run ts).vars.process.stop ≠ some .diverges :=
  Behaviour.fault_of_endsWithin (behaviour_records ts) (action_ne_diverges ts)
    (transition_ne_diverges ts) (run_ends hpaced) hrunning

theorem paced_of_intervals {sm : PortAnnounceTransmitSM} {ts : UScaledNs}
    (h : Intervals AnnounceLoop.oneSecond sm)
    (hwrap : NoWrap ts AnnounceLoop.oneSecond) : Paced ts sm := by
  obtain ⟨hinterval2, hannounce⟩ := h
  refine ⟨hinterval2.trans hannounce.symm, ?_, ?_⟩
  · rw [hannounce]
    decide
  · rw [hannounce]
    exact hwrap

end PortAnnounceTransmitMachine

namespace AnnounceLoop

/-- The timers are set to one second, and no machine has run for ever. -/
structure Convergent (l : AnnounceLoop) : Prop where
  ends : l.process.stop ≠ some .diverges
  interval : forall i, (l.perPortGlobal i).announceInterval = oneSecond
  interval2 : l.Runs ->
    forall i, (l.portAnnounceTransmitSms i).vars.interval2 = oneSecond

section Convergent

variable {l : AnnounceLoop} {ts : UScaledNs}

/-- A statement about other machines than the senders. -/
theorem Convergent.unchanged (h : l.Convergent) {l' : AnnounceLoop}
    (hends : l'.process.stop ≠ some .diverges) (hruns : l.Runs)
    (hsame : Unchanged l l') (hintervals : l'.intervals = l.intervals) :
    l'.Convergent where
  ends := hends
  interval i := (announceInterval_of_intervals hintervals i).trans (h.interval i)
  interval2 _ i := by
    rw [hsame.portAnnounceTransmitSms]
    exact h.interval2 hruns i

theorem Convergent.thenDo (h : l.Convergent)
    {statement : AnnounceLoop -> AnnounceLoop}
    (hstatement : l.Runs -> (statement l).Convergent) :
    (l.thenDo statement).Convergent :=
  thenDo_preserves h fun _ hruns => hstatement hruns

theorem Convergent.runSelection (h : l.Convergent) (hruns : l.Runs) :
    l.runSelection.Convergent := by
  refine h.unchanged ?_ hruns (unchanged_runSelection l)
    (intervals_runSelection l)
  unfold AnnounceLoop.runSelection
  split
  · exact h.ends
  · exact PortStateSelectionMachine.run_ne_diverges hruns

theorem Convergent.runInformation (h : l.Convergent) (hruns : l.Runs)
    (i : PortIndex) (ts : UScaledNs) : (l.runInformation i ts).Convergent := by
  refine h.unchanged ?_ hruns (unchanged_runInformation i ts l)
    (intervals_runInformation i ts l)
  unfold AnnounceLoop.runInformation
  split
  · exact h.ends
  · exact PortAnnounceInformationMachine.run_ne_diverges hruns

theorem Convergent.recvAnnounce (h : l.Convergent) (hruns : l.Runs)
    (i : PortIndex) (ts : UScaledNs) (message : PTPMsgAnnounce) :
    (l.recvAnnounce i ts message).Convergent := by
  refine h.unchanged ?_ hruns (unchanged_recvAnnounce i ts message l)
    (intervals_recvAnnounce i ts message l)
  unfold AnnounceLoop.recvAnnounce
  split
  · exact @PortAnnounceInformationExtMachine.recvAnnounce_ne_diverges
      { l.portAnnounceInformationExtSms i with
        vars := l.loadPortAnnounceInformationExt i } hruns message
  · exact @PortAnnounceInformationMachine.recvAnnounce_ne_diverges
      { l.portAnnounceInformationSms i with
        vars := l.loadPortAnnounceInformation i } ts hruns message

theorem Convergent.runTransmit (h : l.Convergent) (hruns : l.Runs)
    (hwrap : NoWrap ts oneSecond) (i : PortIndex) :
    (l.runTransmit i ts).Convergent := by
  have hintervals : PortAnnounceTransmitSM.Intervals oneSecond
      (l.loadPortAnnounceTransmit i) := ⟨h.interval2 hruns i, h.interval i⟩
  refine ⟨PortAnnounceTransmitMachine.run_ne_diverges
    (PortAnnounceTransmitMachine.paced_of_intervals hintervals hwrap) hruns,
    fun j => ?_, fun _ j => ?_⟩
  · exact (announceInterval_of_intervals (intervals_runTransmit i ts l) j).trans
      (h.interval j)
  · by_cases hj : j = i
    · subst hj
      have hself : (l.runTransmit j ts).portAnnounceTransmitSms j =
          PortAnnounceTransmitMachine.run
            { l.portAnnounceTransmitSms j with
              vars := l.loadPortAnnounceTransmit j } ts :=
        Function.update_self _ _ _
      rw [hself]
      exact (PortAnnounceTransmitMachine.intervals_run ts
        (m := { l.portAnnounceTransmitSms j with
          vars := l.loadPortAnnounceTransmit j }) hintervals).interval2
    · have hother : (l.runTransmit i ts).portAnnounceTransmitSms j =
          l.portAnnounceTransmitSms j := Function.update_of_ne hj _ _
      rw [hother]
      exact h.interval2 hruns j

/-- No event of a pass makes a machine run for ever. -/
theorem Convergent.step (h : l.Convergent) (hwrap : NoWrap ts oneSecond)
    {e : Event} (he : e.At ts) : (l.step e).Convergent := by
  cases e with
  | timeout i ts' =>
      have htime : ts' = ts := he
      subst htime
      have hinformation := h.thenDo fun hruns => h.runInformation hruns i ts'
      exact hinformation.thenDo fun hruns => hinformation.runTransmit hruns hwrap i
  | announce i ts' message =>
      have hreceived := h.thenDo fun hruns => h.recvAnnounce hruns i ts' message
      exact hreceived.thenDo fun hruns => hreceived.runSelection hruns
  | select => exact h.thenDo fun hruns => h.runSelection hruns
  | syncReceipt time =>
      exact h.thenDo fun hruns => ⟨h.ends, h.interval, fun _ => h.interval2 hruns⟩

end Convergent

end AnnounceLoop

/-!
## The machines for the delays of the links
-/

namespace MDPdelayReqSM

open MDPdelayReqSMState

/-- The rate ratio of the next sample is a division by zero. -/
def RatioDiverges (sm : MDPdelayReqSM) : Prop :=
  sm.mdPdelayAddRespAndRespFollowUpTimestamp.computePdelayRateRatio =
    .error .diverges

/--
Where a run has not come to an end, the rate ratio of its sample is a division by
zero.  `md_pdelay_req_sm_recv_resp` stores the ingress timestamp after the run.
-/
structure Convergent (sm : MDPdelayReqSM) : Prop where
  positive : 0 < sm.mdEntityGlobal.pdelayReqInterval.toNat
  ends : sm.process.stop = some .diverges ->
    exists t4, RatioDiverges { sm with t4 := t4 }

end MDPdelayReqSM

namespace MDPdelayReqMachine

open MDPdelayReqSM

end MDPdelayReqMachine

namespace MDPdelayRespMachine

open MDPdelayRespSM

theorem action_ne_diverges (s : MDPdelayRespSMState) (sm : MDPdelayRespSM) :
    action s sm ≠ .error .diverges := by
  intro h
  cases s with
  | sentPdelayRespWaitingForTimestamp =>
      rcases bind_eq_error.mp h with h | ⟨_, _, h⟩
      · exact ptr_deref_ne_diverges h
      · rcases bind_eq_error.mp h with h | ⟨_, _, h⟩
        · exact ptr_deref_ne_diverges h
        · cases h
  | waitingForPdelayReq =>
      rcases bind_eq_error.mp h with h | ⟨_, _, h⟩
      · exact ptr_deref_ne_diverges h
      · rcases bind_eq_error.mp h with h | ⟨_, _, h⟩
        · rcases bind_eq_error.mp h with h | ⟨_, _, h⟩
          · exact ptr_deref_ne_diverges h
          · cases h
        · rcases bind_eq_error.mp h with h | ⟨_, _, h⟩
          · exact ptr_free_ne_diverges h
          · rcases bind_eq_error.mp h with h | ⟨_, _, h⟩
            · exact ptr_free_ne_diverges h
            · rcases bind_eq_error.mp h with h | ⟨_, _, h⟩
              · exact ptr_free_ne_diverges h
              · cases h
  | _ => cases h

theorem run_ne_diverges {m : MDPdelayRespMachine}
    (hrunning : m.vars.process.stop = none) :
    m.run.vars.process.stop ≠ some .diverges :=
  Behaviour.fault_of_endsWithin behaviour_records action_ne_diverges
    (fun _ _ => transition_ne_error) m.run_ends hrunning

theorem step_ne_diverges {m : MDPdelayRespMachine}
    (h : m.vars.process.stop ≠ some .diverges) (e : Event) :
    (m.step e).vars.process.stop ≠ some .diverges := by
  unfold step
  split
  · exact h
  · rename_i hstop
    have hrunning : m.vars.process.stop = none := not_not.mp hstop
    cases e with
    | txts tsuTimestamp =>
        change (m.txts tsuTimestamp).vars.process.stop ≠ some .diverges
        unfold txts
        split
        · exact h
        · split
          · rename_i hfails
            intro hdiverges
            cases Option.some.inj hdiverges
            exact ptr_deref_ne_diverges hfails
          · split
            · exact h
            · exact @run_ne_diverges
                { m with vars := m.vars.storeTimestamp tsuTimestamp } hrunning
    | recvReq tsuTimestamp pdelayReq =>
        exact @run_ne_diverges
          { m with vars := m.vars.storeReq tsuTimestamp pdelayReq } hrunning

end MDPdelayRespMachine

end TimeSync
end Ziggo
