import Ziggo.TimeSync.AnnounceLoop.Invariant
import Ziggo.TimeSync.PortStateSelectionSM.Selection

/-!
# The intervals between Announce messages

The main loop sets the intervals of a port when it initializes the globals of
the port.  No machine changes them, in neither of the two modes.
-/

namespace Ziggo
namespace TimeSync

open Foundation TsnDrivers

structure AnnounceIntervals where
  initialLogAnnounceInterval : Int8
  announceInterval : UScaledNs

def announceIntervals (port : PerPortGlobal) : AnnounceIntervals where
  initialLogAnnounceInterval := port.initialLogAnnounceInterval
  announceInterval := port.announceInterval

/-!
## Reception
-/

namespace PortAnnounceInformationSM

variable {ts : UScaledNs} {sm sm' : PortAnnounceInformationSM}

theorem announceIntervals_recordOtherAnnounceInfo {announce : PTPMsgAnnounce}
    (h : sm.recordOtherAnnounceInfo announce = .ok sm') :
    announceIntervals sm'.perPortGlobal =
      announceIntervals sm.perPortGlobal := by
  obtain ⟨_, _, hreturn⟩ := bind_eq_ok.mp h
  cases hreturn
  rfl

theorem announceIntervals_action {state : PortAnnounceInformationSMState}
    (h : action ts state sm = .ok sm') :
    announceIntervals sm'.perPortGlobal =
      announceIntervals sm.perPortGlobal := by
  cases state with
  | receive =>
      obtain ⟨_, _, hreturn⟩ := bind_eq_ok.mp h
      cases hreturn
      rfl
  | repeatedMasterPort =>
      obtain ⟨_, _, hrest⟩ := bind_eq_ok.mp h
      obtain ⟨_, hrecord, hreturn⟩ := bind_eq_ok.mp hrest
      cases hreturn
      exact (announceIntervals_recordOtherAnnounceInfo hrecord :)
  | superiorMasterPort =>
      obtain ⟨_, _, hrest⟩ := bind_eq_ok.mp h
      obtain ⟨_, hrecord, hrest⟩ := bind_eq_ok.mp hrest
      obtain ⟨_, _, hrest⟩ := bind_eq_ok.mp hrest
      obtain ⟨_, _, hreturn⟩ := bind_eq_ok.mp hrest
      cases hreturn
      exact (announceIntervals_recordOtherAnnounceInfo hrecord :)
  | _ =>
      cases h
      rfl

end PortAnnounceInformationSM

namespace PortAnnounceInformationMachine

open PortAnnounceInformationSM

theorem announceIntervals_run (m : PortAnnounceInformationMachine)
    (ts : UScaledNs) :
    announceIntervals (m.run ts).vars.perPortGlobal =
      announceIntervals m.vars.perPortGlobal := by
  refine Behaviour.run_preserves (behaviour ts)
    (I := fun sm => announceIntervals sm.perPortGlobal =
      announceIntervals m.vars.perPortGlobal) ?_ ?_ ?_ ?_ passes rfl
  · exact fun _ _ _ h haction => (announceIntervals_action haction).trans h
  · exact fun _ _ _ h _ => h
  · exact fun _ _ _ h _ => h
  · exact fun _ h => h

theorem announceIntervals_recvAnnounce (m : PortAnnounceInformationMachine)
    (ts : UScaledNs) (announce : PTPMsgAnnounce) :
    announceIntervals (m.recvAnnounce ts announce).vars.perPortGlobal =
      announceIntervals m.vars.perPortGlobal := by
  unfold recvAnnounce
  cases hstore : m.vars.storeAnnounce announce with
  | error f => rfl
  | ok vars =>
      obtain ⟨_, _, hreturn⟩ := bind_eq_ok.mp hstore
      cases hreturn
      exact announceIntervals_run { m with vars := _ } ts

theorem announceIntervals_init (memory : PortAnnounceInformationSM) :
    announceIntervals (initPortAnnounceInformationSm memory).vars.perPortGlobal
      = announceIntervals memory.perPortGlobal := by
  unfold initPortAnnounceInformationSm
  exact announceIntervals_run _ _

end PortAnnounceInformationMachine

/-!
## Selection
-/

namespace PortStateSelectionMachine

open PortStateSelectionSM

theorem announceIntervals_run (m : PortStateSelectionMachine) (i : PortIndex) :
    announceIntervals (m.run.vars.perPortGlobalArray i) =
      announceIntervals (m.vars.perPortGlobalArray i) := by
  refine Program.run_preserves program
    (I := fun sm => announceIntervals (sm.perPortGlobalArray i) =
      announceIntervals (m.vars.perPortGlobalArray i)) ?_ ?_ ?_ passes rfl
  · intro state sm h
    cases state with
    | stateSelection =>
        refine Eq.trans ?_ h
        change announceIntervals ((updtStatesTree
          (clearReselectTree sm.perPTPInstanceGlobal)
            sm.perPortGlobalArray).2 i) = _
        rw [ports_updtStatesTree]
        rfl
    | _ => exact h
  · exact fun _ _ _ h _ => h
  · exact fun _ h => h

end PortStateSelectionMachine

/-!
## The loop
-/

namespace AnnounceLoop

def intervals (l : AnnounceLoop) (i : PortIndex) : AnnounceIntervals :=
  announceIntervals (l.perPortGlobal i)

section Statements

variable {l l' : AnnounceLoop}

theorem announceInterval_of_intervals (h : l'.intervals = l.intervals)
    (i : PortIndex) :
    (l'.perPortGlobal i).announceInterval =
      (l.perPortGlobal i).announceInterval :=
  congrArg AnnounceIntervals.announceInterval (congrFun h i)

theorem intervals_update {i : PortIndex} {port : PerPortGlobal}
    (h : announceIntervals port = l.intervals i) (j : PortIndex) :
    announceIntervals (Function.update l.perPortGlobal i port j) =
      l.intervals j := by
  by_cases hji : j = i
  · subst hji
    rw [Function.update_self]
    exact h
  · rw [Function.update_of_ne hji]
    rfl

theorem intervals_thenDo {statement : AnnounceLoop -> AnnounceLoop}
    (h : forall l, (statement l).intervals = l.intervals) (l : AnnounceLoop) :
    (l.thenDo statement).intervals = l.intervals := by
  unfold AnnounceLoop.thenDo
  split
  · rfl
  · exact h l

theorem intervals_selection {m : PortStateSelectionMachine}
    (hm : m.vars.perPortGlobalArray = l.perPortGlobal) :
    (l.storePortStateSelection m.run).intervals = l.intervals := by
  funext i
  unfold intervals
  rw [← hm]
  exact PortStateSelectionMachine.announceIntervals_run m i

theorem intervals_transmit {i : PortIndex} {m : PortAnnounceTransmitMachine}
    (hframe : PortAnnounceTransmitMachine.CallFrame
      (l.loadPortAnnounceTransmit i) m.vars) :
    (l.storePortAnnounceTransmit i m).intervals = l.intervals :=
  funext (intervals_update (congrArg announceIntervals hframe.port))

theorem intervals_informationExt {i : PortIndex} {Fits : Prop}
    {m : PortAnnounceInformationExtMachine}
    (hframe : PortAnnounceInformationExtMachine.CallFrame Fits
      (l.loadPortAnnounceInformationExt i) m.vars) :
    (l.storePortAnnounceInformationExt i m).intervals = l.intervals :=
  funext (intervals_update (congrArg announceIntervals hframe.port))

theorem intervals_runSelection (l : AnnounceLoop) :
    l.runSelection.intervals = l.intervals := by
  unfold runSelection
  split
  · rfl
  · exact intervals_selection rfl

theorem intervals_runInformation (i : PortIndex) (ts : UScaledNs)
    (l : AnnounceLoop) : (l.runInformation i ts).intervals = l.intervals := by
  unfold runInformation
  split
  · rfl
  · exact funext (intervals_update
      (PortAnnounceInformationMachine.announceIntervals_run _ ts))

theorem intervals_recvAnnounce (i : PortIndex) (ts : UScaledNs)
    (message : PTPMsgAnnounce) (l : AnnounceLoop) :
    (l.recvAnnounce i ts message).intervals = l.intervals := by
  unfold recvAnnounce
  split
  · exact intervals_informationExt
      (PortAnnounceInformationExtMachine.callFrame_recvAnnounce
        { l.portAnnounceInformationExtSms i with
          vars := l.loadPortAnnounceInformationExt i } message)
  · exact funext (intervals_update
      (PortAnnounceInformationMachine.announceIntervals_recvAnnounce _ ts
        message))

theorem intervals_runTransmit (i : PortIndex) (ts : UScaledNs)
    (l : AnnounceLoop) : (l.runTransmit i ts).intervals = l.intervals :=
  intervals_transmit (callFrame_runTransmit l i ts)

theorem intervals_initSelection (l : AnnounceLoop) :
    l.initSelection.intervals = l.intervals := by
  unfold initSelection
  split
  · rfl
  · exact intervals_selection rfl

theorem intervals_initInformation (i : PortIndex) (l : AnnounceLoop) :
    (l.initInformation i).intervals = l.intervals := by
  unfold initInformation
  split
  · exact intervals_informationExt
      (PortAnnounceInformationExtMachine.callFrame_init _)
  · exact funext (intervals_update
      (PortAnnounceInformationMachine.announceIntervals_init _))

theorem intervals_initTransmit (i : PortIndex) (l : AnnounceLoop) :
    (l.initTransmit i).intervals = l.intervals :=
  intervals_transmit (PortAnnounceTransmitMachine.callFrame_init _)

theorem intervals_initPort (l : AnnounceLoop) (i : PortIndex) :
    (l.initPort i).intervals = l.intervals := by
  have hinformation := intervals_thenDo (intervals_initInformation i) l
  exact (intervals_thenDo (intervals_initTransmit i) _).trans hinformation

theorem intervals_start (config : Config) (memory : LoopMemory) :
    (start config memory).intervals = (initial config memory).intervals :=
  (foldl_keeps intervals_initPort (List.finRange nPorts) _).trans
    (intervals_initSelection _)

end Statements

end AnnounceLoop

end TimeSync
end Ziggo
