import Ziggo.Foundation.Termination
import Ziggo.TimeSync.PortAnnounceInformationSM
import Ziggo.TimeSync.PortAnnounceTransmitSM
import Ziggo.TimeSync.PortStateSelectionSM.Election

/-!
# The run loops of the machines for announcements

Each loop ends because the states that lead back to earlier ones consume what
has brought the machine to them: an update, a received message, or new
information that is to be sent.
-/

namespace Ziggo
namespace TimeSync

open Foundation TsnDrivers

/-- The sum that `uscaledns_add` forms has no carry out of 96 bits. -/
def NoWrap (ts interval : UScaledNs) : Prop :=
  ts.toNat + interval.toNat + additionError ts interval < 2 ^ 96

instance (ts interval : UScaledNs) : Decidable (NoWrap ts interval) :=
  inferInstanceAs (Decidable (_ < _))

/-- A sum without a carry out is at least the exact one. -/
theorem le_toNat_uscalednsAdd {ts interval : UScaledNs}
    (hwrap : NoWrap ts interval) :
    ts.toNat + interval.toNat ≤ (uscalednsAdd ts interval).toNat := by
  rw [toNat_uscalednsAdd, Nat.mod_eq_of_lt hwrap]
  exact Nat.le_add_right _ _

theorem uscalednsCompare_add {ts interval : UScaledNs}
    (hpositive : 0 < interval.toNat) (hwrap : NoWrap ts interval) :
    ¬ uscalednsCompare ts (uscalednsAdd ts interval) ≥ 0 := by
  have hsum : ts.toNat < (uscalednsAdd ts interval).toNat :=
    Nat.lt_of_lt_of_le (Nat.lt_add_of_pos_right hpositive)
      (le_toNat_uscalednsAdd hwrap)
  rw [uscalednsCompare_nonneg]
  exact not_le.mpr hsum

/-!
## Received announcements
-/

namespace PortAnnounceInformationSM

open PortAnnounceInformationSMState

variable {ts : UScaledNs} {sm sm' : PortAnnounceInformationSM}

/-- The changes of state that a pending update and a message can cause. -/
def currentRank (updtInfo rcvdMsg : Bool) : Nat :=
  match updtInfo, rcvdMsg with
  | false, false => 1
  | true, false => 3
  | false, true => 4
  | true, true => 6

/-- An upper bound on the changes of state that are to come. -/
def rank (state : PortAnnounceInformationSMState)
    (sm : PortAnnounceInformationSM) : Nat :=
  match state with
  | init => 2
  | disabled => 1
  | aged => 0
  | update => currentRank false sm.perPortGlobal.rcvdMsg + 1
  | current => currentRank sm.perPortGlobal.updtInfo sm.perPortGlobal.rcvdMsg
  | receive => currentRank sm.perPortGlobal.updtInfo false + 2
  | _ => currentRank sm.perPortGlobal.updtInfo false + 1

theorem rank_lt (state : PortAnnounceInformationSMState)
    (sm : PortAnnounceInformationSM) : rank state sm < 15 := by
  unfold rank currentRank
  cases state <;> dsimp only <;> (try split) <;> omega

/-- Each change of state leaves fewer of them to come. -/
theorem rank_transition {state next : PortAnnounceInformationSMState}
    (haction : action ts state sm = .ok sm')
    (hnext : transition ts state sm' = .ok next) (hne : next ≠ state) :
    rank next sm' < rank state sm := by
  cases state with
  | init =>
      cases hnext
      exact Nat.lt_succ_self 1
  | disabled =>
      rcases disabled_left hnext hne with ⟨rfl, _⟩
      exact Nat.one_pos
  | aged =>
      -- The action has withdrawn the selection of the port.
      cases haction
      rcases aged_left hnext hne with ⟨_, hselected, _⟩
      have hcleared : sm.agedAction.isSelected = false :=
        Function.update_self _ _ _
      rw [hcleared] at hselected
      cases hselected
  | update =>
      cases haction
      cases hnext
      exact Nat.lt_succ_self _
  | current =>
      cases haction
      change _ < currentRank sm.perPortGlobal.updtInfo sm.perPortGlobal.rcvdMsg
      rcases current_left hnext hne with
        ⟨rfl, _, hupdt⟩ | ⟨rfl, _⟩ | ⟨rfl, _, hmsg, hupdt⟩
      · change currentRank false sm.perPortGlobal.rcvdMsg + 1 < _
        rw [hupdt]
        cases sm.perPortGlobal.rcvdMsg <;> decide
      · change 0 < _
        cases sm.perPortGlobal.updtInfo <;>
          cases sm.perPortGlobal.rcvdMsg <;> decide
      · change currentRank sm.perPortGlobal.updtInfo false + 2 < _
        rw [hmsg, hupdt]
        decide
  | receive =>
      obtain ⟨_, _, hreturn⟩ := bind_eq_ok.mp haction
      cases hreturn
      have hlower : currentRank sm.perPortGlobal.updtInfo false + 1 <
          currentRank sm.perPortGlobal.updtInfo false + 2 :=
        Nat.lt_succ_self _
      rcases receive_left hnext hne with rfl | rfl | ⟨rfl, _⟩
      · exact hlower
      · exact hlower
      · exact hlower
  | inferiorMasterOrOtherPort =>
      cases haction
      cases hnext
      exact Nat.lt_succ_self _
  | repeatedMasterPort =>
      obtain ⟨_, _, hrest⟩ := bind_eq_ok.mp haction
      obtain ⟨_, hrecord, hreturn⟩ := bind_eq_ok.mp hrest
      obtain ⟨_, _, hrecorded⟩ := bind_eq_ok.mp hrecord
      cases hrecorded
      cases hreturn
      cases hnext
      exact Nat.lt_succ_self _
  | superiorMasterPort =>
      obtain ⟨_, _, hrest⟩ := bind_eq_ok.mp haction
      obtain ⟨_, hrecord, hrest⟩ := bind_eq_ok.mp hrest
      obtain ⟨_, _, hrest⟩ := bind_eq_ok.mp hrest
      obtain ⟨_, _, hreturn⟩ := bind_eq_ok.mp hrest
      obtain ⟨_, _, hrecorded⟩ := bind_eq_ok.mp hrecord
      cases hrecorded
      cases hreturn
      cases hnext
      exact Nat.lt_succ_self _

def ranking (ts : UScaledNs) : Program.Ranking (behaviour ts).program 15 :=
  (behaviour ts).ranking (fun _ => True) rank (fun _ _ _ _ _ => trivial)
    (fun _ _ _ _ _ haction hnext hne => rank_transition haction hnext hne)
    rank_lt

end PortAnnounceInformationSM

theorem PortAnnounceInformationMachine.run_ends
    (m : PortAnnounceInformationMachine) (ts : UScaledNs) :
    (PortAnnounceInformationSM.behaviour ts).program.EndsWithin passes
      m.ready :=
  (PortAnnounceInformationSM.ranking ts).endsWithin_of_forall fun _ => trivial

/-!
## Announcements to be sent
-/

namespace PortAnnounceTransmitSM

open PortAnnounceTransmitSMState

variable {ts : UScaledNs} {sm sm' : PortAnnounceTransmitSM}

/-- The next announcement is due one interval after the last one. -/
structure Paced (ts : UScaledNs) (sm : PortAnnounceTransmitSM) : Prop where
  interval2 : sm.interval2 = sm.perPortGlobal.announceInterval
  positive : 0 < sm.perPortGlobal.announceInterval.toNat
  noWrap : NoWrap ts sm.perPortGlobal.announceInterval

/-- An upper bound on the changes of state that are to come. -/
def rank (state : PortAnnounceTransmitSMState) (sm : PortAnnounceTransmitSM) :
    Nat :=
  match state with
  | init => 4
  | transmitInit => 3
  | transmitPeriodic => 3
  | idle => if sm.newInfo then 2 else 0
  | transmitAnnounce => 1

theorem rank_idle_le (sm : PortAnnounceTransmitSM) : rank idle sm ≤ 2 := by
  unfold rank
  dsimp only
  split <;> decide

theorem rank_lt (state : PortAnnounceTransmitSMState)
    (sm : PortAnnounceTransmitSM) : rank state sm < 15 := by
  cases state with
  | idle => exact Nat.lt_of_le_of_lt (rank_idle_le sm) (by decide)
  | _ =>
      unfold rank
      dsimp only
      decide

theorem Paced.idle (h : Paced ts sm) :
    ¬ uscalednsCompare ts (sm.idleAction ts).announceSendTime ≥ 0 := by
  change ¬ uscalednsCompare ts (uscalednsAdd ts sm.interval2) ≥ 0
  rw [h.interval2]
  exact uscalednsCompare_add h.positive h.noWrap

/-- Both variables for the time between two announcements have one value. -/
structure Intervals (interval : UScaledNs) (sm : PortAnnounceTransmitSM) :
    Prop where
  interval2 : sm.interval2 = interval
  announceInterval : sm.perPortGlobal.announceInterval = interval

theorem Intervals.action {interval : UScaledNs}
    {state : PortAnnounceTransmitSMState} (h : Intervals interval sm)
    (haction : action ts state sm = .ok sm') : Intervals interval sm' := by
  cases state with
  | init =>
      cases haction
      exact h
  | transmitInit =>
      cases haction
      exact ⟨h.interval2, h.announceInterval⟩
  | transmitPeriodic =>
      cases haction
      exact ⟨h.interval2, h.announceInterval⟩
  | idle =>
      cases haction
      exact ⟨h.interval2, h.announceInterval⟩
  | transmitAnnounce =>
      obtain ⟨_, _, hrest⟩ := bind_eq_ok.mp haction
      obtain ⟨_, htx, hreturn⟩ := bind_eq_ok.mp hrest
      obtain ⟨_, _, hsent⟩ := bind_eq_ok.mp htx
      cases hsent
      cases hreturn
      exact ⟨h.announceInterval, h.announceInterval⟩

theorem paced_action {state : PortAnnounceTransmitSMState} (h : Paced ts sm)
    (haction : action ts state sm = .ok sm') : Paced ts sm' := by
  have hbefore : Intervals sm.perPortGlobal.announceInterval sm :=
    ⟨h.interval2, rfl⟩
  obtain ⟨hinterval2, hannounce⟩ := hbefore.action haction
  refine ⟨hinterval2.trans hannounce.symm, ?_, ?_⟩
  · rw [hannounce]
    exact h.positive
  · rw [hannounce]
    exact h.noWrap

/-- Each change of state leaves fewer of them to come. -/
theorem rank_transition {state next : PortAnnounceTransmitSMState}
    (h : Paced ts sm) (haction : action ts state sm = .ok sm')
    (hnext : transition ts state sm' = .ok next) (hne : next ≠ state) :
    rank next sm' < rank state sm := by
  cases state with
  | init =>
      cases hnext
      exact Nat.lt_succ_self 3
  | transmitInit =>
      cases hnext
      exact Nat.lt_succ_of_le (rank_idle_le sm')
  | transmitPeriodic =>
      cases hnext
      exact Nat.lt_succ_of_le (rank_idle_le sm')
  | idle =>
      cases haction
      rcases idle_left hnext hne with ⟨_, hdue, _⟩ | ⟨rfl, hnew, _⟩
      · exact absurd hdue h.idle
      · have hinfo : sm.newInfo = true := hnew
        change 1 < if sm.newInfo then 2 else 0
        rw [if_pos hinfo]
        exact Nat.lt_succ_self 1
  | transmitAnnounce =>
      obtain ⟨_, _, hrest⟩ := bind_eq_ok.mp haction
      obtain ⟨_, htx, hreturn⟩ := bind_eq_ok.mp hrest
      obtain ⟨_, _, hsent⟩ := bind_eq_ok.mp htx
      cases hsent
      cases hreturn
      cases hnext
      exact Nat.one_pos

def ranking (ts : UScaledNs) : Program.Ranking (behaviour ts).program 15 :=
  (behaviour ts).ranking (Paced ts) rank (fun _ _ _ => paced_action)
    (fun _ _ _ _ => rank_transition) rank_lt

end PortAnnounceTransmitSM

namespace PortAnnounceTransmitMachine

open PortAnnounceTransmitSM

variable {interval : UScaledNs} {m : PortAnnounceTransmitMachine}

/--
The machine between two calls.  The rest of the program writes to the variables
that it shares with this machine, but to neither of the two intervals.
-/
inductive Reachable (interval : UScaledNs) : PortAnnounceTransmitMachine -> Prop
  where
  | start {memory : PortAnnounceTransmitSM}
      (h : memory.perPortGlobal.announceInterval = interval) :
      Reachable interval (initPortAnnounceTransmitSm memory)
  | shared {m : PortAnnounceTransmitMachine} {sm : PortAnnounceTransmitSM}
      (h : Reachable interval m) (hinterval2 : sm.interval2 = m.vars.interval2)
      (hannounce : sm.perPortGlobal.announceInterval =
        m.vars.perPortGlobal.announceInterval) :
      Reachable interval { m with vars := sm }
  | run {m : PortAnnounceTransmitMachine} (h : Reachable interval m)
      (ts : UScaledNs) : Reachable interval (m.run ts)

theorem intervals_run (ts : UScaledNs) (h : Intervals interval m.vars) :
    Intervals interval (m.run ts).vars :=
  (behaviour ts).run_preserves (fun _ _ _ hv haction => hv.action haction)
    (fun _ _ _ hv _ => ⟨hv.interval2, hv.announceInterval⟩)
    (fun _ _ _ hv _ => ⟨hv.interval2, hv.announceInterval⟩)
    (fun _ hv => ⟨hv.interval2, hv.announceInterval⟩) passes h

theorem Reachable.intervals (h : Reachable interval m) :
    Intervals interval m.vars := by
  induction h with
  | start hannounce => exact intervals_run _ ⟨hannounce, hannounce⟩
  | shared _ hinterval2 hannounce ih =>
      exact ⟨hinterval2.trans ih.interval2, hannounce.trans ih.announceInterval⟩
  | run _ ts ih => exact intervals_run ts ih

theorem run_ends {ts : UScaledNs} (h : Paced ts m.vars) :
    (behaviour ts).program.EndsWithin passes m.ready :=
  (ranking ts).endsWithin_of_forall fun _ => h

theorem Reachable.run_ends {ts : UScaledNs} (h : Reachable interval m)
    (hpositive : 0 < interval.toNat) (hwrap : NoWrap ts interval) :
    (behaviour ts).program.EndsWithin passes m.ready := by
  obtain ⟨hinterval2, hannounce⟩ := h.intervals
  refine PortAnnounceTransmitMachine.run_ends
    ⟨hinterval2.trans hannounce.symm, ?_, ?_⟩
  · rw [hannounce]
    exact hpositive
  · rw [hannounce]
    exact hwrap

end PortAnnounceTransmitMachine

/-!
## The selection of the port states
-/

namespace PortStateSelectionSM

open PortStateSelectionSMState

/-- An upper bound on the changes of state that are to come. -/
def rank (state : PortStateSelectionSMState) (_ : PortStateSelectionSM) : Nat :=
  match state with
  | init => 2
  | initBridge => 1
  | stateSelection => 0

theorem rank_leads {state next : PortStateSelectionSMState}
    {sm : PortStateSelectionSM}
    (h : program.Leads state (program.action state sm) next) :
    rank next (program.action state sm) < rank state sm := by
  cases state with
  | init =>
      rcases h with ⟨hgoto, _⟩ | hreenter
      · cases hgoto
        exact Nat.lt_succ_self 1
      · cases hreenter
  | initBridge =>
      rcases h with ⟨hgoto, _⟩ | hreenter
      · cases hgoto
        exact Nat.one_pos
      · cases hreenter
  | stateSelection =>
      have hsettles : program.transition stateSelection
          (program.action stateSelection sm) = .ok (.goto stateSelection) :=
        transition_stateSelectionAction sm
      rcases h with ⟨hgoto, hne⟩ | hreenter
      · rw [hsettles] at hgoto
        cases hgoto
        exact absurd rfl hne
      · rw [hsettles] at hreenter
        cases hreenter

def ranking : Program.Ranking program 7 where
  Enters _ _ := True
  rank := rank
  leads _ _ _ _ _ hleads := ⟨trivial, rank_leads hleads⟩
  bounded s _ := by
    cases s <;> exact Nat.lt_of_sub_pos (Nat.succ_pos _)

end PortStateSelectionSM

theorem PortStateSelectionMachine.run_ends (m : PortStateSelectionMachine) :
    PortStateSelectionSM.program.EndsWithin passes m.ready :=
  PortStateSelectionSM.ranking.endsWithin_of_forall fun _ => trivial

end TimeSync
end Ziggo
