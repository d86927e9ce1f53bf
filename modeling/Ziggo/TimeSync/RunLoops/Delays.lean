import Ziggo.Foundation.Termination
import Ziggo.TimeSync.MDPdelayReqSM.Exchange
import Ziggo.TimeSync.MDPdelayRespSM.Response

/-!
# The run loops of the machines for link delays

A requester sends at most one request in a run, since the interval to the next
one begins with it.  A responder consumes a request or a timestamp in every
change of its state.
-/

namespace Ziggo
namespace TimeSync

open Foundation TsnDrivers

/-!
## Requests
-/

namespace MDPdelayReqSM

open MDPdelayReqSMState

variable {ts : UScaledNs} {sm sm' : MDPdelayReqSM}

/-- The changes of state to come, which are four more before a new request. -/
def exchangeRank (sm : MDPdelayReqSM) (ts : UScaledNs) (n : Nat) : Nat :=
  if sm.intervalElapsed ts then n + 4 else n

/-- An upper bound on the changes of state that are to come. -/
def rank (ts : UScaledNs) (state : MDPdelayReqSMState) (sm : MDPdelayReqSM) :
    Nat :=
  match state with
  | init => 5
  | notEnabled => 4
  | initialSendPdelayReq => 3
  | sendPdelayReq => 3
  | waitingForPdelayResp => sm.exchangeRank ts 2
  | waitingForPdelayRespFollowUp => sm.exchangeRank ts 1
  | waitingForPdelayIntervalTimer => sm.exchangeRank ts 0
  | reset => sm.exchangeRank ts 0

theorem exchangeRank_elapsed (h : sm.intervalElapsed ts = true) (n : Nat) :
    sm.exchangeRank ts n = n + 4 :=
  if_pos h

theorem exchangeRank_running (h : sm.intervalElapsed ts ≠ true) (n : Nat) :
    sm.exchangeRank ts n = n :=
  if_neg h

theorem exchangeRank_le (n : Nat) : sm.exchangeRank ts n ≤ n + 4 := by
  unfold exchangeRank
  split
  · exact Nat.le_refl _
  · exact Nat.le_add_right n 4

theorem rank_lt (ts : UScaledNs) (state : MDPdelayReqSMState)
    (sm : MDPdelayReqSM) : rank ts state sm < 15 := by
  cases state with
  | waitingForPdelayResp =>
      exact Nat.lt_of_le_of_lt (exchangeRank_le 2) (by decide)
  | waitingForPdelayRespFollowUp =>
      exact Nat.lt_of_le_of_lt (exchangeRank_le 1) (by decide)
  | waitingForPdelayIntervalTimer =>
      exact Nat.lt_of_le_of_lt (exchangeRank_le 0) (by decide)
  | reset => exact Nat.lt_of_le_of_lt (exchangeRank_le 0) (by decide)
  | _ =>
      unfold rank
      dsimp only
      decide

/-- What the length of an interval and its beginning say about its end. -/
theorem exchangeRank_congr
    (htimer : sm'.pdelayIntervalTimer = sm.pdelayIntervalTimer)
    (hsettings : sm'.settings = sm.settings) (n : Nat) :
    sm'.exchangeRank ts n = sm.exchangeRank ts n := by
  have hinterval : sm'.mdEntityGlobal.pdelayReqInterval =
      sm.mdEntityGlobal.pdelayReqInterval :=
    congrArg Settings.pdelayReqInterval hsettings
  unfold exchangeRank intervalElapsed
  rw [htimer, hinterval]

/-- The interval to the next request begins with a request. -/
theorem not_elapsed_of_sent (htimer : sm.pdelayIntervalTimer = ts)
    (hpositive : 0 < sm.mdEntityGlobal.pdelayReqInterval.toNat) :
    sm.intervalElapsed ts ≠ true := by
  have hin : (MDPdelayReqMachine.Exchange.ofVars sm).InTime ts := by
    constructor
    · exact Nat.le_of_eq (congrArg UScaledNs.toNat htimer)
    · change ts.toNat - sm.pdelayIntervalTimer.toNat < _
      rw [htimer, Nat.sub_self]
      exact hpositive
  rw [MDPdelayReqMachine.intervalElapsed_inTime hin]
  decide

theorem rank_waitingForPdelayResp {next : MDPdelayReqSMState}
    (hnext : sm.waitingForPdelayRespStateTransition ts = .ok next)
    (hne : next ≠ waitingForPdelayResp) :
    rank ts next sm < sm.exchangeRank ts 2 := by
  unfold waitingForPdelayRespStateTransition at hnext
  split at hnext
  case isTrue helapsed =>
    cases hnext
    change sm.exchangeRank ts 0 < _
    rw [exchangeRank_elapsed helapsed, exchangeRank_elapsed helapsed]
    decide
  case isFalse hrunning =>
    rw [exchangeRank_running hrunning]
    split at hnext
    · obtain ⟨_, _, hrest⟩ := bind_eq_ok.mp hnext
      obtain ⟨_, _, hlast⟩ := bind_eq_ok.mp hrest
      split at hlast
      · cases hlast
        change sm.exchangeRank ts 1 < 2
        rw [exchangeRank_running hrunning]
        decide
      · cases hlast
        change sm.exchangeRank ts 0 < 2
        rw [exchangeRank_running hrunning]
        decide
    · cases hnext
      exact absurd rfl hne

theorem rank_waitingForPdelayRespFollowUp {next : MDPdelayReqSMState}
    (hnext : sm.waitingForPdelayRespFollowUpStateTransition ts = .ok next)
    (hne : next ≠ waitingForPdelayRespFollowUp) :
    rank ts next sm < sm.exchangeRank ts 1 := by
  unfold waitingForPdelayRespFollowUpStateTransition at hnext
  split at hnext
  case isTrue helapsed =>
    cases hnext
    change sm.exchangeRank ts 0 < _
    rw [exchangeRank_elapsed helapsed, exchangeRank_elapsed helapsed]
    decide
  case isFalse hrunning =>
    rw [exchangeRank_running hrunning]
    obtain ⟨_, _, hrest⟩ := bind_eq_ok.mp hnext
    split at hrest
    · cases hrest
      change sm.exchangeRank ts 0 < 1
      rw [exchangeRank_running hrunning]
      decide
    · obtain ⟨_, _, hlast⟩ := bind_eq_ok.mp hrest
      split at hlast
      · cases hlast
        change sm.exchangeRank ts 0 < 1
        rw [exchangeRank_running hrunning]
        decide
      · cases hlast
        exact absurd rfl hne

/-- Each change of state leaves fewer of them to come. -/
theorem rank_transition {state next : MDPdelayReqSMState}
    (hpositive : 0 < sm.mdEntityGlobal.pdelayReqInterval.toNat)
    (haction : action ts state sm = .ok sm')
    (hnext : transition ts state sm' = .ok next) (hne : next ≠ state) :
    rank ts next sm' < rank ts state sm := by
  cases state with
  | init =>
      cases hnext
      exact Nat.lt_succ_self 4
  | notEnabled =>
      cases notEnabled_left hnext hne
      exact Nat.lt_succ_self 3
  | initialSendPdelayReq =>
      cases haction
      rcases initialSendPdelayReq_left hnext hne with ⟨rfl, _⟩
      have hrunning :
          (sm.initialSendPdelayReqAction ts).intervalElapsed ts ≠ true :=
        not_elapsed_of_sent rfl hpositive
      change exchangeRank _ ts 2 < 3
      rw [exchangeRank_running hrunning]
      exact Nat.lt_succ_self 2
  | waitingForPdelayResp =>
      cases haction
      exact rank_waitingForPdelayResp hnext hne
  | waitingForPdelayRespFollowUp =>
      cases haction
      exact rank_waitingForPdelayRespFollowUp hnext hne
  | waitingForPdelayIntervalTimer =>
      have hdata := exchangeData_waitingForPdelayIntervalTimerAction haction
      have hsame : sm'.exchangeRank ts 0 = sm.exchangeRank ts 0 :=
        exchangeRank_congr (congrArg ExchangeData.pdelayIntervalTimer hdata)
          (settings_action haction) 0
      rcases waitingForPdelayIntervalTimer_left hnext hne with ⟨rfl, helapsed⟩
      change 3 < sm.exchangeRank ts 0
      rw [← hsame, exchangeRank_elapsed helapsed]
      exact Nat.lt_succ_self 3
  | reset =>
      have htimer : sm'.pdelayIntervalTimer = sm.pdelayIntervalTimer := by
        cases haction
        unfold resetAction
        dsimp only
        split <;> rfl
      have hsame : sm'.exchangeRank ts 0 = sm.exchangeRank ts 0 :=
        exchangeRank_congr htimer (settings_action haction) 0
      rcases reset_left hnext hne with ⟨rfl, helapsed⟩
      change 3 < sm.exchangeRank ts 0
      rw [← hsame, exchangeRank_elapsed helapsed]
      exact Nat.lt_succ_self 3
  | sendPdelayReq =>
      cases haction
      rcases sendPdelayReq_left hnext hne with ⟨rfl, _⟩
      have hrunning : (sm.sendPdelayReqAction ts).intervalElapsed ts ≠ true :=
        not_elapsed_of_sent rfl hpositive
      change exchangeRank _ ts 2 < 3
      rw [exchangeRank_running hrunning]
      exact Nat.lt_succ_self 2

theorem positive_action {state : MDPdelayReqSMState}
    (hpositive : 0 < sm.mdEntityGlobal.pdelayReqInterval.toNat)
    (haction : action ts state sm = .ok sm') :
    0 < sm'.mdEntityGlobal.pdelayReqInterval.toNat := by
  have hinterval : sm'.mdEntityGlobal.pdelayReqInterval =
      sm.mdEntityGlobal.pdelayReqInterval :=
    congrArg Settings.pdelayReqInterval (settings_action haction)
  rw [hinterval]
  exact hpositive

def ranking (ts : UScaledNs) : Program.Ranking (behaviour ts).program 15 :=
  (behaviour ts).ranking
    (fun sm => 0 < sm.mdEntityGlobal.pdelayReqInterval.toNat) (rank ts)
    (fun _ _ _ => positive_action) (fun _ _ _ _ => rank_transition) (rank_lt ts)

end MDPdelayReqSM

theorem MDPdelayReqMachine.run_ends {m : MDPdelayReqMachine} (ts : UScaledNs)
    (h : 0 < m.vars.mdEntityGlobal.pdelayReqInterval.toNat) :
    (MDPdelayReqSM.behaviour ts).program.EndsWithin passes m.ready :=
  (MDPdelayReqSM.ranking ts).endsWithin_of_forall fun _ => h

/-!
## Responses
-/

namespace MDPdelayRespSM

open MDPdelayRespSMState

variable {sm sm' : MDPdelayRespSM}

/-- An upper bound on the changes of state that are to come. -/
def rank (state : MDPdelayRespSMState) (sm : MDPdelayRespSM) : Nat :=
  match state with
  | init => 2
  | notEnabled => 1
  | initialWaitingForPdelayReq => 0
  | sentPdelayRespWaitingForTimestamp =>
      if sm.rcvdMDTimestampReceiveMDPResp then 1 else 0
  | waitingForPdelayReq => if sm.rcvdPdelayReq then 1 else 0

theorem rank_lt (state : MDPdelayRespSMState) (sm : MDPdelayRespSM) :
    rank state sm < 15 := by
  unfold rank
  cases state <;> dsimp only <;> (try split) <;> decide

/-- Each change of state leaves fewer of them to come. -/
theorem rank_transition {state next : MDPdelayRespSMState}
    (haction : action state sm = .ok sm')
    (hnext : transition state sm' = .ok next) (hne : next ≠ state) :
    rank next sm' < rank state sm := by
  cases state with
  | init =>
      cases hnext
      exact Nat.lt_succ_self 1
  | notEnabled =>
      cases notEnabled_left hnext hne
      exact Nat.one_pos
  | initialWaitingForPdelayReq =>
      cases haction
      cases hnext
      exact absurd rfl hne
  | sentPdelayRespWaitingForTimestamp =>
      obtain ⟨req, _, rfl⟩ := sentAction_cases haction
      rcases sentPdelayRespWaitingForTimestamp_left hnext hne with
        ⟨rfl, htimestamp⟩
      change 0 < if sm.rcvdMDTimestampReceiveMDPResp then 1 else 0
      have hreceived : sm.rcvdMDTimestampReceiveMDPResp = true := htimestamp
      rw [if_pos hreceived]
      exact Nat.one_pos
  | waitingForPdelayReq =>
      obtain ⟨req, _, rfl⟩ := waitingAction_cases haction
      rcases waitingForPdelayReq_left hnext hne with ⟨rfl, hreq⟩
      change 0 < if sm.rcvdPdelayReq then 1 else 0
      have hreceived : sm.rcvdPdelayReq = true := hreq
      rw [if_pos hreceived]
      exact Nat.one_pos

def ranking : Program.Ranking behaviour.program 15 :=
  behaviour.ranking (fun _ => True) rank (fun _ _ _ _ _ => trivial)
    (fun _ _ _ _ _ => rank_transition) rank_lt

end MDPdelayRespSM

theorem MDPdelayRespMachine.run_ends (m : MDPdelayRespMachine) :
    MDPdelayRespSM.behaviour.program.EndsWithin passes m.ready :=
  MDPdelayRespSM.ranking.endsWithin_of_forall fun _ => trivial

end TimeSync
end Ziggo
