import Ziggo.TimeSync.ElapsedTimes
import Ziggo.TimeSync.MDPdelayReqSM.Invariant

/-!
# Completion of an exchange

An exchange is undisturbed if the timestamp of its `Pdelay_Req`, the answer of
the peer and the follow-up arrive in this order and in time, with nothing but
timer runs between them.  This module follows an undisturbed exchange through
the states of the machine and determines when it completes.
-/

namespace Ziggo
namespace TimeSync

open Foundation TsnDrivers

namespace MDPdelayReqMachine

open MDPdelayReqSM

/-- What identifies an exchange and limits its duration. -/
structure Exchange where
  sequenceId : UInt16
  portId : PortIdentity
  sentAt : UScaledNs
  interval : UScaledNs

namespace Exchange

/-- The exchange that a machine has under way. -/
def ofVars (sm : MDPdelayReqSM) : Exchange where
  sequenceId := sm.pdelayReqSequenceId
  portId := sm.portId
  sentAt := sm.pdelayIntervalTimer
  interval := sm.mdEntityGlobal.pdelayReqInterval

/-- The exchange that a `Pdelay_Req` opens, by what the message says. -/
def ofReq (sm : MDPdelayReqSM) (req : PTPMsgPdelayReq) : Exchange where
  sequenceId := req.head.sequenceId
  portId := req.head.sourcePortIdentity
  sentAt := sm.pdelayIntervalTimer
  interval := sm.mdEntityGlobal.pdelayReqInterval

/-- A time after the request was sent and before the interval has elapsed. -/
def InTime (x : Exchange) (ts : UScaledNs) : Prop :=
  x.sentAt.toNat ≤ ts.toNat ∧ ts.toNat - x.sentAt.toNat < x.interval.toNat

instance (x : Exchange) (ts : UScaledNs) : Decidable (x.InTime ts) :=
  inferInstanceAs (Decidable (_ ∧ _))

end Exchange

theorem intervalElapsed_inTime {sm : MDPdelayReqSM} {ts : UScaledNs}
    (h : (Exchange.ofVars sm).InTime ts) : sm.intervalElapsed ts = false := by
  rw [← Bool.not_eq_true, MDPdelayReqSM.intervalElapsed_iff h.left]
  exact not_le.mpr h.right

structure Undisturbed (x : Exchange) where
  runsBeforeTimestamp : List UScaledNs
  timestampAt : UScaledNs
  timestamp : TSUTimestamp
  runsBeforeResp : List UScaledNs
  respAt : UScaledNs
  respTimestamp : TSUTimestamp
  resp : PTPMsgPdelayResp
  runsBeforeFollowUp : List UScaledNs
  followUpAt : UScaledNs
  followUp : PTPMsgPdelayRespFollowUp
  timestamp_sequenceId : timestamp.sequenceID = x.sequenceId
  resp_sequenceId : resp.head.sequenceId = x.sequenceId
  resp_requesting : resp.requestingPortIdentity = x.portId
  followUp_sequenceId : followUp.head.sequenceId = x.sequenceId
  followUp_source :
    followUp.head.sourcePortIdentity = resp.head.sourcePortIdentity
  runsBeforeTimestamp_inTime : forall ts, ts ∈ runsBeforeTimestamp -> x.InTime ts
  timestamp_inTime : x.InTime timestampAt
  runsBeforeResp_inTime : forall ts, ts ∈ runsBeforeResp -> x.InTime ts
  resp_inTime : x.InTime respAt
  runsBeforeFollowUp_inTime : forall ts, ts ∈ runsBeforeFollowUp -> x.InTime ts
  followUp_inTime : x.InTime followUpAt

def Undisturbed.events {x : Exchange} (u : Undisturbed x) : List Event :=
  u.runsBeforeTimestamp.map .run ++
    (.txts u.timestampAt u.timestamp :: u.runsBeforeResp.map .run) ++
    (.recvResp u.respAt u.respTimestamp u.resp ::
      u.runsBeforeFollowUp.map .run) ++
    [.recvRespFollowUp u.followUpAt u.followUp]

/-!
## Phases
-/

/-- The machine is at rest in a running process with the exchange under way. -/
structure Engaged (x : Exchange) (m : MDPdelayReqMachine) : Prop where
  running : m.vars.process.stop = none
  quiescent : m.Quiescent
  enabled : m.vars.Enabled
  exchange : Exchange.ofVars m.vars = x

/-- A `Pdelay_Resp_Follow_Up` with the sequence number of the exchange waits. -/
def FollowUpPending (sm : MDPdelayReqSM) (n : UInt16) : Prop :=
  sm.rcvdPdelayRespFollowUp = true ∧
    exists followUp, sm.rcvdPdelayRespFollowUpPtr = .live followUp ∧
      followUp.head.sequenceId = n

/-- The answer is still to come, and nothing stands in for it. -/
structure AwaitingResp (x : Exchange) (m : MDPdelayReqMachine) : Prop
    extends Engaged x m where
  state : m.state = .waitingForPdelayResp
  rcvdPdelayResp : m.vars.rcvdPdelayResp = false
  outstanding : m.vars.Outstanding
  followUpStored : m.vars.FollowUpStored

structure AwaitingFollowUp (x : Exchange) (m : MDPdelayReqMachine) : Prop
    extends Engaged x m where
  state : m.state = .waitingForPdelayRespFollowUp
  rcvdPdelayResp : m.vars.rcvdPdelayResp = false
  outstanding : m.vars.Outstanding
  followUpStored : m.vars.FollowUpStored
  answered : exists resp, m.vars.rcvdPdelayRespPtr = .live resp ∧
    m.vars.Answers resp
  notPending : ¬ FollowUpPending m.vars x.sequenceId

/-- The exchange has failed, or the process has ended before it completed. -/
def Missed (x : Exchange) (m : MDPdelayReqMachine) : Prop :=
  (Engaged x m ∧ m.state = .reset) ∨
    (m.vars.process.stop ≠ none ∧ m.state ≠ .waitingForPdelayIntervalTimer)

/-- The machine has entered the last state of the exchange. -/
structure Completed (x : Exchange) (m : MDPdelayReqMachine) : Prop where
  state : m.state = .waitingForPdelayIntervalTimer
  sequenceId : m.vars.pdelayReqSequenceId = x.sequenceId
  engaged : m.vars.process.stop = none -> Engaged x m

theorem Missed.not_completed {x : Exchange} {m : MDPdelayReqMachine}
    (h : Missed x m) : m.state ≠ .waitingForPdelayIntervalTimer := by
  rcases h with ⟨_, hstate⟩ | ⟨_, hstate⟩
  · rw [hstate]
    simp
  · exact hstate

/-!
## Timer runs in time
-/

theorem run_idle {m : MDPdelayReqMachine} {ts : UScaledNs}
    (hrunning : m.vars.process.stop = none) (hq : m.Quiescent)
    (henabled : m.vars.Enabled)
    (hstay : transition ts m.state m.vars = .ok m.state) : m.run ts = m := by
  unfold run
  rw [ready_enabled henabled]
  exact Behaviour.run_rest 15 hq hrunning hstay

theorem runEvents_idle {m : MDPdelayReqMachine} {tss : List UScaledNs}
    (h : forall ts, ts ∈ tss -> step m (.run ts) = m) :
    runEvents step m (tss.map .run) = m := by
  induction tss with
  | nil => rfl
  | cons ts tss ih =>
      rw [List.map_cons, runEvents_cons, h ts List.mem_cons_self]
      exact ih fun ts' hmem => h ts' (List.mem_cons_of_mem ts hmem)

/-!
## Entering a state in time
-/

section Entering

variable {x : Exchange} {ts : UScaledNs} {sm : MDPdelayReqSM}
  {last : MDPdelayReqSMState}

theorem not_quiescent {state : MDPdelayReqSMState} (h : last ≠ state) :
    ¬ Machine.Quiescent
      { state := state, lastState := some last, vars := sm } := by
  intro hq
  exact h (Option.some.inj hq)

theorem ofVars_eq {sm' : MDPdelayReqSM} (h : sm'.settings = sm.settings)
    (htimer : sm'.pdelayIntervalTimer = sm.pdelayIntervalTimer)
    (hsequenceId : sm'.pdelayReqSequenceId = sm.pdelayReqSequenceId) :
    Exchange.ofVars sm' = Exchange.ofVars sm := by
  have hinterval : sm'.mdEntityGlobal.pdelayReqInterval =
      sm.mdEntityGlobal.pdelayReqInterval :=
    congrArg Settings.pdelayReqInterval h
  unfold Exchange.ofVars
  rw [portId_of_settings h, htimer, hsequenceId, hinterval]

theorem completed_of_entering (fuel : Nat)
    (hlast : last ≠ .waitingForPdelayIntervalTimer)
    (hrunning : sm.process.stop = none) (henabled : sm.Enabled)
    (hx : Exchange.ofVars sm = x) (hin : x.InTime ts) :
    Completed x
      ((behaviour ts).program.run (fuel + 1)
        { state := .waitingForPdelayIntervalTimer, lastState := some last,
          vars := sm }) := by
  have hsequenceId : sm.pdelayReqSequenceId = x.sequenceId :=
    congrArg Exchange.sequenceId hx
  cases haction : sm.waitingForPdelayIntervalTimerAction with
  | error f =>
      rw [Behaviour.run_enter_fail fuel (not_quiescent hlast) haction]
      exact ⟨rfl, hsequenceId, fun h => absurd h ((behaviour ts).fault_halt f sm)⟩
  | ok sm' =>
      have hdata := exchangeData_waitingForPdelayIntervalTimerAction haction
      have hsettings : sm'.settings = sm.settings :=
        congrArg ExchangeData.settings hdata
      have hx' : Exchange.ofVars sm' = x :=
        (ofVars_eq hsettings (congrArg ExchangeData.pdelayIntervalTimer hdata)
          (congrArg ExchangeData.pdelayReqSequenceId hdata)).trans hx
      have hrunning' : sm'.process.stop = none :=
        (congrArg (fun data => data.process.stop) hdata).trans hrunning
      have hstay : transition ts .waitingForPdelayIntervalTimer sm' =
          .ok .waitingForPdelayIntervalTimer := by
        have helapsed := intervalElapsed_inTime (by rw [hx']; exact hin)
        simp [transition, waitingForPdelayIntervalTimerStateTransition,
          helapsed]
      rw [Behaviour.run_enter_rest fuel (not_quiescent hlast) haction hrunning'
        hstay]
      exact ⟨rfl, congrArg Exchange.sequenceId hx', fun _ =>
        ⟨hrunning', rfl, enabled_of_settings hsettings henabled, hx'⟩⟩

theorem resetAction_data (sm : MDPdelayReqSM) :
    sm.resetAction.exchangeData =
      { sm.exchangeData with rcvdPdelayResp := false } := by
  unfold resetAction
  dsimp only
  split <;> rfl

theorem missed_of_entering (fuel : Nat) (hlast : last ≠ .reset)
    (hrunning : sm.process.stop = none) (henabled : sm.Enabled)
    (hx : Exchange.ofVars sm = x) (hin : x.InTime ts) :
    Missed x
      ((behaviour ts).program.run (fuel + 1)
        { state := .reset, lastState := some last, vars := sm }) := by
  have hdata := resetAction_data sm
  have hsettings : sm.resetAction.settings = sm.settings :=
    congrArg ExchangeData.settings hdata
  have hx' : Exchange.ofVars sm.resetAction = x :=
    (ofVars_eq hsettings (congrArg ExchangeData.pdelayIntervalTimer hdata)
      (congrArg ExchangeData.pdelayReqSequenceId hdata)).trans hx
  have hrunning' : sm.resetAction.process.stop = none :=
    (congrArg (fun data => data.process.stop) hdata).trans hrunning
  have hstay : transition ts .reset sm.resetAction = .ok .reset := by
    have helapsed := intervalElapsed_inTime (by rw [hx']; exact hin)
    simp [transition, resetStateTransition, helapsed]
  rw [Behaviour.run_enter_rest fuel (not_quiescent hlast) rfl hrunning' hstay]
  exact Or.inl
    ⟨⟨hrunning', rfl, enabled_of_settings hsettings henabled, hx'⟩, rfl⟩

theorem respFollowUpAccepted_eq {resp : PTPMsgPdelayResp}
    (hresp : sm.rcvdPdelayRespPtr = .live resp) (hanswers : sm.Answers resp)
    (houtstanding : sm.Outstanding) (hstored : sm.FollowUpStored) :
    exists accepted, sm.respFollowUpAccepted = .ok accepted ∧
      (accepted = true <-> FollowUpPending sm sm.pdelayReqSequenceId) := by
  cases hflag : sm.rcvdPdelayRespFollowUp with
  | false =>
      refine ⟨false, respFollowUpAccepted_absent hflag, ?_⟩
      simp [FollowUpPending, hflag]
  | true =>
      rcases hstored hflag with ⟨followUp, hfollowUp⟩
      refine ⟨_, respFollowUpAccepted_stored hflag hfollowUp hresp
        houtstanding, ?_⟩
      simp [FollowUpPending, hflag, hfollowUp, hanswers.right]

/-- Entering the second waiting state with the answer at hand. -/
theorem followUp_of_entering (fuel : Nat)
    (hlast : last ≠ .waitingForPdelayRespFollowUp)
    (hrunning : sm.process.stop = none) (henabled : sm.Enabled)
    (hx : Exchange.ofVars sm = x) (hin : x.InTime ts)
    {resp : PTPMsgPdelayResp} (hresp : sm.rcvdPdelayRespPtr = .live resp)
    (hanswers : sm.Answers resp) (houtstanding : sm.Outstanding)
    (hstored : sm.FollowUpStored) :
    let m := (behaviour ts).program.run (fuel + 2)
      { state := .waitingForPdelayRespFollowUp, lastState := some last,
        vars := sm }
    (FollowUpPending sm x.sequenceId -> Completed x m) ∧
      (¬ FollowUpPending sm x.sequenceId -> AwaitingFollowUp x m) := by
  intro m
  have hn : sm.pdelayReqSequenceId = x.sequenceId :=
    congrArg Exchange.sequenceId hx
  have helapsed : sm.waitingForPdelayRespFollowUpAction.intervalElapsed ts =
      false :=
    intervalElapsed_inTime (by rw [← hx] at hin; exact hin)
  have haccepted :
      exists accepted,
        sm.waitingForPdelayRespFollowUpAction.respFollowUpAccepted =
            .ok accepted ∧
          (accepted = true <-> FollowUpPending sm sm.pdelayReqSequenceId) :=
    @respFollowUpAccepted_eq sm.waitingForPdelayRespFollowUpAction resp
      hresp hanswers houtstanding hstored
  rcases haccepted with ⟨accepted, haccepted, hiff⟩
  rw [hn] at hiff
  have hnext : transition ts .waitingForPdelayRespFollowUp
      sm.waitingForPdelayRespFollowUpAction =
        .ok (if false then .reset
          else if accepted then .waitingForPdelayIntervalTimer
          else .waitingForPdelayRespFollowUp) :=
    waitingForPdelayRespFollowUp_next helapsed (duplicateResp_absent rfl)
      haccepted
  cases accepted with
  | true =>
      refine ⟨fun _ => ?_, fun h => absurd (hiff.mp rfl) h⟩
      change Completed x (Program.run _ (fuel + 1 + 1) _)
      rw [Behaviour.run_enter_leave (fuel + 1) (not_quiescent hlast) rfl
        hrunning hnext (by simp)]
      exact completed_of_entering fuel (by simp) hrunning henabled hx hin
  | false =>
      refine ⟨fun h => absurd (hiff.mpr h) (by simp), fun h => ?_⟩
      change AwaitingFollowUp x (Program.run _ (fuel + 1 + 1) _)
      rw [Behaviour.run_enter_rest (fuel + 1) (not_quiescent hlast) rfl
        hrunning hnext]
      exact ⟨⟨hrunning, rfl, henabled, hx⟩, rfl, rfl, houtstanding, hstored,
        ⟨resp, hresp, hanswers⟩, h⟩

/-- Entering the first waiting state, where an earlier answer may be at hand. -/
theorem resp_of_entering (fuel : Nat) (hlast : last ≠ .waitingForPdelayResp)
    (hrunning : sm.process.stop = none) (henabled : sm.Enabled)
    (hx : Exchange.ofVars sm = x) (hin : x.InTime ts)
    (houtstanding : sm.Outstanding) (hstored : sm.FollowUpStored) :
    let m := (behaviour ts).program.run (fuel + 3)
      { state := .waitingForPdelayResp, lastState := some last, vars := sm }
    (sm.rcvdPdelayResp = false -> AwaitingResp x m) ∧
      (forall resp, sm.rcvdPdelayResp = true ->
        sm.rcvdPdelayRespPtr = .live resp -> sm.Answers resp ->
        (FollowUpPending sm x.sequenceId -> Completed x m) ∧
          (¬ FollowUpPending sm x.sequenceId -> AwaitingFollowUp x m)) ∧
      (sm.rcvdPdelayResp = true ->
        (forall resp, sm.rcvdPdelayRespPtr = .live resp -> ¬ sm.Answers resp) ->
        Missed x m) := by
  intro m
  have helapsed : sm.waitingForPdelayRespAction.intervalElapsed ts = false :=
    intervalElapsed_inTime (by rw [← hx] at hin; exact hin)
  refine ⟨fun hflag => ?_, fun resp hflag hresp hanswers => ?_,
    fun hflag hnone => ?_⟩
  · have hnext : transition ts .waitingForPdelayResp
        sm.waitingForPdelayRespAction = .ok .waitingForPdelayResp :=
      waitingForPdelayResp_stay helapsed hflag
    change AwaitingResp x (Program.run _ (fuel + 2 + 1) _)
    rw [Behaviour.run_enter_rest (fuel + 2) (not_quiescent hlast) rfl hrunning
      hnext]
    exact ⟨⟨hrunning, rfl, henabled, hx⟩, rfl, hflag, houtstanding, hstored⟩
  · have hnext : transition ts .waitingForPdelayResp
        sm.waitingForPdelayRespAction = .ok .waitingForPdelayRespFollowUp :=
      waitingForPdelayResp_answers helapsed hflag hresp houtstanding hanswers
    have hm : m = (behaviour ts).program.run (fuel + 2)
        { state := .waitingForPdelayRespFollowUp,
          lastState := some .waitingForPdelayResp,
          vars := sm.waitingForPdelayRespAction } :=
      Behaviour.run_enter_leave (fuel + 2) (not_quiescent hlast) rfl hrunning
        hnext (by simp)
    have hne : MDPdelayReqSMState.waitingForPdelayResp ≠
        .waitingForPdelayRespFollowUp := by decide
    have hfollowUp := @followUp_of_entering x ts sm.waitingForPdelayRespAction
      .waitingForPdelayResp fuel hne hrunning henabled hx hin resp hresp
      hanswers houtstanding hstored
    rw [hm]
    exact hfollowUp
  · by_cases hlive : sm.rcvdPdelayRespPtr.IsLive
    · rcases hlive with ⟨resp, hresp⟩
      have hnext : transition ts .waitingForPdelayResp
          sm.waitingForPdelayRespAction = .ok .reset :=
        waitingForPdelayResp_mismatch helapsed hflag hresp houtstanding
          (hnone resp hresp)
      have hm : m = (behaviour ts).program.run (fuel + 2)
          { state := .reset, lastState := some .waitingForPdelayResp,
            vars := sm.waitingForPdelayRespAction } :=
        Behaviour.run_enter_leave (fuel + 2) (not_quiescent hlast) rfl hrunning
          hnext (by simp)
      have hne : MDPdelayReqSMState.waitingForPdelayResp ≠ .reset := by decide
      rw [hm]
      exact @missed_of_entering x ts sm.waitingForPdelayRespAction
        .waitingForPdelayResp (fuel + 1) hne hrunning henabled hx hin
    · have hnext : transition ts .waitingForPdelayResp
          sm.waitingForPdelayRespAction = .error .invalidPointer :=
        waitingForPdelayResp_invalid helapsed hflag hlive
      have hm : m =
          { state := .waitingForPdelayResp,
            lastState := some .waitingForPdelayResp,
            vars := sm.waitingForPdelayRespAction.halt .invalidPointer } :=
        Behaviour.run_enter_error (fuel + 2) (not_quiescent hlast) rfl hrunning
          hnext
      rw [hm]
      exact Or.inr ⟨by simp [MDPdelayReqSM.halt], by simp⟩

end Entering

/-!
## The events of the exchange
-/

section Events

variable {x : Exchange} {m : MDPdelayReqMachine} {ts : UScaledNs}

theorem Engaged.step_run (h : Engaged x m)
    (hstay : transition ts m.state m.vars = .ok m.state) :
    step m (.run ts) = m := by
  rw [step_running _ h.running]
  exact run_idle h.running h.quiescent h.enabled hstay

theorem Engaged.elapsed (h : Engaged x m) (hin : x.InTime ts) :
    m.vars.intervalElapsed ts = false :=
  intervalElapsed_inTime (by rw [h.exchange]; exact hin)

theorem AwaitingResp.step_run (h : AwaitingResp x m) (hin : x.InTime ts) :
    step m (.run ts) = m := by
  apply h.toEngaged.step_run
  rw [h.state]
  exact waitingForPdelayResp_stay (h.toEngaged.elapsed hin) h.rcvdPdelayResp

theorem AwaitingFollowUp.step_run (h : AwaitingFollowUp x m)
    (hin : x.InTime ts) : step m (.run ts) = m := by
  apply h.toEngaged.step_run
  rw [h.state]
  rcases h.answered with ⟨resp, hresp, hanswers⟩
  rcases respFollowUpAccepted_eq hresp hanswers h.outstanding h.followUpStored
    with ⟨accepted, haccepted, hiff⟩
  have hn : m.vars.pdelayReqSequenceId = x.sequenceId :=
    congrArg Exchange.sequenceId h.exchange
  have hfalse : accepted = false := by
    rw [hn] at hiff
    cases accepted with
    | false => rfl
    | true => exact absurd (hiff.mp rfl) h.notPending
  subst hfalse
  exact waitingForPdelayRespFollowUp_next (h.toEngaged.elapsed hin)
    (duplicateResp_absent h.rcvdPdelayResp) haccepted

theorem Missed.step_run (h : Missed x m) (hin : x.InTime ts) :
    step m (.run ts) = m := by
  rcases h with ⟨hengaged, hstate⟩ | ⟨hstop, _⟩
  · apply hengaged.step_run
    rw [hstate]
    simp [transition, resetStateTransition, hengaged.elapsed hin]
  · exact step_stopped _ hstop

theorem Completed.step_run (h : Completed x m) (hin : x.InTime ts) :
    step m (.run ts) = m := by
  by_cases hrunning : m.vars.process.stop = none
  · have hengaged := h.engaged hrunning
    apply hengaged.step_run
    rw [h.state]
    simp [transition, waitingForPdelayIntervalTimerStateTransition,
      hengaged.elapsed hin]
  · exact step_stopped _ hrunning

/-!
A message that comes when the exchange has completed or failed is stored and
changes nothing else.
-/

theorem Engaged.run_stored (h : Engaged x m) (sm : MDPdelayReqSM)
    (hdata : sm.settings = m.vars.settings)
    (htimer : sm.pdelayIntervalTimer = m.vars.pdelayIntervalTimer)
    (hsequenceId : sm.pdelayReqSequenceId = m.vars.pdelayReqSequenceId)
    (hprocess : sm.process = m.vars.process)
    (hstay : transition ts m.state sm = .ok m.state) :
    run { m with vars := sm } ts = { m with vars := sm } ∧
      Engaged x { m with vars := sm } := by
  have hrunning : sm.process.stop = none := by
    rw [hprocess]
    exact h.running
  have henabled : sm.Enabled := enabled_of_settings hdata h.enabled
  exact ⟨run_idle hrunning h.quiescent henabled hstay, hrunning, h.quiescent,
    henabled, (ofVars_eq hdata htimer hsequenceId).trans h.exchange⟩

theorem Engaged.storeRespTimestamp (h : Engaged x m) (t : TSUTimestamp) :
    Engaged x { m with vars := m.vars.storeRespTimestamp t } :=
  ⟨h.running, h.quiescent, h.enabled, h.exchange⟩

theorem Completed.storeRespTimestamp (h : Completed x m) (t : TSUTimestamp) :
    Completed x { m with vars := m.vars.storeRespTimestamp t } :=
  ⟨h.state, h.sequenceId, fun hrunning =>
    (h.engaged hrunning).storeRespTimestamp t⟩

theorem AwaitingFollowUp.storeRespTimestamp (h : AwaitingFollowUp x m)
    (t : TSUTimestamp) :
    AwaitingFollowUp x { m with vars := m.vars.storeRespTimestamp t } :=
  ⟨h.toEngaged.storeRespTimestamp t, h.state, h.rcvdPdelayResp, h.outstanding,
    h.followUpStored, h.answered, h.notPending⟩

theorem Missed.storeRespTimestamp (h : Missed x m) (t : TSUTimestamp) :
    Missed x { m with vars := m.vars.storeRespTimestamp t } := by
  rcases h with ⟨hengaged, hstate⟩ | ⟨hstop, hstate⟩
  · exact Or.inl ⟨hengaged.storeRespTimestamp t, hstate⟩
  · exact Or.inr ⟨hstop, hstate⟩

theorem Missed.step_recvResp (h : Missed x m) (hin : x.InTime ts)
    (t : TSUTimestamp) (resp : PTPMsgPdelayResp) :
    Missed x (step m (.recvResp ts t resp)) := by
  rcases h with ⟨hengaged, hstate⟩ | ⟨hstop, hstate⟩
  · have helapsed : (m.vars.storeResp resp).intervalElapsed ts = false :=
      hengaged.elapsed hin
    have hstay : transition ts m.state (m.vars.storeResp resp) =
        .ok m.state := by
      rw [hstate]
      simp [transition, resetStateTransition, helapsed]
    have hrun := hengaged.run_stored (m.vars.storeResp resp) rfl rfl rfl rfl
      hstay
    rw [step_running _ hengaged.running]
    change Missed x { run _ ts with vars := (run _ ts).vars.storeRespTimestamp t }
    rw [hrun.left]
    exact Or.inl ⟨hrun.right.storeRespTimestamp t, hstate⟩
  · rw [step_stopped _ hstop]
    exact Or.inr ⟨hstop, hstate⟩

theorem Missed.step_recvRespFollowUp (h : Missed x m) (hin : x.InTime ts)
    (followUp : PTPMsgPdelayRespFollowUp) :
    Missed x (step m (.recvRespFollowUp ts followUp)) := by
  rcases h with ⟨hengaged, hstate⟩ | ⟨hstop, hstate⟩
  · have helapsed :
        (m.vars.storeRespFollowUp followUp).intervalElapsed ts = false :=
      hengaged.elapsed hin
    have hstay : transition ts m.state (m.vars.storeRespFollowUp followUp) =
        .ok m.state := by
      rw [hstate]
      simp [transition, resetStateTransition, helapsed]
    have hrun := hengaged.run_stored (m.vars.storeRespFollowUp followUp) rfl rfl rfl rfl
      hstay
    rw [step_running _ hengaged.running]
    change Missed x (run _ ts)
    rw [hrun.left]
    exact Or.inl ⟨hrun.right, hstate⟩
  · rw [step_stopped _ hstop]
    exact Or.inr ⟨hstop, hstate⟩

theorem Completed.step_recvResp (h : Completed x m) (hin : x.InTime ts)
    (t : TSUTimestamp) (resp : PTPMsgPdelayResp) :
    Completed x (step m (.recvResp ts t resp)) := by
  by_cases hrunning : m.vars.process.stop = none
  · have hengaged := h.engaged hrunning
    have helapsed : (m.vars.storeResp resp).intervalElapsed ts = false :=
      hengaged.elapsed hin
    have hstay : transition ts m.state (m.vars.storeResp resp) =
        .ok m.state := by
      rw [h.state]
      simp [transition, waitingForPdelayIntervalTimerStateTransition, helapsed]
    have hrun := hengaged.run_stored (m.vars.storeResp resp) rfl rfl rfl rfl
      hstay
    rw [step_running _ hrunning]
    change Completed x
      { run _ ts with vars := (run _ ts).vars.storeRespTimestamp t }
    rw [hrun.left]
    exact ⟨h.state, h.sequenceId, fun _ => hrun.right.storeRespTimestamp t⟩
  · rw [step_stopped _ hrunning]
    exact h

theorem Completed.step_recvRespFollowUp (h : Completed x m) (hin : x.InTime ts)
    (followUp : PTPMsgPdelayRespFollowUp) :
    Completed x (step m (.recvRespFollowUp ts followUp)) := by
  by_cases hrunning : m.vars.process.stop = none
  · have hengaged := h.engaged hrunning
    have helapsed :
        (m.vars.storeRespFollowUp followUp).intervalElapsed ts = false :=
      hengaged.elapsed hin
    have hstay : transition ts m.state (m.vars.storeRespFollowUp followUp) =
        .ok m.state := by
      rw [h.state]
      simp [transition, waitingForPdelayIntervalTimerStateTransition, helapsed]
    have hrun := hengaged.run_stored (m.vars.storeRespFollowUp followUp) rfl rfl rfl rfl
      hstay
    rw [step_running _ hrunning]
    change Completed x (run _ ts)
    rw [hrun.left]
    exact ⟨h.state, h.sequenceId, fun _ => hrun.right⟩
  · rw [step_stopped _ hrunning]
    exact h

theorem Engaged.run_leave (h : Engaged x m) (sm : MDPdelayReqSM)
    (hdata : sm.settings = m.vars.settings)
    (hprocess : sm.process = m.vars.process) {next : MDPdelayReqSMState}
    (hnext : transition ts m.state sm = .ok next) (hne : m.state ≠ next) :
    run { m with vars := sm } ts =
      (behaviour ts).program.run 15
        { state := next, lastState := some m.state, vars := sm } := by
  have hrunning : sm.process.stop = none := by
    rw [hprocess]
    exact h.running
  have henabled : sm.Enabled := enabled_of_settings hdata h.enabled
  unfold run
  rw [@ready_enabled { m with vars := sm } henabled]
  exact Behaviour.run_leave 15 h.quiescent hrunning hnext hne

theorem Engaged.answers (h : Engaged x m) {resp : PTPMsgPdelayResp}
    (hsequenceId : resp.head.sequenceId = x.sequenceId)
    (hrequesting : resp.requestingPortIdentity = x.portId) :
    m.vars.Answers resp := by
  refine ⟨hsequenceId.trans ?_, hrequesting.trans ?_⟩
  · exact (congrArg Exchange.sequenceId h.exchange).symm
  · exact (congrArg Exchange.portId h.exchange).symm

theorem AwaitingResp.step_recvResp (h : AwaitingResp x m) (hin : x.InTime ts)
    (t : TSUTimestamp) {resp : PTPMsgPdelayResp}
    (hsequenceId : resp.head.sequenceId = x.sequenceId)
    (hrequesting : resp.requestingPortIdentity = x.portId) :
    Completed x (step m (.recvResp ts t resp)) ∨
      AwaitingFollowUp x (step m (.recvResp ts t resp)) := by
  have hanswers : (m.vars.storeResp resp).Answers resp :=
    h.toEngaged.answers hsequenceId hrequesting
  have houtstanding : (m.vars.storeResp resp).Outstanding := h.outstanding
  have helapsed : (m.vars.storeResp resp).intervalElapsed ts = false :=
    h.toEngaged.elapsed hin
  have hnext : transition ts m.state (m.vars.storeResp resp) =
      .ok .waitingForPdelayRespFollowUp := by
    rw [h.state]
    exact waitingForPdelayResp_answers helapsed rfl rfl houtstanding hanswers
  have hne : m.state ≠ .waitingForPdelayRespFollowUp := by
    rw [h.state]
    decide
  have hrun := h.toEngaged.run_leave (m.vars.storeResp resp) rfl rfl hnext hne
  have hentered := @followUp_of_entering x ts (m.vars.storeResp resp) m.state
    13 hne h.running h.enabled h.exchange hin resp rfl hanswers houtstanding
    h.followUpStored
  rw [step_running _ h.running]
  change Completed x
      { run _ ts with vars := (run _ ts).vars.storeRespTimestamp t } ∨
    AwaitingFollowUp x
      { run _ ts with vars := (run _ ts).vars.storeRespTimestamp t }
  rw [hrun]
  by_cases hpending :
      FollowUpPending (m.vars.storeResp resp) x.sequenceId
  · exact Or.inl ((hentered.left hpending).storeRespTimestamp t)
  · exact Or.inr ((hentered.right hpending).storeRespTimestamp t)

/-- A second answer puts an end to the exchange. -/
theorem AwaitingFollowUp.step_recvResp (h : AwaitingFollowUp x m)
    (hin : x.InTime ts) (t : TSUTimestamp) {resp : PTPMsgPdelayResp}
    (hsequenceId : resp.head.sequenceId = x.sequenceId)
    (hrequesting : resp.requestingPortIdentity = x.portId) :
    Missed x (step m (.recvResp ts t resp)) := by
  have hanswers : (m.vars.storeResp resp).Answers resp :=
    h.toEngaged.answers hsequenceId hrequesting
  have houtstanding : (m.vars.storeResp resp).Outstanding := h.outstanding
  have hstored : (m.vars.storeResp resp).FollowUpStored := h.followUpStored
  have helapsed : (m.vars.storeResp resp).intervalElapsed ts = false :=
    h.toEngaged.elapsed hin
  have hduplicate : (m.vars.storeResp resp).duplicateResp = .ok true :=
    (@duplicateResp_stored (m.vars.storeResp resp) resp rfl rfl
      houtstanding).trans (congrArg Except.ok (decide_eq_true hanswers.left))
  rcases @respFollowUpAccepted_eq (m.vars.storeResp resp) resp rfl hanswers
    houtstanding hstored with ⟨accepted, haccepted, _⟩
  have hnext : transition ts m.state (m.vars.storeResp resp) = .ok .reset := by
    rw [h.state]
    exact waitingForPdelayRespFollowUp_next helapsed hduplicate haccepted
  have hne : m.state ≠ .reset := by
    rw [h.state]
    decide
  have hrun := h.toEngaged.run_leave (m.vars.storeResp resp) rfl rfl hnext hne
  have hentered := @missed_of_entering x ts (m.vars.storeResp resp) m.state 14
    hne h.running h.enabled h.exchange hin
  rw [step_running _ h.running]
  change Missed x { run _ ts with vars := (run _ ts).vars.storeRespTimestamp t }
  rw [hrun]
  exact hentered.storeRespTimestamp t

theorem AwaitingFollowUp.step_recvRespFollowUp (h : AwaitingFollowUp x m)
    (hin : x.InTime ts) {followUp : PTPMsgPdelayRespFollowUp}
    (hsequenceId : followUp.head.sequenceId = x.sequenceId) :
    Completed x (step m (.recvRespFollowUp ts followUp)) := by
  rcases h.answered with ⟨resp, hresp, hanswers⟩
  have hn : followUp.head.sequenceId = m.vars.pdelayReqSequenceId :=
    hsequenceId.trans (congrArg Exchange.sequenceId h.exchange).symm
  have houtstanding : (m.vars.storeRespFollowUp followUp).Outstanding :=
    h.outstanding
  have helapsed :
      (m.vars.storeRespFollowUp followUp).intervalElapsed ts = false :=
    h.toEngaged.elapsed hin
  have hduplicate : (m.vars.storeRespFollowUp followUp).duplicateResp =
      .ok false :=
    duplicateResp_absent h.rcvdPdelayResp
  have haccepted :
      (m.vars.storeRespFollowUp followUp).respFollowUpAccepted = .ok true :=
    (@respFollowUpAccepted_stored (m.vars.storeRespFollowUp followUp) resp
      followUp rfl rfl hresp houtstanding).trans
      (congrArg Except.ok (decide_eq_true ⟨hn, Or.inr hanswers.right⟩))
  have hnext : transition ts m.state (m.vars.storeRespFollowUp followUp) =
      .ok .waitingForPdelayIntervalTimer := by
    rw [h.state]
    exact waitingForPdelayRespFollowUp_next helapsed hduplicate haccepted
  have hne : m.state ≠ .waitingForPdelayIntervalTimer := by
    rw [h.state]
    decide
  have hrun := h.toEngaged.run_leave (m.vars.storeRespFollowUp followUp) rfl
    rfl hnext hne
  rw [step_running _ h.running]
  change Completed x (run _ ts)
  rw [hrun]
  exact @completed_of_entering x ts (m.vars.storeRespFollowUp followUp) m.state
    14 hne h.running h.enabled h.exchange hin

end Events

/-!
## The whole exchange
-/

section Completion

variable {x : Exchange} {m : MDPdelayReqMachine}

/-- Nothing that is stored can be taken for the answer, or all of it can. -/
def ClearFor (x : Exchange) (sm : MDPdelayReqSM) : Prop :=
  sm.rcvdPdelayResp = false ∨
    FollowUpPending sm x.sequenceId ∧
      exists resp, sm.rcvdPdelayRespPtr = .live resp ∧
        resp.head.sequenceId = x.sequenceId ∧
        resp.requestingPortIdentity = x.portId

/-- The request has been sent and its timestamp is still to come. -/
structure AwaitingTimestamp (x : Exchange) (m : MDPdelayReqMachine) : Prop
    extends AtRest m where
  exchange : Exchange.ofVars m.vars = x
  state : m.state = .initialSendPdelayReq ∨ m.state = .sendPdelayReq

theorem AwaitingTimestamp.sending (h : AwaitingTimestamp x m) :
    m.vars.FollowUpStored ∧ m.vars.Outstanding ∧ m.vars.LastSent := by
  have hduring := h.during
  rcases h.state with hstate | hstate
  · rw [hstate] at hduring
    exact hduring
  · rw [hstate] at hduring
    exact hduring

theorem AwaitingTimestamp.engaged (h : AwaitingTimestamp x m) : Engaged x m :=
  ⟨h.running, h.quiescent, h.enabled, h.exchange⟩

theorem AwaitingTimestamp.step_run (h : AwaitingTimestamp x m)
    (ts : UScaledNs) : step m (.run ts) = m := by
  have hflag := h.awaiting h.state
  apply h.engaged.step_run
  rcases h.state with hstate | hstate
  · rw [hstate]
    simp [transition, initialSendPdelayReqStateTransition, hflag]
  · rw [hstate]
    simp [transition, sendPdelayReqStateTransition, hflag]

theorem AwaitingTimestamp.step_txts (h : AwaitingTimestamp x m)
    (ts : UScaledNs) {tsuTimestamp : TSUTimestamp}
    (hsequenceId : tsuTimestamp.sequenceID = x.sequenceId) :
    step m (.txts ts tsuTimestamp) =
      (behaviour ts).program.run 15
        { state := .waitingForPdelayResp, lastState := some m.state,
          vars := m.vars.storeTimestamp tsuTimestamp } := by
  have hn : tsuTimestamp.sequenceID = m.vars.pdelayReqSequenceId :=
    hsequenceId.trans (congrArg Exchange.sequenceId h.exchange).symm
  have hnext :
      transition ts m.state (m.vars.storeTimestamp tsuTimestamp) =
        .ok .waitingForPdelayResp := by
    rcases h.state with hstate | hstate
    · rw [hstate]
      rfl
    · rw [hstate]
      rfl
  have hne : m.state ≠ .waitingForPdelayResp := by
    rcases h.state with hstate | hstate
    · rw [hstate]
      decide
    · rw [hstate]
      decide
  rw [step_running _ h.running]
  change m.txts ts tsuTimestamp = _
  unfold txts
  rw [if_neg (by rcases h.state with hstate | hstate <;> simp [hstate]),
    if_neg (by simp [hn])]
  exact h.engaged.run_leave (m.vars.storeTimestamp tsuTimestamp) rfl rfl hnext
    hne

/-- The timestamp alone decides how an undisturbed exchange will end. -/
theorem AwaitingTimestamp.step_txts_cases (h : AwaitingTimestamp x m)
    {ts : UScaledNs} (hin : x.InTime ts) {tsuTimestamp : TSUTimestamp}
    (hsequenceId : tsuTimestamp.sequenceID = x.sequenceId) :
    (ClearFor x m.vars ∧
        (AwaitingResp x (step m (.txts ts tsuTimestamp)) ∨
          Completed x (step m (.txts ts tsuTimestamp)))) ∨
      (¬ ClearFor x m.vars ∧
        (AwaitingFollowUp x (step m (.txts ts tsuTimestamp)) ∨
          Missed x (step m (.txts ts tsuTimestamp)))) := by
  have hne : m.state ≠ .waitingForPdelayResp := by
    rcases h.state with hstate | hstate
    · rw [hstate]
      decide
    · rw [hstate]
      decide
  have hentered := @resp_of_entering x ts (m.vars.storeTimestamp tsuTimestamp)
    m.state 12 hne h.running h.enabled h.exchange hin h.sending.right.left
    h.sending.left
  rw [← h.step_txts ts hsequenceId] at hentered
  rcases hentered with ⟨hwait, hanswered, hmissed⟩
  cases hflag : m.vars.rcvdPdelayResp with
  | false =>
      exact Or.inl ⟨Or.inl hflag, Or.inl (hwait hflag)⟩
  | true =>
      by_cases hanswers : exists resp,
          m.vars.rcvdPdelayRespPtr = .live resp ∧ m.vars.Answers resp
      · rcases hanswers with ⟨resp, hresp, hanswers⟩
        have hsame : resp.head.sequenceId = x.sequenceId ∧
            resp.requestingPortIdentity = x.portId := by
          rw [← h.exchange]
          exact hanswers
        by_cases hpending : FollowUpPending m.vars x.sequenceId
        · exact Or.inl ⟨Or.inr ⟨hpending, resp, hresp, hsame⟩,
            Or.inr ((hanswered resp hflag hresp hanswers).left hpending)⟩
        · refine Or.inr ⟨?_,
            Or.inl ((hanswered resp hflag hresp hanswers).right hpending)⟩
          rintro (hclear | ⟨hclear, _⟩)
          · rw [hflag] at hclear
            cases hclear
          · exact hpending hclear
      · refine Or.inr ⟨?_, Or.inr (hmissed hflag fun resp hresp hanswer =>
          hanswers ⟨resp, hresp, hanswer⟩)⟩
        rintro (hclear | ⟨_, resp, hresp, hsame⟩)
        · rw [hflag] at hclear
          cases hclear
        · refine hanswers ⟨resp, hresp, ?_⟩
          rw [← h.exchange] at hsame
          exact hsame

theorem AwaitingTimestamp.undisturbed (h : AwaitingTimestamp x m)
    (u : Undisturbed x) :
    (ClearFor x m.vars ∧ Completed x (runEvents step m u.events)) ∨
      (¬ ClearFor x m.vars ∧ Missed x (runEvents step m u.events)) := by
  have hbefore :
      runEvents step m (u.runsBeforeTimestamp.map .run) = m :=
    runEvents_idle fun ts _ => h.step_run ts
  unfold Undisturbed.events
  rw [runEvents_append, runEvents_append, runEvents_append, hbefore,
    runEvents_cons, runEvents_cons, runEvents_cons, runEvents_nil]
  have hcompleted : forall {n : MDPdelayReqMachine}, Completed x n ->
      runEvents step n (u.runsBeforeResp.map .run) = n ∧
        runEvents step n (u.runsBeforeFollowUp.map .run) = n :=
    fun hn =>
      ⟨runEvents_idle fun ts hts =>
          hn.step_run (u.runsBeforeResp_inTime ts hts),
        runEvents_idle fun ts hts =>
          hn.step_run (u.runsBeforeFollowUp_inTime ts hts)⟩
  have hmissed : forall {n : MDPdelayReqMachine}, Missed x n ->
      runEvents step n (u.runsBeforeResp.map .run) = n ∧
        runEvents step n (u.runsBeforeFollowUp.map .run) = n :=
    fun hn =>
      ⟨runEvents_idle fun ts hts =>
          hn.step_run (u.runsBeforeResp_inTime ts hts),
        runEvents_idle fun ts hts =>
          hn.step_run (u.runsBeforeFollowUp_inTime ts hts)⟩
  rcases h.step_txts_cases u.timestamp_inTime u.timestamp_sequenceId with
    ⟨hclear, hresp | hdone⟩ | ⟨hnot, hfollowUp | hfail⟩
  · rw [runEvents_idle fun ts hts =>
      hresp.step_run (u.runsBeforeResp_inTime ts hts)]
    rcases hresp.step_recvResp u.resp_inTime u.respTimestamp u.resp_sequenceId
      u.resp_requesting with hdone | hwait
    · rw [(hcompleted hdone).right]
      exact Or.inl ⟨hclear,
        hdone.step_recvRespFollowUp u.followUp_inTime u.followUp⟩
    · rw [runEvents_idle fun ts hts =>
        hwait.step_run (u.runsBeforeFollowUp_inTime ts hts)]
      exact Or.inl ⟨hclear,
        hwait.step_recvRespFollowUp u.followUp_inTime u.followUp_sequenceId⟩
  · rw [(hcompleted hdone).left]
    have hdone' := hdone.step_recvResp u.resp_inTime u.respTimestamp u.resp
    rw [(hcompleted hdone').right]
    exact Or.inl ⟨hclear,
      hdone'.step_recvRespFollowUp u.followUp_inTime u.followUp⟩
  · rw [runEvents_idle fun ts hts =>
      hfollowUp.step_run (u.runsBeforeResp_inTime ts hts)]
    have hfail := hfollowUp.step_recvResp u.resp_inTime u.respTimestamp
      u.resp_sequenceId u.resp_requesting
    rw [(hmissed hfail).right]
    exact Or.inr ⟨hnot,
      hfail.step_recvRespFollowUp u.followUp_inTime u.followUp⟩
  · rw [(hmissed hfail).left]
    have hfail' := hfail.step_recvResp u.resp_inTime u.respTimestamp u.resp
    rw [(hmissed hfail').right]
    exact Or.inr ⟨hnot,
      hfail'.step_recvRespFollowUp u.followUp_inTime u.followUp⟩

/--
An undisturbed exchange reaches the last state of the machine exactly if no
`Pdelay_Resp` is marked as received when its timestamp arrives, or the one that
is marked passes for the answer and a `Pdelay_Resp_Follow_Up` for its follow-up.
-/
theorem undisturbed_exchange_completes_iff (hreachable : Reachable m)
    (hrunning : m.vars.process.stop = none)
    (hstate : m.state = .initialSendPdelayReq ∨ m.state = .sendPdelayReq)
    {port : Port} {req : PTPMsgPdelayReq}
    (hsent : m.vars.process.sent.getLast? =
      some { port := port, message := .pdelayReq req })
    (u : Undisturbed (Exchange.ofReq m.vars req)) :
    ((runEvents step m u.events).state = .waitingForPdelayIntervalTimer ∧
        (runEvents step m u.events).vars.pdelayReqSequenceId =
          req.head.sequenceId) <->
      ClearFor (Exchange.ofReq m.vars req) m.vars := by
  have hrest := hreachable.atRest hrunning
  have hexchange : Exchange.ofVars m.vars = Exchange.ofReq m.vars req := by
    have hawaiting : AwaitingTimestamp (Exchange.ofVars m.vars) m :=
      ⟨hrest, rfl, hstate⟩
    have hlast := hawaiting.sending.right.right
    unfold LastSent at hlast
    rw [hsent] at hlast
    cases hlast
    rfl
  rcases AwaitingTimestamp.undisturbed ⟨hrest, hexchange, hstate⟩ u with
    ⟨hclear, hdone⟩ | ⟨hnot, hfail⟩
  · exact ⟨fun _ => hclear, fun _ => ⟨hdone.state, hdone.sequenceId⟩⟩
  · exact ⟨fun h => absurd h.left hfail.not_completed, fun h => absurd h hnot⟩

end Completion

/-!
The instance below starts from zeroed memory on port 1.  Its first exchange
completes.  A stray response ends it early, the genuine one comes while the
machine is in its reset state, and the exchange after it fails for that.
-/

def zeroedMemory : MDPdelayReqSM :=
  { (default : MDPdelayReqSM) with
    perPortGlobal :=
      { (default : PerPortGlobal) with portOper := true, thisPort := 1 }
    mdEntityGlobal :=
      { (default : MDEntityGlobal) with
        pdelayReqInterval := { subns := 0, nsec := oneSecNs, nsecMsb := 0 } } }

def atNs (nsec : UInt64) : UScaledNs where
  subns := 0
  nsec := nsec
  nsecMsb := 0

/-- A `Pdelay_Resp` to port 1 of the instance with clock identity zero. -/
def respTo (n : UInt16) : PTPMsgPdelayResp where
  head := { (default : PTPMsgHeader) with sequenceId := n }
  requestReceiptTimestamp := default
  requestingPortIdentity := { clockIdentity := fun _ => 0, portNumber := 1 }

def respFollowUpTo (n : UInt16) : PTPMsgPdelayRespFollowUp where
  head := { (default : PTPMsgHeader) with sequenceId := n }
  responseOriginTimestamp := default
  requestingPortIdentity := { clockIdentity := fun _ => 0, portNumber := 1 }

def txTimestamp (nsec : UInt64) (n : UInt16) : TSUTimestamp where
  ts := atNs nsec
  sequenceID := n
  msgType := PTPMsgType.pdelayReq.code

/-- The messages of exchange `n` of the instance, right after `nsec`. -/
def promptExchange (x : Exchange) (nsec : UInt64) (n : UInt16)
    (hsequenceId : n = x.sequenceId)
    (hportId : (respTo n).requestingPortIdentity = x.portId)
    (htimestamp : x.InTime (atNs (nsec + 1)))
    (hresp : x.InTime (atNs (nsec + 2)))
    (hfollowUp : x.InTime (atNs (nsec + 3))) : Undisturbed x where
  runsBeforeTimestamp := []
  timestampAt := atNs (nsec + 1)
  timestamp := txTimestamp nsec n
  runsBeforeResp := []
  respAt := atNs (nsec + 2)
  respTimestamp := txTimestamp (nsec + 2) n
  resp := respTo n
  runsBeforeFollowUp := []
  followUpAt := atNs (nsec + 3)
  followUp := respFollowUpTo n
  timestamp_sequenceId := hsequenceId
  resp_sequenceId := hsequenceId
  resp_requesting := hportId
  followUp_sequenceId := hsequenceId
  followUp_source := rfl
  runsBeforeTimestamp_inTime _ h := nomatch h
  timestamp_inTime := htimestamp
  runsBeforeResp_inTime _ h := nomatch h
  resp_inTime := hresp
  runsBeforeFollowUp_inTime _ h := nomatch h
  followUp_inTime := hfollowUp

/-- Exchange 0 is spoilt by a response with sequence number 5. -/
def strayHistory : List Event :=
  [.txts (atNs 1) (txTimestamp 0 0),
    .recvResp (atNs 2) (txTimestamp 2 5) (respTo 5),
    .recvResp (atNs 3) (txTimestamp 3 0) (respTo 0),
    .run (atNs oneSecNs)]

def firstMachine : MDPdelayReqMachine :=
  initMdPdelayReqSm zeroedMemory

def strayMachine : MDPdelayReqMachine :=
  runEvents step firstMachine strayHistory

def firstExchange :
    Undisturbed
      (Exchange.ofReq firstMachine.vars firstMachine.vars.setPdelayReq) :=
  promptExchange _ 0 0 (by decide) (by decide) (by decide) (by decide)
    (by decide)

def strayExchange :
    Undisturbed
      (Exchange.ofReq strayMachine.vars strayMachine.vars.setPdelayReq) :=
  promptExchange _ oneSecNs 1 (by decide) (by decide) (by decide) (by decide)
    (by decide)

theorem first_exchange_completes :
    (runEvents step firstMachine firstExchange.events).state =
        .waitingForPdelayIntervalTimer ∧
      (runEvents step firstMachine firstExchange.events).vars.pdelayReqSequenceId =
        0 :=
  (undisturbed_exchange_completes_iff
    ⟨zeroedMemory, [], rfl, rfl, rfl⟩ rfl (Or.inl (by decide)) rfl
    firstExchange).mpr (Or.inl rfl)

theorem stray_resp_spoils_next_exchange :
    ¬ forall (m : MDPdelayReqMachine) (port : Port) (req : PTPMsgPdelayReq),
      Reachable m -> m.vars.process.stop = none ->
      (m.state = .initialSendPdelayReq ∨ m.state = .sendPdelayReq) ->
      m.vars.process.sent.getLast? =
        some { port := port, message := .pdelayReq req } ->
      forall u : Undisturbed (Exchange.ofReq m.vars req),
        (runEvents step m u.events).state =
          .waitingForPdelayIntervalTimer := by
  intro h
  have hcompleted := h strayMachine 1 strayMachine.vars.setPdelayReq
    ⟨zeroedMemory, strayHistory, rfl, rfl, rfl⟩ (by decide)
    (Or.inr (by decide)) (by decide) strayExchange
  revert hcompleted
  decide

end MDPdelayReqMachine

end TimeSync
end Ziggo
