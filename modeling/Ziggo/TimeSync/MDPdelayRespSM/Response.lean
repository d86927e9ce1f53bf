import Ziggo.TimeSync.MDPdelayRespSM

/-!
# Responses and their timestamps

When the timestamp of the last `Pdelay_Resp` arrives, the responder should send
the follow-up and leave its waiting state.  The module determines when it does.
-/

namespace Ziggo
namespace TimeSync

open Foundation TsnDrivers

namespace MDPdelayRespSM

open MDPdelayRespSMState

/-- The instance has left its reset and the port is in operation. -/
def Enabled (sm : MDPdelayRespSM) : Prop :=
  sm.perPTPInstanceGlobal.BEGIN = false ∧ sm.perPortGlobal.portOper = true ∧
    sm.portEnabled1 = true

theorem allStateTransition_enabled {sm : MDPdelayRespSM} (h : sm.Enabled)
    (state : MDPdelayRespSMState) : sm.allStateTransition state = state := by
  simp [allStateTransition, h.left, h.right.left, h.right.right]

def NoTimestamp (sm : MDPdelayRespSM) : Prop :=
  sm.rcvdMDTimestampReceiveMDPResp = false

/--
The frame sent last is a `Pdelay_Resp`, still owned by the machine, and unless
another request has come, the stored one is the request it answers.
-/
def ResponseSent (sm : MDPdelayRespSM) : Prop :=
  exists resp req, sm.txPdelayRespPtr = .live resp ∧
    sm.rcvdPdelayReqPtr = .live req ∧
    sm.process.sent.getLast? =
        some
          { port := sm.perPortGlobal.thisPort
            message := .pdelayResp resp } ∧
      (sm.rcvdPdelayReq = false ->
        req.head.sequenceId = resp.head.sequenceId ∧
          req.head.sourcePortIdentity = resp.requestingPortIdentity)

/-!
## Leaving a state

What a change of state says about its source.
-/

section Leaving

variable {sm : MDPdelayRespSM} {next : MDPdelayRespSMState}

theorem notEnabled_left (h : transition notEnabled sm = .ok next)
    (hne : next ≠ notEnabled) : next = initialWaitingForPdelayReq := by
  have hnext : sm.notEnabledStateTransition = next := Except.ok.inj h
  unfold notEnabledStateTransition at hnext
  split at hnext
  · exact hnext.symm
  · exact absurd hnext.symm hne

theorem initialWaitingForPdelayReq_left
    (h : transition initialWaitingForPdelayReq sm = .ok next)
    (hne : next ≠ initialWaitingForPdelayReq) :
    next = sentPdelayRespWaitingForTimestamp ∧ sm.rcvdPdelayReq = true := by
  have hnext : sm.initialWaitingForPdelayReqStateTransition = next :=
    Except.ok.inj h
  unfold initialWaitingForPdelayReqStateTransition at hnext
  split at hnext
  case isTrue hflag => exact ⟨hnext.symm, hflag⟩
  case isFalse => exact absurd hnext.symm hne

theorem sentPdelayRespWaitingForTimestamp_left
    (h : transition sentPdelayRespWaitingForTimestamp sm = .ok next)
    (hne : next ≠ sentPdelayRespWaitingForTimestamp) :
    next = waitingForPdelayReq ∧
      sm.rcvdMDTimestampReceiveMDPResp = true := by
  have hnext : sm.sentPdelayRespWaitingForTimestampStateTransition = next :=
    Except.ok.inj h
  unfold sentPdelayRespWaitingForTimestampStateTransition at hnext
  split at hnext
  case isTrue hflag => exact ⟨hnext.symm, hflag⟩
  case isFalse => exact absurd hnext.symm hne

theorem waitingForPdelayReq_left
    (h : transition waitingForPdelayReq sm = .ok next)
    (hne : next ≠ waitingForPdelayReq) :
    next = sentPdelayRespWaitingForTimestamp ∧ sm.rcvdPdelayReq = true := by
  have hnext : sm.waitingForPdelayReqStateTransition = next := Except.ok.inj h
  unfold waitingForPdelayReqStateTransition at hnext
  split at hnext
  case isTrue hflag => exact ⟨hnext.symm, hflag⟩
  case isFalse => exact absurd hnext.symm hne

end Leaving

/-!
## Actions
-/

section Actions

variable {sm : MDPdelayRespSM}

def responded (sm : MDPdelayRespSM) (req : PTPMsgPdelayReq) :
    MDPdelayRespSM :=
  { sm with
    rcvdPdelayReq := false
    txPdelayRespPtr := .live (sm.setPdelayResp req)
    process := sm.process.sendPtpFrame sm.perPortGlobal.thisPort
      (.pdelayResp (sm.setPdelayResp req)) }

/-- The variables after the follow-up to the response to `req`. -/
def followedUp (sm : MDPdelayRespSM) (req : PTPMsgPdelayReq) :
    MDPdelayRespSM :=
  { sm with
    rcvdMDTimestampReceiveMDPResp := false
    rcvdPdelayReqPtr := .null
    txPdelayRespPtr := .null
    txPdelayRespFollowUpPtr := .null
    process := sm.process.sendPtpFrame sm.perPortGlobal.thisPort
      (.pdelayRespFollowUp (sm.setPdelayRespFollowUp req)) }

theorem sentAction_live {req : PTPMsgPdelayReq}
    (hreq : sm.rcvdPdelayReqPtr = .live req) :
    sm.sentPdelayRespWaitingForTimestampAction = .ok (sm.responded req) := by
  have hderef : sm.rcvdPdelayReqPtr.deref = .ok req := Ptr.deref_eq_ok.mpr hreq
  unfold sentPdelayRespWaitingForTimestampAction
  dsimp only
  rw [hderef]
  rfl

theorem sentAction_null (hreq : sm.rcvdPdelayReqPtr = .null) :
    sm.sentPdelayRespWaitingForTimestampAction = .error .invalidPointer := by
  have hderef : sm.rcvdPdelayReqPtr.deref = .error .invalidPointer := by
    rw [hreq]
    rfl
  unfold sentPdelayRespWaitingForTimestampAction
  dsimp only
  rw [hderef]
  rfl

theorem sentAction_cases {sm' : MDPdelayRespSM}
    (h : sm.sentPdelayRespWaitingForTimestampAction = .ok sm') :
    exists req, sm.rcvdPdelayReqPtr = .live req ∧ sm' = sm.responded req := by
  have hderef := h
  obtain ⟨req, hreq, _⟩ := bind_eq_ok.mp hderef
  have hlive : sm.rcvdPdelayReqPtr = .live req := Ptr.deref_eq_ok.mp hreq
  rw [sentAction_live hlive] at h
  exact ⟨req, hlive, (Except.ok.inj h).symm⟩

theorem waitingAction_live {req : PTPMsgPdelayReq} {resp : PTPMsgPdelayResp}
    (hreq : sm.rcvdPdelayReqPtr = .live req)
    (hresp : sm.txPdelayRespPtr = .live resp) :
    sm.waitingForPdelayReqAction = .ok (sm.followedUp req) := by
  have hderef : sm.rcvdPdelayReqPtr.deref = .ok req := Ptr.deref_eq_ok.mpr hreq
  have hfreeReq : sm.rcvdPdelayReqPtr.free = .ok .released := by
    rw [hreq]
    rfl
  have hfreeResp : sm.txPdelayRespPtr.free = .ok .released := by
    rw [hresp]
    rfl
  unfold waitingForPdelayReqAction
  dsimp only
  rw [hderef]
  simp only [txPdelayRespFollowUp, Ptr.deref_live, bind, Except.bind, pure,
    Except.pure]
  rw [hfreeReq, hfreeResp]
  rfl

theorem waitingAction_cases {sm' : MDPdelayRespSM}
    (h : sm.waitingForPdelayReqAction = .ok sm') :
    exists req, sm.rcvdPdelayReqPtr = .live req ∧ sm' = sm.followedUp req := by
  obtain ⟨req, hreq, h⟩ := bind_eq_ok.mp h
  obtain ⟨sent, hsent, h⟩ := bind_eq_ok.mp h
  obtain ⟨_, _, h⟩ := bind_eq_ok.mp h
  obtain ⟨_, _, h⟩ := bind_eq_ok.mp h
  obtain ⟨_, _, h⟩ := bind_eq_ok.mp h
  cases h
  cases hsent
  exact ⟨req, Ptr.deref_eq_ok.mp hreq, rfl⟩

end Actions

/-!
## States of an enabled port
-/

/-- What holds when a state is about to be entered. -/
def Before (state : MDPdelayRespSMState) (sm : MDPdelayRespSM) : Prop :=
  match state with
  | sentPdelayRespWaitingForTimestamp => sm.NoTimestamp
  | _ => True

/-- What holds while the machine is in a state. -/
def During (state : MDPdelayRespSMState) (sm : MDPdelayRespSM) : Prop :=
  match state with
  | init | notEnabled => True
  | initialWaitingForPdelayReq | waitingForPdelayReq => sm.NoTimestamp
  | sentPdelayRespWaitingForTimestamp => sm.ResponseSent

theorem responseSent_responded {sm : MDPdelayRespSM} {req : PTPMsgPdelayReq}
    (hreq : sm.rcvdPdelayReqPtr = .live req) :
    (sm.responded req).ResponseSent :=
  ⟨sm.setPdelayResp req, req, rfl, hreq, List.getLast?_concat,
    fun _ => ⟨rfl, rfl⟩⟩

theorem during_action {state : MDPdelayRespSMState} {sm sm' : MDPdelayRespSM}
    (h : action state sm = .ok sm') : During state sm' := by
  cases state with
  | init => trivial
  | notEnabled => trivial
  | initialWaitingForPdelayReq =>
      cases h
      rfl
  | sentPdelayRespWaitingForTimestamp =>
      rcases sentAction_cases h with ⟨req, hreq, rfl⟩
      exact responseSent_responded hreq
  | waitingForPdelayReq =>
      rcases waitingAction_cases h with ⟨req, _, rfl⟩
      rfl

theorem enabled_action {state : MDPdelayRespSMState} {sm sm' : MDPdelayRespSM}
    (henabled : sm.Enabled) (h : action state sm = .ok sm') : sm'.Enabled := by
  cases state with
  | init | notEnabled | initialWaitingForPdelayReq =>
      cases h
      exact henabled
  | sentPdelayRespWaitingForTimestamp =>
      rcases sentAction_cases h with ⟨req, _, rfl⟩
      exact henabled
  | waitingForPdelayReq =>
      rcases waitingAction_cases h with ⟨req, _, rfl⟩
      exact henabled

theorem before_transition {state next : MDPdelayRespSMState}
    {sm : MDPdelayRespSM} (hduring : During state sm)
    (h : transition state sm = .ok next) (hne : next ≠ state) :
    Before next sm := by
  cases state with
  | init =>
      cases h
      trivial
  | notEnabled =>
      cases notEnabled_left h hne
      trivial
  | initialWaitingForPdelayReq =>
      rcases initialWaitingForPdelayReq_left h hne with ⟨rfl, _⟩
      exact hduring
  | sentPdelayRespWaitingForTimestamp =>
      rcases sentPdelayRespWaitingForTimestamp_left h hne with ⟨rfl, _⟩
      trivial
  | waitingForPdelayReq =>
      rcases waitingForPdelayReq_left h hne with ⟨rfl, _⟩
      exact hduring

theorem during_storeReq {state : MDPdelayRespSMState} {sm : MDPdelayRespSM}
    (tsuTimestamp : TSUTimestamp) (pdelayReq : PTPMsgPdelayReq)
    (h : During state sm) :
    During state (sm.storeReq tsuTimestamp pdelayReq) := by
  cases state with
  | sentPdelayRespWaitingForTimestamp =>
      rcases h with ⟨resp, req, hresp, _, hsent, _⟩
      exact ⟨resp, pdelayReq, hresp, rfl, hsent, fun hflag => (by cases hflag)⟩
  | _ => exact h

end MDPdelayRespSM

namespace MDPdelayRespMachine

open MDPdelayRespSM

def annotated : Program.Annotation behaviour.program :=
  behaviour.annotate
    (fun state sm => sm.Enabled ∧ Before state sm)
    (fun state sm => sm.Enabled ∧ During state sm)
    (fun _ _ _ hpre h => ⟨enabled_action hpre.left h, during_action h⟩)
    (fun _ _ _ hpost h hne =>
      ⟨hpost.left, before_transition hpost.right h hne⟩)

theorem ready_enabled {m : MDPdelayRespMachine} (h : m.vars.Enabled) :
    m.ready = m := by
  unfold ready
  rw [allStateTransition_enabled h]

/-- A machine of an enabled port between two calls, in a running process. -/
structure AtRest (m : MDPdelayRespMachine) : Prop where
  running : m.vars.process.stop = none
  quiescent : m.Quiescent
  enabled : m.vars.Enabled
  during : During m.state m.vars

theorem atRest_run {m : MDPdelayRespMachine} (henabled : m.vars.Enabled)
    (hholds : annotated.Holds m)
    (hrunning : m.run.vars.process.stop = none) : AtRest m.run := by
  unfold run at *
  rw [ready_enabled henabled] at *
  have hpost := annotated.run_post passes hholds hrunning
  exact ⟨hrunning, hpost.left, hpost.right.left, hpost.right.right⟩

theorem step_running {m : MDPdelayRespMachine} (e : Event)
    (h : m.vars.process.stop = none) :
    step m e =
      match e with
      | .txts tsuTimestamp => m.txts tsuTimestamp
      | .recvReq tsuTimestamp pdelayReq =>
          m.recvReq tsuTimestamp pdelayReq := by
  unfold step
  exact if_neg (by rw [h]; simp)

theorem step_stopped {m : MDPdelayRespMachine} (e : Event)
    (h : m.vars.process.stop ≠ none) : step m e = m :=
  if_pos h

/-!
## The timestamp of a response
-/

section Timestamp

variable {m : MDPdelayRespMachine} {tsuTimestamp : TSUTimestamp}
  {req : PTPMsgPdelayReq}

/-- The timestamp is compared with the stored request. -/
theorem txts_sent (hstate : m.state = .sentPdelayRespWaitingForTimestamp)
    (hreq : m.vars.rcvdPdelayReqPtr = .live req) :
    m.txts tsuTimestamp =
      if tsuTimestamp.sequenceID ≠ req.head.sequenceId then
        m
      else
        run { m with vars := m.vars.storeTimestamp tsuTimestamp } := by
  have hderef : m.vars.rcvdPdelayReqPtr.deref = .ok req :=
    Ptr.deref_eq_ok.mpr hreq
  unfold txts
  rw [if_neg (by simp [hstate]), hderef]

theorem atRest_txts (h : AtRest m)
    (hrunning : (m.txts tsuTimestamp).vars.process.stop = none) :
    AtRest (m.txts tsuTimestamp) := by
  by_cases hstate : m.state = .sentPdelayRespWaitingForTimestamp
  · have hduring := h.during
    rw [hstate] at hduring
    rcases hduring with ⟨resp, req, hresp, hreq, hsent, hmatch⟩
    rw [txts_sent hstate hreq] at *
    split at hrunning
    · rw [if_pos (by assumption)]
      exact h
    · rename_i hsequenceId
      rw [if_neg hsequenceId]
      have hstored : (m.vars.storeTimestamp tsuTimestamp).ResponseSent :=
        ⟨resp, req, hresp, hreq, hsent, hmatch⟩
      refine @atRest_run
        { m with vars := m.vars.storeTimestamp tsuTimestamp } h.enabled
        ⟨fun _ => ⟨h.enabled, ?_⟩, fun hq => absurd h.quiescent hq⟩ hrunning
      change During m.state (m.vars.storeTimestamp tsuTimestamp)
      rw [hstate]
      exact hstored
  · unfold txts at *
    rw [if_pos hstate] at *
    exact h

theorem atRest_recvReq (h : AtRest m) (pdelayReq : PTPMsgPdelayReq)
    (hrunning : (m.recvReq tsuTimestamp pdelayReq).vars.process.stop = none) :
    AtRest (m.recvReq tsuTimestamp pdelayReq) :=
  @atRest_run { m with vars := m.vars.storeReq tsuTimestamp pdelayReq }
    h.enabled
    ⟨fun _ => ⟨h.enabled, during_storeReq tsuTimestamp pdelayReq h.during⟩,
      fun hq => absurd h.quiescent hq⟩
    hrunning

/-- Every call that leaves the process running leaves the machine at rest. -/
theorem atRest_step {e : Event} (h : AtRest m)
    (hrunning : (step m e).vars.process.stop = none) : AtRest (step m e) := by
  rw [step_running e h.running] at *
  cases e with
  | txts tsuTimestamp => exact atRest_txts h hrunning
  | recvReq tsuTimestamp pdelayReq => exact atRest_recvReq h pdelayReq hrunning

end Timestamp

/-!
## Runs
-/

theorem atRest_init {memory : MDPdelayRespSM}
    (hBEGIN : memory.perPTPInstanceGlobal.BEGIN = false)
    (hportOper : memory.perPortGlobal.portOper = true)
    (hrunning : (initMdPdelayRespSm memory).vars.process.stop = none) :
    AtRest (initMdPdelayRespSm memory) := by
  have henabled : Enabled
      { memory with portEnabled1 := true, rcvdPdelayReqPtr := .null } :=
    ⟨hBEGIN, hportOper, rfl⟩
  refine atRest_run henabled ⟨fun hq => ?_, fun _ => ⟨henabled, trivial⟩⟩
    hrunning
  cases hq

/-- The machines that a sequence of calls leads to on an enabled port. -/
def Reachable (m : MDPdelayRespMachine) : Prop :=
  exists (memory : MDPdelayRespSM) (history : List Event),
    memory.perPTPInstanceGlobal.BEGIN = false ∧
      memory.perPortGlobal.portOper = true ∧
      m = runEvents step (initMdPdelayRespSm memory) history

theorem Reachable.atRest {m : MDPdelayRespMachine} (h : Reachable m)
    (hrunning : m.vars.process.stop = none) : AtRest m := by
  rcases h with ⟨memory, history, hBEGIN, hportOper, rfl⟩
  refine run_invariant_always
    (I := fun m : MDPdelayRespMachine =>
      m.vars.process.stop = none -> AtRest m)
    (atRest_init hBEGIN hportOper) ?_ history hrunning
  intro m e ih hstep
  by_cases hstop : m.vars.process.stop = none
  · exact atRest_step (ih hstop) hstep
  · rw [step_stopped e hstop] at hstep
    exact absurd hstep hstop

/--
The call has accepted the timestamp of the response, has sent its follow-up and
nothing else, and has left the waiting state.
-/
structure FollowedUp (m m' : MDPdelayRespMachine) (resp : PTPMsgPdelayResp)
    (tsuTimestamp : TSUTimestamp) : Prop where
  accepted : m'.vars.t3 = tsuTimestamp.ts
  sent : exists followUp : PTPMsgPdelayRespFollowUp,
    m'.vars.process.sent =
        m.vars.process.sent ++
          [{ port := m.vars.perPortGlobal.thisPort
             message := .pdelayRespFollowUp followUp }] ∧
      followUp.head.sequenceId = resp.head.sequenceId ∧
      followUp.requestingPortIdentity = resp.requestingPortIdentity
  left : m'.state ≠ .sentPdelayRespWaitingForTimestamp

section FollowUp

variable {m : MDPdelayRespMachine} {resp : PTPMsgPdelayResp}
  {tsuTimestamp : TSUTimestamp} {req : PTPMsgPdelayReq}

theorem run_timestamp (h : AtRest m)
    (hstate : m.state = .sentPdelayRespWaitingForTimestamp) :
    run { m with vars := m.vars.storeTimestamp tsuTimestamp } =
      behaviour.program.run 15
        { state := .waitingForPdelayReq, lastState := some m.state,
          vars := m.vars.storeTimestamp tsuTimestamp } := by
  have henabled : (m.vars.storeTimestamp tsuTimestamp).Enabled := h.enabled
  have hnext : transition m.state (m.vars.storeTimestamp tsuTimestamp) =
      .ok .waitingForPdelayReq := by
    rw [hstate]
    rfl
  have hne : m.state ≠ .waitingForPdelayReq := by
    rw [hstate]
    decide
  unfold run
  rw [@ready_enabled { m with vars := m.vars.storeTimestamp tsuTimestamp }
    henabled]
  exact Behaviour.run_leave 15 h.quiescent h.running hnext hne

/-- Without a further request the responder follows up and comes to rest. -/
theorem run_timestamp_rest (h : AtRest m)
    (hstate : m.state = .sentPdelayRespWaitingForTimestamp)
    (hreq : m.vars.rcvdPdelayReqPtr = .live req)
    (hresp : m.vars.txPdelayRespPtr = .live resp)
    (hflag : m.vars.rcvdPdelayReq = false) :
    run { m with vars := m.vars.storeTimestamp tsuTimestamp } =
      { state := .waitingForPdelayReq, lastState := some .waitingForPdelayReq,
        vars := (m.vars.storeTimestamp tsuTimestamp).followedUp req } := by
  have hnext : transition .waitingForPdelayReq
      ((m.vars.storeTimestamp tsuTimestamp).followedUp req) =
        .ok .waitingForPdelayReq := by
    change Except.ok (if m.vars.rcvdPdelayReq = true then _ else _) = _
    rw [hflag]
    rfl
  rw [run_timestamp h hstate]
  refine Behaviour.run_enter_rest 14 ?_
    (@waitingAction_live (m.vars.storeTimestamp tsuTimestamp) req resp hreq
      hresp) h.running hnext
  rw [hstate]
  simp [Machine.Quiescent]

/-- With a further request the responder answers without one. -/
theorem run_timestamp_fault (h : AtRest m)
    (hstate : m.state = .sentPdelayRespWaitingForTimestamp)
    (hreq : m.vars.rcvdPdelayReqPtr = .live req)
    (hresp : m.vars.txPdelayRespPtr = .live resp)
    (hflag : m.vars.rcvdPdelayReq = true) :
    (run { m with vars := m.vars.storeTimestamp tsuTimestamp }).state =
        .sentPdelayRespWaitingForTimestamp ∧
      (run { m with vars := m.vars.storeTimestamp tsuTimestamp
        }).vars.process.stop = some .invalidPointer := by
  have hnext : transition .waitingForPdelayReq
      ((m.vars.storeTimestamp tsuTimestamp).followedUp req) =
        .ok .sentPdelayRespWaitingForTimestamp := by
    change Except.ok (if m.vars.rcvdPdelayReq = true then _ else _) = _
    rw [hflag]
    rfl
  have hleave := @Behaviour.run_enter_leave _ _ _ behaviour
    { state := .waitingForPdelayReq, lastState := some m.state,
      vars := m.vars.storeTimestamp tsuTimestamp } 14
    ((m.vars.storeTimestamp tsuTimestamp).followedUp req)
    .sentPdelayRespWaitingForTimestamp
    (by rw [hstate]; simp [Machine.Quiescent])
    (@waitingAction_live (m.vars.storeTimestamp tsuTimestamp) req resp hreq
      hresp) h.running hnext (by simp)
  rw [run_timestamp h hstate, hleave]
  have hfail := @Behaviour.run_enter_fail _ _ _ behaviour
    { state := .sentPdelayRespWaitingForTimestamp
      lastState := some .waitingForPdelayReq
      vars := (m.vars.storeTimestamp tsuTimestamp).followedUp req } 13
    .invalidPointer (by simp [Machine.Quiescent]) (sentAction_null rfl)
  rw [hfail]
  exact ⟨rfl, rfl⟩

/--
The timestamp of the last `Pdelay_Resp` leads to its follow-up, and the machine
out of the waiting state, exactly if no further request has come since.
-/
theorem response_followed_up_iff (hreachable : Reachable m)
    (hrunning : m.vars.process.stop = none)
    (hstate : m.state = .sentPdelayRespWaitingForTimestamp) {port : Port}
    (hsent : m.vars.process.sent.getLast? =
      some { port := port, message := .pdelayResp resp })
    (hsequenceId : tsuTimestamp.sequenceID = resp.head.sequenceId) :
    FollowedUp m (step m (.txts tsuTimestamp)) resp tsuTimestamp <->
      m.vars.rcvdPdelayReq = false := by
  have hrest := hreachable.atRest hrunning
  have hduring := hrest.during
  rw [hstate] at hduring
  rcases hduring with ⟨last, req, hresp, hreq, hlast, hmatch⟩
  have hsame : last = resp := by
    rw [hsent] at hlast
    cases hlast
    rfl
  subst hsame
  rw [step_running _ hrunning]
  change FollowedUp m (m.txts tsuTimestamp) last tsuTimestamp <-> _
  rw [txts_sent hstate hreq]
  cases hflag : m.vars.rcvdPdelayReq with
  | false =>
      rcases hmatch hflag with ⟨hreqSequenceId, hsource⟩
      rw [if_neg (by rw [hsequenceId, hreqSequenceId]; simp),
        run_timestamp_rest hrest hstate hreq hresp hflag]
      refine ⟨fun _ => rfl, fun _ => ⟨rfl, ?_, by simp⟩⟩
      exact ⟨(m.vars.storeTimestamp tsuTimestamp).setPdelayRespFollowUp req,
        rfl, hreqSequenceId, hsource⟩
  | true =>
      refine ⟨fun hfollowedUp => ?_, fun h => (by cases h)⟩
      by_cases hreqSequenceId : tsuTimestamp.sequenceID = req.head.sequenceId
      · rw [if_neg (by simp [hreqSequenceId])] at hfollowedUp
        exact absurd (run_timestamp_fault hrest hstate hreq hresp hflag).left
          hfollowedUp.left
      · rw [if_pos hreqSequenceId] at hfollowedUp
        exact absurd hstate hfollowedUp.left

end FollowUp

/-!
The instance below runs on zeroed memory on port 1.  A second request arrives
before the timestamp of the first response.
-/

def firstMachine : MDPdelayRespMachine :=
  initMdPdelayRespSm
    { (default : MDPdelayRespSM) with
      perPortGlobal :=
        { (default : PerPortGlobal) with portOper := true, thisPort := 1 } }

def reqOf (n : UInt16) : PTPMsgPdelayReq where
  head := { (default : PTPMsgHeader) with sequenceId := n }

def timestampOf (n : UInt16) : TSUTimestamp where
  ts := default
  sequenceID := n
  msgType := PTPMsgType.pdelayResp.code

def respOf (n : UInt16) : PTPMsgPdelayResp :=
  firstMachine.vars.setPdelayResp (reqOf n)

theorem first_response_followed_up :
    FollowedUp
      (runEvents step firstMachine [.recvReq (timestampOf 1) (reqOf 1)])
      (step (runEvents step firstMachine [.recvReq (timestampOf 1) (reqOf 1)])
        (.txts (timestampOf 1)))
      (respOf 1) (timestampOf 1) := by
  have hsent :
      (runEvents step firstMachine
        [.recvReq (timestampOf 1) (reqOf 1)]).vars.process.sent.getLast? =
          some { port := 1, message := .pdelayResp (respOf 1) } := by
    decide
  exact (response_followed_up_iff
    ⟨_, [.recvReq (timestampOf 1) (reqOf 1)], rfl, rfl, rfl⟩ (by decide)
    (by decide) hsent rfl).mpr (by decide)

theorem second_request_blocks_response :
    ¬ forall (m : MDPdelayRespMachine) (port : Port) (resp : PTPMsgPdelayResp)
        (tsuTimestamp : TSUTimestamp),
      Reachable m -> m.vars.process.stop = none ->
      m.state = .sentPdelayRespWaitingForTimestamp ->
      m.vars.process.sent.getLast? =
        some { port := port, message := .pdelayResp resp } ->
      tsuTimestamp.sequenceID = resp.head.sequenceId ->
      FollowedUp m (step m (.txts tsuTimestamp)) resp tsuTimestamp := by
  intro h
  have hfollowedUp := h
    (runEvents step firstMachine
      [.recvReq (timestampOf 1) (reqOf 1), .recvReq (timestampOf 2) (reqOf 2)])
    1 (respOf 1) (timestampOf 1)
    ⟨_, [.recvReq (timestampOf 1) (reqOf 1), .recvReq (timestampOf 2) (reqOf 2)],
      rfl, rfl, rfl⟩
    (by decide) (by decide) (by decide) rfl
  exact hfollowedUp.left (by decide)

end MDPdelayRespMachine

end TimeSync
end Ziggo
