import Ziggo.Foundation.Faults
import Ziggo.TimeSync.MDPdelayReqSM.Provenance
import Ziggo.TimeSync.MDPdelayRespSM.Response

/-!
# Messages behind received flags

Both peer delay machines keep a received message behind a pointer and mark it
with a flag.  The flags and the pointers are set together, but they are cleared
and released in different states.  This module determines the calls that may
separate them, and shows that no other call reads a message that is absent.
-/

namespace Ziggo
namespace TimeSync

open Foundation TsnDrivers

/-!
## The responder
-/

namespace MDPdelayRespSM

open MDPdelayRespSMState

/-- A request that is marked as received can be read. -/
def RequestStored (sm : MDPdelayRespSM) : Prop :=
  sm.rcvdPdelayReq = true -> sm.rcvdPdelayReqPtr.IsLive

def ResponseLive (sm : MDPdelayRespSM) : Prop :=
  sm.rcvdPdelayReqPtr.IsLive ∧ sm.txPdelayRespPtr.IsLive

def ReadableBefore (state : MDPdelayRespSMState) (sm : MDPdelayRespSM) : Prop :=
  match state with
  | init | notEnabled | initialWaitingForPdelayReq => sm.RequestStored
  | sentPdelayRespWaitingForTimestamp =>
      sm.rcvdPdelayReqPtr.IsLive ∧ sm.NoTimestamp
  | waitingForPdelayReq => sm.ResponseLive ∧ sm.rcvdPdelayReq = false

/-- What can be read while the machine is in a state. -/
def ReadableDuring (state : MDPdelayRespSMState) (sm : MDPdelayRespSM) : Prop :=
  match state with
  | init | notEnabled => sm.RequestStored
  | initialWaitingForPdelayReq | waitingForPdelayReq =>
      sm.RequestStored ∧ sm.NoTimestamp
  | sentPdelayRespWaitingForTimestamp =>
      sm.ResponseLive ∧ (sm.rcvdPdelayReq = true -> sm.NoTimestamp)

section Conditions

variable {state next : MDPdelayRespSMState} {sm sm' : MDPdelayRespSM}

theorem requestStored_of_before (h : ReadableBefore state sm) :
    sm.RequestStored := by
  cases state with
  | init | notEnabled | initialWaitingForPdelayReq => exact h
  | sentPdelayRespWaitingForTimestamp => exact fun _ => h.left
  | waitingForPdelayReq => exact fun _ => h.left.left

theorem requestStored_of_during (h : ReadableDuring state sm) :
    sm.RequestStored := by
  cases state with
  | init | notEnabled => exact h
  | initialWaitingForPdelayReq | waitingForPdelayReq => exact h.left
  | sentPdelayRespWaitingForTimestamp => exact fun _ => h.left.left

theorem readable_action (hbefore : ReadableBefore state sm)
    (h : action state sm = .ok sm') : ReadableDuring state sm' := by
  cases state with
  | init | notEnabled =>
      cases h
      exact hbefore
  | initialWaitingForPdelayReq =>
      cases h
      exact ⟨fun hflag => (by cases hflag), rfl⟩
  | sentPdelayRespWaitingForTimestamp =>
      rcases sentAction_cases h with ⟨req, hreq, rfl⟩
      exact ⟨⟨⟨req, hreq⟩, Ptr.isLive_live _⟩, fun hflag => (by cases hflag)⟩
  | waitingForPdelayReq =>
      rcases waitingAction_cases h with ⟨req, _, rfl⟩
      refine ⟨fun hflag => ?_, rfl⟩
      exact absurd (hbefore.right.symm.trans hflag) (by simp)

theorem readable_transition (hduring : ReadableDuring state sm)
    (h : transition state sm = .ok next) (hne : next ≠ state) :
    ReadableBefore next sm := by
  cases state with
  | init =>
      cases h
      exact hduring
  | notEnabled =>
      cases notEnabled_left h hne
      exact hduring
  | initialWaitingForPdelayReq =>
      rcases initialWaitingForPdelayReq_left h hne with ⟨rfl, hflag⟩
      exact ⟨hduring.left hflag, hduring.right⟩
  | sentPdelayRespWaitingForTimestamp =>
      rcases sentPdelayRespWaitingForTimestamp_left h hne with
        ⟨rfl, htimestamp⟩
      refine ⟨hduring.left, ?_⟩
      by_contra hflag
      have hnone : sm.rcvdMDTimestampReceiveMDPResp = false :=
        hduring.right (by simpa using hflag)
      rw [hnone] at htimestamp
      cases htimestamp
  | waitingForPdelayReq =>
      rcases waitingForPdelayReq_left h hne with ⟨rfl, hflag⟩
      exact ⟨hduring.left hflag, hduring.right⟩

theorem action_ne_invalidPointer (hbefore : ReadableBefore state sm) :
    action state sm ≠ .error .invalidPointer := by
  cases state with
  | init | notEnabled | initialWaitingForPdelayReq =>
      intro h
      cases h
  | sentPdelayRespWaitingForTimestamp =>
      rcases hbefore.left with ⟨req, hreq⟩
      change sm.sentPdelayRespWaitingForTimestampAction ≠ _
      rw [sentAction_live hreq]
      simp
  | waitingForPdelayReq =>
      rcases hbefore.left with ⟨⟨req, hreq⟩, resp, hresp⟩
      change sm.waitingForPdelayReqAction ≠ _
      rw [waitingAction_live hreq hresp]
      simp

theorem transition_ne_error {f : Fault} : transition state sm ≠ .error f := by
  intro h
  cases state <;> cases h

theorem process_action (h : action state sm = .ok sm') :
    sm'.process.stop = sm.process.stop := by
  cases state with
  | init | notEnabled | initialWaitingForPdelayReq =>
      cases h
      rfl
  | sentPdelayRespWaitingForTimestamp =>
      rcases sentAction_cases h with ⟨req, _, rfl⟩
      rfl
  | waitingForPdelayReq =>
      rcases waitingAction_cases h with ⟨req, _, rfl⟩
      rfl

end Conditions

theorem behaviour_records : behaviour.Records where
  halt _ _ := rfl
  action _ _ _ := process_action

end MDPdelayRespSM

namespace MDPdelayRespMachine

open MDPdelayRespSM

def readable : Program.Annotation behaviour.program :=
  behaviour.annotate ReadableBefore ReadableDuring
    (fun _ _ _ => readable_action) (fun _ _ _ => readable_transition)

/--
The flag of the machine tells the truth about its pointer, and nothing has been
read through a pointer that designates no message.
-/
structure PointersValid (m : MDPdelayRespMachine) : Prop where
  request : m.vars.RequestStored
  valid : m.vars.process.stop ≠ some .invalidPointer

/-- A machine between two calls, at rest if the process is running. -/
structure Sound (m : MDPdelayRespMachine) : Prop extends PointersValid m where
  during : m.vars.process.stop = none ->
    m.Quiescent ∧ ReadableDuring m.state m.vars ∧
      (m.state = .sentPdelayRespWaitingForTimestamp -> m.vars.NoTimestamp)

/--
The timestamp of a response does not come after a request that is still to be
answered.
-/
def AnsweredInTurn (m : MDPdelayRespMachine) (e : Event) : Prop :=
  forall tsuTimestamp req, e = .txts tsuTimestamp ->
    m.state = .sentPdelayRespWaitingForTimestamp ->
    m.vars.rcvdPdelayReqPtr = .live req ->
    tsuTimestamp.sequenceID = req.head.sequenceId ->
    m.vars.rcvdPdelayReq = false

section Calls

variable {m : MDPdelayRespMachine}

theorem holds_ready (hq : m.Quiescent)
    (hduring : ReadableDuring m.state m.vars) : readable.Holds m.ready := by
  unfold ready allStateTransition
  split
  · exact ⟨fun _ => requestStored_of_during hduring,
      fun _ => requestStored_of_during hduring⟩
  · exact ⟨fun _ => hduring, fun h => absurd hq h⟩

theorem sound_run (hrunning : m.vars.process.stop = none)
    (hholds : readable.Holds m.ready) : Sound m.run := by
  have hready : m.ready.vars.process.stop = none := hrunning
  refine ⟨⟨?_, ?_⟩, fun hrun => ?_⟩
  · exact Behaviour.run_always behaviour_records readable
      (fun _ _ => requestStored_of_before) (fun _ _ => requestStored_of_during)
      (fun _ _ h => h) passes hholds hready
  · exact Behaviour.fault_run_ne behaviour_records readable
      (fun _ _ => action_ne_invalidPointer) (fun _ _ _ => transition_ne_error)
      (by decide) passes hholds hready
  · have hpost := readable.run_post passes hholds hrun
    have hsettled : transition m.run.state m.run.vars = .ok m.run.state :=
      Behaviour.transition_goto.mp
        (Program.run_settled behaviour.program passes hrun).right
    refine ⟨hpost.left, hpost.right, fun hstate => ?_⟩
    rw [hstate] at hsettled
    by_contra htimestamp
    have hflag : m.run.vars.rcvdMDTimestampReceiveMDPResp = true := by
      simpa [NoTimestamp] using htimestamp
    have hnext : m.run.vars.sentPdelayRespWaitingForTimestampStateTransition =
        .sentPdelayRespWaitingForTimestamp :=
      Except.ok.inj hsettled
    rw [sentPdelayRespWaitingForTimestampStateTransition, if_pos hflag] at hnext
    cases hnext

theorem sound_txts {tsuTimestamp : TSUTimestamp} (h : Sound m)
    (hrunning : m.vars.process.stop = none)
    (hinTurn : AnsweredInTurn m (.txts tsuTimestamp)) :
    Sound (m.txts tsuTimestamp) := by
  obtain ⟨hq, hduring, hnone⟩ := h.during hrunning
  by_cases hstate : m.state = .sentPdelayRespWaitingForTimestamp
  · rw [hstate] at hduring
    rcases hduring.left with ⟨⟨req, hreq⟩, hresp⟩
    rw [txts_sent hstate hreq]
    split
    · exact h
    · rename_i hsequenceId
      have hflag : m.vars.rcvdPdelayReq = false :=
        hinTurn tsuTimestamp req rfl hstate hreq (not_not.mp hsequenceId)
      have hstored : ReadableDuring m.state
          (m.vars.storeTimestamp tsuTimestamp) := by
        rw [hstate]
        exact ⟨hduring.left,
          fun htrue => absurd (hflag.symm.trans htrue) (by simp)⟩
      exact @sound_run { m with vars := m.vars.storeTimestamp tsuTimestamp }
        hrunning (holds_ready hq hstored)
  · unfold txts
    rw [if_pos hstate]
    exact h

theorem sound_recvReq (h : Sound m) (hrunning : m.vars.process.stop = none)
    (tsuTimestamp : TSUTimestamp) (pdelayReq : PTPMsgPdelayReq) :
    Sound (m.recvReq tsuTimestamp pdelayReq) := by
  obtain ⟨hq, hduring, hnone⟩ := h.during hrunning
  have hlive : (m.vars.storeReq tsuTimestamp pdelayReq).RequestStored :=
    fun _ => Ptr.isLive_live pdelayReq
  have hstored : ReadableDuring m.state
      (m.vars.storeReq tsuTimestamp pdelayReq) := by
    cases hstate : m.state with
    | init | notEnabled => exact hlive
    | initialWaitingForPdelayReq | waitingForPdelayReq =>
        rw [hstate] at hduring
        exact ⟨hlive, hduring.right⟩
    | sentPdelayRespWaitingForTimestamp =>
        rw [hstate] at hduring
        exact ⟨⟨Ptr.isLive_live pdelayReq, hduring.left.right⟩,
          fun _ => hnone hstate⟩
  exact @sound_run { m with vars := m.vars.storeReq tsuTimestamp pdelayReq }
    hrunning (holds_ready hq hstored)

theorem sound_step {e : Event} (h : Sound m) (hinTurn : AnsweredInTurn m e) :
    Sound (step m e) := by
  by_cases hrunning : m.vars.process.stop = none
  · rw [step_running e hrunning]
    cases e with
    | txts tsuTimestamp => exact sound_txts h hrunning hinTurn
    | recvReq tsuTimestamp pdelayReq =>
        exact sound_recvReq h hrunning tsuTimestamp pdelayReq
  · rw [step_stopped e hrunning]
    exact h

end Calls

section Start

variable {memory : MDPdelayRespSM}

/-- From the state that the initialization leads to, the machine gets this far. -/
theorem run_notEnabled {lastState : Option MDPdelayRespSMState} (fuel : Nat)
    (hlast : lastState ≠ some .notEnabled)
    (henabled : memory.portEnabled1 = true)
    (hrunning : memory.process.stop = none) :
    behaviour.program.run (fuel + 2)
        { state := .notEnabled, lastState := lastState, vars := memory } =
      { state := .initialWaitingForPdelayReq
        lastState := some .initialWaitingForPdelayReq
        vars := memory.initialWaitingForPdelayReqAction } := by
  have hnext : transition .notEnabled memory =
      .ok .initialWaitingForPdelayReq := by
    change Except.ok memory.notEnabledStateTransition = _
    rw [notEnabledStateTransition, if_pos henabled]
  have hleave := @Behaviour.run_enter_leave _ _ _ behaviour
    { state := .notEnabled, lastState := lastState, vars := memory } (fuel + 1)
    memory .initialWaitingForPdelayReq hlast rfl hrunning hnext (by simp)
  rw [hleave]
  exact Behaviour.run_enter_rest fuel (by simp [Machine.Quiescent]) rfl hrunning
    rfl

theorem init_waiting (hrunning : memory.process.stop = none) :
    initMdPdelayRespSm memory =
      { state := .initialWaitingForPdelayReq
        lastState := some .initialWaitingForPdelayReq
        vars := initialWaitingForPdelayReqAction
          { memory with portEnabled1 := true, rcvdPdelayReqPtr := .null } } := by
  unfold initMdPdelayRespSm run ready allStateTransition
  dsimp only
  split
  · exact run_notEnabled 14 (by simp) rfl hrunning
  · have hleave := @Behaviour.run_enter_leave _ _ _ behaviour
      { state := .init, lastState := none
        vars :=
          { memory with portEnabled1 := true, rcvdPdelayReqPtr := .null } }
      15 _ .notEnabled (by simp [Machine.Quiescent]) rfl hrunning rfl (by simp)
    exact hleave.trans (run_notEnabled 13 (by simp) rfl hrunning)

theorem sound_init (hrunning : memory.process.stop = none) :
    Sound (initMdPdelayRespSm memory) := by
  rw [init_waiting hrunning]
  have hstored : RequestStored (initialWaitingForPdelayReqAction
      { memory with portEnabled1 := true, rcvdPdelayReqPtr := .null }) :=
    fun hflag => (by cases hflag)
  refine ⟨⟨hstored, ?_⟩, fun _ => ⟨rfl, ⟨hstored, rfl⟩, fun _ => rfl⟩⟩
  change memory.process.stop ≠ _
  rw [hrunning]
  simp

theorem sound_reachable (hrunning : memory.process.stop = none)
    {events : List Event}
    (h : Along step AnsweredInTurn (initMdPdelayRespSm memory) events) :
    Sound (runEvents step (initMdPdelayRespSm memory) events) :=
  run_invariant (sound_init hrunning) (fun _ _ hsound => sound_step hsound) h

end Start

/-- A timestamp out of turn makes the machine read the request it released. -/
theorem invalidPointer_of_not_inTurn {m : MDPdelayRespMachine} {e : Event}
    (hreachable : Reachable m) (hrunning : m.vars.process.stop = none)
    (h : ¬ AnsweredInTurn m e) :
    (step m e).vars.process.stop = some .invalidPointer := by
  have hrest := hreachable.atRest hrunning
  unfold AnsweredInTurn at h
  push Not at h
  rcases h with ⟨tsuTimestamp, req, rfl, hstate, hreq, hsequenceId, hflag⟩
  have hduring := hrest.during
  rw [hstate] at hduring
  rcases hduring with ⟨resp, _, hresp, _⟩
  rw [step_running _ hrunning]
  change (m.txts tsuTimestamp).vars.process.stop = _
  rw [txts_sent hstate hreq, if_neg (not_not.mpr hsequenceId)]
  exact (run_timestamp_fault hrest hstate hreq hresp (by simpa using hflag)).right

end MDPdelayRespMachine

/-!
## The initiator
-/

namespace MDPdelayReqSM

open MDPdelayReqSMState

/-- A message that is marked as received can be read. -/
structure MessagesStored (sm : MDPdelayReqSM) : Prop where
  resp : sm.rcvdPdelayResp = true -> sm.rcvdPdelayRespPtr.IsLive
  followUp : sm.FollowUpStored

def ReadableBefore (state : MDPdelayReqSMState) (sm : MDPdelayReqSM) : Prop :=
  match state with
  | init | notEnabled | initialSendPdelayReq | reset | sendPdelayReq =>
      sm.MessagesStored
  | waitingForPdelayResp => sm.MessagesStored ∧ sm.txPdelayReqPtr.IsLive
  | waitingForPdelayRespFollowUp =>
      sm.MessagesStored ∧ sm.txPdelayReqPtr.IsLive ∧ sm.rcvdPdelayRespPtr.IsLive
  | waitingForPdelayIntervalTimer =>
      sm.txPdelayReqPtr.IsLive ∧ sm.rcvdPdelayRespPtr.IsLive ∧
        sm.rcvdPdelayRespFollowUpPtr.IsLive ∧ sm.rcvdPdelayResp = false

/-- What can be read while the machine is in a state. -/
def ReadableDuring (state : MDPdelayReqSMState) (sm : MDPdelayReqSM) : Prop :=
  match state with
  | init | notEnabled | reset | waitingForPdelayIntervalTimer =>
      sm.MessagesStored
  | initialSendPdelayReq | sendPdelayReq | waitingForPdelayResp =>
      sm.MessagesStored ∧ sm.txPdelayReqPtr.IsLive
  | waitingForPdelayRespFollowUp =>
      sm.MessagesStored ∧ sm.txPdelayReqPtr.IsLive ∧ sm.rcvdPdelayRespPtr.IsLive

/--
A `Pdelay_Resp` that is marked as received is not left over when the exchange
completes.
-/
def NoRespLeft (ts : UScaledNs) (state : MDPdelayReqSMState)
    (sm : MDPdelayReqSM) : Prop :=
  state = waitingForPdelayRespFollowUp ->
    sm.waitingForPdelayRespFollowUpStateTransition ts =
      .ok waitingForPdelayIntervalTimer ->
    sm.rcvdPdelayResp = false

section Conditions

variable {ts : UScaledNs} {state next : MDPdelayReqSMState}
  {sm sm' : MDPdelayReqSM}

theorem messagesStored_of_before (h : ReadableBefore state sm) :
    sm.MessagesStored := by
  cases state with
  | init | notEnabled | initialSendPdelayReq | reset | sendPdelayReq => exact h
  | waitingForPdelayResp | waitingForPdelayRespFollowUp => exact h.left
  | waitingForPdelayIntervalTimer =>
      exact ⟨fun _ => h.right.left, fun _ => h.right.right.left⟩

theorem messagesStored_of_during (h : ReadableDuring state sm) :
    sm.MessagesStored := by
  cases state with
  | init | notEnabled | reset | waitingForPdelayIntervalTimer => exact h
  | initialSendPdelayReq | sendPdelayReq | waitingForPdelayResp |
    waitingForPdelayRespFollowUp => exact h.left

theorem readable_mono (h : ReadableDuring state sm)
    (hstored : sm.MessagesStored -> sm'.MessagesStored)
    (hreq : sm.txPdelayReqPtr.IsLive -> sm'.txPdelayReqPtr.IsLive)
    (hresp : sm.rcvdPdelayRespPtr.IsLive -> sm'.rcvdPdelayRespPtr.IsLive) :
    ReadableDuring state sm' := by
  cases state with
  | init | notEnabled | reset | waitingForPdelayIntervalTimer =>
      exact hstored h
  | initialSendPdelayReq | sendPdelayReq | waitingForPdelayResp =>
      exact ⟨hstored h.left, hreq h.right⟩
  | waitingForPdelayRespFollowUp =>
      exact ⟨hstored h.left, hreq h.right.left, hresp h.right.right⟩

/-!
### Transitions
-/

theorem waitingForPdelayResp_readable (hreq : sm.txPdelayReqPtr.IsLive)
    (hstored : sm.MessagesStored) :
    exists next, sm.waitingForPdelayRespStateTransition ts = .ok next ∧
      (next = reset ∨ next = waitingForPdelayResp ∨
        (next = waitingForPdelayRespFollowUp ∧
          sm.rcvdPdelayRespPtr.IsLive)) := by
  rcases hreq with ⟨req, hreq⟩
  cases helapsed : sm.intervalElapsed ts with
  | true => exact ⟨reset, waitingForPdelayResp_elapsed helapsed, Or.inl rfl⟩
  | false =>
      cases hflag : sm.rcvdPdelayResp with
      | false =>
          exact ⟨waitingForPdelayResp, waitingForPdelayResp_stay helapsed hflag,
            Or.inr (Or.inl rfl)⟩
      | true =>
          rcases hstored.resp hflag with ⟨resp, hresp⟩
          by_cases hanswers : resp.head.sequenceId = req.head.sequenceId ∧
              resp.requestingPortIdentity = sm.portId
          · refine ⟨waitingForPdelayRespFollowUp, ?_,
              Or.inr (Or.inr ⟨rfl, resp, hresp⟩)⟩
            simp [waitingForPdelayRespStateTransition, helapsed, hflag, hresp,
              hreq, hanswers, bind, Except.bind, pure, Except.pure]
          · refine ⟨reset, ?_, Or.inl rfl⟩
            simp [waitingForPdelayRespStateTransition, helapsed, hflag, hresp,
              hreq, hanswers, bind, Except.bind, pure, Except.pure]

theorem duplicateResp_readable (hreq : sm.txPdelayReqPtr.IsLive)
    (hstored : sm.MessagesStored) :
    exists duplicate, sm.duplicateResp = .ok duplicate := by
  rcases hreq with ⟨req, hreq⟩
  cases hflag : sm.rcvdPdelayResp with
  | false => exact ⟨false, duplicateResp_absent hflag⟩
  | true =>
      rcases hstored.resp hflag with ⟨resp, hresp⟩
      unfold duplicateResp
      rw [if_pos hflag, hresp, hreq]
      exact ⟨_, rfl⟩

theorem respFollowUpAccepted_readable (hreq : sm.txPdelayReqPtr.IsLive)
    (hresp : sm.rcvdPdelayRespPtr.IsLive) (hstored : sm.MessagesStored) :
    exists accepted, sm.respFollowUpAccepted = .ok accepted := by
  rcases hreq with ⟨req, hreq⟩
  rcases hresp with ⟨resp, hresp⟩
  cases hflag : sm.rcvdPdelayRespFollowUp with
  | false => exact ⟨false, respFollowUpAccepted_absent hflag⟩
  | true =>
      rcases hstored.followUp hflag with ⟨followUp, hfollowUp⟩
      unfold respFollowUpAccepted
      rw [if_pos hflag, hfollowUp, hreq, hresp]
      simp only [Ptr.deref_live, bind, Except.bind]
      split
      · exact ⟨_, rfl⟩
      · exact ⟨_, rfl⟩

theorem waitingForPdelayRespFollowUp_readable
    (hreq : sm.txPdelayReqPtr.IsLive) (hresp : sm.rcvdPdelayRespPtr.IsLive)
    (hstored : sm.MessagesStored) :
    exists next,
      sm.waitingForPdelayRespFollowUpStateTransition ts = .ok next := by
  rcases duplicateResp_readable hreq hstored with ⟨duplicate, hduplicate⟩
  rcases respFollowUpAccepted_readable hreq hresp hstored with
    ⟨accepted, haccepted⟩
  cases helapsed : sm.intervalElapsed ts with
  | true =>
      refine ⟨reset, ?_⟩
      rw [waitingForPdelayRespFollowUpStateTransition, if_pos helapsed]
      rfl
  | false =>
      exact ⟨_, waitingForPdelayRespFollowUp_next helapsed hduplicate haccepted⟩

theorem readable_transition (hduring : ReadableDuring state sm)
    (hleft : NoRespLeft ts state sm) (h : transition ts state sm = .ok next)
    (hne : next ≠ state) : ReadableBefore next sm := by
  cases state with
  | init =>
      cases h
      exact hduring
  | notEnabled =>
      cases notEnabled_left h hne
      exact hduring
  | initialSendPdelayReq =>
      rcases initialSendPdelayReq_left h hne with ⟨rfl, _⟩
      exact hduring
  | waitingForPdelayResp =>
      rcases waitingForPdelayResp_readable hduring.right hduring.left with
        ⟨next', hnext', hcases⟩
      cases h.symm.trans hnext'
      rcases hcases with rfl | hstay | ⟨rfl, hresp⟩
      · exact hduring.left
      · exact absurd hstay hne
      · exact ⟨hduring.left, hduring.right, hresp⟩
  | waitingForPdelayRespFollowUp =>
      rcases waitingForPdelayRespFollowUp_cases h with
        rfl | hstay | ⟨rfl, _, _, haccepted⟩
      · exact hduring.left
      · exact absurd hstay hne
      · have hflag : sm.rcvdPdelayRespFollowUp = true := by
          by_contra hflag
          rw [respFollowUpAccepted_absent (by simpa using hflag)] at haccepted
          cases haccepted
        exact ⟨hduring.right.left, hduring.right.right,
          hduring.left.followUp hflag, hleft rfl h⟩
  | waitingForPdelayIntervalTimer =>
      rcases waitingForPdelayIntervalTimer_left h hne with ⟨rfl, _⟩
      exact hduring
  | reset =>
      rcases reset_left h hne with ⟨rfl, _⟩
      exact hduring
  | sendPdelayReq =>
      rcases sendPdelayReq_left h hne with ⟨rfl, _⟩
      exact hduring

theorem transition_ne_invalidPointer (hduring : ReadableDuring state sm) :
    transition ts state sm ≠ .error .invalidPointer := by
  intro h
  cases state with
  | waitingForPdelayResp =>
      rcases waitingForPdelayResp_readable hduring.right hduring.left with
        ⟨next, hnext, _⟩
      cases h.symm.trans hnext
  | waitingForPdelayRespFollowUp =>
      rcases @waitingForPdelayRespFollowUp_readable ts sm hduring.right.left
        hduring.right.right hduring.left with ⟨next, hnext⟩
      cases h.symm.trans hnext
  | _ => cases h

/-!
### Actions
-/

theorem readable_action (hbefore : ReadableBefore state sm)
    (h : action ts state sm = .ok sm') :
    ReadableDuring state sm' ∧ NoRespLeft ts state sm' := by
  cases state with
  | init | notEnabled =>
      cases h
      exact ⟨hbefore, fun hstate => (by cases hstate)⟩
  | initialSendPdelayReq =>
      cases h
      exact ⟨⟨⟨fun hflag => (by cases hflag), fun hflag => (by cases hflag)⟩,
        Ptr.isLive_live _⟩, fun hstate => (by cases hstate)⟩
  | waitingForPdelayResp =>
      cases h
      exact ⟨⟨⟨hbefore.left.resp, hbefore.left.followUp⟩, hbefore.right⟩,
        fun hstate => (by cases hstate)⟩
  | waitingForPdelayRespFollowUp =>
      cases h
      exact ⟨⟨⟨fun hflag => (by cases hflag), hbefore.left.followUp⟩,
        hbefore.right⟩, fun _ _ => rfl⟩
  | waitingForPdelayIntervalTimer =>
      have hdata := exchangeData_waitingForPdelayIntervalTimerAction h
      have hresp : sm'.rcvdPdelayResp = false :=
        (congrArg ExchangeData.rcvdPdelayResp hdata).trans
          hbefore.right.right.right
      have hfollowUp : sm'.rcvdPdelayRespFollowUp = false :=
        congrArg ExchangeData.rcvdPdelayRespFollowUp hdata
      refine ⟨⟨fun hflag => ?_, fun hflag => ?_⟩,
        fun hstate => (by cases hstate)⟩
      · exact absurd (hresp.symm.trans hflag) (by simp)
      · exact absurd (hfollowUp.symm.trans hflag) (by simp)
  | reset =>
      cases h
      refine ⟨?_, fun hstate => (by cases hstate)⟩
      unfold resetAction
      dsimp only
      split <;>
        exact ⟨fun hflag => (by cases hflag), hbefore.followUp⟩
  | sendPdelayReq =>
      cases h
      exact ⟨⟨⟨hbefore.resp, hbefore.followUp⟩, Ptr.isLive_live _⟩,
        fun hstate => (by cases hstate)⟩

/-- The pointers that the end of an exchange releases. -/
structure Pointers where
  req : Ptr PTPMsgPdelayReq
  resp : Ptr PTPMsgPdelayResp
  followUp : Ptr PTPMsgPdelayRespFollowUp

structure Pointers.Live (p : Pointers) : Prop where
  req : p.req.IsLive
  resp : p.resp.IsLive
  followUp : p.followUp.IsLive

def pointers (sm : MDPdelayReqSM) : Pointers where
  req := sm.txPdelayReqPtr
  resp := sm.rcvdPdelayRespPtr
  followUp := sm.rcvdPdelayRespFollowUpPtr

theorem pointers_updateAsCapable (sm : MDPdelayReqSM)
    (resp : PTPMsgPdelayResp) :
    (sm.updateAsCapable resp).pointers = sm.pointers := by
  unfold updateAsCapable
  dsimp only
  split_ifs <;> rfl

theorem pointers_updateNeighborRateRatio
    (h : sm.updateNeighborRateRatio = .ok sm') :
    sm'.pointers = sm.pointers := by
  unfold updateNeighborRateRatio at h
  split at h
  · obtain ⟨⟨r, head⟩, _, hr⟩ := bind_eq_ok.mp h
    cases hr
    rfl
  · cases h
    rfl

theorem pointers_updateMeanLinkDelay (h : sm.updateMeanLinkDelay = .ok sm') :
    sm'.pointers = sm.pointers := by
  unfold updateMeanLinkDelay at h
  split at h
  · obtain ⟨propTime, _, hm⟩ := bind_eq_ok.mp h
    cases hm
    rfl
  · cases h
    rfl

theorem pointers_measureDelay (h : sm.measureDelay = .ok sm') :
    sm'.pointers = sm.pointers := by
  unfold measureDelay at h
  split at h
  · cases h
    rfl
  · obtain ⟨rated, hrated, h⟩ := bind_eq_ok.mp h
    obtain ⟨measured, hmeasured, h⟩ := bind_eq_ok.mp h
    obtain ⟨resp, _, h⟩ := bind_eq_ok.mp h
    cases h
    have hrate := pointers_updateNeighborRateRatio hrated
    exact (pointers_updateAsCapable _ resp).trans
      ((pointers_updateMeanLinkDelay hmeasured).trans hrate)

theorem measureDelay_ne_invalidPointer (hresp : sm.rcvdPdelayRespPtr.IsLive) :
    sm.measureDelay ≠ .error .invalidPointer := by
  intro h
  unfold measureDelay at h
  split at h
  · cases h
  · rcases bind_eq_error.mp h with h | ⟨rated, hrated, h⟩
    · rcases updateNeighborRateRatio_error h with h | h <;> cases h
    · rcases bind_eq_error.mp h with h | ⟨measured, hmeasured, h⟩
      · cases updateMeanLinkDelay_error h
      · have hrate := pointers_updateNeighborRateRatio hrated
        have hsame : measured.rcvdPdelayRespPtr = sm.rcvdPdelayRespPtr :=
          congrArg Pointers.resp
            ((pointers_updateMeanLinkDelay hmeasured).trans hrate)
        rcases hresp with ⟨resp, hresp⟩
        rw [hsame, hresp] at h
        rcases bind_eq_error.mp h with h | ⟨_, _, h⟩ <;> cases h

theorem freeMessages_live (h : sm.pointers.Live) :
    sm.freeMessages =
      .ok { sm with
        txPdelayReqPtr := .released
        rcvdPdelayRespPtr := .released
        rcvdPdelayRespFollowUpPtr := .released } := by
  rcases h.req with ⟨req, hreq⟩
  rcases h.resp with ⟨resp, hresp⟩
  rcases h.followUp with ⟨followUp, hfollowUp⟩
  change sm.txPdelayReqPtr = _ at hreq
  change sm.rcvdPdelayRespPtr = _ at hresp
  change sm.rcvdPdelayRespFollowUpPtr = _ at hfollowUp
  unfold freeMessages
  rw [hreq, hresp, hfollowUp]
  rfl

theorem action_ne_invalidPointer (hbefore : ReadableBefore state sm) :
    action ts state sm ≠ .error .invalidPointer := by
  intro h
  cases state with
  | waitingForPdelayIntervalTimer =>
      rcases hbefore with ⟨hreq, hresp, hfollowUp, _⟩
      rcases bind_eq_error.mp h with h | ⟨measured, hmeasured, h⟩
      · let cleared : MDPdelayReqSM :=
          { sm with rcvdPdelayRespFollowUp := false, lostResponses := 0 }
        exact (measureDelay_ne_invalidPointer hresp :
          cleared.measureDelay ≠ .error .invalidPointer) h
      · have hpointers := pointers_measureDelay hmeasured
        have hlive : measured.pointers.Live := by
          rw [hpointers]
          exact ⟨hreq, hresp, hfollowUp⟩
        rw [freeMessages_live hlive] at h
        cases h
  | _ => cases h

end Conditions

end MDPdelayReqSM

namespace MDPdelayReqMachine

open MDPdelayReqSM

def readable (ts : UScaledNs) : Program.Annotation (behaviour ts).program :=
  (behaviour ts).annotate ReadableBefore
    (fun state sm => ReadableDuring state sm ∧ NoRespLeft ts state sm)
    (fun _ _ _ => readable_action)
    (fun _ _ _ hpost => readable_transition hpost.left hpost.right)

/--
The flags of the machine tell the truth about their pointers, and nothing has
been read through a pointer that designates no message.
-/
structure PointersValid (m : MDPdelayReqMachine) : Prop where
  stored : m.vars.MessagesStored
  valid : m.vars.process.stop ≠ some .invalidPointer

/-- A machine between two calls, at rest if the process is running. -/
structure Sound (m : MDPdelayReqMachine) : Prop extends PointersValid m where
  during : m.vars.process.stop = none ->
    m.Quiescent ∧ ReadableDuring m.state m.vars

/-- The exchange does not complete in this call with a response left over. -/
def NothingLeft (m : MDPdelayReqMachine) (e : Event) : Prop :=
  match e with
  | .run ts => NoRespLeft ts m.state m.vars
  | .txts _ _ => True
  | .recvResp ts _ pdelayResp =>
      NoRespLeft ts m.state (m.vars.storeResp pdelayResp)
  | .recvRespFollowUp ts pdelayRespFollowUp =>
      NoRespLeft ts m.state (m.vars.storeRespFollowUp pdelayRespFollowUp)

section Calls

variable {m : MDPdelayReqMachine} {ts : UScaledNs}

theorem holds_ready (hq : m.Quiescent)
    (hduring : ReadableDuring m.state m.vars)
    (hleft : NoRespLeft ts m.state m.vars) : (readable ts).Holds m.ready := by
  have hstored := messagesStored_of_during hduring
  unfold ready allStateTransition
  split
  · exact ⟨fun _ => ⟨hstored, fun hstate => (by cases hstate)⟩,
      fun _ => hstored⟩
  · exact ⟨fun _ => ⟨hduring, hleft⟩, fun h => absurd hq h⟩

theorem sound_run (hrunning : m.vars.process.stop = none)
    (hholds : (readable ts).Holds m.ready) : Sound (m.run ts) := by
  have hready : m.ready.vars.process.stop = none := hrunning
  refine ⟨⟨?_, ?_⟩, fun hrun => ?_⟩
  · exact Behaviour.run_always (behaviour_records ts) (readable ts)
      (fun _ _ => messagesStored_of_before)
      (fun _ _ h => messagesStored_of_during h.left)
      (fun _ _ h => ⟨h.resp, h.followUp⟩) passes hholds hready
  · exact Behaviour.fault_run_ne (behaviour_records ts) (readable ts)
      (fun _ _ => action_ne_invalidPointer)
      (fun _ _ h => transition_ne_invalidPointer h.left) (by decide) passes
      hholds hready
  · have hpost := (readable ts).run_post passes hholds hrun
    exact ⟨hpost.left, hpost.right.left⟩

theorem sound_step {e : Event} (h : Sound m) (hleft : NothingLeft m e) :
    Sound (step m e) := by
  by_cases hrunning : m.vars.process.stop = none
  · obtain ⟨hq, hduring⟩ := h.during hrunning
    have hstored := messagesStored_of_during hduring
    rw [step_running e hrunning]
    cases e with
    | run ts => exact sound_run hrunning (holds_ready hq hduring hleft)
    | txts ts tsuTimestamp =>
        dsimp only [txts]
        split
        · exact h
        · rename_i hstate
          split
          · exact h
          · have hkept : ReadableDuring m.state
                (m.vars.storeTimestamp tsuTimestamp) :=
              readable_mono hduring (fun h => ⟨h.resp, h.followUp⟩) id id
            refine @sound_run
              { m with vars := m.vars.storeTimestamp tsuTimestamp } ts hrunning
              (holds_ready hq hkept fun hwaiting => ?_)
            have hsending := sending_of_not hstate
            change m.state = _ at hwaiting
            rw [hwaiting] at hsending
            simp at hsending
    | recvResp ts tsuTimestamp pdelayResp =>
        have hkept : ReadableDuring m.state (m.vars.storeResp pdelayResp) :=
          readable_mono hduring
            (fun h => ⟨fun _ => Ptr.isLive_live pdelayResp, h.followUp⟩) id
            (fun _ => Ptr.isLive_live pdelayResp)
        have hsound := @sound_run
          { m with vars := m.vars.storeResp pdelayResp } ts hrunning
          (holds_ready hq hkept hleft)
        exact ⟨⟨⟨hsound.stored.resp, hsound.stored.followUp⟩, hsound.valid⟩,
          fun hrun => ⟨(hsound.during hrun).left,
            readable_mono (hsound.during hrun).right
              (fun h => ⟨h.resp, h.followUp⟩) id id⟩⟩
    | recvRespFollowUp ts pdelayRespFollowUp =>
        have hkept : ReadableDuring m.state
            (m.vars.storeRespFollowUp pdelayRespFollowUp) :=
          readable_mono hduring
            (fun h => ⟨h.resp, fun _ => Ptr.isLive_live pdelayRespFollowUp⟩)
            id id
        exact @sound_run
          { m with vars := m.vars.storeRespFollowUp pdelayRespFollowUp } ts
          hrunning (holds_ready hq hkept hleft)
  · rw [step_stopped e hrunning]
    exact h

end Calls

section Start

variable {memory : MDPdelayReqSM}

theorem run_init_enabled (henabled : memory.Enabled)
    (hrunning : memory.process.stop = none) (ts : UScaledNs) :
    run { state := .init, lastState := none, vars := memory } ts =
      { state := .initialSendPdelayReq
        lastState := some .initialSendPdelayReq
        vars := memory.initialSendPdelayReqAction ts } := by
  have hinit := @Behaviour.run_enter_leave _ _ _ (behaviour ts)
    { state := .init, lastState := none, vars := memory } 15 memory .notEnabled
    (by simp [Machine.Quiescent]) rfl hrunning rfl (by simp)
  have hnext : transition ts .notEnabled memory = .ok .initialSendPdelayReq := by
    change Except.ok memory.notEnabledStateTransition = _
    rw [notEnabledStateTransition,
      if_pos ⟨henabled.right.left, henabled.right.right⟩]
  have hnotEnabled := @Behaviour.run_enter_leave _ _ _ (behaviour ts)
    { state := .notEnabled, lastState := some .init, vars := memory } 14 memory
    .initialSendPdelayReq (by simp [Machine.Quiescent]) rfl hrunning hnext
    (by simp)
  unfold run
  rw [ready_enabled henabled]
  refine hinit.trans (hnotEnabled.trans ?_)
  exact Behaviour.run_enter_rest 13 (by simp [Machine.Quiescent]) rfl hrunning
    rfl

theorem sound_start (hrunning : memory.process.stop = none)
    (hstart : memory.Enabled ∨ memory.MessagesStored) (ts : UScaledNs) :
    Sound (run { state := .init, lastState := none, vars := memory } ts) := by
  rcases hstart with henabled | hstored
  · rw [run_init_enabled henabled hrunning]
    have hsent : (memory.initialSendPdelayReqAction ts).MessagesStored :=
      ⟨fun hflag => (by cases hflag), fun hflag => (by cases hflag)⟩
    refine ⟨⟨hsent, ?_⟩, fun _ => ⟨rfl, hsent, Ptr.isLive_live _⟩⟩
    change memory.process.stop ≠ _
    rw [hrunning]
    simp
  · refine sound_run hrunning ?_
    unfold ready allStateTransition
    split
    · exact ⟨fun hq => (by cases hq), fun _ => hstored⟩
    · exact ⟨fun hq => (by cases hq), fun _ => hstored⟩

theorem sound_init (hrunning : memory.process.stop = none)
    (hstart : memory.perPTPInstanceGlobal.BEGIN = false ∧
        memory.perPortGlobal.portOper = true ∨ memory.MessagesStored) :
    Sound (initMdPdelayReqSm memory) :=
  @sound_start
    { memory with
      portEnabled0 := true
      listHeadPropTime := 0
      listTailPropTime := Fin.last _
      isEmptyPropTime := true }
    hrunning
    (hstart.imp (fun h => ⟨h.left, h.right, rfl⟩)
      (fun h => ⟨h.resp, h.followUp⟩)) _

theorem sound_reachable (hrunning : memory.process.stop = none)
    (hstart : memory.perPTPInstanceGlobal.BEGIN = false ∧
        memory.perPortGlobal.portOper = true ∨ memory.MessagesStored)
    {events : List Event}
    (h : Along step NothingLeft (initMdPdelayReqSm memory) events) :
    Sound (runEvents step (initMdPdelayReqSm memory) events) :=
  run_invariant (sound_init hrunning hstart)
    (fun _ _ hsound => sound_step hsound) h

end Start

/-!
### Responses that are left over
-/

section LeftOver

variable {m : MDPdelayReqMachine} {ts : UScaledNs}

/-- The exchange that completes releases a response that stays marked. -/
theorem left_run (hq : m.Quiescent) (henabled : m.vars.Enabled)
    (hrunning : m.vars.process.stop = none)
    (h : ¬ NoRespLeft ts m.state m.vars)
    (hcompleted : (m.run ts).vars.process.stop = none) :
    ¬ (m.run ts).vars.MessagesStored := by
  unfold NoRespLeft at h
  push Not at h
  rcases h with ⟨hstate, hnext, hflag⟩
  have hflag : m.vars.rcvdPdelayResp = true := by simpa using hflag
  have helapsed : m.vars.intervalElapsed ts = false := by
    rcases waitingForPdelayRespFollowUp_cases hnext with h | h | h
    · cases h
    · cases h
    · exact h.right.left
  have hleave : m.run ts = (behaviour ts).program.run 15
      { state := .waitingForPdelayIntervalTimer, lastState := some m.state,
        vars := m.vars } := by
    unfold run
    rw [ready_enabled henabled]
    refine Behaviour.run_leave 15 hq hrunning ?_ (by rw [hstate]; decide)
    rw [hstate]
    exact hnext
  have hentered : ¬ Machine.Quiescent
      ({ state := .waitingForPdelayIntervalTimer, lastState := some m.state,
         vars := m.vars } : MDPdelayReqMachine) := by
    rw [hstate]
    simp [Machine.Quiescent]
  cases haction : m.vars.waitingForPdelayIntervalTimerAction with
  | error f =>
      rw [hleave, Behaviour.run_enter_fail 14 hentered haction] at hcompleted
      exact absurd hcompleted ((behaviour ts).fault_halt f m.vars)
  | ok sm =>
      have hdata := exchangeData_waitingForPdelayIntervalTimerAction haction
      have hresp : sm.rcvdPdelayResp = true :=
        (congrArg ExchangeData.rcvdPdelayResp hdata).trans hflag
      have hstay : transition ts .waitingForPdelayIntervalTimer sm =
          .ok .waitingForPdelayIntervalTimer := by
        have htimer : sm.pdelayIntervalTimer = m.vars.pdelayIntervalTimer :=
          congrArg ExchangeData.pdelayIntervalTimer hdata
        have hinterval : sm.mdEntityGlobal.pdelayReqInterval =
            m.vars.mdEntityGlobal.pdelayReqInterval :=
          congrArg (fun data => data.settings.pdelayReqInterval) hdata
        unfold intervalElapsed at helapsed
        simp [transition, waitingForPdelayIntervalTimerStateTransition,
          intervalElapsed, htimer, hinterval, helapsed]
      have hprocess : sm.process.stop = m.vars.process.stop :=
        congrArg (fun data => data.process.stop) hdata
      rw [hleave, Behaviour.run_enter_rest 14 hentered haction
        (hprocess.trans hrunning) hstay]
      intro hstored
      rcases hstored.resp hresp with ⟨resp, hlive⟩
      obtain ⟨measured, _, hfree⟩ := bind_eq_ok.mp haction
      exact resp_freeMessages hfree resp hlive

/--
In a call with a response left over the process ends, or the flag of the
response stays set although the message has been released.
-/
theorem not_stored_of_left {e : Event} (hreachable : Reachable m)
    (hrunning : m.vars.process.stop = none) (h : ¬ NothingLeft m e)
    (hcompleted : (step m e).vars.process.stop = none) :
    ¬ (step m e).vars.MessagesStored := by
  have hrest := hreachable.atRest hrunning
  rw [step_running e hrunning] at hcompleted ⊢
  cases e with
  | run ts => exact left_run hrest.quiescent hrest.enabled hrunning h hcompleted
  | txts ts tsuTimestamp => exact absurd trivial h
  | recvResp ts tsuTimestamp pdelayResp =>
      have hleft := @left_run
        { m with vars := m.vars.storeResp pdelayResp } ts hrest.quiescent
        hrest.enabled hrunning h hcompleted
      exact fun hstored => hleft ⟨hstored.resp, hstored.followUp⟩
  | recvRespFollowUp ts pdelayRespFollowUp =>
      exact @left_run
        { m with vars := m.vars.storeRespFollowUp pdelayRespFollowUp } ts
        hrest.quiescent hrest.enabled hrunning h hcompleted

end LeftOver

end MDPdelayReqMachine

/-!
## Both machines
-/

/--
Whatever messages arrive, a flag that is set vouches for a message that can be
read, and no absent message is read: on the responder if no timestamp arrives
out of turn, on the initiator if its port is in operation, or its memory is in
order from the start, and no response is left over.
-/
theorem received_messages_valid {respMemory : MDPdelayRespSM}
    {respEvents : List MDPdelayRespMachine.Event} {reqMemory : MDPdelayReqSM}
    {reqEvents : List MDPdelayReqMachine.Event}
    (hresp : respMemory.process.stop = none)
    (hinTurn : Along MDPdelayRespMachine.step MDPdelayRespMachine.AnsweredInTurn
      (MDPdelayRespMachine.initMdPdelayRespSm respMemory) respEvents)
    (hreq : reqMemory.process.stop = none)
    (hstart : reqMemory.perPTPInstanceGlobal.BEGIN = false ∧
        reqMemory.perPortGlobal.portOper = true ∨ reqMemory.MessagesStored)
    (hleft : Along MDPdelayReqMachine.step MDPdelayReqMachine.NothingLeft
      (MDPdelayReqMachine.initMdPdelayReqSm reqMemory) reqEvents) :
    (forall history rest, respEvents = history ++ rest ->
      (runEvents MDPdelayRespMachine.step
        (MDPdelayRespMachine.initMdPdelayRespSm respMemory)
        history).PointersValid) ∧
      forall history rest, reqEvents = history ++ rest ->
        (runEvents MDPdelayReqMachine.step
          (MDPdelayReqMachine.initMdPdelayReqSm reqMemory)
          history).PointersValid := by
  constructor
  · rintro history rest rfl
    exact (MDPdelayRespMachine.sound_reachable hresp
      hinTurn.prefix).toPointersValid
  · rintro history rest rfl
    exact (MDPdelayReqMachine.sound_reachable hreq hstart
      hleft.prefix).toPointersValid

/-!
The runs below are on zeroed memory and port 1.  In the first, the duplicate of
a request arrives before the timestamp of the response.  In the second, a
stray response arrives while the follow-up to the genuine one is awaited.
-/

def respMemory : MDPdelayRespSM :=
  { (default : MDPdelayRespSM) with
    perPortGlobal :=
      { (default : PerPortGlobal) with portOper := true, thisPort := 1 } }

section Responder

open MDPdelayRespMachine

def answeredEvents : List MDPdelayRespMachine.Event :=
  [.recvReq (timestampOf 1) (reqOf 1), .txts (timestampOf 1),
    .recvReq (timestampOf 1) (reqOf 1)]

def duplicateEvents : List MDPdelayRespMachine.Event :=
  [.recvReq (timestampOf 1) (reqOf 1), .recvReq (timestampOf 1) (reqOf 1),
    .txts (timestampOf 1)]

theorem answeredEvents_inTurn :
    Along step AnsweredInTurn (initMdPdelayRespSm respMemory)
      answeredEvents := by
  refine along_cons.mpr ⟨?_, along_cons.mpr ⟨?_, along_cons.mpr ⟨?_,
    along_nil _ _⟩⟩⟩
  · intro tsuTimestamp req he
    cases he
  · intro tsuTimestamp req _ _ _ _
    decide
  · intro tsuTimestamp req he
    cases he

theorem duplicateEvents_stop :
    (runEvents step (initMdPdelayRespSm respMemory)
      duplicateEvents).vars.process.stop = some .invalidPointer := by
  decide

end Responder

section Initiator

open MDPdelayReqMachine

def completedEvents : List MDPdelayReqMachine.Event :=
  [.txts (atNs 1) (txTimestamp 0 0),
    .recvResp (atNs 2) (txTimestamp 2 0) (respTo 0),
    .recvRespFollowUp (atNs 3) (respFollowUpTo 0)]

def strayEvents : List MDPdelayReqMachine.Event :=
  [.txts (atNs 1) (txTimestamp 0 0),
    .recvResp (atNs 2) (txTimestamp 2 0) (respTo 0),
    .recvResp (atNs 3) (txTimestamp 3 5) (respTo 5),
    .recvRespFollowUp (atNs 4) (respFollowUpTo 0)]

theorem completedEvents_nothingLeft :
    Along step NothingLeft (initMdPdelayReqSm zeroedMemory)
      completedEvents := by
  refine along_cons.mpr ⟨trivial, along_cons.mpr ⟨?_, along_cons.mpr ⟨?_,
    along_nil _ _⟩⟩⟩
  · intro hstate
    exact absurd hstate (by decide)
  · intro _ _
    decide

theorem strayEvents_left :
    ¬ (runEvents step (initMdPdelayReqSm zeroedMemory)
      strayEvents).vars.MessagesStored := by
  intro h
  have hreleased : (runEvents step (initMdPdelayReqSm zeroedMemory)
      strayEvents).vars.rcvdPdelayRespPtr = .released := by
    decide
  rcases h.resp (by decide) with ⟨resp, hresp⟩
  rw [hreleased] at hresp
  cases hresp

end Initiator

theorem received_messages_valid_answered :
    (forall history rest, answeredEvents = history ++ rest ->
      (runEvents MDPdelayRespMachine.step
        (MDPdelayRespMachine.initMdPdelayRespSm respMemory)
        history).PointersValid) ∧
      forall history rest, completedEvents = history ++ rest ->
        (runEvents MDPdelayReqMachine.step
          (MDPdelayReqMachine.initMdPdelayReqSm MDPdelayReqMachine.zeroedMemory)
          history).PointersValid :=
  received_messages_valid rfl answeredEvents_inTurn rfl (Or.inl ⟨rfl, rfl⟩)
    completedEvents_nothingLeft

theorem duplicates_separate_flags_and_messages :
    (¬ forall (memory : MDPdelayRespSM)
        (events : List MDPdelayRespMachine.Event),
      memory.process.stop = none ->
      memory.perPTPInstanceGlobal.BEGIN = false ->
      memory.perPortGlobal.portOper = true ->
      (runEvents MDPdelayRespMachine.step
        (MDPdelayRespMachine.initMdPdelayRespSm memory)
        events).PointersValid) ∧
      ¬ forall (memory : MDPdelayReqSM)
          (events : List MDPdelayReqMachine.Event),
        memory.process.stop = none ->
        memory.perPTPInstanceGlobal.BEGIN = false ->
        memory.perPortGlobal.portOper = true ->
        (runEvents MDPdelayReqMachine.step
          (MDPdelayReqMachine.initMdPdelayReqSm memory)
          events).PointersValid := by
  constructor
  · intro h
    exact (h respMemory duplicateEvents rfl rfl rfl).valid duplicateEvents_stop
  · intro h
    exact strayEvents_left
      (h MDPdelayReqMachine.zeroedMemory strayEvents rfl rfl rfl).stored

end TimeSync
end Ziggo
