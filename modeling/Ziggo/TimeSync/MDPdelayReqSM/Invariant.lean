import Ziggo.Foundation.Faults
import Ziggo.TimeSync.MDPdelayReqSM

/-!
# Invariants of the peer delay initiator

What the actions of the machine leave alone, and what holds whenever the driver
has come to rest in a state of an enabled port.
-/

namespace Ziggo
namespace TimeSync

open Foundation TsnDrivers

namespace MDPdelayReqSM

open MDPdelayReqSMState

/-- The instance has left its reset and the port is in operation. -/
def Enabled (sm : MDPdelayReqSM) : Prop :=
  sm.perPTPInstanceGlobal.BEGIN = false ∧ sm.perPortGlobal.portOper = true ∧
    sm.portEnabled0 = true

theorem allStateTransition_enabled {sm : MDPdelayReqSM} (h : sm.Enabled)
    (state : MDPdelayReqSMState) : sm.allStateTransition state = state := by
  simp [allStateTransition, h.left, h.right.left, h.right.right]

/-!
## Frame conditions
-/

/-- The settings of the machine, which no action changes. -/
structure Settings where
  perPTPInstanceGlobal : PerPTPInstanceGlobal
  portOper : Bool
  thisPort : Port
  asymmetryMeasurementMode : Bool
  computeMeanLinkDelay : Bool
  portEnabled0 : Bool
  pdelayReqInterval : UScaledNs

def settings (sm : MDPdelayReqSM) : Settings where
  perPTPInstanceGlobal := sm.perPTPInstanceGlobal
  portOper := sm.perPortGlobal.portOper
  thisPort := sm.perPortGlobal.thisPort
  asymmetryMeasurementMode := sm.perPortGlobal.asymmetryMeasurementMode
  computeMeanLinkDelay := sm.perPortGlobal.computeMeanLinkDelay
  portEnabled0 := sm.portEnabled0
  pdelayReqInterval := sm.mdEntityGlobal.pdelayReqInterval

theorem enabled_of_settings {sm sm' : MDPdelayReqSM}
    (h : sm'.settings = sm.settings) (henabled : sm.Enabled) :
    sm'.Enabled := by
  have hBEGIN : sm'.perPTPInstanceGlobal = sm.perPTPInstanceGlobal :=
    congrArg Settings.perPTPInstanceGlobal h
  have hportOper : sm'.perPortGlobal.portOper = sm.perPortGlobal.portOper :=
    congrArg Settings.portOper h
  have hportEnabled0 : sm'.portEnabled0 = sm.portEnabled0 :=
    congrArg Settings.portEnabled0 h
  unfold Enabled
  rw [hBEGIN, hportOper, hportEnabled0]
  exact henabled

theorem portId_of_settings {sm sm' : MDPdelayReqSM}
    (h : sm'.settings = sm.settings) : sm'.portId = sm.portId := by
  have hinstance : sm'.perPTPInstanceGlobal = sm.perPTPInstanceGlobal :=
    congrArg Settings.perPTPInstanceGlobal h
  have hthisPort : sm'.perPortGlobal.thisPort = sm.perPortGlobal.thisPort :=
    congrArg Settings.thisPort h
  unfold portId
  rw [hinstance, hthisPort]

/-- The data of an exchange that the measurement at its end only reads. -/
structure ExchangeData where
  settings : Settings
  pdelayIntervalTimer : UScaledNs
  pdelayReqSequenceId : UInt16
  rcvdPdelayResp : Bool
  rcvdPdelayRespFollowUp : Bool
  rcvdMDTimestampReceiveMDPReq : Bool
  t1 : UScaledNs
  t2 : UScaledNs
  t3 : UScaledNs
  t4 : UScaledNs
  process : Process

def exchangeData (sm : MDPdelayReqSM) : ExchangeData where
  settings := sm.settings
  pdelayIntervalTimer := sm.pdelayIntervalTimer
  pdelayReqSequenceId := sm.pdelayReqSequenceId
  rcvdPdelayResp := sm.rcvdPdelayResp
  rcvdPdelayRespFollowUp := sm.rcvdPdelayRespFollowUp
  rcvdMDTimestampReceiveMDPReq := sm.rcvdMDTimestampReceiveMDPReq
  t1 := sm.t1
  t2 := sm.t2
  t3 := sm.t3
  t4 := sm.t4
  process := sm.process

theorem exchangeData_updateAsCapable (sm : MDPdelayReqSM)
    (resp : PTPMsgPdelayResp) :
    (sm.updateAsCapable resp).exchangeData = sm.exchangeData := by
  unfold updateAsCapable
  dsimp only
  split_ifs <;> rfl

theorem exchangeData_updateNeighborRateRatio {sm sm' : MDPdelayReqSM}
    (h : sm.updateNeighborRateRatio = .ok sm') :
    sm'.exchangeData = sm.exchangeData := by
  unfold updateNeighborRateRatio at h
  split at h
  · obtain ⟨⟨r, head⟩, _, hr⟩ := bind_eq_ok.mp h
    cases hr
    rfl
  · cases h
    rfl

theorem exchangeData_updateMeanLinkDelay {sm sm' : MDPdelayReqSM}
    (h : sm.updateMeanLinkDelay = .ok sm') :
    sm'.exchangeData = sm.exchangeData := by
  unfold updateMeanLinkDelay at h
  split at h
  · obtain ⟨propTime, _, hm⟩ := bind_eq_ok.mp h
    cases hm
    rfl
  · cases h
    rfl

theorem exchangeData_measureDelay {sm sm' : MDPdelayReqSM}
    (h : sm.measureDelay = .ok sm') : sm'.exchangeData = sm.exchangeData := by
  unfold measureDelay at h
  split at h
  · cases h
    rfl
  · obtain ⟨rated, hrated, h⟩ := bind_eq_ok.mp h
    obtain ⟨measured, hmeasured, h⟩ := bind_eq_ok.mp h
    obtain ⟨resp, _, h⟩ := bind_eq_ok.mp h
    cases h
    have hcapable := exchangeData_updateAsCapable
      { measured with
        mdEntityGlobal :=
          { measured.mdEntityGlobal with isMeasuringDelay := true } } resp
    have hdelay := exchangeData_updateMeanLinkDelay hmeasured
    have hrate := exchangeData_updateNeighborRateRatio hrated
    exact hcapable.trans (hdelay.trans hrate)

theorem exchangeData_freeMessages {sm sm' : MDPdelayReqSM}
    (h : sm.freeMessages = .ok sm') : sm'.exchangeData = sm.exchangeData := by
  unfold freeMessages at h
  obtain ⟨req, _, h⟩ := bind_eq_ok.mp h
  obtain ⟨resp, _, h⟩ := bind_eq_ok.mp h
  obtain ⟨followUp, _, h⟩ := bind_eq_ok.mp h
  cases h
  rfl

theorem exchangeData_waitingForPdelayIntervalTimerAction
    {sm sm' : MDPdelayReqSM}
    (h : sm.waitingForPdelayIntervalTimerAction = .ok sm') :
    sm'.exchangeData =
      { sm.exchangeData with rcvdPdelayRespFollowUp := false } := by
  unfold waitingForPdelayIntervalTimerAction at h
  obtain ⟨measured, hmeasured, h⟩ := bind_eq_ok.mp h
  rw [exchangeData_freeMessages h, exchangeData_measureDelay hmeasured]
  rfl

theorem settings_action {ts : UScaledNs} {state : MDPdelayReqSMState}
    {sm sm' : MDPdelayReqSM} (h : action ts state sm = .ok sm') :
    sm'.settings = sm.settings := by
  cases state with
  | waitingForPdelayIntervalTimer =>
      exact congrArg ExchangeData.settings
        (exchangeData_waitingForPdelayIntervalTimerAction h)
  | reset =>
      cases h
      unfold resetAction
      dsimp only
      split <;> rfl
  | _ =>
      cases h
      rfl

/-!
## Failures
-/

theorem updateNeighborRateRatio_error {sm : MDPdelayReqSM} {f : Fault}
    (h : sm.updateNeighborRateRatio = .error f) :
    f = .diverges ∨ f = .assertion := by
  unfold updateNeighborRateRatio at h
  split at h
  · rcases bind_eq_error.mp h with h | ⟨_, _, h⟩
    · unfold computePdelayRateRatio at h
      split at h
      · cases h
      · rcases bind_eq_error.mp h with h | ⟨r, _, h⟩
        · exact uscalednsDiv_error h
        · split at h <;> cases h
    · cases h
  · cases h

theorem computePropTime_error {sm : MDPdelayReqSM} {f : Fault}
    (h : sm.computePropTime = .error f) : f = .exit := by
  unfold computePropTime at h
  dsimp only at h
  split at h
  · cases h
    rfl
  · split at h
    · cases h
      rfl
    · cases h

theorem updateMeanLinkDelay_error {sm : MDPdelayReqSM} {f : Fault}
    (h : sm.updateMeanLinkDelay = .error f) : f = .exit := by
  unfold updateMeanLinkDelay at h
  split at h
  · rcases bind_eq_error.mp h with h | ⟨_, _, h⟩
    · exact computePropTime_error h
    · cases h
  · cases h

theorem freeMessages_error {sm : MDPdelayReqSM} {f : Fault}
    (h : sm.freeMessages = .error f) : f = .invalidPointer := by
  unfold freeMessages at h
  rcases bind_eq_error.mp h with h | ⟨_, _, h⟩
  · exact (Ptr.free_eq_error h).right
  · rcases bind_eq_error.mp h with h | ⟨_, _, h⟩
    · exact (Ptr.free_eq_error h).right
    · rcases bind_eq_error.mp h with h | ⟨_, _, h⟩
      · exact (Ptr.free_eq_error h).right
      · cases h

theorem duplicateResp_error {sm : MDPdelayReqSM} {f : Fault}
    (h : sm.duplicateResp = .error f) : f = .invalidPointer := by
  unfold duplicateResp at h
  split at h
  · rcases bind_eq_error.mp h with h | ⟨_, _, h⟩
    · exact Ptr.deref_eq_error h
    · rcases bind_eq_error.mp h with h | ⟨_, _, h⟩
      · exact Ptr.deref_eq_error h
      · cases h
  · cases h

theorem respFollowUpAccepted_error {sm : MDPdelayReqSM} {f : Fault}
    (h : sm.respFollowUpAccepted = .error f) : f = .invalidPointer := by
  unfold respFollowUpAccepted at h
  split at h
  · rcases bind_eq_error.mp h with h | ⟨_, _, h⟩
    · exact Ptr.deref_eq_error h
    · rcases bind_eq_error.mp h with h | ⟨_, _, h⟩
      · exact Ptr.deref_eq_error h
      · split at h
        · rcases bind_eq_error.mp h with h | ⟨_, _, h⟩
          · exact Ptr.deref_eq_error h
          · cases h
        · cases h
  · cases h

/-- Only the two states that wait for a message read through pointers. -/
theorem transition_error {ts : UScaledNs} {state : MDPdelayReqSMState}
    {sm : MDPdelayReqSM} {f : Fault} (h : transition ts state sm = .error f) :
    f = .invalidPointer := by
  cases state with
  | waitingForPdelayResp =>
      change sm.waitingForPdelayRespStateTransition ts = _ at h
      unfold waitingForPdelayRespStateTransition at h
      split_ifs at h
      · cases h
      · rcases bind_eq_error.mp h with h | ⟨_, _, h⟩
        · exact Ptr.deref_eq_error h
        · rcases bind_eq_error.mp h with h | ⟨_, _, h⟩
          · exact Ptr.deref_eq_error h
          · split at h <;> cases h
      · cases h
  | waitingForPdelayRespFollowUp =>
      change sm.waitingForPdelayRespFollowUpStateTransition ts = _ at h
      unfold waitingForPdelayRespFollowUpStateTransition at h
      split_ifs at h
      · cases h
      · rcases bind_eq_error.mp h with h | ⟨_, _, h⟩
        · exact duplicateResp_error h
        · split at h
          · cases h
          · rcases bind_eq_error.mp h with h | ⟨_, _, h⟩
            · exact respFollowUpAccepted_error h
            · split at h <;> cases h
  | _ => cases h

theorem process_action {ts : UScaledNs} {state : MDPdelayReqSMState}
    {sm sm' : MDPdelayReqSM} (h : action ts state sm = .ok sm') :
    sm'.process.stop = sm.process.stop := by
  cases state with
  | waitingForPdelayIntervalTimer =>
      exact congrArg (fun data => data.process.stop)
        (exchangeData_waitingForPdelayIntervalTimerAction h)
  | reset =>
      cases h
      unfold resetAction
      dsimp only
      split <;> rfl
  | _ =>
      cases h
      rfl

theorem behaviour_records (ts : UScaledNs) : (behaviour ts).Records where
  halt _ _ := rfl
  action _ _ _ h := process_action h

/-!
## Transitions of the waiting states
-/

/-- The request at hand is the one with the current sequence number. -/
def Outstanding (sm : MDPdelayReqSM) : Prop :=
  sm.txPdelayReqPtr = .live sm.setPdelayReq

/-- A `Pdelay_Resp` that answers the outstanding `Pdelay_Req`. -/
def Answers (sm : MDPdelayReqSM) (resp : PTPMsgPdelayResp) : Prop :=
  resp.head.sequenceId = sm.pdelayReqSequenceId ∧
    resp.requestingPortIdentity = sm.portId

theorem waitingForPdelayResp_elapsed {sm : MDPdelayReqSM} {ts : UScaledNs}
    (helapsed : sm.intervalElapsed ts = true) :
    sm.waitingForPdelayRespStateTransition ts = .ok reset := by
  simp [waitingForPdelayRespStateTransition, helapsed, pure, Except.pure]

theorem waitingForPdelayResp_stay {sm : MDPdelayReqSM} {ts : UScaledNs}
    (helapsed : sm.intervalElapsed ts = false)
    (hflag : sm.rcvdPdelayResp = false) :
    sm.waitingForPdelayRespStateTransition ts = .ok waitingForPdelayResp := by
  simp [waitingForPdelayRespStateTransition, helapsed, hflag, pure, Except.pure]

/-!
## Leaving a state

What a change of state says about its source. The two states that wait for a
message have lemmas of their own below.
-/

section Leaving

variable {sm : MDPdelayReqSM} {ts : UScaledNs} {next : MDPdelayReqSMState}

theorem notEnabled_left (h : transition ts notEnabled sm = .ok next)
    (hne : next ≠ notEnabled) : next = initialSendPdelayReq := by
  have hnext : sm.notEnabledStateTransition = next := Except.ok.inj h
  unfold notEnabledStateTransition at hnext
  split at hnext
  · exact hnext.symm
  · exact absurd hnext.symm hne

theorem initialSendPdelayReq_left
    (h : transition ts initialSendPdelayReq sm = .ok next)
    (hne : next ≠ initialSendPdelayReq) :
    next = waitingForPdelayResp ∧ sm.rcvdMDTimestampReceiveMDPReq = true := by
  have hnext : sm.initialSendPdelayReqStateTransition = next := Except.ok.inj h
  unfold initialSendPdelayReqStateTransition at hnext
  split at hnext
  case isTrue hflag => exact ⟨hnext.symm, hflag⟩
  case isFalse => exact absurd hnext.symm hne

theorem sendPdelayReq_left (h : transition ts sendPdelayReq sm = .ok next)
    (hne : next ≠ sendPdelayReq) :
    next = waitingForPdelayResp ∧ sm.rcvdMDTimestampReceiveMDPReq = true := by
  have hnext : sm.sendPdelayReqStateTransition = next := Except.ok.inj h
  unfold sendPdelayReqStateTransition at hnext
  split at hnext
  case isTrue hflag => exact ⟨hnext.symm, hflag⟩
  case isFalse => exact absurd hnext.symm hne

theorem waitingForPdelayIntervalTimer_left
    (h : transition ts waitingForPdelayIntervalTimer sm = .ok next)
    (hne : next ≠ waitingForPdelayIntervalTimer) :
    next = sendPdelayReq ∧ sm.intervalElapsed ts = true := by
  have hnext : sm.waitingForPdelayIntervalTimerStateTransition ts = next :=
    Except.ok.inj h
  unfold waitingForPdelayIntervalTimerStateTransition at hnext
  split at hnext
  case isTrue helapsed => exact ⟨hnext.symm, helapsed⟩
  case isFalse => exact absurd hnext.symm hne

theorem reset_left (h : transition ts reset sm = .ok next)
    (hne : next ≠ reset) :
    next = sendPdelayReq ∧ sm.intervalElapsed ts = true := by
  have hnext : sm.resetStateTransition ts = next := Except.ok.inj h
  unfold resetStateTransition at hnext
  split at hnext
  case isTrue helapsed => exact ⟨hnext.symm, helapsed⟩
  case isFalse => exact absurd hnext.symm hne

end Leaving

section Resp

variable {sm : MDPdelayReqSM} {ts : UScaledNs} {resp : PTPMsgPdelayResp}

theorem waitingForPdelayResp_answers (helapsed : sm.intervalElapsed ts = false)
    (hflag : sm.rcvdPdelayResp = true)
    (hresp : sm.rcvdPdelayRespPtr = .live resp) (hreq : sm.Outstanding)
    (hanswers : sm.Answers resp) :
    sm.waitingForPdelayRespStateTransition ts =
      .ok waitingForPdelayRespFollowUp := by
  unfold Outstanding at hreq
  simp [waitingForPdelayRespStateTransition, helapsed, hflag, hresp, hreq,
    setPdelayReq, hanswers.left, hanswers.right, bind, Except.bind, pure,
    Except.pure]

theorem waitingForPdelayResp_mismatch
    (helapsed : sm.intervalElapsed ts = false)
    (hflag : sm.rcvdPdelayResp = true)
    (hresp : sm.rcvdPdelayRespPtr = .live resp) (hreq : sm.Outstanding)
    (hanswers : ¬ sm.Answers resp) :
    sm.waitingForPdelayRespStateTransition ts = .ok reset := by
  unfold Outstanding at hreq
  unfold Answers at hanswers
  simp [waitingForPdelayRespStateTransition, helapsed, hflag, hresp, hreq,
    setPdelayReq, hanswers, bind, Except.bind, pure, Except.pure]

theorem waitingForPdelayResp_invalid (helapsed : sm.intervalElapsed ts = false)
    (hflag : sm.rcvdPdelayResp = true) (hresp : ¬ sm.rcvdPdelayRespPtr.IsLive) :
    sm.waitingForPdelayRespStateTransition ts = .error .invalidPointer := by
  have hderef : sm.rcvdPdelayRespPtr.deref = .error .invalidPointer := by
    cases hptr : sm.rcvdPdelayRespPtr with
    | live resp =>
        exact absurd ⟨resp, hptr⟩ hresp
    | _ => rfl
  simp [waitingForPdelayRespStateTransition, helapsed, hflag, hderef, bind,
    Except.bind]

theorem duplicateResp_absent (hflag : sm.rcvdPdelayResp = false) :
    sm.duplicateResp = .ok false := by
  simp [duplicateResp, hflag, pure, Except.pure]

theorem duplicateResp_stored (hflag : sm.rcvdPdelayResp = true)
    (hresp : sm.rcvdPdelayRespPtr = .live resp) (hreq : sm.Outstanding) :
    sm.duplicateResp =
      .ok (decide (resp.head.sequenceId = sm.pdelayReqSequenceId)) := by
  unfold Outstanding at hreq
  simp only [duplicateResp, hflag, hresp, hreq]
  rfl

theorem respFollowUpAccepted_absent (hflag : sm.rcvdPdelayRespFollowUp = false) :
    sm.respFollowUpAccepted = .ok false := by
  simp [respFollowUpAccepted, hflag, pure, Except.pure]

theorem respFollowUpAccepted_stored {followUp : PTPMsgPdelayRespFollowUp}
    (hflag : sm.rcvdPdelayRespFollowUp = true)
    (hfollowUp : sm.rcvdPdelayRespFollowUpPtr = .live followUp)
    (hresp : sm.rcvdPdelayRespPtr = .live resp) (hreq : sm.Outstanding) :
    sm.respFollowUpAccepted =
      .ok (decide (followUp.head.sequenceId = sm.pdelayReqSequenceId ∧
        (followUp.head.sourcePortIdentity = resp.head.sourcePortIdentity ∨
          resp.requestingPortIdentity = sm.portId))) := by
  unfold Outstanding at hreq
  by_cases hseq : followUp.head.sequenceId = sm.pdelayReqSequenceId
  · simp [respFollowUpAccepted, hflag, hfollowUp, hresp, hreq, setPdelayReq,
      hseq, bind, Except.bind, pure, Except.pure]
  · simp [respFollowUpAccepted, hflag, hfollowUp, hreq, setPdelayReq, hseq,
      bind, Except.bind, pure, Except.pure]

theorem waitingForPdelayRespFollowUp_next {duplicate accepted : Bool}
    (helapsed : sm.intervalElapsed ts = false)
    (hduplicate : sm.duplicateResp = .ok duplicate)
    (haccepted : sm.respFollowUpAccepted = .ok accepted) :
    sm.waitingForPdelayRespFollowUpStateTransition ts =
      .ok (if duplicate then reset
        else if accepted then waitingForPdelayIntervalTimer
        else waitingForPdelayRespFollowUp) := by
  simp only [waitingForPdelayRespFollowUpStateTransition, helapsed, hduplicate,
    haccepted, bind, Except.bind, pure, Except.pure]
  cases duplicate <;> cases accepted <;> rfl

/-- What the transition out of the first waiting state says about its source. -/
theorem waitingForPdelayResp_cases {next : MDPdelayReqSMState}
    (hreq : sm.Outstanding)
    (h : sm.waitingForPdelayRespStateTransition ts = .ok next) :
    next = reset ∨ next = waitingForPdelayResp ∨
      (next = waitingForPdelayRespFollowUp ∧ sm.rcvdPdelayResp = true ∧
        exists resp, sm.rcvdPdelayRespPtr = .live resp ∧ sm.Answers resp) := by
  cases helapsed : sm.intervalElapsed ts with
  | true =>
      rw [waitingForPdelayResp_elapsed helapsed] at h
      cases h
      exact Or.inl rfl
  | false =>
      cases hflag : sm.rcvdPdelayResp with
      | false =>
          rw [waitingForPdelayResp_stay helapsed hflag] at h
          cases h
          exact Or.inr (Or.inl rfl)
      | true =>
          by_cases hlive : sm.rcvdPdelayRespPtr.IsLive
          · rcases hlive with ⟨resp, hresp⟩
            by_cases hanswers : sm.Answers resp
            · rw [waitingForPdelayResp_answers helapsed hflag hresp hreq
                hanswers] at h
              cases h
              exact Or.inr (Or.inr ⟨rfl, rfl, resp, hresp, hanswers⟩)
            · rw [waitingForPdelayResp_mismatch helapsed hflag hresp hreq
                hanswers] at h
              cases h
              exact Or.inl rfl
          · rw [waitingForPdelayResp_invalid helapsed hflag hlive] at h
            cases h

theorem respFollowUpAccepted_cases (hreq : sm.Outstanding)
    (h : sm.respFollowUpAccepted = .ok true) :
    sm.rcvdPdelayRespFollowUp = true ∧
      exists followUp resp,
        sm.rcvdPdelayRespFollowUpPtr = .live followUp ∧
          sm.rcvdPdelayRespPtr = .live resp ∧
          followUp.head.sequenceId = sm.pdelayReqSequenceId := by
  cases hflag : sm.rcvdPdelayRespFollowUp with
  | false =>
      rw [respFollowUpAccepted_absent hflag] at h
      cases h
  | true =>
      unfold Outstanding at hreq
      unfold respFollowUpAccepted at h
      rw [if_pos hflag] at h
      obtain ⟨followUp, hfollowUp, h⟩ := bind_eq_ok.mp h
      obtain ⟨req, hderef, h⟩ := bind_eq_ok.mp h
      rw [hreq] at hderef
      cases hderef
      split at h
      · rename_i hseq
        obtain ⟨resp, hresp, _⟩ := bind_eq_ok.mp h
        exact ⟨rfl, followUp, resp, Ptr.deref_eq_ok.mp hfollowUp,
          Ptr.deref_eq_ok.mp hresp, hseq⟩
      · cases h

/-- What the transition out of the second waiting state says about its source. -/
theorem waitingForPdelayRespFollowUp_cases {next : MDPdelayReqSMState}
    (h : sm.waitingForPdelayRespFollowUpStateTransition ts = .ok next) :
    next = reset ∨ next = waitingForPdelayRespFollowUp ∨
      (next = waitingForPdelayIntervalTimer ∧
        sm.intervalElapsed ts = false ∧
        sm.duplicateResp = .ok false ∧
        sm.respFollowUpAccepted = .ok true) := by
  cases helapsed : sm.intervalElapsed ts with
  | true =>
      simp only [waitingForPdelayRespFollowUpStateTransition, helapsed] at h
      cases h
      exact Or.inl rfl
  | false =>
      cases hduplicate : sm.duplicateResp with
      | error f =>
          simp [waitingForPdelayRespFollowUpStateTransition, helapsed,
            hduplicate, bind, Except.bind] at h
      | ok duplicate =>
          cases haccepted : sm.respFollowUpAccepted with
          | error f =>
              cases duplicate <;>
                simp [waitingForPdelayRespFollowUpStateTransition, helapsed,
                  hduplicate, haccepted, bind, Except.bind, pure,
                  Except.pure] at h
              exact Or.inl h.symm
          | ok accepted =>
              rw [waitingForPdelayRespFollowUp_next helapsed hduplicate
                haccepted] at h
              cases duplicate <;> cases accepted <;> cases h <;> simp

end Resp

/-!
## States of an enabled port
-/

def FollowUpStored (sm : MDPdelayReqSM) : Prop :=
  sm.rcvdPdelayRespFollowUp = true -> sm.rcvdPdelayRespFollowUpPtr.IsLive

/-- The frame sent last is the outstanding `Pdelay_Req`. -/
def LastSent (sm : MDPdelayReqSM) : Prop :=
  sm.process.sent.getLast? =
    some
      { port := sm.perPortGlobal.thisPort
        message := .pdelayReq sm.setPdelayReq }

/-- The timestamp of the last `Pdelay_Req` has not come, or has been used. -/
def NoTimestamp (sm : MDPdelayReqSM) : Prop :=
  sm.rcvdMDTimestampReceiveMDPReq = false

/-- What holds when a state is about to be entered. -/
def Before (state : MDPdelayReqSMState) (sm : MDPdelayReqSM) : Prop :=
  match state with
  | init | notEnabled | initialSendPdelayReq => True
  | reset | sendPdelayReq => sm.FollowUpStored ∧ sm.NoTimestamp
  | waitingForPdelayResp => sm.FollowUpStored ∧ sm.Outstanding ∧ sm.LastSent
  | waitingForPdelayRespFollowUp | waitingForPdelayIntervalTimer =>
      sm.FollowUpStored ∧ sm.Outstanding ∧ sm.LastSent ∧ sm.NoTimestamp

/-- What holds while the machine is in a state. -/
def During (state : MDPdelayReqSMState) (sm : MDPdelayReqSM) : Prop :=
  match state with
  | init | notEnabled => True
  | initialSendPdelayReq | sendPdelayReq =>
      sm.FollowUpStored ∧ sm.Outstanding ∧ sm.LastSent
  | waitingForPdelayResp | waitingForPdelayRespFollowUp =>
      sm.FollowUpStored ∧ sm.Outstanding ∧ sm.LastSent ∧ sm.NoTimestamp
  | waitingForPdelayIntervalTimer | reset =>
      sm.FollowUpStored ∧ sm.NoTimestamp

theorem during_action {ts : UScaledNs} {state : MDPdelayReqSMState}
    {sm sm' : MDPdelayReqSM} (hbefore : Before state sm)
    (h : action ts state sm = .ok sm') : During state sm' := by
  cases state with
  | init => trivial
  | notEnabled => trivial
  | initialSendPdelayReq =>
      cases h
      refine ⟨fun hflag => ?_, rfl, ?_⟩
      · cases hflag
      · exact List.getLast?_concat
  | waitingForPdelayResp =>
      cases h
      exact ⟨hbefore.left, hbefore.right.left, hbefore.right.right, rfl⟩
  | waitingForPdelayRespFollowUp =>
      cases h
      exact hbefore
  | waitingForPdelayIntervalTimer =>
      have hdata := exchangeData_waitingForPdelayIntervalTimerAction h
      have hcleared : sm'.rcvdPdelayRespFollowUp = false :=
        congrArg ExchangeData.rcvdPdelayRespFollowUp hdata
      have htimestamp : sm'.rcvdMDTimestampReceiveMDPReq =
          sm.rcvdMDTimestampReceiveMDPReq :=
        congrArg ExchangeData.rcvdMDTimestampReceiveMDPReq hdata
      refine ⟨fun hflag => ?_, htimestamp.trans hbefore.right.right.right⟩
      rw [hcleared] at hflag
      cases hflag
  | reset =>
      cases h
      unfold resetAction
      dsimp only
      split <;> exact hbefore
  | sendPdelayReq =>
      cases h
      exact ⟨hbefore.left, rfl, List.getLast?_concat⟩

theorem before_transition {ts : UScaledNs} {state next : MDPdelayReqSMState}
    {sm : MDPdelayReqSM} (hduring : During state sm)
    (h : transition ts state sm = .ok next) (hne : next ≠ state) :
    Before next sm := by
  cases state with
  | init =>
      cases h
      trivial
  | notEnabled =>
      cases notEnabled_left h hne
      trivial
  | initialSendPdelayReq =>
      rcases initialSendPdelayReq_left h hne with ⟨rfl, _⟩
      exact hduring
  | waitingForPdelayResp =>
      rcases waitingForPdelayResp_cases hduring.right.left h with
        rfl | hstay | ⟨rfl, _⟩
      · exact ⟨hduring.left, hduring.right.right.right⟩
      · exact absurd hstay hne
      · exact hduring
  | waitingForPdelayRespFollowUp =>
      rcases waitingForPdelayRespFollowUp_cases h with
        rfl | hstay | ⟨rfl, _⟩
      · exact ⟨hduring.left, hduring.right.right.right⟩
      · exact absurd hstay hne
      · exact hduring
  | waitingForPdelayIntervalTimer =>
      rcases waitingForPdelayIntervalTimer_left h hne with ⟨rfl, _⟩
      exact hduring
  | reset =>
      rcases reset_left h hne with ⟨rfl, _⟩
      exact hduring
  | sendPdelayReq =>
      rcases sendPdelayReq_left h hne with ⟨rfl, _⟩
      exact hduring

theorem during_mono {state : MDPdelayReqSMState} {sm sm' : MDPdelayReqSM}
    (hfollowUp : sm.FollowUpStored -> sm'.FollowUpStored)
    (houtstanding : sm.Outstanding -> sm'.Outstanding)
    (hlast : sm.LastSent -> sm'.LastSent)
    (htimestamp : sm.NoTimestamp -> sm'.NoTimestamp) (h : During state sm) :
    During state sm' := by
  cases state with
  | init => trivial
  | notEnabled => trivial
  | initialSendPdelayReq | sendPdelayReq =>
      exact ⟨hfollowUp h.left, houtstanding h.right.left, hlast h.right.right⟩
  | waitingForPdelayResp | waitingForPdelayRespFollowUp =>
      exact ⟨hfollowUp h.left, houtstanding h.right.left,
        hlast h.right.right.left, htimestamp h.right.right.right⟩
  | waitingForPdelayIntervalTimer | reset =>
      exact ⟨hfollowUp h.left, htimestamp h.right⟩

theorem during_storeTimestamp {state : MDPdelayReqSMState} {sm : MDPdelayReqSM}
    (tsuTimestamp : TSUTimestamp)
    (hstate : state = initialSendPdelayReq ∨ state = sendPdelayReq)
    (h : During state sm) : During state (sm.storeTimestamp tsuTimestamp) := by
  rcases hstate with rfl | rfl
  · exact h
  · exact h

theorem during_storeResp {state : MDPdelayReqSMState} {sm : MDPdelayReqSM}
    (pdelayResp : PTPMsgPdelayResp) (h : During state sm) :
    During state (sm.storeResp pdelayResp) :=
  during_mono id id id id h

theorem during_storeRespFollowUp {state : MDPdelayReqSMState}
    {sm : MDPdelayReqSM} (pdelayRespFollowUp : PTPMsgPdelayRespFollowUp)
    (h : During state sm) :
    During state (sm.storeRespFollowUp pdelayRespFollowUp) := by
  have hstored : sm.FollowUpStored ->
      (sm.storeRespFollowUp pdelayRespFollowUp).FollowUpStored :=
    fun _ _ => Ptr.isLive_live pdelayRespFollowUp
  exact during_mono hstored id id id h

end MDPdelayReqSM

namespace MDPdelayReqMachine

open MDPdelayReqSM

def annotated (ts : UScaledNs) : Program.Annotation (behaviour ts).program :=
  (behaviour ts).annotate
    (fun state sm => sm.Enabled ∧ Before state sm)
    (fun state sm => sm.Enabled ∧ During state sm)
    (fun _ _ _ hpre h =>
      ⟨enabled_of_settings (settings_action h) hpre.left,
        during_action hpre.right h⟩)
    (fun _ _ _ hpost h hne =>
      ⟨hpost.left, before_transition hpost.right h hne⟩)

theorem ready_enabled {m : MDPdelayReqMachine} (h : m.vars.Enabled) :
    m.ready = m := by
  unfold ready
  rw [allStateTransition_enabled h]

/-- A machine of an enabled port between two calls, in a running process. -/
structure AtRest (m : MDPdelayReqMachine) : Prop where
  running : m.vars.process.stop = none
  quiescent : m.Quiescent
  enabled : m.vars.Enabled
  during : During m.state m.vars
  awaiting :
    m.state = .initialSendPdelayReq ∨ m.state = .sendPdelayReq ->
      m.vars.rcvdMDTimestampReceiveMDPReq = false

theorem awaiting_of_settled {m : MDPdelayReqMachine} {ts : UScaledNs}
    (hsettled : transition ts m.state m.vars = .ok m.state)
    (hstate : m.state = .initialSendPdelayReq ∨ m.state = .sendPdelayReq) :
    m.vars.rcvdMDTimestampReceiveMDPReq = false := by
  by_contra hflag
  rcases hstate with hstate | hstate
  · rw [hstate] at hsettled
    simp [transition, initialSendPdelayReqStateTransition, hflag] at hsettled
  · rw [hstate] at hsettled
    simp [transition, sendPdelayReqStateTransition, hflag] at hsettled

theorem atRest_run {m : MDPdelayReqMachine} {ts : UScaledNs}
    (henabled : m.vars.Enabled) (hholds : (annotated ts).Holds m)
    (hrunning : (m.run ts).vars.process.stop = none) :
    AtRest (m.run ts) := by
  unfold run at *
  rw [ready_enabled henabled] at *
  have hpost := (annotated ts).run_post passes hholds hrunning
  have hsettled :=
    (Program.run_settled (behaviour ts).program passes hrunning).right
  exact ⟨hrunning, hpost.left, hpost.right.left, hpost.right.right,
    awaiting_of_settled (Behaviour.transition_goto.mp hsettled)⟩

theorem holds_of_during {m : MDPdelayReqMachine} {ts : UScaledNs}
    (hq : m.Quiescent) (henabled : m.vars.Enabled)
    (hduring : During m.state m.vars) : (annotated ts).Holds m :=
  ⟨fun _ => ⟨henabled, hduring⟩, fun h => absurd hq h⟩

theorem sending_of_not {state : MDPdelayReqSMState}
    (h : ¬ (state ≠ .sendPdelayReq ∧ state ≠ .initialSendPdelayReq)) :
    state = .initialSendPdelayReq ∨ state = .sendPdelayReq := by
  cases state <;> simp at h ⊢

/-- Every call that leaves the process running leaves the machine at rest. -/
theorem atRest_step {m : MDPdelayReqMachine} {e : Event} (h : AtRest m)
    (hrunning : (step m e).vars.process.stop = none) : AtRest (step m e) := by
  unfold step at *
  rw [if_neg (by rw [h.running]; simp)] at *
  cases e with
  | run ts =>
      exact atRest_run h.enabled
        (holds_of_during h.quiescent h.enabled h.during) hrunning
  | txts ts tsuTimestamp =>
      dsimp only [txts] at *
      split
      · exact h
      · split
        · exact h
        · rename_i hstate hseq
          rw [if_neg hstate, if_neg hseq] at hrunning
          refine atRest_run h.enabled ?_ hrunning
          exact holds_of_during h.quiescent h.enabled
            (during_storeTimestamp tsuTimestamp (sending_of_not hstate)
              h.during)
  | recvResp ts tsuTimestamp pdelayResp =>
      have hholds : (annotated ts).Holds
          { m with vars := m.vars.storeResp pdelayResp } :=
        holds_of_during h.quiescent h.enabled
          (during_storeResp pdelayResp h.during)
      have hrest :
          AtRest (run { m with vars := m.vars.storeResp pdelayResp } ts) :=
        atRest_run h.enabled hholds hrunning
      exact ⟨hrest.running, hrest.quiescent, hrest.enabled,
        during_mono id id id id hrest.during, hrest.awaiting⟩
  | recvRespFollowUp ts pdelayRespFollowUp =>
      refine atRest_run h.enabled ?_ hrunning
      exact holds_of_during h.quiescent h.enabled
        (during_storeRespFollowUp pdelayRespFollowUp h.during)

theorem atRest_init {memory : MDPdelayReqSM}
    (hBEGIN : memory.perPTPInstanceGlobal.BEGIN = false)
    (hportOper : memory.perPortGlobal.portOper = true)
    (hrunning : (initMdPdelayReqSm memory).vars.process.stop = none) :
    AtRest (initMdPdelayReqSm memory) := by
  have henabled : Enabled { memory with portEnabled0 := true } :=
    ⟨hBEGIN, hportOper, rfl⟩
  refine atRest_run henabled ⟨fun hq => ?_, fun _ => ⟨henabled, trivial⟩⟩
    hrunning
  cases hq

/-- The machines that a sequence of calls leads to on an enabled port. -/
def Reachable (m : MDPdelayReqMachine) : Prop :=
  exists (memory : MDPdelayReqSM) (history : List Event),
    memory.perPTPInstanceGlobal.BEGIN = false ∧
      memory.perPortGlobal.portOper = true ∧
      m = runEvents step (initMdPdelayReqSm memory) history

theorem step_running {m : MDPdelayReqMachine} (e : Event)
    (h : m.vars.process.stop = none) :
    step m e =
      match e with
      | .run ts => m.run ts
      | .txts ts tsuTimestamp => m.txts ts tsuTimestamp
      | .recvResp ts tsuTimestamp pdelayResp =>
          m.recvResp ts tsuTimestamp pdelayResp
      | .recvRespFollowUp ts pdelayRespFollowUp =>
          m.recvRespFollowUp ts pdelayRespFollowUp := by
  unfold step
  exact if_neg (by rw [h]; simp)

theorem step_stopped {m : MDPdelayReqMachine} (e : Event)
    (h : m.vars.process.stop ≠ none) : step m e = m :=
  if_pos h

theorem Reachable.atRest {m : MDPdelayReqMachine} (h : Reachable m)
    (hrunning : m.vars.process.stop = none) : AtRest m := by
  rcases h with ⟨memory, history, hBEGIN, hportOper, rfl⟩
  refine run_invariant_always
    (I := fun m : MDPdelayReqMachine => m.vars.process.stop = none -> AtRest m)
    (atRest_init hBEGIN hportOper) ?_ history hrunning
  intro m e ih hstep
  by_cases hstop : m.vars.process.stop = none
  · exact atRest_step (ih hstop) hstep
  · rw [step_stopped e hstop] at hstep
    exact absurd hstep hstop

end MDPdelayReqMachine

end TimeSync
end Ziggo
