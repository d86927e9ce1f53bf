import Ziggo.TimeSync.AnnounceLoop
import Ziggo.TimeSync.MDPdelayReqSM.Provenance
import Ziggo.TimeSync.Transmission

/-!
# Transmitted Pdelay_Req messages

The initiator of a port names the identity of the port in all its requests.  It
draws the number of the first request and adds one to it for each later one.
-/

namespace Ziggo
namespace TimeSync

open Foundation TsnDrivers

namespace MDPdelayReqSM

open MDPdelayReqSMState

/-- The action sends a request with the number that it leaves in the counter. -/
structure Requests (sm sm' : MDPdelayReqSM) : Prop where
  request : exists req, sm'.process.sent = sm.process.sent ++
      [{ port := sm.perPortGlobal.thisPort, message := .pdelayReq req }] ∧
    req.head.sourcePortIdentity = sm.portId ∧
    req.head.sequenceId = sm'.pdelayReqSequenceId

/-- The action sends nothing and leaves the counter alone. -/
structure Unsent (sm sm' : MDPdelayReqSM) : Prop where
  sent : sm'.process.sent = sm.process.sent
  pdelayReqSequenceId : sm'.pdelayReqSequenceId = sm.pdelayReqSequenceId

section Actions

variable {sm sm' : MDPdelayReqSM} {ts : UScaledNs}

theorem sent_action {state : MDPdelayReqSMState}
    (h : action ts state sm = .ok sm') :
    match state with
    | initialSendPdelayReq => Requests sm sm'
    | sendPdelayReq =>
        Requests sm sm' ∧
          sm'.pdelayReqSequenceId = sm.pdelayReqSequenceId + 1
    | _ => Unsent sm sm' := by
  cases state with
  | initialSendPdelayReq =>
      cases h
      exact ⟨_, rfl, rfl, rfl⟩
  | sendPdelayReq =>
      cases h
      exact ⟨⟨_, rfl, rfl, rfl⟩, rfl⟩
  | waitingForPdelayIntervalTimer =>
      have hdata := exchangeData_waitingForPdelayIntervalTimerAction h
      constructor
      · exact congrArg (fun data => data.process.sent) hdata
      · exact congrArg ExchangeData.pdelayReqSequenceId hdata
  | reset =>
      cases h
      unfold resetAction
      dsimp only
      split <;> exact ⟨rfl, rfl⟩
  | _ =>
      cases h
      exact ⟨rfl, rfl⟩

end Actions

/-!
## Sources
-/

/-- The machine names its port in what it has sent. -/
structure Named (thisClock : ClockIdentity) (port : Port)
    (sm : MDPdelayReqSM) : Prop where
  clockIdentity : sm.perPTPInstanceGlobal.thisClock = thisClock
  leaves : sm.perPortGlobal.thisPort = port
  source : Source thisClock port [.pdelayReq] sm.process.sent

section Sources

variable {thisClock : ClockIdentity} {port : Port} {sm sm' : MDPdelayReqSM}

theorem Named.unsent (h : Named thisClock port sm)
    (hsettings : sm'.settings = sm.settings)
    (hsent : sm'.process.sent = sm.process.sent) :
    Named thisClock port sm' where
  clockIdentity :=
    (congrArg (fun s => s.perPTPInstanceGlobal.thisClock) hsettings).trans
      h.clockIdentity
  leaves := (congrArg Settings.thisPort hsettings).trans h.leaves
  source := by
    rw [hsent]
    exact h.source

theorem Named.requests (h : Named thisClock port sm)
    (hsettings : sm'.settings = sm.settings) (hrequests : Requests sm sm') :
    Named thisClock port sm' := by
  obtain ⟨req, hsent, hsource, _⟩ := hrequests.request
  refine ⟨?_, ?_, ?_⟩
  · exact (congrArg (fun s => s.perPTPInstanceGlobal.thisClock)
      hsettings).trans h.clockIdentity
  · exact (congrArg Settings.thisPort hsettings).trans h.leaves
  · rw [hsent, h.leaves]
    refine h.source.send (hsource.trans ?_) (List.mem_singleton_self _)
    unfold portId
    rw [h.clockIdentity, h.leaves]

theorem Named.action {ts : UScaledNs} {state : MDPdelayReqSMState}
    (h : Named thisClock port sm)
    (haction : MDPdelayReqSM.action ts state sm = .ok sm') :
    Named thisClock port sm' := by
  have hsettings := settings_action haction
  have hsent := sent_action haction
  cases state with
  | initialSendPdelayReq => exact h.requests hsettings hsent
  | sendPdelayReq => exact h.requests hsettings hsent.left
  | _ => exact h.unsent hsettings hsent.sent

end Sources

end MDPdelayReqSM

namespace MDPdelayReqMachine

open MDPdelayReqSM

section Calls

variable {thisClock : ClockIdentity} {port : Port} {m : MDPdelayReqMachine}

theorem named_run (h : Named thisClock port m.vars) (ts : UScaledNs) :
    Named thisClock port (m.run ts).vars := by
  refine Behaviour.run_preserves (behaviour ts)
    (I := Named thisClock port) ?_ ?_ ?_ ?_ passes (m := m.ready) h
  · exact fun _ _ _ h haction => h.action haction
  · exact fun _ _ _ h _ => h.unsent rfl rfl
  · exact fun _ _ _ h _ => h.unsent rfl rfl
  · exact fun _ h => h.unsent rfl rfl

theorem named_step (h : Named thisClock port m.vars) (e : Event) :
    Named thisClock port (step m e).vars := by
  unfold step
  split
  · exact h
  · cases e with
    | run ts => exact named_run h ts
    | txts ts tsuTimestamp =>
        dsimp only [txts]
        split
        · exact h
        · split
          · exact h
          · exact named_run
              (m := { m with vars := m.vars.storeTimestamp tsuTimestamp })
              (h.unsent rfl rfl) ts
    | recvResp ts tsuTimestamp pdelayResp =>
        have hrun := named_run
          (m := { m with vars := m.vars.storeResp pdelayResp })
          (h.unsent rfl rfl) ts
        exact hrun.unsent rfl rfl
    | recvRespFollowUp ts pdelayRespFollowUp =>
        exact named_run
          (m :=
            { m with vars := m.vars.storeRespFollowUp pdelayRespFollowUp })
          (h.unsent rfl rfl) ts

end Calls

end MDPdelayReqMachine

/-!
## Sequence numbers
-/

namespace MDPdelayReqSM

open MDPdelayReqSMState

/-- The requests of the port are numbered, and the counter has the last number. -/
def Numbered (port : Port) (sm : MDPdelayReqSM) : Prop :=
  Consecutive (sequenceIds .pdelayReq port sm.process.sent)
    (sm.pdelayReqSequenceId + 1)

/-- No request has been sent. -/
def Silent (sm : MDPdelayReqSM) : Prop :=
  sm.process.sent = []

def SentBefore (port : Port) (state : MDPdelayReqSMState)
    (sm : MDPdelayReqSM) : Prop :=
  match state with
  | init | notEnabled | initialSendPdelayReq => sm.Silent
  | _ => sm.Numbered port

/-- What has been sent while the machine is in a state. -/
def SentDuring (port : Port) (state : MDPdelayReqSMState)
    (sm : MDPdelayReqSM) : Prop :=
  match state with
  | init | notEnabled => sm.Silent
  | _ => sm.Numbered port

section Numbers

variable {port : Port} {sm sm' : MDPdelayReqSM} {ts : UScaledNs}

theorem Numbered.unsent (h : sm.Numbered port) (hunsent : Unsent sm sm') :
    sm'.Numbered port := by
  unfold Numbered
  rw [hunsent.sent, hunsent.pdelayReqSequenceId]
  exact h

theorem Silent.numbered (h : sm.Silent) : sm.Numbered port := by
  unfold Numbered
  rw [h]
  exact consecutive_nil _

theorem Consecutive.requests (hport : sm.perPortGlobal.thisPort = port)
    (h : Consecutive (sequenceIds .pdelayReq port sm.process.sent)
      sm'.pdelayReqSequenceId) (hrequests : Requests sm sm') :
    sm'.Numbered port := by
  obtain ⟨req, hsent, _, hid⟩ := hrequests.request
  have hids := @sequenceIds_send .pdelayReq port sm.process.sent
    (.pdelayReq req) rfl
  unfold Numbered
  rw [hsent, hport, hids]
  change Consecutive (_ ++ [req.head.sequenceId]) _
  rw [hid]
  exact h.send

theorem sentDuring_action {state : MDPdelayReqSMState}
    (hport : sm.perPortGlobal.thisPort = port) (h : SentBefore port state sm)
    (haction : action ts state sm = .ok sm') : SentDuring port state sm' := by
  have hsent := sent_action haction
  cases state with
  | init | notEnabled => exact hsent.sent.trans h
  | initialSendPdelayReq =>
      refine Consecutive.requests hport ?_ hsent
      rw [show sm.process.sent = [] from h]
      exact consecutive_nil _
  | sendPdelayReq =>
      refine Consecutive.requests hport ?_ hsent.left
      rw [hsent.right]
      exact h
  | _ => exact Numbered.unsent h hsent

theorem Silent.sentBefore (h : sm.Silent) (state : MDPdelayReqSMState) :
    SentBefore port state sm := by
  cases state <;> first | exact h | exact h.numbered

theorem waitingForPdelayResp_next {next : MDPdelayReqSMState}
    (h : sm.waitingForPdelayRespStateTransition ts = .ok next) :
    next = reset ∨ next = waitingForPdelayResp ∨
      next = waitingForPdelayRespFollowUp := by
  unfold waitingForPdelayRespStateTransition at h
  split at h
  · cases h
    exact Or.inl rfl
  · split at h
    · obtain ⟨resp, _, h⟩ := bind_eq_ok.mp h
      obtain ⟨req, _, h⟩ := bind_eq_ok.mp h
      split at h
      · cases h
        exact Or.inr (Or.inr rfl)
      · cases h
        exact Or.inl rfl
    · cases h
      exact Or.inr (Or.inl rfl)

/-- What a transition out of a later state tells about the next one. -/
def Allows (ts : UScaledNs) (next : MDPdelayReqSMState) (sm : MDPdelayReqSM) :
    Prop :=
  match next with
  | init | notEnabled | initialSendPdelayReq => False
  | sendPdelayReq => sm.intervalElapsed ts = true
  | _ => True

/-- Later requests wait for the interval, whatever has been received. -/
theorem allows_transition {state next : MDPdelayReqSMState}
    (hinit : state ≠ init) (hnotEnabled : state ≠ notEnabled)
    (h : transition ts state sm = .ok next) (hne : next ≠ state) :
    Allows ts next sm := by
  cases state with
  | init => exact absurd rfl hinit
  | notEnabled => exact absurd rfl hnotEnabled
  | initialSendPdelayReq =>
      rcases initialSendPdelayReq_left h hne with ⟨rfl, _⟩
      trivial
  | waitingForPdelayResp =>
      rcases waitingForPdelayResp_next h with rfl | rfl | rfl <;> trivial
  | waitingForPdelayRespFollowUp =>
      rcases waitingForPdelayRespFollowUp_cases h with
        rfl | rfl | ⟨rfl, _⟩ <;> trivial
  | waitingForPdelayIntervalTimer =>
      rcases waitingForPdelayIntervalTimer_left h hne with ⟨rfl, helapsed⟩
      exact helapsed
  | reset =>
      rcases reset_left h hne with ⟨rfl, helapsed⟩
      exact helapsed
  | sendPdelayReq =>
      rcases sendPdelayReq_left h hne with ⟨rfl, _⟩
      trivial

/-- Once the first request has been sent, only later states follow. -/
theorem Numbered.sentBefore (h : sm.Numbered port)
    {state next : MDPdelayReqSMState} (hinit : state ≠ init)
    (hnotEnabled : state ≠ notEnabled)
    (htransition : transition ts state sm = .ok next) (hne : next ≠ state) :
    SentBefore port next sm := by
  have hallows := allows_transition hinit hnotEnabled htransition hne
  cases next with
  | init | notEnabled | initialSendPdelayReq => exact hallows.elim
  | _ => exact h

theorem sentBefore_transition {state next : MDPdelayReqSMState}
    (h : SentDuring port state sm)
    (htransition : transition ts state sm = .ok next) (hne : next ≠ state) :
    SentBefore port next sm := by
  cases state with
  | init | notEnabled => exact Silent.sentBefore h next
  | _ =>
      exact Numbered.sentBefore h (by simp) (by simp) htransition hne

theorem SentDuring.numbered {state : MDPdelayReqSMState}
    (h : SentDuring port state sm) : sm.Numbered port := by
  cases state <;> first | exact h | exact Silent.numbered h

theorem SentBefore.numbered {state : MDPdelayReqSMState}
    (h : SentBefore port state sm) : sm.Numbered port := by
  cases state <;> first | exact h | exact Silent.numbered h

theorem SentDuring.congr {state : MDPdelayReqSMState}
    (h : SentDuring port state sm) (hunsent : Unsent sm sm') :
    SentDuring port state sm' := by
  cases state with
  | init | notEnabled => exact hunsent.sent.trans h
  | _ => exact Numbered.unsent h hunsent

end Numbers

end MDPdelayReqSM

namespace MDPdelayReqMachine

open MDPdelayReqSM

/-- A run numbers the requests of its port. -/
def numbering (port : Port) (ts : UScaledNs) :
    Program.Annotation (behaviour ts).program :=
  (behaviour ts).annotate
    (fun state sm => sm.perPortGlobal.thisPort = port ∧
      SentBefore port state sm)
    (fun state sm => sm.perPortGlobal.thisPort = port ∧
      SentDuring port state sm)
    (fun _ _ _ hpre h =>
      ⟨(congrArg Settings.thisPort (settings_action h)).trans hpre.left,
        sentDuring_action hpre.left hpre.right h⟩)
    (fun _ _ _ hpost h hne =>
      ⟨hpost.left, sentBefore_transition hpost.right h hne⟩)

section Runs

variable {port : Port} {m : MDPdelayReqMachine} {ts : UScaledNs}

/-- What the initiator of an enabled port has sent, between two calls. -/
structure Issues (port : Port) (m : MDPdelayReqMachine) : Prop where
  numbered : m.vars.Numbered port
  enabled : m.vars.Enabled
  leaves : m.vars.perPortGlobal.thisPort = port
  during : m.vars.process.stop = none ->
    m.Quiescent ∧ SentDuring port m.state m.vars

theorem issues_run (henabled : m.vars.Enabled)
    (hholds : (numbering port ts).Holds m)
    (hrunning : m.vars.process.stop = none)
    (hport : m.vars.perPortGlobal.thisPort = port) :
    Issues port (m.run ts) := by
  have hsettings := settings_run m ts
  have hready := ready_enabled henabled
  constructor
  case numbered =>
    unfold run
    rw [hready]
    refine Behaviour.run_always (behaviour_records ts) (numbering port ts)
      (I := Numbered port) ?_ ?_ ?_ passes hholds hrunning
    · exact fun _ _ hpre => hpre.right.numbered
    · exact fun _ _ hpost => hpost.right.numbered
    · exact fun _ _ h => h
  case enabled => exact enabled_of_settings hsettings henabled
  case leaves => exact (congrArg Settings.thisPort hsettings).trans hport
  case during =>
    unfold run
    rw [hready]
    intro hstop
    obtain ⟨hq, _, hduring⟩ := (numbering port ts).run_post passes hholds hstop
    exact ⟨hq, hduring⟩

theorem Issues.runWith (h : Issues port m)
    (hrunning : m.vars.process.stop = none) {sm : MDPdelayReqSM}
    (hsettings : sm.settings = m.vars.settings)
    (hprocess : sm.process = m.vars.process)
    (hid : sm.pdelayReqSequenceId = m.vars.pdelayReqSequenceId) :
    Issues port (run { m with vars := sm } ts) := by
  obtain ⟨hq, hduring⟩ := h.during hrunning
  have hport : sm.perPortGlobal.thisPort = port :=
    (congrArg Settings.thisPort hsettings).trans h.leaves
  have hunsent : Unsent m.vars sm := ⟨congrArg Process.sent hprocess, hid⟩
  have hholds : (numbering port ts).Holds { m with vars := sm } :=
    ⟨fun _ => ⟨hport, hduring.congr hunsent⟩, fun hn => absurd hq hn⟩
  exact issues_run (enabled_of_settings hsettings h.enabled) hholds
    ((congrArg Process.stop hprocess).trans hrunning) hport

theorem issues_step (h : Issues port m) (e : Event) :
    Issues port (step m e) := by
  by_cases hrunning : m.vars.process.stop = none
  · rw [step_running e hrunning]
    cases e with
    | run ts => exact h.runWith hrunning rfl rfl rfl
    | txts ts tsuTimestamp =>
        dsimp only [txts]
        split
        · exact h
        · split
          · exact h
          · exact h.runWith hrunning rfl rfl rfl
    | recvResp ts tsuTimestamp pdelayResp =>
        have hrun : Issues port
            (run { m with vars := m.vars.storeResp pdelayResp } ts) :=
          h.runWith hrunning rfl rfl rfl
        exact ⟨hrun.numbered, hrun.enabled, hrun.leaves, fun hstop =>
          ⟨(hrun.during hstop).left,
            (hrun.during hstop).right.congr ⟨rfl, rfl⟩⟩⟩
    | recvRespFollowUp ts pdelayRespFollowUp =>
        exact h.runWith hrunning rfl rfl rfl
  · rw [step_stopped e hrunning]
    exact h

end Runs

/-!
## The machine of a port
-/

/-- The assignments of the main loop to the variables of a port's link. -/
def initMDEntityGlobal (mdEntity : MDEntityGlobal) : MDEntityGlobal :=
  { mdEntity with
    allowedFaults := 255
    allowedLostResponses := 255
    asCapableAcrossDomains := false
    isMeasuringDelay := true
    meanLinkDelayThresh := { subns := 0, nsec := 0, nsecMsb := 0xFFFF }
    pdelayReqInterval := AnnounceLoop.oneSecond }

/-- The machine of a port once the main loop has initialized it. -/
def start (config : Config) (i : PortIndex) (memory : MDPdelayReqSM) :
    MDPdelayReqMachine :=
  initMdPdelayReqSm
    { memory with
      perPTPInstanceGlobal :=
        AnnounceLoop.initPerPTPInstanceGlobal config
          memory.perPTPInstanceGlobal
      perPortGlobal :=
        AnnounceLoop.initPerPortGlobal config i memory.perPortGlobal
      mdEntityGlobal := initMDEntityGlobal memory.mdEntityGlobal
      process := { stop := none, sent := [], rand := memory.process.rand } }

/-- The machine of a port after a sequence of calls. -/
def after (config : Config) (i : PortIndex) (memory : MDPdelayReqSM)
    (es : List Event) : MDPdelayReqMachine :=
  runEvents step (start config i memory) es

section Ports

variable {config : Config} {i : PortIndex} {memory : MDPdelayReqSM}

/-- Every message that the initiator of a port sends names the port. -/
theorem named_after (es : List Event) :
    Named config.systemIdentity.clockIdentity i.succ
      (after config i memory es).vars := by
  have hstart : Named config.systemIdentity.clockIdentity i.succ
      (start config i memory).vars := by
    unfold start initMdPdelayReqSm
    refine named_run ?_ _
    exact ⟨rfl, rfl, source_nil⟩
  exact run_invariant_always
    (I := fun m : MDPdelayReqMachine =>
      Named config.systemIdentity.clockIdentity i.succ m.vars)
    hstart (fun _ e h => named_step h e) es

/-- The requests of an enabled port are numbered. -/
theorem issues_after (h : config.ptpPorts i.succ ≠ .disabledPort)
    (es : List Event) : Issues i.succ (after config i memory es) := by
  have hstart : Issues i.succ (start config i memory) := by
    unfold start initMdPdelayReqSm
    refine issues_run ⟨rfl, decide_eq_true h, rfl⟩ ?_ rfl rfl
    exact ⟨fun hq => (by cases hq), fun _ => ⟨rfl, rfl⟩⟩
  exact run_invariant_always (I := Issues i.succ) hstart
    (fun _ e h => issues_step h e) es

end Ports

end MDPdelayReqMachine

end TimeSync
end Ziggo
