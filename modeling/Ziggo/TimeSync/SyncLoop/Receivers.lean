import Ziggo.TimeSync.SyncLoop.Site

/-!
# Calls of the receivers of the ports

A structure that comes to the receiver of a port is passed to the site at once,
unless its interval cannot be computed.
-/

namespace Ziggo
namespace TimeSync

open Foundation TsnDrivers

namespace PortSyncSyncReceiveSM

open SyncLoop

/-- The receiver of port `i` waits for a call. -/
structure Rests (l : SyncLoop) (i : PortIndex) : Prop where
  control : exists s, s ≠ .init ∧
    (l.portSyncSyncReceiveSms i).control = .rest s
  received : (l.portSyncSyncReceiveSms i).rcvdMDSyncPtrPSSR ≠ .released

/-- The interval to the next timeout that a structure announces. -/
def intervalOf (l : SyncLoop) (i : PortIndex) (mdSync : MDSyncReceive) :
    Except Fault UScaledNs :=
  PortAnnounceInformationSM.timeoutInterval
    (l.perPortGlobal i).syncReceiptTimeout mdSync.logMessageInterval

/-- The structure that the site receives. -/
def psSyncFor (l : SyncLoop) (i : PortIndex) (ts : UScaledNs)
    (mdSync : MDSyncReceive) (interval : UScaledNs) : PortSyncSync :=
  psSyncOf (l.heap 0) mdSync (l.perPortGlobal i).thisPort 1
    (uscalednsAdd ts interval)

/-- The variables once a structure has been stored. -/
def stored (i : PortIndex) (mdSync : MDSyncReceive) (l : SyncLoop) :
    SyncLoop :=
  storeMDSync i mdSync (l.call (.portSyncSyncReceive i mdSync))

/-- The variables once its interval has been computed. -/
def timed (i : PortIndex) (mdSync : MDSyncReceive) (interval : UScaledNs)
    (l : SyncLoop) : SyncLoop :=
  setTimeoutInterval i interval
    (assign i
      { (stored i mdSync l).portSyncSyncReceiveSms i with
        rcvdMDSyncPSSR := false
        rateRatio := 1 } (stored i mdSync l))

/-- The variables at the call of the site. -/
def delivering (i : PortIndex) (ts : UScaledNs) (mdSync : MDSyncReceive)
    (interval : UScaledNs) (l : SyncLoop) : SyncLoop :=
  PortSyncSyncSendSM.setSyncReceiptTimeoutTime (uscalednsAdd ts interval)
    (dropBlock (timed i mdSync interval l))

@[simp] theorem sms_assign (i : PortIndex) (sm : PortSyncSyncReceiveSM)
    (l : SyncLoop) : (assign i sm l).portSyncSyncReceiveSms i = sm :=
  Function.update_self _ _ _

section Calls

variable {l : SyncLoop} {i : PortIndex} {ts : UScaledNs}
  {mdSync : MDSyncReceive} {interval : UScaledNs}

theorem sms_stored (i : PortIndex) (mdSync : MDSyncReceive) (l : SyncLoop) :
    (stored i mdSync l).portSyncSyncReceiveSms i =
      { l.portSyncSyncReceiveSms i with
        rcvdMDSyncPSSR := true
        rcvdMDSyncPtrPSSR := .live mdSync } :=
  sms_assign i _ _

theorem sms_timed :
    (timed i mdSync interval l).portSyncSyncReceiveSms i =
      { l.portSyncSyncReceiveSms i with
        rcvdMDSyncPSSR := false
        rcvdMDSyncPtrPSSR := .live mdSync
        rateRatio := 1 } := by
  refine (sms_assign i _ _).trans ?_
  rw [sms_stored]

theorem port_timed :
    (timed i mdSync interval l).perPortGlobal i =
      { l.perPortGlobal i with syncReceiptTimeoutTimeInterval := interval } :=
  PortSyncSyncSendSM.port_assignPort i _ _

theorem environment_delivering :
    (delivering i ts mdSync interval l).environment = l.environment :=
  congrArg ReceiveView.environment
    (receiveView_setTimeoutInterval i interval (stored i mdSync l))

/-- The variables after the call of the site. -/
def delivered (i : PortIndex) (ts : UScaledNs) (mdSync : MDSyncReceive)
    (interval : UScaledNs) (l : SyncLoop) : SyncLoop :=
  SiteSyncSyncSM.recvPSSync ts (psSyncFor l i ts mdSync interval)
    (delivering i ts mdSync interval l)

theorem siteView_delivered :
    (delivered i ts mdSync interval l).siteView =
      (delivering i ts mdSync interval l).siteView :=
  SiteSyncSyncSM.siteView_recvPSSync ts _ _

/-- The variables of the receivers after the call of the site. -/
theorem sms_delivered :
    (delivered i ts mdSync interval l).portSyncSyncReceiveSms =
      (timed i mdSync interval l).portSyncSyncReceiveSms :=
  congrArg SiteView.portSyncSyncReceiveSms siteView_delivered

theorem passOn_timed :
    passOn i ts mdSync (timed i mdSync interval l) =
      delivered i ts mdSync interval l := by
  unfold passOn
  dsimp only
  rw [port_timed, sms_timed]
  rfl

theorem action_stored :
    receivedSyncAction i ts (stored i mdSync l) =
      match intervalOf l i mdSync with
      | .error f => (stored i mdSync l).halt f
      | .ok interval => delivered i ts mdSync interval l := by
  have hptr : ((stored i mdSync l).portSyncSyncReceiveSms
      i).rcvdMDSyncPtrPSSR = .live mdSync := by
    rw [sms_stored]
  unfold receivedSyncAction
  dsimp only
  rw [withObject_of_live hptr]
  change (match intervalOf l i mdSync with
    | .error f => _
    | .ok interval => _) = _
  cases intervalOf l i mdSync with
  | error f => rfl
  | ok interval => exact passOn_timed

theorem recvMDSync_eq_run (hrest : Rests l i) :
    recvMDSync i ts mdSync l = (machine i ts).run passes (stored i mdSync l) :=
  freeThen_owned hrest.received _ _

theorem settled_received :
    (machine i ts).program.Settled .receivedSync
      (receivedSyncAction i ts (stored i mdSync l)) := by
  rw [action_stored]
  cases intervalOf l i mdSync with
  | error f => exact Or.inl (stop_halt f (stored i mdSync l))
  | ok interval =>
      have hflag : ((delivered i ts mdSync interval l).portSyncSyncReceiveSms
          i).rcvdMDSyncPSSR = false := by
        rw [sms_delivered, sms_timed]
      refine Or.inr ?_
      change Except.ok (receivedSyncStateTransition i _) = _
      unfold receivedSyncStateTransition
      rw [if_neg (by rw [hflag]; simp)]

/-- A port in operation reacts to each structure that it receives. -/
theorem recvMDSync_eq (hoperating : l.resetting = false)
    (hrunning : l.stop = none) (hrest : Rests l i)
    (hready : l.portReady i = true)
    (hmode : (l.perPortGlobal i).asymmetryMeasurementMode = false) :
    recvMDSync i ts mdSync l =
      (machine i ts).store (.rest .receivedSync)
        (receivedSyncAction i ts (stored i mdSync l)) := by
  obtain ⟨s, hs, hcontrol⟩ := hrest.control
  have hcontrol' : (machine i ts).control (stored i mdSync l) = .rest s := by
    change ((stored i mdSync l).portSyncSyncReceiveSms i).control = _
    rw [sms_stored]
    exact hcontrol
  have hflag : ((stored i mdSync l).portSyncSyncReceiveSms i).rcvdMDSyncPSSR =
      true := by
    rw [sms_stored]
  have hports : (stored i mdSync l).portReady i = true := hready
  have hmode' : ((stored i mdSync l).perPortGlobal
      i).asymmetryMeasurementMode = false := hmode
  have hstay : (machine i ts).ready (stored i mdSync l) s = s := by
    change (if l.resetting = true ∨
      (((stored i mdSync l).portSyncSyncReceiveSms i).rcvdMDSyncPSSR = true ∧
        (stored i mdSync l).portReady i = false) then _ else _) = _
    rw [hoperating, hports]
    simp
  rw [recvMDSync_eq_run hrest]
  cases s with
  | init => exact absurd rfl hs
  | discard =>
      refine Embedded.run_goto 14 hcontrol' hstay hrunning ?_ (by simp)
        settled_received
      change Except.ok (discardStateTransition i (stored i mdSync l)) = _
      unfold discardStateTransition
      rw [if_pos ⟨hflag, hports⟩]
  | receivedSync =>
      refine Embedded.run_reenter 14 hcontrol' hstay hrunning ?_
        settled_received
      change Except.ok (receivedSyncStateTransition i (stored i mdSync l)) = _
      unfold receivedSyncStateTransition
      rw [if_pos ⟨hflag, hports, hmode'⟩]

end Calls

end PortSyncSyncReceiveSM

namespace MDSyncReceiveSM

open SyncLoop

@[simp] theorem sms_assign (i : PortIndex) (sm : MDSyncReceiveSM)
    (l : SyncLoop) : (assign i sm l).mdSyncReceiveSms i = sm :=
  Function.update_self _ _ _

theorem sms_assign_other {i j : PortIndex} (hj : j ≠ i) (sm : MDSyncReceiveSM)
    (l : SyncLoop) :
    (assign i sm l).mdSyncReceiveSms j = l.mdSyncReceiveSms j :=
  Function.update_of_ne hj _ _

/-- The receiver of messages of port `i` waits for a call. -/
structure Rests (l : SyncLoop) (i : PortIndex) : Prop where
  control : exists s, s ≠ .init ∧ (l.mdSyncReceiveSms i).control = .rest s
  sync : (l.mdSyncReceiveSms i).rcvdSyncPtr ≠ .released
  followUp : (l.mdSyncReceiveSms i).rcvdFollowUpPtr ≠ .released
  /-- A `Sync` is left unread only by a port that cannot use any. -/
  unread : (l.mdSyncReceiveSms i).rcvdSync = true -> l.portReady i = false
  idle : l.portReady i = false ->
    (l.mdSyncReceiveSms i).control = .rest .discard
  followUpLive : (l.mdSyncReceiveSms i).rcvdFollowUp = true ->
    (l.mdSyncReceiveSms i).rcvdFollowUpPtr.IsLive
  syncLive : (l.mdSyncReceiveSms i).control = .rest .waitingForFollowUp ->
    (l.mdSyncReceiveSms i).rcvdSyncPtr.IsLive

/-!
## Waiting for a `Follow_Up`
-/

/-- The `Follow_Up` that has come belongs to the last `Sync`. -/
def matched (sm : MDSyncReceiveSM) : Bool :=
  match sm.followUpMatches with
  | .ok b => b
  | .error _ => false

/-- The machine has waited for too long. -/
def timedOut (sm : MDSyncReceiveSM) (ts : UScaledNs) : Bool :=
  uscalednsCompare ts sm.followUpReceiptTimeoutTime ≥ 0

/-- What the machine can read while it waits. -/
structure Readable (sm : MDSyncReceiveSM) : Prop where
  read : sm.rcvdSync = false
  sync : sm.rcvdSyncPtr.IsLive
  followUp : sm.rcvdFollowUp = true -> sm.rcvdFollowUpPtr.IsLive

theorem Readable.followUpMatches {sm : MDSyncReceiveSM} (h : sm.Readable) :
    sm.followUpMatches = .ok sm.matched := by
  have herror : forall f, sm.followUpMatches ≠ .error f := by
    intro f hf
    unfold MDSyncReceiveSM.followUpMatches at hf
    split at hf
    case isTrue hflag =>
      obtain ⟨sync, hsync⟩ := h.sync
      obtain ⟨followUp, hfollowUp⟩ := h.followUp hflag
      rw [hsync, hfollowUp] at hf
      cases hf
    case isFalse => cases hf
  unfold matched
  cases hresult : sm.followUpMatches with
  | ok b => rfl
  | error f => exact absurd hresult (herror f)

theorem Readable.matched_iff {sm : MDSyncReceiveSM} (h : sm.Readable) :
    sm.matched = true <->
      sm.rcvdFollowUp = true ∧
        exists sync followUp, sm.rcvdSyncPtr = .live sync ∧
          sm.rcvdFollowUpPtr = .live followUp ∧
          followUp.head.sequenceId = sync.head.sequenceId := by
  obtain ⟨sync, hsync⟩ := h.sync
  unfold matched MDSyncReceiveSM.followUpMatches
  cases hflag : sm.rcvdFollowUp with
  | false => simp
  | true =>
      obtain ⟨followUp, hfollowUp⟩ := h.followUp hflag
      rw [hsync, hfollowUp, if_pos rfl]
      change decide (_ = _) = true <-> _
      simp

/-- What the machine does while it waits. -/
def outcome (i : PortIndex) (ts : UScaledNs) (l : SyncLoop) : SyncLoop :=
  if (l.mdSyncReceiveSms i).matched then
    (machine i ts).store (.rest .waitingForSync) (waitingForSyncAction i ts l)
  else if (l.mdSyncReceiveSms i).timedOut ts then
    (machine i ts).store (.rest .discard) (discardAction i l)
  else
    (machine i ts).store (.rest .waitingForFollowUp) l

section Waiting

variable {l : SyncLoop} {i : PortIndex} {ts : UScaledNs}

theorem transition_waitingForFollowUp (h : (l.mdSyncReceiveSms i).Readable)
    (hmode : (l.perPortGlobal i).asymmetryMeasurementMode = false) :
    (machine i ts).program.transition .waitingForFollowUp l =
      .ok (.goto
        (if (l.mdSyncReceiveSms i).matched then .waitingForSync
        else if (l.mdSyncReceiveSms i).timedOut ts then .discard
        else .waitingForFollowUp)) := by
  change waitingForFollowUpStateTransition i ts l = _
  unfold waitingForFollowUpStateTransition
  dsimp only
  rw [if_neg (by rw [h.read]; simp), h.followUpMatches]
  simp only [bind, Except.bind, hmode, and_true]
  unfold timedOut
  split
  · rfl
  · by_cases htime : uscalednsCompare ts
        (l.mdSyncReceiveSms i).followUpReceiptTimeoutTime ≥ 0
    · rw [if_pos htime, if_pos (decide_eq_true htime)]
      rfl
    · rw [if_neg htime, if_neg (by simpa using htime)]
      rfl

theorem settled_discard :
    (machine i ts).program.Settled .discard (discardAction i l) := by
  refine Or.inr ?_
  change Except.ok (idleStateTransition .discard i (discardAction i l)) = _
  unfold idleStateTransition syncUsable discardAction
  rw [sms_assign]
  simp

/-- The structure for the receiver of the port, and the call. -/
theorem waitingForSyncAction_eq {sync : PTPMsgSync} {followUp : PTPMsgFollowUp}
    (hsync : (l.mdSyncReceiveSms i).rcvdSyncPtr = .live sync)
    (hfollowUp : (l.mdSyncReceiveSms i).rcvdFollowUpPtr = .live followUp) :
    waitingForSyncAction i ts l =
      PortSyncSyncReceiveSM.recvMDSync i ts
        (mdSyncReceiveOf sync followUp
          (l.mdSyncReceiveSms i).syncEventIngressTimestamp
          (l.perPortGlobal i).meanLinkDelay)
        (discardAction i l) := by
  unfold waitingForSyncAction
  dsimp only
  rw [withObject_of_live hsync, withObject_of_live hfollowUp]
  rfl

theorem settled_waitingForSync (h : (l.mdSyncReceiveSms i).Readable)
    (hmatched : (l.mdSyncReceiveSms i).matched = true) :
    (machine i ts).program.Settled .waitingForSync
      (waitingForSyncAction i ts l) := by
  obtain ⟨_, sync, followUp, hsync, hfollowUp, _⟩ := h.matched_iff.mp hmatched
  have hview := PortSyncSyncReceiveSM.receiveView_recvMDSync i ts
    (mdSyncReceiveOf sync followUp
      (l.mdSyncReceiveSms i).syncEventIngressTimestamp
      (l.perPortGlobal i).meanLinkDelay) (discardAction i l)
  have hsms : (waitingForSyncAction i ts l).mdSyncReceiveSms =
      (discardAction i l).mdSyncReceiveSms := by
    rw [waitingForSyncAction_eq hsync hfollowUp]
    exact congrArg ReceiveView.mdSyncReceiveSms hview
  refine Or.inr ?_
  change Except.ok (idleStateTransition .waitingForSync i _) = _
  unfold idleStateTransition syncUsable
  rw [hsms]
  unfold discardAction
  rw [sms_assign]
  simp

theorem run_waiting (hrunning : l.stop = none)
    (hcontrol : (l.mdSyncReceiveSms i).control = .rest .waitingForFollowUp)
    (hready : (machine i ts).ready l .waitingForFollowUp = .waitingForFollowUp)
    (h : (l.mdSyncReceiveSms i).Readable)
    (hmode : (l.perPortGlobal i).asymmetryMeasurementMode = false) :
    run i ts l = outcome i ts l := by
  have hnext := @transition_waitingForFollowUp l i ts h hmode
  unfold outcome
  by_cases hmatched : (l.mdSyncReceiveSms i).matched = true
  · rw [if_pos hmatched] at hnext ⊢
    exact Embedded.run_goto 14 hcontrol hready hrunning hnext (by simp)
      (settled_waitingForSync h hmatched)
  · rw [if_neg hmatched] at hnext ⊢
    by_cases htime : (l.mdSyncReceiveSms i).timedOut ts = true
    · rw [if_pos htime] at hnext ⊢
      exact Embedded.run_goto 14 hcontrol hready hrunning hnext (by simp)
        settled_discard
    · rw [if_neg htime] at hnext ⊢
      exact Embedded.run_idle 15 hcontrol hready hrunning hnext

theorem run_entering (fuel : Nat) {last : Option MDSyncReceiveSMState}
    (hlast : last ≠ some .waitingForFollowUp) (hrunning : l.stop = none)
    (h : ((waitingForFollowUpAction i ts l).mdSyncReceiveSms i).Readable)
    (hmode : (l.perPortGlobal i).asymmetryMeasurementMode = false) :
    (fun m : Machine MDSyncReceiveSMState SyncLoop =>
        (machine i ts).store { state := m.state, lastState := m.lastState }
          m.vars)
        ((machine i ts).program.run (fuel + 2)
          { state := .waitingForFollowUp, lastState := last, vars := l }) =
      outcome i ts (waitingForFollowUpAction i ts l) := by
  have hnext := @transition_waitingForFollowUp
    (waitingForFollowUpAction i ts l) i ts h hmode
  unfold outcome
  by_cases hmatched : ((waitingForFollowUpAction i ts l).mdSyncReceiveSms
      i).matched = true
  · rw [if_pos hmatched] at hnext ⊢
    have hrun := @Program.run_through _ _ _ (machine i ts).program fuel
      { state := .waitingForFollowUp, lastState := last, vars := l }
      .waitingForSync hlast hrunning hnext (by simp)
      (settled_waitingForSync h hmatched)
    rw [hrun]
    rfl
  · rw [if_neg hmatched] at hnext ⊢
    by_cases htime : ((waitingForFollowUpAction i ts l).mdSyncReceiveSms
        i).timedOut ts = true
    · rw [if_pos htime] at hnext ⊢
      have hrun := @Program.run_through _ _ _ (machine i ts).program fuel
        { state := .waitingForFollowUp, lastState := last, vars := l }
        .discard hlast hrunning hnext (by simp) settled_discard
      rw [hrun]
      rfl
    · rw [if_neg htime] at hnext ⊢
      have hrun := @Program.run_settle _ _ _ (machine i ts).program (fuel + 1)
        { state := .waitingForFollowUp, lastState := last, vars := l } hlast
        (Or.inr hnext)
      rw [hrun]
      rfl

end Waiting

/-!
## Calls
-/

/-- The variables once a `Sync` has been stored and the wait begins. -/
def receiving (i : PortIndex) (ts : UScaledNs) (tsuTimestamp : TSUTimestamp)
    (sync : PTPMsgSync) (l : SyncLoop) : SyncLoop :=
  waitingForFollowUpAction i ts (storeSync i tsuTimestamp sync l)

section Calls

variable {l : SyncLoop} {i : PortIndex} {ts : UScaledNs}

theorem Rests.readable (hrest : Rests l i)
    (hwaiting : (l.mdSyncReceiveSms i).control = .rest .waitingForFollowUp) :
    (l.mdSyncReceiveSms i).Readable := by
  refine ⟨?_, hrest.syncLive hwaiting, hrest.followUpLive⟩
  by_contra hflag
  have hidle := hrest.idle (hrest.unread (by simpa using hflag))
  rw [hwaiting] at hidle
  simp [Control.rest] at hidle

theorem Rests.portReady_of_waiting (hrest : Rests l i)
    (hwaiting : (l.mdSyncReceiveSms i).control = .rest .waitingForFollowUp) :
    l.portReady i = true := by
  by_contra hport
  have hidle := hrest.idle (by simpa using hport)
  rw [hwaiting] at hidle
  simp [Control.rest] at hidle

/-- The transitions common to all states leave a port in operation alone. -/
theorem ready_eq (hoperating : l.resetting = false)
    (hport : l.portReady i = true) (s : MDSyncReceiveSMState) :
    (machine i ts).ready l s = s := by
  change (if l.resetting = true ∨ (_ ∧ l.portReady i = false) then _ else _) = _
  rw [hoperating, hport]
  simp

theorem ready_discard :
    (machine i ts).ready l .discard = .discard :=
  ite_self _

theorem sms_storeSync (tsuTimestamp : TSUTimestamp) (sync : PTPMsgSync) :
    (storeSync i tsuTimestamp sync l).mdSyncReceiveSms i =
      { l.mdSyncReceiveSms i with
        rcvdSync := true
        rcvdSyncPtr := .live sync
        syncEventIngressTimestamp := tsuTimestamp.ts } :=
  sms_assign i _ _

theorem sms_receiving (tsuTimestamp : TSUTimestamp) (sync : PTPMsgSync) :
    (receiving i ts tsuTimestamp sync l).mdSyncReceiveSms i =
      { l.mdSyncReceiveSms i with
        rcvdSync := false
        rcvdSyncPtr := .live sync
        syncEventIngressTimestamp := tsuTimestamp.ts
        upstreamSyncInterval := AnnounceLoop.oneSecond
        followUpReceiptTimeoutTime :=
          uscalednsAdd ts AnnounceLoop.oneSecond } := by
  refine (sms_assign i _ _).trans ?_
  rw [sms_storeSync]

theorem sms_storeFollowUp (followUp : PTPMsgFollowUp) :
    (storeFollowUp i followUp l).mdSyncReceiveSms i =
      { l.mdSyncReceiveSms i with
        rcvdFollowUp := true
        rcvdFollowUpPtr := .live followUp } :=
  sms_assign i _ _

theorem recvSync_eq (hoperating : l.resetting = false)
    (hrunning : l.stop = none) (hrest : Rests l i)
    (hport : l.portReady i = true)
    (hmode : (l.perPortGlobal i).asymmetryMeasurementMode = false)
    (tsuTimestamp : TSUTimestamp) (sync : PTPMsgSync) :
    recvSync i ts tsuTimestamp sync l =
      outcome i ts (receiving i ts tsuTimestamp sync l) := by
  obtain ⟨s, hs, hcontrol⟩ := hrest.control
  have hcontrol' : (machine i ts).control (storeSync i tsuTimestamp sync l) =
      .rest s := by
    change ((storeSync i tsuTimestamp sync l).mdSyncReceiveSms i).control = _
    rw [sms_storeSync]
    exact hcontrol
  have hready := @ready_eq (storeSync i tsuTimestamp sync l) i ts hoperating
    hport s
  have hflag : ((storeSync i tsuTimestamp sync l).mdSyncReceiveSms
      i).rcvdSync = true := by
    rw [sms_storeSync]
  have husable : syncUsable (storeSync i tsuTimestamp sync l) i = true :=
    decide_eq_true ⟨hflag, hport, hmode⟩
  have hreadable :
      ((receiving i ts tsuTimestamp sync l).mdSyncReceiveSms i).Readable := by
    rw [sms_receiving]
    exact ⟨rfl, Ptr.isLive_live sync, hrest.followUpLive⟩
  have hidle : forall t,
      idleStateTransition t i (storeSync i tsuTimestamp sync l) =
        .goto .waitingForFollowUp := by
    intro t
    unfold idleStateTransition
    rw [if_pos husable]
  unfold recvSync
  rw [freeThen_owned hrest.sync]
  unfold run
  cases s with
  | init => exact absurd rfl hs
  | discard =>
      rw [show passes = 15 + 1 from rfl,
        Embedded.run_first_goto 15 hcontrol' hready hrunning
          (congrArg Except.ok (hidle .discard)) (by simp)]
      exact run_entering 13 (by simp) hrunning hreadable hmode
  | waitingForFollowUp =>
      rw [show passes = 15 + 1 from rfl,
        Embedded.run_first_reenter 15 hcontrol' hready hrunning (if_pos
          ⟨hflag, hport⟩)]
      exact run_entering 13 (by simp) hrunning hreadable hmode
  | waitingForSync =>
      rw [show passes = 15 + 1 from rfl,
        Embedded.run_first_goto 15 hcontrol' hready hrunning
          (congrArg Except.ok (hidle .waitingForSync)) (by simp)]
      exact run_entering 13 (by simp) hrunning hreadable hmode

/-- A machine that does not wait only keeps what has come. -/
theorem run_at_rest {s : MDSyncReceiveSMState} (hs : s ≠ .init)
    (hwaiting : s ≠ .waitingForFollowUp) (hrunning : l.stop = none)
    (hcontrol : (l.mdSyncReceiveSms i).control = .rest s)
    (hready : (machine i ts).ready l s = s)
    (hunusable : syncUsable l i = false) :
    run i ts l = (machine i ts).store (.rest s) l := by
  have hidle : forall t, idleStateTransition t i l = .goto t := by
    intro t
    unfold idleStateTransition
    rw [if_neg (by simp [hunusable])]
  cases s with
  | init => exact absurd rfl hs
  | discard =>
      exact Embedded.run_idle 15 hcontrol hready hrunning
        (congrArg Except.ok (hidle .discard))
  | waitingForFollowUp => exact absurd rfl hwaiting
  | waitingForSync =>
      exact Embedded.run_idle 15 hcontrol hready hrunning
        (congrArg Except.ok (hidle .waitingForSync))

theorem recvSync_unable (hrunning : l.stop = none) (hrest : Rests l i)
    (hport : l.portReady i = false) (tsuTimestamp : TSUTimestamp)
    (sync : PTPMsgSync) :
    recvSync i ts tsuTimestamp sync l =
      (machine i ts).store (.rest .discard)
        (storeSync i tsuTimestamp sync l) := by
  have hport' : (storeSync i tsuTimestamp sync l).portReady i = false := hport
  unfold recvSync
  rw [freeThen_owned hrest.sync]
  refine run_at_rest (by simp) (by simp) hrunning ?_ ready_discard ?_
  · rw [sms_storeSync]
    exact hrest.idle hport
  · unfold syncUsable
    simp [hport']

theorem recvFollowUp_eq (hoperating : l.resetting = false)
    (hrunning : l.stop = none) (hrest : Rests l i)
    (hmode : (l.perPortGlobal i).asymmetryMeasurementMode = false)
    (hwaiting : (l.mdSyncReceiveSms i).control = .rest .waitingForFollowUp)
    (followUp : PTPMsgFollowUp) :
    recvFollowUp i ts followUp l =
      outcome i ts (storeFollowUp i followUp l) := by
  have hport := hrest.portReady_of_waiting hwaiting
  have hreadable := hrest.readable hwaiting
  unfold recvFollowUp
  rw [freeThen_owned hrest.followUp]
  refine run_waiting hrunning ?_
    (@ready_eq (storeFollowUp i followUp l) i ts hoperating hport _) ?_ hmode
  · rw [sms_storeFollowUp]
    exact hwaiting
  · rw [sms_storeFollowUp]
    exact ⟨hreadable.read, hreadable.sync, fun _ => Ptr.isLive_live followUp⟩

theorem unusable_of_rests {l' : SyncLoop} (hrest : Rests l i)
    (hport : l'.portReady i = l.portReady i)
    (hflag : (l'.mdSyncReceiveSms i).rcvdSync =
      (l.mdSyncReceiveSms i).rcvdSync) : syncUsable l' i = false := by
  unfold syncUsable
  rw [hflag, hport]
  cases hread : (l.mdSyncReceiveSms i).rcvdSync with
  | false => simp
  | true => simp [hrest.unread hread]

theorem ready_of_rests {l' : SyncLoop} (hoperating : l'.resetting = false)
    (hrest : Rests l i) (hport : l'.portReady i = l.portReady i)
    {s : MDSyncReceiveSMState}
    (hcontrol : (l.mdSyncReceiveSms i).control = .rest s) :
    (machine i ts).ready l' s = s := by
  cases hready : l.portReady i with
  | true => exact ready_eq hoperating (hport.trans hready) s
  | false =>
      have hdiscard := hrest.idle hready
      rw [hcontrol] at hdiscard
      have hs : s = .discard := congrArg Control.state hdiscard
      rw [hs]
      exact ready_discard

theorem recvFollowUp_idle (hoperating : l.resetting = false)
    (hrunning : l.stop = none) (hrest : Rests l i)
    (hwaiting : (l.mdSyncReceiveSms i).control ≠ .rest .waitingForFollowUp)
    (followUp : PTPMsgFollowUp) :
    recvFollowUp i ts followUp l =
      (machine i ts).store (l.mdSyncReceiveSms i).control
        (storeFollowUp i followUp l) := by
  obtain ⟨s, hs, hcontrol⟩ := hrest.control
  have hother : s ≠ .waitingForFollowUp := by
    rintro rfl
    exact hwaiting hcontrol
  unfold recvFollowUp
  rw [freeThen_owned hrest.followUp, hcontrol]
  refine run_at_rest hs hother hrunning ?_
    (@ready_of_rests l i ts (storeFollowUp i followUp l) hoperating hrest rfl
      s hcontrol)
    (unusable_of_rests hrest rfl ?_)
  · rw [sms_storeFollowUp]
    exact hcontrol
  · rw [sms_storeFollowUp]

theorem run_eq (hoperating : l.resetting = false) (hrunning : l.stop = none)
    (hrest : Rests l i)
    (hmode : (l.perPortGlobal i).asymmetryMeasurementMode = false)
    (hwaiting : (l.mdSyncReceiveSms i).control = .rest .waitingForFollowUp) :
    run i ts l = outcome i ts l :=
  run_waiting hrunning hwaiting
    (ready_eq hoperating (hrest.portReady_of_waiting hwaiting) _)
    (hrest.readable hwaiting) hmode

theorem run_idle (hoperating : l.resetting = false) (hrunning : l.stop = none)
    (hrest : Rests l i)
    (hwaiting : (l.mdSyncReceiveSms i).control ≠ .rest .waitingForFollowUp) :
    run i ts l = l := by
  obtain ⟨s, hs, hcontrol⟩ := hrest.control
  have hother : s ≠ .waitingForFollowUp := by
    rintro rfl
    exact hwaiting hcontrol
  rw [run_at_rest hs hother hrunning hcontrol
    (ready_of_rests hoperating hrest rfl hcontrol)
    (unusable_of_rests hrest rfl rfl), ← hcontrol]
  exact congrArg (fun sms => { l with mdSyncReceiveSms := sms })
    (Function.update_eq_self i l.mdSyncReceiveSms)

end Calls

end MDSyncReceiveSM

end TimeSync
end Ziggo
