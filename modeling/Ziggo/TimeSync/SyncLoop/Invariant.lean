import Ziggo.TimeSync.SyncLoop.Receivers

/-!
# The loop between two events

As long as the process runs, every machine waits for a call between two events
of the loop.
-/

namespace Ziggo
namespace TimeSync

open Foundation TsnDrivers

namespace SyncLoop

/-- The settings that the main loop makes for synchronization. -/
structure Configured (l : SyncLoop) : Prop where
  operating : l.resetting = false
  thisPort : forall i, (l.perPortGlobal i).thisPort = i.succ
  mode : forall i, (l.perPortGlobal i).asymmetryMeasurementMode = false

/-- The machines below the receivers of messages wait for a call. -/
structure Ready (l : SyncLoop) : Prop where
  running : l.stop = none
  configured : l.Configured
  site : SiteSyncSyncSM.Rests l
  receivers : forall i, PortSyncSyncReceiveSM.Rests l i

/-- All machines wait for a call. -/
structure AtRest (l : SyncLoop) : Prop where
  ready : l.Ready
  messages : forall i, MDSyncReceiveSM.Rests l i

theorem Configured.of_settings {l l' : SyncLoop} (h : l.Configured)
    (hsettings : l'.settings = l.settings) : l'.Configured where
  operating := by
    rw [PortSyncSyncSendSM.resetting_of_settings hsettings]
    exact h.operating
  thisPort i := by
    rw [PortSyncSyncSendSM.thisPort_of_settings hsettings]
    exact h.thisPort i
  mode i := by
    have hmode : (l'.perPortGlobal i).asymmetryMeasurementMode =
        (l.perPortGlobal i).asymmetryMeasurementMode :=
      congrArg PortSettings.asymmetryMeasurementMode
        (PortSyncSyncSendSM.portSettings_of_settings hsettings i)
    rw [hmode]
    exact h.mode i

end SyncLoop

namespace SiteSyncSyncSM

open SyncLoop

variable {l l' : SyncLoop} {ts : UScaledNs} {pss : PortSyncSync}

/-- The site and the machines below it read only a part of the variables. -/
theorem Rests.of_unchanged (h : Rests l)
    (hsettings : l'.settings = l.settings)
    (hsite : l'.siteSyncSyncSm = l.siteSyncSyncSm)
    (hslave : l'.clockSlaveSyncSm = l.clockSlaveSyncSm)
    (hlocked : forall i, (l'.perPortGlobal i).syncLocked =
      (l.perPortGlobal i).syncLocked)
    (hsms : l'.portSyncSyncSendSms = l.portSyncSyncSendSms)
    (hbelow : l'.mdSyncSendSms = l.mdSyncSendSms) : Rests l' where
  control := by
    rw [hsite]
    exact h.control
  received := by
    rw [hsite]
    exact h.received
  transmitted := by
    rw [hsite]
    exact h.transmitted
  slave := by
    rw [hslave]
    exact h.slave
  senders i := (h.senders i).of_unchanged hsettings (hlocked i)
    (congrFun hsms i) (congrFun hbelow i)

theorem rests_recvPSSync (hoperating : l.resetting = false)
    (hrunning : l.stop = none) (hrest : Rests l)
    (hresult : (recvPSSync ts pss l).stop = none) :
    Rests (recvPSSync ts pss l) := by
  cases hslave : fromSlavePort l pss with
  | false =>
      rw [recvPSSync_ignored hoperating hrunning hrest hslave]
      exact rests_ignored hrest
  | true =>
      have hstuck := (stop_recvPSSync ts hoperating hrunning hrest
        hslave).mp hresult
      exact (forwarded_recvPSSync ts hoperating hrunning hrest hslave
        hstuck).rests

end SiteSyncSyncSM

namespace PortSyncSyncReceiveSM

open SyncLoop

variable {l : SyncLoop} {i : PortIndex} {ts : UScaledNs}
  {mdSync : MDSyncReceive} {interval : UScaledNs}

theorem rests_delivering (h : SiteSyncSyncSM.Rests l) :
    SiteSyncSyncSM.Rests (delivering i ts mdSync interval l) := by
  refine h.of_unchanged (settings_of_environment environment_delivering) rfl
    rfl (fun j => ?_) rfl rfl
  by_cases hj : j = i
  · subst hj
    have hport : ((timed j mdSync interval l).perPortGlobal j).syncLocked =
        (l.perPortGlobal j).syncLocked := by
      rw [port_timed]
    exact hport
  · exact congrArg PerPortGlobal.syncLocked
      (PortSyncSyncSendSM.update_other hj)

/-- A call of the site that returns leaves it waiting. -/
theorem rests_delivered (h : l.Ready)
    (hresult : (delivered i ts mdSync interval l).stop = none) :
    SiteSyncSyncSM.Rests (delivered i ts mdSync interval l) :=
  @SiteSyncSyncSM.rests_recvPSSync (delivering i ts mdSync interval l) ts _
    h.configured.operating h.running (rests_delivering h.site) hresult

/-- The receivers wait for a call once the site has returned. -/
theorem receivers_delivered (h : l.Ready) (j : PortIndex) :
    Rests ((machine i ts).store (.rest .receivedSync)
      (delivered i ts mdSync interval l)) j := by
  by_cases hj : j = i
  · subst hj
    have hsms : ((machine j ts).store (.rest .receivedSync)
        (delivered j ts mdSync interval l)).portSyncSyncReceiveSms j =
        { (delivered j ts mdSync interval l).portSyncSyncReceiveSms j with
          control := .rest .receivedSync } := sms_assign j _ _
    refine ⟨⟨.receivedSync, by simp, ?_⟩, ?_⟩
    · rw [hsms]
    · rw [hsms, sms_delivered, sms_timed]
      exact Ptr.live_ne_released mdSync
  · have hsms : ((machine i ts).store (.rest .receivedSync)
        (delivered i ts mdSync interval l)).portSyncSyncReceiveSms j =
        l.portSyncSyncReceiveSms j := by
      refine (PortSyncSyncSendSM.update_other hj).trans ?_
      rw [sms_delivered]
      exact (PortSyncSyncSendSM.update_other hj).trans
        (PortSyncSyncSendSM.update_other hj)
    refine ⟨?_, ?_⟩
    · rw [hsms]
      exact (h.receivers j).control
    · rw [hsms]
      exact (h.receivers j).received

section Calls

variable (h : l.Ready) (hport : l.portReady i = true)

include h hport

theorem recvMDSync_ok (hinterval : intervalOf l i mdSync = .ok interval) :
    recvMDSync i ts mdSync l =
      (machine i ts).store (.rest .receivedSync)
        (delivered i ts mdSync interval l) := by
  rw [recvMDSync_eq h.configured.operating h.running (h.receivers i) hport
    (h.configured.mode i), action_stored, hinterval]

theorem recvMDSync_error {f : Fault}
    (hinterval : intervalOf l i mdSync = .error f) :
    recvMDSync i ts mdSync l =
      (machine i ts).store (.rest .receivedSync)
        ((stored i mdSync l).halt f) := by
  rw [recvMDSync_eq h.configured.operating h.running (h.receivers i) hport
    (h.configured.mode i), action_stored, hinterval]

/-- A call of the receiver of port `i` that returns leaves it waiting. -/
theorem ready_recvMDSync (hresult : (recvMDSync i ts mdSync l).stop = none) :
    (recvMDSync i ts mdSync l).Ready := by
  have hview := receiveView_recvMDSync i ts mdSync l
  have hsettings : (recvMDSync i ts mdSync l).settings = l.settings :=
    settings_of_environment (congrArg ReceiveView.environment hview)
  cases hinterval : intervalOf l i mdSync with
  | error f =>
      rw [recvMDSync_error h hport hinterval] at hresult
      exact absurd hresult (stop_halt f (stored i mdSync l))
  | ok interval =>
      refine ⟨hresult, h.configured.of_settings hsettings, ?_, ?_⟩
      · rw [recvMDSync_ok h hport hinterval] at hresult ⊢
        exact (rests_delivered h hresult).of_unchanged rfl rfl rfl
          (fun _ => rfl) rfl rfl
      · rw [recvMDSync_ok h hport hinterval]
        exact receivers_delivered h

end Calls

end PortSyncSyncReceiveSM

namespace MDSyncReceiveSM

open SyncLoop

/-!
## The receivers of messages
-/

section Messages

variable {l l' : SyncLoop} {i : PortIndex} {ts : UScaledNs}

theorem ready_assign (h : l.Ready) (sm : MDSyncReceiveSM) :
    (assign i sm l).Ready :=
  ⟨h.running, ⟨h.configured.operating, h.configured.thisPort,
      h.configured.mode⟩,
    h.site.of_unchanged rfl rfl rfl (fun _ => rfl) rfl rfl,
    fun j => ⟨(h.receivers j).control, (h.receivers j).received⟩⟩

/-- The receiver of a port in operation waits for a call. -/
theorem rests_of_readable {s : MDSyncReceiveSMState} (hs : s ≠ .init)
    (hcontrol : (l.mdSyncReceiveSms i).control = .rest s)
    (h : (l.mdSyncReceiveSms i).Readable)
    (howned : (l.mdSyncReceiveSms i).rcvdFollowUpPtr ≠ .released)
    (hport : l.portReady i = true) : Rests l i where
  control := ⟨s, hs, hcontrol⟩
  sync := by
    obtain ⟨sync, hsync⟩ := h.sync
    rw [hsync]
    exact Ptr.live_ne_released sync
  followUp := howned
  unread hflag := by
    rw [h.read] at hflag
    cases hflag
  idle hnot := by
    rw [hport] at hnot
    cases hnot
  followUpLive := h.followUp
  syncLive _ := h.sync

theorem rests_of_unchanged (h : Rests l i)
    (hsms : l'.mdSyncReceiveSms i = l.mdSyncReceiveSms i)
    (hport : l'.portReady i = l.portReady i) : Rests l' i where
  control := by
    rw [hsms]
    exact h.control
  sync := by
    rw [hsms]
    exact h.sync
  followUp := by
    rw [hsms]
    exact h.followUp
  unread := by
    rw [hsms, hport]
    exact h.unread
  idle := by
    rw [hsms, hport]
    exact h.idle
  followUpLive := by
    rw [hsms]
    exact h.followUpLive
  syncLive := by
    rw [hsms]
    exact h.syncLive

/-- The loop while the receiver of messages of port `i` waits. -/
structure Waiting (l : SyncLoop) (i : PortIndex) : Prop where
  ready : l.Ready
  port : l.portReady i = true
  readable : (l.mdSyncReceiveSms i).Readable
  owned : (l.mdSyncReceiveSms i).rcvdFollowUpPtr ≠ .released
  others : forall j, j ≠ i -> Rests l j

theorem sms_store (c : Control MDSyncReceiveSMState) :
    ((machine i ts).store c l).mdSyncReceiveSms i =
      { l.mdSyncReceiveSms i with control := c } :=
  sms_assign i _ l

theorem sms_store_other {j : PortIndex} (hj : j ≠ i)
    (c : Control MDSyncReceiveSMState) :
    ((machine i ts).store c l).mdSyncReceiveSms j = l.mdSyncReceiveSms j :=
  sms_assign_other hj _ l

theorem Waiting.atRest_store (h : Waiting l i) {s : MDSyncReceiveSMState}
    (hs : s ≠ .init) : ((machine i ts).store (.rest s) l).AtRest := by
  refine ⟨ready_assign h.ready _, fun j => ?_⟩
  by_cases hj : j = i
  · subst hj
    refine rests_of_readable hs ?_ ?_ ?_ h.port
    · rw [sms_store]
    · rw [sms_store]
      exact ⟨h.readable.read, h.readable.sync, h.readable.followUp⟩
    · rw [sms_store]
      exact h.owned
  · exact rests_of_unchanged (h.others j hj) (sms_store_other hj _) rfl

theorem Waiting.discardAction (h : Waiting l i) :
    Waiting (discardAction i l) i := by
  have hsms : (MDSyncReceiveSM.discardAction i l).mdSyncReceiveSms i =
      { l.mdSyncReceiveSms i with
        rcvdSync := false
        rcvdFollowUp := false } := sms_assign i _ l
  refine ⟨ready_assign h.ready _, h.port, ?_, ?_, fun j hj =>
    rests_of_unchanged (h.others j hj) (sms_assign_other hj _ l) rfl⟩
  · rw [hsms]
    exact ⟨rfl, h.readable.sync, fun hflag => by cases hflag⟩
  · rw [hsms]
    exact h.owned

theorem Waiting.recvMDSync (h : Waiting l i) (mdSync : MDSyncReceive)
    (hresult :
      (PortSyncSyncReceiveSM.recvMDSync i ts mdSync l).stop = none) :
    Waiting (PortSyncSyncReceiveSM.recvMDSync i ts mdSync l) i := by
  have hview := PortSyncSyncReceiveSM.receiveView_recvMDSync i ts mdSync l
  have hsms : (PortSyncSyncReceiveSM.recvMDSync i ts mdSync
      l).mdSyncReceiveSms = l.mdSyncReceiveSms :=
    congrArg ReceiveView.mdSyncReceiveSms hview
  have hport : forall j, (PortSyncSyncReceiveSM.recvMDSync i ts mdSync
      l).portReady j = l.portReady j :=
    PortSyncSyncSendSM.portReady_of_settings
      (settings_of_environment (congrArg ReceiveView.environment hview))
  refine ⟨PortSyncSyncReceiveSM.ready_recvMDSync h.ready h.port hresult, ?_,
    ?_, ?_, fun j hj =>
      rests_of_unchanged (h.others j hj) (congrFun hsms j) (hport j)⟩
  · rw [hport]
    exact h.port
  · rw [hsms]
    exact h.readable
  · rw [hsms]
    exact h.owned

theorem atRest_outcome (h : Waiting l i)
    (hresult : (outcome i ts l).stop = none) : (outcome i ts l).AtRest := by
  unfold outcome at hresult ⊢
  split at hresult
  case isTrue hmatched =>
    obtain ⟨_, sync, followUp, hsync, hfollowUp, _⟩ :=
      h.readable.matched_iff.mp hmatched
    rw [if_pos hmatched, waitingForSyncAction_eq hsync hfollowUp]
    rw [waitingForSyncAction_eq hsync hfollowUp] at hresult
    exact (h.discardAction.recvMDSync _ hresult).atRest_store (by simp)
  case isFalse hmatched =>
    rw [if_neg hmatched]
    split
    · exact h.discardAction.atRest_store (by simp)
    · exact h.atRest_store (by simp)

theorem waiting_receiving (h : l.AtRest) (hport : l.portReady i = true)
    (tsuTimestamp : TSUTimestamp) (sync : PTPMsgSync) :
    Waiting (receiving i ts tsuTimestamp sync l) i := by
  have hothers : forall j, j ≠ i ->
      (receiving i ts tsuTimestamp sync l).mdSyncReceiveSms j =
        l.mdSyncReceiveSms j := fun j hj =>
    (sms_assign_other hj _ _).trans (sms_assign_other hj _ _)
  refine ⟨ready_assign (ready_assign h.ready _) _, hport, ?_, ?_, fun j hj =>
    rests_of_unchanged (h.messages j) (hothers j hj) rfl⟩
  · rw [sms_receiving]
    exact ⟨rfl, Ptr.isLive_live sync, (h.messages i).followUpLive⟩
  · rw [sms_receiving]
    exact (h.messages i).followUp

theorem waiting_of_atRest (h : l.AtRest)
    (hwaiting : (l.mdSyncReceiveSms i).control = .rest .waitingForFollowUp) :
    Waiting l i :=
  ⟨h.ready, (h.messages i).portReady_of_waiting hwaiting,
    (h.messages i).readable hwaiting, (h.messages i).followUp,
    fun j _ => h.messages j⟩

theorem waiting_storeFollowUp (h : Waiting l i) (followUp : PTPMsgFollowUp) :
    Waiting (storeFollowUp i followUp l) i := by
  refine ⟨ready_assign h.ready _, h.port, ?_, ?_, fun j hj =>
    rests_of_unchanged (h.others j hj) (sms_assign_other hj _ l) rfl⟩
  · rw [sms_storeFollowUp]
    exact ⟨h.readable.read, h.readable.sync, fun _ => Ptr.isLive_live followUp⟩
  · rw [sms_storeFollowUp]
    exact Ptr.live_ne_released followUp

/-- An unread `Sync` does no harm to a port that cannot use it. -/
theorem atRest_unable (h : l.AtRest) (hport : l.portReady i = false)
    (tsuTimestamp : TSUTimestamp) (sync : PTPMsgSync) :
    ((machine i ts).store (.rest .discard)
      (storeSync i tsuTimestamp sync l)).AtRest := by
  refine ⟨ready_assign (ready_assign h.ready _) _, fun j => ?_⟩
  by_cases hj : j = i
  · subst hj
    have hsms : ((machine j ts).store (.rest .discard)
        (storeSync j tsuTimestamp sync l)).mdSyncReceiveSms j =
        { l.mdSyncReceiveSms j with
          rcvdSync := true
          rcvdSyncPtr := .live sync
          syncEventIngressTimestamp := tsuTimestamp.ts
          control := .rest .discard } := by
      rw [sms_store, sms_storeSync]
    refine ⟨⟨.discard, by simp, ?_⟩, ?_, ?_, fun _ => hport, fun _ => ?_, ?_,
      fun hcontrol => ?_⟩
    · rw [hsms]
    · rw [hsms]
      exact Ptr.live_ne_released sync
    · rw [hsms]
      exact (h.messages j).followUp
    · rw [hsms]
    · rw [hsms]
      exact (h.messages j).followUpLive
    · rw [hsms]
      exact Ptr.isLive_live sync
  · exact rests_of_unchanged (h.messages j)
      ((sms_store_other hj _).trans (sms_assign_other hj _ l)) rfl

theorem atRest_kept (h : l.AtRest)
    (hwaiting : (l.mdSyncReceiveSms i).control ≠ .rest .waitingForFollowUp)
    (followUp : PTPMsgFollowUp) :
    ((machine i ts).store (l.mdSyncReceiveSms i).control
      (storeFollowUp i followUp l)).AtRest := by
  refine ⟨ready_assign (ready_assign h.ready _) _, fun j => ?_⟩
  by_cases hj : j = i
  · subst hj
    have hsms : ((machine j ts).store (l.mdSyncReceiveSms j).control
        (storeFollowUp j followUp l)).mdSyncReceiveSms j =
        { l.mdSyncReceiveSms j with
          rcvdFollowUp := true
          rcvdFollowUpPtr := .live followUp } := by
      rw [sms_store, sms_storeFollowUp]
    have hrest := h.messages j
    refine ⟨?_, ?_, ?_, ?_, ?_, fun _ => ?_, fun hcontrol => ?_⟩
    · rw [hsms]
      exact hrest.control
    · rw [hsms]
      exact hrest.sync
    · rw [hsms]
      exact Ptr.live_ne_released followUp
    · rw [hsms]
      exact hrest.unread
    · rw [hsms]
      exact hrest.idle
    · rw [hsms]
      exact Ptr.isLive_live followUp
    · rw [hsms] at hcontrol
      exact absurd hcontrol hwaiting
  · exact rests_of_unchanged (h.messages j)
      ((sms_store_other hj _).trans (sms_assign_other hj _ l)) rfl

theorem atRest_recvSync (h : l.AtRest) {tsuTimestamp : TSUTimestamp}
    {sync : PTPMsgSync}
    (hresult : (recvSync i ts tsuTimestamp sync l).stop = none) :
    (recvSync i ts tsuTimestamp sync l).AtRest := by
  cases hport : l.portReady i with
  | false =>
      rw [recvSync_unable h.ready.running (h.messages i) hport]
      exact atRest_unable h hport tsuTimestamp sync
  | true =>
      have hcall := @recvSync_eq l i ts h.ready.configured.operating
        h.ready.running (h.messages i) hport (h.ready.configured.mode i)
        tsuTimestamp sync
      rw [hcall] at hresult ⊢
      exact atRest_outcome (waiting_receiving h hport tsuTimestamp sync) hresult

theorem atRest_recvFollowUp (h : l.AtRest) {followUp : PTPMsgFollowUp}
    (hresult : (recvFollowUp i ts followUp l).stop = none) :
    (recvFollowUp i ts followUp l).AtRest := by
  by_cases hwaiting : (l.mdSyncReceiveSms i).control =
      .rest .waitingForFollowUp
  · have hcall := @recvFollowUp_eq l i ts h.ready.configured.operating
      h.ready.running (h.messages i) (h.ready.configured.mode i) hwaiting
      followUp
    rw [hcall] at hresult ⊢
    exact atRest_outcome
      (waiting_storeFollowUp (waiting_of_atRest h hwaiting) followUp) hresult
  · rw [recvFollowUp_idle h.ready.configured.operating h.ready.running
      (h.messages i) hwaiting]
    exact atRest_kept h hwaiting followUp

theorem atRest_run (h : l.AtRest) (hresult : (run i ts l).stop = none) :
    (run i ts l).AtRest := by
  by_cases hwaiting : (l.mdSyncReceiveSms i).control =
      .rest .waitingForFollowUp
  · have hcall := @run_eq l i ts h.ready.configured.operating h.ready.running
      (h.messages i) (h.ready.configured.mode i) hwaiting
    rw [hcall] at hresult ⊢
    exact atRest_outcome (waiting_of_atRest h hwaiting) hresult
  · rw [run_idle h.ready.configured.operating h.ready.running (h.messages i)
      hwaiting]
    exact h

end Messages

end MDSyncReceiveSM

namespace SyncLoop

/-!
## Steps
-/

section Steps

variable {l l' : SyncLoop} {i : PortIndex}

/-- The receivers wait as long as nothing is written to them. -/
theorem AtRest.of_unchanged (h : l.AtRest) (hrunning : l'.stop = none)
    (hsettings : l'.settings = l.settings)
    (hreceivers : l'.portSyncSyncReceiveSms = l.portSyncSyncReceiveSms)
    (hmessages : l'.mdSyncReceiveSms = l.mdSyncReceiveSms)
    (hsite : SiteSyncSyncSM.Rests l') : l'.AtRest where
  ready :=
    { running := hrunning
      configured := h.ready.configured.of_settings hsettings
      site := hsite
      receivers := fun i =>
        { control := by
            rw [hreceivers]
            exact (h.ready.receivers i).control
          received := by
            rw [hreceivers]
            exact (h.ready.receivers i).received } }
  messages i := MDSyncReceiveSM.rests_of_unchanged (h.messages i)
    (congrFun hmessages i)
    (PortSyncSyncSendSM.portReady_of_settings hsettings i)

theorem atRest_clockMaster (h : l.AtRest) {ts : UScaledNs} {pss : PortSyncSync}
    (hresult : (SiteSyncSyncSM.recvPSSync ts pss l).stop = none) :
    (SiteSyncSyncSM.recvPSSync ts pss l).AtRest := by
  have hview := SiteSyncSyncSM.siteView_recvPSSync ts pss l
  refine h.of_unchanged hresult ?_ ?_ ?_ ?_
  · exact congrArg (fun v => v.receiveView.environment.settings) hview
  · exact congrArg SiteView.portSyncSyncReceiveSms hview
  · exact congrArg (fun v => v.receiveView.mdSyncReceiveSms) hview
  · exact SiteSyncSyncSM.rests_recvPSSync h.ready.configured.operating
      h.ready.running h.ready.site hresult

theorem settings_setMeanLinkDelay (meanLinkDelay : UScaledNs) :
    (setMeanLinkDelay i meanLinkDelay l).settings = l.settings := by
  have hport : forall {α : Type} (f : PerPortGlobal -> α),
      f { l.perPortGlobal i with meanLinkDelay := meanLinkDelay } =
        f (l.perPortGlobal i) ->
      (fun j => f ((setMeanLinkDelay i meanLinkDelay l).perPortGlobal j)) =
        fun j => f (l.perPortGlobal j) := fun f hf => map_update f hf
  unfold settings
  rw [hport TimeSync.portSettings rfl,
    hport PerPortGlobal.currentLogSyncInterval rfl,
    hport PerPortGlobal.syncReceiptTimeout rfl]
  rfl

theorem atRest_setMeanLinkDelay (h : l.AtRest) (meanLinkDelay : UScaledNs) :
    (setMeanLinkDelay i meanLinkDelay l).AtRest := by
  have hsettings := @settings_setMeanLinkDelay l i meanLinkDelay
  refine h.of_unchanged h.ready.running hsettings rfl rfl
    (h.ready.site.of_unchanged hsettings rfl rfl (fun j => ?_) rfl rfl)
  by_cases hj : j = i
  · subst hj
    have hport : (setMeanLinkDelay j meanLinkDelay l).perPortGlobal j =
        { l.perPortGlobal j with meanLinkDelay := meanLinkDelay } :=
      PortSyncSyncSendSM.port_assignPort j _ l
    rw [hport]
  · exact congrArg PerPortGlobal.syncLocked (PortSyncSyncSendSM.update_other hj)

/-- The sender of another port does not notice a timestamp. -/
theorem rests_txts (h : l.AtRest) (tsuTimestamp : TSUTimestamp)
    (j : PortIndex) :
    PortSyncSyncSendSM.Rests (txts i tsuTimestamp l) j := by
  have hrest := h.ready.site.senders j
  refine ⟨hrest.control, hrest.received, hrest.transmitted, ?_⟩
  by_cases hj : j = i
  · subst hj
    have hglobals := MDSyncSendMachine.globals_txts hrest.below tsuTimestamp
    refine PortSyncSyncSendSM.atRest_load
      (MDSyncSendMachine.atRest_step hrest.below (.txts tsuTimestamp))
      (Function.update_self _ _ _) ?_ ?_
    · exact (congrArg (fun g => instanceSettings g.1) hglobals).symm
    · exact (congrArg (fun g => portSettings g.2) hglobals).symm
  · have hload : PortSyncSyncSendSM.loadMDSyncSend (txts i tsuTimestamp l) j =
        PortSyncSyncSendSM.loadMDSyncSend l j := by
      have hbelow : (txts i tsuTimestamp l).mdSyncSendSms j =
          l.mdSyncSendSms j := PortSyncSyncSendSM.update_other hj
      unfold PortSyncSyncSendSM.loadMDSyncSend
      rw [hbelow]
      rfl
    rw [hload]
    exact hrest.below

theorem atRest_txts (h : l.AtRest) {tsuTimestamp : TSUTimestamp}
    (hresult : (txts i tsuTimestamp l).stop = none) :
    (txts i tsuTimestamp l).AtRest :=
  h.of_unchanged hresult rfl rfl rfl
    ⟨h.ready.site.control, h.ready.site.received, h.ready.site.transmitted,
      h.ready.site.slave, rests_txts h tsuTimestamp⟩

/-- All machines wait again once the loop has handled an event. -/
theorem atRest_handle (h : l.AtRest) (e : Event)
    (hresult : (handle e l).stop = none) : (handle e l).AtRest := by
  cases e with
  | sync i ts tsuTimestamp message =>
      exact MDSyncReceiveSM.atRest_recvSync h hresult
  | followUp i ts message => exact MDSyncReceiveSM.atRest_recvFollowUp h hresult
  | timeout i ts => exact MDSyncReceiveSM.atRest_run h hresult
  | clockMaster ts pss => exact atRest_clockMaster h hresult
  | txts i tsuTimestamp => exact atRest_txts h hresult
  | select selectedState gmPresent =>
      exact h.of_unchanged hresult rfl rfl rfl
        (h.ready.site.of_unchanged rfl rfl rfl (fun _ => rfl) rfl rfl)
  | delay i meanLinkDelay => exact atRest_setMeanLinkDelay h meanLinkDelay
  | announce time =>
      exact h.of_unchanged hresult rfl rfl rfl
        (h.ready.site.of_unchanged rfl rfl rfl (fun _ => rfl) rfl rfl)

theorem step_running (h : l.stop = none) (e : Event) : l.step e = handle e l :=
  thenDo_running h _

theorem step_stopped (h : l.stop ≠ none) (e : Event) : l.step e = l :=
  thenDo_stopped h _

/-- Between two events the process has ended or all machines wait. -/
def Steady (l : SyncLoop) : Prop :=
  l.stop = none -> l.AtRest

theorem steady_step (h : l.Steady) (e : Event) : (l.step e).Steady := by
  intro hresult
  by_cases hrunning : l.stop = none
  · rw [step_running hrunning] at hresult ⊢
    exact atRest_handle (h hrunning) e hresult
  · rw [step_stopped hrunning] at hresult
    exact absurd hresult hrunning

end Steps

end SyncLoop

end TimeSync
end Ziggo
