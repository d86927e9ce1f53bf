import Ziggo.TimeSync.SyncLoop.Forwarding
import Ziggo.TimeSync.SyncLoop.Transmission

/-!
# From a structure to its Follow_Up

A structure that has been handed to the machine of a port stays there until
another one comes.  What the machine sends in the meantime is built from it.
-/

namespace Ziggo
namespace TimeSync

open Foundation TsnDrivers

namespace MDSyncSendMachine

open MDSyncSendSM

/-- Each `Follow_Up` among the frames is built from one structure. -/
def BuiltFrom (mdSync : MDSyncSend) (frames : List Frame) : Prop :=
  forall frame, frame ∈ frames -> forall message,
    frame.message = .followUp message ->
      exists egress sequenceId, message = followUpOf mdSync egress sequenceId

theorem builtFrom_append {mdSync : MDSyncSend} {frames frames' : List Frame}
    (h : BuiltFrom mdSync frames) (h' : BuiltFrom mdSync frames') :
    BuiltFrom mdSync (frames ++ frames') := by
  intro frame hmem
  rcases List.mem_append.mp hmem with hmem | hmem
  · exact h frame hmem
  · exact h' frame hmem

theorem builtFrom_nil (mdSync : MDSyncSend) : BuiltFrom mdSync [] := by
  intro frame hmem
  cases hmem

theorem builtFrom_sync (mdSync : MDSyncSend) (port : Port) (sync : PTPMsgSync) :
    BuiltFrom mdSync [{ port := port, message := .sync sync }] := by
  intro frame hmem message hmessage
  cases List.mem_singleton.mp hmem
  cases hmessage

/-- Each `Follow_Up` among the frames has the egress timestamp of one `Sync`. -/
def AnsweredFrom (mdSync : MDSyncSend) (egress : UScaledNs)
    (frames : List Frame) : Prop :=
  forall frame, frame ∈ frames -> forall message,
    frame.message = .followUp message ->
      exists sequenceId, message = followUpOf mdSync egress sequenceId

theorem AnsweredFrom.builtFrom {mdSync : MDSyncSend} {egress : UScaledNs}
    {frames : List Frame} (h : AnsweredFrom mdSync egress frames) :
    BuiltFrom mdSync frames := by
  intro frame hmem message hmessage
  exact ⟨egress, h frame hmem message hmessage⟩

/-- The machine has a structure, and its frames since `sent` are built from it. -/
structure Keeps (mdSync : MDSyncSend) (sent : List Frame)
    (m : MDSyncSendMachine) : Prop where
  received : m.vars.rcvdMDSyncPtr = .live mdSync
  built : exists frames, m.vars.process.sent = sent ++ frames ∧
    BuiltFrom mdSync frames

section Calls

variable {m : MDSyncSendMachine} {mdSync : MDSyncSend} {sent : List Frame}

theorem Keeps.withGlobals (h : Keeps mdSync sent m)
    (g : PerPTPInstanceGlobal) (port : PerPortGlobal) :
    Keeps mdSync sent (m.withGlobals g port) :=
  ⟨h.received, h.built⟩

theorem keeps_recvMDSync (h : AtRest m) (mdSync : MDSyncSend) :
    Keeps mdSync m.vars.process.sent (step m (.recvMDSync mdSync)) := by
  by_cases hstate : m.state = .sendSync
  · rw [step_recvMDSync_waiting h hstate]
    exact ⟨rfl, [], (List.append_nil _).symm, builtFrom_nil mdSync⟩
  · by_cases hcapable : m.vars.Capable
    · rw [step_recvMDSync_sent h hstate hcapable]
      exact ⟨rfl, _, rfl, builtFrom_sync mdSync _ _⟩
    · rw [step_recvMDSync_unable h (h.initializing_of_incapable hcapable)
        hcapable]
      exact ⟨rfl, [], (List.append_nil _).symm, builtFrom_nil mdSync⟩

/-- What a timestamp leads to is built from the structure of the machine. -/
theorem txts_frames (h : AtRest m)
    (hreceived : m.vars.rcvdMDSyncPtr = .live mdSync)
    (tsuTimestamp : TSUTimestamp) :
    (step m (.txts tsuTimestamp)).vars.rcvdMDSyncPtr = .live mdSync ∧
      exists frames, (step m (.txts tsuTimestamp)).vars.process.sent =
          m.vars.process.sent ++ frames ∧
        AnsweredFrom mdSync tsuTimestamp.ts frames := by
  have hnothing : AnsweredFrom mdSync tsuTimestamp.ts [] := by
    intro frame hmem
    cases hmem
  by_cases hstate : m.state = .sendSync
  · cases hmatch : m.vars.timestampMatches tsuTimestamp with
    | false =>
        rw [step_txts_mismatch h hmatch]
        exact ⟨hreceived, [], (List.append_nil _).symm, hnothing⟩
    | true =>
        have hduring := h.during
        rw [hstate] at hduring
        obtain ⟨_, _, sync, hsent⟩ := hduring
        cases hflag : m.vars.rcvdMDSyncMDSS with
        | false =>
            rw [step_txts_followedUp h hstate hmatch hreceived hsent.left hflag]
            refine ⟨hreceived, _, rfl, fun frame hmem message hmessage => ?_⟩
            cases List.mem_singleton.mp hmem
            cases hmessage
            exact ⟨_, rfl⟩
        | true =>
            rw [step_txts_pending h hstate hmatch hreceived hsent.left hflag]
            refine ⟨hreceived, _, List.append_assoc _ _ _,
              fun frame hmem message hmessage => ?_⟩
            rcases List.mem_append.mp hmem with hmem | hmem
            · cases List.mem_singleton.mp hmem
              cases hmessage
              exact ⟨_, rfl⟩
            · cases List.mem_singleton.mp hmem
              cases hmessage
  · rw [step_txts_unexpected h hstate]
    exact ⟨hreceived, [], (List.append_nil _).symm, hnothing⟩

theorem Keeps.txts (hkeeps : Keeps mdSync sent m) (h : AtRest m)
    (tsuTimestamp : TSUTimestamp) :
    Keeps mdSync sent (step m (.txts tsuTimestamp)) := by
  obtain ⟨hreceived, frames, hframes, hbuilt⟩ := hkeeps
  obtain ⟨hkept, answers, hanswers, hanswered⟩ :=
    txts_frames h hreceived tsuTimestamp
  refine ⟨hkept, frames ++ answers, ?_,
    builtFrom_append hbuilt hanswered.builtFrom⟩
  rw [hanswers, hframes, List.append_assoc]

end Calls

end MDSyncSendMachine

namespace SyncLoop

open MDSyncSendMachine

/-- The `Follow_Up` in a frame. -/
def followUpIn (frame : Frame) : Option PTPMsgFollowUp :=
  match frame.message with
  | .followUp message => some message
  | _ => none

/-- The `Follow_Up` messages that port `i` sends from one state to the next. -/
def newFollowUps (l l' : SyncLoop) (i : PortIndex) : List PTPMsgFollowUp :=
  ((l'.mdSyncSendSms i).vars.process.sent.drop
    (l.mdSyncSendSms i).vars.process.sent.length).filterMap followUpIn

theorem frame_of_newFollowUps {l l' : SyncLoop} {i : PortIndex}
    {frames : List Frame}
    (hframes : (l'.mdSyncSendSms i).vars.process.sent =
      (l.mdSyncSendSms i).vars.process.sent ++ frames)
    {message : PTPMsgFollowUp} (h : message ∈ newFollowUps l l' i) :
    exists frame, frame ∈ frames ∧ frame.message = .followUp message := by
  unfold newFollowUps at h
  rw [hframes, List.drop_left] at h
  obtain ⟨frame, hframe, hmessage⟩ := List.mem_filterMap.mp h
  refine ⟨frame, hframe, ?_⟩
  unfold followUpIn at hmessage
  split at hmessage
  case h_1 other hother =>
    cases hmessage
    exact hother
  case h_2 => cases hmessage

/-!
## Events that hand nothing over
-/

/-- No structure is handed to the machine of port `i` at an event. -/
def Unhanded (i : PortIndex) (l : SyncLoop) (e : Event) : Prop :=
  (news l e).countP (Call.sendsTo i) = 0

instance (i : PortIndex) (l : SyncLoop) (e : Event) :
    Decidable (Unhanded i l e) :=
  inferInstanceAs (Decidable (_ = _))

/-- Only the calls of its machine concern what a port sends. -/
theorem admits_unhanded (i : PortIndex) :
    Admits fun l l' => exists new, l'.calls = l.calls ++ new ∧
      (new.countP (Call.sendsTo i) = 0 ->
        l'.mdSyncSendSms i = l.mdSyncSendSms i) where
  silent {l l'} h := by
    have hcalls : l'.calls = l.calls := congrArg LowerView.calls h
    have hsms : l'.mdSyncSendSms = l.mdSyncSendSms :=
      congrArg LowerView.mdSyncSendSms h
    exact ⟨[], hcalls.trans (List.append_nil _).symm, fun _ => congrFun hsms i⟩
  trans {l l' l''} h h' := by
    obtain ⟨new, hcalls, hsame⟩ := h
    obtain ⟨new', hcalls', hsame'⟩ := h'
    refine ⟨new ++ new', ?_, fun hcount => ?_⟩
    · rw [hcalls', hcalls, List.append_assoc]
    · rw [List.countP_append] at hcount
      rw [hsame' (Nat.eq_zero_of_add_eq_zero_left hcount),
        hsame (Nat.eq_zero_of_add_eq_zero_right hcount)]
  call c l := ⟨[c], rfl, fun _ => rfl⟩
  transmit j sm l := by
    refine ⟨[_], rfl, fun hcount => ?_⟩
    have hother : i ≠ j := by
      rintro rfl
      rw [List.countP_singleton, Call.sendsTo, decide_eq_true rfl] at hcount
      cases hcount
    exact PortSyncSyncSendSM.update_other hother

theorem unhanded_step {l : SyncLoop} {e : Event} {i : PortIndex}
    (h : Unhanded i l e) :
    (exists tsuTimestamp, e = .txts i tsuTimestamp ∧
        (l.step e).mdSyncSendSms i =
          (PortSyncSyncSendSM.loadMDSyncSend l i).step (.txts tsuTimestamp)) ∨
      (l.step e).mdSyncSendSms i = l.mdSyncSendSms i := by
  by_cases hrunning : l.stop = none
  · have hR := admits_unhanded i
    rw [step_running hrunning]
    have hsame : (exists new, (handle e l).calls = l.calls ++ new ∧
        (new.countP (Call.sendsTo i) = 0 ->
          (handle e l).mdSyncSendSms i = l.mdSyncSendSms i)) ->
        (handle e l).mdSyncSendSms i = l.mdSyncSendSms i := by
      rintro ⟨new, hcalls, hnew⟩
      refine hnew ?_
      rw [← step_running hrunning] at hcalls
      rw [← news_of_calls hcalls]
      exact h
    cases e with
    | sync j ts tsuTimestamp message =>
        exact Or.inr (hsame
          (MDSyncReceiveSM.relates_recvSync hR j ts tsuTimestamp message l))
    | followUp j ts message =>
        exact Or.inr (hsame
          (MDSyncReceiveSM.relates_recvFollowUp hR j ts message l))
    | timeout j ts =>
        exact Or.inr (hsame (MDSyncReceiveSM.relates_run hR j ts l))
    | clockMaster ts pss =>
        exact Or.inr (hsame (SiteSyncSyncSM.relates_recvPSSync hR ts pss l))
    | txts j tsuTimestamp =>
        by_cases hj : i = j
        · subst hj
          exact Or.inl ⟨tsuTimestamp, rfl, Function.update_self _ _ _⟩
        · exact Or.inr (PortSyncSyncSendSM.update_other hj)
    | select selectedState gmPresent => exact Or.inr rfl
    | delay j meanLinkDelay => exact Or.inr rfl
    | announce time => exact Or.inr rfl
  · rw [step_stopped hrunning]
    exact Or.inr rfl

section Arrival

variable {l l' l'' : SyncLoop} {e : Event} {ts : UScaledNs}
  {pss : PortSyncSync} {pre : List Call} {i : PortIndex}

/-- A structure from the slave port is handed to the ports that it is due to. -/
theorem handed_of_arrival (h : Arrives ts pss l l' pre (l.step e))
    (hslave : SiteSyncSyncSM.fromSlavePort l pss = true) {mdSync : MDSyncSend}
    (hmem : .mdSyncSend i mdSync ∈ news l e) :
    ¬ ClockSlaveSyncSM.SameInstant pss l ∧
      PortSyncSyncSendSM.Eligible pss l i := by
  have hcalls := calls_of_arrival h
  rw [if_pos hslave, List.append_assoc] at hcalls
  rw [news_of_calls hcalls] at hmem
  unfold response at hmem
  simp only [List.mem_append, List.mem_cons, reduceCtorEq, false_or] at hmem
  rcases hmem with hmem | hmem | hmem
  · exact absurd hmem (not_mem_leading h.leading (by simp))
  · obtain ⟨_, _, heq⟩ := divisions_calls _ hmem
    cases heq
  · by_cases hinstant : ClockSlaveSyncSM.SameInstant pss l
    · rw [if_pos hinstant] at hmem
      cases hmem
    · rw [if_neg hinstant] at hmem
      obtain ⟨j, heligible, heq⟩ := sends_calls hmem
      cases heq
      exact ⟨hinstant, heligible⟩

/-- The call of the machine of a port that the structure is due to. -/
theorem step_of_arrival (h : Arrives ts pss l l' pre (l.step e))
    (hslave : SiteSyncSyncSM.fromSlavePort l pss = true)
    (hinstant : ¬ ClockSlaveSyncSM.SameInstant pss l)
    (heligible : PortSyncSyncSendSM.Eligible pss l i) :
    exists g port, ((l.mdSyncSendSms i).withGlobals g port).AtRest ∧
      portSettings port = portSettings (l.perPortGlobal i) ∧
      (l.step e).mdSyncSendSms i =
        ((l.mdSyncSendSms i).withGlobals g port).step
          (.recvMDSync (PortSyncSyncSendSM.mdSyncFor pss l' i)) := by
  have hfrom := (@fromSlavePort_of_environment l l' pss h.environment).trans
    hslave
  have hstuck : ¬ ClockSlaveSyncSM.Stuck pss l' := fun hstuck =>
    hinstant ((ClockSlaveSyncSM.sameInstant_of_environment h.environment
      h.slave).mp (ClockSlaveSyncSM.stuck_iff.mp hstuck))
  have hsettings := settings_of_environment h.environment
  have heligible' : PortSyncSyncSendSM.Eligible pss l' i :=
    (PortSyncSyncSendSM.eligible_of_environment h.environment i).mpr heligible
  obtain ⟨m, hrest, ⟨g, port, _, hport, rfl⟩, hstep⟩ :=
    (SiteSyncSyncSM.forwarded_recvPSSync ts h.configured.operating h.running
      h.rests hfrom hstuck).below i heligible'
  have hsms : (l.step e).mdSyncSendSms i =
      (SiteSyncSyncSM.recvPSSync ts pss l').mdSyncSendSms i :=
    congrFun (congrArg Output.mdSyncSendSms h.result) i
  have hload : (PortSyncSyncSendSM.loadMDSyncSend l' i).withGlobals g port =
      (l.mdSyncSendSms i).withGlobals g port := by
    rw [← h.below]
    rfl
  rw [hload] at hrest hstep
  refine ⟨g, port, hrest, ?_, hsms.trans hstep⟩
  rw [hport]
  exact PortSyncSyncSendSM.portSettings_of_settings hsettings i

theorem mem_news_of_handed (h : ¬ Unhanded i l e) :
    exists mdSync, .mdSyncSend i mdSync ∈ news l e := by
  obtain ⟨c, hmem, hsends⟩ := List.countP_pos_iff.mp (Nat.pos_of_ne_zero h)
  cases c with
  | mdSyncSend j mdSync =>
      cases of_decide_eq_true hsends
      exact ⟨mdSync, hmem⟩
  | _ => cases hsends

theorem fromSlavePort_of_handed (h : Arrives ts pss l l' pre (l.step e))
    (hhanded : ¬ Unhanded i l e) :
    SiteSyncSyncSM.fromSlavePort l pss = true := by
  obtain ⟨mdSync, hmem⟩ := mem_news_of_handed hhanded
  by_contra hslave
  have hcalls := calls_of_arrival h
  rw [if_neg hslave, List.append_assoc] at hcalls
  rw [news_of_calls hcalls, List.mem_append, List.mem_singleton] at hmem
  rcases hmem with hmem | hmem
  · exact not_mem_leading h.leading (by simp) hmem
  · cases hmem

theorem step_of_handed (h : Arrives ts pss l l' pre (l.step e))
    (hhanded : ¬ Unhanded i l e) :
    PortSyncSyncSendSM.Eligible pss l i ∧
      exists g port, ((l.mdSyncSendSms i).withGlobals g port).AtRest ∧
        portSettings port = portSettings (l.perPortGlobal i) ∧
        (l.step e).mdSyncSendSms i =
          ((l.mdSyncSendSms i).withGlobals g port).step
            (.recvMDSync (PortSyncSyncSendSM.mdSyncFor pss l' i)) := by
  obtain ⟨mdSync, hmem⟩ := mem_news_of_handed hhanded
  have hslave := fromSlavePort_of_handed h hhanded
  obtain ⟨hinstant, heligible⟩ := handed_of_arrival h hslave hmem
  exact ⟨heligible, step_of_arrival h hslave hinstant heligible⟩

end Arrival

end SyncLoop

end TimeSync
end Ziggo
