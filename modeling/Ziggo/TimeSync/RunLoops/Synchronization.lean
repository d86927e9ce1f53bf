import Ziggo.Foundation.Termination
import Ziggo.TimeSync.SyncLoop.Receivers

/-!
# The run loops of the machines for synchronization

Each of these machines consumes what it has received, and nothing that it calls
gives it more to do.
-/

namespace Ziggo
namespace TimeSync

open Foundation TsnDrivers SyncLoop

/-!
## Statements that a process survives
-/

namespace SyncLoop

variable {l : SyncLoop}

theorem thenDo_survived {statement : SyncLoop -> SyncLoop}
    (h : (l.thenDo statement).stop = none) :
    l.stop = none ∧ l.thenDo statement = statement l := by
  by_cases hrun : l.stop = none
  · exact ⟨hrun, thenDo_running hrun statement⟩
  · rw [thenDo_stopped hrun] at h
    exact absurd h hrun

theorem withObject_survived {Object : Type} {p : Ptr Object}
    {statement : Object -> SyncLoop -> SyncLoop}
    (h : (l.withObject p statement).stop = none) :
    exists object, p.deref = .ok object ∧
      l.withObject p statement = statement object l := by
  unfold withObject at h ⊢
  cases hobject : p.deref with
  | error f =>
      rw [hobject] at h
      exact absurd h (stop_halt f l)
  | ok object => exact ⟨object, rfl, rfl⟩

theorem freeThen_survived {Object : Type} {p : Ptr Object}
    {statement : SyncLoop -> SyncLoop}
    (h : (l.freeThen p statement).stop = none) :
    l.freeThen p statement = statement l := by
  unfold freeThen at h ⊢
  cases hfree : p.free with
  | error f =>
      rw [hfree] at h
      exact absurd h (stop_halt f l)
  | ok p' => rfl

end SyncLoop

/-!
## The sender of messages
-/

namespace MDSyncSendSM

open MDSyncSendSMState

variable {sm sm' : MDSyncSendSM}

/-- An upper bound on the changes of state that are to come. -/
def rank (state : MDSyncSendSMState) (sm : MDSyncSendSM) : Nat :=
  match state with
  | init => 2
  | initializing => 0
  | sendSync => if sm.rcvdMDTimestampReceiveMDSS then 1 else 0
  | sendFollowUp => if sm.rcvdMDSyncMDSS then 1 else 0

theorem rank_lt (state : MDSyncSendSMState) (sm : MDSyncSendSM) :
    rank state sm < 15 := by
  unfold rank
  cases state <;> dsimp only <;> (try split) <;> decide

theorem rcvdMDSync_of_syncRequested (h : sm.syncRequested = true) :
    sm.rcvdMDSyncMDSS = true := by
  unfold syncRequested at h
  rw [decide_eq_true_iff] at h
  exact h.left

/-- Each change of state leaves fewer of them to come. -/
theorem rank_transition {state next : MDSyncSendSMState}
    (haction : action state sm = .ok sm')
    (hnext : transition state sm' = .ok next) (hne : next ≠ state) :
    rank next sm' < rank state sm := by
  cases state with
  | init =>
      cases hnext
      exact Nat.succ_pos 1
  | initializing =>
      cases haction
      replace hnext := Except.ok.inj hnext
      unfold initializingStateTransition at hnext
      split at hnext
      case isTrue hrequested =>
        cases rcvdMDSync_of_syncRequested hrequested
      case isFalse => exact absurd hnext.symm hne
  | sendSync =>
      obtain ⟨_, _, hrest⟩ := bind_eq_ok.mp haction
      obtain ⟨_, _, hrest⟩ := bind_eq_ok.mp hrest
      obtain ⟨_, htx, hreturn⟩ := bind_eq_ok.mp hrest
      obtain ⟨_, _, hsent⟩ := bind_eq_ok.mp htx
      cases hsent
      cases hreturn
      replace hnext := Except.ok.inj hnext
      unfold sendSyncStateTransition at hnext
      split at hnext
      case isTrue htimestamp =>
        have hreceived : sm.rcvdMDTimestampReceiveMDSS = true := htimestamp
        cases hnext
        change 0 < if sm.rcvdMDTimestampReceiveMDSS then 1 else 0
        rw [if_pos hreceived]
        exact Nat.one_pos
      case isFalse => exact absurd hnext.symm hne
  | sendFollowUp =>
      obtain ⟨_, _, hrest⟩ := bind_eq_ok.mp haction
      obtain ⟨_, _, htx⟩ := bind_eq_ok.mp hrest
      obtain ⟨_, _, hsent⟩ := bind_eq_ok.mp htx
      cases hsent
      replace hnext := Except.ok.inj hnext
      unfold sendFollowUpStateTransition at hnext
      split at hnext
      case isTrue hrequested =>
        have hreceived : sm.rcvdMDSyncMDSS = true :=
          rcvdMDSync_of_syncRequested hrequested
        cases hnext
        change 0 < if sm.rcvdMDSyncMDSS then 1 else 0
        rw [if_pos hreceived]
        exact Nat.one_pos
      case isFalse => exact absurd hnext.symm hne

def ranking : Program.Ranking behaviour.program 15 :=
  behaviour.ranking (fun _ => True) rank (fun _ _ _ _ _ => trivial)
    (fun _ _ _ _ _ => rank_transition) rank_lt

end MDSyncSendSM

theorem MDSyncSendMachine.run_ends (m : MDSyncSendMachine) :
    MDSyncSendSM.behaviour.program.EndsWithin passes m.ready :=
  MDSyncSendSM.ranking.endsWithin_of_forall fun _ => trivial

/-!
## The clock slave
-/

namespace ClockSlaveSyncSM

open ClockSlaveSyncSMState

theorem transition_clearFlags {s : ClockSlaveSyncSMState} (hs : s ≠ init)
    (l : SyncLoop) : transition s (clearFlags l) = .ok (.goto s) := by
  have hcleared : (clearFlags l).clockSlaveSyncSm.requested ≠ true := by
    intro h
    unfold requested at h
    rw [decide_eq_true_iff] at h
    rcases h with h | h <;> cases h
  cases s with
  | init => exact absurd rfl hs
  | initializing =>
      unfold transition
      exact if_neg hcleared
  | sendSyncIndication =>
      unfold transition
      exact if_neg hcleared

theorem not_leads_action {s t : ClockSlaveSyncSMState} {l : SyncLoop}
    (hs : s ≠ init) (hrun : (action s l).stop = none) :
    ¬ machine.program.Leads s (action s l) t := by
  cases s with
  | init => exact absurd rfl hs
  | initializing =>
      exact Program.not_leads_of_goto (transition_clearFlags hs l)
  | sendSyncIndication =>
      change (sendSyncIndicationAction l).stop = none at hrun
      change ¬ machine.program.Leads _ (sendSyncIndicationAction l) _
      unfold sendSyncIndicationAction at hrun ⊢
      generalize (if l.clockSlaveSyncSm.rcvdPSSyncCSS then _ else _) = l'
        at hrun ⊢
      by_cases hstop : l'.stop = none
      · rw [thenDo_running hstop]
        exact Program.not_leads_of_goto (transition_clearFlags hs l')
      · rw [thenDo_stopped hstop] at hrun
        exact absurd hrun hstop

def ranking : Program.Ranking machine.program 2 :=
  Program.settling init initializing (fun _ _ => True) (fun _ => rfl)
    (by decide) (fun _ => trivial) (fun _ _ _ hs _ => not_leads_action hs)

theorem run_ends (l : SyncLoop) : machine.EndsWithin passes l :=
  (ranking.endsWithin_of_forall fun _ => trivial).mono (by decide)

end ClockSlaveSyncSM

/-!
## The site
-/

namespace SiteSyncSyncSM

open SiteSyncSyncSMState

variable (ts : UScaledNs)

theorem rcvdPSSync_receivingSyncAction (l : SyncLoop) :
    (receivingSyncAction ts l).siteSyncSyncSm.rcvdPSSyncSSS = false := by
  let flag : SyncLoop -> Bool := fun l => l.siteSyncSyncSm.rcvdPSSyncSSS
  have hinterval : forall log, Keeps flag (setParentLogSyncInterval log) :=
    fun _ _ => rfl
  have hstatement : forall pss, Keeps flag fun l =>
      (txPSSync ts pss (setPSSyncSend pss l)).thenDo
        (setParentLogSyncInterval pss.logMessageInterval) := by
    intro pss l
    rw [(hinterval _).thenDo]
    exact congrArg (fun v => v.siteSyncSyncSm.rcvdPSSyncSSS)
      (outputView_txPSSync ts pss (setPSSyncSend pss l))
  refine (@keeps_freeThen _ flag _ _ (fun _ _ => rfl) (fun l => ?_)
    (clearFlag l) _).trans rfl
  exact @keeps_withObject _ flag _ _ (fun _ _ => rfl) hstatement l _

theorem not_leads_action {s t : SiteSyncSyncSMState} (hs : s ≠ init)
    (l : SyncLoop) : ¬ (machine ts).program.Leads s (action ts s l) t := by
  cases s with
  | init => exact absurd rfl hs
  | initializing =>
      have hrests : transition initializing (clearFlag l) =
          .ok (.goto initializing) := rfl
      exact Program.not_leads_of_goto hrests
  | receivingSync =>
      have hflag := rcvdPSSync_receivingSyncAction ts l
      change ¬ (machine ts).program.Leads _ (receivingSyncAction ts l) _
      generalize receivingSyncAction ts l = l' at hflag ⊢
      cases hpss : l'.siteSyncSyncSm.rcvdPSSyncPtrSSS.deref with
      | error f =>
          have hfails : transition receivingSync l' = .error f :=
            bind_eq_error.mpr (Or.inl hpss)
          exact Program.not_leads_of_error hfails
      | ok pss =>
          have hrests : transition receivingSync l' =
              .ok (.goto receivingSync) := by
            refine bind_eq_ok.mpr ⟨pss, hpss, if_neg fun h => ?_⟩
            rw [hflag] at h
            cases h.left
          exact Program.not_leads_of_goto hrests

def ranking : Program.Ranking (machine ts).program 2 :=
  Program.settling init initializing (fun _ _ => True) (fun _ => rfl)
    (by decide) (fun _ => trivial)
    (fun _ l _ hs _ _ => not_leads_action ts hs l)

theorem run_ends (l : SyncLoop) : (machine ts).EndsWithin passes l :=
  ((ranking ts).endsWithin_of_forall fun _ => trivial).mono (by decide)

end SiteSyncSyncSM

/-!
## The senders of the ports
-/

namespace PortSyncSyncSendSM

open PortSyncSyncSendSMState

variable {i : PortIndex} {ts : UScaledNs}

/-- Nothing has come, and the transmissions are locked to what comes. -/
structure Locked (i : PortIndex) (l : SyncLoop) : Prop where
  consumed : (l.portSyncSyncSendSms i).rcvdPSSyncPSSS = false
  locked : (l.perPortGlobal i).syncLocked = true

theorem locked_transmitMDSync {l : SyncLoop}
    (hlocked : (l.perPortGlobal i).syncLocked = true)
    (hrun : (transmitMDSync i ts l).stop = none) :
    Locked i (transmitMDSync i ts l) := by
  unfold transmitMDSync at hrun ⊢
  rw [freeThen_survived hrun]
  refine ⟨?_, hlocked⟩
  exact congrArg PortSyncSyncSendSM.rcvdPSSyncPSSS (sms_assign i _ l)

theorem Locked.chooseInterval {l : SyncLoop} (h : Locked i l) :
    Locked i (chooseInterval i l) := by
  obtain ⟨interval, number, slowDown, hchoose⟩ := chooseInterval_eq i l
  rw [hchoose]
  refine ⟨?_, ?_⟩
  · rw [sms_assignPort, sms_assign]
    exact h.consumed
  · rw [port_assignPort]
    exact h.locked

theorem locked_sendMDSyncAction {l : SyncLoop}
    (h : (l.portSyncSyncSendSms i).rcvdPSSyncPSSS = true ∨
      (l.perPortGlobal i).syncLocked = true)
    (hrun : (sendMDSyncAction i ts l).stop = none) :
    Locked i (sendMDSyncAction i ts l) := by
  unfold sendMDSyncAction at hrun ⊢
  dsimp only at hrun ⊢
  obtain ⟨hsent, hchosen⟩ := thenDo_survived hrun
  obtain ⟨htaken, htransmitted⟩ := thenDo_survived hsent
  rw [hchosen]
  rw [htransmitted] at hsent ⊢
  refine (locked_transmitMDSync ?_ hsent).chooseInterval
  by_cases hreceived : (l.portSyncSyncSendSms i).rcvdPSSyncPSSS = true
  · rw [if_pos hreceived] at htaken ⊢
    obtain ⟨pss, _, hread⟩ := withObject_survived htaken
    rw [hread]
    exact congrArg PerPortGlobal.syncLocked (port_assignPort i _ _)
  · rw [if_neg hreceived]
    exact h.resolve_left hreceived

theorem idleStateTransition_consumed {s : PortSyncSyncSendSMState}
    {l : SyncLoop} (h : (l.portSyncSyncSendSms i).rcvdPSSyncPSSS = false) :
    idleStateTransition s i l = .ok (.goto s) := by
  have hnothing : syncRequested l i = .ok false := by
    refine if_neg ?_
    rw [h]
    exact Bool.false_ne_true
  have hunready : ¬ (false = true ∧ masterReady l i = true) :=
    fun hready => Bool.false_ne_true hready.left
  unfold idleStateTransition
  exact bind_eq_ok.mpr ⟨false, hnothing, if_neg hunready⟩

def Enters (i : PortIndex) (s : PortSyncSyncSendSMState) (l : SyncLoop) :
    Prop :=
  s = sendMDSync -> (l.portSyncSyncSendSms i).rcvdPSSyncPSSS = true ∨
    (l.perPortGlobal i).syncLocked = true

theorem not_leads_action {s t : PortSyncSyncSendSMState} {l : SyncLoop}
    (hs : s ≠ init) (henters : Enters i s l)
    (hrun : (action i ts s l).stop = none) :
    ¬ (machine i ts).program.Leads s (action i ts s l) t := by
  cases s with
  | init => exact absurd rfl hs
  | transmitInit =>
      have hflag : ((transmitInitAction i l).portSyncSyncSendSms
          i).rcvdPSSyncPSSS = false :=
        congrArg PortSyncSyncSendSM.rcvdPSSyncPSSS (sms_assign i _ l)
      exact Program.not_leads_of_goto (idleStateTransition_consumed hflag)
  | syncReceiptTimeout =>
      have hflag : ((syncReceiptTimeoutAction i l).portSyncSyncSendSms
          i).rcvdPSSyncPSSS = false :=
        congrArg PortSyncSyncSendSM.rcvdPSSyncPSSS (sms_assign i _ l)
      exact Program.not_leads_of_goto (idleStateTransition_consumed hflag)
  | sendMDSync =>
      have hlocked := locked_sendMDSyncAction (henters rfl) hrun
      exact Program.not_leads_of_goto
        (transition_settled hlocked.consumed hlocked.locked)

def ranking (i : PortIndex) (ts : UScaledNs) :
    Program.Ranking (machine i ts).program 2 :=
  Program.settling init transmitInit (Enters i) (fun _ => rfl) (by decide)
    (fun _ h => by cases h) (fun _ _ _ hs => not_leads_action hs)

theorem enters_of_leads {s t : PortSyncSyncSendSMState} {l : SyncLoop}
    (hsending : s = sendMDSync -> (l.perPortGlobal i).syncLocked = true)
    (h : (machine i ts).program.Leads s l t) : Enters i t l := by
  rintro rfl
  by_cases hflag : (l.portSyncSyncSendSms i).rcvdPSSyncPSSS = true
  · exact Or.inl hflag
  · rw [Bool.not_eq_true] at hflag
    cases s with
    | init =>
        have hnext : (machine i ts).program.transition init l =
            .ok (.goto transmitInit) := rfl
        cases Program.leads_goto hnext h
    | transmitInit =>
        exact absurd h
          (Program.not_leads_of_goto (idleStateTransition_consumed hflag))
    | syncReceiptTimeout =>
        exact absurd h
          (Program.not_leads_of_goto (idleStateTransition_consumed hflag))
    | sendMDSync => exact Or.inr (hsending rfl)

/-- The transitions common to all states lead to no transmission. -/
theorem locked_of_ready {l : SyncLoop}
    (h : (l.portSyncSyncSendSms i).control.state = sendMDSync ->
      (l.perPortGlobal i).syncLocked = true)
    (hsending : (machine i ts).ready l ((machine i ts).control l).state =
      sendMDSync) : (l.perPortGlobal i).syncLocked = true := by
  have hforced : (if l.resetting ∨
      ((l.portSyncSyncSendSms i).rcvdPSSyncPSSS ∧ l.portReady i = false)
      then transmitInit else (l.portSyncSyncSendSms i).control.state) =
      sendMDSync := hsending
  split at hforced
  case isTrue => cases hforced
  case isFalse => exact h hforced

theorem run_ends (i : PortIndex) (ts : UScaledNs) {l : SyncLoop}
    (h : (l.portSyncSyncSendSms i).control.state = sendMDSync ->
      (l.perPortGlobal i).syncLocked = true) :
    (machine i ts).EndsWithin passes l := by
  refine Program.EndsWithin.mono ((ranking i ts).endsWithin ?_ ?_) (by decide)
  · exact fun _ hsending => Or.inr (locked_of_ready h hsending)
  · exact fun _ _ hleads => enters_of_leads (locked_of_ready h) hleads

end PortSyncSyncSendSM

/-!
## The receivers of the ports
-/

namespace PortSyncSyncReceiveSM

open PortSyncSyncReceiveSMState

variable {i : PortIndex} {ts : UScaledNs}

theorem rcvdMDSync_passOn (mdSync : MDSyncReceive) (l : SyncLoop) :
    (passOn i ts mdSync l).portSyncSyncReceiveSms =
      l.portSyncSyncReceiveSms :=
  congrArg SiteView.portSyncSyncReceiveSms
    (SiteSyncSyncSM.siteView_recvPSSync ts _ _)

theorem rcvdMDSync_receivedSyncAction {l : SyncLoop}
    (hrun : (receivedSyncAction i ts l).stop = none) :
    ((receivedSyncAction i ts l).portSyncSyncReceiveSms i).rcvdMDSyncPSSR =
      false := by
  unfold receivedSyncAction at hrun ⊢
  obtain ⟨mdSync, _, hread⟩ := withObject_survived hrun
  rw [hread] at hrun ⊢
  cases hinterval : PortAnnounceInformationSM.timeoutInterval
      (l.perPortGlobal i).syncReceiptTimeout mdSync.logMessageInterval with
  | error f =>
      rw [hinterval] at hrun
      exact absurd hrun (stop_halt f l)
  | ok interval =>
      dsimp only
      rw [rcvdMDSync_passOn]
      exact congrArg PortSyncSyncReceiveSM.rcvdMDSyncPSSR (sms_assign i _ l)

theorem not_leads_action {s t : PortSyncSyncReceiveSMState} {l : SyncLoop}
    (hs : s ≠ init) (hrun : (action i ts s l).stop = none) :
    ¬ (machine i ts).program.Leads s (action i ts s l) t := by
  cases s with
  | init => exact absurd rfl hs
  | discard =>
      have hflag : ((clearFlag i l).portSyncSyncReceiveSms i).rcvdMDSyncPSSR =
          false :=
        congrArg PortSyncSyncReceiveSM.rcvdMDSyncPSSR (sms_assign i _ l)
      have hrests : transition i discard (clearFlag i l) =
          .ok (.goto discard) := by
        refine congrArg Except.ok (if_neg fun h => ?_)
        rw [hflag] at h
        cases h.left
      exact Program.not_leads_of_goto hrests
  | receivedSync =>
      have hflag := rcvdMDSync_receivedSyncAction hrun
      have hrests : transition i receivedSync (receivedSyncAction i ts l) =
          .ok (.goto receivedSync) := by
        refine congrArg Except.ok (if_neg fun h => ?_)
        rw [hflag] at h
        cases h.left
      exact Program.not_leads_of_goto hrests

def ranking (i : PortIndex) (ts : UScaledNs) :
    Program.Ranking (machine i ts).program 2 :=
  Program.settling init discard (fun _ _ => True) (fun _ => rfl) (by decide)
    (fun _ => trivial) (fun _ _ _ hs _ => not_leads_action hs)

theorem run_ends (i : PortIndex) (ts : UScaledNs) (l : SyncLoop) :
    (machine i ts).EndsWithin passes l :=
  ((ranking i ts).endsWithin_of_forall fun _ => trivial).mono (by decide)

end PortSyncSyncReceiveSM

/-!
## The receivers of messages
-/

namespace MDSyncReceiveSM

variable {i : PortIndex} {ts : UScaledNs}

/-- An upper bound on the changes of state that are to come. -/
def rank (state : MDSyncReceiveSMState) : Nat :=
  match state with
  | .init => 1
  | .waitingForFollowUp => 1
  | _ => 0

theorem rcvdSync_waitingForSyncAction {l : SyncLoop}
    (hrun : (waitingForSyncAction i ts l).stop = none) :
    ((waitingForSyncAction i ts l).mdSyncReceiveSms i).rcvdSync = false := by
  unfold waitingForSyncAction at hrun ⊢
  dsimp only at hrun ⊢
  obtain ⟨sync, _, hsync⟩ := withObject_survived hrun
  rw [hsync] at hrun ⊢
  obtain ⟨followUp, _, hfollowUp⟩ := withObject_survived hrun
  rw [hfollowUp]
  have hkept := congrArg ReceiveView.mdSyncReceiveSms
    (PortSyncSyncReceiveSM.receiveView_recvMDSync i ts
      (mdSyncReceiveOf sync followUp
        (l.mdSyncReceiveSms i).syncEventIngressTimestamp
        (l.perPortGlobal i).meanLinkDelay)
      (assign i
        { l.mdSyncReceiveSms i with
          rcvdSync := false
          rcvdFollowUp := false } l))
  refine (congrArg (fun sms => (sms i).rcvdSync) hkept).trans ?_
  exact congrArg MDSyncReceiveSM.rcvdSync (sms_assign i _ l)

/-- A state that waits for a `Sync` rests until one comes. -/
theorem not_leads_idle {s t : MDSyncReceiveSMState} {l : SyncLoop}
    (hs : s = .discard ∨ s = .waitingForSync)
    (hflag : (l.mdSyncReceiveSms i).rcvdSync = false) :
    ¬ (machine i ts).program.Leads s l t := by
  have hidle : idleStateTransition s i l = .goto s := by
    refine if_neg fun husable => ?_
    unfold syncUsable at husable
    rw [hflag, decide_eq_true_iff] at husable
    cases husable.left
  rcases hs with rfl | rfl
  · exact Program.not_leads_of_goto (congrArg Except.ok hidle)
  · exact Program.not_leads_of_goto (congrArg Except.ok hidle)

theorem leads_waitingForFollowUp {t : MDSyncReceiveSMState} {l : SyncLoop}
    (hflag : (l.mdSyncReceiveSms i).rcvdSync = false)
    (h : (machine i ts).program.Leads .waitingForFollowUp l t) :
    t = .waitingForSync ∨ t = .discard := by
  have hunread : ¬ ((l.mdSyncReceiveSms i).rcvdSync = true ∧
      l.portReady i = true) := by
    rw [hflag]
    exact fun hread => by cases hread.left
  have hnext := show (machine i ts).program.transition .waitingForFollowUp l =
      ((l.mdSyncReceiveSms i).followUpMatches >>= fun matched =>
        if matched then
          pure (.goto .waitingForSync)
        else if uscalednsCompare ts
              (l.mdSyncReceiveSms i).followUpReceiptTimeoutTime ≥ 0 ∧
            (l.perPortGlobal i).asymmetryMeasurementMode = false then
          pure (.goto .discard)
        else
          pure (.goto .waitingForFollowUp)) from if_neg hunread
  cases hmatches : (l.mdSyncReceiveSms i).followUpMatches with
  | error f =>
      rw [hmatches] at hnext
      exact absurd h (Program.not_leads_of_error hnext)
  | ok matched =>
      rw [hmatches] at hnext
      cases matched with
      | true => exact Or.inl (Program.leads_goto hnext h)
      | false =>
          by_cases htimeout : uscalednsCompare ts
              (l.mdSyncReceiveSms i).followUpReceiptTimeoutTime ≥ 0 ∧
            (l.perPortGlobal i).asymmetryMeasurementMode = false
          · exact Or.inr
              (Program.leads_goto (hnext.trans (if_pos htimeout)) h)
          · exact absurd h
              (Program.not_leads_of_goto (hnext.trans (if_neg htimeout)))

/-- Each change of state leaves fewer of them to come. -/
theorem rank_leads {s t : MDSyncReceiveSMState} {l : SyncLoop}
    (hrun : (action i ts s l).stop = none)
    (h : (machine i ts).program.Leads s (action i ts s l) t) :
    rank t < rank s := by
  cases s with
  | init =>
      have hnext : (machine i ts).program.transition .init (action i ts .init l)
          = .ok (.goto .discard) := rfl
      cases Program.leads_goto hnext h
      exact Nat.one_pos
  | discard =>
      have hflag : ((discardAction i l).mdSyncReceiveSms i).rcvdSync = false :=
        congrArg MDSyncReceiveSM.rcvdSync (sms_assign i _ l)
      exact absurd h (not_leads_idle (Or.inl rfl) hflag)
  | waitingForFollowUp =>
      have hflag : ((waitingForFollowUpAction i ts l).mdSyncReceiveSms
          i).rcvdSync = false :=
        congrArg MDSyncReceiveSM.rcvdSync (sms_assign i _ l)
      rcases leads_waitingForFollowUp hflag h with rfl | rfl
      · exact Nat.one_pos
      · exact Nat.one_pos
  | waitingForSync =>
      have hflag := rcvdSync_waitingForSyncAction hrun
      exact absurd h (not_leads_idle (Or.inr rfl) hflag)

def ranking (i : PortIndex) (ts : UScaledNs) :
    Program.Ranking (machine i ts).program 2 where
  Enters _ _ := True
  rank s _ := rank s
  leads _ _ _ _ hrun h := ⟨trivial, rank_leads hrun h⟩
  bounded s _ := by
    cases s <;> decide

theorem run_ends (i : PortIndex) (ts : UScaledNs) (l : SyncLoop) :
    (machine i ts).EndsWithin passes l :=
  ((ranking i ts).endsWithin_of_forall fun _ => trivial).mono (by decide)

end MDSyncReceiveSM

end TimeSync
end Ziggo
