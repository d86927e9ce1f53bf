import Ziggo.TimeSync.SyncLoop.Initialization

/-!
# What one event leads to

A step of the loop either leaves everything but the variables of the receivers
of messages alone, or it hands one structure to the receiver of a port or to the
site.  Here the structures are read off the state before the step.
-/

namespace Ziggo
namespace TimeSync

open Foundation TsnDrivers

namespace SyncLoop

def withMessages (sms : PortIndex -> MDSyncReceiveSM) (l : SyncLoop) :
    SyncLoop :=
  { l with mdSyncReceiveSms := sms }

/-!
## Pairs of messages
-/

/-- A `Sync` and a `Follow_Up` that the receiver of a port passes on. -/
structure Pair where
  port : PortIndex
  ts : UScaledNs
  sync : PTPMsgSync
  followUp : PTPMsgFollowUp
  ingress : UScaledNs

/-- What the receiver of messages makes of a pair. -/
def Pair.mdSync (p : Pair) (l : SyncLoop) : MDSyncReceive :=
  MDSyncReceiveSM.mdSyncReceiveOf p.sync p.followUp p.ingress
    (l.perPortGlobal p.port).meanLinkDelay

/-- The variables in which a receiver waits for a `Follow_Up` at an event. -/
def heard (l : SyncLoop) (e : Event) :
    Option (PortIndex × UScaledNs × SyncLoop) :=
  match e with
  | .sync i ts tsuTimestamp message =>
      if l.portReady i then
        some (i, ts, MDSyncReceiveSM.receiving i ts tsuTimestamp message l)
      else
        none
  | .followUp i ts message =>
      if (l.mdSyncReceiveSms i).control = .rest .waitingForFollowUp then
        some (i, ts, MDSyncReceiveSM.storeFollowUp i message l)
      else
        none
  | .timeout i ts =>
      if (l.mdSyncReceiveSms i).control = .rest .waitingForFollowUp then
        some (i, ts, l)
      else
        none
  | _ => none

/-- The pair that the variables of a receiver hold. -/
def pairOf (i : PortIndex) (ts : UScaledNs) (sm : MDSyncReceiveSM) :
    Option Pair :=
  match sm.rcvdSyncPtr, sm.rcvdFollowUpPtr with
  | .live sync, .live followUp =>
      if sm.matched then
        some
          { port := i
            ts := ts
            sync := sync
            followUp := followUp
            ingress := sm.syncEventIngressTimestamp }
      else
        none
  | _, _ => none

/-- The pair that is passed on at an event. -/
def accepted (l : SyncLoop) (e : Event) : Option Pair :=
  if l.stop = none then
    match heard l e with
    | some (i, ts, l') => pairOf i ts (l'.mdSyncReceiveSms i)
    | none => none
  else
    none

/-- The structure that comes to the site at an event. -/
def delivery (l : SyncLoop) (e : Event) : Option (UScaledNs × PortSyncSync) :=
  match e with
  | .clockMaster ts pss => if l.stop = none then some (ts, pss) else none
  | _ =>
      match accepted l e with
      | none => none
      | some p =>
          match PortSyncSyncReceiveSM.intervalOf l p.port (p.mdSync l) with
          | .error _ => none
          | .ok interval =>
              some (p.ts, PortSyncSyncReceiveSM.psSyncFor l p.port p.ts
                (p.mdSync l) interval)

/-- The calls that are made at an event. -/
def news (l : SyncLoop) (e : Event) : List Call :=
  (l.step e).calls.drop l.calls.length

section Steps

variable {l : SyncLoop} {e : Event}

theorem news_of_calls {new : List Call} (h : (l.step e).calls = l.calls ++ new) :
    news l e = new := by
  unfold news
  rw [h, List.drop_left]

theorem waiting_heard (h : l.AtRest) {i : PortIndex} {ts : UScaledNs}
    {l' : SyncLoop} (hheard : heard l e = some (i, ts, l')) :
    MDSyncReceiveSM.Waiting l' i ∧ handle e l = MDSyncReceiveSM.outcome i ts l' ∧
      (exists sms, l' = withMessages sms l) ∧ l.portReady i = true := by
  cases e with
  | sync j ts' tsuTimestamp message =>
      simp only [heard] at hheard
      split at hheard
      case isTrue hport =>
        cases hheard
        exact ⟨MDSyncReceiveSM.waiting_receiving h hport tsuTimestamp message,
          MDSyncReceiveSM.recvSync_eq h.ready.configured.operating
            h.ready.running (h.messages i) hport (h.ready.configured.mode i)
            tsuTimestamp message, ⟨_, rfl⟩, hport⟩
      case isFalse => cases hheard
  | followUp j ts' message =>
      simp only [heard] at hheard
      split at hheard
      case isTrue hwaiting =>
        cases hheard
        exact ⟨MDSyncReceiveSM.waiting_storeFollowUp
            (MDSyncReceiveSM.waiting_of_atRest h hwaiting) message,
          MDSyncReceiveSM.recvFollowUp_eq h.ready.configured.operating
            h.ready.running (h.messages i) (h.ready.configured.mode i) hwaiting
            message, ⟨_, rfl⟩, (h.messages i).portReady_of_waiting hwaiting⟩
      case isFalse => cases hheard
  | timeout j ts' =>
      simp only [heard] at hheard
      split at hheard
      case isTrue hwaiting =>
        cases hheard
        exact ⟨MDSyncReceiveSM.waiting_of_atRest h hwaiting,
          MDSyncReceiveSM.run_eq h.ready.configured.operating h.ready.running
            (h.messages i) (h.ready.configured.mode i) hwaiting,
          ⟨l.mdSyncReceiveSms, rfl⟩,
          (h.messages i).portReady_of_waiting hwaiting⟩
      case isFalse => cases hheard
  | clockMaster => cases hheard
  | txts => cases hheard
  | select => cases hheard
  | delay => cases hheard
  | announce => cases hheard

def Event.Receives : Event -> Prop
  | .sync _ _ _ _ => True
  | .followUp _ _ _ => True
  | .timeout _ _ => True
  | _ => False

theorem handle_unheard (h : l.AtRest) (he : e.Receives)
    (hheard : heard l e = none) :
    exists sms, handle e l = withMessages sms l := by
  cases e with
  | sync i ts tsuTimestamp message =>
      simp only [heard] at hheard
      split at hheard
      case isTrue => cases hheard
      case isFalse hport =>
        have hcall := @MDSyncReceiveSM.recvSync_unable l i ts h.ready.running
          (h.messages i) (by simpa using hport) tsuTimestamp message
        exact ⟨_, hcall⟩
  | followUp i ts message =>
      simp only [heard] at hheard
      split at hheard
      case isTrue => cases hheard
      case isFalse hwaiting =>
        have hcall := @MDSyncReceiveSM.recvFollowUp_idle l i ts
          h.ready.configured.operating h.ready.running (h.messages i) hwaiting
          message
        exact ⟨_, hcall⟩
  | timeout i ts =>
      simp only [heard] at hheard
      split at hheard
      case isTrue => cases hheard
      case isFalse hwaiting =>
        have hcall := @MDSyncReceiveSM.run_idle l i ts
          h.ready.configured.operating h.ready.running (h.messages i) hwaiting
        exact ⟨_, hcall⟩
  | clockMaster => exact he.elim
  | txts => exact he.elim
  | select => exact he.elim
  | delay => exact he.elim
  | announce => exact he.elim

theorem pairOf_eq_none {i : PortIndex} {ts : UScaledNs} {sm : MDSyncReceiveSM}
    (hreadable : sm.Readable) :
    pairOf i ts sm = none <-> sm.matched = false := by
  obtain ⟨sync, hsync⟩ := hreadable.sync
  constructor
  · intro h
    by_contra hmatched
    have hmatched' : sm.matched = true := by simpa using hmatched
    obtain ⟨_, _, followUp, _, hfollowUp, _⟩ :=
      hreadable.matched_iff.mp hmatched'
    unfold pairOf at h
    rw [hsync, hfollowUp] at h
    simp only [hmatched', if_true] at h
    cases h
  · intro hmatched
    unfold pairOf
    cases sm.rcvdSyncPtr <;> cases sm.rcvdFollowUpPtr <;> simp [hmatched]

theorem pairOf_eq_some {i : PortIndex} {ts : UScaledNs} {sm : MDSyncReceiveSM}
    {p : Pair} :
    pairOf i ts sm = some p <->
      sm.matched = true ∧ sm.rcvdSyncPtr = .live p.sync ∧
        sm.rcvdFollowUpPtr = .live p.followUp ∧ p.port = i ∧ p.ts = ts ∧
        p.ingress = sm.syncEventIngressTimestamp := by
  unfold pairOf
  constructor
  · intro h
    split at h
    case h_1 sync followUp hsync hfollowUp =>
      split at h
      case isTrue hmatched =>
        cases h
        exact ⟨hmatched, hsync, hfollowUp, rfl, rfl, rfl⟩
      case isFalse => cases h
    case h_2 => cases h
  · rintro ⟨hmatched, hsync, hfollowUp, hport, hts, hingress⟩
    rw [hsync, hfollowUp]
    simp only [hmatched, if_true]
    cases p
    simp_all

theorem accepted_eq_some {p : Pair} (h : accepted l e = some p) :
    l.stop = none ∧ exists l', heard l e = some (p.port, p.ts, l') ∧
      pairOf p.port p.ts (l'.mdSyncReceiveSms p.port) = some p := by
  unfold accepted at h
  split at h
  case isFalse => cases h
  case isTrue hrunning =>
    split at h
    case h_2 => cases h
    case h_1 i ts l' hheard =>
      obtain ⟨_, _, _, hport, hts, _⟩ := pairOf_eq_some.mp h
      subst hport
      subst hts
      exact ⟨hrunning, l', hheard, h⟩

/-- A pair that is passed on comes to the receiver of its port. -/
theorem handle_accepted (h : l.AtRest) {p : Pair}
    (haccepted : accepted l e = some p) :
    l.portReady p.port = true ∧
      exists sms sms', (withMessages sms l).Ready ∧
        handle e l =
          withMessages sms' (PortSyncSyncReceiveSM.recvMDSync p.port p.ts
            (p.mdSync l) (withMessages sms l)) := by
  obtain ⟨_, l', hheard, hpair⟩ := accepted_eq_some haccepted
  obtain ⟨hwaiting, hhandle, ⟨sms, hl'⟩, hport⟩ := waiting_heard h hheard
  obtain ⟨hmatched, hsync, hfollowUp, _, _, hingress⟩ := pairOf_eq_some.mp hpair
  refine ⟨hport, ?_⟩
  have hdiscard := hwaiting.discardAction
  refine ⟨(MDSyncReceiveSM.discardAction p.port l').mdSyncReceiveSms, ?_⟩
  have hsame : withMessages
      (MDSyncReceiveSM.discardAction p.port l').mdSyncReceiveSms l =
        MDSyncReceiveSM.discardAction p.port l' := by
    rw [hl']
    rfl
  rw [hsame, hhandle]
  unfold MDSyncReceiveSM.outcome
  rw [if_pos hmatched,
    MDSyncReceiveSM.waitingForSyncAction_eq hsync hfollowUp, ← hingress]
  have hdelay : (l'.perPortGlobal p.port).meanLinkDelay =
      (l.perPortGlobal p.port).meanLinkDelay := by
    rw [hl']
    rfl
  rw [hdelay]
  exact ⟨_, hdiscard.ready, rfl⟩

/-- Without a pair the receivers of messages write to themselves alone. -/
theorem handle_not_accepted (h : l.AtRest) (he : e.Receives)
    (haccepted : accepted l e = none) :
    exists sms, handle e l = withMessages sms l := by
  cases hheard : heard l e with
  | none => exact handle_unheard h he hheard
  | some heardAt =>
      obtain ⟨i, ts, l'⟩ := heardAt
      obtain ⟨hwaiting, hhandle, ⟨sms, hl'⟩, _⟩ := waiting_heard h hheard
      have hpair : pairOf i ts (l'.mdSyncReceiveSms i) = none := by
        unfold accepted at haccepted
        rw [if_pos h.ready.running, hheard] at haccepted
        exact haccepted
      have hmatched := (pairOf_eq_none hwaiting.readable).mp hpair
      rw [hhandle]
      unfold MDSyncReceiveSM.outcome
      rw [if_neg (by rw [hmatched]; decide), hl']
      split
      · exact ⟨_, rfl⟩
      · exact ⟨_, rfl⟩

end Steps

/-!
## Structures that come to the site
-/

/-- What the site and the machines below it write to. -/
structure Output where
  perPTPInstanceGlobal : PerPTPInstanceGlobal
  clockSlaveSyncSm : ClockSlaveSyncSM
  rtc : Rtc
  mdSyncSendSms : PortIndex -> MDSyncSendMachine
  calls : List Call
  stop : Option Fault

def output (l : SyncLoop) : Output where
  perPTPInstanceGlobal := l.perPTPInstanceGlobal
  clockSlaveSyncSm := l.clockSlaveSyncSm
  rtc := l.rtc
  mdSyncSendSms := l.mdSyncSendSms
  calls := l.calls
  stop := l.stop

/-- The calls that lead to the call of the site. -/
def Leading (pre : List Call) : Prop :=
  pre = [] ∨ exists i mdSync, pre = [.portSyncSyncReceive i mdSync]

/-- The site is called with a structure in a state like the one before the event. -/
structure Arrives (ts : UScaledNs) (pss : PortSyncSync) (l l' : SyncLoop)
    (pre : List Call) (l'' : SyncLoop) : Prop where
  environment : l'.environment = l.environment
  running : l'.stop = none
  configured : l'.Configured
  rests : SiteSyncSyncSM.Rests l'
  slave : l'.clockSlaveSyncSm = l.clockSlaveSyncSm
  rtc : l'.rtc = l.rtc
  below : l'.mdSyncSendSms = l.mdSyncSendSms
  instanceGlobal : exists time, l'.perPTPInstanceGlobal =
    PortSyncSyncSendSM.withSyncReceiptTimeoutTime time l.perPTPInstanceGlobal
  leading : Leading pre
  calls : l'.calls = l.calls ++ pre
  result : output l'' = output (SiteSyncSyncSM.recvPSSync ts pss l')

section Arrival

variable {l : SyncLoop} {e : Event}

theorem arrives_clockMaster (h : l.AtRest) (ts : UScaledNs)
    (pss : PortSyncSync) :
    Arrives ts pss l l [] (handle (.clockMaster ts pss) l) where
  environment := rfl
  running := h.ready.running
  configured := h.ready.configured
  rests := h.ready.site
  slave := rfl
  rtc := rfl
  below := rfl
  instanceGlobal := ⟨l.perPTPInstanceGlobal.syncReceiptTimeoutTime, rfl⟩
  leading := Or.inl rfl
  calls := (List.append_nil _).symm
  result := rfl

/-- The receiver of a port adds the port and the time to a structure. -/
theorem arrives_delivered (h : l.AtRest) {sms sms' : PortIndex -> MDSyncReceiveSM}
    {i : PortIndex} {ts : UScaledNs} {mdSync : MDSyncReceive}
    {interval : UScaledNs} (hready : (withMessages sms l).Ready)
    (hport : l.portReady i = true)
    (hinterval : PortSyncSyncReceiveSM.intervalOf l i mdSync = .ok interval) :
    Arrives ts (PortSyncSyncReceiveSM.psSyncFor l i ts mdSync interval) l
      (PortSyncSyncReceiveSM.delivering i ts mdSync interval
        (withMessages sms l))
      [.portSyncSyncReceive i mdSync]
      (withMessages sms' (PortSyncSyncReceiveSM.recvMDSync i ts mdSync
        (withMessages sms l))) := by
  have henvironment : (PortSyncSyncReceiveSM.delivering i ts mdSync interval
      (withMessages sms l)).environment = l.environment :=
    PortSyncSyncReceiveSM.environment_delivering
  have hcall := @PortSyncSyncReceiveSM.recvMDSync_ok (withMessages sms l) i ts
    mdSync interval hready hport hinterval
  refine ⟨henvironment, h.ready.running,
    h.ready.configured.of_settings (settings_of_environment henvironment),
    PortSyncSyncReceiveSM.rests_delivering hready.site, rfl, rfl, rfl,
    ⟨_, rfl⟩, Or.inr ⟨i, mdSync, rfl⟩, rfl, ?_⟩
  rw [hcall]
  rfl

theorem delivery_receives (he : e.Receives) :
    delivery l e =
      match accepted l e with
      | none => none
      | some p =>
          match PortSyncSyncReceiveSM.intervalOf l p.port (p.mdSync l) with
          | .error _ => none
          | .ok interval =>
              some (p.ts, PortSyncSyncReceiveSM.psSyncFor l p.port p.ts
                (p.mdSync l) interval) := by
  cases e with
  | sync => rfl
  | followUp => rfl
  | timeout => rfl
  | clockMaster => exact he.elim
  | txts => exact he.elim
  | select => exact he.elim
  | delay => exact he.elim
  | announce => exact he.elim

theorem receives_of_accepted {p : Pair} (h : accepted l e = some p) :
    e.Receives := by
  obtain ⟨_, l', hheard, _⟩ := accepted_eq_some h
  cases e with
  | sync => trivial
  | followUp => trivial
  | timeout => trivial
  | clockMaster => cases hheard
  | txts => cases hheard
  | select => cases hheard
  | delay => cases hheard
  | announce => cases hheard

/-- What comes to the site is what the receivers or the clock master pass on. -/
theorem delivery_eq_some {ts : UScaledNs} {pss : PortSyncSync}
    (h : delivery l e = some (ts, pss)) :
    l.stop = none ∧
      (e = .clockMaster ts pss ∨
        exists p interval, accepted l e = some p ∧ p.ts = ts ∧
          PortSyncSyncReceiveSM.intervalOf l p.port (p.mdSync l) =
            .ok interval ∧
          pss = PortSyncSyncReceiveSM.psSyncFor l p.port p.ts (p.mdSync l)
            interval) := by
  by_cases hmaster : exists ts' pss', e = .clockMaster ts' pss'
  · obtain ⟨ts', pss', rfl⟩ := hmaster
    simp only [delivery] at h
    split at h
    case isTrue hrunning =>
      cases h
      exact ⟨hrunning, Or.inl rfl⟩
    case isFalse => cases h
  · cases haccepted : accepted l e with
    | none =>
        unfold delivery at h
        rw [haccepted] at h
        split at h
        case h_1 ts' pss' => exact absurd ⟨ts', pss', rfl⟩ hmaster
        case h_2 => cases h
    | some p =>
        rw [delivery_receives (receives_of_accepted haccepted), haccepted] at h
        dsimp only at h
        split at h
        case h_1 => cases h
        case h_2 interval hinterval =>
          cases h
          exact ⟨(accepted_eq_some haccepted).left,
            Or.inr ⟨p, interval, rfl, rfl, hinterval, rfl⟩⟩

theorem arrives_of_delivery (h : l.AtRest) {ts : UScaledNs}
    {pss : PortSyncSync} (hdelivery : delivery l e = some (ts, pss)) :
    exists l' pre, Arrives ts pss l l' pre (l.step e) := by
  rw [step_running h.ready.running]
  obtain ⟨_, rfl | ⟨p, interval, haccepted, rfl, hinterval, rfl⟩⟩ :=
    delivery_eq_some hdelivery
  · exact ⟨l, [], arrives_clockMaster h ts pss⟩
  · obtain ⟨hport, sms, sms', hready, hhandle⟩ := handle_accepted h haccepted
    rw [hhandle]
    exact ⟨_, _, arrives_delivered h hready hport hinterval⟩

/-- Unless a structure comes to the site, nothing is called below. -/
theorem leading_of_no_delivery (h : l.Steady) (hdelivery : delivery l e = none) :
    exists pre, Leading pre ∧ (l.step e).calls = l.calls ++ pre := by
  by_cases hrunning : l.stop = none
  · have hrest := h hrunning
    rw [step_running hrunning]
    by_cases he : e.Receives
    · cases haccepted : accepted l e with
      | none =>
          obtain ⟨sms, hhandle⟩ := handle_not_accepted hrest he haccepted
          rw [hhandle]
          exact ⟨[], Or.inl rfl, (List.append_nil _).symm⟩
      | some p =>
          obtain ⟨hport, sms, sms', hready, hhandle⟩ :=
            handle_accepted hrest haccepted
          rw [delivery_receives he, haccepted] at hdelivery
          dsimp only at hdelivery
          split at hdelivery
          case h_2 => cases hdelivery
          case h_1 f hinterval =>
            have hcall := @PortSyncSyncReceiveSM.recvMDSync_error
              (withMessages sms l) p.port p.ts (p.mdSync l) hready hport f
              hinterval
            rw [hhandle, hcall]
            exact ⟨_, Or.inr ⟨p.port, p.mdSync l, rfl⟩, rfl⟩
    · refine ⟨[], Or.inl rfl, ?_⟩
      rw [List.append_nil]
      cases e with
      | sync => exact absurd trivial he
      | followUp => exact absurd trivial he
      | timeout => exact absurd trivial he
      | clockMaster ts pss =>
          simp only [delivery, hrunning, if_true] at hdelivery
          cases hdelivery
      | txts => rfl
      | select => rfl
      | delay => rfl
      | announce => rfl
  · rw [step_stopped hrunning]
    exact ⟨[], Or.inl rfl, (List.append_nil _).symm⟩

end Arrival

end SyncLoop

end TimeSync
end Ziggo
