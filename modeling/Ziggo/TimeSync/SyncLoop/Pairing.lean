import Ziggo.TimeSync.SyncLoop.Steps

/-!
# Pairs of messages

Each structure that a receiver of messages passes on is made of one `Sync` and
one `Follow_Up` that have come on its port, and of no message that has been used
before.
-/

namespace Ziggo
namespace TimeSync

open Foundation TsnDrivers

namespace MDSyncReceiveSM

open SyncLoop

/-!
## The variables after an event
-/

/-- The variables of a machine that has waited, once its run is over. -/
def concluded (ts : UScaledNs) (sm : MDSyncReceiveSM) : MDSyncReceiveSM :=
  if sm.matched then
    { sm with
      rcvdSync := false
      rcvdFollowUp := false
      control := .rest .waitingForSync }
  else if sm.timedOut ts then
    { sm with
      rcvdSync := false
      rcvdFollowUp := false
      control := .rest .discard }
  else
    { sm with control := .rest .waitingForFollowUp }

theorem sms_outcome {l : SyncLoop} {i : PortIndex} (ts : UScaledNs)
    (h : (l.mdSyncReceiveSms i).Readable) :
    (outcome i ts l).mdSyncReceiveSms =
      Function.update l.mdSyncReceiveSms i
        (concluded ts (l.mdSyncReceiveSms i)) := by
  have hdiscard : (discardAction i l).mdSyncReceiveSms i =
      { l.mdSyncReceiveSms i with
        rcvdSync := false
        rcvdFollowUp := false } := sms_assign i _ l
  have hstore : forall s, ((machine i ts).store (.rest s)
      (discardAction i l)).mdSyncReceiveSms =
        Function.update l.mdSyncReceiveSms i
          { l.mdSyncReceiveSms i with
            rcvdSync := false
            rcvdFollowUp := false
            control := .rest s } := by
    intro s
    change Function.update (discardAction i l).mdSyncReceiveSms i
      { (discardAction i l).mdSyncReceiveSms i with control := .rest s } = _
    rw [hdiscard]
    exact Function.update_idem _ _ _
  unfold outcome concluded
  by_cases hmatched : (l.mdSyncReceiveSms i).matched = true
  · obtain ⟨_, sync, followUp, hsync, hfollowUp, _⟩ := h.matched_iff.mp hmatched
    have hview := PortSyncSyncReceiveSM.receiveView_recvMDSync i ts
      (mdSyncReceiveOf sync followUp
        (l.mdSyncReceiveSms i).syncEventIngressTimestamp
        (l.perPortGlobal i).meanLinkDelay) (discardAction i l)
    have hsms : (waitingForSyncAction i ts l).mdSyncReceiveSms =
        (discardAction i l).mdSyncReceiveSms := by
      rw [waitingForSyncAction_eq hsync hfollowUp]
      exact congrArg ReceiveView.mdSyncReceiveSms hview
    rw [if_pos hmatched, if_pos hmatched, ← hstore .waitingForSync]
    change Function.update (waitingForSyncAction i ts l).mdSyncReceiveSms i
      { (waitingForSyncAction i ts l).mdSyncReceiveSms i with control := _ } = _
    rw [hsms]
    rfl
  · rw [if_neg hmatched, if_neg hmatched]
    by_cases htime : (l.mdSyncReceiveSms i).timedOut ts = true
    · rw [if_pos htime, if_pos htime, hstore]
    · rw [if_neg htime, if_neg htime]
      rfl

end MDSyncReceiveSM

namespace SyncLoop

section Steps

variable {l : SyncLoop} {e : Event}

theorem sms_handle_heard (h : l.AtRest) {i : PortIndex} {ts : UScaledNs}
    {l' : SyncLoop} (hheard : heard l e = some (i, ts, l')) :
    (handle e l).mdSyncReceiveSms =
      Function.update l'.mdSyncReceiveSms i
        (MDSyncReceiveSM.concluded ts (l'.mdSyncReceiveSms i)) := by
  obtain ⟨hwaiting, hhandle, _, _⟩ := waiting_heard h hheard
  rw [hhandle, MDSyncReceiveSM.sms_outcome ts hwaiting.readable]

theorem sms_handle_other (he : ¬ e.Receives) :
    (handle e l).mdSyncReceiveSms = l.mdSyncReceiveSms := by
  cases e with
  | sync => exact absurd trivial he
  | followUp => exact absurd trivial he
  | timeout => exact absurd trivial he
  | clockMaster ts pss =>
      exact congrArg (fun v => v.receiveView.mdSyncReceiveSms)
        (SiteSyncSyncSM.siteView_recvPSSync ts pss l)
  | txts => rfl
  | select => rfl
  | delay => rfl
  | announce => rfl

end Steps

/-!
## What the receivers pass on
-/

/-- The structure that a call brings to the receiver of a port. -/
def receivedBy : Call -> Option (PortIndex × MDSyncReceive)
  | .portSyncSyncReceive i mdSync => some (i, mdSync)
  | _ => none

/-- The structures that the receivers of messages pass on at an event. -/
def passedOn (l : SyncLoop) (e : Event) : List (PortIndex × MDSyncReceive) :=
  (news l e).filterMap receivedBy

section PassedOn

variable {l : SyncLoop} {e : Event}

theorem receivedBy_sends (pss : PortSyncSync) (l : SyncLoop)
    (ports : List PortIndex) :
    (PortSyncSyncSendSM.sends pss l ports).filterMap receivedBy = [] := by
  unfold PortSyncSyncSendSM.sends
  rw [List.filterMap_eq_nil_iff]
  intro c hc
  obtain ⟨i, _, rfl⟩ := List.mem_map.mp hc
  rfl

theorem receivedBy_divisions (pss : PortSyncSync) (l : SyncLoop) :
    (ClockSlaveSyncSM.divisions pss l).filterMap receivedBy = [] := by
  unfold ClockSlaveSyncSM.divisions
  split
  · rfl
  · rfl

theorem receivedBy_recvPSSync {ts : UScaledNs} {pss : PortSyncSync}
    (hoperating : l.resetting = false) (hrunning : l.stop = none)
    (hrest : SiteSyncSyncSM.Rests l) :
    exists tail, (SiteSyncSyncSM.recvPSSync ts pss l).calls = l.calls ++ tail ∧
      tail.filterMap receivedBy = [] := by
  cases hslave : SiteSyncSyncSM.fromSlavePort l pss with
  | false =>
      rw [SiteSyncSyncSM.recvPSSync_ignored hoperating hrunning hrest hslave]
      exact ⟨[.siteSyncSync pss], rfl, rfl⟩
  | true =>
      by_cases hstuck : ClockSlaveSyncSM.Stuck pss l
      · rw [SiteSyncSyncSM.calls_recvPSSync_stuck ts hoperating hrunning hrest
          hslave hstuck]
        exact ⟨_, rfl, receivedBy_divisions pss l⟩
      · rw [SiteSyncSyncSM.calls_recvPSSync ts hoperating hrunning hrest hslave
          hstuck]
        refine ⟨_, rfl, ?_⟩
        simp only [List.filterMap_cons, List.filterMap_append, receivedBy,
          receivedBy_divisions, receivedBy_sends, List.append_nil]

theorem passedOn_of_calls {tail : List Call}
    (h : (l.step e).calls = l.calls ++ tail) :
    passedOn l e = tail.filterMap receivedBy := by
  unfold passedOn
  rw [news_of_calls h]

theorem passedOn_eq (h : l.Steady) (e : Event) :
    passedOn l e =
      (accepted l e).toList.map fun p => (p.port, p.mdSync l) := by
  by_cases hrunning : l.stop = none
  · have hrest := h hrunning
    cases haccepted : accepted l e with
    | none =>
        have hnone : forall tail, (l.step e).calls = l.calls ++ tail ->
            tail.filterMap receivedBy = [] -> passedOn l e = [] := by
          intro tail hcalls htail
          rw [passedOn_of_calls hcalls, htail]
        rw [step_running hrunning] at hnone
        by_cases he : e.Receives
        · obtain ⟨sms, hhandle⟩ := handle_not_accepted hrest he haccepted
          rw [hhandle] at hnone
          exact hnone [] (List.append_nil _).symm rfl
        · cases e with
          | sync => exact absurd trivial he
          | followUp => exact absurd trivial he
          | timeout => exact absurd trivial he
          | clockMaster ts pss =>
              obtain ⟨tail, hcalls, htail⟩ := @receivedBy_recvPSSync l ts pss
                hrest.ready.configured.operating hrunning hrest.ready.site
              exact hnone tail hcalls htail
          | txts => exact hnone [] (List.append_nil _).symm rfl
          | select => exact hnone [] (List.append_nil _).symm rfl
          | delay => exact hnone [] (List.append_nil _).symm rfl
          | announce => exact hnone [] (List.append_nil _).symm rfl
    | some p =>
        obtain ⟨hport, sms, sms', hready, hhandle⟩ :=
          handle_accepted hrest haccepted
        have hcalls : exists tail, (l.step e).calls =
            l.calls ++ .portSyncSyncReceive p.port (p.mdSync l) :: tail ∧
              tail.filterMap receivedBy = [] := by
          rw [step_running hrunning, hhandle]
          cases hinterval : PortSyncSyncReceiveSM.intervalOf l p.port
              (p.mdSync l) with
          | error f =>
              rw [@PortSyncSyncReceiveSM.recvMDSync_error (withMessages sms l)
                p.port p.ts (p.mdSync l) hready hport f hinterval]
              exact ⟨[], rfl, rfl⟩
          | ok interval =>
              have harrives := @arrives_delivered l hrest sms sms' p.port p.ts
                (p.mdSync l) interval hready hport hinterval
              obtain ⟨tail, htail, hnone⟩ := receivedBy_recvPSSync
                harrives.configured.operating harrives.running harrives.rests
              refine ⟨tail, ?_, hnone⟩
              exact (congrArg Output.calls harrives.result).trans
                (htail.trans (List.append_assoc l.calls _ _))
        obtain ⟨tail, hcalls, htail⟩ := hcalls
        rw [passedOn_of_calls hcalls, List.filterMap_cons, htail]
        rfl
  · have haccepted : accepted l e = none := by
      unfold accepted
      rw [if_neg hrunning]
    have hcalls : (l.step e).calls = l.calls ++ [] := by
      rw [step_stopped hrunning, List.append_nil]
    rw [haccepted, passedOn_of_calls hcalls]
    rfl

end PassedOn

/-!
## Where the messages come from
-/

/--
The messages that the variables of port `i` point to are events of the history.
Those that wait for each other have come after the uses so far.
-/
structure Traced (used : Nat -> Prop) (history : List Event) (i : PortIndex)
    (sm : MDSyncReceiveSM) : Prop where
  sync : forall sync, sm.rcvdSyncPtr = .live sync ->
    exists k ts tsuTimestamp,
      history[k]? = some (.sync i ts tsuTimestamp sync) ∧
        sm.syncEventIngressTimestamp = tsuTimestamp.ts ∧
        (sm.control = .rest .waitingForFollowUp -> forall n, used n -> n < k)
  followUp : forall followUp, sm.rcvdFollowUpPtr = .live followUp ->
    exists k ts, history[k]? = some (.followUp i ts followUp) ∧
      (sm.rcvdFollowUp = true -> forall n, used n -> n < k)

section Traces

variable {used : Nat -> Prop} {history : List Event} {i : PortIndex}
  {sm : MDSyncReceiveSM}

theorem getElem?_concat {k : Nat} {e e' : Event} (h : history[k]? = some e') :
    (history ++ [e])[k]? = some e' := by
  obtain ⟨hk, _⟩ := List.getElem?_eq_some_iff.mp h
  rw [List.getElem?_append_left hk, h]

theorem getElem?_last (history : List Event) (e : Event) :
    (history ++ [e])[history.length]? = some e := by
  simp

theorem Traced.concat (h : Traced used history i sm) (e : Event) :
    Traced used (history ++ [e]) i sm where
  sync sync hsync := by
    obtain ⟨k, ts, tsuTimestamp, hk, hrest⟩ := h.sync sync hsync
    exact ⟨k, ts, tsuTimestamp, getElem?_concat hk, hrest⟩
  followUp followUp hfollowUp := by
    obtain ⟨k, ts, hk, hrest⟩ := h.followUp followUp hfollowUp
    exact ⟨k, ts, getElem?_concat hk, hrest⟩

/-- A machine that has stored a `Sync` while its port cannot use any. -/
theorem Traced.unable (h : Traced used history i sm) (ts : UScaledNs)
    (tsuTimestamp : TSUTimestamp) (sync : PTPMsgSync) :
    Traced used (history ++ [.sync i ts tsuTimestamp sync]) i
      { sm with
        rcvdSync := true
        rcvdSyncPtr := .live sync
        syncEventIngressTimestamp := tsuTimestamp.ts
        control := .rest .discard } where
  sync sync' hsync := by
    cases hsync
    exact ⟨history.length, ts, tsuTimestamp, getElem?_last _ _, rfl,
      fun hcontrol => by cases hcontrol⟩
  followUp followUp hfollowUp := by
    obtain ⟨k, ts', hk, hrest⟩ := h.followUp followUp hfollowUp
    exact ⟨k, ts', getElem?_concat hk, hrest⟩

theorem Traced.receiving (h : Traced used history i sm)
    (hused : forall n, used n -> n < history.length) (ts : UScaledNs)
    (tsuTimestamp : TSUTimestamp) (sync : PTPMsgSync)
    (interval time : UScaledNs) :
    Traced used (history ++ [.sync i ts tsuTimestamp sync]) i
      { sm with
        rcvdSync := false
        rcvdSyncPtr := .live sync
        syncEventIngressTimestamp := tsuTimestamp.ts
        upstreamSyncInterval := interval
        followUpReceiptTimeoutTime := time
        control := .rest .waitingForFollowUp } where
  sync sync' hsync := by
    cases hsync
    exact ⟨history.length, ts, tsuTimestamp, getElem?_last _ _, rfl,
      fun _ => hused⟩
  followUp followUp hfollowUp := by
    obtain ⟨k, ts', hk, hrest⟩ := h.followUp followUp hfollowUp
    exact ⟨k, ts', getElem?_concat hk, hrest⟩

theorem Traced.storeFollowUp (h : Traced used history i sm)
    (hused : forall n, used n -> n < history.length) (ts : UScaledNs)
    (followUp : PTPMsgFollowUp) :
    Traced used (history ++ [.followUp i ts followUp]) i
      { sm with
        rcvdFollowUp := true
        rcvdFollowUpPtr := .live followUp } where
  sync sync hsync := by
    obtain ⟨k, ts', tsuTimestamp, hk, hrest⟩ := h.sync sync hsync
    exact ⟨k, ts', tsuTimestamp, getElem?_concat hk, hrest⟩
  followUp followUp' hfollowUp := by
    cases hfollowUp
    exact ⟨history.length, ts, getElem?_last _ _, fun _ => hused⟩

/-- A machine that has come to rest no longer vouches for what it has used. -/
theorem Traced.concluded {used' : Nat -> Prop} (ts : UScaledNs)
    (h : Traced used history i
      { sm with control := .rest .waitingForFollowUp })
    (hused : sm.matched = false -> forall n, used' n -> used n) :
    Traced used' history i (MDSyncReceiveSM.concluded ts sm) := by
  have hsync := h.sync
  have hfollowUp := h.followUp
  unfold MDSyncReceiveSM.concluded
  by_cases hmatched : sm.matched = true
  · rw [if_pos hmatched]
    refine ⟨fun sync hlive => ?_, fun followUp hlive => ?_⟩
    · obtain ⟨k, ts', tsuTimestamp, hk, hingress, _⟩ := hsync sync hlive
      exact ⟨k, ts', tsuTimestamp, hk, hingress, fun hc => by cases hc⟩
    · obtain ⟨k, ts', hk, _⟩ := hfollowUp followUp hlive
      exact ⟨k, ts', hk, fun hflag => by cases hflag⟩
  · have hfewer := hused (by simpa using hmatched)
    rw [if_neg hmatched]
    split
    · refine ⟨fun sync hlive => ?_, fun followUp hlive => ?_⟩
      · obtain ⟨k, ts', tsuTimestamp, hk, hingress, _⟩ := hsync sync hlive
        exact ⟨k, ts', tsuTimestamp, hk, hingress, fun hc => by cases hc⟩
      · obtain ⟨k, ts', hk, _⟩ := hfollowUp followUp hlive
        exact ⟨k, ts', hk, fun hflag => by cases hflag⟩
    · refine ⟨fun sync hlive => ?_, fun followUp hlive => ?_⟩
      · obtain ⟨k, ts', tsuTimestamp, hk, hingress, hafter⟩ := hsync sync hlive
        exact ⟨k, ts', tsuTimestamp, hk, hingress,
          fun _ n hn => hafter rfl n (hfewer n hn)⟩
      · obtain ⟨k, ts', hk, hafter⟩ := hfollowUp followUp hlive
        exact ⟨k, ts', hk, fun hflag n hn => hafter hflag n (hfewer n hn)⟩

end Traces

/-!
## Runs
-/

section Runs

variable (config : Config) (memory : SyncMemory)

/-- A pair of port `i` is passed on at event number `n`. -/
def UsedAt (history : List Event) (i : PortIndex) (n : Nat) : Prop :=
  exists e p, history[n]? = some e ∧
    accepted (after config memory (history.take n)) e = some p ∧ p.port = i

variable {config memory} {history : List Event} {i : PortIndex} {n : Nat}

theorem UsedAt.lt (h : UsedAt config memory history i n) :
    n < history.length := by
  obtain ⟨e, _, he, _⟩ := h
  exact (List.getElem?_eq_some_iff.mp he).choose

theorem usedAt_concat {e : Event} :
    UsedAt config memory (history ++ [e]) i n <->
      UsedAt config memory history i n ∨
        (n = history.length ∧
          exists p, accepted (after config memory history) e = some p ∧
            p.port = i) := by
  unfold UsedAt
  constructor
  · rintro ⟨e', p, he', haccepted, hport⟩
    obtain ⟨hn, _⟩ := List.getElem?_eq_some_iff.mp he'
    rw [List.length_append, List.length_singleton] at hn
    by_cases hlt : n < history.length
    · rw [List.getElem?_append_left hlt] at he'
      rw [List.take_append_of_le_length hlt.le] at haccepted
      exact Or.inl ⟨e', p, he', haccepted, hport⟩
    · have hlast : n = history.length := by omega
      subst hlast
      rw [getElem?_last] at he'
      rw [List.take_left] at haccepted
      cases he'
      exact Or.inr ⟨rfl, p, haccepted, hport⟩
  · rintro (⟨e', p, he', haccepted, hport⟩ | ⟨rfl, p, haccepted, hport⟩)
    · obtain ⟨hlt, _⟩ := List.getElem?_eq_some_iff.mp he'
      refine ⟨e', p, getElem?_concat he', ?_, hport⟩
      rw [List.take_append_of_le_length hlt.le]
      exact haccepted
    · refine ⟨e, p, getElem?_last _ _, ?_, hport⟩
      rw [List.take_left]
      exact haccepted

theorem after_concat (config : Config) (memory : SyncMemory)
    (history : List Event) (e : Event) :
    after config memory (history ++ [e]) =
      (after config memory history).step e := by
  unfold after
  exact runEvents_concat step _ _ _

/-- An event at which port `i` passes nothing on uses nothing. -/
theorem usedAt_of_concat {e : Event}
    (hnone : forall p, accepted (after config memory history) e = some p ->
      p.port ≠ i)
    (h : UsedAt config memory (history ++ [e]) i n) :
    UsedAt config memory history i n := by
  rcases usedAt_concat.mp h with h | ⟨_, p, haccepted, hport⟩
  · exact h
  · exact absurd hport (hnone p haccepted)

theorem sms_heard_other {l l' : SyncLoop} {e : Event} {j : PortIndex}
    {ts : UScaledNs} (hheard : heard l e = some (j, ts, l')) (hi : i ≠ j) :
    l'.mdSyncReceiveSms i = l.mdSyncReceiveSms i := by
  cases e with
  | sync =>
      simp only [heard] at hheard
      split at hheard
      · cases hheard
        exact (MDSyncReceiveSM.sms_assign_other hi _ _).trans
          (MDSyncReceiveSM.sms_assign_other hi _ _)
      · cases hheard
  | followUp =>
      simp only [heard] at hheard
      split at hheard
      · cases hheard
        exact MDSyncReceiveSM.sms_assign_other hi _ _
      · cases hheard
  | timeout =>
      simp only [heard] at hheard
      split at hheard
      · cases hheard
        rfl
      · cases hheard
  | clockMaster => cases hheard
  | txts => cases hheard
  | select => cases hheard
  | delay => cases hheard
  | announce => cases hheard

/-- The variables in which a machine waits vouch for unused messages. -/
theorem traced_heard {l l' : SyncLoop} {e : Event} {j : PortIndex}
    {ts : UScaledNs} {used : Nat -> Prop}
    (hheard : heard l e = some (j, ts, l'))
    (hused : forall n, used n -> n < history.length)
    (h : Traced used history j (l.mdSyncReceiveSms j)) :
    Traced used (history ++ [e]) j
      { l'.mdSyncReceiveSms j with control := .rest .waitingForFollowUp } := by
  cases e with
  | sync i ts' tsuTimestamp message =>
      simp only [heard] at hheard
      split at hheard
      · cases hheard
        rw [MDSyncReceiveSM.sms_receiving]
        exact h.receiving hused ts tsuTimestamp message _ _
      · cases hheard
  | followUp i ts' message =>
      simp only [heard] at hheard
      split at hheard
      case isTrue hwaiting =>
        cases hheard
        rw [MDSyncReceiveSM.sms_storeFollowUp, ← hwaiting]
        exact h.storeFollowUp hused ts message
      case isFalse => cases hheard
  | timeout i ts' =>
      simp only [heard] at hheard
      split at hheard
      case isTrue hwaiting =>
        cases hheard
        rw [← hwaiting]
        exact h.concat (.timeout j ts)
      case isFalse => cases hheard
  | clockMaster => cases hheard
  | txts => cases hheard
  | select => cases hheard
  | delay => cases hheard
  | announce => cases hheard

/-- A message that no machine waits for is kept with its event. -/
theorem traced_unheard {l : SyncLoop} (h : l.AtRest) {e : Event}
    (he : e.Receives) {used : Nat -> Prop} (hheard : heard l e = none)
    (hused : forall n, used n -> n < history.length)
    (htraced : Traced used history i (l.mdSyncReceiveSms i)) :
    Traced used (history ++ [e]) i ((handle e l).mdSyncReceiveSms i) := by
  cases e with
  | sync j ts tsuTimestamp message =>
      simp only [heard] at hheard
      split at hheard
      case isTrue => cases hheard
      case isFalse hport =>
        have hcall : handle (.sync j ts tsuTimestamp message) l = _ :=
          @MDSyncReceiveSM.recvSync_unable l j ts h.ready.running
            (h.messages j) (by simpa using hport) tsuTimestamp message
        rw [hcall]
        by_cases hi : i = j
        · subst hi
          rw [MDSyncReceiveSM.sms_store, MDSyncReceiveSM.sms_storeSync]
          exact htraced.unable ts tsuTimestamp message
        · rw [MDSyncReceiveSM.sms_store_other hi]
          have hother : (MDSyncReceiveSM.storeSync j tsuTimestamp message
              l).mdSyncReceiveSms i = l.mdSyncReceiveSms i :=
            MDSyncReceiveSM.sms_assign_other hi _ l
          rw [hother]
          exact htraced.concat _
  | followUp j ts message =>
      simp only [heard] at hheard
      split at hheard
      case isTrue => cases hheard
      case isFalse hwaiting =>
        have hcall : handle (.followUp j ts message) l = _ :=
          @MDSyncReceiveSM.recvFollowUp_idle l j ts
            h.ready.configured.operating h.ready.running (h.messages j)
            hwaiting message
        rw [hcall]
        by_cases hi : i = j
        · subst hi
          rw [MDSyncReceiveSM.sms_store, MDSyncReceiveSM.sms_storeFollowUp]
          exact htraced.storeFollowUp hused ts message
        · rw [MDSyncReceiveSM.sms_store_other hi]
          have hother : (MDSyncReceiveSM.storeFollowUp j message
              l).mdSyncReceiveSms i = l.mdSyncReceiveSms i :=
            MDSyncReceiveSM.sms_assign_other hi _ l
          rw [hother]
          exact htraced.concat _
  | timeout j ts =>
      simp only [heard] at hheard
      split at hheard
      case isTrue => cases hheard
      case isFalse hwaiting =>
        have hcall : handle (.timeout j ts) l = l :=
          @MDSyncReceiveSM.run_idle l j ts h.ready.configured.operating
            h.ready.running (h.messages j) hwaiting
        rw [hcall]
        exact htraced.concat _
  | clockMaster => exact he.elim
  | txts => exact he.elim
  | select => exact he.elim
  | delay => exact he.elim
  | announce => exact he.elim

theorem Traced.fewer {used used' : Nat -> Prop} {sm : MDSyncReceiveSM}
    (h : Traced used history i sm) (hused : forall n, used' n -> used n) :
    Traced used' history i sm where
  sync sync hsync := by
    obtain ⟨k, ts, tsuTimestamp, hk, hingress, hafter⟩ := h.sync sync hsync
    exact ⟨k, ts, tsuTimestamp, hk, hingress,
      fun hc n hn => hafter hc n (hused n hn)⟩
  followUp followUp hfollowUp := by
    obtain ⟨k, ts, hk, hafter⟩ := h.followUp followUp hfollowUp
    exact ⟨k, ts, hk, fun hflag n hn => hafter hflag n (hused n hn)⟩

theorem after_nil (config : Config) (memory : SyncMemory) :
    after config memory [] = start config memory := by
  unfold after
  exact runEvents_nil step _

theorem traced_start :
    Traced (UsedAt config memory [] i) [] i
      ((after config memory []).mdSyncReceiveSms i) := by
  have hports := portRests_start config memory i
  rw [after_nil]
  refine ⟨fun sync hsync => ?_, fun followUp hfollowUp => ?_⟩
  · rw [hports.noSync] at hsync
    cases hsync
  · rw [hports.noFollowUp] at hfollowUp
    cases hfollowUp

theorem traced_concat {e : Event}
    (h : Traced (UsedAt config memory history i) history i
      ((after config memory history).mdSyncReceiveSms i)) :
    Traced (UsedAt config memory (history ++ [e]) i) (history ++ [e]) i
      ((after config memory (history ++ [e])).mdSyncReceiveSms i) := by
  have hlt : forall n, UsedAt config memory history i n ->
      n < history.length := fun _ hn => hn.lt
  rw [after_concat]
  by_cases hrunning : (after config memory history).stop = none
  · have hrest := steady_after config memory history hrunning
    rw [step_running hrunning]
    by_cases he : e.Receives
    · cases hheard : heard (after config memory history) e with
      | none =>
          refine (traced_unheard hrest he hheard hlt h).fewer fun n hn =>
            usedAt_of_concat (fun p haccepted => ?_) hn
          obtain ⟨_, l', hsome, _⟩ := accepted_eq_some haccepted
          rw [hheard] at hsome
          cases hsome
      | some waits =>
          obtain ⟨j, ts, l'⟩ := waits
          have hport : forall p,
              accepted (after config memory history) e = some p ->
                p.port = j ∧ (l'.mdSyncReceiveSms j).matched = true := by
            intro p haccepted
            obtain ⟨_, l'', hsome, hpair⟩ := accepted_eq_some haccepted
            rw [hheard] at hsome
            cases hsome
            exact ⟨rfl, (pairOf_eq_some.mp hpair).left⟩
          rw [sms_handle_heard hrest hheard]
          by_cases hi : i = j
          · subst hi
            rw [Function.update_self]
            refine (traced_heard hheard hlt h).concluded ts
              fun hmatched n hn => usedAt_of_concat (fun p haccepted => ?_) hn
            rw [(hport p haccepted).right] at hmatched
            cases hmatched
          · rw [Function.update_of_ne hi, sms_heard_other hheard hi]
            refine (h.concat e).fewer fun n hn =>
              usedAt_of_concat (fun p haccepted hp => hi ?_) hn
            exact hp.symm.trans (hport p haccepted).left
    · rw [sms_handle_other he]
      refine (h.concat e).fewer fun n hn =>
        usedAt_of_concat (fun p haccepted => ?_) hn
      exact absurd (receives_of_accepted haccepted) he
  · rw [step_stopped hrunning]
    refine (h.concat e).fewer fun n hn =>
      usedAt_of_concat (fun p haccepted => ?_) hn
    exact absurd (accepted_eq_some haccepted).left hrunning

/-- In every run the receivers point to messages that have come. -/
theorem traced_after (config : Config) (memory : SyncMemory)
    (history : List Event) (i : PortIndex) :
    Traced (UsedAt config memory history i) history i
      ((after config memory history).mdSyncReceiveSms i) := by
  induction history using List.reverseRecOn with
  | nil => exact traced_start
  | append_singleton history e ih => exact traced_concat ih

/-- A pair is made of two messages that have come since the last use. -/
theorem accepted_provenance {e : Event} {p : Pair}
    (haccepted : accepted (after config memory history) e = some p) :
    exists k m ts tsuTimestamp ts',
      (history ++ [e])[k]? = some (.sync p.port ts tsuTimestamp p.sync) ∧
        (history ++ [e])[m]? = some (.followUp p.port ts' p.followUp) ∧
        p.ingress = tsuTimestamp.ts ∧
        p.followUp.head.sequenceId = p.sync.head.sequenceId ∧
        forall n, UsedAt config memory history p.port n -> n < k ∧ n < m := by
  obtain ⟨hrunning, l', hheard, hpair⟩ := accepted_eq_some haccepted
  obtain ⟨hmatched, hsync, hfollowUp, _, _, hingress⟩ := pairOf_eq_some.mp hpair
  have hrest := steady_after config memory history hrunning
  have hreadable := (waiting_heard hrest hheard).left.readable
  obtain ⟨hflag, sync, followUp, hsync', hfollowUp', hnumber⟩ :=
    hreadable.matched_iff.mp hmatched
  have htraced := traced_heard hheard (fun _ hn => UsedAt.lt hn)
    (traced_after config memory history p.port)
  obtain ⟨k, ts, tsuTimestamp, hk, hts, hafter⟩ := htraced.sync p.sync hsync
  obtain ⟨m, ts', hm, hafter'⟩ := htraced.followUp p.followUp hfollowUp
  rw [hsync] at hsync'
  rw [hfollowUp] at hfollowUp'
  cases hsync'
  cases hfollowUp'
  exact ⟨k, m, ts, tsuTimestamp, ts', hk, hm, hingress.trans hts, hnumber,
    fun n hn => ⟨hafter rfl n hn, hafter' hflag n hn⟩⟩

/-!
## No reception is used twice
-/

/-- The receiver of messages of port `i` passes a structure on at event `n`. -/
def PassesAt (config : Config) (memory : SyncMemory) (es : List Event)
    (n : Nat) (i : PortIndex) (mdSync : MDSyncReceive) : Prop :=
  exists e, es[n]? = some e ∧
    (i, mdSync) ∈ passedOn (after config memory (es.take n)) e

/-- The structure is made of the messages of the events `k` and `m`. -/
structure MadeOf (config : Config) (memory : SyncMemory) (es : List Event)
    (n k m : Nat) (i : PortIndex) (mdSync : MDSyncReceive) : Prop where
  syncBefore : k ≤ n
  followUpBefore : m ≤ n
  messages : exists ts tsuTimestamp sync ts' followUp,
    es[k]? = some (.sync i ts tsuTimestamp sync) ∧
      es[m]? = some (.followUp i ts' followUp) ∧
      followUp.head.sequenceId = sync.head.sequenceId ∧
      mdSync = MDSyncReceiveSM.mdSyncReceiveOf sync followUp tsuTimestamp.ts
        ((after config memory (es.take n)).perPortGlobal i).meanLinkDelay

section Receptions

variable {es : List Event} {i' : PortIndex} {mdSync mdSync' : MDSyncReceive}
  {k k' m m' n' : Nat}

theorem take_concat {e : Event} (h : es[n]? = some e) :
    es.take n ++ [e] = es.take (n + 1) := by
  rw [List.take_add_one, h]
  rfl

theorem getElem?_of_take {e : Event} (h : (es.take (n + 1))[k]? = some e) :
    es[k]? = some e ∧ k ≤ n := by
  rw [List.getElem?_take] at h
  split at h
  · exact ⟨h, by omega⟩
  · cases h

theorem PassesAt.accepted (h : PassesAt config memory es n i mdSync) :
    exists e p, es[n]? = some e ∧
      SyncLoop.accepted (after config memory (es.take n)) e = some p ∧
      p.port = i ∧ mdSync = p.mdSync (after config memory (es.take n)) := by
  obtain ⟨e, he, hmem⟩ := h
  rw [passedOn_eq (steady_after config memory _)] at hmem
  obtain ⟨p, hp, hpair⟩ := List.mem_map.mp hmem
  cases hpair
  exact ⟨e, p, he, by simpa using hp, rfl, rfl⟩

theorem PassesAt.usedAt (h : PassesAt config memory es n i mdSync)
    (hlt : n < n') : UsedAt config memory (es.take n') i n := by
  obtain ⟨e, p, he, haccepted, hport, _⟩ := h.accepted
  refine ⟨e, p, ?_, ?_, hport⟩
  · rw [List.getElem?_take, if_pos hlt, he]
  · rw [List.take_take, min_eq_left hlt.le]
    exact haccepted

theorem exists_madeOf (config : Config) (memory : SyncMemory)
    (es : List Event) (n : Nat) :
    exists k m, forall i mdSync, PassesAt config memory es n i mdSync ->
      MadeOf config memory es n k m i mdSync ∧
        forall n', UsedAt config memory (es.take n) i n' -> n' < k ∧ n' < m := by
  by_cases hpass : exists i mdSync, PassesAt config memory es n i mdSync
  · obtain ⟨i, mdSync, hpass⟩ := hpass
    obtain ⟨e, p, he, haccepted, hport, hmdSync⟩ := hpass.accepted
    obtain ⟨k, m, ts, tsuTimestamp, ts', hk, hm, hingress, hnumber, hafter⟩ :=
      accepted_provenance haccepted
    rw [take_concat he] at hk hm
    refine ⟨k, m, fun i' mdSync' hpass' => ?_⟩
    obtain ⟨e', p', he', haccepted', hport', hmdSync'⟩ := hpass'.accepted
    rw [he] at he'
    cases he'
    rw [haccepted] at haccepted'
    cases haccepted'
    subst hport'
    refine ⟨⟨(getElem?_of_take hk).right, (getElem?_of_take hm).right,
      ⟨ts, tsuTimestamp, p.sync, ts', p.followUp, (getElem?_of_take hk).left,
        (getElem?_of_take hm).left, hnumber, ?_⟩⟩, hafter⟩
    rw [hmdSync', ← hingress]
    rfl
  · exact ⟨0, 0, fun i mdSync h => absurd ⟨i, mdSync, h⟩ hpass⟩

/-- Two structures of one port are made of different messages. -/
theorem receptions_differ (h : MadeOf config memory es n k m i mdSync)
    (h' : MadeOf config memory es n' k' m' i' mdSync')
    (hafter : i = i' -> n < k' ∧ n < m') : k ≠ k' ∧ m ≠ m' := by
  obtain ⟨ts, tsu, sync, ts', followUp, hk, hm, _⟩ := h.messages
  obtain ⟨us, tsu', sync', us', followUp', hk', hm', _⟩ := h'.messages
  have hbefore := h.syncBefore
  have hbefore' := h.followUpBefore
  constructor
  · rintro rfl
    rw [hk] at hk'
    cases hk'
    have hlt := (hafter rfl).left
    omega
  · rintro rfl
    rw [hm] at hm'
    cases hm'
    have hlt := (hafter rfl).right
    omega

end Receptions

/--
In every run each structure that a receiver of messages passes on combines one
`Sync` with one `Follow_Up`, and no reception is used for two structures.
-/
theorem receptions_used_once (config : Config) (memory : SyncMemory)
    (es : List Event) :
    exists syncOf followUpOf : Nat -> Nat,
      (forall n i mdSync, PassesAt config memory es n i mdSync ->
        MadeOf config memory es n (syncOf n) (followUpOf n) i mdSync) ∧
      (forall n n' i i' mdSync mdSync', n ≠ n' ->
        PassesAt config memory es n i mdSync ->
        PassesAt config memory es n' i' mdSync' ->
        syncOf n ≠ syncOf n' ∧ followUpOf n ≠ followUpOf n') ∧
      (forall n e, es[n]? = some e ->
        (passedOn (after config memory (es.take n)) e).length ≤ 1) := by
  choose syncOf followUpOf hmade using exists_madeOf config memory es
  have hdiffer : forall n n' i i' mdSync mdSync', n < n' ->
      PassesAt config memory es n i mdSync ->
      PassesAt config memory es n' i' mdSync' ->
      syncOf n ≠ syncOf n' ∧ followUpOf n ≠ followUpOf n' := by
    intro n n' i i' mdSync mdSync' hlt hpass hpass'
    obtain ⟨hof, hafter⟩ := hmade n' i' mdSync' hpass'
    refine receptions_differ (hmade n i mdSync hpass).left hof fun hsame => ?_
    subst hsame
    exact hafter n (hpass.usedAt hlt)
  refine ⟨syncOf, followUpOf, fun n i mdSync hpass =>
    (hmade n i mdSync hpass).left, ?_, fun n e he => ?_⟩
  · intro n n' i i' mdSync mdSync' hne hpass hpass'
    rcases Nat.lt_or_gt_of_ne hne with hlt | hgt
    · exact hdiffer n n' i i' mdSync mdSync' hlt hpass hpass'
    · obtain ⟨hsync, hfollowUp⟩ :=
        hdiffer n' n i' i mdSync' mdSync hgt hpass' hpass
      exact ⟨hsync.symm, hfollowUp.symm⟩
  · rw [passedOn_eq (steady_after config memory _), List.length_map]
    cases accepted (after config memory (es.take n)) e with
    | none => exact Nat.zero_le 1
    | some p => exact Nat.le_refl 1

end Runs

end SyncLoop

end TimeSync
end Ziggo
