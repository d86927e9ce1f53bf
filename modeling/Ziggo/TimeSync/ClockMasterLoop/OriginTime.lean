import Ziggo.TimeSync.OriginTime
import Ziggo.TimeSync.ClockMasterLoop.Invariant
import Ziggo.TimeSync.SyncLoop.FollowUps

/-!
# Origin times of the clock master

A structure of the clock master goes through the site and the sender of a port
to the machine that sends `Sync` messages.  The `Follow_Up` that it sends there
announces the time at which its `Sync` has left the port.
-/

namespace Ziggo
namespace TimeSync

open Foundation TsnDrivers

namespace SyncLoop

/-- Nothing comes from a port unless the port is the slave port. -/
theorem unhanded_of_masters {l : SyncLoop} {e : Event} {i : PortIndex}
    (h : l.AtRest) (he : ¬ e.FromClockMaster)
    (hmasters : forall j : PortIndex,
      l.perPTPInstanceGlobal.selectedState j.succ = .masterPort) :
    Unhanded i l e := by
  by_contra hhanded
  cases hdelivery : delivery l e with
  | none =>
      obtain ⟨pre, hleading, hcalls⟩ :=
        leading_of_no_delivery (fun _ => h) hdelivery
      obtain ⟨mdSync, hmem⟩ := mem_news_of_handed hhanded
      rw [news_of_calls hcalls] at hmem
      exact not_mem_leading hleading (by simp) hmem
  | some delivered =>
      obtain ⟨ts, pss⟩ := delivered
      obtain ⟨l', pre, harrives⟩ := arrives_of_delivery h hdelivery
      have hslave := fromSlavePort_of_handed harrives hhanded
      obtain ⟨hstate, _⟩ := of_decide_eq_true hslave
      obtain ⟨_, rfl | ⟨p, interval, _, _, _, rfl⟩⟩ :=
        delivery_eq_some hdelivery
      · exact he trivial
      · change l.perPTPInstanceGlobal.selectedState
          (l.perPortGlobal p.port).thisPort = .slavePort at hstate
        rw [h.ready.configured.thisPort, hmasters] at hstate
        cases hstate

end SyncLoop

namespace ClockMasterLoop

open ClockMasterSyncSendSM

/-- The calls that an event leads to. -/
def news (w : ClockMasterLoop) (e : Event) : List Call :=
  (w.step e).syncLoop.calls.drop w.syncLoop.calls.length

/-- No structure is handed to the machine of port `i` at an event. -/
def Unhanded (i : PortIndex) (w : ClockMasterLoop) (e : Event) : Prop :=
  (news w e).countP (Call.sendsTo i) = 0

instance (i : PortIndex) (w : ClockMasterLoop) (e : Event) :
    Decidable (Unhanded i w e) :=
  inferInstanceAs (Decidable (_ = _))

/-- The `Follow_Up` messages that a timestamp leads to on its port. -/
def followUps (w : ClockMasterLoop) (i : PortIndex)
    (tsuTimestamp : TSUTimestamp) : List PTPMsgFollowUp :=
  SyncLoop.newFollowUps w.syncLoop
    (w.step (.sync (.txts i tsuTimestamp) id)).syncLoop i

section Steps

variable {w : ClockMasterLoop} {i : PortIndex}

theorem unhanded_of_same {e : Event} (h : (w.step e).syncLoop = w.syncLoop) :
    Unhanded i w e := by
  unfold Unhanded news
  rw [h, List.drop_length]
  rfl

theorem unhanded_of_step {e : Event} {e' : SyncLoop.Event}
    (h : (w.step e).syncLoop = w.syncLoop.step e') :
    Unhanded i w e <-> SyncLoop.Unhanded i w.syncLoop e' := by
  unfold Unhanded news
  rw [h]
  rfl

/-- The structure that a pass of the loop leaves at the machine of a port. -/
theorem received_tick (h : w.AtRest) {r : ClockReading}
    (hhanded : ¬ Unhanded i w (.tick r)) :
    exists mdSync,
      OfSource r.timestamp (w.clockMaster.currentTimestamp 0) mdSync ∧
      ((w.step (.tick r)).syncLoop.mdSyncSendSms i).vars.rcvdMDSyncPtr =
        .live mdSync := by
  obtain ⟨_, _, _, hsync⟩ := tick_eq h r
  by_cases hdue : due r.timestamp w.clockMaster = true
  · rw [if_pos hdue] at hsync
    rw [unhanded_of_step hsync] at hhanded
    have harrives := SyncLoop.arrives_clockMaster h.sync r.timestamp
      (structureOf (atSourceTime r.timestamp w))
    rw [← SyncLoop.step_running h.sync.ready.running] at harrives
    obtain ⟨_, g, port, hrest, _, hstep⟩ :=
      SyncLoop.step_of_handed harrives hhanded
    refine ⟨PortSyncSyncSendSM.mdSyncFor
      (structureOf (atSourceTime r.timestamp w)) w.syncLoop i,
      ⟨rfl, rfl, rfl⟩, ?_⟩
    rw [hsync, hstep]
    exact (MDSyncSendMachine.keeps_recvMDSync hrest _).received
  · rw [if_neg hdue] at hsync
    exact absurd (unhanded_of_same hsync) hhanded

/-- A structure stays at the machine of a port until another one comes. -/
theorem received_unhanded (h : w.Steady) {s : SyncLoop.Settings}
    (hsending : SyncLoop.Sending s w.syncLoop) {e : Event}
    (hunhanded : Unhanded i w e) {mdSync : MDSyncSend}
    (hreceived : (w.syncLoop.mdSyncSendSms i).vars.rcvdMDSyncPtr =
      .live mdSync) :
    ((w.step e).syncLoop.mdSyncSendSms i).vars.rcvdMDSyncPtr =
      .live mdSync := by
  rcases syncLoop_step h e with hsame | ⟨e', hstep⟩
  · rw [hsame]
    exact hreceived
  · rw [unhanded_of_step hstep] at hunhanded
    rw [hstep]
    rcases SyncLoop.unhanded_step hunhanded with
      ⟨tsuTimestamp, _, hsms⟩ | hsms
    · rw [hsms]
      exact (@MDSyncSendMachine.txts_frames
        (PortSyncSyncSendSM.loadMDSyncSend w.syncLoop i) mdSync
        (hsending.load i).left hreceived tsuTimestamp).left
    · rw [hsms]
      exact hreceived

theorem followUps_of_received {s : SyncLoop.Settings}
    (hsending : SyncLoop.Sending s w.syncLoop) {mdSync : MDSyncSend}
    (hreceived : (w.syncLoop.mdSyncSendSms i).vars.rcvdMDSyncPtr =
      .live mdSync) {tsuTimestamp : TSUTimestamp} {message : PTPMsgFollowUp}
    (hmessage : message ∈ w.followUps i tsuTimestamp) :
    exists sequenceId, message =
      MDSyncSendSM.followUpOf mdSync tsuTimestamp.ts sequenceId := by
  by_cases hrunning : w.syncLoop.stop = none
  · have hstep : (w.step (.sync (.txts i tsuTimestamp) id)).syncLoop =
        SyncLoop.txts i tsuTimestamp w.syncLoop := by
      rw [step_running hrunning]
      exact SyncLoop.step_running hrunning _
    have hmachine : (w.step (.sync (.txts i tsuTimestamp)
        id)).syncLoop.mdSyncSendSms i =
          (PortSyncSyncSendSM.loadMDSyncSend w.syncLoop i).step
            (.txts tsuTimestamp) := by
      rw [hstep]
      exact Function.update_self _ _ _
    obtain ⟨_, answers, hanswers, hanswered⟩ :=
      @MDSyncSendMachine.txts_frames
        (PortSyncSyncSendSM.loadMDSyncSend w.syncLoop i) mdSync
        (hsending.load i).left hreceived tsuTimestamp
    rw [← hmachine] at hanswers
    obtain ⟨frame, hframe, hkind⟩ :=
      SyncLoop.frame_of_newFollowUps hanswers hmessage
    exact hanswered frame hframe message hkind
  · unfold followUps at hmessage
    rw [step_stopped hrunning] at hmessage
    obtain ⟨frame, hframe, _⟩ := SyncLoop.frame_of_newFollowUps
      (List.append_nil _).symm hmessage
    cases hframe

end Steps

/-!
## Runs in which the local clock is the source
-/

/--
The local clock is the source of time when an event comes.  What it hands to
port `i` has been built less than `2 ^ 47` nanoseconds before or after `egress`.
-/
structure Sourced (i : PortIndex) (egress : UScaledNs) (w : ClockMasterLoop)
    (e : Event) : Prop where
  slave : w.syncLoop.perPTPInstanceGlobal.selectedState 0 = .slavePort
  masters : forall j : PortIndex,
    w.syncLoop.perPTPInstanceGlobal.selectedState j.succ = .masterPort
  near : forall r, e = .tick r -> ¬ Unhanded i w e -> Near r.timestamp egress

/-- The machine of a port has a structure that the clock master has built. -/
structure Holds (i : PortIndex) (egress : UScaledNs) (w : ClockMasterLoop) :
    Prop where
  steady : w.Steady
  shows : w.Shows
  sending : exists s, SyncLoop.Sending s w.syncLoop
  received : exists (r r' : ClockReading) (mdSync : MDSyncSend),
    Near r.timestamp egress ∧ OfSource r.timestamp r'.timestamp mdSync ∧
      (w.syncLoop.mdSyncSendSms i).vars.rcvdMDSyncPtr = .live mdSync

section Sources

variable {w : ClockMasterLoop} {i : PortIndex} {egress : UScaledNs}

theorem sending_step {s : SyncLoop.Settings} (h : w.Steady)
    (hsending : SyncLoop.Sending s w.syncLoop) (e : Event) :
    SyncLoop.Sending s (w.step e).syncLoop := by
  rcases syncLoop_step h e with hsame | ⟨e', hstep⟩
  · rw [hsame]
    exact hsending
  · rw [hstep]
    exact SyncLoop.sending_step hsending e'

theorem running_of_handed {e : Event} (h : ¬ Unhanded i w e) :
    w.syncLoop.stop = none := by
  by_contra hstop
  exact h (unhanded_of_same (by rw [step_stopped hstop]))

theorem tick_of_handed (h : w.Steady) {e : Event}
    (hsourced : Sourced i egress w e) (hhanded : ¬ Unhanded i w e) :
    exists r, e = .tick r := by
  have hrest := h (running_of_handed hhanded)
  cases e with
  | tick r => exact ⟨r, rfl⟩
  | sync e he =>
      have hstep : (w.step (.sync e he)).syncLoop = w.syncLoop.step e := by
        rw [step_running hrest.sync.ready.running]
        rfl
      refine absurd ((unhanded_of_step hstep).mpr ?_) hhanded
      exact SyncLoop.unhanded_of_masters hrest.sync he hsourced.masters

theorem holds_tick (h : w.Steady) (hshows : w.Shows) {s : SyncLoop.Settings}
    (hsending : SyncLoop.Sending s w.syncLoop) {r : ClockReading}
    (hhanded : ¬ Unhanded i w (.tick r)) (hnear : Near r.timestamp egress) :
    Holds i egress (w.step (.tick r)) := by
  obtain ⟨mdSync, hsource, hreceived⟩ :=
    received_tick (h (running_of_handed hhanded)) hhanded
  obtain ⟨r', hcurrent⟩ := hshows 0
  rw [hcurrent] at hsource
  exact ⟨steady_step h _, shows_step h hshows _,
    ⟨s, sending_step h hsending _⟩, r, r', mdSync, hnear, hsource, hreceived⟩

theorem Holds.step (h : Holds i egress w) {e : Event}
    (hsourced : Sourced i egress w e) : Holds i egress (w.step e) := by
  obtain ⟨s, hsending⟩ := h.sending
  by_cases hunhanded : Unhanded i w e
  · obtain ⟨r, r', mdSync, hnear, hsource, hreceived⟩ := h.received
    exact ⟨steady_step h.steady e, shows_step h.steady h.shows e,
      ⟨s, sending_step h.steady hsending e⟩, r, r', mdSync, hnear, hsource,
      received_unhanded h.steady hsending hunhanded hreceived⟩
  · obtain ⟨r, rfl⟩ := tick_of_handed h.steady hsourced hunhanded
    exact holds_tick h.steady h.shows hsending hunhanded
      (hsourced.near r rfl hunhanded)

/-- What a structure of the clock master leads to announces the egress time. -/
theorem Holds.announces {tsuTimestamp : TSUTimestamp}
    (h : Holds i tsuTimestamp.ts w) (hegress : tsuTimestamp.ts.subns = 0)
    {message : PTPMsgFollowUp}
    (hmessage : message ∈ w.followUps i tsuTimestamp) :
    (tsuTimestamp.ts.toNat : Int) - 2 ^ 16 < announcedTime message ∧
      announcedTime message ≤ tsuTimestamp.ts.toNat := by
  obtain ⟨s, hsending⟩ := h.sending
  obtain ⟨r, r', mdSync, hnear, hsource, hreceived⟩ := h.received
  obtain ⟨sequenceId, rfl⟩ := followUps_of_received hsending hreceived hmessage
  have hwhole : InSteps tsuTimestamp.ts := by
    unfold InSteps
    rw [hegress]
    rfl
  have hannounced := announcedTime_followUpOf hsource r.hasSeconds r.inSteps
    r'.inSteps hwhole hnear sequenceId
  have hfraction := r.timestamp.subns.toNat_lt
  omega

end Sources

/--
Once the clock master has handed a structure to a port, each `Follow_Up` of the
port announces the egress time of its `Sync` to a nanosecond.  This holds in
whatever order the times are, and whether the machine of the port waits or not.
-/
theorem egress_time_announced (config : Config) (memory : ClockMasterMemory)
    (es : List Event) {r : ClockReading} {later : List Event} {i : PortIndex}
    {tsuTimestamp : TSUTimestamp}
    (hsourced : Along step (Sourced i tsuTimestamp.ts)
      (after config memory es) (.tick r :: later))
    (hhanded : ¬ Unhanded i (after config memory es) (.tick r))
    (hegress : tsuTimestamp.ts.subns = 0) {message : PTPMsgFollowUp}
    (hmessage : message ∈
      (runEvents step (after config memory es) (.tick r :: later)).followUps i
        tsuTimestamp) :
    (tsuTimestamp.ts.toNat : Int) - 2 ^ 16 < announcedTime message ∧
      announcedTime message ≤ tsuTimestamp.ts.toNat := by
  obtain ⟨hsteady, hshows⟩ := steady_after config memory es
  obtain ⟨es', hbelow⟩ := syncLoop_after config memory es
  have hsending := SyncLoop.sending_after config memory.sync es'
  rw [← hbelow] at hsending
  obtain ⟨hfirst, hlater⟩ := along_cons.mp hsourced
  have hholds := holds_tick hsteady hshows hsending hhanded
    (hfirst.near r rfl hhanded)
  have hrun := run_invariant hholds (fun _ _ h hok => h.step hok) hlater
  exact hrun.announces hegress hmessage

/-!
In the instance the local clock is the source for all ports, and its first
structure is due half a second late.
-/

def clockConfig : Config where
  systemIdentity := default
  ptpPorts p := if p = 0 then .slavePort else .masterPort
  externalPortConfigurationEnabled := true

/-- A time between one second and two. -/
def readingOf (nanosecond fracNano : UInt32)
    (h : nanosecond.toNat < 1000000000) : ClockReading where
  clock :=
    { secondH := 0
      secondL := 1
      nanosecond := nanosecond
      fracNano := fracNano }
  nanosecond_lt := h

def sourceReading : ClockReading :=
  readingOf 500000000 0x37 (by decide)

def clockMemory : ClockMasterMemory where
  clockMasterSyncReceiveSm := default
  clockMasterSyncSendSm := default
  clockMasterGlobal := default
  sync := default
  readings _ := readingOf 500000100 0xC1 (by decide)

/-- The loop after the pass at which the structure is due. -/
def firstTick : ClockMasterLoop :=
  (after clockConfig clockMemory []).step (.tick sourceReading)

def egressTimestamp : TSUTimestamp where
  ts := { subns := 0, nsec := 1500000700, nsecMsb := 0 }
  sequenceID := 0
  msgType := PTPMsgType.sync.code

/-- The `Follow_Up` that port 1 sends. -/
def firstFollowUp : PTPMsgFollowUp :=
  (firstTick.followUps 0 egressTimestamp).headD default

theorem first_egress_time_announced :
    firstFollowUp ∈ firstTick.followUps 0 egressTimestamp ∧
      (egressTimestamp.ts.toNat : Int) - 2 ^ 16 < announcedTime firstFollowUp ∧
      announcedTime firstFollowUp ≤ egressTimestamp.ts.toNat := by
  have hmessage : firstFollowUp ∈ firstTick.followUps 0 egressTimestamp := by
    decide +kernel
  have hsourced : Along step (Sourced 0 egressTimestamp.ts)
      (after clockConfig clockMemory []) [.tick sourceReading] := by
    refine along_cons.mpr ⟨⟨by decide +kernel, by decide +kernel, ?_⟩,
      along_nil _ _⟩
    intro r hr _
    cases hr
    exact ⟨by decide +kernel, by decide +kernel⟩
  refine ⟨hmessage, ?_⟩
  exact egress_time_announced clockConfig clockMemory [] hsourced
    (by decide +kernel) rfl hmessage

end ClockMasterLoop

end TimeSync
end Ziggo
