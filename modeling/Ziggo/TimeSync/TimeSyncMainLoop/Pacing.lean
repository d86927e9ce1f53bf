import Ziggo.TimeSync.AnnounceLoop.Notification
import Ziggo.TimeSync.AnnounceLoop.Pacing
import Ziggo.TimeSync.MDPdelayReqSM.Pacing
import Ziggo.TimeSync.TimeSyncMainLoop.Polling

/-!
# The pace of the messages of the main loop

In a pass all machines are called at the time that the pass has read.  The
groups that pace their messages therefore pace them in a run of the whole
program, whatever the other groups do.
-/

namespace Ziggo
namespace TimeSync

open Foundation TsnDrivers

theorem length_sequenceIds_of_prefix {sent sent' : List Frame}
    (h : sent <+: sent') (kind : PTPMsgType) (port : Port) :
    (sequenceIds kind port sent).length ≤
      (sequenceIds kind port sent').length := by
  unfold sequenceIds
  exact ((h.filter _).map _).length_le

/-!
## Messages are not taken back
-/

namespace AnnounceLoop

theorem sent_thenDo {statement : AnnounceLoop -> AnnounceLoop}
    (h : forall l, l.process.sent <+: (statement l).process.sent)
    (l : AnnounceLoop) : l.process.sent <+: (l.thenDo statement).process.sent := by
  unfold thenDo
  split
  · exact List.prefix_refl _
  · exact h l

theorem sent_runTransmit (l : AnnounceLoop) (i : PortIndex) (ts : UScaledNs) :
    l.process.sent <+: (l.runTransmit i ts).process.sent :=
  PortAnnounceTransmitMachine.sent_run PortAnnounceTransmitMachine.passes
    (PortAnnounceTransmitMachine.ready
      { l.portAnnounceTransmitSms i with
        vars := l.loadPortAnnounceTransmit i })

theorem sent_step (l : AnnounceLoop) (e : Event) :
    l.process.sent <+: (l.step e).process.sent := by
  have hunchanged : forall {statement : AnnounceLoop -> AnnounceLoop},
      (forall l, Unchanged l (statement l)) -> forall l : AnnounceLoop,
        l.process.sent <+: (l.thenDo statement).process.sent :=
    fun hstatement => sent_thenDo fun l => by
      rw [(hstatement l).sent]
  unfold step
  cases e with
  | timeout i ts =>
      exact (hunchanged (unchanged_runInformation i ts) l).trans
        (sent_thenDo (fun l => sent_runTransmit l i ts) _)
  | announce i ts message =>
      exact (hunchanged (unchanged_recvAnnounce i ts message) l).trans
        (hunchanged unchanged_runSelection _)
  | select => exact hunchanged unchanged_runSelection l
  | syncReceipt time => exact hunchanged (unchanged_syncReceipt time) l

theorem announceCount_step (l : AnnounceLoop) (e : Event) (i : PortIndex) :
    l.announceCount i ≤ (l.step e).announceCount i :=
  length_sequenceIds_of_prefix (sent_step l e) _ _

end AnnounceLoop

namespace MDPdelayReqMachine

open MDPdelayReqSM

theorem sent_run (m : MDPdelayReqMachine) (ts : UScaledNs) :
    m.vars.process.sent <+: (m.run ts).vars.process.sent := by
  unfold run
  refine Behaviour.run_preserves (behaviour ts)
    (I := fun sm => m.vars.process.sent <+: sm.process.sent)
    ?_ ?_ ?_ ?_ passes (List.prefix_refl _)
  · intro state v v' h haction
    have hsent := sent_action haction
    have hrequests : Requests v v' -> m.vars.process.sent <+: v'.process.sent := by
      rintro ⟨req, hsent, _⟩
      rw [hsent]
      exact h.trans (List.prefix_append _ _)
    have hunsent : Unsent v v' -> m.vars.process.sent <+: v'.process.sent :=
      fun hunsent => hunsent.sent ▸ h
    cases state with
    | initialSendPdelayReq => exact hrequests hsent
    | sendPdelayReq => exact hrequests hsent.left
    | _ => exact hunsent hsent
  · exact fun _ _ _ h _ => h
  · exact fun _ _ _ h _ => h
  · exact fun _ h => h

theorem sent_runWith (m : MDPdelayReqMachine) {sm : MDPdelayReqSM}
    (h : sm.process.sent = m.vars.process.sent) (ts : UScaledNs) :
    m.vars.process.sent <+:
      (run { m with vars := sm } ts).vars.process.sent := by
  rw [← h]
  exact sent_run { m with vars := sm } ts

theorem sent_step (m : MDPdelayReqMachine) (e : Event) :
    m.vars.process.sent <+: (m.step e).vars.process.sent := by
  unfold step
  split
  · exact List.prefix_refl _
  · cases e with
    | run ts => exact sent_run m ts
    | txts ts tsuTimestamp =>
        dsimp only [txts]
        split
        · exact List.prefix_refl _
        · split
          · exact List.prefix_refl _
          · exact @sent_runWith m (m.vars.storeTimestamp tsuTimestamp) rfl ts
    | recvResp ts tsuTimestamp pdelayResp =>
        exact @sent_runWith m (m.vars.storeResp pdelayResp) rfl ts
    | recvRespFollowUp ts pdelayRespFollowUp =>
        exact @sent_runWith m (m.vars.storeRespFollowUp pdelayRespFollowUp)
          rfl ts

theorem requestCount_step (m : MDPdelayReqMachine) (e : Event) :
    m.vars.requestCount ≤ (m.step e).vars.requestCount := by
  have hport : (m.step e).vars.perPortGlobal.thisPort =
      m.vars.perPortGlobal.thisPort :=
    congrArg Settings.thisPort (settings_step m e)
  unfold requestCount
  rw [hport]
  exact length_sequenceIds_of_prefix (sent_step m e) _ _

/-- The machine of an enabled port in a run of the main loop. -/
theorem paced_initMemory (config : Config) (memory : MainLoopMemory)
    {i : PortIndex} (h : config.ptpPorts i.succ ≠ .disabledPort) :
    Paced (initMdPdelayReqSm (memory.pdelayReqMemory config i)) 0
      (List.replicate (initMdPdelayReqSm
        (memory.pdelayReqMemory config i)).vars.requestCount 0) := by
  have hzero : PortSyncSyncSendSM.zeroTime.toNat = 0 := rfl
  unfold initMdPdelayReqSm
  rw [← hzero]
  refine paced_run (r := ⟨[], 0⟩) ⟨rfl, decide_eq_true h, rfl⟩ ?_ rfl
  refine ⟨fun hq => (by cases hq), fun _ next => ?_⟩
  exact Emitted.paces_start (r := ⟨[], 0⟩) (spaced_nil _ next) 0

end MDPdelayReqMachine

namespace TimeSyncMainLoop

/-!
## The messages of a run
-/

/-- The number of the `Announce` messages that have left by a port. -/
def announceCount (i : PortIndex) (m : TimeSyncMainLoop) : Nat :=
  (sequenceIds .announce i.succ m.announceLoop.process.sent).length

/-- The number of the `Pdelay_Req` messages that have left by a port. -/
def requestCount (i : PortIndex) (m : TimeSyncMainLoop) : Nat :=
  (sequenceIds .pdelayReq i.succ
    (m.mdPdelayReqSms i).vars.process.sent).length

/-- The main loop as a program that emits messages. -/
def emitter (count : TimeSyncMainLoop -> Nat) :
    Emitter TimeSyncMainLoop Inputs where
  step := pass
  time inputs := some inputs.currentTs.toNat
  emits m inputs := count (m.pass inputs) - count m

/-- The clock does not run backwards from one pass to a later one. -/
def InOrder (passes : List Inputs) : Prop :=
  passes.Pairwise fun inputs later =>
    inputs.currentTs.toNat ≤ later.currentTs.toNat

/--
The times at which passes send the counted messages.  What the initialization
sends is not among them: it has not read the clock, and sets the timers to 0.
-/
def messageTimes (count : TimeSyncMainLoop -> Nat) (config : Config)
    (memory : MainLoopMemory) (passes : List Inputs) : List Nat :=
  (emitter count).emissions (start config memory) 0 passes

open Parts

section Counts

variable {config : Config} {c : Parts} {m : TimeSyncMainLoop}

theorem announceCount_of_composes (h : c.Composes config m) (i : PortIndex) :
    m.announceCount i = c.announceLoop.announceCount i := by
  have hprocess := h.announceLoop.process
  have hsent : m.announceLoop.process.sent = c.announceLoop.process.sent :=
    congrArg Process.sent hprocess
  unfold TimeSyncMainLoop.announceCount AnnounceLoop.announceCount
  rw [hsent]

theorem requestCount_of_composes (h : c.Composes config m) {i : PortIndex}
    (hport : (c.mdPdelayReqSms i).vars.perPortGlobal.thisPort = i.succ) :
    m.requestCount i = (c.mdPdelayReqSms i).vars.requestCount := by
  have hprocess := (h.mdPdelayReqSms i).vars.process
  have hsent : (m.mdPdelayReqSms i).vars.process.sent =
      (c.mdPdelayReqSms i).vars.process.sent :=
    congrArg Process.sent hprocess
  unfold TimeSyncMainLoop.requestCount MDPdelayReqSM.requestCount
  rw [hsent, hport]

end Counts

section Passes

variable {config : Config} {c c' : Parts} {inputs : Inputs} {now : Nat}
  {times : List Nat} {i : PortIndex}

theorem Parts.Continues.paced_announces (h : c.Continues inputs c')
    (hpaced : c.announceLoop.Paced config i now times)
    (hnow : now ≤ inputs.currentTs.toNat) :
    c'.announceLoop.Paced config i inputs.currentTs.toNat (times ++
      List.replicate (c'.announceLoop.announceCount i -
        c.announceLoop.announceCount i) inputs.currentTs.toNat) := by
  refine h.announceLoop.accumulates
    (I := fun l times => l.Paced config i inputs.currentTs.toNat times)
    (fun l e => AnnounceLoop.announceCount_step l e i) (fun l times e hl he => ?_)
    (hpaced.later hnow)
  have hclock : (AnnounceLoop.emitter i).clock inputs.currentTs.toNat e =
      inputs.currentTs.toNat := by
    cases e with
    | timeout j ts => exact congrArg UScaledNs.toNat he
    | announce j ts message => exact congrArg UScaledNs.toNat he.left
    | select => rfl
    | syncReceipt time => rfl
  have hstep := AnnounceLoop.paced_step hl e hclock.ge
  rw [hclock] at hstep
  exact hstep

/-- The initiator of a link in a pass at a later time. -/
theorem Parts.Continues.paced_requests (h : c.Continues inputs c')
    (hpaced : (c.mdPdelayReqSms i).Paced now times)
    (hnow : now ≤ inputs.currentTs.toNat) :
    (c'.mdPdelayReqSms i).Paced inputs.currentTs.toNat (times ++
      List.replicate ((c'.mdPdelayReqSms i).vars.requestCount -
        (c.mdPdelayReqSms i).vars.requestCount) inputs.currentTs.toNat) := by
  refine (h.mdPdelayReqSms i).accumulates
    (n := fun sm : MDPdelayReqMachine => sm.vars.requestCount)
    (I := fun sm times => sm.Paced inputs.currentTs.toNat times)
    (fun sm e => MDPdelayReqMachine.requestCount_step sm e)
    (fun sm times e hsm he => ?_) (hpaced.later hnow)
  have htime : e.time = inputs.currentTs.toNat := by
    cases e with
    | _ => exact congrArg UScaledNs.toNat he
  have hstep := MDPdelayReqMachine.paced_step hsm e htime.ge
  rw [htime] at hstep
  exact hstep

end Passes

section Runs

variable (config : Config) (memory : MainLoopMemory) {passes : List Inputs}
  (i : PortIndex)

/-- The loop is composed of parts, and the announcer of the port is paced. -/
def AnnouncesPaced (m : TimeSyncMainLoop) (now : Nat) (times : List Nat) : Prop :=
  exists c : Parts, c.Composes config m ∧ c.announceLoop.Paced config i now times

/-- The same for the initiator of the link. -/
def RequestsPaced (m : TimeSyncMainLoop) (now : Nat) (times : List Nat) : Prop :=
  exists c : Parts, c.Composes config m ∧
    (c.mdPdelayReqSms i).vars.perPortGlobal.thisPort = i.succ ∧
    (c.mdPdelayReqSms i).vars.mdEntityGlobal.pdelayReqInterval =
      AnnounceLoop.oneSecond ∧
    (c.mdPdelayReqSms i).Paced now times

variable {config memory i} {m : TimeSyncMainLoop} {now : Nat} {times : List Nat}
  {inputs : Inputs}

theorem AnnouncesPaced.pass (h : AnnouncesPaced config i m now times)
    (hnow : now ≤ inputs.currentTs.toNat) :
    AnnouncesPaced config i (m.pass inputs) inputs.currentTs.toNat (times ++
      List.replicate ((m.pass inputs).announceCount i - m.announceCount i)
        inputs.currentTs.toNat) := by
  obtain ⟨c, hcomposes, hpaced⟩ := h
  obtain ⟨c', hcontinues, hcomposes'⟩ := @tracks_pass config inputs c m hcomposes
  rw [announceCount_of_composes hcomposes, announceCount_of_composes hcomposes']
  exact ⟨c', hcomposes', hcontinues.paced_announces hpaced hnow⟩

theorem RequestsPaced.pass (h : RequestsPaced config i m now times)
    (hnow : now ≤ inputs.currentTs.toNat) :
    RequestsPaced config i (m.pass inputs) inputs.currentTs.toNat (times ++
      List.replicate ((m.pass inputs).requestCount i - m.requestCount i)
        inputs.currentTs.toNat) := by
  obtain ⟨c, hcomposes, hport, hinterval, hpaced⟩ := h
  obtain ⟨c', hcontinues, hcomposes'⟩ := @tracks_pass config inputs c m hcomposes
  have hsettings := (hcontinues.mdPdelayReqSms i).invariant
    (I := fun sm => sm.vars.settings = (c.mdPdelayReqSms i).vars.settings)
    (fun sm e h _ => (MDPdelayReqMachine.settings_step sm e).trans h) rfl
  have hport' := (congrArg MDPdelayReqSM.Settings.thisPort hsettings).trans hport
  have hinterval' :=
    (congrArg MDPdelayReqSM.Settings.pdelayReqInterval hsettings).trans hinterval
  rw [requestCount_of_composes hcomposes hport,
    requestCount_of_composes hcomposes' hport']
  exact ⟨c', hcomposes', hport', hinterval',
    hcontinues.paced_requests hpaced hnow⟩

theorem InOrder.emitter (h : InOrder passes) (count : TimeSyncMainLoop -> Nat) :
    (emitter count).InOrder passes := by
  have htimes : passes.filterMap (TimeSyncMainLoop.emitter count).time =
      passes.map fun inputs => inputs.currentTs.toNat :=
    congrFun List.filterMap_eq_map' passes
  unfold Emitter.InOrder
  rw [htimes]
  exact List.pairwise_map.mpr h

variable (config memory i) in
theorem announcesPaced_start :
    AnnouncesPaced config i (start config memory) 0
      (List.replicate ((start config memory).announceCount i) 0) := by
  obtain ⟨c, hfollows, hcomposes⟩ := followsRuns_start config memory
  have hstart := hfollows.announceLoop.of_nil
  have hpaced := AnnounceLoop.paced_start config memory.announceMemory i
  rw [announceCount_of_composes hcomposes]
  refine ⟨c, hcomposes, ?_⟩
  rw [hstart]
  exact hpaced

variable (memory) in
theorem requestsPaced_start (h : config.ptpPorts i.succ ≠ .disabledPort) :
    RequestsPaced config i (start config memory) 0
      (List.replicate ((start config memory).requestCount i) 0) := by
  obtain ⟨c, hfollows, hcomposes⟩ := followsRuns_start config memory
  have hstart := (hfollows.mdPdelayReqSms i).of_nil
  have hpaced := MDPdelayReqMachine.paced_initMemory config memory h
  have hsettings := MDPdelayReqMachine.settings_init
    (memory.pdelayReqMemory config i)
  have hport : (c.mdPdelayReqSms i).vars.perPortGlobal.thisPort = i.succ := by
    rw [hstart]
    exact congrArg MDPdelayReqSM.Settings.thisPort hsettings
  have hinterval : (c.mdPdelayReqSms i).vars.mdEntityGlobal.pdelayReqInterval =
      AnnounceLoop.oneSecond := by
    rw [hstart]
    exact congrArg MDPdelayReqSM.Settings.pdelayReqInterval hsettings
  rw [requestCount_of_composes hcomposes hport]
  refine ⟨c, hcomposes, hport, hinterval, ?_⟩
  rw [hstart]
  exact hpaced

/--
In a run of the program the `Announce` messages that passes send by a port, and
the `Pdelay_Req` messages by an enabled one, are at least a second apart.
-/
theorem messages_apart (config : Config) (memory : MainLoopMemory)
    {passes : List Inputs} (horder : InOrder passes) (i : PortIndex) :
    Apart AnnounceLoop.oneSecond.toNat
        (messageTimes (announceCount i) config memory passes) ∧
      (config.ptpPorts i.succ ≠ .disabledPort ->
        Apart AnnounceLoop.oneSecond.toNat
          (messageTimes (requestCount i) config memory passes)) := by
  constructor
  · obtain ⟨_, _, _, hpaced⟩ := Emitter.emissions_invariant
      (E := emitter (announceCount i)) (I := AnnouncesPaced config i)
      (fun _ _ _ _ h hnow => h.pass hnow) (announcesPaced_start config memory i)
      (horder.emitter _).from_zero
    obtain ⟨_, hspaced⟩ := hpaced.spaced
    exact hspaced.apart.right_of_append
  · intro henabled
    obtain ⟨_, _, _, _, hinterval, hpaced⟩ := Emitter.emissions_invariant
      (E := emitter (requestCount i)) (I := RequestsPaced config i)
      (fun _ _ _ _ h hnow => h.pass hnow) (requestsPaced_start memory henabled)
      (horder.emitter _).from_zero
    obtain ⟨_, hspaced⟩ := hpaced.spaced
    rw [← hinterval]
    exact hspaced.apart.right_of_append

end Runs

/-!
In the instance the local clock is the source for all ports.  A pass comes too
early for another message, and the next one does not.
-/

/-- A time one second later than that of `sourceReading`. -/
def nextReading : ClockReading where
  clock :=
    { ClockMasterLoop.sourceReading.clock with
      secondL := ClockMasterLoop.sourceReading.clock.secondL + 1 }
  nanosecond_lt := ClockMasterLoop.sourceReading.nanosecond_lt

theorem earlyNanosecond_lt : (600000000 : UInt32).toNat < 1000000000 := by
  decide

def quietPasses : List Inputs :=
  [quietPass ClockMasterLoop.sourceReading,
    quietPass (ClockMasterLoop.readingOf 600000000 0x37 earlyNanosecond_lt),
    quietPass nextReading]

theorem messages_apart_secondly :
    messageTimes (announceCount 0) ClockMasterLoop.clockConfig zeroMemory
        quietPasses =
      [ClockMasterLoop.sourceReading.timestamp.toNat,
        nextReading.timestamp.toNat] ∧
    Apart AnnounceLoop.oneSecond.toNat
      (messageTimes (announceCount 0) ClockMasterLoop.clockConfig zeroMemory
        quietPasses) ∧
    Apart AnnounceLoop.oneSecond.toNat
      (messageTimes (requestCount 0) ClockMasterLoop.clockConfig zeroMemory
        quietPasses) := by
  have horder : InOrder quietPasses := by
    unfold InOrder quietPasses
    decide +kernel
  obtain ⟨hannounces, hrequests⟩ :=
    messages_apart ClockMasterLoop.clockConfig zeroMemory horder 0
  exact ⟨by decide +kernel, hannounces, hrequests (by decide)⟩

end TimeSyncMainLoop

end TimeSync
end Ziggo
