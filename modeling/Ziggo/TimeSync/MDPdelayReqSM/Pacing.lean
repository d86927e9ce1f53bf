import Ziggo.Foundation.Pacing
import Ziggo.TimeSync.ElapsedTimes
import Ziggo.TimeSync.MDPdelayReqSM.Transmission

/-!
# The pace of Pdelay_Req messages

The initiator sends a request when its port is enabled, and later ones out of
two states that test the interval timer.  Received messages bring it to these
states early, but the timer always holds the time of the last request.
-/

namespace Ziggo
namespace TimeSync

open Foundation TsnDrivers

namespace MDPdelayReqSM

open MDPdelayReqSMState

/-- The number of the requests that have left by the port of the machine. -/
def requestCount (sm : MDPdelayReqSM) : Nat :=
  (sequenceIds .pdelayReq sm.perPortGlobal.thisPort sm.process.sent).length

/-- What the pace of the requests depends on. -/
structure PacingData where
  settings : Settings
  sent : List Frame
  pdelayIntervalTimer : UScaledNs

def pacingData (sm : MDPdelayReqSM) : PacingData where
  settings := sm.settings
  sent := sm.process.sent
  pdelayIntervalTimer := sm.pdelayIntervalTimer

section Actions

variable {sm sm' : MDPdelayReqSM} {ts : UScaledNs} {r : Emitted}

theorem requestCount_of_pacingData (h : sm'.pacingData = sm.pacingData) :
    sm'.requestCount = sm.requestCount := by
  have hport : sm'.perPortGlobal.thisPort = sm.perPortGlobal.thisPort :=
    congrArg (fun data => data.settings.thisPort) h
  have hsent : sm'.process.sent = sm.process.sent :=
    congrArg PacingData.sent h
  unfold requestCount
  rw [hport, hsent]

theorem requestCount_requests (hport : sm'.settings = sm.settings)
    (h : Requests sm sm') : sm'.requestCount = sm.requestCount + 1 := by
  obtain ⟨req, hsent, _⟩ := h.request
  have hthisPort : sm'.perPortGlobal.thisPort = sm.perPortGlobal.thisPort :=
    congrArg Settings.thisPort hport
  have hids := @sequenceIds_send .pdelayReq sm.perPortGlobal.thisPort
    sm.process.sent (.pdelayReq req) rfl
  unfold requestCount
  rw [hthisPort, hsent, hids, List.length_append]
  rfl

theorem pacingData_action {state : MDPdelayReqSMState}
    (h : action ts state sm = .ok sm') (hinitial : state ≠ initialSendPdelayReq)
    (hsend : state ≠ sendPdelayReq) : sm'.pacingData = sm.pacingData := by
  cases state with
  | initialSendPdelayReq => exact absurd rfl hinitial
  | sendPdelayReq => exact absurd rfl hsend
  | waitingForPdelayIntervalTimer =>
      have hdata := exchangeData_waitingForPdelayIntervalTimerAction h
      exact congrArg (fun data => PacingData.mk data.settings data.process.sent
        data.pdelayIntervalTimer) hdata
  | reset =>
      cases h
      unfold resetAction
      dsimp only
      split <;> rfl
  | _ =>
      cases h
      rfl

/-- The requests so far are spaced, also if the next one leaves at `next`. -/
def Spaces (r : Emitted) (ts : UScaledNs) (next : Nat) (sm : MDPdelayReqSM) :
    Prop :=
  r.Paces sm.mdEntityGlobal.pdelayReqInterval.toNat ts.toNat sm.requestCount
    next

/-- The next request may leave once the timer has run for the interval. -/
structure Timed (r : Emitted) (ts : UScaledNs) (sm : MDPdelayReqSM) : Prop where
  spaces : Spaces r ts (sm.pdelayIntervalTimer.toNat +
    sm.mdEntityGlobal.pdelayReqInterval.toNat) sm
  timer : sm.pdelayIntervalTimer.toNat ≤ ts.toNat

theorem Spaces.congr {next : Nat} (h : Spaces r ts next sm)
    (hdata : sm'.pacingData = sm.pacingData) : Spaces r ts next sm' := by
  have hinterval : sm'.mdEntityGlobal.pdelayReqInterval =
      sm.mdEntityGlobal.pdelayReqInterval :=
    congrArg (fun data => data.settings.pdelayReqInterval) hdata
  unfold Spaces
  rw [hinterval, requestCount_of_pacingData hdata]
  exact h

theorem Timed.congr (h : Timed r ts sm)
    (hdata : sm'.pacingData = sm.pacingData) : Timed r ts sm' := by
  have hinterval : sm'.mdEntityGlobal.pdelayReqInterval =
      sm.mdEntityGlobal.pdelayReqInterval :=
    congrArg (fun data => data.settings.pdelayReqInterval) hdata
  have htimer : sm'.pdelayIntervalTimer = sm.pdelayIntervalTimer :=
    congrArg PacingData.pdelayIntervalTimer hdata
  constructor
  case spaces =>
    rw [htimer, hinterval]
    exact h.spaces.congr hdata
  case timer =>
    rw [htimer]
    exact h.timer

theorem Spaces.request (h : Spaces r ts ts.toNat sm)
    (hsettings : sm'.settings = sm.settings) (hrequests : Requests sm sm')
    (htimer : sm'.pdelayIntervalTimer = ts) : Timed r ts sm' := by
  have hinterval : sm'.mdEntityGlobal.pdelayReqInterval =
      sm.mdEntityGlobal.pdelayReqInterval :=
    congrArg Settings.pdelayReqInterval hsettings
  constructor
  case spaces =>
    unfold Spaces
    rw [htimer, hinterval, requestCount_requests hsettings hrequests]
    exact h.emit
  case timer => exact le_of_eq (congrArg UScaledNs.toNat htimer)

theorem Timed.elapsed (h : Timed r ts sm) (helapsed : sm.intervalElapsed ts) :
    Spaces r ts ts.toNat sm := by
  have hinterval := (intervalElapsed_iff h.timer).mp helapsed
  have htimer := h.timer
  exact h.spaces.mono (by omega)

/-!
## The invariant of a run
-/

/-- How the requests are spaced before a state is entered. -/
def PacedBefore (r : Emitted) (ts : UScaledNs) (state : MDPdelayReqSMState)
    (sm : MDPdelayReqSM) : Prop :=
  match state with
  | init | notEnabled | initialSendPdelayReq =>
      forall next, Spaces r ts next sm
  | sendPdelayReq => Spaces r ts ts.toNat sm
  | _ => Timed r ts sm

/-- How the requests are spaced while the machine is in a state. -/
def PacedDuring (r : Emitted) (ts : UScaledNs) (state : MDPdelayReqSMState)
    (sm : MDPdelayReqSM) : Prop :=
  match state with
  | init | notEnabled => forall next, Spaces r ts next sm
  | _ => Timed r ts sm

theorem PacedBefore.action {state : MDPdelayReqSMState}
    (h : PacedBefore r ts state sm)
    (haction : MDPdelayReqSM.action ts state sm = .ok sm') :
    PacedDuring r ts state sm' := by
  have hsettings := settings_action haction
  have hsent := sent_action haction
  cases state with
  | init | notEnabled =>
      have hdata := pacingData_action haction (by simp) (by simp)
      exact fun next => (h next).congr hdata
  | initialSendPdelayReq =>
      cases haction
      exact (h ts.toNat).request hsettings hsent rfl
  | sendPdelayReq =>
      cases haction
      exact Spaces.request h hsettings hsent.left rfl
  | _ =>
      have hdata := pacingData_action haction (by simp) (by simp)
      exact Timed.congr h hdata

theorem Timed.before (h : Timed r ts sm) {next : MDPdelayReqSMState}
    (hallows : Allows ts next sm) : PacedBefore r ts next sm := by
  cases next with
  | init | notEnabled | initialSendPdelayReq => exact hallows.elim
  | sendPdelayReq => exact h.elapsed hallows
  | _ => exact h

theorem PacedDuring.transition {state next : MDPdelayReqSMState}
    (h : PacedDuring r ts state sm)
    (hnext : MDPdelayReqSM.transition ts state sm = .ok next)
    (hne : next ≠ state) : PacedBefore r ts next sm := by
  cases state with
  | init =>
      cases hnext
      exact h
  | notEnabled =>
      cases notEnabled_left hnext hne
      exact h
  | _ =>
      have hallows := allows_transition (by simp) (by simp) hnext hne
      exact Timed.before h hallows

theorem PacedBefore.spaces {state : MDPdelayReqSMState}
    (h : PacedBefore r ts state sm) : exists next, Spaces r ts next sm := by
  cases state with
  | init | notEnabled | initialSendPdelayReq => exact ⟨0, h 0⟩
  | sendPdelayReq => exact ⟨_, h⟩
  | _ => exact ⟨_, Timed.spaces h⟩

theorem PacedDuring.spaces {state : MDPdelayReqSMState}
    (h : PacedDuring r ts state sm) : exists next, Spaces r ts next sm := by
  cases state with
  | init | notEnabled => exact ⟨0, h 0⟩
  | _ => exact ⟨_, Timed.spaces h⟩

/-- The next call finds the requests as this one leaves them. -/
theorem PacedDuring.renew {state : MDPdelayReqSMState}
    (h : PacedDuring r ts state sm) {ts' : UScaledNs}
    (hle : ts.toNat ≤ ts'.toNat) :
    PacedDuring ⟨r.during ts.toNat sm.requestCount, sm.requestCount⟩ ts' state
      sm := by
  have hspaces : forall {next : Nat}, Spaces r ts next sm ->
      Spaces ⟨r.during ts.toNat sm.requestCount, sm.requestCount⟩ ts' next
        sm := fun h => Emitted.paces_start h.spaced ts'.toNat
  cases state with
  | init | notEnabled => exact fun next => hspaces (h next)
  | _ => exact ⟨hspaces (Timed.spaces h), (Timed.timer h).trans hle⟩

theorem PacedDuring.congr {state : MDPdelayReqSMState}
    (h : PacedDuring r ts state sm) (hdata : sm'.pacingData = sm.pacingData) :
    PacedDuring r ts state sm' := by
  cases state with
  | init | notEnabled => exact fun next => (h next).congr hdata
  | _ => exact Timed.congr h hdata

end Actions

end MDPdelayReqSM

namespace MDPdelayReqMachine

open MDPdelayReqSM

/-- A run at time `ts` paces the requests. -/
def pacing (r : Emitted) (ts : UScaledNs) :
    Program.Annotation (behaviour ts).program :=
  (behaviour ts).annotate (PacedBefore r ts) (PacedDuring r ts)
    (fun _ _ _ h haction => h.action haction)
    (fun _ _ _ h hnext hne => h.transition hnext hne)

/-- The time that `TimeSyncMainLoop` hands to a call. -/
def Event.time : Event -> Nat
  | .run ts => ts.toNat
  | .txts ts _ => ts.toNat
  | .recvResp ts _ _ => ts.toNat
  | .recvRespFollowUp ts _ => ts.toNat

/-- The initiator of a port as a source of `Pdelay_Req` messages. -/
def emitter : Emitter MDPdelayReqMachine Event where
  step := step
  time e := some e.time
  emits m e := (step m e).vars.requestCount - m.vars.requestCount

def pdelayReqInterval (m : MDPdelayReqMachine) : UScaledNs :=
  m.vars.mdEntityGlobal.pdelayReqInterval

/--
The times of the requests of a port.  Its machine is initialized at time 0, and
that call may send the first one.
-/
def requestTimes (config : Config) (i : PortIndex) (memory : MDPdelayReqSM)
    (es : List Event) : List Nat :=
  List.replicate (start config i memory).vars.requestCount 0 ++
    emitter.emissions (start config i memory) 0 es

section Runs

variable {m : MDPdelayReqMachine} {ts : UScaledNs} {r : Emitted} {now : Nat}
  {times : List Nat}

/--
The machine of an enabled port between two calls.  The requests that it has
sent at `times` are spaced, and in a running process the timer of the interval
holds the last of these times.
-/
structure Paced (m : MDPdelayReqMachine) (now : Nat) (times : List Nat) :
    Prop where
  enabled : m.vars.Enabled
  spaced : exists next,
    Spaced m.vars.mdEntityGlobal.pdelayReqInterval.toNat times next
  during : m.vars.process.stop = none -> m.Quiescent ∧
    forall ts : UScaledNs, now ≤ ts.toNat ->
      PacedDuring { times := times, count := m.vars.requestCount } ts m.state
        m.vars

theorem Paced.later (h : Paced m now times) {now' : Nat} (hle : now ≤ now') :
    Paced m now' times :=
  ⟨h.enabled, h.spaced, fun hrunning => ⟨(h.during hrunning).left,
    fun ts hts => (h.during hrunning).right ts (hle.trans hts)⟩⟩

/-- A change of the variables that has nothing to do with the requests. -/
theorem Paced.congr (h : Paced m now times) {sm : MDPdelayReqSM}
    (hdata : sm.pacingData = m.vars.pacingData)
    (hstop : sm.process.stop = m.vars.process.stop) :
    Paced { m with vars := sm } now times := by
  have hsettings : sm.settings = m.vars.settings :=
    congrArg PacingData.settings hdata
  have hinterval : sm.mdEntityGlobal.pdelayReqInterval =
      m.vars.mdEntityGlobal.pdelayReqInterval :=
    congrArg Settings.pdelayReqInterval hsettings
  constructor
  case enabled => exact enabled_of_settings hsettings h.enabled
  case spaced =>
    dsimp only
    rw [hinterval]
    exact h.spaced
  case during =>
    dsimp only
    rw [hstop, requestCount_of_pacingData hdata]
    intro hrunning
    obtain ⟨hq, hduring⟩ := h.during hrunning
    exact ⟨hq, fun ts hts => (hduring ts hts).congr hdata⟩

theorem paced_run (henabled : m.vars.Enabled) (hholds : (pacing r ts).Holds m)
    (hrunning : m.vars.process.stop = none) :
    Paced (m.run ts) ts.toNat
      (r.during ts.toNat (m.run ts).vars.requestCount) := by
  have hready := ready_enabled henabled
  constructor
  case enabled => exact enabled_of_settings (settings_run m ts) henabled
  case spaced =>
    unfold run
    rw [hready]
    have hspaces := Behaviour.run_always (behaviour_records ts) (pacing r ts)
      (I := fun sm => exists next, Spaces r ts next sm)
      (fun _ _ h => h.spaces) (fun _ _ h => h.spaces) (fun _ _ h => h) passes
      hholds hrunning
    obtain ⟨next, h⟩ := hspaces
    exact ⟨next, h.spaced⟩
  case during =>
    unfold run
    rw [hready]
    intro hstop
    obtain ⟨hq, hduring⟩ := (pacing r ts).run_post passes hholds hstop
    exact ⟨hq, fun ts' hts => PacedDuring.renew hduring hts⟩

theorem Paced.runWith (h : Paced m now times)
    (hrunning : m.vars.process.stop = none) {sm : MDPdelayReqSM}
    (hdata : sm.pacingData = m.vars.pacingData)
    (hstop : sm.process.stop = m.vars.process.stop)
    (hnow : now ≤ ts.toNat) :
    Paced (run { m with vars := sm } ts) ts.toNat
      (times ++ List.replicate ((run { m with vars := sm } ts).vars.requestCount
        - m.vars.requestCount) ts.toNat) := by
  obtain ⟨hq, hduring⟩ := h.during hrunning
  have hholds : (pacing ⟨times, m.vars.requestCount⟩ ts).Holds
      { m with vars := sm } :=
    ⟨fun _ => (hduring ts hnow).congr hdata, fun hn => absurd hq hn⟩
  exact paced_run (h.congr hdata hstop).enabled hholds (hstop.trans hrunning)

theorem Paced.unsent (h : Paced m now times) {time : Nat} (hnow : now ≤ time) :
    Paced m time (times ++
      List.replicate (m.vars.requestCount - m.vars.requestCount) time) := by
  rw [Nat.sub_self, List.replicate_zero, List.append_nil]
  exact h.later hnow

theorem paced_step (h : Paced m now times) (e : Event) (hnow : now ≤ e.time) :
    Paced (step m e) e.time (times ++
      List.replicate ((step m e).vars.requestCount - m.vars.requestCount)
        e.time) := by
  by_cases hrunning : m.vars.process.stop = none
  · rw [step_running e hrunning]
    cases e with
    | run ts => exact h.runWith hrunning rfl rfl hnow
    | txts ts tsuTimestamp =>
        dsimp only [txts]
        split
        · exact h.unsent hnow
        · split
          · exact h.unsent hnow
          · exact h.runWith hrunning rfl rfl hnow
    | recvResp ts tsuTimestamp pdelayResp =>
        exact Paced.congr
          (m := run { m with vars := m.vars.storeResp pdelayResp } ts)
          (h.runWith hrunning rfl rfl hnow) rfl rfl
    | recvRespFollowUp ts pdelayRespFollowUp =>
        exact h.runWith hrunning rfl rfl hnow
  · rw [step_stopped e hrunning]
    exact h.unsent hnow

end Runs

section Ports

variable {config : Config} {i : PortIndex} {memory : MDPdelayReqSM}

theorem paced_start (h : config.ptpPorts i.succ ≠ .disabledPort) :
    Paced (start config i memory) 0
      (List.replicate (start config i memory).vars.requestCount 0) := by
  have hzero : PortSyncSyncSendSM.zeroTime.toNat = 0 := rfl
  unfold start initMdPdelayReqSm
  rw [← hzero]
  refine paced_run (r := ⟨[], 0⟩) ⟨rfl, decide_eq_true h, rfl⟩ ?_ rfl
  refine ⟨fun hq => (by cases hq), fun _ next => ?_⟩
  exact Emitted.paces_start (r := ⟨[], 0⟩) (spaced_nil _ next) 0

theorem requests_apart (h : config.ptpPorts i.succ ≠ .disabledPort)
    {es : List Event} (horder : emitter.InOrder es) :
    Apart (after config i memory es).pdelayReqInterval.toNat
      (requestTimes config i memory es) := by
  have hrun := Emitter.emissions_invariant (E := emitter) (I := Paced)
    (fun _ _ _ e h hnow => paced_step h e hnow)
    (@paced_start config i memory h) horder.from_zero
  obtain ⟨_, hpaced⟩ := hrun
  obtain ⟨_, hspaced⟩ := hpaced.spaced
  exact hspaced.apart

end Ports

end MDPdelayReqMachine

end TimeSync
end Ziggo
