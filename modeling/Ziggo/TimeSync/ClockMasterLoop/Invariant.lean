import Ziggo.TimeSync.ClockMasterLoop
import Ziggo.TimeSync.RunLoops.ClockMaster
import Ziggo.TimeSync.SyncLoop.Initialization

/-!
# The machines of the clock master between two events

Each pass of the loop sets the time of the clock master.  Once a second the
other machine hands one structure to the site, and that is all that the clock
master does to the machines below.
-/

namespace Ziggo
namespace TimeSync

open Foundation TsnDrivers

/-!
## The time of the clock source
-/

namespace ClockMasterSyncReceiveSM

/-- The instance is neither restarted nor disabled. -/
def Operating (sm : ClockMasterSyncReceiveSM) : Prop :=
  sm.perPTPInstanceGlobal.BEGIN = false ∧
    sm.perPTPInstanceGlobal.instanceEnable = true

theorem allStateTransition_operating {sm : ClockMasterSyncReceiveSM}
    (h : sm.Operating) (state : ClockMasterSyncReceiveSMState) :
    sm.allStateTransition state = state := by
  unfold allStateTransition
  rw [h.left, h.right]
  exact if_neg (by simp)

/-- The variables once a message has been stored. -/
def withSourceTime (invoke : ClockSourceTimeInvoke)
    (sm : ClockMasterSyncReceiveSM) : ClockMasterSyncReceiveSM :=
  { sm with
    rcvdClockSourceReq := true
    rcvdClockSourceReqPtr := .live invoke }

/-- The variables once a message has been taken over. -/
def withMasterTime (invoke : ClockSourceTimeInvoke)
    (sm : ClockMasterSyncReceiveSM) : ClockMasterSyncReceiveSM :=
  { sm with
    rcvdClockSourceReq := false
    rcvdLocalClockTickCMSR := false
    rcvdClockSourceReqPtr := .live invoke
    clockMasterGlobal :=
      takeClockSource invoke (updateMasterTime invoke sm.clockMasterGlobal) }

theorem action_withSourceTime (invoke : ClockSourceTimeInvoke)
    (sm : ClockMasterSyncReceiveSM) :
    program.action .receiveSourceTime (sm.withSourceTime invoke) =
      sm.withMasterTime invoke :=
  rfl

theorem settled_withMasterTime (invoke : ClockSourceTimeInvoke)
    (sm : ClockMasterSyncReceiveSM) :
    program.Settled .receiveSourceTime (sm.withMasterTime invoke) :=
  Or.inr rfl

end ClockMasterSyncReceiveSM

namespace ClockMasterSyncReceiveMachine

open ClockMasterSyncReceiveSM

/-- The machine waits for the next message of the clock source. -/
structure Waits (m : ClockMasterSyncReceiveMachine) : Prop where
  running : m.vars.process.stop = none
  quiescent : m.Quiescent
  state : m.state ≠ .init
  owned : m.vars.rcvdClockSourceReqPtr ≠ .released

/-- A machine with a new message takes it over from either state. -/
theorem run_withSourceTime {m : ClockMasterSyncReceiveMachine}
    {sm : ClockMasterSyncReceiveSM} {invoke : ClockSourceTimeInvoke}
    (hvars : m.vars = sm.withSourceTime invoke) (hquiescent : m.Quiescent)
    (hstate : m.state ≠ .init) (hrunning : sm.process.stop = none) :
    program.run passes m =
      { state := .receiveSourceTime
        lastState := some .receiveSourceTime
        vars := sm.withMasterTime invoke } := by
  have henter : program.enter m = sm.withSourceTime invoke :=
    (Program.enter_quiescent _ hquiescent).trans hvars
  have hrun : program.fault (program.enter m) = none := by
    rw [henter]
    exact hrunning
  have hsettled := settled_withMasterTime invoke sm
  rw [← action_withSourceTime] at hsettled
  cases hs : m.state with
  | init => exact absurd hs hstate
  | initializing =>
      have hnext : program.transition m.state (program.enter m) =
          .ok (.goto .receiveSourceTime) := by
        rw [hs, henter]
        rfl
      have hgoto := Program.run_goto program 7 hrun hnext (by simp [hs])
      rw [henter, hs] at hgoto
      exact hgoto.trans
        (Program.run_settle 6 (by simp [Machine.Quiescent]) hsettled)
  | receiveSourceTime =>
      have hnext : program.transition m.state (program.enter m) =
          .ok (.reenter .receiveSourceTime) := by
        rw [hs, henter]
        rfl
      have hreenter := Program.run_reenter program 7 hrun hnext
      rw [henter] at hreenter
      exact hreenter.trans
        (Program.run_settle 6 (by simp [Machine.Quiescent]) hsettled)

theorem recvSourceTime_eq {m : ClockMasterSyncReceiveMachine} (h : Waits m)
    (hoperating : m.vars.Operating) (invoke : ClockSourceTimeInvoke) :
    m.recvSourceTime invoke =
      { state := .receiveSourceTime
        lastState := some .receiveSourceTime
        vars := m.vars.withMasterTime invoke } := by
  obtain ⟨freed, hfree⟩ := MDSyncSendSM.free_owned h.owned
  have hstored : m.vars.storeSourceTime invoke =
      .ok (m.vars.withSourceTime invoke) :=
    bind_eq_ok.mpr ⟨freed, hfree, rfl⟩
  have hready : ready { m with vars := m.vars.withSourceTime invoke } =
      { m with vars := m.vars.withSourceTime invoke } := by
    unfold ready
    rw [@allStateTransition_operating (m.vars.withSourceTime invoke) hoperating]
  unfold recvSourceTime
  rw [hstored]
  change program.run passes (ready _) = _
  rw [hready]
  exact run_withSourceTime rfl h.quiescent h.state h.running

theorem initClockMasterSyncReceiveSm_eq {memory : ClockMasterSyncReceiveSM}
    (hrunning : memory.process.stop = none) :
    initClockMasterSyncReceiveSm memory =
      { state := .initializing
        lastState := some .initializing
        vars :=
          { memory with rcvdClockSourceReqPtr := .null }.initializingAction } := by
  have hsettled : program.Settled .initializing
      (program.action .initializing
        { memory with rcvdClockSourceReqPtr := .null }) :=
    Or.inr rfl
  unfold initClockMasterSyncReceiveSm run ready allStateTransition
  dsimp only
  split
  case isTrue =>
    exact Program.run_settle 7 (by simp [Machine.Quiescent]) hsettled
  case isFalse =>
    exact Program.run_through 6 (by simp [Machine.Quiescent]) hrunning rfl
      (by simp) hsettled

theorem waits_init {memory : ClockMasterSyncReceiveSM}
    (hrunning : memory.process.stop = none) :
    Waits (initClockMasterSyncReceiveSm memory) := by
  rw [initClockMasterSyncReceiveSm_eq hrunning]
  refine ⟨hrunning, rfl, ?_, Ptr.null_ne_released⟩
  intro h
  cases h

end ClockMasterSyncReceiveMachine

/-!
## The messages of the clock master
-/

namespace ClockMasterSyncSendSM

open ClockMasterSyncSendSMState

/-- The machine waits for the next pass of the loop. -/
structure Rests (w : ClockMaster) : Prop where
  control : exists s, s ≠ init ∧ w.clockMasterSyncSendSm.control = .rest s
  owned : w.clockMasterSyncSendSm.txPSSyncPtrCMSS ≠ .released

/-- The structure that is due at a pass of the loop. -/
def structureOf (w : ClockMaster) : PortSyncSync :=
  setPSSyncCMSS w.syncLoop.perPTPInstanceGlobal.thisClock w.clockMasterGlobal
    (w.currentTimestamp 0)

section Runs

variable {ts : UScaledNs} {w : ClockMaster}

/-- The variables once the structure has come to the site. -/
def passed (ts : UScaledNs) (w : ClockMaster) : ClockMaster :=
  txPSSyncCMSS ts (structureOf w) (storePSSync (structureOf w) w)

theorem sendSyncIndicationAction_eq (hrest : Rests w) :
    sendSyncIndicationAction ts w =
      if (passed ts w).syncLoop.stop ≠ none then passed ts w
      else schedule ts (passed ts w) := by
  obtain ⟨freed, hfree⟩ := MDSyncSendSM.free_owned hrest.owned
  unfold sendSyncIndicationAction
  rw [hfree]
  rfl

theorem settled_schedule {s : ClockMasterSyncSendSMState} (hs : s ≠ init)
    (hwrap : NoWrap ts AnnounceLoop.oneSecond) :
    (machine ts).program.Settled s (schedule ts w) :=
  Or.inr (transition_waiting hs (due_schedule hwrap))

theorem settled_sendSyncIndication (hrest : Rests w)
    (hwrap : NoWrap ts AnnounceLoop.oneSecond) :
    (machine ts).program.Settled sendSyncIndication
      ((machine ts).program.action sendSyncIndication w) := by
  change (machine ts).program.Settled _ (sendSyncIndicationAction ts w)
  rw [sendSyncIndicationAction_eq hrest]
  by_cases hstop : (passed ts w).syncLoop.stop = none
  · rw [if_neg (not_not.mpr hstop)]
    exact settled_schedule (by decide) hwrap
  · rw [if_pos hstop]
    exact Or.inl hstop

theorem ready_operating (hoperating : w.syncLoop.resetting = false)
    (s : ClockMasterSyncSendSMState) : (machine ts).ready w s = s := by
  change (if w.syncLoop.resetting = true then initializing else s) = s
  rw [hoperating]
  rfl

theorem run_waiting (hrest : Rests w) (hoperating : w.syncLoop.resetting = false)
    (hrunning : w.syncLoop.stop = none) (hdue : due ts w = false) :
    run ts w = w := by
  obtain ⟨s, hs, hcontrol⟩ := hrest.control
  have hidle := (machine ts).run_idle 7 hcontrol (ready_operating hoperating s)
    hrunning (transition_waiting hs hdue)
  refine hidle.trans ?_
  change { w with
    clockMasterSyncSendSm :=
      { w.clockMasterSyncSendSm with control := .rest s } } = w
  rw [← hcontrol]

theorem run_due (hrest : Rests w) (hoperating : w.syncLoop.resetting = false)
    (hrunning : w.syncLoop.stop = none)
    (hwrap : NoWrap ts AnnounceLoop.oneSecond) (hdue : due ts w = true) :
    run ts w = (machine ts).store (.rest sendSyncIndication)
      (sendSyncIndicationAction ts w) := by
  obtain ⟨s, hs, hcontrol⟩ := hrest.control
  have hready := @ready_operating ts w hoperating s
  have hsettled := settled_sendSyncIndication hrest hwrap
  cases s with
  | init => exact absurd rfl hs
  | initializing =>
      have hnext : (machine ts).program.transition initializing w =
          .ok (.goto sendSyncIndication) := if_pos hdue
      exact (machine ts).run_goto 6 hcontrol hready hrunning hnext (by decide)
        hsettled
  | sendSyncIndication =>
      have hnext : (machine ts).program.transition sendSyncIndication w =
          .ok (.reenter sendSyncIndication) := if_pos hdue
      exact (machine ts).run_reenter 6 hcontrol hready hrunning hnext hsettled

/-- The clock shows what it showed before, perhaps without the first readings. -/
def Reads (w w' : ClockMaster) : Prop :=
  forall n, exists k, w'.currentTimestamp n = w.currentTimestamp k

/-- What a pass of the loop leaves, whether something was due or not. -/
theorem run_eq (hrest : Rests w) (hoperating : w.syncLoop.resetting = false)
    (hrunning : w.syncLoop.stop = none)
    (hwrap : NoWrap ts AnnounceLoop.oneSecond) :
    Rests (run ts w) ∧ Reads w (run ts w) ∧
      (run ts w).syncLoop =
        if due ts w then SiteSyncSyncSM.recvPSSync ts (structureOf w) w.syncLoop
        else w.syncLoop := by
  cases hdue : due ts w with
  | false =>
      rw [run_waiting hrest hoperating hrunning hdue]
      exact ⟨hrest, fun n => ⟨n, rfl⟩, rfl⟩
  | true =>
      rw [run_due hrest hoperating hrunning hwrap hdue,
        sendSyncIndicationAction_eq hrest, if_pos rfl]
      split
      case isTrue =>
        exact ⟨⟨⟨_, by decide, rfl⟩, Ptr.live_ne_released _⟩,
          fun n => ⟨n + 1, rfl⟩, rfl⟩
      case isFalse =>
        exact ⟨⟨⟨_, by decide, rfl⟩, Ptr.live_ne_released _⟩,
          fun n => ⟨n + 1, rfl⟩, rfl⟩

theorem initClockMasterSyncSendSm_eq (hoperating : w.syncLoop.resetting = false)
    (hrunning : w.syncLoop.stop = none) :
    Rests (initClockMasterSyncSendSm w) ∧
      Reads w (initClockMasterSyncSendSm w) ∧
      (initClockMasterSyncSendSm w).syncLoop = w.syncLoop := by
  have hinit := @Embedded.run_initial _ _ _
    (machine PortSyncSyncSendSM.zeroTime)
    { w with
      clockMasterSyncSendSm :=
        { w.clockMasterSyncSendSm with
          control := { state := .init, lastState := none }
          txPSSyncPtrCMSS := .null } }
    init initializing 6 rfl
    (Or.inl (@ready_operating PortSyncSyncSendSM.zeroTime w hoperating init))
    rfl hrunning rfl (by decide) (settled_schedule (by decide) (by decide))
  unfold initClockMasterSyncSendSm run passes
  rw [hinit]
  exact ⟨⟨⟨_, by decide, rfl⟩, Ptr.null_ne_released⟩, fun n => ⟨n, rfl⟩, rfl⟩

end Runs

end ClockMasterSyncSendSM

/-!
## The loop
-/

namespace ClockMasterLoop

open ClockMasterSyncReceiveSM ClockMasterSyncSendSM

/-- A second after what the clock shows fits into 96 bits. -/
theorem noWrap_timestamp (r : ClockReading) :
    NoWrap r.timestamp AnnounceLoop.oneSecond := by
  have hsecond : AnnounceLoop.oneSecond.toNat = 1000000000 * 2 ^ 16 := by
    decide
  have hsubns := r.timestamp.subns.toNat_lt
  have hsteps := r.inSteps
  obtain ⟨hmsb, hnsec⟩ := r.hasSeconds
  have hexact : additionError r.timestamp AnnounceLoop.oneSecond = 0 := by
    refine if_neg fun hfull => ?_
    unfold InSteps at hsteps
    change r.timestamp.subns.toNat + 0 = 0xFFFF at hfull
    omega
  unfold NoWrap
  rw [hexact, hsecond]
  unfold UScaledNs.toNat
  rw [hmsb]
  change 0 * 2 ^ 80 + _ + _ + _ + 0 < _
  omega

/-- All machines wait for the next event. -/
structure AtRest (w : ClockMasterLoop) : Prop where
  receive : w.clockMasterSyncReceiveSm.Waits
  send : Rests w.clockMaster
  sync : w.syncLoop.AtRest

/-- Between two events the process has ended or all machines wait. -/
def Steady (w : ClockMasterLoop) : Prop :=
  w.syncLoop.stop = none -> w.AtRest

/-- The clock shows times of the registers. -/
def Shows (w : ClockMasterLoop) : Prop :=
  forall n, exists r : ClockReading,
    w.clockMaster.currentTimestamp n = r.timestamp

section Steps

variable {w : ClockMasterLoop}

theorem thenDo_running (h : w.syncLoop.stop = none)
    (statement : ClockMasterLoop -> ClockMasterLoop) :
    w.thenDo statement = statement w :=
  if_neg (not_not.mpr h)

theorem step_running (h : w.syncLoop.stop = none) (e : Event) :
    w.step e = handle e w :=
  thenDo_running h _

theorem step_stopped (h : w.syncLoop.stop ≠ none) (e : Event) : w.step e = w :=
  if_pos h

theorem Shows.reads {w' : ClockMasterLoop} (h : w.Shows)
    (hreads : Reads w.clockMaster w'.clockMaster) : w'.Shows := by
  intro n
  obtain ⟨k, hk⟩ := hreads n
  rw [hk]
  exact h k

theorem operating_load (h : w.syncLoop.resetting = false) :
    w.loadSyncReceive.vars.Operating := by
  have hneither := of_decide_eq_false h
  rw [not_or, Bool.not_eq_true, Bool.not_eq_false] at hneither
  exact hneither

/-- The clock master once it has taken over a time. -/
def atSourceTime (currentTs : UScaledNs) (w : ClockMasterLoop) : ClockMaster :=
  { w.clockMaster with
    clockMasterGlobal :=
      takeClockSource (sourceTimeReq currentTs)
        (ClockMasterSyncReceiveSM.updateMasterTime (sourceTimeReq currentTs)
          w.clockMaster.clockMasterGlobal) }

theorem recvSourceTime_eq (h : w.AtRest) (currentTs : UScaledNs) :
    (w.recvSourceTime currentTs).clockMasterSyncReceiveSm.Waits ∧
      (w.recvSourceTime currentTs).clockMaster = atSourceTime currentTs w := by
  have hwaits : w.loadSyncReceive.Waits :=
    ⟨h.receive.running, h.receive.quiescent, h.receive.state, h.receive.owned⟩
  have hoperating := operating_load h.sync.ready.configured.operating
  have hstop : ({ w.syncLoop with
      stop := w.syncLoop.stop.or w.loadSyncReceive.vars.process.stop } :
        SyncLoop) = w.syncLoop := by
    rw [hwaits.running, Option.or_none]
  have hcall := ClockMasterSyncReceiveMachine.recvSourceTime_eq hwaits
    hoperating (sourceTimeReq currentTs)
  unfold recvSourceTime
  rw [hcall]
  refine ⟨⟨hwaits.running, rfl, ?_, Ptr.live_ne_released _⟩, ?_⟩
  · intro hinit
    cases hinit
  · exact congrArg (fun l => { atSourceTime currentTs w with syncLoop := l })
      hstop

/-- A pass runs the machine that passes the time that the other has taken over. -/
theorem clockMaster_tick (h : w.AtRest) (r : ClockReading) :
    (w.step (.tick r)).clockMasterSyncReceiveSm.Waits ∧
      (w.step (.tick r)).clockMaster =
        ClockMasterSyncSendSM.run r.timestamp (atSourceTime r.timestamp w) := by
  obtain ⟨hwaits, hmaster⟩ := recvSourceTime_eq h r.timestamp
  have hrunning := h.sync.ready.running
  have hstep : w.step (.tick r) =
      runSyncSend r.timestamp (w.recvSourceTime r.timestamp) := by
    rw [step_running hrunning]
    refine thenDo_running ?_ _
    unfold syncLoop
    rw [hmaster]
    exact hrunning
  rw [hstep]
  unfold runSyncSend
  rw [hmaster]
  exact ⟨hwaits, rfl⟩

theorem rests_atSourceTime (h : w.AtRest) (currentTs : UScaledNs) :
    Rests (atSourceTime currentTs w) :=
  ⟨h.send.control, h.send.owned⟩

theorem tick_eq (h : w.AtRest) (r : ClockReading) :
    (w.step (.tick r)).clockMasterSyncReceiveSm.Waits ∧
      Rests (w.step (.tick r)).clockMaster ∧
      Reads w.clockMaster (w.step (.tick r)).clockMaster ∧
      (w.step (.tick r)).syncLoop =
        if due r.timestamp w.clockMaster then
          w.syncLoop.step (.clockMaster r.timestamp
            (structureOf (atSourceTime r.timestamp w)))
        else
          w.syncLoop := by
  obtain ⟨hwaits, hmaster⟩ := clockMaster_tick h r
  have hrunning := h.sync.ready.running
  have hrun := ClockMasterSyncSendSM.run_eq
    (rests_atSourceTime h r.timestamp) h.sync.ready.configured.operating
    hrunning (noWrap_timestamp r)
  rw [SyncLoop.step_running hrunning]
  unfold syncLoop
  rw [hmaster]
  exact ⟨hwaits, hrun⟩

theorem steady_step (h : w.Steady) (e : Event) : (w.step e).Steady := by
  intro hresult
  by_cases hrunning : w.syncLoop.stop = none
  · have hrest := h hrunning
    cases e with
    | tick r =>
        obtain ⟨hwaits, hrests, _, hsync⟩ := tick_eq hrest r
        refine ⟨hwaits, hrests, ?_⟩
        rw [hsync] at hresult ⊢
        split at hresult
        case isTrue hdue =>
          rw [if_pos hdue]
          exact SyncLoop.steady_step (fun _ => hrest.sync) _ hresult
        case isFalse hdue =>
          rw [if_neg hdue]
          exact hrest.sync
    | sync e he =>
        rw [step_running hrunning] at hresult ⊢
        exact ⟨hrest.receive, ⟨hrest.send.control, hrest.send.owned⟩,
          SyncLoop.steady_step (fun _ => hrest.sync) e hresult⟩
  · rw [step_stopped hrunning] at hresult
    exact absurd hresult hrunning

theorem shows_step (h : w.Steady) (hshows : w.Shows) (e : Event) :
    (w.step e).Shows := by
  by_cases hrunning : w.syncLoop.stop = none
  · cases e with
    | tick r => exact hshows.reads (tick_eq (h hrunning) r).right.right.left
    | sync e he =>
        rw [step_running hrunning]
        exact hshows
  · rw [step_stopped hrunning]
    exact hshows

/-- An event does to the machines below what one event of theirs does, or nothing. -/
theorem syncLoop_step (h : w.Steady) (e : Event) :
    (w.step e).syncLoop = w.syncLoop ∨
      exists e', (w.step e).syncLoop = w.syncLoop.step e' := by
  by_cases hrunning : w.syncLoop.stop = none
  · cases e with
    | tick r =>
        obtain ⟨_, _, _, hsync⟩ := tick_eq (h hrunning) r
        rw [hsync]
        split
        case isTrue => exact Or.inr ⟨_, rfl⟩
        case isFalse => exact Or.inl rfl
    | sync e he =>
        rw [step_running hrunning]
        exact Or.inr ⟨e, rfl⟩
  · rw [step_stopped hrunning]
    exact Or.inl rfl

end Steps

/-!
## Runs
-/

section Runs

variable {Ok : ClockMasterLoop -> Event -> Prop}
  {Ok' : SyncLoop -> SyncLoop.Event -> Prop}

theorem run_refines
    (hok : forall w e e', (w.step e).syncLoop = w.syncLoop.step e' -> Ok w e ->
      Ok' w.syncLoop e')
    {w : ClockMasterLoop} (h : w.Steady) {es : List Event}
    (hes : Along step Ok w es) :
    (runEvents step w es).Steady ∧
      exists es', Along SyncLoop.step Ok' w.syncLoop es' ∧
        (runEvents step w es).syncLoop =
          runEvents SyncLoop.step w.syncLoop es' := by
  induction es generalizing w with
  | nil => exact ⟨h, [], along_nil _ _, rfl⟩
  | cons e es ih =>
      obtain ⟨hfirst, hrest⟩ := along_cons.mp hes
      obtain ⟨hsteady, es', hes', hrun⟩ := ih (steady_step h e) hrest
      refine ⟨hsteady, ?_⟩
      rcases syncLoop_step h e with hsame | ⟨e', hstep⟩
      · rw [hsame] at hes' hrun
        exact ⟨es', hes', hrun⟩
      · rw [hstep] at hes' hrun
        exact ⟨e' :: es', along_cons.mpr ⟨hok w e e' hstep hfirst, hes'⟩, hrun⟩

end Runs

section Start

variable (config : Config) (memory : ClockMasterMemory)

/-- The loop before the first call of a machine of the site. -/
structure Prepared (w : ClockMasterLoop) : Prop where
  receive : w.clockMasterSyncReceiveSm.Waits
  shows : w.Shows
  sync : w.syncLoop = SyncLoop.initial config memory.sync

theorem prepared_initSyncReceive :
    Prepared config memory
      ((initial config memory).thenDo initSyncReceive) := by
  have hrunning :
      (initial config memory).loadSyncReceive.vars.process.stop = none := rfl
  have hwaits := ClockMasterSyncReceiveMachine.waits_init hrunning
  refine ⟨hwaits, fun n => ⟨memory.readings n, rfl⟩, ?_⟩
  have hstop : ((initial config memory).thenDo initSyncReceive).syncLoop =
      { SyncLoop.initial config memory.sync with
        stop := (ClockMasterSyncReceiveMachine.initClockMasterSyncReceiveSm
          (initial config memory).loadSyncReceive.vars).vars.process.stop } :=
    rfl
  rw [hstop, hwaits.running]
  rfl

theorem prepared_initSyncSend {w : ClockMasterLoop}
    (h : Prepared config memory w) :
    Prepared config memory (w.thenDo initSyncSend) ∧
      Rests (w.thenDo initSyncSend).clockMaster := by
  have hconfigured := SyncLoop.configured_initial config memory.sync
  have hrunning : w.syncLoop.stop = none := by
    rw [h.sync]
    rfl
  rw [← h.sync] at hconfigured
  obtain ⟨hrests, hreads, hsync⟩ :=
    ClockMasterSyncSendSM.initClockMasterSyncSendSm_eq hconfigured.operating
      hrunning
  rw [thenDo_running hrunning]
  exact ⟨⟨h.receive, h.shows.reads hreads, hsync.trans h.sync⟩, hrests⟩

theorem atRest_start :
    (start config memory).AtRest ∧ (start config memory).Shows ∧
      (start config memory).syncLoop = SyncLoop.start config memory.sync := by
  have hstarted : Prepared config memory (clockMasterStarted config memory) ∧
      Rests (clockMasterStarted config memory).clockMaster :=
    prepared_initSyncSend config memory (prepared_initSyncReceive config memory)
  obtain ⟨hprepared, hrests⟩ := hstarted
  have hrunning : (clockMasterStarted config memory).syncLoop.stop = none := by
    rw [hprepared.sync]
    rfl
  unfold start
  rw [thenDo_running hrunning]
  have hsite := SyncLoop.atRest_start config memory.sync
  generalize SyncLoop.start config memory.sync = l at hsite ⊢
  generalize clockMasterStarted config memory = w at hprepared hrests ⊢
  exact ⟨⟨hprepared.receive, ⟨hrests.control, hrests.owned⟩, hsite⟩,
    hprepared.shows, rfl⟩

theorem steady_after (es : List Event) :
    (after config memory es).Steady ∧ (after config memory es).Shows := by
  obtain ⟨hrest, hshows, _⟩ := atRest_start config memory
  unfold after
  refine run_invariant_always (I := fun w => Steady w ∧ Shows w)
    ⟨fun _ => hrest, hshows⟩ (fun w e h => ?_) es
  exact ⟨steady_step h.left e, shows_step h.left h.right e⟩

/-- What the clock master does to the machines below is a run of theirs. -/
theorem syncLoop_after (es : List Event) :
    exists es', (after config memory es).syncLoop =
      SyncLoop.after config memory.sync es' := by
  obtain ⟨hrest, _, hsync⟩ := atRest_start config memory
  obtain ⟨_, es', _, hrun⟩ := @run_refines (fun _ _ => True) (fun _ _ => True)
    (fun _ _ _ _ _ => trivial) (start config memory) (fun _ => hrest) es
    (fun _ _ _ _ => trivial)
  refine ⟨es', hrun.trans ?_⟩
  rw [hsync]
  rfl

end Start

end ClockMasterLoop

end TimeSync
end Ziggo
