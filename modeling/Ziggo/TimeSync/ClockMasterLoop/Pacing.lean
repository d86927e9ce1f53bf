import Ziggo.Foundation.Pacing
import Ziggo.TimeSync.ClockMasterLoop.OriginTime
import Ziggo.TimeSync.RunLoops.Announces

/-!
# The pace of the clock master

Each structure that the clock master hands to the site sets its timer, and no
other one follows before the timer has expired.  The interval is a second, which
no machine changes.
-/

namespace Ziggo
namespace TimeSync

open Foundation TsnDrivers

/-!
## The interval
-/

namespace ClockMasterSyncReceiveMachine

open ClockMasterSyncReceiveSM

theorem clockMasterSyncInterval_run (m : ClockMasterSyncReceiveMachine) :
    m.run.vars.clockMasterGlobal.clockMasterSyncInterval =
      m.vars.clockMasterGlobal.clockMasterSyncInterval := by
  refine Program.run_preserves program
    (I := fun sm => sm.clockMasterGlobal.clockMasterSyncInterval =
      m.vars.clockMasterGlobal.clockMasterSyncInterval) ?_ ?_ ?_ passes rfl
  · intro state sm h
    cases state with
    | receiveSourceTime =>
        refine attempt_preserves
          (I := fun sm : ClockMasterSyncReceiveSM =>
            sm.clockMasterGlobal.clockMasterSyncInterval =
              m.vars.clockMasterGlobal.clockMasterSyncInterval)
          (fun sm' haction => ?_) fun _ _ => h
        obtain ⟨_, _, hreturn⟩ := bind_eq_ok.mp haction
        cases hreturn
        dsimp only
        split
        · exact h
        · exact h
    | _ => exact h
  · exact fun _ _ _ h _ => h
  · exact fun _ h => h

theorem clockMasterSyncInterval_recvSourceTime
    (m : ClockMasterSyncReceiveMachine) (invoke : ClockSourceTimeInvoke) :
    (m.recvSourceTime invoke).vars.clockMasterGlobal.clockMasterSyncInterval =
      m.vars.clockMasterGlobal.clockMasterSyncInterval := by
  unfold recvSourceTime
  cases hstore : m.vars.storeSourceTime invoke with
  | error f => rfl
  | ok sm =>
      obtain ⟨_, _, hreturn⟩ := bind_eq_ok.mp hstore
      cases hreturn
      exact clockMasterSyncInterval_run _

end ClockMasterSyncReceiveMachine

namespace ClockMasterSyncSendSM

open ClockMasterSyncSendSMState

def IntervalSet (w : ClockMaster) : Prop :=
  w.clockMasterGlobal.clockMasterSyncInterval = computeClockMasterSyncInterval

theorem intervalSet_run {w : ClockMaster} (h : IntervalSet w) (ts : UScaledNs) :
    IntervalSet (run ts w) := by
  unfold run
  refine Embedded.run_preserves (I := IntervalSet) ?_ ?_ ?_ passes h
  · intro state w h
    cases state with
    | init => exact h
    | initializing => rfl
    | sendSyncIndication =>
        change IntervalSet (sendSyncIndicationAction ts w)
        unfold sendSyncIndicationAction
        split
        · exact h
        · dsimp only
          split
          · exact h
          · rfl
  · exact fun _ _ h => h
  · exact fun _ _ h => h

end ClockMasterSyncSendSM

namespace ClockMasterLoop

open ClockMasterSyncSendSM

section Interval

variable {w : ClockMasterLoop}

theorem intervalSet_thenDo (h : IntervalSet w.clockMaster)
    {statement : ClockMasterLoop -> ClockMasterLoop}
    (hstatement : forall w, IntervalSet w.clockMaster ->
      IntervalSet (statement w).clockMaster) :
    IntervalSet (w.thenDo statement).clockMaster := by
  unfold thenDo
  split
  · exact h
  · exact hstatement w h

theorem intervalSet_withSyncLoop (h : IntervalSet w.clockMaster)
    (l : SyncLoop) : IntervalSet (w.withSyncLoop l).clockMaster :=
  h

theorem intervalSet_step (h : IntervalSet w.clockMaster) (e : Event) :
    IntervalSet (w.step e).clockMaster := by
  refine intervalSet_thenDo h fun w h => ?_
  cases e with
  | tick r =>
      refine intervalSet_thenDo ?_ fun w h => intervalSet_run h r.timestamp
      exact (ClockMasterSyncReceiveMachine.clockMasterSyncInterval_recvSourceTime
        _ _).trans h
  | sync e he => exact intervalSet_withSyncLoop h _

theorem intervalSet_initSyncReceive (h : IntervalSet w.clockMaster) :
    IntervalSet w.initSyncReceive.clockMaster :=
  (ClockMasterSyncReceiveMachine.clockMasterSyncInterval_run _).trans h

theorem intervalSet_initSyncSend (h : IntervalSet w.clockMaster) :
    IntervalSet w.initSyncSend.clockMaster := by
  unfold initSyncSend initClockMasterSyncSendSm
  dsimp only
  refine intervalSet_run ?_ PortSyncSyncSendSM.zeroTime
  exact h

theorem intervalSet_clockMasterStarted (config : Config)
    (memory : ClockMasterMemory) :
    IntervalSet (clockMasterStarted config memory).clockMaster := by
  have hinitial : IntervalSet (initial config memory).clockMaster := rfl
  unfold clockMasterStarted
  refine intervalSet_thenDo ?_ fun _ h => intervalSet_initSyncSend h
  exact intervalSet_thenDo hinitial fun _ h => intervalSet_initSyncReceive h

theorem intervalSet_start (config : Config) (memory : ClockMasterMemory) :
    IntervalSet (start config memory).clockMaster := by
  unfold start
  exact intervalSet_thenDo (intervalSet_clockMasterStarted config memory)
    fun _ h => intervalSet_withSyncLoop h _

end Interval

/-!
## Structures
-/

def clockMasterSyncInterval (w : ClockMasterLoop) : UScaledNs :=
  w.clockMaster.clockMasterGlobal.clockMasterSyncInterval

/-- How many structures the clock master hands to the site at an event. -/
def structures (w : ClockMasterLoop) (e : Event) : Nat :=
  match e with
  | .tick r => (news w (.tick r)).countP Call.reachesSite
  | .sync _ _ => 0

def Event.time : Event -> Option Nat
  | .tick r => some r.timestamp.toNat
  | .sync _ _ => none

def emitter : Emitter ClockMasterLoop Event where
  step := step
  time := Event.time
  emits := structures

/--
The times at which the clock master hands structures to the site.  It hands none
over when it is initialized.
-/
def structureTimes (config : Config) (memory : ClockMasterMemory)
    (es : List Event) : List Nat :=
  emitter.emissions (start config memory) 0 es

section Steps

variable {w : ClockMasterLoop} {r : ClockReading} {now : Nat}
  {times : List Nat}

theorem structures_of_same (h : (w.step (.tick r)).syncLoop = w.syncLoop) :
    structures w (.tick r) = 0 := by
  unfold structures news
  dsimp only
  rw [h, List.drop_length]
  rfl

/-- One structure reaches the site once the timer has expired. -/
theorem structures_due (h : w.AtRest)
    (hdue : due r.timestamp w.clockMaster = true) :
    structures w (.tick r) = 1 := by
  obtain ⟨_, _, _, hsync⟩ := tick_eq h r
  rw [if_pos hdue, SyncLoop.step_running h.sync.ready.running] at hsync
  have hcalls := SyncLoop.calls_of_arrival
    (SyncLoop.arrives_clockMaster h.sync r.timestamp
      (structureOf (atSourceTime r.timestamp w)))
  unfold structures news
  dsimp only
  rw [hsync, hcalls, List.append_nil, List.drop_left]
  split
  · unfold SyncLoop.response
    rw [List.countP_cons, List.countP_cons, List.countP_append,
      SyncLoop.countP_divisions (fun _ _ => rfl)]
    split
    · rfl
    · rw [SyncLoop.countP_sends (fun _ _ => rfl)]
      rfl
  · rfl

/-- The structures are spaced, and the timer runs since the last one. -/
structure Paced (w : ClockMasterLoop) (times : List Nat) : Prop where
  steady : w.Steady
  interval : IntervalSet w.clockMaster
  spaced : exists next, Spaced computeClockMasterSyncInterval.toNat times next
  during : w.syncLoop.stop = none ->
    Spaced computeClockMasterSyncInterval.toNat times
      w.clockMaster.clockMasterSyncSendSm.syncSendTime.toNat

/-- The timer of a process that goes on runs from the structure. -/
theorem syncSendTime_due (h : w.AtRest)
    (hdue : due r.timestamp w.clockMaster = true)
    (hstop : (w.step (.tick r)).syncLoop.stop = none) :
    (w.step (.tick r)).clockMaster.clockMasterSyncSendSm.syncSendTime =
      uscalednsAdd r.timestamp computeClockMasterSyncInterval := by
  have hrests := rests_atSourceTime h r.timestamp
  have hrun := run_due hrests h.sync.ready.configured.operating
    h.sync.ready.running (noWrap_timestamp r) hdue
  rw [sendSyncIndicationAction_eq hrests] at hrun
  obtain ⟨_, hmaster⟩ := clockMaster_tick h r
  unfold syncLoop at hstop
  rw [hmaster, hrun] at hstop ⊢
  split at hstop
  case isTrue hended => exact absurd hstop hended
  case isFalse hruns =>
    rw [if_neg hruns]
    rfl

theorem due_iff (ts : UScaledNs) (w : ClockMaster) :
    due ts w = true <-> w.clockMasterSyncSendSm.syncSendTime.toNat ≤ ts.toNat :=
  decide_eq_true_iff.trans (uscalednsCompare_nonneg _ _)

theorem paced_tick (h : w.Paced times) (hrunning : w.syncLoop.stop = none) :
    Paced (w.step (.tick r)) (times ++
      List.replicate (structures w (.tick r)) r.timestamp.toNat) := by
  have hrest := h.steady hrunning
  obtain ⟨_, hmaster⟩ := clockMaster_tick hrest r
  have hrests := rests_atSourceTime hrest r.timestamp
  have hoperating := hrest.sync.ready.configured.operating
  have hspaced := h.during hrunning
  cases hdue : due r.timestamp w.clockMaster with
  | false =>
      have hwait : (w.step (.tick r)).clockMaster = atSourceTime r.timestamp w :=
        hmaster.trans (run_waiting hrests hoperating hrunning hdue)
      have hsame : (w.step (.tick r)).syncLoop = w.syncLoop := by
        unfold syncLoop
        rw [hwait]
        rfl
      rw [structures_of_same hsame, List.replicate_zero, List.append_nil]
      refine ⟨steady_step h.steady _, intervalSet_step h.interval _, h.spaced,
        fun _ => ?_⟩
      rw [hwait]
      exact hspaced
  | true =>
      rw [structures_due hrest hdue]
      have hreached := (due_iff _ _).mp hdue
      have hemitted := (hspaced.mono hreached).emit
      refine ⟨steady_step h.steady _, intervalSet_step h.interval _,
        ⟨_, hemitted⟩, fun hstop => ?_⟩
      rw [syncSendTime_due hrest hdue hstop]
      exact hemitted.mono (le_toNat_uscalednsAdd (noWrap_timestamp r))

theorem paced_step (h : w.Paced times) (e : Event) :
    Paced (w.step e) (times ++
      List.replicate (emitter.emits w e) (emitter.clock now e)) := by
  by_cases hrunning : w.syncLoop.stop = none
  · cases e with
    | tick r => exact paced_tick h hrunning
    | sync e he =>
        change Paced _ (times ++ [])
        rw [List.append_nil]
        refine ⟨steady_step h.steady _, intervalSet_step h.interval _, h.spaced,
          fun _ => ?_⟩
        rw [step_running hrunning]
        exact h.during hrunning
  · have hsame : forall e, w.step e = w := step_stopped hrunning
    have hnone : emitter.emits w e = 0 := by
      cases e with
      | tick r => exact structures_of_same (congrArg syncLoop (hsame _))
      | sync e he => rfl
    rw [hnone, hsame, List.replicate_zero, List.append_nil]
    exact h

end Steps

section Runs

variable (config : Config) (memory : ClockMasterMemory)

theorem paced_start : Paced (start config memory) [] := by
  obtain ⟨hrest, _, _⟩ := atRest_start config memory
  exact ⟨fun _ => hrest, intervalSet_start config memory,
    ⟨0, spaced_nil _ 0⟩, fun _ => spaced_nil _ _⟩

theorem structures_apart {es : List Event} (horder : emitter.InOrder es) :
    Apart (after config memory es).clockMasterSyncInterval.toNat
      (structureTimes config memory es) := by
  have hrun := Emitter.emissions_invariant (E := emitter)
    (I := fun w _ times => Paced w times) (fun _ _ _ e h _ => paced_step h e)
    (paced_start config memory) horder.from_zero
  obtain ⟨_, hpaced⟩ := hrun
  have hinterval : (after config memory es).clockMasterSyncInterval =
      computeClockMasterSyncInterval := hpaced.interval
  rw [hinterval]
  obtain ⟨_, hspaced⟩ := hpaced.spaced
  exact hspaced.apart

end Runs

end ClockMasterLoop

end TimeSync
end Ziggo
