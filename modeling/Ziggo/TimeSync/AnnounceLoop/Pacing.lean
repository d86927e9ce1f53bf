import Ziggo.Foundation.Pacing
import Ziggo.TimeSync.AnnounceLoop.Intervals
import Ziggo.TimeSync.AnnounceLoop.Notification
import Ziggo.TimeSync.AnnounceLoop.Transmission
import Ziggo.TimeSync.RunLoops.Announces

/-!
# The pace of Announce messages

A sender sends once its own `newInfo` is set, and a message clears it.  Only the
expiry of the timer sets it again, and each message sets the timer.  In between
a port may lose and regain the role of a master port as often as it likes.
-/

namespace Ziggo
namespace TimeSync

open Foundation TsnDrivers

namespace PortAnnounceTransmitSM

open PortAnnounceTransmitSMState AnnounceLoop

/-- The number of the messages that have left by the port of the machine. -/
def announceCount (sm : PortAnnounceTransmitSM) : Nat :=
  (sequenceIds .announce sm.perPortGlobal.thisPort sm.process.sent).length

/-- The messages so far are spaced, also if the next one leaves at `next`. -/
def Spaces (r : Emitted) (ts : UScaledNs) (next : Nat)
    (sm : PortAnnounceTransmitSM) : Prop :=
  r.Paces oneSecond.toNat ts.toNat sm.announceCount next

/--
A message may leave now.  Where the sum for the timer leaves 96 bits the timer
expires at once, again and again, and no message leaves any more.
-/
def MayFollow (r : Emitted) (ts : UScaledNs) (sm : PortAnnounceTransmitSM) :
    Prop :=
  Spaces r ts ts.toNat sm ∨
    (Spaces r ts (ts.toNat + oneSecond.toNat) sm ∧ sm.portSettled = true ∧
      ¬ NoWrap ts oneSecond)

/-- A message that waits may leave, and otherwise the timer tells when. -/
structure Scheduled (r : Emitted) (ts : UScaledNs)
    (sm : PortAnnounceTransmitSM) : Prop where
  waiting : sm.newInfo = true -> Spaces r ts ts.toNat sm
  timer : sm.newInfo = false -> Spaces r ts sm.announceSendTime.toNat sm

structure Expired (r : Emitted) (ts : UScaledNs) (sm : PortAnnounceTransmitSM) :
    Prop where
  spaces : Spaces r ts (ts.toNat + oneSecond.toNat) sm
  settled : sm.portSettled = true
  wraps : ¬ NoWrap ts oneSecond
  expired : sm.announceSendTime.toNat ≤ ts.toNat

/-- How the messages are spaced before a state is entered. -/
def PacedBefore (r : Emitted) (ts : UScaledNs)
    (state : PortAnnounceTransmitSMState) (sm : PortAnnounceTransmitSM) :
    Prop :=
  match state with
  | init | transmitInit => Spaces r ts ts.toNat sm
  | transmitPeriodic => MayFollow r ts sm
  | idle =>
      if sm.newInfo then MayFollow r ts sm
      else Spaces r ts (ts.toNat + oneSecond.toNat) sm ∧ sm.portSettled = true
  | transmitAnnounce => Spaces r ts ts.toNat sm ∧ sm.portSettled = true

/-- How the messages are spaced while the machine is in a state. -/
def PacedDuring (r : Emitted) (ts : UScaledNs)
    (state : PortAnnounceTransmitSMState) (sm : PortAnnounceTransmitSM) :
    Prop :=
  match state with
  | init => Spaces r ts ts.toNat sm
  | transmitInit | transmitPeriodic => sm.newInfo = true ∧ MayFollow r ts sm
  | idle => Scheduled r ts sm ∨ Expired r ts sm
  | transmitAnnounce =>
      sm.newInfo = false ∧
        Spaces r ts (ts.toNat + oneSecond.toNat) sm ∧ sm.portSettled = true

section Actions

variable {sm sm' : PortAnnounceTransmitSM} {ts : UScaledNs} {r : Emitted}

theorem uscalednsAdd_le_of_wraps (h : ¬ NoWrap ts oneSecond) :
    (uscalednsAdd ts oneSecond).toNat ≤ ts.toNat := by
  have hlt := ts.toNat_lt
  have hsecond : oneSecond.toNat = 1000000000 * 2 ^ 16 := by decide
  have herror : additionError ts oneSecond ≤ 2 ^ 16 := by
    unfold additionError
    split <;> omega
  unfold NoWrap at h
  rw [toNat_uscalednsAdd]
  rw [hsecond] at h ⊢
  omega

theorem MayFollow.later (h : MayFollow r ts sm) :
    Spaces r ts (ts.toNat + oneSecond.toNat) sm := by
  rcases h with hspaces | ⟨hspaces, _⟩
  · exact hspaces.mono (Nat.le_add_right _ _)
  · exact hspaces

/-- A message that may leave now starts the interval. -/
theorem Spaces.transmit (h : Spaces r ts ts.toNat sm)
    (haction : sm.transmitAnnounceAction = .ok sm') :
    Spaces r ts (ts.toNat + oneSecond.toNat) sm' := by
  obtain ⟨hport, _, announce, _, hsent⟩ :=
    PortAnnounceTransmitMachine.transmitAnnounceAction_sends haction
  have hids := @sequenceIds_send .announce sm.perPortGlobal.thisPort
    sm.process.sent (.announce announce) rfl
  have hcount : sm'.announceCount = sm.announceCount + 1 := by
    unfold announceCount
    rw [hport, hsent, hids, List.length_append]
    rfl
  unfold Spaces
  rw [hcount]
  exact h.emit

theorem newInfo_transmitAnnounceAction
    (haction : sm.transmitAnnounceAction = .ok sm') : sm'.newInfo = false := by
  obtain ⟨_, _, hrest⟩ := bind_eq_ok.mp haction
  obtain ⟨_, htx, hreturn⟩ := bind_eq_ok.mp hrest
  obtain ⟨_, _, hsent⟩ := bind_eq_ok.mp htx
  cases hsent
  cases hreturn
  rfl

theorem portSettled_congr
    (hglobal : sm'.perPTPInstanceGlobal = sm.perPTPInstanceGlobal)
    (hport : sm'.perPortGlobal = sm.perPortGlobal) :
    sm'.portSettled = sm.portSettled := by
  unfold portSettled
  rw [hglobal, hport]

/-- The timer is set whenever the machine comes back to wait. -/
theorem PacedBefore.idleAction (hintervals : Intervals oneSecond sm)
    (h : PacedBefore r ts idle sm) :
    PacedDuring r ts idle (sm.idleAction ts) := by
  have htimer : (sm.idleAction ts).announceSendTime =
      uscalednsAdd ts oneSecond :=
    congrArg (uscalednsAdd ts) hintervals.interval2
  have hexpired : ¬ NoWrap ts oneSecond ->
      (sm.idleAction ts).announceSendTime.toNat ≤ ts.toNat := by
    rw [htimer]
    exact uscalednsAdd_le_of_wraps
  unfold PacedBefore at h
  dsimp only at h
  cases hnew : sm.newInfo with
  | true =>
      rw [if_pos hnew] at h
      rcases h with hspaces | ⟨hspaces, hsettled, hwraps⟩
      · refine Or.inl ⟨fun _ => hspaces, fun hunset => ?_⟩
        cases hnew.symm.trans hunset
      · exact Or.inr ⟨hspaces, hsettled, hwraps, hexpired hwraps⟩
  | false =>
      rw [if_neg (by simp [hnew])] at h
      by_cases hwrap : NoWrap ts oneSecond
      · refine Or.inl ⟨fun hset => ?_, fun _ => ?_⟩
        · cases hnew.symm.trans hset
        · rw [htimer]
          exact h.left.mono (le_toNat_uscalednsAdd hwrap)
      · exact Or.inr ⟨h.left, h.right, hwrap, hexpired hwrap⟩

theorem PacedBefore.action {state : PortAnnounceTransmitSMState}
    (hintervals : Intervals oneSecond sm) (h : PacedBefore r ts state sm)
    (haction : PortAnnounceTransmitSM.action ts state sm = .ok sm') :
    PacedDuring r ts state sm' := by
  cases state with
  | init =>
      cases haction
      exact h
  | transmitInit =>
      cases haction
      exact ⟨rfl, Or.inl h⟩
  | transmitPeriodic =>
      cases haction
      exact ⟨by simp [transmitPeriodicAction], h⟩
  | idle =>
      cases haction
      exact h.idleAction hintervals
  | transmitAnnounce =>
      obtain ⟨hglobal, hport, _⟩ :=
        PortAnnounceTransmitMachine.transmitAnnounceAction_ok haction
      refine ⟨newInfo_transmitAnnounceAction haction, h.left.transmit haction, ?_⟩
      rw [portSettled_congr hglobal hport]
      exact h.right

theorem PacedDuring.idle_transition {next : PortAnnounceTransmitSMState}
    (h : PacedDuring r ts idle sm)
    (hnext : PortAnnounceTransmitSM.transition ts idle sm = .ok next)
    (hne : next ≠ idle) : PacedBefore r ts next sm := by
  rcases idle_left hnext hne with
    ⟨rfl, hdue, _⟩ | ⟨rfl, hnew, _, hearly, hsettled⟩
  · have hreached : sm.announceSendTime.toNat ≤ ts.toNat :=
      (uscalednsCompare_nonneg _ _).mp hdue
    rcases h with hscheduled | hexpired
    · cases hnew : sm.newInfo with
      | true => exact Or.inl (hscheduled.waiting hnew)
      | false => exact Or.inl ((hscheduled.timer hnew).mono hreached)
    · exact Or.inr ⟨hexpired.spaces, hexpired.settled, hexpired.wraps⟩
  · rcases h with hscheduled | hexpired
    · exact ⟨hscheduled.waiting hnew, hsettled⟩
    · have hreached := (uscalednsCompare_nonneg _ _).mpr hexpired.expired
      exact absurd hreached (not_le.mpr hearly)

theorem PacedDuring.transition {state next : PortAnnounceTransmitSMState}
    (h : PacedDuring r ts state sm)
    (hnext : PortAnnounceTransmitSM.transition ts state sm = .ok next)
    (hne : next ≠ state) : PacedBefore r ts next sm := by
  cases state with
  | init =>
      cases hnext
      exact h
  | transmitInit | transmitPeriodic =>
      cases hnext
      obtain ⟨hnew, hmay⟩ := h
      unfold PacedBefore
      dsimp only
      rw [if_pos hnew]
      exact hmay
  | idle => exact h.idle_transition hnext hne
  | transmitAnnounce =>
      cases hnext
      obtain ⟨hnew, hsent⟩ := h
      unfold PacedBefore
      dsimp only
      rw [if_neg (by simp [hnew])]
      exact hsent

theorem MayFollow.spaces (h : MayFollow r ts sm) :
    exists next, Spaces r ts next sm := by
  rcases h with hspaces | ⟨hspaces, _⟩
  · exact ⟨_, hspaces⟩
  · exact ⟨_, hspaces⟩

theorem PacedBefore.spaces {state : PortAnnounceTransmitSMState}
    (h : PacedBefore r ts state sm) : exists next, Spaces r ts next sm := by
  cases state with
  | init | transmitInit => exact ⟨_, h⟩
  | transmitPeriodic => exact MayFollow.spaces h
  | idle =>
      unfold PacedBefore at h
      dsimp only at h
      split at h
      · exact h.spaces
      · exact ⟨_, h.left⟩
  | transmitAnnounce => exact ⟨_, h.left⟩

theorem PacedDuring.spaces {state : PortAnnounceTransmitSMState}
    (h : PacedDuring r ts state sm) : exists next, Spaces r ts next sm := by
  cases state with
  | init => exact ⟨_, h⟩
  | transmitInit | transmitPeriodic => exact h.right.spaces
  | idle =>
      rcases h with hscheduled | hexpired
      · cases hnew : sm.newInfo with
        | true => exact ⟨_, hscheduled.waiting hnew⟩
        | false => exact ⟨_, hscheduled.timer hnew⟩
      · exact ⟨_, hexpired.spaces⟩
  | transmitAnnounce => exact ⟨_, h.right.left⟩

theorem Expired.not_rests (h : Expired r ts sm) :
    sm.idleStateTransition ts ≠ idle := by
  have hdue : uscalednsCompare ts sm.announceSendTime ≥ 0 ∧
      sm.portSettled = true :=
    ⟨(uscalednsCompare_nonneg _ _).mpr h.expired, h.settled⟩
  unfold idleStateTransition
  rw [if_pos hdue]
  decide

theorem action_keeps_stop {state : PortAnnounceTransmitSMState}
    (haction : PortAnnounceTransmitSM.action ts state sm = .ok sm') :
    sm'.process.stop = sm.process.stop := by
  cases state with
  | transmitAnnounce =>
      obtain ⟨_, _, hstop, _⟩ :=
        PortAnnounceTransmitMachine.transmitAnnounceAction_ok haction
      exact hstop
  | _ =>
      cases haction
      rfl

theorem behaviour_records (ts : UScaledNs) : (behaviour ts).Records where
  halt _ _ := rfl
  action _ _ _ h := action_keeps_stop h

/-- The next call finds the messages as this one leaves them. -/
theorem Scheduled.renew (h : Scheduled r ts sm) {ts' : UScaledNs}
    (hle : ts.toNat ≤ ts'.toNat) :
    Scheduled ⟨r.during ts.toNat sm.announceCount, sm.announceCount⟩ ts'
      sm where
  waiting hnew := Emitted.paces_start ((h.waiting hnew).spaced.mono hle) _
  timer hnew := Emitted.paces_start (h.timer hnew).spaced _

theorem Scheduled.congr (h : Scheduled r ts sm)
    (hnew : sm'.newInfo = sm.newInfo)
    (htime : sm'.announceSendTime = sm.announceSendTime)
    (hcount : sm'.announceCount = sm.announceCount) : Scheduled r ts sm' := by
  constructor
  case waiting =>
    intro hset
    unfold Spaces
    rw [hcount]
    exact h.waiting (hnew.symm.trans hset)
  case timer =>
    intro hunset
    unfold Spaces
    rw [hcount, htime]
    exact h.timer (hnew.symm.trans hunset)

end Actions

end PortAnnounceTransmitSM

namespace PortAnnounceTransmitMachine

open PortAnnounceTransmitSM AnnounceLoop

/-- A run at time `ts` paces the messages. -/
def pacing (r : Emitted) (ts : UScaledNs) :
    Program.Annotation (behaviour ts).program :=
  (behaviour ts).annotate
    (fun state sm => Intervals oneSecond sm ∧ PacedBefore r ts state sm)
    (fun state sm => Intervals oneSecond sm ∧ PacedDuring r ts state sm)
    (fun _ _ _ h haction =>
      ⟨h.left.action haction, h.right.action h.left haction⟩)
    (fun _ _ _ h hnext hne => ⟨h.left, h.right.transition hnext hne⟩)

section Runs

variable {m : PortAnnounceTransmitMachine} {ts : UScaledNs} {r : Emitted}

/-- What a run leaves, whether it ends without a fault or not. -/
structure Leaves (r : Emitted) (ts : UScaledNs)
    (m : PortAnnounceTransmitMachine) : Prop where
  interval2 : m.vars.interval2 = oneSecond
  spaces : exists next, Spaces r ts next m.vars
  during : m.vars.process.stop = none -> m.Waits ∧ Scheduled r ts m.vars

theorem leaves_run
    (hstarted : m.vars.perPTPInstanceGlobal.BEGIN = false ∧
      m.vars.perPTPInstanceGlobal.instanceEnable = true)
    (hholds : (pacing r ts).Holds m)
    (hrunning : m.vars.process.stop = none) : Leaves r ts (m.run ts) := by
  have hready := ready_of_started hstarted
  have halways := Behaviour.run_always (behaviour_records ts) (pacing r ts)
    (I := fun sm => Intervals oneSecond sm ∧ exists next, Spaces r ts next sm)
    (fun _ _ h => ⟨h.left, h.right.spaces⟩)
    (fun _ _ h => ⟨h.left, h.right.spaces⟩)
    (fun _ _ h => ⟨⟨h.left.interval2, h.left.announceInterval⟩, h.right⟩)
    passes hholds hrunning
  constructor
  case interval2 =>
    unfold run
    rw [hready]
    exact halways.left.interval2
  case spaces =>
    unfold run
    rw [hready]
    exact halways.right
  case during =>
    intro hruns
    have hwaits := waits_run hruns
    obtain ⟨_, hsettled⟩ :=
      Program.run_settled (behaviour ts).program passes hruns
    have hrests : PortAnnounceTransmitSM.transition ts (m.run ts).state
        (m.run ts).vars = .ok (m.run ts).state :=
      Behaviour.transition_goto.mp hsettled
    refine ⟨hwaits, ?_⟩
    unfold run at hruns hwaits hrests ⊢
    rw [hready] at hruns hwaits hrests ⊢
    obtain ⟨_, _, hduring⟩ := (pacing r ts).run_post passes hholds hruns
    rw [hwaits.right] at hduring hrests
    rcases hduring with hscheduled | hexpired
    · exact hscheduled
    · exact absurd (Except.ok.inj hrests) hexpired.not_rests

end Runs

end PortAnnounceTransmitMachine

namespace AnnounceLoop

open PortAnnounceTransmitSM

/-- The number of the messages that have left by a port. -/
def announceCount (l : AnnounceLoop) (i : PortIndex) : Nat :=
  (sequenceIds .announce i.succ l.process.sent).length

/-- The sender of a port waits, and its timer runs since the last message. -/
structure Resting (i : PortIndex) (l : AnnounceLoop) (now : Nat)
    (times : List Nat) : Prop where
  waits : (l.portAnnounceTransmitSms i).Waits
  interval2 : (l.portAnnounceTransmitSms i).vars.interval2 = oneSecond
  scheduled : forall ts : UScaledNs, now ≤ ts.toNat ->
    Scheduled ⟨times, l.announceCount i⟩ ts (l.loadPortAnnounceTransmit i)

/-- The messages that have left by a port at `times` are spaced. -/
structure Paced (config : Config) (i : PortIndex) (l : AnnounceLoop)
    (now : Nat) (times : List Nat) : Prop where
  configured : Configured config l
  interval : (l.perPortGlobal i).announceInterval = oneSecond
  spaced : exists next, Spaced oneSecond.toNat times next
  resting : l.Runs -> Resting i l now times

section Calls

variable {config : Config} {i j : PortIndex} {l l' : AnnounceLoop} {now : Nat}
  {times : List Nat} {ts : UScaledNs}

theorem announceCount_load (h : Configured config l) (i : PortIndex) :
    (l.loadPortAnnounceTransmit i).announceCount = l.announceCount i := by
  have hport : (l.loadPortAnnounceTransmit i).perPortGlobal.thisPort = i.succ :=
    h.thisPort i
  unfold PortAnnounceTransmitSM.announceCount
  rw [hport]
  rfl

theorem load_storePortAnnounceTransmit (l : AnnounceLoop) (i : PortIndex)
    (m : PortAnnounceTransmitMachine) :
    (l.storePortAnnounceTransmit i m).loadPortAnnounceTransmit i = m.vars := by
  unfold storePortAnnounceTransmit loadPortAnnounceTransmit
  dsimp only
  rw [Function.update_self, Function.update_self]

theorem Resting.congr (h : Resting i l now times) (hl : Configured config l)
    (hl' : Configured config l')
    (hsms : l'.portAnnounceTransmitSms i = l.portAnnounceTransmitSms i)
    (hcount : l'.announceCount i = l.announceCount i) :
    Resting i l' now times := by
  constructor
  case waits =>
    rw [hsms]
    exact h.waits
  case interval2 =>
    rw [hsms]
    exact h.interval2
  case scheduled =>
    intro ts hts
    rw [hcount]
    refine (h.scheduled ts hts).congr
      (congrArg (fun m => m.vars.newInfo) hsms)
      (congrArg (fun m => m.vars.announceSendTime) hsms) ?_
    rw [announceCount_load hl, announceCount_load hl', hcount]

theorem Resting.later (h : Resting i l now times) {now' : Nat}
    (hle : now ≤ now') : Resting i l now' times :=
  ⟨h.waits, h.interval2, fun ts hts => h.scheduled ts (hle.trans hts)⟩

theorem Paced.later (h : Paced config i l now times) {now' : Nat}
    (hle : now ≤ now') : Paced config i l now' times :=
  ⟨h.configured, h.interval, h.spaced, fun hruns => (h.resting hruns).later hle⟩

/-- A statement that neither sends nor touches the sender of the port. -/
theorem Paced.unchanged (h : Paced config i l now times)
    (hconfigured : Configured config l') (hintervals : l'.intervals = l.intervals)
    (hcount : l'.announceCount i = l.announceCount i)
    (hsms : l'.portAnnounceTransmitSms i = l.portAnnounceTransmitSms i)
    (hruns : l'.Runs -> l.Runs) : Paced config i l' now times where
  configured := hconfigured
  interval := (announceInterval_of_intervals hintervals i).trans h.interval
  spaced := h.spaced
  resting hruns' := (h.resting (hruns hruns')).congr h.configured hconfigured
    hsms hcount

theorem Unchanged.announceCount (h : Unchanged l l') (i : PortIndex) :
    l'.announceCount i = l.announceCount i := by
  unfold AnnounceLoop.announceCount
  rw [h.sent]

theorem Paced.silent (h : Paced config i l' now times)
    (hcount : l'.announceCount i = l.announceCount i) (time : Nat) :
    Paced config i l' now (times ++
      List.replicate (l'.announceCount i - l.announceCount i) time) := by
  rw [hcount, Nat.sub_self, List.replicate_zero, List.append_nil]
  exact h

theorem paced_store (h : Configured config l)
    (hinterval : (l.perPortGlobal i).announceInterval = oneSecond)
    {r : Emitted} {m : PortAnnounceTransmitMachine}
    (hframe : PortAnnounceTransmitMachine.CallFrame
      (l.loadPortAnnounceTransmit i) m.vars)
    (hleaves : PortAnnounceTransmitMachine.Leaves r ts m) :
    Paced config i (l.storePortAnnounceTransmit i m) ts.toNat
      (r.during ts.toNat
        ((l.storePortAnnounceTransmit i m).announceCount i)) := by
  have hconfigured := h.transmit hframe
  have hload := load_storePortAnnounceTransmit l i m
  have hcount := announceCount_load hconfigured i
  rw [hload] at hcount
  have hsms : (l.storePortAnnounceTransmit i m).portAnnounceTransmitSms i = m :=
    Function.update_self _ _ _
  constructor
  case configured => exact hconfigured
  case interval =>
    exact (announceInterval_of_intervals (intervals_transmit hframe) i).trans
      hinterval
  case spaced =>
    obtain ⟨next, hspaces⟩ := hleaves.spaces
    rw [← hcount]
    exact ⟨next, hspaces.spaced⟩
  case resting =>
    intro hruns
    obtain ⟨hwaits, hscheduled⟩ := hleaves.during hruns
    constructor
    case waits =>
      rw [hsms]
      exact hwaits
    case interval2 =>
      rw [hsms]
      exact hleaves.interval2
    case scheduled =>
      intro ts' hts
      rw [hload, ← hcount]
      exact hscheduled.renew hts

theorem Paced.other (h : Paced config i l now times) (hij : i ≠ j)
    (hruns : l.Runs) {m : PortAnnounceTransmitMachine}
    (hframe : PortAnnounceTransmitMachine.CallFrame
      (l.loadPortAnnounceTransmit j) m.vars) :
    Paced config i (l.storePortAnnounceTransmit j m) now times ∧
      (l.storePortAnnounceTransmit j m).announceCount i =
        l.announceCount i := by
  have hcount : (l.storePortAnnounceTransmit j m).announceCount i =
      l.announceCount i :=
    congrArg List.length (sequenceIds_transmit h.configured hij hframe)
  refine ⟨h.unchanged (h.configured.transmit hframe)
    (intervals_transmit hframe) hcount ?_ fun _ => hruns, hcount⟩
  exact Function.update_of_ne hij _ _

theorem Paced.runTransmit (h : Paced config i l now times) (hruns : l.Runs)
    (hnow : now ≤ ts.toNat) (j : PortIndex) :
    Paced config i (l.runTransmit j ts) ts.toNat (times ++
      List.replicate ((l.runTransmit j ts).announceCount i - l.announceCount i)
        ts.toNat) := by
  have hframe := callFrame_runTransmit l j ts
  by_cases hij : i = j
  · subst hij
    have hresting := h.resting hruns
    refine paced_store (r := ⟨times, l.announceCount i⟩) h.configured
      h.interval hframe ?_
    refine PortAnnounceTransmitMachine.leaves_run h.configured.started ?_ hruns
    refine ⟨fun _ => ?_, fun hn => absurd hresting.waits.left hn⟩
    dsimp only
    rw [hresting.waits.right]
    exact ⟨⟨hresting.interval2, h.interval⟩,
      Or.inl (hresting.scheduled ts hnow)⟩
  · obtain ⟨hpaced, hcount⟩ := h.other hij hruns hframe
    exact (hpaced.later hnow).silent hcount ts.toNat

end Calls

/-!
## Runs
-/

def announceInterval (l : AnnounceLoop) (i : PortIndex) : UScaledNs :=
  (l.perPortGlobal i).announceInterval

def Event.time : Event -> Option Nat
  | .timeout _ ts => some ts.toNat
  | .announce _ ts _ => some ts.toNat
  | .select => none
  | .syncReceipt _ => none

/-- The loop as a program that emits the messages of one port. -/
def emitter (i : PortIndex) : Emitter AnnounceLoop Event where
  step := step
  time := Event.time
  emits l e := (step l e).announceCount i - l.announceCount i

/--
The times at which messages leave by a port.  The initialization of the machines
takes place at time 0.
-/
def announceTimes (config : Config) (memory : LoopMemory) (i : PortIndex)
    (es : List Event) : List Nat :=
  List.replicate ((start config memory).announceCount i) 0 ++
    (emitter i).emissions (start config memory) 0 es

section Steps

variable {config : Config} {i j : PortIndex} {l : AnnounceLoop} {now : Nat}
  {times : List Nat} {ts : UScaledNs}

/-- A statement that has nothing to do with the senders. -/
theorem Paced.thenDo (h : Paced config i l now times)
    {statement : AnnounceLoop -> AnnounceLoop}
    (hunchanged : forall l, Unchanged l (statement l))
    (hintervals : forall l, (statement l).intervals = l.intervals)
    (hconfigured : Configured config (l.thenDo statement)) :
    Paced config i (l.thenDo statement) now times ∧
      (l.thenDo statement).announceCount i = l.announceCount i := by
  have hsame := Unchanged.thenDo hunchanged l
  have hcount := hsame.announceCount i
  exact ⟨h.unchanged hconfigured (intervals_thenDo hintervals l) hcount
    (congrFun hsame.portAnnounceTransmitSms i)
    fun hruns => (runs_of_thenDo hruns).left, hcount⟩

theorem Paced.runInformation (h : Paced config i l now times) (j : PortIndex)
    (ts : UScaledNs) :
    Paced config i (l.thenDo (runInformation j ts)) now times ∧
      (l.thenDo (runInformation j ts)).announceCount i = l.announceCount i :=
  h.thenDo (unchanged_runInformation j ts) (intervals_runInformation j ts)
    (h.configured.thenRunInformation j ts)

theorem Paced.runSelection (h : Paced config i l now times) :
    Paced config i (l.thenDo AnnounceLoop.runSelection) now times ∧
      (l.thenDo AnnounceLoop.runSelection).announceCount i =
        l.announceCount i :=
  h.thenDo unchanged_runSelection intervals_runSelection
    ((kept_configured config .select).step h.configured)

theorem paced_timeout (h : Paced config i l now times) (hnow : now ≤ ts.toNat) :
    Paced config i (step l (.timeout j ts)) ts.toNat (times ++
      List.replicate ((step l (.timeout j ts)).announceCount i -
        l.announceCount i) ts.toNat) := by
  obtain ⟨hpaced, hcount⟩ := h.runInformation j ts
  rw [← hcount]
  unfold step
  dsimp only
  by_cases hruns : (l.thenDo (AnnounceLoop.runInformation j ts)).Runs
  · rw [thenDo_runs hruns]
    exact hpaced.runTransmit hruns hnow j
  · rw [thenDo_ended hruns]
    exact (hpaced.later hnow).silent rfl ts.toNat

theorem paced_step (h : Paced config i l now times) (e : Event)
    (hnow : now ≤ (emitter i).clock now e) :
    Paced config i (step l e) ((emitter i).clock now e) (times ++
      List.replicate ((emitter i).emits l e) ((emitter i).clock now e)) := by
  cases e with
  | timeout j ts => exact paced_timeout h hnow
  | announce j ts message =>
      have hrecv := h.thenDo (unchanged_recvAnnounce j ts message)
        (intervals_recvAnnounce j ts message)
        (thenDo_preserves h.configured
          (kept_configured config (.announce j ts message)).recvAnnounce)
      obtain ⟨hreceived, hcount⟩ := hrecv
      obtain ⟨hselected, hcount'⟩ := hreceived.runSelection
      exact (hselected.later hnow).silent (hcount'.trans hcount) _
  | select =>
      obtain ⟨hselected, hcount⟩ := h.runSelection
      exact (hselected.later hnow).silent hcount _
  | syncReceipt time =>
      obtain ⟨hset, hcount⟩ := h.thenDo (unchanged_syncReceipt time)
        (fun _ => rfl)
        ((kept_configured config (.syncReceipt time)).step h.configured)
      exact (hset.later hnow).silent hcount _

end Steps

/-!
The machines are initialized one after the other.  The first messages of a port
leave when its machine is initialized.
-/

/-- The machines of some ports pace their messages from time 0 on. -/
structure PacedStart (config : Config) (done : PortIndex -> Prop)
    (l : AnnounceLoop) : Prop where
  configured : Configured config l
  interval : forall i, (l.perPortGlobal i).announceInterval = oneSecond
  paced : forall i, done i ->
    Paced config i l 0 (List.replicate (l.announceCount i) 0)
  untouched : forall i, ¬ done i -> l.Untouched i

section Starts

variable {config : Config} {i : PortIndex} {l : AnnounceLoop}
  {done : PortIndex -> Prop}

theorem Untouched.announceCount (h : l.Untouched i) : l.announceCount i = 0 :=
  congrArg List.length h

theorem paced_initTransmit (h : Configured config l)
    (hinterval : (l.perPortGlobal i).announceInterval = oneSecond)
    (hnew : l.Untouched i) (hruns : l.Runs) :
    Paced config i (l.initTransmit i) 0
      (List.replicate ((l.initTransmit i).announceCount i) 0) := by
  have hnone : (l.loadPortAnnounceTransmit i).announceCount = 0 :=
    (announceCount_load h i).trans hnew.announceCount
  have hspaces := Emitted.paces_start (r := ⟨[], 0⟩)
    (spaced_nil oneSecond.toNat 0) 0
  have hzero : ({ subns := 0, nsec := 0, nsecMsb := 0 } : UScaledNs).toNat = 0 :=
    rfl
  rw [← hzero]
  refine paced_store (r := ⟨[], 0⟩) h hinterval
    (PortAnnounceTransmitMachine.callFrame_init _) ?_
  refine PortAnnounceTransmitMachine.leaves_run h.started ?_ hruns
  refine ⟨fun hq => (by cases hq), fun _ => ⟨⟨hinterval, hinterval⟩, ?_⟩⟩
  change Emitted.Paces _ _ _ (l.loadPortAnnounceTransmit i).announceCount _
  rw [hnone]
  exact hspaces

/-- A machine that the end of the process keeps from its start sends nothing. -/
theorem paced_ended (h : Configured config l)
    (hinterval : (l.perPortGlobal i).announceInterval = oneSecond)
    (hnew : l.Untouched i) (hended : ¬ l.Runs) :
    Paced config i l 0 (List.replicate (l.announceCount i) 0) := by
  rw [hnew.announceCount]
  exact ⟨h, hinterval, ⟨0, spaced_nil _ 0⟩, fun hruns => absurd hruns hended⟩

theorem PacedStart.initInformation (h : PacedStart config done l)
    (i : PortIndex) :
    PacedStart config done (l.thenDo (AnnounceLoop.initInformation i)) := by
  have hunchanged := Unchanged.thenDo (unchanged_initInformation i) l
  have hconfigured := h.configured.thenInitInformation i
  have hintervals := intervals_thenDo (intervals_initInformation i) l
  constructor
  case configured => exact hconfigured
  case interval =>
    exact fun j =>
      (announceInterval_of_intervals hintervals j).trans (h.interval j)
  case paced =>
    intro j hj
    obtain ⟨hpaced, hcount⟩ := (h.paced j hj).thenDo
      (unchanged_initInformation i) (intervals_initInformation i) hconfigured
    rw [hcount]
    exact hpaced
  case untouched => exact fun j hj => hunchanged.untouched (h.untouched j hj)

theorem PacedStart.initTransmit (hi : ¬ done i)
    (h : PacedStart config done l) :
    PacedStart config (fun j => j = i ∨ done j)
      (l.thenDo (AnnounceLoop.initTransmit i)) := by
  have hnew := h.untouched i hi
  by_cases hruns : l.Runs
  case neg =>
    rw [thenDo_ended hruns]
    refine ⟨h.configured, h.interval, fun j hj => ?_, fun j hj => ?_⟩
    · rcases hj with rfl | hj
      · exact paced_ended h.configured (h.interval j) hnew hruns
      · exact h.paced j hj
    · exact h.untouched j (not_or.mp hj).right
  case pos =>
    rw [thenDo_runs hruns]
    constructor
    case configured =>
      exact (keptInit_configured config).initTransmit h.configured i
    case interval =>
      intro j
      exact (announceInterval_of_intervals
        (intervals_initTransmit i l) j).trans (h.interval j)
    case paced =>
      intro j hj
      by_cases hji : j = i
      · subst hji
        exact paced_initTransmit h.configured (h.interval j) hnew hruns
      · obtain ⟨hpaced, hcount⟩ := (h.paced j (hj.resolve_left hji)).other hji
          hruns (PortAnnounceTransmitMachine.callFrame_init
            (l.loadPortAnnounceTransmit i))
        rw [← hcount] at hpaced
        exact hpaced
    case untouched =>
      intro j hj
      obtain ⟨hji, hj⟩ := not_or.mp hj
      exact untouched_initTransmit h.configured (h.untouched j hj) hji

theorem paced_start (config : Config) (memory : LoopMemory) (i : PortIndex) :
    Paced config i (start config memory) 0
      (List.replicate ((start config memory).announceCount i) 0) := by
  have hselection := unchanged_initSelection (initial config memory)
  have hintervals := intervals_initSelection (initial config memory)
  have hnone : forall i, (initial config memory).Untouched i := fun _ => rfl
  have hbegin : PacedStart config (fun _ => False)
      (initial config memory).initSelection := by
    refine ⟨(keptInit_configured config).initSelection ⟨rfl, fun _ => rfl⟩,
      fun j => ?_, fun j hj => hj.elim,
      fun j _ => hselection.untouched (hnone j)⟩
    exact announceInterval_of_intervals hintervals j
  have hend := foldl_distinct (I := PacedStart config)
    (fun _ _ i hi h => (h.initInformation i).initTransmit hi)
    (List.nodup_finRange nPorts) (fun _ _ h => h) hbegin
  exact hend.paced i (Or.inl (List.mem_finRange i))

/-- The messages of a run leave as the timer of their sender tells. -/
theorem paced_after (config : Config) (memory : LoopMemory) (i : PortIndex)
    {es : List Event} (horder : (emitter i).InOrder es) :
    exists now, Paced config i (after config memory es) now
      (announceTimes config memory i es) :=
  Emitter.emissions_invariant (E := emitter i) (I := Paced config i)
    (fun _ _ _ e h hnow => paced_step h e hnow) (paced_start config memory i)
    horder.from_zero

theorem announces_apart (config : Config) (memory : LoopMemory)
    (i : PortIndex) {es : List Event} (horder : (emitter i).InOrder es) :
    Apart ((after config memory es).announceInterval i).toNat
      (announceTimes config memory i es) := by
  obtain ⟨_, hpaced⟩ := paced_after config memory i horder
  have hinterval : (after config memory es).announceInterval i = oneSecond :=
    hpaced.interval
  rw [hinterval]
  obtain ⟨_, hspaced⟩ := hpaced.spaced
  exact hspaced.apart

end Starts

end AnnounceLoop

end TimeSync
end Ziggo
