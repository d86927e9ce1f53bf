import Ziggo.TimeSync.AnnounceLoop.Ageing
import Ziggo.TimeSync.AnnounceLoop.PathTrace

/-!
# New information and the sender

A port that takes up new information of the instance sets `newInfo`, for the
sender of `Announce` messages not to wait for its timer.  The sender reads a
variable of its own with the same name.  It sends the new information at once
exactly if that variable happens to be set.
-/

namespace Ziggo
namespace TimeSync

open Foundation TsnDrivers

namespace PortAnnounceTransmitMachine

open PortAnnounceTransmitSM

variable {ts : UScaledNs} {m : PortAnnounceTransmitMachine}

/-!
## The sender
-/

/-- The sender of a port waits for the next call. -/
def Waits (m : PortAnnounceTransmitMachine) : Prop :=
  m.Quiescent ∧ m.state = .idle

/-- A call that ends without a fault leaves the sender waiting. -/
theorem waits_run (hruns : (m.run ts).vars.process.stop = none) :
    (m.run ts).Waits := by
  obtain ⟨hq, hsettled⟩ :=
    Program.run_settled (behaviour ts).program passes hruns
  have hnext : transition ts (m.run ts).state (m.run ts).vars =
      .ok (m.run ts).state := Behaviour.transition_goto.mp hsettled
  refine ⟨hq, ?_⟩
  cases hstate : (m.run ts).state with
  | idle => rfl
  | _ =>
      rw [hstate] at hnext
      cases hnext

/-- The sender of a settled master port waits for its timer. -/
structure Early (m : PortAnnounceTransmitMachine) (ts : UScaledNs) : Prop where
  waits : m.Waits
  runs : m.vars.process.stop = none
  started : m.vars.perPTPInstanceGlobal.BEGIN = false ∧
    m.vars.perPTPInstanceGlobal.instanceEnable = true
  master : m.vars.isMasterPort = true
  settled : m.vars.portSettled = true
  symmetric : m.vars.perPortGlobal.asymmetryMeasurementMode = false
  path : m.vars.perPTPInstanceGlobal.nPathTrace.toNat ≤ maxPathTraceN
  early : uscalednsCompare ts m.vars.announceSendTime < 0

theorem ready_of_started
    (h : m.vars.perPTPInstanceGlobal.BEGIN = false ∧
      m.vars.perPTPInstanceGlobal.instanceEnable = true) : m.ready = m := by
  have hnot : ¬ (m.vars.perPTPInstanceGlobal.BEGIN = true ∨
      m.vars.perPTPInstanceGlobal.instanceEnable = false) := by
    rintro (hbegin | hdisabled)
    · exact absurd (h.left.symm.trans hbegin) (by decide)
    · exact absurd (h.right.symm.trans hdisabled) (by decide)
  unfold ready allStateTransition
  rw [if_neg hnot]

theorem Early.transition_eq (h : m.Early ts) :
    transition ts m.state m.vars =
      .ok (if m.vars.newInfo = true then .transmitAnnounce else .idle) := by
  have hnot : ¬ (uscalednsCompare ts m.vars.announceSendTime ≥ 0 ∧
      m.vars.portSettled = true) :=
    fun hdue => absurd hdue.left (not_le.mpr h.early)
  rw [h.waits.right]
  refine congrArg Except.ok ((if_neg hnot).trans ?_)
  split
  case isTrue hnew => rw [if_pos hnew.left]
  case isFalse hnew =>
    rw [if_neg]
    exact fun hset =>
      hnew ⟨hset, h.master, h.early, h.settled, h.symmetric⟩

/-- Without information that is new to the sender, nothing happens. -/
theorem Early.run_unset (h : m.Early ts) (hnew : m.vars.newInfo = false) :
    m.run ts = m := by
  have hstay : transition ts m.state m.vars = .ok m.state := by
    rw [h.transition_eq, h.waits.right, hnew]
    rfl
  unfold run
  rw [ready_of_started h.started]
  exact Behaviour.run_rest 15 h.waits.left h.runs hstay

theorem sent_run (fuel : Nat) (m : PortAnnounceTransmitMachine) :
    m.vars.process.sent <+:
      ((behaviour ts).program.run fuel m).vars.process.sent := by
  refine Behaviour.run_preserves (behaviour ts)
    (I := fun sm => m.vars.process.sent <+: sm.process.sent)
    ?_ ?_ ?_ ?_ fuel (List.prefix_refl _)
  · intro state v v' h haction
    cases state with
    | transmitAnnounce =>
        obtain ⟨_, _, _, frame, hsent, _⟩ := transmitAnnounceAction_ok haction
        rw [hsent]
        exact h.trans (List.prefix_append _ _)
    | _ =>
        cases haction
        exact h
  · exact fun _ _ _ h _ => h
  · exact fun _ _ _ h _ => h
  · exact fun _ h => h

theorem exists_transmitAnnounceAction {sm : PortAnnounceTransmitSM}
    (h : sm.perPTPInstanceGlobal.nPathTrace.toNat ≤ maxPathTraceN) :
    exists sm', sm.transmitAnnounceAction = .ok sm' := by
  cases haction : sm.transmitAnnounceAction with
  | ok sm' => exact ⟨sm', rfl⟩
  | error f =>
      exfalso
      rcases bind_eq_error.mp haction with hset | ⟨_, _, hrest⟩
      · rcases bind_eq_error.mp hset with hcopy | ⟨_, _, hreturn⟩
        · have hlong := copyOctets_eq_error hcopy
          change 8 * 8 < sm.perPTPInstanceGlobal.nPathTrace.toNat * 8 at hlong
          change sm.perPTPInstanceGlobal.nPathTrace.toNat ≤ 8 at h
          omega
        · cases hreturn
      · rcases bind_eq_error.mp hrest with htx | ⟨_, _, hreturn⟩
        · rcases bind_eq_error.mp htx with hderef | ⟨_, _, hsend⟩
          · cases hderef
          · cases hsend
        · cases hreturn

/-- With information that is new to the sender, a message leaves first of all. -/
theorem Early.run_set (h : m.Early ts) (hnew : m.vars.newInfo = true) :
    exists frame, m.vars.process.sent ++ [frame] <+:
        (m.run ts).vars.process.sent ∧
      Carries m.vars.perPTPInstanceGlobal m.vars.perPortGlobal frame := by
  obtain ⟨sm, haction⟩ := exists_transmitAnnounceAction h.path
  obtain ⟨_, _, hstop, frame, hsent, hcarries⟩ :=
    transmitAnnounceAction_ok haction
  have hleave : transition ts m.state m.vars = .ok .transmitAnnounce := by
    rw [h.transition_eq, hnew]
    rfl
  have hne : m.state ≠ .transmitAnnounce := by
    rw [h.waits.right]
    decide
  have hq : ¬ Machine.Quiescent
      { state := PortAnnounceTransmitSMState.transmitAnnounce
        lastState := some m.state
        vars := m.vars } :=
    fun hq => hne (Option.some.inj hq)
  refine ⟨frame, ?_, hcarries⟩
  unfold run
  rw [ready_of_started h.started, show passes = 14 + 1 + 1 from rfl,
    Behaviour.run_leave 15 h.waits.left h.runs hleave hne,
    Behaviour.run_enter_leave 14 hq haction (hstop.trans h.runs) rfl
      (fun hsame => by cases hsame), ← hsent]
  exact sent_run 14 ⟨.idle, some .transmitAnnounce, sm⟩

end PortAnnounceTransmitMachine

namespace AnnounceLoop

variable {config : Config} {memory : LoopMemory} {l : AnnounceLoop}

/-!
## Runs
-/

/-- The senders of all ports wait for the next call. -/
structure Sending (config : Config) (l : AnnounceLoop) : Prop where
  informed : Informed config
    (sourceKnowledge config.systemIdentity.clockIdentity) l
  path : l.perPTPInstanceGlobal.nPathTrace.toNat ≤ maxPathTraceN
  waits : l.Runs -> forall i, (l.portAnnounceTransmitSms i).Waits

theorem Sending.runInformation (h : Sending config l) (hmode : ¬ l.External)
    {i : PortIndex} {ts : UScaledNs} (hl : l.Runs)
    (hruns : (l.runInformation i ts).Runs) :
    Sending config (l.runInformation i ts) := by
  have hinformed := h.informed.runInformation hmode hruns
  have hframe := PortAnnounceInformationMachine.callFrame_run
    (m := l.informationMachine i)
    (PortAnnounceInformationMachine.callFrame_refl _) ts
  unfold AnnounceLoop.runInformation at hinformed ⊢
  rw [if_neg hmode] at hinformed ⊢
  refine ⟨hinformed, ?_, fun _ => h.waits hl⟩
  exact hframe.trace.symm ▸ h.path

theorem Sending.recvAnnounce (h : Sending config l) (hmode : ¬ l.External)
    {i : PortIndex} {ts : UScaledNs} {message : PTPMsgAnnounce} (hl : l.Runs)
    (hruns : (l.recvAnnounce i ts message).Runs) :
    Sending config (l.recvAnnounce i ts message) := by
  have hinformed := h.informed.recvAnnounce hmode trivial hruns
  have hframe := PortAnnounceInformationMachine.callFrame_recvAnnounce
    (l.informationMachine i) ts message
  unfold AnnounceLoop.recvAnnounce at hinformed ⊢
  rw [if_neg hmode] at hinformed ⊢
  refine ⟨hinformed, ?_, fun _ => h.waits hl⟩
  exact hframe.trace.symm ▸ h.path

theorem waits_store (h : forall i, (l.portAnnounceTransmitSms i).Waits)
    {i : PortIndex} {m : PortAnnounceTransmitMachine} (hm : m.Waits)
    (j : PortIndex) :
    ((l.storePortAnnounceTransmit i m).portAnnounceTransmitSms j).Waits := by
  change (Function.update l.portAnnounceTransmitSms i m j).Waits
  by_cases hji : j = i
  · rw [hji, Function.update_self]
    exact hm
  · rw [Function.update_of_ne hji]
    exact h j

theorem Sending.runTransmit (h : Sending config l) (i : PortIndex)
    (ts : UScaledNs) (hl : l.Runs) : Sending config (l.runTransmit i ts) := by
  obtain ⟨hglobal, _⟩ := runTransmit_vars l i ts
  refine ⟨h.informed.runTransmit i ts, ?_, fun hruns => ?_⟩
  · rw [hglobal]
    exact h.path
  · exact waits_store (h.waits hl) (PortAnnounceTransmitMachine.waits_run hruns)

theorem Sending.runSelection (h : Sending config l) (hmode : ¬ l.External)
    (hruns : l.Runs) : Sending config l.runSelection := by
  have hinformed := h.informed.runSelection
    (electable_sourceKnowledge config.systemIdentity) hmode hruns
  unfold AnnounceLoop.runSelection at hinformed ⊢
  rw [if_neg hmode] at hinformed ⊢
  have hframe : PortStateSelectionMachine.CallFrame l.loadPortStateSelection
      (PortStateSelectionMachine.run l.selectionMachine).vars :=
    PortStateSelectionMachine.callFrame_run
      ⟨rfl, fun _ => rfl, fun h => h, rfl, fun h => h⟩
  exact ⟨hinformed, hframe.trace h.path, fun _ => h.waits hruns⟩

theorem keeping_sending
    (hmode : config.externalPortConfigurationEnabled = false) :
    Keeping (fun _ => True) (Sending config) where
  runInformation _ _ _ h hl hruns :=
    h.runInformation (h.informed.not_external hmode) hl hruns
  recvAnnounce _ _ _ _ _ h hl hruns :=
    h.recvAnnounce (h.informed.not_external hmode) hl hruns
  runTransmit _ i ts h hl := h.runTransmit i ts hl
  runSelection _ h hruns :=
    h.runSelection (h.informed.not_external hmode) hruns
  syncReceipt _ time h :=
    ⟨h.informed.setSyncReceiptTimeoutTime time, h.path, h.waits⟩

theorem portAnnounceTransmitSms_initPort (hmode : ¬ l.External)
    {i : PortIndex} (hruns : (l.initPort i).Runs) :
    exists m, (l.initPort i).portAnnounceTransmitSms =
        Function.update l.portAnnounceTransmitSms i m ∧ m.Waits := by
  unfold AnnounceLoop.initPort at hruns ⊢
  obtain ⟨hinformation, _⟩ := runs_of_thenDo hruns
  obtain ⟨hl, _⟩ := runs_of_thenDo hinformation
  rw [thenDo_runs hinformation, thenDo_runs hl] at hruns ⊢
  have hsms : (l.initInformation i).portAnnounceTransmitSms =
      l.portAnnounceTransmitSms := by
    unfold AnnounceLoop.initInformation
    rw [if_neg hmode]
    rfl
  unfold AnnounceLoop.initTransmit at hruns ⊢
  refine ⟨_, congrArg (fun sms => Function.update sms i _) hsms, ?_⟩
  exact PortAnnounceTransmitMachine.waits_run hruns

theorem sending_start (hmode : config.externalPortConfigurationEnabled = false)
    (hruns : (start config memory).Runs) :
    Sending config (start config memory) := by
  have hfirst := firstElection_sourceKnowledge config memory
  refine ⟨informed_start hfirst hmode hruns, ?_, fun _ => ?_⟩
  · exact ((keptInit_bounded config memory).start
      ⟨assigned_initial config memory,
        pathBounded_initial config memory⟩).right.trace
  · refine start_establishes
      (V := fun i l => (l.portAnnounceTransmitSms i).Waits)
      hfirst hmode ?_ ?_ hruns
    · intro l i h hruns
      obtain ⟨m, hsms, hm⟩ :=
        portAnnounceTransmitSms_initPort (h.not_external hmode) hruns
      rw [hsms, Function.update_self]
      exact hm
    · intro l i j h hij hi hruns
      obtain ⟨m, hsms, _⟩ :=
        portAnnounceTransmitSms_initPort (h.not_external hmode) hruns
      rw [hsms, Function.update_of_ne hij]
      exact hi

theorem sending_after (hmode : config.externalPortConfigurationEnabled = false)
    {es : List Event} (hruns : (after config memory es).Runs) :
    Sending config (after config memory es) :=
  (keeping_sending hmode).after (sending_start hmode)
    (fun e _ => by cases e <;> exact trivial) hruns

/-!
## New information
-/

/-- The sender of the port may send what the port is to announce. -/
structure Sendable (l : AnnounceLoop) (i : PortIndex) (ts : UScaledNs) :
    Prop where
  master : l.perPTPInstanceGlobal.selectedState i.succ = .masterPort
  selected : l.perPTPInstanceGlobal.selected i.succ = true
  updtInfo : (l.perPortGlobal i).updtInfo = false
  symmetric : (l.perPortGlobal i).asymmetryMeasurementMode = false
  early : uscalednsCompare ts
    (l.portAnnounceTransmitSms i).vars.announceSendTime < 0

/-- The next run of the sender starts with a message that carries the vector. -/
def Announces (l : AnnounceLoop) (i : PortIndex) (ts : UScaledNs)
    (p : PriorityVector) : Prop :=
  exists announce, l.process.sent ++
      [{ port := i.succ, message := .announce announce }] <+:
        (l.runTransmit i ts).process.sent ∧
    PortAnnounceInformationSM.messagePriorityOf p announce = p

theorem Sending.early (h : Sending config l) (hruns : l.Runs) {i : PortIndex}
    {ts : UScaledNs} (hi : l.Sendable i ts) :
    PortAnnounceTransmitMachine.Early
      { l.portAnnounceTransmitSms i with
        vars := l.loadPortAnnounceTransmit i } ts := by
  have hconfigured := h.informed.elected.configured
  have hport : (l.perPortGlobal i).thisPort = i.succ := hconfigured.thisPort i
  constructor
  case waits => exact h.waits hruns i
  case runs => exact hruns
  case started => exact hconfigured.started
  case master =>
    refine decide_eq_true ?_
    change l.perPTPInstanceGlobal.selectedState
      (l.perPortGlobal i).thisPort = .masterPort
    rw [hport]
    exact hi.master
  case settled =>
    refine decide_eq_true (Or.inl ⟨?_, hi.updtInfo⟩)
    change l.perPTPInstanceGlobal.selected (l.perPortGlobal i).thisPort = true
    rw [hport]
    exact hi.selected
  case symmetric => exact hi.symmetric
  case path => exact h.path
  case early => exact hi.early

theorem Sending.carries (h : Sending config l) {i : PortIndex} {frame : Frame}
    (hcarries : PortAnnounceTransmitMachine.Carries l.perPTPInstanceGlobal
      (l.perPortGlobal i) frame) :
    exists announce,
      frame = { port := i.succ, message := .announce announce } ∧
        PortAnnounceInformationSM.messagePriorityOf
            (l.perPortGlobal i).masterPriority announce =
          (l.perPortGlobal i).masterPriority := by
  obtain ⟨sequenceId, pathSequence, _, rfl⟩ := hcarries
  have helected := h.informed.elected
  have hport : (l.perPortGlobal i).thisPort = i.succ :=
    helected.configured.thisPort i
  refine ⟨PortAnnounceTransmitSM.announceOf l.perPTPInstanceGlobal
    (l.perPortGlobal i) sequenceId pathSequence, ?_, ?_⟩
  · rw [hport]
  · have hclock : l.perPTPInstanceGlobal.thisClock =
        (l.perPortGlobal i).masterPriority.sourcePortClockIdentity := by
      rw [helected.master i]
      exact helected.configured.thisClock
    have hnumber : portNumberOf (l.perPortGlobal i).thisPort =
        (l.perPortGlobal i).masterPriority.portNumber := by
      rw [helected.master i, hport]
      rfl
    have hsteps : l.perPTPInstanceGlobal.masterStepsRemoved =
        (l.perPortGlobal i).masterPriority.stepsRemoved := by
      rw [helected.master i]
      exact helected.steps
    unfold PortAnnounceInformationSM.messagePriorityOf
    change { (l.perPortGlobal i).masterPriority with
      stepsRemoved := l.perPTPInstanceGlobal.masterStepsRemoved
      sourcePortClockIdentity := l.perPTPInstanceGlobal.thisClock
      portNumber := portNumberOf (l.perPortGlobal i).thisPort } = _
    rw [hclock, hnumber, hsteps]

theorem Sending.announces_iff (h : Sending config l) (hruns : l.Runs)
    {i : PortIndex} {ts : UScaledNs} (hi : l.Sendable i ts) :
    l.Announces i ts (l.perPortGlobal i).masterPriority <->
      (l.portAnnounceTransmitSms i).vars.newInfo = true := by
  have hearly := h.early hruns hi
  constructor
  · rintro ⟨announce, hsent, _⟩
    by_contra hnew
    have hidle := hearly.run_unset (eq_false_of_ne_true hnew)
    have hsame : (l.runTransmit i ts).process.sent = l.process.sent :=
      congrArg (fun m => m.vars.process.sent) hidle
    rw [hsame] at hsent
    have hlength := hsent.length_le
    rw [List.length_append, List.length_singleton] at hlength
    omega
  · intro hnew
    obtain ⟨frame, hsent, hcarries⟩ := hearly.run_set hnew
    obtain ⟨announce, rfl, hvector⟩ := h.carries hcarries
    exact ⟨announce, hsent, hvector⟩

/-- The event leads the port through `PAI_UPDATE`. -/
def Updates (l : AnnounceLoop) (i : PortIndex) (e : Event) : Prop :=
  e.port = some i ∧ exists m ts, l.informationCall e = some (m, ts) ∧
    .update ∈ ((PortAnnounceInformationSM.behaviour ts).program.entries
      PortAnnounceInformationMachine.passes m.ready).map Prod.fst

/-- The loop once the event has called the machine for the information. -/
def informationDone (l : AnnounceLoop) : Event -> AnnounceLoop
  | .timeout i ts => l.thenDo (runInformation i ts)
  | .announce i ts message => l.thenDo (recvAnnounce i ts message)
  | .select => l
  | .syncReceipt _ => l

def framesBy (l : AnnounceLoop) (i : PortIndex) : List Frame :=
  l.process.sent.filter fun frame => frame.port = i.succ

/-- The port has been through `PAI_UPDATE` and has sent no message since. -/
def Notified (config : Config) (memory : LoopMemory) (es : List Event)
    (i : PortIndex) (l : AnnounceLoop) : Prop :=
  exists history e rest, es = history ++ e :: rest ∧
    (after config memory history).Updates i e ∧
    l.framesBy i = ((after config memory history).informationDone e).framesBy i

/-- The loop when an event calls the sender of a port. -/
def atTransmit (config : Config) (memory : LoopMemory) (es : List Event)
    (i : PortIndex) (ts : UScaledNs) : AnnounceLoop :=
  (after config memory es).informationDone (.timeout i ts)

/--
In every run of an instance in BMCA mode, the sender of a settled master port
announces what the port is to announce before its timer has run out if and only
if its own variable `newInfo` is set, whatever the port has taken up.
-/
theorem transmit_announces_iff (config : Config) (memory : LoopMemory)
    (es : List Event) (i : PortIndex) (ts : UScaledNs)
    (hmode : config.externalPortConfigurationEnabled = false)
    (hruns : (atTransmit config memory es i ts).Runs)
    (hi : (atTransmit config memory es i ts).Sendable i ts) :
    (atTransmit config memory es i ts).Announces i ts
        ((atTransmit config memory es i ts).perPortGlobal i).masterPriority <->
      ((atTransmit config memory es i ts).portAnnounceTransmitSms
        i).vars.newInfo = true := by
  obtain ⟨hl, hcall⟩ := runs_of_thenDo hruns
  have hsending : Sending config (atTransmit config memory es i ts) := by
    have hdone : atTransmit config memory es i ts =
        (after config memory es).runInformation i ts := thenDo_runs hl _
    rw [hdone]
    exact (keeping_sending hmode).runInformation _ i ts
      (sending_after hmode hl) hl hcall
  exact hsending.announces_iff hruns hi

/-- A better message that arrives at port 2 concerns port 1 as well. -/
def betterElsewhere : List Event :=
  [.syncReceipt distantTime, .select, .timeout 0 oneSecond,
    .timeout 1 oneSecond, .announce 1 oneSecond betterAnnounce]

theorem sendable_betterElsewhere :
    (atTransmit bmcaConfig default betterElsewhere 0 oneSecond).Sendable 0
      oneSecond := by
  constructor <;> decide +kernel

theorem transmit_announces_iff_betterElsewhere :
    (atTransmit bmcaConfig default betterElsewhere 0 oneSecond).Announces 0
        oneSecond
        ((atTransmit bmcaConfig default betterElsewhere 0
          oneSecond).perPortGlobal 0).masterPriority <->
      ((atTransmit bmcaConfig default betterElsewhere 0
        oneSecond).portAnnounceTransmitSms 0).vars.newInfo = true := by
  refine transmit_announces_iff bmcaConfig default betterElsewhere 0 oneSecond
    rfl ?_ sendable_betterElsewhere
  change (atTransmit bmcaConfig default betterElsewhere 0
    oneSecond).process.stop = none
  decide +kernel

/-- Port 1 takes up the better information, but its sender is not told. -/
theorem new_information_waits :
    ¬ forall (config : Config) (memory : LoopMemory) (es : List Event)
        (i : PortIndex) (ts : UScaledNs),
      config.externalPortConfigurationEnabled = false ->
        (atTransmit config memory es i ts).Runs ->
        Notified config memory (es ++ [.timeout i ts]) i
          (atTransmit config memory es i ts) ->
        (atTransmit config memory es i ts).Sendable i ts ->
          (atTransmit config memory es i ts).Announces i ts
            ((atTransmit config memory es i ts).perPortGlobal
              i).masterPriority := by
  intro h
  have hruns : (atTransmit bmcaConfig default betterElsewhere 0
      oneSecond).process.stop = none := by
    decide +kernel
  have hl : (after bmcaConfig default betterElsewhere).process.stop = none := by
    decide +kernel
  have hnotified : Notified bmcaConfig default
      (betterElsewhere ++ [.timeout 0 oneSecond]) 0
      (atTransmit bmcaConfig default betterElsewhere 0 oneSecond) := by
    refine ⟨betterElsewhere, .timeout 0 oneSecond, [], rfl, ⟨rfl, _, _,
      informationCall_timeout hl 0 oneSecond, ?_⟩, rfl⟩
    decide +kernel
  obtain ⟨announce, hsent, _⟩ := h bmcaConfig default betterElsewhere 0
    oneSecond rfl hruns hnotified sendable_betterElsewhere
  have hlength : ((atTransmit bmcaConfig default betterElsewhere 0
        oneSecond).runTransmit 0 oneSecond).process.sent.length =
      (atTransmit bmcaConfig default betterElsewhere 0
        oneSecond).process.sent.length := by
    decide +kernel
  have hlonger := hsent.length_le
  rw [List.length_append, List.length_singleton, hlength] at hlonger
  omega

end AnnounceLoop

end TimeSync
end Ziggo
