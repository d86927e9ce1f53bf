import Ziggo.TimeSync.AnnounceLoop
import Ziggo.TimeSync.PortStateSelectionSM.Election

/-!
# What the machines leave unchanged

For each machine that handles `Announce` messages: the shared variables that
its actions do not write, and the circumstances in which they fail.
-/

namespace Ziggo
namespace TimeSync

open Foundation TsnDrivers

/-!
## Reception in BMCA mode
-/

namespace PortAnnounceInformationSM

structure ActionFrame (sm sm' : PortAnnounceInformationSM) : Prop where
  global : instanceSettings sm'.perPTPInstanceGlobal =
    instanceSettings sm.perPTPInstanceGlobal
  port : portSettings sm'.perPortGlobal = portSettings sm.perPortGlobal
  trace : sm'.perPTPInstanceGlobal.nPathTrace =
    sm.perPTPInstanceGlobal.nPathTrace
  process : sm'.process = sm.process
  pointer : sm'.rcvdAnnouncePtr = sm.rcvdAnnouncePtr ∨
    sm'.rcvdAnnouncePtr = .null

theorem ActionFrame.refl (sm : PortAnnounceInformationSM) : ActionFrame sm sm :=
  ⟨rfl, rfl, rfl, rfl, Or.inl rfl⟩

theorem frame_recordOtherAnnounceInfo {sm sm' : PortAnnounceInformationSM}
    {announce : PTPMsgAnnounce}
    (h : sm.recordOtherAnnounceInfo announce = .ok sm') : ActionFrame sm sm' := by
  obtain ⟨_, _, hreturn⟩ := bind_eq_ok.mp h
  cases hreturn
  exact ⟨rfl, rfl, rfl, rfl, Or.inl rfl⟩

theorem frame_action {ts : UScaledNs} {state : PortAnnounceInformationSMState}
    {sm sm' : PortAnnounceInformationSM} (h : action ts state sm = .ok sm') :
    ActionFrame sm sm' := by
  cases state with
  | init =>
      cases h
      exact ActionFrame.refl sm
  | disabled =>
      cases h
      exact ⟨rfl, rfl, rfl, rfl, Or.inl rfl⟩
  | aged =>
      cases h
      exact ⟨rfl, rfl, rfl, rfl, Or.inl rfl⟩
  | update =>
      cases h
      exact ⟨rfl, rfl, rfl, rfl, Or.inl rfl⟩
  | current =>
      cases h
      exact ActionFrame.refl sm
  | receive =>
      obtain ⟨_, _, hreturn⟩ := bind_eq_ok.mp h
      cases hreturn
      exact ⟨rfl, rfl, rfl, rfl, Or.inl rfl⟩
  | inferiorMasterOrOtherPort =>
      cases h
      exact ⟨rfl, rfl, rfl, rfl, Or.inr rfl⟩
  | repeatedMasterPort =>
      obtain ⟨_, _, hrest⟩ := bind_eq_ok.mp h
      obtain ⟨_, hrecord, hreturn⟩ := bind_eq_ok.mp hrest
      cases hreturn
      obtain ⟨hglobal, hport, htrace, hprocess, _⟩ :=
        frame_recordOtherAnnounceInfo hrecord
      exact ⟨hglobal, hport, htrace, hprocess, Or.inr rfl⟩
  | superiorMasterPort =>
      obtain ⟨_, _, hrest⟩ := bind_eq_ok.mp h
      obtain ⟨_, hrecord, hrest⟩ := bind_eq_ok.mp hrest
      obtain ⟨_, _, hrest⟩ := bind_eq_ok.mp hrest
      obtain ⟨_, _, hreturn⟩ := bind_eq_ok.mp hrest
      cases hreturn
      obtain ⟨hglobal, hport, htrace, hprocess, _⟩ :=
        frame_recordOtherAnnounceInfo hrecord
      exact ⟨hglobal, hport, htrace, hprocess, Or.inr rfl⟩

/-- The message behind the pointer has a path trace that fits its array. -/
def PathFits (sm : PortAnnounceInformationSM) : Prop :=
  forall announce, sm.rcvdAnnouncePtr = .live announce ->
    announce.pathTraceTLV.lengthField.toNat ≤ 64

theorem error_recordOtherAnnounceInfo {sm : PortAnnounceInformationSM}
    {announce : PTPMsgAnnounce} {f : Fault}
    (h : sm.recordOtherAnnounceInfo announce = .error f) :
    64 < announce.pathTraceTLV.lengthField.toNat := by
  rcases bind_eq_error.mp h with hcopy | ⟨_, _, hreturn⟩
  · exact copyOctets_eq_error hcopy
  · cases hreturn

theorem timeoutInterval_eq_error {timeout : UInt16} {logInterval : Int8}
    {f : Fault} (h : timeoutInterval timeout logInterval = .error f) :
    f = .overflow := by
  unfold timeoutInterval at h
  split at h
  · cases h
  · cases h
    rfl

theorem action_inBounds {ts : UScaledNs} {state : PortAnnounceInformationSMState}
    {sm : PortAnnounceInformationSM} {f : Fault} (hfits : sm.PathFits)
    (h : action ts state sm = .error f) : f ≠ .outOfBounds := by
  have hderef : forall {f : Fault}, sm.rcvdAnnouncePtr.deref = .error f ->
      f ≠ .outOfBounds := by
    intro f hf
    rw [Ptr.deref_eq_error hf]
    decide
  have hrecord : forall {sm₁ : PortAnnounceInformationSM}
      {announce : PTPMsgAnnounce}, sm.rcvdAnnouncePtr.deref = .ok announce ->
      sm₁.recordOtherAnnounceInfo announce ≠ .error f := by
    intro sm₁ announce hlive herror
    have hlong := error_recordOtherAnnounceInfo herror
    have hshort := hfits announce (Ptr.deref_eq_ok.mp hlive)
    omega
  have htimeout : forall {timeout : UInt16} {logInterval : Int8},
      timeoutInterval timeout logInterval = .error f -> f ≠ .outOfBounds := by
    intro timeout logInterval hf
    rw [timeoutInterval_eq_error hf]
    decide
  cases state with
  | init => cases h
  | disabled => cases h
  | aged => cases h
  | update => cases h
  | current => cases h
  | inferiorMasterOrOtherPort => cases h
  | receive =>
      rcases bind_eq_error.mp h with hf | ⟨_, _, hreturn⟩
      · exact hderef hf
      · cases hreturn
  | repeatedMasterPort =>
      rcases bind_eq_error.mp h with hf | ⟨_, hlive, hrest⟩
      · exact hderef hf
      · rcases bind_eq_error.mp hrest with hf | ⟨_, _, hreturn⟩
        · exact absurd hf (hrecord hlive)
        · cases hreturn
  | superiorMasterPort =>
      rcases bind_eq_error.mp h with hf | ⟨_, hlive, hrest⟩
      · exact hderef hf
      · rcases bind_eq_error.mp hrest with hf | ⟨_, _, hrest⟩
        · exact absurd hf (hrecord hlive)
        · rcases bind_eq_error.mp hrest with hf | ⟨_, _, hrest⟩
          · exact htimeout hf
          · rcases bind_eq_error.mp hrest with hf | ⟨_, _, hreturn⟩
            · exact htimeout hf
            · cases hreturn

end PortAnnounceInformationSM

namespace PortAnnounceInformationMachine

open PortAnnounceInformationSM

/--
What a call leaves unchanged.  Under the condition `Fits` on its input, the path
behind the pointer fits its array and the call stays within the bounds.
-/
structure CallFrame (Fits : Prop) (sm sm' : PortAnnounceInformationSM) :
    Prop where
  global : instanceSettings sm'.perPTPInstanceGlobal =
    instanceSettings sm.perPTPInstanceGlobal
  port : portSettings sm'.perPortGlobal = portSettings sm.perPortGlobal
  trace : sm'.perPTPInstanceGlobal.nPathTrace =
    sm.perPTPInstanceGlobal.nPathTrace
  sent : sm'.process.sent = sm.process.sent
  pathFits : Fits -> sm'.PathFits
  inBounds : Fits -> sm.process.stop ≠ some .outOfBounds ->
    sm'.process.stop ≠ some .outOfBounds

variable {Fits : Prop} {sm sm' sm'' : PortAnnounceInformationSM}

theorem CallFrame.action (h : CallFrame Fits sm sm')
    (hframe : ActionFrame sm' sm'') : CallFrame Fits sm sm'' where
  global := hframe.global.trans h.global
  port := hframe.port.trans h.port
  trace := hframe.trace.trans h.trace
  sent := by rw [hframe.process, h.sent]
  pathFits hfits := by
    intro announce hlive
    rcases hframe.pointer with hpointer | hpointer
    · exact h.pathFits hfits announce (hpointer.symm.trans hlive)
    · rw [hpointer] at hlive
      cases hlive
  inBounds := by
    rw [hframe.process]
    exact h.inBounds

theorem CallFrame.halt (h : CallFrame Fits sm sm') {f : Fault}
    (hf : sm'.PathFits -> f ≠ .outOfBounds) :
    CallFrame Fits sm (sm'.halt f) where
  global := h.global
  port := h.port
  trace := h.trace
  sent := h.sent
  pathFits := h.pathFits
  inBounds hfits _ hstop := hf (h.pathFits hfits) (Option.some.inj hstop)

theorem callFrame_run {m : PortAnnounceInformationMachine}
    (h : CallFrame Fits sm m.vars) (ts : UScaledNs) :
    CallFrame Fits sm (run m ts).vars := by
  refine Behaviour.run_preserves (behaviour ts) (I := CallFrame Fits sm)
    ?_ ?_ ?_ ?_ passes h
  · intro state v v' h haction
    exact h.action (frame_action haction)
  · intro state v f h hfail
    exact h.halt fun hfits => action_inBounds hfits hfail
  · intro state v f _ hstuck
    cases state <;> cases hstuck
  · intro v h
    exact h.halt fun _ => by decide

theorem callFrame_refl (sm : PortAnnounceInformationSM) :
    CallFrame sm.PathFits sm sm :=
  ⟨rfl, rfl, rfl, rfl, fun h => h, fun _ h => h⟩

theorem callFrame_recvAnnounce (m : PortAnnounceInformationMachine)
    (ts : UScaledNs) (announce : PTPMsgAnnounce) :
    CallFrame (announce.pathTraceTLV.lengthField.toNat ≤ 64) m.vars
      (recvAnnounce m ts announce).vars := by
  unfold recvAnnounce
  cases hstore : m.vars.storeAnnounce announce with
  | error f =>
      rcases bind_eq_error.mp hstore with hfree | ⟨_, _, hreturn⟩
      · obtain ⟨hreleased, rfl⟩ := Ptr.free_eq_error hfree
        refine ⟨rfl, rfl, rfl, rfl, ?_, ?_⟩
        · intro _ announce' hlive
          cases hreleased.symm.trans hlive
        · intro _ _ hstop
          cases hstop
      · cases hreturn
  | ok v =>
      obtain ⟨_, _, hreturn⟩ := bind_eq_ok.mp hstore
      refine callFrame_run (m := { m with vars := v }) ?_ ts
      cases hreturn
      refine ⟨rfl, rfl, rfl, rfl, ?_, fun _ h => h⟩
      intro hfits announce' hlive
      cases hlive
      exact hfits

theorem callFrame_init (memory : PortAnnounceInformationSM) :
    CallFrame True memory (initPortAnnounceInformationSm memory).vars := by
  have hnull : CallFrame True memory { memory with rcvdAnnouncePtr := .null } := by
    refine ⟨rfl, rfl, rfl, rfl, ?_, fun _ h => h⟩
    intro _ announce hlive
    cases hlive
  unfold initPortAnnounceInformationSm
  exact callFrame_run hnull _

end PortAnnounceInformationMachine

/-!
## Transmission
-/

namespace PortAnnounceTransmitMachine

open PortAnnounceTransmitSM

/-- The frame carries the information that is to be sent on the port. -/
def Carries (g : PerPTPInstanceGlobal) (port : PerPortGlobal) (frame : Frame) :
    Prop :=
  exists sequenceId pathSequence,
    copyOctets (g.nPathTrace.toNat * 8) g.pathTrace (fun _ _ => 0) =
        .ok pathSequence ∧
      frame =
        { port := port.thisPort
          message := .announce (announceOf g port sequenceId pathSequence) }

/-- A call sends the information of the port and changes no shared variable. -/
structure CallFrame (sm sm' : PortAnnounceTransmitSM) : Prop where
  global : sm'.perPTPInstanceGlobal = sm.perPTPInstanceGlobal
  port : sm'.perPortGlobal = sm.perPortGlobal
  sent : exists frames, sm'.process.sent = sm.process.sent ++ frames ∧
    forall frame, frame ∈ frames ->
      Carries sm.perPTPInstanceGlobal sm.perPortGlobal frame
  inBounds : sm.perPTPInstanceGlobal.nPathTrace.toNat ≤ maxPathTraceN ->
    sm.process.stop ≠ some .outOfBounds -> sm'.process.stop ≠ some .outOfBounds

variable {sm sm' sm'' : PortAnnounceTransmitSM}

theorem CallFrame.halt (h : CallFrame sm sm') {f : Fault}
    (hf : sm'.perPTPInstanceGlobal.nPathTrace.toNat ≤ maxPathTraceN ->
      f ≠ .outOfBounds) : CallFrame sm (sm'.halt f) where
  global := h.global
  port := h.port
  sent := h.sent
  inBounds hbound _ hstop := by
    rw [← h.global] at hbound
    exact hf hbound (Option.some.inj hstop)

theorem transmitAnnounceAction_ok (h : sm.transmitAnnounceAction = .ok sm') :
    sm'.perPTPInstanceGlobal = sm.perPTPInstanceGlobal ∧
      sm'.perPortGlobal = sm.perPortGlobal ∧
      sm'.process.stop = sm.process.stop ∧
      exists frame, sm'.process.sent = sm.process.sent ++ [frame] ∧
        Carries sm.perPTPInstanceGlobal sm.perPortGlobal frame := by
  obtain ⟨announce, hset, hrest⟩ := bind_eq_ok.mp h
  obtain ⟨sent, htx, hreturn⟩ := bind_eq_ok.mp hrest
  cases hreturn
  obtain ⟨_, hlive, hsend⟩ := bind_eq_ok.mp htx
  cases hlive
  cases hsend
  obtain ⟨pathSequence, hcopy, hannounce⟩ := bind_eq_ok.mp hset
  cases hannounce
  exact ⟨rfl, rfl, rfl, _, rfl, sm.sequenceId, pathSequence, hcopy, rfl⟩

theorem transmitAnnounceAction_inBounds {f : Fault}
    (hbound : sm.perPTPInstanceGlobal.nPathTrace.toNat ≤ maxPathTraceN)
    (h : sm.transmitAnnounceAction = .error f) : f ≠ .outOfBounds := by
  rcases bind_eq_error.mp h with hset | ⟨_, _, hrest⟩
  · rcases bind_eq_error.mp hset with hcopy | ⟨_, _, hreturn⟩
    · have hlong := copyOctets_eq_error hcopy
      change 8 * 8 < sm.perPTPInstanceGlobal.nPathTrace.toNat * 8 at hlong
      change sm.perPTPInstanceGlobal.nPathTrace.toNat ≤ 8 at hbound
      omega
    · cases hreturn
  · rcases bind_eq_error.mp hrest with htx | ⟨_, _, hreturn⟩
    · rcases bind_eq_error.mp htx with hderef | ⟨_, _, hsend⟩
      · cases hderef
      · cases hsend
    · cases hreturn

theorem CallFrame.unchanged (h : CallFrame sm sm')
    (hglobal : sm''.perPTPInstanceGlobal = sm'.perPTPInstanceGlobal)
    (hport : sm''.perPortGlobal = sm'.perPortGlobal)
    (hsent : sm''.process.sent = sm'.process.sent)
    (hstop : sm''.process.stop = sm'.process.stop) : CallFrame sm sm'' where
  global := hglobal.trans h.global
  port := hport.trans h.port
  sent := by
    rw [hsent]
    exact h.sent
  inBounds := by
    rw [hstop]
    exact h.inBounds

theorem CallFrame.action {ts : UScaledNs} {state : PortAnnounceTransmitSMState}
    (h : CallFrame sm sm') (haction : action ts state sm' = .ok sm'') :
    CallFrame sm sm'' := by
  cases state with
  | init =>
      cases haction
      exact h
  | transmitInit =>
      cases haction
      exact h.unchanged rfl rfl rfl rfl
  | transmitPeriodic =>
      cases haction
      exact h.unchanged rfl rfl rfl rfl
  | idle =>
      cases haction
      exact h.unchanged rfl rfl rfl rfl
  | transmitAnnounce =>
      obtain ⟨hglobal, hport, hstop, frame, hsent, hcarries⟩ :=
        transmitAnnounceAction_ok haction
      rw [h.global, h.port] at hcarries
      obtain ⟨frames, hframes, hall⟩ := h.sent
      constructor
      case global => exact hglobal.trans h.global
      case port => exact hport.trans h.port
      case sent =>
        refine ⟨frames ++ [frame], ?_, ?_⟩
        · rw [hsent, hframes, List.append_assoc]
        · intro frame' hmem
          rcases List.mem_append.mp hmem with hmem | hmem
          · exact hall frame' hmem
          · rw [List.mem_singleton.mp hmem]
            exact hcarries
      case inBounds =>
        rw [hstop]
        exact h.inBounds

theorem callFrame_run {m : PortAnnounceTransmitMachine}
    (h : CallFrame sm m.vars) (ts : UScaledNs) :
    CallFrame sm (run m ts).vars := by
  refine Behaviour.run_preserves (behaviour ts) (I := CallFrame sm)
    ?_ ?_ ?_ ?_ passes h
  · intro state v v' h haction
    exact h.action haction
  · intro state v f h hfail
    refine h.halt fun hbound => ?_
    cases state with
    | init => cases hfail
    | transmitInit => cases hfail
    | transmitPeriodic => cases hfail
    | idle => cases hfail
    | transmitAnnounce => exact transmitAnnounceAction_inBounds hbound hfail
  · intro state v f _ hstuck
    cases state <;> cases hstuck
  · intro v h
    exact h.halt fun _ => by decide

theorem callFrame_refl (sm : PortAnnounceTransmitSM) : CallFrame sm sm :=
  ⟨rfl, rfl, ⟨[], (List.append_nil _).symm, by simp⟩, fun _ h => h⟩

theorem callFrame_init (memory : PortAnnounceTransmitSM) :
    CallFrame memory (initPortAnnounceTransmitSm memory).vars := by
  unfold initPortAnnounceTransmitSm
  refine callFrame_run ?_ _
  exact (callFrame_refl memory).unchanged rfl rfl rfl rfl

end PortAnnounceTransmitMachine

/-!
## Reception under external port configuration
-/

namespace PortAnnounceInformationExtSM

/-- The message behind the pointer leaves room for the clock of the instance. -/
def PathFits (sm : PortAnnounceInformationExtSM) : Prop :=
  forall announce, sm.rcvdAnnouncePtr = .live announce ->
    sm.isSlavePort = true -> announce.pathCount < maxPathTraceN

theorem tracePath_eq_ok {g g' : PerPTPInstanceGlobal}
    {announce : PTPMsgAnnounce} (h : tracePath g announce = .ok g') :
    announce.pathCount < maxPathTraceN ∧
      g' =
        { g with
          pathTrace := fun i =>
            if i.val < announce.pathCount then
              announce.pathTraceTLV.pathSequence i
            else if i.val = announce.pathCount then g.thisClock
            else g.pathTrace i
          nPathTrace := UInt16.ofNat (announce.pathCount + 1) } := by
  unfold tracePath at h
  dsimp only at h
  split at h
  case isTrue hcount =>
    cases h
    exact ⟨hcount, rfl⟩
  · cases h

theorem tracePath_eq_error {g : PerPTPInstanceGlobal}
    {announce : PTPMsgAnnounce} {f : Fault}
    (h : tracePath g announce = .error f) :
    maxPathTraceN ≤ announce.pathCount := by
  unfold tracePath at h
  dsimp only at h
  split at h
  · cases h
  case isFalse hcount => exact not_lt.mp hcount

end PortAnnounceInformationExtSM

namespace PortAnnounceInformationExtMachine

open PortAnnounceInformationExtSM

/--
What a call leaves unchanged.  Under the condition `Fits` on its input, the path
behind the pointer fits and the call stays within the bounds.
-/
structure CallFrame (Fits : Prop) (sm sm' : PortAnnounceInformationExtSM) :
    Prop where
  global : instanceSettings sm'.perPTPInstanceGlobal =
    instanceSettings sm.perPTPInstanceGlobal
  selectedState : sm'.perPTPInstanceGlobal.selectedState =
    sm.perPTPInstanceGlobal.selectedState
  masterStepsRemoved : sm'.perPTPInstanceGlobal.masterStepsRemoved =
    sm.perPTPInstanceGlobal.masterStepsRemoved
  port : sm'.perPortGlobal = sm.perPortGlobal
  trace : sm.perPTPInstanceGlobal.nPathTrace.toNat ≤ maxPathTraceN ->
    sm'.perPTPInstanceGlobal.nPathTrace.toNat ≤ maxPathTraceN
  sent : sm'.process.sent = sm.process.sent
  pathFits : Fits -> sm'.PathFits
  inBounds : Fits -> sm.process.stop ≠ some .outOfBounds ->
    sm'.process.stop ≠ some .outOfBounds

variable {Fits : Prop} {sm sm' sm'' : PortAnnounceInformationExtSM}

theorem CallFrame.halt (h : CallFrame Fits sm sm') {f : Fault}
    (hf : sm'.PathFits -> f ≠ .outOfBounds) :
    CallFrame Fits sm (sm'.halt f) where
  global := h.global
  selectedState := h.selectedState
  masterStepsRemoved := h.masterStepsRemoved
  port := h.port
  trace := h.trace
  sent := h.sent
  pathFits := h.pathFits
  inBounds hfits _ hstop := hf (h.pathFits hfits) (Option.some.inj hstop)

theorem CallFrame.clearFlag (h : CallFrame Fits sm sm') :
    CallFrame Fits sm { sm' with rcvdAnnouncePAIE := false } :=
  ⟨h.global, h.selectedState, h.masterStepsRemoved, h.port, h.trace, h.sent,
    h.pathFits, h.inBounds⟩

theorem receiveAction_slave (hslave : sm.isSlavePort = true)
    (h : sm.receiveAction = .ok sm') :
    exists announce g, sm.rcvdAnnouncePtr = .live announce ∧
      rcvInfoExt sm.perPTPInstanceGlobal announce = .ok g ∧
      sm' =
        { sm with
          perPTPInstanceGlobal := recordOtherAnnounceInfo g announce
          rcvdAnnouncePAIE := false } := by
  unfold receiveAction at h
  rw [if_pos hslave] at h
  obtain ⟨announce, hlive, hrest⟩ := bind_eq_ok.mp h
  obtain ⟨g, hrcv, hreturn⟩ := bind_eq_ok.mp hrest
  cases hreturn
  exact ⟨announce, g, Ptr.deref_eq_ok.mp hlive, hrcv, rfl⟩

theorem receiveAction_other (hslave : sm.isSlavePort = false) :
    sm.receiveAction = .ok { sm with rcvdAnnouncePAIE := false } := by
  unfold receiveAction
  rw [if_neg (by simp [hslave])]

theorem CallFrame.action {state : PortAnnounceInformationExtSMState}
    (h : CallFrame Fits sm sm') (haction : action state sm' = .ok sm'') :
    CallFrame Fits sm sm'' := by
  cases state with
  | init =>
      cases haction
      exact h
  | initializing =>
      cases haction
      exact h.clearFlag
  | receive =>
      cases hslave : sm'.isSlavePort with
      | false =>
          have hother := receiveAction_other hslave
          cases haction.symm.trans hother
          exact h.clearFlag
      | true =>
          obtain ⟨announce, g, _, hrcv, rfl⟩ := receiveAction_slave hslave haction
          obtain ⟨hcount, rfl⟩ := tracePath_eq_ok hrcv
          refine ⟨h.global, h.selectedState, h.masterStepsRemoved, h.port, ?_,
            h.sent, h.pathFits, h.inBounds⟩
          intro _
          change (UInt16.ofNat (announce.pathCount + 1)).toNat ≤ 8
          change announce.pathCount < 8 at hcount
          rw [UInt16.toNat_ofNat_of_lt' (by
            change announce.pathCount + 1 < 65536
            omega)]
          omega

theorem action_inBounds {state : PortAnnounceInformationExtSMState} {f : Fault}
    (hfits : sm.PathFits) (h : action state sm = .error f) :
    f ≠ .outOfBounds := by
  cases state with
  | init => cases h
  | initializing => cases h
  | receive =>
      cases hslave : sm.isSlavePort with
      | false =>
          cases h.symm.trans (receiveAction_other hslave)
      | true =>
          change sm.receiveAction = .error f at h
          unfold receiveAction at h
          rw [if_pos hslave] at h
          rcases bind_eq_error.mp h with hderef | ⟨announce, hlive, hrest⟩
          · rw [Ptr.deref_eq_error hderef]
            decide
          · rcases bind_eq_error.mp hrest with hrcv | ⟨_, _, hreturn⟩
            · have hlong := tracePath_eq_error hrcv
              have hshort := hfits announce (Ptr.deref_eq_ok.mp hlive) hslave
              omega
            · cases hreturn

theorem callFrame_run {m : PortAnnounceInformationExtMachine}
    (h : CallFrame Fits sm m.vars) : CallFrame Fits sm (run m).vars := by
  refine Program.run_preserves program (I := CallFrame Fits sm) ?_ ?_ ?_
    passes h
  · intro state v h
    exact attempt_preserves (fun v' hok => h.action hok)
      (fun f hfail => h.halt fun hfits => action_inBounds hfits hfail)
  · intro state v f _ hstuck
    cases state <;> cases hstuck
  · intro v h
    exact h.halt fun _ => by decide

theorem callFrame_recvAnnounce (m : PortAnnounceInformationExtMachine)
    (announce : PTPMsgAnnounce) :
    CallFrame
      (m.vars.isSlavePort = true -> announce.pathCount < maxPathTraceN) m.vars
      (recvAnnounce m announce).vars := by
  unfold recvAnnounce
  cases hstore : m.vars.storeAnnounce announce with
  | error f =>
      rcases bind_eq_error.mp hstore with hfree | ⟨_, _, hreturn⟩
      · obtain ⟨hreleased, rfl⟩ := Ptr.free_eq_error hfree
        refine ⟨rfl, rfl, rfl, rfl, fun h => h, rfl, ?_, ?_⟩
        · intro _ announce' hlive
          cases hreleased.symm.trans hlive
        · intro _ _ hstop
          cases hstop
      · cases hreturn
  | ok v =>
      obtain ⟨_, _, hreturn⟩ := bind_eq_ok.mp hstore
      refine callFrame_run (m := { m with vars := v }) ?_
      cases hreturn
      refine ⟨rfl, rfl, rfl, rfl, fun h => h, rfl, ?_, fun _ h => h⟩
      intro hfits announce' hlive hslave
      cases hlive
      exact hfits hslave

theorem callFrame_init (memory : PortAnnounceInformationExtSM) :
    CallFrame True memory (initPortAnnounceInformationExtSm memory).vars := by
  unfold initPortAnnounceInformationExtSm
  refine callFrame_run ?_
  refine ⟨rfl, rfl, rfl, rfl, fun h => h, rfl, ?_, fun _ h => h⟩
  intro _ announce hlive
  cases hlive

end PortAnnounceInformationExtMachine

/-!
## Selection
-/

namespace PortStateSelectionMachine

open PortStateSelectionSM

/-- What a call leaves unchanged.  No call leaves the bounds of an array. -/
structure CallFrame (sm sm' : PortStateSelectionSM) : Prop where
  global : instanceSettings sm'.perPTPInstanceGlobal =
    instanceSettings sm.perPTPInstanceGlobal
  port : forall i, portSettings (sm'.perPortGlobalArray i) =
    portSettings (sm.perPortGlobalArray i)
  trace : sm.perPTPInstanceGlobal.nPathTrace.toNat ≤ maxPathTraceN ->
    sm'.perPTPInstanceGlobal.nPathTrace.toNat ≤ maxPathTraceN
  sent : sm'.process.sent = sm.process.sent
  inBounds : sm.process.stop ≠ some .outOfBounds ->
    sm'.process.stop ≠ some .outOfBounds

theorem nPathTrace_tracePath (g : PerPTPInstanceGlobal) (port : PerPortGlobal) :
    (tracePath g port).nPathTrace.toNat ≤ maxPathTraceN := by
  unfold tracePath
  dsimp only
  split
  case isTrue hcount =>
    change (UInt16.ofNat _).toNat ≤ 8
    change min port.annPathSequenceCount.toNat 8 + 1 ≤ 8 at hcount
    rw [UInt16.toNat_ofNat_of_lt' (by
      change min port.annPathSequenceCount.toNat 8 + 1 < 65536
      omega)]
    exact hcount
  · change (0 : UInt16).toNat ≤ 8
    decide

theorem nPathTrace_updtStatesTree (g : PerPTPInstanceGlobal)
    (ports : PerPortGlobalArray) (h : g.nPathTrace.toNat ≤ maxPathTraceN) :
    (updtStatesTree g ports).1.nPathTrace.toNat ≤ maxPathTraceN := by
  have hchoose : (chooseGrandmaster g ports).nPathTrace = g.nPathTrace := by
    have hport : forall (g : PerPTPInstanceGlobal) (port : PerPortGlobal),
        (choosePort g port).nPathTrace = g.nPathTrace := by
      intro g port
      unfold choosePort
      split <;> rfl
    exact foldl_keeps hport (List.ofFn ports) (chooseSystem g)
  have hupdate : forall (paths : PortIndex -> PriorityVector)
      (s : PerPTPInstanceGlobal × PerPortGlobalArray) (i : PortIndex),
      s.1.nPathTrace.toNat ≤ maxPathTraceN ->
        (updatePort paths s i).1.nPathTrace.toNat ≤ maxPathTraceN := by
    intro paths s i hs
    unfold updatePort portStateUpdate
    dsimp only
    split
    · exact nPathTrace_tracePath _ _
    · exact hs
  have hconclude : forall g : PerPTPInstanceGlobal,
      g.nPathTrace.toNat ≤ maxPathTraceN ->
        (concludeSelection g).nPathTrace.toNat ≤ maxPathTraceN := by
    intro g hg
    unfold concludeSelection
    dsimp only
    split
    · change (1 : UInt16).toNat ≤ 8
      decide
    · exact hg
  unfold updtStatesTree
  refine hconclude _ (foldl_preserves
    (I := fun s : PerPTPInstanceGlobal × PerPortGlobalArray =>
      s.1.nPathTrace.toNat ≤ maxPathTraceN)
    (hupdate _) (List.finRange nPorts) ?_)
  change (chooseGrandmaster g ports).nPathTrace.toNat ≤ maxPathTraceN
  rw [hchoose]
  exact h

theorem nPathTrace_stateSelectionAction (sm : PortStateSelectionSM)
    (h : sm.perPTPInstanceGlobal.nPathTrace.toNat ≤ maxPathTraceN) :
    sm.stateSelectionAction.perPTPInstanceGlobal.nPathTrace.toNat ≤
      maxPathTraceN := by
  have hbound := nPathTrace_updtStatesTree
    (clearReselectTree sm.perPTPInstanceGlobal) sm.perPortGlobalArray h
  unfold stateSelectionAction
  generalize updtStatesTree _ _ = updated at hbound ⊢
  exact hbound

variable {sm sm' : PortStateSelectionSM}

theorem CallFrame.halt (h : CallFrame sm sm') {f : Fault}
    (hf : f ≠ .outOfBounds) : CallFrame sm (sm'.halt f) where
  global := h.global
  port := h.port
  trace := h.trace
  sent := h.sent
  inBounds _ hstop := hf (Option.some.inj hstop)

theorem CallFrame.action (h : CallFrame sm sm')
    (state : PortStateSelectionSMState) : CallFrame sm (action state sm') := by
  cases state with
  | init =>
      exact h
  | initBridge =>
      exact ⟨h.global, h.port, fun _ => by change 1 ≤ 8; decide, h.sent,
        h.inBounds⟩
  | stateSelection =>
      have hprocess : sm'.stateSelectionAction.process = sm'.process := rfl
      constructor
      case global =>
        have hglobal :=
          settings_of_unselected (stateSelectionAction_global sm')
        exact hglobal.trans h.global
      case port =>
        intro i
        exact (stateSelectionAction_port sm' i).trans (h.port i)
      case trace =>
        intro hbound
        exact nPathTrace_stateSelectionAction sm' (h.trace hbound)
      case sent =>
        exact (congrArg Process.sent hprocess).trans h.sent
      case inBounds =>
        intro hstop
        have hstop' := h.inBounds hstop
        rwa [← hprocess] at hstop'

theorem callFrame_run {m : PortStateSelectionMachine}
    (h : CallFrame sm m.vars) : CallFrame sm (run m).vars := by
  refine Program.run_preserves program (I := CallFrame sm) ?_ ?_ ?_ passes h
  · intro state v h
    exact h.action state
  · intro state v f _ hstuck
    cases state <;> cases hstuck
  · intro v h
    exact h.halt (by decide)

theorem callFrame_entered {m : PortStateSelectionMachine}
    (h : CallFrame sm m.vars) {state : PortStateSelectionSMState}
    {v : PortStateSelectionSM} (hentered : (state, v) ∈ m.entered) :
    CallFrame sm v := by
  refine Program.entries_preserves program (I := CallFrame sm) ?_ ?_ passes
    (m := m.ready) h state v hentered
  · intro state v h
    exact h.action state
  · intro state v f _ hstuck
    cases state <;> cases hstuck

theorem callFrame_initial (memory : PortStateSelectionSM) :
    CallFrame memory (initial memory).vars :=
  ⟨rfl, fun _ => rfl, fun h => h, rfl, fun h => h⟩

end PortStateSelectionMachine

end TimeSync
end Ziggo
