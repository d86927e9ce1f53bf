import Ziggo.TimeSync.AnnounceLoop.Serving

/-!
# Messages of the present master

A port that holds received information classifies every further message by a
comparison with that information.  Who sent the message plays no part in it: a
message in which the master of the port withdraws what it has announced before
is dropped like one of a worse clock.
-/

namespace Ziggo
namespace TimeSync

open Foundation TsnDrivers

namespace PortAnnounceInformationSM

variable {ts : UScaledNs} {sm sm' : PortAnnounceInformationSM}
  {announce : PTPMsgAnnounce}

/-- The variables once a message has been stored. -/
def stored (sm : PortAnnounceInformationSM) (announce : PTPMsgAnnounce) :
    PortAnnounceInformationSM :=
  { sm with
    perPortGlobal := { sm.perPortGlobal with rcvdMsg := true }
    rcvdAnnouncePtr := .live announce }

/-- The variables once the message has been compared with what the port holds. -/
def compared (sm : PortAnnounceInformationSM) (announce : PTPMsgAnnounce) :
    PortAnnounceInformationSM :=
  let sm :=
    { sm with
      perPTPInstanceGlobal :=
        { sm.perPTPInstanceGlobal with gmStepsRemoved := announce.stepsRemoved }
      messagePriorityPAI := messagePriorityOf sm.messagePriorityPAI announce }
  { sm with rcvdInfo := sm.classify }

theorem storeAnnounce_eq (h : sm.rcvdAnnouncePtr ≠ .released) :
    sm.storeAnnounce announce = .ok (sm.stored announce) := by
  unfold storeAnnounce
  cases hpointer : sm.rcvdAnnouncePtr with
  | null => rfl
  | live object => rfl
  | released => exact absurd hpointer h

theorem rcvInfo_eq (h : sm.rcvdAnnouncePtr = .live announce) :
    sm.rcvInfo = .ok (sm.compared announce) :=
  bind_eq_ok.mpr ⟨announce, Ptr.deref_eq_ok.mpr h, rfl⟩

/-- The paths and intervals of the message are ones that a port can record. -/
def Recordable (announce : PTPMsgAnnounce) : Prop :=
  announce.pathTraceTLV.lengthField.toNat ≤ 64 ∧
    0 ≤ announce.head.logMessageInterval ∧
    announce.head.logMessageInterval ≤ 30

instance : Decidable (Recordable announce) :=
  inferInstanceAs (Decidable (_ ∧ _ ∧ _))

theorem recordOtherAnnounceInfo_fits
    (h : sm.recordOtherAnnounceInfo announce = .ok sm') :
    announce.pathTraceTLV.lengthField.toNat ≤ 64 := by
  obtain ⟨array, hcopy, _⟩ := bind_eq_ok.mp h
  exact exists_copyOctets_iff.mp ⟨array, hcopy⟩

theorem timeoutInterval_eq_ok {timeout : UInt16} {logInterval : Int8}
    {interval : UScaledNs}
    (h : timeoutInterval timeout logInterval = .ok interval) :
    0 ≤ logInterval ∧ logInterval ≤ 30 := by
  unfold timeoutInterval at h
  split at h
  case isTrue hrange => exact hrange
  case isFalse => cases h

theorem exists_superiorMasterPortAction_iff
    (hlive : sm.rcvdAnnouncePtr = .live announce)
    (hinterval : sm.perPortGlobal.initialLogAnnounceInterval = 0) :
    (exists sm', sm.superiorMasterPortAction ts = .ok sm') <->
      Recordable announce := by
  constructor
  · rintro ⟨_, h⟩
    obtain ⟨_, hderef, hrest⟩ := bind_eq_ok.mp h
    cases hlive.symm.trans (Ptr.deref_eq_ok.mp hderef)
    obtain ⟨_, hrecord, hrest⟩ := bind_eq_ok.mp hrest
    obtain ⟨_, hannounce, _⟩ := bind_eq_ok.mp hrest
    exact ⟨recordOtherAnnounceInfo_fits hrecord,
      timeoutInterval_eq_ok hannounce⟩
  · rintro ⟨hlength, hrange⟩
    cases h : sm.superiorMasterPortAction ts with
    | ok sm' => exact ⟨sm', rfl⟩
    | error f =>
        exfalso
        rcases bind_eq_error.mp h with hf | ⟨_, hderef, hrest⟩
        · rw [hlive] at hf
          cases hf
        cases hlive.symm.trans (Ptr.deref_eq_ok.mp hderef)
        rcases bind_eq_error.mp hrest with hf | ⟨_, hrecord, hrest⟩
        · have hlong := error_recordOtherAnnounceInfo hf
          omega
        rcases bind_eq_error.mp hrest with hf | ⟨_, _, hrest⟩
        · cases (if_pos hrange).symm.trans hf
        rcases bind_eq_error.mp hrest with hf | ⟨_, _, hreturn⟩
        · rw [(interval_recordOtherAnnounceInfo hrecord).trans hinterval] at hf
          cases hf
        · cases hreturn

/-- A message that has been compared is acted upon. -/
theorem receiveStateTransition_ne
    (h : sm.perPortGlobal.asymmetryMeasurementMode = false) :
    sm.receiveStateTransition ≠ .receive := by
  unfold receiveStateTransition
  rw [h]
  cases sm.rcvdInfo <;> decide

/-- The message has been dealt with, and no update is pending. -/
structure Idle (sm : PortAnnounceInformationSM) : Prop where
  updtInfo : sm.perPortGlobal.updtInfo = false
  rcvdMsg : sm.perPortGlobal.rcvdMsg = false

theorem superiorMasterPortAction_ok
    (hupdt : sm.perPortGlobal.updtInfo = false)
    (h : sm.superiorMasterPortAction ts = .ok sm') :
    sm'.Idle ∧ sm'.perPortGlobal.portPriority = sm.messagePriorityPAI := by
  obtain ⟨_, _, hrest⟩ := bind_eq_ok.mp h
  obtain ⟨_, hrecord, hrest⟩ := bind_eq_ok.mp hrest
  obtain ⟨_, _, hrest⟩ := bind_eq_ok.mp hrest
  obtain ⟨_, _, hreturn⟩ := bind_eq_ok.mp hrest
  obtain ⟨_, _, hrecorded⟩ := bind_eq_ok.mp hrecord
  cases hrecorded
  cases hreturn
  exact ⟨⟨hupdt, rfl⟩, rfl⟩

theorem repeatedMasterPortAction_ok
    (hupdt : sm.perPortGlobal.updtInfo = false)
    (h : sm.repeatedMasterPortAction ts = .ok sm') :
    sm'.Idle ∧
      sm'.perPortGlobal.portPriority = sm.perPortGlobal.portPriority := by
  obtain ⟨_, _, hrest⟩ := bind_eq_ok.mp h
  obtain ⟨_, hrecord, hreturn⟩ := bind_eq_ok.mp hrest
  obtain ⟨_, _, hrecorded⟩ := bind_eq_ok.mp hrecord
  cases hrecorded
  cases hreturn
  exact ⟨⟨hupdt, rfl⟩, rfl⟩

end PortAnnounceInformationSM

/-!
## The reception of a message
-/

namespace PortAnnounceInformationMachine

open PortAnnounceInformationSM

variable {ts : UScaledNs} {m : PortAnnounceInformationMachine}
  {announce : PTPMsgAnnounce}

/-- A port that has dealt with a message keeps its information, or lets it age. -/
theorem portPriority_current (hstate : m.state = .current)
    (hq : ¬ m.Quiescent) (hruns : m.vars.process.stop = none)
    (hidle : m.vars.Idle) (fuel : Nat) :
    ((behaviour ts).program.run (fuel + 2) m).vars.perPortGlobal.portPriority =
      m.vars.perPortGlobal.portPriority := by
  have hnot : ¬ (m.vars.isSelected = true ∧
      m.vars.perPortGlobal.updtInfo = true) := by
    rintro ⟨_, hupdt⟩
    exact absurd (hidle.updtInfo.symm.trans hupdt) (by decide)
  have haction : action ts m.state m.vars = .ok m.vars := by
    rw [hstate]
    rfl
  by_cases hout : m.vars.timedOut ts = true
  · have hnext : transition ts m.state m.vars = .ok .aged := by
      rw [hstate]
      exact congrArg Except.ok ((if_neg hnot).trans (if_pos hout))
    have hrest : transition ts .aged m.vars.agedAction = .ok .aged := by
      refine congrArg Except.ok (if_neg ?_)
      rintro ⟨_, hupdt⟩
      exact absurd (hidle.updtInfo.symm.trans hupdt) (by decide)
    have haged : ¬ Machine.Quiescent
        { state := PortAnnounceInformationSMState.aged
          lastState := some m.state
          vars := m.vars } := by
      rw [hstate]
      intro h
      cases h
    rw [Behaviour.run_enter_leave (fuel + 1) hq haction hruns hnext
      (by rw [hstate]; decide)]
    rw [Behaviour.run_enter_rest fuel haged rfl hruns hrest]
    rfl
  · have hmsg : ¬ (m.vars.perPortGlobal.rcvdMsg = true ∧
        m.vars.perPortGlobal.updtInfo = false) := by
      rintro ⟨hmsg, _⟩
      exact absurd (hidle.rcvdMsg.symm.trans hmsg) (by decide)
    have hnext : transition ts m.state m.vars = .ok m.state := by
      rw [hstate]
      exact congrArg Except.ok
        ((if_neg hnot).trans ((if_neg hout).trans (if_neg hmsg)))
    rw [Behaviour.run_enter_rest (fuel + 1) hq haction hruns hnext]

/-- A port in `PAI_CURRENT` that is about to receive a message in time. -/
structure Attends (m : PortAnnounceInformationMachine) (ts : UScaledNs) :
    Prop where
  quiescent : m.Quiescent
  state : m.state = .current
  runs : m.vars.process.stop = none
  serves : Serves m.state m.vars
  symmetric : m.vars.perPortGlobal.asymmetryMeasurementMode = false
  started : m.vars.perPTPInstanceGlobal.BEGIN = false ∧
    m.vars.perPTPInstanceGlobal.instanceEnable = true
  selected : m.vars.perPTPInstanceGlobal.selectedState
    m.vars.perPortGlobal.thisPort ≠ .disabledPort
  updtInfo : m.vars.perPortGlobal.updtInfo = false
  timely : ¬ m.vars.SyncTimedOut ts

theorem Attends.portReady (h : m.Attends ts) : m.vars.portReady = true := by
  rcases h.serves.ready with hinit | hdisabled | hready
  · rw [h.state] at hinit
    cases hinit
  · rw [h.state] at hdisabled
    cases hdisabled
  · exact hready

theorem ready_of_started
    (hready : m.vars.portReady = true)
    (hstarted : m.vars.perPTPInstanceGlobal.BEGIN = false ∧
      m.vars.perPTPInstanceGlobal.instanceEnable = true) : m.ready = m := by
  have hnot : ¬ (((m.vars.portReady = false ∧
          m.vars.perPortGlobal.infoIs ≠ .disabled) ∨
        m.vars.perPTPInstanceGlobal.BEGIN = true ∨
        m.vars.perPTPInstanceGlobal.instanceEnable = false) ∧
      m.vars.perPTPInstanceGlobal.externalPortConfigurationEnabled =
        false) := by
    rintro ⟨hnot | hbegin | hdisabled, _⟩
    · exact absurd (hready.symm.trans hnot.left) (by decide)
    · exact absurd (hstarted.left.symm.trans hbegin) (by decide)
    · exact absurd (hstarted.right.symm.trans hdisabled) (by decide)
  unfold ready allStateTransition
  rw [if_neg hnot]

/-- The machine once the message has been compared. -/
def comparing (m : PortAnnounceInformationMachine)
    (announce : PTPMsgAnnounce) : PortAnnounceInformationMachine where
  state := ((m.vars.stored announce).compared announce).receiveStateTransition
  lastState := some .receive
  vars := (m.vars.stored announce).compared announce

/-- A port compares every message with the information that it holds. -/
theorem Attends.recvAnnounce_eq (h : m.Attends ts)
    (announce : PTPMsgAnnounce) :
    m.recvAnnounce ts announce =
      (behaviour ts).program.run 14 (m.comparing announce) := by
  let heard : PortAnnounceInformationMachine :=
    { m with vars := m.vars.stored announce }
  have hheard : heard.ready = heard := ready_of_started h.portReady h.started
  have hcurrent : transition ts heard.state heard.vars = .ok .receive := by
    change transition ts m.state _ = _
    rw [h.state]
    refine congrArg Except.ok ((if_neg ?_).trans ((if_neg ?_).trans
      (if_pos ⟨rfl, h.updtInfo⟩)))
    · rintro ⟨_, hupdt⟩
      exact absurd (h.updtInfo.symm.trans hupdt) (by decide)
    · intro hout
      rcases timedOut_iff.mp hout with ⟨hstanding, _⟩ | hsync
      · cases hstanding.right.right
      · exact h.timely hsync
  have hreceive : ¬ Machine.Quiescent
      { state := PortAnnounceInformationSMState.receive
        lastState := some heard.state
        vars := heard.vars } := by
    change ¬ some m.state = some .receive
    rw [h.state]
    decide
  unfold recvAnnounce
  rw [storeAnnounce_eq h.serves.pointer]
  change (behaviour ts).program.run 16 heard.ready = _
  rw [hheard, Behaviour.run_leave (m := heard) 15 h.quiescent h.runs hcurrent
    (by
      change m.state ≠ _
      rw [h.state]
      decide)]
  have hleave : ((m.vars.stored announce).compared
      announce).receiveStateTransition ≠ .receive :=
    receiveStateTransition_ne h.symmetric
  rw [Behaviour.run_enter_leave 14 hreceive (rcvInfo_eq rfl) h.runs rfl
    hleave.symm]
  rfl

theorem rcvdInfo_compared {sm : PortAnnounceInformationSM}
    (h : sm.perPTPInstanceGlobal.selectedState sm.perPortGlobal.thisPort ≠
      .disabledPort) :
    (sm.compared announce).rcvdInfo =
      if sm.perPortGlobal.portPriority =
          messagePriorityOf sm.messagePriorityPAI announce then
        .repeatedMasterInfo
      else if Superior (messagePriorityOf sm.messagePriorityPAI announce)
          sm.perPortGlobal.portPriority then
        .superiorMasterInfo
      else
        .inferiorMasterInfo :=
  if_pos h

/-- The action on a message decides what the port holds after the call. -/
theorem portPriority_acted {sm : PortAnnounceInformationSM}
    (hq : ¬ m.Quiescent) (haction : action ts m.state m.vars = .ok sm)
    (hruns : sm.process.stop = none) (hidle : sm.Idle)
    (hnext : transition ts m.state sm = .ok .current)
    (hne : m.state ≠ .current) :
    ((behaviour ts).program.run 14 m).vars.perPortGlobal.portPriority =
      sm.perPortGlobal.portPriority := by
  rw [Behaviour.run_enter_leave 13 hq haction hruns hnext hne]
  refine portPriority_current (m := ⟨.current, some m.state, sm⟩) rfl ?_ hruns
    hidle 11
  intro h
  exact hne (Option.some.inj h)

theorem portPriority_failed {f : Fault} (hq : ¬ m.Quiescent)
    (haction : action ts m.state m.vars = .error f) :
    ((behaviour ts).program.run 14 m).vars.perPortGlobal.portPriority =
      m.vars.perPortGlobal.portPriority := by
  rw [Behaviour.run_enter_fail 13 hq haction]
  rfl

theorem comparing_not_quiescent
    (h : m.vars.perPortGlobal.asymmetryMeasurementMode = false) :
    ¬ (m.comparing announce).Quiescent := by
  have hne : ((m.vars.stored announce).compared
      announce).receiveStateTransition ≠ .receive :=
    receiveStateTransition_ne h
  intro hq
  exact hne (Option.some.inj hq).symm

theorem comparing_state
    (h : m.vars.perPortGlobal.asymmetryMeasurementMode = false) :
    (m.comparing announce).state =
      match ((m.vars.stored announce).compared announce).rcvdInfo with
      | .inferiorMasterInfo => .inferiorMasterOrOtherPort
      | .otherInfo => .inferiorMasterOrOtherPort
      | .repeatedMasterInfo => .repeatedMasterPort
      | .superiorMasterInfo => .superiorMasterPort :=
  if_neg (ne_true_of_eq_false h)

theorem Attends.keeps (h : m.Attends ts)
    (hnot : ¬ Superior (messagePriorityOf m.vars.messagePriorityPAI announce)
      m.vars.perPortGlobal.portPriority) :
    (m.recvAnnounce ts announce).vars.perPortGlobal.portPriority =
      m.vars.perPortGlobal.portPriority := by
  have hq : ¬ (m.comparing announce).Quiescent :=
    comparing_not_quiescent h.symmetric
  have hclass : ((m.vars.stored announce).compared announce).rcvdInfo = _ :=
    rcvdInfo_compared h.selected
  have hstate := @comparing_state m announce h.symmetric
  rw [hclass] at hstate
  have hupdt : (m.comparing announce).vars.perPortGlobal.updtInfo = false :=
    h.updtInfo
  rw [h.recvAnnounce_eq]
  by_cases hequal : m.vars.perPortGlobal.portPriority =
      messagePriorityOf m.vars.messagePriorityPAI announce
  · replace hstate : (m.comparing announce).state = .repeatedMasterPort := by
      rw [hstate, if_pos (by exact hequal)]
    cases haction : action ts (m.comparing announce).state
        (m.comparing announce).vars with
    | error f => exact portPriority_failed hq haction
    | ok sm =>
        have hframe := frame_action haction
        rw [hstate] at haction
        obtain ⟨hidle, hport⟩ := repeatedMasterPortAction_ok hupdt haction
        rw [portPriority_acted hq (by rw [hstate]; exact haction)
          ((congrArg Process.stop hframe.process).trans h.runs) hidle
          (by rw [hstate]; rfl) (by rw [hstate]; decide)]
        exact hport
  · replace hstate :
        (m.comparing announce).state = .inferiorMasterOrOtherPort := by
      rw [hstate, if_neg (by exact hequal), if_neg (by exact hnot)]
    have haction : action ts (m.comparing announce).state
        (m.comparing announce).vars =
          .ok (m.comparing announce).vars.dropAnnounce := by
      rw [hstate]
      rfl
    rw [portPriority_acted hq haction h.runs ⟨hupdt, rfl⟩
      (by rw [hstate]; rfl) (by rw [hstate]; decide)]
    rfl

theorem Attends.takes (h : m.Attends ts)
    (hsuperior : Superior
      (messagePriorityOf m.vars.messagePriorityPAI announce)
      m.vars.perPortGlobal.portPriority) :
    (m.recvAnnounce ts announce).vars.perPortGlobal.portPriority =
      if Recordable announce then
        messagePriorityOf m.vars.messagePriorityPAI announce
      else
        m.vars.perPortGlobal.portPriority := by
  have hq : ¬ (m.comparing announce).Quiescent :=
    comparing_not_quiescent h.symmetric
  have hclass : ((m.vars.stored announce).compared announce).rcvdInfo = _ :=
    rcvdInfo_compared h.selected
  have hdiffers : m.vars.perPortGlobal.portPriority ≠
      messagePriorityOf m.vars.messagePriorityPAI announce := by
    intro hequal
    rw [hequal] at hsuperior
    exact Std.Irrefl.irrefl (r := Superior) _ hsuperior
  have hstate : (m.comparing announce).state = .superiorMasterPort := by
    rw [comparing_state h.symmetric, hclass, if_neg (by exact hdiffers),
      if_pos (by exact hsuperior)]
  have hupdt : (m.comparing announce).vars.perPortGlobal.updtInfo = false :=
    h.updtInfo
  have hrecords : (exists sm,
      (m.comparing announce).vars.superiorMasterPortAction ts = .ok sm) <->
        Recordable announce :=
    exists_superiorMasterPortAction_iff rfl h.serves.interval
  rw [h.recvAnnounce_eq]
  by_cases hrecordable : Recordable announce
  · obtain ⟨sm, hok⟩ := hrecords.mpr hrecordable
    obtain ⟨hidle, hport⟩ := superiorMasterPortAction_ok hupdt hok
    have haction : action ts (m.comparing announce).state
        (m.comparing announce).vars = .ok sm := by
      rw [hstate]
      exact hok
    have hruns : sm.process.stop = none :=
      (congrArg Process.stop (frame_action haction).process).trans h.runs
    rw [if_pos hrecordable, portPriority_acted hq haction hruns hidle
      (by rw [hstate]; rfl) (by rw [hstate]; decide)]
    exact hport
  · rw [if_neg hrecordable]
    cases hfails : (m.comparing announce).vars.superiorMasterPortAction ts with
    | ok sm => exact absurd (hrecords.mp ⟨sm, hfails⟩) hrecordable
    | error f =>
        exact portPriority_failed hq (by rw [hstate]; exact hfails)

theorem Attends.supersedes_iff (h : m.Attends ts) :
    (m.recvAnnounce ts announce).vars.perPortGlobal.portPriority =
        messagePriorityOf m.vars.messagePriorityPAI announce <->
      ¬ Superior m.vars.perPortGlobal.portPriority
          (messagePriorityOf m.vars.messagePriorityPAI announce) ∧
        (Superior (messagePriorityOf m.vars.messagePriorityPAI announce)
            m.vars.perPortGlobal.portPriority -> Recordable announce) := by
  have hirrefl : forall p, ¬ Superior p p := Std.Irrefl.irrefl
  by_cases hsuperior : Superior
      (messagePriorityOf m.vars.messagePriorityPAI announce)
      m.vars.perPortGlobal.portPriority
  · rw [h.takes hsuperior]
    split
    case isTrue hrecordable =>
      refine iff_of_true rfl ⟨fun hworse => ?_, fun _ => hrecordable⟩
      exact hirrefl _ (IsTrans.trans _ _ _ hworse hsuperior)
    case isFalse hrecordable =>
      refine iff_of_false (fun hequal => ?_)
        fun hholds => hrecordable (hholds.right hsuperior)
      rw [hequal] at hsuperior
      exact hirrefl _ hsuperior
  · rw [h.keeps hsuperior]
    constructor
    · intro hequal
      rw [← hequal]
      exact ⟨hirrefl _, fun hself => absurd hself (hirrefl _)⟩
    · rintro ⟨hworse, _⟩
      exact eq_of_not_superior hworse hsuperior

end PortAnnounceInformationMachine

/-!
## Runs
-/

namespace AnnounceLoop

variable {config : Config} {memory : LoopMemory} {l : AnnounceLoop}

/--
The port holds received information, no update of it is pending, and neither
of the two timers has run out.
-/
structure Attentive (l : AnnounceLoop) (i : PortIndex) (ts : UScaledNs) :
    Prop where
  state : (l.portAnnounceInformationSms i).state = .current
  infoIs : (l.perPortGlobal i).infoIs = .received
  selected : l.perPTPInstanceGlobal.selectedState i.succ ≠ .disabledPort
  updtInfo : (l.perPortGlobal i).updtInfo = false
  announceTimer : uscalednsCompare ts
    (l.portAnnounceInformationSms i).vars.announceReceiptTimeoutTime < 0
  syncTimer : uscalednsCompare ts
    l.perPTPInstanceGlobal.syncReceiptTimeoutTime < 0

/-- The message comes from the port whose information the port holds. -/
def FromMaster (l : AnnounceLoop) (i : PortIndex)
    (announce : PTPMsgAnnounce) : Prop :=
  announce.head.sourcePortIdentity.clockIdentity =
      (l.perPortGlobal i).portPriority.sourcePortClockIdentity ∧
    announce.head.sourcePortIdentity.portNumber =
      (l.perPortGlobal i).portPriority.portNumber

/-- The vector of a message that arrives at the port. -/
def messagePriority (l : AnnounceLoop) (i : PortIndex)
    (announce : PTPMsgAnnounce) : PriorityVector :=
  PortAnnounceInformationSM.messagePriorityOf
    (l.portAnnounceInformationSms i).vars.messagePriorityPAI announce

theorem Attentive.attends (h : Attending config l) (hruns : l.Runs)
    {i : PortIndex} {ts : UScaledNs} (hi : l.Attentive i ts) :
    (l.informationMachine i).Attends ts := by
  have hconfigured := h.informed.elected.configured
  constructor
  case quiescent => exact (h.informed.information i).quiescent
  case state => exact hi.state
  case runs => exact hruns
  case serves => exact h.serves i
  case symmetric => exact hconfigured.symmetric i
  case started =>
    exact ⟨congrArg InstanceSettings.BEGIN hconfigured.global,
      congrArg InstanceSettings.instanceEnable hconfigured.global⟩
  case selected =>
    change l.perPTPInstanceGlobal.selectedState (l.perPortGlobal i).thisPort ≠ _
    rw [hconfigured.thisPort]
    exact hi.selected
  case updtInfo => exact hi.updtInfo
  case timely => exact fun hsync => absurd hsync.left (not_le.mpr hi.syncTimer)

theorem perPortGlobal_recvAnnounce (hmode : ¬ l.External) (i : PortIndex)
    (ts : UScaledNs) (announce : PTPMsgAnnounce) :
    (l.recvAnnounce i ts announce).perPortGlobal i =
      ((l.informationMachine i).recvAnnounce ts
        announce).vars.perPortGlobal := by
  unfold recvAnnounce
  rw [if_neg hmode]
  exact Function.update_self _ _ _

/--
In every run of an instance in BMCA mode, a port that holds received
information takes over a message in time, from its master or from any other
clock, if and only if the message is not worse than what the port holds and, if
it is better, the port can record it.
-/
theorem announce_supersedes_iff (config : Config) (memory : LoopMemory)
    (es : List Event) (i : PortIndex) (ts : UScaledNs)
    (announce : PTPMsgAnnounce)
    (hmode : config.externalPortConfigurationEnabled = false)
    (hruns : (after config memory es).Runs)
    (hi : (after config memory es).Attentive i ts) :
    (((after config memory es).recvAnnounce i ts announce).perPortGlobal
          i).portPriority =
        (after config memory es).messagePriority i announce <->
      ¬ Superior ((after config memory es).perPortGlobal i).portPriority
          ((after config memory es).messagePriority i announce) ∧
        (Superior ((after config memory es).messagePriority i announce)
            ((after config memory es).perPortGlobal i).portPriority ->
          PortAnnounceInformationSM.Recordable announce) := by
  have hattending := attending_after hmode hruns
  rw [perPortGlobal_recvAnnounce (hattending.informed.not_external hmode)]
  exact (hi.attends hattending hruns).supersedes_iff

/-- The grandmaster of `betterAnnounce`, once its quality has become worse. -/
def withdrawnAnnounce : PTPMsgAnnounce :=
  { betterAnnounce with grandmasterPriority1 := 2 }

theorem attentive_firstAnnounce :
    (after bmcaConfig default firstAnnounce).Attentive 0 oneSecond := by
  constructor <;> decide +kernel

theorem announce_supersedes_iff_withdrawn :
    (((after bmcaConfig default firstAnnounce).recvAnnounce 0 oneSecond
          withdrawnAnnounce).perPortGlobal 0).portPriority =
        (after bmcaConfig default firstAnnounce).messagePriority 0
          withdrawnAnnounce <->
      ¬ Superior
          ((after bmcaConfig default firstAnnounce).perPortGlobal 0).portPriority
          ((after bmcaConfig default firstAnnounce).messagePriority 0
            withdrawnAnnounce) ∧
        (Superior
            ((after bmcaConfig default firstAnnounce).messagePriority 0
              withdrawnAnnounce)
            ((after bmcaConfig default firstAnnounce).perPortGlobal
              0).portPriority ->
          PortAnnounceInformationSM.Recordable withdrawnAnnounce) := by
  refine announce_supersedes_iff bmcaConfig default firstAnnounce 0 oneSecond
    withdrawnAnnounce rfl ?_ attentive_firstAnnounce
  change (after bmcaConfig default firstAnnounce).process.stop = none
  decide +kernel

/-- The master of a port announces that it has become worse. -/
theorem withdrawn_announce_dropped :
    ¬ forall (config : Config) (memory : LoopMemory) (es : List Event)
        (i : PortIndex) (ts : UScaledNs) (announce : PTPMsgAnnounce),
      config.externalPortConfigurationEnabled = false ->
        (after config memory es).Runs ->
        (after config memory es).Attentive i ts ->
        (after config memory es).FromMaster i announce ->
          (((after config memory es).recvAnnounce i ts announce).perPortGlobal
              i).portPriority =
            (after config memory es).messagePriority i announce := by
  intro h
  have hmaster : (after bmcaConfig default firstAnnounce).FromMaster 0
      withdrawnAnnounce := by
    constructor <;> decide +kernel
  have hruns : (after bmcaConfig default firstAnnounce).process.stop = none := by
    decide +kernel
  have hsuperseded := h bmcaConfig default firstAnnounce 0 oneSecond
    withdrawnAnnounce rfl hruns attentive_firstAnnounce hmaster
  revert hsuperseded
  decide +kernel

end AnnounceLoop

end TimeSync
end Ziggo
