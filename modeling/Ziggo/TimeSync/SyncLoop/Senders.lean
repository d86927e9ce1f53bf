import Ziggo.TimeSync.MDSyncSendSM.Invariant
import Ziggo.TimeSync.SyncLoop.Frames

/-!
# Calls of the senders of the ports

A structure that comes to the sender of a port is handed to the machine below
if the port may send it, and is forgotten otherwise.
-/

namespace Ziggo
namespace TimeSync

open Foundation TsnDrivers

namespace MDSyncSendMachine

open MDSyncSendSM

/-- The machine with other globals behind its pointers. -/
def withGlobals (m : MDSyncSendMachine) (g : PerPTPInstanceGlobal)
    (port : PerPortGlobal) : MDSyncSendMachine :=
  { m with
    vars := { m.vars with perPTPInstanceGlobal := g, perPortGlobal := port } }

theorem capable_withGlobals {m : MDSyncSendMachine} {g : PerPTPInstanceGlobal}
    {port : PerPortGlobal}
    (hport : portSettings port = portSettings m.vars.perPortGlobal) :
    (m.withGlobals g port).vars.Capable <-> m.vars.Capable := by
  have hcapable : port.asCapable = m.vars.perPortGlobal.asCapable :=
    congrArg PortSettings.asCapable hport
  have hmode : port.asymmetryMeasurementMode =
      m.vars.perPortGlobal.asymmetryMeasurementMode :=
    congrArg PortSettings.asymmetryMeasurementMode hport
  have hoper : port.portOper = m.vars.perPortGlobal.portOper :=
    congrArg PortSettings.portOper hport
  have henabled : port.ptpPortEnabled = m.vars.perPortGlobal.ptpPortEnabled :=
    congrArg PortSettings.ptpPortEnabled hport
  unfold Capable portReady withGlobals
  dsimp only
  rw [hcapable, hmode, hoper, henabled]

theorem AtRest.withGlobals {m : MDSyncSendMachine} (h : AtRest m)
    {g : PerPTPInstanceGlobal} {port : PerPortGlobal}
    (hinstance : instanceSettings g =
      instanceSettings m.vars.perPTPInstanceGlobal)
    (hport : portSettings port = portSettings m.vars.perPortGlobal) :
    AtRest (m.withGlobals g port) := by
  have hbegin : g.BEGIN = m.vars.perPTPInstanceGlobal.BEGIN :=
    congrArg InstanceSettings.BEGIN hinstance
  have henable : g.instanceEnable = m.vars.perPTPInstanceGlobal.instanceEnable :=
    congrArg InstanceSettings.instanceEnable hinstance
  have hthis : port.thisPort = m.vars.perPortGlobal.thisPort :=
    congrArg PortSettings.thisPort hport
  have hcapable := @capable_withGlobals m g port hport
  refine ⟨h.running, h.quiescent, ?_, ?_, h.noTimestamp, ?_⟩
  · exact ⟨hbegin.trans h.configured.left, henable.trans h.configured.right⟩
  · exact ⟨h.owned.mdSync, h.owned.sync, h.owned.timestamp, h.owned.followUp⟩
  · have hduring := h.during
    change During m.state (m.withGlobals g port).vars
    cases hstate : m.state with
    | init =>
        rw [hstate] at hduring
        exact hduring
    | initializing =>
        rw [hstate] at hduring
        exact fun hflag hc => hduring hflag (hcapable.mp hc)
    | sendSync =>
        rw [hstate] at hduring
        rcases hduring with ⟨hc, hlive, sync, htx, hsent, hnumber⟩
        refine ⟨hcapable.mpr hc, hlive, sync, htx, ?_, hnumber⟩
        change m.vars.process.sent.getLast? = some ⟨port.thisPort, _⟩
        rw [hthis]
        exact hsent
    | sendFollowUp =>
        rw [hstate] at hduring
        exact ⟨hcapable.mpr hduring.left, hduring.right⟩

/-- The globals behind the pointers of the machine. -/
def globals (m : MDSyncSendMachine) : PerPTPInstanceGlobal × PerPortGlobal :=
  (m.vars.perPTPInstanceGlobal, m.vars.perPortGlobal)

theorem globals_recvMDSync {m : MDSyncSendMachine} (h : AtRest m)
    (mdSync : MDSyncSend) :
    (step m (.recvMDSync mdSync)).globals = m.globals := by
  by_cases hstate : m.state = .sendSync
  · rw [step_recvMDSync_waiting h hstate]
    rfl
  · by_cases hcapable : m.vars.Capable
    · rw [step_recvMDSync_sent h hstate hcapable]
      rfl
    · rw [step_recvMDSync_unable h (h.initializing_of_incapable hcapable)
        hcapable]
      rfl

theorem globals_txts {m : MDSyncSendMachine} (h : AtRest m)
    (tsuTimestamp : TSUTimestamp) :
    (step m (.txts tsuTimestamp)).globals = m.globals := by
  by_cases hstate : m.state = .sendSync
  · cases hmatch : m.vars.timestampMatches tsuTimestamp with
    | false => rw [step_txts_mismatch h hmatch]
    | true =>
        have hduring := h.during
        rw [hstate] at hduring
        rcases hduring with ⟨_, ⟨mdSync, hmdSync⟩, sync, hsent⟩
        cases hflag : m.vars.rcvdMDSyncMDSS with
        | false =>
            rw [step_txts_followedUp h hstate hmatch hmdSync hsent.left hflag]
            rfl
        | true =>
            rw [step_txts_pending h hstate hmatch hmdSync hsent.left hflag]
            rfl
  · rw [step_txts_unexpected h hstate]

end MDSyncSendMachine

namespace PortSyncSyncSendSM

open PortSyncSyncSendSMState SyncLoop

/-- The machines of port `i` that send wait for a call. -/
structure Rests (l : SyncLoop) (i : PortIndex) : Prop where
  control : (l.portSyncSyncSendSms i).control = .rest transmitInit ∨
    ((l.portSyncSyncSendSms i).control = .rest .sendMDSync ∧
      (l.perPortGlobal i).syncLocked = true)
  received : (l.portSyncSyncSendSms i).rcvdPSSyncPtrPSSS ≠ .released
  transmitted : (l.portSyncSyncSendSms i).txMDSyncPtr ≠ .released
  below : (loadMDSyncSend l i).AtRest

/-- Port `i` has to send the structure on. -/
def Eligible (pss : PortSyncSync) (l : SyncLoop) (i : PortIndex) : Prop :=
  pss.localPortNumber ≠ (l.perPortGlobal i).thisPort ∧ masterReady l i = true

instance (pss : PortSyncSync) (l : SyncLoop) (i : PortIndex) :
    Decidable (Eligible pss l i) :=
  inferInstanceAs (Decidable (_ ∧ _))

/-- What port `i` hands to the machine below for a structure. -/
def mdSyncFor (pss : PortSyncSync) (l : SyncLoop) (i : PortIndex) :
    MDSyncSend :=
  ((l.portSyncSyncSendSms i).copyPSSync pss).setMDSync l.perPTPInstanceGlobal
    (l.perPortGlobal i)

@[simp] theorem sms_assign (i : PortIndex) (sm : PortSyncSyncSendSM)
    (l : SyncLoop) : (assign i sm l).portSyncSyncSendSms i = sm :=
  Function.update_self _ _ _

@[simp] theorem sms_assignPort (i : PortIndex) (port : PerPortGlobal)
    (l : SyncLoop) :
    (assignPort i port l).portSyncSyncSendSms = l.portSyncSyncSendSms :=
  rfl

@[simp] theorem port_assignPort (i : PortIndex) (port : PerPortGlobal)
    (l : SyncLoop) : (assignPort i port l).perPortGlobal i = port :=
  Function.update_self _ _ _

section Calls

variable {l : SyncLoop} {i : PortIndex} {ts : UScaledNs} {pss : PortSyncSync}

theorem rcvd_storePSSync (i : PortIndex) (pss : PortSyncSync) (l : SyncLoop) :
    (storePSSync i pss l).portSyncSyncSendSms i =
      { l.portSyncSyncSendSms i with
        rcvdPSSyncPSSS := true
        rcvdPSSyncPtrPSSS := .live pss } := by
  exact sms_assign i _ l

theorem syncRequested_storePSSync :
    syncRequested (storePSSync i pss l) i =
      .ok (pss.localPortNumber ≠ (l.perPortGlobal i).thisPort) := by
  unfold syncRequested
  rw [rcvd_storePSSync]
  rfl

theorem requested_iff :
    (decide (pss.localPortNumber ≠ (l.perPortGlobal i).thisPort) = true ∧
      masterReady l i = true) <-> Eligible pss l i := by
  unfold Eligible
  rw [decide_eq_true_iff]

theorem transition_transmitInit :
    (machine i ts).program.transition transmitInit (storePSSync i pss l) =
      .ok (.goto (if Eligible pss l i then .sendMDSync else transmitInit)) := by
  change idleStateTransition transmitInit i (storePSSync i pss l) = _
  unfold idleStateTransition
  rw [syncRequested_storePSSync]
  change (if decide (pss.localPortNumber ≠ (l.perPortGlobal i).thisPort) = true ∧
    masterReady l i = true then _ else _) = _
  rw [if_congr requested_iff rfl rfl]
  split <;> rfl

theorem transition_sendMDSync (hlocked : (l.perPortGlobal i).syncLocked = true) :
    (machine i ts).program.transition .sendMDSync (storePSSync i pss l) =
      .ok (if Eligible pss l i then .reenter .sendMDSync
        else .goto .sendMDSync) := by
  change sendMDSyncStateTransition i ts (storePSSync i pss l) = _
  unfold sendMDSyncStateTransition
  dsimp only
  change (if (l.perPortGlobal i).syncLocked = true then _ else _) = _
  rw [if_pos hlocked, syncRequested_storePSSync]
  change (if decide (pss.localPortNumber ≠ (l.perPortGlobal i).thisPort) = true ∧
    masterReady l i = true then _ else _) = _
  rw [if_congr requested_iff rfl rfl]
  split <;> rfl

theorem ready_storePSSync (hoperating : l.resetting = false)
    (s : PortSyncSyncSendSMState) :
    (machine i ts).ready (storePSSync i pss l) s =
      if l.portReady i then s else transmitInit := by
  change (if l.resetting = true ∨
    (((storePSSync i pss l).portSyncSyncSendSms i).rcvdPSSyncPSSS = true ∧
      l.portReady i = false) then _ else _) = _
  rw [rcvd_storePSSync, hoperating]
  cases l.portReady i <;> simp

theorem control_storePSSync :
    (machine i ts).control (storePSSync i pss l) =
      (l.portSyncSyncSendSms i).control := by
  change ((storePSSync i pss l).portSyncSyncSendSms i).control = _
  rw [rcvd_storePSSync]

theorem recvPSSync_eq_run (hrest : Rests l i) :
    recvPSSync i ts pss l =
      (machine i ts).run passes (storePSSync i pss l) :=
  freeThen_owned hrest.received l _

/-!
## A structure that is not sent on
-/

theorem settled_transmitInitAction :
    (machine i ts).program.Settled transmitInit
      (transmitInitAction i (storePSSync i pss l)) := by
  refine Or.inr ?_
  change idleStateTransition transmitInit i _ = _
  have hflag : ((transmitInitAction i (storePSSync i pss l)).portSyncSyncSendSms
      i).rcvdPSSyncPSSS = false := by
    unfold transmitInitAction clearSlowDown
    rw [sms_assignPort, sms_assign]
  unfold idleStateTransition syncRequested
  rw [if_neg (by rw [hflag]; simp)]
  rfl

theorem recvPSSync_ineligible (hoperating : l.resetting = false)
    (hrunning : l.stop = none) (hrest : Rests l i)
    (hnot : ¬ Eligible pss l i) :
    recvPSSync i ts pss l =
        (machine i ts).store (l.portSyncSyncSendSms i).control
          (storePSSync i pss l) ∨
      recvPSSync i ts pss l =
        (machine i ts).store (.rest transmitInit)
          (transmitInitAction i (storePSSync i pss l)) := by
  have hready := @ready_storePSSync l i ts pss hoperating
  have hcontrol := @control_storePSSync l i ts pss
  rw [recvPSSync_eq_run hrest]
  rcases hrest.control with hidle | ⟨hsend, hlocked⟩
  · refine Or.inl ?_
    rw [hidle] at hcontrol ⊢
    refine Embedded.run_idle 15 hcontrol ?_ hrunning ?_
    · rw [hready]
      exact ite_self _
    · rw [transition_transmitInit, if_neg hnot]
  · rw [hsend] at hcontrol ⊢
    cases hport : l.portReady i with
    | true =>
        refine Or.inl (Embedded.run_idle 15 hcontrol ?_ hrunning ?_)
        · rw [hready, hport]
          rfl
        · rw [transition_sendMDSync hlocked, if_neg hnot]
    | false =>
        refine Or.inr (Embedded.run_forced 15 hcontrol ?_ (by simp)
          settled_transmitInitAction)
        rw [hready, hport]
        rfl

/-!
## A structure that is sent on
-/

/-- The variables once the structure has been copied. -/
def taken (i : PortIndex) (pss : PortSyncSync) (l : SyncLoop) : SyncLoop :=
  takePSSync i pss (storePSSync i pss l)

/-- The variables once the structure has been handed to the machine below. -/
def sent (i : PortIndex) (ts : UScaledNs) (pss : PortSyncSync) (l : SyncLoop) :
    SyncLoop :=
  txMDSync i (mdSyncFor pss l i)
    (assign i
      { (taken i pss l).portSyncSyncSendSms i with
        rcvdPSSyncPSSS := false
        lastSyncSentTime := ts
        txMDSyncPtr := .live (mdSyncFor pss l i) } (taken i pss l))

theorem sms_taken :
    (taken i pss l).portSyncSyncSendSms i =
      ({ l.portSyncSyncSendSms i with
          rcvdPSSyncPSSS := true
          rcvdPSSyncPtrPSSS := .live pss }).copyPSSync pss := by
  unfold taken takePSSync lockSync
  rw [sms_assignPort, sms_assign, rcvd_storePSSync]

theorem port_taken :
    (taken i pss l).perPortGlobal i =
      { l.perPortGlobal i with syncLocked := true } :=
  port_assignPort i _ _

theorem mdSync_taken :
    ((taken i pss l).portSyncSyncSendSms i).setMDSync
        (taken i pss l).perPTPInstanceGlobal ((taken i pss l).perPortGlobal i) =
      mdSyncFor pss l i := by
  rw [sms_taken, port_taken]
  rfl

/-- The machine below as the call finds it. -/
def offered (i : PortIndex) (pss : PortSyncSync) (l : SyncLoop) :
    MDSyncSendMachine :=
  (loadMDSyncSend l i).withGlobals
    (withSyncReceiptTimeoutTime pss.syncReceiptTimeoutTime
      l.perPTPInstanceGlobal)
    { l.perPortGlobal i with syncLocked := true }

theorem load_taken (sm : PortSyncSyncSendSM) :
    loadMDSyncSend (assign i sm (taken i pss l)) i = offered i pss l := by
  have hport : (assign i sm (taken i pss l)).perPortGlobal i =
      { l.perPortGlobal i with syncLocked := true } := port_taken
  unfold loadMDSyncSend
  rw [hport]
  rfl

theorem atRest_offered (hrest : Rests l i) : (offered i pss l).AtRest := by
  refine hrest.below.withGlobals ?_ ?_
  · rfl
  · rfl

/-- The machine below after the call. -/
def handedOver (i : PortIndex) (pss : PortSyncSync) (l : SyncLoop) :
    MDSyncSendMachine :=
  (offered i pss l).step (.recvMDSync (mdSyncFor pss l i))

theorem sent_eq :
    sent i ts pss l =
      storeMDSyncSend i (handedOver i pss l)
        ((assign i
          { (taken i pss l).portSyncSyncSendSms i with
            rcvdPSSyncPSSS := false
            lastSyncSentTime := ts
            txMDSyncPtr := .live (mdSyncFor pss l i) } (taken i pss l)).call
          (.mdSyncSend i (mdSyncFor pss l i))) := by
  unfold sent txMDSync
  rw [load_taken]
  rfl

theorem atRest_handedOver (hrest : Rests l i) :
    (handedOver i pss l).AtRest :=
  MDSyncSendMachine.atRest_step (atRest_offered hrest) _

theorem running_sent (hrunning : l.stop = none) (hrest : Rests l i) :
    (sent i ts pss l).stop = none := by
  rw [sent_eq]
  change l.stop.or (handedOver i pss l).vars.process.stop = none
  rw [hrunning, (atRest_handedOver hrest).running]
  rfl

theorem sendMDSyncAction_eq (hrunning : l.stop = none) (hrest : Rests l i) :
    sendMDSyncAction i ts (storePSSync i pss l) =
      chooseInterval i (sent i ts pss l) := by
  have htake : (if ((storePSSync i pss l).portSyncSyncSendSms
        i).rcvdPSSyncPSSS = true then
      (storePSSync i pss l).withObject
        ((storePSSync i pss l).portSyncSyncSendSms i).rcvdPSSyncPtrPSSS
        (takePSSync i)
      else storePSSync i pss l) = taken i pss l := by
    rw [rcvd_storePSSync, if_pos rfl]
    rfl
  have htransmit : transmitMDSync i ts (taken i pss l) = sent i ts pss l := by
    have howned : ((taken i pss l).portSyncSyncSendSms i).txMDSyncPtr ≠
        .released := by
      rw [sms_taken]
      exact hrest.transmitted
    unfold transmitMDSync
    rw [freeThen_owned howned]
    dsimp only
    rw [mdSync_taken]
    rfl
  have htaken : (taken i pss l).stop = none := hrunning
  unfold sendMDSyncAction
  dsimp only
  rw [htake, thenDo_running htaken, htransmit,
    thenDo_running (running_sent hrunning hrest)]

theorem sms_sent :
    (sent i ts pss l).portSyncSyncSendSms i =
      { (taken i pss l).portSyncSyncSendSms i with
        rcvdPSSyncPSSS := false
        lastSyncSentTime := ts
        txMDSyncPtr := .live (mdSyncFor pss l i) } := by
  rw [sent_eq]
  exact sms_assign i _ _

theorem port_sent :
    (sent i ts pss l).perPortGlobal i =
      { l.perPortGlobal i with syncLocked := true } := by
  rw [sent_eq]
  exact port_taken

theorem chooseInterval_eq (i : PortIndex) (l : SyncLoop) :
    exists interval number slowDown,
      chooseInterval i l =
        assignPort i { l.perPortGlobal i with syncSlowDown := slowDown }
          (assign i
            { l.portSyncSyncSendSms i with
              interval1 := interval
              numberSyncTransmissions := number } l) := by
  have hself : Function.update l.perPortGlobal i
      { l.perPortGlobal i with
        syncSlowDown := (l.perPortGlobal i).syncSlowDown } =
      l.perPortGlobal := Function.update_eq_self i l.perPortGlobal
  have hport : forall sm, assign i sm l =
      assignPort i
        { l.perPortGlobal i with
          syncSlowDown := (l.perPortGlobal i).syncSlowDown }
        (assign i sm l) := fun sm =>
    congrArg (fun ports => { assign i sm l with perPortGlobal := ports })
      hself.symm
  unfold chooseInterval
  dsimp only
  split
  · split
    · exact ⟨_, _, _, rfl⟩
    · exact ⟨_, _, _, hport _⟩
  · exact ⟨_, _, _, hport _⟩

theorem transition_settled {l : SyncLoop}
    (hflag : (l.portSyncSyncSendSms i).rcvdPSSyncPSSS = false)
    (hlocked : (l.perPortGlobal i).syncLocked = true) :
    (machine i ts).program.transition .sendMDSync l =
      .ok (.goto .sendMDSync) := by
  change sendMDSyncStateTransition i ts l = _
  unfold sendMDSyncStateTransition syncRequested
  dsimp only
  rw [if_pos hlocked, if_neg (by rw [hflag]; simp)]
  rfl

theorem recvPSSync_eligible (hoperating : l.resetting = false)
    (hrunning : l.stop = none) (hrest : Rests l i)
    (heligible : Eligible pss l i) :
    exists interval number slowDown,
      recvPSSync i ts pss l =
        (machine i ts).store (.rest .sendMDSync)
          (assignPort i
            { l.perPortGlobal i with
              syncLocked := true
              syncSlowDown := slowDown }
            (assign i
              { (taken i pss l).portSyncSyncSendSms i with
                rcvdPSSyncPSSS := false
                lastSyncSentTime := ts
                txMDSyncPtr := .live (mdSyncFor pss l i)
                interval1 := interval
                numberSyncTransmissions := number } (sent i ts pss l))) := by
  obtain ⟨interval, number, slowDown, hchoose⟩ :=
    chooseInterval_eq i (sent i ts pss l)
  rw [sms_sent, port_sent] at hchoose
  have hready := @ready_storePSSync l i ts pss hoperating
  have hport : l.portReady i = true := by
    have hmaster := heligible.right
    unfold masterReady at hmaster
    exact (of_decide_eq_true hmaster).left
  have hcontrol := @control_storePSSync l i ts pss
  have haction : (machine i ts).program.action .sendMDSync
      (storePSSync i pss l) = chooseInterval i (sent i ts pss l) :=
    sendMDSyncAction_eq hrunning hrest
  have hsettled : (machine i ts).program.Settled .sendMDSync
      ((machine i ts).program.action .sendMDSync (storePSSync i pss l)) := by
    rw [haction, hchoose]
    refine Or.inr (transition_settled ?_ ?_)
    · rw [sms_assignPort, sms_assign]
    · rw [port_assignPort]
  refine ⟨interval, number, slowDown, ?_⟩
  rw [recvPSSync_eq_run hrest, ← hchoose, ← haction]
  rcases hrest.control with hidle | ⟨hsend, hlocked⟩
  · rw [hidle] at hcontrol
    refine Embedded.run_goto 14 hcontrol ?_ hrunning ?_ (by simp) hsettled
    · rw [hready, hport]
      rfl
    · rw [transition_transmitInit, if_pos heligible]
  · rw [hsend] at hcontrol
    refine Embedded.run_reenter 14 hcontrol ?_ hrunning ?_ hsettled
    · rw [hready, hport]
      rfl
    · rw [transition_sendMDSync hlocked, if_pos heligible]

end Calls

/-!
## What a call does
-/

/-- What the sender of port `i` has done with a structure. -/
structure Handled (pss : PortSyncSync) (i : PortIndex) (l l' : SyncLoop) :
    Prop where
  running : l'.stop = none
  rests : Rests l' i
  calls : l'.calls =
    l.calls ++
      if Eligible pss l i then [.mdSyncSend i (mdSyncFor pss l i)] else []
  instanceGlobal : l'.perPTPInstanceGlobal =
    if Eligible pss l i then
      withSyncReceiptTimeoutTime pss.syncReceiptTimeoutTime
        l.perPTPInstanceGlobal
    else
      l.perPTPInstanceGlobal
  below : l'.mdSyncSendSms i =
    if Eligible pss l i then handedOver i pss l else l.mdSyncSendSms i
  others : forall j, j ≠ i ->
    l'.perPortGlobal j = l.perPortGlobal j ∧
      l'.portSyncSyncSendSms j = l.portSyncSyncSendSms j ∧
      l'.mdSyncSendSms j = l.mdSyncSendSms j

theorem handled_ineligible {l l' : SyncLoop} {i : PortIndex}
    {pss : PortSyncSync} (hnot : ¬ Eligible pss l i) (hrunning : l'.stop = none)
    (hrests : Rests l' i) (hcalls : l'.calls = l.calls)
    (hinstance : l'.perPTPInstanceGlobal = l.perPTPInstanceGlobal)
    (hbelow : l'.mdSyncSendSms = l.mdSyncSendSms)
    (hothers : forall j, j ≠ i ->
      l'.perPortGlobal j = l.perPortGlobal j ∧
        l'.portSyncSyncSendSms j = l.portSyncSyncSendSms j) :
    Handled pss i l l' where
  running := hrunning
  rests := hrests
  calls := by rw [if_neg hnot, hcalls, List.append_nil]
  instanceGlobal := by rw [if_neg hnot, hinstance]
  below := by rw [if_neg hnot, hbelow]
  others j hj := ⟨(hothers j hj).left, (hothers j hj).right, by rw [hbelow]⟩

theorem atRest_load {l : SyncLoop} {i : PortIndex} {m : MDSyncSendMachine}
    (hrest : m.AtRest) (hm : l.mdSyncSendSms i = m)
    (hinstance : instanceSettings l.perPTPInstanceGlobal =
      instanceSettings m.vars.perPTPInstanceGlobal)
    (hport : portSettings (l.perPortGlobal i) =
      portSettings m.vars.perPortGlobal) :
    (loadMDSyncSend l i).AtRest := by
  subst hm
  exact hrest.withGlobals hinstance hport

section Handling

variable {l : SyncLoop} {i : PortIndex} (ts : UScaledNs) {pss : PortSyncSync}

theorem update_other {α : Type} {g : PortIndex -> α} {a : α} {j : PortIndex}
    (hj : j ≠ i) : Function.update g i a j = g j :=
  Function.update_of_ne hj a g

theorem sms_store (c : Control PortSyncSyncSendSMState) :
    ((machine i ts).store c l).portSyncSyncSendSms i =
      { l.portSyncSyncSendSms i with control := c } :=
  sms_assign i _ l

theorem rests_stored (hrest : Rests l i) :
    Rests ((machine i ts).store (l.portSyncSyncSendSms i).control
      (storePSSync i pss l)) i := by
  refine ⟨?_, ?_, ?_, hrest.below⟩
  · rw [sms_store]
    exact hrest.control
  · rw [sms_store, rcvd_storePSSync]
    exact Ptr.live_ne_released pss
  · rw [sms_store, rcvd_storePSSync]
    exact hrest.transmitted

/-- The structure has found a port that has become unable to send. -/
theorem rests_transmitInit (hrest : Rests l i) :
    Rests ((machine i ts).store (.rest transmitInit)
      (transmitInitAction i (storePSSync i pss l))) i := by
  have hport : (transmitInitAction i (storePSSync i pss l)).perPortGlobal i =
      { l.perPortGlobal i with syncSlowDown := false } :=
    port_assignPort i _ _
  have hsms : (transmitInitAction i
      (storePSSync i pss l)).portSyncSyncSendSms i =
      { (storePSSync i pss l).portSyncSyncSendSms i with
        rcvdPSSyncPSSS := false
        numberSyncTransmissions := 0 } := sms_assign i _ _
  refine ⟨?_, ?_, ?_, ?_⟩
  · rw [sms_store]
    exact Or.inl rfl
  · rw [sms_store, hsms, rcvd_storePSSync]
    exact Ptr.live_ne_released pss
  · rw [sms_store, hsms, rcvd_storePSSync]
    exact hrest.transmitted
  · change ((loadMDSyncSend l i).withGlobals l.perPTPInstanceGlobal
      ((transmitInitAction i (storePSSync i pss l)).perPortGlobal i)).AtRest
    rw [hport]
    exact hrest.below.withGlobals rfl rfl

theorem calls_sent :
    (sent i ts pss l).calls = l.calls ++ [.mdSyncSend i (mdSyncFor pss l i)] := by
  rw [sent_eq]
  rfl

/-- The structure has been handed to the machine below. -/
theorem rests_sent (hrest : Rests l i) (interval : UScaledNs) (number : UInt8)
    (slowDown : Bool) :
    Rests ((machine i ts).store (.rest .sendMDSync)
      (assignPort i
        { l.perPortGlobal i with
          syncLocked := true
          syncSlowDown := slowDown }
        (assign i
          { (taken i pss l).portSyncSyncSendSms i with
            rcvdPSSyncPSSS := false
            lastSyncSentTime := ts
            txMDSyncPtr := .live (mdSyncFor pss l i)
            interval1 := interval
            numberSyncTransmissions := number } (sent i ts pss l)))) i := by
  have hglobals : (handedOver i pss l).globals = (offered i pss l).globals :=
    MDSyncSendMachine.globals_recvMDSync (atRest_offered hrest) _
  have hinstance : instanceSettings
      (handedOver i pss l).vars.perPTPInstanceGlobal =
      instanceSettings l.perPTPInstanceGlobal :=
    congrArg (fun g => instanceSettings g.1) hglobals
  have hport : portSettings (handedOver i pss l).vars.perPortGlobal =
      portSettings (l.perPortGlobal i) :=
    congrArg (fun g => portSettings g.2) hglobals
  have hbelow : (sent i ts pss l).mdSyncSendSms i = handedOver i pss l := by
    rw [sent_eq]
    exact Function.update_self _ _ _
  refine ⟨?_, ?_, ?_, ?_⟩
  · rw [sms_store]
    exact Or.inr ⟨rfl, congrArg PerPortGlobal.syncLocked (port_assignPort i _ _)⟩
  · rw [sms_store, sms_assignPort, sms_assign, sms_taken]
    exact Ptr.live_ne_released pss
  · rw [sms_store, sms_assignPort, sms_assign]
    exact Ptr.live_ne_released _
  · refine atRest_load (atRest_handedOver hrest) hbelow ?_ ?_
    · exact hinstance.symm
    · exact (congrArg portSettings (port_assignPort i _ _)).trans hport.symm

theorem handled_recvPSSync (hoperating : l.resetting = false)
    (hrunning : l.stop = none) (hrest : Rests l i) :
    Handled pss i l (recvPSSync i ts pss l) := by
  by_cases heligible : Eligible pss l i
  · obtain ⟨interval, number, slowDown, hcall⟩ :=
      @recvPSSync_eligible l i ts pss hoperating hrunning hrest heligible
    rw [hcall]
    refine ⟨running_sent hrunning hrest, rests_sent ts hrest _ _ _, ?_, ?_, ?_,
      fun j hj => ⟨?_, ?_, ?_⟩⟩
    · rw [if_pos heligible]
      exact calls_sent ts
    · rw [if_pos heligible, sent_eq]
      rfl
    · rw [if_pos heligible, sent_eq]
      exact Function.update_self _ _ _
    · rw [sent_eq]
      exact (update_other hj).trans (update_other hj)
    · rw [sent_eq]
      exact (update_other hj).trans ((update_other hj).trans
        ((update_other hj).trans ((update_other hj).trans (update_other hj))))
    · rw [sent_eq]
      exact update_other hj
  · rcases @recvPSSync_ineligible l i ts pss hoperating hrunning hrest
      heligible with hcall | hcall
    · rw [hcall]
      refine handled_ineligible heligible hrunning (rests_stored ts hrest)
        rfl rfl rfl ?_
      exact fun j hj => ⟨rfl, (update_other hj).trans (update_other hj)⟩
    · rw [hcall]
      refine handled_ineligible heligible hrunning
        (rests_transmitInit ts hrest) rfl rfl rfl ?_
      exact fun j hj => ⟨update_other hj,
        (update_other hj).trans ((update_other hj).trans (update_other hj))⟩

end Handling

end PortSyncSyncSendSM

end TimeSync
end Ziggo
