import Ziggo.TimeSync.SyncLoop.Invariant

/-!
# The first state of the loop

The machines are initialized one after the other, the site and the clock slave
first and then those of each port.
-/

namespace Ziggo
namespace TimeSync

open Foundation TsnDrivers

namespace SiteSyncSyncSM

open SiteSyncSyncSMState SyncLoop

theorem initSiteSyncSyncSm_eq {l : SyncLoop} (hrunning : l.stop = none) :
    initSiteSyncSyncSm l =
      { l with
        siteSyncSyncSm :=
          { l.siteSyncSyncSm with
            rcvdPSSyncSSS := false
            rcvdPSSyncPtrSSS := .null
            txPSSyncPtrSSS := .null
            control := .rest initializing } } := by
  unfold initSiteSyncSyncSm run
  exact (Embedded.run_initial 14 rfl (ite_eq_or_eq _ _ _).symm rfl hrunning rfl
    (by simp) (Or.inr rfl)).trans rfl

end SiteSyncSyncSM

namespace ClockSlaveSyncSM

open ClockSlaveSyncSMState SyncLoop

theorem initClockSlaveSyncSm_eq {l : SyncLoop} (hrunning : l.stop = none) :
    initClockSlaveSyncSm l =
      { l with
        clockSlaveSyncSm :=
          { l.clockSlaveSyncSm with
            rcvdPSSyncCSS := false
            rcvdLocalClockTickCSS := false
            rcvdPSSyncPtrCSS := .null
            isEmptyPeriod := true
            listHeadPeriod := 0
            listTailPeriod := Fin.last _
            control := .rest initializing } } := by
  unfold initClockSlaveSyncSm run
  exact (Embedded.run_initial 14 rfl (ite_eq_or_eq _ _ _).symm rfl hrunning rfl
    (by simp) (Or.inr rfl)).trans rfl

end ClockSlaveSyncSM

namespace PortSyncSyncReceiveSM

open SyncLoop

theorem assign_assign (i : PortIndex) (sm sm' : PortSyncSyncReceiveSM)
    (l : SyncLoop) : assign i sm (assign i sm' l) = assign i sm l :=
  congrArg (fun sms => { l with portSyncSyncReceiveSms := sms })
    (Function.update_idem _ _ _)

theorem initPortSyncSyncReceiveSm_eq {l : SyncLoop} (hrunning : l.stop = none)
    (i : PortIndex) :
    initPortSyncSyncReceiveSm i l =
      assign i
        { l.portSyncSyncReceiveSms i with
          rcvdMDSyncPSSR := false
          rcvdMDSyncPtrPSSR := .null
          rateRatio := 1
          control := .rest .discard } l := by
  have hcontrol := fun sm => congrArg control (sms_assign i sm l)
  unfold initPortSyncSyncReceiveSm run
  refine (Embedded.run_initial 14 (s := .init) (t := .discard) (hcontrol _)
    (ite_eq_or_eq _ _ _).symm rfl hrunning rfl (by simp) (Or.inr ?_)).trans ?_
  · change Except.ok (discardStateTransition i (clearFlag i _)) = _
    unfold discardStateTransition clearFlag
    rw [sms_assign]
    simp
  · change assign i { (clearFlag i _).portSyncSyncReceiveSms i with
      control := _ } (clearFlag i _) = _
    unfold clearFlag
    rw [sms_assign, sms_assign, assign_assign, assign_assign]

end PortSyncSyncReceiveSM

namespace PortSyncSyncSendSM

open PortSyncSyncSendSMState SyncLoop

theorem assign_assign (i : PortIndex) (sm sm' : PortSyncSyncSendSM)
    (l : SyncLoop) : assign i sm (assign i sm' l) = assign i sm l :=
  congrArg (fun sms => { l with portSyncSyncSendSms := sms })
    (Function.update_idem _ _ _)

theorem initPortSyncSyncSendSm_eq {l : SyncLoop} (hrunning : l.stop = none)
    (i : PortIndex) :
    initPortSyncSyncSendSm i l =
      clearSlowDown i
        (assign i
          { l.portSyncSyncSendSms i with
            rcvdPSSyncPSSS := false
            rcvdPSSyncPtrPSSS := .null
            txMDSyncPtr := .null
            numberSyncTransmissions := 0
            control := .rest transmitInit } l) := by
  have hcontrol := fun sm => congrArg control (sms_assign i sm l)
  unfold initPortSyncSyncSendSm run
  refine (Embedded.run_initial 14 (s := init) (t := transmitInit) (hcontrol _)
    (ite_eq_or_eq _ _ _).symm rfl hrunning rfl (by simp) (Or.inr ?_)).trans ?_
  · change idleStateTransition transmitInit i (transmitInitAction i _) = _
    unfold idleStateTransition syncRequested transmitInitAction clearSlowDown
    rw [sms_assignPort, sms_assign]
    rfl
  · change assign i { (transmitInitAction i _).portSyncSyncSendSms i with
      control := _ } (transmitInitAction i _) = _
    unfold transmitInitAction clearSlowDown
    rw [sms_assignPort, sms_assign, sms_assign, assign_assign]
    exact congrArg (assignPort i _) (assign_assign i _ _ l)

end PortSyncSyncSendSM

namespace MDSyncReceiveSM

open SyncLoop

theorem assign_assign (i : PortIndex) (sm sm' : MDSyncReceiveSM)
    (l : SyncLoop) : assign i sm (assign i sm' l) = assign i sm l :=
  congrArg (fun sms => { l with mdSyncReceiveSms := sms })
    (Function.update_idem _ _ _)

theorem initMdSyncReceiveSm_eq {l : SyncLoop} (hrunning : l.stop = none)
    (i : PortIndex) :
    initMdSyncReceiveSm i l =
      assign i
        { l.mdSyncReceiveSms i with
          rcvdSync := false
          rcvdFollowUp := false
          rcvdSyncPtr := .null
          rcvdFollowUpPtr := .null
          control := .rest .discard } l := by
  have hcontrol := fun sm => congrArg control (sms_assign i sm l)
  unfold initMdSyncReceiveSm run
  refine (Embedded.run_initial 14 (s := .init) (t := .discard) (hcontrol _)
    (ite_eq_or_eq _ _ _).symm rfl hrunning rfl (by simp)
    settled_discard).trans ?_
  change assign i { (discardAction i _).mdSyncReceiveSms i with
    control := _ } (discardAction i _) = _
  unfold discardAction
  rw [sms_assign, sms_assign, assign_assign, assign_assign]

end MDSyncReceiveSM

namespace SyncLoop

/-!
## The ports
-/

/-- The machines of port `i` wait for a call. -/
structure PortRests (l : SyncLoop) (i : PortIndex) : Prop where
  receiver : PortSyncSyncReceiveSM.Rests l i
  sender : PortSyncSyncSendSM.Rests l i
  messages : MDSyncReceiveSM.Rests l i
  noSync : (l.mdSyncReceiveSms i).rcvdSyncPtr = .null
  noFollowUp : (l.mdSyncReceiveSms i).rcvdFollowUpPtr = .null

/-- The machines of port `i` as they are before their initialization. -/
def Fresh (l : SyncLoop) (i : PortIndex) : Prop :=
  (l.mdSyncSendSms i).vars.process.stop = none

/-- The loop while its ports are initialized. -/
structure Starting (done : PortIndex -> Prop) (l : SyncLoop) : Prop where
  running : l.stop = none
  configured : l.Configured
  site : exists s, s ≠ .init ∧ l.siteSyncSyncSm.control = .rest s
  received : l.siteSyncSyncSm.rcvdPSSyncPtrSSS ≠ .released
  transmitted : l.siteSyncSyncSm.txPSSyncPtrSSS ≠ .released
  slave : l.clockSlaveSyncSm.Rests
  ports : forall i, done i -> PortRests l i
  fresh : forall i, ¬ done i -> Fresh l i

section Ports

variable {l : SyncLoop} {i : PortIndex}

/-- What `MDSyncSendSM` of port `i` is once it has been initialized. -/
def startedMDSyncSend (l : SyncLoop) (i : PortIndex) : MDSyncSendMachine :=
  .initMdSyncSendSm (PortSyncSyncSendSM.loadMDSyncSend l i).vars

theorem configured_load (hoperating : l.resetting = false) (i : PortIndex) :
    (PortSyncSyncSendSM.loadMDSyncSend l i).vars.Configured := by
  unfold resetting at hoperating
  have hset := of_decide_eq_false hoperating
  rw [not_or] at hset
  have hbegin : l.perPTPInstanceGlobal.BEGIN = false := by
    simpa using hset.left
  have henable : l.perPTPInstanceGlobal.instanceEnable = true := by
    simpa using hset.right
  exact ⟨hbegin, henable⟩

theorem atRest_startedMDSyncSend (hoperating : l.resetting = false)
    (hfresh : Fresh l i) : (startedMDSyncSend l i).AtRest :=
  MDSyncSendMachine.atRest_init (configured_load hoperating i) hfresh

theorem globals_startedMDSyncSend (hfresh : Fresh l i) :
    (startedMDSyncSend l i).globals =
      (l.perPTPInstanceGlobal, l.perPortGlobal i) := by
  have hrunning : (PortSyncSyncSendSM.loadMDSyncSend l i).vars.process.stop =
      none := hfresh
  unfold startedMDSyncSend
  rw [MDSyncSendMachine.initMdSyncSendSm_eq hrunning]
  rfl

def receiverStarted (i : PortIndex) (l : SyncLoop) : SyncLoop :=
  PortSyncSyncReceiveSM.assign i
    { l.portSyncSyncReceiveSms i with
      rcvdMDSyncPSSR := false
      rcvdMDSyncPtrPSSR := .null
      rateRatio := 1
      control := .rest .discard } l

def senderStarted (i : PortIndex) (l : SyncLoop) : SyncLoop :=
  PortSyncSyncSendSM.clearSlowDown i
    (PortSyncSyncSendSM.assign i
      { l.portSyncSyncSendSms i with
        rcvdPSSyncPSSS := false
        rcvdPSSyncPtrPSSS := .null
        txMDSyncPtr := .null
        numberSyncTransmissions := 0
        control := .rest .transmitInit } l)

/-- The receiver of messages of port `i` has been initialized. -/
def messagesStarted (i : PortIndex) (l : SyncLoop) : SyncLoop :=
  MDSyncReceiveSM.assign i
    { l.mdSyncReceiveSms i with
      rcvdSync := false
      rcvdFollowUp := false
      rcvdSyncPtr := .null
      rcvdFollowUpPtr := .null
      control := .rest .discard } l

/-- The variables once the machines of port `i` have been initialized. -/
def started (i : PortIndex) (l : SyncLoop) : SyncLoop :=
  messagesStarted i (initMDSyncSend i (senderStarted i (receiverStarted i l)))

theorem running_initMDSyncSend (hoperating : l.resetting = false)
    (hrunning : l.stop = none) (hfresh : Fresh l i) :
    (initMDSyncSend i l).stop = none := by
  have hrest := atRest_startedMDSyncSend hoperating hfresh
  change l.stop.or (startedMDSyncSend l i).vars.process.stop = none
  rw [hrunning, hrest.running]
  rfl

theorem initPort_eq (hoperating : l.resetting = false)
    (hrunning : l.stop = none) (hfresh : Fresh l i) :
    initPort l i = started i l := by
  have hreceiver := @PortSyncSyncReceiveSM.initPortSyncSyncReceiveSm_eq l
    hrunning i
  have hsender := @PortSyncSyncSendSM.initPortSyncSyncSendSm_eq
    (receiverStarted i l) hrunning i
  have hsend := @running_initMDSyncSend (senderStarted i (receiverStarted i l))
    i hoperating hrunning hfresh
  have hmessages := @MDSyncReceiveSM.initMdSyncReceiveSm_eq
    (initMDSyncSend i (senderStarted i (receiverStarted i l))) hsend i
  calc
    initPort l i =
        (((receiverStarted i l).thenDo
          (PortSyncSyncSendSM.initPortSyncSyncSendSm i)).thenDo
          (initMDSyncSend i)).thenDo (MDSyncReceiveSM.initMdSyncReceiveSm i) := by
      unfold initPort
      rw [thenDo_running hrunning, hreceiver]
      rfl
    _ = ((senderStarted i (receiverStarted i l)).thenDo
          (initMDSyncSend i)).thenDo
          (MDSyncReceiveSM.initMdSyncReceiveSm i) := by
      rw [thenDo_running (l := receiverStarted i l) hrunning, hsender]
      rfl
    _ = (initMDSyncSend i (senderStarted i (receiverStarted i l))).thenDo
          (MDSyncReceiveSM.initMdSyncReceiveSm i) := by
      rw [thenDo_running (l := senderStarted i (receiverStarted i l)) hrunning]
    _ = started i l := by
      rw [thenDo_running hsend, hmessages]
      rfl

theorem settings_started (i : PortIndex) (l : SyncLoop) :
    (started i l).settings = l.settings := by
  have hport : forall {α : Type} (f : PerPortGlobal -> α),
      f { l.perPortGlobal i with syncSlowDown := false } =
        f (l.perPortGlobal i) ->
      (fun j => f ((started i l).perPortGlobal j)) =
        fun j => f (l.perPortGlobal j) := fun f hf => map_update f hf
  unfold settings
  rw [hport TimeSync.portSettings rfl,
    hport PerPortGlobal.currentLogSyncInterval rfl,
    hport PerPortGlobal.syncReceiptTimeout rfl]
  rfl

theorem receiver_started : PortSyncSyncReceiveSM.Rests (started i l) i := by
  have hsms : (started i l).portSyncSyncReceiveSms i =
      { l.portSyncSyncReceiveSms i with
        rcvdMDSyncPSSR := false
        rcvdMDSyncPtrPSSR := .null
        rateRatio := 1
        control := .rest .discard } :=
    PortSyncSyncReceiveSM.sms_assign i _ l
  refine ⟨⟨.discard, by simp, ?_⟩, ?_⟩
  · rw [hsms]
  · rw [hsms]
    exact Ptr.null_ne_released

theorem sender_started (hoperating : l.resetting = false)
    (hfresh : Fresh l i) : PortSyncSyncSendSM.Rests (started i l) i := by
  have hsms : (started i l).portSyncSyncSendSms i =
      { l.portSyncSyncSendSms i with
        rcvdPSSyncPSSS := false
        rcvdPSSyncPtrPSSS := .null
        txMDSyncPtr := .null
        numberSyncTransmissions := 0
        control := .rest .transmitInit } :=
    PortSyncSyncSendSM.sms_assign i _ (receiverStarted i l)
  have hglobals := @globals_startedMDSyncSend
    (senderStarted i (receiverStarted i l)) i hfresh
  refine ⟨?_, ?_, ?_, ?_⟩
  · rw [hsms]
    exact Or.inl rfl
  · rw [hsms]
    exact Ptr.null_ne_released
  · rw [hsms]
    exact Ptr.null_ne_released
  · refine PortSyncSyncSendSM.atRest_load
      (@atRest_startedMDSyncSend (senderStarted i (receiverStarted i l)) i
        hoperating hfresh) (Function.update_self _ _ _) ?_ ?_
    · exact (congrArg (fun g => instanceSettings g.1) hglobals).symm
    · exact (congrArg (fun g => portSettings g.2) hglobals).symm

theorem sms_started (i : PortIndex) (l : SyncLoop) :
    (started i l).mdSyncReceiveSms i =
      { l.mdSyncReceiveSms i with
        rcvdSync := false
        rcvdFollowUp := false
        rcvdSyncPtr := .null
        rcvdFollowUpPtr := .null
        control := .rest .discard } :=
  MDSyncReceiveSM.sms_assign i _ _

theorem messages_started : MDSyncReceiveSM.Rests (started i l) i := by
  have hsms := sms_started i l
  refine ⟨⟨.discard, by simp, ?_⟩, ?_, ?_, fun hflag => ?_, fun _ => ?_,
    fun hflag => ?_, fun hcontrol => ?_⟩
  · rw [hsms]
  · rw [hsms]
    exact Ptr.null_ne_released
  · rw [hsms]
    exact Ptr.null_ne_released
  · rw [hsms] at hflag
    cases hflag
  · rw [hsms]
  · rw [hsms] at hflag
    cases hflag
  · rw [hsms] at hcontrol
    cases hcontrol

theorem portRests_other {j : PortIndex} (hj : j ≠ i) (h : PortRests l j) :
    PortRests (started i l) j := by
  have hsettings := settings_started i l
  have hport := @PortSyncSyncSendSM.update_other i _ l.perPortGlobal
    { l.perPortGlobal i with syncSlowDown := false } j hj
  have hreceiver : (started i l).portSyncSyncReceiveSms j =
      l.portSyncSyncReceiveSms j := PortSyncSyncSendSM.update_other hj
  have hmessages : (started i l).mdSyncReceiveSms j = l.mdSyncReceiveSms j :=
    PortSyncSyncSendSM.update_other hj
  refine ⟨⟨?_, ?_⟩, ?_, ?_, ?_, ?_⟩
  · rw [hreceiver]
    exact h.receiver.control
  · rw [hreceiver]
    exact h.receiver.received
  · exact h.sender.of_unchanged hsettings
      (congrArg PerPortGlobal.syncLocked hport)
      (PortSyncSyncSendSM.update_other hj) (PortSyncSyncSendSM.update_other hj)
  · exact MDSyncReceiveSM.rests_of_unchanged h.messages hmessages
      (PortSyncSyncSendSM.portReady_of_settings hsettings j)
  · rw [hmessages]
    exact h.noSync
  · rw [hmessages]
    exact h.noFollowUp

theorem Starting.initPort {done : PortIndex -> Prop} (h : Starting done l)
    (hi : ¬ done i) :
    Starting (fun j => j = i ∨ done j) (initPort l i) := by
  have hfresh := h.fresh i hi
  have hoperating := h.configured.operating
  rw [initPort_eq hoperating h.running hfresh]
  refine ⟨?_, h.configured.of_settings (settings_started i l), h.site,
    h.received, h.transmitted, h.slave, fun j hj => ?_, fun j hj => ?_⟩
  · exact @running_initMDSyncSend (senderStarted i (receiverStarted i l)) i
      hoperating h.running hfresh
  · by_cases hne : j = i
    · subst hne
      refine ⟨receiver_started, sender_started hoperating hfresh,
        messages_started, ?_, ?_⟩
      · rw [sms_started]
      · rw [sms_started]
    · exact portRests_other hne (h.ports j (hj.resolve_left hne))
  · rw [not_or] at hj
    have hbelow : (started i l).mdSyncSendSms j = l.mdSyncSendSms j :=
      PortSyncSyncSendSM.update_other hj.left
    unfold Fresh
    rw [hbelow]
    exact h.fresh j hj.right

end Ports

/-!
## The first state
-/

section Start

variable (config : Config) (memory : SyncMemory)

theorem configured_initial : (initial config memory).Configured :=
  ⟨rfl, fun _ => rfl, fun _ => rfl⟩

def siteStarted (l : SyncLoop) : SyncLoop :=
  { l with
    siteSyncSyncSm :=
      { l.siteSyncSyncSm with
        rcvdPSSyncSSS := false
        rcvdPSSyncPtrSSS := .null
        txPSSyncPtrSSS := .null
        control := .rest .initializing } }

def slaveStarted (l : SyncLoop) : SyncLoop :=
  { l with
    clockSlaveSyncSm :=
      { l.clockSlaveSyncSm with
        rcvdPSSyncCSS := false
        rcvdLocalClockTickCSS := false
        rcvdPSSyncPtrCSS := .null
        isEmptyPeriod := true
        listHeadPeriod := 0
        listTailPeriod := Fin.last _
        control := .rest .initializing } }

/-- The loop when the machines of its ports are initialized. -/
theorem instance_started :
    ((initial config memory).thenDo
        SiteSyncSyncSM.initSiteSyncSyncSm).thenDo
          ClockSlaveSyncSM.initClockSlaveSyncSm =
      slaveStarted (siteStarted (initial config memory)) := by
  have hrunning : (initial config memory).stop = none := rfl
  have hsite : SiteSyncSyncSM.initSiteSyncSyncSm (initial config memory) =
      siteStarted (initial config memory) :=
    SiteSyncSyncSM.initSiteSyncSyncSm_eq hrunning
  have hslave : ClockSlaveSyncSM.initClockSlaveSyncSm
        (siteStarted (initial config memory)) =
      slaveStarted (siteStarted (initial config memory)) :=
    ClockSlaveSyncSM.initClockSlaveSyncSm_eq hrunning
  rw [thenDo_running hrunning, hsite,
    thenDo_running (l := siteStarted (initial config memory)) hrunning, hslave]

theorem starting_initial :
    Starting (fun _ => False)
      (slaveStarted (siteStarted (initial config memory))) := by
  refine ⟨rfl, (configured_initial config memory).of_settings rfl,
    ⟨.initializing, by simp, rfl⟩, Ptr.null_ne_released, Ptr.null_ne_released,
    ⟨⟨.initializing, by simp, rfl⟩, Ptr.null_ne_released⟩,
    fun _ h => h.elim, fun i _ => ?_⟩
  change ((initial config memory).mdSyncSendSms i).vars.process.stop = none
  rfl

theorem starting_start :
    Starting (fun j => j ∈ List.finRange nPorts ∨ False)
      (start config memory) := by
  unfold start
  rw [instance_started]
  exact foldl_distinct (I := Starting) (fun _ _ _ hi h => h.initPort hi)
    (List.nodup_finRange nPorts) (fun _ _ h => h)
    (starting_initial config memory)

theorem portRests_start (i : PortIndex) : PortRests (start config memory) i :=
  (starting_start config memory).ports i (Or.inl (List.mem_finRange i))

/-- All machines wait once the loop has initialized them. -/
theorem atRest_start : (start config memory).AtRest := by
  have hstart := starting_start config memory
  have hports := portRests_start config memory
  exact ⟨⟨hstart.running, hstart.configured,
      ⟨hstart.site, hstart.received, hstart.transmitted, hstart.slave,
        fun i => (hports i).sender⟩, fun i => (hports i).receiver⟩,
    fun i => (hports i).messages⟩

/-- In every run the process has ended or all machines wait. -/
theorem steady_after (es : List Event) : (after config memory es).Steady := by
  have hstart : (start config memory).Steady := fun _ =>
    atRest_start config memory
  unfold after
  exact @run_invariant_always _ _ step (start config memory) Steady hstart
    (fun _ e h => steady_step h e) es

end Start

end SyncLoop

end TimeSync
end Ziggo
