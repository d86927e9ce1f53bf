import Ziggo.TimeSync.SyncLoop.Initialization
import Ziggo.TimeSync.TimeSyncMainLoop.Parts

/-!
# The surroundings of the machines for synchronization

The other groups set a few variables that the machines for synchronization read.
Their initialization reads none of them, so that it does not matter when it
happens.
-/

namespace Ziggo
namespace TimeSync

open Foundation TsnDrivers

/-- What the other groups set for the machines for synchronization. -/
structure Surroundings where
  selectedState : Port -> PortState
  gmPresent : Bool
  syncReceiptTimeoutTime : UScaledNs
  meanLinkDelay : PortIndex -> UScaledNs

namespace SyncLoop

def withSurroundings (e : Surroundings) (l : SyncLoop) : SyncLoop :=
  { l with
    perPTPInstanceGlobal :=
      { l.perPTPInstanceGlobal with
        selectedState := e.selectedState
        gmPresent := e.gmPresent
        syncReceiptTimeoutTime := e.syncReceiptTimeoutTime }
    perPortGlobal := fun i =>
      { l.perPortGlobal i with meanLinkDelay := e.meanLinkDelay i } }

def surroundings (l : SyncLoop) : Surroundings where
  selectedState := l.perPTPInstanceGlobal.selectedState
  gmPresent := l.perPTPInstanceGlobal.gmPresent
  syncReceiptTimeoutTime := l.perPTPInstanceGlobal.syncReceiptTimeoutTime
  meanLinkDelay i := (l.perPortGlobal i).meanLinkDelay

theorem setMeanLinkDelay_withSurroundings (e : Surroundings) (l : SyncLoop)
    (i : PortIndex) (delay : UScaledNs) :
    (l.withSurroundings e).setMeanLinkDelay i delay =
      l.withSurroundings
        { e with meanLinkDelay := Function.update e.meanLinkDelay i delay } := by
  have hports : Function.update (l.withSurroundings e).perPortGlobal i
        { (l.withSurroundings e).perPortGlobal i with meanLinkDelay := delay } =
      fun j => { l.perPortGlobal j with
        meanLinkDelay := Function.update e.meanLinkDelay i delay j } := by
    funext j
    by_cases hj : j = i
    · subst hj
      rw [Function.update_self, Function.update_self]
      rfl
    · rw [Function.update_of_ne hj, Function.update_of_ne hj]
      rfl
  unfold setMeanLinkDelay PortSyncSyncSendSM.assignPort
  rw [hports]
  rfl

/-!
## Loops that differ in nothing that the machines read
-/

def Sees (l l' : SyncLoop) : Prop :=
  l.Beside l'.perPTPInstanceGlobal l'.perPortGlobal l'.entities l'

theorem Sees.of_eq {l l' : SyncLoop} (h : l = l') : l.Sees l' := by
  rw [h]
  exact l'.beside_refl

/-- The sender with the globals that another one has found in its last call. -/
def withGlobals (m m' : MDSyncSendMachine) : MDSyncSendMachine :=
  { m with
    vars :=
      { m.vars with
        perPTPInstanceGlobal := m'.vars.perPTPInstanceGlobal
        perPortGlobal := m'.vars.perPortGlobal } }

theorem sees_of_sender (l : SyncLoop) (i : PortIndex)
    {m m' : MDSyncSendMachine} (h : m' = withGlobals m m') :
    Sees { l with mdSyncSendSms := Function.update l.mdSyncSendSms i m }
      { l with mdSyncSendSms := Function.update l.mdSyncSendSms i m' } := by
  let sms := Function.update l.mdSyncSendSms i m'
  refine ⟨{ intervals := fun j =>
              (l.perPortGlobal j).syncReceiptTimeoutTimeInterval
            perPTPInstanceGlobal := fun j => (sms j).vars.perPTPInstanceGlobal
            perPortGlobal := fun j => (sms j).vars.perPortGlobal }, ?_⟩
  refine congrArg (fun sms => { l with mdSyncSendSms := sms }) (funext fun j => ?_)
  unfold sendBeside entities
  dsimp only [sms]
  by_cases hj : j = i
  · subst hj
    have hentity : m'.vars.mdEntityGlobal =
        (withGlobals m m').vars.mdEntityGlobal :=
      congrArg (fun m : MDSyncSendMachine => m.vars.mdEntityGlobal) h
    rw [Function.update_self, Function.update_self, hentity]
    exact h
  · rw [Function.update_of_ne hj, Function.update_of_ne hj]
    rfl

/-!
## Initialization
-/

/-- No machine has ended the process. -/
structure Begins (l : SyncLoop) : Prop where
  running : l.stop = none
  senders : forall i, (l.mdSyncSendSms i).vars.process.stop = none

/-- A statement that initializes machines for synchronization. -/
structure Initializes (statement : SyncLoop -> SyncLoop) : Prop where
  sees : forall x ps es, Preserves (Beside x ps es) statement
  begins : forall l, l.Begins -> (statement l).Begins
  global : forall l, l.Begins ->
    (statement l).perPTPInstanceGlobal = l.perPTPInstanceGlobal
  environment : forall l, l.Begins ->
    (statement l).environment = l.environment
  surroundings : forall l e, l.Begins ->
    ((statement l).withSurroundings e).Sees (statement (l.withSurroundings e))

section Initializes

theorem initializes_site : Initializes SiteSyncSyncSM.initSiteSyncSyncSm where
  sees _ _ _ := SiteSyncSyncSM.beside_init
  begins l h := by
    rw [SiteSyncSyncSM.initSiteSyncSyncSm_eq h.running]
    exact ⟨h.running, h.senders⟩
  global l h := by
    rw [SiteSyncSyncSM.initSiteSyncSyncSm_eq h.running]
  environment l h := by
    rw [SiteSyncSyncSM.initSiteSyncSyncSm_eq h.running]
    rfl
  surroundings l e h := by
    have hrunning : (l.withSurroundings e).stop = none := h.running
    rw [SiteSyncSyncSM.initSiteSyncSyncSm_eq h.running,
      SiteSyncSyncSM.initSiteSyncSyncSm_eq hrunning]
    exact .of_eq rfl

theorem initializes_slave :
    Initializes ClockSlaveSyncSM.initClockSlaveSyncSm where
  sees _ _ _ := ClockSlaveSyncSM.beside_init
  begins l h := by
    rw [ClockSlaveSyncSM.initClockSlaveSyncSm_eq h.running]
    exact ⟨h.running, h.senders⟩
  global l h := by
    rw [ClockSlaveSyncSM.initClockSlaveSyncSm_eq h.running]
  environment l h := by
    rw [ClockSlaveSyncSM.initClockSlaveSyncSm_eq h.running]
    rfl
  surroundings l e h := by
    have hrunning : (l.withSurroundings e).stop = none := h.running
    rw [ClockSlaveSyncSM.initClockSlaveSyncSm_eq h.running,
      ClockSlaveSyncSM.initClockSlaveSyncSm_eq hrunning]
    exact .of_eq rfl

theorem initializes_receiver (i : PortIndex) :
    Initializes (PortSyncSyncReceiveSM.initPortSyncSyncReceiveSm i) where
  sees _ _ _ := PortSyncSyncReceiveSM.beside_init
  begins l h := by
    rw [PortSyncSyncReceiveSM.initPortSyncSyncReceiveSm_eq h.running]
    exact ⟨h.running, h.senders⟩
  global l h := by
    rw [PortSyncSyncReceiveSM.initPortSyncSyncReceiveSm_eq h.running]
    rfl
  environment l h := by
    rw [PortSyncSyncReceiveSM.initPortSyncSyncReceiveSm_eq h.running]
    rfl
  surroundings l e h := by
    have hrunning : (l.withSurroundings e).stop = none := h.running
    rw [PortSyncSyncReceiveSM.initPortSyncSyncReceiveSm_eq h.running,
      PortSyncSyncReceiveSM.initPortSyncSyncReceiveSm_eq hrunning]
    exact .of_eq rfl

theorem environment_senderStarted (i : PortIndex) (l : SyncLoop) :
    (senderStarted i l).environment = l.environment := by
  have hport : forall {α : Type} (f : PerPortGlobal -> α),
      f { l.perPortGlobal i with syncSlowDown := false } =
        f (l.perPortGlobal i) ->
      (fun j => f ((senderStarted i l).perPortGlobal j)) =
        fun j => f (l.perPortGlobal j) := fun f hf => map_update f hf
  unfold environment settings
  rw [hport TimeSync.portSettings rfl,
    hport PerPortGlobal.currentLogSyncInterval rfl,
    hport PerPortGlobal.syncReceiptTimeout rfl,
    hport PerPortGlobal.meanLinkDelay rfl]
  rfl

theorem senderStarted_withSurroundings (e : Surroundings) (i : PortIndex)
    (l : SyncLoop) :
    senderStarted i (l.withSurroundings e) =
      (senderStarted i l).withSurroundings e := by
  have hports : Function.update (l.withSurroundings e).perPortGlobal i
        { (l.withSurroundings e).perPortGlobal i with syncSlowDown := false } =
      fun j => { (senderStarted i l).perPortGlobal j with
        meanLinkDelay := e.meanLinkDelay j } := by
    funext j
    by_cases hj : j = i
    · subst hj
      have hport : (senderStarted j l).perPortGlobal j =
          { l.perPortGlobal j with syncSlowDown := false } :=
        Function.update_self _ _ _
      rw [Function.update_self, hport]
      rfl
    · have hport : (senderStarted i l).perPortGlobal j = l.perPortGlobal j :=
        Function.update_of_ne hj _ _
      rw [Function.update_of_ne hj, hport]
      rfl
  exact congrArg
    (fun ps => { (senderStarted i l).withSurroundings e with perPortGlobal := ps })
    hports

theorem initializes_sender (i : PortIndex) :
    Initializes (PortSyncSyncSendSM.initPortSyncSyncSendSm i) where
  sees _ _ _ := PortSyncSyncSendSM.beside_init
  begins l h := by
    rw [PortSyncSyncSendSM.initPortSyncSyncSendSm_eq h.running]
    exact ⟨h.running, h.senders⟩
  global l h := by
    rw [PortSyncSyncSendSM.initPortSyncSyncSendSm_eq h.running]
    rfl
  environment l h := by
    rw [PortSyncSyncSendSM.initPortSyncSyncSendSm_eq h.running]
    exact environment_senderStarted i l
  surroundings l e h := by
    have hrunning : (l.withSurroundings e).stop = none := h.running
    rw [PortSyncSyncSendSM.initPortSyncSyncSendSm_eq h.running,
      PortSyncSyncSendSM.initPortSyncSyncSendSm_eq hrunning]
    exact .of_eq (senderStarted_withSurroundings e i l).symm

theorem storeMDSyncSend_running {l : SyncLoop} (hl : l.stop = none)
    {m : MDSyncSendMachine} (hm : m.vars.process.stop = none) (i : PortIndex) :
    PortSyncSyncSendSM.storeMDSyncSend i m l =
      { l with mdSyncSendSms := Function.update l.mdSyncSendSms i m } := by
  unfold PortSyncSyncSendSM.storeMDSyncSend
  rw [hm, hl]
  rfl

/-- The machine `i` of the senders as its initialization leaves it. -/
def startedSender (l : SyncLoop) (i : PortIndex) : MDSyncSendMachine where
  state := .initializing
  lastState := some .initializing
  vars := MDSyncSendSM.initializingAction
    { (PortSyncSyncSendSM.loadMDSyncSend l i).vars with
      rcvdMDSyncPtr := .null
      rcvdMDTimestampReceivePtr := .null
      txSyncPtr := .null
      txFollowUpPtr := .null }

theorem initMDSyncSend_eq {l : SyncLoop} (h : l.Begins) (i : PortIndex) :
    initMDSyncSend i l =
      { l with
        mdSyncSendSms :=
          Function.update l.mdSyncSendSms i (startedSender l i) } := by
  have hrunning : (PortSyncSyncSendSM.loadMDSyncSend l i).vars.process.stop =
      none := h.senders i
  have hstarted : (startedSender l i).vars.process.stop = none := h.senders i
  unfold initMDSyncSend
  rw [MDSyncSendMachine.initMdSyncSendSm_eq hrunning]
  exact storeMDSyncSend_running h.running hstarted i

theorem initializes_mdSyncSend (i : PortIndex) :
    Initializes (initMDSyncSend i) where
  sees _ _ _ := beside_initMDSyncSend i
  begins l h := by
    rw [initMDSyncSend_eq h]
    refine ⟨h.running, ?_⟩
    exact (Function.forall_update_iff _ fun _ (sm : MDSyncSendMachine) =>
      sm.vars.process.stop = none).mpr ⟨h.senders i, fun j _ => h.senders j⟩
  global l h := by
    rw [initMDSyncSend_eq h]
  environment l h := by
    rw [initMDSyncSend_eq h]
    rfl
  surroundings l e h := by
    have hbegins : (l.withSurroundings e).Begins := ⟨h.running, h.senders⟩
    rw [initMDSyncSend_eq h, initMDSyncSend_eq hbegins]
    exact sees_of_sender (l.withSurroundings e) i rfl

theorem initializes_messages (i : PortIndex) :
    Initializes (MDSyncReceiveSM.initMdSyncReceiveSm i) where
  sees _ _ _ := MDSyncReceiveSM.beside_init
  begins l h := by
    rw [MDSyncReceiveSM.initMdSyncReceiveSm_eq h.running]
    exact ⟨h.running, h.senders⟩
  global l h := by
    rw [MDSyncReceiveSM.initMdSyncReceiveSm_eq h.running]
    rfl
  environment l h := by
    rw [MDSyncReceiveSM.initMdSyncReceiveSm_eq h.running]
    rfl
  surroundings l e h := by
    have hrunning : (l.withSurroundings e).stop = none := h.running
    rw [MDSyncReceiveSM.initMdSyncReceiveSm_eq h.running,
      MDSyncReceiveSM.initMdSyncReceiveSm_eq hrunning]
    exact .of_eq rfl

end Initializes

end SyncLoop

end TimeSync
end Ziggo
