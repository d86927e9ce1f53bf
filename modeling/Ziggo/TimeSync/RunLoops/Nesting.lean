import Ziggo.TimeSync.AnnounceLoop.Frames
import Ziggo.TimeSync.RunLoops.Synchronization
import Ziggo.TimeSync.SyncLoop.Initialization

/-!
# Run loops within run loops

The machines for synchronization call each other, so that the loop of one
machine runs within an action of another.  All of these loops end, from the
first call on: the only loop that may not end is that of a division.
-/

namespace Ziggo
namespace TimeSync

open Foundation TsnDrivers

namespace SyncLoop

/-- A division has been begun that does not end. -/
def Stalled (l : SyncLoop) : Prop :=
  exists t1 t2, Call.uscalednsDiv t1 t2 ∈ l.calls ∧
    uscalednsDiv t1 t2 = .error .diverges

/-- The sender of port `i` that has sent something is locked to what comes. -/
def SenderLocked (i : PortIndex) (l : SyncLoop) : Prop :=
  (l.portSyncSyncSendSms i).control.state = .sendMDSync ->
    (l.perPortGlobal i).syncLocked = true

/-- So far each loop of a machine has ended, and the next one will end. -/
structure Convergent (l : SyncLoop) : Prop where
  locked : l.stop = none -> forall i, SenderLocked i l
  below : forall i, (l.mdSyncSendSms i).vars.process.stop ≠ some .diverges
  ends : l.stop = some .diverges -> l.Stalled

/-- The loops of a statement end. -/
def Converges (statement : SyncLoop -> SyncLoop) : Prop :=
  forall l, l.stop = none -> l.Convergent -> (statement l).Convergent

/-!
## Rules
-/

section Rules

variable {l l' : SyncLoop} {statement : SyncLoop -> SyncLoop}

theorem Convergent.of_unchanged (h : l.Convergent) (hstop : l'.stop = l.stop)
    (hcalls : l'.calls = l.calls) (hbelow : l'.mdSyncSendSms = l.mdSyncSendSms)
    (hlocked : forall i, SenderLocked i l -> SenderLocked i l') :
    l'.Convergent where
  locked hrun i := by
    rw [hstop] at hrun
    exact hlocked i (h.locked hrun i)
  below := by
    rw [hbelow]
    exact h.below
  ends hdiverges := by
    rw [hstop] at hdiverges
    unfold Stalled
    rw [hcalls]
    exact h.ends hdiverges

theorem Convergent.halt (h : l.Convergent) {f : Fault} (hf : f ≠ .diverges) :
    (l.halt f).Convergent where
  locked hrun := absurd hrun (stop_halt f l)
  below := h.below
  ends hdiverges := absurd (Option.some.inj hdiverges) hf

theorem Convergent.call (h : l.Convergent) (hrun : l.stop = none) (c : Call) :
    (l.call c).Convergent where
  locked := h.locked
  below := h.below
  ends hdiverges := by
    have hstopped : l.stop = some .diverges := hdiverges
    rw [hrun] at hstopped
    cases hstopped

theorem Convergent.thenDo (h : l.Convergent) (hstatement : Converges statement) :
    (l.thenDo statement).Convergent := by
  by_cases hrun : l.stop = none
  · rw [thenDo_running hrun]
    exact hstatement l hrun h
  · rw [thenDo_stopped hrun]
    exact h

theorem Convergent.withObject (h : l.Convergent) (hrun : l.stop = none)
    {Object : Type} {statement : Object -> SyncLoop -> SyncLoop}
    (hstatement : forall object, Converges (statement object))
    (p : Ptr Object) : (l.withObject p statement).Convergent := by
  unfold SyncLoop.withObject
  cases hobject : p.deref with
  | error f =>
      refine h.halt ?_
      rw [Ptr.deref_eq_error hobject]
      decide
  | ok object => exact hstatement object l hrun h

theorem Convergent.freeThen (h : l.Convergent) (hrun : l.stop = none)
    {Object : Type} (hstatement : Converges statement) (p : Ptr Object) :
    (l.freeThen p statement).Convergent := by
  unfold SyncLoop.freeThen
  cases hfree : p.free with
  | error f =>
      refine h.halt ?_
      rw [(Ptr.free_eq_error hfree).right]
      decide
  | ok p' => exact hstatement l hrun h

theorem Convergent.foldl (h : l.Convergent) {α : Type}
    {statement : α -> SyncLoop -> SyncLoop}
    (hstatement : forall a, Converges (statement a)) (as : List α) :
    (as.foldl (fun l a => l.thenDo (statement a)) l).Convergent := by
  induction as generalizing l with
  | nil => exact h
  | cons a as ih => exact ih (h.thenDo (hstatement a))

/-- The loop of a machine that does not write to the senders of the ports. -/
theorem Convergent.run (h : l.Convergent) (hrun : l.stop = none)
    {State : Type} [DecidableEq State] {M : Embedded State SyncLoop}
    (hfault : M.program.fault = SyncLoop.stop)
    (hhalt : M.program.halt = SyncLoop.halt)
    (haction : forall s, Converges (M.program.action s))
    (htransition : forall s w, M.program.transition s w ≠ .error .diverges)
    (hstore : forall c (w : SyncLoop), w.Convergent ->
      (M.store c w).Convergent)
    {fuel : Nat} (hends : M.EndsWithin fuel l) : (M.run fuel l).Convergent := by
  refine Embedded.run_of_endsWithin (fun s w hrunning hw => ?_)
    (fun s w f hw hf => ?_) hstore hends (by rw [hfault]; exact hrun) h
  · rw [hfault] at hrunning
    exact haction s w hrunning hw
  · rw [hhalt]
    refine hw.halt ?_
    rintro rfl
    exact htransition s w hf

end Rules

end SyncLoop

open SyncLoop

/-!
## The clock slave
-/

namespace ClockSlaveSyncSM

open ClockSlaveSyncSMState

variable {l : SyncLoop}

theorem convergent_adjustPeriod (r : Rat) (h : l.Convergent) :
    (adjustPeriod r l).Convergent := by
  unfold adjustPeriod
  dsimp only
  split
  · exact h
  · split
    · exact h.of_unchanged rfl rfl rfl fun _ hlocked => hlocked
    · exact h.of_unchanged rfl rfl rfl fun _ hlocked => hlocked

/-- A division that does not end is recorded before it begins. -/
theorem converges_updateSlavePeriod : Converges updateSlavePeriod := by
  intro l hrun h
  unfold updateSlavePeriod
  dsimp only
  split
  · exact h
  · have hcalled := h.call hrun (.uscalednsDiv l.clockSlaveSyncSm.elapsedTime
      l.clockSlaveSyncSm.elapsedLocalTime)
    cases hdiv : uscalednsDiv l.clockSlaveSyncSm.elapsedTime
        l.clockSlaveSyncSm.elapsedLocalTime with
    | error f =>
        refine ⟨fun hrunning => absurd hrunning (stop_halt f _),
          hcalled.below, fun hdiverges => ?_⟩
        cases Option.some.inj hdiverges
        exact ⟨_, _, List.mem_append_right _ (List.mem_singleton_self _), hdiv⟩
    | ok r => exact convergent_adjustPeriod r hcalled

theorem converges_updateSlaveTime : Converges updateSlaveTime := by
  intro l hrun h
  exact (h.call hrun _).of_unchanged rfl rfl rfl fun _ hlocked => hlocked

theorem converges_sendSyncIndicationAction :
    Converges sendSyncIndicationAction := by
  intro l hrun h
  unfold sendSyncIndicationAction
  refine Convergent.thenDo ?_ fun l _ h =>
    h.of_unchanged rfl rfl rfl fun _ hlocked => hlocked
  split
  · refine h.withObject hrun (fun pss l hrun h => ?_) _
    have hrecorded : (recordSync pss l).Convergent :=
      h.of_unchanged rfl rfl rfl fun _ hlocked => hlocked
    exact converges_updateSlavePeriod _ hrun
      (converges_updateSlaveTime _ hrun hrecorded)
  · exact h

theorem transition_ne_diverges (s : ClockSlaveSyncSMState) (l : SyncLoop) :
    transition s l ≠ .error .diverges := by
  intro hf
  unfold transition at hf
  cases s with
  | init => cases hf
  | initializing =>
      dsimp only at hf
      split at hf <;> cases hf
  | sendSyncIndication =>
      dsimp only at hf
      split at hf <;> cases hf

theorem converges_run : Converges run := by
  intro l hrun h
  refine h.run hrun rfl rfl (fun s => ?_) transition_ne_diverges
    (fun c w hw => ?_) (run_ends l)
  · cases s with
    | init => exact fun _ _ hw => hw
    | initializing =>
        exact fun _ _ hw => hw.of_unchanged rfl rfl rfl fun _ hl => hl
    | sendSyncIndication => exact converges_sendSyncIndicationAction
  · exact hw.of_unchanged rfl rfl rfl fun _ hlocked => hlocked

theorem converges_recvPSSync (pss : PortSyncSync) :
    Converges (recvPSSync pss) := by
  intro l hrun h
  refine h.freeThen hrun (fun l hrun h => ?_) _
  have hstored : (storePSSync pss l).Convergent :=
    h.of_unchanged rfl rfl rfl fun _ hlocked => hlocked
  exact converges_run _ hrun hstored

end ClockSlaveSyncSM

/-!
## The senders of messages
-/

namespace MDSyncSendSM

theorem action_ne_diverges (s : MDSyncSendSMState) (sm : MDSyncSendSM) :
    action s sm ≠ .error .diverges := by
  intro hf
  have hderef : forall {Object : Type} {p : Ptr Object},
      p.deref ≠ .error .diverges := fun h => by
    cases Ptr.deref_eq_error h
  have hfree : forall {Object : Type} {p : Ptr Object},
      p.free ≠ .error .diverges := fun h => by
    cases (Ptr.free_eq_error h).right
  cases s with
  | init => cases hf
  | initializing => cases hf
  | sendSync =>
      rcases bind_eq_error.mp hf with hf | ⟨_, _, hf⟩
      · exact hfree hf
      rcases bind_eq_error.mp hf with hf | ⟨_, _, hf⟩
      · exact hderef hf
      rcases bind_eq_error.mp hf with hf | ⟨_, _, hf⟩
      · rcases bind_eq_error.mp hf with hf | ⟨_, _, hf⟩
        · exact hderef hf
        · cases hf
      · cases hf
  | sendFollowUp =>
      rcases bind_eq_error.mp hf with hf | ⟨_, _, hf⟩
      · exact hfree hf
      rcases bind_eq_error.mp hf with hf | ⟨_, _, hf⟩
      · rcases bind_eq_error.mp hf with hf | ⟨_, _, hf⟩
        · exact hderef hf
        rcases bind_eq_error.mp hf with hf | ⟨_, _, hf⟩
        · exact hderef hf
        · cases hf
      · rcases bind_eq_error.mp hf with hf | ⟨_, _, hf⟩
        · exact hderef hf
        · cases hf

theorem stop_action {s : MDSyncSendSMState} {sm sm' : MDSyncSendSM}
    (haction : action s sm = .ok sm') : sm'.process.stop = sm.process.stop := by
  cases s with
  | init =>
      cases haction
      rfl
  | initializing =>
      cases haction
      rfl
  | sendSync =>
      obtain ⟨_, _, hrest⟩ := bind_eq_ok.mp haction
      obtain ⟨_, _, hrest⟩ := bind_eq_ok.mp hrest
      obtain ⟨_, htx, hreturn⟩ := bind_eq_ok.mp hrest
      obtain ⟨_, _, hsent⟩ := bind_eq_ok.mp htx
      cases hsent
      cases hreturn
      rfl
  | sendFollowUp =>
      obtain ⟨_, _, hrest⟩ := bind_eq_ok.mp haction
      obtain ⟨_, _, htx⟩ := bind_eq_ok.mp hrest
      obtain ⟨_, _, hsent⟩ := bind_eq_ok.mp htx
      cases hsent
      rfl

theorem behaviour_records : behaviour.Records where
  halt _ _ := rfl
  action _ _ _ := stop_action

theorem transition_ne_error (s : MDSyncSendSMState) (sm : MDSyncSendSM)
    (f : Fault) : transition s sm ≠ .error f := by
  intro hf
  cases s <;> cases hf

end MDSyncSendSM

namespace MDSyncSendMachine

open MDSyncSendSM

variable {m : MDSyncSendMachine}

/-- The loop of the machine is not what ends the process. -/
theorem run_ne_diverges (hrun : m.vars.process.stop = none) :
    (run m).vars.process.stop ≠ some .diverges :=
  Behaviour.fault_of_endsWithin behaviour_records action_ne_diverges
    (fun s sm => transition_ne_error s sm _) m.run_ends hrun

theorem runStored_ne_diverges {stored : Except Fault MDSyncSendSM}
    (hstored : forall sm, stored = .ok sm -> sm.process.stop = none)
    (hfails : stored ≠ .error .diverges) :
    (m.runStored stored).vars.process.stop ≠ some .diverges := by
  unfold runStored
  cases hcase : stored with
  | error f =>
      intro hstop
      cases Option.some.inj hstop
      exact hfails hcase
  | ok sm => exact run_ne_diverges (hstored sm hcase)

theorem step_ne_diverges (e : Event)
    (h : m.vars.process.stop ≠ some .diverges) :
    (m.step e).vars.process.stop ≠ some .diverges := by
  unfold step
  split
  · exact h
  case isFalse hrun =>
    have hrunning := not_not.mp hrun
    cases e with
    | recvMDSync mdSync =>
        refine runStored_ne_diverges (fun sm hsm => ?_) (fun hf => ?_)
        · obtain ⟨_, _, hreturn⟩ := bind_eq_ok.mp hsm
          cases hreturn
          exact hrunning
        · rcases bind_eq_error.mp hf with hf | ⟨_, _, hf⟩
          · cases (Ptr.free_eq_error hf).right
          · cases hf
    | txts tsuTimestamp =>
        dsimp only
        unfold txts
        split
        · exact h
        · split
          · exact h
          · refine runStored_ne_diverges (fun sm hsm => ?_) (fun hf => ?_)
            · obtain ⟨_, _, hreturn⟩ := bind_eq_ok.mp hsm
              cases hreturn
              exact hrunning
            · rcases bind_eq_error.mp hf with hf | ⟨_, _, hf⟩
              · cases (Ptr.free_eq_error hf).right
              · cases hf

end MDSyncSendMachine

/-!
## The senders of the ports
-/

namespace PortSyncSyncSendSM

open PortSyncSyncSendSMState

variable {l : SyncLoop} {i : PortIndex} {ts : UScaledNs}

theorem convergent_storeMDSyncSend (h : l.Convergent) (hrun : l.stop = none)
    {m : MDSyncSendMachine} (hm : m.vars.process.stop ≠ some .diverges) :
    (storeMDSyncSend i m l).Convergent where
  locked _ := h.locked hrun
  below j := by
    change (Function.update l.mdSyncSendSms i m j).vars.process.stop ≠ _
    by_cases hj : j = i
    · subst hj
      rw [Function.update_self]
      exact hm
    · rw [Function.update_of_ne hj]
      exact h.below j
  ends hdiverges := by
    have hstop : l.stop.or m.vars.process.stop = some .diverges := hdiverges
    rw [hrun, Option.none_or] at hstop
    exact absurd hstop hm

theorem converges_txMDSync (mdSync : MDSyncSend) :
    Converges (txMDSync i mdSync) := by
  intro l hrun h
  exact convergent_storeMDSyncSend (h.call hrun _) hrun
    (MDSyncSendMachine.step_ne_diverges _ (h.below i))

theorem convergent_assign (h : l.Convergent) {sm : PortSyncSyncSendSM}
    (hcontrol : sm.control = (l.portSyncSyncSendSms i).control) :
    (assign i sm l).Convergent := by
  refine h.of_unchanged rfl rfl rfl fun j hlocked hsending => hlocked ?_
  by_cases hj : j = i
  · subst hj
    rw [sms_assign, hcontrol] at hsending
    exact hsending
  · have hother : (assign i sm l).portSyncSyncSendSms j =
        l.portSyncSyncSendSms j := update_other hj
    rw [hother] at hsending
    exact hsending

theorem convergent_assignPort (h : l.Convergent) {port : PerPortGlobal}
    (hlocked : (l.perPortGlobal i).syncLocked = true ->
      port.syncLocked = true) : (assignPort i port l).Convergent := by
  refine h.of_unchanged rfl rfl rfl fun j hbefore hsending => ?_
  by_cases hj : j = i
  · subst hj
    rw [port_assignPort]
    exact hlocked (hbefore hsending)
  · have hother : (assignPort i port l).perPortGlobal j =
        l.perPortGlobal j := update_other hj
    rw [hother]
    exact hbefore hsending

theorem convergent_clearSlowDown (h : l.Convergent) :
    (clearSlowDown i l).Convergent := by
  unfold clearSlowDown
  exact convergent_assignPort h fun hlocked => hlocked

theorem converges_takePSSync (pss : PortSyncSync) :
    Converges (takePSSync i pss) := by
  intro l _ h
  have htimed : (setSyncReceiptTimeoutTime pss.syncReceiptTimeoutTime
      l).Convergent := h.of_unchanged rfl rfl rfl fun _ hlocked => hlocked
  have hcopied : (assign i ((l.portSyncSyncSendSms i).copyPSSync pss)
      (setSyncReceiptTimeoutTime pss.syncReceiptTimeoutTime l)).Convergent :=
    convergent_assign htimed rfl
  unfold takePSSync lockSync
  exact convergent_assignPort hcopied fun _ => rfl

theorem converges_transmitMDSync : Converges (transmitMDSync i ts) := by
  intro l hrun h
  refine h.freeThen hrun (fun l hrun h => ?_) _
  exact converges_txMDSync _ _ hrun (convergent_assign h rfl)

theorem converges_chooseInterval : Converges (chooseInterval i) := by
  intro l _ h
  unfold chooseInterval
  dsimp only
  split
  · split
    · exact convergent_clearSlowDown (convergent_assign h rfl)
    · exact convergent_assign h rfl
  · exact convergent_assign h rfl

theorem converges_sendMDSyncAction : Converges (sendMDSyncAction i ts) := by
  intro l hrun h
  unfold sendMDSyncAction
  dsimp only
  refine Convergent.thenDo (Convergent.thenDo ?_ converges_transmitMDSync)
    converges_chooseInterval
  split
  · exact h.withObject hrun converges_takePSSync _
  · exact h

theorem converges_action (s : PortSyncSyncSendSMState) :
    Converges (action i ts s) := by
  cases s with
  | init => exact fun _ _ h => h
  | transmitInit =>
      exact fun _ _ h => convergent_clearSlowDown (convergent_assign h rfl)
  | syncReceiptTimeout => exact fun _ _ h => convergent_assign h rfl
  | sendMDSync => exact converges_sendMDSyncAction

theorem syncRequested_ne_diverges : syncRequested l i ≠ .error .diverges := by
  intro hf
  unfold syncRequested at hf
  split at hf
  · cases hpss : (l.portSyncSyncSendSms i).rcvdPSSyncPtrPSSS.deref with
    | error f =>
        rw [hpss] at hf
        cases hf
        cases Ptr.deref_eq_error hpss
    | ok pss =>
        rw [hpss] at hf
        cases hf
  · cases hf

theorem transition_ne_diverges (s : PortSyncSyncSendSMState) :
    transition i ts s l ≠ .error .diverges := by
  intro hf
  cases s with
  | init => cases hf
  | transmitInit =>
      rcases bind_eq_error.mp hf with hf | ⟨_, _, hf⟩
      · exact syncRequested_ne_diverges hf
      · split at hf <;> cases hf
  | syncReceiptTimeout =>
      rcases bind_eq_error.mp hf with hf | ⟨_, _, hf⟩
      · exact syncRequested_ne_diverges hf
      · split at hf <;> cases hf
  | sendMDSync =>
      change sendMDSyncStateTransition i ts l = _ at hf
      unfold sendMDSyncStateTransition at hf
      dsimp only at hf
      split at hf
      · rcases bind_eq_error.mp hf with hf | ⟨_, _, hf⟩
        · exact syncRequested_ne_diverges hf
        · split at hf <;> cases hf
      · split at hf
        · cases hf
        · split at hf <;> cases hf

/-!
### The loop of a sender

Here the state of the machine matters: its loop leaves the port locked wherever
it comes to rest with something sent.
-/

/-- The machine of port `i` between two passes of its loop. -/
structure Sending (i : PortIndex)
    (m : Machine PortSyncSyncSendSMState SyncLoop) : Prop where
  convergent : m.vars.Convergent
  entered : m.vars.stop = none -> ¬ m.Quiescent -> Enters i m.state m.vars
  rested : m.vars.stop = none -> m.Quiescent -> m.state = sendMDSync ->
    (m.vars.perPortGlobal i).syncLocked = true

section Loop

variable {m : Machine PortSyncSyncSendSMState SyncLoop}

theorem Sending.enter (h : Sending i m) (hrun : m.vars.stop = none) :
    ((machine i ts).program.enter m).Convergent := by
  by_cases hq : m.Quiescent
  · rw [Program.enter_quiescent _ hq]
    exact h.convergent
  · rw [Program.enter_change _ hq]
    exact converges_action m.state m.vars hrun h.convergent

theorem Sending.locked (h : Sending i m) (hrun : m.vars.stop = none)
    (hentered : ((machine i ts).program.enter m).stop = none)
    (hsending : m.state = sendMDSync) :
    (((machine i ts).program.enter m).perPortGlobal i).syncLocked = true := by
  by_cases hq : m.Quiescent
  · rw [Program.enter_quiescent _ hq]
    exact h.rested hrun hq hsending
  · rw [Program.enter_change _ hq] at hentered ⊢
    have henters := h.entered hrun hq
    rw [hsending] at hentered henters ⊢
    exact (locked_sendMDSyncAction (henters rfl) hentered).locked

theorem Sending.pass (h : Sending i m) (hrun : m.vars.stop = none) :
    Sending i ((machine i ts).program.pass m) where
  convergent := by
    refine Program.pass_of_enter (machine i ts).program (h.enter hrun)
      fun s w f hw hf => hw.halt ?_
    rintro rfl
    exact transition_ne_diverges s hf
  entered _ hq := by
    obtain ⟨hentered, hleads, hvars, _⟩ := Program.leads_of_pass hq
    rw [hvars]
    exact enters_of_leads (h.locked hrun hentered) hleads
  rested hrunning hq hsending := by
    obtain ⟨hstate, hvars⟩ := Program.rest_of_pass hq hrunning
    rw [hstate] at hsending
    rw [hvars] at hrunning ⊢
    exact h.locked hrun hrunning hsending

end Loop

theorem convergent_store (h : l.Convergent)
    {c : Control PortSyncSyncSendSMState}
    (hlocked : l.stop = none -> c.state = sendMDSync ->
      (l.perPortGlobal i).syncLocked = true) :
    ((machine i ts).store c l).Convergent where
  locked hrun j hsending := by
    by_cases hj : j = i
    · subst hj
      refine hlocked hrun ?_
      have hsms := sms_assign j { l.portSyncSyncSendSms j with control := c } l
      exact (congrArg (fun sm => sm.control.state) hsms).symm.trans hsending
    · have hother : ((machine i ts).store c l).portSyncSyncSendSms j =
          l.portSyncSyncSendSms j := update_other hj
      rw [hother] at hsending
      exact h.locked hrun j hsending
  below := h.below
  ends := h.ends

theorem converges_run : Converges (run i ts) := by
  intro l hrun h
  have hready : (machine i ts).ready l ((machine i ts).control l).state =
      sendMDSync -> (l.perPortGlobal i).syncLocked = true :=
    locked_of_ready (h.locked hrun i)
  have hsending := Program.run_of_passes (I := Sending i)
    (fun m hrunning hm => hm.pass hrunning) (run_ends i ts (h.locked hrun i))
    hrun ⟨h, fun _ _ hs => Or.inr (hready hs), fun _ _ => hready⟩
  refine convergent_store hsending.convergent fun hrunning => ?_
  exact hsending.rested hrunning (Program.run_settled _ _ hrunning).left

theorem converges_recvPSSync (pss : PortSyncSync) :
    Converges (recvPSSync i ts pss) := by
  intro l hrun h
  refine h.freeThen hrun (fun l hrun h => ?_) _
  exact converges_run _ hrun (convergent_assign h rfl)

end PortSyncSyncSendSM

/-!
## The site
-/

namespace SiteSyncSyncSM

open SiteSyncSyncSMState

variable {ts : UScaledNs}

theorem converges_txPSSync (pss : PortSyncSync) :
    Converges (txPSSync ts pss) := by
  intro l hrun h
  exact (ClockSlaveSyncSM.converges_recvPSSync pss l hrun h).foldl
    (fun _ => PortSyncSyncSendSM.converges_recvPSSync pss) _

theorem converges_receivingSyncAction : Converges (receivingSyncAction ts) := by
  intro l hrun h
  have hcleared : (clearFlag l).Convergent :=
    h.of_unchanged rfl rfl rfl fun _ hlocked => hlocked
  refine hcleared.freeThen hrun (fun l hrun h => ?_) _
  refine h.withObject hrun (fun pss l hrun h => ?_) _
  have hcopied : (setPSSyncSend pss l).Convergent :=
    h.of_unchanged rfl rfl rfl fun _ hlocked => hlocked
  have hsent : (txPSSync ts pss (setPSSyncSend pss l)).Convergent :=
    converges_txPSSync pss _ hrun hcopied
  exact hsent.thenDo fun _ _ h =>
    h.of_unchanged rfl rfl rfl fun _ hlocked => hlocked

theorem transition_ne_diverges (s : SiteSyncSyncSMState) (l : SyncLoop) :
    transition s l ≠ .error .diverges := by
  intro hf
  cases s with
  | init => cases hf
  | initializing =>
      change initializingStateTransition l = _ at hf
      unfold initializingStateTransition at hf
      split at hf
      · rcases bind_eq_error.mp hf with hf | ⟨_, _, hf⟩
        · cases Ptr.deref_eq_error hf
        · split at hf <;> cases hf
      · cases hf
  | receivingSync =>
      rcases bind_eq_error.mp hf with hf | ⟨_, _, hf⟩
      · cases Ptr.deref_eq_error hf
      · split at hf <;> cases hf

theorem converges_run : Converges (run ts) := by
  intro l hrun h
  refine h.run hrun rfl rfl (fun s => ?_) transition_ne_diverges
    (fun c w hw => ?_) (run_ends ts l)
  · cases s with
    | init => exact fun _ _ hw => hw
    | initializing =>
        exact fun _ _ hw => hw.of_unchanged rfl rfl rfl fun _ hl => hl
    | receivingSync => exact converges_receivingSyncAction
  · exact hw.of_unchanged rfl rfl rfl fun _ hlocked => hlocked

theorem converges_recvPSSync (pss : PortSyncSync) :
    Converges (recvPSSync ts pss) := by
  intro l hrun h
  refine (h.call hrun (.siteSyncSync pss)).freeThen hrun (fun l hrun h => ?_) _
  have hstored : (storePSSync pss l).Convergent :=
    h.of_unchanged rfl rfl rfl fun _ hlocked => hlocked
  exact converges_run _ hrun hstored

end SiteSyncSyncSM

/-!
## The receivers of the ports
-/

namespace PortSyncSyncReceiveSM

variable {i : PortIndex} {ts : UScaledNs}

theorem converges_passOn (mdSync : MDSyncReceive) :
    Converges (passOn i ts mdSync) := by
  intro l hrun h
  unfold passOn
  dsimp only
  refine SiteSyncSyncSM.converges_recvPSSync _ _ hrun ?_
  exact h.of_unchanged rfl rfl rfl fun _ hlocked => hlocked

theorem converges_receivedSyncAction :
    Converges (receivedSyncAction i ts) := by
  intro l hrun h
  unfold receivedSyncAction
  refine h.withObject hrun (fun mdSync l' hrun h => ?_) _
  cases hinterval : PortAnnounceInformationSM.timeoutInterval
      (l.perPortGlobal i).syncReceiptTimeout mdSync.logMessageInterval with
  | error f =>
      refine h.halt ?_
      rw [PortAnnounceInformationSM.timeoutInterval_eq_error hinterval]
      decide
  | ok interval =>
      have hassigned : (assign i
          { l.portSyncSyncReceiveSms i with
            rcvdMDSyncPSSR := false, rateRatio := 1 } l').Convergent :=
        h.of_unchanged rfl rfl rfl fun _ hlocked => hlocked
      have htimed : (setTimeoutInterval i interval (assign i
          { l.portSyncSyncReceiveSms i with
            rcvdMDSyncPSSR := false, rateRatio := 1 } l')).Convergent := by
        unfold setTimeoutInterval
        exact PortSyncSyncSendSM.convergent_assignPort hassigned
          fun hlocked => hlocked
      exact converges_passOn mdSync _ hrun htimed

theorem transition_ne_error (s : PortSyncSyncReceiveSMState) (l : SyncLoop)
    (f : Fault) : transition i s l ≠ .error f := by
  intro hf
  cases s <;> cases hf

theorem converges_run : Converges (run i ts) := by
  intro l hrun h
  refine h.run hrun rfl rfl (fun s => ?_)
    (fun s w => transition_ne_error s w _) (fun c w hw => ?_) (run_ends i ts l)
  · cases s with
    | init => exact fun _ _ hw => hw
    | discard =>
        exact fun _ _ hw => hw.of_unchanged rfl rfl rfl fun _ hl => hl
    | receivedSync => exact converges_receivedSyncAction
  · exact hw.of_unchanged rfl rfl rfl fun _ hlocked => hlocked

theorem converges_recvMDSync (mdSync : MDSyncReceive) :
    Converges (recvMDSync i ts mdSync) := by
  intro l hrun h
  refine (h.call hrun (.portSyncSyncReceive i mdSync)).freeThen hrun
    (fun l hrun h => ?_) _
  have hstored : (storeMDSync i mdSync l).Convergent :=
    h.of_unchanged rfl rfl rfl fun _ hlocked => hlocked
  exact converges_run _ hrun hstored

end PortSyncSyncReceiveSM

/-!
## The receivers of messages
-/

namespace MDSyncReceiveSM

variable {i : PortIndex} {ts : UScaledNs}

theorem converges_waitingForSyncAction :
    Converges (waitingForSyncAction i ts) := by
  intro l hrun h
  unfold waitingForSyncAction
  dsimp only
  refine h.withObject hrun (fun sync l' hrun h => ?_) _
  refine h.withObject hrun (fun followUp l'' hrun h => ?_) _
  refine PortSyncSyncReceiveSM.converges_recvMDSync _ _ hrun ?_
  exact h.of_unchanged rfl rfl rfl fun _ hlocked => hlocked

theorem followUpMatches_ne_diverges (sm : MDSyncReceiveSM) :
    sm.followUpMatches ≠ .error .diverges := by
  intro hf
  unfold followUpMatches at hf
  split at hf
  · rcases bind_eq_error.mp hf with hf | ⟨_, _, hf⟩
    · cases Ptr.deref_eq_error hf
    · rcases bind_eq_error.mp hf with hf | ⟨_, _, hf⟩
      · cases Ptr.deref_eq_error hf
      · cases hf
  · cases hf

theorem transition_ne_diverges (s : MDSyncReceiveSMState) (l : SyncLoop) :
    transition i ts s l ≠ .error .diverges := by
  intro hf
  cases s with
  | init => cases hf
  | discard => cases hf
  | waitingForSync => cases hf
  | waitingForFollowUp =>
      change waitingForFollowUpStateTransition i ts l = _ at hf
      unfold waitingForFollowUpStateTransition at hf
      dsimp only at hf
      split at hf
      · cases hf
      · rcases bind_eq_error.mp hf with hf | ⟨_, _, hf⟩
        · exact followUpMatches_ne_diverges _ hf
        · split at hf
          · cases hf
          · split at hf <;> cases hf

theorem converges_run : Converges (run i ts) := by
  intro l hrun h
  refine h.run hrun rfl rfl (fun s => ?_) transition_ne_diverges
    (fun c w hw => ?_) (run_ends i ts l)
  · cases s with
    | init => exact fun _ _ hw => hw
    | discard =>
        exact fun _ _ hw => hw.of_unchanged rfl rfl rfl fun _ hl => hl
    | waitingForFollowUp =>
        exact fun _ _ hw => hw.of_unchanged rfl rfl rfl fun _ hl => hl
    | waitingForSync => exact converges_waitingForSyncAction
  · exact hw.of_unchanged rfl rfl rfl fun _ hlocked => hlocked

theorem converges_recvSync (tsuTimestamp : TSUTimestamp) (sync : PTPMsgSync) :
    Converges (recvSync i ts tsuTimestamp sync) := by
  intro l hrun h
  refine h.freeThen hrun (fun l hrun h => ?_) _
  have hstored : (storeSync i tsuTimestamp sync l).Convergent :=
    h.of_unchanged rfl rfl rfl fun _ hlocked => hlocked
  exact converges_run _ hrun hstored

theorem converges_recvFollowUp (followUp : PTPMsgFollowUp) :
    Converges (recvFollowUp i ts followUp) := by
  intro l hrun h
  refine h.freeThen hrun (fun l hrun h => ?_) _
  have hstored : (storeFollowUp i followUp l).Convergent :=
    h.of_unchanged rfl rfl rfl fun _ hlocked => hlocked
  exact converges_run _ hrun hstored

end MDSyncReceiveSM

namespace SyncLoop

/-!
## Runs
-/

theorem converges_handle (e : Event) : Converges (handle e) := by
  intro l hrun h
  cases e with
  | sync i ts tsuTimestamp message =>
      exact MDSyncReceiveSM.converges_recvSync tsuTimestamp message l hrun h
  | followUp i ts message =>
      exact MDSyncReceiveSM.converges_recvFollowUp message l hrun h
  | timeout i ts => exact MDSyncReceiveSM.converges_run l hrun h
  | clockMaster ts pss =>
      exact SiteSyncSyncSM.converges_recvPSSync pss l hrun h
  | txts i tsuTimestamp =>
      exact PortSyncSyncSendSM.convergent_storeMDSyncSend h hrun
        (MDSyncSendMachine.step_ne_diverges _ (h.below i))
  | select selectedState gmPresent =>
      exact h.of_unchanged rfl rfl rfl fun _ hlocked => hlocked
  | delay i meanLinkDelay =>
      exact PortSyncSyncSendSM.convergent_assignPort h fun hlocked => hlocked
  | announce time =>
      exact h.of_unchanged rfl rfl rfl fun _ hlocked => hlocked

theorem Convergent.step {l : SyncLoop} (h : l.Convergent) (e : Event) :
    (l.step e).Convergent :=
  h.thenDo (converges_handle e)

/-- A loop whose machines wait has come to an end of all its loops. -/
theorem AtRest.convergent {l : SyncLoop} (h : l.AtRest) : l.Convergent where
  locked _ i hsending := by
    rcases (h.ready.site.senders i).control with hrest | ⟨_, hlocked⟩
    · rw [hrest] at hsending
      cases hsending
    · exact hlocked
  below i := by
    have hrunning : (l.mdSyncSendSms i).vars.process.stop = none :=
      (h.ready.site.senders i).below.running
    rw [hrunning]
    exact (Option.some_ne_none _).symm
  ends hdiverges := by
    rw [h.ready.running] at hdiverges
    cases hdiverges

/-- No loop of a machine is what keeps the process from going on. -/
theorem convergent_after (config : Config) (memory : SyncMemory)
    (es : List Event) : (after config memory es).Convergent := by
  have hstart := (atRest_start config memory).convergent
  unfold after
  exact @run_invariant_always _ _ SyncLoop.step (start config memory)
    Convergent hstart (fun _ e h => h.step e) es

end SyncLoop

end TimeSync
end Ziggo
