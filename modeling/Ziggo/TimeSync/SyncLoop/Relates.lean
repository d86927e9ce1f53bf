import Ziggo.TimeSync.SyncLoop.Frames

/-!
# Relations between the variables before and after a statement

All statements above the machines that send messages consist of assignments to
their own variables, of calls that are recorded, and of structures handed to
these machines.  A relation that admits these three holds across every
statement.
-/

namespace Ziggo
namespace TimeSync

open Foundation TsnDrivers

namespace SyncLoop

/-- A statement relates the variables before it to those after it. -/
def Relates (R : SyncLoop -> SyncLoop -> Prop)
    (statement : SyncLoop -> SyncLoop) : Prop :=
  forall l, R l (statement l)

/-- What lies below the senders of the ports, and what is set once. -/
structure LowerView where
  settings : Settings
  mdSyncSendSms : PortIndex -> MDSyncSendMachine
  calls : List Call

def lowerView (l : SyncLoop) : LowerView where
  settings := l.settings
  mdSyncSendSms := l.mdSyncSendSms
  calls := l.calls

/-- The relation holds across each kind of assignment. -/
structure Admits (R : SyncLoop -> SyncLoop -> Prop) : Prop where
  silent : forall {l l'}, lowerView l' = lowerView l -> R l l'
  trans : forall {l l' l''}, R l l' -> R l' l'' -> R l l''
  call : forall c l, R l (l.call c)
  transmit : forall i (sm : PortSyncSyncSendSM) l,
    R l (PortSyncSyncSendSM.txMDSync i
      (sm.setMDSync l.perPTPInstanceGlobal (l.perPortGlobal i)) l)

theorem lowerView_assignPort {i : PortIndex} {port : PerPortGlobal}
    {l : SyncLoop}
    (hsettings : TimeSync.portSettings port =
      TimeSync.portSettings (l.perPortGlobal i))
    (hlog : port.currentLogSyncInterval =
      (l.perPortGlobal i).currentLogSyncInterval)
    (htimeout : port.syncReceiptTimeout =
      (l.perPortGlobal i).syncReceiptTimeout) :
    lowerView (PortSyncSyncSendSM.assignPort i port l) = lowerView l := by
  have hports : settings (PortSyncSyncSendSM.assignPort i port l) =
      settings l := by
    unfold settings PortSyncSyncSendSM.assignPort
    dsimp only
    rw [map_update TimeSync.portSettings hsettings,
      map_update PerPortGlobal.currentLogSyncInterval hlog,
      map_update PerPortGlobal.syncReceiptTimeout htimeout]
  unfold lowerView
  rw [hports]
  rfl

/-!
## Rules
-/

section Rules

variable {R : SyncLoop -> SyncLoop -> Prop} (hR : Admits R)
  {statement : SyncLoop -> SyncLoop}

include hR

theorem Admits.of_keeps (h : Keeps lowerView statement) :
    Relates R statement := fun l => hR.silent (h l)

theorem Admits.after {l l' l'' : SyncLoop} (h : lowerView l' = lowerView l)
    (h' : R l' l'') : R l l'' :=
  hR.trans (hR.silent h) h'

theorem Admits.thenDo (h : Relates R statement) (l : SyncLoop) :
    R l (l.thenDo statement) := by
  unfold SyncLoop.thenDo
  split
  · exact hR.silent rfl
  · exact h l

theorem Admits.withObject {Object : Type}
    {statement : Object -> SyncLoop -> SyncLoop}
    (h : forall object, Relates R (statement object)) (l : SyncLoop)
    (p : Ptr Object) : R l (l.withObject p statement) := by
  unfold SyncLoop.withObject
  cases p.deref with
  | error f => exact hR.silent rfl
  | ok object => exact h object l

theorem Admits.freeThen {Object : Type} (h : Relates R statement)
    (l : SyncLoop) (p : Ptr Object) : R l (l.freeThen p statement) := by
  unfold SyncLoop.freeThen
  cases p.free with
  | error f => exact hR.silent rfl
  | ok p' => exact h l

theorem Admits.foldl {α : Type} {statement : α -> SyncLoop -> SyncLoop}
    (h : forall a, Relates R (statement a)) (as : List α) (l : SyncLoop) :
    R l (as.foldl (fun l a => l.thenDo (statement a)) l) := by
  induction as generalizing l with
  | nil => exact hR.silent rfl
  | cons a as ih => exact hR.trans (hR.thenDo (h a) l) (ih _)

theorem Admits.run {State : Type} [DecidableEq State]
    {M : Embedded State SyncLoop}
    (haction : forall s, Relates R (M.program.action s))
    (hhalt : forall f, Keeps lowerView (M.program.halt f))
    (hstore : forall c, Keeps lowerView (M.store c)) (fuel : Nat) :
    Relates R (M.run fuel) := fun l =>
  Embedded.run_preserves (I := fun l' : SyncLoop => R l l')
    (fun s w hw => hR.trans hw (haction s w))
    (fun f w hw => hR.trans hw (hR.silent (hhalt f w)))
    (fun c w hw => hR.trans hw (hR.silent (hstore c w))) fuel
    (hR.silent rfl)

end Rules

end SyncLoop

open SyncLoop

section Machines

variable {R : SyncLoop -> SyncLoop -> Prop} (hR : Admits R)

include hR

namespace ClockSlaveSyncSM

/-!
## The clock slave
-/

omit hR in
theorem lowerView_adjustPeriod (r : Rat) :
    Keeps lowerView (adjustPeriod r) := by
  intro l
  unfold adjustPeriod
  dsimp only
  split
  · rfl
  · split
    · rfl
    · rfl

theorem relates_updateSlavePeriod : Relates R updateSlavePeriod := by
  intro l
  unfold updateSlavePeriod
  dsimp only
  split
  · exact hR.silent rfl
  · refine hR.trans (hR.call (.uscalednsDiv l.clockSlaveSyncSm.elapsedTime
      l.clockSlaveSyncSm.elapsedLocalTime) l) ?_
    cases uscalednsDiv _ _ with
    | error f => exact hR.silent rfl
    | ok r => exact hR.silent (lowerView_adjustPeriod r _)

theorem relates_updateSlaveTime : Relates R updateSlaveTime := fun l =>
  hR.trans (hR.call (.setRtcSyncOffset (syncOffset l.perPTPInstanceGlobal).1
    (syncOffset l.perPTPInstanceGlobal).2) l) (hR.silent rfl)

theorem relates_sendSyncIndicationAction :
    Relates R sendSyncIndicationAction := by
  intro l
  have hclear : Keeps lowerView clearFlags := fun _ => rfl
  unfold sendSyncIndicationAction
  refine hR.trans ?_ (hR.thenDo (hR.of_keeps hclear) _)
  split
  · refine hR.withObject (fun pss l => ?_) l _
    have hrecord : lowerView (recordSync pss l) = lowerView l := rfl
    exact hR.after hrecord (hR.trans (relates_updateSlaveTime hR _)
      (relates_updateSlavePeriod hR _))
  · exact hR.silent rfl

theorem relates_run : Relates R run := by
  refine hR.run (fun s => ?_) (fun _ _ => rfl) (fun _ _ => rfl) passes
  cases s with
  | init => exact hR.of_keeps fun _ => rfl
  | initializing => exact hR.of_keeps fun _ => rfl
  | sendSyncIndication => exact relates_sendSyncIndicationAction hR

theorem relates_recvPSSync (pss : PortSyncSync) :
    Relates R (recvPSSync pss) := by
  intro l
  refine hR.freeThen (fun l => ?_) l _
  have hstore : lowerView (storePSSync pss l) = lowerView l := rfl
  exact hR.after hstore (relates_run hR _)

end ClockSlaveSyncSM

namespace PortSyncSyncSendSM

/-!
## The senders of the ports
-/

section Senders

variable (i : PortIndex) (ts : UScaledNs)

theorem relates_transmitMDSync : Relates R (transmitMDSync i ts) := by
  intro l
  refine hR.freeThen (fun l => ?_) l _
  have hassign : forall sm, lowerView (assign i sm l) = lowerView l :=
    fun _ => rfl
  exact hR.after (hassign _) (hR.transmit i (l.portSyncSyncSendSms i) _)

omit hR in
theorem lowerView_clearSlowDown : Keeps lowerView (clearSlowDown i) :=
  fun _ => lowerView_assignPort rfl rfl rfl

omit hR in
theorem lowerView_takePSSync (pss : PortSyncSync) :
    Keeps lowerView (takePSSync i pss) := fun _ =>
  lowerView_assignPort rfl rfl rfl

omit hR in
theorem lowerView_chooseInterval : Keeps lowerView (chooseInterval i) := by
  intro l
  unfold chooseInterval
  dsimp only
  split
  · split
    · exact lowerView_clearSlowDown i _
    · rfl
  · rfl

theorem relates_sendMDSyncAction : Relates R (sendMDSyncAction i ts) := by
  intro l
  unfold sendMDSyncAction
  dsimp only
  refine hR.trans (hR.trans ?_ (hR.thenDo (relates_transmitMDSync hR i ts) _))
    (hR.thenDo (hR.of_keeps (lowerView_chooseInterval i)) _)
  split
  · exact hR.withObject (fun pss => hR.of_keeps (lowerView_takePSSync i pss))
      l _
  · exact hR.silent rfl

theorem relates_run : Relates R (run i ts) := by
  refine hR.run (fun s => ?_) (fun _ _ => rfl) (fun _ _ => rfl) passes
  cases s with
  | init => exact hR.of_keeps fun _ => rfl
  | transmitInit => exact hR.of_keeps fun _ => lowerView_clearSlowDown i _
  | syncReceiptTimeout => exact hR.of_keeps fun _ => rfl
  | sendMDSync => exact relates_sendMDSyncAction hR i ts

theorem relates_recvPSSync (pss : PortSyncSync) :
    Relates R (recvPSSync i ts pss) := by
  intro l
  refine hR.freeThen (fun l => ?_) l _
  have hstore : lowerView (storePSSync i pss l) = lowerView l := rfl
  exact hR.after hstore (relates_run hR i ts _)

end Senders

end PortSyncSyncSendSM

namespace SiteSyncSyncSM

/-!
## The site
-/

variable (ts : UScaledNs)

theorem relates_txPSSync (pss : PortSyncSync) :
    Relates R (txPSSync ts pss) := fun l =>
  hR.trans (ClockSlaveSyncSM.relates_recvPSSync hR pss l)
    (hR.foldl (fun i => PortSyncSyncSendSM.relates_recvPSSync hR i ts pss) _ _)

theorem relates_receivingSyncAction : Relates R (receivingSyncAction ts) := by
  intro l
  have hclear : R l (clearFlag l) := hR.silent rfl
  refine hR.trans hclear (hR.freeThen (fun l => ?_) (clearFlag l) _)
  refine hR.withObject (fun pss l => ?_) l _
  have hinterval : Keeps lowerView
      (setParentLogSyncInterval pss.logMessageInterval) := fun _ => rfl
  have hcopy : R l (setPSSyncSend pss l) := hR.silent rfl
  exact hR.trans (hR.trans hcopy (relates_txPSSync hR ts pss _))
    (hR.thenDo (hR.of_keeps hinterval) _)

theorem relates_run : Relates R (run ts) := by
  refine hR.run (fun s => ?_) (fun _ _ => rfl) (fun _ _ => rfl) passes
  cases s with
  | init => exact hR.of_keeps fun _ => rfl
  | initializing => exact hR.of_keeps fun _ => rfl
  | receivingSync => exact relates_receivingSyncAction hR ts

theorem relates_recvPSSync_called (pss : PortSyncSync) (l : SyncLoop) :
    R (l.call (.siteSyncSync pss)) (recvPSSync ts pss l) := by
  refine hR.freeThen (fun l => ?_) (l.call (.siteSyncSync pss)) _
  have hstore : lowerView (storePSSync pss l) = lowerView l := rfl
  exact hR.after hstore (relates_run hR ts _)

theorem relates_recvPSSync (pss : PortSyncSync) :
    Relates R (recvPSSync ts pss) := fun l =>
  hR.trans (hR.call _ l) (relates_recvPSSync_called hR ts pss l)

end SiteSyncSyncSM

namespace PortSyncSyncReceiveSM

/-!
## The receivers of the ports
-/

section Receivers

variable (i : PortIndex) (ts : UScaledNs)

theorem relates_passOn (mdSync : MDSyncReceive) :
    Relates R (passOn i ts mdSync) := by
  intro l
  unfold passOn
  dsimp only
  refine hR.trans (hR.silent ?_) (SiteSyncSyncSM.relates_recvPSSync hR ts _ _)
  rfl

theorem relates_receivedSyncAction : Relates R (receivedSyncAction i ts) := by
  intro l
  unfold receivedSyncAction
  refine hR.withObject (fun mdSync l' => ?_) l _
  cases PortAnnounceInformationSM.timeoutInterval _ _ with
  | error f => exact hR.silent rfl
  | ok interval =>
      dsimp only
      refine hR.trans (hR.silent ?_) (relates_passOn hR i ts mdSync _)
      exact lowerView_assignPort rfl rfl rfl

theorem relates_run : Relates R (run i ts) := by
  refine hR.run (fun s => ?_) (fun _ _ => rfl) (fun _ _ => rfl) passes
  cases s with
  | init => exact hR.of_keeps fun _ => rfl
  | discard => exact hR.of_keeps fun _ => rfl
  | receivedSync => exact relates_receivedSyncAction hR i ts

theorem relates_recvMDSync (mdSync : MDSyncReceive) :
    Relates R (recvMDSync i ts mdSync) := by
  intro l
  refine hR.trans (hR.call (.portSyncSyncReceive i mdSync) l) ?_
  refine hR.freeThen (fun l => ?_) _ _
  have hstore : lowerView (storeMDSync i mdSync l) = lowerView l := rfl
  exact hR.after hstore (relates_run hR i ts _)

end Receivers

end PortSyncSyncReceiveSM

namespace MDSyncReceiveSM

/-!
## The receivers of messages
-/

section Messages

variable (i : PortIndex) (ts : UScaledNs)

theorem relates_waitingForSyncAction :
    Relates R (waitingForSyncAction i ts) := by
  intro l
  unfold waitingForSyncAction
  dsimp only
  refine hR.withObject (fun sync l' => ?_) l _
  refine hR.withObject (fun followUp l'' => ?_) l' _
  refine hR.after ?_ (PortSyncSyncReceiveSM.relates_recvMDSync hR i ts _ _)
  rfl

theorem relates_run : Relates R (run i ts) := by
  refine hR.run (fun s => ?_) (fun _ _ => rfl) (fun _ _ => rfl) passes
  cases s with
  | init => exact hR.of_keeps fun _ => rfl
  | discard => exact hR.of_keeps fun _ => rfl
  | waitingForFollowUp => exact hR.of_keeps fun _ => rfl
  | waitingForSync => exact relates_waitingForSyncAction hR i ts

theorem relates_recvSync (tsuTimestamp : TSUTimestamp) (sync : PTPMsgSync) :
    Relates R (recvSync i ts tsuTimestamp sync) := by
  intro l
  refine hR.freeThen (fun l => ?_) l _
  have hstore : lowerView (storeSync i tsuTimestamp sync l) = lowerView l := rfl
  exact hR.after hstore (relates_run hR i ts _)

theorem relates_recvFollowUp (followUp : PTPMsgFollowUp) :
    Relates R (recvFollowUp i ts followUp) := by
  intro l
  refine hR.freeThen (fun l => ?_) l _
  have hstore : lowerView (storeFollowUp i followUp l) = lowerView l := rfl
  exact hR.after hstore (relates_run hR i ts _)

end Messages

end MDSyncReceiveSM

end Machines

namespace SyncLoop

/-- Every event but the timestamp of a transmission. -/
theorem Admits.handle {R : SyncLoop -> SyncLoop -> Prop} (hR : Admits R)
    (htxts : forall i tsuTimestamp, Relates R (txts i tsuTimestamp))
    (e : Event) : Relates R (handle e) := by
  cases e with
  | sync i ts tsuTimestamp message =>
      exact MDSyncReceiveSM.relates_recvSync hR i ts tsuTimestamp message
  | followUp i ts message =>
      exact MDSyncReceiveSM.relates_recvFollowUp hR i ts message
  | timeout i ts => exact MDSyncReceiveSM.relates_run hR i ts
  | clockMaster ts pss => exact SiteSyncSyncSM.relates_recvPSSync hR ts pss
  | txts i tsuTimestamp => exact htxts i tsuTimestamp
  | select selectedState gmPresent => exact hR.of_keeps fun _ => rfl
  | delay i meanLinkDelay =>
      exact hR.of_keeps fun _ => lowerView_assignPort rfl rfl rfl
  | announce time => exact hR.of_keeps fun _ => rfl

end SyncLoop

end TimeSync
end Ziggo
