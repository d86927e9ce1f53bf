import Ziggo.Foundation.Simulation
import Ziggo.TimeSync.AnnounceLoop

/-!
# What the machines for `Announce` messages see

Some of the globals are for synchronization or for the delays of the links only.
The machines for `Announce` messages neither read nor write them, with one
exception: they write `syncReceiptTimeoutTimeInterval`, which they do not read.
Other values of these globals therefore make no difference to their runs.
-/

namespace Ziggo
namespace TimeSync

open Foundation TsnDrivers

/-- The globals of the instance with those for synchronization from `x`. -/
def besideAnnounce (x g : PerPTPInstanceGlobal) : PerPTPInstanceGlobal :=
  { g with
    syncReceiptTime := x.syncReceiptTime
    syncReceiptLocalTime := x.syncReceiptLocalTime
    gmTimeBaseIndicator := x.gmTimeBaseIndicator
    lastGmPhaseChange := x.lastGmPhaseChange
    lastGmFreqChange := x.lastGmFreqChange
    parentLogSyncInterval := x.parentLogSyncInterval }

/-- The globals of a port with those for synchronization and delays from `x`. -/
def besideAnnouncePort (x : PerPortGlobal) (interval : UScaledNs)
    (port : PerPortGlobal) : PerPortGlobal :=
  { port with
    syncReceiptTimeoutTimeInterval := interval
    currentLogSyncInterval := x.currentLogSyncInterval
    syncInterval := x.syncInterval
    neighborRateRatio := x.neighborRateRatio
    meanLinkDelay := x.meanLinkDelay
    computeNeighborRateRatio := x.computeNeighborRateRatio
    computeMeanLinkDelay := x.computeMeanLinkDelay
    syncLocked := x.syncLocked
    syncSlowDown := x.syncSlowDown
    oldSyncInterval := x.oldSyncInterval
    syncReceiptTimeout := x.syncReceiptTimeout }

/-- A port as the machines see it, whatever the interval that they write. -/
def PortBeside (x port port' : PerPortGlobal) : Prop :=
  exists interval, port' = besideAnnouncePort x interval port

variable {x : PerPTPInstanceGlobal} {p : PerPortGlobal} {ts : UScaledNs}

/-!
## The information of a port
-/

namespace PortAnnounceInformationSM

open PortAnnounceInformationSMState

/-- The variables differ in what lies beside the machine. -/
def Beside (x : PerPTPInstanceGlobal) (p : PerPortGlobal)
    (v w : PortAnnounceInformationSM) : Prop :=
  exists interval, w =
    { v with
      perPTPInstanceGlobal := besideAnnounce x v.perPTPInstanceGlobal
      perPortGlobal := besideAnnouncePort p interval v.perPortGlobal }

theorem beside_recordOtherAnnounceInfo {v w : PortAnnounceInformationSM}
    (h : Beside x p v w) (announce : PTPMsgAnnounce) :
    Outcomes (Beside x p) (v.recordOtherAnnounceInfo announce)
      (w.recordOtherAnnounceInfo announce) := by
  obtain ⟨interval, rfl⟩ := h
  exact .bind_same fun _ => ⟨interval, rfl⟩

theorem beside_action {v w : PortAnnounceInformationSM} (h : Beside x p v w)
    (s : PortAnnounceInformationSMState) :
    Outcomes (Beside x p) (action ts s v) (action ts s w) := by
  obtain ⟨interval, rfl⟩ := h
  cases s with
  | init => exact ⟨interval, rfl⟩
  | disabled => exact ⟨interval, rfl⟩
  | aged => exact ⟨interval, rfl⟩
  | update => exact ⟨interval, rfl⟩
  | current => exact ⟨interval, rfl⟩
  | receive => exact .bind_same fun _ => ⟨interval, rfl⟩
  | inferiorMasterOrOtherPort => exact ⟨interval, rfl⟩
  | repeatedMasterPort =>
      refine .bind_same fun announce =>
        .bind (beside_recordOtherAnnounceInfo ⟨interval, rfl⟩ announce) ?_
      rintro v _ ⟨interval, rfl⟩
      exact ⟨interval, rfl⟩
  | superiorMasterPort =>
      refine .bind_same fun announce =>
        .bind (beside_recordOtherAnnounceInfo ⟨interval, rfl⟩ announce) ?_
      rintro v _ ⟨interval, rfl⟩
      -- The interval that the action writes is the same on both sides.
      exact .bind_same fun _ => .bind_same fun syncInterval =>
        ⟨syncInterval, rfl⟩

theorem simulates_beside :
    Program.Simulates (Beside x p) (behaviour ts).program
      (behaviour ts).program := by
  refine Behaviour.simulates (fun s _ _ h => beside_action h s) ?_ ?_ ?_
  · rintro s v _ ⟨interval, rfl⟩
    cases s <;> rfl
  · rintro v _ ⟨interval, rfl⟩
    rfl
  · rintro f v _ ⟨interval, rfl⟩
    exact ⟨interval, rfl⟩

end PortAnnounceInformationSM

namespace PortAnnounceInformationMachine

open PortAnnounceInformationSM

variable {m n : PortAnnounceInformationMachine}

theorem beside_run (h : m.Related (Beside x p) n) :
    (m.run ts).Related (Beside x p) (n.run ts) := by
  apply simulates_beside.run
  obtain ⟨hstate, hlast, interval, hvars⟩ := h
  refine ⟨?_, hlast, interval, hvars⟩
  unfold ready
  rw [hstate, hvars]
  rfl

theorem beside_init {v w : PortAnnounceInformationSM} (h : Beside x p v w) :
    (initPortAnnounceInformationSm v).Related (Beside x p)
      (initPortAnnounceInformationSm w) := by
  obtain ⟨interval, rfl⟩ := h
  exact beside_run ⟨rfl, rfl, interval, rfl⟩

theorem beside_recvAnnounce (h : m.Related (Beside x p) n)
    (announce : PTPMsgAnnounce) :
    (m.recvAnnounce ts announce).Related (Beside x p)
      (n.recvAnnounce ts announce) := by
  obtain ⟨hstate, hlast, interval, hvars⟩ := h
  have hstore : Outcomes (Beside x p) (m.vars.storeAnnounce announce)
      (n.vars.storeAnnounce announce) := by
    rw [hvars]
    exact .bind_same fun _ => ⟨interval, rfl⟩
  unfold recvAnnounce
  cases hv : m.vars.storeAnnounce announce with
  | error f =>
      rw [hv] at hstore
      obtain hw := hstore.error_right
      rw [hw]
      exact ⟨hstate, hlast, interval, by rw [hvars]; rfl⟩
  | ok v =>
      rw [hv] at hstore
      obtain ⟨w, hw, hR⟩ := hstore.ok_right
      rw [hw]
      exact beside_run ⟨hstate, hlast, hR⟩

end PortAnnounceInformationMachine

/-!
## The information of a port under external configuration
-/

namespace PortAnnounceInformationExtSM

open PortAnnounceInformationExtSMState

def Beside (x : PerPTPInstanceGlobal) (p : PerPortGlobal)
    (v w : PortAnnounceInformationExtSM) : Prop :=
  exists interval, w =
    { v with
      perPTPInstanceGlobal := besideAnnounce x v.perPTPInstanceGlobal
      perPortGlobal := besideAnnouncePort p interval v.perPortGlobal }

theorem beside_tracePath (g : PerPTPInstanceGlobal) (announce : PTPMsgAnnounce) :
    Outcomes (fun v w => w = besideAnnounce x v) (tracePath g announce)
      (tracePath (besideAnnounce x g) announce) :=
  .ite Iff.rfl (.ok rfl) (.error _)

theorem beside_receiveAction {v w : PortAnnounceInformationExtSM}
    (h : Beside x p v w) :
    Outcomes (Beside x p) v.receiveAction w.receiveAction := by
  obtain ⟨interval, rfl⟩ := h
  refine .ite Iff.rfl (.bind_same fun announce =>
    .bind (beside_tracePath _ announce) ?_) ⟨interval, rfl⟩
  rintro g _ rfl
  exact ⟨interval, rfl⟩

theorem beside_action {v w : PortAnnounceInformationExtSM}
    (h : Beside x p v w) (s : PortAnnounceInformationExtSMState) :
    Outcomes (Beside x p) (action s v) (action s w) := by
  cases s with
  | init => exact h
  | initializing =>
      obtain ⟨interval, rfl⟩ := h
      exact ⟨interval, rfl⟩
  | receive => exact beside_receiveAction h

theorem beside_halt {v w : PortAnnounceInformationExtSM} (h : Beside x p v w)
    (f : Fault) : Beside x p (v.halt f) (w.halt f) := by
  obtain ⟨interval, rfl⟩ := h
  exact ⟨interval, rfl⟩

theorem simulates_beside : Program.Simulates (Beside x p) program program where
  action s _ _ h :=
    attempt_related (beside_action h s) fun f => beside_halt h f
  transition := by
    rintro s v _ ⟨interval, rfl⟩
    cases s <;> rfl
  fault := by
    rintro v _ ⟨interval, rfl⟩
    rfl
  halt f _ _ h := beside_halt h f

end PortAnnounceInformationExtSM

namespace PortAnnounceInformationExtMachine

open PortAnnounceInformationExtSM

variable {m n : PortAnnounceInformationExtMachine}

theorem beside_run (h : m.Related (Beside x p) n) :
    m.run.Related (Beside x p) n.run := by
  apply simulates_beside.run
  obtain ⟨hstate, hlast, interval, hvars⟩ := h
  refine ⟨?_, hlast, interval, hvars⟩
  unfold ready
  rw [hstate, hvars]
  rfl

theorem beside_init {v w : PortAnnounceInformationExtSM}
    (h : Beside x p v w) :
    (initPortAnnounceInformationExtSm v).Related (Beside x p)
      (initPortAnnounceInformationExtSm w) := by
  obtain ⟨interval, rfl⟩ := h
  exact beside_run ⟨rfl, rfl, interval, rfl⟩

theorem beside_recvAnnounce (h : m.Related (Beside x p) n)
    (announce : PTPMsgAnnounce) :
    (m.recvAnnounce announce).Related (Beside x p)
      (n.recvAnnounce announce) := by
  obtain ⟨hstate, hlast, hvars⟩ := h
  have hstore : Outcomes (Beside x p) (m.vars.storeAnnounce announce)
      (n.vars.storeAnnounce announce) := by
    obtain ⟨interval, hvars⟩ := hvars
    rw [hvars]
    exact .bind_same fun _ => ⟨interval, rfl⟩
  unfold recvAnnounce
  cases hv : m.vars.storeAnnounce announce with
  | error f =>
      rw [hv] at hstore
      rw [hstore.error_right]
      exact ⟨hstate, hlast, beside_halt hvars f⟩
  | ok v =>
      rw [hv] at hstore
      obtain ⟨w, hw, hR⟩ := hstore.ok_right
      rw [hw]
      exact beside_run ⟨hstate, hlast, hR⟩

end PortAnnounceInformationExtMachine

/-!
## The transmission of announcements
-/

namespace PortAnnounceTransmitSM

open PortAnnounceTransmitSMState

def Beside (x : PerPTPInstanceGlobal) (p : PerPortGlobal)
    (v w : PortAnnounceTransmitSM) : Prop :=
  exists interval, w =
    { v with
      perPTPInstanceGlobal := besideAnnounce x v.perPTPInstanceGlobal
      perPortGlobal := besideAnnouncePort p interval v.perPortGlobal }

theorem beside_txAnnounce {v w : PortAnnounceTransmitSM} (h : Beside x p v w) :
    Outcomes (Beside x p) v.txAnnounce w.txAnnounce := by
  obtain ⟨interval, rfl⟩ := h
  exact .bind_same fun _ => ⟨interval, rfl⟩

theorem beside_action {v w : PortAnnounceTransmitSM} (h : Beside x p v w)
    (s : PortAnnounceTransmitSMState) :
    Outcomes (Beside x p) (action ts s v) (action ts s w) := by
  obtain ⟨interval, rfl⟩ := h
  cases s with
  | init => exact ⟨interval, rfl⟩
  | transmitInit => exact ⟨interval, rfl⟩
  | transmitPeriodic => exact ⟨interval, rfl⟩
  | idle => exact ⟨interval, rfl⟩
  | transmitAnnounce =>
      -- `setAnnounce` builds the same message on both sides.
      refine .bind_same fun announce =>
        .bind (beside_txAnnounce ⟨interval, rfl⟩) ?_
      rintro v _ ⟨interval, rfl⟩
      exact ⟨interval, rfl⟩

theorem simulates_beside :
    Program.Simulates (Beside x p) (behaviour ts).program
      (behaviour ts).program := by
  refine Behaviour.simulates (fun s _ _ h => beside_action h s) ?_ ?_ ?_
  · rintro s v _ ⟨interval, rfl⟩
    cases s <;> rfl
  · rintro v _ ⟨interval, rfl⟩
    rfl
  · rintro f v _ ⟨interval, rfl⟩
    exact ⟨interval, rfl⟩

end PortAnnounceTransmitSM

namespace PortAnnounceTransmitMachine

open PortAnnounceTransmitSM

variable {m n : PortAnnounceTransmitMachine}

theorem beside_run (h : m.Related (Beside x p) n) :
    (m.run ts).Related (Beside x p) (n.run ts) := by
  apply simulates_beside.run
  obtain ⟨hstate, hlast, interval, hvars⟩ := h
  refine ⟨?_, hlast, interval, hvars⟩
  unfold ready
  rw [hstate, hvars]
  rfl

theorem beside_init {v w : PortAnnounceTransmitSM} (h : Beside x p v w) :
    (initPortAnnounceTransmitSm v).Related (Beside x p)
      (initPortAnnounceTransmitSm w) := by
  obtain ⟨interval, rfl⟩ := h
  exact beside_run ⟨rfl, rfl, interval, rfl⟩

end PortAnnounceTransmitMachine

/-!
## The selection of the port states
-/

section Selection

variable {ps : PerPortGlobalArray} {intervals : PortIndex -> UScaledNs}

def besideAnnouncePorts (ps : PerPortGlobalArray)
    (intervals : PortIndex -> UScaledNs) (ports : PerPortGlobalArray) :
    PerPortGlobalArray :=
  fun i => besideAnnouncePort (ps i) (intervals i) (ports i)

/-- The globals of the instance and of its ports. -/
def besideAnnounceAll (x : PerPTPInstanceGlobal) (ps : PerPortGlobalArray)
    (intervals : PortIndex -> UScaledNs)
    (s : PerPTPInstanceGlobal × PerPortGlobalArray) :
    PerPTPInstanceGlobal × PerPortGlobalArray :=
  (besideAnnounce x s.1, besideAnnouncePorts ps intervals s.2)

theorem choosePort_beside (g : PerPTPInstanceGlobal) (interval : UScaledNs)
    (port : PerPortGlobal) :
    choosePort (besideAnnounce x g) (besideAnnouncePort p interval port) =
      besideAnnounce x (choosePort g port) := by
  unfold choosePort
  rw [apply_ite (besideAnnounce x)]
  rfl

theorem chooseGrandmaster_beside (g : PerPTPInstanceGlobal)
    (ports : PerPortGlobalArray) :
    chooseGrandmaster (besideAnnounce x g)
        (besideAnnouncePorts ps intervals ports) =
      besideAnnounce x (chooseGrandmaster g ports) := by
  unfold chooseGrandmaster
  rw [List.ofFn_eq_map, List.ofFn_eq_map, List.foldl_map, List.foldl_map]
  have hsystem : chooseSystem (besideAnnounce x g) =
      besideAnnounce x (chooseSystem g) := rfl
  rw [hsystem]
  exact List.foldl_hom (besideAnnounce x) fun g i =>
    choosePort_beside g (intervals i) (ports i)

theorem tracePath_beside (g : PerPTPInstanceGlobal) (interval : UScaledNs)
    (port : PerPortGlobal) :
    tracePath (besideAnnounce x g) (besideAnnouncePort p interval port) =
      besideAnnounce x (tracePath g port) := by
  unfold tracePath
  dsimp only
  rw [apply_ite (besideAnnounce x)]
  rfl

theorem portStateUpdate_beside (g : PerPTPInstanceGlobal) (i : PortIndex)
    (interval : UScaledNs) (port : PerPortGlobal) (path : PriorityVector) :
    portStateUpdate (besideAnnounce x g) i
        (besideAnnouncePort p interval port) path =
      (besideAnnounce x (portStateUpdate g i port path).1,
        besideAnnouncePort p interval (portStateUpdate g i port path).2) := by
  unfold portStateUpdate
  dsimp only
  rw [apply_ite (besideAnnounce x), ← tracePath_beside]
  rfl

theorem updatePort_beside (paths : PortIndex -> PriorityVector)
    (s : PerPTPInstanceGlobal × PerPortGlobalArray) (i : PortIndex) :
    updatePort paths (besideAnnounceAll x ps intervals s) i =
      besideAnnounceAll x ps intervals (updatePort paths s i) := by
  change ((portStateUpdate (besideAnnounce x s.1) i
      (besideAnnouncePort (ps i) (intervals i) (s.2 i)) (paths i)).1,
    Function.update (besideAnnouncePorts ps intervals s.2) i
      (portStateUpdate (besideAnnounce x s.1) i
        (besideAnnouncePort (ps i) (intervals i) (s.2 i)) (paths i)).2) = _
  rw [portStateUpdate_beside]
  refine Prod.ext rfl (funext fun j => ?_)
  exact (Function.apply_update
    (fun j => besideAnnouncePort (ps j) (intervals j)) s.2 i _ j).symm

theorem computeMaster_beside (g : PerPTPInstanceGlobal)
    (ports : PerPortGlobalArray) :
    computeMaster (besideAnnounce x g)
        (besideAnnouncePorts ps intervals ports) =
      besideAnnounceAll x ps intervals (computeMaster g ports) :=
  rfl

theorem concludeSelection_beside (g : PerPTPInstanceGlobal) :
    concludeSelection (besideAnnounce x g) =
      besideAnnounce x (concludeSelection g) := by
  unfold concludeSelection
  dsimp only
  rw [apply_ite (besideAnnounce x)]
  rfl

theorem concluded_beside (s : PerPTPInstanceGlobal × PerPortGlobalArray) :
    (concludeSelection (besideAnnounceAll x ps intervals s).1,
        (besideAnnounceAll x ps intervals s).2) =
      besideAnnounceAll x ps intervals (concludeSelection s.1, s.2) :=
  Prod.ext (concludeSelection_beside s.1) rfl

theorem updtStatesTree_beside (g : PerPTPInstanceGlobal)
    (ports : PerPortGlobalArray) :
    updtStatesTree (besideAnnounce x g)
        (besideAnnouncePorts ps intervals ports) =
      besideAnnounceAll x ps intervals (updtStatesTree g ports) := by
  have hpaths : (fun i => gmPathPriority
      (besideAnnouncePorts ps intervals ports i)) =
        fun i => gmPathPriority (ports i) := rfl
  unfold updtStatesTree updatePorts
  rw [hpaths, chooseGrandmaster_beside, computeMaster_beside,
    List.foldl_hom (besideAnnounceAll x ps intervals)
      fun s i => (updatePort_beside _ s i)]
  exact concluded_beside _

end Selection

namespace PortStateSelectionSM

open PortStateSelectionSMState

variable {ps : PerPortGlobalArray}

def Beside (x : PerPTPInstanceGlobal) (ps : PerPortGlobalArray)
    (v w : PortStateSelectionSM) : Prop :=
  exists intervals, w =
    { v with
      perPTPInstanceGlobal := besideAnnounce x v.perPTPInstanceGlobal
      perPortGlobalArray :=
        besideAnnouncePorts ps intervals v.perPortGlobalArray }

/-- The variables after a selection with the result `updated`. -/
def selectedAs (updated : PerPTPInstanceGlobal × PerPortGlobalArray)
    (sm : PortStateSelectionSM) : PortStateSelectionSM :=
  { sm with
    systemIdentityChange := false
    asymmetryMeasurementModeChange := false
    perPTPInstanceGlobal := { updated.1 with selected := fun _ => true }
    perPortGlobalArray := updated.2 }

theorem stateSelectionAction_eq (sm : PortStateSelectionSM) :
    sm.stateSelectionAction =
      sm.selectedAs (updtStatesTree
        (clearReselectTree sm.perPTPInstanceGlobal) sm.perPortGlobalArray) :=
  rfl

theorem beside_selectedAs {v w : PortStateSelectionSM} (h : Beside x ps v w)
    (intervals : PortIndex -> UScaledNs)
    (updated : PerPTPInstanceGlobal × PerPortGlobalArray) :
    Beside x ps (v.selectedAs updated)
      (w.selectedAs (besideAnnounceAll x ps intervals updated)) := by
  obtain ⟨_, rfl⟩ := h
  exact ⟨intervals, rfl⟩

theorem beside_stateSelectionAction {v w : PortStateSelectionSM}
    (h : Beside x ps v w) :
    Beside x ps v.stateSelectionAction w.stateSelectionAction := by
  have hselected := beside_selectedAs h
  obtain ⟨intervals, hw⟩ := h
  have hupdated : updtStatesTree (clearReselectTree w.perPTPInstanceGlobal)
      w.perPortGlobalArray =
        besideAnnounceAll x ps intervals
          (updtStatesTree (clearReselectTree v.perPTPInstanceGlobal)
            v.perPortGlobalArray) := by
    rw [hw]
    exact updtStatesTree_beside (clearReselectTree v.perPTPInstanceGlobal)
      v.perPortGlobalArray
  rw [stateSelectionAction_eq, stateSelectionAction_eq, hupdated]
  exact hselected intervals _

theorem simulates_beside : Program.Simulates (Beside x ps) program program where
  action s v w h := by
    cases s with
    | init => exact h
    | initBridge =>
        obtain ⟨intervals, rfl⟩ := h
        exact ⟨intervals, rfl⟩
    | stateSelection => exact beside_stateSelectionAction h
  transition := by
    rintro s v _ ⟨intervals, rfl⟩
    cases s <;> rfl
  fault := by
    rintro v _ ⟨intervals, rfl⟩
    rfl
  halt := by
    rintro f v _ ⟨intervals, rfl⟩
    exact ⟨intervals, rfl⟩

end PortStateSelectionSM

namespace PortStateSelectionMachine

open PortStateSelectionSM

variable {ps : PerPortGlobalArray} {m n : PortStateSelectionMachine}

theorem beside_run (h : m.Related (Beside x ps) n) :
    m.run.Related (Beside x ps) n.run := by
  apply simulates_beside.run
  obtain ⟨hstate, hlast, intervals, hvars⟩ := h
  refine ⟨?_, hlast, intervals, hvars⟩
  unfold ready
  rw [hstate, hvars]
  rfl

theorem beside_init {v w : PortStateSelectionSM} (h : Beside x ps v w) :
    (initPortStateSelectionSm v).Related (Beside x ps)
      (initPortStateSelectionSm w) := by
  obtain ⟨intervals, rfl⟩ := h
  exact beside_run ⟨rfl, rfl, intervals, rfl⟩

end PortStateSelectionMachine

/-!
## The loop
-/

/-- The variables differ in the globals only, which a call hands over anew. -/
def PortAnnounceInformationSM.SameOwn (v w : PortAnnounceInformationSM) : Prop :=
  exists g port, w = { v with perPTPInstanceGlobal := g, perPortGlobal := port }

def PortAnnounceInformationExtSM.SameOwn (v w : PortAnnounceInformationExtSM) :
    Prop :=
  exists g port, w = { v with perPTPInstanceGlobal := g, perPortGlobal := port }

def PortAnnounceTransmitSM.SameOwn (v w : PortAnnounceTransmitSM) : Prop :=
  exists g port, w = { v with perPTPInstanceGlobal := g, perPortGlobal := port }

def PortStateSelectionSM.SameOwn (v w : PortStateSelectionSM) : Prop :=
  exists g ports, w =
    { v with perPTPInstanceGlobal := g, perPortGlobalArray := ports }

namespace AnnounceLoop

/-- The loops differ in what lies beside their machines. -/
structure Beside (x : PerPTPInstanceGlobal) (ps : PerPortGlobalArray)
    (l l' : AnnounceLoop) : Prop where
  perPTPInstanceGlobal :
    l'.perPTPInstanceGlobal = besideAnnounce x l.perPTPInstanceGlobal
  perPortGlobal : forall i,
    PortBeside (ps i) (l.perPortGlobal i) (l'.perPortGlobal i)
  portStateSelectionSm : l.portStateSelectionSm.Related
    PortStateSelectionSM.SameOwn l'.portStateSelectionSm
  portAnnounceInformationSms : forall i,
    (l.portAnnounceInformationSms i).Related PortAnnounceInformationSM.SameOwn
      (l'.portAnnounceInformationSms i)
  portAnnounceInformationExtSms : forall i,
    (l.portAnnounceInformationExtSms i).Related
      PortAnnounceInformationExtSM.SameOwn (l'.portAnnounceInformationExtSms i)
  portAnnounceTransmitSms : forall i,
    (l.portAnnounceTransmitSms i).Related PortAnnounceTransmitSM.SameOwn
      (l'.portAnnounceTransmitSms i)
  process : l'.process = l.process

variable {x : PerPTPInstanceGlobal} {ps : PerPortGlobalArray}
  {l l' : AnnounceLoop}

/-!
### The variables that a call hands over
-/

theorem Beside.loadPortStateSelection (h : l.Beside x ps l') :
    PortStateSelectionSM.Beside x ps l.loadPortStateSelection
      l'.loadPortStateSelection := by
  obtain ⟨g, ports, hvars⟩ := h.portStateSelectionSm.vars
  choose intervals hports using h.perPortGlobal
  refine ⟨intervals, ?_⟩
  unfold AnnounceLoop.loadPortStateSelection
  rw [hvars, h.perPTPInstanceGlobal, h.process, funext hports]
  rfl

theorem Beside.loadPortAnnounceInformation (h : l.Beside x ps l')
    (i : PortIndex) :
    PortAnnounceInformationSM.Beside x (ps i) (l.loadPortAnnounceInformation i)
      (l'.loadPortAnnounceInformation i) := by
  obtain ⟨g, port, hvars⟩ := (h.portAnnounceInformationSms i).vars
  obtain ⟨interval, hport⟩ := h.perPortGlobal i
  refine ⟨interval, ?_⟩
  unfold AnnounceLoop.loadPortAnnounceInformation
  rw [hvars, h.perPTPInstanceGlobal, h.process, hport]

theorem Beside.loadPortAnnounceInformationExt (h : l.Beside x ps l')
    (i : PortIndex) :
    PortAnnounceInformationExtSM.Beside x (ps i)
      (l.loadPortAnnounceInformationExt i)
      (l'.loadPortAnnounceInformationExt i) := by
  obtain ⟨g, port, hvars⟩ := (h.portAnnounceInformationExtSms i).vars
  obtain ⟨interval, hport⟩ := h.perPortGlobal i
  refine ⟨interval, ?_⟩
  unfold AnnounceLoop.loadPortAnnounceInformationExt
  rw [hvars, h.perPTPInstanceGlobal, h.process, hport]

theorem Beside.loadPortAnnounceTransmit (h : l.Beside x ps l') (i : PortIndex) :
    PortAnnounceTransmitSM.Beside x (ps i) (l.loadPortAnnounceTransmit i)
      (l'.loadPortAnnounceTransmit i) := by
  obtain ⟨g, port, hvars⟩ := (h.portAnnounceTransmitSms i).vars
  obtain ⟨interval, hport⟩ := h.perPortGlobal i
  refine ⟨interval, ?_⟩
  unfold AnnounceLoop.loadPortAnnounceTransmit
  rw [hvars, h.perPTPInstanceGlobal, h.process, hport]

/-!
### The variables that a call takes back
-/

theorem Beside.storePortStateSelection (h : l.Beside x ps l')
    {m n : PortStateSelectionMachine}
    (hm : m.Related (PortStateSelectionSM.Beside x ps) n) :
    (l.storePortStateSelection m).Beside x ps
      (l'.storePortStateSelection n) := by
  obtain ⟨hstate, hlast, intervals, hvars⟩ := hm
  unfold AnnounceLoop.storePortStateSelection
  rw [hvars]
  exact
    { h with
      perPTPInstanceGlobal := rfl
      perPortGlobal := fun i => ⟨intervals i, rfl⟩
      portStateSelectionSm := ⟨hstate, hlast, _, _, hvars⟩
      process := rfl }

theorem Beside.storePortAnnounceInformation (h : l.Beside x ps l')
    {i : PortIndex} {m n : PortAnnounceInformationMachine}
    (hm : m.Related (PortAnnounceInformationSM.Beside x (ps i)) n) :
    (l.storePortAnnounceInformation i m).Beside x ps
      (l'.storePortAnnounceInformation i n) := by
  obtain ⟨hstate, hlast, interval, hvars⟩ := hm
  unfold AnnounceLoop.storePortAnnounceInformation
  rw [hvars]
  exact
    { h with
      perPTPInstanceGlobal := rfl
      perPortGlobal := update_related h.perPortGlobal ⟨interval, rfl⟩
      portAnnounceInformationSms :=
        update_related h.portAnnounceInformationSms
          ⟨hstate, hlast, _, _, hvars⟩
      process := rfl }

theorem Beside.storePortAnnounceInformationExt (h : l.Beside x ps l')
    {i : PortIndex} {m n : PortAnnounceInformationExtMachine}
    (hm : m.Related (PortAnnounceInformationExtSM.Beside x (ps i)) n) :
    (l.storePortAnnounceInformationExt i m).Beside x ps
      (l'.storePortAnnounceInformationExt i n) := by
  obtain ⟨hstate, hlast, interval, hvars⟩ := hm
  unfold AnnounceLoop.storePortAnnounceInformationExt
  rw [hvars]
  exact
    { h with
      perPTPInstanceGlobal := rfl
      perPortGlobal := update_related h.perPortGlobal ⟨interval, rfl⟩
      portAnnounceInformationExtSms :=
        update_related h.portAnnounceInformationExtSms
          ⟨hstate, hlast, _, _, hvars⟩
      process := rfl }

theorem Beside.storePortAnnounceTransmit (h : l.Beside x ps l')
    {i : PortIndex} {m n : PortAnnounceTransmitMachine}
    (hm : m.Related (PortAnnounceTransmitSM.Beside x (ps i)) n) :
    (l.storePortAnnounceTransmit i m).Beside x ps
      (l'.storePortAnnounceTransmit i n) := by
  obtain ⟨hstate, hlast, interval, hvars⟩ := hm
  unfold AnnounceLoop.storePortAnnounceTransmit
  rw [hvars]
  exact
    { h with
      perPTPInstanceGlobal := rfl
      perPortGlobal := update_related h.perPortGlobal ⟨interval, rfl⟩
      portAnnounceTransmitSms :=
        update_related h.portAnnounceTransmitSms ⟨hstate, hlast, _, _, hvars⟩
      process := rfl }

/-!
### The statements
-/

theorem Beside.external (h : l.Beside x ps l') : l'.External <-> l.External := by
  unfold External
  rw [h.perPTPInstanceGlobal]
  rfl

theorem Beside.thenDo (h : l.Beside x ps l')
    {statement : AnnounceLoop -> AnnounceLoop}
    (hstatement : Preserves (Beside x ps) statement) :
    (l.thenDo statement).Beside x ps (l'.thenDo statement) := by
  unfold AnnounceLoop.thenDo
  rw [h.process]
  split
  · exact h
  · exact hstatement l l' h

theorem beside_initSelection : Preserves (Beside x ps) initSelection := by
  refine .ite (fun l l' h => h.external) .id fun l l' h => ?_
  exact h.storePortStateSelection
    (PortStateSelectionMachine.beside_init h.loadPortStateSelection)

theorem beside_initInformation (i : PortIndex) :
    Preserves (Beside x ps) (initInformation i) := by
  refine .ite (fun l l' h => h.external) (fun l l' h => ?_) fun l l' h => ?_
  · exact h.storePortAnnounceInformationExt
      (PortAnnounceInformationExtMachine.beside_init
        (h.loadPortAnnounceInformationExt i))
  · exact h.storePortAnnounceInformation
      (PortAnnounceInformationMachine.beside_init
        (h.loadPortAnnounceInformation i))

theorem beside_initTransmit (i : PortIndex) :
    Preserves (Beside x ps) (initTransmit i) := fun _ _ h =>
  h.storePortAnnounceTransmit
    (PortAnnounceTransmitMachine.beside_init (h.loadPortAnnounceTransmit i))

theorem beside_runSelection : Preserves (Beside x ps) runSelection := by
  refine .ite (fun l l' h => h.external) .id fun l l' h => ?_
  have hm := h.portStateSelectionSm
  exact h.storePortStateSelection (PortStateSelectionMachine.beside_run
    ⟨hm.state, hm.lastState, h.loadPortStateSelection⟩)

theorem beside_runInformation (i : PortIndex) (ts : UScaledNs) :
    Preserves (Beside x ps) (runInformation i ts) := by
  refine .ite (fun l l' h => h.external) .id fun l l' h => ?_
  have hm := h.portAnnounceInformationSms i
  exact h.storePortAnnounceInformation (PortAnnounceInformationMachine.beside_run
    ⟨hm.state, hm.lastState, h.loadPortAnnounceInformation i⟩)

theorem beside_runTransmit (i : PortIndex) (ts : UScaledNs) :
    Preserves (Beside x ps) (runTransmit i ts) := fun _ _ h =>
  h.storePortAnnounceTransmit (PortAnnounceTransmitMachine.beside_run
    ⟨(h.portAnnounceTransmitSms i).state,
      (h.portAnnounceTransmitSms i).lastState, h.loadPortAnnounceTransmit i⟩)

theorem beside_recvAnnounce (i : PortIndex) (ts : UScaledNs)
    (announce : PTPMsgAnnounce) :
    Preserves (Beside x ps) (recvAnnounce i ts announce) := by
  refine .ite (fun l l' h => h.external) (fun l l' h => ?_) fun l l' h => ?_
  · have hm := h.portAnnounceInformationExtSms i
    refine h.storePortAnnounceInformationExt
      (PortAnnounceInformationExtMachine.beside_recvAnnounce ?_ announce)
    exact ⟨hm.state, hm.lastState, h.loadPortAnnounceInformationExt i⟩
  · have hm := h.portAnnounceInformationSms i
    refine h.storePortAnnounceInformation
      (PortAnnounceInformationMachine.beside_recvAnnounce ?_ announce)
    exact ⟨hm.state, hm.lastState, h.loadPortAnnounceInformation i⟩

theorem beside_setSyncReceiptTimeoutTime (time : UScaledNs) :
    Preserves (Beside x ps) (setSyncReceiptTimeoutTime time) := by
  intro l l' h
  refine { h with perPTPInstanceGlobal := ?_ }
  unfold setSyncReceiptTimeoutTime
  rw [h.perPTPInstanceGlobal]
  rfl

theorem beside_step (e : Event) : Preserves (Beside x ps) (step · e) := by
  intro l l' h
  cases e with
  | timeout i ts =>
      exact (h.thenDo (beside_runInformation i ts)).thenDo
        (beside_runTransmit i ts)
  | announce i ts message =>
      exact (h.thenDo (beside_recvAnnounce i ts message)).thenDo
        beside_runSelection
  | select => exact h.thenDo beside_runSelection
  | syncReceipt time => exact h.thenDo (beside_setSyncReceiptTimeoutTime time)

end AnnounceLoop

end TimeSync
end Ziggo
