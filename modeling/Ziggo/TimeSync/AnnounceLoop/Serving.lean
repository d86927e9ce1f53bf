import Ziggo.TimeSync.AnnounceLoop.Ageing
import Ziggo.TimeSync.AnnounceLoop.Intervals

/-!
# Ports that can take in a message

The reception of an `Announce` uses what earlier calls have left: a pointer that
can be freed, an interval that can be shifted, and a port that is ready.  In
BMCA mode every run leaves them to every port.
-/

namespace Ziggo
namespace TimeSync

open Foundation TsnDrivers

namespace PortAnnounceInformationSM

variable {ts : UScaledNs} {sm sm' : PortAnnounceInformationSM}
  {announce : PTPMsgAnnounce}

/-- The machine of a port serves it: it can store a message and record it. -/
structure Serves (state : PortAnnounceInformationSMState)
    (sm : PortAnnounceInformationSM) : Prop where
  pointer : sm.rcvdAnnouncePtr ≠ .released
  interval : sm.perPortGlobal.initialLogAnnounceInterval = 0
  ready : state = .init ∨ state = .disabled ∨ sm.portReady = true

theorem portReady_congr
    (h : portSettings sm'.perPortGlobal = portSettings sm.perPortGlobal) :
    sm'.portReady = sm.portReady := by
  have hoper : sm'.perPortGlobal.portOper = sm.perPortGlobal.portOper :=
    congrArg PortSettings.portOper h
  have henabled : sm'.perPortGlobal.ptpPortEnabled =
      sm.perPortGlobal.ptpPortEnabled :=
    congrArg PortSettings.ptpPortEnabled h
  have hcapable : sm'.perPortGlobal.asCapable = sm.perPortGlobal.asCapable :=
    congrArg PortSettings.asCapable h
  unfold portReady
  rw [hoper, henabled, hcapable]

theorem interval_recordOtherAnnounceInfo
    (h : sm.recordOtherAnnounceInfo announce = .ok sm') :
    sm'.perPortGlobal.initialLogAnnounceInterval =
      sm.perPortGlobal.initialLogAnnounceInterval :=
  congrArg AnnounceIntervals.initialLogAnnounceInterval
    (announceIntervals_recordOtherAnnounceInfo h)

theorem interval_action {state : PortAnnounceInformationSMState}
    (h : action ts state sm = .ok sm') :
    sm'.perPortGlobal.initialLogAnnounceInterval =
      sm.perPortGlobal.initialLogAnnounceInterval :=
  congrArg AnnounceIntervals.initialLogAnnounceInterval
    (announceIntervals_action h)

theorem Serves.action {state : PortAnnounceInformationSMState}
    (h : Serves state sm)
    (haction : PortAnnounceInformationSM.action ts state sm = .ok sm') :
    Serves state sm' := by
  have hframe := frame_action haction
  constructor
  case pointer =>
    rcases hframe.pointer with hpointer | hpointer
    · rw [hpointer]
      exact h.pointer
    · rw [hpointer]
      exact Ptr.null_ne_released
  case interval => exact (interval_action haction).trans h.interval
  case ready =>
    rw [portReady_congr hframe.port]
    exact h.ready

theorem Serves.transition {state next : PortAnnounceInformationSMState}
    (h : Serves state sm)
    (hnext : PortAnnounceInformationSM.transition ts state sm = .ok next)
    (hne : next ≠ state) : Serves next sm := by
  refine ⟨h.pointer, h.interval, ?_⟩
  cases state with
  | init =>
      cases hnext
      exact Or.inr (Or.inl rfl)
  | disabled =>
      exact Or.inr (Or.inr (disabled_left hnext hne).right)
  | _ =>
      rcases h.ready with hinit | hdisabled | hready
      · cases hinit
      · cases hdisabled
      · exact Or.inr (Or.inr hready)

theorem Serves.congr {state : PortAnnounceInformationSMState}
    (h : Serves state sm) (hpointer : sm'.rcvdAnnouncePtr = sm.rcvdAnnouncePtr)
    (hinterval : sm'.perPortGlobal.initialLogAnnounceInterval =
      sm.perPortGlobal.initialLogAnnounceInterval)
    (hsettings : portSettings sm'.perPortGlobal =
      portSettings sm.perPortGlobal) : Serves state sm' where
  pointer := by
    rw [hpointer]
    exact h.pointer
  interval := hinterval.trans h.interval
  ready := by
    rw [portReady_congr hsettings]
    exact h.ready

end PortAnnounceInformationSM

namespace PortAnnounceInformationMachine

open PortAnnounceInformationSM

variable {ts : UScaledNs} {m : PortAnnounceInformationMachine}
  {announce : PTPMsgAnnounce}

/-- The condition annotates the machine. -/
def serving (ts : UScaledNs) : Program.Annotation (behaviour ts).program :=
  (behaviour ts).annotate Serves Serves (fun _ _ _ => Serves.action)
    (fun _ _ _ => Serves.transition)

theorem Serves.holds (h : Serves m.state m.vars) :
    (serving ts).Holds m.ready := by
  have hready : Serves m.ready.state m.vars := by
    rcases Knowledge.ready_state m with hstate | hstate
    · rw [hstate]
      exact ⟨h.pointer, h.interval, Or.inr (Or.inl rfl)⟩
    · rw [hstate]
      exact h
  exact ⟨fun _ => hready, fun _ => hready⟩

theorem serves_run (h : Serves m.state m.vars)
    (hruns : (m.run ts).vars.process.stop = none) :
    Serves (m.run ts).state (m.run ts).vars :=
  ((serving ts).run_post passes (Serves.holds h) hruns).right

theorem serves_recvAnnounce (h : Serves m.state m.vars)
    (hruns : (m.recvAnnounce ts announce).vars.process.stop = none) :
    Serves (m.recvAnnounce ts announce).state
      (m.recvAnnounce ts announce).vars := by
  unfold recvAnnounce at hruns ⊢
  cases hstore : m.vars.storeAnnounce announce with
  | error f =>
      rw [hstore] at hruns
      cases hruns
  | ok vars =>
      rw [hstore] at hruns
      obtain ⟨_, _, hreturn⟩ := bind_eq_ok.mp hstore
      cases hreturn
      exact serves_run ⟨Ptr.live_ne_released _, h.interval, h.ready⟩ hruns

theorem serves_init {memory : PortAnnounceInformationSM}
    (hinterval : memory.perPortGlobal.initialLogAnnounceInterval = 0)
    (hruns : (initPortAnnounceInformationSm memory).vars.process.stop = none) :
    Serves (initPortAnnounceInformationSm memory).state
      (initPortAnnounceInformationSm memory).vars :=
  serves_run (m := first memory)
    ⟨Ptr.null_ne_released, hinterval, Or.inl rfl⟩ hruns

end PortAnnounceInformationMachine

namespace AnnounceLoop

variable {config : Config} {memory : LoopMemory} {l : AnnounceLoop}

/-!
## Runs
-/

/-- The machine of a port serves it, whatever is known of the information. -/
def Serves (l : AnnounceLoop) (i : PortIndex) : Prop :=
  PortAnnounceInformationSM.Serves (l.informationMachine i).state
    (l.informationMachine i).vars

/-- The machines of all ports serve them. -/
structure Attending (config : Config) (l : AnnounceLoop) : Prop where
  informed : Informed config
    (sourceKnowledge config.systemIdentity.clockIdentity) l
  serves : forall i, l.Serves i

theorem serves_store (h : forall i, l.Serves i) {i : PortIndex}
    {m : PortAnnounceInformationMachine}
    (hm : PortAnnounceInformationSM.Serves m.state m.vars) (j : PortIndex) :
    (l.storePortAnnounceInformation i m).Serves j := by
  unfold Serves
  by_cases hji : j = i
  · rw [hji, informationMachine_store_self]
    exact hm
  · rw [informationMachine_store_of_ne l hji]
    exact (h j).congr rfl rfl rfl

theorem Attending.runInformation (h : Attending config l)
    (hmode : ¬ l.External) {i : PortIndex} {ts : UScaledNs}
    (hruns : (l.runInformation i ts).Runs) :
    Attending config (l.runInformation i ts) := by
  refine ⟨h.informed.runInformation hmode hruns, ?_⟩
  unfold AnnounceLoop.runInformation at hruns ⊢
  rw [if_neg hmode] at hruns ⊢
  exact serves_store h.serves
    (PortAnnounceInformationMachine.serves_run
      (m := l.informationMachine i) (h.serves i) hruns)

theorem Attending.recvAnnounce (h : Attending config l)
    (hmode : ¬ l.External) {i : PortIndex} {ts : UScaledNs}
    {message : PTPMsgAnnounce} (hruns : (l.recvAnnounce i ts message).Runs) :
    Attending config (l.recvAnnounce i ts message) := by
  refine ⟨h.informed.recvAnnounce hmode trivial hruns, ?_⟩
  unfold AnnounceLoop.recvAnnounce at hruns ⊢
  rw [if_neg hmode] at hruns ⊢
  exact serves_store h.serves
    (PortAnnounceInformationMachine.serves_recvAnnounce
      (m := l.informationMachine i) (h.serves i) hruns)

/-- A port is served whatever happens to the globals of the instance. -/
theorem Serves.congr {i : PortIndex} (h : l.Serves i) {l' : AnnounceLoop}
    (hsms : l'.portAnnounceInformationSms i = l.portAnnounceInformationSms i)
    (hinterval : (l'.perPortGlobal i).initialLogAnnounceInterval =
      (l.perPortGlobal i).initialLogAnnounceInterval)
    (hsettings : portSettings (l'.perPortGlobal i) =
      portSettings (l.perPortGlobal i)) : l'.Serves i := by
  have hstate : (l'.informationMachine i).state =
      (l.informationMachine i).state :=
    (congrArg Machine.state hsms :)
  unfold Serves
  rw [hstate]
  refine PortAnnounceInformationSM.Serves.congr h ?_ hinterval hsettings
  exact congrArg (fun m => m.vars.rcvdAnnouncePtr) hsms

theorem Attending.runTransmit (h : Attending config l) (i : PortIndex)
    (ts : UScaledNs) : Attending config (l.runTransmit i ts) := by
  obtain ⟨_, hports⟩ := runTransmit_vars l i ts
  refine ⟨h.informed.runTransmit i ts, fun j => ?_⟩
  exact (h.serves j).congr rfl
    (congrArg (fun ports => (ports j).initialLogAnnounceInterval) hports)
    (congrArg (fun ports => portSettings (ports j)) hports)

/-- A selection writes nothing to a port that the actions need. -/
theorem serves_tree (l : AnnounceLoop) (i : PortIndex) :
    (l.tree.2 i).initialLogAnnounceInterval =
        (l.perPortGlobal i).initialLogAnnounceInterval ∧
      portSettings (l.tree.2 i) = portSettings (l.perPortGlobal i) := by
  unfold tree
  rw [ports_updtStatesTree]
  exact ⟨rfl, rfl⟩

theorem Attending.runSelection (h : Attending config l)
    (hmode : ¬ l.External) (hruns : l.Runs) :
    Attending config l.runSelection := by
  have hinformed := h.informed.runSelection
    (electable_sourceKnowledge config.systemIdentity) hmode hruns
  have hselection := h.informed.elected.selection
  have henabled := h.informed.elected.configured.enabled hruns
  have hports : forall i,
      (l.runSelection.perPortGlobal i).initialLogAnnounceInterval =
          (l.perPortGlobal i).initialLogAnnounceInterval ∧
        portSettings (l.runSelection.perPortGlobal i) =
          portSettings (l.perPortGlobal i) := by
    intro i
    by_cases hasked : l.Asked
    · rw [runSelection_asked hselection henabled hmode hasked,
        elect_perPortGlobal]
      exact serves_tree l i
    · rw [runSelection_idle hselection henabled hmode hasked]
      exact ⟨rfl, rfl⟩
  exact ⟨hinformed, fun i => (h.serves i).congr
    (congrFun (portAnnounceInformationSms_runSelection l) i)
    (hports i).left (hports i).right⟩

theorem keeping_attending
    (hmode : config.externalPortConfigurationEnabled = false) :
    Keeping (fun _ => True) (Attending config) where
  runInformation _ _ _ h _ hruns :=
    h.runInformation (h.informed.not_external hmode) hruns
  recvAnnounce _ _ _ _ _ h _ hruns :=
    h.recvAnnounce (h.informed.not_external hmode) hruns
  runTransmit _ i ts h _ := h.runTransmit i ts
  runSelection _ h hruns :=
    h.runSelection (h.informed.not_external hmode) hruns
  syncReceipt _ time h :=
    ⟨h.informed.setSyncReceiptTimeoutTime time,
      fun i => (h.serves i).congr rfl rfl rfl⟩

theorem serves_initPort (hmode : ¬ l.External) {i : PortIndex}
    (hruns : (l.initPort i).Runs)
    (hinterval : (l.perPortGlobal i).initialLogAnnounceInterval = 0) :
    (l.initPort i).Serves i := by
  obtain ⟨hports, hinit⟩ := perPortGlobal_initPort hmode hruns
  obtain ⟨hmachines, _⟩ := portAnnounceInformationSms_initPort hmode hruns
  have hserves := @PortAnnounceInformationMachine.serves_init
    (l.loadPortAnnounceInformation i) hinterval hinit
  have hmachine := congrFun hmachines i
  have hport := congrFun hports i
  rw [Function.update_self] at hmachine hport
  unfold Serves informationMachine
  dsimp only
  rw [hmachine]
  refine hserves.congr ?_ ?_ ?_
  · exact congrArg (fun m => m.vars.rcvdAnnouncePtr) hmachine
  · exact congrArg PerPortGlobal.initialLogAnnounceInterval hport
  · exact congrArg portSettings hport

/-- The main loop has set the intervals, and no machine changes them. -/
theorem interval_start (config : Config) (memory : LoopMemory)
    (i : PortIndex) :
    ((start config memory).perPortGlobal i).initialLogAnnounceInterval = 0 :=
  congrArg AnnounceIntervals.initialLogAnnounceInterval
    (congrFun (intervals_start config memory) i)

theorem attending_start
    (hmode : config.externalPortConfigurationEnabled = false)
    (hruns : (start config memory).Runs) :
    Attending config (start config memory) := by
  have hfirst := firstElection_sourceKnowledge config memory
  refine ⟨informed_start hfirst hmode hruns, fun i => ?_⟩
  refine start_establishes
    (V := fun i l =>
      (l.perPortGlobal i).initialLogAnnounceInterval = 0 -> l.Serves i)
    hfirst hmode ?_ ?_ hruns i (interval_start config memory i)
  · intro l i h hruns hinterval
    refine serves_initPort (h.not_external hmode) hruns ?_
    have hports := congrFun (intervals_initPort l i) i
    exact (congrArg AnnounceIntervals.initialLogAnnounceInterval
      hports).symm.trans hinterval
  · intro l i j h hij hi hruns hinterval
    obtain ⟨hports, _⟩ := perPortGlobal_initPort (h.not_external hmode) hruns
    obtain ⟨hmachines, _⟩ :=
      portAnnounceInformationSms_initPort (h.not_external hmode) hruns
    have hport := congrFun hports i
    have hmachine := congrFun hmachines i
    rw [Function.update_of_ne hij] at hport hmachine
    rw [hport] at hinterval
    exact (hi hinterval).congr hmachine
      (congrArg PerPortGlobal.initialLogAnnounceInterval hport)
      (congrArg portSettings hport)

theorem attending_after
    (hmode : config.externalPortConfigurationEnabled = false)
    {es : List Event} (hruns : (after config memory es).Runs) :
    Attending config (after config memory es) :=
  (keeping_attending hmode).after (attending_start hmode)
    (fun e _ => by cases e <;> exact trivial) hruns

end AnnounceLoop

end TimeSync
end Ziggo
