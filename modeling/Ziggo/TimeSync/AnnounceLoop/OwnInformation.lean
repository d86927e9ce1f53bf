import Ziggo.TimeSync.AnnounceLoop.Selection

/-!
# The instance's own information on the ports

A port that holds the information of the instance compares received messages
with it.  In BMCA mode that information is what the last selection has decided
to announce, unless an update of it is pending.
-/

namespace Ziggo
namespace TimeSync

open Foundation TsnDrivers

/-- Own information that is not to be updated is the one to be announced. -/
def UpToDate (port : PerPortGlobal) (masterStepsRemoved : UInt16) : Prop :=
  port.infoIs = .mine -> port.updtInfo = false ->
    port.portPriority = port.masterPriority ∧
      port.portStepsRemoved = masterStepsRemoved

/-!
## The machine of a port
-/

namespace PortAnnounceInformationMachine

open PortAnnounceInformationSM

variable {ts : UScaledNs} {sm sm' : PortAnnounceInformationSM}

theorem upToDate_action {state : PortAnnounceInformationSMState}
    (h : UpToDate sm.perPortGlobal sm.perPTPInstanceGlobal.masterStepsRemoved)
    (haction : action ts state sm = .ok sm') :
    UpToDate sm'.perPortGlobal
      sm'.perPTPInstanceGlobal.masterStepsRemoved := by
  cases state with
  | init =>
      cases haction
      exact h
  | disabled =>
      cases haction
      exact fun hmine => by cases hmine
  | aged =>
      cases haction
      exact fun hmine => by cases hmine
  | update =>
      cases haction
      exact fun _ _ => ⟨rfl, rfl⟩
  | current =>
      cases haction
      exact h
  | receive =>
      obtain ⟨_, _, hreturn⟩ := bind_eq_ok.mp haction
      cases hreturn
      exact h
  | inferiorMasterOrOtherPort =>
      cases haction
      exact h
  | repeatedMasterPort =>
      obtain ⟨_, _, hrest⟩ := bind_eq_ok.mp haction
      obtain ⟨_, hrecord, hreturn⟩ := bind_eq_ok.mp hrest
      obtain ⟨_, _, hrecorded⟩ := bind_eq_ok.mp hrecord
      cases hrecorded
      cases hreturn
      exact h
  | superiorMasterPort =>
      obtain ⟨_, _, hrest⟩ := bind_eq_ok.mp haction
      obtain ⟨_, _, hrest⟩ := bind_eq_ok.mp hrest
      obtain ⟨_, _, hrest⟩ := bind_eq_ok.mp hrest
      obtain ⟨_, _, hreturn⟩ := bind_eq_ok.mp hrest
      cases hreturn
      exact fun hmine => by cases hmine

theorem upToDate_run {m : PortAnnounceInformationMachine}
    (h : UpToDate m.vars.perPortGlobal
      m.vars.perPTPInstanceGlobal.masterStepsRemoved) (ts : UScaledNs) :
    UpToDate (m.run ts).vars.perPortGlobal
      (m.run ts).vars.perPTPInstanceGlobal.masterStepsRemoved := by
  refine Behaviour.run_preserves (behaviour ts)
    (I := fun sm => UpToDate sm.perPortGlobal
      sm.perPTPInstanceGlobal.masterStepsRemoved) ?_ ?_ ?_ ?_ passes h
  · exact fun _ _ _ h haction => upToDate_action h haction
  · exact fun _ _ _ h _ => h
  · exact fun _ _ _ h _ => h
  · exact fun _ h => h

theorem upToDate_recvAnnounce {m : PortAnnounceInformationMachine}
    (h : UpToDate m.vars.perPortGlobal
      m.vars.perPTPInstanceGlobal.masterStepsRemoved) (ts : UScaledNs)
    (announce : PTPMsgAnnounce) :
    UpToDate (m.recvAnnounce ts announce).vars.perPortGlobal
      (m.recvAnnounce ts
        announce).vars.perPTPInstanceGlobal.masterStepsRemoved := by
  unfold recvAnnounce
  cases hstore : m.vars.storeAnnounce announce with
  | error f => exact h
  | ok vars =>
      have hvars : UpToDate vars.perPortGlobal
          vars.perPTPInstanceGlobal.masterStepsRemoved := by
        obtain ⟨_, _, hreturn⟩ := bind_eq_ok.mp hstore
        cases hreturn
        exact h
      exact upToDate_run (m := { m with vars := vars }) hvars ts

/-- What holds once the action of a state has been performed in the first run. -/
def Opening (state : PortAnnounceInformationSMState)
    (sm : PortAnnounceInformationSM) : Prop :=
  match state with
  | .init => True
  | .disabled => sm.perPortGlobal.infoIs = .disabled
  | .aged => sm.perPortGlobal.infoIs = .aged ∧ sm.isSelected = false
  | _ => False

/-- The states of the first run. -/
def Opened : PortAnnounceInformationSMState -> Prop
  | .init => True
  | .disabled => True
  | .aged => True
  | _ => False

theorem opening_action {state : PortAnnounceInformationSMState}
    (h : Opened state) (haction : action ts state sm = .ok sm') :
    Opening state sm' := by
  cases state with
  | init => trivial
  | disabled =>
      cases haction
      rfl
  | aged =>
      cases haction
      exact ⟨rfl, Function.update_self _ _ _⟩
  | _ => cases h

theorem opened_transition {state next : PortAnnounceInformationSMState}
    (h : Opening state sm) (hnext : transition ts state sm = .ok next)
    (hne : next ≠ state) : Opened next := by
  cases state with
  | init =>
      cases hnext
      trivial
  | disabled =>
      rcases disabled_left hnext hne with ⟨rfl, _⟩
      trivial
  | aged =>
      rcases aged_left hnext hne with ⟨_, hselected, _⟩
      exact absurd (h.right.symm.trans hselected) (by decide)
  | _ => cases h

/-- The machine before its first run, on memory with arbitrary contents. -/
def first (memory : PortAnnounceInformationSM) :
    PortAnnounceInformationMachine where
  state := .init
  lastState := none
  vars := { memory with rcvdAnnouncePtr := .null }

/-- The conditions of the states annotate the machine. -/
def opening (ts : UScaledNs) : Program.Annotation (behaviour ts).program :=
  (behaviour ts).annotate (fun state _ => Opened state) Opening
    (fun _ _ _ => opening_action) (fun _ _ _ => opened_transition)

theorem opening_ready (memory : PortAnnounceInformationSM) :
    (opening ts).Holds (first memory).ready := by
  constructor
  · intro hq
    cases hq
  · intro _
    change Opened (first memory).ready.state
    rcases Knowledge.ready_state (first memory) with hstate | hstate
    · rw [hstate]
      trivial
    · rw [hstate]
      trivial

theorem infoIs_init {memory : PortAnnounceInformationSM}
    (hruns : (initPortAnnounceInformationSm memory).vars.process.stop = none) :
    (initPortAnnounceInformationSm memory).vars.perPortGlobal.infoIs ≠
      .mine := by
  let ts : UScaledNs := { subns := 0, nsec := 0, nsecMsb := 0 }
  have hpost :=
    ((opening ts).run_post passes (opening_ready memory) hruns).right
  obtain ⟨_, hsettled⟩ :=
    Program.run_settled (behaviour ts).program passes hruns
  change Opening (initPortAnnounceInformationSm memory).state
    (initPortAnnounceInformationSm memory).vars at hpost
  change (behaviour ts).program.transition
    (initPortAnnounceInformationSm memory).state
    (initPortAnnounceInformationSm memory).vars =
      .ok (.goto (initPortAnnounceInformationSm memory).state) at hsettled
  intro hmine
  cases hstate : (initPortAnnounceInformationSm memory).state with
  | init =>
      rw [hstate] at hsettled
      cases hsettled
  | disabled =>
      rw [hstate] at hpost
      exact absurd (hpost.symm.trans hmine) (by decide)
  | aged =>
      rw [hstate] at hpost
      exact absurd (hpost.left.symm.trans hmine) (by decide)
  | _ =>
      rw [hstate] at hpost
      cases hpost

end PortAnnounceInformationMachine

namespace AnnounceLoop

variable {config : Config} {memory : LoopMemory} {l : AnnounceLoop}

/-!
## Selections
-/

/-- A selection asks for an update wherever the own information has changed. -/
theorem upToDate_tree
    (hsymmetric : forall i,
      (l.perPortGlobal i).asymmetryMeasurementMode = false) (i : PortIndex) :
    UpToDate (l.tree.2 i) l.tree.1.masterStepsRemoved := by
  intro hmine hupdt
  rw [masterStepsRemoved_tree, gmPriority_tree]
  unfold tree at hmine hupdt ⊢
  rw [ports_updtStatesTree] at hmine hupdt ⊢
  obtain ⟨_, hmaster, hsteps⟩ :=
    assigned_mine _ l.perPortGlobal hmine (hsymmetric i) hupdt
  exact ⟨hmaster.symm, hsteps.symm⟩

theorem upToDate_elect
    (hsymmetric : forall i,
      (l.perPortGlobal i).asymmetryMeasurementMode = false) (i : PortIndex) :
    UpToDate (l.elect.perPortGlobal i)
      l.elect.perPTPInstanceGlobal.masterStepsRemoved := by
  rw [elect_perPortGlobal, elect_perPTPInstanceGlobal,
    setSelectedTree_masterStepsRemoved]
  exact upToDate_tree hsymmetric i

/-!
## Runs
-/

/-- The own information of all ports, together with what is known of the rest. -/
structure Maintained (config : Config) (l : AnnounceLoop) : Prop where
  informed : Informed config
    (sourceKnowledge config.systemIdentity.clockIdentity) l
  upToDate : forall i, UpToDate (l.perPortGlobal i)
    l.perPTPInstanceGlobal.masterStepsRemoved

/-- A call for one port keeps the own information of the others. -/
theorem upToDate_store
    (h : forall i, UpToDate (l.perPortGlobal i)
      l.perPTPInstanceGlobal.masterStepsRemoved) {i : PortIndex}
    {m : PortAnnounceInformationMachine}
    (hview : PortAnnounceInformationMachine.electionView m.vars =
      PortAnnounceInformationMachine.electionView
        (l.loadPortAnnounceInformation i))
    (hm : UpToDate m.vars.perPortGlobal
      m.vars.perPTPInstanceGlobal.masterStepsRemoved) (j : PortIndex) :
    UpToDate ((l.storePortAnnounceInformation i m).perPortGlobal j)
      (l.storePortAnnounceInformation i
        m).perPTPInstanceGlobal.masterStepsRemoved := by
  obtain ⟨_, _, hsteps⟩ := electionView_load hview
  change UpToDate (Function.update l.perPortGlobal i m.vars.perPortGlobal j)
    m.vars.perPTPInstanceGlobal.masterStepsRemoved
  by_cases hji : j = i
  · rw [hji, Function.update_self]
    exact hm
  · rw [Function.update_of_ne hji, hsteps]
    exact h j

theorem Maintained.runInformation (h : Maintained config l)
    (hmode : ¬ l.External) {i : PortIndex} {ts : UScaledNs}
    (hruns : (l.runInformation i ts).Runs) :
    Maintained config (l.runInformation i ts) := by
  refine ⟨h.informed.runInformation hmode hruns, ?_⟩
  unfold AnnounceLoop.runInformation
  rw [if_neg hmode]
  exact upToDate_store h.upToDate
    (PortAnnounceInformationMachine.electionView_run _ ts)
    (PortAnnounceInformationMachine.upToDate_run
      (m := l.informationMachine i) (h.upToDate i) ts)

theorem Maintained.recvAnnounce (h : Maintained config l)
    (hmode : ¬ l.External) {i : PortIndex} {ts : UScaledNs}
    {message : PTPMsgAnnounce} (hruns : (l.recvAnnounce i ts message).Runs) :
    Maintained config (l.recvAnnounce i ts message) := by
  refine ⟨h.informed.recvAnnounce hmode trivial hruns, ?_⟩
  unfold AnnounceLoop.recvAnnounce
  rw [if_neg hmode]
  exact upToDate_store h.upToDate
    (PortAnnounceInformationMachine.electionView_recvAnnounce _ ts message)
    (PortAnnounceInformationMachine.upToDate_recvAnnounce
      (m := l.informationMachine i) (h.upToDate i) ts message)

/-- A call of the sender changes neither the ports nor the globals. -/
theorem storeTransmit_vars {i : PortIndex} {m : PortAnnounceTransmitMachine}
    (hframe : PortAnnounceTransmitMachine.CallFrame
      (l.loadPortAnnounceTransmit i) m.vars) :
    (l.storePortAnnounceTransmit i m).perPTPInstanceGlobal =
        l.perPTPInstanceGlobal ∧
      (l.storePortAnnounceTransmit i m).perPortGlobal = l.perPortGlobal := by
  refine ⟨hframe.global, ?_⟩
  have hport : m.vars.perPortGlobal = l.perPortGlobal i := hframe.port
  change Function.update l.perPortGlobal i m.vars.perPortGlobal = _
  rw [hport, Function.update_eq_self]

theorem runTransmit_vars (l : AnnounceLoop) (i : PortIndex) (ts : UScaledNs) :
    (l.runTransmit i ts).perPTPInstanceGlobal = l.perPTPInstanceGlobal ∧
      (l.runTransmit i ts).perPortGlobal = l.perPortGlobal :=
  storeTransmit_vars (callFrame_runTransmit l i ts)

theorem Maintained.runTransmit (h : Maintained config l) (i : PortIndex)
    (ts : UScaledNs) : Maintained config (l.runTransmit i ts) := by
  obtain ⟨hglobal, hports⟩ := runTransmit_vars l i ts
  refine ⟨h.informed.runTransmit i ts, ?_⟩
  rw [hglobal, hports]
  exact h.upToDate

theorem Maintained.runSelection (h : Maintained config l)
    (hmode : ¬ l.External) (hruns : l.Runs) :
    Maintained config l.runSelection := by
  have hinformed := h.informed.runSelection
    (electable_sourceKnowledge config.systemIdentity) hmode hruns
  have hconfigured := h.informed.elected.configured
  refine ⟨hinformed, ?_⟩
  by_cases hasked : l.Asked
  · rw [runSelection_asked h.informed.elected.selection
      (hconfigured.enabled hruns) hmode hasked]
    exact upToDate_elect hconfigured.symmetric
  · rw [runSelection_idle h.informed.elected.selection
      (hconfigured.enabled hruns) hmode hasked]
    exact h.upToDate

theorem keeping_maintained
    (hmode : config.externalPortConfigurationEnabled = false) :
    Keeping (fun _ => True) (Maintained config) where
  runInformation _ _ _ h _ hruns :=
    h.runInformation (h.informed.not_external hmode) hruns
  recvAnnounce _ _ _ _ _ h _ hruns :=
    h.recvAnnounce (h.informed.not_external hmode) hruns
  runTransmit _ i ts h _ := h.runTransmit i ts
  runSelection _ h hruns :=
    h.runSelection (h.informed.not_external hmode) hruns
  syncReceipt _ time h :=
    ⟨h.informed.setSyncReceiptTimeoutTime time, h.upToDate⟩

theorem perPortGlobal_initPort (hmode : ¬ l.External) {i : PortIndex}
    (hruns : (l.initPort i).Runs) :
    (l.initPort i).perPortGlobal =
      Function.update l.perPortGlobal i
        (PortAnnounceInformationMachine.initPortAnnounceInformationSm
          (l.loadPortAnnounceInformation i)).vars.perPortGlobal ∧
      (PortAnnounceInformationMachine.initPortAnnounceInformationSm
        (l.loadPortAnnounceInformation i)).vars.process.stop = none := by
  unfold AnnounceLoop.initPort at hruns ⊢
  obtain ⟨hinformation, _⟩ := runs_of_thenDo hruns
  obtain ⟨hl, hinit⟩ := runs_of_thenDo hinformation
  rw [thenDo_runs hinformation, thenDo_runs hl]
  have hports := (storeTransmit_vars
    (PortAnnounceTransmitMachine.callFrame_init
      ((l.initInformation i).loadPortAnnounceTransmit i))).right
  unfold AnnounceLoop.initTransmit
  rw [hports]
  unfold AnnounceLoop.initInformation at hinit ⊢
  rw [if_neg hmode] at hinit ⊢
  exact ⟨rfl, hinit⟩

theorem infoIs_start (hmode : config.externalPortConfigurationEnabled = false)
    (hruns : (start config memory).Runs) (i : PortIndex) :
    ((start config memory).perPortGlobal i).infoIs ≠ .mine := by
  refine start_establishes
    (V := fun i l => (l.perPortGlobal i).infoIs ≠ .mine)
    (firstElection_sourceKnowledge config memory) hmode ?_ ?_ hruns i
  · intro l i h hruns
    obtain ⟨hports, hinit⟩ :=
      perPortGlobal_initPort (h.not_external hmode) hruns
    rw [hports, Function.update_self]
    exact PortAnnounceInformationMachine.infoIs_init hinit
  · intro l i j h hij hi hruns
    obtain ⟨hports, _⟩ := perPortGlobal_initPort (h.not_external hmode) hruns
    rw [hports, Function.update_of_ne hij]
    exact hi

/--
In every run the information that a port holds as the instance's own is what
the port is to announce, unless an update is pending.
-/
theorem own_information_upToDate (config : Config) (memory : LoopMemory)
    (es : List Event) (hmode : config.externalPortConfigurationEnabled = false)
    (hruns : (after config memory es).Runs) (i : PortIndex) :
    UpToDate ((after config memory es).perPortGlobal i)
      (after config memory es).perPTPInstanceGlobal.masterStepsRemoved := by
  have hmaintained : Maintained config (after config memory es) := by
    refine (keeping_maintained hmode).after ?_
      (fun e _ => by cases e <;> exact trivial) hruns
    intro hstart
    constructor
    · exact informed_start (firstElection_sourceKnowledge config memory) hmode
        hstart
    · exact fun i hmine => absurd hmine (infoIs_start hmode hstart i)
  exact hmaintained.upToDate i

/--
Port 2 holds its own information when port 1 receives a better one, and is then
checked for a timeout.
-/
def updatedRun : List Event :=
  firstAnnounce ++ [.timeout 1 oneSecond]

theorem own_information_upToDate_updated :
    ((after bmcaConfig default updatedRun).perPortGlobal 1).infoIs = .mine ∧
      ((after bmcaConfig default updatedRun).perPortGlobal 1).updtInfo = false ∧
      UpToDate ((after bmcaConfig default updatedRun).perPortGlobal 1)
        (after bmcaConfig default
          updatedRun).perPTPInstanceGlobal.masterStepsRemoved := by
  refine ⟨by decide +kernel, by decide +kernel, ?_⟩
  refine own_information_upToDate bmcaConfig default updatedRun rfl ?_ 1
  change (after bmcaConfig default updatedRun).process.stop = none
  decide +kernel

end AnnounceLoop

end TimeSync
end Ziggo
