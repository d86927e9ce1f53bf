import Ziggo.TimeSync.AnnounceLoop.Information

/-!
# Information in the runs of the main loop

In BMCA mode the machines of the ports and the machine for selection work on
the same variables.  What is known of the vectors of all ports holds in every
run, once the messages and the elections of the run agree with it.
-/

namespace Ziggo
namespace TimeSync

open Foundation TsnDrivers

/-- The vector one hop further away from the grandmaster. -/
def oneStepFurther (p : PriorityVector) : PriorityVector :=
  { p with stepsRemoved := p.stepsRemoved + 1 }

/-- The vector as a port of the given clock announces it. -/
def announcedBy (thisClock : ClockIdentity) (portNumber : UInt16)
    (p : PriorityVector) : PriorityVector :=
  { p with
    sourcePortClockIdentity := thisClock
    sourcePortNumber := portNumber
    portNumber := portNumber }

/-- The vector of an instance that is configured with the given identity. -/
def systemPriorityOf (systemIdentity : SystemIdentity) : PriorityVector where
  rootSystemIdentity := systemIdentity
  stepsRemoved := 0
  sourcePortClockIdentity := systemIdentity.clockIdentity
  sourcePortNumber := 0
  portNumber := 0

/-!
## Elections among known vectors
-/

/-- Whatever an election makes the instance announce is known of its own vectors. -/
structure Knowledge.Electable (K : Knowledge) (systemIdentity : SystemIdentity) :
    Prop where
  source : forall p, K.own p ->
    p.sourcePortClockIdentity = systemIdentity.clockIdentity
  system : forall n, K.own (announcedBy systemIdentity.clockIdentity n
    (systemPriorityOf systemIdentity))
  received : forall p n, K.foreign p ->
    p.sourcePortClockIdentity ≠ systemIdentity.clockIdentity ->
    Superior (oneStepFurther p) (systemPriorityOf systemIdentity) ->
    K.own (announcedBy systemIdentity.clockIdentity n (oneStepFurther p))

/-- A port either has no information or knows the vector that it holds. -/
def Knowledge.Sound (K : Knowledge) (port : PerPortGlobal) : Prop :=
  port.infoIs = .disabled ∨ port.infoIs = .aged ∨ K.Knows port

theorem Knowledge.Informed.sound {K : Knowledge}
    {m : PortAnnounceInformationMachine} (h : K.Informed m) :
    K.Sound m.vars.perPortGlobal := by
  obtain ⟨_, hstarted, _, hafter⟩ := h
  unfold Knowledge.Sound
  revert hafter hstarted
  cases m.state with
  | init => exact fun hstarted => absurd rfl hstarted
  | disabled => exact fun _ hafter => Or.inl hafter
  | aged => exact fun _ hafter => Or.inr (Or.inl hafter)
  | receive => exact fun _ hafter => Or.inr (Or.inr hafter.left)
  | update => exact fun _ hafter => Or.inr (Or.inr hafter)
  | current => exact fun _ hafter => Or.inr (Or.inr hafter)
  | inferiorMasterOrOtherPort => exact fun _ hafter => Or.inr (Or.inr hafter)
  | repeatedMasterPort => exact fun _ hafter => Or.inr (Or.inr hafter)
  | superiorMasterPort => exact fun _ hafter => Or.inr (Or.inr hafter)

/-- A port that can win an election holds received information. -/
theorem Knowledge.Sound.offers {K : Knowledge} {port : PerPortGlobal}
    (h : K.Sound port) {thisClock : ClockIdentity}
    (hsource : forall p, K.own p -> p.sourcePortClockIdentity = thisClock)
    (hoffers : offersGrandmaster thisClock port = true) {p : PriorityVector}
    (hsuperior : Superior (gmPathPriority port) p) :
    port.infoIs = .received ∧ hasPortPriority port.portPriority = true ∧
      port.portPriority.sourcePortClockIdentity ≠ thisClock ∧
      K.foreign port.portPriority ∧
      gmPathPriority port = oneStepFurther port.portPriority := by
  obtain ⟨hpriority, haged, hpath⟩ := gmPathPriority_of_superior hsuperior
  unfold offersGrandmaster at hoffers
  simp only [decide_eq_true_eq] at hoffers
  obtain ⟨hdisabled, hother⟩ := hoffers
  rw [hpath] at hother
  rcases h with hinfo | hinfo | ⟨_, hown⟩ | ⟨hinfo, hforeign⟩
  · exact absurd hinfo hdisabled
  · exact absurd hinfo haged
  · exact absurd (hsource _ hown) hother
  · exact ⟨hinfo, hpriority, hother, hforeign, hpath⟩

theorem Knowledge.Informed.congr {K : Knowledge}
    {m m' : PortAnnounceInformationMachine} (h : K.Informed m)
    (hstate : m'.state = m.state) (hlast : m'.lastState = m.lastState)
    (hpointer : m'.vars.rcvdAnnouncePtr = m.vars.rcvdAnnouncePtr)
    (hclass : m'.vars.rcvdInfo = m.vars.rcvdInfo)
    (hmessage : m'.vars.messagePriorityPAI = m.vars.messagePriorityPAI)
    (hinfo : m'.vars.perPortGlobal.infoIs = m.vars.perPortGlobal.infoIs)
    (hport : m'.vars.perPortGlobal.portPriority =
      m.vars.perPortGlobal.portPriority)
    (hmaster : K.own m'.vars.perPortGlobal.masterPriority) :
    K.Informed m' := by
  obtain ⟨hq, hstarted, ⟨_, hpending⟩, hafter⟩ := h
  constructor
  case quiescent =>
    unfold Machine.Quiescent at hq ⊢
    rw [hlast, hstate, hq]
  case started =>
    rw [hstate]
    exact hstarted
  case after =>
    refine ⟨⟨hmaster, ?_⟩, ?_⟩
    · rw [hpointer]
      exact hpending
    · rw [hstate]
      unfold Knows at hafter ⊢
      rw [hclass, hmessage, hinfo, hport]
      exact hafter

section Election

variable {K : Knowledge} {systemIdentity : SystemIdentity}
  {g : PerPTPInstanceGlobal} {ports : PerPortGlobalArray}

theorem Knowledge.Electable.elected (hK : K.Electable systemIdentity)
    (hclock : g.thisClock = systemIdentity.clockIdentity)
    (hsystem : g.systemPriority = systemPriorityOf systemIdentity)
    (hports : forall i, K.Sound (ports i)) :
    electedPriority g ports = systemPriorityOf systemIdentity ∨
      exists i, (ports i).infoIs = .received ∧
        (ports i).portPriority.sourcePortClockIdentity ≠
          systemIdentity.clockIdentity ∧
        K.foreign (ports i).portPriority ∧
        Superior (oneStepFurther (ports i).portPriority)
          (systemPriorityOf systemIdentity) ∧
        electedPriority g ports = oneStepFurther (ports i).portPriority := by
  have hchoice := elect_choice Superior
    (fun port => offersGrandmaster g.thisClock port = true) gmPathPriority
    (List.ofFn ports) g.systemPriority
  rw [hsystem] at hchoice
  rcases hchoice with hkeep | ⟨port, hport, hoffers, hsuperior, hvalue⟩
  · refine Or.inl ?_
    unfold electedPriority
    rw [hsystem]
    exact hkeep
  · obtain ⟨i, rfl⟩ := List.mem_ofFn.mp hport
    rw [hclock] at hoffers
    obtain ⟨hinfo, _, hother, hforeign, hpath⟩ :=
      (hports i).offers hK.source hoffers hsuperior
    refine Or.inr ⟨i, hinfo, hother, hforeign, ?_, ?_⟩
    · rw [← hpath]
      exact hsuperior
    · unfold electedPriority
      rw [hsystem, ← hpath]
      exact hvalue

theorem Knowledge.Electable.own (hK : K.Electable systemIdentity)
    (hclock : g.thisClock = systemIdentity.clockIdentity)
    (hsystem : g.systemPriority = systemPriorityOf systemIdentity)
    (hports : forall i, K.Sound (ports i)) (n : UInt16) :
    K.own (announcedBy systemIdentity.clockIdentity n
      (electedPriority g ports)) := by
  rcases hK.elected hclock hsystem hports with
    helected | ⟨i, _, hother, hforeign, hsuperior, helected⟩
  · rw [helected]
    exact hK.system n
  · rw [helected]
    exact hK.received _ n hforeign hother hsuperior

end Election

/-!
## What the machines of the ports leave to the elections
-/

namespace PortAnnounceInformationMachine

open PortAnnounceInformationSM

def electionView (sm : PortAnnounceInformationSM) :
    PriorityVector × PriorityVector × UInt16 :=
  (sm.perPortGlobal.masterPriority, sm.perPTPInstanceGlobal.gmPriority,
    sm.perPTPInstanceGlobal.masterStepsRemoved)

theorem electionView_recordOtherAnnounceInfo
    {sm sm' : PortAnnounceInformationSM} {announce : PTPMsgAnnounce}
    (h : sm.recordOtherAnnounceInfo announce = .ok sm') :
    electionView sm' = electionView sm := by
  obtain ⟨_, _, hreturn⟩ := bind_eq_ok.mp h
  cases hreturn
  rfl

theorem electionView_action {ts : UScaledNs}
    {state : PortAnnounceInformationSMState}
    {sm sm' : PortAnnounceInformationSM} (h : action ts state sm = .ok sm') :
    electionView sm' = electionView sm := by
  cases state with
  | receive =>
      obtain ⟨_, _, hreturn⟩ := bind_eq_ok.mp h
      cases hreturn
      rfl
  | repeatedMasterPort =>
      obtain ⟨_, _, hrest⟩ := bind_eq_ok.mp h
      obtain ⟨_, hrecord, hreturn⟩ := bind_eq_ok.mp hrest
      cases hreturn
      exact (electionView_recordOtherAnnounceInfo hrecord :)
  | superiorMasterPort =>
      obtain ⟨_, _, hrest⟩ := bind_eq_ok.mp h
      obtain ⟨_, hrecord, hrest⟩ := bind_eq_ok.mp hrest
      obtain ⟨_, _, hrest⟩ := bind_eq_ok.mp hrest
      obtain ⟨_, _, hreturn⟩ := bind_eq_ok.mp hrest
      cases hreturn
      exact (electionView_recordOtherAnnounceInfo hrecord :)
  | _ =>
      cases h
      rfl

theorem electionView_run (m : PortAnnounceInformationMachine)
    (ts : UScaledNs) : electionView (m.run ts).vars = electionView m.vars := by
  refine Behaviour.run_preserves (behaviour ts)
    (I := fun sm => electionView sm = electionView m.vars)
    ?_ ?_ ?_ ?_ passes rfl
  · intro state v v' h haction
    exact (electionView_action haction).trans h
  · exact fun _ _ _ h _ => h
  · exact fun _ _ _ h _ => h
  · exact fun _ h => h

theorem electionView_recvAnnounce (m : PortAnnounceInformationMachine)
    (ts : UScaledNs) (announce : PTPMsgAnnounce) :
    electionView (m.recvAnnounce ts announce).vars = electionView m.vars := by
  unfold recvAnnounce
  cases hstore : m.vars.storeAnnounce announce with
  | error f => rfl
  | ok vars =>
      obtain ⟨_, _, hreturn⟩ := bind_eq_ok.mp hstore
      cases hreturn
      exact electionView_run _ ts

theorem electionView_init (memory : PortAnnounceInformationSM) :
    electionView (initPortAnnounceInformationSm memory).vars =
      electionView memory :=
  electionView_run _ _

end PortAnnounceInformationMachine

namespace AnnounceLoop

variable {config : Config} {memory : LoopMemory} {l : AnnounceLoop}
  {K : Knowledge}

/-- The machine of a port, with the variables that a call hands to it. -/
def informationMachine (l : AnnounceLoop) (i : PortIndex) :
    PortAnnounceInformationMachine :=
  { l.portAnnounceInformationSms i with vars := l.loadPortAnnounceInformation i }

def selectionMachine (l : AnnounceLoop) : PortStateSelectionMachine :=
  { l.portStateSelectionSm with vars := l.loadPortStateSelection }

/-- An election has assigned the vectors that the ports are to announce. -/
structure Elected (config : Config) (K : Knowledge) (l : AnnounceLoop) :
    Prop where
  configured : Configured config l
  selection : l.selectionMachine.Rests
  steps : l.perPTPInstanceGlobal.masterStepsRemoved =
    l.perPTPInstanceGlobal.gmPriority.stepsRemoved
  master : forall i, (l.perPortGlobal i).masterPriority =
    announcedBy config.systemIdentity.clockIdentity (portNumberOf i.succ)
      l.perPTPInstanceGlobal.gmPriority
  own : forall i, K.own (l.perPortGlobal i).masterPriority

/-- What is known of the vectors holds of all ports. -/
structure Informed (config : Config) (K : Knowledge) (l : AnnounceLoop) :
    Prop where
  elected : Elected config K l
  information : forall i, K.Informed (l.informationMachine i)

theorem Configured.systemPriority (h : Configured config l) :
    l.perPTPInstanceGlobal.systemPriority =
      systemPriorityOf config.systemIdentity :=
  congrArg InstanceSettings.systemPriority h.global

theorem Configured.enabled (h : Configured config l) (hruns : l.Runs) :
    PortStateSelectionMachine.Enabled l.loadPortStateSelection :=
  ⟨hruns, congrArg InstanceSettings.BEGIN h.global,
    congrArg InstanceSettings.instanceEnable h.global⟩

theorem Elected.update (h : Elected config K l) {l' : AnnounceLoop}
    (hconfigured : Configured config l')
    (hselection : l'.portStateSelectionSm = l.portStateSelectionSm)
    (hgm : l'.perPTPInstanceGlobal.gmPriority =
      l.perPTPInstanceGlobal.gmPriority)
    (hsteps : l'.perPTPInstanceGlobal.masterStepsRemoved =
      l.perPTPInstanceGlobal.masterStepsRemoved)
    (hports : forall i, (l'.perPortGlobal i).masterPriority =
      (l.perPortGlobal i).masterPriority) : Elected config K l' where
  configured := hconfigured
  selection := by
    obtain ⟨hstate, hq, hidentity, hasymmetry⟩ := h.selection
    unfold selectionMachine loadPortStateSelection at *
    rw [hselection]
    exact ⟨hstate, hq, hidentity, hasymmetry⟩
  steps := by rw [hsteps, hgm, h.steps]
  master i := by rw [hports, hgm, h.master]
  own i := by
    rw [hports]
    exact h.own i

theorem electionView_load {i : PortIndex} {m : PortAnnounceInformationMachine}
    (h : PortAnnounceInformationMachine.electionView m.vars =
      PortAnnounceInformationMachine.electionView
        (l.loadPortAnnounceInformation i)) :
    m.vars.perPortGlobal.masterPriority =
        (l.perPortGlobal i).masterPriority ∧
      m.vars.perPTPInstanceGlobal.gmPriority =
        l.perPTPInstanceGlobal.gmPriority ∧
      m.vars.perPTPInstanceGlobal.masterStepsRemoved =
        l.perPTPInstanceGlobal.masterStepsRemoved := by
  obtain ⟨hmaster, hrest⟩ := Prod.mk.inj h
  obtain ⟨hgm, hsteps⟩ := Prod.mk.inj hrest
  exact ⟨hmaster, hgm, hsteps⟩

theorem Elected.storeInformation (h : Elected config K l) {i : PortIndex}
    {Fits : Prop} {m : PortAnnounceInformationMachine}
    (hframe : PortAnnounceInformationMachine.CallFrame Fits
      (l.loadPortAnnounceInformation i) m.vars)
    (hview : PortAnnounceInformationMachine.electionView m.vars =
      PortAnnounceInformationMachine.electionView
        (l.loadPortAnnounceInformation i)) :
    Elected config K (l.storePortAnnounceInformation i m) := by
  obtain ⟨hmaster, hgm, hsteps⟩ := electionView_load hview
  refine h.update (h.configured.information hframe) rfl hgm hsteps fun j => ?_
  change (Function.update l.perPortGlobal i m.vars.perPortGlobal
    j).masterPriority = _
  by_cases hji : j = i
  · rw [hji, Function.update_self]
    exact hmaster
  · rw [Function.update_of_ne hji]

theorem informationMachine_store_self (l : AnnounceLoop) (i : PortIndex)
    (m : PortAnnounceInformationMachine) :
    (l.storePortAnnounceInformation i m).informationMachine i = m := by
  unfold informationMachine loadPortAnnounceInformation
    storePortAnnounceInformation
  dsimp only
  rw [Function.update_self, Function.update_self]

theorem informationMachine_store_of_ne (l : AnnounceLoop) {i j : PortIndex}
    (h : j ≠ i) (m : PortAnnounceInformationMachine) :
    (l.storePortAnnounceInformation i m).informationMachine j =
      { l.informationMachine j with
        vars :=
          { (l.informationMachine j).vars with
            perPTPInstanceGlobal := m.vars.perPTPInstanceGlobal
            process := m.vars.process } } := by
  unfold informationMachine loadPortAnnounceInformation
    storePortAnnounceInformation
  dsimp only
  rw [Function.update_of_ne h, Function.update_of_ne h]

/-- The knowledge about another port does not depend on a call. -/
theorem Informed.storeInformation_of_ne (h : Elected config K l)
    {i j : PortIndex} (hji : j ≠ i) (hj : K.Informed (l.informationMachine j))
    (m : PortAnnounceInformationMachine) :
    K.Informed ((l.storePortAnnounceInformation i m).informationMachine j) := by
  rw [informationMachine_store_of_ne l hji]
  exact hj.congr rfl rfl rfl rfl rfl rfl rfl (h.own j)

theorem Informed.storeInformation (h : Informed config K l) {i : PortIndex}
    {Fits : Prop} {m : PortAnnounceInformationMachine}
    (hframe : PortAnnounceInformationMachine.CallFrame Fits
      (l.loadPortAnnounceInformation i) m.vars)
    (hview : PortAnnounceInformationMachine.electionView m.vars =
      PortAnnounceInformationMachine.electionView
        (l.loadPortAnnounceInformation i)) (hm : K.Informed m) :
    Informed config K (l.storePortAnnounceInformation i m) := by
  refine ⟨h.elected.storeInformation hframe hview, fun j => ?_⟩
  by_cases hji : j = i
  · rw [hji, informationMachine_store_self]
    exact hm
  · exact Informed.storeInformation_of_ne h.elected hji (h.information j) m

theorem Elected.storeTransmit (h : Elected config K l) {i : PortIndex}
    {m : PortAnnounceTransmitMachine}
    (hframe : PortAnnounceTransmitMachine.CallFrame
      (l.loadPortAnnounceTransmit i) m.vars) :
    Elected config K (l.storePortAnnounceTransmit i m) := by
  refine h.update (h.configured.transmit hframe) rfl
    (congrArg PerPTPInstanceGlobal.gmPriority hframe.global)
    (congrArg PerPTPInstanceGlobal.masterStepsRemoved hframe.global)
    fun j => ?_
  change (Function.update l.perPortGlobal i m.vars.perPortGlobal
    j).masterPriority = _
  rw [show m.vars.perPortGlobal = l.perPortGlobal i from hframe.port,
    Function.update_eq_self]

theorem Informed.storeTransmit_port (h : Elected config K l) {i j : PortIndex}
    {m : PortAnnounceTransmitMachine}
    (hframe : PortAnnounceTransmitMachine.CallFrame
      (l.loadPortAnnounceTransmit i) m.vars)
    (hj : K.Informed (l.informationMachine j)) :
    K.Informed ((l.storePortAnnounceTransmit i m).informationMachine j) := by
  have hport : ((l.storePortAnnounceTransmit i m).perPortGlobal j) =
      l.perPortGlobal j := by
    change Function.update l.perPortGlobal i m.vars.perPortGlobal j = _
    rw [show m.vars.perPortGlobal = l.perPortGlobal i from hframe.port,
      Function.update_eq_self]
  refine hj.congr rfl rfl rfl rfl rfl (congrArg PerPortGlobal.infoIs hport)
    (congrArg PerPortGlobal.portPriority hport) ?_
  exact (congrArg (fun port => K.own port.masterPriority) hport).mpr (h.own j)

theorem Informed.storeTransmit (h : Informed config K l) {i : PortIndex}
    {m : PortAnnounceTransmitMachine}
    (hframe : PortAnnounceTransmitMachine.CallFrame
      (l.loadPortAnnounceTransmit i) m.vars) :
    Informed config K (l.storePortAnnounceTransmit i m) :=
  ⟨h.elected.storeTransmit hframe,
    fun j => Informed.storeTransmit_port h.elected hframe (h.information j)⟩

theorem Informed.setSyncReceiptTimeoutTime (h : Informed config K l)
    (time : UScaledNs) :
    Informed config K (l.setSyncReceiptTimeoutTime time) := by
  constructor
  · exact h.elected.update ⟨h.elected.configured.global,
      h.elected.configured.port⟩ rfl rfl rfl fun _ => rfl
  · exact fun i => (h.information i).congr rfl rfl rfl rfl rfl rfl rfl
      (h.elected.own i)

/-!
## Elections in the loop
-/

/-- The variables after `updtStatesTree`, once the requests are cleared. -/
def tree (l : AnnounceLoop) : PerPTPInstanceGlobal × PerPortGlobalArray :=
  updtStatesTree
    (PortStateSelectionSM.clearReselectTree l.perPTPInstanceGlobal)
    l.perPortGlobal

def elect (l : AnnounceLoop) : AnnounceLoop :=
  l.storePortStateSelection
    { state := .stateSelection
      lastState := some .stateSelection
      vars := l.loadPortStateSelection.stateSelectionAction }

theorem elect_perPTPInstanceGlobal (l : AnnounceLoop) :
    l.elect.perPTPInstanceGlobal = setSelectedTree l.tree.1 := by
  have hvars := stateSelectionAction_vars l.loadPortStateSelection
  unfold elect storePortStateSelection
  dsimp only
  unfold tree
  exact hvars.left

theorem elect_perPortGlobal (l : AnnounceLoop) :
    l.elect.perPortGlobal = l.tree.2 := by
  have hvars := stateSelectionAction_vars l.loadPortStateSelection
  unfold elect storePortStateSelection
  dsimp only
  unfold tree
  exact hvars.right

theorem elect_process (l : AnnounceLoop) : l.elect.process = l.process := by
  unfold elect storePortStateSelection
    PortStateSelectionSM.stateSelectionAction
  dsimp only
  rfl

theorem selectionMachine_store (l : AnnounceLoop)
    (m : PortStateSelectionMachine) :
    (l.storePortStateSelection m).selectionMachine = m :=
  rfl

def Asked (l : AnnounceLoop) : Prop :=
  exists p, l.perPTPInstanceGlobal.reselect p = true

theorem runSelection_asked (h : l.selectionMachine.Rests)
    (henabled : PortStateSelectionMachine.Enabled l.loadPortStateSelection)
    (hmode : ¬ l.External) (hasked : l.Asked) : l.runSelection = l.elect := by
  have hrun := PortStateSelectionMachine.run_selects h henabled hasked
  unfold runSelection elect
  rw [if_neg hmode]
  exact congrArg l.storePortStateSelection hrun

/-- A selection that no port asks for changes no variable of the loop. -/
theorem runSelection_idle (h : l.selectionMachine.Rests)
    (henabled : PortStateSelectionMachine.Enabled l.loadPortStateSelection)
    (hmode : ¬ l.External) (hasked : ¬ l.Asked) :
    l.runSelection = l.storePortStateSelection l.selectionMachine := by
  have hrun := PortStateSelectionMachine.run_rests h henabled hasked
  unfold runSelection
  rw [if_neg hmode]
  exact congrArg l.storePortStateSelection hrun

/-- The vector that an election among the ports elects. -/
def winner (l : AnnounceLoop) : PriorityVector :=
  electedPriority (PortStateSelectionSM.clearReselectTree
    l.perPTPInstanceGlobal) l.perPortGlobal

theorem gmPriority_tree (l : AnnounceLoop) :
    l.tree.1.gmPriority = l.winner := by
  unfold tree
  exact gmPriority_updtStatesTree _ _

theorem masterStepsRemoved_tree (l : AnnounceLoop) :
    l.tree.1.masterStepsRemoved = l.tree.1.gmPriority.stepsRemoved := by
  unfold tree
  exact masterStepsRemoved_updtStatesTree _ _

theorem masterPriority_tree (h : Configured config l) (i : PortIndex) :
    (l.tree.2 i).masterPriority =
      announcedBy config.systemIdentity.clockIdentity (portNumberOf i.succ)
        l.tree.1.gmPriority := by
  have hmaster := masterPriority_updtStatesTree
    (PortStateSelectionSM.clearReselectTree l.perPTPInstanceGlobal)
    l.perPortGlobal i
  have hclock : (PortStateSelectionSM.clearReselectTree
      l.perPTPInstanceGlobal).thisClock = config.systemIdentity.clockIdentity :=
    h.thisClock
  unfold tree
  rw [hmaster, h.thisPort i, hclock]
  rfl

/-- An election writes nothing to a port that its information depends on. -/
theorem information_tree (l : AnnounceLoop) (i : PortIndex) :
    (l.tree.2 i).infoIs = (l.perPortGlobal i).infoIs ∧
      (l.tree.2 i).portPriority = (l.perPortGlobal i).portPriority := by
  unfold tree
  rw [ports_updtStatesTree]
  exact ⟨rfl, rfl⟩

theorem configured_elect (h : Configured config l) :
    Configured config l.elect := by
  constructor
  case global =>
    have htree := settings_of_unselected (unselected_updtStatesTree
      (PortStateSelectionSM.clearReselectTree l.perPTPInstanceGlobal)
      l.perPortGlobal)
    rw [elect_perPTPInstanceGlobal, setSelectedTree_settings, tree, htree,
      clearReselectTree_settings]
    exact h.global
  case port =>
    intro i
    rw [elect_perPortGlobal]
    exact (portSettings_updtStatesTree _ _ i).trans (h.port i)

theorem elected_elect (h : Configured config l)
    (hown : forall n,
      K.own (announcedBy config.systemIdentity.clockIdentity n l.winner)) :
    Elected config K l.elect where
  configured := configured_elect h
  selection := by
    unfold AnnounceLoop.elect
    rw [selectionMachine_store]
    exact PortStateSelectionMachine.rests_selected _
  steps := by
    rw [elect_perPTPInstanceGlobal, setSelectedTree_masterStepsRemoved,
      setSelectedTree_gmPriority]
    exact masterStepsRemoved_tree l
  master i := by
    rw [elect_perPTPInstanceGlobal, elect_perPortGlobal,
      setSelectedTree_gmPriority]
    exact masterPriority_tree h i
  own i := by
    rw [elect_perPortGlobal, masterPriority_tree h i, gmPriority_tree]
    exact hown (portNumberOf i.succ)

theorem Informed.storeSelection_port {j : PortIndex}
    {m : PortStateSelectionMachine} (hj : K.Informed (l.informationMachine j))
    (hinfo : (m.vars.perPortGlobalArray j).infoIs = (l.perPortGlobal j).infoIs)
    (hport : (m.vars.perPortGlobalArray j).portPriority =
      (l.perPortGlobal j).portPriority)
    (hown : K.own (m.vars.perPortGlobalArray j).masterPriority) :
    K.Informed ((l.storePortStateSelection m).informationMachine j) :=
  hj.congr rfl rfl rfl rfl rfl hinfo hport hown

theorem Informed.elect (hK : K.Electable config.systemIdentity)
    (h : Informed config K l) : Informed config K l.elect := by
  have hconfigured := h.elected.configured
  have helected := elected_elect hconfigured fun n =>
    hK.own hconfigured.thisClock hconfigured.systemPriority
      (fun i => (h.information i).sound) n
  refine ⟨helected, fun i => ?_⟩
  have hports := elect_perPortGlobal l
  obtain ⟨hinfo, hport⟩ := information_tree l i
  rw [← hports] at hinfo hport
  exact Informed.storeSelection_port (h.information i) hinfo hport
    (helected.own i)

theorem Informed.runSelection (hK : K.Electable config.systemIdentity)
    (h : Informed config K l) (hmode : ¬ l.External) (hruns : l.Runs) :
    Informed config K l.runSelection := by
  have henabled := h.elected.configured.enabled hruns
  by_cases hasked : l.Asked
  · rw [runSelection_asked h.elected.selection henabled hmode hasked]
    exact h.elect hK
  · rw [runSelection_idle h.elected.selection henabled hmode hasked]
    constructor
    · obtain ⟨hconfigured, hselection, hsteps, hmaster, hown⟩ := h.elected
      exact ⟨⟨hconfigured.global, hconfigured.port⟩, hselection, hsteps,
        hmaster, hown⟩
    · exact fun i => (h.information i).congr rfl rfl rfl rfl rfl rfl rfl
        (h.elected.own i)

/-!
## Runs
-/

/-- The message of the event, if it is one, is of the given kind. -/
def Event.Hears (Heard : PTPMsgAnnounce -> Prop) : Event -> Prop
  | .announce _ _ message => Heard message
  | _ => True

theorem runs_of_thenDo {statement : AnnounceLoop -> AnnounceLoop}
    (h : (l.thenDo statement).Runs) : l.Runs ∧ (statement l).Runs := by
  by_cases hl : l.Runs
  · rw [thenDo_runs hl] at h
    exact ⟨hl, h⟩
  · rw [thenDo_ended hl] at h
    exact absurd h hl

theorem thenDo_keeps {P : AnnounceLoop -> Prop}
    {statement : AnnounceLoop -> AnnounceLoop}
    (hl : l.Runs -> P l)
    (hstatement : P l -> l.Runs -> (statement l).Runs -> P (statement l))
    (h : (l.thenDo statement).Runs) : P (l.thenDo statement) := by
  obtain ⟨hruns, hruns'⟩ := runs_of_thenDo h
  rw [thenDo_runs hruns]
  exact hstatement (hl hruns) hruns hruns'

/--
What the statements of the loop keep in a process that runs, when the messages
are of the given kind.
-/
structure Keeping (Heard : PTPMsgAnnounce -> Prop)
    (P : AnnounceLoop -> Prop) : Prop where
  runInformation : forall l i ts, P l -> l.Runs ->
    (l.runInformation i ts).Runs -> P (l.runInformation i ts)
  recvAnnounce : forall l i ts message, Heard message -> P l -> l.Runs ->
    (l.recvAnnounce i ts message).Runs -> P (l.recvAnnounce i ts message)
  runTransmit : forall l i ts, P l -> l.Runs -> P (l.runTransmit i ts)
  runSelection : forall l, P l -> l.Runs -> P l.runSelection
  syncReceipt : forall l time, P l -> P (l.setSyncReceiptTimeoutTime time)

section Keeping

variable {Heard : PTPMsgAnnounce -> Prop} {P : AnnounceLoop -> Prop}

theorem Keeping.step (hkeeping : Keeping Heard P) (h : P l) {e : Event}
    (hheard : e.Hears Heard) (hruns : (step l e).Runs) : P (step l e) := by
  cases e with
  | timeout i ts =>
      refine thenDo_keeps ?_
        (fun h hl _ => hkeeping.runTransmit _ i ts h hl) hruns
      exact thenDo_keeps (fun _ => h) (hkeeping.runInformation l i ts)
  | announce i ts message =>
      refine thenDo_keeps ?_ (fun h hl _ => hkeeping.runSelection _ h hl) hruns
      exact thenDo_keeps (fun _ => h) (hkeeping.recvAnnounce l i ts message hheard)
  | select =>
      exact thenDo_keeps (fun _ => h)
        (fun h hl _ => hkeeping.runSelection l h hl) hruns
  | syncReceipt time =>
      exact thenDo_keeps (fun _ => h)
        (fun h _ _ => hkeeping.syncReceipt l time h) hruns

theorem runs_of_step {e : Event} (h : (AnnounceLoop.step l e).Runs) :
    l.Runs := by
  cases e with
  | timeout i ts => exact (runs_of_thenDo (runs_of_thenDo h).left).left
  | announce i ts message => exact (runs_of_thenDo (runs_of_thenDo h).left).left
  | select => exact (runs_of_thenDo h).left
  | syncReceipt time => exact (runs_of_thenDo h).left

theorem Keeping.after (hkeeping : Keeping Heard P)
    (hstart : (start config memory).Runs -> P (start config memory))
    {es : List Event} (hheard : forall e, e ∈ es -> e.Hears Heard)
    (hruns : (after config memory es).Runs) : P (after config memory es) := by
  unfold AnnounceLoop.after at hruns ⊢
  induction es using List.reverseRecOn with
  | nil =>
      rw [runEvents_nil] at hruns ⊢
      exact hstart hruns
  | append_singleton es e ih =>
      rw [runEvents_concat] at hruns ⊢
      refine hkeeping.step (ih ?_ (runs_of_step hruns)) ?_ hruns
      · intro e' he'
        exact hheard e' (List.mem_append_left _ he')
      · exact hheard e (List.mem_append_right _ (List.mem_singleton_self e))

end Keeping

theorem Informed.runInformation (h : Informed config K l)
    (hmode : ¬ l.External) {i : PortIndex} {ts : UScaledNs}
    (hruns : (l.runInformation i ts).Runs) :
    Informed config K (l.runInformation i ts) := by
  unfold AnnounceLoop.runInformation at hruns ⊢
  rw [if_neg hmode] at hruns ⊢
  have hframe := PortAnnounceInformationMachine.callFrame_run
    (m := l.informationMachine i)
    (PortAnnounceInformationMachine.callFrame_refl _) ts
  exact h.storeInformation hframe
    (PortAnnounceInformationMachine.electionView_run _ ts)
    ((h.information i).run hruns)

theorem Informed.recvAnnounce (h : Informed config K l)
    (hmode : ¬ l.External) {i : PortIndex} {ts : UScaledNs}
    {message : PTPMsgAnnounce} (hheard : K.heard message)
    (hruns : (l.recvAnnounce i ts message).Runs) :
    Informed config K (l.recvAnnounce i ts message) := by
  unfold AnnounceLoop.recvAnnounce at hruns ⊢
  rw [if_neg hmode] at hruns ⊢
  have hframe := PortAnnounceInformationMachine.callFrame_recvAnnounce
    (l.informationMachine i) ts message
  exact h.storeInformation hframe
    (PortAnnounceInformationMachine.electionView_recvAnnounce _ ts message)
    ((h.information i).recvAnnounce hheard hruns)

theorem Informed.runTransmit (h : Informed config K l) (i : PortIndex)
    (ts : UScaledNs) : Informed config K (l.runTransmit i ts) := by
  refine h.storeTransmit (PortAnnounceTransmitMachine.callFrame_run ?_ ts)
  exact PortAnnounceTransmitMachine.callFrame_refl _

theorem Elected.not_external (h : Elected config K l)
    (hmode : config.externalPortConfigurationEnabled = false) :
    ¬ l.External := by
  rw [h.configured.external_iff, hmode]
  decide

theorem Informed.not_external (h : Informed config K l)
    (hmode : config.externalPortConfigurationEnabled = false) :
    ¬ l.External :=
  h.elected.not_external hmode

theorem keeping_informed (hK : K.Electable config.systemIdentity)
    (hmode : config.externalPortConfigurationEnabled = false) :
    Keeping K.heard (Informed config K) where
  runInformation _ _ _ h _ hruns :=
    h.runInformation (h.not_external hmode) hruns
  recvAnnounce _ _ _ _ hheard h _ hruns :=
    h.recvAnnounce (h.not_external hmode) hheard hruns
  runTransmit _ i ts h _ := h.runTransmit i ts
  runSelection _ h hruns := h.runSelection hK (h.not_external hmode) hruns
  syncReceipt _ time h := h.setSyncReceiptTimeoutTime time

/-!
## Initialization
-/

/-- The loop between the two actions of the first selection. -/
def bridged (config : Config) (memory : LoopMemory) : AnnounceLoop :=
  (initial config memory).storePortStateSelection
    { state := .initBridge
      lastState := some .initBridge
      vars := (PortStateSelectionMachine.initial
        (initial config memory).loadPortStateSelection).vars.initBridgeAction }

theorem initSelection_eq (hmode : ¬ (initial config memory).External) :
    (initial config memory).initSelection = (bridged config memory).elect := by
  have henabled : PortStateSelectionMachine.Enabled
      (initial config memory).loadPortStateSelection := ⟨rfl, rfl, rfl⟩
  have hrun := PortStateSelectionMachine.run_initial _ henabled
  unfold AnnounceLoop.initSelection PortStateSelectionMachine.initPortStateSelectionSm
  rw [if_neg hmode, hrun]
  rfl

theorem configured_bridged (config : Config) (memory : LoopMemory) :
    Configured config (bridged config memory) :=
  ⟨rfl, fun _ => rfl⟩

/-- What the first election, on the contents of the memory, must establish. -/
def FirstElection (config : Config) (memory : LoopMemory) (K : Knowledge) :
    Prop :=
  forall n, K.own (announcedBy config.systemIdentity.clockIdentity n
    (bridged config memory).winner)

theorem elected_initSelection (hmode : ¬ (initial config memory).External)
    (hfirst : FirstElection config memory K) :
    Elected config K (initial config memory).initSelection := by
  rw [initSelection_eq hmode]
  exact elected_elect (configured_bridged config memory) hfirst

theorem Elected.initInformation (h : Elected config K l)
    (hmode : ¬ l.External) (i : PortIndex) :
    Elected config K (l.initInformation i) := by
  unfold AnnounceLoop.initInformation
  rw [if_neg hmode]
  exact h.storeInformation
    (PortAnnounceInformationMachine.callFrame_init
      (l.loadPortAnnounceInformation i))
    (PortAnnounceInformationMachine.electionView_init _)

theorem Elected.initPort (h : Elected config K l) (hmode : ¬ l.External)
    {i : PortIndex} : Elected config K (l.initPort i) := by
  unfold AnnounceLoop.initPort
  refine thenDo_preserves (thenDo_preserves h fun h _ => ?_) fun h _ => ?_
  · exact h.initInformation hmode i
  · exact h.storeTransmit (PortAnnounceTransmitMachine.callFrame_init _)

theorem informed_initPort (h : Elected config K l) (hmode : ¬ l.External)
    (i : PortIndex) (hruns : (l.initPort i).Runs) :
    K.Informed ((l.initPort i).informationMachine i) := by
  unfold AnnounceLoop.initPort at hruns ⊢
  obtain ⟨hinformation, _⟩ := runs_of_thenDo hruns
  obtain ⟨hl, hinit⟩ := runs_of_thenDo hinformation
  rw [thenDo_runs hinformation, thenDo_runs hl]
  refine Informed.storeTransmit_port (h.initInformation hmode i)
    (PortAnnounceTransmitMachine.callFrame_init _) ?_
  unfold AnnounceLoop.initInformation at hinit ⊢
  rw [if_neg hmode] at hinit ⊢
  rw [informationMachine_store_self]
  exact Knowledge.informed_init (h.own i) hinit

theorem informed_initPort_of_ne (h : Elected config K l)
    (hmode : ¬ l.External) {i j : PortIndex} (hji : j ≠ i)
    (hj : K.Informed (l.informationMachine j)) (hruns : (l.initPort i).Runs) :
    K.Informed ((l.initPort i).informationMachine j) := by
  unfold AnnounceLoop.initPort at hruns ⊢
  obtain ⟨hinformation, _⟩ := runs_of_thenDo hruns
  obtain ⟨hl, _⟩ := runs_of_thenDo hinformation
  rw [thenDo_runs hinformation, thenDo_runs hl]
  refine Informed.storeTransmit_port (h.initInformation hmode i)
    (PortAnnounceTransmitMachine.callFrame_init _) ?_
  unfold AnnounceLoop.initInformation
  rw [if_neg hmode]
  exact Informed.storeInformation_of_ne h hji hj _

theorem elected_start (hfirst : FirstElection config memory K)
    (hmode : config.externalPortConfigurationEnabled = false) :
    Elected config K (start config memory) := by
  unfold start
  refine foldl_preserves ?_ (List.finRange nPorts) ?_
  · exact fun l i h => h.initPort (h.not_external hmode)
  · refine elected_initSelection ?_ hfirst
    unfold AnnounceLoop.External
    exact ne_true_of_eq_false hmode

/--
What the initialization of a port establishes for it, and the initialization of
the others keeps, holds for every port once the machines are initialized.
-/
theorem start_establishes {V : PortIndex -> AnnounceLoop -> Prop}
    (hfirst : FirstElection config memory K)
    (hmode : config.externalPortConfigurationEnabled = false)
    (hport : forall l i, Elected config K l -> (l.initPort i).Runs ->
      V i (l.initPort i))
    (hother : forall l i j, Elected config K l -> i ≠ j -> V i l ->
      (l.initPort j).Runs -> V i (l.initPort j))
    (hruns : (start config memory).Runs) (i : PortIndex) :
    V i (start config memory) := by
  have hinitial : Elected config K (initial config memory).initSelection := by
    refine elected_initSelection ?_ hfirst
    unfold AnnounceLoop.External
    exact ne_true_of_eq_false hmode
  unfold start at hruns ⊢
  refine foldl_establishes (I := Elected config K)
    (V := fun i l => l.Runs -> V i l)
    (fun l i h => h.initPort (h.not_external hmode)) hport ?_
    (List.mem_finRange i) hinitial hruns
  intro l i j h hi hruns
  by_cases hij : i = j
  · rw [hij]
    exact hport l j h hruns
  · exact hother l i j h hij (hi (runs_of_initPort hruns)) hruns

theorem informed_start (hfirst : FirstElection config memory K)
    (hmode : config.externalPortConfigurationEnabled = false)
    (hruns : (start config memory).Runs) :
    Informed config K (start config memory) := by
  constructor
  case elected => exact elected_start hfirst hmode
  case information =>
    refine start_establishes (V := fun i l => K.Informed (l.informationMachine i))
      hfirst hmode ?_ ?_ hruns
    · exact fun l i h hruns =>
        informed_initPort h (h.not_external hmode) i hruns
    · exact fun l i j h hij hi hruns =>
        informed_initPort_of_ne h (h.not_external hmode) hij hi hruns

/-- What is known of the vectors holds as long as the process runs. -/
theorem informed_after (hK : K.Electable config.systemIdentity)
    (hfirst : FirstElection config memory K)
    (hmode : config.externalPortConfigurationEnabled = false)
    {es : List Event} (hheard : forall e, e ∈ es -> e.Hears K.heard)
    (hruns : (after config memory es).Runs) :
    Informed config K (after config memory es) :=
  (keeping_informed hK hmode).after (informed_start hfirst hmode) hheard hruns

end AnnounceLoop

end TimeSync
end Ziggo
