import Ziggo.Foundation.Election
import Ziggo.TsnDrivers.PriorityOrder
import Ziggo.TimeSync.PortStateSelectionSM
import Ziggo.TimeSync.Settings

/-!
# The election of `updtStatesTree`

The loop over the ports elects the best vector among the one of the instance
and those that its ports offer.  Each port then becomes a slave port exactly if
its received information is the elected one.  The module determines when this
gives the instance one slave port.
-/

namespace Ziggo
namespace TimeSync

open Foundation TsnDrivers

/-!
## The elected vector
-/

/-- Superior vectors win, and only the ports that offer a grandmaster take part. -/
def electedPriority (g : PerPTPInstanceGlobal) (ports : PerPortGlobalArray) :
    PriorityVector :=
  elect Superior (fun port => offersGrandmaster g.thisClock port = true)
    gmPathPriority (List.ofFn ports) g.systemPriority

theorem thisClock_choosePort (g : PerPTPInstanceGlobal) (port : PerPortGlobal) :
    (choosePort g port).thisClock = g.thisClock := by
  unfold choosePort
  split <;> rfl

theorem gmPriority_choosePort (g : PerPTPInstanceGlobal)
    (port : PerPortGlobal) :
    (choosePort g port).gmPriority =
      challenge Superior
        (fun port => offersGrandmaster g.thisClock port = true)
        gmPathPriority g.gmPriority port := by
  unfold choosePort challenge Superior
  by_cases h : offersGrandmaster g.thisClock port = true ∧
      comparePriorityVectors (gmPathPriority port) g.gmPriority =
        .superiorPriority
  · rw [if_pos h, if_pos h]
  · rw [if_neg h, if_neg h]

theorem gmPriority_foldl_choosePort (ports : List PerPortGlobal)
    (g : PerPTPInstanceGlobal) :
    (ports.foldl choosePort g).gmPriority =
      elect Superior (fun port => offersGrandmaster g.thisClock port = true)
        gmPathPriority ports g.gmPriority := by
  induction ports generalizing g with
  | nil =>
      rfl
  | cons port ports ih =>
      rw [List.foldl_cons, ih, thisClock_choosePort, gmPriority_choosePort]
      rfl

theorem gmPriority_chooseGrandmaster (g : PerPTPInstanceGlobal)
    (ports : PerPortGlobalArray) :
    (chooseGrandmaster g ports).gmPriority = electedPriority g ports :=
  gmPriority_foldl_choosePort (List.ofFn ports) (chooseSystem g)

/-!
## Frame

What the functions of the election leave unchanged.
-/

/-- The variables that no part of `updtStatesTree` writes. -/
def unselected (g : PerPTPInstanceGlobal) :
    InstanceSettings × (Port -> Bool) :=
  (instanceSettings g, g.reselect)

theorem settings_of_unselected {g g' : PerPTPInstanceGlobal}
    (h : unselected g' = unselected g) :
    instanceSettings g' = instanceSettings g :=
  (Prod.mk.inj h).left

theorem systemPriority_of_unselected {g g' : PerPTPInstanceGlobal}
    (h : unselected g' = unselected g) : g'.systemPriority = g.systemPriority :=
  congrArg InstanceSettings.systemPriority (settings_of_unselected h)

theorem thisClock_of_unselected {g g' : PerPTPInstanceGlobal}
    (h : unselected g' = unselected g) : g'.thisClock = g.thisClock :=
  congrArg InstanceSettings.thisClock (settings_of_unselected h)

theorem reselect_of_unselected {g g' : PerPTPInstanceGlobal}
    (h : unselected g' = unselected g) : g'.reselect = g.reselect :=
  (Prod.mk.inj h).right

theorem unselected_chooseGrandmaster (g : PerPTPInstanceGlobal)
    (ports : PerPortGlobalArray) :
    unselected (chooseGrandmaster g ports) = unselected g := by
  have hport : forall (g : PerPTPInstanceGlobal) (port : PerPortGlobal),
      unselected (choosePort g port) = unselected g := by
    intro g port
    unfold choosePort
    split <;> rfl
  exact foldl_keeps hport (List.ofFn ports) (chooseSystem g)

theorem unselected_tracePath (g : PerPTPInstanceGlobal) (port : PerPortGlobal) :
    unselected (tracePath g port) = unselected g := by
  unfold tracePath
  dsimp only
  split <;> rfl

theorem unselected_portStateUpdate (g : PerPTPInstanceGlobal) (i : PortIndex)
    (port : PerPortGlobal) (path : PriorityVector) :
    unselected (portStateUpdate g i port path).1 = unselected g := by
  unfold portStateUpdate
  dsimp only
  split
  · exact unselected_tracePath _ port
  · rfl

theorem unselected_concludeSelection (g : PerPTPInstanceGlobal) :
    unselected (concludeSelection g) = unselected g := by
  unfold concludeSelection
  dsimp only
  split <;> rfl

theorem unselected_updatePorts (paths : PortIndex -> PriorityVector)
    (s : PerPTPInstanceGlobal × PerPortGlobalArray) :
    unselected (updatePorts paths s).1 = unselected s.1 := by
  have hport : forall (s : PerPTPInstanceGlobal × PerPortGlobalArray)
      (i : PortIndex), unselected (updatePort paths s i).1 = unselected s.1 := by
    intro s i
    exact unselected_portStateUpdate s.1 i (s.2 i) (paths i)
  exact foldl_keeps (V := fun s => unselected s.1) hport
    (List.finRange nPorts) s

theorem unselected_updtStatesTree (g : PerPTPInstanceGlobal)
    (ports : PerPortGlobalArray) :
    unselected (updtStatesTree g ports).1 = unselected g := by
  unfold updtStatesTree
  dsimp only
  rw [unselected_concludeSelection, unselected_updatePorts]
  exact unselected_chooseGrandmaster g ports

theorem portSettings_updatePort (paths : PortIndex -> PriorityVector)
    (s : PerPTPInstanceGlobal × PerPortGlobalArray) (i j : PortIndex) :
    portSettings ((updatePort paths s j).2 i) = portSettings (s.2 i) := by
  change portSettings (Function.update s.2 j
    (portStateUpdate s.1 j (s.2 j) (paths j)).2 i) = portSettings (s.2 i)
  by_cases hij : i = j
  · subst hij
    rw [Function.update_self]
    rfl
  · rw [Function.update_of_ne hij]

theorem portSettings_updtStatesTree (g : PerPTPInstanceGlobal)
    (ports : PerPortGlobalArray) (i : PortIndex) :
    portSettings ((updtStatesTree g ports).2 i) = portSettings (ports i) := by
  have hports : forall (paths : PortIndex -> PriorityVector)
      (s : PerPTPInstanceGlobal × PerPortGlobalArray),
      portSettings ((updatePorts paths s).2 i) = portSettings (s.2 i) := by
    intro paths s
    exact foldl_keeps (V := fun s => portSettings (s.2 i))
      (fun s j => portSettings_updatePort paths s i j) (List.finRange nPorts) s
  unfold updtStatesTree
  dsimp only
  rw [hports]
  rfl

theorem stateSelectionAction_global (sm : PortStateSelectionSM) :
    unselected sm.stateSelectionAction.perPTPInstanceGlobal =
      unselected
        (PortStateSelectionSM.clearReselectTree sm.perPTPInstanceGlobal) := by
  have hframe := unselected_updtStatesTree
    (PortStateSelectionSM.clearReselectTree sm.perPTPInstanceGlobal)
    sm.perPortGlobalArray
  unfold PortStateSelectionSM.stateSelectionAction
  generalize updtStatesTree _ _ = updated at hframe ⊢
  exact hframe

theorem stateSelectionAction_port (sm : PortStateSelectionSM) (i : PortIndex) :
    portSettings (sm.stateSelectionAction.perPortGlobalArray i) =
      portSettings (sm.perPortGlobalArray i) := by
  have hframe := portSettings_updtStatesTree
    (PortStateSelectionSM.clearReselectTree sm.perPTPInstanceGlobal)
    sm.perPortGlobalArray i
  unfold PortStateSelectionSM.stateSelectionAction
  generalize updtStatesTree _ _ = updated at hframe ⊢
  exact hframe

theorem transition_stateSelectionAction (sm : PortStateSelectionSM) :
    PortStateSelectionSM.transition .stateSelection sm.stateSelectionAction =
      .ok (.goto .stateSelection) := by
  have hreselect :=
    reselect_of_unselected (stateSelectionAction_global sm)
  have hidentity : sm.stateSelectionAction.systemIdentityChange = false := rfl
  have hasymmetry :
      sm.stateSelectionAction.asymmetryMeasurementModeChange = false := rfl
  generalize sm.stateSelectionAction = sm' at hreselect hidentity hasymmetry ⊢
  unfold PortStateSelectionSM.transition
    PortStateSelectionSM.stateSelectionStateTransition
  simp [hreselect, hidentity, hasymmetry,
    PortStateSelectionSM.clearReselectTree]

/-!
## The states of the ports
-/

/-- The variables of the instance that the assignment of states reads. -/
def assigning (g : PerPTPInstanceGlobal) : PriorityVector × UInt16 :=
  (g.gmPriority, g.masterStepsRemoved)

theorem gmPriority_of_assigning {g g' : PerPTPInstanceGlobal}
    (h : assigning g' = assigning g) : g'.gmPriority = g.gmPriority :=
  (Prod.mk.inj h).left

theorem assignState_congr {g g' : PerPTPInstanceGlobal}
    (h : assigning g' = assigning g) (port : PerPortGlobal)
    (path : PriorityVector) :
    assignState g' port path = assignState g port path := by
  obtain ⟨hgm, hsteps⟩ := Prod.mk.inj h
  unfold assignState
  rw [hgm, hsteps]

theorem assigning_tracePath (g : PerPTPInstanceGlobal) (port : PerPortGlobal) :
    assigning (tracePath g port) = assigning g := by
  unfold tracePath
  dsimp only
  split <;> rfl

theorem selectedState_tracePath (g : PerPTPInstanceGlobal)
    (port : PerPortGlobal) : (tracePath g port).selectedState = g.selectedState := by
  unfold tracePath
  dsimp only
  split <;> rfl

theorem assigning_updatePort (paths : PortIndex -> PriorityVector)
    (s : PerPTPInstanceGlobal × PerPortGlobalArray) (i : PortIndex) :
    assigning (updatePort paths s i).1 = assigning s.1 := by
  unfold updatePort portStateUpdate
  dsimp only
  split
  · exact assigning_tracePath _ _
  · rfl

theorem selectedState_updatePort (paths : PortIndex -> PriorityVector)
    (s : PerPTPInstanceGlobal × PerPortGlobalArray) (i : PortIndex) :
    (updatePort paths s i).1.selectedState =
      Function.update s.1.selectedState i.succ
        (assignState s.1 (s.2 i) (paths i)).1 := by
  unfold updatePort portStateUpdate
  dsimp only
  split
  · exact selectedState_tracePath _ _
  · rfl

theorem ports_updatePort_of_ne (paths : PortIndex -> PriorityVector)
    (s : PerPTPInstanceGlobal × PerPortGlobalArray) {i j : PortIndex}
    (h : j ≠ i) : (updatePort paths s i).2 j = s.2 j :=
  Function.update_of_ne h _ s.2

theorem selectedState_foldl_updatePort (paths : PortIndex -> PriorityVector)
    {l : List PortIndex} (hnodup : l.Nodup)
    (s : PerPTPInstanceGlobal × PerPortGlobalArray) (j : PortIndex) :
    (l.foldl (updatePort paths) s).1.selectedState j.succ =
      if j ∈ l then (assignState s.1 (s.2 j) (paths j)).1
      else s.1.selectedState j.succ := by
  induction l generalizing s with
  | nil =>
      rfl
  | cons i l ih =>
      obtain ⟨hnotin, hnodup⟩ := List.nodup_cons.mp hnodup
      rw [List.foldl_cons, ih hnodup, selectedState_updatePort,
        assignState_congr (assigning_updatePort paths s i)]
      by_cases hji : j = i
      · subst hji
        rw [if_neg hnotin, if_pos List.mem_cons_self, Function.update_self]
      · have hne : j.succ ≠ i.succ := fun h => hji (Fin.succ_inj.mp h)
        rw [ports_updatePort_of_ne paths s hji, Function.update_of_ne hne]
        simp [hji]

theorem selectedState_updatePorts (paths : PortIndex -> PriorityVector)
    (s : PerPTPInstanceGlobal × PerPortGlobalArray) (j : PortIndex) :
    (updatePorts paths s).1.selectedState j.succ =
      (assignState s.1 (s.2 j) (paths j)).1 := by
  have h := selectedState_foldl_updatePort paths
    (List.nodup_finRange nPorts) s j
  rwa [if_pos (List.mem_finRange j)] at h

theorem assigning_updatePorts (paths : PortIndex -> PriorityVector)
    (s : PerPTPInstanceGlobal × PerPortGlobalArray) :
    assigning (updatePorts paths s).1 = assigning s.1 :=
  foldl_keeps (V := fun s => assigning s.1) (assigning_updatePort paths)
    (List.finRange nPorts) s

theorem gmPriority_concludeSelection (g : PerPTPInstanceGlobal) :
    (concludeSelection g).gmPriority = g.gmPriority := by
  unfold concludeSelection
  dsimp only
  split <;> rfl

theorem selectedState_concludeSelection (g : PerPTPInstanceGlobal) :
    (concludeSelection g).selectedState =
      Function.update g.selectedState 0
        (if exists i : PortIndex, g.selectedState i.succ = .slavePort then
          .masterPort else .slavePort) := by
  unfold concludeSelection
  dsimp only
  split <;> rfl

theorem concludeSelection_zero_iff (g : PerPTPInstanceGlobal) :
    (concludeSelection g).selectedState 0 = .slavePort <->
      forall i : PortIndex, g.selectedState i.succ ≠ .slavePort := by
  rw [selectedState_concludeSelection, Function.update_self]
  by_cases h : exists i : PortIndex, g.selectedState i.succ = .slavePort
  · simp [h]
  · simp [not_exists.mp h]

theorem concludeSelection_succ (g : PerPTPInstanceGlobal) (i : PortIndex) :
    (concludeSelection g).selectedState i.succ = g.selectedState i.succ := by
  rw [selectedState_concludeSelection,
    Function.update_of_ne (Fin.succ_ne_zero i)]

theorem assignState_slave_iff {g : PerPTPInstanceGlobal} {port : PerPortGlobal}
    {path : PriorityVector} (h : port.asymmetryMeasurementMode = false) :
    (assignState g port path).1 = .slavePort <->
      port.infoIs = .received ∧ g.gmPriority = path := by
  unfold assignState
  rw [h]
  cases hinfo : port.infoIs with
  | received =>
      by_cases hpath : g.gmPriority = path
      · simp [hpath]
      · simp only [hpath]
        by_cases hcompare : comparePriorityVectors port.masterPriority
            port.portPriority = .superiorPriority
        · simp [hcompare]
        · simp [hcompare]
  | mine => simp
  | aged => simp
  | disabled => simp

/-!
## One slave port
-/

/--
One port is a slave port in the globals `u` that `updtStatesTree` computes from
the given ports: the local clock if the instance is the grandmaster, and
otherwise a port whose received information was elected.
-/
structure OneSlave (u : PerPTPInstanceGlobal) (ports : PerPortGlobalArray) :
    Prop where
  unique : ∃! p : Port, u.selectedState p = .slavePort
  system : u.gmPriority = u.systemPriority -> u.selectedState 0 = .slavePort
  elected : u.gmPriority ≠ u.systemPriority ->
    exists i : PortIndex, u.selectedState i.succ = .slavePort ∧
      (ports i).infoIs = .received ∧ gmPathPriority (ports i) = u.gmPriority

section Selection

variable (g : PerPTPInstanceGlobal) (ports : PerPortGlobalArray)

/-- The port takes part in the election and offers a better vector. -/
def Challenges (i : PortIndex) : Prop :=
  offersGrandmaster g.thisClock (ports i) = true ∧
    Superior (gmPathPriority (ports i)) g.systemPriority

/-- The port challenges the instance and no port that takes part is better. -/
def Best (i : PortIndex) : Prop :=
  Challenges g ports i ∧
    forall j, offersGrandmaster g.thisClock (ports j) = true ->
      ¬ Superior (gmPathPriority (ports j)) (gmPathPriority (ports i))

/--
The information from which `updtStatesTree` starts leads to one slave port.  The
vector of the instance returns to it on no port unless another one is elected,
the best vector is received information of some port, and of one port only.
-/
structure Unambiguous : Prop where
  own : forall i, (ports i).infoIs = .received ->
    gmPathPriority (ports i) = g.systemPriority ->
      exists j, Challenges g ports j
  received : forall i, Best g ports i ->
    exists j, (ports j).infoIs = .received ∧
      gmPathPriority (ports j) = gmPathPriority (ports i)
  unique : forall i j, Best g ports i -> (ports i).infoIs = .received ->
    (ports j).infoIs = .received ->
    gmPathPriority (ports j) = gmPathPriority (ports i) -> i = j

/-- The port holds received information that is the elected vector. -/
def Elected (i : PortIndex) : Prop :=
  (ports i).infoIs = .received ∧
    electedPriority g ports = gmPathPriority (ports i)

theorem electedPriority_ne_iff :
    electedPriority g ports ≠ g.systemPriority <->
      exists i, Challenges g ports i := by
  constructor
  · intro hne
    rcases elect_choice Superior
        (fun port => offersGrandmaster g.thisClock port = true)
        gmPathPriority (List.ofFn ports) g.systemPriority with hkeep | hnew
    · exact absurd hkeep hne
    · obtain ⟨port, hport, hoffers, hsuperior, _⟩ := hnew
      obtain ⟨i, rfl⟩ := List.mem_ofFn.mp hport
      exact ⟨i, hoffers, hsuperior⟩
  · rintro ⟨i, hoffers, hsuperior⟩ heq
    have hunbeaten := elect_unbeaten Superior
      (fun port => offersGrandmaster g.thisClock port = true)
      gmPathPriority (List.ofFn ports) g.systemPriority (ports i)
      (List.mem_ofFn.mpr ⟨i, rfl⟩) hoffers
    change ¬ Superior _ (electedPriority g ports) at hunbeaten
    rw [heq] at hunbeaten
    exact hunbeaten hsuperior

theorem not_superior_electedPriority {i : PortIndex}
    (h : offersGrandmaster g.thisClock (ports i) = true) :
    ¬ Superior (gmPathPriority (ports i)) (electedPriority g ports) :=
  elect_unbeaten Superior
    (fun port => offersGrandmaster g.thisClock port = true)
    gmPathPriority (List.ofFn ports) g.systemPriority (ports i)
    (List.mem_ofFn.mpr ⟨i, rfl⟩) h

/-- Once the instance is challenged, the elected vector is a best one. -/
theorem exists_best (h : electedPriority g ports ≠ g.systemPriority) :
    exists i, Best g ports i ∧
      electedPriority g ports = gmPathPriority (ports i) := by
  rcases elect_choice Superior
      (fun port => offersGrandmaster g.thisClock port = true)
      gmPathPriority (List.ofFn ports) g.systemPriority with hkeep | hnew
  · exact absurd hkeep h
  · obtain ⟨port, hport, hoffers, hsuperior, hvalue⟩ := hnew
    obtain ⟨i, rfl⟩ := List.mem_ofFn.mp hport
    refine ⟨i, ⟨⟨hoffers, hsuperior⟩, ?_⟩, hvalue⟩
    intro j hj
    have hunbeaten := not_superior_electedPriority g ports hj
    rwa [show electedPriority g ports = gmPathPriority (ports i) from hvalue]
      at hunbeaten

theorem Best.eq_electedPriority {i : PortIndex} (h : Best g ports i) :
    electedPriority g ports = gmPathPriority (ports i) := by
  have hne := (electedPriority_ne_iff g ports).mpr ⟨i, h.left⟩
  obtain ⟨j, hj, helected⟩ := exists_best g ports hne
  rw [helected]
  exact eq_of_not_superior (h.right j hj.left.left) (hj.right i h.left.left)

theorem Elected.best {i : PortIndex} (h : Elected g ports i)
    (hne : electedPriority g ports ≠ g.systemPriority) : Best g ports i := by
  obtain ⟨j, hj, helected⟩ := exists_best g ports hne
  have hpath : gmPathPriority (ports j) = gmPathPriority (ports i) :=
    helected.symm.trans h.right
  have hj' := hj
  obtain ⟨⟨hoffers, hsuperior⟩, hunbeaten⟩ := hj'
  unfold offersGrandmaster at hoffers
  rw [hpath] at hoffers hsuperior hunbeaten
  refine ⟨⟨?_, hsuperior⟩, hunbeaten⟩
  unfold offersGrandmaster
  simp only [decide_eq_true_eq] at hoffers ⊢
  exact ⟨by rw [h.left]; decide, hoffers.right⟩

/-!
## The result of `updtStatesTree`
-/

theorem gmPriority_updtStatesTree :
    (updtStatesTree g ports).1.gmPriority = electedPriority g ports := by
  unfold updtStatesTree
  dsimp only
  rw [gmPriority_concludeSelection,
    gmPriority_of_assigning (assigning_updatePorts _ _),
    ← gmPriority_chooseGrandmaster]
  rfl

theorem systemPriority_updtStatesTree :
    (updtStatesTree g ports).1.systemPriority = g.systemPriority :=
  systemPriority_of_unselected (unselected_updtStatesTree g ports)

theorem selectedState_updatePorts_computeMaster
    (hasymmetry : forall i, (ports i).asymmetryMeasurementMode = false)
    (i : PortIndex) :
    (updatePorts (fun i => gmPathPriority (ports i))
        (computeMaster (chooseGrandmaster g ports) ports)).1.selectedState i.succ
      = .slavePort <-> Elected g ports i := by
  have hport : ((computeMaster (chooseGrandmaster g ports)
      ports).2 i).asymmetryMeasurementMode = false := hasymmetry i
  rw [selectedState_updatePorts, assignState_slave_iff hport, Elected,
    ← gmPriority_chooseGrandmaster]
  rfl

theorem selectedState_updtStatesTree_succ
    (hasymmetry : forall i, (ports i).asymmetryMeasurementMode = false)
    (i : PortIndex) :
    (updtStatesTree g ports).1.selectedState i.succ = .slavePort <->
      Elected g ports i := by
  rw [← selectedState_updatePorts_computeMaster g ports hasymmetry i]
  unfold updtStatesTree
  dsimp only
  rw [concludeSelection_succ]

theorem selectedState_updtStatesTree_zero
    (hasymmetry : forall i, (ports i).asymmetryMeasurementMode = false) :
    (updtStatesTree g ports).1.selectedState 0 = .slavePort <->
      forall i, ¬ Elected g ports i := by
  unfold updtStatesTree
  dsimp only
  rw [concludeSelection_zero_iff]
  refine forall_congr' fun i => not_congr ?_
  exact selectedState_updatePorts_computeMaster g ports hasymmetry i

theorem oneSlave_iff_of_elected {u : PerPTPInstanceGlobal}
    (hsucc : forall i : PortIndex,
      u.selectedState i.succ = .slavePort <-> Elected g ports i)
    (hzero : u.selectedState 0 = .slavePort <->
      forall i, ¬ Elected g ports i)
    (hgm : u.gmPriority = electedPriority g ports)
    (hsystem : u.systemPriority = g.systemPriority) :
    OneSlave u ports <-> Unambiguous g ports := by
  have hchallenged := electedPriority_ne_iff g ports
  constructor
  · intro h
    constructor
    case own =>
      intro i hreceived hpath
      refine hchallenged.mp fun heq => ?_
      have hslave := h.system (by rw [hgm, hsystem, heq])
      exact hzero.mp hslave i ⟨hreceived, by rw [heq, hpath]⟩
    case received =>
      intro i hbest
      have hne := hchallenged.mpr ⟨i, hbest.left⟩
      obtain ⟨j, _, hreceived, hpath⟩ :=
        h.elected (by rw [hgm, hsystem]; exact hne)
      refine ⟨j, hreceived, ?_⟩
      rw [hpath, hgm, Best.eq_electedPriority g ports hbest]
    case unique =>
      intro i j hbest hi hj hpath
      have helected := Best.eq_electedPriority g ports hbest
      have hslavei := (hsucc i).mpr ⟨hi, helected⟩
      have hslavej := (hsucc j).mpr ⟨hj, helected.trans hpath.symm⟩
      exact Fin.succ_inj.mp (h.unique.unique hslavei hslavej)
  · intro h
    have hunique : forall i j, Elected g ports i -> Elected g ports j ->
        i = j := by
      intro i j hi hj
      have hne : electedPriority g ports ≠ g.systemPriority := by
        intro heq
        have hown := h.own i hi.left (by rw [← hi.right, heq])
        exact hchallenged.mpr hown heq
      exact h.unique i j (hi.best g ports hne) hi.left hj.left
        (hj.right.symm.trans hi.right)
    constructor
    case unique =>
      by_cases hsome : exists i, Elected g ports i
      · obtain ⟨i, hi⟩ := hsome
        refine ⟨i.succ, (hsucc i).mpr hi, ?_⟩
        intro p hp
        cases p using Fin.cases with
        | zero => exact absurd hi (hzero.mp hp i)
        | succ j => rw [hunique j i ((hsucc j).mp hp) hi]
      · rw [not_exists] at hsome
        refine ⟨0, hzero.mpr hsome, ?_⟩
        intro p hp
        cases p using Fin.cases with
        | zero => rfl
        | succ j => exact absurd ((hsucc j).mp hp) (hsome j)
    case system =>
      intro heq
      rw [hgm, hsystem] at heq
      refine hzero.mpr fun i hi => ?_
      exact hchallenged.mpr
        (h.own i hi.left (by rw [← hi.right, heq])) heq
    case elected =>
      intro hne
      rw [hgm, hsystem] at hne
      obtain ⟨i, hbest, helected⟩ := exists_best g ports hne
      obtain ⟨j, hreceived, hpath⟩ := h.received i hbest
      refine ⟨j, (hsucc j).mpr ⟨hreceived, ?_⟩, hreceived, ?_⟩
      · rw [helected, hpath]
      · rw [hgm, helected, hpath]

theorem oneSlave_iff_unambiguous
    (hasymmetry : forall i, (ports i).asymmetryMeasurementMode = false) :
    OneSlave (updtStatesTree g ports).1 ports <-> Unambiguous g ports :=
  oneSlave_iff_of_elected g ports
    (selectedState_updtStatesTree_succ g ports hasymmetry)
    (selectedState_updtStatesTree_zero g ports hasymmetry)
    (gmPriority_updtStatesTree g ports)
    (systemPriority_updtStatesTree g ports)

end Selection

end TimeSync
end Ziggo
