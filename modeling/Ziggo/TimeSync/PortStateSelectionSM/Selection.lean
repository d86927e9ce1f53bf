import Ziggo.TimeSync.PortStateSelectionSM.Election

/-!
# The result of a selection

What `updtStatesTree` writes to the ports, whose properties the globals of the
instance show afterwards, and what a run of the machine that has come to rest
does.
-/

namespace Ziggo
namespace TimeSync

open Foundation TsnDrivers

/-!
## The properties of the grandmaster

Eight variables describe the time of the grandmaster.  They are assigned
together with the vector that is elected.
-/

/-- What the instance announces about the time of its grandmaster. -/
structure TimeProperties where
  leap61 : Bool
  leap59 : Bool
  currentUtcOffset : Int16
  currentUtcOffsetValid : Bool
  ptpTimescale : Bool
  timeTraceable : Bool
  frequencyTraceable : Bool
  timeSource : UInt8
deriving DecidableEq

def timeProperties (g : PerPTPInstanceGlobal) : TimeProperties where
  leap61 := g.leap61
  leap59 := g.leap59
  currentUtcOffset := g.currentUtcOffset
  currentUtcOffsetValid := g.currentUtcOffsetValid
  ptpTimescale := g.ptpTimescale
  timeTraceable := g.timeTraceable
  frequencyTraceable := g.frequencyTraceable
  timeSource := g.timeSource

def sysTimeProperties (g : PerPTPInstanceGlobal) : TimeProperties where
  leap61 := g.sysLeap61
  leap59 := g.sysLeap59
  currentUtcOffset := g.sysCurrentUtcOffset
  currentUtcOffsetValid := g.sysCurrentUTCOffsetValid
  ptpTimescale := g.sysPtpTimescale
  timeTraceable := g.sysTimeTraceable
  frequencyTraceable := g.sysFrequencyTraceable
  timeSource := g.sysTimeSource

def annTimeProperties (port : PerPortGlobal) : TimeProperties where
  leap61 := port.annLeap61
  leap59 := port.annLeap59
  currentUtcOffset := port.annCurrentUtcOffset
  currentUtcOffsetValid := port.annCurrentUtcOffsetValid
  ptpTimescale := port.annPtpTimescale
  timeTraceable := port.annTimeTraceable
  frequencyTraceable := port.annFrequencyTraceable
  timeSource := port.annTimeSource

/-- A vector together with the properties that belong to it. -/
abbrev Candidate : Type := PriorityVector × TimeProperties

def BetterCandidate (a b : Candidate) : Prop :=
  Superior a.1 b.1

instance : DecidableRel BetterCandidate := fun a b =>
  inferInstanceAs (Decidable (Superior a.1 b.1))

instance : IsStrictOrder Candidate BetterCandidate where
  irrefl a := Std.Irrefl.irrefl (r := Superior) a.1
  trans a b c := IsTrans.trans (r := Superior) a.1 b.1 c.1

def systemCandidate (g : PerPTPInstanceGlobal) : Candidate :=
  (g.systemPriority, sysTimeProperties g)

def portCandidate (port : PerPortGlobal) : Candidate :=
  (gmPathPriority port, annTimeProperties port)

def shown (g : PerPTPInstanceGlobal) : Candidate :=
  (g.gmPriority, timeProperties g)

theorem gmPriority_of_shown {g : PerPTPInstanceGlobal} {c : Candidate}
    (h : shown g = c) : g.gmPriority = c.1 :=
  congrArg Prod.fst h

theorem betterCandidate_shown {g : PerPTPInstanceGlobal} {c : Candidate} :
    BetterCandidate c (shown g) <-> Superior c.1 g.gmPriority :=
  Iff.rfl

theorem shown_choosePort (g : PerPTPInstanceGlobal) (port : PerPortGlobal) :
    shown (choosePort g port) =
      challenge BetterCandidate
        (fun port => offersGrandmaster g.thisClock port = true) portCandidate
        (shown g) port := by
  unfold choosePort challenge
  by_cases h : offersGrandmaster g.thisClock port = true ∧
      Superior (gmPathPriority port) g.gmPriority
  · exact (congrArg shown (if_pos h)).trans (if_pos h).symm
  · exact (congrArg shown (if_neg h)).trans (if_neg h).symm

theorem shown_foldl_choosePort (ports : List PerPortGlobal)
    (g : PerPTPInstanceGlobal) :
    shown (ports.foldl choosePort g) =
      elect BetterCandidate
        (fun port => offersGrandmaster g.thisClock port = true) portCandidate
        ports (shown g) := by
  induction ports generalizing g with
  | nil =>
      rfl
  | cons port ports ih =>
      rw [List.foldl_cons, ih, thisClock_choosePort, shown_choosePort]
      rfl

/-- The vector and the properties come from one winner. -/
theorem shown_chooseGrandmaster (g : PerPTPInstanceGlobal)
    (ports : PerPortGlobalArray) :
    shown (chooseGrandmaster g ports) =
      elect BetterCandidate
        (fun port => offersGrandmaster g.thisClock port = true) portCandidate
        (List.ofFn ports) (systemCandidate g) :=
  shown_foldl_choosePort (List.ofFn ports) (chooseSystem g)

theorem thisClock_chooseGrandmaster (g : PerPTPInstanceGlobal)
    (ports : PerPortGlobalArray) :
    (chooseGrandmaster g ports).thisClock = g.thisClock :=
  congrArg (fun s => s.1.thisClock) (unselected_chooseGrandmaster g ports)

/-!
## What the instance shows after a selection
-/

theorem shown_tracePath (g : PerPTPInstanceGlobal) (port : PerPortGlobal) :
    shown (tracePath g port) = shown g := by
  unfold tracePath
  dsimp only
  split <;> rfl

theorem shown_updatePort (paths : PortIndex -> PriorityVector)
    (s : PerPTPInstanceGlobal × PerPortGlobalArray) (i : PortIndex) :
    shown (updatePort paths s i).1 = shown s.1 := by
  unfold updatePort portStateUpdate
  dsimp only
  split
  · exact shown_tracePath _ _
  · rfl

theorem shown_concludeSelection (g : PerPTPInstanceGlobal) :
    shown (concludeSelection g) = shown g := by
  unfold concludeSelection
  dsimp only
  split <;> rfl

theorem masterStepsRemoved_concludeSelection (g : PerPTPInstanceGlobal) :
    (concludeSelection g).masterStepsRemoved = g.masterStepsRemoved := by
  unfold concludeSelection
  dsimp only
  split <;> rfl

section Result

variable (g : PerPTPInstanceGlobal) (ports : PerPortGlobalArray)

theorem shown_updtStatesTree :
    shown (updtStatesTree g ports).1 =
      elect BetterCandidate
        (fun port => offersGrandmaster g.thisClock port = true) portCandidate
        (List.ofFn ports) (systemCandidate g) := by
  have hports : forall s : PerPTPInstanceGlobal × PerPortGlobalArray,
      shown (updatePorts (fun i => gmPathPriority (ports i)) s).1 =
        shown s.1 := by
    intro s
    exact foldl_keeps (V := fun s => shown s.1) (shown_updatePort _)
      (List.finRange nPorts) s
  rw [← shown_chooseGrandmaster]
  unfold updtStatesTree
  dsimp only
  rw [shown_concludeSelection, hports]
  rfl

theorem masterStepsRemoved_updtStatesTree :
    (updtStatesTree g ports).1.masterStepsRemoved =
      (updtStatesTree g ports).1.gmPriority.stepsRemoved := by
  have hassigning := assigning_updatePorts
    (fun i => gmPathPriority (ports i))
    (computeMaster (chooseGrandmaster g ports) ports)
  obtain ⟨hgm, hsteps⟩ := Prod.mk.inj hassigning
  unfold updtStatesTree
  dsimp only
  rw [masterStepsRemoved_concludeSelection, gmPriority_concludeSelection,
    hsteps, hgm]
  rfl

/-!
## What a selection writes to the ports
-/

theorem ports_foldl_updatePort (paths : PortIndex -> PriorityVector)
    {l : List PortIndex} (hnodup : l.Nodup)
    (s : PerPTPInstanceGlobal × PerPortGlobalArray) (j : PortIndex) :
    (l.foldl (updatePort paths) s).2 j =
      if j ∈ l then
        { s.2 j with updtInfo := (assignState s.1 (s.2 j) (paths j)).2 }
      else s.2 j := by
  induction l generalizing s with
  | nil =>
      rfl
  | cons i l ih =>
      obtain ⟨hnotin, hnodup⟩ := List.nodup_cons.mp hnodup
      rw [List.foldl_cons, ih hnodup,
        assignState_congr (assigning_updatePort paths s i)]
      by_cases hji : j = i
      · subst hji
        rw [if_neg hnotin, if_pos List.mem_cons_self]
        exact Function.update_self j _ s.2
      · rw [ports_updatePort_of_ne paths s hji]
        simp [hji]

/-- The state and the `updtInfo` that part f) assigns to a port. -/
def assigned (i : PortIndex) : PortState × Bool :=
  assignState (computeMaster (chooseGrandmaster g ports) ports).1
    ((computeMaster (chooseGrandmaster g ports) ports).2 i)
    (gmPathPriority (ports i))

theorem ports_updtStatesTree (i : PortIndex) :
    (updtStatesTree g ports).2 i =
      { ports i with
        masterPriority := masterPriorityOf (chooseGrandmaster g ports) (ports i)
        updtInfo := (assigned g ports i).2 } := by
  have hport := ports_foldl_updatePort (fun i => gmPathPriority (ports i))
    (List.nodup_finRange nPorts)
    (computeMaster (chooseGrandmaster g ports) ports) i
  rw [if_pos (List.mem_finRange i)] at hport
  exact hport

/-- The own information of a port that is not to be updated is the new one. -/
theorem assigned_mine {i : PortIndex} (hmine : (ports i).infoIs = .mine)
    (hsymmetric : (ports i).asymmetryMeasurementMode = false)
    (hupdt : (assigned g ports i).2 = false) :
    (ports i).updtInfo = false ∧
      masterPriorityOf (chooseGrandmaster g ports) (ports i) =
        (ports i).portPriority ∧
      (electedPriority g ports).stepsRemoved = (ports i).portStepsRemoved := by
  unfold assigned assignState computeMaster at hupdt
  dsimp only at hupdt
  rw [hmine, hsymmetric] at hupdt
  rw [← gmPriority_chooseGrandmaster]
  simpa using hupdt

/-- The vector that a port is to announce names the instance as its source. -/
theorem masterPriority_updtStatesTree (i : PortIndex) :
    ((updtStatesTree g ports).2 i).masterPriority =
      { (updtStatesTree g ports).1.gmPriority with
        sourcePortClockIdentity := g.thisClock
        sourcePortNumber := portNumberOf (ports i).thisPort
        portNumber := portNumberOf (ports i).thisPort } := by
  rw [ports_updtStatesTree, gmPriority_updtStatesTree,
    ← gmPriority_chooseGrandmaster, ← thisClock_chooseGrandmaster g ports]
  rfl

end Result

def setSelectedTree (g : PerPTPInstanceGlobal) : PerPTPInstanceGlobal :=
  { g with selected := fun _ => true }

section Flags

variable (g : PerPTPInstanceGlobal)

@[simp] theorem setSelectedTree_gmPriority :
    (setSelectedTree g).gmPriority = g.gmPriority :=
  rfl

@[simp] theorem setSelectedTree_masterStepsRemoved :
    (setSelectedTree g).masterStepsRemoved = g.masterStepsRemoved :=
  rfl

@[simp] theorem setSelectedTree_selectedState :
    (setSelectedTree g).selectedState = g.selectedState :=
  rfl

@[simp] theorem setSelectedTree_reselect :
    (setSelectedTree g).reselect = g.reselect :=
  rfl

@[simp] theorem setSelectedTree_shown : shown (setSelectedTree g) = shown g :=
  rfl

@[simp] theorem setSelectedTree_settings :
    instanceSettings (setSelectedTree g) = instanceSettings g :=
  rfl

@[simp] theorem clearReselectTree_settings :
    instanceSettings (PortStateSelectionSM.clearReselectTree g) =
      instanceSettings g :=
  rfl

end Flags

theorem stateSelectionAction_vars (sm : PortStateSelectionSM) :
    sm.stateSelectionAction.perPTPInstanceGlobal =
        setSelectedTree (updtStatesTree
          (PortStateSelectionSM.clearReselectTree sm.perPTPInstanceGlobal)
          sm.perPortGlobalArray).1 ∧
      sm.stateSelectionAction.perPortGlobalArray =
        (updtStatesTree
          (PortStateSelectionSM.clearReselectTree sm.perPTPInstanceGlobal)
          sm.perPortGlobalArray).2 := by
  unfold PortStateSelectionSM.stateSelectionAction
  generalize updtStatesTree _ _ = updated
  exact ⟨rfl, rfl⟩

/-!
## Who can win
-/

theorem memory_filledVector : (filledVector 0xFF).memory =
    List.replicate 28 0xFF := by
  decide

theorem not_superior_filledVector (p : PriorityVector) :
    ¬ Superior (filledVector 0xFF) p := by
  have hlength : p.memory.length = 28 :=
    (length_packed (sameType_scalars p (filledVector 0xFF))).trans
      (congrArg List.length memory_filledVector)
  rw [superior_iff, memory_filledVector, ← hlength]
  exact compare_ones p.memory

/-- Only a port with information that is not too old can win. -/
theorem gmPathPriority_of_superior {port : PerPortGlobal} {p : PriorityVector}
    (h : Superior (gmPathPriority port) p) :
    hasPortPriority port.portPriority = true ∧ port.infoIs ≠ .aged ∧
      gmPathPriority port =
        { port.portPriority with
          stepsRemoved := port.portPriority.stepsRemoved + 1 } := by
  unfold gmPathPriority at h ⊢
  by_cases hinfo : hasPortPriority port.portPriority = true ∧
      port.infoIs ≠ .aged
  · exact ⟨hinfo.left, hinfo.right, if_pos hinfo⟩
  · rw [if_neg hinfo] at h
    exact absurd h (not_superior_filledVector p)

/-!
## Runs of the machine
-/

namespace PortStateSelectionMachine

open PortStateSelectionSM

/-- The machine has come to rest, and only a port can ask for a selection. -/
structure Rests (m : PortStateSelectionMachine) : Prop where
  state : m.state = .stateSelection
  quiescent : m.Quiescent
  identity : m.vars.systemIdentityChange = false
  asymmetry : m.vars.asymmetryMeasurementModeChange = false

/-- The process runs and the instance is switched on. -/
structure Enabled (sm : PortStateSelectionSM) : Prop where
  runs : sm.process.stop = none
  begun : sm.perPTPInstanceGlobal.BEGIN = false
  enabled : sm.perPTPInstanceGlobal.instanceEnable = true

variable {m : PortStateSelectionMachine}

theorem Enabled.ready (h : Enabled m.vars) : m.ready = m := by
  have hstate : m.vars.allStateTransition m.state = m.state := by
    unfold allStateTransition
    rw [h.begun, h.enabled]
    simp
  unfold PortStateSelectionMachine.ready
  rw [hstate]

theorem rests_selected (vars : PortStateSelectionSM) :
    Rests
      { state := .stateSelection
        lastState := some .stateSelection
        vars := vars.stateSelectionAction } :=
  ⟨rfl, rfl, rfl, rfl⟩

theorem run_selects (h : m.Rests) (henabled : Enabled m.vars)
    (hreselect : exists p, m.vars.perPTPInstanceGlobal.reselect p = true) :
    m.run =
      { state := .stateSelection
        lastState := some .stateSelection
        vars := m.vars.stateSelectionAction } := by
  obtain ⟨hstate, hq, _, _⟩ := h
  rcases m with ⟨state, lastState, vars⟩
  change state = _ at hstate
  change lastState = some state at hq
  subst hstate hq
  have hnext : program.transition .stateSelection vars =
      .ok (.reenter .stateSelection) := by
    change Except.ok vars.stateSelectionStateTransition = _
    unfold stateSelectionStateTransition
    rw [if_pos (Or.inl hreselect)]
  have hfirst : program.run passes
      { state := .stateSelection, lastState := some .stateSelection,
        vars := vars } =
      program.run 7
        { state := .stateSelection, lastState := none, vars := vars } :=
    Program.run_reenter program 7 henabled.runs hnext
  have hsecond : program.run 7
      { state := .stateSelection, lastState := none, vars := vars } =
      { state := .stateSelection, lastState := some .stateSelection,
        vars := vars.stateSelectionAction } :=
    Program.run_stay program 6 henabled.runs
      (transition_stateSelectionAction vars)
  unfold run
  rw [henabled.ready]
  exact hfirst.trans hsecond

theorem run_rests (h : m.Rests) (henabled : Enabled m.vars)
    (hreselect : ¬ exists p, m.vars.perPTPInstanceGlobal.reselect p = true) :
    m.run = m := by
  obtain ⟨hstate, hq, hidentity, hasymmetry⟩ := h
  rcases m with ⟨state, lastState, vars⟩
  change state = _ at hstate
  change lastState = some state at hq
  subst hstate hq
  have hnext : program.transition .stateSelection vars =
      .ok (.goto .stateSelection) := by
    change Except.ok vars.stateSelectionStateTransition = _
    unfold stateSelectionStateTransition
    rw [if_neg]
    rintro (hport | hflag | hflag)
    · exact hreselect hport
    · exact absurd (hidentity.symm.trans hflag) (by decide)
    · exact absurd (hasymmetry.symm.trans hflag) (by decide)
  unfold run
  rw [henabled.ready]
  exact Program.run_stay program 7 henabled.runs hnext

/-- The first run selects the port states on disabled ports. -/
theorem run_initial (memory : PortStateSelectionSM) (h : Enabled memory) :
    (initial memory).run =
      { state := .stateSelection
        lastState := some .stateSelection
        vars := (initial memory).vars.initBridgeAction.stateSelectionAction } := by
  have henabled : Enabled (initial memory).vars := ⟨h.runs, h.begun, h.enabled⟩
  have hinit : program.run passes (initial memory) =
      program.run 7
        { state := .initBridge, lastState := some .init,
          vars := (initial memory).vars } :=
    Program.run_goto program 7 h.runs rfl (by intro h; cases h)
  have hbridge : program.run 7
      { state := .initBridge, lastState := some .init,
        vars := (initial memory).vars } =
      program.run 6
        { state := .stateSelection, lastState := some .initBridge,
          vars := (initial memory).vars.initBridgeAction } :=
    Program.run_goto program 6 h.runs rfl (by intro h; cases h)
  have hselect : program.run 6
      { state := .stateSelection, lastState := some .initBridge,
        vars := (initial memory).vars.initBridgeAction } =
      { state := .stateSelection, lastState := some .stateSelection,
        vars :=
          (initial memory).vars.initBridgeAction.stateSelectionAction } :=
    Program.run_stay program 5 h.runs (transition_stateSelectionAction _)
  unfold run
  rw [henabled.ready]
  exact hinit.trans (hbridge.trans hselect)

end PortStateSelectionMachine

end TimeSync
end Ziggo
