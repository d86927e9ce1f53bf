import Ziggo.Foundation.Faults
import Ziggo.TimeSync.AnnounceLoop.Informed
import Ziggo.TimeSync.AnnounceLoop.PortRoles

/-!
# What a selection leaves behind

In BMCA mode a selection that some port asks for elects the best vector among
the one of the instance and the received ones, and assigns everything else that
depends on the winner.
-/

namespace Ziggo
namespace TimeSync

open Foundation TsnDrivers

/-- The vectors of the instance are those that it is the source of. -/
def sourceKnowledge (thisClock : ClockIdentity) : Knowledge where
  own p := p.sourcePortClockIdentity = thisClock
  foreign _ := True
  heard _ := True
  accept _ _ _ _ _ _ := trivial

theorem electable_sourceKnowledge (systemIdentity : SystemIdentity) :
    (sourceKnowledge systemIdentity.clockIdentity).Electable systemIdentity where
  source _ h := h
  system _ := rfl
  received _ _ _ _ _ := rfl

namespace AnnounceLoop

/-- The port holds received information of another clock. -/
def Eligible (l : AnnounceLoop) (i : PortIndex) : Prop :=
  (l.perPortGlobal i).infoIs = .received ∧
    hasPortPriority (l.perPortGlobal i).portPriority = true ∧
    (l.perPortGlobal i).portPriority.sourcePortClockIdentity ≠
      l.perPTPInstanceGlobal.thisClock

/-- What the port offers, with the properties that were announced with it. -/
def offered (l : AnnounceLoop) (i : PortIndex) : Candidate :=
  (oneStepFurther (l.perPortGlobal i).portPriority,
    annTimeProperties (l.perPortGlobal i))

/-- The vectors among which a selection elects. -/
inductive IsCandidate (l : AnnounceLoop) : Candidate -> Prop where
  | system : IsCandidate l (systemCandidate l.perPTPInstanceGlobal)
  | port (i : PortIndex) (h : l.Eligible i) : IsCandidate l (l.offered i)

/-- The result `l'` of a selection among the candidates of the loop `l`. -/
structure Selected (l l' : AnnounceLoop) : Prop where
  process : l'.process = l.process
  reselect : forall p, l'.perPTPInstanceGlobal.reselect p = false
  selected : forall p, l'.perPTPInstanceGlobal.selected p = true
  candidate : l.IsCandidate (shown l'.perPTPInstanceGlobal)
  best : forall c, l.IsCandidate c ->
    ¬ Superior c.1 l'.perPTPInstanceGlobal.gmPriority
  tie : (forall i, l.Eligible i ->
      ¬ Superior (l.offered i).1 l.perPTPInstanceGlobal.systemPriority) ->
    shown l'.perPTPInstanceGlobal = systemCandidate l.perPTPInstanceGlobal
  steps : l'.perPTPInstanceGlobal.masterStepsRemoved =
    l'.perPTPInstanceGlobal.gmPriority.stepsRemoved
  master : forall i, (l'.perPortGlobal i).masterPriority =
    announcedBy l.perPTPInstanceGlobal.thisClock (portNumberOf i.succ)
      l'.perPTPInstanceGlobal.gmPriority

variable {config : Config} {memory : LoopMemory} {l : AnnounceLoop}

/-- The ports that take part in the election are the eligible ones. -/
theorem eligible_of_superior
    (hport : forall i, (sourceKnowledge l.perPTPInstanceGlobal.thisClock).Sound
      (l.perPortGlobal i)) {i : PortIndex}
    (hoffers : offersGrandmaster l.perPTPInstanceGlobal.thisClock
      (l.perPortGlobal i) = true) {p : PriorityVector}
    (hsuperior : Superior (gmPathPriority (l.perPortGlobal i)) p) :
    l.Eligible i ∧ portCandidate (l.perPortGlobal i) = l.offered i := by
  obtain ⟨hinfo, hpriority, hother, _, hpath⟩ :=
    (hport i).offers (fun _ h => h) hoffers hsuperior
  refine ⟨⟨hinfo, hpriority, hother⟩, ?_⟩
  unfold portCandidate offered
  rw [hpath]

theorem Eligible.offers {i : PortIndex} (h : l.Eligible i) :
    offersGrandmaster l.perPTPInstanceGlobal.thisClock
        (l.perPortGlobal i) = true ∧
      portCandidate (l.perPortGlobal i) = l.offered i := by
  obtain ⟨hinfo, hpriority, hother⟩ := h
  have hpath : gmPathPriority (l.perPortGlobal i) =
      oneStepFurther (l.perPortGlobal i).portPriority := by
    unfold gmPathPriority
    rw [if_pos]
    · rfl
    · exact ⟨hpriority, by rw [hinfo]; decide⟩
  constructor
  · unfold offersGrandmaster
    rw [hpath, hinfo]
    simp only [decide_eq_true_eq]
    exact ⟨by decide, hother⟩
  · unfold portCandidate offered
    rw [hpath]

theorem shown_elect (l : AnnounceLoop) :
    shown l.elect.perPTPInstanceGlobal =
      Foundation.elect BetterCandidate
        (fun port =>
          offersGrandmaster l.perPTPInstanceGlobal.thisClock port = true)
        portCandidate (List.ofFn l.perPortGlobal)
        (systemCandidate l.perPTPInstanceGlobal) := by
  rw [elect_perPTPInstanceGlobal, setSelectedTree_shown]
  unfold tree
  rw [shown_updtStatesTree]
  rfl

theorem shown_elect_choice
    (hport : forall i, (sourceKnowledge l.perPTPInstanceGlobal.thisClock).Sound
      (l.perPortGlobal i)) :
    shown l.elect.perPTPInstanceGlobal =
        systemCandidate l.perPTPInstanceGlobal ∨
      exists i, l.Eligible i ∧
        Superior (l.offered i).1 l.perPTPInstanceGlobal.systemPriority ∧
        shown l.elect.perPTPInstanceGlobal = l.offered i := by
  rw [shown_elect]
  rcases elect_choice BetterCandidate
      (fun port =>
        offersGrandmaster l.perPTPInstanceGlobal.thisClock port = true)
      portCandidate (List.ofFn l.perPortGlobal)
      (systemCandidate l.perPTPInstanceGlobal) with
    hkeep | ⟨port, hmem, hoffers, hbetter, hvalue⟩
  · exact Or.inl hkeep
  · obtain ⟨i, rfl⟩ := List.mem_ofFn.mp hmem
    obtain ⟨heligible, hoffered⟩ := eligible_of_superior hport hoffers hbetter
    rw [hoffered] at hvalue hbetter
    exact Or.inr ⟨i, heligible, hbetter, hvalue⟩

theorem Eligible.not_superior {i : PortIndex} (h : l.Eligible i) :
    ¬ Superior (l.offered i).1 l.elect.perPTPInstanceGlobal.gmPriority := by
  obtain ⟨hoffers, hoffered⟩ := h.offers
  have hunbeaten := elect_unbeaten BetterCandidate
    (fun port =>
      offersGrandmaster l.perPTPInstanceGlobal.thisClock port = true)
    portCandidate (List.ofFn l.perPortGlobal)
    (systemCandidate l.perPTPInstanceGlobal) (l.perPortGlobal i)
    (List.mem_ofFn.mpr ⟨i, rfl⟩) hoffers
  rw [← shown_elect, hoffered, betterCandidate_shown] at hunbeaten
  exact hunbeaten

theorem selected_elect (h : Configured config l)
    (hport : forall i, (sourceKnowledge l.perPTPInstanceGlobal.thisClock).Sound
      (l.perPortGlobal i)) : Selected l l.elect where
  process := elect_process l
  reselect p := by
    have htree := reselect_of_unselected (unselected_updtStatesTree
      (PortStateSelectionSM.clearReselectTree l.perPTPInstanceGlobal)
      l.perPortGlobal)
    rw [elect_perPTPInstanceGlobal, setSelectedTree_reselect, tree, htree]
    rfl
  selected p := by
    rw [elect_perPTPInstanceGlobal]
    rfl
  candidate := by
    rcases shown_elect_choice hport with hsystem | ⟨i, hi, _, hwinner⟩
    · rw [hsystem]
      exact .system
    · rw [hwinner]
      exact .port i hi
  best c hc := by
    cases hc with
    | port i hi => exact hi.not_superior
    | system =>
        intro hbeaten
        rcases shown_elect_choice hport with hsystem | ⟨i, _, hbetter, hwinner⟩
        · rw [gmPriority_of_shown hsystem] at hbeaten
          exact Std.Irrefl.irrefl (r := Superior) _ hbeaten
        · rw [gmPriority_of_shown hwinner] at hbeaten
          exact Std.Irrefl.irrefl (r := Superior) _
            (IsTrans.trans (r := Superior) _ _ _ hbeaten hbetter)
  tie hnone := by
    rcases shown_elect_choice hport with hsystem | ⟨i, hi, hbetter, _⟩
    · exact hsystem
    · exact absurd hbetter (hnone i hi)
  steps := by
    rw [elect_perPTPInstanceGlobal, setSelectedTree_masterStepsRemoved,
      setSelectedTree_gmPriority]
    exact masterStepsRemoved_tree l
  master i := by
    rw [elect_perPTPInstanceGlobal, elect_perPortGlobal,
      setSelectedTree_gmPriority, h.thisClock]
    exact masterPriority_tree h i

theorem firstElection_sourceKnowledge (config : Config) (memory : LoopMemory) :
    FirstElection config memory
      (sourceKnowledge config.systemIdentity.clockIdentity) :=
  fun _ => rfl

/-- In every run a selection that a port asks for elects the best vector. -/
theorem runSelection_selected (config : Config) (memory : LoopMemory)
    (es : List Event) (hmode : config.externalPortConfigurationEnabled = false)
    (hruns : (after config memory es).Runs)
    (hasked : (after config memory es).Asked) :
    Selected (after config memory es) (after config memory es).runSelection := by
  have hinformed := informed_after
    (electable_sourceKnowledge config.systemIdentity)
    (firstElection_sourceKnowledge config memory) hmode
    (fun e _ => by cases e <;> exact trivial) hruns
  have hconfigured := hinformed.elected.configured
  rw [runSelection_asked hinformed.elected.selection
    (hconfigured.enabled hruns) (hinformed.not_external hmode) hasked]
  refine selected_elect hconfigured fun i => ?_
  rw [hconfigured.thisClock]
  exact (hinformed.information i).sound

/-- The information of port 1 is too old once no further message arrives. -/
def silence : List Event :=
  firstAnnounce ++ [.timeout 0 distantTime]

theorem runSelection_selected_silence :
    Selected (after bmcaConfig default silence)
      (after bmcaConfig default silence).runSelection := by
  refine runSelection_selected bmcaConfig default silence rfl ?_ ⟨1, ?_⟩
  · change (after bmcaConfig default silence).process.stop = none
    decide +kernel
  · decide +kernel

/-!
## Executions of `updtStatesTree`

Every execution works on the variables of the loop, at the first selection or
at a later one.
-/

end AnnounceLoop

namespace PortStateSelectionMachine

open PortStateSelectionSM

theorem selections_rests {m : PortStateSelectionMachine} (h : m.Rests)
    (henabled : Enabled m.vars) {v : PortStateSelectionSM}
    (hv : v ∈ m.selections) : v = m.vars := by
  have hentered := entered_of_mem_selections hv
  unfold entered at hentered
  rw [henabled.ready] at hentered
  obtain ⟨hstate, hq, _, _⟩ := h
  rcases m with ⟨state, lastState, vars⟩
  change state = _ at hstate
  change lastState = some state at hq
  subst hstate hq
  rcases (program.mem_entries_succ _).mp hentered with
    ⟨hne, _⟩ | ⟨hpass, hentered⟩
  · exact absurd rfl hne
  · have hnext : vars.stateSelectionStateTransition =
        .reenter .stateSelection ∨
        vars.stateSelectionStateTransition = .goto .stateSelection :=
      ite_eq_or_eq _ _ _
    rcases hnext with hnext | hnext
    · have hreenter : program.pass
          { state := .stateSelection, lastState := some .stateSelection,
            vars := vars } =
          { state := .stateSelection, lastState := none, vars := vars } :=
        Program.pass_reenter program henabled.runs (congrArg Except.ok hnext)
      rw [hreenter] at hentered
      rcases (program.mem_entries_succ _).mp hentered with
        ⟨_, _, hv⟩ | ⟨hpass', _⟩
      · exact hv
      · refine absurd ?_ hpass'
        have hstay : program.pass
            { state := .stateSelection, lastState := none, vars := vars } =
            { state := .stateSelection, lastState := some .stateSelection,
              vars := vars.stateSelectionAction } :=
          Program.pass_goto program henabled.runs
            (transition_stateSelectionAction vars)
        rw [hstay]
        rfl
    · have hstay : program.pass
          { state := .stateSelection, lastState := some .stateSelection,
            vars := vars } =
          { state := .stateSelection, lastState := some .stateSelection,
            vars := vars } :=
        Program.pass_goto program henabled.runs (congrArg Except.ok hnext)
      rw [hstay] at hpass
      exact absurd rfl hpass

theorem selections_initial {memory : PortStateSelectionSM}
    (h : Enabled memory) {v : PortStateSelectionSM}
    (hv : v ∈ (initial memory).selections) :
    v = (initial memory).vars.initBridgeAction := by
  have hentered := entered_of_mem_selections hv
  have henabled : Enabled (initial memory).vars := ⟨h.runs, h.begun, h.enabled⟩
  unfold entered at hentered
  rw [henabled.ready] at hentered
  have hinit : program.pass (initial memory) =
      { state := .initBridge, lastState := some .init,
        vars := (initial memory).vars } :=
    Program.pass_goto program h.runs rfl
  have hbridge : program.pass
      { state := .initBridge, lastState := some .init,
        vars := (initial memory).vars } =
      { state := .stateSelection, lastState := some .initBridge,
        vars := (initial memory).vars.initBridgeAction } :=
    Program.pass_goto program h.runs rfl
  have hstay : program.pass
      { state := .stateSelection, lastState := some .initBridge,
        vars := (initial memory).vars.initBridgeAction } =
      { state := .stateSelection, lastState := some .stateSelection,
        vars :=
          (initial memory).vars.initBridgeAction.stateSelectionAction } :=
    Program.pass_goto program h.runs (transition_stateSelectionAction _)
  rcases (program.mem_entries_succ _).mp hentered with
    ⟨_, hv, _⟩ | ⟨_, hentered⟩
  · cases hv
  · rw [hinit] at hentered
    rcases (program.mem_entries_succ _).mp hentered with
      ⟨_, hv, _⟩ | ⟨_, hentered⟩
    · cases hv
    · rw [hbridge] at hentered
      rcases (program.mem_entries_succ _).mp hentered with
        ⟨_, _, hv⟩ | ⟨hpass, _⟩
      · exact hv
      · rw [hstay] at hpass
        exact absurd rfl hpass

end PortStateSelectionMachine

namespace AnnounceLoop

/-- The loop when an event comes to the selection of the port states. -/
def selecting (l : AnnounceLoop) (e : Event) : AnnounceLoop :=
  match e with
  | .announce i ts message => l.thenDo (recvAnnounce i ts message)
  | _ => l

theorem informed_selecting {K : Knowledge}
    (hmode : config.externalPortConfigurationEnabled = false)
    (h : l.Runs -> Informed config K l) {e : Event} (hheard : e.Hears K.heard)
    (hruns : (l.selecting e).Runs) : Informed config K (l.selecting e) := by
  cases e with
  | announce i ts message =>
      refine thenDo_keeps h (fun h _ hruns => ?_) hruns
      exact h.recvAnnounce (h.not_external hmode) hheard hruns
  | timeout i ts => exact h hruns
  | select => exact h hruns
  | syncReceipt time => exact h hruns

/-- An execution at a later event works on the variables of the loop. -/
theorem selectionsOf_eq {K : Knowledge} {e : Event}
    (hmode : config.externalPortConfigurationEnabled = false)
    (h : l.Runs -> Informed config K l) (hheard : e.Hears K.heard)
    {v : PortStateSelectionSM} (hv : v ∈ selectionsOf l e) :
    (l.selecting e).Runs ∧ Informed config K (l.selecting e) ∧
      v = (l.selecting e).loadPortStateSelection := by
  have hmem : v ∈ (l.selecting e).selections := by
    cases e with
    | announce i ts message => exact hv
    | timeout i ts => cases hv
    | select => exact hv
    | syncReceipt time => cases hv
  unfold selections at hmem
  split at hmem
  · cases hmem
  case isFalse hends =>
    have hruns : (l.selecting e).Runs := by
      by_contra hstop
      exact hends (Or.inl hstop)
    have hinformed := informed_selecting hmode h hheard hruns
    refine ⟨hruns, hinformed, ?_⟩
    exact PortStateSelectionMachine.selections_rests
      hinformed.elected.selection
      (hinformed.elected.configured.enabled hruns) hmem

theorem initialSelections_eq {v : PortStateSelectionSM}
    (hv : v ∈ initialSelections config memory) :
    v = (bridged config memory).loadPortStateSelection := by
  unfold initialSelections at hv
  split at hv
  · cases hv
  · exact PortStateSelectionMachine.selections_initial ⟨rfl, rfl, rfl⟩ hv

theorem Executed.bmca {v : PortStateSelectionSM}
    (h : Executed config memory v) :
    config.externalPortConfigurationEnabled = false := by
  rw [← Bool.not_eq_true]
  intro hmode
  cases h with
  | initially hv =>
      have hexternal : (initial config memory).External := hmode
      unfold initialSelections at hv
      rw [if_pos hexternal] at hv
      cases hv
  | later es e hv =>
      have hempty : forall l : AnnounceLoop, Configured config l ->
          l.selections = [] := by
        intro l hl
        unfold selections
        rw [if_pos (Or.inr (hl.external_iff.mpr hmode))]
      have hconfigured := configured_after config memory es
      cases e with
      | timeout i ts => cases hv
      | announce i ts message =>
          have hreceived : Configured config
              ((after config memory es).thenDo (recvAnnounce i ts message)) :=
            thenDo_preserves hconfigured
              (kept_configured config (.announce i ts message)).recvAnnounce
          change v ∈ AnnounceLoop.selections _ at hv
          rw [hempty _ hreceived] at hv
          cases hv
      | select =>
          change v ∈ AnnounceLoop.selections _ at hv
          rw [hempty _ hconfigured] at hv
          cases hv
      | syncReceipt time => cases hv

end AnnounceLoop

end TimeSync
end Ziggo
