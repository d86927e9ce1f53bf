import Ziggo.TimeSync.AnnounceLoop.Invariant

/-!
# Port roles in BMCA mode

The executions of `updtStatesTree` in the runs of the main loop.  What each of
them starts from decides whether the instance has one slave port afterwards.
-/

namespace Ziggo
namespace TimeSync

open Foundation TsnDrivers

namespace PortStateSelectionMachine

/-- The variables from which a call executes `updtStatesTree`. -/
def selections (m : PortStateSelectionMachine) : List PortStateSelectionSM :=
  m.entered.filterMap fun entry =>
    if entry.1 = .stateSelection then some entry.2 else none

theorem entered_of_mem_selections {m : PortStateSelectionMachine}
    {v : PortStateSelectionSM} (h : v ∈ m.selections) :
    (.stateSelection, v) ∈ m.entered := by
  obtain ⟨⟨state, v'⟩, hmem, hv⟩ := List.mem_filterMap.mp h
  dsimp only at hv
  split at hv
  case isTrue hstate =>
    cases hv
    rwa [hstate] at hmem
  · cases hv

end PortStateSelectionMachine

namespace AnnounceLoop

/-- The executions in one statement of the loop. -/
def selections (l : AnnounceLoop) : List PortStateSelectionSM :=
  if l.process.stop ≠ none ∨ l.External then
    []
  else
    PortStateSelectionMachine.selections
      { l.portStateSelectionSm with vars := l.loadPortStateSelection }

/-- The executions that an event causes. -/
def selectionsOf (l : AnnounceLoop) (e : Event) : List PortStateSelectionSM :=
  match e with
  | .announce i ts message =>
      (l.thenDo (recvAnnounce i ts message)).selections
  | .select => l.selections
  | _ => []

/-- The executions while the machines are initialized. -/
def initialSelections (config : Config) (memory : LoopMemory) :
    List PortStateSelectionSM :=
  if (initial config memory).External then
    []
  else
    PortStateSelectionMachine.selections
      (.initial (initial config memory).loadPortStateSelection)

/-- The executions of `updtStatesTree` in the runs of the loop. -/
inductive Executed (config : Config) (memory : LoopMemory) :
    PortStateSelectionSM -> Prop where
  | initially {v} (h : v ∈ initialSelections config memory) :
      Executed config memory v
  | later {v} (es : List Event) (e : Event)
      (h : v ∈ selectionsOf (after config memory es) e) :
      Executed config memory v

/-- No port of an execution measures asymmetry. -/
def Symmetric (v : PortStateSelectionSM) : Prop :=
  forall i, (v.perPortGlobalArray i).asymmetryMeasurementMode = false

variable {config : Config} {memory : LoopMemory}

theorem Configured.symmetric_entered {l : AnnounceLoop}
    (h : Configured config l) {m : PortStateSelectionMachine}
    (hm : PortStateSelectionMachine.CallFrame l.loadPortStateSelection m.vars)
    {v : PortStateSelectionSM} (hv : v ∈ m.selections) : Symmetric v := by
  intro i
  have hframe := PortStateSelectionMachine.callFrame_entered hm
    (PortStateSelectionMachine.entered_of_mem_selections hv)
  have hport := (hframe.port i).trans (h.port i)
  exact congrArg PortSettings.asymmetryMeasurementMode hport

theorem Configured.symmetric_selections {l : AnnounceLoop}
    (h : Configured config l) {v : PortStateSelectionSM}
    (hv : v ∈ l.selections) : Symmetric v := by
  unfold selections at hv
  split at hv
  · cases hv
  · refine h.symmetric_entered ?_ hv
    exact ⟨rfl, fun _ => rfl, fun h => h, rfl, fun h => h⟩

theorem Executed.symmetric {v : PortStateSelectionSM}
    (h : Executed config memory v) : Symmetric v := by
  cases h with
  | initially hv =>
      unfold initialSelections at hv
      split at hv
      · cases hv
      · exact (assigned_initial config memory).configured.symmetric_entered
          (PortStateSelectionMachine.callFrame_initial _) hv
  | later es e hv =>
      have hconfigured := configured_after config memory es
      cases e with
      | timeout i ts => cases hv
      | announce i ts message =>
          have hreceived : Configured config
              ((after config memory es).thenDo (recvAnnounce i ts message)) :=
            thenDo_preserves hconfigured
              (kept_configured config (.announce i ts message)).recvAnnounce
          exact hreceived.symmetric_selections hv
      | select => exact hconfigured.symmetric_selections hv
      | syncReceipt time => cases hv

/-- What `updtStatesTree` computes in an execution. -/
def computed (v : PortStateSelectionSM) : PerPTPInstanceGlobal :=
  (updtStatesTree
    (PortStateSelectionSM.clearReselectTree v.perPTPInstanceGlobal)
    v.perPortGlobalArray).1

/--
An execution gives the instance one slave port if and only if the information of
its ports is unambiguous.
-/
theorem executed_oneSlave_iff {v : PortStateSelectionSM}
    (h : Executed config memory v) :
    OneSlave (computed v) v.perPortGlobalArray <->
      Unambiguous
        (PortStateSelectionSM.clearReselectTree v.perPTPInstanceGlobal)
        v.perPortGlobalArray :=
  oneSlave_iff_unambiguous _ _ h.symmetric

def bmcaConfig : Config where
  systemIdentity := (filledVector 0x80).rootSystemIdentity
  ptpPorts _ := .masterPort
  externalPortConfigurationEnabled := false

/-- An `Announce` of a better grandmaster, sent by the grandmaster itself. -/
def betterAnnounce : PTPMsgAnnounce :=
  { (default : PTPMsgAnnounce) with
    grandmasterPriority1 := 1 }

/-- A time that the runs below do not reach. -/
def distantTime : UScaledNs where
  subns := 0
  nsec := 1000000000000
  nsecMsb := 0

/-- The first two ports hold their own information, and port 1 then a better one. -/
def firstAnnounce : List Event :=
  [.syncReceipt distantTime, .select, .timeout 0 oneSecond,
    .timeout 1 oneSecond, .announce 0 oneSecond betterAnnounce]

/-- The executions once port 2 receives the same `Announce` as port 1. -/
def repeatedSelections : List PortStateSelectionSM :=
  selectionsOf (after bmcaConfig default firstAnnounce)
    (.announce 1 oneSecond betterAnnounce)

theorem repeatedSelections_pos : 0 < repeatedSelections.length := by
  decide +kernel

theorem executed_repeatedSelections :
    Executed bmcaConfig default
      (repeatedSelections.get ⟨0, repeatedSelections_pos⟩) :=
  .later _ _ (List.get_mem _ _)

theorem repeatedSelections_iff :
    OneSlave
        (computed (repeatedSelections.get ⟨0, repeatedSelections_pos⟩))
        (repeatedSelections.get ⟨0, repeatedSelections_pos⟩).perPortGlobalArray <->
      Unambiguous
        (PortStateSelectionSM.clearReselectTree
          (repeatedSelections.get
            ⟨0, repeatedSelections_pos⟩).perPTPInstanceGlobal)
        (repeatedSelections.get
          ⟨0, repeatedSelections_pos⟩).perPortGlobalArray :=
  executed_oneSlave_iff executed_repeatedSelections

/-- Both ports become slave ports. -/
theorem repeated_announce_two_slaves :
    ¬ forall (config : Config) (memory : LoopMemory) (v : PortStateSelectionSM),
      Executed config memory v -> OneSlave (computed v) v.perPortGlobalArray := by
  intro h
  have honeSlave := h bmcaConfig default _ executed_repeatedSelections
  have hfirst :
      (computed (repeatedSelections.get
        ⟨0, repeatedSelections_pos⟩)).selectedState 1 = .slavePort := by
    decide +kernel
  have hsecond :
      (computed (repeatedSelections.get
        ⟨0, repeatedSelections_pos⟩)).selectedState 2 = .slavePort := by
    decide +kernel
  exact absurd (honeSlave.unique.unique hfirst hsecond) (by decide)

end AnnounceLoop

end TimeSync
end Ziggo
