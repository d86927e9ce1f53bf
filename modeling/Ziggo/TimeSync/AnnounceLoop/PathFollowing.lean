import Ziggo.TimeSync.AnnounceLoop.Acceptances

/-!
# Path traces in the runs of the main loop

In BMCA mode the path trace is to be the path of the message that the slave port
has accepted last, with the own clock at its end.  A port that stays the slave
port when it accepts another path does not update the path trace.
-/

namespace Ziggo
namespace TimeSync

open Foundation TsnDrivers

/-- The path trace is the path that the slave ports have accepted last. -/
structure FollowsPath (accepted : PortIndex -> Option PTPMsgAnnounce)
    (u : PerPTPInstanceGlobal) : Prop where
  slave : forall i : PortIndex, u.selectedState i.succ = .slavePort ->
    exists message, accepted i = some message ∧
      tracedPath u = extendedPath u.thisClock message.path
  grandmaster : u.selectedState 0 = .slavePort ∨
      u.gmPriority.rootSystemIdentity.clockIdentity = u.thisClock ->
    tracedPath u = [u.thisClock]

theorem FollowsPath.length_tracedPath
    {accepted : PortIndex -> Option PTPMsgAnnounce} {u : PerPTPInstanceGlobal}
    (h : FollowsPath accepted u) {i : PortIndex}
    (hslave : u.selectedState i.succ = .slavePort) {count : Nat}
    (hpath : (accepted i).map (fun message => message.path.length) =
      some count) (hroom : count < maxPathTraceN) :
    (tracedPath u).length = count + 1 := by
  obtain ⟨message, hmessage, htrace⟩ := h.slave i hslave
  rw [hmessage] at hpath
  have hlength : message.path.length = count := Option.some.inj hpath
  rw [← hlength] at hroom
  rw [htrace, extendedPath, if_pos hroom, List.length_append, hlength]
  rfl

section Following

variable (accepted : PortIndex -> Option PTPMsgAnnounce)
  (g : PerPTPInstanceGlobal) (ports : PerPortGlobalArray)

/-- The port has received a vector that names the instance as grandmaster. -/
def NamesInstance (i : PortIndex) : Prop :=
  (gmPathPriority (ports i)).rootSystemIdentity.clockIdentity = g.thisClock

/--
The information from which `updtStatesTree` starts leads to the right path.  A
port that leads has accepted a message.  If this message names the instance, its
path is empty.  Otherwise its path is the one that the last new slave port has
recorded, or where no slave port is new, the one that the path trace holds.
-/
structure Followable : Prop where
  accepted : forall i, Leads g ports i -> accepted i ≠ none
  own : forall i, Leads g ports i -> NamesInstance g ports i ->
    heldPath (ports i) = []
  kept : forall i, Leads g ports i -> ¬ NamesInstance g ports i ->
    (forall j, ¬ Promoted g ports j) ->
      tracedPath g = extendedPath g.thisClock (heldPath (ports i))
  promoted : forall i j, Leads g ports i -> ¬ NamesInstance g ports i ->
    Promoted g ports j -> (forall k, Promoted g ports k -> k ≤ j) ->
      extendedPath g.thisClock (heldPath (ports j)) =
        extendedPath g.thisClock (heldPath (ports i))

variable {accepted g ports}

theorem thisClock_updtStatesTree :
    (updtStatesTree g ports).1.thisClock = g.thisClock :=
  thisClock_of_unselected (unselected_updtStatesTree g ports)

theorem Leads.namesInstance_iff {i : PortIndex} (h : Leads g ports i) :
    NamesInstance g ports i <->
      (electedPriority g ports).rootSystemIdentity.clockIdentity =
        g.thisClock := by
  have helected := (elected_iff_leads g ports).mpr h
  unfold NamesInstance
  rw [helected.right]

/-- The slave ports follow their paths if and only if the information allows it. -/
theorem tracedPath_iff_followable
    (hasymmetry : forall i, (ports i).asymmetryMeasurementMode = false) :
    (forall i, Leads g ports i -> accepted i ≠ none ∧
        tracedPath (updtStatesTree g ports).1 =
          extendedPath g.thisClock (heldPath (ports i))) <->
      Followable accepted g ports := by
  constructor
  · intro h
    constructor
    case accepted => exact fun i hi => (h i hi).left
    case own =>
      intro i hi hown
      have htrace := (h i hi).right
      rw [tracedPath_own g ports (hi.namesInstance_iff.mp hown)] at htrace
      exact extendedPath_eq_singleton.mp htrace.symm
    case kept =>
      intro i hi hother hnone
      have htrace := (h i hi).right
      rwa [tracedPath_kept g ports hasymmetry
        (fun hown => hother (hi.namesInstance_iff.mpr hown)) hnone] at htrace
    case promoted =>
      intro i j hi hother hj hlast
      have htrace := (h i hi).right
      rwa [tracedPath_promoted g ports hasymmetry
        (fun hown => hother (hi.namesInstance_iff.mpr hown)) hj hlast] at htrace
  · intro h i hi
    refine ⟨h.accepted i hi, ?_⟩
    by_cases hown : NamesInstance g ports i
    · rw [tracedPath_own g ports (hi.namesInstance_iff.mp hown),
        h.own i hi hown]
      exact (extendedPath_nil _).symm
    · have helected := mt hi.namesInstance_iff.mpr hown
      by_cases hsome : exists j, Promoted g ports j
      · obtain ⟨j, hj⟩ := hsome
        obtain ⟨k, hk, hlast⟩ := exists_last_promoted g ports hj
        rw [tracedPath_promoted g ports hasymmetry helected hk hlast]
        exact h.promoted i k hi hown hk hlast
      · have hnone := not_exists.mp hsome
        rw [tracedPath_kept g ports hasymmetry helected hnone]
        exact h.kept i hi hown hnone

/--
One execution of `updtStatesTree`, on ports that have recorded the messages they
have accepted last.
-/
theorem followsPath_iff_followable
    (hasymmetry : forall i, (ports i).asymmetryMeasurementMode = false)
    (hrecords : forall i message, (ports i).infoIs = .received ->
      accepted i = some message -> heldPath (ports i) = message.path)
    (hgrandmaster : (forall i, ¬ Leads g ports i) ->
      tracedPath (updtStatesTree g ports).1 = [g.thisClock]) :
    FollowsPath accepted (updtStatesTree g ports).1 <->
      Followable accepted g ports := by
  rw [← tracedPath_iff_followable hasymmetry]
  have hslave : forall i : PortIndex,
      (updtStatesTree g ports).1.selectedState i.succ = .slavePort <->
        Leads g ports i := fun i =>
    (selectedState_updtStatesTree_succ g ports hasymmetry i).trans
      (elected_iff_leads g ports)
  constructor
  · intro h i hi
    obtain ⟨message, hmessage, htrace⟩ := h.slave i ((hslave i).mpr hi)
    rw [thisClock_updtStatesTree] at htrace
    refine ⟨?_, ?_⟩
    · rw [hmessage]
      exact Option.some_ne_none message
    · rw [hrecords i message hi.left hmessage]
      exact htrace
  · intro h
    constructor
    case slave =>
      intro i hi
      have hleads := (hslave i).mp hi
      obtain ⟨hsome, htrace⟩ := h i hleads
      obtain ⟨message, hmessage⟩ := Option.ne_none_iff_exists'.mp hsome
      refine ⟨message, hmessage, ?_⟩
      rw [thisClock_updtStatesTree, htrace,
        hrecords i message hleads.left hmessage]
    case grandmaster =>
      rw [thisClock_updtStatesTree, gmPriority_updtStatesTree]
      rintro (hzero | hown)
      · refine hgrandmaster fun i hi => ?_
        exact (selectedState_updtStatesTree_zero g ports hasymmetry).mp hzero i
          ((elected_iff_leads g ports).mpr hi)
      · exact tracedPath_own g ports hown

end Following

theorem tracedPath_initBridgeAction (sm : PortStateSelectionSM) :
    tracedPath sm.initBridgeAction.perPTPInstanceGlobal =
      [sm.initBridgeAction.perPTPInstanceGlobal.thisClock] := by
  unfold PortStateSelectionSM.initBridgeAction
  refine tracedPath_singleton rfl ?_
  exact Function.update_self (0 : Fin maxPathTraceN)
    sm.perPTPInstanceGlobal.thisClock sm.perPTPInstanceGlobal.pathTrace

namespace AnnounceLoop

variable {config : Config} {memory : LoopMemory} {l : AnnounceLoop}

theorem root_elected_of_informed
    (h : Informed config
      (sourceKnowledge config.systemIdentity.clockIdentity) l)
    (hnone : forall i, ¬ Leads
      (PortStateSelectionSM.clearReselectTree l.perPTPInstanceGlobal)
      l.perPortGlobal i) :
    l.winner.rootSystemIdentity.clockIdentity =
      l.perPTPInstanceGlobal.thisClock := by
  have hconfigured := h.elected.configured
  have hclock := hconfigured.thisClock
  have hwinner : l.winner = l.perPTPInstanceGlobal.systemPriority := by
    by_contra hne
    obtain ⟨i, hbest, _⟩ := exists_best _ _ hne
    obtain ⟨hoffers, hsuperior⟩ := hbest.left
    have hoffers' : offersGrandmaster config.systemIdentity.clockIdentity
        (l.perPortGlobal i) = true := hclock ▸ hoffers
    have hreceived := ((h.information i).sound.offers (fun _ hp => hp) hoffers'
      hsuperior).left
    exact hnone i ⟨hreceived, Or.inl hbest⟩
  rw [hwinner, hconfigured.systemPriority, hclock]
  rfl

/--
The executions of `updtStatesTree` in the runs of the loop, each with the
messages that the ports have accepted most recently.
-/
inductive ExecutedAfter (config : Config) (memory : LoopMemory) :
    (PortIndex -> Option PTPMsgAnnounce) -> PortStateSelectionSM -> Prop where
  | initially {v} (h : v ∈ initialSelections config memory) :
      ExecutedAfter config memory (fun _ => none) v
  | later {v} (es : List Event) (e : Event)
      (h : v ∈ selectionsOf (after config memory es) e) :
      ExecutedAfter config memory (lastAccepted config memory (es ++ [e])) v

theorem ExecutedAfter.executed {accepted : PortIndex -> Option PTPMsgAnnounce}
    {v : PortStateSelectionSM} (h : ExecutedAfter config memory accepted v) :
    Executed config memory v := by
  cases h with
  | initially hv => exact .initially hv
  | later es e hv => exact .later es e hv

/-- At an execution the ports have recorded the messages accepted last. -/
theorem records_selecting
    (hmode : config.externalPortConfigurationEnabled = false)
    (es : List Event) {e : Event} {v : PortStateSelectionSM}
    (hv : v ∈ selectionsOf (after config memory es) e)
    (hruns : ((after config memory es).selecting e).Runs) (i : PortIndex) :
    Records (lastAccepted config memory (es ++ [e]) i)
      (((after config memory es).selecting e).perPortGlobal i) := by
  have hhanded : (after config memory es).selecting e =
      (after config memory es).handed e := by
    cases e with
    | timeout j ts => cases hv
    | announce j ts message => rfl
    | select => rfl
    | syncReceipt time => cases hv
  have hl : (after config memory es).Runs := by
    cases e with
    | announce j ts message => exact (runs_of_thenDo hruns).left
    | _ => exact hruns
  have hexternal := (informed_source hmode es hl).not_external hmode
  rw [hhanded] at hruns ⊢
  rw [lastAccepted_concat]
  exact records_handed hexternal (records_after hmode es i hl) hruns

/--
After an execution the path trace is the one that the slave ports have accepted
last, if and only if the information that the execution started from allows it.
-/
theorem executed_followsPath_iff
    {accepted : PortIndex -> Option PTPMsgAnnounce} {v : PortStateSelectionSM}
    (h : ExecutedAfter config memory accepted v) :
    FollowsPath accepted (computed v) <->
      Followable accepted
        (PortStateSelectionSM.clearReselectTree v.perPTPInstanceGlobal)
        v.perPortGlobalArray := by
  have hmode := h.executed.bmca
  refine followsPath_iff_followable h.executed.symmetric ?_ ?_
  · intro i message hreceived haccepted
    cases h with
    | initially hv => cases haccepted
    | later es e hv =>
        obtain ⟨hruns, _, rfl⟩ := selectionsOf_eq hmode
          (informed_source hmode es) (hears_sourceKnowledge _ e) hv
        obtain ⟨message', haccepted', hheld⟩ :=
          records_selecting hmode es hv hruns i hreceived
        cases haccepted'.symm.trans haccepted
        exact hheld
  · intro hnone
    cases h with
    | initially hv =>
        cases initialSelections_eq hv
        by_cases hown : (electedPriority
            (PortStateSelectionSM.clearReselectTree
              (bridged config memory).perPTPInstanceGlobal)
            (bridged config memory).perPortGlobal).rootSystemIdentity.clockIdentity =
              config.systemIdentity.clockIdentity
        · exact tracedPath_own _ _ hown
        · have htrace := tracedPath_kept
            (PortStateSelectionSM.clearReselectTree
              (bridged config memory).perPTPInstanceGlobal)
            (bridged config memory).perPortGlobal
            (configured_bridged config memory).symmetric hown
            (fun i hi => hnone i hi.left)
          exact htrace.trans (tracedPath_initBridgeAction _)
    | later es e hv =>
        obtain ⟨_, hinformed, rfl⟩ := selectionsOf_eq hmode
          (informed_source hmode es) (hears_sourceKnowledge _ e) hv
        exact tracedPath_own _ _ (root_elected_of_informed hinformed hnone)

/-- An `Announce` of a grandmaster with the given priority, over a path. -/
def announceOver (priority1 : UInt8) (count : UInt16) : PTPMsgAnnounce :=
  { (default : PTPMsgAnnounce) with
    grandmasterPriority1 := priority1
    pathTraceTLV :=
      { tlvType := 8, lengthField := count * 8, pathSequence := default } }

/-- Port 1 becomes the slave port of a grandmaster next to it. -/
def neighbourEvents : List Event :=
  [.syncReceipt distantTime, .select, .timeout 0 oneSecond,
    .announce 0 oneSecond (announceOver 2 0)]

/-- A better grandmaster then turns up on port 1, one bridge away. -/
def betterEvent : Event :=
  .announce 0 oneSecond (announceOver 1 1)

def betterSelections : List PortStateSelectionSM :=
  selectionsOf (after bmcaConfig default neighbourEvents) betterEvent

theorem betterSelections_pos : 0 < betterSelections.length := by
  decide +kernel

theorem executedAfter_better :
    ExecutedAfter bmcaConfig default
      (lastAccepted bmcaConfig default (neighbourEvents ++ [betterEvent]))
      (betterSelections.get ⟨0, betterSelections_pos⟩) :=
  .later _ _ (List.get_mem _ _)

theorem betterSelections_followsPath_iff :
    FollowsPath
        (lastAccepted bmcaConfig default (neighbourEvents ++ [betterEvent]))
        (computed (betterSelections.get ⟨0, betterSelections_pos⟩)) <->
      Followable
        (lastAccepted bmcaConfig default (neighbourEvents ++ [betterEvent]))
        (PortStateSelectionSM.clearReselectTree
          (betterSelections.get ⟨0, betterSelections_pos⟩).perPTPInstanceGlobal)
        (betterSelections.get ⟨0, betterSelections_pos⟩).perPortGlobalArray :=
  executed_followsPath_iff executedAfter_better

/-- Port 1 remains the slave port, and the path trace is the old one. -/
theorem better_path_not_followed :
    ¬ forall (config : Config) (memory : LoopMemory)
        (accepted : PortIndex -> Option PTPMsgAnnounce)
        (v : PortStateSelectionSM),
      ExecutedAfter config memory accepted v ->
        FollowsPath accepted (computed v) := by
  intro h
  have hfollows := h bmcaConfig default _ _ executedAfter_better
  have hslave : (computed (betterSelections.get
      ⟨0, betterSelections_pos⟩)).selectedState (Fin.succ 0) =
        .slavePort := by
    decide +kernel
  have hpath : (lastAccepted bmcaConfig default
      (neighbourEvents ++ [betterEvent]) 0).map (fun message =>
        message.path.length) = some 1 := by
    decide +kernel
  have htraced : (tracedPath (computed (betterSelections.get
      ⟨0, betterSelections_pos⟩))).length = 1 := by
    decide +kernel
  have hlength := hfollows.length_tracedPath hslave hpath (by decide)
  exact absurd (htraced.symm.trans hlength) (by decide)

end AnnounceLoop

end TimeSync
end Ziggo
