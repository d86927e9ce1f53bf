import Ziggo.TimeSync.AnnounceLoop.Frames

/-!
# Invariants of the main loop

A property of the variables of the loop holds in every run if each machine
keeps it in every call.  The settings of the loop are such a property.
-/

namespace Ziggo
namespace TimeSync

open Foundation TsnDrivers

namespace AnnounceLoop

/-- The path of a received message fits the array of a port. -/
def Event.Short : Event -> Prop
  | .announce _ _ message => message.pathTraceTLV.lengthField.toNat ≤ 64
  | _ => True

/-- The path of a message on the slave port leaves room for one more clock. -/
def Event.Spares (l : AnnounceLoop) : Event -> Prop
  | .announce i _ message =>
      (l.loadPortAnnounceInformationExt i).isSlavePort = true ->
        message.pathCount < maxPathTraceN
  | _ => True

/-- The process has not ended. -/
def Runs (l : AnnounceLoop) : Prop :=
  l.process.stop = none

/-- What the calls that an event causes keep. -/
structure Kept (e : Event) (I : AnnounceLoop -> Prop) : Prop where
  selection : forall l m, I l -> l.Runs -> ¬ l.External ->
    PortStateSelectionMachine.CallFrame l.loadPortStateSelection m.vars ->
      I (l.storePortStateSelection m)
  information : forall l i m, I l -> l.Runs -> ¬ l.External ->
    PortAnnounceInformationMachine.CallFrame
      ((l.loadPortAnnounceInformation i).PathFits ∧ e.Short)
      (l.loadPortAnnounceInformation i) m.vars ->
      I (l.storePortAnnounceInformation i m)
  informationExt : forall l i m, I l -> l.Runs -> l.External ->
    PortAnnounceInformationExtMachine.CallFrame
      ((l.loadPortAnnounceInformationExt i).PathFits ∧ e.Spares l)
      (l.loadPortAnnounceInformationExt i) m.vars ->
      I (l.storePortAnnounceInformationExt i m)
  transmit : forall l i m, I l -> l.Runs ->
    PortAnnounceTransmitMachine.CallFrame (l.loadPortAnnounceTransmit i)
      m.vars -> I (l.storePortAnnounceTransmit i m)
  syncReceipt : forall l time, I l -> I (l.setSyncReceiptTimeoutTime time)

section Steps

variable {I : AnnounceLoop -> Prop} {e : Event} {l : AnnounceLoop}

theorem thenDo_preserves {statement : AnnounceLoop -> AnnounceLoop}
    (h : I l) (hstatement : I l -> l.Runs -> I (statement l)) :
    I (l.thenDo statement) := by
  unfold thenDo
  split
  · exact h
  case isFalse hruns => exact hstatement h (not_not.mp hruns)

theorem thenDo_runs (h : l.Runs)
    (statement : AnnounceLoop -> AnnounceLoop) :
    l.thenDo statement = statement l :=
  if_neg (not_not.mpr h)

theorem thenDo_ended (h : ¬ l.Runs)
    (statement : AnnounceLoop -> AnnounceLoop) : l.thenDo statement = l :=
  if_pos h

theorem Kept.runSelection (hkept : Kept e I) (h : I l) (hruns : l.Runs) :
    I l.runSelection := by
  unfold AnnounceLoop.runSelection
  split
  · exact h
  case isFalse hmode =>
    refine hkept.selection l _ h hruns hmode ?_
    refine PortStateSelectionMachine.callFrame_run ?_
    exact ⟨rfl, fun _ => rfl, fun h => h, rfl, fun h => h⟩

theorem Kept.runInformation (hkept : Kept e I) (h : I l) (hruns : l.Runs)
    (i : PortIndex) (ts : UScaledNs) : I (l.runInformation i ts) := by
  unfold AnnounceLoop.runInformation
  split
  · exact h
  case isFalse hmode =>
    refine hkept.information l i _ h hruns hmode ?_
    refine PortAnnounceInformationMachine.callFrame_run ?_ ts
    exact ⟨rfl, rfl, rfl, rfl, fun h => h.left, fun _ h => h⟩

theorem callFrame_runTransmit (l : AnnounceLoop) (i : PortIndex)
    (ts : UScaledNs) :
    PortAnnounceTransmitMachine.CallFrame (l.loadPortAnnounceTransmit i)
      (PortAnnounceTransmitMachine.run
        { l.portAnnounceTransmitSms i with
          vars := l.loadPortAnnounceTransmit i } ts).vars :=
  PortAnnounceTransmitMachine.callFrame_run
    (m := { l.portAnnounceTransmitSms i with
      vars := l.loadPortAnnounceTransmit i })
    (PortAnnounceTransmitMachine.callFrame_refl _) ts

theorem Kept.runTransmit (hkept : Kept e I) (h : I l) (hruns : l.Runs)
    (i : PortIndex) (ts : UScaledNs) : I (l.runTransmit i ts) := by
  unfold AnnounceLoop.runTransmit
  exact hkept.transmit l i _ h hruns (callFrame_runTransmit l i ts)

theorem Kept.recvAnnounce {i : PortIndex} {ts : UScaledNs}
    {message : PTPMsgAnnounce} (hkept : Kept (.announce i ts message) I)
    (h : I l) (hruns : l.Runs) : I (l.recvAnnounce i ts message) := by
  unfold AnnounceLoop.recvAnnounce
  split
  case isTrue hmode =>
    refine hkept.informationExt l i _ h hruns hmode ?_
    have hframe := PortAnnounceInformationExtMachine.callFrame_recvAnnounce
      { l.portAnnounceInformationExtSms i with
        vars := l.loadPortAnnounceInformationExt i } message
    exact ⟨hframe.global, hframe.selectedState, hframe.masterStepsRemoved,
      hframe.port, hframe.trace, hframe.sent,
      fun hfits => hframe.pathFits hfits.right,
      fun hfits => hframe.inBounds hfits.right⟩
  case isFalse hmode =>
    refine hkept.information l i _ h hruns hmode ?_
    have hframe := PortAnnounceInformationMachine.callFrame_recvAnnounce
      { l.portAnnounceInformationSms i with
        vars := l.loadPortAnnounceInformation i } ts message
    exact ⟨hframe.global, hframe.port, hframe.trace, hframe.sent,
      fun hfits => hframe.pathFits hfits.right,
      fun hfits => hframe.inBounds hfits.right⟩

theorem Kept.step (hkept : Kept e I) (h : I l) : I (step l e) := by
  cases e with
  | timeout i ts =>
      refine thenDo_preserves ?_ fun h hruns => hkept.runTransmit h hruns i ts
      exact thenDo_preserves h fun h hruns => hkept.runInformation h hruns i ts
  | announce i ts message =>
      refine thenDo_preserves ?_ hkept.runSelection
      exact thenDo_preserves h hkept.recvAnnounce
  | select =>
      exact thenDo_preserves h hkept.runSelection
  | syncReceipt time =>
      exact thenDo_preserves h fun h _ => hkept.syncReceipt l time h

end Steps

/-!
## Initialization
-/

/-- What the calls that initialize the machines keep. -/
structure KeptInit (I : AnnounceLoop -> Prop) : Prop where
  selection : forall l m, I l -> ¬ l.External ->
    PortStateSelectionMachine.CallFrame l.loadPortStateSelection m.vars ->
      I (l.storePortStateSelection m)
  information : forall l i m, I l -> ¬ l.External ->
    PortAnnounceInformationMachine.CallFrame True
      (l.loadPortAnnounceInformation i) m.vars ->
      I (l.storePortAnnounceInformation i m)
  informationExt : forall l i m, I l -> l.External ->
    PortAnnounceInformationExtMachine.CallFrame True
      (l.loadPortAnnounceInformationExt i) m.vars ->
      I (l.storePortAnnounceInformationExt i m)
  transmit : forall l i m, I l ->
    PortAnnounceTransmitMachine.CallFrame (l.loadPortAnnounceTransmit i)
      m.vars -> I (l.storePortAnnounceTransmit i m)

section Start

variable {I : AnnounceLoop -> Prop} {l : AnnounceLoop}

theorem KeptInit.initSelection (hkept : KeptInit I) (h : I l) :
    I l.initSelection := by
  unfold AnnounceLoop.initSelection
  split
  · exact h
  case isFalse hmode =>
    refine hkept.selection l _ h hmode ?_
    exact PortStateSelectionMachine.callFrame_run
      (PortStateSelectionMachine.callFrame_initial _)

theorem KeptInit.initInformation (hkept : KeptInit I) (h : I l)
    (i : PortIndex) : I (l.initInformation i) := by
  unfold AnnounceLoop.initInformation
  split
  case isTrue hmode =>
    exact hkept.informationExt l i _ h hmode
      (PortAnnounceInformationExtMachine.callFrame_init _)
  case isFalse hmode =>
    exact hkept.information l i _ h hmode
      (PortAnnounceInformationMachine.callFrame_init _)

theorem KeptInit.initTransmit (hkept : KeptInit I) (h : I l) (i : PortIndex) :
    I (l.initTransmit i) :=
  hkept.transmit l i _ h (PortAnnounceTransmitMachine.callFrame_init _)

theorem KeptInit.initPort (hkept : KeptInit I) (h : I l) (i : PortIndex) :
    I (l.initPort i) := by
  refine thenDo_preserves ?_ fun h _ => hkept.initTransmit h i
  exact thenDo_preserves h fun h _ => hkept.initInformation h i

theorem runs_of_initPort {i : PortIndex} (h : (l.initPort i).Runs) :
    l.Runs := by
  by_contra hl
  unfold AnnounceLoop.initPort at h
  rw [thenDo_ended hl, thenDo_ended hl] at h
  exact hl h

theorem KeptInit.start (hkept : KeptInit I) {config : Config}
    {memory : LoopMemory} (h : I (initial config memory)) :
    I (start config memory) := by
  refine foldl_preserves ?_ (List.finRange nPorts) (hkept.initSelection h)
  exact fun l i h => hkept.initPort h i

end Start

/-!
## Settings
-/

structure Configured (config : Config) (l : AnnounceLoop) : Prop where
  global : instanceSettings l.perPTPInstanceGlobal =
    instanceSettings (initPerPTPInstanceGlobal config default)
  port : forall i, portSettings (l.perPortGlobal i) =
    portSettings (initPerPortGlobal config i default)

variable {config : Config} {l : AnnounceLoop}

/-- A call that keeps the settings of one port keeps those of all ports. -/
theorem Configured.update (h : Configured config l)
    {g : PerPTPInstanceGlobal} {i : PortIndex} {port : PerPortGlobal}
    (hglobal : instanceSettings g = instanceSettings l.perPTPInstanceGlobal)
    (hport : portSettings port = portSettings (l.perPortGlobal i))
    {l' : AnnounceLoop} (hg : l'.perPTPInstanceGlobal = g)
    (hports : l'.perPortGlobal = Function.update l.perPortGlobal i port) :
    Configured config l' where
  global := by rw [hg, hglobal, h.global]
  port j := by
    rw [hports]
    by_cases hji : j = i
    · subst hji
      rw [Function.update_self, hport, h.port]
    · rw [Function.update_of_ne hji, h.port]

theorem Configured.selection (h : Configured config l)
    {m : PortStateSelectionMachine}
    (hframe : PortStateSelectionMachine.CallFrame l.loadPortStateSelection
      m.vars) : Configured config (l.storePortStateSelection m) where
  global := hframe.global.trans h.global
  port i := (hframe.port i).trans (h.port i)

theorem Configured.information (h : Configured config l) {i : PortIndex}
    {Fits : Prop} {m : PortAnnounceInformationMachine}
    (hframe : PortAnnounceInformationMachine.CallFrame Fits
      (l.loadPortAnnounceInformation i) m.vars) :
    Configured config (l.storePortAnnounceInformation i m) :=
  h.update hframe.global hframe.port rfl rfl

theorem Configured.informationExt (h : Configured config l) {i : PortIndex}
    {Fits : Prop} {m : PortAnnounceInformationExtMachine}
    (hframe : PortAnnounceInformationExtMachine.CallFrame Fits
      (l.loadPortAnnounceInformationExt i) m.vars) :
    Configured config (l.storePortAnnounceInformationExt i m) :=
  h.update hframe.global (congrArg portSettings hframe.port) rfl rfl

theorem Configured.transmit (h : Configured config l) {i : PortIndex}
    {m : PortAnnounceTransmitMachine}
    (hframe : PortAnnounceTransmitMachine.CallFrame
      (l.loadPortAnnounceTransmit i) m.vars) :
    Configured config (l.storePortAnnounceTransmit i m) :=
  h.update (congrArg instanceSettings hframe.global)
    (congrArg portSettings hframe.port) rfl rfl

theorem keptInit_configured (config : Config) :
    KeptInit (Configured config) := by
  constructor
  case selection => exact fun l m h _ hframe => h.selection hframe
  case information => exact fun l i m h _ hframe => h.information hframe
  case informationExt => exact fun l i m h _ hframe => h.informationExt hframe
  case transmit => exact fun l i m h hframe => h.transmit hframe

theorem configured_start (config : Config) (memory : LoopMemory) :
    Configured config (start config memory) :=
  (keptInit_configured config).start ⟨rfl, fun _ => rfl⟩

theorem kept_configured (config : Config) (e : Event) :
    Kept e (Configured config) := by
  constructor
  case selection => exact fun l m h _ _ hframe => h.selection hframe
  case information => exact fun l i m h _ _ hframe => h.information hframe
  case informationExt =>
    exact fun l i m h _ _ hframe => h.informationExt hframe
  case transmit => exact fun l i m h _ hframe => h.transmit hframe
  case syncReceipt => exact fun l time h => ⟨h.global, h.port⟩

theorem configured_after (config : Config) (memory : LoopMemory)
    (es : List Event) : Configured config (after config memory es) :=
  run_invariant_always (configured_start config memory)
    (fun _ e h => (kept_configured config e).step h) es

theorem Configured.started (h : Configured config l) :
    l.perPTPInstanceGlobal.BEGIN = false ∧
      l.perPTPInstanceGlobal.instanceEnable = true :=
  ⟨congrArg InstanceSettings.BEGIN h.global,
    congrArg InstanceSettings.instanceEnable h.global⟩

theorem Configured.thenRunInformation (h : Configured config l) (i : PortIndex)
    (ts : UScaledNs) : Configured config (l.thenDo (runInformation i ts)) :=
  thenDo_preserves h fun h hruns =>
    (kept_configured config (.timeout i ts)).runInformation h hruns i ts

theorem Configured.thenInitInformation (h : Configured config l)
    (i : PortIndex) : Configured config (l.thenDo (initInformation i)) :=
  thenDo_preserves h fun h _ =>
    (keptInit_configured config).initInformation h i

theorem Configured.external_iff (h : Configured config l) :
    l.External <-> config.externalPortConfigurationEnabled = true := by
  have hmode := congrArg InstanceSettings.externalPortConfigurationEnabled
    h.global
  change l.perPTPInstanceGlobal.externalPortConfigurationEnabled =
    config.externalPortConfigurationEnabled at hmode
  unfold External
  rw [hmode]

theorem Configured.symmetric (h : Configured config l) (i : PortIndex) :
    (l.perPortGlobal i).asymmetryMeasurementMode = false :=
  congrArg PortSettings.asymmetryMeasurementMode (h.port i)

theorem Configured.thisPort (h : Configured config l) (i : PortIndex) :
    (l.perPortGlobal i).thisPort = i.succ :=
  congrArg PortSettings.thisPort (h.port i)

theorem Configured.thisClock (h : Configured config l) :
    l.perPTPInstanceGlobal.thisClock = config.systemIdentity.clockIdentity :=
  congrArg InstanceSettings.thisClock h.global

/-!
## Port states from outside

Under external port configuration no machine writes the port states, nor what
the election would compute.
-/

/-- The variables that have their first values in external mode. -/
structure Assigned (config : Config) (memory : LoopMemory) (l : AnnounceLoop) :
    Prop where
  configured : Configured config l
  selectedState : l.External ->
    l.perPTPInstanceGlobal.selectedState = config.ptpPorts
  masterStepsRemoved : l.External ->
    l.perPTPInstanceGlobal.masterStepsRemoved =
      memory.perPTPInstanceGlobal.masterStepsRemoved
  masterPriority : l.External -> forall i,
    (l.perPortGlobal i).masterPriority = (memory.perPortGlobal i).masterPriority

variable {memory : LoopMemory}

theorem Configured.external_congr {l' : AnnounceLoop} (h : Configured config l)
    (h' : Configured config l') : l'.External <-> l.External :=
  h'.external_iff.trans h.external_iff.symm

theorem Assigned.vacuous (h : Configured config l) (hmode : ¬ l.External) :
    Assigned config memory l :=
  ⟨h, fun hmode' => absurd hmode' hmode, fun hmode' => absurd hmode' hmode,
    fun hmode' => absurd hmode' hmode⟩

theorem Assigned.selection (h : Assigned config memory l)
    (hmode : ¬ l.External) {m : PortStateSelectionMachine}
    (hframe : PortStateSelectionMachine.CallFrame l.loadPortStateSelection
      m.vars) : Assigned config memory (l.storePortStateSelection m) := by
  have hconfigured := h.configured.selection hframe
  refine Assigned.vacuous hconfigured fun hmode' => hmode ?_
  exact (h.configured.external_congr hconfigured).mp hmode'

theorem Assigned.information (h : Assigned config memory l)
    (hmode : ¬ l.External) {i : PortIndex} {Fits : Prop}
    {m : PortAnnounceInformationMachine}
    (hframe : PortAnnounceInformationMachine.CallFrame Fits
      (l.loadPortAnnounceInformation i) m.vars) :
    Assigned config memory (l.storePortAnnounceInformation i m) := by
  have hconfigured := h.configured.information hframe
  refine Assigned.vacuous hconfigured fun hmode' => hmode ?_
  exact (h.configured.external_congr hconfigured).mp hmode'

/-- A call that changes neither what is assigned nor the port it is made for. -/
theorem Assigned.update (h : Assigned config memory l) {i : PortIndex}
    {l' : AnnounceLoop} (hconfigured : Configured config l')
    (hselected : l'.perPTPInstanceGlobal.selectedState =
      l.perPTPInstanceGlobal.selectedState)
    (hsteps : l'.perPTPInstanceGlobal.masterStepsRemoved =
      l.perPTPInstanceGlobal.masterStepsRemoved)
    {port : PerPortGlobal} (hport : port = l.perPortGlobal i)
    (hports : l'.perPortGlobal = Function.update l.perPortGlobal i port) :
    Assigned config memory l' := by
  have hmode := h.configured.external_congr hconfigured
  constructor
  case configured => exact hconfigured
  case selectedState =>
    exact fun hext => hselected.trans (h.selectedState (hmode.mp hext))
  case masterStepsRemoved =>
    exact fun hext => hsteps.trans (h.masterStepsRemoved (hmode.mp hext))
  case masterPriority =>
    intro hext j
    rw [hports, hport, Function.update_eq_self]
    exact h.masterPriority (hmode.mp hext) j

theorem Assigned.informationExt (h : Assigned config memory l)
    {i : PortIndex} {Fits : Prop} {m : PortAnnounceInformationExtMachine}
    (hframe : PortAnnounceInformationExtMachine.CallFrame Fits
      (l.loadPortAnnounceInformationExt i) m.vars) :
    Assigned config memory (l.storePortAnnounceInformationExt i m) :=
  h.update (h.configured.informationExt hframe) hframe.selectedState
    hframe.masterStepsRemoved hframe.port rfl

theorem Assigned.transmit (h : Assigned config memory l) {i : PortIndex}
    {m : PortAnnounceTransmitMachine}
    (hframe : PortAnnounceTransmitMachine.CallFrame
      (l.loadPortAnnounceTransmit i) m.vars) :
    Assigned config memory (l.storePortAnnounceTransmit i m) :=
  h.update (h.configured.transmit hframe)
    (congrArg PerPTPInstanceGlobal.selectedState hframe.global)
    (congrArg PerPTPInstanceGlobal.masterStepsRemoved hframe.global)
    hframe.port rfl

theorem assigned_initial (config : Config) (memory : LoopMemory) :
    Assigned config memory (initial config memory) :=
  ⟨⟨rfl, fun _ => rfl⟩, fun _ => rfl, fun _ => rfl, fun _ _ => rfl⟩

theorem keptInit_assigned (config : Config) (memory : LoopMemory) :
    KeptInit (Assigned config memory) := by
  constructor
  case selection => exact fun l m h hmode hframe => h.selection hmode hframe
  case information =>
    exact fun l i m h hmode hframe => h.information hmode hframe
  case informationExt => exact fun l i m h _ hframe => h.informationExt hframe
  case transmit => exact fun l i m h hframe => h.transmit hframe

theorem kept_assigned (config : Config) (memory : LoopMemory) (e : Event) :
    Kept e (Assigned config memory) := by
  constructor
  case selection => exact fun l m h _ hmode hframe => h.selection hmode hframe
  case information =>
    exact fun l i m h _ hmode hframe => h.information hmode hframe
  case informationExt =>
    exact fun l i m h _ _ hframe => h.informationExt hframe
  case transmit => exact fun l i m h _ hframe => h.transmit hframe
  case syncReceipt =>
    exact fun l time h => ⟨⟨h.configured.global, h.configured.port⟩,
      h.selectedState, h.masterStepsRemoved, h.masterPriority⟩

end AnnounceLoop

end TimeSync
end Ziggo
