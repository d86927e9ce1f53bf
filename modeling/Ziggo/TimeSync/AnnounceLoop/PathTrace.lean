import Ziggo.TimeSync.AnnounceLoop.Invariant

/-!
# The bound on path traces

The arrays of a path trace have room for `MAX_PATH_TRACE_N` clocks.  In BMCA
mode the instance keeps to this bound whatever it receives.  Under external port
configuration the clock of the instance is appended without a check, and a path
that is full when it arrives on the slave port leads beyond the array.
-/

namespace Ziggo
namespace TimeSync

open Foundation TsnDrivers

namespace AnnounceLoop

/-- The path trace of a received message is one that the standard allows. -/
def Event.WellFormed : Event -> Prop
  | .announce _ _ message =>
      message.pathTraceTLV.lengthField.toNat % 8 = 0 ∧
        message.pathTraceTLV.lengthField.toNat ≤ 64
  | _ => True

theorem Event.WellFormed.short {e : Event} (h : e.WellFormed) : e.Short := by
  cases e with
  | announce i ts message => exact h.right
  | _ => trivial

structure PathBounded (l : AnnounceLoop) : Prop where
  trace : l.perPTPInstanceGlobal.nPathTrace.toNat ≤ maxPathTraceN
  inBounds : l.process.stop ≠ some .outOfBounds
  sent : forall port announce,
    { port := port, message := .announce announce } ∈ l.process.sent ->
      announce.pathCount ≤ maxPathTraceN

/-- Under external configuration, a path on the slave port is not full yet. -/
def Event.RoomLeft (config : Config) : Event -> Prop
  | .announce i _ message =>
      config.externalPortConfigurationEnabled = true ->
        config.ptpPorts i.succ = .slavePort -> message.pathCount < maxPathTraceN
  | _ => True

section Bounded

variable {l : AnnounceLoop} {i : PortIndex}

theorem pathCount_announceOf {g : PerPTPInstanceGlobal} {port : PerPortGlobal}
    {sequenceId : UInt16} {pathSequence : PathArray}
    (h : g.nPathTrace.toNat ≤ maxPathTraceN) :
    (PortAnnounceTransmitSM.announceOf g port sequenceId
      pathSequence).pathCount = g.nPathTrace.toNat := by
  change (g.nPathTrace * 8).toNat / 8 = g.nPathTrace.toNat
  change g.nPathTrace.toNat ≤ 8 at h
  rw [UInt16.toNat_mul]
  change g.nPathTrace.toNat * 8 % 65536 / 8 = g.nPathTrace.toNat
  omega

theorem PathBounded.selection (h : PathBounded l)
    {m : PortStateSelectionMachine}
    (hframe : PortStateSelectionMachine.CallFrame l.loadPortStateSelection
      m.vars) : PathBounded (l.storePortStateSelection m) := by
  refine ⟨hframe.trace h.trace, hframe.inBounds h.inBounds, ?_⟩
  intro port announce hmem
  exact h.sent port announce (hframe.sent ▸ hmem)

theorem PathBounded.information (h : PathBounded l) {Fits : Prop}
    {m : PortAnnounceInformationMachine}
    (hframe : PortAnnounceInformationMachine.CallFrame Fits
      (l.loadPortAnnounceInformation i) m.vars) (hfits : Fits) :
    PathBounded (l.storePortAnnounceInformation i m) := by
  refine ⟨?_, hframe.inBounds hfits h.inBounds, ?_⟩
  · exact (congrArg UInt16.toNat hframe.trace).trans_le h.trace
  · intro port announce hmem
    exact h.sent port announce (hframe.sent ▸ hmem)

theorem PathBounded.informationExt (h : PathBounded l) {Fits : Prop}
    {m : PortAnnounceInformationExtMachine}
    (hframe : PortAnnounceInformationExtMachine.CallFrame Fits
      (l.loadPortAnnounceInformationExt i) m.vars) (hfits : Fits) :
    PathBounded (l.storePortAnnounceInformationExt i m) := by
  refine ⟨hframe.trace h.trace, hframe.inBounds hfits h.inBounds, ?_⟩
  intro port announce hmem
  exact h.sent port announce (hframe.sent ▸ hmem)

theorem PathBounded.transmit (h : PathBounded l)
    {m : PortAnnounceTransmitMachine}
    (hframe : PortAnnounceTransmitMachine.CallFrame
      (l.loadPortAnnounceTransmit i) m.vars) :
    PathBounded (l.storePortAnnounceTransmit i m) := by
  refine ⟨?_, hframe.inBounds h.trace h.inBounds, ?_⟩
  · change m.vars.perPTPInstanceGlobal.nPathTrace.toNat ≤ maxPathTraceN
    rw [hframe.global]
    exact h.trace
  · intro port announce hmem
    obtain ⟨frames, hsent, hcarries⟩ := hframe.sent
    change _ ∈ m.vars.process.sent at hmem
    rw [hsent] at hmem
    rcases List.mem_append.mp hmem with hmem | hmem
    · exact h.sent port announce hmem
    · obtain ⟨_, _, _, hframe⟩ := hcarries _ hmem
      cases hframe
      exact (pathCount_announceOf h.trace).trans_le h.trace

end Bounded

/-!
## Messages that wait
-/

/-- The paths of the messages that the machines of a port hold are short. -/
structure PathsFit (config : Config) (i : PortIndex) (l : AnnounceLoop) :
    Prop where
  information : ¬ l.External -> forall announce,
    (l.portAnnounceInformationSms i).vars.rcvdAnnouncePtr = .live announce ->
      announce.pathTraceTLV.lengthField.toNat ≤ 64
  informationExt : l.External -> forall announce,
    (l.portAnnounceInformationExtSms i).vars.rcvdAnnouncePtr = .live announce ->
      config.ptpPorts i.succ = .slavePort -> announce.pathCount < maxPathTraceN

section PathsFit

variable {config : Config} {memory : LoopMemory} {l : AnnounceLoop}
  {i j : PortIndex}

theorem PathsFit.congr (h : PathsFit config j l) {l' : AnnounceLoop}
    (hmode : l'.External <-> l.External)
    (hinformation : l'.portAnnounceInformationSms j =
      l.portAnnounceInformationSms j)
    (hinformationExt : l'.portAnnounceInformationExtSms j =
      l.portAnnounceInformationExtSms j) : PathsFit config j l' where
  information hext := by
    rw [hinformation]
    exact h.information fun hext' => hext (hmode.mpr hext')
  informationExt hext := by
    rw [hinformationExt]
    exact h.informationExt (hmode.mp hext)

theorem Assigned.isSlavePort (h : Assigned config memory l)
    (hmode : l.External) (i : PortIndex) :
    (l.loadPortAnnounceInformationExt i).isSlavePort = true <->
      config.ptpPorts i.succ = .slavePort := by
  change decide (l.perPTPInstanceGlobal.selectedState
    (l.perPortGlobal i).thisPort = .slavePort) = true <-> _
  rw [h.selectedState hmode, h.configured.thisPort, decide_eq_true_iff]

theorem pathsFit_storeInformation (hmode : ¬ l.External)
    {m : PortAnnounceInformationMachine}
    (hmode' : (l.storePortAnnounceInformation i m).External <-> l.External)
    (hfits : m.vars.PathFits) :
    PathsFit config i (l.storePortAnnounceInformation i m) := by
  refine ⟨fun _ announce hlive => ?_, fun hext => absurd (hmode'.mp hext) hmode⟩
  rw [storePortAnnounceInformation_self] at hlive
  exact hfits announce hlive

theorem PathsFit.storeInformation (h : PathsFit config j l)
    (hmode : ¬ l.External) {m : PortAnnounceInformationMachine}
    (hmode' : (l.storePortAnnounceInformation i m).External <-> l.External)
    (hfits : m.vars.PathFits) :
    PathsFit config j (l.storePortAnnounceInformation i m) := by
  by_cases hji : j = i
  · subst hji
    exact pathsFit_storeInformation hmode hmode' hfits
  · exact h.congr hmode' (storePortAnnounceInformation_of_ne l hji m) rfl

theorem pathsFit_storeInformationExt (hmode : l.External)
    {m : PortAnnounceInformationExtMachine}
    (hmode' : (l.storePortAnnounceInformationExt i m).External <-> l.External)
    (hslave : config.ptpPorts i.succ = .slavePort -> m.vars.isSlavePort = true)
    (hfits : m.vars.PathFits) :
    PathsFit config i (l.storePortAnnounceInformationExt i m) := by
  refine ⟨fun hext => absurd (hmode'.mpr hmode) hext, fun _ announce hlive => ?_⟩
  rw [storePortAnnounceInformationExt_self] at hlive
  exact fun hslavePort => hfits announce hlive (hslave hslavePort)

theorem PathsFit.storeInformationExt (h : PathsFit config j l)
    (hmode : l.External) {m : PortAnnounceInformationExtMachine}
    (hmode' : (l.storePortAnnounceInformationExt i m).External <-> l.External)
    (hslave : config.ptpPorts i.succ = .slavePort -> m.vars.isSlavePort = true)
    (hfits : m.vars.PathFits) :
    PathsFit config j (l.storePortAnnounceInformationExt i m) := by
  by_cases hji : j = i
  · subst hji
    exact pathsFit_storeInformationExt hmode hmode' hslave hfits
  · exact h.congr hmode' rfl (storePortAnnounceInformationExt_of_ne l hji m)

end PathsFit

/-!
## Runs
-/

/-- What holds in every state of a run in which paths leave enough room. -/
structure PathInvariant (config : Config) (memory : LoopMemory)
    (l : AnnounceLoop) : Prop where
  assigned : Assigned config memory l
  bounded : PathBounded l
  pathsFit : l.Runs -> forall i, PathsFit config i l

section Steps

variable {config : Config} {memory : LoopMemory} {l : AnnounceLoop}
  {i : PortIndex}

theorem PathInvariant.selection (h : PathInvariant config memory l)
    (hruns : l.Runs) (hmode : ¬ l.External) {m : PortStateSelectionMachine}
    (hframe : PortStateSelectionMachine.CallFrame l.loadPortStateSelection
      m.vars) : PathInvariant config memory (l.storePortStateSelection m) := by
  have hassigned := h.assigned.selection hmode hframe
  refine ⟨hassigned, h.bounded.selection hframe, fun _ j => ?_⟩
  exact (h.pathsFit hruns j).congr
    (h.assigned.configured.external_congr hassigned.configured) rfl rfl

theorem PathInvariant.information (h : PathInvariant config memory l)
    (hruns : l.Runs) (hmode : ¬ l.External) {e : Event} (he : e.Short)
    {m : PortAnnounceInformationMachine}
    (hframe : PortAnnounceInformationMachine.CallFrame
      ((l.loadPortAnnounceInformation i).PathFits ∧ e.Short)
      (l.loadPortAnnounceInformation i) m.vars) :
    PathInvariant config memory (l.storePortAnnounceInformation i m) := by
  have hfits : (l.loadPortAnnounceInformation i).PathFits ∧ e.Short :=
    ⟨(h.pathsFit hruns i).information hmode, he⟩
  have hassigned := h.assigned.information hmode hframe
  refine ⟨hassigned, h.bounded.information hframe hfits, fun _ j => ?_⟩
  exact (h.pathsFit hruns j).storeInformation hmode
    (h.assigned.configured.external_congr hassigned.configured)
    (hframe.pathFits hfits)

theorem Assigned.isSlavePort_call (h : Assigned config memory l)
    (hmode : l.External) {Fits : Prop} {m : PortAnnounceInformationExtMachine}
    (hframe : PortAnnounceInformationExtMachine.CallFrame Fits
      (l.loadPortAnnounceInformationExt i) m.vars)
    (hslave : config.ptpPorts i.succ = .slavePort) :
    m.vars.isSlavePort = true := by
  have hbefore := (h.isSlavePort hmode i).mpr hslave
  unfold PortAnnounceInformationExtSM.isSlavePort at hbefore ⊢
  rw [hframe.selectedState, hframe.port]
  exact hbefore

theorem Assigned.spares (h : Assigned config memory l) (hmode : l.External)
    {e : Event} (he : e.RoomLeft config) : e.Spares l := by
  cases e with
  | announce j ts message =>
      intro hslave
      exact he (h.configured.external_iff.mp hmode)
        ((h.isSlavePort hmode j).mp hslave)
  | _ => trivial

theorem PathInvariant.informationExt (h : PathInvariant config memory l)
    (hruns : l.Runs) (hmode : l.External) {e : Event}
    (he : e.RoomLeft config) {m : PortAnnounceInformationExtMachine}
    (hframe : PortAnnounceInformationExtMachine.CallFrame
      ((l.loadPortAnnounceInformationExt i).PathFits ∧ e.Spares l)
      (l.loadPortAnnounceInformationExt i) m.vars) :
    PathInvariant config memory (l.storePortAnnounceInformationExt i m) := by
  have hfits : (l.loadPortAnnounceInformationExt i).PathFits := by
    intro announce hlive hslave
    exact (h.pathsFit hruns i).informationExt hmode announce hlive
      ((h.assigned.isSlavePort hmode i).mp hslave)
  have hspares := h.assigned.spares hmode he
  have hassigned := h.assigned.informationExt hframe
  refine ⟨hassigned, h.bounded.informationExt hframe ⟨hfits, hspares⟩,
    fun _ j => ?_⟩
  exact (h.pathsFit hruns j).storeInformationExt hmode
    (h.assigned.configured.external_congr hassigned.configured)
    (h.assigned.isSlavePort_call hmode hframe)
    (hframe.pathFits ⟨hfits, hspares⟩)

theorem PathInvariant.transmit (h : PathInvariant config memory l)
    (hruns : l.Runs) {m : PortAnnounceTransmitMachine}
    (hframe : PortAnnounceTransmitMachine.CallFrame
      (l.loadPortAnnounceTransmit i) m.vars) :
    PathInvariant config memory (l.storePortAnnounceTransmit i m) := by
  have hassigned := h.assigned.transmit hframe
  refine ⟨hassigned, h.bounded.transmit hframe, fun _ j => ?_⟩
  exact (h.pathsFit hruns j).congr
    (h.assigned.configured.external_congr hassigned.configured) rfl rfl

theorem kept_pathInvariant {e : Event} (hform : e.WellFormed)
    (hroom : e.RoomLeft config) : Kept e (PathInvariant config memory) := by
  constructor
  case selection =>
    exact fun l m h hruns hmode hframe => h.selection hruns hmode hframe
  case information =>
    exact fun l i m h hruns hmode hframe =>
      h.information hruns hmode hform.short hframe
  case informationExt =>
    exact fun l i m h hruns hmode hframe =>
      h.informationExt hruns hmode hroom hframe
  case transmit =>
    exact fun l i m h hruns hframe => h.transmit hruns hframe
  case syncReceipt =>
    intro l time h
    constructor
    case assigned =>
      exact (kept_assigned config memory (.syncReceipt time)).syncReceipt l time
        h.assigned
    case bounded =>
      exact ⟨h.bounded.trace, h.bounded.inBounds, h.bounded.sent⟩
    case pathsFit =>
      exact fun hruns j => (h.pathsFit hruns j).congr Iff.rfl rfl rfl

end Steps

/-!
## Initialization
-/

section Start

variable {config : Config} {memory : LoopMemory} {l : AnnounceLoop}
  {i j : PortIndex}

theorem keptInit_bounded (config : Config) (memory : LoopMemory) :
    KeptInit fun l => Assigned config memory l ∧ PathBounded l := by
  constructor
  case selection =>
    exact fun l m h hmode hframe =>
      ⟨h.left.selection hmode hframe, h.right.selection hframe⟩
  case information =>
    exact fun l i m h hmode hframe =>
      ⟨h.left.information hmode hframe, h.right.information hframe trivial⟩
  case informationExt =>
    exact fun l i m h _ hframe =>
      ⟨h.left.informationExt hframe, h.right.informationExt hframe trivial⟩
  case transmit =>
    exact fun l i m h hframe =>
      ⟨h.left.transmit hframe, h.right.transmit hframe⟩

theorem pathBounded_initial (config : Config) (memory : LoopMemory) :
    PathBounded (initial config memory) := by
  constructor
  case trace =>
    change (1 : UInt16).toNat ≤ 8
    decide
  case inBounds => exact Option.some_ne_none _ ∘ Eq.symm
  case sent =>
    intro port announce hmem
    cases hmem

theorem PathsFit.initTransmit (h : Assigned config memory l)
    (hfits : PathsFit config j l) (i : PortIndex) :
    PathsFit config j (l.initTransmit i) := by
  have hafter := (keptInit_assigned config memory).initTransmit h i
  exact hfits.congr (h.configured.external_congr hafter.configured) rfl rfl

theorem pathsFit_initInformation (h : Assigned config memory l)
    (i : PortIndex) : PathsFit config i (l.initInformation i) := by
  unfold initInformation
  split
  case isTrue hmode =>
    have hframe := PortAnnounceInformationExtMachine.callFrame_init
      (l.loadPortAnnounceInformationExt i)
    have hafter := h.informationExt hframe
    exact pathsFit_storeInformationExt hmode
      (h.configured.external_congr hafter.configured)
      (h.isSlavePort_call hmode hframe) (hframe.pathFits trivial)
  case isFalse hmode =>
    have hframe := PortAnnounceInformationMachine.callFrame_init
      (l.loadPortAnnounceInformation i)
    have hafter := h.information hmode hframe
    exact pathsFit_storeInformation hmode
      (h.configured.external_congr hafter.configured) (hframe.pathFits trivial)

theorem PathsFit.initInformation (h : Assigned config memory l)
    (hfits : PathsFit config j l) (i : PortIndex) :
    PathsFit config j (l.initInformation i) := by
  by_cases hji : j = i
  · subst hji
    exact pathsFit_initInformation h j
  · have hafter := (keptInit_assigned config memory).initInformation h i
    have hmode := h.configured.external_congr hafter.configured
    unfold AnnounceLoop.initInformation at hmode ⊢
    split at hmode
    case isTrue hext =>
      rw [if_pos hext]
      exact hfits.congr hmode rfl
        (storePortAnnounceInformationExt_of_ne l hji _)
    case isFalse hext =>
      rw [if_neg hext]
      exact hfits.congr hmode (storePortAnnounceInformation_of_ne l hji _) rfl

theorem pathsFit_initPort (h : Assigned config memory l) (i : PortIndex) :
    (l.initPort i).Runs -> PathsFit config i (l.initPort i) := by
  intro hruns
  have hkept := keptInit_assigned config memory
  unfold initPort
  rw [thenDo_runs (runs_of_initPort hruns)]
  by_cases hinformation : (l.initInformation i).Runs
  · rw [thenDo_runs hinformation]
    exact (pathsFit_initInformation h i).initTransmit
      (hkept.initInformation h i) i
  · rw [thenDo_ended hinformation]
    exact pathsFit_initInformation h i

theorem PathsFit.initPort (h : Assigned config memory l)
    (hfits : l.Runs -> PathsFit config j l) (i : PortIndex) :
    (l.initPort i).Runs -> PathsFit config j (l.initPort i) := by
  intro hruns
  have hkept := keptInit_assigned config memory
  have hl : l.Runs := runs_of_initPort hruns
  have hpreserved :
      Assigned config memory (l.initPort i) ∧
        PathsFit config j (l.initPort i) := by
    refine thenDo_preserves
      (I := fun l => Assigned config memory l ∧ PathsFit config j l) ?_ ?_
    · refine thenDo_preserves
        (I := fun l => Assigned config memory l ∧ PathsFit config j l)
        ⟨h, hfits hl⟩ ?_
      exact fun h _ =>
        ⟨hkept.initInformation h.left i, h.right.initInformation h.left i⟩
    · exact fun h _ =>
        ⟨hkept.initTransmit h.left i, h.right.initTransmit h.left i⟩
  exact hpreserved.right

theorem pathInvariant_start (config : Config) (memory : LoopMemory) :
    PathInvariant config memory (start config memory) := by
  have hbounded := (keptInit_bounded config memory).start
    ⟨assigned_initial config memory, pathBounded_initial config memory⟩
  refine ⟨hbounded.left, hbounded.right, fun hruns i => ?_⟩
  have hkept := keptInit_assigned config memory
  exact foldl_establishes (I := Assigned config memory)
    (V := fun i l => l.Runs -> PathsFit config i l)
    (fun l i h => hkept.initPort h i)
    (fun l i h => pathsFit_initPort h i)
    (fun l j i h hfits => PathsFit.initPort h hfits i)
    (List.mem_finRange i)
    (hkept.initSelection (assigned_initial config memory)) hruns

end Start

/--
The bound holds in every state of a run whose messages are well formed and in
which, under external port configuration, no message arrives on the slave port
with a full path.
-/
theorem pathBounded_after (config : Config) (memory : LoopMemory)
    (es : List Event) (hform : forall e, e ∈ es -> e.WellFormed)
    (hroom : forall e, e ∈ es -> e.RoomLeft config) :
    PathBounded (after config memory es) := by
  have hes : Along step (fun _ e => e.WellFormed ∧ e.RoomLeft config)
      (start config memory) es := by
    intro history e rest hsplit
    have hmem : e ∈ es := by simp [hsplit]
    exact ⟨hform e hmem, hroom e hmem⟩
  have hrun : PathInvariant config memory (after config memory es) :=
    run_invariant (pathInvariant_start config memory)
      (fun _ _ h hok => (kept_pathInvariant hok.left hok.right).step h) hes
  exact hrun.bounded

/-- Port 1 is the slave port and port 2 the only master port. -/
def relayConfig : Config where
  systemIdentity := (filledVector 1).rootSystemIdentity
  ptpPorts p :=
    if p = 1 then .slavePort else if p = 2 then .masterPort else .disabledPort
  externalPortConfigurationEnabled := true

def announceWithPath (count : UInt16) : PTPMsgAnnounce :=
  { (default : PTPMsgAnnounce) with
    pathTraceTLV :=
      { tlvType := 8, lengthField := count * 8, pathSequence := default } }

theorem seven_entries_bounded :
    PathBounded
      (after relayConfig default [.announce 0 oneSecond (announceWithPath 7)]) :=
  pathBounded_after relayConfig default _ (by
    intro e he
    cases List.mem_singleton.mp he
    exact ⟨by decide, by decide⟩) (by
    intro e he
    cases List.mem_singleton.mp he
    exact fun _ _ => by decide)

/-- A full path leads beyond the array of the instance. -/
theorem eight_entries_unbounded :
    ¬ forall (config : Config) (memory : LoopMemory) (es : List Event),
      (forall e, e ∈ es -> e.WellFormed) ->
        PathBounded (after config memory es) := by
  intro h
  have hbounded :=
    h relayConfig default [.announce 0 oneSecond (announceWithPath 8)] (by
      intro e he
      cases List.mem_singleton.mp he
      exact ⟨by decide, by decide⟩)
  exact hbounded.inBounds (by decide)

end AnnounceLoop

end TimeSync
end Ziggo
