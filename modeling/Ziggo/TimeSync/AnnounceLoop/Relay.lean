import Ziggo.TimeSync.AnnounceLoop.PathTrace

/-!
# Relayed announcements

Under external port configuration, what the slave port receives goes to
`gmPriority`, `gmStepsRemoved` and the path trace, and what the master ports
send comes from `masterPriority`, `masterStepsRemoved` and the path trace.  The
module follows the path trace through the runs of the loop.
-/

namespace Ziggo
namespace TimeSync

open Foundation TsnDrivers

/-!
## One received message
-/

namespace PortAnnounceInformationExtSM

/-- The settings of the loop do not disable the machine. -/
structure Enabled (sm : PortAnnounceInformationExtSM) : Prop where
  portReady : sm.portReady = true
  notBegin : sm.perPTPInstanceGlobal.BEGIN = false
  instanceEnable : sm.perPTPInstanceGlobal.instanceEnable = true

/-- The instance once it has processed a message on its slave port. -/
def heardGlobal (g : PerPTPInstanceGlobal) (announce : PTPMsgAnnounce) :
    PerPTPInstanceGlobal :=
  recordOtherAnnounceInfo
    { g with
      gmStepsRemoved := announce.stepsRemoved + 1
      gmPriority := gmPriorityOf g.gmPriority announce
      pathTrace := fun i =>
        if i.val < announce.pathCount then
          announce.pathTraceTLV.pathSequence i
        else if i.val = announce.pathCount then g.thisClock
        else g.pathTrace i
      nPathTrace := UInt16.ofNat (announce.pathCount + 1) }
    announce

variable {sm : PortAnnounceInformationExtSM} {announce : PTPMsgAnnounce}

theorem Enabled.allStateTransition (h : Enabled sm)
    (state : PortAnnounceInformationExtSMState) :
    sm.allStateTransition state = state := by
  unfold PortAnnounceInformationExtSM.allStateTransition
  rw [if_neg]
  simp [h.portReady, h.notBegin, h.instanceEnable]

/-- The variables once the message behind the pointer has been processed. -/
def heard (sm : PortAnnounceInformationExtSM) (announce : PTPMsgAnnounce) :
    PortAnnounceInformationExtSM :=
  { sm with
    perPTPInstanceGlobal := heardGlobal sm.perPTPInstanceGlobal announce
    rcvdAnnouncePAIE := false }

theorem receiveAction_heard (hslave : sm.isSlavePort = true)
    (hlive : sm.rcvdAnnouncePtr = .live announce)
    {sm' : PortAnnounceInformationExtSM} (h : sm.receiveAction = .ok sm') :
    announce.pathCount < maxPathTraceN ∧ sm' = sm.heard announce := by
  obtain ⟨announce', g, hlive', hrcv, rfl⟩ :=
    PortAnnounceInformationExtMachine.receiveAction_slave hslave h
  cases hlive.symm.trans hlive'
  obtain ⟨hcount, rfl⟩ := tracePath_eq_ok hrcv
  exact ⟨hcount, rfl⟩

end PortAnnounceInformationExtSM

namespace PortAnnounceInformationExtMachine

open PortAnnounceInformationExtSM

/-- The machine waits for a message. -/
structure Resting (m : PortAnnounceInformationExtMachine) : Prop where
  quiescent : m.Quiescent
  started : m.state ≠ .init
  idle : m.vars.rcvdAnnouncePAIE = false

variable {sm : PortAnnounceInformationExtSM} {announce : PTPMsgAnnounce}

/-- The state `PAIE_RECEIVE` is entered with a message on the slave port. -/
theorem run_enter_receive (fuel : Nat)
    {last : Option PortAnnounceInformationExtSMState}
    (hlast : last ≠ some .receive) (hslave : sm.isSlavePort = true)
    (hlive : sm.rcvdAnnouncePtr = .live announce)
    (hstop : (program.run (fuel + 1)
      { state := .receive, lastState := last, vars := sm }).vars.process.stop =
        none) :
    announce.pathCount < maxPathTraceN ∧
      program.run (fuel + 1)
          { state := .receive, lastState := last, vars := sm } =
        { state := .receive
          lastState := some .receive
          vars := sm.heard announce } := by
  let m : PortAnnounceInformationExtMachine :=
    { state := .receive, lastState := last, vars := sm }
  have henter : program.enter m = attempt halt sm sm.receiveAction :=
    Program.enter_change program hlast
  cases haction : sm.receiveAction with
  | error f =>
      rw [attempt_error haction] at henter
      have hfault : program.fault (program.enter m) ≠ none := by
        rw [henter]
        exact program.fault_halt f sm
      rw [Program.run_fault program fuel hfault] at hstop
      exact absurd hstop hfault
  | ok sm' =>
      obtain ⟨hcount, rfl⟩ := receiveAction_heard hslave hlive haction
      rw [attempt_ok haction] at henter
      by_cases hfault : program.fault (program.enter m) = none
      · have hnext : program.transition m.state (program.enter m) =
            .ok (.goto m.state) := by
          rw [henter]
          change Except.ok (sm.heard announce).receiveStateTransition =
            Except.ok (Next.goto .receive)
          unfold receiveStateTransition announcePending heard
          simp
        refine ⟨hcount, ?_⟩
        rw [Program.run_stay program fuel hfault hnext, henter]
      · rw [Program.run_fault program fuel hfault] at hstop
        exact absurd hstop hfault

/-- A message that waits leads to the state `PAIE_RECEIVE`. -/
theorem run_pending {m : PortAnnounceInformationExtMachine} (hq : m.Quiescent)
    (hstarted : m.state ≠ .init) (hpending : m.vars.announcePending = true)
    (hstop : (program.run passes m).vars.process.stop = none) :
    exists (fuel : Nat) (last : Option PortAnnounceInformationExtSMState),
      last ≠ some .receive ∧
        program.run passes m =
          program.run (fuel + 1)
            { state := .receive, lastState := last, vars := m.vars } := by
  have henter : program.enter m = m.vars := Program.enter_quiescent program hq
  have hfault : program.fault (program.enter m) = none := by
    by_contra hfault
    unfold passes at hstop
    rw [Program.run_fault program 7 hfault] at hstop
    exact hfault hstop
  rcases m with ⟨state, lastState, sm⟩
  cases state with
  | init => exact absurd rfl hstarted
  | initializing =>
      have hnext : program.transition .initializing (program.enter
          { state := .initializing, lastState := lastState, vars := sm }) =
            .ok (.goto .receive) := by
        rw [henter]
        change Except.ok (Next.goto sm.initializeStateTransition) = _
        unfold initializeStateTransition
        rw [if_pos hpending]
      refine ⟨6, some .initializing, by decide, ?_⟩
      unfold passes
      rw [Program.run_goto program 7 hfault hnext (by simp), henter]
  | receive =>
      have hnext : program.transition .receive (program.enter
          { state := .receive, lastState := lastState, vars := sm }) =
            .ok (.reenter .receive) := by
        rw [henter]
        change Except.ok sm.receiveStateTransition = _
        unfold receiveStateTransition
        rw [if_pos hpending]
      refine ⟨6, none, by decide, ?_⟩
      unfold passes
      rw [Program.run_reenter program 7 hfault hnext, henter]

/-- A message on the slave port is processed in the call that brings it. -/
theorem recvAnnounce_slave {m : PortAnnounceInformationExtMachine}
    (h : Resting m) (henabled : Enabled m.vars)
    (hslave : m.vars.isSlavePort = true)
    (hstop : (recvAnnounce m announce).vars.process.stop = none) :
    announce.pathCount < maxPathTraceN ∧
      (recvAnnounce m announce).vars.perPTPInstanceGlobal =
        heardGlobal m.vars.perPTPInstanceGlobal announce ∧
      Resting (recvAnnounce m announce) := by
  unfold recvAnnounce at hstop ⊢
  cases hstore : m.vars.storeAnnounce announce with
  | error f =>
      rw [hstore] at hstop
      cases hstop
  | ok sm =>
      obtain ⟨_, _, hreturn⟩ := bind_eq_ok.mp hstore
      rw [hstore] at hstop
      cases hreturn
      let sm : PortAnnounceInformationExtSM :=
        { m.vars with
          rcvdAnnouncePAIE := true
          rcvdAnnouncePtr := .live announce }
      change (run { m with vars := sm }).vars.process.stop = none at hstop
      have henabled' : Enabled sm :=
        ⟨henabled.portReady, henabled.notBegin, henabled.instanceEnable⟩
      have hpending : sm.announcePending = true := by
        have hready := henabled'.portReady
        unfold announcePending
        rw [hready]
        rfl
      have hready : ready { m with vars := sm } = { m with vars := sm } := by
        unfold ready
        rw [henabled'.allStateTransition]
      change _ ∧ (run { m with vars := sm }).vars.perPTPInstanceGlobal = _ ∧
        Resting (run { m with vars := sm })
      unfold run at hstop ⊢
      rw [hready] at hstop ⊢
      obtain ⟨fuel, last, hlast, hrun⟩ :=
        run_pending (m := { m with vars := sm }) h.quiescent h.started hpending
          hstop
      rw [hrun] at hstop ⊢
      have hslave' : sm.isSlavePort = true := hslave
      have hlive : sm.rcvdAnnouncePtr = .live announce := rfl
      obtain ⟨hcount, hrest⟩ := run_enter_receive fuel hlast hslave' hlive hstop
      rw [hrest]
      exact ⟨hcount, rfl, rfl, by simp, rfl⟩

/-- A message on another port does not change the instance. -/
theorem recvAnnounce_other {m : PortAnnounceInformationExtMachine}
    (hslave : m.vars.isSlavePort = false) :
    (recvAnnounce m announce).vars.perPTPInstanceGlobal =
      m.vars.perPTPInstanceGlobal := by
  have hrun : forall m' : PortAnnounceInformationExtMachine,
      (m'.vars.perPTPInstanceGlobal = m.vars.perPTPInstanceGlobal ∧
        m'.vars.perPortGlobal = m.vars.perPortGlobal) ->
      (run m').vars.perPTPInstanceGlobal = m.vars.perPTPInstanceGlobal := by
    intro m' h
    refine (Program.run_preserves program
      (I := fun v => v.perPTPInstanceGlobal = m.vars.perPTPInstanceGlobal ∧
        v.perPortGlobal = m.vars.perPortGlobal) ?_ ?_ ?_ passes
        (m := ready m') h).left
    · intro state v hv
      have hother : v.isSlavePort = false := by
        unfold isSlavePort at hslave ⊢
        rw [hv.left, hv.right]
        exact hslave
      refine attempt_preserves
        (I := fun v : PortAnnounceInformationExtSM =>
          v.perPTPInstanceGlobal = m.vars.perPTPInstanceGlobal ∧
            v.perPortGlobal = m.vars.perPortGlobal) ?_ fun f _ => hv
      intro v' haction
      cases state with
      | init =>
          cases haction
          exact hv
      | initializing =>
          cases haction
          exact hv
      | receive =>
          cases haction.symm.trans (receiveAction_other hother)
          exact hv
    · exact fun _ _ _ hv _ => hv
    · exact fun _ hv => hv
  unfold recvAnnounce
  cases hstore : m.vars.storeAnnounce announce with
  | error f => rfl
  | ok sm =>
      obtain ⟨_, _, hreturn⟩ := bind_eq_ok.mp hstore
      cases hreturn
      exact hrun _ ⟨rfl, rfl⟩

theorem resting_init {memory : PortAnnounceInformationExtSM}
    (henabled : Enabled memory) (hruns : memory.process.stop = none) :
    Resting (initPortAnnounceInformationExtSm memory) := by
  let sm : PortAnnounceInformationExtSM :=
    { memory with
      rcvdAnnouncePAIE := false
      rcvdAnnouncePtr := .null }
  have henabled' : Enabled sm :=
    ⟨henabled.portReady, henabled.notBegin, henabled.instanceEnable⟩
  have hready : ready { state := .init, lastState := none, vars := sm } =
      { state := .init, lastState := none, vars := sm } := by
    unfold ready
    rw [henabled'.allStateTransition]
  have hidle : sm.initializeStateTransition = .initializing := by
    unfold initializeStateTransition announcePending
    simp [sm]
  have hrun : program.run passes
      { state := .init, lastState := none, vars := sm } =
        { state := .initializing
          lastState := some .initializing
          vars := sm } := by
    let m : PortAnnounceInformationExtMachine :=
      { state := .init, lastState := none, vars := sm }
    let m' : PortAnnounceInformationExtMachine :=
      { state := .initializing, lastState := some .init, vars := sm }
    have hnext : program.transition m.state (program.enter m) =
        .ok (.goto .initializing) := rfl
    have hstay : program.transition m'.state (program.enter m') =
        .ok (.goto m'.state) := by
      change Except.ok (Next.goto sm.initializeStateTransition) = _
      rw [hidle]
    have hfault : program.fault (program.enter m) = none := hruns
    have hfault' : program.fault (program.enter m') = none := hruns
    have hleave : program.run passes m = program.run 7 m' :=
      Program.run_goto program 7 hfault hnext (by simp [m])
    exact hleave.trans (Program.run_stay program 6 hfault' hstay)
  change Resting (run { state := .init, lastState := none, vars := sm })
  unfold run
  rw [hready, hrun]
  exact ⟨rfl, by simp, rfl⟩

end PortAnnounceInformationExtMachine

/-!
## Messages heard
-/

namespace AnnounceLoop

def Event.heardMessage (config : Config) : Event -> Option PTPMsgAnnounce
  | .announce i _ message =>
      if config.ptpPorts i.succ = .slavePort then some message else none
  | _ => none

/-- The most recent message that the slave port has received. -/
def lastHeard (config : Config) (es : List Event) : Option PTPMsgAnnounce :=
  (es.filterMap (Event.heardMessage config)).getLast?

theorem lastHeard_concat (config : Config) (es : List Event) (e : Event) :
    lastHeard config (es ++ [e]) =
      (e.heardMessage config).or (lastHeard config es) := by
  unfold lastHeard
  rw [List.filterMap_append, List.getLast?_append]
  cases h : e.heardMessage config with
  | none => simp [h]
  | some announce => simp [h]

/-- The path trace of the instance is that of a message and its own clock. -/
structure Traced (announce : PTPMsgAnnounce) (g : PerPTPInstanceGlobal) :
    Prop where
  spare : announce.pathCount < maxPathTraceN
  count : g.nPathTrace.toNat = announce.pathCount + 1
  path : entries g.pathTrace (announce.pathCount + 1) =
    announce.path ++ [g.thisClock]

theorem traced_heardGlobal {announce : PTPMsgAnnounce}
    (h : announce.pathCount < maxPathTraceN) (g : PerPTPInstanceGlobal) :
    Traced announce (PortAnnounceInformationExtSM.heardGlobal g announce) := by
  constructor
  case spare => exact h
  case count =>
    change (UInt16.ofNat (announce.pathCount + 1)).toNat = announce.pathCount + 1
    apply UInt16.toNat_ofNat_of_lt'
    change announce.pathCount < 8 at h
    change announce.pathCount + 1 < 65536
    omega
  case path =>
    rw [entries_succ _ h]
    congr 1
    · refine entries_congr fun i hi => ?_
      exact if_pos hi
    · refine congrArg (fun clock => [clock]) ?_
      exact (if_neg (Nat.lt_irrefl _)).trans (if_pos rfl)

/-!
## Runs under external port configuration
-/

/-- What holds in every state of a run in external mode. -/
structure RelayInvariant (config : Config) (memory : LoopMemory)
    (heard : Option PTPMsgAnnounce) (l : AnnounceLoop) : Prop where
  assigned : Assigned config memory l
  resting : l.Runs -> forall i, config.ptpPorts i.succ = .slavePort ->
    (l.portAnnounceInformationExtSms i).Resting
  traced : l.Runs -> forall announce, heard = some announce ->
    Traced announce l.perPTPInstanceGlobal

section Relay

variable {config : Config} {memory : LoopMemory} {l : AnnounceLoop}
  {i : PortIndex} {heard : Option PTPMsgAnnounce}

theorem Assigned.enabled (h : Assigned config memory l)
    (hslave : config.ptpPorts i.succ = .slavePort) :
    (l.loadPortAnnounceInformationExt i).Enabled := by
  have hglobal := h.configured.global
  have hport := h.configured.port i
  constructor
  case portReady =>
    have hcapable := congrArg PortSettings.asCapable hport
    have henabled := congrArg PortSettings.ptpPortEnabled hport
    have hoper := congrArg PortSettings.portOper hport
    change (l.perPortGlobal i).asCapable = true at hcapable
    change (l.perPortGlobal i).ptpPortEnabled =
      decide (config.ptpPorts i.succ ≠ .disabledPort) at henabled
    change (l.perPortGlobal i).portOper =
      decide (config.ptpPorts i.succ ≠ .disabledPort) at hoper
    change decide ((l.perPortGlobal i).portOper = true ∧
      (l.perPortGlobal i).ptpPortEnabled = true ∧
        (l.perPortGlobal i).asCapable = true) = true
    rw [hcapable, henabled, hoper, hslave]
    decide
  case notBegin => exact congrArg InstanceSettings.BEGIN hglobal
  case instanceEnable =>
    exact congrArg InstanceSettings.instanceEnable hglobal

theorem RelayInvariant.hear (h : RelayInvariant config memory heard l)
    (hruns : l.Runs) (hmode : l.External)
    (hslave : config.ptpPorts i.succ = .slavePort) (ts : UScaledNs)
    (announce : PTPMsgAnnounce) :
    RelayInvariant config memory (some announce)
      (l.recvAnnounce i ts announce) := by
  have hassigned := (kept_assigned config memory
    (.announce i ts announce)).recvAnnounce h.assigned hruns
  unfold recvAnnounce at hassigned ⊢
  rw [if_pos hmode] at hassigned ⊢
  generalize hm : PortAnnounceInformationExtMachine.recvAnnounce
    { l.portAnnounceInformationExtSms i with
      vars := l.loadPortAnnounceInformationExt i } announce = m
      at hassigned ⊢
  have hcall : m.vars.process.stop = none ->
      announce.pathCount < maxPathTraceN ∧
        m.vars.perPTPInstanceGlobal =
          PortAnnounceInformationExtSM.heardGlobal l.perPTPInstanceGlobal
            announce ∧ m.Resting := by
    rw [← hm]
    have hresting := h.resting hruns i hslave
    exact PortAnnounceInformationExtMachine.recvAnnounce_slave
      ⟨hresting.quiescent, hresting.started, hresting.idle⟩
      (h.assigned.enabled hslave) ((h.assigned.isSlavePort hmode i).mpr hslave)
  constructor
  case assigned => exact hassigned
  case resting =>
    intro hruns' j hj
    by_cases hji : j = i
    · subst hji
      rw [storePortAnnounceInformationExt_self]
      exact (hcall hruns').right.right
    · rw [storePortAnnounceInformationExt_of_ne l hji]
      exact h.resting hruns j hj
  case traced =>
    intro hruns' announce' hheard
    cases hheard
    obtain ⟨hspare, hglobal, _⟩ := hcall hruns'
    change Traced announce m.vars.perPTPInstanceGlobal
    rw [hglobal]
    exact traced_heardGlobal hspare _

theorem RelayInvariant.ignore (h : RelayInvariant config memory heard l)
    (hruns : l.Runs) (hmode : l.External)
    (hslave : config.ptpPorts i.succ ≠ .slavePort) (ts : UScaledNs)
    (announce : PTPMsgAnnounce) :
    RelayInvariant config memory heard (l.recvAnnounce i ts announce) := by
  have hassigned := (kept_assigned config memory
    (.announce i ts announce)).recvAnnounce h.assigned hruns
  have hother : (l.loadPortAnnounceInformationExt i).isSlavePort = false := by
    rw [Bool.eq_false_iff]
    exact fun hslave' => hslave ((h.assigned.isSlavePort hmode i).mp hslave')
  unfold recvAnnounce at hassigned ⊢
  rw [if_pos hmode] at hassigned ⊢
  generalize hm : PortAnnounceInformationExtMachine.recvAnnounce
    { l.portAnnounceInformationExtSms i with
      vars := l.loadPortAnnounceInformationExt i } announce = m
      at hassigned ⊢
  have hglobal : m.vars.perPTPInstanceGlobal = l.perPTPInstanceGlobal := by
    rw [← hm]
    exact PortAnnounceInformationExtMachine.recvAnnounce_other hother
  constructor
  case assigned => exact hassigned
  case resting =>
    intro _ j hj
    have hji : j ≠ i := by
      rintro rfl
      exact hslave hj
    rw [storePortAnnounceInformationExt_of_ne l hji]
    exact h.resting hruns j hj
  case traced =>
    intro _ announce' hheard
    change Traced announce' m.vars.perPTPInstanceGlobal
    rw [hglobal]
    exact h.traced hruns announce' hheard

theorem RelayInvariant.transmit (h : RelayInvariant config memory heard l)
    (hruns : l.Runs) (i : PortIndex) (ts : UScaledNs) :
    RelayInvariant config memory heard (l.runTransmit i ts) := by
  have hframe := callFrame_runTransmit l i ts
  constructor
  case assigned => exact h.assigned.transmit hframe
  case resting => exact fun _ => h.resting hruns
  case traced =>
    intro _ announce hheard
    unfold runTransmit
    generalize PortAnnounceTransmitMachine.run _ ts = m at hframe ⊢
    change Traced announce m.vars.perPTPInstanceGlobal
    rw [hframe.global]
    exact h.traced hruns announce hheard

theorem thenDo_runSelection (hmode : l.External) :
    l.thenDo runSelection = l := by
  unfold thenDo runSelection
  rw [if_pos hmode, ite_self]

theorem step_ended (h : ¬ l.Runs) (e : Event) : step l e = l := by
  cases e <;> simp only [step, thenDo_ended h]

theorem step_timeout (hruns : l.Runs) (hmode : l.External) (ts : UScaledNs) :
    step l (.timeout i ts) = l.runTransmit i ts := by
  have hinformation : l.runInformation i ts = l := if_pos hmode
  change (l.thenDo (runInformation i ts)).thenDo (runTransmit i ts) = _
  rw [thenDo_runs hruns, hinformation, thenDo_runs hruns]

theorem step_announce (h : Assigned config memory l) (hruns : l.Runs)
    (hmode : l.External) (ts : UScaledNs) (announce : PTPMsgAnnounce) :
    step l (.announce i ts announce) = l.recvAnnounce i ts announce := by
  have hassigned := (kept_assigned config memory
    (.announce i ts announce)).recvAnnounce h hruns
  have hmode' :=
    (h.configured.external_congr hassigned.configured).mpr hmode
  change (l.thenDo (recvAnnounce i ts announce)).thenDo runSelection = _
  rw [thenDo_runs hruns, thenDo_runSelection hmode']

theorem RelayInvariant.step (h : RelayInvariant config memory heard l)
    (hmode : l.External) (e : Event) :
    RelayInvariant config memory ((e.heardMessage config).or heard)
      (step l e) := by
  by_cases hruns : l.Runs
  case neg =>
    rw [step_ended hruns]
    exact ⟨h.assigned, fun hruns' => absurd hruns' hruns,
      fun hruns' => absurd hruns' hruns⟩
  case pos =>
    cases e with
    | timeout i ts =>
        rw [step_timeout hruns hmode]
        exact h.transmit hruns i ts
    | announce i ts message =>
        rw [step_announce h.assigned hruns hmode]
        change RelayInvariant config memory
          (Option.or (if config.ptpPorts i.succ = .slavePort then some message
            else none) heard) (l.recvAnnounce i ts message)
        by_cases hslave : config.ptpPorts i.succ = .slavePort
        · rw [if_pos hslave]
          exact h.hear hruns hmode hslave ts message
        · rw [if_neg hslave]
          exact h.ignore hruns hmode hslave ts message
    | select =>
        change RelayInvariant config memory heard (l.thenDo runSelection)
        rw [thenDo_runSelection hmode]
        exact h
    | syncReceipt time =>
        change RelayInvariant config memory heard
          (l.thenDo (setSyncReceiptTimeoutTime time))
        rw [thenDo_runs hruns]
        constructor
        case assigned =>
          exact (kept_assigned config memory (.syncReceipt time)).syncReceipt l
            time h.assigned
        case resting => exact fun _ => h.resting hruns
        case traced =>
          intro _ announce hheard
          have htraced := h.traced hruns announce hheard
          exact ⟨htraced.spare, htraced.count, htraced.path⟩

theorem resting_initPort (h : Assigned config memory l) (hmode : l.External)
    (i : PortIndex) (hruns : (l.initPort i).Runs)
    (hslave : config.ptpPorts i.succ = .slavePort) :
    ((l.initPort i).portAnnounceInformationExtSms i).Resting := by
  have hl : l.Runs := runs_of_initPort hruns
  have hresting := PortAnnounceInformationExtMachine.resting_init
    (h.enabled hslave) hl
  have hinformation :
      ((l.initInformation i).portAnnounceInformationExtSms i).Resting := by
    unfold initInformation
    rw [if_pos hmode, storePortAnnounceInformationExt_self]
    exact hresting
  unfold initPort
  rw [thenDo_runs hl]
  exact thenDo_preserves
    (I := fun l => (l.portAnnounceInformationExtSms i).Resting) hinformation
    fun h _ => h

theorem resting_initPort_of_ne {j : PortIndex} (hmode : l.External)
    (hji : j ≠ i) (h : (l.portAnnounceInformationExtSms j).Resting) :
    ((l.initPort i).portAnnounceInformationExtSms j).Resting := by
  refine thenDo_preserves
    (I := fun l => (l.portAnnounceInformationExtSms j).Resting) ?_ fun h _ => h
  refine thenDo_preserves
    (I := fun l => (l.portAnnounceInformationExtSms j).Resting) h ?_
  intro h _
  unfold initInformation
  rw [if_pos hmode, storePortAnnounceInformationExt_of_ne l hji]
  exact h

theorem relayInvariant_start (memory : LoopMemory)
    (hmode : config.externalPortConfigurationEnabled = true) :
    RelayInvariant config memory none (start config memory) := by
  have hkept := keptInit_assigned config memory
  have hassigned := hkept.start (assigned_initial config memory)
  refine ⟨hassigned, fun hruns i hslave => ?_, fun _ _ hheard => ?_⟩
  · refine foldl_establishes (I := Assigned config memory)
      (V := fun i l => l.Runs -> config.ptpPorts i.succ = .slavePort ->
        (l.portAnnounceInformationExtSms i).Resting)
      (fun l i h => hkept.initPort h i) ?_ ?_ (List.mem_finRange i)
      (hkept.initSelection (assigned_initial config memory)) hruns hslave
    · intro l i h hruns hslave
      exact resting_initPort h (h.configured.external_iff.mpr hmode) i hruns
        hslave
    · intro l j i h hj hruns hslave
      have hext := h.configured.external_iff.mpr hmode
      by_cases hji : j = i
      · subst hji
        exact resting_initPort h hext j hruns hslave
      · exact resting_initPort_of_ne hext hji
          (hj (runs_of_initPort hruns) hslave)
  · cases hheard

theorem relayInvariant_after (memory : LoopMemory)
    (hmode : config.externalPortConfigurationEnabled = true)
    (es : List Event) :
    RelayInvariant config memory (lastHeard config es)
      (after config memory es) := by
  have hes : Along step (fun _ _ => True) (start config memory) es :=
    fun _ _ _ _ => trivial
  refine history_invariant
    (I := fun es l => RelayInvariant config memory (lastHeard config es) l)
    (relayInvariant_start memory hmode) ?_ hes
  intro history e h _
  rw [lastHeard_concat]
  exact h.step (h.assigned.configured.external_iff.mpr hmode) e

end Relay

end AnnounceLoop

end TimeSync
end Ziggo
