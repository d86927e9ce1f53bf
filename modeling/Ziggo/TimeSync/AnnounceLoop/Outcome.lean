import Ziggo.TimeSync.AnnounceLoop.Echo
import Ziggo.TimeSync.AnnounceLoop.OwnInformation
import Ziggo.TimeSync.AnnounceLoop.Transmission

/-!
# Outcomes of the elections

Where all that is known of received vectors tells them apart from the vector of
the instance, an instance in BMCA mode is its own grandmaster without a slave
port, or follows a vector that it has received.  What it announces is known as
well.
-/

namespace Ziggo
namespace TimeSync

open Foundation TsnDrivers

/-- The state of the globals that an election leaves behind. -/
def Knowledge.Outcome (K : Knowledge) (config : Config)
    (g : PerPTPInstanceGlobal) : Prop :=
  (g.gmPriority = systemPriorityOf config.systemIdentity ∧
      forall i : PortIndex, g.selectedState i.succ ≠ .slavePort) ∨
    exists p, K.foreign p ∧ g.gmPriority = oneStepFurther p

/-- Received vectors have another grandmaster than the instance. -/
def Knowledge.Apart (K : Knowledge) (systemIdentity : SystemIdentity) : Prop :=
  forall p, K.foreign p -> p.rootSystemIdentity ≠ systemIdentity

/-- What is told by the messages that announce the own vectors. -/
def Knowledge.Tells (K : Knowledge) (said : PTPMsgAnnounce -> Prop) : Prop :=
  forall p announce, K.own p ->
    announce.systemIdentity = p.rootSystemIdentity ->
    announce.stepsRemoved = p.stepsRemoved -> said announce

/-!
## Elections
-/

section Election

variable {K : Knowledge} {config : Config} {g : PerPTPInstanceGlobal}
  {ports : PerPortGlobalArray}

theorem Knowledge.Outcome.congr {g' : PerPTPInstanceGlobal}
    (h : K.Outcome config g) (hgm : g'.gmPriority = g.gmPriority)
    (hselected : g'.selectedState = g.selectedState) : K.Outcome config g' := by
  unfold Outcome
  rw [hgm, hselected]
  exact h

/-- A port with a received vector does not elect the instance itself. -/
theorem Knowledge.Sound.not_elected (hordinary : config.Ordinary)
    (hapart : K.Apart config.systemIdentity) {i : PortIndex}
    (hport : K.Sound (ports i))
    (hsystem : electedPriority g ports =
      systemPriorityOf config.systemIdentity) : ¬ Elected g ports i := by
  rintro ⟨hreceived, hpath⟩
  rw [hsystem] at hpath
  have hforeign : K.foreign (ports i).portPriority := by
    rcases hport with hinfo | hinfo | ⟨hinfo, _⟩ | ⟨_, hforeign⟩
    · exact absurd (hinfo.symm.trans hreceived) (by decide)
    · exact absurd (hinfo.symm.trans hreceived) (by decide)
    · exact absurd (hinfo.symm.trans hreceived) (by decide)
    · exact hforeign
  unfold gmPathPriority at hpath
  split at hpath
  · exact hapart _ hforeign
      (congrArg PriorityVector.rootSystemIdentity hpath).symm
  · exact hordinary.ne_filledVector hpath

theorem Knowledge.Electable.outcome (hK : K.Electable config.systemIdentity)
    (hordinary : config.Ordinary) (hapart : K.Apart config.systemIdentity)
    (hclock : g.thisClock = config.systemIdentity.clockIdentity)
    (hsystem : g.systemPriority = systemPriorityOf config.systemIdentity)
    (hsymmetric : forall i, (ports i).asymmetryMeasurementMode = false)
    (hports : forall i, K.Sound (ports i)) :
    K.Outcome config (updtStatesTree g ports).1 := by
  unfold Outcome
  rw [gmPriority_updtStatesTree]
  rcases hK.elected hclock hsystem hports with
    helected | ⟨i, _, _, hforeign, _, helected⟩
  · refine Or.inl ⟨helected, fun i hslave => ?_⟩
    exact (hports i).not_elected hordinary hapart helected
      ((selectedState_updtStatesTree_succ g ports hsymmetric i).mp hslave)
  · exact Or.inr ⟨(ports i).portPriority, hforeign, helected⟩

end Election

/-!
## Calls of the machines of the ports
-/

namespace PortAnnounceInformationMachine

open PortAnnounceInformationSM

def outcomeView (sm : PortAnnounceInformationSM) :
    PriorityVector × (Port -> PortState) :=
  (sm.perPTPInstanceGlobal.gmPriority, sm.perPTPInstanceGlobal.selectedState)

theorem outcomeView_action {ts : UScaledNs}
    {state : PortAnnounceInformationSMState}
    {sm sm' : PortAnnounceInformationSM} (h : action ts state sm = .ok sm') :
    outcomeView sm' = outcomeView sm := by
  cases state with
  | receive =>
      obtain ⟨_, _, hreturn⟩ := bind_eq_ok.mp h
      cases hreturn
      rfl
  | repeatedMasterPort =>
      obtain ⟨_, _, hrest⟩ := bind_eq_ok.mp h
      obtain ⟨_, hrecord, hreturn⟩ := bind_eq_ok.mp hrest
      obtain ⟨_, _, hrecorded⟩ := bind_eq_ok.mp hrecord
      cases hrecorded
      cases hreturn
      rfl
  | superiorMasterPort =>
      obtain ⟨_, _, hrest⟩ := bind_eq_ok.mp h
      obtain ⟨_, hrecord, hrest⟩ := bind_eq_ok.mp hrest
      obtain ⟨_, _, hrest⟩ := bind_eq_ok.mp hrest
      obtain ⟨_, _, hreturn⟩ := bind_eq_ok.mp hrest
      obtain ⟨_, _, hrecorded⟩ := bind_eq_ok.mp hrecord
      cases hrecorded
      cases hreturn
      rfl
  | _ =>
      cases h
      rfl

theorem outcomeView_run (m : PortAnnounceInformationMachine) (ts : UScaledNs) :
    outcomeView (m.run ts).vars = outcomeView m.vars := by
  refine Behaviour.run_preserves (behaviour ts)
    (I := fun sm => outcomeView sm = outcomeView m.vars)
    ?_ ?_ ?_ ?_ passes rfl
  · intro state v v' h haction
    exact (outcomeView_action haction).trans h
  · exact fun _ _ _ h _ => h
  · exact fun _ _ _ h _ => h
  · exact fun _ h => h

theorem outcomeView_recvAnnounce (m : PortAnnounceInformationMachine)
    (ts : UScaledNs) (announce : PTPMsgAnnounce) :
    outcomeView (m.recvAnnounce ts announce).vars = outcomeView m.vars := by
  unfold recvAnnounce
  cases hstore : m.vars.storeAnnounce announce with
  | error f => rfl
  | ok vars =>
      obtain ⟨_, _, hreturn⟩ := bind_eq_ok.mp hstore
      cases hreturn
      exact outcomeView_run _ ts

end PortAnnounceInformationMachine

namespace AnnounceLoop

/-!
## Messages
-/

/-- All messages that have been sent tell what is given. -/
def Told (said : PTPMsgAnnounce -> Prop) (l : AnnounceLoop) : Prop :=
  forall frame, frame ∈ l.process.sent ->
    forall announce, frame.message = .announce announce -> said announce

section Messages

variable {K : Knowledge} {said : PTPMsgAnnounce -> Prop} {config : Config}
  {l : AnnounceLoop} {i : PortIndex}

/-- A message announces the vector that the port is to announce. -/
theorem Elected.told_of_carries (h : Elected config K l) (htells : K.Tells said)
    {frame : Frame} (hcarries : PortAnnounceTransmitMachine.Carries
      l.perPTPInstanceGlobal (l.perPortGlobal i) frame)
    {announce : PTPMsgAnnounce} (hmessage : frame.message = .announce announce) :
    said announce := by
  obtain ⟨sequenceId, pathSequence, _, rfl⟩ := hcarries
  cases PTPMsg.announce.inj hmessage
  refine htells _ _ (h.own i) rfl ?_
  rw [h.master i]
  exact h.steps

theorem Told.transmit (h : Told said l) (helected : Elected config K l)
    (htells : K.Tells said) {m : PortAnnounceTransmitMachine}
    (hframe : PortAnnounceTransmitMachine.CallFrame
      (l.loadPortAnnounceTransmit i) m.vars) :
    Told said (l.storePortAnnounceTransmit i m) := by
  obtain ⟨frames, hsent, hcarries⟩ := hframe.sent
  intro frame hmem announce hmessage
  change frame ∈ m.vars.process.sent at hmem
  rw [hsent] at hmem
  rcases List.mem_append.mp hmem with hold | hnew
  · exact h frame hold announce hmessage
  · exact helected.told_of_carries htells (hcarries frame hnew) hmessage

theorem Unchanged.told {l' : AnnounceLoop} (h : Unchanged l l')
    (hl : Told said l) : Told said l' := by
  unfold Told
  rw [h.sent]
  exact hl

end Messages

/-!
## Runs
-/

/-- What holds in every run whose messages are as expected. -/
structure Agreeing (config : Config) (K : Knowledge)
    (said : PTPMsgAnnounce -> Prop) (l : AnnounceLoop) : Prop where
  informed : l.Runs -> Informed config K l
  outcome : K.Outcome config l.perPTPInstanceGlobal
  told : Told said l

section Statements

variable {K : Knowledge} {said : PTPMsgAnnounce -> Prop} {config : Config}
  {l : AnnounceLoop}

theorem outcome_elect (hK : K.Electable config.systemIdentity)
    (hordinary : config.Ordinary) (hapart : K.Apart config.systemIdentity)
    (h : Informed config K l) :
    K.Outcome config l.elect.perPTPInstanceGlobal := by
  have hconfigured := h.elected.configured
  have houtcome : K.Outcome config l.tree.1 := by
    unfold AnnounceLoop.tree
    exact hK.outcome hordinary hapart hconfigured.thisClock
      hconfigured.systemPriority hconfigured.symmetric
      (fun i => (h.information i).sound)
  rw [elect_perPTPInstanceGlobal]
  exact houtcome.congr (setSelectedTree_gmPriority _)
    (setSelectedTree_selectedState _)

theorem Agreeing.runInformation (h : Agreeing config K said l)
    (hmode : config.externalPortConfigurationEnabled = false)
    (hruns : l.Runs) (i : PortIndex) (ts : UScaledNs) :
    Agreeing config K said (l.runInformation i ts) := by
  have hinformed := h.informed hruns
  have hexternal := hinformed.not_external hmode
  refine ⟨fun hruns' => hinformed.runInformation hexternal hruns', ?_,
    (unchanged_runInformation i ts l).told h.told⟩
  have hview := PortAnnounceInformationMachine.outcomeView_run
    (l.informationMachine i) ts
  unfold AnnounceLoop.runInformation
  rw [if_neg hexternal]
  exact h.outcome.congr (congrArg Prod.fst hview) (congrArg Prod.snd hview)

theorem Agreeing.recvAnnounce (h : Agreeing config K said l)
    (hmode : config.externalPortConfigurationEnabled = false)
    (hruns : l.Runs) (i : PortIndex) (ts : UScaledNs)
    {message : PTPMsgAnnounce} (hheard : K.heard message) :
    Agreeing config K said (l.recvAnnounce i ts message) := by
  have hinformed := h.informed hruns
  have hexternal := hinformed.not_external hmode
  refine ⟨fun hruns' => hinformed.recvAnnounce hexternal hheard hruns', ?_,
    (unchanged_recvAnnounce i ts message l).told h.told⟩
  have hview := PortAnnounceInformationMachine.outcomeView_recvAnnounce
    (l.informationMachine i) ts message
  unfold AnnounceLoop.recvAnnounce
  rw [if_neg hexternal]
  exact h.outcome.congr (congrArg Prod.fst hview) (congrArg Prod.snd hview)

theorem Agreeing.runTransmit (h : Agreeing config K said l)
    (htells : K.Tells said) (hruns : l.Runs) (i : PortIndex)
    (ts : UScaledNs) : Agreeing config K said (l.runTransmit i ts) := by
  have hinformed := h.informed hruns
  obtain ⟨hglobal, _⟩ := runTransmit_vars l i ts
  refine ⟨fun _ => hinformed.runTransmit i ts, ?_, ?_⟩
  · rw [hglobal]
    exact h.outcome
  · exact h.told.transmit hinformed.elected htells
      (callFrame_runTransmit l i ts)

theorem Agreeing.runSelection (h : Agreeing config K said l)
    (hK : K.Electable config.systemIdentity) (hordinary : config.Ordinary)
    (hapart : K.Apart config.systemIdentity)
    (hmode : config.externalPortConfigurationEnabled = false)
    (hruns : l.Runs) : Agreeing config K said l.runSelection := by
  have hinformed := h.informed hruns
  have hexternal := hinformed.not_external hmode
  refine ⟨fun _ => hinformed.runSelection hK hexternal hruns, ?_,
    (unchanged_runSelection l).told h.told⟩
  have henabled := hinformed.elected.configured.enabled hruns
  by_cases hasked : l.Asked
  · rw [runSelection_asked hinformed.elected.selection henabled hexternal
      hasked]
    exact outcome_elect hK hordinary hapart hinformed
  · rw [runSelection_idle hinformed.elected.selection henabled hexternal
      hasked]
    exact h.outcome

/-- What an instance keeps needs to be known of it and of its neighbours. -/
structure Settled (config : Config) (K : Knowledge)
    (said : PTPMsgAnnounce -> Prop) : Prop where
  mode : config.externalPortConfigurationEnabled = false
  ordinary : config.Ordinary
  electable : K.Electable config.systemIdentity
  apart : K.Apart config.systemIdentity
  tells : K.Tells said

theorem agreeing_step (hsettled : Settled config K said)
    (h : Agreeing config K said l) {e : Event} (hheard : e.Hears K.heard) :
    Agreeing config K said (step l e) := by
  obtain ⟨hmode, hordinary, hK, hapart, htells⟩ := hsettled
  cases e with
  | timeout i ts =>
      refine thenDo_preserves ?_ fun h hruns =>
        h.runTransmit htells hruns i ts
      exact thenDo_preserves h fun h hruns =>
        h.runInformation hmode hruns i ts
  | announce i ts message =>
      refine thenDo_preserves ?_ fun h hruns =>
        h.runSelection hK hordinary hapart hmode hruns
      exact thenDo_preserves h fun h hruns =>
        h.recvAnnounce hmode hruns i ts hheard
  | select =>
      exact thenDo_preserves h fun h hruns =>
        h.runSelection hK hordinary hapart hmode hruns
  | syncReceipt time =>
      refine thenDo_preserves h fun h _ => ⟨fun hruns => ?_, h.outcome, h.told⟩
      exact (h.informed hruns).setSyncReceiptTimeoutTime time

end Statements

/-!
## Initialization
-/

section Start

variable {K : Knowledge} {said : PTPMsgAnnounce -> Prop} {config : Config}
  {memory : LoopMemory} {l : AnnounceLoop}

/-- The first election, on zeroed memory, makes the instance its grandmaster. -/
theorem outcome_initSelection (hzeroed : memory.Zeroed)
    (hordinary : config.Ordinary)
    (hmode : ¬ (initial config memory).External) :
    K.Outcome config
      (initial config memory).initSelection.perPTPInstanceGlobal := by
  have hwinner : (bridged config memory).winner =
      systemPriorityOf config.systemIdentity := winner_bridged hzeroed
  refine Or.inl ⟨?_, fun i hslave => ?_⟩
  · rw [initSelection_eq hmode, elect_perPTPInstanceGlobal,
      setSelectedTree_gmPriority, gmPriority_tree]
    exact hwinner
  · rw [initSelection_eq hmode, elect_perPTPInstanceGlobal,
      setSelectedTree_selectedState] at hslave
    unfold AnnounceLoop.tree at hslave
    rw [selectedState_updtStatesTree_succ _ _
      (configured_bridged config memory).symmetric i] at hslave
    have hpath := hslave.right
    have hport : ((bridged config memory).perPortGlobal i).portPriority =
        default := congrArg PerPortGlobal.portPriority (hzeroed.port i)
    rw [gmPathPriority_zero hport] at hpath
    exact hordinary.ne_filledVector (hwinner.symm.trans hpath)

structure Initialized (config : Config) (K : Knowledge)
    (said : PTPMsgAnnounce -> Prop) (l : AnnounceLoop) : Prop where
  elected : Elected config K l
  outcome : K.Outcome config l.perPTPInstanceGlobal
  told : Told said l

theorem Initialized.initPort (h : Initialized config K said l)
    (hsettled : Settled config K said) (i : PortIndex) :
    Initialized config K said (l.initPort i) := by
  unfold AnnounceLoop.initPort
  refine thenDo_preserves (thenDo_preserves h fun h _ => ?_) fun h _ => ?_
  · have hexternal := h.elected.not_external hsettled.mode
    refine ⟨h.elected.initInformation hexternal i, ?_,
      (unchanged_initInformation i l).told h.told⟩
    have hview := PortAnnounceInformationMachine.outcomeView_run
      { state := .init
        lastState := none
        vars :=
          { l.loadPortAnnounceInformation i with rcvdAnnouncePtr := .null } }
      { subns := 0, nsec := 0, nsecMsb := 0 }
    unfold AnnounceLoop.initInformation
    rw [if_neg hexternal]
    exact h.outcome.congr (congrArg Prod.fst hview) (congrArg Prod.snd hview)
  · have hframe := PortAnnounceTransmitMachine.callFrame_init
      ((l.thenDo (initInformation i)).loadPortAnnounceTransmit i)
    refine ⟨h.elected.storeTransmit hframe, ?_,
      h.told.transmit h.elected hsettled.tells hframe⟩
    exact h.outcome.congr
      (congrArg PerPTPInstanceGlobal.gmPriority hframe.global)
      (congrArg PerPTPInstanceGlobal.selectedState hframe.global)

theorem agreeing_start (hsettled : Settled config K said)
    (hzeroed : memory.Zeroed) :
    Agreeing config K said (start config memory) := by
  have hfirst : FirstElection config memory K := by
    intro n
    rw [winner_bridged hzeroed]
    exact hsettled.electable.system n
  have hexternal : ¬ (initial config memory).External := by
    unfold AnnounceLoop.External
    exact ne_true_of_eq_false hsettled.mode
  have hselection : Initialized config K said
      (initial config memory).initSelection := by
    refine ⟨elected_initSelection hexternal hfirst,
      outcome_initSelection hzeroed hsettled.ordinary hexternal, ?_⟩
    refine (unchanged_initSelection _).told fun frame hmem => ?_
    cases hmem
  have hstart : Initialized config K said (start config memory) := by
    unfold start
    exact foldl_preserves (fun _ i h => h.initPort hsettled i)
      (List.finRange nPorts) hselection
  exact ⟨informed_start hfirst hsettled.mode, hstart.outcome, hstart.told⟩

end Start

end AnnounceLoop

end TimeSync
end Ziggo
