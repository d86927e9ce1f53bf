import Ziggo.TimeSync.AnnounceLoop.Relay

/-!
# Announcements sent under external port configuration

The identity and the distance of the grandmaster that a master port announces
are those that its variables had before the loop set any of them.
-/

namespace Ziggo
namespace TimeSync

open Foundation TsnDrivers

namespace AnnounceLoop

/-- The message announces what the slave port has heard. -/
structure Relays (config : Config) (heard announce : PTPMsgAnnounce) :
    Prop where
  systemIdentity : announce.systemIdentity = heard.systemIdentity
  stepsRemoved : announce.stepsRemoved = heard.stepsRemoved + 1
  path : announce.path = heard.path ++ [config.systemIdentity.clockIdentity]

/-- The message announces the instance itself. -/
structure Originates (config : Config) (announce : PTPMsgAnnounce) :
    Prop where
  systemIdentity : announce.systemIdentity = config.systemIdentity
  stepsRemoved : announce.stepsRemoved = 0

/-- What the variables of a port hold before the loop sets any of them. -/
structure Remembers (memory : LoopMemory) (i : PortIndex)
    (systemIdentity : SystemIdentity) (stepsRemoved : UInt16) : Prop where
  systemIdentity : (memory.perPortGlobal i).masterPriority.rootSystemIdentity =
    systemIdentity
  stepsRemoved : memory.perPTPInstanceGlobal.masterStepsRemoved = stepsRemoved

/-- The frames that an event sends. -/
def transmitted (l : AnnounceLoop) (e : Event) : List Frame :=
  (step l e).process.sent.drop l.process.sent.length

/-!
## The contents of the messages
-/

/-- Every message sent announces what the memory of its port held. -/
structure SentMemory (memory : LoopMemory) (l : AnnounceLoop) : Prop where
  sent : l.External -> forall i announce,
    { port := i.succ, message := .announce announce } ∈ l.process.sent ->
      Remembers memory i announce.systemIdentity announce.stepsRemoved

section Contents

variable {config : Config} {memory : LoopMemory} {l : AnnounceLoop}
  {i : PortIndex}

theorem Assigned.remembers (h : Assigned config memory l) (hmode : l.External)
    {j : PortIndex} {announce : PTPMsgAnnounce}
    (hcarries : PortAnnounceTransmitMachine.Carries l.perPTPInstanceGlobal
      (l.perPortGlobal i) { port := j.succ, message := .announce announce }) :
    Remembers memory j announce.systemIdentity announce.stepsRemoved := by
  obtain ⟨sequenceId, pathSequence, _, hframe⟩ := hcarries
  obtain ⟨hport, hmessage⟩ := Frame.mk.inj hframe
  have hji : j = i :=
    Fin.succ_injective nPorts (hport.trans (h.configured.thisPort i))
  subst hji
  cases PTPMsg.announce.inj hmessage
  constructor
  case systemIdentity =>
    exact congrArg PriorityVector.rootSystemIdentity
      (h.masterPriority hmode j).symm
  case stepsRemoved => exact (h.masterStepsRemoved hmode).symm

theorem SentMemory.congr (h : SentMemory memory l) {l' : AnnounceLoop}
    (hmode : l'.External <-> l.External)
    (hsent : l'.process.sent = l.process.sent) : SentMemory memory l' := by
  refine ⟨fun hmode' i announce hmem => ?_⟩
  rw [hsent] at hmem
  exact h.sent (hmode.mp hmode') i announce hmem

theorem SentMemory.transmit (h : SentMemory memory l)
    (hassigned : Assigned config memory l) {m : PortAnnounceTransmitMachine}
    (hframe : PortAnnounceTransmitMachine.CallFrame
      (l.loadPortAnnounceTransmit i) m.vars) :
    SentMemory memory (l.storePortAnnounceTransmit i m) := by
  have hmode := hassigned.configured.external_congr
    (hassigned.transmit hframe).configured
  refine ⟨fun hext j announce hmem => ?_⟩
  obtain ⟨frames, hsent, hcarries⟩ := hframe.sent
  change _ ∈ m.vars.process.sent at hmem
  rw [hsent] at hmem
  rcases List.mem_append.mp hmem with hmem | hmem
  · exact h.sent (hmode.mp hext) j announce hmem
  · exact hassigned.remembers (hmode.mp hext) (hcarries _ hmem)

/-- The invariant of the messages sent. -/
def Remembered (config : Config) (memory : LoopMemory) (l : AnnounceLoop) :
    Prop :=
  Assigned config memory l ∧ SentMemory memory l

theorem Remembered.congr (h : Remembered config memory l) {l' : AnnounceLoop}
    (hassigned : Assigned config memory l')
    (hsent : l'.process.sent = l.process.sent) : Remembered config memory l' :=
  ⟨hassigned, h.right.congr
    (h.left.configured.external_congr hassigned.configured) hsent⟩

theorem Remembered.transmit (h : Remembered config memory l)
    {m : PortAnnounceTransmitMachine}
    (hframe : PortAnnounceTransmitMachine.CallFrame
      (l.loadPortAnnounceTransmit i) m.vars) :
    Remembered config memory (l.storePortAnnounceTransmit i m) :=
  ⟨h.left.transmit hframe, h.right.transmit h.left hframe⟩

theorem remembered_start (config : Config) (memory : LoopMemory) :
    Remembered config memory (start config memory) := by
  have hkept : KeptInit (Remembered config memory) := by
    constructor
    case selection =>
      exact fun l m h hmode hframe =>
        h.congr (h.left.selection hmode hframe) hframe.sent
    case information =>
      exact fun l i m h hmode hframe =>
        h.congr (h.left.information hmode hframe) hframe.sent
    case informationExt =>
      exact fun l i m h _ hframe =>
        h.congr (h.left.informationExt hframe) hframe.sent
    case transmit => exact fun l i m h hframe => h.transmit hframe
  refine hkept.start ⟨assigned_initial config memory, ⟨fun _ i _ hmem => ?_⟩⟩
  cases hmem

theorem kept_remembered (config : Config) (memory : LoopMemory) (e : Event) :
    Kept e (Remembered config memory) := by
  have hassigned := kept_assigned config memory e
  constructor
  case selection =>
    exact fun l m h hruns hmode hframe =>
      h.congr (hassigned.selection l m h.left hruns hmode hframe) hframe.sent
  case information =>
    exact fun l i m h hruns hmode hframe =>
      h.congr (hassigned.information l i m h.left hruns hmode hframe)
        hframe.sent
  case informationExt =>
    exact fun l i m h hruns hmode hframe =>
      h.congr (hassigned.informationExt l i m h.left hruns hmode hframe)
        hframe.sent
  case transmit => exact fun l i m h _ hframe => h.transmit hframe
  case syncReceipt =>
    exact fun l time h => h.congr (hassigned.syncReceipt l time h.left) rfl

theorem remembered_after (config : Config) (memory : LoopMemory)
    (es : List Event) : Remembered config memory (after config memory es) :=
  run_invariant_always (remembered_start config memory)
    (fun _ e h => (kept_remembered config memory e).step h) es

/-- The event adds the given frames to those sent. -/
theorem mem_transmitted {e : Event} {frames : List Frame}
    (h : (step l e).process.sent = l.process.sent ++ frames) {frame : Frame} :
    frame ∈ transmitted l e <-> frame ∈ frames := by
  unfold transmitted
  rw [h, List.drop_left]

theorem not_mem_transmitted {e : Event}
    (h : (step l e).process.sent = l.process.sent) (frame : Frame) :
    frame ∉ transmitted l e := by
  have happend : (step l e).process.sent = l.process.sent ++ [] := by
    rw [h, List.append_nil]
  rw [mem_transmitted happend]
  exact List.not_mem_nil

/-- In external mode, only calls for timeouts send messages. -/
theorem carries_of_transmitted (h : Assigned config memory l)
    (hmode : l.External) {e : Event} {frame : Frame}
    (hmem : frame ∈ transmitted l e) :
    l.Runs ∧ exists i, PortAnnounceTransmitMachine.Carries
      l.perPTPInstanceGlobal (l.perPortGlobal i) frame := by
  by_cases hruns : l.Runs
  case neg =>
    refine absurd hmem (not_mem_transmitted ?_ frame)
    rw [step_ended hruns]
  case pos =>
    refine ⟨hruns, ?_⟩
    cases e with
    | timeout i ts =>
        obtain ⟨frames, hsent, hcarries⟩ := (callFrame_runTransmit l i ts).sent
        have hframes : (step l (.timeout i ts)).process.sent =
            l.process.sent ++ frames := by
          rw [step_timeout hruns hmode]
          exact hsent
        exact ⟨i, hcarries frame ((mem_transmitted hframes).mp hmem)⟩
    | announce i ts message =>
        refine absurd hmem (not_mem_transmitted ?_ frame)
        have hframe :=
          PortAnnounceInformationExtMachine.callFrame_recvAnnounce
            { l.portAnnounceInformationExtSms i with
              vars := l.loadPortAnnounceInformationExt i } message
        rw [step_announce h hruns hmode]
        unfold recvAnnounce
        rw [if_pos hmode]
        exact hframe.sent
    | select =>
        refine absurd hmem (not_mem_transmitted ?_ frame)
        rw [show step l .select = l from thenDo_runSelection hmode]
    | syncReceipt time =>
        refine absurd hmem (not_mem_transmitted ?_ frame)
        rw [show step l (.syncReceipt time) = l.setSyncReceiptTimeoutTime time
          from thenDo_runs hruns _]
        rfl

theorem path_of_traced {heard announce : PTPMsgAnnounce} {frame : Frame}
    (htraced : Traced heard l.perPTPInstanceGlobal)
    (hcarries : PortAnnounceTransmitMachine.Carries l.perPTPInstanceGlobal
      (l.perPortGlobal i) frame) (hframe : frame.message = .announce announce) :
    announce.path = heard.path ++ [l.perPTPInstanceGlobal.thisClock] := by
  obtain ⟨sequenceId, pathSequence, hcopy, rfl⟩ := hcarries
  cases PTPMsg.announce.inj hframe
  have hbound : l.perPTPInstanceGlobal.nPathTrace.toNat ≤ maxPathTraceN := by
    rw [htraced.count]
    exact htraced.spare
  unfold PTPMsgAnnounce.path
  rw [pathCount_announceOf hbound]
  change entries pathSequence l.perPTPInstanceGlobal.nPathTrace.toNat = _
  rw [entries_copyOctets hcopy, htraced.count]
  exact htraced.path

/-- A message is sent by a process whose loop goes on to be in some state. -/
theorem mem_sent_of_transmitted {e : Event} {frame : Frame}
    (h : frame ∈ transmitted l e) : frame ∈ (step l e).process.sent :=
  List.mem_of_mem_drop h

end Contents

/--
In external mode a master port relays what the slave port has heard, or where
there is no slave port announces the instance itself, if and only if the memory
of the port happens to hold that information already.
-/
theorem announces_iff_remembers (config : Config) (memory : LoopMemory)
    (hmode : config.externalPortConfigurationEnabled = true)
    (es : List Event) (i : PortIndex) (announce : PTPMsgAnnounce) :
    (forall heard e, lastHeard config es = some heard ->
        { port := i.succ, message := .announce announce } ∈
          transmitted (after config memory es) e ->
        (Relays config heard announce <->
          Remembers memory i heard.systemIdentity (heard.stepsRemoved + 1))) ∧
      ((forall p, config.ptpPorts p ≠ .slavePort) ->
        { port := i.succ, message := .announce announce } ∈
          (after config memory es).process.sent ->
        (Originates config announce <->
          Remembers memory i config.systemIdentity 0)) := by
  have hremembers : forall es,
      { port := i.succ, message := .announce announce } ∈
        (after config memory es).process.sent ->
      Remembers memory i announce.systemIdentity announce.stepsRemoved := by
    intro es hmem
    obtain ⟨hassigned, hsent⟩ := remembered_after config memory es
    exact hsent.sent (hassigned.configured.external_iff.mpr hmode) i announce hmem
  constructor
  · intro heard e hheard hmem
    have hrelay := relayInvariant_after memory hmode es
    have hext := hrelay.assigned.configured.external_iff.mpr hmode
    have hsent : { port := i.succ, message := .announce announce } ∈
        (after config memory (es ++ [e])).process.sent := by
      unfold after
      rw [runEvents_concat]
      exact mem_sent_of_transmitted hmem
    have hmemory := hremembers (es ++ [e]) hsent
    obtain ⟨hruns, j, hcarries⟩ :=
      carries_of_transmitted hrelay.assigned hext hmem
    have hpath := path_of_traced (hrelay.traced hruns heard hheard) hcarries rfl
    rw [hrelay.assigned.configured.thisClock] at hpath
    constructor
    · rintro ⟨hidentity, hsteps, _⟩
      rwa [hidentity, hsteps] at hmemory
    · rintro ⟨hidentity, hsteps⟩
      exact ⟨hmemory.systemIdentity.symm.trans hidentity,
        hmemory.stepsRemoved.symm.trans hsteps, hpath⟩
  · intro _ hmem
    have hmemory := hremembers es hmem
    constructor
    · rintro ⟨hidentity, hsteps⟩
      rwa [hidentity, hsteps] at hmemory
    · rintro ⟨hidentity, hsteps⟩
      exact ⟨hmemory.systemIdentity.symm.trans hidentity,
        hmemory.stepsRemoved.symm.trans hsteps⟩

/-- A grandmaster with priority 1 announces itself to the slave port. -/
def heardAnnounce : PTPMsgAnnounce :=
  { announceWithPath 1 with grandmasterPriority1 := 1 }

def relayEvents : List Event :=
  [.announce 0 oneSecond heardAnnounce]

/-- What port 2 sends afterwards. -/
def relayedAnnounce : PTPMsgAnnounce :=
  match transmitted (after relayConfig default relayEvents)
    (.timeout 1 oneSecond) with
  | { port := _, message := .announce announce } :: _ => announce
  | _ => default

theorem relayedAnnounce_mem :
    { port := (1 : PortIndex).succ, message := .announce relayedAnnounce } ∈
      transmitted (after relayConfig default relayEvents)
        (.timeout 1 oneSecond) := by
  decide +kernel

theorem relayedAnnounce_iff :
    Relays relayConfig heardAnnounce relayedAnnounce <->
      Remembers default 1 heardAnnounce.systemIdentity
        (heardAnnounce.stepsRemoved + 1) :=
  (announces_iff_remembers relayConfig default rfl relayEvents 1
    relayedAnnounce).left heardAnnounce (.timeout 1 oneSecond) rfl
    relayedAnnounce_mem

/-- The port announces what its memory held, not what has been heard. -/
theorem heard_announce_not_relayed :
    ¬ forall (config : Config) (memory : LoopMemory) (es : List Event)
        (i : PortIndex) (heard announce : PTPMsgAnnounce) (e : Event),
      config.externalPortConfigurationEnabled = true ->
      config.ptpPorts i.succ = .masterPort ->
      lastHeard config es = some heard ->
      { port := i.succ, message := .announce announce } ∈
        transmitted (after config memory es) e ->
      Relays config heard announce := by
  intro h
  have hrelays := h relayConfig default relayEvents 1 heardAnnounce
    relayedAnnounce (.timeout 1 oneSecond) rfl rfl rfl relayedAnnounce_mem
  exact absurd hrelays.systemIdentity (by decide +kernel)

end AnnounceLoop

end TimeSync
end Ziggo
