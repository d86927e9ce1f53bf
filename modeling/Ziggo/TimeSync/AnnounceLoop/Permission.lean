import Ziggo.TimeSync.AnnounceLoop.OwnInformation
import Ziggo.TimeSync.AnnounceLoop.Pacing

/-!
# Ports that may announce

A message leaves by a port only in a call of its sender that finds the port to
be a master port whose information is settled.  The two machines that decide on
this have done so before the call, and the sender changes nothing about it.
-/

namespace Ziggo
namespace TimeSync

open Foundation TsnDrivers

namespace PortAnnounceTransmitSM

open PortAnnounceTransmitSMState

/-- A message may leave by the port of the machine. -/
def MayAnnounce (sm : PortAnnounceTransmitSM) : Prop :=
  sm.isMasterPort = true ∧ sm.portSettled = true

/-- A call that began with the variables `sm` has sent with permission only. -/
structure Permitted (sm : PortAnnounceTransmitSM)
    (state : PortAnnounceTransmitSMState) (sm' : PortAnnounceTransmitSM) :
    Prop where
  global : sm'.perPTPInstanceGlobal = sm.perPTPInstanceGlobal
  port : sm'.perPortGlobal = sm.perPortGlobal
  entered : state = transmitAnnounce -> sm.MayAnnounce
  sent : sm'.process.sent = sm.process.sent ∨ sm.MayAnnounce

section Calls

variable {sm sm' sm'' : PortAnnounceTransmitSM} {ts : UScaledNs}
  {state next : PortAnnounceTransmitSMState}

theorem MayAnnounce.congr (h : sm'.MayAnnounce)
    (hglobal : sm'.perPTPInstanceGlobal = sm.perPTPInstanceGlobal)
    (hport : sm'.perPortGlobal = sm.perPortGlobal) : sm.MayAnnounce := by
  have hmaster : sm'.isMasterPort = sm.isMasterPort := by
    unfold isMasterPort
    rw [hglobal, hport]
  exact ⟨hmaster.symm.trans h.left,
    (portSettled_congr hglobal hport).symm.trans h.right⟩

theorem Permitted.action (h : Permitted sm state sm')
    (haction : PortAnnounceTransmitSM.action ts state sm' = .ok sm'') :
    Permitted sm state sm'' := by
  cases state with
  | transmitAnnounce =>
      obtain ⟨hglobal, hport, _⟩ :=
        PortAnnounceTransmitMachine.transmitAnnounceAction_ok haction
      exact ⟨hglobal.trans h.global, hport.trans h.port, h.entered,
        Or.inr (h.entered rfl)⟩
  | _ =>
      cases haction
      exact ⟨h.global, h.port, h.entered, h.sent⟩

/-- The state that sends is entered with permission. -/
theorem mayAnnounce_of_transition
    (h : transition ts state sm = .ok transmitAnnounce)
    (hne : transmitAnnounce ≠ state) : sm.MayAnnounce := by
  cases state with
  | idle =>
      rcases idle_left h hne with ⟨hperiodic, _⟩ | ⟨_, _, hmaster, _, hsettled⟩
      · cases hperiodic
      · exact ⟨hmaster, hsettled⟩
  | transmitAnnounce => exact absurd rfl hne
  | _ => cases h

theorem Permitted.transition (h : Permitted sm state sm')
    (hnext : PortAnnounceTransmitSM.transition ts state sm' = .ok next)
    (hne : next ≠ state) : Permitted sm next sm' where
  global := h.global
  port := h.port
  entered := by
    intro hsends
    subst hsends
    exact (mayAnnounce_of_transition hnext hne).congr h.global h.port
  sent := h.sent

end Calls

end PortAnnounceTransmitSM

namespace PortAnnounceTransmitMachine

open PortAnnounceTransmitSM

/-- What a call that begins with the variables `sm` has sent so far. -/
def permission (sm : PortAnnounceTransmitSM) (ts : UScaledNs) :
    Program.Annotation (behaviour ts).program :=
  (behaviour ts).annotate (Permitted sm) (Permitted sm)
    (fun _ _ _ h haction => h.action haction)
    (fun _ _ _ h hnext hne => h.transition hnext hne)

theorem sends_permitted {m : PortAnnounceTransmitMachine} {ts : UScaledNs}
    (hstarted : m.vars.perPTPInstanceGlobal.BEGIN = false ∧
      m.vars.perPTPInstanceGlobal.instanceEnable = true)
    (hstate : m.state ≠ .transmitAnnounce)
    (hrunning : m.vars.process.stop = none) :
    (m.run ts).vars.process.sent = m.vars.process.sent ∨
      m.vars.MayAnnounce := by
  have hbegin : Permitted m.vars m.state m.vars :=
    ⟨rfl, rfl, fun hsends => absurd hsends hstate, Or.inl rfl⟩
  unfold run
  rw [ready_of_started hstarted]
  exact Behaviour.run_always (behaviour_records ts) (permission m.vars ts)
    (I := fun sm => sm.process.sent = m.vars.process.sent ∨ m.vars.MayAnnounce)
    (fun _ _ h => h.sent) (fun _ _ h => h.sent) (fun _ _ h => h) passes
    ⟨fun _ => hbegin, fun _ => hbegin⟩ hrunning

theorem init_sends_permitted {memory : PortAnnounceTransmitSM}
    (hstarted : memory.perPTPInstanceGlobal.BEGIN = false ∧
      memory.perPTPInstanceGlobal.instanceEnable = true)
    (hrunning : memory.process.stop = none) :
    (initPortAnnounceTransmitSm memory).vars.process.sent =
        memory.process.sent ∨ memory.MayAnnounce := by
  unfold initPortAnnounceTransmitSm
  exact sends_permitted hstarted
    (fun hsends : PortAnnounceTransmitSMState.init = .transmitAnnounce => by
      cases hsends) hrunning

end PortAnnounceTransmitMachine

namespace AnnounceLoop

open PortAnnounceTransmitSM

/-- A master port whose information is settled. -/
def MayAnnounce (l : AnnounceLoop) (i : PortIndex) : Prop :=
  l.perPTPInstanceGlobal.selectedState i.succ = .masterPort ∧
    ((l.perPTPInstanceGlobal.selected i.succ = true ∧
        (l.perPortGlobal i).updtInfo = false) ∨
      l.External)

instance (l : AnnounceLoop) (i : PortIndex) : Decidable (l.MayAnnounce i) :=
  inferInstanceAs (Decidable (_ ∧ _))

section Senders

variable {config : Config} {i j : PortIndex} {l : AnnounceLoop}

theorem mayAnnounce_of_load (h : Configured config l)
    (hmay : (l.loadPortAnnounceTransmit i).MayAnnounce) : l.MayAnnounce i := by
  obtain ⟨hmaster, hsettled⟩ := hmay
  have hstate := of_decide_eq_true hmaster
  have hinfo := of_decide_eq_true hsettled
  change l.perPTPInstanceGlobal.selectedState (l.perPortGlobal i).thisPort = _
    at hstate
  change (l.perPTPInstanceGlobal.selected (l.perPortGlobal i).thisPort = true ∧
    _) ∨ _ at hinfo
  rw [h.thisPort] at hstate hinfo
  exact ⟨hstate, hinfo⟩

theorem permitted_store (h : Configured config l)
    {m : PortAnnounceTransmitMachine}
    (hframe : PortAnnounceTransmitMachine.CallFrame
      (l.loadPortAnnounceTransmit j) m.vars)
    (hcall : m.vars.process.sent = l.process.sent ∨
      (l.loadPortAnnounceTransmit j).MayAnnounce)
    (hsends : (l.storePortAnnounceTransmit j m).announceCount i ≠
      l.announceCount i) : i = j ∧ l.MayAnnounce i := by
  have hij : i = j := by
    by_contra hij
    exact hsends (congrArg List.length (sequenceIds_transmit h hij hframe))
  subst hij
  refine ⟨rfl, mayAnnounce_of_load h (hcall.resolve_left fun hsame => ?_)⟩
  exact hsends
    (congrArg (fun sent => (sequenceIds .announce i.succ sent).length) hsame)

theorem permitted_runTransmit (h : Configured config l)
    (hwaits : (l.portAnnounceTransmitSms j).Waits) (hruns : l.Runs)
    {ts : UScaledNs}
    (hsends : (l.runTransmit j ts).announceCount i ≠ l.announceCount i) :
    i = j ∧ l.MayAnnounce i := by
  have hidle : (l.portAnnounceTransmitSms j).state ≠ .transmitAnnounce := by
    rw [hwaits.right]
    decide
  refine permitted_store h (callFrame_runTransmit l j ts) ?_ hsends
  exact PortAnnounceTransmitMachine.sends_permitted
    (m := { l.portAnnounceTransmitSms j with
      vars := l.loadPortAnnounceTransmit j }) h.started hidle hruns

theorem permitted_initTransmit (h : Configured config l) (hruns : l.Runs)
    (hsends : (l.initTransmit j).announceCount i ≠ l.announceCount i) :
    i = j ∧ l.MayAnnounce i := by
  exact permitted_store h
    (PortAnnounceTransmitMachine.callFrame_init (l.loadPortAnnounceTransmit j))
    (PortAnnounceTransmitMachine.init_sends_permitted h.started hruns) hsends

/-!
## Events
-/

theorem permitted_timeout {ts : UScaledNs} (h : Configured config l)
    (hwaits : l.Runs -> (l.portAnnounceTransmitSms j).Waits)
    (hsends : (step l (.timeout j ts)).announceCount i ≠ l.announceCount i) :
    i = j ∧ (l.thenDo (runInformation j ts)).MayAnnounce i := by
  have hunchanged := Unchanged.thenDo (unchanged_runInformation j ts) l
  have hconfigured := h.thenRunInformation j ts
  rw [← hunchanged.announceCount i] at hsends
  unfold step at hsends
  dsimp only at hsends
  by_cases hruns : (l.thenDo (runInformation j ts)).Runs
  · rw [thenDo_runs hruns] at hsends
    have hrests := hwaits (runs_of_thenDo hruns).left
    rw [← hunchanged.portAnnounceTransmitSms] at hrests
    exact permitted_runTransmit hconfigured hrests hruns hsends
  · rw [thenDo_ended hruns] at hsends
    exact absurd rfl hsends

/-- Only the check for timeouts calls a sender. -/
theorem permitted_step (h : Configured config l)
    (hwaits : l.Runs -> forall j, (l.portAnnounceTransmitSms j).Waits)
    {e : Event} (hsends : (step l e).announceCount i ≠ l.announceCount i) :
    exists ts, e = .timeout i ts ∧
      (l.thenDo (runInformation i ts)).MayAnnounce i := by
  cases e with
  | timeout j ts =>
      obtain ⟨rfl, hmay⟩ :=
        permitted_timeout h (fun hruns => hwaits hruns j) hsends
      exact ⟨ts, rfl, hmay⟩
  | announce j ts message =>
      have hrecv := Unchanged.thenDo (unchanged_recvAnnounce j ts message) l
      have hselection := Unchanged.thenDo unchanged_runSelection
        (l.thenDo (recvAnnounce j ts message))
      exact absurd ((hselection.announceCount i).trans (hrecv.announceCount i))
        hsends
  | select =>
      have hselection := Unchanged.thenDo unchanged_runSelection l
      exact absurd (hselection.announceCount i) hsends
  | syncReceipt time =>
      have hset := Unchanged.thenDo (unchanged_syncReceipt time) l
      exact absurd (hset.announceCount i) hsends

theorem permitted_initPort (h : Configured config l)
    (hsends : (l.initPort j).announceCount i ≠ l.announceCount i) :
    i = j ∧ (l.thenDo (initInformation j)).MayAnnounce i := by
  have hunchanged := Unchanged.thenDo (unchanged_initInformation j) l
  have hconfigured := h.thenInitInformation j
  rw [← hunchanged.announceCount i] at hsends
  unfold initPort at hsends
  by_cases hruns : (l.thenDo (initInformation j)).Runs
  · rw [thenDo_runs hruns] at hsends
    exact permitted_initTransmit hconfigured hruns hsends
  · rw [thenDo_ended hruns] at hsends
    exact absurd rfl hsends

end Senders

/-!
## Runs
-/

/-- The loop once the machines of some ports have been initialized. -/
def startedPorts (config : Config) (memory : LoopMemory)
    (ports : List PortIndex) : AnnounceLoop :=
  ports.foldl initPort (initial config memory).initSelection

section Runs

variable (config : Config) (memory : LoopMemory) (i : PortIndex)

theorem first_announces_permitted (ports : List PortIndex) (j : PortIndex)
    (hsends : ((startedPorts config memory ports).initPort j).announceCount i ≠
      (startedPorts config memory ports).announceCount i) :
    i = j ∧ ((startedPorts config memory ports).thenDo
      (initInformation j)).MayAnnounce i := by
  have hkept := keptInit_configured config
  have hinitial : Configured config (initial config memory) :=
    ⟨rfl, fun _ => rfl⟩
  have hconfigured : Configured config (startedPorts config memory ports) :=
    foldl_preserves (I := Configured config)
      (fun _ j h => hkept.initPort h j) ports (hkept.initSelection hinitial)
  exact permitted_initPort hconfigured hsends

/-- An event leads to a message by a port only if the port may announce. -/
theorem announces_permitted {es : List Event}
    (horder : (emitter i).InOrder es) {e : Event}
    (hsends : (step (after config memory es) e).announceCount i ≠
      (after config memory es).announceCount i) :
    exists ts, e = .timeout i ts ∧
      ((after config memory es).thenDo (runInformation i ts)).MayAnnounce i := by
  refine permitted_step (configured_after config memory es) ?_ hsends
  intro hruns j
  obtain ⟨_, hpaced⟩ := @paced_after config memory j es horder
  exact (hpaced.resting hruns).waits

end Runs

end AnnounceLoop

end TimeSync
end Ziggo
