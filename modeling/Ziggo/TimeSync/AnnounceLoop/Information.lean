import Ziggo.TimeSync.AnnounceLoop.Invariant
import Ziggo.TimeSync.PortStateSelectionSM.Selection

/-!
# The information of the ports

A port holds vectors of the instance itself or vectors that it has received.
What is known of both kinds is a parameter here.  It is enough to say what an
accepted message adds to it and what an election adds to it.
-/

namespace Ziggo
namespace TimeSync

open Foundation TsnDrivers

/-!
## One port
-/

/--
Properties of the vectors that the instance announces itself, of those that a
port has accepted, and of the messages that arrive.
-/
structure Knowledge where
  own : PriorityVector -> Prop
  foreign : PriorityVector -> Prop
  heard : PTPMsgAnnounce -> Prop
  /-- A port accepts a message that is better than what it holds. -/
  accept : forall announce old held, heard announce ->
    own held ∨ foreign held ->
    Superior (PortAnnounceInformationSM.messagePriorityOf old announce) held ->
    foreign (PortAnnounceInformationSM.messagePriorityOf old announce)

namespace Knowledge

variable (K : Knowledge)

/-- The port holds its own information, or received information. -/
def Knows (port : PerPortGlobal) : Prop :=
  (port.infoIs = .mine ∧ K.own port.portPriority) ∨
    (port.infoIs = .received ∧ K.foreign port.portPriority)

/-- What holds in every state of the machine. -/
structure Grounded (sm : PortAnnounceInformationSM) : Prop where
  master : K.own sm.perPortGlobal.masterPriority
  pending : forall announce, sm.rcvdAnnouncePtr = .live announce ->
    K.heard announce

/-- What holds once the action of a state has been performed. -/
def After (state : PortAnnounceInformationSMState)
    (sm : PortAnnounceInformationSM) : Prop :=
  K.Grounded sm ∧
    match state with
    | .init => True
    | .disabled => sm.perPortGlobal.infoIs = .disabled
    | .aged => sm.perPortGlobal.infoIs = .aged
    | .receive =>
        K.Knows sm.perPortGlobal ∧
          (sm.rcvdInfo = .superiorMasterInfo -> K.foreign sm.messagePriorityPAI)
    | _ => K.Knows sm.perPortGlobal

/-- What holds when a state is about to be entered. -/
def Before (state : PortAnnounceInformationSMState)
    (sm : PortAnnounceInformationSM) : Prop :=
  K.Grounded sm ∧
    match state with
    | .current => K.Knows sm.perPortGlobal
    | .receive => K.Knows sm.perPortGlobal
    | .inferiorMasterOrOtherPort => K.Knows sm.perPortGlobal
    | .repeatedMasterPort => K.Knows sm.perPortGlobal
    | .superiorMasterPort => K.foreign sm.messagePriorityPAI
    | _ => True

variable {K}

theorem Knows.held {port : PerPortGlobal} (h : K.Knows port) :
    K.own port.portPriority ∨ K.foreign port.portPriority := by
  rcases h with ⟨_, hown⟩ | ⟨_, hforeign⟩
  · exact Or.inl hown
  · exact Or.inr hforeign

theorem Knows.superior {sm : PortAnnounceInformationSM}
    (h : K.Knows sm.perPortGlobal) {announce : PTPMsgAnnounce}
    (hheard : K.heard announce) {old : PriorityVector}
    (hmessage : sm.messagePriorityPAI =
      PortAnnounceInformationSM.messagePriorityOf old announce)
    (hclass : sm.classify = .superiorMasterInfo) :
    K.foreign sm.messagePriorityPAI := by
  have hsuperior : Superior sm.messagePriorityPAI
      sm.perPortGlobal.portPriority := by
    unfold PortAnnounceInformationSM.classify at hclass
    split at hclass
    · split at hclass
      · cases hclass
      · split at hclass
        case isTrue hsuperior => exact hsuperior
        · cases hclass
    · cases hclass
  rw [hmessage] at hsuperior ⊢
  exact K.accept announce old _ hheard h.held hsuperior

section Actions

open PortAnnounceInformationSM

variable {ts : UScaledNs} {state : PortAnnounceInformationSMState}
  {sm sm' : PortAnnounceInformationSM}

theorem recordOtherAnnounceInfo_ok {announce : PTPMsgAnnounce}
    (h : sm.recordOtherAnnounceInfo announce = .ok sm') :
    sm'.rcvdAnnouncePtr = sm.rcvdAnnouncePtr ∧
      sm'.perPortGlobal.infoIs = sm.perPortGlobal.infoIs ∧
      sm'.perPortGlobal.portPriority = sm.perPortGlobal.portPriority ∧
      sm'.perPortGlobal.masterPriority = sm.perPortGlobal.masterPriority := by
  obtain ⟨_, _, hreturn⟩ := bind_eq_ok.mp h
  cases hreturn
  exact ⟨rfl, rfl, rfl, rfl⟩

theorem Grounded.dropAnnounce (h : K.own sm.perPortGlobal.masterPriority) :
    K.Grounded sm.dropAnnounce := by
  constructor
  · exact h
  · intro announce hlive
    cases hlive

theorem after_action (h : K.Before state sm)
    (haction : action ts state sm = .ok sm') : K.After state sm' := by
  obtain ⟨hgrounded, hbefore⟩ := h
  obtain ⟨hmaster, hpending⟩ := hgrounded
  cases state with
  | init =>
      cases haction
      exact ⟨⟨hmaster, hpending⟩, trivial⟩
  | disabled =>
      cases haction
      exact ⟨⟨hmaster, hpending⟩, rfl⟩
  | aged =>
      cases haction
      exact ⟨⟨hmaster, hpending⟩, rfl⟩
  | update =>
      cases haction
      exact ⟨⟨hmaster, hpending⟩, Or.inl ⟨rfl, hmaster⟩⟩
  | current =>
      cases haction
      exact ⟨⟨hmaster, hpending⟩, hbefore⟩
  | receive =>
      obtain ⟨announce, hlive, hreturn⟩ := bind_eq_ok.mp haction
      have hheard := hpending announce (Ptr.deref_eq_ok.mp hlive)
      cases hreturn
      let compared : PortAnnounceInformationSM :=
        { sm with
          perPTPInstanceGlobal :=
            { sm.perPTPInstanceGlobal with
              gmStepsRemoved := announce.stepsRemoved }
          messagePriorityPAI :=
            messagePriorityOf sm.messagePriorityPAI announce }
      have hknows : K.Knows compared.perPortGlobal := hbefore
      exact ⟨⟨hmaster, hpending⟩, hbefore, hknows.superior hheard rfl⟩
  | inferiorMasterOrOtherPort =>
      cases haction
      exact ⟨Grounded.dropAnnounce hmaster, hbefore⟩
  | repeatedMasterPort =>
      obtain ⟨_, _, hrest⟩ := bind_eq_ok.mp haction
      obtain ⟨recorded, hrecord, hreturn⟩ := bind_eq_ok.mp hrest
      obtain ⟨_, hinfo, hport, hown⟩ := recordOtherAnnounceInfo_ok hrecord
      cases hreturn
      constructor
      · exact Grounded.dropAnnounce (by rw [hown]; exact hmaster)
      · change K.Knows recorded.dropAnnounce.perPortGlobal
        unfold Knows dropAnnounce
        dsimp only
        rw [hinfo, hport]
        exact hbefore
  | superiorMasterPort =>
      obtain ⟨_, _, hrest⟩ := bind_eq_ok.mp haction
      obtain ⟨recorded, hrecord, hrest⟩ := bind_eq_ok.mp hrest
      obtain ⟨_, _, hrest⟩ := bind_eq_ok.mp hrest
      obtain ⟨_, _, hreturn⟩ := bind_eq_ok.mp hrest
      obtain ⟨_, _, hport, hown⟩ := recordOtherAnnounceInfo_ok hrecord
      cases hreturn
      constructor
      · exact Grounded.dropAnnounce (by
          change K.own recorded.perPortGlobal.masterPriority
          rw [hown]
          exact hmaster)
      · refine Or.inr ⟨rfl, ?_⟩
        change K.foreign recorded.perPortGlobal.portPriority
        rw [hport]
        exact hbefore

theorem before_transition {next : PortAnnounceInformationSMState}
    (h : K.After state sm) (hnext : transition ts state sm = .ok next)
    (hne : next ≠ state) : K.Before next sm := by
  obtain ⟨hgrounded, hafter⟩ := h
  refine ⟨hgrounded, ?_⟩
  cases state with
  | init =>
      cases hnext
      trivial
  | disabled =>
      rcases disabled_left hnext hne with ⟨rfl, _⟩
      trivial
  | aged =>
      rcases aged_left hnext hne with ⟨rfl, _⟩
      trivial
  | update =>
      cases hnext
      exact hafter
  | current =>
      rcases current_left hnext hne with ⟨rfl, _⟩ | ⟨rfl, _⟩ | ⟨rfl, _⟩
      · trivial
      · trivial
      · exact hafter
  | receive =>
      rcases receive_left hnext hne with rfl | rfl | ⟨rfl, hinfo⟩
      · exact hafter.left
      · exact hafter.left
      · exact hafter.right hinfo
  | inferiorMasterOrOtherPort =>
      cases hnext
      exact hafter
  | repeatedMasterPort =>
      cases hnext
      exact hafter
  | superiorMasterPort =>
      cases hnext
      exact hafter

end Actions

/-!
## The machine of one port
-/

/-- The machine has come to rest and its variables are as its state says. -/
structure Informed (K : Knowledge) (m : PortAnnounceInformationMachine) :
    Prop where
  quiescent : m.Quiescent
  started : m.state ≠ .init
  after : K.After m.state m.vars

section Runs

open PortAnnounceInformationSM PortAnnounceInformationMachine

variable {ts : UScaledNs} {m : PortAnnounceInformationMachine}

/-- The conditions of the states annotate the machine. -/
def conditions (K : Knowledge) (ts : UScaledNs) :
    Program.Annotation (behaviour ts).program :=
  (behaviour ts).annotate K.Before K.After
    (fun _ _ _ => after_action) (fun _ _ _ => before_transition)

theorem ready_state (m : PortAnnounceInformationMachine) :
    m.ready.state = .disabled ∨ m.ready.state = m.state :=
  ite_eq_or_eq _ _ _

theorem informed_of_holds (h : (conditions K ts).Holds m)
    (hruns : ((behaviour ts).program.run passes m).vars.process.stop = none) :
    K.Informed ((behaviour ts).program.run passes m) := by
  obtain ⟨hq, hafter⟩ := (conditions K ts).run_post passes h hruns
  obtain ⟨_, hsettled⟩ :=
    Program.run_settled (behaviour ts).program passes hruns
  refine ⟨hq, ?_, hafter⟩
  intro hinit
  rw [hinit] at hsettled
  cases hsettled

theorem holds_ready (h : K.Informed m) : (conditions K ts).Holds m.ready := by
  constructor
  · intro hq
    have hstate : m.ready.state = m.state :=
      Option.some.inj (hq.symm.trans h.quiescent)
    change K.After m.ready.state m.vars
    rw [hstate]
    exact h.after
  · intro hq
    change K.Before m.ready.state m.vars
    rcases ready_state m with hstate | hstate
    · rw [hstate]
      exact ⟨h.after.left, trivial⟩
    · exact absurd (h.quiescent.trans (congrArg some hstate.symm)) hq

theorem Informed.run (h : K.Informed m)
    (hruns : (m.run ts).vars.process.stop = none) : K.Informed (m.run ts) :=
  informed_of_holds (holds_ready h) hruns

theorem Informed.recvAnnounce (h : K.Informed m) {announce : PTPMsgAnnounce}
    (hheard : K.heard announce)
    (hruns : (m.recvAnnounce ts announce).vars.process.stop = none) :
    K.Informed (m.recvAnnounce ts announce) := by
  unfold PortAnnounceInformationMachine.recvAnnounce at hruns ⊢
  cases hstore : m.vars.storeAnnounce announce with
  | error f =>
      rw [hstore] at hruns
      cases hruns
  | ok vars =>
      rw [hstore] at hruns
      obtain ⟨_, _, hreturn⟩ := bind_eq_ok.mp hstore
      cases hreturn
      have hgrounded : K.Grounded
          { m.vars with
            perPortGlobal := { m.vars.perPortGlobal with rcvdMsg := true }
            rcvdAnnouncePtr := .live announce } := by
        refine ⟨h.after.left.master, ?_⟩
        intro announce' hlive
        cases hlive
        exact hheard
      refine Informed.run ⟨h.quiescent, h.started, hgrounded, ?_⟩ hruns
      have hafter := h.after.right
      revert hafter
      dsimp only
      cases m.state <;> exact id

/-- The first run leaves a port without information. -/
theorem informed_init {memory : PortAnnounceInformationSM}
    (hmaster : K.own memory.perPortGlobal.masterPriority)
    (hruns : (initPortAnnounceInformationSm memory).vars.process.stop = none) :
    K.Informed (initPortAnnounceInformationSm memory) := by
  refine informed_of_holds ⟨fun hq => absurd hq ?_, fun _ => ?_⟩ hruns
  · intro h
    cases h
  · have hgrounded : K.Grounded { memory with rcvdAnnouncePtr := .null } := by
      refine ⟨hmaster, ?_⟩
      intro announce hlive
      cases hlive
    rcases ready_state
        { state := .init
          lastState := none
          vars := { memory with rcvdAnnouncePtr := .null } } with
      hstate | hstate
    · rw [hstate]
      exact ⟨hgrounded, trivial⟩
    · rw [hstate]
      exact ⟨hgrounded, trivial⟩

end Runs

end Knowledge

end TimeSync
end Ziggo
