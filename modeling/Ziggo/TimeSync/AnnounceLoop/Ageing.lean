import Ziggo.Foundation.Transitions
import Ziggo.TimeSync.AnnounceLoop.OwnInformation

/-!
# Ageing of announce information

A port that holds received information lets it age once its announce receipt
timer, or the sync receipt timer of the instance, has run out.  The transition
function asks for received information with the first timer only.  The second
one ages whatever the port holds.
-/

namespace Ziggo
namespace TimeSync

open Foundation TsnDrivers

namespace PortAnnounceInformationSM

variable {ts : UScaledNs} {sm sm' : PortAnnounceInformationSM}

/-- The sync receipt timer has run out, and there is a grandmaster. -/
def SyncTimedOut (sm : PortAnnounceInformationSM) (ts : UScaledNs) : Prop :=
  uscalednsCompare ts sm.perPTPInstanceGlobal.syncReceiptTimeoutTime ≥ 0 ∧
    sm.perPTPInstanceGlobal.gmPresent = true

/-- The port holds received information, and nothing is about to replace it. -/
def Standing (sm : PortAnnounceInformationSM) : Prop :=
  sm.perPortGlobal.infoIs = .received ∧ sm.perPortGlobal.updtInfo = false ∧
    sm.perPortGlobal.rcvdMsg = false

def MayAge (sm : PortAnnounceInformationSM) (ts : UScaledNs) : Prop :=
  sm.Standing ∧ (uscalednsCompare ts sm.announceReceiptTimeoutTime ≥ 0 ∨
    sm.SyncTimedOut ts)

def Updating (sm : PortAnnounceInformationSM) : Prop :=
  sm.isSelected = true ∧ sm.perPortGlobal.updtInfo = true

instance : Decidable (sm.SyncTimedOut ts) :=
  inferInstanceAs (Decidable (_ ∧ _))

instance : Decidable sm.Standing :=
  inferInstanceAs (Decidable (_ ∧ _ ∧ _))

instance : Decidable sm.Updating :=
  inferInstanceAs (Decidable (_ ∧ _))

theorem timedOut_iff :
    sm.timedOut ts = true <->
      (sm.Standing ∧
          uscalednsCompare ts sm.announceReceiptTimeoutTime ≥ 0) ∨
        sm.SyncTimedOut ts := by
  unfold timedOut Standing SyncTimedOut
  rw [decide_eq_true_iff]
  constructor
  · rintro (⟨hinfo, hannounce, hupdt, hmsg⟩ | hsync)
    · exact Or.inl ⟨⟨hinfo, hupdt, hmsg⟩, hannounce⟩
    · exact Or.inr hsync
  · rintro (⟨⟨hinfo, hupdt, hmsg⟩, hannounce⟩ | hsync)
    · exact Or.inl ⟨hinfo, hannounce, hupdt, hmsg⟩
    · exact Or.inr hsync

theorem Standing.not_updating (h : sm.Standing) : ¬ sm.Updating := by
  intro hupdating
  rw [Updating, h.right.left] at hupdating
  cases hupdating.right

/-!
## States
-/

/-- What holds when a state is about to be entered, unless the port ages wrongly. -/
def Enters (ts : UScaledNs) (state : PortAnnounceInformationSMState)
    (sm : PortAnnounceInformationSM) : Prop :=
  match state with
  | .init => True
  | .disabled => True
  | .aged => True
  | .current => sm.SyncTimedOut ts -> sm.Standing
  | .receive => ¬ sm.SyncTimedOut ts ∧ sm.perPortGlobal.updtInfo = false
  | .superiorMasterPort => sm.perPortGlobal.updtInfo = false
  | _ => ¬ sm.SyncTimedOut ts

/-- What holds once its action has been performed. -/
def Entered (ts : UScaledNs) (state : PortAnnounceInformationSMState)
    (sm : PortAnnounceInformationSM) : Prop :=
  match state with
  | .aged => sm.SyncTimedOut ts -> ¬ sm.Updating
  | .superiorMasterPort => sm.Standing
  | state => Enters ts state sm

theorem isSelected_requestSelection (sm : PortAnnounceInformationSM) :
    sm.requestSelection.isSelected = false :=
  Function.update_self _ _ _

theorem entered_action {state : PortAnnounceInformationSMState}
    (h : Enters ts state sm) (haction : action ts state sm = .ok sm') :
    Entered ts state sm' := by
  cases state with
  | init => trivial
  | disabled => trivial
  | aged =>
      cases haction
      rintro _ ⟨hselected, _⟩
      change (requestSelection _).isSelected = true at hselected
      rw [isSelected_requestSelection] at hselected
      cases hselected
  | update =>
      cases haction
      exact h
  | current =>
      cases haction
      exact h
  | receive =>
      obtain ⟨_, _, hreturn⟩ := bind_eq_ok.mp haction
      cases hreturn
      exact h
  | inferiorMasterOrOtherPort =>
      cases haction
      exact h
  | repeatedMasterPort =>
      obtain ⟨_, _, hrest⟩ := bind_eq_ok.mp haction
      obtain ⟨_, hrecord, hreturn⟩ := bind_eq_ok.mp hrest
      obtain ⟨_, _, hrecorded⟩ := bind_eq_ok.mp hrecord
      cases hrecorded
      cases hreturn
      exact h
  | superiorMasterPort =>
      obtain ⟨_, _, hrest⟩ := bind_eq_ok.mp haction
      obtain ⟨_, hrecord, hrest⟩ := bind_eq_ok.mp hrest
      obtain ⟨_, _, hrest⟩ := bind_eq_ok.mp hrest
      obtain ⟨_, _, hreturn⟩ := bind_eq_ok.mp hrest
      obtain ⟨_, _, hrecorded⟩ := bind_eq_ok.mp hrecord
      cases hrecorded
      cases hreturn
      exact ⟨rfl, h, rfl⟩

theorem enters_transition {state next : PortAnnounceInformationSMState}
    (h : Entered ts state sm) (hnext : transition ts state sm = .ok next)
    (hne : next ≠ state) : Enters ts next sm := by
  cases state with
  | init =>
      cases hnext
      trivial
  | disabled =>
      rcases disabled_left hnext hne with ⟨rfl, _⟩
      trivial
  | aged =>
      rcases aged_left hnext hne with ⟨rfl, hupdating⟩
      exact fun hsync => h hsync hupdating
  | update =>
      cases hnext
      exact fun hsync => absurd hsync h
  | current =>
      rcases current_left hnext hne with
        ⟨rfl, hupdating⟩ | ⟨rfl, _⟩ | ⟨rfl, htimedOut, _, hupdt⟩
      · -- Information that stands is not updated.
        exact fun hsync => (h hsync).not_updating hupdating
      · trivial
      · exact ⟨fun hsync => htimedOut (timedOut_iff.mpr (Or.inr hsync)), hupdt⟩
  | receive =>
      rcases receive_left hnext hne with rfl | rfl | ⟨rfl, _⟩
      · exact h.left
      · exact h.left
      · exact h.right
  | inferiorMasterOrOtherPort =>
      cases hnext
      exact fun hsync => absurd hsync h
  | repeatedMasterPort =>
      cases hnext
      exact fun hsync => absurd hsync h
  | superiorMasterPort =>
      cases hnext
      exact fun _ => h

theorem mayAge_of_aged (h : Entered ts .current sm)
    (hnext : transition ts .current sm = .ok .aged) : sm.MayAge ts := by
  rcases current_left hnext (by decide) with
    ⟨hupdate, _⟩ | ⟨_, htimedOut⟩ | ⟨hreceive, _⟩
  · cases hupdate
  · rcases timedOut_iff.mp htimedOut with ⟨hstanding, hannounce⟩ | hsync
    · exact ⟨hstanding, Or.inl hannounce⟩
    · exact ⟨h hsync, Or.inr hsync⟩
  · cases hreceive

theorem transition_updating (h : sm.Updating) :
    transition ts .current sm = .ok .update :=
  congrArg Except.ok (if_pos h)

theorem transition_syncTimedOut (hupdating : ¬ sm.Updating)
    (hsync : sm.SyncTimedOut ts) :
    transition ts .current sm = .ok .aged := by
  have htimedOut : sm.timedOut ts = true := timedOut_iff.mpr (Or.inr hsync)
  exact congrArg Except.ok ((if_neg hupdating).trans (if_pos htimedOut))

end PortAnnounceInformationSM

namespace PortAnnounceInformationMachine

open PortAnnounceInformationSM

variable {ts : UScaledNs} {m : PortAnnounceInformationMachine}

/-!
## Calls
-/

/-- The machine of a port waits for the next call. -/
def Rests (m : PortAnnounceInformationMachine) : Prop :=
  m.Quiescent ∧
    (m.state = .disabled ∨ m.state = .aged ∨ m.state = .current)

/-- A call leads from `PAI_CURRENT` to `PAI_AGED` with these variables. -/
def Ages (m : PortAnnounceInformationMachine) (ts : UScaledNs)
    (sm : PortAnnounceInformationSM) : Prop :=
  (.current, sm, .aged) ∈ (behaviour ts).program.changes passes m.ready

/--
The sync receipt timer has run out on a port that either does not hold standing
information or takes up its own information in this call.
-/
def Overdue (m : PortAnnounceInformationMachine) (ts : UScaledNs) : Prop :=
  m.vars.SyncTimedOut ts ∧
    ((m.ready.state = .current ∧ ¬ m.vars.Standing) ∨
      (m.ready.state = .aged ∧ m.vars.Updating))

instance : Decidable (m.Overdue ts) :=
  inferInstanceAs (Decidable (_ ∧ _))

/-- The conditions of the states annotate the machine. -/
def ageing (ts : UScaledNs) : Program.Annotation (behaviour ts).program :=
  (behaviour ts).annotate (Enters ts) (Entered ts)
    (fun _ _ _ => entered_action) (fun _ _ _ => enters_transition)

theorem ready_quiescent (h : m.Rests) :
    m.ready.Quiescent ∨ m.ready.state = .disabled := by
  rcases Knowledge.ready_state m with hstate | hstate
  · exact Or.inr hstate
  · exact Or.inl (h.left.trans (congrArg some hstate.symm))

theorem ageing_ready (h : m.Rests) (hoverdue : ¬ m.Overdue ts) :
    (ageing ts).Holds m.ready := by
  have hrest : m.ready.state = .disabled ∨ m.ready.state = .aged ∨
      m.ready.state = .current := by
    rcases Knowledge.ready_state m with hstate | hstate
    · exact Or.inl hstate
    · rw [hstate]
      exact h.right
  constructor
  · intro _
    change Entered ts m.ready.state m.vars
    rcases hrest with hstate | hstate | hstate
    · rw [hstate]
      trivial
    · rw [hstate]
      exact fun hsync hupdating =>
        hoverdue ⟨hsync, Or.inr ⟨hstate, hupdating⟩⟩
    · rw [hstate]
      intro hsync
      by_contra hstanding
      exact hoverdue ⟨hsync, Or.inl ⟨hstate, hstanding⟩⟩
  · intro hq
    rcases ready_quiescent h with hq' | hstate
    · exact absurd hq' hq
    · change Enters ts m.ready.state m.vars
      rw [hstate]
      trivial

theorem mayAge_of_ages (h : m.Rests) (hoverdue : ¬ m.Overdue ts)
    {sm : PortAnnounceInformationSM} (hages : m.Ages ts sm) : sm.MayAge ts := by
  obtain ⟨hentered, hnext⟩ :=
    Behaviour.changes_post (ageing ts) passes (ageing_ready h hoverdue) hages
  exact mayAge_of_aged hentered hnext

theorem ages_update (hq : m.Quiescent) (hruns : m.vars.process.stop = none)
    (hnext : transition ts m.state m.vars = .ok .update)
    (hne : .update ≠ m.state) (hsync : m.vars.SyncTimedOut ts) (fuel : Nat) :
    (.current, m.vars.updateAction, .aged) ∈
      (behaviour ts).program.changes (fuel + 3) m := by
  have hidle : ¬ m.vars.updateAction.Updating := by
    rintro ⟨_, hupdt⟩
    cases hupdt
  have hupdate : action ts .update m.vars = .ok m.vars.updateAction := rfl
  have hupdated : transition ts .update m.vars.updateAction = .ok .current :=
    rfl
  have hcurrent : action ts .current m.vars.updateAction =
      .ok m.vars.updateAction := rfl
  have haged : transition ts .current m.vars.updateAction = .ok .aged :=
    transition_syncTimedOut hidle hsync
  let updating : PortAnnounceInformationMachine :=
    { state := .update, lastState := some m.state, vars := m.vars }
  have hentered : ¬ updating.Quiescent :=
    fun h => hne (Option.some.inj h).symm
  rw [Behaviour.changes_leave (fuel + 2) hq hruns hnext hne]
  refine List.mem_cons_of_mem _ ?_
  rw [Behaviour.changes_enter_leave (m := updating) (fuel + 1) hentered
    hupdate hruns hupdated (fun h => by cases h)]
  refine List.mem_cons_of_mem _ ?_
  rw [Behaviour.changes_enter_leave fuel (fun h => by cases h) hcurrent hruns
    haged (fun h => by cases h)]
  exact List.mem_cons_self

theorem ages_of_overdue (h : m.Rests) (hruns : m.vars.process.stop = none)
    (hoverdue : m.Overdue ts) :
    exists sm, m.Ages ts sm ∧ ¬ sm.Standing := by
  obtain ⟨hsync, hcase⟩ := hoverdue
  have hown : ¬ m.vars.updateAction.Standing := by
    rintro ⟨hinfo, _⟩
    cases hinfo
  have hq : m.ready.Quiescent := by
    refine (ready_quiescent h).resolve_right fun hdisabled => ?_
    rcases hcase with ⟨hstate, _⟩ | ⟨hstate, _⟩
    · rw [hdisabled] at hstate
      cases hstate
    · rw [hdisabled] at hstate
      cases hstate
  rcases hcase with ⟨hstate, hstanding⟩ | ⟨hstate, hupdating⟩
  · by_cases hupdating : m.vars.Updating
    · refine ⟨m.vars.updateAction, ?_, hown⟩
      refine ages_update hq hruns ?_ (by rw [hstate]; decide) hsync 13
      rw [hstate]
      exact transition_updating hupdating
    · refine ⟨m.vars, ?_, hstanding⟩
      have haged : transition ts m.ready.state m.ready.vars = .ok .aged := by
        rw [hstate]
        exact transition_syncTimedOut hupdating hsync
      unfold Ages passes
      rw [Behaviour.changes_leave 15 hq hruns haged (by rw [hstate]; decide),
        hstate]
      exact List.mem_cons_self
  · refine ⟨m.vars.updateAction, ?_, hown⟩
    refine ages_update hq hruns ?_ (by rw [hstate]; decide) hsync 13
    rw [hstate]
    exact congrArg Except.ok (if_pos hupdating)

theorem mayAge_iff (h : m.Rests) (hruns : m.vars.process.stop = none) :
    (forall sm, m.Ages ts sm -> sm.MayAge ts) <-> ¬ m.Overdue ts := by
  constructor
  · intro hages hoverdue
    obtain ⟨sm, haged, hstanding⟩ := ages_of_overdue h hruns hoverdue
    exact hstanding (hages sm haged).left
  · exact fun hoverdue sm hages => mayAge_of_ages h hoverdue hages

/-- A call that ends without a fault leaves the machine at rest. -/
theorem rests_run (hsymmetric :
      m.vars.perPortGlobal.asymmetryMeasurementMode = false)
    (hruns : (m.run ts).vars.process.stop = none) : (m.run ts).Rests := by
  obtain ⟨hq, hsettled⟩ :=
    Program.run_settled (behaviour ts).program passes hruns
  have hnext : transition ts (m.run ts).state (m.run ts).vars =
      .ok (m.run ts).state := Behaviour.transition_goto.mp hsettled
  have hframe := (callFrame_run (callFrame_refl m.vars) ts).port
  have hmode : (m.run ts).vars.perPortGlobal.asymmetryMeasurementMode =
      false :=
    (congrArg PortSettings.asymmetryMeasurementMode hframe).trans hsymmetric
  refine ⟨hq, ?_⟩
  cases hstate : (m.run ts).state with
  | disabled => exact Or.inl rfl
  | aged => exact Or.inr (Or.inl rfl)
  | current => exact Or.inr (Or.inr rfl)
  | receive =>
      rw [hstate] at hnext
      replace hnext := Except.ok.inj hnext
      unfold receiveStateTransition at hnext
      rw [hmode] at hnext
      split at hnext
      case isTrue h => cases h
      case isFalse => split at hnext <;> cases hnext
  | _ =>
      rw [hstate] at hnext
      cases hnext

theorem rests_recvAnnounce {announce : PTPMsgAnnounce}
    (hsymmetric : m.vars.perPortGlobal.asymmetryMeasurementMode = false)
    (hruns : (m.recvAnnounce ts announce).vars.process.stop = none) :
    (m.recvAnnounce ts announce).Rests := by
  unfold recvAnnounce at hruns ⊢
  cases hstore : m.vars.storeAnnounce announce with
  | error f =>
      rw [hstore] at hruns
      cases hruns
  | ok vars =>
      rw [hstore] at hruns
      obtain ⟨_, _, hreturn⟩ := bind_eq_ok.mp hstore
      cases hreturn
      exact rests_run hsymmetric hruns

end PortAnnounceInformationMachine

namespace AnnounceLoop

variable {config : Config} {memory : LoopMemory} {l : AnnounceLoop}

/-!
## Runs
-/

def Event.port : Event -> Option PortIndex
  | .timeout i _ => some i
  | .announce i _ _ => some i
  | .select => none
  | .syncReceipt _ => none

/-- The machine and the time that an event hands to the run of a port. -/
def informationCall (l : AnnounceLoop) (e : Event) :
    Option (PortAnnounceInformationMachine × UScaledNs) :=
  if l.process.stop ≠ none then
    none
  else
    match e with
    | .timeout i ts => some (l.informationMachine i, ts)
    | .announce i ts message =>
        match (l.loadPortAnnounceInformation i).storeAnnounce message with
        | .error _ => none
        | .ok sm => some ({ l.informationMachine i with vars := sm }, ts)
    | .select => none
    | .syncReceipt _ => none

theorem portAnnounceInformationSms_runSelection (l : AnnounceLoop) :
    l.runSelection.portAnnounceInformationSms =
      l.portAnnounceInformationSms := by
  unfold AnnounceLoop.runSelection
  split <;> rfl

/-- The machines of all ports wait for the next call. -/
structure Waiting (config : Config) (l : AnnounceLoop) : Prop where
  configured : Configured config l
  rests : forall i, (l.portAnnounceInformationSms i).Rests

theorem Waiting.store (h : Waiting config l) {i : PortIndex} {Fits : Prop}
    {m : PortAnnounceInformationMachine}
    (hframe : PortAnnounceInformationMachine.CallFrame Fits
      (l.loadPortAnnounceInformation i) m.vars) (hm : m.Rests) :
    Waiting config (l.storePortAnnounceInformation i m) := by
  refine ⟨h.configured.information hframe, fun j => ?_⟩
  by_cases hji : j = i
  · rw [hji, storePortAnnounceInformation_self]
    exact hm
  · rw [storePortAnnounceInformation_of_ne l hji]
    exact h.rests j

theorem Waiting.not_external (h : Waiting config l)
    (hmode : config.externalPortConfigurationEnabled = false) :
    ¬ l.External := by
  rw [h.configured.external_iff, hmode]
  decide

theorem Waiting.runInformation (h : Waiting config l) (hmode : ¬ l.External)
    {i : PortIndex} {ts : UScaledNs} (hruns : (l.runInformation i ts).Runs) :
    Waiting config (l.runInformation i ts) := by
  unfold AnnounceLoop.runInformation at hruns ⊢
  rw [if_neg hmode] at hruns ⊢
  exact h.store
    (PortAnnounceInformationMachine.callFrame_run (m := l.informationMachine i)
      (PortAnnounceInformationMachine.callFrame_refl _) ts)
    (PortAnnounceInformationMachine.rests_run
      (m := l.informationMachine i) (h.configured.symmetric i) hruns)

theorem Waiting.recvAnnounce (h : Waiting config l) (hmode : ¬ l.External)
    {i : PortIndex} {ts : UScaledNs} {message : PTPMsgAnnounce}
    (hruns : (l.recvAnnounce i ts message).Runs) :
    Waiting config (l.recvAnnounce i ts message) := by
  unfold AnnounceLoop.recvAnnounce at hruns ⊢
  rw [if_neg hmode] at hruns ⊢
  refine h.store
    (PortAnnounceInformationMachine.callFrame_recvAnnounce
      (l.informationMachine i) ts message) ?_
  exact PortAnnounceInformationMachine.rests_recvAnnounce
    (m := l.informationMachine i) (h.configured.symmetric i) hruns

theorem Waiting.runTransmit (h : Waiting config l) (i : PortIndex)
    (ts : UScaledNs) : Waiting config (l.runTransmit i ts) := by
  refine ⟨h.configured.transmit
    (PortAnnounceTransmitMachine.callFrame_run ?_ ts), h.rests⟩
  exact PortAnnounceTransmitMachine.callFrame_refl _

theorem Waiting.runSelection (h : Waiting config l) :
    Waiting config l.runSelection := by
  constructor
  case configured =>
    unfold AnnounceLoop.runSelection
    split
    · exact h.configured
    · refine h.configured.selection (PortStateSelectionMachine.callFrame_run ?_)
      exact ⟨rfl, fun _ => rfl, fun h => h, rfl, fun h => h⟩
  case rests =>
    rw [portAnnounceInformationSms_runSelection]
    exact h.rests

theorem keeping_waiting
    (hmode : config.externalPortConfigurationEnabled = false) :
    Keeping (fun _ => True) (Waiting config) where
  runInformation _ _ _ h _ hruns :=
    h.runInformation (h.not_external hmode) hruns
  recvAnnounce _ _ _ _ _ h _ hruns :=
    h.recvAnnounce (h.not_external hmode) hruns
  runTransmit _ i ts h _ := h.runTransmit i ts
  runSelection _ h _ := h.runSelection
  syncReceipt _ _ h := ⟨⟨h.configured.global, h.configured.port⟩, h.rests⟩

theorem portAnnounceInformationSms_initPort (hmode : ¬ l.External)
    {i : PortIndex} (hruns : (l.initPort i).Runs) :
    (l.initPort i).portAnnounceInformationSms =
        Function.update l.portAnnounceInformationSms i
          (.initPortAnnounceInformationSm (l.loadPortAnnounceInformation i)) ∧
      (PortAnnounceInformationMachine.initPortAnnounceInformationSm
        (l.loadPortAnnounceInformation i)).vars.process.stop = none := by
  unfold AnnounceLoop.initPort at hruns ⊢
  obtain ⟨hinformation, _⟩ := runs_of_thenDo hruns
  obtain ⟨hl, hinit⟩ := runs_of_thenDo hinformation
  rw [thenDo_runs hinformation, thenDo_runs hl]
  unfold AnnounceLoop.initTransmit AnnounceLoop.initInformation at *
  rw [if_neg hmode] at hinit ⊢
  exact ⟨rfl, hinit⟩

theorem waiting_start (hmode : config.externalPortConfigurationEnabled = false)
    (hruns : (start config memory).Runs) :
    Waiting config (start config memory) := by
  refine ⟨configured_start config memory, fun i => ?_⟩
  refine start_establishes
    (V := fun i l => (l.portAnnounceInformationSms i).Rests)
    (firstElection_sourceKnowledge config memory) hmode ?_ ?_ hruns i
  · intro l i h hruns
    obtain ⟨hmachines, hinit⟩ :=
      portAnnounceInformationSms_initPort (h.not_external hmode) hruns
    rw [hmachines, Function.update_self]
    exact PortAnnounceInformationMachine.rests_run
      (m := PortAnnounceInformationMachine.first
        (l.loadPortAnnounceInformation i)) (h.configured.symmetric i) hinit
  · intro l i j h hij hi hruns
    obtain ⟨hmachines, _⟩ :=
      portAnnounceInformationSms_initPort (h.not_external hmode) hruns
    rw [hmachines, Function.update_of_ne hij]
    exact hi

theorem waiting_after (hmode : config.externalPortConfigurationEnabled = false)
    {es : List Event} (hruns : (after config memory es).Runs) :
    Waiting config (after config memory es) :=
  (keeping_waiting hmode).after (waiting_start hmode)
    (fun e _ => by cases e <;> exact trivial) hruns

/-- What an event hands to a port is a machine at rest in a process that runs. -/
theorem Waiting.informationCall (h : l.Runs -> Waiting config l) {e : Event}
    {m : PortAnnounceInformationMachine} {ts : UScaledNs}
    (hcall : l.informationCall e = some (m, ts)) :
    m.Rests ∧ m.vars.process.stop = none := by
  unfold AnnounceLoop.informationCall at hcall
  split at hcall
  · cases hcall
  case isFalse hstop =>
    have hl : l.Runs := not_not.mp hstop
    cases e with
    | timeout i ts =>
        cases hcall
        exact ⟨(h hl).rests i, hl⟩
    | announce i ts message =>
        dsimp only at hcall
        split at hcall
        · cases hcall
        case h_2 sm hstore =>
          obtain ⟨_, _, hreturn⟩ := bind_eq_ok.mp hstore
          cases hreturn
          cases hcall
          exact ⟨(h hl).rests i, hl⟩
    | select => cases hcall
    | syncReceipt time => cases hcall

/-- Every call of the event ages a port only if its information may age. -/
def AgesProperly (l : AnnounceLoop) (e : Event) : Prop :=
  forall m ts, l.informationCall e = some (m, ts) ->
    forall sm, m.Ages ts sm -> sm.MayAge ts

/-- No call of the event is made once the sync receipt timer has run out. -/
def Timely (l : AnnounceLoop) (e : Event) : Prop :=
  forall m ts, l.informationCall e = some (m, ts) -> ¬ m.Overdue ts

theorem agesProperly_iff_timely (config : Config) (memory : LoopMemory)
    (hmode : config.externalPortConfigurationEnabled = false)
    (history : List Event) (e : Event) :
    AgesProperly (after config memory history) e <->
      Timely (after config memory history) e := by
  refine forall_congr' fun m => forall_congr' fun ts =>
    forall_congr' fun hcall => ?_
  obtain ⟨hrests, hruns⟩ := Waiting.informationCall (waiting_after hmode) hcall
  exact PortAnnounceInformationMachine.mayAge_iff hrests hruns

theorem informationCall_timeout (hruns : l.Runs) (i : PortIndex)
    (ts : UScaledNs) :
    l.informationCall (.timeout i ts) = some (l.informationMachine i, ts) :=
  if_neg (not_not.mpr hruns)

/--
In BMCA mode all transitions of a run from `PAI_CURRENT` to `PAI_AGED` are made
with received information that stands and a timer that has run out, if and only
if no call is overdue.
-/
theorem ages_properly_iff (config : Config) (memory : LoopMemory)
    (es : List Event)
    (hmode : config.externalPortConfigurationEnabled = false) :
    Along step AgesProperly (start config memory) es <->
      Along step Timely (start config memory) es := by
  constructor
  · intro h history e rest hes
    exact (agesProperly_iff_timely _ _ hmode history e).mp (h history e rest hes)
  · intro h history e rest hes
    exact (agesProperly_iff_timely _ _ hmode history e).mpr (h history e rest hes)

theorem ages_properly_iff_firstAnnounce :
    Along step AgesProperly (start bmcaConfig default) firstAnnounce <->
      Along step Timely (start bmcaConfig default) firstAnnounce :=
  ages_properly_iff bmcaConfig default firstAnnounce rfl

/-- A grandmaster that has not received a `Sync` checks a port for timeouts. -/
theorem own_information_ages :
    ¬ forall (config : Config) (memory : LoopMemory) (es : List Event),
      config.externalPortConfigurationEnabled = false ->
        Along step AgesProperly (start config memory) es := by
  intro h
  have hproper := (h bmcaConfig default ([.select] ++ [.timeout 0 oneSecond])
    rfl).last
  have htimely := agesProperly_iff_timely bmcaConfig default rfl
    [.select] (.timeout 0 oneSecond)
  have hruns : (after bmcaConfig default [.select]).process.stop = none := by
    decide +kernel
  have hoverdue : PortAnnounceInformationMachine.Overdue
      ((after bmcaConfig default [.select]).informationMachine 0)
      oneSecond := by
    decide +kernel
  unfold after at htimely hruns hoverdue
  exact htimely.mp hproper _ _ (informationCall_timeout hruns 0 oneSecond)
    hoverdue

end AnnounceLoop

end TimeSync
end Ziggo
