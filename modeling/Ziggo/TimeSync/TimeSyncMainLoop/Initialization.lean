import Ziggo.TimeSync.AnnounceLoop.Intervals
import Ziggo.TimeSync.AnnounceLoop.PathTrace
import Ziggo.TimeSync.RunLoops.Announces
import Ziggo.TimeSync.RunLoops.Delays

/-!
# The initialization of the ports

The machines that handle `Announce` messages and measure delays come to rest
after their initialization, whatever their memory holds, and none of them ends
the process.
-/

namespace Ziggo
namespace TimeSync

open Foundation TsnDrivers

/-!
## Machines for `Announce` messages
-/

namespace PortStateSelectionMachine

open PortStateSelectionSM

def anyState : Program.Annotation program where
  Pre _ _ := True
  Post _ _ := True
  action _ _ _ _ := trivial
  goto _ _ _ _ _ _ _ := trivial
  reenter _ _ _ _ _ _ := trivial

theorem running_run {m : PortStateSelectionMachine}
    (hrunning : m.vars.process.stop = none) :
    m.run.vars.process.stop = none := by
  refine anyState.survives (fun s v _ hv => ?_) (fun s v f _ hfails => ?_)
    (run_ends m) ⟨fun _ => trivial, fun _ => trivial⟩ hrunning
  · cases s with
    | init => exact hv
    | initBridge => exact hv
    | stateSelection => exact hv
  · cases s <;> cases hfails

theorem running_init {memory : PortStateSelectionSM}
    (hrunning : memory.process.stop = none) :
    (initPortStateSelectionSm memory).vars.process.stop = none :=
  running_run (m := initial memory) hrunning

end PortStateSelectionMachine

namespace PortAnnounceInformationSM

open PortAnnounceInformationSMState

/-- No message has been received yet. -/
def Waiting (s : PortAnnounceInformationSMState)
    (sm : PortAnnounceInformationSM) : Prop :=
  s = init ∨ s = disabled ∨ (s = aged ∧ sm.isSelected = false)

/-- The states that the initialization goes through. -/
def starting (ts : UScaledNs) : Program.Annotation (behaviour ts).program :=
  (behaviour ts).annotate (fun s _ => s = init ∨ s = disabled ∨ s = aged)
    Waiting
    (by
      rintro s v v' (rfl | rfl | rfl) haction
      · exact Or.inl rfl
      · exact Or.inr (Or.inl rfl)
      · -- The action has withdrawn the selection of the port.
        cases haction
        exact Or.inr (Or.inr ⟨rfl, Function.update_self _ _ _⟩))
    (by
      rintro s v next (rfl | rfl | ⟨rfl, hselected⟩) hnext hne
      · cases hnext
        exact Or.inr (Or.inl rfl)
      · exact Or.inr (Or.inr (@disabled_left ts _ _ hnext hne).left)
      · have hleft := (@aged_left ts _ _ hnext hne).right.left
        rw [hselected] at hleft
        cases hleft)

end PortAnnounceInformationSM

namespace PortAnnounceInformationMachine

open PortAnnounceInformationSM PortAnnounceInformationSMState

theorem running_init {memory : PortAnnounceInformationSM}
    (hrunning : memory.process.stop = none) :
    (initPortAnnounceInformationSm memory).vars.process.stop = none := by
  refine (starting _).survives ?_ ?_ (run_ends _ _) ⟨?_, fun _ => ?_⟩ hrunning
  · rintro s v (rfl | rfl | rfl) hv
    · exact hv
    · exact hv
    · exact hv
  · rintro s v f (rfl | rfl | ⟨rfl, _⟩) hfails
    · cases hfails
    · cases hfails
    · cases hfails
  · intro hquiescent
    cases hquiescent
  · change allStateTransition _ init = init ∨ allStateTransition _ init = _ ∨ _
    unfold allStateTransition
    split
    · exact Or.inr (Or.inl rfl)
    · exact Or.inl rfl

end PortAnnounceInformationMachine

namespace PortAnnounceInformationExtMachine

open PortAnnounceInformationExtSM PortAnnounceInformationExtSMState

theorem settled_initializing (sm : PortAnnounceInformationExtSM) :
    program.Settled initializing sm.initializeAction := by
  have hpending : sm.initializeAction.announcePending = false := by
    simp [announcePending, initializeAction]
  refine Or.inr ?_
  change Except.ok (Next.goto (if sm.initializeAction.announcePending = true
    then receive else initializing)) = _
  rw [hpending]
  rfl

theorem running_init {memory : PortAnnounceInformationExtSM}
    (hrunning : memory.process.stop = none) :
    (initPortAnnounceInformationExtSm memory).vars.process.stop = none := by
  have hfresh : forall s (sm : PortAnnounceInformationExtSM),
      s = init ∨ s = initializing -> sm.process.stop = none ->
      (program.run passes
        { state := s, lastState := none, vars := sm }).vars.process.stop =
          none := by
    rintro s sm (rfl | rfl) hrun
    · rw [show passes = 6 + 2 from rfl,
        @Program.run_through _ _ _ program 6
          { state := init, lastState := none, vars := sm } initializing
          (by simp [Machine.Quiescent]) hrun rfl (by simp)
          (settled_initializing sm)]
      exact hrun
    · rw [show passes = 7 + 1 from rfl,
        @Program.run_settle _ _ _ program 7
          { state := initializing, lastState := none, vars := sm }
          (by simp [Machine.Quiescent]) (settled_initializing sm)]
      exact hrun
  refine hfresh _ _ ?_ hrunning
  unfold allStateTransition
  split
  · exact Or.inr rfl
  · exact Or.inl rfl

end PortAnnounceInformationExtMachine

namespace PortAnnounceTransmitSM

open PortAnnounceTransmitSMState

def PathFits (sm : PortAnnounceTransmitSM) : Prop :=
  sm.perPTPInstanceGlobal.nPathTrace.toNat ≤ maxPathTraceN

theorem transmitAnnounceAction_defined {sm : PortAnnounceTransmitSM}
    (h : sm.PathFits) : exists sm', sm.transmitAnnounceAction = .ok sm' := by
  have hcopy : exists path, copyOctets
      (sm.perPTPInstanceGlobal.nPathTrace.toNat * 8)
      sm.perPTPInstanceGlobal.pathTrace (fun _ _ => 0) = .ok path := by
    refine exists_copyOctets_iff.mpr ?_
    change sm.perPTPInstanceGlobal.nPathTrace.toNat ≤ 8 at h
    change sm.perPTPInstanceGlobal.nPathTrace.toNat * 8 ≤ 8 * 8
    omega
  obtain ⟨path, hpath⟩ := hcopy
  refine ⟨_, bind_eq_ok.mpr ⟨_, bind_eq_ok.mpr ⟨path, hpath, rfl⟩,
    bind_eq_ok.mpr ⟨_, rfl, rfl⟩⟩⟩

/-- Every state may be entered while the path fits. -/
def fitting (ts : UScaledNs) : Program.Annotation (behaviour ts).program :=
  (behaviour ts).annotate (fun _ sm => sm.PathFits) (fun _ sm => sm.PathFits)
    (fun s v v' hfits haction => by
      have hframe := (PortAnnounceTransmitMachine.callFrame_refl v).action
        haction
      unfold PathFits
      rw [hframe.global]
      exact hfits)
    (fun _ _ _ hfits _ _ => hfits)

end PortAnnounceTransmitSM

namespace PortAnnounceTransmitMachine

open PortAnnounceTransmitSM

theorem running_run {m : PortAnnounceTransmitMachine} {ts : UScaledNs}
    (hfits : m.vars.PathFits) (hpaced : Paced ts m.vars)
    (hrunning : m.vars.process.stop = none) :
    (m.run ts).vars.process.stop = none := by
  refine (fitting ts).survives (fun s v hv hrun => ?_) (fun s v f _ hfails => ?_)
    (run_ends hpaced) ⟨fun _ => hfits, fun _ => hfits⟩ hrunning
  · cases s with
    | transmitAnnounce =>
        obtain ⟨v', hv'⟩ := transmitAnnounceAction_defined hv
        have hstop := (transmitAnnounceAction_ok hv').right.right.left
        change (attempt halt v (transmitAnnounceAction v)).process.stop = none
        rw [hv']
        exact hstop.trans hrun
    | _ => exact hrun
  · cases s <;> cases hfails

theorem running_init {memory : PortAnnounceTransmitSM}
    (hfits : memory.PathFits)
    (hinterval : memory.perPortGlobal.announceInterval = AnnounceLoop.oneSecond)
    (hrunning : memory.process.stop = none) :
    (initPortAnnounceTransmitSm memory).vars.process.stop = none := by
  refine running_run hfits ⟨rfl, ?_, ?_⟩ hrunning
  · change 0 < memory.perPortGlobal.announceInterval.toNat
    rw [hinterval]
    decide
  · change NoWrap _ memory.perPortGlobal.announceInterval
    rw [hinterval]
    decide

end PortAnnounceTransmitMachine

/-!
## Machines for delays
-/

namespace MDPdelayReqSM

open MDPdelayReqSMState

/-- No timestamp has been received yet. -/
def Waiting (s : MDPdelayReqSMState) (sm : MDPdelayReqSM) : Prop :=
  s = init ∨ s = notEnabled ∨
    (s = initialSendPdelayReq ∧ sm.rcvdMDTimestampReceiveMDPReq = false)

/-- The states that the initialization goes through. -/
def starting (ts : UScaledNs) : Program.Annotation (behaviour ts).program :=
  (behaviour ts).annotate
    (fun s _ => s = init ∨ s = notEnabled ∨ s = initialSendPdelayReq) Waiting
    (by
      rintro s v v' (rfl | rfl | rfl) haction
      · exact Or.inl rfl
      · exact Or.inr (Or.inl rfl)
      · cases haction
        exact Or.inr (Or.inr ⟨rfl, rfl⟩))
    (by
      rintro s v next (rfl | rfl | ⟨rfl, hflag⟩) hnext hne
      · cases hnext
        exact Or.inr (Or.inl rfl)
      · have hleft : v.notEnabledStateTransition = next := Except.ok.inj hnext
        unfold notEnabledStateTransition at hleft
        split at hleft
        · exact Or.inr (Or.inr hleft.symm)
        · exact absurd hleft.symm hne
      · have hleft : v.initialSendPdelayReqStateTransition = next :=
          Except.ok.inj hnext
        unfold initialSendPdelayReqStateTransition at hleft
        rw [hflag] at hleft
        exact absurd hleft.symm hne)

end MDPdelayReqSM

namespace MDPdelayReqMachine

open MDPdelayReqSM MDPdelayReqSMState

theorem running_init {memory : MDPdelayReqSM}
    (hinterval : 0 < memory.mdEntityGlobal.pdelayReqInterval.toNat)
    (hrunning : memory.process.stop = none) :
    (initMdPdelayReqSm memory).vars.process.stop = none := by
  refine (starting _).survives ?_ ?_ (run_ends _ hinterval) ⟨?_, fun _ => ?_⟩
    hrunning
  · rintro s v (rfl | rfl | rfl) hv
    · exact hv
    · exact hv
    · exact hv
  · rintro s v f (rfl | rfl | ⟨rfl, _⟩) hfails
    · cases hfails
    · cases hfails
    · cases hfails
  · intro hquiescent
    cases hquiescent
  · change allStateTransition _ init = init ∨ allStateTransition _ init = _ ∨ _
    unfold allStateTransition
    split
    · exact Or.inr (Or.inl rfl)
    · exact Or.inl rfl

end MDPdelayReqMachine

namespace MDPdelayRespSM

open MDPdelayRespSMState

/-- No request has been received yet. -/
def Waiting (s : MDPdelayRespSMState) (sm : MDPdelayRespSM) : Prop :=
  s = init ∨ s = notEnabled ∨
    (s = initialWaitingForPdelayReq ∧ sm.rcvdPdelayReq = false)

/-- The states that the initialization goes through. -/
def starting : Program.Annotation behaviour.program :=
  behaviour.annotate
    (fun s _ => s = init ∨ s = notEnabled ∨ s = initialWaitingForPdelayReq)
    Waiting
    (by
      rintro s v v' (rfl | rfl | rfl) haction
      · exact Or.inl rfl
      · exact Or.inr (Or.inl rfl)
      · cases haction
        exact Or.inr (Or.inr ⟨rfl, rfl⟩))
    (by
      rintro s v next (rfl | rfl | ⟨rfl, hflag⟩) hnext hne
      · cases hnext
        exact Or.inr (Or.inl rfl)
      · have hleft : v.notEnabledStateTransition = next := Except.ok.inj hnext
        unfold notEnabledStateTransition at hleft
        split at hleft
        · exact Or.inr (Or.inr hleft.symm)
        · exact absurd hleft.symm hne
      · have hleft : v.initialWaitingForPdelayReqStateTransition = next :=
          Except.ok.inj hnext
        unfold initialWaitingForPdelayReqStateTransition at hleft
        rw [hflag] at hleft
        exact absurd hleft.symm hne)

end MDPdelayRespSM

namespace MDPdelayRespMachine

open MDPdelayRespSM MDPdelayRespSMState

theorem running_init {memory : MDPdelayRespSM}
    (hrunning : memory.process.stop = none) :
    (initMdPdelayRespSm memory).vars.process.stop = none := by
  refine starting.survives ?_ ?_ (run_ends _) ⟨?_, fun _ => ?_⟩ hrunning
  · rintro s v (rfl | rfl | rfl) hv
    · exact hv
    · exact hv
    · exact hv
  · rintro s v f (rfl | rfl | ⟨rfl, _⟩) hfails
    · cases hfails
    · cases hfails
    · cases hfails
  · intro hquiescent
    cases hquiescent
  · change allStateTransition _ init = init ∨ allStateTransition _ init = _ ∨ _
    unfold allStateTransition
    split
    · exact Or.inr (Or.inl rfl)
    · exact Or.inl rfl

end MDPdelayRespMachine

end TimeSync
end Ziggo
