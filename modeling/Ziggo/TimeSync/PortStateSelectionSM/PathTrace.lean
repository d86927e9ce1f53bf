import Mathlib.Data.Set.Finite.Lattice
import Mathlib.Order.Preorder.Finite
import Ziggo.Foundation.Overwriting
import Ziggo.TimeSync.PortStateSelectionSM.Selection

/-!
# The path trace after a selection

Part f) of `updtStatesTree` writes the path trace for each port that it turns
into a slave port, and part i) writes it when the elected vector names the
instance.  The module determines the path trace that is left at the end.
-/

namespace Ziggo
namespace TimeSync

open Foundation TsnDrivers

def tracedPath (g : PerPTPInstanceGlobal) : List ClockIdentity :=
  entries g.pathTrace g.nPathTrace.toNat

def heldPath (port : PerPortGlobal) : List ClockIdentity :=
  entries port.annPathSequence port.annPathSequenceCount.toNat

/-- The path with the own clock at its end, empty when there is no room for it. -/
def extendedPath (thisClock : ClockIdentity) (path : List ClockIdentity) :
    List ClockIdentity :=
  if path.length < maxPathTraceN then path ++ [thisClock] else []

theorem length_entries (array : PathArray) (count : Nat) :
    (entries array count).length = min count maxPathTraceN := by
  unfold entries
  rw [List.length_take, List.length_ofFn]

theorem extendedPath_nil (thisClock : ClockIdentity) :
    extendedPath thisClock [] = [thisClock] :=
  rfl

theorem extendedPath_eq_singleton {thisClock : ClockIdentity}
    {path : List ClockIdentity} :
    extendedPath thisClock path = [thisClock] <-> path = [] := by
  constructor
  · intro h
    unfold extendedPath at h
    split at h
    · exact List.append_left_eq_self.mp h
    · cases h
  · rintro rfl
    exact extendedPath_nil thisClock

theorem toNat_ofNat_count {count : Nat} (h : count ≤ maxPathTraceN) :
    (UInt16.ofNat count).toNat = count := by
  change count ≤ 8 at h
  rw [UInt16.toNat_ofNat']
  exact Nat.mod_eq_of_lt (h.trans_lt (by decide))

theorem tracedPath_tracePath (g : PerPTPInstanceGlobal) (port : PerPortGlobal) :
    tracedPath (tracePath g port) =
      extendedPath g.thisClock (heldPath port) := by
  unfold tracePath extendedPath
  have hlength : (heldPath port).length =
      min port.annPathSequenceCount.toNat maxPathTraceN :=
    length_entries _ _
  rw [hlength]
  dsimp only
  split
  case isFalse hfull =>
    rw [if_neg (fun h => hfull (Nat.succ_le_of_lt h))]
    rfl
  case isTrue hroom =>
    have hlt : min port.annPathSequenceCount.toNat maxPathTraceN <
        maxPathTraceN := hroom
    have hcount : min port.annPathSequenceCount.toNat maxPathTraceN =
        port.annPathSequenceCount.toNat :=
      min_eq_left ((min_lt_iff.mp hlt).resolve_right (lt_irrefl _)).le
    rw [if_pos hlt]
    unfold tracedPath heldPath
    dsimp only
    rw [toNat_ofNat_count hroom]
    rw [hcount] at hlt ⊢
    rw [entries_succ _ hlt]
    dsimp only
    rw [if_neg (lt_irrefl _), if_pos rfl]
    refine congrArg (fun path => path ++ [g.thisClock]) ?_
    exact entries_congr fun i hi => if_pos hi

theorem tracedPath_singleton {g : PerPTPInstanceGlobal} {clock : ClockIdentity}
    (hcount : g.nPathTrace = 1) (hfirst : g.pathTrace 0 = clock) :
    tracedPath g = [clock] := by
  unfold tracedPath
  rw [hcount]
  change entries g.pathTrace (0 + 1) = _
  rw [entries_succ _ (by decide : 0 < maxPathTraceN)]
  exact congrArg (fun clock => [clock]) hfirst

/-!
## Part f)
-/

section UpdatePorts

variable (paths : PortIndex -> PriorityVector)
  (s : PerPTPInstanceGlobal × PerPortGlobalArray)

/-- The loop turns the port into a slave port. -/
def Turns (i : PortIndex) : Prop :=
  (assignState s.1 (s.2 i) (paths i)).1 = .slavePort ∧
    s.1.selectedState i.succ ≠ .slavePort

instance : DecidablePred (Turns paths s) :=
  fun _ => inferInstanceAs (Decidable (_ ∧ _))

def portTrace (i : PortIndex) : List ClockIdentity :=
  extendedPath s.1.thisClock (heldPath (s.2 i))

theorem thisClock_updatePort (i : PortIndex) :
    (updatePort paths s i).1.thisClock = s.1.thisClock :=
  thisClock_of_unselected (unselected_portStateUpdate s.1 i (s.2 i) (paths i))

theorem tracedPath_updatePort (i : PortIndex) :
    tracedPath (updatePort paths s i).1 =
      overwrite (Turns paths s) (portTrace s) (tracedPath s.1) i := by
  by_cases hturns : Turns paths s i
  · have hwrite : overwrite (Turns paths s) (portTrace s) (tracedPath s.1) i =
        portTrace s i := if_pos hturns
    rw [hwrite]
    unfold updatePort portStateUpdate
    unfold Turns at hturns
    dsimp only
    rw [if_pos hturns]
    exact tracedPath_tracePath _ (s.2 i)
  · have hkeep : overwrite (Turns paths s) (portTrace s) (tracedPath s.1) i =
        tracedPath s.1 := if_neg hturns
    rw [hkeep]
    unfold updatePort portStateUpdate
    unfold Turns at hturns
    dsimp only
    rw [if_neg hturns]
    rfl

theorem turns_updatePort_of_ne {i j : PortIndex} (h : j ≠ i) :
    Turns paths (updatePort paths s i) j <-> Turns paths s j := by
  have hne : j.succ ≠ i.succ := fun heq => h (Fin.succ_inj.mp heq)
  unfold Turns
  rw [assignState_congr (assigning_updatePort paths s i),
    ports_updatePort_of_ne paths s h, selectedState_updatePort,
    Function.update_of_ne hne]

theorem portTrace_updatePort_of_ne {i j : PortIndex} (h : j ≠ i) :
    portTrace (updatePort paths s i) j = portTrace s j := by
  unfold portTrace
  rw [thisClock_updatePort, ports_updatePort_of_ne paths s h]

theorem tracedPath_foldl_updatePort {l : List PortIndex} (hnodup : l.Nodup) :
    tracedPath (l.foldl (updatePort paths) s).1 =
      l.foldl (overwrite (Turns paths s) (portTrace s)) (tracedPath s.1) := by
  induction l generalizing s with
  | nil =>
      rfl
  | cons i l ih =>
      obtain ⟨hnotin, hnodup⟩ := List.nodup_cons.mp hnodup
      rw [List.foldl_cons, List.foldl_cons, ih _ hnodup, tracedPath_updatePort]
      refine List.foldl_ext _ _ _ fun trace j hj => ?_
      have hji : j ≠ i := fun heq => hnotin (heq ▸ hj)
      unfold overwrite
      rw [portTrace_updatePort_of_ne paths s hji]
      simp only [turns_updatePort_of_ne paths s hji]

theorem tracedPath_updatePorts :
    tracedPath (updatePorts paths s).1 =
      (List.finRange nPorts).foldl
        (overwrite (Turns paths s) (portTrace s)) (tracedPath s.1) :=
  tracedPath_foldl_updatePort paths s (List.nodup_finRange nPorts)

end UpdatePorts

/-!
## Part i)
-/

theorem tracedPath_concludeSelection_own {g : PerPTPInstanceGlobal}
    (h : g.thisClock = g.gmPriority.rootSystemIdentity.clockIdentity) :
    tracedPath (concludeSelection g) = [g.thisClock] := by
  unfold concludeSelection
  dsimp only
  rw [if_pos h]
  refine tracedPath_singleton rfl ?_
  exact Function.update_self (0 : Fin maxPathTraceN) g.thisClock g.pathTrace

theorem tracedPath_concludeSelection_other {g : PerPTPInstanceGlobal}
    (h : g.thisClock ≠ g.gmPriority.rootSystemIdentity.clockIdentity) :
    tracedPath (concludeSelection g) = tracedPath g := by
  unfold concludeSelection
  dsimp only
  rw [if_neg h]
  rfl

/-!
## The result of `updtStatesTree`
-/

section Selection

variable (g : PerPTPInstanceGlobal) (ports : PerPortGlobalArray)

/--
The port has received the vector that is to be elected: a best one, or the
vector of the instance itself where no port challenges it.
-/
def Leads (i : PortIndex) : Prop :=
  (ports i).infoIs = .received ∧
    (Best g ports i ∨
      (gmPathPriority (ports i) = g.systemPriority ∧
        forall j, ¬ Challenges g ports j))

theorem elected_iff_leads {i : PortIndex} :
    Elected g ports i <-> Leads g ports i := by
  constructor
  · intro h
    refine ⟨h.left, ?_⟩
    by_cases hsystem : electedPriority g ports = g.systemPriority
    · refine Or.inr ⟨h.right.symm.trans hsystem, ?_⟩
      intro j hj
      exact (electedPriority_ne_iff g ports).mpr ⟨j, hj⟩ hsystem
    · exact Or.inl (h.best g ports hsystem)
  · rintro ⟨hreceived, hbest | ⟨hsystem, hnone⟩⟩
    · exact ⟨hreceived, hbest.eq_electedPriority g ports⟩
    · refine ⟨hreceived, ?_⟩
      have helected : electedPriority g ports = g.systemPriority := by
        by_contra hne
        obtain ⟨j, hj⟩ := (electedPriority_ne_iff g ports).mp hne
        exact hnone j hj
      rw [helected, hsystem]

/-- The selection turns the port into a slave port. -/
def Promoted (i : PortIndex) : Prop :=
  Leads g ports i ∧ g.selectedState i.succ ≠ .slavePort

/-- The election neither reads nor writes the path trace and the port states. -/
theorem traced_chooseGrandmaster :
    (chooseGrandmaster g ports).selectedState = g.selectedState ∧
      tracedPath (chooseGrandmaster g ports) = tracedPath g := by
  have hport : forall (g : PerPTPInstanceGlobal) (port : PerPortGlobal),
      ((choosePort g port).selectedState, tracedPath (choosePort g port)) =
        (g.selectedState, tracedPath g) := by
    intro g port
    unfold choosePort
    split <;> rfl
  exact Prod.mk.inj
    (foldl_keeps (V := fun g => (g.selectedState, tracedPath g)) hport
      (List.ofFn ports) (chooseSystem g))

/-- What part f) starts from. -/
def chosen : PerPTPInstanceGlobal × PerPortGlobalArray :=
  computeMaster (chooseGrandmaster g ports) ports

theorem tracedPath_chosen : tracedPath (chosen g ports).1 = tracedPath g :=
  (traced_chooseGrandmaster g ports).right

theorem portTrace_chosen (i : PortIndex) :
    portTrace (chosen g ports) i =
      extendedPath g.thisClock (heldPath (ports i)) := by
  have hclock := thisClock_chooseGrandmaster g ports
  unfold portTrace
  exact congrArg (fun clock => extendedPath clock (heldPath (ports i))) hclock

theorem turns_chosen
    (hasymmetry : forall i, (ports i).asymmetryMeasurementMode = false)
    (i : PortIndex) :
    Turns (fun i => gmPathPriority (ports i)) (chosen g ports) i <->
      Promoted g ports i := by
  have hport : ((chosen g ports).2 i).asymmetryMeasurementMode = false :=
    hasymmetry i
  have hstate : (chosen g ports).1.selectedState = g.selectedState :=
    (traced_chooseGrandmaster g ports).left
  unfold Turns Promoted
  rw [assignState_slave_iff hport, hstate, ← elected_iff_leads, Elected,
    ← gmPriority_chooseGrandmaster]
  rfl

theorem tracedPath_updtStatesTree :
    tracedPath (updtStatesTree g ports).1 =
      if g.thisClock =
          (electedPriority g ports).rootSystemIdentity.clockIdentity then
        [g.thisClock]
      else
        (List.finRange nPorts).foldl
          (overwrite (Turns (fun i => gmPathPriority (ports i)) (chosen g ports))
            (portTrace (chosen g ports))) (tracedPath g) := by
  have hgm := gmPriority_updtStatesTree g ports
  have hclock : (updatePorts (fun i => gmPathPriority (ports i))
      (chosen g ports)).1.thisClock = g.thisClock :=
    (thisClock_of_unselected (unselected_updatePorts
      (fun i => gmPathPriority (ports i)) (chosen g ports))).trans
        (thisClock_chooseGrandmaster g ports)
  unfold updtStatesTree at hgm ⊢
  dsimp only at hgm ⊢
  change (concludeSelection (updatePorts (fun i => gmPathPriority (ports i))
    (chosen g ports)).1).gmPriority = _ at hgm
  rw [gmPriority_concludeSelection] at hgm
  change tracedPath (concludeSelection (updatePorts
    (fun i => gmPathPriority (ports i)) (chosen g ports)).1) = _
  split
  case isTrue hown =>
    rw [tracedPath_concludeSelection_own (by rw [hclock, hgm]; exact hown),
      hclock]
  case isFalse hother =>
    rw [tracedPath_concludeSelection_other (by rw [hclock, hgm]; exact hother),
      tracedPath_updatePorts, tracedPath_chosen]

/-- An elected vector that names the instance leaves its own clock alone. -/
theorem tracedPath_own
    (h : (electedPriority g ports).rootSystemIdentity.clockIdentity =
      g.thisClock) :
    tracedPath (updtStatesTree g ports).1 = [g.thisClock] := by
  rw [tracedPath_updtStatesTree, if_pos h.symm]

variable (hasymmetry : forall i, (ports i).asymmetryMeasurementMode = false)
include hasymmetry

theorem tracedPath_kept
    (h : (electedPriority g ports).rootSystemIdentity.clockIdentity ≠
      g.thisClock) (hnone : forall i, ¬ Promoted g ports i) :
    tracedPath (updtStatesTree g ports).1 = tracedPath g := by
  rw [tracedPath_updtStatesTree, if_neg h.symm]
  refine foldl_overwrite_none (fun i _ hturns => ?_) _
  exact hnone i ((turns_chosen g ports hasymmetry i).mp hturns)

theorem tracedPath_promoted
    (h : (electedPriority g ports).rootSystemIdentity.clockIdentity ≠
      g.thisClock) {i : PortIndex} (hi : Promoted g ports i)
    (hlast : forall j, Promoted g ports j -> j ≤ i) :
    tracedPath (updtStatesTree g ports).1 =
      extendedPath g.thisClock (heldPath (ports i)) := by
  rw [tracedPath_updtStatesTree, if_neg h.symm, ← portTrace_chosen]
  refine foldl_overwrite_last (List.pairwise_lt_finRange nPorts)
    (List.mem_finRange i) ((turns_chosen g ports hasymmetry i).mpr hi) ?_ _
  exact fun j hj => hlast j ((turns_chosen g ports hasymmetry j).mp hj)

omit hasymmetry in
theorem exists_last_promoted {i : PortIndex} (hi : Promoted g ports i) :
    exists j, Promoted g ports j ∧ forall k, Promoted g ports k -> k ≤ j := by
  obtain ⟨j, hj, hmax⟩ :=
    (Set.toFinite {k | Promoted g ports k}).exists_maximal ⟨i, hi⟩
  refine ⟨j, hj, fun k hk => ?_⟩
  rcases le_total k j with hle | hle
  · exact hle
  · exact hmax hk hle

end Selection

end TimeSync
end Ziggo
