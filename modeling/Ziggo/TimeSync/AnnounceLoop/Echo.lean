import Ziggo.TimeSync.AnnounceLoop.Selection

/-!
# The instance's own identity coming back

Other bridges may announce the identity of the instance itself as the one of
the grandmaster, with any number of hops.  In BMCA mode the instance does not
follow such announcements: nothing on its ports is worse than what it offers
itself, so that the echo is never accepted from a distance.
-/

namespace Ziggo
namespace TimeSync

open Foundation TsnDrivers

/-- The global variables are zero before the main loop sets them. -/
structure LoopMemory.Zeroed (memory : LoopMemory) : Prop where
  global : memory.perPTPInstanceGlobal = default
  port : forall i, memory.perPortGlobal i = default

/-- The first priority of the instance is none of the two reserved values. -/
def Config.Ordinary (config : Config) : Prop :=
  1 ≤ config.systemIdentity.priority1 ∧ config.systemIdentity.priority1 ≤ 254

/-- Nothing on the ports is worse than what the instance offers itself. -/
def rankKnowledge (systemIdentity : SystemIdentity) : Knowledge where
  own p := p.sourcePortClockIdentity = systemIdentity.clockIdentity ∧
    NotWorse p (systemPriorityOf systemIdentity)
  foreign p := NotWorse p (systemPriorityOf systemIdentity)
  heard _ := True
  accept _ _ _ _ hheld hsuperior := by
    rcases hheld with hown | hforeign
    · exact hsuperior.notWorse.trans hown.right
    · exact hsuperior.notWorse.trans hforeign

theorem electable_rankKnowledge (systemIdentity : SystemIdentity) :
    (rankKnowledge systemIdentity).Electable systemIdentity where
  source _ h := h.left
  system _ := ⟨rfl, NotWorse.refl (systemPriorityOf systemIdentity)⟩
  received _ _ _ _ hsuperior := ⟨rfl, hsuperior.notWorse⟩

theorem Config.Ordinary.ne_filledVector {config : Config}
    (h : config.Ordinary) :
    systemPriorityOf config.systemIdentity ≠ filledVector 0xFF := by
  intro heq
  have hpriority : config.systemIdentity.priority1 = 0xFF :=
    congrArg (fun p => p.rootSystemIdentity.priority1) heq
  have hle := h.right
  rw [hpriority] at hle
  exact absurd hle (by decide)

section Election

variable {config : Config} {g : PerPTPInstanceGlobal}
  {ports : PerPortGlobalArray}

/-- A vector of the instance's own identity that is not worse is no hop away. -/
theorem stepsRemoved_of_echo {p : PriorityVector}
    (h : NotWorse p (systemPriorityOf config.systemIdentity))
    (hroot : p.rootSystemIdentity = config.systemIdentity) :
    p.stepsRemoved = 0 :=
  h.steps hroot rfl

theorem elected_of_echo
    (hclock : g.thisClock = config.systemIdentity.clockIdentity)
    (hsystem : g.systemPriority = systemPriorityOf config.systemIdentity)
    (hports : forall i,
      (rankKnowledge config.systemIdentity).Sound (ports i))
    (hroot : (electedPriority g ports).rootSystemIdentity =
      config.systemIdentity) :
    electedPriority g ports = systemPriorityOf config.systemIdentity := by
  rcases (electable_rankKnowledge config.systemIdentity).elected hclock
      hsystem hports with
    helected | ⟨i, _, _, hforeign, hsuperior, helected⟩
  · exact helected
  · rw [helected] at hroot
    have hnear : (ports i).portPriority.stepsRemoved = 0 :=
      stepsRemoved_of_echo hforeign hroot
    have hnext : (ports i).portPriority.stepsRemoved + 1 = 0 :=
      stepsRemoved_of_echo hsuperior.notWorse hroot
    rw [hnear] at hnext
    exact absurd hnext (by decide)

/-- No port holds the instance's own vector as received information. -/
theorem not_elected_of_echo (hordinary : config.Ordinary)
    (hports : forall i,
      (rankKnowledge config.systemIdentity).Sound (ports i))
    (helected : electedPriority g ports =
      systemPriorityOf config.systemIdentity) (i : PortIndex) :
    ¬ Elected g ports i := by
  rintro ⟨hreceived, hpath⟩
  rw [helected] at hpath
  have hforeign : NotWorse (ports i).portPriority
      (systemPriorityOf config.systemIdentity) := by
    rcases hports i with hinfo | hinfo | ⟨hinfo, _⟩ | ⟨_, hforeign⟩
    · exact absurd (hinfo.symm.trans hreceived) (by decide)
    · exact absurd (hinfo.symm.trans hreceived) (by decide)
    · exact absurd (hinfo.symm.trans hreceived) (by decide)
    · exact hforeign
  unfold gmPathPriority at hpath
  split at hpath
  · have hroot : (ports i).portPriority.rootSystemIdentity =
        config.systemIdentity :=
      (congrArg PriorityVector.rootSystemIdentity hpath).symm
    have hsteps : (0 : UInt16) = (ports i).portPriority.stepsRemoved + 1 :=
      congrArg PriorityVector.stepsRemoved hpath
    rw [stepsRemoved_of_echo hforeign hroot] at hsteps
    exact absurd hsteps (by decide)
  · exact hordinary.ne_filledVector hpath

end Election

namespace AnnounceLoop

variable {config : Config} {memory : LoopMemory}

theorem gmPathPriority_zero {port : PerPortGlobal}
    (h : port.portPriority = default) :
    gmPathPriority port = filledVector 0xFF := by
  unfold gmPathPriority
  rw [h, if_neg]
  rintro ⟨hpriority, _⟩
  exact absurd hpriority (by decide)

/-- The first election among ports without a vector elects the instance. -/
theorem winner_bridged (hzeroed : memory.Zeroed) :
    (bridged config memory).winner =
      systemPriorityOf config.systemIdentity := by
  have hport : forall i, ((bridged config memory).perPortGlobal i).portPriority =
      default := by
    intro i
    have hmemory := congrArg PerPortGlobal.portPriority (hzeroed.port i)
    exact hmemory
  by_contra hne
  obtain ⟨i, _, hsuperior⟩ := (electedPriority_ne_iff
    (PortStateSelectionSM.clearReselectTree
      (bridged config memory).perPTPInstanceGlobal)
    (bridged config memory).perPortGlobal).mp hne
  rw [gmPathPriority_zero (hport i)] at hsuperior
  exact not_superior_filledVector _ hsuperior

theorem firstElection_rankKnowledge (hzeroed : memory.Zeroed) :
    FirstElection config memory (rankKnowledge config.systemIdentity) := by
  intro n
  rw [winner_bridged hzeroed]
  exact (electable_rankKnowledge config.systemIdentity).system n

/-- What an execution works on contains nothing worse than the own vector. -/
theorem Executed.sound (hzeroed : memory.Zeroed) {v : PortStateSelectionSM}
    (h : Executed config memory v) :
    instanceSettings v.perPTPInstanceGlobal =
        instanceSettings (initPerPTPInstanceGlobal config default) ∧
      (forall i, (v.perPortGlobalArray i).asymmetryMeasurementMode = false) ∧
      forall i, (rankKnowledge config.systemIdentity).Sound
        (v.perPortGlobalArray i) := by
  have hmode := h.bmca
  have hsymmetric := h.symmetric
  cases h with
  | initially hv =>
      rw [initialSelections_eq hv] at hsymmetric ⊢
      refine ⟨rfl, hsymmetric, fun i => Or.inr (Or.inr (Or.inr ?_))⟩
      have hport : (bridged config memory).perPortGlobal i =
          initPerPortGlobal config i default := by
        have hmemory := congrArg (initPerPortGlobal config i) (hzeroed.port i)
        exact hmemory
      change ((bridged config memory).perPortGlobal i).infoIs = .received ∧
        NotWorse ((bridged config memory).perPortGlobal i).portPriority
          (systemPriorityOf config.systemIdentity)
      rw [hport]
      exact ⟨rfl, notWorse_default _⟩
  | later es e hv =>
      obtain ⟨_, hinformed, rfl⟩ := selectionsOf_eq hmode
        (informed_after (electable_rankKnowledge config.systemIdentity)
          (firstElection_rankKnowledge hzeroed) hmode
          (fun e _ => by cases e <;> exact trivial))
        (by cases e <;> exact trivial) hv
      exact ⟨hinformed.elected.configured.global, hsymmetric,
        fun i => (hinformed.information i).sound⟩

/-- An instance that elects its own identity elects its own vector. -/
theorem executed_ownIdentity (config : Config) (memory : LoopMemory)
    (hzeroed : memory.Zeroed) (hordinary : config.Ordinary)
    (v : PortStateSelectionSM) (h : Executed config memory v)
    (hroot : (computed v).gmPriority.rootSystemIdentity =
      (computed v).systemPriority.rootSystemIdentity) :
    (computed v).gmPriority = (computed v).systemPriority ∧
      forall i : PortIndex, (computed v).selectedState i.succ ≠ .slavePort := by
  obtain ⟨hsettings, hsymmetric, hports⟩ := h.sound hzeroed
  have hclock : (PortStateSelectionSM.clearReselectTree
      v.perPTPInstanceGlobal).thisClock = config.systemIdentity.clockIdentity :=
    congrArg InstanceSettings.thisClock hsettings
  have hsystem : (PortStateSelectionSM.clearReselectTree
      v.perPTPInstanceGlobal).systemPriority =
        systemPriorityOf config.systemIdentity :=
    congrArg InstanceSettings.systemPriority hsettings
  unfold computed at hroot ⊢
  rw [gmPriority_updtStatesTree, systemPriority_updtStatesTree, hsystem]
    at hroot ⊢
  have helected := elected_of_echo hclock hsystem hports hroot
  refine ⟨helected, fun i hslave => ?_⟩
  have hport := (selectedState_updtStatesTree_succ _ _ hsymmetric i).mp hslave
  exact not_elected_of_echo hordinary hports helected i hport

/-- The identity of the instance, announced from the greatest distance. -/
def echo : PTPMsgAnnounce :=
  let identity := bmcaConfig.systemIdentity
  { (default : PTPMsgAnnounce) with
    grandmasterPriority1 := identity.priority1
    grandmasterClockQuality :=
      { clockClass := identity.clockClass
        clockAccuracy := identity.clockAccuracy
        offsetScaledLogVariance := identity.offsetScaledLogVariance }
    grandmasterPriority2 := identity.priority2
    grandmasterIdentity := identity.clockIdentity
    stepsRemoved := 0xFFFF }

def tenSeconds : UScaledNs where
  subns := 0
  nsec := 10 * oneSecNs
  nsecMsb := 0

/-- Port 1 holds its own information, and what port 2 has received is too old. -/
def agedRun : List Event :=
  [.syncReceipt distantTime, .select, .timeout 0 oneSecond,
    .timeout 1 oneSecond, .announce 1 oneSecond betterAnnounce,
    .timeout 0 oneSecond, .timeout 1 tenSeconds]

/-- The executions once port 1 has received the echo. -/
def echoedSelections : List PortStateSelectionSM :=
  selectionsOf (after bmcaConfig default agedRun) (.announce 0 tenSeconds echo)

theorem echoedSelections_pos : 0 < echoedSelections.length := by
  decide +kernel

theorem executed_ownIdentity_echo :
    ((after bmcaConfig default agedRun).portAnnounceInformationSms 0).state =
        .current ∧
      (computed (echoedSelections.get ⟨0, echoedSelections_pos⟩)).gmPriority =
        (computed
          (echoedSelections.get ⟨0, echoedSelections_pos⟩)).systemPriority ∧
      forall i : PortIndex,
        (computed (echoedSelections.get
          ⟨0, echoedSelections_pos⟩)).selectedState i.succ ≠ .slavePort :=
  ⟨by decide +kernel,
    executed_ownIdentity bmcaConfig default ⟨rfl, fun _ => rfl⟩
      ⟨by decide, by decide⟩ _ (.later _ _ (List.get_mem _ _))
      (by decide +kernel)⟩

end AnnounceLoop

end TimeSync
end Ziggo
