import Ziggo.PlcIo.HardwareLayer

/-!
# The time of the computation

`updateBuffersOut` passes the time of the computation by reading the clock.  The
number of reads is computed from the window of the job, less a fixed allowance.
The difference is one of unsigned numbers: it is the time that remains only if
the window is as long as the allowance.
-/

namespace Ziggo
namespace PlcIo

open Foundation

/-!
## The window of this node
-/

def elementJobs (myMacAddr : MacAddr) : Element -> List Job
  | .switch mac jobs => if mac ≠ myMacAddr then [] else jobs
  | _ => []

def nodeJobs (myMacAddr : MacAddr) (sche : List Element) : List Job :=
  sche.flatMap (elementJobs myMacAddr)

theorem setSwitchWindow_eq {jobs : List Job} {config config' : Config}
    (h : setSwitchWindow jobs config = .ok config') :
    config' = jobs.foldl (fun c job => setWindow job c) config := by
  cases jobs with
  | nil => cases h
  | cons job jobs =>
      cases jobs with
      | nil =>
          cases h
          rfl
      | cons job' jobs => cases h

theorem setWindows_eq {myMacAddr : MacAddr} {sche : List Element}
    {config config' : Config}
    (h : setWindows myMacAddr sche config = .ok config') :
    config' = (nodeJobs myMacAddr sche).foldl (fun c job => setWindow job c)
      config := by
  induction sche generalizing config with
  | nil =>
      cases h
      rfl
  | cons element sche ih =>
      rw [nodeJobs, List.flatMap_cons, List.foldl_append]
      cases element with
      | link source target schedule => exact ih h
      | other => exact ih h
      | switch mac jobs =>
          rw [setWindows] at h
          rw [elementJobs]
          split at h
          case isTrue hmac =>
            rw [if_pos hmac]
            exact ih h
          case isFalse hmac =>
            obtain ⟨config₁, hwindow, h⟩ := bind_eq_ok.mp h
            rw [if_neg hmac, ← setSwitchWindow_eq hwindow]
            exact ih h

/-- The last job of the node determines its window. -/
theorem computeTime_of_initConfigure {traverse : List Int32 -> List Int32}
    {nodes : List Node} {sche : List Element} {myMacAddr : MacAddr}
    {config : Config} {job : Job}
    (h : initConfigure traverse nodes sche myMacAddr = .ok config)
    (hjob : (nodeJobs myMacAddr sche).getLast? = some job) :
    config.computeTime = (job.endTime - job.start - 1) <<< 14 := by
  have hwindows : exists config', setWindows myMacAddr sche config' =
      .ok config := by
    unfold initConfigure at h
    split at h
    · cases h
    · split at h
      · cases h
      · obtain ⟨config', _, h⟩ := bind_eq_ok.mp h
        exact ⟨config', h⟩
  obtain ⟨config', hwindows⟩ := hwindows
  obtain ⟨jobs, hjobs⟩ := List.getLast?_eq_some_iff.mp hjob
  rw [setWindows_eq hwindows, hjobs, List.foldl_append]
  rfl

/-!
## The loop
-/

section Loop

variable {computeTimes : UInt64} (h : computeTimes.toNat < 2147483647)

include h

theorem continues_iff {k : Nat} (hk : k ≤ computeTimes.toNat) :
    UInt64.ofInt k < computeTimes <-> k < computeTimes.toNat := by
  have hcounter : (UInt64.ofInt k).toNat = k := by
    change ((k : Int) % 2 ^ 64).toNat % 2 ^ 64 = k
    omega
  rw [UInt64.lt_iff_toNat_lt, hcounter]

theorem busyWait_succ {k : Nat} (hk : k < computeTimes.toNat) (fuel : Nat) :
    busyWait computeTimes (fuel + 1) k =
      busyWait computeTimes fuel (k + 1 : Nat) := by
  have hint : IsInt ((k : Int) + 1) := by
    unfold IsInt
    omega
  rw [busyWait, if_pos ((continues_iff h hk.le).mpr hk), checkInt_of_isInt hint]
  rfl

theorem busyWait_last (fuel : Nat) :
    busyWait computeTimes (fuel + 1) computeTimes.toNat =
      .ok computeTimes.toNat := by
  rw [busyWait, if_neg]
  rw [continues_iff h (Nat.le_refl _)]
  exact Nat.lt_irrefl _

theorem busyWait_ends (remaining : Nat) {k : Nat}
    (hk : k + remaining = computeTimes.toNat) :
    busyWait computeTimes (remaining + 1) k = .ok computeTimes.toNat := by
  induction remaining generalizing k with
  | zero =>
      obtain rfl : k = computeTimes.toNat := hk
      exact busyWait_last h 0
  | succ remaining ih =>
      rw [busyWait_succ h (by omega)]
      exact ih (by omega)

theorem busyWait_result {fuel k : Nat} {iterations : Int}
    (hk : k ≤ computeTimes.toNat)
    (hwait : busyWait computeTimes fuel k = .ok iterations) :
    iterations = computeTimes.toNat := by
  induction fuel generalizing k with
  | zero => cases hwait
  | succ fuel ih =>
      rcases Nat.lt_or_eq_of_le hk with hlt | rfl
      · rw [busyWait_succ h hlt] at hwait
        exact ih hlt hwait
      · rw [busyWait_last h] at hwait
        exact (Except.ok.inj hwait).symm

end Loop

section Call

variable {streams : Nat} (config : Config) (s : Inputs streams)

theorem toNat_computeTimes :
    ((config.computeTime - 200000).toUInt64 / 3504).toNat =
        (config.computeTime - 200000).toNat / 3504 ∧
      ((config.computeTime - 200000).toUInt64 / 3504).toNat < 2147483647 := by
  have hlt := UInt32.toNat_lt (config.computeTime - 200000)
  have htimes : ((config.computeTime - 200000).toUInt64 / 3504).toNat =
      (config.computeTime - 200000).toNat / 3504 := by
    rw [UInt64.toNat_div, UInt32.toNat_toUInt64]
    rfl
  omega

theorem updateBuffersOut_ends (boolOutput : Option UInt8) :
    exists fuel outputs,
      updateBuffersOut fuel config boolOutput s = .ok outputs := by
  unfold updateBuffersOut
  by_cases hset : boolOutput = some 1
  · simp only [if_pos hset]
    have hwait := busyWait_ends (toNat_computeTimes config).right _
      (Nat.zero_add _)
    exact ⟨_, _, bind_eq_ok.mpr ⟨_, hwait, rfl⟩⟩
  · simp only [if_neg hset]
    exact ⟨0, _, rfl⟩

theorem iterations_eq {fuel : Nat} {boolOutput : Option UInt8}
    {outputs : Outputs}
    (h : updateBuffersOut fuel config boolOutput s = .ok outputs) :
    outputs.iterations = if boolOutput = some 1 then
        (((config.computeTime - 200000).toNat / 3504 : Nat) : Int)
      else
        0 := by
  unfold updateBuffersOut at h
  split at h
  case isTrue hset =>
    obtain ⟨iterations, hwait, h⟩ := bind_eq_ok.mp h
    cases h
    obtain ⟨htimes, hlt⟩ := toNat_computeTimes config
    rw [if_pos hset, ← htimes]
    exact @busyWait_result _ hlt fuel 0 iterations (Nat.zero_le _) hwait
  case isFalse hset =>
    cases h
    rw [if_neg hset]

end Call

theorem sub_allowance {computeTime : UInt32} :
    (computeTime - 200000).toNat / 3504 * 3504 ≤ computeTime.toNat <->
      200000 ≤ computeTime.toNat := by
  have hlt := UInt32.toNat_lt computeTime
  have hsub : (computeTime - 200000).toNat =
      (2 ^ 32 - 200000 + computeTime.toNat) % 2 ^ 32 :=
    UInt32.toNat_sub computeTime 200000
  rw [hsub]
  omega

/-!
## Windows
-/

/-- The reads of the clock fit the time between the instants of the job. -/
def WithinWindow (config : Config) (job : Job) : Prop :=
  forall (streams : Nat) (s : Inputs streams) (boolOutput : Option UInt8),
    exists fuel outputs,
      updateBuffersOut fuel config boolOutput s = .ok outputs ∧
        outputs.iterations * 3504 ≤ config.computeTime.toNat ∧
        config.computeTime.toNat =
          (job.endTime.toNat - job.start.toNat - 1) * 2 ^ 14

theorem toNat_computeTime {job : Job} (hlt : job.start < job.endTime)
    (hend : job.endTime < 2 ^ 18) :
    ((job.endTime - job.start - 1) <<< 14).toNat =
      (job.endTime.toNat - job.start.toNat - 1) * 2 ^ 14 := by
  have hstart : job.start.toNat < job.endTime.toNat :=
    UInt32.lt_iff_toNat_lt.mp hlt
  have hbound : job.endTime.toNat < 2 ^ 18 := UInt32.lt_iff_toNat_lt.mp hend
  have hsub : (job.endTime - job.start).toNat =
      job.endTime.toNat - job.start.toNat :=
    UInt32.toNat_sub_of_le _ _ (UInt32.le_of_lt hlt)
  have hone : (job.endTime - job.start - 1).toNat =
      job.endTime.toNat - job.start.toNat - 1 := by
    rw [UInt32.toNat_sub_of_le, hsub]
    · rfl
    · rw [UInt32.le_iff_toNat_le, hsub]
      change 1 ≤ job.endTime.toNat - job.start.toNat
      omega
  rw [UInt32.toNat_shiftLeft, hone]
  change (job.endTime.toNat - job.start.toNat - 1) <<< 14 % 2 ^ 32 = _
  rw [Nat.shiftLeft_eq]
  omega

theorem withinWindow_iff {traverse : List Int32 -> List Int32}
    {nodes : List Node} {sche : List Element} {myMacAddr : MacAddr}
    {config : Config} {job : Job}
    (h : initConfigure traverse nodes sche myMacAddr = .ok config)
    (hjob : (nodeJobs myMacAddr sche).getLast? = some job)
    (hlt : job.start < job.endTime) (hend : job.endTime < 2 ^ 18) :
    WithinWindow config job <-> job.start.toNat + 14 ≤ job.endTime.toNat := by
  have htime := computeTime_of_initConfigure h hjob
  have hnat := toNat_computeTime hlt hend
  rw [← htime] at hnat
  have hstart : job.start.toNat < job.endTime.toNat :=
    UInt32.lt_iff_toNat_lt.mp hlt
  -- The allowance is a little more than twelve slots.
  have hwindow : 200000 ≤ config.computeTime.toNat <->
      job.start.toNat + 14 ≤ job.endTime.toNat := by
    rw [hnat]
    omega
  rw [← hwindow, ← sub_allowance]
  constructor
  · intro hwithin
    obtain ⟨fuel, outputs, hout, hbound, _⟩ :=
      hwithin 0 (initializeHardware { config with inputSeqIds := [] } Fin.elim0)
        (some 1)
    rw [iterations_eq config _ hout, if_pos rfl] at hbound
    exact_mod_cast hbound
  · intro hbound streams s boolOutput
    obtain ⟨fuel, outputs, hout⟩ := updateBuffersOut_ends config s boolOutput
    refine ⟨fuel, outputs, hout, ?_, hnat⟩
    rw [iterations_eq config s hout]
    split
    · exact_mod_cast hbound
    · omega

def windowSchedule (start endTime : UInt32) : List Element :=
  [.switch (Vector.replicate 6 0) [⟨2, 2048, start, endTime⟩]]

theorem initConfigure_windowSchedule (start endTime : UInt32) :
    initConfigure id [⟨3, Vector.replicate 6 0⟩]
        (windowSchedule start endTime) (Vector.replicate 6 0) =
      .ok (setWindow ⟨2, 2048, start, endTime⟩
        (initialConfig (Vector.replicate 6 0))) := by
  simp [initConfigure, windowSchedule, addSwitches, addJobs, addStreams,
    setWindows, setSwitchWindow]
  rfl

/-- A window of 512 slots is not overrun. -/
theorem withinWindow_long : WithinWindow
    (setWindow ⟨2, 2048, 0, 512⟩ (initialConfig (Vector.replicate 6 0)))
    ⟨2, 2048, 0, 512⟩ :=
  (withinWindow_iff (initConfigure_windowSchedule 0 512) rfl (by decide)
    (by decide)).mpr (by decide)

/-- A window of ten slots is overrun. -/
theorem shortWindow_overrun :
    initConfigure id [⟨3, Vector.replicate 6 0⟩] (windowSchedule 100 110)
        (Vector.replicate 6 0) =
      .ok (setWindow ⟨2, 2048, 100, 110⟩
        (initialConfig (Vector.replicate 6 0))) ∧
    ¬ WithinWindow (setWindow ⟨2, 2048, 100, 110⟩
        (initialConfig (Vector.replicate 6 0))) ⟨2, 2048, 100, 110⟩ := by
  refine ⟨initConfigure_windowSchedule 100 110, fun h => ?_⟩
  obtain ⟨fuel, outputs, hout, hbound, _⟩ :=
    h 0 (initializeHardware (initialConfig (Vector.replicate 6 0)) Fin.elim0)
      (some 1)
  rw [iterations_eq _ _ hout, if_pos rfl] at hbound
  exact absurd hbound (by decide)

end PlcIo
end Ziggo
