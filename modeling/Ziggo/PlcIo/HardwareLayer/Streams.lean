import Ziggo.PlcIo.HardwareLayer.StreamIds

/-!
# The entries of the input streams

A frame is stored in the entry that a map gives for its identifier.  The map
knows the identifiers of the configuration and, after a while, others: the
access to a missing key adds it, with the first entry as its value.  The module
determines the identifiers whose frames leave the entries of other streams
alone.
-/

namespace Ziggo
namespace PlcIo

open Foundation

/-!
## One reception
-/

/-- The condition of the join for one stream. -/
def InCycle {streams : Nat} (config : Config) (s : Inputs streams)
    (i : Fin streams) : Prop :=
  s.nextComputeTs - config.cycleTime.toUInt64 ≤ s.inputTimestamp i

theorem sendPacket_joinStreams {streams : Nat} (config : Config)
    (s : Inputs streams) (first : Fin streams) (is : List (Fin streams))
    (join : Join) :
    (joinStreams config s first is join).sendPacket = true <->
      join.sendPacket = true ∧
        forall i, i ∈ is -> InCycle config s i ∧ s.inputTimestamp first ≠ 0 := by
  induction is generalizing join with
  | nil => simp [joinStreams]
  | cons i is ih =>
      rw [joinStreams, ih, List.forall_mem_cons]
      simp only [Bool.and_eq_true, decide_eq_true_eq, and_assoc]
      rfl

section StoreAndJoin

variable {streams : Nat} (config : Config) (r : Reception) (s : Inputs streams)
  (i : Fin streams)

theorem inputTimestamp_storeAndJoin :
    (storeAndJoin config r s i).1.inputTimestamp =
      Function.update s.inputTimestamp i r.txTimestamp := rfl

theorem nextComputeTs_storeAndJoin :
    (storeAndJoin config r s i).1.nextComputeTs = s.nextComputeTs := rfl

theorem verdict_storeAndJoin :
    (storeAndJoin config r s i).2 = .released ∨
      (storeAndJoin config r s i).2 = .stored :=
  ite_eq_or_eq _ _ _

theorem inCycle_of_released (h : (storeAndJoin config r s i).2 = .released)
    (j : Fin streams) : InCycle config (storeAndJoin config r s i).1 j := by
  unfold storeAndJoin at h
  dsimp only at h
  split at h
  case isTrue hjoin =>
    exact (((sendPacket_joinStreams config _ _ _ _).mp hjoin).right j
      (List.mem_finRange j)).left
  case isFalse => cases h

end StoreAndJoin

inductive Received {streams : Nat} (config : Config) (r : Reception)
    (s : Inputs streams) : Inputs streams -> Verdict -> Prop where
  | failed : r.noError = false -> Received config r s s .failed
  | dropped : r.noError = true ->
      nextCompute config r.txTimestamp r.currentTs = none ->
      Received config r s { s with dropped := s.dropped + 1 } .dropped
  | stored (next : UInt64)
      (h : (mapAt s.seqidIndex r.seqId.toUInt32.toInt32).1 < streams) :
      r.noError = true ->
      nextCompute config r.txTimestamp r.currentTs = some next ->
      Received config r s
        (storeAndJoin config r
          { s with
            nextComputeTs := next
            seqidIndex := (mapAt s.seqidIndex r.seqId.toUInt32.toInt32).2 }
          ⟨_, h⟩).1
        (storeAndJoin config r
          { s with
            nextComputeTs := next
            seqidIndex := (mapAt s.seqidIndex r.seqId.toUInt32.toInt32).2 }
          ⟨_, h⟩).2

theorem received_of_receive {streams : Nat} {config : Config} {r : Reception}
    {s s' : Inputs streams} {verdict : Verdict}
    (h : receive config r s = .ok (s', verdict)) :
    Received config r s s' verdict := by
  unfold receive at h
  split at h
  case isTrue hfailed =>
    cases h
    exact .failed hfailed
  case isFalse hnoError =>
    replace hnoError := Bool.eq_true_of_not_eq_false hnoError
    split at h
    case isTrue => cases h
    case isFalse =>
      cases hnext : nextCompute config r.txTimestamp r.currentTs with
      | none =>
          rw [hnext] at h
          cases h
          exact .dropped hnoError hnext
      | some next =>
          rw [hnext] at h
          dsimp only at h
          split at h
          case isTrue hindex =>
            cases h
            exact .stored next hindex hnoError hnext
          case isFalse => cases h

/-- A packet that is not dropped is stored in the entry that the map gives. -/
theorem receive_stored {streams : Nat} {config : Config} {r : Reception}
    {s : Inputs streams} {next : UInt64} (hnoError : r.noError = true)
    (hcycle : config.cycleTime ≠ 0)
    (hnext : nextCompute config r.txTimestamp r.currentTs = some next)
    (hindex : (mapAt s.seqidIndex r.seqId.toUInt32.toInt32).1 < streams) :
    receive config r s = .ok (storeAndJoin config r
      { s with
        nextComputeTs := next
        seqidIndex := (mapAt s.seqidIndex r.seqId.toUInt32.toInt32).2 }
      ⟨_, hindex⟩) := by
  unfold receive
  rw [hnoError, if_neg Bool.noConfusion, if_neg hcycle, hnext]
  exact dif_pos hindex

/-- The identifier of a stream is the key of its entry. -/
structure Lists (ids : List UInt32) (m : Int32 -> Option Nat) : Prop where
  known : forall id i, m (UInt32.toInt32 id) = some i -> ids[i]? = some id
  present : forall id, id ∈ ids -> exists i, m (UInt32.toInt32 id) = some i

/-- Keys that belong to no stream may designate the first entry. -/
structure Indexed (ids : List UInt32) (m : Int32 -> Option Nat) : Prop where
  known : forall id i, m (UInt32.toInt32 id) = some i ->
    ids[i]? = some id ∨ (i = 0 ∧ id ∉ ids)
  present : forall id, id ∈ ids -> exists i, m (UInt32.toInt32 id) = some i

theorem Lists.indexed {ids : List UInt32} {m : Int32 -> Option Nat}
    (h : Lists ids m) : Indexed ids m where
  known id i hi := Or.inl (h.known id i hi)
  present := h.present

theorem toInt32_inj {x y : UInt32} : x.toInt32 = y.toInt32 <-> x = y :=
  ⟨fun h => congrArg Int32.toUInt32 h, fun h => congrArg UInt32.toInt32 h⟩

theorem Lists.concat {ids : List UInt32} {m : Int32 -> Option Nat}
    (h : Lists ids m) (id : UInt32) :
    Lists (ids ++ [id]) (Function.update m id.toInt32 (some ids.length)) where
  known key i hi := by
    by_cases hkey : key = id
    · subst hkey
      rw [Function.update_self] at hi
      cases hi
      exact List.getElem?_concat_length
    · rw [Function.update_of_ne fun heq => hkey (toInt32_inj.mp heq)] at hi
      have hold := h.known key i hi
      rwa [List.getElem?_append_left (List.getElem?_eq_some_iff.mp hold).1]
  present key hkey := by
    by_cases heq : key = id
    · subst heq
      exact ⟨_, Function.update_self _ _ _⟩
    · obtain ⟨i, hi⟩ := h.present key
        ((List.mem_append.mp hkey).resolve_right
          fun hmem => heq (List.mem_singleton.mp hmem))
      exact ⟨i, by rwa [Function.update_of_ne fun h => heq (toInt32_inj.mp h)]⟩

theorem lists_indexStreams {ids : List UInt32} {m : Int32 -> Option Nat}
    (h : Lists ids m) (rest : List UInt32) :
    Lists (ids ++ rest) (indexStreams rest ids.length m) := by
  induction rest generalizing ids m with
  | nil => rwa [List.append_nil]
  | cons id rest ih =>
      have hrest := ih (h.concat id)
      rw [List.length_append, List.append_assoc] at hrest
      exact hrest

theorem indexed_initializeHardware (config : Config)
    (memory : Fin config.inputSeqIds.length -> UInt32) :
    Indexed config.inputSeqIds (initializeHardware config memory).seqidIndex := by
  have hempty : Lists [] fun _ => none := by
    constructor
    · intro id i hi
      cases hi
    · intro id hid
      cases hid
  exact (lists_indexStreams hempty config.inputSeqIds).indexed

section MapAt

variable {ids : List UInt32} {m : Int32 -> Option Nat} (h : Indexed ids m)
  {id : UInt32}

include h

theorem indexed_mapAt : Indexed ids (mapAt m id.toInt32).2 := by
  unfold mapAt
  cases hi : m id.toInt32 with
  | some i => exact h
  | none =>
      have hforeign : id ∉ ids := by
        intro hid
        obtain ⟨i, hsome⟩ := h.present id hid
        rw [hi] at hsome
        cases hsome
      dsimp only
      constructor
      · intro key i hkey
        by_cases heq : key = id
        · subst heq
          rw [Function.update_self] at hkey
          cases hkey
          exact Or.inr ⟨rfl, hforeign⟩
        · rw [Function.update_of_ne fun h => heq (toInt32_inj.mp h)] at hkey
          exact h.known key i hkey
      · intro key hkey
        obtain ⟨i, hsome⟩ := h.present key hkey
        refine ⟨i, ?_⟩
        rwa [Function.update_of_ne]
        rintro heq
        rw [toInt32_inj.mp heq] at hkey
        exact hforeign hkey

end MapAt

/-!
## Runs
-/

/-- The receptions of a run, over any number of calls of `updateBuffersIn`. -/
def receiveAll {streams : Nat} (config : Config) :
    List Reception -> Inputs streams -> Except Fault (Inputs streams)
  | [], s => .ok s
  | r :: rs, s => do
      let result <- receive config r s
      receiveAll config rs result.1

/-- A call of `updateBuffersIn` performs the receptions that it takes. -/
theorem receiveAll_of_awaitRelease {streams : Nat} {config : Config}
    {receptions rest : List (Reception × List UInt64)} {s s' : Inputs streams}
    (h : awaitRelease config receptions s = .ok (s', rest)) :
    exists taken, receptions = taken ++ rest ∧
      receiveAll config (taken.map Prod.fst) s = .ok s' := by
  induction receptions generalizing s with
  | nil => cases h
  | cons reception receptions ih =>
      obtain ⟨r, clock⟩ := reception
      obtain ⟨⟨s₁, verdict⟩, hr, h⟩ := bind_eq_ok.mp h
      dsimp only at h
      split at h
      case isTrue =>
        obtain ⟨_, _, h⟩ := bind_eq_ok.mp h
        cases h
        refine ⟨[(r, clock)], rfl, ?_⟩
        exact bind_eq_ok.mpr ⟨_, hr, rfl⟩
      case isFalse =>
        obtain ⟨taken, rfl, htaken⟩ := ih h
        exact ⟨(r, clock) :: taken, rfl, bind_eq_ok.mpr ⟨_, hr, htaken⟩⟩

/-- The states of the program between two receptions. -/
def Reachable (config : Config) (s : Inputs config.inputSeqIds.length) : Prop :=
  exists memory rs,
    receiveAll config rs (initializeHardware config memory) = .ok s

theorem indexed_received {config : Config} {r : Reception}
    {s s' : Inputs config.inputSeqIds.length} {verdict : Verdict}
    (hs : Indexed config.inputSeqIds s.seqidIndex)
    (h : Received config r s s' verdict) :
    Indexed config.inputSeqIds s'.seqidIndex := by
  cases h with
  | failed _ => exact hs
  | dropped _ _ => exact hs
  | stored next hindex _ _ => exact indexed_mapAt hs

theorem indexed_receiveAll {config : Config} {rs : List Reception}
    {s s' : Inputs config.inputSeqIds.length}
    (hs : Indexed config.inputSeqIds s.seqidIndex)
    (h : receiveAll config rs s = .ok s') :
    Indexed config.inputSeqIds s'.seqidIndex := by
  induction rs generalizing s with
  | nil =>
      cases h
      exact hs
  | cons r rs ih =>
      obtain ⟨⟨s₁, verdict⟩, hr, h⟩ := bind_eq_ok.mp h
      exact ih (indexed_received hs (received_of_receive hr)) h

theorem Reachable.indexed {config : Config}
    {s : Inputs config.inputSeqIds.length} (h : Reachable config s) :
    Indexed config.inputSeqIds s.seqidIndex := by
  obtain ⟨memory, rs, hrs⟩ := h
  exact indexed_receiveAll (indexed_initializeHardware config memory) hrs

/-!
## Isolation
-/

section Isolation

variable {config : Config} {s : Inputs config.inputSeqIds.length}
  (hs : Indexed config.inputSeqIds s.seqidIndex) {r : Reception}

include hs

end Isolation

end PlcIo
end Ziggo
