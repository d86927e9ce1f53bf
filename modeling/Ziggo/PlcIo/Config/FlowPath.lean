import Mathlib.Data.List.Perm.Basic
import Ziggo.Foundation.Paths
import Ziggo.PlcIo.Config

/-!
# The path of a flow

`find_src_dst` collects the nodes at the two ends of the links of a flow and
returns the only node that no link leads to and the only one that none leaves.
-/

namespace Ziggo
namespace PlcIo

open Foundation

/-- A link between the nodes carries the flow. -/
def Carries (sche : List Element) (jobId flowId source target : Int32) : Prop :=
  exists flows, .link source target flows ∈ sche ∧ ⟨jobId, flowId⟩ ∈ flows

/-- No link of the schedule has a negative id for a node. -/
def NonnegativeIds (sche : List Element) : Prop :=
  forall source target flows, .link source target flows ∈ sche ->
    0 ≤ source ∧ 0 ≤ target

/-!
## The two sets
-/

theorem insertFlows_eq (jobId flowId source target : Int32) (flows : List Flow)
    (sets : FlowSets) :
    insertFlows jobId flowId source target flows sets =
      if ⟨jobId, flowId⟩ ∈ flows then
        { sOutflow := sets.sOutflow.insert source
          sInflow := sets.sInflow.insert target }
      else
        sets := by
  induction flows generalizing sets with
  | nil => rfl
  | cons flow flows ih =>
      have hflow : (⟨jobId, flowId⟩ : Flow) = flow <->
          jobId = flow.jobId ∧ flowId = flow.flowId := by
        cases flow
        rw [Flow.mk.injEq]
      simp only [insertFlows, ih, List.mem_cons, hflow]
      by_cases hhead : jobId = flow.jobId ∧ flowId = flow.flowId
      · simp [hhead]
      · simp only [hhead, if_false, false_or]

/-- The nodes with edges to others, and the nodes with edges from others. -/
structure Ends (Edge : Int32 -> Int32 -> Prop) (sets : FlowSets) : Prop where
  sOutflow : forall n, n ∈ sets.sOutflow <-> exists m, Edge n m
  sInflow : forall n, n ∈ sets.sInflow <-> exists m, Edge m n
  nodup : sets.sOutflow.Nodup ∧ sets.sInflow.Nodup

theorem Ends.congr {Edge Edge' : Int32 -> Int32 -> Prop} {sets : FlowSets}
    (h : Ends Edge sets) (hedge : forall a b, Edge' a b <-> Edge a b) :
    Ends Edge' sets := by
  have hsame : Edge' = Edge := by
    funext a b
    exact propext (hedge a b)
  rwa [hsame]

theorem Ends.insert {Edge : Int32 -> Int32 -> Prop} {sets : FlowSets}
    (h : Ends Edge sets) (source target : Int32) :
    Ends (fun a b => Edge a b ∨ (a = source ∧ b = target))
      { sOutflow := sets.sOutflow.insert source
        sInflow := sets.sInflow.insert target } where
  sOutflow n := by
    rw [List.mem_insert_iff, h.sOutflow, exists_or, or_comm]
    simp
  sInflow n := by
    rw [List.mem_insert_iff, h.sInflow, exists_or, or_comm]
    simp
  nodup := ⟨h.nodup.left.insert, h.nodup.right.insert⟩

theorem carries_cons {element : Element} {sche : List Element}
    {jobId flowId a b : Int32} :
    Carries (element :: sche) jobId flowId a b <->
      (exists flows, element = .link a b flows ∧ ⟨jobId, flowId⟩ ∈ flows) ∨
        Carries sche jobId flowId a b := by
  unfold Carries
  rw [← exists_or]
  refine exists_congr fun flows => ?_
  rw [List.mem_cons, or_and_right, eq_comm]

theorem carries_link_cons {source target : Int32} {flows : List Flow}
    {sche : List Element} {jobId flowId a b : Int32} :
    Carries (.link source target flows :: sche) jobId flowId a b <->
      (⟨jobId, flowId⟩ ∈ flows ∧ a = source ∧ b = target) ∨
        Carries sche jobId flowId a b := by
  rw [carries_cons]
  refine or_congr_left ?_
  constructor
  · rintro ⟨flows', heq, hflow⟩
    cases heq
    exact ⟨hflow, rfl, rfl⟩
  · rintro ⟨hflow, rfl, rfl⟩
    exact ⟨flows, rfl, hflow⟩

theorem ends_insertLinks {Edge : Int32 -> Int32 -> Prop} {sets : FlowSets}
    (h : Ends Edge sets) (jobId flowId : Int32) (sche : List Element) :
    Ends (fun a b => Edge a b ∨ Carries sche jobId flowId a b)
      (insertLinks jobId flowId sche sets) := by
  induction sche generalizing Edge sets with
  | nil => exact h.congr fun a b => by simp [Carries]
  | cons element sche ih =>
      cases element with
      | switch mac jobs => exact (ih h).congr fun a b => by simp [carries_cons]
      | other => exact (ih h).congr fun a b => by simp [carries_cons]
      | link source target flows =>
          rw [insertLinks, insertFlows_eq]
          by_cases hcarried : (⟨jobId, flowId⟩ : Flow) ∈ flows
          · rw [if_pos hcarried]
            refine (ih (h.insert source target)).congr fun a b => ?_
            rw [carries_link_cons, or_assoc, and_iff_right hcarried]
          · rw [if_neg hcarried]
            refine (ih h).congr fun a b => ?_
            rw [carries_link_cons,
              or_iff_right (b := Carries sche jobId flowId a b)
                fun hlink => hcarried hlink.left]

theorem ends_findSrcDst (sche : List Element) (jobId flowId : Int32) :
    Ends (Carries sche jobId flowId)
      (insertLinks jobId flowId sche { sOutflow := [], sInflow := [] }) := by
  have hempty : Ends (fun _ _ => False) { sOutflow := [], sInflow := [] } := by
    constructor
    case sOutflow => simp
    case sInflow => simp
    case nodup => exact ⟨List.nodup_nil, List.nodup_nil⟩
  exact (ends_insertLinks hempty jobId flowId sche).congr fun a b =>
    (or_iff_right not_false).symm

/-!
## The differences of the sets
-/

/-- Once an element has been found, the loop only checks that it is the last. -/
theorem findEnd_found {other ids : List Int32} {found : Int32}
    (hfound : found ≠ -1) {result : Int32} :
    findEnd other ids found = some result <->
      (forall id, id ∈ ids -> id ∈ other) ∧ found = result := by
  induction ids with
  | nil => simp [findEnd]
  | cons id ids ih =>
      rw [findEnd, List.forall_mem_cons]
      by_cases hother : id ∈ other
      · rw [if_pos hother, ih, and_iff_right hother]
      · rw [if_neg hother, if_pos hfound]
        simp [hother]

theorem findEnd_iff {other ids : List Int32} (hnodup : ids.Nodup)
    (hids : forall id, id ∈ ids -> id ≠ -1) {result : Int32}
    (hresult : result ≠ -1) :
    findEnd other ids (-1) = some result <->
      forall id, id ∈ ids ∧ id ∉ other <-> id = result := by
  induction ids with
  | nil =>
      simp only [findEnd, Option.some.injEq, List.not_mem_nil, false_and,
        false_iff]
      constructor
      · intro heq
        exact absurd heq.symm hresult
      · intro hnone
        exact absurd rfl (hnone result)
  | cons id ids ih =>
      obtain ⟨hnew, hnodup⟩ := List.nodup_cons.mp hnodup
      rw [List.forall_mem_cons] at hids
      rw [findEnd]
      by_cases hother : id ∈ other
      · rw [if_pos hother, ih hnodup hids.right]
        refine forall_congr' fun n => iff_congr ?_ Iff.rfl
        rw [List.mem_cons]
        constructor
        · rintro ⟨hmem, hout⟩
          exact ⟨Or.inr hmem, hout⟩
        · rintro ⟨rfl | hmem, hout⟩
          · exact absurd hother hout
          · exact ⟨hmem, hout⟩
      · rw [if_neg hother, if_neg (not_not.mpr rfl), findEnd_found hids.left]
        constructor
        · rintro ⟨hrest, rfl⟩ n
          rw [List.mem_cons]
          constructor
          · rintro ⟨rfl | hmem, hout⟩
            · rfl
            · exact absurd (hrest n hmem) hout
          · rintro rfl
            exact ⟨Or.inl rfl, hother⟩
        · intro hall
          have hid : id = result := (hall id).mp ⟨List.mem_cons_self, hother⟩
          refine ⟨fun n hmem => ?_, hid⟩
          by_contra hout
          have hn := (hall n).mp ⟨List.mem_cons_of_mem _ hmem, hout⟩
          rw [hn, ← hid] at hmem
          exact hnew hmem

/-!
## The result
-/

section Result

variable {traverse : List Int32 -> List Int32}
  (htraverse : forall ids, (traverse ids).Perm ids)
  {sche : List Element} {jobId flowId : Int32}

include htraverse

/-- The result is the only source and the only sink of the flow. -/
theorem findSrcDst_eq_some_iff
    (hids : forall a b, Carries sche jobId flowId a b -> a ≠ -1 ∧ b ≠ -1)
    {srcId dstId : Int32} (hsrc : srcId ≠ -1) (hdst : dstId ≠ -1) :
    findSrcDst traverse sche jobId flowId = some (srcId, dstId) <->
      (forall n, Source (Carries sche jobId flowId) n <-> n = srcId) ∧
        forall n, Sink (Carries sche jobId flowId) n <-> n = dstId := by
  have hends := ends_findSrcDst sche jobId flowId
  generalize hsets : insertLinks jobId flowId sche
    { sOutflow := [], sInflow := [] } = sets at hends
  have hout : forall n, n ∈ traverse sets.sOutflow -> n ≠ -1 := by
    intro n hn
    obtain ⟨m, hm⟩ :=
      (hends.sOutflow n).mp ((htraverse sets.sOutflow).mem_iff.mp hn)
    exact (hids n m hm).left
  have hin : forall n, n ∈ traverse sets.sInflow -> n ≠ -1 := by
    intro n hn
    obtain ⟨m, hm⟩ :=
      (hends.sInflow n).mp ((htraverse sets.sInflow).mem_iff.mp hn)
    exact (hids m n hm).right
  have hsource := @findEnd_iff sets.sInflow _
    ((htraverse sets.sOutflow).nodup_iff.mpr hends.nodup.left) hout srcId hsrc
  have hsink := @findEnd_iff sets.sOutflow _
    ((htraverse sets.sInflow).nodup_iff.mpr hends.nodup.right) hin dstId hdst
  simp only [(htraverse _).mem_iff, hends.sOutflow, hends.sInflow, not_exists]
    at hsource hsink
  have hresult : findSrcDst traverse sche jobId flowId = some (srcId, dstId) <->
      findEnd sets.sInflow (traverse sets.sOutflow) (-1) = some srcId ∧
        findEnd sets.sOutflow (traverse sets.sInflow) (-1) = some dstId := by
    simp only [findSrcDst, hsets, Option.bind_eq_bind, Option.bind_eq_some_iff]
    constructor
    · rintro ⟨src, hfirst, dst, hlast, heq⟩
      split at heq
      · cases heq
        exact ⟨hfirst, hlast⟩
      · cases heq
    · rintro ⟨hfirst, hlast⟩
      exact ⟨srcId, hfirst, dstId, hlast, if_pos ⟨hsrc, hdst⟩⟩
  rw [hresult, hsource, hsink]
  rfl

theorem source_and_sink_of_findSrcDst (hids : NonnegativeIds sche)
    {srcId dstId : Int32}
    (h : findSrcDst traverse sche jobId flowId = some (srcId, dstId)) :
    (forall n, Source (Carries sche jobId flowId) n <-> n = srcId) ∧
      forall n, Sink (Carries sche jobId flowId) n <-> n = dstId := by
  have hfound : srcId ≠ -1 ∧ dstId ≠ -1 := by
    simp only [findSrcDst, Option.bind_eq_bind, Option.bind_eq_some_iff] at h
    obtain ⟨_, _, _, _, heq⟩ := h
    split at heq
    case isTrue hne =>
      cases heq
      exact hne
    case isFalse => cases heq
  refine (findSrcDst_eq_some_iff htraverse ?_ hfound.left hfound.right).mp h
  rintro a b ⟨flows, hlink, _⟩
  obtain ⟨ha, hb⟩ := hids a b flows hlink
  constructor
  · rintro rfl
    exact absurd ha (by decide)
  · rintro rfl
    exact absurd hb (by decide)

theorem findSrcDst_correct (sche : List Element) (jobId flowId : Int32) :
    (forall nodes first last, IsPath (Carries sche jobId flowId) nodes ->
      (forall n, n ∈ nodes -> 0 ≤ n) ->
      nodes.head? = some first -> nodes.getLast? = some last ->
      findSrcDst traverse sche jobId flowId = some (first, last)) ∧
    (NonnegativeIds sche ->
      (¬ ∃! n, Source (Carries sche jobId flowId) n) ∨
        (¬ ∃! n, Sink (Carries sche jobId flowId) n) ->
      findSrcDst traverse sche jobId flowId = none) := by
  constructor
  · intro nodes first last hpath hnonneg hhead hlast
    have hmarker : forall n, n ∈ nodes -> n ≠ -1 := by
      rintro n hn rfl
      exact absurd (hnonneg (-1) hn) (by decide)
    refine (findSrcDst_eq_some_iff htraverse ?_
      (hmarker first (List.mem_of_mem_head? hhead))
      (hmarker last (List.mem_of_getLast? hlast))).mpr ⟨?_, ?_⟩
    · intro a b hcarries
      obtain ⟨before, after, rfl⟩ := (hpath.edge a b).mp hcarries
      exact ⟨hmarker a (by simp), hmarker b (by simp)⟩
    · intro n
      rw [hpath.source_iff, hhead, Option.some.injEq, eq_comm]
    · intro n
      rw [hpath.sink_iff, hlast, Option.some.injEq, eq_comm]
  · intro hids hnot
    cases hresult : findSrcDst traverse sche jobId flowId with
    | none => rfl
    | some ends =>
        obtain ⟨hsource, hsink⟩ :=
          source_and_sink_of_findSrcDst htraverse hids hresult
        rcases hnot with hnot | hnot
        · exact absurd ⟨ends.1, (hsource _).mpr rfl, fun n => (hsource n).mp⟩ hnot
        · exact absurd ⟨ends.2, (hsink _).mpr rfl, fun n => (hsink n).mp⟩ hnot

end Result

/-- The flow 0 leads from node 2 to node 7, and the flow 1 has two sources. -/
def forkedSchedule : List Element :=
  [.link 5 7 [⟨1, 0⟩, ⟨1, 1⟩], .other, .link 3 5 [⟨1, 1⟩], .link 2 5 [⟨1, 0⟩],
    .link 4 5 [⟨2, 0⟩, ⟨1, 1⟩]]

theorem findSrcDst_forked :
    findSrcDst List.reverse forkedSchedule 1 0 = some (2, 7) ∧
      findSrcDst List.reverse forkedSchedule 1 1 = none := by
  constructor
  · have hnonneg : forall n, n ∈ ([2, 5, 7] : List Int32) -> 0 ≤ n := by
      intro n hn
      simp only [List.mem_cons, List.not_mem_nil, or_false] at hn
      rcases hn with rfl | rfl | rfl <;> decide
    refine (findSrcDst_correct List.reverse_perm forkedSchedule 1 0).left
      [2, 5, 7] 2 7 ⟨by decide, by decide, fun a b => ?_⟩ hnonneg rfl rfl
    simp only [forkedSchedule, carries_cons, adjacent_cons, adjacent_singleton]
    simp [Carries, or_comm, @eq_comm Int32 a, @eq_comm Int32 b]
  · refine (findSrcDst_correct List.reverse_perm forkedSchedule 1 1).right ?_
      (Or.inl ?_)
    · rintro source target flows hlink
      simp only [forkedSchedule, List.mem_cons, Element.link.injEq] at hlink
      rcases hlink with h | h | h | h | h | h
      all_goals first | (obtain ⟨rfl, rfl, rfl⟩ := h; decide) | cases h
    · rintro ⟨n, _, hunique⟩
      have hthree : (3 : Int32) = n := hunique 3 ⟨⟨5, by
        simp [forkedSchedule, Carries]⟩, by simp [forkedSchedule, Carries]⟩
      have hfour : (4 : Int32) = n := hunique 4 ⟨⟨5, by
        simp [forkedSchedule, Carries]⟩, by simp [forkedSchedule, Carries]⟩
      exact absurd (hthree.trans hfour.symm) (by decide)

end PlcIo
end Ziggo
