import Mathlib.Algebra.BigOperators.Intervals
import Mathlib.Data.Int.ConditionallyCompleteOrder
import Ziggo.Foundation.Cuts
import Ziggo.Topo.ApplyGcl.Intervals

/-!
# The schedule that the gates follow

What the entries of the gate-control list mean: the parts of a period follow
each other, and the gates are open for time-triggered frames exactly in the
windows of the schedule.
-/

namespace Ziggo
namespace Topo

open Foundation TsnDrivers

/-!
## Windows
-/

def itemWindows (item : ScheduleItem) : List (Int × Int) :=
  (List.range (2048 / item.period.toInt).toNat).map fun k : Nat =>
    (k * item.period.toInt + item.start.toInt,
      k * item.period.toInt + item.endTime.toInt)

def windows (schedule : List ScheduleItem) : List (Int × Int) :=
  schedule.flatMap itemWindows

/-- The slot lies in the window, taken modulo the cycle. -/
def InWindow (w : Int × Int) (t : Int) : Prop :=
  exists u, w.1 ≤ u ∧ u < w.2 ∧ u % 2048 = t % 2048

/-- Schedules whose windows are disjoint and fit the list. -/
structure Regular (schedule : List ScheduleItem) : Prop where
  period : forall item, item ∈ schedule ->
    0 < item.period.toInt ∧ item.period.toInt ∣ 2048
  window : forall item, item ∈ schedule ->
    0 ≤ item.start.toInt ∧ item.start.toInt < item.period.toInt ∧
      item.start.toInt < item.endTime.toInt ∧
      item.endTime.toInt ≤ item.start.toInt + item.period.toInt
  disjoint : (windows schedule).Pairwise fun v w =>
    forall t, ¬ (InWindow v t ∧ InWindow w t)
  intervals : intervals schedule ≤ 16

/-- A window that is not longer than the cycle it starts in. -/
structure Bounded (w : Int × Int) : Prop where
  nonneg : 0 ≤ w.1
  lt_cycle : w.1 < 2048
  lt : w.1 < w.2
  le : w.2 ≤ w.1 + 2048

theorem mem_itemWindows {item : ScheduleItem} (hperiod : 0 < item.period.toInt)
    (hdvd : item.period.toInt ∣ 2048) {w : Int × Int} :
    w ∈ itemWindows item <->
      exists y, y ∈ offsets item.period.toInt ∧
        w = (y + item.start.toInt, y + item.endTime.toInt) := by
  obtain ⟨n, hn⟩ := hdvd
  have hcount : 2048 / item.period.toInt = n := by
    rw [hn]
    exact Int.mul_ediv_cancel_left n (Int.ne_of_gt hperiod)
  have hbound : forall k : Nat, k < n.toNat <->
      (k : Int) * item.period.toInt < 2048 := by
    intro k
    rw [hn, mul_comm item.period.toInt n, Int.mul_lt_mul_right hperiod]
    omega
  simp only [itemWindows, List.mem_map, List.mem_range, mem_offsets hperiod,
    Reached, zero_add, hcount, hbound]
  constructor
  · rintro ⟨k, hk, rfl⟩
    exact ⟨_, ⟨hk, k, rfl⟩, rfl⟩
  · rintro ⟨y, ⟨hy, k, rfl⟩, rfl⟩
    exact ⟨k, hy, rfl⟩

theorem Regular.bounded {schedule : List ScheduleItem} (h : Regular schedule)
    {w : Int × Int} (hw : w ∈ windows schedule) : Bounded w := by
  obtain ⟨item, hitem, hw⟩ := List.mem_flatMap.mp hw
  obtain ⟨hperiod, hdvd⟩ := h.period item hitem
  obtain ⟨hstart, hlt, hend, hlength⟩ := h.window item hitem
  obtain ⟨y, hy, rfl⟩ := (mem_itemWindows hperiod hdvd).mp hw
  obtain ⟨hcycle, k, hk⟩ := (mem_offsets hperiod).mp hy
  obtain ⟨n, hn⟩ := hdvd
  have hle : item.period.toInt ≤ 2048 := Int.le_of_dvd (by decide) ⟨n, hn⟩
  -- The offset is a multiple of the period, and so is the cycle.
  have hroom : y + item.period.toInt ≤ 2048 := by
    rw [zero_add] at hk
    have hkn : (k : Int) < n := by
      rw [hk, hn, mul_comm item.period.toInt n] at hcycle
      exact (Int.mul_lt_mul_right hperiod).mp hcycle
    have hmul : ((k : Int) + 1) * item.period.toInt ≤
        n * item.period.toInt :=
      Int.mul_le_mul_of_nonneg_right hkn hperiod.le
    rw [add_mul, one_mul, ← hk, mul_comm n, ← hn] at hmul
    exact hmul
  have hnonneg : 0 ≤ y := by
    rw [hk, zero_add]
    positivity
  constructor
  case nonneg =>
    dsimp only
    omega
  case lt_cycle =>
    dsimp only
    omega
  case lt =>
    dsimp only
    omega
  case le =>
    dsimp only
    omega

/-!
## The intervals of one cycle
-/

/-- The parts of a window before and after the end of the cycle. -/
def parts (w : Int × Int) : Set (Int × Int) :=
  if w.2 > 2048 then {(0, w.2 - 2048), (w.1, 2048)} else {w}

theorem inWindow_iff {w : Int × Int} (h : Bounded w) {t : Int} (ht : 0 ≤ t)
    (ht' : t < 2048) :
    InWindow w t <-> exists p, p ∈ parts w ∧ p.1 ≤ t ∧ t < p.2 := by
  obtain ⟨hnonneg, hcycle, hlt, hle⟩ := h
  unfold InWindow parts
  constructor
  · rintro ⟨u, hfirst, hlast, hmod⟩
    split
    case isTrue hwrap =>
      by_cases hu : u < 2048
      · exact ⟨(w.1, 2048), by simp, by dsimp only; omega, ht'⟩
      · exact ⟨(0, w.2 - 2048), by simp, ht, by dsimp only; omega⟩
    case isFalse hwrap =>
      exact ⟨w, rfl, by omega, by omega⟩
  · rintro ⟨p, hp, hfirst, hlast⟩
    split at hp
    case isTrue hwrap =>
      rcases hp with rfl | rfl
      · dsimp only at hfirst hlast
        exact ⟨t + 2048, by omega, by omega, by omega⟩
      · exact ⟨t, hfirst, by omega, rfl⟩
    case isFalse hwrap =>
      rw [Set.mem_singleton_iff.mp hp] at hfirst hlast
      exact ⟨t, hfirst, hlast, rfl⟩

def scheduleParts (schedule : List ScheduleItem) : Set (Int × Int) :=
  {p | exists w, w ∈ windows schedule ∧ p ∈ parts w}

theorem parts_bounds {w : Int × Int} (h : Bounded w) {p : Int × Int}
    (hp : p ∈ parts w) : 0 ≤ p.1 ∧ p.1 < p.2 ∧ p.2 ≤ 2048 := by
  obtain ⟨hnonneg, hcycle, hlt, hle⟩ := h
  unfold parts at hp
  split at hp
  case isTrue hwrap =>
    rcases hp with rfl | rfl
    · dsimp only
      omega
    · dsimp only
      omega
  case isFalse hwrap =>
    rw [Set.mem_singleton_iff.mp hp]
    omega

theorem parts_disjoint {w : Int × Int} (h : Bounded w) {p q : Int × Int}
    (hp : p ∈ parts w) (hq : q ∈ parts w) {t : Int} (hpt : p.1 ≤ t ∧ t < p.2)
    (hqt : q.1 ≤ t ∧ t < q.2) : p = q := by
  obtain ⟨hnonneg, hcycle, hlt, hle⟩ := h
  unfold parts at hp hq
  split at hp
  case isTrue hwrap =>
    rw [if_pos hwrap] at hq
    rcases hp with rfl | rfl <;> rcases hq with rfl | rfl
    · rfl
    · dsimp only at hpt hqt
      omega
    · dsimp only at hpt hqt
      omega
    · rfl
  case isFalse hwrap =>
    rw [if_neg hwrap] at hq
    rw [Set.mem_singleton_iff.mp hp, Set.mem_singleton_iff.mp hq]

theorem Regular.parts_eq {schedule : List ScheduleItem} (h : Regular schedule)
    {p q : Int × Int} (hp : p ∈ scheduleParts schedule)
    (hq : q ∈ scheduleParts schedule) {t : Int} (hpt : p.1 ≤ t ∧ t < p.2)
    (hqt : q.1 ≤ t ∧ t < q.2) : p = q := by
  obtain ⟨v, hv, hp⟩ := hp
  obtain ⟨w, hw, hq⟩ := hq
  have hpb := parts_bounds (h.bounded hv) hp
  have hslot : 0 ≤ t ∧ t < 2048 := by omega
  have hvt := (inWindow_iff (h.bounded hv) hslot.left hslot.right).mpr
    ⟨p, hp, hpt⟩
  have hwt := (inWindow_iff (h.bounded hw) hslot.left hslot.right).mpr
    ⟨q, hq, hqt⟩
  by_cases hvw : v = w
  · subst hvw
    exact parts_disjoint (h.bounded hv) hp hq hpt hqt
  · have hsymmetric : Std.Symm fun v w : Int × Int =>
        forall t, ¬ (InWindow v t ∧ InWindow w t) :=
      ⟨fun v w hvw t hboth => hvw t ⟨hboth.right, hboth.left⟩⟩
    exact absurd ⟨hvt, hwt⟩ (h.disjoint.forall hv hw hvw t)

/-!
## Starts and boundaries
-/

theorem exists_parts {schedule : List ScheduleItem} {P : Int × Int -> Prop} :
    (exists p, p ∈ scheduleParts schedule ∧ P p) <->
      exists item, item ∈ schedule ∧ exists w, w ∈ itemWindows item ∧
        exists p, p ∈ parts w ∧ P p := by
  constructor
  · rintro ⟨p, ⟨w, hw, hp⟩, hP⟩
    obtain ⟨item, hitem, hw⟩ := List.mem_flatMap.mp hw
    exact ⟨item, hitem, w, hw, p, hp, hP⟩
  · rintro ⟨item, hitem, w, hw, p, hp, hP⟩
    exact ⟨p, ⟨w, List.mem_flatMap.mpr ⟨item, hitem, hw⟩, hp⟩, hP⟩

theorem mem_starts_pushWindow {first last : Int} {t : TimePoints} {b : Int} :
    b ∈ (pushWindow first last t).ttFramesStartTimes <->
      b ∈ t.ttFramesStartTimes ∨
        exists p, p ∈ parts (first, last) ∧ b = p.1 := by
  unfold pushWindow parts maxPeriod
  by_cases h : last > 2048
  · simp [h]
  · simp [h]

theorem mem_starts_addItem {fuel : Nat} {item : ScheduleItem}
    {t t' : TimePoints} (h : addItem fuel item t = .ok t')
    (hperiod : 0 < item.period.toInt) (hdvd : item.period.toInt ∣ 2048)
    (b : Int) :
    b ∈ t'.ttFramesStartTimes <-> b ∈ t.ttFramesStartTimes ∨
      exists w, w ∈ itemWindows item ∧ exists p, p ∈ parts w ∧ b = p.1 := by
  have hwindows : (exists w, w ∈ itemWindows item ∧
        exists p, p ∈ parts w ∧ b = p.1) <->
      exists y, y ∈ offsets item.period.toInt ∧ exists p,
        p ∈ parts (y + item.start.toInt, y + item.endTime.toInt) ∧
          b = p.1 := by
    simp only [mem_itemWindows hperiod hdvd]
    constructor
    · rintro ⟨w, ⟨y, hy, rfl⟩, hp⟩
      exact ⟨y, hy, hp⟩
    · rintro ⟨y, hy, hp⟩
      exact ⟨_, ⟨y, hy, rfl⟩, hp⟩
  rw [hwindows]
  unfold addItem at h
  by_cases hmax : item.period.toInt = maxPeriod
  · rw [if_pos hmax] at h
    cases h
    rw [mem_starts_pushWindow, hmax, offsets_maxPeriod]
    simp
  · rw [if_neg hmax] at h
    rw [mem_expand_of (fun _ _ _ _ => mem_starts_pushWindow) h hperiod]
    simp only [mem_offsets hperiod]

theorem mem_starts_addItems {fuel : Nat} {schedule : List ScheduleItem}
    {t t' : TimePoints} (h : addItems fuel schedule t = .ok t')
    (hperiod : forall item, item ∈ schedule ->
      0 < item.period.toInt ∧ item.period.toInt ∣ 2048) (b : Int) :
    b ∈ t'.ttFramesStartTimes <-> b ∈ t.ttFramesStartTimes ∨
      exists p, p ∈ scheduleParts schedule ∧ b = p.1 := by
  induction schedule generalizing t with
  | nil =>
      cases h
      simp [scheduleParts, windows]
  | cons item schedule ih =>
      obtain ⟨t₁, hitem, hrest⟩ := bind_eq_ok.mp h
      rw [List.forall_mem_cons] at hperiod
      rw [ih hrest hperiod.right,
        mem_starts_addItem hitem hperiod.left.left hperiod.left.right,
        or_assoc]
      simp only [exists_parts, List.exists_mem_cons_iff]

theorem mem_windowBoundaries {w : Int × Int} {b : Int} :
    b ∈ windowBoundaries w.1 w.2 <->
      exists p, p ∈ parts w ∧ (b = p.1 ∨ b = p.2) := by
  unfold windowBoundaries parts
  by_cases h : w.2 > 2048
  · simp [h, or_assoc]
  · simp [h]

theorem mem_boundaries {schedule : List ScheduleItem} (h : Regular schedule)
    {b : Int} : b ∈ boundaries schedule <->
      b = 0 ∨ b = 2048 ∨
        exists p, p ∈ scheduleParts schedule ∧ (b = p.1 ∨ b = p.2) := by
  have hitems : (exists item, item ∈ schedule ∧ b ∈ itemBoundaries item) <->
      exists p, p ∈ scheduleParts schedule ∧ (b = p.1 ∨ b = p.2) := by
    rw [exists_parts]
    refine exists_congr fun item => and_congr_right fun hitem => ?_
    obtain ⟨hperiod, hdvd⟩ := h.period item hitem
    unfold itemBoundaries
    simp only [Finset.mem_biUnion, mem_itemWindows hperiod hdvd]
    constructor
    · rintro ⟨y, hy, hb⟩
      exact ⟨_, ⟨y, hy, rfl⟩, mem_windowBoundaries.mp hb⟩
    · rintro ⟨w, ⟨y, hy, rfl⟩, hb⟩
      exact ⟨y, hy, mem_windowBoundaries.mpr hb⟩
  rw [← hitems]
  unfold boundaries
  simp only [Finset.mem_union, Finset.mem_insert, Finset.mem_singleton,
    Finset.mem_biUnion, List.mem_toFinset, or_assoc]

theorem Regular.cuts {schedule : List ScheduleItem} (h : Regular schedule) :
    Cuts 0 2048 (boundaries schedule) (scheduleParts schedule) where
  lt := by
    rintro p ⟨w, hw, hp⟩
    exact (parts_bounds (h.bounded hw) hp).right.left
  within := by
    rintro p ⟨w, hw, hp⟩
    have hbounds := parts_bounds (h.bounded hw) hp
    exact ⟨hbounds.left, hbounds.right.right⟩
  disjoint p q hp hq t hpt hqt := h.parts_eq hp hq hpt hqt
  mem_points _ := mem_boundaries h

/-!
## The entries of the list
-/

/-- What the loop over the points leaves in the list. -/
structure Entries (ttFramesStartTimes : List Int) (index : Nat)
    (points : List Int) (gcl gcl' : Gcl) : Prop where
  kept : forall i : Fin gclSize,
    i.val < index ∨ index + (points.length - 1) ≤ i.val ->
      gcl'.values i = gcl.values i ∧
        gcl'.timeIntervals i = gcl.timeIntervals i
  filled : forall k a b, points[k]? = some a -> points[k + 1]? = some b ->
    exists h : index + k < gclSize,
      gcl'.values ⟨index + k, h⟩ = gclValue ttFramesStartTimes a ∧
        gcl'.timeIntervals ⟨index + k, h⟩ = (b - a) * 8

theorem entries_of_fillGcl {ttFramesStartTimes points : List Int} {index : Nat}
    {gcl gcl' : Gcl}
    (h : fillGcl ttFramesStartTimes index points gcl = .ok gcl') :
    Entries ttFramesStartTimes index points gcl gcl' := by
  induction points generalizing index gcl with
  | nil =>
      cases h
      exact ⟨fun _ _ => ⟨rfl, rfl⟩, fun k a b ha _ => by cases ha⟩
  | cons a points ih =>
      cases points with
      | nil =>
          cases h
          exact ⟨fun _ _ => ⟨rfl, rfl⟩, fun k a b _ hb => by cases hb⟩
      | cons b points =>
          rw [fillGcl] at h
          split at h
          case isFalse => cases h
          case isTrue hindex =>
            obtain ⟨length, hlength, h⟩ := bind_eq_ok.mp h
            obtain ⟨interval, hinterval, h⟩ := bind_eq_ok.mp h
            obtain ⟨_, rfl⟩ := checkInt_eq_ok.mp hlength
            obtain ⟨_, rfl⟩ := checkInt_eq_ok.mp hinterval
            have hrest := ih h
            have hcount : (a :: b :: points).length - 1 =
                (b :: points).length - 1 + 1 := by
              simp only [List.length_cons]
              omega
            constructor
            case kept =>
              intro i hi
              rw [hcount] at hi
              have hne : i ≠ ⟨index, hindex⟩ := by
                rintro rfl
                dsimp only at hi
                omega
              have hkept := hrest.kept i (by omega)
              rw [hkept.left, hkept.right]
              exact ⟨Function.update_of_ne hne _ _,
                Function.update_of_ne hne _ _⟩
            case filled =>
              intro k c d hc hd
              cases k with
              | zero =>
                  cases hc
                  cases hd
                  have hkept := hrest.kept ⟨index, hindex⟩ (Or.inl (by simp))
                  refine ⟨hindex, ?_, ?_⟩
                  · exact hkept.left.trans (Function.update_self _ _ _)
                  · exact hkept.right.trans (Function.update_self _ _ _)
              | succ k =>
                  obtain ⟨hk, hvalue, hlength⟩ := hrest.filled k c d hc hd
                  have hshift : index + 1 + k = index + (k + 1) := by omega
                  simp only [hshift] at hk hvalue hlength
                  exact ⟨hk, hvalue, hlength⟩

theorem gclValue_cases (ttFramesStartTimes : List Int) (timePoint : Int) :
    gclValue ttFramesStartTimes timePoint = 1 ∨
      gclValue ttFramesStartTimes timePoint = 0b100000010 :=
  ite_eq_or_eq _ _ _

theorem Entries.values {ttFramesStartTimes points : List Int} {gcl : Gcl}
    (h : Entries ttFramesStartTimes 0 points initialGcl gcl) (i : Fin gclSize) :
    gcl.values i = 1 ∨ gcl.values i = 0b100000010 := by
  by_cases hused : i.val + 1 < points.length
  · obtain ⟨_, hvalue, _⟩ := h.filled i.val _ _
      (List.getElem?_eq_getElem (Nat.lt_of_succ_lt hused))
      (List.getElem?_eq_getElem hused)
    simp only [Nat.zero_add] at hvalue
    rw [hvalue]
    exact gclValue_cases _ _
  · have hkept := (h.kept i (Or.inr (by omega))).left
    exact Or.inl hkept

/-- The length of an entry, in units of an eighth of a slot. -/
def Gcl.length (gcl : Gcl) (n : Nat) : Int :=
  if h : n < gclSize then gcl.timeIntervals ⟨n, h⟩ else 0

/-- The instant at which an entry begins, in the same units. -/
def Gcl.start (gcl : Gcl) (n : Nat) : Int :=
  ∑ k ∈ Finset.range n, gcl.length k

/-- The gates follow the entry in the slot. -/
def Gcl.Covers (gcl : Gcl) (i : Fin gclSize) (t : Int) : Prop :=
  gcl.start i ≤ t * 8 ∧ t * 8 < gcl.start (i + 1)

theorem Gcl.start_succ (gcl : Gcl) (n : Nat) :
    gcl.start (n + 1) = gcl.start n + gcl.length n :=
  Finset.sum_range_succ _ n

theorem Gcl.length_of_lt (gcl : Gcl) {n : Nat} (h : n < gclSize) :
    gcl.length n = gcl.timeIntervals ⟨n, h⟩ :=
  dif_pos h

section Points

variable {ttFramesStartTimes points : List Int} {gcl : Gcl}
  (h : Entries ttFramesStartTimes 0 points initialGcl gcl)
  (hfirst : points[0]? = some 0)

include h hfirst

theorem start_eq_point {k : Nat} {a : Int} (hk : points[k]? = some a) :
    gcl.start k = a * 8 := by
  induction k generalizing a with
  | zero =>
      rw [hfirst] at hk
      cases hk
      rfl
  | succ k ih =>
      have hlt : k < points.length := by
        have hsucc := (List.getElem?_eq_some_iff.mp hk).1
        omega
      have hprevious := List.getElem?_eq_getElem hlt
      obtain ⟨hsize, _, hlength⟩ := h.filled k points[k] a hprevious hk
      simp only [Nat.zero_add] at hsize hlength
      rw [Gcl.start_succ, ih hprevious, Gcl.length_of_lt gcl hsize, hlength]
      omega

/-- The entries that are not used have no length. -/
theorem start_eq_last {n k : Nat} {a : Int} (hlast : points[n]? = some a)
    (hlength : points.length = n + 1) (hk : n ≤ k) (hsize : k ≤ gclSize) :
    gcl.start k = a * 8 := by
  induction k, hk using Nat.le_induction with
  | base => exact start_eq_point h hfirst hlast
  | succ k hk ih =>
      have hlt : k < gclSize := hsize
      have hkept := (h.kept ⟨k, hlt⟩ (Or.inr (by dsimp only; omega))).right
      rw [Gcl.start_succ, ih (by omega), Gcl.length_of_lt gcl hlt, hkept]
      exact Int.add_zero _

end Points

/-!
## The cycle
-/

/-- The slot lies in some window of the schedule. -/
def Scheduled (schedule : List ScheduleItem) (t : Int) : Prop :=
  exists w, w ∈ windows schedule ∧ InWindow w t

/-- The list of a schedule. -/
structure Follows (schedule : List ScheduleItem) (gcl : Gcl) : Prop where
  /-- The entries in use come first, and the others have no length. -/
  used : exists n, n ≤ gclSize ∧
    (forall i : Fin gclSize, i.val < n -> 0 < gcl.timeIntervals i) ∧
    forall i : Fin gclSize, n ≤ i.val -> gcl.timeIntervals i = 0
  /-- The entries cover the cycle. -/
  total : gcl.start gclSize = 2048 * 8
  /-- One entry covers each slot, and it opens the gates of the slot. -/
  gates : forall t, 0 ≤ t -> t < 2048 -> exists i,
    (forall j, gcl.Covers j t <-> j = i) ∧
      (Scheduled schedule t -> gcl.values i = 1) ∧
      (¬ Scheduled schedule t -> gcl.values i = 0b100000010)

theorem scheduled_iff {schedule : List ScheduleItem} (h : Regular schedule)
    {t : Int} (ht : 0 ≤ t) (ht' : t < 2048) :
    Scheduled schedule t <->
      exists p, p ∈ scheduleParts schedule ∧ p.1 ≤ t ∧ t < p.2 := by
  constructor
  · rintro ⟨w, hw, hmem⟩
    obtain ⟨p, hp, hslot⟩ := (inWindow_iff (h.bounded hw) ht ht').mp hmem
    exact ⟨p, ⟨w, hw, hp⟩, hslot⟩
  · rintro ⟨p, ⟨w, hw, hp⟩, hslot⟩
    exact ⟨w, hw, (inWindow_iff (h.bounded hw) ht ht').mpr ⟨p, hp, hslot⟩⟩

/-- A sequence that passes a value does so between two neighbours. -/
theorem exists_between {start : Nat -> Int} {x : Int} {n : Nat}
    (hfirst : start 0 ≤ x) (hlast : x < start n) :
    exists k, k < n ∧ start k ≤ x ∧ x < start (k + 1) := by
  induction n with
  | zero => exact absurd hlast (not_lt.mpr hfirst)
  | succ n ih =>
      by_cases hn : x < start n
      · obtain ⟨k, hk, hbetween⟩ := ih hn
        exact ⟨k, Nat.lt_succ_of_lt hk, hbetween⟩
      · exact ⟨n, Nat.lt_succ_self n, not_lt.mp hn, hlast⟩

section Cycle

variable {schedule : List ScheduleItem} {ttFramesStartTimes points : List Int}
  {gcl : Gcl} (h : Regular schedule)
  (hsorted : points.SortedLT) (hpoints : points.toFinset = boundaries schedule)
  (hstarts : forall b, b ∈ ttFramesStartTimes <->
    exists p, p ∈ scheduleParts schedule ∧ b = p.1)
  (hentries : Entries ttFramesStartTimes 0 points initialGcl gcl)

include h hsorted hpoints

theorem first_point : points[0]? = some 0 := by
  have hmem : (0 : Int) ∈ points := by
    rw [← List.mem_toFinset, hpoints]
    exact (mem_boundaries h).mpr (Or.inl rfl)
  refine getElem?_zero_of_sortedLT hsorted hmem fun b hb => ?_
  rw [← List.mem_toFinset, hpoints] at hb
  exact h.cuts.low_le (by decide) hb

theorem last_point : points[points.length - 1]? = some 2048 := by
  have hmem : (2048 : Int) ∈ points := by
    rw [← List.mem_toFinset, hpoints]
    exact (mem_boundaries h).mpr (Or.inr (Or.inl rfl))
  refine getElem?_last_of_sortedLT hsorted hmem fun b hb => ?_
  rw [← List.mem_toFinset, hpoints] at hb
  exact h.cuts.le_high (by decide) hb

include hentries

theorem start_gclSize (hlength : points.length ≤ 17) :
    gcl.start gclSize = 2048 * 8 := by
  have hfirst := first_point h hsorted hpoints
  have hpos := (List.getElem?_eq_some_iff.mp hfirst).1
  refine start_eq_last hentries hfirst (last_point h hsorted hpoints)
    (by omega) ?_ (Nat.le_refl gclSize)
  unfold gclSize
  omega

omit h hpoints in
/-- The entries in use are those between two points. -/
theorem timeIntervals_pos {i : Fin gclSize} (hi : i.val < points.length - 1) :
    0 < gcl.timeIntervals i := by
  have hlt : i.val < points.length := by omega
  have hlt' : i.val + 1 < points.length := by omega
  obtain ⟨_, _, hlength⟩ := hentries.filled i.val _ _
    (List.getElem?_eq_getElem hlt) (List.getElem?_eq_getElem hlt')
  have hmono : points[i.val] < points[i.val + 1] :=
    hsorted.strictMono_get
      (Nat.lt_succ_self i.val : (⟨i.val, hlt⟩ : Fin _) < ⟨_, hlt'⟩)
  simp only [Nat.zero_add] at hlength
  rw [hlength]
  omega

omit h hsorted hpoints in
theorem timeIntervals_zero {i : Fin gclSize}
    (hi : points.length - 1 ≤ i.val) : gcl.timeIntervals i = 0 :=
  (hentries.kept i (Or.inr (by omega))).right

omit h hpoints in
theorem timeIntervals_nonneg (i : Fin gclSize) : 0 ≤ gcl.timeIntervals i := by
  rcases Nat.lt_or_ge i.val (points.length - 1) with hi | hi
  · exact (timeIntervals_pos hsorted hentries hi).le
  · exact (timeIntervals_zero hentries hi).ge

omit h hpoints in
theorem monotone_start : Monotone gcl.start := by
  refine monotone_nat_of_le_succ fun n => ?_
  rw [Gcl.start_succ]
  have hnonneg : 0 ≤ gcl.length n := by
    unfold Gcl.length
    split
    · exact timeIntervals_nonneg hsorted hentries _
    · exact le_rfl
  omega

theorem timeIntervals_le (hlength : points.length ≤ 17) (i : Fin gclSize) :
    gcl.timeIntervals i ≤ 2048 * 8 := by
  have hmono := monotone_start hsorted hentries
  have hfirst : gcl.start 0 ≤ gcl.start i := hmono (Nat.zero_le i.val)
  have hlast : gcl.start (i.val + 1) ≤ gcl.start gclSize := hmono i.isLt
  have hlengthi : gcl.length i.val = gcl.timeIntervals i :=
    Gcl.length_of_lt gcl i.isLt
  rw [Gcl.start_succ, hlengthi,
    start_gclSize h hsorted hpoints hentries hlength] at hlast
  have hzero : gcl.start 0 = 0 := rfl
  omega

omit h hpoints in
theorem covers_unique {i j : Fin gclSize} {t : Int} (hi : gcl.Covers i t)
    (hj : gcl.Covers j t) : j = i := by
  have hmono := monotone_start hsorted hentries
  have hle : forall {i j : Fin gclSize}, gcl.Covers i t -> gcl.Covers j t ->
      i ≤ j := by
    intro i j hi hj
    by_contra hlt
    have hsucc : gcl.start (j + 1) ≤ gcl.start i := hmono (not_le.mp hlt)
    have hfirst := hi.left
    have hlast := hj.right
    omega
  exact le_antisymm (hle hj hi) (hle hi hj)

include hstarts

theorem values_of_covers (hlength : points.length ≤ 17) {i : Fin gclSize}
    {t : Int} (ht : 0 ≤ t) (ht' : t < 2048) (hi : gcl.Covers i t) :
    (Scheduled schedule t -> gcl.values i = 1) ∧
      (¬ Scheduled schedule t -> gcl.values i = 0b100000010) := by
  have hfirst := first_point h hsorted hpoints
  have hlast := last_point h hsorted hpoints
  have hpos := (List.getElem?_eq_some_iff.mp hfirst).1
  -- An entry without length covers no slot.
  have hused : i.val < points.length - 1 := by
    by_contra hunused
    have hstart := start_eq_last hentries hfirst hlast (by omega)
      (not_lt.mp hunused) (Nat.le_of_lt i.isLt)
    have hcovers := hi.left
    omega
  have hlt : i.val < points.length := by omega
  have hlt' : i.val + 1 < points.length := by omega
  have hleft := List.getElem?_eq_getElem hlt
  have hright := List.getElem?_eq_getElem hlt'
  have hslot : points[i.val] ≤ t ∧ t < points[i.val + 1] := by
    have hcovers := hi
    unfold Gcl.Covers at hcovers
    rw [start_eq_point hentries hfirst hleft,
      start_eq_point hentries hfirst hright] at hcovers
    omega
  have hsplit : points = points.take i.val ++
      points[i.val] :: points[i.val + 1] :: points.drop (i.val + 2) := by
    rw [← List.drop_eq_getElem_cons hlt', ← List.drop_eq_getElem_cons hlt,
      List.take_append_drop]
  have hgap := gap_of_split hsorted hsplit
  rw [hpoints] at hgap
  have hvalue : gcl.values i =
      gclValue ttFramesStartTimes points[i.val] := by
    obtain ⟨_, hvalue, _⟩ := hentries.filled i.val _ _ hleft hright
    simp only [Nat.zero_add] at hvalue
    exact hvalue
  have hstart : points[i.val] ∈ ttFramesStartTimes <-> Scheduled schedule t := by
    rw [hstarts, scheduled_iff h ht ht']
    exact h.cuts.start_iff (by decide) hgap hslot
  rw [hvalue]
  unfold gclValue
  constructor
  · intro hscheduled
    exact if_pos (hstart.mpr hscheduled)
  · intro hfree
    exact if_neg fun hmem => hfree (hstart.mp hmem)

theorem follows_of_entries (hlength : points.length ≤ 17) :
    Follows schedule gcl where
  used := by
    refine ⟨points.length - 1, ?_, ?_, ?_⟩
    · unfold gclSize
      omega
    · exact fun _ => timeIntervals_pos hsorted hentries
    · exact fun _ => timeIntervals_zero hentries
  total := start_gclSize h hsorted hpoints hentries hlength
  gates t ht ht' := by
    have htotal := start_gclSize h hsorted hpoints hentries hlength
    have hfirst : gcl.start 0 ≤ t * 8 := by
      change 0 ≤ t * 8
      omega
    obtain ⟨k, hk, hbetween⟩ := exists_between hfirst
      (by omega : t * 8 < gcl.start gclSize)
    have hcovers : gcl.Covers ⟨k, hk⟩ t := hbetween
    refine ⟨⟨k, hk⟩, fun j => ⟨?_, ?_⟩, ?_⟩
    · exact covers_unique hsorted hentries hcovers
    · rintro rfl
      exact hcovers
    · exact values_of_covers h hsorted hpoints hstarts hentries hlength ht ht'
        hcovers

end Cycle

/-!
## The registers
-/

/-- The register contains the word once all writes have been performed. -/
def LastWrite (writes : List RegisterWrite) (address : Nat) (word : UInt32) :
    Prop :=
  exists before after, writes = before ++ ⟨address, word⟩ :: after ∧
    forall w, w ∈ after -> w.address ≠ address

/--
The registers of a port contain the list.  Each contains the number of its entry
in the upper bits, and the value or the length of the entry below.
-/
structure Registers (writes : List RegisterWrite) (portNumber : UInt16)
    (gcl : Gcl) : Prop where
  values : forall i : Fin gclSize, exists word,
    LastWrite writes (gclData portNumber i) word ∧
      (word.toNat : Int) = i.val * 2 ^ 9 + gcl.values i
  timeIntervals : forall i : Fin gclSize, exists word,
    LastWrite writes (gclTime portNumber i) word ∧
      (word.toNat : Int) = i.val * 2 ^ 20 + gcl.timeIntervals i

def entryWrites (portNumber : UInt16) (gcl : Gcl) (i : Fin gclSize) :
    List RegisterWrite :=
  [⟨gclData portNumber i,
      (i.val.toUInt16.toUInt32 <<< 9) + (UInt16.ofInt (gcl.values i)).toUInt32⟩,
    ⟨gclCtrl portNumber, gclSetCtrl0⟩, ⟨gclCtrl portNumber, gclSetRst⟩,
    ⟨gclTime portNumber i,
      (i.val.toUInt16.toUInt32 <<< 20) +
        (UInt16.ofInt (gcl.timeIntervals i)).toUInt32⟩,
    ⟨gclCtrl portNumber, gclSetCtrl0⟩, ⟨gclCtrl portNumber, gclSetTimeRst⟩]

section Writes

variable {portNumber : UInt16} (hport : 1 ≤ portNumber ∧ portNumber ≤ 4)
  {gcl : Gcl}

include hport

theorem writeEntry_eq (i : Fin gclSize) :
    writeEntry portNumber gcl i = .ok (entryWrites portNumber gcl i) := by
  have hi : i.val < 16 := i.isLt
  have hval : i.val.toUInt16.toNat = i.val := by
    change i.val % 2 ^ 16 = i.val
    omega
  have hid : i.val.toUInt16 < 16 := by
    rw [UInt16.lt_iff_toNat_lt, hval]
    exact hi
  unfold writeEntry setGcl setGclTimeInterval setEntry
  rw [if_pos hport, if_pos hid, if_pos hport, if_pos hid, hval]
  rfl

theorem writeEntries_eq (entries : List (Fin gclSize)) :
    writeEntries portNumber gcl entries =
      .ok (entries.flatMap (entryWrites portNumber gcl)) := by
  induction entries with
  | nil => rfl
  | cons i entries ih =>
      rw [writeEntries, writeEntry_eq hport, ih]
      rfl

theorem gclCtrl_ne (i : Fin gclSize) :
    gclCtrl portNumber ≠ gclData portNumber i ∧
      gclCtrl portNumber ≠ gclTime portNumber i := by
  have hi : i.val < 16 := i.isLt
  have hle : portNumber.toNat ≤ 4 := UInt16.le_iff_toNat_le.mp hport.right
  unfold gclCtrl gclData gclTime
  omega

theorem gclData_ne_gclTime (i j : Fin gclSize) :
    gclData portNumber i ≠ gclTime portNumber j := by
  have hi : i.val < 16 := i.isLt
  have hle : portNumber.toNat ≤ 4 := UInt16.le_iff_toNat_le.mp hport.right
  unfold gclData gclTime
  omega

omit hport in
theorem lastWrite_flatMap {i : Fin gclSize} {address : Nat} {word : UInt32}
    {first rest : List RegisterWrite}
    (hentry : entryWrites portNumber gcl i = first ++ ⟨address, word⟩ :: rest)
    (hrest : forall w, w ∈ rest -> w.address ≠ address)
    (hother : forall j, j ≠ i -> forall w, w ∈ entryWrites portNumber gcl j ->
      w.address ≠ address) :
    LastWrite ((List.finRange gclSize).flatMap (entryWrites portNumber gcl))
      address word := by
  obtain ⟨before, after, hsplit⟩ :=
    List.append_of_mem (List.mem_finRange i)
  have hnodup := List.nodup_finRange gclSize
  rw [hsplit] at hnodup ⊢
  have hafter : i ∉ after :=
    (List.nodup_cons.mp hnodup.of_append_right).left
  refine ⟨before.flatMap (entryWrites portNumber gcl) ++ first,
    rest ++ after.flatMap (entryWrites portNumber gcl), ?_, ?_⟩
  · rw [List.flatMap_append, List.flatMap_cons, hentry]
    simp only [List.append_assoc, List.cons_append]
  · intro w hw
    rcases List.mem_append.mp hw with hw | hw
    · exact hrest w hw
    · obtain ⟨j, hj, hw⟩ := List.mem_flatMap.mp hw
      exact hother j (ne_of_mem_of_not_mem hj hafter) w hw

theorem lastWrite_gclData (i : Fin gclSize) :
    LastWrite ((List.finRange gclSize).flatMap (entryWrites portNumber gcl))
      (gclData portNumber i)
      ((i.val.toUInt16.toUInt32 <<< 9) +
        (UInt16.ofInt (gcl.values i)).toUInt32) := by
  have hctrl := (gclCtrl_ne hport i).left
  refine lastWrite_flatMap (List.nil_append _).symm ?_ ?_
  · have htime := (gclData_ne_gclTime hport i i).symm
    simp [hctrl, htime]
  · intro j hne
    have htime := (gclData_ne_gclTime hport i j).symm
    have hdata : gclData portNumber j ≠ gclData portNumber i := by
      have hval : j.val ≠ i.val := fun heq => hne (Fin.ext heq)
      unfold gclData
      omega
    simp [entryWrites, hctrl, htime, hdata]

theorem lastWrite_gclTime (i : Fin gclSize) :
    LastWrite ((List.finRange gclSize).flatMap (entryWrites portNumber gcl))
      (gclTime portNumber i)
      ((i.val.toUInt16.toUInt32 <<< 20) +
        (UInt16.ofInt (gcl.timeIntervals i)).toUInt32) := by
  have hctrl := (gclCtrl_ne hport i).right
  have hentry : entryWrites portNumber gcl i =
      (entryWrites portNumber gcl i).take 3 ++
        ⟨gclTime portNumber i, (i.val.toUInt16.toUInt32 <<< 20) +
          (UInt16.ofInt (gcl.timeIntervals i)).toUInt32⟩ ::
        (entryWrites portNumber gcl i).drop 4 := rfl
  refine lastWrite_flatMap hentry ?_ ?_
  · simp [entryWrites, hctrl]
  · intro j hne
    have hdata := gclData_ne_gclTime hport j i
    have htime : gclTime portNumber j ≠ gclTime portNumber i := by
      have hval : j.val ≠ i.val := fun heq => hne (Fin.ext heq)
      unfold gclTime
      omega
    simp [entryWrites, hctrl, htime, hdata]

omit hport in
theorem toNat_word (i : Fin gclSize) {shift : UInt32} (hshift : shift ≤ 20)
    {value : Int} (hnonneg : 0 ≤ value) (hle : value ≤ 2048 * 8) :
    ((((i.val.toUInt16.toUInt32 <<< shift) +
        (UInt16.ofInt value).toUInt32).toNat : Nat) : Int) =
      i.val * 2 ^ shift.toNat + value := by
  have hi : i.val < 16 := i.isLt
  have hid : i.val.toUInt16.toNat = i.val := by
    change i.val % 2 ^ 16 = i.val
    omega
  have hvalue : ((UInt16.ofInt value).toNat : Int) = value := by
    change (((value % 2 ^ 16).toNat % 2 ^ 16 : Nat) : Int) = value
    omega
  have hbits : shift.toNat ≤ 20 := UInt32.le_iff_toNat_le.mp hshift
  have hmod : shift.toNat % 32 = shift.toNat := by omega
  have hpow : 2 ^ shift.toNat ≤ 2 ^ 20 := Nat.pow_le_pow_right (by decide) hbits
  have hmul : i.val * 2 ^ shift.toNat ≤ 15 * 2 ^ 20 :=
    Nat.mul_le_mul (by omega) hpow
  rw [UInt32.toNat_add, UInt32.toNat_shiftLeft, UInt16.toNat_toUInt32,
    UInt16.toNat_toUInt32, hid, hmod, Nat.shiftLeft_eq,
    Nat.mod_eq_of_lt (by omega), Nat.mod_eq_of_lt (by omega)]
  push_cast
  rw [hvalue]

theorem registers_flatMap
    (hvalues : forall i, gcl.values i = 1 ∨ gcl.values i = 0b100000010)
    (hnonneg : forall i, 0 ≤ gcl.timeIntervals i)
    (hle : forall i, gcl.timeIntervals i ≤ 2048 * 8) :
    Registers ((List.finRange gclSize).flatMap (entryWrites portNumber gcl))
      portNumber gcl where
  values i := by
    have hvalue := hvalues i
    exact ⟨_, lastWrite_gclData hport i,
      toNat_word i (by decide) (by omega) (by omega)⟩
  timeIntervals i :=
    ⟨_, lastWrite_gclTime hport i,
      toNat_word i (by decide) (hnonneg i) (hle i)⟩

end Writes

/-!
## Programming a link
-/

theorem Regular.fits {schedule : List ScheduleItem} (h : Regular schedule)
    {port : Int32} (hport : IsInt (port.toInt + 1)) : Fits schedule port where
  period item hitem := (h.period item hitem).left
  window := by
    intro item hitem x hx
    obtain ⟨hperiod, hdvd⟩ := h.period item hitem
    have hw : (x + item.start.toInt, x + item.endTime.toInt) ∈
        windows schedule :=
      List.mem_flatMap.mpr ⟨item, hitem,
        (mem_itemWindows hperiod hdvd).mpr ⟨x, hx, rfl⟩⟩
    obtain ⟨hnonneg, hcycle, hlt, hle⟩ := h.bounded hw
    unfold IsInt
    dsimp only at hnonneg hcycle hlt hle
    omega
  card := by
    have hcard : (boundaries schedule).card - 1 ≤ 16 := h.intervals
    omega
  interval := by
    intro a b hgap
    have hlow := h.cuts.low_le (by decide) hgap.left
    have hhigh := h.cuts.le_high (by decide) hgap.right
    have hlt := hgap.lt
    unfold IsInt
    omega
  port := hport

theorem gates_follow_schedule {schedule : List ScheduleItem} {port : Int32}
    (h : Regular schedule) (hport : 0 ≤ port.toInt ∧ port.toInt < 4) :
    exists fuel writes gcl, applyGcl fuel schedule port = .ok writes ∧
      Registers writes (UInt16.ofInt (port.toInt + 1)) gcl ∧
      Follows schedule gcl := by
  have hfits : Fits schedule port := by
    refine h.fits ?_
    unfold IsInt
    omega
  obtain ⟨t, ht⟩ :=
    addItems_terminates initialTimePoints hfits.period hfits.window
  have hpoints : (sortUnique t.timePoints).toFinset = boundaries schedule := by
    rw [← toFinset_addItems ht]
    ext b
    rw [List.mem_toFinset, List.mem_toFinset, mem_sortUnique]
  have hsorted := sortedLT_sortUnique t.timePoints
  have hlength : (sortUnique t.timePoints).length ≤ 17 := by
    rw [length_sortUnique, toFinset_addItems ht]
    exact hfits.card
  have hstarts : forall b, b ∈ t.ttFramesStartTimes <->
      exists p, p ∈ scheduleParts schedule ∧ b = p.1 := by
    intro b
    rw [mem_starts_addItems ht h.period]
    simp [initialTimePoints]
  obtain ⟨gcl, hgcl⟩ : exists gcl, fillGcl t.ttFramesStartTimes 0
      (sortUnique t.timePoints) initialGcl = .ok gcl := by
    rw [fillGcl_ok_iff initialGcl (by decide), isChain_sortUnique_iff,
      toFinset_addItems ht]
    refine ⟨?_, hfits.interval⟩
    unfold gclSize
    omega
  have hentries := entries_of_fillGcl hgcl
  have hnumber : 1 ≤ UInt16.ofInt (port.toInt + 1) ∧
      UInt16.ofInt (port.toInt + 1) ≤ 4 := by
    have hval : (UInt16.ofInt (port.toInt + 1)).toNat = (port.toInt + 1).toNat := by
      change ((port.toInt + 1) % 2 ^ 16).toNat % 2 ^ 16 = (port.toInt + 1).toNat
      omega
    rw [UInt16.le_iff_toNat_le, UInt16.le_iff_toNat_le, hval]
    change 1 ≤ (port.toInt + 1).toNat ∧ (port.toInt + 1).toNat ≤ 4
    omega
  refine ⟨2049, _, gcl, bind_eq_ok.mpr ⟨t, ht, bind_eq_ok.mpr ⟨gcl, hgcl,
    bind_eq_ok.mpr ⟨_, checkInt_of_isInt hfits.port,
      writeEntries_eq hnumber _⟩⟩⟩, ?_, ?_⟩
  · exact registers_flatMap hnumber hentries.values
      (timeIntervals_nonneg hsorted hentries)
      (timeIntervals_le h hsorted hpoints hentries hlength)
  · exact follows_of_entries h hsorted hpoints hstarts hentries hlength

/-- A window that is repeated, and one that wraps around. -/
def wrappingSchedule : List ScheduleItem :=
  [⟨1024, 100, 120⟩, ⟨2048, 2000, 2100⟩]

theorem windows_wrappingSchedule : windows wrappingSchedule =
    [(100, 120), (1124, 1144), (2000, 2100)] := by
  decide +kernel

theorem regular_wrappingSchedule : Regular wrappingSchedule where
  period := by decide +kernel
  window := by decide +kernel
  disjoint := by
    rw [windows_wrappingSchedule]
    simp only [List.pairwise_cons, List.mem_cons, List.not_mem_nil, or_false,
      forall_eq_or_imp, forall_eq, InWindow]
    refine ⟨⟨?_, ?_⟩, ?_, by simp⟩
    · rintro t ⟨⟨u, hu⟩, v, hv⟩
      omega
    · rintro t ⟨⟨u, hu⟩, v, hv⟩
      omega
    · rintro t ⟨⟨u, hu⟩, v, hv⟩
      omega
  intervals := by decide +kernel

/-- The gates of the first port follow that schedule. -/
theorem gates_follow_wrappingSchedule :
    exists fuel writes gcl,
      applyGcl fuel wrappingSchedule 0 = .ok writes ∧
      Registers writes (UInt16.ofInt ((0 : Int32).toInt + 1)) gcl ∧
      Follows wrappingSchedule gcl :=
  gates_follow_schedule regular_wrappingSchedule (by decide)

end Topo
end Ziggo
