import Mathlib.Algebra.Order.Group.Int
import Mathlib.Data.Finset.Union
import Mathlib.Tactic.Linarith
import Ziggo.Topo.ApplyGcl

/-!
# Schedules that fit the gate-control list

The parts of a period are the gaps between the boundaries of its windows.
`apply_gcl` does not compare their number with the size of the list.  The
module describes the boundaries as a set, without the loops of the program, and
determines the schedules that the program can handle.
-/

namespace Ziggo
namespace Topo

open Foundation TsnDrivers

/-!
## Boundaries
-/

/-- The instants of one period at which a window is repeated. -/
def offsets (period : Int) : Finset Int :=
  (Finset.range ((2047 / period).toNat + 1)).image fun k : Nat => (k : Int) * period

/-- The boundaries of a window, which wraps around at the end of the period. -/
def windowBoundaries (first last : Int) : Finset Int :=
  if last > 2048 then {0, last - 2048, first, 2048} else {first, last}

def itemBoundaries (item : ScheduleItem) : Finset Int :=
  (offsets item.period.toInt).biUnion fun x =>
    windowBoundaries (x + item.start.toInt) (x + item.endTime.toInt)

/-- All boundaries of a schedule, those of the period included. -/
def boundaries (schedule : List ScheduleItem) : Finset Int :=
  {0, 2048} ∪ schedule.toFinset.biUnion itemBoundaries

/-- The number of gate-control entries that a schedule needs. -/
def intervals (schedule : List ScheduleItem) : Nat :=
  (boundaries schedule).card - 1

/--
The condition on a schedule and a port.  Windows repeat with a positive period
and stay within `int`, and there are at most sixteen parts, whose lengths are
converted to the unit of the registers within `int`.
-/
structure Fits (schedule : List ScheduleItem) (port : Int32) : Prop where
  period : forall item, item ∈ schedule -> 0 < item.period.toInt
  window : forall item, item ∈ schedule ->
    forall x, x ∈ offsets item.period.toInt ->
      IsInt (x + item.start.toInt) ∧ IsInt (x + item.endTime.toInt)
  card : (boundaries schedule).card ≤ 17
  interval : forall a b, Gap (boundaries schedule) a b -> IsInt ((b - a) * 8)
  port : IsInt (port.toInt + 1)

/-- `y` is reached from `x` by steps of one period within 2048 slots. -/
def Reached (period x y : Int) : Prop :=
  y < 2048 ∧ exists k : Nat, y = x + k * period

theorem mem_offsets {period x : Int} (h : 0 < period) :
    x ∈ offsets period <-> Reached period 0 x := by
  have hbound : forall k : Nat, k < (2047 / period).toNat + 1 <->
      (k : Int) * period < 2048 := by
    intro k
    have hdiv : (k : Int) ≤ 2047 / period <-> (k : Int) * period ≤ 2047 :=
      Int.le_ediv_iff_mul_le h
    have hnonneg : 0 ≤ 2047 / period := Int.ediv_nonneg (by omega) h.le
    omega
  simp only [offsets, Finset.mem_image, Finset.mem_range, Reached, zero_add]
  constructor
  · rintro ⟨k, hk, rfl⟩
    exact ⟨(hbound k).mp hk, k, rfl⟩
  · rintro ⟨hx, k, rfl⟩
    exact ⟨k, (hbound k).mpr hx, rfl⟩

theorem reached_iff {period x y : Int} (hx : x < 2048) :
    Reached period x y <-> y = x ∨ Reached period (x + period) y := by
  constructor
  · rintro ⟨hy, k, hk⟩
    cases k with
    | zero =>
        exact Or.inl (by simpa using hk)
    | succ k =>
        refine Or.inr ⟨hy, k, ?_⟩
        push_cast at hk
        linarith
  · rintro (rfl | ⟨hy, k, hk⟩)
    · exact ⟨hx, 0, by simp⟩
    · refine ⟨hy, k + 1, ?_⟩
      push_cast
      linarith

theorem not_reached {period x y : Int} (h : 0 < period) (hx : 2048 ≤ x) :
    ¬ Reached period x y := by
  rintro ⟨hy, k, hk⟩
  have hnonneg : 0 ≤ (k : Int) * period := by positivity
  omega

/-!
## Expansion
-/

theorem mem_pushWindow {first last y : Int} {t : TimePoints} :
    y ∈ (pushWindow first last t).timePoints <->
      y ∈ t.timePoints ∨ y ∈ windowBoundaries first last := by
  unfold pushWindow windowBoundaries maxPeriod
  by_cases h : last > 2048
  · simp [h]
  · simp [h]

theorem expand_succ_ok {fuel : Nat} {item : ScheduleItem} {x : Int}
    {t t' : TimePoints} (h : expand (fuel + 1) item x t = .ok t') :
    (2048 ≤ x ∧ t' = t) ∨
      (x < 2048 ∧ IsInt (x + item.start.toInt) ∧
        IsInt (x + item.endTime.toInt) ∧
        expand fuel item (x + item.period.toInt)
          (pushWindow (x + item.start.toInt) (x + item.endTime.toInt) t) =
            .ok t') := by
  unfold expand maxPeriod at h
  by_cases hx : x < 2048
  · rw [if_pos hx] at h
    obtain ⟨last, hcheckLast, h⟩ := bind_eq_ok.mp h
    obtain ⟨first, hcheckFirst, h⟩ := bind_eq_ok.mp h
    obtain ⟨next, hcheckNext, h⟩ := bind_eq_ok.mp h
    obtain ⟨hlast, rfl⟩ := checkInt_eq_ok.mp hcheckLast
    obtain ⟨hfirst, rfl⟩ := checkInt_eq_ok.mp hcheckFirst
    obtain ⟨_, rfl⟩ := checkInt_eq_ok.mp hcheckNext
    exact Or.inr ⟨hx, hfirst, hlast, h⟩
  · rw [if_neg hx] at h
    cases h
    exact Or.inl ⟨not_lt.mp hx, rfl⟩

/-- A loop that starts within the period and ends has moved forwards. -/
theorem period_pos_of_expand {fuel : Nat} {item : ScheduleItem} {x : Int}
    {t t' : TimePoints} (h : expand fuel item x t = .ok t') (hx : x < 2048) :
    0 < item.period.toInt := by
  induction fuel generalizing x t with
  | zero =>
      cases h
  | succ fuel ih =>
      rcases expand_succ_ok h with ⟨hge, _⟩ | ⟨_, _, _, hrest⟩
      · exact absurd hx (not_lt.mpr hge)
      · by_cases hnext : x + item.period.toInt < 2048
        · exact ih hrest hnext
        · omega

theorem expand_window {fuel : Nat} {item : ScheduleItem} {x : Int}
    {t t' : TimePoints} (h : expand fuel item x t = .ok t')
    (hperiod : 0 < item.period.toInt) :
    forall y, Reached item.period.toInt x y ->
      IsInt (y + item.start.toInt) ∧ IsInt (y + item.endTime.toInt) := by
  induction fuel generalizing x t with
  | zero =>
      cases h
  | succ fuel ih =>
      intro y hy
      rcases expand_succ_ok h with ⟨hge, _⟩ | ⟨hx, hfirst, hlast, hrest⟩
      · exact absurd hy (not_reached hperiod hge)
      · rcases (reached_iff hx).mp hy with rfl | hy
        · exact ⟨hfirst, hlast⟩
        · exact ih hrest y hy

/-- What the loop adds to a list that each window is pushed to. -/
theorem mem_expand_of {view : TimePoints -> List Int}
    {ends : Int -> Int -> Int -> Prop}
    (hpush : forall first last t b, b ∈ view (pushWindow first last t) <->
      b ∈ view t ∨ ends first last b)
    {fuel : Nat} {item : ScheduleItem} {x : Int} {t t' : TimePoints}
    (h : expand fuel item x t = .ok t') (hperiod : 0 < item.period.toInt)
    (b : Int) :
    b ∈ view t' <-> b ∈ view t ∨
      exists y, Reached item.period.toInt x y ∧
        ends (y + item.start.toInt) (y + item.endTime.toInt) b := by
  induction fuel generalizing x t with
  | zero =>
      cases h
  | succ fuel ih =>
      rcases expand_succ_ok h with ⟨hge, rfl⟩ | ⟨hx, _, _, hrest⟩
      · simp [not_reached hperiod hge]
      · rw [ih hrest, hpush, or_assoc]
        simp only [reached_iff hx, or_and_right, exists_or,
          exists_eq_left]

theorem mem_expand {fuel : Nat} {item : ScheduleItem} {x : Int}
    {t t' : TimePoints} (h : expand fuel item x t = .ok t')
    (hperiod : 0 < item.period.toInt) (b : Int) :
    b ∈ t'.timePoints <-> b ∈ t.timePoints ∨
      exists y, Reached item.period.toInt x y ∧
        b ∈ windowBoundaries (y + item.start.toInt)
          (y + item.endTime.toInt) :=
  mem_expand_of (fun _ _ _ _ => mem_pushWindow) h hperiod b

/-- Enough tests of the loop condition bring the loop to its end. -/
theorem expand_terminates {fuel : Nat} {item : ScheduleItem} {x : Int}
    (t : TimePoints) (hperiod : 0 < item.period.toInt)
    (hwindow : forall y, Reached item.period.toInt x y ->
      IsInt (y + item.start.toInt) ∧ IsInt (y + item.endTime.toInt))
    (hx : x = 0 ∨ item.period.toInt ≤ x) (hpos : 0 < fuel)
    (hfuel : 2048 - x < fuel) :
    exists t', expand fuel item x t = .ok t' := by
  induction fuel generalizing x t with
  | zero =>
      omega
  | succ fuel ih =>
      unfold expand maxPeriod
      by_cases hlt : x < 2048
      · have hself := hwindow x ⟨hlt, 0, by simp⟩
        have hnext : IsInt (x + item.period.toInt) := by
          have hrange := isInt_toInt item.period
          unfold IsInt at hrange ⊢
          omega
        rw [if_pos hlt, checkInt_of_isInt hself.right,
          checkInt_of_isInt hself.left, checkInt_of_isInt hnext]
        refine ih _ ?_ ?_ ?_ ?_
        · intro y hy
          exact hwindow y ((reached_iff hlt).mpr (Or.inr hy))
        · omega
        · push_cast at hfuel
          omega
        · omega
      · rw [if_neg hlt]
        exact ⟨t, rfl⟩

structure Added (item : ScheduleItem) (t t' : TimePoints) : Prop where
  period : 0 < item.period.toInt
  window : forall x, x ∈ offsets item.period.toInt ->
    IsInt (x + item.start.toInt) ∧ IsInt (x + item.endTime.toInt)
  mem : forall b, b ∈ t'.timePoints <->
    b ∈ t.timePoints ∨ b ∈ itemBoundaries item

theorem offsets_maxPeriod : offsets maxPeriod = {0} := by
  decide

theorem added_of_addItem {fuel : Nat} {item : ScheduleItem} {t t' : TimePoints}
    (h : addItem fuel item t = .ok t') : Added item t t' := by
  unfold addItem at h
  by_cases hmax : item.period.toInt = maxPeriod
  · rw [if_pos hmax] at h
    cases h
    constructor
    case period =>
      rw [hmax]
      decide
    case window =>
      intro x hx
      rw [hmax, offsets_maxPeriod, Finset.mem_singleton] at hx
      rw [hx, zero_add, zero_add]
      exact ⟨isInt_toInt item.start, isInt_toInt item.endTime⟩
    case mem =>
      intro b
      rw [mem_pushWindow, itemBoundaries, hmax, offsets_maxPeriod,
        Finset.singleton_biUnion, zero_add, zero_add]
  · rw [if_neg hmax] at h
    have hperiod := period_pos_of_expand h (by decide)
    constructor
    case period =>
      exact hperiod
    case window =>
      intro x hx
      exact expand_window h hperiod x ((mem_offsets hperiod).mp hx)
    case mem =>
      intro b
      rw [mem_expand h hperiod, itemBoundaries, Finset.mem_biUnion]
      simp only [mem_offsets hperiod]

theorem addItem_terminates (item : ScheduleItem) (t : TimePoints)
    (hperiod : 0 < item.period.toInt)
    (hwindow : forall x, x ∈ offsets item.period.toInt ->
      IsInt (x + item.start.toInt) ∧ IsInt (x + item.endTime.toInt)) :
    exists t', addItem 2049 item t = .ok t' := by
  unfold addItem
  by_cases hmax : item.period.toInt = maxPeriod
  · rw [if_pos hmax]
    exact ⟨_, rfl⟩
  · rw [if_neg hmax]
    refine expand_terminates t hperiod ?_ (Or.inl rfl) (by decide) (by decide)
    intro y hy
    exact hwindow y ((mem_offsets hperiod).mpr hy)

/-- What the items of a schedule add to the points. -/
structure AllAdded (schedule : List ScheduleItem) (t t' : TimePoints) :
    Prop where
  period : forall item, item ∈ schedule -> 0 < item.period.toInt
  window : forall item, item ∈ schedule ->
    forall x, x ∈ offsets item.period.toInt ->
      IsInt (x + item.start.toInt) ∧ IsInt (x + item.endTime.toInt)
  mem : forall b, b ∈ t'.timePoints <-> b ∈ t.timePoints ∨
    exists item, item ∈ schedule ∧ b ∈ itemBoundaries item

theorem allAdded_of_addItems {fuel : Nat} {schedule : List ScheduleItem}
    {t t' : TimePoints} (h : addItems fuel schedule t = .ok t') :
    AllAdded schedule t t' := by
  induction schedule generalizing t with
  | nil =>
      cases h
      exact ⟨by simp, by simp, by simp⟩
  | cons item schedule ih =>
      obtain ⟨t₁, hitem, hrest⟩ := bind_eq_ok.mp h
      have hadded := added_of_addItem hitem
      have hadded' := ih hrest
      constructor
      case period =>
        exact List.forall_mem_cons.mpr ⟨hadded.period, hadded'.period⟩
      case window =>
        exact List.forall_mem_cons.mpr ⟨hadded.window, hadded'.window⟩
      case mem =>
        intro b
        rw [hadded'.mem, hadded.mem, or_assoc]
        simp only [List.mem_cons, or_and_right, exists_or, exists_eq_left]

theorem addItems_terminates {schedule : List ScheduleItem} (t : TimePoints)
    (hperiod : forall item, item ∈ schedule -> 0 < item.period.toInt)
    (hwindow : forall item, item ∈ schedule ->
      forall x, x ∈ offsets item.period.toInt ->
        IsInt (x + item.start.toInt) ∧ IsInt (x + item.endTime.toInt)) :
    exists t', addItems 2049 schedule t = .ok t' := by
  induction schedule generalizing t with
  | nil =>
      exact ⟨t, rfl⟩
  | cons item schedule ih =>
      rw [List.forall_mem_cons] at hperiod hwindow
      obtain ⟨t₁, hitem⟩ := addItem_terminates item t hperiod.left hwindow.left
      obtain ⟨t', hrest⟩ := ih t₁ hperiod.right hwindow.right
      exact ⟨t', bind_eq_ok.mpr ⟨t₁, hitem, hrest⟩⟩

theorem toFinset_addItems {fuel : Nat} {schedule : List ScheduleItem}
    {t : TimePoints} (h : addItems fuel schedule initialTimePoints = .ok t) :
    t.timePoints.toFinset = boundaries schedule := by
  ext b
  rw [List.mem_toFinset, (allAdded_of_addItems h).mem, boundaries,
    Finset.mem_union, Finset.mem_biUnion]
  simp [initialTimePoints, maxPeriod]

/-!
## Entries
-/

theorem checkInt_interval {a b : Int} :
    (exists length, checkInt (b - a) = .ok length ∧
      exists interval, checkInt (length * 8) = .ok interval) <->
    IsInt ((b - a) * 8) := by
  constructor
  · rintro ⟨length, hlength, interval, hinterval⟩
    obtain ⟨_, rfl⟩ := checkInt_eq_ok.mp hlength
    exact (checkInt_eq_ok.mp hinterval).left
  · intro h
    have hlength : IsInt (b - a) := by
      unfold IsInt at h ⊢
      omega
    exact ⟨b - a, checkInt_of_isInt hlength, (b - a) * 8, checkInt_of_isInt h⟩

/-- The loop ends when the entries suffice and every interval is an `int`. -/
theorem fillGcl_ok_iff {ttFramesStartTimes points : List Int} {index : Nat}
    (gcl : Gcl) (hindex : index ≤ gclSize) :
    (exists gcl', fillGcl ttFramesStartTimes index points gcl = .ok gcl') <->
      index + (points.length - 1) ≤ gclSize ∧
        points.IsChain fun a b => IsInt ((b - a) * 8) := by
  induction points generalizing index gcl with
  | nil =>
      simp [fillGcl, hindex]
  | cons a points ih =>
      cases points with
      | nil =>
          simp [fillGcl, hindex]
      | cons b points =>
          rw [List.isChain_cons_cons]
          by_cases hlt : index < gclSize
          · have hlength : index + ((a :: b :: points).length - 1) =
                (index + 1) + ((b :: points).length - 1) := by
              simp only [List.length_cons]
              omega
            rw [fillGcl, dif_pos hlt, hlength]
            constructor
            · rintro ⟨gcl', h⟩
              obtain ⟨length, hcheck, h⟩ := bind_eq_ok.mp h
              obtain ⟨interval, hcheck', h⟩ := bind_eq_ok.mp h
              have hrest := (ih _ hlt).mp ⟨gcl', h⟩
              exact ⟨hrest.left,
                checkInt_interval.mp ⟨length, hcheck, interval, hcheck'⟩,
                hrest.right⟩
            · rintro ⟨hcard, hinterval, hchain⟩
              obtain ⟨length, hcheck, interval, hcheck'⟩ :=
                checkInt_interval.mpr hinterval
              obtain ⟨gcl', h⟩ := (ih _ hlt).mpr ⟨hcard, hchain⟩
              exact ⟨gcl', bind_eq_ok.mpr ⟨length, hcheck,
                bind_eq_ok.mpr ⟨interval, hcheck', h⟩⟩⟩
          · rw [fillGcl, dif_neg hlt]
            simp only [List.length_cons]
            constructor
            · rintro ⟨gcl', h⟩
              cases h
            · rintro ⟨hcard, _⟩
              omega

theorem writeEntry_ok (portNumber : UInt16) (gcl : Gcl) (i : Fin gclSize) :
    exists writes, writeEntry portNumber gcl i = .ok writes ∧
      forall w, w ∈ writes -> GateControl portNumber w.address := by
  have hid : i.val.toUInt16 < 16 := by
    have hi : i.val < 16 := i.isLt
    rw [UInt16.lt_iff_toNat_lt]
    simp
    omega
  obtain ⟨value, hvalue, hvalues⟩ :=
    setGcl_ok portNumber hid (UInt16.ofInt (gcl.values i))
  obtain ⟨interval, hinterval, hintervals⟩ :=
    setGclTimeInterval_ok portNumber hid (UInt16.ofInt (gcl.timeIntervals i))
  refine ⟨value ++ interval, ?_, ?_⟩
  · rw [writeEntry, hvalue, hinterval]
    rfl
  · intro w hw
    exact (List.mem_append.mp hw).elim (hvalues w) (hintervals w)

theorem writeEntries_ok (portNumber : UInt16) (gcl : Gcl)
    (entries : List (Fin gclSize)) :
    exists writes, writeEntries portNumber gcl entries = .ok writes ∧
      forall w, w ∈ writes -> GateControl portNumber w.address := by
  induction entries with
  | nil =>
      exact ⟨[], rfl, by simp⟩
  | cons i entries ih =>
      obtain ⟨entry, hentry, hwrites⟩ := writeEntry_ok portNumber gcl i
      obtain ⟨rest, hrest, hwrites'⟩ := ih
      refine ⟨entry ++ rest, ?_, ?_⟩
      · rw [writeEntries, hentry, hrest]
        rfl
      · intro w hw
        exact (List.mem_append.mp hw).elim (hwrites w) (hwrites' w)

/-!
## Schedules
-/

/--
The program ends, it writes gate-control entries of the port only, and it
writes none for a schedule that needs more than sixteen.
-/
def Programmed (schedule : List ScheduleItem) (port : Int32) : Prop :=
  exists fuel writes, applyGcl fuel schedule port = .ok writes ∧
    (forall w, w ∈ writes ->
      GateControl (UInt16.ofInt (port.toInt + 1)) w.address) ∧
    (16 < intervals schedule -> writes = [])

theorem fits_of_applyGcl {fuel : Nat} {schedule : List ScheduleItem}
    {port : Int32} {writes : List RegisterWrite}
    (h : applyGcl fuel schedule port = .ok writes) : Fits schedule port := by
  obtain ⟨t, ht, h⟩ := bind_eq_ok.mp h
  obtain ⟨gcl, hgcl, h⟩ := bind_eq_ok.mp h
  obtain ⟨portNumber, hport, _⟩ := bind_eq_ok.mp h
  have hadded := allAdded_of_addItems ht
  have hfill := (fillGcl_ok_iff initialGcl (by decide)).mp ⟨gcl, hgcl⟩
  rw [length_sortUnique, toFinset_addItems ht, isChain_sortUnique_iff,
    toFinset_addItems ht] at hfill
  constructor
  case period =>
    exact hadded.period
  case window =>
    exact hadded.window
  case card =>
    have hcard := hfill.left
    unfold gclSize at hcard
    omega
  case interval =>
    exact hfill.right
  case port =>
    exact (checkInt_eq_ok.mp hport).left

theorem programmed_of_fits {schedule : List ScheduleItem} {port : Int32}
    (h : Fits schedule port) : Programmed schedule port := by
  obtain ⟨t, ht⟩ := addItems_terminates initialTimePoints h.period h.window
  have hfill : exists gcl, fillGcl t.ttFramesStartTimes 0
      (sortUnique t.timePoints) initialGcl = .ok gcl := by
    rw [fillGcl_ok_iff initialGcl (by decide), length_sortUnique,
      toFinset_addItems ht, isChain_sortUnique_iff, toFinset_addItems ht]
    refine ⟨?_, h.interval⟩
    have hcard := h.card
    unfold gclSize
    omega
  obtain ⟨gcl, hgcl⟩ := hfill
  obtain ⟨writes, hwrites, haddress⟩ :=
    writeEntries_ok (UInt16.ofInt (port.toInt + 1)) gcl (List.finRange gclSize)
  refine ⟨2049, writes, ?_, haddress, ?_⟩
  · exact bind_eq_ok.mpr ⟨t, ht, bind_eq_ok.mpr ⟨gcl, hgcl,
      bind_eq_ok.mpr ⟨_, checkInt_of_isInt h.port, hwrites⟩⟩⟩
  · intro hintervals
    have hcard := h.card
    unfold intervals at hintervals
    omega

/-- The schedules that the program handles are the ones that fit. -/
theorem programmed_iff_fits (schedule : List ScheduleItem) (port : Int32) :
    Programmed schedule port <-> Fits schedule port := by
  constructor
  · rintro ⟨fuel, writes, h, _⟩
    exact fits_of_applyGcl h
  · exact programmed_of_fits

/-- The windows of the link from node 9 to node 8 of the a380 schedule. -/
def a380Schedule : List ScheduleItem :=
  [⟨2048, 1933, 1946⟩, ⟨2048, 2021, 2034⟩, ⟨512, 125, 138⟩, ⟨512, 95, 108⟩]

/-- That schedule needs 21 entries. -/
theorem a380_not_programmed : ¬ Programmed a380Schedule 1 := by
  rintro ⟨fuel, writes, h, _⟩
  have hcard : (boundaries a380Schedule).card = 22 := by decide +kernel
  have hfits := (fits_of_applyGcl h).card
  omega

end Topo
end Ziggo
