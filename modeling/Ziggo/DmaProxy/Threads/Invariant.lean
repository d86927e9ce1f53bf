import Ziggo.DmaProxy.Threads.Flow

/-!
# The invariant of the two threads

A region that has been entered is regarded as completed, so that the queue is
always that of whole calls of its functions.
-/

namespace Ziggo
namespace DmaProxy

open Foundation

namespace System

/-- The thread that receives is in its region. -/
def pushing (s : System) : Bool :=
  (s.guarded.region .dmaRx).isSome

/-- The main loop is in its region, or has the result of it. -/
def popping (s : System) : Bool :=
  (s.syncPoint == .handle) || (s.guarded.region .timeSync).isSome

/-- The regions that have been entered are completed, and no frame is lost. -/
structure Flows (s : System) : Prop where
  flow : exists v written, s.guarded.settled = .ok v ∧
    s.Flow v s.pushing s.popping written
  stop : s.guarded.stop = none

/-- The thread that receives finds the queue full, and ends the process. -/
structure Overflows (s : System) : Prop where
  region : s.guarded.region .dmaRx =
    some (pushRegion s.buffer.octets maxPktLen)
  full : s.guarded.shared.queue.size = fifoSize
  flow : exists written, s.Flow s.guarded.shared false s.popping written
  stop : s.guarded.stop = none ∨ s.guarded.stop = some .exit

structure Invariant (s : System) : Prop where
  exclusive : s.guarded.Exclusive
  held : s.guarded.Held
  rxPoint : forall r, s.guarded.region .dmaRx = some r -> s.rxPoint = .push
  syncPoint : forall r, s.guarded.region .timeSync = some r ->
    s.syncPoint = .recv
  inFlight : s.inFlight = true -> s.rxPoint = .poll
  ptp : s.rxPoint = .push -> isPtpFrame s.buffer.octets = true
  keeps : forall r, s.guarded.region .dmaRx = some r -> r.Keeps Shared.received
  flows : s.Flows ∨ s.Overflows

/-!
## Steps
-/

/-- What a thread does that is about to enter its region, or in it. -/
theorem locked_cases (s : System) (t : Thread) (r : Region Shared)
    (released : System -> System) :
    s.locked t r released = s ∨
    (s.guarded.lock = none ∧
      s.locked t r released = { s with guarded := s.guarded.enter t r }) ∨
    (s.guarded.region t = some .done ∧
      s.locked t r released =
        released { s with guarded := s.guarded.leave t }) ∨
    (exists r', s.guarded.region t = some r' ∧
      s.locked t r released =
        { s with guarded := s.guarded.advance t r' }) := by
  cases hregion : s.guarded.region t with
  | none =>
      have houtside := @locked_outside s t r released hregion
      by_cases hlock : s.guarded.lock = none
      · exact Or.inr (Or.inl ⟨hlock, houtside⟩)
      · left
        rw [houtside]
        unfold Guarded.enter
        rw [if_neg hlock]
  | some r' =>
      cases hr : r'.isDone with
      | true =>
          have hdone := Region.eq_done_of_isDone hr
          subst hdone
          exact Or.inr (Or.inr (Or.inl ⟨rfl, locked_atEnd hregion⟩))
      | false =>
          exact Or.inr (Or.inr (Or.inr ⟨r', rfl, locked_inside hregion hr⟩))

theorem Overflows.thread {s : System} (h : s.Overflows)
    (hexclusive : s.guarded.Exclusive) {t : Thread} {r : Region Shared}
    (hregion : s.guarded.region t = some r) :
    t = .dmaRx ∧ r = pushRegion s.buffer.octets maxPktLen := by
  have ht := hexclusive.eq hregion h.region
  subst ht
  exact ⟨rfl, Option.some.inj (hregion.symm.trans h.region)⟩

/-- A full queue ends the process in the first statement of `push_queue`. -/
theorem advance_full {g : Guarded Thread Shared} {buf : List UInt8}
    {len : Int32} (hfull : g.shared.queue.size = fifoSize) :
    g.advance .dmaRx (pushRegion buf len) = { g with stop := some .exit } := by
  have hnext : (pushRegion buf len).next g.shared = .error .exit := by
    change ((if g.shared.queue.size ≥ fifoSize then _ else _ :
      Except Fault Shared)).map _ = _
    rw [if_pos (Nat.le_of_eq hfull.symm)]
    rfl
  unfold Guarded.advance
  rw [hnext]

theorem Invariant.advance {s : System} (h : s.Invariant) {t : Thread}
    {r : Region Shared} (hregion : s.guarded.region t = some r) :
    ({ s with guarded := s.guarded.advance t r } : System).Invariant := by
  have hinside : forall t' r', (s.guarded.advance t r).region t' = some r' ->
      exists r'', s.guarded.region t' = some r'' := by
    intro t' r' hregion'
    apply Option.isSome_iff_exists.mp
    rw [← Guarded.isSome_advance hregion t', hregion']
    rfl
  have hpushing : pushing { s with guarded := s.guarded.advance t r } =
      s.pushing := Guarded.isSome_advance hregion .dmaRx
  have hpopping : popping { s with guarded := s.guarded.advance t r } =
      s.popping := by
    unfold popping
    dsimp only
    rw [Guarded.isSome_advance hregion .timeSync]
  constructor
  case exclusive => exact h.exclusive.advance hregion
  case held => exact h.held.advance hregion
  case rxPoint =>
    intro r' hregion'
    obtain ⟨r'', hregion''⟩ := hinside .dmaRx r' hregion'
    exact h.rxPoint r'' hregion''
  case syncPoint =>
    intro r' hregion'
    obtain ⟨r'', hregion''⟩ := hinside .timeSync r' hregion'
    exact h.syncPoint r'' hregion''
  case inFlight => exact h.inFlight
  case ptp => exact h.ptp
  case keeps =>
    intro r' hregion'
    exact Guarded.keeps_advance hregion h.keeps hregion'
  case flows =>
    rcases h.flows with hflows | hoverflows
    · left
      obtain ⟨v, written, hsettled, hflow⟩ := hflows.flow
      constructor
      case flow =>
        refine ⟨v, written, ?_, ?_⟩
        · exact (Guarded.settled_advance h.exclusive hregion).trans hsettled
        · rw [hpushing, hpopping]
          exact hflow.of_eq rfl rfl rfl
      case stop =>
        exact (Guarded.stop_advance h.exclusive hregion hsettled).trans
          hflows.stop
    · right
      obtain ⟨rfl, rfl⟩ := hoverflows.thread h.exclusive hregion
      obtain ⟨written, hflow⟩ := hoverflows.flow
      rw [advance_full hoverflows.full] at hpopping ⊢
      constructor
      case region => exact hoverflows.region
      case full => exact hoverflows.full
      case flow =>
        refine ⟨written, ?_⟩
        rw [hpopping]
        exact hflow.of_eq rfl rfl rfl
      case stop => exact Or.inr rfl

/-- While the lock is free, all regions that have been entered are completed. -/
theorem Invariant.unlocked {s : System} (h : s.Invariant)
    (hlock : s.guarded.lock = none) :
    exists written, s.Flow s.guarded.shared false s.popping written ∧
      s.guarded.stop = none := by
  rcases h.flows with hflows | hoverflows
  · obtain ⟨v, written, hsettled, hflow⟩ := hflows.flow
    rw [Guarded.settled_free hlock] at hsettled
    cases hsettled
    have hpushing : s.pushing = false := by
      unfold pushing
      rw [h.exclusive.outside hlock]
      rfl
    rw [hpushing] at hflow
    exact ⟨written, hflow, hflows.stop⟩
  · have hholds := h.exclusive _ _ hoverflows.region
    rw [hlock] at hholds
    cases hholds

theorem Invariant.enterPush {s : System} (h : s.Invariant)
    (hpoint : s.rxPoint = .push) (hlock : s.guarded.lock = none) :
    ({ s with
        guarded := s.guarded.enter .dmaRx
          (pushRegion s.buffer.octets maxPktLen) } : System).Invariant := by
  have hregion := @Guarded.region_enter _ _ _ s.guarded .dmaRx
    (pushRegion s.buffer.octets maxPktLen) hlock
  have hother := @Guarded.region_enter_of_ne _ _ _ s.guarded .dmaRx
    (pushRegion s.buffer.octets maxPktLen) .timeSync (by decide)
  obtain ⟨written, hflow, hstop⟩ := h.unlocked hlock
  have hpushing : pushing { s with
      guarded := s.guarded.enter .dmaRx
        (pushRegion s.buffer.octets maxPktLen) } = true := by
    unfold pushing
    dsimp only
    rw [hregion]
    rfl
  have hpopping : popping { s with
      guarded := s.guarded.enter .dmaRx
        (pushRegion s.buffer.octets maxPktLen) } = s.popping := by
    unfold popping
    dsimp only
    rw [hother]
  constructor
  case exclusive => exact h.exclusive.enter
  case held => exact h.held.enter
  case rxPoint => exact fun _ _ => hpoint
  case syncPoint =>
    intro r hr
    exact h.syncPoint r (hother.symm.trans hr)
  case inFlight => exact h.inFlight
  case ptp => exact h.ptp
  case keeps =>
    intro r hr
    cases hregion.symm.trans hr
    exact keeps_pushRegion s.buffer.octets maxPktLen
  case flows =>
    by_cases hroom : s.guarded.shared.queue.size < fifoSize
    · left
      obtain ⟨v, written', hrun, hpush⟩ :=
        hflow.push hpoint (h.ptp hpoint) hroom
      refine ⟨⟨v, written', (Guarded.settled_enter hlock).trans hrun, ?_⟩,
        Guarded.stop_enter.trans hstop⟩
      rw [hpushing, hpopping]
      exact hpush.of_eq rfl rfl rfl
    · right
      have hfits : s.guarded.shared.queue.size ≤ fifoSize := hflow.holds.fits
      constructor
      case region => exact hregion
      case full =>
        dsimp only
        rw [Guarded.shared_enter]
        omega
      case flow =>
        refine ⟨written, ?_⟩
        dsimp only
        rw [hpopping, Guarded.shared_enter]
        exact hflow.of_eq rfl rfl rfl
      case stop => exact Or.inl (Guarded.stop_enter.trans hstop)

theorem Invariant.enterRecv {s : System} (h : s.Invariant)
    (hpoint : s.syncPoint = .recv) (hlock : s.guarded.lock = none) :
    ({ s with
        guarded := s.guarded.enter .timeSync recvRegion } :
      System).Invariant := by
  have hregion := @Guarded.region_enter _ _ _ s.guarded .timeSync recvRegion
    hlock
  have hother : (s.guarded.enter .timeSync recvRegion).region .dmaRx = none :=
    (@Guarded.region_enter_of_ne _ _ _ s.guarded .timeSync recvRegion .dmaRx
      (by decide)).trans (h.exclusive.outside hlock .dmaRx)
  have hpushing : pushing { s with
      guarded := s.guarded.enter .timeSync recvRegion } = false := by
    unfold pushing
    dsimp only
    rw [hother]
    rfl
  have hpopping : popping { s with
      guarded := s.guarded.enter .timeSync recvRegion } = true := by
    unfold popping
    dsimp only
    rw [hregion]
    exact Bool.or_true _
  have hbefore : s.popping = false := by
    unfold popping
    rw [hpoint, h.exclusive.outside hlock]
    rfl
  obtain ⟨written, hflow, hstop⟩ := h.unlocked hlock
  rw [hbefore] at hflow
  obtain ⟨v, hrun, hrecv⟩ := hflow.recv
  constructor
  case exclusive => exact h.exclusive.enter
  case held => exact h.held.enter
  case rxPoint =>
    intro r hr
    cases hother.symm.trans hr
  case syncPoint => exact fun _ _ => hpoint
  case inFlight => exact h.inFlight
  case ptp => exact h.ptp
  case keeps =>
    intro r hr
    cases hother.symm.trans hr
  case flows =>
    left
    refine ⟨⟨v, written, (Guarded.settled_enter hlock).trans hrun, ?_⟩,
      Guarded.stop_enter.trans hstop⟩
    rw [hpushing, hpopping]
    exact hrecv.of_eq rfl rfl rfl

theorem Invariant.atEnd {s : System} (h : s.Invariant) {t : Thread}
    (hregion : s.guarded.region t = some .done) :
    s.Flows := by
  rcases h.flows with hflows | hoverflows
  · exact hflows
  · obtain ⟨_, hdone⟩ := hoverflows.thread h.exclusive hregion
    cases hdone

/-- The thread that receives releases the lock. -/
theorem Invariant.leavePush {s : System} (h : s.Invariant)
    (hregion : s.guarded.region .dmaRx = some .done) :
    ({ s with
        guarded := s.guarded.leave .dmaRx
        rxPoint := .restart } : System).Invariant := by
  have hleft : (s.guarded.leave .dmaRx).region .dmaRx = none :=
    Guarded.region_leave
  have hother : (s.guarded.leave .dmaRx).region .timeSync =
      s.guarded.region .timeSync := Guarded.region_leave_of_ne (by decide)
  have hpoint := h.rxPoint _ hregion
  have hflows := h.atEnd hregion
  obtain ⟨v, written, hsettled, hflow⟩ := hflows.flow
  have hpushed : s.pushing = true := by
    unfold pushing
    rw [hregion]
    rfl
  rw [hpushed] at hflow
  have htransit : s.inTransit true = [] := by
    unfold inTransit
    rw [hpoint]
    rfl
  constructor
  case exclusive => exact h.exclusive.leave hregion
  case held => exact Guarded.Held.leave
  case rxPoint =>
    intro r hr
    cases hleft.symm.trans hr
  case syncPoint =>
    intro r hr
    exact h.syncPoint r (hother.symm.trans hr)
  case inFlight =>
    intro hinFlight
    have hpoll := h.inFlight hinFlight
    rw [hpoint] at hpoll
    cases hpoll
  case ptp =>
    intro hpush
    cases hpush
  case keeps =>
    intro r hr
    cases hleft.symm.trans hr
  case flows =>
    left
    refine ⟨⟨v, written,
      (Guarded.settled_leave h.exclusive hregion).trans hsettled, ?_⟩,
      hflows.stop⟩
    have hpopping : popping { s with
        guarded := s.guarded.leave .dmaRx
        rxPoint := .restart } = s.popping := by
      unfold popping
      dsimp only
      rw [hother]
    rw [hpopping]
    exact hflow.of_eq rfl rfl htransit.symm

theorem Invariant.leaveRecv {s : System} (h : s.Invariant)
    (hregion : s.guarded.region .timeSync = some .done) :
    ({ s with
        guarded := s.guarded.leave .timeSync
        syncPoint := .handle } : System).Invariant := by
  have hleft : (s.guarded.leave .timeSync).region .timeSync = none :=
    Guarded.region_leave
  have hother : (s.guarded.leave .timeSync).region .dmaRx =
      s.guarded.region .dmaRx := Guarded.region_leave_of_ne (by decide)
  have hflows := h.atEnd hregion
  obtain ⟨v, written, hsettled, hflow⟩ := hflows.flow
  have hpopped : s.popping = true := by
    unfold popping
    rw [hregion]
    exact Bool.or_true _
  rw [hpopped] at hflow
  constructor
  case exclusive => exact h.exclusive.leave hregion
  case held => exact Guarded.Held.leave
  case rxPoint =>
    intro r hr
    exact h.rxPoint r (hother.symm.trans hr)
  case syncPoint =>
    intro r hr
    cases hleft.symm.trans hr
  case inFlight => exact h.inFlight
  case ptp => exact h.ptp
  case keeps =>
    intro r hr
    exact h.keeps r (hother.symm.trans hr)
  case flows =>
    left
    refine ⟨⟨v, written,
      (Guarded.settled_leave h.exclusive hregion).trans hsettled, ?_⟩,
      hflows.stop⟩
    have hpushing : pushing { s with
        guarded := s.guarded.leave .timeSync
        syncPoint := .handle } = s.pushing := by
      unfold pushing
      dsimp only
      rw [hother]
    rw [hpushing]
    exact hflow.of_eq rfl rfl rfl

theorem Invariant.outside {s s' : System} (h : s.Invariant)
    (hpoint : s.rxPoint ≠ .push) (hguarded : s'.guarded = s.guarded)
    (hsync : s'.syncPoint = s.syncPoint) (hhandled : s'.handled = s.handled)
    (hinFlight : s'.inFlight = true -> s'.rxPoint = .poll)
    (hptp : s'.rxPoint = .push -> isPtpFrame s'.buffer.octets = true)
    (harrived : forall written, s.arrived = written ++ s.inTransit false ->
      s'.arrived = written ++ s'.inTransit false) :
    s'.Invariant := by
  have houtside : s.guarded.region .dmaRx = none := by
    cases hregion : s.guarded.region .dmaRx with
    | none => rfl
    | some r => exact absurd (h.rxPoint r hregion) hpoint
  have hpushing : s.pushing = false := by
    unfold pushing
    rw [houtside]
    rfl
  constructor
  case exclusive =>
    rw [hguarded]
    exact h.exclusive
  case held =>
    rw [hguarded]
    exact h.held
  case rxPoint =>
    intro r hr
    rw [hguarded, houtside] at hr
    cases hr
  case syncPoint =>
    intro r hr
    rw [hguarded] at hr
    rw [hsync]
    exact h.syncPoint r hr
  case inFlight => exact hinFlight
  case ptp => exact hptp
  case keeps =>
    intro r hr
    rw [hguarded, houtside] at hr
    cases hr
  case flows =>
    rcases h.flows with hflows | hoverflows
    · left
      obtain ⟨v, written, hsettled, hflow⟩ := hflows.flow
      rw [hpushing] at hflow
      have hpushing' : s'.pushing = false := by
        unfold pushing
        rw [hguarded]
        exact hpushing
      have hpopping : s'.popping = s.popping := by
        unfold popping
        rw [hguarded, hsync]
      refine ⟨⟨v, written, ?_, ?_⟩, ?_⟩
      · rw [hguarded]
        exact hsettled
      · rw [hpushing', hpopping]
        exact
          { intact := hflow.intact
            room := hflow.room
            lengths := hflow.lengths
            arrived := harrived written hflow.arrived
            order := by
              rw [hhandled]
              exact hflow.order
            holds := by
              rw [hhandled]
              exact hflow.holds }
      · rw [hguarded]
        exact hflows.stop
    · rw [hoverflows.region] at houtside
      cases houtside

theorem Invariant.transfer {s : System} (h : s.Invariant)
    (hinFlight : s.inFlight = true) (b : ChannelBuffer) :
    ({ s with
        buffer := b
        inFlight := false
        arrived := s.arrived ++ b.ptpFrames } : System).Invariant := by
  have hpoll := h.inFlight hinFlight
  refine h.outside (by rw [hpoll]; decide) rfl rfl rfl ?_ ?_ ?_
  · intro hnot
    cases hnot
  · intro hpush
    rw [hpoll] at hpush
    cases hpush
  · intro written harrived
    unfold inTransit at harrived ⊢
    rw [hpoll] at harrived ⊢
    rw [hinFlight] at harrived
    change s.arrived = written ++ [] at harrived
    change s.arrived ++ b.ptpFrames = written ++ b.ptpFrames
    rw [harrived, List.append_nil]

theorem Invariant.dmaRxThread {s : System} (h : s.Invariant) :
    s.dmaRxThread.Invariant := by
  unfold System.dmaRxThread
  cases hpoint : s.rxPoint with
  | poll =>
      dsimp only
      split
      case isTrue => exact h
      case isFalse hidle =>
          have hinFlight := Bool.eq_false_of_not_eq_true hidle
          refine h.outside (by rw [hpoint]; decide) rfl rfl rfl ?_ ?_ ?_
          · intro htrue
            change s.inFlight = true at htrue
            cases hinFlight.symm.trans htrue
          · intro hpush
            cases hpush
          · intro written harrived
            unfold inTransit at harrived
            rw [hpoint, hinFlight] at harrived
            exact harrived
  | process =>
      have hinFlight : s.inFlight = false := by
        cases hinFlight : s.inFlight with
        | false => rfl
        | true => cases hpoint.symm.trans (h.inFlight hinFlight)
      dsimp only
      refine h.outside (by rw [hpoint]; decide) rfl rfl rfl ?_ ?_ ?_
      · intro htrue
        cases hinFlight.symm.trans htrue
      · intro hpush
        dsimp only at hpush
        split at hpush
        · assumption
        · cases hpush
      · intro written harrived
        unfold inTransit at harrived
        rw [hpoint] at harrived
        change s.arrived = written ++ s.buffer.ptpFrames at harrived
        change s.arrived = _
        rw [harrived]
        unfold inTransit ChannelBuffer.ptpFrames
        dsimp only
        -- A frame that is not for the program is dropped here.
        split
        · rfl
        · rfl
  | push =>
      dsimp only
      rcases s.locked_cases .dmaRx (pushRegion s.buffer.octets maxPktLen)
          (fun s => { s with rxPoint := .restart }) with
        heq | ⟨hlock, heq⟩ | ⟨hregion, heq⟩ | ⟨r, hregion, heq⟩
      · rw [heq]
        exact h
      · rw [heq]
        exact h.enterPush hpoint hlock
      · rw [heq]
        exact h.leavePush hregion
      · rw [heq]
        exact h.advance hregion
  | restart =>
      dsimp only
      refine h.outside (by rw [hpoint]; decide) rfl rfl rfl ?_ ?_ ?_
      · exact fun _ => rfl
      · intro hpush
        cases hpush
      · intro written harrived
        unfold inTransit at harrived
        rw [hpoint] at harrived
        exact harrived

/-- The thread that receives does not change what the main loop has taken. -/
theorem Invariant.received {s : System} (h : s.Invariant)
    (houtside : s.guarded.region .timeSync = none) {v : Shared}
    (hsettled : s.guarded.settled = .ok v) :
    v.received = s.guarded.shared.received := by
  cases hregion : s.guarded.region .dmaRx with
  | none =>
      have hsettled' : s.guarded.settled = .ok s.guarded.shared := by
        unfold Guarded.settled
        cases s.guarded.lock with
        | none => rfl
        | some t =>
            cases t with
            | dmaRx =>
                dsimp only
                rw [hregion]
                rfl
            | timeSync =>
                dsimp only
                rw [houtside]
                rfl
      cases hsettled'.symm.trans hsettled
      rfl
  | some r =>
      rw [Guarded.settled_inside h.exclusive hregion] at hsettled
      exact (h.keeps r hregion).run hsettled

theorem Invariant.handle {s : System} (h : s.Invariant)
    (hpoint : s.syncPoint = .handle) :
    ({ s with
        syncPoint := .recv
        handled := s.handled ++ s.guarded.shared.received } :
      System).Invariant := by
  have houtside : s.guarded.region .timeSync = none := by
    cases hregion : s.guarded.region .timeSync with
    | none => rfl
    | some r => cases hpoint.symm.trans (h.syncPoint r hregion)
  have hpopped : s.popping = true := by
    unfold popping
    rw [hpoint]
    rfl
  have hpopping : popping { s with
      syncPoint := .recv
      handled := s.handled ++ s.guarded.shared.received } = false := by
    unfold popping
    dsimp only
    rw [houtside]
    rfl
  constructor
  case exclusive => exact h.exclusive
  case held => exact h.held
  case rxPoint => exact h.rxPoint
  case syncPoint => exact fun _ _ => rfl
  case inFlight => exact h.inFlight
  case ptp => exact h.ptp
  case keeps => exact h.keeps
  case flows =>
    rcases h.flows with hflows | hoverflows
    · left
      obtain ⟨v, written, hsettled, hflow⟩ := hflows.flow
      rw [hpopped] at hflow
      refine ⟨⟨v, written, hsettled, ?_⟩, hflows.stop⟩
      rw [hpopping, ← h.received houtside hsettled]
      exact hflow.handle
    · right
      obtain ⟨written, hflow⟩ := hoverflows.flow
      rw [hpopped] at hflow
      constructor
      case region => exact hoverflows.region
      case full => exact hoverflows.full
      case flow =>
        refine ⟨written, ?_⟩
        rw [hpopping]
        exact hflow.handle
      case stop => exact hoverflows.stop

theorem Invariant.syncStep {s : System} (h : s.Invariant) :
    s.syncStep.Invariant := by
  unfold System.syncStep
  cases hpoint : s.syncPoint with
  | recv =>
      dsimp only
      rcases s.locked_cases .timeSync recvRegion
          (fun s => { s with syncPoint := .handle }) with
        heq | ⟨hlock, heq⟩ | ⟨hregion, heq⟩ | ⟨r, hregion, heq⟩
      · rw [heq]
        exact h
      · rw [heq]
        exact h.enterRecv hpoint hlock
      · rw [heq]
        exact h.leaveRecv hregion
      · rw [heq]
        exact h.advance hregion
  | handle => exact h.handle hpoint

/-!
## Runs
-/

theorem invariant_initial (memory : Memory) : (initial memory).Invariant := by
  constructor
  case exclusive =>
    intro t r hregion
    cases hregion
  case held =>
    intro t hholds
    cases hholds
  case rxPoint =>
    intro r hregion
    cases hregion
  case syncPoint =>
    intro r hregion
    cases hregion
  case inFlight => exact fun _ => rfl
  case ptp =>
    intro hpush
    cases hpush
  case keeps =>
    intro r hregion
    cases hregion
  case flows =>
    left
    refine ⟨⟨(initial memory).guarded.shared, [], rfl, ?_⟩, rfl⟩
    constructor
    case intact => exact intact_initQueue memory.blocks
    case room => exact memory.length_rxBuffer
    case lengths =>
      intro frame hframe
      cases hframe
    case arrived => rfl
    case order => exact List.prefix_refl _
    case holds =>
      change Ring.Holds _ [] 0 (ring (initQueue memory.blocks))
      rw [ring_initQueue]
      exact Ring.holds_empty _

theorem invariant_step {s : System} (h : s.Invariant) (e : Event) :
    (s.step e).Invariant := by
  unfold step
  split
  · exact h
  · cases e with
    | transfer b =>
        dsimp only
        split
        · rename_i hinFlight
          exact h.transfer hinFlight b
        · exact h
    | dmaRx => exact h.dmaRxThread
    | timeSync => exact h.syncStep

theorem invariant_after (memory : Memory) (es : List Event) :
    (after memory es).Invariant :=
  run_invariant_always (invariant_initial memory)
    (fun _ e h => invariant_step h e) es

end System

end DmaProxy
end Ziggo
