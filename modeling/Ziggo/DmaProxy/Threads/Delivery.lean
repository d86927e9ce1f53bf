import Ziggo.DmaProxy.Threads.Order

/-!
# The delivery of the received frames

No frame stays behind: by steps of the two threads alone every frame that has
arrived is handled.  The process does not end meanwhile if the queue has room
for all of them.
-/

namespace Ziggo
namespace DmaProxy

open Foundation

def Thread.event : Thread -> System.Event
  | .dmaRx => .dmaRx
  | .timeSync => .timeSync

namespace System

section Steps

variable {s : System} {t : Thread} {r : Region Shared}

theorem step_event (hstop : s.guarded.stop = none) :
    s.step t.event =
      match t with
      | .dmaRx => s.dmaRxThread
      | .timeSync => s.syncStep := by
  unfold step
  rw [if_neg (not_not_intro hstop)]
  cases t with
  | dmaRx => rfl
  | timeSync => rfl

/-- A thread in its region executes a statement. -/
theorem Invariant.step_inside (h : s.Invariant)
    (hstop : s.guarded.stop = none) (hregion : s.guarded.region t = some r)
    (hr : r.isDone = false) :
    s.step t.event = { s with guarded := s.guarded.advance t r } := by
  rw [step_event hstop]
  cases t with
  | dmaRx =>
      exact (dmaRxThread_push (h.rxPoint r hregion)).trans (locked_inside hregion hr)
  | timeSync =>
      exact (syncStep_recv (h.syncPoint r hregion)).trans
        (locked_inside hregion hr)

theorem Invariant.step_atEnd (h : s.Invariant)
    (hstop : s.guarded.stop = none)
    (hregion : s.guarded.region t = some .done) :
    (s.step t.event).guarded = s.guarded.leave t := by
  rw [step_event hstop]
  cases t with
  | dmaRx =>
      dsimp only
      rw [dmaRxThread_push (h.rxPoint _ hregion), locked_atEnd hregion]
  | timeSync =>
      dsimp only
      rw [syncStep_recv (h.syncPoint _ hregion), locked_atEnd hregion]

end Steps

/-!
## Steps of the two threads alone
-/

/-- Steps of the two threads alone lead to a state with the property. -/
def Leads (s : System) (P : System -> Prop) : Prop :=
  exists ts : List Thread, P (runEvents step s (ts.map Thread.event))

section Leads

variable {s : System} {P Q : System -> Prop}

theorem Leads.here (h : P s) : s.Leads P :=
  ⟨[], h⟩

theorem Leads.step (t : Thread) (h : (s.step t.event).Leads P) : s.Leads P := by
  obtain ⟨ts, hts⟩ := h
  exact ⟨t :: ts, hts⟩

theorem Leads.trans (h : s.Leads P) (hP : forall s', P s' -> s'.Leads Q) :
    s.Leads Q := by
  obtain ⟨ts, hts⟩ := h
  obtain ⟨ts', hts'⟩ := hP _ hts
  refine ⟨ts ++ ts', ?_⟩
  rw [List.map_append, runEvents_append]
  exact hts'

end Leads

/-- The process has ended, or the state has the property. -/
def OrExit (P : System -> Prop) (s : System) : Prop :=
  s.guarded.stop = some .exit ∨ P s

theorem Leads.orExit {s : System} {P Q : System -> Prop}
    (h : s.Leads (OrExit P)) (hP : forall s', P s' -> s'.Leads (OrExit Q)) :
    s.Leads (OrExit Q) := by
  refine h.trans fun s' hs' => ?_
  rcases hs' with hexit | hs'
  · exact Leads.here (Or.inl hexit)
  · exact hP s' hs'

theorem Invariant.exit {s : System} (h : s.Invariant)
    (hstop : s.guarded.stop ≠ none) : s.guarded.stop = some .exit := by
  obtain ⟨f, hf⟩ := Option.ne_none_iff_exists'.mp hstop
  obtain ⟨rfl, _⟩ := h.orderly.stop f hf
  exact hf

/-- The state after the region of the thread, with what the lock protects. -/
def completed (s : System) (g : Guarded Thread Shared) : Thread -> System
  | .dmaRx => { s with guarded := g, rxPoint := .restart }
  | .timeSync => { s with guarded := g, syncPoint := .handle }

/-- What a thread has done when it has completed its region. -/
structure Completes (s : System) (t : Thread) (s' : System) : Prop where
  invariant : s'.Invariant
  unlocked : s'.guarded.lock = none
  running : s'.guarded.stop = none
  settled : s.guarded.settled = .ok s'.guarded.shared
  frame : s' = s.completed s'.guarded t

theorem completed_guarded (s : System) (g g' : Guarded Thread Shared)
    (t : Thread) :
    ({ s with guarded := g' } : System).completed g t = s.completed g t := by
  cases t with
  | dmaRx => rfl
  | timeSync => rfl

theorem Invariant.step_completed {s : System} {t : Thread} (h : s.Invariant)
    (hrunning : s.guarded.stop = none)
    (hregion : s.guarded.region t = some .done) :
    s.Completes t (s.step t.event) := by
  have hafter := invariant_step h t.event
  have hguarded := h.step_atEnd hrunning hregion
  constructor
  case invariant => exact hafter
  case unlocked =>
    rw [hguarded]
    rfl
  case running =>
    rw [hguarded]
    exact hrunning
  case settled =>
    rw [Guarded.settled_inside h.exclusive hregion, hguarded]
    rfl
  case frame =>
    rw [hguarded, step_event hrunning]
    cases t with
    | dmaRx =>
        exact (dmaRxThread_push (h.rxPoint _ hregion)).trans (locked_atEnd hregion)
    | timeSync =>
        exact (syncStep_recv (h.syncPoint _ hregion)).trans
          (locked_atEnd hregion)

theorem Invariant.completes {s : System} (h : s.Invariant)
    (hrunning : s.guarded.stop = none) {t : Thread} {r : Region Shared}
    (hregion : s.guarded.region t = some r) :
    s.Leads (OrExit (s.Completes t)) := by
  -- One statement, after which less of the region is left.
  have hstatement : forall {s : System} {r : Region Shared}, s.Invariant ->
      s.guarded.stop = none -> s.guarded.region t = some r ->
      r.isDone = false ->
      (forall r' s', r.next s.guarded.shared = .ok (r', s') ->
        (s.step t.event).Invariant ->
        (s.step t.event).guarded.stop = none ->
        (s.step t.event).guarded.region t = some r' ->
        (s.step t.event).Leads (OrExit ((s.step t.event).Completes t))) ->
      s.Leads (OrExit (s.Completes t)) := by
    intro s r h hrunning hregion hr hrest
    have hstep := h.step_inside hrunning hregion hr
    have hafter := invariant_step h t.event
    apply Leads.step t
    rcases @Guarded.advance_cases _ _ _ s.guarded t r with
      ⟨e, hend⟩ | ⟨r', s', hnext, hregion', hstop⟩
    · apply Leads.here
      left
      apply hafter.exit
      rw [hstep, hend]
      exact Option.some_ne_none e
    · refine (hrest r' s' hnext hafter ?_ ?_).orExit fun s' hs' =>
        Leads.here (Or.inr ?_)
      · rw [hstep]
        exact hstop.trans hrunning
      · rw [hstep]
        exact hregion'
      · constructor
        case invariant => exact hs'.invariant
        case unlocked => exact hs'.unlocked
        case running => exact hs'.running
        case settled =>
          have hsettled := hs'.settled
          rw [hstep] at hsettled
          exact (Guarded.settled_advance h.exclusive hregion).symm.trans
            hsettled
        case frame =>
          have hframe := hs'.frame
          rw [hstep, completed_guarded] at hframe
          exact hframe
  induction r generalizing s with
  | done =>
      apply Leads.step t
      exact Leads.here (Or.inr (h.step_completed hrunning hregion))
  | statement f rest ih =>
      refine hstatement h hrunning hregion rfl
        fun r' s' hnext hafter hrunning' hregion' => ?_
      obtain ⟨rfl, _⟩ := Region.next_statement hnext
      exact ih hafter hrunning' hregion'
  | choice c yes no ihyes ihno =>
      refine hstatement h hrunning hregion rfl
        fun r' s' hnext hafter hrunning' hregion' => ?_
      cases hnext
      split at hregion'
      · exact ihyes hafter hrunning' hregion'
      · exact ihno hafter hrunning' hregion'

/-!
## Frames on their way
-/

/-- No thread is in its region, and all these frames have arrived. -/
structure Idle (frames : List (List UInt8)) (s : System) : Prop where
  invariant : s.Invariant
  running : s.guarded.stop = none
  unlocked : s.guarded.lock = none
  arrived : s.arrived = frames

/-- Nothing is between the threads but the frames in the queue. -/
structure Resting (frames : List (List UInt8)) (s : System) : Prop
    extends Idle frames s where
  syncPoint : s.syncPoint = .recv
  inTransit : s.inTransit false = []

theorem completed_arrived (s : System) (g : Guarded Thread Shared)
    (t : Thread) : (s.completed g t).arrived = s.arrived := by
  cases t with
  | dmaRx => rfl
  | timeSync => rfl

theorem Completes.idle {s s' : System} {t : Thread} (h : s.Completes t s') :
    s'.Idle s.arrived where
  invariant := h.invariant
  running := h.running
  unlocked := h.unlocked
  arrived := by
    rw [h.frame]
    exact completed_arrived s _ t

theorem Invariant.leads_idle {s : System} (h : s.Invariant) :
    s.Leads (OrExit (Idle s.arrived)) := by
  by_cases hrunning : s.guarded.stop = none
  · cases hlock : s.guarded.lock with
    | none => exact Leads.here (Or.inr ⟨h, hrunning, hlock, rfl⟩)
    | some t =>
        obtain ⟨r, hregion⟩ := h.held t hlock
        exact (h.completes hrunning hregion).orExit fun s' hs' =>
          Leads.here (Or.inr hs'.idle)
  · exact Leads.here (Or.inl (h.exit hrunning))

section Idle

variable {s : System} {frames : List (List UInt8)}

/-- The main loop comes back to `recv_ptp_frame`. -/
theorem Idle.leads_recv (h : s.Idle frames) :
    s.Leads (OrExit fun s' => s'.Idle frames ∧ s'.syncPoint = .recv) := by
  cases hpoint : s.syncPoint with
  | recv => exact Leads.here (Or.inr ⟨h, hpoint⟩)
  | handle =>
      have hstep : s.step Thread.timeSync.event =
          { s with
            syncPoint := .recv
            handled := s.handled ++ s.guarded.shared.received } := by
        rw [step_event h.running]
        dsimp only
        unfold syncStep
        rw [hpoint]
      apply Leads.step .timeSync
      rw [hstep]
      refine Leads.here (Or.inr ⟨?_, rfl⟩)
      exact
        { invariant := h.invariant.handle hpoint
          running := h.running
          unlocked := h.unlocked
          arrived := h.arrived }

theorem Idle.leads_push (h : s.Idle frames) (hsync : s.syncPoint = .recv)
    (hpoint : s.rxPoint = .push) :
    s.Leads (OrExit fun s' => s'.Resting frames ∧ s'.handled = s.handled) := by
  have hstep : s.step Thread.dmaRx.event =
      { s with
        guarded := s.guarded.enter .dmaRx
          (pushRegion s.buffer.octets maxPktLen) } := by
    rw [step_event h.running]
    exact (dmaRxThread_push hpoint).trans
      (locked_outside (h.invariant.exclusive.outside h.unlocked .dmaRx))
  have hafter := invariant_step h.invariant Thread.dmaRx.event
  apply Leads.step .dmaRx
  rw [hstep] at hafter ⊢
  refine (hafter.completes (Guarded.stop_enter.trans h.running)
    (Guarded.region_enter h.unlocked)).orExit fun s' hs' =>
      Leads.here (Or.inr ?_)
  have hidle := hs'.idle
  constructor
  · constructor
    case toIdle =>
      exact
        { invariant := hidle.invariant
          running := hidle.running
          unlocked := hidle.unlocked
          arrived := hidle.arrived.trans h.arrived }
    case syncPoint =>
      rw [hs'.frame]
      exact hsync
    case inTransit =>
      rw [hs'.frame]
      rfl
  · rw [hs'.frame]
    rfl

theorem Idle.leads_process (h : s.Idle frames) (hsync : s.syncPoint = .recv)
    (hpoint : s.rxPoint = .process) :
    s.Leads (OrExit fun s' => s'.Resting frames ∧ s'.handled = s.handled) := by
  have hstep : s.step Thread.dmaRx.event =
      { s with
        rxPoint := if isPtpFrame s.buffer.octets then .push else .restart } := by
    rw [step_event h.running]
    dsimp only
    unfold dmaRxThread
    rw [hpoint]
  have hafter := invariant_step h.invariant Thread.dmaRx.event
  apply Leads.step .dmaRx
  rw [hstep] at hafter ⊢
  have hidle : Idle frames { s with
      rxPoint := if isPtpFrame s.buffer.octets then .push else .restart } :=
    { invariant := hafter
      running := h.running
      unlocked := h.unlocked
      arrived := h.arrived }
  by_cases hptp : isPtpFrame s.buffer.octets = true
  · exact hidle.leads_push hsync (if_pos hptp)
  · apply Leads.here
    refine Or.inr ⟨⟨hidle, hsync, ?_⟩, rfl⟩
    unfold System.inTransit
    dsimp only
    rw [if_neg hptp]

theorem Idle.leads_resting (h : s.Idle frames) (hsync : s.syncPoint = .recv) :
    s.Leads (OrExit fun s' => s'.Resting frames ∧ s'.handled = s.handled) := by
  cases hpoint : s.rxPoint with
  | poll =>
      cases hinFlight : s.inFlight with
      | true =>
          refine Leads.here (Or.inr ⟨⟨h, hsync, ?_⟩, rfl⟩)
          unfold System.inTransit
          rw [hpoint, hinFlight]
          rfl
      | false =>
          have hstep : s.step Thread.dmaRx.event =
              { s with rxPoint := .process } := by
            rw [step_event h.running]
            dsimp only
            unfold dmaRxThread
            rw [hpoint, hinFlight]
            rfl
          have hafter := invariant_step h.invariant Thread.dmaRx.event
          apply Leads.step .dmaRx
          rw [hstep] at hafter ⊢
          have hidle : Idle frames { s with rxPoint := .process } :=
            { invariant := hafter
              running := h.running
              unlocked := h.unlocked
              arrived := h.arrived }
          exact hidle.leads_process hsync rfl
  | process => exact h.leads_process hsync hpoint
  | push => exact h.leads_push hsync hpoint
  | restart =>
      refine Leads.here (Or.inr ⟨⟨h, hsync, ?_⟩, rfl⟩)
      unfold System.inTransit
      rw [hpoint]

end Idle

/-!
## The queue
-/

section Resting

variable {s : System} {frames : List (List UInt8)}

theorem Resting.flow (h : s.Resting frames) :
    s.Flow s.guarded.shared false false frames := by
  obtain ⟨written, hflow, _⟩ := h.invariant.unlocked h.unlocked
  have hpopping : s.popping = false := by
    unfold popping
    rw [h.syncPoint, h.invariant.exclusive.outside h.unlocked]
    rfl
  have hwritten := hflow.arrived
  rw [h.inTransit, List.append_nil, h.arrived] at hwritten
  rw [hpopping, ← hwritten] at hflow
  exact hflow

/-- The main loop takes a frame from the queue and handles it. -/
theorem Resting.leads_handle (h : s.Resting frames)
    (hsome : 0 < s.guarded.shared.queue.size) :
    s.Leads (OrExit fun s' => s'.Resting frames ∧
      s'.handled.length = s.handled.length + 1) := by
  obtain ⟨v, hrun, hstatus, _⟩ := h.flow.pop hsome
  have hstep : s.step Thread.timeSync.event =
      { s with guarded := s.guarded.enter .timeSync recvRegion } := by
    rw [step_event h.running]
    exact (syncStep_recv h.syncPoint).trans
      (locked_outside (h.invariant.exclusive.outside h.unlocked .timeSync))
  have hafter := invariant_step h.invariant Thread.timeSync.event
  apply Leads.step .timeSync
  rw [hstep] at hafter ⊢
  refine (hafter.completes (Guarded.stop_enter.trans h.running)
    (Guarded.region_enter h.unlocked)).orExit fun s' hs' => ?_
  have hidle := hs'.idle
  have hframe := hs'.frame
  have hshared : s'.guarded.shared = v := by
    have hsettled := hs'.settled
    dsimp only at hsettled
    rw [Guarded.settled_enter h.unlocked, hrun] at hsettled
    exact (Except.ok.inj hsettled).symm
  have hpoint : s'.syncPoint = .handle := by
    rw [hframe]
    rfl
  have hhandle : s'.step Thread.timeSync.event =
      { s' with
        syncPoint := .recv
        handled := s'.handled ++ s'.guarded.shared.received } := by
    rw [step_event hs'.running]
    dsimp only
    unfold syncStep
    rw [hpoint]
  apply Leads.step .timeSync
  rw [hhandle]
  apply Leads.here
  right
  constructor
  · constructor
    case toIdle =>
      exact
        { invariant := hidle.invariant.handle hpoint
          running := hidle.running
          unlocked := hidle.unlocked
          arrived := hidle.arrived.trans h.arrived }
    case syncPoint => rfl
    case inTransit =>
      rw [hframe]
      exact h.inTransit
  · have hhandled : s'.handled = s.handled := by
      rw [hframe]
      rfl
    dsimp only
    rw [hshared, hhandled, List.length_append]
    unfold Shared.received
    rw [if_pos hstatus]
    rfl

theorem Resting.leads_handled {n : Nat} (h : s.Resting frames)
    (hn : s.handled.length + n = frames.length) :
    s.Leads (OrExit fun s' => s'.handled = frames) := by
  induction n generalizing s with
  | zero =>
      apply Leads.here
      right
      have horder := h.flow.inOrder
      rw [h.arrived] at horder
      exact horder.eq_of_length hn
  | succ n ih =>
      have hsize := h.flow.holds.size
      change (s.handled ++ []).length + s.guarded.shared.queue.size =
        frames.length at hsize
      rw [List.append_nil] at hsize
      refine (h.leads_handle (by omega)).orExit fun s' hs' => ?_
      obtain ⟨hresting, hlength⟩ := hs'
      exact ih hresting (by omega)

end Resting

/-!
## Delivery
-/

theorem step_thread (s : System) (t : Thread) :
    (s.step t.event).arrived = s.arrived ∧
      s.handled <+: (s.step t.event).handled := by
  by_cases hrunning : s.guarded.stop = none
  · rw [step_event hrunning]
    cases t with
    | dmaRx =>
        dsimp only
        unfold dmaRxThread
        split
        · split
          · exact ⟨rfl, List.prefix_refl _⟩
          · exact ⟨rfl, List.prefix_refl _⟩
        · exact ⟨rfl, List.prefix_refl _⟩
        · rcases s.locked_cases .dmaRx (pushRegion s.buffer.octets maxPktLen)
              (fun s => { s with rxPoint := .restart }) with
            heq | ⟨_, heq⟩ | ⟨_, heq⟩ | ⟨_, _, heq⟩
          all_goals
            rw [heq]
            exact ⟨rfl, List.prefix_refl _⟩
        · exact ⟨rfl, List.prefix_refl _⟩
    | timeSync =>
        dsimp only
        unfold syncStep
        split
        · rcases s.locked_cases .timeSync recvRegion
              (fun s => { s with syncPoint := .handle }) with
            heq | ⟨_, heq⟩ | ⟨_, heq⟩ | ⟨_, _, heq⟩
          all_goals
            rw [heq]
            exact ⟨rfl, List.prefix_refl _⟩
        · exact ⟨rfl, List.prefix_append _ _⟩
  · unfold step
    rw [if_pos hrunning]
    exact ⟨rfl, List.prefix_refl _⟩

theorem run_threads {s : System} (h : s.Invariant) (ts : List Thread) :
    (runEvents step s (ts.map Thread.event)).Invariant ∧
      (runEvents step s (ts.map Thread.event)).arrived = s.arrived ∧
      s.handled <+: (runEvents step s (ts.map Thread.event)).handled := by
  induction ts generalizing s with
  | nil => exact ⟨h, rfl, List.prefix_refl _⟩
  | cons t ts ih =>
      obtain ⟨harrived, hhandled⟩ := step_thread s t
      obtain ⟨hinvariant, harrived', hhandled'⟩ :=
        ih (invariant_step h t.event)
      exact ⟨hinvariant, harrived'.trans harrived, hhandled.trans hhandled'⟩

/-- The process does not end if the queue has room for what waits. -/
theorem Leads.fits {s : System} {P : System -> Prop} (h : s.Invariant)
    (hfits : s.arrived.length ≤ s.handled.length + fifoSize)
    (hleads : s.Leads (OrExit P)) : s.Leads P := by
  obtain ⟨ts, hexit | hts⟩ := hleads
  · obtain ⟨hinvariant, harrived, hhandled⟩ := run_threads h ts
    obtain ⟨_, _, hwaiting⟩ := hinvariant.orderly.stop .exit hexit
    have hlength := hhandled.length_le
    rw [harrived] at hwaiting
    omega
  · exact ⟨ts, hts⟩

/--
If the queue has room for all frames that have arrived and have not been
handled, they can all be handled.
-/
def Delivers (s : System) : Prop :=
  s.arrived.length ≤ s.handled.length + fifoSize ->
    s.Leads fun s' => s'.handled = s.arrived

theorem Invariant.delivers {s : System} (h : s.Invariant) : s.Delivers := by
  intro hfits
  apply Leads.fits h hfits
  refine h.leads_idle.orExit fun s₁ hidle => ?_
  refine hidle.leads_recv.orExit fun s₂ hrecv => ?_
  refine (hrecv.left.leads_resting hrecv.right).orExit fun s₃ hs₃ => ?_
  have horder := hs₃.left.flow.inOrder
  rw [hs₃.left.arrived] at horder
  exact hs₃.left.leads_handled (Nat.add_sub_cancel' horder.length_le)

/-- Whatever has happened, the two threads do not block each other. -/
theorem after_delivers (memory : Memory) (es : List Event) :
    (after memory es).Delivers :=
  (invariant_after memory es).delivers

end System

end DmaProxy
end Ziggo
