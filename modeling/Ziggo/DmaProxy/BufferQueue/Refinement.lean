import Mathlib.Data.List.Forall2
import Ziggo.DmaProxy.BufferQueue
import Ziggo.Foundation.RingBuffer
import Ziggo.Foundation.Runs

/-!
# The queue as a queue of byte strings

The functions of the queue serve a bounded queue of byte strings as far as the
bytes are concerned.  The length that `pop_queue` returns is the one in the
slot behind the string, and the module determines the sequences of calls in
which that makes no difference.
-/

namespace Ziggo
namespace DmaProxy

open Foundation

/-!
## Calls
-/

inductive Call where
  | push (buf : List UInt8) (len : Int32)
  | pop (buf : List UInt8)

/-- The queue, and what the calls of `pop_queue` have stored so far. -/
structure Session where
  queue : BufferQueue
  popped : List Popped

namespace Session

def step (s : Session) : Call -> Except Fault Session
  | .push buf len => do
      let queue <- pushQueue s.queue buf len
      return { s with queue := queue }
  | .pop buf => do
      let (queue, popped) <- popQueue s.queue buf
      return { queue := queue, popped := s.popped ++ [popped] }

/-- The calls after a call of `init_queue`. -/
def run (blocks : Blocks) (calls : List Call) : Except Fault Session :=
  calls.foldlM step { queue := initQueue blocks, popped := [] }

theorem run_concat (blocks : Blocks) (calls : List Call) (c : Call) :
    run blocks (calls ++ [c]) = (run blocks calls >>= fun s => s.step c) := by
  unfold run
  rw [List.foldlM_append]
  congr 1
  funext s
  rw [List.foldlM_cons]
  cases s.step c <;> rfl

end Session

/-- The byte string that a call hands over. -/
def bytes (buf : List UInt8) (len : Int32) : List UInt8 :=
  buf.take len.toInt.toNat

/-- The byte strings that have been pushed, the first one first. -/
def pushed (calls : List Call) : List (List UInt8) :=
  calls.filterMap fun c =>
    match c with
    | .push buf len => some (bytes buf len)
    | .pop _ => none

/-- The number of strings that have been popped. -/
def pops (calls : List Call) : Nat :=
  calls.countP fun c =>
    match c with
    | .push _ _ => false
    | .pop _ => true

/-!
## The bounded queue
-/

namespace Fifo

/-- The byte strings in the queue. -/
def step (contents : List (List UInt8)) : Call -> List (List UInt8)
  | .push buf len => contents ++ [bytes buf len]
  | .pop _ => contents.tail

/--
What the functions check, and memory that is large enough: the source of a
string holds it, and the destination has the size of a packet.
-/
def Allowed (contents : List (List UInt8)) : Call -> Prop
  | .push buf len =>
      contents.length < fifoSize ∧ 0 ≤ len ∧ len ≤ maxPktLen ∧
        len.toInt.toNat ≤ buf.length
  | .pop buf => contents ≠ [] ∧ maxPktLen.toInt.toNat ≤ buf.length

/-- A call of `pop_queue` has stored a byte string and its length. -/
structure Yields (string : List UInt8) (popped : Popped) : Prop where
  bytes : popped.buf.take string.length = string
  length : popped.len.toInt = string.length

end Fifo

/-- Every call of `pop_queue` yields what the call of its number has pushed. -/
def Faithful (blocks : Blocks) (calls : List Call) : Prop :=
  exists s, Session.run blocks calls = .ok s ∧
    List.Forall₂ Fifo.Yields ((pushed calls).take (pops calls)) s.popped

/-!
## Memory
-/

theorem memcpy_ok {dest src : List UInt8} {len : Int32} (hlen : 0 ≤ len)
    (hsrc : len.toInt.toNat ≤ src.length)
    (hdest : len.toInt.toNat ≤ dest.length) :
    memcpy dest src len =
      .ok (src.take len.toInt.toNat ++ dest.drop len.toInt.toNat) := by
  have hvalid : ¬ (len < 0 ∨ src.length < len.toInt.toNat ∨
      dest.length < len.toInt.toNat) := by
    rintro (hneg | hshort | hshort)
    · exact absurd hneg (Int32.not_lt.mpr hlen)
    · omega
    · omega
  exact if_neg hvalid

/-- The lengths are those of packets, and the blocks have room for them. -/
structure Intact (queue : BufferQueue) : Prop where
  nonneg : forall i, 0 ≤ queue.lenArray i
  le : forall i, queue.lenArray i ≤ maxPktLen
  block : forall i,
    (queue.bufArray i).length = maxPktLen.toInt.toNat + 1

theorem toNat_le_maxPktLen {len : Int32} (h : len ≤ maxPktLen) :
    len.toInt.toNat ≤ maxPktLen.toInt.toNat :=
  Int.toNat_le_toNat (Int32.le_iff_toInt_le.mp h)

theorem intact_initQueue (blocks : Blocks) : Intact (initQueue blocks) where
  nonneg _ := Int32.le_refl 0
  le _ := by
    change (0 : Int32) ≤ maxPktLen
    decide
  block := blocks.length_octets

/-- The strings in the slots, with the indices of the queue. -/
def ring (queue : BufferQueue) : Ring (List UInt8) fifoSize where
  front := queue.front
  rear := queue.rear
  size := queue.size
  slots i := bytes (queue.bufArray i) (queue.lenArray i)

theorem ring_initQueue (blocks : Blocks) :
    ring (initQueue blocks) = Ring.empty fun _ => [] :=
  rfl

theorem Intact.length_slots {queue : BufferQueue} (h : Intact queue)
    (i : Fin fifoSize) :
    ((ring queue).slots i).length = (queue.lenArray i).toInt.toNat := by
  have hle := toNat_le_maxPktLen (h.le i)
  have hblock := h.block i
  change ((queue.bufArray i).take (queue.lenArray i).toInt.toNat).length = _
  rw [List.length_take]
  omega

section Calls

variable {queue : BufferQueue} {buf : List UInt8} {len : Int32}

theorem pushQueue_ok (h : Intact queue) (hroom : queue.size < fifoSize)
    (hnonneg : 0 ≤ len) (hle : len ≤ maxPktLen)
    (hbuf : len.toInt.toNat ≤ buf.length) :
    exists queue', pushQueue queue buf len = .ok queue' ∧ Intact queue' ∧
      ring queue' = (ring queue).push (bytes buf len) := by
  have hlen := toNat_le_maxPktLen hle
  have hblock := h.block queue.rear
  have hcopy := @memcpy_ok (queue.bufArray queue.rear) buf len hnonneg hbuf
    (by omega)
  unfold pushQueue
  rw [if_neg (Nat.not_le.mpr hroom), if_neg (Int32.not_lt.mpr hle), hcopy]
  refine ⟨_, rfl, ?_, ?_⟩
  · constructor
    case nonneg =>
      exact (Function.forall_update_iff _ fun _ l => 0 ≤ l).mpr
        ⟨hnonneg, fun i _ => h.nonneg i⟩
    case le =>
      exact (Function.forall_update_iff _ fun _ l => l ≤ maxPktLen).mpr
        ⟨hle, fun i _ => h.le i⟩
    case block =>
      refine (Function.forall_update_iff _ fun _ block =>
        List.length block = _).mpr ⟨?_, fun i _ => h.block i⟩
      rw [List.length_append, List.length_take, List.length_drop]
      omega
  · -- The block begins with the string.
    have hbytes : bytes (bytes buf len ++
        (queue.bufArray queue.rear).drop len.toInt.toNat) len =
        bytes buf len := by
      unfold bytes
      rw [List.take_left' (by rw [List.length_take]; omega)]
    unfold ring Ring.push
    congr 1
    funext i
    dsimp only
    by_cases hi : i = queue.rear
    · subst hi
      rw [Function.update_self, Function.update_self, Function.update_self]
      exact hbytes
    · rw [Function.update_of_ne hi, Function.update_of_ne hi,
        Function.update_of_ne hi]

/-- The call stores the string of its slot and the length of the next slot. -/
theorem popQueue_ok (h : Intact queue) (hsome : 0 < queue.size)
    (hbuf : maxPktLen.toInt.toNat ≤ buf.length) :
    exists queue' popped, popQueue queue buf = .ok (queue', popped) ∧
      Intact queue' ∧ ring queue' = (ring queue).pop ∧
      popped.buf = (ring queue).slots queue.front ++
        buf.drop ((ring queue).slots queue.front).length ∧
      popped.len.toInt = ((ring queue).slots (queue.front + 1)).length := by
  have hle := toNat_le_maxPktLen (h.le queue.front)
  have hblock := h.block queue.front
  have hcopy := @memcpy_ok buf (queue.bufArray queue.front)
    (queue.lenArray queue.front) (h.nonneg queue.front) (by omega) (by omega)
  unfold popQueue
  rw [if_neg (Nat.ne_of_gt hsome), hcopy]
  refine ⟨_, _, rfl, ⟨h.nonneg, h.le, h.block⟩, rfl, ?_, ?_⟩
  · rw [h.length_slots]
    rfl
  · rw [h.length_slots]
    exact (Int.toNat_of_nonneg
      (Int32.le_iff_toInt_le.mp (h.nonneg (queue.front + 1)))).symm

end Calls

/-!
## Sessions
-/

section Counters

variable (calls : List Call) (buf : List UInt8) (len : Int32)

@[simp] theorem pushed_push :
    pushed (calls ++ [.push buf len]) = pushed calls ++ [bytes buf len] := by
  simp [pushed]

@[simp] theorem pushed_pop : pushed (calls ++ [.pop buf]) = pushed calls := by
  simp [pushed]

@[simp] theorem pops_push : pops (calls ++ [.push buf len]) = pops calls := by
  simp [pops]

@[simp] theorem pops_pop : pops (calls ++ [.pop buf]) = pops calls + 1 := by
  simp [pops]

end Counters

/-- The queue holds the strings that have been pushed and not yet popped. -/
structure Serves (calls : List Call) (s : Session) : Prop where
  intact : Intact s.queue
  holds : Ring.Holds (fun _ => []) (pushed calls) (pops calls) (ring s.queue)
  popped : s.popped.length = pops calls

/-- The strings in the bounded queue. -/
def contents (calls : List Call) : List (List UInt8) :=
  runEvents Fifo.step [] calls

/-- Allowed calls do not fail, and the bounded queue holds the same strings. -/
structure Simulates (blocks : Blocks) (calls : List Call)
    (strings : List (List UInt8)) : Prop where
  serves : exists s, Session.run blocks calls = .ok s ∧ Serves calls s
  strings : strings = (pushed calls).drop (pops calls)

section Steps

variable {blocks : Blocks} {calls : List Call} {strings : List (List UInt8)}

theorem Serves.size {s : Session} (h : Serves calls s) :
    ((pushed calls).drop (pops calls)).length = s.queue.size := by
  have hsize : pops calls + s.queue.size = (pushed calls).length :=
    h.holds.size
  rw [List.length_drop]
  omega

theorem simulates_push {buf : List UInt8} {len : Int32}
    (h : Simulates blocks calls strings)
    (hallowed : Fifo.Allowed strings (.push buf len)) :
    Simulates blocks (calls ++ [.push buf len])
      (Fifo.step strings (.push buf len)) := by
  obtain ⟨s, hrun, hserves⟩ := h.serves
  obtain ⟨hroom, hnonneg, hle, hbuf⟩ := hallowed
  rw [h.strings, hserves.size] at hroom
  obtain ⟨queue, hpush, hintact, hring⟩ :=
    pushQueue_ok hserves.intact hroom hnonneg hle hbuf
  constructor
  case serves =>
    refine ⟨{ s with queue := queue }, ?_, ?_⟩
    · rw [Session.run_concat]
      exact bind_eq_ok.mpr ⟨s, hrun, bind_eq_ok.mpr ⟨queue, hpush, rfl⟩⟩
    · constructor
      case intact => exact hintact
      case holds =>
        rw [pushed_push, pops_push]
        change Ring.Holds _ _ _ (ring queue)
        rw [hring]
        exact hserves.holds.push hroom (bytes buf len)
      case popped =>
        rw [pops_push]
        exact hserves.popped
  case strings =>
    have hsize : pops calls + s.queue.size = (pushed calls).length :=
      hserves.holds.size
    rw [pushed_push, pops_push, List.drop_append_of_le_length (by omega),
      ← h.strings]
    rfl

theorem serves_pop {s : Session} {buf : List UInt8} (h : Serves calls s)
    (hsome : (pushed calls).drop (pops calls) ≠ [])
    (hbuf : maxPktLen.toInt.toNat ≤ buf.length) :
    exists (s' : Session) (string : List UInt8) (popped : Popped),
      s.step (.pop buf) = .ok s' ∧
      Serves (calls ++ [.pop buf]) s' ∧
      s'.popped = s.popped ++ [popped] ∧
      (pushed calls)[pops calls]? = some string ∧
      popped.buf = string ++ buf.drop string.length ∧
      popped.len.toInt =
        (Ring.behind (fun _ : Fin fifoSize => []) (pushed calls)
          (pops calls)).length := by
  have hpos : 0 < s.queue.size := by
    rw [← h.size]
    exact List.length_pos_iff.mpr hsome
  obtain ⟨queue, popped, hpop, hintact, hring, hbytes, hlength⟩ :=
    popQueue_ok h.intact hpos hbuf
  obtain ⟨hread, hfirst⟩ := h.holds.first hpos
  have hsecond := h.holds.second hpos
  change (ring s.queue).slots s.queue.front = _ at hfirst
  change (ring s.queue).slots (s.queue.front + 1) = _ at hsecond
  rw [hfirst] at hbytes
  rw [hsecond] at hlength
  refine ⟨{ queue := queue, popped := s.popped ++ [popped] },
    (pushed calls)[pops calls], popped, bind_eq_ok.mpr ⟨_, hpop, rfl⟩, ?_, rfl,
    List.getElem?_eq_getElem hread, hbytes, hlength⟩
  constructor
  case intact => exact hintact
  case holds =>
    rw [pushed_pop, pops_pop]
    change Ring.Holds _ _ _ (ring queue)
    rw [hring]
    exact h.holds.pop hpos
  case popped =>
    rw [pops_pop, ← h.popped]
    exact List.length_append

theorem simulates_pop {buf : List UInt8} (h : Simulates blocks calls strings)
    (hallowed : Fifo.Allowed strings (.pop buf)) :
    Simulates blocks (calls ++ [.pop buf])
      (Fifo.step strings (.pop buf)) := by
  obtain ⟨s, hrun, hserves⟩ := h.serves
  obtain ⟨hsome, hbuf⟩ := hallowed
  rw [h.strings] at hsome
  obtain ⟨s', _, _, hstep, hserves', _⟩ := serves_pop hserves hsome hbuf
  constructor
  case serves =>
    refine ⟨s', ?_, hserves'⟩
    rw [Session.run_concat]
    exact bind_eq_ok.mpr ⟨s, hrun, hstep⟩
  case strings =>
    rw [pushed_pop, pops_pop, ← List.tail_drop, ← h.strings]
    rfl

/-- The queue simulates the bounded queue along every allowed sequence. -/
theorem simulates_run (blocks : Blocks)
    (h : Along Fifo.step Fifo.Allowed [] calls) :
    Simulates blocks calls (contents calls) := by
  refine history_invariant ?_ (fun history c hsimulates hallowed => ?_) h
  · exact ⟨⟨_, rfl, intact_initQueue blocks, Ring.holds_empty _, rfl⟩, rfl⟩
  · cases c with
    | push buf len => exact simulates_push hsimulates hallowed
    | pop buf => exact simulates_pop hsimulates hallowed

end Steps

/-!
## Lengths
-/

/--
Whenever a string is popped, the slot behind it holds a string of its length:
the string that has been pushed next, else the one that was pushed 63 strings
before it, else none, which counts as the empty string.
-/
def EqualBehind (calls : List Call) : Prop :=
  forall before buf rest, calls = before ++ .pop buf :: rest ->
    forall string, (pushed before)[pops before]? = some string ->
      (Ring.behind (fun _ : Fin fifoSize => []) (pushed before)
        (pops before)).length = string.length

theorem equalBehind_concat {calls : List Call} {c : Call} :
    EqualBehind (calls ++ [c]) <->
      EqualBehind calls ∧ forall buf, c = .pop buf ->
        forall string, (pushed calls)[pops calls]? = some string ->
          (Ring.behind (fun _ : Fin fifoSize => []) (pushed calls)
            (pops calls)).length = string.length := by
  constructor
  · intro h
    refine ⟨fun before buf rest hcalls => ?_, fun buf hc => ?_⟩
    · apply h before buf (rest ++ [c])
      rw [hcalls]
      simp
    · apply h calls buf []
      rw [hc]
  · rintro ⟨hcalls, hlast⟩ before buf rest heq
    rcases List.eq_nil_or_concat rest with rfl | ⟨rest, d, rfl⟩
    · obtain ⟨rfl, hc⟩ := List.append_inj' heq rfl
      exact hlast buf (List.head_eq_of_cons_eq hc)
    · rw [List.concat_eq_append, ← List.cons_append, ← List.append_assoc] at heq
      exact hcalls before buf rest (List.append_inj' heq rfl).left

theorem forall₂_concat {α β : Type} {R : α -> β -> Prop} {as : List α}
    {bs : List β} {a : α} {b : β} :
    List.Forall₂ R (as ++ [a]) (bs ++ [b]) <-> List.Forall₂ R as bs ∧ R a b := by
  rw [← List.forall₂_reverse_iff, List.reverse_concat, List.reverse_concat,
    List.forall₂_cons, List.forall₂_reverse_iff, and_comm]

theorem yields_iff {string buf : List UInt8} {popped : Popped}
    (hbuf : popped.buf = string ++ buf.drop string.length) :
    Fifo.Yields string popped <-> popped.len.toInt = string.length := by
  constructor
  · intro h
    exact h.length
  · intro h
    refine ⟨?_, h⟩
    rw [hbuf, List.take_left]

section Lengths

variable {blocks : Blocks} {calls : List Call}

theorem faithful_of_run {s : Session} (h : Session.run blocks calls = .ok s) :
    Faithful blocks calls <->
      List.Forall₂ Fifo.Yields ((pushed calls).take (pops calls)) s.popped := by
  constructor
  · rintro ⟨s', hrun, hyields⟩
    rw [h] at hrun
    cases hrun
    exact hyields
  · intro hyields
    exact ⟨s, h, hyields⟩

theorem faithful_push {buf : List UInt8} {len : Int32}
    (h : Along Fifo.step Fifo.Allowed [] (calls ++ [.push buf len])) :
    Faithful blocks (calls ++ [.push buf len]) <-> Faithful blocks calls := by
  obtain ⟨s, hrun, hserves⟩ := (simulates_run blocks h.init).serves
  obtain ⟨s', hrun', _⟩ := (simulates_run blocks h).serves
  have hstep := hrun'
  rw [Session.run_concat] at hstep
  obtain ⟨_, hrun'', hpush⟩ := bind_eq_ok.mp hstep
  rw [hrun] at hrun''
  cases hrun''
  obtain ⟨queue, _, hreturn⟩ := bind_eq_ok.mp hpush
  cases hreturn
  have hsize : pops calls + s.queue.size = (pushed calls).length :=
    hserves.holds.size
  rw [faithful_of_run hrun, faithful_of_run hrun', pushed_push, pops_push,
    List.take_append_of_le_length (by omega)]

theorem faithful_pop {buf : List UInt8}
    (h : Along Fifo.step Fifo.Allowed [] (calls ++ [.pop buf])) :
    Faithful blocks (calls ++ [.pop buf]) <->
      Faithful blocks calls ∧
        forall string, (pushed calls)[pops calls]? = some string ->
          (Ring.behind (fun _ : Fin fifoSize => []) (pushed calls)
            (pops calls)).length = string.length := by
  have hsimulates := simulates_run blocks h.init
  obtain ⟨s, hrun, hserves⟩ := hsimulates.serves
  obtain ⟨hsome, hbuf⟩ : Fifo.Allowed (contents calls) (.pop buf) := h.last
  rw [hsimulates.strings] at hsome
  obtain ⟨s', string, popped, hstep, _, hpopped, hfirst, hbytes, hlength⟩ :=
    serves_pop hserves hsome hbuf
  have hrun' : Session.run blocks (calls ++ [.pop buf]) = .ok s' := by
    rw [Session.run_concat]
    exact bind_eq_ok.mpr ⟨s, hrun, hstep⟩
  have htake : (pushed calls).take (pops calls + 1) =
      (pushed calls).take (pops calls) ++ [string] := by
    rw [List.take_add_one, hfirst]
    rfl
  rw [faithful_of_run hrun, faithful_of_run hrun', pushed_pop, pops_pop, htake,
    hpopped, forall₂_concat, yields_iff hbytes, hlength, Int.natCast_inj,
    hfirst]
  simp

/--
An allowed sequence of calls is served like a queue of byte strings exactly if
the string behind each popped one has its length.
-/
theorem faithful_iff (blocks : Blocks) (calls : List Call)
    (h : Along Fifo.step Fifo.Allowed [] calls) :
    Faithful blocks calls <-> EqualBehind calls := by
  induction calls using List.reverseRecOn with
  | nil =>
      refine iff_of_true ⟨_, rfl, List.Forall₂.nil⟩ ?_
      intro before buf rest hnil
      cases before <;> cases hnil
  | append_singleton calls c ih =>
      rw [equalBehind_concat]
      cases c with
      | push buf len =>
          rw [faithful_push h, ih h.init]
          simp
      | pop buf =>
          rw [faithful_pop h, ih h.init]
          simp

end Lengths

/-!
## One packet
-/

section Packet

variable {packet : List UInt8} (h : packet.length = 1600)

include h

theorem bytes_packet : bytes packet 1600 = packet :=
  List.take_of_length_le (Nat.le_of_eq h)

theorem allowed_packet :
    Along Fifo.step Fifo.Allowed [] [.push packet 1600, .pop packet] := by
  have hpush : Fifo.Allowed [] (.push packet 1600) := by
    refine ⟨by decide, by decide, by decide, ?_⟩
    rw [h]
    decide
  have hpop : Fifo.Allowed [bytes packet 1600] (.pop packet) := by
    refine ⟨by simp, ?_⟩
    rw [h]
    decide
  exact along_cons.mpr ⟨hpush, along_cons.mpr ⟨hpop, along_nil _ _⟩⟩

theorem packet_not_faithful (blocks : Blocks) :
    ¬ Faithful blocks [.push packet 1600, .pop packet] := by
  intro hfaithful
  have hpop := (@faithful_pop blocks [.push packet 1600] packet
    (allowed_packet h)).mp hfaithful
  have hlength : 0 = (bytes packet 1600).length :=
    hpop.right (bytes packet 1600) rfl
  rw [bytes_packet h, h] at hlength
  cases hlength

end Packet

def zeroBlocks : Blocks where
  octets _ := List.replicate 1601 0
  length_octets _ := List.length_replicate

/-- The length of the first packet is returned as zero. -/
theorem firstPacket_not_faithful :
    ¬ forall calls, Along Fifo.step Fifo.Allowed [] calls ->
      Faithful zeroBlocks calls := by
  intro h
  have hlength : (List.replicate 1600 (0 : UInt8)).length = 1600 :=
    List.length_replicate
  exact packet_not_faithful hlength zeroBlocks
    (h _ (allowed_packet hlength))

theorem faithful_iff_firstPacket :
    Faithful zeroBlocks [.push (List.replicate 1600 0) 1600,
        .pop (List.replicate 1600 0)] <->
      EqualBehind [.push (List.replicate 1600 0) 1600,
        .pop (List.replicate 1600 0)] :=
  faithful_iff zeroBlocks _ (allowed_packet List.length_replicate)

end DmaProxy
end Ziggo
