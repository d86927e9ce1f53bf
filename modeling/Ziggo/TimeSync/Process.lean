import Ziggo.Foundation.Machine
import Ziggo.TsnDrivers.PtpTypes

/-!
# The process around the state machines

The state machines run in one process.  They share its heap, the random numbers
of the C library, and the network, and they end when it ends.
-/

namespace Ziggo
namespace TimeSync

open Foundation TsnDrivers

/-!
## Pointers

Every heap object of the modelled functions has one owner, so a pointer can
carry the object that it designates.
-/

inductive Ptr (Object : Type) where
  | null
  | live (object : Object)
  | released
deriving DecidableEq, Inhabited

namespace Ptr

variable {Object : Type}

/-- Reads the object behind a pointer. -/
def deref : Ptr Object -> Except Fault Object
  | live object => .ok object
  | _ => .error .invalidPointer

/-- `free`, which accepts a null pointer but no pointer twice. -/
def free : Ptr Object -> Except Fault (Ptr Object)
  | null => .ok null
  | live _ => .ok released
  | released => .error .invalidPointer

@[simp] theorem deref_live (object : Object) : (live object).deref = .ok object :=
  rfl

@[simp] theorem free_live (object : Object) :
    (live object).free = .ok released :=
  rfl

theorem live_ne_released (object : Object) : live object ≠ released := by
  simp

theorem null_ne_released : (null : Ptr Object) ≠ released := by
  simp

/-- The pointer designates an object. -/
def IsLive (p : Ptr Object) : Prop :=
  exists object, p = live object

theorem isLive_live (object : Object) : (live object).IsLive :=
  ⟨object, rfl⟩

theorem deref_eq_ok {p : Ptr Object} {object : Object} :
    p.deref = .ok object <-> p = live object := by
  cases p <;> simp [deref]

theorem deref_eq_error {p : Ptr Object} {f : Fault} (h : p.deref = .error f) :
    f = .invalidPointer := by
  cases p <;> simp_all [deref]

theorem free_eq_error {p : Ptr Object} {f : Fault} (h : p.free = .error f) :
    p = released ∧ f = .invalidPointer := by
  cases p <;> simp_all [free]

end Ptr

/-!
## Frames
-/

/-- A message on the wire. -/
inductive PTPMsg where
  | pdelayReq (message : PTPMsgPdelayReq)
  | pdelayResp (message : PTPMsgPdelayResp)
  | pdelayRespFollowUp (message : PTPMsgPdelayRespFollowUp)
  | sync (message : PTPMsgSync)
  | followUp (message : PTPMsgFollowUp)
  | announce (message : PTPMsgAnnounce)
deriving DecidableEq

/-- A message together with the port it leaves by. -/
structure Frame where
  port : Port
  message : PTPMsg
deriving DecidableEq

/-!
## Processes
-/

structure Process where
  /-- Why the process ended, if it has ended. -/
  stop : Option Fault
  /-- The frames handed to `send_ptp_frame`, the first one first. -/
  sent : List Frame
  /-- The low 16 bits of the numbers that `rand` has yet to return. -/
  rand : Nat -> UInt16
deriving Inhabited

namespace Process

def sendPtpFrame (p : Process) (port : Port) (message : PTPMsg) : Process :=
  { p with sent := p.sent ++ [{ port := port, message := message }] }

def nextRand (p : Process) : UInt16 :=
  p.rand 0

def dropRand (p : Process) : Process :=
  { p with rand := fun i => p.rand (i + 1) }

def halt (f : Fault) (p : Process) : Process :=
  { p with stop := some f }

@[simp] theorem sendPtpFrame_stop (p : Process) (port : Port)
    (message : PTPMsg) : (p.sendPtpFrame port message).stop = p.stop :=
  rfl

@[simp] theorem sendPtpFrame_sent (p : Process) (port : Port)
    (message : PTPMsg) :
    (p.sendPtpFrame port message).sent =
      p.sent ++ [{ port := port, message := message }] :=
  rfl

@[simp] theorem dropRand_stop (p : Process) : p.dropRand.stop = p.stop :=
  rfl

@[simp] theorem dropRand_sent (p : Process) : p.dropRand.sent = p.sent :=
  rfl

@[simp] theorem halt_stop (f : Fault) (p : Process) :
    (p.halt f).stop = some f :=
  rfl

@[simp] theorem halt_sent (f : Fault) (p : Process) :
    (p.halt f).sent = p.sent :=
  rfl

end Process

end TimeSync
end Ziggo
