import Ziggo.Foundation.Machine

/-!
# Registers of the gate-control lists

The functions of `gcl.c` that `apply_gcl` calls.  Each port of the switch has a
control register, sixteen registers for gate states and sixteen for the time
intervals.  Addresses are relative to `base_ptr_gcl`.
-/

namespace Ziggo
namespace TsnDrivers

open Foundation

/-- `*((unsigned *)(base_ptr_gcl + address)) = word` -/
structure RegisterWrite where
  address : Nat
  word : UInt32
deriving DecidableEq, Repr

/-- `PORT_n_GCL_CTRL`, the ports of the interface being counted from one. -/
def gclCtrl (portNumber : UInt16) : Nat :=
  0x150 + 0x44 * (portNumber.toNat - 1)

/-- `PORT_n_GCL_i` -/
def gclData (portNumber : UInt16) (i : Nat) : Nat :=
  0x154 + 0x44 * (portNumber.toNat - 1) + 4 * i

/-- `PORT_n_GCL_TIME_i` -/
def gclTime (portNumber : UInt16) (i : Nat) : Nat :=
  0x2A0 + 0x40 * (portNumber.toNat - 1) + 4 * i

example : gclCtrl 4 = 0x21C ∧ gclData 4 15 = 0x25C ∧ gclTime 4 15 = 0x39C := by
  decide

def gclSetCtrl0 : UInt32 := 0x00

def gclSetRst : UInt32 := 0x02

def gclSetTimeRst : UInt32 := 0x04

/--
The writes that set one entry of a port: the word itself, then zero and the
reset code in the control register.  The tables of registers have sixteen
entries, and a number that no port has is reported and ignored.
-/
def setEntry (register : UInt16 -> Nat -> Nat) (reset : UInt32)
    (portNumber gclId : UInt16) (word : UInt32) :
    Except Fault (List RegisterWrite) :=
  if 1 ≤ portNumber ∧ portNumber ≤ 4 then
    if gclId < 16 then
      .ok [⟨register portNumber gclId.toNat, word⟩,
        ⟨gclCtrl portNumber, gclSetCtrl0⟩,
        ⟨gclCtrl portNumber, reset⟩]
    else
      .error .outOfBounds
  else
    .ok []

def setGcl (portNumber gclId value : UInt16) :
    Except Fault (List RegisterWrite) :=
  setEntry gclData gclSetRst portNumber gclId
    ((gclId.toUInt32 <<< 9) + value.toUInt32)

def setGclTimeInterval (portNumber gclId value : UInt16) :
    Except Fault (List RegisterWrite) :=
  setEntry gclTime gclSetTimeRst portNumber gclId
    ((gclId.toUInt32 <<< 20) + value.toUInt32)

/-!
## The entries of a port
-/

def GateControl (portNumber : UInt16) (address : Nat) : Prop :=
  address = gclCtrl portNumber ∨
    (exists i, i < 16 ∧ address = gclData portNumber i) ∨
    exists i, i < 16 ∧ address = gclTime portNumber i

theorem setEntry_ok {register : UInt16 -> Nat -> Nat} {portNumber : UInt16}
    (hregister : forall i, i < 16 ->
      GateControl portNumber (register portNumber i))
    (reset : UInt32) {gclId : UInt16} (h : gclId < 16) (word : UInt32) :
    exists writes, setEntry register reset portNumber gclId word = .ok writes ∧
      forall w, w ∈ writes -> GateControl portNumber w.address := by
  unfold setEntry
  by_cases hport : 1 ≤ portNumber ∧ portNumber ≤ 4
  · rw [if_pos hport, if_pos h]
    refine ⟨_, rfl, ?_⟩
    intro w hw
    simp only [List.mem_cons, List.not_mem_nil, or_false] at hw
    rcases hw with rfl | rfl | rfl
    · exact hregister gclId.toNat h
    · exact Or.inl rfl
    · exact Or.inl rfl
  · rw [if_neg hport]
    refine ⟨[], rfl, ?_⟩
    intro w hw
    cases hw

theorem setGcl_ok (portNumber : UInt16) {gclId : UInt16} (h : gclId < 16)
    (value : UInt16) :
    exists writes, setGcl portNumber gclId value = .ok writes ∧
      forall w, w ∈ writes -> GateControl portNumber w.address :=
  setEntry_ok (fun i hi => Or.inr (Or.inl ⟨i, hi, rfl⟩)) _ h _

theorem setGclTimeInterval_ok (portNumber : UInt16) {gclId : UInt16}
    (h : gclId < 16) (value : UInt16) :
    exists writes, setGclTimeInterval portNumber gclId value = .ok writes ∧
      forall w, w ∈ writes -> GateControl portNumber w.address :=
  setEntry_ok (fun i hi => Or.inr (Or.inr ⟨i, hi, rfl⟩)) _ h _

end TsnDrivers
end Ziggo
