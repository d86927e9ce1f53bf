import Mathlib.Algebra.GroupWithZero.Nat
import Mathlib.Logic.Function.Basic
import Ziggo.Foundation.SignedInt

/-!
# The table of switch rules

The functions of `switch_rules.c`.  The table consists of registers of four
octets each, and a rule takes two of them.  Addresses are relative to
`g_base_ptr`, in octets.
-/

namespace Ziggo
namespace TsnDrivers

open Foundation

def nDefaultRule : Nat := 6

def switchTableLen : Nat := 64

/-- The memory behind `g_base_ptr`, and the counter of the registers in use. -/
structure SwitchRules where
  gCounter : Nat
  memory : Nat -> UInt8
  /-- The addresses that have been written, the first one first. -/
  written : List Nat

namespace SwitchRules

/-- `*(ptr) = octet` -/
def store (address : Nat) (octet : UInt8) (s : SwitchRules) : SwitchRules :=
  { s with
    memory := Function.update s.memory address octet
    written := s.written ++ [address] }

/-- Consecutive octets. -/
def storeAll : Nat -> List UInt8 -> SwitchRules -> SwitchRules
  | _, [], s => s
  | address, octet :: octets, s =>
      storeAll (address + 1) octets (s.store address octet)

/-- One pass of the loop of `switch_rule_init`. -/
def clearRegister (s : SwitchRules) (i : Nat) : SwitchRules :=
  s.storeAll (4 * i) [0, 0, 0, 0]

/-- `switch_rule_init`, with what the memory contains before. -/
def switchRuleInit (memory : Nat -> UInt8) : SwitchRules :=
  (List.range' (nDefaultRule * 2) (switchTableLen - nDefaultRule * 2)).foldl
    clearRegister
    { gCounter := nDefaultRule * 2
      memory := memory
      written := [] }

end SwitchRules

instance neZero_macAddr : NeZero 6 := ⟨by decide⟩

/-- The arguments of `push_switch_rule`. -/
structure SwitchRule where
  macAddr : Fin 6 -> UInt8
  outputPort : Int32

namespace SwitchRule

/-- `output_port_byte`, if the port is known. -/
def outputPortByte (outputPort : Int32) : Option UInt8 :=
  if outputPort = 0 then some 0x01
  else if outputPort = 1 then some 0x04
  else if outputPort = 2 then some 0x10
  else if outputPort = 3 then some 0x40
  else if outputPort = 4 then some 0x08
  else if outputPort = 5 then some 0x20
  else none

/-- The octets of a rule, in the order of their addresses. -/
def octets (macAddr : Fin 6 -> UInt8) (portByte : UInt8) : List UInt8 :=
  [macAddr 2, macAddr 3, macAddr 4, macAddr 5,
    portByte, 0x0, macAddr 0, macAddr 1]

end SwitchRule

namespace SwitchRules

/-- `push_switch_rule`, whose result is 1 for an unknown port. -/
def pushSwitchRule (rule : SwitchRule) (s : SwitchRules) :
    Except Fault (Int32 × SwitchRules) :=
  match SwitchRule.outputPortByte rule.outputPort with
  | none => .ok (1, s)
  | some portByte => do
      let gCounter <- checkInt (s.gCounter + 2)
      return (0,
        { s.storeAll (4 * s.gCounter)
            (SwitchRule.octets rule.macAddr portByte) with
          gCounter := gCounter.toNat })

/-- The results of a sequence of calls. -/
def pushAll : List SwitchRule -> SwitchRules ->
    Except Fault (List Int32 × SwitchRules)
  | [], s => .ok ([], s)
  | rule :: rules, s => do
      let (result, s) <- pushSwitchRule rule s
      let (results, s) <- pushAll rules s
      return (result :: results, s)

end SwitchRules

end TsnDrivers
end Ziggo
