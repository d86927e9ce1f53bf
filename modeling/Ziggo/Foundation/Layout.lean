import Mathlib.Data.List.OfFn
import Mathlib.Data.UInt
import Mathlib.Logic.Equiv.Defs

/-!
# Values in memory

A C program moves a packed structure over a network by casting a pointer to a
buffer of octets.  A layout says which octets a value of a type occupies and
which value a run of octets is read as.  Integers lie in memory with the least
significant octet first.
-/

namespace Ziggo
namespace Foundation

/-!
## Octets of a number
-/

/-- The least significant octets of a number, in the order of memory. -/
def octets : Nat -> Nat -> List UInt8
  | 0, _ => []
  | count + 1, value => UInt8.ofNat value :: octets count (value / 256)

/-- The number that the first octets of a memory represent. -/
def number : Nat -> List UInt8 -> Nat
  | 0, _ => 0
  | _ + 1, [] => 0
  | count + 1, octet :: memory => octet.toNat + 256 * number count memory

theorem length_octets (count value : Nat) :
    (octets count value).length = count := by
  induction count generalizing value with
  | zero => rfl
  | succ count ih => rw [octets, List.length_cons, ih]

theorem number_octets (count value : Nat) (rest : List UInt8) :
    number count (octets count value ++ rest) = value % 256 ^ count := by
  induction count generalizing value with
  | zero =>
      rw [pow_zero, Nat.mod_one]
      rfl
  | succ count ih =>
      rw [octets, List.cons_append, number, ih, pow_succ', Nat.mod_mul]
      rfl

theorem number_lt (count : Nat) (memory : List UInt8) :
    number count memory < 256 ^ count := by
  induction count generalizing memory with
  | zero => exact Nat.one_pos
  | succ count ih =>
      cases memory with
      | nil => exact Nat.pow_pos (by decide)
      | cons octet memory =>
          have hoctet : octet.toNat < 256 := UInt8.toNat_lt octet
          have hrest : number count memory < 256 ^ count := ih memory
          rw [number, pow_succ']
          omega

theorem octets_number (memory : List UInt8) :
    octets memory.length (number memory.length memory) = memory := by
  induction memory with
  | nil => rfl
  | cons octet memory ih =>
      have hoctet : octet.toNat < 256 := UInt8.toNat_lt octet
      have hlow : UInt8.ofNat
          (octet.toNat + 256 * number memory.length memory) = octet := by
        apply UInt8.toNat_inj.mp
        rw [UInt8.toNat_ofNat']
        omega
      have hhigh : (octet.toNat + 256 * number memory.length memory) / 256 =
          number memory.length memory := by
        omega
      rw [List.length_cons, number, octets, hlow, hhigh, ih]

/-!
## Layouts
-/

/-- The representation of a type in memory. -/
structure Layout (α : Type) where
  /-- `sizeof` -/
  size : Nat
  store : α -> List UInt8
  load : List UInt8 -> α
  length_store : forall x, (store x).length = size
  load_store : forall x rest, load (store x ++ rest) = x
  store_load : forall memory, memory.length = size ->
    store (load memory) = memory

namespace Layout

section Combinators

variable {α β : Type}

theorem load_store_self (l : Layout α) (x : α) : l.load (l.store x) = x := by
  have h : l.load (l.store x ++ []) = x := l.load_store x []
  rwa [List.append_nil] at h

theorem drop_store (l : Layout α) (x : α) (rest : List UInt8) :
    (l.store x ++ rest).drop l.size = rest := by
  rw [← l.length_store x]
  exact List.drop_left

theorem load_take (l : Layout α) {memory : List UInt8}
    (h : l.size ≤ memory.length) :
    l.load (memory.take l.size) = l.load memory := by
  have hlength : (memory.take l.size).length = l.size := by
    rw [List.length_take]
    exact min_eq_left h
  conv_rhs =>
    rw [← List.take_append_drop l.size memory, ← l.store_load _ hlength,
      l.load_store]

theorem load_append (l : Layout α) {memory : List UInt8}
    (h : l.size ≤ memory.length) (rest : List UInt8) :
    l.load (memory ++ rest) = l.load memory := by
  have hle : l.size ≤ (memory ++ rest).length := by
    rw [List.length_append]
    exact Nat.le_add_right_of_le h
  rw [← l.load_take hle, List.take_append_of_le_length h, l.load_take h]

def octet : Layout UInt8 where
  size := 1
  store x := [x]
  load memory := memory.headD 0
  length_store _ := rfl
  load_store _ _ := rfl
  store_load memory h := by
    cases memory with
    | nil => cases h
    | cons x memory =>
        cases memory with
        | nil => rfl
        | cons y memory => cases h

/-- An unsigned integer of a number of octets. -/
def integer (size : Nat) (toNat : α -> Nat) (ofNat : Nat -> α)
    (toNat_lt : forall x, toNat x < 256 ^ size)
    (ofNat_toNat : forall x, ofNat (toNat x) = x)
    (toNat_ofNat : forall n, n < 256 ^ size -> toNat (ofNat n) = n) :
    Layout α where
  size := size
  store x := octets size (toNat x)
  load memory := ofNat (number size memory)
  length_store x := length_octets size (toNat x)
  load_store x rest := by
    rw [number_octets, Nat.mod_eq_of_lt (toNat_lt x), ofNat_toNat]
  store_load memory h := by
    subst h
    rw [toNat_ofNat _ (number_lt _ _), octets_number]

def word : Layout UInt16 :=
  integer 2 UInt16.toNat UInt16.ofNat UInt16.toNat_lt
    (fun _ => UInt16.ofNat_toNat) (fun _ h => UInt16.toNat_ofNat_of_lt h)

def dword : Layout UInt32 :=
  integer 4 UInt32.toNat UInt32.ofNat UInt32.toNat_lt
    (fun _ => UInt32.ofNat_toNat) (fun _ h => UInt32.toNat_ofNat_of_lt h)

def qword : Layout UInt64 :=
  integer 8 UInt64.toNat UInt64.ofNat UInt64.toNat_lt
    (fun _ => UInt64.ofNat_toNat) (fun _ h => UInt64.toNat_ofNat_of_lt h)

/-- The same memory, read as another type. -/
def iso (e : α ≃ β) (l : Layout α) : Layout β where
  size := l.size
  store x := l.store (e.symm x)
  load memory := e (l.load memory)
  length_store x := l.length_store (e.symm x)
  load_store x rest := by rw [l.load_store, e.apply_symm_apply]
  store_load memory h := by rw [e.symm_apply_apply, l.store_load memory h]

/-- Two values without padding between them. -/
def pair (l : Layout α) (r : Layout β) : Layout (α × β) where
  size := l.size + r.size
  store x := l.store x.1 ++ r.store x.2
  load memory := (l.load memory, r.load (memory.drop l.size))
  length_store x := by
    rw [List.length_append, l.length_store, r.length_store]
  load_store x rest := by
    rw [List.append_assoc, l.load_store, l.drop_store, r.load_store]
  store_load memory h := by
    have hleft : (memory.take l.size).length = l.size := by
      rw [List.length_take]
      omega
    have hright : (memory.drop l.size).length = r.size := by
      rw [List.length_drop]
      omega
    rw [← l.load_take (by omega), l.store_load _ hleft, r.store_load _ hright,
      List.take_append_drop]

/-- Memory that agrees with a pair up to an octet of its second component. -/
theorem load_take_store_pair (l : Layout α) (r : Layout β) (x : α × β)
    (count : Nat) (rest : List UInt8) :
    (l.pair r).load (((l.pair r).store x).take (l.size + count) ++ rest) =
      (x.1, r.load ((r.store x.2).take count ++ rest)) := by
  have htake : ((l.pair r).store x).take (l.size + count) =
      l.store x.1 ++ (r.store x.2).take count := by
    change (l.store x.1 ++ r.store x.2).take (l.size + count) = _
    rw [← l.length_store x.1, List.take_length_add_append]
  rw [htake, List.append_assoc]
  change (l.load _, r.load (List.drop l.size _)) = _
  rw [l.load_store, l.drop_store]

/-- An array, the element of index zero first. -/
def array (n : Nat) (l : Layout α) : Layout (Fin n -> α) where
  size := n * l.size
  store x := (List.ofFn fun i => l.store (x i)).flatten
  load memory i := l.load (memory.drop (i * l.size))
  length_store x := by
    induction n with
    | zero => exact (Nat.zero_mul _).symm
    | succ n ih =>
        rw [List.ofFn_succ, List.flatten_cons, List.length_append,
          l.length_store, ih fun i => x i.succ, Nat.succ_mul, Nat.add_comm]
  load_store x rest := by
    induction n with
    | zero => exact funext fun i => i.elim0
    | succ n ih =>
        funext i
        rw [List.ofFn_succ, List.flatten_cons, List.append_assoc]
        cases i using Fin.cases with
        | zero =>
            rw [Fin.val_zero, Nat.zero_mul, List.drop_zero, l.load_store]
        | succ i =>
            rw [Fin.val_succ, Nat.succ_mul, Nat.add_comm, ← List.drop_drop,
              l.drop_store]
            exact congrFun (ih fun i => x i.succ) i
  store_load memory h := by
    induction n generalizing memory with
    | zero =>
        rw [Nat.zero_mul] at h
        exact (List.length_eq_zero_iff.mp h).symm
    | succ n ih =>
        have hhead : l.store (l.load memory) = memory.take l.size := by
          rw [← l.load_take (by rw [h]; exact Nat.le_mul_of_pos_left _ n.succ_pos)]
          exact l.store_load _ (by
            rw [List.length_take, h]
            exact min_eq_left (Nat.le_mul_of_pos_left _ n.succ_pos))
        have hrest : (memory.drop l.size).length = n * l.size := by
          rw [List.length_drop, h, Nat.succ_mul, Nat.add_sub_cancel]
        have htail := ih (memory.drop l.size) hrest
        simp only [List.drop_drop] at htail
        rw [List.ofFn_succ, List.flatten_cons]
        simp only [Fin.val_zero, Nat.zero_mul, List.drop_zero, Fin.val_succ,
          Nat.succ_mul]
        rw [hhead]
        simp only [Nat.add_comm l.size] at htail
        rw [htail, List.take_append_drop]

end Combinators

/-!
## Signed integers
-/

def signedOctet : Layout Int8 :=
  octet.iso ⟨UInt8.toInt8, Int8.toUInt8, fun _ => rfl, fun _ => rfl⟩

def signedWord : Layout Int16 :=
  word.iso ⟨UInt16.toInt16, Int16.toUInt16, fun _ => rfl, fun _ => rfl⟩

def signedDword : Layout Int32 :=
  dword.iso ⟨UInt32.toInt32, Int32.toUInt32, fun _ => rfl, fun _ => rfl⟩

def signedQword : Layout Int64 :=
  qword.iso ⟨UInt64.toInt64, Int64.toUInt64, fun _ => rfl, fun _ => rfl⟩

/-!
## The order of the octets
-/

section Swap

variable {α : Type}

/-- The value whose octets lie in memory in the opposite order. -/
def swap (l : Layout α) (x : α) : α :=
  l.load (l.store x).reverse

theorem store_swap (l : Layout α) (x : α) :
    l.store (l.swap x) = (l.store x).reverse := by
  apply l.store_load
  rw [List.length_reverse, l.length_store]

theorem swap_swap (l : Layout α) (x : α) : l.swap (l.swap x) = x := by
  rw [swap, store_swap, List.reverse_reverse, load_store_self]

/-- The order does not matter exactly for a palindrome. -/
theorem swap_eq_self_iff (l : Layout α) (x : α) :
    l.swap x = x <-> (l.store x).reverse = l.store x := by
  constructor
  · intro h
    rw [← l.store_swap, h]
  · intro h
    rw [swap, h, load_store_self]

/-- A word does not depend on the order if its two octets are equal. -/
theorem swap_word_eq_self_iff (x : UInt16) :
    word.swap x = x <-> x % 256 = x / 256 := by
  have hx : x.toNat < 65536 := UInt16.toNat_lt x
  have hstore : word.store x =
      [UInt8.ofNat x.toNat, UInt8.ofNat (x.toNat / 256)] := rfl
  rw [swap_eq_self_iff, hstore, List.reverse_cons, List.reverse_singleton,
    List.singleton_append, List.cons.injEq, List.cons.injEq,
    ← UInt8.toNat_inj, ← UInt8.toNat_inj, ← UInt16.toNat_inj,
    UInt16.toNat_mod, UInt16.toNat_div, UInt8.toNat_ofNat',
    UInt8.toNat_ofNat']
  change _ <-> x.toNat % 256 = x.toNat / 256
  constructor
  · rintro ⟨h, _⟩
    omega
  · intro h
    exact ⟨by omega, by omega, rfl⟩

end Swap

/-!
## Arrays of octets
-/

theorem load_array_array {n k : Nat} (memory : List UInt8) (i : Fin n)
    (j : Fin k) :
    (array n (array k octet)).load memory i j =
      memory.getD (k * i.val + j.val) 0 := by
  change ((memory.drop (i.val * (k * 1))).drop (j.val * 1)).headD 0 = _
  rw [List.drop_drop, List.headD_eq_head?_getD, List.head?_drop,
    List.getD_eq_getElem?_getD, Nat.mul_one, Nat.mul_one, Nat.mul_comm]

/-- The octets before a position survive a copy of the octets before it. -/
theorem load_take_store_array {n k count : Nat} (x : Fin n -> Fin k -> UInt8)
    (rest : List UInt8) {i : Fin n} {j : Fin k} (h : k * i.val + j.val < count) :
    (array n (array k octet)).load
      (((array n (array k octet)).store x).take count ++ rest) i j =
        x i j := by
  have hall : ((array n (array k octet)).store x).getD (k * i.val + j.val) 0 =
      x i j := by
    rw [← load_array_array, load_store_self]
  have hlength : k * i.val + j.val <
      ((array n (array k octet)).store x).length := by
    rw [length_store]
    calc
      k * i.val + j.val < k * i.val + k := by omega
      _ = (i.val + 1) * k := by rw [Nat.add_mul, Nat.one_mul, Nat.mul_comm]
      _ ≤ n * k := Nat.mul_le_mul_right k i.isLt
      _ = n * (k * 1) := by rw [Nat.mul_one]
  have hcopied : k * i.val + j.val <
      (((array n (array k octet)).store x).take count).length := by
    rw [List.length_take]
    exact lt_min h hlength
  rw [load_array_array, ← hall, List.getD_eq_getElem?_getD,
    List.getD_eq_getElem?_getD, List.getElem?_append_left hcopied,
    List.getElem?_take_of_lt h]

end Layout

end Foundation
end Ziggo
