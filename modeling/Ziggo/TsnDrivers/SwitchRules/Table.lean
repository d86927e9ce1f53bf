import Mathlib.Data.List.Range
import Ziggo.TsnDrivers.SwitchRules

/-!
# The contents of the table

The rules fill the table from the first register behind the default rules on.
The functions do not compare the counter with the size of the table, so that
the module determines the sequences of calls that stay within it.
-/

namespace Ziggo
namespace TsnDrivers

open Foundation

namespace SwitchRules

/-!
## Stores
-/

section Stores

variable (octets : List UInt8) {address a : Nat} {s : SwitchRules}

@[simp] theorem gCounter_storeAll :
    (s.storeAll address octets).gCounter = s.gCounter := by
  induction octets generalizing address s with
  | nil => rfl
  | cons octet octets ih => exact ih

@[simp] theorem written_storeAll :
    (s.storeAll address octets).written =
      s.written ++ List.range' address octets.length := by
  induction octets generalizing address s with
  | nil => exact (List.append_nil _).symm
  | cons octet octets ih =>
      rw [storeAll, ih, List.length_cons, List.range'_succ]
      exact List.append_assoc s.written [address] _

/-- The octets at other addresses stay as they are. -/
theorem memory_storeAll_of_outside
    (h : a < address ∨ address + octets.length ≤ a) :
    (s.storeAll address octets).memory a = s.memory a := by
  induction octets generalizing address s with
  | nil => rfl
  | cons octet octets ih =>
      rw [List.length_cons] at h
      rw [storeAll, ih (by omega)]
      exact Function.update_of_ne (by omega) _ _

theorem memory_storeAll {j : Nat} (h : j < octets.length) :
    (s.storeAll address octets).memory (address + j) = octets[j] := by
  induction octets generalizing address j s with
  | nil => exact absurd h (Nat.not_lt_zero j)
  | cons octet octets ih =>
      rw [storeAll]
      cases j with
      | zero =>
          rw [memory_storeAll_of_outside octets (by omega)]
          exact Function.update_self _ _ _
      | succ j =>
          rw [show address + (j + 1) = address + 1 + j by omega]
          exact ih (Nat.lt_of_succ_lt_succ h)

end Stores

/-!
## Rules in the table
-/

def register (s : SwitchRules) (i : Nat) : List UInt8 :=
  (List.range 4).map fun j => s.memory (4 * i + j)

/-- The two registers of rule `k` describe the rule. -/
def Occupies (rule : SwitchRule) (k : Nat) (s : SwitchRules) : Prop :=
  exists portByte,
    SwitchRule.outputPortByte rule.outputPort = some portByte ∧
    s.register (12 + 2 * k) = [rule.macAddr 2, rule.macAddr 3, rule.macAddr 4,
      rule.macAddr 5] ∧
    s.register (13 + 2 * k) = [portByte, 0, rule.macAddr 0, rule.macAddr 1]

def known (rule : SwitchRule) : Bool :=
  (SwitchRule.outputPortByte rule.outputPort).isSome

/-- The rules whose call has returned zero. -/
def accepted (rules : List SwitchRule) (results : List Int32) :
    List SwitchRule :=
  ((rules.zip results).filter fun call => call.2 = 0).map Prod.fst

/-- The table after rules have been accepted. -/
structure Filled (rules : List SwitchRule) (s : SwitchRules) : Prop where
  counter : s.gCounter = 12 + 2 * rules.length
  lower : forall a, a ∈ s.written -> 48 ≤ a
  upper : forall a, a ∈ s.written -> a < 256 ∨ a < 4 * s.gCounter
  used : forall a, 48 ≤ a -> a < 4 * s.gCounter -> a ∈ s.written
  occupied : forall k rule, rules[k]? = some rule -> Occupies rule k s

theorem register_congr {s s' : SwitchRules} {i : Nat}
    (h : forall j, j < 4 -> s'.memory (4 * i + j) = s.memory (4 * i + j)) :
    s'.register i = s.register i :=
  List.map_congr_left fun j hj => h j (List.mem_range.mp hj)

theorem register_eq {s : SwitchRules} {i : Nat} {a b c d : UInt8}
    (ha : s.memory (4 * i) = a) (hb : s.memory (4 * i + 1) = b)
    (hc : s.memory (4 * i + 2) = c) (hd : s.memory (4 * i + 3) = d) :
    s.register i = [a, b, c, d] := by
  subst ha hb hc hd
  rfl

section Push

variable {rules : List SwitchRule} {rule : SwitchRule} {s : SwitchRules}
  {portByte : UInt8}

/-- The table once a rule has been stored. -/
def stored (rule : SwitchRule) (portByte : UInt8) (s : SwitchRules) :
    SwitchRules :=
  { s.storeAll (4 * s.gCounter)
      (SwitchRule.octets rule.macAddr portByte) with
    gCounter := s.gCounter + 2 }

theorem pushSwitchRule_known (h : IsInt (s.gCounter + 2))
    (hport : SwitchRule.outputPortByte rule.outputPort = some portByte) :
    pushSwitchRule rule s = .ok (0, stored rule portByte s) := by
  unfold pushSwitchRule
  rw [hport]
  dsimp only
  rw [checkInt_of_isInt h]
  rfl

theorem pushSwitchRule_unknown
    (hport : SwitchRule.outputPortByte rule.outputPort = none) :
    pushSwitchRule rule s = .ok (1, s) := by
  unfold pushSwitchRule
  rw [hport]

theorem memory_stored_of_outside {a : Nat}
    (h : a < 4 * s.gCounter ∨ 4 * s.gCounter + 8 ≤ a) :
    (stored rule portByte s).memory a = s.memory a :=
  memory_storeAll_of_outside (SwitchRule.octets rule.macAddr portByte) h

theorem occupies_stored
    (hport : SwitchRule.outputPortByte rule.outputPort = some portByte)
    {k : Nat} (hcounter : s.gCounter = 12 + 2 * k) :
    Occupies rule k (stored rule portByte s) := by
  have hoctet : forall {j : Nat} (h : j < 8),
      (stored rule portByte s).memory (4 * s.gCounter + j) =
        (SwitchRule.octets rule.macAddr portByte)[j] := fun h =>
    memory_storeAll (SwitchRule.octets rule.macAddr portByte) h
  have hnext : 4 * (13 + 2 * k) = 4 * s.gCounter + 4 := by omega
  refine ⟨portByte, hport, ?_, ?_⟩
  · rw [← hcounter]
    exact register_eq (hoctet (by decide : 0 < 8)) (hoctet (by decide : 1 < 8))
      (hoctet (by decide : 2 < 8)) (hoctet (by decide : 3 < 8))
  · apply register_eq
    · rw [hnext]
      exact hoctet (by decide : 4 < 8)
    · rw [hnext]
      exact hoctet (by decide : 5 < 8)
    · rw [hnext]
      exact hoctet (by decide : 6 < 8)
    · rw [hnext]
      exact hoctet (by decide : 7 < 8)

/-- A rule that has been stored does not touch the rules before it. -/
theorem occupies_kept {old : SwitchRule} {k : Nat} (h : Occupies old k s)
    (hbefore : 14 + 2 * k ≤ s.gCounter) :
    Occupies old k (stored rule portByte s) := by
  obtain ⟨oldByte, hold, hfirst, hsecond⟩ := h
  refine ⟨oldByte, hold, ?_, ?_⟩
  · rw [← hfirst]
    exact register_congr fun j hj => memory_stored_of_outside (by omega)
  · rw [← hsecond]
    exact register_congr fun j hj => memory_stored_of_outside (by omega)

theorem mem_written_stored {a : Nat} :
    a ∈ (stored rule portByte s).written <->
      a ∈ s.written ∨ (4 * s.gCounter ≤ a ∧ a < 4 * s.gCounter + 8) := by
  change a ∈ (s.storeAll _ _).written <-> _
  rw [written_storeAll, List.mem_append, List.mem_range'_1]
  rfl

/-- A rule with a known port fills the next two registers. -/
theorem Filled.stored (h : Filled rules s)
    (hport : SwitchRule.outputPortByte rule.outputPort = some portByte) :
    Filled (rules ++ [rule]) (stored rule portByte s) := by
  have hcounter := h.counter
  have hnext : (SwitchRules.stored rule portByte s).gCounter =
      s.gCounter + 2 := rfl
  have hlength : (rules ++ [rule]).length = rules.length + 1 :=
    List.length_append
  constructor
  case counter =>
    rw [hnext, hlength]
    omega
  case lower =>
    intro a ha
    rcases mem_written_stored.mp ha with ha | ha
    · exact h.lower a ha
    · omega
  case upper =>
    intro a ha
    rw [hnext]
    rcases mem_written_stored.mp ha with ha | ha
    · have hupper := h.upper a ha
      omega
    · omega
  case used =>
    intro a hlow hhigh
    rw [hnext] at hhigh
    rw [mem_written_stored]
    by_cases hbefore : a < 4 * s.gCounter
    · exact Or.inl (h.used a hlow hbefore)
    · exact Or.inr (by omega)
  case occupied =>
    intro k rule' hrule
    rcases Nat.lt_or_ge k rules.length with hk | hk
    · rw [List.getElem?_append_left hk] at hrule
      exact occupies_kept (h.occupied k rule' hrule) (by omega)
    · rw [List.getElem?_append_right hk, List.getElem?_singleton] at hrule
      split at hrule
      case isTrue hlast =>
        cases hrule
        exact occupies_stored hport (by omega)
      case isFalse => cases hrule

end Push

/-!
## The table after its initialization
-/

theorem written_clearRegisters (registers : List Nat) (s : SwitchRules) :
    (registers.foldl clearRegister s).written =
      s.written ++ registers.flatMap fun i => List.range' (4 * i) 4 := by
  induction registers generalizing s with
  | nil => exact (List.append_nil _).symm
  | cons i registers ih =>
      rw [List.foldl_cons, ih, List.flatMap_cons, ← List.append_assoc]
      congr 1
      exact written_storeAll [0, 0, 0, 0]

theorem gCounter_clearRegisters (registers : List Nat) (s : SwitchRules) :
    (registers.foldl clearRegister s).gCounter = s.gCounter := by
  induction registers generalizing s with
  | nil => rfl
  | cons i registers ih =>
      rw [List.foldl_cons, ih]
      exact gCounter_storeAll [0, 0, 0, 0]

theorem mem_written_switchRuleInit {memory : Nat -> UInt8} {a : Nat} :
    a ∈ (switchRuleInit memory).written <-> 48 ≤ a ∧ a < 256 := by
  unfold switchRuleInit
  rw [written_clearRegisters]
  simp only [List.nil_append, List.mem_flatMap, List.mem_range'_1,
    nDefaultRule, switchTableLen]
  constructor
  · rintro ⟨i, hi, ha⟩
    omega
  · intro ha
    exact ⟨a / 4, by omega, by omega⟩

theorem filled_switchRuleInit (memory : Nat -> UInt8) :
    Filled [] (switchRuleInit memory) := by
  have hcounter : (switchRuleInit memory).gCounter = 12 :=
    gCounter_clearRegisters _ _
  constructor
  case counter => exact hcounter
  case lower =>
    intro a ha
    exact (mem_written_switchRuleInit.mp ha).left
  case upper =>
    intro a ha
    exact Or.inl (mem_written_switchRuleInit.mp ha).right
  case used =>
    intro a hlow hhigh
    omega
  case occupied =>
    intro k rule hrule
    cases hrule

/-!
## Sequences of calls
-/

section Calls

variable {done rules : List SwitchRule} {rule : SwitchRule}
  {results : List Int32} {result : Int32} {s s' : SwitchRules}

theorem pushSwitchRule_cases
    (h : pushSwitchRule rule s = .ok (result, s')) :
    (known rule = false ∧ result = 1 ∧ s' = s) ∨
      exists portByte,
        SwitchRule.outputPortByte rule.outputPort = some portByte ∧
        result = 0 ∧ s' = stored rule portByte s := by
  cases hport : SwitchRule.outputPortByte rule.outputPort with
  | none =>
      rw [pushSwitchRule_unknown hport] at h
      cases h
      refine Or.inl ⟨?_, rfl, rfl⟩
      unfold known
      rw [hport]
      rfl
  | some portByte =>
      refine Or.inr ⟨portByte, rfl, ?_⟩
      unfold pushSwitchRule at h
      rw [hport] at h
      obtain ⟨gCounter, hcheck, hreturn⟩ := bind_eq_ok.mp h
      obtain ⟨_, rfl⟩ := checkInt_eq_ok.mp hcheck
      cases hreturn
      exact ⟨rfl, rfl⟩

theorem eq_of_rejected (h : pushSwitchRule rule s = .ok (result, s'))
    (hrejected : result ≠ 0) : s' = s := by
  rcases pushSwitchRule_cases h with ⟨_, _, hsame⟩ | ⟨_, _, hresult, _⟩
  · exact hsame
  · exact absurd hresult hrejected

theorem known_of_port {portByte : UInt8}
    (hport : SwitchRule.outputPortByte rule.outputPort = some portByte) :
    known rule = true := by
  unfold known
  rw [hport]
  rfl

/-- The accepted rules are those with known ports, and they fill the table. -/
theorem filled_pushAll (h : Filled done s)
    (hpush : pushAll rules s = .ok (results, s')) :
    Filled (done ++ rules.filter known) s' ∧
      accepted rules results = rules.filter known := by
  induction rules generalizing done s results with
  | nil =>
      cases hpush
      rw [List.filter_nil, List.append_nil]
      exact ⟨h, rfl⟩
  | cons rule rules ih =>
      obtain ⟨⟨result, s₁⟩, hfirst, hpush⟩ := bind_eq_ok.mp hpush
      obtain ⟨⟨rest, s₂⟩, hrest, hreturn⟩ := bind_eq_ok.mp hpush
      cases hreturn
      rcases pushSwitchRule_cases hfirst with
        ⟨hunknown, rfl, rfl⟩ | ⟨portByte, hport, rfl, rfl⟩
      · obtain ⟨hfilled, haccepted⟩ := ih h hrest
        rw [List.filter_cons_of_neg (by rw [hunknown]; decide)]
        exact ⟨hfilled, haccepted⟩
      · obtain ⟨hfilled, haccepted⟩ := ih (h.stored hport) hrest
        rw [List.filter_cons_of_pos (known_of_port hport), List.append_cons]
        exact ⟨hfilled, congrArg (rule :: ·) haccepted⟩

/-- The counter stays small as long as the rules fit. -/
theorem pushAll_ok (h : Filled done s)
    (hfits : done.length + rules.countP known ≤ 26) :
    exists results s', pushAll rules s = .ok (results, s') := by
  induction rules generalizing done s with
  | nil => exact ⟨[], s, rfl⟩
  | cons rule rules ih =>
      cases hport : SwitchRule.outputPortByte rule.outputPort with
      | none =>
          have hunknown : ¬ known rule = true := by
            unfold known
            rw [hport]
            decide
          rw [List.countP_cons_of_neg hunknown] at hfits
          obtain ⟨results, s', hrest⟩ := ih h hfits
          exact ⟨1 :: results, s', bind_eq_ok.mpr
            ⟨_, pushSwitchRule_unknown hport, bind_eq_ok.mpr ⟨_, hrest, rfl⟩⟩⟩
      | some portByte =>
          rw [List.countP_cons_of_pos (known_of_port hport)] at hfits
          have hcounter := h.counter
          have hint : IsInt (s.gCounter + 2) := by
            unfold IsInt
            omega
          have hlength : (done ++ [rule]).length = done.length + 1 :=
            List.length_append
          obtain ⟨results, s', hrest⟩ := ih (h.stored hport) (by omega)
          exact ⟨0 :: results, s', bind_eq_ok.mpr
            ⟨_, pushSwitchRule_known hint hport,
              bind_eq_ok.mpr ⟨_, hrest, rfl⟩⟩⟩

end Calls

/--
Only registers behind the default rules and within the table have been written,
and every accepted rule is in its place.
-/
structure Keeps (rules : List SwitchRule) (results : List Int32)
    (s : SwitchRules) : Prop where
  written : forall a, a ∈ s.written ->
    4 * (nDefaultRule * 2) ≤ a ∧ a < 4 * switchTableLen
  occupied : forall k rule, (accepted rules results)[k]? = some rule ->
    Occupies rule k s

/-- The calls return, and none of them breaks the table. -/
structure Sound (memory : Nat -> UInt8) (rules : List SwitchRule) : Prop where
  keeps : forall first, first <+: rules ->
    exists results s, pushAll first (switchRuleInit memory) = .ok (results, s) ∧
      Keeps first results s
  rejected : forall first rule, first ++ [rule] <+: rules ->
    forall results s result s',
      pushAll first (switchRuleInit memory) = .ok (results, s) ->
      pushSwitchRule rule s = .ok (result, s') -> result ≠ 0 -> s' = s

theorem keeps_of_fits {memory : Nat -> UInt8} {rules : List SwitchRule}
    (h : rules.countP known ≤ 26) :
    exists results s, pushAll rules (switchRuleInit memory) = .ok (results, s) ∧
      Keeps rules results s := by
  have hinit := filled_switchRuleInit memory
  have hfits : ([] : List SwitchRule).length + rules.countP known ≤ 26 := by
    rw [List.length_nil, Nat.zero_add]
    exact h
  obtain ⟨results, s, hpush⟩ := pushAll_ok hinit hfits
  obtain ⟨hfilled, haccepted⟩ := filled_pushAll hinit hpush
  rw [List.nil_append] at hfilled
  refine ⟨results, s, hpush, ?_, ?_⟩
  · intro a ha
    have hlower := hfilled.lower a ha
    have hupper := hfilled.upper a ha
    have hcounter := hfilled.counter
    rw [List.countP_eq_length_filter] at h
    unfold nDefaultRule switchTableLen
    omega
  · rw [haccepted]
    exact hfilled.occupied

/-- A table beyond its last register has been written. -/
theorem fits_of_keeps {memory : Nat -> UInt8} {rules : List SwitchRule}
    {results : List Int32} {s : SwitchRules}
    (hpush : pushAll rules (switchRuleInit memory) = .ok (results, s))
    (h : Keeps rules results s) : rules.countP known ≤ 26 := by
  obtain ⟨hfilled, _⟩ := filled_pushAll (filled_switchRuleInit memory) hpush
  rw [List.nil_append] at hfilled
  have hcounter := hfilled.counter
  rw [List.countP_eq_length_filter]
  by_contra hmany
  have hused := hfilled.used 256 (by decide) (by omega)
  have hbound := (h.written 256 hused).right
  unfold switchTableLen at hbound
  omega

/-- The table has room for 26 rules. -/
theorem sound_iff (memory : Nat -> UInt8) (rules : List SwitchRule) :
    Sound memory rules <-> rules.countP known ≤ 26 := by
  constructor
  · intro h
    obtain ⟨results, s, hpush, hkeeps⟩ := h.keeps rules (List.prefix_refl rules)
    exact fits_of_keeps hpush hkeeps
  · intro h
    constructor
    case keeps =>
      intro first hfirst
      exact keeps_of_fits (Nat.le_trans (hfirst.sublist.countP_le) h)
    case rejected =>
      intro first rule _ results s result s' _ hrule hrejected
      exact eq_of_rejected hrule hrejected

/-- Twenty-seven rules for port 0. -/
theorem table_overflows :
    ¬ Sound (fun _ => 0)
      (List.replicate 27 { macAddr := fun _ => 0, outputPort := 0 }) := by
  intro h
  obtain ⟨results, s, hpush, hkeeps⟩ := h.keeps _ (List.prefix_refl _)
  have hfits := fits_of_keeps hpush hkeeps
  exact absurd hfits (by decide)

end SwitchRules

end TsnDrivers
end Ziggo
