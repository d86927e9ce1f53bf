import Ziggo.TsnDrivers.Multiplication
import Ziggo.TimeSync.MDPdelayReqSM

/-!
# The mean link delay

The timestamps `t2` and `t3` are those of the peer.  Only their difference goes
into the delay, so it does not matter how far the clock of the peer is off.
-/

namespace Ziggo
namespace TimeSync

open Foundation TsnDrivers

namespace MDPdelayReqSM

/--
An exchange over a link with the delays `d1` and `d2`, where the peer answers
after `rho` and its clock is ahead by `theta`.  Times are in units of `2 ^ -16`
nanoseconds.
-/
structure Exchanged (sm : MDPdelayReqSM) (d1 rho d2 : Nat) (theta : Int) :
    Prop where
  received : (sm.t2.toNat : Int) = (sm.t1.toNat + d1 + theta) % 2 ^ 96
  answered : (sm.t3.toNat : Int) = (sm.t2.toNat + rho) % 2 ^ 96
  arrived : sm.t4.toNat = sm.t1.toNat + d1 + rho + d2

section Exchanged

variable {sm : MDPdelayReqSM} {d1 rho d2 : Nat} {theta : Int}
  (h : sm.Exchanged d1 rho d2 theta)

include h

theorem Exchanged.toNat_elapsed :
    (uscalednsSubtract sm.t4 sm.t1).toNat = d1 + rho + d2 := by
  have harrived := h.arrived
  rw [toNat_uscalednsSubtract_of_le (by omega)]
  omega

/-- The offset of the peer drops out, also if its clock wraps around. -/
theorem Exchanged.toNat_turnaround (hrho : rho < 2 ^ 96) :
    (uscalednsSubtract sm.t3 sm.t2).toNat = rho := by
  have hanswered := h.answered
  have ht2 := sm.t2.toNat_lt
  have ht3 := sm.t3.toNat_lt
  rw [toNat_uscalednsSubtract]
  omega

end Exchanged

theorem computePropTime_eq {sm : MDPdelayReqSM}
    (hanswered : sm.t1.toNat ≤ sm.t4.toNat)
    (hturnaround : (uscalednsSubtract sm.t3 sm.t2).toNat ≤
      (uscalednsMulDouble (uscalednsSubtract sm.t4 sm.t1)
        sm.perPortGlobal.neighborRateRatio).toNat) :
    sm.computePropTime =
      .ok (uscalednsDivideBy2
        (uscalednsSubtract
          (uscalednsMulDouble (uscalednsSubtract sm.t4 sm.t1)
            sm.perPortGlobal.neighborRateRatio)
          (uscalednsSubtract sm.t3 sm.t2))) := by
  unfold computePropTime
  rw [if_neg (not_lt.mpr ((uscalednsCompare_nonneg _ _).mpr hanswered)),
    if_neg (not_lt.mpr ((uscalednsCompare_nonneg _ _).mpr hturnaround))]
  rfl

/--
Between clocks of one rate the delay is the mean of the delays of the two
directions, and the process does not end.
-/
theorem computePropTime_mean {sm : MDPdelayReqSM} {d1 rho d2 : Nat}
    {theta : Int}
    (hexchange : sm.Exchanged (d1 * 2 ^ 16) (rho * 2 ^ 16) (d2 * 2 ^ 16) theta)
    (hshort : d1 + d2 + rho < 2 ^ 32)
    (hratio : sm.perPortGlobal.neighborRateRatio = 1) :
    exists meanLinkDelay, sm.computePropTime = .ok meanLinkDelay ∧
      2 * meanLinkDelay.toNat = (d1 + d2) * 2 ^ 16 := by
  have hall := hexchange.toNat_elapsed
  have hturnaround := hexchange.toNat_turnaround (by omega)
  have hscaled : (uscalednsMulDouble (uscalednsSubtract sm.t4 sm.t1)
      sm.perPortGlobal.neighborRateRatio).toNat =
      (d1 + rho + d2) * 2 ^ 16 := by
    rw [hratio, toNat_uscalednsMulDouble_one (by omega), hall]
    omega
  have harrived := hexchange.arrived
  have hle : (uscalednsSubtract sm.t3 sm.t2).toNat ≤
      (uscalednsMulDouble (uscalednsSubtract sm.t4 sm.t1)
        sm.perPortGlobal.neighborRateRatio).toNat := by
    omega
  refine ⟨_, computePropTime_eq (by omega) hle, ?_⟩
  rw [toNat_uscalednsDivideBy2, toNat_uscalednsSubtract_of_le hle, hscaled,
    hturnaround]
  omega

/-- A peer whose clock is 400 nanoseconds behind that of the requester. -/
def behindExchange : MDPdelayReqSM :=
  let time (nsec : UInt64) (nsecMsb : UInt16) : UScaledNs :=
    { subns := 0, nsec := nsec, nsecMsb := nsecMsb }
  { (default : MDPdelayReqSM) with
    t1 := time 0 0
    t2 := time 0xFFFFFFFFFFFFFF9C 0xFFFF
    t3 := time 900 0
    t4 := time 1801 0
    perPortGlobal := { (default : PerPortGlobal) with neighborRateRatio := 1 } }

theorem computePropTime_mean_behind :
    behindExchange.Exchanged (300 * 2 ^ 16) (1000 * 2 ^ 16) (501 * 2 ^ 16)
        (-400 * 2 ^ 16) ∧
      300 + 501 + 1000 < 2 ^ 32 ∧
      behindExchange.perPortGlobal.neighborRateRatio = 1 ∧
      exists meanLinkDelay, behindExchange.computePropTime = .ok meanLinkDelay ∧
        2 * meanLinkDelay.toNat = (300 + 501) * 2 ^ 16 := by
  have hexchange : behindExchange.Exchanged (300 * 2 ^ 16) (1000 * 2 ^ 16)
      (501 * 2 ^ 16) (-400 * 2 ^ 16) :=
    ⟨by decide +kernel, by decide +kernel, by decide +kernel⟩
  exact ⟨hexchange, by decide, rfl,
    computePropTime_mean hexchange (by decide) rfl⟩

end MDPdelayReqSM

end TimeSync
end Ziggo
