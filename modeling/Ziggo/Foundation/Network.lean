import Mathlib.Logic.Function.Basic
import Ziggo.Foundation.Runs

/-!
# Networks of reactive programs

Several parties run one program each and exchange messages.  The messages that
a party has sent are part of its state.  Any of them may arrive at any later
time, any number of times and in any order, or never.  The module gives the
rule for invariants: each party keeps its own one as long as the messages that
arrive are of the kind that the others send.
-/

namespace Ziggo
namespace Foundation

/-- The program of the parties, and the links between them. -/
structure Network (Party State Event Message : Type) where
  step : State -> Event -> State
  /-- The party has sent the message. -/
  sends : State -> Message -> Prop
  /-- The event hands the message to the party. -/
  receives : Event -> Message -> Prop
  /-- What the first party has sent arrives at the second party as given. -/
  carries : Party -> Party -> Message -> Message -> Prop

namespace Network

variable {Party State Event Message : Type} [DecidableEq Party]
  (N : Network Party State Event Message)

/-- An event of one party. -/
def next (n : Party -> State) (e : Party × Event) : Party -> State :=
  Function.update n e.1 (N.step (n e.1) e.2)

/-- Only messages that have been sent arrive. -/
def Possible (n : Party -> State) (e : Party × Event) : Prop :=
  forall message, N.receives e.2 message ->
    exists p sent, N.carries p e.1 sent message ∧ N.sends (n p) sent

/-- The parties after a list of events. -/
def after (n : Party -> State) (es : List (Party × Event)) : Party -> State :=
  runEvents N.next n es

variable {N}

/-- What the parties keep, and what it says about the messages they send. -/
structure Invariant (N : Network Party State Event Message)
    (I : Party -> State -> Prop) (Told : Party -> Message -> Prop) : Prop where
  step : forall p s e, I p s ->
    (forall message, N.receives e message ->
      exists q sent, N.carries q p sent message ∧ Told q sent) ->
    I p (N.step s e)
  told : forall p s message, I p s -> N.sends s message -> Told p message

section Runs

variable {I : Party -> State -> Prop} {Told : Party -> Message -> Prop}
  {n : Party -> State}

theorem Invariant.next (h : N.Invariant I Told) (hn : forall p, I p (n p))
    {e : Party × Event} (hpossible : N.Possible n e) (p : Party) :
    I p (N.next n e p) := by
  unfold Network.next
  by_cases hp : p = e.1
  · subst hp
    rw [Function.update_self]
    refine h.step _ _ _ (hn e.1) fun message hreceives => ?_
    obtain ⟨q, sent, hcarries, hsends⟩ := hpossible message hreceives
    exact ⟨q, sent, hcarries, h.told q (n q) sent (hn q) hsends⟩
  · rw [Function.update_of_ne hp]
    exact hn p

theorem Invariant.after (h : N.Invariant I Told) (hn : forall p, I p (n p))
    {es : List (Party × Event)} (hes : Along N.next N.Possible n es)
    (p : Party) : I p (N.after n es p) :=
  run_invariant (I := fun n : Party -> State => forall p, I p (n p)) hn
    (fun _ _ hn hpossible => h.next hn hpossible) hes p

end Runs

end Network

end Foundation
end Ziggo
