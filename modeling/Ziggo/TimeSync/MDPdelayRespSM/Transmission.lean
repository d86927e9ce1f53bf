import Ziggo.TimeSync.AnnounceLoop
import Ziggo.TimeSync.MDPdelayRespSM.Response
import Ziggo.TimeSync.Transmission

/-!
# Transmitted answers

The responder of a port names the port in its answers, but not the clock of the
instance: it puts the default clock identity in its place.
-/

namespace Ziggo
namespace TimeSync

open Foundation TsnDrivers

namespace MDPdelayRespSM

open MDPdelayRespSMState

/-- The machine has sent answers only, under the default clock identity. -/
structure Replies (port : Port) (sm : MDPdelayRespSM) : Prop where
  leaves : sm.perPortGlobal.thisPort = port
  source : Source defaultClockIdentity port [.pdelayResp, .pdelayRespFollowUp]
    sm.process.sent

section Actions

variable {port : Port} {sm sm' : MDPdelayRespSM}

theorem Replies.unsent (h : Replies port sm)
    (hport : sm'.perPortGlobal = sm.perPortGlobal)
    (hsent : sm'.process.sent = sm.process.sent) : Replies port sm' where
  leaves := (congrArg PerPortGlobal.thisPort hport).trans h.leaves
  source := by
    rw [hsent]
    exact h.source

theorem Replies.send (h : Replies port sm) {message : PTPMsg}
    (hsource : message.head.sourcePortIdentity = sm.sourcePortIdentity)
    (hkind : message.kind ∈ [.pdelayResp, .pdelayRespFollowUp])
    (hport : sm'.perPortGlobal = sm.perPortGlobal)
    (hsent : sm'.process = sm.process.sendPtpFrame sm.perPortGlobal.thisPort
      message) : Replies port sm' := by
  refine ⟨(congrArg PerPortGlobal.thisPort hport).trans h.leaves, ?_⟩
  rw [hsent, h.leaves, Process.sendPtpFrame_sent]
  refine h.source.send (hsource.trans ?_) hkind
  unfold sourcePortIdentity
  rw [h.leaves]

theorem Replies.action {state : MDPdelayRespSMState} (h : Replies port sm)
    (haction : MDPdelayRespSM.action state sm = .ok sm') :
    Replies port sm' := by
  cases state with
  | init =>
      cases haction
      exact h
  | notEnabled =>
      cases haction
      exact h
  | initialWaitingForPdelayReq =>
      cases haction
      exact h.unsent rfl rfl
  | sentPdelayRespWaitingForTimestamp =>
      obtain ⟨req, _, rfl⟩ := sentAction_cases haction
      exact h.send rfl (by simp [PTPMsg.kind]) rfl rfl
  | waitingForPdelayReq =>
      obtain ⟨req, _, rfl⟩ := waitingAction_cases haction
      exact h.send rfl (by simp [PTPMsg.kind]) rfl rfl

end Actions

end MDPdelayRespSM

namespace MDPdelayRespMachine

open MDPdelayRespSM

section Calls

variable {port : Port} {m : MDPdelayRespMachine}

theorem replies_run (h : Replies port m.vars) : Replies port m.run.vars := by
  refine Behaviour.run_preserves behaviour
    (I := Replies port) ?_ ?_ ?_ ?_ passes (m := m.ready) h
  · exact fun _ _ _ h haction => h.action haction
  · exact fun _ _ _ h _ => h.unsent rfl rfl
  · exact fun _ _ _ h _ => h.unsent rfl rfl
  · exact fun _ h => h.unsent rfl rfl

theorem replies_step (h : Replies port m.vars) (e : Event) :
    Replies port (step m e).vars := by
  unfold step
  split
  · exact h
  · cases e with
    | txts tsuTimestamp =>
        dsimp only [txts]
        split
        · exact h
        · split
          · exact h.unsent rfl rfl
          · split
            · exact h
            · refine replies_run ?_
              exact h.unsent rfl rfl
    | recvReq tsuTimestamp pdelayReq =>
        refine replies_run ?_
        exact h.unsent rfl rfl

end Calls

/-!
## The machine of a port
-/

/-- The machine of a port once the main loop has initialized it. -/
def start (config : Config) (i : PortIndex) (memory : MDPdelayRespSM) :
    MDPdelayRespMachine :=
  initMdPdelayRespSm
    { memory with
      perPTPInstanceGlobal :=
        AnnounceLoop.initPerPTPInstanceGlobal config
          memory.perPTPInstanceGlobal
      perPortGlobal :=
        AnnounceLoop.initPerPortGlobal config i memory.perPortGlobal
      process := { stop := none, sent := [], rand := memory.process.rand } }

/-- The machine of a port after a sequence of calls. -/
def after (config : Config) (i : PortIndex) (memory : MDPdelayRespSM)
    (es : List Event) : MDPdelayRespMachine :=
  runEvents step (start config i memory) es

theorem replies_after (config : Config) (i : PortIndex)
    (memory : MDPdelayRespSM) (es : List Event) :
    Replies i.succ (after config i memory es).vars := by
  have hstart : Replies i.succ (start config i memory).vars := by
    unfold start initMdPdelayRespSm
    exact replies_run ⟨rfl, source_nil⟩
  exact run_invariant_always
    (I := fun m : MDPdelayRespMachine => Replies i.succ m.vars)
    hstart (fun _ e h => replies_step h e) es

end MDPdelayRespMachine

end TimeSync
end Ziggo
