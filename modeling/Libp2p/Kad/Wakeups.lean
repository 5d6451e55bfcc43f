import Mathlib.Logic.Relation
import Libp2p.Kad.Run

namespace Libp2p.Kad.Wakeups

open Handler

def Wakeable (e : Entry InboundSubstreamState) : Prop :=
  e.queued = true ∨ (∃ s, e.parked = some s ∧ e.stream.parkedOn = some s) ∨
    ∃ id sub, e.stream = .waitingBehaviour id sub (some .task)

/-- An inbound exchange nothing will touch again: no task polls it, no substream wakes it, and no
answer, reset or eviction applies to its state. -/
structure Stranded (e : Entry InboundSubstreamState) : Prop where
  unqueued : e.queued = false
  unwakeable : ∀ s, e.parked = some s → e.stream.parkedOn ≠ some s
  notWaiting : ∀ id sub waker, e.stream ≠ .waitingBehaviour id sub waker
  notReusable : e.stream.waitingToBeReused = false

namespace Stranded

variable {e : Entry InboundSubstreamState} (he : Stranded e)
include he

theorem not_wakeable : ¬ Wakeable e := by
  rintro (hq | ⟨s, hp, hs⟩ | ⟨id, sub, hw⟩)
  · simp [he.unqueued] at hq
  · exact he.unwakeable s hp hs
  · exact he.notWaiting _ _ _ hw

theorem not_waitingBehaviourFor (requestId : RequestId) :
    e.stream.isWaitingBehaviourFor requestId = false := by
  cases hs : e.stream with
  | waitingBehaviour id sub waker => exact absurd hs (he.notWaiting id sub waker)
  | _ => rfl

theorem answerPendingRequest_keeps (requestId : RequestId) :
    ∀ (msg : KadResponseMsg) {pool : SelectAll InboundSubstreamState},
      e ∈ pool → e ∈ (answerPendingRequest requestId msg pool).1
  | _, [], hmem => hmem
  | msg, e' :: pool, hmem => by
    simp only [answerPendingRequest]
    split
    · rename_i s waker hs
      rcases List.mem_cons.mp hmem with rfl | hmem
      · obtain ⟨sub, hw, -⟩ := InboundSubstreamState.tryAnswerWith_eq_ok hs
        exact absurd hw (he.notWaiting _ _ _)
      · exact List.mem_cons_of_mem _ hmem
    · rename_i s m hs
      obtain ⟨rfl, rfl⟩ := InboundSubstreamState.tryAnswerWith_eq_error hs
      rcases List.mem_cons.mp hmem with rfl | hmem
      · exact List.mem_cons_self _ _
      · exact List.mem_cons_of_mem _ (answerPendingRequest_keeps requestId _ hmem)

theorem resetRequest_keeps (requestId : RequestId) :
    ∀ {pool pool' : SelectAll InboundSubstreamState}, resetRequest requestId pool = some pool' →
      e ∈ pool → e ∈ pool'
  | [], _, h, hmem => by cases h; exact hmem
  | e' :: pool, pool', h, hmem => by
    simp only [resetRequest] at h
    split at h
    · rename_i hw
      obtain ⟨s, -, rfl⟩ := Option.map_eq_some'.mp h
      rcases List.mem_cons.mp hmem with rfl | hmem
      · simp [he.not_waitingBehaviourFor] at hw
      · exact List.mem_cons_of_mem _ hmem
    · obtain ⟨pool'', h', rfl⟩ := Option.map_eq_some'.mp h
      rcases List.mem_cons.mp hmem with rfl | hmem
      · exact List.mem_cons_self _ _
      · exact List.mem_cons_of_mem _ (resetRequest_keeps requestId h' hmem)

theorem onBehaviourEvent_keeps {h h' : Handler} {message : HandlerIn} {obs : List Obs}
    (hb : h.onBehaviourEvent message = some (h', obs)) (hmem : e ∈ h.inboundSubstreams) :
    e ∈ h'.inboundSubstreams := by
  cases message <;> simp only [onBehaviourEvent, answer, Option.map_eq_some', Option.some.injEq,
    Prod.mk.injEq] at hb
  case reset requestId =>
    obtain ⟨pool, hpool, rfl, -⟩ := hb
    exact he.resetRequest_keeps requestId hpool hmem
  all_goals obtain ⟨rfl, -⟩ := hb
  all_goals first
    | exact hmem
    | exact he.answerPendingRequest_keeps _ _ hmem

theorem onFullyNegotiatedInbound_keeps {h : Handler} (protocol : Substream)
    (hmem : e ∈ h.inboundSubstreams) : e ∈ (h.onFullyNegotiatedInbound protocol).inboundSubstreams := by
  simp only [onFullyNegotiatedInbound, pushInbound, confirmOnFirstSubstream_eq]
  split
  · split
    · exact List.mem_cons_of_mem _ (SelectAll.updateFirst_keeps he.notReusable ‹_› hmem)
    · exact hmem
  · exact List.mem_cons_of_mem _ hmem

theorem poll_keeps {h h' : Handler} {now : Instant} {outSched : List (Nat × SinkIo KadResponseMsg)}
    {inSched : List (Nat × SinkIo KadRequestMsg)} {r : Poll ConnectionHandlerEvent} {obs : List Obs}
    (hp : h.poll now outSched inSched = some (h', r, obs)) (hmem : e ∈ h.inboundSubstreams) :
    e ∈ h'.inboundSubstreams := by
  rcases poll_cases hp with ⟨_, -, -, rfl, -, -⟩ | ⟨-, hp⟩
  · exact hmem
  obtain ⟨out, -, ⟨_, -, rfl, -, -⟩ | ⟨inb, -, hinb, hin⟩⟩ := pollSubstreams_cases hp
  · exact hmem
  have hk := SelectAll.pollNext_keeps_unqueued he.unqueued hinb hmem
  rcases hin with ⟨_, -, rfl, -, -⟩ | ⟨-, -, hr⟩
  · exact hk
  · rcases requestOrIdle_cases hr with ⟨-, -, rfl, -⟩ | ⟨rfl, -⟩ <;> exact hk

theorem step_keeps {w w' : World} (hs : Step w w') (hmem : e ∈ w.handler.inboundSubstreams) :
    e ∈ w'.handler.inboundSubstreams := by
  cases hs with
  | behaviour message h obs hb => exact he.onBehaviourEvent_keeps hb hmem
  | fullyNegotiatedOutbound => simpa only [onConnectionEvent,
      onFullyNegotiatedOutbound_inboundSubstreams] using hmem
  | dialUpgradeError => simpa only [onConnectionEvent, onDialUpgradeError_inboundSubstreams] using hmem
  | fullyNegotiatedInbound => exact he.onFullyNegotiatedInbound_keeps _ hmem
  | remoteProtocolsChange change =>
    obtain ⟨_, _, heq⟩ := onRemoteProtocolsChange_eq w.handler change
    simpa only [heq] using hmem
  | poll outSched inSched h r obs hp => exact he.poll_keeps hp hmem
  | wake s => exact SelectAll.wake_keeps he.unwakeable hmem
  | tick => exact hmem

theorem run_keeps {w w' : World} (hs : Relation.ReflTransGen Step w w')
    (hmem : e ∈ w.handler.inboundSubstreams) : e ∈ w'.handler.inboundSubstreams := by
  induction hs with
  | refl => exact hmem
  | tail _ hstep ih => exact he.step_keeps hstep ih

end Stranded

def findNodeIo : SinkIo KadRequestMsg :=
  ⟨.pending, .ok (), .pending, .ready (some (.ok (.findNode [1]))), .pending⟩

/-- A remote sends a `FindNode`; the exchange is polled once more while the behaviour works on
it, and so keeps the waker; then the behaviour resets the request. -/
def resetInputs : List Input :=
  [.fullyNegotiatedInbound, .poll [] [], .poll [] [(0, findNodeIo)], .poll [] [(0, findNodeIo)],
    .behaviour (.reset ⟨0⟩)]

def resetWorld : Option World :=
  (World.init ["/ipfs/kad/1.0.0"] 10000 .listener .server 0).run resetInputs

theorem resetWorld_eq :
    resetWorld.map (·.handler.inboundSubstreams) = some [⟨.closing 0, false, none⟩] := by
  decide

/-- `close` moves the reset exchange to `Closing` without waking its task, and its waker is
dropped with the `WaitingBehaviour` state: the exchange is never polled again and never leaves
the pool, with its substream. -/
theorem reset_strands_exchange :
    ∃ w, Reachable w ∧ ∃ e ∈ w.handler.inboundSubstreams, ¬ Wakeable e ∧
      ∀ w', Relation.ReflTransGen Step w w' → e ∈ w'.handler.inboundSubstreams := by
  obtain ⟨w, hw, he⟩ := Option.map_eq_some'.mp resetWorld_eq
  have hs : Stranded ⟨.closing 0, false, none⟩ := ⟨rfl, nofun, nofun, rfl⟩
  refine ⟨w, World.reachable_of_run (.init _ _ _ _ _) hw, _, by simp [he], hs.not_wakeable,
    fun w' hrun => hs.run_keeps hrun (by simp [he])⟩

end Libp2p.Kad.Wakeups
