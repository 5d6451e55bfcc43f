import Libp2p.Kad.Run

namespace Libp2p.Kad.Counters

open Handler

structure Inv (w : World) : Prop where
  requested_eq : w.handler.numRequestedOutboundStreams = w.outstanding
  requested_le : w.outstanding ≤ w.handler.pendingMessages.length
  bound : w.handler.outboundSubstreams.length + w.outstanding ≤ maxNumSubstreams

theorem inv_init (protocolNames : List String) (idleTimeout : Duration) (endpoint : ConnectedPoint)
    (mode : Mode) (now : Instant) : Inv (World.init protocolNames idleTimeout endpoint mode now) :=
  ⟨rfl, Nat.zero_le _, by simp [World.init, Handler.new, maxNumSubstreams]⟩

theorem requested_pool_event {out : PoolPolled OutboundSubstreamState}
    {sched : List (Nat × SinkIo KadResponseMsg)} {pool : SelectAll OutboundSubstreamState}
    (h : pollOutbound pool sched = some out) {event : ConnectionHandlerEvent}
    (he : out.item = some event) : requested (.ready event) = 0 := by
  obtain ⟨e, -, rfl, -⟩ := SelectAll.pollNext_item
    (fun _ _ _ _ hp hr => OutboundSubstreamState.pollNext_event hp hr) h event he
  rfl

theorem requested_inbound_event {inb : PoolPolled InboundSubstreamState}
    {sched : List (Nat × SinkIo KadRequestMsg)} {pool : SelectAll InboundSubstreamState}
    (h : pollInbound pool sched = some inb) {event : ConnectionHandlerEvent}
    (he : inb.item = some event) : requested (.ready event) = 0 := by
  obtain ⟨e, rfl, -⟩ := SelectAll.pollNext_item
    (fun _ _ _ _ hp hr => InboundSubstreamState.pollNext_event hp hr) h event he
  rfl

theorem inv_poll {w : World} (hi : Inv w) {outSched : List (Nat × SinkIo KadResponseMsg)}
    {inSched : List (Nat × SinkIo KadRequestMsg)} {h : Handler} {r : Poll ConnectionHandlerEvent}
    {obs : List Obs} (hp : w.handler.poll w.now outSched inSched = some (h, r, obs)) :
    Inv { w with handler := h, outstanding := w.outstanding + requested r,
                 trace := w.trace ++ obs ++ pollObs r } := by
  obtain ⟨h1, h2, h3⟩ := hi
  rcases poll_cases hp with ⟨status, -, -, rfl, rfl, -⟩ | ⟨-, hp⟩
  · exact ⟨h1, h2, h3⟩
  obtain ⟨out, hout, ⟨event, he, rfl, rfl, -⟩ | ⟨inb, -, hinb, hin⟩⟩ := pollSubstreams_cases hp
  · have hl := SelectAll.pollNext_length_le hout
    simp only [requested_pool_event hout he, Nat.add_zero]
    exact ⟨h1, h2, by simp only at h3 ⊢; omega⟩
  have hl := SelectAll.pollNext_length_le hout
  rcases hin with ⟨event, he, rfl, rfl, -⟩ | ⟨-, -, hr⟩
  · simp only [requested_inbound_event hinb he, Nat.add_zero]
    exact ⟨h1, h2, by simp only at h3 ⊢; omega⟩
  rcases requestOrIdle_cases hr with ⟨hlt, hpend, rfl, rfl⟩ | ⟨rfl, rfl⟩
  · simp only at hlt hpend
    rw [usizeAdd_of_lt (by simp only [maxNumSubstreams] at h3; omega)] at hlt
    refine ⟨?_, ?_, ?_⟩ <;> simp only [requested, maxNumSubstreams] at *
    · rw [usizeAdd_of_lt (by omega)]; omega
    · omega
    · omega
  · exact ⟨h1, h2, by simp only [requested] at h3 ⊢; omega⟩

theorem inv_step {w w' : World} (hi : Inv w) (hs : Step w w') : Inv w' := by
  obtain ⟨h1, h2, h3⟩ := hi
  have hmax : w.outstanding < 2 ^ 64 := by simp only [maxNumSubstreams] at h3; omega
  cases hs with
  | behaviour message h obs he =>
    rcases onBehaviourEvent_cases he with ⟨_, _, rfl, -⟩ | ⟨_, rfl, -⟩ | ⟨_, rfl, -⟩ <;>
      refine ⟨h1, ?_, h3⟩ <;> simp only [enqueue, List.length_append] <;> omega
  | fullyNegotiatedOutbound hout =>
    have hpos : 0 < w.handler.pendingMessages.length := by omega
    obtain ⟨⟨msg, queryId⟩, pending, hp⟩ := List.exists_cons_of_length_pos hpos
    simp only [onConnectionEvent, onFullyNegotiatedOutbound_of_cons hp, confirmOnFirstSubstream_eq,
      SelectAll.push, List.length_cons, usizeSub_one (h1 ▸ hout) (h1 ▸ hmax)]
    rw [hp, List.length_cons] at h2
    constructor <;> simp only [List.length_cons] <;> omega
  | dialUpgradeError error hout =>
    have hpos : 0 < w.handler.pendingMessages.length := by omega
    obtain ⟨⟨msg, queryId⟩, pending, hp⟩ := List.exists_cons_of_length_pos hpos
    simp only [onConnectionEvent, onDialUpgradeError_of_cons hp,
      usizeSub_one (h1 ▸ hout) (h1 ▸ hmax)]
    rw [hp, List.length_cons] at h2
    cases queryId <;> constructor <;> simp only [SelectAll.push, List.length_cons] <;> omega
  | fullyNegotiatedInbound =>
    obtain ⟨pool, id, he⟩ := onFullyNegotiatedInbound_eq w.handler w.substreams
    simp only [onConnectionEvent, he, confirmOnFirstSubstream_eq]
    exact ⟨h1, h2, h3⟩
  | remoteProtocolsChange change =>
    obtain ⟨protocols, status, he⟩ := onRemoteProtocolsChange_eq w.handler change
    simp only [he]
    exact ⟨h1, h2, h3⟩
  | poll outSched inSched h r obs hp => exact inv_poll ⟨h1, h2, h3⟩ hp
  | wake s => exact ⟨h1, h2, by simpa [Handler.wake, SelectAll.wake] using h3⟩
  | tick now hnow => exact ⟨h1, h2, h3⟩

theorem inv_of_reachable {w : World} (hw : Reachable w) : Inv w := by
  induction hw with
  | init => exact inv_init ..
  | step _ hs ih => exact inv_step ih hs

end Libp2p.Kad.Counters
