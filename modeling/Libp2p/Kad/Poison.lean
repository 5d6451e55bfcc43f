import Libp2p.Kad.Run

namespace Libp2p.Kad.Poison

section Outbound

variable {io : SinkIo KadResponseMsg} {s n st : OutboundSubstreamState} {ops : List Obs}
  {r : Poll (Option ConnectionHandlerEvent)}

theorem outbound_again_ne_poisoned (h : OutboundSubstreamState.body io s = .again n ops) :
    n ≠ .poisoned := by
  unfold OutboundSubstreamState.body at h
  split at h <;> (try split at h) <;> (try split at h) <;>
    simp only [Iteration.again.injEq, reduceCtorEq] at h <;> obtain ⟨rfl, -⟩ := h <;> simp

theorem outbound_ret_poisoned (h : OutboundSubstreamState.body io s = .ret st r ops)
    (hst : st = .poisoned) : r = .ready none := by
  subst hst
  unfold OutboundSubstreamState.body at h
  split at h <;> (try split at h) <;> (try split at h) <;>
    simp only [Iteration.ret.injEq, reduceCtorEq, false_and] at h
  all_goals exact h.2.1.symm

theorem outbound_unreachable (h : OutboundSubstreamState.body io s = .unreachable) :
    s = .poisoned := by
  unfold OutboundSubstreamState.body at h
  split at h <;> (try split at h) <;> (try split at h) <;> simp_all

theorem outbound_keeps :
    SelectAll.Keeps (fun io (s : OutboundSubstreamState) => s.pollNext io) (· ≠ .poisoned) :=
  fun s io p _ hp hr => Iteration.loop_induction (OutboundSubstreamState.rank_lt_of_body io)
    (fun _ (p : Polled OutboundSubstreamState) => p.result ≠ .ready none → p.state ≠ .poisoned)
    (fun _ _ _ _ _ hq => hq) (fun _ _ _ _ hb hr hst => hr (outbound_ret_poisoned hb hst)) s p hp hr

theorem outbound_isSome (hs : s ≠ .poisoned) : (s.pollNext io).isSome :=
  Iteration.loop_isSome (OutboundSubstreamState.rank_lt_of_body io) (· ≠ .poisoned)
    (fun _ _ _ _ h => outbound_again_ne_poisoned h)
    (fun _ hs hu => hs (outbound_unreachable hu)) s hs

end Outbound

section Inbound

variable {io : SinkIo KadRequestMsg} {s n st : InboundSubstreamState} {ops : List Obs}
  {r : Poll (Option ConnectionHandlerEvent)}

theorem inbound_again_ne_poisoned (h : InboundSubstreamState.body io s = .again n ops) :
    n ≠ .poisoned := by
  unfold InboundSubstreamState.body at h
  split at h <;> (try split at h) <;> (try split at h) <;>
    simp only [Iteration.again.injEq, reduceCtorEq] at h <;> obtain ⟨rfl, -⟩ := h <;> simp

theorem inbound_ret_poisoned (h : InboundSubstreamState.body io s = .ret st r ops)
    (hst : st = .poisoned) : r = .ready none := by
  subst hst
  unfold InboundSubstreamState.body at h
  split at h <;> (try split at h) <;> (try split at h) <;>
    simp only [Iteration.ret.injEq, reduceCtorEq, false_and] at h <;> exact h.2.1.symm

theorem inbound_unreachable (h : InboundSubstreamState.body io s = .unreachable) :
    s = .poisoned := by
  unfold InboundSubstreamState.body at h
  split at h <;> (try split at h) <;> (try split at h) <;> simp_all

theorem inbound_keeps :
    SelectAll.Keeps (fun io (s : InboundSubstreamState) => s.pollNext io) (· ≠ .poisoned) :=
  fun s io p _ hp hr => Iteration.loop_induction (InboundSubstreamState.rank_lt_of_body io)
    (fun _ (p : Polled InboundSubstreamState) => p.result ≠ .ready none → p.state ≠ .poisoned)
    (fun _ _ _ _ _ hq => hq) (fun _ _ _ _ hb hr hst => hr (inbound_ret_poisoned hb hst)) s p hp hr

theorem inbound_isSome (hs : s ≠ .poisoned) : (s.pollNext io).isSome :=
  Iteration.loop_isSome (InboundSubstreamState.rank_lt_of_body io) (· ≠ .poisoned)
    (fun _ _ _ _ h => inbound_again_ne_poisoned h)
    (fun _ hs hu => hs (inbound_unreachable hu)) s hs

end Inbound

theorem unpoisoned : EntryInvariant (· ≠ .poisoned) (· ≠ .poisoned) where
  pollOut := outbound_keeps
  pollIn := inbound_keeps
  pendingSend _ _ _ := nofun
  reportError _ _ := nofun
  answer s id msg hs := by
    unfold InboundSubstreamState.tryAnswerWith
    split
    · split <;> simp_all
    · exact hs
  close s s' _ h := by
    cases s <;> simp only [InboundSubstreamState.close, Option.some.injEq, reduceCtorEq] at h <;>
      subst h <;> nofun
  cancelled := nofun
  waitingMessage _ _ := nofun

/-- With the pools polled as `SelectAll` polls them, no exchange is ever left `Poisoned` in a
reachable handler, so neither `poll_next` nor `close` ever reaches its `unreachable!()`: `poll`
and `on_behaviour_event` never panic. -/
theorem no_poisoned_exchange {w : World} (hw : Reachable w) :
    (∀ e ∈ w.handler.outboundSubstreams, e.stream ≠ .poisoned) ∧
    (∀ e ∈ w.handler.inboundSubstreams, e.stream ≠ .poisoned) ∧
    (∀ outSched inSched, (w.handler.poll w.now outSched inSched).isSome) ∧
    (∀ message, (w.handler.onBehaviourEvent message).isSome) := by
  obtain ⟨hout, hin⟩ := unpoisoned.reachable hw
  refine ⟨hout, hin, fun outSched inSched => ?_, fun message => ?_⟩
  · exact Handler.poll_isSome
      (SelectAll.pollNext_isSome outbound_keeps (fun _ _ hs => outbound_isSome hs) outSched hout)
      (SelectAll.pollNext_isSome inbound_keeps (fun _ _ hs => inbound_isSome hs) inSched hin)
  · cases message <;> simp [Handler.onBehaviourEvent, resetRequest_isSome]

def bothPoolsRun : List Input :=
  [.fullyNegotiatedInbound, .behaviour (.findNodeReq [1] 7), .poll [] [], .poll [] [],
    .fullyNegotiatedOutbound,
    .poll [(0, ⟨.ready (.ok ()), .ok (), .pending, .pending, .pending⟩)]
      [(0, ⟨.pending, .ok (), .pending, .ready (some (.ok .ping)), .pending⟩)]]

theorem no_poisoned_exchange_bothPools :
    ∃ w, (World.init ["/ipfs/kad/1.0.0"] 10000 .listener .server 0).run bothPoolsRun = some w ∧
      (∀ e ∈ w.handler.outboundSubstreams, e.stream ≠ .poisoned) ∧
      (∀ e ∈ w.handler.inboundSubstreams, e.stream ≠ .poisoned) ∧
      (∀ outSched inSched, (w.handler.poll w.now outSched inSched).isSome) ∧
      (∀ message, (w.handler.onBehaviourEvent message).isSome) :=
  have hrun : (World.init ["/ipfs/kad/1.0.0"] 10000 .listener .server 0).run bothPoolsRun =
      some _ := rfl
  ⟨_, hrun, no_poisoned_exchange (World.reachable_of_run (.init _ _ _ _ _) hrun)⟩

/-- From every state but `Poisoned`, whatever the substream answers, each `poll_next` returns
within four turns of its loop, and returns the same with any more: a turn goes round again only
down the order `PendingSend > PendingFlush > WaitingAnswer`, `WaitingMessage > Closing`. -/
theorem poll_next_within_four_turns :
    (∀ (io : SinkIo KadResponseMsg) (s : OutboundSubstreamState), s ≠ .poisoned →
      ∃ p, s.pollNext io = some p ∧
        ∀ fuel, 4 ≤ fuel → Iteration.run (OutboundSubstreamState.body io) fuel s = some p) ∧
    (∀ (io : SinkIo KadRequestMsg) (s : InboundSubstreamState), s ≠ .poisoned →
      ∃ p, s.pollNext io = some p ∧
        ∀ fuel, 4 ≤ fuel → Iteration.run (InboundSubstreamState.body io) fuel s = some p) ∧
    (∀ io (s n : OutboundSubstreamState) ops, s.body io = .again n ops → n.rank < s.rank) ∧
    (∀ io (s n : InboundSubstreamState) ops, s.body io = .again n ops → n.rank < s.rank) := by
  refine ⟨fun io s hs => ?_, fun io s hs => ?_, OutboundSubstreamState.rank_lt_of_body,
    InboundSubstreamState.rank_lt_of_body⟩
  · obtain ⟨p, hp⟩ := Option.isSome_iff_exists.mp
      (outbound_isSome hs : (s.pollNext io).isSome)
    have := s.rank_le_three
    exact ⟨p, hp, fun fuel hf =>
      Iteration.run_of_loop (OutboundSubstreamState.rank_lt_of_body io) hp (by omega)⟩
  · obtain ⟨p, hp⟩ := Option.isSome_iff_exists.mp
      (inbound_isSome hs : (s.pollNext io).isSome)
    have := s.rank_le_three
    exact ⟨p, hp, fun fuel hf =>
      Iteration.run_of_loop (InboundSubstreamState.rank_lt_of_body io) hp (by omega)⟩

def pingAfterAnswerIo : SinkIo KadRequestMsg :=
  ⟨.ready (.ok ()), .ok (), .ready (.ok ()), .ready (some (.ok .ping)), .pending⟩

theorem poll_next_within_four_turns_ping :
    InboundSubstreamState.pendingSend 0 0 .pong ≠ .poisoned ∧
      ∃ p, (InboundSubstreamState.pendingSend 0 0 .pong).pollNext pingAfterAnswerIo = some p ∧
        ∀ fuel, 4 ≤ fuel → Iteration.run (InboundSubstreamState.body pingAfterAnswerIo) fuel
          (.pendingSend 0 0 .pong) = some p :=
  ⟨nofun, poll_next_within_four_turns.2.1 _ _ nofun⟩

example : Iteration.run (InboundSubstreamState.body pingAfterAnswerIo) 3
    (.pendingSend 0 0 .pong) = none :=
  rfl

end Libp2p.Kad.Poison
