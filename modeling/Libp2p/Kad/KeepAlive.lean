import Libp2p.Kad.Run

namespace Libp2p.Kad.KeepAlive

open Handler

def answeringIo : SinkIo KadResponseMsg :=
  ⟨.ready (.ok ()), .ok (), .ready (.ok ()), .ready (some (.ok (.findNode []))), .ready (.ok ())⟩

/-- A `FindNode` query is sent at time 10; its substream opens at time 100. -/
def openInputs : List Input :=
  [.behaviour (.findNodeReq [1] 5), .tick 10, .poll [] [], .fullyNegotiatedOutbound, .tick 100]

def answerInputs : List Input :=
  [.poll [] [], .poll [(0, answeringIo)] []]

def staleRun : Option (World × World) :=
  ((World.init ["/ipfs/kad/1.0.0"] 10000 .dialer .client 0).run openInputs).bind fun w₁ =>
    (w₁.run answerInputs).map fun w₂ => (w₁, w₂)

theorem staleRun_eq : staleRun.bind (fun ws =>
    (ws.2.handler.poll ws.2.now [(0, answeringIo)] []).map fun p =>
      ((ws.1.now, ws.1.handler.outboundSubstreams.length, ws.1.handler.idleTimeout),
        (p.2.1, p.1.outboundSubstreams.isEmpty && p.1.inboundSubstreams.isEmpty, p.1.keepAlive))) =
    some ((100, 1, 10000), (.pending, true, .until 10000)) := by
  decide

/-- The keep-alive is only recomputed when `poll` falls through to its end: an outbound exchange
that opens and finishes within polls that return early leaves the idle deadline measured from
the creation of the handler, not from the end of the exchange. -/
theorem idle_deadline_before_activity :
    ∃ w₁ w₂ h obs, Reachable w₁ ∧ Relation.ReflTransGen Step w₁ w₂ ∧
      w₁.handler.outboundSubstreams ≠ [] ∧
      w₂.handler.poll w₂.now [(0, answeringIo)] [] = some (h, .pending, obs) ∧
      h.outboundSubstreams = [] ∧ h.inboundSubstreams = [] ∧
      ∃ t, h.keepAlive = .until t ∧ t < w₁.now + w₁.handler.idleTimeout := by
  obtain ⟨⟨w₁, w₂⟩, hrun, he⟩ := Option.bind_eq_some.mp staleRun_eq
  obtain ⟨⟨h, r, obs⟩, hp, he⟩ := Option.map_eq_some'.mp he
  obtain ⟨w₁', h₁, h₂⟩ := Option.bind_eq_some.mp hrun
  obtain ⟨w₂', h₂, hpair⟩ := Option.map_eq_some'.mp h₂
  cases hpair
  simp only [Prod.mk.injEq, Bool.and_eq_true, List.isEmpty_iff] at he
  obtain ⟨⟨hn, hl, hi⟩, rfl, ⟨ho, hin⟩, hk⟩ := he
  refine ⟨w₁, w₂, h, obs, World.reachable_of_run (.init _ _ _ _ _) h₁, World.steps_of_run h₂,
    List.ne_nil_of_length_pos (by omega), hp, ho, hin, 10000, hk, by rw [hn, hi]; decide⟩

end Libp2p.Kad.KeepAlive
