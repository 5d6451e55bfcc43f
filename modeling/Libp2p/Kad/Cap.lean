import Libp2p.Kad.Run

namespace Libp2p.Kad.Cap

open Handler

/-- The inbound exchanges that are not `Cancelled`. -/
def activeInbound (h : Handler) : Nat :=
  (h.inboundSubstreams.filter fun e => e.stream != .cancelled).length

theorem onFullyNegotiatedInbound_of_ne {h : Handler} (protocol : Substream)
    (hn : h.inboundSubstreams.length ≠ maxNumSubstreams) :
    h.onFullyNegotiatedInbound protocol = pushInbound h.confirmOnFirstSubstream protocol := by
  simp [onFullyNegotiatedInbound, confirmOnFirstSubstream_eq, hn]

/-- At `MAX_NUM_SUBSTREAMS` exchanges a new inbound substream evicts the first exchange waiting to
be reused and is admitted with the next stamp, or, when none waits to be reused, is dropped and
the pool and the stamp stay as they were. Either way every other exchange stays where it was,
behind the new one. -/
theorem fullyNegotiatedInbound_at_cap (h : Handler) (protocol : Substream)
    (hn : h.inboundSubstreams.length = maxNumSubstreams) :
    ((∃ i e, h.inboundSubstreams[i]? = some e ∧ e.stream.waitingToBeReused ∧
        (∀ j (e' : Entry InboundSubstreamState), j < i → h.inboundSubstreams[j]? = some e' →
          e'.stream.waitingToBeReused = false) ∧
        (h.onFullyNegotiatedInbound protocol).inboundSubstreams =
          SelectAll.push (h.inboundSubstreams.set i { e with stream := .cancelled })
            (.waitingMessage true h.nextConnecUniqueId protocol) ∧
        (h.onFullyNegotiatedInbound protocol).nextConnecUniqueId = h.nextConnecUniqueId + 1) ∨
      ((∀ e ∈ h.inboundSubstreams, e.stream.waitingToBeReused = false) ∧
        (h.onFullyNegotiatedInbound protocol).inboundSubstreams = h.inboundSubstreams ∧
        (h.onFullyNegotiatedInbound protocol).nextConnecUniqueId = h.nextConnecUniqueId)) ∧
    ∀ (j : Nat) (e : Entry InboundSubstreamState), h.inboundSubstreams[j]? = some e →
      e.stream.waitingToBeReused = false →
      ((h.onFullyNegotiatedInbound protocol).inboundSubstreams.drop
        ((h.onFullyNegotiatedInbound protocol).inboundSubstreams.length - maxNumSubstreams))[j]? =
        some e := by
  rcases SelectAll.updateFirst_cases InboundSubstreamState.waitingToBeReused (fun _ => .cancelled)
    h.inboundSubstreams with ⟨i, e, hi, hp, hfirst, hu⟩ | ⟨hall, hu⟩
  · have hin : (h.onFullyNegotiatedInbound protocol).inboundSubstreams =
        SelectAll.push (h.inboundSubstreams.set i { e with stream := .cancelled })
          (.waitingMessage true h.nextConnecUniqueId protocol) := by
      simp [onFullyNegotiatedInbound, pushInbound, confirmOnFirstSubstream_eq, hn, hu]
    refine ⟨.inl ⟨i, e, hi, hp, hfirst, hin, by
      simp [onFullyNegotiatedInbound, pushInbound, confirmOnFirstSubstream_eq, hn, hu]⟩,
      fun j e' hj hr => ?_⟩
    have hji : j ≠ i := by
      rintro rfl
      simp_all
    simp [hin, SelectAll.push, hn, List.getElem?_set, Ne.symm hji, hj]
  · have hin : (h.onFullyNegotiatedInbound protocol).inboundSubstreams = h.inboundSubstreams := by
      simp [onFullyNegotiatedInbound, confirmOnFirstSubstream_eq, hn, hu]
    exact ⟨.inr ⟨hall, hin, by simp [onFullyNegotiatedInbound, confirmOnFirstSubstream_eq, hn, hu]⟩,
      fun j e' hj _ => by simp [hin, hn, hj]⟩

def freshPoolHandler : Handler :=
  { Handler.new ["/ipfs/kad/1.0.0"] 10000 .listener .server 0 with
    inboundSubstreams := (List.range 32).map fun k => ⟨.waitingMessage true k.toUInt64 k, true, none⟩ }

theorem fullyNegotiatedInbound_at_cap_fresh :
    freshPoolHandler.inboundSubstreams.length = maxNumSubstreams ∧
      (freshPoolHandler.onFullyNegotiatedInbound 32).inboundSubstreams =
        freshPoolHandler.inboundSubstreams ∧
      (freshPoolHandler.onFullyNegotiatedInbound 32).nextConnecUniqueId =
        freshPoolHandler.nextConnecUniqueId := by
  refine ⟨rfl, ((fullyNegotiatedInbound_at_cap freshPoolHandler 32 rfl).1.resolve_left ?_).2⟩
  rintro ⟨i, e, hi, hp, -⟩
  simp only [freshPoolHandler, List.getElem?_map] at hi
  obtain ⟨k, -, rfl⟩ := Option.map_eq_some'.mp hi
  simp [InboundSubstreamState.waitingToBeReused] at hp

theorem fullyNegotiatedInbound_past_cap {w : World}
    (hn : maxNumSubstreams < w.handler.inboundSubstreams.length) :
    ∃ w', w.apply .fullyNegotiatedInbound = some w' ∧
      w'.handler.inboundSubstreams.length = w.handler.inboundSubstreams.length + 1 ∧
      activeInbound w'.handler = activeInbound w.handler + 1 ∧ w'.handler.mode = w.handler.mode := by
  refine ⟨_, rfl, ?_⟩
  simp [World.apply, onConnectionEvent, onFullyNegotiatedInbound_of_ne _ hn.ne', pushInbound,
    SelectAll.push, activeInbound, confirmOnFirstSubstream_eq, List.filter_cons]

theorem run_past_cap (k : Nat) :
    ∀ w : World, maxNumSubstreams < w.handler.inboundSubstreams.length →
      ∃ w', w.run (List.replicate k .fullyNegotiatedInbound) = some w' ∧
        maxNumSubstreams < w'.handler.inboundSubstreams.length ∧
        activeInbound w'.handler = activeInbound w.handler + k ∧ w'.handler.mode = w.handler.mode := by
  induction k with
  | zero => exact fun w hn => ⟨w, rfl, hn, rfl, rfl⟩
  | succ k ih =>
    intro w hn
    obtain ⟨w1, h1, hl, ha, hm⟩ := fullyNegotiatedInbound_past_cap hn
    obtain ⟨w2, h2, hl2, ha2, hm2⟩ := ih w1 (by omega)
    refine ⟨w2, ?_, hl2, by omega, hm2.trans hm⟩
    simp only [List.replicate_succ, World.run, h1, Option.some_bind, h2]

def addProviderIo : SinkIo KadRequestMsg :=
  ⟨.pending, .ok (), .pending, .ready (some (.ok (.addProvider [1] 7))), .pending⟩

/-- A server fills its inbound pool; the newest exchange reads an `AddProvider` and so waits to be
reused; then the remote opens two more substreams. The first evicts that exchange, the second is
admitted with the pool at 33 entries. -/
def capInputs : List Input :=
  List.replicate 32 .fullyNegotiatedInbound ++
    [.poll [] [], .poll [] [(0, addProviderIo)], .fullyNegotiatedInbound, .fullyNegotiatedInbound]

def capWorld : Option World :=
  (World.init ["/ipfs/kad/1.0.0"] 10000 .listener .server 0).run capInputs

set_option maxRecDepth 10000 in
theorem capWorld_eq : capWorld.map (fun w => (w.handler.inboundSubstreams.length,
    activeInbound w.handler, w.handler.mode)) = some (34, 33, .server) := by
  decide

/-- Past an eviction the pool is never checked against `MAX_NUM_SUBSTREAMS` again: a server's
remote can keep any number of exchanges active on one connection. -/
theorem inbound_cap_unbounded (n : Nat) :
    ∃ w, Reachable w ∧ w.handler.mode = .server ∧ n ≤ activeInbound w.handler := by
  obtain ⟨w, hw, he⟩ := Option.map_eq_some'.mp capWorld_eq
  simp only [Prod.mk.injEq] at he
  obtain ⟨w', hrun, -, ha, hm⟩ := run_past_cap n w (by simp only [he.1, maxNumSubstreams]; omega)
  have hr : Reachable w := World.reachable_of_run (.init _ _ _ _ _) hw
  exact ⟨w', World.reachable_of_run hr hrun, hm.trans he.2.2, by omega⟩

end Libp2p.Kad.Cap
