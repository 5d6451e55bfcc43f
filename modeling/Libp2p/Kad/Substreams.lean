import Libp2p.Kad.Pattern

namespace Libp2p.Kad.Substreams

open Handler Pattern

/-- Each substream is held by at most one exchange of the two pools, and only substreams the
connection has handed out are held: no substream is ever driven by two state machines. -/
theorem substream_held_once {w : World} (hw : Reachable w) (sub : Substream) :
    w.handler.outboundSubstreams.countP (·.stream.parkedOn == some sub) +
        w.handler.inboundSubstreams.countP (·.stream.substream? == some sub) ≤ 1 ∧
      (∀ e ∈ w.handler.outboundSubstreams, e.stream.parkedOn = some sub → sub < w.substreams) ∧
      ∀ e ∈ w.handler.inboundSubstreams, e.stream.substream? = some sub → sub < w.substreams := by
  have hI := handlerFollows_of_reachable hw
  obtain ⟨φ, -, hout, hin⟩ := hI.out.phase sub
  refine ⟨?_, fun e he => hI.out.bounded e he sub, fun e he => hI.inBounded e he sub⟩
  have h₁ := hout.1
  have h₂ := hin.1
  rcases Nat.eq_zero_or_pos (w.handler.outboundSubstreams.countP (·.stream.parkedOn == some sub))
    with h₀ | hpos
  · omega
  obtain ⟨e, he, hs⟩ := List.countP_pos_iff.1 hpos
  have hφ : φ = outPhase e.stream := hout.2 e he (by simpa using hs)
  have hzero : w.handler.inboundSubstreams.countP (·.stream.substream? == some sub) = 0 :=
    List.countP_eq_zero.2 fun e' he' hs' =>
      not_inFits_outPhase (by simp_all) _ (hφ ▸ hin.2 e' he' (by simpa using hs'))
  omega

theorem substream_held_once_bothPools :
    ∃ w, (World.init ["/ipfs/kad/1.0.0"] 10000 .listener .server 0).run
        [.fullyNegotiatedInbound, .behaviour (.findNodeReq [1] 3), .poll [] [], .poll [] [],
          .fullyNegotiatedOutbound] = some w ∧
      w.handler.outboundSubstreams.countP (·.stream.parkedOn == some 0) +
          w.handler.inboundSubstreams.countP (·.stream.substream? == some 0) ≤ 1 ∧
        (∀ e ∈ w.handler.outboundSubstreams, e.stream.parkedOn = some 0 → 0 < w.substreams) ∧
        ∀ e ∈ w.handler.inboundSubstreams, e.stream.substream? = some 0 → 0 < w.substreams :=
  have hrun : (World.init ["/ipfs/kad/1.0.0"] 10000 .listener .server 0).run
      [.fullyNegotiatedInbound, .behaviour (.findNodeReq [1] 3), .poll [] [], .poll [] [],
        .fullyNegotiatedOutbound] = some _ := rfl
  ⟨_, hrun, substream_held_once (World.reachable_of_run (.init _ _ _ _ _) hrun) 0⟩

def readsOn (sub : Substream) : Obs → Bool
  | .inbound s (.pollNext (.ready (some (.ok _)))) => s == sub
  | _ => false

/-- Whether the run has read a request on `sub`. -/
def served (sub : Substream) (trace : List Obs) : Bool := trace.any (readsOn sub)

def FirstFits (served : Bool) : InboundSubstreamState → Prop
  | .waitingMessage first _ _ => first = !served
  | .waitingBehaviour .. | .pendingSend .. | .pendingFlush .. => served = true
  | _ => True

section Served

variable {sub : Substream}

@[simp] theorem served_append (a b : List Obs) :
    served sub (a ++ b) = (served sub a || served sub b) :=
  List.any_append

theorem served_of_ops {obs : List Obs} (h : ∀ o ∈ obs, readsOn sub o = false) :
    served sub obs = false :=
  List.any_eq_false.2 fun o ho hr => by simp [h o ho] at hr

theorem served_of_project {trace : List Obs} (h : project sub trace = []) :
    served sub trace = false :=
  served_of_ops fun o ho => by
    cases hr : readsOn sub o
    · rfl
    · have habout : about sub o = true := by
        unfold readsOn at hr
        split at hr <;> simp_all [about]
      have hmem : o ∈ project sub trace := List.mem_filter.2 ⟨ho, habout⟩
      rw [h] at hmem
      exact absurd hmem (List.not_mem_nil o)

theorem served_command (message : HandlerIn) (obs : List Obs) :
    served sub (.command message :: obs) = served sub obs := rfl

theorem served_event (item : ConnectionHandlerEvent) : served sub [.event item] = false := rfl

end Served

section Exchange

variable {io : SinkIo KadRequestMsg} {s n st : InboundSubstreamState} {ops : List Obs}
  {r : Poll (Option ConnectionHandlerEvent)} {sub : Substream} {b : Bool}

theorem again_first (h : InboundSubstreamState.body io s = .again n ops) (hf : FirstFits b s) :
    FirstFits (b || served sub ops) n := by
  unfold InboundSubstreamState.body at h
  split at h <;> (try split at h) <;> (try split at h) <;>
    simp only [Iteration.again.injEq, reduceCtorEq] at h <;> obtain ⟨rfl, rfl⟩ := h <;>
    simp_all [FirstFits]

theorem ret_first (h : InboundSubstreamState.body io s = .ret st r ops)
    (hs : s.substream? = some sub) (hf : FirstFits b s) : FirstFits (b || served sub ops) st := by
  unfold InboundSubstreamState.body at h
  split at h <;> (try split at h) <;> (try split at h) <;>
    simp only [Iteration.ret.injEq, reduceCtorEq] at h <;> obtain ⟨rfl, -, rfl⟩ := h <;>
    simp_all [FirstFits, served, readsOn, InboundSubstreamState.substream?]

theorem pollNext_first {p} (h : s.pollNext io = some p) (hs : s.substream? = some sub)
    (hf : FirstFits b s) : FirstFits (b || served sub p.ops) p.state := by
  refine Iteration.loop_induction (InboundSubstreamState.rank_lt_of_body io)
    (fun s p => ∀ b, s.substream? = some sub → FirstFits b s →
      FirstFits (b || served sub p.ops) p.state)
    (fun s n ops p hb hq b hs hf => ?_) (fun s st r ops hb b hs hf => ret_first hb hs hf)
    s p h b hs hf
  have := hq (b || served sub ops) ((InboundSubstreamState.ids_of_again hb).1.trans hs)
    (again_first hb hf)
  simpa only [served_append, Bool.or_assoc] using this

theorem pollNext_unserved {p} (h : s.pollNext io = some p) (hs : s.substream? ≠ some sub) :
    served sub p.ops = false :=
  served_of_ops fun o ho => by
    obtain ⟨sub', op, hs', rfl⟩ := InboundSubstreamState.pollNext_ops h o ho
    cases hr : readsOn sub (.inbound sub' op)
    · rfl
    · have : sub' = sub := by
        unfold readsOn at hr
        split at hr <;> simp_all
      exact absurd (this ▸ hs') hs

end Exchange

def PoolFirst (pool : SelectAll InboundSubstreamState) (trace : List Obs) : Prop :=
  ∀ sub, SubFollows InboundSubstreamState.substream? FirstFits pool (served sub trace) sub

namespace PoolFirst

variable {pool : SelectAll InboundSubstreamState} {trace : List Obs} {i : Nat}
  {e : Entry InboundSubstreamState} {io : SinkIo KadRequestMsg}
  {p : Polled InboundSubstreamState}

theorem append (hI : PoolFirst pool trace) {obs : List Obs}
    (hobs : ∀ sub, served sub obs = false) : PoolFirst pool (trace ++ obs) := fun sub => by
  simpa only [served_append, hobs, Bool.or_false] using hI sub

theorem polled_set (hI : PoolFirst pool trace) (he : pool[i]? = some e)
    (hp : e.stream.pollNext io = some p) (sub : Substream) :
    SubFollows InboundSubstreamState.substream? FirstFits
      (pool.set i ⟨p.state, false, p.state.parkedOn⟩) (served sub (trace ++ p.ops)) sub := by
  rw [served_append]
  by_cases hs : e.stream.substream? = some sub
  · have hf := (hI sub).2 e (List.getElem?_mem he) hs
    exact (hI sub).set he (fun _ => ⟨hs, pollNext_first hp hs hf⟩) fun h => absurd hs h
  · rw [pollNext_unserved hp hs, Bool.or_false]
    exact (hI sub).set he (fun hx => absurd (inbound_pollNext_keeps hp hx) hs) fun _ => rfl

theorem item (hI : PoolFirst pool trace) (he : pool[i]? = some e)
    (hp : e.stream.pollNext io = some p) (item : ConnectionHandlerEvent) :
    PoolFirst (SelectAll.push (pool.eraseIdx i) p.state) (trace ++ p.ops ++ [.event item]) :=
  fun sub => by
    rw [served_append, served_event, Bool.or_false]
    have hφ : e.stream.substream? ≠ some sub → served sub (trace ++ p.ops) = served sub trace :=
      fun hs => by rw [served_append, pollNext_unserved hp hs, Bool.or_false]
    obtain ⟨hf, hzero⟩ := (hI sub).eraseIdx he hφ
    refine hf.push fun hs => ⟨hzero (inbound_pollNext_keeps hp hs), ?_⟩
    have hfit := (hI sub).2 e (List.getElem?_mem he) (inbound_pollNext_keeps hp hs)
    simpa only [served_append] using pollNext_first hp (inbound_pollNext_keeps hp hs) hfit

theorem done (hI : PoolFirst pool trace) (he : pool[i]? = some e)
    (hp : e.stream.pollNext io = some p) : PoolFirst (pool.eraseIdx i) (trace ++ p.ops) :=
  fun sub => ((hI sub).eraseIdx he fun hs => by
    rw [served_append, pollNext_unserved hp hs, Bool.or_false]).1

theorem pollInbound {sched : List (Nat × SinkIo KadRequestMsg)}
    {inb : PoolPolled InboundSubstreamState} (hr : Handler.pollInbound pool sched = some inb)
    (hI : PoolFirst pool trace) :
    PoolFirst inb.pool (trace ++ inb.ops ++ inb.item.toList.map .event) :=
  SelectAll.pollNext_inv PoolFirst (fun _ _ _ _ _ _ hI he _ hp _ => hI.polled_set he hp)
    (fun _ _ _ _ _ _ item hI he _ hp _ => hI.item he hp item)
    (fun _ _ _ _ _ _ hI he _ hp _ => hI.done he hp) trace hr hI

theorem reset (hI : PoolFirst pool trace) (he : pool[i]? = some e) {id : UniqueConnecId}
    {sub : Substream} {waker : Option Waker} (hw : e.stream = .waitingBehaviour id sub waker) :
    PoolFirst (pool.set i { e with stream := .closing sub }) trace := fun sub' =>
  (hI sub').set he (fun hx => ⟨by simpa [hw, InboundSubstreamState.substream?] using hx, trivial⟩)
    fun _ => rfl

theorem accept (hI : PoolFirst pool trace) (he : pool[i]? = some e) {id : UniqueConnecId}
    {sub : Substream} {waker : Option Waker} (hw : e.stream = .waitingBehaviour id sub waker)
    (msg : KadResponseMsg) (queued : Bool) (parked : Option Substream) :
    PoolFirst (pool.set i ⟨.pendingSend id sub msg, queued, parked⟩) trace := fun sub' => by
  refine (hI sub').set he (fun hx => ?_) fun _ => rfl
  have hs : e.stream.substream? = some sub' := by
    simpa [hw, InboundSubstreamState.substream?] using hx
  have := (hI sub').2 e (List.getElem?_mem he) hs
  rw [hw] at this
  exact ⟨hs, this⟩

theorem evict (hI : PoolFirst pool trace) (he : pool[i]? = some e) :
    PoolFirst (pool.set i { e with stream := .cancelled }) trace := fun sub =>
  (hI sub).set he (fun hx => by simp [InboundSubstreamState.substream?] at hx) fun _ => rfl

theorem push_fresh (hI : PoolFirst pool trace) {n : Substream}
    (hfree : ∀ e ∈ pool, e.stream.substream? ≠ some n) (hn : served n trace = false)
    (id : UniqueConnecId) : PoolFirst (SelectAll.push pool (.waitingMessage true id n)) trace :=
  fun sub => (hI sub).push fun hs => by
    obtain rfl : n = sub := by simpa [InboundSubstreamState.substream?] using hs
    exact ⟨List.countP_eq_zero.2 fun e he => by simpa using hfree e he, by simp [FirstFits, hn]⟩

theorem of_streams (hI : PoolFirst pool trace) {pool' : SelectAll InboundSubstreamState}
    (h : pool'.map Entry.stream = pool.map Entry.stream) : PoolFirst pool' trace :=
  fun sub => (hI sub).of_streams h

end PoolFirst

theorem pollOutbound_unserved {pool : SelectAll OutboundSubstreamState}
    {sched : List (Nat × SinkIo KadResponseMsg)} {out : PoolPolled OutboundSubstreamState}
    (hout : pollOutbound pool sched = some out) (sub : Substream) :
    served sub (out.ops ++ out.item.toList.map .event) = false :=
  served_of_ops <| SelectAll.pollNext_obs (Q := fun o => readsOn sub o = false)
    (fun _ _ _ hp o ho => by
      obtain ⟨_, _, -, rfl⟩ := OutboundSubstreamState.pollNext_ops hp o ho
      rfl) (fun _ _ _ _ _ _ => rfl) hout

theorem poolFirst_poll {h h' : Handler} {trace : List Obs}
    (hI : PoolFirst h.inboundSubstreams trace) {now : Instant}
    {outSched : List (Nat × SinkIo KadResponseMsg)}
    {inSched : List (Nat × SinkIo KadRequestMsg)} {r : Poll ConnectionHandlerEvent}
    {obs : List Obs} (hp : h.poll now outSched inSched = some (h', r, obs)) :
    PoolFirst h'.inboundSubstreams (trace ++ obs ++ pollObs r) := by
  have hr : ∀ sub, served sub (pollObs r) = false := fun sub => by cases r <;> rfl
  rcases poll_cases hp with ⟨_, -, -, rfl, -, rfl⟩ | ⟨-, hp⟩
  · simpa using hI.append hr
  obtain ⟨out, hpo, hrest⟩ := pollSubstreams_cases hp
  have ho := pollOutbound_unserved hpo
  rcases hrest with ⟨event, hitem, rfl, rfl, rfl⟩ | ⟨inb, hitem, hpi, hrest⟩
  · simpa [hitem, pollObs] using hI.append ho
  simp only [hitem, Option.toList_none, List.map_nil, List.append_nil] at ho
  have hi := (hI.append ho).pollInbound hpi
  rcases hrest with ⟨event, hitem', rfl, rfl, rfl⟩ | ⟨hitem', rfl, hr'⟩
  · simpa [hitem', pollObs] using hi
  rw [hitem', Option.toList_none, List.map_nil, List.append_nil] at hi
  rw [← List.append_assoc]
  rcases requestOrIdle_cases hr' with ⟨-, -, rfl, -⟩ | ⟨rfl, -⟩ <;> exact hi.append hr

theorem poolFirst_step {w w' : World} (hF : HandlerFollows w.substreams w.handler w.trace)
    (hI : PoolFirst w.handler.inboundSubstreams w.trace) (hs : Step w w') :
    PoolFirst w'.handler.inboundSubstreams w'.trace := by
  cases hs with
  | behaviour message h obs he =>
    obtain ⟨-, hpool⟩ := onBehaviourEvent_pools he
    rcases hpool with ⟨hin, rfl⟩ | ⟨i, e, id, sub, waker, hi, hw, ⟨hin, rfl⟩ | ⟨msg, hin, rfl⟩⟩ <;>
      rw [hin]
    · exact hI.append fun _ => rfl
    · exact (hI.reset hi hw).append fun _ => rfl
    · exact (hI.accept hi hw msg _ _).append fun _ => rfl
  | fullyNegotiatedOutbound hout =>
    refine (by simpa [onConnectionEvent] using hI : PoolFirst _ w.trace).append fun sub =>
      served_of_ops fun o ho => ?_
    obtain ⟨_, _, rfl⟩ := World.mem_opened ho
    rfl
  | dialUpgradeError error hout =>
    simpa [onConnectionEvent] using hI
  | fullyNegotiatedInbound =>
    refine PoolFirst.append ?_ fun sub => ?_
    · obtain ⟨-, ⟨hin, -⟩ | ⟨pool, hpool, hin, -⟩⟩ :=
        onFullyNegotiatedInbound_cases w.handler w.substreams <;>
        simp only [onConnectionEvent, hin]
      · exact hI
      have hunheld : ∀ e ∈ w.handler.inboundSubstreams, e.stream.substream? ≠ some w.substreams :=
        fun e he hs => Nat.lt_irrefl _ (hF.inBounded e he _ hs)
      have hn := served_of_project (hF.out.unused _ le_rfl)
      rcases hpool with rfl | ⟨i, e, hi, rfl⟩
      · exact hI.push_fresh hunheld hn _
      · refine (hI.evict hi).push_fresh (fun e' he' hs => ?_) hn _
        rcases SelectAll.mem_set_of_mem he' with he' | rfl
        · exact hunheld e' he' hs
        · cases hs
    · simp only [World.admitted]
      split <;> rfl
  | remoteProtocolsChange change =>
    obtain ⟨_, _, he⟩ := onRemoteProtocolsChange_eq w.handler change
    exact (by simpa [he] using hI : PoolFirst _ w.trace).append fun _ => rfl
  | poll outSched inSched h r obs hp => exact poolFirst_poll hI hp
  | wake s => exact hI.of_streams (SelectAll.wake_streams _ s _)
  | tick => exact hI

theorem poolFirst_of_reachable {w : World} (hw : Reachable w) :
    PoolFirst w.handler.inboundSubstreams w.trace := by
  induction hw with
  | init => exact fun _ => SubFollows.of_unheld (List.forall_mem_nil _)
  | step hw hs ih => exact poolFirst_step (handlerFollows_of_reachable hw) ih hs

/-- An inbound exchange waits for its first request exactly while none was read on its
substream: `WaitingMessage { first }` has `first` true if and only if the run has read no request
on the substream. So the exchanges `on_fully_negotiated_inbound` may evict at the cap, those
waiting to be reused, are exactly the idle ones that have already served a request; an exchange
still waiting for its first request is never evicted. -/
theorem first_iff_unserved {w : World} (hw : Reachable w) :
    (∀ e ∈ w.handler.inboundSubstreams, ∀ first id sub,
      e.stream = .waitingMessage first id sub → (first = true ↔ served sub w.trace = false)) ∧
    ∀ e ∈ w.handler.inboundSubstreams, e.stream.waitingToBeReused = true →
      ∃ id sub, e.stream = .waitingMessage false id sub ∧ served sub w.trace = true := by
  have hI := poolFirst_of_reachable hw
  have hfit : ∀ e ∈ w.handler.inboundSubstreams, ∀ first id sub,
      e.stream = .waitingMessage first id sub → first = !served sub w.trace :=
    fun e he first id sub hw => by
      simpa [hw, FirstFits] using (hI sub).2 e he (by simp [hw, InboundSubstreamState.substream?])
  refine ⟨fun e he first id sub hw => ?_, fun e he hr => ?_⟩
  · rw [hfit e he first id sub hw]
    cases served sub w.trace <;> decide
  · obtain ⟨id, sub, hw⟩ : ∃ id sub, e.stream = .waitingMessage false id sub := by
      revert hr
      rcases e.stream with ⟨_ | _, id, sub⟩ | _ | _ | _ | _ | _ | _ <;>
        simp [InboundSubstreamState.waitingToBeReused]
    exact ⟨id, sub, hw, by simpa using (hfit e he false id sub hw).symm⟩

def addProviderRequestIo : SinkIo KadRequestMsg :=
  ⟨.pending, .ok (), .pending, .ready (some (.ok (.addProvider [1] 7))), .pending⟩

theorem first_iff_unserved_addProvider :
    ∃ w, (World.init ["/ipfs/kad/1.0.0"] 10000 .listener .server 0).run
        [.fullyNegotiatedInbound, .poll [] [], .poll [] [(0, addProviderRequestIo)]] = some w ∧
      (∀ e ∈ w.handler.inboundSubstreams, ∀ first id sub,
        e.stream = .waitingMessage first id sub → (first = true ↔ served sub w.trace = false)) ∧
      ∀ e ∈ w.handler.inboundSubstreams, e.stream.waitingToBeReused = true →
        ∃ id sub, e.stream = .waitingMessage false id sub ∧ served sub w.trace = true :=
  have hrun : (World.init ["/ipfs/kad/1.0.0"] 10000 .listener .server 0).run
      [.fullyNegotiatedInbound, .poll [] [], .poll [] [(0, addProviderRequestIo)]] = some _ := rfl
  ⟨_, hrun, first_iff_unserved (World.reachable_of_run (.init _ _ _ _ _) hrun)⟩

end Libp2p.Kad.Substreams
