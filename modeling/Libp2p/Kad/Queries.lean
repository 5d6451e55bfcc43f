import Libp2p.Kad.Pattern

namespace Libp2p.Kad.Queries

open Handler

def startedBy : Obs → Option QueryId
  | .command m => m.queryId?
  | _ => none

def answeredBy : Obs → Option QueryId
  | .event (.notifyBehaviour e) => e.queryId?
  | _ => none

section Counts

variable (q : QueryId)

/-- The requests for `q` the behaviour enqueued. -/
def started (trace : List Obs) : Nat := trace.countP (startedBy · == some q)

/-- The terminal events for `q` the handler emitted. -/
def answered (trace : List Obs) : Nat := trace.countP (answeredBy · == some q)

@[simp] theorem started_append (a b : List Obs) : started q (a ++ b) = started q a + started q b :=
  List.countP_append _ _ _

@[simp] theorem answered_append (a b : List Obs) :
    answered q (a ++ b) = answered q a + answered q b :=
  List.countP_append _ _ _

/-- The requests for `q` still waiting for a substream. -/
def queued (h : Handler) : Nat := h.pendingMessages.countP (·.2 == some q)

@[simp] theorem started_command (m : HandlerIn) :
    started q [.command m] = if m.queryId? = some q then 1 else 0 := by
  simp [started, startedBy, List.countP_cons]

@[simp] theorem queued_enqueue (h : Handler) (msg : KadRequestMsg) (queryId : Option QueryId) :
    queued q (h.enqueue msg queryId) = queued q h + if queryId = some q then 1 else 0 := by
  simp [queued, enqueue, List.countP_append, List.countP_cons]

/-- The outbound exchanges that still have to answer `q`. -/
def held (pool : SelectAll OutboundSubstreamState) : Nat := pool.countP (·.stream.queryId? == some q)

def Balanced (w : World) : Prop :=
  started q w.trace = answered q w.trace + queued q w.handler + held q w.handler.outboundSubstreams

def Quiet (obs : List Obs) : Prop := ∀ o ∈ obs, startedBy o = none ∧ answeredBy o = none

theorem Quiet.counts {obs : List Obs} (h : Quiet obs) (q : QueryId) :
    started q obs = 0 ∧ answered q obs = 0 := by
  constructor <;> refine List.countP_eq_zero.2 fun o ho => ?_ <;> simp [(h o ho).1, (h o ho).2]

theorem held_eq_countP_map (pool : SelectAll OutboundSubstreamState) :
    held q pool = (pool.map Entry.stream).countP (·.queryId? == some q) := by
  rw [List.countP_map]; rfl

theorem held_set {pool : SelectAll OutboundSubstreamState} {i : Nat} {e : Entry _} {s}
    (he : pool[i]? = some e) (hs : s.queryId? = e.stream.queryId?) (b : Bool) (p : Option Substream) :
    held q (pool.set i ⟨s, b, p⟩) = held q pool := by
  obtain ⟨hi, rfl⟩ := List.getElem?_eq_some_iff.mp he
  have := List.boole_getElem_le_countP (fun e => e.stream.queryId? == some q) pool i hi
  simp only [held, List.countP_set _ _ _ _ hi, hs]
  omega

theorem held_eraseIdx {pool : SelectAll OutboundSubstreamState} {i : Nat} {e : Entry _}
    (he : pool[i]? = some e) :
    held q pool = held q (pool.eraseIdx i) + if e.stream.queryId? == some q then 1 else 0 := by
  obtain ⟨hi, rfl⟩ := List.getElem?_eq_some_iff.mp he
  exact SelectAll.countP_eraseIdx _ pool i hi

theorem quiet_outbound {io : SinkIo KadResponseMsg} {s : OutboundSubstreamState} {p}
    (h : s.pollNext io = some p) : Quiet p.ops := fun o ho => by
  obtain ⟨_, _, -, rfl⟩ := OutboundSubstreamState.pollNext_ops h o ho
  exact ⟨rfl, rfl⟩

theorem quiet_inbound {io : SinkIo KadRequestMsg} {s : InboundSubstreamState} {p}
    (h : s.pollNext io = some p) : Quiet p.ops := fun o ho => by
  obtain ⟨_, _, -, rfl⟩ := InboundSubstreamState.pollNext_ops h o ho
  exact ⟨rfl, rfl⟩

theorem pollOutbound_balanced {pool : SelectAll OutboundSubstreamState}
    {sched : List (Nat × SinkIo KadResponseMsg)} {out : PoolPolled OutboundSubstreamState}
    (hout : pollOutbound pool sched = some out) :
    held q out.pool + answered q (out.ops ++ out.item.toList.map .event) = held q pool ∧
      started q (out.ops ++ out.item.toList.map .event) = 0 := by
  have := SelectAll.pollNext_inv
    (fun pool' trace => held q pool' + answered q trace = held q pool ∧ started q trace = 0)
    ?_ ?_ ?_ [] hout ⟨by simp [answered], rfl⟩
  · simpa using this
  all_goals intro pool' trace i e io p
  · intro ⟨hI, hs⟩ he _ hp hr
    have ha := OutboundSubstreamState.pollNext_answers hp
    simp only [OutboundSubstreamState.Answers, hr] at ha
    have hc : started q p.ops = 0 ∧ answered q p.ops = 0 := (quiet_outbound hp).counts q
    rw [held_set q he ha, answered_append, started_append]
    omega
  · intro item ⟨hI, hs⟩ he _ hp hr
    have ha := OutboundSubstreamState.pollNext_answers hp
    simp only [OutboundSubstreamState.Answers, hr] at ha
    obtain ⟨q₀, event, hq₀, rfl, hev, hst⟩ := ha
    have hc : started q p.ops = 0 ∧ answered q p.ops = 0 := (quiet_outbound hp).counts q
    have hone : answered q [.event (.notifyBehaviour event)] = if q₀ = q then 1 else 0 := by
      simp [answered, List.countP_cons, answeredBy, hev]
    have hsone : started q [.event (.notifyBehaviour event)] = 0 := rfl
    have hpush : held q (SelectAll.push (pool'.eraseIdx i) p.state) = held q (pool'.eraseIdx i) := by
      simp [SelectAll.push, held, List.countP_cons, hst]
    rw [held_eraseIdx q he, hq₀] at hI
    simp only [answered_append, started_append, hpush, hone, hsone] at hI hs ⊢
    simp only [Option.some.injEq, beq_iff_eq] at hI
    omega
  · intro ⟨hI, hs⟩ he _ hp hr
    have ha := OutboundSubstreamState.pollNext_answers hp
    simp only [OutboundSubstreamState.Answers, hr] at ha
    have hc : started q p.ops = 0 ∧ answered q p.ops = 0 := (quiet_outbound hp).counts q
    rw [held_eraseIdx q he, ha] at hI
    simp only [answered_append, started_append] at hI hs ⊢
    simp at hI
    omega

theorem pollInbound_quiet {pool : SelectAll InboundSubstreamState}
    {sched : List (Nat × SinkIo KadRequestMsg)} {inb : PoolPolled InboundSubstreamState}
    (hinb : pollInbound pool sched = some inb) : Quiet (inb.ops ++ inb.item.toList.map .event) :=
  SelectAll.pollNext_obs (fun _ _ _ hp => quiet_inbound hp) (fun _ _ _ _ hp hr => by
    obtain ⟨event, rfl, hreq | ⟨_, _, rfl⟩⟩ := InboundSubstreamState.pollNext_event hp hr
    · cases event <;> simp_all [startedBy, answeredBy, HandlerEvent.requestId?, HandlerEvent.queryId?]
    · exact ⟨rfl, rfl⟩) hinb

theorem quiet_opened (h : Handler) (s : Substream) : Quiet (World.opened h s) := fun o ho => by
  obtain ⟨_, _, rfl⟩ := World.mem_opened ho
  exact ⟨rfl, rfl⟩

theorem quiet_admitted (w : World) (h : Handler) (s : Substream) : Quiet (w.admitted h s) := by
  unfold World.admitted; split <;> simp [Quiet, startedBy, answeredBy]

theorem quiet_answer (requestId : RequestId) (msg : KadResponseMsg)
    (pool : SelectAll InboundSubstreamState) : Quiet (answerPendingRequest requestId msg pool).2 :=
  fun o ho => by
    obtain ⟨_, _, _, rfl⟩ := answerPendingRequest_obs _ _ _ o ho
    exact ⟨rfl, rfl⟩

theorem onBehaviourEvent_balanced {h h' : Handler} {m : HandlerIn} {obs : List Obs}
    (he : h.onBehaviourEvent m = some (h', obs)) :
    queued q h' = queued q h + started q [.command m] ∧
      h'.outboundSubstreams = h.outboundSubstreams ∧ Quiet obs := by
  cases m <;> simp only [onBehaviourEvent, answer, Option.map_eq_some', Option.some.injEq,
    Prod.mk.injEq] at he
  case reset =>
    obtain ⟨pool, -, rfl, rfl⟩ := he
    exact ⟨by simp [queued, HandlerIn.queryId?], rfl, List.forall_mem_nil _⟩
  all_goals obtain ⟨rfl, rfl⟩ := he
  -- The answers and `ReconfigureMode` leave the queue as it is; a request is queued for `q` by
  -- the command that starts `q`.
  all_goals refine ⟨by first | rfl | simp [HandlerIn.queryId?], rfl, ?_⟩
  all_goals first
    | exact quiet_answer _ _ _
    | exact List.forall_mem_nil _

theorem onFullyNegotiatedOutbound_balanced (h : Handler) (s : Substream) :
    queued q (h.onFullyNegotiatedOutbound s) + held q (h.onFullyNegotiatedOutbound s).outboundSubstreams =
      queued q h + held q h.outboundSubstreams := by
  rcases hp : h.pendingMessages with _ | ⟨⟨msg, queryId⟩, pending⟩
  · simp [onFullyNegotiatedOutbound_of_nil hp, confirmOnFirstSubstream_eq, queued, held]
  · simp [onFullyNegotiatedOutbound_of_cons hp, confirmOnFirstSubstream_eq, queued, held, hp,
      SelectAll.push, OutboundSubstreamState.queryId?, List.countP_cons]
    omega

theorem onDialUpgradeError_balanced (h : Handler) (error : StreamUpgradeError) :
    queued q (h.onDialUpgradeError error) + held q (h.onDialUpgradeError error).outboundSubstreams =
      queued q h + held q h.outboundSubstreams := by
  rcases hp : h.pendingMessages with _ | ⟨⟨msg, _ | queryId⟩, pending⟩
  · simp [onDialUpgradeError_of_nil hp, queued, held]
  · simp [onDialUpgradeError_of_cons hp, queued, held, hp, List.countP_cons]
  · simp [onDialUpgradeError_of_cons hp, queued, held, hp, SelectAll.push,
      OutboundSubstreamState.queryId?, List.countP_cons]
    omega

theorem poll_balanced {h h' : Handler} {now : Instant}
    {outSched : List (Nat × SinkIo KadResponseMsg)} {inSched : List (Nat × SinkIo KadRequestMsg)}
    {r : Poll ConnectionHandlerEvent} {obs : List Obs}
    (hp : h.poll now outSched inSched = some (h', r, obs)) :
    queued q h' = queued q h ∧
      held q h'.outboundSubstreams + answered q (obs ++ pollObs r) = held q h.outboundSubstreams ∧
      started q (obs ++ pollObs r) = 0 := by
  rcases poll_cases hp with ⟨status, -, -, rfl, rfl, rfl⟩ | ⟨-, hp⟩
  · cases status.supported <;> simp [queued, pollObs, statusEvent, answered, started, answeredBy,
      startedBy, HandlerEvent.queryId?, List.countP_cons]
  obtain ⟨out, hout, hin⟩ := pollSubstreams_cases hp
  obtain ⟨hb, hs⟩ := pollOutbound_balanced q hout
  rcases hin with ⟨event, he, rfl, rfl, rfl⟩ | ⟨inb, hn, hinb, hin⟩
  · simp only [he, Option.toList_some, List.map_cons, List.map_nil] at hb hs
    exact ⟨rfl, by simpa [pollObs] using hb, by simpa [pollObs] using hs⟩
  have hq : started q (inb.ops ++ inb.item.toList.map .event) = 0 ∧
      answered q (inb.ops ++ inb.item.toList.map .event) = 0 := (pollInbound_quiet hinb).counts q
  simp only [hn, Option.toList_none, List.map_nil, List.append_nil] at hb hs
  rcases hin with ⟨event, he, rfl, rfl, rfl⟩ | ⟨hn', rfl, hr⟩
  · simp only [he, Option.toList_some, List.map_cons, List.map_nil, answered_append,
      started_append] at hq
    simp only [pollObs, answered_append, started_append, List.append_assoc]
    exact ⟨rfl, by omega, by omega⟩
  · simp only [hn', Option.toList_none, List.map_nil, List.append_nil] at hq
    have hr0 : started q (pollObs r) = 0 ∧ answered q (pollObs r) = 0 := by
      rcases requestOrIdle_cases hr with ⟨-, -, -, rfl⟩ | ⟨-, rfl⟩ <;> exact ⟨rfl, rfl⟩
    simp only [answered_append, started_append] at hq hr0 ⊢
    rcases requestOrIdle_cases hr with ⟨-, -, rfl, -⟩ | ⟨rfl, -⟩ <;> dsimp only <;>
      exact ⟨rfl, by omega, by omega⟩

end Counts

namespace Balanced

variable {w w' : World}

theorem init (protocolNames : List String) (idleTimeout : Duration) (endpoint : ConnectedPoint)
    (mode : Mode) (now : Instant) (q : QueryId) :
    Balanced q (World.init protocolNames idleTimeout endpoint mode now) := by
  simp [Balanced, World.init, Handler.new, started, answered, queued, held]

theorem step {q : QueryId} (hb : Balanced q w) (hs : Step w w') : Balanced q w' := by
  unfold Balanced at hb ⊢
  cases hs with
  | behaviour message h obs he =>
    obtain ⟨hq, ho, hquiet⟩ := onBehaviourEvent_balanced q he
    have hc : started q obs = 0 ∧ answered q obs = 0 := hquiet.counts q
    simp only [started_append, answered_append, List.cons_append, List.nil_append, hq, ho] at hb ⊢
    have h1 : started q (.command message :: obs) = started q [.command message] + started q obs :=
      started_append q [.command message] obs
    have h2 : answered q (.command message :: obs) = answered q obs := by
      simp [answered, answeredBy, List.countP_cons]
    omega
  | fullyNegotiatedOutbound hout =>
    have := onFullyNegotiatedOutbound_balanced q w.handler w.substreams
    have hc := (quiet_opened (w.handler.onConnectionEvent (.fullyNegotiatedOutbound w.substreams))
      w.substreams).counts q
    simp only [started_append, answered_append, onConnectionEvent] at hb hc ⊢
    omega
  | dialUpgradeError error hout =>
    have := onDialUpgradeError_balanced q w.handler error
    simp only [onConnectionEvent] at hb ⊢
    omega
  | fullyNegotiatedInbound =>
    obtain ⟨pool, id, he⟩ := onFullyNegotiatedInbound_eq w.handler w.substreams
    have hc := (quiet_admitted w (w.handler.onConnectionEvent (.fullyNegotiatedInbound w.substreams))
      w.substreams).counts q
    simp only [started_append, answered_append, onConnectionEvent, he,
      confirmOnFirstSubstream_eq] at hb hc ⊢
    simp only [queued, held] at hb ⊢
    omega
  | remoteProtocolsChange change =>
    obtain ⟨_, _, he⟩ := onRemoteProtocolsChange_eq w.handler change
    obtain ⟨hs, ha⟩ := Quiet.counts (List.forall_mem_singleton.2 ⟨rfl, rfl⟩ :
      Quiet [.protocolsChanged w.handler.protocolStatus
        (w.handler.onConnectionEvent (.remoteProtocolsChange change)).protocolStatus]) q
    rw [started_append, answered_append, hs, ha]
    simpa only [he, Nat.add_zero] using hb
  | poll outSched inSched h r obs hp =>
    obtain ⟨hq, hh, hs⟩ := poll_balanced q hp
    simp only [started_append, answered_append, List.append_assoc] at hb hh hs ⊢
    omega
  | wake s =>
    have : held q (w.handler.wake s).outboundSubstreams = held q w.handler.outboundSubstreams := by
      rw [held_eq_countP_map, held_eq_countP_map, Handler.wake, SelectAll.wake_streams]
    simpa only [queued, this] using hb
  | tick => exact hb

theorem reachable {w : World} (hw : Reachable w) (q : QueryId) : Balanced q w := by
  induction hw with
  | init => exact init _ _ _ _ _ q
  | step _ hs ih => exact ih.step hs

end Balanced

section Results

open Pattern

end Results

end Libp2p.Kad.Queries
