import Libp2p.Kad.Protocol

namespace Libp2p.Kad

/-- The results a substream gives to the operations of one `poll_next` call of the exchange that
owns it. A call performs each operation at most once, so one result per operation is enough. -/
structure SinkIo (α : Type) where
  ready : Poll (Except IoError Unit)
  send : Except IoError Unit
  flush : Poll (Except IoError Unit)
  next : Poll (Option (Except IoError α))
  close : Poll (Except IoError Unit)

/-- An operation performed on a substream, with the result it gave; `α` is read, `β` written. -/
inductive SinkOp (α β : Type) where
  | pollReady (result : Poll (Except IoError Unit))
  | startSend (item : β) (result : Except IoError Unit)
  | pollFlush (result : Poll (Except IoError Unit))
  | pollNext (result : Poll (Option (Except IoError α)))
  | pollClose (result : Poll (Except IoError Unit))

/-- The waker of the `SelectAll` task an exchange is polled in. Each task of a
`FuturesUnordered` gets its own waker, so it is the only one an exchange can store. -/
inductive Waker where
  | task
  deriving DecidableEq

inductive OutboundSubstreamState where
  | pendingSend (substream : Substream) (msg : KadRequestMsg) (queryId : Option QueryId)
  | pendingFlush (substream : Substream) (queryId : Option QueryId)
  | waitingAnswer (substream : Substream) (queryId : QueryId)
  | reportError (error : HandlerQueryErr) (queryId : QueryId)
  | closing (substream : Substream)
  | done
  | poisoned
  deriving DecidableEq

inductive InboundSubstreamState where
  | waitingMessage (first : Bool) (connectionId : UniqueConnecId) (substream : Substream)
  | waitingBehaviour (id : UniqueConnecId) (substream : Substream) (waker : Option Waker)
  | pendingSend (id : UniqueConnecId) (substream : Substream) (msg : KadResponseMsg)
  | pendingFlush (id : UniqueConnecId) (substream : Substream)
  | closing (substream : Substream)
  | cancelled
  | poisoned
  deriving DecidableEq

/-- What a run of the handler shows: the commands of the behaviour, the outbound substreams the
connection negotiates with the message each one gets, the inbound substreams the handler admits
with the stamp each one gets, the operations on each substream, the answers
`answer_pending_request` hands to an exchange, the protocol status before and after each change
of the remote's protocols, and the events `poll` returns. -/
inductive Obs where
  | command (message : HandlerIn)
  | opened (substream : Substream) (msg : KadRequestMsg) (queryId : Option QueryId)
  | admitted (connectionId : UniqueConnecId) (substream : Substream)
  | outbound (substream : Substream) (op : SinkOp KadResponseMsg KadRequestMsg)
  | inbound (substream : Substream) (op : SinkOp KadRequestMsg KadResponseMsg)
  | accepted (id : UniqueConnecId) (substream : Substream) (msg : KadResponseMsg)
  | protocolsChanged (before after : Option ProtocolStatus)
  | event (event : ConnectionHandlerEvent)

structure Polled (σ : Type) where
  state : σ
  result : Poll (Option ConnectionHandlerEvent)
  ops : List Obs

/-- One turn of a `poll_next` loop: go round again in a new state, return, or reach an
`unreachable!()`. -/
inductive Iteration (σ : Type) where
  | again (next : σ) (ops : List Obs)
  | ret (state : σ) (result : Poll (Option ConnectionHandlerEvent)) (ops : List Obs)
  | unreachable

variable {σ : Type}

def Iteration.ops : Iteration σ → List Obs
  | .again _ ops | .ret _ _ ops => ops
  | .unreachable => []

def Iteration.run (body : σ → Iteration σ) : Nat → σ → Option (Polled σ)
  | 0, _ => none
  | fuel + 1, s =>
    match body s with
    | .again n ops => (run body fuel n).map fun p => { p with ops := ops ++ p.ops }
    | .ret state result ops => some ⟨state, result, ops⟩
    | .unreachable => none

/-- The `loop` of a `poll_next`. Every turn that goes round again lowers `rank`, so `rank s + 1`
turns run it to its end. -/
def Iteration.loop (rank : σ → Nat) (body : σ → Iteration σ) (s : σ) : Option (Polled σ) :=
  run body (rank s + 1) s

section Loop

variable {rank : σ → Nat} {body : σ → Iteration σ} {s : σ}

theorem Iteration.run_fuel (hdec : ∀ s n ops, body s = .again n ops → rank n < rank s) :
    ∀ (f g : Nat) (s : σ), rank s < f → rank s < g → run body f s = run body g s
  | 0, _, _, hf, _ | _, 0, _, _, hf => absurd hf (Nat.not_lt_zero _)
  | f + 1, g + 1, s, hf, hg => by
    cases hb : body s with
    | again n ops =>
      have hn := hdec s n ops hb
      simp only [run, hb, run_fuel hdec f g n (by omega) (by omega)]
    | ret | unreachable => simp only [run, hb]

theorem Iteration.loop_of_again (hdec : ∀ s n ops, body s = .again n ops → rank n < rank s)
    {n : σ} {ops : List Obs} (h : body s = .again n ops) :
    loop rank body s = (loop rank body n).map fun p => { p with ops := ops ++ p.ops } := by
  have hn := hdec s n ops h
  simp only [loop, run, h, run_fuel hdec (rank s) (rank n + 1) n hn (by omega)]

theorem Iteration.run_of_loop (hdec : ∀ s n ops, body s = .again n ops → rank n < rank s)
    {p : Polled σ} (h : loop rank body s = some p) {fuel : Nat} (hf : rank s < fuel) :
    run body fuel s = some p := by
  rw [← h, loop]
  exact run_fuel hdec fuel _ s hf (Nat.lt_succ_self _)

theorem Iteration.loop_of_ret {state : σ} {result} {ops : List Obs}
    (h : body s = .ret state result ops) : loop rank body s = some ⟨state, result, ops⟩ := by
  simp only [loop, run, h]

theorem Iteration.loop_of_unreachable (h : body s = .unreachable) : loop rank body s = none := by
  simp only [loop, run, h]

theorem Iteration.loop_induction (hdec : ∀ s n ops, body s = .again n ops → rank n < rank s)
    (Q : σ → Polled σ → Prop)
    (hcont : ∀ s n ops p, body s = .again n ops → Q n p → Q s { p with ops := ops ++ p.ops })
    (hret : ∀ s st r ops, body s = .ret st r ops → Q s ⟨st, r, ops⟩) :
    ∀ s p, loop rank body s = some p → Q s p := by
  intro s
  generalize hr : rank s = n
  induction n using Nat.strong_induction_on generalizing s with
  | _ n ih =>
    intro p hp
    cases hb : body s with
    | again m ops =>
      rw [loop_of_again hdec hb] at hp
      obtain ⟨p', hp', rfl⟩ := Option.map_eq_some'.mp hp
      exact hcont s m ops p' hb (ih _ (hr ▸ hdec s m ops hb) m rfl p' hp')
    | ret st r ops =>
      rw [loop_of_ret hb] at hp
      cases hp
      exact hret s st r ops hb
    | unreachable =>
      rw [loop_of_unreachable hb] at hp
      cases hp

theorem Iteration.loop_isSome (hdec : ∀ s n ops, body s = .again n ops → rank n < rank s)
    (P : σ → Prop)
    (hP : ∀ s n ops, P s → body s = .again n ops → P n)
    (hu : ∀ s, P s → body s ≠ .unreachable) :
    ∀ s, P s → (loop rank body s).isSome := by
  intro s
  generalize hr : rank s = n
  induction n using Nat.strong_induction_on generalizing s with
  | _ n ih =>
    intro hs
    cases hb : body s with
    | again m ops =>
      rw [loop_of_again hdec hb, Option.isSome_map']
      exact ih _ (hr ▸ hdec s m ops hb) m rfl (hP s m ops hs hb)
    | ret st r ops => rw [loop_of_ret hb]; rfl
    | unreachable => exact absurd hb (hu s hs)

theorem Iteration.loop_ops (hdec : ∀ s n ops, body s = .again n ops → rank n < rank s)
    (Q : σ → Obs → Prop) (hbody : ∀ s, ∀ o ∈ (body s).ops, Q s o)
    (hnext : ∀ s n ops, body s = .again n ops → ∀ o, Q n o → Q s o) :
    ∀ s p, loop rank body s = some p → ∀ o ∈ p.ops, Q s o := by
  refine loop_induction hdec (fun s p => ∀ o ∈ p.ops, Q s o) ?_ ?_
  · intro s n ops p hb hq o ho
    rcases List.mem_append.mp ho with ho | ho
    · exact hbody s o (by rw [hb]; exact ho)
    · exact hnext s n ops hb o (hq o ho)
  · intro s _ _ _ hb o ho
    exact hbody s o (by rw [hb]; exact ho)

end Loop

namespace OutboundSubstreamState

def ioError (error : IoError) (queryId : QueryId) : ConnectionHandlerEvent :=
  .notifyBehaviour (.queryError (.io error) queryId)

/-- One turn of the loop of `<OutboundSubstreamState as Stream>::poll_next`. Returning without
writing the state back leaves it `Poisoned`. -/
def body (io : SinkIo KadResponseMsg) : OutboundSubstreamState → Iteration OutboundSubstreamState
  | .pendingSend substream msg queryId =>
    let ready := Obs.outbound substream (.pollReady io.ready)
    match io.ready with
    | .ready (.ok ()) =>
      let send := Obs.outbound substream (.startSend msg io.send)
      match io.send with
      | .ok () => .again (.pendingFlush substream queryId) [ready, send]
      | .error error => .ret .done (.ready (queryId.map (ioError error))) [ready, send]
    | .pending => .ret (.pendingSend substream msg queryId) .pending [ready]
    | .ready (.error error) => .ret .done (.ready (queryId.map (ioError error))) [ready]
  | .pendingFlush substream queryId =>
    let flush := Obs.outbound substream (.pollFlush io.flush)
    match io.flush with
    | .ready (.ok ()) =>
      match queryId with
      | some queryId => .again (.waitingAnswer substream queryId) [flush]
      | none => .again (.closing substream) [flush]
    | .pending => .ret (.pendingFlush substream queryId) .pending [flush]
    | .ready (.error error) => .ret .done (.ready (queryId.map (ioError error))) [flush]
  | .waitingAnswer substream queryId =>
    let next := Obs.outbound substream (.pollNext io.next)
    match io.next with
    | .ready (some (.ok msg)) =>
      .ret (.closing substream) (.ready (some (.notifyBehaviour (processKadResponse msg queryId))))
        [next]
    | .pending => .ret (.waitingAnswer substream queryId) .pending [next]
    | .ready (some (.error error)) => .ret .done (.ready (some (ioError error queryId))) [next]
    | .ready none => .ret .done (.ready (some (ioError .unexpectedEof queryId))) [next]
  | .reportError error queryId =>
    .ret .done (.ready (some (.notifyBehaviour (.queryError error queryId)))) []
  | .closing stream =>
    let close := Obs.outbound stream (.pollClose io.close)
    match io.close with
    | .ready _ => .ret .poisoned (.ready none) [close]
    | .pending => .ret (.closing stream) .pending [close]
  | .done => .ret .done (.ready none) []
  | .poisoned => .unreachable

def rank : OutboundSubstreamState → Nat
  | .pendingSend .. => 3
  | .pendingFlush .. => 2
  | .waitingAnswer .. => 1
  | _ => 0

theorem rank_le_three (s : OutboundSubstreamState) : s.rank ≤ 3 := by
  cases s <;> simp [rank]

theorem rank_lt_of_body (io : SinkIo KadResponseMsg) (s n : OutboundSubstreamState) (ops)
    (h : body io s = .again n ops) : rank n < rank s := by
  unfold body at h
  split at h <;> (try split at h) <;> (try split at h) <;>
    simp only [Iteration.again.injEq, reduceCtorEq] at h <;> obtain ⟨rfl, -⟩ := h <;> simp [rank]

/-- `<OutboundSubstreamState as Stream>::poll_next`. -/
def pollNext (io : SinkIo KadResponseMsg) : OutboundSubstreamState →
    Option (Polled OutboundSubstreamState) :=
  Iteration.loop rank (body io)

def parkedOn : OutboundSubstreamState → Option Substream
  | .pendingSend s .. | .pendingFlush s _ | .waitingAnswer s _ | .closing s => some s
  | _ => none

def queryId? : OutboundSubstreamState → Option QueryId
  | .pendingSend _ _ queryId | .pendingFlush _ queryId => queryId
  | .waitingAnswer _ queryId | .reportError _ queryId => some queryId
  | _ => none

def Answers (s : OutboundSubstreamState) (p : Polled OutboundSubstreamState) : Prop :=
  match p.result with
  | .ready (some item) => ∃ queryId event, s.queryId? = some queryId ∧
      item = .notifyBehaviour event ∧ event.queryId? = some queryId ∧ p.state.queryId? = none
  | .ready none => s.queryId? = none
  | .pending => p.state.queryId? = s.queryId?

theorem queryId_of_again {io : SinkIo KadResponseMsg} {s n : OutboundSubstreamState} {ops}
    (h : body io s = .again n ops) : n.queryId? = s.queryId? := by
  unfold body at h
  split at h <;> (try split at h) <;> (try split at h) <;>
    simp only [Iteration.again.injEq, reduceCtorEq] at h <;> obtain ⟨rfl, -⟩ := h <;> rfl

theorem pollNext_answers {io : SinkIo KadResponseMsg} {s : OutboundSubstreamState} {p}
    (h : pollNext io s = some p) : Answers s p := by
  refine Iteration.loop_induction (rank_lt_of_body io) Answers (fun s n ops p hb hq => ?_)
    (fun s st r ops hb => ?_) s p h
  · simpa only [Answers, queryId_of_again hb] using hq
  · unfold body at hb
    split at hb <;> (try split at hb) <;> (try split at hb) <;>
      simp only [Iteration.ret.injEq, reduceCtorEq] at hb <;> obtain ⟨rfl, rfl, rfl⟩ := hb <;>
      (try cases ‹Option QueryId›) <;>
      simp [Answers, queryId?, ioError, processKadResponse_queryId] <;> rfl

theorem pollNext_event {io : SinkIo KadResponseMsg} {s : OutboundSubstreamState} {p} {item}
    (h : pollNext io s = some p) (hr : p.result = .ready (some item)) :
    ∃ event queryId, item = .notifyBehaviour event ∧ event.queryId? = some queryId := by
  have ha := pollNext_answers h
  simp only [Answers, hr] at ha
  obtain ⟨queryId, event, -, rfl, hq, -⟩ := ha
  exact ⟨event, queryId, rfl, hq⟩

theorem pollNext_ops {io : SinkIo KadResponseMsg} {s : OutboundSubstreamState} {p}
    (h : pollNext io s = some p) :
    ∀ o ∈ p.ops, ∃ sub op, s.parkedOn = some sub ∧ o = .outbound sub op := by
  refine Iteration.loop_ops (rank_lt_of_body io)
    (fun s o => ∃ sub op, s.parkedOn = some sub ∧ o = .outbound sub op)
    ?_ ?_ s p h
  · intro s
    unfold body
    split <;> (try split) <;> (try split) <;>
      simp only [Iteration.ops, parkedOn, List.forall_mem_cons, List.not_mem_nil, false_implies,
        implies_true, and_true]
    all_goals first | exact ⟨_, _, rfl, rfl⟩ | exact ⟨⟨_, _, rfl, rfl⟩, _, _, rfl, rfl⟩
  · intro s n ops hb o ho
    unfold body at hb
    split at hb <;> (try split at hb) <;> (try split at hb) <;>
      simp only [Iteration.again.injEq, reduceCtorEq] at hb <;> obtain ⟨rfl, -⟩ := hb <;>
      simpa [parkedOn] using ho

end OutboundSubstreamState

namespace InboundSubstreamState

/-- One turn of the loop of `<InboundSubstreamState as Stream>::poll_next`. Returning without
writing the state back leaves it `Poisoned`. -/
def body (io : SinkIo KadRequestMsg) : InboundSubstreamState → Iteration InboundSubstreamState
  | .waitingMessage first connectionId substream =>
    let next := Obs.inbound substream (.pollNext io.next)
    let request event := Iteration.ret (.waitingBehaviour connectionId substream none)
      (.ready (some (.notifyBehaviour event))) [next]
    match io.next with
    | .ready (some (.ok .ping)) => .again (.closing substream) [next]
    | .ready (some (.ok (.findNode key))) => request (.findNodeReq key ⟨connectionId⟩)
    | .ready (some (.ok (.getProviders key))) => request (.getProvidersReq key ⟨connectionId⟩)
    | .ready (some (.ok (.addProvider key provider))) =>
      .ret (.waitingMessage false connectionId substream)
        (.ready (some (.notifyBehaviour (.addProvider key provider)))) [next]
    | .ready (some (.ok (.getValue key))) => request (.getRecord key ⟨connectionId⟩)
    | .ready (some (.ok (.putValue record))) => request (.putRecord record ⟨connectionId⟩)
    | .pending => .ret (.waitingMessage first connectionId substream) .pending [next]
    | .ready none => .ret .poisoned (.ready none) [next]
    | .ready (some (.error _)) => .ret .poisoned (.ready none) [next]
  | .waitingBehaviour id substream _ => .ret (.waitingBehaviour id substream (some .task)) .pending []
  | .pendingSend id substream msg =>
    let ready := Obs.inbound substream (.pollReady io.ready)
    match io.ready with
    | .ready (.ok ()) =>
      let send := Obs.inbound substream (.startSend msg io.send)
      match io.send with
      | .ok () => .again (.pendingFlush id substream) [ready, send]
      | .error _ => .ret .poisoned (.ready none) [ready, send]
    | .pending => .ret (.pendingSend id substream msg) .pending [ready]
    | .ready (.error _) => .ret .poisoned (.ready none) [ready]
  | .pendingFlush id substream =>
    let flush := Obs.inbound substream (.pollFlush io.flush)
    match io.flush with
    | .ready (.ok ()) => .again (.waitingMessage false id substream) [flush]
    | .pending => .ret (.pendingFlush id substream) .pending [flush]
    | .ready (.error _) => .ret .poisoned (.ready none) [flush]
  | .closing stream =>
    let close := Obs.inbound stream (.pollClose io.close)
    match io.close with
    | .ready _ => .ret .poisoned (.ready none) [close]
    | .pending => .ret (.closing stream) .pending [close]
  | .poisoned => .unreachable
  | .cancelled => .ret .poisoned (.ready none) []

def rank : InboundSubstreamState → Nat
  | .pendingSend .. => 3
  | .pendingFlush .. => 2
  | .waitingMessage .. => 1
  | _ => 0

theorem rank_le_three (s : InboundSubstreamState) : s.rank ≤ 3 := by
  cases s <;> simp [rank]

theorem rank_lt_of_body (io : SinkIo KadRequestMsg) (s n : InboundSubstreamState) (ops)
    (h : body io s = .again n ops) : rank n < rank s := by
  unfold body at h
  split at h <;> (try split at h) <;> (try split at h) <;>
    simp only [Iteration.again.injEq, reduceCtorEq] at h <;> obtain ⟨rfl, -⟩ := h <;> simp [rank]

/-- `<InboundSubstreamState as Stream>::poll_next`. -/
def pollNext (io : SinkIo KadRequestMsg) : InboundSubstreamState →
    Option (Polled InboundSubstreamState) :=
  Iteration.loop rank (body io)

def substream? : InboundSubstreamState → Option Substream
  | .waitingMessage _ _ s | .waitingBehaviour _ s _ | .pendingSend _ s _ | .pendingFlush _ s
  | .closing s => some s
  | _ => none

def parkedOn : InboundSubstreamState → Option Substream
  | .waitingBehaviour .. => none
  | s => s.substream?

def connecId? : InboundSubstreamState → Option UniqueConnecId
  | .waitingMessage _ id _ | .waitingBehaviour id _ _ | .pendingSend id _ _ | .pendingFlush id _ =>
    some id
  | _ => none

def Requests (s : InboundSubstreamState) (p : Polled InboundSubstreamState) : Prop :=
  ∀ item, p.result = .ready (some item) → ∃ id sub event, s.connecId? = some id ∧
    s.substream? = some sub ∧ item = .notifyBehaviour event ∧
    ((event.requestId? = some ⟨id⟩ ∧ p.state = .waitingBehaviour id sub none) ∨
      ((∃ key provider, event = .addProvider key provider) ∧
        p.state = .waitingMessage false id sub))

theorem ids_of_again {io : SinkIo KadRequestMsg} {s n : InboundSubstreamState} {ops}
    (h : body io s = .again n ops) :
    n.substream? = s.substream? ∧ ∀ id, n.connecId? = some id → s.connecId? = some id := by
  unfold body at h
  split at h <;> (try split at h) <;> (try split at h) <;>
    simp only [Iteration.again.injEq, reduceCtorEq] at h <;> obtain ⟨rfl, -⟩ := h <;>
    simp [substream?, connecId?]

theorem pollNext_requests {io : SinkIo KadRequestMsg} {s : InboundSubstreamState} {p}
    (h : pollNext io s = some p) : Requests s p := by
  refine Iteration.loop_induction (rank_lt_of_body io) Requests (fun s n ops p hb hq => ?_)
    (fun s st r ops hb => ?_) s p h
  · intro item hr
    obtain ⟨id, sub, event, hid, hsub, hitem, hst⟩ := hq item hr
    obtain ⟨hs, hi⟩ := ids_of_again hb
    exact ⟨id, sub, event, hi id hid, hs ▸ hsub, hitem, hst⟩
  · intro item hr
    unfold body at hb
    split at hb <;> (try split at hb) <;> (try split at hb) <;>
      simp only [Iteration.ret.injEq, reduceCtorEq] at hb <;> obtain ⟨rfl, rfl, rfl⟩ := hb <;>
      simp only [Poll.ready.injEq, reduceCtorEq, Option.some.injEq] at hr <;> subst hr
    all_goals first
      | exact ⟨_, _, _, rfl, rfl, rfl, .inl ⟨rfl, rfl⟩⟩
      | exact ⟨_, _, _, rfl, rfl, rfl, .inr ⟨⟨_, _, rfl⟩, rfl⟩⟩

theorem pollNext_event {io : SinkIo KadRequestMsg} {s : InboundSubstreamState} {p} {item}
    (h : pollNext io s = some p) (hr : p.result = .ready (some item)) :
    ∃ event, item = .notifyBehaviour event ∧
      (event.requestId?.isSome ∨ ∃ key provider, event = .addProvider key provider) := by
  obtain ⟨id, sub, event, -, -, rfl, ⟨hreq, -⟩ | ⟨hadd, -⟩⟩ := pollNext_requests h item hr
  · exact ⟨event, rfl, .inl (by simp [hreq])⟩
  · exact ⟨event, rfl, .inr hadd⟩

theorem pollNext_ops {io : SinkIo KadRequestMsg} {s : InboundSubstreamState} {p}
    (h : pollNext io s = some p) :
    ∀ o ∈ p.ops, ∃ sub op, s.substream? = some sub ∧ o = .inbound sub op := by
  refine Iteration.loop_ops (rank_lt_of_body io)
    (fun s o => ∃ sub op, s.substream? = some sub ∧ o = .inbound sub op)
    ?_ ?_ s p h
  · intro s
    unfold body
    split <;> (try split) <;> (try split) <;>
      simp only [Iteration.ops, substream?, List.forall_mem_cons, List.not_mem_nil, false_implies,
        implies_true, and_true]
    all_goals first | exact ⟨_, _, rfl, rfl⟩ | exact ⟨⟨_, _, rfl, rfl⟩, _, _, rfl, rfl⟩
  · intro s n ops hb o ho
    unfold body at hb
    split at hb <;> (try split at hb) <;> (try split at hb) <;>
      simp only [Iteration.again.injEq, reduceCtorEq] at hb <;> obtain ⟨rfl, -⟩ := hb <;>
      simpa [substream?] using ho

/-- `InboundSubstreamState::try_answer_with`. `Ok` carries the waker it took and woke. -/
def tryAnswerWith (id : RequestId) (msg : KadResponseMsg) (s : InboundSubstreamState) :
    InboundSubstreamState × Except KadResponseMsg (Option Waker) :=
  match s with
  | .waitingBehaviour connId substream waker =>
    if connId = id.connecUniqueId then (.pendingSend connId substream msg, .ok waker)
    else (s, .error msg)
  | other => (other, .error msg)

theorem tryAnswerWith_eq_ok {id : RequestId} {msg : KadResponseMsg} {s s' : InboundSubstreamState}
    {waker : Option Waker} (h : s.tryAnswerWith id msg = (s', .ok waker)) :
    ∃ substream, s = .waitingBehaviour id.connecUniqueId substream waker ∧
      s' = .pendingSend id.connecUniqueId substream msg := by
  unfold tryAnswerWith at h
  split at h
  · split at h
    · rename_i substream _ hid
      cases h
      exact ⟨substream, by rw [hid], by rw [hid]⟩
    · cases h
  · cases h

theorem tryAnswerWith_eq_error {id : RequestId} {msg m : KadResponseMsg}
    {s s' : InboundSubstreamState} (h : s.tryAnswerWith id msg = (s', .error m)) :
    s' = s ∧ m = msg := by
  unfold tryAnswerWith at h
  split at h
  · split at h
    · cases h
    · cases h; exact ⟨rfl, rfl⟩
  · cases h; exact ⟨rfl, rfl⟩

/-- `InboundSubstreamState::close`; `none` is the `unreachable!()` on `Poisoned`. -/
def close : InboundSubstreamState → Option InboundSubstreamState
  | .waitingMessage _ _ substream | .waitingBehaviour _ substream _ | .pendingSend _ substream _
  | .pendingFlush _ substream | .closing substream => some (.closing substream)
  | .cancelled => some .cancelled
  | .poisoned => none

end InboundSubstreamState

end Libp2p.Kad
