import Mathlib.Algebra.Group.Nat.Basic
import Libp2p.Kad.SelectAll

namespace Libp2p.Kad

/-- `MAX_NUM_SUBSTREAMS`. -/
def maxNumSubstreams : Nat := 32

/-- `usize` addition as a release build does it, on the 64-bit targets. -/
def usizeAdd (a b : Nat) : Nat := (a + b) % 2 ^ 64

/-- `usize` subtraction as a release build does it: below zero it wraps around. -/
def usizeSub (a b : Nat) : Nat := (a + (2 ^ 64 - b)) % 2 ^ 64

theorem usizeAdd_of_lt {a b : Nat} (h : a + b < 2 ^ 64) : usizeAdd a b = a + b :=
  Nat.mod_eq_of_lt h

theorem usizeSub_one {n : Nat} (h0 : 0 < n) (h : n < 2 ^ 64) : usizeSub n 1 = n - 1 := by
  unfold usizeSub; omega

inductive ProtocolsChange where
  | added (protocols : List String)
  | removed (protocols : List String)

/-- Modelled from the spec: `SupportedProtocols::on_protocols_change` (libp2p-swarm, not in this
source) updates the set of protocols the remote supports and says whether the set changed. -/
def onProtocolsChange (protocols : List String) : ProtocolsChange → List String × Bool
  | .added ps =>
    (ps.foldl (fun acc p => if p ∈ acc then acc else p :: acc) protocols, ps.any (· ∉ protocols))
  | .removed ps => (protocols.filter (· ∉ ps), ps.any (· ∈ protocols))

inductive ConnectionEvent where
  | fullyNegotiatedOutbound (protocol : Substream)
  | fullyNegotiatedInbound (protocol : Substream)
  | addressChange
  | dialUpgradeError (error : StreamUpgradeError)
  | listenUpgradeError
  | localProtocolsChange
  | remoteProtocolsChange (change : ProtocolsChange)

/-- The state of `Handler`. The remote peer id and the connection id are only logged, and the
protocol configuration is read only for its protocol names. -/
structure Handler where
  protocolNames : List String
  mode : Mode
  idleTimeout : Duration
  nextConnecUniqueId : UniqueConnecId
  outboundSubstreams : SelectAll OutboundSubstreamState
  numRequestedOutboundStreams : Nat
  pendingMessages : List (KadRequestMsg × Option QueryId)
  inboundSubstreams : SelectAll InboundSubstreamState
  keepAlive : KeepAlive
  endpoint : ConnectedPoint
  protocolStatus : Option ProtocolStatus
  remoteSupportedProtocols : List String

/-- An inbound substream waiting to be reused: the only kind that may be evicted. -/
def InboundSubstreamState.waitingToBeReused : InboundSubstreamState → Bool
  | .waitingMessage false _ _ => true
  | _ => false

def InboundSubstreamState.isWaitingBehaviourFor (requestId : RequestId) :
    InboundSubstreamState → Bool
  | .waitingBehaviour connId _ _ => connId = requestId.connecUniqueId
  | _ => false

def InboundSubstreamState.accepted : InboundSubstreamState → List Obs
  | .pendingSend id substream msg => [.accepted id substream msg]
  | _ => []

/-- `compute_new_protocol_status`. -/
def computeNewProtocolStatus (nowSupported : Bool) (currentStatus : Option ProtocolStatus) :
    ProtocolStatus :=
  match currentStatus with
  | none => ⟨nowSupported, false⟩
  | some current =>
    if nowSupported = current.supported then ⟨nowSupported, true⟩ else ⟨nowSupported, false⟩

/-- The `for` loop of `answer_pending_request`: each refusing exchange hands the message back. -/
def answerPendingRequest (requestId : RequestId) (msg : KadResponseMsg) :
    SelectAll InboundSubstreamState → SelectAll InboundSubstreamState × List Obs
  | [] => ([], [])
  | e :: pool =>
    match e.stream.tryAnswerWith requestId msg with
    | (s, .ok waker) => (⟨s, e.queued || waker.isSome, e.parked⟩ :: pool, s.accepted)
    | (s, .error m) =>
      let r := answerPendingRequest requestId m pool
      (⟨s, e.queued, e.parked⟩ :: r.1, r.2)

/-- `HandlerIn::Reset`: the first exchange waiting for the behaviour on this request is closed. -/
def resetRequest (requestId : RequestId) :
    SelectAll InboundSubstreamState → Option (SelectAll InboundSubstreamState)
  | [] => some []
  | e :: pool =>
    if e.stream.isWaitingBehaviourFor requestId then
      e.stream.close.map fun s => { e with stream := s } :: pool
    else (resetRequest requestId pool).map (e :: ·)

section Pool

variable {P : InboundSubstreamState → Prop} {requestId : RequestId}

theorem answerPendingRequest_forall
    (hP : ∀ s msg, P s → P (s.tryAnswerWith requestId msg).1) :
    ∀ (msg : KadResponseMsg) {pool : SelectAll InboundSubstreamState}, (∀ e ∈ pool, P e.stream) →
      ∀ e ∈ (answerPendingRequest requestId msg pool).1, P e.stream
  | _, [], _ => by simp [answerPendingRequest]
  | msg, e :: pool, hpool => by
    have he := hP e.stream msg (hpool e (List.mem_cons_self _ _))
    have hrest : ∀ e ∈ pool, P e.stream := fun e' h => hpool e' (List.mem_cons_of_mem _ h)
    simp only [answerPendingRequest]
    split
    · rename_i s w hs
      rw [hs] at he
      intro e' he'
      rcases List.mem_cons.mp he' with rfl | he'
      · exact he
      · exact hrest e' he'
    · rename_i s m hs
      rw [hs] at he
      intro e' he'
      rcases List.mem_cons.mp he' with rfl | he'
      · exact he
      · exact answerPendingRequest_forall hP m hrest e' he'

theorem answerPendingRequest_obs (requestId : RequestId) :
    ∀ (msg : KadResponseMsg) (pool : SelectAll InboundSubstreamState),
      ∀ o ∈ (answerPendingRequest requestId msg pool).2, ∃ id sub m, o = .accepted id sub m
  | _, [] => by simp [answerPendingRequest]
  | msg, e :: pool => by
    simp only [answerPendingRequest]
    split
    · rename_i s _ _
      intro o ho
      cases s <;> simp_all [InboundSubstreamState.accepted]
    · exact answerPendingRequest_obs requestId _ pool

theorem answerPendingRequest_eq (requestId : RequestId) :
    ∀ (msg : KadResponseMsg) (pool : SelectAll InboundSubstreamState),
      answerPendingRequest requestId msg pool = (pool, []) ∨
      ∃ i e substream waker, pool[i]? = some e ∧
        e.stream = .waitingBehaviour requestId.connecUniqueId substream waker ∧
        answerPendingRequest requestId msg pool =
          (pool.set i ⟨.pendingSend requestId.connecUniqueId substream msg,
              e.queued || waker.isSome, e.parked⟩,
            [.accepted requestId.connecUniqueId substream msg])
  | _, [] => .inl rfl
  | msg, e :: pool => by
    simp only [answerPendingRequest]
    split
    · rename_i s waker hs
      obtain ⟨substream, hw, rfl⟩ := InboundSubstreamState.tryAnswerWith_eq_ok hs
      exact .inr ⟨0, e, substream, waker, by simp, hw, rfl⟩
    · rename_i s m hs
      obtain ⟨rfl, rfl⟩ := InboundSubstreamState.tryAnswerWith_eq_error hs
      rcases answerPendingRequest_eq requestId _ pool with h | ⟨i, e', substream, waker, hi, hw, h⟩
      · exact .inl (by rw [h])
      · exact .inr ⟨i + 1, e', substream, waker, by simpa using hi, hw, by rw [h]; rfl⟩

theorem resetRequest_forall (hP : ∀ s s', P s → s.close = some s' → P s') :
    ∀ {pool pool' : SelectAll InboundSubstreamState}, resetRequest requestId pool = some pool' →
      (∀ e ∈ pool, P e.stream) → ∀ e ∈ pool', P e.stream
  | [], _, h, _ => by cases h; simp
  | e :: pool, pool', h, hpool => by
    simp only [resetRequest] at h
    split at h
    · obtain ⟨s, hs, rfl⟩ := Option.map_eq_some'.mp h
      intro e' he'
      rcases List.mem_cons.mp he' with rfl | he'
      · exact hP _ _ (hpool e (List.mem_cons_self _ _)) hs
      · exact hpool e' (List.mem_cons_of_mem _ he')
    · obtain ⟨pool'', h', rfl⟩ := Option.map_eq_some'.mp h
      intro e' he'
      rcases List.mem_cons.mp he' with rfl | he'
      · exact hpool _ (List.mem_cons_self _ _)
      · exact resetRequest_forall hP h' (fun e'' h'' => hpool e'' (List.mem_cons_of_mem _ h'')) e' he'

theorem resetRequest_eq (requestId : RequestId) :
    ∀ pool : SelectAll InboundSubstreamState,
      resetRequest requestId pool = some pool ∨
      ∃ i e substream waker, pool[i]? = some e ∧
        e.stream = .waitingBehaviour requestId.connecUniqueId substream waker ∧
        resetRequest requestId pool = some (pool.set i { e with stream := .closing substream })
  | [] => .inl rfl
  | e :: pool => by
    simp only [resetRequest]
    split
    · rename_i hw
      cases hs : e.stream <;>
        simp only [hs, InboundSubstreamState.isWaitingBehaviourFor, decide_eq_true_eq,
          reduceCtorEq] at hw
      rename_i substream waker
      subst hw
      exact .inr ⟨0, e, substream, waker, by simp, hs, by simp [hs, InboundSubstreamState.close]⟩
    · rcases resetRequest_eq requestId pool with h | ⟨i, e', substream, waker, hi, hw, h⟩
      · exact .inl (by rw [h]; rfl)
      · exact .inr ⟨i + 1, e', substream, waker, by simpa using hi, hw, by rw [h]; rfl⟩

theorem resetRequest_isSome : ∀ (pool : SelectAll InboundSubstreamState),
    (resetRequest requestId pool).isSome
  | [] => rfl
  | e :: pool => by
    simp only [resetRequest]
    split
    · rename_i hw
      rw [Option.isSome_map']
      cases hs : e.stream <;> simp_all [InboundSubstreamState.isWaitingBehaviourFor,
        InboundSubstreamState.close]
    · rw [Option.isSome_map']
      exact resetRequest_isSome pool

end Pool

namespace Handler

def new (protocolNames : List String) (idleTimeout : Duration) (endpoint : ConnectedPoint)
    (mode : Mode) (now : Instant) : Handler where
  protocolNames := protocolNames
  mode := mode
  idleTimeout := idleTimeout
  endpoint := endpoint
  nextConnecUniqueId := 0
  inboundSubstreams := []
  outboundSubstreams := []
  numRequestedOutboundStreams := 0
  pendingMessages := []
  keepAlive := .until (now + idleTimeout)
  protocolStatus := none
  remoteSupportedProtocols := []

def confirmOnFirstSubstream (h : Handler) : Handler :=
  if h.protocolStatus.isNone then { h with protocolStatus := some ⟨true, false⟩ } else h

def onFullyNegotiatedOutbound (h : Handler) (protocol : Substream) : Handler :=
  let h := match h.pendingMessages with
    | (msg, queryId) :: pending =>
      { h with pendingMessages := pending,
               outboundSubstreams := h.outboundSubstreams.push (.pendingSend protocol msg queryId) }
    | [] => h
  confirmOnFirstSubstream
    { h with numRequestedOutboundStreams := usizeSub h.numRequestedOutboundStreams 1 }

def pushInbound (h : Handler) (protocol : Substream) : Handler :=
  { h with nextConnecUniqueId := h.nextConnecUniqueId + 1,
           inboundSubstreams :=
             h.inboundSubstreams.push (.waitingMessage true h.nextConnecUniqueId protocol) }

def onFullyNegotiatedInbound (h : Handler) (protocol : Substream) : Handler :=
  let h := h.confirmOnFirstSubstream
  if h.inboundSubstreams.length = maxNumSubstreams then
    match h.inboundSubstreams.updateFirst InboundSubstreamState.waitingToBeReused
        (fun _ => .cancelled) with
    | some pool => pushInbound { h with inboundSubstreams := pool } protocol
    | none => h
  else pushInbound h protocol

def onDialUpgradeError (h : Handler) (error : StreamUpgradeError) : Handler :=
  let h := match h.pendingMessages with
    | (_, some queryId) :: pending =>
      { h with pendingMessages := pending,
               outboundSubstreams := h.outboundSubstreams.push (.reportError (.upgrade error) queryId) }
    | (_, none) :: pending => { h with pendingMessages := pending }
    | [] => h
  { h with numRequestedOutboundStreams := usizeSub h.numRequestedOutboundStreams 1 }

def remoteSupportsOurKademliaProtocols (h : Handler) : Bool :=
  h.remoteSupportedProtocols.any fun p => h.protocolNames.contains p

def onConnectionEvent (h : Handler) : ConnectionEvent → Handler
  | .fullyNegotiatedOutbound protocol => h.onFullyNegotiatedOutbound protocol
  | .fullyNegotiatedInbound protocol => h.onFullyNegotiatedInbound protocol
  | .dialUpgradeError error => h.onDialUpgradeError error
  | .addressChange | .listenUpgradeError | .localProtocolsChange => h
  | .remoteProtocolsChange change =>
    let (protocols, dirty) := onProtocolsChange h.remoteSupportedProtocols change
    let h := { h with remoteSupportedProtocols := protocols }
    if dirty then
      let status := computeNewProtocolStatus h.remoteSupportsOurKademliaProtocols h.protocolStatus
      { h with protocolStatus := some status }
    else h

def enqueue (h : Handler) (msg : KadRequestMsg) (queryId : Option QueryId) : Handler :=
  { h with pendingMessages := h.pendingMessages ++ [(msg, queryId)] }

def answer (h : Handler) (requestId : RequestId) (msg : KadResponseMsg) : Handler × List Obs :=
  let r := answerPendingRequest requestId msg h.inboundSubstreams
  ({ h with inboundSubstreams := r.1 }, r.2)

/-- `on_behaviour_event`; `none` is the `unreachable!()` of `close`. -/
def onBehaviourEvent (h : Handler) : HandlerIn → Option (Handler × List Obs)
  | .reset requestId =>
    (resetRequest requestId h.inboundSubstreams).map fun pool => ({ h with inboundSubstreams := pool }, [])
  | .findNodeReq key queryId => some (h.enqueue (.findNode key) (some queryId), [])
  | .findNodeRes closerPeers requestId => some (h.answer requestId (.findNode closerPeers))
  | .getProvidersReq key queryId => some (h.enqueue (.getProviders key) (some queryId), [])
  | .getProvidersRes closerPeers providerPeers requestId =>
    some (h.answer requestId (.getProviders closerPeers providerPeers))
  | .addProvider key provider => some (h.enqueue (.addProvider key provider) none, [])
  | .getRecord key queryId => some (h.enqueue (.getValue key) (some queryId), [])
  | .putRecord record queryId => some (h.enqueue (.putValue record) (some queryId), [])
  | .getRecordRes record closerPeers requestId =>
    some (h.answer requestId (.getValue record closerPeers))
  | .putRecordRes key value requestId => some (h.answer requestId (.putValue key value))
  | .reconfigureMode newMode => some ({ h with mode := newMode }, [])

def statusEvent (supported : Bool) (endpoint : ConnectedPoint) : HandlerEvent :=
  if supported then .protocolConfirmed endpoint else .protocolNotSupported endpoint

def nextKeepAlive (h : Handler) (now : Instant) : KeepAlive :=
  match h.outboundSubstreams.isEmpty && h.inboundSubstreams.isEmpty, h.keepAlive with
  | true, .until deadline => .until deadline
  | true, _ => .until (now + h.idleTimeout)
  | false, _ => .yes

def requestOrIdle (h : Handler) (now : Instant) : Handler × Poll ConnectionHandlerEvent :=
  if usizeAdd h.outboundSubstreams.length h.numRequestedOutboundStreams < maxNumSubstreams ∧
      h.numRequestedOutboundStreams < h.pendingMessages.length then
    ({ h with numRequestedOutboundStreams := usizeAdd h.numRequestedOutboundStreams 1 },
      .ready .outboundSubstreamRequest)
  else ({ h with keepAlive := h.nextKeepAlive now }, .pending)

def pollOutbound (pool : SelectAll OutboundSubstreamState)
    (sched : List (Nat × SinkIo KadResponseMsg)) : Option (PoolPolled OutboundSubstreamState) :=
  SelectAll.pollNext (fun io s => s.pollNext io) OutboundSubstreamState.parkedOn pool sched

def pollInbound (pool : SelectAll InboundSubstreamState)
    (sched : List (Nat × SinkIo KadRequestMsg)) : Option (PoolPolled InboundSubstreamState) :=
  SelectAll.pollNext (fun io s => s.pollNext io) InboundSubstreamState.parkedOn pool sched

/-- `poll` once the protocol status has nothing to report: both pools, then the end. -/
def pollSubstreams (h : Handler) (now : Instant) (outSched : List (Nat × SinkIo KadResponseMsg))
    (inSched : List (Nat × SinkIo KadRequestMsg)) :
    Option (Handler × Poll ConnectionHandlerEvent × List Obs) :=
  match pollOutbound h.outboundSubstreams outSched with
  | none => none
  | some out =>
    let h := { h with outboundSubstreams := out.pool }
    match out.item with
    | some event => some (h, .ready event, out.ops)
    | none =>
      match pollInbound h.inboundSubstreams inSched with
      | none => none
      | some inb =>
        let h := { h with inboundSubstreams := inb.pool }
        match inb.item with
        | some event => some (h, .ready event, out.ops ++ inb.ops)
        | none => some ((h.requestOrIdle now).1, (h.requestOrIdle now).2, out.ops ++ inb.ops)

/-- `ConnectionHandler::poll`, with the executor's choice of which queued exchanges it polls and
what their substreams answer; `none` is a panic. -/
def poll (h : Handler) (now : Instant) (outSched : List (Nat × SinkIo KadResponseMsg))
    (inSched : List (Nat × SinkIo KadRequestMsg)) :
    Option (Handler × Poll ConnectionHandlerEvent × List Obs) :=
  match h.protocolStatus with
  | some status =>
    if status.reported then h.pollSubstreams now outSched inSched
    else some ({ h with protocolStatus := some { status with reported := true } },
      .ready (.notifyBehaviour (statusEvent status.supported h.endpoint)), [])
  | none => h.pollSubstreams now outSched inSched

end Handler

namespace Handler

section Spec

variable {h h' : Handler} {obs : List Obs}

theorem onBehaviourEvent_cases {message : HandlerIn}
    (he : h.onBehaviourEvent message = some (h', obs)) :
    (∃ msg queryId, h' = h.enqueue msg queryId ∧ obs = []) ∨
    (∃ pool, h' = { h with inboundSubstreams := pool } ∧
      ∀ o ∈ obs, ∃ id sub msg, o = .accepted id sub msg) ∨
    (∃ mode, h' = { h with mode := mode } ∧ obs = []) := by
  cases message <;> simp only [onBehaviourEvent, answer, Option.map_eq_some', Option.some.injEq,
    Prod.mk.injEq] at he
  all_goals first
    | exact .inl ⟨_, _, he.1.symm, he.2.symm⟩
    | exact .inr (.inl ⟨_, he.1.symm, he.2 ▸ answerPendingRequest_obs _ _ _⟩)
    | exact .inr (.inr ⟨_, he.1.symm, he.2.symm⟩)
    | obtain ⟨pool, -, he, rfl⟩ := he; exact .inr (.inl ⟨pool, he.symm, by simp⟩)

theorem pollSubstreams_cases {now : Instant} {outSched : List (Nat × SinkIo KadResponseMsg)}
    {inSched : List (Nat × SinkIo KadRequestMsg)} {r : Poll ConnectionHandlerEvent}
    (hp : h.pollSubstreams now outSched inSched = some (h', r, obs)) :
    ∃ out, pollOutbound h.outboundSubstreams outSched = some out ∧
      ((∃ event, out.item = some event ∧ h' = { h with outboundSubstreams := out.pool } ∧
          r = .ready event ∧ obs = out.ops) ∨
       (∃ inb, out.item = none ∧ pollInbound h.inboundSubstreams inSched = some inb ∧
          ((∃ event, inb.item = some event ∧
              h' = { h with outboundSubstreams := out.pool, inboundSubstreams := inb.pool } ∧
              r = .ready event ∧ obs = out.ops ++ inb.ops) ∨
           (inb.item = none ∧ obs = out.ops ++ inb.ops ∧
              (h', r) = requestOrIdle
                { h with outboundSubstreams := out.pool, inboundSubstreams := inb.pool } now)))) := by
  simp only [pollSubstreams] at hp
  split at hp
  · cases hp
  · rename_i out hout
    refine ⟨out, hout, ?_⟩
    split at hp
    · cases hp; exact .inl ⟨_, ‹_›, rfl, rfl, rfl⟩
    · split at hp
      · cases hp
      · rename_i inb hinb
        split at hp
        · cases hp; exact .inr ⟨inb, ‹_›, hinb, .inl ⟨_, ‹_›, rfl, rfl, rfl⟩⟩
        · cases hp; exact .inr ⟨inb, ‹_›, hinb, .inr ⟨‹_›, rfl, rfl⟩⟩

theorem poll_cases {now : Instant} {outSched : List (Nat × SinkIo KadResponseMsg)}
    {inSched : List (Nat × SinkIo KadRequestMsg)} {r : Poll ConnectionHandlerEvent}
    (hp : h.poll now outSched inSched = some (h', r, obs)) :
    (∃ status, h.protocolStatus = some status ∧ status.reported = false ∧
      h' = { h with protocolStatus := some { status with reported := true } } ∧
      r = .ready (.notifyBehaviour (statusEvent status.supported h.endpoint)) ∧ obs = []) ∨
    ((∀ status, h.protocolStatus = some status → status.reported = true) ∧
      h.pollSubstreams now outSched inSched = some (h', r, obs)) := by
  simp only [poll] at hp
  split at hp
  · split at hp
    · exact .inr ⟨by simp_all, hp⟩
    · rename_i hs hr
      cases hp; exact .inl ⟨_, hs, by simpa using hr, rfl, rfl, rfl⟩
  · exact .inr ⟨by simp_all, hp⟩

theorem poll_isSome {now : Instant} {outSched : List (Nat × SinkIo KadResponseMsg)}
    {inSched : List (Nat × SinkIo KadRequestMsg)}
    (hout : (pollOutbound h.outboundSubstreams outSched).isSome)
    (hin : (pollInbound h.inboundSubstreams inSched).isSome) :
    (h.poll now outSched inSched).isSome := by
  have hs : (h.pollSubstreams now outSched inSched).isSome := by
    obtain ⟨out, hout⟩ := Option.isSome_iff_exists.mp hout
    obtain ⟨inb, hin⟩ := Option.isSome_iff_exists.mp hin
    simp only [pollSubstreams, hout, hin]
    split <;> (try split) <;> rfl
  simp only [poll]
  split
  · split
    · exact hs
    · rfl
  · exact hs

theorem requestOrIdle_cases {now : Instant} {r : Poll ConnectionHandlerEvent}
    (hr : (h', r) = h.requestOrIdle now) :
    (usizeAdd h.outboundSubstreams.length h.numRequestedOutboundStreams < maxNumSubstreams ∧
      h.numRequestedOutboundStreams < h.pendingMessages.length ∧
      h' = { h with numRequestedOutboundStreams := usizeAdd h.numRequestedOutboundStreams 1 } ∧
      r = .ready .outboundSubstreamRequest) ∨
    (h' = { h with keepAlive := h.nextKeepAlive now } ∧ r = .pending) := by
  simp only [requestOrIdle] at hr
  split at hr
  · rename_i hc
    cases hr; exact .inl ⟨hc.1, hc.2, rfl, rfl⟩
  · cases hr; exact .inr ⟨rfl, rfl⟩

theorem confirmOnFirstSubstream_eq (h : Handler) :
    h.confirmOnFirstSubstream = { h with protocolStatus := h.protocolStatus.or (some ⟨true, false⟩) } := by
  cases h with
  | mk _ _ _ _ _ _ _ _ _ _ protocolStatus _ => cases protocolStatus <;> rfl

theorem onFullyNegotiatedOutbound_of_cons {protocol : Substream} {msg : KadRequestMsg}
    {queryId : Option QueryId} {pending : List (KadRequestMsg × Option QueryId)}
    (hp : h.pendingMessages = (msg, queryId) :: pending) :
    h.onFullyNegotiatedOutbound protocol = confirmOnFirstSubstream
      { h with pendingMessages := pending,
               outboundSubstreams := h.outboundSubstreams.push (.pendingSend protocol msg queryId),
               numRequestedOutboundStreams := usizeSub h.numRequestedOutboundStreams 1 } := by
  simp only [onFullyNegotiatedOutbound, hp]

theorem onDialUpgradeError_of_cons {error : StreamUpgradeError} {msg : KadRequestMsg}
    {queryId : Option QueryId} {pending : List (KadRequestMsg × Option QueryId)}
    (hp : h.pendingMessages = (msg, queryId) :: pending) :
    h.onDialUpgradeError error =
      { h with pendingMessages := pending,
               outboundSubstreams := match queryId with
                 | some queryId => h.outboundSubstreams.push (.reportError (.upgrade error) queryId)
                 | none => h.outboundSubstreams,
               numRequestedOutboundStreams := usizeSub h.numRequestedOutboundStreams 1 } := by
  cases queryId <;> simp only [onDialUpgradeError, hp]

theorem onFullyNegotiatedInbound_eq (h : Handler) (protocol : Substream) :
    ∃ pool id, h.onFullyNegotiatedInbound protocol =
      { h.confirmOnFirstSubstream with inboundSubstreams := pool, nextConnecUniqueId := id } := by
  dsimp only [onFullyNegotiatedInbound, pushInbound]
  split
  · split
    · exact ⟨_, _, rfl⟩
    · exact ⟨_, _, rfl⟩
  · exact ⟨_, _, rfl⟩

theorem onRemoteProtocolsChange_eq (h : Handler) (change : ProtocolsChange) :
    ∃ protocols status, h.onConnectionEvent (.remoteProtocolsChange change) =
      { h with remoteSupportedProtocols := protocols, protocolStatus := status } := by
  simp only [onConnectionEvent]
  split
  · exact ⟨_, _, rfl⟩
  · exact ⟨_, h.protocolStatus, rfl⟩

theorem onFullyNegotiatedOutbound_of_nil {protocol : Substream} (hp : h.pendingMessages = []) :
    h.onFullyNegotiatedOutbound protocol = confirmOnFirstSubstream
      { h with numRequestedOutboundStreams := usizeSub h.numRequestedOutboundStreams 1 } := by
  simp only [onFullyNegotiatedOutbound, hp]

theorem onDialUpgradeError_of_nil {error : StreamUpgradeError} (hp : h.pendingMessages = []) :
    h.onDialUpgradeError error =
      { h with numRequestedOutboundStreams := usizeSub h.numRequestedOutboundStreams 1 } := by
  simp only [onDialUpgradeError, hp]

theorem onBehaviourEvent_pools {message : HandlerIn}
    (he : h.onBehaviourEvent message = some (h', obs)) :
    h'.outboundSubstreams = h.outboundSubstreams ∧
    ((h'.inboundSubstreams = h.inboundSubstreams ∧ obs = []) ∨
      ∃ i e id substream waker, h.inboundSubstreams[i]? = some e ∧
        e.stream = .waitingBehaviour id substream waker ∧
        ((h'.inboundSubstreams = h.inboundSubstreams.set i { e with stream := .closing substream } ∧
            obs = []) ∨
          ∃ msg, h'.inboundSubstreams = h.inboundSubstreams.set i
              ⟨.pendingSend id substream msg, e.queued || waker.isSome, e.parked⟩ ∧
            obs = [.accepted id substream msg])) := by
  cases message <;> simp only [onBehaviourEvent, answer, Option.map_eq_some', Option.some.injEq,
    Prod.mk.injEq] at he
  case reset requestId =>
    obtain ⟨pool, hpool, rfl, rfl⟩ := he
    refine ⟨rfl, ?_⟩
    rcases resetRequest_eq requestId h.inboundSubstreams with hr | ⟨i, e, sub, waker, hi, hw, hr⟩ <;>
      rw [hr] at hpool <;> cases hpool
    · exact .inl ⟨rfl, rfl⟩
    · exact .inr ⟨i, e, _, sub, waker, hi, hw, .inl ⟨rfl, rfl⟩⟩
  all_goals obtain ⟨rfl, rfl⟩ := he
  all_goals refine ⟨rfl, ?_⟩
  all_goals try exact .inl ⟨rfl, rfl⟩
  all_goals
    rcases answerPendingRequest_eq _ _ h.inboundSubstreams with hr | ⟨i, e, sub, waker, hi, hw, hr⟩ <;>
      rw [hr]
    · exact .inl ⟨rfl, rfl⟩
    · exact .inr ⟨i, e, _, sub, waker, hi, hw, .inr ⟨_, rfl, rfl⟩⟩

theorem onFullyNegotiatedInbound_cases (h : Handler) (protocol : Substream) :
    (h.onFullyNegotiatedInbound protocol).outboundSubstreams = h.outboundSubstreams ∧
    (((h.onFullyNegotiatedInbound protocol).inboundSubstreams = h.inboundSubstreams ∧
        (h.onFullyNegotiatedInbound protocol).nextConnecUniqueId = h.nextConnecUniqueId) ∨
      ∃ pool, (pool = h.inboundSubstreams ∨ ∃ i e, h.inboundSubstreams[i]? = some e ∧
          pool = h.inboundSubstreams.set i { e with stream := .cancelled }) ∧
        (h.onFullyNegotiatedInbound protocol).inboundSubstreams =
          SelectAll.push pool (.waitingMessage true h.nextConnecUniqueId protocol) ∧
        (h.onFullyNegotiatedInbound protocol).nextConnecUniqueId = h.nextConnecUniqueId + 1) := by
  simp only [onFullyNegotiatedInbound, pushInbound, confirmOnFirstSubstream_eq]
  split
  · split
    · rename_i pool hpool
      obtain ⟨i, e, hi, -, rfl⟩ := SelectAll.updateFirst_eq hpool
      exact ⟨rfl, .inr ⟨_, .inr ⟨i, e, hi, rfl⟩, rfl, rfl⟩⟩
    · exact ⟨rfl, .inl ⟨rfl, rfl⟩⟩
  · exact ⟨rfl, .inr ⟨_, .inl rfl, rfl, rfl⟩⟩

@[simp] theorem onFullyNegotiatedOutbound_inboundSubstreams (h : Handler) (protocol : Substream) :
    (h.onFullyNegotiatedOutbound protocol).inboundSubstreams = h.inboundSubstreams := by
  rcases hp : h.pendingMessages with _ | ⟨⟨msg, queryId⟩, pending⟩
  · rw [onFullyNegotiatedOutbound_of_nil hp, confirmOnFirstSubstream_eq]
  · rw [onFullyNegotiatedOutbound_of_cons hp, confirmOnFirstSubstream_eq]

@[simp] theorem onDialUpgradeError_inboundSubstreams (h : Handler) (error : StreamUpgradeError) :
    (h.onDialUpgradeError error).inboundSubstreams = h.inboundSubstreams := by
  rcases hp : h.pendingMessages with _ | ⟨⟨msg, queryId⟩, pending⟩
  · rw [onDialUpgradeError_of_nil hp]
  · rw [onDialUpgradeError_of_cons hp]

end Spec

end Handler

end Libp2p.Kad
