import Mathlib.Logic.Relation
import Libp2p.Kad.Handler

namespace Libp2p.Kad

/-- The executor: substream `s` is ready again and wakes the tasks of both pools it holds. -/
def Handler.wake (h : Handler) (s : Substream) : Handler :=
  { h with outboundSubstreams := SelectAll.wake OutboundSubstreamState.parkedOn s h.outboundSubstreams,
           inboundSubstreams := SelectAll.wake InboundSubstreamState.parkedOn s h.inboundSubstreams }

/-- A handler inside its connection. The connection numbers the substreams it hands out and
counts the outbound substream requests it has not answered yet; `trace` is everything the run
has shown so far, oldest first. -/
structure World where
  handler : Handler
  substreams : Nat
  outstanding : Nat
  now : Instant
  trace : List Obs

def World.init (protocolNames : List String) (idleTimeout : Duration) (endpoint : ConnectedPoint)
    (mode : Mode) (now : Instant) : World :=
  ⟨Handler.new protocolNames idleTimeout endpoint mode now, 0, 0, now, []⟩

/-- The outbound substream `s` the connection negotiated, with the message of the exchange the
handler `h` pushed for it, first in its pool and sending on `s`. -/
def World.opened (h : Handler) (s : Substream) : List Obs :=
  match h.outboundSubstreams with
  | ⟨.pendingSend s' msg queryId, _, _⟩ :: _ => if s' = s then [.opened s msg queryId] else []
  | _ => []

theorem World.opened_push {h : Handler} {pool : SelectAll OutboundSubstreamState} {s : Substream}
    {msg : KadRequestMsg} {queryId : Option QueryId}
    (hout : h.outboundSubstreams = SelectAll.push pool (.pendingSend s msg queryId)) :
    World.opened h s = [.opened s msg queryId] := by
  simp [World.opened, hout, SelectAll.push]

theorem World.opened_of_unheld {h : Handler} {s : Substream}
    (hs : ∀ e ∈ h.outboundSubstreams, e.stream.parkedOn ≠ some s) : World.opened h s = [] := by
  unfold World.opened
  split
  · next s' msg queryId queued parked pool hpool =>
    refine if_neg fun hs' => hs _ (hpool ▸ List.mem_cons_self _ _) ?_
    rw [hs']
    rfl
  · rfl

theorem World.mem_opened {h : Handler} {s : Substream} {o : Obs} (ho : o ∈ World.opened h s) :
    ∃ msg queryId, o = .opened s msg queryId := by
  unfold World.opened at ho
  split at ho
  · split at ho
    · exact ⟨_, _, List.mem_singleton.mp ho⟩
    · exact absurd ho (List.not_mem_nil o)
  · exact absurd ho (List.not_mem_nil o)

/-- The inbound substream `s` the handler `h` admitted, with the stamp it handed out: it hands one
out exactly when it admits. -/
def World.admitted (w : World) (h : Handler) (s : Substream) : List Obs :=
  if h.nextConnecUniqueId = w.handler.nextConnecUniqueId then []
  else [.admitted w.handler.nextConnecUniqueId s]

def pollObs : Poll ConnectionHandlerEvent → List Obs
  | .ready event => [.event event]
  | .pending => []

def requested : Poll ConnectionHandlerEvent → Nat
  | .ready .outboundSubstreamRequest => 1
  | _ => 0

/-- One step of a run: a command of the behaviour, an event of the connection, a `poll`, a
wake-up from a substream, or time passing. The connection answers an outbound substream request
only while one is outstanding. -/
inductive Step : World → World → Prop
  | behaviour (w : World) (message : HandlerIn) (h : Handler) (obs : List Obs)
      (he : w.handler.onBehaviourEvent message = some (h, obs)) :
      Step w { w with handler := h, trace := w.trace ++ .command message :: obs }
  | fullyNegotiatedOutbound (w : World) (hout : 0 < w.outstanding) :
      Step w { w with
        handler := w.handler.onConnectionEvent (.fullyNegotiatedOutbound w.substreams)
        substreams := w.substreams + 1
        outstanding := w.outstanding - 1
        trace := w.trace ++
          World.opened (w.handler.onConnectionEvent (.fullyNegotiatedOutbound w.substreams))
            w.substreams }
  | dialUpgradeError (w : World) (error : StreamUpgradeError) (hout : 0 < w.outstanding) :
      Step w { w with
        handler := w.handler.onConnectionEvent (.dialUpgradeError error)
        outstanding := w.outstanding - 1 }
  | fullyNegotiatedInbound (w : World) :
      Step w { w with
        handler := w.handler.onConnectionEvent (.fullyNegotiatedInbound w.substreams)
        substreams := w.substreams + 1
        trace := w.trace ++
          w.admitted (w.handler.onConnectionEvent (.fullyNegotiatedInbound w.substreams)) w.substreams }
  | remoteProtocolsChange (w : World) (change : ProtocolsChange) :
      Step w { w with
        handler := w.handler.onConnectionEvent (.remoteProtocolsChange change)
        trace := w.trace ++ [.protocolsChanged w.handler.protocolStatus
          (w.handler.onConnectionEvent (.remoteProtocolsChange change)).protocolStatus] }
  | poll (w : World) (outSched : List (Nat × SinkIo KadResponseMsg))
      (inSched : List (Nat × SinkIo KadRequestMsg)) (h : Handler)
      (r : Poll ConnectionHandlerEvent) (obs : List Obs)
      (hp : w.handler.poll w.now outSched inSched = some (h, r, obs)) :
      Step w { w with
        handler := h
        outstanding := w.outstanding + requested r
        trace := w.trace ++ obs ++ pollObs r }
  | wake (w : World) (s : Substream) : Step w { w with handler := w.handler.wake s }
  | tick (w : World) (now : Instant) (hnow : w.now ≤ now) : Step w { w with now := now }

inductive Reachable : World → Prop
  | init (protocolNames : List String) (idleTimeout : Duration) (endpoint : ConnectedPoint)
      (mode : Mode) (now : Instant) :
      Reachable (World.init protocolNames idleTimeout endpoint mode now)
  | step {w w' : World} : Reachable w → Step w w' → Reachable w'

/-- What drives a run: a command of the behaviour, an event of the connection, a `poll` with the
executor's schedule, a wake-up from a substream, or the clock. -/
inductive Input where
  | behaviour (message : HandlerIn)
  | fullyNegotiatedOutbound
  | dialUpgradeError (error : StreamUpgradeError)
  | fullyNegotiatedInbound
  | remoteProtocolsChange (change : ProtocolsChange)
  | poll (outSched : List (Nat × SinkIo KadResponseMsg)) (inSched : List (Nat × SinkIo KadRequestMsg))
  | wake (s : Substream)
  | tick (now : Instant)

def World.apply (w : World) : Input → Option World
  | .behaviour message => (w.handler.onBehaviourEvent message).map fun (h, obs) =>
    { w with handler := h, trace := w.trace ++ .command message :: obs }
  | .fullyNegotiatedOutbound =>
    if 0 < w.outstanding then
      some { w with
        handler := w.handler.onConnectionEvent (.fullyNegotiatedOutbound w.substreams)
        substreams := w.substreams + 1
        outstanding := w.outstanding - 1
        trace := w.trace ++
          World.opened (w.handler.onConnectionEvent (.fullyNegotiatedOutbound w.substreams))
            w.substreams }
    else none
  | .dialUpgradeError error =>
    if 0 < w.outstanding then
      some { w with
        handler := w.handler.onConnectionEvent (.dialUpgradeError error)
        outstanding := w.outstanding - 1 }
    else none
  | .fullyNegotiatedInbound =>
    some { w with
      handler := w.handler.onConnectionEvent (.fullyNegotiatedInbound w.substreams)
      substreams := w.substreams + 1
      trace := w.trace ++
        w.admitted (w.handler.onConnectionEvent (.fullyNegotiatedInbound w.substreams)) w.substreams }
  | .remoteProtocolsChange change =>
    some { w with
      handler := w.handler.onConnectionEvent (.remoteProtocolsChange change)
      trace := w.trace ++ [.protocolsChanged w.handler.protocolStatus
        (w.handler.onConnectionEvent (.remoteProtocolsChange change)).protocolStatus] }
  | .poll outSched inSched => (w.handler.poll w.now outSched inSched).map fun (h, r, obs) =>
    { w with handler := h, outstanding := w.outstanding + requested r,
             trace := w.trace ++ obs ++ pollObs r }
  | .wake s => some { w with handler := w.handler.wake s }
  | .tick now => if w.now ≤ now then some { w with now := now } else none

/-- The inputs one after another; `none` as soon as one is not allowed or panics. -/
def World.run (w : World) : List Input → Option World
  | [] => some w
  | i :: inputs => (w.apply i).bind fun w => w.run inputs

theorem World.step_of_apply {w w' : World} {i : Input} (h : w.apply i = some w') : Step w w' := by
  cases i with
  | behaviour message =>
    obtain ⟨⟨h', obs⟩, he, rfl⟩ := Option.map_eq_some'.mp h
    exact .behaviour w message h' obs he
  | fullyNegotiatedOutbound =>
    simp only [apply, Option.ite_none_right_eq_some, Option.some.injEq] at h
    exact h.2 ▸ .fullyNegotiatedOutbound w h.1
  | dialUpgradeError error =>
    simp only [apply, Option.ite_none_right_eq_some, Option.some.injEq] at h
    exact h.2 ▸ .dialUpgradeError w error h.1
  | fullyNegotiatedInbound => cases h; exact .fullyNegotiatedInbound w
  | remoteProtocolsChange change => cases h; exact .remoteProtocolsChange w change
  | poll outSched inSched =>
    obtain ⟨⟨h', r, obs⟩, hp, rfl⟩ := Option.map_eq_some'.mp h
    exact .poll w outSched inSched h' r obs hp
  | wake s => cases h; exact .wake w s
  | tick now =>
    simp only [apply, Option.ite_none_right_eq_some, Option.some.injEq] at h
    exact h.2 ▸ .tick w now h.1

theorem World.reachable_of_run {w : World} (hw : Reachable w) :
    ∀ {inputs : List Input} {w' : World}, w.run inputs = some w' → Reachable w'
  | [], _, h => by cases h; exact hw
  | i :: inputs, w', h => by
    obtain ⟨w1, h1, h2⟩ := Option.bind_eq_some.mp h
    exact reachable_of_run (.step hw (step_of_apply h1)) h2

theorem World.steps_of_run {w : World} :
    ∀ {inputs : List Input} {w' : World}, w.run inputs = some w' → Relation.ReflTransGen Step w w'
  | [], _, h => by cases h; exact .refl
  | i :: inputs, w', h => by
    obtain ⟨w1, h1, h2⟩ := Option.bind_eq_some.mp h
    exact .head (step_of_apply h1) (steps_of_run h2)

def EventsExplained (P : List Obs → HandlerEvent → Prop) (trace : List Obs) : Prop :=
  ∀ pre e post, trace = pre ++ .event (.notifyBehaviour e) :: post → P pre e

namespace EventsExplained

variable {P : List Obs → HandlerEvent → Prop} {trace : List Obs}

theorem nil : EventsExplained P [] := fun pre e post h => by simp at h

theorem append {more : List Obs} (h : EventsExplained P trace)
    (hm : ∀ pre e post, more = pre ++ .event (.notifyBehaviour e) :: post → P (trace ++ pre) e) :
    EventsExplained P (trace ++ more) := by
  intro pre e post heq
  rcases List.append_eq_append_iff.mp heq with ⟨a, rfl, hmore⟩ | ⟨c, htr, hd⟩
  · exact hm a e post hmore
  · rcases c with _ | ⟨x, c⟩
    · simp only [List.append_nil, List.nil_append] at htr hd
      subst htr
      simpa using hm [] e post (by simp [hd])
    · simp only [List.cons_append, List.cons.injEq] at hd
      obtain ⟨rfl, -⟩ := hd
      exact h pre e c htr

theorem append_of {more : List Obs} (h : EventsExplained P trace)
    (hm : ∀ e, .event (.notifyBehaviour e) ∈ more → ∀ pre, P pre e) :
    EventsExplained P (trace ++ more) :=
  h.append fun _ e _ hmore =>
    hm e (hmore ▸ List.mem_append_right _ (List.mem_cons_self _ _)) _

theorem snoc {e : HandlerEvent} (h : EventsExplained P trace) (he : P trace e) :
    EventsExplained P (trace ++ [.event (.notifyBehaviour e)]) :=
  h.append fun pre e' post hmore => by
    rcases pre with _ | ⟨x, pre⟩
    · simp only [List.nil_append, List.cons.injEq, Obs.event.injEq,
        ConnectionHandlerEvent.notifyBehaviour.injEq] at hmore
      obtain ⟨rfl, -⟩ := hmore
      simpa using he
    · simp at hmore

end EventsExplained

section Entries

variable {Pout : OutboundSubstreamState → Prop} {Pin : InboundSubstreamState → Prop}

structure EntryInvariant (Pout : OutboundSubstreamState → Prop)
    (Pin : InboundSubstreamState → Prop) : Prop where
  pollOut : SelectAll.Keeps (fun io (s : OutboundSubstreamState) => s.pollNext io) Pout
  pollIn : SelectAll.Keeps (fun io (s : InboundSubstreamState) => s.pollNext io) Pin
  pendingSend : ∀ s msg queryId, Pout (.pendingSend s msg queryId)
  reportError : ∀ error queryId, Pout (.reportError error queryId)
  answer : ∀ s id msg, Pin s → Pin (s.tryAnswerWith id msg).1
  close : ∀ s s', Pin s → s.close = some s' → Pin s'
  cancelled : Pin .cancelled
  waitingMessage : ∀ id s, Pin (.waitingMessage true id s)

def Entries (Pout : OutboundSubstreamState → Prop) (Pin : InboundSubstreamState → Prop)
    (h : Handler) : Prop :=
  (∀ e ∈ h.outboundSubstreams, Pout e.stream) ∧ (∀ e ∈ h.inboundSubstreams, Pin e.stream)

namespace EntryInvariant

variable {h : Handler}

theorem onBehaviourEvent (hI : EntryInvariant Pout Pin) {message : HandlerIn} {h' : Handler}
    {obs : List Obs} (he : h.onBehaviourEvent message = some (h', obs))
    (hh : Entries Pout Pin h) : Entries Pout Pin h' := by
  obtain ⟨hout, hin⟩ := hh
  cases message <;> simp only [Handler.onBehaviourEvent, Handler.answer, Option.map_eq_some',
    Option.some.injEq, Prod.mk.injEq] at he
  case reset requestId =>
    obtain ⟨pool, hpool, rfl, -⟩ := he
    exact ⟨hout, resetRequest_forall hI.close hpool hin⟩
  all_goals obtain ⟨rfl, -⟩ := he
  all_goals first
    | exact ⟨hout, hin⟩
    | exact ⟨hout, answerPendingRequest_forall (fun s msg hs => hI.answer s _ msg hs) _ hin⟩

theorem onConnectionEvent (hI : EntryInvariant Pout Pin) (ev : ConnectionEvent)
    (hh : Entries Pout Pin h) : Entries Pout Pin (h.onConnectionEvent ev) := by
  obtain ⟨hout, hin⟩ := hh
  cases ev with
  | fullyNegotiatedOutbound s =>
    cases hp : h.pendingMessages with
    | nil =>
      simp only [Handler.onConnectionEvent, Handler.onFullyNegotiatedOutbound_of_nil hp,
        Handler.confirmOnFirstSubstream_eq]
      exact ⟨hout, hin⟩
    | cons x pending =>
      simp only [Handler.onConnectionEvent, Handler.onFullyNegotiatedOutbound_of_cons hp,
        Handler.confirmOnFirstSubstream_eq]
      exact ⟨List.forall_mem_cons.2 ⟨hI.pendingSend _ _ _, hout⟩, hin⟩
  | fullyNegotiatedInbound s =>
    simp only [Handler.onConnectionEvent, Handler.onFullyNegotiatedInbound, Handler.pushInbound,
      Handler.confirmOnFirstSubstream_eq]
    split
    · split
      · rename_i pool hpool
        refine ⟨hout, List.forall_mem_cons.2 ⟨hI.waitingMessage _ _, ?_⟩⟩
        exact SelectAll.updateFirst_forall (fun _ _ => hI.cancelled) hpool hin
      · exact ⟨hout, hin⟩
    · exact ⟨hout, List.forall_mem_cons.2 ⟨hI.waitingMessage _ _, hin⟩⟩
  | dialUpgradeError error =>
    cases hp : h.pendingMessages with
    | nil =>
      simp only [Handler.onConnectionEvent, Handler.onDialUpgradeError_of_nil hp]
      exact ⟨hout, hin⟩
    | cons x pending =>
      obtain ⟨msg, _ | queryId⟩ := x <;>
        simp only [Handler.onConnectionEvent, Handler.onDialUpgradeError_of_cons hp]
      · exact ⟨hout, hin⟩
      · exact ⟨List.forall_mem_cons.2 ⟨hI.reportError _ _, hout⟩, hin⟩
  | addressChange | listenUpgradeError | localProtocolsChange => exact ⟨hout, hin⟩
  | remoteProtocolsChange change =>
    obtain ⟨_, _, he⟩ := Handler.onRemoteProtocolsChange_eq h change
    rw [he]
    exact ⟨hout, hin⟩

theorem poll (hI : EntryInvariant Pout Pin) {now : Instant}
    {outSched : List (Nat × SinkIo KadResponseMsg)} {inSched : List (Nat × SinkIo KadRequestMsg)}
    {h' : Handler} {r : Poll ConnectionHandlerEvent} {obs : List Obs}
    (hp : h.poll now outSched inSched = some (h', r, obs)) (hh : Entries Pout Pin h) :
    Entries Pout Pin h' := by
  obtain ⟨hout, hin⟩ := hh
  rcases Handler.poll_cases hp with ⟨_, -, -, rfl, -, -⟩ | ⟨-, hp⟩
  · exact ⟨hout, hin⟩
  obtain ⟨out, hpo, ⟨_, -, rfl, -, -⟩ | ⟨inb, -, hpi, ⟨_, -, rfl, -, -⟩ | ⟨-, -, hr⟩⟩⟩ :=
    Handler.pollSubstreams_cases hp
  · exact ⟨SelectAll.pollNext_forall hI.pollOut hpo hout, hin⟩
  · exact ⟨SelectAll.pollNext_forall hI.pollOut hpo hout, SelectAll.pollNext_forall hI.pollIn hpi hin⟩
  · rcases Handler.requestOrIdle_cases hr with ⟨-, -, rfl, -⟩ | ⟨rfl, -⟩ <;>
      exact ⟨SelectAll.pollNext_forall hI.pollOut hpo hout,
        SelectAll.pollNext_forall hI.pollIn hpi hin⟩

theorem wake {σ : Type} {P : σ → Prop} {parkedOn : σ → Option Substream} {s : Substream}
    {pool : SelectAll σ} (hpool : ∀ e ∈ pool, P e.stream) :
    ∀ e ∈ SelectAll.wake parkedOn s pool, P e.stream := by
  intro e he
  obtain ⟨e0, he0, rfl⟩ := List.mem_map.mp he
  split
  · exact hpool e0 he0
  · exact hpool e0 he0

theorem step (hI : EntryInvariant Pout Pin) {w w' : World} (hs : Step w w')
    (hh : Entries Pout Pin w.handler) : Entries Pout Pin w'.handler := by
  cases hs with
  | behaviour message h obs he => exact hI.onBehaviourEvent he hh
  | fullyNegotiatedOutbound => exact hI.onConnectionEvent _ hh
  | dialUpgradeError => exact hI.onConnectionEvent _ hh
  | fullyNegotiatedInbound => exact hI.onConnectionEvent _ hh
  | remoteProtocolsChange => exact hI.onConnectionEvent _ hh
  | poll outSched inSched h r obs hp => exact hI.poll hp hh
  | wake s => exact ⟨wake hh.1, wake hh.2⟩
  | tick => exact hh

theorem reachable (hI : EntryInvariant Pout Pin) {w : World} (hw : Reachable w) :
    Entries Pout Pin w.handler := by
  induction hw with
  | init => exact ⟨by simp [World.init, Handler.new], by simp [World.init, Handler.new]⟩
  | step _ hs ih => exact hI.step hs ih

end EntryInvariant

end Entries

end Libp2p.Kad
