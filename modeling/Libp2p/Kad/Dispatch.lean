import Libp2p.Kad.Counters

namespace Libp2p.Kad.Dispatch

open Handler

def enqueuedBy : Obs → Option (KadRequestMsg × Option QueryId)
  | .command (.findNodeReq key queryId) => some (.findNode key, some queryId)
  | .command (.getProvidersReq key queryId) => some (.getProviders key, some queryId)
  | .command (.addProvider key provider) => some (.addProvider key provider, none)
  | .command (.getRecord key queryId) => some (.getValue key, some queryId)
  | .command (.putRecord record queryId) => some (.putValue record, some queryId)
  | _ => none

def dispatchedBy : Obs → Option (KadRequestMsg × Option QueryId)
  | .opened _ msg queryId => some (msg, queryId)
  | _ => none

def isSubstreamRequest : Obs → Bool
  | .event .outboundSubstreamRequest => true
  | _ => false

/-- The requests the behaviour enqueued, oldest first. -/
def enqueued (trace : List Obs) : List (KadRequestMsg × Option QueryId) :=
  trace.filterMap enqueuedBy

/-- The requests handed to negotiated substreams, oldest first. -/
def dispatched (trace : List Obs) : List (KadRequestMsg × Option QueryId) :=
  trace.filterMap dispatchedBy

/-- The outbound substreams the handler asked for. -/
def substreamRequests (trace : List Obs) : Nat := trace.countP isSubstreamRequest

section Counts

@[simp] theorem enqueued_append (a b : List Obs) : enqueued (a ++ b) = enqueued a ++ enqueued b :=
  List.filterMap_append _ _ _

@[simp] theorem dispatched_append (a b : List Obs) :
    dispatched (a ++ b) = dispatched a ++ dispatched b :=
  List.filterMap_append _ _ _

@[simp] theorem substreamRequests_append (a b : List Obs) :
    substreamRequests (a ++ b) = substreamRequests a + substreamRequests b :=
  List.countP_append _ _ _

@[simp] theorem enqueued_cons (o : Obs) (l : List Obs) :
    enqueued (o :: l) = (enqueuedBy o).toList ++ enqueued l := by
  cases h : enqueuedBy o <;> simp [enqueued, List.filterMap_cons, h]

@[simp] theorem dispatched_cons (o : Obs) (l : List Obs) :
    dispatched (o :: l) = (dispatchedBy o).toList ++ dispatched l := by
  cases h : dispatchedBy o <;> simp [dispatched, List.filterMap_cons, h]

@[simp] theorem substreamRequests_cons (o : Obs) (l : List Obs) :
    substreamRequests (o :: l) = substreamRequests l + if isSubstreamRequest o then 1 else 0 :=
  List.countP_cons _ _ _

def Untracked (obs : List Obs) : Prop :=
  ∀ o ∈ obs, enqueuedBy o = none ∧ dispatchedBy o = none ∧ isSubstreamRequest o = false

theorem Untracked.counts {obs : List Obs} (h : Untracked obs) :
    enqueued obs = [] ∧ dispatched obs = [] ∧ substreamRequests obs = 0 :=
  ⟨List.filterMap_eq_nil_iff.2 fun o ho => (h o ho).1,
    List.filterMap_eq_nil_iff.2 fun o ho => (h o ho).2.1,
    List.countP_eq_zero.2 fun o ho => by simp [(h o ho).2.2]⟩

theorem untracked_of_ops {obs : List Obs}
    (h : ∀ o ∈ obs, ∃ s, (∃ op, o = .outbound s op) ∨ (∃ op, o = .inbound s op) ∨
      (∃ id msg, o = .accepted id s msg) ∨ ∃ id, o = .admitted id s) :
    Untracked obs := fun o ho => by
  obtain ⟨s, ⟨op, rfl⟩ | ⟨op, rfl⟩ | ⟨id, msg, rfl⟩ | ⟨id, rfl⟩⟩ := h o ho <;>
    exact ⟨rfl, rfl, rfl⟩

theorem substreamRequests_pollObs (r : Poll ConnectionHandlerEvent) :
    substreamRequests (pollObs r) = requested r := by
  cases r with
  | ready event => cases event <;> rfl
  | pending => rfl

end Counts

section Handler

variable {h h' : Handler} {obs : List Obs}

theorem onBehaviourEvent_enqueues {message : HandlerIn}
    (he : h.onBehaviourEvent message = some (h', obs)) :
    h'.pendingMessages = h.pendingMessages ++ (enqueuedBy (.command message)).toList ∧
      Untracked obs := by
  refine ⟨?_, untracked_of_ops fun o ho => ?_⟩
  · cases message <;> simp only [onBehaviourEvent, answer, Option.map_eq_some',
      Option.some.injEq, Prod.mk.injEq] at he
    case reset =>
      obtain ⟨pool, -, rfl, -⟩ := he
      simp [enqueuedBy]
    all_goals obtain ⟨rfl, -⟩ := he
    all_goals simp [enqueue, enqueuedBy]
  · rcases onBehaviourEvent_cases he with ⟨-, -, -, rfl⟩ | ⟨-, -, hobs⟩ | ⟨-, -, rfl⟩
    · exact absurd ho (List.not_mem_nil _)
    · obtain ⟨id, sub, msg, rfl⟩ := hobs o ho
      exact ⟨sub, .inr (.inr (.inl ⟨id, msg, rfl⟩))⟩
    · exact absurd ho (List.not_mem_nil _)

theorem poll_untracked {now : Instant} {outSched : List (Nat × SinkIo KadResponseMsg)}
    {inSched : List (Nat × SinkIo KadRequestMsg)} {r : Poll ConnectionHandlerEvent}
    (hp : h.poll now outSched inSched = some (h', r, obs)) :
    h'.pendingMessages = h.pendingMessages ∧ Untracked obs := by
  have hout : ∀ {pool sched} {out : PoolPolled OutboundSubstreamState},
      pollOutbound pool sched = some out → Untracked out.ops := fun hpo =>
    untracked_of_ops <| SelectAll.pollNext_ops (fun _ _ _ hp o ho => by
      obtain ⟨s, op, -, rfl⟩ := OutboundSubstreamState.pollNext_ops hp o ho
      exact ⟨s, .inl ⟨op, rfl⟩⟩) hpo
  have hin : ∀ {pool sched} {inb : PoolPolled InboundSubstreamState},
      pollInbound pool sched = some inb → Untracked inb.ops := fun hpi =>
    untracked_of_ops <| SelectAll.pollNext_ops (fun _ _ _ hp o ho => by
      obtain ⟨s, op, -, rfl⟩ := InboundSubstreamState.pollNext_ops hp o ho
      exact ⟨s, .inr (.inl ⟨op, rfl⟩)⟩) hpi
  rcases poll_cases hp with ⟨_, -, -, rfl, -, rfl⟩ | ⟨-, hp⟩
  · exact ⟨rfl, List.forall_mem_nil _⟩
  obtain ⟨out, hpo, ⟨_, -, rfl, -, rfl⟩ | ⟨inb, -, hpi, ⟨_, -, rfl, -, rfl⟩ | ⟨-, rfl, hr⟩⟩⟩ :=
    pollSubstreams_cases hp
  · exact ⟨rfl, hout hpo⟩
  · exact ⟨rfl, List.forall_mem_append.2 ⟨hout hpo, hin hpi⟩⟩
  · refine ⟨?_, List.forall_mem_append.2 ⟨hout hpo, hin hpi⟩⟩
    rcases requestOrIdle_cases hr with ⟨-, -, rfl, -⟩ | ⟨rfl, -⟩ <;> rfl

end Handler

def Fifo (w : World) : Prop :=
  ∃ consumed, enqueued w.trace = consumed ++ w.handler.pendingMessages ∧
    (dispatched w.trace).Sublist consumed ∧
    substreamRequests w.trace = consumed.length + w.outstanding

namespace Fifo

variable {w w' : World}

theorem init (protocolNames : List String) (idleTimeout : Duration) (endpoint : ConnectedPoint)
    (mode : Mode) (now : Instant) : Fifo (World.init protocolNames idleTimeout endpoint mode now) :=
  ⟨[], rfl, .slnil, rfl⟩

theorem extend (hf : Fifo w) {new : List (KadRequestMsg × Option QueryId)}
    (hq : w'.handler.pendingMessages = w.handler.pendingMessages ++ new) {obs : List Obs}
    (ht : w'.trace = w.trace ++ obs) (he : enqueued obs = new) (hd : dispatched obs = [])
    (hr : w'.outstanding = w.outstanding + substreamRequests obs) : Fifo w' := by
  obtain ⟨consumed, hq', hd', hr'⟩ := hf
  refine ⟨consumed, by simp [ht, he, hq', hq], by simpa [ht, hd] using hd', ?_⟩
  simp only [ht, substreamRequests_append, hr', hr]
  omega

theorem frame (hf : Fifo w) (hq : w'.handler.pendingMessages = w.handler.pendingMessages)
    (ho : w'.outstanding = w.outstanding) {obs : List Obs} (ht : w'.trace = w.trace ++ obs)
    (hobs : Untracked obs) : Fifo w' :=
  let ⟨he, hd, hr⟩ := hobs.counts
  hf.extend (by rw [hq, List.append_nil]) ht he hd (by rw [ho, hr, Nat.add_zero])

theorem consume (hf : Fifo w) {x : KadRequestMsg × Option QueryId}
    {pending : List (KadRequestMsg × Option QueryId)}
    (hp : w.handler.pendingMessages = x :: pending) (hout : 0 < w.outstanding)
    (hq : w'.handler.pendingMessages = pending) (ho : w'.outstanding = w.outstanding - 1) {obs : List Obs} (ht : w'.trace = w.trace ++ obs)
    (hobs : dispatched obs = [] ∨ dispatched obs = [x]) (he : enqueued obs = [])
    (hr : substreamRequests obs = 0) : Fifo w' := by
  obtain ⟨consumed, hq', hd, hr'⟩ := hf
  refine ⟨consumed ++ [x], by simp [ht, he, hq', hp, hq], ?_, ?_⟩
  · rw [ht, dispatched_append]
    rcases hobs with h | h <;> rw [h]
    · exact (List.append_nil _).symm ▸ hd.trans (List.sublist_append_left _ _)
    · exact hd.append (List.Sublist.refl _)
  · simp only [ht, substreamRequests_append, hr, hr', ho, List.length_append, List.length_singleton]
    omega

theorem step (hc : Counters.Inv w) (hf : Fifo w) (hs : Step w w') : Fifo w' := by
  have hfront : 0 < w.outstanding → ∃ x pending, w.handler.pendingMessages = x :: pending :=
    fun hout => List.exists_cons_of_length_pos (by have := hc.requested_le; omega)
  cases hs with
  | behaviour message h obs he =>
    obtain ⟨hq, hobs⟩ := onBehaviourEvent_enqueues he
    obtain ⟨he', hd', hr'⟩ := hobs.counts
    exact hf.extend hq rfl (by simp [he']) (by simp [hd', dispatchedBy])
      (by simp [hr', isSubstreamRequest])
  | fullyNegotiatedOutbound hout =>
    obtain ⟨⟨msg, queryId⟩, pending, hp⟩ := hfront hout
    have hpool :
        (w.handler.onConnectionEvent (.fullyNegotiatedOutbound w.substreams)).outboundSubstreams =
          SelectAll.push w.handler.outboundSubstreams (.pendingSend w.substreams msg queryId) := by
      simp [onConnectionEvent, onFullyNegotiatedOutbound_of_cons hp, confirmOnFirstSubstream_eq]
    exact hf.consume hp hout (by simp [onConnectionEvent, onFullyNegotiatedOutbound_of_cons hp,
      confirmOnFirstSubstream_eq]) rfl (congrArg (w.trace ++ ·) (World.opened_push hpool))
      (.inr rfl) rfl rfl
  | dialUpgradeError error hout =>
    obtain ⟨⟨msg, queryId⟩, pending, hp⟩ := hfront hout
    exact hf.consume hp hout (by simp [onConnectionEvent, onDialUpgradeError_of_cons hp]) rfl
      (List.append_nil _).symm (.inl rfl) rfl rfl
  | fullyNegotiatedInbound =>
    obtain ⟨pool, id, he⟩ := onFullyNegotiatedInbound_eq w.handler w.substreams
    refine hf.frame (by simp [onConnectionEvent, he, confirmOnFirstSubstream_eq]) rfl rfl
      (untracked_of_ops fun o ho => ?_)
    simp only [World.admitted] at ho
    split at ho
    · exact absurd ho (List.not_mem_nil _)
    · exact ⟨_, .inr (.inr (.inr ⟨_, List.mem_singleton.mp ho⟩))⟩
  | remoteProtocolsChange change =>
    obtain ⟨protocols, status, he⟩ := onRemoteProtocolsChange_eq w.handler change
    exact hf.frame (by simp [he]) rfl rfl (List.forall_mem_singleton.2 ⟨rfl, rfl, rfl⟩)
  | poll outSched inSched h r obs hp =>
    obtain ⟨hq, hobs⟩ := poll_untracked hp
    obtain ⟨he, hd, hr⟩ := hobs.counts
    have hr₁ : enqueued (pollObs r) = [] ∧ dispatched (pollObs r) = [] := by
      cases r <;> exact ⟨rfl, rfl⟩
    exact hf.extend (by rw [hq, List.append_nil]) (List.append_assoc _ _ _) (by simp [he, hr₁.1])
      (by simp [hd, hr₁.2]) (by simp [hr, substreamRequests_pollObs])
  | wake s =>
    exact hf.frame (by simp [Handler.wake]) rfl (List.append_nil _).symm (List.forall_mem_nil _)
  | tick now hnow => exact hf.frame rfl rfl (List.append_nil _).symm (List.forall_mem_nil _)

theorem reachable {w : World} (hw : Reachable w) : Fifo w := by
  induction hw with
  | init => exact init ..
  | step hw hs ih => exact ih.step (Counters.inv_of_reachable hw) hs

end Fifo

end Libp2p.Kad.Dispatch
