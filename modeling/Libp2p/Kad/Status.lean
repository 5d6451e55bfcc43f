import Libp2p.Kad.Run

namespace Libp2p.Kad.Status

open Handler

/-- The protocol status an observation tells the behaviour, if it is a status event. -/
def statusOf : Obs → Option Bool
  | .event (.notifyBehaviour (.protocolConfirmed _)) => some true
  | .event (.notifyBehaviour (.protocolNotSupported _)) => some false
  | _ => none

/-- The status the behaviour was told last. -/
def lastStatus (trace : List Obs) : Option Bool :=
  (trace.filterMap statusOf).getLast?

def Silent (obs : List Obs) : Prop :=
  ∀ o ∈ obs, statusOf o = none ∧ ∀ before after, o ≠ .protocolsChanged before after

theorem Silent.of_ops {obs : List Obs}
    (h : ∀ o ∈ obs, ∃ s, (∃ op, o = .outbound s op) ∨ (∃ op, o = .inbound s op) ∨
      (∃ id msg, o = .accepted id s msg) ∨ (∃ id, o = .admitted id s) ∨
      ∃ msg queryId, o = .opened s msg queryId) : Silent obs := fun o ho => by
  obtain ⟨s, ⟨op, rfl⟩ | ⟨op, rfl⟩ | ⟨id, msg, rfl⟩ | ⟨id, rfl⟩ | ⟨msg, queryId, rfl⟩⟩ := h o ho <;>
    exact ⟨rfl, fun _ _ => Obs.noConfusion⟩

theorem lastStatus_append {trace obs : List Obs} (h : ∀ o ∈ obs, statusOf o = none) :
    lastStatus (trace ++ obs) = lastStatus trace := by
  simp [lastStatus, List.filterMap_eq_nil_iff.2 h]

theorem lastStatus_statusEvent (trace : List Obs) (supported : Bool) (endpoint : ConnectedPoint) :
    lastStatus (trace ++ [.event (.notifyBehaviour (statusEvent supported endpoint))]) =
      some supported := by
  cases supported <;> simp [lastStatus, statusEvent, statusOf]

section Pools

variable {ι σ : Type} {poll : ι → σ → Option (Polled σ)} {parkedOn : σ → Option Substream}
  {pool : SelectAll σ} {sched : List (Nat × ι)} {r : PoolPolled σ}

theorem pool_silent (hr : SelectAll.pollNext poll parkedOn pool sched = some r)
    (hops : ∀ s io p, poll io s = some p → Silent p.ops)
    (hitem : ∀ s io p item, poll io s = some p → p.result = .ready (some item) →
      statusOf (.event item) = none) :
    Silent (r.ops ++ r.item.toList.map .event) := by
  intro o ho
  rcases List.mem_append.mp ho with ho | ho
  · exact SelectAll.pollNext_ops
      (Q := fun o => statusOf o = none ∧ ∀ b a, o ≠ .protocolsChanged b a) hops hr o ho
  · obtain ⟨item, hi, rfl⟩ := List.mem_map.mp ho
    exact ⟨SelectAll.pollNext_item hitem hr item (Option.mem_toList.mp hi),
      fun _ _ => Obs.noConfusion⟩

end Pools

theorem outbound_silent {pool : SelectAll OutboundSubstreamState}
    {sched : List (Nat × SinkIo KadResponseMsg)} {out : PoolPolled OutboundSubstreamState}
    (hout : pollOutbound pool sched = some out) :
    Silent (out.ops ++ out.item.toList.map .event) := by
  refine pool_silent hout (fun _ _ _ hp => Silent.of_ops fun o ho => ?_) (fun _ _ _ _ hp hr => ?_)
  · obtain ⟨s, op, -, rfl⟩ := OutboundSubstreamState.pollNext_ops hp o ho
    exact ⟨s, .inl ⟨op, rfl⟩⟩
  · obtain ⟨event, _, rfl, hq⟩ := OutboundSubstreamState.pollNext_event hp hr
    cases event <;> simp_all [statusOf, HandlerEvent.queryId?]

theorem inbound_silent {pool : SelectAll InboundSubstreamState}
    {sched : List (Nat × SinkIo KadRequestMsg)} {inb : PoolPolled InboundSubstreamState}
    (hinb : pollInbound pool sched = some inb) :
    Silent (inb.ops ++ inb.item.toList.map .event) := by
  refine pool_silent hinb (fun _ _ _ hp => Silent.of_ops fun o ho => ?_) (fun _ _ _ _ hp hr => ?_)
  · obtain ⟨s, op, -, rfl⟩ := InboundSubstreamState.pollNext_ops hp o ho
    exact ⟨s, .inr (.inl ⟨op, rfl⟩)⟩
  · obtain ⟨event, rfl, hreq | ⟨_, _, rfl⟩⟩ := InboundSubstreamState.pollNext_event hp hr
    · cases event <;> simp_all [statusOf, HandlerEvent.requestId?]
    · rfl

theorem pollSubstreams_silent {h h' : Handler} {now : Instant}
    {outSched : List (Nat × SinkIo KadResponseMsg)} {inSched : List (Nat × SinkIo KadRequestMsg)}
    {r : Poll ConnectionHandlerEvent} {obs : List Obs}
    (hp : h.pollSubstreams now outSched inSched = some (h', r, obs)) :
    h'.protocolStatus = h.protocolStatus ∧ Silent (obs ++ pollObs r) := by
  obtain ⟨out, hout, ⟨event, he, rfl, rfl, rfl⟩ | ⟨inb, hn, hinb, hin⟩⟩ := pollSubstreams_cases hp
  · refine ⟨rfl, by simpa [he, pollObs] using outbound_silent hout⟩
  have hos := outbound_silent hout
  have his := inbound_silent hinb
  simp only [hn, Option.toList_none, List.map_nil, List.append_nil] at hos
  rcases hin with ⟨event, he, rfl, rfl, rfl⟩ | ⟨hn', rfl, hr⟩
  · refine ⟨rfl, ?_⟩
    simp only [he, Option.toList_some, List.map_cons, List.map_nil] at his
    simpa only [pollObs, List.append_assoc] using List.forall_mem_append.2 ⟨hos, his⟩
  · simp only [hn', Option.toList_none, List.map_nil, List.append_nil] at his
    rcases requestOrIdle_cases hr with ⟨-, -, rfl, rfl⟩ | ⟨rfl, rfl⟩ <;>
      refine ⟨rfl, List.forall_mem_append.2 ⟨List.forall_mem_append.2 ⟨hos, his⟩, ?_⟩⟩
    · exact List.forall_mem_singleton.2 ⟨rfl, fun _ _ => Obs.noConfusion⟩
    · exact List.forall_mem_nil _

/-- Status `s` was marked reported by a change of the remote's protocols that re-derived it while
it was unreported; since then no status event was emitted and every later change left it so. -/
def SilentlyMarked (s : Bool) (trace : List Obs) : Prop :=
  ∃ pre post, trace = pre ++ .protocolsChanged (some ⟨s, false⟩) (some ⟨s, true⟩) :: post ∧
    ∀ o ∈ post, statusOf o = none ∧
      ∀ before after, o = .protocolsChanged before after → after = some ⟨s, true⟩

theorem SilentlyMarked.append {s : Bool} {trace obs : List Obs} (h : SilentlyMarked s trace)
    (hobs : ∀ o ∈ obs, statusOf o = none ∧
      ∀ before after, o = .protocolsChanged before after → after = some ⟨s, true⟩) :
    SilentlyMarked s (trace ++ obs) :=
  let ⟨pre, post, ht, hpost⟩ := h
  ⟨pre, post ++ obs, by simp [ht], List.forall_mem_append.2 ⟨hpost, hobs⟩⟩

def Explained (w : World) : Prop :=
  ∀ s, w.handler.protocolStatus = some ⟨s, true⟩ →
    lastStatus w.trace = some s ∨ SilentlyMarked s w.trace

theorem confirm_reported {status : Option ProtocolStatus} {s : Bool}
    (h : status.or (some ⟨true, false⟩) = some ⟨s, true⟩) : status = some ⟨s, true⟩ := by
  cases status <;> simp_all

theorem computeNewProtocolStatus_reported {nowSupported s : Bool} {current : Option ProtocolStatus}
    (h : computeNewProtocolStatus nowSupported current = ⟨s, true⟩) :
    ∃ reported, current = some ⟨s, reported⟩ := by
  unfold computeNewProtocolStatus at h
  split at h
  · cases h
  · next current =>
    split at h
    · next hs =>
      obtain ⟨rfl, -⟩ := ProtocolStatus.mk.inj h
      exact ⟨current.reported, by rw [hs]⟩
    · cases h

theorem onRemoteProtocolsChange_reported {h : Handler} {change : ProtocolsChange} {s : Bool}
    (hs : (h.onConnectionEvent (.remoteProtocolsChange change)).protocolStatus = some ⟨s, true⟩) :
    h.protocolStatus = some ⟨s, true⟩ ∨ h.protocolStatus = some ⟨s, false⟩ := by
  simp only [onConnectionEvent] at hs
  split at hs
  · obtain ⟨reported, hr⟩ := computeNewProtocolStatus_reported (Option.some.inj hs)
    cases reported
    · exact .inr hr
    · exact .inl hr
  · exact .inl hs

theorem onFullyNegotiatedOutbound_status (h : Handler) (protocol : Substream) :
    (h.onFullyNegotiatedOutbound protocol).protocolStatus =
      h.protocolStatus.or (some ⟨true, false⟩) := by
  cases hp : h.pendingMessages with
  | nil => simp [onFullyNegotiatedOutbound_of_nil hp, confirmOnFirstSubstream_eq]
  | cons x pending => simp [onFullyNegotiatedOutbound_of_cons hp, confirmOnFirstSubstream_eq]

theorem onDialUpgradeError_status (h : Handler) (error : StreamUpgradeError) :
    (h.onDialUpgradeError error).protocolStatus = h.protocolStatus := by
  cases hp : h.pendingMessages with
  | nil => simp [onDialUpgradeError_of_nil hp]
  | cons x pending => simp [onDialUpgradeError_of_cons hp]

namespace Explained

variable {w w' : World}

theorem frame (hi : Explained w) (obs : List Obs)
    (hs : ∀ s, w'.handler.protocolStatus = some ⟨s, true⟩ →
      w.handler.protocolStatus = some ⟨s, true⟩)
    (ht : w'.trace = w.trace ++ obs) (hobs : Silent obs) : Explained w' := fun s h => by
  rw [ht, lastStatus_append fun o ho => (hobs o ho).1]
  exact (hi s (hs s h)).imp_right fun hm =>
    hm.append fun o ho => ⟨(hobs o ho).1, fun b a he => absurd he ((hobs o ho).2 b a)⟩

theorem remoteProtocolsChange (hi : Explained w) (change : ProtocolsChange) :
    Explained { w with
      handler := w.handler.onConnectionEvent (.remoteProtocolsChange change)
      trace := w.trace ++ [.protocolsChanged w.handler.protocolStatus
        (w.handler.onConnectionEvent (.remoteProtocolsChange change)).protocolStatus] } := by
  intro s hs
  dsimp only at hs ⊢
  rcases onRemoteProtocolsChange_reported hs with hbefore | hbefore
  · rw [lastStatus_append (List.forall_mem_singleton.2
      (rfl : statusOf (.protocolsChanged _ _) = none))]
    exact (hi s hbefore).imp_right fun hm => hm.append fun o ho => by
      obtain rfl := List.mem_singleton.mp ho
      exact ⟨rfl, fun _ _ he => by cases he; exact hs⟩
  · exact .inr ⟨w.trace, [], by rw [hbefore, hs], List.forall_mem_nil _⟩

theorem init (protocolNames : List String) (idleTimeout : Duration) (endpoint : ConnectedPoint)
    (mode : Mode) (now : Instant) :
    Explained (World.init protocolNames idleTimeout endpoint mode now) :=
  fun _ hs => by simp [World.init, Handler.new] at hs

theorem step (hi : Explained w) (hs : Step w w') : Explained w' := by
  cases hs with
  | behaviour message h obs he =>
    have hframe : h.protocolStatus = w.handler.protocolStatus ∧ Silent obs := by
      rcases onBehaviourEvent_cases he with ⟨_, _, rfl, rfl⟩ | ⟨_, rfl, hobs⟩ | ⟨_, rfl, rfl⟩
      · exact ⟨rfl, List.forall_mem_nil _⟩
      · refine ⟨rfl, Silent.of_ops fun o ho => ?_⟩
        obtain ⟨id, sub, msg, rfl⟩ := hobs o ho
        exact ⟨sub, .inr (.inr (.inl ⟨id, msg, rfl⟩))⟩
      · exact ⟨rfl, List.forall_mem_nil _⟩
    exact hi.frame (.command message :: obs) (fun _ hs => hframe.1 ▸ hs) rfl
      (List.forall_mem_cons.2 ⟨⟨rfl, fun _ _ => Obs.noConfusion⟩, hframe.2⟩)
  | fullyNegotiatedOutbound hout =>
    exact hi.frame _ (fun s h => confirm_reported (onFullyNegotiatedOutbound_status _ _ ▸ h)) rfl
      (Silent.of_ops fun o ho => let ⟨msg, queryId, he⟩ := World.mem_opened ho
        ⟨_, .inr (.inr (.inr (.inr ⟨msg, queryId, he⟩)))⟩)
  | dialUpgradeError error hout =>
    exact hi.frame [] (fun s h => onDialUpgradeError_status _ _ ▸ h) (List.append_nil _).symm
      (List.forall_mem_nil _)
  | fullyNegotiatedInbound =>
    obtain ⟨pool, id, he⟩ := onFullyNegotiatedInbound_eq w.handler w.substreams
    refine hi.frame _ (fun s h => confirm_reported ?_) rfl (Silent.of_ops fun o ho => ?_)
    · simpa only [onConnectionEvent, he, confirmOnFirstSubstream_eq] using h
    · unfold World.admitted at ho
      split at ho
      · exact absurd ho (List.not_mem_nil o)
      · exact ⟨_, .inr (.inr (.inr (.inl ⟨_, List.mem_singleton.mp ho⟩)))⟩
  | remoteProtocolsChange change => exact hi.remoteProtocolsChange change
  | poll outSched inSched h r obs hp =>
    rcases poll_cases hp with ⟨status, hst, -, rfl, rfl, rfl⟩ | ⟨-, hp⟩
    · intro s hs
      simp only [Option.some.injEq, ProtocolStatus.mk.injEq, and_true] at hs
      left
      simp only [pollObs, List.append_nil, lastStatus_statusEvent, hs]
    · obtain ⟨hst, hobs⟩ := pollSubstreams_silent hp
      exact hi.frame (obs ++ pollObs r) (fun s h => hst ▸ h) (List.append_assoc _ _ _) hobs
  | wake s =>
    exact hi.frame [] (fun s h => h) (List.append_nil _).symm (List.forall_mem_nil _)
  | tick now hnow =>
    exact hi.frame [] (fun s h => h) (List.append_nil _).symm (List.forall_mem_nil _)

theorem reachable {w : World} (hw : Reachable w) : Explained w := by
  induction hw with
  | init => exact init _ _ _ _ _
  | step _ hs ih => exact ih.step hs

end Explained

/-- The remote opens a substream, then sends its protocol list, naming ours, before the handler
is polled again. -/
def silentConfirmation : World :=
  let w := World.init ["/ipfs/kad/1.0.0"] 10000 .listener .server 0
  let h := w.handler.onConnectionEvent (.fullyNegotiatedInbound w.substreams)
  let w := { w with handler := h, substreams := w.substreams + 1,
                    trace := w.trace ++ w.admitted h w.substreams }
  let h := w.handler.onConnectionEvent (.remoteProtocolsChange (.added ["/ipfs/kad/1.0.0"]))
  { w with handler := h,
           trace := w.trace ++ [.protocolsChanged w.handler.protocolStatus h.protocolStatus] }

theorem silentConfirmation_reachable : Reachable silentConfirmation :=
  .step (.step (.init _ _ _ _ _) (.fullyNegotiatedInbound _)) (.remoteProtocolsChange _ _)

/-- The status is then marked reported, and no status event was ever emitted. -/
theorem reported_status_never_emitted :
    ¬ ∀ w : World, Reachable w → ∀ s, w.handler.protocolStatus = some ⟨s, true⟩ →
      lastStatus w.trace = some s :=
  fun h => absurd (h _ silentConfirmation_reachable true (by decide)) (by decide)

/-- A status is marked reported only once the behaviour has been told it, or by a change of the
remote's protocols that re-derived it while it was unreported, after which nothing told the
behaviour otherwise and no change moved it. -/
theorem reported_status_explained {w : World} (hw : Reachable w) {s : Bool}
    (hs : w.handler.protocolStatus = some ⟨s, true⟩) :
    lastStatus w.trace = some s ∨ SilentlyMarked s w.trace :=
  Explained.reachable hw s hs

theorem reported_status_explained_silently :
    silentConfirmation.handler.protocolStatus = some ⟨true, true⟩ ∧
      (lastStatus silentConfirmation.trace = some true ∨
        SilentlyMarked true silentConfirmation.trace) :=
  ⟨by decide, reported_status_explained silentConfirmation_reachable (by decide)⟩

end Libp2p.Kad.Status
