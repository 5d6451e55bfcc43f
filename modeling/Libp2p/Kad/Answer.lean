import Libp2p.Kad.Handler

namespace Libp2p.Kad.Answer

variable {requestId : RequestId} {msg : KadResponseMsg}

theorem tryAnswerWith_of_refuse {s : InboundSubstreamState}
    (hs : s.isWaitingBehaviourFor requestId = false) :
    s.tryAnswerWith requestId msg = (s, .error msg) := by
  cases s <;> simp_all [InboundSubstreamState.tryAnswerWith, InboundSubstreamState.isWaitingBehaviourFor]

theorem answerPendingRequest_refused {pre : SelectAll InboundSubstreamState}
    (hpre : ∀ e ∈ pre, e.stream.isWaitingBehaviourFor requestId = false)
    (rest : SelectAll InboundSubstreamState) :
    answerPendingRequest requestId msg (pre ++ rest) =
      (pre ++ (answerPendingRequest requestId msg rest).1,
        (answerPendingRequest requestId msg rest).2) := by
  induction pre with
  | nil => rfl
  | cons e pre ih =>
    have he := hpre e (List.mem_cons_self _ _)
    simp only [List.cons_append, answerPendingRequest, tryAnswerWith_of_refuse he, List.append_eq,
      ih fun e' h => hpre e' (List.mem_cons_of_mem _ h)]

theorem resetRequest_refused {pre : SelectAll InboundSubstreamState}
    (hpre : ∀ e ∈ pre, e.stream.isWaitingBehaviourFor requestId = false)
    (rest : SelectAll InboundSubstreamState) :
    resetRequest requestId (pre ++ rest) = (resetRequest requestId rest).map (pre ++ ·) := by
  induction pre with
  | nil => simp
  | cons e pre ih =>
    have he := hpre e (List.mem_cons_self _ _)
    simp only [List.cons_append, resetRequest, he, List.append_eq, Bool.false_eq_true, if_false,
      ih fun e' h => hpre e' (List.mem_cons_of_mem _ h), Option.map_map]
    rfl

/-- Answering and resetting a request touch only the first exchange waiting for the behaviour
on it, and nothing when there is none: every exchange that refuses the answer is restored. -/
theorem answer_and_reset_touch_first_waiting (pool : SelectAll InboundSubstreamState)
    (requestId : RequestId) (msg : KadResponseMsg) :
    (∀ pre e post s waker, pool = pre ++ e :: post →
      (∀ e' ∈ pre, e'.stream.isWaitingBehaviourFor requestId = false) →
      e.stream = .waitingBehaviour requestId.connecUniqueId s waker →
      (answerPendingRequest requestId msg pool).1 =
        pre ++ ⟨.pendingSend requestId.connecUniqueId s msg, e.queued || waker.isSome, e.parked⟩ ::
          post ∧
      resetRequest requestId pool = some (pre ++ { e with stream := .closing s } :: post)) ∧
    ((∀ e ∈ pool, e.stream.isWaitingBehaviourFor requestId = false) →
      (answerPendingRequest requestId msg pool).1 = pool ∧ resetRequest requestId pool = some pool) := by
  refine ⟨fun pre e post s waker hpool hpre he => ?_, fun hall => ?_⟩
  · subst hpool
    rw [answerPendingRequest_refused hpre, resetRequest_refused hpre]
    simp [answerPendingRequest, resetRequest, InboundSubstreamState.tryAnswerWith,
      InboundSubstreamState.isWaitingBehaviourFor, InboundSubstreamState.close, he]
  · have h : answerPendingRequest requestId msg (pool ++ []) = _ := answerPendingRequest_refused hall []
    have hr := resetRequest_refused hall []
    simp only [List.append_nil] at h hr
    simp [h, hr, answerPendingRequest, resetRequest]

end Libp2p.Kad.Answer
