import Mathlib.Data.List.Nodup
import Libp2p.Kad.Pattern

namespace Libp2p.Kad.Stamps

open Handler Pattern

/-- Whether an exchange waits for the behaviour to answer the request it read. -/
def waitsForBehaviour : InboundSubstreamState → Bool
  | .waitingBehaviour .. => true
  | _ => false

def isAdmission : Obs → Bool
  | .admitted .. => true
  | _ => false

/-- The inbound substreams the run admitted. -/
def admissions (trace : List Obs) : Nat := trace.countP isAdmission

@[simp] theorem admissions_append (a b : List Obs) :
    admissions (a ++ b) = admissions a + admissions b :=
  List.countP_append _ _ _

def logEntry (R : RequestId) : Obs → Option Bool
  | .event (.notifyBehaviour e) => if e.requestId? = some R then some true else none
  | .accepted id _ _ => if id = R.connecUniqueId then some false else none
  | _ => none

/-- The requests with `R` handed to the behaviour and the answers accepted for `R`, in order. -/
def requestLog (R : RequestId) (trace : List Obs) : List Bool := trace.filterMap (logEntry R)

@[simp] theorem requestLog_append (R : RequestId) (a b : List Obs) :
    requestLog R (a ++ b) = requestLog R a ++ requestLog R b :=
  List.filterMap_append _ _ _

/-- Requests and answers alternate, starting with a request. -/
def Alternates (log : List Bool) : Prop := log = (List.range log.length).map (· % 2 == 0)

theorem Alternates.snoc {log : List Bool} (h : Alternates log) :
    Alternates (log ++ [log.length % 2 == 0]) := by
  unfold Alternates at *
  rw [List.length_append, List.length_singleton, List.range_succ, List.map_append, ← h]
  rfl

def RequestsRead (trace : List Obs) : Prop :=
  EventsExplained (fun pre e => ∀ R, e.requestId? = some R → ∃ sub r pre',
    pre = pre' ++ [.inbound sub (.pollNext (.ready (some (.ok r))))] ∧
      .admitted R.connecUniqueId sub ∈ pre') trace

def Silent (obs : List Obs) : Prop := ∀ o ∈ obs, (∀ R, logEntry R o = none) ∧ isAdmission o = false

theorem silent_event {e : HandlerEvent} (he : e.requestId? = none) :
    Silent [.event (.notifyBehaviour e)] := by
  simp [Silent, logEntry, he, isAdmission]

theorem requestLog_event (R : RequestId) (e : HandlerEvent) :
    requestLog R [.event (.notifyBehaviour e)] = if e.requestId? = some R then [true] else [] := by
  by_cases h : e.requestId? = some R <;> simp [requestLog, logEntry, h]

theorem requestLog_accepted (R : RequestId) (id : UniqueConnecId) (sub : Substream)
    (msg : KadResponseMsg) :
    requestLog R [.accepted id sub msg] = if id = R.connecUniqueId then [false] else [] := by
  by_cases h : id = R.connecUniqueId <;> simp [requestLog, logEntry, h]

section Exchange

variable {io : SinkIo KadRequestMsg} {s n : InboundSubstreamState} {ops : List Obs}

theorem again_not_waiting (h : InboundSubstreamState.body io s = .again n ops) :
    waitsForBehaviour s = false ∧ waitsForBehaviour n = false := by
  unfold InboundSubstreamState.body at h
  split at h <;> (try split at h) <;> (try split at h) <;>
    simp only [Iteration.again.injEq, reduceCtorEq] at h <;> obtain ⟨rfl, -⟩ := h <;>
    simp [waitsForBehaviour]

theorem pollNext_connecId_keeps {p} {id : UniqueConnecId} (h : s.pollNext io = some p)
    (hs : p.state.connecId? = some id) : s.connecId? = some id := by
  refine Iteration.loop_induction (InboundSubstreamState.rank_lt_of_body io)
    (fun s p => p.state.connecId? = some id → s.connecId? = some id)
    (fun s n ops p hb hq hs => (InboundSubstreamState.ids_of_again hb).2 id (hq hs))
    (fun s st r ops hb hs => ?_) s p h hs
  unfold InboundSubstreamState.body at hb
  split at hb <;> (try split at hb) <;> (try split at hb) <;>
    simp only [Iteration.ret.injEq, reduceCtorEq] at hb <;> obtain ⟨rfl, -, -⟩ := hb <;>
    simp_all [InboundSubstreamState.connecId?]

theorem pollNext_pending_waits {p} (h : s.pollNext io = some p) (hr : p.result = .pending)
    (hs : p.state.connecId?.isSome) : waitsForBehaviour p.state = waitsForBehaviour s := by
  refine Iteration.loop_induction (InboundSubstreamState.rank_lt_of_body io)
    (fun s p => p.result = .pending → p.state.connecId?.isSome →
      waitsForBehaviour p.state = waitsForBehaviour s)
    (fun s n ops p hb hq hr hs => ?_) (fun s st r ops hb hr hs => ?_) s p h hr hs
  · rw [hq hr hs, (again_not_waiting hb).1, (again_not_waiting hb).2]
  · unfold InboundSubstreamState.body at hb
    split at hb <;> (try split at hb) <;> (try split at hb) <;>
      simp only [Iteration.ret.injEq, reduceCtorEq] at hb <;> obtain ⟨rfl, rfl, -⟩ := hb <;>
      simp_all [waitsForBehaviour, InboundSubstreamState.connecId?]

theorem pollNext_item_read {p} {item : ConnectionHandlerEvent} (h : s.pollNext io = some p)
    (hr : p.result = .ready (some item)) :
    waitsForBehaviour s = false ∧ ∃ ops' sub r,
      p.ops = ops' ++ [.inbound sub (.pollNext (.ready (some (.ok r))))] ∧
        s.substream? = some sub := by
  refine Iteration.loop_induction (InboundSubstreamState.rank_lt_of_body io)
    (fun s p => p.result = .ready (some item) → waitsForBehaviour s = false ∧ ∃ ops' sub r,
      p.ops = ops' ++ [.inbound sub (.pollNext (.ready (some (.ok r))))] ∧
        s.substream? = some sub)
    (fun s n ops p hb hq hr => ?_) (fun s st r ops hb hr => ?_) s p h hr
  · obtain ⟨-, ops', sub, r, hops, hsub⟩ := hq hr
    exact ⟨(again_not_waiting hb).1, ops ++ ops', sub, r, by simp [hops],
      (InboundSubstreamState.ids_of_again hb).1 ▸ hsub⟩
  · unfold InboundSubstreamState.body at hb
    split at hb <;> (try split at hb) <;> (try split at hb) <;>
      simp only [Iteration.ret.injEq, reduceCtorEq] at hb <;> obtain ⟨rfl, rfl, rfl⟩ := hb <;>
      simp only [Poll.ready.injEq, reduceCtorEq, Option.some.injEq] at hr
    all_goals exact ⟨rfl, [], _, _, by rw [‹io.next = _›]; rfl, rfl⟩

theorem silent_ops {p} (h : s.pollNext io = some p) : Silent p.ops := fun o ho => by
  obtain ⟨_, _, -, rfl⟩ := InboundSubstreamState.pollNext_ops h o ho
  exact ⟨fun _ => rfl, rfl⟩

end Exchange

def StampFits (log : List Bool) (s : InboundSubstreamState) : Prop :=
  log.length % 2 = 1 ↔ waitsForBehaviour s = true

structure StampsFollow (n : Nat) (pool : SelectAll InboundSubstreamState) (trace : List Obs) :
    Prop where
  stamps : ∀ id, SubFollows InboundSubstreamState.connecId? StampFits pool
    (requestLog ⟨id⟩ trace) id
  bounded : ∀ e ∈ pool, ∀ id, e.stream.connecId? = some id → id.toNat < n
  fresh : ∀ id : UniqueConnecId, n ≤ id.toNat → requestLog ⟨id⟩ trace = []
  alternates : ∀ R, Alternates (requestLog R trace)
  admitted : ∀ e ∈ pool, ∀ id sub, e.stream.connecId? = some id → e.stream.substream? = some sub →
    .admitted id sub ∈ trace
  accepted : ∀ id sub msg, .accepted id sub msg ∈ trace → .admitted id sub ∈ trace
  requests : RequestsRead trace
  admittedBelow : ∀ id sub, .admitted id sub ∈ trace → id.toNat < n
  admittedOnce : ∀ id sub sub', .admitted id sub ∈ trace → .admitted id sub' ∈ trace → sub = sub'

namespace StampsFollow

variable {n : Nat} {pool : SelectAll InboundSubstreamState} {trace : List Obs}

theorem requestLog_silent {more : List Obs} (hs : Silent more) (R : RequestId) :
    requestLog R more = [] :=
  List.filterMap_eq_nil_iff.2 fun o ho => (hs o ho).1 R

theorem mem_silent {more : List Obs} (hs : Silent more) {o : Obs} (ho : o ∈ trace ++ more)
    (hlog : ∃ R, logEntry R o ≠ none ∨ isAdmission o = true) : o ∈ trace := by
  rcases List.mem_append.mp ho with ho | ho
  · exact ho
  · obtain ⟨R, hR⟩ := hlog
    have := hs o ho
    simp_all

theorem mem_of_mem_snoc {o x : Obs} (ho : o ∈ trace ++ [x]) (hne : o ≠ x) : o ∈ trace :=
  (List.mem_append.mp ho).resolve_right fun h => hne (List.mem_singleton.mp h)

theorem silent (hI : StampsFollow n pool trace) {more : List Obs} (hs : Silent more) :
    StampsFollow n pool (trace ++ more) where
  stamps id := by simpa [requestLog_silent hs] using hI.stamps id
  bounded := hI.bounded
  fresh id hn := by simpa [requestLog_silent hs] using hI.fresh id hn
  alternates R := by simpa [requestLog_silent hs] using hI.alternates R
  admitted e he id sub h₁ h₂ := List.mem_append_left _ (hI.admitted e he id sub h₁ h₂)
  accepted id sub msg h := List.mem_append_left _ (hI.accepted id sub msg (mem_silent hs h
    ⟨⟨id⟩, .inl (by simp [logEntry])⟩))
  requests := EventsExplained.append_of hI.requests fun e he pre R hR => by
    have := (hs _ he).1 R
    simp [logEntry, hR] at this
  admittedBelow id sub h := hI.admittedBelow id sub (mem_silent hs h ⟨⟨id⟩, .inr rfl⟩)
  admittedOnce id sub sub' h h' :=
    hI.admittedOnce id sub sub' (mem_silent hs h ⟨⟨id⟩, .inr rfl⟩)
      (mem_silent hs h' ⟨⟨id⟩, .inr rfl⟩)

variable {i : Nat} {e : Entry InboundSubstreamState}

theorem replace (hI : StampsFollow n pool trace) (he : pool[i]? = some e)
    {x : Entry InboundSubstreamState}
    (hid : ∀ id, x.stream.connecId? = some id → e.stream.connecId? = some id ∧
      StampFits (requestLog ⟨id⟩ trace) x.stream ∧
      ∀ sub, x.stream.substream? = some sub → e.stream.substream? = some sub) :
    StampsFollow n (pool.set i x) trace where
  stamps id := SubFollows.set (hI.stamps id) he (fun h => ⟨(hid id h).1, (hid id h).2.1⟩)
    fun _ => rfl
  bounded e' he' id h := by
    rcases SelectAll.mem_set_of_mem he' with he' | rfl
    · exact hI.bounded e' he' id h
    · exact hI.bounded e (List.getElem?_mem he) id (hid id h).1
  fresh := hI.fresh
  alternates := hI.alternates
  admitted e' he' id sub h₁ h₂ := by
    rcases SelectAll.mem_set_of_mem he' with he' | rfl
    · exact hI.admitted e' he' id sub h₁ h₂
    · exact hI.admitted e (List.getElem?_mem he) id sub (hid id h₁).1 ((hid id h₁).2.2 sub h₂)
  accepted := hI.accepted
  requests := hI.requests
  admittedBelow := hI.admittedBelow
  admittedOnce := hI.admittedOnce

theorem erase (hI : StampsFollow n pool trace) (he : pool[i]? = some e) :
    StampsFollow n (pool.eraseIdx i) trace where
  stamps id := (SubFollows.eraseIdx (hI.stamps id) he fun _ => rfl).1
  bounded e' he' := hI.bounded e' (List.mem_of_mem_eraseIdx he')
  fresh := hI.fresh
  alternates := hI.alternates
  admitted e' he' := hI.admitted e' (List.mem_of_mem_eraseIdx he')
  accepted := hI.accepted
  requests := hI.requests
  admittedBelow := hI.admittedBelow
  admittedOnce := hI.admittedOnce

theorem repush (hI : StampsFollow n pool trace) (he : pool[i]? = some e)
    (x : InboundSubstreamState) (hx : x.connecId? = e.stream.connecId?)
    (hsub : x.substream? = e.stream.substream?)
    (hfit : ∀ id, x.connecId? = some id → StampFits (requestLog ⟨id⟩ trace) x) :
    StampsFollow n (SelectAll.push (pool.eraseIdx i) x) trace where
  stamps id := by
    obtain ⟨hf, hzero⟩ := SubFollows.eraseIdx (hI.stamps id) he fun _ => rfl
    exact SubFollows.push hf fun h => ⟨hzero (hx ▸ h), hfit id h⟩
  bounded e' he' id h := by
    rcases List.mem_cons.mp he' with rfl | he'
    · exact hI.bounded e (List.getElem?_mem he) id (hx ▸ h)
    · exact hI.bounded e' (List.mem_of_mem_eraseIdx he') id h
  fresh := hI.fresh
  alternates := hI.alternates
  admitted e' he' id sub h₁ h₂ := by
    rcases List.mem_cons.mp he' with rfl | he'
    · exact hI.admitted e (List.getElem?_mem he) id sub (hx ▸ h₁) (hsub ▸ h₂)
    · exact hI.admitted e' (List.mem_of_mem_eraseIdx he') id sub h₁ h₂
  accepted := hI.accepted
  requests := hI.requests
  admittedBelow := hI.admittedBelow
  admittedOnce := hI.admittedOnce

theorem logs_snoc (hI : StampsFollow n pool trace) {id : UniqueConnecId} (hlt : id.toNat < n)
    {o : Obs} (hlog : ∀ R, requestLog R [o] =
      if ⟨id⟩ = R then [(requestLog ⟨id⟩ trace).length % 2 == 0] else []) :
    (∀ id' : UniqueConnecId, n ≤ id'.toNat → requestLog ⟨id'⟩ (trace ++ [o]) = []) ∧
      ∀ R, Alternates (requestLog R (trace ++ [o])) := by
  refine ⟨fun id' hn' => ?_, fun R => ?_⟩
  · have hs : id ≠ id' := fun h => absurd hlt (h ▸ Nat.not_lt.mpr hn')
    simpa [hlog, hs] using hI.fresh id' hn'
  · rw [requestLog_append, hlog]
    split
    · rename_i h
      subst h
      exact (hI.alternates ⟨id⟩).snoc
    · simpa using hI.alternates R

theorem request (hI : StampsFollow n pool trace) (he : pool[i]? = some e) {id : UniqueConnecId}
    {sub : Substream} (hid : e.stream.connecId? = some id) (hsub : e.stream.substream? = some sub)
    (hwait : waitsForBehaviour e.stream = false) {event : HandlerEvent}
    (hreq : event.requestId? = some ⟨id⟩)
    (hread : ∃ r pre', trace = pre' ++ [.inbound sub (.pollNext (.ready (some (.ok r))))]) :
    StampsFollow n (SelectAll.push (pool.eraseIdx i) (.waitingBehaviour id sub none))
      (trace ++ [.event (.notifyBehaviour event)]) := by
  have hmem := List.getElem?_mem he
  have heven : (requestLog ⟨id⟩ trace).length % 2 = 0 := by
    have := (hI.stamps id).2 e hmem hid
    simp [StampFits, hwait] at this
    omega
  have hlog : ∀ R, requestLog R [.event (.notifyBehaviour event)] =
      if ⟨id⟩ = R then [(requestLog ⟨id⟩ trace).length % 2 == 0] else [] := fun R => by
    simp [requestLog_event, hreq, heven]
  have hlt := hI.bounded e hmem id hid
  have hadm := hI.admitted e hmem id sub hid hsub
  obtain ⟨hfresh, halt⟩ := hI.logs_snoc hlt hlog
  refine ⟨fun id' => ?_, fun e' he' id' h => ?_, hfresh, halt,
    fun e' he' id' sub' h₁ h₂ => ?_, fun id' sub' msg h => List.mem_append_left _
      (hI.accepted id' sub' msg (mem_of_mem_snoc h Obs.noConfusion)), ?_,
    fun id' sub' h => hI.admittedBelow id' sub' (mem_of_mem_snoc h Obs.noConfusion),
    fun id' sub₁ sub₂ h₁ h₂ =>
      hI.admittedOnce id' sub₁ sub₂ (mem_of_mem_snoc h₁ Obs.noConfusion)
        (mem_of_mem_snoc h₂ Obs.noConfusion)⟩
  · rw [requestLog_append, hlog]
    by_cases hs : id = id'
    · subst hs
      obtain ⟨hf, hzero⟩ := SubFollows.eraseIdx (hI.stamps id) he
        (fun h => absurd hid h : _ → requestLog ⟨id⟩ trace ++ [true] = _)
      simp only [if_pos rfl, heven, beq_self_eq_true]
      refine SubFollows.push hf fun _ => ⟨hzero hid, ?_⟩
      simp [StampFits, waitsForBehaviour]
      omega
    · simp only [RequestId.mk.injEq, hs, if_false, List.append_nil]
      refine SubFollows.push (SubFollows.eraseIdx (hI.stamps id') he fun _ => rfl).1
        fun h => absurd (by simpa [InboundSubstreamState.connecId?] using h) hs
  · rcases List.mem_cons.mp he' with rfl | he'
    · obtain rfl : id = id' := by simpa [InboundSubstreamState.connecId?] using h
      exact hlt
    · exact hI.bounded e' (List.mem_of_mem_eraseIdx he') id' h
  · rcases List.mem_cons.mp he' with rfl | he'
    · obtain ⟨rfl, rfl⟩ : id = id' ∧ sub = sub' := by
        simp_all [InboundSubstreamState.connecId?, InboundSubstreamState.substream?]
      exact List.mem_append_left _ hadm
    · exact List.mem_append_left _ (hI.admitted e' (List.mem_of_mem_eraseIdx he') id' sub' h₁ h₂)
  · refine EventsExplained.snoc hI.requests fun R hR => ?_
    obtain rfl : (⟨id⟩ : RequestId) = R := Option.some.inj (hreq.symm.trans hR)
    obtain ⟨r, pre', rfl⟩ := hread
    exact ⟨sub, r, pre', rfl, (List.mem_append.mp hadm).resolve_right (by simp)⟩

theorem accept (hI : StampsFollow n pool trace) (he : pool[i]? = some e) {id : UniqueConnecId}
    {sub : Substream} {waker : Option Waker} (hw : e.stream = .waitingBehaviour id sub waker)
    (msg : KadResponseMsg) (queued : Bool) (parked : Option Substream) :
    StampsFollow n (pool.set i ⟨.pendingSend id sub msg, queued, parked⟩)
      (trace ++ [.accepted id sub msg]) := by
  have hmem := List.getElem?_mem he
  have hid : e.stream.connecId? = some id := by simp [hw, InboundSubstreamState.connecId?]
  have hodd : (requestLog ⟨id⟩ trace).length % 2 = 1 := by
    have := (hI.stamps id).2 e hmem hid
    simpa [StampFits, hw, waitsForBehaviour] using this
  have hlog : ∀ R, requestLog R [.accepted id sub msg] =
      if ⟨id⟩ = R then [(requestLog ⟨id⟩ trace).length % 2 == 0] else [] := fun R => by
    by_cases h : id = R.connecUniqueId
    · obtain ⟨c⟩ := R
      obtain rfl : id = c := h
      simp [requestLog_accepted, hodd]
    · have : (⟨id⟩ : RequestId) ≠ R := fun h' => h (h' ▸ rfl)
      simp [requestLog_accepted, h, this]
  have hlt := hI.bounded e hmem id hid
  have hadm := hI.admitted e hmem id sub hid (by simp [hw, InboundSubstreamState.substream?])
  obtain ⟨hfresh, halt⟩ := hI.logs_snoc hlt hlog
  refine ⟨fun id' => ?_, fun e' he' id' h => ?_, hfresh, halt,
    fun e' he' id' sub' h₁ h₂ => ?_, fun id' sub' msg' h => ?_,
    EventsExplained.append_of hI.requests fun e he => by simp at he,
    fun id' sub' h => hI.admittedBelow id' sub' (mem_of_mem_snoc h Obs.noConfusion),
    fun id' sub₁ sub₂ h₁ h₂ =>
      hI.admittedOnce id' sub₁ sub₂ (mem_of_mem_snoc h₁ Obs.noConfusion)
        (mem_of_mem_snoc h₂ Obs.noConfusion)⟩
  · rw [requestLog_append, hlog]
    by_cases hs : id = id'
    · subst hs
      simp only [if_pos rfl]
      refine SubFollows.set (hI.stamps id) he (fun _ => ⟨hid, ?_⟩) fun h => absurd hid h
      simp [StampFits, waitsForBehaviour]
      omega
    · simp only [RequestId.mk.injEq, hs, if_false, List.append_nil]
      exact SubFollows.set (hI.stamps id') he
        (fun h => absurd (by simpa [InboundSubstreamState.connecId?] using h) hs) fun _ => rfl
  · rcases SelectAll.mem_set_of_mem he' with he' | rfl
    · exact hI.bounded e' he' id' h
    · obtain rfl : id = id' := by simpa [InboundSubstreamState.connecId?] using h
      exact hlt
  · rcases SelectAll.mem_set_of_mem he' with he' | rfl
    · exact List.mem_append_left _ (hI.admitted e' he' id' sub' h₁ h₂)
    · obtain ⟨rfl, rfl⟩ : id = id' ∧ sub = sub' := by
        simp_all [InboundSubstreamState.connecId?, InboundSubstreamState.substream?]
      exact List.mem_append_left _ hadm
  · rcases List.mem_append.mp h with h | h
    · exact List.mem_append_left _ (hI.accepted id' sub' msg' h)
    · simp only [List.mem_singleton, Obs.accepted.injEq] at h
      obtain ⟨rfl, rfl, -⟩ := h
      exact List.mem_append_left _ hadm

theorem push_admitted (hI : StampsFollow n pool trace) {id : UniqueConnecId} (hid : id.toNat = n)
    (sub : Substream) :
    StampsFollow (n + 1) (SelectAll.push pool (.waitingMessage true id sub))
      (trace ++ [.admitted id sub]) := by
  have hlog : ∀ R, requestLog R (trace ++ [.admitted id sub]) = requestLog R trace := fun R => by
    simp [requestLog, logEntry]
  have hfree : ∀ e ∈ pool, e.stream.connecId? ≠ some id := fun e he h =>
    absurd (hI.bounded e he id h) (by omega)
  have hnew : ∀ id' sub', .admitted id' sub' ∈ trace ++ [.admitted id sub] →
      .admitted id' sub' ∈ trace ∨ (id' = id ∧ sub' = sub) := fun id' sub' h => by
    simpa using h
  refine ⟨fun id' => ?_, fun e' he' id' h => ?_, fun id' hn' => ?_, fun R => ?_,
    fun e' he' id' sub' h₁ h₂ => ?_, fun id' sub' msg h => List.mem_append_left _
      (hI.accepted id' sub' msg (mem_of_mem_snoc h Obs.noConfusion)),
    EventsExplained.append_of hI.requests fun e he => by simp at he,
    fun id' sub' h => ?_, fun id' sub₁ sub₂ h₁ h₂ => ?_⟩
  · rw [hlog]
    by_cases hs : id = id'
    · subst hs
      refine SubFollows.push (SubFollows.of_unheld hfree) fun _ =>
        ⟨List.countP_eq_zero.2 fun e he => by simpa using hfree e he, ?_⟩
      simp [StampFits, hI.fresh id hid.ge, waitsForBehaviour]
    · exact SubFollows.push (hI.stamps id')
        fun h => absurd (by simpa [InboundSubstreamState.connecId?] using h) hs
  · rcases List.mem_cons.mp he' with rfl | he'
    · obtain rfl : id = id' := by simpa [InboundSubstreamState.connecId?] using h
      omega
    · exact Nat.lt_succ_of_lt (hI.bounded e' he' id' h)
  · rw [hlog]
    exact hI.fresh id' (Nat.le_of_succ_le hn')
  · rw [hlog]
    exact hI.alternates R
  · rcases List.mem_cons.mp he' with rfl | he'
    · obtain ⟨rfl, rfl⟩ : id = id' ∧ sub = sub' := by
        simp_all [InboundSubstreamState.connecId?, InboundSubstreamState.substream?]
      simp
    · exact List.mem_append_left _ (hI.admitted e' he' id' sub' h₁ h₂)
  · rcases hnew id' sub' h with h | ⟨rfl, -⟩
    · exact Nat.lt_succ_of_lt (hI.admittedBelow id' sub' h)
    · omega
  · rcases hnew id' sub₁ h₁ with h₁' | ⟨rfl, rfl⟩ <;>
      rcases hnew id' sub₂ h₂ with h₂' | ⟨h, rfl⟩
    · exact hI.admittedOnce id' sub₁ sub₂ h₁' h₂'
    · have := hI.admittedBelow id sub₁ (h ▸ h₁')
      omega
    · have := hI.admittedBelow _ _ h₂'
      omega
    · rfl

theorem of_streams (hI : StampsFollow n pool trace) {pool' : SelectAll InboundSubstreamState}
    (h : pool'.map Entry.stream = pool.map Entry.stream) : StampsFollow n pool' trace := by
  have hmem : ∀ e ∈ pool', ∃ e₀ ∈ pool, e₀.stream = e.stream := fun e he =>
    List.mem_map.mp (h ▸ List.mem_map_of_mem Entry.stream he)
  refine ⟨fun id => SubFollows.of_streams (hI.stamps id) h, fun e he id hid => ?_, hI.fresh,
    hI.alternates, fun e he id sub h₁ h₂ => ?_, hI.accepted, hI.requests, hI.admittedBelow,
    hI.admittedOnce⟩
  · obtain ⟨e₀, he₀, heq⟩ := hmem e he
    exact hI.bounded e₀ he₀ id (heq ▸ hid)
  · obtain ⟨e₀, he₀, heq⟩ := hmem e he
    exact hI.admitted e₀ he₀ id sub (heq ▸ h₁) (heq ▸ h₂)

theorem pollInbound_follows (hI : StampsFollow n pool trace)
    {sched : List (Nat × SinkIo KadRequestMsg)} {r : PoolPolled InboundSubstreamState}
    (hr : pollInbound pool sched = some r) :
    StampsFollow n r.pool (trace ++ r.ops ++ r.item.toList.map .event) := by
  refine SelectAll.pollNext_inv (StampsFollow n) (fun pool tr i e io p hI he _ hp hres => ?_)
    (fun pool tr i e io p item hI he _ hp hres => ?_)
    (fun pool tr i e io p hI he _ hp _ => (hI.silent (silent_ops hp)).erase he) trace hr hI
  · have hI' := hI.silent (silent_ops hp)
    refine hI'.replace he fun id h => ⟨pollNext_connecId_keeps hp h, ?_,
      fun sub hs => inbound_pollNext_keeps hp hs⟩
    have hfit := (hI'.stamps id).2 e (List.getElem?_mem he) (pollNext_connecId_keeps hp h)
    simp only [StampFits] at hfit ⊢
    rwa [pollNext_pending_waits hp hres (by simp [h])]
  · have hI' := hI.silent (silent_ops hp)
    obtain ⟨hwait, ops', sub', r, hops, hsub'⟩ := pollNext_item_read hp hres
    obtain ⟨id, sub, event, hid, hsub, rfl, ⟨hreq, hst⟩ | ⟨hadd, hst⟩⟩ :=
      InboundSubstreamState.pollNext_requests hp item hres
    · obtain rfl : sub' = sub := Option.some.inj (hsub'.symm.trans hsub)
      rw [hst]
      exact hI'.request he hid hsub hwait hreq ⟨r, tr ++ ops', by rw [hops, List.append_assoc]⟩
    · obtain ⟨key, provider, rfl⟩ := hadd
      rw [hst]
      refine (hI'.repush he (.waitingMessage false id sub) hid.symm hsub.symm
        fun id' h => ?_).silent (silent_event rfl)
      obtain rfl : id = id' := by simpa [InboundSubstreamState.connecId?] using h
      have := (hI'.stamps id).2 e (List.getElem?_mem he) hid
      rw [StampFits, hwait] at this
      simpa [StampFits, waitsForBehaviour] using this

end StampsFollow

section Run

theorem admissions_silent {more : List Obs} (hs : Silent more) : admissions more = 0 :=
  List.countP_eq_zero.2 fun o ho => by simp [(hs o ho).2]

theorem silent_command (message : HandlerIn) : Silent [.command message] := by
  simp [Silent, logEntry, isAdmission]

theorem silent_opened (h : Handler) (s : Substream) : Silent (World.opened h s) :=
  fun o ho => by
    obtain ⟨_, _, rfl⟩ := World.mem_opened ho
    simp [logEntry, isAdmission]

theorem requestId?_of_queryId? {e : HandlerEvent} {q : QueryId} (h : e.queryId? = some q) :
    e.requestId? = none := by
  cases e <;> simp_all [HandlerEvent.queryId?, HandlerEvent.requestId?]

theorem pollOutbound_silent {pool : SelectAll OutboundSubstreamState}
    {sched : List (Nat × SinkIo KadResponseMsg)} {out : PoolPolled OutboundSubstreamState}
    (hout : pollOutbound pool sched = some out) :
    Silent (out.ops ++ out.item.toList.map .event) := by
  refine SelectAll.pollNext_obs (fun _ _ _ hp o ho => ?_) (fun _ _ _ _ hp hr => ?_) hout
  · obtain ⟨_, _, -, rfl⟩ := OutboundSubstreamState.pollNext_ops hp o ho
    exact ⟨fun _ => rfl, rfl⟩
  · obtain ⟨event, _, rfl, hq⟩ := OutboundSubstreamState.pollNext_event hp hr
    exact silent_event (requestId?_of_queryId? hq) _ (List.mem_singleton_self _)

theorem pollInbound_admissions {pool : SelectAll InboundSubstreamState}
    {sched : List (Nat × SinkIo KadRequestMsg)} {inb : PoolPolled InboundSubstreamState}
    (hinb : pollInbound pool sched = some inb) :
    admissions (inb.ops ++ inb.item.toList.map .event) = 0 := by
  refine List.countP_eq_zero.2 fun o ho => ?_
  have : ∀ o ∈ inb.ops ++ inb.item.toList.map .event, isAdmission o = false :=
    SelectAll.pollNext_obs (fun _ _ _ hp o ho => ?_) (fun _ _ _ _ _ _ => ?_) hinb
  · simp [this o ho]
  · obtain ⟨_, _, -, rfl⟩ := InboundSubstreamState.pollNext_ops hp o ho
    rfl
  · rfl

variable {h h' : Handler} {obs : List Obs}

theorem onBehaviourEvent_stamps {message : HandlerIn}
    (he : h.onBehaviourEvent message = some (h', obs)) :
    h'.nextConnecUniqueId = h.nextConnecUniqueId ∧ admissions (.command message :: obs) = 0 ∧
      ∀ {n trace}, StampsFollow n h.inboundSubstreams trace →
        StampsFollow n h'.inboundSubstreams (trace ++ .command message :: obs) := by
  have hnext : h'.nextConnecUniqueId = h.nextConnecUniqueId := by
    rcases onBehaviourEvent_cases he with ⟨_, _, rfl, -⟩ | ⟨_, rfl, -⟩ | ⟨_, rfl, -⟩ <;> rfl
  obtain ⟨-, hpool⟩ := onBehaviourEvent_pools he
  rcases hpool with ⟨hin, rfl⟩ | ⟨i, e, id, sub, waker, hi, hw, ⟨hin, rfl⟩ | ⟨msg, hin, rfl⟩⟩
  · exact ⟨hnext, rfl, fun hI => hin ▸ hI.silent (silent_command message)⟩
  · refine ⟨hnext, rfl, fun hI => hin ▸ ?_⟩
    exact (hI.replace hi fun _ h => by simp [InboundSubstreamState.connecId?] at h).silent
      (silent_command message)
  · refine ⟨hnext, rfl, fun hI => hin ▸ ?_⟩
    simpa using (hI.silent (silent_command message)).accept hi hw msg _ _

theorem poll_stamps {now : Instant} {outSched : List (Nat × SinkIo KadResponseMsg)}
    {inSched : List (Nat × SinkIo KadRequestMsg)} {r : Poll ConnectionHandlerEvent}
    (hp : h.poll now outSched inSched = some (h', r, obs)) :
    h'.nextConnecUniqueId = h.nextConnecUniqueId ∧ admissions (obs ++ pollObs r) = 0 ∧
      ∀ {n trace}, StampsFollow n h.inboundSubstreams trace →
        StampsFollow n h'.inboundSubstreams (trace ++ obs ++ pollObs r) := by
  rcases poll_cases hp with ⟨status, -, -, rfl, rfl, rfl⟩ | ⟨-, hp⟩
  · have hs : Silent [.event (.notifyBehaviour (statusEvent status.supported h.endpoint))] :=
      silent_event (by unfold statusEvent; split <;> rfl)
    exact ⟨rfl, admissions_silent hs, fun hI => by simpa [pollObs] using hI.silent hs⟩
  obtain ⟨out, hpo, hrest⟩ := pollSubstreams_cases hp
  have hso := pollOutbound_silent hpo
  rcases hrest with ⟨event, hitem, rfl, rfl, rfl⟩ | ⟨inb, hitem, hpi, hrest⟩
  · simp only [hitem, Option.toList_some, List.map_cons, List.map_nil] at hso
    exact ⟨rfl, by simpa [pollObs] using admissions_silent hso,
      fun hI => by simpa [pollObs] using hI.silent hso⟩
  rw [hitem, Option.toList_none, List.map_nil, List.append_nil] at hso
  have hadm := pollInbound_admissions hpi
  have hin : ∀ {n trace}, StampsFollow n h.inboundSubstreams trace →
      StampsFollow n inb.pool (trace ++ out.ops ++ inb.ops ++ inb.item.toList.map .event) :=
    fun hI => (hI.silent hso).pollInbound_follows hpi
  rcases hrest with ⟨event, hitem', rfl, rfl, rfl⟩ | ⟨hitem', rfl, hr⟩
  · simp only [hitem', Option.toList_some, List.map_cons, List.map_nil] at hadm hin
    exact ⟨rfl, by simpa [pollObs, admissions_silent hso] using hadm,
      fun hI => by simpa [pollObs] using hin hI⟩
  simp only [hitem', Option.toList_none, List.map_nil, List.append_nil] at hadm hin
  obtain ⟨hnext, hin', hr'⟩ : h'.nextConnecUniqueId = h.nextConnecUniqueId ∧
      h'.inboundSubstreams = inb.pool ∧ Silent (pollObs r) := by
    rcases requestOrIdle_cases hr with ⟨-, -, rfl, rfl⟩ | ⟨rfl, rfl⟩ <;>
      simp [Silent, pollObs, logEntry, isAdmission]
  refine ⟨hnext, by simp [admissions_silent hso, hadm, admissions_silent hr'], fun hI => ?_⟩
  rw [hin', ← List.append_assoc]
  exact (hin hI).silent hr'

theorem onFullyNegotiatedOutbound_next (h : Handler) (protocol : Substream) :
    (h.onFullyNegotiatedOutbound protocol).nextConnecUniqueId = h.nextConnecUniqueId := by
  rcases hp : h.pendingMessages with _ | ⟨⟨msg, queryId⟩, pending⟩
  · rw [onFullyNegotiatedOutbound_of_nil hp, confirmOnFirstSubstream_eq]
  · rw [onFullyNegotiatedOutbound_of_cons hp, confirmOnFirstSubstream_eq]

theorem onDialUpgradeError_next (h : Handler) (error : StreamUpgradeError) :
    (h.onDialUpgradeError error).nextConnecUniqueId = h.nextConnecUniqueId := by
  rcases hp : h.pendingMessages with _ | ⟨⟨msg, queryId⟩, pending⟩
  · rw [onDialUpgradeError_of_nil hp]
  · rw [onDialUpgradeError_of_cons hp]

structure Stamped (w : World) : Prop where
  next : w.handler.nextConnecUniqueId.toNat = admissions w.trace % 2 ^ 64
  follows : admissions w.trace < 2 ^ 64 →
    StampsFollow (admissions w.trace) w.handler.inboundSubstreams w.trace

namespace Stamped

theorem quiet {w w' : World} (hI : Stamped w) {more : List Obs}
    (htrace : w'.trace = w.trace ++ more)
    (hnext : w'.handler.nextConnecUniqueId = w.handler.nextConnecUniqueId)
    (hadm : admissions more = 0)
    (hpool : ∀ {n}, StampsFollow n w.handler.inboundSubstreams w.trace →
      StampsFollow n w'.handler.inboundSubstreams w'.trace) : Stamped w' := by
  have hcount : admissions w'.trace = admissions w.trace := by simp [htrace, hadm]
  refine ⟨by rw [hnext, hcount, hI.next], fun hn => ?_⟩
  rw [hcount] at hn ⊢
  exact hpool (hI.follows hn)

theorem step {w w' : World} (hI : Stamped w) (hs : Step w w') : Stamped w' := by
  cases hs with
  | behaviour message h obs he =>
    obtain ⟨hnext, hadm, hpool⟩ := onBehaviourEvent_stamps he
    exact hI.quiet rfl hnext hadm hpool
  | fullyNegotiatedOutbound hout =>
    refine hI.quiet rfl (onFullyNegotiatedOutbound_next _ _)
      (admissions_silent (silent_opened _ _)) fun hf => ?_
    simpa [onConnectionEvent] using hf.silent (silent_opened _ _)
  | dialUpgradeError error hout =>
    exact hI.quiet (List.append_nil _).symm (onDialUpgradeError_next _ _) rfl
      fun hf => by simpa [onConnectionEvent] using hf
  | fullyNegotiatedInbound =>
    simp only [onConnectionEvent, World.admitted]
    obtain ⟨-, ⟨hin, hid⟩ | ⟨pool, hpool, hin, hid⟩⟩ :=
      onFullyNegotiatedInbound_cases w.handler w.substreams
    · refine hI.quiet rfl hid (by rw [if_pos hid]; rfl) fun hf => ?_
      simpa only [hin, if_pos hid, List.append_nil] using hf
    simp only [hid, if_neg (HandlerFollows.uint64_succ_ne _)]
    have hcount : admissions (w.trace ++ [.admitted w.handler.nextConnecUniqueId w.substreams]) =
        admissions w.trace + 1 := by simp [isAdmission, admissions]
    have hnext := hI.next
    refine ⟨?_, fun hn => ?_⟩
    · simp [hcount, hid, UInt64.toNat, UInt64.add_def] at hnext ⊢
      omega
    rw [hcount] at hn ⊢
    have hf := hI.follows (by omega)
    have hf' : StampsFollow (admissions w.trace) pool w.trace := by
      rcases hpool with rfl | ⟨i, e, hi, rfl⟩
      · exact hf
      · exact hf.replace hi fun _ h => by simp [InboundSubstreamState.connecId?] at h
    simpa only [hin] using hf'.push_admitted (by rw [hnext]; exact Nat.mod_eq_of_lt (by omega)) _
  | remoteProtocolsChange change =>
    obtain ⟨_, _, he⟩ := onRemoteProtocolsChange_eq w.handler change
    have hs : Silent [.protocolsChanged w.handler.protocolStatus
        (w.handler.onConnectionEvent (.remoteProtocolsChange change)).protocolStatus] := by
      simp [Silent, logEntry, isAdmission]
    exact hI.quiet rfl (by rw [he]) (admissions_silent hs) fun hf => by
      simpa [he] using hf.silent hs
  | poll outSched inSched h r obs hp =>
    obtain ⟨hnext, hadm, hpool⟩ := poll_stamps hp
    exact hI.quiet (List.append_assoc _ _ _) hnext hadm hpool
  | wake s =>
    exact hI.quiet (List.append_nil _).symm rfl rfl
      fun hf => hf.of_streams (SelectAll.wake_streams _ s _)
  | tick => exact hI.quiet (List.append_nil _).symm rfl rfl id

end Stamped

end Run

end Libp2p.Kad.Stamps
