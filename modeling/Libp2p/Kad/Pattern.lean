import Libp2p.Kad.Run

namespace Libp2p.Kad.Pattern

open Handler

/-- Where the request/response pattern of one substream stands. An outbound substream submits
the request it was opened for, flushes it, reads one answer if a query waits for it, and closes;
an inbound substream reads requests, and submits and flushes an answer only for a request the
behaviour answered. -/
inductive Phase where
  | fresh
  /-- Outbound, opened for `msg`: the request is not submitted yet. -/
  | outSend (msg : KadRequestMsg) (queryId : Option QueryId)
  /-- Outbound: the sink is ready, `msg` is submitted next. -/
  | outReady (msg : KadRequestMsg) (queryId : Option QueryId)
  | outFlush (queryId : Option QueryId)
  /-- Outbound: the request for `queryId` is flushed, one answer may be read. -/
  | outRead (queryId : QueryId)
  | outClosing
  | inWait
  /-- Inbound: a request was read that only the behaviour can answer. -/
  | inAnswer
  /-- Inbound: the behaviour's answer `msg` is to be submitted. -/
  | inSend (msg : KadResponseMsg)
  | inReady (msg : KadResponseMsg)
  | inFlush
  | inClosing
  | finished
  deriving DecidableEq

def needsAnswer : KadRequestMsg → Bool
  | .ping | .addProvider .. => false
  | _ => true

/-- The phase after one observation about the substream; `none` breaks the pattern. -/
def Phase.next : Phase → Obs → Option Phase
  | .fresh, .opened _ msg queryId => some (.outSend msg queryId)
  | .fresh, .admitted .. => some .inWait
  | .outSend msg queryId, .outbound _ (.pollReady r) =>
    match r with
    | .pending => some (.outSend msg queryId)
    | .ready (.ok ()) => some (.outReady msg queryId)
    | .ready (.error _) => some .finished
  | .outReady msg queryId, .outbound _ (.startSend item r) =>
    if item = msg then
      match r with
      | .ok () => some (.outFlush queryId)
      | .error _ => some .finished
    else none
  | .outFlush queryId, .outbound _ (.pollFlush r) =>
    match r, queryId with
    | .pending, _ => some (.outFlush queryId)
    | .ready (.ok ()), some queryId => some (.outRead queryId)
    | .ready (.ok ()), none => some .outClosing
    | .ready (.error _), _ => some .finished
  | .outRead queryId, .outbound _ (.pollNext r) =>
    match r with
    | .pending => some (.outRead queryId)
    | .ready (some (.ok _)) => some .outClosing
    | .ready _ => some .finished
  | .outClosing, .outbound _ (.pollClose r) =>
    match r with
    | .pending => some .outClosing
    | .ready _ => some .finished
  | .inWait, .inbound _ (.pollNext r) =>
    match r with
    | .pending => some .inWait
    | .ready (some (.ok .ping)) => some .inClosing
    | .ready (some (.ok request)) => some (if needsAnswer request then .inAnswer else .inWait)
    | .ready _ => some .finished
  | .inAnswer, .accepted _ _ msg => some (.inSend msg)
  | .inSend msg, .inbound _ (.pollReady r) =>
    match r with
    | .pending => some (.inSend msg)
    | .ready (.ok ()) => some (.inReady msg)
    | .ready (.error _) => some .finished
  | .inReady msg, .inbound _ (.startSend item r) =>
    if item = msg then
      match r with
      | .ok () => some .inFlush
      | .error _ => some .finished
    else none
  | .inFlush, .inbound _ (.pollFlush r) =>
    match r with
    | .pending => some .inFlush
    | .ready (.ok ()) => some .inWait
    | .ready (.error _) => some .finished
  -- A reset closes a substream whose request waits for the behaviour, without a frame.
  | .inAnswer, .inbound _ (.pollClose r) | .inClosing, .inbound _ (.pollClose r) =>
    match r with
    | .pending => some .inClosing
    | .ready _ => some .finished
  | _, _ => none

def Phase.run : Phase → List Obs → Option Phase
  | φ, [] => some φ
  | φ, o :: obs => (φ.next o).bind (·.run obs)

theorem Phase.run_append (φ : Phase) (a b : List Obs) :
    φ.run (a ++ b) = (φ.run a).bind (·.run b) := by
  induction a generalizing φ with
  | nil => rfl
  | cons o a ih =>
    simp only [List.cons_append, run]
    cases φ.next o <;> simp [ih]

def about (sub : Substream) : Obs → Bool
  | .opened s .. | .admitted _ s | .outbound s _ | .inbound s _ | .accepted _ s _ => s == sub
  | _ => false

/-- What a run shows about substream `sub`. -/
def project (sub : Substream) (trace : List Obs) : List Obs := trace.filter (about sub)

def Awaits (sub : Substream) (q : QueryId) (l : List Obs) : Prop :=
  ∃ msg, .opened sub msg (some q) ∈ l ∧ .outbound sub (.startSend msg (.ok ())) ∈ l ∧
    .outbound sub (.pollFlush (.ready (.ok ()))) ∈ l ∧ ∀ r, .outbound sub (.pollNext (.ready r)) ∉ l

def History (sub : Substream) : Phase → List Obs → Prop
  | .fresh, l => l = []
  | .outSend msg q, l | .outReady msg q, l =>
    .opened sub msg q ∈ l ∧ (∀ m r, .outbound sub (.startSend m r) ∉ l) ∧
      ∀ r, .outbound sub (.pollNext (.ready r)) ∉ l
  | .outFlush q, l => ∃ msg, .opened sub msg q ∈ l ∧
      .outbound sub (.startSend msg (.ok ())) ∈ l ∧ ∀ r, .outbound sub (.pollNext (.ready r)) ∉ l
  | .outRead q, l => Awaits sub q l
  | _, _ => True

theorem History.next {sub : Substream} {φ φ' : Phase} {l : List Obs} {o : Obs}
    (hh : History sub φ l) (ho : about sub o) (hn : φ.next o = some φ') :
    History sub φ' (l ++ [o]) := by
  unfold Phase.next at hn
  split at hn <;> (try split at hn) <;> (try split at hn) <;>
    simp only [Option.some.injEq, reduceCtorEq] at hn <;> subst hn <;>
    simp_all [History, Awaits, about]

theorem History.run {sub : Substream} :
    ∀ {l : List Obs} {φ φ' : Phase} {pre : List Obs}, History sub φ pre →
      (∀ o ∈ l, about sub o) → φ.run l = some φ' → History sub φ' (pre ++ l)
  | [], φ, φ', pre, hh, _, h => by
    cases h
    simpa using hh
  | o :: l, φ, φ', pre, hh, ho, h => by
    simp only [Phase.run, Option.bind_eq_some] at h
    obtain ⟨φ₁, h₁, h₂⟩ := h
    simpa using History.run (hh.next (ho o (List.mem_cons_self _ _)) h₁)
      (fun o' h => ho o' (List.mem_cons_of_mem _ h)) h₂

def outPhase : OutboundSubstreamState → Phase
  | .pendingSend _ msg queryId => .outSend msg queryId
  | .pendingFlush _ queryId => .outFlush queryId
  | .waitingAnswer _ queryId => .outRead queryId
  | .closing _ => .outClosing
  | _ => .finished

def InFits : Phase → InboundSubstreamState → Prop
  | .inWait, .waitingMessage .. | .inAnswer, .waitingBehaviour .. | .inFlush, .pendingFlush ..
  | .inAnswer, .closing _ | .inClosing, .closing _ => True
  | .inSend msg, .pendingSend _ _ msg' => msg = msg'
  | _, _ => False

section InFits

variable {φ : Phase} {id : UniqueConnecId} {sub : Substream}

@[simp] theorem inFits_waitingMessage {first : Bool} :
    InFits φ (.waitingMessage first id sub) ↔ φ = .inWait := by
  cases φ <;> simp [InFits]

@[simp] theorem inFits_waitingBehaviour {waker : Option Waker} :
    InFits φ (.waitingBehaviour id sub waker) ↔ φ = .inAnswer := by
  cases φ <;> simp [InFits]

@[simp] theorem inFits_pendingSend {msg : KadResponseMsg} :
    InFits φ (.pendingSend id sub msg) ↔ φ = .inSend msg := by
  cases φ <;> simp [InFits, eq_comm]

@[simp] theorem inFits_pendingFlush : InFits φ (.pendingFlush id sub) ↔ φ = .inFlush := by
  cases φ <;> simp [InFits]

@[simp] theorem inFits_closing : InFits φ (.closing sub) ↔ φ = .inAnswer ∨ φ = .inClosing := by
  cases φ <;> simp [InFits]

end InFits

section Outbound

variable {io : SinkIo KadResponseMsg} {s n st : OutboundSubstreamState} {ops : List Obs}
  {r : Poll (Option ConnectionHandlerEvent)}

theorem outbound_again_run (h : OutboundSubstreamState.body io s = .again n ops) :
    (outPhase s).run ops = some (outPhase n) := by
  unfold OutboundSubstreamState.body at h
  split at h <;> (try split at h) <;> (try split at h) <;>
    simp only [Iteration.again.injEq, reduceCtorEq] at h <;> obtain ⟨rfl, rfl⟩ := h <;>
    simp_all [Phase.run, Phase.next, outPhase]

theorem outbound_ret_run (h : OutboundSubstreamState.body io s = .ret st r ops) :
    ∃ φ, (outPhase s).run ops = some φ ∧ (st.parkedOn.isSome → φ = outPhase st) := by
  unfold OutboundSubstreamState.body at h
  split at h <;> (try split at h) <;> (try split at h) <;>
    simp only [Iteration.ret.injEq, reduceCtorEq] at h <;> obtain ⟨rfl, -, rfl⟩ := h <;>
    simp_all [Phase.run, Phase.next, outPhase, OutboundSubstreamState.parkedOn]

theorem outbound_pollNext_run {p} (h : s.pollNext io = some p) :
    ∃ φ, (outPhase s).run p.ops = some φ ∧ (p.state.parkedOn.isSome → φ = outPhase p.state) := by
  refine Iteration.loop_induction (OutboundSubstreamState.rank_lt_of_body io)
    (fun s p => ∃ φ, (outPhase s).run p.ops = some φ ∧
      (p.state.parkedOn.isSome → φ = outPhase p.state))
    (fun s n ops p hb hq => ?_) (fun s st r ops hb => outbound_ret_run hb) s p h
  simpa only [Phase.run_append, outbound_again_run hb, Option.some_bind] using hq

theorem outbound_again_parkedOn (h : OutboundSubstreamState.body io s = .again n ops) :
    n.parkedOn = s.parkedOn := by
  unfold OutboundSubstreamState.body at h
  split at h <;> (try split at h) <;> (try split at h) <;>
    simp only [Iteration.again.injEq, reduceCtorEq] at h <;> obtain ⟨rfl, -⟩ := h <;> rfl

theorem outbound_pollNext_keeps {p} {sub : Substream} (h : s.pollNext io = some p)
    (hs : p.state.parkedOn = some sub) : s.parkedOn = some sub := by
  refine Iteration.loop_induction (OutboundSubstreamState.rank_lt_of_body io)
    (fun s p => p.state.parkedOn = some sub → s.parkedOn = some sub)
    (fun s n ops p hb hq hs => outbound_again_parkedOn hb ▸ hq hs) (fun s st r ops hb hs => ?_)
    s p h hs
  unfold OutboundSubstreamState.body at hb
  split at hb <;> (try split at hb) <;> (try split at hb) <;>
    simp only [Iteration.ret.injEq, reduceCtorEq] at hb <;> obtain ⟨rfl, -, -⟩ := hb <;>
    simp_all [OutboundSubstreamState.parkedOn]

theorem outbound_project_self {p} {sub : Substream} (h : s.pollNext io = some p)
    (hs : s.parkedOn = some sub) : project sub p.ops = p.ops := List.filter_eq_self.2 fun o ho => by
  obtain ⟨sub', op, hs', rfl⟩ := OutboundSubstreamState.pollNext_ops h o ho
  simp_all [about]

theorem outbound_project_other {p} {sub : Substream} (h : s.pollNext io = some p)
    (hs : s.parkedOn ≠ some sub) : project sub p.ops = [] := List.filter_eq_nil_iff.2 fun o ho => by
  obtain ⟨sub', op, hs', rfl⟩ := OutboundSubstreamState.pollNext_ops h o ho
  simp only [about, beq_iff_eq]
  rintro rfl
  exact hs hs'

end Outbound

section Inbound

variable {io : SinkIo KadRequestMsg} {s n st : InboundSubstreamState} {ops : List Obs}
  {r : Poll (Option ConnectionHandlerEvent)} {φ : Phase}

theorem inbound_again_run (h : InboundSubstreamState.body io s = .again n ops)
    (hf : s.substream?.isSome → InFits φ s) : ∃ φ', φ.run ops = some φ' ∧ InFits φ' n := by
  unfold InboundSubstreamState.body at h
  split at h <;> (try split at h) <;> (try split at h) <;>
    simp only [Iteration.again.injEq, reduceCtorEq] at h <;> obtain ⟨rfl, rfl⟩ := h <;>
    simp only [InboundSubstreamState.substream?, Option.isSome_some, forall_const,
      inFits_waitingMessage, inFits_pendingSend, inFits_pendingFlush] at hf <;> subst hf <;>
    simp_all [Phase.run, Phase.next, needsAnswer]

theorem inbound_ret_run (h : InboundSubstreamState.body io s = .ret st r ops)
    (hf : s.substream?.isSome → InFits φ s) :
    ∃ φ', φ.run ops = some φ' ∧ (st.substream?.isSome → InFits φ' st) := by
  unfold InboundSubstreamState.body at h
  split at h <;> (try split at h) <;> (try split at h) <;>
    simp only [Iteration.ret.injEq, reduceCtorEq] at h <;> obtain ⟨rfl, -, rfl⟩ := h <;>
    simp only [InboundSubstreamState.substream?, Option.isSome_some, Option.isSome_none,
      forall_const, Bool.false_eq_true, false_implies, inFits_waitingMessage,
      inFits_waitingBehaviour, inFits_pendingSend, inFits_pendingFlush, inFits_closing] at hf <;>
    (try rcases hf with rfl | rfl) <;>
    simp_all [Phase.run, Phase.next, needsAnswer, InboundSubstreamState.substream?]

theorem inbound_pollNext_run {p} (h : s.pollNext io = some p)
    (hf : s.substream?.isSome → InFits φ s) :
    ∃ φ', φ.run p.ops = some φ' ∧ (p.state.substream?.isSome → InFits φ' p.state) := by
  refine Iteration.loop_induction (InboundSubstreamState.rank_lt_of_body io)
    (fun s p => ∀ φ, (s.substream?.isSome → InFits φ s) →
      ∃ φ', φ.run p.ops = some φ' ∧ (p.state.substream?.isSome → InFits φ' p.state))
    (fun s n ops p hb hq φ hf => ?_) (fun s st r ops hb φ hf => inbound_ret_run hb hf) s p h φ hf
  obtain ⟨φ₁, h₁, hf₁⟩ := inbound_again_run hb hf
  simpa only [Phase.run_append, h₁, Option.some_bind] using hq φ₁ fun _ => hf₁

theorem inbound_pollNext_keeps {p} {sub : Substream} (h : s.pollNext io = some p)
    (hs : p.state.substream? = some sub) : s.substream? = some sub := by
  refine Iteration.loop_induction (InboundSubstreamState.rank_lt_of_body io)
    (fun s p => p.state.substream? = some sub → s.substream? = some sub)
    (fun s n ops p hb hq hs => (InboundSubstreamState.ids_of_again hb).1 ▸ hq hs)
    (fun s st r ops hb hs => ?_) s p h hs
  unfold InboundSubstreamState.body at hb
  split at hb <;> (try split at hb) <;> (try split at hb) <;>
    simp only [Iteration.ret.injEq, reduceCtorEq] at hb <;> obtain ⟨rfl, -, -⟩ := hb <;>
    simp_all [InboundSubstreamState.substream?]

theorem inbound_project_self {p} {sub : Substream} (h : s.pollNext io = some p)
    (hs : s.substream? = some sub) : project sub p.ops = p.ops := List.filter_eq_self.2 fun o ho => by
  obtain ⟨sub', op, hs', rfl⟩ := InboundSubstreamState.pollNext_ops h o ho
  simp_all [about]

theorem inbound_project_other {p} {sub : Substream} (h : s.pollNext io = some p)
    (hs : s.substream? ≠ some sub) : project sub p.ops = [] := List.filter_eq_nil_iff.2 fun o ho => by
  obtain ⟨sub', op, hs', rfl⟩ := InboundSubstreamState.pollNext_ops h o ho
  simp only [about, beq_iff_eq]
  rintro rfl
  exact hs hs'

end Inbound
@[simp] theorem project_append (sub : Substream) (a b : List Obs) :
    project sub (a ++ b) = project sub a ++ project sub b := List.filter_append _ _

@[simp] theorem project_event (sub : Substream) (item : ConnectionHandlerEvent) :
    project sub [.event item] = [] := rfl

theorem project_singleton (sub : Substream) (o : Obs) :
    project sub [o] = if about sub o then [o] else [] := by
  simp only [project, List.filter]
  split <;> simp_all

section Pool

variable {σ κ α : Type} [DecidableEq κ] {holder : σ → Option κ} {Fits : α → σ → Prop}

theorem countP_le_one_eq {α : Type} {p : α → Bool} :
    ∀ {l : List α}, l.countP p ≤ 1 → ∀ a ∈ l, ∀ b ∈ l, p a → p b → a = b
  | x :: l, h, a, ha, b, hb, hpa, hpb => by
    rw [List.countP_cons] at h
    rcases List.mem_cons.mp ha with rfl | hal <;> rcases List.mem_cons.mp hb with rfl | hbl
    · rfl
    · have := List.countP_pos_iff.2 ⟨b, hbl, hpb⟩
      simp only [hpa, if_true] at h
      omega
    · have := List.countP_pos_iff.2 ⟨a, hal, hpa⟩
      simp only [hpb, if_true] at h
      omega
    · exact countP_le_one_eq ((Nat.le_add_right _ _).trans h) a hal b hbl hpa hpb

def SubFollows (holder : σ → Option κ) (Fits : α → σ → Prop) (pool : SelectAll σ)
    (φ : α) (sub : κ) : Prop :=
  pool.countP (holder ·.stream == some sub) ≤ 1 ∧
    ∀ e ∈ pool, holder e.stream = some sub → Fits φ e.stream

variable {pool : SelectAll σ} {i : Nat} {e x : Entry σ} {φ φ' : α} {sub : κ}

theorem SubFollows.set (hf : SubFollows holder Fits pool φ sub) (he : pool[i]? = some e)
    (hx : holder x.stream = some sub → holder e.stream = some sub ∧ Fits φ' x.stream)
    (hφ : holder e.stream ≠ some sub → φ' = φ) :
    SubFollows holder Fits (pool.set i x) φ' sub := by
  obtain ⟨hi, rfl⟩ := List.getElem?_eq_some_iff.mp he
  have hc := List.countP_set (holder ·.stream == some sub) pool i x hi
  have hf1 := hf.1
  refine ⟨?_, fun e' he' hs' => ?_⟩
  · by_cases hxs : holder x.stream = some sub
    · simp only [(hx hxs).1, hxs, beq_self_eq_true, if_true] at hc
      omega
    · simp only [hxs, beq_iff_eq, if_false] at hc
      omega
  have hpos : 0 < (pool.set i x).countP (holder ·.stream == some sub) :=
    List.countP_pos_iff.2 ⟨e', he', by simpa using hs'⟩
  by_cases hs : holder pool[i].stream = some sub
  · by_cases hxs : holder x.stream = some sub
    · have hxm : x ∈ pool.set i x := List.mem_iff_getElem?.mpr ⟨i, by simp [hi]⟩
      simp only [hs, hxs, beq_self_eq_true, if_true] at hc
      have h1 : (pool.set i x).countP (holder ·.stream == some sub) ≤ 1 := by omega
      rw [countP_le_one_eq h1 e' he' x hxm (by simpa using hs') (by simpa using hxs)]
      exact (hx hxs).2
    · simp only [hs, hxs, beq_self_eq_true, if_true, beq_iff_eq, if_false] at hc
      omega
  · rcases SelectAll.mem_set_of_mem he' with he' | rfl
    · exact hφ hs ▸ hf.2 e' he' hs'
    · exact absurd (hx hs').1 hs

theorem SubFollows.eraseIdx (hf : SubFollows holder Fits pool φ sub) (he : pool[i]? = some e)
    (hφ : holder e.stream ≠ some sub → φ' = φ) :
    SubFollows holder Fits (pool.eraseIdx i) φ' sub ∧
      (holder e.stream = some sub → (pool.eraseIdx i).countP (holder ·.stream == some sub) = 0) := by
  obtain ⟨hi, rfl⟩ := List.getElem?_eq_some_iff.mp he
  have hc := SelectAll.countP_eraseIdx (holder ·.stream == some sub) pool i hi
  have hzero : holder pool[i].stream = some sub →
      (pool.eraseIdx i).countP (holder ·.stream == some sub) = 0 := fun hs => by
    simp only [hs, beq_self_eq_true, if_true] at hc
    have := hf.1
    omega
  refine ⟨⟨((List.eraseIdx_sublist _ _).countP_le _).trans hf.1, fun e' he' hs' => ?_⟩, hzero⟩
  by_cases hs : holder pool[i].stream = some sub
  · have hpos : 0 < (pool.eraseIdx i).countP (holder ·.stream == some sub) :=
      List.countP_pos_iff.2 ⟨e', he', by simpa using hs'⟩
    exact absurd (hzero hs) hpos.ne'
  · exact hφ hs ▸ hf.2 e' (List.mem_of_mem_eraseIdx he') hs'

theorem SubFollows.push {s : σ} (hf : SubFollows holder Fits pool φ sub)
    (hs : holder s = some sub → pool.countP (holder ·.stream == some sub) = 0 ∧ Fits φ s) :
    SubFollows holder Fits (SelectAll.push pool s) φ sub := by
  constructor
  · by_cases hss : holder s = some sub
    · simp [SelectAll.push, List.countP_cons, hss, (hs hss).1]
    · simpa [SelectAll.push, List.countP_cons, hss] using hf.1
  intro e' he' hs'
  rcases List.mem_cons.mp he' with rfl | he'
  · exact (hs hs').2
  by_cases hss : holder s = some sub
  · have hpos : 0 < pool.countP (holder ·.stream == some sub) :=
      List.countP_pos_iff.2 ⟨e', he', by simpa using hs'⟩
    exact absurd (hs hss).1 hpos.ne'
  · exact hf.2 e' he' hs'

theorem SubFollows.of_unheld (h : ∀ e ∈ pool, holder e.stream ≠ some sub) :
    SubFollows holder Fits pool φ sub :=
  ⟨by
    have : pool.countP (holder ·.stream == some sub) = 0 :=
      List.countP_eq_zero.2 fun e he => by simpa using h e he
    omega, fun e he hs => absurd hs (h e he)⟩

theorem SubFollows.of_streams {pool₀ : SelectAll σ} (hf : SubFollows holder Fits pool₀ φ sub)
    (h : pool.map Entry.stream = pool₀.map Entry.stream) : SubFollows holder Fits pool φ sub := by
  have hc : ∀ l : SelectAll σ, l.countP (holder ·.stream == some sub) =
      (l.map Entry.stream).countP (holder · == some sub) := fun l => by
    rw [List.countP_map]
    rfl
  refine ⟨by rw [hc, h, ← hc]; exact hf.1, fun e he hs => ?_⟩
  obtain ⟨e₀, he₀, heq⟩ := List.mem_map.mp (h ▸ List.mem_map_of_mem Entry.stream he)
  exact heq ▸ hf.2 e₀ he₀ (heq ▸ hs)

end Pool

section Pass

variable {σ ι : Type} {poll : ι → σ → Option (Polled σ)} {parkedOn : σ → Option Substream}
  {holder : σ → Option Substream} {Fits : Phase → σ → Prop} {Other : Substream → Phase → Prop}
  {n : Nat}

structure Respects (poll : ι → σ → Option (Polled σ)) (holder : σ → Option Substream)
    (Fits : Phase → σ → Prop) (Other : Substream → Phase → Prop) : Prop where
  ops_other : ∀ s io p sub, poll io s = some p → holder s ≠ some sub → project sub p.ops = []
  keeps : ∀ s io p sub, poll io s = some p → holder p.state = some sub → holder s = some sub
  run : ∀ s io p sub φ, poll io s = some p → holder s = some sub → Fits φ s →
    ∃ φ', φ.run (project sub p.ops) = some φ' ∧ (holder p.state = some sub → Fits φ' p.state)
  other : ∀ s sub φ φ', holder s = some sub → Fits φ s → Other sub φ → Other sub φ'

structure PoolFollows (holder : σ → Option Substream) (Fits : Phase → σ → Prop)
    (Other : Substream → Phase → Prop) (n : Nat) (pool : SelectAll σ) (trace : List Obs) :
    Prop where
  bounded : ∀ e ∈ pool, ∀ sub, holder e.stream = some sub → sub < n
  unused : ∀ sub, n ≤ sub → project sub trace = []
  phase : ∀ sub, ∃ φ, Phase.fresh.run (project sub trace) = some φ ∧
    SubFollows holder Fits pool φ sub ∧ Other sub φ

namespace Respects

variable (hR : Respects poll holder Fits Other) {pool : SelectAll σ} {trace : List Obs} {i : Nat}
  {e : Entry σ} {io : ι} {p : Polled σ}
include hR

theorem polled_bounded (hI : PoolFollows holder Fits Other n pool trace) (he : pool[i]? = some e)
    (hp : poll io e.stream = some p) (sub : Substream) (hs : holder p.state = some sub) : sub < n :=
  hI.bounded e (List.getElem?_mem he) sub (hR.keeps _ _ _ _ hp hs)

theorem polled_unused (hI : PoolFollows holder Fits Other n pool trace) (he : pool[i]? = some e)
    (hp : poll io e.stream = some p) (sub : Substream) (hn : n ≤ sub) :
    project sub (trace ++ p.ops) = [] := by
  have hs : holder e.stream ≠ some sub := fun hs =>
    absurd (hI.bounded e (List.getElem?_mem he) sub hs) (Nat.not_lt.mpr hn)
  rw [project_append, hI.unused sub hn, hR.ops_other _ _ _ _ hp hs, List.append_nil]

theorem polled_phase (hI : PoolFollows holder Fits Other n pool trace) (he : pool[i]? = some e)
    (hp : poll io e.stream = some p) (sub : Substream) :
    ∃ φ φ', Phase.fresh.run (project sub (trace ++ p.ops)) = some φ' ∧ Other sub φ' ∧
      SubFollows holder Fits pool φ sub ∧ (holder e.stream ≠ some sub → φ' = φ) ∧
      (holder p.state = some sub → holder e.stream = some sub ∧ Fits φ' p.state) := by
  obtain ⟨φ, hφ, hf, ho⟩ := hI.phase sub
  rw [project_append, Phase.run_append, hφ, Option.some_bind]
  by_cases hs : holder e.stream = some sub
  · have hfit := hf.2 e (List.getElem?_mem he) hs
    obtain ⟨φ', h', hfit'⟩ := hR.run _ _ _ _ _ hp hs hfit
    exact ⟨φ, φ', h', hR.other _ _ _ _ hs hfit ho, hf, absurd hs, fun h => ⟨hs, hfit' h⟩⟩
  · refine ⟨φ, φ, ?_, ho, hf, fun _ => rfl, fun h => absurd (hR.keeps _ _ _ _ hp h) hs⟩
    rw [hR.ops_other _ _ _ _ hp hs]
    rfl

theorem pending_follows (hI : PoolFollows holder Fits Other n pool trace)
    (he : pool[i]? = some e) (hp : poll io e.stream = some p) :
    PoolFollows holder Fits Other n (pool.set i ⟨p.state, false, parkedOn p.state⟩)
      (trace ++ p.ops) where
  bounded e' he' sub hs := by
    rcases SelectAll.mem_set_of_mem he' with he' | rfl
    · exact hI.bounded e' he' sub hs
    · exact hR.polled_bounded hI he hp sub hs
  unused := hR.polled_unused hI he hp
  phase sub := by
    obtain ⟨φ, φ', h', ho, hf, hφ, hx⟩ := hR.polled_phase hI he hp sub
    exact ⟨φ', h', hf.set he hx hφ, ho⟩

theorem item_follows (hI : PoolFollows holder Fits Other n pool trace)
    (he : pool[i]? = some e) (hp : poll io e.stream = some p) (item : ConnectionHandlerEvent) :
    PoolFollows holder Fits Other n (SelectAll.push (pool.eraseIdx i) p.state)
      (trace ++ p.ops ++ [.event item]) where
  bounded e' he' sub hs := by
    rcases List.mem_cons.mp he' with rfl | he'
    · exact hR.polled_bounded hI he hp sub hs
    · exact hI.bounded e' (List.mem_of_mem_eraseIdx he') sub hs
  unused sub hn := by
    rw [project_append, hR.polled_unused hI he hp sub hn]
    rfl
  phase sub := by
    obtain ⟨φ, φ', h', ho, hf, hφ, hx⟩ := hR.polled_phase hI he hp sub
    obtain ⟨hf', hzero⟩ := hf.eraseIdx he hφ
    refine ⟨φ', by rwa [project_append, project_event, List.append_nil], ?_, ho⟩
    exact hf'.push fun hs => ⟨hzero (hx hs).1, (hx hs).2⟩

theorem done_follows (hI : PoolFollows holder Fits Other n pool trace)
    (he : pool[i]? = some e) (hp : poll io e.stream = some p) :
    PoolFollows holder Fits Other n (pool.eraseIdx i) (trace ++ p.ops) where
  bounded e' he' := hI.bounded e' (List.mem_of_mem_eraseIdx he')
  unused := hR.polled_unused hI he hp
  phase sub := by
    obtain ⟨φ, φ', h', ho, hf, hφ, -⟩ := hR.polled_phase hI he hp sub
    exact ⟨φ', h', (hf.eraseIdx he hφ).1, ho⟩

theorem pollNext_follows {sched : List (Nat × ι)} {r : PoolPolled σ}
    (hr : SelectAll.pollNext poll parkedOn pool sched = some r)
    (hI : PoolFollows holder Fits Other n pool trace) :
    PoolFollows holder Fits Other n r.pool (trace ++ r.ops ++ r.item.toList.map .event) :=
  SelectAll.pollNext_inv (PoolFollows holder Fits Other n)
    (fun _ _ _ _ _ _ hI he _ hp _ => hR.pending_follows hI he hp)
    (fun _ _ _ _ _ _ item hI he _ hp _ => hR.item_follows hI he hp item)
    (fun _ _ _ _ _ _ hI he _ hp _ => hR.done_follows hI he hp) trace hr hI

end Respects

variable {σ' : Type} {holder' : σ' → Option Substream} {Fits' : Phase → σ' → Prop}
  {pool : SelectAll σ} {pool' : SelectAll σ'} {trace trace' : List Obs} {φ : Phase}
  {sub : Substream}

theorem PoolFollows.swap
    (hI : PoolFollows holder Fits (fun sub φ => SubFollows holder' Fits' pool' φ sub) n pool trace)
    (hb : ∀ e ∈ pool', ∀ sub, holder' e.stream = some sub → sub < n) :
    PoolFollows holder' Fits' (fun sub φ => SubFollows holder Fits pool φ sub) n pool' trace :=
  ⟨hb, hI.unused, fun sub => let ⟨φ, h, ha, hb⟩ := hI.phase sub; ⟨φ, h, hb, ha⟩⟩

theorem PoolFollows.of_project (hI : PoolFollows holder Fits Other n pool trace)
    (h : ∀ sub, project sub trace' = project sub trace) :
    PoolFollows holder Fits Other n pool trace' :=
  ⟨hI.bounded, fun sub hn => (h sub).trans (hI.unused sub hn), fun sub => by
    simpa only [h] using hI.phase sub⟩

end Pass

section Handler

def OutFits (φ : Phase) (s : OutboundSubstreamState) : Prop := φ = outPhase s

def InAllows (pool : SelectAll InboundSubstreamState) (sub : Substream) (φ : Phase) : Prop :=
  SubFollows InboundSubstreamState.substream? InFits pool φ sub

def OutAllows (pool : SelectAll OutboundSubstreamState) (sub : Substream) (φ : Phase) : Prop :=
  SubFollows OutboundSubstreamState.parkedOn OutFits pool φ sub

theorem not_inFits_outPhase {s : OutboundSubstreamState} (hs : s.parkedOn.isSome)
    (t : InboundSubstreamState) : ¬ InFits (outPhase s) t := by
  cases s <;> cases t <;> simp_all [InFits, outPhase, OutboundSubstreamState.parkedOn]

theorem outbound_respects (inPool : SelectAll InboundSubstreamState) :
    Respects (fun io (s : OutboundSubstreamState) => s.pollNext io) OutboundSubstreamState.parkedOn
      OutFits (InAllows inPool) where
  ops_other _ _ _ _ hp hs := outbound_project_other hp hs
  keeps _ _ _ _ hp hs := outbound_pollNext_keeps hp hs
  run _ _ _ _ _ hp hs hφ := by
    obtain ⟨φ', h', hfit⟩ := outbound_pollNext_run hp
    have hφ : _ = _ := hφ
    exact ⟨φ', by rw [outbound_project_self hp hs, hφ, h'], fun hs' => hfit (by simp [hs'])⟩
  other _ _ _ _ hs hφ ho := ⟨ho.1, fun e he hse =>
    absurd (ho.2 e he hse) ((show _ = _ from hφ) ▸ not_inFits_outPhase (by simp [hs]) _)⟩

theorem inbound_respects (outPool : SelectAll OutboundSubstreamState) :
    Respects (fun io (s : InboundSubstreamState) => s.pollNext io) InboundSubstreamState.substream?
      InFits (OutAllows outPool) where
  ops_other _ _ _ _ hp hs := inbound_project_other hp hs
  keeps _ _ _ _ hp hs := inbound_pollNext_keeps hp hs
  run _ _ _ _ _ hp hs hφ := by
    obtain ⟨φ', h', hfit⟩ := inbound_pollNext_run hp fun _ => hφ
    exact ⟨φ', by rw [inbound_project_self hp hs, h'], fun hs' => hfit (by simp [hs'])⟩
  other _ _ _ _ hs hφ ho := ⟨ho.1, fun e he hse =>
    (not_inFits_outPhase (by simp [hse]) _ ((show _ = _ from ho.2 e he hse) ▸ hφ)).elim⟩

structure HandlerFollows (n : Nat) (h : Handler) (trace : List Obs) : Prop where
  out : PoolFollows OutboundSubstreamState.parkedOn OutFits (InAllows h.inboundSubstreams) n
    h.outboundSubstreams trace
  inBounded : ∀ e ∈ h.inboundSubstreams, ∀ sub, e.stream.substream? = some sub → sub < n

namespace HandlerFollows

variable {n : Nat} {h h' : Handler} {trace : List Obs}

theorem inb (hI : HandlerFollows n h trace) :
    PoolFollows InboundSubstreamState.substream? InFits (OutAllows h.outboundSubstreams) n
      h.inboundSubstreams trace :=
  hI.out.swap hI.inBounded

theorem frame (hI : HandlerFollows n h trace) (hout : h'.outboundSubstreams = h.outboundSubstreams)
    (hin : h'.inboundSubstreams = h.inboundSubstreams) {obs : List Obs}
    (hobs : ∀ sub, project sub obs = []) : HandlerFollows n h' (trace ++ obs) := by
  refine ⟨?_, fun e he => hI.inBounded e (hin ▸ he)⟩
  rw [hout, hin]
  exact hI.out.of_project fun sub => by simp [hobs]

theorem of_pools (hI : HandlerFollows n h trace)
    (hout : h'.outboundSubstreams = h.outboundSubstreams)
    (hin : h'.inboundSubstreams = h.inboundSubstreams) : HandlerFollows n h' trace := by
  rw [← List.append_nil trace]
  exact hI.frame hout hin fun _ => rfl

theorem succ (hI : HandlerFollows n h trace) : HandlerFollows (n + 1) h trace :=
  ⟨⟨fun e he sub hs => Nat.lt_succ_of_lt (hI.out.bounded e he sub hs),
      fun sub hn => hI.out.unused sub (by omega), hI.out.phase⟩,
    fun e he sub hs => Nat.lt_succ_of_lt (hI.inBounded e he sub hs)⟩

theorem reset (hI : HandlerFollows n h trace) {i : Nat} {e : Entry InboundSubstreamState}
    {id : UniqueConnecId} {sub : Substream} {waker : Option Waker}
    (hi : h.inboundSubstreams[i]? = some e) (hw : e.stream = .waitingBehaviour id sub waker)
    (hout : h'.outboundSubstreams = h.outboundSubstreams)
    (hin : h'.inboundSubstreams = h.inboundSubstreams.set i { e with stream := .closing sub })
    {obs : List Obs} (hobs : ∀ sub, project sub obs = []) :
    HandlerFollows n h' (trace ++ obs) := by
  have he := List.getElem?_mem hi
  have hsub : e.stream.substream? = some sub := by simp [hw, InboundSubstreamState.substream?]
  refine ⟨⟨hout ▸ hI.out.bounded, fun sub' hn => ?_, fun sub' => ?_⟩, fun e' he' sub' hs' => ?_⟩
  · simp [hobs, hI.out.unused sub' hn]
  · obtain ⟨φ, hφ, hf, ha⟩ := hI.out.phase sub'
    refine ⟨φ, by simpa [hobs] using hφ, hout ▸ hf, ?_⟩
    rw [InAllows, hin]
    refine SubFollows.set ha hi (fun hs => ?_) fun _ => rfl
    obtain rfl : sub = sub' := by simpa [InboundSubstreamState.substream?] using hs
    have := ha.2 e he hsub
    rw [hw, inFits_waitingBehaviour] at this
    exact ⟨hsub, by simp [this, InFits]⟩
  · rw [hin] at he'
    rcases SelectAll.mem_set_of_mem he' with he' | rfl
    · exact hI.inBounded e' he' sub' hs'
    · obtain rfl : sub = sub' := by simpa [InboundSubstreamState.substream?] using hs'
      exact hI.inBounded e he sub hsub

theorem accept (hI : HandlerFollows n h trace) {i : Nat} {e : Entry InboundSubstreamState}
    {id : UniqueConnecId} {sub : Substream} {waker : Option Waker} {msg : KadResponseMsg}
    {queued : Bool} {parked : Option Substream}
    (hi : h.inboundSubstreams[i]? = some e) (hw : e.stream = .waitingBehaviour id sub waker)
    (hout : h'.outboundSubstreams = h.outboundSubstreams)
    (hin : h'.inboundSubstreams =
      h.inboundSubstreams.set i ⟨.pendingSend id sub msg, queued, parked⟩) :
    HandlerFollows n h' (trace ++ [.accepted id sub msg]) := by
  have he := List.getElem?_mem hi
  have hsub : e.stream.substream? = some sub := by simp [hw, InboundSubstreamState.substream?]
  have hn : sub < n := hI.inBounded e he sub hsub
  refine ⟨⟨hout ▸ hI.out.bounded, fun sub' hn' => ?_, fun sub' => ?_⟩, fun e' he' sub' hs' => ?_⟩
  · have hne : sub ≠ sub' := fun h => absurd hn (h ▸ Nat.not_lt.mpr hn')
    simp [project_singleton, about, hne, hI.out.unused sub' hn']
  · obtain ⟨φ, hφ, hf, ha⟩ := hI.out.phase sub'
    simp only [InAllows, hin, hout]
    by_cases hs : sub = sub'
    · subst hs
      have hfit := ha.2 e he hsub
      rw [hw, inFits_waitingBehaviour] at hfit
      subst hfit
      refine ⟨.inSend msg, ?_, ⟨hf.1, fun e' he' hs' => ?_⟩, ?_⟩
      · simp [Phase.run_append, hφ, project_singleton, about, Phase.run, Phase.next]
      · have := hf.2 e' he' hs'
        exact absurd (this ▸ ha.2 e he hsub) (not_inFits_outPhase (by simp [hs']) _)
      · refine SubFollows.set ha hi (fun _ => ⟨hsub, rfl⟩) fun h => absurd hsub h
    · refine ⟨φ, by simpa [project_singleton, about, hs] using hφ, hf, ?_⟩
      refine SubFollows.set ha hi (fun h => absurd ?_ hs) fun _ => rfl
      simpa [InboundSubstreamState.substream?] using h
  · rw [hin] at he'
    rcases SelectAll.mem_set_of_mem he' with he' | rfl
    · exact hI.inBounded e' he' sub' hs'
    · obtain rfl : sub = sub' := by simpa [InboundSubstreamState.substream?] using hs'
      exact hn

theorem opened (hI : HandlerFollows n h trace) {msg : KadRequestMsg} {queryId : Option QueryId}
    (hout : h'.outboundSubstreams =
      SelectAll.push h.outboundSubstreams (.pendingSend n msg queryId))
    (hin : h'.inboundSubstreams = h.inboundSubstreams) :
    HandlerFollows (n + 1) h' (trace ++ [.opened n msg queryId]) := by
  have hfree : ∀ e ∈ h.outboundSubstreams, e.stream.parkedOn ≠ some n :=
    fun e he hs => Nat.lt_irrefl _ (hI.out.bounded e he n hs)
  have hfreeIn : ∀ e ∈ h.inboundSubstreams, e.stream.substream? ≠ some n :=
    fun e he hs => Nat.lt_irrefl _ (hI.inBounded e he n hs)
  refine ⟨⟨fun e he sub hs => ?_, fun sub hn' => ?_, fun sub => ?_⟩,
    fun e he sub hs => Nat.lt_succ_of_lt (hI.inBounded e (hin ▸ he) sub hs)⟩
  · rw [hout] at he
    rcases List.mem_cons.mp he with rfl | he
    · obtain rfl : n = sub := by simpa [OutboundSubstreamState.parkedOn] using hs
      exact Nat.lt_succ_self _
    · exact Nat.lt_succ_of_lt (hI.out.bounded e he sub hs)
  · have hne : n ≠ sub := fun h => absurd hn' (h ▸ Nat.not_succ_le_self n)
    simp [project_singleton, about, hne, hI.out.unused sub (Nat.le_of_succ_le hn')]
  · simp only [InAllows, hin, hout]
    by_cases hs : n = sub
    · subst hs
      refine ⟨.outSend msg queryId, ?_, SubFollows.push (SubFollows.of_unheld hfree)
        fun _ => ⟨?_, rfl⟩, SubFollows.of_unheld hfreeIn⟩
      · simp [hI.out.unused n le_rfl, project_singleton, about, Phase.run, Phase.next]
      · exact List.countP_eq_zero.2 fun e he => by simpa using hfree e he
    · obtain ⟨φ, hφ, hf, ha⟩ := hI.out.phase sub
      refine ⟨φ, by simpa [project_singleton, about, hs] using hφ,
        SubFollows.push hf fun h => absurd ?_ hs, ha⟩
      simpa [OutboundSubstreamState.parkedOn] using h

theorem pushUnheld (hI : HandlerFollows n h trace) {s : OutboundSubstreamState}
    (hs : s.parkedOn = none) (hout : h'.outboundSubstreams = SelectAll.push h.outboundSubstreams s)
    (hin : h'.inboundSubstreams = h.inboundSubstreams) : HandlerFollows n h' trace := by
  refine ⟨⟨fun e he sub hs' => ?_, hI.out.unused, fun sub => ?_⟩,
    fun e he => hI.inBounded e (hin ▸ he)⟩
  · rw [hout] at he
    rcases List.mem_cons.mp he with rfl | he
    · simp [hs] at hs'
    · exact hI.out.bounded e he sub hs'
  · obtain ⟨φ, hφ, hf, ha⟩ := hI.out.phase sub
    simp only [InAllows, hin, hout]
    exact ⟨φ, hφ, SubFollows.push hf fun h => by simp [hs] at h, ha⟩

theorem evict (hI : HandlerFollows n h trace) {i : Nat} {e : Entry InboundSubstreamState}
    (hi : h.inboundSubstreams[i]? = some e) (hout : h'.outboundSubstreams = h.outboundSubstreams)
    (hin : h'.inboundSubstreams = h.inboundSubstreams.set i { e with stream := .cancelled }) :
    HandlerFollows n h' trace := by
  refine ⟨⟨hout ▸ hI.out.bounded, hI.out.unused, fun sub => ?_⟩, fun e' he' sub hs => ?_⟩
  · obtain ⟨φ, hφ, hf, ha⟩ := hI.out.phase sub
    simp only [InAllows, hin, hout]
    exact ⟨φ, hφ, hf, SubFollows.set ha hi
      (fun h => by simp [InboundSubstreamState.substream?] at h) fun _ => rfl⟩
  · rw [hin] at he'
    rcases SelectAll.mem_set_of_mem he' with he' | rfl
    · exact hI.inBounded e' he' sub hs
    · simp [InboundSubstreamState.substream?] at hs

theorem admitted (hI : HandlerFollows n h trace) {id : UniqueConnecId}
    (hout : h'.outboundSubstreams = h.outboundSubstreams)
    (hin : h'.inboundSubstreams = SelectAll.push h.inboundSubstreams (.waitingMessage true id n)) :
    HandlerFollows (n + 1) h' (trace ++ [.admitted id n]) := by
  have hfree : ∀ e ∈ h.outboundSubstreams, e.stream.parkedOn ≠ some n :=
    fun e he hs => Nat.lt_irrefl _ (hI.out.bounded e he n hs)
  have hfreeIn : ∀ e ∈ h.inboundSubstreams, e.stream.substream? ≠ some n :=
    fun e he hs => Nat.lt_irrefl _ (hI.inBounded e he n hs)
  refine ⟨⟨fun e he sub hs => Nat.lt_succ_of_lt (hI.out.bounded e (hout ▸ he) sub hs),
    fun sub hn' => ?_, fun sub => ?_⟩, fun e he sub hs => ?_⟩
  · have hne : n ≠ sub := fun h => absurd hn' (h ▸ Nat.not_succ_le_self n)
    simp [project_singleton, about, hne, hI.out.unused sub (Nat.le_of_succ_le hn')]
  · simp only [InAllows, hin, hout]
    by_cases hs : n = sub
    · subst hs
      refine ⟨.inWait, ?_, SubFollows.of_unheld hfree,
        SubFollows.push (SubFollows.of_unheld hfreeIn) fun _ => ⟨?_, trivial⟩⟩
      · simp [hI.out.unused n le_rfl, project_singleton, about, Phase.run, Phase.next]
      · exact List.countP_eq_zero.2 fun e he => by simpa using hfreeIn e he
    · obtain ⟨φ, hφ, hf, ha⟩ := hI.out.phase sub
      refine ⟨φ, by simpa [project_singleton, about, hs] using hφ, hf,
        SubFollows.push ha fun h => absurd ?_ hs⟩
      simpa [InboundSubstreamState.substream?] using h
  · rw [hin] at he
    rcases List.mem_cons.mp he with rfl | he
    · obtain rfl : n = sub := by simpa [InboundSubstreamState.substream?] using hs
      exact Nat.lt_succ_self _
    · exact Nat.lt_succ_of_lt (hI.inBounded e he sub hs)

theorem wake (hI : HandlerFollows n h trace) (s : Substream) : HandlerFollows n (h.wake s) trace := by
  have hmem : ∀ {σ : Type} {parkedOn : σ → Option Substream} {pool : SelectAll σ} {e : Entry σ},
      e ∈ SelectAll.wake parkedOn s pool → ∃ e₀ ∈ pool, e₀.stream = e.stream := fun he =>
    List.mem_map.mp (SelectAll.wake_streams _ s _ ▸ List.mem_map_of_mem Entry.stream he)
  refine ⟨⟨fun e he sub hs => ?_, hI.out.unused, fun sub => ?_⟩, fun e he sub hs => ?_⟩
  · obtain ⟨e₀, he₀, heq⟩ := hmem he
    exact hI.out.bounded e₀ he₀ sub (heq ▸ hs)
  · obtain ⟨φ, hφ, hf, ha⟩ := hI.out.phase sub
    exact ⟨φ, hφ, hf.of_streams (SelectAll.wake_streams _ s _),
      SubFollows.of_streams ha (SelectAll.wake_streams _ s _)⟩
  · obtain ⟨e₀, he₀, heq⟩ := hmem he
    exact hI.inBounded e₀ he₀ sub (heq ▸ hs)

theorem poll (hI : HandlerFollows n h trace) {now : Instant}
    {outSched : List (Nat × SinkIo KadResponseMsg)} {inSched : List (Nat × SinkIo KadRequestMsg)}
    {r : Poll ConnectionHandlerEvent} {obs : List Obs}
    (hp : h.poll now outSched inSched = some (h', r, obs)) :
    HandlerFollows n h' (trace ++ obs ++ pollObs r) := by
  have hobs : ∀ sub, project sub (pollObs r) = [] := fun sub => by cases r <;> rfl
  rcases poll_cases hp with ⟨_, -, -, rfl, -, rfl⟩ | ⟨-, hp⟩
  · rw [List.append_nil]
    refine hI.frame ?_ ?_ hobs <;> rfl
  obtain ⟨out, hpo, hrest⟩ := pollSubstreams_cases hp
  have ho := (outbound_respects h.inboundSubstreams).pollNext_follows hpo hI.out
  rcases hrest with ⟨event, hitem, rfl, rfl, rfl⟩ | ⟨inb, hitem, hpi, hrest⟩
  · rw [hitem] at ho
    exact ⟨ho, hI.inBounded⟩
  rw [hitem, Option.toList_none, List.map_nil, List.append_nil] at ho
  have h₁ : HandlerFollows n { h with outboundSubstreams := out.pool } (trace ++ out.ops) :=
    ⟨ho, hI.inBounded⟩
  have hi := (inbound_respects out.pool).pollNext_follows hpi h₁.inb
  have h₂ : HandlerFollows n { h with outboundSubstreams := out.pool, inboundSubstreams := inb.pool }
      (trace ++ out.ops ++ inb.ops ++ inb.item.toList.map .event) := ⟨hi.swap ho.bounded, hi.bounded⟩
  rcases hrest with ⟨event, hitem', rfl, rfl, rfl⟩ | ⟨hitem', rfl, hr⟩
  · simpa [hitem', pollObs] using h₂
  rw [hitem', Option.toList_none, List.map_nil, List.append_nil] at h₂
  rw [← List.append_assoc]
  rcases requestOrIdle_cases hr with ⟨-, -, rfl, -⟩ | ⟨rfl, -⟩ <;>
    refine h₂.frame ?_ ?_ hobs <;> rfl

theorem uint64_succ_ne (x : UInt64) : x + 1 ≠ x := by
  intro h
  have := congrArg UInt64.toNat h
  simp [UInt64.toNat, UInt64.add_def, Fin.val_add] at this
  omega

theorem step {w w' : World} (hI : HandlerFollows w.substreams w.handler w.trace)
    (hs : Step w w') : HandlerFollows w'.substreams w'.handler w'.trace := by
  cases hs with
  | behaviour message h obs he =>
    obtain ⟨hout, hpool⟩ := onBehaviourEvent_pools he
    rcases hpool with ⟨hin, rfl⟩ | ⟨i, e, id, sub, waker, hi, hw, ⟨hin, rfl⟩ | ⟨msg, hin, rfl⟩⟩
    · exact hI.frame hout hin fun _ => rfl
    · exact hI.reset hi hw hout hin fun _ => rfl
    · have h₁ : HandlerFollows w.substreams w.handler (w.trace ++ [.command message]) :=
        hI.frame rfl rfl fun _ => rfl
      simpa using h₁.accept hi hw hout hin
  | fullyNegotiatedOutbound hout =>
    simp only [onConnectionEvent]
    rcases hp : w.handler.pendingMessages with _ | ⟨⟨msg, queryId⟩, pending⟩
    · have hpool : (w.handler.onFullyNegotiatedOutbound w.substreams).outboundSubstreams =
          w.handler.outboundSubstreams := by
        simp [onFullyNegotiatedOutbound_of_nil hp, confirmOnFirstSubstream_eq]
      rw [World.opened_of_unheld
        (hpool ▸ fun e he hs => Nat.lt_irrefl _ (hI.out.bounded e he _ hs)), List.append_nil]
      exact hI.succ.of_pools hpool (by simp)
    · have hpool : (w.handler.onFullyNegotiatedOutbound w.substreams).outboundSubstreams =
          SelectAll.push w.handler.outboundSubstreams (.pendingSend w.substreams msg queryId) := by
        simp [onFullyNegotiatedOutbound_of_cons hp, confirmOnFirstSubstream_eq]
      rw [World.opened_push hpool]
      exact hI.opened hpool (by simp)
  | dialUpgradeError error hout =>
    simp only [onConnectionEvent]
    rcases hp : w.handler.pendingMessages with _ | ⟨⟨msg, _ | queryId⟩, pending⟩
    · exact hI.of_pools (by simp [onDialUpgradeError_of_nil hp]) (by simp)
    · exact hI.of_pools (by simp [onDialUpgradeError_of_cons hp]) (by simp)
    · exact hI.pushUnheld
        (show OutboundSubstreamState.parkedOn (.reportError (.upgrade error) queryId) = none from rfl)
        (by simp [onDialUpgradeError_of_cons hp]) (by simp)
  | fullyNegotiatedInbound =>
    simp only [onConnectionEvent, World.admitted]
    obtain ⟨hout, ⟨hin, hid⟩ | ⟨pool, hpool, hin, hid⟩⟩ :=
      onFullyNegotiatedInbound_cases w.handler w.substreams
    · rw [if_pos hid, List.append_nil]
      exact hI.succ.of_pools hout hin
    rw [if_neg (hid ▸ uint64_succ_ne _)]
    have h₁ : HandlerFollows w.substreams { w.handler with inboundSubstreams := pool } w.trace := by
      rcases hpool with rfl | ⟨i, e, hi, rfl⟩
      · exact hI.of_pools rfl rfl
      · exact hI.evict hi rfl rfl
    exact h₁.admitted hout hin
  | remoteProtocolsChange change =>
    obtain ⟨_, _, he⟩ := onRemoteProtocolsChange_eq w.handler change
    exact hI.frame (by rw [he]) (by rw [he]) fun _ => rfl
  | poll outSched inSched h r obs hp => exact hI.poll hp
  | wake s => exact hI.wake s
  | tick => exact hI

end HandlerFollows

theorem handlerFollows_of_reachable {w : World} (hw : Reachable w) :
    HandlerFollows w.substreams w.handler w.trace := by
  induction hw with
  | init =>
    exact ⟨⟨List.forall_mem_nil _, fun _ _ => rfl, fun _ => ⟨.fresh, rfl,
      SubFollows.of_unheld (List.forall_mem_nil _), SubFollows.of_unheld (List.forall_mem_nil _)⟩⟩,
      List.forall_mem_nil _⟩
  | step _ hs ih => exact ih.step hs

end Handler

end Libp2p.Kad.Pattern
