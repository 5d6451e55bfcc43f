import Libp2p.Kad.Exchange

namespace Libp2p.Kad

/-- A stream in a `SelectAll`, with the scheduling state of the `FuturesUnordered` task that
holds it. -/
structure Entry (σ : Type) where
  stream : σ
  /-- The task is in the ready-to-run queue: its waker was woken since its last poll. -/
  queued : Bool
  /-- The substream holding the task's waker since its last poll returned `Pending` on it. -/
  parked : Option Substream
  deriving DecidableEq

/-- `SelectAll<σ>`, in the order `iter_mut` visits it: the most recently pushed stream first. -/
abbrev SelectAll (σ : Type) := List (Entry σ)

structure PoolPolled (σ : Type) where
  pool : SelectAll σ
  item : Option ConnectionHandlerEvent
  ops : List Obs

namespace SelectAll

variable {σ ι : Type}

/-- `SelectAll::push`: a new task, queued for its first poll. -/
def push (pool : SelectAll σ) (s : σ) : SelectAll σ := ⟨s, true, none⟩ :: pool

def prepend (ops : List Obs) : Option (PoolPolled σ) → Option (PoolPolled σ) :=
  Option.map fun r => { r with ops := ops ++ r.ops }

/-- `SelectAll::poll_next`. The executor polls the queued entries named by `sched` in turn, each
with the results its substream gives. A stream that ends is dropped; the first item ends the
call, and its stream is pushed back as a new task. `none` is a panic of a stream. -/
def pollNext (poll : ι → σ → Option (Polled σ)) (parkedOn : σ → Option Substream) :
    SelectAll σ → List (Nat × ι) → Option (PoolPolled σ)
  | pool, [] => some ⟨pool, none, []⟩
  | pool, (i, io) :: sched =>
    match pool[i]? with
    | some e =>
      if e.queued then
        match poll io e.stream with
        | none => none
        | some ⟨s, .pending, ops⟩ =>
          prepend ops (pollNext poll parkedOn (pool.set i ⟨s, false, parkedOn s⟩) sched)
        | some ⟨s, .ready (some item), ops⟩ => some ⟨push (pool.eraseIdx i) s, some item, ops⟩
        | some ⟨_, .ready none, ops⟩ => prepend ops (pollNext poll parkedOn (pool.eraseIdx i) sched)
      else pollNext poll parkedOn pool sched
    | none => pollNext poll parkedOn pool sched

/-- The substream `s` is ready again: it wakes the tasks whose waker it holds. A stream that no
longer owns `s` dropped it, and the waker with it. -/
def wake (parkedOn : σ → Option Substream) (s : Substream) (pool : SelectAll σ) : SelectAll σ :=
  pool.map fun e => if e.parked = some s ∧ parkedOn e.stream = some s then ⟨e.stream, true, none⟩ else e

/-- `iter_mut().find(p)`, then `f` on the stream found; `none` when no stream matches. -/
def updateFirst (p : σ → Bool) (f : σ → σ) : SelectAll σ → Option (SelectAll σ)
  | [] => none
  | e :: pool =>
    if p e.stream then some ({ e with stream := f e.stream } :: pool)
    else (updateFirst p f pool).map (e :: ·)

theorem countP_eraseIdx {α : Type} (p : α → Bool) :
    ∀ (l : List α) (i : Nat) (h : i < l.length),
      l.countP p = (l.eraseIdx i).countP p + if p l[i] then 1 else 0
  | _ :: _, 0, _ => by simp [List.countP_cons]
  | a :: l, i + 1, h => by
    simp [List.countP_cons, countP_eraseIdx p l i (by simpa using h)]
    omega

section Lemmas

variable {poll : ι → σ → Option (Polled σ)} {parkedOn : σ → Option Substream}

def Keeps (poll : ι → σ → Option (Polled σ)) (P : σ → Prop) : Prop :=
  ∀ s io p, P s → poll io s = some p → p.result ≠ .ready none → P p.state

theorem mem_set_of_mem {pool : SelectAll σ} {i : Nat} {e' e : Entry σ}
    (h : e ∈ pool.set i e') : e ∈ pool ∨ e = e' := by
  obtain ⟨j, hj, rfl⟩ := List.getElem_of_mem h
  rw [List.getElem_set]
  split
  · exact .inr rfl
  · exact .inl (List.getElem_mem _)

theorem pollNext_forall {P : σ → Prop} (hP : Keeps poll P) :
    ∀ {pool : SelectAll σ} {sched : List (Nat × ι)} {r : PoolPolled σ},
      pollNext poll parkedOn pool sched = some r → (∀ e ∈ pool, P e.stream) →
        ∀ e ∈ r.pool, P e.stream
  | pool, [], r, h, hpool => by cases h; exact hpool
  | pool, (i, io) :: sched, r, h, hpool => by
    simp only [pollNext] at h
    split at h
    · rename_i e he
      have hs : P e.stream := hpool e (List.getElem?_mem he)
      split at h
      · split at h
        · cases h
        · rename_i s ops hpoll
          obtain ⟨r', h', rfl⟩ := Option.map_eq_some'.mp h
          refine (pollNext_forall hP h' fun e' he' => ?_ : ∀ e ∈ r'.pool, P e.stream)
          rcases mem_set_of_mem he' with he' | rfl
          · exact hpool e' he'
          · exact hP _ _ _ hs hpoll (by simp)
        · rename_i s item ops hpoll
          cases h
          intro e' he'
          rcases List.mem_cons.mp he' with rfl | he'
          · exact hP _ _ _ hs hpoll (by simp)
          · exact hpool e' (List.mem_of_mem_eraseIdx he')
        · obtain ⟨r', h', rfl⟩ := Option.map_eq_some'.mp h
          exact (pollNext_forall hP h' fun e' he' => hpool e' (List.mem_of_mem_eraseIdx he') :
            ∀ e ∈ r'.pool, P e.stream)
      · exact pollNext_forall hP h hpool
    · exact pollNext_forall hP h hpool

theorem pollNext_length_le :
    ∀ {pool : SelectAll σ} {sched : List (Nat × ι)} {r : PoolPolled σ},
      pollNext poll parkedOn pool sched = some r → r.pool.length ≤ pool.length
  | pool, [], r, h => by cases h; rfl
  | pool, (i, io) :: sched, r, h => by
    simp only [pollNext] at h
    split at h
    · rename_i e he
      have hi : i < pool.length := (List.getElem?_eq_some_iff.mp he).1
      split at h
      · split at h
        · cases h
        · obtain ⟨r', h', rfl⟩ := Option.map_eq_some'.mp h
          simpa using pollNext_length_le h'
        · cases h
          simp only [push, List.length_cons, List.length_eraseIdx, hi, if_true]
          omega
        · obtain ⟨r', h', rfl⟩ := Option.map_eq_some'.mp h
          have := pollNext_length_le h'
          simp only [List.length_eraseIdx, hi, if_true] at this
          exact this.trans (Nat.sub_le _ _)
      · exact pollNext_length_le h
    · exact pollNext_length_le h

theorem pollNext_item {Q : ConnectionHandlerEvent → Prop}
    (hQ : ∀ s io p item, poll io s = some p → p.result = .ready (some item) → Q item) :
    ∀ {pool : SelectAll σ} {sched : List (Nat × ι)} {r : PoolPolled σ},
      pollNext poll parkedOn pool sched = some r → ∀ item, r.item = some item → Q item
  | pool, [], r, h => by cases h; simp
  | pool, (i, io) :: sched, r, h => by
    simp only [pollNext] at h
    split at h
    · split at h
      · split at h
        · cases h
        · obtain ⟨r', h', rfl⟩ := Option.map_eq_some'.mp h
          exact (pollNext_item hQ h' : ∀ item, r'.item = some item → Q item)
        · rename_i hpoll
          cases h
          rintro item ⟨⟩
          exact hQ _ _ _ _ hpoll rfl
        · obtain ⟨r', h', rfl⟩ := Option.map_eq_some'.mp h
          exact (pollNext_item hQ h' : ∀ item, r'.item = some item → Q item)
      · exact pollNext_item hQ h
    · exact pollNext_item hQ h

theorem pollNext_ops {Q : Obs → Prop} (hQ : ∀ s io p, poll io s = some p → ∀ o ∈ p.ops, Q o) :
    ∀ {pool : SelectAll σ} {sched : List (Nat × ι)} {r : PoolPolled σ},
      pollNext poll parkedOn pool sched = some r → ∀ o ∈ r.ops, Q o
  | pool, [], r, h => by cases h; simp
  | pool, (i, io) :: sched, r, h => by
    simp only [pollNext] at h
    split at h
    · split at h
      · split at h
        · cases h
        · rename_i hpoll
          obtain ⟨r', h', rfl⟩ := Option.map_eq_some'.mp h
          intro o ho
          rcases List.mem_append.mp ho with ho | ho
          · exact hQ _ _ _ hpoll o ho
          · exact pollNext_ops hQ h' o ho
        · rename_i hpoll
          cases h
          exact hQ _ _ _ hpoll
        · rename_i hpoll
          obtain ⟨r', h', rfl⟩ := Option.map_eq_some'.mp h
          intro o ho
          rcases List.mem_append.mp ho with ho | ho
          · exact hQ _ _ _ hpoll o ho
          · exact pollNext_ops hQ h' o ho
      · exact pollNext_ops hQ h
    · exact pollNext_ops hQ h

theorem pollNext_inv (I : SelectAll σ → List Obs → Prop)
    (hpending : ∀ pool trace i e io p, I pool trace → pool[i]? = some e → e.queued = true →
      poll io e.stream = some p → p.result = .pending →
      I (pool.set i ⟨p.state, false, parkedOn p.state⟩) (trace ++ p.ops))
    (hitem : ∀ pool trace i e io p item, I pool trace → pool[i]? = some e → e.queued = true →
      poll io e.stream = some p → p.result = .ready (some item) →
      I (push (pool.eraseIdx i) p.state) (trace ++ p.ops ++ [.event item]))
    (hdone : ∀ pool trace i e io p, I pool trace → pool[i]? = some e → e.queued = true →
      poll io e.stream = some p → p.result = .ready none → I (pool.eraseIdx i) (trace ++ p.ops)) :
    ∀ {pool : SelectAll σ} {sched : List (Nat × ι)} {r : PoolPolled σ} (trace : List Obs),
      pollNext poll parkedOn pool sched = some r → I pool trace →
        I r.pool (trace ++ r.ops ++ r.item.toList.map .event)
  | pool, [], r, trace, h, hI => by cases h; simpa using hI
  | pool, (i, io) :: sched, r, trace, h, hI => by
    simp only [pollNext] at h
    split at h
    · rename_i e he
      split at h
      · rename_i hq
        split at h
        · cases h
        · rename_i s ops hpoll
          obtain ⟨r', h', rfl⟩ := Option.map_eq_some'.mp h
          have := pollNext_inv I hpending hitem hdone (trace ++ ops) h'
            (hpending _ _ _ _ _ _ hI he hq hpoll rfl)
          simpa only [List.append_assoc] using this
        · rename_i s item ops hpoll
          cases h
          simpa using hitem _ _ _ _ _ _ item hI he hq hpoll rfl
        · rename_i s ops hpoll
          obtain ⟨r', h', rfl⟩ := Option.map_eq_some'.mp h
          have := pollNext_inv I hpending hitem hdone (trace ++ ops) h'
            (hdone _ _ _ _ _ _ hI he hq hpoll rfl)
          simpa only [List.append_assoc] using this
      · exact pollNext_inv I hpending hitem hdone trace h hI
    · exact pollNext_inv I hpending hitem hdone trace h hI

theorem pollNext_obs {Q : Obs → Prop} (hops : ∀ s io p, poll io s = some p → ∀ o ∈ p.ops, Q o)
    (hitem : ∀ s io p item, poll io s = some p → p.result = .ready (some item) → Q (.event item))
    {pool : SelectAll σ} {sched : List (Nat × ι)} {r : PoolPolled σ}
    (hr : pollNext poll parkedOn pool sched = some r) :
    ∀ o ∈ r.ops ++ r.item.toList.map .event, Q o := by
  intro o ho
  rcases List.mem_append.mp ho with ho | ho
  · exact pollNext_ops hops hr o ho
  · obtain ⟨item, hi, rfl⟩ := List.mem_map.mp ho
    exact (pollNext_item hitem hr : ∀ item, r.item = some item → Q (.event item)) item
      (Option.mem_toList.mp hi)

theorem pollNext_isSome {P : σ → Prop} (hP : Keeps poll P)
    (hsafe : ∀ s io, P s → (poll io s).isSome) :
    ∀ {pool : SelectAll σ} (sched : List (Nat × ι)),
      (∀ e ∈ pool, P e.stream) → (pollNext poll parkedOn pool sched).isSome
  | pool, [], _ => rfl
  | pool, (i, io) :: sched, hpool => by
    simp only [pollNext]
    split
    · rename_i e he
      have hs : P e.stream := hpool e (List.getElem?_mem he)
      split
      · split
        · rename_i hpoll
          exact absurd (hsafe _ io hs) (by simp [hpoll])
        · rename_i s ops hpoll
          refine Option.isSome_map'.trans (pollNext_isSome hP hsafe sched fun e' he' => ?_)
          rcases mem_set_of_mem he' with he' | rfl
          · exact hpool e' he'
          · exact hP _ _ _ hs hpoll (by simp)
        · rfl
        · exact Option.isSome_map'.trans (pollNext_isSome hP hsafe sched
            fun e' he' => hpool e' (List.mem_of_mem_eraseIdx he'))
      · exact pollNext_isSome hP hsafe sched hpool
    · exact pollNext_isSome hP hsafe sched hpool

theorem mem_of_other_index {pool : SelectAll σ} {i : Nat} {e e' : Entry σ} (he : e ∈ pool)
    (hi : pool[i]? = some e') (hne : e' ≠ e) : ∃ j ≠ i, pool[j]? = some e := by
  obtain ⟨j, hj⟩ := List.mem_iff_getElem?.mp he
  exact ⟨j, fun h => hne (Option.some.inj (hi.symm.trans (h ▸ hj))), hj⟩

theorem pollNext_keeps_unqueued {e : Entry σ} (he : e.queued = false) :
    ∀ {pool : SelectAll σ} {sched : List (Nat × ι)} {r : PoolPolled σ},
      pollNext poll parkedOn pool sched = some r → e ∈ pool → e ∈ r.pool
  | pool, [], r, h, hmem => by cases h; exact hmem
  | pool, (i, io) :: sched, r, h, hmem => by
    simp only [pollNext] at h
    split at h
    · rename_i e' hi
      split at h
      · rename_i hq
        obtain ⟨j, hj, hget⟩ := mem_of_other_index hmem hi (by rintro rfl; simp_all)
        have herase : e ∈ pool.eraseIdx i := List.mem_eraseIdx_iff_getElem?.mpr ⟨j, hj, hget⟩
        split at h
        · cases h
        · rename_i s _ _
          obtain ⟨r', h', rfl⟩ := Option.map_eq_some'.mp h
          have hset : e ∈ pool.set i ⟨s, false, parkedOn s⟩ := List.mem_iff_getElem?.mpr
            ⟨j, by rw [List.getElem?_set_ne (Ne.symm hj), hget]⟩
          exact (pollNext_keeps_unqueued he h' hset : e ∈ r'.pool)
        · cases h
          exact List.mem_cons_of_mem _ herase
        · obtain ⟨r', h', rfl⟩ := Option.map_eq_some'.mp h
          exact (pollNext_keeps_unqueued he h' herase : e ∈ r'.pool)
      · exact pollNext_keeps_unqueued he h hmem
    · exact pollNext_keeps_unqueued he h hmem

theorem wake_keeps {e : Entry σ} {s : Substream} {pool : SelectAll σ}
    (he : ∀ s, e.parked = some s → parkedOn e.stream ≠ some s) (hmem : e ∈ pool) :
    e ∈ wake parkedOn s pool :=
  List.mem_map.mpr ⟨e, hmem, if_neg fun h => he s h.1 h.2⟩

theorem updateFirst_keeps {p : σ → Bool} {f : σ → σ} {e : Entry σ} (he : p e.stream = false) :
    ∀ {pool pool' : SelectAll σ}, updateFirst p f pool = some pool' → e ∈ pool → e ∈ pool'
  | [], _, h, _ => by cases h
  | e' :: pool, pool', h, hmem => by
    simp only [updateFirst] at h
    split at h
    · cases h
      rcases List.mem_cons.mp hmem with rfl | hmem
      · simp_all
      · exact List.mem_cons_of_mem _ hmem
    · obtain ⟨pool'', h', rfl⟩ := Option.map_eq_some'.mp h
      rcases List.mem_cons.mp hmem with rfl | hmem
      · exact List.mem_cons_self _ _
      · exact List.mem_cons_of_mem _ (updateFirst_keeps he h' hmem)

theorem updateFirst_cases (p : σ → Bool) (f : σ → σ) : ∀ pool : SelectAll σ,
    (∃ i e, pool[i]? = some e ∧ p e.stream ∧
      (∀ j e', j < i → pool[j]? = some e' → p e'.stream = false) ∧
      updateFirst p f pool = some (pool.set i { e with stream := f e.stream })) ∨
    ((∀ e ∈ pool, p e.stream = false) ∧ updateFirst p f pool = none)
  | [] => .inr ⟨nofun, rfl⟩
  | e :: pool => by
    by_cases he : p e.stream
    · exact .inl ⟨0, e, by simp, he, fun j _ hj => absurd hj (Nat.not_lt_zero j),
        by simp [updateFirst, he]⟩
    rcases updateFirst_cases p f pool with ⟨i, e', hi, hp, hfirst, hu⟩ | ⟨hall, hu⟩
    · refine .inl ⟨i + 1, e', by simpa using hi, hp, fun j e'' hj hj' => ?_,
        by simp [updateFirst, he, hu]⟩
      cases j with
      | zero =>
        obtain rfl : e = e'' := by simpa using hj'
        simpa using he
      | succ j => exact hfirst j e'' (by omega) (by simpa using hj')
    · exact .inr ⟨by simpa [he] using hall, by simp [updateFirst, he, hu]⟩

theorem updateFirst_eq {p : σ → Bool} {f : σ → σ} {pool pool' : SelectAll σ}
    (h : updateFirst p f pool = some pool') :
    ∃ i e, pool[i]? = some e ∧ p e.stream ∧ pool' = pool.set i { e with stream := f e.stream } := by
  rcases updateFirst_cases p f pool with ⟨i, e, hi, hp, -, hu⟩ | ⟨-, hu⟩
  · exact ⟨i, e, hi, hp, Option.some.inj (h.symm.trans hu)⟩
  · exact absurd (h.symm.trans hu) nofun

theorem updateFirst_forall {P : σ → Prop} {p : σ → Bool} {f : σ → σ}
    (hf : ∀ s, p s → P (f s)) :
    ∀ {pool pool' : SelectAll σ}, updateFirst p f pool = some pool' →
      (∀ e ∈ pool, P e.stream) → ∀ e ∈ pool', P e.stream
  | [], _, h, _ => by cases h
  | e :: pool, pool', h, hpool => by
    simp only [updateFirst] at h
    split at h
    · cases h
      intro e' he'
      rcases List.mem_cons.mp he' with rfl | he'
      · exact hf _ ‹_›
      · exact hpool e' (List.mem_cons_of_mem _ he')
    · obtain ⟨pool'', h', rfl⟩ := Option.map_eq_some'.mp h
      intro e' he'
      rcases List.mem_cons.mp he' with rfl | he'
      · exact hpool _ (List.mem_cons_self _ _)
      · exact updateFirst_forall hf h' (fun e'' he'' => hpool e'' (List.mem_cons_of_mem _ he'')) e' he'

theorem wake_streams (parkedOn : σ → Option Substream) (s : Substream) (pool : SelectAll σ) :
    (wake parkedOn s pool).map Entry.stream = pool.map Entry.stream := by
  simp only [wake, List.map_map]
  congr 1
  funext e
  simp only [Function.comp]
  split <;> rfl

end Lemmas

end SelectAll

end Libp2p.Kad
