import Mathlib.Data.PNat.Defs

namespace Libp2p.RequestResponse.Cbor

/-- The kinds of `io::Error` that the codec and the `futures` helpers it calls produce. -/
inductive ErrorKind where
  | other
  | unsupported
  | unexpectedEof
  | invalidData
  | writeZero
  deriving DecidableEq

/-- `cbor4ii::core::error::DecodeError<Infallible>`. Slice reading never fails, so `Read` holds
an empty type. The variants the codec does not tell apart are one constructor, with their
description. -/
inductive CoreDecodeError where
  | read (error : Empty)
  | unsupported (name : String) (found : UInt8)
  | eof (name : String) (expect : Nat)
  | invalid (description : String)
  deriving DecidableEq

/-- `cbor4ii::serde::DecodeError<Infallible>`. -/
inductive DecodeError where
  | core (error : CoreDecodeError)
  | custom (message : String)
  deriving DecidableEq

/-- `cbor4ii::serde::EncodeError<TryReserveError>`; the codec only wraps it. -/
structure EncodeError where
  description : String
  deriving DecidableEq

/-- What an `io::Error` made by the codec wraps. -/
inductive Payload where
  | decode (error : CoreDecodeError)
  | message (text : String)
  | encode (error : EncodeError)
  deriving DecidableEq

/-- `io::Error`: an error of the substream itself, passed on unchanged; a bare kind
(`ErrorKind::into`); or a kind with the error it wraps (`io::Error::new`, `io::Error::other`). -/
inductive IoError where
  | transport (code : Nat)
  | simple (kind : ErrorKind)
  | custom (kind : ErrorKind) (error : Payload)
  deriving DecidableEq

def decodeIntoIoError : DecodeError → IoError
  | .core (.read e) => e.elim
  | .core (e@(.unsupported ..)) => .custom .unsupported (.decode e)
  | .core (e@(.eof ..)) => .custom .unexpectedEof (.decode e)
  | .core e => .custom .invalidData (.decode e)
  | .custom e => .custom .other (.message e)

def encodeIntoIoError (err : EncodeError) : IoError := .custom .other (.encode err)

/-- What a substream delivers to reads: its content, then its end (`ending = none`) or the error
that every further read fails with. -/
structure Incoming where
  content : List UInt8
  ending : Option IoError

/-- `io.take(limit).read_to_end(&mut vec)` of `futures`, one `poll_read` per entry of the
schedule. `Take` answers `Ok(0)` itself once the limit is used up, and otherwise reads at most
what is left of it; the substream hands over its next `n` bytes (at least one, and no more than
the schedule's entry, which stands for the buffer and the transport together allow), or `Ok(0)`
at its end, or its error. `read_to_end` returns at the first `Ok(0)` or error. `none` when the
schedule runs out first. -/
def readToEnd : Nat → Incoming → List ℕ+ → List UInt8 → Option (Except IoError (List UInt8))
  | _, _, [], _ => none
  | 0, _, _ :: _, vec => some (.ok vec)
  | _ + 1, ⟨[], none⟩, _ :: _, vec => some (.ok vec)
  | _ + 1, ⟨[], some e⟩, _ :: _, _ => some (.error e)
  | limit + 1, ⟨b :: bytes, ending⟩, n :: schedule, vec =>
    let k := min (min (n : Nat) (limit + 1)) (bytes.length + 1)
    readToEnd (limit + 1 - k) ⟨(b :: bytes).drop k, ending⟩ schedule (vec ++ (b :: bytes).take k)

/-- The body of `read_request` and `read_response`: read to the end of the substream or to `limit`
bytes, then decode what was read with `cbor4ii::serde::from_slice`, a parameter here, as the
encoder is for the writes. -/
def readLimited {α : Type} (fromSlice : List UInt8 → Except DecodeError α) (limit : UInt64)
    (io : Incoming) (schedule : List ℕ+) : Option (Except IoError α) :=
  (readToEnd limit.toNat io schedule []).map fun read =>
    read.bind fun vec => (fromSlice vec).mapError decodeIntoIoError

/-- What a substream does with one `poll_write`: take the first `n` bytes offered, or fail. -/
inductive WriteResult where
  | accepted (n : Nat)
  | failed (error : IoError)

/-- `io.write_all(data)` of `futures`: offer the rest of `data` while some is left, one
`poll_write` per entry of the schedule; a write that takes nothing fails with `WriteZero`.
Returns the outcome and the bytes the substream took; `none` when the schedule runs out first. -/
def writeAll : List UInt8 → List WriteResult → Option (Except IoError Unit × List UInt8)
  | [], _ => some (.ok (), [])
  | _ :: _, [] => none
  | _ :: _, .failed e :: _ => some (.error e, [])
  | data@(_ :: _), .accepted n :: schedule =>
    if n = 0 then some (.error (.simple .writeZero), [])
    else (writeAll (data.drop n) schedule).map fun (r, taken) => (r, data.take n ++ taken)

/-- The body of `write_request` and `write_response`: encode with `cbor4ii::serde::to_vec`, then
write the whole encoding. -/
def writeEncoded {α : Type} (toVec : α → Except EncodeError (List UInt8)) (value : α)
    (schedule : List WriteResult) : Option (Except IoError Unit × List UInt8) :=
  match toVec value with
  | .error e => some (.error (encodeIntoIoError e), [])
  | .ok data => writeAll data schedule

structure Codec (Req Resp : Type) where
  requestSizeMaximum : UInt64
  responseSizeMaximum : UInt64

namespace Codec

variable {Req Resp : Type}

def default : Codec Req Resp := ⟨1024 * 1024, 10 * 1024 * 1024⟩

def setRequestSizeMaximum (c : Codec Req Resp) (requestSizeMaximum : UInt64) : Codec Req Resp :=
  { c with requestSizeMaximum }

def setResponseSizeMaximum (c : Codec Req Resp) (responseSizeMaximum : UInt64) :
    Codec Req Resp :=
  { c with responseSizeMaximum }

def readRequest (c : Codec Req Resp) (fromSlice : List UInt8 → Except DecodeError Req)
    (io : Incoming) (schedule : List ℕ+) : Option (Except IoError Req) :=
  readLimited fromSlice c.requestSizeMaximum io schedule

def readResponse (c : Codec Req Resp) (fromSlice : List UInt8 → Except DecodeError Resp)
    (io : Incoming) (schedule : List ℕ+) : Option (Except IoError Resp) :=
  readLimited fromSlice c.responseSizeMaximum io schedule

def writeRequest (_ : Codec Req Resp) (toVec : Req → Except EncodeError (List UInt8)) (req : Req)
    (schedule : List WriteResult) : Option (Except IoError Unit × List UInt8) :=
  writeEncoded toVec req schedule

def writeResponse (_ : Codec Req Resp) (toVec : Resp → Except EncodeError (List UInt8))
    (resp : Resp) (schedule : List WriteResult) : Option (Except IoError Unit × List UInt8) :=
  writeEncoded toVec resp schedule

end Codec

/-- What a read limited to `limit` bytes ends with, whatever the chunks: the first `limit` bytes
when the substream has that many; otherwise its whole content when it ends cleanly, or the error
it ends with. -/
def received (limit : Nat) (io : Incoming) : Except IoError (List UInt8) :=
  if limit ≤ io.content.length then .ok (io.content.take limit)
  else match io.ending with
    | none => .ok io.content
    | some e => .error e

theorem received_drop (limit : Nat) (io : Incoming) {k : Nat} (hk : k ≤ limit)
    (hc : k ≤ io.content.length) :
    (received (limit - k) ⟨io.content.drop k, io.ending⟩).map (io.content.take k ++ ·) =
      received limit io := by
  obtain ⟨c, ending⟩ := io
  dsimp only at hc ⊢
  by_cases h : limit ≤ c.length
  · have h' : limit - k ≤ (c.drop k).length := by rw [List.length_drop]; omega
    have htake : c.take k ++ (c.drop k).take (limit - k) = c.take limit := by
      rw [← List.take_add, Nat.add_sub_cancel' hk]
    simp only [received, if_pos h, if_pos h', Except.map, htake]
  · have h' : ¬limit - k ≤ (c.drop k).length := by rw [List.length_drop]; omega
    simp only [received, if_neg h, if_neg h']
    cases ending <;> simp [Except.map]

theorem readToEnd_eq (limit : Nat) (io : Incoming) (schedule : List ℕ+) (vec : List UInt8) :
    readToEnd limit io schedule vec = some ((received limit io).map (vec ++ ·)) ∨
      readToEnd limit io schedule vec = none ∧ schedule.length ≤ min limit io.content.length := by
  induction limit, io, schedule, vec using readToEnd.induct with
  | case1 => simp [readToEnd]
  | case2 io n schedule vec => simp [readToEnd, received, Except.map]
  | case3 limit n schedule vec => simp [readToEnd, received, Except.map]
  | case4 limit e n schedule vec => simp [readToEnd, received, Except.map]
  | case5 limit b bytes ending n schedule vec k ih =>
    have hk : 0 < k ∧ k ≤ limit + 1 ∧ k ≤ bytes.length + 1 := by
      have := n.pos; simp only [k]; omega
    have hstep : readToEnd limit.succ ⟨b :: bytes, ending⟩ (n :: schedule) vec =
        readToEnd (limit + 1 - k) ⟨(b :: bytes).drop k, ending⟩ schedule
          (vec ++ (b :: bytes).take k) := rfl
    rw [hstep]
    clear_value k
    rcases ih with h | ⟨h, hlen⟩
    · left
      rw [h, ← received_drop (limit + 1) ⟨b :: bytes, ending⟩ hk.2.1 hk.2.2]
      cases received _ _ <;> simp [Except.map]
    · right
      simp only [List.length_cons, List.length_drop] at hlen ⊢
      exact ⟨h, by omega⟩

/-- However the substream splits its content into chunks, a limited read decodes the first
`limit` bytes when the substream has that many, its whole content when it ends cleanly before,
and fails with the substream's own error otherwise. It returns unless the schedule has no more
reads than the bytes it takes. -/
theorem readLimited_eq {α : Type} (fromSlice : List UInt8 → Except DecodeError α) (limit : UInt64)
    (io : Incoming) (schedule : List ℕ+) :
    readLimited fromSlice limit io schedule =
        some ((received limit.toNat io).bind fun vec => (fromSlice vec).mapError decodeIntoIoError) ∨
      readLimited fromSlice limit io schedule = none ∧
        schedule.length ≤ min limit.toNat io.content.length := by
  rcases readToEnd_eq limit.toNat io schedule [] with h | ⟨h, hlen⟩
  · left
    rw [readLimited, h]
    cases received _ _ <;> rfl
  · exact .inr ⟨by rw [readLimited, h]; rfl, hlen⟩

example : readLimited (fun s => .ok s) 2 ⟨[1, 2, 3], some (.transport 5)⟩ [1, 1, 1] =
    some (.ok [1, 2]) := rfl

theorem writeAll_taken {data : List UInt8} {schedule : List WriteResult}
    {r : Except IoError Unit} {taken : List UInt8} (h : writeAll data schedule = some (r, taken)) :
    taken.IsPrefix data ∧ (r = .ok () → taken = data) := by
  induction data, schedule using writeAll.induct generalizing r taken with
  | case1 => rw [writeAll] at h; cases h; exact ⟨List.prefix_refl _, fun _ => rfl⟩
  | case2 => cases h
  | case3 => rw [writeAll] at h; cases h; exact ⟨List.nil_prefix, nofun⟩
  | case4 => rw [writeAll, if_pos rfl] at h; cases h; exact ⟨List.nil_prefix, nofun⟩
  | case5 b bytes n schedule hn ih =>
    rw [writeAll, if_neg hn, Option.map_eq_some'] at h
    obtain ⟨⟨r', rest⟩, hrest, hpair⟩ := h
    cases hpair
    obtain ⟨hpre, hok⟩ := ih hrest
    refine ⟨?_, fun hr => ?_⟩
    · have h := (List.prefix_append_right_inj ((b :: bytes).take n)).mpr hpre
      rwa [List.take_append_drop] at h
    · rw [hok hr, List.take_append_drop]

theorem writeEncoded_taken {α : Type} {toVec : α → Except EncodeError (List UInt8)} {value : α}
    {data : List UInt8} (henc : toVec value = .ok data) {schedule : List WriteResult}
    {taken : List UInt8} (h : writeEncoded toVec value schedule = some (.ok (), taken)) :
    taken = data := by
  rw [writeEncoded, henc] at h
  exact (writeAll_taken h).2 rfl

theorem received_of_le {limit : Nat} {content : List UInt8} (h : content.length ≤ limit) :
    received limit ⟨content, none⟩ = .ok content := by
  unfold received
  split_ifs with hle
  · rw [List.take_of_length_le h]
  · rfl

/-- The round trip of the codec's test, for every way the substream splits the writes and the
reads: once the writer has closed its side, the reader returns the value whose encoding was
written, provided the encoding fits the reader's limit and decodes to the value. -/
theorem write_read_round_trip {α : Type} {toVec : α → Except EncodeError (List UInt8)}
    {fromSlice : List UInt8 → Except DecodeError α} {value : α} {data : List UInt8}
    (henc : toVec value = .ok data) (hdec : fromSlice data = .ok value)
    {limit : UInt64} (hfit : data.length ≤ limit.toNat)
    {writes : List WriteResult} {taken : List UInt8}
    (hw : writeEncoded toVec value writes = some (.ok (), taken))
    {reads : List ℕ+} (hr : data.length < reads.length) :
    readLimited fromSlice limit ⟨taken, none⟩ reads = some (.ok value) := by
  obtain rfl := writeEncoded_taken henc hw
  rcases readToEnd_eq limit.toNat ⟨taken, none⟩ reads [] with h | ⟨-, hlen⟩
  · rw [readLimited, h, received_of_le hfit]
    simp only [Except.map, Option.map_some', List.nil_append, Except.bind, hdec, Except.mapError]
  · simp only at hlen
    omega

theorem write_read_round_trip_split :
    writeEncoded (fun s : List UInt8 => .ok s) [1, 2, 3] [.accepted 2, .accepted 5] =
        some (.ok (), [1, 2, 3]) ∧
      readLimited (fun s => .ok s) 1024 ⟨[1, 2, 3], none⟩ [1, 1, 1, 1] = some (.ok [1, 2, 3]) :=
  have hw : writeEncoded (fun s : List UInt8 => .ok s) [1, 2, 3] [.accepted 2, .accepted 5] =
      some (.ok (), [1, 2, 3]) := rfl
  ⟨hw, write_read_round_trip rfl rfl (by decide) hw (by decide)⟩

end Libp2p.RequestResponse.Cbor
