import ProxyTunnels.Http3.SafeScan

/-! Reading a response made of DATA frames, whatever their lengths and deliveries.

A reader is followed by its position in the list of frames: the rest of the payload it
is in and the frames after it. An empty DATA frame looks to the adapter like the end of
the data, so the frames after one are refused; with none after it, it is harmless.
-/

set_option autoImplicit false

namespace ProxyTunnels.Http3
open Machine

/-- A DATA frame as it travels. Type and length may use any of their encodings. -/
structure DataFrame where
  ty : List UInt8
  len : List UInt8
  payload : List UInt8
  isData : Encodes ty 0x0
  counted : Encodes len payload.length

def DataFrame.bytes (frame : DataFrame) : List UInt8 := frame.ty ++ (frame.len ++ frame.payload)

def wireBytes (frames : List DataFrame) : List UInt8 := frames.flatMap DataFrame.bytes

def content (frames : List DataFrame) : List UInt8 := frames.flatMap DataFrame.payload

def OnlyLastEmpty : List DataFrame → Prop
  | [] => True
  | frame :: rest => (rest = [] ∨ frame.payload ≠ []) ∧ OnlyLastEmpty rest

theorem DataFrame.decode (frame : DataFrame) (more : List UInt8) :
    Frame.decode (frame.bytes ++ more) =
      .frame (.data frame.payload.length) (frame.payload ++ more) := by
  unfold Frame.decode DataFrame.bytes
  rw [List.append_assoc, frame.isData.getVar_append, List.append_assoc]
  simp only [Nat.reduceEqDiff, if_false, if_true, frame.counted.getVar_append]

theorem wireBytes_cons (frame : DataFrame) (rest : List DataFrame) :
    wireBytes (frame :: rest) = frame.bytes ++ wireBytes rest := List.flatMap_cons

theorem content_cons (frame : DataFrame) (rest : List DataFrame) :
    content (frame :: rest) = frame.payload ++ content rest := List.flatMap_cons

theorem decode_wireBytes_cons (frame : DataFrame) (rest : List DataFrame) :
    Frame.decode (wireBytes (frame :: rest)) =
      .frame (.data frame.payload.length) (frame.payload ++ wireBytes rest) := by
  rw [wireBytes_cons]
  exact frame.decode _

theorem skip_wireBytes {frames : List DataFrame} {rest : List UInt8}
    (skipped : Skip (wireBytes frames) rest) : rest = wireBytes frames := by
  cases skipped with
  | refl => rfl
  | unknown passed _ =>
    cases frames with
    | nil => cases passed
    | cons frame frames =>
      rw [decode_wireBytes_cons] at passed
      cases passed

section Streams
variable {stream : FrameStream}

structure FrameStream.Intact (stream : FrameStream) : Prop where
  sound : stream.Sound
  reset : stream.recv.reset = false

theorem FrameStream.Intact.keeps {next : FrameStream} (intact : stream.Intact) (sound : next.Sound)
    (kept : stream.Keeps next) : next.Intact :=
  ⟨sound, kept.reset.trans intact.reset⟩

/-- How `poll_next` goes at a boundary between DATA frames. -/
inductive BoundaryResult (stream next : FrameStream) (frames : List DataFrame) :
    Polled (Option Frame) → Prop where
  | pending : stream.recv.fin = false → next.remainingData = 0 → next.unread = wireBytes frames →
      BoundaryResult stream next frames .pending
  | ended : frames = [] → next.remainingData = 0 → next.unread = [] →
      BoundaryResult stream next frames (.ready none)
  | frame {frame : DataFrame} {rest : List DataFrame} : frames = frame :: rest →
      next.remainingData = frame.payload.length → next.unread = frame.payload ++ wireBytes rest →
      BoundaryResult stream next frames (.ready (some (.data frame.payload.length)))

theorem FrameStream.Intact.pollNext (intact : stream.Intact) (empty : stream.remainingData = 0)
    {frames : List DataFrame} (here : stream.unread = wireBytes frames) :
    BoundaryResult stream stream.pollNext.2 frames stream.pollNext.1 ∧ stream.pollNext.2.Intact ∧
      stream.Keeps stream.pollNext.2 := by
  obtain ⟨held, sound, kept⟩ := stream.pollNext_spec intact.sound empty
  refine ⟨?_, intact.keeps sound kept, kept⟩
  rcases polling : stream.pollNext with ⟨polled, next⟩
  rw [polling] at held sound kept
  dsimp only at held sound kept ⊢
  -- a settled failure or an unfinished frame cannot stand where a DATA frame stands
  have unsettled : ∀ decoded, Frame.decode (wireBytes frames) = decoded →
      decoded ≠ .incomplete 1 → ∃ frame rest, frames = frame :: rest := by
    intro decoded same differs
    cases frames with
    | nil => exact absurd same.symm differs
    | cons frame rest => exact ⟨frame, rest, rfl⟩
  cases held with
  | pending skipped nothing unended =>
    rw [here] at skipped
    exact .pending unended nothing (skip_wireBytes skipped)
  | reset _ _ broken => exact absurd (intact.reset.symm.trans broken) (by simp)
  | proto skipped _ fails =>
    rw [here] at skipped
    rw [skip_wireBytes skipped] at fails
    obtain ⟨frame, rest, rfl⟩ := unsettled _ fails (by simp)
    rw [decode_wireBytes_cons] at fails
    cases fails
  | truncated skipped _ waits some =>
    rw [here] at skipped
    have same := skip_wireBytes skipped
    rw [same] at waits some
    cases frames with
    | nil => exact absurd rfl some
    | cons frame rest =>
      rw [decode_wireBytes_cons] at waits
      cases waits
  | ended skipped nothing drained =>
    rw [here] at skipped
    have same := skip_wireBytes skipped
    rw [drained] at same
    cases frames with
    | nil => exact .ended rfl nothing drained
    | cons frame rest =>
      have decoded := decode_wireBytes_cons frame rest
      rw [← same] at decoded
      cases decoded
  | frame skipped found left =>
    rw [here] at skipped
    rw [skip_wireBytes skipped] at found
    obtain ⟨frame, rest, rfl⟩ := unsettled _ found (by simp)
    rw [decode_wireBytes_cons] at found
    obtain ⟨rfl, unread⟩ := Decoded.frame.inj found
    exact .frame rfl left unread.symm

/-- How `poll_data` goes inside a payload that is all there or still to come. -/
inductive PayloadResult (stream next : FrameStream) (left after : List UInt8) :
    Polled (Option (List UInt8)) → Prop where
  | pending : stream.recv.fin = false → next.remainingData = left.length → next.unread = left ++ after →
      PayloadResult stream next left after .pending
  | chunk {data rest : List UInt8} : data ≠ [] → left = data ++ rest →
      next.remainingData = rest.length → next.unread = rest ++ after →
      PayloadResult stream next left after (.ready (some data))

theorem FrameStream.Intact.pollData (intact : stream.Intact) {left after : List UInt8}
    (some : left ≠ []) (counted : stream.remainingData = left.length)
    (here : stream.unread = left ++ after) :
    PayloadResult stream stream.pollData.2 left after stream.pollData.1 ∧ stream.pollData.2.Intact ∧
      stream.Keeps stream.pollData.2 := by
  have positive := List.length_pos_iff.mpr some
  obtain ⟨held, sound, kept⟩ := stream.pollData_spec intact.sound (by omega)
  refine ⟨?_, intact.keeps sound kept, kept⟩
  rcases polling : stream.pollData with ⟨polled, next⟩
  rw [polling] at held sound kept
  dsimp only at held sound kept ⊢
  cases held with
  | pending same data unended => exact .pending unended (data.trans counted) (same.trans here)
  | reset _ _ broken => exact absurd (intact.reset.symm.trans broken) (by simp)
  | truncated _ _ _ short =>
    rw [here, List.length_append] at short
    omega
  | ended nothing _ _ =>
    rw [here] at nothing
    exact absurd (List.append_eq_nil_iff.mp nothing).1 some
  | @chunk data nonempty bounded taken fewer =>
    rw [counted] at bounded fewer
    rw [here] at taken
    have front : left.take data.length = data := by
      have cut := congrArg (List.take data.length) taken
      rwa [List.take_append_of_le_length bounded, List.take_left] at cut
    have back : left.drop data.length ++ after = next.unread := by
      have cut := congrArg (List.drop data.length) taken
      rwa [List.drop_append_of_le_length bounded, List.drop_left] at cut
    refine @PayloadResult.chunk _ _ _ _ data (left.drop data.length) nonempty ?_ ?_ back.symm
    · nth_rewrite 1 [← List.take_append_drop data.length left]
      rw [front]
    · rw [fewer, List.length_drop]

end Streams

theorem onlyLastEmpty_cons {frame : DataFrame} {rest : List DataFrame} (some : frame.payload ≠ []) :
    OnlyLastEmpty (frame :: rest) ↔ OnlyLastEmpty rest :=
  ⟨And.right, fun held => ⟨Or.inr some, held⟩⟩

theorem onlyLastEmpty_empty {frame : DataFrame} {rest : List DataFrame} (nothing : frame.payload = []) :
    OnlyLastEmpty (frame :: rest) ↔ rest = [] := by
  constructor
  · rintro ⟨last | some, -⟩
    · exact last
    · exact absurd nothing some
  · rintro rfl
    exact ⟨Or.inl rfl, trivial⟩

section Requests
variable {request : RequestStream}

/-- Between two frames or inside one: `left` of its payload, then the frames `rest`. -/
structure RequestStream.At (request : RequestStream) (left : List UInt8) (rest : List DataFrame) :
    Prop where
  intact : request.stream.Intact
  noTrailers : request.trailers = none
  counted : request.stream.remainingData = left.length
  unread : request.stream.unread = left ++ wireBytes rest

/-- How `poll_recv_data` goes among DATA frames. -/
inductive DataAnswer (request next : RequestStream) (left : List UInt8) (rest : List DataFrame) :
    Answer (Option (List UInt8)) → Prop where
  | pending {left' : List UInt8} {rest' : List DataFrame} : request.stream.recv.fin = false →
      next.At left' rest' → left ++ content rest = left' ++ content rest' →
      (OnlyLastEmpty rest' ↔ OnlyLastEmpty rest) → DataAnswer request next left rest .pending
  | chunk {data left' : List UInt8} {rest' : List DataFrame} : data ≠ [] → next.At left' rest' →
      left ++ content rest = data ++ (left' ++ content rest') →
      (OnlyLastEmpty rest' ↔ OnlyLastEmpty rest) → DataAnswer request next left rest (.ready (some data))
  | ending {rest' : List DataFrame} : next.At [] rest' → left ++ content rest = content rest' →
      (rest' = [] ↔ OnlyLastEmpty rest) → DataAnswer request next left rest (.ready none)

theorem RequestStream.At.pollPayload {left : List UInt8} {rest : List DataFrame}
    (place : request.At left rest) (some : left ≠ []) :
    DataAnswer request request.pollPayload.2 left rest request.pollPayload.1 ∧
      request.stream.Keeps request.pollPayload.2.stream := by
  obtain ⟨held, intact, kept⟩ := place.intact.pollData some place.counted place.unread
  unfold RequestStream.pollPayload
  rcases polling : request.stream.pollData with ⟨polled, next⟩
  rw [polling] at held intact kept
  cases held with
  | pending unended counted unread =>
    exact ⟨.pending unended ⟨intact, place.noTrailers, counted, unread⟩ rfl Iff.rfl, kept⟩
  | @chunk data tail nonempty split counted unread =>
    refine ⟨.chunk nonempty ⟨intact, place.noTrailers, counted, unread⟩ ?_ Iff.rfl, kept⟩
    rw [split, List.append_assoc]

theorem RequestStream.At.pollRecvData {left : List UInt8} {rest : List DataFrame}
    (place : request.At left rest) :
    DataAnswer request request.pollRecvData.2 left rest request.pollRecvData.1 ∧
      request.stream.Keeps request.pollRecvData.2.stream := by
  unfold RequestStream.pollRecvData
  by_cases some : left ≠ []
  · have outstanding : request.stream.remainingData ≠ 0 := by
      rw [place.counted]
      exact fun zero => some (List.eq_nil_of_length_eq_zero zero)
    rw [if_pos outstanding]
    exact place.pollPayload some
  · have nothing : left = [] := not_ne_iff.mp some
    subst nothing
    have empty : request.stream.remainingData = 0 := place.counted
    rw [if_neg (by simp [empty])]
    obtain ⟨held, intact, kept⟩ := place.intact.pollNext empty place.unread
    rcases polling : request.stream.pollNext with ⟨polled, next⟩
    rw [polling] at held intact kept
    dsimp only at held intact kept
    cases held with
    | pending unended nothing unread =>
      have there : RequestStream.At { request with stream := next } [] rest :=
        ⟨intact, place.noTrailers, nothing, unread⟩
      exact ⟨.pending unended there rfl Iff.rfl, kept⟩
    | ended none' nothing unread =>
      subst none'
      have there : RequestStream.At { request with stream := next } [] [] :=
        ⟨intact, place.noTrailers, nothing, unread⟩
      exact ⟨.ending there rfl ⟨fun _ => trivial, fun _ => rfl⟩, kept⟩
    | @frame frame tail split counted unread =>
      subst split
      have there : RequestStream.At { request with stream := next } frame.payload tail :=
        ⟨intact, place.noTrailers, counted, unread⟩
      by_cases full : frame.payload ≠ []
      · obtain ⟨answered, keptPayload⟩ := there.pollPayload full
        refine ⟨?_, kept.trans keptPayload⟩
        have opened : [] ++ content (frame :: tail) = frame.payload ++ content tail := content_cons ..
        dsimp only [RequestStream.onFrame]
        rcases outcome : RequestStream.pollPayload { request with stream := next } with ⟨answer, last⟩
        rw [outcome] at answered
        cases answered with
        | pending unended place' same only =>
          exact .pending (kept.fin ▸ unended) place' (opened.trans same) (only.trans (onlyLastEmpty_cons full).symm)
        | chunk nonempty place' same only =>
          exact .chunk nonempty place' (opened.trans same) (only.trans (onlyLastEmpty_cons full).symm)
        | ending place' same only => exact .ending place' (opened.trans same) (only.trans (onlyLastEmpty_cons full).symm)
      · -- an empty DATA frame is answered like the end of the data
        have hollow : frame.payload = [] := not_ne_iff.mp full
        have zero : next.remainingData = 0 := by rw [counted, hollow]; rfl
        have outcome : RequestStream.pollPayload { request with stream := next } =
            (.ready none, { request with stream := next }) := by
          simp [RequestStream.pollPayload, FrameStream.pollData, zero]
        dsimp only [RequestStream.onFrame]
        rw [outcome]
        rw [hollow] at there
        refine ⟨.ending there ?_ (onlyLastEmpty_empty hollow).symm, kept⟩
        rw [content_cons, hollow]
        rfl

/-- How `poll_recv_trailers` goes where only DATA frames are left. -/
inductive TrailersAnswer (request next : RequestStream) (rest : List DataFrame) :
    Answer (Option (List UInt8)) → Prop where
  | pending : request.stream.recv.fin = false → next.At [] rest → TrailersAnswer request next rest .pending
  | ended : rest = [] → next.At [] [] → TrailersAnswer request next rest (.ready none)
  | refused {error : StreamError} : rest ≠ [] → TrailersAnswer request next rest (.failed error)

theorem RequestStream.At.pollRecvTrailers {rest : List DataFrame} (place : request.At [] rest)
    (decodeFields : List UInt8 → Bool) :
    TrailersAnswer request (request.pollRecvTrailers decodeFields).2 rest
        (request.pollRecvTrailers decodeFields).1 ∧
      request.stream.Keeps (request.pollRecvTrailers decodeFields).2.stream ∧
      (request.pollRecvTrailers decodeFields).2.stream.Intact := by
  obtain ⟨held, intact, kept⟩ := place.intact.pollNext place.counted place.unread
  unfold RequestStream.pollRecvTrailers
  rw [place.noTrailers]
  rcases polling : request.stream.pollNext with ⟨polled, next⟩
  rw [polling] at held intact kept
  dsimp only at held intact kept
  cases held with
  | pending unended nothing unread => exact ⟨.pending unended ⟨intact, rfl, nothing, unread⟩, kept, intact⟩
  | ended none' nothing unread => exact ⟨.ended none' ⟨intact, rfl, nothing, unread⟩, kept, intact⟩
  | frame split _ _ => exact ⟨.refused (by simp [split]), kept, intact⟩

end Requests

section Readers
variable {frames : List DataFrame} {out : List UInt8} {reader : Reader}

/-- Where a reader of `frames` stands that has handed out `out` so far. -/
inductive Position (frames : List DataFrame) (out : List UInt8) (reader : Reader) : Prop where
  | data {left : List UInt8} {rest : List DataFrame} : reader.trailers = false → reader.eof = false →
      reader.receive.At left rest →
      content frames = out ++ (reader.buffered ++ (left ++ content rest)) →
      (OnlyLastEmpty rest ↔ OnlyLastEmpty frames) → Position frames out reader
  | ending {rest : List DataFrame} : reader.trailers = true → reader.buffered = [] →
      reader.receive.At [] rest → content frames = out ++ content rest →
      (rest = [] ↔ OnlyLastEmpty frames) → (reader.eof = true → rest = []) →
      Position frames out reader

theorem Position.intact (place : Position frames out reader) : reader.receive.stream.Intact := by
  cases place with
  | data _ _ place _ _ => exact place.intact
  | ending _ _ place _ _ _ => exact place.intact

def Reader.need (reader : Reader) : Nat :=
  if reader.trailers || !reader.buffered.isEmpty then 1 else 2

inductive Advance (frames : List DataFrame) (out : List UInt8) (reader next : Reader) (rounds : Nat) :
    ReadResult → Prop where
  | pending : Position frames out next → next.eof = false →
      (reader.receive.stream.recv.fin = true → rounds < reader.need) →
      Advance frames out reader next rounds .pending
  | failed {error : ReadError} : ¬ OnlyLastEmpty frames → Advance frames out reader next rounds (.failed error)
  | bytes {bytes : List UInt8} : bytes ≠ [] → Position frames (out ++ bytes) next → next.eof = false →
      Advance frames out reader next rounds (.ready bytes)
  | ended : Position frames out next → next.eof = true → Advance frames out reader next rounds (.ready [])

theorem Advance.after {middle final : Reader} {rounds : Nat} {result : ReadResult}
    (held : Advance frames out middle final rounds result)
    (kept : reader.receive.stream.Keeps middle.receive.stream) (need : middle.need < reader.need) :
    Advance frames out reader final (rounds + 1) result := by
  cases held with
  | pending place going bound =>
    refine .pending place going ?_
    intro ended
    have fewer := bound (kept.fin.trans ended)
    omega
  | failed bad => exact .failed bad
  | bytes nonempty place going => exact .bytes nonempty place going
  | ended place eof => exact .ended place eof

theorem Position.readLoop (place : Position frames out reader) (going : reader.eof = false)
    (decodeFields : List UInt8 → Bool) {size : Nat} (room : 0 < size) (rounds : Nat) :
    Advance frames out reader (reader.readLoop decodeFields size rounds).2 rounds
        (reader.readLoop decodeFields size rounds).1 ∧
      reader.receive.stream.Keeps (reader.readLoop decodeFields size rounds).2.receive.stream := by
  induction rounds generalizing reader with
  | zero =>
    refine ⟨.pending place going ?_, .refl _⟩
    intro _
    unfold Reader.need
    split <;> omega
  | succ rounds ih =>
    unfold Reader.readLoop
    cases place with
    | @data left rest phase going place same only =>
      by_cases full : (!reader.buffered.isEmpty) = true
      · rw [if_pos full]
        have nonempty : reader.buffered ≠ [] := by simpa using full
        refine ⟨.bytes ?_ ?_ going, .refl _⟩
        · intro nothing
          rcases List.take_eq_nil_iff.mp nothing with zero | empty
          · omega
          · exact nonempty empty
        · refine .data phase going place ?_ only
          rw [same, List.append_assoc, ← List.append_assoc (List.take _ _), List.take_append_drop]
      · rw [if_neg full, if_neg (by simp [phase])]
        have drained : reader.buffered = [] := by simpa using full
        rw [drained, List.nil_append] at same
        obtain ⟨answered, kept⟩ := place.pollRecvData
        rcases polling : reader.receive.pollRecvData with ⟨answer, next⟩
        rw [polling] at answered kept
        dsimp only at answered kept
        cases answered with
        | pending unended place' left' only' =>
          refine ⟨.pending (.data phase going place' ?_ (only'.trans only)) going ?_, kept⟩
          · change content frames = out ++ (reader.buffered ++ _)
            rw [same, left', drained, List.nil_append]
          · intro ended
            exact absurd (unended.symm.trans ended) (by simp)
        | @chunk data left' rest' nonempty place' left'' only' =>
          have moved : Position frames out ⟨next, data, reader.trailers, reader.eof⟩ :=
            .data phase going place' (by rw [same, left'']) (only'.trans only)
          obtain ⟨advanced, keptLast⟩ := ih moved going
          refine ⟨advanced.after kept ?_, kept.trans keptLast⟩
          simp [Reader.need, phase, drained, nonempty]
        | @ending rest' place' left' last =>
          have moved : Position frames out ⟨next, reader.buffered, true, reader.eof⟩ := by
            refine .ending rfl drained place' (by rw [same, left']) (last.trans only) ?_
            intro eof
            exact absurd (going.symm.trans eof) (by simp)
          obtain ⟨advanced, keptLast⟩ := ih moved going
          refine ⟨advanced.after kept ?_, kept.trans keptLast⟩
          simp [Reader.need, phase, drained]
    | @ending rest phase drained place same last _ =>
      rw [if_neg (by simp [drained]), if_pos phase]
      obtain ⟨answered, kept, _⟩ := place.pollRecvTrailers decodeFields
      rcases polling : reader.receive.pollRecvTrailers decodeFields with ⟨answer, next⟩
      rw [polling] at answered kept
      dsimp only at answered kept
      cases answered with
      | pending unended place' =>
        refine ⟨.pending (.ending phase drained place' same last ?_) going ?_, kept⟩
        · intro eof
          exact absurd (going.symm.trans eof) (by simp)
        · intro ended
          exact absurd (unended.symm.trans ended) (by simp)
      | ended none' place' =>
        subst none'
        exact ⟨.ended (.ending phase drained place' same last fun _ => rfl) rfl, kept⟩
      | refused some => exact ⟨.failed fun only => some (last.mpr only), kept⟩

theorem Position.pollRead (place : Position frames out reader) (decodeFields : List UInt8 → Bool)
    {size : Nat} (room : 0 < size) :
    Advance frames out reader (reader.pollRead decodeFields size false).2 32
        (reader.pollRead decodeFields size false).1 ∧
      reader.receive.stream.Keeps (reader.pollRead decodeFields size false).2.receive.stream := by
  unfold Reader.pollRead
  rw [if_neg (by omega), if_neg (by simp)]
  by_cases eof : reader.eof = true
  · rw [if_pos eof]
    exact ⟨.ended place eof, .refl _⟩
  · rw [if_neg eof]
    exact place.readLoop (by simpa using eof) decodeFields room 32

end Readers

section Runs
variable {frames : List DataFrame} {reading next : Reading} {decodeFields : List UInt8 → Bool}

def output (log : List (Nat × ReadResult)) : List UInt8 :=
  log.flatMap fun entry => match entry.2 with
    | .ready bytes => bytes
    | _ => []

theorem output_concat (log : List (Nat × ReadResult)) (size : Nat) (result : ReadResult) :
    output (log ++ [(size, result)]) = output log ++ output [(size, result)] := List.flatMap_append

def Undisturbed (_ : Reading) : ReadAction → Prop
  | .reset => False
  | .poll _ stopped => stopped = false
  | _ => True

def ReportsEnd (log : List (Nat × ReadResult)) : Prop := ∃ size, 0 < size ∧ (size, .ready []) ∈ log

def ReportsError (log : List (Nat × ReadResult)) : Prop := ∃ size error, (size, .failed error) ∈ log

structure OnCourse (frames : List DataFrame) (reading : Reading) : Prop where
  clean : ¬ ReportsError reading.log
  place : Position frames (output reading.log) reading.reader
  eof : ReportsEnd reading.log → reading.reader.eof = true

def Tracks (frames : List DataFrame) (reading : Reading) : Prop :=
  (ReportsError reading.log ∧ ¬ OnlyLastEmpty frames) ∨ OnCourse frames reading

theorem RequestStream.At.setRecv {request : RequestStream} {left : List UInt8} {rest : List DataFrame}
    {recv : RecvStream} (place : request.At left rest) (arrives : request.stream.recv.Arrives recv)
    (reset : recv.reset = false) :
    RequestStream.At { request with stream := { request.stream with recv } } left rest := by
  refine ⟨⟨place.intact.sound.setRecv arrives, reset⟩, place.noTrailers, place.counted, ?_⟩
  rw [← place.unread]
  exact congrArg (request.stream.buf.flatten ++ ·) arrives.unread

theorem Position.setRecv {out : List UInt8} {reader : Reader} {recv : RecvStream}
    (place : Position frames out reader) (arrives : reader.receive.stream.recv.Arrives recv)
    (reset : recv.reset = false) : Position frames out (reader.setRecv recv) := by
  cases place with
  | data phase going place same only => exact .data phase going (place.setRecv arrives reset) same only
  | ending phase drained place same last eof =>
    exact .ending phase drained (place.setRecv arrives reset) same last eof

theorem not_reportsError_concat {log : List (Nat × ReadResult)} {size : Nat} {result : ReadResult}
    (clean : ¬ ReportsError log) (fine : ∀ error, result ≠ .failed error) :
    ¬ ReportsError (log ++ [(size, result)]) := by
  rintro ⟨other, error, member⟩
  rcases List.mem_append.mp member with old | new
  · exact clean ⟨other, error, old⟩
  · have same := List.mem_singleton.mp new
    cases same
    exact fine error rfl

theorem reportsEnd_concat {log : List (Nat × ReadResult)} {size : Nat} {result : ReadResult}
    (ended : ReportsEnd (log ++ [(size, result)])) :
    ReportsEnd log ∨ (0 < size ∧ result = .ready []) := by
  obtain ⟨other, room, member⟩ := ended
  rcases List.mem_append.mp member with old | new
  · exact Or.inl ⟨other, room, old⟩
  · have same := List.mem_singleton.mp new
    cases same
    exact Or.inr ⟨room, rfl⟩

theorem ReportsError.mono {log : List (Nat × ReadResult)} (reported : ReportsError log)
    (more : List (Nat × ReadResult)) : ReportsError (log ++ more) := by
  obtain ⟨size, error, member⟩ := reported
  exact ⟨size, error, List.mem_append_left _ member⟩

theorem Reader.pollRead_eof {reader : Reader} (eof : reader.eof = true) (size : Nat) :
    reader.pollRead decodeFields size false = (.ready [], reader) := by
  unfold Reader.pollRead
  simp [eof]

theorem OnCourse.afterEnd (course : OnCourse frames reading) {reader : Reader} (size : Nat)
    (place : Position frames (output reading.log) reader) (eof : 0 < size → reader.eof = true)
    (stays : reading.reader.eof = true → reader.eof = true) :
    OnCourse frames ⟨reader, reading.log ++ [(size, .ready [])]⟩ := by
  refine ⟨not_reportsError_concat course.clean (by simp), ?_, ?_⟩
  · rw [output_concat]
    simpa [output] using place
  · intro ended
    rcases reportsEnd_concat ended with earlier | ⟨room, -⟩
    · exact stays (course.eof earlier)
    · exact eof room

/-- A poll with room keeps the reader on course, or reports the error it runs into. With
every byte and the FIN there it hands out a byte or reports the end. -/
theorem OnCourse.poll (course : OnCourse frames reading) {size : Nat} (room : 0 < size)
    (taken : reading.step decodeFields (.poll size false) = .next next) :
    Tracks frames next ∧ next.reader.receive.stream.recv.fin = reading.reader.receive.stream.recv.fin ∧
      (reading.reader.receive.stream.recv.fin = true → OnCourse frames next →
        ReportsEnd next.log ∨ (output reading.log).length < (output next.log).length) := by
  rw [Reading.step_poll taken]
  have last : ∀ result, (size, result) ∈ reading.log ++ [(size, result)] := fun result =>
    List.mem_append_right _ (List.mem_singleton_self _)
  by_cases eof : reading.reader.eof = true
  · rw [Reader.pollRead_eof eof]
    exact ⟨Or.inr (course.afterEnd size course.place (fun _ => eof) id), rfl,
      fun _ _ => Or.inl ⟨size, room, last _⟩⟩
  · have notEnded : ¬ ReportsEnd reading.log := fun ended => eof (course.eof ended)
    obtain ⟨advanced, kept⟩ := course.place.pollRead decodeFields room
    rcases polling : reading.reader.pollRead decodeFields size false with ⟨result, reader⟩
    rw [polling] at advanced kept
    dsimp only at advanced kept ⊢
    refine ⟨?_, kept.fin, ?_⟩
    · cases advanced with
      | pending place going bound =>
        refine Or.inr ⟨not_reportsError_concat course.clean (by simp), ?_, ?_⟩
        · rw [output_concat]
          simpa [output] using place
        · intro ended
          rcases reportsEnd_concat ended with earlier | ⟨-, impossible⟩
          · exact absurd earlier notEnded
          · cases impossible
      | failed bad => exact Or.inl ⟨⟨size, _, last _⟩, bad⟩
      | bytes nonempty place going =>
        refine Or.inr ⟨not_reportsError_concat course.clean (by simp), ?_, ?_⟩
        · rw [output_concat]
          simpa [output] using place
        · intro ended
          rcases reportsEnd_concat ended with earlier | ⟨-, nothing⟩
          · exact absurd earlier notEnded
          · exact absurd (ReadResult.ready.inj nothing) nonempty
      | ended place eof' =>
        exact Or.inr (course.afterEnd size place (fun _ => eof') fun _ => eof')
    · intro complete after
      cases advanced with
      | pending place going bound =>
        -- Two rounds are enough, and a poll has 32.
        have few := bound complete
        have most : reading.reader.need ≤ 2 := by
          unfold Reader.need
          split <;> omega
        omega
      | failed bad => exact absurd ⟨size, _, last _⟩ after.clean
      | bytes nonempty place going =>
        right
        rw [output_concat, List.length_append]
        have positive := List.length_pos_iff.mpr nonempty
        simpa [output] using positive
      | ended place eof' => exact Or.inl ⟨size, room, last _⟩

theorem Tracks.step (tracks : Tracks frames reading) {action : ReadAction}
    (undisturbed : Undisturbed reading action)
    (taken : reading.step decodeFields action = .next next) : Tracks frames next := by
  rcases tracks with ⟨reported, bad⟩ | course
  · refine Or.inl ⟨?_, bad⟩
    by_cases polls : ∃ size stopped, action = .poll size stopped
    · obtain ⟨size, stopped, rfl⟩ := polls
      rw [Reading.step_poll taken]
      exact reported.mono _
    · obtain ⟨recv, -, rfl⟩ := Reading.step_arrives (fun size stopped same => polls ⟨size, stopped, same⟩) taken
      exact reported
  · have network : ∀ recv : RecvStream, reading.reader.receive.stream.recv.Arrives recv → recv.reset = false →
        Tracks frames { reading with reader := reading.reader.setRecv recv } :=
      fun recv arrives reset => Or.inr ⟨course.clean, course.place.setRecv arrives reset, course.eof⟩
    have reset := course.place.intact.reset
    cases action with
    | deliver count =>
      obtain ⟨within, same⟩ := Outcome.guarded_eq_next.mp taken
      cases same
      have bounds := of_decide_eq_true within
      exact network _ (RecvStream.arrives_deliver bounds.1 bounds.2) reset
    | finish =>
      obtain ⟨all, same⟩ := Outcome.guarded_eq_next.mp taken
      cases same
      exact network _ (RecvStream.arrives_finish (List.isEmpty_iff.mp all)) reset
    | reset => exact undisturbed.elim
    | poll size stopped =>
      change stopped = false at undisturbed
      subst undisturbed
      by_cases room : 0 < size
      · exact (course.poll room taken).1
      · rw [Reading.step_poll taken]
        have zero : size = 0 := by omega
        subst zero
        exact Or.inr (course.afterEnd 0 course.place (by simp) id)

theorem Tracks.run (tracks : Tracks frames reading) {actions : List ReadAction}
    (run : RunWhile (Reading.step decodeFields) Undisturbed reading actions next) : Tracks frames next :=
  RunWhile.preserves (fun _ _ _ held undisturbed taken => Tracks.step held undisturbed taken) run tracks

theorem Tracks.start {early : List (List UInt8)} {incoming : List UInt8}
    (nonempty : ∀ chunk ∈ early, chunk ≠ []) (whole : early.flatten ++ incoming = wireBytes frames) :
    Tracks frames (Reading.start early incoming) := by
  have place : (Reading.start early incoming).reader.receive.At [] frames :=
    ⟨⟨Reading.start_sound nonempty incoming, rfl⟩, rfl, rfl, by simpa [FrameStream.unread, RecvStream.unread, Reading.start] using whole⟩
  refine Or.inr ⟨?_, .data rfl rfl place ?_ Iff.rfl, ?_⟩
  · rintro ⟨size, error, member⟩
    cases member
  · simp [output, Reading.start]
  · rintro ⟨size, room, member⟩
    cases member

theorem safeData_wireBytes (frames : List DataFrame) (only : OnlyLastEmpty frames) :
    SafeData (wireBytes frames) := by
  induction frames with
  | nil => exact .waiting rfl
  | cons frame rest ih =>
    obtain ⟨last, only⟩ := only
    rw [safeData_frame (decode_wireBytes_cons frame rest), SafeBehind]
    by_cases empty : frame.payload = []
    · have none' : rest = [] := last.resolve_right (fun some => some empty)
      subst none'
      simp only [Frame.endsData, empty, List.length_nil, BEq.rfl, if_true, List.nil_append]
      exact .waiting rfl
    · have ends : (Frame.data frame.payload.length).endsData = false := by
        simpa [Frame.endsData] using empty
      rw [ends]
      refine ⟨?_, ?_⟩
      · simp [Frame.remaining]
      · simpa [Frame.remaining] using ih only

theorem OnlyLastEmpty.onCourse (only : OnlyLastEmpty frames) (tracks : Tracks frames reading) :
    OnCourse frames reading :=
  tracks.resolve_left fun failed => failed.2 only

theorem OnCourse.sub (course : OnCourse frames reading) : output reading.log <+: content frames := by
  cases course.place with
  | data _ _ _ same _ => exact ⟨_, same.symm⟩
  | ending _ _ _ same _ _ => exact ⟨_, same.symm⟩

theorem OnCourse.atEnd (course : OnCourse frames reading) (ended : ReportsEnd reading.log) :
    output reading.log = content frames ∧ OnlyLastEmpty frames := by
  have eof := course.eof ended
  cases course.place with
  | data _ going _ _ _ => exact absurd (going.symm.trans eof) (by simp)
  | ending _ _ _ same last finished =>
    have all := finished eof
    subst all
    exact ⟨by simpa [content] using same.symm, last.mp rfl⟩

theorem Reading.poll_returns (safe : reading.reader.Safe) (size : Nat) :
    ∃ next, reading.step decodeFields (.poll size false) = .next next := by
  have calm := @Reading.safe_not_panicked decodeFields reading safe (.poll size false)
  cases taken : reading.step decodeFields (.poll size false) with
  | blocked =>
    simp only [Reading.step] at taken
    split at taken <;> cases taken
  | panicked => exact absurd taken calm
  | next next => exact ⟨next, rfl⟩

/-- Reading on, once everything has arrived: each poll with room hands out a byte or reports
the end, and the end stays reported. -/
theorem OnCourse.readOn (only : OnlyLastEmpty frames) {sizes : List Nat}
    (room : ∀ size ∈ sizes, 0 < size) (safe : reading.reader.Safe) (course : OnCourse frames reading)
    (complete : reading.reader.receive.stream.recv.fin = true) :
    ∃ final, RunWhile (Reading.step decodeFields) Undisturbed reading
        (sizes.map fun size => ReadAction.poll size false) final ∧ OnCourse frames final ∧
      (ReportsEnd reading.log → ReportsEnd final.log) ∧
      (ReportsEnd final.log ∨
        (output reading.log).length + sizes.length ≤ (output final.log).length) := by
  induction sizes generalizing reading with
  | nil => exact ⟨reading, .done, course, id, Or.inr (Nat.le_refl _)⟩
  | cons size sizes ih =>
    have positive : 0 < size := room size List.mem_cons_self
    obtain ⟨next, taken⟩ := @Reading.poll_returns reading decodeFields safe size
    obtain ⟨tracks, fin, progress⟩ := course.poll positive taken
    have onward := only.onCourse tracks
    have stays : ReportsEnd reading.log → ReportsEnd next.log := by
      rintro ⟨earlier, some, member⟩
      rw [Reading.step_poll taken]
      exact ⟨earlier, some, List.mem_append_left _ member⟩
    obtain ⟨final, run, after, kept, reached⟩ :=
      ih (fun other member => room other (List.mem_cons_of_mem _ member)) (Reading.step_safe safe taken)
        onward (fin.trans complete)
    refine ⟨final, .next rfl taken run, after, kept ∘ stays, ?_⟩
    rcases progress complete onward with ended | longer
    · exact Or.inl (kept ended)
    · refine reached.imp_right ?_
      intro far
      rw [List.length_cons]
      omega

/-- Whatever the deliveries and the buffers, a stream of these bytes reads as `expected`: no
poll panics or fails, what has been handed out is always a beginning of `expected`, the end is
reported after all of it and nothing else, and it is reported to whoever reads on once the
bytes and the FIN are there. -/
def ReadsAs (decodeFields : List UInt8 → Bool) (bytes expected : List UInt8) : Prop :=
  ∀ (early : List (List UInt8)) (incoming : List UInt8) (actions : List ReadAction) (reading : Reading),
    (∀ chunk ∈ early, chunk ≠ []) → early.flatten ++ incoming = bytes →
    RunWhile (Reading.step decodeFields) Undisturbed (Reading.start early incoming) actions reading →
    (∀ action, reading.step decodeFields action ≠ .panicked) ∧ ¬ ReportsError reading.log ∧
      output reading.log <+: expected ∧ (ReportsEnd reading.log → output reading.log = expected) ∧
      (reading.reader.receive.stream.recv.fin = true →
        ∀ sizes : List Nat, (∀ size ∈ sizes, 0 < size) → expected.length < sizes.length →
          ∃ final, RunWhile (Reading.step decodeFields) Undisturbed reading
              (sizes.map fun size => ReadAction.poll size false) final ∧ ReportsEnd final.log)

theorem OnlyLastEmpty.readsAs (only : OnlyLastEmpty frames) (decodeFields : List UInt8 → Bool) :
    ReadsAs decodeFields (wireBytes frames) (content frames) := by
  intro early incoming actions reading nonempty whole run
  have course := only.onCourse ((Tracks.start nonempty whole).run run)
  have safe : reading.reader.Safe := by
    refine RunWhile.preserves (fun _ _ _ held _ taken => Reading.step_safe held taken) run ?_
    refine Reading.start_safe nonempty ?_
    rw [whole]
    exact safeData_wireBytes frames only
  refine ⟨Reading.safe_not_panicked safe, course.clean, course.sub, fun ended => (course.atEnd ended).1, ?_⟩
  intro complete sizes room enough
  obtain ⟨final, run, after, -, reached⟩ := course.readOn only room safe complete
  refine ⟨final, run, reached.resolve_right ?_⟩
  intro far
  have within := after.sub.length_le
  omega

theorem delivered_run (decodeFields : List UInt8 → Bool) (bytes : List UInt8) :
    ∃ actions reading, RunWhile (Reading.step decodeFields) Undisturbed (Reading.start [] bytes) actions
      reading ∧ reading.reader.receive.stream.recv.fin = true := by
  by_cases empty : bytes = []
  · subst empty
    exact ⟨[.finish], _, .single trivial rfl, rfl⟩
  · have positive := List.length_pos_iff.mpr empty
    let arrived : Reading := ⟨(Reading.start [] bytes).reader.setRecv ⟨[], [bytes], false, false, false⟩, []⟩
    let closed : Reading := ⟨(Reading.start [] bytes).reader.setRecv ⟨[], [bytes], true, false, false⟩, []⟩
    have delivered : (Reading.start [] bytes).step decodeFields (.deliver bytes.length) = .next arrived := by
      simp [Reading.step, Outcome.guarded_eq_next, RecvStream.deliver, Reading.start, arrived, positive]
    have finished : arrived.step decodeFields .finish = .next closed := by rfl
    exact ⟨[.deliver bytes.length, .finish], closed, .next trivial delivered (.single trivial finished), rfl⟩

theorem ReadsAs.onlyLastEmpty (reads : ReadsAs decodeFields (wireBytes frames) (content frames)) :
    OnlyLastEmpty frames := by
  obtain ⟨actions, reading, run, complete⟩ := delivered_run decodeFields (wireBytes frames)
  obtain ⟨-, -, -, -, readOn⟩ := reads [] _ actions reading (by simp) rfl run
  obtain ⟨final, more, ended⟩ := readOn complete (List.replicate ((content frames).length + 1) 1)
    (by simp) (by simp)
  have whole := run.append more
  have clean := (reads [] _ _ final (by simp) rfl whole).2.1
  have course : OnCourse frames final :=
    ((Tracks.start (by simp) rfl).run whole).resolve_left fun failed => clean failed.1
  exact (course.atEnd ended).2

/-- Two framings of one content read alike, and as that content, exactly when in both only the
last frame may be empty. -/
theorem framings_read_alike_iff (decodeFields : List UInt8 → Bool) (first second : List DataFrame)
    (same : content first = content second) :
    (ReadsAs decodeFields (wireBytes first) (content first) ∧
        ReadsAs decodeFields (wireBytes second) (content first)) ↔
      OnlyLastEmpty first ∧ OnlyLastEmpty second := by
  constructor
  · rintro ⟨one, two⟩
    rw [same] at two
    exact ⟨one.onlyLastEmpty, two.onlyLastEmpty⟩
  · rintro ⟨one, two⟩
    refine ⟨one.readsAs decodeFields, ?_⟩
    rw [same]
    exact two.readsAs decodeFields

def DataFrame.short (payload : List UInt8) (counted : Encodes [UInt8.ofNat payload.length] payload.length) :
    DataFrame :=
  ⟨[0], [UInt8.ofNat payload.length], payload, rfl, counted⟩

theorem framings_read_alike_iff_split :
    ReadsAs (fun _ => true) [0, 2, 7, 8] [7, 8] ∧
      ReadsAs (fun _ => true) [0, 1, 7, 0, 1, 8, 0, 0] [7, 8] :=
  (framings_read_alike_iff (fun _ => true) [.short [7, 8] rfl]
    [.short [7] rfl, .short [8] rfl, .short [] rfl] rfl).mpr
    (by simp [OnlyLastEmpty, DataFrame.short])

/-- An empty frame before a frame of one byte: the first read fails, where the one frame
alone reads as its byte. -/
theorem empty_frame_breaks_reading :
    content [.short [] rfl, .short [5] rfl] = content [.short [5] rfl] ∧
      ¬ ReadsAs (fun _ => true) (wireBytes [.short [] rfl, .short [5] rfl]) [5] ∧
      ReadsAs (fun _ => true) (wireBytes [.short [5] rfl]) [5] := by
  refine ⟨rfl, ?_, ?_⟩
  · intro reads
    have run : RunWhile (Reading.step fun _ => true) Undisturbed (Reading.start [] [0, 0, 0, 1, 5])
        [.deliver 5, .finish, .poll 8 false]
        ⟨⟨⟨⟨⟨[], [], true, false, false⟩, [[5]], true, none, 1⟩, none⟩, [], true, false⟩, [(8, .failed .broken)]⟩ :=
      .next trivial rfl (.next trivial rfl (.single rfl rfl))
    have clean := (reads [] _ _ _ (by simp) rfl run).2.1
    exact clean ⟨8, .broken, List.mem_singleton_self _⟩
  · exact OnlyLastEmpty.readsAs (by simp [OnlyLastEmpty]) _

end Runs

end ProxyTunnels.Http3
