import ProxyTunnels.Http3.Read
import ProxyTunnels.Http3.Unread

/-! A scan of the frames under which no poll of the reader can panic.

`poll_next` asserts that no payload is outstanding. The adapter calls it for trailers
after the first `none`, and `none` also stands for a stream that ended inside a
payload; a frame with a payload that is refused leaves its length outstanding as well.
`SafeData` follows the frames of a byte sequence and asks that neither happens.
-/

set_option autoImplicit false

namespace ProxyTunnels.Http3
open Machine

def Frame.endsData : Frame → Bool
  | .data len => len == 0
  | .headers _ => true
  | _ => false

inductive SafeAfterData : List UInt8 → Prop where
  | waiting {bytes : List UInt8} {min : Nat} : Frame.decode bytes = .incomplete min → SafeAfterData bytes
  | failed {bytes : List UInt8} {error : FrameError} : Frame.decode bytes = .failed error →
      SafeAfterData bytes
  | skip {bytes rest : List UInt8} {ty : Nat} : Frame.decode bytes = .unknown ty rest →
      SafeAfterData rest → SafeAfterData bytes
  | frame {bytes rest : List UInt8} {frame : Frame} : Frame.decode bytes = .frame frame rest →
      frame.remaining = 0 → SafeAfterData rest → SafeAfterData bytes

/-- Bytes the adapter may meet while it reads data: every payload is whole. -/
inductive SafeData : List UInt8 → Prop where
  | waiting {bytes : List UInt8} {min : Nat} : Frame.decode bytes = .incomplete min → SafeData bytes
  | failed {bytes : List UInt8} {error : FrameError} : Frame.decode bytes = .failed error → SafeData bytes
  | skip {bytes rest : List UInt8} {ty : Nat} : Frame.decode bytes = .unknown ty rest →
      SafeData rest → SafeData bytes
  | last {bytes rest : List UInt8} {frame : Frame} : Frame.decode bytes = .frame frame rest →
      frame.endsData = true → SafeAfterData rest → SafeData bytes
  | frame {bytes rest : List UInt8} {frame : Frame} : Frame.decode bytes = .frame frame rest →
      frame.endsData = false → frame.remaining ≤ rest.length →
      SafeData (rest.drop frame.remaining) → SafeData bytes

/-- A scan of the frames of a byte sequence: it passes over unknown frames, is content where
no frame starts, and asks for `behind` at every other one. -/
structure Scans (safe : List UInt8 → Prop) (behind : Frame → List UInt8 → Prop) : Prop where
  waiting : ∀ {bytes min}, Frame.decode bytes = .incomplete min → safe bytes
  failed : ∀ {bytes error}, Frame.decode bytes = .failed error → safe bytes
  unknown : ∀ {bytes ty rest}, Frame.decode bytes = .unknown ty rest → (safe bytes ↔ safe rest)
  frame : ∀ {bytes frame rest}, Frame.decode bytes = .frame frame rest → (safe bytes ↔ behind frame rest)

theorem Scans.skip {safe : List UInt8 → Prop} {behind : Frame → List UInt8 → Prop} (scans : Scans safe behind)
    {bytes rest : List UInt8} (skipped : Skip bytes rest) : safe bytes ↔ safe rest := by
  induction skipped with
  | refl => exact Iff.rfl
  | unknown passed _ ih => exact (scans.unknown passed).trans ih

theorem safeAfterData_frame {bytes rest : List UInt8} {frame : Frame}
    (found : Frame.decode bytes = .frame frame rest) :
    SafeAfterData bytes ↔ frame.remaining = 0 ∧ SafeAfterData rest := by
  constructor
  · intro safe
    cases safe with
    | waiting waits => rw [found] at waits; cases waits
    | failed fails => rw [found] at fails; cases fails
    | skip passed _ => rw [found] at passed; cases passed
    | frame again empty inner => rw [found] at again; cases again; exact ⟨empty, inner⟩
  · rintro ⟨empty, inner⟩
    exact .frame found empty inner

def SafeBehind (frame : Frame) (rest : List UInt8) : Prop :=
  if frame.endsData then SafeAfterData rest
  else frame.remaining ≤ rest.length ∧ SafeData (rest.drop frame.remaining)

theorem safeData_frame {bytes rest : List UInt8} {frame : Frame}
    (found : Frame.decode bytes = .frame frame rest) : SafeData bytes ↔ SafeBehind frame rest := by
  unfold SafeBehind
  constructor
  · intro safe
    cases safe with
    | waiting waits => rw [found] at waits; cases waits
    | failed fails => rw [found] at fails; cases fails
    | skip passed _ => rw [found] at passed; cases passed
    | last again ends inner => rw [found] at again; cases again; rw [if_pos ends]; exact inner
    | frame again goes fits inner =>
      rw [found] at again
      cases again
      rw [if_neg (by rw [goes]; exact Bool.false_ne_true)]
      exact ⟨fits, inner⟩
  · intro behind
    cases ends : frame.endsData with
    | true =>
      rw [if_pos ends] at behind
      exact .last found ends behind
    | false =>
      rw [if_neg (by rw [ends]; exact Bool.false_ne_true)] at behind
      exact .frame found ends behind.1 behind.2

theorem scans_safeAfterData : Scans SafeAfterData fun frame rest => frame.remaining = 0 ∧ SafeAfterData rest where
  waiting := .waiting
  failed := .failed
  unknown passed := by
    refine ⟨fun safe => ?_, .skip passed⟩
    cases safe with
    | skip again inner => rw [passed] at again; cases again; exact inner
    | waiting other | failed other | frame other _ _ => rw [passed] at other; cases other
  frame := safeAfterData_frame

theorem scans_safeData : Scans SafeData SafeBehind where
  waiting := .waiting
  failed := .failed
  unknown passed := by
    refine ⟨fun safe => ?_, .skip passed⟩
    cases safe with
    | skip again inner => rw [passed] at again; cases again; exact inner
    | waiting other | failed other | last other _ _ | frame other _ _ _ => rw [passed] at other; cases other
  frame := safeData_frame

theorem Frame.remaining_of_endsData {frame : Frame} (ends : frame.endsData = true) :
    frame.remaining = 0 := by
  cases frame with
  | data len => exact eq_of_beq ends
  | headers encoded => rfl
  | _ => cases ends

section Preservation
variable {request : RequestStream} {decodeFields : List UInt8 → Bool}

structure RequestStream.SafeReading (request : RequestStream) : Prop where
  sound : request.stream.Sound
  noTrailers : request.trailers = none
  whole : request.stream.remainingData ≤ request.stream.unread.length
  safe : SafeData (request.stream.unread.drop request.stream.remainingData)

structure RequestStream.SafeEnding (request : RequestStream) : Prop where
  sound : request.stream.Sound
  empty : request.stream.remainingData = 0
  safe : SafeAfterData request.stream.unread

structure SafeData.Polled (answer : Answer (Option (List UInt8))) (next : RequestStream) : Prop where
  calm : answer ≠ .panicked
  ending : answer = .ready none → next.SafeEnding
  reading : answer ≠ .ready none → next.SafeReading

theorem RequestStream.SafeReading.pollPayload (safe : request.SafeReading)
    (some : request.stream.remainingData ≠ 0) :
    SafeData.Polled request.pollPayload.1 request.pollPayload.2 := by
  obtain ⟨held, sound, -⟩ := request.stream.pollData_spec safe.sound some
  unfold RequestStream.pollPayload
  rcases polling : request.stream.pollData with ⟨polled, next⟩
  rw [polling] at held sound
  dsimp only at held sound
  cases held with
  | pending left data _ =>
    refine ⟨by simp, by simp, fun _ => ⟨sound, safe.noTrailers, ?_, ?_⟩⟩
    · rw [left, data]; exact safe.whole
    · rw [left, data]; exact safe.safe
  | reset left data _ =>
    refine ⟨by simp, by simp, fun _ => ⟨sound, safe.noTrailers, ?_, ?_⟩⟩
    · rw [left, data]; exact safe.whole
    · rw [left, data]; exact safe.safe
  | truncated _ _ _ short => exact absurd safe.whole (Nat.not_le_of_lt short)
  | ended nothing _ _ =>
    have whole := safe.whole
    rw [nothing, List.length_nil] at whole
    exact absurd (Nat.le_zero.mp whole) some
  | @chunk data nonempty bounded taken left =>
    have whole := safe.whole
    have rest := safe.safe
    rw [taken] at whole rest
    refine ⟨by simp, by simp, fun _ => ⟨sound, safe.noTrailers, ?_, ?_⟩⟩
    · rw [List.length_append] at whole
      change next.remainingData ≤ next.unread.length
      rw [left]
      omega
    · rw [List.drop_append, List.drop_eq_nil_of_le bounded, List.nil_append] at rest
      rw [left]
      exact rest

theorem RequestStream.SafeReading.behind (safe : request.SafeReading)
    (empty : request.stream.remainingData = 0) {middle rest : List UInt8} {frame : Frame}
    (skipped : Skip request.stream.unread middle) (found : Frame.decode middle = .frame frame rest) :
    SafeBehind frame rest := by
  have start := safe.safe
  rw [empty, List.drop_zero, scans_safeData.skip skipped, safeData_frame found] at start
  exact start

theorem RequestStream.SafeReading.pollRecvData (safe : request.SafeReading) :
    SafeData.Polled request.pollRecvData.1 request.pollRecvData.2 := by
  unfold RequestStream.pollRecvData
  by_cases some : request.stream.remainingData ≠ 0
  · rw [if_pos some]
    exact safe.pollPayload some
  · rw [if_neg some]
    have empty : request.stream.remainingData = 0 := not_ne_iff.mp some
    obtain ⟨held, sound, -⟩ := request.stream.pollNext_spec safe.sound empty
    rcases polling : request.stream.pollNext with ⟨polled, next⟩
    rw [polling] at held sound
    -- a poll that settles no frame only skips unknown ones
    have skips : Skip request.stream.unread next.unread → next.remainingData = 0 →
        RequestStream.SafeReading { request with stream := next } := by
      intro skipped nothing
      refine ⟨sound, safe.noTrailers, by rw [nothing]; exact Nat.zero_le _, ?_⟩
      have start := safe.safe
      rw [empty, List.drop_zero, scans_safeData.skip skipped] at start
      rw [nothing, List.drop_zero]
      exact start
    cases held with
    | pending skipped nothing _ => exact ⟨by simp, by simp, fun _ => skips skipped nothing⟩
    | reset skipped nothing _ => exact ⟨by simp, by simp, fun _ => skips skipped nothing⟩
    | proto skipped nothing _ => exact ⟨by simp, by simp, fun _ => skips skipped nothing⟩
    | truncated skipped nothing _ _ => exact ⟨by simp, by simp, fun _ => skips skipped nothing⟩
    | ended skipped nothing drained =>
      refine ⟨by simp, fun _ => ⟨sound, nothing, ?_⟩, by simp⟩
      change SafeAfterData next.unread
      rw [drained]
      exact .waiting rfl
    | @frame middle frame skipped found left =>
      have behind := safe.behind empty skipped found
      unfold SafeBehind at behind
      cases ends : frame.endsData with
      | true =>
        rw [if_pos ends] at behind
        have nothing : next.remainingData = 0 := left.trans (Frame.remaining_of_endsData ends)
        cases frame with
        | headers encoded =>
          exact ⟨by simp [RequestStream.onFrame], fun _ => ⟨sound, nothing, behind⟩,
            by simp [RequestStream.onFrame]⟩
        | data len =>
          have outcome : RequestStream.pollPayload { request with stream := next } =
              (.ready none, { request with stream := next }) := by
            simp [RequestStream.pollPayload, FrameStream.pollData, nothing]
          simp only [RequestStream.onFrame, outcome]
          exact ⟨by simp, fun _ => ⟨sound, nothing, behind⟩, by simp⟩
        | _ => cases ends
      | false =>
        rw [if_neg (by rw [ends]; exact Bool.false_ne_true)] at behind
        have reading : RequestStream.SafeReading { request with stream := next } :=
          ⟨sound, safe.noTrailers, left ▸ behind.1, left ▸ behind.2⟩
        cases frame with
        | data len =>
          have outstanding : next.remainingData ≠ 0 := by
            rw [left]
            simpa [Frame.endsData, Frame.remaining] using ends
          exact reading.pollPayload outstanding
        | headers encoded => cases ends
        | _ => exact ⟨by simp [RequestStream.onFrame], by simp [RequestStream.onFrame], fun _ => reading⟩

theorem RequestStream.SafeEnding.pollNext (safe : request.SafeEnding) (trailers : Option (List UInt8)) :
    request.stream.pollNext.1 ≠ .panicked ∧ RequestStream.SafeEnding ⟨request.stream.pollNext.2, trailers⟩ := by
  obtain ⟨held, sound, -⟩ := request.stream.pollNext_spec safe.sound safe.empty
  rcases polling : request.stream.pollNext with ⟨polled, next⟩
  rw [polling] at held sound
  have skips : Skip request.stream.unread next.unread → next.remainingData = 0 →
      RequestStream.SafeEnding ⟨next, trailers⟩ :=
    fun skipped nothing => ⟨sound, nothing, (scans_safeAfterData.skip skipped).mp safe.safe⟩
  cases held with
  | pending skipped nothing _ => exact ⟨by simp, skips skipped nothing⟩
  | reset skipped nothing _ => exact ⟨by simp, skips skipped nothing⟩
  | proto skipped nothing _ => exact ⟨by simp, skips skipped nothing⟩
  | truncated skipped nothing _ _ => exact ⟨by simp, skips skipped nothing⟩
  | ended skipped nothing _ => exact ⟨by simp, skips skipped nothing⟩
  | frame skipped found left =>
    have start := safe.safe
    rw [scans_safeAfterData.skip skipped, safeAfterData_frame found] at start
    exact ⟨by simp, sound, left.trans start.1, start.2⟩

theorem RequestStream.SafeEnding.finishTrailers (safe : request.SafeEnding) (encoded : List UInt8) :
    (RequestStream.finishTrailers decodeFields request.stream encoded).1 ≠ .panicked ∧
      (RequestStream.finishTrailers decodeFields request.stream encoded).2.SafeEnding := by
  have decoded : ∀ stream : FrameStream, RequestStream.SafeEnding ⟨stream, none⟩ →
      (if decodeFields encoded then (Answer.ready (some encoded), (⟨stream, none⟩ : RequestStream))
        else (.failed .fieldSection, ⟨stream, none⟩)).1 ≠ .panicked ∧
      (if decodeFields encoded then (Answer.ready (some encoded), (⟨stream, none⟩ : RequestStream))
        else (.failed .fieldSection, ⟨stream, none⟩)).2.SafeEnding := by
    intro stream ending
    cases decodeFields encoded with
    | true => exact ⟨by simp, ending⟩
    | false => exact ⟨by simp, ending⟩
  unfold RequestStream.finishTrailers
  by_cases atEnd : request.stream.isEos = true
  · simp only [if_pos atEnd]
    exact decoded _ ⟨safe.sound, safe.empty, safe.safe⟩
  · simp only [if_neg atEnd]
    have polled := safe.pollNext
    rcases polling : request.stream.pollNext with ⟨answer, next⟩
    rw [polling] at polled
    rcases answer with _ | _ | error | (_ | frame)
    · exact ⟨by simp, (polled _).2⟩
    · exact absurd rfl (polled none).1
    · exact ⟨by simp, (polled _).2⟩
    · exact decoded next (polled _).2
    · exact ⟨by simp, (polled _).2⟩

theorem RequestStream.SafeEnding.pollRecvTrailers (safe : request.SafeEnding) :
    (request.pollRecvTrailers decodeFields).1 ≠ .panicked ∧
      (request.pollRecvTrailers decodeFields).2.SafeEnding := by
  unfold RequestStream.pollRecvTrailers
  cases saved : request.trailers with
  | some encoded => exact safe.finishTrailers encoded
  | none =>
    have polled := safe.pollNext
    rcases polling : request.stream.pollNext with ⟨answer, next⟩
    rw [polling] at polled
    rcases answer with _ | _ | error | (_ | frame)
    · exact ⟨by simp, (polled _).2⟩
    · exact absurd rfl (polled none).1
    · exact ⟨by simp, (polled _).2⟩
    · exact ⟨by simp, (polled _).2⟩
    · cases frame with
      | headers encoded => exact (polled none).2.finishTrailers encoded
      | _ => exact ⟨by simp, (polled _).2⟩

def Reader.Safe (reader : Reader) : Prop :=
  if reader.trailers then reader.receive.SafeEnding else reader.receive.SafeReading

theorem Reader.Safe.readLoop {reader : Reader} (safe : reader.Safe) (size rounds : Nat) :
    (reader.readLoop decodeFields size rounds).1 ≠ .panicked ∧
      (reader.readLoop decodeFields size rounds).2.Safe := by
  induction rounds generalizing reader with
  | zero => exact ⟨by simp [Reader.readLoop], safe⟩
  | succ rounds ih =>
    unfold Reader.readLoop
    by_cases full : (!reader.buffered.isEmpty) = true
    · rw [if_pos full]
      exact ⟨by simp, safe⟩
    · rw [if_neg full]
      cases phase : reader.trailers with
      | true =>
        simp only [if_true]
        rw [Reader.Safe, phase, if_pos rfl] at safe
        obtain ⟨calm, ending⟩ := @RequestStream.SafeEnding.pollRecvTrailers _ decodeFields safe
        rcases polling : reader.receive.pollRecvTrailers decodeFields with ⟨answer, next⟩
        rw [polling] at calm ending
        have kept : ∀ eof, Reader.Safe ⟨next, reader.buffered, reader.trailers, eof⟩ := by
          intro eof
          rw [phase]
          exact ending
        rcases answer with _ | _ | error | (_ | fields)
        · exact ⟨by simp [Reader.onTrailers], kept _⟩
        · exact absurd rfl calm
        · exact ⟨by simp [Reader.onTrailers], kept _⟩
        · exact ⟨by simp [Reader.onTrailers], kept _⟩
        · exact ⟨by simp [Reader.onTrailers], kept _⟩
      | false =>
        simp only [Bool.false_eq_true, if_false]
        rw [Reader.Safe, phase, if_neg Bool.false_ne_true] at safe
        have polled := safe.pollRecvData
        rcases polling : reader.receive.pollRecvData with ⟨answer, next⟩
        rw [polling] at polled
        have kept : answer ≠ .ready none →
            ∀ buffered eof, Reader.Safe ⟨next, buffered, reader.trailers, eof⟩ := by
          intro going buffered eof
          rw [phase]
          exact polled.reading going
        rcases answer with _ | _ | error | (_ | chunk)
        · exact ⟨by simp [Reader.onData], kept (by simp) _ _⟩
        · exact absurd rfl polled.calm
        · exact ⟨by simp [Reader.onData], kept (by simp) _ _⟩
        · exact ih (polled.ending rfl)
        · exact ih (kept (by simp) _ _)

theorem Reader.Safe.pollRead {reader : Reader} (safe : reader.Safe) (size : Nat) (stopped : Bool) :
    (reader.pollRead decodeFields size stopped).1 ≠ .panicked ∧
      (reader.pollRead decodeFields size stopped).2.Safe := by
  unfold Reader.pollRead
  split
  · exact ⟨by simp, safe⟩
  · split
    · exact ⟨by simp, safe⟩
    · split
      · exact ⟨by simp, safe⟩
      · exact safe.readLoop size 32

end Preservation

section Network
variable {stream : FrameStream} {recv : RecvStream}

structure RecvStream.Arrives (recv next : RecvStream) : Prop where
  unread : next.unread = recv.unread
  arriving : (∀ chunk ∈ recv.arrived, chunk ≠ []) → ∀ chunk ∈ next.arrived, chunk ≠ []
  finished : (recv.fin = true → recv.incoming = []) → next.fin = true → next.incoming = []
  reading : next.reading = recv.reading

theorem RecvStream.arrives_deliver {count : Nat} (positive : 0 < count)
    (within : count ≤ recv.incoming.length) : recv.Arrives (recv.deliver count) := by
  constructor
  · simp [RecvStream.unread, RecvStream.deliver]
  · intro nonempty chunk member
    rcases List.mem_append.mp member with old | new
    · exact nonempty chunk old
    · rw [List.mem_singleton.mp new]
      intro nothing
      rcases List.take_eq_nil_iff.mp nothing with zero | empty
      · omega
      · rw [empty, List.length_nil] at within
        omega
  · intro finished ended
    have nothing := finished ended
    rw [nothing, List.length_nil] at within
    omega
  · rfl

theorem RecvStream.arrives_finish (all : recv.incoming = []) :
    recv.Arrives { recv with fin := true } :=
  ⟨rfl, id, fun _ _ => all, rfl⟩

theorem RecvStream.arrives_reset : recv.Arrives { recv with reset := true } := ⟨rfl, id, id, rfl⟩

theorem FrameStream.Sound.setRecv (sound : stream.Sound) (arrives : stream.recv.Arrives recv) :
    FrameStream.Sound { stream with recv } where
  buffered := sound.buffered
  arriving := arrives.arriving sound.arriving
  finished := arrives.finished sound.finished
  ended := fun ended => arrives.unread.trans (sound.ended ended)
  gate := sound.gate
  fresh := sound.fresh
  released := fun ended => arrives.reading.trans (sound.released ended)

theorem Reader.Safe.setRecv {reader : Reader} (safe : reader.Safe)
    (arrives : reader.receive.stream.recv.Arrives recv) : (reader.setRecv recv).Safe := by
  have same : (reader.setRecv recv).receive.stream.unread = reader.receive.stream.unread :=
    congrArg (reader.receive.stream.buf.flatten ++ ·) arrives.unread
  unfold Reader.Safe at safe ⊢
  rw [show (reader.setRecv recv).trailers = reader.trailers from rfl]
  cases phase : reader.trailers with
  | true =>
    rw [phase, if_pos rfl] at safe
    rw [if_pos rfl]
    exact ⟨safe.sound.setRecv arrives, safe.empty, same ▸ safe.safe⟩
  | false =>
    rw [phase, if_neg Bool.false_ne_true] at safe
    rw [if_neg Bool.false_ne_true]
    refine ⟨safe.sound.setRecv arrives, safe.noTrailers, ?_, ?_⟩
    · rw [same]; exact safe.whole
    · rw [same]; exact safe.safe

end Network

section Runs
variable {decodeFields : List UInt8 → Bool} {reading next : Reading}

theorem Reading.step_arrives {action : ReadAction} (quiet : ∀ size stopped, action ≠ .poll size stopped)
    (taken : reading.step decodeFields action = .next next) :
    ∃ recv, reading.reader.receive.stream.recv.Arrives recv ∧
      next = { reading with reader := reading.reader.setRecv recv } := by
  cases action with
  | deliver count =>
    obtain ⟨enabled, same⟩ := Outcome.guarded_eq_next.mp taken
    obtain ⟨positive, within⟩ := of_decide_eq_true enabled
    cases same
    exact ⟨_, RecvStream.arrives_deliver positive within, rfl⟩
  | finish =>
    obtain ⟨enabled, same⟩ := Outcome.guarded_eq_next.mp taken
    cases same
    exact ⟨_, RecvStream.arrives_finish (List.isEmpty_iff.mp enabled), rfl⟩
  | reset =>
    cases taken
    exact ⟨_, RecvStream.arrives_reset, rfl⟩
  | poll size stopped => exact absurd rfl (quiet size stopped)

theorem Reading.step_poll {size : Nat} {stopped : Bool}
    (taken : reading.step decodeFields (.poll size stopped) = .next next) :
    next = ⟨(reading.reader.pollRead decodeFields size stopped).2,
      reading.log ++ [(size, (reading.reader.pollRead decodeFields size stopped).1)]⟩ := by
  simp only [Reading.step] at taken
  rcases polling : reading.reader.pollRead decodeFields size stopped with ⟨result, reader⟩
  rw [polling] at taken
  cases result <;> cases taken <;> rfl

theorem Reading.step_safe (safe : reading.reader.Safe) {action : ReadAction}
    (taken : reading.step decodeFields action = .next next) : next.reader.Safe := by
  by_cases polls : ∃ size stopped, action = .poll size stopped
  · obtain ⟨size, stopped, rfl⟩ := polls
    rw [Reading.step_poll taken]
    exact (safe.pollRead size stopped).2
  · have quiet : ∀ size stopped, action ≠ .poll size stopped :=
      fun size stopped same => polls ⟨size, stopped, same⟩
    obtain ⟨recv, arrives, rfl⟩ := Reading.step_arrives quiet taken
    exact safe.setRecv arrives

theorem Reading.safe_not_panicked (safe : reading.reader.Safe) (action : ReadAction) :
    reading.step decodeFields action ≠ .panicked := by
  intro failed
  cases action with
  | deliver count => exact absurd (Outcome.guarded_eq_panicked.mp failed).2 (by simp)
  | finish => exact absurd (Outcome.guarded_eq_panicked.mp failed).2 (by simp)
  | reset => cases failed
  | poll size stopped =>
    have calm := (@Reader.Safe.pollRead decodeFields _ safe size stopped).1
    simp only [Reading.step] at failed
    rcases polling : reading.reader.pollRead decodeFields size stopped with ⟨result, reader⟩
    rw [polling] at failed calm
    cases result with
    | panicked => exact calm rfl
    | _ => cases failed

theorem Reading.start_sound {early : List (List UInt8)} (nonempty : ∀ chunk ∈ early, chunk ≠ [])
    (incoming : List UInt8) : (Reading.start early incoming).reader.receive.stream.Sound :=
  ⟨nonempty, by simp [Reading.start], by simp [Reading.start], by simp [Reading.start], Gate.none _,
    by simp [Reading.start], fun _ => rfl⟩

theorem Reading.start_safe {early : List (List UInt8)} {incoming : List UInt8}
    (nonempty : ∀ chunk ∈ early, chunk ≠ []) (safe : SafeData (early.flatten ++ incoming)) :
    (Reading.start early incoming).reader.Safe := by
  refine ⟨Reading.start_sound nonempty incoming, rfl, Nat.zero_le _, ?_⟩
  simpa [Reading.start, FrameStream.unread, RecvStream.unread] using safe

end Runs

end ProxyTunnels.Http3
