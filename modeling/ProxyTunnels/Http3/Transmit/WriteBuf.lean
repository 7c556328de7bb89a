import ProxyTunnels.Http3.Framing
import ProxyTunnels.Http3.Transmit.Encode

/-! The send side of a QUIC stream: a frame in a write buffer, and the polls that drain it.

The transport takes any part of the chunk it is offered, or nothing for now, or fails, and
every poll goes on where the last one stopped. What it took is therefore always a beginning
of the frames that were accepted for sending, one after the other.
-/

set_option autoImplicit false

namespace ProxyTunnels.Http3
open Machine

def writeBufEncodeSize : Nat := 8 + 8 * 7

/-- `WriteBuf`: the part of the array that was written, and the payload of the frame. -/
structure WriteBuf where
  buf : List UInt8
  pos : Nat
  payload : Option (List UInt8)
  within : buf.length ≤ writeBufEncodeSize
  placed : pos ≤ buf.length
  deriving DecidableEq, Repr

def WriteBuf.new (encoded : Option (List UInt8)) (payload : Option (List UInt8)) : Option WriteBuf :=
  match encoded with
  | none => none
  | some buf =>
    if within : buf.length ≤ writeBufEncodeSize then some ⟨buf, 0, payload, within, Nat.zero_le _⟩ else none

/-- `From<Frame<B>> for WriteBuf<B>`. -/
def WriteBuf.ofFrame (frame : SendFrame) : Option WriteBuf := WriteBuf.new frame.encode frame.payload

def WriteBuf.remaining (data : WriteBuf) : Nat := data.buf.length - data.pos + (data.payload.getD []).length

def WriteBuf.chunk (data : WriteBuf) : List UInt8 :=
  if 0 < data.buf.length - data.pos then data.buf.drop data.pos else data.payload.getD []

/-- `WriteBuf::advance`. Moving past the end of a payload is a panic; past the end of a
frame that has none it is nothing. -/
def WriteBuf.advance (data : WriteBuf) (count : Nat) : Option WriteBuf :=
  let advanced := min count (data.buf.length - data.pos)
  have placed : data.pos + advanced ≤ data.buf.length := by
    have before := data.placed
    omega
  match data.payload with
  | none => some ⟨data.buf, data.pos + advanced, none, data.within, placed⟩
  | some payload =>
    if payload.length < count - advanced then none
    else some ⟨data.buf, data.pos + advanced, some (payload.drop (count - advanced)), data.within, placed⟩

/-- What the transport's `poll_write` answers. -/
inductive WriteAnswer where
  | pending
  | failed
  | wrote (count : Nat)
  deriving DecidableEq, Repr

inductive ReadyResult where
  | pending
  | failed
  | ready
  deriving DecidableEq, Repr

/-- h3-quinn's `SendStream`, with what the transport took and the frames it was given. -/
structure SendStream where
  writing : Option WriteBuf
  accepted : List UInt8
  frames : List SendFrame
  finished : Bool
  deriving DecidableEq, Repr

def SendStream.start : SendStream := ⟨none, [], [], false⟩

/-- The loop of `poll_ready`: the outcome, what is left of the data and what was taken. The
transport takes no more than it was offered. -/
def WriteBuf.drain (data : WriteBuf) (accepted : List UInt8) :
    List WriteAnswer → Option (ReadyResult × WriteBuf × List UInt8)
  | [] => some (if data.remaining = 0 then .ready else .pending, data, accepted)
  | answer :: answers =>
      if data.remaining = 0 then some (.ready, data, accepted)
      else
        match answer with
        | .pending => some (.pending, data, accepted)
        | .failed => some (.failed, data, accepted)
        | .wrote count =>
          let written := min count data.chunk.length
          match data.advance written with
          | none => none
          | some next => next.drain (accepted ++ data.chunk.take written) answers

/-- `poll_ready`. A finished stream takes nothing. -/
def SendStream.pollReady (stream : SendStream) (answers : List WriteAnswer) : Option (ReadyResult × SendStream) :=
  match stream.writing with
  | none => some (.ready, stream)
  | some data =>
    let answers := if stream.finished then answers.map fun _ => .failed else answers
    match data.drain stream.accepted answers with
    | none => none
    | some (.ready, _, accepted) => some (.ready, { stream with writing := none, accepted })
    | some (result, data, accepted) => some (result, { stream with writing := some data, accepted })

/-- `send_data`. While there is data to write it is refused. -/
def SendStream.sendData (stream : SendStream) (frame : SendFrame) : Option (Bool × SendStream) :=
  if stream.writing.isSome then some (false, stream)
  else
    match WriteBuf.ofFrame frame with
    | none => none
    | some data => some (true, { stream with writing := some data, frames := stream.frames ++ [frame] })

/-- `poll_finish`. It does not look at the data that is still to be written. -/
def SendStream.finish (stream : SendStream) : SendStream := { stream with finished := true }

inductive SendAction where
  | sendData (frame : SendFrame)
  | pollReady (answers : List WriteAnswer)
  | finish
  deriving DecidableEq, Repr

def SendStream.step (stream : SendStream) : SendAction → Outcome SendStream
  | .sendData frame => .orPanic ((stream.sendData frame).map Prod.snd)
  | .pollReady answers => .orPanic ((stream.pollReady answers).map Prod.snd)
  | .finish => .next stream.finish

section Buffer
variable {data : WriteBuf}

def WriteBuf.unsent (data : WriteBuf) : List UInt8 := data.buf.drop data.pos ++ data.payload.getD []

theorem WriteBuf.length_unsent : data.unsent.length = data.remaining := by
  rw [unsent, remaining, List.length_append, List.length_drop]

theorem WriteBuf.chunk_spec :
    ∃ after, data.unsent = data.chunk ++ after ∧ (data.remaining ≠ 0 → data.chunk ≠ []) := by
  unfold chunk
  split
  case isTrue header =>
    refine ⟨data.payload.getD [], rfl, ?_⟩
    intro _ empty
    have length := congrArg List.length empty
    rw [List.length_drop, List.length_nil] at length
    omega
  case isFalse written =>
    have all : data.buf.drop data.pos = [] := List.drop_of_length_le (by omega)
    refine ⟨[], by rw [unsent, all, List.nil_append, List.append_nil], ?_⟩
    intro left empty
    rw [← length_unsent, unsent, all, empty] at left
    exact left rfl

theorem WriteBuf.advance_spec {count : Nat} (offered : count ≤ data.remaining) :
    ∃ next, data.advance count = some next ∧ next.unsent = data.unsent.drop count := by
  obtain ⟨buf, pos, payload, within, placed⟩ := data
  have header : buf.drop (pos + min count (buf.length - pos)) = (buf.drop pos).drop count := by
    rw [List.drop_drop]
    by_cases inside : count ≤ buf.length - pos
    · rw [Nat.min_eq_left inside]
    · rw [List.drop_of_length_le (by omega), List.drop_of_length_le (by omega)]
  cases payload with
  | none =>
    refine ⟨_, rfl, ?_⟩
    simp only [unsent, Option.getD_none, List.append_nil, header]
  | some payload =>
    simp only [remaining, Option.getD_some] at offered
    refine ⟨_, if_neg (by simp only; omega), ?_⟩
    simp only [unsent, Option.getD_some, header, List.drop_append, List.length_drop]
    have rest : count - min count (buf.length - pos) = count - (buf.length - pos) := by omega
    rw [rest]

theorem WriteBuf.drain_spec (data : WriteBuf) (accepted : List UInt8) (answers : List WriteAnswer) :
    ∃ result next taken, data.drain accepted answers = some (result, next, accepted ++ taken) ∧
      data.unsent = taken ++ next.unsent ∧ (result = .ready → next.unsent = []) := by
  induction answers generalizing data accepted with
  | nil =>
    refine ⟨_, data, [], by rw [drain, List.append_nil], rfl, ?_⟩
    intro ready
    split at ready
    case isTrue none => exact List.eq_nil_of_length_eq_zero (length_unsent.trans none)
    case isFalse => cases ready
  | cons answer answers ih =>
    unfold drain
    by_cases none : data.remaining = 0
    · refine ⟨.ready, data, [], by rw [if_pos none, List.append_nil], rfl, ?_⟩
      intro _
      exact List.eq_nil_of_length_eq_zero (length_unsent.trans none)
    · rw [if_neg none]
      cases answer with
      | pending => exact ⟨.pending, data, [], by simp only [List.append_nil], rfl, fun ready => by cases ready⟩
      | failed => exact ⟨.failed, data, [], by simp only [List.append_nil], rfl, fun ready => by cases ready⟩
      | wrote count =>
        obtain ⟨after, whole, -⟩ := data.chunk_spec
        have offered : min count data.chunk.length ≤ data.remaining := by
          rw [← length_unsent, whole, List.length_append]
          omega
        obtain ⟨middle, moved, left⟩ := advance_spec offered
        obtain ⟨result, next, taken, drained, split, ready⟩ :=
          ih middle (accepted ++ data.chunk.take (min count data.chunk.length))
        refine ⟨result, next, data.chunk.take (min count data.chunk.length) ++ taken, ?_, ?_, ready⟩
        · simp only [moved, drained, List.append_assoc]
        · have front : data.unsent.take (min count data.chunk.length) =
              data.chunk.take (min count data.chunk.length) := by
            rw [whole, List.take_append_of_le_length (Nat.min_le_right _ _)]
          rw [List.append_assoc, ← split, left, ← front, List.take_append_drop]

theorem WriteBuf.drain_ready (data : WriteBuf) (accepted : List UInt8) {counts : List Nat}
    (moving : ∀ count ∈ counts, 0 < count) (enough : data.remaining ≤ counts.length) :
    ∃ next taken, data.drain accepted (counts.map .wrote) = some (.ready, next, taken) := by
  induction counts generalizing data accepted with
  | nil =>
    have none : data.remaining = 0 := Nat.le_zero.mp enough
    exact ⟨data, accepted, by rw [List.map_nil, drain, if_pos none]⟩
  | cons count counts ih =>
    rw [List.map_cons]
    unfold drain
    by_cases none : data.remaining = 0
    · exact ⟨data, accepted, if_pos none⟩
    · rw [if_neg none]
      obtain ⟨after, whole, offers⟩ := data.chunk_spec
      have some := List.length_pos_of_ne_nil (offers none)
      have positive := moving count List.mem_cons_self
      have offered : min count data.chunk.length ≤ data.remaining := by
        rw [← length_unsent, whole, List.length_append]
        omega
      obtain ⟨middle, moved, left⟩ := advance_spec offered
      have fewer : middle.remaining ≤ counts.length := by
        rw [← length_unsent, left, List.length_drop, length_unsent]
        rw [List.length_cons] at enough
        omega
      simp only [moved]
      exact ih middle _ (fun other member => moving other (List.mem_cons_of_mem _ member)) fewer

theorem WriteBuf.ofFrame_spec {frame : SendFrame} {data : WriteBuf} (made : WriteBuf.ofFrame frame = some data) :
    frame.wire = some data.unsent := by
  unfold ofFrame WriteBuf.new at made
  cases written : frame.encode with
  | none => simp [written] at made
  | some buf =>
    simp only [written] at made
    split at made
    · cases made
      rw [SendFrame.wire, written]
      rfl
    · cases made

end Buffer

section Runs
variable {stream next : SendStream}

def wireOf (frames : List SendFrame) : List UInt8 := frames.flatMap fun frame => frame.wire.getD []

theorem wireOf_cons (frame : SendFrame) (frames : List SendFrame) :
    wireOf (frame :: frames) = frame.wire.getD [] ++ wireOf frames := List.flatMap_cons

def SendStream.unsent (stream : SendStream) : List UInt8 := (stream.writing.map WriteBuf.unsent).getD []

def SendStream.Ordered (stream : SendStream) : Prop := stream.accepted ++ stream.unsent = wireOf stream.frames

theorem SendStream.Ordered.sendData (ordered : stream.Ordered) {frame : SendFrame} {result : Bool}
    (sent : stream.sendData frame = some (result, next)) : next.Ordered := by
  unfold SendStream.sendData at sent
  split at sent
  · cases sent
    exact ordered
  case isFalse idle =>
    cases made : WriteBuf.ofFrame frame with
    | none => simp [made] at sent
    | some data =>
      simp only [made] at sent
      cases sent
      have nothing : stream.writing = none := by
        cases writing : stream.writing with
        | none => rfl
        | some data => rw [writing] at idle; exact absurd rfl idle
      simp only [Ordered, unsent, nothing, Option.map_none, Option.getD_none, List.append_nil] at ordered
      simp only [Ordered, unsent, Option.map_some, Option.getD_some, ordered, wireOf, List.flatMap_append,
        List.flatMap_cons, List.flatMap_nil, List.append_nil, WriteBuf.ofFrame_spec made]

theorem SendStream.Ordered.pollReady (ordered : stream.Ordered) (answers : List WriteAnswer) :
    ∃ result next, stream.pollReady answers = some (result, next) ∧ next.Ordered ∧
      (result = .ready ↔ next.writing = none) := by
  unfold SendStream.pollReady
  cases writing : stream.writing with
  | none => exact ⟨.ready, stream, rfl, ordered, by simp [writing]⟩
  | some data =>
    obtain ⟨result, rest, taken, drained, split, ready⟩ :=
      data.drain_spec stream.accepted (if stream.finished then answers.map fun _ => .failed else answers)
    simp only [drained]
    simp only [Ordered, unsent, writing, Option.map_some, Option.getD_some, split] at ordered
    cases result with
    | ready =>
      rw [ready rfl, List.append_nil] at ordered
      refine ⟨.ready, _, rfl, ?_, by simp⟩
      simp only [Ordered, unsent, Option.map_none, Option.getD_none, List.append_nil, ordered]
    | pending =>
      refine ⟨.pending, _, rfl, ?_, by simp⟩
      simp only [Ordered, unsent, Option.map_some, Option.getD_some, List.append_assoc, ordered]
    | failed =>
      refine ⟨.failed, _, rfl, ?_, by simp⟩
      simp only [Ordered, unsent, Option.map_some, Option.getD_some, List.append_assoc, ordered]

theorem SendStream.pollReady_frames {answers : List WriteAnswer} {result : ReadyResult}
    (polled : stream.pollReady answers = some (result, next)) : next.frames = stream.frames := by
  unfold SendStream.pollReady at polled
  split at polled
  · cases polled
    rfl
  · simp only at polled
    split at polled <;> cases polled <;> rfl

theorem SendStream.Ordered.step (ordered : stream.Ordered) {action : SendAction}
    (taken : stream.step action = .next next) : next.Ordered := by
  cases action with
  | sendData frame =>
    obtain ⟨⟨result, after⟩, sent, rfl⟩ := Option.map_eq_some_iff.mp (Outcome.orPanic_eq_next.mp taken)
    exact ordered.sendData sent
  | pollReady answers =>
    obtain ⟨result, after, polled, kept, -⟩ := ordered.pollReady answers
    rw [SendStream.step, polled] at taken
    cases taken
    exact kept
  | finish =>
    cases taken
    exact ordered

theorem SendStream.Ordered.start : SendStream.start.Ordered := rfl

/-- What the transport has taken is a beginning of the frames accepted for sending, in their
order, and all of them when nothing is left to write. A poll never panics, and is ready when
the transport takes at least a byte at a time. -/
theorem SendStream.transmits {actions : List SendAction} (run : Run SendStream.step .start actions stream) :
    stream.accepted <+: wireOf stream.frames ∧
      (stream.writing = none → stream.accepted = wireOf stream.frames) ∧
      (∀ answers, ∃ result next, stream.pollReady answers = some (result, next) ∧ next.frames = stream.frames ∧
        (result = .ready → next.accepted = wireOf stream.frames)) ∧
      (stream.finished = false → ∀ counts : List Nat, (∀ count ∈ counts, 0 < count) →
        (wireOf stream.frames).length ≤ stream.accepted.length + counts.length →
        ∃ next, stream.pollReady (counts.map .wrote) = some (.ready, next)) := by
  have ordered : stream.Ordered := Run.preserves (fun _ _ _ held taken => held.step taken) run .start
  refine ⟨⟨stream.unsent, ordered⟩, ?_, ?_, ?_⟩
  · intro idle
    simpa only [Ordered, unsent, idle, Option.map_none, Option.getD_none, List.append_nil] using ordered
  · intro answers
    obtain ⟨result, next, polled, kept, ready⟩ := ordered.pollReady answers
    have same : next.frames = stream.frames := SendStream.pollReady_frames polled
    refine ⟨result, next, polled, same, ?_⟩
    intro isReady
    simpa only [Ordered, unsent, ready.mp isReady, same, Option.map_none, Option.getD_none,
      List.append_nil] using kept
  · intro going counts moving enough
    cases writing : stream.writing with
    | none => exact ⟨stream, by rw [SendStream.pollReady, writing]⟩
    | some data =>
      have length := congrArg List.length ordered
      simp only [unsent, writing, Option.map_some, Option.getD_some, List.length_append,
        WriteBuf.length_unsent] at length
      obtain ⟨next, taken, drained⟩ := data.drain_ready stream.accepted moving (by omega)
      refine ⟨{ stream with writing := none, accepted := taken }, ?_⟩
      simp only [SendStream.pollReady, writing, going, Bool.false_eq_true, if_false, drained]

-- a header and a payload that leave in three parts, the middle one across their border
theorem SendStream.transmits_hello :
    ∃ stream : SendStream, stream.frames = [.data [104, 105]] ∧ stream.accepted = [0, 2, 104] ∧
      stream.accepted <+: wireOf stream.frames := by
  have run := run_of_execute (show execute SendStream.step .start [.sendData (.data [104, 105]),
    .pollReady [.wrote 1, .pending], .pollReady [.wrote 7, .wrote 1, .pending]] = .next _ from rfl)
  exact ⟨_, rfl, rfl, (SendStream.transmits run).1⟩

theorem dataFrames_of_payloads {payloads : List (List UInt8)} (small : ∀ payload ∈ payloads, payload.length < 2 ^ 62)
    (some : ∀ payload ∈ payloads, payload ≠ []) :
    ∃ frames : List DataFrame, wireBytes frames = wireOf (payloads.map .data) ∧ content frames = payloads.flatten ∧
      OnlyLastEmpty frames := by
  induction payloads with
  | nil => exact ⟨[], rfl, rfl, trivial⟩
  | cons payload payloads ih =>
    obtain ⟨frames, wire, same, only⟩ := ih (fun other member => small other (List.mem_cons_of_mem _ member))
      fun other member => some other (List.mem_cons_of_mem _ member)
    have fits := small payload List.mem_cons_self
    have encodes : ∀ number : VarInt, Encodes number.encode number.value := by
      intro number
      have read := number.getVar_encode []
      rwa [List.append_nil] at read
    refine ⟨⟨_, _, payload, encodes ⟨0x0, by decide⟩, encodes ⟨payload.length, fits⟩⟩ :: frames, ?_, ?_, ?_⟩
    · rw [wireBytes_cons, wire, DataFrame.bytes, List.map_cons, wireOf_cons, SendFrame.wire, SendFrame.encode,
        encodeHeader_of_lt (by decide) fits, ← List.append_assoc]
      rfl
    · rw [content_cons, same, List.flatten_cons]
    · exact ⟨.inr (some payload List.mem_cons_self), only⟩

/-- Data that was sent and taken by the transport, in whatever pieces, is read back by a
reader as it was, whatever its deliveries and buffers. -/
theorem SendStream.data_reads_back {actions : List SendAction} (run : Run SendStream.step .start actions stream)
    {payloads : List (List UInt8)} (sent : stream.frames = payloads.map .data) (drained : stream.writing = none)
    (small : ∀ payload ∈ payloads, payload.length < 2 ^ 62) (some : ∀ payload ∈ payloads, payload ≠ [])
    (decodeFields : List UInt8 → Bool) : ReadsAs decodeFields stream.accepted payloads.flatten := by
  have ordered : stream.Ordered := Run.preserves (fun _ _ _ held taken => held.step taken) run .start
  obtain ⟨frames, wire, same, only⟩ := dataFrames_of_payloads small some
  have all : stream.accepted = wireBytes frames := by
    simpa only [Ordered, unsent, drained, Option.map_none, Option.getD_none, List.append_nil, sent, ← wire] using ordered
  rw [all, ← same]
  exact only.readsAs decodeFields

theorem SendStream.data_reads_back_hello :
    ReadsAs (fun _ => true) [0, 2, 104, 105, 0, 1, 33] [104, 105, 33] := by
  have run := run_of_execute (show execute SendStream.step .start [.sendData (.data [104, 105]),
    .pollReady [.wrote 3], .pollReady [.wrote 9], .sendData (.data [33]), .pollReady [.wrote 2, .wrote 2]] =
      .next _ from rfl)
  have sent : _ = [[104, 105], [33]].map SendFrame.data := rfl
  exact SendStream.data_reads_back run sent rfl (by decide) (by decide) _

end Runs

end ProxyTunnels.Http3
