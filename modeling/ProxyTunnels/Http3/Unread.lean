import ProxyTunnels.Http3.FrameStream

/-! What the frame layer has not consumed, whatever the chunk boundaries.

The unread bytes of a stream are those buffered, arrived and still to arrive, in order.
Every operation takes frames or payload off their front, and which frames it takes
depends on these bytes alone: unknown frames are skipped, the rest is settled.
-/

set_option autoImplicit false

namespace ProxyTunnels.Http3

theorem flatten_advance (bufs : List (List UInt8)) (count : Nat) :
    (advance bufs count).flatten = bufs.flatten.drop count := by
  induction bufs generalizing count with
  | nil => cases count <;> simp [advance]
  | cons front rest ih =>
    cases count with
    | zero => simp [advance]
    | succ count =>
      unfold advance
      split
      · rename_i longer
        rw [List.flatten_cons, List.flatten_cons, List.drop_append_of_le_length (by omega)]
      · rename_i shorter
        have passed : front.drop (count + 1) = [] := List.drop_eq_nil_of_le (by omega)
        rw [ih, List.flatten_cons, List.drop_append, passed, List.nil_append]

theorem drop_to_suffix {bytes consumed rest : List UInt8} (same : bytes = consumed ++ rest) :
    bytes.drop (bytes.length - rest.length) = rest := by
  subst same
  rw [List.length_append, Nat.add_sub_cancel, List.drop_left]

theorem advance_nonempty {bufs : List (List UInt8)} (nonempty : ∀ chunk ∈ bufs, chunk ≠ [])
    (count : Nat) : ∀ chunk ∈ advance bufs count, chunk ≠ [] := by
  induction bufs generalizing count with
  | nil => cases count <;> simp [advance]
  | cons front rest ih =>
    cases count with
    | zero => simpa [advance] using nonempty
    | succ count =>
      unfold advance
      have later : ∀ chunk ∈ rest, chunk ≠ [] := fun chunk member =>
        nonempty chunk (List.mem_cons_of_mem _ member)
      split
      · rename_i longer
        intro chunk member
        rcases List.mem_cons.mp member with rfl | member
        · intro nothing
          have bound := congrArg List.length nothing
          simp only [List.length_drop, List.length_nil] at bound
          omega
        · exact later chunk member
      · exact ih later _

theorem takeChunk_some {front : List UInt8} {rest : List (List UInt8)} {max : Nat}
    (nonempty : ∀ chunk ∈ front :: rest, chunk ≠ []) (positive : 0 < max) :
    ∃ data kept, takeChunk (front :: rest) max = (some data, kept) ∧ data ≠ [] ∧ data.length ≤ max ∧
      (front :: rest).flatten = data ++ kept.flatten ∧ ∀ chunk ∈ kept, chunk ≠ [] := by
  have later : ∀ chunk ∈ rest, chunk ≠ [] := fun chunk member =>
    nonempty chunk (List.mem_cons_of_mem _ member)
  have some : front.take max ≠ [] := by
    intro nothing
    rcases List.take_eq_nil_iff.mp nothing with zero | empty
    · omega
    · exact nonempty front (List.mem_cons_self ..) empty
  refine ⟨front.take max, if (front.drop max).isEmpty then rest else front.drop max :: rest, rfl, some,
    List.length_take_le _ _, ?_, ?_⟩
  · by_cases empty : (front.drop max).isEmpty
    · rw [if_pos empty]
      have nothing := List.isEmpty_iff.mp empty
      have whole := List.take_append_drop max front
      rw [nothing, List.append_nil] at whole
      rw [List.flatten_cons, whole]
    · rw [if_neg empty, List.flatten_cons, List.flatten_cons, ← List.append_assoc, List.take_append_drop]
  · by_cases empty : (front.drop max).isEmpty
    · rw [if_pos empty]
      exact later
    · rw [if_neg empty]
      intro chunk member
      rcases List.mem_cons.mp member with rfl | member
      · exact fun nothing => empty (List.isEmpty_iff.mpr nothing)
      · exact later chunk member

inductive Skip : List UInt8 → List UInt8 → Prop where
  | refl {bytes : List UInt8} : Skip bytes bytes
  | unknown {bytes rest final : List UInt8} {ty : Nat} :
      Frame.decode bytes = .unknown ty rest → Skip rest final → Skip bytes final

theorem Skip.append {bytes rest : List UInt8} (skipped : Skip bytes rest) (more : List UInt8) :
    Skip (bytes ++ more) (rest ++ more) := by
  induction skipped with
  | refl => exact .refl
  | @unknown bytes rest final ty passed _ ih =>
    have longer : Frame.decode (bytes ++ more) = .unknown ty (rest ++ more) := by
      rw [Frame.decode_append (by rw [passed]; trivial) more, passed]
      rfl
    exact .unknown longer ih

theorem Skip.trans {first second third : List UInt8} (left : Skip first second)
    (right : Skip second third) : Skip first third := by
  induction left with
  | refl => exact right
  | unknown passed _ ih => exact .unknown passed (ih right)

theorem Skip.before {bytes first second rest : List UInt8} {frame : Frame} (left : Skip bytes first)
    (found : Frame.decode first = .frame frame rest) (right : Skip bytes second) : Skip second first := by
  induction right with
  | refl => exact left
  | unknown passed _ ih =>
    apply ih
    cases left with
    | refl =>
      rw [found] at passed
      cases passed
    | unknown same onward =>
      rw [passed] at same
      cases same
      exact onward

theorem Skip.frame_unique {bytes first second rest after : List UInt8} {frame other : Frame}
    (left : Skip bytes first) (found : Frame.decode first = .frame frame rest) (right : Skip bytes second)
    (same : Frame.decode second = .frame other after) : frame = other ∧ rest = after := by
  cases left.before found right with
  | refl =>
    rw [found] at same
    cases same
    exact ⟨rfl, rfl⟩
  | unknown passed _ =>
    rw [same] at passed
    cases passed

/-- The decoder's waiting size was asked for by a part of what it holds. -/
def Gate (expected : Option Nat) (bytes : List UInt8) : Prop :=
  ∀ min, expected = some min → ∃ front back, bytes = front ++ back ∧
    Frame.decode front = .incomplete min

theorem Gate.none (bytes : List UInt8) : Gate none bytes := by
  intro min impossible
  cases impossible

theorem Gate.append {expected : Option Nat} {bytes : List UInt8} (gate : Gate expected bytes)
    (more : List UInt8) : Gate expected (bytes ++ more) := by
  intro min asked
  obtain ⟨front, back, rfl, waiting⟩ := gate min asked
  exact ⟨front, back ++ more, List.append_assoc .., waiting⟩

inductive LoopResult (bytes rest : List UInt8) : Except FrameError (Option Frame) → Prop where
  | waiting {min : Nat} : Skip bytes rest → Frame.decode rest = .incomplete min →
      LoopResult bytes rest (.ok none)
  | failed {error : FrameError} : Skip bytes rest → Frame.decode rest = .failed error →
      LoopResult bytes rest (.error error)
  | frame {middle : List UInt8} {frame : Frame} : Skip bytes middle →
      Frame.decode middle = .frame frame rest → LoopResult bytes rest (.ok (some frame))

theorem LoopResult.skip {bytes middle rest : List UInt8} {ty : Nat}
    {result : Except FrameError (Option Frame)} (passed : Frame.decode bytes = .unknown ty middle)
    (held : LoopResult middle rest result) : LoopResult bytes rest result := by
  cases held with
  | waiting skipped waits => exact .waiting (.unknown passed skipped) waits
  | failed skipped fails => exact .failed (.unknown passed skipped) fails
  | frame skipped settled => exact .frame (.unknown passed skipped) settled

theorem decodeLoop_spec {rounds : Nat} {expected : Option Nat} {bytes : List UInt8}
    (enough : bytes.length < rounds) (gate : Gate expected bytes) :
    LoopResult bytes (decodeLoop rounds expected bytes).2.1 (decodeLoop rounds expected bytes).1 ∧
      Gate (decodeLoop rounds expected bytes).2.2 (decodeLoop rounds expected bytes).2.1 := by
  induction rounds generalizing expected bytes with
  | zero => exact absurd enough (Nat.not_lt_zero _)
  | succ rounds ih =>
    unfold decodeLoop
    by_cases empty : bytes.isEmpty
    · rw [if_pos empty]
      have nothing : bytes = [] := List.isEmpty_iff.mp empty
      subst nothing
      exact ⟨.waiting .refl rfl, gate⟩
    · rw [if_neg empty]
      by_cases below : expected.any (fun min => decide (bytes.length < min))
      · rw [if_pos below]
        obtain ⟨min, asked, short⟩ := Option.any_eq_true .. |>.mp below
        obtain ⟨front, back, rfl, waiting⟩ := gate min asked
        obtain ⟨other, still⟩ := Frame.decode_below waiting (of_decide_eq_true short)
        exact ⟨.waiting .refl still, gate⟩
      · rw [if_neg below]
        cases decoded : Frame.decode bytes with
        | incomplete min =>
          refine ⟨.waiting .refl decoded, ?_⟩
          intro asked same
          cases same
          exact ⟨bytes, [], (List.append_nil _).symm, decoded⟩
        | failed error => exact ⟨.failed .refl decoded, gate⟩
        | frame frame rest => exact ⟨.frame .refl decoded, Gate.none _⟩
        | unknown ty rest =>
          have left : (Frame.decode bytes).rest? = some rest := by rw [decoded]; rfl
          obtain ⟨consumed, same, nonempty⟩ := Frame.decode_rest left
          have shorter : rest.length < rounds := by
            have bound := congrArg List.length same
            have positive := List.length_pos_iff.mpr nonempty
            rw [List.length_append] at bound
            omega
          obtain ⟨held, kept⟩ := ih shorter (Gate.none rest)
          exact ⟨held.skip decoded, kept⟩

theorem decodeLoop_frame {rounds : Nat} {expected : Option Nat} {bytes : List UInt8} {frame : Frame}
    (found : (decodeLoop rounds expected bytes).1 = .ok (some frame)) :
    (decodeLoop rounds expected bytes).2.2 = none := by
  induction rounds generalizing expected bytes with
  | zero => cases found
  | succ rounds ih =>
    unfold decodeLoop at found ⊢
    split at found
    · cases found
    · rename_i some
      rw [if_neg some]
      split at found
      · cases found
      · rename_i above
        rw [if_neg above]
        cases decoded : Frame.decode bytes with
        | unknown ty rest =>
          simp only [decoded] at found ⊢
          exact ih found
        | frame frame rest => rfl
        | incomplete min => simp [decoded] at found
        | failed error => simp [decoded] at found

theorem Skip.suffix {bytes rest : List UInt8} (skipped : Skip bytes rest) :
    ∃ consumed, bytes = consumed ++ rest := by
  induction skipped with
  | refl => exact ⟨[], rfl⟩
  | @unknown bytes rest final ty passed _ ih =>
    have left : (Frame.decode bytes).rest? = some rest := by rw [passed]; rfl
    obtain ⟨first, same, -⟩ := Frame.decode_rest left
    obtain ⟨second, rfl⟩ := ih
    exact ⟨first ++ second, by rw [same, List.append_assoc]⟩

theorem LoopResult.suffix {bytes rest : List UInt8} {result : Except FrameError (Option Frame)}
    (held : LoopResult bytes rest result) : ∃ consumed, bytes = consumed ++ rest := by
  cases held with
  | waiting skipped _ => exact skipped.suffix
  | failed skipped _ => exact skipped.suffix
  | @frame middle frame skipped settled =>
    have left : (Frame.decode middle).rest? = some rest := by rw [settled]; rfl
    obtain ⟨first, same⟩ := skipped.suffix
    obtain ⟨second, rfl, -⟩ := Frame.decode_rest left
    exact ⟨first ++ second, by rw [same, List.append_assoc]⟩

def RecvStream.unread (recv : RecvStream) : List UInt8 := recv.arrived.flatten ++ recv.incoming

def FrameStream.unread (stream : FrameStream) : List UInt8 := stream.buf.flatten ++ stream.recv.unread

/-- Chunks are never empty, the end comes last, and the decoder waits for a reason. -/
structure FrameStream.Sound (stream : FrameStream) : Prop where
  buffered : ∀ chunk ∈ stream.buf, chunk ≠ []
  arriving : ∀ chunk ∈ stream.recv.arrived, chunk ≠ []
  finished : stream.recv.fin = true → stream.recv.incoming = []
  ended : stream.eos = true → stream.recv.unread = []
  gate : Gate stream.expected stream.buf.flatten
  fresh : stream.remainingData ≠ 0 → stream.expected = none
  released : stream.eos = true → stream.recv.reading = false

structure FrameStream.Idle (stream : FrameStream) : Prop where
  eos : stream.eos = false
  reset : stream.recv.reset = false
  fin : stream.recv.fin = false
  arrived : stream.recv.arrived = []

def FrameStream.setReading (stream : FrameStream) (reading : Bool) : FrameStream :=
  { stream with recv := { stream.recv with reading } }

/-- How `try_recv` can go. It moves at most one chunk into the buffer. -/
inductive Received (stream next : FrameStream) : Polled Bool → Prop where
  | chunk {front : List UInt8} {rest : List (List UInt8)} : ¬ stream.Idle → next.recv.reading = false →
      stream.recv.arrived = front :: rest → next.recv.arrived = rest →
      next.buf = stream.buf ++ [front] → Received stream next (.ready false)
  | ended : ¬ stream.Idle → next.eos = true → Received stream next (.ready true)
  | pending : stream.Idle → next = stream.setReading true → Received stream next .pending
  | reset : stream.recv.reset = true → next = stream.setReading false → Received stream next (.failed .quic)

structure FrameStream.Keeps (stream next : FrameStream) : Prop where
  fin : next.recv.fin = stream.recv.fin
  reset : next.recv.reset = stream.recv.reset
  incoming : next.recv.incoming = stream.recv.incoming

theorem FrameStream.Keeps.refl (stream : FrameStream) : stream.Keeps stream := ⟨rfl, rfl, rfl⟩

theorem FrameStream.Keeps.trans {first second third : FrameStream} (left : first.Keeps second)
    (right : second.Keeps third) : first.Keeps third :=
  ⟨right.fin.trans left.fin, right.reset.trans left.reset, right.incoming.trans left.incoming⟩

section Operations
variable {stream : FrameStream}

theorem FrameStream.tryRecv_spec (sound : stream.Sound) :
    Received stream stream.tryRecv.2 stream.tryRecv.1 ∧ stream.tryRecv.2.Sound ∧
      stream.tryRecv.2.unread = stream.unread ∧ stream.Keeps stream.tryRecv.2 ∧
      stream.tryRecv.2.remainingData = stream.remainingData := by
  cases eos : stream.eos with
  | true =>
    have outcome : stream.tryRecv = (.ready true, stream) := by simp [FrameStream.tryRecv, eos]
    rw [outcome]
    exact ⟨.ended (fun idle => by simp [idle.eos] at eos) eos, sound, rfl, .refl _, rfl⟩
  | false =>
    cases reset : stream.recv.reset with
    | true =>
      have outcome : stream.tryRecv = (.failed .quic, stream.setReading false) := by
        simp [FrameStream.tryRecv, RecvStream.pollData, FrameStream.setReading, eos, reset]
      rw [outcome]
      exact ⟨.reset reset rfl, { sound with released := fun _ => rfl }, rfl, ⟨rfl, rfl, rfl⟩, rfl⟩
    | false =>
      cases arrived : stream.recv.arrived with
      | nil =>
        cases fin : stream.recv.fin with
        | false =>
          have outcome : stream.tryRecv = (.pending, stream.setReading true) := by
            simp [FrameStream.tryRecv, RecvStream.pollData, FrameStream.setReading, eos, reset, arrived, fin]
          rw [outcome]
          refine ⟨.pending ⟨eos, reset, fin, arrived⟩ rfl, { sound with released := ?_ }, rfl, ⟨rfl, rfl, rfl⟩, rfl⟩
          exact fun ended => absurd (eos.symm.trans ended) Bool.false_ne_true
        | true =>
          have outcome : stream.tryRecv = (.ready true, { stream.setReading false with eos := true }) := by
            simp [FrameStream.tryRecv, RecvStream.pollData, FrameStream.setReading, eos, reset, arrived, fin]
          rw [outcome]
          refine ⟨.ended (fun idle => by simp [idle.fin] at fin) rfl, ?_, rfl, ⟨rfl, rfl, rfl⟩, rfl⟩
          refine { sound with ended := fun _ => ?_, released := fun _ => rfl }
          simp only [FrameStream.setReading, RecvStream.unread, arrived, sound.finished fin, List.flatten_nil,
            List.append_nil]
      | cons front rest =>
        have outcome : stream.tryRecv = (.ready false, { stream with
            recv := { stream.recv with arrived := rest, reading := false }, buf := stream.buf ++ [front] }) := by
          simp [FrameStream.tryRecv, RecvStream.pollData, eos, reset, arrived]
        have member : front ∈ stream.recv.arrived := by simp [arrived]
        rw [outcome]
        refine ⟨.chunk (fun idle => by simp [idle.arrived] at arrived) rfl arrived rfl rfl, ?_, ?_,
          ⟨rfl, rfl, rfl⟩, rfl⟩
        · constructor
          · intro chunk present
            rcases List.mem_append.mp present with old | new
            · exact sound.buffered chunk old
            · rw [List.mem_singleton.mp new]
              exact sound.arriving front member
          · intro chunk present
            exact sound.arriving chunk (by rw [arrived]; exact List.mem_cons_of_mem _ present)
          · exact sound.finished
          · intro impossible
            exact absurd (eos.symm.trans impossible) Bool.false_ne_true
          · simpa using sound.gate.append front
          · exact sound.fresh
          · exact fun _ => rfl
        · simp [FrameStream.unread, RecvStream.unread, arrived]

theorem FrameStream.decode_spec (sound : stream.Sound) (empty : stream.remainingData = 0) :
    LoopResult stream.buf.flatten stream.decode.2.buf.flatten stream.decode.1 ∧
      stream.decode.2.Sound ∧ stream.decode.2.recv = stream.recv ∧
      stream.decode.2.eos = stream.eos ∧ stream.decode.2.remainingData = stream.remainingData := by
  obtain ⟨held, gate⟩ := decodeLoop_spec (Nat.lt_succ_self _) sound.gate
  obtain ⟨consumed, same⟩ := held.suffix
  have kept : (advance stream.buf (stream.buf.flatten.length -
      (decodeLoop (stream.buf.flatten.length + 1) stream.expected stream.buf.flatten).2.1.length)).flatten =
      (decodeLoop (stream.buf.flatten.length + 1) stream.expected stream.buf.flatten).2.1 := by
    rw [flatten_advance]
    exact drop_to_suffix same
  refine ⟨?_, ?_, rfl, rfl, rfl⟩
  · simp only [FrameStream.decode]
    rw [kept]
    exact held
  · constructor
    · exact advance_nonempty sound.buffered _
    · exact sound.arriving
    · exact sound.finished
    · exact sound.ended
    · simp only [FrameStream.decode]
      rw [kept]
      exact gate
    · exact fun some => absurd empty some
    · exact sound.released

theorem FrameStream.decode_frame {next : FrameStream} {frame : Frame}
    (decoding : stream.decode = (.ok (some frame), next)) : next.expected = none := by
  have left : (decodeLoop (stream.buf.flatten.length + 1) stream.expected stream.buf.flatten).2.2 =
      next.expected := congrArg (fun pair => pair.2.expected) decoding
  have found : (decodeLoop (stream.buf.flatten.length + 1) stream.expected stream.buf.flatten).1 =
      .ok (some frame) := congrArg Prod.fst decoding
  rw [← left]
  exact decodeLoop_frame found

/-- How `poll_next` can go, in terms of the unread bytes. -/
inductive NextResult (stream next : FrameStream) : Polled (Option Frame) → Prop where
  | pending : Skip stream.unread next.unread → next.remainingData = 0 →
      stream.recv.fin = false → NextResult stream next .pending
  | reset : Skip stream.unread next.unread → next.remainingData = 0 →
      stream.recv.reset = true → NextResult stream next (.failed .quic)
  | proto {error : FrameError} : Skip stream.unread next.unread → next.remainingData = 0 →
      Frame.decode next.unread = .failed error → NextResult stream next (.failed (.proto error))
  | truncated {min : Nat} : Skip stream.unread next.unread → next.remainingData = 0 →
      Frame.decode next.unread = .incomplete min → next.unread ≠ [] →
      NextResult stream next (.failed .unexpectedEnd)
  | ended : Skip stream.unread next.unread → next.remainingData = 0 → next.unread = [] →
      NextResult stream next (.ready none)
  | frame {middle : List UInt8} {frame : Frame} : Skip stream.unread middle →
      Frame.decode middle = .frame frame next.unread → next.remainingData = frame.remaining →
      NextResult stream next (.ready (some frame))

theorem NextResult.after {first second third : FrameStream} {result : Polled (Option Frame)}
    (skipped : Skip first.unread second.unread) (kept : first.Keeps second)
    (held : NextResult second third result) : NextResult first third result := by
  cases held with
  | pending more empty unended => exact .pending (skipped.trans more) empty (kept.fin ▸ unended)
  | reset more empty broken => exact .reset (skipped.trans more) empty (kept.reset ▸ broken)
  | proto more empty fails => exact .proto (skipped.trans more) empty fails
  | truncated more empty waits some => exact .truncated (skipped.trans more) empty waits some
  | ended more empty none => exact .ended (skipped.trans more) empty none
  | frame more settled left => exact .frame (skipped.trans more) settled left

def DecodeVerdict (stream next : FrameStream) : Except FrameError (Option Frame) → Prop
  | .error error => NextResult stream next (.failed (.proto error))
  | .ok (some frame) =>
      NextResult stream { next with remainingData := frame.remaining } (.ready (some frame))
  | .ok none => Skip stream.unread next.unread ∧
      ∃ min, Frame.decode next.buf.flatten = .incomplete min

theorem FrameStream.decode_next (sound : stream.Sound) (empty : stream.remainingData = 0)
    {decoded : Except FrameError (Option Frame)} {next : FrameStream}
    (decoding : stream.decode = (decoded, next)) :
    next.Sound ∧ next.recv = stream.recv ∧ next.eos = stream.eos ∧ next.remainingData = 0 ∧
      DecodeVerdict stream next decoded := by
  obtain ⟨held, soundNext, sameRecv, sameEos, sameData⟩ := stream.decode_spec sound empty
  rw [decoding] at held soundNext sameRecv sameEos sameData
  have left : next.unread = next.buf.flatten ++ stream.recv.unread := by rw [← sameRecv]; rfl
  refine ⟨soundNext, sameRecv, sameEos, sameData.trans empty, ?_⟩
  cases held with
  | waiting skipped waits =>
    refine ⟨?_, _, waits⟩
    rw [left]
    exact skipped.append _
  | failed skipped fails =>
    refine .proto ?_ (sameData.trans empty) ?_
    · rw [left]
      exact skipped.append _
    · rw [left, Frame.decode_append (by rw [fails]; trivial), fails]
      rfl
  | frame skipped settled =>
    refine .frame (skipped.append stream.recv.unread) ?_ rfl
    rw [Frame.decode_append (by rw [settled]; trivial), settled]
    exact congrArg (Decoded.frame _) left.symm

theorem FrameStream.nextLoop_spec {rounds : Nat} (sound : stream.Sound)
    (enough : stream.recv.arrived.length < rounds) (empty : stream.remainingData = 0) :
    NextResult stream (stream.nextLoop rounds).2 (stream.nextLoop rounds).1 ∧
      (stream.nextLoop rounds).2.Sound ∧ stream.Keeps (stream.nextLoop rounds).2 := by
  induction rounds generalizing stream with
  | zero => exact absurd enough (Nat.not_lt_zero _)
  | succ rounds ih =>
    obtain ⟨received, soundMiddle, sameUnread, kept, sameData⟩ := stream.tryRecv_spec sound
    unfold FrameStream.nextLoop
    rcases outcome : stream.tryRecv with ⟨polled, middle⟩
    rw [outcome] at received soundMiddle sameUnread kept sameData
    have skipped : Skip stream.unread middle.unread := sameUnread ▸ Skip.refl
    rcases decoding : middle.decode with ⟨decoded, final⟩
    obtain ⟨soundFinal, sameRecv, sameEos, finalEmpty, verdict⟩ :=
      middle.decode_next soundMiddle (sameData.trans empty) decoding
    have keptFinal : stream.Keeps final := by
      refine kept.trans ?_
      constructor <;> rw [sameRecv]
    -- an error or a frame ends the poll whatever was received
    have settled : ∀ result last, decoded ≠ .ok none →
        (match decoded with
          | .error error => (Polled.failed (.proto error), final)
          | .ok (some frame) => (.ready (some frame), { final with remainingData := frame.remaining })
          | .ok none => (.pending, final)) = (result, last) →
        NextResult stream last result ∧ last.Sound ∧ stream.Keeps last := by
      intro result last decided same
      rcases decoded with error | (_ | frame)
      · cases same
        exact ⟨NextResult.after skipped kept verdict, soundFinal, keptFinal⟩
      · exact absurd rfl decided
      · cases same
        have waitless := FrameStream.decode_frame decoding
        exact ⟨NextResult.after skipped kept verdict, { soundFinal with fresh := fun _ => waitless },
          ⟨keptFinal.1, keptFinal.2, keptFinal.3⟩⟩
    cases received with
    | reset broken _ => exact ⟨.reset skipped (sameData.trans empty) broken, soundMiddle, kept⟩
    | pending idle _ =>
      simp only [decoding]
      rcases decoded with error | (_ | frame)
      · exact settled _ _ (by simp) rfl
      · exact ⟨.pending (skipped.trans verdict.1) finalEmpty idle.fin, soundFinal, keptFinal⟩
      · exact settled _ _ (by simp) rfl
    | ended _ ended =>
      simp only [decoding]
      rcases decoded with error | (_ | frame)
      · exact settled _ _ (by simp) rfl
      · obtain ⟨passed, min, waits⟩ := verdict
        have drained : final.recv.unread = [] := soundFinal.ended (sameEos.trans ended)
        have all : final.unread = final.buf.flatten := by
          rw [FrameStream.unread, drained, List.append_nil]
        by_cases finished : final.buf.flatten.isEmpty
        · simp only [if_pos finished]
          refine ⟨.ended (skipped.trans passed) finalEmpty ?_, soundFinal, keptFinal⟩
          rw [all]
          exact List.isEmpty_iff.mp finished
        · simp only [if_neg finished]
          refine ⟨.truncated (skipped.trans passed) finalEmpty (all ▸ waits) ?_, soundFinal, keptFinal⟩
          rw [all]
          exact fun nothing => finished (List.isEmpty_iff.mpr nothing)
      · exact settled _ _ (by simp) rfl
    | chunk _ _ arrived left _ =>
      simp only [decoding]
      rcases decoded with error | (_ | frame)
      · exact settled _ _ (by simp) rfl
      · have fewer : final.recv.arrived.length < rounds := by
          rw [sameRecv, left]
          rw [arrived] at enough
          exact Nat.lt_of_succ_lt_succ enough
        obtain ⟨held, soundLast, keptLast⟩ := ih soundFinal fewer finalEmpty
        exact ⟨held.after (skipped.trans verdict.1) keptFinal, soundLast, keptFinal.trans keptLast⟩
      · exact settled _ _ (by simp) rfl

theorem FrameStream.pollNext_spec (sound : stream.Sound) (empty : stream.remainingData = 0) :
    NextResult stream stream.pollNext.2 stream.pollNext.1 ∧ stream.pollNext.2.Sound ∧
      stream.Keeps stream.pollNext.2 := by
  unfold FrameStream.pollNext
  rw [if_pos empty]
  exact stream.nextLoop_spec sound (Nat.lt_succ_self _) empty

def FrameStream.Holds (stream : FrameStream) (frame : Frame) : Prop :=
  ∃ middle rest, Skip stream.buf.flatten middle ∧ Frame.decode middle = .frame frame rest

theorem LoopResult.of_skip {bytes left middle rest : List UInt8} {frame : Frame}
    {result : Except FrameError (Option Frame)} (held : LoopResult bytes left result) (skipped : Skip bytes middle)
    (found : Frame.decode middle = .frame frame rest) : result = .ok (some frame) := by
  cases held with
  | waiting passed waits =>
    cases skipped.before found passed with
    | refl => simp [found] at waits
    | unknown same _ => simp [same] at waits
  | failed passed fails =>
    cases skipped.before found passed with
    | refl => simp [found] at fails
    | unknown same _ => simp [same] at fails
  | frame passed settled =>
    obtain ⟨rfl, -⟩ := skipped.frame_unique found passed settled
    rfl

/-- How `poll_data` can go while payload is left to read. -/
inductive DataResult (stream next : FrameStream) : Polled (Option (List UInt8)) → Prop where
  | pending : next.unread = stream.unread → next.remainingData = stream.remainingData →
      stream.recv.fin = false → DataResult stream next .pending
  | reset : next.unread = stream.unread → next.remainingData = stream.remainingData →
      stream.recv.reset = true → DataResult stream next (.failed .quic)
  | truncated : next.unread = [] → next.remainingData = stream.remainingData →
      stream.unread ≠ [] → stream.unread.length < stream.remainingData →
      DataResult stream next (.failed .unexpectedEnd)
  | ended : stream.unread = [] → next.unread = [] → next.remainingData = stream.remainingData →
      DataResult stream next (.ready none)
  | chunk {data : List UInt8} : data ≠ [] → data.length ≤ stream.remainingData →
      stream.unread = data ++ next.unread →
      next.remainingData = stream.remainingData - data.length →
      DataResult stream next (.ready (some data))

theorem DataResult.after {first second third : FrameStream} {result : Polled (Option (List UInt8))}
    (sameUnread : second.unread = first.unread) (sameData : second.remainingData = first.remainingData)
    (kept : first.Keeps second) (held : DataResult second third result) :
    DataResult first third result := by
  cases held with
  | pending left data unended => exact .pending (left.trans sameUnread) (data.trans sameData) (kept.fin ▸ unended)
  | reset left data broken => exact .reset (left.trans sameUnread) (data.trans sameData) (kept.reset ▸ broken)
  | truncated left data some short =>
    exact .truncated left (data.trans sameData) (sameUnread ▸ some) (sameUnread ▸ sameData ▸ short)
  | ended nothing left data => exact .ended (sameUnread ▸ nothing) left (data.trans sameData)
  | chunk some bounded taken left => exact .chunk some (sameData ▸ bounded) (sameUnread ▸ taken) (sameData ▸ left)

theorem FrameStream.takeData_spec (sound : stream.Sound) (some : stream.remainingData ≠ 0)
    {ended : Bool} (atEnd : ended = true → stream.eos = true)
    (waiting : ended = false → stream.buf = [] → stream.recv.fin = false) :
    DataResult stream (stream.takeData ended).2 (stream.takeData ended).1 ∧
      (stream.takeData ended).2.Sound ∧ stream.Keeps (stream.takeData ended).2 := by
  have positive : 0 < stream.remainingData := Nat.pos_of_ne_zero some
  cases buffers : stream.buf with
  | nil =>
    have outcome : stream.takeData ended = (if ended then .ready none else .pending, stream) := by
      unfold FrameStream.takeData
      rw [buffers]
      simp only [takeChunk]
      rw [← buffers]
    rw [outcome]
    refine ⟨?_, sound, .refl _⟩
    cases ended with
    | false => exact .pending rfl rfl (waiting rfl buffers)
    | true =>
      have nothing : stream.unread = [] := by
        rw [FrameStream.unread, sound.ended (atEnd rfl), buffers]
        rfl
      exact .ended nothing nothing rfl
  | cons front rest =>
    obtain ⟨data, kept, taken, nonempty, bounded, same, later⟩ :=
      takeChunk_some (buffers ▸ sound.buffered) positive
    have split : stream.unread = data ++ (kept.flatten ++ stream.recv.unread) := by
      rw [FrameStream.unread, buffers, same, List.append_assoc]
    have soundKept : ∀ left, FrameStream.Sound { stream with buf := kept, remainingData := left } := by
      intro left
      -- payload is only read after a frame header, when nothing is waited for
      have waitless := sound.fresh some
      refine { sound with buffered := later, gate := ?_, fresh := fun _ => waitless }
      rw [waitless]
      exact Gate.none _
    unfold FrameStream.takeData
    rw [buffers, taken]
    by_cases cut : ended && decide (data.length < stream.remainingData) && kept.flatten.isEmpty
    · simp only [if_pos cut]
      simp only [Bool.and_eq_true, decide_eq_true_eq, List.isEmpty_iff] at cut
      obtain ⟨⟨atLast, short⟩, nothing⟩ := cut
      have drained := sound.ended (atEnd atLast)
      refine ⟨.truncated ?_ rfl ?_ ?_, soundKept _, ⟨rfl, rfl, rfl⟩⟩
      · rw [FrameStream.unread, nothing, drained]
        rfl
      · rw [split]
        exact List.append_ne_nil_of_left_ne_nil nonempty _
      · rw [split, nothing, drained]
        simpa using short
    · simp only [if_neg cut]
      exact ⟨.chunk nonempty bounded split rfl, soundKept _, ⟨rfl, rfl, rfl⟩⟩

theorem FrameStream.pollData_spec (sound : stream.Sound) (some : stream.remainingData ≠ 0) :
    DataResult stream stream.pollData.2 stream.pollData.1 ∧ stream.pollData.2.Sound ∧
      stream.Keeps stream.pollData.2 := by
  obtain ⟨received, soundMiddle, sameUnread, kept, sameData⟩ := stream.tryRecv_spec sound
  unfold FrameStream.pollData
  rw [if_neg some]
  rcases outcome : stream.tryRecv with ⟨polled, middle⟩
  rw [outcome] at received soundMiddle sameUnread kept sameData
  have someMiddle : middle.remainingData ≠ 0 := fun zero => some (sameData.symm.trans zero)
  have lift : ∀ {ended : Bool}, (ended = true → middle.eos = true) →
      (ended = false → middle.buf = [] → middle.recv.fin = false) →
      DataResult stream (middle.takeData ended).2 (middle.takeData ended).1 ∧
        (middle.takeData ended).2.Sound ∧ stream.Keeps (middle.takeData ended).2 := by
    intro ended atEnd waiting
    obtain ⟨held, soundFinal, keptFinal⟩ := middle.takeData_spec soundMiddle someMiddle atEnd waiting
    exact ⟨held.after sameUnread sameData kept, soundFinal, kept.trans keptFinal⟩
  cases received with
  | reset broken _ => exact ⟨.reset sameUnread sameData broken, soundMiddle, kept⟩
  | pending idle _ => exact lift (by simp) (fun _ _ => kept.fin.trans idle.fin)
  | ended _ ended => exact lift (fun _ => ended) (by simp)
  | chunk _ _ _ _ grown =>
    refine lift (by simp) ?_
    intro _ nothing
    rw [nothing] at grown
    exact absurd grown.symm (by simp)

end Operations

end ProxyTunnels.Http3
