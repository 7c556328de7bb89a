import ProxyTunnels.Http3.SafeScan

/-! Exactly which byte sequences every schedule of deliveries and polls survives.

One direction is the invariant of the safe scan. For the other, all bytes and the FIN
are delivered at once and the reader is polled with a one-byte buffer: each poll either
panics or leaves a reader that is still bad and has less to read.
-/

set_option autoImplicit false

namespace ProxyTunnels.Http3
open Machine

variable {decodeFields : List UInt8 → Bool}

inductive Doomed (decodeFields : List UInt8 → Bool) : Reader → Prop where
  | now {reader : Reader} : (reader.pollRead decodeFields 1 false).1 = .panicked →
      Doomed decodeFields reader
  | later {reader : Reader} : Doomed decodeFields (reader.pollRead decodeFields 1 false).2 →
      Doomed decodeFields reader

def LoopDoomed (decodeFields : List UInt8 → Bool) (rounds : Nat) (reader : Reader) : Prop :=
  (reader.readLoop decodeFields 1 rounds).1 = .panicked ∨
    Doomed decodeFields (reader.readLoop decodeFields 1 rounds).2

structure FrameStream.Whole (stream : FrameStream) : Prop where
  sound : stream.Sound
  fin : stream.recv.fin = true
  reset : stream.recv.reset = false

theorem FrameStream.Whole.keeps {stream next : FrameStream} (whole : stream.Whole) (sound : next.Sound)
    (kept : stream.Keeps next) : next.Whole :=
  ⟨sound, kept.fin.trans whole.fin, kept.reset.trans whole.reset⟩

inductive Reader.Bad (reader : Reader) : Prop where
  | reading : reader.trailers = false → reader.receive.trailers = none →
      ¬ (reader.receive.stream.remainingData ≤ reader.receive.stream.unread.length ∧
        SafeData (reader.receive.stream.unread.drop reader.receive.stream.remainingData)) →
      reader.Bad
  | outstanding : reader.trailers = true → reader.receive.trailers = none → reader.buffered = [] →
      reader.receive.stream.remainingData ≠ 0 → reader.Bad
  | ending : reader.trailers = true → reader.buffered = [] →
      reader.receive.stream.remainingData = 0 → ¬ SafeAfterData reader.receive.stream.unread →
      reader.Bad

def Reader.weight (reader : Reader) : Nat :=
  2 * reader.receive.stream.unread.length + reader.buffered.length

theorem LoopDoomed.doomed {reader : Reader} (going : reader.eof = false)
    (loop : LoopDoomed decodeFields 32 reader) : Doomed decodeFields reader := by
  have polled : reader.pollRead decodeFields 1 false = reader.readLoop decodeFields 1 32 := by
    simp [Reader.pollRead, going]
  rcases loop with now | later
  · exact .now (by rw [polled]; exact now)
  · exact .later (by rw [polled]; exact later)

section Frames
variable {stream : FrameStream}

theorem length_of_frame {bytes middle rest : List UInt8} {frame : Frame} (skipped : Skip bytes middle)
    (found : Frame.decode middle = .frame frame rest) : rest.length < bytes.length := by
  have left : (Frame.decode middle).rest? = some rest := by rw [found]; rfl
  obtain ⟨first, rfl⟩ := skipped.suffix
  obtain ⟨second, rfl, nonempty⟩ := Frame.decode_rest left
  have positive := List.length_pos_iff.mpr nonempty
  simp only [List.length_append]
  omega

theorem FrameStream.Whole.pollNext_unsafe {safe : List UInt8 → Prop} {behind : Frame → List UInt8 → Prop}
    (scans : Scans safe behind) (whole : stream.Whole) (empty : stream.remainingData = 0)
    (unsafeBytes : ¬ safe stream.unread) :
    ∃ frame next, stream.pollNext = (.ready (some frame), next) ∧ next.Whole ∧
      next.remainingData = frame.remaining ∧ next.unread.length < stream.unread.length ∧
      ¬ behind frame next.unread := by
  obtain ⟨held, sound, kept⟩ := stream.pollNext_spec whole.sound empty
  rcases polling : stream.pollNext with ⟨polled, next⟩
  rw [polling] at held sound kept
  dsimp only at held sound kept
  cases held with
  | pending _ _ unended => exact absurd (whole.fin.symm.trans unended) (by simp)
  | reset _ _ broken => exact absurd (whole.reset.symm.trans broken) (by simp)
  | proto skipped _ fails => exact absurd ((scans.skip skipped).mpr (scans.failed fails)) unsafeBytes
  | truncated skipped _ waits _ => exact absurd ((scans.skip skipped).mpr (scans.waiting waits)) unsafeBytes
  | ended skipped _ nothing =>
    rw [nothing] at skipped
    exact absurd ((scans.skip skipped).mpr (scans.waiting rfl)) unsafeBytes
  | @frame middle frame skipped found left =>
    refine ⟨frame, next, rfl, whole.keeps sound kept, left, length_of_frame skipped found, fun held => ?_⟩
    exact unsafeBytes ((scans.skip skipped).mpr ((scans.frame found).mpr held))

end Frames

section Loop
variable {reader : Reader} {rounds : Nat}

theorem Reader.readLoop_data (drained : reader.buffered = []) (phase : reader.trailers = false) :
    reader.readLoop decodeFields 1 (rounds + 1) =
      reader.onData (Reader.readLoop decodeFields 1 rounds) reader.receive.pollRecvData := by
  rw [Reader.readLoop, if_neg (by simp [drained]), if_neg (by simp [phase])]

theorem Reader.readLoop_trailers (drained : reader.buffered = []) (phase : reader.trailers = true) :
    reader.readLoop decodeFields 1 (rounds + 1) =
      reader.onTrailers (reader.receive.pollRecvTrailers decodeFields) := by
  rw [Reader.readLoop, if_neg (by simp [drained]), if_pos phase]

theorem Reader.outstanding_panics (phase : reader.trailers = true) (untaken : reader.receive.trailers = none)
    (drained : reader.buffered = []) (left : reader.receive.stream.remainingData ≠ 0) :
    (reader.readLoop decodeFields 1 (rounds + 1)).1 = .panicked := by
  have polled : reader.receive.pollRecvTrailers decodeFields =
      (.panicked, ⟨reader.receive.stream, none⟩) := by
    simp [RequestStream.pollRecvTrailers, untaken, FrameStream.pollNext, left]
  rw [Reader.readLoop_trailers drained phase, polled]
  rfl

theorem Reader.outstanding_doomed (going : reader.eof = false) (phase : reader.trailers = true)
    (untaken : reader.receive.trailers = none) (drained : reader.buffered = [])
    (left : reader.receive.stream.remainingData ≠ 0) : LoopDoomed decodeFields rounds reader := by
  cases rounds with
  | zero => exact Or.inr (LoopDoomed.doomed going
      (Or.inl (Reader.outstanding_panics phase untaken drained left)))
  | succ rounds => exact Or.inl (Reader.outstanding_panics phase untaken drained left)

def DoomedBelow (decodeFields : List UInt8 → Bool) (bound : Nat) : Prop :=
  ∀ reader : Reader, reader.receive.stream.Whole → reader.eof = false → reader.Bad →
    reader.weight < bound → ∀ rounds, LoopDoomed decodeFields rounds reader

theorem DoomedBelow.doomed {bound : Nat} (below : DoomedBelow decodeFields bound)
    (whole : reader.receive.stream.Whole) (going : reader.eof = false) (bad : reader.Bad)
    (less : reader.weight < bound) : Doomed decodeFields reader :=
  (below reader whole going bad less 32).doomed going

theorem Reader.payload_doomed (below : DoomedBelow decodeFields reader.weight)
    {request : RequestStream} (whole : request.stream.Whole) (going : reader.eof = false)
    (drained : reader.buffered = []) (phase : reader.trailers = false)
    (untaken : request.trailers = none) (left : request.stream.remainingData ≠ 0)
    (bad : ¬ (request.stream.remainingData ≤ request.stream.unread.length ∧
      SafeData (request.stream.unread.drop request.stream.remainingData)))
    (lighter : request.stream.unread.length ≤ reader.receive.stream.unread.length)
    (polled : reader.receive.pollRecvData = request.pollPayload) :
    LoopDoomed decodeFields (rounds + 1) reader := by
  obtain ⟨held, sound, kept⟩ := request.stream.pollData_spec whole.sound left
  rcases polling : request.stream.pollData with ⟨result, next⟩
  rw [polling] at held sound kept
  dsimp only at held sound kept
  have wholeNext := whole.keeps sound kept
  unfold RequestStream.pollPayload at polled
  rw [polling] at polled
  unfold LoopDoomed
  rw [Reader.readLoop_data drained phase, polled]
  cases held with
  | pending _ _ unended => exact absurd (whole.fin.symm.trans unended) (by simp)
  | reset _ _ broken => exact absurd (whole.reset.symm.trans broken) (by simp)
  | truncated nothing same some _ =>
    dsimp only [Reader.onData]
    right
    refine below.doomed wholeNext going (.reading phase untaken ?_) ?_
    · rintro ⟨enough, -⟩
      change next.remainingData ≤ next.unread.length at enough
      rw [nothing, same, List.length_nil] at enough
      exact left (Nat.le_zero.mp enough)
    · have positive := List.length_pos_iff.mpr some
      simp only [Reader.weight, nothing, List.length_nil]
      omega
  | ended _ nothing same =>
    exact Reader.outstanding_doomed going rfl untaken drained (by rw [← same] at left; exact left)
  | @chunk data nonempty bounded taken fewer =>
    dsimp only [Reader.onData]
    have positive := List.length_pos_iff.mpr nonempty
    refine below ⟨⟨next, request.trailers⟩, data, reader.trailers, reader.eof⟩ wholeNext going
      (.reading phase untaken ?_) ?_ rounds
    · rintro ⟨enough, safe⟩
      change next.remainingData ≤ next.unread.length at enough
      change SafeData (next.unread.drop next.remainingData) at safe
      apply bad
      rw [taken, List.drop_append, List.drop_eq_nil_of_le bounded, List.nil_append, List.length_append,
        ← fewer]
      exact ⟨by omega, safe⟩
    · rw [taken, List.length_append] at lighter
      simp only [Reader.weight]
      omega

theorem Reader.buffered_doomed (below : DoomedBelow decodeFields reader.weight)
    (whole : reader.receive.stream.Whole) (going : reader.eof = false) (full : reader.buffered ≠ [])
    (phase : reader.trailers = false) (untaken : reader.receive.trailers = none)
    (bad : ¬ (reader.receive.stream.remainingData ≤ reader.receive.stream.unread.length ∧
      SafeData (reader.receive.stream.unread.drop reader.receive.stream.remainingData))) :
    LoopDoomed decodeFields (rounds + 1) reader := by
  have positive := List.length_pos_iff.mpr full
  unfold LoopDoomed
  rw [Reader.readLoop, if_pos (by simpa using full)]
  right
  refine below.doomed whole going (.reading phase untaken bad) ?_
  simp only [Reader.weight, List.length_drop]
  omega

theorem Reader.boundary_doomed (below : DoomedBelow decodeFields reader.weight)
    (whole : reader.receive.stream.Whole) (going : reader.eof = false) (drained : reader.buffered = [])
    (phase : reader.trailers = false) (untaken : reader.receive.trailers = none)
    (empty : reader.receive.stream.remainingData = 0) (bad : ¬ SafeData reader.receive.stream.unread) :
    LoopDoomed decodeFields (rounds + 1) reader := by
  obtain ⟨frame, next, polling, wholeNext, left, shorter, behind⟩ := whole.pollNext_unsafe scans_safeData empty bad
  have polled : reader.receive.pollRecvData =
      RequestStream.onFrame { reader.receive with stream := next } frame := by
    unfold RequestStream.pollRecvData
    rw [if_neg (by simp [empty]), polling]
  -- whatever is left is lighter, since a frame was consumed
  have lighter : ∀ request trailers eof, request.stream = next →
      (⟨request, [], trailers, eof⟩ : Reader).weight < reader.weight := by
    rintro request trailers eof rfl
    simp only [Reader.weight, List.length_nil]
    omega
  unfold SafeBehind at behind
  cases ends : frame.endsData with
  | true =>
    rw [if_pos ends] at behind
    have nothing : next.remainingData = 0 := left.trans (Frame.remaining_of_endsData ends)
    unfold LoopDoomed
    rw [Reader.readLoop_data drained phase, polled]
    cases frame with
    | headers encoded =>
      dsimp only [RequestStream.onFrame]
      refine below ⟨⟨next, some encoded⟩, reader.buffered, true, reader.eof⟩ wholeNext going
        (.ending rfl drained nothing behind) ?_ rounds
      rw [drained]
      exact lighter _ _ _ rfl
    | data len =>
      have drainedPayload : RequestStream.pollPayload { reader.receive with stream := next } =
          (.ready none, { reader.receive with stream := next }) := by
        simp [RequestStream.pollPayload, FrameStream.pollData, nothing]
      dsimp only [RequestStream.onFrame]
      rw [drainedPayload]
      refine below ⟨{ reader.receive with stream := next }, reader.buffered, true, reader.eof⟩ wholeNext
        going (.ending rfl drained nothing behind) ?_ rounds
      rw [drained]
      exact lighter _ _ _ rfl
    | _ => cases ends
  | false =>
    rw [if_neg (by rw [ends]; exact Bool.false_ne_true), ← left] at behind
    -- an error keeps the data phase, with the frame's payload outstanding
    have refused : ∀ answer, reader.receive.pollRecvData =
        (.failed answer, { reader.receive with stream := next }) → LoopDoomed decodeFields (rounds + 1) reader := by
      intro answer failing
      unfold LoopDoomed
      rw [Reader.readLoop_data drained phase, failing]
      right
      refine below.doomed wholeNext going (.reading phase untaken behind) ?_
      have bound := lighter { reader.receive with stream := next } reader.trailers reader.eof rfl
      simpa [Reader.onData, Reader.weight, drained] using bound
    cases frame with
    | headers encoded => cases ends
    | data len =>
      have outstanding : next.remainingData ≠ 0 := by
        rw [left]
        simpa [Frame.endsData, Frame.remaining] using ends
      exact @Reader.payload_doomed _ _ _ below { reader.receive with stream := next } wholeNext going
        drained phase untaken outstanding behind (Nat.le_of_lt shorter) polled
    | _ => exact refused _ polled

theorem Reader.refused_doomed (below : DoomedBelow decodeFields reader.weight)
    (going : reader.eof = false) (drained : reader.buffered = []) (phase : reader.trailers = true)
    {next : FrameStream} {frame : Frame} (whole : next.Whole)
    (left : next.remainingData = frame.remaining)
    (shorter : next.unread.length < reader.receive.stream.unread.length)
    (behind : ¬ (frame.remaining = 0 ∧ SafeAfterData next.unread))
    (polled : ∃ error, reader.receive.pollRecvTrailers decodeFields = (.failed error, ⟨next, none⟩)) :
    LoopDoomed decodeFields (rounds + 1) reader := by
  obtain ⟨error, polled⟩ := polled
  unfold LoopDoomed
  rw [Reader.readLoop_trailers drained phase, polled]
  right
  have bad : Reader.Bad { reader with receive := ⟨next, none⟩ } := by
    by_cases outstanding : next.remainingData = 0
    · refine .ending phase drained outstanding ?_
      intro safe
      exact behind ⟨left.symm.trans outstanding, safe⟩
    · exact .outstanding phase rfl drained outstanding
  refine below.doomed whole going bad ?_
  simp only [Reader.onTrailers, Reader.weight]
  omega

theorem finishTrailers_refused {stream : FrameStream} (whole : stream.Whole)
    (empty : stream.remainingData = 0) (bad : ¬ SafeAfterData stream.unread) (encoded : List UInt8) :
    ∃ frame next, RequestStream.finishTrailers decodeFields stream encoded =
        (.failed (.unexpectedFrame frame), ⟨next, none⟩) ∧ next.Whole ∧
      next.remainingData = frame.remaining ∧ next.unread.length < stream.unread.length ∧
      ¬ (frame.remaining = 0 ∧ SafeAfterData next.unread) := by
  obtain ⟨frame, next, polling, wholeNext, left, shorter, behind⟩ := whole.pollNext_unsafe scans_safeAfterData empty bad
  have more : ¬ stream.isEos = true := by
    intro atEnd
    simp only [FrameStream.isEos, Bool.and_eq_true, List.isEmpty_iff] at atEnd
    apply bad
    rw [FrameStream.unread, atEnd.2, whole.sound.ended atEnd.1]
    exact .waiting rfl
  refine ⟨frame, next, ?_, wholeNext, left, shorter, behind⟩
  unfold RequestStream.finishTrailers
  rw [if_neg more, polling]

theorem Reader.ending_doomed (below : DoomedBelow decodeFields reader.weight)
    (whole : reader.receive.stream.Whole) (going : reader.eof = false) (drained : reader.buffered = [])
    (phase : reader.trailers = true) (empty : reader.receive.stream.remainingData = 0)
    (bad : ¬ SafeAfterData reader.receive.stream.unread) :
    LoopDoomed decodeFields (rounds + 1) reader := by
  cases saved : reader.receive.trailers with
  | some encoded =>
    obtain ⟨frame, next, finishing, wholeNext, left, shorter, behind⟩ :=
      @finishTrailers_refused decodeFields _ whole empty bad encoded
    have polled : reader.receive.pollRecvTrailers decodeFields =
        (.failed (.unexpectedFrame frame), ⟨next, none⟩) := by
      rw [RequestStream.pollRecvTrailers, saved]
      exact finishing
    exact Reader.refused_doomed below going drained phase wholeNext left shorter behind ⟨_, polled⟩
  | none =>
    obtain ⟨frame, next, polling, wholeNext, left, shorter, behind⟩ := whole.pollNext_unsafe scans_safeAfterData empty bad
    cases frame with
    | headers encoded =>
      have still : ¬ SafeAfterData next.unread := fun safe => behind ⟨rfl, safe⟩
      obtain ⟨frame, last, finishing, wholeLast, leftLast, shorterLast, behindLast⟩ :=
        @finishTrailers_refused decodeFields _ wholeNext left still encoded
      have polled : reader.receive.pollRecvTrailers decodeFields =
          (.failed (.unexpectedFrame frame), ⟨last, none⟩) := by
        rw [RequestStream.pollRecvTrailers, saved, polling]
        exact finishing
      exact Reader.refused_doomed below going drained phase wholeLast leftLast
        (Nat.lt_trans shorterLast shorter) behindLast ⟨_, polled⟩
    | _ =>
      refine Reader.refused_doomed below going drained phase wholeNext left shorter behind ?_
      rw [RequestStream.pollRecvTrailers, saved, polling]
      exact ⟨_, rfl⟩

/-- Every bad reader of a whole stream comes to a panic. -/
theorem Reader.Bad.doomed (bound : Nat) : DoomedBelow decodeFields bound := by
  induction bound with
  | zero =>
    intro reader _ _ _ less
    exact absurd less (Nat.not_lt_zero _)
  | succ bound ih =>
    intro reader whole going bad less
    have below : DoomedBelow decodeFields reader.weight := by
      intro other whole going bad lighter
      exact ih other whole going bad (by omega)
    -- with at least one round left the loop makes progress; with none the next poll does
    have progress : ∀ rounds, LoopDoomed decodeFields (rounds + 1) reader := by
      intro rounds
      cases bad with
      | outstanding phase untaken drained left => exact Reader.outstanding_doomed going phase untaken drained left
      | ending phase drained empty unsafeBytes =>
        exact Reader.ending_doomed below whole going drained phase empty unsafeBytes
      | reading phase untaken unsafeBytes =>
        by_cases full : reader.buffered ≠ []
        · exact Reader.buffered_doomed below whole going full phase untaken unsafeBytes
        · have drained : reader.buffered = [] := not_ne_iff.mp full
          by_cases left : reader.receive.stream.remainingData ≠ 0
          · refine Reader.payload_doomed below whole going drained phase untaken left unsafeBytes (Nat.le_refl _) ?_
            rw [RequestStream.pollRecvData, if_pos left]
          · have empty : reader.receive.stream.remainingData = 0 := not_ne_iff.mp left
            refine Reader.boundary_doomed below whole going drained phase untaken empty ?_
            intro safe
            apply unsafeBytes
            rw [empty, List.drop_zero]
            exact ⟨Nat.zero_le _, safe⟩
    intro rounds
    cases rounds with
    | zero => exact Or.inr ((progress 31).doomed going)
    | succ rounds => exact progress rounds

end Loop

section Exactness

theorem Doomed.run {reader : Reader} (doomed : Doomed decodeFields reader) (log : List (Nat × ReadResult)) :
    ∃ actions reading, Run (Reading.step decodeFields) ⟨reader, log⟩ actions reading ∧
      reading.step decodeFields (.poll 1 false) = .panicked := by
  induction doomed generalizing log with
  | @now reader panics =>
    refine ⟨[], _, .done, ?_⟩
    rcases polling : reader.pollRead decodeFields 1 false with ⟨result, next⟩
    rw [polling] at panics
    cases panics
    simp only [Reading.step, polling]
  | @later reader _ ih =>
    rcases polling : reader.pollRead decodeFields 1 false with ⟨result, next⟩
    rw [polling] at ih
    by_cases panics : result = .panicked
    · subst panics
      exact ⟨[], _, .done, by simp only [Reading.step, polling]⟩
    · obtain ⟨actions, reading, run, failed⟩ := ih (log ++ [(1, result)])
      refine ⟨.poll 1 false :: actions, reading, .next trivial ?_ run, failed⟩
      simp only [Reading.step, polling]

end Exactness

end ProxyTunnels.Http3
