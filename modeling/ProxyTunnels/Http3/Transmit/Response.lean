import ProxyTunnels.Http3.Framing
import ProxyTunnels.Http3.Transmit.Request

/-! The response to a CONNECT request, from the first byte the proxy sends to the first byte
of the tunnel.

`dial` asks for responses until one is final. What it finds depends on the bytes alone: the
interim responses, the final status, and the place where the tunnel's data begins are the
same for every way the bytes are delivered and polled for.
-/

set_option autoImplicit false

namespace ProxyTunnels.Http3
open Machine Qpack

deriving instance DecidableEq for Outcome

/-- The errors of `recv_response`. -/
inductive ResponseError where
  | frameStream (error : FrameStreamError)
  /-- `H3_FRAME_UNEXPECTED`, "Stream finished without receiving response headers" -/
  | finished
  /-- `H3_FRAME_UNEXPECTED`, "First response frame is not headers" -/
  | notHeaders (frame : Frame)
  | headerTooBig (actualSize maxSize : Nat)
  /-- `QPACK_DECOMPRESSION_FAILED`, "Failed to decode headers" -/
  | decompression
  /-- `H3_MESSAGE_ERROR`, "Received malformed header" -/
  | malformed (error : HeaderError)
  deriving DecidableEq, Repr

/-- The errors before which `recv_response` calls `stop_sending`. -/
def ResponseError.stopsSending : ResponseError → Bool
  | .headerTooBig _ _ => true
  | .malformed _ => true
  | _ => false

section Machine
variable (http : HttpTypes) (limit : Nat)

/-- The condition under which `dial` asks for another response. -/
def HttpTypes.isInterim (status : http.status.Value) : Bool :=
  http.isInformational status && status.1 != byteString "101"

/-- The status of a field section, as `recv_response` gets it; a panic is `none`. -/
def recvHeaders (encoded : List UInt8) : Option (Except ResponseError http.status.Value) :=
  match decodeStateless encoded limit with
  | none => none
  | some (.error (.headerTooLong size)) => some (.error (.headerTooBig size limit))
  | some (.error _) => some (.error .decompression)
  | some (.ok decoded) =>
    match (Header.tryFrom decoded.fields : Option (Except HeaderError (Header http))) with
    | none => none
    | some (.error error) => some (.error (.malformed error))
    | some (.ok header) =>
      match header.intoResponseParts with
      | .error error => some (.error (.malformed error))
      | .ok (status, _) => some (.ok status)

/-- `recv_response`, on what `poll_next` returned. -/
def recvResponse : Option Frame → Option (Except ResponseError http.status.Value)
  | none => some (.error .finished)
  | some (.headers encoded) => recvHeaders http limit encoded
  | some frame => some (.error (.notHeaders frame))

inductive DialResult where
  | established (status : http.status.Value)
  | proxyStatus (status : http.status.Value)
  | failed (error : ResponseError)
  deriving DecidableEq

variable {http}

/-- What `dial` makes of a final status. -/
def verdict (status : http.status.Value) : DialResult http :=
  if http.isSuccess status then .established status else .proxyStatus status

variable (http)

structure Dialing where
  stream : FrameStream
  interim : List http.status.Value
  result : Option (DialResult http)
  deriving DecidableEq

variable {http}

def Dialing.start (incoming : List UInt8) : Dialing http :=
  ⟨⟨⟨incoming, [], false, false, false⟩, [], false, none, 0⟩, [], none⟩

def Dialing.respond (dialing : Dialing http) (status : http.status.Value) : Dialing http :=
  if http.isInterim status then { dialing with interim := dialing.interim ++ [status] }
  else { dialing with result := some (verdict status) }

inductive DialAction where
  | deliver (count : Nat)
  | finish
  | reset
  | poll
  deriving DecidableEq, Repr

def Dialing.setRecv (dialing : Dialing http) (recv : RecvStream) : Dialing http :=
  { dialing with stream := { dialing.stream with recv } }

/-- What `dial` does with the result of `poll_next`. -/
def Dialing.receive (dialing : Dialing http) : Polled (Option Frame) → Outcome (Dialing http)
  | .pending => .next dialing
  | .panicked => .panicked
  | .failed error => .next { dialing with result := some (.failed (.frameStream error)) }
  | .ready frame =>
      match recvResponse http limit frame with
      | none => .panicked
      | some (.error error) =>
          -- `stop_sending` unwraps the stream, which a read in flight has taken
          if error.stopsSending && dialing.stream.recv.reading then .panicked
          else .next { dialing with result := some (.failed error) }
      | some (.ok status) => .next (dialing.respond status)

def Dialing.step (dialing : Dialing http) : DialAction → Outcome (Dialing http)
  | .deliver count =>
      let recv := dialing.stream.recv
      .guarded (decide (0 < count ∧ count ≤ recv.incoming.length)) (.next (dialing.setRecv (recv.deliver count)))
  | .finish =>
      let recv := dialing.stream.recv
      .guarded recv.incoming.isEmpty (.next (dialing.setRecv { recv with fin := true }))
  | .reset => .next (dialing.setRecv { dialing.stream.recv with reset := true })
  | .poll =>
      let (polled, stream) := dialing.stream.pollNext
      .guarded dialing.result.isNone (Dialing.receive limit { dialing with stream } polled)

end Machine

section Bytes
variable {http : HttpTypes} {limit : Nat}

/-- Bytes that start with interim responses and a final one, unknown frames around them;
`rest` comes after. -/
inductive Responses (http : HttpTypes) (limit : Nat) :
    List UInt8 → List http.status.Value → http.status.Value → List UInt8 → Prop where
  | final {bytes middle encoded rest : List UInt8} {status : http.status.Value} :
      Skip bytes middle → Frame.decode middle = .frame (.headers encoded) rest →
      recvHeaders http limit encoded = some (.ok status) → http.isInterim status = false →
      Responses http limit bytes [] status rest
  | interim {bytes middle encoded after rest : List UInt8} {status last : http.status.Value} {more : List http.status.Value} :
      Skip bytes middle → Frame.decode middle = .frame (.headers encoded) after →
      recvHeaders http limit encoded = some (.ok status) → http.isInterim status = true →
      Responses http limit after more last rest → Responses http limit bytes (status :: more) last rest

section Reading
variable {bytes other rest : List UInt8} {interim : List http.status.Value} {status : http.status.Value}

theorem Responses.of_skip (skipped : Skip bytes other) (responses : Responses http limit other interim status rest) :
    Responses http limit bytes interim status rest := by
  cases responses with
  | final passed found read done => exact .final (skipped.trans passed) found read done
  | interim passed found read going later => exact .interim (skipped.trans passed) found read going later

theorem Responses.skip (responses : Responses http limit bytes interim status rest) (skipped : Skip bytes other) :
    Responses http limit other interim status rest := by
  cases responses with
  | final passed found read done => exact .final (passed.before found skipped) found read done
  | interim passed found read going later => exact .interim (passed.before found skipped) found read going later

theorem Responses.first (responses : Responses http limit bytes interim status rest) :
    ∃ middle encoded after heard, Skip bytes middle ∧ Frame.decode middle = .frame (.headers encoded) after ∧
      recvHeaders http limit encoded = some (.ok heard) := by
  cases responses with
  | final passed found read _ => exact ⟨_, _, _, _, passed, found, read⟩
  | interim passed found read _ _ => exact ⟨_, _, _, _, passed, found, read⟩

theorem Responses.whole (responses : Responses http limit bytes interim status rest) :
    (∃ frame after, Frame.decode bytes = .frame frame after) ∨ ∃ ty after, Frame.decode bytes = .unknown ty after := by
  obtain ⟨middle, encoded, after, heard, passed, found, read⟩ := responses.first
  cases passed with
  | refl => exact Or.inl ⟨_, _, found⟩
  | unknown same _ => exact Or.inr ⟨_, _, same⟩

theorem Responses.heard {middle encoded after : List UInt8} {heard : http.status.Value}
    (responses : Responses http limit bytes interim status rest) (passed : Skip bytes middle)
    (found : Frame.decode middle = .frame (.headers encoded) after)
    (read : recvHeaders http limit encoded = some (.ok heard)) :
    (http.isInterim heard = true ∧ ∃ more, interim = heard :: more ∧ Responses http limit after more status rest) ∨
      (http.isInterim heard = false ∧ interim = [] ∧ heard = status ∧ after = rest) := by
  cases responses with
  | final passedToo foundToo readToo done =>
    obtain ⟨same, rfl⟩ := passed.frame_unique found passedToo foundToo
    cases same
    rw [read] at readToo
    cases readToo
    exact Or.inr ⟨done, rfl, rfl, rfl⟩
  | interim passedToo foundToo readToo going later =>
    obtain ⟨same, rfl⟩ := passed.frame_unique found passedToo foundToo
    cases same
    rw [read] at readToo
    cases readToo
    exact Or.inl ⟨going, _, rfl, later⟩

theorem recvResponse_ok {frame : Option Frame} (read : recvResponse http limit frame = some (.ok status)) :
    ∃ encoded, frame = some (.headers encoded) ∧ recvHeaders http limit encoded = some (.ok status) := by
  unfold recvResponse at read
  split at read
  · cases read
  · exact ⟨_, rfl, read⟩
  · cases read

end Reading

end Bytes

section Runs
variable {http : HttpTypes} {limit : Nat} {incoming : List UInt8} {dialing next : Dialing http}

theorem Dialing.step_arrives {action : DialAction} (quiet : action ≠ .poll)
    (taken : dialing.step limit action = .next next) :
    ∃ recv, dialing.stream.recv.Arrives recv ∧ next = dialing.setRecv recv ∧
      (action ≠ .reset → recv.reset = dialing.stream.recv.reset) := by
  cases action with
  | deliver count =>
    obtain ⟨enabled, same⟩ := Outcome.guarded_eq_next.mp taken
    obtain ⟨positive, within⟩ := of_decide_eq_true enabled
    cases same
    exact ⟨_, RecvStream.arrives_deliver positive within, rfl, fun _ => rfl⟩
  | finish =>
    obtain ⟨enabled, same⟩ := Outcome.guarded_eq_next.mp taken
    cases same
    exact ⟨_, RecvStream.arrives_finish (List.isEmpty_iff.mp enabled), rfl, fun _ => rfl⟩
  | reset =>
    cases taken
    exact ⟨_, RecvStream.arrives_reset, rfl, fun other => absurd rfl other⟩
  | poll => exact absurd rfl quiet

theorem Dialing.unread_setRecv {recv : RecvStream} (arrives : dialing.stream.recv.Arrives recv) :
    (dialing.setRecv recv).stream.unread = dialing.stream.unread :=
  congrArg (dialing.stream.buf.flatten ++ ·) arrives.unread

/-- What a poll of a dial that waits can come to. It fails only for a reset stream, or for
bytes that hold no response. -/
inductive Dialing.Heard (limit : Nat) (dialing : Dialing http) : Outcome (Dialing http) → Prop where
  | waits {next : Dialing http} : Skip dialing.stream.unread next.stream.unread → next.stream.remainingData = 0 →
      next.interim = dialing.interim → next.result = none → dialing.stream.recv.fin = false →
      Heard limit dialing (.next next)
  | response {next : Dialing http} {middle encoded : List UInt8} {status : http.status.Value} :
      Skip dialing.stream.unread middle → Frame.decode middle = .frame (.headers encoded) next.stream.unread →
      next.stream.remainingData = 0 → recvHeaders http limit encoded = some (.ok status) →
      next = { dialing with stream := next.stream }.respond status → Heard limit dialing (.next next)
  | failed {next : Dialing http} {error : ResponseError} : next.result = some (.failed error) →
      (dialing.stream.recv.reset = true ∨
        ∀ interim status rest, ¬ Responses http limit dialing.stream.unread interim status rest) →
      Heard limit dialing (.next next)
  | panicked : (∀ interim status rest, ¬ Responses http limit dialing.stream.unread interim status rest) →
      Heard limit dialing .panicked

theorem Dialing.respond_interim {status : http.status.Value} (going : http.isInterim status = true) :
    dialing.respond status = { dialing with interim := dialing.interim ++ [status] } := if_pos going

theorem Dialing.respond_final {status : http.status.Value} (done : http.isInterim status = false) :
    dialing.respond status = { dialing with result := some (verdict status) } := by
  rw [Dialing.respond, done]
  rfl

theorem Dialing.respond_stream (status : http.status.Value) : (dialing.respond status).stream = dialing.stream := by
  cases kind : http.isInterim status with
  | true => rw [Dialing.respond_interim kind]
  | false => rw [Dialing.respond_final kind]

theorem Dialing.step_poll (limit : Nat) (waiting : dialing.result = none) :
    dialing.step limit .poll =
      Dialing.receive limit { dialing with stream := dialing.stream.pollNext.2 } dialing.stream.pollNext.1 := by
  simp only [Dialing.step, waiting]
  rfl

theorem Dialing.poll_heard (limit : Nat) (sound : dialing.stream.Sound) (empty : dialing.stream.remainingData = 0)
    (waiting : dialing.result = none) : dialing.Heard limit (dialing.step limit .poll) ∧
      (dialing.step limit .poll).Ensures fun next => next.stream.Sound ∧ dialing.stream.Keeps next.stream := by
  obtain ⟨held, later, kept⟩ := dialing.stream.pollNext_spec sound empty
  rw [Dialing.step_poll limit waiting]
  rcases polling : dialing.stream.pollNext with ⟨polled, stream⟩
  rw [polling] at held later kept
  dsimp only at held later kept ⊢
  -- no response is to come from where no frame starts
  have hopeless : Skip dialing.stream.unread stream.unread →
      (∀ frame after, Frame.decode stream.unread ≠ .frame frame after) →
      (∀ ty after, Frame.decode stream.unread ≠ .unknown ty after) →
      ∀ interim status rest, ¬ Responses http limit dialing.stream.unread interim status rest := by
    intro skipped noFrame noUnknown interim status rest responses
    rcases (responses.skip skipped).whole with ⟨frame, after, same⟩ | ⟨ty, after, same⟩
    · exact noFrame frame after same
    · exact noUnknown ty after same
  cases held with
  | pending skipped nothing unended => exact ⟨.waits skipped nothing rfl waiting unended, later, kept⟩
  | reset _ _ broken => exact ⟨.failed rfl (Or.inl broken), later, kept⟩
  | proto skipped _ fails =>
    refine ⟨.failed rfl (Or.inr (hopeless skipped ?_ ?_)), later, kept⟩ <;> simp [fails]
  | truncated skipped _ waits _ =>
    refine ⟨.failed rfl (Or.inr (hopeless skipped ?_ ?_)), later, kept⟩ <;> simp [waits]
  | ended skipped _ drained =>
    have none : Frame.decode stream.unread = .incomplete 1 := by
      rw [drained]
      rfl
    refine ⟨.failed rfl (Or.inr (hopeless skipped ?_ ?_)), later, kept⟩ <;> simp [none]
  | @frame middle frame skipped found left =>
    -- a frame that is refused would be the first response
    have refused : (∀ status, recvResponse http limit (some frame) ≠ some (.ok status)) →
        ∀ interim status rest, ¬ Responses http limit dialing.stream.unread interim status rest := by
      intro unread interim status rest responses
      obtain ⟨_, encoded, _, heard, passed, foundToo, read⟩ := responses.first
      obtain ⟨rfl, -⟩ := skipped.frame_unique found passed foundToo
      exact unread heard read
    rw [Dialing.receive]
    cases judging : recvResponse http limit (some frame) with
    | none => exact ⟨.panicked (refused (by simp [judging])), trivial⟩
    | some judged =>
      cases judged with
      | error error =>
        dsimp only
        split
        · exact ⟨.panicked (refused (by simp [judging])), trivial⟩
        · exact ⟨.failed rfl (Or.inr (refused (by simp [judging]))), later, kept⟩
      | ok status =>
        obtain ⟨encoded, same, read⟩ := recvResponse_ok judging
        cases same
        have same : (Dialing.respond { dialing with stream } status).stream = stream := Dialing.respond_stream status
        refine ⟨.response skipped ?_ ?_ read ?_, ?_, ?_⟩
        · rw [same]
          exact found
        · rw [same]
          exact left
        · rw [same]
        · rw [same]
          exact later
        · rw [same]
          exact kept

/-- The stream is open with nothing on its way, and the next frame in the buffer is a field
section that is too large or malformed. -/
structure Dialing.Doomed (limit : Nat) (dialing : Dialing http) : Prop where
  undecided : dialing.result = none
  idle : dialing.stream.Idle
  refused : ∃ encoded error, dialing.stream.Holds (.headers encoded) ∧
    recvHeaders http limit encoded = some (.error error) ∧ error.stopsSending = true

inductive Dialing.Stands (limit : Nat) (incoming : List UInt8) (dialing : Dialing http) : Prop where
  | waiting : dialing.result = none → dialing.stream.Sound → dialing.stream.remainingData = 0 →
      (∀ more status rest, Responses http limit dialing.stream.unread more status rest →
        Responses http limit incoming (dialing.interim ++ more) status rest) → Stands limit incoming dialing
  | decided {status : http.status.Value} : dialing.result = some (verdict status) →
      Responses http limit incoming dialing.interim status dialing.stream.unread → Stands limit incoming dialing
  | failed {error : ResponseError} : dialing.result = some (.failed error) → Stands limit incoming dialing

theorem Dialing.Stands.setRecv {recv : RecvStream} (stands : dialing.Stands limit incoming)
    (arrives : dialing.stream.recv.Arrives recv) : (dialing.setRecv recv).Stands limit incoming := by
  have same := Dialing.unread_setRecv arrives
  cases stands with
  | waiting undecided sound empty ahead =>
    refine .waiting undecided (sound.setRecv arrives) empty ?_
    rw [same]
    exact ahead
  | decided done responses =>
    refine .decided done ?_
    rw [same]
    exact responses
  | failed broken => exact .failed broken

theorem Dialing.Stands.step {action : DialAction} (stands : dialing.Stands limit incoming)
    (taken : dialing.step limit action = .next next) : next.Stands limit incoming := by
  by_cases polls : action = .poll
  · subst polls
    have undecided : dialing.result = none := Option.isNone_iff_eq_none.mp (Outcome.guarded_eq_next.mp taken).1
    cases stands with
    | decided done _ => exact absurd (undecided.symm.trans done) (by simp)
    | failed broken => exact absurd (undecided.symm.trans broken) (by simp)
    | waiting _ sound empty ahead =>
      obtain ⟨heard, later⟩ := Dialing.poll_heard limit sound empty undecided
      rw [taken] at heard later
      replace later := later.1
      cases heard with
      | waits skipped nothing same still _ =>
        refine .waiting still later nothing ?_
        rw [same]
        exact fun more status rest responses => ahead _ _ _ (responses.of_skip skipped)
      | failed broken _ => exact .failed broken
      | @response _ _ _ status skipped found nothing read same =>
        cases kind : http.isInterim status with
        | true =>
          rw [same, Dialing.respond_interim kind]
          refine .waiting undecided later nothing ?_
          intro more last rest responses
          -- the response just heard stands in front of those still to come
          rw [List.append_assoc]
          exact ahead _ _ _ (.interim skipped found read kind responses)
        | false =>
          rw [same, Dialing.respond_final kind]
          have all := ahead _ _ _ (.final skipped found read kind)
          rw [List.append_nil] at all
          exact .decided rfl all
  · obtain ⟨recv, arrives, rfl, -⟩ := Dialing.step_arrives polls taken
    exact stands.setRecv arrives

theorem Dialing.start_sound (incoming : List UInt8) : (Dialing.start incoming : Dialing http).stream.Sound :=
  @Reading.start_sound [] (by simp) incoming

theorem Dialing.polls_of_panicked {action : DialAction} (panics : dialing.step limit action = .panicked) :
    action = .poll ∧ dialing.result = none := by
  cases action with
  | deliver count => exact absurd (Outcome.guarded_eq_panicked.mp panics).2 (by simp)
  | finish => exact absurd (Outcome.guarded_eq_panicked.mp panics).2 (by simp)
  | reset => cases panics
  | poll => exact ⟨rfl, Option.isNone_iff_eq_none.mp (Outcome.guarded_eq_panicked.mp panics).1⟩

def hintStatus : HttpTypes.any.status.Value := ⟨byteString "103", rfl⟩

end Runs

section Complete
variable {http : HttpTypes} {limit : Nat} {incoming rest : List UInt8} {interim : List http.status.Value}
  {status : http.status.Value} {dialing next : Dialing http}

def Unreset (_ : Dialing http) (action : DialAction) : Prop := action ≠ .reset

/-- What is left to hear of the responses: `more` interim ones and the final one, or nothing. -/
structure Dialing.OnTrack (limit : Nat) (interim : List http.status.Value) (status : http.status.Value)
    (rest : List UInt8) (dialing : Dialing http) : Prop where
  intact : dialing.stream.Intact
  empty : dialing.stream.remainingData = 0
  place : (dialing.result = none ∧ ∃ more, interim = dialing.interim ++ more ∧
      Responses http limit dialing.stream.unread more status rest) ∨
    (dialing.result = some (verdict status) ∧ dialing.interim = interim ∧ dialing.stream.unread = rest)

theorem Dialing.OnTrack.poll {more : List http.status.Value} (intact : dialing.stream.Intact)
    (empty : dialing.stream.remainingData = 0) (undecided : dialing.result = none)
    (responses : Responses http limit dialing.stream.unread more status rest) :
    ∃ next, dialing.step limit .poll = .next next ∧
      next.OnTrack limit (dialing.interim ++ more) status rest ∧
      next.stream.recv.fin = dialing.stream.recv.fin ∧
      (dialing.stream.recv.fin = true → next.result = none → next.interim.length = dialing.interim.length + 1) := by
  obtain ⟨heard, later⟩ := Dialing.poll_heard limit intact.sound empty undecided
  -- the responses rule a panic out
  obtain ⟨next, stepped⟩ : ∃ next, dialing.step limit .poll = .next next := by
    cases outcome : dialing.step limit .poll with
    | next next => exact ⟨next, rfl⟩
    | blocked =>
      rw [outcome] at heard
      cases heard
    | panicked =>
      rw [outcome] at heard
      cases heard with
      | panicked none => exact absurd responses (none _ _ _)
  rw [stepped] at heard later
  obtain ⟨sound, kept⟩ := later
  have stays := intact.keeps sound kept
  refine ⟨next, stepped, ?_, kept.fin, ?_⟩
  · cases heard with
    | waits skipped nothing same still _ =>
      exact ⟨stays, nothing, Or.inl ⟨still, more, by rw [same], responses.skip skipped⟩⟩
    | failed _ why =>
      rcases why with broken | none
      · exact absurd (intact.reset.symm.trans broken) (by simp)
      · exact absurd responses (none _ _ _)
    | response skipped found nothing read same =>
      refine ⟨stays, nothing, ?_⟩
      rcases responses.heard skipped found read with ⟨going, later, rfl, onward⟩ | ⟨done, rfl, rfl, behind⟩
      · refine Or.inl ?_
        rw [same, Dialing.respond_interim going]
        exact ⟨undecided, later, List.append_cons .., onward⟩
      · refine Or.inr ?_
        rw [same, Dialing.respond_final done]
        exact ⟨rfl, (List.append_nil _).symm, behind⟩
  · intro ended still
    cases heard with
    | waits _ _ _ _ unended => exact absurd (unended.symm.trans ended) (by simp)
    | failed broken _ => exact absurd (still.symm.trans broken) (by simp)
    | @response _ _ _ heard _ _ _ _ same =>
      rw [same] at still ⊢
      cases kind : http.isInterim heard with
      | true =>
        rw [Dialing.respond_interim kind]
        exact List.length_append
      | false =>
        rw [Dialing.respond_final kind] at still
        cases still

theorem Dialing.OnTrack.step {action : DialAction} (track : dialing.OnTrack limit interim status rest)
    (calm : Unreset dialing action) (taken : dialing.step limit action = .next next) :
    next.OnTrack limit interim status rest := by
  by_cases polls : action = .poll
  · subst polls
    have undecided : dialing.result = none := Option.isNone_iff_eq_none.mp (Outcome.guarded_eq_next.mp taken).1
    rcases track.place with ⟨-, more, rfl, responses⟩ | ⟨done, -⟩
    · obtain ⟨other, stepped, later, -⟩ := Dialing.OnTrack.poll track.intact track.empty undecided responses
      rw [taken] at stepped
      cases stepped
      exact later
    · exact absurd (undecided.symm.trans done) (by simp)
  · obtain ⟨recv, arrives, rfl, reset⟩ := Dialing.step_arrives polls taken
    refine ⟨⟨track.intact.sound.setRecv arrives, (reset calm).trans track.intact.reset⟩, track.empty, ?_⟩
    rw [Dialing.unread_setRecv arrives]
    exact track.place

theorem Dialing.OnTrack.run {actions : List DialAction} (responses : Responses http limit incoming interim status rest)
    (run : RunWhile (Dialing.step limit) Unreset (.start incoming) actions dialing) :
    dialing.OnTrack limit interim status rest := by
  refine RunWhile.preserves (fun _ _ _ held calm taken => Dialing.OnTrack.step held calm taken) run ?_
  exact ⟨⟨Dialing.start_sound incoming, rfl⟩, rfl, Or.inl ⟨rfl, interim, rfl, responses⟩⟩

theorem Dialing.OnTrack.not_panicked (track : dialing.OnTrack limit interim status rest) (action : DialAction) :
    dialing.step limit action ≠ .panicked := by
  intro panics
  obtain ⟨rfl, undecided⟩ := Dialing.polls_of_panicked panics
  rcases track.place with ⟨-, more, -, responses⟩ | ⟨done, -⟩
  · obtain ⟨next, stepped, -⟩ := Dialing.OnTrack.poll track.intact track.empty undecided responses
    rw [panics] at stepped
    cases stepped
  · exact absurd (undecided.symm.trans done) (by simp)

theorem Dialing.OnTrack.concludes (count : Nat) (track : dialing.OnTrack limit interim status rest)
    (ended : dialing.stream.recv.fin = true) (few : interim.length < dialing.interim.length + count) :
    ∃ polls final, polls ≤ count ∧
      RunWhile (Dialing.step limit) Unreset dialing (List.replicate polls .poll) final ∧
      final.result = some (verdict status) := by
  -- by the polls that are left; each lets the interim responses grow by one
  induction count generalizing dialing with
  | zero =>
    rcases track.place with ⟨-, more, rfl, -⟩ | ⟨-, same, -⟩
    · rw [List.length_append] at few
      omega
    · rw [same] at few
      omega
  | succ count ih =>
    rcases track.place with ⟨undecided, more, rfl, responses⟩ | ⟨done, -⟩
    · obtain ⟨next, stepped, later, fin, progress⟩ :=
        Dialing.OnTrack.poll track.intact track.empty undecided responses
      rcases later.place with ⟨still, -⟩ | ⟨done, -⟩
      · have longer := progress ended still
        obtain ⟨polls, final, within, run, done⟩ := ih later (fin.trans ended) (by omega)
        exact ⟨polls + 1, final, by omega, .next (by simp [Unreset]) stepped run, done⟩
      · exact ⟨1, next, by omega, .single (by simp [Unreset]) stepped, done⟩
    · exact ⟨0, dialing, Nat.zero_le _, .done, done⟩

/-- A response that is there is heard: no delivery makes the dial panic, fail or report
anything else, and once the stream has ended one poll per response concludes it. -/
theorem dial_hears_response {actions : List DialAction}
    (responses : Responses http limit incoming interim status rest)
    (run : RunWhile (Dialing.step limit) Unreset (.start incoming) actions dialing) :
    (∀ action, dialing.step limit action ≠ .panicked) ∧ (dialing.result = none ∨
        (dialing.result = some (verdict status) ∧ dialing.interim = interim ∧ dialing.stream.unread = rest)) ∧
      (dialing.stream.recv.fin = true → ∃ polls final, polls ≤ interim.length + 1 ∧
        RunWhile (Dialing.step limit) Unreset dialing (List.replicate polls .poll) final ∧
        final.result = some (verdict status)) := by
  have track := Dialing.OnTrack.run responses run
  refine ⟨track.not_panicked, track.place.imp_left And.left, ?_⟩
  intro ended
  exact track.concludes (interim.length + 1) ended (by omega)

/-- Bytes of a proxy that answers 103, then 200, and sends `hi` through the tunnel. -/
def earlyHints : List UInt8 := [1, 3, 0, 0, 216, 1, 3, 0, 0, 217, 0, 2, 104, 105]

def okStatus : HttpTypes.any.status.Value := ⟨byteString "200", rfl⟩

theorem verdict_okStatus : verdict okStatus = .established okStatus := by decide +kernel

theorem responses_earlyHints :
    Responses .any 16384 earlyHints [hintStatus] okStatus [0, 2, 104, 105] :=
  .interim .refl (show Frame.decode earlyHints = .frame (.headers [0, 0, 216]) _ from rfl)
      (by decide +kernel) (by decide +kernel) <|
    .final .refl (show _ = Decoded.frame (.headers [0, 0, 217]) _ from rfl) (by decide +kernel) (by decide +kernel)

-- the final response is cut in two, and the stream ends before the second poll
theorem dial_hears_response_early : ∃ dialing, RunWhile (@Dialing.step .any 16384) Unreset (.start earlyHints)
      [.deliver 7, .poll, .poll, .deliver 7, .finish] dialing ∧
    ∃ polls final, polls ≤ 2 ∧
      RunWhile (@Dialing.step .any 16384) Unreset dialing (List.replicate polls .poll) final ∧
      final.result = some (.established okStatus) := by
  have run := run_of_execute (show execute (@Dialing.step .any 16384) (.start earlyHints)
    [.deliver 7, .poll, .poll, .deliver 7, .finish] = .next
      ⟨⟨⟨[], [[0, 0, 217, 0, 2, 104, 105]], true, false, true⟩, [[1, 3]], false, some 5, 0⟩,
        [hintStatus], none⟩ by decide +kernel)
  have unreset : ∀ action ∈ [DialAction.deliver 7, .poll, .poll, .deliver 7, .finish], action ≠ .reset := by decide
  have calm : RunWhile _ Unreset _ _ _ := run.restrict fun action member _ => unreset action member
  exact ⟨_, calm, verdict_okStatus ▸ (dial_hears_response responses_earlyHints calm).2.2 rfl⟩

end Complete

section Tunnel
variable {http : HttpTypes} {limit : Nat} {incoming : List UInt8} {interim : List http.status.Value}
  {status : http.status.Value} {frames : List DataFrame} {dialing : Dialing http} {reading : Reading}
  {decodeFields : List UInt8 → Bool}

/-- `Http3Stream::new`, its reading side. -/
def Dialing.reader (dialing : Dialing http) : Reader := ⟨⟨dialing.stream, none⟩, [], false, false⟩

theorem Dialing.OnTrack.tracks (track : dialing.OnTrack limit interim status (wireBytes frames))
    (established : dialing.result = some (.established status)) :
    Tracks frames ⟨dialing.reader, []⟩ ∧ dialing.stream.unread = wireBytes frames := by
  rcases track.place with ⟨undecided, -⟩ | ⟨-, -, unread⟩
  · exact absurd (undecided.symm.trans established) (by simp)
  · have place : RequestStream.At ⟨dialing.stream, none⟩ [] frames := ⟨track.intact, rfl, track.empty, unread⟩
    refine ⟨Or.inr ⟨?_, .data rfl rfl place rfl Iff.rfl, ?_⟩, unread⟩
    · rintro ⟨size, error, member⟩
      cases member
    · rintro ⟨size, room, member⟩
      cases member

/-- A tunnel carries what the proxy sends behind its response, from the first byte on, even
if it arrived while the dial was still waiting. -/
theorem tunnel_reads_behind_response {actions : List DialAction} {reads : List ReadAction}
    (responses : Responses http limit incoming interim status (wireBytes frames)) (only : OnlyLastEmpty frames)
    (dialed : RunWhile (Dialing.step limit) Unreset (.start incoming) actions dialing)
    (established : dialing.result = some (.established status))
    (run : RunWhile (Reading.step decodeFields) Undisturbed ⟨dialing.reader, []⟩ reads reading) :
    (∀ action, reading.step decodeFields action ≠ .panicked) ∧ ¬ ReportsError reading.log ∧
      output reading.log <+: content frames ∧ (ReportsEnd reading.log → output reading.log = content frames) ∧
      (reading.reader.receive.stream.recv.fin = true →
        ∀ sizes : List Nat, (∀ size ∈ sizes, 0 < size) → (content frames).length < sizes.length →
          ∃ final, RunWhile (Reading.step decodeFields) Undisturbed reading
              (sizes.map fun size => ReadAction.poll size false) final ∧ ReportsEnd final.log) := by
  have track := Dialing.OnTrack.run responses dialed
  obtain ⟨tracks, unread⟩ := track.tracks established
  have start : dialing.reader.Safe := by
    refine ⟨track.intact.sound, rfl, ?_, ?_⟩
    · exact track.empty ▸ Nat.zero_le _
    · change SafeData (dialing.stream.unread.drop dialing.stream.remainingData)
      rw [track.empty, unread]
      exact safeData_wireBytes frames only
  have safe : reading.reader.Safe :=
    RunWhile.preserves (fun _ _ _ held _ taken => Reading.step_safe held taken) run start
  have course := only.onCourse (tracks.run run)
  refine ⟨Reading.safe_not_panicked safe, course.clean, course.sub, fun ended => (course.atEnd ended).1, ?_⟩
  intro complete sizes room enough
  obtain ⟨final, onward, after, -, reached⟩ := course.readOn only room safe complete
  refine ⟨final, onward, reached.resolve_right ?_⟩
  intro far
  have within := after.sub.length_le
  omega

-- all of it has arrived before the dial hears the first response
theorem tunnel_reads_behind_response_early : ∃ reading,
    RunWhile (Reading.step fun _ => true) Undisturbed
      ⟨⟨⟨⟨⟨[], [], true, false, false⟩, [[0, 2, 104, 105]], true, none, 0⟩, none⟩, [], false, false⟩, []⟩
      [.poll 1 false, .poll 9 false, .poll 9 false] reading ∧ output reading.log = [104, 105] := by
  have dialed := run_of_execute (show execute (@Dialing.step .any 16384) (.start earlyHints)
    [.deliver 14, .finish, .poll, .poll] = .next
      ⟨⟨⟨[], [], true, false, false⟩, [[0, 2, 104, 105]], true, none, 0⟩, [hintStatus],
        some (.established okStatus)⟩ by decide +kernel)
  have unreset : ∀ action ∈ [DialAction.deliver 14, .finish, .poll, .poll], action ≠ .reset := by decide
  have calm : RunWhile _ Unreset _ _ _ := dialed.restrict fun action member _ => unreset action member
  have read : RunWhile (Reading.step fun _ => true) Undisturbed
      ⟨⟨⟨⟨⟨[], [], true, false, false⟩, [[0, 2, 104, 105]], true, none, 0⟩, none⟩, [], false, false⟩, []⟩
      [.poll 1 false, .poll 9 false, .poll 9 false]
      ⟨⟨⟨⟨⟨[], [], true, false, false⟩, [], true, none, 0⟩, none⟩, [], true, true⟩,
        [(1, .ready [104]), (9, .ready [105]), (9, .ready [])]⟩ :=
    .next rfl rfl (.next rfl rfl (.single rfl rfl))
  have responses : Responses .any 16384 earlyHints _ _ (wireBytes [.short [104, 105] rfl]) := responses_earlyHints
  have tunnel := tunnel_reads_behind_response responses (by simp [OnlyLastEmpty]) calm rfl read
  exact ⟨_, read, tunnel.2.2.2.1 ⟨9, by decide, by simp⟩⟩

end Tunnel

end ProxyTunnels.Http3
