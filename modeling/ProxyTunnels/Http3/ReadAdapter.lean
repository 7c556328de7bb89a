import ProxyTunnels.Http3.Read

/-! What `Http3Stream::poll_read` makes of any receiving half.

The adapter is stated over a receiver that may answer each of its polls in any way, so a fact
about it holds for every sequence of chunks, pending polls, errors and ends. `reading_simulated`
says that the reader of a tunnel stream is this adapter over the vendored request stream.
-/

set_option autoImplicit false

namespace ProxyTunnels.Http3
open Machine

/-- What the adapter uses of a receiving half. -/
structure Receiver (ρ : Type) where
  pollRecvData : ρ → Answer (Option (List UInt8)) × ρ
  pollRecvTrailers : ρ → Answer (Option (List UInt8)) × ρ

inductive RecvCall where
  | data (answer : Answer (Option (List UInt8)))
  | trailers (answer : Answer (Option (List UInt8)))
  deriving DecidableEq, Repr

def RecvCall.answer : RecvCall → Answer (Option (List UInt8))
  | .data answer => answer
  | .trailers answer => answer

def RecvCall.chunk : RecvCall → List UInt8
  | .data (.ready (some chunk)) => chunk
  | _ => []

/-- The read side of `Http3Stream`, over any receiving half. -/
structure Adapter (ρ : Type) where
  receive : ρ
  buffered : List UInt8
  trailers : Bool
  eof : Bool

/-- One `poll_read`: what it reports and leaves, the polls it made of the receiving half, and
whether it woke the task's own waker. -/
structure ReadPoll (ρ : Type) where
  result : ReadResult
  adapter : Adapter ρ
  calls : List RecvCall
  woken : Bool

def ReadResult.bytes : ReadResult → List UInt8
  | .ready bytes => bytes
  | _ => []

section Adapter
variable {ρ : Type} (receiver : Receiver ρ)

def Adapter.ends (adapter : Adapter ρ) (call : RecvCall) (result : ReadResult) : ReadPoll ρ :=
  ⟨result, adapter, [call], false⟩

def ReadPoll.afterCall (poll : ReadPoll ρ) (call : RecvCall) : ReadPoll ρ :=
  { poll with calls := call :: poll.calls }

def Adapter.onTrailers (adapter : Adapter ρ) : Answer (Option (List UInt8)) × ρ → ReadPoll ρ
  | (.pending, receive) => { adapter with receive }.ends (.trailers .pending) .pending
  | (.panicked, receive) => { adapter with receive }.ends (.trailers .panicked) .panicked
  | (.failed error, receive) => { adapter with receive }.ends (.trailers (.failed error)) (.failed .broken)
  | (.ready (some fields), receive) =>
      { adapter with receive }.ends (.trailers (.ready (some fields))) (.failed .trailersNotPermitted)
  | (.ready none, receive) => { adapter with receive, eof := true }.ends (.trailers (.ready none)) (.ready [])

def Adapter.onData (adapter : Adapter ρ) (again : Adapter ρ → ReadPoll ρ) :
    Answer (Option (List UInt8)) × ρ → ReadPoll ρ
  | (.pending, receive) => { adapter with receive }.ends (.data .pending) .pending
  | (.panicked, receive) => { adapter with receive }.ends (.data .panicked) .panicked
  | (.failed error, receive) => { adapter with receive }.ends (.data (.failed error)) (.failed .broken)
  | (.ready (some chunk), receive) =>
      (again { adapter with receive, buffered := chunk }).afterCall (.data (.ready (some chunk)))
  | (.ready none, receive) => (again { adapter with receive, trailers := true }).afterCall (.data (.ready none))

/-- The loop of `poll_read`. -/
def Adapter.readLoop (size : Nat) : Nat → Adapter ρ → ReadPoll ρ
  -- Out of rounds the task's own waker is woken.
  | 0, adapter => ⟨.pending, adapter, [], true⟩
  | rounds + 1, adapter =>
      if !adapter.buffered.isEmpty then
        ⟨.ready (adapter.buffered.take size), { adapter with buffered := adapter.buffered.drop size }, [], false⟩
      else if adapter.trailers then adapter.onTrailers (receiver.pollRecvTrailers adapter.receive)
      else adapter.onData (Adapter.readLoop size rounds) (receiver.pollRecvData adapter.receive)

/-- `Http3Stream::poll_read` into a buffer of `size` free bytes. -/
def Adapter.pollRead (adapter : Adapter ρ) (size : Nat) (stopped : Bool) : ReadPoll ρ :=
  if size = 0 then ⟨.ready [], adapter, [], false⟩
  else if stopped then ⟨.failed .broken, adapter, [], false⟩
  else if adapter.eof then ⟨.ready [], adapter, [], false⟩
  else adapter.readLoop receiver size 32

structure Adapts (before : Adapter ρ) (poll : ReadPoll ρ) : Prop where
  /-- What was buffered and what was handed over is what was delivered and what is buffered. -/
  bytes : before.buffered ++ poll.calls.flatMap RecvCall.chunk = poll.result.bytes ++ poll.adapter.buffered
  drained : poll.result.bytes = [] → poll.woken = false → poll.adapter.buffered = []
  pending : poll.result = .pending →
    poll.woken = true ∨ ∃ call, poll.calls.getLast? = some call ∧ call.answer = .pending
  trailers : poll.adapter.trailers = true → before.trailers = true ∨ .data (.ready none) ∈ poll.calls
  eof : poll.adapter.eof = true →
    (before.trailers = true ∨ .data (.ready none) ∈ poll.calls) ∧ .trailers (.ready none) ∈ poll.calls
  ended : poll.result = .ready [] → poll.adapter.eof = true
  drainedAtEof : poll.adapter.eof = true → poll.adapter.buffered = []

variable {receiver}

theorem Adapts.of_ends {before next : Adapter ρ} {call : RecvCall} {result : ReadResult}
    (empty : before.buffered = []) (still : next.buffered = []) (trailers : next.trailers = before.trailers)
    (nothing : call.chunk = [] ∧ result.bytes = []) (pending : result = .pending → call.answer = .pending)
    (eof : next.eof = true → before.trailers = true ∧ call = .trailers (.ready none))
    (ended : result = .ready [] → next.eof = true) : Adapts before (next.ends call result) where
  bytes := by simp [Adapter.ends, empty, still, nothing]
  drained _ _ := still
  pending waits := .inr ⟨call, rfl, pending waits⟩
  trailers set := .inl (trailers ▸ set)
  eof set := ⟨.inl (eof set).1, by simp [Adapter.ends, (eof set).2]⟩
  ended := ended
  drainedAtEof _ := still

theorem Adapts.of_stop {adapter : Adapter ρ} (call : RecvCall) (result : ReadResult)
    (empty : adapter.buffered = []) (going : adapter.eof = false) (nothing : call.chunk = [])
    (silent : ∀ bytes, result ≠ .ready bytes) (pending : result = .pending → call.answer = .pending) (receive : ρ) :
    Adapts adapter ({ adapter with receive }.ends call result) := by
  have quiet : result.bytes = [] := by
    cases result with
    | ready bytes => exact absurd rfl (silent bytes)
    | _ => rfl
  refine .of_ends empty empty rfl ⟨nothing, quiet⟩ pending ?_ fun ended => absurd ended (silent [])
  simp [going]

theorem Adapts.afterCall {before middle : Adapter ρ} {poll : ReadPoll ρ} {call : RecvCall}
    (rest : Adapts middle poll) (empty : before.buffered = []) (handed : middle.buffered = call.chunk)
    (trailers : middle.trailers = true → before.trailers = true ∨ call = .data (.ready none)) :
    Adapts before (poll.afterCall call) := by
  have seen : middle.trailers = true ∨ .data (.ready none) ∈ poll.calls →
      before.trailers = true ∨ .data (.ready none) ∈ call :: poll.calls := by
    rintro (set | later)
    · rcases trailers set with earlier | rfl
      · exact .inl earlier
      · exact .inr List.mem_cons_self
    · exact .inr (List.mem_cons_of_mem call later)
  refine ⟨?_, rest.drained, ?_, fun set => seen (rest.trailers set), ?_, rest.ended, rest.drainedAtEof⟩
  · have bytes := rest.bytes
    rw [handed] at bytes
    simpa [ReadPoll.afterCall, empty] using bytes
  · intro waits
    rcases rest.pending waits with woken | ⟨last, found, answer⟩
    · exact .inl woken
    · refine .inr ⟨last, ?_, answer⟩
      simp [ReadPoll.afterCall, List.getLast?_cons, found]
  · intro set
    obtain ⟨first, second⟩ := rest.eof set
    exact ⟨seen first, List.mem_cons_of_mem call second⟩

theorem Adapter.onTrailers_adapts {adapter : Adapter ρ} (empty : adapter.buffered = [])
    (phase : adapter.trailers = true) (going : adapter.eof = false)
    (answered : Answer (Option (List UInt8)) × ρ) :
    Adapts adapter (adapter.onTrailers answered) ∧ (adapter.onTrailers answered).woken = false := by
  obtain ⟨answer, receive⟩ := answered
  cases answer with
  | ready fields =>
    cases fields with
    | none => exact ⟨.of_ends empty empty rfl ⟨rfl, rfl⟩ nofun (fun _ => ⟨phase, rfl⟩) fun _ => rfl, rfl⟩
    | some fields =>
      exact ⟨.of_stop (.trailers (.ready (some fields))) (.failed .trailersNotPermitted) empty going rfl nofun nofun
        receive, rfl⟩
  | pending => exact ⟨.of_stop (.trailers .pending) .pending empty going rfl nofun (fun _ => rfl) receive, rfl⟩
  | panicked => exact ⟨.of_stop (.trailers .panicked) .panicked empty going rfl nofun nofun receive, rfl⟩
  | failed error =>
    exact ⟨.of_stop (.trailers (.failed error)) (.failed .broken) empty going rfl nofun nofun receive, rfl⟩

theorem Adapter.readLoop_adapts {size : Nat} (room : 0 < size) (rounds : Nat) (adapter : Adapter ρ)
    (going : adapter.eof = false) :
    Adapts adapter (adapter.readLoop receiver size rounds) ∧
      ((adapter.readLoop receiver size rounds).woken = true →
        (adapter.readLoop receiver size rounds).result = .pending ∧
          (adapter.readLoop receiver size rounds).calls.length = rounds) := by
  -- Each answer that is not the last costs a round, so the polls are counted with the rounds.
  induction rounds generalizing adapter with
  | zero =>
    refine ⟨⟨?_, nofun, fun _ => .inl rfl, .inl, ?_, nofun, ?_⟩, fun _ => ⟨rfl, rfl⟩⟩
    · simp [Adapter.readLoop, ReadResult.bytes]
    · simp [Adapter.readLoop, going]
    · simp [Adapter.readLoop, going]
  | succ rounds ih =>
    unfold Adapter.readLoop
    split
    · next full =>
      have some : adapter.buffered.take size ≠ [] := by
        simpa [Nat.ne_of_gt room] using full
      refine ⟨⟨?_, ?_, nofun, .inl, by simp [going], ?_, by simp [going]⟩, nofun⟩
      · simp [ReadResult.bytes]
      · exact fun nothing => absurd nothing some
      · exact fun nothing => absurd (ReadResult.ready.inj nothing) some
    · next drained =>
      have empty : adapter.buffered = [] := by simpa using drained
      split
      · next phase =>
        obtain ⟨adapts, quiet⟩ := Adapter.onTrailers_adapts empty phase going
          (receiver.pollRecvTrailers adapter.receive)
        exact ⟨adapts, by simp [quiet]⟩
      · obtain ⟨answer, receive⟩ := receiver.pollRecvData adapter.receive
        cases answer with
        | ready chunk =>
          cases chunk with
          | none =>
            obtain ⟨adapts, rounds⟩ := ih { adapter with receive, trailers := true } going
            refine ⟨adapts.afterCall empty empty fun _ => .inr rfl, fun woken => ?_⟩
            simpa [Adapter.onData, ReadPoll.afterCall] using rounds woken
          | some chunk =>
            -- An empty chunk leaves the next round where this one was.
            obtain ⟨adapts, rounds⟩ := ih { adapter with receive, buffered := chunk } going
            refine ⟨adapts.afterCall empty rfl .inl, fun woken => ?_⟩
            simpa [Adapter.onData, ReadPoll.afterCall] using rounds woken
        | pending =>
          exact ⟨.of_stop (.data .pending) .pending empty going rfl nofun (fun _ => rfl) receive, nofun⟩
        | panicked => exact ⟨.of_stop (.data .panicked) .panicked empty going rfl nofun nofun receive, nofun⟩
        | failed error =>
          exact ⟨.of_stop (.data (.failed error)) (.failed .broken) empty going rfl nofun nofun receive, nofun⟩

theorem Adapter.pollRead_eof {adapter : Adapter ρ} (eof : adapter.eof = true) (size : Nat) :
    adapter.pollRead receiver size false = ⟨.ready [], adapter, [], false⟩ := by
  unfold Adapter.pollRead
  simp [eof]

end Adapter

section Request
variable {decodeFields : List UInt8 → Bool}

def RequestStream.receiver (decodeFields : List UInt8 → Bool) : Receiver RequestStream :=
  ⟨RequestStream.pollRecvData, RequestStream.pollRecvTrailers decodeFields⟩

def Reader.adapter (reader : Reader) : Adapter RequestStream :=
  ⟨reader.receive, reader.buffered, reader.trailers, reader.eof⟩

structure ReadPoll.Matches (poll : ReadPoll RequestStream) (outcome : ReadResult × Reader) : Prop where
  result : poll.result = outcome.1
  adapter : poll.adapter = outcome.2.adapter

theorem Reader.onTrailers_matches (reader : Reader)
    (answered : Answer (Option (List UInt8)) × RequestStream) :
    (reader.adapter.onTrailers answered).Matches (reader.onTrailers answered) := by
  obtain ⟨answer, receive⟩ := answered
  cases answer with
  | ready fields => cases fields <;> exact ⟨rfl, rfl⟩
  | _ => exact ⟨rfl, rfl⟩

theorem Reader.readLoop_matches (size rounds : Nat) (reader : Reader) :
    (reader.adapter.readLoop (RequestStream.receiver decodeFields) size rounds).Matches
      (reader.readLoop decodeFields size rounds) := by
  induction rounds generalizing reader with
  | zero => exact ⟨rfl, rfl⟩
  | succ rounds ih =>
    unfold Adapter.readLoop Reader.readLoop
    change ReadPoll.Matches (if !reader.buffered.isEmpty then _ else if reader.trailers then _ else _) _
    split
    · exact ⟨rfl, rfl⟩
    · split
      · exact Reader.onTrailers_matches reader _
      · change ReadPoll.Matches (Adapter.onData _ _ reader.receive.pollRecvData) _
        obtain ⟨answer, receive⟩ := reader.receive.pollRecvData
        cases answer with
        | ready chunk =>
          cases chunk with
          | none =>
            obtain ⟨result, adapter⟩ := ih { reader with receive, trailers := true }
            exact ⟨result, adapter⟩
          | some chunk =>
            obtain ⟨result, adapter⟩ := ih { reader with receive, buffered := chunk }
            exact ⟨result, adapter⟩
        | _ => exact ⟨rfl, rfl⟩

/-- The reader of a tunnel stream is the adapter over its request stream. -/
theorem Reader.pollRead_matches (decodeFields : List UInt8 → Bool) (reader : Reader) (size : Nat) (stopped : Bool) :
    (reader.adapter.pollRead (RequestStream.receiver decodeFields) size stopped).Matches
      (reader.pollRead decodeFields size stopped) := by
  unfold Adapter.pollRead Reader.pollRead
  change ReadPoll.Matches (if size = 0 then _ else if stopped then _ else if reader.eof then _ else _) _
  split
  · exact ⟨rfl, rfl⟩
  · split
    · exact ⟨rfl, rfl⟩
    · split
      · exact ⟨rfl, rfl⟩
      · exact Reader.readLoop_matches size 32 reader

end Request

section Reads
variable {ρ : Type}

structure Reads (ρ : Type) where
  adapter : Adapter ρ
  calls : List RecvCall
  delivered : List UInt8

def Reads.start (receive : ρ) : Reads ρ := ⟨⟨receive, [], false, false⟩, [], []⟩

def Reads.received (reads : Reads ρ) : List UInt8 := reads.calls.flatMap RecvCall.chunk

def Reads.after (reads : Reads ρ) (poll : ReadPoll ρ) : Reads ρ :=
  ⟨poll.adapter, reads.calls ++ poll.calls, reads.delivered ++ poll.result.bytes⟩

inductive ReadsAction (ρ : Type) where
  | arrive (change : ρ → ρ)
  | poll (size : Nat) (stopped : Bool)

def Reads.step (receiver : Receiver ρ) (reads : Reads ρ) : ReadsAction ρ → Outcome (Reads ρ)
  | .arrive change =>
      .next { reads with adapter := { reads.adapter with receive := change reads.adapter.receive } }
  | .poll size stopped =>
      let poll := reads.adapter.pollRead receiver size stopped
      if poll.result = .panicked then .panicked else .next (reads.after poll)

structure Reads.Sound (reads : Reads ρ) : Prop where
  bytes : reads.received = reads.delivered ++ reads.adapter.buffered
  trailers : reads.adapter.trailers = true → .data (.ready none) ∈ reads.calls
  eof : reads.adapter.eof = true →
    .data (.ready none) ∈ reads.calls ∧ .trailers (.ready none) ∈ reads.calls ∧ reads.adapter.buffered = []

variable {receiver : Receiver ρ} {reads next : Reads ρ}

theorem Reads.Sound.idle (sound : reads.Sound) {result : ReadResult} (nothing : result.bytes = []) :
    (reads.after ⟨result, reads.adapter, [], false⟩).Sound := by
  obtain ⟨bytes, trailers, eof⟩ := sound
  unfold Reads.received at bytes
  exact ⟨by simpa [Reads.after, Reads.received, nothing] using bytes, by simpa [Reads.after] using trailers,
    by simpa [Reads.after] using eof⟩

theorem Reads.Sound.adapts (sound : reads.Sound) {poll : ReadPoll ρ} (adapts : Adapts reads.adapter poll) :
    (reads.after poll).Sound := by
  have seen : reads.adapter.trailers = true ∨ .data (.ready none) ∈ poll.calls →
      .data (.ready none) ∈ reads.calls ++ poll.calls := by
    rintro (set | now)
    · exact List.mem_append_left poll.calls (sound.trailers set)
    · exact List.mem_append_right reads.calls now
  refine ⟨?_, fun set => seen (adapts.trailers set), ?_⟩
  · calc (reads.after poll).received
        = reads.received ++ poll.calls.flatMap RecvCall.chunk := by
          simp [Reads.after, Reads.received]
      _ = reads.delivered ++ (reads.adapter.buffered ++ poll.calls.flatMap RecvCall.chunk) := by
          rw [sound.bytes, List.append_assoc]
      _ = reads.delivered ++ (poll.result.bytes ++ poll.adapter.buffered) := by rw [adapts.bytes]
      _ = (reads.after poll).delivered ++ (reads.after poll).adapter.buffered := by
          simp [Reads.after]
  · intro set
    obtain ⟨first, second⟩ := adapts.eof set
    exact ⟨seen first, List.mem_append_right reads.calls second, adapts.drainedAtEof set⟩

theorem Reads.Sound.poll (sound : reads.Sound) (size : Nat) (stopped : Bool) :
    (reads.after (reads.adapter.pollRead receiver size stopped)).Sound := by
  unfold Adapter.pollRead
  split
  · exact sound.idle rfl
  · next room =>
    split
    · exact sound.idle rfl
    · split
      · exact sound.idle rfl
      · next going =>
        exact sound.adapts (Adapter.readLoop_adapts (Nat.pos_of_ne_zero room) 32 _ (by simpa using going)).1

theorem Reads.Sound.step (sound : reads.Sound) {action : ReadsAction ρ}
    (taken : reads.step receiver action = .next next) : next.Sound := by
  cases action with
  | arrive change =>
    cases taken
    exact ⟨sound.bytes, sound.trailers, sound.eof⟩
  | poll size stopped =>
    unfold Reads.step at taken
    dsimp only at taken
    split at taken
    · cases taken
    · cases taken
      exact sound.poll size stopped

theorem Reads.sound_of_run {receive : ρ} {actions : List (ReadsAction ρ)}
    (run : Run (Reads.step receiver) (.start receive) actions reads) : reads.Sound :=
  run.preserves (fun _ _ _ sound taken => sound.step taken)
    ⟨rfl, by simp [Reads.start], by simp [Reads.start]⟩

theorem Reads.eof_step {action : ReadsAction ρ} (ended : reads.adapter.eof = true)
    (taken : reads.step receiver action = .next next) : next.adapter.eof = true := by
  cases action with
  | arrive change =>
    cases taken
    exact ended
  | poll size stopped =>
    unfold Reads.step at taken
    dsimp only at taken
    split at taken
    · cases taken
    · cases taken
      cases stopped with
      | false =>
        rw [Adapter.pollRead_eof ended]
        exact ended
      | true =>
        unfold Reads.after Adapter.pollRead
        split
        · exact ended
        · exact ended

structure Adapter.Leaves (poll : ReadPoll ρ) : Prop where
  drained : poll.result.bytes = [] → poll.woken = false → poll.adapter.buffered = []
  rounds : poll.woken = true → poll.result = .pending ∧ poll.calls.length = 32
  ended : poll.result = .ready [] → poll.adapter.eof = true

theorem Reads.Sound.leaves (sound : reads.Sound) {size : Nat} (room : 0 < size) :
    Adapter.Leaves (reads.adapter.pollRead receiver size false) := by
  cases ended : reads.adapter.eof with
  | true =>
    rw [Adapter.pollRead_eof ended]
    exact ⟨fun _ _ => (sound.eof ended).2.2, nofun, fun _ => ended⟩
  | false =>
    have going : reads.adapter.pollRead receiver size false = reads.adapter.readLoop receiver size 32 := by
      unfold Adapter.pollRead
      simp [Nat.ne_of_gt room, ended]
    obtain ⟨adapts, rounds⟩ := Adapter.readLoop_adapts room 32 reads.adapter ended
    rw [going]
    exact ⟨adapts.drained, rounds, adapts.ended⟩

theorem Adapter.pollRead_pending {adapter : Adapter ρ} {size : Nat} {stopped : Bool}
    (pending : (adapter.pollRead receiver size stopped).result = .pending) :
    (adapter.pollRead receiver size stopped).woken = true ∨
      ∃ call, (adapter.pollRead receiver size stopped).calls.getLast? = some call ∧ call.answer = .pending := by
  unfold Adapter.pollRead at pending ⊢
  split at pending
  · cases pending
  · next room =>
    split at pending
    · cases pending
    · next unstopped =>
      split at pending
      · cases pending
      · next going =>
        rw [if_neg room, if_neg unstopped, if_neg going]
        exact (Adapter.readLoop_adapts (Nat.pos_of_ne_zero room) 32 _ (by simpa using going)).1.pending pending

structure Reads.Follows (reads : Reads RequestStream) (reading : Reading) : Prop where
  adapter : reads.adapter = reading.reader.adapter
  delivered : reads.delivered = reading.log.flatMap fun entry => entry.2.bytes

/-- Every step of a tunnel stream's reader is one of the adapter's. -/
theorem Reads.Follows.step {decodeFields : List UInt8 → Bool} {reads : Reads RequestStream}
    {reading following : Reading} (follows : reads.Follows reading) {action : ReadAction}
    (taken : reading.step decodeFields action = .next following) :
    ∃ move after, reads.step (RequestStream.receiver decodeFields) move = .next after ∧ after.Follows following := by
  have arrives : ∀ recv : RecvStream,
      (⟨{ reads.adapter with receive := { reading.reader.receive with
          stream := { reading.reader.receive.stream with recv } } }, reads.calls, reads.delivered⟩ :
        Reads RequestStream).Follows { reading with reader := reading.reader.setRecv recv } := by
    intro recv
    rw [follows.adapter]
    exact ⟨rfl, follows.delivered⟩
  cases action with
  | deliver count =>
    obtain ⟨_, taken⟩ := Outcome.guarded_eq_next.mp taken
    cases taken
    exact ⟨.arrive fun _ => _, _, rfl, arrives _⟩
  | finish =>
    obtain ⟨_, taken⟩ := Outcome.guarded_eq_next.mp taken
    cases taken
    exact ⟨.arrive fun _ => _, _, rfl, arrives _⟩
  | reset =>
    cases taken
    exact ⟨.arrive fun _ => _, _, rfl, arrives _⟩
  | poll size stopped =>
    have same := Reader.pollRead_matches decodeFields reading.reader size stopped
    rw [← follows.adapter] at same
    unfold Reading.step at taken
    dsimp only at taken
    split at taken
    · cases taken
    · next result reader unharmed polled =>
      cases taken
      rw [polled] at same
      refine ⟨.poll size stopped, _, if_neg ?_, same.adapter, ?_⟩
      · rw [same.result]
        exact unharmed
      · simp [Reads.after, follows.delivered, same.result]

theorem reading_simulated {decodeFields : List UInt8 → Bool} {early : List (List UInt8)} {incoming : List UInt8}
    {actions : List ReadAction} {reading : Reading}
    (run : Run (Reading.step decodeFields) (.start early incoming) actions reading) :
    ∃ moves reads, Run (Reads.step (RequestStream.receiver decodeFields))
      (.start (Reading.start early incoming).reader.receive) moves reads ∧ reads.Follows reading := by
  apply run.preserves
  · rintro reading action following ⟨moves, reads, earlier, follows⟩ taken
    obtain ⟨move, after, moved, onward⟩ := follows.step taken
    exact ⟨moves ++ [move], after, earlier.append (.single trivial moved), onward⟩
  · exact ⟨[], _, .done, rfl, rfl⟩

end Reads

/-- Along every run the adapter has delivered a part of what it received from its beginning. A read
with room on a session that goes on and that delivers nothing has delivered everything, unless it
gave up after 32 answers, when what is left is buffered; one that reports the end has seen the end
of the data and of the trailers, and all reads after it report the end without a poll; and a read
that waits has been told to wait, or has woken its task. -/
theorem read_adapter_exact {ρ : Type} {receiver : Receiver ρ} {receive : ρ} {actions : List (ReadsAction ρ)}
    {reads : Reads ρ} (run : Run (Reads.step receiver) (.start receive) actions reads) :
    reads.delivered <+: reads.received ∧
    ∀ (size : Nat) (stopped : Bool) (poll : ReadPoll ρ), poll = reads.adapter.pollRead receiver size stopped →
      (reads.after poll).delivered <+: (reads.after poll).received ∧
      (poll.result = .pending →
        poll.woken = true ∨ ∃ call, poll.calls.getLast? = some call ∧ call.answer = .pending) ∧
      (0 < size → stopped = false →
        (poll.result.bytes = [] → poll.woken = false →
          (reads.after poll).delivered = (reads.after poll).received) ∧
        (poll.woken = true → poll.result = .pending ∧ poll.calls.length = 32 ∧
          (reads.after poll).received = (reads.after poll).delivered ++ poll.adapter.buffered) ∧
        (poll.result = .ready [] →
          .data (.ready none) ∈ (reads.after poll).calls ∧ .trailers (.ready none) ∈ (reads.after poll).calls ∧
          ∀ later final, Run (Reads.step receiver) (reads.after poll) later final → ∀ wanted, 0 < wanted →
            final.adapter.pollRead receiver wanted false = ⟨.ready [], final.adapter, [], false⟩)) := by
  have sound := Reads.sound_of_run run
  refine ⟨⟨_, sound.bytes.symm⟩, ?_⟩
  rintro size stopped _ rfl
  have after : (reads.after (reads.adapter.pollRead receiver size stopped)).Sound := sound.poll size stopped
  refine ⟨⟨_, after.bytes.symm⟩, Adapter.pollRead_pending, ?_⟩
  rintro room rfl
  have leaves : Adapter.Leaves (reads.adapter.pollRead receiver size false) := sound.leaves room
  refine ⟨fun nothing quiet => ?_, fun woken => ?_, fun nothing => ?_⟩
  · have empty : (reads.after (reads.adapter.pollRead receiver size false)).adapter.buffered = [] :=
      leaves.drained nothing quiet
    rw [after.bytes, empty, List.append_nil]
  · obtain ⟨pending, rounds⟩ := leaves.rounds woken
    exact ⟨pending, rounds, after.bytes⟩
  · have ended := leaves.ended nothing
    obtain ⟨data, trailers, _⟩ := after.eof ended
    refine ⟨data, trailers, fun later final onward wanted _ => ?_⟩
    have still : final.adapter.eof = true :=
      onward.preserves (fun _ _ _ ended taken => Reads.eof_step ended taken) ended
    exact Adapter.pollRead_eof still wanted

section Script

def scripted : Receiver (List (Answer (Option (List UInt8))) × List (Answer (Option (List UInt8)))) where
  pollRecvData
    | (answer :: rest, trailers) => (answer, (rest, trailers))
    | ([], trailers) => (.pending, ([], trailers))
  pollRecvTrailers
    | (data, answer :: rest) => (answer, (data, rest))
    | (data, []) => (.pending, (data, []))

def lateChunk : Reads (List (Answer (Option (List UInt8))) × List (Answer (Option (List UInt8)))) :=
  .start (List.replicate 31 (.ready (some [])) ++ [.ready (some [104])], [])

end Script

theorem read_adapter_exact_two_bytes : ∃ reads, Run (Reads.step scripted)
    (.start ([.ready (some [104, 105]), .ready none], [.ready none]))
      [.poll 1 false, .poll 1 false, .poll 1 false] reads ∧
    reads.delivered = [104, 105] ∧ reads.delivered <+: reads.received := by
  have runs : ∃ reads, Run (Reads.step scripted)
      (.start ([.ready (some [104, 105]), .ready none], [.ready none]))
        [.poll 1 false, .poll 1 false, .poll 1 false] reads ∧ reads.delivered = [104, 105] :=
    ⟨_, run_of_execute rfl, rfl⟩
  obtain ⟨reads, run, delivered⟩ := runs
  exact ⟨reads, run, delivered, (read_adapter_exact run).1⟩

/-- After 31 empty chunks the chunk that follows is received by a read that delivers nothing. -/
theorem last_round_keeps_chunk :
    ∃ poll, poll = lateChunk.adapter.pollRead scripted 1 false ∧ poll.result = .pending ∧
      (lateChunk.after poll).received = [104] ∧ (lateChunk.after poll).delivered = [] :=
  ⟨_, rfl, by decide, by decide, by decide⟩

end ProxyTunnels.Http3
