import ProxyTunnels.Machine.History
import ProxyTunnels.Http3.SafeScan
import ProxyTunnels.Http3.Transmit.Config

/-! The connection driver and the error all its users share.

A connection has one place for its error, which the driver and every request stream may
try to fill. The driver reads the peer's control stream: its SETTINGS, its GOAWAYs, and
whatever else it should not send.
-/

set_option autoImplicit false

namespace ProxyTunnels.Http3.Driver
open Machine

/-- `ConnectionErrorIncoming`. -/
inductive QuicError where
  | applicationClose (code : Nat)
  | timeout
  | internalError (reason : String)
  | undefined
  deriving DecidableEq, Repr

inductive Fault where
  | twoControlStreams
  | twoEncoderStreams
  | twoDecoderStreams
  | controlReset
  | incompleteFrame
  | frame (error : FrameError)
  | controlClosed
  | secondSettings
  | beforeSettings (frame : Frame)
  | unexpectedFrame (frame : Frame)
  | goawayNotRequest (id : Nat)
  | goawayGreater (id former : Nat)
  | onClientControl (frame : Frame)
  | serverBidi
  /-- raised by a request stream, the sender or the reading of a stream's type -/
  | elsewhere (code : Nat) (message : String)
  deriving DecidableEq, Repr

def Fault.code : Fault → Nat
  | .twoControlStreams | .twoEncoderStreams | .twoDecoderStreams | .serverBidi => 0x103
  | .controlReset | .controlClosed => 0x104
  | .secondSettings | .unexpectedFrame _ | .onClientControl _ | .frame (.unsupportedFrame _) => 0x105
  | .incompleteFrame => 0x106
  | .goawayNotRequest _ | .goawayGreater _ _ => 0x108
  | .frame (.settings _) => 0x109
  | .beforeSettings _ => 0x10a
  | .elsewhere code _ => code

inductive ErrorOrigin where
  | internal (fault : Fault)
  | quic (error : QuicError)
  deriving DecidableEq, Repr

inductive ConnectionError where
  | raised (fault : Fault)
  | timeout
  | remote (error : QuicError)
  deriving DecidableEq, Repr

/-- `convert_to_connection_error`. -/
def ErrorOrigin.toConnectionError : ErrorOrigin → ConnectionError
  | .internal fault => .raised fault
  | .quic .timeout => .timeout
  | .quic error => .remote error

/-- The code `close_if_needed` closes the connection with. -/
def ErrorOrigin.closeCode : ErrorOrigin → Option Nat
  | .internal fault => some fault.code
  | .quic (.internalError _) => some 0x102
  | .quic _ => none

/-- `SharedState`, as far as it is read. -/
structure SharedState where
  connectionError : Option ErrorOrigin
  settings : Option ConnectionSettings
  closing : Bool

/-- `set_conn_error`: the error in place, and the state after it. -/
def SharedState.setConnError (shared : SharedState) (error : ErrorOrigin) : ErrorOrigin × SharedState :=
  match shared.connectionError with
  | some first => (first, shared)
  | none => (error, { shared with connectionError := some error })

inductive Event where
  | reported (error : ConnectionError)
  | closed (code : Nat)
  | settings (settings : ConnectionSettings)
  | goaway (id : Nat)

/-- A control stream whose type has been read; the rest of its bytes is ahead. -/
structure ControlStream where
  recv : RecvStream
  buf : List (List UInt8)
  eos : Bool
  buffered : ∀ chunk ∈ buf, chunk ≠ []
  arriving : ∀ chunk ∈ recv.arrived, chunk ≠ []
  finished : recv.fin = true → recv.incoming = []
  ended : eos = true → recv.unread = []
  released : eos = true → recv.reading = false

/-- `FrameStream::new`. -/
def ControlStream.frames (stream : ControlStream) : FrameStream := ⟨stream.recv, stream.buf, stream.eos, none, 0⟩

inductive Resolved where
  | control (stream : ControlStream)
  | encoder
  | decoder
  /-- a push, a WebTransport stream or an unknown one -/
  | other
  | failed (error : ErrorOrigin)

/-- `ConnectionInner` and the client's `Connection`, with the events so far. -/
structure Connection where
  shared : SharedState
  handled : Option ConnectionError
  control : Option FrameStream
  encoder : Bool
  decoder : Bool
  gotPeerSettings : Bool
  sendGrease : Bool
  recvClosing : Option Nat
  log : List Event

def Connection.start (sendGrease : Bool) : Connection :=
  ⟨⟨none, none, false⟩, none, none, false, false, false, sendGrease, none, []⟩

def Connection.record (connection : Connection) (event : Event) : Connection :=
  { connection with log := connection.log ++ [event] }

/-- `close_if_needed` and `convert_to_connection_error`. -/
def Connection.conclude (connection : Connection) (error : ErrorOrigin) : Connection :=
  { connection with
    handled := some error.toConnectionError
    log := connection.log ++ ((error.closeCode.map .closed).toList ++ [.reported error.toConnectionError]) }

def Connection.handleConnectionError (connection : Connection) (error : ErrorOrigin) : Connection :=
  match connection.handled with
  | some first => connection.record (.reported first)
  | none =>
      let (first, shared) := connection.shared.setConnError error
      { connection with shared }.conclude first

/-- `handle_connection_error_on_stream` and its like, by anyone but the driver. -/
def Connection.raise (connection : Connection) (error : ErrorOrigin) : Connection :=
  let (first, shared) := connection.shared.setConnError error
  { connection with shared }.record (.reported first.toConnectionError)

/-- The streams `poll_accept_recv` finds resolved, one after the other. -/
def Connection.accept (connection : Connection) : List Resolved → Except Connection Connection
  | [] => .ok connection
  | .control stream :: rest =>
      if connection.control.isSome then .error (connection.handleConnectionError (.internal .twoControlStreams))
      else { connection with control := some stream.frames }.accept rest
  | .encoder :: rest =>
      if connection.encoder then .error (connection.handleConnectionError (.internal .twoEncoderStreams))
      else { connection with encoder := true }.accept rest
  | .decoder :: rest =>
      if connection.decoder then .error (connection.handleConnectionError (.internal .twoDecoderStreams))
      else { connection with decoder := true }.accept rest
  | .other :: rest => connection.accept rest
  | .failed error :: _ => .error (connection.handleConnectionError error)

/-- What QUIC answers in one round of `poll_close`: its accepted streams or its error, how far
the grease stream gets, and the bidirectional stream the server opened. -/
structure Round where
  failed : Option QuicError
  resolved : List Resolved
  greased : Bool
  bidi : Option (Except QuicError Unit)

inductive ControlPoll where
  | pending (connection : Connection)
  | panicked
  | failed (connection : Connection)
  | frame (frame : Frame) (connection : Connection)

/-- The end of `poll_control`: a frame that was read is dropped if the grease stream is not
done yet. -/
def Connection.afterGrease (connection : Connection) (greased : Bool) (frame : Frame) : ControlPoll :=
  if connection.sendGrease then
    if greased then .frame frame { connection with sendGrease := false } else .pending connection
  else .frame frame connection

def Connection.refuse (connection : Connection) (fault : Fault) : ControlPoll :=
  .failed (connection.handleConnectionError (.internal fault))

def Connection.setSettings (connection : Connection) (settings : ConnectionSettings) : Connection :=
  { connection with
    gotPeerSettings := true
    shared := { connection.shared with settings := connection.shared.settings.or (some settings) }
    log := connection.log ++ [.settings settings] }

/-- What `poll_control` makes of what it read. -/
def Connection.onFrame (connection : Connection) (greased : Bool) : Option Frame → ControlPoll
  | none => connection.refuse .controlClosed
  | some (.settings entries) =>
      if connection.gotPeerSettings then connection.refuse .secondSettings
      else (connection.setSettings (.ofEntries entries)).afterGrease greased (.settings entries)
  | some frame =>
      if connection.gotPeerSettings then
        match frame with
        | .goaway _ | .cancelPush _ | .maxPushId _ => connection.afterGrease greased frame
        | _ => connection.refuse (.unexpectedFrame frame)
      else connection.refuse (.beforeSettings frame)

def controlFault : FrameStreamError → Fault
  | .quic => .controlReset
  | .unexpectedEnd => .incompleteFrame
  | .proto error => .frame error

/-- `poll_control`, once no error is in place. -/
def Connection.readControl (connection : Connection) (greased : Bool) : ControlPoll :=
  match connection.control with
  | none => .pending connection
  | some stream =>
      match stream.pollNext with
      | (.pending, stream) => .pending { connection with control := some stream }
      | (.panicked, _) => .panicked
      | (.failed error, stream) => { connection with control := some stream }.refuse (controlFault error)
      | (.ready frame, stream) => { connection with control := some stream }.onFrame greased frame

def Connection.pollControl (connection : Connection) (round : Round) : ControlPoll :=
  match connection.handled, connection.shared.connectionError with
  | some error, _ => .failed (connection.record (.reported error))
  | none, some error => .failed (connection.conclude error)
  | none, none =>
      match round.failed with
      | some error => .failed (connection.handleConnectionError (.quic error))
      | none =>
          match connection.accept round.resolved with
          | .error connection => .failed connection
          | .ok connection => connection.readControl round.greased

def Connection.processGoaway (connection : Connection) (id : Nat) : Connection :=
  let accepted : Connection :=
    { connection with
      recvClosing := some id
      shared := { connection.shared with closing := true }
      log := connection.log ++ [.goaway id] }
  match connection.recvClosing with
  | some former =>
      if former < id then connection.handleConnectionError (.internal (.goawayGreater id former)) else accepted
  | none => accepted

/-- One round of the loop in `poll_close`. -/
def Connection.pollClose (connection : Connection) (round : Round) : Outcome Connection :=
  match connection.pollControl round with
  | .panicked => .panicked
  | .failed connection => .next connection
  | .pending connection =>
      match round.bidi with
      | none => .next connection
      | some (.ok ()) => .next (connection.handleConnectionError (.internal .serverBidi))
      | some (.error error) =>
          .next ((connection.handleConnectionError (.quic error)).handleConnectionError (.internal .serverBidi))
  | .frame (.settings _) connection => .next connection
  | .frame (.goaway id) connection =>
      if id % 4 = 0 then .next (connection.processGoaway id)
      else .next (connection.handleConnectionError (.internal (.goawayNotRequest id)))
  | .frame frame connection => .next (connection.handleConnectionError (.internal (.onClientControl frame)))

inductive Action where
  | deliver (count : Nat)
  | finish
  | reset
  | raise (error : ErrorOrigin)
  | poll (round : Round)

def Connection.network (connection : Connection) (change : RecvStream → Outcome RecvStream) : Outcome Connection :=
  match connection.control with
  | none => .blocked
  | some stream => (change stream.recv).bind fun recv =>
      .next { connection with control := some { stream with recv } }

def Connection.step (connection : Connection) : Action → Outcome Connection
  | .deliver count => connection.network fun recv =>
      .guarded (decide (0 < count ∧ count ≤ recv.incoming.length)) (.next (recv.deliver count))
  | .finish => connection.network fun recv => .guarded recv.incoming.isEmpty (.next { recv with fin := true })
  | .reset => connection.network fun recv => .next { recv with reset := true }
  | .raise error => .next (connection.raise error)
  | .poll round => connection.pollClose round

section Invariant
variable {connection next : Connection}

/-- What each event may come after: one error for everyone, one close, one SETTINGS frame
before everything else on the control stream, and GOAWAYs for requests that only go down. -/
def Lawful (before : List Event) : Event → Prop
  | .reported error => ∀ other, .reported other ∈ before → other = error
  | .closed _ => ∀ code, .closed code ∉ before
  | .settings _ =>
      (∀ settings, .settings settings ∉ before) ∧ (∀ id, .goaway id ∉ before) ∧ ∀ code, .closed code ∉ before
  | .goaway id =>
      (∃ settings, .settings settings ∈ before) ∧ id % 4 = 0 ∧ (∀ other, .goaway other ∈ before → id ≤ other) ∧
        ∀ code, .closed code ∉ before

def SharedState.Names (shared : SharedState) (holds : ErrorOrigin → Prop) : Prop :=
  ∃ first, shared.connectionError = some first ∧ holds first

structure Connection.Kept (connection : Connection) : Prop where
  reports : ∀ error, .reported error ∈ connection.log →
    connection.shared.Names fun first => error = first.toConnectionError
  closes : ∀ code, .closed code ∈ connection.log → connection.shared.Names fun first => first.closeCode = some code
  handled : ∀ error, connection.handled = some error →
    connection.shared.Names fun first => error = first.toConnectionError
  unclosed : connection.handled = none → ∀ code, .closed code ∉ connection.log
  control : connection.handled = none → ∀ stream, connection.control = some stream →
    stream.Sound ∧ stream.remainingData = 0
  got : connection.gotPeerSettings = connection.shared.settings.isSome
  stored : ∀ settings, connection.shared.settings = some settings ↔ .settings settings ∈ connection.log
  goaways : ∀ id, .goaway id ∈ connection.log →
    connection.gotPeerSettings = true ∧ ∃ last, connection.recvClosing = some last ∧ last ≤ id
  closing : connection.shared.closing = true ↔ ∃ id, .goaway id ∈ connection.log
  lawful : Recorded Lawful connection.log

theorem Connection.kept_start (sendGrease : Bool) : (Connection.start sendGrease).Kept := by
  constructor <;> simp [Connection.start, Recorded.nil]

theorem SharedState.setConnError_names (shared : SharedState) (error : ErrorOrigin) :
    (shared.setConnError error).2.connectionError = some (shared.setConnError error).1 ∧
      (shared.setConnError error).2.settings = shared.settings ∧
      (shared.setConnError error).2.closing = shared.closing ∧
      ∀ holds, shared.Names holds → (shared.setConnError error).2.Names holds := by
  unfold SharedState.setConnError
  split
  case h_1 first same => exact ⟨same, rfl, rfl, fun _ names => names⟩
  case h_2 none =>
    refine ⟨rfl, rfl, rfl, ?_⟩
    rintro holds ⟨first, same, _⟩
    exact absurd (none.symm.trans same) (by simp)

theorem Connection.Kept.setConnError (kept : connection.Kept) (error : ErrorOrigin) :
    Connection.Kept { connection with shared := (connection.shared.setConnError error).2 } := by
  obtain ⟨-, settings, closing, names⟩ := connection.shared.setConnError_names error
  exact
    { reports := fun error member => names _ (kept.reports error member)
      closes := fun code member => names _ (kept.closes code member)
      handled := fun error same => names _ (kept.handled error same)
      unclosed := kept.unclosed
      control := kept.control
      got := kept.got.trans (by rw [settings])
      stored := by
        intro found
        rw [settings]
        exact kept.stored found
      goaways := kept.goaways
      closing := by
        rw [closing]
        exact kept.closing
      lawful := kept.lawful }

theorem Connection.Kept.report (kept : connection.Kept) {error : ConnectionError}
    (named : connection.shared.Names fun first => error = first.toConnectionError) :
    (connection.record (.reported error)).Kept := by
  have law : Lawful connection.log (.reported error) := by
    intro other member
    obtain ⟨first, same, rfl⟩ := kept.reports other member
    obtain ⟨again, found, rfl⟩ := named
    rw [same] at found
    cases found
    rfl
  constructor <;> simp only [Connection.record, List.mem_append, List.mem_singleton]
  case reports =>
    rintro other (member | same)
    · exact kept.reports other member
    · cases same
      exact named
  case closes => simpa using kept.closes
  case handled => exact kept.handled
  case unclosed => simpa using kept.unclosed
  case control => exact kept.control
  case got => exact kept.got
  case stored => simpa using kept.stored
  case goaways => simpa using kept.goaways
  case closing => simpa using kept.closing
  case lawful => exact recorded_concat.mpr ⟨kept.lawful, law⟩

theorem Connection.Kept.raise (kept : connection.Kept) (error : ErrorOrigin) : (connection.raise error).Kept :=
  (kept.setConnError error).report ⟨_, (connection.shared.setConnError_names error).1, rfl⟩

theorem Connection.Kept.conclude (kept : connection.Kept) (unhandled : connection.handled = none)
    {error : ErrorOrigin} (found : connection.shared.connectionError = some error) : (connection.conclude error).Kept := by
  have named : connection.shared.Names fun first => error.toConnectionError = first.toConnectionError :=
    ⟨error, found, rfl⟩
  have law : Lawful connection.log (.reported error.toConnectionError) := by
    intro other member
    obtain ⟨first, same, rfl⟩ := kept.reports other member
    rw [found] at same
    cases same
    rfl
  constructor <;>
    simp only [Connection.conclude, List.mem_append, List.mem_singleton, Option.mem_toList,
      Option.map_eq_some_iff]
  case reports =>
    rintro other (member | ⟨code, -, impossible⟩ | same)
    · exact kept.reports other member
    · cases impossible
    · cases same
      exact named
  case closes =>
    rintro code (member | ⟨other, needed, same⟩ | impossible)
    · exact kept.closes code member
    · cases same
      exact ⟨error, found, needed⟩
    · cases impossible
  case handled =>
    intro other same
    cases same
    exact named
  case unclosed => exact fun impossible => absurd impossible (by simp)
  case control => exact fun impossible => absurd impossible (by simp)
  case got => exact kept.got
  case stored => simpa using kept.stored
  case goaways => simpa using kept.goaways
  case closing => simpa using kept.closing
  case lawful =>
    cases needed : error.closeCode with
    | none => exact recorded_concat.mpr ⟨kept.lawful, law⟩
    | some code =>
      -- the close comes first, and is the only one since nothing was handled before
      simp only [Option.map_some, Option.toList_some, ← List.append_assoc]
      refine recorded_concat.mpr ⟨recorded_concat.mpr ⟨kept.lawful, kept.unclosed unhandled⟩, ?_⟩
      intro other member
      simp only [List.mem_append, List.mem_singleton] at member
      rcases member with earlier | impossible
      · exact law other earlier
      · cases impossible

theorem Connection.Kept.handleConnectionError (kept : connection.Kept) (error : ErrorOrigin) :
    (connection.handleConnectionError error).Kept := by
  unfold Connection.handleConnectionError
  split
  case h_1 first same => exact kept.report (kept.handled first same)
  case h_2 unhandled => exact (kept.setConnError error).conclude unhandled (connection.shared.setConnError_names error).1

theorem Connection.handled_handleConnectionError (error : ErrorOrigin) :
    (connection.handleConnectionError error).handled ≠ none := by
  unfold Connection.handleConnectionError
  split
  case h_1 first same => simp [Connection.record, same]
  case h_2 => simp [Connection.conclude]

theorem Connection.Kept.setControl (kept : connection.Kept) {stream : FrameStream}
    (fits : connection.handled = none → stream.Sound ∧ stream.remainingData = 0) :
    Connection.Kept { connection with control := some stream } :=
  { kept with
    control := by
      intro unhandled other same
      cases same
      exact fits unhandled }

theorem Connection.Kept.refuse (kept : connection.Kept) (stream : FrameStream) (fault : Fault) :
    Connection.Kept ({ connection with control := some stream }.handleConnectionError (.internal fault)) := by
  have same : { connection with control := some stream }.handleConnectionError (.internal fault) =
      { connection.handleConnectionError (.internal fault) with control := some stream } := by
    obtain ⟨shared, handled⟩ := connection
    cases handled <;> rfl
  rw [same]
  -- the error is handled from here on, so nobody asks for the stream again
  apply (kept.handleConnectionError _).setControl
  exact fun impossible => absurd impossible (Connection.handled_handleConnectionError _)

def ControlPoll.Keeps : ControlPoll → Prop
  | .pending connection => connection.Kept
  | .panicked => False
  | .failed connection => connection.Kept
  | .frame _ connection => connection.Kept ∧ connection.handled = none ∧ connection.gotPeerSettings = true

theorem ControlStream.sound (stream : ControlStream) : stream.frames.Sound where
  released := stream.released
  buffered := stream.buffered
  arriving := stream.arriving
  finished := stream.finished
  ended := stream.ended
  gate := Gate.none _
  fresh := fun impossible => absurd rfl impossible

theorem Connection.Kept.accept {resolved : List Resolved} (kept : connection.Kept)
    (unhandled : connection.handled = none) :
    match connection.accept resolved with
    | .ok next => next.Kept ∧ next.handled = none
    | .error next => next.Kept := by
  induction resolved generalizing connection with
  | nil => exact ⟨kept, unhandled⟩
  | cons stream rest ih =>
    cases stream with
    | control stream =>
      unfold Connection.accept
      by_cases second : connection.control.isSome = true
      · rw [if_pos second]
        exact kept.handleConnectionError _
      · rw [if_neg second]
        exact ih (kept.setControl fun _ => ⟨stream.sound, rfl⟩) unhandled
    | encoder =>
      unfold Connection.accept
      by_cases second : connection.encoder = true
      · rw [if_pos second]
        exact kept.handleConnectionError _
      · rw [if_neg second]
        exact ih { kept with } unhandled
    | decoder =>
      unfold Connection.accept
      by_cases second : connection.decoder = true
      · rw [if_pos second]
        exact kept.handleConnectionError _
      · rw [if_neg second]
        exact ih { kept with } unhandled
    | other => exact ih kept unhandled
    | failed error => exact kept.handleConnectionError error

theorem Connection.Kept.afterGrease (kept : connection.Kept) (unhandled : connection.handled = none)
    (got : connection.gotPeerSettings = true) (greased : Bool) (frame : Frame) :
    (connection.afterGrease greased frame).Keeps := by
  unfold Connection.afterGrease
  split
  · split
    · exact ⟨{ kept with }, unhandled, got⟩
    · exact kept
  · exact ⟨kept, unhandled, got⟩

theorem Connection.Kept.setSettings (kept : connection.Kept) (unhandled : connection.handled = none)
    (first : connection.gotPeerSettings = false) (settings : ConnectionSettings) :
    (connection.setSettings settings).Kept := by
  have none : connection.shared.settings = none := by
    rw [kept.got] at first
    exact Option.isSome_eq_false_iff.mp first |> Option.isNone_iff_eq_none.mp
  have noSettings : ∀ other, .settings other ∉ connection.log := by
    intro other member
    rw [← kept.stored, none] at member
    cases member
  have noGoaway : ∀ id, .goaway id ∉ connection.log := by
    intro id member
    exact absurd (first.symm.trans (kept.goaways id member).1) (by simp)
  have law : Lawful connection.log (.settings settings) := ⟨noSettings, noGoaway, kept.unclosed unhandled⟩
  constructor <;> simp only [Connection.setSettings, List.mem_append, List.mem_singleton]
  case reports => exact fun error member => kept.reports error (by simpa using member)
  case closes => exact fun code member => kept.closes code (by simpa using member)
  case handled => exact kept.handled
  case unclosed => simpa using kept.unclosed
  case control => exact kept.control
  case got => simp [none]
  case stored =>
    intro other
    simp [none, noSettings, eq_comm]
  case goaways => simp [noGoaway]
  case closing => simpa using kept.closing
  case lawful => exact recorded_concat.mpr ⟨kept.lawful, law⟩

theorem Connection.Kept.goaway (kept : connection.Kept) (unhandled : connection.handled = none)
    (got : connection.gotPeerSettings = true) {id : Nat} (request : id % 4 = 0)
    (down : ∀ former, connection.recvClosing = some former → id ≤ former) :
    Connection.Kept { connection with
      recvClosing := some id
      shared := { connection.shared with closing := true }
      log := connection.log ++ [.goaway id] } := by
  have below : ∀ other, .goaway other ∈ connection.log → id ≤ other := by
    intro other member
    obtain ⟨-, former, same, within⟩ := kept.goaways other member
    exact Nat.le_trans (down former same) within
  have settings : ∃ settings, .settings settings ∈ connection.log := by
    rw [kept.got] at got
    obtain ⟨settings, same⟩ := Option.isSome_iff_exists.mp got
    exact ⟨settings, (kept.stored settings).mp same⟩
  have law : Lawful connection.log (.goaway id) := ⟨settings, request, below, kept.unclosed unhandled⟩
  constructor <;> simp only [List.mem_append, List.mem_singleton]
  case reports => exact fun error member => kept.reports error (by simpa using member)
  case closes => exact fun code member => kept.closes code (by simpa using member)
  case handled => exact kept.handled
  case unclosed => simpa using kept.unclosed
  case control => exact kept.control
  case got => exact kept.got
  case stored => simpa using kept.stored
  case goaways =>
    rintro other (member | same)
    · exact ⟨got, id, rfl, below other member⟩
    · cases same
      exact ⟨got, id, rfl, Nat.le_refl _⟩
  case closing => simp
  case lawful => exact recorded_concat.mpr ⟨kept.lawful, law⟩

theorem Connection.Kept.processGoaway (kept : connection.Kept) (unhandled : connection.handled = none)
    (got : connection.gotPeerSettings = true) {id : Nat} (request : id % 4 = 0) :
    (connection.processGoaway id).Kept := by
  unfold Connection.processGoaway
  split
  case h_1 former same =>
    split
    case isTrue => exact kept.handleConnectionError _
    case isFalse down =>
      apply kept.goaway unhandled got request
      intro other found
      rw [same] at found
      cases found
      exact Nat.le_of_not_lt down
  case h_2 none =>
    apply kept.goaway unhandled got request
    intro former same
    rw [none] at same
    cases same

theorem Connection.onFrame_keeps {frame : Frame}
    (refused : ∀ fault, (connection.handleConnectionError (.internal fault)).Kept)
    (placed : frame.remaining = 0 → connection.Kept) (unhandled : connection.handled = none) (greased : Bool) :
    (connection.onFrame greased (some frame)).Keeps := by
  -- before SETTINGS only SETTINGS is taken, and after it only frames without payload
  cases got : connection.gotPeerSettings with
  | false =>
    cases frame with
    | settings entries =>
      simp only [Connection.onFrame, got, Bool.false_eq_true, if_false]
      exact ((placed rfl).setSettings unhandled got _).afterGrease unhandled rfl greased _
    | _ =>
      simp only [Connection.onFrame, got, Bool.false_eq_true, if_false]
      exact refused _
  | true =>
    cases frame with
    | goaway id =>
      simp only [Connection.onFrame, got, if_true]
      exact (placed rfl).afterGrease unhandled got greased _
    | cancelPush id =>
      simp only [Connection.onFrame, got, if_true]
      exact (placed rfl).afterGrease unhandled got greased _
    | maxPushId id =>
      simp only [Connection.onFrame, got, if_true]
      exact (placed rfl).afterGrease unhandled got greased _
    | _ =>
      simp only [Connection.onFrame, got, if_true]
      exact refused _

theorem Connection.Kept.readControl (kept : connection.Kept) (unhandled : connection.handled = none)
    (greased : Bool) : (connection.readControl greased).Keeps := by
  unfold Connection.readControl
  split
  case h_1 => exact kept
  case h_2 stream found =>
    obtain ⟨sound, empty⟩ := kept.control unhandled stream found
    obtain ⟨held, later, -⟩ := stream.pollNext_spec sound empty
    rcases polling : stream.pollNext with ⟨polled, rest⟩
    rw [polling] at held later
    dsimp only at held later ⊢
    have refused := kept.refuse rest
    cases held with
    | pending _ nothing _ => exact kept.setControl fun _ => ⟨later, nothing⟩
    | reset _ _ _ => exact refused _
    | proto _ _ _ => exact refused _
    | truncated _ _ _ _ => exact refused _
    | ended _ _ _ => exact refused _
    | frame _ _ left =>
      -- a poll with payload outstanding would panic, but a frame that has some is refused
      apply Connection.onFrame_keeps refused
      · exact fun none => kept.setControl fun _ => ⟨later, left.trans none⟩
      · exact unhandled

theorem Connection.Kept.pollControl (kept : connection.Kept) (round : Round) :
    (connection.pollControl round).Keeps := by
  unfold Connection.pollControl
  split
  case h_1 error same => exact kept.report (kept.handled error same)
  case h_2 error unhandled found => exact kept.conclude unhandled found
  case h_3 unhandled none =>
    split
    case h_1 error _ => exact kept.handleConnectionError _
    case h_2 =>
      have accepted := @Connection.Kept.accept _ round.resolved kept unhandled
      split
      case h_1 next same =>
        rw [same] at accepted
        exact accepted
      case h_2 next same =>
        rw [same] at accepted
        exact accepted.1.readControl accepted.2 round.greased

theorem Connection.Kept.pollClose (kept : connection.Kept) (round : Round) :
    (connection.pollClose round).Satisfies Connection.Kept := by
  have polled := kept.pollControl round
  unfold Connection.pollClose
  split
  case h_1 same =>
    rw [same] at polled
    exact polled.elim
  case h_2 next same =>
    rw [same] at polled
    exact polled
  case h_3 next same =>
    rw [same] at polled
    change next.Kept at polled
    split
    case h_1 => exact polled
    case h_2 => exact polled.handleConnectionError _
    case h_3 error _ => exact (polled.handleConnectionError _).handleConnectionError _
  case h_4 entries next same =>
    rw [same] at polled
    exact polled.1
  case h_5 id next same =>
    rw [same] at polled
    obtain ⟨later, unhandled, got⟩ := polled
    split
    case isTrue request => exact later.processGoaway unhandled got request
    case isFalse => exact later.handleConnectionError _
  case h_6 frame next _ _ same =>
    rw [same] at polled
    exact polled.1.handleConnectionError _

theorem Connection.Kept.network (kept : connection.Kept) {change : RecvStream → Outcome RecvStream}
    (arrives : ∀ recv, (change recv).Satisfies recv.Arrives) :
    (connection.network change).Satisfies Connection.Kept := by
  unfold Connection.network
  split
  case h_1 => trivial
  case h_2 stream found =>
    refine Outcome.Satisfies.bind (arrives stream.recv) ?_
    intro recv moved
    apply kept.setControl
    intro unhandled
    obtain ⟨sound, empty⟩ := kept.control unhandled stream found
    exact ⟨sound.setRecv moved, empty⟩

theorem Connection.Kept.step (kept : connection.Kept) (action : Action) :
    (connection.step action).Satisfies Connection.Kept := by
  cases action with
  | deliver count =>
    unfold Connection.step
    apply kept.network
    intro recv
    apply Outcome.satisfies_guarded
    intro enabled
    obtain ⟨positive, within⟩ := of_decide_eq_true enabled
    exact RecvStream.arrives_deliver positive within
  | finish =>
    unfold Connection.step
    apply kept.network
    intro recv
    apply Outcome.satisfies_guarded
    intro enabled
    exact RecvStream.arrives_finish (List.isEmpty_iff.mp enabled)
  | reset =>
    unfold Connection.step
    apply kept.network
    intro recv
    exact RecvStream.arrives_reset
  | raise error => exact kept.raise error
  | poll round => exact kept.pollClose round

/-- Whatever the peer sends and whoever fails first: the driver never panics, every event is
lawful, everyone is told the error that came first, and the connection is closed for no other. -/
theorem driver_is_lawful {sendGrease : Bool} {actions : List Action}
    (run : Run Connection.step (.start sendGrease) actions connection) :
    (∀ action, connection.step action ≠ .panicked) ∧ Recorded Lawful connection.log ∧
      (∀ error, .reported error ∈ connection.log →
        connection.shared.Names fun first => error = first.toConnectionError) ∧
      (∀ code, .closed code ∈ connection.log → connection.shared.Names fun first => first.closeCode = some code) ∧
      (∀ settings, connection.shared.settings = some settings ↔ .settings settings ∈ connection.log) ∧
      (connection.shared.closing = true ↔ ∃ id, .goaway id ∈ connection.log) := by
  have kept : connection.Kept :=
    Run.preserves (fun _ action _ held taken => (Connection.Kept.step held action).of_next taken) run
      (Connection.kept_start sendGrease)
  have calm : ∀ action, connection.step action ≠ .panicked := fun action => (kept.step action).not_panicked
  exact ⟨calm, kept.lawful, kept.reports, kept.closes, kept.stored, kept.closing⟩

-- SETTINGS, a GOAWAY, and one that goes up; a request stream fails too late
theorem driver_is_lawful_goaways : ∃ connection : Connection, Recorded Lawful connection.log ∧
    connection.log = [.settings .default, .goaway 4, .closed 0x108, .reported (.raised (.goawayGreater 8 4)),
      .reported (.raised (.goawayGreater 8 4))] := by
  let stream : ControlStream :=
    ⟨⟨[], [], false, false, false⟩, [[4, 0, 7, 1, 4, 7, 1, 8]], false, by simp, by simp, by simp, by simp, by simp⟩
  have run := run_of_execute (show execute Connection.step (.start true)
    [.poll ⟨none, [.encoder, .control stream], true, none⟩, .poll ⟨none, [], true, none⟩,
      .poll ⟨none, [], true, none⟩, .raise (.quic .timeout)] = .next _ from rfl)
  exact ⟨_, (driver_is_lawful run).2.1, rfl⟩

end Invariant

end ProxyTunnels.Http3.Driver
