import ProxyTunnels.Http3.Frame

/-! The vendored frame layer: chunks from QUIC, the frame decoder and `FrameStream`.

A receive stream is what the network still has to hand over. Chunks keep their
boundaries up to the point where they are consumed, since `poll_data` returns at most
one chunk and looks at what is left after it.
-/

set_option autoImplicit false

namespace ProxyTunnels.Http3

/-- h3-quinn's `RecvStream`: bytes still to arrive, chunks that arrived and were not read,
whether the FIN arrived, whether the stream was reset, and whether a read in flight owns the
quinn stream. -/
structure RecvStream where
  incoming : List UInt8
  arrived : List (List UInt8)
  fin : Bool
  reset : Bool
  reading : Bool
  deriving DecidableEq, Repr

inductive FrameStreamError where
  | proto (error : FrameError)
  | quic
  | unexpectedEnd
  deriving DecidableEq, Repr

/-- One poll of something fallible. A failed assertion is an outcome of its own. -/
inductive Polled (α : Type) where
  | pending
  | panicked
  | failed (error : FrameStreamError)
  | ready (value : α)
  deriving DecidableEq, Repr

/-- `quic::RecvStream::poll_data`: a chunk, or `none` at the end of the stream. -/
def RecvStream.pollData (stream : RecvStream) : Polled (Option (List UInt8)) × RecvStream :=
  if stream.reset then (.failed .quic, { stream with reading := false })
  else
    match stream.arrived with
    | chunk :: rest => (.ready (some chunk), { stream with arrived := rest, reading := false })
    | [] =>
        if stream.fin then (.ready none, { stream with reading := false })
        else (.pending, { stream with reading := true })

/-- `BufList::advance`. -/
def advance : List (List UInt8) → Nat → List (List UInt8)
  | bufs, 0 => bufs
  | [], _ + 1 => []
  | front :: rest, count + 1 =>
      if front.length > count + 1 then front.drop (count + 1) :: rest
      else advance rest (count + 1 - front.length)

def takeChunk (bufs : List (List UInt8)) (max : Nat) : Option (List UInt8) × List (List UInt8) :=
  match bufs with
  | [] => (none, [])
  | front :: rest =>
      let kept := front.drop max
      (some (front.take max), if kept.isEmpty then rest else kept :: rest)

/-- `FrameDecoder::decode` on the buffered bytes: the result, the bytes it leaves and
the size it now waits for. An unknown frame is skipped; it takes two bytes or more, so
the bytes bound the rounds. -/
def decodeLoop : Nat → Option Nat → List UInt8 →
    Except FrameError (Option Frame) × List UInt8 × Option Nat
  | 0, expected, bytes => (.ok none, bytes, expected)
  | rounds + 1, expected, bytes =>
      if bytes.isEmpty then (.ok none, bytes, expected)
      else if expected.any (fun min => decide (bytes.length < min)) then (.ok none, bytes, expected)
      else
        match Frame.decode bytes with
        | .unknown _ rest => decodeLoop rounds none rest
        | .incomplete min => (.ok none, bytes, some min)
        | .frame frame rest => (.ok (some frame), rest, none)
        | .failed error => (.error error, bytes, expected)

/-- `FrameStream`, over its `BufRecvStream`. -/
structure FrameStream where
  recv : RecvStream
  buf : List (List UInt8)
  eos : Bool
  expected : Option Nat
  remainingData : Nat
  deriving DecidableEq, Repr

def usizeMax : Nat := 2 ^ 64 - 1

/-- `FrameStream::try_recv`, with `BufRecvStream::poll_read` in it. `true` is the end. -/
def FrameStream.tryRecv (stream : FrameStream) : Polled Bool × FrameStream :=
  if stream.eos then (.ready true, stream)
  else
    match stream.recv.pollData with
    | (.ready (some chunk), recv) => (.ready false, { stream with recv, buf := stream.buf ++ [chunk] })
    | (.ready none, recv) => (.ready true, { stream with recv, eos := true })
    | (.pending, recv) => (.pending, { stream with recv })
    | (.failed error, recv) => (.failed error, { stream with recv })
    | (.panicked, recv) => (.panicked, { stream with recv })

def FrameStream.decode (stream : FrameStream) : Except FrameError (Option Frame) × FrameStream :=
  let bytes := stream.buf.flatten
  let (result, rest, expected) := decodeLoop (bytes.length + 1) stream.expected bytes
  (result, { stream with buf := advance stream.buf (bytes.length - rest.length), expected })

def Frame.remaining : Frame → Nat
  | .data len => len
  | .webTransportStream _ => usizeMax
  | _ => 0

/-- The loop of `poll_next`. It goes round again only after reading a chunk. -/
def FrameStream.nextLoop : Nat → FrameStream → Polled (Option Frame) × FrameStream
  | 0, stream => (.pending, stream)
  | rounds + 1, stream =>
      match stream.tryRecv with
      | (.failed error, stream) => (.failed error, stream)
      | (.panicked, stream) => (.panicked, stream)
      | (received, stream) =>
        match stream.decode with
        | (.error error, stream) => (.failed (.proto error), stream)
        | (.ok (some frame), stream) =>
            (.ready (some frame), { stream with remainingData := frame.remaining })
        | (.ok none, stream) =>
          match received with
          | .ready false => FrameStream.nextLoop rounds stream
          | .ready true =>
              if stream.buf.flatten.isEmpty then (.ready none, stream)
              else (.failed .unexpectedEnd, stream)
          | _ => (.pending, stream)

/-- `FrameStream::poll_next`. It asserts that no payload is left to read. -/
def FrameStream.pollNext (stream : FrameStream) : Polled (Option Frame) × FrameStream :=
  if stream.remainingData = 0 then stream.nextLoop (stream.recv.arrived.length + 1)
  else (.panicked, stream)

/-- The second half of `poll_data`: one chunk of the payload, judged by whether the
stream has ended. -/
def FrameStream.takeData (stream : FrameStream) (ended : Bool) :
    Polled (Option (List UInt8)) × FrameStream :=
  match takeChunk stream.buf stream.remainingData with
  | (none, buf) => (if ended then .ready none else .pending, { stream with buf })
  | (some data, buf) =>
      if ended && decide (data.length < stream.remainingData) && buf.flatten.isEmpty then
        (.failed .unexpectedEnd, { stream with buf })
      else (.ready (some data), { stream with buf, remainingData := stream.remainingData - data.length })

def FrameStream.pollData (stream : FrameStream) : Polled (Option (List UInt8)) × FrameStream :=
  if stream.remainingData = 0 then (.ready none, stream)
  else
    match stream.tryRecv with
    | (.failed error, stream) => (.failed error, stream)
    | (.panicked, stream) => (.panicked, stream)
    | (.pending, stream) => stream.takeData false
    | (.ready ended, stream) => stream.takeData ended

def FrameStream.isEos (stream : FrameStream) : Bool := stream.eos && stream.buf.flatten.isEmpty

end ProxyTunnels.Http3
