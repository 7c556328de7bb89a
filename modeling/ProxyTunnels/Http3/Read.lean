import ProxyTunnels.Http3.FrameStream
import ProxyTunnels.Machine.Run

/-! The read half of an HTTP/3 tunnel stream, as a machine over network events and polls.

`Http3Stream::poll_read` first drains what it has buffered, then asks the request
stream for data, and after the first `none` for trailers. Field sections are decoded by
a parameter: any outcome of it ends a poll in an error.
-/

set_option autoImplicit false

namespace ProxyTunnels.Http3
open Machine

/-- The receiving half of the vendored `RequestStream`. -/
structure RequestStream where
  stream : FrameStream
  trailers : Option (List UInt8)
  deriving DecidableEq, Repr

inductive StreamError where
  | frameStream (error : FrameStreamError)
  | unexpectedFrame (frame : Frame)
  | fieldSection
  deriving DecidableEq, Repr

inductive Answer (α : Type) where
  | pending
  | panicked
  | failed (error : StreamError)
  | ready (value : α)
  deriving DecidableEq, Repr

def RequestStream.pollPayload (request : RequestStream) :
    Answer (Option (List UInt8)) × RequestStream :=
  match request.stream.pollData with
  | (.pending, stream) => (.pending, { request with stream })
  | (.panicked, stream) => (.panicked, { request with stream })
  | (.failed error, stream) => (.failed (.frameStream error), { request with stream })
  | (.ready data, stream) => (.ready data, { request with stream })

/-- What `poll_recv_data` does with the frame it finds. -/
def RequestStream.onFrame (request : RequestStream) :
    Frame → Answer (Option (List UInt8)) × RequestStream
  | .headers encoded => (.ready none, { request with trailers := some encoded })
  | .data _ => request.pollPayload
  | frame => (.failed (.unexpectedFrame frame), request)

def RequestStream.pollRecvData (request : RequestStream) :
    Answer (Option (List UInt8)) × RequestStream :=
  if request.stream.remainingData ≠ 0 then request.pollPayload
  else
    match request.stream.pollNext with
    | (.pending, stream) => (.pending, { request with stream })
    | (.panicked, stream) => (.panicked, { request with stream })
    | (.failed error, stream) => (.failed (.frameStream error), { request with stream })
    | (.ready none, stream) => (.ready none, { request with stream })
    | (.ready (some frame), stream) => RequestStream.onFrame { request with stream } frame

/-- The part of `poll_recv_trailers` after the field section arrived: no known frame
may follow, then the section is decoded. -/
def RequestStream.finishTrailers (decodeFields : List UInt8 → Bool) (stream : FrameStream)
    (encoded : List UInt8) : Answer (Option (List UInt8)) × RequestStream :=
  let decoded (stream : FrameStream) : Answer (Option (List UInt8)) × RequestStream :=
    if decodeFields encoded then (.ready (some encoded), ⟨stream, none⟩)
    else (.failed .fieldSection, ⟨stream, none⟩)
  if stream.isEos then decoded stream
  else
    match stream.pollNext with
    | (.pending, stream) => (.pending, ⟨stream, some encoded⟩)
    | (.panicked, stream) => (.panicked, ⟨stream, none⟩)
    | (.failed error, stream) => (.failed (.frameStream error), ⟨stream, none⟩)
    | (.ready (some frame), stream) => (.failed (.unexpectedFrame frame), ⟨stream, none⟩)
    | (.ready none, stream) => decoded stream

/-- `RequestStream::poll_recv_trailers`; `decodeFields` is whether QPACK and the header
map accept a field section. -/
def RequestStream.pollRecvTrailers (decodeFields : List UInt8 → Bool) (request : RequestStream) :
    Answer (Option (List UInt8)) × RequestStream :=
  match request.trailers with
  | some encoded => RequestStream.finishTrailers decodeFields request.stream encoded
  | none =>
    match request.stream.pollNext with
    | (.pending, stream) => (.pending, { request with stream })
    | (.panicked, stream) => (.panicked, { request with stream })
    | (.failed error, stream) => (.failed (.frameStream error), { request with stream })
    | (.ready none, stream) => (.ready none, { request with stream })
    | (.ready (some (.headers encoded)), stream) =>
        RequestStream.finishTrailers decodeFields stream encoded
    | (.ready (some frame), stream) => (.failed (.unexpectedFrame frame), { request with stream })

/-- The read side of `Http3Stream`. -/
structure Reader where
  receive : RequestStream
  buffered : List UInt8
  trailers : Bool
  eof : Bool
  deriving DecidableEq, Repr

inductive ReadError where
  | broken
  | trailersNotPermitted
  deriving DecidableEq, Repr

inductive ReadResult where
  | pending
  | panicked
  | failed (error : ReadError)
  | ready (bytes : List UInt8)
  deriving DecidableEq, Repr

def Reader.onTrailers (reader : Reader) :
    Answer (Option (List UInt8)) × RequestStream → ReadResult × Reader
  | (.pending, receive) => (.pending, { reader with receive })
  | (.panicked, receive) => (.panicked, { reader with receive })
  | (.failed _, receive) => (.failed .broken, { reader with receive })
  | (.ready (some _), receive) => (.failed .trailersNotPermitted, { reader with receive })
  | (.ready none, receive) => (.ready [], { reader with receive, eof := true })

/-- What a round of `poll_read` does with an answer about data; `again` is the next round. -/
def Reader.onData (reader : Reader) (again : Reader → ReadResult × Reader) :
    Answer (Option (List UInt8)) × RequestStream → ReadResult × Reader
  | (.pending, receive) => (.pending, { reader with receive })
  | (.panicked, receive) => (.panicked, { reader with receive })
  | (.failed _, receive) => (.failed .broken, { reader with receive })
  | (.ready (some chunk), receive) => again { reader with receive, buffered := chunk }
  | (.ready none, receive) => again { reader with receive, trailers := true }

/-- The loop of `poll_read`; out of rounds it wakes itself and yields. -/
def Reader.readLoop (decodeFields : List UInt8 → Bool) (size : Nat) :
    Nat → Reader → ReadResult × Reader
  | 0, reader => (.pending, reader)
  | rounds + 1, reader =>
      if !reader.buffered.isEmpty then
        (.ready (reader.buffered.take size), { reader with buffered := reader.buffered.drop size })
      else if reader.trailers then
        reader.onTrailers (reader.receive.pollRecvTrailers decodeFields)
      else reader.onData (Reader.readLoop decodeFields size rounds) reader.receive.pollRecvData

/-- `Http3Stream::poll_read` into a buffer of `size` free bytes. -/
def Reader.pollRead (decodeFields : List UInt8 → Bool) (reader : Reader) (size : Nat)
    (stopped : Bool) : ReadResult × Reader :=
  if size = 0 then (.ready [], reader)
  else if stopped then (.failed .broken, reader)
  else if reader.eof then (.ready [], reader)
  else reader.readLoop decodeFields size 32

inductive ReadAction where
  | deliver (count : Nat)
  | finish
  | reset
  | poll (size : Nat) (stopped : Bool)
  deriving DecidableEq, Repr

structure Reading where
  reader : Reader
  log : List (Nat × ReadResult)
  deriving DecidableEq, Repr

def Reader.setRecv (reader : Reader) (recv : RecvStream) : Reader :=
  { reader with receive := { reader.receive with stream := { reader.receive.stream with recv } } }

def RecvStream.deliver (recv : RecvStream) (count : Nat) : RecvStream :=
  { recv with
    incoming := recv.incoming.drop count
    arrived := recv.arrived ++ [recv.incoming.take count] }

def Reading.step (decodeFields : List UInt8 → Bool) (reading : Reading) : ReadAction → Outcome Reading
  | .deliver count =>
      let recv := reading.reader.receive.stream.recv
      .guarded (decide (0 < count ∧ count ≤ recv.incoming.length))
        (.next { reading with reader := reading.reader.setRecv (recv.deliver count) })
  | .finish =>
      let recv := reading.reader.receive.stream.recv
      .guarded recv.incoming.isEmpty
        (.next { reading with reader := reading.reader.setRecv { recv with fin := true } })
  | .reset =>
      let recv := reading.reader.receive.stream.recv
      .next { reading with reader := reading.reader.setRecv { recv with reset := true } }
  | .poll size stopped =>
      match reading.reader.pollRead decodeFields size stopped with
      | (.panicked, _) => .panicked
      | (result, reader) => .next ⟨reader, reading.log ++ [(size, result)]⟩

/-- A reader right after its 2xx response: chunks that came with the response may already
be buffered, and the rest of the stream's bytes is still to arrive. -/
def Reading.start (early : List (List UInt8)) (incoming : List UInt8) : Reading :=
  ⟨⟨⟨⟨⟨incoming, [], false, false, false⟩, early, false, none, 0⟩, none⟩, [], false, false⟩, []⟩

end ProxyTunnels.Http3
