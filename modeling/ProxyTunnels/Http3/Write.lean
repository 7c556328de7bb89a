import ProxyTunnels.Machine.Run

/-! The write side of an HTTP/3 tunnel stream: its polls, and the task that writes.

The caller and the writer task share a channel of one slot and the acknowledgments that
travel through it. A call is followed from one shared operation to the next (a load of
the session's flag, a poll of the reservation, a send, a poll of the acknowledgment), and
the writer from one suspension to the next, so any interleaving of the two threads is a
run. What crosses the boundary of the component is logged, oldest first.
-/

set_option autoImplicit false

namespace ProxyTunnels.Http3
open Machine

def writeChunk : Nat := 64 * 1024

/-- What the writer is asked to do; acknowledgments are numbered as they are created. -/
inductive Command where
  | data (bytes : List UInt8)
  | flush (ack : Nat)
  | finish (ack : Nat)
  deriving DecidableEq, Repr

inductive Ack where
  | waiting
  | sent
  | dropped
  deriving DecidableEq, Repr

/-- A `reserve_owned` future: not polled yet, in the queue for a permit, or given one. -/
inductive Reservation where
  | fresh
  | waiting
  | granted
  deriving DecidableEq, Repr

inductive Call where
  | write (bytes : List UInt8)
  | flush
  | shutdown
  deriving DecidableEq, Repr

inductive WriteError where
  /-- `BrokenPipe`, "HTTP/3 write side is closed" -/
  | closed
  /-- `ConnectionReset`, "HTTP/3 tunnel stream closed or reset" -/
  | broken
  deriving DecidableEq, Repr

inductive CallResult where
  | pending
  | failed (error : WriteError)
  | written (count : Nat)
  | done
  deriving DecidableEq, Repr

inductive Point where
  | idle
  | pollAck (call : Call)
  | reserve (call : Call)
  | acquire (call : Call)
  | send (call : Call)
  | await (call : Call)
  deriving DecidableEq, Repr

/-- Where the writer stands. `over` is after its pump ended or was dropped, while the
task still owns the receiver. -/
inductive Pump where
  | receiving
  | holding (command : Command)
  | sending (bytes : List UInt8)
  | finishing (ack : Nat)
  | over
  | gone
  deriving DecidableEq, Repr

inductive Event where
  | queued (command : Command)
  | passed (bytes : List UInt8)
  | sent (bytes : List UInt8)
  | finishStarted
  | finishSucceeded
  | pumpEnded
  | returned (call : Call) (result : CallResult)
  deriving DecidableEq, Repr

structure Writing where
  point : Point
  reservation : Option Reservation
  acknowledgment : Option Nat
  finishing : Bool
  finished : Bool
  stopped : Bool
  permits : Nat
  queue : List Command
  acks : List Ack
  pump : Pump
  log : List Event
  deriving DecidableEq, Repr

def Writing.start : Writing :=
  ⟨.idle, none, none, false, false, false, 1, [], [], .receiving, []⟩

section Caller
variable (writing : Writing)

def Writing.record (event : Event) : Writing := { writing with log := writing.log ++ [event] }

def Writing.push (command : Command) : Writing :=
  { writing with queue := writing.queue ++ [command] }.record (.queued command)

def Writing.return (call : Call) (result : CallResult) : Writing :=
  { writing with point := .idle }.record (.returned call result)

/-- `poll_write` once no acknowledgment is outstanding. -/
def Writing.writeOn (bytes : List UInt8) : Writing :=
  if bytes.isEmpty then writing.return (.write bytes) (.written 0)
  else { writing with point := .reserve (.write bytes) }

/-- What follows an `Ok` of `poll_ack`. -/
def Writing.acked (call : Call) : Writing :=
  match call with
  | .write bytes => writing.writeOn bytes
  | .flush | .shutdown => writing.return call .done

/-- The start of `poll_write`, `poll_flush` and `poll_shutdown`. -/
def Writing.enter (call : Call) : Writing :=
  match call with
  | .write bytes =>
      if writing.finishing || writing.finished then writing.return call (.failed .closed)
      else if writing.acknowledgment.isSome then { writing with point := .pollAck call }
      else writing.writeOn bytes
  | .flush | .shutdown => { writing with point := .pollAck call }

/-- `poll_ack` up to the poll of the acknowledgment or to `reserve`. -/
def Writing.pollAck (call : Call) : Writing :=
  if writing.stopped then writing.return call (.failed .broken)
  else if writing.finished then writing.acked call
  else if writing.acknowledgment.isNone then { writing with point := .reserve call }
  else { writing with point := .await call }

/-- `reserve` up to the poll of its future. -/
def Writing.reserve (call : Call) : Writing :=
  if writing.stopped then writing.return call (.failed .broken)
  else
    { writing with
      reservation := some (writing.reservation.getD .fresh)
      point := .acquire call }

/-- The poll of the reservation. A closed channel is reported before a permit is. -/
def Writing.acquire (call : Call) : Writing :=
  if writing.pump = .gone then
    { writing with reservation := none }.return call (.failed .broken)
  else if writing.reservation = some .granted then
    { writing with reservation := none, point := .send call }
  else if 0 < writing.permits then
    { writing with reservation := none, permits := writing.permits - 1, point := .send call }
  else { writing with reservation := some .waiting }.return call .pending

def Writing.newAck (call : Call) : Writing :=
  { writing with
    acks := writing.acks ++ [.waiting]
    acknowledgment := some writing.acks.length
    point := .await call }

def Writing.send (call : Call) : Writing :=
  match call with
  | .write bytes =>
      let chunk := bytes.take writeChunk
      (writing.push (.data chunk)).return call (.written chunk.length)
  | .flush => (writing.newAck call).push (.flush writing.acks.length)
  | .shutdown => { writing.newAck call with finishing := true }.push (.finish writing.acks.length)

def Writing.answered (call : Call) : Writing :=
  let writing :=
    { writing with acknowledgment := none, finished := writing.finished || writing.finishing }
  if call = .shutdown ∧ writing.finished = false then { writing with point := .pollAck call }
  else writing.acked call

def Writing.await (call : Call) : Outcome Writing :=
  match writing.acknowledgment with
  | none => .panicked
  | some ack =>
      match writing.acks[ack]? with
      | none | some .waiting => .next (writing.return call .pending)
      | some .dropped =>
          .next ({ writing with acknowledgment := none }.return call (.failed .broken))
      | some .sent => .next (writing.answered call)

def Writing.advance : Outcome Writing :=
  match writing.point with
  | .idle => .blocked
  | .pollAck call => .next (writing.pollAck call)
  | .reserve call => .next (writing.reserve call)
  | .acquire call => .next (writing.acquire call)
  | .send call => .next (writing.send call)
  | .await call => writing.await call

end Caller

section Writer
variable (writing : Writing)

def Writing.answer (ack : Nat) (answer : Ack) : Writing :=
  { writing with acks := writing.acks.set ack answer }

def Writing.endPump : Writing := { writing with pump := .over }.record .pumpEnded

def Writing.release : Writing :=
  if writing.reservation = some .waiting then { writing with reservation := some .granted }
  else { writing with permits := writing.permits + 1 }

def Writing.receive : Outcome Writing :=
  match writing.pump, writing.queue with
  | .receiving, command :: rest =>
      .next ({ writing with pump := .holding command, queue := rest }.release)
  | _, _ => .blocked

def Writing.act : Outcome Writing :=
  match writing.pump with
  | .holding (.data bytes) => .next ({ writing with pump := .sending bytes }.record (.passed bytes))
  | .holding (.flush ack) => .next ({ writing with pump := .receiving }.answer ack .sent)
  | .holding (.finish ack) => .next ({ writing with pump := .finishing ack }.record .finishStarted)
  | _ => .blocked

/-- `send_data` returns. -/
def Writing.sendDone (ok : Bool) : Outcome Writing :=
  match writing.pump with
  | .sending bytes =>
      if ok then .next ({ writing with pump := .receiving }.record (.sent bytes))
      else .next writing.endPump
  | _ => .blocked

/-- `finish` returns. Its acknowledgment is sent, or dropped with the pump. -/
def Writing.finishDone (ok : Bool) : Outcome Writing :=
  match writing.pump with
  | .finishing ack =>
      if ok then .next ((writing.record .finishSucceeded).answer ack .sent).endPump
      else .next (writing.answer ack .dropped).endPump
  | _ => .blocked

def Writing.interrupt : Outcome Writing :=
  match writing.pump with
  | .receiving | .sending _ => .next writing.endPump
  | .finishing ack => .next (writing.answer ack .dropped).endPump
  | _ => .blocked

def Command.ack? : Command → Option Nat
  | .data _ => none
  | .flush ack | .finish ack => some ack

def Writing.dropQueue : Writing :=
  { writing with
    pump := .gone
    queue := []
    acks := (writing.queue.filterMap Command.ack?).foldl (fun acks ack => acks.set ack .dropped)
      writing.acks }

end Writer

inductive WriteAction where
  | enter (call : Call)
  | advance
  | stop
  | receive
  | act
  | sendDone (ok : Bool)
  | finishDone (ok : Bool)
  | interrupt
  | dropReceiver
  deriving DecidableEq, Repr

def Writing.step (writing : Writing) : WriteAction → Outcome Writing
  | .enter call => .guarded (writing.point = .idle) (.next (writing.enter call))
  | .advance => writing.advance
  | .stop => .next { writing with stopped := true }
  | .receive => writing.receive
  | .act => writing.act
  | .sendDone ok => writing.sendDone ok
  | .finishDone ok => writing.finishDone ok
  | .interrupt => writing.interrupt
  | .dropReceiver => .guarded (writing.pump = .over) (.next writing.dropQueue)

end ProxyTunnels.Http3
