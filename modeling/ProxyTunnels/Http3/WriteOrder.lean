import ProxyTunnels.Http3.Write
import ProxyTunnels.Machine.History

/-! The write side is an ordered stream.

While the pump runs, the accepted bytes are those sent, those in flight and those still
in the pipeline, in this order, and an acknowledgment is the last thing in the pipeline.
The laws about what calls report follow from these two facts.
-/

set_option autoImplicit false

namespace ProxyTunnels.Http3
open Machine

/-- The bytes a `poll_write` that returned reported as accepted. -/
def Event.accepted : Event → List UInt8
  | .returned (.write bytes) (.written count) => bytes.take count
  | _ => []

def Event.passedBytes : Event → List UInt8
  | .passed bytes => bytes
  | _ => []

def Event.sentBytes : Event → List UInt8
  | .sent bytes => bytes
  | _ => []

def acceptedBytes (log : List Event) : List UInt8 := log.flatMap Event.accepted

/-- The bytes passed to `send_data`. -/
def passedBytes (log : List Event) : List UInt8 := log.flatMap Event.passedBytes

/-- The bytes `send_data` returned successfully for. -/
def sentBytes (log : List Event) : List UInt8 := log.flatMap Event.sentBytes

def FinishQueued (log : List Event) : Prop := ∃ ack, .queued (.finish ack) ∈ log

/-- What each event of the write side may be preceded by. -/
def WriteLaw (before : List Event) : Event → Prop
  | .queued (.data _) => ¬ FinishQueued before
  | .queued (.finish _) => FinishQueued before → .pumpEnded ∈ before
  | .passed bytes => passedBytes before ++ bytes <+: acceptedBytes before
  | .finishStarted => .finishStarted ∉ before
  | .finishSucceeded => sentBytes before = acceptedBytes before
  | .returned (.write _) (.written _) => ¬ FinishQueued before
  | .returned .flush .done => sentBytes before = acceptedBytes before
  | .returned .shutdown .done => .finishSucceeded ∈ before ∧ sentBytes before = acceptedBytes before
  | _ => True

section Logs
variable (log more : List Event) (event : Event)

@[simp] theorem acceptedBytes_nil : acceptedBytes [] = [] := rfl

@[simp] theorem acceptedBytes_append :
    acceptedBytes (log ++ more) = acceptedBytes log ++ acceptedBytes more := List.flatMap_append

@[simp] theorem acceptedBytes_cons : acceptedBytes (event :: log) = event.accepted ++ acceptedBytes log :=
  List.flatMap_cons

@[simp] theorem passedBytes_nil : passedBytes [] = [] := rfl

@[simp] theorem passedBytes_append :
    passedBytes (log ++ more) = passedBytes log ++ passedBytes more := List.flatMap_append

@[simp] theorem passedBytes_cons : passedBytes (event :: log) = event.passedBytes ++ passedBytes log :=
  List.flatMap_cons

@[simp] theorem sentBytes_nil : sentBytes [] = [] := rfl

@[simp] theorem sentBytes_append : sentBytes (log ++ more) = sentBytes log ++ sentBytes more :=
  List.flatMap_append

@[simp] theorem sentBytes_cons : sentBytes (event :: log) = event.sentBytes ++ sentBytes log :=
  List.flatMap_cons

@[simp] theorem finishQueued_append : FinishQueued (log ++ more) ↔ FinishQueued log ∨ FinishQueued more := by
  simp [FinishQueued, exists_or]

@[simp] theorem finishQueued_cons :
    FinishQueued (event :: log) ↔ (∃ ack, event = .queued (.finish ack)) ∨ FinishQueued log := by
  simp [FinishQueued, exists_or, eq_comm]

@[simp] theorem not_finishQueued_nil : ¬ FinishQueued [] := by simp [FinishQueued]

end Logs

def Pump.held : Pump → List Command
  | .holding command => [command]
  | _ => []

def Pump.inFlight : Pump → List UInt8
  | .sending bytes => bytes
  | _ => []

def Pump.Ended (pump : Pump) : Prop := pump = .over ∨ pump = .gone

def Writing.pipeline (writing : Writing) : List Command := writing.pump.held ++ writing.queue

def Command.bytes : Command → List UInt8
  | .data bytes => bytes
  | _ => []

def AllData (commands : List Command) : Prop := ∀ command ∈ commands, command.ack? = none

def Writing.ackCommand (writing : Writing) (ack : Nat) : Command :=
  if writing.finishing then .finish ack else .flush ack

inductive Outstanding (writing : Writing) : Prop where
  | none : writing.acknowledgment = none → writing.finishing = false → AllData writing.pipeline →
      (∀ ack, writing.pump ≠ .finishing ack) → Outstanding writing
  | queued {ack : Nat} {front : List Command} : writing.acknowledgment = some ack →
      writing.acks[ack]? = some .waiting → AllData front →
      writing.pipeline = front ++ [writing.ackCommand ack] →
      (∀ ack, writing.pump ≠ .finishing ack) → Outstanding writing
  | finishing {ack : Nat} : writing.acknowledgment = some ack → writing.acks[ack]? = some .waiting →
      writing.pump = .finishing ack → writing.queue = [] → writing.finishing = true →
      Outstanding writing
  | answered {ack : Nat} : writing.acknowledgment = some ack → writing.acks[ack]? = some .sent →
      writing.pump = .receiving → writing.queue = [] → writing.finishing = false → Outstanding writing

structure Pumping (writing : Writing) : Prop where
  passed : passedBytes writing.log = sentBytes writing.log ++ writing.pump.inFlight
  accepted : acceptedBytes writing.log =
    passedBytes writing.log ++ writing.pipeline.flatMap Command.bytes
  outstanding : Outstanding writing
  started : .finishStarted ∈ writing.log → ∃ ack, writing.pump = .finishing ack
  running : .finishSucceeded ∉ writing.log

def Writing.AtPoint (writing : Writing) : Point → Prop
  | .idle => True
  | .pollAck (.write _) => writing.finishing = false
  | .pollAck _ => True
  | .reserve call | .acquire call | .send call => writing.acknowledgment = none ∧
      writing.finished = false ∧ (∀ bytes, call = .write bytes → writing.finishing = false)
  | .await call => writing.acknowledgment ≠ none ∧ writing.finished = false ∧
      (∀ bytes, call = .write bytes → writing.finishing = false)

structure Settled (finishing : Bool) (log : List Event) : Prop where
  sent : sentBytes log = acceptedBytes log
  finish : finishing = true → .finishSucceeded ∈ log

structure Reported (writing : Writing) : Prop where
  lawful : Recorded WriteLaw writing.log
  sub : passedBytes writing.log <+: acceptedBytes writing.log
  asked : writing.finishing = true ↔ FinishQueued writing.log
  point : writing.AtPoint writing.point
  finished : writing.finished = true → writing.finishing = true ∧ Settled writing.finishing writing.log
  answered : ∀ ack, writing.acknowledgment = some ack → writing.acks[ack]? = some .sent → Settled writing.finishing writing.log
  known : ∀ ack, writing.acknowledgment = some ack → ack < writing.acks.length

structure Ordered (writing : Writing) : Prop extends Reported writing where
  ended : .pumpEnded ∈ writing.log ↔ writing.pump.Ended
  pumping : ¬ writing.pump.Ended → Pumping writing

theorem ordered_start : Ordered .start where
  lawful := Recorded.nil
  sub := List.prefix_rfl
  asked := by simp [Writing.start, FinishQueued]
  point := trivial
  finished := by simp [Writing.start]
  answered := by simp [Writing.start]
  known := by simp [Writing.start]
  ended := by simp [Writing.start, Pump.Ended]
  pumping _ :=
    ⟨rfl, rfl, .none rfl rfl (by simp [AllData, Writing.start, Writing.pipeline, Pump.held])
      (by simp [Writing.start]), by simp [Writing.start], by simp [Writing.start]⟩

section CallSteps
variable {writing : Writing} {call : Call}

theorem Writing.AtPoint.congr {other : Writing} {point : Point} (reached : writing.AtPoint point)
    (acknowledgment : other.acknowledgment = writing.acknowledgment)
    (finishing : other.finishing = writing.finishing) (finished : other.finished = writing.finished) :
    other.AtPoint point := by
  unfold Writing.AtPoint at reached ⊢
  rw [acknowledgment, finishing, finished]
  exact reached

theorem Outstanding.move (held : Outstanding writing) (point : Point) (reservation : Option Reservation)
    (permits : Nat) (stopped : Bool) (log : List Event) :
    Outstanding { writing with point, reservation, permits, stopped, log } := by
  cases held with
  | none absent notAsked all notFinishing => exact .none absent notAsked all notFinishing
  | queued present waiting all split notFinishing => exact .queued present waiting all split notFinishing
  | finishing present waiting here empty asked => exact .finishing present waiting here empty asked
  | answered present sent here empty notAsked => exact .answered present sent here empty notAsked

theorem Ordered.move (held : Ordered writing) {point : Point} (reservation : Option Reservation)
    (permits : Nat) (stopped : Bool) (reached : writing.AtPoint point) :
    Ordered { writing with point, reservation, permits, stopped } where
  lawful := held.lawful
  sub := held.sub
  asked := held.asked
  point := reached.congr rfl rfl rfl
  finished := held.finished
  answered := held.answered
  known := held.known
  ended := held.ended
  pumping running :=
    have going := held.pumping running
    ⟨going.passed, going.accepted, going.outstanding.move _ _ _ _ _, going.started, going.running⟩

theorem Ordered.returned (held : Ordered writing) {result : CallResult}
    (law : WriteLaw writing.log (.returned call result))
    (nothing : (Event.returned call result).accepted = []) : Ordered (writing.return call result) := by
  have log : (writing.return call result).log = writing.log ++ [.returned call result] := rfl
  have settled : Settled writing.finishing writing.log → Settled writing.finishing (writing.return call result).log := by
    rintro ⟨sent, finish⟩
    refine ⟨?_, fun asked => List.mem_append_left _ (finish asked)⟩
    rw [log]
    simpa [nothing, Event.sentBytes] using sent
  refine ⟨⟨?_, ?_, ?_, trivial, ?_, ?_, held.known⟩, ?_, ?_⟩
  · rw [log]
    exact recorded_concat.mpr ⟨held.lawful, law⟩
  · rw [log]
    simpa [nothing, Event.passedBytes] using held.sub
  · rw [log]
    simpa [Writing.return, Writing.record] using held.asked
  · intro done
    exact ⟨(held.finished done).1, settled (held.finished done).2⟩
  · intro ack present sent
    exact settled (held.answered ack present sent)
  · rw [log]
    simpa [Writing.return, Writing.record] using held.ended
  · intro running
    have going := held.pumping running
    refine ⟨?_, ?_, going.outstanding.move _ _ _ _ _, ?_, ?_⟩
    · change passedBytes (writing.log ++ [_]) = sentBytes (writing.log ++ [_]) ++ writing.pump.inFlight
      simpa [Event.passedBytes, Event.sentBytes] using going.passed
    · change acceptedBytes (writing.log ++ [_]) = passedBytes (writing.log ++ [_]) ++
        writing.pipeline.flatMap Command.bytes
      simpa [nothing, Event.passedBytes] using going.accepted
    · change _ ∈ writing.log ++ [_] → ∃ ack, writing.pump = .finishing ack
      simpa using going.started
    · rw [log]
      simpa using going.running

theorem Ordered.not_finishQueued (held : Ordered writing) (notAsked : writing.finishing = false) :
    ¬ FinishQueued writing.log := by
  rw [← held.asked, notAsked]
  simp

theorem Ordered.writeOn (held : Ordered writing) {bytes : List UInt8} (absent : writing.acknowledgment = none)
    (unfinished : writing.finished = false) (notAsked : writing.finishing = false) :
    Ordered (writing.writeOn bytes) := by
  unfold Writing.writeOn
  split
  · exact held.returned (held.not_finishQueued notAsked) rfl
  · exact held.move _ _ _ ⟨absent, unfinished, fun _ _ => notAsked⟩

theorem Ordered.enter (held : Ordered writing) : Ordered (writing.enter call) := by
  cases call with
  | write bytes =>
    unfold Writing.enter
    dsimp only
    by_cases closed : (writing.finishing || writing.finished) = true
    · rw [if_pos closed]
      exact held.returned trivial rfl
    · rw [if_neg closed]
      simp only [Bool.or_eq_true, not_or, Bool.not_eq_true] at closed
      split
      · exact held.move _ _ _ closed.1
      · next absent => exact held.writeOn (by simpa using absent) closed.2 closed.1
  | flush => exact held.move _ _ _ trivial
  | shutdown => exact held.move _ _ _ trivial

/-- What a call needs for its `poll_ack` to return `Ok`. -/
def Writing.Acked (writing : Writing) : Call → Prop
  | .write _ => writing.acknowledgment = none ∧ writing.finished = false ∧ writing.finishing = false
  | .flush => Settled writing.finishing writing.log
  | .shutdown => Settled writing.finishing writing.log ∧ writing.finishing = true

theorem Ordered.acked (held : Ordered writing) (ready : writing.Acked call) :
    Ordered (writing.acked call) := by
  cases call with
  | write bytes => exact held.writeOn ready.1 ready.2.1 ready.2.2
  | flush => exact held.returned ready.sent rfl
  | shutdown => exact held.returned ⟨ready.1.finish ready.2, ready.1.sent⟩ rfl

theorem Ordered.failed (held : Ordered writing) (error : WriteError) :
    Ordered (writing.return call (.failed error)) := by
  cases call <;> exact held.returned trivial rfl

theorem Ordered.suspended (held : Ordered writing) : Ordered (writing.return call .pending) := by
  cases call <;> exact held.returned trivial rfl

theorem Ordered.pollAck (held : Ordered writing) (reached : writing.AtPoint (.pollAck call)) :
    Ordered (writing.pollAck call) := by
  have notAsked : ∀ bytes, call = .write bytes → writing.finishing = false := by
    intro bytes same
    subst same
    exact reached
  unfold Writing.pollAck
  split
  · exact held.failed _
  · split
    · next done =>
      obtain ⟨asked, settled⟩ := held.finished done
      refine held.acked ?_
      cases call with
      | write bytes => exact absurd (asked.symm.trans (notAsked bytes rfl)) (by simp)
      | flush => exact settled
      | shutdown => exact ⟨settled, asked⟩
    · next unfinished =>
      have unfinished : writing.finished = false := by simpa using unfinished
      split
      · next absent => exact held.move _ _ _ ⟨by simpa using absent, unfinished, notAsked⟩
      · next present => exact held.move _ _ _ ⟨by simpa using present, unfinished, notAsked⟩

theorem Ordered.reserve (held : Ordered writing) (reached : writing.AtPoint (.reserve call)) :
    Ordered (writing.reserve call) := by
  unfold Writing.reserve
  split
  · exact held.failed _
  · exact held.move _ _ _ reached

theorem Ordered.acquire (held : Ordered writing) (reached : writing.AtPoint (.acquire call)) :
    Ordered (writing.acquire call) := by
  have forget : ∀ reservation, Ordered { writing with reservation, point := .idle } :=
    fun reservation => held.move reservation _ _ trivial
  unfold Writing.acquire
  split
  · exact (forget none).failed _
  · split
    · exact held.move _ _ _ reached
    · split
      · exact held.move _ _ _ reached
      · exact (forget (some .waiting)).suspended

theorem Pumping.idle (going : Pumping writing) (absent : writing.acknowledgment = none) :
    writing.finishing = false ∧ AllData writing.pipeline ∧ ∀ ack, writing.pump ≠ .finishing ack := by
  cases going.outstanding with
  | none _ notAsked all notFinishing => exact ⟨notAsked, all, notFinishing⟩
  | queued present => exact absurd (absent.symm.trans present) (by simp)
  | finishing present => exact absurd (absent.symm.trans present) (by simp)
  | answered present => exact absurd (absent.symm.trans present) (by simp)

theorem Ordered.sendData (held : Ordered writing) {bytes : List UInt8}
    (reached : writing.AtPoint (.send (.write bytes))) : Ordered (writing.send (.write bytes)) := by
  obtain ⟨absent, unfinished, notAsked⟩ := reached
  have fresh := held.not_finishQueued (notAsked bytes rfl)
  let chunk := bytes.take writeChunk
  let log := writing.log ++ [.queued (.data chunk)] ++ [.returned (.write bytes) (.written chunk.length)]
  have accepted : acceptedBytes log = acceptedBytes writing.log ++ chunk := by
    simp [log, Event.accepted, chunk]
  have passed : passedBytes log = passedBytes writing.log := by simp [log, Event.passedBytes]
  have sent : sentBytes log = sentBytes writing.log := by simp [log, Event.sentBytes]
  refine ⟨⟨?_, ?_, ?_, trivial, ?_, ?_, held.known⟩, ?_, ?_⟩
  · refine recorded_concat.mpr ⟨recorded_concat.mpr ⟨held.lawful, fresh⟩, ?_⟩
    change ¬ FinishQueued (writing.log ++ [_])
    simpa using fresh
  · change passedBytes log <+: acceptedBytes log
    rw [passed, accepted]
    exact held.sub.trans (List.prefix_append _ _)
  · change writing.finishing = true ↔ FinishQueued log
    simpa [log] using held.asked
  · intro done
    exact absurd (unfinished.symm.trans done) (by simp)
  · intro ack present
    exact absurd (absent.symm.trans present) (by simp)
  · change _ ∈ log ↔ writing.pump.Ended
    simpa [log] using held.ended
  · intro running
    have going := held.pumping running
    obtain ⟨_, all, notFinishing⟩ := going.idle absent
    have pipeline : (writing.send (.write bytes)).pipeline = writing.pipeline ++ [.data chunk] :=
      (List.append_assoc _ _ _).symm
    refine ⟨?_, ?_, .none absent (notAsked bytes rfl) ?_ notFinishing, ?_, ?_⟩
    · change passedBytes log = sentBytes log ++ writing.pump.inFlight
      rw [passed, sent]
      exact going.passed
    · change acceptedBytes log = passedBytes log ++ _
      rw [pipeline, accepted, passed, going.accepted, List.flatMap_append, List.append_assoc]
      simp [Command.bytes]
    · rw [pipeline]
      intro command member
      rcases List.mem_append.mp member with old | new
      · exact all command old
      · rw [List.mem_singleton.mp new]
        rfl
    · change _ ∈ log → ∃ ack, writing.pump = .finishing ack
      simpa [log] using going.started
    · change _ ∉ log
      simpa [log] using going.running

theorem Ordered.sendAck (held : Ordered writing) {asked : Bool} {command : Command}
    (absent : writing.acknowledgment = none) (unfinished : writing.finished = false)
    (notWrite : ∀ bytes, call ≠ .write bytes) (law : WriteLaw writing.log (.queued command))
    (counts : asked = true ↔ FinishQueued (writing.log ++ [.queued command]))
    (same : command = .finish writing.acks.length ∧ asked = true ∨
      command = .flush writing.acks.length ∧ asked = writing.finishing) :
    Ordered ({ writing.newAck call with finishing := asked }.push command) := by
  let next : Writing := { writing.newAck call with finishing := asked }.push command
  have log : next.log = writing.log ++ [.queued command] := rfl
  have noBytes : command.bytes = [] := by
    rcases same with ⟨rfl, -⟩ | ⟨rfl, -⟩ <;> rfl
  have waits : next.acks[writing.acks.length]? = some .waiting := by
    simp [next, Writing.newAck, Writing.push, Writing.record]
  refine ⟨⟨?_, ?_, counts, ?_, ?_, ?_, ?_⟩, ?_, ?_⟩
  · exact recorded_concat.mpr ⟨held.lawful, law⟩
  · change passedBytes next.log <+: acceptedBytes next.log
    rw [log]
    simpa [Event.passedBytes, Event.accepted] using held.sub
  · exact ⟨by simp [Writing.newAck, Writing.push, Writing.record], unfinished,
      fun bytes write => absurd write (notWrite bytes)⟩
  · intro done
    exact absurd (unfinished.symm.trans done) (by simp)
  · intro ack present sent
    have number : writing.acks.length = ack := Option.some.inj present
    subst number
    exact absurd (waits.symm.trans sent) (by simp)
  · intro ack present
    have number : writing.acks.length = ack := Option.some.inj present
    subst number
    change _ < (writing.acks ++ [_]).length
    simp
  · change _ ∈ next.log ↔ writing.pump.Ended
    rw [log]
    simpa using held.ended
  · intro running
    have going := held.pumping running
    obtain ⟨notAsked, all, notFinishing⟩ := going.idle absent
    have pipeline : next.pipeline = writing.pipeline ++ [command] := (List.append_assoc _ _ _).symm
    have travels : command = next.ackCommand writing.acks.length := by
      rcases same with ⟨rfl, given⟩ | ⟨rfl, given⟩
      · change _ = if asked then _ else _
        simp [given]
      · change _ = if asked then _ else _
        simp [given, notAsked]
    refine ⟨?_, ?_, .queued rfl waits all (pipeline.trans (by rw [← travels])) notFinishing, ?_, ?_⟩
    · change passedBytes next.log = sentBytes next.log ++ writing.pump.inFlight
      rw [log]
      simpa [Event.passedBytes, Event.sentBytes] using going.passed
    · change acceptedBytes next.log = passedBytes next.log ++ next.pipeline.flatMap Command.bytes
      rw [log, pipeline]
      simpa [Event.accepted, Event.passedBytes, noBytes] using going.accepted
    · change _ ∈ next.log → ∃ ack, writing.pump = .finishing ack
      rw [log]
      simpa using going.started
    · change _ ∉ next.log
      rw [log]
      simpa using going.running

theorem Ordered.send (held : Ordered writing) (reached : writing.AtPoint (.send call)) :
    Ordered (writing.send call) := by
  cases call with
  | write bytes => exact held.sendData reached
  | flush =>
    obtain ⟨absent, unfinished, -⟩ := reached
    exact held.sendAck absent unfinished (by simp) trivial (by simpa using held.asked) (Or.inr ⟨rfl, rfl⟩)
  | shutdown =>
    obtain ⟨absent, unfinished, -⟩ := reached
    refine held.sendAck absent unfinished (by simp) ?_ (by simp) (Or.inl ⟨rfl, rfl⟩)
    -- A running pump would still hold the first finish's acknowledgment.
    intro again
    by_contra running
    have going := held.pumping fun ended => running (held.ended.mpr ended)
    exact held.not_finishQueued (going.idle absent).1 again

theorem Ordered.forget (held : Ordered writing) {ack : Nat} (present : writing.acknowledgment = some ack)
    (decided : writing.acks[ack]? ≠ some .waiting) {finished : Bool}
    (settled : finished = true → writing.finishing = true ∧ Settled writing.finishing writing.log) :
    Ordered { writing with acknowledgment := none, finished, point := .idle } := by
  refine ⟨⟨held.lawful, held.sub, held.asked, trivial, settled, by simp, by simp⟩, held.ended, ?_⟩
  · intro running
    have going := held.pumping running
    refine ⟨going.passed, going.accepted, ?_, going.started, going.running⟩
    cases going.outstanding with
    | none absent => exact absurd (absent.symm.trans present) (by simp)
    | queued other waiting =>
      cases present.symm.trans other
      exact absurd waiting decided
    | finishing other waiting =>
      cases present.symm.trans other
      exact absurd waiting decided
    | answered _ _ here empty notAsked =>
      refine .none rfl notAsked ?_ ?_
      · simp [AllData, Writing.pipeline, here, empty, Pump.held]
      · simp [here]

theorem Ordered.complete (held : Ordered writing) {ack : Nat}
    (reached : writing.AtPoint (.await call)) (present : writing.acknowledgment = some ack)
    (sent : writing.acks[ack]? = some .sent) : Ordered (writing.answered call) := by
  obtain ⟨-, unfinished, notAsked⟩ := reached
  have settled := held.answered ack present sent
  have next : Ordered { writing with
      acknowledgment := none, finished := writing.finished || writing.finishing, point := .idle } := by
    refine held.forget present (by simp [sent]) ?_
    intro done
    rw [unfinished, Bool.false_or] at done
    exact ⟨done, settled⟩
  unfold Writing.answered
  dsimp only
  split
  · next again =>
    obtain ⟨rfl, -⟩ := again
    exact next.move writing.reservation writing.permits writing.stopped trivial
  · next whole =>
    have ready : Writing.Acked { writing with
        acknowledgment := none, finished := writing.finished || writing.finishing, point := .idle } call := by
      cases call with
      | write bytes =>
        have never := notAsked bytes rfl
        exact ⟨rfl, by simp [unfinished, never], never⟩
      | flush => exact settled
      | shutdown =>
        refine ⟨settled, ?_⟩
        simpa [unfinished] using whole
    have moved := next.acked ready
    cases call <;> exact moved

theorem Ordered.await (held : Ordered writing) (reached : writing.AtPoint (.await call)) {next : Writing}
    (taken : writing.await call = .next next) : Ordered next := by
  unfold Writing.await at taken
  cases present : writing.acknowledgment with
  | none => exact absurd present reached.1
  | some ack =>
    rw [present] at taken
    dsimp only at taken
    split at taken
    · cases taken
      exact held.suspended
    · cases taken
      exact held.suspended
    · next dropped =>
      cases taken
      have forgotten := held.forget present (by simp [dropped]) held.finished
      exact forgotten.failed .broken
    · next sent =>
      cases taken
      exact held.complete reached present sent

theorem Ordered.advance (held : Ordered writing) {next : Writing}
    (taken : writing.advance = .next next) : Ordered next := by
  have reached := held.point
  unfold Writing.advance at taken
  cases here : writing.point with
  | idle =>
    rw [here] at taken
    cases taken
  | pollAck call =>
    rw [here] at taken reached
    cases taken
    exact held.pollAck reached
  | reserve call =>
    rw [here] at taken reached
    cases taken
    exact held.reserve reached
  | acquire call =>
    rw [here] at taken reached
    cases taken
    exact held.acquire reached
  | send call =>
    rw [here] at taken reached
    cases taken
    exact held.send reached
  | await call =>
    rw [here] at taken reached
    exact held.await reached taken

end CallSteps

section WriterSteps
variable {writing next : Writing}

theorem Settled.record {finishing : Bool} {log : List Event} {event : Event} (settled : Settled finishing log)
    (noSent : event.sentBytes = []) (noAccepted : event.accepted = []) : Settled finishing (log ++ [event]) := by
  refine ⟨?_, fun asked => List.mem_append_left _ (settled.finish asked)⟩
  simpa [noSent, noAccepted] using settled.sent

theorem Reported.record (held : Reported writing) {event : Event} (pump : Pump)
    (law : WriteLaw writing.log event) (noAccepted : event.accepted = [])
    (notQueued : ∀ command, event ≠ .queued command)
    (sub : passedBytes writing.log ++ event.passedBytes <+: acceptedBytes writing.log)
    (settled : Settled writing.finishing writing.log →
      Settled writing.finishing (writing.log ++ [event])) :
    Reported ({ writing with pump }.record event) := by
  refine ⟨?_, ?_, ?_, held.point.congr rfl rfl rfl, ?_, ?_, held.known⟩
  · exact recorded_concat.mpr ⟨held.lawful, law⟩
  · change passedBytes (writing.log ++ [event]) <+: acceptedBytes (writing.log ++ [event])
    simpa [noAccepted] using sub
  · change writing.finishing = true ↔ FinishQueued (writing.log ++ [event])
    simpa [notQueued] using held.asked
  · intro done
    exact ⟨(held.finished done).1, settled (held.finished done).2⟩
  · intro ack present sent
    exact settled (held.answered ack present sent)

theorem Reported.endPump (held : Reported writing) : Ordered writing.endPump := by
  refine ⟨?_, ?_, fun running => absurd (Or.inl rfl) running⟩
  · exact held.record .over trivial rfl (by simp) (by simpa [Event.passedBytes] using held.sub)
      fun settled => settled.record rfl rfl
  · simp [Writing.endPump, Writing.record, Pump.Ended]

theorem Pumping.drained (going : Pumping writing) (flight : writing.pump.inFlight = [])
    (nothing : writing.pipeline.flatMap Command.bytes = []) :
    sentBytes writing.log = acceptedBytes writing.log := by
  rw [going.accepted, going.passed, flight, nothing]
  simp

theorem Ordered.receive (held : Ordered writing) (taken : writing.receive = .next next) : Ordered next := by
  unfold Writing.receive at taken
  split at taken
  · next command rest here split =>
    cases taken
    have running : ¬ writing.pump.Ended := by simp [here, Pump.Ended]
    have going := held.pumping running
    let moved : Writing := { writing with pump := .holding command, queue := rest }
    have pipeline : moved.pipeline = writing.pipeline := by
      simp [moved, Writing.pipeline, here, split, Pump.held]
    have ordered : Ordered moved := by
      refine ⟨⟨held.lawful, held.sub, held.asked, held.point.congr rfl rfl rfl, held.finished, held.answered,
        held.known⟩, ?_, ?_⟩
      · rw [show moved.log = writing.log from rfl, held.ended, here]
        simp [moved, Pump.Ended]
      · intro _
        refine ⟨?_, ?_, ?_, ?_, going.running⟩
        · simpa [here, moved, Pump.inFlight] using going.passed
        · rw [pipeline]
          exact going.accepted
        · cases going.outstanding with
          | none absent notAsked all _ => exact .none absent notAsked (pipeline ▸ all) (by simp [moved])
          | queued present waiting all split' _ =>
            exact .queued present waiting all (pipeline.trans split') (by simp [moved])
          | finishing _ _ other => exact absurd (here.symm.trans other) (by simp)
          | answered _ _ _ empty => exact absurd (split.symm.trans empty) (by simp)
        · intro started
          obtain ⟨ack, other⟩ := going.started started
          exact absurd (here.symm.trans other) (by simp)
    unfold Writing.release
    split
    · exact ordered.move _ _ _ ordered.point
    · exact ordered.move _ _ _ ordered.point
  · cases taken

theorem Ordered.actData (held : Ordered writing) {bytes : List UInt8}
    (here : writing.pump = .holding (.data bytes)) :
    Ordered ({ writing with pump := .sending bytes }.record (.passed bytes)) := by
  let next : Writing := { writing with pump := .sending bytes }.record (.passed bytes)
  have log : next.log = writing.log ++ [.passed bytes] := rfl
  have going := held.pumping (by simp [here, Pump.Ended])
  have accepted : acceptedBytes writing.log =
      passedBytes writing.log ++ (bytes ++ writing.queue.flatMap Command.bytes) := by
    rw [going.accepted, Writing.pipeline, here]
    rfl
  have further : passedBytes writing.log ++ bytes <+: acceptedBytes writing.log := by
    rw [accepted, ← List.append_assoc]
    exact List.prefix_append _ _
  refine ⟨?_, ?_, ?_⟩
  · exact held.record _ further rfl (by simp) further fun settled => settled.record rfl rfl
  · change _ ∈ next.log ↔ Pump.Ended (.sending bytes)
    rw [log]
    simpa [here, Pump.Ended] using held.ended
  · intro _
    refine ⟨?_, ?_, ?_, ?_, ?_⟩
    · change passedBytes next.log = sentBytes next.log ++ bytes
      rw [log]
      simpa [here, Event.passedBytes, Event.sentBytes, Pump.inFlight] using going.passed
    · change acceptedBytes next.log = passedBytes next.log ++ writing.queue.flatMap Command.bytes
      rw [log]
      simpa [Event.accepted, Event.passedBytes] using accepted
    · cases going.outstanding with
      | none absent notAsked all _ =>
        refine .none absent notAsked (fun command member => all command ?_) (by simp [Writing.record])
        rw [Writing.pipeline, here]
        exact List.mem_append_right _ member
      | @queued ack front present waiting all split _ =>
        -- The data is not the acknowledgment, so it is the first of the commands before it.
        rw [Writing.pipeline, here] at split
        cases front with
        | nil =>
          have first := (List.cons.inj split).1
          unfold Writing.ackCommand at first
          split at first <;> cases first
        | cons command front =>
          exact .queued present waiting (fun other member => all other (List.mem_cons_of_mem _ member))
            (List.cons.inj split).2 (by simp [Writing.record])
      | finishing _ _ other => exact absurd (here.symm.trans other) (by simp)
      | answered _ _ other => exact absurd (here.symm.trans other) (by simp)
    · intro started
      change _ ∈ next.log at started
      obtain ⟨ack, other⟩ := going.started (by simpa [log] using started)
      exact absurd (here.symm.trans other) (by simp)
    · change _ ∉ next.log
      rw [log]
      simpa using going.running

theorem Pumping.ack_last (going : Pumping writing) {command : Command} {ack : Nat}
    (here : writing.pump = .holding command) (carries : command.ack? = some ack) :
    writing.queue = [] ∧ writing.acknowledgment = some ack ∧ writing.acks[ack]? = some .waiting ∧
      command = writing.ackCommand ack := by
  cases going.outstanding with
  | none _ _ all _ =>
    have clean := all command (by simp [Writing.pipeline, here, Pump.held])
    exact absurd (carries.symm.trans clean) (by simp)
  | @queued other front present waiting all split _ =>
    rw [Writing.pipeline, here] at split
    cases front with
    | nil =>
      obtain ⟨first, rest⟩ := List.cons.inj split
      have same : other = ack := by
        rw [first] at carries
        unfold Writing.ackCommand at carries
        split at carries <;> exact Option.some.inj carries
      subst same
      exact ⟨rest, present, waiting, first⟩
    | cons head front =>
      have clean := all head List.mem_cons_self
      rw [← (List.cons.inj split).1, carries] at clean
      cases clean
  | finishing _ _ other => exact absurd (here.symm.trans other) (by simp)
  | answered _ _ other => exact absurd (here.symm.trans other) (by simp)

theorem Ordered.actFlush (held : Ordered writing) {ack : Nat} (here : writing.pump = .holding (.flush ack)) :
    Ordered ({ writing with pump := .receiving }.answer ack .sent) := by
  have going := held.pumping (by simp [here, Pump.Ended])
  obtain ⟨empty, present, waiting, travels⟩ := going.ack_last here rfl
  have notAsked : writing.finishing = false := by
    unfold Writing.ackCommand at travels
    split at travels
    · cases travels
    · next never => simpa using never
  have settled : Settled writing.finishing writing.log := by
    refine ⟨going.drained (by simp [here, Pump.inFlight]) ?_, by simp [notAsked]⟩
    simp [Writing.pipeline, here, empty, Pump.held, Command.bytes]
  refine ⟨⟨held.lawful, held.sub, held.asked, held.point.congr rfl rfl rfl, held.finished, ?_, ?_⟩, ?_, ?_⟩
  · exact fun _ _ _ => settled
  · intro other known
    simpa [Writing.answer] using held.known other known
  · change _ ∈ writing.log ↔ Pump.Ended .receiving
    rw [held.ended, here]
    simp [Pump.Ended]
  · intro _
    refine ⟨?_, ?_, ?_, ?_, going.running⟩
    · change passedBytes writing.log = sentBytes writing.log ++ []
      simpa [here, Pump.inFlight] using going.passed
    · change acceptedBytes writing.log = passedBytes writing.log ++ writing.queue.flatMap Command.bytes
      simpa [Writing.pipeline, here, Pump.held, Command.bytes] using going.accepted
    · refine .answered present ?_ rfl empty notAsked
      have within := held.known ack present
      simp [Writing.answer, within]
    · intro started
      obtain ⟨other, elsewhere⟩ := going.started started
      exact absurd (here.symm.trans elsewhere) (by simp)

theorem Ordered.actFinish (held : Ordered writing) {ack : Nat} (here : writing.pump = .holding (.finish ack)) :
    Ordered ({ writing with pump := .finishing ack }.record .finishStarted) := by
  have going := held.pumping (by simp [here, Pump.Ended])
  obtain ⟨empty, present, waiting, travels⟩ := going.ack_last here rfl
  have asked : writing.finishing = true := by
    unfold Writing.ackCommand at travels
    split at travels
    · next asked => exact asked
    · cases travels
  have first : .finishStarted ∉ writing.log := by
    intro started
    obtain ⟨other, elsewhere⟩ := going.started started
    exact absurd (here.symm.trans elsewhere) (by simp)
  refine ⟨?_, ?_, ?_⟩
  · exact held.record _ first rfl (by simp) (by simpa [Event.passedBytes] using held.sub)
      fun settled => settled.record rfl rfl
  · change _ ∈ writing.log ++ [_] ↔ Pump.Ended (.finishing ack)
    simpa [here, Pump.Ended] using held.ended
  · intro _
    refine ⟨?_, ?_, .finishing present waiting rfl empty asked, fun _ => ⟨ack, rfl⟩, ?_⟩
    · change passedBytes (writing.log ++ [_]) = sentBytes (writing.log ++ [_]) ++ []
      simpa [here, Event.passedBytes, Event.sentBytes, Pump.inFlight] using going.passed
    · change acceptedBytes (writing.log ++ [_]) = passedBytes (writing.log ++ [_]) ++
        writing.queue.flatMap Command.bytes
      simpa [Writing.pipeline, here, Pump.held, Command.bytes, Event.accepted, Event.passedBytes]
        using going.accepted
    · change _ ∉ writing.log ++ [_]
      simpa using going.running

theorem Ordered.act (held : Ordered writing) (taken : writing.act = .next next) : Ordered next := by
  unfold Writing.act at taken
  split at taken
  · next here =>
    cases taken
    exact held.actData here
  · next here =>
    cases taken
    exact held.actFlush here
  · next here =>
    cases taken
    exact held.actFinish here
  · cases taken

theorem Ordered.sendDone (held : Ordered writing) {ok : Bool} (taken : writing.sendDone ok = .next next) :
    Ordered next := by
  unfold Writing.sendDone at taken
  split at taken
  · next bytes here =>
    split at taken
    · cases taken
      have going := held.pumping (by simp [here, Pump.Ended])
      have passed : passedBytes writing.log = sentBytes writing.log ++ bytes := by
        simpa [here, Pump.inFlight] using going.passed
      refine ⟨?_, ?_, ?_⟩
      · refine held.record _ trivial rfl (by simp) (by simpa [Event.passedBytes] using held.sub) ?_
        -- Nothing is in flight that has been confirmed already.
        intro settled
        have none' : bytes = [] := by
          have bound := held.sub.length_le
          rw [passed, settled.sent, List.length_append] at bound
          exact List.eq_nil_of_length_eq_zero (by omega)
        subst none'
        exact settled.record rfl rfl
      · change _ ∈ writing.log ++ [_] ↔ Pump.Ended .receiving
        simpa [here, Pump.Ended] using held.ended
      · intro _
        refine ⟨?_, ?_, ?_, ?_, ?_⟩
        · change passedBytes (writing.log ++ [_]) = sentBytes (writing.log ++ [_]) ++ []
          simpa [Event.passedBytes, Event.sentBytes] using passed
        · change acceptedBytes (writing.log ++ [_]) = passedBytes (writing.log ++ [_]) ++
            writing.queue.flatMap Command.bytes
          simpa [Writing.pipeline, here, Pump.held, Event.accepted, Event.passedBytes] using going.accepted
        · cases going.outstanding with
          | none absent notAsked all _ =>
            refine .none absent notAsked ?_ (by simp [Writing.record])
            simpa [Writing.pipeline, here, Pump.held, Writing.record] using all
          | queued present waiting all split _ =>
            rw [Writing.pipeline, here] at split
            exact .queued present waiting all split (by simp [Writing.record])
          | finishing _ _ other => exact absurd (here.symm.trans other) (by simp)
          | answered _ _ other => exact absurd (here.symm.trans other) (by simp)
        · intro started
          change _ ∈ writing.log ++ [_] at started
          obtain ⟨ack, other⟩ := going.started (by simpa using started)
          exact absurd (here.symm.trans other) (by simp)
        · change _ ∉ writing.log ++ [_]
          simpa using going.running
    · cases taken
      exact held.endPump
  · cases taken

theorem Pumping.atFinish (going : Pumping writing) {ack : Nat} (here : writing.pump = .finishing ack) :
    writing.acknowledgment = some ack ∧ sentBytes writing.log = acceptedBytes writing.log := by
  cases going.outstanding with
  | none _ _ _ never => exact absurd here (never ack)
  | queued _ _ _ _ never => exact absurd here (never ack)
  | finishing present _ other empty _ =>
    cases here.symm.trans other
    exact ⟨present, going.drained (by simp [here, Pump.inFlight])
      (by simp [Writing.pipeline, here, empty, Pump.held])⟩
  | answered _ _ other => exact absurd (here.symm.trans other) (by simp)

theorem Ordered.dropAck (held : Ordered writing) {ack : Nat} (here : writing.pump = .finishing ack) :
    Ordered (writing.answer ack .dropped).endPump := by
  obtain ⟨present, -⟩ := (held.pumping (by simp [here, Pump.Ended])).atFinish here
  refine Reported.endPump ⟨held.lawful, held.sub, held.asked, held.point.congr rfl rfl rfl, held.finished, ?_, ?_⟩
  · intro other found sent
    cases present.symm.trans found
    have within := held.known ack present
    simp [Writing.answer, within] at sent
  · intro other found
    simpa [Writing.answer] using held.known other found

theorem Ordered.finishDone (held : Ordered writing) {ok : Bool} (taken : writing.finishDone ok = .next next) :
    Ordered next := by
  unfold Writing.finishDone at taken
  split at taken
  · next ack here =>
    split at taken
    · cases taken
      obtain ⟨-, sent⟩ := (held.pumping (by simp [here, Pump.Ended])).atFinish here
      have law : WriteLaw writing.log .finishSucceeded := sent
      have recorded := held.record writing.pump law rfl (by simp)
        (by simpa [Event.passedBytes] using held.sub) fun settled => settled.record rfl rfl
      refine Reported.endPump ⟨recorded.lawful, recorded.sub, recorded.asked, held.point.congr rfl rfl rfl,
        recorded.finished, ?_, ?_⟩
      · intro _ _ _
        refine ⟨?_, fun _ => List.mem_append_right _ (List.mem_singleton_self _)⟩
        change sentBytes (writing.log ++ [_]) = acceptedBytes (writing.log ++ [_])
        simpa [Event.sentBytes, Event.accepted] using sent
      · intro other found
        simpa [Writing.answer, Writing.record] using held.known other found
    · cases taken
      exact held.dropAck here
  · cases taken

theorem Ordered.interrupt (held : Ordered writing) (taken : writing.interrupt = .next next) :
    Ordered next := by
  unfold Writing.interrupt at taken
  split at taken
  · cases taken
    exact held.endPump
  · cases taken
    exact held.endPump
  · next here =>
    cases taken
    exact held.dropAck here
  · cases taken

theorem sent_of_dropped (dropped : List Nat) (acks : List Ack) {ack : Nat}
    (sent : (dropped.foldl (fun acks ack => acks.set ack .dropped) acks)[ack]? = some .sent) :
    acks[ack]? = some .sent := by
  induction dropped generalizing acks with
  | nil => exact sent
  | cons first rest ih =>
    have earlier := ih _ sent
    rw [List.getElem?_set] at earlier
    split at earlier
    · split at earlier <;> cases earlier
    · exact earlier

theorem length_dropped (dropped : List Nat) (acks : List Ack) :
    (dropped.foldl (fun acks ack => acks.set ack .dropped) acks).length = acks.length := by
  induction dropped generalizing acks with
  | nil => rfl
  | cons first rest ih => rw [List.foldl_cons, ih, List.length_set]

theorem Ordered.dropQueue (held : Ordered writing) (here : writing.pump = .over) :
    Ordered writing.dropQueue := by
  refine ⟨⟨held.lawful, held.sub, held.asked, held.point.congr rfl rfl rfl, held.finished, ?_, ?_⟩, ?_, ?_⟩
  · intro ack present sent
    exact held.answered ack present (sent_of_dropped _ _ sent)
  · intro ack present
    have within := held.known ack present
    simpa [Writing.dropQueue, length_dropped] using within
  · change _ ∈ writing.log ↔ Pump.Ended .gone
    rw [held.ended, here]
    simp [Pump.Ended]
  · intro running
    exact absurd (Or.inr rfl) running

end WriterSteps

theorem Ordered.step {writing next : Writing} (held : Ordered writing) {action : WriteAction}
    (taken : writing.step action = .next next) : Ordered next := by
  cases action with
  | enter call =>
    obtain ⟨-, same⟩ := Outcome.guarded_eq_next.mp taken
    cases same
    exact held.enter
  | advance => exact held.advance taken
  | stop =>
    cases taken
    exact held.move _ _ _ held.point
  | receive => exact held.receive taken
  | act => exact held.act taken
  | sendDone ok => exact held.sendDone taken
  | finishDone ok => exact held.finishDone taken
  | interrupt => exact held.interrupt taken
  | dropReceiver =>
    obtain ⟨ended, same⟩ := Outcome.guarded_eq_next.mp taken
    cases same
    exact held.dropQueue (of_decide_eq_true ended)

/-- In every interleaving of calls, writer and session, what has been passed to `send_data` is
a beginning of what was accepted, and every event keeps its law. A second finish can only be
queued behind a pump that has ended, and is never taken. -/
theorem write_side_ordered {actions : List WriteAction} {writing : Writing}
    (run : Run Writing.step .start actions writing) :
    passedBytes writing.log <+: acceptedBytes writing.log ∧ Recorded WriteLaw writing.log := by
  have held : Ordered writing :=
    Run.preserves (fun _ _ _ ordered taken => Ordered.step ordered taken) run ordered_start
  exact ⟨held.sub, held.lawful⟩

theorem write_side_ordered_shutdown :
    ∃ actions writing, Run Writing.step .start actions writing ∧
      .returned .flush .done ∈ writing.log ∧ .returned .shutdown .done ∈ writing.log ∧
      acceptedBytes writing.log = [1, 2, 3] ∧
      passedBytes writing.log <+: acceptedBytes writing.log ∧ Recorded WriteLaw writing.log := by
  have run : Run Writing.step .start
      [.enter (.write [1, 2, 3]), .advance, .advance, .advance, .receive, .act, .sendDone true,
        .enter .flush, .advance, .advance, .advance, .advance, .receive, .act, .advance,
        .enter .shutdown, .advance, .advance, .advance, .advance, .receive, .act, .finishDone true, .advance]
      ⟨.idle, none, none, true, true, false, 1, [], [.sent, .sent], .over,
        [.queued (.data [1, 2, 3]), .returned (.write [1, 2, 3]) (.written 3), .passed [1, 2, 3],
          .sent [1, 2, 3], .queued (.flush 0), .returned .flush .done, .queued (.finish 1), .finishStarted,
          .finishSucceeded, .pumpEnded, .returned .shutdown .done]⟩ := run_of_execute rfl
  exact ⟨_, _, run, by decide, by decide, rfl, write_side_ordered run⟩

/-- `finish` fails: its acknowledgment is dropped with the pump, but the receiver is still
there. A shutdown that reports the failure and one more after it queue a second finish. -/
theorem second_finish_queued :
    ∃ actions writing, Run Writing.step .start actions writing ∧
      writing.log = [.queued (.finish 0), .finishStarted, .pumpEnded, .returned .shutdown (.failed .broken),
        .queued (.finish 1)] :=
  ⟨[.enter .shutdown, .advance, .advance, .advance, .advance, .receive, .act, .finishDone false, .advance,
      .enter .shutdown, .advance, .advance, .advance, .advance],
    ⟨.await .shutdown, none, some 1, true, false, false, 0, [.finish 1], [.dropped, .waiting], .over,
      [.queued (.finish 0), .finishStarted, .pumpEnded, .returned .shutdown (.failed .broken),
        .queued (.finish 1)]⟩,
    run_of_execute rfl, rfl⟩

end ProxyTunnels.Http3
