import ProxyTunnels.Machine.Lock
import ProxyTunnels.Wireguard.Actor
import ProxyTunnels.Wireguard.Mtu
import ProxyTunnels.Wireguard.Phy

/-! Tasks that send on one UDP socket of a tunnel.

`send_to` takes the socket's send lock and keeps it until its datagram is queued or
refused. It waits whenever smoltcp reports a full buffer. smoltcp does so for a buffer with
datagrams in it, which will leave, but also for a payload longer than the whole buffer.
-/

set_option autoImplicit false

namespace ProxyTunnels.Wireguard
open Machine

section Source

def udpPackets : Nat := 32

def udpBufferBytes : Nat := 64 * 1024

/-- How a socket is bound: `bind_udp`, or `bind_transport_udp` on a link of this MTU. -/
inductive Sizing where
  | plain
  | transport (mtu : UInt16)
  deriving DecidableEq, Repr

def Sizing.packets : Sizing → Nat
  | .plain => udpPackets
  | .transport _ => packetQueueDepth

def Sizing.bytes : Sizing → Nat
  | .plain => udpBufferBytes
  | .transport mtu => packetQueueDepth * mtu.toNat

/-- What is assumed of smoltcp's packet buffers: how many datagrams wait to be sent, the two
capacities, which never change, and which destinations a socket takes at all. -/
structure PacketBuffers (smoltcp : Smoltcp) where
  queued : smoltcp.Udp → Nat
  slots : smoltcp.Udp → Nat
  room : smoltcp.Udp → Nat
  addressable : smoltcp.Udp → SocketAddr → Bool
  slots_new : ∀ packets bytes, slots (smoltcp.udpNew packets bytes) = packets
  room_new : ∀ packets bytes, room (smoltcp.udpNew packets bytes) = bytes
  bind_same : ∀ socket port next, smoltcp.udpBind socket port = .ok next →
    slots next = slots socket ∧ room next = room socket
  send_same : ∀ socket data remote next, smoltcp.udpSend socket data remote = .ok next →
    slots next = slots socket ∧ room next = room socket
  /-- A payload that fits an empty buffer is not refused for lack of room. -/
  send_empty : ∀ socket data remote, queued socket = 0 → 0 < slots socket → data.length ≤ room socket →
    smoltcp.udpSend socket data remote ≠ .error .bufferFull
  /-- The destination is looked at first, whatever the payload. -/
  send_unaddressable : ∀ socket data remote, addressable socket remote = false →
    smoltcp.udpSend socket data remote = .error .unaddressable
  send_oversized : ∀ socket data remote, addressable socket remote = true → room socket < data.length →
    smoltcp.udpSend socket data remote = .error .bufferFull

/-- Where a `send_to` is. A task in `sending` holds the send lock. -/
inductive SendPhase where
  | locking
  | sending
  | ended (result : Polled Unit)
  | dropped
  deriving DecidableEq, Repr

structure Sender where
  data : List UInt8
  remote : SocketAddr
  phase : SendPhase
  deriving DecidableEq, Repr

def Sender.holdsLock (sender : Sender) : Bool := sender.phase = .sending

structure Senders (smoltcp : Smoltcp) where
  socket : smoltcp.Udp
  stopped : Bool
  senders : List Sender

inductive SendAction (smoltcp : Smoltcp) where
  | send (data : List UInt8) (remote : SocketAddr)
  | lock (index : Nat)
  | poll (index : Nat)
  | drop (index : Nat)
  /-- What anyone else does to the socket: the interface's polls, receives, the stop's close. -/
  | change (socket : smoltcp.Udp)
  | stop

variable {smoltcp : Smoltcp}

def Senders.become (state : Senders smoltcp) (index : Nat) (sender : Sender) (phase : SendPhase) :
    Senders smoltcp :=
  { state with senders := state.senders.set index { sender with phase } }

def SendPhase.polled : Polled Unit → SendPhase
  | .pending => .sending
  | result => .ended result

def Senders.step (state : Senders smoltcp) : SendAction smoltcp → Outcome (Senders smoltcp)
  | .send data remote => .next { state with senders := state.senders ++ [⟨data, remote, .locking⟩] }
  | .lock index =>
      match state.senders[index]? with
      | some sender =>
          .guarded (decide (sender.phase = .locking) && LockFree Sender.holdsLock state.senders)
            (.next (state.become index sender .sending))
      | none => .blocked
  | .poll index =>
      match state.senders[index]? with
      | some sender =>
          let (result, socket) := pollSendTo state.stopped state.socket sender.data sender.remote
          .guarded sender.holdsLock
            (.next ({ state with socket }.become index sender (.polled result)))
      | none => .blocked
  | .drop index =>
      match state.senders[index]? with
      | some sender => .next (state.become index sender .dropped)
      | none => .blocked
  | .change socket => .next { state with socket }
  | .stop => .next { state with stopped := true }

/-- The socket `WgUdpSocket::bind` makes. -/
def boundSocket (sizing : Sizing) (port : UInt16) : Except String smoltcp.Udp :=
  smoltcp.udpBind (smoltcp.udpNew sizing.packets sizing.bytes) port

end Source

section Waiting
variable {smoltcp : Smoltcp} (buffers : PacketBuffers smoltcp)

def KeepsSizes (state : Senders smoltcp) : SendAction smoltcp → Prop
  | .change socket =>
      buffers.slots socket = buffers.slots state.socket ∧ buffers.room socket = buffers.room state.socket
  | _ => True

def Senders.Sized (sizing : Sizing) (state : Senders smoltcp) : Prop :=
  buffers.slots state.socket = sizing.packets ∧ buffers.room state.socket = sizing.bytes

variable {buffers} {sizing : Sizing}

theorem pollSendTo_same (buffers : PacketBuffers smoltcp) (stopped : Bool) (socket : smoltcp.Udp) (data : List UInt8)
    (remote : SocketAddr) :
    buffers.slots (pollSendTo stopped socket data remote).2 = buffers.slots socket ∧
      buffers.room (pollSendTo stopped socket data remote).2 = buffers.room socket := by
  unfold pollSendTo
  split
  · exact ⟨rfl, rfl⟩
  · split
    · next sent => exact buffers.send_same _ _ _ _ sent
    · exact ⟨rfl, rfl⟩
    · exact ⟨rfl, rfl⟩

theorem step_sized (state : Senders smoltcp) (action : SendAction smoltcp) (next : Senders smoltcp)
    (sized : state.Sized buffers sizing) (allowed : KeepsSizes buffers state action)
    (taken : state.step action = .next next) : next.Sized buffers sizing := by
  cases action with
  | send data remote =>
    cases taken
    exact sized
  | lock index =>
    simp only [Senders.step] at taken
    split at taken
    · obtain ⟨-, moved⟩ := Outcome.guarded_eq_next.mp taken
      cases moved
      exact sized
    · cases taken
  | poll index =>
    simp only [Senders.step] at taken
    split at taken
    · next sender found =>
      obtain ⟨-, moved⟩ := Outcome.guarded_eq_next.mp taken
      cases moved
      obtain ⟨slots, room⟩ := pollSendTo_same buffers state.stopped state.socket sender.data sender.remote
      exact ⟨slots.trans sized.1, room.trans sized.2⟩
    · cases taken
  | drop index =>
    simp only [Senders.step] at taken
    split at taken
    · cases taken
      exact sized
    · cases taken
  | change socket =>
    cases taken
    exact ⟨allowed.1.trans sized.1, allowed.2.trans sized.2⟩
  | stop =>
    cases taken
    exact sized

theorem packets_pos (sizing : Sizing) : 0 < sizing.packets := by
  cases sizing with
  | plain => exact Nat.succ_pos _
  | transport mtu => exact Nat.succ_pos _

theorem pollSendTo_pending {state : Senders smoltcp} (sized : state.Sized buffers sizing)
    (running : state.stopped = false) (empty : buffers.queued state.socket = 0) (data : List UInt8)
    (remote : SocketAddr) :
    (pollSendTo state.stopped state.socket data remote).1 = .pending ↔
      sizing.bytes < data.length ∧ buffers.addressable state.socket remote = true := by
  have pending : (pollSendTo state.stopped state.socket data remote).1 = .pending ↔
      smoltcp.udpSend state.socket data remote = .error .bufferFull := by
    rw [pollSendTo, running, if_neg Bool.false_ne_true]
    split
    · next sent => simp [sent]
    · next full => simp [full]
    · next refused => simp [refused]
  rw [pending, ← sized.2]
  constructor
  · intro full
    constructor
    · by_contra fits
      exact buffers.send_empty _ _ _ empty (sized.1 ▸ packets_pos sizing) (Nat.le_of_not_lt fits) full
    · by_contra refused
      rw [buffers.send_unaddressable _ _ _ (Bool.eq_false_of_not_eq_true refused)] at full
      cases full
  · rintro ⟨oversized, addressable⟩
    exact buffers.send_oversized _ _ _ addressable oversized

/-- Whatever the senders and the stack did before, a poll of `send_to` on an empty buffer of a running
stack ends the send exactly if the payload fits the buffer or smoltcp refuses the destination. -/
theorem send_waits_for_queued (smoltcp : Smoltcp) (buffers : PacketBuffers smoltcp) (sizing : Sizing)
    (port : UInt16) (socket : smoltcp.Udp) (bound : boundSocket sizing port = .ok socket)
    (actions : List (SendAction smoltcp)) (state : Senders smoltcp)
    (run : RunWhile Senders.step (KeepsSizes buffers) ⟨socket, false, []⟩ actions state)
    (running : state.stopped = false) (empty : buffers.queued state.socket = 0)
    (index : Nat) (sender : Sender) (found : state.senders[index]? = some sender) (next : Senders smoltcp)
    (polled : state.step (.poll index) = .next next) :
    (∃ result, next.senders[index]? = some { sender with phase := .ended result }) ↔
      sender.data.length ≤ sizing.bytes ∨ buffers.addressable state.socket sender.remote = false := by
  have begins : Senders.Sized buffers sizing ⟨socket, false, []⟩ := by
    obtain ⟨slots, room⟩ := buffers.bind_same _ _ _ bound
    exact ⟨slots.trans (buffers.slots_new _ _), room.trans (buffers.room_new _ _)⟩
  have sized := RunWhile.preserves step_sized run begins
  simp only [Senders.step, found] at polled
  obtain ⟨-, moved⟩ := Outcome.guarded_eq_next.mp polled
  cases moved
  have waits := pollSendTo_pending sized running empty sender.data sender.remote
  simp only [Senders.become, getElem?_set_found found]
  cases result : (pollSendTo state.stopped state.socket sender.data sender.remote).1 with
  | pending =>
    obtain ⟨oversized, addressable⟩ := waits.mp result
    simp [SendPhase.polled, addressable, oversized]
  | _ =>
    have ended : ¬ (sizing.bytes < sender.data.length ∧ buffers.addressable state.socket sender.remote = true) := by
      rw [← waits, result]
      exact nofun
    refine ⟨fun _ => ?_, fun _ => ⟨_, rfl⟩⟩
    rw [not_and_or, Nat.not_lt, Bool.not_eq_true] at ended
    exact ended

/-- Any payload a UDP datagram can have fits the buffers of every socket the stack binds: its MTU
is never below the least a carried tunnel is left with. -/
theorem datagram_fits {length : Nat} (datagram : length < 2 ^ 16) :
    length ≤ Sizing.plain.bytes ∧ ∀ mtu, minCarriedMtu ≤ mtu → length ≤ (Sizing.transport mtu).bytes := by
  refine ⟨Nat.le_of_lt datagram, fun mtu least => ?_⟩
  have floor : 576 ≤ mtu.toNat := least
  simp only [Sizing.bytes, packetQueueDepth]
  omega

end Waiting

section Bounded

structure BoundedUdp where
  slots : Nat
  bytes : Nat
  port : UInt16
  queue : List (List UInt8 × SocketAddr)
  deriving DecidableEq, Repr

def BoundedUdp.used (socket : BoundedUdp) : Nat := (socket.queue.map fun datagram => datagram.1.length).sum

def BoundedUdp.addressable (socket : BoundedUdp) (remote : SocketAddr) : Bool :=
  socket.port != 0 && remote.port != 0

def BoundedUdp.send (socket : BoundedUdp) (data : List UInt8) (remote : SocketAddr) :
    Except UdpSendError BoundedUdp :=
  if !socket.addressable remote then .error .unaddressable
  else if socket.queue.length < socket.slots ∧ data.length ≤ socket.bytes - socket.used then
    .ok { socket with queue := socket.queue ++ [(data, remote)] }
  else .error .bufferFull

def Smoltcp.bounded : Smoltcp :=
  { Smoltcp.reference with
    Udp := BoundedUdp
    udpNew := fun packets bytes => ⟨packets, bytes, 0, []⟩
    udpBind := fun socket port => if port = 0 then .error "Unaddressable" else .ok { socket with port }
    udpSend := BoundedUdp.send
    udpRecv := fun _ _ => .error .exhausted
    udpClose := fun socket => { socket with port := 0, queue := [] } }

theorem BoundedUdp.send_same {socket next : BoundedUdp} {data : List UInt8} {remote : SocketAddr}
    (sent : socket.send data remote = .ok next) : next.slots = socket.slots ∧ next.bytes = socket.bytes := by
  unfold BoundedUdp.send at sent
  split at sent
  · cases sent
  · split at sent
    · cases sent
      exact ⟨rfl, rfl⟩
    · cases sent

theorem BoundedUdp.send_empty {socket : BoundedUdp} {data : List UInt8} {remote : SocketAddr}
    (empty : socket.queue.length = 0) (slots : 0 < socket.slots) (fits : data.length ≤ socket.bytes) :
    socket.send data remote ≠ .error .bufferFull := by
  have nothing : socket.used = 0 := by simp [BoundedUdp.used, List.length_eq_zero_iff.mp empty]
  unfold BoundedUdp.send
  split
  · simp
  · rw [if_pos ⟨by omega, by omega⟩]
    simp

theorem BoundedUdp.send_oversized {socket : BoundedUdp} {data : List UInt8} {remote : SocketAddr}
    (addressable : socket.addressable remote = true) (oversized : socket.bytes < data.length) :
    socket.send data remote = .error .bufferFull := by
  unfold BoundedUdp.send
  rw [if_neg (by simp [addressable]), if_neg (by omega)]

def boundedBuffers : PacketBuffers Smoltcp.bounded where
  queued := fun socket => socket.queue.length
  slots := BoundedUdp.slots
  room := BoundedUdp.bytes
  addressable := BoundedUdp.addressable
  slots_new _ _ := rfl
  room_new _ _ := rfl
  bind_same socket port next bound := by
    simp only [Smoltcp.bounded] at bound
    split at bound
    · cases bound
    · cases bound
      exact ⟨rfl, rfl⟩
  send_same _ _ _ _ sent := BoundedUdp.send_same sent
  send_empty _ _ _ empty slots fits := BoundedUdp.send_empty empty slots fits
  send_unaddressable _ _ _ refused := if_pos (by rw [refused]; rfl)
  send_oversized _ _ _ addressable oversized := BoundedUdp.send_oversized addressable oversized

/-- A socket of `bind_udp` on port 4000. -/
def plainSocket : BoundedUdp := ⟨udpPackets, udpBufferBytes, 4000, []⟩

theorem plainSocket_bound : @boundSocket Smoltcp.bounded .plain 4000 = .ok plainSocket := rfl

def somewhere : SocketAddr := ⟨[10, 6, 0, 1], 53⟩

theorem send_waits_for_queued_one :
    ∃ state next : Senders Smoltcp.bounded, state.step (.poll 0) = .next next ∧ boundedBuffers.queued state.socket = 0 ∧
      ∃ result, next.senders[0]? = some ⟨[7], somewhere, .ended result⟩ := by
  have run : RunWhile Senders.step (KeepsSizes boundedBuffers) ⟨plainSocket, false, []⟩
      [.send [7] somewhere, .lock 0] ⟨plainSocket, false, [⟨[7], somewhere, .sending⟩]⟩ :=
    .next trivial rfl (.next trivial rfl .done)
  have polled : Senders.step (⟨plainSocket, false, [⟨[7], somewhere, .sending⟩]⟩ : Senders Smoltcp.bounded) (.poll 0) =
      .next ⟨{ plainSocket with queue := [([7], somewhere)] }, false, [⟨[7], somewhere, .ended (.ready ())⟩]⟩ := rfl
  have settled := send_waits_for_queued _ boundedBuffers .plain 4000 plainSocket plainSocket_bound _ _ run rfl rfl 0
    ⟨[7], somewhere, .sending⟩ rfl _ polled
  exact ⟨_, _, polled, rfl, settled.mpr (.inl (by decide))⟩

end Bounded

section Wedged

/-- Only the stop, a rebinding and the loss of the first sender's task are ruled out. -/
def Undisturbed (state : Senders Smoltcp.bounded) : SendAction Smoltcp.bounded → Prop
  | .change socket => socket.bytes = state.socket.bytes ∧ socket.port = state.socket.port
  | .drop index => index ≠ 0
  | .stop => False
  | _ => True

/-- The first sender holds the lock with a payload that never fits, and no other gets on. -/
structure Senders.Wedged (first : Sender) (state : Senders Smoltcp.bounded) : Prop where
  running : state.stopped = false
  bound : state.socket.port ≠ 0
  addressed : first.remote.port ≠ 0
  oversized : state.socket.bytes < first.data.length
  sending : state.senders[0]? = some { first with phase := .sending }
  others : ∀ index sender, state.senders[index]? = some sender → index ≠ 0 →
    sender.phase = .locking ∨ sender.phase = .dropped

variable {first : Sender} {state : Senders Smoltcp.bounded}

theorem Senders.Wedged.pending (wedged : state.Wedged first) :
    pollSendTo state.stopped state.socket first.data first.remote = (.pending, state.socket) := by
  have full : Smoltcp.bounded.udpSend state.socket first.data first.remote = .error .bufferFull :=
    BoundedUdp.send_oversized (by simp [BoundedUdp.addressable, wedged.bound, wedged.addressed]) wedged.oversized
  simp [pollSendTo, wedged.running, full]

theorem Senders.Wedged.locked (wedged : state.Wedged first) :
    LockFree Sender.holdsLock state.senders = false := by
  rw [Bool.eq_false_iff]
  intro free
  have outside := not_holds_of_lockFree free (List.mem_of_getElem? wedged.sending)
  cases outside

theorem step_wedged (first : Sender) (state : Senders Smoltcp.bounded) (action : SendAction Smoltcp.bounded)
    (next : Senders Smoltcp.bounded) (wedged : state.Wedged first) (allowed : Undisturbed state action)
    (taken : state.step action = .next next) : next.Wedged first := by
  cases action with
  | send data remote =>
    cases taken
    refine { wedged with sending := ?_, others := ?_ }
    · exact (List.getElem?_append_left (List.getElem?_eq_some_iff.mp wedged.sending).1).trans wedged.sending
    · intro index sender found elsewhere
      rcases mem_concat_cases found with ⟨-, rfl⟩ | before
      · exact .inl rfl
      · exact wedged.others index sender before elsewhere
  | lock index =>
    simp only [Senders.step, wedged.locked, Bool.and_false] at taken
    split at taken
    · cases taken
    · cases taken
  | poll index =>
    simp only [Senders.step] at taken
    split at taken
    · next sender found =>
      obtain ⟨inside, moved⟩ := Outcome.guarded_eq_next.mp taken
      have here : index = 0 := by
        by_contra elsewhere
        rcases wedged.others index sender found elsewhere with outside | outside
        · simp [Sender.holdsLock, outside] at inside
        · simp [Sender.holdsLock, outside] at inside
      subst here
      cases Option.some.inj (found.symm.trans wedged.sending)
      rw [wedged.pending] at moved
      cases moved
      refine { wedged with sending := getElem?_set_found found, others := ?_ }
      intro index sender there elsewhere
      rcases mem_set_cases there with ⟨same, -⟩ | ⟨-, before⟩
      · exact absurd same elsewhere
      · exact wedged.others index sender before elsewhere
    · cases taken
  | drop index =>
    simp only [Senders.step] at taken
    split at taken
    · next sender found =>
      cases taken
      refine { wedged with sending := ?_, others := ?_ }
      · exact (List.getElem?_set_ne allowed).trans wedged.sending
      · intro other sender there elsewhere
        rcases mem_set_cases there with ⟨-, rfl⟩ | ⟨-, before⟩
        · exact .inr rfl
        · exact wedged.others other sender before elsewhere
    · cases taken
  | change socket =>
    cases taken
    exact { wedged with bound := allowed.2 ▸ wedged.bound, oversized := allowed.1 ▸ wedged.oversized }
  | stop => exact allowed.elim

def blocked (data : List UInt8) : Senders Smoltcp.bounded :=
  ⟨plainSocket, false, [⟨data, somewhere, .sending⟩, ⟨[7], somewhere, .locking⟩]⟩

theorem wedged_of_oversized {data : List UInt8} (oversized : udpBufferBytes < data.length) :
    Senders.Wedged ⟨data, somewhere, .sending⟩ ⟨plainSocket, false, [⟨data, somewhere, .sending⟩]⟩ := by
  have bound : plainSocket.port ≠ 0 := by decide
  have addressed : somewhere.port ≠ 0 := by decide
  refine ⟨rfl, bound, addressed, oversized, rfl, ?_⟩
  intro index sender found elsewhere
  cases index with
  | zero => exact absurd rfl elsewhere
  | succ index => cases found

theorem oversized_runs {data : List UInt8} (oversized : udpBufferBytes < data.length) :
    Run Senders.step ⟨plainSocket, false, []⟩
      [.send data somewhere, .lock 0, .poll 0, .send [7] somewhere] (blocked data) := by
  have polled : Senders.step (⟨plainSocket, false, [⟨data, somewhere, .sending⟩]⟩ : Senders Smoltcp.bounded)
      (.poll 0) = .next ⟨plainSocket, false, [⟨data, somewhere, .sending⟩]⟩ := by
    have pending := (wedged_of_oversized oversized).pending
    dsimp only at pending
    simp [Senders.step, pending, Sender.holdsLock, SendPhase.polled, Senders.become, Outcome.guarded]
  exact .next trivial rfl (.next trivial rfl (.next trivial polled (.next trivial rfl .done)))

theorem blocked_stays {data : List UInt8} (oversized : udpBufferBytes < data.length)
    {actions : List (SendAction Smoltcp.bounded)} {final : Senders Smoltcp.bounded}
    (run : RunWhile Senders.step Undisturbed (blocked data) actions final) :
    final.Wedged ⟨data, somewhere, .sending⟩ := by
  have onward := step_wedged _ _ (.send [7] somewhere) _ (wedged_of_oversized oversized) trivial rfl
  exact RunWhile.preserves (step_wedged _) run onward

/-- A payload one byte longer than the buffer of `bind_udp`. -/
def oversizedData : List UInt8 := List.replicate (udpBufferBytes + 1) 0

theorem oversizedData_long : udpBufferBytes < oversizedData.length := by
  simp [oversizedData]

/-- It is polled with the buffer empty and the stack running, and is pending. Whatever happens
from then on, short of a stop or a drop of its task, it stays pending and no other send ends. -/
theorem oversized_send_blocks_the_socket :
    ∃ state : Senders Smoltcp.bounded,
      Run Senders.step ⟨plainSocket, false, []⟩
        [.send oversizedData somewhere, .lock 0, .poll 0, .send [7] somewhere] state ∧
      boundedBuffers.queued state.socket = 0 ∧ state.stopped = false ∧
      ∀ actions final, RunWhile Senders.step Undisturbed state actions final →
        final.senders[0]? = some ⟨oversizedData, somewhere, .sending⟩ ∧
          ∀ index sender, final.senders[index]? = some sender → index ≠ 0 →
            sender.phase = .locking ∨ sender.phase = .dropped := by
  refine ⟨blocked oversizedData, oversized_runs oversizedData_long, rfl, rfl, ?_⟩
  intro actions final later
  have wedged := blocked_stays oversizedData_long later
  exact ⟨wedged.sending, wedged.others⟩

end Wedged

end ProxyTunnels.Wireguard
