import ProxyTunnels.Machine.Run

/-! The link between a tunnel's smoltcp interface and its WireGuard device.

Inbound packets wait in a queue that drops its oldest packet when it is full. Outbound
packets go into a bounded channel the device drains; the interface asks for a token before
it composes one. A token from `transmit` is refused while the channel is full, one that
comes with a received packet is not, so only the first kind promises that there is room.
-/

set_option autoImplicit false

namespace ProxyTunnels.Wireguard
open Machine

def packetQueueDepth : Nat := 512

section Phy
variable {Ip : Type}

structure Outbound (Ip : Type) where
  queued : List Ip
  closed : Bool

/-- `Sender::capacity`; a closed channel still counts its free places. -/
def Outbound.capacity (channel : Outbound Ip) : Nat := packetQueueDepth - channel.queued.length

/-- `Sender::try_send`. -/
def Outbound.trySend (channel : Outbound Ip) (packet : Ip) : Option (Outbound Ip) :=
  if channel.closed then none
  else if channel.capacity = 0 then none
  else some { channel with queued := channel.queued ++ [packet] }

/-- `WgPhy`: the inbound queue, the channel its sender leads to, and the two drop counters. -/
structure WgPhy (Ip : Type) where
  inbound : List Ip
  outbound : Outbound Ip
  dropped : UInt64
  overrun : UInt64

def WgPhy.new (outbound : Outbound Ip) : WgPhy Ip := ⟨[], outbound, 0, 0⟩

def WgPhy.pushInbound (phy : WgPhy Ip) (packet : Ip) : WgPhy Ip :=
  if packetQueueDepth ≤ phy.inbound.length then
    { phy with inbound := phy.inbound.tail ++ [packet], overrun := phy.overrun + 1 }
  else { phy with inbound := phy.inbound ++ [packet] }

/-- `receive`: the packet of the receive token. The transmit token that comes with it is
granted whatever the channel's state. -/
def WgPhy.receive (phy : WgPhy Ip) : Option (Ip × WgPhy Ip) :=
  match phy.inbound with
  | [] => none
  | packet :: rest => some (packet, { phy with inbound := rest })

/-- `transmit`: whether a token is granted. -/
def WgPhy.transmit (phy : WgPhy Ip) : Bool := phy.outbound.capacity ≠ 0

def resized (pooled : List UInt8) (len : Nat) : List UInt8 :=
  if pooled.length < len then pooled ++ List.replicate (len - pooled.length) 0 else pooled.take len

/-- `WgTxToken::consume`; `tryIntoIp` reads the composed bytes as an IP packet. -/
def WgPhy.consume (tryIntoIp : List UInt8 → Option Ip) (phy : WgPhy Ip) (pooled : List UInt8) (len : Nat)
    (compose : List UInt8 → List UInt8) : WgPhy Ip :=
  match tryIntoIp (compose (resized pooled len)) with
  | none => { phy with dropped := phy.dropped + 1 }
  | some packet =>
      match phy.outbound.trySend packet with
      | none => { phy with dropped := phy.dropped + 1 }
      | some outbound => { phy with outbound }

structure TxToken where
  fromTransmit : Bool
  sentSince : Bool
  deriving DecidableEq, Repr

inductive Fate where
  | handedOut
  | overflowed
  deriving DecidableEq, Repr

/-- The link, with the packets pushed so far and those that left the queue, oldest first. A
token borrows the device, so there is at most one. -/
structure Link (Ip : Type) where
  phy : WgPhy Ip
  token : Option TxToken
  pushed : List Ip
  past : List (Fate × Ip)

def Link.new (outbound : Outbound Ip) : Link Ip := ⟨.new outbound, none, [], []⟩

/-- What `receive` handed out. -/
def Link.received (link : Link Ip) : List Ip :=
  (link.past.filter fun left => left.1 = .handedOut).map Prod.snd

def WgPhy.overflow (phy : WgPhy Ip) : List (Fate × Ip) :=
  if packetQueueDepth ≤ phy.inbound.length then (phy.inbound.take 1).map (Fate.overflowed, ·) else []

inductive LinkAction (Ip : Type) where
  | pushInbound (packet : Ip)
  | receive
  | transmit
  | consume (pooled : List UInt8) (len : Nat) (compose : List UInt8 → List UInt8)
  /-- The interface drops its token unused. -/
  | release
  | drain (count : Nat)
  | close
  /-- Another sender of the channel, such as the handshake probe's. -/
  | send (packet : Ip)

def WgPhy.setOutbound (phy : WgPhy Ip) (outbound : Outbound Ip) : WgPhy Ip := { phy with outbound }

def Link.step (tryIntoIp : List UInt8 → Option Ip) (link : Link Ip) : LinkAction Ip → Outcome (Link Ip)
  | .pushInbound packet =>
      .guarded link.token.isNone (.next { link with
        phy := link.phy.pushInbound packet
        pushed := link.pushed ++ [packet]
        past := link.past ++ link.phy.overflow })
  | .receive =>
      .guarded link.token.isNone
        (match link.phy.receive with
        | none => .next link
        | some (packet, phy) => .next { link with
            phy, token := some ⟨false, false⟩, past := link.past ++ [(.handedOut, packet)] })
  | .transmit =>
      .guarded link.token.isNone
        (if link.phy.transmit then .next { link with token := some ⟨true, false⟩ } else .next link)
  | .consume pooled len compose =>
      .guarded link.token.isSome
        (.next { link with phy := link.phy.consume tryIntoIp pooled len compose, token := none })
  | .release => .next { link with token := none }
  | .drain count =>
      let outbound := link.phy.outbound
      .next { link with
        phy := link.phy.setOutbound { outbound with queued := outbound.queued.drop count } }
  | .close => .next { link with phy := link.phy.setOutbound { link.phy.outbound with closed := true } }
  | .send packet =>
      match link.phy.outbound.trySend packet with
      | none => .next link
      | some outbound => .next { link with
          phy := link.phy.setOutbound outbound
          token := link.token.map fun token => { token with sentSince := true } }

end Phy

section Accounting
variable {Ip : Type} {tryIntoIp : List UInt8 → Option Ip}

/-- Every pushed packet is in exactly one place: it left the queue, by being handed out or
by an overflow, or it waits in it. -/
structure Link.Accounted (link : Link Ip) : Prop where
  bounded : link.phy.inbound.length ≤ packetQueueDepth
  pushed : link.pushed = link.past.map Prod.snd ++ link.phy.inbound
  overrun : link.phy.overrun = .ofNat (link.past.countP fun left => left.1 = .overflowed)
  /-- A packet is only dropped with a full queue behind it. -/
  late : ∀ place packet, link.past[place]? = some (.overflowed, packet) →
    place + packetQueueDepth < link.pushed.length
  /-- A token from `transmit` keeps its place until something else is sent. -/
  room : link.token = some ⟨true, false⟩ → link.phy.outbound.capacity ≠ 0

theorem Link.Accounted.outbound {link : Link Ip} (accounted : link.Accounted) {phy : WgPhy Ip}
    {token : Option TxToken} (inbound : phy.inbound = link.phy.inbound) (overrun : phy.overrun = link.phy.overrun)
    (room : token = some ⟨true, false⟩ → phy.outbound.capacity ≠ 0) :
    Link.Accounted { link with phy, token } where
  bounded := by
    rw [inbound]
    exact accounted.bounded
  pushed := by
    rw [inbound]
    exact accounted.pushed
  overrun := overrun.trans accounted.overrun
  late := accounted.late
  room := room

theorem consume_inbound (tryIntoIp : List UInt8 → Option Ip) (phy : WgPhy Ip) (pooled : List UInt8) (len : Nat)
    (compose : List UInt8 → List UInt8) :
    (phy.consume tryIntoIp pooled len compose).inbound = phy.inbound ∧
      (phy.consume tryIntoIp pooled len compose).overrun = phy.overrun := by
  unfold WgPhy.consume
  split
  · exact ⟨rfl, rfl⟩
  · split
    · exact ⟨rfl, rfl⟩
    · exact ⟨rfl, rfl⟩

inductive WgPhy.Pushes (phy : WgPhy Ip) (packet : Ip) : Prop where
  | overflows {oldest : Ip} {rest : List Ip} :
      phy.inbound = oldest :: rest → packetQueueDepth ≤ rest.length + 1 →
      phy.overflow = [(.overflowed, oldest)] →
      phy.pushInbound packet = { phy with inbound := rest ++ [packet], overrun := phy.overrun + 1 } →
      Pushes phy packet
  | grows :
      phy.inbound.length < packetQueueDepth → phy.overflow = [] →
      phy.pushInbound packet = { phy with inbound := phy.inbound ++ [packet] } → Pushes phy packet

theorem WgPhy.pushes (phy : WgPhy Ip) (packet : Ip) : phy.Pushes packet := by
  by_cases full : packetQueueDepth ≤ phy.inbound.length
  · cases shape : phy.inbound with
    | nil =>
      rw [shape] at full
      exact absurd full (Nat.not_succ_le_zero _)
    | cons oldest rest =>
      rw [shape, List.length_cons] at full
      refine .overflows shape full ?_ ?_
      · simp [WgPhy.overflow, shape, full]
      · simp [WgPhy.pushInbound, shape, full]
  · exact .grows (Nat.lt_of_not_le full) (if_neg full) (if_neg full)

theorem Link.Accounted.push {link : Link Ip} (accounted : link.Accounted) (free : link.token = none)
    (packet : Ip) : Link.Accounted { link with
      phy := link.phy.pushInbound packet
      pushed := link.pushed ++ [packet]
      past := link.past ++ link.phy.overflow } := by
  have pushed := accounted.pushed
  have room : link.token = some ⟨true, false⟩ → (link.phy.pushInbound packet).outbound.capacity ≠ 0 := by
    intro held
    rw [free] at held
    cases held
  cases link.phy.pushes packet with
  | @overflows oldest rest shape full overflow next =>
    have bounded := accounted.bounded
    rw [shape, List.length_cons] at bounded
    rw [shape] at pushed
    refine ⟨?_, ?_, ?_, ?_, room⟩
    · rw [next]
      simpa using bounded
    · rw [next, overflow]
      simp [pushed]
    · rw [next, overflow]
      simp [accounted.overrun]
    · intro place dropped found
      rw [overflow] at found
      rw [List.getElem?_append] at found
      simp only [List.length_append, List.length_singleton]
      split at found
      · exact Nat.lt_succ_of_lt (accounted.late place dropped found)
      · next beyond =>
        -- The packet just dropped was the oldest of a full queue.
        have last : place = link.past.length := by
          have := (List.getElem?_eq_some_iff.mp found).1
          simp at this
          omega
        rw [pushed, List.length_append, List.length_map, List.length_cons]
        omega
  | grows short overflow next =>
    rw [overflow]
    refine ⟨?_, ?_, ?_, ?_, room⟩
    · rw [next]
      simp only [List.length_append, List.length_singleton]
      omega
    · rw [next]
      simp [pushed]
    · rw [next]
      simp [accounted.overrun]
    · intro place dropped found
      rw [List.append_nil] at found
      have := accounted.late place dropped found
      simp only [List.length_append, List.length_singleton]
      omega

theorem Link.Accounted.receive {link : Link Ip} (accounted : link.Accounted) {packet : Ip} {phy : WgPhy Ip}
    (taken : link.phy.receive = some (packet, phy)) : Link.Accounted { link with
      phy, token := some ⟨false, false⟩, past := link.past ++ [(.handedOut, packet)] } := by
  have pushed := accounted.pushed
  have bounded := accounted.bounded
  unfold WgPhy.receive at taken
  cases shape : link.phy.inbound with
  | nil =>
    rw [shape] at taken
    cases taken
  | cons head rest =>
    rw [shape] at taken
    cases taken
    rw [shape] at pushed bounded
    refine ⟨?_, ?_, ?_, ?_, ?_⟩
    · exact Nat.le_of_succ_le bounded
    · simp [pushed]
    · simp [accounted.overrun]
    · intro place dropped found
      rw [List.getElem?_append] at found
      split at found
      · exact accounted.late place dropped found
      · have impossible := List.mem_of_getElem? found
        simp at impossible
    · intro held
      cases held

theorem step_accounted (link : Link Ip) (action : LinkAction Ip) (next : Link Ip) (accounted : link.Accounted)
    (taken : link.step tryIntoIp action = .next next) : next.Accounted := by
  cases action with
  | pushInbound packet =>
    obtain ⟨free, moved⟩ := Outcome.guarded_eq_next.mp taken
    cases moved
    exact accounted.push (Option.isNone_iff_eq_none.mp free) packet
  | receive =>
    obtain ⟨-, moved⟩ := Outcome.guarded_eq_next.mp taken
    split at moved
    · cases moved
      exact accounted
    · next packet phy found =>
      cases moved
      exact accounted.receive found
  | transmit =>
    obtain ⟨-, moved⟩ := Outcome.guarded_eq_next.mp taken
    split at moved
    · next granted =>
      cases moved
      exact accounted.outbound rfl rfl fun _ => of_decide_eq_true granted
    · cases moved
      exact accounted
  | consume pooled len compose =>
    obtain ⟨-, moved⟩ := Outcome.guarded_eq_next.mp taken
    cases moved
    obtain ⟨inbound, overrun⟩ := consume_inbound tryIntoIp link.phy pooled len compose
    exact accounted.outbound inbound overrun (by intro held; cases held)
  | release =>
    cases taken
    exact accounted.outbound rfl rfl (by intro held; cases held)
  | drain count =>
    cases taken
    refine accounted.outbound rfl rfl fun held => ?_
    have before := accounted.room held
    simp only [WgPhy.setOutbound, Outbound.capacity, List.length_drop] at before ⊢
    omega
  | close =>
    cases taken
    exact accounted.outbound rfl rfl accounted.room
  | send packet =>
    simp only [Link.step] at taken
    split at taken
    · cases taken
      exact accounted
    · cases taken
      refine accounted.outbound rfl rfl ?_
      intro held
      obtain ⟨token, -, changed⟩ := Option.map_eq_some_iff.mp held
      cases congrArg TxToken.sentSince changed

theorem new_accounted (outbound : Outbound Ip) : (Link.new outbound).Accounted where
  bounded := Nat.zero_le _
  pushed := rfl
  overrun := rfl
  late place packet found := by simp [Link.new] at found
  room held := by cases held

theorem past_length (past : List (Fate × Ip)) :
    past.length = (past.filter fun left => left.1 = .handedOut).length +
      past.countP fun left => left.1 = .overflowed := by
  induction past with
  | nil => rfl
  | cons left rest ih =>
    obtain ⟨fate, packet⟩ := left
    cases fate with
    | handedOut =>
      simp only [List.length_cons, List.filter_cons, List.countP_cons, ih]
      simp
      omega
    | overflowed =>
      simp only [List.length_cons, List.filter_cons, List.countP_cons, ih]
      simp
      omega

theorem consume_sent_or_dropped (tryIntoIp : List UInt8 → Option Ip) (phy : WgPhy Ip) (pooled : List UInt8)
    (len : Nat) (compose : List UInt8 → List UInt8) :
    (∃ packet, tryIntoIp (compose (resized pooled len)) = some packet ∧
      phy.consume tryIntoIp pooled len compose =
        { phy with outbound := { phy.outbound with queued := phy.outbound.queued ++ [packet] } }) ∨
      phy.consume tryIntoIp pooled len compose = { phy with dropped := phy.dropped + 1 } := by
  unfold WgPhy.consume
  split
  · exact .inr rfl
  · next packet parsed =>
    unfold Outbound.trySend
    split
    · exact .inr rfl
    · next outbound sent =>
      split at sent
      · cases sent
      · split at sent
        · cases sent
        · cases sent
          exact .inl ⟨packet, parsed, rfl⟩

theorem trySend_room {channel : Outbound Ip} (isOpen : channel.closed = false) (room : channel.capacity ≠ 0)
    (packet : Ip) :
    channel.trySend packet = some { channel with queued := channel.queued ++ [packet] } := by
  simp [Outbound.trySend, isOpen, room]

/-- Over any run of the link no packet is lost without being counted, and none is handed
out twice or out of order. -/
theorem link_accounting (outbound : Outbound Ip) (actions : List (LinkAction Ip)) (link : Link Ip)
    (run : Run (Link.step tryIntoIp) (.new outbound) actions link) :
    link.phy.inbound.length ≤ packetQueueDepth ∧
      link.pushed = link.past.map Prod.snd ++ link.phy.inbound ∧
      link.received.Sublist link.pushed ∧
      (∀ place packet, link.past[place]? = some (.overflowed, packet) →
        place + packetQueueDepth < link.pushed.length) ∧
      .ofNat link.pushed.length =
        .ofNat link.received.length + link.phy.overrun + UInt64.ofNat link.phy.inbound.length ∧
      (link.pushed.length < UInt64.size →
        link.pushed.length = link.received.length + link.phy.overrun.toNat + link.phy.inbound.length) ∧
      ∀ pooled len compose next, link.step tryIntoIp (.consume pooled len compose) = .next next →
        let composed := tryIntoIp (compose (resized pooled len))
        ((∃ packet, composed = some packet ∧
            next.phy.outbound.queued = link.phy.outbound.queued ++ [packet] ∧
            next.phy.dropped = link.phy.dropped) ∨
          (next.phy.outbound = link.phy.outbound ∧ next.phy.dropped = link.phy.dropped + 1)) ∧
        (link.token = some ⟨true, false⟩ → link.phy.outbound.closed = false → composed.isSome →
          next.phy.dropped = link.phy.dropped) := by
  have accounted := Run.preserves step_accounted run (new_accounted outbound)
  have counted : link.pushed.length = link.received.length +
      (link.past.countP fun left => left.1 = .overflowed) + link.phy.inbound.length := by
    rw [accounted.pushed, List.length_append, List.length_map, past_length, Link.received, List.length_map]
  refine ⟨accounted.bounded, accounted.pushed, ?_, accounted.late, ?_, ?_, ?_⟩
  · rw [accounted.pushed]
    exact (List.filter_sublist.map _).trans (List.sublist_append_left _ _)
  · rw [counted, accounted.overrun, UInt64.ofNat_add, UInt64.ofNat_add]
  · intro short
    rw [accounted.overrun, UInt64.toNat_ofNat_of_lt' (by omega)]
    exact counted
  · intro pooled len compose next taken
    obtain ⟨-, moved⟩ := Outcome.guarded_eq_next.mp taken
    cases moved
    refine ⟨?_, fun held isOpen wellFormed => ?_⟩
    · rcases consume_sent_or_dropped tryIntoIp link.phy pooled len compose with
        ⟨packet, parsed, sent⟩ | dropped
      · refine .inl ⟨packet, parsed, ?_, ?_⟩
        · simp only [sent]
        · simp only [sent]
      · refine .inr ⟨?_, ?_⟩
        · simp only [dropped]
        · simp only [dropped]
    · obtain ⟨packet, parsed⟩ := Option.isSome_iff_exists.mp wellFormed
      simp only [WgPhy.consume, parsed, trySend_room isOpen (accounted.room held)]

theorem link_accounting_answered :
    ∃ link : Link UInt8,
      Run (Link.step List.head?) (.new ⟨[], false⟩)
        [.pushInbound 1, .pushInbound 2, .receive, .consume [] 1 fun _ => [7]] link ∧
      link.phy.outbound.queued = [7] ∧
      link.pushed.length = link.received.length + link.phy.overrun.toNat + link.phy.inbound.length := by
  have run : Run (Link.step List.head?) (.new ⟨[], false⟩)
      [.pushInbound 1, .pushInbound 2, .receive, .consume [] 1 fun _ => [7]]
      (⟨⟨[2], ⟨[7], false⟩, 0, 0⟩, none, [1, 2], [(.handedOut, 1)]⟩ : Link UInt8) := run_of_execute rfl
  exact ⟨_, run, rfl, (link_accounting _ _ _ run).2.2.2.2.2.1 (by decide)⟩

end Accounting

end ProxyTunnels.Wireguard
