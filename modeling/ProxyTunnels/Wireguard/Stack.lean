import ProxyTunnels.Wireguard.Steps

/-! One tunnel's stack as a machine.

Any actor may take its next step at any time, the pump may poll while it runs, and a stop
may begin whenever the pump is between two polls, so every interleaving of the callers, the
pump and a stop is a run.
-/

set_option autoImplicit false

namespace ProxyTunnels.Wireguard
open Machine

section Machine
variable {smoltcp : Smoltcp}

structure Woken where
  recv : Handle → Bool
  send : Handle → Bool
  query : Bool

def Woken.any (woken : Woken) (handle : Handle) : Bool := woken.recv handle || woken.send handle

def Actor.wake (woken : Woken) : Actor smoltcp → Actor smoltcp
  | .connecting remote (.wait handle asleep) =>
      .connecting remote (.wait handle (asleep && !woken.send handle))
  | .stream peer handle shutDown reading writing =>
      .stream peer handle shutDown (reading && !woken.recv handle) (writing && !woken.send handle)
  | .udp handle localPort sending receiving =>
      .udp handle localPort (sending && !woken.send handle) (receiving && !woken.recv handle)
  | .listener port pool (.polling asleep) =>
      .listener port pool (.polling (asleep && !pool.any woken.any))
  | .resolving host lastError (.wait kinds query asleep) =>
      .resolving host lastError (.wait kinds query (asleep && !woken.query))
  | actor => actor

/-- `notify_waiters` reaches every waiter that is registered. -/
def Actor.notify : Actor smoltcp → Actor smoltcp
  | .waitStopped (.check _) => .waitStopped (.check true)
  | .waitStopped .asleep => .waitStopped .register
  | actor => actor

inductive Actor.Stirs : Actor smoltcp → Actor smoltcp → Prop where
  | dial {remote : SocketAddr} {handle : Handle} {asleep later : Bool} :
      Stirs (.connecting remote (.wait handle asleep)) (.connecting remote (.wait handle later))
  | stream {peer : SocketAddr} {handle : Handle} {shutDown reading writing reading' writing' : Bool} :
      Stirs (.stream peer handle shutDown reading writing) (.stream peer handle shutDown reading' writing')
  | udp {handle : Handle} {port : UInt16} {sending receiving sending' receiving' : Bool} :
      Stirs (.udp handle port sending receiving) (.udp handle port sending' receiving')
  | accept {port : UInt16} {pool : List Handle} {asleep later : Bool} :
      Stirs (.listener port pool (.polling asleep)) (.listener port pool (.polling later))
  | query {host : String} {lastError : Option TunnelError} {kinds : List DnsQueryType} {query : smoltcp.Query}
      {asleep later : Bool} :
      Stirs (.resolving host lastError (.wait kinds query asleep)) (.resolving host lastError (.wait kinds query later))
  | waitStopped {point later : WaitStopped} : Stirs (.waitStopped point) (.waitStopped later)
  | same {actor : Actor smoltcp} : Stirs actor actor

theorem Actor.wake_stirs (woken : Woken) (actor : Actor smoltcp) : actor.Stirs (actor.wake woken) := by
  unfold Actor.wake
  split
  · exact .dial
  · exact .stream
  · exact .udp
  · exact .accept
  · exact .query
  · exact .same

theorem Actor.notify_stirs (actor : Actor smoltcp) : actor.Stirs actor.notify := by
  unfold Actor.notify
  split
  · exact .waitStopped
  · exact .waitStopped
  · exact .same

theorem Actor.notify_keeps {holds : Actor smoltcp → Prop} (waiters : ∀ point, holds (.waitStopped point))
    {actor : Actor smoltcp} (before : holds actor) : holds actor.notify := by
  unfold Actor.notify
  split
  · exact waiters _
  · exact waiters _
  · exact before

/-- The pump, and `stop` at its end: the flag, the locked section, the notification. -/
inductive PumpPhase where
  | running
  | flagged
  | shut
  | finished
  deriving DecidableEq, Repr

structure Stack (smoltcp : Smoltcp) where
  shared : Shared smoltcp
  pump : PumpPhase
  actors : List (Actor smoltcp)

/-- The calls the stack offers; `first` is the random start of the search for a free port. -/
inductive StackCall where
  | connect (remote : SocketAddr)
  | bindUdp (port : UInt16) (packets bytes : Nat)
  | listen (port : UInt16) (backlog first : Nat)
  | resolve (host : String)
  | waitStopped
  deriving DecidableEq, Repr

def StackConfig.queryTypes (config : StackConfig) : List DnsQueryType :=
  (if config.hasIpv4 then [.a] else []) ++ (if config.hasIpv6 then [.aaaa] else [])

def StackCall.actor (shared : Shared smoltcp) : StackCall → Actor smoltcp
  | .connect remote => .connecting remote (.claim .load)
  | .bindUdp port packets bytes => .binding port packets bytes .check
  | .listen port backlog first => .listening backlog (if port = 0 then .search first 0 else .explicit port)
  | .resolve host =>
      if shared.inner.dns.isNone then
        .ended (some (.configuration ("the tunnel has no DNS server configured, so names cannot be resolved " ++
          "on the far side; add the `DNS` line from the WireGuard configuration, or address the " ++
          "destination by IP")))
      else .resolving host none (.next shared.config.queryTypes)
  | .waitStopped => .waitStopped .register

inductive Action (smoltcp : Smoltcp) where
  | call (call : StackCall)
  | act (index : Nat) (input : Input)
  | elapse (micros : Nat)
  | poll (effect : PollEffect smoltcp) (woken : Woken)
  | stop

/-- The sockets that `stop` shuts wake both their wakers; the resolver is left alone. -/
def Inner.shutWoken (inner : Inner smoltcp) : Woken :=
  let shut := fun handle => inner.kindAt handle = some .tcp || inner.kindAt handle = some .udp
  ⟨shut, shut, false⟩

def Stack.step (stack : Stack smoltcp) : Action smoltcp → Outcome (Stack smoltcp)
  | .call call => .next { stack with actors := stack.actors ++ [call.actor stack.shared] }
  | .act index input =>
      match stack.actors[index]? with
      | none => .blocked
      | some actor =>
          (stack.shared.stepActor actor input).bind fun effect =>
            .next { stack with
              shared := effect.shared
              actors := stack.actors.set index effect.actor ++ effect.spawned }
  | .elapse micros =>
      let inner := { stack.shared.inner with now := stack.shared.inner.now + micros }
      .next { stack with shared := stack.shared.setInner inner }
  | .poll effect woken =>
      .guarded (stack.pump = .running)
        ((reclaimFinished false (stack.shared.inner.interfacePoll effect, stack.shared.slots)).bind
          fun (inner, slots) =>
            .next { stack with
              shared := { stack.shared with inner, slots }
              actors := stack.actors.map (Actor.wake woken) })
  | .stop =>
      match stack.pump with
      | .running => .next { stack with shared := { stack.shared with stopped := true }, pump := .flagged }
      | .flagged =>
          .next { stack with
            shared := stack.shared.setInner stack.shared.inner.shutAll
            pump := .shut
            actors := stack.actors.map (Actor.wake stack.shared.inner.shutWoken) }
      | .shut => .next { stack with pump := .finished, actors := stack.actors.map Actor.notify }
      | .finished => .blocked

inductive Stack.Moves (stack : Stack smoltcp) : Action smoltcp → Stack smoltcp → Prop where
  | call (call : StackCall) :
      Moves stack (.call call) { stack with actors := stack.actors ++ [call.actor stack.shared] }
  | act {index : Nat} {input : Input} {actor : Actor smoltcp} {effect : Effect smoltcp} :
      stack.actors[index]? = some actor → stack.shared.stepActor actor input = .next effect →
      Moves stack (.act index input)
        { stack with shared := effect.shared, actors := stack.actors.set index effect.actor ++ effect.spawned }
  | elapse (micros : Nat) :
      Moves stack (.elapse micros)
        { stack with
          shared := stack.shared.setInner { stack.shared.inner with now := stack.shared.inner.now + micros } }
  | poll {effect : PollEffect smoltcp} {woken : Woken} {inner : Inner smoltcp} {slots : SocketSlots} :
      stack.pump = .running →
      reclaimFinished false (stack.shared.inner.interfacePoll effect, stack.shared.slots) = .next (inner, slots) →
      Moves stack (.poll effect woken)
        { stack with
          shared := { stack.shared with inner, slots }, actors := stack.actors.map (Actor.wake woken) }
  | flag :
      stack.pump = .running →
      Moves stack .stop { stack with shared := { stack.shared with stopped := true }, pump := .flagged }
  | shut :
      stack.pump = .flagged →
      Moves stack .stop
        { shared := stack.shared.setInner stack.shared.inner.shutAll
          pump := .shut
          actors := stack.actors.map (Actor.wake stack.shared.inner.shutWoken) }
  | notify :
      stack.pump = .shut →
      Moves stack .stop { stack with pump := .finished, actors := stack.actors.map Actor.notify }

theorem Stack.moves_of_step {stack next : Stack smoltcp} {action : Action smoltcp}
    (taken : stack.step action = .next next) : stack.Moves action next := by
  cases action with
  | call call =>
    cases taken
    exact .call call
  | act index input =>
    unfold Stack.step at taken
    dsimp only at taken
    cases found : stack.actors[index]? with
    | none =>
      rw [found] at taken
      cases taken
    | some actor =>
      rw [found] at taken
      obtain ⟨effect, stepped, same⟩ := Outcome.bind_eq_next taken
      cases same
      exact .act found stepped
  | elapse micros =>
    cases taken
    exact .elapse micros
  | poll effect woken =>
    obtain ⟨running, taken⟩ := Outcome.guarded_eq_next.mp taken
    obtain ⟨⟨inner, slots⟩, reclaimed, same⟩ := Outcome.bind_eq_next taken
    cases same
    exact .poll (of_decide_eq_true running) reclaimed
  | stop =>
    unfold Stack.step at taken
    dsimp only at taken
    split at taken
    · next running =>
      cases taken
      exact .flag running
    · next flagged =>
      cases taken
      exact .shut flagged
    · next shut =>
      cases taken
      exact .notify shut
    · cases taken

/-- `WgStack::start`: the resolver's socket, if one is configured, is the only one. -/
def Stack.start (config : StackConfig) (iface : smoltcp.Iface) (resolver : Bool) (seed tcpBufferBytes : Nat) :
    Stack smoltcp where
  shared :=
    { inner :=
        { iface
          sockets := if resolver then [some (.dns (smoltcp.dnsNew 8))] else []
          dns := if resolver then some 0 else none
          now := 0
          nextPort := ephemeralFirst + UInt16.ofNat (seed % ephemeralSpan)
          closing := []
          tcpBufferBytes }
      slots := ⟨0, false⟩
      dnsPermits := 8
      stopped := false
      config }
  pump := .running
  actors := []

def Stack.Initial (stack : Stack smoltcp) : Prop :=
  ∃ config iface resolver seed bytes, stack = .start config iface resolver seed bytes

end Machine

end ProxyTunnels.Wireguard
