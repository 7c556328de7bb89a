import ProxyTunnels.Error
import ProxyTunnels.Machine.History
import ProxyTunnels.Machine.Table

/-! Trust on first use: the host-key state one SSH provider shares with its handlers.

Every connection of a provider has a handler whose only job is host-key policy,
and all handlers share one `HostKeyState` with the connect path. The key-exchange
callback, authentication, authorization by the observer and the pin report are
separate steps here, because other connections and rekeys run between them. The
order in which the provider opens and replaces sessions is not used: any number of
connection attempts may overlap.
-/

set_option autoImplicit false

namespace ProxyTunnels.Ssh
open Machine

structure HostKeyState where
  fingerprint : Option String
  newlyPinned : Bool
  reported : Bool
  deriving DecidableEq, Repr

def HostKeyState.default : HostKeyState := ⟨none, false, false⟩

/-- The parts of `TunnelSpec` the host-key path reads. -/
structure Spec where
  host : String
  port : UInt16
  pinnedHostKey : Option String
  deriving DecidableEq, Repr

/-- `SshClientHandler::check_server_key`, on the fingerprint of the presented key.
The configured pin wins; failing that, the learned fingerprint is the pin. -/
def checkServerKey (spec : Spec) (state : HostKeyState) (actual : String) :
    HostKeyState × Except TunnelError Bool :=
  match spec.pinnedHostKey.or state.fingerprint with
  | some expected =>
      if expected ≠ actual then
        (state, .error (.hostKeyMismatch spec.host spec.port expected actual))
      else
        ({ state with
            fingerprint := some actual
            newlyPinned := if spec.pinnedHostKey.isSome then false else state.newlyPinned },
          .ok true)
  | none => ({ state with fingerprint := some actual, newlyPinned := true }, .ok true)

/-- The locked half of `authorize_host_key`: which fingerprint the observer is asked about. -/
def fingerprintToAuthorize (state : HostKeyState) : Except TunnelError String :=
  match state.fingerprint with
  | some fingerprint => .ok fingerprint
  | none => .error (.engine "SSH server has no verified host key")

/-- The block of `connect` that decides whether to report a pin, under one lock. -/
def takePin (state : HostKeyState) : HostKeyState × Option String :=
  ({ state with reported := true },
    if state.newlyPinned && !state.reported then state.fingerprint else none)

/-- How far one connection has come through `connect`. A live connection is the
session handle `connect` returned; it can still rekey. -/
inductive Phase where
  | handshaking
  | keyed
  | authenticated
  | authorizing (fingerprint : String)
  | authorized
  | reporting (fingerprint : String)
  | live
  | dead
  deriving DecidableEq, Repr

/-- One `open_channel` call: the observer's answer is awaited, then the server's. -/
inductive ChannelPhase where
  | authorizing (fingerprint : String)
  | opening
  | finished
  deriving DecidableEq, Repr

structure Channel where
  connection : Nat
  phase : ChannelPhase
  deriving DecidableEq, Repr

inductive Verdict where
  | accepted
  | rejected (expected : String)
  deriving DecidableEq, Repr

inductive Event where
  | checked (connection : Nat) (fingerprint : String) (verdict : Verdict)
  | authenticated (connection : Nat)
  | authorizedConnection (connection : Nat) (fingerprint : String) (granted : Bool)
  | authorizedChannel (channel : Nat) (fingerprint : String) (granted : Bool)
  | hostKeyPinned (connection : Nat) (fingerprint : String)
  | channelOpened (channel : Nat)
  deriving DecidableEq, Repr

structure Provider where
  spec : Spec
  hostKey : HostKeyState
  connections : List Phase
  channels : List Channel
  log : List Event

/-- `SshTunnelProvider::new`: no session, nothing learned. -/
def Provider.new (spec : Spec) : Provider := ⟨spec, .default, [], [], []⟩

def Provider.setPhase (provider : Provider) (connection : Nat) (phase : Phase) : Provider :=
  { provider with connections := provider.connections.set connection phase }

def Provider.record (provider : Provider) (event : Event) : Provider :=
  { provider with log := provider.log ++ [event] }

inductive Action (Key : Type) where
  | attempt
  | present (connection : Nat) (key : Key)
  | abandon (connection : Nat)
  | authenticate (connection : Nat) (success : Bool)
  | askObserver (connection : Nat)
  | observerAnswers (connection : Nat) (granted : Bool)
  | takePin (connection : Nat)
  | reportPin (connection : Nat)
  | openChannel (connection : Nat)
  | observerAnswersChannel (channel : Nat) (granted : Bool)
  | channelAnswered (channel : Nat) (opened : Bool)

variable {Key : Type} (hostKeyFingerprint : Key → String)

/-- The phases in which russh may call `check_server_key`: the first key exchange,
and a rekey at any time after it. -/
def Phase.exchangesKeys : Phase → Bool
  | .dead => false
  | _ => true

/-- One key exchange on `connection`. A rejected key ends the connection. -/
def Provider.present (provider : Provider) (connection : Nat) (phase : Phase) (actual : String) :
    Provider :=
  match checkServerKey provider.spec provider.hostKey actual with
  | (_, .error (.hostKeyMismatch _ _ expected _)) =>
      (provider.setPhase connection .dead).record
        (.checked connection actual (.rejected expected))
  | (_, .error _) => provider.setPhase connection .dead
  | (hostKey, .ok _) =>
      ({ provider with hostKey }.setPhase connection
        (if phase = Phase.handshaking then Phase.keyed else phase)).record
          (.checked connection actual .accepted)

def step (provider : Provider) : Action Key → Outcome Provider
  | .attempt => .next { provider with connections := provider.connections ++ [.handshaking] }
  | .present connection key =>
      match provider.connections[connection]? with
      | some phase => .guarded phase.exchangesKeys
          (.next (provider.present connection phase (hostKeyFingerprint key)))
      | none => .blocked
  | .abandon connection =>
      match provider.connections[connection]? with
      | some _ => .next (provider.setPhase connection .dead)
      | none => .blocked
  | .authenticate connection success =>
      match provider.connections[connection]? with
      | some .keyed =>
          if success then
            .next ((provider.setPhase connection .authenticated).record (.authenticated connection))
          else .next (provider.setPhase connection .dead)
      | _ => .blocked
  | .askObserver connection =>
      match provider.connections[connection]? with
      | some .authenticated =>
          match fingerprintToAuthorize provider.hostKey with
          | .ok fingerprint => .next (provider.setPhase connection (.authorizing fingerprint))
          | .error _ => .next (provider.setPhase connection .dead)
      | _ => .blocked
  | .observerAnswers connection granted =>
      match provider.connections[connection]? with
      | some (.authorizing fingerprint) =>
          .next ((provider.setPhase connection (if granted then .authorized else .dead)).record
            (.authorizedConnection connection fingerprint granted))
      | _ => .blocked
  | .takePin connection =>
      match provider.connections[connection]? with
      | some .authorized =>
          match Ssh.takePin provider.hostKey with
          | (hostKey, some fingerprint) =>
              .next ({ provider with hostKey }.setPhase connection (.reporting fingerprint))
          | (hostKey, none) => .next ({ provider with hostKey }.setPhase connection .live)
      | _ => .blocked
  | .reportPin connection =>
      match provider.connections[connection]? with
      | some (.reporting fingerprint) =>
          .next ((provider.setPhase connection .live).record (.hostKeyPinned connection fingerprint))
      | _ => .blocked
  | .openChannel connection =>
      match provider.connections[connection]? with
      | some .live =>
          match fingerprintToAuthorize provider.hostKey with
          | .ok fingerprint => .next { provider with
              channels := provider.channels ++ [⟨connection, .authorizing fingerprint⟩] }
          | .error _ => .next { provider with
              channels := provider.channels ++ [⟨connection, .finished⟩] }
      | _ => .blocked
  | .observerAnswersChannel channel granted =>
      match provider.channels[channel]? with
      | some ⟨connection, .authorizing fingerprint⟩ =>
          .next ({ provider with
            channels := provider.channels.set channel
              ⟨connection, if granted then .opening else .finished⟩ }.record
                (.authorizedChannel channel fingerprint granted))
      | _ => .blocked
  | .channelAnswered channel opened =>
      match provider.channels[channel]? with
      | some ⟨connection, .opening⟩ =>
          let finished := { provider with
            channels := provider.channels.set channel ⟨connection, .finished⟩ }
          if opened then .next (finished.record (.channelOpened channel)) else .next finished
      | _ => .blocked

end ProxyTunnels.Ssh
