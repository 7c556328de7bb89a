import ProxyTunnels.Http3.Authority
import ProxyTunnels.Http3.Sessions
import ProxyTunnels.Socks5.Front
import ProxyTunnels.Ssh.Dial
import ProxyTunnels.Wireguard.DialOn

/-! What the observer of a tunnel hears of the dials its front makes.

The registry gives one observer to the front and, for two of the families, to the provider
as well. The front reports how every dial ended. The SSH provider tells the observer only
about host keys and the HTTP/3 provider has no observer, but the WireGuard provider reports
its dials too.
-/

set_option autoImplicit false

namespace ProxyTunnels.Socks5.Observed
open Machine
open Provider (DialResult)

inductive Report where
  | failed (proxyConfigId message : String)
  | succeeded (proxyConfigId : String)
  deriving DecidableEq, Repr

def reportOf (proxyConfigId : String) : Except TunnelError Unit → Report
  | .ok () => .succeeded proxyConfigId
  | .error error => .failed proxyConfigId error.display

section Ssh

structure SshAwaits where
  session : Except TunnelError Unit
  first : Except TunnelError Unit × Ssh.Dialing.ChannelAnswer
  replaced : Except TunnelError Unit
  again : Except TunnelError Unit × Ssh.Dialing.ChannelAnswer

def openChannel (host : String) (port : UInt16) (awaited : Except TunnelError Unit × Ssh.Dialing.ChannelAnswer) :
    Except Ssh.Dialing.ChannelFailure Unit :=
  match awaited.1 with
  | .error error => .error (.destination error)
  | .ok () => Ssh.Dialing.openedChannel host port awaited.2

/-- `SshTunnelProvider::dial`. -/
def SshAwaits.dial (awaits : SshAwaits) (host : String) (port : UInt16) : Except TunnelError Unit :=
  match awaits.session with
  | .error error => .error error
  | .ok () =>
      match openChannel host port awaits.first with
      | .ok () => .ok ()
      | .error (.destination error) => .error error
      | .error (.session _) =>
          match awaits.replaced with
          | .error error => .error error
          | .ok () =>
              match openChannel host port awaits.again with
              | .ok () => .ok ()
              | .error (.destination error) => .error error
              | .error (.session error) => .error error

end Ssh

section Wireguard

/-- What the awaits of one WireGuard dial come to. Ages are in nanoseconds. -/
structure WireguardAwaits where
  tunnel : Except TunnelError Unit
  first : Except TunnelError (List Wireguard.Target)
  lastHandshakeAge : Option Nat
  replaced : Except TunnelError Unit
  again : Except TunnelError (List Wireguard.Target)

def recentHandshake : Nat := 120 * 10 ^ 9

/-- `DialFailure::into_error`. -/
def intoError : DialResult → Except TunnelError Unit
  | .connected => .ok ()
  | .destination error => .error error
  | .tunnel error => .error error

/-- `outcome` of `WireGuardTunnelProvider::dial`. -/
def WireguardAwaits.outcome (awaits : WireguardAwaits) (host : String) (port : UInt16) : Except TunnelError Unit :=
  match Wireguard.dialOn host port awaits.first with
  | .connected => .ok ()
  | .destination error => .error error
  | .tunnel first =>
      if awaits.lastHandshakeAge.any (· < recentHandshake) then .error first
      else
        match awaits.replaced with
        | .error error => .error error
        | .ok () => intoError (Wireguard.dialOn host port awaits.again)

/-- `WireGuardTunnelProvider::dial`, with its reports. -/
def WireguardAwaits.dial (awaits : WireguardAwaits) (proxyConfigId host : String) (port : UInt16) :
    Except TunnelError Unit × List Report :=
  match awaits.tunnel with
  | .error error => (.error error, [.failed proxyConfigId error.display])
  | .ok () =>
      match awaits.outcome host port with
      | .ok () => (.ok (), [.succeeded proxyConfigId])
      | .error error => (.error error, [.failed proxyConfigId error.display])

end Wireguard

section Http3
open Http3.Sessions (connectError providerStopped)

structure Http3Awaits where
  spec : Http3.Sessions.Http3TunnelSpec
  parse : String → Option String
  stopped : Bool
  stopChanged : Bool
  answer : Option (Except TunnelError Unit)

/-- `Http3TunnelProvider::dial`. -/
def Http3Awaits.dial (awaits : Http3Awaits) (host : String) (port : UInt16) : Except TunnelError Unit :=
  match Http3.Spec.authority awaits.parse host port with
  | .error error => .error error
  | .ok _ =>
      if awaits.stopped then .error (providerStopped awaits.spec)
      else if awaits.stopChanged then .error (providerStopped awaits.spec)
      else awaits.answer.getD (.error (connectError awaits.spec "HTTP/3 dial deadline exceeded"))

end Http3

section Front

inductive Dialling where
  | ssh (awaits : SshAwaits)
  | wireguard (awaits : WireguardAwaits)
  | http3 (awaits : Http3Awaits)

def Dialling.isWireguard : Dialling → Bool
  | .wireguard _ => true
  | _ => false

def Dialling.run (proxyConfigId host : String) (port : UInt16) : Dialling → Except TunnelError Unit × List Report
  | .ssh awaits => (awaits.dial host port, [])
  | .wireguard awaits => awaits.dial proxyConfigId host port
  | .http3 awaits => (awaits.dial host port, [])

variable (front : Front) (provider : String → UInt16 → Dialling)

def served (wire : Wire) : Served :=
  front.handleConnection none
    (fun host port => some ((provider host port).run front.proxyConfigId host port).1) wire

def heard : Call → List Report
  | .dial host port => ((provider host port).run front.proxyConfigId host port).2
  | .tunnelDialFailed proxyConfigId message => [.failed proxyConfigId message]
  | .tunnelDialSucceeded proxyConfigId => [.succeeded proxyConfigId]

def observed (wire : Wire) : List Report := (served front provider wire).calls.flatMap (heard front provider)

end Front

section Reports
variable {front : Front} {provider : String → UInt16 → Dialling} {wire : Wire} {host : String} {port : UInt16}

theorem observed_of_dial (dials : Call.dial host port ∈ (served front provider wire).calls) :
    observed front provider wire = ((provider host port).run front.proxyConfigId host port).2 ++
      [reportOf front.proxyConfigId ((provider host port).run front.proxyConfigId host port).1] := by
  unfold observed
  unfold served Front.handleConnection at dials ⊢
  rcases negotiated : negotiate front.credentials wire with ⟨failure | ⟨asked, askedPort⟩, later⟩
  · rw [negotiated] at dials
    cases dials
  · rw [negotiated] at dials
    rcases result : ((provider asked askedPort).run front.proxyConfigId asked askedPort).1 with error | ⟨⟨⟩⟩
    · simp only [result, Front.dialFailed, List.mem_cons, Call.dial.injEq, reduceCtorEq, List.not_mem_nil,
        or_self, or_false] at dials
      obtain ⟨rfl, rfl⟩ := dials
      simp [result, Front.dialFailed, heard, reportOf]
    · simp only [result, List.mem_cons, Call.dial.injEq, reduceCtorEq, List.not_mem_nil, or_self,
        or_false] at dials
      obtain ⟨rfl, rfl⟩ := dials
      simp [result, heard, reportOf]

theorem WireguardAwaits.dial_reports (awaits : WireguardAwaits) (proxyConfigId host : String) (port : UInt16) :
    (awaits.dial proxyConfigId host port).2 =
      [reportOf proxyConfigId (awaits.dial proxyConfigId host port).1] := by
  unfold WireguardAwaits.dial
  split
  · rfl
  · split <;> rfl

theorem Dialling.run_reports {dialling : Dialling} (other : dialling.isWireguard = false) (proxyConfigId : String) :
    (dialling.run proxyConfigId host port).2 = [] := by
  cases dialling with
  | ssh awaits => rfl
  | wireguard awaits => cases other
  | http3 awaits => rfl

theorem wireguard_observed_twice {awaits : WireguardAwaits} (wireguard : provider host port = .wireguard awaits)
    (dials : Call.dial host port ∈ (served front provider wire).calls) :
    observed front provider wire =
      List.replicate 2 (reportOf front.proxyConfigId (awaits.dial front.proxyConfigId host port).1) := by
  rw [observed_of_dial dials, wireguard]
  simp only [Dialling.run, awaits.dial_reports]
  rfl

/-- A dial that ends before the front's timeout is reported once, as what it was, exactly if the tunnel is
not a WireGuard one. -/
theorem dial_observed_once (front : Front) (provider : String → UInt16 → Dialling) (wire : Wire) (host : String)
    (port : UInt16) (dials : Call.dial host port ∈ (served front provider wire).calls) :
    observed front provider wire =
        [reportOf front.proxyConfigId ((provider host port).run front.proxyConfigId host port).1] ↔
      (provider host port).isWireguard = false := by
  constructor
  · intro once
    cases dialled : provider host port with
    | ssh awaits => rfl
    | wireguard awaits =>
      rw [wireguard_observed_twice dialled dials] at once
      cases congrArg List.length once
    | http3 awaits => rfl
  · intro other
    rw [observed_of_dial dials, Dialling.run_reports other, List.nil_append]

end Reports

section Fixed

def fixedFront : Front := ⟨"proxy-1", ⟨"u", "p", by decide, by decide⟩⟩

def fixedWire : Wire := ⟨[5, 1, 2, 1, 1, 117, 1, 112, 5, 1, 0, 1, 10, 0, 0, 1, 0, 80], [], fun _ => true⟩

def openingSsh : SshAwaits := ⟨.ok (), (.ok (), .opened), .ok (), (.ok (), .opened)⟩

def openingWireguard : WireguardAwaits := ⟨.ok (), .ok [⟨[10, 0, 0, 1], .connected⟩], none, .ok (), .ok []⟩

theorem fixedFront_dials (dialling : Dialling) :
    Call.dial "10.0.0.1" 80 ∈ (served fixedFront (fun _ _ => dialling) fixedWire).calls := by
  have asked : (negotiate fixedFront.credentials fixedWire).1 = .ok ("10.0.0.1", 80) := by decide +kernel
  unfold served Front.handleConnection
  rcases negotiated : negotiate fixedFront.credentials fixedWire with ⟨failure | ⟨host, port⟩, later⟩
  · rw [negotiated] at asked
    cases asked
  · rw [negotiated] at asked
    cases asked
    rcases result : (dialling.run fixedFront.proxyConfigId "10.0.0.1" 80).1 with error | ⟨⟨⟩⟩
    · simp [result, Front.dialFailed]
    · simp [result]

theorem dial_observed_once_ssh :
    observed fixedFront (fun _ _ => .ssh openingSsh) fixedWire = [.succeeded "proxy-1"] :=
  (dial_observed_once _ _ _ _ _ (fixedFront_dials (.ssh openingSsh))).mpr rfl

def unreachableWireguard : WireguardAwaits :=
  ⟨.error (.wireGuardConnect "vpn.test" 51820 "the peer did not answer"), .ok [], none, .ok (), .ok []⟩

/-- A WireGuard dial is reported by the provider and again by the front, whether it succeeds or
fails. -/
theorem wireguard_dial_reported_twice :
    Call.dial "10.0.0.1" 80 ∈ (served fixedFront (fun _ _ => .wireguard openingWireguard) fixedWire).calls ∧
      observed fixedFront (fun _ _ => .wireguard openingWireguard) fixedWire =
        [.succeeded "proxy-1", .succeeded "proxy-1"] ∧
      ∃ message, observed fixedFront (fun _ _ => .wireguard unreachableWireguard) fixedWire =
        [.failed "proxy-1" message, .failed "proxy-1" message] :=
  ⟨fixedFront_dials _, wireguard_observed_twice rfl (fixedFront_dials _), _,
    wireguard_observed_twice rfl (fixedFront_dials _)⟩

end Fixed

end ProxyTunnels.Socks5.Observed
