import ProxyTunnels.Error
import ProxyTunnels.Net.Address
import ProxyTunnels.Net.Text

/-! The configuration of a WireGuard tunnel, and what is checked of it before connecting.

Keys come in as base64 text. `validate_wireguard_keys` checks the texts when a
configuration is saved, `WireGuardSpec::validate` the parsed keys when the tunnel connects.
Base64 and the derivation of a public key are parameters.
-/

set_option autoImplicit false

namespace ProxyTunnels.Wireguard
open Net

section Source

def minWireguardMtu : UInt16 := 1280

def maxWireguardMtu : UInt16 := 3800

abbrev Key := Vector UInt8 32

def zeroKey : Key := Vector.replicate 32 0

structure KeyFunctions where
  encode : List UInt8 → String
  decode : String → Option (List UInt8)
  publicKey : Key → Key

structure IpCidr where
  address : IpAddr
  prefixLen : UInt8
  deriving DecidableEq, Repr

def IpCidr.isIpv4 (cidr : IpCidr) : Bool := cidr.address.isIpv4

def IpCidr.isIpv6 (cidr : IpCidr) : Bool := !cidr.address.isIpv4

/-- `WireGuardSpec`, without what only names or times the tunnel. -/
structure WireGuardSpec where
  endpointHost : String
  endpointPort : UInt16
  privateKey : Key
  peerPublicKey : Key
  presharedKey : Option Key
  addresses : List IpCidr
  dnsServers : List IpAddr
  mtu : UInt16
  deriving DecidableEq, Repr

def WireGuardSpec.hasIpv4 (spec : WireGuardSpec) : Bool := spec.addresses.any IpCidr.isIpv4

def WireGuardSpec.hasIpv6 (spec : WireGuardSpec) : Bool := spec.addresses.any IpCidr.isIpv6

/-- `allowed_ips`: the default route of every family the interface has an address in. -/
def WireGuardSpec.allowedIps (spec : WireGuardSpec) : List IpCidr :=
  (if spec.hasIpv4 then [⟨.v4 (Vector.replicate 4 0), 0⟩] else []) ++
    if spec.hasIpv6 then [⟨.v6 (Vector.replicate 16 0), 0⟩] else []

def require (holds : Bool) (message : String) : Except TunnelError Unit :=
  if holds then .ok () else .error (.configuration message)

def ownPublicKeyMessage : String :=
  "the peer public key is this tunnel's own public key; the `PublicKey` in the " ++
    "`[Peer]` section must be the *server's* key"

variable (keys : KeyFunctions)

def KeyFunctions.publicKeyOf (privateKey : Key) : String := keys.encode (keys.publicKey privateKey).toList

def KeyFunctions.notOwn (privateKey peer : Key) : Bool := keys.publicKeyOf privateKey != keys.encode peer.toList

def WireGuardSpec.validate (spec : WireGuardSpec) : Except TunnelError Unit := do
  require (trim spec.endpointHost != "") "the tunnel has no endpoint host"
  require (spec.endpointPort != 0) "the tunnel has no endpoint port"
  require (!spec.addresses.isEmpty)
    ("the tunnel has no interface address; add the `Address` line from the " ++
      "WireGuard configuration (for example `10.6.0.2/32`)")
  require (minWireguardMtu ≤ spec.mtu && spec.mtu ≤ maxWireguardMtu)
    (s!"the tunnel MTU must be between {minWireguardMtu} and {maxWireguardMtu}; " ++
      s!"{spec.mtu} is outside that range")
  require (spec.privateKey != zeroKey) "the tunnel has no private key"
  require (spec.peerPublicKey != zeroKey) "the tunnel has no peer public key"
  require (keys.notOwn spec.privateKey spec.peerPublicKey) ownPublicKeyMessage

def wireguardKeyMessage : String :=
  "WireGuard keys are 32 bytes of base64, exactly as `wg genkey` prints them " ++
    "(44 characters ending in `=`)"

def parseKey (base64 : String) : Except TunnelError Key :=
  let trimmed := trim base64
  if trimmed = "" then .error (.configuration s!"the key is empty; {wireguardKeyMessage}")
  else
    match keys.decode trimmed with
    | none => .error (.configuration s!"the key is not valid base64; {wireguardKeyMessage}")
    | some bytes =>
        if exact : bytes.toArray.size = 32 then .ok ⟨bytes.toArray, exact⟩
        else .error (.configuration
          s!"the key decodes to {bytes.length} bytes, not 32; {wireguardKeyMessage}")

/-- `prefix`: say which of the three keys is meant. -/
def whichKey (which : String) : TunnelError → TunnelError
  | .configuration message => .configuration s!"{which}: {message}"
  | other => other

def checkPreshared (presharedKey : Option String) : Except TunnelError Unit :=
  match (presharedKey.map trim).filter (· != "") with
  | none => .ok ()
  | some preshared => ((parseKey keys preshared).mapError (whichKey "preshared key")).map fun _ => ()

def validateWireguardKeys (privateKey peerPublicKey : String) (presharedKey : Option String) :
    Except TunnelError Unit := do
  let own ← (parseKey keys privateKey).mapError (whichKey "private key")
  let peer ← (parseKey keys peerPublicKey).mapError (whichKey "peer public key")
  checkPreshared keys presharedKey
  require (keys.notOwn own peer) ownPublicKeyMessage

end Source

section Valid
variable {keys : KeyFunctions}

/-- What `validate` checks besides the keys. -/
structure WireGuardSpec.Placed (spec : WireGuardSpec) : Prop where
  host : trim spec.endpointHost ≠ ""
  port : spec.endpointPort ≠ 0
  addresses : spec.addresses ≠ []
  mtu : minWireguardMtu ≤ spec.mtu ∧ spec.mtu ≤ maxWireguardMtu

/-- What `validate` checks of the keys. -/
structure WireGuardSpec.Keyed (keys : KeyFunctions) (spec : WireGuardSpec) : Prop where
  privateKey : spec.privateKey ≠ zeroKey
  peerPublicKey : spec.peerPublicKey ≠ zeroKey
  notOwn : keys.notOwn spec.privateKey spec.peerPublicKey = true

theorem bind_ok {α β : Type} {result : Except TunnelError α} {next : α → Except TunnelError β} {value : β} :
    (result >>= next) = .ok value ↔ ∃ found, result = .ok found ∧ next found = .ok value := by
  cases result <;> simp [bind, Except.bind]

theorem require_bind {α : Type} {holds : Bool} {message : String} {next : Unit → Except TunnelError α} {value : α} :
    (require holds message >>= next) = .ok value ↔ holds = true ∧ next () = .ok value := by
  cases holds <;> simp [require, bind_ok, Unique.exists_iff]

theorem require_ok {holds : Bool} {message : String} : require holds message = .ok () ↔ holds = true := by
  cases holds <;> simp [require]

theorem validate_ok {spec : WireGuardSpec} : spec.validate keys = .ok () ↔ spec.Placed ∧ spec.Keyed keys := by
  unfold WireGuardSpec.validate
  simp only [require_bind, require_ok, bne_iff_ne, Bool.and_eq_true, Bool.not_eq_true', decide_eq_true_eq,
    List.isEmpty_eq_false_iff]
  constructor
  · rintro ⟨host, port, addresses, mtu, privateKey, peerPublicKey, notOwn⟩
    exact ⟨⟨host, port, addresses, mtu⟩, ⟨privateKey, peerPublicKey, notOwn⟩⟩
  · rintro ⟨⟨host, port, addresses, mtu⟩, ⟨privateKey, peerPublicKey, notOwn⟩⟩
    exact ⟨host, port, addresses, mtu, privateKey, peerPublicKey, notOwn⟩

end Valid

end ProxyTunnels.Wireguard
