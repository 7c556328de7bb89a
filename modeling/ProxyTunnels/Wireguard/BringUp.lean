import Mathlib.Data.Set.Insert
import ProxyTunnels.Wireguard.Keys
import ProxyTunnels.Wireguard.Mtu
import ProxyTunnels.Wireguard.Stack

/-! What `bring_up` starts a tunnel's stack with, from a validated configuration.

The MTU is the configured one, or less if another tunnel carries this one. The addresses go
onto smoltcp's interface, whose list has a fixed capacity; a push past it fails and its
result is not looked at.
-/

set_option autoImplicit false

namespace ProxyTunnels.Wireguard
open Net

section Source

/-- What a stack is set up from: `StackConfig`, without what only names or tunes the stack. -/
structure StackSetup where
  addresses : List IpCidr
  dnsServers : List IpAddr
  mtu : UInt16
  deriving DecidableEq, Repr

/-- `has_ipv4` and `has_ipv6`, which the stack resolves names with. -/
def StackSetup.config (setup : StackSetup) : StackConfig :=
  ⟨setup.addresses.any IpCidr.isIpv4, setup.addresses.any IpCidr.isIpv6⟩

/-- What a bring-up meets: whether there is a runtime, how the endpoint resolves, and how
binding a socket on the carrier goes, with the MTU of its link if it has one to tell. -/
structure Surroundings where
  runtime : Bool
  endpoint : Except TunnelError IpAddr
  carrier : Option (Except TunnelError (Option UInt16))

/-- What `bring_up` makes the packet channels and the stack with. -/
structure Starting where
  channelMtu : UInt16
  setup : StackSetup
  deriving DecidableEq, Repr

def WireGuardSpec.carrierFailure (spec : WireGuardSpec) (error : TunnelError) : TunnelError :=
  .wireGuardConnect spec.endpointHost spec.endpointPort
    s!"the tunnel beneath could not carry this one: {error.display}"

def WireGuardSpec.bindCarrier (spec : WireGuardSpec) (surroundings : Surroundings) :
    Except TunnelError (Option (Option UInt16)) :=
  match surroundings.carrier with
  | none => .ok none
  | some bound => (bound.mapError spec.carrierFailure).map some

def requireRuntime (runtime : Bool) : Except TunnelError Unit :=
  if runtime then .ok () else .error (.engine "a WireGuard tunnel needs a tokio runtime")

/-- `bring_up`, up to the start of the stack. -/
def bringUp (keys : KeyFunctions) (spec : WireGuardSpec) (surroundings : Surroundings) :
    Except TunnelError Starting := do
  spec.validate keys
  requireRuntime surroundings.runtime
  let endpoint ← surroundings.endpoint
  let carrier ← spec.bindCarrier surroundings
  let mtu ← bringUpMtu spec.mtu carrier endpoint
  .ok ⟨mtu, ⟨spec.addresses, spec.dnsServers, mtu⟩⟩

structure Interface where
  addresses : List IpCidr
  defaultIpv4 : Option IpAddr
  defaultIpv6 : Option IpAddr
  deriving DecidableEq, Repr

/-- A push past the capacity fails without effect. -/
def pushAddress (capacity : Nat) (addresses : List IpCidr) (cidr : IpCidr) : List IpCidr :=
  if addresses.length < capacity then addresses ++ [cidr] else addresses

def Interface.addDefaultRoute (interface : Interface) (cidr : IpCidr) : Interface :=
  if cidr.isIpv4 then { interface with defaultIpv4 := some cidr.address }
  else { interface with defaultIpv6 := some cidr.address }

/-- The interface `WgStack::start` sets up. -/
def StackSetup.startInterface (setup : StackSetup) (capacity : Nat) : Interface :=
  setup.addresses.foldl Interface.addDefaultRoute
    ⟨setup.addresses.foldl (pushAddress capacity) [], none, none⟩

end Source

section Started
variable {keys : KeyFunctions} {spec : WireGuardSpec} {surroundings : Surroundings} {started : Starting}

structure StartsFrom (keys : KeyFunctions) (spec : WireGuardSpec) (surroundings : Surroundings)
    (started : Starting) (endpoint : IpAddr) (link : Option (Option UInt16)) : Prop where
  valid : spec.validate keys = .ok ()
  resolved : surroundings.endpoint = .ok endpoint
  carrier : surroundings.carrier = link.map .ok
  mtu : bringUpMtu spec.mtu link endpoint = .ok started.channelMtu
  setup : started.setup = ⟨spec.addresses, spec.dnsServers, started.channelMtu⟩

theorem bindCarrier_ok {link : Option (Option UInt16)} (bound : spec.bindCarrier surroundings = .ok link) :
    surroundings.carrier = link.map .ok := by
  unfold WireGuardSpec.bindCarrier at bound
  split at bound
  · next none =>
    cases bound
    exact none
  · next result carried =>
    cases result with
    | error error => cases bound
    | ok mtu =>
      cases bound
      exact carried

theorem bringUp_ok (up : bringUp keys spec surroundings = .ok started) :
    ∃ endpoint link, StartsFrom keys spec surroundings started endpoint link := by
  unfold bringUp at up
  obtain ⟨⟨⟩, valid, up⟩ := bind_ok.mp up
  obtain ⟨-, -, up⟩ := bind_ok.mp up
  obtain ⟨endpoint, resolved, up⟩ := bind_ok.mp up
  obtain ⟨link, bound, up⟩ := bind_ok.mp up
  obtain ⟨mtu, chosen, up⟩ := bind_ok.mp up
  cases up
  exact ⟨endpoint, link, valid, resolved, bindCarrier_ok bound, chosen, rfl⟩

end Started

section Mtu
variable {keys : KeyFunctions} {spec : WireGuardSpec} {surroundings : Surroundings} {started : Starting}

def Surroundings.Wide (surroundings : Surroundings) : Prop :=
  ∀ endpoint link, surroundings.endpoint = .ok endpoint → surroundings.carrier = some (.ok (some link)) →
    carriedLength endpoint minWireguardMtu.toNat ≤ link.toNat

theorem carriedMtu_ge {configured link mtu : UInt16} {endpoint : IpAddr} (least : minWireguardMtu ≤ configured)
    (up : carriedMtu configured link endpoint = .ok mtu) :
    minWireguardMtu ≤ mtu ↔ carriedLength endpoint minWireguardMtu.toNat ≤ link.toNat := by
  obtain ⟨-, chosen⟩ := carriedMtu_eq_ok up
  have floor : 1280 ≤ configured.toNat := least
  have value : minWireguardMtu.toNat = 1280 := rfl
  rw [UInt16.le_iff_toNat_le, chosen, availableMtu_toNat, carriedLength_eq endpoint minWireguardMtu.toNat, value]
  omega

/-- The stack and the channels run at the IPv6 minimum or above exactly if the tunnel is not
carried, or its carrier's link is unknown or wide enough. -/
theorem ipv6_minimum_kept (keys : KeyFunctions) (spec : WireGuardSpec) (surroundings : Surroundings)
    (started : Starting) (up : bringUp keys spec surroundings = .ok started) :
    (minWireguardMtu ≤ started.setup.mtu ∧ minWireguardMtu ≤ started.channelMtu) ↔ surroundings.Wide := by
  obtain ⟨endpoint, link, valid, resolved, carrier, mtu, setup⟩ := bringUp_ok up
  have least : minWireguardMtu ≤ spec.mtu := (validate_ok.mp valid).1.mtu.1
  have same : started.setup.mtu = started.channelMtu := by rw [setup]
  rw [same, and_self]
  unfold Surroundings.Wide
  cases link with
  | none =>
    have plain : spec.mtu = started.channelMtu := Except.ok.inj mtu
    simp [carrier, ← plain, least]
  | some link =>
    cases link with
    | none =>
      have plain : spec.mtu = started.channelMtu := Except.ok.inj mtu
      simp [carrier, ← plain, least]
    | some link =>
      rw [carriedMtu_ge least mtu]
      simp [carrier, resolved]

def dualStackSpec : WireGuardSpec :=
  { keylessSpec with
    privateKey := onesKey
    peerPublicKey := onesKey
    addresses := [tunnelAddress, ⟨.v6 (Vector.replicate 16 1), 128⟩] }

def atEndpoint (carrier : Option (Option UInt16)) : Surroundings :=
  ⟨true, .ok (.v6 (Vector.replicate 16 2)), carrier.map .ok⟩

theorem dualStackSpec_uncarried :
    bringUp invertingKeys dualStackSpec (atEndpoint none) = .ok ⟨1280, ⟨dualStackSpec.addresses, [], 1280⟩⟩ := by
  decide +kernel

theorem ipv6_minimum_kept_uncarried :
    ∃ started, bringUp invertingKeys dualStackSpec (atEndpoint none) = .ok started ∧
      minWireguardMtu ≤ started.setup.mtu :=
  ⟨_, dualStackSpec_uncarried, ((ipv6_minimum_kept _ _ _ _ dualStackSpec_uncarried).mpr nofun).1⟩

/-- Carried by a tunnel of the default MTU the same tunnel starts with 1200 bytes. -/
theorem carried_below_ipv6_minimum :
    dualStackSpec.validate invertingKeys = .ok () ∧ dualStackSpec.hasIpv6 = true ∧
      bringUp invertingKeys dualStackSpec (atEndpoint (some (WgUdpSocket.linkMtu 1280))) =
        .ok ⟨1200, ⟨dualStackSpec.addresses, [], 1200⟩⟩ ∧
      (1200 : UInt16) < minWireguardMtu := by
  refine ⟨by decide +kernel, by decide, by decide +kernel, by decide⟩

end Mtu

section Families

inductive Family where
  | ipv4
  | ipv6
  deriving DecidableEq, Repr

def IpCidr.family (cidr : IpCidr) : Family :=
  match cidr.address with
  | .v4 _ => .ipv4
  | .v6 _ => .ipv6

theorem IpCidr.family_eq_ipv4 {cidr : IpCidr} : cidr.family = .ipv4 ↔ cidr.isIpv4 = true := by
  obtain ⟨address, prefixLen⟩ := cidr
  cases address <;> simp [IpCidr.family, IpCidr.isIpv4, IpAddr.isIpv4]

theorem IpCidr.family_eq_ipv6 {cidr : IpCidr} : cidr.family = .ipv6 ↔ cidr.isIpv6 = true := by
  obtain ⟨address, prefixLen⟩ := cidr
  cases address <;> simp [IpCidr.family, IpCidr.isIpv6, IpAddr.isIpv4]

def families (addresses : List IpCidr) : Set Family := { family | ∃ cidr ∈ addresses, cidr.family = family }

def StackConfig.families (config : StackConfig) : Set Family :=
  { family | match family with | .ipv4 => config.hasIpv4 = true | .ipv6 => config.hasIpv6 = true }

def DnsQueryType.family : DnsQueryType → Family
  | .a => .ipv4
  | .aaaa => .ipv6

theorem mem_families_ipv4 {addresses : List IpCidr} :
    .ipv4 ∈ families addresses ↔ addresses.any IpCidr.isIpv4 = true := by
  simp [families, IpCidr.family_eq_ipv4, List.any_eq_true]

theorem mem_families_ipv6 {addresses : List IpCidr} :
    .ipv6 ∈ families addresses ↔ addresses.any IpCidr.isIpv6 = true := by
  simp [families, IpCidr.family_eq_ipv6, List.any_eq_true]

theorem setup_families (setup : StackSetup) : setup.config.families = families setup.addresses := by
  ext family
  cases family with
  | ipv4 => exact mem_families_ipv4.symm
  | ipv6 => exact mem_families_ipv6.symm

theorem allowedIps_families (spec : WireGuardSpec) : families spec.allowedIps = families spec.addresses := by
  ext family
  cases family with
  | ipv4 =>
    rw [mem_families_ipv4, mem_families_ipv4]
    unfold WireGuardSpec.allowedIps WireGuardSpec.hasIpv4 WireGuardSpec.hasIpv6
    cases spec.addresses.any IpCidr.isIpv4 <;> cases spec.addresses.any IpCidr.isIpv6 <;> decide
  | ipv6 =>
    rw [mem_families_ipv6, mem_families_ipv6]
    unfold WireGuardSpec.allowedIps WireGuardSpec.hasIpv4 WireGuardSpec.hasIpv6
    cases spec.addresses.any IpCidr.isIpv4 <;> cases spec.addresses.any IpCidr.isIpv6 <;> decide

theorem queryTypes_families (config : StackConfig) (family : Family) :
    (∃ kind ∈ config.queryTypes, kind.family = family) ↔ family ∈ config.families := by
  obtain ⟨hasIpv4, hasIpv6⟩ := config
  cases family <;> cases hasIpv4 <;> cases hasIpv6 <;> simp [StackConfig.queryTypes, StackConfig.families,
    DnsQueryType.family]

theorem addDefaultRoute_addresses (cidrs : List IpCidr) (interface : Interface) :
    (cidrs.foldl Interface.addDefaultRoute interface).addresses = interface.addresses := by
  induction cidrs generalizing interface with
  | nil => rfl
  | cons cidr rest ih =>
    rw [List.foldl_cons, ih]
    unfold Interface.addDefaultRoute
    split <;> rfl

theorem foldl_pushAddress (capacity : Nat) (cidrs present : List IpCidr) (room : present.length ≤ capacity) :
    cidrs.foldl (pushAddress capacity) present = present ++ cidrs.take (capacity - present.length) := by
  induction cidrs generalizing present with
  | nil => simp
  | cons cidr rest ih =>
    by_cases free : present.length < capacity
    · have pushed : pushAddress capacity present cidr = present ++ [cidr] := if_pos free
      have left : capacity - present.length = capacity - (present ++ [cidr]).length + 1 := by
        simp only [List.length_append, List.length_singleton]
        omega
      rw [List.foldl_cons, pushed, ih _ (by simpa [Nat.succ_le_iff] using free), left, List.take_succ_cons, List.append_assoc]
      rfl
    · have refused : pushAddress capacity present cidr = present := if_neg free
      have none : capacity - present.length = 0 := by omega
      rw [List.foldl_cons, refused, ih present room, none, List.take_zero, List.take_zero]

theorem startInterface_addresses (setup : StackSetup) (capacity : Nat) :
    (setup.startInterface capacity).addresses = setup.addresses.take capacity := by
  rw [StackSetup.startInterface, addDefaultRoute_addresses, foldl_pushAddress _ _ _ (Nat.zero_le _)]
  simp

theorem families_congr {first second : List IpCidr} (same : ∀ cidr, cidr ∈ first ↔ cidr ∈ second) :
    families first = families second := by
  simp only [families, same]

/-- Every address past the interface's capacity is one that is already on it. -/
def NoneLost (capacity : Nat) (addresses : List IpCidr) : Prop :=
  ∀ cidr ∈ addresses.drop capacity, cidr ∈ addresses.take capacity

theorem noneLost_iff {capacity : Nat} {addresses : List IpCidr} :
    NoneLost capacity addresses ↔ ∀ cidr ∈ addresses, cidr ∈ addresses.take capacity := by
  constructor
  · intro kept cidr member
    rw [← List.take_append_drop capacity addresses, List.mem_append] at member
    exact member.elim id (kept cidr)
  · exact fun kept cidr member => kept cidr (List.mem_of_mem_drop member)

/-- Every address is on the interface, and the families the interface has are those the stack, its queries
and the peer's allowed IPs go by, exactly if no address is lost at the interface's capacity. -/
theorem families_agree (keys : KeyFunctions) (spec : WireGuardSpec) (surroundings : Surroundings)
    (started : Starting) (up : bringUp keys spec surroundings = .ok started) (capacity : Nat) :
    let interface := started.setup.startInterface capacity
    ((∀ cidr ∈ spec.addresses, cidr ∈ interface.addresses) ∧
      families interface.addresses = started.setup.config.families ∧
      families interface.addresses = families spec.allowedIps ∧
      ∀ family, family ∈ families interface.addresses ↔
        ∃ kind ∈ started.setup.config.queryTypes, kind.family = family) ↔
      NoneLost capacity spec.addresses := by
  obtain ⟨endpoint, link, source⟩ := bringUp_ok up
  have same : started.setup.addresses = spec.addresses := by rw [source.setup]
  have present : (started.setup.startInterface capacity).addresses = spec.addresses.take capacity := by
    rw [startInterface_addresses, same]
  have believed : started.setup.config.families = families spec.addresses := by rw [setup_families, same]
  dsimp only
  rw [present, noneLost_iff]
  refine ⟨fun agree => agree.1, fun kept => ?_⟩
  have carried : families (spec.addresses.take capacity) = families spec.addresses :=
    families_congr fun cidr => ⟨List.mem_of_mem_take, kept cidr⟩
  rw [carried]
  refine ⟨kept, believed.symm, (allowedIps_families spec).symm, fun family => ?_⟩
  rw [queryTypes_families, believed]

theorem families_agree_dual :
    families ((⟨dualStackSpec.addresses, [], 1280⟩ : StackSetup).startInterface 2).addresses =
      families dualStackSpec.allowedIps := by
  exact ((families_agree _ _ _ _ dualStackSpec_uncarried 2).mpr nofun).2.2.1

def crowdedSpec : WireGuardSpec :=
  { dualStackSpec with
    addresses := [tunnelAddress, ⟨.v4 #v[10, 6, 0, 3], 32⟩, ⟨.v6 (Vector.replicate 16 1), 128⟩] }

/-- With smoltcp's capacity of two the third address is not on the interface. Nothing reports it:
the stack goes on asking for AAAA records and the peer goes on accepting IPv6. -/
theorem third_address_dropped :
    ∃ started, bringUp invertingKeys crowdedSpec (atEndpoint none) = .ok started ∧
      (∃ cidr ∈ crowdedSpec.addresses, cidr ∉ (started.setup.startInterface 2).addresses) ∧
      Family.ipv6 ∉ families (started.setup.startInterface 2).addresses ∧
      started.setup.config.hasIpv6 = true ∧
      DnsQueryType.aaaa ∈ started.setup.config.queryTypes ∧
      Family.ipv6 ∈ families crowdedSpec.allowedIps := by
  refine ⟨⟨1280, ⟨crowdedSpec.addresses, [], 1280⟩⟩, by decide +kernel, ?_, ?_, by decide, by decide, ?_⟩
  · exact ⟨⟨.v6 (Vector.replicate 16 1), 128⟩, by decide, by decide⟩
  · rw [mem_families_ipv6]
    decide
  · rw [mem_families_ipv6]
    decide

end Families

end ProxyTunnels.Wireguard
