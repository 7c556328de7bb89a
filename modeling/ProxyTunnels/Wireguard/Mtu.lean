import Mathlib.Algebra.Ring.Nat
import Mathlib.Data.Nat.Bitwise
import Mathlib.Order.Bounds.Basic
import ProxyTunnels.Error
import ProxyTunnels.Net.Address

/-! The MTU of a WireGuard tunnel that is carried inside another one.

Each packet of the carried tunnel is padded to a multiple of 16 by whoever sends it,
wrapped in WireGuard, UDP and IP headers, and must then be one packet of the tunnel
beneath. The arithmetic is the source's, on 16-bit words; what it means is said in
natural numbers. A carried tunnel may carry the next one, so the fit is a fact about
every level of a chain.
-/

set_option autoImplicit false

namespace ProxyTunnels.Wireguard
open Net

/-- `WIREGUARD_DATA_OVERHEAD`: data-message header and authentication tag. -/
def wireguardDataOverhead : UInt16 := 32

def udpHeader : UInt16 := 8

def minCarriedMtu : UInt16 := 576

/-- `u16::saturating_sub`. -/
def saturatingSub (value amount : UInt16) : UInt16 := if amount ≤ value then value - amount else 0

section CarriedMtu

/-- `ip_header` of `carried_mtu`. -/
def ipHeader (endpoint : IpAddr) : UInt16 := if endpoint.isIpv4 then 20 else 40

def headerOverhead (endpoint : IpAddr) : UInt16 := ipHeader endpoint + udpHeader + wireguardDataOverhead

/-- `available` of `carried_mtu`: what the link leaves over, rounded down to a multiple of 16. -/
def availableMtu (linkMtu : UInt16) (endpoint : IpAddr) : UInt16 :=
  saturatingSub linkMtu (headerOverhead endpoint) &&& ~~~15

def carriedMtu (configured linkMtu : UInt16) (endpoint : IpAddr) : Except TunnelError UInt16 :=
  let overhead := headerOverhead endpoint
  let available := availableMtu linkMtu endpoint
  if available < minCarriedMtu then
    .error (.configuration (s!"the tunnel beneath has an MTU of {linkMtu}, which leaves {available} bytes per " ++
      s!"packet once this tunnel's {overhead} bytes of headers are added; at least " ++
      s!"{minCarriedMtu} are needed. Raise the MTU of the tunnel beneath."))
  else .ok (min configured available)

end CarriedMtu

section BringUp

/-- `DatagramSocket::link_mtu` of a socket bound on a tunnel's stack: that tunnel's own MTU. -/
def WgUdpSocket.linkMtu (stackMtu : UInt16) : Option UInt16 := some stackMtu

/-- The MTU `bring_up` settles on: without a carrier, or with one whose link is
unknown, the configured value. -/
def bringUpMtu (configured : UInt16) (carrier : Option (Option UInt16)) (endpoint : IpAddr) :
    Except TunnelError UInt16 :=
  match carrier with
  | none => .ok configured
  | some none => .ok configured
  | some (some link) => carriedMtu configured link endpoint

structure Hop where
  configured : UInt16
  endpoint : IpAddr
  deriving DecidableEq

/-- Bring up tunnels one inside the other over a tunnel of MTU `below`; the MTUs, from the outermost in. -/
def stackedMtus (below : UInt16) : List Hop → Except TunnelError (List UInt16)
  | [] => .ok []
  | hop :: rest =>
      match bringUpMtu hop.configured (some (WgUdpSocket.linkMtu below)) hop.endpoint with
      | .error failure => .error failure
      | .ok mtu =>
          match stackedMtus mtu rest with
          | .error failure => .error failure
          | .ok inner => .ok (mtu :: inner)

end BringUp

def padded (length : Nat) : Nat := (length + 15) / 16 * 16

def carriedLength (endpoint : IpAddr) (payload : Nat) : Nat :=
  payload + wireguardDataOverhead.toNat + udpHeader.toNat + (ipHeader endpoint).toNat

section Arithmetic

theorem and_not_fifteen (value : UInt16) : (value &&& ~~~15).toNat = value.toNat / 16 * 16 := by
  have bound : value.toNat < 2 ^ 16 := value.toNat_lt
  have mask : (~~~(15 : UInt16)).toNat = 2 ^ 16 - 1 - 15 := rfl
  rw [UInt16.toNat_and, mask]
  have shifted : value.toNat / 16 * 16 = value.toNat >>> 4 <<< 4 := by
    rw [Nat.shiftRight_eq_div_pow, Nat.shiftLeft_eq]
  rw [shifted]
  apply Nat.eq_of_testBit_eq
  intro index
  rw [Nat.testBit_and, Nat.testBit_shiftLeft, Nat.testBit_shiftRight]
  by_cases high : 16 ≤ index
  · have clear : value.toNat.testBit index = false :=
      Nat.testBit_lt_two_pow (lt_of_lt_of_le bound (Nat.pow_le_pow_right (by decide) high))
    simp [clear, show 4 + (index - 4) = index by omega]
  · have ones : ∀ bit < 16, (2 ^ 16 - 1 - 15).testBit bit = decide (4 ≤ bit) := by decide
    rw [ones index (by omega)]
    by_cases low : 4 ≤ index
    · simp [low, show 4 + (index - 4) = index by omega]
    · simp [low]

theorem saturatingSub_toNat (value amount : UInt16) :
    (saturatingSub value amount).toNat = value.toNat - amount.toNat := by
  unfold saturatingSub
  split
  next fits => exact UInt16.toNat_sub_of_le _ _ fits
  next short =>
    have less : value.toNat < amount.toNat := UInt16.not_le.mp short
    simp only [UInt16.toNat_zero]
    omega

theorem headerOverhead_toNat (endpoint : IpAddr) :
    (headerOverhead endpoint).toNat = carriedLength endpoint 0 := by
  unfold headerOverhead carriedLength ipHeader
  split <;> rfl

theorem availableMtu_toNat (linkMtu : UInt16) (endpoint : IpAddr) :
    (availableMtu linkMtu endpoint).toNat = (linkMtu.toNat - carriedLength endpoint 0) / 16 * 16 := by
  unfold availableMtu
  rw [and_not_fifteen, saturatingSub_toNat, headerOverhead_toNat]

theorem carriedLength_eq (endpoint : IpAddr) (payload : Nat) :
    carriedLength endpoint payload = payload + carriedLength endpoint 0 := by
  unfold carriedLength
  omega

end Arithmetic

section Fit

theorem min_toNat (first second : UInt16) :
    (min first second).toNat = min first.toNat second.toNat := by
  by_cases smaller : first ≤ second
  · rw [show min first second = first from if_pos smaller]
    exact (min_eq_left (UInt16.le_iff_toNat_le.mp smaller)).symm
  · rw [show min first second = second from if_neg smaller]
    have larger : second.toNat < first.toNat := UInt16.not_le.mp smaller
    exact (min_eq_right (Nat.le_of_lt larger)).symm

def Fitting (linkMtu : UInt16) (endpoint : IpAddr) : Set Nat :=
  { length | 16 ∣ length ∧ carriedLength endpoint length ≤ linkMtu.toNat }

/-- What `carried_mtu` takes to be available is the largest multiple of 16 that fits,
as soon as the link has room for the headers. -/
theorem availableMtu_isGreatest {linkMtu : UInt16} {endpoint : IpAddr}
    (room : carriedLength endpoint 0 ≤ linkMtu.toNat) :
    IsGreatest (Fitting linkMtu endpoint) (availableMtu linkMtu endpoint).toNat := by
  rw [availableMtu_toNat]
  constructor
  · refine ⟨Nat.dvd_mul_left _ _, ?_⟩
    rw [carriedLength_eq]
    omega
  · rintro length ⟨multiple, fits⟩
    rw [carriedLength_eq] at fits
    omega

theorem carriedMtu_eq_ok {configured linkMtu mtu : UInt16} {endpoint : IpAddr}
    (up : carriedMtu configured linkMtu endpoint = .ok mtu) :
    minCarriedMtu.toNat ≤ (availableMtu linkMtu endpoint).toNat ∧
      mtu.toNat = min configured.toNat (availableMtu linkMtu endpoint).toNat := by
  by_cases narrow : availableMtu linkMtu endpoint < minCarriedMtu
  · simp only [carriedMtu, if_pos narrow, reduceCtorEq] at up
  · simp only [carriedMtu, if_neg narrow, Except.ok.injEq] at up
    refine ⟨UInt16.not_lt.mp narrow, ?_⟩
    rw [← up, min_toNat]

theorem padded_le {length bound : Nat} (multiple : 16 ∣ bound) (short : length ≤ bound) :
    padded length ≤ bound := by
  unfold padded
  omega

/-- One level: every packet fits the link once padded and wrapped, and the MTU is
the configured one or the largest multiple of 16 for which that is so. -/
theorem carriedMtu_fits {configured linkMtu mtu : UInt16} {endpoint : IpAddr}
    (up : carriedMtu configured linkMtu endpoint = .ok mtu) :
    (∀ length ≤ mtu.toNat, carriedLength endpoint (padded length) ≤ linkMtu.toNat) ∧
      ∃ largest, IsGreatest (Fitting linkMtu endpoint) largest ∧ mtu.toNat = min configured.toNat largest := by
  obtain ⟨enough, chosen⟩ := carriedMtu_eq_ok up
  -- The least carried MTU is positive, so the subtraction did not saturate.
  have room : carriedLength endpoint 0 ≤ linkMtu.toNat := by
    rw [availableMtu_toNat] at enough
    have positive : 0 < minCarriedMtu.toNat := by decide
    omega
  have greatest := availableMtu_isGreatest room
  refine ⟨?_, _, greatest, chosen⟩
  intro length short
  obtain ⟨multiple, fits⟩ := greatest.1
  have within := padded_le multiple (short.trans (chosen ▸ min_le_right _ _))
  rw [carriedLength_eq] at fits ⊢
  omega

end Fit

section Chain

theorem carriedMtu_of_stackedMtus {below : UInt16} {hops : List Hop} {mtus : List UInt16}
    (up : stackedMtus below hops = .ok mtus) {level : Nat} {hop : Hop} {beneath mtu : UInt16}
    (hopAt : hops[level]? = some hop) (beneathAt : (below :: mtus)[level]? = some beneath)
    (mtuAt : mtus[level]? = some mtu) : carriedMtu hop.configured beneath hop.endpoint = .ok mtu := by
  induction hops generalizing below mtus level with
  | nil => cases hopAt
  | cons first rest ih =>
    unfold stackedMtus at up
    split at up
    · cases up
    next outer outerUp =>
      split at up
      · cases up
      next inner innerUp =>
        cases up
        cases level with
        | zero =>
          cases hopAt
          cases beneathAt
          cases mtuAt
          exact outerUp
        | succ level => exact ih innerUp hopAt beneathAt mtuAt

/-- Nested tunnels fit at every depth, whoever pads the packets; the computation does
not wrap; and the MTU of each level is the smaller of the configured one and the
largest multiple of 16 that fits the level below. -/
theorem nested_tunnels_fit {first : UInt16} {hops : List Hop} {mtus : List UInt16}
    (up : stackedMtus first hops = .ok mtus) {level : Nat} {hop : Hop} {below mtu : UInt16}
    (hopAt : hops[level]? = some hop) (belowAt : (first :: mtus)[level]? = some below)
    (mtuAt : mtus[level]? = some mtu) :
    (∀ length ≤ mtu.toNat,
      padded length + 32 + 8 + (if hop.endpoint.isIpv4 then 20 else 40) ≤ below.toNat) ∧
    (headerOverhead hop.endpoint).toNat = (if hop.endpoint.isIpv4 then 20 else 40) + 8 + 32 ∧
    (availableMtu below hop.endpoint).toNat =
      (below.toNat - (headerOverhead hop.endpoint).toNat) / 16 * 16 ∧
    mtu ≤ hop.configured ∧
    ∃ largest, IsGreatest { length | 16 ∣ length ∧
        length + 32 + 8 + (if hop.endpoint.isIpv4 then 20 else 40) ≤ below.toNat } largest ∧
      mtu.toNat = min hop.configured.toNat largest := by
  have headers : ∀ payload, carriedLength hop.endpoint payload =
      payload + 32 + 8 + (if hop.endpoint.isIpv4 then 20 else 40) := by
    intro payload
    unfold carriedLength ipHeader
    split <;> rfl
  obtain ⟨fits, largest, greatest, chosen⟩ :=
    carriedMtu_fits (carriedMtu_of_stackedMtus up hopAt belowAt mtuAt)
  refine ⟨?_, ?_, ?_, ?_, largest, ?_, chosen⟩
  · intro length short
    rw [← headers]
    exact fits length short
  · rw [headerOverhead_toNat, headers]
    omega
  · rw [availableMtu_toNat, headerOverhead_toNat]
  · exact UInt16.le_iff_toNat_le.mpr (chosen ▸ min_le_left _ _)
  · simpa only [Fitting, headers] using greatest

theorem nested_tunnels_fit_two_deep :
    stackedMtus 1420 [⟨1420, .v4 #v[10, 63, 0, 1]⟩,
        ⟨1280, .v6 #v[0xfd, 0, 0, 0, 0, 0, 0, 0, 0, 0, 0, 0, 0, 0, 0, 1]⟩] = .ok [1360, 1280] ∧
      ∀ length ≤ 1280, padded length + 32 + 8 + 40 ≤ 1360 := by
  have up : stackedMtus 1420 [⟨1420, .v4 #v[10, 63, 0, 1]⟩,
      ⟨1280, .v6 #v[0xfd, 0, 0, 0, 0, 0, 0, 0, 0, 0, 0, 0, 0, 0, 0, 1]⟩] = .ok [1360, 1280] := by decide
  have innermost : [(1360 : UInt16), 1280][1]? = some 1280 := rfl
  have fits := (nested_tunnels_fit up rfl rfl innermost).1
  exact ⟨up, fits⟩

end Chain

end ProxyTunnels.Wireguard
