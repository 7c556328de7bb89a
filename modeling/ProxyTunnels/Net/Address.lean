import Mathlib.Data.List.Basic

/-! IP addresses as octets, and the text the standard library prints for them. -/

set_option autoImplicit false

namespace ProxyTunnels.Net

inductive IpAddr where
  | v4 (octets : Vector UInt8 4)
  | v6 (octets : Vector UInt8 16)
  deriving DecidableEq, Repr

def IpAddr.isIpv4 : IpAddr → Bool
  | .v4 _ => true
  | .v6 _ => false

/-- Dotted decimal, as `Ipv4Addr` displays. -/
def ipv4Text (octets : List UInt8) : String :=
  ".".intercalate (octets.map fun octet => toString octet.toNat)

def segments : List UInt8 → List Nat
  | high :: low :: rest => (high.toNat * 256 + low.toNat) :: segments rest
  | _ => []

structure Span where
  start : Nat
  len : Nat
  deriving DecidableEq, Repr

def longestZeroes : List Nat → Nat → Span → Span → Span
  | [], _, _, longest => longest
  | segment :: rest, index, current, longest =>
      if segment = 0 then
        let current := if current.len = 0 then ⟨index, 1⟩ else ⟨current.start, current.len + 1⟩
        longestZeroes rest (index + 1) current (if current.len > longest.len then current else longest)
      else longestZeroes rest (index + 1) ⟨0, 0⟩ longest

def hexGroups (groups : List Nat) : String :=
  ":".intercalate (groups.map fun group => String.ofList (Nat.toDigits 16 group))

/-- As `Ipv6Addr` displays: a mapped IPv4 address keeps its dotted form, otherwise
the longest stretch of two or more zero segments is elided. -/
def ipv6Text (octets : List UInt8) : String :=
  if octets.take 12 = [0, 0, 0, 0, 0, 0, 0, 0, 0, 0, 255, 255] then
    "::ffff:" ++ ipv4Text (octets.drop 12)
  else
    let groups := segments octets
    let zeroes := longestZeroes groups 0 ⟨0, 0⟩ ⟨0, 0⟩
    if zeroes.len > 1 then
      hexGroups (groups.take zeroes.start) ++ "::" ++ hexGroups (groups.drop (zeroes.start + zeroes.len))
    else hexGroups groups

example : ipv6Text [0x20, 0x01, 0x0d, 0xb8, 0, 0, 0, 1, 0, 0, 0, 0, 0, 0, 0, 2] = "2001:db8:0:1::2" := by
  decide

end ProxyTunnels.Net
