import ProxyTunnels.Net.OnesComplement
import ProxyTunnels.Wireguard.Spec

/-! The inert packet that makes the engine start a handshake, and the checksum of its header.

Sums are `u32`, and one that overflows is `none`. The engine's own `Ipv4Header::new` lays an
IPv4 header out, with the checksum still zero.
-/

set_option autoImplicit false

namespace ProxyTunnels.Wireguard
open Net

section Fold

/-- `u32` addition: a sum below its first part went around. -/
def checkedAdd (first second : UInt32) : Option UInt32 :=
  if first + second < first then none else some (first + second)

theorem checkedAdd_eq_none {first second : UInt32} :
    checkedAdd first second = none ↔ UInt32.size ≤ first.toNat + second.toNat := by
  have firstBound := first.toNat_lt
  have secondBound := second.toNat_lt
  have wrapped : first + second < first ↔ UInt32.size ≤ first.toNat + second.toNat := by
    rw [UInt32.lt_iff_toNat_lt, UInt32.toNat_add]
    change _ ↔ 4294967296 ≤ _
    omega
  rw [← wrapped, checkedAdd]
  split
  · next around => exact iff_of_true rfl around
  · next fits => exact iff_of_false (Option.some_ne_none _) fits

theorem checkedAdd_fits {first second : UInt32} (fits : first.toNat + second.toNat < UInt32.size) :
    ∃ sum, checkedAdd first second = some sum ∧ sum.toNat = first.toNat + second.toNat := by
  have added : ¬ checkedAdd first second = none := fun none => Nat.not_le_of_lt fits (checkedAdd_eq_none.mp none)
  unfold checkedAdd at added ⊢
  split at added
  · exact absurd rfl added
  · next plain =>
    refine ⟨first + second, if_neg plain, ?_⟩
    rw [UInt32.toNat_add]
    exact Nat.mod_eq_of_lt fits

def foldRound (sum : UInt32) : Option UInt32 := checkedAdd (sum &&& 0xffff) (sum >>> 16)

theorem shifted_toNat (sum : UInt32) : (sum >>> 16).toNat = sum.toNat / 65536 := by
  rw [UInt32.toNat_shiftRight]
  exact Nat.shiftRight_eq_div_pow sum.toNat 16

theorem shifted_eq_zero {sum : UInt32} : sum >>> 16 = 0 ↔ sum.toNat ≤ 65535 := by
  rw [← UInt32.toNat_inj, shifted_toNat]
  change sum.toNat / 65536 = 0 ↔ _
  omega

theorem foldRound_carry (sum : UInt32) :
    ∃ next, foldRound sum = some next ∧ next.toNat = OnesComplement.carry 65535 sum.toNat := by
  have bound := sum.toNat_lt
  have low : (sum &&& 0xffff).toNat = sum.toNat % 65536 := by
    rw [UInt32.toNat_and]
    exact Nat.and_two_pow_sub_one_eq_mod sum.toNat 16
  have fits : (sum &&& 0xffff).toNat + (sum >>> 16).toNat < UInt32.size := by
    rw [low, shifted_toNat]
    change _ < 4294967296
    omega
  obtain ⟨next, same, value⟩ := checkedAdd_fits fits
  rw [low, shifted_toNat] at value
  exact ⟨next, same, value⟩

theorem foldRound_lt {sum next : UInt32} (carries : ¬ sum >>> 16 = 0) (folded : foldRound sum = some next) :
    next.toNat < sum.toNat := by
  obtain ⟨found, same, value⟩ := foldRound_carry sum
  have next : found = next := Option.some.inj (same.symm.trans folded)
  rw [← next, value]
  refine OnesComplement.carry_lt (by decide) ?_
  rw [shifted_eq_zero] at carries
  omega

/-- `while sum >> 16 != 0`. -/
def foldCarries (sum : UInt32) : Option UInt32 :=
  if done : sum >>> 16 = 0 then some sum
  else
    match folded : foldRound sum with
    | none => none
    | some next =>
        have := foldRound_lt done folded
        foldCarries next
termination_by sum.toNat

/-- The loop ends with the word of its sum. -/
theorem foldCarries_represents (sum : UInt32) :
    ∃ word, foldCarries sum = some word ∧ OnesComplement.Represents 65535 sum.toNat word.toNat := by
  induction sum using foldCarries.induct with
  | case1 sum done =>
    refine ⟨sum, ?_, OnesComplement.represents_self (shifted_eq_zero.mp done)⟩
    rw [foldCarries, dif_pos done]
  | case2 sum carries failed =>
    obtain ⟨next, same, -⟩ := foldRound_carry sum
    cases failed.symm.trans same
  | case3 sum carries next folded smaller ih =>
    obtain ⟨word, same, stands⟩ := ih
    obtain ⟨found, other, value⟩ := foldRound_carry sum
    have here : found = next := Option.some.inj (other.symm.trans folded)
    rw [← here, value] at stands
    -- The word of the smaller sum is the word of this one.
    refine ⟨word, ?_, stands.of_carry⟩
    rw [foldCarries, dif_neg carries]
    split
    · next failed => cases failed.symm.trans folded
    · next again refolded =>
      cases Option.some.inj (refolded.symm.trans folded)
      exact same

end Fold

section Checksum

/-- `u16::from_be_bytes`. -/
def fromBeBytes (high low : UInt8) : UInt16 := UInt16.ofNat (high.toNat * 256 + low.toNat)

/-- The loop over `chunks(2)`. -/
def sumWords : UInt32 → List UInt8 → Option UInt32
  | sum, [] => some sum
  | sum, [high] => checkedAdd sum (fromBeBytes high 0).toUInt32
  | sum, high :: low :: rest => (checkedAdd sum (fromBeBytes high low).toUInt32).bind fun sum => sumWords sum rest

/-- `ipv4_header_checksum`, of the header's bytes. -/
def ipv4HeaderChecksum (bytes : List UInt8) : Option UInt16 :=
  ((sumWords 0 bytes).bind foldCarries).map fun sum => ~~~ sum.toUInt16

/-- The assignment to `header_checksum`, which is big-endian. -/
def withChecksum (bytes : List UInt8) (checksum : UInt16) : List UInt8 :=
  (bytes.set 10 (checksum >>> 8).toUInt8).set 11 checksum.toUInt8

def words : List UInt8 → List Nat
  | [] => []
  | [high] => [high.toNat * 256]
  | high :: low :: rest => (high.toNat * 256 + low.toNat) :: words rest

theorem words_append : ∀ front back : List UInt8, front.length % 2 = 0 →
    words (front ++ back) = words front ++ words back
  | [], _, _ => rfl
  | [_], _, odd => absurd odd (by simp)
  | _ :: _ :: front, back, even => by
    rw [List.length_cons, List.length_cons] at even
    have later := words_append front back (by omega)
    simp [words, later]

theorem words_le : ∀ (bytes : List UInt8), ∀ word ∈ words bytes, word ≤ 65535
  | [high], word, member => by
    have := high.toNat_lt
    rw [words, List.mem_singleton] at member
    omega
  | high :: low :: rest, word, member => by
    have := high.toNat_lt
    have := low.toNat_lt
    rcases List.mem_cons.mp member with rfl | member
    · omega
    · exact words_le rest word member

theorem words_sum_le : ∀ bytes : List UInt8, (words bytes).sum ≤ 65535 * bytes.length
  | [] => Nat.le_refl 0
  | [high] => by
    have := high.toNat_lt
    simp only [words, List.sum_cons, List.sum_nil, List.length_singleton]
    omega
  | high :: low :: rest => by
    have := high.toNat_lt
    have := low.toNat_lt
    have := words_sum_le rest
    simp only [words, List.sum_cons, List.length_cons]
    omega

theorem fromBeBytes_toNat (high low : UInt8) : (fromBeBytes high low).toUInt32.toNat = high.toNat * 256 + low.toNat := by
  have := high.toNat_lt
  have := low.toNat_lt
  rw [UInt16.toNat_toUInt32, fromBeBytes]
  exact UInt16.toNat_ofNat_of_lt' (by change _ < 65536; omega)

theorem sumWords_sum : ∀ (bytes : List UInt8) (sum : UInt32), sum.toNat + (words bytes).sum < UInt32.size →
    ∃ total, sumWords sum bytes = some total ∧ total.toNat = sum.toNat + (words bytes).sum
  | [], sum, _ => ⟨sum, rfl, rfl⟩
  | [high], sum, fits => by
    have word := fromBeBytes_toNat high 0
    have value : (words [high]).sum = (fromBeBytes high 0).toUInt32.toNat := by simp [words, word]
    rw [value] at fits ⊢
    exact checkedAdd_fits fits
  | high :: low :: rest, sum, fits => by
    have word := fromBeBytes_toNat high low
    rw [words, List.sum_cons, ← word, ← Nat.add_assoc] at fits ⊢
    obtain ⟨next, added, value⟩ := checkedAdd_fits (Nat.lt_of_le_of_lt (Nat.le_add_right _ _) fits)
    rw [← value] at fits ⊢
    obtain ⟨total, later, whole⟩ := sumWords_sum rest next fits
    refine ⟨total, ?_, whole⟩
    rw [sumWords, added, Option.bind_some, later]

theorem folded_sum {bytes : List UInt8} (short : bytes.length ≤ 60) :
    ∃ word, (sumWords 0 bytes).bind foldCarries = some word ∧
      OnesComplement.Represents 65535 (words bytes).sum word.toNat := by
  have fits : (0 : UInt32).toNat + (words bytes).sum < UInt32.size := by
    have bound := words_sum_le bytes
    rw [UInt32.toNat_zero, Nat.zero_add]
    change _ < 4294967296
    omega
  obtain ⟨total, summed, value⟩ := sumWords_sum bytes 0 fits
  rw [UInt32.toNat_zero, Nat.zero_add] at value
  obtain ⟨word, folded, stands⟩ := foldCarries_represents total
  rw [value] at stands
  refine ⟨word, ?_, stands⟩
  rw [summed, Option.bind_some, folded]

theorem complement_toNat {word : UInt32} (bounded : word.toNat ≤ 65535) :
    (~~~ word.toUInt16).toNat = 65535 - word.toNat := by
  rw [UInt16.toNat_not, UInt32.toNat_toUInt16]
  change 65536 - 1 - _ = _
  omega

theorem checksum_halves (checksum : UInt16) :
    (checksum >>> 8).toUInt8.toNat * 256 + checksum.toUInt8.toNat = checksum.toNat := by
  have bound := checksum.toNat_lt
  have high : (checksum >>> 8).toNat = checksum.toNat / 256 := by
    rw [UInt16.toNat_shiftRight]
    exact Nat.shiftRight_eq_div_pow checksum.toNat 8
  rw [UInt16.toNat_toUInt8, UInt16.toNat_toUInt8, high]
  omega

theorem header_split {bytes : List UInt8} (highZero : bytes[10]? = some 0) (lowZero : bytes[11]? = some 0) :
    ∃ front back, bytes = front ++ 0 :: 0 :: back ∧ front.length = 10 := by
  obtain ⟨inside, high⟩ := List.getElem?_eq_some_iff.mp highZero
  obtain ⟨within, low⟩ := List.getElem?_eq_some_iff.mp lowZero
  refine ⟨bytes.take 10, bytes.drop 12, ?_, List.length_take_of_le (Nat.le_of_lt inside)⟩
  calc bytes = bytes.take 10 ++ bytes.drop 10 := (List.take_append_drop 10 bytes).symm
    _ = bytes.take 10 ++ 0 :: 0 :: bytes.drop 12 := by
      rw [List.drop_eq_getElem_cons inside, List.drop_eq_getElem_cons within, high, low]

theorem words_withChecksum {bytes : List UInt8} (highZero : bytes[10]? = some 0) (lowZero : bytes[11]? = some 0)
    (checksum : UInt16) :
    (words (withChecksum bytes checksum)).sum = (words bytes).sum + checksum.toNat := by
  obtain ⟨front, back, rfl, ten⟩ := header_split highZero lowZero
  have stored : withChecksum (front ++ 0 :: 0 :: back) checksum =
      front ++ (checksum >>> 8).toUInt8 :: checksum.toUInt8 :: back := by
    simp [withChecksum, ten]
  -- The field is a word of its own, as it starts at an even place.
  have even : front.length % 2 = 0 := by rw [ten]
  have halves := checksum_halves checksum
  rw [stored, words_append _ _ even, words_append _ _ even]
  simp only [words, List.sum_append, List.sum_cons, halves, UInt8.toNat_zero]
  omega

theorem withChecksum_length (bytes : List UInt8) (checksum : UInt16) :
    (withChecksum bytes checksum).length = bytes.length := by
  simp [withChecksum]

theorem foldRound_twice (sum : UInt32) :
    ∃ once twice, foldRound sum = some once ∧ foldRound once = some twice ∧ twice >>> 16 = 0 := by
  have bound := sum.toNat_lt
  obtain ⟨once, first, value⟩ := foldRound_carry sum
  obtain ⟨twice, second, final⟩ := foldRound_carry once
  refine ⟨once, twice, first, second, shifted_eq_zero.mpr ?_⟩
  unfold OnesComplement.carry at value final
  omega

theorem checksum_stored {bytes : List UInt8} (short : bytes.length ≤ 60) (highZero : bytes[10]? = some 0)
    (lowZero : bytes[11]? = some 0) :
    ∃ checksum, ipv4HeaderChecksum bytes = some checksum ∧
      OnesComplement.Represents 65535 (words (withChecksum bytes checksum)).sum 65535 := by
  obtain ⟨word, folded, stands⟩ := folded_sum short
  refine ⟨~~~ word.toUInt16, ?_, ?_⟩
  · rw [ipv4HeaderChecksum, folded, Option.map_some]
  · rw [words_withChecksum highZero lowZero, complement_toNat stands.bounded]
    exact OnesComplement.complement_represents (by decide) stands

/-- A header's checksum, stored, makes its one's-complement sum all ones, and the code's own loops say
so too. No sum overflows, and folding ends after two rounds at most. -/
theorem header_checksum_verifies (bytes : List UInt8) (short : bytes.length ≤ 60) (highZero : bytes[10]? = some 0)
    (lowZero : bytes[11]? = some 0) :
    (∃ checksum, ipv4HeaderChecksum bytes = some checksum ∧
      OnesComplement.sum 65535 (words (withChecksum bytes checksum)) = 65535 ∧
      (sumWords 0 (withChecksum bytes checksum)).bind foldCarries = some 65535) ∧
    ∀ sum : UInt32, ∃ once twice, foldRound sum = some once ∧ foldRound once = some twice ∧ twice >>> 16 = 0 := by
  refine ⟨?_, foldRound_twice⟩
  obtain ⟨checksum, computed, ones⟩ := checksum_stored short highZero lowZero
  refine ⟨checksum, computed, ?_, ?_⟩
  · exact (OnesComplement.sum_represents (words_le _)).unique ones
  · have length := withChecksum_length bytes checksum
    obtain ⟨word, folded, stands⟩ := folded_sum (Nat.le_trans (Nat.le_of_eq length) short)
    have full : word = 65535 := UInt32.toNat_inj.mp (stands.unique ones)
    rw [folded, full]

theorem header_checksum_verifies_example :
    ∃ checksum, ipv4HeaderChecksum [0x45, 0, 0, 20, 0, 0, 0, 0, 64, 59, 0, 0, 10, 63, 0, 2, 10, 63, 0, 2] =
        some checksum ∧
      OnesComplement.sum 65535 (words (withChecksum
        [0x45, 0, 0, 20, 0, 0, 0, 0, 64, 59, 0, 0, 10, 63, 0, 2, 10, 63, 0, 2] checksum)) = 65535 ∧
      (sumWords 0 (withChecksum
        [0x45, 0, 0, 20, 0, 0, 0, 0, 64, 59, 0, 0, 10, 63, 0, 2, 10, 63, 0, 2] checksum)).bind foldCarries =
        some 65535 :=
  (header_checksum_verifies _ (by decide) (by decide) (by decide)).1

end Checksum

section Probe

/-- `Ipv4Header::new`: the bytes of a header without options, its checksum zero. -/
structure HeaderLayout where
  bytes : (source destination : Vector UInt8 4) → (protocol : UInt8) → List UInt8
  length : ∀ source destination protocol, (bytes source destination protocol).length = 20
  protocol : ∀ source destination protocol, (bytes source destination protocol)[9]? = some protocol
  unsummed : ∀ source destination protocol,
    (bytes source destination protocol)[10]? = some 0 ∧ (bytes source destination protocol)[11]? = some 0
  addresses : ∀ source destination protocol,
    (bytes source destination protocol).drop 12 = source.toList ++ destination.toList

instance : Inhabited HeaderLayout where
  default :=
    { bytes := fun source destination protocol =>
        [0x45, 0, 0, 20, 0, 0, 0, 0, 64, protocol, 0, 0] ++ source.toList ++ destination.toList
      length := by simp
      protocol := fun _ _ _ => rfl
      unsummed := fun _ _ _ => ⟨rfl, rfl⟩
      addresses := fun _ _ _ => rfl }

def ipv6NoNxt : UInt8 := 59

variable (layout : HeaderLayout)

def WireGuardSpec.probeAddress (spec : WireGuardSpec) : IpAddr :=
  (spec.addresses.head?.map IpCidr.address).getD (.v4 (Vector.replicate 4 0))

def handshakeProbe (spec : WireGuardSpec) : Option (List UInt8) :=
  match spec.probeAddress with
  | .v4 address =>
      let header := layout.bytes address address ipv6NoNxt
      (ipv4HeaderChecksum header).map (withChecksum header)
  | .v6 address =>
      -- Version 6, no payload, then the next header and the hop limit.
      some ([0x60, 0x00, 0x00, 0x00] ++ [0, 0] ++ [ipv6NoNxt] ++ [64] ++ address.toList ++ address.toList)

theorem withChecksum_beside (bytes : List UInt8) (checksum : UInt16) :
    (withChecksum bytes checksum)[9]? = bytes[9]? ∧ (withChecksum bytes checksum).drop 12 = bytes.drop 12 := by
  simp [withChecksum, List.drop_set_of_lt]

/-- A probe is always built: a bare header from and to the tunnel's own address, with nothing behind it,
and with a checksum that verifies if it has one. -/
theorem handshakeProbe_built (spec : WireGuardSpec) :
    ∃ packet, handshakeProbe layout spec = some packet ∧
      match spec.probeAddress with
      | .v4 address => packet.length = 20 ∧ packet[9]? = some ipv6NoNxt ∧
          packet.drop 12 = address.toList ++ address.toList ∧ OnesComplement.sum 65535 (words packet) = 65535
      | .v6 address => packet.length = 40 ∧ packet[6]? = some ipv6NoNxt ∧
          packet.drop 8 = address.toList ++ address.toList := by
  unfold handshakeProbe
  cases spec.probeAddress with
  | v4 address =>
    have length := layout.length address address ipv6NoNxt
    obtain ⟨high, low⟩ := layout.unsummed address address ipv6NoNxt
    obtain ⟨checksum, computed, ones⟩ := checksum_stored (by omega) high low
    obtain ⟨protocol, addresses⟩ := withChecksum_beside (layout.bytes address address ipv6NoNxt) checksum
    refine ⟨withChecksum (layout.bytes address address ipv6NoNxt) checksum, ?_, ?_, ?_, ?_, ?_⟩
    · dsimp only
      rw [computed, Option.map_some]
    · rw [withChecksum_length, length]
    · rw [protocol, layout.protocol]
    · rw [addresses, layout.addresses]
    · exact (OnesComplement.sum_represents (words_le _)).unique ones
  | v6 address =>
    refine ⟨_, rfl, ?_, rfl, rfl⟩
    simp

end Probe

end ProxyTunnels.Wireguard
