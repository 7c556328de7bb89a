import Mathlib.Algebra.Ring.Nat
import Mathlib.Tactic.Ring

/-! Integers with a bit prefix, as QPACK writes them.

The prefix leaves `size` bits of the first byte. A value that does not fit below their
largest pattern continues in groups of seven bits, the least significant first. The
decoder takes nine groups, the encoder writes as many as the value needs.
-/

set_option autoImplicit false

namespace ProxyTunnels.Http3.Qpack

/-- `prefix_int::Error`. -/
inductive IntegerError where
  | overflow
  | unexpectedEnd
  deriving DecidableEq, Repr

/-- The loop of `decode`. The sum stays below 2^64, see `decodeInt_lt`. -/
def decodeGroups (value power : Nat) : List UInt8 → Except IntegerError (Nat × List UInt8)
  | [] => .error .unexpectedEnd
  | byte :: rest =>
      let value := value + (byte.toNat &&& 127) <<< power
      let power := power + 7
      if byte.toNat &&& 128 = 0 then .ok (value, rest)
      else if 63 ≤ power then .error .overflow
      else decodeGroups value power rest

/-- `prefix_int::decode`, with `size` from 1 to 8: the bits in front, the value and what
follows it. -/
def decodeInt (size : Nat) : List UInt8 → Except IntegerError (UInt8 × Nat × List UInt8)
  | [] => .error .unexpectedEnd
  | first :: rest =>
      let flags := UInt8.ofNat (first.toNat >>> size)
      let mask := 255 >>> (8 - size)
      let first := first.toNat &&& mask
      if first < mask then .ok (flags, first, rest)
      else
        match decodeGroups mask 0 rest with
        | .ok (value, rest) => .ok (flags, value, rest)
        | .error error => .error error

/-- The loop of `encode`. -/
def encodeGroups (remaining : Nat) : List UInt8 :=
  if remaining < 128 then [UInt8.ofNat remaining]
  else UInt8.ofNat (remaining % 128 + 128) :: encodeGroups (remaining / 128)

/-- `prefix_int::encode`. The masks are the low bytes of the shifted words. -/
def encodeInt (size : Nat) (flags : UInt8) (value : Nat) : List UInt8 :=
  let mask := 255 - (255 <<< size) % 256
  let flags := UInt8.ofNat (flags.toNat <<< size)
  if value < mask then [flags ||| UInt8.ofNat value]
  else (UInt8.ofNat mask ||| flags) :: encodeGroups (value - mask)

section Bytes

def intMask (size : Nat) : Nat := 2 ^ size - 1

theorem decodeMask {size : Nat} (most : size ≤ 8) : 255 >>> (8 - size) = intMask size := by
  have table : ∀ size < 9, 255 >>> (8 - size) = intMask size := by decide
  exact table size (by omega)

theorem encodeMask {size : Nat} (most : size ≤ 8) : 255 - (255 <<< size) % 256 = intMask size := by
  have table : ∀ size < 9, 255 - (255 <<< size) % 256 = intMask size := by decide
  exact table size (by omega)

theorem lowBits_of_byte (byte : Nat) : byte &&& 127 = byte % 128 := Nat.and_two_pow_sub_one_eq_mod byte 7

theorem continues_iff {byte : Nat} (small : byte < 256) : byte &&& 128 = 0 ↔ byte < 128 := by
  have table : ∀ byte < 256, byte &&& 128 = 0 ↔ byte < 128 := by decide +kernel
  exact table byte small

theorem toNat_first {size value : Nat} (most : size ≤ 8) (flags : UInt8) (small : value ≤ intMask size) :
    (UInt8.ofNat (flags.toNat <<< size) ||| UInt8.ofNat value).toNat =
      2 ^ size * (flags.toNat % 2 ^ (8 - size)) + value := by
  have positive : 0 < 2 ^ size := Nat.two_pow_pos size
  have wide : 2 ^ size ≤ 2 ^ 8 := Nat.pow_le_pow_right (by decide) most
  have below : value < 2 ^ size := by
    unfold intMask at small
    omega
  have byte : 2 ^ 8 = 2 ^ size * 2 ^ (8 - size) := by
    rw [← Nat.pow_add, Nat.add_sub_cancel' most]
  have high : (UInt8.ofNat (flags.toNat <<< size)).toNat = 2 ^ size * (flags.toNat % 2 ^ (8 - size)) := by
    rw [UInt8.toNat_ofNat', Nat.shiftLeft_eq, Nat.mul_comm, byte, Nat.mul_mod_mul_left]
  have low : (UInt8.ofNat value).toNat = value := by
    rw [UInt8.toNat_ofNat', Nat.mod_eq_of_lt (by omega)]
  rw [UInt8.toNat_or, high, low, ← Nat.two_pow_add_eq_or_of_lt below]

end Bytes

theorem encodeInt_head {size : Nat} (most : size ≤ 8) (flags : UInt8) (value : Nat) :
    ∃ first tail, encodeInt size flags value = first :: tail ∧
      2 ^ size * (flags.toNat % 2 ^ (8 - size)) ≤ first.toNat ∧
      first.toNat < 2 ^ size * (flags.toNat % 2 ^ (8 - size) + 1) := by
  have positive := Nat.two_pow_pos size
  have mask : intMask size = 2 ^ size - 1 := rfl
  unfold encodeInt
  simp only [encodeMask most]
  by_cases small : value < intMask size
  · refine ⟨_, [], if_pos small, ?_⟩
    rw [toNat_first most flags (Nat.le_of_lt small), Nat.mul_add_one]
    omega
  · refine ⟨_, _, if_neg small, ?_⟩
    rw [UInt8.or_comm, toNat_first most flags (Nat.le_refl _), Nat.mul_add_one]
    omega

theorem decodeGroups_encodeGroups {remaining value groups : Nat} (few : groups < 9) (rest : List UInt8) :
    decodeGroups value (7 * groups) (encodeGroups remaining ++ rest) =
      if remaining < 2 ^ (63 - 7 * groups) then .ok (value + remaining <<< (7 * groups), rest)
      else .error .overflow := by
  induction remaining using Nat.strongRecOn generalizing value groups with
  | ind remaining ih =>
    have step : 2 ^ (63 - 7 * groups) = 2 ^ 7 * 2 ^ (56 - 7 * groups) := by
      rw [← Nat.pow_add]
      congr 1
      omega
    have positive := Nat.two_pow_pos (56 - 7 * groups)
    rw [encodeGroups]
    by_cases last : remaining < 128
    · have byte : (UInt8.ofNat remaining).toNat = remaining := by
        rw [UInt8.toNat_ofNat', Nat.mod_eq_of_lt (by omega)]
      rw [if_pos last, if_pos (by omega), List.singleton_append, decodeGroups, byte, lowBits_of_byte,
        if_pos ((continues_iff (by omega)).mpr last), Nat.mod_eq_of_lt last]
    · have byte : (UInt8.ofNat (remaining % 128 + 128)).toNat = remaining % 128 + 128 := by
        rw [UInt8.toNat_ofNat', Nat.mod_eq_of_lt (by omega)]
      rw [if_neg last, List.cons_append, decodeGroups, byte, lowBits_of_byte,
        if_neg (by rw [continues_iff (by omega)]; omega), Nat.add_mod_right, Nat.mod_mod]
      by_cases ninth : groups = 8
      · subst ninth
        rw [if_pos (by decide), if_neg (by omega)]
      · have shifted : value + (remaining % 128) <<< (7 * groups) + (remaining / 128) <<< (7 * (groups + 1)) =
            value + remaining <<< (7 * groups) := by
          have split := Nat.div_add_mod remaining 128
          rw [Nat.shiftLeft_eq, Nat.shiftLeft_eq, Nat.shiftLeft_eq, Nat.mul_succ, Nat.pow_add]
          nth_rewrite 3 [← split]
          ring
        have next : 63 - 7 * (groups + 1) = 56 - 7 * groups := by omega
        rw [if_neg (by omega), ← Nat.mul_succ, ih (remaining / 128) (by omega) (by omega), shifted, next]
        by_cases fits : remaining < 2 ^ (63 - 7 * groups)
        · rw [if_pos fits, if_pos (by omega)]
        · rw [if_neg fits, if_neg (by omega)]

/-- An encoded integer is read back, with the bits in front that fit there, exactly if it
needs no more than nine groups. -/
theorem decodeInt_encodeInt {size : Nat} (most : size ≤ 8) (flags : UInt8) (value : Nat)
    (rest : List UInt8) :
    decodeInt size (encodeInt size flags value ++ rest) =
      if value < 2 ^ 63 + (2 ^ size - 1) then .ok (UInt8.ofNat (flags.toNat % 2 ^ (8 - size)), value, rest)
      else .error .overflow := by
  have positive : 0 < 2 ^ size := Nat.two_pow_pos size
  -- what the decoder makes of a first byte
  have front : ∀ pattern, pattern ≤ intMask size → ∀ byte : UInt8,
      byte.toNat = 2 ^ size * (flags.toNat % 2 ^ (8 - size)) + pattern →
      byte.toNat >>> size = flags.toNat % 2 ^ (8 - size) ∧ byte.toNat &&& intMask size = pattern := by
    intro pattern small byte value
    have below : pattern < 2 ^ size := by
      unfold intMask at small
      omega
    rw [value, Nat.shiftRight_eq_div_pow, intMask, Nat.and_two_pow_sub_one_eq_mod, Nat.mul_add_div positive,
      Nat.mul_add_mod, Nat.div_eq_of_lt below, Nat.mod_eq_of_lt below]
    exact ⟨rfl, rfl⟩
  unfold encodeInt
  simp only [encodeMask most]
  by_cases small : value < intMask size
  · obtain ⟨high, low⟩ := front value (Nat.le_of_lt small) _ (toNat_first most flags (Nat.le_of_lt small))
    rw [if_pos small, List.singleton_append, decodeInt, decodeMask most, high, low, if_pos small, if_pos]
    have mask : intMask size = 2 ^ size - 1 := rfl
    omega
  · obtain ⟨high, low⟩ := front (intMask size) (Nat.le_refl _) _ (toNat_first most flags (Nat.le_refl _))
    have mask : intMask size = 2 ^ size - 1 := rfl
    rw [if_neg small, List.cons_append, decodeInt, UInt8.or_comm, decodeMask most, high, low, if_neg (Nat.lt_irrefl _),
      ← Nat.mul_zero 7, decodeGroups_encodeGroups (by decide)]
    simp only [Nat.mul_zero, Nat.sub_zero, Nat.shiftLeft_zero]
    by_cases fits : value < 2 ^ 63 + (2 ^ size - 1)
    · rw [if_pos fits, if_pos (by omega)]
      simp only [Except.ok.injEq, Prod.mk.injEq, true_and, and_true]
      omega
    · rw [if_neg fits, if_neg (by omega)]

theorem encodeGroups_length (remaining : Nat) : (encodeGroups remaining).length ≤ remaining + 1 := by
  induction remaining using Nat.strongRecOn with
  | ind remaining ih =>
    rw [encodeGroups]
    split
    · rw [List.length_singleton]
      omega
    · have shorter := ih (remaining / 128) (by omega)
      rw [List.length_cons]
      omega

theorem encodeInt_length (size : Nat) (flags : UInt8) (value : Nat) : (encodeInt size flags value).length ≤ value + 2 := by
  unfold encodeInt
  simp only
  split
  · rw [List.length_singleton]
    omega
  · have groups := encodeGroups_length (value - (255 - (255 <<< size) % 256))
    rw [List.length_cons]
    omega

theorem decodeGroups_lt {bytes rest : List UInt8} {first value groups : Nat} (few : groups < 9)
    (decoded : decodeGroups first (7 * groups) bytes = .ok (value, rest)) :
    value + 2 ^ (7 * groups) ≤ first + 2 ^ 63 ∧ rest.length < bytes.length := by
  induction bytes generalizing first groups with
  | nil => cases decoded
  | cons byte bytes ih =>
    simp only [decodeGroups, lowBits_of_byte] at decoded
    have most : (byte.toNat % 128) <<< (7 * groups) + 2 ^ (7 * groups) ≤ 2 ^ (7 * (groups + 1)) := by
      have small : byte.toNat % 128 < 128 := Nat.mod_lt _ (by decide)
      rw [Nat.shiftLeft_eq, Nat.mul_succ, Nat.pow_add, ← Nat.succ_mul, Nat.mul_comm]
      exact Nat.mul_le_mul_left _ small
    split at decoded
    · have all : 2 ^ (7 * (groups + 1)) ≤ 2 ^ 63 := Nat.pow_le_pow_right (by decide) (by omega)
      cases decoded
      exact ⟨by omega, Nat.lt_succ_self _⟩
    · split at decoded
      · cases decoded
      · rw [show 7 * groups + 7 = 7 * (groups + 1) by omega] at decoded
        obtain ⟨bound, shorter⟩ := ih (by omega) decoded
        exact ⟨by omega, Nat.lt_succ_of_lt shorter⟩

/-- A decoded integer is far from the end of the `u64` range, so no addition overflowed. -/
theorem decodeInt_lt {size : Nat} (most : size ≤ 8) {bytes rest : List UInt8} {flags : UInt8} {value : Nat}
    (decoded : decodeInt size bytes = .ok (flags, value, rest)) :
    value < 2 ^ 63 + 2 ^ size ∧ rest.length < bytes.length := by
  cases bytes with
  | nil => cases decoded
  | cons byte bytes =>
    have mask : intMask size = 2 ^ size - 1 := rfl
    have positive := Nat.two_pow_pos size
    simp only [decodeInt, decodeMask most] at decoded
    split at decoded
    · cases decoded
      exact ⟨by omega, Nat.lt_succ_self _⟩
    · cases tail : decodeGroups (intMask size) 0 bytes with
      | error error => simp [tail] at decoded
      | ok result =>
        simp only [tail, Except.ok.injEq, Prod.mk.injEq] at decoded
        obtain ⟨-, rfl, rfl⟩ := decoded
        obtain ⟨bound, shorter⟩ := decodeGroups_lt (by decide : 0 < 9) tail
        exact ⟨by omega, Nat.lt_succ_of_lt shorter⟩

end ProxyTunnels.Http3.Qpack
