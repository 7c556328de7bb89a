import ProxyTunnels.Http3.Qpack.Huffman
import ProxyTunnels.Http3.Qpack.PrefixInt

/-! String literals of QPACK: a length with a bit prefix, then the bytes.

The lowest bit in front of the length says whether the bytes are Huffman coded. The
encoder always codes them, the decoder takes both.
-/

set_option autoImplicit false

namespace ProxyTunnels.Http3.Qpack

/-- `prefix_string::Error`. The lengths of a 64-bit target convert, so `BufSize` does not
arise; nor does `HuffmanEncoding`, which nothing returns. -/
inductive StringError where
  | unexpectedEnd
  | integer (error : IntegerError)
  | huffmanDecoding (error : HuffmanDecodingError)
  deriving DecidableEq, Repr

/-- `From<IntegerError> for Error`. -/
def IntegerError.toStringError : IntegerError → StringError
  | .unexpectedEnd => .unexpectedEnd
  | error => .integer error

/-- `prefix_string::decode`. -/
def decodeString (size : Nat) (bytes : List UInt8) : Except StringError (List UInt8 × List UInt8) :=
  match decodeInt (size - 1) bytes with
  | .error error => .error error.toStringError
  | .ok (flags, len, rest) =>
    if rest.length < len then .error .unexpectedEnd
    else if flags &&& 1 = 0 then .ok (rest.take len, rest.drop len)
    else
      match hpackDecode (rest.take len) with
      | .ok value => .ok (value, rest.drop len)
      | .error error => .error (.huffmanDecoding error)

/-- `prefix_string::encode`. A panic of the Huffman coder is `none`. -/
def encodeString (size : Nat) (flags : UInt8) (value : List UInt8) : Option (List UInt8) :=
  match hpackEncode value with
  | none => none
  | some encoded => some (encodeInt (size - 1) (flags <<< 1 ||| 1) encoded.length ++ encoded)

theorem odd_coded (flags : UInt8) : (flags <<< 1 ||| 1).toNat % 2 = 1 := by
  have bit : (flags <<< 1 ||| 1).toNat.testBit 0 = true := by
    rw [UInt8.toNat_or, Nat.testBit_or]
    exact Bool.or_true _
  rw [Nat.testBit_zero] at bit
  exact of_decide_eq_true bit

theorem coded_flag {size : Nat} (most : size ≤ 8) (flags : UInt8) :
    UInt8.ofNat ((flags <<< 1 ||| 1).toNat % 2 ^ (8 - (size - 1))) &&& 1 ≠ 0 := by
  intro cleared
  have even : (2 : Nat) ∣ 2 ^ (8 - (size - 1)) := dvd_pow_self 2 (by omega)
  have odd := odd_coded flags
  have value := congrArg UInt8.toNat cleared
  rw [UInt8.toNat_and, UInt8.toNat_ofNat', UInt8.toNat_one, Nat.and_one_is_mod, Nat.mod_mod_of_dvd _ (by decide : 2 ∣ 2 ^ 8),
    Nat.mod_mod_of_dvd _ even, odd] at value
  cases value

/-- A string is encoded without a panic and read back, whatever is behind it. Its first
byte shows the flags. -/
theorem decodeString_encodeString {size : Nat} (most : size ≤ 8) (flags : UInt8) {value : List UInt8}
    (short : value.length < 134217728) :
    ∃ first tail, encodeString size flags value = some (first :: tail) ∧
      2 ^ (size - 1) * ((flags <<< 1 ||| 1).toNat % 2 ^ (8 - (size - 1))) ≤ first.toNat ∧
      first.toNat < 2 ^ (size - 1) * ((flags <<< 1 ||| 1).toNat % 2 ^ (8 - (size - 1)) + 1) ∧
      ∀ rest, decodeString size (first :: tail ++ rest) = .ok (value, rest) := by
  obtain ⟨encoded, coded, bound, decoded⟩ := hpackDecode_hpackEncode short
  obtain ⟨first, tail, bytes, least, below⟩ :=
    encodeInt_head (show size - 1 ≤ 8 by omega) (flags <<< 1 ||| 1) encoded.length
  refine ⟨first, tail ++ encoded, by simp only [encodeString, coded, bytes, List.cons_append], least, below, ?_⟩
  intro rest
  rw [← List.cons_append, ← bytes, decodeString, List.append_assoc, decodeInt_encodeInt (by omega), if_pos (by omega)]
  simp only
  rw [if_neg (by rw [List.length_append]; omega), if_neg (coded_flag most flags), List.take_left, List.drop_left]
  simp only [decoded]

theorem encodeString_length {size : Nat} {flags : UInt8} {value bytes : List UInt8} (short : value.length < 134217728)
    (written : encodeString size flags value = some bytes) : bytes.length ≤ 1073741824 := by
  obtain ⟨encoded, coded, bound, -⟩ := hpackDecode_hpackEncode short
  have count := encodeInt_length (size - 1) (flags <<< 1 ||| 1) encoded.length
  simp only [encodeString, coded, Option.some.injEq] at written
  rw [← written, List.length_append]
  omega

theorem decodeString_length {size : Nat} (most : size ≤ 8) {bytes rest value : List UInt8}
    (decoded : decodeString size bytes = .ok (value, rest)) : rest.length < bytes.length := by
  unfold decodeString at decoded
  cases counted : decodeInt (size - 1) bytes with
  | error error => simp [counted] at decoded
  | ok result =>
    obtain ⟨flags, len, tail⟩ := result
    have shorter := (decodeInt_lt (by omega) counted).2
    have kept : (tail.drop len).length < bytes.length := by
      rw [List.length_drop]
      omega
    simp only [counted] at decoded
    split at decoded
    · cases decoded
    · split at decoded
      · cases decoded
        exact kept
      · cases coded : hpackDecode (tail.take len) with
        | error error => simp [coded] at decoded
        | ok value =>
          simp only [coded, Except.ok.injEq, Prod.mk.injEq] at decoded
          exact decoded.2 ▸ kept

end ProxyTunnels.Http3.Qpack
