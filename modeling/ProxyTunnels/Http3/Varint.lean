import Mathlib.Algebra.Ring.Nat
import Mathlib.Data.List.Basic

/-! QUIC variable-length integers, as `VarInt::decode` reads them.

The two high bits of the first byte give the length of the encoding: one, two, four
or eight bytes. Encodings need not be minimal.
-/

set_option autoImplicit false

namespace ProxyTunnels.Http3

/-- `from_be_bytes` over any number of bytes. -/
def beValue (bytes : List UInt8) : Nat :=
  bytes.foldl (fun value byte => value * 256 + byte.toNat) 0

/-- `encoded_size`: how many bytes an encoding takes, from its first byte. -/
def encodedSize (first : UInt8) : Nat := 2 ^ (first.toNat / 64)

/-- `VarInt::decode`. The error is the count carried by `UnexpectedEnd`. -/
def getVar : List UInt8 → Except Nat (Nat × List UInt8)
  | [] => .error 0
  | first :: rest =>
      let size := encodedSize first
      if rest.length < size - 1 then .error (first.toNat / 64)
      else .ok (beValue (UInt8.ofNat (first.toNat % 64) :: rest.take (size - 1)), rest.drop (size - 1))

theorem getVar_append {bytes rest : List UInt8} {value : Nat} (decoded : getVar bytes = .ok (value, rest))
    (more : List UInt8) : getVar (bytes ++ more) = .ok (value, rest ++ more) := by
  cases bytes with
  | nil => cases decoded
  | cons first tail =>
    simp only [getVar, List.cons_append] at decoded ⊢
    split at decoded
    · cases decoded
    · rename_i enough
      have fits : encodedSize first - 1 ≤ tail.length := Nat.le_of_not_lt enough
      cases decoded
      rw [if_neg (by rw [List.length_append]; omega), List.take_append_of_le_length fits,
        List.drop_append_of_le_length fits]

theorem getVar_length {bytes rest : List UInt8} {value : Nat}
    (decoded : getVar bytes = .ok (value, rest)) : rest.length < bytes.length := by
  cases bytes with
  | nil => cases decoded
  | cons first tail =>
    simp only [getVar] at decoded
    split at decoded
    · cases decoded
    · cases decoded
      simp only [List.length_drop, List.length_cons]
      omega

theorem getVar_suffix {bytes rest : List UInt8} {value : Nat}
    (decoded : getVar bytes = .ok (value, rest)) : ∃ front, bytes = front ++ rest := by
  cases bytes with
  | nil => cases decoded
  | cons first tail =>
    simp only [getVar] at decoded
    split at decoded
    · cases decoded
    · cases decoded
      exact ⟨first :: tail.take (encodedSize first - 1), by simp⟩

theorem getVar_error {bytes : List UInt8} {count : Nat} (failed : getVar bytes = .error count) :
    count ≤ bytes.length + 2 := by
  cases bytes with
  | nil =>
    cases failed
    exact Nat.zero_le _
  | cons first tail =>
    simp only [getVar] at failed
    split at failed
    · cases failed
      have small := first.toNat_lt
      simp only [List.length_cons]
      omega
    · cases failed

theorem getVar_length_two {bytes rest : List UInt8} {value : Nat}
    (decoded : getVar bytes = .ok (value, rest)) (large : 64 ≤ value) :
    rest.length + 2 ≤ bytes.length := by
  cases bytes with
  | nil => cases decoded
  | cons first tail =>
    simp only [getVar] at decoded
    split at decoded
    · cases decoded
    · rename_i enough
      cases decoded
      by_cases single : encodedSize first - 1 = 0
      · -- one byte holds six bits
        rw [single] at large
        simp only [List.take_zero, beValue, List.foldl_cons, List.foldl_nil, Nat.zero_mul, Nat.zero_add,
          UInt8.toNat_ofNat'] at large
        omega
      · simp only [List.length_drop, List.length_cons]
        omega

/-- An encoding of `value`, with nothing after it. -/
def Encodes (bytes : List UInt8) (value : Nat) : Prop := getVar bytes = .ok (value, [])

theorem Encodes.getVar_append {bytes : List UInt8} {value : Nat} (encoded : Encodes bytes value)
    (more : List UInt8) : getVar (bytes ++ more) = .ok (value, more) :=
  Http3.getVar_append encoded more

end ProxyTunnels.Http3
