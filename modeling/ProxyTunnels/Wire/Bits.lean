import Mathlib.Data.List.Basic
import Mathlib.Data.List.GetD
import Mathlib.Data.List.Induction
import Mathlib.Algebra.Ring.Nat

/-! Byte strings as bit strings, the most significant bit of a byte first.

Codecs that pack codes of any width into bytes are stated over positions (`bitAt`) and
proved about over lists (`bits`): a write at a position is an append, a read is a take.
-/

set_option autoImplicit false

namespace ProxyTunnels.Wire

theorem forall_byte {P : UInt8 → Prop} (each : ∀ value < 256, P (UInt8.ofNat value)) (byte : UInt8) : P byte := by
  have here := each byte.toNat byte.toNat_lt
  rwa [UInt8.ofNat_toNat] at here

/-- The bit at a position, counted from the first byte's most significant bit. -/
def bitAt (bytes : List UInt8) (position : Nat) : Bool :=
  (bytes.getD (position / 8) 0).toNat.testBit (7 - position % 8)

def bits (bytes : List UInt8) : List Bool :=
  (List.range (8 * bytes.length)).map (bitAt bytes)

/-- The `count` low bits of a number, most significant first. -/
def lowBits (count value : Nat) : List Bool :=
  (List.range count).map fun index => value.testBit (count - 1 - index)

def bitsValue (string : List Bool) : Nat :=
  string.foldl (fun value bit => 2 * value + bit.toNat) 0

@[simp] theorem length_bits (bytes : List UInt8) : (bits bytes).length = 8 * bytes.length := by
  simp [bits]

@[simp] theorem length_lowBits (count value : Nat) : (lowBits count value).length = count := by
  simp [lowBits]

@[simp] theorem lowBits_zero (value : Nat) : lowBits 0 value = [] := rfl

theorem getElem?_bits {bytes : List UInt8} {position : Nat} (inside : position < 8 * bytes.length) :
    (bits bytes)[position]? = some (bitAt bytes position) := by
  simp [bits, List.getElem?_map, List.getElem?_range inside]

theorem getElem?_lowBits {count value index : Nat} (inside : index < count) :
    (lowBits count value)[index]? = some (value.testBit (count - 1 - index)) := by
  simp [lowBits, List.getElem?_map, List.getElem?_range inside]

theorem bits_eq {bytes : List UInt8} {string : List Bool} (length : string.length = 8 * bytes.length)
    (agree : ∀ position, position < 8 * bytes.length → string[position]? = some (bitAt bytes position)) :
    bits bytes = string := by
  apply List.ext_getElem?
  intro position
  by_cases inside : position < 8 * bytes.length
  · rw [getElem?_bits inside, agree position inside]
  · rw [List.getElem?_eq_none (by rw [length_bits]; omega), List.getElem?_eq_none (by omega)]

theorem bitAt_set {bytes : List UInt8} {index position : Nat} {byte : UInt8} (inside : index < bytes.length) :
    bitAt (bytes.set index byte) position =
      if position / 8 = index then byte.toNat.testBit (7 - position % 8) else bitAt bytes position := by
  unfold bitAt
  by_cases here : position / 8 = index
  · subst here
    rw [if_pos rfl, List.getD_eq_getElem?_getD, List.getElem?_set_self inside]
    rfl
  · rw [if_neg here, List.getD_eq_getElem?_getD, List.getD_eq_getElem?_getD,
      List.getElem?_set_ne (Ne.symm here)]

theorem bitAt_append_left {front back : List UInt8} {position : Nat} (inside : position < 8 * front.length) :
    bitAt (front ++ back) position = bitAt front position := by
  unfold bitAt
  rw [List.getD_append _ _ _ _ (by omega)]

theorem bitAt_append_ones {front : List UInt8} {count position : Nat} (beyond : 8 * front.length ≤ position)
    (inside : position < 8 * (front.length + count)) :
    bitAt (front ++ List.replicate count 255) position = true := by
  unfold bitAt
  rw [List.getD_append_right _ _ _ _ (by omega), List.getD_replicate _ (by omega)]
  have every : ∀ index, index < 8 → (255 : UInt8).toNat.testBit (7 - index) = true := by decide
  exact every _ (Nat.mod_lt _ (by decide))

theorem lowBits_add (high low value : Nat) :
    lowBits (high + low) value = lowBits high (value >>> low) ++ lowBits low value := by
  apply List.ext_getElem?
  intro index
  by_cases first : index < high
  · rw [List.getElem?_append_left (by simpa using first), getElem?_lowBits (by omega),
      getElem?_lowBits first, Nat.testBit_shiftRight]
    congr 2
    omega
  · rw [List.getElem?_append_right (by simpa using Nat.le_of_not_lt first), length_lowBits]
    by_cases second : index < high + low
    · rw [getElem?_lowBits second, getElem?_lowBits (by omega)]
      congr 2
      omega
    · rw [List.getElem?_eq_none (by simp only [length_lowBits]; omega),
        List.getElem?_eq_none (by simp only [length_lowBits]; omega)]

@[simp] theorem bitsValue_nil : bitsValue [] = 0 := rfl

theorem bitsValue_concat (string : List Bool) (bit : Bool) :
    bitsValue (string ++ [bit]) = 2 * bitsValue string + bit.toNat := by
  simp [bitsValue, List.foldl_append]

theorem bitsValue_lt (string : List Bool) : bitsValue string < 2 ^ string.length := by
  induction string using List.reverseRecOn with
  | nil => simp
  | append_singleton string bit ih =>
    rw [bitsValue_concat, List.length_append, List.length_singleton, Nat.pow_succ]
    have small := Bool.toNat_le bit
    omega

theorem bitsValue_eq_ones (string : List Bool) : bitsValue string = 2 ^ string.length - 1 ↔ string.all id = true := by
  induction string using List.reverseRecOn with
  | nil => simp
  | append_singleton string bit ih =>
    have below := bitsValue_lt string
    rw [bitsValue_concat, List.length_append, List.length_singleton, Nat.pow_succ, List.all_append, Bool.and_eq_true, ← ih]
    cases bit with
    | false =>
      simp only [Bool.toNat_false, List.all_cons, List.all_nil, id_eq, Bool.and_true, Bool.false_eq_true, and_false, iff_false]
      omega
    | true =>
      simp only [Bool.toNat_true, List.all_cons, List.all_nil, id_eq, Bool.and_true, and_true]
      omega

theorem lowBits_bitsValue (string : List Bool) : lowBits string.length (bitsValue string) = string := by
  induction string using List.reverseRecOn with
  | nil => rfl
  | append_singleton string bit ih =>
    have shifted : (2 * bitsValue string + bit.toNat) >>> 1 = bitsValue string := by
      have small := Bool.toNat_le bit
      rw [Nat.shiftRight_eq_div_pow]
      omega
    have last : (2 * bitsValue string + bit.toNat).testBit 0 = bit := by
      cases bit <;> simp [Nat.testBit_zero]
    rw [bitsValue_concat, List.length_append, List.length_singleton, lowBits_add, shifted, ih]
    simp only [lowBits, List.range_one, List.map_cons, List.map_nil, Nat.sub_self, last]

theorem bitsValue_lowBits {count value : Nat} (small : value < 2 ^ count) :
    bitsValue (lowBits count value) = value := by
  induction count generalizing value with
  | zero => simpa using (Nat.lt_one_iff.mp (by simpa using small)).symm
  | succ count ih =>
    have half : value >>> 1 < 2 ^ count := by
      rw [Nat.shiftRight_eq_div_pow]
      rw [Nat.pow_succ] at small
      omega
    have last : lowBits 1 value = [value.testBit 0] := rfl
    rw [lowBits_add, last, bitsValue_concat, ih half, Nat.shiftRight_eq_div_pow, Nat.testBit_zero]
    have parity := Nat.mod_two_eq_zero_or_one value
    rcases parity with even | odd
    · simp only [even, Nat.zero_ne_one, decide_false, Bool.toNat_false]
      omega
    · simp only [odd, decide_true, Bool.toNat_true]
      omega

theorem eq_bitsValue {string : List Bool} {value : Nat} (small : value < 2 ^ string.length)
    (agree : ∀ index, index < string.length →
      string[index]? = some (value.testBit (string.length - 1 - index))) : value = bitsValue string := by
  have same : lowBits string.length value = string := by
    apply List.ext_getElem?
    intro index
    by_cases inside : index < string.length
    · rw [getElem?_lowBits inside, agree index inside]
    · rw [List.getElem?_eq_none (by rw [length_lowBits]; omega), List.getElem?_eq_none (by omega)]
  rw [← bitsValue_lowBits small, same]

/-- A byte string holds the bits written to it so far, and ones after them. -/
def Filled (bytes : List UInt8) (written : List Bool) : Prop :=
  ∀ position, position < 8 * bytes.length → bitAt bytes position = written.getD position true

theorem Filled.nil : Filled [] [] := by
  intro position inside
  simp at inside

theorem Filled.append_ones {bytes : List UInt8} {written : List Bool} (filled : Filled bytes written)
    (within : written.length ≤ 8 * bytes.length) (count : Nat) :
    Filled (bytes ++ List.replicate count 255) written := by
  intro position inside
  rw [List.length_append, List.length_replicate] at inside
  by_cases old : position < 8 * bytes.length
  · rw [bitAt_append_left old, filled position old]
  · rw [bitAt_append_ones (Nat.le_of_not_lt old) inside, List.getD_eq_default _ _ (by omega)]

theorem Filled.bits {bytes : List UInt8} {written : List Bool} (filled : Filled bytes written)
    (within : written.length ≤ 8 * bytes.length) :
    bits bytes = written ++ List.replicate (8 * bytes.length - written.length) true := by
  apply bits_eq
  · simp only [List.length_append, List.length_replicate]
    omega
  · intro position inside
    rw [filled position inside]
    by_cases old : position < written.length
    · rw [List.getElem?_append_left old, List.getD_eq_getElem _ _ old, List.getElem?_eq_getElem old]
    · rw [List.getElem?_append_right (Nat.le_of_not_lt old), List.getD_eq_default _ _ (Nat.le_of_not_lt old),
        List.getElem?_replicate, if_pos (by omega)]

theorem getD_append_lowBits (written : List Bool) (count value position : Nat) :
    (written ++ lowBits count value).getD position true =
      if position < written.length then written.getD position true
      else if position < written.length + count then value.testBit (written.length + count - 1 - position)
      else true := by
  by_cases old : position < written.length
  · rw [if_pos old, List.getD_append _ _ _ _ old]
  · rw [if_neg old, List.getD_append_right _ _ _ _ (Nat.le_of_not_lt old)]
    by_cases new : position < written.length + count
    · rw [if_pos new, List.getD_eq_getElem?_getD, getElem?_lowBits (by omega), Option.getD_some]
      congr 1
      omega
    · rw [if_neg new, List.getD_eq_default _ _ (by rw [length_lowBits]; omega)]

end ProxyTunnels.Wire
