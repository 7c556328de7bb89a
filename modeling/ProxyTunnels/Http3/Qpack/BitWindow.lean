import ProxyTunnels.Wire.Bits

/-! The bit windows of the vendored Huffman coder: a position in a byte string, and reads
and writes of up to eight bits there.

Positions are `u32`, so a byte string of 2^29 bytes or more has bits the coder cannot
count. The results below are about shorter ones.
-/

set_option autoImplicit false

namespace ProxyTunnels.Http3.Qpack

open Wire

/-- `u32` arithmetic wraps. -/
def wrapU32 (value : Nat) : Nat := value % 4294967296

structure BitWindow where
  byte : Nat
  bit : Nat
  count : Nat
  deriving DecidableEq, Repr

def BitWindow.new : BitWindow := ⟨0, 0, 0⟩

def BitWindow.forwards (window : BitWindow) (step : Nat) : BitWindow :=
  let bit := window.bit + window.count
  { byte := wrapU32 (window.byte + bit / 8), bit := bit % 8, count := step }

def BitWindow.oppositeBitWindow (window : BitWindow) : BitWindow :=
  { byte := window.byte, bit := window.bit, count := 8 - window.bit % 8 }

def padRight (count : Nat) : UInt8 := [0, 1, 3, 7, 15, 31, 63, 127, 255].getD count 0

def padLeft (count : Nat) : UInt8 := [0, 128, 192, 224, 240, 248, 252, 254, 255].getD count 0

/-- `write_bits`. A failed debug assertion or an index out of range is `none`. -/
def writeBits (out : List UInt8) (pos : BitWindow) (value : UInt8) : Option (List UInt8) :=
  if pos.bit < 8 ∧ pos.count ≤ 8 ∧ 0 < pos.count then
    match out[pos.byte]? with
    | none => none
    | some old =>
      if old ||| padLeft pos.bit ≠ 255 then none
      else if pos.bit + pos.count ≤ 8 then
        let padded := old ||| padRight (8 - pos.bit)
        let shifted := value <<< UInt8.ofNat (8 - pos.bit - pos.count) ||| padLeft pos.bit
        some (out.set pos.byte (padded &&& shifted ||| padRight (8 - pos.count - pos.bit)))
      else
        -- the bits span two bytes
        let split := 8 - pos.bit
        let padded := old ||| padRight split
        let shifted := value >>> UInt8.ofNat (pos.count - split) ||| padLeft pos.bit
        let rem := 8 - (pos.count - split)
        if pos.byte + 1 < out.length then
          some ((out.set pos.byte (padded &&& shifted)).set (pos.byte + 1)
            (value <<< UInt8.ofNat rem ||| padRight rem))
        else none
  else none

def readBits (src : List UInt8) (byteOffset bitOffset len : Nat) : Option UInt8 :=
  if len = 0 ∨ 8 < len ∨
      wrapU32 (wrapU32 src.length * 8) < wrapU32 (wrapU32 (byteOffset * 8) + bitOffset + len) then none
  else
    let byteOffset := byteOffset + bitOffset / 8
    let bitOffset := bitOffset - bitOffset / 8 * 8
    if bitOffset + len ≤ 8 then
      some ((src.getD byteOffset 0 <<< UInt8.ofNat bitOffset) >>> UInt8.ofNat (8 - len))
    else
      let both := (src.getD byteOffset 0).toUInt16 <<< 8 ||| (src.getD (byteOffset + 1) 0).toUInt16
      some ((both <<< UInt16.ofNat bitOffset) >>> UInt16.ofNat (16 - len)).toUInt8

def BitWindow.position (window : BitWindow) : Nat := 8 * window.byte + window.bit

/-- `forwards` starts the next window where this one ends. -/
theorem BitWindow.position_forwards {window : BitWindow} (bound : window.position + window.count < 4294967296)
    (step : Nat) : (window.forwards step).position = window.position + window.count := by
  unfold position at bound
  simp only [position, forwards, wrapU32]
  omega

theorem BitWindow.bit_forwards (window : BitWindow) (step : Nat) : (window.forwards step).bit < 8 :=
  Nat.mod_lt _ (by decide)

section Bytes

theorem testBit_padRight {count index : Nat} (small : count ≤ 8) (inside : index < 8) :
    (padRight count).toNat.testBit index = decide (index < count) := by
  have table : ∀ count < 9, ∀ index < 8, (padRight count).toNat.testBit index = decide (index < count) := by
    decide
  exact table count (by omega) index inside

theorem testBit_padLeft {count index : Nat} (small : count ≤ 8) (inside : index < 8) :
    (padLeft count).toNat.testBit index = decide (8 ≤ index + count) := by
  have table : ∀ count < 9, ∀ index < 8,
      (padLeft count).toNat.testBit index = decide (8 ≤ index + count) := by
    decide
  exact table count (by omega) index inside

theorem testBit_shiftLeft {value : UInt8} {count index : Nat} (small : count < 8) (inside : index < 8) :
    (value <<< UInt8.ofNat count).toNat.testBit index = (decide (count ≤ index) && value.toNat.testBit (index - count)) := by
  have amount : (UInt8.ofNat count).toNat % 8 = count := by
    rw [UInt8.toNat_ofNat']
    omega
  rw [UInt8.toNat_shiftLeft, amount, Nat.testBit_mod_two_pow, Nat.testBit_shiftLeft]
  simp [inside]

theorem testBit_shiftRight {value : UInt8} {count index : Nat} (small : count < 8) :
    (value >>> UInt8.ofNat count).toNat.testBit index = value.toNat.testBit (count + index) := by
  have amount : (UInt8.ofNat count).toNat % 8 = count := by
    rw [UInt8.toNat_ofNat']
    omega
  rw [UInt8.toNat_shiftRight, amount, Nat.testBit_shiftRight]

theorem testBit_byte {value : UInt8} {index : Nat} (beyond : 8 ≤ index) : value.toNat.testBit index = false := by
  apply Nat.testBit_lt_two_pow
  have small := value.toNat_lt
  have wide : 2 ^ 8 ≤ 2 ^ index := Nat.pow_le_pow_right (by decide) beyond
  omega

theorem byte_eq {left right : UInt8}
    (agree : ∀ index, index < 8 → left.toNat.testBit index = right.toNat.testBit index) : left = right := by
  apply UInt8.toNat_inj.mp
  apply Nat.eq_of_testBit_eq
  intro index
  by_cases inside : index < 8
  · exact agree index inside
  · rw [testBit_byte (Nat.le_of_not_lt inside), testBit_byte (Nat.le_of_not_lt inside)]

end Bytes

section Write
variable {out : List UInt8} {written : List Bool} {pos : BitWindow}

theorem testBit_old (filled : Filled out written) {old : UInt8} (found : out[pos.byte]? = some old) {index : Nat}
    (inside : index < 8) : old.toNat.testBit (7 - index) = written.getD (8 * pos.byte + index) true := by
  obtain ⟨within, same⟩ := List.getElem?_eq_some_iff.mp found
  rw [← filled (8 * pos.byte + index) (by omega), bitAt, List.getD_eq_getElem?_getD,
    show (8 * pos.byte + index) / 8 = pos.byte by omega, found, Option.getD_some]
  congr 1
  omega

theorem testBit_single {old value : UInt8} {bit count index : Nat} (single : bit + count ≤ 8) (least : 0 < count)
    (inside : index < 8) :
    ((old ||| padRight (8 - bit)) &&& (value <<< UInt8.ofNat (8 - bit - count) ||| padLeft bit) |||
        padRight (8 - count - bit)).toNat.testBit index =
      if 8 ≤ index + bit then old.toNat.testBit index
      else if 8 ≤ index + bit + count then value.toNat.testBit (index + bit + count - 8) else true := by
  simp only [UInt8.toNat_or, UInt8.toNat_and, Nat.testBit_or, Nat.testBit_and,
    testBit_padLeft (show bit ≤ 8 by omega) inside, testBit_padRight (Nat.sub_le 8 bit) inside,
    testBit_padRight (show 8 - count - bit ≤ 8 by omega) inside,
    testBit_shiftLeft (show 8 - bit - count < 8 by omega) inside]
  by_cases before : 8 ≤ index + bit
  · simp [before, show ¬ index < 8 - bit by omega, show ¬ index < 8 - count - bit by omega]
  · by_cases own : 8 ≤ index + bit + count
    · simp [before, own, show index < 8 - bit by omega, show 8 ≤ index + count + bit by omega,
        show ¬ index < 8 - count - bit by omega, show index - (8 - bit - count) = index + bit + count - 8 by omega]
    · simp [before, own, show index < 8 - count - bit by omega]

theorem testBit_front {old value : UInt8} {bit count index : Nat} (small : bit < 8) (most : count ≤ 8)
    (spans : 8 < bit + count) (inside : index < 8) :
    ((old ||| padRight (8 - bit)) &&&
        (value >>> UInt8.ofNat (count - (8 - bit)) ||| padLeft bit)).toNat.testBit index =
      if 8 ≤ index + bit then old.toNat.testBit index else value.toNat.testBit (index + bit + count - 8) := by
  simp only [UInt8.toNat_or, UInt8.toNat_and, Nat.testBit_or, Nat.testBit_and,
    testBit_padLeft (Nat.le_of_lt small) inside, testBit_padRight (Nat.sub_le 8 bit) inside,
    testBit_shiftRight (show count - (8 - bit) < 8 by omega)]
  by_cases before : 8 ≤ index + bit
  · simp [before, show ¬ index < 8 - bit by omega]
  · simp [before, show index < 8 - bit by omega, show count - (8 - bit) + index = index + bit + count - 8 by omega]

theorem testBit_back {value : UInt8} {rem index : Nat} (small : rem < 8) (inside : index < 8) :
    (value <<< UInt8.ofNat rem ||| padRight rem).toNat.testBit index =
      if rem ≤ index then value.toNat.testBit (index - rem) else true := by
  simp only [UInt8.toNat_or, Nat.testBit_or, testBit_shiftLeft small inside,
    testBit_padRight (Nat.le_of_lt small) inside]
  by_cases own : rem ≤ index
  · simp [own, show ¬ index < rem by omega]
  · simp [own, show index < rem by omega]

/-- What `write_bits` asserts holds of a byte whose bits from `bit` on are ones. -/
theorem free_asserted {old : UInt8} {bit : Nat} (small : bit ≤ 8)
    (free : ∀ index, bit ≤ index → index < 8 → old.toNat.testBit (7 - index) = true) :
    old ||| padLeft bit = 255 := by
  apply byte_eq
  intro index inside
  have all : ∀ index, index < 8 → (255 : UInt8).toNat.testBit index = true := by decide
  rw [UInt8.toNat_or, Nat.testBit_or, testBit_padLeft small inside, all index inside]
  by_cases taken : 8 ≤ index + bit
  · rw [decide_eq_true taken, Bool.or_true]
  · have one := free (7 - index) (by omega) (by omega)
    rw [show 7 - (7 - index) = index by omega] at one
    rw [one, Bool.true_or]

theorem getD_outside {position : Nat} {now : Bool}
    (outside : position < written.length ∨ written.length + pos.count ≤ position) :
    written.getD position true = if position < written.length then written.getD position true
      else if position < written.length + pos.count then now else true := by
  rcases outside with before | behind
  · rw [if_pos before]
  · have past : ¬ position < written.length := by omega
    rw [if_neg past, if_neg (by omega), List.getD_eq_default _ _ (Nat.le_of_not_lt past)]

/-- `write_bits` appends the low bits of its value, and none of its assertions fails. -/
theorem writeBits_filled (filled : Filled out written) (bit : pos.bit < 8) (most : pos.count ≤ 8) (least : 0 < pos.count)
    (start : written.length = 8 * pos.byte + pos.bit) (room : written.length + pos.count ≤ 8 * out.length)
    (value : UInt8) :
    ∃ result, writeBits out pos value = some result ∧ result.length = out.length ∧
      Filled result (written ++ lowBits pos.count value.toNat) := by
  have within : pos.byte < out.length := by omega
  obtain ⟨old, found⟩ : ∃ old, out[pos.byte]? = some old := ⟨_, List.getElem?_eq_getElem within⟩
  have kept : ∀ index, index < 8 → old.toNat.testBit (7 - index) = written.getD (8 * pos.byte + index) true :=
    fun index inside => testBit_old filled found inside
  have asserted : old ||| padLeft pos.bit = 255 := by
    apply free_asserted (Nat.le_of_lt bit)
    intro index free inside
    rw [kept index inside, List.getD_eq_default _ _ (by omega)]
  unfold writeBits
  rw [if_pos ⟨bit, most, least⟩, found]
  simp only [asserted, ne_eq, not_true_eq_false, if_false]
  by_cases single : pos.bit + pos.count ≤ 8
  · rw [if_pos single]
    refine ⟨_, rfl, List.length_set, ?_⟩
    intro position inside
    rw [List.length_set] at inside
    rw [bitAt_set within, getD_append_lowBits]
    by_cases here : position / 8 = pos.byte
    · have held := kept (position % 8) (Nat.mod_lt _ (by decide))
      rw [show 8 * pos.byte + position % 8 = position by omega] at held
      rw [if_pos here, testBit_single single least (by omega), held]
      by_cases before : position < written.length
      · rw [if_pos (by omega), if_pos before]
      · rw [if_neg (by omega), if_neg before]
        by_cases own : position < written.length + pos.count
        · rw [if_pos (by omega), if_pos own]
          congr 1
          omega
        · rw [if_neg (by omega), if_neg own]
    · rw [if_neg here, filled position inside]
      exact getD_outside (by omega)
  · have next : pos.byte + 1 < out.length := by omega
    rw [if_neg single, if_pos next]
    refine ⟨_, rfl, by rw [List.length_set, List.length_set], ?_⟩
    intro position inside
    rw [List.length_set, List.length_set] at inside
    rw [bitAt_set (by rwa [List.length_set]), bitAt_set within, getD_append_lowBits]
    by_cases second : position / 8 = pos.byte + 1
    · rw [if_pos second, testBit_back (by omega) (by omega), if_neg (show ¬ position < written.length by omega)]
      by_cases own : position < written.length + pos.count
      · rw [if_pos (by omega), if_pos own]
        congr 1
        omega
      · rw [if_neg (by omega), if_neg own]
    · rw [if_neg second]
      by_cases here : position / 8 = pos.byte
      · have held := kept (position % 8) (Nat.mod_lt _ (by decide))
        rw [show 8 * pos.byte + position % 8 = position by omega] at held
        rw [if_pos here, testBit_front bit most (by omega) (by omega), held]
        by_cases before : position < written.length
        · rw [if_pos (by omega), if_pos before]
        · rw [if_neg (by omega), if_neg before, if_pos (by omega)]
          congr 1
          omega
      · rw [if_neg here, filled position inside]
        exact getD_outside (by omega)

end Write

section Read
variable {src : List UInt8}

/-- Byte strings whose bits, and two bytes beyond them, a `u32` can count. -/
def Countable (src : List UInt8) : Prop := 8 * src.length + 16 ≤ 4294967296

theorem testBit_narrow {byte : UInt8} {bit len index : Nat} (fits : bit + len ≤ 8) (inside : index < len) :
    ((byte <<< UInt8.ofNat bit) >>> UInt8.ofNat (8 - len)).toNat.testBit (len - 1 - index) =
      byte.toNat.testBit (7 - (bit + index)) := by
  rw [testBit_shiftRight (by omega), testBit_shiftLeft (by omega) (by omega), decide_eq_true (by omega), Bool.true_and]
  congr 1
  omega

theorem testBit_wide {first second : UInt8} {bit len index : Nat} (small : bit < 8) (most : len ≤ 8)
    (inside : index < len) :
    (((first.toUInt16 <<< 8 ||| second.toUInt16) <<< UInt16.ofNat bit) >>>
        UInt16.ofNat (16 - len)).toUInt8.toNat.testBit (len - 1 - index) =
      if bit + index < 8 then first.toNat.testBit (7 - (bit + index))
      else second.toNat.testBit (7 - (bit + index - 8)) := by
  have left : (UInt16.ofNat bit).toNat % 16 = bit := by
    rw [UInt16.toNat_ofNat']
    omega
  have right : (UInt16.ofNat (16 - len)).toNat % 16 = 16 - len := by
    rw [UInt16.toNat_ofNat']
    omega
  have eight : (8 : UInt16).toNat % 16 = 8 := rfl
  rw [UInt16.toNat_toUInt8, Nat.testBit_mod_two_pow, UInt16.toNat_shiftRight, right, Nat.testBit_shiftRight,
    UInt16.toNat_shiftLeft, left, Nat.testBit_mod_two_pow, Nat.testBit_shiftLeft, UInt16.toNat_or, Nat.testBit_or,
    UInt16.toNat_shiftLeft, eight, Nat.testBit_mod_two_pow, Nat.testBit_shiftLeft, UInt8.toNat_toUInt16,
    UInt8.toNat_toUInt16, decide_eq_true (show len - 1 - index < 8 by omega),
    decide_eq_true (show 16 - len + (len - 1 - index) < 16 by omega),
    decide_eq_true (show 16 - len + (len - 1 - index) ≥ bit by omega),
    show 16 - len + (len - 1 - index) - bit = 15 - (bit + index) by omega,
    decide_eq_true (show 15 - (bit + index) < 16 by omega)]
  simp only [Bool.true_and]
  by_cases front : bit + index < 8
  · have low : second.toNat.testBit (15 - (bit + index)) = false := testBit_byte (by omega)
    rw [if_pos front, decide_eq_true (by omega), Bool.true_and, low, Bool.or_false]
    congr 1
    omega
  · rw [if_neg front, decide_eq_false (by omega), Bool.false_and, Bool.false_or]
    congr 1
    omega

theorem testBit_wide_beyond {both : UInt16} {len index : Nat} (least : 0 < len) (most : len ≤ 8) (beyond : len ≤ index) :
    (both >>> UInt16.ofNat (16 - len)).toUInt8.toNat.testBit index = false := by
  have amount : (UInt16.ofNat (16 - len)).toNat % 16 = 16 - len := by
    rw [UInt16.toNat_ofNat']
    omega
  have small := both.toNat_lt
  have high : both.toNat.testBit (16 - len + index) = false := by
    apply Nat.testBit_lt_two_pow
    have wide : 2 ^ 16 ≤ 2 ^ (16 - len + index) := Nat.pow_le_pow_right (by decide) (by omega)
    omega
  rw [UInt16.toNat_toUInt8, Nat.testBit_mod_two_pow, UInt16.toNat_shiftRight, amount, Nat.testBit_shiftRight, high,
    Bool.and_false]

/-- `read_bits` reads what a take of the bits would, and fails where too few are left. -/
theorem readBits_eq (countable : Countable src) {byte bit len : Nat} (small : bit < 8) (near : byte ≤ src.length)
    (least : 0 < len) (most : len ≤ 8) :
    readBits src byte bit len =
      if len ≤ ((bits src).drop (8 * byte + bit)).length then
        some (UInt8.ofNat (bitsValue (((bits src).drop (8 * byte + bit)).take len)))
      else none := by
  have bound : 8 * src.length + 16 ≤ 4294967296 := countable
  have whole : wrapU32 (wrapU32 src.length * 8) = 8 * src.length := by
    unfold wrapU32
    omega
  have reach : wrapU32 (wrapU32 (byte * 8) + bit + len) = 8 * byte + bit + len := by
    unfold wrapU32
    omega
  unfold readBits
  rw [whole, reach, List.length_drop, length_bits]
  by_cases enough : len ≤ 8 * src.length - (8 * byte + bit)
  · rw [if_neg (by omega), if_pos enough]
    have aligned : bit / 8 = 0 := by omega
    have length : (((bits src).drop (8 * byte + bit)).take len).length = len := by
      rw [List.length_take, List.length_drop, length_bits]
      omega
    -- both branches have the bits of the string read, at every index
    have done : ∀ value : UInt8, (∀ index, index < len →
          value.toNat.testBit (len - 1 - index) = bitAt src (8 * byte + bit + index)) →
        (∀ index, len ≤ index → value.toNat.testBit index = false) →
        value = UInt8.ofNat (bitsValue (((bits src).drop (8 * byte + bit)).take len)) := by
      intro value agree beyond
      have same : value.toNat = bitsValue (((bits src).drop (8 * byte + bit)).take len) := by
        apply eq_bitsValue
        · rw [length]
          exact Nat.lt_pow_two_of_testBit _ beyond
        · intro index inside
          rw [length] at inside ⊢
          rw [agree index inside, List.getElem?_take_of_lt inside, List.getElem?_drop, getElem?_bits (by omega)]
      rw [← same, UInt8.ofNat_toNat]
    simp only [aligned, Nat.zero_mul, Nat.sub_zero, Nat.add_zero]
    by_cases single : bit + len ≤ 8
    · rw [if_pos single]
      congr 1
      apply done
      · intro index inside
        rw [testBit_narrow single inside, bitAt, show (8 * byte + bit + index) / 8 = byte by omega,
          show (8 * byte + bit + index) % 8 = bit + index by omega]
      · intro index beyond
        rw [testBit_shiftRight (by omega), testBit_byte (by omega)]
    · rw [if_neg single]
      congr 1
      apply done
      · intro index inside
        rw [testBit_wide small most inside, bitAt]
        by_cases front : bit + index < 8
        · rw [if_pos front, show (8 * byte + bit + index) / 8 = byte by omega,
            show (8 * byte + bit + index) % 8 = bit + index by omega]
        · rw [if_neg front, show (8 * byte + bit + index) / 8 = byte + 1 by omega,
            show (8 * byte + bit + index) % 8 = bit + index - 8 by omega]
      · exact fun index beyond => testBit_wide_beyond least most beyond
  · rw [if_pos (by omega), if_neg enough]

end Read

end ProxyTunnels.Http3.Qpack
