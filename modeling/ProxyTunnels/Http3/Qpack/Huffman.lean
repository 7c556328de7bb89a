import ProxyTunnels.Http3.Qpack.BitWindow
import ProxyTunnels.Http3.Qpack.HuffmanTable

/-! Huffman coding of strings, as the vendored QPACK does it.

The encoder keeps its buffer filled with ones ahead of the bits it writes, so that what
is left of the last byte is padding. The decoder walks its tables over the bits; where a
table asks for more bits than are left, it stops without an error if those that are left
are ones.
-/

set_option autoImplicit false

namespace ProxyTunnels.Http3.Qpack

open Wire

structure HuffmanEncoder where
  bufferPos : BitWindow
  buffer : List UInt8
  deriving DecidableEq, Repr

def HuffmanEncoder.new : HuffmanEncoder := ⟨.new, []⟩

/-- `HuffmanEncoder::ensure_free_space`, beside the capacity it reserves. -/
def HuffmanEncoder.ensureFreeSpace (encoder : HuffmanEncoder) (bitCount : Nat) : HuffmanEncoder :=
  let endRange := (encoder.bufferPos.forwards bitCount).forwards 0
  if endRange.byte < encoder.buffer.length then encoder
  else
    let forward := endRange.byte - encoder.buffer.length + if 0 < endRange.bit then 1 else 0
    { encoder with buffer := encoder.buffer ++ List.replicate forward 255 }

/-- The loop of `put` over the parts of a code. -/
def HuffmanEncoder.putParts : Nat → List UInt8 → HuffmanEncoder → Option HuffmanEncoder
  | _, [], encoder => some encoder
  | rest, part :: parts, encoder =>
      let pos := encoder.bufferPos.forwards (if rest < 8 then rest else 8)
      match writeBits encoder.buffer pos part with
      | none => none
      | some buffer => putParts (rest - pos.count) parts ⟨pos, buffer⟩

def HuffmanEncoder.put (encoder : HuffmanEncoder) (symbol : UInt8) : Option HuffmanEncoder :=
  putParts (encodeValue symbol).bitCount (encodeValue symbol).buffer
    (encoder.ensureFreeSpace (encodeValue symbol).bitCount)

/-- The loop of `hpack_encode`. -/
def HuffmanEncoder.putAll : List UInt8 → HuffmanEncoder → Option HuffmanEncoder
  | [], encoder => some encoder
  | symbol :: value, encoder =>
      match encoder.put symbol with
      | none => none
      | some encoder => putAll value encoder

/-- `hpack_encode`. A panic is `none`. -/
def hpackEncode (value : List UInt8) : Option (List UInt8) :=
  (HuffmanEncoder.putAll value .new).map HuffmanEncoder.buffer

/-- The decoder's `Error`. -/
inductive HuffmanDecodingError where
  | missingBits (window : BitWindow)
  | unhandled (window : BitWindow) (value : Nat)
  deriving DecidableEq, Repr

/-- `HuffmanDecoder::check_eof`. -/
def checkEof (pos : BitWindow) (input : List UInt8) : Except HuffmanDecodingError (Option Nat) :=
  if input.length < pos.byte + 1 then .ok none
  else if pos.byte + 1 = input.length then
    let side := pos.oppositeBitWindow
    match readBits input side.byte side.bit side.count with
    | none => .error (.missingBits side)
    | some rest =>
      let eofFiller := ((2 : UInt16) <<< UInt16.ofNat (side.count - 1) - 1).toUInt8
      if rest &&& eofFiller = eofFiller then .ok none else .error (.missingBits pos)
  else .error (.missingBits pos)

/-- `HuffmanDecoder::fetch_value`. -/
def fetchValue (pos : BitWindow) (input : List UInt8) : Except HuffmanDecodingError (Option Nat) :=
  match readBits input pos.byte pos.bit pos.count with
  | some value => .ok (some value.toNat)
  | none => checkEof pos input

mutual

/-- `HuffmanDecoder::decode_next`, with the window it leaves. A symbol is what it returns
for an entry `Sym`. -/
def decodeNext : DecodeValue → BitWindow → List UInt8 → Except HuffmanDecodingError (Option UInt8) × BitWindow
  | .symbol symbol, pos, _ => (.ok (some symbol), pos)
  | .table lookup entries, pos, input =>
      let pos := pos.forwards lookup
      match fetchValue pos input with
      | .ok (some value) => decodeEntry entries value value pos input
      | .ok none => (.ok none, pos)
      | .error error => (.error error, pos)

/-- The entry of a table `steps` further on. -/
def decodeEntry : List DecodeValue → Nat → Nat → BitWindow → List UInt8 →
    Except HuffmanDecodingError (Option UInt8) × BitWindow
  | [], _, value, pos, _ => (.error (.unhandled pos value), pos)
  | entry :: _, 0, _, pos, input => decodeNext entry pos input
  | _ :: entries, steps + 1, value, pos, input => decodeEntry entries steps value pos input

end

/-- The symbols of `hpack_decode` up to its end or its first error. A symbol takes at
least one bit, so the bits bound the rounds. -/
def decodeSymbols : Nat → BitWindow → List UInt8 → Except HuffmanDecodingError (List UInt8)
  | 0, _, _ => .ok []
  | rounds + 1, pos, input =>
      match decodeNext hpackStringDecoder pos input with
      | (.ok (some symbol), pos) =>
        match decodeSymbols rounds pos input with
        | .ok symbols => .ok (symbol :: symbols)
        | .error error => .error error
      | (.ok none, _) => .ok []
      | (.error error, _) => .error error

/-- `hpack_decode`, collected. -/
def hpackDecode (input : List UInt8) : Except HuffmanDecodingError (List UInt8) :=
  decodeSymbols (8 * input.length + 1) .new input

section Encode

/-- What an encoder wrote, with room for `ahead` more bits. -/
structure Wrote (encoder : HuffmanEncoder) (written : List Bool) (ahead : Nat) : Prop where
  placed : encoder.bufferPos.position + encoder.bufferPos.count = written.length
  filled : Filled encoder.buffer written
  size : encoder.buffer.length = (written.length + ahead + 7) / 8
  bounded : written.length + ahead < 4294967296

theorem Wrote.new : Wrote .new [] 0 :=
  ⟨rfl, Filled.nil, rfl, by decide⟩

theorem Wrote.ensureFreeSpace {encoder : HuffmanEncoder} {written : List Bool} (wrote : Wrote encoder written 0)
    {count : Nat} (bounded : written.length + count < 4294967296) :
    Wrote (encoder.ensureFreeSpace count) written count := by
  obtain ⟨placed, filled, size, -⟩ := wrote
  have first : (encoder.bufferPos.forwards count).position = written.length := by
    rw [BitWindow.position_forwards (by omega), placed]
  have second : ((encoder.bufferPos.forwards count).forwards 0).position = written.length + count := by
    rw [BitWindow.position_forwards (by rw [first]; exact bounded), first]
    rfl
  have small := BitWindow.bit_forwards (encoder.bufferPos.forwards count) 0
  unfold BitWindow.position at second
  unfold HuffmanEncoder.ensureFreeSpace
  dsimp only
  generalize (encoder.bufferPos.forwards count).forwards 0 = endRange at second small ⊢
  by_cases enough : endRange.byte < encoder.buffer.length
  · rw [if_pos enough]
    exact ⟨placed, filled, by omega, bounded⟩
  · rw [if_neg enough]
    refine ⟨placed, filled.append_ones (by omega) _, ?_, bounded⟩
    rw [List.length_append, List.length_replicate]
    by_cases partly : 0 < endRange.bit
    · rw [if_pos partly]
      omega
    · rw [if_neg partly]
      omega

theorem length_partBits {rest : Nat} {parts : List UInt8} (whole : parts.length = (rest + 7) / 8) :
    (partBits rest parts).length = rest := by
  induction parts generalizing rest with
  | nil =>
    simp only [List.length_nil] at whole
    simp only [partBits, List.length_nil]
    omega
  | cons part parts ih =>
    simp only [List.length_cons] at whole
    simp only [partBits, List.length_append, length_lowBits]
    by_cases last : rest < 8
    · rw [if_pos last, ih (by omega)]
      omega
    · rw [if_neg last, ih (by omega)]
      omega

theorem Wrote.putParts {rest : Nat} {parts : List UInt8} (whole : parts.length = (rest + 7) / 8)
    {encoder : HuffmanEncoder} {written : List Bool} (wrote : Wrote encoder written rest) :
    ∃ after, HuffmanEncoder.putParts rest parts encoder = some after ∧ Wrote after (written ++ partBits rest parts) 0 := by
  induction parts generalizing rest encoder written with
  | nil =>
    have nothing : rest = 0 := by
      simp only [List.length_nil] at whole
      omega
    subst nothing
    refine ⟨encoder, rfl, ?_⟩
    rwa [partBits, List.append_nil]
  | cons part parts ih =>
    simp only [List.length_cons] at whole
    obtain ⟨placed, filled, size, bounded⟩ := wrote
    obtain ⟨count, counted⟩ : ∃ count, count = if rest < 8 then rest else 8 := ⟨_, rfl⟩
    have range : 0 < count ∧ count ≤ 8 ∧ count ≤ rest := by
      by_cases last : rest < 8
      · rw [if_pos last] at counted
        omega
      · rw [if_neg last] at counted
        omega
    have start : (encoder.bufferPos.forwards count).position = written.length := by
      rw [BitWindow.position_forwards (by omega), placed]
    obtain ⟨buffer, wroteBits, length, more⟩ := writeBits_filled filled (BitWindow.bit_forwards encoder.bufferPos count)
      range.2.1 range.1 start.symm (by show _ + count ≤ _; omega) part
    have next : Wrote ⟨encoder.bufferPos.forwards count, buffer⟩ (written ++ lowBits count part.toNat) (rest - count) := by
      refine ⟨?_, more, ?_, ?_⟩
      · rw [List.length_append, length_lowBits]
        show (encoder.bufferPos.forwards count).position + count = _
        rw [start]
      · show buffer.length = _
        rw [length, List.length_append, length_lowBits]
        omega
      · rw [List.length_append, length_lowBits]
        omega
    have fewer : parts.length = (rest - count + 7) / 8 := by
      by_cases last : rest < 8
      · rw [if_pos last] at counted
        omega
      · rw [if_neg last] at counted
        omega
    obtain ⟨after, done, wrote⟩ := ih fewer next
    refine ⟨after, ?_, ?_⟩
    · rw [HuffmanEncoder.putParts, ← counted]
      simp only [wroteBits]
      exact done
    · rwa [partBits, ← counted, ← List.append_assoc]

theorem length_code (symbol : UInt8) : (code symbol).length = (encodeValue symbol).bitCount :=
  length_partBits (encodeValue_shape symbol).1

theorem Wrote.put {encoder : HuffmanEncoder} {written : List Bool} (wrote : Wrote encoder written 0)
    (bounded : written.length + 30 < 4294967296) (symbol : UInt8) :
    ∃ after, encoder.put symbol = some after ∧ Wrote after (written ++ code symbol) 0 := by
  obtain ⟨whole, _, most⟩ := encodeValue_shape symbol
  exact (wrote.ensureFreeSpace (by omega)).putParts whole

theorem Wrote.putAll {value : List UInt8} {encoder : HuffmanEncoder} {written : List Bool}
    (wrote : Wrote encoder written 0) (bounded : written.length + 30 * value.length < 4294967296) :
    ∃ after, HuffmanEncoder.putAll value encoder = some after ∧ Wrote after (written ++ value.flatMap code) 0 := by
  induction value generalizing encoder written with
  | nil =>
    refine ⟨encoder, rfl, ?_⟩
    rwa [List.flatMap_nil, List.append_nil]
  | cons symbol value ih =>
    rw [List.length_cons] at bounded
    obtain ⟨middle, first, wrote⟩ := wrote.put (by omega) symbol
    have most := (encodeValue_shape symbol).2.2
    obtain ⟨after, rest, wrote⟩ := ih wrote (by rw [List.length_append, length_code]; omega)
    refine ⟨after, ?_, ?_⟩
    · rw [HuffmanEncoder.putAll, first]
      exact rest
    · rwa [List.flatMap_cons, ← List.append_assoc]

theorem hpackEncode_bits {value : List UInt8} (short : value.length < 134217728) :
    ∃ bytes padding, hpackEncode value = some bytes ∧ padding < 8 ∧
      bits bytes = value.flatMap code ++ List.replicate padding true := by
  have bounded : ([] : List Bool).length + 30 * value.length < 4294967296 := by
    rw [List.length_nil]
    omega
  obtain ⟨after, done, -, filled, size, -⟩ := Wrote.new.putAll bounded
  rw [List.nil_append] at filled size
  refine ⟨after.buffer, _, by rw [hpackEncode, done]; rfl, ?_, filled.bits (by omega)⟩
  omega

end Encode

section Decode
variable {input : List UInt8}

theorem eofFiller_eq {count : Nat} (least : 0 < count) (most : count ≤ 8) :
    ((2 : UInt16) <<< UInt16.ofNat (count - 1) - 1).toUInt8 = padRight count := by
  have table : ∀ count < 9, 0 < count → ((2 : UInt16) <<< UInt16.ofNat (count - 1) - 1).toUInt8 = padRight count := by
    decide
  exact table count (by omega) least

theorem toNat_padRight {count : Nat} (most : count ≤ 8) : (padRight count).toNat = 2 ^ count - 1 := by
  have table : ∀ count < 9, (padRight count).toNat = 2 ^ count - 1 := by decide
  exact table count (by omega)

theorem toNat_bitsValue {string : List Bool} (most : string.length ≤ 8) :
    (UInt8.ofNat (bitsValue string)).toNat = bitsValue string := by
  have below := bitsValue_lt string
  have wide : 2 ^ string.length ≤ 2 ^ 8 := Nat.pow_le_pow_right (by decide) most
  rw [UInt8.toNat_ofNat']
  omega

theorem masked_eq {string : List Bool} (most : string.length ≤ 8) :
    UInt8.ofNat (bitsValue string) &&& padRight string.length = padRight string.length ↔ string.all id = true := by
  rw [← bitsValue_eq_ones, ← UInt8.toNat_inj, UInt8.toNat_and, toNat_padRight most, toNat_bitsValue most,
    Nat.and_two_pow_sub_one_eq_mod, Nat.mod_eq_of_lt (bitsValue_lt string)]

/-- `check_eof`, where fewer than eight bits are left. -/
theorem checkEof_eq (countable : Countable input) {pos : BitWindow} (small : pos.bit < 8)
    (near : pos.byte ≤ input.length) (few : ((bits input).drop pos.position).length < 8) :
    checkEof pos input =
      if ((bits input).drop pos.position).all id then .ok none else .error (.missingBits pos) := by
  have left : ((bits input).drop pos.position).length = 8 * input.length - (8 * pos.byte + pos.bit) := by
    rw [List.length_drop, length_bits, BitWindow.position]
  unfold checkEof
  by_cases outside : input.length < pos.byte + 1
  · have nothing : (bits input).drop pos.position = [] := List.eq_nil_of_length_eq_zero (by omega)
    rw [if_pos outside, nothing]
    rfl
  · have last : pos.byte + 1 = input.length := by omega
    have count : 8 - pos.bit % 8 = ((bits input).drop pos.position).length := by omega
    rw [if_neg outside, if_pos last]
    simp only [BitWindow.oppositeBitWindow, count]
    rw [readBits_eq countable small near (by omega) (by omega), eofFiller_eq (by omega) (by omega), ← BitWindow.position,
      if_pos (Nat.le_refl _), List.take_length]
    simp only [masked_eq (Nat.le_of_lt few)]

/-- `fetch_value` on what is left of the input: the number its first bits write, the end
where too few are left and those are ones, and an error otherwise. -/
theorem fetchValue_eq (countable : Countable input) {pos : BitWindow} (small : pos.bit < 8)
    (near : pos.byte ≤ input.length) (least : 0 < pos.count) (most : pos.count ≤ 8) :
    fetchValue pos input =
      if pos.count ≤ ((bits input).drop pos.position).length then
        .ok (some (bitsValue (((bits input).drop pos.position).take pos.count)))
      else if ((bits input).drop pos.position).all id then .ok none
      else .error (.missingBits pos) := by
  unfold fetchValue
  rw [readBits_eq countable small near least most, ← BitWindow.position]
  by_cases enough : pos.count ≤ ((bits input).drop pos.position).length
  · rw [if_pos enough, if_pos enough]
    simp only
    rw [toNat_bitsValue (by rw [List.length_take]; omega)]
  · rw [if_neg enough, if_neg enough]
    exact checkEof_eq countable small near (by omega)

def Placed (input : List UInt8) (pos : BitWindow) : Prop := pos.position + pos.count ≤ 8 * input.length

def following (input : List UInt8) (pos : BitWindow) : List Bool := (bits input).drop (pos.position + pos.count)

/-- The decoder's result for a walk over the bits: the symbol and a window in front of
what the walk leaves, or the end, or an error. -/
inductive Agrees (input : List UInt8) : Except HuffmanDecodingError (Option UInt8) × BitWindow → Walk UInt8 → Prop where
  | symbol {symbol : UInt8} {pos : BitWindow} (placed : Placed input pos) :
      Agrees input (.ok (some symbol), pos) (.symbol symbol (following input pos))
  | padding {rest : List Bool} {pos : BitWindow} (ones : rest.all id = true) : Agrees input (.ok none, pos) (.short rest)
  | cut {rest : List Bool} {pos : BitWindow} (zero : rest.all id = false) :
      Agrees input (.error (.missingBits pos), pos) (.short rest)
  | missing {index : Nat} {rest : List Bool} {pos : BitWindow} :
      Agrees input (.error (.unhandled pos index), pos) (.missing index rest)

mutual

theorem decodeNext_agrees (countable : Countable input) :
    ∀ (tree : DecodeValue) {pos : BitWindow}, tree.tables admittedTable = true → Placed input pos →
      Agrees input (decodeNext tree pos input) (tree.walk (following input pos))
  | .symbol symbol, pos, _, placed => by
      simp only [decodeNext, LookupTree.walk]
      exact .symbol placed
  | .table lookup entries, pos, sound, placed => by
      simp only [LookupTree.tables, Bool.and_eq_true] at sound
      obtain ⟨least, most, -⟩ := of_decide_eq_true sound.1
      have bound : 8 * input.length + 16 ≤ 4294967296 := countable
      unfold Placed at placed
      have start : (pos.forwards lookup).position = pos.position + pos.count :=
        BitWindow.position_forwards (by omega) lookup
      have width : (pos.forwards lookup).count = lookup := rfl
      have near : (pos.forwards lookup).byte ≤ input.length := by
        have aligned : 8 * (pos.forwards lookup).byte ≤ (pos.forwards lookup).position := Nat.le_add_right _ _
        omega
      have fetched := fetchValue_eq countable (BitWindow.bit_forwards pos lookup) near least most
      rw [start, width, ← following] at fetched
      simp only [decodeNext, LookupTree.walk, fetched]
      by_cases short : (following input pos).length < lookup
      · rw [if_pos short, if_neg (Nat.not_le_of_lt short)]
        cases ones : (following input pos).all id with
        | true => exact .padding ones
        | false => exact .cut ones
      · rw [if_neg short, if_pos (Nat.le_of_not_lt short)]
        have inside : Placed input (pos.forwards lookup) := by
          rw [following, List.length_drop, length_bits] at short
          rw [Placed, start, width]
          omega
        have rest : following input (pos.forwards lookup) = (following input pos).drop lookup := by
          rw [following, following, start, width, List.drop_drop]
        rw [← rest]
        exact decodeEntry_agrees countable entries _ _ sound.2 inside

theorem decodeEntry_agrees (countable : Countable input) :
    ∀ (entries : List DecodeValue) (steps value : Nat) {pos : BitWindow}, entryTables admittedTable entries = true →
      Placed input pos →
      Agrees input (decodeEntry entries steps value pos input) (walkEntry entries steps value (following input pos))
  | [], _, _, _, _, _ => by
      simp only [decodeEntry, walkEntry]
      exact .missing
  | entry :: _, 0, _, _, sound, placed => by
      simp only [entryTables, Bool.and_eq_true] at sound
      simp only [decodeEntry, walkEntry]
      exact decodeNext_agrees countable entry sound.1 placed
  | _ :: entries, steps + 1, value, _, sound, placed => by
      simp only [entryTables, Bool.and_eq_true] at sound
      simp only [decodeEntry, walkEntry]
      exact decodeEntry_agrees countable entries steps value sound.2 placed

end

theorem code_ne_nil (symbol : UInt8) : code symbol ≠ [] := by
  intro empty
  have length := length_code symbol
  rw [empty, List.length_nil] at length
  have shape := encodeValue_shape symbol
  omega

theorem decodeSymbols_ok (countable : Countable input) {rounds : Nat} {pos : BitWindow} (placed : Placed input pos)
    (enough : (following input pos).length < rounds) {symbols : List UInt8} :
    decodeSymbols rounds pos input = .ok symbols ↔
      ∃ rest, Spells hpackStringDecoder (following input pos) symbols (.short rest) ∧ rest.all id = true := by
  induction rounds generalizing pos symbols with
  | zero => omega
  | succ rounds ih =>
    have agrees := decodeNext_agrees countable hpackStringDecoder tables_hpackStringDecoder placed
    generalize walked : hpackStringDecoder.walk (following input pos) = walk at agrees
    generalize called : decodeNext hpackStringDecoder pos input = result at agrees
    rw [decodeSymbols, called]
    cases agrees with
    | @symbol symbol next inside =>
      -- the symbol took its code, so fewer bits are left than rounds
      obtain ⟨string, listed, split⟩ := hpackStringDecoder.mem_codes_of_walk walked
      have nonempty : 0 < (code symbol).length := List.length_pos_of_ne_nil (code_ne_nil symbol)
      have shorter : (following input next).length < rounds := by
        have length := congrArg List.length split
        rw [mem_codes.mp listed, List.length_append] at length
        omega
      constructor
      · intro decoded
        cases tail : decodeSymbols rounds next input with
        | error error => simp [tail] at decoded
        | ok later =>
          simp only [tail, Except.ok.injEq] at decoded
          obtain ⟨rest, reads, ones⟩ := (ih inside shorter).mp tail
          exact ⟨rest, decoded ▸ .symbol walked reads, ones⟩
      · rintro ⟨rest, reads, ones⟩
        cases reads with
        | short ended =>
          rw [walked] at ended
          cases ended
        | symbol read later =>
          rw [walked] at read
          cases read
          simp only [(ih inside shorter).mpr ⟨rest, later, ones⟩]
    | padding ones =>
      constructor
      · intro decoded
        cases decoded
        exact ⟨_, .short walked, ones⟩
      · rintro ⟨rest, reads, _⟩
        have empty := (reads.ended (by rw [walked]; intro value rest found; cases found)).1
        rw [empty]
    | cut zero =>
      constructor
      · intro decoded
        cases decoded
      · rintro ⟨rest, reads, ones⟩
        have last := (reads.ended (by rw [walked]; intro value rest found; cases found)).2
        rw [walked] at last
        cases last
        rw [zero] at ones
        cases ones
    | missing =>
      constructor
      · intro decoded
        cases decoded
      · rintro ⟨rest, reads, _⟩
        have last := (reads.ended (by rw [walked]; intro value rest found; cases found)).2
        rw [walked] at last
        cases last

theorem hpackDecode_spells (countable : Countable input) (value : List UInt8) :
    hpackDecode input = .ok value ↔
      ∃ rest, Spells hpackStringDecoder (bits input) value (.short rest) ∧ rest.all id = true := by
  have whole : following input .new = bits input := rfl
  have bounded : (following input .new).length < 8 * input.length + 1 := by
    rw [whole, length_bits]
    omega
  rw [hpackDecode, decodeSymbols_ok countable (Nat.zero_le _) bounded, whole]

theorem hpackDecode_of_codes (countable : Countable input) {value : List UInt8} {tail rest : List Bool}
    (split : bits input = value.flatMap code ++ tail) (ended : hpackStringDecoder.walk tail = .short rest)
    (ones : rest.all id = true) : hpackDecode input = .ok value :=
  (hpackDecode_spells countable value).mpr ⟨rest, split ▸ Spells.of_codes walk_code value (.short ended), ones⟩

theorem codes_of_hpackDecode (countable : Countable input) {value : List UInt8}
    (read : hpackDecode input = .ok value) :
    ∃ tail rest, bits input = value.flatMap code ++ tail ∧ hpackStringDecoder.walk tail = .short rest ∧
      rest.all id = true := by
  obtain ⟨rest, reads, ones⟩ := (hpackDecode_spells countable value).mp read
  obtain ⟨tail, split, ended⟩ := reads.codes (fun _ _ listed => mem_codes.mp listed)
  exact ⟨tail, rest, split, ended, ones⟩

/-- The strings `hpack_decode` accepts, and what it makes of them: the codes of the symbols
one after the other, and then bits that end inside a table, with only ones left for that
table. The last code may so be cut off, and a whole byte of ones is still padding. -/
theorem hpackDecode_ok_iff (countable : Countable input) (value : List UInt8) :
    hpackDecode input = .ok value ↔
      ∃ tail rest, bits input = value.flatMap code ++ tail ∧ hpackStringDecoder.walk tail = .short rest ∧
        rest.all id = true := by
  constructor
  · exact codes_of_hpackDecode countable
  · rintro ⟨tail, rest, split, ended, ones⟩
    exact hpackDecode_of_codes countable split ended ones

-- seven zeroes and the cut-off code of a space or a percent sign
theorem hpackDecode_cut_off : hpackDecode [0, 0, 0, 0, 10] = .ok [48, 48, 48, 48, 48, 48, 48] := by
  have countable : Countable [0, 0, 0, 0, 10] := by
    unfold Countable
    decide
  exact (hpackDecode_ok_iff countable _).mpr ⟨[false, true, false, true, false], [], by decide +kernel, rfl, rfl⟩

theorem walk_padding {padding : Nat} (small : padding < 8) :
    ∃ rest, hpackStringDecoder.walk (List.replicate padding true) = .short rest ∧ rest.all id = true := by
  have rows : ∀ padding < 8, hpackStringDecoder.walk (List.replicate padding true) =
      .short (List.replicate (if padding < 5 then padding else if padding < 7 then padding - 5 else 0) true) := by
    decide +kernel
  exact ⟨_, rows padding small, by simp [List.all_replicate]⟩

theorem length_codes (value : List UInt8) : (value.flatMap code).length ≤ 30 * value.length := by
  induction value with
  | nil => simp
  | cons symbol value ih =>
    have shape := encodeValue_shape symbol
    rw [List.flatMap_cons, List.length_append, length_code, List.length_cons]
    omega

theorem hpackDecode_hpackEncode {value : List UInt8} (short : value.length < 134217728) :
    ∃ bytes, hpackEncode value = some bytes ∧ bytes.length < 536870911 ∧ hpackDecode bytes = .ok value := by
  obtain ⟨bytes, padding, encoded, small, same⟩ := hpackEncode_bits short
  obtain ⟨rest, ended, ones⟩ := walk_padding small
  have size : bytes.length < 536870911 := by
    have length := congrArg List.length same
    have codes := length_codes value
    rw [length_bits, List.length_append, List.length_replicate] at length
    omega
  have countable : Countable bytes := by
    unfold Countable
    omega
  exact ⟨bytes, encoded, size, hpackDecode_of_codes countable same ended ones⟩

/-- Nothing shorter than the encoder's bytes is decoded to the same string. -/
theorem hpackEncode_shortest {value : List UInt8} (short : value.length < 134217728) :
    ∃ bytes, hpackEncode value = some bytes ∧
      ∀ other, Countable other → hpackDecode other = .ok value → bytes.length ≤ other.length := by
  obtain ⟨bytes, padding, encoded, small, same⟩ := hpackEncode_bits short
  refine ⟨bytes, encoded, ?_⟩
  intro other countable read
  obtain ⟨tail, _, split, _, _⟩ := codes_of_hpackDecode countable read
  have length := congrArg List.length same
  have otherLength := congrArg List.length split
  rw [length_bits, List.length_append] at length otherLength
  rw [List.length_replicate] at length
  omega

theorem hpackEncode_shortest_zeroes : ∃ bytes, hpackEncode [48, 48] = some bytes ∧
    ∀ other, Countable other → hpackDecode other = .ok [48, 48] → bytes.length ≤ other.length :=
  hpackEncode_shortest (by decide)

end Decode

end ProxyTunnels.Http3.Qpack
