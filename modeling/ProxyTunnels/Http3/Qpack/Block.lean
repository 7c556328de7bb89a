import Mathlib.Algebra.Order.BigOperators.Group.List
import ProxyTunnels.Http3.Qpack.PrefixString
import ProxyTunnels.Http3.Qpack.StaticTable

/-! Field sections without a dynamic table, as `encode_stateless` writes them and
`decode_stateless` reads them.

A section is a prefix and then one representation a field: an index into the static
table, a literal value for a name of the table, or a literal name and value. The first
byte tells which.
-/

set_option autoImplicit false

namespace ProxyTunnels.Http3.Qpack

open Wire

inductive ParseError where
  | integer (error : IntegerError)
  | string (error : StringError)
  | invalidPrefix (byte : UInt8)
  | invalidBase (base : Int)
  deriving DecidableEq, Repr

/-- The variants of `DecoderError` that `decode_stateless` returns. -/
inductive DecoderError where
  | invalidInteger (error : IntegerError)
  | invalidString (error : StringError)
  | invalidStaticIndex (index : Nat)
  | unknownPrefix (byte : UInt8)
  | missingRefs (count : Nat)
  | badBaseIndex (base : Int)
  | headerTooLong (size : Nat)
  deriving DecidableEq, Repr

/-- `From<ParseError> for DecoderError`. -/
def ParseError.toDecoderError : ParseError → DecoderError
  | .integer error => .invalidInteger error
  | .string error => .invalidString error
  | .invalidPrefix byte => .unknownPrefix byte
  | .invalidBase base => .badBaseIndex base

inductive HeaderBlockField where
  | indexed
  | indexedWithPostBase
  | literalWithNameRef
  | literalWithPostBaseNameRef
  | literal
  | unknown
  deriving DecidableEq, Repr

def HeaderBlockField.decode (first : UInt8) : HeaderBlockField :=
  if first &&& 0b10000000 ≠ 0 then .indexed
  else if first &&& 0b11110000 = 0b00010000 then .indexedWithPostBase
  else if first &&& 0b11000000 = 0b01000000 then .literalWithNameRef
  else if first &&& 0b11110000 = 0 then .literalWithPostBaseNameRef
  else if first &&& 0b11100000 = 0b00100000 then .literal
  else .unknown

structure HeaderPrefix where
  encodedInsertCount : Nat
  signNegative : Bool
  deltaBase : Nat
  deriving DecidableEq, Repr

/-- `HeaderPrefix::new`. A failed assertion or a division by zero is `none`. -/
def HeaderPrefix.new (required base totalInserted maxTableSize : Nat) : Option HeaderPrefix :=
  if maxTableSize = 0 then some ⟨0, false, 0⟩
  else if required = 0 then some ⟨0, false, 0⟩
  else if required ≤ totalInserted ∧ maxTableSize / 32 ≠ 0 then
    let (signNegative, deltaBase) := if base < required then (true, required - base - 1) else (false, base - required)
    some ⟨required % (2 * (maxTableSize / 32)) + 1, signNegative, deltaBase⟩
  else none

/-- `HeaderPrefix::get`. A division by zero or a subtraction below zero is `none`. -/
def HeaderPrefix.get (header : HeaderPrefix) (totalInserted maxTableSize : Nat) :
    Option (Except ParseError (Nat × Nat)) :=
  if maxTableSize = 0 then some (.ok (0, 0))
  else
    let required? : Option Nat :=
      if header.encodedInsertCount = 0 then some 0
      else
        let insertCount := header.encodedInsertCount - 1
        let maxEntries := maxTableSize / 32
        let wrapped := totalInserted % (2 * maxEntries)
        if maxEntries = 0 then none
        else if insertCount + maxEntries ≤ wrapped then some (insertCount + 2 * maxEntries + totalInserted - wrapped)
        else if wrapped + maxEntries < insertCount then
          let wrapped := wrapped + 2 * maxEntries
          if insertCount + totalInserted < wrapped then none else some (insertCount + totalInserted - wrapped)
        else some (insertCount + totalInserted - wrapped)
    match required? with
    | none => none
    | some required =>
      if required = 0 then some (.ok (required, 0))
      else if !header.signNegative then some (.ok (required, required + header.deltaBase))
      else if required < header.deltaBase + 1 then
        some (.error (.invalidBase ((required : Int) - header.deltaBase - 1)))
      else some (.ok (required, required - header.deltaBase - 1))

def HeaderPrefix.decode (bytes : List UInt8) : Except ParseError (HeaderPrefix × List UInt8) :=
  match decodeInt 8 bytes with
  | .error error => .error (.integer error)
  | .ok (_, encodedInsertCount, rest) =>
    match decodeInt 7 rest with
    | .error error => .error (.integer error)
    | .ok (signNegative, deltaBase, rest) => .ok (⟨encodedInsertCount, signNegative == 1, deltaBase⟩, rest)

def HeaderPrefix.encode (header : HeaderPrefix) : List UInt8 :=
  encodeInt 8 0 header.encodedInsertCount ++ encodeInt 7 (if header.signNegative then 1 else 0) header.deltaBase

inductive Indexed where
  | static (index : Nat)
  | dynamic (index : Nat)
  deriving DecidableEq, Repr

def Indexed.decode (bytes : List UInt8) : Except ParseError (Indexed × List UInt8) :=
  match decodeInt 6 bytes with
  | .error error => .error (.integer error)
  | .ok (flags, index, rest) =>
    if flags = 0b11 then .ok (.static index, rest)
    else if flags = 0b10 then .ok (.dynamic index, rest)
    else .error (.invalidPrefix flags)

def Indexed.encode : Indexed → List UInt8
  | .static index => encodeInt 6 0b11 index
  | .dynamic index => encodeInt 6 0b10 index

inductive LiteralWithNameRef where
  | static (index : Nat) (value : List UInt8)
  | dynamic (index : Nat) (value : List UInt8)
  deriving DecidableEq, Repr

def LiteralWithNameRef.decode (bytes : List UInt8) : Except ParseError (LiteralWithNameRef × List UInt8) :=
  match decodeInt 4 bytes with
  | .error error => .error (.integer error)
  | .ok (flags, index, rest) =>
    if flags &&& 0b0101 = 0b0101 then
      match decodeString 8 rest with
      | .ok (value, rest) => .ok (.static index value, rest)
      | .error error => .error (.string error)
    else if flags &&& 0b0101 = 0b0100 then
      match decodeString 8 rest with
      | .ok (value, rest) => .ok (.dynamic index value, rest)
      | .error error => .error (.string error)
    else .error (.invalidPrefix flags)

def LiteralWithNameRef.encode : LiteralWithNameRef → Option (List UInt8)
  | .static index value => (encodeString 8 0 value).map (encodeInt 4 0b0101 index ++ ·)
  | .dynamic index value => (encodeString 8 0 value).map (encodeInt 4 0b0100 index ++ ·)

structure Literal where
  name : List UInt8
  value : List UInt8
  deriving DecidableEq, Repr

def Literal.decode (bytes : List UInt8) : Except ParseError (Literal × List UInt8) :=
  match bytes with
  | [] => .error (.integer .unexpectedEnd)
  | first :: _ =>
    if first &&& 0b11100000 ≠ 0b00100000 then .error (.invalidPrefix first)
    else
      match decodeString 4 bytes with
      | .error error => .error (.string error)
      | .ok (name, rest) =>
        match decodeString 8 rest with
        | .error error => .error (.string error)
        | .ok (value, rest) => .ok (⟨name, value⟩, rest)

def Literal.encode (literal : Literal) : Option (List UInt8) :=
  match encodeString 4 0b0010 literal.name with
  | none => none
  | some name => (encodeString 8 0 literal.value).map (name ++ ·)

/-- One round of `encode_stateless`. -/
def encodeField (field : HeaderField) : Option (List UInt8) :=
  match StaticTable.find field with
  | some index => some (Indexed.encode (.static index))
  | none =>
    match StaticTable.findName field.name with
    | some index => LiteralWithNameRef.encode (.static index field.value)
    | none => Literal.encode ⟨field.name, field.value⟩

/-- The loop of `encode_stateless`: the bytes and the size of the fields. -/
def encodeFields : List HeaderField → Option (List UInt8 × Nat)
  | [] => some ([], 0)
  | field :: fields =>
      match encodeField field with
      | none => none
      | some bytes => (encodeFields fields).map fun rest => (bytes ++ rest.1, field.memSize + rest.2)

/-- `encode_stateless`. A panic is `none`. -/
def encodeStateless (fields : List HeaderField) : Option (List UInt8 × Nat) :=
  match HeaderPrefix.new 0 0 0 0 with
  | none => none
  | some header => (encodeFields fields).map fun block => (header.encode ++ block.1, block.2)

/-- `Decoded`, beside the flag for dynamic references. -/
structure Decoded where
  fields : List HeaderField
  memSize : Nat
  deriving DecidableEq, Repr

/-- One round of `decode_stateless`, up to the field. -/
def decodeField (first : UInt8) (bytes : List UInt8) : Except DecoderError (HeaderField × List UInt8) :=
  match HeaderBlockField.decode first with
  | .indexedWithPostBase => .error (.missingRefs 0)
  | .literalWithPostBaseNameRef => .error (.missingRefs 0)
  | .indexed =>
    match Indexed.decode bytes with
    | .error error => .error error.toDecoderError
    | .ok (.dynamic _, _) => .error (.missingRefs 0)
    | .ok (.static index, rest) =>
      match StaticTable.get index with
      | none => .error (.invalidStaticIndex index)
      | some field => .ok (field, rest)
  | .literalWithNameRef =>
    match LiteralWithNameRef.decode bytes with
    | .error error => .error error.toDecoderError
    | .ok (.dynamic _ _, _) => .error (.missingRefs 0)
    | .ok (.static index value, rest) =>
      match StaticTable.get index with
      | none => .error (.invalidStaticIndex index)
      | some field => .ok (field.withValue value, rest)
  | .literal =>
    match Literal.decode bytes with
    | .error error => .error error.toDecoderError
    | .ok (literal, rest) => .ok (⟨literal.name, literal.value⟩, rest)
  | .unknown => .error (.unknownPrefix first)

/-- The loop of `decode_stateless`. A round takes at least one byte, so the bytes bound
the rounds. -/
def decodeFields (maxSize : Nat) : Nat → List UInt8 → Nat → List HeaderField → Except DecoderError Decoded
  | _, [], memSize, fields => .ok ⟨fields, memSize⟩
  | 0, _ :: _, memSize, fields => .ok ⟨fields, memSize⟩
  | rounds + 1, first :: bytes, memSize, fields =>
      match decodeField first (first :: bytes) with
      | .error error => .error error
      | .ok (field, rest) =>
        let memSize := memSize + field.memSize
        if maxSize < memSize then .error (.headerTooLong memSize)
        else decodeFields maxSize rounds rest memSize (fields ++ [field])

/-- `decode_stateless`. A panic is `none`. -/
def decodeStateless (bytes : List UInt8) (maxSize : Nat) : Option (Except DecoderError Decoded) :=
  match HeaderPrefix.decode bytes with
  | .error error => some (.error error.toDecoderError)
  | .ok (header, rest) =>
    match header.get 0 0 with
    | none => none
    | some (.error error) => some (.error error.toDecoderError)
    | some (.ok (requiredRef, _)) =>
      if 0 < requiredRef then some (.error (.missingRefs requiredRef))
      else some (decodeFields maxSize rest.length rest 0 [])

section Fields

def HeaderField.Short (field : HeaderField) : Prop :=
  field.name.length < 134217728 ∧ field.value.length < 134217728

theorem HeaderBlockField.decode_first (first : UInt8) :
    (192 ≤ first.toNat → HeaderBlockField.decode first = .indexed) ∧
      (80 ≤ first.toNat ∧ first.toNat < 96 → HeaderBlockField.decode first = .literalWithNameRef) ∧
      (40 ≤ first.toNat ∧ first.toNat < 48 →
        HeaderBlockField.decode first = .literal ∧ first &&& 0b11100000 = 0b00100000) := by
  revert first
  apply forall_byte
  decide +kernel

theorem Indexed.decode_static {index : Nat} (small : index < 99) (rest : List UInt8) :
    Indexed.decode (encodeInt 6 0b11 index ++ rest) = .ok (.static index, rest) := by
  rw [Indexed.decode, decodeInt_encodeInt (by decide), if_pos (by omega)]
  rfl

theorem LiteralWithNameRef.decode_static {index : Nat} (small : index < 99) {value bytes rest : List UInt8}
    (read : decodeString 8 (bytes ++ rest) = .ok (value, rest)) :
    LiteralWithNameRef.decode (encodeInt 4 0b0101 index ++ bytes ++ rest) = .ok (.static index value, rest) := by
  rw [LiteralWithNameRef.decode, List.append_assoc, decodeInt_encodeInt (by decide), if_pos (by omega)]
  simp only [read]
  rfl

theorem decodeField_encodeField {field : HeaderField} (short : field.Short) :
    ∃ first tail, encodeField field = some (first :: tail) ∧
      ∀ rest, decodeField first (first :: tail ++ rest) = .ok (field, rest) := by
  unfold encodeField
  cases whole : StaticTable.find field with
  | some index =>
    obtain ⟨stored, small⟩ := StaticTable.get_of_find whole
    obtain ⟨first, tail, bytes, least, -⟩ := encodeInt_head (by decide : 6 ≤ 8) 0b11 index
    refine ⟨first, tail, congrArg some bytes, ?_⟩
    intro rest
    rw [decodeField, (HeaderBlockField.decode_first first).1 least, ← bytes, Indexed.decode_static small]
    simp only [stored]
  | none =>
    obtain ⟨valueFirst, valueTail, writtenValue, -, -, readValue⟩ :=
      decodeString_encodeString (by decide : 8 ≤ 8) 0 short.2
    cases named : StaticTable.findName field.name with
    | some index =>
      obtain ⟨⟨other, stored, sameName⟩, small⟩ := StaticTable.get_of_findName named
      obtain ⟨first, tail, bytes, least, most⟩ := encodeInt_head (by decide : 4 ≤ 8) 0b0101 index
      refine ⟨first, tail ++ valueFirst :: valueTail, ?_, ?_⟩
      · simp only [LiteralWithNameRef.encode, writtenValue, Option.map_some, bytes, List.cons_append]
      · intro rest
        rw [decodeField, (HeaderBlockField.decode_first first).2.1 ⟨least, most⟩, ← List.cons_append, ← bytes,
          LiteralWithNameRef.decode_static small (readValue rest)]
        simp only [stored, HeaderField.withValue, sameName]
    | none =>
      obtain ⟨first, tail, writtenName, least, most, readName⟩ :=
        decodeString_encodeString (by decide : 4 ≤ 8) 0b0010 short.1
      obtain ⟨announced, literal⟩ := (HeaderBlockField.decode_first first).2.2 ⟨least, most⟩
      refine ⟨first, tail ++ valueFirst :: valueTail, ?_, ?_⟩
      · simp only [Literal.encode, writtenName, writtenValue, Option.map_some, List.cons_append]
      · intro rest
        have name := readName (valueFirst :: valueTail ++ rest)
        have value := readValue rest
        rw [← List.append_assoc, List.cons_append, List.cons_append] at name
        rw [List.cons_append] at value
        rw [decodeField, announced]
        simp only [Literal.decode, List.cons_append, literal, ne_eq, not_true_eq_false, if_false, name, value]

theorem encodeField_length {field : HeaderField} (short : field.Short) {bytes : List UInt8}
    (written : encodeField field = some bytes) : bytes.length ≤ 2147483648 := by
  unfold encodeField at written
  cases whole : StaticTable.find field with
  | some index =>
    have small := (StaticTable.get_of_find whole).2
    have count := encodeInt_length 6 0b11 index
    simp only [whole, Option.some.injEq, Indexed.encode] at written
    rw [← written]
    omega
  | none =>
    simp only [whole] at written
    cases named : StaticTable.findName field.name with
    | some index =>
      have small := (StaticTable.get_of_findName named).2
      have count := encodeInt_length 4 0b0101 index
      simp only [named, LiteralWithNameRef.encode, Option.map_eq_some_iff] at written
      obtain ⟨value, coded, rfl⟩ := written
      have size := encodeString_length short.2 coded
      rw [List.length_append]
      omega
    | none =>
      simp only [named, Literal.encode] at written
      cases name : encodeString 4 0b0010 field.name with
      | none => simp [name] at written
      | some nameBytes =>
        simp only [name, Option.map_eq_some_iff] at written
        obtain ⟨value, coded, rfl⟩ := written
        have nameSize := encodeString_length short.1 name
        have size := encodeString_length short.2 coded
        rw [List.length_append]
        omega

theorem encodeFields_length {fields : List HeaderField} (short : ∀ field ∈ fields, field.Short) {bytes : List UInt8}
    {size : Nat} (written : encodeFields fields = some (bytes, size)) : bytes.length ≤ 2147483648 * fields.length := by
  induction fields generalizing bytes size with
  | nil =>
    cases written
    exact Nat.zero_le _
  | cons field fields ih =>
    rw [List.forall_mem_cons] at short
    rw [encodeFields] at written
    cases one : encodeField field with
    | none => simp [one] at written
    | some front =>
      simp only [one, Option.map_eq_some_iff] at written
      obtain ⟨⟨rest, others⟩, more, same⟩ := written
      cases same
      have frontSize := encodeField_length short.1 one
      have restSize := ih short.2 more
      simp only [List.length_append, List.length_cons]
      omega

theorem encodeStateless_length {fields : List HeaderField} (short : ∀ field ∈ fields, field.Short) {block : List UInt8}
    {size : Nat} (written : encodeStateless fields = some (block, size)) :
    block.length ≤ 2 + 2147483648 * fields.length := by
  have front : HeaderPrefix.new 0 0 0 0 = some ⟨0, false, 0⟩ := rfl
  simp only [encodeStateless, front, Option.map_eq_some_iff] at written
  obtain ⟨⟨bytes, others⟩, coded, same⟩ := written
  cases same
  have rest := encodeFields_length short coded
  have two : (HeaderPrefix.encode ⟨0, false, 0⟩).length = 2 := rfl
  simp only [List.length_append, two]
  omega

def totalSize (fields : List HeaderField) : Nat := (fields.map HeaderField.memSize).sum

theorem totalSize_cons (field : HeaderField) (fields : List HeaderField) :
    totalSize (field :: fields) = field.memSize + totalSize fields := rfl

theorem memSize_le_totalSize {field : HeaderField} {fields : List HeaderField} (member : field ∈ fields) :
    field.memSize ≤ totalSize fields :=
  List.single_le_sum (fun size _ => Nat.zero_le size) _ (List.mem_map_of_mem member)

theorem length_le_totalSize (fields : List HeaderField) : 32 * fields.length ≤ totalSize fields := by
  induction fields with
  | nil => exact Nat.le_refl _
  | cons field fields ih =>
    rw [totalSize_cons, List.length_cons, HeaderField.memSize]
    omega

theorem short_of_totalSize {fields : List HeaderField} (small : totalSize fields < 134217728) :
    ∀ field ∈ fields, field.Short := by
  intro field member
  have part := memSize_le_totalSize member
  rw [HeaderField.memSize] at part
  exact ⟨by omega, by omega⟩

/-- Where the decoder gives up on fields that are too large together: the size of those up
to the first too many. -/
def cutSize (maxSize : Nat) : Nat → List HeaderField → Nat
  | memSize, [] => memSize
  | memSize, field :: fields =>
      if maxSize < memSize + field.memSize then memSize + field.memSize
      else cutSize maxSize (memSize + field.memSize) fields

theorem decodeFields_encodeFields {fields : List HeaderField} (short : ∀ field ∈ fields, field.Short) :
    ∃ bytes, encodeFields fields = some (bytes, totalSize fields) ∧
      ∀ maxSize rounds memSize before, bytes.length ≤ rounds → memSize ≤ maxSize →
        decodeFields maxSize rounds bytes memSize before =
          if memSize + totalSize fields ≤ maxSize then .ok ⟨before ++ fields, memSize + totalSize fields⟩
          else .error (.headerTooLong (cutSize maxSize memSize fields)) := by
  induction fields with
  | nil =>
    refine ⟨[], rfl, ?_⟩
    intro maxSize rounds memSize before _ within
    rw [decodeFields, List.append_nil]
    exact (if_pos within).symm
  | cons field fields ih =>
    obtain ⟨first, tail, written, read⟩ := decodeField_encodeField (short field List.mem_cons_self)
    obtain ⟨bytes, rest, decoded⟩ := ih fun other member => short other (List.mem_cons_of_mem _ member)
    refine ⟨first :: tail ++ bytes, by simp only [encodeFields, written, rest, Option.map_some]; rfl, ?_⟩
    intro maxSize rounds memSize before enough within
    cases rounds with
    | zero => simp at enough
    | succ rounds =>
      rw [List.cons_append, decodeFields, ← List.cons_append, read bytes]
      simp only [cutSize]
      rw [totalSize_cons]
      by_cases cut : maxSize < memSize + field.memSize
      · rw [if_pos cut, if_pos cut, if_neg (by omega)]
      · have fewer : bytes.length ≤ rounds := by
          simp only [List.cons_append, List.length_cons, List.length_append] at enough
          omega
        rw [if_neg cut, if_neg cut, decoded maxSize rounds _ _ fewer (Nat.le_of_not_lt cut), List.append_assoc,
          List.singleton_append, Nat.add_assoc]

/-- A section is read back as the fields it was made of, with the size the encoder
reported, unless that is above the limit. -/
theorem decodeStateless_encodeStateless {fields : List HeaderField} (short : ∀ field ∈ fields, field.Short) :
    ∃ block, encodeStateless fields = some (block, totalSize fields) ∧
      ∀ maxSize, decodeStateless block maxSize =
        some (if totalSize fields ≤ maxSize then .ok ⟨fields, totalSize fields⟩
          else .error (.headerTooLong (cutSize maxSize 0 fields))) := by
  obtain ⟨bytes, written, decoded⟩ := decodeFields_encodeFields short
  refine ⟨encodeInt 8 0 0 ++ encodeInt 7 0 0 ++ bytes, ?_, ?_⟩
  · rw [encodeStateless, written]
    rfl
  · intro maxSize
    have header : HeaderPrefix.decode (encodeInt 8 0 0 ++ encodeInt 7 0 0 ++ bytes) = .ok (⟨0, false, 0⟩, bytes) := by
      rw [HeaderPrefix.decode, List.append_assoc, decodeInt_encodeInt (by decide), if_pos (by omega)]
      simp only
      rw [decodeInt_encodeInt (by decide), if_pos (by omega)]
      rfl
    have every := decoded maxSize bytes.length 0 [] (Nat.le_refl _) (Nat.zero_le _)
    rw [Nat.zero_add, List.nil_append] at every
    simp only [decodeStateless, header]
    exact congrArg some every

end Fields

section Sections

theorem Indexed.decode_length {bytes rest : List UInt8} {indexed : Indexed}
    (decoded : Indexed.decode bytes = .ok (indexed, rest)) : rest.length < bytes.length := by
  unfold Indexed.decode at decoded
  cases counted : decodeInt 6 bytes with
  | error error => simp [counted] at decoded
  | ok result =>
    have shorter := (decodeInt_lt (by decide) counted).2
    simp only [counted] at decoded
    split at decoded
    · cases decoded
      exact shorter
    · split at decoded
      · cases decoded
        exact shorter
      · cases decoded

theorem LiteralWithNameRef.decode_length {bytes rest : List UInt8} {literal : LiteralWithNameRef}
    (decoded : LiteralWithNameRef.decode bytes = .ok (literal, rest)) : rest.length < bytes.length := by
  unfold LiteralWithNameRef.decode at decoded
  cases counted : decodeInt 4 bytes with
  | error error => simp [counted] at decoded
  | ok result =>
    obtain ⟨flags, index, tail⟩ := result
    have shorter := (decodeInt_lt (by decide) counted).2
    simp only [counted] at decoded
    cases text : decodeString 8 tail with
    | error error =>
      simp only [text] at decoded
      split at decoded
      · cases decoded
      · split at decoded <;> cases decoded
    | ok string =>
      have after := decodeString_length (by decide) text
      simp only [text] at decoded
      split at decoded
      · cases decoded
        exact after.trans shorter
      · split at decoded
        · cases decoded
          exact after.trans shorter
        · cases decoded

theorem Literal.decode_length {bytes rest : List UInt8} {literal : Literal}
    (decoded : Literal.decode bytes = .ok (literal, rest)) : rest.length < bytes.length := by
  cases bytes with
  | nil => cases decoded
  | cons first bytes =>
    simp only [Literal.decode] at decoded
    split at decoded
    · cases decoded
    · cases name : decodeString 4 (first :: bytes) with
      | error error => simp [name] at decoded
      | ok string =>
        have shorter := decodeString_length (by decide) name
        cases text : decodeString 8 string.2 with
        | error error => simp [name, text] at decoded
        | ok value =>
          have after := decodeString_length (by decide) text
          simp only [name, text] at decoded
          cases decoded
          omega

theorem decodeField_length {first : UInt8} {bytes rest : List UInt8} {field : HeaderField}
    (decoded : decodeField first bytes = .ok (field, rest)) : rest.length < bytes.length := by
  unfold decodeField at decoded
  split at decoded
  · cases decoded
  · cases decoded
  · cases line : Indexed.decode bytes with
    | error error => simp [line] at decoded
    | ok result =>
      have shorter := Indexed.decode_length line
      simp only [line] at decoded
      split at decoded <;> try cases decoded
      split at decoded <;> cases decoded
      simp_all
  · cases line : LiteralWithNameRef.decode bytes with
    | error error => simp [line] at decoded
    | ok result =>
      have shorter := LiteralWithNameRef.decode_length line
      simp only [line] at decoded
      split at decoded <;> try cases decoded
      split at decoded <;> cases decoded
      simp_all
  · cases line : Literal.decode bytes with
    | error error => simp [line] at decoded
    | ok result =>
      have shorter := Literal.decode_length line
      simp only [line] at decoded
      cases decoded
      exact shorter
  · cases decoded

/-- Bytes that are the representations of some fields, with nothing left over. -/
inductive Lines : List UInt8 → List HeaderField → Prop where
  | done : Lines [] []
  | line {first : UInt8} {tail rest : List UInt8} {field : HeaderField} {fields : List HeaderField}
      (read : decodeField first (first :: tail) = .ok (field, rest)) (others : Lines rest fields) :
      Lines (first :: tail) (field :: fields)

theorem decodeFields_nil_ok_iff {maxSize rounds memSize : Nat} {before : List HeaderField} {decoded : Decoded}
    (within : memSize ≤ maxSize) :
    decodeFields maxSize rounds [] memSize before = .ok decoded ↔
      ∃ fields, Lines [] fields ∧ decoded = ⟨before ++ fields, memSize + totalSize fields⟩ ∧
        memSize + totalSize fields ≤ maxSize := by
  rw [decodeFields]
  constructor
  · intro run
    cases run
    exact ⟨[], .done, by rw [List.append_nil]; rfl, within⟩
  · rintro ⟨fields, lines, rfl, -⟩
    cases lines
    rw [List.append_nil]
    rfl

theorem decodeFields_ok_iff {maxSize rounds memSize : Nat} {bytes : List UInt8} {before : List HeaderField}
    {decoded : Decoded} (enough : bytes.length ≤ rounds) (within : memSize ≤ maxSize) :
    decodeFields maxSize rounds bytes memSize before = .ok decoded ↔
      ∃ fields, Lines bytes fields ∧ decoded = ⟨before ++ fields, memSize + totalSize fields⟩ ∧
        memSize + totalSize fields ≤ maxSize := by
  induction rounds generalizing bytes memSize before with
  | zero =>
    obtain rfl := List.eq_nil_of_length_eq_zero (Nat.le_zero.mp enough)
    exact decodeFields_nil_ok_iff within
  | succ rounds ih =>
    cases bytes with
    | nil => exact decodeFields_nil_ok_iff within
    | cons first tail =>
      rw [decodeFields]
      constructor
      · intro run
        cases read : decodeField first (first :: tail) with
        | error error => simp [read] at run
        | ok result =>
          obtain ⟨field, rest⟩ := result
          have shorter := decodeField_length read
          simp only [read] at run
          split at run
          · cases run
          case isFalse fits =>
            rw [ih (by simp only [List.length_cons] at enough shorter; omega) (Nat.le_of_not_lt fits)] at run
            obtain ⟨fields, others, rfl, small⟩ := run
            refine ⟨field :: fields, .line read others, ?_, ?_⟩
            · rw [totalSize_cons, List.append_assoc, List.singleton_append, Nat.add_assoc]
            · rw [totalSize_cons]
              omega
      · rintro ⟨fields, lines, rfl, small⟩
        cases lines with
        | @line _ _ rest field fields read others =>
          have shorter := decodeField_length read
          rw [totalSize_cons] at small
          simp only [read]
          rw [if_neg (by omega), ih (by simp only [List.length_cons] at enough shorter; omega) (by omega)]
          refine ⟨fields, others, ?_, by omega⟩
          rw [totalSize_cons, List.append_assoc, List.singleton_append, Nat.add_assoc]

/-- The prefix of a section decides nothing, whatever insert count it asks for. -/
theorem decodeStateless_of_front {bytes rest : List UInt8} {header : HeaderPrefix} (maxSize : Nat)
    (front : HeaderPrefix.decode bytes = .ok (header, rest)) :
    decodeStateless bytes maxSize = some (decodeFields maxSize rest.length rest 0 []) := by
  have ignored : header.get 0 0 = some (.ok (0, 0)) := rfl
  simp only [decodeStateless, front, ignored, Nat.lt_irrefl, if_false]

theorem size_of_decodeStateless {bytes : List UInt8} {maxSize : Nat} {decoded : Decoded}
    (read : decodeStateless bytes maxSize = some (.ok decoded)) :
    decoded.memSize = totalSize decoded.fields ∧ decoded.memSize ≤ maxSize := by
  cases front : HeaderPrefix.decode bytes with
  | error error => simp [decodeStateless, front] at read
  | ok result =>
    rw [decodeStateless_of_front maxSize front, Option.some.injEq,
      decodeFields_ok_iff (Nat.le_refl _) (Nat.zero_le _)] at read
    obtain ⟨fields, -, rfl, small⟩ := read
    exact ⟨Nat.zero_add _, small⟩

/-- What was read is what the encoder would have been given: its own encoding of the
fields has the size that was read, and is read the same. -/
theorem decodeStateless_canonical {bytes : List UInt8} {maxSize : Nat} {decoded : Decoded}
    (read : decodeStateless bytes maxSize = some (.ok decoded)) (small : decoded.memSize < 134217728) :
    ∃ block, encodeStateless decoded.fields = some (block, decoded.memSize) ∧
      decodeStateless block maxSize = some (.ok decoded) := by
  obtain ⟨size, within⟩ := size_of_decodeStateless read
  obtain ⟨block, written, readBack⟩ := decodeStateless_encodeStateless (short_of_totalSize (size ▸ small))
  refine ⟨block, by rw [written, size], ?_⟩
  rw [readBack, if_pos (size ▸ within), ← size]

-- the prefix asks for inserts that never come
theorem decodeStateless_canonical_connect :
    ∃ block, encodeStateless [⟨byteString ":method", byteString "CONNECT"⟩] = some (block, 46) ∧
      decodeStateless block 64 = some (.ok ⟨[⟨byteString ":method", byteString "CONNECT"⟩], 46⟩) := by
  have read : decodeStateless [9, 0, 207] 64 =
      some (.ok ⟨[⟨byteString ":method", byteString "CONNECT"⟩], 46⟩) := by decide +kernel
  exact decodeStateless_canonical read (by decide)

end Sections

end ProxyTunnels.Http3.Qpack
