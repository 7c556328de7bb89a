import Mathlib.Tactic.Ring
import ProxyTunnels.Http3.Frame

/-! HTTP/3 frames as the vendored encoders write them.

A frame that is sent has its payload with it; `encode` writes what stands in front of the
payload. What the decoder makes of the bytes is then known for every frame, and the decoder
takes all of them but one back for what they were: a PUSH_PROMISE has its payload twice.
-/

set_option autoImplicit false

namespace ProxyTunnels.Http3

structure VarInt where
  value : Nat
  small : value < 2 ^ 62
  deriving DecidableEq, Repr

/-- `put_u8`, `put_u16`, `put_u32` and `put_u64`, by their number of bytes. -/
def beBytes : Nat → Nat → List UInt8
  | 0, _ => []
  | count + 1, value => UInt8.ofNat (value / 256 ^ count) :: beBytes count value

def VarInt.fromU64 (value : Nat) : Option VarInt :=
  if small : value < 2 ^ 62 then some ⟨value, small⟩ else none

def VarInt.size (number : VarInt) : Nat :=
  if number.value < 2 ^ 6 then 1
  else if number.value < 2 ^ 14 then 2
  else if number.value < 2 ^ 30 then 4
  else 8

def VarInt.encode (number : VarInt) : List UInt8 :=
  if number.value < 2 ^ 6 then beBytes 1 number.value
  else if number.value < 2 ^ 14 then beBytes 2 (0b01 <<< 14 ||| number.value)
  else if number.value < 2 ^ 30 then beBytes 4 (0b10 <<< 30 ||| number.value)
  else beBytes 8 (0b11 <<< 62 ||| number.value)

/-- `write_var`. The failed `unwrap` is `none`. -/
def writeVar (value : Nat) : Option (List UInt8) := (VarInt.fromU64 value).map VarInt.encode

/-- `frame::Settings`: at most eight settings, no identifier twice. -/
structure Settings where
  entries : List (Nat × Nat)
  few : entries.length ≤ 8
  distinct : (entries.map Prod.fst).Nodup
  deriving DecidableEq, Repr

/-- `Frame<B>`. The number drawn for a reserved frame type is part of the frame. -/
inductive SendFrame where
  | data (payload : List UInt8)
  | headers (encoded : List UInt8)
  | cancelPush (id : VarInt)
  | settings (table : Settings)
  | pushPromise (id : Nat) (encoded : List UInt8)
  | goaway (id : VarInt)
  | maxPushId (id : VarInt)
  | webTransportStream (session : Nat)
  | grease (draw : Nat)
  deriving DecidableEq, Repr

/-- `FrameType::grease`, `SettingId::grease` and `StreamType::grease`, from the number drawn. -/
def greaseId (draw : Nat) : Nat := draw * 0x1f + 0x21

/-- The numbers `fastrand` draws from. -/
def greaseDraws : Nat := 0x210842108421083

/-- `FrameHeader::encode_header`. -/
def encodeHeader (ty len : Nat) : Option (List UInt8) := do
  let ty ← writeVar ty
  let len ← writeVar len
  return ty ++ len

def simpleFrameEncode (ty : Nat) (id : VarInt) : Option (List UInt8) := do
  let header ← encodeHeader ty id.size
  return header ++ id.encode

def settingsLen : List (Nat × Nat) → Option Nat
  | [] => some 0
  | (id, value) :: entries => do
      let id ← VarInt.fromU64 id
      let value ← VarInt.fromU64 value
      let len ← settingsLen entries
      return id.size + value.size + len

/-- The loop of `Settings::encode`. -/
def encodeEntries : List (Nat × Nat) → Option (List UInt8)
  | [] => some []
  | (id, value) :: entries => do
      let id ← writeVar id
      let value ← writeVar value
      let rest ← encodeEntries entries
      return id ++ value ++ rest

def Settings.encode (settings : Settings) : Option (List UInt8) := do
  let len ← settingsLen settings.entries
  let header ← encodeHeader 0x4 len
  let entries ← encodeEntries settings.entries
  return header ++ entries

def greaseText : List UInt8 := [103, 114, 101, 97, 115, 101]

def SendFrame.encode : SendFrame → Option (List UInt8)
  | .data payload => encodeHeader 0x0 payload.length
  | .headers encoded => encodeHeader 0x1 encoded.length
  | .settings table => table.encode
  | .pushPromise id encoded => do
      let number ← VarInt.fromU64 id
      let header ← encodeHeader 0x5 (number.size + encoded.length)
      let id ← writeVar id
      return header ++ id ++ encoded
  | .cancelPush id => simpleFrameEncode 0x3 id
  | .goaway id => simpleFrameEncode 0x7 id
  | .maxPushId id => simpleFrameEncode 0xd id
  | .grease draw => do
      let ty ← writeVar (greaseId draw)
      let len ← writeVar 6
      return ty ++ len ++ greaseText
  | .webTransportStream session => do
      let ty ← writeVar 0x41
      let session ← writeVar session
      return ty ++ session

def SendFrame.payload : SendFrame → Option (List UInt8)
  | .data payload => some payload
  | .headers encoded => some encoded
  | .pushPromise _ encoded => some encoded
  | _ => none

def SendFrame.wire (frame : SendFrame) : Option (List UInt8) :=
  frame.encode.map (· ++ frame.payload.getD [])

section Numbers

theorem length_beBytes (count value : Nat) : (beBytes count value).length = count := by
  induction count with
  | zero => rfl
  | succ count ih => rw [beBytes, List.length_cons, ih]

theorem foldl_beBytes (count value front : Nat) :
    (beBytes count value).foldl (fun value byte => value * 256 + byte.toNat) front =
      front * 256 ^ count + value % 256 ^ count := by
  induction count generalizing front with
  | zero => simp [beBytes, Nat.mod_one]
  | succ count ih =>
    rw [beBytes, List.foldl_cons, ih, UInt8.toNat_ofNat', Nat.pow_succ 256 count, Nat.mod_mul]
    ring

theorem getVar_tagged {tag count value : Nat} (known : tag < 4) (length : 2 ^ tag = count + 1)
    (small : value < 64 * 256 ^ count) (rest : List UInt8) :
    getVar (beBytes (count + 1) (tag * (64 * 256 ^ count) + value) ++ rest) = .ok (value, rest) := by
  have positive : 0 < 256 ^ count := Nat.pow_pos (by decide)
  have top : value / 256 ^ count < 64 := (Nat.div_lt_iff_lt_mul positive).mpr small
  have first : (tag * (64 * 256 ^ count) + value) / 256 ^ count = tag * 64 + value / 256 ^ count := by
    rw [← Nat.mul_assoc, Nat.add_comm, Nat.add_mul_div_right _ _ positive, Nat.add_comm]
  have low : (tag * (64 * 256 ^ count) + value) % 256 ^ count = value % 256 ^ count := by
    rw [← Nat.mul_assoc, Nat.add_comm, Nat.add_mul_mod_self_right]
  have parts : ∀ high < 64, tag * 64 + high < 256 ∧ (tag * 64 + high) / 64 = tag ∧ (tag * 64 + high) % 64 = high := by
    intro high small
    omega
  obtain ⟨fits, tagged, cleared⟩ := parts _ top
  have byte : (UInt8.ofNat (tag * 64 + value / 256 ^ count)).toNat = tag * 64 + value / 256 ^ count := by
    rw [UInt8.toNat_ofNat', Nat.mod_eq_of_lt fits]
  have size : encodedSize (UInt8.ofNat (tag * 64 + value / 256 ^ count)) - 1 = count := by
    rw [encodedSize, byte, tagged, length]
    rfl
  rw [beBytes, first, List.cons_append]
  simp only [getVar, size, byte, cleared]
  rw [if_neg (by rw [List.length_append, length_beBytes]; omega)]
  rw [List.take_append_of_le_length (Nat.le_of_eq (length_beBytes _ _).symm),
    List.drop_append_of_le_length (Nat.le_of_eq (length_beBytes _ _).symm),
    List.take_of_length_le (Nat.le_of_eq (length_beBytes _ _)),
    List.drop_of_length_le (Nat.le_of_eq (length_beBytes _ _)), List.nil_append]
  rw [beValue, List.foldl_cons, foldl_beBytes, low, UInt8.toNat_ofNat', Nat.zero_mul, Nat.zero_add,
    Nat.mod_eq_of_lt (by omega), Nat.div_add_mod']

variable (number : VarInt)

theorem VarInt.getVar_encode (rest : List UInt8) : getVar (number.encode ++ rest) = .ok (number.value, rest) := by
  have small := number.small
  unfold VarInt.encode
  split
  · have read := @getVar_tagged 0 0 number.value (by decide) rfl (by omega) rest
    rwa [Nat.zero_mul, Nat.zero_add, Nat.zero_add] at read
  · split
    · rw [← Nat.shiftLeft_add_eq_or_of_lt (by omega)]
      exact @getVar_tagged 1 1 number.value (by decide) rfl (by omega) rest
    · split
      · rw [← Nat.shiftLeft_add_eq_or_of_lt (by omega)]
        exact @getVar_tagged 2 3 number.value (by decide) rfl (by omega) rest
      · rw [← Nat.shiftLeft_add_eq_or_of_lt (by omega)]
        exact @getVar_tagged 3 7 number.value (by decide) rfl (by omega) rest

theorem VarInt.length_encode : number.encode.length = number.size := by
  unfold VarInt.encode VarInt.size
  split
  · exact length_beBytes _ _
  · split
    · exact length_beBytes _ _
    · split
      · exact length_beBytes _ _
      · exact length_beBytes _ _

theorem VarInt.size_le : number.size ≤ 8 := by
  unfold VarInt.size
  split <;> try omega
  split <;> try omega
  split <;> omega

theorem fromU64_of_lt {value : Nat} (small : value < 2 ^ 62) : VarInt.fromU64 value = some ⟨value, small⟩ :=
  dif_pos small

theorem writeVar_of_lt {value : Nat} (small : value < 2 ^ 62) :
    writeVar value = some (VarInt.encode ⟨value, small⟩) := by
  rw [writeVar, fromU64_of_lt small, Option.map_some]

theorem VarInt.encode_ne_nil : number.encode ≠ [] := by
  intro empty
  have read := number.getVar_encode []
  rw [empty] at read
  cases read

end Numbers

section Entries
variable {entries : List (Nat × Nat)}

def Writable (entries : List (Nat × Nat)) : Prop := ∀ entry ∈ entries, entry.1 < 2 ^ 62 ∧ entry.2 < 2 ^ 62

theorem encodeEntries_of_writable (writable : Writable entries) :
    ∃ bytes, encodeEntries entries = some bytes ∧ settingsLen entries = some bytes.length ∧
      bytes.length ≤ 16 * entries.length := by
  induction entries with
  | nil => exact ⟨[], rfl, rfl, Nat.le_refl _⟩
  | cons entry entries ih =>
    obtain ⟨smallId, smallValue⟩ := writable entry List.mem_cons_self
    obtain ⟨bytes, written, counted, bound⟩ := ih fun other member => writable other (List.mem_cons_of_mem _ member)
    have idSize := VarInt.size_le ⟨entry.1, smallId⟩
    have valueSize := VarInt.size_le ⟨entry.2, smallValue⟩
    refine ⟨VarInt.encode ⟨entry.1, smallId⟩ ++ VarInt.encode ⟨entry.2, smallValue⟩ ++ bytes, ?_, ?_, ?_⟩
    · simp only [encodeEntries, writeVar_of_lt smallId, writeVar_of_lt smallValue, written]
      rfl
    · simp only [settingsLen, fromU64_of_lt smallId, fromU64_of_lt smallValue, counted, List.length_append,
        VarInt.length_encode]
      rfl
    · simp only [List.length_append, List.length_cons, VarInt.length_encode]
      omega

theorem decodeSettings_entry {id : VarInt} (value : VarInt) (tail : List UInt8) (before : List (Nat × Nat)) (rounds : Nat)
    (legal : settingForbidden id.value = false) :
    decodeSettings (rounds + 1) (id.encode ++ (value.encode ++ tail)) before =
      if settingSupported id.value then
        match insertSetting before id.value value.value with
        | .error error => .error error
        | .ok entries => decodeSettings rounds tail entries
      else decodeSettings rounds tail before := by
  have idLength := List.length_pos_of_ne_nil id.encode_ne_nil
  have valueLength := List.length_pos_of_ne_nil value.encode_ne_nil
  have length : 2 ≤ (id.encode ++ (value.encode ++ tail)).length := by
    rw [List.length_append, List.length_append]
    omega
  rw [decodeSettings, if_neg (Nat.not_lt.mpr length), VarInt.getVar_encode]
  · simp only [VarInt.getVar_encode, legal]
    rfl
  · intro empty
    rw [empty] at length
    cases length

theorem decodeSettings_encodeEntries {before : List (Nat × Nat)} {rounds : Nat} {bytes : List UInt8}
    (writable : Writable entries) (written : encodeEntries entries = some bytes)
    (allowed : ∀ entry ∈ entries, settingForbidden entry.1 = false) (few : before.length + entries.length ≤ 8)
    (distinct : ((before ++ entries).map Prod.fst).Nodup) (enough : bytes.length ≤ rounds) :
    decodeSettings rounds bytes before = .ok (before ++ entries.filter fun entry => settingSupported entry.1) := by
  induction entries generalizing before rounds bytes with
  | nil =>
    cases written
    rw [decodeSettings, List.filter_nil, List.append_nil]
  | cons entry entries ih =>
    obtain ⟨id, value⟩ := entry
    have others : Writable entries := fun other member => writable other (List.mem_cons_of_mem _ member)
    have later : ∀ entry ∈ entries, settingForbidden entry.1 = false :=
      fun other member => allowed other (List.mem_cons_of_mem _ member)
    obtain ⟨smallId, smallValue⟩ := writable (id, value) List.mem_cons_self
    obtain ⟨tail, rest, -, -⟩ := encodeEntries_of_writable others
    have whole : bytes = VarInt.encode ⟨id, smallId⟩ ++ (VarInt.encode ⟨value, smallValue⟩ ++ tail) := by
      simp only [encodeEntries, writeVar_of_lt smallId, writeVar_of_lt smallValue, rest] at written
      cases written
      exact List.append_assoc _ _ _
    have idLength := List.length_pos_of_ne_nil (VarInt.encode_ne_nil ⟨id, smallId⟩)
    have length := congrArg List.length whole
    rw [List.length_append, List.length_append] at length
    rw [List.length_cons] at few
    obtain ⟨rounds, rfl⟩ : ∃ fewer, rounds = fewer + 1 := ⟨rounds - 1, by omega⟩
    rw [whole, decodeSettings_entry _ _ _ _ (allowed (id, value) List.mem_cons_self)]
    cases known : settingSupported id with
    | true =>
      have fresh : before.any (fun entry => entry.1 == id) = false := by
        rw [List.any_eq_false]
        intro entry member same
        rw [List.map_append, List.nodup_append] at distinct
        exact distinct.2.2 entry.1 (List.mem_map_of_mem member) id List.mem_cons_self (beq_iff_eq.mp same)
      have inserted : insertSetting before id value = .ok (before ++ [(id, value)]) := by
        rw [insertSetting, if_neg (by omega), fresh]
        rfl
      have moved : before ++ [(id, value)] ++ entries = before ++ (id, value) :: entries := by
        rw [List.append_assoc, List.singleton_append]
      simp only [if_true, inserted]
      rw [ih others rest later _ (moved ▸ distinct) (by omega)]
      · simp only [List.append_assoc, List.singleton_append, List.filter_cons, known, if_true]
      · simp only [List.length_append, List.length_singleton]
        omega
    | false =>
      have fewer : ((before ++ entries).map Prod.fst).Nodup :=
        distinct.sublist ((List.sublist_cons_self _ _).append_left _ |>.map _)
      simp only [Bool.false_eq_true, if_false]
      rw [ih others rest later (by omega) fewer (by omega)]
      simp only [List.filter_cons, known, Bool.false_eq_true, if_false]

end Entries

section Frames

def SendFrame.Sendable : SendFrame → Prop
  | .data payload => payload.length < 2 ^ 62
  | .headers encoded => encoded.length < 2 ^ 62
  | .settings table => Writable table.entries ∧ ∀ entry ∈ table.entries, settingForbidden entry.1 = false
  | .pushPromise id encoded => id < 2 ^ 62 ∧ encoded.length + 8 < 2 ^ 62
  | .webTransportStream session => session < 2 ^ 62
  | .grease draw => draw < greaseDraws
  | .cancelPush _ => True
  | .goaway _ => True
  | .maxPushId _ => True

/-- What the decoder makes of a frame with `rest` behind it. The payload of a DATA frame stays
in the buffer, and so does the second copy of a promise. -/
def SendFrame.received (rest : List UInt8) : SendFrame → Decoded
  | .data payload => .frame (.data payload.length) (payload ++ rest)
  | .headers encoded => .frame (.headers encoded) rest
  | .settings table => .frame (.settings (table.entries.filter fun entry => settingSupported entry.1)) rest
  | .pushPromise id encoded => .frame (.pushPromise id encoded) (encoded ++ rest)
  | .webTransportStream session => .frame (.webTransportStream session) rest
  | .grease draw => .unknown (greaseId draw) rest
  | .cancelPush id => .frame (.cancelPush id.value) rest
  | .goaway id => .frame (.goaway id.value) rest
  | .maxPushId id => .frame (.maxPushId id.value) rest

theorem encodeHeader_of_lt {ty len : Nat} (known : ty < 2 ^ 62) (small : len < 2 ^ 62) :
    encodeHeader ty len = some (VarInt.encode ⟨ty, known⟩ ++ VarInt.encode ⟨len, small⟩) := by
  simp only [encodeHeader, writeVar_of_lt known, writeVar_of_lt small]
  rfl

theorem Frame.decode_payload {ty len : VarInt} {payload : List UInt8} (counted : len.value = payload.length)
    (stream : ty.value ≠ 0x41) (data : ty.value ≠ 0x0) (rest : List UInt8) :
    Frame.decode (ty.encode ++ len.encode ++ (payload ++ rest)) = decodePayload ty.value payload rest := by
  rw [List.append_assoc, Frame.decode, VarInt.getVar_encode]
  simp only [stream, if_false, VarInt.getVar_encode, data]
  rw [if_neg (by rw [List.length_append]; omega), counted, List.take_left, List.drop_left]

theorem decodeIdFrame_encode (build : Nat → Frame) (id : VarInt) (rest : List UInt8) :
    decodeIdFrame build id.encode rest = .frame (build id.value) rest := by
  have read := id.getVar_encode []
  rw [List.append_nil] at read
  simp only [decodeIdFrame, read, List.nil_append]

theorem decodePayload_reserved {ty : Nat} (large : 0xd < ty) (payload rest : List UInt8) :
    decodePayload ty payload rest = .unknown ty rest := by
  unfold decodePayload
  split <;> first | omega | rfl

theorem simpleFrameEncode_wire {ty : Nat} (known : ty < 2 ^ 62) (stream : ty ≠ 0x41) (data : ty ≠ 0x0)
    (id : VarInt) (rest : List UInt8) :
    ∃ bytes, simpleFrameEncode ty id = some bytes ∧ Frame.decode (bytes ++ rest) = decodePayload ty id.encode rest := by
  have small : id.size < 2 ^ 62 := by
    have bound := id.size_le
    omega
  refine ⟨VarInt.encode ⟨ty, known⟩ ++ VarInt.encode ⟨id.size, small⟩ ++ id.encode, ?_, ?_⟩
  · simp only [simpleFrameEncode, encodeHeader_of_lt known small]
    rfl
  · rw [List.append_assoc]
    exact Frame.decode_payload id.length_encode.symm stream data rest

theorem Settings.encode_wire {table : Settings} (writable : Writable table.entries)
    (allowed : ∀ entry ∈ table.entries, settingForbidden entry.1 = false) :
    ∃ bytes, table.encode = some bytes ∧ (∀ len, settingsLen table.entries = some len → bytes.length ≤ 16 + len) ∧
      ∀ rest, Frame.decode (bytes ++ rest) =
        .frame (.settings (table.entries.filter fun entry => settingSupported entry.1)) rest := by
  obtain ⟨entries, written, counted, bound⟩ := encodeEntries_of_writable writable
  have few := table.few
  have small : entries.length < 2 ^ 62 := by omega
  have header := encodeHeader_of_lt (show 0x4 < 2 ^ 62 by decide) small
  refine ⟨VarInt.encode ⟨0x4, by decide⟩ ++ VarInt.encode ⟨entries.length, small⟩ ++ entries, ?_, ?_, ?_⟩
  · simp only [Settings.encode, counted, Option.bind_eq_bind, Option.bind_some, header, written]
    rfl
  · intro len same
    rw [counted, Option.some.injEq] at same
    have tySize := VarInt.size_le ⟨0x4, by decide⟩
    have lenSize := VarInt.size_le ⟨entries.length, small⟩
    rw [List.length_append, List.length_append, VarInt.length_encode, VarInt.length_encode]
    omega
  · intro rest
    have read : decodeSettings entries.length entries [] = _ :=
      decodeSettings_encodeEntries writable written allowed (by rw [List.length_nil]; omega) table.distinct (Nat.le_refl _)
    rw [List.append_assoc, Frame.decode_payload rfl (by simp) (by simp), decodePayload]
    simp only [read, List.nil_append]

theorem SendFrame.wire_of_encode {frame : SendFrame} {bytes : List UInt8} (written : frame.encode = some bytes)
    (bare : frame.payload = none) : frame.wire = some bytes := by
  rw [wire, written, bare, Option.map_some, Option.getD_none, List.append_nil]

/-- Whatever is sent is taken for what it is by a decoder that has it whole. -/
theorem SendFrame.decode_wire {frame : SendFrame} (sendable : frame.Sendable) (rest : List UInt8) :
    ∃ bytes, frame.wire = some bytes ∧ Frame.decode (bytes ++ rest) = frame.received rest := by
  cases frame with
  | data content =>
    have header := encodeHeader_of_lt (show 0x0 < 2 ^ 62 by decide) sendable
    refine ⟨VarInt.encode ⟨0x0, by decide⟩ ++ VarInt.encode ⟨content.length, sendable⟩ ++ content, ?_, ?_⟩
    · rw [wire, encode, header]
      rfl
    · rw [List.append_assoc, List.append_assoc, Frame.decode, VarInt.getVar_encode]
      simp only [VarInt.getVar_encode]
      rfl
  | headers encoded =>
    have header := encodeHeader_of_lt (show 0x1 < 2 ^ 62 by decide) sendable
    refine ⟨VarInt.encode ⟨0x1, by decide⟩ ++ VarInt.encode ⟨encoded.length, sendable⟩ ++ encoded, ?_, ?_⟩
    · rw [wire, encode, header]
      rfl
    · rw [List.append_assoc, Frame.decode_payload rfl (by simp) (by simp)]
      rfl
  | settings table =>
    obtain ⟨bytes, written, -, read⟩ := table.encode_wire sendable.1 sendable.2
    exact ⟨bytes, wire_of_encode written rfl, read rest⟩
  | pushPromise id encoded =>
    obtain ⟨small, fits⟩ := sendable
    have size := VarInt.size_le ⟨id, small⟩
    have counted : (VarInt.mk id small).size + encoded.length < 2 ^ 62 := by omega
    have header := encodeHeader_of_lt (show 0x5 < 2 ^ 62 by decide) counted
    refine ⟨VarInt.encode ⟨0x5, by decide⟩ ++ VarInt.encode ⟨_, counted⟩ ++
      (VarInt.encode ⟨id, small⟩ ++ encoded) ++ encoded, ?_, ?_⟩
    · simp only [wire, encode, fromU64_of_lt small, Option.bind_eq_bind, Option.bind_some, header,
        writeVar_of_lt small, Option.pure_def, Option.map_some, SendFrame.payload, Option.getD_some, List.append_assoc]
    · have length : (VarInt.mk id small).size + encoded.length = (VarInt.encode ⟨id, small⟩ ++ encoded).length := by
        rw [List.length_append, VarInt.length_encode]
      rw [List.append_assoc, List.append_assoc, Frame.decode_payload length (by simp) (by simp), decodePayload]
      simp only [VarInt.getVar_encode]
      rfl
  | webTransportStream session =>
    refine ⟨VarInt.encode ⟨0x41, by decide⟩ ++ VarInt.encode ⟨session, sendable⟩, ?_, ?_⟩
    · rw [wire, encode, writeVar_of_lt (show 0x41 < 2 ^ 62 by decide), writeVar_of_lt sendable]
      exact congrArg some (List.append_nil _)
    · rw [List.append_assoc, Frame.decode, VarInt.getVar_encode]
      simp only [if_true, VarInt.getVar_encode]
      rfl
  | grease draw =>
    have small : greaseId draw < 2 ^ 62 := by
      simp only [Sendable, greaseDraws, greaseId] at sendable ⊢
      omega
    have reserved : 0xd < greaseId draw ∧ greaseId draw ≠ 0x41 := by
      unfold greaseId
      omega
    refine ⟨VarInt.encode ⟨greaseId draw, small⟩ ++ VarInt.encode ⟨6, by decide⟩ ++ greaseText, ?_, ?_⟩
    · rw [wire, encode, writeVar_of_lt small, writeVar_of_lt (show 6 < 2 ^ 62 by decide)]
      exact congrArg some (List.append_nil _)
    · have decoded := @Frame.decode_payload ⟨greaseId draw, small⟩ ⟨6, by decide⟩ greaseText rfl reserved.2
        (by simp only; omega) rest
      rw [List.append_assoc, decoded]
      exact decodePayload_reserved reserved.1 _ _
  | cancelPush id =>
    obtain ⟨bytes, written, read⟩ := simpleFrameEncode_wire (show 0x3 < 2 ^ 62 by decide) (by decide) (by decide) id rest
    exact ⟨bytes, wire_of_encode written rfl, read.trans (decodeIdFrame_encode .cancelPush id rest)⟩
  | goaway id =>
    obtain ⟨bytes, written, read⟩ := simpleFrameEncode_wire (show 0x7 < 2 ^ 62 by decide) (by decide) (by decide) id rest
    exact ⟨bytes, wire_of_encode written rfl, read.trans (decodeIdFrame_encode .goaway id rest)⟩
  | maxPushId id =>
    obtain ⟨bytes, written, read⟩ := simpleFrameEncode_wire (show 0xd < 2 ^ 62 by decide) (by decide) (by decide) id rest
    exact ⟨bytes, wire_of_encode written rfl, read.trans (decodeIdFrame_encode .maxPushId id rest)⟩

end Frames

end ProxyTunnels.Http3
