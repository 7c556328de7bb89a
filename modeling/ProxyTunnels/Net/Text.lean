import Mathlib.Data.List.DropRight

/-! Texts as operators paste them: trimming, and standard base64. -/

set_option autoImplicit false

namespace ProxyTunnels.Net

section Trim

/-- `char::is_whitespace`: Unicode's `White_Space`. -/
def isWhitespace (c : Char) : Bool :=
  (9 ≤ c.toNat && c.toNat ≤ 13) || (0x2000 ≤ c.toNat && c.toNat ≤ 0x200a) ||
    [0x20, 0x85, 0xa0, 0x1680, 0x2028, 0x2029, 0x202f, 0x205f, 0x3000].contains c.toNat

def trimChars (chars : List Char) : List Char := (chars.dropWhile isWhitespace).rdropWhile isWhitespace

/-- `str::trim`. -/
def trim (text : String) : String := String.ofList (trimChars text.toList)

theorem dropWhile_of_isPrefix {p : Char → Bool} {front chars : List Char} (cut : front <+: chars)
    (clean : chars.dropWhile p = chars) : front.dropWhile p = front := by
  obtain ⟨rest, rfl⟩ := cut
  cases front with
  | nil => rfl
  | cons c front =>
    have kept : ¬ p c = true := by
      rw [List.dropWhile_eq_self_iff] at clean
      exact clean (Nat.succ_pos _)
    simp [kept]

theorem trimChars_trimChars (chars : List Char) : trimChars (trimChars chars) = trimChars chars := by
  have front : (trimChars chars).dropWhile isWhitespace = trimChars chars :=
    dropWhile_of_isPrefix (List.rdropWhile_prefix _ _) (List.dropWhile_idempotent _ _)
  calc trimChars (trimChars chars) = (trimChars chars).rdropWhile isWhitespace := by rw [trimChars, front]
    _ = trimChars chars := List.rdropWhile_idempotent _ _

theorem trim_trim (text : String) : trim (trim text) = trim text := by
  simp [trim, trimChars_trimChars]

theorem mem_of_mem_trim {text : String} {c : Char} (member : c ∈ (trim text).toList) : c ∈ text.toList := by
  rw [trim, String.toList_ofList] at member
  exact (List.dropWhile_suffix _).subset ((List.rdropWhile_prefix _ _).subset member)

def Blank (chars : List Char) : Prop := ∀ c ∈ chars, isWhitespace c = true

instance (chars : List Char) : Decidable (Blank chars) :=
  decidable_of_iff (chars.all isWhitespace = true) List.all_eq_true

theorem blank_empty : Blank "".toList := by
  intro c member
  cases member

def Solid (chars : List Char) : Prop := ∀ c ∈ chars, isWhitespace c = false

theorem rdropWhile_append_blank (chars : List Char) {after : List Char} (blank : Blank after) :
    (chars ++ after).rdropWhile isWhitespace = chars.rdropWhile isWhitespace := by
  rw [List.rdropWhile, List.rdropWhile, List.reverse_append, List.dropWhile_append_of_pos]
  intro c member
  exact blank c (List.mem_reverse.mp member)

theorem trimChars_padded {before after : List Char} (blankBefore : Blank before) (blankAfter : Blank after)
    (chars : List Char) : trimChars (before ++ chars ++ after) = trimChars chars := by
  have front : (before ++ chars ++ after).dropWhile isWhitespace = (chars ++ after).dropWhile isWhitespace := by
    rw [List.append_assoc, List.dropWhile_append_of_pos blankBefore]
  rw [trimChars, front, List.dropWhile_append]
  split
  · next none =>
    rw [List.dropWhile_eq_nil_iff.mpr blankAfter, trimChars, List.isEmpty_iff.mp none]
  · exact rdropWhile_append_blank _ blankAfter

theorem trim_padded {before after : String} (blankBefore : Blank before.toList) (blankAfter : Blank after.toList)
    (text : String) : trim (before ++ text ++ after) = trim text := by
  simp [trim, ← trimChars_padded blankBefore blankAfter text.toList]

theorem trimChars_of_ends {chars : List Char} (first : ∀ c ∈ chars.head?, isWhitespace c = false)
    (last : ∀ c ∈ chars.getLast?, isWhitespace c = false) : trimChars chars = chars := by
  have front : chars.dropWhile isWhitespace = chars := by
    cases chars with
    | nil => rfl
    | cons c chars => simp [first c rfl]
  rw [trimChars, front, List.rdropWhile_eq_self_iff]
  intro nonempty
  rw [last _ (List.getLast?_eq_some_getLast nonempty)]
  exact Bool.false_ne_true

theorem trimChars_between {front back : List Char} (middle : List Char) (solidFront : Solid front)
    (solidBack : Solid back) (start : front ≠ []) (stop : back ≠ []) :
    trimChars (front ++ middle ++ back) = front ++ middle ++ back := by
  refine trimChars_of_ends ?_ ?_
  · rw [List.append_assoc, List.head?_append_of_ne_nil _ start]
    exact fun c member => solidFront c (List.mem_of_head? member)
  · rw [List.getLast?_append_of_ne_nil _ stop]
    exact fun c member => solidBack c (List.mem_of_getLast? member)

theorem trimChars_solid {chars : List Char} (solid : Solid chars) : trimChars chars = chars :=
  trimChars_of_ends (fun c member => solid c (List.mem_of_head? member))
    (fun c member => solid c (List.mem_of_getLast? member))

theorem trim_solid {text : String} (solid : Solid text.toList) : trim text = text := by
  rw [trim, trimChars_solid solid, String.ofList_toList]

end Trim

section Split
variable {delimiter : Char}

def splitChars (delimiter : Char) : List Char → Option (List Char × List Char)
  | [] => none
  | c :: rest =>
      if c = delimiter then some ([], rest)
      else (splitChars delimiter rest).map fun (front, back) => (c :: front, back)

/-- `str::split_once`: at the first delimiter. -/
def splitOnce (delimiter : Char) (text : String) : Option (String × String) :=
  (splitChars delimiter text.toList).map fun (front, back) => (String.ofList front, String.ofList back)

theorem splitChars_append {front : List Char} (outside : delimiter ∉ front) (back : List Char) :
    splitChars delimiter (front ++ delimiter :: back) = some (front, back) := by
  induction front with
  | nil => simp [splitChars]
  | cons c front ih =>
    obtain ⟨other, later⟩ := List.ne_and_not_mem_of_not_mem_cons outside
    simp [splitChars, Ne.symm other, ih later]

theorem splitChars_none {chars : List Char} (outside : delimiter ∉ chars) : splitChars delimiter chars = none := by
  induction chars with
  | nil => rfl
  | cons c chars ih =>
    obtain ⟨other, later⟩ := List.ne_and_not_mem_of_not_mem_cons outside
    simp [splitChars, Ne.symm other, ih later]

end Split

namespace Base64

def digit (value : Nat) : Char :=
  if value < 26 then Char.ofNat ('A'.toNat + value)
  else if value < 52 then Char.ofNat ('a'.toNat + (value - 26))
  else if value < 62 then Char.ofNat ('0'.toNat + (value - 52))
  else if value = 62 then '+' else '/'

def encodeChars : List UInt8 → List Char
  | [] => []
  | [a] => [digit (a.toNat / 4), digit (a.toNat % 4 * 16), '=', '=']
  | [a, b] =>
      [digit (a.toNat / 4), digit (a.toNat % 4 * 16 + b.toNat / 16), digit (b.toNat % 16 * 4), '=']
  | a :: b :: c :: rest =>
      digit (a.toNat / 4) :: digit (a.toNat % 4 * 16 + b.toNat / 16) ::
        digit (b.toNat % 16 * 4 + c.toNat / 64) :: digit (c.toNat % 64) :: encodeChars rest

def encode (bytes : List UInt8) : String := String.ofList (encodeChars bytes)

def value (c : Char) : Option Nat :=
  if c.isUpper then some (c.toNat - 'A'.toNat)
  else if c.isLower then some (c.toNat - 'a'.toNat + 26)
  else if c.isDigit then some (c.toNat - '0'.toNat + 52)
  else if c = '+' then some 62
  else if c = '/' then some 63
  else none

/-- Padding is required, and the bits it leaves over must be zero. -/
def decodeChars : List Char → Option (List UInt8)
  | [] => some []
  | [a, b, '=', '='] => do
      let (a, b) := (← value a, ← value b)
      if b % 16 = 0 then some [UInt8.ofNat (a * 4 + b / 16)] else none
  | [a, b, c, '='] => do
      let (a, b, c) := (← value a, ← value b, ← value c)
      if c % 4 = 0 then some [UInt8.ofNat (a * 4 + b / 16), UInt8.ofNat (b % 16 * 16 + c / 4)] else none
  | a :: b :: c :: d :: rest => do
      let (a, b, c, d) := (← value a, ← value b, ← value c, ← value d)
      let bytes ← decodeChars rest
      some (UInt8.ofNat (a * 4 + b / 16) :: UInt8.ofNat (b % 16 * 16 + c / 4) ::
        UInt8.ofNat (c % 4 * 64 + d) :: bytes)
  | _ => none

def decode (text : String) : Option (List UInt8) := decodeChars text.toList

example : decode (encode [1, 2, 3, 4]) = some [1, 2, 3, 4] := by decide +kernel

end Base64

end ProxyTunnels.Net
