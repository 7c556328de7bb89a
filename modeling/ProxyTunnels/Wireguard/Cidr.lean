import ProxyTunnels.Net.IpText
import ProxyTunnels.Wireguard.Spec

/-! Tunnel addresses as operators write them, `10.6.0.2/32`, and as they are printed. -/

set_option autoImplicit false

namespace ProxyTunnels.Wireguard
open Net

section Source

def IpCidr.host : IpAddr → IpCidr
  | .v4 octets => ⟨.v4 octets, 32⟩
  | .v6 octets => ⟨.v6 octets, 128⟩

def IpCidr.maxPrefixLen (cidr : IpCidr) : UInt8 := if cidr.isIpv4 then 32 else 128

/-- `fmt::Display`. -/
def IpCidr.display (cidr : IpCidr) : String := s!"{cidr.address.text}/{cidr.prefixLen}"

/-- The loop of `u8::from_str`, which checks every step for overflow. -/
def readU8 : Nat → List Char → Option Nat
  | result, [] => some result
  | result, c :: rest =>
      (digitOf 10 c).bind fun digit => if result * 10 + digit < 256 then readU8 (result * 10 + digit) rest else none

/-- `u8::from_str`: a plus sign is let through, but not alone. -/
def parseU8 (text : String) : Option UInt8 :=
  match text.toList with
  | [] => none
  | ['+'] => none
  | '+' :: digits => (readU8 0 digits).map UInt8.ofNat
  | digits => (readU8 0 digits).map UInt8.ofNat

/-- `map_err` to a configuration error. -/
def orConfiguration {α : Type} (result : Option α) (message : String) : Except TunnelError α :=
  match result with
  | some value => .ok value
  | none => .error (.configuration message)

def IpCidr.fromStr (text : String) : Except TunnelError IpCidr := do
  let text := trim text
  let (address, prefixText) :=
    match splitOnce '/' text with
    | some (address, prefixText) => (address, some prefixText)
    | none => (text, none)
  let address ← orConfiguration (parseIpAddr (trim address))
    s!"`{text}` is not a tunnel address; expected something like `10.6.0.2/32`"
  let cidr ←
    match prefixText with
    | none => pure (IpCidr.host address)
    | some prefixText => do
        let prefixLen ← orConfiguration (parseU8 (trim prefixText))
          s!"`{text}` has an unreadable prefix length; expected something like `10.6.0.2/32`"
        pure ⟨address, prefixLen⟩
  require (cidr.prefixLen ≤ cidr.maxPrefixLen) s!"`{text}` has a prefix length above /{cidr.maxPrefixLen}"
  pure cidr

end Source

section Accepted
variable {text : String} {cidr : IpCidr}

theorem orConfiguration_bind {α β : Type} {result : Option α} {message : String} {next : α → Except TunnelError β}
    {value : β} :
    (orConfiguration result message >>= next) = .ok value ↔ ∃ found, result = some found ∧ next found = .ok value := by
  cases result <;> simp [orConfiguration, bind_ok]

theorem host_fits (address : IpAddr) : (IpCidr.host address).prefixLen ≤ (IpCidr.host address).maxPrefixLen := by
  cases address with
  | v4 octets => exact UInt8.le_refl 32
  | v6 octets => exact UInt8.le_refl 128

theorem fromStr_plain (plain : splitOnce '/' (trim text) = none) :
    IpCidr.fromStr text = .ok cidr ↔
      ∃ address, parseIpAddr (trim text) = some address ∧ IpCidr.host address = cidr := by
  unfold IpCidr.fromStr
  simp only [plain, trim_trim, orConfiguration_bind, pure_bind, require_bind, decide_eq_true_eq]
  constructor
  · rintro ⟨address, read, -, same⟩
    exact ⟨address, read, Except.ok.inj same⟩
  · rintro ⟨address, read, rfl⟩
    exact ⟨address, read, host_fits address, rfl⟩

theorem fromStr_slash {address prefixText : String} (split : splitOnce '/' (trim text) = some (address, prefixText)) :
    IpCidr.fromStr text = .ok cidr ↔ parseIpAddr (trim address) = some cidr.address ∧
      parseU8 (trim prefixText) = some cidr.prefixLen ∧ cidr.prefixLen ≤ cidr.maxPrefixLen := by
  unfold IpCidr.fromStr
  simp only [split, orConfiguration_bind, pure_bind, require_bind, decide_eq_true_eq]
  constructor
  · rintro ⟨found, read, prefixLen, length, fits, same⟩
    cases same
    exact ⟨read, length, fits⟩
  · rintro ⟨read, length, fits⟩
    exact ⟨_, read, _, length, fits, rfl⟩

theorem fits_of_fromStr (accepted : IpCidr.fromStr text = .ok cidr) : cidr.prefixLen ≤ cidr.maxPrefixLen := by
  cases split : splitOnce '/' (trim text) with
  | none =>
    obtain ⟨address, -, rfl⟩ := (fromStr_plain split).mp accepted
    exact host_fits address
  | some parts => exact ((fromStr_slash split).mp accepted).2.2

end Accepted

section Printed

theorem ipv6Char_range {c : Char} (allowed : Ipv6Char c) : 46 ≤ c.toNat ∧ c.toNat ≤ 102 ∧ c.toNat ≠ 47 := by
  rcases allowed with digit | rfl | rfl
  · obtain ⟨digit, found⟩ := Option.isSome_iff_exists.mp digit
    obtain ⟨value, -⟩ := Option.filter_eq_some_iff.mp found
    unfold hexValue at value
    split at value
    · next decimal =>
      simp only [Char.isDigit, Bool.and_eq_true, decide_eq_true_eq] at decimal
      have low : 48 ≤ c.toNat := decimal.1
      have high : c.toNat ≤ 57 := decimal.2
      omega
    · split at value
      · next lower =>
        have low : 97 ≤ c.toNat := lower.1
        have high : c.toNat ≤ 102 := lower.2
        omega
      · split at value
        · next upper =>
          have low : 65 ≤ c.toNat := upper.1
          have high : c.toNat ≤ 70 := upper.2
          omega
        · cases value
  · decide
  · decide

theorem ipv6Char_solid {c : Char} (allowed : Ipv6Char c) : isWhitespace c = false := by
  obtain ⟨low, high, -⟩ := ipv6Char_range allowed
  have outside : ∀ number, 46 ≤ number → number ≤ 102 → ((9 ≤ number && number ≤ 13) ||
      (0x2000 ≤ number && number ≤ 0x200a) ||
      [0x20, 0x85, 0xa0, 0x1680, 0x2028, 0x2029, 0x202f, 0x205f, 0x3000].contains number) = false := by
    intro number low high
    have : number < 103 := by omega
    decide +revert
  exact outside c.toNat low high

theorem ipv6Char_ne_slash {c : Char} (allowed : Ipv6Char c) : c ≠ '/' := by
  rintro rfl
  exact (ipv6Char_range allowed).2.2 rfl

theorem address_chars (address : IpAddr) : ∀ c ∈ address.text.toList, Ipv6Char c := by
  have read := parseIpAddr_text address
  cases address with
  | v4 octets => exact fun c member => ipv6Char_of_ipv4Char (parseIpAddr_v4_chars read c member)
  | v6 octets => exact (parseIpAddr_v6_chars read).1

theorem address_solid (address : IpAddr) : Solid address.text.toList :=
  fun c member => ipv6Char_solid (address_chars address c member)

theorem address_text_ne_nil (address : IpAddr) : address.text.toList ≠ [] := by
  intro none
  have empty : address.text = "" := String.toList_eq_nil_iff.mp none
  have read := parseIpAddr_text address
  rw [empty] at read
  cases read

theorem prefixLen_toList (prefixLen : UInt8) : (toString prefixLen).toList = Nat.toDigits 10 prefixLen.toNat :=
  Nat.toList_repr

theorem prefixLen_chars (prefixLen : UInt8) : ∀ c ∈ (toString prefixLen).toList, Ipv6Char c := by
  intro c member
  rw [prefixLen_toList] at member
  exact ipv6Char_of_ipv4Char (.inl (Nat.isDigit_of_mem_toDigits (by decide) (by decide) member))

theorem prefixLen_solid (prefixLen : UInt8) : Solid (toString prefixLen).toList :=
  fun c member => ipv6Char_solid (prefixLen_chars prefixLen c member)

theorem prefixLen_ne_nil (prefixLen : UInt8) : (toString prefixLen).toList ≠ [] := by
  rw [prefixLen_toList]
  exact Nat.toDigits_ne_nil

theorem le_foldl_digits (digits : List Nat) (result : Nat) :
    result ≤ digits.foldl (fun result digit => result * 10 + digit) result := by
  induction digits generalizing result with
  | nil => exact Nat.le_refl result
  | cons digit digits ih =>
    have later := ih (result * 10 + digit)
    rw [List.foldl_cons]
    omega

theorem readU8_digits {digits : List Nat} (small : ∀ digit ∈ digits, digit < 10) (result : Nat)
    (fits : digits.foldl (fun result digit => result * 10 + digit) result < 256) :
    readU8 result (digits.map Nat.digitChar) =
      some (digits.foldl (fun result digit => result * 10 + digit) result) := by
  induction digits generalizing result with
  | nil => rfl
  | cons digit digits ih =>
    rw [List.foldl_cons] at fits ⊢
    have value := digitOf_digitChar (by decide) (small digit List.mem_cons_self)
    have bounded : result * 10 + digit < 256 := Nat.lt_of_le_of_lt (le_foldl_digits digits _) fits
    have later := ih (fun other member => small other (List.mem_cons_of_mem digit member)) _ fits
    rw [List.map_cons, readU8, value, Option.bind_some, if_pos bounded, later]

theorem parseU8_unsigned {text : String} (some : text.toList ≠ []) (unsigned : '+' ∉ text.toList) :
    parseU8 text = (readU8 0 text.toList).map UInt8.ofNat := by
  unfold parseU8
  split
  · next none => exact absurd none some
  · next plus => exact absurd (plus ▸ List.mem_cons_self) unsigned
  · next plus => exact absurd (plus ▸ List.mem_cons_self) unsigned
  · rfl

theorem parseU8_toString (prefixLen : UInt8) : parseU8 (toString prefixLen) = some prefixLen := by
  obtain ⟨digits, same, small, value⟩ := digits_of_toDigits 10 (by decide) prefixLen.toNat
  have unsigned : '+' ∉ (toString prefixLen).toList := by
    intro member
    exact absurd (ipv6Char_range (prefixLen_chars prefixLen _ member)).1 (by decide)
  have fits : prefixLen.toNat < 256 := prefixLen.toNat_lt
  rw [← value] at fits
  rw [parseU8_unsigned (prefixLen_ne_nil prefixLen) unsigned, prefixLen_toList, same, readU8_digits small 0 fits, value,
    Option.map_some, UInt8.ofNat_toNat]

variable {before left right after : String}

theorem splitOnce_slash {front : String} (outside : '/' ∉ front.toList) (back : String) :
    splitOnce '/' (front ++ "/" ++ back) = some (front, back) := by
  have parts := splitChars_append outside back.toList
  have text : (front ++ "/" ++ back).toList = front.toList ++ '/' :: back.toList := by simp
  rw [splitOnce, text, parts]
  simp

theorem trim_spaced (cidr : IpCidr) (blankBefore : Blank before.toList) (blankAfter : Blank after.toList) :
    trim (before ++ (cidr.address.text ++ left ++ "/" ++ (right ++ toString cidr.prefixLen)) ++ after) =
      cidr.address.text ++ left ++ "/" ++ (right ++ toString cidr.prefixLen) := by
  have ends := trimChars_between (left.toList ++ '/' :: right.toList) (address_solid cidr.address)
    (prefixLen_solid cidr.prefixLen) (address_text_ne_nil cidr.address) (prefixLen_ne_nil cidr.prefixLen)
  rw [trim_padded blankBefore blankAfter, trim, ← String.toList_inj, String.toList_ofList]
  simpa using ends

theorem slash_outside (address : IpAddr) (blankLeft : Blank left.toList) : '/' ∉ (address.text ++ left).toList := by
  rw [String.toList_append]
  intro member
  rcases List.mem_append.mp member with member | member
  · exact ipv6Char_ne_slash (address_chars address _ member) rfl
  · exact absurd (blankLeft _ member) (by decide)

theorem fromStr_spaced {cidr : IpCidr} (fits : cidr.prefixLen ≤ cidr.maxPrefixLen) (blankBefore : Blank before.toList)
    (blankLeft : Blank left.toList) (blankRight : Blank right.toList) (blankAfter : Blank after.toList) :
    IpCidr.fromStr (before ++ (cidr.address.text ++ left ++ "/" ++ (right ++ toString cidr.prefixLen)) ++ after) =
      .ok cidr := by
  have split := splitOnce_slash (slash_outside cidr.address blankLeft) (right ++ toString cidr.prefixLen)
  rw [← trim_spaced cidr blankBefore blankAfter] at split
  -- The two parts are trimmed again, each on the side of the slash.
  have address : trim (cidr.address.text ++ left) = cidr.address.text := by
    have padded := trim_padded blank_empty blankLeft cidr.address.text
    rwa [String.empty_append, trim_solid (address_solid cidr.address)] at padded
  have length : trim (right ++ toString cidr.prefixLen) = toString cidr.prefixLen := by
    have padded := trim_padded blankRight blank_empty (toString cidr.prefixLen)
    rwa [String.append_empty, trim_solid (prefixLen_solid cidr.prefixLen)] at padded
  refine (fromStr_slash split).mpr ⟨?_, ?_, fits⟩
  · rw [address, parseIpAddr_text]
  · rw [length, parseU8_toString]

theorem fromStr_display {cidr : IpCidr} (fits : cidr.prefixLen ≤ cidr.maxPrefixLen) :
    IpCidr.fromStr cidr.display = .ok cidr := by
  have spaced := fromStr_spaced fits blank_empty blank_empty blank_empty blank_empty
  rwa [String.append_empty, String.append_empty, String.empty_append, String.empty_append] at spaced

/-- A tunnel address reads back from its text, spaced in any way; what is accepted has a length of its
family, and prints as a text that is accepted as the same. -/
theorem ipCidr_text_reads_back :
    (∀ cidr : IpCidr, cidr.prefixLen ≤ cidr.maxPrefixLen →
      IpCidr.fromStr cidr.display = .ok cidr ∧
      ∀ before left right after : String, Blank before.toList → Blank left.toList → Blank right.toList →
        Blank after.toList →
        IpCidr.fromStr (before ++ (cidr.address.text ++ left ++ "/" ++ (right ++ toString cidr.prefixLen)) ++ after) =
          .ok cidr) ∧
    (∀ text cidr, IpCidr.fromStr text = .ok cidr →
      (cidr.isIpv4 = true → cidr.prefixLen ≤ 32) ∧ (cidr.isIpv6 = true → cidr.prefixLen ≤ 128) ∧
      IpCidr.fromStr cidr.display = .ok cidr) ∧
    ∀ text : String, '/' ∉ text.toList → ∀ cidr, IpCidr.fromStr text = .ok cidr ↔
      ∃ address, parseIpAddr (trim text) = some address ∧ IpCidr.host address = cidr := by
  refine ⟨fun cidr fits => ⟨fromStr_display fits, ?_⟩, fun text cidr accepted => ?_, fun text plain cidr => ?_⟩
  · intro before left right after blankBefore blankLeft blankRight blankAfter
    exact fromStr_spaced fits blankBefore blankLeft blankRight blankAfter
  · have fits := fits_of_fromStr accepted
    refine ⟨fun ipv4 => ?_, fun ipv6 => ?_, fromStr_display fits⟩
    · rwa [IpCidr.maxPrefixLen, if_pos ipv4] at fits
    · have other : ¬ cidr.isIpv4 = true := by simpa [IpCidr.isIpv6, IpCidr.isIpv4] using ipv6
      rwa [IpCidr.maxPrefixLen, if_neg other] at fits
  · have outside : '/' ∉ (trim text).toList := fun member => plain (mem_of_mem_trim member)
    refine fromStr_plain ?_
    rw [splitOnce, splitChars_none outside]
    rfl

theorem ipCidr_text_reads_back_example :
    IpCidr.fromStr " 10.6.0.2 /\t24\n" = .ok ⟨ipv4OfOctets [10, 6, 0, 2], 24⟩ ∧
      IpCidr.fromStr "::1 " = .ok ⟨ipv6OfGroups [0, 0, 0, 0, 0, 0, 0, 1], 128⟩ := by
  constructor
  · have text : " 10.6.0.2 /\t24\n" =
        " " ++ ((ipv4OfOctets [10, 6, 0, 2]).text ++ " " ++ "/" ++ ("\t" ++ toString (24 : UInt8))) ++ "\n" := by
      decide +kernel
    rw [text]
    exact (ipCidr_text_reads_back.1 ⟨ipv4OfOctets [10, 6, 0, 2], 24⟩ (by decide)).2 " " " " "\t" "\n"
      (by decide) (by decide) (by decide) (by decide)
  · have literal : parseIpAddr (trim "::1 ") = some (ipv6OfGroups [0, 0, 0, 0, 0, 0, 0, 1]) := by decide +kernel
    exact (ipCidr_text_reads_back.2.2 "::1 " (by decide) _).mpr ⟨_, literal, rfl⟩

end Printed

end ProxyTunnels.Wireguard
