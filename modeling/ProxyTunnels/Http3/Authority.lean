import ProxyTunnels.Error
import ProxyTunnels.Net.Authority
import ProxyTunnels.Net.IpLiteral

/-! The authority an HTTP/3 tunnel puts into its CONNECT requests.

`authority` takes a host with or without brackets, admits IP literals and names of a few
safe characters, and brackets exactly the IPv6 literals. A host comes from whoever dials,
so what it admits must not be readable as anything but that host and port.
-/

set_option autoImplicit false

namespace ProxyTunnels.Http3.Spec
open Net

section Source

def unbracketed (host : String) : String :=
  match host.toList with
  | '[' :: rest => if rest.getLast? = some ']' then String.ofList rest.dropLast else host
  | _ => host

/-- `str::bytes`. -/
def bytes (text : String) : List UInt8 := text.toList.flatMap String.utf8EncodeChar

/-- ASCII letters and digits, and the bytes of `b"._-"`. -/
def hostByte (byte : UInt8) : Bool :=
  (48 ≤ byte && byte ≤ 57) || (65 ≤ byte && byte ≤ 90) || (97 ≤ byte && byte ≤ 122) ||
    [0x2e, 0x5f, 0x2d].contains byte

def isIpv6 (host : String) : Bool :=
  match parseIpAddr host with
  | some (.v6 _) => true
  | _ => false

def authorityText (host : String) (port : UInt16) : String :=
  if isIpv6 host then s!"[{host}]:{port}" else s!"{host}:{port}"

def validHost (host : String) (port : UInt16) : Bool :=
  host != "" && (bytes host).length ≤ 253 && port != 0 &&
    ((parseIpAddr host).isSome || (bytes host).all hostByte)

/-- `authority`; `parse` is the parser of the http crate. -/
def authority (parse : String → Option String) (host : String) (port : UInt16) : Except TunnelError String :=
  let host := unbracketed host
  if validHost host port then
    match parse (authorityText host port) with
    | some value => .ok value
    | none => .error (.configuration "invalid CONNECT authority")
  else .error (.configuration "invalid HTTP/3 tunnel host or port")

/-- What `Http3TunnelSpec::validate` reads; the timeout in nanoseconds. -/
structure Http3TunnelSpec where
  host : String
  port : UInt16
  requestTimeout : Nat

def Http3TunnelSpec.validate (parse : String → Option String) (spec : Http3TunnelSpec) : Except TunnelError Unit :=
  match authority parse spec.host spec.port with
  | .error error => .error error
  | .ok _ =>
      if spec.requestTimeout = 0 ∨ 300 * 1000 * 1000 * 1000 < spec.requestTimeout then
        .error (.configuration "HTTP/3 request timeout must be within (0, 300] seconds")
      else .ok ()

end Source

section Characters

def HostChar (c : Char) : Prop := c.isAlphanum = true ∨ c = '.' ∨ c = '_' ∨ c = '-'

instance (c : Char) : Decidable (HostChar c) := inferInstanceAs (Decidable (_ ∨ _))

instance (c : Char) : Decidable (Ipv6Char c) := inferInstanceAs (Decidable (_ ∨ _))

instance (c : Char) : Decidable (Inside c) := inferInstanceAs (Decidable (_ ∧ _))

def Printable (c : Char) : Prop := 0x20 < c.toNat ∧ c.toNat < 0x7f

instance (c : Char) : Decidable (Printable c) := inferInstanceAs (Decidable (_ ∧ _))

theorem forall_ascii {P : Char → Prop} (each : ∀ value < 128, P (Char.ofNat value)) {c : Char}
    (ascii : c.toNat < 128) : P c := by
  have here := each c.toNat ascii
  rwa [Char.ofNat_toNat] at here

theorem HostChar.ascii {c : Char} (fine : HostChar c) : c.toNat < 128 := by
  rcases fine with letter | rfl | rfl | rfl
  · change ((decide ('A'.val ≤ c.val ∧ c.val ≤ 'Z'.val) || ('a'.val ≤ c.val && c.val ≤ 'z'.val)) ||
      ('0'.val ≤ c.val && c.val ≤ '9'.val)) = true at letter
    simp only [Bool.or_eq_true, Bool.and_eq_true, decide_eq_true_eq, UInt32.le_iff_toNat_le] at letter
    have value : c.toNat = c.val.toNat := rfl
    have bounds : 'Z'.val.toNat = 90 ∧ 'z'.val.toNat = 122 ∧ '9'.val.toNat = 57 := ⟨rfl, rfl, rfl⟩
    omega
  all_goals decide

theorem ipv6Char_ascii {c : Char} (fine : Ipv6Char c) : c.toNat < 128 := by
  rcases fine with digit | rfl | rfl
  · obtain ⟨value, found⟩ := Option.isSome_iff_exists.mp digit
    have hex := (Option.filter_eq_some_iff.mp found).1
    unfold hexValue at hex
    split at hex
    · next decimal => exact HostChar.ascii (.inl (by simp [Char.isAlphanum, decimal]))
    · split at hex
      · next lower => exact Nat.lt_of_le_of_lt (show c.toNat ≤ 102 from lower.2) (by decide)
      · split at hex
        · next upper => exact Nat.lt_of_le_of_lt (show c.toNat ≤ 70 from upper.2) (by decide)
        · cases hex
  all_goals decide

theorem HostChar.inside {c : Char} (fine : HostChar c) :
    Inside c ∧ Printable c ∧ c ≠ ':' ∧ c ≠ '[' := by
  have each : ∀ value < 128, HostChar (Char.ofNat value) → Inside (Char.ofNat value) ∧
      Printable (Char.ofNat value) ∧ Char.ofNat value ≠ ':' ∧ Char.ofNat value ≠ '[' := by decide +kernel
  exact forall_ascii (P := fun c => HostChar c → Inside c ∧ Printable c ∧ c ≠ ':' ∧ c ≠ '[') each fine.ascii fine

theorem HostChar.plain {c : Char} (fine : HostChar c) : Inside c ∧ Printable c :=
  ⟨fine.inside.1, fine.inside.2.1⟩

theorem ipv6Char_inside {c : Char} (fine : Ipv6Char c) : Inside c ∧ Printable c ∧ c ≠ ']' := by
  have each : ∀ value < 128, Ipv6Char (Char.ofNat value) → Inside (Char.ofNat value) ∧
      Printable (Char.ofNat value) ∧ Char.ofNat value ≠ ']' := by decide +kernel
  exact forall_ascii (P := fun c => Ipv6Char c → Inside c ∧ Printable c ∧ c ≠ ']') each (ipv6Char_ascii fine) fine

theorem hostChar_of_ipv4Char {c : Char} (fine : Ipv4Char c) : HostChar c := by
  rcases fine with digit | rfl
  · exact .inl (by simp [Char.isAlphanum, digit])
  · exact .inr (.inl rfl)

theorem hostChar_repr (port : Nat) : ∀ c ∈ port.repr.toList, HostChar c := by
  intro c member
  rw [Nat.toList_repr] at member
  exact hostChar_of_ipv4Char (.inl (Nat.isDigit_of_mem_toDigits (by decide) (by decide) member))

end Characters

section Bytes

theorem utf8EncodeChar_ascii {c : Char} (ascii : c.toNat < 128) :
    String.utf8EncodeChar c = [UInt8.ofNat c.toNat] := by
  have small : c.val.toNat ≤ 0x7f := Nat.le_of_lt_succ ascii
  unfold String.utf8EncodeChar
  rw [if_pos small]
  rfl

theorem hostByte_high {value : Nat} (high : 128 ≤ value) (byte : value < 256) :
    hostByte (UInt8.ofNat value) = false := by
  have each : ∀ value < 256, 128 ≤ value → hostByte (UInt8.ofNat value) = false := by decide +kernel
  exact each value byte high

theorem utf8EncodeChar_high {c : Char} (high : 128 ≤ c.toNat) :
    ∃ byte ∈ String.utf8EncodeChar c, hostByte byte = false := by
  have large : ¬ c.val.toNat ≤ 0x7f := Nat.not_le_of_lt high
  unfold String.utf8EncodeChar
  rw [if_neg large]
  split
  · exact ⟨_, List.mem_cons_self, hostByte_high (by omega) (by omega)⟩
  · split
    · exact ⟨_, List.mem_cons_self, hostByte_high (by omega) (by omega)⟩
    · exact ⟨_, List.mem_cons_self, hostByte_high (by omega) (by omega)⟩

theorem utf8EncodeChar_hostByte (c : Char) :
    (∀ byte ∈ String.utf8EncodeChar c, hostByte byte = true) ↔ HostChar c := by
  by_cases ascii : c.toNat < 128
  · have each : ∀ value < 128, hostByte (UInt8.ofNat value) = decide (HostChar (Char.ofNat value)) := by
      decide +kernel
    rw [utf8EncodeChar_ascii ascii]
    simp [each c.toNat ascii]
  · obtain ⟨byte, member, bad⟩ := utf8EncodeChar_high (Nat.le_of_not_lt ascii)
    constructor
    · intro all
      exact absurd ((all byte member).symm.trans bad) Bool.noConfusion
    · intro fine
      exact absurd fine.ascii ascii

theorem bytes_all_hostByte (text : String) :
    (bytes text).all hostByte = true ↔ ∀ c ∈ text.toList, HostChar c := by
  simp only [bytes, List.all_eq_true, List.mem_flatMap, forall_exists_index, and_imp]
  constructor
  · intro all c member
    exact (utf8EncodeChar_hostByte c).mp fun byte inside => all byte c member inside
  · intro all byte c member inside
    exact (utf8EncodeChar_hostByte c).mpr (all c member) byte inside

theorem bytes_length_pos (text : String) : 1 ≤ (bytes text).length ↔ text ≠ "" := by
  rw [Nat.one_le_iff_ne_zero, ne_eq, ne_eq, List.length_eq_zero_iff, bytes, List.flatMap_eq_nil_iff, not_iff_not]
  constructor
  · intro none
    refine String.toList_eq_nil_iff.mp (List.eq_nil_iff_forall_not_mem.mpr fun c member => ?_)
    exact String.utf8EncodeChar_ne_nil (none c member)
  · rintro rfl c member
    simp at member

end Bytes

section Unambiguous

/-- What a host and port must be to be admitted; brackets are removed already. -/
structure Admissible (host : String) (port : UInt16) : Prop where
  port : port ≠ 0
  length : 1 ≤ (bytes host).length ∧ (bytes host).length ≤ 253
  chars : (parseIpAddr host).isSome = true ∨ ∀ c ∈ host.toList, HostChar c

theorem validHost_iff (host : String) (port : UInt16) : validHost host port = true ↔ Admissible host port := by
  unfold validHost
  simp only [Bool.and_eq_true, Bool.or_eq_true, bne_iff_ne, decide_eq_true_eq, bytes_all_hostByte]
  constructor
  · rintro ⟨⟨⟨some, short⟩, port⟩, chars⟩
    exact ⟨port, ⟨(bytes_length_pos host).mpr some, short⟩, chars⟩
  · rintro ⟨port, ⟨some, short⟩, chars⟩
    exact ⟨⟨⟨(bytes_length_pos host).mp some, short⟩, port⟩, chars⟩

theorem isIpv6_iff {host : String} : isIpv6 host = true ↔ ∃ octets, parseIpAddr host = some (.v6 octets) := by
  unfold isIpv6
  split
  · next octets parsed => exact ⟨fun _ => ⟨octets, parsed⟩, fun _ => rfl⟩
  · next other =>
    constructor
    · intro h
      cases h
    · rintro ⟨octets, parsed⟩
      exact absurd parsed (other octets)

theorem authorityText_ipv6 {host : String} (ipv6 : isIpv6 host = true) (port : UInt16) :
    (authorityText host port).toList = '[' :: (host.toList ++ ']' :: ':' :: port.toNat.repr.toList) := by
  unfold authorityText
  rw [if_pos ipv6]
  simp [toString]

theorem authorityText_name {host : String} (other : isIpv6 host = false) (port : UInt16) :
    (authorityText host port).toList = host.toList ++ ':' :: port.toNat.repr.toList := by
  unfold authorityText
  rw [if_neg (by simp [other])]
  simp [toString]

theorem Admissible.name {host : String} {port : UInt16} (admissible : Admissible host port)
    (other : isIpv6 host = false) : ∀ c ∈ host.toList, HostChar c := by
  rcases admissible.chars with literal | chars
  · obtain ⟨address, parsed⟩ := Option.isSome_iff_exists.mp literal
    cases address with
    | v4 octets => exact fun c member => hostChar_of_ipv4Char (parseIpAddr_v4_chars parsed c member)
    | v6 octets => exact absurd (isIpv6_iff.mpr ⟨octets, parsed⟩) (by simp [other])
  · exact chars

theorem Admissible.reads {host : String} {port : UInt16} (admissible : Admissible host port) :
    readAuthority (authorityText host port).toList =
        some ⟨none, isIpv6 host, host.toList, port.toNat, []⟩ ∧
      ∀ c ∈ (authorityText host port).toList, Printable c := by
  cases ipv6 : isIpv6 host with
  | true =>
    obtain ⟨octets, parsed⟩ := isIpv6_iff.mp ipv6
    have chars := (parseIpAddr_v6_chars parsed).1
    rw [authorityText_ipv6 ipv6]
    have inside : ∀ c ∈ '[' :: (host.toList ++ ']' :: ':' :: port.toNat.repr.toList), Inside c ∧ Printable c := by
      intro c member
      simp only [List.mem_cons, List.mem_append] at member
      rcases member with rfl | member | rfl | rfl | member
      · decide
      · exact ⟨(ipv6Char_inside (chars c member)).1, (ipv6Char_inside (chars c member)).2.1⟩
      · decide
      · decide
      · exact (hostChar_repr _ c member).plain
    refine ⟨?_, fun c member => (inside c member).2⟩
    rw [readAuthority_inside fun c member => (inside c member).1,
      readHostPort_literal fun c member => (ipv6Char_inside (chars c member)).2.2]
    rfl
  | false =>
    have chars := admissible.name ipv6
    rw [authorityText_name ipv6]
    have inside : ∀ c ∈ host.toList ++ ':' :: port.toNat.repr.toList, Inside c ∧ Printable c := by
      intro c member
      simp only [List.mem_cons, List.mem_append] at member
      rcases member with member | rfl | member
      · exact (chars c member).plain
      · decide
      · exact (hostChar_repr _ c member).plain
    refine ⟨?_, fun c member => (inside c member).2⟩
    rw [readAuthority_inside fun c member => (inside c member).1,
      readHostPort_name fun c member => (chars c member).inside.2.2]
    rfl

/-- What the parser of the http crate is trusted with. -/
def Preserves (parse : String → Option String) : Prop :=
  ∀ host port, Admissible host port → parse (authorityText host port) = some (authorityText host port)

variable {parse : String → Option String}

theorem authority_ok (preserves : Preserves parse) {host text : String} {port : UInt16} :
    authority parse host port = .ok text ↔
      Admissible (unbracketed host) port ∧ text = authorityText (unbracketed host) port := by
  unfold authority
  dsimp only
  split
  · next valid =>
    have admissible := (validHost_iff _ _).mp valid
    rw [preserves _ _ admissible]
    constructor
    · intro made
      exact ⟨admissible, (Except.ok.inj made).symm⟩
    · rintro ⟨-, rfl⟩
      rfl
  · next invalid =>
    constructor
    · intro failed
      cases failed
    · rintro ⟨admissible, -⟩
      exact absurd ((validHost_iff _ _).mpr admissible) invalid

/-- `authority` admits exactly the hosts and ports it documents, and what it produces has one
reading: that host, that port, and nothing else. -/
theorem authority_unambiguous (parse : String → Option String) (preserves : Preserves parse) :
    (∀ host port, (∃ text, authority parse host port = .ok text) ↔
      port ≠ 0 ∧ (1 ≤ (bytes (unbracketed host)).length ∧ (bytes (unbracketed host)).length ≤ 253) ∧
        ((parseIpAddr (unbracketed host)).isSome = true ∨ ∀ c ∈ (unbracketed host).toList, HostChar c)) ∧
    (∀ host port text, authority parse host port = .ok text →
      readAuthority text.toList =
        some ⟨none, isIpv6 (unbracketed host), (unbracketed host).toList, port.toNat, []⟩ ∧
      ∀ c ∈ text.toList, Printable c) ∧
    ∀ first second firstPort secondPort text, authority parse first firstPort = .ok text →
      authority parse second secondPort = .ok text →
      unbracketed first = unbracketed second ∧ firstPort = secondPort := by
  refine ⟨?_, ?_, ?_⟩
  · intro host port
    constructor
    · rintro ⟨text, made⟩
      obtain ⟨admissible, -⟩ := (authority_ok preserves).mp made
      exact ⟨admissible.port, admissible.length, admissible.chars⟩
    · rintro ⟨port, length, chars⟩
      exact ⟨_, (authority_ok preserves).mpr ⟨⟨port, length, chars⟩, rfl⟩⟩
  · intro host port text made
    obtain ⟨admissible, rfl⟩ := (authority_ok preserves).mp made
    exact admissible.reads
  · intro first second firstPort secondPort text madeFirst madeSecond
    obtain ⟨admissibleFirst, rfl⟩ := (authority_ok preserves).mp madeFirst
    obtain ⟨admissibleSecond, same⟩ := (authority_ok preserves).mp madeSecond
    have read := admissibleFirst.reads.1
    rw [same, admissibleSecond.reads.1] at read
    simp only [Option.some.injEq, Net.Authority.mk.injEq, true_and, and_true] at read
    exact ⟨(String.toList_injective read.2.1).symm, (UInt16.toNat_inj.mp read.2.2).symm⟩

theorem authority_unambiguous_loopback :
    authority some "[::1]" 443 = .ok "[::1]:443" ∧
      readAuthority "[::1]:443".toList = some ⟨none, isIpv6 "::1", "::1".toList, 443, []⟩ := by
  have made : authority some "[::1]" 443 = .ok "[::1]:443" := by decide +kernel
  have inner : unbracketed "[::1]" = "::1" := by decide +kernel
  have read := ((authority_unambiguous some fun _ _ _ => rfl).2.1 _ _ _ made).1
  rw [inner] at read
  exact ⟨made, read⟩

end Unambiguous

end ProxyTunnels.Http3.Spec
