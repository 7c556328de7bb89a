import ProxyTunnels.Net.Address

/-! The address literals `IpAddr::from_str` reads.

The standard library's parser works on bytes and takes only ASCII, so characters serve as
well. Each reader returns what it read and what is left; a reader that fails leaves its
input to the next one.
-/

set_option autoImplicit false

namespace ProxyTunnels.Net

section Readers

def hexValue (c : Char) : Option Nat :=
  if c.isDigit then some (c.toNat - '0'.toNat)
  else if 'a' ≤ c ∧ c ≤ 'f' then some (c.toNat - 'a'.toNat + 10)
  else if 'A' ≤ c ∧ c ≤ 'F' then some (c.toNat - 'A'.toNat + 10)
  else none

/-- `char::to_digit`, for a radix up to 16. -/
def digitOf (radix : Nat) (c : Char) : Option Nat := (hexValue c).filter (· < radix)

def readGivenChar (target : Char) : List Char → Option (List Char)
  | [] => none
  | c :: rest => if c = target then some rest else none

def takeDigits (radix : Nat) : List Char → List Nat × List Char
  | [] => ([], [])
  | c :: rest =>
      match digitOf radix c with
      | none => ([], c :: rest)
      | some digit => (digit :: (takeDigits radix rest).1, (takeDigits radix rest).2)

/-- `read_number` into a type of `bound` values. -/
def readNumber (radix maxDigits : Nat) (allowZeroPrefix : Bool) (bound : Nat) (input : List Char) :
    Option (Nat × List Char) :=
  let digits := (takeDigits radix input).1
  let value := digits.foldl (fun result digit => result * radix + digit) 0
  if maxDigits < digits.length then none
  else if digits.length = 0 then none
  else if !allowZeroPrefix && input.head? == some '0' && 1 < digits.length then none
  else if value < bound then some (value, (takeDigits radix input).2)
  else none

/-- `read_separator`: every group but the first comes after one. -/
def readSeparator {α : Type} (separator : Char) (index : Nat) (inner : List Char → Option (α × List Char))
    (input : List Char) : Option (α × List Char) :=
  if 0 < index then (readGivenChar separator input).bind inner else inner input

/-- The loop of `read_ipv4_addr`, with `left` groups to go. -/
def readOctets : Nat → Nat → List Char → Option (List Nat × List Char)
  | 0, _, input => some ([], input)
  | left + 1, index, input =>
      (readSeparator '.' index (readNumber 10 3 false 256) input).bind fun (octet, rest) =>
        (readOctets left (index + 1) rest).map fun (octets, rest) => (octet :: octets, rest)

def readIpv4Addr (input : List Char) : Option (List Nat × List Char) := readOctets 4 0 input

def groupsOf : List Nat → List Nat
  | high :: low :: rest => (high * 256 + low) :: groupsOf rest
  | _ => []

/-- `read_groups`, with `left` groups to go: the groups, and whether they end in an embedded
IPv4 address, for which two must be left. -/
def readGroups : Nat → Nat → List Char → List Nat × Bool × List Char
  | 0, _, input => ([], false, input)
  | left + 1, index, input =>
      match if 0 < left then readSeparator ':' index readIpv4Addr input else none with
      | some (octets, rest) => (groupsOf octets, true, rest)
      | none =>
          match readSeparator ':' index (readNumber 16 4 true 65536) input with
          | none => ([], false, input)
          | some (group, rest) =>
              let (groups, embedded, rest) := readGroups left (index + 1) rest
              (group :: groups, embedded, rest)

/-- `read_ipv6_addr`: eight groups, or fewer around one `::`. -/
def readIpv6Addr (input : List Char) : Option (List Nat × List Char) :=
  let (head, embedded, rest) := readGroups 8 0 input
  if head.length = 8 then some (head, rest)
  else if embedded then none
  else
    (readGivenChar ':' rest).bind fun rest =>
      (readGivenChar ':' rest).map fun rest =>
        let (tail, _, rest) := readGroups (8 - (head.length + 1)) 0 rest
        (head ++ List.replicate (8 - head.length - tail.length) 0 ++ tail, rest)

def ipv4OfOctets (octets : List Nat) : IpAddr :=
  .v4 (Vector.ofFn fun index => UInt8.ofNat (octets.getD index 0))

def ipv6OfGroups (groups : List Nat) : IpAddr :=
  .v6 (Vector.ofFn fun index =>
    let group := groups.getD (index / 2) 0
    UInt8.ofNat (if index % 2 = 0 then group / 256 else group % 256))

/-- `IpAddr::from_str`: the whole text must be read. -/
def parseIpAddr (text : String) : Option IpAddr :=
  match readIpv4Addr text.toList with
  | some (octets, rest) => if rest = [] then some (ipv4OfOctets octets) else none
  | none =>
      match readIpv6Addr text.toList with
      | some (groups, rest) => if rest = [] then some (ipv6OfGroups groups) else none
      | none => none

end Readers

section Characters

/-- What a reader took from the front of its input, all of it `allowed`. -/
def Took (allowed : Char → Prop) (input used rest : List Char) : Prop :=
  input = used ++ rest ∧ ∀ c ∈ used, allowed c

variable {allowed weaker : Char → Prop} {input middle rest used more : List Char}

theorem Took.append (first : Took allowed input used middle) (second : Took allowed middle more rest) :
    Took allowed input (used ++ more) rest := by
  obtain ⟨rfl, start⟩ := first
  obtain ⟨rfl, next⟩ := second
  refine ⟨(List.append_assoc _ _ _).symm, ?_⟩
  intro c member
  rcases List.mem_append.mp member with member | member
  · exact start c member
  · exact next c member

theorem Took.mono (took : Took allowed input used rest) (sub : ∀ c, allowed c → weaker c) :
    Took weaker input used rest :=
  ⟨took.1, fun c member => sub c (took.2 c member)⟩

theorem took_nil : Took allowed input [] input := ⟨rfl, nofun⟩

def Ipv4Char (c : Char) : Prop := c.isDigit = true ∨ c = '.'

def Ipv6Char (c : Char) : Prop := (digitOf 16 c).isSome = true ∨ c = ':' ∨ c = '.'

theorem isDigit_of_digitOf_ten {c : Char} {digit : Nat} (found : digitOf 10 c = some digit) :
    c.isDigit = true := by
  obtain ⟨value, small⟩ := Option.filter_eq_some_iff.mp found
  have small : digit < 10 := of_decide_eq_true small
  by_contra other
  simp only [hexValue, other, if_false] at value
  split at value
  · cases value
    omega
  · split at value
    · cases value
      omega
    · cases value

theorem ipv6Char_of_ipv4Char {c : Char} (ipv4 : Ipv4Char c) : Ipv6Char c := by
  rcases ipv4 with digit | rfl
  · left
    have last : c.val ≤ '9'.val := by
      simp only [Char.isDigit, Bool.and_eq_true, decide_eq_true_eq] at digit
      exact digit.2
    have bound : c.toNat - '0'.toNat < 16 := by
      have : c.toNat ≤ 57 := last
      show c.toNat - 48 < 16
      omega
    rw [digitOf, hexValue, if_pos digit, Option.filter_some, if_pos (decide_eq_true bound)]
    rfl
  · exact .inr (.inr rfl)

theorem readGivenChar_took {target : Char} (accepted : allowed target)
    (read : readGivenChar target input = some rest) : Took allowed input [target] rest := by
  cases input with
  | nil => cases read
  | cons c tail =>
    simp only [readGivenChar] at read
    split at read
    · next same =>
      cases read
      subst same
      exact ⟨rfl, by simpa using accepted⟩
    · cases read

theorem takeDigits_took {radix : Nat} (accepted : ∀ c digit, digitOf radix c = some digit → allowed c)
    (input : List Char) : ∃ used, Took allowed input used (takeDigits radix input).2 := by
  induction input with
  | nil => exact ⟨[], took_nil⟩
  | cons c tail ih =>
    unfold takeDigits
    split
    · exact ⟨[], took_nil⟩
    · next digit found =>
      obtain ⟨used, taken, fine⟩ := ih
      refine ⟨c :: used, ?_, ?_⟩
      · exact congrArg (c :: ·) taken
      · intro d member
        rcases List.mem_cons.mp member with rfl | member
        · exact accepted _ digit found
        · exact fine d member

theorem readNumber_took {radix maxDigits bound value : Nat} {allowZeroPrefix : Bool}
    (accepted : ∀ c digit, digitOf radix c = some digit → allowed c)
    (read : readNumber radix maxDigits allowZeroPrefix bound input = some (value, rest)) :
    ∃ used, Took allowed input used rest := by
  unfold readNumber at read
  dsimp only at read
  repeat' split at read
  all_goals cases read
  exact takeDigits_took accepted input

theorem readSeparator_took {α : Type} {separator : Char} {index : Nat}
    {inner : List Char → Option (α × List Char)} {value : α} (accepted : allowed separator)
    (reads : ∀ input value rest, inner input = some (value, rest) → ∃ used, Took allowed input used rest)
    (read : readSeparator separator index inner input = some (value, rest)) :
    ∃ used, Took allowed input used rest ∧ (0 < index → separator ∈ used) := by
  unfold readSeparator at read
  split at read
  · obtain ⟨middle, given, read⟩ := Option.bind_eq_some_iff.mp read
    obtain ⟨used, took⟩ := reads middle value rest read
    exact ⟨_, (readGivenChar_took accepted given).append took, fun _ => List.mem_cons_self⟩
  · next first =>
    obtain ⟨used, took⟩ := reads input value rest read
    exact ⟨used, took, fun later => absurd later first⟩

theorem readOctets_took {octets : List Nat} (left index : Nat)
    (read : readOctets left index input = some (octets, rest)) : ∃ used, Took Ipv4Char input used rest := by
  induction left generalizing index input octets with
  | zero =>
    cases read
    exact ⟨[], took_nil⟩
  | succ left ih =>
    obtain ⟨⟨octet, middle⟩, first, remaining⟩ := Option.bind_eq_some_iff.mp read
    obtain ⟨⟨others, after⟩, read, same⟩ := Option.map_eq_some_iff.mp remaining
    cases same
    have digits : ∀ input value rest, readNumber 10 3 false 256 input = some (value, rest) →
        ∃ used, Took Ipv4Char input used rest := by
      intro input value rest read
      exact readNumber_took (fun c digit found => .inl (isDigit_of_digitOf_ten found)) read
    obtain ⟨used, took, -⟩ := readSeparator_took (.inr rfl) digits first
    obtain ⟨more, later⟩ := ih (index + 1) read
    exact ⟨_, took.append later⟩

theorem readOctets_length {octets : List Nat} (left index : Nat)
    (read : readOctets left index input = some (octets, rest)) : octets.length = left := by
  induction left generalizing index input octets with
  | zero =>
    cases read
    rfl
  | succ left ih =>
    obtain ⟨⟨octet, middle⟩, -, remaining⟩ := Option.bind_eq_some_iff.mp read
    obtain ⟨⟨others, after⟩, read, same⟩ := Option.map_eq_some_iff.mp remaining
    cases same
    exact congrArg (· + 1) (ih (index + 1) read)

theorem readIpv4Addr_took {octets : List Nat} (read : readIpv4Addr input = some (octets, rest)) :
    ∃ used, Took Ipv6Char input used rest := by
  obtain ⟨used, took⟩ := readOctets_took 4 0 read
  exact ⟨used, took.mono fun _ => ipv6Char_of_ipv4Char⟩

theorem readGroup_took {group : Nat} (read : readNumber 16 4 true 65536 input = some (group, rest)) :
    ∃ used, Took Ipv6Char input used rest :=
  readNumber_took (fun c digit found => .inl (by rw [found]; rfl)) read

theorem groupsOf_length : ∀ octets : List Nat, (groupsOf octets).length * 2 ≤ octets.length
  | [] => Nat.le_refl 0
  | [_] => Nat.zero_le 1
  | _ :: _ :: rest => by
    have shorter := groupsOf_length rest
    simp only [groupsOf, List.length_cons]
    omega

theorem embedded_length {left index : Nat} {octets : List Nat}
    (read : (if 0 < left then readSeparator ':' index readIpv4Addr input else none) = some (octets, rest)) :
    (groupsOf octets).length ≤ 2 := by
  have four : octets.length = 4 := by
    split at read
    · unfold readSeparator at read
      split at read
      · obtain ⟨middle, -, read⟩ := Option.bind_eq_some_iff.mp read
        exact readOctets_length 4 0 read
      · exact readOctets_length 4 0 read
    · cases read
  have half := groupsOf_length octets
  omega

theorem readGroups_took (left index : Nat) (input : List Char) :
    ∃ used, Took Ipv6Char input used (readGroups left index input).2.2 ∧
      (0 < index → (readGroups left index input).1 ≠ [] → ':' ∈ used) ∧
      (2 < (readGroups left index input).1.length → ':' ∈ used) := by
  induction left generalizing index input with
  | zero => exact ⟨[], took_nil, fun _ some => absurd rfl some, fun long => absurd long (Nat.not_lt_zero 2)⟩
  | succ left ih =>
    unfold readGroups
    split
    · next octets rest read =>
      have short := embedded_length read
      have address : readSeparator ':' index readIpv4Addr input = some (octets, rest) := by
        split at read
        · exact read
        · cases read
      obtain ⟨used, took, colon⟩ :=
        readSeparator_took (.inr (.inl rfl)) (fun _ _ _ => readIpv4Addr_took) address
      exact ⟨used, took, fun later _ => colon later, fun long => absurd long (by simpa using short)⟩
    · split
      · exact ⟨[], took_nil, fun _ some => absurd rfl some, fun long => absurd long (Nat.not_lt_zero 2)⟩
      · next group rest read =>
        obtain ⟨used, took, colon⟩ :=
          readSeparator_took (.inr (.inl rfl)) (fun _ _ _ => readGroup_took) read
        obtain ⟨more, later, others, -⟩ := ih (index + 1) rest
        refine ⟨used ++ more, took.append later, ?_, ?_⟩
        · exact fun positive _ => List.mem_append_left _ (colon positive)
        · intro long
          refine List.mem_append_right _ (others (Nat.succ_pos _) ?_)
          intro none
          simp [none] at long

theorem readIpv6Addr_took {groups : List Nat} (read : readIpv6Addr input = some (groups, rest)) :
    ∃ used, Took Ipv6Char input used rest ∧ ':' ∈ used := by
  unfold readIpv6Addr at read
  obtain ⟨used, took, -, colon⟩ := readGroups_took 8 0 input
  dsimp only at read
  split at read
  · next full =>
    cases read
    exact ⟨used, took, colon (by omega)⟩
  · split at read
    · cases read
    · obtain ⟨first, given, read⟩ := Option.bind_eq_some_iff.mp read
      obtain ⟨second, again, read⟩ := Option.map_eq_some_iff.mp read
      obtain ⟨more, later, -⟩ :=
        readGroups_took (8 - ((readGroups 8 0 input).1.length + 1)) 0 second
      cases read
      have colons : Took Ipv6Char (readGroups 8 0 input).2.2 ([':'] ++ [':']) second :=
        (readGivenChar_took (.inr (.inl rfl)) given).append (readGivenChar_took (.inr (.inl rfl)) again)
      refine ⟨_, (took.append colons).append later, ?_⟩
      simp

end Characters

section Literals
variable {text : String}

theorem took_all {allowed : Char → Prop} {used : List Char} (took : Took allowed text.toList used []) :
    used = text.toList ∧ ∀ c ∈ text.toList, allowed c := by
  have whole : text.toList = used := by simpa using took.1
  exact ⟨whole.symm, whole ▸ took.2⟩

theorem parseIpAddr_v4_chars {octets : Vector UInt8 4} (parsed : parseIpAddr text = some (.v4 octets)) :
    ∀ c ∈ text.toList, Ipv4Char c := by
  unfold parseIpAddr at parsed
  split at parsed
  · next read =>
    split at parsed
    · next done =>
      subst done
      obtain ⟨used, took⟩ := readOctets_took 4 0 read
      exact (took_all took).2
    · cases parsed
  · split at parsed
    · split at parsed
      · cases parsed
      · cases parsed
    · cases parsed

theorem parseIpAddr_v6_chars {octets : Vector UInt8 16} (parsed : parseIpAddr text = some (.v6 octets)) :
    (∀ c ∈ text.toList, Ipv6Char c) ∧ ':' ∈ text.toList := by
  unfold parseIpAddr at parsed
  split at parsed
  · split at parsed
    · cases parsed
    · cases parsed
  · split at parsed
    · next read =>
      split at parsed
      · next done =>
        subst done
        obtain ⟨used, took, colon⟩ := readIpv6Addr_took read
        obtain ⟨same, all⟩ := took_all took
        exact ⟨all, same ▸ colon⟩
      · cases parsed
    · cases parsed

end Literals

example : (parseIpAddr "2001:db8::192.0.2.1").map IpAddr.isIpv4 = some false := by decide +kernel

example : parseIpAddr "1.2.3.04" = none := by decide +kernel

end ProxyTunnels.Net
