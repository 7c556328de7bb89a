import ProxyTunnels.Net.IpLiteral

/-! The text of an address reads back as the address.

The readers take one number at a time and look at nothing behind it but the next character, so
each round trip is stated for a text with any rest behind it that does not go on with digits.
-/

set_option autoImplicit false

namespace ProxyTunnels.Net

/-- As `IpAddr` displays. -/
def IpAddr.text : IpAddr → String
  | .v4 octets => ipv4Text octets.toList
  | .v6 octets => ipv6Text octets.toList

section Numbers
variable {radix : Nat}

def Stops (radix : Nat) (rest : List Char) : Prop := ∀ c ∈ rest.head?, digitOf radix c = none

theorem stops_nil : Stops radix [] := by
  intro c member
  cases member

theorem stops_cons {c : Char} {rest : List Char} (other : digitOf radix c = none) : Stops radix (c :: rest) := by
  intro first member
  cases member
  exact other

theorem digitOf_digitChar (hex : radix ≤ 16) {digit : Nat} (small : digit < radix) :
    digitOf radix (Nat.digitChar digit) = some digit := by
  have each : ∀ value < 16, hexValue (Nat.digitChar value) = some value := by decide
  rw [digitOf, each digit (Nat.lt_of_lt_of_le small hex), Option.filter_some, if_pos (decide_eq_true small)]

theorem digits_of_toDigits (radix : Nat) (base : 1 < radix) (number : Nat) :
    ∃ digits : List Nat, Nat.toDigits radix number = digits.map Nat.digitChar ∧
      (∀ digit ∈ digits, digit < radix) ∧
      digits.foldl (fun result digit => result * radix + digit) 0 = number := by
  induction number using Nat.strongRecOn with
  | ind number ih =>
    rw [Nat.toDigits_eq_if base]
    split
    · next single => exact ⟨[number], rfl, by simpa using single, by simp⟩
    · next more =>
      -- The last digit comes off; the ones before it are those of the quotient.
      have positive : 0 < number := by omega
      obtain ⟨front, same, small, value⟩ := ih (number / radix) (Nat.div_lt_self positive base)
      refine ⟨front ++ [number % radix], ?_, ?_, ?_⟩
      · rw [same, List.map_append]
        rfl
      · intro digit member
        rcases List.mem_append.mp member with member | last
        · exact small digit member
        · rw [List.mem_singleton.mp last]
          exact Nat.mod_lt _ (by omega)
      · rw [List.foldl_append, value]
        exact Nat.div_add_mod' number radix

theorem takeDigits_stopped {rest : List Char} (stops : Stops radix rest) : takeDigits radix rest = ([], rest) := by
  cases rest with
  | nil => rfl
  | cons c rest => simp [takeDigits, stops c rfl]

theorem readNumber_stopped {maxDigits bound : Nat} {allowZeroPrefix : Bool} {rest : List Char}
    (stops : Stops radix rest) : readNumber radix maxDigits allowZeroPrefix bound rest = none := by
  simp [readNumber, takeDigits_stopped stops]

theorem takeDigits_map (hex : radix ≤ 16) {digits : List Nat} (small : ∀ digit ∈ digits, digit < radix)
    {rest : List Char} (stops : Stops radix rest) :
    takeDigits radix (digits.map Nat.digitChar ++ rest) = (digits, rest) := by
  induction digits with
  | nil => exact takeDigits_stopped stops
  | cons digit digits ih =>
    have here := digitOf_digitChar hex (small digit List.mem_cons_self)
    have later := ih fun other member => small other (List.mem_cons_of_mem digit member)
    simp [takeDigits, here, later]

theorem readNumber_toDigits {maxDigits bound number : Nat} {allowZeroPrefix : Bool} (base : 1 < radix)
    (hex : radix ≤ 16) (fits : number < bound) (short : (Nat.toDigits radix number).length ≤ maxDigits)
    (plain : allowZeroPrefix = false → (Nat.toDigits radix number).head? = some '0' →
      (Nat.toDigits radix number).length ≤ 1)
    {rest : List Char} (stops : Stops radix rest) :
    readNumber radix maxDigits allowZeroPrefix bound (Nat.toDigits radix number ++ rest) = some (number, rest) := by
  have some : 0 < (Nat.toDigits radix number).length := Nat.length_toDigits_pos
  obtain ⟨digits, same, small, value⟩ := digits_of_toDigits radix base number
  rw [same] at short plain some ⊢
  rw [List.length_map] at short some
  have head : (digits.map Nat.digitChar ++ rest).head? = (digits.map Nat.digitChar).head? := by
    cases digits with
    | nil => simp at some
    | cons digit digits => rfl
  have unpadded : ¬ (!allowZeroPrefix && (digits.map Nat.digitChar ++ rest).head? == Option.some '0' &&
      decide (1 < digits.length)) = true := by
    rw [head]
    intro padded
    simp only [Bool.and_eq_true, Bool.not_eq_true', beq_iff_eq, decide_eq_true_eq] at padded
    have one := plain padded.1.1 padded.1.2
    rw [List.length_map] at one
    omega
  simp only [readNumber, takeDigits_map hex small stops, value]
  rw [if_neg (Nat.not_lt_of_le short), if_neg (Nat.ne_of_gt some), if_neg unpadded, if_pos fits]

theorem readOctet_text (octet : UInt8) {rest : List Char} (stops : Stops 10 rest) :
    readNumber 10 3 false 256 (Nat.toDigits 10 octet.toNat ++ rest) = some (octet.toNat, rest) := by
  have plain : ∀ number < 256, (Nat.toDigits 10 number).head? = some '0' →
      (Nat.toDigits 10 number).length ≤ 1 := by decide +kernel
  have fits : octet.toNat < 256 := octet.toNat_lt
  have short : (Nat.toDigits 10 octet.toNat).length ≤ 3 :=
    (Nat.length_toDigits_le_iff (by decide) (by decide)).mpr (Nat.lt_of_lt_of_le fits (by decide))
  exact readNumber_toDigits (by decide) (by decide) fits short (fun _ => plain _ fits) stops

theorem readGroup_text {group : Nat} (fits : group < 65536) {rest : List Char} (stops : Stops 16 rest) :
    readNumber 16 4 true 65536 (Nat.toDigits 16 group ++ rest) = some (group, rest) := by
  have short : (Nat.toDigits 16 group).length ≤ 4 :=
    (Nat.length_toDigits_le_iff (by decide) (by decide)).mpr fits
  refine readNumber_toDigits (by decide) (by decide) fits short ?_ stops
  intro padded
  cases padded

end Numbers

section Joined
variable {separator : Char} {index : Nat}

def separated (separator : Char) (index : Nat) (group : List Char) : List Char :=
  if 0 < index then separator :: group else group

/-- Groups from the one at `index` on. -/
def joined (separator : Char) : Nat → List (List Char) → List Char
  | _, [] => []
  | index, group :: groups => separated separator index group ++ joined separator (index + 1) groups

theorem separated_append (group rest : List Char) :
    separated separator index group ++ rest = separated separator index (group ++ rest) := by
  unfold separated
  split <;> rfl

theorem joined_later (groups : List (List Char)) (some : groups ≠ []) :
    joined separator (index + 1) groups = separator :: [separator].intercalate groups := by
  induction groups generalizing index with
  | nil => exact absurd rfl some
  | cons group groups ih =>
    cases groups with
    | nil => simp [joined, separated]
    | cons next groups =>
      rw [joined, ih (by simp), List.intercalate_cons_cons]
      simp [separated]

theorem joined_eq_intercalate (groups : List (List Char)) :
    joined separator 0 groups = [separator].intercalate groups := by
  cases groups with
  | nil => rfl
  | cons group groups =>
    cases groups with
    | nil => simp [joined, separated]
    | cons next groups =>
      rw [joined, joined_later _ (by simp), List.intercalate_cons_cons]
      simp [separated]

theorem stops_joined {radix : Nat} (other : digitOf radix separator = none) {rest : List Char}
    (stops : Stops radix rest) (groups : List (List Char)) :
    Stops radix (joined separator (index + 1) groups ++ rest) := by
  cases groups with
  | nil => exact stops
  | cons group groups => exact stops_cons other

theorem readSeparator_first {α : Type} (inner : List Char → Option (α × List Char)) (input : List Char) :
    readSeparator separator 0 inner input = inner input := rfl

theorem readSeparator_separated {α : Type} (inner : List Char → Option (α × List Char)) (input : List Char) :
    readSeparator separator index inner (separated separator index input) = inner input := by
  unfold readSeparator separated
  split
  · simp [readGivenChar]
  · rfl

theorem readOctets_text (index : Nat) (octets : List UInt8) {rest : List Char} (stops : Stops 10 rest) :
    readOctets octets.length index (joined '.' index (octets.map fun octet => Nat.toDigits 10 octet.toNat) ++ rest) =
      some (octets.map UInt8.toNat, rest) := by
  induction octets generalizing index with
  | nil => rfl
  | cons octet octets ih =>
    have next : Stops 10 (joined '.' (index + 1) (octets.map fun octet => Nat.toDigits 10 octet.toNat) ++ rest) :=
      stops_joined (by decide) stops _
    simp only [List.map_cons, joined, List.length_cons, readOctets, List.append_assoc]
    rw [separated_append, readSeparator_separated, readOctet_text octet next, Option.bind_some]
    dsimp only
    rw [ih]
    rfl

theorem ipv4Text_toList (octets : List UInt8) :
    (ipv4Text octets).toList = joined '.' 0 (octets.map fun octet => Nat.toDigits 10 octet.toNat) := by
  rw [ipv4Text, String.toList_intercalate, joined_eq_intercalate, List.map_map]
  congr 1
  refine List.map_congr_left fun octet _ => ?_
  exact Nat.toList_repr

theorem hexGroups_toList (groups : List Nat) :
    (hexGroups groups).toList = joined ':' 0 (groups.map (Nat.toDigits 16)) := by
  rw [hexGroups, String.toList_intercalate, joined_eq_intercalate, List.map_map]
  congr 1
  refine List.map_congr_left fun group _ => ?_
  simp

end Joined

section Groups
variable {index left : Nat} {input rest : List Char}

theorem dot_of_readOctets {octets : List Nat} (later : 0 < index)
    (read : readOctets (left + 1) index input = some (octets, rest)) : '.' ∈ input := by
  obtain ⟨⟨octet, middle⟩, first, -⟩ := Option.bind_eq_some_iff.mp read
  have reads : ∀ input value rest, readNumber 10 3 false 256 input = some (value, rest) →
      ∃ used, Took (fun _ => True) input used rest := fun _ _ _ => readNumber_took fun _ _ _ => trivial
  obtain ⟨used, took, dot⟩ := readSeparator_took trivial reads first
  rw [took.1]
  exact List.mem_append_left middle (dot later)

theorem readIpv4Addr_dotless (dotless : '.' ∉ input) : readIpv4Addr input = none := by
  cases read : readIpv4Addr input with
  | none => rfl
  | some result =>
    obtain ⟨⟨octet, middle⟩, first, remaining⟩ := Option.bind_eq_some_iff.mp read
    obtain ⟨⟨octets, rest⟩, others, -⟩ := Option.map_eq_some_iff.mp remaining
    have number : readNumber 10 3 false 256 input = some (octet, middle) := first
    have any : ∀ c digit, digitOf 10 c = some digit → (fun _ : Char => True) c := fun _ _ _ => trivial
    obtain ⟨used, took⟩ := readNumber_took any number
    refine absurd ?_ dotless
    rw [took.1]
    exact List.mem_append_right used (dot_of_readOctets Nat.one_pos others)

theorem noEmbedded (index : Nat) (dotless : '.' ∉ input) : readSeparator ':' index readIpv4Addr input = none := by
  unfold readSeparator
  split
  · cases input with
    | nil => rfl
    | cons c input =>
      have behind : '.' ∉ input := fun member => dotless (List.mem_cons_of_mem c member)
      simp only [readGivenChar]
      split
      · rw [Option.bind_some, readIpv4Addr_dotless behind]
      · rfl
  · exact readIpv4Addr_dotless dotless

/-- Groups end where the text does or where `::` begins. -/
def EndsGroups (rest : List Char) : Prop := rest = [] ∨ ∃ more, rest = ':' :: ':' :: more

theorem EndsGroups.stops (ends : EndsGroups rest) : Stops 16 rest := by
  rcases ends with rfl | ⟨more, rfl⟩
  · exact stops_nil
  · exact stops_cons (by decide)

theorem EndsGroups.noGroup (ends : EndsGroups rest) :
    readSeparator ':' index (readNumber 16 4 true 65536) rest = none := by
  unfold readSeparator
  split
  · rcases ends with rfl | ⟨more, rfl⟩
    · rfl
    · have colon : Stops 16 (':' :: more) := stops_cons (by decide)
      change readNumber 16 4 true 65536 (':' :: more) = none
      exact readNumber_stopped colon
  · exact readNumber_stopped ends.stops

theorem readGroups_cons {group : Nat} {groups : List Nat} {embedded : Bool} {middle : List Char}
    (plain : readSeparator ':' index readIpv4Addr input = none)
    (here : readSeparator ':' index (readNumber 16 4 true 65536) input = some (group, middle))
    (onward : readGroups left (index + 1) middle = (groups, embedded, rest)) :
    readGroups (left + 1) index input = (group :: groups, embedded, rest) := by
  simp only [readGroups, plain, ite_self, here, onward]

theorem readGroups_text (left index : Nat) {groups : List Nat} (small : ∀ group ∈ groups, group < 65536)
    (fits : groups.length ≤ left) (ends : EndsGroups rest)
    (dotless : '.' ∉ joined ':' index (groups.map (Nat.toDigits 16)) ++ rest) :
    readGroups left index (joined ':' index (groups.map (Nat.toDigits 16)) ++ rest) = (groups, false, rest) := by
  induction groups generalizing left index with
  | nil =>
    change readGroups left index rest = _
    change '.' ∉ rest at dotless
    cases left with
    | zero => rfl
    | succ left => simp [readGroups, noEmbedded index dotless, ends.noGroup]
  | cons group groups ih =>
    cases left with
    | zero => cases fits
    | succ left =>
      have next : Stops 16 (joined ':' (index + 1) (groups.map (Nat.toDigits 16)) ++ rest) :=
        stops_joined (by decide) ends.stops _
      have none := noEmbedded index dotless
      simp only [List.map_cons, joined, List.append_assoc] at dotless none ⊢
      have behind : '.' ∉ joined ':' (index + 1) (groups.map (Nat.toDigits 16)) ++ rest :=
        fun member => dotless (List.mem_append_right _ member)
      have onward := ih left (index + 1) (fun other member => small other (List.mem_cons_of_mem group member))
        (Nat.le_of_succ_le_succ fits) behind
      -- An embedded address is tried before every group, and there is no dot for one.
      refine readGroups_cons none ?_ onward
      rw [separated_append, readSeparator_separated]
      exact readGroup_text (small group List.mem_cons_self) next

end Groups

section Zeroes
variable {groups : List Nat}

def Span.Zeroes (groups : List Nat) (span : Span) : Prop :=
  span.start + span.len ≤ groups.length ∧
    ∀ place, span.start ≤ place → place < span.start + span.len → groups[place]? = some 0

theorem zeroes_none : Span.Zeroes groups ⟨0, 0⟩ := ⟨Nat.zero_le _, by simp⟩

theorem Span.Zeroes.grow {index : Nat} {current : Span} (running : current.Zeroes groups)
    (upTo : current.len = 0 ∨ current.start + current.len = index) (now : groups[index]? = some 0) :
    (if current.len = 0 then ⟨index, 1⟩ else ⟨current.start, current.len + 1⟩ : Span).Zeroes groups ∧
      (if current.len = 0 then ⟨index, 1⟩ else ⟨current.start, current.len + 1⟩ : Span).start +
        (if current.len = 0 then ⟨index, 1⟩ else ⟨current.start, current.len + 1⟩ : Span).len = index + 1 := by
  obtain ⟨inside, -⟩ := List.getElem?_eq_some_iff.mp now
  split
  · refine ⟨⟨inside, fun place after before => ?_⟩, rfl⟩
    have only : place = index := by
      dsimp only at after before
      omega
    rw [only, now]
  · next more =>
    have whole := upTo.resolve_left more
    refine ⟨⟨by dsimp only; omega, fun place after before => ?_⟩, by dsimp only; omega⟩
    dsimp only at after before
    rcases Nat.lt_or_ge place index with earlier | last
    · exact running.2 place after (by omega)
    · have only : place = index := by omega
      rw [only, now]

theorem longestZeroes_zeroes {rest : List Nat} {index : Nat} {current longest : Span}
    (here : groups.drop index = rest) (running : current.Zeroes groups)
    (upTo : current.len = 0 ∨ current.start + current.len = index) (found : longest.Zeroes groups) :
    (longestZeroes rest index current longest).Zeroes groups := by
  induction rest generalizing index current longest with
  | nil => exact found
  | cons segment rest ih =>
    have behind : groups.drop (index + 1) = rest := by rw [← List.drop_drop, here]; rfl
    have now : groups[index]? = some segment := by
      rw [← List.head?_drop, here]
      rfl
    unfold longestZeroes
    split
    · next zero =>
      subst zero
      obtain ⟨grown, reach⟩ := running.grow upTo now
      refine ih behind grown (.inr reach) ?_
      exact iteInduction (motive := Span.Zeroes groups) (fun _ => grown) (fun _ => found)
    · exact ih behind zeroes_none (.inl rfl) found

theorem Span.Zeroes.elided {span : Span} (zeroes : span.Zeroes groups) :
    groups.take span.start ++ List.replicate span.len 0 ++ groups.drop (span.start + span.len) = groups := by
  have stretch : (groups.drop span.start).take span.len = List.replicate span.len 0 := by
    have length : ((groups.drop span.start).take span.len).length = span.len := by
      have := zeroes.1
      simp
      omega
    refine List.eq_replicate_iff.mpr ⟨length, fun group member => ?_⟩
    obtain ⟨place, inside, rfl⟩ := List.mem_iff_getElem.mp member
    rw [length] at inside
    have zero := zeroes.2 (span.start + place) (Nat.le_add_right _ _) (Nat.add_lt_add_left inside _)
    obtain ⟨_, value⟩ := List.getElem?_eq_some_iff.mp zero
    simpa using value
  calc groups.take span.start ++ List.replicate span.len 0 ++ groups.drop (span.start + span.len)
      = groups.take span.start ++ ((groups.drop span.start).take span.len ++
          (groups.drop span.start).drop span.len) := by
        rw [stretch, List.drop_drop, List.append_assoc]
    _ = groups := by rw [List.take_append_drop, List.take_append_drop]

end Zeroes

section Segments

theorem segments_length : ∀ octets : List UInt8, (segments octets).length = octets.length / 2
  | [] => rfl
  | [_] => by simp [segments]
  | _ :: _ :: rest => by
    simp only [segments, List.length_cons, segments_length rest]
    omega

theorem segments_small : ∀ octets : List UInt8, ∀ group ∈ segments octets, group < 65536
  | high :: low :: rest, group, member => by
    rcases List.mem_cons.mp member with rfl | member
    · have := high.toNat_lt
      have := low.toNat_lt
      omega
    · exact segments_small rest group member

theorem segments_getD : ∀ (octets : List UInt8) (place : Nat), 2 * place + 1 < octets.length →
    (segments octets).getD place 0 =
      (octets.getD (2 * place) 0).toNat * 256 + (octets.getD (2 * place + 1) 0).toNat
  | _ :: _ :: _, 0, _ => rfl
  | _ :: _ :: rest, place + 1, inside => segments_getD rest place (by simp at inside; omega)

theorem groupsOf_toNat : ∀ octets : List UInt8, groupsOf (octets.map UInt8.toNat) = segments octets
  | [] => rfl
  | [_] => by simp [groupsOf, segments]
  | _ :: _ :: rest => by simp [groupsOf, segments, groupsOf_toNat rest]

theorem octet_of_segment (octets : List UInt8) (even : octets.length % 2 = 0) (index : Nat)
    (inside : index < octets.length) :
    UInt8.ofNat (if index % 2 = 0 then (segments octets).getD (index / 2) 0 / 256
      else (segments octets).getD (index / 2) 0 % 256) = octets.getD index 0 := by
  rw [segments_getD octets (index / 2) (by omega)]
  have low := (octets.getD (2 * (index / 2) + 1) 0).toNat_lt
  split
  · next first =>
    have here : 2 * (index / 2) = index := by omega
    rw [here] at low ⊢
    rw [show ((octets.getD index 0).toNat * 256 + (octets.getD (index + 1) 0).toNat) / 256 =
      (octets.getD index 0).toNat by omega, UInt8.ofNat_toNat]
  · next second =>
    have here : 2 * (index / 2) + 1 = index := by omega
    rw [here] at low ⊢
    rw [show ((octets.getD (2 * (index / 2)) 0).toNat * 256 + (octets.getD index 0).toNat) % 256 =
      (octets.getD index 0).toNat by omega, UInt8.ofNat_toNat]

theorem ipv6OfGroups_segments (octets : Vector UInt8 16) : ipv6OfGroups (segments octets.toList) = .v6 octets := by
  refine congrArg IpAddr.v6 (Vector.ext fun index inside => ?_)
  have octet := octet_of_segment octets.toList (by simp) index (by simpa using inside)
  have here : octets.toList.getD index 0 = octets[index] := by simp [inside]
  have parity : ∀ place : Fin 16, place % 2 = 0 ↔ place.val % 2 = 0 := by decide
  rw [Vector.getElem_ofFn, ← here, ← octet]
  simp only [parity]

theorem ipv4OfOctets_toNat (octets : Vector UInt8 4) :
    ipv4OfOctets (octets.toList.map UInt8.toNat) = .v4 octets := by
  refine congrArg IpAddr.v4 (Vector.ext fun index inside => ?_)
  rw [Vector.getElem_ofFn]
  simp [inside]

end Segments

section Texts

theorem not_dot_of_toDigits (group : Nat) : '.' ∉ Nat.toDigits 16 group := by
  intro member
  obtain ⟨digits, same, small, -⟩ := digits_of_toDigits 16 (by decide) group
  rw [same] at member
  obtain ⟨digit, inside, dot⟩ := List.mem_map.mp member
  have each : ∀ value < 16, Nat.digitChar value ≠ '.' := by decide
  exact each digit (small digit inside) dot

theorem joined_dotless (index : Nat) (groups : List Nat) :
    '.' ∉ joined ':' index (groups.map (Nat.toDigits 16)) := by
  induction groups generalizing index with
  | nil => exact List.not_mem_nil
  | cons group groups ih =>
    have here := not_dot_of_toDigits group
    have later := ih (index + 1)
    simp only [List.map_cons, joined, separated]
    split <;> simp [here, later]

theorem hexGroups_dotless (groups : List Nat) : '.' ∉ (hexGroups groups).toList := by
  rw [hexGroups_toList]
  exact joined_dotless 0 groups

theorem readIpv4Addr_text {octets : List UInt8} (four : octets.length = 4) :
    readIpv4Addr (ipv4Text octets).toList = some (octets.map UInt8.toNat, []) := by
  have read := readOctets_text 0 octets stops_nil
  rw [four, List.append_nil] at read
  rw [ipv4Text_toList]
  exact read

theorem readIpv4Addr_stopped {input : List Char} (stops : Stops 10 input) : readIpv4Addr input = none := by
  simp [readIpv4Addr, readOctets, readSeparator_first, readNumber_stopped stops]

theorem readIpv6Addr_groups {groups : List Nat} (small : ∀ group ∈ groups, group < 65536)
    (eight : groups.length = 8) :
    readIpv6Addr (hexGroups groups).toList = some (groups, []) := by
  have read := readGroups_text 8 0 small (Nat.le_of_eq eight) (.inl rfl) (by simpa using joined_dotless 0 groups)
  rw [List.append_nil] at read
  simp [readIpv6Addr, hexGroups_toList, read, eight]

theorem readIpv6Addr_elided {front back : List Nat} {zeroes : Nat}
    (smallFront : ∀ group ∈ front, group < 65536) (smallBack : ∀ group ∈ back, group < 65536)
    (elided : 0 < zeroes) (eight : front.length + zeroes + back.length = 8) :
    readIpv6Addr (hexGroups front ++ "::" ++ hexGroups back).toList =
      some (front ++ List.replicate zeroes 0 ++ back, []) := by
  have text : (hexGroups front ++ "::" ++ hexGroups back).toList =
      joined ':' 0 (front.map (Nat.toDigits 16)) ++ ':' :: ':' :: joined ':' 0 (back.map (Nat.toDigits 16)) := by
    simp [hexGroups_toList]
  have first : readGroups 8 0 (hexGroups front ++ "::" ++ hexGroups back).toList =
      (front, false, ':' :: ':' :: joined ':' 0 (back.map (Nat.toDigits 16))) := by
    rw [text]
    exact readGroups_text 8 0 smallFront (by omega) (.inr ⟨_, rfl⟩) (by simp [joined_dotless])
  have second := readGroups_text (8 - (front.length + 1)) 0 smallBack (by omega) (.inl rfl)
    (by simpa using joined_dotless 0 back)
  rw [List.append_nil] at second
  -- The reader fills up to eight groups, which is as many zeroes as were elided.
  have left : 8 - front.length - back.length = zeroes := by omega
  rw [readIpv6Addr, first]
  dsimp only
  rw [if_neg (by omega)]
  simp only [Bool.false_eq_true, if_false, readGivenChar, if_true, Option.bind_some, Option.map_some, second, left]

theorem readGroups_colon (left : Nat) (rest : List Char) :
    readGroups left 0 (':' :: rest) = ([], false, ':' :: rest) := by
  have decimal : readIpv4Addr (':' :: rest) = none := readIpv4Addr_stopped (stops_cons (by decide))
  have group : readNumber 16 4 true 65536 (':' :: rest) = none := readNumber_stopped (stops_cons (by decide))
  cases left with
  | zero => rfl
  | succ left => simp [readGroups, readSeparator_first, decimal, group]

theorem readIpv6Addr_mapped {octets : List UInt8} (four : octets.length = 4) :
    readIpv6Addr ("::ffff:" ++ ipv4Text octets).toList = some ([0, 0, 0, 0, 0, 65535] ++ segments octets, []) := by
  have hex : Nat.toDigits 16 65535 = ['f', 'f', 'f', 'f'] := by decide
  have text : ("::ffff:" ++ ipv4Text octets).toList =
      ':' :: ':' :: (Nat.toDigits 16 65535 ++ ':' :: (ipv4Text octets).toList) := by
    rw [hex]
    simp
  have embedded : readGroups 6 1 (':' :: (ipv4Text octets).toList) = (segments octets, true, []) := by
    have address : readSeparator ':' 1 readIpv4Addr (':' :: (ipv4Text octets).toList) =
        some (octets.map UInt8.toNat, []) := readIpv4Addr_text four
    simp [readGroups, address, groupsOf_toNat]
  have tail : readGroups 7 0 (Nat.toDigits 16 65535 ++ ':' :: (ipv4Text octets).toList) =
      (65535 :: segments octets, true, []) := by
    have colon : Stops 16 (':' :: (ipv4Text octets).toList) := stops_cons (by decide)
    -- No address is read in place of the group: it starts with a letter.
    have letter : Stops 10 (Nat.toDigits 16 65535 ++ ':' :: (ipv4Text octets).toList) := by
      rw [hex]
      exact stops_cons (by decide)
    refine readGroups_cons ?_ ?_ embedded
    · rw [readSeparator_first, readIpv4Addr_stopped letter]
    · rw [readSeparator_first, readGroup_text (by decide) colon]
  have two : (segments octets).length = 2 := by rw [segments_length, four]
  rw [text, readIpv6Addr, readGroups_colon]
  simp [readGivenChar, tail, two]

theorem readIpv6Addr_text {octets : List UInt8} (sixteen : octets.length = 16) :
    readIpv6Addr (ipv6Text octets).toList = some (segments octets, []) := by
  unfold ipv6Text
  split
  · next mapped =>
    have four : (octets.drop 12).length = 4 := by rw [List.length_drop, sixteen]
    have whole : octets = [0, 0, 0, 0, 0, 0, 0, 0, 0, 0, 255, 255] ++ octets.drop 12 := by
      rw [← mapped, List.take_append_drop]
    have front : segments octets = [0, 0, 0, 0, 0, 65535] ++ segments (octets.drop 12) := by
      rw [whole]
      rfl
    rw [readIpv6Addr_mapped four, front]
  · have small := segments_small octets
    have eight : (segments octets).length = 8 := by rw [segments_length, sixteen]
    have zeroes : (longestZeroes (segments octets) 0 ⟨0, 0⟩ ⟨0, 0⟩).Zeroes (segments octets) :=
      longestZeroes_zeroes rfl zeroes_none (.inl rfl) zeroes_none
    dsimp only
    split
    · next long =>
      have length := congrArg List.length zeroes.elided
      rw [List.length_append, List.length_append, List.length_replicate, eight] at length
      have read := readIpv6Addr_elided (fun group member => small group (List.mem_of_mem_take member))
        (fun group member => small group (List.mem_of_mem_drop member)) (Nat.lt_of_succ_lt long) length
      rw [read, zeroes.elided]
    · exact readIpv6Addr_groups small eight

theorem readIpv4Addr_ipv6Text (octets : List UInt8) : readIpv4Addr (ipv6Text octets).toList = none := by
  unfold ipv6Text
  dsimp only
  split
  · simp only [String.toList_append]
    exact readIpv4Addr_stopped (stops_cons (by decide))
  · split
    · refine readIpv4Addr_dotless ?_
      simp [hexGroups_dotless]
    · exact readIpv4Addr_dotless (hexGroups_dotless _)

/-- Display and reading are inverse. -/
theorem parseIpAddr_text (address : IpAddr) : parseIpAddr address.text = some address := by
  cases address with
  | v4 octets =>
    have read := readIpv4Addr_text (octets.length_toList)
    simp [parseIpAddr, IpAddr.text, read, ipv4OfOctets_toNat]
  | v6 octets =>
    have read := readIpv6Addr_text (octets.length_toList)
    simp [parseIpAddr, IpAddr.text, readIpv4Addr_ipv6Text, read, ipv6OfGroups_segments]

end Texts

end ProxyTunnels.Net
