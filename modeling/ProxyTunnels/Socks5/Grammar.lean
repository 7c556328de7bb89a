import ProxyTunnels.Socks5.Front

/-! The front accepts exactly its grammar and consumes exactly what it accepted.

The grammar below is stated over byte strings, without the parser. Each stage of the
negotiation is matched with its production; the whole follows by concatenation.
-/

set_option autoImplicit false

namespace ProxyTunnels.Socks5
open Machine

def Greeting (bytes : List UInt8) : Prop :=
  ∃ (count : UInt8) (methods : List UInt8), bytes = 5 :: count :: methods ∧
    methods.length = count.toNat ∧ 1 ≤ count.toNat ∧ 2 ∈ methods

def Login (username password : String) (bytes : List UInt8) : Prop :=
  ∃ ulen plen : UInt8, bytes = 1 :: ulen :: (utf8 username ++ plen :: utf8 password) ∧
    (utf8 username).length = ulen.toNat ∧ 1 ≤ ulen.toNat ∧ (utf8 password).length = plen.toNat

inductive Address : String → List UInt8 → Prop where
  | ipv4 {octets : List UInt8} : octets.length = 4 → Address (Net.ipv4Text octets) (1 :: octets)
  | ipv6 {octets : List UInt8} : octets.length = 16 → Address (Net.ipv6Text octets) (4 :: octets)
  | name {length : UInt8} {host : String} : 1 ≤ length.toNat →
      (utf8 host).length = length.toNat → Address host (3 :: length :: utf8 host)

/-- A CONNECT request for `host` and a big-endian port. -/
def Request (host : String) (port : UInt16) (bytes : List UInt8) : Prop :=
  ∃ (address : List UInt8) (high low : UInt8), Address host address ∧
    bytes = 5 :: 1 :: 0 :: (address ++ [high, low]) ∧
    port.toNat = high.toNat * 256 + low.toNat

def Opening (username password host : String) (port : UInt16) (bytes : List UInt8) : Prop :=
  ∃ greeting login request, Greeting greeting ∧ Login username password login ∧
    Request host port request ∧ bytes = greeting ++ (login ++ request)

section Stages
variable {wire final : Wire}

theorem refuse_refuses (reason : String) : (refuse reason).Refuses := Talk.fail_refuses _

theorem refusal_refuses (bytes : List UInt8) (reason : String) :
    (do writeAll bytes; refuse reason : Exchange Unit).Refuses :=
  Talk.bind_refuses fun _ => Talk.fail_refuses _

theorem replied_refuses {α : Type} (code : UInt8) (reason : String) :
    (do Talk.ignore (reply code); Talk.fail (.protocol reason) : Exchange α).Refuses :=
  Talk.bind_refuses fun _ => Talk.fail_refuses _

theorem length_two {bytes : List UInt8} (two : bytes.length = 2) :
    bytes = [byteAt bytes 0, byteAt bytes 1] := by
  obtain ⟨first, second, rfl⟩ := List.length_eq_two.mp two
  rfl

theorem negotiateMethod_ok (reliable : wire.Reliable) {done : Unit} :
    negotiateMethod wire = (.ok done, final) ↔
      ∃ front rest, wire.unread = front ++ rest ∧ Greeting front ∧
        final = (wire.wrote [5, 2]).rest rest := by
  constructor
  · intro succeeded
    obtain ⟨greeting, unread, two, same, afterGreeting⟩ := Talk.readExact_bind.mp succeeded
    obtain ⟨version, versioned⟩ := (Talk.require_bind (refuse_refuses _)).mp afterGreeting
    obtain ⟨counted, positive⟩ := (Talk.require_bind (refusal_refuses _ _)).mp versioned
    obtain ⟨methods, rest, length, more, afterMethods⟩ := Talk.readExact_bind.mp positive
    obtain ⟨offered, offering⟩ := (Talk.require_bind (refusal_refuses _ _)).mp afterMethods
    have ending := (Talk.writeAll_ok (reliable.rest rest)).mp offering
    refine ⟨greeting ++ methods, rest, ?_, ⟨byteAt greeting 1, methods, ?_, length, ?_, ?_⟩, ending⟩
    · rw [same, List.append_assoc]
      exact congrArg (greeting ++ ·) more
    · have five : byteAt greeting 0 = 5 := eq_of_beq version
      have shape := length_two two
      rw [five] at shape
      rw [shape]
      rfl
    · exact Nat.one_le_iff_ne_zero.mpr (bne_iff_ne.mp counted)
    · exact List.contains_iff_mem.mp offered
  · rintro ⟨front, rest, same, ⟨count, methods, rfl, length, positive, offered⟩, rfl⟩
    apply Talk.readExact_bind.mpr
    refine ⟨[5, count], methods ++ rest, rfl, same, ?_⟩
    apply (Talk.require_bind (refuse_refuses _)).mpr
    refine ⟨rfl, ?_⟩
    apply (Talk.require_bind (refusal_refuses _ _)).mpr
    refine ⟨bne_iff_ne.mpr (Nat.one_le_iff_ne_zero.mp positive), ?_⟩
    apply Talk.readExact_bind.mpr
    refine ⟨methods, rest, length, rfl, ?_⟩
    apply (Talk.require_bind (refusal_refuses _ _)).mpr
    refine ⟨List.contains_iff_mem.mpr offered, ?_⟩
    exact (Talk.writeAll_ok (reliable.rest _)).mpr rfl

theorem length_one {bytes : List UInt8} (one : bytes.length = 1) : bytes = [byteAt bytes 0] := by
  obtain ⟨first, rfl⟩ := List.length_eq_one_iff.mp one
  rfl

theorem authenticate_ok (credentials : Credentials) (reliable : wire.Reliable) {done : Unit} :
    authenticate credentials wire = (.ok done, final) ↔
      ∃ front rest, wire.unread = front ++ rest ∧
        Login credentials.username credentials.password front ∧
        final = (wire.wrote [1, 0]).rest rest := by
  constructor
  · intro succeeded
    obtain ⟨auth, unread, two, same, afterAuth⟩ := Talk.readExact_bind.mp succeeded
    obtain ⟨valid, afterCheck⟩ := (Talk.require_bind (refusal_refuses _ _)).mp afterAuth
    obtain ⟨username, tail, ulen, more, afterUser⟩ := Talk.readExact_bind.mp afterCheck
    obtain ⟨passwordLen, tail', one, more', afterLen⟩ := Talk.readExact_bind.mp afterUser
    obtain ⟨password, rest, plen, more'', afterPassword⟩ := Talk.readExact_bind.mp afterLen
    obtain ⟨matched, granted⟩ := (Talk.require_bind (refusal_refuses _ _)).mp afterPassword
    have ending := (Talk.writeAll_ok (reliable.rest rest)).mp granted
    simp only [Bool.and_eq_true, beq_iff_eq, bne_iff_ne] at valid matched
    obtain ⟨rfl, rfl⟩ := matched
    refine ⟨auth ++ (utf8 credentials.username ++ (passwordLen ++ utf8 credentials.password)), rest,
      ?_, ⟨byteAt auth 1, byteAt passwordLen 0, ?_, ulen, ?_, plen⟩, ending⟩
    · have joined : unread = utf8 credentials.username ++
          (passwordLen ++ (utf8 credentials.password ++ rest)) := by
        rw [← show tail' = _ from more'', ← show tail = _ from more']
        exact more
      rw [same, joined]
      simp only [List.append_assoc]
    · have shape := length_two two
      rw [valid.1] at shape
      rw [shape, length_one one]
      rfl
    · have nonzero : (byteAt auth 1).toNat ≠ 0 := fun zero => valid.2 (UInt8.toNat_inj.mp zero)
      exact Nat.one_le_iff_ne_zero.mpr nonzero
  · rintro ⟨front, rest, same, ⟨ulen, plen, rfl, userLength, positive, passwordLength⟩, rfl⟩
    have nonzero : ulen ≠ 0 := by
      rintro rfl
      exact absurd positive (by decide)
    apply Talk.readExact_bind.mpr
    refine ⟨[1, ulen], utf8 credentials.username ++ (plen :: utf8 credentials.password ++ rest), rfl, ?_, ?_⟩
    · rw [same]
      simp only [List.cons_append, List.append_assoc, List.nil_append]
    apply (Talk.require_bind (refusal_refuses _ _)).mpr
    refine ⟨by simpa [byteAt] using nonzero, ?_⟩
    apply Talk.readExact_bind.mpr
    refine ⟨utf8 credentials.username, plen :: utf8 credentials.password ++ rest, userLength, rfl, ?_⟩
    apply Talk.readExact_bind.mpr
    refine ⟨[plen], utf8 credentials.password ++ rest, rfl, rfl, ?_⟩
    apply Talk.readExact_bind.mpr
    refine ⟨utf8 credentials.password, rest, passwordLength, rfl, ?_⟩
    apply (Talk.require_bind (refusal_refuses _ _)).mpr
    refine ⟨by simp, ?_⟩
    exact (Talk.writeAll_ok (reliable.rest _)).mpr rfl

theorem fromUTF8_eq_some {bytes : List UInt8} {host : String} :
    String.fromUTF8? ⟨bytes.toArray⟩ = some host ↔ bytes = utf8 host := by
  unfold String.fromUTF8? utf8
  constructor
  · intro decoded
    split at decoded
    · cases decoded
      rfl
    · cases decoded
  · rintro rfl
    rw [dif_pos host.isValidUTF8]
    rfl

theorem decodeName_ok {name : List UInt8} {host : String} :
    decodeName name wire = (.ok host, final) ↔ name = utf8 host ∧ final = wire := by
  unfold decodeName
  constructor
  · intro decoding
    cases decoded : String.fromUTF8? ⟨name.toArray⟩ with
    | some text =>
      rw [decoded] at decoding
      obtain ⟨rfl, rfl⟩ := Talk.pure_ok.mp decoding
      exact ⟨fromUTF8_eq_some.mp decoded, rfl⟩
    | none =>
      rw [decoded] at decoding
      exact absurd decoding (replied_refuses _ _ _ _ _)
  · rintro ⟨encoded, rfl⟩
    rw [fromUTF8_eq_some.mpr encoded]
    rfl

theorem readName_ok {host : String} :
    readName wire = (.ok host, final) ↔
      ∃ (length : UInt8) (rest : List UInt8), 1 ≤ length.toNat ∧ (utf8 host).length = length.toNat ∧
        wire.unread = length :: utf8 host ++ rest ∧ final = wire.rest rest := by
  constructor
  · intro succeeded
    obtain ⟨length, unread, one, same, afterLength⟩ := Talk.readExact_bind.mp succeeded
    obtain ⟨nonzero, afterCheck⟩ := (Talk.require_bind (replied_refuses _ _)).mp afterLength
    obtain ⟨name, rest, counted, more, decoding⟩ := Talk.readExact_bind.mp afterCheck
    obtain ⟨rfl, rfl⟩ := decodeName_ok.mp decoding
    refine ⟨byteAt length 0, rest, ?_, counted, ?_, rfl⟩
    · have positive : (byteAt length 0).toNat ≠ 0 := fun zero =>
        bne_iff_ne.mp nonzero (UInt8.toNat_inj.mp zero)
      exact Nat.one_le_iff_ne_zero.mpr positive
    · rw [same, show unread = _ from more, length_one one]
      rfl
  · rintro ⟨length, rest, positive, counted, same, rfl⟩
    have nonzero : length ≠ 0 := by
      rintro rfl
      exact absurd positive (by decide)
    apply Talk.readExact_bind.mpr
    refine ⟨[length], utf8 host ++ rest, rfl, same, ?_⟩
    apply (Talk.require_bind (replied_refuses _ _)).mpr
    refine ⟨by simpa [byteAt] using nonzero, ?_⟩
    apply Talk.readExact_bind.mpr
    refine ⟨utf8 host, rest, counted, rfl, ?_⟩
    exact decodeName_ok.mpr ⟨rfl, rfl⟩

theorem readOctets_ok {count : Nat} {text : List UInt8 → String} {host : String} :
    (do let octets ← readExact count; pure (text octets) : Exchange String) wire = (.ok host, final) ↔
      ∃ octets rest, octets.length = count ∧ wire.unread = octets ++ rest ∧
        host = text octets ∧ final = wire.rest rest := by
  rw [readExact, Talk.readExact_bind]
  simp only [Talk.pure_ok]

theorem readHost_ok {atyp : UInt8} {host : String} :
    readHost atyp wire = (.ok host, final) ↔
      ∃ address rest, Address host (atyp :: address) ∧ wire.unread = address ++ rest ∧
        final = wire.rest rest := by
  unfold readHost
  constructor
  · intro succeeded
    split at succeeded
    · rename_i four
      obtain ⟨octets, rest, length, same, rfl, rfl⟩ := readOctets_ok.mp succeeded
      exact ⟨octets, rest, four ▸ Address.ipv4 length, same, rfl⟩
    · split at succeeded
      · rename_i sixteen
        obtain ⟨octets, rest, length, same, rfl, rfl⟩ := readOctets_ok.mp succeeded
        exact ⟨octets, rest, sixteen ▸ Address.ipv6 length, same, rfl⟩
      · split at succeeded
        · rename_i domain
          obtain ⟨length, rest, positive, counted, same, rfl⟩ := readName_ok.mp succeeded
          exact ⟨length :: utf8 host, rest, domain ▸ Address.name positive counted, same, rfl⟩
        · exact absurd succeeded (replied_refuses _ _ _ _ _)
  · rintro ⟨address, rest, shape, same, rfl⟩
    cases shape with
    | ipv4 length => exact readOctets_ok.mpr ⟨address, rest, length, same, rfl, rfl⟩
    | ipv6 length => exact readOctets_ok.mpr ⟨address, rest, length, same, rfl, rfl⟩
    | @name length host positive counted =>
      exact readName_ok.mpr ⟨length, rest, positive, counted, same, rfl⟩

theorem toNat_portOf (high low : UInt8) :
    (portOf [high, low]).toNat = high.toNat * 256 + low.toNat := by
  have highBound := high.toNat_lt
  have lowBound := low.toNat_lt
  simp only [portOf, byteAt, List.getD_cons_zero, List.getD_cons_succ, UInt16.toNat_ofNat']
  omega

theorem length_four {bytes : List UInt8} (four : bytes.length = 4) :
    bytes = [byteAt bytes 0, byteAt bytes 1, byteAt bytes 2, byteAt bytes 3] := by
  match bytes, four with
  | [first, second, third, fourth], _ => rfl

theorem readRequest_ok {host : String} {port : UInt16} :
    readRequest wire = (.ok (host, port), final) ↔
      ∃ front rest, wire.unread = front ++ rest ∧ Request host port front ∧
        final = wire.rest rest := by
  constructor
  · intro succeeded
    obtain ⟨request, unread, four, same, afterRequest⟩ := Talk.readExact_bind.mp succeeded
    obtain ⟨version, versioned⟩ := (Talk.require_bind (refuse_refuses _)).mp afterRequest
    obtain ⟨reserved, reserving⟩ := (Talk.require_bind (refuse_refuses _)).mp versioned
    obtain ⟨command, commanded⟩ := (Talk.require_bind (replied_refuses _ _)).mp reserving
    obtain ⟨text, later, hosted, afterHost⟩ := Talk.bind_ok.mp commanded
    obtain ⟨address, tail, shape, more, rfl⟩ := readHost_ok.mp hosted
    obtain ⟨bytes, rest, two, last, ending⟩ := Talk.readExact_bind.mp afterHost
    obtain ⟨named, rfl⟩ := Talk.pure_ok.mp ending
    cases named
    simp only [beq_iff_eq] at version reserved command
    refine ⟨request ++ (address ++ bytes), rest, ?_, ⟨byteAt request 3 :: address, byteAt bytes 0,
      byteAt bytes 1, shape, ?_, ?_⟩, rfl⟩
    · rw [same, show unread = _ from more, show tail = _ from last]
      simp only [List.append_assoc]
    · have head := length_four four
      rw [version, reserved, command] at head
      rw [head, length_two two]
      rfl
    · rw [length_two two]
      exact toNat_portOf _ _
  · rintro ⟨front, rest, same, ⟨address, high, low, shape, rfl, value⟩, rfl⟩
    obtain ⟨atyp, tail, rfl⟩ : ∃ atyp tail, address = atyp :: tail := by
      cases shape <;> exact ⟨_, _, rfl⟩
    apply Talk.readExact_bind.mpr
    refine ⟨[5, 1, 0, atyp], tail ++ (high :: low :: rest), rfl, ?_, ?_⟩
    · rw [same]
      simp only [List.cons_append, List.append_assoc, List.nil_append]
    apply (Talk.require_bind (refuse_refuses _)).mpr
    refine ⟨rfl, ?_⟩
    apply (Talk.require_bind (refuse_refuses _)).mpr
    refine ⟨rfl, ?_⟩
    apply (Talk.require_bind (replied_refuses _ _)).mpr
    refine ⟨rfl, ?_⟩
    apply Talk.bind_ok.mpr
    refine ⟨host, wire.rest (high :: low :: rest), readHost_ok.mpr ⟨tail, _, shape, rfl, rfl⟩, ?_⟩
    apply Talk.readExact_bind.mpr
    refine ⟨[high, low], rest, rfl, rfl, Talk.pure_ok.mpr ⟨?_, rfl⟩⟩
    have decoded : port = portOf [high, low] := by
      apply UInt16.toNat_inj.mp
      rw [toNat_portOf, value]
    rw [decoded]

theorem negotiate_ok (credentials : Credentials) (reliable : wire.Reliable) {host : String}
    {port : UInt16} :
    negotiate credentials wire = (.ok (host, port), final) ↔
      ∃ front rest, wire.unread = front ++ rest ∧
        Opening credentials.username credentials.password host port front ∧
        final = ((wire.wrote [5, 2]).wrote [1, 0]).rest rest := by
  constructor
  · intro succeeded
    obtain ⟨_, afterMethod, methodOk, authenticating⟩ := Talk.bind_ok.mp succeeded
    obtain ⟨greeting, tail, same, greeted, rfl⟩ := (negotiateMethod_ok reliable).mp methodOk
    obtain ⟨_, afterLogin, loginOk, requesting⟩ := Talk.bind_ok.mp authenticating
    obtain ⟨login, tail', more, loggedIn, rfl⟩ :=
      (authenticate_ok credentials ((reliable.wrote _).rest tail)).mp loginOk
    obtain ⟨request, rest, last, requested, rfl⟩ := readRequest_ok.mp requesting
    refine ⟨greeting ++ (login ++ request), rest, ?_,
      ⟨greeting, login, request, greeted, loggedIn, requested, rfl⟩, rfl⟩
    rw [same, show tail = _ from more, show tail' = _ from last]
    simp only [List.append_assoc]
  · rintro ⟨front, rest, same, ⟨greeting, login, request, greeted, loggedIn, requested, rfl⟩, rfl⟩
    rw [List.append_assoc, List.append_assoc] at same
    apply Talk.bind_ok.mpr
    refine ⟨(), _, (negotiateMethod_ok reliable).mpr ⟨greeting, _, same, greeted, rfl⟩, ?_⟩
    apply Talk.bind_ok.mpr
    refine ⟨(), _, (authenticate_ok credentials ((reliable.wrote _).rest _)).mpr
      ⟨login, _, rfl, loggedIn, rfl⟩, ?_⟩
    exact readRequest_ok.mpr ⟨request, rest, rfl, requested, rfl⟩

end Stages

theorem Credentials.new_ok {username password : String} {credentials : Credentials}
    (made : Credentials.new username password = .ok credentials) :
    credentials.username = username ∧ credentials.password = password := by
  unfold Credentials.new at made
  split at made
  · cases made
    exact ⟨rfl, rfl⟩
  · cases made

theorem Front.handleConnection_silent (front : Front) (overran : Option Wire)
    (dial : String → UInt16 → Option (Except TunnelError Unit)) (wire : Wire)
    (failed : overran.isSome ∨ ∀ target, (negotiate front.credentials wire).1 ≠ .ok target) :
    (front.handleConnection overran dial wire).calls = [] := by
  unfold Front.handleConnection
  cases overran with
  | some abandoned => rfl
  | none =>
    have never := failed.resolve_left (by simp)
    rcases negotiated : negotiate front.credentials wire with ⟨failure | ⟨host, port⟩, later⟩
    · rfl
    · exact absurd (congrArg Prod.fst negotiated) (never (host, port))

/-- The front takes exactly the openings its credentials admit, leaves the first
tunnelled byte unread, and makes no call for anything else. -/
theorem negotiate_iff_opening {username password : String} {credentials : Credentials}
    (made : Credentials.new username password = .ok credentials) :
    (∀ (bytes rest : List UInt8) (host : String) (port : UInt16),
      (∃ final, negotiate credentials ⟨bytes, [], fun _ => true⟩ = (.ok (host, port), final) ∧
        final.unread = rest) ↔
      ∃ front, bytes = front ++ rest ∧ Opening username password host port front) ∧
    (∀ (front : Front) (overran : Option Wire)
      (dial : String → UInt16 → Option (Except TunnelError Unit)) (wire : Wire),
      front.credentials = credentials →
      (overran.isSome ∨ ∀ target, (negotiate credentials wire).1 ≠ .ok target) →
      (front.handleConnection overran dial wire).calls = []) := by
  obtain ⟨rfl, rfl⟩ := Credentials.new_ok made
  refine ⟨?_, ?_⟩
  · intro bytes rest host port
    constructor
    · rintro ⟨final, succeeded, rfl⟩
      obtain ⟨front, tail, same, opening, rfl⟩ := (negotiate_ok credentials fun _ => rfl).mp succeeded
      exact ⟨front, same, opening⟩
    · rintro ⟨front, same, opening⟩
      exact ⟨_, (negotiate_ok credentials fun _ => rfl).mpr ⟨front, rest, same, opening, rfl⟩, rfl⟩
  · rintro front overran dial wire rfl failed
    exact front.handleConnection_silent overran dial wire failed

theorem negotiate_iff_opening_address :
    ∃ credentials final, Credentials.new "u" "p" = .ok credentials ∧
      negotiate credentials ⟨[5, 1, 2, 1, 1, 117, 1, 112, 5, 1, 0, 1, 10, 0, 0, 1, 0, 80, 71], [],
        fun _ => true⟩ = (.ok ("10.0.0.1", 80), final) ∧ final.unread = [71] := by
  let credentials : Credentials := ⟨"u", "p", by decide, by decide⟩
  have made : Credentials.new "u" "p" = .ok credentials := rfl
  have shown : Net.ipv4Text [10, 0, 0, 1] = "10.0.0.1" := by decide
  obtain ⟨final, accepted⟩ := ((negotiate_iff_opening made).1 _ [71] "10.0.0.1" 80).mpr
    ⟨[5, 1, 2] ++ ([1, 1, 117, 1, 112] ++ [5, 1, 0, 1, 10, 0, 0, 1, 0, 80]), rfl,
      [5, 1, 2], [1, 1, 117, 1, 112], [5, 1, 0, 1, 10, 0, 0, 1, 0, 80],
      ⟨1, [2], rfl, rfl, by decide, by decide⟩, ⟨1, 1, rfl, rfl, by decide, rfl⟩,
      ⟨[1, 10, 0, 0, 1], 0, 80, shown ▸ Address.ipv4 rfl, rfl, rfl⟩, rfl⟩
  exact ⟨credentials, final, made, accepted⟩

end ProxyTunnels.Socks5
