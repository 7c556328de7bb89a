import ProxyTunnels.Wireguard.Spec

/-! The key check made when a configuration is saved, against the one made when it connects.

Both refuse keys that do not parse and a peer that is the tunnel itself. A key of zeroes is
refused on connecting only: pasted as text it parses, so a configuration that was saved may
still never connect.
-/

set_option autoImplicit false

namespace ProxyTunnels.Wireguard
open Net

variable {keys : KeyFunctions} {privateKey peerPublicKey : String} {presharedKey : Option String}

def givenPreshared (presharedKey : Option String) : Option String := presharedKey.filter (trim · != "")

def presharedOf (keys : KeyFunctions) (presharedKey : Option String) : Option Key :=
  (givenPreshared presharedKey).bind fun text => (parseKey keys text).toOption

def WireGuardSpec.withKeys (spec : WireGuardSpec) (own peer : Key) (preshared : Option Key) : WireGuardSpec :=
  { spec with privateKey := own, peerPublicKey := peer, presharedKey := preshared }

theorem parseKey_trim (text : String) : parseKey keys (trim text) = parseKey keys text := by
  simp only [parseKey, trim_trim]

theorem mapError_ok {α : Type} {result : Except TunnelError α} {change : TunnelError → TunnelError} {value : α} :
    result.mapError change = .ok value ↔ result = .ok value := by
  cases result <;> simp [Except.mapError]

theorem checkPreshared_ok :
    checkPreshared keys presharedKey = .ok () ↔
      ∀ text, givenPreshared presharedKey = some text → ∃ key, parseKey keys text = .ok key := by
  cases presharedKey with
  | none => simp [checkPreshared, givenPreshared]
  | some text =>
    by_cases blank : trim text = ""
    · simp [checkPreshared, givenPreshared, blank, Option.filter]
    · simp only [checkPreshared, givenPreshared, Option.map_some, Option.filter_some, bne_iff_ne, ne_eq, blank,
        not_false_eq_true, if_true, parseKey_trim, Option.some.injEq, forall_eq']
      cases parseKey keys text <;> simp [Except.mapError, Except.map]

theorem validateWireguardKeys_ok :
    validateWireguardKeys keys privateKey peerPublicKey presharedKey = .ok () ↔
      ∃ own peer, parseKey keys privateKey = .ok own ∧ parseKey keys peerPublicKey = .ok peer ∧
        (∀ text, givenPreshared presharedKey = some text → ∃ key, parseKey keys text = .ok key) ∧
        keys.notOwn own peer = true := by
  unfold validateWireguardKeys
  simp only [bind_ok, mapError_ok, Unique.exists_iff, require_ok]
  constructor
  · rintro ⟨own, readOwn, peer, readPeer, preshared, notOwn⟩
    exact ⟨own, peer, readOwn, readPeer, checkPreshared_ok.mp preshared, notOwn⟩
  · rintro ⟨own, peer, readOwn, readPeer, preshared, notOwn⟩
    exact ⟨own, readOwn, peer, readPeer, checkPreshared_ok.mpr preshared, notOwn⟩

/-- Keys that could be saved are not zeroes. -/
def NonzeroIfSaved (keys : KeyFunctions) (privateKey peerPublicKey : String) (presharedKey : Option String) : Prop :=
  ∀ own peer, parseKey keys privateKey = .ok own → parseKey keys peerPublicKey = .ok peer →
    (∀ text, givenPreshared presharedKey = some text → ∃ key, parseKey keys text = .ok key) →
    keys.notOwn own peer = true → own ≠ zeroKey ∧ peer ≠ zeroKey

/-- What may be saved is what may connect (the texts parse and any otherwise valid configuration with the
parsed keys is accepted) exactly if no key that passes all other checks is one of zeroes. -/
theorem key_checks_agree (keys : KeyFunctions) (spec : WireGuardSpec) (placed : spec.Placed)
    (privateKey peerPublicKey : String) (presharedKey : Option String) :
    (validateWireguardKeys keys privateKey peerPublicKey presharedKey = .ok () ↔
      ∃ own peer, parseKey keys privateKey = .ok own ∧ parseKey keys peerPublicKey = .ok peer ∧
        (∀ text, givenPreshared presharedKey = some text → ∃ key, parseKey keys text = .ok key) ∧
        (spec.withKeys own peer (presharedOf keys presharedKey)).validate keys = .ok ()) ↔
      NonzeroIfSaved keys privateKey peerPublicKey presharedKey := by
  rw [validateWireguardKeys_ok]
  constructor
  · intro agree own peer readOwn readPeer preshared notOwn
    obtain ⟨_, _, again, also, -, accepted⟩ := agree.mp ⟨own, peer, readOwn, readPeer, preshared, notOwn⟩
    cases readOwn.symm.trans again
    cases readPeer.symm.trans also
    obtain ⟨-, keyed⟩ := validate_ok.mp accepted
    exact ⟨keyed.privateKey, keyed.peerPublicKey⟩
  · intro nonzero
    constructor
    · rintro ⟨own, peer, readOwn, readPeer, preshared, notOwn⟩
      obtain ⟨ownNonzero, peerNonzero⟩ := nonzero own peer readOwn readPeer preshared notOwn
      refine ⟨own, peer, readOwn, readPeer, preshared, validate_ok.mpr ⟨?_, ownNonzero, peerNonzero, notOwn⟩⟩
      exact ⟨placed.1, placed.2, placed.3, placed.4⟩
    · rintro ⟨own, peer, readOwn, readPeer, preshared, accepted⟩
      exact ⟨own, peer, readOwn, readPeer, preshared, (validate_ok.mp accepted).2.notOwn⟩

def invertingKeys : KeyFunctions := ⟨Base64.encode, Base64.decode, fun key => key.map (255 - ·)⟩

def onesKeyText : String := "AQEBAQEBAQEBAQEBAQEBAQEBAQEBAQEBAQEBAQEBAQE="

def zeroKeyText : String := "AAAAAAAAAAAAAAAAAAAAAAAAAAAAAAAAAAAAAAAAAAA="

def onesKey : Key := Vector.replicate 32 1

theorem onesKeyText_parsed : parseKey invertingKeys onesKeyText = .ok onesKey := by decide +kernel

theorem zeroKeyText_parsed : parseKey invertingKeys zeroKeyText = .ok zeroKey := by decide +kernel

def tunnelAddress : IpCidr := ⟨.v4 #v[10, 6, 0, 2], 32⟩

def keylessSpec : WireGuardSpec :=
  ⟨"vpn.test", 51820, zeroKey, zeroKey, none, [tunnelAddress], [], 1280⟩

theorem keylessSpec_placed : keylessSpec.Placed := by
  refine ⟨?_, ?_, ?_, ?_, ?_⟩
  all_goals decide +kernel

theorem key_checks_agree_ones :
    validateWireguardKeys invertingKeys onesKeyText onesKeyText none = .ok () ∧
      ∃ own peer, (keylessSpec.withKeys own peer none).validate invertingKeys = .ok () := by
  have saved : validateWireguardKeys invertingKeys onesKeyText onesKeyText none = .ok () :=
    validateWireguardKeys_ok.mpr ⟨_, _, onesKeyText_parsed, onesKeyText_parsed, nofun, by decide +kernel⟩
  have nonzero : NonzeroIfSaved invertingKeys onesKeyText onesKeyText none := by
    intro own peer readOwn readPeer _ _
    cases onesKeyText_parsed.symm.trans readOwn
    cases onesKeyText_parsed.symm.trans readPeer
    exact ⟨by decide, by decide⟩
  obtain ⟨own, peer, -, -, -, accepted⟩ :=
    ((key_checks_agree invertingKeys keylessSpec keylessSpec_placed onesKeyText onesKeyText none).mpr nonzero).mp
      saved
  exact ⟨saved, own, peer, accepted⟩

theorem validate_zeroKey {spec : WireGuardSpec} (placed : spec.Placed) (zero : spec.privateKey = zeroKey) :
    spec.validate keys = .error (.configuration "the tunnel has no private key") := by
  obtain ⟨host, port, addresses, least, most⟩ := placed
  simp [WireGuardSpec.validate, require, bind, Except.bind, host, port, addresses, least, most, zero]

/-- A private key of zeroes is saved, and then refused on every connect. -/
theorem zero_key_saved_and_refused :
    validateWireguardKeys invertingKeys zeroKeyText onesKeyText none = .ok () ∧
      parseKey invertingKeys zeroKeyText = .ok zeroKey ∧
      ∀ peer preshared, (keylessSpec.withKeys zeroKey peer preshared).validate invertingKeys =
        .error (.configuration "the tunnel has no private key") := by
  refine ⟨?_, zeroKeyText_parsed, fun peer preshared => ?_⟩
  · exact validateWireguardKeys_ok.mpr ⟨_, _, zeroKeyText_parsed, onesKeyText_parsed, nofun, by decide +kernel⟩
  · obtain ⟨host, port, addresses, mtu⟩ := keylessSpec_placed
    exact validate_zeroKey ⟨host, port, addresses, mtu⟩ rfl

end ProxyTunnels.Wireguard
