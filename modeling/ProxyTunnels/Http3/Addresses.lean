import ProxyTunnels.Http3.Sessions
import ProxyTunnels.Machine.Run
import ProxyTunnels.Net.Address

/-! The addresses of an HTTP/3 proxy, tried one after the other.

`connect_addresses` gives each address its share of what is left of the dial's deadline; the
number of shares is a length cast to 32 bits, and a duration must not be divided by zero.
Some failures make it go on to the next address and some make it return: a TLS alert, which
says the proxy was reached, but also a UDP socket or endpoint that could not be made for one
address, which says nothing about the others.
-/

set_option autoImplicit false

namespace ProxyTunnels.Http3.Addresses
open Machine
open Sessions (Http3TunnelSpec connectError providerStopped)

structure SocketAddr where
  ip : Net.IpAddr
  port : UInt16
  deriving DecidableEq, Repr

def SocketAddr.isUnspecified (address : SocketAddr) : Bool :=
  match address.ip with
  | .v4 octets => octets.all (· == 0)
  | .v6 octets => octets.all (· == 0)

inductive Attempt where
  | bindFailed
  | endpointFailed
  -- `connect_with` did not take the address.
  | misconfigured
  -- The code is there if the error is one of the transport's.
  | handshakeFailed (code : Option Nat)
  | timedOut
  | uninitialized
  | connected
  deriving DecidableEq, Repr

def Attempt.isTlsAlert : Attempt → Bool
  | .handshakeFailed (some code) => 0x100 ≤ code && code ≤ 0x1ff
  | _ => false

def Attempt.openFailure : Attempt → Option String
  | .bindFailed => some "could not bind QUIC UDP socket"
  | .endpointFailed => some "could not create QUIC endpoint"
  | .misconfigured => some "invalid QUIC endpoint configuration"
  | _ => none

def Attempt.unopened (attempt : Attempt) : Bool := attempt.openFailure.isSome

/-- The network and the clock, as the attempts find them. -/
structure Network where
  /-- The time at which the attempt at this index begins. -/
  now : Nat → Nat
  localAddr : Nat → Option SocketAddr
  /-- How the attempt at this index goes, given its own deadline. -/
  attempt : Nat → SocketAddr → Nat → Attempt
  /-- Whether the provider has been stopped when the attempt at this index has its session. -/
  stopped : Nat → Bool

/-- What `connect_addresses` returns and leaves: the address whose session it is, the
provider's source address, and how many addresses were tried. -/
structure Connected where
  result : Except TunnelError Nat
  source : Option SocketAddr
  tried : Nat

structure Clock where
  now : Nat
  index : Nat
  deriving DecidableEq, Repr

section Clock
variable (deadline count : Nat)

/-- `deadline.saturating_duration_since(now)`, in nanoseconds. -/
def Clock.remaining (clock : Clock) : Nat := deadline - clock.now

/-- `(addresses.len() - index) as u32`. -/
def Clock.divisor (clock : Clock) : UInt32 := UInt32.ofNat (count - clock.index)

/-- `attempt_deadline`. Dividing a duration by zero panics. -/
def Clock.attemptDeadline (clock : Clock) : Outcome Nat :=
  if clock.divisor count = 0 then .panicked
  else .next (clock.now + clock.remaining deadline / (clock.divisor count).toNat)

end Clock

section Loop
variable (spec : Http3TunnelSpec) (network : Network) (deadline count : Nat)

def Network.source (index : Nat) : Option SocketAddr :=
  (network.localAddr index).filter fun address => !address.isUnspecified

def Network.clock (index : Nat) : Clock := ⟨network.now index, index⟩

def Network.tries (index : Nat) (address : SocketAddr) : Outcome Attempt :=
  ((network.clock index).attemptDeadline deadline count).bind fun attemptDeadline =>
    .next (network.attempt index address attemptDeadline)

def connectLoop : List SocketAddr → Nat → TunnelError → Option SocketAddr → Outcome Connected
  | [], index, last, source => .next ⟨.error last, source, index⟩
  | address :: rest, index, _, source =>
      if (network.clock index).remaining deadline = 0 then
        .next ⟨.error (connectError spec "HTTP/3 dial deadline exceeded"), source, index⟩
      else
        (network.tries deadline count index address).bind fun attempt =>
          match attempt with
          | .bindFailed =>
              .next ⟨.error (connectError spec "could not bind QUIC UDP socket"), source, index + 1⟩
          | .endpointFailed =>
              .next ⟨.error (connectError spec "could not create QUIC endpoint"), source, index + 1⟩
          | .misconfigured =>
              .next ⟨.error (connectError spec "invalid QUIC endpoint configuration"), source, index + 1⟩
          | .handshakeFailed code =>
              if (Attempt.handshakeFailed code).isTlsAlert then
                .next ⟨.error (.http3Tls spec.host spec.port), source, index + 1⟩
              else connectLoop rest (index + 1) (connectError spec "QUIC handshake failed") source
          | .timedOut =>
              connectLoop rest (index + 1) (connectError spec "QUIC address attempt deadline exceeded") source
          -- The connection was made, so its source address is kept although the session was not.
          | .uninitialized =>
              connectLoop rest (index + 1) (connectError spec "HTTP/3 initialization failed or timed out")
                (network.source index)
          | .connected =>
              if network.stopped index then
                .next ⟨.error (providerStopped spec), network.source index, index + 1⟩
              else .next ⟨.ok index, network.source index, index + 1⟩

/-- `Http3TunnelProvider::connect_addresses`. -/
def connectAddresses (addresses : List SocketAddr) (source : Option SocketAddr) : Outcome Connected :=
  connectLoop spec network deadline addresses.length addresses 0
    (connectError spec "proxy endpoint has no addresses") source

def Network.outcomes : List SocketAddr → Nat → List (Outcome Attempt)
  | [], _ => []
  | address :: rest, index =>
      network.tries deadline count index address :: Network.outcomes rest (index + 1)

end Loop

def goesOn : Outcome Attempt → Bool
  | .next attempt => !attempt.unopened && !attempt.isTlsAlert && attempt != .connected
  | _ => false

def decides : Outcome Attempt → Bool
  | .next attempt => attempt == .connected || attempt.isTlsAlert
  | _ => false

def breaksOff : Outcome Attempt → Bool
  | .next attempt => attempt.unopened
  | _ => true

/-- The outcome at `place` is the first the loop does not go on after. -/
def FirstAt (outcomes : List (Outcome Attempt)) (place : Nat) (outcome : Outcome Attempt) : Prop :=
  outcomes[place]? = some outcome ∧
    ∀ earlier < place, ∀ before, outcomes[earlier]? = some before → goesOn before = true

/-- How the loop can end, for the outcomes from `index` on. -/
inductive Exit (spec : Http3TunnelSpec) (outcomes : List (Outcome Attempt)) (index : Nat) :
    Outcome Connected → Prop where
  | succeeded {place : Nat} {source : Option SocketAddr} {tried : Nat} :
      FirstAt outcomes place (.next .connected) →
      Exit spec outcomes index (.next ⟨.ok (index + place), source, tried⟩)
  | alerted {place : Nat} {attempt : Attempt} {source : Option SocketAddr} {tried : Nat} :
      FirstAt outcomes place (.next attempt) → attempt.isTlsAlert = true →
      Exit spec outcomes index (.next ⟨.error (.http3Tls spec.host spec.port), source, tried⟩)
  | unopened {place : Nat} {attempt : Attempt} {detail : String} {source : Option SocketAddr} :
      FirstAt outcomes place (.next attempt) → attempt.openFailure = some detail →
      Exit spec outcomes index (.next ⟨.error (connectError spec detail), source, index + place + 1⟩)
  | panicked {place : Nat} : FirstAt outcomes place .panicked → Exit spec outcomes index .panicked
  | exhausted {error : TunnelError} {source : Option SocketAddr} :
      (∀ outcome ∈ outcomes, goesOn outcome = true) →
      Exit spec outcomes index (.next ⟨.error error, source, index + outcomes.length⟩)

section Exits
variable {spec : Http3TunnelSpec} {network : Network} {deadline count : Nat}
  {outcomes : List (Outcome Attempt)} {first : Outcome Attempt} {index : Nat}

theorem firstAt_zero (outcome : Outcome Attempt) (rest : List (Outcome Attempt)) :
    FirstAt (outcome :: rest) 0 outcome :=
  ⟨rfl, nofun⟩

theorem FirstAt.succ {place : Nat} {outcome : Outcome Attempt} (here : FirstAt outcomes place outcome)
    (onward : goesOn first = true) : FirstAt (first :: outcomes) (place + 1) outcome := by
  refine ⟨here.1, ?_⟩
  intro earlier before other found
  cases earlier with
  | zero =>
    cases found
    exact onward
  | succ earlier => exact here.2 earlier (Nat.lt_of_succ_lt_succ before) other found

theorem Exit.cons {ending : Outcome Connected} (exit : Exit spec outcomes (index + 1) ending)
    (onward : goesOn first = true) : Exit spec (first :: outcomes) index ending := by
  cases exit with
  | @succeeded place source tried here =>
    rw [Nat.add_assoc, Nat.add_comm 1 place]
    exact .succeeded (here.succ onward)
  | alerted here alert => exact .alerted (here.succ onward) alert
  | @unopened place attempt detail source here failed =>
    rw [Nat.add_assoc index, Nat.add_comm 1 place]
    exact .unopened (here.succ onward) failed
  | panicked here => exact .panicked (here.succ onward)
  | @exhausted error source all =>
    rw [Nat.add_assoc, Nat.add_comm 1 outcomes.length, ← List.length_cons (a := first)]
    refine .exhausted ?_
    intro outcome member
    rcases List.mem_cons.mp member with rfl | later
    · exact onward
    · exact all outcome later

theorem tries_cases (network : Network) (deadline count index : Nat) (address : SocketAddr) :
    network.tries deadline count index address = .panicked ∨
      ∃ attempt, network.tries deadline count index address = .next attempt := by
  unfold Network.tries Clock.attemptDeadline
  split
  · exact .inl rfl
  · exact .inr ⟨_, rfl⟩

theorem connectLoop_exit (rest : List SocketAddr) (last : TunnelError) (source : Option SocketAddr)
    (inTime : ∀ place < rest.length, network.now (index + place) < deadline)
    (running : ∀ place < rest.length, network.stopped (index + place) = false) :
    Exit spec (network.outcomes deadline count rest index) index
      (connectLoop spec network deadline count rest index last source) := by
  induction rest generalizing index last source with
  | nil => exact .exhausted nofun
  | cons address rest ih =>
    have early : network.now index < deadline := inTime 0 (Nat.zero_lt_succ _)
    have alive : network.stopped index = false := running 0 (Nat.zero_lt_succ _)
    have onward : ∀ (error : TunnelError) (after : Option SocketAddr),
        Exit spec (network.outcomes deadline count rest (index + 1)) (index + 1)
          (connectLoop spec network deadline count rest (index + 1) error after) := by
      intro error after
      refine ih error after ?_ ?_
      · intro place inside
        rw [Nat.add_assoc, Nat.add_comm 1 place]
        exact inTime (place + 1) (Nat.succ_lt_succ inside)
      · intro place inside
        rw [Nat.add_assoc, Nat.add_comm 1 place]
        exact running (place + 1) (Nat.succ_lt_succ inside)
    unfold connectLoop Network.outcomes
    rw [if_neg (show (network.clock index).remaining deadline ≠ 0 from Nat.sub_ne_zero_of_lt early)]
    rcases tries_cases network deadline count index address with failed | ⟨attempt, tried⟩
    · rw [failed]
      exact .panicked (firstAt_zero _ _)
    · rw [tried]
      dsimp only [Outcome.bind]
      cases attempt with
      | bindFailed => exact .unopened (firstAt_zero _ _) rfl
      | endpointFailed => exact .unopened (firstAt_zero _ _) rfl
      | misconfigured => exact .unopened (firstAt_zero _ _) rfl
      | handshakeFailed code =>
        dsimp only
        split
        · next alert => exact .alerted (firstAt_zero _ _) alert
        · next silent =>
          refine (onward _ _).cons ?_
          simp [goesOn, Attempt.unopened, Attempt.openFailure, silent]
      | timedOut => exact (onward _ _).cons rfl
      | uninitialized => exact (onward _ _).cons rfl
      | connected =>
        dsimp only
        rw [alive, if_neg Bool.false_ne_true]
        exact .succeeded (firstAt_zero _ _)

def DecidedAt (outcomes : List (Outcome Attempt)) (place : Nat) (outcome : Outcome Attempt) : Prop :=
  outcomes[place]? = some outcome ∧ decides outcome = true ∧
    ∀ earlier < place, ∀ before, outcomes[earlier]? = some before → decides before = false

/-- An address at which the loop breaks off hides no other one: it is the last, or the dial was decided
before it. -/
def Unhidden (outcomes : List (Outcome Attempt)) : Prop :=
  ∀ place outcome, outcomes[place]? = some outcome → breaksOff outcome = true →
    place + 1 = outcomes.length ∨
      ∃ earlier < place, ∃ before, outcomes[earlier]? = some before ∧ decides before = true

theorem unhidden_of_opened (opened : ∀ outcome ∈ outcomes, breaksOff outcome = false) : Unhidden outcomes :=
  fun _ outcome found broken =>
    absurd ((opened outcome (List.mem_of_getElem? found)).symm.trans broken) Bool.false_ne_true

theorem decides_of_goesOn {outcome : Outcome Attempt} (onward : goesOn outcome = true) :
    decides outcome = false := by
  cases outcome with
  | next attempt => cases attempt <;> simp_all [goesOn, decides]
  | blocked => rfl
  | panicked => rfl

theorem decides_of_breaksOff {outcome : Outcome Attempt} (broken : breaksOff outcome = true) :
    decides outcome = false := by
  cases outcome with
  | next attempt =>
    cases attempt <;> simp_all [breaksOff, Attempt.unopened, Attempt.openFailure, decides, Attempt.isTlsAlert]
  | blocked => rfl
  | panicked => rfl

theorem not_goesOn_of_breaksOff {outcome : Outcome Attempt} (broken : breaksOff outcome = true) :
    goesOn outcome = false := by
  cases outcome with
  | next attempt => simp_all [breaksOff, goesOn]
  | blocked => rfl
  | panicked => rfl

theorem FirstAt.decidedAt {place : Nat} {outcome : Outcome Attempt} (here : FirstAt outcomes place outcome)
    (deciding : decides outcome = true) : DecidedAt outcomes place outcome :=
  ⟨here.1, deciding, fun earlier before other found =>
    decides_of_goesOn (here.2 earlier before other found)⟩

theorem FirstAt.place_le {place broken : Nat} {outcome other : Outcome Attempt}
    (here : FirstAt outcomes place outcome) (there : outcomes[broken]? = some other)
    (off : breaksOff other = true) : place ≤ broken := by
  by_contra beyond
  have onward := here.2 broken (Nat.lt_of_not_le beyond) other there
  exact Bool.false_ne_true ((not_goesOn_of_breaksOff off).symm.trans onward)

theorem DecidedAt.place_le {place other : Nat} {outcome found : Outcome Attempt}
    (here : DecidedAt outcomes place outcome) (there : DecidedAt outcomes other found) : place ≤ other := by
  by_contra beyond
  have undecided := here.2.2 other (Nat.lt_of_not_le beyond) found there.1
  exact Bool.false_ne_true (undecided.symm.trans there.2.1)

theorem DecidedAt.unique {place other : Nat} {outcome found : Outcome Attempt}
    (here : DecidedAt outcomes place outcome) (there : DecidedAt outcomes other found) :
    place = other ∧ outcome = found := by
  have same : place = other := Nat.le_antisymm (here.place_le there) (there.place_le here)
  subst same
  exact ⟨rfl, Option.some.inj (here.1.symm.trans there.1)⟩

theorem FirstAt.undecided {place : Nat} {outcome : Outcome Attempt} (here : FirstAt outcomes place outcome)
    (broken : breaksOff outcome = true) (unhidden : Unhidden outcomes) :
    place + 1 = outcomes.length ∧ ∀ outcome ∈ outcomes, decides outcome = false := by
  rcases unhidden place outcome here.1 broken with final | ⟨earlier, before, other, found, deciding⟩
  · refine ⟨final, ?_⟩
    intro other member
    obtain ⟨position, found⟩ := List.mem_iff_getElem?.mp member
    have inside : position < outcomes.length := (List.getElem?_eq_some_iff.mp found).1
    rcases Nat.lt_or_eq_of_le (Nat.le_of_lt_succ (final ▸ inside)) with before | rfl
    · exact decides_of_goesOn (here.2 position before other found)
    · cases Option.some.inj (here.1.symm.trans found)
      exact decides_of_breaksOff broken
  · have undecided := decides_of_goesOn (here.2 earlier before other found)
    exact absurd (undecided.symm.trans deciding) Bool.false_ne_true

theorem not_decidedAt (undecided : ∀ outcome ∈ outcomes, decides outcome = false) {place : Nat}
    {outcome : Outcome Attempt} : ¬ DecidedAt outcomes place outcome := by
  intro here
  have unsettled := undecided outcome (List.mem_of_getElem? here.1)
  exact Bool.false_ne_true (unsettled.symm.trans here.2.1)

/-- The session is that of the first address that gives one unless an earlier one rejects the dial, and any
other error comes after every address has failed. -/
def TriesAll (spec : Http3TunnelSpec) (outcomes : List (Outcome Attempt)) (connected : Connected) : Prop :=
  (∀ index, connected.result = .ok index ↔ DecidedAt outcomes index (.next .connected)) ∧
    ∀ error, connected.result = .error error →
      (error = .http3Tls spec.host spec.port ∧
          ∃ place attempt, DecidedAt outcomes place (.next attempt) ∧ attempt.isTlsAlert = true) ∨
        (connected.tried = outcomes.length ∧ ∀ outcome ∈ outcomes, decides outcome = false)

theorem triesAll_of_undecided {error : TunnelError} {source : Option SocketAddr}
    (undecided : ∀ outcome ∈ outcomes, decides outcome = false) :
    TriesAll spec outcomes ⟨.error error, source, outcomes.length⟩ :=
  ⟨fun _ => ⟨nofun, fun here => absurd here (not_decidedAt undecided)⟩, fun _ _ => .inr ⟨rfl, undecided⟩⟩

theorem Exit.triesAll {ending : Outcome Connected} (exit : Exit spec outcomes 0 ending)
    (shared : ∀ place : Nat, outcomes[place]? = some .panicked → place + 1 ≠ outcomes.length)
    (unhidden : Unhidden outcomes) : ∃ connected, ending = .next connected ∧ TriesAll spec outcomes connected := by
  cases exit with
  | @succeeded place source tried here =>
    have decided : DecidedAt outcomes place (.next .connected) := here.decidedAt rfl
    refine ⟨_, rfl, ?_, nofun⟩
    intro index
    rw [Nat.zero_add]
    constructor
    · rintro ⟨⟩
      exact decided
    · intro there
      rw [(decided.unique there).1]
  | @alerted place attempt source tried here alert =>
    have decided : DecidedAt outcomes place (.next attempt) := here.decidedAt (by simp [decides, alert])
    refine ⟨_, rfl, ?_, ?_⟩
    · intro index
      refine ⟨nofun, ?_⟩
      intro there
      cases (decided.unique there).2
      exact absurd alert Bool.false_ne_true
    · rintro error ⟨⟩
      exact .inl ⟨rfl, place, attempt, decided, alert⟩
  | @unopened place attempt detail source here failed =>
    have broken : breaksOff (.next attempt) = true := by simp [breaksOff, Attempt.unopened, failed]
    obtain ⟨final, undecided⟩ := here.undecided broken unhidden
    refine ⟨_, rfl, ?_⟩
    rw [Nat.zero_add, final]
    exact triesAll_of_undecided undecided
  | panicked here => exact absurd (here.undecided rfl unhidden).1 (shared _ here.1)
  | exhausted all =>
    refine ⟨_, rfl, ?_⟩
    rw [Nat.zero_add]
    exact triesAll_of_undecided fun outcome member => decides_of_goesOn (all outcome member)

theorem Exit.unhidden {connected : Connected} (exit : Exit spec outcomes 0 (.next connected))
    (all : TriesAll spec outcomes connected) : Unhidden outcomes := by
  intro broken other there off
  by_contra hidden
  obtain ⟨notLast, undecided⟩ := not_or.mp hidden
  have inside : broken < outcomes.length := (List.getElem?_eq_some_iff.mp there).1
  have decided : ∀ {place outcome}, FirstAt outcomes place outcome → decides outcome = true → False := by
    intro place outcome here deciding
    rcases Nat.lt_or_eq_of_le (here.place_le there off) with before | rfl
    · exact undecided ⟨place, before, outcome, here.1, deciding⟩
    · cases Option.some.inj (here.1.symm.trans there)
      exact Bool.false_ne_true ((decides_of_breaksOff off).symm.trans deciding)
  cases exit with
  | succeeded here => exact decided here rfl
  | alerted here alert => exact decided here (by simp [decides, alert])
  | @unopened place attempt detail source here failed =>
    have reached := here.place_le there off
    rcases all.2 _ rfl with ⟨rejected, -⟩ | ⟨tried, -⟩
    · cases rejected
    · dsimp only at tried
      omega
  | exhausted onward =>
    have onward := onward other (List.mem_of_getElem? there)
    exact Bool.false_ne_true ((not_goesOn_of_breaksOff off).symm.trans onward)

theorem Network.length_outcomes (network : Network) (rest : List SocketAddr) (index : Nat) :
    (network.outcomes deadline count rest index).length = rest.length := by
  induction rest generalizing index with
  | nil => rfl
  | cons address rest ih => exact congrArg (· + 1) (ih (index + 1))

theorem Network.last_shared (network : Network) (rest : List SocketAddr) (index : Nat)
    (counted : index + rest.length = count) {place : Nat}
    (failed : (network.outcomes deadline count rest index)[place]? = some .panicked) : place + 1 ≠ rest.length := by
  induction rest generalizing index place with
  | nil => cases failed
  | cons address rest ih =>
    rw [List.length_cons] at counted ⊢
    cases place with
    | zero =>
      intro last
      have single : count - index = 1 := by omega
      have undivided : (network.clock index).divisor count ≠ 0 := by
        unfold Network.clock Clock.divisor
        dsimp only
        rw [single]
        decide
      have tried : network.tries deadline count index address = .panicked := Option.some.inj failed
      simp [Network.tries, Clock.attemptDeadline, undivided, Outcome.bind] at tried
    | succ place =>
      have later := ih (index + 1) (by omega) failed
      omega

end Exits

/-- In time and while the provider runs, the dial is decided by the first address that gives a
session or a TLS alert, and any other error comes after every address has failed, exactly if no
address is hidden behind one at which the loop breaks off. -/
theorem every_address_is_tried (spec : Http3TunnelSpec) (network : Network) (deadline : Nat)
    (addresses : List SocketAddr) (source : Option SocketAddr)
    (inTime : ∀ index < addresses.length, network.now index < deadline)
    (running : ∀ index < addresses.length, network.stopped index = false) :
    (∃ connected, connectAddresses spec network deadline addresses source = .next connected ∧
      TriesAll spec (network.outcomes deadline addresses.length addresses 0) connected) ↔
      Unhidden (network.outcomes deadline addresses.length addresses 0) := by
  have exit : Exit spec (network.outcomes deadline addresses.length addresses 0) 0
      (connectAddresses spec network deadline addresses source) :=
    connectLoop_exit addresses _ source (by simpa using inTime) (by simpa using running)
  constructor
  · rintro ⟨connected, ended, all⟩
    rw [ended] at exit
    exact exit.unhidden all
  · refine exit.triesAll ?_
    intro place failed
    rw [network.length_outcomes]
    exact network.last_shared addresses 0 (Nat.zero_add _) failed

def dualStack : List SocketAddr := [⟨.v6 (Vector.replicate 16 1), 443⟩, ⟨.v4 (Vector.replicate 4 1), 443⟩]

def answeringIpv4 (ipv6 : Attempt) : Network where
  now _ := 0
  localAddr _ := none
  attempt _ address _ := if address.ip.isIpv4 then .connected else ipv6
  stopped _ := false

theorem answeringIpv4_decidedAt {ipv6 : Attempt} (undecided : decides (.next ipv6) = false) :
    DecidedAt ((answeringIpv4 ipv6).outcomes 8 dualStack.length dualStack 0) 1 (.next .connected) := by
  refine ⟨rfl, rfl, ?_⟩
  intro earlier before other found
  cases Nat.lt_one_iff.mp before
  cases found
  exact undecided

theorem every_address_is_tried_after_failed_handshake :
    ∃ connected, connectAddresses ⟨"proxy", 443, 0⟩ (answeringIpv4 (.handshakeFailed none)) 8 dualStack none =
      .next connected ∧ connected.result = .ok 1 := by
  have tried := every_address_is_tried ⟨"proxy", 443, 0⟩ (answeringIpv4 (.handshakeFailed none)) 8 dualStack
    none (fun _ _ => Nat.zero_lt_succ 7) (fun _ _ => rfl)
  obtain ⟨connected, ended, all⟩ := tried.mpr (unhidden_of_opened (by decide))
  exact ⟨connected, ended, (all.1 1).mpr (answeringIpv4_decidedAt rfl)⟩

/-- On a host without IPv6 the first address cannot be bound, and the dial fails there although
the deadline is far, the provider runs and the second address would have given the session. -/
theorem unbindable_address_hides_the_next :
    (∀ index < dualStack.length, (answeringIpv4 .bindFailed).now index < 8) ∧
      (∀ index < dualStack.length, (answeringIpv4 .bindFailed).stopped index = false) ∧
      DecidedAt ((answeringIpv4 .bindFailed).outcomes 8 dualStack.length dualStack 0) 1 (.next .connected) ∧
      connectAddresses ⟨"proxy", 443, 0⟩ (answeringIpv4 .bindFailed) 8 dualStack none =
        .next ⟨.error (connectError ⟨"proxy", 443, 0⟩ "could not bind QUIC UDP socket"), none, 1⟩ := by
  exact ⟨fun _ _ => Nat.zero_lt_succ 7, fun _ _ => rfl, answeringIpv4_decidedAt rfl, rfl⟩

end ProxyTunnels.Http3.Addresses
