import Mathlib.Data.List.TakeWhile

/-! The authority of a URI: user information, host and port.

An authority ends at the first slash, question mark or hash; what stands before an at sign
is user information; a host in brackets is an IP literal and may contain colons, and any
other host ends at the first colon.
-/

set_option autoImplicit false

namespace ProxyTunnels.Net

structure Authority where
  userinfo : Option (List Char)
  literal : Bool
  host : List Char
  port : Nat
  rest : List Char
  deriving DecidableEq, Repr

section Reading

def endsAuthority (c : Char) : Bool := c == '/' || c == '?' || c == '#'

def readPort (digits : List Char) : Option Nat :=
  if digits ≠ [] ∧ digits.all Char.isDigit then some (Nat.ofDigitChars 10 digits 0) else none

/-- `host ":" port`: whether the host is an IP literal, the host and the port. -/
def readHostPort : List Char → Option (Bool × List Char × Nat)
  | '[' :: literal =>
      match literal.dropWhile (· != ']') with
      | ']' :: ':' :: digits =>
          (readPort digits).map fun port => (true, literal.takeWhile (· != ']'), port)
      | _ => none
  | text =>
      match text.dropWhile (· != ':') with
      | ':' :: digits => (readPort digits).map fun port => (false, text.takeWhile (· != ':'), port)
      | _ => none

def splitUserinfo (authority : List Char) : Option (List Char) × List Char :=
  match authority.dropWhile (· != '@') with
  | '@' :: after => (some (authority.takeWhile (· != '@')), after)
  | _ => (none, authority)

def readAuthority (text : List Char) : Option Authority :=
  let (userinfo, hostPort) := splitUserinfo (text.takeWhile fun c => !endsAuthority c)
  (readHostPort hostPort).map fun (literal, host, port) =>
    ⟨userinfo, literal, host, port, text.dropWhile fun c => !endsAuthority c⟩

end Reading

section RoundTrip

def Inside (c : Char) : Prop := endsAuthority c = false ∧ c ≠ '@'

theorem readPort_repr (port : Nat) : readPort port.repr.toList = some port := by
  have digits : ∀ c ∈ Nat.toDigits 10 port, c.isDigit = true :=
    fun c member => Nat.isDigit_of_mem_toDigits (by decide) (by decide) member
  have some : Nat.toDigits 10 port ≠ [] := Nat.toDigits_ne_nil
  unfold readPort
  rw [Nat.toList_repr, if_pos ⟨some, List.all_eq_true.mpr digits⟩,
    Nat.ofDigitChars_toDigits (by decide) (by decide)]

theorem takeWhile_until {p : Char → Bool} {before : List Char} (run : ∀ c ∈ before, p c = true) {stop : Char}
    (ends : p stop = false) (after : List Char) :
    (before ++ stop :: after).takeWhile p = before ∧ (before ++ stop :: after).dropWhile p = stop :: after := by
  rw [List.takeWhile_append_of_pos run, List.dropWhile_append_of_pos run]
  simp [ends]

theorem readHostPort_name {host : List Char} (plain : ∀ c ∈ host, c ≠ ':' ∧ c ≠ '[') (port : Nat) :
    readHostPort (host ++ ':' :: port.repr.toList) = some (false, host, port) := by
  have run : ∀ c ∈ host, (c != ':') = true := fun c member => bne_iff_ne.mpr (plain c member).1
  have ends : (':' != ':') = false := rfl
  obtain ⟨taken, dropped⟩ := takeWhile_until run ends port.repr.toList
  unfold readHostPort
  split
  · next literal shape =>
    cases host with
    | nil => cases shape
    | cons c rest =>
      cases shape
      exact absurd rfl (plain '[' List.mem_cons_self).2
  · simp only [dropped, taken, readPort_repr, Option.map_some]

theorem readHostPort_literal {host : List Char} (plain : ∀ c ∈ host, c ≠ ']') (port : Nat) :
    readHostPort ('[' :: (host ++ ']' :: ':' :: port.repr.toList)) = some (true, host, port) := by
  have run : ∀ c ∈ host, (c != ']') = true := fun c member => bne_iff_ne.mpr (plain c member)
  have ends : (']' != ']') = false := rfl
  obtain ⟨taken, dropped⟩ := takeWhile_until run ends (':' :: port.repr.toList)
  simp only [readHostPort, dropped, taken, readPort_repr, Option.map_some]

theorem splitUserinfo_inside {text : List Char} (inside : ∀ c ∈ text, Inside c) :
    splitUserinfo text = (none, text) := by
  have none : text.dropWhile (· != '@') = [] :=
    List.dropWhile_eq_nil_iff.mpr fun c member => bne_iff_ne.mpr (inside c member).2
  simp only [splitUserinfo, none]

theorem readAuthority_inside {text : List Char} (inside : ∀ c ∈ text, Inside c) :
    readAuthority text = (readHostPort text).map fun (literal, host, port) => ⟨none, literal, host, port, []⟩ := by
  have run : ∀ c ∈ text, (!endsAuthority c) = true := fun c member => by simp [(inside c member).1]
  have taken : text.takeWhile (fun c => !endsAuthority c) = text := List.takeWhile_eq_self_iff.mpr run
  have dropped : text.dropWhile (fun c => !endsAuthority c) = [] := List.dropWhile_eq_nil_iff.mpr run
  simp only [readAuthority, taken, dropped, splitUserinfo_inside inside]

end RoundTrip

end ProxyTunnels.Net
