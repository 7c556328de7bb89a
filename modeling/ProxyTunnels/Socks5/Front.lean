import Mathlib.Data.List.Infix
import ProxyTunnels.Error
import ProxyTunnels.Machine.Conversation
import ProxyTunnels.Net.Address

/-! The SOCKS5 front: negotiation with the local peer, then the dial it asked for.

`negotiate` is one function in the source; its method, authentication and request
stages are separate definitions here, run in the same order on the same wire.
-/

set_option autoImplicit false

namespace ProxyTunnels.Socks5
open Machine

def socks5Version : UInt8 := 0x05
def methodPassword : UInt8 := 0x02
def methodNoneAcceptable : UInt8 := 0xff
def cmdConnect : UInt8 := 0x01
def atypIpv4 : UInt8 := 0x01
def atypDomain : UInt8 := 0x03
def atypIpv6 : UInt8 := 0x04

def replySucceeded : UInt8 := 0x00
def replyGeneralFailure : UInt8 := 0x01
def replyHostUnreachable : UInt8 := 0x04
def replyConnectionRefused : UInt8 := 0x05
def replyCommandNotSupported : UInt8 := 0x07
def replyAddressTypeNotSupported : UInt8 := 0x08

/-- The bytes of a string, as `as_bytes`. -/
def utf8 (text : String) : List UInt8 := text.toByteArray.data.toList

/-- `Socks5Credentials`. Both parts fit a length byte and neither is empty. -/
structure Credentials where
  username : String
  password : String
  username_length : 1 ≤ (utf8 username).length ∧ (utf8 username).length ≤ 255
  password_length : 1 ≤ (utf8 password).length ∧ (utf8 password).length ≤ 255

/-- `Socks5Credentials::new`. -/
def Credentials.new (username password : String) : Except TunnelError Credentials :=
  if fits : (1 ≤ (utf8 username).length ∧ (utf8 username).length ≤ 255) ∧
      1 ≤ (utf8 password).length ∧ (utf8 password).length ≤ 255 then
    .ok ⟨username, password, fits.1, fits.2⟩
  else .error (.configuration "invalid internal SOCKS credential length")

/-- `Socks5Failure`. -/
inductive Failure where
  | io (error : WireError)
  | protocol (reason : String)
  | dial (error : TunnelError)
  deriving DecidableEq, Repr

abbrev Exchange := Talk Failure

def readExact (count : Nat) : Exchange (List UInt8) := Talk.readExact Failure.io count

def writeAll (bytes : List UInt8) : Exchange Unit := Talk.writeAll Failure.io bytes

def refuse (reason : String) : Exchange Unit := Talk.fail (.protocol reason)

def byteAt (bytes : List UInt8) (index : Nat) : UInt8 := bytes.getD index 0

def reply (code : UInt8) : Exchange Unit :=
  writeAll [socks5Version, code, 0x00, atypIpv4, 0, 0, 0, 0, 0, 0]

def negotiateMethod : Exchange Unit := do
  let greeting ← readExact 2
  Talk.require (byteAt greeting 0 == socks5Version) (refuse "peer is not speaking SOCKS5")
  let methodCount := (byteAt greeting 1).toNat
  Talk.require (methodCount != 0) (do
    writeAll [socks5Version, methodNoneAcceptable]
    refuse "peer offered no auth methods")
  let methods ← readExact methodCount
  Talk.require (methods.contains methodPassword) (do
    writeAll [socks5Version, methodNoneAcceptable]
    refuse "authentication is required")
  writeAll [socks5Version, methodPassword]

def authenticate (credentials : Credentials) : Exchange Unit := do
  let auth ← readExact 2
  Talk.require (byteAt auth 0 == 1 && byteAt auth 1 != 0) (do
    writeAll [1, 1]
    refuse "invalid authentication")
  let username ← readExact (byteAt auth 1).toNat
  let passwordLen ← readExact 1
  let password ← readExact (byteAt passwordLen 0).toNat
  Talk.require (username == utf8 credentials.username && password == utf8 credentials.password) (do
    writeAll [1, 1]
    refuse "authentication failed")
  writeAll [1, 0]

/-- `String::from_utf8` on a destination name. -/
def decodeName (name : List UInt8) : Exchange String :=
  match String.fromUTF8? ⟨name.toArray⟩ with
  | some name => pure name
  | none => do
    Talk.ignore (reply replyGeneralFailure)
    Talk.fail (.protocol "destination name is not UTF-8")

def readName : Exchange String := do
  let length ← readExact 1
  Talk.require (byteAt length 0 != 0) (do
    Talk.ignore (reply replyGeneralFailure)
    refuse "empty destination name")
  let name ← readExact (byteAt length 0).toNat
  decodeName name

def readHost (atyp : UInt8) : Exchange String :=
  if atyp = atypIpv4 then do
    let octets ← readExact 4
    pure (Net.ipv4Text octets)
  else if atyp = atypIpv6 then do
    let octets ← readExact 16
    pure (Net.ipv6Text octets)
  else if atyp = atypDomain then readName
  else do
    Talk.ignore (reply replyAddressTypeNotSupported)
    Talk.fail (.protocol "unsupported address type")

/-- `u16::from_be_bytes`. -/
def portOf (bytes : List UInt8) : UInt16 :=
  UInt16.ofNat ((byteAt bytes 0).toNat * 256 + (byteAt bytes 1).toNat)

def readRequest : Exchange (String × UInt16) := do
  let request ← readExact 4
  Talk.require (byteAt request 0 == socks5Version) (refuse "request is not SOCKS5")
  Talk.require (byteAt request 2 == 0) (refuse "invalid reserved byte")
  Talk.require (byteAt request 1 == cmdConnect) (do
    Talk.ignore (reply replyCommandNotSupported)
    refuse "only CONNECT is supported")
  let host ← readHost (byteAt request 3)
  let port ← readExact 2
  pure (host, portOf port)

/-- `Socks5Front::negotiate`. -/
def negotiate (credentials : Credentials) : Exchange (String × UInt16) := do
  negotiateMethod
  authenticate credentials
  readRequest

inductive Call where
  | dial (host : String) (port : UInt16)
  | tunnelDialFailed (proxyConfigId message : String)
  | tunnelDialSucceeded (proxyConfigId : String)
  deriving DecidableEq, Repr

def replyCodeFor : TunnelError → UInt8
  | .dial _ _ detail =>
      if "ConnectFailed".toList <:+: detail.toList then replyConnectionRefused
      else replyHostUnreachable
  | _ => replyGeneralFailure

structure Front where
  proxyConfigId : String
  credentials : Credentials

/-- How one connection went: its result, the wire it left and the calls it made. A
connection that succeeds goes on to copy bytes both ways from that wire. -/
structure Served where
  result : Except Failure Unit
  wire : Wire
  calls : List Call

def Front.dialFailed (front : Front) (wire : Wire) (host : String) (port : UInt16)
    (error : TunnelError) (code : UInt8) : Served :=
  ⟨.error (.dial error), (reply code wire).2,
    [.dial host port, .tunnelDialFailed front.proxyConfigId error.display]⟩

/-- `Socks5Front::handle_connection`. `overran` is the wire a negotiation that ran out
of its budget was abandoned with; `dial` answers the provider's dial, `none` when the
answer does not come in time. -/
def Front.handleConnection (front : Front) (overran : Option Wire)
    (dial : String → UInt16 → Option (Except TunnelError Unit)) (wire : Wire) : Served :=
  match overran with
  | some abandoned => ⟨.error (.protocol "peer did not finish the handshake"), abandoned, []⟩
  | none =>
    match negotiate front.credentials wire with
    | (.error failure, later) => ⟨.error failure, later, []⟩
    | (.ok (host, port), later) =>
      match dial host port with
      | some (.ok ()) =>
          let (result, last) := reply replySucceeded later
          ⟨result, last, [.dial host port, .tunnelDialSucceeded front.proxyConfigId]⟩
      | some (.error error) => front.dialFailed later host port error (replyCodeFor error)
      | none => front.dialFailed later host port
          (.dial host port "the tunnel did not answer in time") replyHostUnreachable

end ProxyTunnels.Socks5
