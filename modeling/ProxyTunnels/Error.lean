import Mathlib.Data.List.Basic

/-! Every way a tunnel can refuse to carry traffic, with its operator-facing text. -/

set_option autoImplicit false

namespace ProxyTunnels

/-- `TunnelError`. A full tunnel names its wake-up signal; `SlotFreed` equals only
itself, so the signal is an identity here. -/
inductive TunnelError where
  | configuration (message : String)
  | hostKeyMismatch (host : String) (port : UInt16) (expected actual : String)
  | connect (host : String) (port : UInt16) (detail : String)
  | auth (username host : String) (port : UInt16) (detail : String)
  | dial (host : String) (port : UInt16) (detail : String)
  | wireGuardConnect (host : String) (port : UInt16) (detail : String)
  | http3Connect (host : String) (port : UInt16) (detail : String)
  | http3Tls (host : String) (port : UInt16)
  | http3ProxyStatus (status : UInt16)
  | atCapacity (opened : Nat) (freed : Nat)
  | engine (message : String)
  deriving DecidableEq, Repr

/-- The `Display` text, as the error attributes spell it. -/
def TunnelError.display : TunnelError → String
  | .configuration message => message
  | .hostKeyMismatch host port expected actual =>
      s!"host key changed for {host}:{port}: pinned {expected}, server offered {actual}; " ++
        "verify the server and reset the pinned host key if the change was expected"
  | .connect host port detail => s!"could not establish an SSH session to {host}:{port}: {detail}"
  | .auth username host port detail =>
      s!"SSH authentication failed for {username}@{host}:{port}: {detail}"
  | .dial host port detail => s!"tunnel could not reach {host}:{port}: {detail}"
  | .wireGuardConnect host port detail =>
      s!"could not establish a WireGuard tunnel to {host}:{port}: {detail}"
  | .http3Connect host port detail =>
      s!"could not establish HTTP/3 CONNECT to {host}:{port}: {detail}"
  | .http3Tls host port => s!"HTTP/3 proxy TLS authentication failed for {host}:{port}"
  | .http3ProxyStatus status => s!"HTTP/3 proxy refused CONNECT with HTTP {status}"
  | .atCapacity opened _ => s!"the tunnel is full, with {opened} open"
  | .engine message => s!"tunnel engine unavailable: {message}"

end ProxyTunnels
