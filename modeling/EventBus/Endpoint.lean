import EventBus.Address.Ipv6
import EventBus.Text.Blank
import EventBus.Text.Cut

/-!
# Endpoints

Where a subscriber listens: a numeric address with a port behind `tcp://`, or the path of a local
socket behind `ipc://` or `unix://`. White space around the text does not count, and an address may be
spelled in any way that needs no look-up. An endpoint is written in a normal form, which reads back as
the same endpoint.
-/

namespace EventBus

/-- A numeric address with a port. -/
inductive SocketAddress where
  | v4 (ip : Address.Ipv4) (port : UInt16)
  /-- An IPv6 address with its scope, zero for none. -/
  | v6 (ip : Address.Ipv6) (scope : UInt32) (port : UInt16)
  deriving DecidableEq

namespace SocketAddress

/-- The port behind a colon, which must fill the rest of the text. -/
def portAfterColon? : List Char → Option UInt16
  | ':' :: rest => Address.port? rest
  | _ => none

def ofV4? (cs : List Char) : Option SocketAddress := do
  let (ip, rest) ← Address.Ipv4.read? cs
  return .v4 ip (← portAfterColon? rest)

/-- The scope behind a percent sign at the front, zero without one, and the text behind it. -/
def scope? : List Char → Option (UInt32 × List Char)
  | '%' :: rest => (Address.number? 10 none true UInt32.size rest).map fun (n, rest) => (UInt32.ofNat n, rest)
  | cs => some (0, cs)

def ofV6? : List Char → Option SocketAddress
  | '[' :: cs => do
    let (ip, rest) ← Address.Ipv6.read? cs
    let (scope, rest) ← scope? rest
    match rest with
    | ']' :: rest => return .v6 ip scope (← portAfterColon? rest)
    | _ => none
  | _ => none

/-- The address that a whole text denotes by itself. -/
def parse? (cs : List Char) : Option SocketAddress :=
  ofV4? cs <|> ofV6? cs

def chars : SocketAddress → List Char
  | v4 ip port => ip.chars ++ ':' :: Nat.toDigits 10 port.toNat
  | v6 ip scope port =>
    '[' :: ip.chars ++ (if scope = 0 then [] else '%' :: Nat.toDigits 10 scope.toNat)
      ++ ']' :: ':' :: Nat.toDigits 10 port.toNat

/-- The address of a host whose name is itself an address, with its port. -/
def ofHost? (host : List Char) (port : UInt16) : Option SocketAddress :=
  (Address.Ipv4.loose? host).map (.v4 · port) <|> do
    let (ip, rest) ← Address.Ipv6.read? host
    match ← scope? rest with
    | (scope, []) => return .v6 ip scope port
    | _ => none

/-- Why a text denotes no address with a port. -/
inductive Refusal where
  /-- There is no colon in front of a port. -/
  | noPort
  /-- The port is no number of sixteen bits. -/
  | badPort
  /-- The name of the host has a NUL in it. -/
  | nulInHost
  /-- The name of the host is no address and would have to be looked up. -/
  | unknownHost
  deriving DecidableEq

def Refusal.message : Refusal → String
  | noPort => "invalid socket address"
  | badPort => "invalid port value"
  | nulInHost => "file name contained an unexpected NUL byte"
  | unknownHost => "failed to lookup address information: Name or service not known"

/-- The address that the name of a host and a port denote, the two on either side of the last colon. A
plus sign may stand in front of the port. -/
def ofName (cs : List Char) : Except Refusal SocketAddress :=
  match Text.splitOnceLast ':' cs with
  | none => .error .noPort
  | some (host, port) =>
    match Address.port? (Text.dropPrefix ['+'] port) with
    | none => .error .badPort
    | some port =>
      if '\x00' ∈ host then .error .nulInHost
      else
        match ofHost? host port with
        | some address => .ok address
        | none => .error .unknownHost

def parse (cs : List Char) : Except Refusal SocketAddress :=
  match parse? cs with
  | some address => .ok address
  | none => ofName cs

end SocketAddress

/-- The address of a listener. -/
inductive Endpoint where
  | tcp (address : SocketAddress)
  | local (path : String)
  deriving DecidableEq

namespace Endpoint

/-- The endpoint that a text denotes, or the text without white space around it and the reason why it
denotes none. -/
def parse (text : String) : Except (String × String) Endpoint :=
  let raw := Text.trim text.toList
  let refuse (reason : String) : Except (String × String) Endpoint := .error (String.ofList raw, reason)
  match Text.afterPrefix? "tcp://".toList raw with
  | some address =>
    match SocketAddress.parse address with
    | .ok address => .ok (.tcp address)
    | .error refusal => refuse refusal.message
  | none =>
    match Text.afterPrefix? "ipc://".toList raw <|> Text.afterPrefix? "unix://".toList raw with
    | none => refuse "expected tcp://, ipc:// or unix://"
    | some [] => refuse "empty socket path"
    | some path => .ok (.local (String.ofList path))

def text : Endpoint → String
  | tcp address => "tcp://" ++ String.ofList address.chars
  | .local path => "ipc://" ++ path

end Endpoint

end EventBus
