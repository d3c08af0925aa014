import EventBus.Endpoint
import EventBus.Error.Io
import EventBus.Trial.FileTree.Standard

/-!
# Endpoints where nobody listens

Why a connection to an endpoint does not come about on a system that has local sockets, but no network
interface that is up: no route leads anywhere, not even back to the system itself.
-/

namespace EventBus.Trial

/-- Why an address is not reached without a network interface. -/
def withoutRoute : SocketAddress → IoError
  | .v4 .. => .noRoute
  | .v6 ip scope _ =>
    let first := ip.groups.headD 0
    let isMulticast := first &&& 0xFF00 = 0xFF00
    let isLinkLocal := first &&& 0xFFC0 = 0xFE80
    -- an IPv4-mapped address is treated as the IPv4 address that it carries
    if (Address.Ipv6.mappedIpv4? ip.groups).isSome || isMulticast then .noRoute
    else if isLinkLocal && scope = 0 then .invalidArgument
    else .noLocalAddress

/-- How many bytes the path of a socket may have. -/
def maxSocketPath : Nat := 107

/-- Why nobody is reached at a path where no socket is: a walk that does not get there has its own reason,
and what stands there takes no connection. -/
def withoutSocket (path : String) : IoError :=
  if '\x00' ∈ path.toList then .nulInPath
  else if maxSocketPath < path.utf8ByteSize then .pathTooLong
  else
    match FileTree.standard.find workingDirectory path with
    | .error reason => reason
    | .ok (.directory _ true) => .notPermitted
    | .ok _ => .refused

/-- Why nobody is reached at an endpoint where nobody listens. -/
def unreachable : Endpoint → IoError
  | .tcp address => withoutRoute address
  | .local path => withoutSocket path

end EventBus.Trial
