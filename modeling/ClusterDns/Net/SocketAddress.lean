import ClusterDns.Net.Ipv6

/-! Socket addresses: an IP address and a port. An IPv6 address stands in brackets and may name the
zone it belongs to. -/

namespace ClusterDns.Net

inductive SocketAddress where
  | v4 (address : Ipv4) (port : Nat)
  | v6 (address : Ipv6) (zone : Nat) (port : Nat)

namespace SocketAddress

def bounded? (bound : Nat) (digits : List Char) : Option Nat :=
  if digits.all Text.isDigit then (Text.decimal? digits).filter (· < bound) else none

def parseV4? (s : List Char) : Option SocketAddress :=
  match Text.cutAt (· == ':') s with
  | (address, some port) => do
    return .v4 (← Ipv4.parse? address) (← bounded? 65536 port)
  | _ => none

def parseV6? (s : List Char) : Option SocketAddress :=
  match s with
  | '[' :: rest =>
    match Text.cutAt (· == ']') rest with
    | (inside, some (':' :: port)) => do
      let port ← bounded? 65536 port
      match Text.cutAt (· == '%') inside with
      | (address, none) => return .v6 (← Ipv6.parse? address) 0 port
      | (address, some zone) =>
        return .v6 (← Ipv6.parse? address) (← bounded? 4294967296 zone) port
    | _ => none
  | _ => none

def parse? (s : String) : Option SocketAddress :=
  (parseV4? s.toList).or (parseV6? s.toList)

/-- Zone zero is the default and is not written. -/
def render : SocketAddress → String
  | .v4 address port => s!"{address.render}:{port}"
  | .v6 address 0 port => s!"[{address.renderMapped}]:{port}"
  | .v6 address zone port => s!"[{address.renderMapped}%{zone}]:{port}"

end SocketAddress

end ClusterDns.Net
