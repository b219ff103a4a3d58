import ClusterDns.Url.Basic
import ClusterDns.Url.DomainName

/-! Hosts as they stand in URLs: names, and addresses in several spellings. Only URLs with a special
scheme have their names read; other hosts are kept as they are. -/

namespace ClusterDns.Url

inductive ParseError where
  | noBase
  | emptyHost
  | invalidPort
  | invalidIpv4
  | invalidIpv6
  | invalidDomain
  | invalidHostChar
  deriving DecidableEq

def ParseError.message : ParseError → String
  | noBase => "relative URL without a base"
  | emptyHost => "empty host"
  | invalidPort => "invalid port number"
  | invalidIpv4 => "invalid IPv4 address"
  | invalidIpv6 => "invalid IPv6 address"
  | invalidDomain => "invalid international domain name"
  | invalidHostChar => "invalid domain character"

namespace Host

/-- One number of an address: in base 16 behind `0x`, in base 8 behind a zero, else in base 10. -/
def number? : List Char → Option Nat
  | [] => none
  | ['0', 'x'] => some 0
  | ['0', 'X'] => some 0
  | '0' :: 'x' :: digits => Text.numeral? 16 digits
  | '0' :: 'X' :: digits => Text.numeral? 16 digits
  | '0' :: d :: digits => Text.numeral? 8 (d :: digits)
  | digits => Text.numeral? 10 digits

/-- The parts of a name between its dots; one dot at the end does not count. -/
def parts (name : List Char) : List (List Char) :=
  let all := Text.splitOn (· == '.') name
  if 1 < all.length && all.getLast? == some [] then all.dropLast else all

/-- Whether a name means an address, which its last part tells. -/
def endsInNumber (name : List Char) : Bool :=
  match (parts name).getLast? with
  | none | some [] => false
  | some last => last.all Text.isDigit || (number? last).isSome

/-- The address that up to four numbers write, of which the last one fills what the others leave. -/
def address? (numbers : List Nat) : Option Net.Ipv4 :=
  match numbers.reverse with
  | [] => none
  | last :: front =>
    let left := Nat.pow 256 (4 - front.length)
    if front.length ≤ 3 && front.all (· < 256) && last < left then
      some (.ofNat (front.reverse.foldl (fun n k => n * 256 + k) 0 * left + last))
    else none

def ipv4? (name : List Char) : Option Net.Ipv4 := ((parts name).mapM number?).bind address?

/-- An address in brackets. -/
def bracketed (rest : List Char) : Except ParseError Host :=
  match (if rest.getLast? == some ']' then Net.Ipv6.parse? rest.dropLast else none) with
  | some address => .ok (.ipv6 address)
  | none => .error .invalidIpv6

def ofName (name : List Char) : Except ParseError Host :=
  if name.isEmpty then .error .emptyHost
  else if endsInNumber name then
    match ipv4? name with
    | some address => .ok (.ipv4 address)
    | none => .error .invalidIpv4
  else .ok (.name (String.ofList name))

/-- Characters that a host kept as it is may not have. -/
def isForbidden (c : Char) : Bool :=
  c.toNat == 0 || c == ' ' || c == '#' || c == '/' || c == ':' || c == '<' || c == '>' || c == '?'
    || c == '@' || c == '[' || c == '\\' || c == ']' || c == '^' || c == '|'

def parse (isSpecial : Bool) (s : List Char) : Except ParseError Host :=
  match s, isSpecial with
  | '[' :: rest, _ => bracketed rest
  | s, true =>
    match DomainName.ofBytes? (Percent.decode s) with
    | some ascii => ofName ascii
    | none => .error .invalidDomain
  | s, false =>
    if s.any isForbidden then .error .invalidHostChar
    else .ok (.name (Percent.encode Percent.controls s))

end Host

end ClusterDns.Url
