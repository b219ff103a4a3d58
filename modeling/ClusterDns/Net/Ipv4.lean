import ClusterDns.Text.Split
import ClusterDns.Text.Numeral

/-! IPv4 addresses and the one way to write them: four numbers below 256, in decimal without leading
zeros, with a dot between each two. -/

namespace ClusterDns.Net

structure Ipv4 where
  a : Fin 256
  b : Fin 256
  c : Fin 256
  d : Fin 256
  deriving DecidableEq

namespace Ipv4

/-- One number of the dotted form. -/
def octet? (digits : List Char) : Option (Fin 256) :=
  if digits.length ≤ 3 && digits.all Text.isDigit
    && (digits.length == 1 || digits.head? != some '0')
  then (Text.decimal? digits).bind fun n => if h : n < 256 then some ⟨n, h⟩ else none
  else none

def parse? (s : List Char) : Option Ipv4 :=
  match Text.splitOn (· == '.') s with
  | [a, b, c, d] => return ⟨← octet? a, ← octet? b, ← octet? c, ← octet? d⟩
  | _ => none

def render (address : Ipv4) : String :=
  s!"{address.a}.{address.b}.{address.c}.{address.d}"

/-- The address as one number of 32 bits. -/
def toNat (address : Ipv4) : Nat :=
  ((address.a.val * 256 + address.b.val) * 256 + address.c.val) * 256 + address.d.val

def ofNat (n : Nat) : Ipv4 :=
  ⟨Fin.ofNat 256 (n / 16777216), Fin.ofNat 256 (n / 65536), Fin.ofNat 256 (n / 256),
    Fin.ofNat 256 n⟩

/-- Whether a text is an address in dotted form. -/
def isLiteral (s : String) : Bool := (parse? s.toList).isSome

end Ipv4

end ClusterDns.Net
