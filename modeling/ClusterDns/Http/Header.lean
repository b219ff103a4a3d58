/-! Names and values of header fields. -/

namespace ClusterDns.Http

def isTokenChar (c : Char) : Bool :=
  c.isAlphanum || "!#$%&'*+-.^_`|~".toList.contains c

/-- A name is a token, and no longer than the length of one can be told. -/
def isHeaderName (name : String) : Bool :=
  name.toList.all isTokenChar && 1 ≤ name.length && name.length ≤ 65535

/-- A value holds no control character but the tab. -/
def isHeaderValue (value : String) : Bool :=
  value.toList.all fun c => (0x20 ≤ c.toNat && c.toNat ≠ 0x7F) || c == '\t'

structure Header where
  name : String
  value : String
  deriving DecidableEq

end ClusterDns.Http
